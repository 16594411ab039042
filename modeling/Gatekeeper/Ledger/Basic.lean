import Gatekeeper.Ledger.Record
import Gatekeeper.Roster

/-!
# `Gatekeeper.Ledger.Basic`: the stored records and their updates

The ledger holds four collections. Each function here reads or writes one of them
in one step; nothing else can come between its parts. A record only ever turns
inactive, except that an upsert may replace a connection.

These are the records in memory. A server that keeps them in a database starts from what the
database has (`Startup.openLedger`); the statements that a database is asked are left out.

* `stale`, `inactiveIds`: the queries that a sweep starts from.
* `retireConnections`, `retireChildren`, `purge`: the bulk updates.
* `upsertConnection`, `heartbeat?`, `insert?`: the updates of one record.
-/

set_option autoImplicit false

namespace Gatekeeper

open Gatekeeper.Ledger

/-- The stored records, each under its own id. -/
structure Ledger where
  connections : Roster String Connection
  producers : Roster String Child
  consumers : Roster String Child
  poison : Roster String PoisonMessage

namespace Ledger

/-- The ledger without records. -/
def empty : Ledger := ⟨.empty, .empty, .empty, .empty⟩

/-- Records in memory are gone when the program ends. -/
def isDurable : Bool := false

/-- What this kind of storage is called. -/
def backendName : String := "memory"

/-! ### One record -/

/-- Inserts or replaces a connection. -/
def upsertConnection (ledger : Ledger) (record : Connection) : Ledger :=
  { ledger with connections := ledger.connections.set record.id record }

/-- Notes that a connection was heard of; tells whether it counts as live. There is
no effect on a connection that is not in the ledger. -/
def heartbeat? (ledger : Ledger) (id : String) (at_ : Timestamp) : Option (Bool × Ledger) :=
  (ledger.connections.find? id).map fun record =>
    (record.isActive,
      { ledger with connections := ledger.connections.set id { record with lastHeartbeat := at_ } })

/-! ### Connections in bulk -/

/-- Whether a connection counts as live but was last heard of before the cutoff. -/
def Connection.isStale (record : Connection) (cutoff : Timestamp) : Bool :=
  record.isActive && record.lastHeartbeat < cutoff

/-- The ids of the stale connections, in ascending order. -/
def stale (ledger : Ledger) (cutoff : Timestamp) : List String :=
  ((ledger.connections.values.filter (·.isStale cutoff)).map (·.id)).mergeSort (· ≤ ·)

/-- Turns the listed connections inactive that are stale, one after another; yields
the ids of those it turned. -/
def retireConnections (ledger : Ledger) (cutoff : Timestamp) :
    List String → List String × Ledger
  | [] => ([], ledger)
  | id :: rest =>
    match ledger.connections.find? id with
    | some record =>
      if record.isStale cutoff then
        let (ids, ledger) := retireConnections
          { ledger with connections := ledger.connections.set id { record with isActive := false } }
          cutoff rest
        (id :: ids, ledger)
      else retireConnections ledger cutoff rest
    | none => retireConnections ledger cutoff rest

/-- The ids of the connections that do not count as live. -/
def inactiveIds (ledger : Ledger) : List String :=
  (ledger.connections.values.filter (!·.isActive)).map (·.id)

/-! ### Producers and consumers in bulk -/

/-- Whether a child counts as live and belongs to one of the owners. -/
def Child.isOwned (record : Child) (owners : List String) : Bool :=
  record.isActive && record.connection ∈ owners

/-- Turns the live children of the owners inactive; yields how many it turned. -/
def retireOwned (owners : List String) (children : Roster String Child) :
    Nat × Roster String Child :=
  (children.values.countP (·.isOwned owners),
    children.mapValues fun _ record =>
      if record.isOwned owners then { record with isActive := false } else record)

/-- Turns the live producers of the owners inactive. -/
def retireProducers (ledger : Ledger) (owners : List String) : Nat × Ledger :=
  let (count, producers) := retireOwned owners ledger.producers
  (count, { ledger with producers })

/-- Turns the live consumers of the owners inactive. -/
def retireConsumers (ledger : Ledger) (owners : List String) : Nat × Ledger :=
  let (count, consumers) := retireOwned owners ledger.consumers
  (count, { ledger with consumers })

/-- How many producers and consumers an update turned inactive. -/
structure ChildCounts where
  producers : Nat
  consumers : Nat
  deriving DecidableEq, Repr

/-- No children at all. -/
def ChildCounts.zero : ChildCounts := ⟨0, 0⟩

/-- Producers and consumers together. -/
def ChildCounts.total (counts : ChildCounts) : Nat := counts.producers + counts.consumers

/-- Turns the live children of the owners inactive, producers before consumers. -/
def retireChildren (ledger : Ledger) (owners : List String) : ChildCounts × Ledger :=
  let (producers, ledger) := ledger.retireProducers owners
  let (consumers, ledger) := ledger.retireConsumers owners
  (⟨producers, consumers⟩, ledger)

/-- Turns the live children of all inactive connections inactive. -/
def retireOrphans (ledger : Ledger) : ChildCounts × Ledger :=
  match ledger.inactiveIds with
  | [] => (.zero, ledger)
  | owners => ledger.retireChildren owners

/-! ### Poison messages in bulk -/

/-- The messages, oldest first, those of one time by id. -/
def poisonMessages (ledger : Ledger) : List PoisonMessage :=
  ledger.poison.values.mergeSort fun a b =>
    a.createdAt < b.createdAt || (!(b.createdAt < a.createdAt) && a.id ≤ b.id)

/-- Removes the messages from before the horizon; yields how many it removed. -/
def purge (ledger : Ledger) (horizon : Timestamp) : Nat × Ledger :=
  (ledger.poison.values.countP (·.createdAt < horizon),
    { ledger with poison := ledger.poison.filter fun _ record => !(record.createdAt < horizon) })

end Ledger

end Gatekeeper
