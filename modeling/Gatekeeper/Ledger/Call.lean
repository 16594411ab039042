import Gatekeeper.Ledger.Basic

/-!
# `Gatekeeper.Ledger.Call`: ledger calls that may fail

Callers reach the ledger through calls, and a call may fail for reasons of its own
or because the storage behind it is out of order. A failing call changes nothing.

* `Fault`: why a call failed.
* `Conditions`: which calls are out of order.
* the calls, one function each.
-/

set_option autoImplicit false

namespace Gatekeeper.Ledger

/-- Why a call failed. -/
inductive Fault where
  | notFound (what : String)
  | conflict (what : String)
  | unexpected (reason : String)
  deriving DecidableEq, Repr

/-- The wording of a fault. -/
def Fault.message : Fault → String
  | .notFound what => s!"not found: {what}"
  | .conflict what => s!"conflict: {what}"
  | .unexpected reason => reason

/-- The calls that depend on storage being in order. -/
inductive Call where
  | upsertConnection
  | recordHeartbeat
  | findStale
  | deactivateConnections
  | deactivateChildren
  | deactivateOrphans
  | purgePoison
  | healthCheck
  deriving DecidableEq, Repr

/-- The calls that depend on storage being in order, each once. -/
def Call.all : List Call :=
  [.upsertConnection, .recordHeartbeat, .findStale, .deactivateConnections, .deactivateChildren,
    .deactivateOrphans, .purgePoison, .healthCheck]

/-- The name of a call in diagnostics. -/
def Call.name : Call → String
  | .upsertConnection => "upsert_connection"
  | .recordHeartbeat => "record_heartbeat"
  | .findStale => "find_stale_connections"
  | .deactivateConnections => "deactivate_connections"
  | .deactivateChildren => "deactivate_children"
  | .deactivateOrphans => "deactivate_orphaned_children"
  | .purgePoison => "purge_poison_messages"
  | .healthCheck => "health_check"

/-- The conditions under which calls run. -/
structure Conditions where
  /-- The calls that are out of order, and how they fail. -/
  failing : Call → Option Fault

namespace Conditions

/-- Everything is in order. -/
def calm : Conditions := ⟨fun _ => none⟩

/-- The given calls are out of order. -/
def failures (failing : Call → Option Fault) : Conditions := ⟨failing⟩

/-- The conditions with one call put out of order, or back in order. -/
def setFailure (conditions : Conditions) (call : Call) (fault : Option Fault) : Conditions :=
  ⟨fun c => if c = call then fault else conditions.failing c⟩

end Conditions

/-- What a call answers, and the ledger after it. -/
abbrev Outcome (α : Type) := Except Fault α × Ledger

variable (conditions : Conditions)

/-- A call that depends on storage: its own answer if storage is in order. -/
def guarded {α : Type} (call : Call) (ledger : Ledger) (body : Outcome α) : Outcome α :=
  match conditions.failing call with
  | some fault => (.error fault, ledger)
  | none => body

/-! ### Calls of clients -/

/-- Inserts or replaces a connection. -/
def callUpsert (ledger : Ledger) (record : Connection) : Outcome Unit :=
  guarded conditions .upsertConnection ledger (.ok (), ledger.upsertConnection record)

/-- Notes that a connection was heard of; tells whether it counts as live. -/
def callHeartbeat (ledger : Ledger) (id : String) (at_ : Timestamp) : Outcome Bool :=
  guarded conditions .recordHeartbeat ledger <|
    match ledger.heartbeat? id at_ with
    | some (isActive, ledger) => (.ok isActive, ledger)
    | none => (.error (.notFound s!"connection {id}"), ledger)

/-- The connection under an id. -/
def getConnection (ledger : Ledger) (id : String) : Except Fault Connection :=
  match ledger.connections.find? id with
  | some record => .ok record
  | none => .error (.notFound s!"connection {id}")

/-- The producer under an id. -/
def getProducer (ledger : Ledger) (id : String) : Except Fault Child :=
  match ledger.producers.find? id with
  | some record => .ok record
  | none => .error (.notFound s!"producer {id}")

/-- The consumer under an id. -/
def getConsumer (ledger : Ledger) (id : String) : Except Fault Child :=
  match ledger.consumers.find? id with
  | some record => .ok record
  | none => .error (.notFound s!"consumer {id}")

/-- Inserts a producer whose id is new. -/
def insertProducer (ledger : Ledger) (record : Child) : Outcome Unit :=
  match ledger.producers.add record.id record with
  | (true, producers) => (.ok (), { ledger with producers })
  | (false, _) => (.error (.conflict s!"producer {record.id}"), ledger)

/-- Inserts a consumer whose id is new. -/
def insertConsumer (ledger : Ledger) (record : Child) : Outcome Unit :=
  match ledger.consumers.add record.id record with
  | (true, consumers) => (.ok (), { ledger with consumers })
  | (false, _) => (.error (.conflict s!"consumer {record.id}"), ledger)

/-- Inserts a poison message whose id is new. -/
def insertPoison (ledger : Ledger) (record : PoisonMessage) : Outcome Unit :=
  match ledger.poison.add record.id record with
  | (true, poison) => (.ok (), { ledger with poison })
  | (false, _) => (.error (.conflict s!"poison message {record.id}"), ledger)

/-! ### Calls of sweeps -/

/-- The stale connections. -/
def callFindStale (ledger : Ledger) (cutoff : Timestamp) : Outcome (List String) :=
  guarded conditions .findStale ledger (.ok (ledger.stale cutoff), ledger)

/-- Turns the listed connections inactive that are stale. -/
def callDeactivateConnections (ledger : Ledger) (ids : List String) (cutoff : Timestamp) :
    Outcome (List String) :=
  guarded conditions .deactivateConnections ledger <|
    let (retired, ledger) := ledger.retireConnections cutoff ids
    (.ok retired, ledger)

/-- Turns the live children of the owners inactive. -/
def callDeactivateChildren (ledger : Ledger) (owners : List String) : Outcome ChildCounts :=
  guarded conditions .deactivateChildren ledger <|
    let (counts, ledger) := ledger.retireChildren owners
    (.ok counts, ledger)

/-- Turns the live children of all inactive connections inactive. -/
def callDeactivateOrphans (ledger : Ledger) : Outcome ChildCounts :=
  guarded conditions .deactivateOrphans ledger <|
    let (counts, ledger) := ledger.retireOrphans
    (.ok counts, ledger)

/-- Removes the messages from before the horizon. -/
def callPurge (ledger : Ledger) (horizon : Timestamp) : Outcome Nat :=
  guarded conditions .purgePoison ledger <|
    let (count, ledger) := ledger.purge horizon
    (.ok count, ledger)

/-- Whether storage is in order. -/
def callHealthCheck : Except Fault Unit :=
  match conditions.failing .healthCheck with
  | some fault => .error fault
  | none => .ok ()

end Gatekeeper.Ledger
