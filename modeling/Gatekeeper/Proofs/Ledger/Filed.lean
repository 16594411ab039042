import Gatekeeper.Ledger.Call
import Gatekeeper.Proofs.Roster

/-!
# `Gatekeeper.Proofs.Ledger.Filed`: every record stands under its own id

The ledger keeps records in rosters, and a record names its id as well. `Ledger.Filed` is
the invariant that the two agree. It holds of the empty ledger, and every update keeps
it: an update of one record puts it under its own id, and a bulk update changes no id.
Updates that look a connection up under the id that its record names rely on it.
-/

set_option autoImplicit false

namespace Gatekeeper

open Gatekeeper.Ledger

/-! ### One roster -/

namespace Roster

variable {α : Type}

/-- What is found under a key names that key. -/
def KeyedBy (idOf : α → String) (roster : Roster String α) : Prop :=
  ∀ id record, roster.find? id = some record → idOf record = id

variable {idOf : α → String} {roster : Roster String α}

/-- A roster without entries has none under a wrong key. -/
theorem keyedBy_empty : (empty : Roster String α).KeyedBy idOf := nofun

/-- Values that keep their ids stay where they belong. -/
theorem KeyedBy.mapValues (h : roster.KeyedBy idOf) {f : String → α → α}
    (hf : ∀ id record, idOf (f id record) = idOf record) : (roster.mapValues f).KeyedBy idOf := by
  intro id record hfind
  rw [find?_mapValues, Option.map_eq_some_iff] at hfind
  obtain ⟨old, hold, rfl⟩ := hfind
  rw [hf, h id old hold]

/-- Removing entries leaves the others under their keys. -/
theorem KeyedBy.filter (h : roster.KeyedBy idOf) (keep : String → α → Bool) :
    (roster.filter keep).KeyedBy idOf := by
  intro id record hfind
  rw [find?_filter, Option.filter_eq_some_iff] at hfind
  exact h id record hfind.1

/-- An entry may be set under its own id. -/
theorem KeyedBy.set (h : roster.KeyedBy idOf) {id : String} {record : α}
    (hid : idOf record = id) : (roster.set id record).KeyedBy idOf := by
  intro other found hfind
  rw [find?_set] at hfind
  split at hfind
  next heq =>
    cases hfind
    exact hid.trans heq.symm
  next => exact h other found hfind

/-- An entry may be added under its own id. -/
theorem KeyedBy.add (h : roster.KeyedBy idOf) (record : α) :
    (roster.add (idOf record) record).2.KeyedBy idOf := by
  intro other found hfind
  rw [find?_add] at hfind
  split at hfind
  next heq =>
    -- A key that is there keeps the value that it has.
    cases hold : roster.find? (idOf record) with
    | none =>
      rw [hold] at hfind
      cases hfind
      exact heq.symm
    | some old =>
      rw [hold] at hfind
      cases hfind
      exact (h _ _ hold).trans heq.symm
  next => exact h other found hfind

/-- The ids that the values name are the keys, so they differ pairwise. -/
theorem KeyedBy.map_values (h : roster.KeyedBy idOf) : roster.values.map idOf = roster.keys := by
  rw [values, keys, List.map_map]
  apply List.map_congr_left
  rintro ⟨id, record⟩ hmem
  exact h id record (find?_eq_some_iff.mpr hmem)

end Roster

/-! ### The ledger -/

namespace Ledger

/-- Every record stands under its own id. -/
structure Filed (ledger : Ledger) : Prop where
  connections : ledger.connections.KeyedBy (·.id)
  producers : ledger.producers.KeyedBy (·.id)
  consumers : ledger.consumers.KeyedBy (·.id)
  poison : ledger.poison.KeyedBy (·.id)

/-- The empty ledger has all its records under their ids. -/
theorem filed_empty : empty.Filed where
  connections := Roster.keyedBy_empty
  producers := Roster.keyedBy_empty
  consumers := Roster.keyedBy_empty
  poison := Roster.keyedBy_empty

variable {ledger : Ledger}

/-! #### Updates of one record -/

/-- A connection is stored under its own id. -/
theorem Filed.upsertConnection (h : ledger.Filed) (record : Connection) :
    (ledger.upsertConnection record).Filed :=
  { h with connections := h.connections.set rfl }

/-- A heartbeat changes the time of its connection, if there is one, and nothing else. -/
theorem snd_callHeartbeat_calm (ledger : Ledger) (id : String) (at_ : Timestamp) :
    (ledger.callHeartbeat .calm id at_).2 =
      { ledger with
        connections := ledger.connections.mapValues fun key record =>
          if key = id then { record with lastHeartbeat := at_ } else record } := by
  rw [callHeartbeat, guarded, Conditions.calm, heartbeat?]
  cases hfind : ledger.connections.find? id with
  | none =>
    have hkeep : (ledger.connections.mapValues fun key record =>
        if key = id then { record with lastHeartbeat := at_ } else record) =
          ledger.connections := by
      refine Roster.mapValues_eq_self fun key record hmem => if_neg ?_
      rintro rfl
      cases hfind.symm.trans (Roster.find?_eq_some_iff.mpr hmem)
    rw [hkeep]
    rfl
  | some found =>
    dsimp only [Option.map_some]
    rw [Roster.set_eq_mapValues _ hfind]
    congr 1
    refine Roster.mapValues_congr fun key record hmem => ?_
    split
    next hkey =>
      -- It is the record that was found.
      subst hkey
      cases hfind.symm.trans (Roster.find?_eq_some_iff.mpr hmem)
      rfl
    next => rfl

/-- A sign of life changes a record's time, never its id. -/
theorem Filed.callHeartbeat (h : ledger.Filed) (id : String) (at_ : Timestamp) :
    (ledger.callHeartbeat .calm id at_).2.Filed := by
  rw [snd_callHeartbeat_calm]
  refine { h with connections := h.connections.mapValues fun key record => ?_ }
  split <;> rfl

/-- A producer is stored under its own id, if at all. -/
theorem Filed.insertProducer (h : ledger.Filed) (record : Child) :
    (ledger.insertProducer record).2.Filed := by
  have hadd := h.producers.add record
  unfold Ledger.insertProducer
  split
  next producers heq =>
    rw [heq] at hadd
    exact { h with producers := hadd }
  next => exact h

/-- A consumer is stored under its own id, if at all. -/
theorem Filed.insertConsumer (h : ledger.Filed) (record : Child) :
    (ledger.insertConsumer record).2.Filed := by
  have hadd := h.consumers.add record
  unfold Ledger.insertConsumer
  split
  next consumers heq =>
    rw [heq] at hadd
    exact { h with consumers := hadd }
  next => exact h

/-- A message is stored under its own id, if at all. -/
theorem Filed.insertPoison (h : ledger.Filed) (record : PoisonMessage) :
    (ledger.insertPoison record).2.Filed := by
  have hadd := h.poison.add record
  unfold Ledger.insertPoison
  split
  next poison heq =>
    rw [heq] at hadd
    exact { h with poison := hadd }
  next => exact h

/-! #### Bulk updates -/

/-- Turning connections inactive leaves each under its id. The induction is on the connections to be
turned. -/
theorem Filed.retireConnections (h : ledger.Filed) (cutoff : Timestamp) (ids : List String) :
    (ledger.retireConnections cutoff ids).2.Filed := by
  induction ids generalizing ledger with
  | nil => exact h
  | cons id rest ih =>
    rw [Ledger.retireConnections]
    split
    next record hfind =>
      split
      · exact ih { h with connections := h.connections.set (h.connections id record hfind) }
      · exact ih h
    next => exact ih h

/-- Turning children inactive leaves each under its id. -/
theorem keyedBy_retireOwned {children : Roster String Child} (h : children.KeyedBy (·.id))
    (owners : List String) : (retireOwned owners children).2.KeyedBy (·.id) := by
  apply h.mapValues
  intro id record
  split <;> rfl

/-- So the update of both kinds of children does. -/
theorem Filed.retireChildren (h : ledger.Filed) (owners : List String) :
    (ledger.retireChildren owners).2.Filed :=
  { h with
    producers := keyedBy_retireOwned h.producers owners
    consumers := keyedBy_retireOwned h.consumers owners }

/-- The repair of orphans is such an update. -/
theorem Filed.retireOrphans (h : ledger.Filed) : ledger.retireOrphans.2.Filed := by
  unfold Ledger.retireOrphans
  split
  · exact h
  · exact h.retireChildren _

/-- A purge only removes messages. -/
theorem Filed.purge (h : ledger.Filed) (horizon : Timestamp) : (ledger.purge horizon).2.Filed :=
  { h with poison := h.poison.filter _ }

end Ledger

end Gatekeeper
