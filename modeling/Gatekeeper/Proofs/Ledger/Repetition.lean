import Gatekeeper.Proofs.Ledger.Changes
import Mathlib.Data.List.Basic

/-!
# `Gatekeeper.Proofs.Ledger.Repetition`: bulk updates made again, reordered or split

A sweep that was interrupted starts over, and then it repeats updates that were made already or
makes them for lists with other ids in them. This does no harm: a record that an update has turned
counts no more, so the update leaves it alone from then on.

`Repeatable` says it of an update over a list of ids. Making it again does nothing and answers
that nothing was done, neither order nor repetition of the ids matters to the ledger, and a
list may be split in two.

* `repeatable_retireConnections`, `repeatable_retireChildren`: the two updates over lists.
* `retireOrphans_retireOrphans`, `purge_purge`: the two updates without a list.
* `repeatable_updates`: what each update does to each record, and that it is repeatable.
-/

set_option autoImplicit false

namespace Gatekeeper.Ledger

open Gatekeeper.Text.Utf8

variable {ledger : Ledger}

/-- The update may be made again, for its ids in any order, and in parts. `nothing` is its answer
if there is nothing to do, and `join` puts the answers of the parts together. -/
structure Repeatable {α : Type} (update : List String → Ledger → α × Ledger) (nothing : α)
    (join : α → α → α) : Prop where
  again : ∀ ids ledger, update ids (update ids ledger).2 = (nothing, (update ids ledger).2)
  order : ∀ {xs ys}, (∀ id, id ∈ xs ↔ id ∈ ys) → ∀ ledger,
    (update xs ledger).2 = (update ys ledger).2
  append : ∀ xs ys ledger, update (xs ++ ys) ledger =
    (join (update xs ledger).1 (update ys (update xs ledger).2).1,
      (update ys (update xs ledger).2).2)

/-- Made again, an update leaves the ledger alone if order and repetition do not matter and lists
may be split: the list twice over has no other ids in it. -/
theorem snd_again {α : Type} {update : List String → Ledger → α × Ledger} {join : α → α → α}
    (horder : ∀ {xs ys}, (∀ id, id ∈ xs ↔ id ∈ ys) → ∀ ledger,
      (update xs ledger).2 = (update ys ledger).2)
    (happend : ∀ xs ys ledger, update (xs ++ ys) ledger =
      (join (update xs ledger).1 (update ys (update xs ledger).2).1,
        (update ys (update xs ledger).2).2))
    (ids : List String) (ledger : Ledger) :
    (update ids (update ids ledger).2).2 = (update ids ledger).2 := by
  have htwice : (update (ids ++ ids) ledger).2 = (update ids ledger).2 :=
    horder (fun id => by rw [List.mem_append, or_self]) ledger
  rw [happend] at htwice
  exact htwice

/-! ### Connections -/

/-- A connection that is stale by a cutoff is turned off, and any other one stays as it is. -/
theorem Connection.liveFrom_eq (record : Connection) (cutoff : Timestamp) :
    record.liveFrom cutoff = if record.isStale cutoff = true then record.off else record := by
  split
  next hstale => exact liveFrom_of_isStale hstale
  next hstale => exact liveFrom_of_not_isStale (Bool.eq_false_iff.mpr hstale)

/-- The listed connections that are stale are turned, and no others. -/
theorem find?_retireConnections (cutoff : Timestamp) (ids : List String) (id : String) :
    (ledger.retireConnections cutoff ids).2.connections.find? id =
      (ledger.connections.find? id).map fun record =>
        if id ∈ ids ∧ record.isStale cutoff = true then record.off else record := by
  rw [retireConnections_eq, Roster.find?_mapValues]
  congr 1
  funext record
  rw [Connection.liveFrom_eq]
  by_cases hid : id ∈ ids <;> simp [hid]

/-- The answer lists them in the order in which the ids come first. -/
theorem pairwise_retireConnections (cutoff : Timestamp) (ids : List String) :
    (ledger.retireConnections cutoff ids).1.Pairwise fun a b => ids.idxOf a < ids.idxOf b := by
  induction ids generalizing ledger with
  | nil => exact .nil
  | cons id rest ih =>
    -- What the rest of the list yields comes in the same order with `id` in front of the list.
    have hrest : ∀ ledger : Ledger, id ∉ (ledger.retireConnections cutoff rest).1 →
        (ledger.retireConnections cutoff rest).1.Pairwise
          fun a b => (id :: rest).idxOf a < (id :: rest).idxOf b := by
      intro ledger hnot
      refine ih.imp_of_mem fun {a b} ha hb hlt => ?_
      have hane : id ≠ a := fun h => hnot (h ▸ ha)
      have hbne : id ≠ b := fun h => hnot (h ▸ hb)
      rw [List.idxOf_cons_ne _ hane, List.idxOf_cons_ne _ hbne]
      exact Nat.succ_lt_succ hlt
    rw [retireConnections]
    cases hfind : ledger.connections.find? id with
    | none =>
      apply hrest
      rw [mem_retireConnections_iff]
      simp [hfind]
    | some found =>
      dsimp only
      cases hstale : found.isStale cutoff with
      | false =>
        rw [if_neg Bool.false_ne_true]
        apply hrest
        rw [mem_retireConnections_iff]
        simp [hfind, hstale]
      | true =>
        rw [if_pos rfl]
        have hnot : id ∉ (retireConnections
            { ledger with
              connections := ledger.connections.set id { found with isActive := false } }
            cutoff rest).1 := by
          rw [mem_retireConnections_iff, Roster.find?_set, if_pos rfl]
          simp [Connection.isStale]
        refine List.pairwise_cons.mpr ⟨fun b hb => ?_, hrest _ hnot⟩
        have hbne : id ≠ b := fun h => hnot (h ▸ hb)
        rw [List.idxOf_cons_self, List.idxOf_cons_ne _ hbne]
        exact Nat.succ_pos _

/-- Going on with a second list is going through both lists at once. -/
theorem retireConnections_append (cutoff : Timestamp) (xs ys : List String) (ledger : Ledger) :
    ledger.retireConnections cutoff (xs ++ ys) =
      ((ledger.retireConnections cutoff xs).1 ++
          ((ledger.retireConnections cutoff xs).2.retireConnections cutoff ys).1,
        ((ledger.retireConnections cutoff xs).2.retireConnections cutoff ys).2) := by
  induction xs generalizing ledger with
  | nil => rfl
  | cons id rest ih =>
    rw [List.cons_append, retireConnections, retireConnections]
    cases hfind : ledger.connections.find? id with
    | none => exact ih ledger
    | some found =>
      dsimp only
      split
      · rw [ih]
        rfl
      · exact ih ledger

/-- No listed connection is stale after the update. -/
theorem repeatable_retireConnections (cutoff : Timestamp) :
    Repeatable (fun ids ledger => ledger.retireConnections cutoff ids) [] (· ++ ·) := by
  have horder : ∀ {xs ys : List String}, (∀ id, id ∈ xs ↔ id ∈ ys) → ∀ ledger : Ledger,
      (ledger.retireConnections cutoff xs).2 = (ledger.retireConnections cutoff ys).2 := by
    intro xs ys hsame ledger
    simp only [retireConnections_eq, hsame]
  refine ⟨fun ids ledger => Prod.ext ?_ ?_, horder, retireConnections_append cutoff⟩
  · refine List.eq_nil_iff_forall_not_mem.mpr fun id hmem => ?_
    obtain ⟨hid, record, hfind, hstale⟩ := mem_retireConnections_iff.mp hmem
    rw [find?_retireConnections, Option.map_eq_some_iff] at hfind
    obtain ⟨old, -, rfl⟩ := hfind
    -- A record that was stale was turned. One that was not is as it was, so not stale now.
    by_cases hold : old.isStale cutoff = true
    · rw [if_pos ⟨hid, hold⟩] at hstale
      cases hstale
    · rw [if_neg fun h => hold h.2] at hstale
      exact hold hstale
  · exact snd_again horder (retireConnections_append cutoff) ids ledger

/-! ### Producers and consumers -/

/-- Counts added up. -/
def ChildCounts.add (counts more : ChildCounts) : ChildCounts :=
  ⟨counts.producers + more.producers, counts.consumers + more.consumers⟩

/-- What passes a test is what passes a narrower one and what is left of it. -/
theorem countChildren_eq_add {p q r : Child → Bool}
    (hq : ∀ record, (p record && q record) = q record)
    (hr : ∀ record, (p record && !q record) = r record) (ledger : Ledger) :
    ledger.countChildren p = (ledger.countChildren q).add (ledger.countChildren r) := by
  have hsplit : ∀ records : List Child, records.countP p = records.countP q + records.countP r := by
    intro records
    rw [List.countP_eq_countP_filter_add records p q, List.countP_filter, List.countP_filter]
    simp only [hq, hr]
  rw [countChildren, hsplit, hsplit]
  rfl

/-- A child is turned inactive if it is active and one of the owners is its own. -/
theorem Child.isOwned_iff {record : Child} {owners : List String} :
    record.isOwned owners = true ↔ record.isActive = true ∧ record.connection ∈ owners := by
  simp [isOwned]

/-- The children of two lists of owners may be retired one list after the other, and the counts add
up. -/
theorem retireChildren_append (xs ys : List String) (ledger : Ledger) :
    ledger.retireChildren (xs ++ ys) =
      ((ledger.retireChildren xs).1.add ((ledger.retireChildren xs).2.retireChildren ys).1,
        ((ledger.retireChildren xs).2.retireChildren ys).2) := by
  simp only [retireChildren_eq]
  apply Prod.ext
  · dsimp only
    -- A child that belongs to owners of both lists is turned by the first, and not counted
    -- again.
    rw [countChildren_mapChildren]
    apply countChildren_eq_add
    · intro record
      by_cases hxs : record.connection ∈ xs <;> simp [Child.isOwned, hxs]
    · intro record
      by_cases hxs : record.connection ∈ xs <;> simp [Child.isOwned, Child.liveUnder, hxs]
  · dsimp only
    rw [mapChildren_mapChildren]
    congr 1
    funext record
    simp [Child.liveUnder_liveUnder]

/-- No child of a listed owner is live after the update. -/
theorem repeatable_retireChildren :
    Repeatable (fun owners ledger => ledger.retireChildren owners) .zero ChildCounts.add := by
  have horder : ∀ {xs ys : List String}, (∀ id, id ∈ xs ↔ id ∈ ys) → ∀ ledger : Ledger,
      (ledger.retireChildren xs).2 = (ledger.retireChildren ys).2 := by
    intro xs ys hsame ledger
    simp only [retireChildren_eq, hsame]
  refine ⟨fun owners ledger => Prod.ext ?_ ?_, horder, retireChildren_append⟩
  -- What the first update left live belongs to none of the owners.
  · have hnone : ∀ record : Child,
        (record.liveUnder fun id => !decide (id ∈ owners)).isOwned owners = false := by
      intro record
      by_cases howned : record.connection ∈ owners <;>
        simp [Child.isOwned, Child.liveUnder, howned]
    simp only [retireChildren_eq]
    rw [countChildren_mapChildren]
    simp [countChildren, Function.comp_def, hnone, ChildCounts.zero]
  · exact snd_again horder retireChildren_append owners ledger

/-- As many are counted as a comparison of before and after finds. -/
theorem fst_retireOwned (owners : List String) (children : Roster String Child) :
    (retireOwned owners children).1 =
      (Roster.ceased (·.isActive) children (retireOwned owners children).2).length := by
  rw [(ends_retireOwned owners children).2.perm_ceased.length_eq, Roster.length_keysWith]
  rfl

/-! ### Updates without a list -/

/-- The inactive connections are the same before and after. -/
theorem retireOrphans_retireOrphans (ledger : Ledger) :
    ledger.retireOrphans.2.retireOrphans = (.zero, ledger.retireOrphans.2) := by
  have hsame : (ledger.retireChildren ledger.inactiveIds).2.inactiveIds = ledger.inactiveIds := rfl
  rw [retireOrphans_eq_retireChildren, retireOrphans_eq_retireChildren, hsame]
  exact repeatable_retireChildren.again ledger.inactiveIds ledger

/-- What is left is not from before the horizon. -/
theorem purge_purge (ledger : Ledger) (horizon : Timestamp) :
    (ledger.purge horizon).2.purge horizon = (0, (ledger.purge horizon).2) := by
  apply Prod.ext
  · refine List.countP_eq_zero.mpr fun record hmem => ?_
    obtain ⟨entry, hentry, rfl⟩ := List.mem_map.mp hmem
    have hkeep := (List.mem_filter.mp hentry).2
    simpa using hkeep
  · simp only [purge, Roster.filter_filter, Bool.and_self]

/-! ### All bulk updates -/

/-- **Bulk updates may be made again, reordered and split.** Take any ledger, any cutoff and any
ids, known or not, with repetitions or without.

* The update of connections turns those that are listed, live and older than the cutoff, and
  nothing else. It answers with their ids, each once, in the order in which they are listed first.
* The update of children turns those that are live and belong to a listed owner, and nothing
  else. It answers with the numbers of those it turned.
* Made again, any of the four updates changes nothing and answers that there was nothing to do.
  For the two updates over lists, only the set of ids matters to the ledger, and one list after
  another is both lists at once, with answers put together.
* The ids that the query finds are strictly ascending, and the update of just these ids with the
  same cutoff answers with all of them. This is about ledgers that file records under their own
  ids, as all updates do. -/
theorem repeatable_updates (ledger : Ledger) (cutoff : Timestamp) (ids : List String) :
    (let update := ledger.retireConnections cutoff ids
     (∀ id, update.2.connections.find? id =
        (ledger.connections.find? id).map fun record =>
          if id ∈ ids ∧ record.isActive = true ∧ record.lastHeartbeat < cutoff then
            { record with isActive := false }
          else record) ∧
      update.2 = { ledger with connections := update.2.connections } ∧
      (∀ id, id ∈ update.1 ↔ id ∈ ids ∧ ∃ record, ledger.connections.find? id = some record ∧
        record.isActive = true ∧ record.lastHeartbeat < cutoff) ∧
      update.1.Pairwise fun a b => ids.idxOf a < ids.idxOf b) ∧
    (let update := ledger.retireChildren ids
     let turned : Child → Child := fun record =>
       if record.isActive = true ∧ record.connection ∈ ids then
         { record with isActive := false }
       else record
     (∀ id, update.2.producers.find? id = (ledger.producers.find? id).map turned) ∧
      (∀ id, update.2.consumers.find? id = (ledger.consumers.find? id).map turned) ∧
      update.2 = { ledger with
        producers := update.2.producers, consumers := update.2.consumers } ∧
      update.1 =
        ⟨(Roster.ceased (·.isActive) ledger.producers update.2.producers).length,
          (Roster.ceased (·.isActive) ledger.consumers update.2.consumers).length⟩) ∧
    Repeatable (fun ids ledger => ledger.retireConnections cutoff ids) [] (· ++ ·) ∧
    Repeatable (fun owners ledger => ledger.retireChildren owners) .zero ChildCounts.add ∧
    ledger.retireOrphans.2.retireOrphans = (.zero, ledger.retireOrphans.2) ∧
    (ledger.purge cutoff).2.purge cutoff = (0, (ledger.purge cutoff).2) ∧
    (ledger.Filed →
      ((ledger.stale cutoff).Pairwise fun a b => BytesBefore (encodeString a) (encodeString b)) ∧
      (ledger.retireConnections cutoff (ledger.stale cutoff)).1 = ledger.stale cutoff) := by
  -- Producers and consumers are retired by one function, so this is about both.
  have hchildren : ∀ (children : Roster String Child) (id : String),
      (retireOwned ids children).2.find? id = (children.find? id).map fun record =>
        if record.isActive = true ∧ record.connection ∈ ids then
          { record with isActive := false }
        else record := by
    intro children id
    simp only [find?_retireOwned, Child.isOwned_iff]
  refine ⟨⟨?_, ?_, ?_, pairwise_retireConnections cutoff ids⟩,
    ⟨hchildren ledger.producers, hchildren ledger.consumers, rfl, ?_⟩,
    repeatable_retireConnections cutoff, repeatable_retireChildren,
    retireOrphans_retireOrphans ledger, purge_purge ledger cutoff, ?_⟩
  · intro id
    simp only [find?_retireConnections, Connection.isStale_iff]
    rfl
  · rw [retireConnections_eq]
  · intro id
    simp only [mem_retireConnections_iff, Connection.isStale_iff]
  · show ChildCounts.mk (retireOwned ids ledger.producers).1
      (retireOwned ids ledger.consumers).1 = _
    rw [fst_retireOwned, fst_retireOwned]
    rfl
  · intro hfiled
    refine ⟨pairwise_stale hfiled cutoff, ?_⟩
    rw [retireConnections_stale hfiled]

/-- Two silent connections. The one that is listed twice is turned once. -/
theorem repeatable_updates_of_silent :
    let cutoff : Timestamp := ⟨90, 0, by decide, by decide, by decide, by decide⟩
    let ledger := (Ledger.empty.upsertConnection ⟨"b", .epoch, true⟩).upsertConnection
      ⟨"a", .epoch, true⟩
    let update := ledger.retireConnections cutoff ["b", "x", "a", "b"]
    update.2.connections.find? "b" = some ⟨"b", .epoch, false⟩ ∧
      update.2 = (ledger.retireConnections cutoff ["a", "b", "x"]).2 ∧
      update.2.retireConnections cutoff ["b", "x", "a", "b"] = ([], update.2) ∧
      (ledger.retireConnections cutoff (ledger.stale cutoff)).1 = ledger.stale cutoff := by
  intro cutoff ledger update
  have hfiled : ledger.Filed := (filed_empty.upsertConnection _).upsertConnection _
  obtain ⟨⟨hturned, -⟩, -, hrepeatable, -, -, -, hstale⟩ :=
    repeatable_updates ledger cutoff ["b", "x", "a", "b"]
  refine ⟨?_, hrepeatable.order ?_ ledger, hrepeatable.again _ ledger, (hstale hfiled).2⟩
  · rw [hturned]
    decide
  · simp [or_comm, or_left_comm]

end Gatekeeper.Ledger
