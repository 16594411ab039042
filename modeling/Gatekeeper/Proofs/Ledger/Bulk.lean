import Gatekeeper.Proofs.Ledger.Filed
import Gatekeeper.Proofs.Text.Utf8
import Gatekeeper.Proofs.Time.Timestamp

/-!
# `Gatekeeper.Proofs.Ledger.Bulk`: what the bulk updates do to each record

A bulk update goes through a list of ids or through a whole roster. The theorems here say
what it does to one record at a time, so that updates compose like functions on records.

* `retireConnections_eq` and `fst_retireConnections`: the connections are updated one
  after another, with the same result as all at once.
* `mem_stale_iff` and `pairwise_stale`: the query finds each stale connection once, in
  the order of the bytes of the ids.
* `retireChildren_eq`, `retireOrphans_eq`: the live children of the owners, and of all
  inactive connections.
* `purge_eq`: the messages from before the horizon.
-/

set_option autoImplicit false

namespace Gatekeeper.Ledger

open Gatekeeper.Text.Utf8

/-! ### Connections -/

/-- The connection, live only if it was heard of from the cutoff on. -/
def Connection.liveFrom (record : Connection) (cutoff : Timestamp) : Connection :=
  { record with isActive := record.isActive && decide (cutoff ≤ record.lastHeartbeat) }

/-- A connection is stale just if it is active and was last heard of before the cutoff. -/
theorem Connection.isStale_iff {record : Connection} {cutoff : Timestamp} :
    record.isStale cutoff = true ↔ record.isActive = true ∧ record.lastHeartbeat < cutoff := by
  simp [isStale]

/-- A stale connection does not live by that cutoff. -/
theorem Connection.liveFrom_of_isStale {record : Connection} {cutoff : Timestamp}
    (h : record.isStale cutoff = true) :
    record.liveFrom cutoff = { record with isActive := false } := by
  have hstale := (isStale_iff.mp h).2
  have hnot : ¬cutoff ≤ record.lastHeartbeat := fun hle => hle hstale
  simp [liveFrom, hnot]

/-- One that is not stale stays as it is. -/
theorem Connection.liveFrom_of_not_isStale {record : Connection} {cutoff : Timestamp}
    (h : record.isStale cutoff = false) : record.liveFrom cutoff = record := by
  obtain ⟨id, lastHeartbeat, isActive⟩ := record
  cases isActive with
  | false => rfl
  | true =>
    have hnot : ¬lastHeartbeat < cutoff := by simpa [isStale] using h
    have hle : cutoff ≤ lastHeartbeat := hnot
    simp [liveFrom, hle]

/-- A later cutoff covers an earlier one. -/
theorem Connection.liveFrom_liveFrom {record : Connection} {cutoff later : Timestamp}
    (h : cutoff ≤ later) : (record.liveFrom cutoff).liveFrom later = record.liveFrom later := by
  by_cases hlater : later ≤ record.lastHeartbeat
  · have hcutoff : cutoff ≤ record.lastHeartbeat := Timestamp.le_trans h hlater
    simp [liveFrom, hcutoff]
  · simp [liveFrom, hlater]

variable {ledger : Ledger}

/-- Updating the listed connections one after another updates each of them once: a
connection that an earlier entry of the list turned inactive is stale no more. -/
theorem retireConnections_eq (cutoff : Timestamp) (ids : List String) :
    (ledger.retireConnections cutoff ids).2 =
      { ledger with
        connections := ledger.connections.mapValues fun id record =>
          if id ∈ ids then record.liveFrom cutoff else record } := by
  induction ids generalizing ledger with
  | nil =>
    rw [Roster.mapValues_eq_self fun id record _ => if_neg List.not_mem_nil]
    rfl
  | cons id rest ih =>
    rw [retireConnections]
    -- Whichever way the first id goes, the rest goes over what it left.
    cases hfind : ledger.connections.find? id with
    | none =>
      dsimp only
      rw [ih]
      congr 1
      apply Roster.mapValues_congr
      intro key record hmem
      have hne : key ≠ id := by
        rintro rfl
        cases hfind.symm.trans (Roster.find?_eq_some_iff.mpr hmem)
      simp [hne]
    | some found =>
      have hsame : ∀ {record}, (id, record) ∈ ledger.connections.entries → record = found :=
        fun hmem => Option.some.inj ((Roster.find?_eq_some_iff.mpr hmem).symm.trans hfind)
      dsimp only
      cases hstale : found.isStale cutoff with
      | true =>
        rw [if_pos rfl, ih, Roster.set_eq_mapValues _ hfind, Roster.mapValues_mapValues]
        congr 1
        apply Roster.mapValues_congr
        intro key record hmem
        by_cases hkey : key = id
        · cases hkey
          cases hsame hmem
          rw [← Connection.liveFrom_of_isStale hstale]
          simp [Connection.liveFrom_liveFrom (Timestamp.le_refl cutoff)]
        · simp [hkey]
      | false =>
        rw [if_neg Bool.false_ne_true, ih]
        congr 1
        apply Roster.mapValues_congr
        intro key record hmem
        by_cases hkey : key = id
        · cases hkey
          cases hsame hmem
          simp [Connection.liveFrom_of_not_isStale hstale]
        · simp [hkey]

/-- The ids that the update yields: those of the list that are stale, each at its first
place. -/
theorem fst_retireConnections (cutoff : Timestamp) (ids : List String) :
    (ledger.retireConnections cutoff ids).1 =
      (ids.filter fun id => (ledger.connections.find? id).any (·.isStale cutoff)).eraseDups := by
  induction ids generalizing ledger with
  | nil => rfl
  | cons id rest ih =>
    rw [retireConnections]
    cases hfind : ledger.connections.find? id with
    | none =>
      rw [List.filter_cons_of_neg (by simp [hfind])]
      exact ih
    | some found =>
      dsimp only
      cases hstale : found.isStale cutoff with
      | false =>
        rw [if_neg Bool.false_ne_true, List.filter_cons_of_neg (by simp [hfind, hstale])]
        exact ih
      | true =>
        rw [if_pos rfl, List.filter_cons_of_pos (by simp [hfind, hstale]), List.eraseDups_cons,
          List.filter_filter]
        dsimp only
        rw [ih]
        congr 2
        -- Of what is left of the list, only `id` is stale no more.
        apply List.filter_congr
        intro other _
        rw [Roster.find?_set]
        by_cases hother : other = id
        · simp [hother, Connection.isStale]
        · simp [hother]

/-- The update yields the ids of the listed connections that are stale. -/
theorem mem_retireConnections_iff {cutoff : Timestamp} {ids : List String} {id : String} :
    id ∈ (ledger.retireConnections cutoff ids).1 ↔
      id ∈ ids ∧ ∃ record, ledger.connections.find? id = some record ∧
        record.isStale cutoff = true := by
  rw [fst_retireConnections, List.mem_eraseDups, List.mem_filter, Option.any_eq_true]

/-- A list without duplicates loses nothing when they are removed. -/
theorem eraseDups_eq_self {ids : List String} (h : ids.Nodup) : ids.eraseDups = ids := by
  induction ids with
  | nil => rfl
  | cons id rest ih =>
    obtain ⟨hnot, hrest⟩ := List.nodup_cons.mp h
    have hkeep : rest.filter (fun other => !other == id) = rest := by
      rw [List.filter_eq_self]
      intro other hmem
      have hne : other ≠ id := by
        rintro rfl
        exact hnot hmem
      simp [hne]
    rw [List.eraseDups_cons, hkeep, ih hrest]

/-- The query finds the stale connections. -/
theorem mem_stale_iff (hfiled : ledger.Filed) {cutoff : Timestamp} {id : String} :
    id ∈ ledger.stale cutoff ↔
      ∃ record, ledger.connections.find? id = some record ∧ record.isStale cutoff = true := by
  rw [stale, List.mem_mergeSort, List.mem_map]
  constructor
  · rintro ⟨record, hmem, rfl⟩
    obtain ⟨hvalue, hstale⟩ := List.mem_filter.mp hmem
    obtain ⟨key, hentry⟩ := Roster.mem_values_iff.mp hvalue
    have hfind := Roster.find?_eq_some_iff.mpr hentry
    have hid : record.id = key := hfiled.connections key record hfind
    exact ⟨record, hid ▸ hfind, hstale⟩
  · rintro ⟨record, hfind, hstale⟩
    refine ⟨record, List.mem_filter.mpr ⟨?_, hstale⟩, hfiled.connections id record hfind⟩
    exact Roster.mem_values_iff.mpr ⟨id, Roster.find?_eq_some_iff.mp hfind⟩

/-- The query lists no id twice, because no two connections have one id. -/
theorem nodup_stale (hfiled : ledger.Filed) (cutoff : Timestamp) : (ledger.stale cutoff).Nodup := by
  rw [stale, (List.mergeSort_perm _ _).nodup_iff]
  have hkeys : (ledger.connections.values.map (·.id)).Nodup := by
    rw [hfiled.connections.map_values]
    exact ledger.connections.nodup_keys
  exact hkeys.sublist (List.filter_sublist.map _)

/-- The query lists the ids in the order of their bytes. -/
theorem pairwise_stale (hfiled : ledger.Filed) (cutoff : Timestamp) :
    (ledger.stale cutoff).Pairwise fun a b => BytesBefore (encodeString a) (encodeString b) := by
  have hsorted : (ledger.stale cutoff).Pairwise fun a b => decide (a ≤ b) = true := by
    apply List.pairwise_mergeSort
    · intro a b c hab hbc
      rw [decide_eq_true_iff] at hab hbc ⊢
      exact String.le_trans hab hbc
    · intro a b
      rw [Bool.or_eq_true, decide_eq_true_iff, decide_eq_true_iff]
      exact String.le_total a b
  -- Sorted without duplicates is strictly sorted, and texts compare as their bytes do.
  refine (hsorted.and (nodup_stale hfiled cutoff)).imp fun {a b} h => lex_encode ?_
  have hle : a ≤ b := of_decide_eq_true h.1
  exact Decidable.byContradiction fun hnot => h.2 (String.le_antisymm hle (String.not_lt.mp hnot))

/-- The ledger with its connections live only if they were heard of from the cutoff on. -/
def liveFrom (ledger : Ledger) (cutoff : Timestamp) : Ledger :=
  { ledger with
    connections := ledger.connections.mapValues fun _ record => record.liveFrom cutoff }

/-- The update of the stale connections is an update of all connections, and it turns every
one that the query found. -/
theorem retireConnections_stale (hfiled : ledger.Filed) (cutoff : Timestamp) :
    ledger.retireConnections cutoff (ledger.stale cutoff) =
      (ledger.stale cutoff, ledger.liveFrom cutoff) := by
  apply Prod.ext
  · rw [fst_retireConnections, List.filter_eq_self.mpr,
      eraseDups_eq_self (nodup_stale hfiled cutoff)]
    intro id hmem
    obtain ⟨record, hfind, hstale⟩ := (mem_stale_iff hfiled).mp hmem
    rw [hfind]
    exact hstale
  · rw [retireConnections_eq, liveFrom]
    congr 1
    apply Roster.mapValues_congr
    intro id record hmem
    have hfind := Roster.find?_eq_some_iff.mpr hmem
    split
    · rfl
    -- A record that is not listed is not stale, and such a record is left as it is anyway.
    next hfresh =>
      have hkeep : record.isStale cutoff = false := by
        cases hstale : record.isStale cutoff with
        | false => rfl
        | true => exact absurd ((mem_stale_iff hfiled).mpr ⟨record, hfind, hstale⟩) hfresh
      exact (Connection.liveFrom_of_not_isStale hkeep).symm

/-! ### Producers and consumers -/

/-- Whether a connection counts as live. One that is not there takes no child with it. -/
def livesIn (connections : Roster String Connection) (id : String) : Bool :=
  (connections.find? id).all (·.isActive)

/-- The child, live only if its owner lives. -/
def Child.liveUnder (record : Child) (lives : String → Bool) : Child :=
  { record with isActive := record.isActive && lives record.connection }

/-- The same change of all producers and consumers. -/
def mapChildren (ledger : Ledger) (f : Child → Child) : Ledger :=
  { ledger with
    producers := ledger.producers.mapValues fun _ => f
    consumers := ledger.consumers.mapValues fun _ => f }

/-- How many producers and consumers pass a test. -/
def countChildren (ledger : Ledger) (p : Child → Bool) : ChildCounts :=
  ⟨ledger.producers.values.countP p, ledger.consumers.values.countP p⟩

/-- A child that is to live under two conditions lives under both. -/
theorem Child.liveUnder_liveUnder (record : Child) (lives lives' : String → Bool) :
    (record.liveUnder lives).liveUnder lives' =
      record.liveUnder fun id => lives id && lives' id := by
  simp [liveUnder, Bool.and_assoc]

/-- Children that are mapped to themselves leave the ledger as it is. -/
theorem mapChildren_id (ledger : Ledger) : ledger.mapChildren id = ledger := by
  have hkeep : ∀ children : Roster String Child, children.mapValues (fun _ => id) = children :=
    fun children => Roster.mapValues_eq_self fun _ _ _ => rfl
  rw [mapChildren, hkeep, hkeep]

/-- Two maps over all children are one. -/
theorem mapChildren_mapChildren (ledger : Ledger) (f g : Child → Child) :
    (ledger.mapChildren f).mapChildren g = ledger.mapChildren (g ∘ f) := by
  unfold mapChildren
  simp only [Roster.mapValues_mapValues, Function.comp_def]

/-- Children that pass a test after a map are counted by the test behind the map. -/
theorem countChildren_mapChildren (ledger : Ledger) (f : Child → Child) (p : Child → Bool) :
    (ledger.mapChildren f).countChildren p = ledger.countChildren (p ∘ f) := by
  simp [countChildren, mapChildren, Roster.values, List.countP_map, Function.comp_def]

/-- The live children of the owners are turned, and no others. -/
theorem find?_retireOwned (owners : List String) (children : Roster String Child) (id : String) :
    (retireOwned owners children).2.find? id =
      (children.find? id).map fun record =>
        if record.isOwned owners then { record with isActive := false } else record :=
  Roster.find?_mapValues ..

/-- The live children of the owners are counted and turned inactive. -/
theorem retireChildren_eq (ledger : Ledger) (owners : List String) :
    ledger.retireChildren owners =
      (ledger.countChildren (·.isOwned owners),
        ledger.mapChildren (·.liveUnder fun id => !decide (id ∈ owners))) := by
  have hrecord : ∀ record : Child,
      (if record.isOwned owners then { record with isActive := false } else record) =
        record.liveUnder fun id => !decide (id ∈ owners) := by
    rintro ⟨id, connection, isActive⟩
    by_cases howned : connection ∈ owners <;> cases isActive <;>
      simp [Child.isOwned, Child.liveUnder, howned]
  simp only [retireChildren, retireProducers, retireConsumers, retireOwned, hrecord]
  rfl

/-- Nobody is nobody's child. -/
theorem retireChildren_nil (ledger : Ledger) : ledger.retireChildren [] = (.zero, ledger) := by
  have hkeep : (fun record : Child => record.liveUnder fun id => !decide (id ∈ [])) = id := by
    funext record
    simp [Child.liveUnder]
  rw [retireChildren_eq, hkeep, mapChildren_id]
  simp [countChildren, Child.isOwned, ChildCounts.zero]

/-- An id is listed as inactive exactly when its connection does not live. -/
theorem mem_inactiveIds_iff (hfiled : ledger.Filed) {id : String} :
    id ∈ ledger.inactiveIds ↔ livesIn ledger.connections id = false := by
  rw [inactiveIds, List.mem_map, livesIn]
  constructor
  · rintro ⟨record, hmem, rfl⟩
    obtain ⟨hvalue, hinactive⟩ := List.mem_filter.mp hmem
    obtain ⟨key, hentry⟩ := Roster.mem_values_iff.mp hvalue
    have hfind := Roster.find?_eq_some_iff.mpr hentry
    -- The list has the ids inside the records, which are those that they are filed under.
    have hid : record.id = key := hfiled.connections key record hfind
    rw [hid, hfind]
    simpa using hinactive
  · intro hlives
    cases hfind : ledger.connections.find? id with
    | none => simp [hfind] at hlives
    | some record =>
      refine ⟨record, List.mem_filter.mpr ⟨?_, ?_⟩, hfiled.connections id record hfind⟩
      · exact Roster.mem_values_iff.mpr ⟨id, Roster.find?_eq_some_iff.mp hfind⟩
      · simpa [hfind] using hlives

/-- The ledger with its children live only if their owners live. -/
def followOwners (ledger : Ledger) : Ledger :=
  ledger.mapChildren (·.liveUnder (livesIn ledger.connections))

/-- The inactive connections are the owners, and with no owners there is nothing to do. -/
theorem retireOrphans_eq_retireChildren (ledger : Ledger) :
    ledger.retireOrphans = ledger.retireChildren ledger.inactiveIds := by
  unfold retireOrphans
  split
  next hnone => rw [hnone, retireChildren_nil]
  next => rfl

/-- The live children of inactive connections are counted and turned inactive. -/
theorem retireOrphans_eq (hfiled : ledger.Filed) :
    ledger.retireOrphans =
      (ledger.countChildren fun child =>
          child.isActive && !livesIn ledger.connections child.connection,
        ledger.followOwners) := by
  have hmem : ∀ id, decide (id ∈ ledger.inactiveIds) = !livesIn ledger.connections id := by
    intro id
    cases hlives : livesIn ledger.connections id <;> simp [mem_inactiveIds_iff hfiled, hlives]
  rw [retireOrphans_eq_retireChildren, retireChildren_eq]
  simp only [hmem, Child.isOwned, Bool.not_not]
  rfl

/-! ### Poison messages -/

/-- The ledger with the messages from the horizon on. -/
def messagesFrom (ledger : Ledger) (horizon : Timestamp) : Ledger :=
  { ledger with
    poison := ledger.poison.filter fun _ record => decide (horizon ≤ record.createdAt) }

/-- The messages from before the horizon are counted and removed. -/
theorem purge_eq (ledger : Ledger) (horizon : Timestamp) :
    ledger.purge horizon =
      (ledger.poison.values.countP (·.createdAt < horizon), ledger.messagesFrom horizon) := by
  have hkeep : ∀ record : PoisonMessage,
      (!decide (record.createdAt < horizon)) = decide (horizon ≤ record.createdAt) :=
    fun record => (decide_not ..).symm
  simp only [purge, hkeep]
  rfl

end Gatekeeper.Ledger
