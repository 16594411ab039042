import Gatekeeper.Roster

/-!
# `Gatekeeper.Proofs.Roster`: rosters as finite maps

`Roster.find?` is the view of a roster: what it holds under each key. The theorems
say what every update does to that view.

* `find?_eq_some_iff`: an entry is found exactly when it is in the list of entries,
  because the keys differ pairwise.
* `find?_add`, `find?_erase`, `find?_set`: the updates of one key leave every other
  key alone.
* `find?_mapValues`, `find?_filter`: the updates of all entries act on each key for
  itself.
* `Accounts`: a roster whose entries belong to members, at most one to each.
-/

set_option autoImplicit false

namespace Gatekeeper.Roster

universe u v w

variable {κ : Type u} {α : Type v}

/-- Two rosters with the same entries are the same: the proof field does not count. -/
theorem eq_of_entries {a b : Roster κ α} (h : a.entries = b.entries) : a = b := by
  cases a
  cases b
  cases h
  rfl

/-- Changing all values keeps the keys and their order. -/
@[simp] theorem entries_mapValues (f : κ → α → α) (roster : Roster κ α) :
    (roster.mapValues f).entries = roster.entries.map fun (k, a) => (k, f k a) := rfl

/-- A filter goes over the entries. -/
@[simp] theorem entries_filter (keep : κ → α → Bool) (roster : Roster κ α) :
    (roster.filter keep).entries = roster.entries.filter fun (k, a) => keep k a := rfl

/-- Two updates of all values are one. -/
theorem mapValues_mapValues (f g : κ → α → α) (roster : Roster κ α) :
    (roster.mapValues f).mapValues g = roster.mapValues fun k a => g k (f k a) := by
  apply eq_of_entries
  simp [Function.comp_def]

/-- Updates that agree on the entries give the same roster. -/
theorem mapValues_congr {f g : κ → α → α} {roster : Roster κ α}
    (h : ∀ k a, (k, a) ∈ roster.entries → f k a = g k a) :
    roster.mapValues f = roster.mapValues g := by
  apply eq_of_entries
  rw [entries_mapValues, entries_mapValues]
  exact List.map_congr_left fun (k, a) hmem => congrArg (Prod.mk k) (h k a hmem)

/-- An update that changes no entry changes nothing. -/
theorem mapValues_eq_self {f : κ → α → α} {roster : Roster κ α}
    (h : ∀ k a, (k, a) ∈ roster.entries → f k a = a) : roster.mapValues f = roster := by
  apply eq_of_entries
  rw [entries_mapValues]
  have hid : roster.entries.map (fun (k, a) => (k, f k a)) = roster.entries.map id :=
    List.map_congr_left fun (k, a) hmem => congrArg (Prod.mk k) (h k a hmem)
  rw [hid, List.map_id]

/-- Two filters are one. -/
theorem filter_filter (p q : κ → α → Bool) (roster : Roster κ α) :
    (roster.filter p).filter q = roster.filter fun k a => p k a && q k a := by
  apply eq_of_entries
  simp only [entries_filter, List.filter_filter]
  exact List.filter_congr fun (k, a) _ => Bool.and_comm (q k a) (p k a)

/-- Filters that agree on the entries give the same roster. -/
theorem filter_congr {p q : κ → α → Bool} {roster : Roster κ α}
    (h : ∀ k a, (k, a) ∈ roster.entries → p k a = q k a) :
    roster.filter p = roster.filter q := by
  apply eq_of_entries
  rw [entries_filter, entries_filter]
  exact List.filter_congr fun (k, a) hmem => h k a hmem

/-- A filter that keeps every entry keeps the roster. -/
theorem filter_eq_self {keep : κ → α → Bool} {roster : Roster κ α}
    (h : ∀ k a, (k, a) ∈ roster.entries → keep k a = true) : roster.filter keep = roster := by
  apply eq_of_entries
  rw [entries_filter, List.filter_eq_self]
  exact fun (k, a) hmem => h k a hmem

/-- The values are those of the entries. -/
theorem mem_values_iff {roster : Roster κ α} {a : α} :
    a ∈ roster.values ↔ ∃ k, (k, a) ∈ roster.entries := by
  simp [values]

variable [DecidableEq κ]

/-! ### What a key finds -/

/-- What is found is an entry. -/
theorem mem_of_lookup {key : κ} {a : α} {entries : List (κ × α)}
    (h : lookup key entries = some a) : (key, a) ∈ entries := by
  induction entries with
  | nil => cases h
  | cons entry rest ih =>
    obtain ⟨k, b⟩ := entry
    by_cases hk : k = key
    · rw [lookup, if_pos hk] at h
      cases h
      rw [hk]
      exact List.mem_cons_self
    · rw [lookup, if_neg hk] at h
      exact List.mem_cons_of_mem _ (ih h)

/-- Under pairwise different keys every entry is found. -/
theorem lookup_of_mem {key : κ} {a : α} {entries : List (κ × α)}
    (hnodup : (entries.map Prod.fst).Nodup) (h : (key, a) ∈ entries) :
    lookup key entries = some a := by
  induction entries with
  | nil => cases h
  | cons entry rest ih =>
    obtain ⟨k, b⟩ := entry
    rw [List.map_cons, List.nodup_cons] at hnodup
    rcases List.mem_cons.mp h with heq | hrest
    · cases heq
      simp [lookup]
    · -- The head has another key, because `key` comes up again further on.
      have hne : k ≠ key := by
        rintro rfl
        exact hnodup.1 (List.mem_map.mpr ⟨_, hrest, rfl⟩)
      rw [lookup, if_neg hne]
      exact ih hnodup.2 hrest

/-- An entry is found exactly when it is in the list of entries. -/
theorem find?_eq_some_iff {roster : Roster κ α} {key : κ} {a : α} :
    roster.find? key = some a ↔ (key, a) ∈ roster.entries :=
  ⟨mem_of_lookup, lookup_of_mem roster.nodup_keys⟩

/-- No entry is found under a key just if the roster does not have the key. -/
theorem contains_eq_false_iff {roster : Roster κ α} {key : κ} :
    roster.contains key = false ↔ roster.find? key = none := by
  simp [contains]

/-- Two rosters that find the same entry sets agree on every key. -/
theorem find?_ext {a b : Roster κ α} {key : κ}
    (h : ∀ x, (key, x) ∈ a.entries ↔ (key, x) ∈ b.entries) : a.find? key = b.find? key :=
  Option.ext fun x => by rw [find?_eq_some_iff, find?_eq_some_iff, h x]

/-! ### Updates of all entries -/

/-- Looking up after a change of all values finds the changed value. The induction is on the
entries. -/
theorem lookup_map (f : κ → α → α) (key : κ) (entries : List (κ × α)) :
    lookup key (entries.map fun (k, a) => (k, f k a)) = (lookup key entries).map (f key) := by
  induction entries with
  | nil => rfl
  | cons entry rest ih =>
    obtain ⟨k, a⟩ := entry
    by_cases hk : k = key
    · subst hk
      simp [lookup]
    · simp [lookup, hk, ih]

/-- A change of all values acts on each key for itself. -/
@[simp] theorem find?_mapValues (f : κ → α → α) (roster : Roster κ α) (key : κ) :
    (roster.mapValues f).find? key = (roster.find? key).map (f key) :=
  lookup_map f key roster.entries

/-- A filter acts on each key for itself. -/
@[simp] theorem find?_filter (keep : κ → α → Bool) (roster : Roster κ α) (key : κ) :
    (roster.filter keep).find? key = (roster.find? key).filter (keep key) := by
  apply Option.ext
  intro a
  rw [find?_eq_some_iff, Option.filter_eq_some_iff, find?_eq_some_iff, entries_filter,
    List.mem_filter]

/-! ### Updates of one key -/

/-- Erasing a key keeps the entries of all others. -/
theorem entries_erase (roster : Roster κ α) (key : κ) :
    (roster.erase key).entries = roster.entries.filter fun entry => entry.1 ≠ key := rfl

/-- Erasing a key leaves nothing under it, and every other key alone. -/
theorem find?_erase (roster : Roster κ α) (key other : κ) :
    (roster.erase key).find? other = if other = key then none else roster.find? other := by
  rw [erase, find?_filter]
  by_cases h : other = key <;> cases roster.find? other <;> simp [h]

/-- Adding under a key that finds nothing puts the entry at the end. -/
theorem entries_add {roster : Roster κ α} {key : κ} (value : α)
    (h : roster.find? key = none) :
    (roster.add key value).2.entries = roster.entries ++ [(key, value)] := by
  have hfresh : ¬roster.contains key = true := by simp [contains, h]
  rw [add, dif_neg hfresh]
  rfl

/-- Putting an entry at the end sets its key, which was free, and leaves every other key alone. -/
theorem find?_push {roster : Roster κ α} {key : κ} (value : α)
    (fresh : ¬roster.contains key = true) (other : κ) :
    (roster.push key value fresh).find? other =
      if other = key then some value else roster.find? other := by
  by_cases h : other = key
  · subst h
    rw [if_pos rfl, find?_eq_some_iff]
    exact List.mem_append_right _ List.mem_cons_self
  · rw [if_neg h]
    apply find?_ext
    intro x
    simp [push, h]

/-- Adding does not replace: what was under the key stays. -/
theorem find?_add (roster : Roster κ α) (key : κ) (value : α) (other : κ) :
    (roster.add key value).2.find? other =
      if other = key then some ((roster.find? key).getD value) else roster.find? other := by
  unfold add
  by_cases hkey : roster.contains key = true
  · obtain ⟨old, hold⟩ := Option.isSome_iff_exists.mp hkey
    rw [dif_pos hkey]
    by_cases h : other = key
    · simp [h, hold]
    · simp [h]
  · have hnone : roster.find? key = none := by simpa [contains] using hkey
    rw [dif_neg hkey, find?_push, hnone, Option.getD_none]

/-- Setting an entry changes what its key finds, and nothing else. -/
theorem find?_set (roster : Roster κ α) (key : κ) (value : α) (other : κ) :
    (roster.set key value).find? other =
      if other = key then some value else roster.find? other := by
  unfold set
  by_cases hkey : roster.contains key = true
  · obtain ⟨old, hold⟩ := Option.isSome_iff_exists.mp hkey
    rw [dif_pos hkey, find?_mapValues]
    by_cases h : other = key
    · simp [h, hold]
    · cases roster.find? other <;> simp [h]
  · rw [dif_neg hkey, find?_push]

/-- Setting an entry that is there changes it in its place. -/
theorem set_eq_mapValues {roster : Roster κ α} {key : κ} {old : α} (value : α)
    (h : roster.find? key = some old) :
    roster.set key value = roster.mapValues fun k a => if k = key then value else a := by
  rw [set, dif_pos (by simp [contains, h])]

/-! ### Erasing and the other updates -/

/-- Erasing a key that is not there does nothing. -/
theorem erase_eq_self {roster : Roster κ α} {key : κ} (h : roster.find? key = none) :
    roster.erase key = roster := by
  apply eq_of_entries
  rw [entries_erase]
  refine List.filter_eq_self.mpr fun (k, a) hmem => decide_eq_true ?_
  rintro rfl
  cases h.symm.trans (find?_eq_some_iff.mpr hmem)

/-- Two keys may be erased in either order. -/
theorem erase_comm (roster : Roster κ α) (key other : κ) :
    (roster.erase key).erase other = (roster.erase other).erase key := by
  apply eq_of_entries
  simp only [entries_erase, List.filter_filter, Bool.and_comm]

/-- What was just added is taken out again. -/
theorem erase_add_self {roster : Roster κ α} {key : κ} (value : α)
    (h : roster.find? key = none) : (roster.add key value).2.erase key = roster := by
  refine (eq_of_entries ?_).trans (erase_eq_self h)
  rw [entries_erase, entries_add value h, List.filter_append, entries_erase]
  simp

/-- One key may be added before or after another one is erased. -/
theorem erase_add {roster : Roster κ α} {key other : κ} (value : α)
    (h : roster.find? key = none) (hne : key ≠ other) :
    (roster.add key value).2.erase other = ((roster.erase other).add key value).2 := by
  have hfree : (roster.erase other).find? key = none := by rw [find?_erase, if_neg hne, h]
  apply eq_of_entries
  rw [entries_erase, entries_add value h, entries_add value hfree, List.filter_append,
    entries_erase]
  simp [hne]

/-- Setting a key that is there changes its value in place; one that is not goes to the end. -/
theorem entries_set (roster : Roster κ α) (key : κ) (value : α) :
    (roster.set key value).entries =
      if roster.contains key then
        roster.entries.map fun (k, a) => (k, if k = key then value else a)
      else roster.entries ++ [(key, value)] := by
  unfold set
  split
  · rfl
  · rfl

/-- A key that is set and then erased is erased. -/
theorem erase_set_self (roster : Roster κ α) (key : κ) (value : α) :
    (roster.set key value).erase key = roster.erase key := by
  apply eq_of_entries
  rw [entries_erase, entries_set, entries_erase]
  split
  · rw [List.filter_map]
    refine (List.map_congr_left fun (k, a) hmem => ?_).trans (List.map_id _)
    have hne : k ≠ key := by simpa using (List.mem_filter.mp hmem).2
    simp [hne]
  · simp

/-- One key may be set before or after another one is erased. -/
theorem erase_set {key other : κ} (roster : Roster κ α) (value : α) (hne : key ≠ other) :
    (roster.set key value).erase other = (roster.erase other).set key value := by
  have hcontains : (roster.erase other).contains key = roster.contains key := by
    rw [contains, contains, find?_erase, if_neg hne]
  apply eq_of_entries
  rw [entries_erase, entries_set, entries_set, entries_erase, hcontains]
  split
  · rw [List.filter_map]
    rfl
  · simp [hne]

/-! ### Entries that belong to members -/

/-- The roster has the entries that its members hold, and nothing else, and no two members
hold entries under one key. -/
structure Accounts {ν : Type w} (roster : Roster κ α) (held : ν → Option (κ × α)) : Prop where
  find?_iff : ∀ key value, roster.find? key = some value ↔
    ∃ member, held member = some (key, value)
  unique : ∀ member member' key value value', held member = some (key, value) →
    held member' = some (key, value') → member = member'

namespace Accounts

variable {ν : Type w} {roster : Roster κ α} {held held' : ν → Option (κ × α)} {member : ν}
  {key : κ} {value : α}

/-- Where no member holds anything, the empty roster has an account of it. -/
theorem of_none (h : ∀ member, held member = none) : Accounts (.empty : Roster κ α) held where
  find?_iff key value := by simp [h, find?, empty, lookup]
  unique member _ _ _ _ hmember := by simp [h] at hmember

/-- Only what the members hold matters, not how it is put. -/
theorem congr (h : roster.Accounts held) (hsame : ∀ member, held' member = held member) :
    roster.Accounts held' := by
  rwa [funext hsame]

/-- A key that finds nothing is nobody's. -/
theorem ne_of_find?_eq_none (h : roster.Accounts held) (hfree : roster.find? key = none)
    (member : ν) (value : α) : held member ≠ some (key, value) := fun hheld =>
  nomatch hfree.symm.trans ((h.find?_iff key value).mpr ⟨member, hheld⟩)

variable [DecidableEq ν]

/-- A member that holds nothing adds an entry under a key that finds nothing. -/
theorem add (h : roster.Accounts held) (hnone : held member = none)
    (hfree : roster.find? key = none)
    (hheld : ∀ other, held' other = if other = member then some (key, value) else held other) :
    (roster.add key value).2.Accounts held' := by
  have hown : held' member = some (key, value) := by rw [hheld, if_pos rfl]
  have hother : ∀ {other}, other ≠ member → held' other = held other :=
    fun hne => by rw [hheld, if_neg hne]
  refine ⟨fun k v => ?_, fun a b k v w ha hb => ?_⟩
  · rw [find?_add, hfree, Option.getD_none]
    split
    next heq =>
      subst heq
      refine ⟨fun heq => ⟨member, hown.trans (by rw [Option.some.inj heq])⟩, ?_⟩
      rintro ⟨other, hheldOther⟩
      by_cases hne : other = member
      · subst hne
        cases hown.symm.trans hheldOther
        rfl
      · exact absurd (hother hne ▸ hheldOther) (h.ne_of_find?_eq_none hfree other v)
    next hkey =>
      rw [h.find?_iff]
      refine exists_congr fun other => ?_
      by_cases hne : other = member
      · subst hne
        rw [hnone, hown]
        simp [Ne.symm hkey]
      · rw [hother hne]
  · -- Two members with one key: neither is the new one, for nobody had its key before.
    by_cases hea : a = member
    · by_cases heb : b = member
      · rw [hea, heb]
      · subst hea
        cases hown.symm.trans ha
        exact absurd (hother heb ▸ hb) (h.ne_of_find?_eq_none hfree b w)
    · by_cases heb : b = member
      · subst heb
        cases hown.symm.trans hb
        exact absurd (hother hea ▸ ha) (h.ne_of_find?_eq_none hfree a v)
      · exact h.unique a b k v w (hother hea ▸ ha) (hother heb ▸ hb)

/-- A member takes its entry out. -/
theorem erase (h : roster.Accounts held) (hown : held member = some (key, value))
    (hheld : ∀ other, held' other = if other = member then none else held other) :
    (roster.erase key).Accounts held' := by
  have hother : ∀ {other}, other ≠ member → held' other = held other :=
    fun hne => by rw [hheld, if_neg hne]
  -- Who holds something afterwards is another member, and held it before.
  have hsome : ∀ {other k v}, held' other = some (k, v) →
      other ≠ member ∧ held other = some (k, v) := by
    intro other k v hheldOther
    by_cases hne : other = member
    · rw [hheld, if_pos hne] at hheldOther
      cases hheldOther
    · exact ⟨hne, hother hne ▸ hheldOther⟩
  refine ⟨fun k v => ?_, fun a b k v w ha hb =>
    h.unique a b k v w (hsome ha).2 (hsome hb).2⟩
  rw [find?_erase]
  split
  -- Nobody else held the key that is gone.
  next heq =>
    subst heq
    refine ⟨nofun, ?_⟩
    rintro ⟨other, hheldOther⟩
    obtain ⟨hne, hbefore⟩ := hsome hheldOther
    exact absurd (h.unique other member k v value hbefore hown) hne
  next hkey =>
    rw [h.find?_iff]
    refine ⟨?_, fun ⟨other, hheldOther⟩ => ⟨other, (hsome hheldOther).2⟩⟩
    rintro ⟨other, hbefore⟩
    refine ⟨other, (hother ?_).trans hbefore⟩
    rintro rfl
    cases hown.symm.trans hbefore
    exact hkey rfl

end Accounts

end Gatekeeper.Roster
