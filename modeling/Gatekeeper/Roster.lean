/-!
# `Gatekeeper.Roster`: keyed entries with unique keys

The one shared index of the program: live connections, unanswered nonces, stored
records and counters are all kept in rosters. An entry stays from the call that
adds it to the call that takes it out, and adding under a present key changes
nothing.

* `find?`, `contains`, `size`, `snapshot`: what a roster holds.
* `add`, `take`, `delete`: the calls that report whether they had an effect.
* `set`, `mapValues`, `filter`: replacement of one value, of all, and removal.

Entries keep the order in which their keys arrived.
-/

set_option autoImplicit false

namespace Gatekeeper

universe u v

/-- Entries under pairwise different keys. -/
structure Roster (κ : Type u) (α : Type v) where
  entries : List (κ × α)
  nodup_keys : (entries.map Prod.fst).Nodup

namespace Roster

variable {κ : Type u} {α : Type v}

/-- The roster without entries. -/
def empty : Roster κ α := ⟨[], List.nodup_nil⟩

instance : Inhabited (Roster κ α) := ⟨empty⟩

/-- The keys, in order of arrival. -/
def keys (roster : Roster κ α) : List κ := roster.entries.map Prod.fst

/-- The values, in the order of their keys. -/
def values (roster : Roster κ α) : List α := roster.entries.map Prod.snd

/-- The number of entries. -/
def size (roster : Roster κ α) : Nat := roster.entries.length

/-- Whether there is no entry. -/
def isEmpty (roster : Roster κ α) : Bool := roster.entries.isEmpty

/-- Keys and values as two lists of the same order. -/
def snapshot (roster : Roster κ α) : List κ × List α := (roster.keys, roster.values)

/-- The roster as diagnostics show it. -/
def describe (roster : Roster κ α) : String :=
  s!"Registry \x7b len: {roster.size} \x7d"

/-- The entries whose key and value pass a test. -/
def filter (keep : κ → α → Bool) (roster : Roster κ α) : Roster κ α where
  entries := roster.entries.filter fun (k, a) => keep k a
  nodup_keys := roster.nodup_keys.sublist (List.filter_sublist.map _)

/-- The same keys with values computed from the old ones. -/
def mapValues (f : κ → α → α) (roster : Roster κ α) : Roster κ α where
  entries := roster.entries.map fun (k, a) => (k, f k a)
  nodup_keys := by
    have h : (roster.entries.map fun (k, a) => (k, f k a)).map Prod.fst =
        roster.entries.map Prod.fst := by simp
    rw [h]
    exact roster.nodup_keys

variable [DecidableEq κ]

/-- The value of the entry under a key in a list of entries. -/
def lookup (key : κ) : List (κ × α) → Option α
  | [] => none
  | (k, a) :: rest => if k = key then some a else lookup key rest

/-- The value under a key. -/
def find? (roster : Roster κ α) (key : κ) : Option α := lookup key roster.entries

/-- Whether there is an entry under the key. -/
def contains (roster : Roster κ α) (key : κ) : Bool := (roster.find? key).isSome

theorem lookup_isSome_iff {key : κ} {entries : List (κ × α)} :
    (lookup key entries).isSome = true ↔ key ∈ entries.map Prod.fst := by
  induction entries with
  | nil => simp [lookup]
  | cons entry rest ih =>
    obtain ⟨k, a⟩ := entry
    by_cases h : k = key
    · simp [lookup, h]
    · simp only [lookup, h, if_false, ih, List.map_cons, List.mem_cons]
      exact ⟨Or.inr, fun hk => hk.resolve_left (fun e => h e.symm)⟩

theorem contains_iff {roster : Roster κ α} {key : κ} :
    roster.contains key = true ↔ key ∈ roster.keys := lookup_isSome_iff

/-- The roster with one more entry, at the end. -/
def push (roster : Roster κ α) (key : κ) (value : α) (fresh : ¬roster.contains key = true) :
    Roster κ α where
  entries := roster.entries ++ [(key, value)]
  nodup_keys := by
    rw [List.map_append, List.nodup_append]
    refine ⟨roster.nodup_keys, by simp, ?_⟩
    intro k hk k' hk' he
    simp only [List.map_cons, List.map_nil, List.mem_singleton] at hk'
    exact fresh (contains_iff.2 (by rw [← hk', ← he]; exact hk))

/-- Adds an entry if the key is absent; tells whether it did. -/
def add (roster : Roster κ α) (key : κ) (value : α) : Bool × Roster κ α :=
  if h : roster.contains key = true then (false, roster)
  else (true, roster.push key value h)

/-- The roster without the entry under a key. -/
def erase (roster : Roster κ α) (key : κ) : Roster κ α :=
  roster.filter fun k _ => k ≠ key

/-- Takes out the entry under a key; yields its value. -/
def take (roster : Roster κ α) (key : κ) : Option α × Roster κ α :=
  (roster.find? key, roster.erase key)

/-- Takes out the entry under a key; tells whether there was one. -/
def delete (roster : Roster κ α) (key : κ) : Bool × Roster κ α :=
  (roster.contains key, roster.erase key)

/-- Gives a key a value: in the place of the old one, or at the end. -/
def set (roster : Roster κ α) (key : κ) (value : α) : Roster κ α :=
  if h : roster.contains key = true then
    roster.mapValues fun k a => if k = key then value else a
  else roster.push key value h

end Roster

end Gatekeeper
