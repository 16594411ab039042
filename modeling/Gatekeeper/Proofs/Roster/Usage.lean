import Gatekeeper.Proofs.Roster
import Mathlib.Data.Finmap

/-!
# `Gatekeeper.Proofs.Roster.Usage`: a roster in the hands of many callers

Any number of callers share one roster. A call on one key holds that key's lock from start to
end, so whatever the callers do, their calls on it come one after another; a run is a list of
calls in the order in which they took effect, and nothing is assumed about that order.

Calls on all keys, that is `size`, `isEmpty` and `snapshot`, hold no lock on everything. The
entries are spread over shards, and such a call visits the shards one after another, while the
others go on. As calls of a run they are those that nobody gets into. For the others, `visits`
has the rosters that the visits find, and `walk` and `tally` put together what they see.

What the callers are told is compared with a finite map of Mathlib's (`Finmap`), which knows
nothing of lists of entries or of their order.

* `does_serve`, `runs_transcript`: one call, and then a run, answers as the finite map does.
* `change_cases`: the three things that a call can be to a key.
* `added_transcript`, `latest_transcript`: the calls that had an effect, counted over a run.
* `mem_pairs_iff`, `nodup_pairs`: what a walk over the shards lists.
* `refines_finmap`: all of it, about rosters that started empty.
-/

set_option autoImplicit false

namespace Gatekeeper.Roster

universe u v w

/-- Finite maps, the specification of rosters. -/
abbrev FiniteMap (κ : Type u) (α : Type v) := Finmap fun _ : κ => α

/-- A call on a roster. -/
inductive Op (κ : Type u) (α : Type v) where
  | add (key : κ) (value : α)
  | delete (key : κ)
  | take (key : κ)
  | load (key : κ)
  | contains (key : κ)
  | size
  | isEmpty
  | snapshot
deriving DecidableEq, Repr

/-- What a caller is told. -/
inductive Answer (κ : Type u) (α : Type v) where
  | told (yes : Bool)
  | value (found : Option α)
  | count (number : Nat)
  | listed (keys : List κ) (values : List α)
deriving DecidableEq, Repr

/-- A call that was answered. -/
structure Entry (ι : Type w) (κ : Type u) (α : Type v) where
  caller : ι
  op : Op κ α
  answer : Answer κ α
deriving DecidableEq, Repr

variable {κ : Type u} {α : Type v} {ι : Type w}

/-! ### Shards -/

/-- The entries of one shard. -/
def shard (shardOf : κ → Nat) (place : Nat) (roster : Roster κ α) : Roster κ α :=
  roster.filter fun key _ => shardOf key = place

/-- What `snapshot` lists if it visits the shards from `place` on, one in each roster. -/
def walk (shardOf : κ → Nat) (place : Nat) : List (Roster κ α) → List κ × List α
  | [] => ([], [])
  | roster :: rest =>
    let (keys, values) := (roster.shard shardOf place).snapshot
    let (moreKeys, moreValues) := walk shardOf (place + 1) rest
    (keys ++ moreKeys, values ++ moreValues)

/-- What `size` counts if it visits the shards from `place` on, one in each roster. -/
def tally (shardOf : κ → Nat) (place : Nat) : List (Roster κ α) → Nat
  | [] => 0
  | roster :: rest => (roster.shard shardOf place).size + tally shardOf (place + 1) rest

/-- The entries that a walk comes by. -/
def pairs (shardOf : κ → Nat) (place : Nat) : List (Roster κ α) → List (κ × α)
  | [] => []
  | roster :: rest => (roster.shard shardOf place).entries ++ pairs shardOf (place + 1) rest

/-- A walk lists the keys and the values of the entries that it comes by. -/
theorem walk_eq (shardOf : κ → Nat) (place : Nat) (rosters : List (Roster κ α)) :
    walk shardOf place rosters =
      ((pairs shardOf place rosters).map Prod.fst, (pairs shardOf place rosters).map Prod.snd) := by
  induction rosters generalizing place with
  | nil => rfl
  | cons roster rest ih =>
    rw [pairs, List.map_append, List.map_append, walk, ih]
    rfl

/-- A tally counts the entries that a walk comes by. -/
theorem tally_eq (shardOf : κ → Nat) (place : Nat) (rosters : List (Roster κ α)) :
    tally shardOf place rosters = (pairs shardOf place rosters).length := by
  induction rosters generalizing place with
  | nil => rfl
  | cons roster rest ih =>
    rw [pairs, List.length_append, tally, ih]
    rfl

variable [DecidableEq κ]

/-! ### Runs of calls -/

/-- Serves one call: its answer, and the roster from then on. -/
def Op.serve (roster : Roster κ α) : Op κ α → Answer κ α × Roster κ α
  | .add key value => (.told (roster.add key value).1, (roster.add key value).2)
  | .delete key => (.told (roster.delete key).1, (roster.delete key).2)
  | .take key => (.value (roster.take key).1, (roster.take key).2)
  | .load key => (.value (roster.find? key), roster)
  | .contains key => (.told (roster.contains key), roster)
  | .size => (.count roster.size, roster)
  | .isEmpty => (.told roster.isEmpty, roster)
  | .snapshot => (.listed roster.snapshot.1 roster.snapshot.2, roster)

/-- The roster after calls, each with its caller. -/
def run (roster : Roster κ α) : List (ι × Op κ α) → Roster κ α
  | [] => roster
  | (_, op) :: calls => run (op.serve roster).2 calls

/-- The calls with their answers. -/
def transcript (roster : Roster κ α) : List (ι × Op κ α) → List (Entry ι κ α)
  | [] => []
  | (caller, op) :: calls =>
    ⟨caller, op, (op.serve roster).1⟩ :: transcript (op.serve roster).2 calls

/-- The calls of two parts are answered one part after the other. -/
theorem transcript_append (roster : Roster κ α) (calls more : List (ι × Op κ α)) :
    roster.transcript (calls ++ more) =
      roster.transcript calls ++ (roster.run calls).transcript more := by
  induction calls generalizing roster with
  | nil => rfl
  | cons call calls ih =>
    show _ :: transcript (call.2.serve roster).2 (calls ++ more) = _ :: (_ ++ _)
    rw [ih]
    rfl

/-! ### The finite map -/

/-- `op.Does map answer next`: a finite map answers so, and is `next` from then on. -/
inductive Op.Does : FiniteMap κ α → Op κ α → Answer κ α → FiniteMap κ α → Prop
  | added {map : FiniteMap κ α} {key : κ} {value : α} (habsent : key ∉ map) :
      Does map (.add key value) (.told true) (map.insert key value)
  | refused {map : FiniteMap κ α} {key : κ} {value : α} (hpresent : key ∈ map) :
      Does map (.add key value) (.told false) map
  | deleted {map : FiniteMap κ α} {key : κ} (hpresent : key ∈ map) :
      Does map (.delete key) (.told true) (map.erase key)
  | nothingDeleted {map : FiniteMap κ α} {key : κ} (habsent : key ∉ map) :
      Does map (.delete key) (.told false) map
  | taken {map : FiniteMap κ α} {key : κ} {value : α} (hfound : map.lookup key = some value) :
      Does map (.take key) (.value (some value)) (map.erase key)
  | nothingTaken {map : FiniteMap κ α} {key : κ} (habsent : key ∉ map) :
      Does map (.take key) (.value none) map
  | loaded {map : FiniteMap κ α} {key : κ} :
      Does map (.load key) (.value (map.lookup key)) map
  | contains {map : FiniteMap κ α} {key : κ} {yes : Bool} (hyes : yes = true ↔ key ∈ map) :
      Does map (.contains key) (.told yes) map
  | size {map : FiniteMap κ α} : Does map .size (.count map.keys.card) map
  | isEmpty {map : FiniteMap κ α} {yes : Bool} (hyes : yes = true ↔ map = ∅) :
      Does map .isEmpty (.told yes) map
  | snapshot {map : FiniteMap κ α} {keys : List κ} {values : List α} (hnodup : keys.Nodup)
      (hkeys : ∀ key, key ∈ keys ↔ key ∈ map)
      (hvalues : keys.map map.lookup = values.map some) :
      Does map .snapshot (.listed keys values) map

/-- `Runs map log last`: a finite map gives the answers of a log, one after another. -/
inductive Runs : FiniteMap κ α → List (Entry ι κ α) → FiniteMap κ α → Prop
  | nil {map : FiniteMap κ α} : Runs map [] map
  | cons {map next last : FiniteMap κ α} {entry : Entry ι κ α} {log : List (Entry ι κ α)}
      (hentry : entry.op.Does map entry.answer next) (hlog : Runs next log last) :
      Runs map (entry :: log) last

/-- A roster as a finite map: the order of its entries does not count. -/
def toFinmap (roster : Roster κ α) : FiniteMap κ α :=
  AList.toFinmap ⟨roster.entries.map fun (key, value) => ⟨key, value⟩, by
    have hkeys : (roster.entries.map fun (key, value) => (⟨key, value⟩ : (_ : κ) × α)).keys =
        roster.entries.map Prod.fst := by simp [List.keys, Function.comp_def]
    rw [List.NodupKeys, hkeys]
    exact roster.nodup_keys⟩

/-- The finite map has what the roster finds. -/
@[simp] theorem lookup_toFinmap (roster : Roster κ α) (key : κ) :
    roster.toFinmap.lookup key = roster.find? key := by
  apply Option.ext
  intro value
  rw [find?_eq_some_iff, toFinmap, Finmap.lookup_toFinmap]
  refine (List.mem_dlookup_iff (AList.nodupKeys _)).trans ?_
  simp

/-- A key is in the finite map just if the roster contains it. -/
theorem mem_toFinmap {roster : Roster κ α} {key : κ} :
    key ∈ roster.toFinmap ↔ roster.contains key = true := by
  rw [← Finmap.lookup_isSome, lookup_toFinmap, contains]

/-- A key is not in the finite map just if the roster finds nothing under it. -/
theorem notMem_toFinmap {roster : Roster κ α} {key : κ} :
    key ∉ roster.toFinmap ↔ roster.find? key = none := by
  rw [← Finmap.lookup_eq_none, lookup_toFinmap]

/-- Adding a key that is not there inserts it in the finite map. -/
theorem toFinmap_add {roster : Roster κ α} {key : κ} (value : α)
    (h : roster.find? key = none) :
    (roster.add key value).2.toFinmap = roster.toFinmap.insert key value := by
  refine Finmap.ext_lookup fun other => ?_
  rw [lookup_toFinmap, find?_add, h]
  by_cases hkey : other = key
  · subst hkey
    simp
  · rw [if_neg hkey, Finmap.lookup_insert_of_ne _ hkey, lookup_toFinmap]

/-- Erasing a key erases it from the finite map. -/
theorem toFinmap_erase (roster : Roster κ α) (key : κ) :
    (roster.erase key).toFinmap = roster.toFinmap.erase key := by
  refine Finmap.ext_lookup fun other => ?_
  rw [lookup_toFinmap, find?_erase]
  by_cases hkey : other = key
  · subst hkey
    simp
  · rw [if_neg hkey, Finmap.lookup_erase_ne hkey, lookup_toFinmap]

/-- Pairs of keys and values, each key once and with the value that is found under it, list a
finite map. -/
theorem does_snapshot {roster : Roster κ α} {pairs : List (κ × α)}
    (hnodup : (pairs.map Prod.fst).Nodup)
    (hpairs : ∀ key value, (key, value) ∈ pairs ↔ roster.find? key = some value) :
    Op.Does roster.toFinmap .snapshot (.listed (pairs.map Prod.fst) (pairs.map Prod.snd))
      roster.toFinmap := by
  refine .snapshot hnodup (fun key => ?_) ?_
  · rw [mem_toFinmap, contains, Option.isSome_iff_exists]
    simp [hpairs]
  · rw [List.map_map, List.map_map]
    refine List.map_congr_left fun entry hmem => ?_
    show roster.toFinmap.lookup entry.1 = some entry.2
    rw [lookup_toFinmap, (hpairs entry.1 entry.2).mp hmem]

/-- As many pairs as a finite map has keys. -/
theorem does_size {roster : Roster κ α} {pairs : List (κ × α)}
    (hnodup : (pairs.map Prod.fst).Nodup)
    (hpairs : ∀ key value, (key, value) ∈ pairs ↔ roster.find? key = some value) :
    Op.Does roster.toFinmap .size (.count pairs.length) roster.toFinmap := by
  have hkeys : roster.toFinmap.keys = (pairs.map Prod.fst).toFinset := by
    ext key
    rw [Finmap.mem_keys, mem_toFinmap, contains, Option.isSome_iff_exists, List.mem_toFinset]
    simp [hpairs]
  have hcard : pairs.length = roster.toFinmap.keys.card := by
    rw [hkeys, List.toFinset_card_of_nodup hnodup, List.length_map]
  rw [hcard]
  exact .size

/-- No pair exactly if a finite map is empty. -/
theorem does_isEmpty {roster : Roster κ α} {pairs : List (κ × α)} {yes : Bool}
    (hpairs : ∀ key value, (key, value) ∈ pairs ↔ roster.find? key = some value)
    (hyes : yes = true ↔ pairs = []) :
    Op.Does roster.toFinmap .isEmpty (.told yes) roster.toFinmap := by
  refine .isEmpty (hyes.trans ⟨fun hnone => ?_, fun hempty => ?_⟩)
  · subst hnone
    refine Finmap.ext_lookup fun key => ?_
    rw [lookup_toFinmap, Finmap.lookup_empty]
    exact Option.eq_none_iff_forall_ne_some.mpr fun value hfound =>
      List.not_mem_nil ((hpairs key value).mpr hfound)
  · refine List.eq_nil_iff_forall_not_mem.mpr fun entry hmem => ?_
    have hfound := (hpairs entry.1 entry.2).mp hmem
    rw [← lookup_toFinmap, hempty, Finmap.lookup_empty] at hfound
    cases hfound

/-- **One call.** A roster answers every call as the finite map of its entries does, and what it
is then is what the finite map is then. -/
theorem does_serve (roster : Roster κ α) (op : Op κ α) :
    op.Does roster.toFinmap (op.serve roster).1 (op.serve roster).2.toFinmap := by
  -- An erased key that was absent leaves the roster as it is.
  have herase : ∀ {key}, key ∉ roster.toFinmap → roster.erase key = roster :=
    fun habsent => erase_eq_self (notMem_toFinmap.mp habsent)
  cases op with
  | add key value =>
    show Op.Does _ _ (.told (roster.add key value).1) (roster.add key value).2.toFinmap
    by_cases hkey : roster.contains key = true
    · have hadd : roster.add key value = (false, roster) := by rw [add, dif_pos hkey]
      rw [hadd]
      exact .refused (mem_toFinmap.mpr hkey)
    · have hnone : roster.find? key = none := by simpa [contains] using hkey
      have htold : (roster.add key value).1 = true := by rw [add, dif_neg hkey]
      rw [htold, toFinmap_add value hnone]
      exact .added (notMem_toFinmap.mpr hnone)
  | delete key =>
    show Op.Does _ _ (.told (roster.contains key)) (roster.erase key).toFinmap
    by_cases hkey : key ∈ roster.toFinmap
    · rw [mem_toFinmap.mp hkey, toFinmap_erase]
      exact .deleted hkey
    · rw [herase hkey, contains_eq_false_iff.mpr (notMem_toFinmap.mp hkey)]
      exact .nothingDeleted hkey
  | take key =>
    show Op.Does _ _ (.value (roster.find? key)) (roster.erase key).toFinmap
    cases hfound : roster.find? key with
    | none =>
      have habsent := notMem_toFinmap.mpr hfound
      rw [herase habsent]
      exact .nothingTaken habsent
    | some value =>
      rw [toFinmap_erase]
      exact .taken (by rw [lookup_toFinmap, hfound])
  | load key =>
    show Op.Does _ _ (.value (roster.find? key)) _
    rw [← lookup_toFinmap]
    exact .loaded
  | contains key => exact .contains mem_toFinmap.symm
  | size => exact does_size roster.nodup_keys fun _ _ => find?_eq_some_iff.symm
  | isEmpty => exact does_isEmpty (fun _ _ => find?_eq_some_iff.symm) List.isEmpty_iff
  | snapshot => exact does_snapshot roster.nodup_keys fun _ _ => find?_eq_some_iff.symm

/-- **A run.** Callers of a roster are told what callers of a finite map are told. -/
theorem runs_transcript (roster : Roster κ α) (calls : List (ι × Op κ α)) :
    Runs roster.toFinmap (roster.transcript calls) (roster.run calls).toFinmap := by
  induction calls generalizing roster with
  | nil => exact .nil
  | cons call calls ih =>
    exact .cons (does_serve roster call.2) (ih (call.2.serve roster).2)

/-! ### The calls that have an effect -/

/-- The value that a call added under a key. -/
def Entry.added? (key : κ) (entry : Entry ι κ α) : Option α :=
  match entry.op, entry.answer with
  | .add other value, .told true => if other = key then some value else none
  | _, _ => none

/-- Whether a call removed the entry under a key. -/
def Entry.removes (key : κ) (entry : Entry ι κ α) : Bool :=
  match entry.op, entry.answer with
  | .delete other, .told true => other = key
  | .take other, .value (some _) => other = key
  | _, _ => false

/-- The number of calls that added under a key. -/
def added (key : κ) (log : List (Entry ι κ α)) : Nat :=
  log.countP fun entry => (entry.added? key).isSome

/-- The number of calls that removed what was under a key. -/
def removed (key : κ) (log : List (Entry ι κ α)) : Nat :=
  log.countP (·.removes key)

/-- The value that was added last under a key. -/
def latest? (key : κ) (log : List (Entry ι κ α)) : Option α :=
  log.reverse.findSome? (·.added? key)

/-- What a call is to a key that finds `before` when it comes, and `after` when it is over. -/
inductive Change (key : κ) (entry : Entry ι κ α) : Option α → Option α → Prop
  | added {value : α} (hadded : entry.added? key = some value)
      (hremoves : entry.removes key = false) : Change key entry none (some value)
  | removed {value : α} (hadded : entry.added? key = none)
      (hremoves : entry.removes key = true) : Change key entry (some value) none
  | kept {found : Option α} (hadded : entry.added? key = none)
      (hremoves : entry.removes key = false) : Change key entry found found

/-- A call adds under a key that finds nothing, or it removes what is found, or it leaves the key
alone. -/
theorem change_cases (roster : Roster κ α) (caller : ι) (op : Op κ α) (key : κ) :
    Change key (⟨caller, op, (op.serve roster).1⟩ : Entry ι κ α) (roster.find? key)
      ((op.serve roster).2.find? key) := by
  -- Removal is the same whether or not the value is told.
  have hremoval : ∀ {entry : Entry ι κ α} {other : κ}, entry.added? key = none →
      entry.removes key = (decide (other = key) && roster.contains other) →
      Change key entry (roster.find? key) ((roster.erase other).find? key) := by
    intro entry other hadded hremoves
    rw [find?_erase]
    by_cases hkey : key = other
    · subst hkey
      rw [if_pos rfl]
      cases hfound : roster.find? key with
      | none => exact .kept hadded (by simpa [contains, hfound] using hremoves)
      | some value => exact .removed hadded (by simpa [contains, hfound] using hremoves)
    · rw [if_neg hkey]
      exact .kept hadded (by simpa [Ne.symm hkey] using hremoves)
  cases op with
  | add other value =>
    show Change key _ _ ((roster.add other value).2.find? key)
    by_cases hother : roster.contains other = true
    · have hadd : roster.add other value = (false, roster) := by rw [add, dif_pos hother]
      simp only [Op.serve, hadd]
      exact .kept rfl rfl
    · have hnone : roster.find? other = none := by simpa [contains] using hother
      have htold : (roster.add other value).1 = true := by rw [add, dif_neg hother]
      simp only [Op.serve, htold, find?_add, hnone, Option.getD_none]
      by_cases hkey : key = other
      · subst hkey
        rw [if_pos rfl, hnone]
        exact .added (by simp [Entry.added?]) rfl
      · rw [if_neg hkey]
        exact .kept (by simp [Entry.added?, Ne.symm hkey]) rfl
  | delete other =>
    refine hremoval rfl ?_
    show Entry.removes key ⟨caller, .delete other, .told (roster.contains other)⟩ = _
    cases roster.contains other <;> simp [Entry.removes]
  | take other =>
    refine hremoval rfl ?_
    show Entry.removes key ⟨caller, .take other, .value (roster.find? other)⟩ = _
    rw [contains]
    cases roster.find? other <;> simp [Entry.removes]
  | load other => exact .kept rfl rfl
  | contains other => exact .kept rfl rfl
  | size => exact .kept rfl rfl
  | isEmpty => exact .kept rfl rfl
  | snapshot => exact .kept rfl rfl

/-- The calls that added under a key are those that removed what was there, and one more if the
key finds something in the end, or one fewer if it did at the start. -/
theorem added_transcript (roster : Roster κ α) (calls : List (ι × Op κ α)) (key : κ) :
    (roster.contains key).toNat + added key (roster.transcript calls) =
      removed key (roster.transcript calls) + ((roster.run calls).contains key).toNat := by
  induction calls generalizing roster with
  | nil => simp [transcript, run, added, removed]
  | cons call calls ih =>
    obtain ⟨caller, op⟩ := call
    have hrest := ih (op.serve roster).2
    have hchange := change_cases roster caller op key
    simp only [transcript, run, added, removed, List.countP_cons, contains] at hrest ⊢
    -- Only what is found under the key before and after the call matters.
    generalize roster.find? key = before at hchange hrest ⊢
    generalize (op.serve roster).2.find? key = after at hchange hrest
    cases hchange with
    | added hadded hremoves =>
      simp only [hadded, hremoves, Option.isSome_some, Option.isSome_none, Bool.toNat_true,
        Bool.toNat_false] at hrest ⊢
      simp only [if_true, Bool.false_eq_true, if_false]
      omega
    | removed hadded hremoves =>
      simp only [hadded, hremoves, Option.isSome_some, Option.isSome_none, Bool.toNat_true,
        Bool.toNat_false] at hrest ⊢
      simp only [if_true, Bool.false_eq_true, if_false]
      omega
    | kept hadded hremoves =>
      simp only [hadded, hremoves, Option.isSome_none, Bool.false_eq_true, if_false]
      omega

/-- What a key finds was added last, or has been there from the start. -/
theorem latest_transcript {roster : Roster κ α} {calls : List (ι × Op κ α)} {key : κ} {value : α}
    (h : (roster.run calls).find? key = some value) :
    (latest? key (roster.transcript calls)).or (roster.find? key) = some value := by
  induction calls generalizing roster with
  | nil => simpa [transcript, latest?, run] using h
  | cons call calls ih =>
    obtain ⟨caller, op⟩ := call
    have hrest : (latest? key ((op.serve roster).2.transcript calls)).or
        ((op.serve roster).2.find? key) = some value := ih h
    have hchange := change_cases roster caller op key
    rw [transcript, latest?, List.reverse_cons, List.findSome?_append, ← latest?, Option.or_assoc]
    generalize roster.find? key = before at hchange ⊢
    generalize (op.serve roster).2.find? key = after at hchange hrest
    cases hchange with
    | added hadded _ => simpa [hadded] using hrest
    | removed hadded _ =>
      -- Nothing is there after this call, so the value was added by a later one.
      have hlater : latest? key ((op.serve roster).2.transcript calls) = some value := by
        simpa using hrest
      simp [hlater]
    | kept hadded _ => simpa [hadded] using hrest

/-- Calls that neither add nor remove leave every key as it is. -/
theorem find?_run_of_quiet {roster : Roster κ α} {calls : List (ι × Op κ α)} {key : κ}
    (hadded : added key (roster.transcript calls) = 0)
    (hremoved : removed key (roster.transcript calls) = 0) :
    (roster.run calls).find? key = roster.find? key := by
  induction calls generalizing roster with
  | nil => rfl
  | cons call calls ih =>
    obtain ⟨caller, op⟩ := call
    have hchange := change_cases roster caller op key
    simp only [transcript, added, removed, List.countP_cons, Nat.add_eq_zero_iff] at hadded hremoved
    have hrest := ih hadded.1 hremoved.1
    refine Eq.trans (b := (op.serve roster).2.find? key) hrest ?_
    generalize roster.find? key = before at hchange ⊢
    generalize (op.serve roster).2.find? key = after at hchange ⊢
    -- A count of zero leaves only the case in which the call kept the key.
    cases hchange with
    | added hnew _ => simp [hnew] at hadded
    | removed _ hgone => simp [hgone] at hremoved
    | kept _ _ => rfl

/-- The key that a call may add or remove. -/
def Op.key? : Op κ α → Option κ
  | .add key _ | .delete key | .take key => some key
  | .load _ | .contains _ | .size | .isEmpty | .snapshot => none

/-- Whether an answer says that a call meant to add or remove, and did not. -/
def Op.Fails : Op κ α → Answer κ α → Prop
  | .add _ _, answer => answer = .told false
  | .delete _, answer => answer = .told false
  | .take _, answer => answer = .value none
  | _, _ => False

/-- A call that meant to change the roster, and did not, left it as it was. -/
theorem serve_of_fails {roster : Roster κ α} {op : Op κ α} (h : op.Fails (op.serve roster).1) :
    (op.serve roster).2 = roster := by
  cases op with
  | add key value =>
    have htold : (roster.add key value).1 = false := Answer.told.inj h
    show (roster.add key value).2 = roster
    unfold add at htold ⊢
    split at htold
    · next hkey => rw [dif_pos hkey]
    · cases htold
  | delete key =>
    have htold : roster.contains key = false := Answer.told.inj h
    exact erase_eq_self (contains_eq_false_iff.mp htold)
  | take key => exact erase_eq_self (Answer.value.inj h)
  -- Calls that only look cannot fail to change.
  | load key => exact h.elim
  | contains key => exact h.elim
  | size => exact h.elim
  | isEmpty => exact h.elim
  | snapshot => exact h.elim

/-- A call that changes one key leaves every other one alone. -/
theorem find?_serve_of_ne {roster : Roster κ α} {op : Op κ α} {other : κ}
    (h : op.key? ≠ some other) : (op.serve roster).2.find? other = roster.find? other := by
  cases op with
  | add key value =>
    have hne : other ≠ key := fun heq => h (congrArg some heq.symm)
    exact (find?_add roster key value other).trans (if_neg hne)
  | delete key =>
    have hne : other ≠ key := fun heq => h (congrArg some heq.symm)
    exact (find?_erase roster key other).trans (if_neg hne)
  | take key =>
    have hne : other ≠ key := fun heq => h (congrArg some heq.symm)
    exact (find?_erase roster key other).trans (if_neg hne)
  | load key => rfl
  | contains key => rfl
  | size => rfl
  | isEmpty => rfl
  | snapshot => rfl

/-! ### Walks over the shards -/

/-- The rosters that a walk finds at its visits: before each of them, others make calls. -/
def visits (roster : Roster κ α) : List (List (ι × Op κ α)) → List (Roster κ α)
  | [] => []
  | calls :: rest => roster.run calls :: visits (roster.run calls) rest

/-- The entries of a shard are those whose keys belong there. -/
theorem mem_shard_iff {shardOf : κ → Nat} {place : Nat} {roster : Roster κ α} {key : κ}
    {value : α} : (key, value) ∈ (roster.shard shardOf place).entries ↔
      shardOf key = place ∧ roster.find? key = some value := by
  rw [shard, entries_filter, List.mem_filter, find?_eq_some_iff, decide_eq_true_eq, and_comm]

/-- A walk lists an entry exactly when its key finds it at the visit to the key's shard. -/
theorem mem_pairs_iff {shardOf : κ → Nat} {place : Nat} {rosters : List (Roster κ α)} {key : κ}
    {value : α} : (key, value) ∈ pairs shardOf place rosters ↔
      place ≤ shardOf key ∧
        ∃ roster ∈ rosters[shardOf key - place]?, roster.find? key = some value := by
  induction rosters generalizing place with
  | nil => simp [pairs]
  | cons roster rest ih =>
    rw [pairs, List.mem_append, mem_shard_iff, ih]
    rcases Nat.lt_trichotomy (shardOf key) place with hlt | heq | hgt
    · -- The walk started behind the key's shard.
      have hne : shardOf key ≠ place := by omega
      have hnot : ¬place + 1 ≤ shardOf key := by omega
      have hnot' : ¬place ≤ shardOf key := by omega
      simp [hne, hnot, hnot']
    · have hnot : ¬place + 1 ≤ shardOf key := by omega
      simp [heq]
    · have hne : shardOf key ≠ place := by omega
      have hnext : shardOf key - place = shardOf key - (place + 1) + 1 := by omega
      have hle : place + 1 ≤ shardOf key := by omega
      have hle' : place ≤ shardOf key := by omega
      rw [hnext, List.getElem?_cons_succ]
      simp [hne, hle, hle']

/-- A walk lists no key twice: no shard is visited twice. -/
theorem nodup_pairs (shardOf : κ → Nat) (place : Nat) (rosters : List (Roster κ α)) :
    ((pairs shardOf place rosters).map Prod.fst).Nodup := by
  induction rosters generalizing place with
  | nil => exact List.nodup_nil
  | cons roster rest ih =>
    rw [pairs, List.map_append]
    refine List.Nodup.append (shard shardOf place roster).nodup_keys (ih (place + 1)) ?_
    intro key hhere hlater
    obtain ⟨⟨key, value⟩, hentry, rfl⟩ := List.mem_map.mp hhere
    obtain ⟨⟨key', value'⟩, hentry', heq⟩ := List.mem_map.mp hlater
    have heq : key' = key := heq
    subst heq
    -- A key that is listed later has a later shard.
    have hplace := (mem_shard_iff.mp hentry).1
    have hplace' := (mem_pairs_iff.mp hentry').1
    omega

/-- A walk visits once after each gap. -/
@[simp] theorem length_visits (roster : Roster κ α) (gaps : List (List (ι × Op κ α))) :
    (roster.visits gaps).length = gaps.length := by
  induction gaps generalizing roster with
  | nil => rfl
  | cons calls rest ih => exact congrArg (· + 1) (ih (roster.run calls))

/-- While nobody adds or removes, all visits find what there was before. -/
theorem find?_visits_of_quiet {roster visited : Roster κ α} {gaps : List (List (ι × Op κ α))}
    {key : κ} (hadded : added key (roster.transcript gaps.flatten) = 0)
    (hremoved : removed key (roster.transcript gaps.flatten) = 0)
    (hvisited : visited ∈ roster.visits gaps) : visited.find? key = roster.find? key := by
  induction gaps generalizing roster with
  | nil => cases hvisited
  | cons calls rest ih =>
    rw [List.flatten_cons, transcript_append, added, List.countP_append, Nat.add_eq_zero_iff]
      at hadded
    rw [List.flatten_cons, transcript_append, removed, List.countP_append, Nat.add_eq_zero_iff]
      at hremoved
    have hcalls := find?_run_of_quiet hadded.1 hremoved.1
    rcases List.mem_cons.mp hvisited with rfl | hlater
    · exact hcalls
    · exact (ih hadded.2 hremoved.2 hlater).trans hcalls

/-- A walk over all shards while nobody adds or removes lists the roster. -/
theorem mem_pairs_of_quiet {roster : Roster κ α} {gaps : List (List (ι × Op κ α))}
    {shardOf : κ → Nat} (hshards : ∀ key, shardOf key < gaps.length)
    (hadded : ∀ key, added key (roster.transcript gaps.flatten) = 0)
    (hremoved : ∀ key, removed key (roster.transcript gaps.flatten) = 0) (key : κ) (value : α) :
    (key, value) ∈ pairs shardOf 0 (roster.visits gaps) ↔ roster.find? key = some value := by
  have hshard : shardOf key < (roster.visits gaps).length := by
    rw [length_visits]
    exact hshards key
  have hsame := find?_visits_of_quiet (hadded key) (hremoved key) (List.getElem_mem hshard)
  rw [mem_pairs_iff, Nat.sub_zero, List.getElem?_eq_getElem hshard]
  simp [hsame]

/-! ### Rosters that started empty -/

/-- **Rosters are finite maps, and their accounts are exact.** After any calls of any callers, in
any order, on a roster that was empty:

* all answers were those of a finite map, and the roster is that map now;
* under every key, calls that added and calls that removed differ by one if the key is present,
  and by nothing if it is absent;
* to load or to take a key yields the value that was added last under it, or nothing if the key
  is absent;
* a call that fails changes nothing, and none touches another key than its own;
* a snapshot has each key once, and its values in the places of their keys: the values that
  were found at the visits to the keys' shards, whatever others did between the visits. The
  number of entries is counted likewise;
* if nobody added or removed in the meantime, then both are answered as by the finite map, and
  so is whether there is any entry. -/
theorem refines_finmap (calls : List (ι × Op κ α)) :
    let roster : Roster κ α := run .empty calls
    let log := transcript .empty calls
    Runs ∅ log roster.toFinmap ∧
    (∀ key, (added key log : Int) - removed key log = if roster.contains key then 1 else 0) ∧
    (∀ key, ((Op.load key).serve roster).1 =
        .value (if roster.contains key then latest? key log else none) ∧
      ((Op.take key).serve roster).1 = ((Op.load key).serve roster).1) ∧
    (∀ op : Op κ α, (op.Fails (op.serve roster).1 → (op.serve roster).2 = roster) ∧
      ∀ other, op.key? ≠ some other →
        (op.serve roster).2.find? other = roster.find? other) ∧
    ∀ (shardOf : κ → Nat) (gaps : List (List (ι × Op κ α))),
      (∀ key, shardOf key < gaps.length) →
      let keys := (walk shardOf 0 (roster.visits gaps)).1
      let values := (walk shardOf 0 (roster.visits gaps)).2
      let count := tally shardOf 0 (roster.visits gaps)
      keys.Nodup ∧ keys.length = count ∧ values.length = count ∧
      (∀ key value, (key, value) ∈ keys.zip values ↔
        ∃ visited ∈ (roster.visits gaps)[shardOf key]?, visited.find? key = some value) ∧
      ((∀ key, added key (roster.transcript gaps.flatten) = 0 ∧
          removed key (roster.transcript gaps.flatten) = 0) →
        Op.Does roster.toFinmap .snapshot (.listed keys values) roster.toFinmap ∧
        Op.Does roster.toFinmap .size (.count count) roster.toFinmap ∧
        Op.Does roster.toFinmap .isEmpty (.told (count == 0)) roster.toFinmap) := by
  intro roster log
  refine ⟨?_, fun key => ?_, fun key => ⟨?_, rfl⟩,
    fun op => ⟨serve_of_fails, fun other => find?_serve_of_ne⟩, fun shardOf gaps hshards => ?_⟩
  · have hempty : (empty : Roster κ α).toFinmap = ∅ := rfl
    have hruns := runs_transcript (.empty : Roster κ α) calls
    rwa [hempty] at hruns
  -- An empty roster contains nothing, so what was added and what was removed make up the
  -- rest.
  · have hadded : 0 + added key log = removed key log + (roster.contains key).toNat :=
      added_transcript (.empty : Roster κ α) calls key
    cases hpresent : roster.contains key <;> rw [hpresent] at hadded
    · show _ = (0 : Int)
      rw [Bool.toNat_false] at hadded
      omega
    · show _ = (1 : Int)
      rw [Bool.toNat_true] at hadded
      omega
  · show Answer.value (roster.find? key) = _
    cases hfound : roster.find? key with
    | none => simp [contains, hfound]
    | some value =>
      have hlatest := latest_transcript hfound
      have hnone : (empty : Roster κ α).find? key = none := rfl
      rw [hnone, Option.or_none] at hlatest
      simp [contains, hfound, log, hlatest]
  -- A walk with others in between is a list of pairs, each from the visit to its key's
  -- shard.
  · rw [walk_eq, tally_eq]
    refine ⟨nodup_pairs _ _ _, List.length_map _, List.length_map _, fun key value => ?_,
      fun hquiet => ?_⟩
    · have hzip : ((pairs shardOf 0 (roster.visits gaps)).map Prod.fst).zip
          ((pairs shardOf 0 (roster.visits gaps)).map Prod.snd) =
          pairs shardOf 0 (roster.visits gaps) := by
        rw [List.zip_map']
        exact List.map_id _
      rw [hzip, mem_pairs_iff, Nat.sub_zero]
      exact and_iff_right (Nat.zero_le _)
    · have hnodup := nodup_pairs shardOf 0 (roster.visits gaps)
      -- With nobody in between, every visit finds the same roster.
      have hpairs := mem_pairs_of_quiet hshards (fun key => (hquiet key).1)
        fun key => (hquiet key).2
      refine ⟨does_snapshot hnodup hpairs, does_size hnodup hpairs, does_isEmpty hpairs ?_⟩
      exact beq_iff_eq.trans List.length_eq_zero_iff

/-- Two callers add under one key, one of them removes what is there, and the other adds again.
The walk goes over two shards, with a call in between that changes nothing. -/
theorem refines_finmap_of_reuse :
    let calls : List (String × Op Nat Char) := [("x", .add 4 'a'), ("y", .add 4 'b'),
      ("y", .delete 4), ("x", .add 4 'c'), ("z", .add 7 'd')]
    let roster : Roster Nat Char := run .empty calls
    let log := transcript .empty calls
    Runs ∅ log roster.toFinmap ∧
      ((added 4 log : Int) - removed 4 log = 1 ∧ ((Op.load 4).serve roster).1 = .value (some 'c')) ∧
      ((Op.add 4 'e').serve roster).2 = roster ∧
      Op.Does roster.toFinmap .snapshot (.listed [4, 7] ['c', 'd']) roster.toFinmap := by
  intro calls roster log
  obtain ⟨hruns, hcount, hload, hframe, hwalk⟩ := refines_finmap calls
  obtain ⟨-, -, -, -, hquiet⟩ := hwalk (· % 2) [[("x", .add 4 'f')], []]
    fun key => Nat.mod_lt key (by decide)
  -- The only call in between adds under a key that is there.
  have hnothing : ∀ key, added key (roster.transcript [("x", .add 4 'f')]) = 0 ∧
      removed key (roster.transcript [("x", .add 4 'f')]) = 0 := fun key => ⟨rfl, rfl⟩
  exact ⟨hruns, ⟨hcount 4, (hload 4).1⟩, (hframe (.add 4 'e')).1 rfl, (hquiet hnothing).1⟩

/-- A count over the shards is none of any one moment: here there is one entry at all times, and
two are counted, for it goes from the shard that was visited to the one that was not. -/
example :
    let before : Roster Nat Char := run .empty [((), .add 0 'a')]
    tally id 0 (before.visits [[], [((), .delete 0), ((), .add 1 'a')]]) = 2 := by decide

end Gatekeeper.Roster
