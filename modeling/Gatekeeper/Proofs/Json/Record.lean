import Gatekeeper.Proofs.Json.RoundTrip

/-!
# `Gatekeeper.Proofs.Json.Record`: records are read back from their objects

A record is written as an object with the fields that are there. Its names are told apart, so
every slot is found again under its name, and a field that is left out is an empty slot.

* `slots?_object`: the slots of a record's object.
* `required?_some`, `optional?_map`: a field is read back from its slot.
* `bytes?_ofBytes`: bytes are read back from the array of their numbers.
* `plain_object`: the object is plain if the values of its fields are.
-/

set_option autoImplicit false

namespace Gatekeeper.Json

variable {fields : List (String × Option Value)}

/-- The fields that are there, as an object keeps them. -/
def present (fields : List (String × Option Value)) : List (Option String × Value) :=
  fields.filterMap fun (name, slot) => slot.map fun value => (some name, value)

/-- An object has the fields that are present. -/
theorem object_eq (fields : List (String × Option Value)) :
    object fields = .object (present fields) := rfl

/-- A field is present if it has a value. -/
theorem present_cons (name : String) (slot : Option Value) (fields : List (String × Option Value)) :
    present ((name, slot) :: fields) =
      (slot.map fun value => (some name, value)).toList ++ present fields := by
  cases slot <;> rfl

/-- The present fields are those that have a value, each under its name. -/
theorem mem_present {key : Option String} {value : Value} :
    (key, value) ∈ present fields ↔ ∃ name, key = some name ∧ (name, some value) ∈ fields := by
  unfold present
  simp only [List.mem_filterMap, Prod.exists, Option.map_eq_some_iff, Prod.mk.injEq]
  constructor
  · rintro ⟨name, slot, hmem, value', hslot, hkey, hvalue⟩
    rw [hslot, hvalue] at hmem
    exact ⟨name, hkey.symm, hmem⟩
  · rintro ⟨name, hkey, hmem⟩
    exact ⟨name, some value, hmem, value, rfl, hkey.symm, rfl⟩

/-- The first field has the name and is there, or the name is looked for among the others. -/
theorem fieldValue?_present_cons (name name' : String) (slot : Option Value)
    (fields : List (String × Option Value)) :
    fieldValue? name (present ((name', slot) :: fields)) =
      (if name' = name then slot else none).or (fieldValue? name (present fields)) := by
  cases slot with
  | none =>
    rw [ite_self, Option.none_or]
    rfl
  | some value =>
    rw [present_cons]
    show (if some name' = some name then some value else fieldValue? name (present fields)) = _
    by_cases heq : name' = name
    · rw [if_pos heq, if_pos (congrArg some heq), Option.some_or]
    · rw [if_neg heq, if_neg fun hsome => heq (Option.some.inj hsome), Option.none_or]

/-- A name that no field has is not found. -/
theorem fieldValue?_of_not_mem {name : String} (h : name ∉ fields.map Prod.fst) :
    fieldValue? name (present fields) = none := by
  induction fields with
  | nil => rfl
  | cons field fields ih =>
    obtain ⟨name', slot⟩ := field
    rw [List.map_cons, List.mem_cons, not_or] at h
    have hne : name' ≠ name := fun heq => h.1 heq.symm
    rw [fieldValue?_present_cons, if_neg hne, ih h.2, Option.none_or]

/-- Under the name of a field stands its slot, if no other field has the name. -/
theorem fieldValue?_present {name : String} {slot : Option Value}
    (hnodup : (fields.map Prod.fst).Nodup) (hmem : (name, slot) ∈ fields) :
    fieldValue? name (present fields) = slot := by
  induction fields with
  | nil => cases hmem
  | cons field fields ih =>
    obtain ⟨name', slot'⟩ := field
    rw [List.map_cons, List.nodup_cons] at hnodup
    rw [fieldValue?_present_cons]
    cases hmem with
    -- Fields that follow have other names, so the first one is not overwritten.
    | head => rw [if_pos rfl, fieldValue?_of_not_mem hnodup.1, Option.or_none]
    | tail _ hmem =>
      have hne : name' ≠ name := by
        intro heq
        have hname : name ∈ fields.map Prod.fst := List.mem_map_of_mem hmem
        rw [← heq] at hname
        exact hnodup.1 hname
      rw [if_neg hne, ih hnodup.2 hmem, Option.none_or]

/-- A name stands in an object at most as often as among the names of the fields. -/
theorem countP_present_le (name : String) (fields : List (String × Option Value)) :
    (present fields).countP (fun (key, _) => key = some name) ≤
      (fields.map Prod.fst).count name := by
  induction fields with
  | nil => exact Nat.le_refl 0
  | cons field fields ih =>
    obtain ⟨name', slot⟩ := field
    rw [List.map_cons, List.count_cons]
    cases slot with
    | none => exact Nat.le_trans ih (Nat.le_add_right _ _)
    | some value =>
      rw [present_cons]
      show List.countP _ ((some name', value) :: present fields) ≤ _
      rw [List.countP_cons]
      by_cases heq : name' = name <;> simp [heq] <;> omega

/-- Fields under distinct names are well keyed: each has its name, and no name comes twice. -/
theorem wellKeyed_present (hnodup : (fields.map Prod.fst).Nodup) :
    wellKeyed (fields.map Prod.fst) (present fields) = true := by
  unfold wellKeyed
  rw [Bool.and_eq_true, List.all_eq_true, List.all_eq_true]
  constructor
  · intro field hmem
    obtain ⟨key, value⟩ := field
    obtain ⟨name, hkey, -⟩ := mem_present.mp hmem
    rw [hkey]
    rfl
  · intro name _
    have hcount := countP_present_le name fields
    -- A name occurs at most once among all fields, so at most once among those present.
    have hone := List.nodup_iff_count.mp hnodup name
    exact decide_eq_true (Nat.le_trans hcount hone)

/-- The slots of a record's object are those it was made of. -/
theorem slots?_object (fields : List (String × Option Value))
    (hnodup : (fields.map Prod.fst).Nodup) :
    slots? (fields.map Prod.fst) (object fields) = some (fields.map Prod.snd) := by
  rw [object_eq, slots?, if_pos (wellKeyed_present hnodup), List.map_map]
  congr 1
  apply List.map_congr_left
  intro field hmem
  exact fieldValue?_present hnodup hmem

/-! ### Contents of fields -/

/-- A text is read back. -/
theorem text?_ofText (text : String) : text? (ofText text) = some text := rfl

/-- A text is a plain value. -/
@[simp]
theorem plain_ofText (text : String) : (ofText text).Plain := .string text

/-- A switch is read back. -/
theorem bool?_bool (b : Bool) : bool? (.bool b) = some b := rfl

/-- A switch is a plain value. -/
@[simp]
theorem plain_bool (b : Bool) : (Value.bool b).Plain := .bool b

/-- A required field is read back from its slot, if its content is. -/
theorem required?_some {α : Type} {read : Value → Option α} {write : α → Value}
    (hread : ∀ a, read (write a) = some a) (a : α) :
    required? read (some (write a)) = some a := by
  rw [required?, Option.bind_some, hread]

/-- An optional field is read back from its slot, if its content is and is never written as
null. -/
theorem optional?_map {α : Type} {read : Value → Option α} {write : α → Value}
    (hread : ∀ a, read (write a) = some a) (hnull : ∀ a, write a ≠ .null) (slot : Option α) :
    optional? read (slot.map write) = some slot := by
  cases slot with
  | none => rfl
  | some a =>
    show optional? read (some (write a)) = _
    rw [optional?.eq_3 _ _ fun h => hnull a h, hread]
    rfl

/-- A byte is read back from its digits. -/
theorem byte?_write (b : UInt8) : byte? (.number (Text.Decimal.write b.toNat)) = some b := by
  have hread : Text.Decimal.read 256 (Text.Decimal.write b.toNat) = .ok b.toNat :=
    Text.Decimal.read_eq_ok_iff.mpr ⟨Text.Decimal.isNumeral_write b.toNat, b.toNat_lt⟩
  rw [byte?, hread]
  exact congrArg some UInt8.ofNat_toNat

/-- Bytes are read back from the array of their numbers. -/
theorem bytes?_ofBytes (bytes : List UInt8) : bytes? (ofBytes bytes) = some bytes := by
  show (bytes.map fun b => Value.number (Text.Decimal.write b.toNat)).mapM byte? = some bytes
  induction bytes with
  | nil => rfl
  | cons b bytes ih =>
    rw [List.map_cons, List.mapM_cons, byte?_write, ih]
    rfl

/-- The array of the numbers of bytes is a plain value. -/
@[simp]
theorem plain_ofBytes (bytes : List UInt8) : (ofBytes bytes).Plain := by
  apply Value.Plain.array
  intro item hmem
  obtain ⟨b, -, rfl⟩ := List.mem_map.mp hmem
  exact .number b.toNat

/-! ### Objects -/

/-- The object of a record is plain if the values of its fields are. -/
theorem plain_object (h : ∀ slot ∈ fields.map Prod.snd, ∀ value ∈ slot, value.Plain) :
    (object fields).Plain := by
  rw [object_eq]
  refine .object _ ?_ ?_
  · intro field hmem
    obtain ⟨name, hkey, -⟩ := mem_present.mp hmem
    rw [hkey]
    rfl
  · intro field hmem
    obtain ⟨name, -, hfield⟩ := mem_present.mp hmem
    exact h _ (List.mem_map_of_mem hfield) field.2 rfl

end Gatekeeper.Json
