import Gatekeeper.Json.Value
import Gatekeeper.Text.Decimal

/-!
# `Gatekeeper.Json.Record`: records as JSON values

A record is read from an object with its fields in any order, or from an array
with its values in order. Unknown fields are skipped, a known field may appear
once, and a field that may be absent may also be null. It is written as an object
with the fields in order, absent ones left out.

* `slots?`: the values of the known fields.
* `required?`, `optional?`: the content of a slot.
* `object`: a record's value.
-/

set_option autoImplicit false

namespace Gatekeeper.Json

/-- The value under a key in a list of fields. -/
def fieldValue? (name : String) : List (Option String × Value) → Option Value
  | [] => none
  | (key, value) :: rest => if key = some name then some value else fieldValue? name rest

/-- Whether every key has a text and no known name appears twice. -/
def wellKeyed (names : List String) (fields : List (Option String × Value)) : Bool :=
  fields.all (fun (key, _) => key.isSome) &&
    names.all fun name => fields.countP (fun (key, _) => key = some name) ≤ 1

/-- The values that an object or array gives to the fields of a record. -/
def slots? (names : List String) : Value → Option (List (Option Value))
  | .object fields =>
    if wellKeyed names fields then some (names.map fun name => fieldValue? name fields) else none
  | .array items =>
    if items.length ≤ names.length then
      some (items.map some ++ List.replicate (names.length - items.length) none)
    else none
  | _ => none

section Slots

variable {α : Type}

/-- The content of a field that has to be there. -/
def required? (read : Value → Option α) (slot : Option Value) : Option α := slot.bind read

/-- The content of a field that may be absent or null. -/
def optional? (read : Value → Option α) : Option Value → Option (Option α)
  | none => some none
  | some .null => some none
  | some value => (read value).map some

end Slots

/-- The text of a string value. -/
def text? : Value → Option String
  | .string text => text
  | _ => none

/-- The content of a truth value. -/
def bool? : Value → Option Bool
  | .bool b => some b
  | _ => none

/-- The byte of a number without sign, fraction or exponent. -/
def byte? : Value → Option UInt8
  | .number literal =>
    match Text.Decimal.read 256 literal with
    | .ok n => some (UInt8.ofNat n)
    | .error _ => none
  | _ => none

/-- The bytes of an array of numbers. -/
def bytes? : Value → Option (List UInt8)
  | .array items => items.mapM byte?
  | _ => none

/-- The value of a text. -/
def ofText (text : String) : Value := .string (some text)

/-- The value of bytes. -/
def ofBytes (bytes : List UInt8) : Value :=
  .array (bytes.map fun b => .number (Text.Decimal.write b.toNat))

/-- The object with the fields that are there. -/
def object (fields : List (String × Option Value)) : Value :=
  .object (fields.filterMap fun (name, slot) => slot.map fun value => (some name, value))

/-- The text of a value as a string. -/
def Value.toText (value : Value) : String := String.ofList value.render

end Gatekeeper.Json
