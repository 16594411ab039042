import Gatekeeper.Text.Decimal
import Gatekeeper.Yaml.Node

/-!
# `Gatekeeper.Yaml.Field`: typed content of a document

What the nodes of a document mean where a text, a truth value, a number or a list
is expected. An alias is read as the node it stands for. A field may be left out,
or be null.

* `text?`, `bool?`, `number?`, `list?`: the content of a node.
* `optional?`: the content of a field that may be null.
* `fields?`: the fields of a mapping by their names.
-/

set_option autoImplicit false

namespace Gatekeeper.Yaml

open Gatekeeper.Text

/-- The tag of a node that the language defines. -/
def coreTag (name : String) : List UInt8 := Utf8.encodeString ("tag:yaml.org,2002:" ++ name)

/-- The node itself, or the one that an alias stands for. No alias stands for another
alias. -/
def target? (document : Node) : Node → Option Node
  | .alias number => document.anchored? number
  | node => some node

/-- The text of a scalar that may be read as more than a text: a plain one, or a
literal block with the tag of what is expected. -/
def untypedText? (expected : String) : Node → Option String
  | .scalar _ tag style text =>
    if style = .plain ∨ (style = .literal ∧ tag = some (coreTag expected)) then some text else none
  | _ => none

/-- The text of a scalar. -/
def text? (document node : Node) : Option String :=
  match target? document node with
  | some (.scalar _ _ _ text) => some text
  | _ => none

/-- The truth value of a scalar. -/
def bool? (document node : Node) : Option Bool :=
  match (target? document node).bind (untypedText? "bool") with
  | some "true" | some "True" | some "TRUE" => some true
  | some "false" | some "False" | some "FALSE" => some false
  | _ => none

/-! ### Numbers -/

/-- The value of a digit below `base`. -/
def digit? (base : Nat) (c : Char) : Option Nat :=
  (hexDigit? c).filter (· < base)

/-- The number below `bound` that digits of a base spell. -/
def digitsNumber? (base bound : Nat) (digits : List Char) : Option Nat :=
  if digits.isEmpty then none
  else (digits.foldlM (fun n c => (digit? base c).map (base * n + ·)) 0).filter (· < bound)

/-- The number below `bound` that a text spells: with the sign of a base, or in
decimal digits of which the first is no idle zero. One plus sign may come
first. -/
def numberOfText? (bound : Nat) (cs : List Char) : Option Nat :=
  let unsigned := match cs with
    | '+' :: rest => rest
    | _ => cs
  match unsigned with
  | '0' :: 'x' :: digits => digitsNumber? 16 bound digits
  | '0' :: 'o' :: digits => digitsNumber? 8 bound digits
  | '0' :: 'b' :: digits => digitsNumber? 2 bound digits
  | '0' :: c :: rest => if (c :: rest).all isDigit then none else digitsNumber? 10 bound unsigned
  | _ => digitsNumber? 10 bound unsigned

/-- The number below `bound` of a scalar. -/
def number? (bound : Nat) (document node : Node) : Option Nat :=
  ((target? document node).bind (untypedText? "int")).bind fun text =>
    numberOfText? bound text.toList

/-! ### Collections -/

/-- Whether the node is a plain scalar of no text, which is an empty collection. -/
def isVoid : Node → Bool
  | .scalar _ _ .plain "" => true
  | _ => false

section Typed

variable {α : Type}

/-- The items of a sequence, each with its content. -/
def list? (read : Node → Node → Option α) (document node : Node) : Option (List α) := do
  match ← target? document node with
  | .sequence _ items => items.mapM (read document)
  | node => if isVoid node then some [] else none

/-- The entries of a mapping. -/
def entries? (document node : Node) : Option (List (Node × Node)) := do
  match ← target? document node with
  | .mapping _ entries => some entries
  | node => if isVoid node then some [] else none

/-- The fields of a mapping under known names, each of which may appear once. Every
key has to be a text; entries under other names are skipped. -/
def fields? (document node : Node) (names : List String) : Option (List (String × Node)) := do
  let entries ← entries? document node
  let keyed ← entries.mapM fun (key, value) => (text? document key).map fun key => (key, value)
  let known := keyed.filter fun (key, _) => key ∈ names
  if (known.map (·.1)).Nodup then some known else none

/-- Whether a plain scalar's text stands for null. -/
def isNull (text : String) : Bool :=
  text = "null" || text = "Null" || text = "NULL" || text = "~"

/-- The content of a node, or nothing if it is null. A plain scalar without a tag is
null if its text is, or is empty; the tag of null allows no other text. -/
def optional? (read : Node → Node → Option α) (document node : Node) : Option (Option α) := do
  match ← target? document node with
  | .scalar anchor tag .plain text =>
    let content := (read document (.scalar anchor tag .plain text)).map some
    match tag with
    | some tag =>
      if tag = coreTag "null" then if isNull text then some none else none else content
    | none => if text.isEmpty || isNull text then some none else content
  | node => (read document node).map some

/-- The content of the field with a name, if it is there and not null. -/
def field? (read : Node → Node → Option α) (document : Node) (fields : List (String × Node))
    (name : String) : Option (Option α) :=
  match fields.lookup name with
  | none => some none
  | some node => optional? read document node

end Typed

end Gatekeeper.Yaml
