import Gatekeeper.Text.Decimal
import Gatekeeper.Text.Utf8
import Gatekeeper.Yaml.Cursor
import Gatekeeper.Yaml.Scalar
import Gatekeeper.Yaml.Token

/-!
# `Gatekeeper.Yaml.Tag`: names, tags and directives

Anchors and aliases have names, and tags are written as addresses in which bytes
may be escaped. A directive before a document gives the version of the language,
or what a tag's handle stands for.

* `anchorName?`, `tagName?`, `directive?`: the readers.
-/

set_option autoImplicit false

namespace Gatekeeper.Yaml

open Gatekeeper.Text

/-- The name of an anchor or alias after its mark. One of a few marks may follow it
at once. -/
def anchorName? (cursor : Cursor) : Option (List Char × Cursor) :=
  let (name, cursor) := (cursor.skip 1).takeWhile isWord
  if !name.isEmpty && (isBlankOrEnd cursor.here ||
      cursor.here ∈ ['?', ':', ',', ']', '\x7d', '%', '@', '\x60']) then
    some (name, cursor)
  else none

/-! ### Addresses -/

/-- Whether the character may stand in an address. Some marks may do so only inside
angle brackets and in directives. -/
def isAddressChar (wide : Bool) (c : Char) : Bool :=
  isWord c ||
    c ∈ [';', '/', '?', ':', '@', '&', '=', '+', '$', '.', '!', '~', '*', '\'', '(', ')'] ||
    (wide && c ∈ [',', '[', ']'])

/-- The number of bytes of a character whose first byte is given. -/
def sequenceLength? (b : UInt8) : Option Nat :=
  if b < 0x80 then some 1
  else if b &&& 0xe0 = 0xc0 then some 2
  else if b &&& 0xf0 = 0xe0 then some 3
  else if b &&& 0xf8 = 0xf0 then some 4
  else none

/-- The byte that a percent sign and two digits at the start of a text stand for, and
the rest of the text. -/
def escapedByte? : List Char → Option (UInt8 × List Char)
  | '%' :: a :: b :: rest => (hexNumber? [a, b]).map fun n => (UInt8.ofNat n, rest)
  | _ => none

/-- That many escaped bytes that continue a character. -/
def escapedTail? : Nat → List Char → Option (List UInt8 × List Char)
  | 0, cs => some ([], cs)
  | count + 1, cs => do
    let (b, cs) ← escapedByte? cs
    if b &&& 0xc0 = 0x80 then
      let (bytes, cs) ← escapedTail? count cs
      some (b :: bytes, cs)
    else none

/-- The bytes of an escaped character at the start of a text. -/
def escapedBytes? (cs : List Char) : Option (List UInt8 × List Char) := do
  let (b, cs) ← escapedByte? cs
  let length ← sequenceLength? b
  let (bytes, cs) ← escapedTail? (length - 1) cs
  some (b :: bytes, cs)

/-- The bytes of an address at the start of a text, and the text after it. -/
def addressBytes? (wide : Bool) : Nat → List Char → Option (List UInt8 × List Char)
  | 0, cs => some ([], cs)
  | fuel + 1, cs =>
    match cs with
    | [] => some ([], [])
    | c :: rest =>
      if c = '%' then do
        let (bytes, rest) ← escapedBytes? cs
        let (more, rest) ← addressBytes? wide fuel rest
        some (bytes ++ more, rest)
      else if isAddressChar wide c then do
        let (more, rest) ← addressBytes? wide fuel rest
        some (Utf8.encode [c] ++ more, rest)
      else some ([], cs)

/-- An address at the cursor, and the cursor after it. -/
def address? (wide : Bool) (cursor : Cursor) : Option (List UInt8 × Cursor) :=
  (addressBytes? wide cursor.rest.length cursor.rest).map fun (bytes, rest) =>
    (bytes, cursor.skip (cursor.rest.length - rest.length))

/-! ### Tags -/

/-- The handle at the cursor: an exclamation mark, a name, and a second mark if there
is one. -/
def tagHandle? (cursor : Cursor) : Option (List Char × Cursor) :=
  if cursor.here = '!' then
    let (name, cursor) := (cursor.skip 1).takeWhile isWord
    if cursor.here = '!' then some ('!' :: name ++ ['!'], cursor.skip 1)
    else some ('!' :: name, cursor)
  else none

/-- The tag at the cursor. A name in angle brackets is whole; one with a handle of
two marks takes the rest as its suffix; any other has the handle of one mark, and
one mark alone is a whole tag. -/
def tagName? (inFlow : Bool) (cursor : Cursor) : Option (TagName × Cursor) := do
  let (name, cursor) ←
    if cursor.peek 1 = '<' then do
      let (suffix, cursor) ← address? true (cursor.skip 2)
      if suffix.isEmpty || cursor.here ≠ '>' then none
      else some ((⟨[], suffix⟩ : TagName), cursor.skip 1)
    else do
      let (handle, cursor) ← tagHandle? cursor
      let (suffix, cursor) ← address? false cursor
      if 2 ≤ handle.length && handle.getLast? = some '!' then
        if suffix.isEmpty then none else some ((⟨handle, suffix⟩ : TagName), cursor)
      else
        let suffix := Utf8.encode (handle.drop 1) ++ suffix
        if suffix.isEmpty then some (⟨[], Utf8.encode ['!']⟩, cursor)
        else some (⟨['!'], suffix⟩, cursor)
  if isBlankOrEnd cursor.here || (inFlow && cursor.here = ',') then some (name, cursor) else none

/-! ### Directives -/

/-- A number of one to nine digits at the cursor. -/
def versionNumber? (cursor : Cursor) : Option (Nat × Cursor) :=
  let (digits, cursor) := cursor.takeWhile isDigit
  if digits.length ≤ 9 then
    match Decimal.read 1000000000 digits with
    | .ok n => some (n, cursor)
    | .error _ => none
  else none

/-- The version after its directive's name. -/
def versionDirective? (cursor : Cursor) : Option (Token × Cursor) := do
  let (major, cursor) ← versionNumber? (cursor.skipWhile isBlank)
  if cursor.here ≠ '.' then none
  else
    let (minor, cursor) ← versionNumber? (cursor.skip 1)
    some (.versionDirective major minor, cursor)

/-- Handle and expansion after their directive's name. -/
def tagDirective? (cursor : Cursor) : Option (Token × Cursor) := do
  let (handle, cursor) ← tagHandle? (cursor.skipWhile isBlank)
  if (2 ≤ handle.length && handle.getLast? ≠ some '!') || !isBlank cursor.here then none
  else
    let (expansion, cursor) ← address? true (cursor.skipWhile isBlank)
    if expansion.isEmpty || !isBlankOrEnd cursor.here then none
    else some (.tagDirective handle expansion, cursor)

/-- The directive at the cursor, with the rest of its line. -/
def directive? (cursor : Cursor) : Option (Token × Cursor) := do
  let (name, cursor) := (cursor.skip 1).takeWhile isWord
  if !isBlankOrEnd cursor.here then none
  else
    let (token, cursor) ←
      if name = ['Y', 'A', 'M', 'L'] then versionDirective? cursor
      else if name = ['T', 'A', 'G'] then tagDirective? cursor
      else none
    let cursor ← cursor.finishLine?
    some (token, cursor)

end Gatekeeper.Yaml
