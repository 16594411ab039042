import Gatekeeper.Text.Decimal

/-!
# `Gatekeeper.Json.Token`: the lexical level of JSON

A JSON text is a sequence of tokens with blanks between them. A string token
keeps its text; an escape may name one half of a character of two, and a string
with a half that has no partner has no text, though it is well formed.

* `scan`: the tokens of a text.
* `quote`: the string token of a text, as written.
-/

set_option autoImplicit false

namespace Gatekeeper.Json

open Gatekeeper.Text

/-- One token. -/
inductive Token where
  | openBrace
  | closeBrace
  | openBracket
  | closeBracket
  | colon
  | comma
  | null
  | bool (value : Bool)
  | number (literal : List Char)
  | string (text : Option String)
  deriving DecidableEq, Repr

/-- Whether the character may stand between tokens. -/
def isBlank (c : Char) : Bool := c = ' ' || c = '\t' || c = '\n' || c = '\r'

/-! ### Strings -/

/-- The value of a hexadecimal digit. -/
def hexDigit? (c : Char) : Option Nat :=
  if '0' ≤ c ∧ c ≤ '9' then some (c.toNat - 48)
  else if 'a' ≤ c ∧ c ≤ 'f' then some (c.toNat - 87)
  else if 'A' ≤ c ∧ c ≤ 'F' then some (c.toNat - 55)
  else none

/-- The number that four hexadecimal digits spell. -/
def hexUnit? (a b c d : Char) : Option Nat := do
  let a ← hexDigit? a
  let b ← hexDigit? b
  let c ← hexDigit? c
  let d ← hexDigit? d
  some (((a * 16 + b) * 16 + c) * 16 + d)

/-- The character that a one-letter escape stands for. -/
def escaped? : Char → Option Char
  | '"' => some '"'
  | '\\' => some '\\'
  | '/' => some '/'
  | 'b' => some '\x08'
  | 'f' => some '\x0c'
  | 'n' => some '\n'
  | 'r' => some '\r'
  | 't' => some '\t'
  | _ => none

/-- A piece of a string: a character, or the number of a half of one. -/
inductive Piece where
  | char (c : Char)
  | half (n : Nat)
  deriving DecidableEq, Repr

/-- The piece that a numeric escape stands for. -/
def Piece.ofUnit (n : Nat) : Piece :=
  if 0xd800 ≤ n ∧ n ≤ 0xdfff then .half n else .char (Char.ofNat n)

/-- The character that two halves make, if the first is a leading and the second a
trailing one. -/
def joinHalves? (high low : Nat) : Option Char :=
  if high < 0xdc00 ∧ 0xdc00 ≤ low then
    some (Char.ofNat (0x10000 + (high - 0xd800) * 1024 + (low - 0xdc00)))
  else none

/-- The characters of pieces, if every half has its partner. -/
def joinPieces? : List Piece → Option (List Char)
  | [] => some []
  | .char c :: rest => (c :: ·) <$> joinPieces? rest
  | .half high :: .half low :: rest => do
    let c ← joinHalves? high low
    let cs ← joinPieces? rest
    some (c :: cs)
  | .half _ :: _ => none

/-- The pieces up to the closing quote, and what follows it. -/
def scanString : List Char → Option (List Piece × List Char)
  | [] => none
  | '"' :: rest => some ([], rest)
  | '\\' :: 'u' :: a :: b :: c :: d :: rest => do
    let n ← hexUnit? a b c d
    let (pieces, rest) ← scanString rest
    some (.ofUnit n :: pieces, rest)
  | '\\' :: e :: rest => do
    let c ← escaped? e
    let (pieces, rest) ← scanString rest
    some (.char c :: pieces, rest)
  | c :: rest => do
    if c < ' ' || c = '\\' then none else
    let (pieces, rest) ← scanString rest
    some (.char c :: pieces, rest)

/-- The four hexadecimal digits of a number. -/
def hexUnit (n : Nat) : List Char :=
  [4096, 256, 16, 1].map fun weight => Nat.digitChar (n / weight % 16)

/-- How one character is written inside a string. -/
def escape (c : Char) : List Char :=
  if c = '"' then ['\\', '"']
  else if c = '\\' then ['\\', '\\']
  else if c = '\x08' then ['\\', 'b']
  else if c = '\x0c' then ['\\', 'f']
  else if c = '\n' then ['\\', 'n']
  else if c = '\r' then ['\\', 'r']
  else if c = '\t' then ['\\', 't']
  else if c < ' ' then '\\' :: 'u' :: hexUnit c.toNat
  else [c]

/-- The string token of a text, as written. -/
def quote (text : String) : List Char :=
  '"' :: text.toList.flatMap escape ++ ['"']

/-! ### Numbers -/

/-- The digits at the front, at least one, and what follows them. -/
def scanDigits? (cs : List Char) : Option (List Char × List Char) :=
  match cs.takeWhile isDigit with
  | [] => none
  | digits => some (digits, cs.dropWhile isDigit)

/-- The whole part of a number: one zero, or digits that start with none. -/
def scanWhole? : List Char → Option (List Char × List Char)
  | '0' :: rest => some (['0'], rest)
  | cs => scanDigits? cs

/-- The fraction of a number, if a point follows. -/
def scanFraction? : List Char → Option (List Char × List Char)
  | '.' :: rest => do
    let (digits, rest) ← scanDigits? rest
    some ('.' :: digits, rest)
  | cs => some ([], cs)

/-- The exponent of a number, if its letter follows. -/
def scanExponent? : List Char → Option (List Char × List Char)
  | [] => some ([], [])
  | c :: rest =>
    if c = 'e' ∨ c = 'E' then
      match rest with
      | [] => none
      | s :: tail =>
        if s = '+' ∨ s = '-' then do
          let (digits, rest) ← scanDigits? tail
          some (c :: s :: digits, rest)
        else do
          let (digits, rest) ← scanDigits? rest
          some (c :: digits, rest)
    else some ([], c :: rest)

/-- A number without its sign, and what follows it. -/
def scanUnsigned? (cs : List Char) : Option (List Char × List Char) := do
  let (whole, rest) ← scanWhole? cs
  let (fraction, rest) ← scanFraction? rest
  let (exponent, rest) ← scanExponent? rest
  some (whole ++ fraction ++ exponent, rest)

/-- A number, and what follows it. -/
def scanNumber? : List Char → Option (List Char × List Char)
  | '-' :: rest => do
    let (literal, rest) ← scanUnsigned? rest
    some ('-' :: literal, rest)
  | cs => scanUnsigned? cs

/-! ### Tokens -/

/-- The token at the front, and what follows it. -/
def scanToken? : List Char → Option (Token × List Char)
  | '\x7b' :: rest => some (.openBrace, rest)
  | '\x7d' :: rest => some (.closeBrace, rest)
  | '[' :: rest => some (.openBracket, rest)
  | ']' :: rest => some (.closeBracket, rest)
  | ':' :: rest => some (.colon, rest)
  | ',' :: rest => some (.comma, rest)
  | 'n' :: 'u' :: 'l' :: 'l' :: rest => some (.null, rest)
  | 't' :: 'r' :: 'u' :: 'e' :: rest => some (.bool true, rest)
  | 'f' :: 'a' :: 'l' :: 's' :: 'e' :: rest => some (.bool false, rest)
  | '"' :: rest => do
    let (pieces, rest) ← scanString rest
    some (.string ((joinPieces? pieces).map String.ofList), rest)
  | cs => do
    let (literal, rest) ← scanNumber? cs
    some (.number literal, rest)

/-- At most `fuel` tokens of a text. Each token takes a character, so the length of
the text is fuel enough. -/
def scanFrom : Nat → List Char → Option (List Token)
  | 0, cs => if (cs.dropWhile isBlank).isEmpty then some [] else none
  | fuel + 1, cs =>
    match cs.dropWhile isBlank with
    | [] => some []
    | cs => do
      let (token, rest) ← scanToken? cs
      let tokens ← scanFrom fuel rest
      some (token :: tokens)

/-- The tokens of a text; `none` if a part of it is no token. -/
def scan (cs : List Char) : Option (List Token) := scanFrom cs.length cs

end Gatekeeper.Json
