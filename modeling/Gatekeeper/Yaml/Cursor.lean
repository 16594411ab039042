/-!
# `Gatekeeper.Yaml.Cursor`: a place in a YAML text

Tokens are read from a cursor, which knows its line and column. A line ends with a
line feed, a carriage return, both together, or one of three further breaks. Past
the end of the text the cursor shows the null character, which no text contains.

* `Cursor.peek`, `Cursor.skip`, `Cursor.takeBreak`: the moves.
* `isAllowed`: the characters that a text may contain.
-/

set_option autoImplicit false

namespace Gatekeeper.Yaml

/-! ### Characters -/

/-- Whether a text may contain the character. -/
def isAllowed (c : Char) : Bool :=
  let n := c.toNat
  n == 0x09 || n == 0x0a || n == 0x0d || (0x20 ≤ n && n ≤ 0x7e) || n == 0x85 ||
    (0xa0 ≤ n && n ≤ 0xfffd) || 0x10000 ≤ n

/-- Whether the character stands for the end of the text. -/
def isEnd (c : Char) : Bool := c = '\x00'

/-- Whether the character is a space or a tab. -/
def isBlank (c : Char) : Bool := c = ' ' || c = '\t'

/-- Whether the character breaks a line. -/
def isBreak (c : Char) : Bool :=
  c = '\n' || c = '\r' || c = '\u0085' || c = '\u2028' || c = '\u2029'

/-- Whether the character ends a line. -/
def isBreakOrEnd (c : Char) : Bool := isBreak c || isEnd c

/-- Whether the character ends a word. -/
def isBlankOrEnd (c : Char) : Bool := isBlank c || isBreakOrEnd c

/-- Whether the character may stand in a name. -/
def isWord (c : Char) : Bool :=
  ('0' ≤ c && c ≤ '9') || ('A' ≤ c && c ≤ 'Z') || ('a' ≤ c && c ≤ 'z') || c = '_' || c = '-'

/-! ### Cursors -/

/-- A place in a text: what is still to come, and where that is. -/
structure Cursor where
  rest : List Char
  index : Nat
  line : Nat
  column : Nat
  deriving DecidableEq, Repr

namespace Cursor

/-- The start of a text. -/
def ofText (text : List Char) : Cursor := ⟨text, 0, 0, 0⟩

/-- The character that many places ahead. -/
def peek (cursor : Cursor) (ahead : Nat) : Char := cursor.rest.getD ahead '\x00'

/-- The character at the cursor. -/
def here (cursor : Cursor) : Char := cursor.peek 0

/-- That many characters on, within the line. -/
def skip (cursor : Cursor) (count : Nat) : Cursor :=
  ⟨cursor.rest.drop count, cursor.index + count, cursor.line, cursor.column + count⟩

/-- The longest run of characters with a property, and the cursor after it. The
property holds of no line break. -/
def takeWhile (p : Char → Bool) (cursor : Cursor) : List Char × Cursor :=
  let run := cursor.rest.takeWhile p
  (run, cursor.skip run.length)

/-- The cursor after the longest run of characters with a property. -/
def skipWhile (p : Char → Bool) (cursor : Cursor) : Cursor := (cursor.takeWhile p).2

/-- The start of the next line, that many characters on. -/
def nextLine (cursor : Cursor) (count : Nat) : Cursor :=
  ⟨cursor.rest.drop count, cursor.index + count, cursor.line + 1, 0⟩

/-- The line break at the cursor as it enters a text, and the cursor after it. Where
there is none, nothing is taken. -/
def takeBreak (cursor : Cursor) : List Char × Cursor :=
  match cursor.rest with
  | '\r' :: '\n' :: _ => (['\n'], cursor.nextLine 2)
  | c :: _ =>
    if c = '\u2028' || c = '\u2029' then ([c], cursor.nextLine 1)
    else if isBreak c then (['\n'], cursor.nextLine 1)
    else ([], cursor)
  | [] => ([], cursor)

/-- The cursor after the line break that it is at. -/
def skipBreak (cursor : Cursor) : Cursor := cursor.takeBreak.2

/-- Whether a line starts here with three equal marks that no word continues. -/
def atMark (cursor : Cursor) (mark : Char) : Bool :=
  cursor.column == 0 && cursor.here == mark && cursor.peek 1 == mark && cursor.peek 2 == mark &&
    isBlankOrEnd (cursor.peek 3)

/-- Whether the start or the end of a document is marked here. -/
def atDocumentMark (cursor : Cursor) : Bool := cursor.atMark '-' || cursor.atMark '.'

/-- The cursor after blanks, a comment and the break that end a line; `none` if
anything else stands there. -/
def finishLine? (cursor : Cursor) : Option Cursor :=
  let cursor := cursor.skipWhile isBlank
  let cursor := if cursor.here = '#' then cursor.skipWhile (!isBreakOrEnd ·) else cursor
  if isBreakOrEnd cursor.here then some cursor.skipBreak else none

end Cursor

end Gatekeeper.Yaml
