import Gatekeeper.Yaml.Cursor
import Gatekeeper.Yaml.Token

/-!
# `Gatekeeper.Yaml.Scalar`: the texts of scalars

A scalar is plain, quoted or a block. Plain and quoted scalars fold a line break
to a space, and further breaks to one break less; a block keeps its breaks or
folds them, and has rules for the breaks at its end. Each reader yields the text
and the cursor after it, or `none` where the scalar is malformed.

* `plain?`, `quoted?`, `block?`: the readers.
-/

set_option autoImplicit false

namespace Gatekeeper.Yaml

/-! ### Blanks between words -/

/-- What stands between two words of a flow scalar: blanks within a line, or breaks
with the blanks around them. `broken` tells which. -/
structure Gap where
  blanks : List Char
  broken : Bool
  /-- The first break; empty if it was escaped. -/
  first : List Char
  /-- The further breaks. -/
  further : List Char
  deriving DecidableEq, Repr

namespace Gap

/-- Nothing at all. -/
def empty : Gap := ⟨[], false, [], []⟩

/-- The text that a gap folds to. -/
def fold (gap : Gap) : List Char :=
  if gap.broken then
    if gap.first.head? = some '\n' then
      if gap.further.isEmpty then [' '] else gap.further
    else gap.first ++ gap.further
  else gap.blanks

/-- A gap continued by the blanks and breaks at the cursor. At columns below
`indent` no tab may start a line. At most `fuel` characters are read. -/
def scan? (indent : Nat) : Nat → Gap → Cursor → Option (Gap × Cursor)
  | 0, gap, cursor => some (gap, cursor)
  | fuel + 1, gap, cursor =>
    let c := cursor.here
    if isBlank c then
      if gap.broken then
        if cursor.column < indent && c = '\t' then none else scan? indent fuel gap (cursor.skip 1)
      else scan? indent fuel { gap with blanks := gap.blanks ++ [c] } (cursor.skip 1)
    else if isBreak c then
      let (text, cursor) := cursor.takeBreak
      if gap.broken then scan? indent fuel { gap with further := gap.further ++ text } cursor
      else scan? indent fuel ⟨[], true, text, []⟩ cursor
    else some (gap, cursor)

end Gap

/-! ### Plain scalars -/

/-- Whether the character opens or closes a flow collection, or parts its items. -/
def isFlowIndicator (c : Char) : Bool :=
  c = ',' || c = '[' || c = ']' || c = '\x7b' || c = '\x7d'

/-- The word of a plain scalar at the start of a text: it runs to a blank, to a colon
that ends a word and, in a flow collection, to one of its marks. In a flow
collection no such mark may follow a colon at once. -/
def plainWord? (inFlow : Bool) : List Char → Option (List Char)
  | [] => some []
  | c :: rest =>
    let next := rest.headD '\x00'
    if isBlankOrEnd c then some []
    else if inFlow && c = ':' && (isFlowIndicator next || next = '?') then none
    else if (c = ':' && isBlankOrEnd next) || (inFlow && isFlowIndicator c) then some []
    else (c :: ·) <$> plainWord? inFlow rest

/-- The further words of a plain scalar, which come after `gap`. A word on a line of
its own has to stand at `indent` or beyond, unless in a flow collection. Yields
also whether the last gap broke a line. -/
def plainWords? (inFlow : Bool) (indent : Nat) :
    Nat → Gap → Cursor → Option (List Char × Bool × Cursor)
  | 0, gap, cursor => some ([], gap.broken, cursor)
  | fuel + 1, gap, cursor =>
    if cursor.atDocumentMark || cursor.here = '#' then some ([], gap.broken, cursor)
    else
      match plainWord? inFlow cursor.rest with
      | none => none
      | some word =>
        let after := cursor.skip word.length
        let text := if word.isEmpty then [] else gap.fold ++ word
        let gap := if word.isEmpty then gap else .empty
        if isBlank after.here || isBreak after.here then
          match gap.scan? indent (after.rest.length + 1) after with
          | none => none
          | some (gap, after) =>
            if !inFlow && after.column < indent then some (text, gap.broken, after)
            else
              match plainWords? inFlow indent fuel gap after with
              | none => none
              | some (more, broken, cursor) => some (text ++ more, broken, cursor)
        else some (text, gap.broken, after)

/-- A plain scalar: its text, whether a line break ended it, and the cursor after
it. -/
def plain? (inFlow : Bool) (indent : Nat) (cursor : Cursor) :
    Option (List Char × Bool × Cursor) :=
  plainWords? inFlow indent (cursor.rest.length + 1) .empty cursor

/-! ### Quoted scalars -/

/-- The value of a hexadecimal digit. -/
def hexDigit? (c : Char) : Option Nat :=
  if '0' ≤ c ∧ c ≤ '9' then some (c.toNat - 48)
  else if 'a' ≤ c ∧ c ≤ 'f' then some (c.toNat - 87)
  else if 'A' ≤ c ∧ c ≤ 'F' then some (c.toNat - 55)
  else none

/-- The number that hexadecimal digits spell. -/
def hexNumber? (digits : List Char) : Option Nat :=
  digits.foldlM (fun n c => (hexDigit? c).map (16 * n + ·)) 0

/-- What the letter of an escape stands for: a character, or the number of
hexadecimal digits that follow. -/
def escape? : Char → Option (Char ⊕ Nat)
  | '0' => some (.inl '\x00')
  | 'a' => some (.inl '\x07')
  | 'b' => some (.inl '\x08')
  | 't' => some (.inl '\t')
  | '\t' => some (.inl '\t')
  | 'n' => some (.inl '\n')
  | 'v' => some (.inl '\x0b')
  | 'f' => some (.inl '\x0c')
  | 'r' => some (.inl '\r')
  | 'e' => some (.inl '\x1b')
  | ' ' => some (.inl ' ')
  | '"' => some (.inl '"')
  | '/' => some (.inl '/')
  | '\\' => some (.inl '\\')
  | 'N' => some (.inl '\u0085')
  | '_' => some (.inl '\u00a0')
  | 'L' => some (.inl '\u2028')
  | 'P' => some (.inl '\u2029')
  | 'x' => some (.inr 2)
  | 'u' => some (.inr 4)
  | 'U' => some (.inr 8)
  | _ => none

/-- The character that an escape at the cursor stands for, and the cursor after
it. -/
def escapedChar? (cursor : Cursor) : Option (Char × Cursor) :=
  match escape? (cursor.peek 1) with
  | none => none
  | some (.inl c) => some (c, cursor.skip 2)
  | some (.inr count) =>
    let digits := (cursor.rest.drop 2).take count
    if digits.length < count then none
    else
      match hexNumber? digits with
      | none => none
      | some n =>
        if (0xd800 ≤ n ∧ n ≤ 0xdfff) ∨ 0x10ffff < n then none
        else some (Char.ofNat n, cursor.skip (2 + count))

/-- The text of a quoted scalar up to its closing quote, and the cursor after it. A
single quote that is doubled stands for itself in single quotes, and escapes count
in double quotes. -/
def quotedFrom? (double : Bool) : Nat → Cursor → Option (List Char × Cursor)
  | 0, _ => none
  | fuel + 1, cursor =>
    let c := cursor.here
    let more (text : List Char) (cursor : Cursor) : Option (List Char × Cursor) :=
      (quotedFrom? double fuel cursor).map fun (rest, cursor) => (text ++ rest, cursor)
    if cursor.atDocumentMark || isEnd c then none
    else if !double && c = '\'' && cursor.peek 1 = '\'' then more ['\''] (cursor.skip 2)
    else if c = (if double then '"' else '\'') then some ([], cursor.skip 1)
    else if double && c = '\\' then
      if isBreak (cursor.peek 1) then
        let start := (cursor.skip 1).skipBreak
        match Gap.scan? 0 (start.rest.length + 1) ⟨[], true, [], []⟩ start with
        | some (gap, cursor) => more gap.fold cursor
        | none => none
      else
        match escapedChar? cursor with
        | some (c, cursor) => more [c] cursor
        | none => none
    else if isBlank c || isBreak c then
      match Gap.scan? 0 (cursor.rest.length + 1) .empty cursor with
      | some (gap, cursor) => more gap.fold cursor
      | none => none
    else more [c] (cursor.skip 1)

/-- A quoted scalar whose opening quote is at the cursor. -/
def quoted? (double : Bool) (cursor : Cursor) : Option (List Char × Cursor) :=
  quotedFrom? double (cursor.rest.length + 1) (cursor.skip 1)

/-! ### Block scalars -/

/-- What becomes of the line breaks at the end of a block scalar. -/
inductive Chomping where
  /-- All are dropped. -/
  | strip
  /-- The first is kept. -/
  | clip
  /-- All are kept. -/
  | keep
  deriving DecidableEq, Repr

/-- The sign of a chomping rule at the cursor. -/
def chomping? (cursor : Cursor) : Option (Chomping × Cursor) :=
  if cursor.here = '+' then some (.keep, cursor.skip 1)
  else if cursor.here = '-' then some (.strip, cursor.skip 1)
  else none

/-- The digit of an indentation at the cursor: one to nine. -/
def increment? (cursor : Cursor) : Option (Option Nat × Cursor) :=
  let c := cursor.here
  if c = '0' then none
  else if '1' ≤ c ∧ c ≤ '9' then some (some (c.toNat - 48), cursor.skip 1)
  else some (none, cursor)

/-- The header of a block scalar after its mark: chomping and indentation, in either
order, and the rest of the line. -/
def blockHeader? (cursor : Cursor) : Option (Chomping × Option Nat × Cursor) :=
  match chomping? cursor with
  | some (chomping, cursor) =>
    match increment? cursor with
    | some (increment, cursor) =>
      cursor.finishLine?.map fun cursor => (chomping, increment, cursor)
    | none => none
  | none =>
    match increment? cursor with
    | some (some increment, cursor) =>
      let (chomping, cursor) := (chomping? cursor).getD (.clip, cursor)
      cursor.finishLine?.map fun cursor => (chomping, some increment, cursor)
    | some (none, cursor) => cursor.finishLine?.map fun cursor => (.clip, none, cursor)
    | none => none

/-- The empty lines at the cursor: their breaks, the deepest column reached, and the
cursor at the next line's text. With a known indentation, spaces are skipped up to
it only; a tab may not stand before it. -/
def emptyLines? (indent : Option Nat) :
    Nat → Nat → Cursor → Option (List Char × Nat × Cursor)
  | 0, deepest, cursor => some ([], deepest, cursor)
  | fuel + 1, deepest, cursor =>
    let spaces := (cursor.rest.takeWhile (· = ' ')).length
    let cursor := cursor.skip (match indent with
      | some indent => min spaces (indent - cursor.column)
      | none => spaces)
    let deepest := max deepest cursor.column
    let before := match indent with
      | some indent => cursor.column < indent
      | none => true
    if before && cursor.here = '\t' then none
    else if isBreak cursor.here then
      let (text, cursor) := cursor.takeBreak
      (emptyLines? indent fuel deepest cursor).map fun (texts, deepest, cursor) =>
        (text ++ texts, deepest, cursor)
    else some ([], deepest, cursor)

/-- The lines of a block scalar from the cursor on. `break_` is the break before the
line at the cursor, `empties` those of the empty lines after it, and `wasBlank`
tells whether the line before starts with a blank. Yields the text, the break and
the empty lines at its end, and the cursor after it. -/
def blockLines? (fold : Bool) (indent : Nat) :
    Nat → List Char → List Char → Bool → Cursor →
      Option (List Char × List Char × List Char × Cursor)
  | 0, _, _, _, _ => none
  | fuel + 1, break_, empties, wasBlank, cursor =>
    if cursor.column ≠ indent || isEnd cursor.here then some ([], break_, empties, cursor)
    else
      let startsBlank := isBlank cursor.here
      let joint :=
        if fold && break_.head? = some '\n' && !wasBlank && !startsBlank then
          if empties.isEmpty then [' '] else []
        else break_
      let (line, cursor) := cursor.takeWhile (!isBreakOrEnd ·)
      let (newBreak, cursor) := cursor.takeBreak
      match emptyLines? (some indent) (cursor.rest.length + 1) 0 cursor with
      | none => none
      | some (newEmpties, _, cursor) =>
        (blockLines? fold indent fuel newBreak newEmpties startsBlank cursor).map
          fun (text, tail) => (joint ++ empties ++ line ++ text, tail)

/-- A block scalar whose mark is at the cursor, in a block of the given
indentation. -/
def block? (fold : Bool) (parent : Int) (cursor : Cursor) : Option (List Char × Cursor) := do
  let (chomping, increment, cursor) ← blockHeader? (cursor.skip 1)
  let known := increment.map fun n => (max parent 0).toNat + n
  let (empties, deepest, cursor) ← emptyLines? known (cursor.rest.length + 1) 0 cursor
  let indent := known.getD (max deepest (max (parent + 1) 1).toNat)
  let (text, break_, empties, cursor) ←
    blockLines? fold indent (cursor.rest.length + 2) [] empties false cursor
  let tail := match chomping with
    | .strip => []
    | .clip => break_
    | .keep => break_ ++ empties
  some (text ++ tail, cursor)

end Gatekeeper.Yaml
