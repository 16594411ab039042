import Gatekeeper.Yaml.Scalar
import Gatekeeper.Yaml.Tag

/-!
# `Gatekeeper.Yaml.Scan`: from text to tokens

The tokens of a text are found from its start to its end. Block collections start
where the indentation grows and end where it shrinks. A token may turn out to be
a key only when its colon is met, so the places where keys may have started are
remembered, one for each open flow collection, and the key's token is put in
front of what was found since. Such a key stays on one line and has at most 1024
characters.

* `Scanner.next?`: the next token or tokens.
* `Token.scan?`: all tokens of a text.
-/

set_option autoImplicit false

namespace Gatekeeper.Yaml

/-- A place where a key may have started. -/
structure KeyStart where
  /-- Whether nothing but a key may stand there. -/
  required : Bool
  /-- The number of tokens before it. -/
  position : Nat
  line : Nat
  index : Nat
  column : Nat
  deriving DecidableEq, Repr

/-- A text that is being cut into tokens. -/
structure Scanner where
  cursor : Cursor
  /-- The tokens so far, latest first. -/
  tokens : List Token
  /-- Where a key may have started, for each flow collection that is open and for the
  block around them, innermost first. -/
  keys : List (Option KeyStart)
  /-- Whether a key may start at the cursor. -/
  keyAllowed : Bool
  /-- The column of the innermost block collection; less than zero outside of all. -/
  indent : Int
  /-- The columns of the collections around it, innermost first. -/
  outer : List Int
  deriving DecidableEq, Repr

namespace Scanner

/-- The start of a text. -/
def ofText (text : List Char) : Scanner :=
  ⟨.ofText text, [], [none], true, -1, []⟩

/-- Whether a flow collection is open. -/
def inFlow (s : Scanner) : Bool := 1 < s.keys.length

/-- The scanner with one more token. -/
def push (s : Scanner) (token : Token) : Scanner := { s with tokens := token :: s.tokens }

/-- The scanner with a token that consists of the next characters. -/
def pushMark (s : Scanner) (token : Token) (length : Nat) : Scanner :=
  { s with tokens := token :: s.tokens, cursor := s.cursor.skip length }

/-- The scanner with a token put in after the first tokens. -/
def insert (s : Scanner) (position : Nat) (token : Token) : Scanner :=
  let later := s.tokens.length - position
  { s with tokens := s.tokens.take later ++ token :: s.tokens.drop later }

/-! ### Keys -/

/-- Whether a key that started there can no longer end at the cursor. -/
def isStale (cursor : Cursor) (start : KeyStart) : Bool :=
  start.line < cursor.line || start.index + 1024 < cursor.index

/-- The scanner without the key starts that are stale; `none` if one was required. -/
def dropStale? (s : Scanner) : Option Scanner :=
  if s.keys.any (fun key => key.any fun start => isStale s.cursor start && start.required) then none
  else some { s with keys := s.keys.map fun key => key.filter (!isStale s.cursor ·) }

/-- The scanner without the innermost key start; `none` if it was required. -/
def dropKey? (s : Scanner) : Option Scanner :=
  match s.keys with
  | [] => some s
  | key :: keys =>
    if key.any (·.required) then none else some { s with keys := none :: keys }

/-- The scanner with a key start at the cursor, if a key may start here. It is
required at the column of the block. -/
def saveKey? (s : Scanner) : Option Scanner :=
  if s.keyAllowed then
    s.dropKey?.map fun s =>
      let start : KeyStart :=
        ⟨!s.inFlow && s.indent = s.cursor.column, s.tokens.length, s.cursor.line, s.cursor.index,
          s.cursor.column⟩
      { s with keys := some start :: s.keys.tail }
  else some s

/-! ### Indentation -/

/-- The scanner with a block collection at a column, if that is deeper than the one
before. The collection's token goes to the given position, or to the end. -/
def roll (s : Scanner) (column : Nat) (position : Option Nat) (token : Token) : Scanner :=
  if s.inFlow || (column : Int) ≤ s.indent then s
  else
    let s := { s with outer := s.indent :: s.outer, indent := column }
    match position with
    | some position => s.insert position token
    | none => s.push token

/-- The tokens and indentation after the end of the block collections that are
deeper than a column. -/
def unrollFrom (column : Int) : Int → List Int → List Token → Int × List Int × List Token
  | indent, [], tokens => (indent, [], tokens)
  | indent, previous :: outer, tokens =>
    if column < indent then unrollFrom column previous outer (.blockEnd :: tokens)
    else (indent, previous :: outer, tokens)

/-- The scanner after the end of the block collections that are deeper than a
column. -/
def unroll (s : Scanner) (column : Int) : Scanner :=
  if s.inFlow then s
  else
    let (indent, outer, tokens) := unrollFrom column s.indent s.outer s.tokens
    { s with indent, outer, tokens }

/-! ### Blanks -/

/-- The scanner after blanks, comments and line breaks. A tab is a blank where no key
may start, and in flow collections; a key may start on every new line of a
block. -/
def skipBlanks : Nat → Scanner → Scanner
  | 0, s => s
  | fuel + 1, s =>
    let cursor := if s.cursor.index = 0 && s.cursor.here = '\ufeff' then s.cursor.skip 1
      else s.cursor
    let cursor := cursor.skipWhile fun c => c = ' ' || ((s.inFlow || !s.keyAllowed) && c = '\t')
    let cursor := if cursor.here = '#' then cursor.skipWhile (!isBreakOrEnd ·) else cursor
    if isBreak cursor.here then
      skipBlanks fuel { s with cursor := cursor.skipBreak, keyAllowed := s.keyAllowed || !s.inFlow }
    else { s with cursor }

/-! ### Tokens -/

/-- The end of the text. -/
def finish? (s : Scanner) : Option Scanner := (s.unroll (-1)).dropKey?

/-- A directive. -/
def directive? (s : Scanner) : Option Scanner := do
  let s ← (s.unroll (-1)).dropKey?
  let (token, cursor) ← Yaml.directive? s.cursor
  some ({ s with cursor, keyAllowed := false }.push token)

/-- The mark that starts or ends a document. -/
def documentMark? (s : Scanner) (token : Token) : Option Scanner := do
  let s ← (s.unroll (-1)).dropKey?
  some ({ s with keyAllowed := false }.pushMark token 3)

/-- The start of a flow collection. -/
def openFlow? (s : Scanner) (token : Token) : Option Scanner := do
  let s ← s.saveKey?
  some ({ s with keys := none :: s.keys, keyAllowed := true }.pushMark token 1)

/-- The end of a flow collection. -/
def closeFlow? (s : Scanner) (token : Token) : Option Scanner := do
  let s ← s.dropKey?
  let keys := if s.inFlow then s.keys.tail else s.keys
  some ({ s with keys, keyAllowed := false }.pushMark token 1)

/-- The comma between two items of a flow collection. -/
def flowEntry? (s : Scanner) : Option Scanner := do
  let s ← s.dropKey?
  some ({ s with keyAllowed := true }.pushMark .flowEntry 1)

/-- The dash before an item of a block sequence. -/
def blockEntry? (s : Scanner) : Option Scanner := do
  if !s.inFlow && !s.keyAllowed then none
  else
    let s ← (s.roll s.cursor.column none .blockSequenceStart).dropKey?
    some ({ s with keyAllowed := true }.pushMark .blockEntry 1)

/-- The question mark before a key. -/
def key? (s : Scanner) : Option Scanner := do
  if !s.inFlow && !s.keyAllowed then none
  else
    let s ← (s.roll s.cursor.column none .blockMappingStart).dropKey?
    some ({ s with keyAllowed := !s.inFlow }.pushMark .key 1)

/-- The colon before a value. If a key may have started, it did. -/
def value? (s : Scanner) : Option Scanner :=
  match s.keys.head?.join with
  | some start =>
    let s := (s.insert start.position .key).roll start.column (some start.position)
      .blockMappingStart
    some ({ s with keys := none :: s.keys.tail, keyAllowed := false }.pushMark .value 1)
  | none =>
    if !s.inFlow && !s.keyAllowed then none
    else
      let s := s.roll s.cursor.column none .blockMappingStart
      some ({ s with keyAllowed := !s.inFlow }.pushMark .value 1)

/-- An anchor or alias. -/
def anchor? (s : Scanner) (token : List Char → Token) : Option Scanner := do
  let s ← s.saveKey?
  let (name, cursor) ← anchorName? s.cursor
  some ({ s with cursor, keyAllowed := false }.push (token name))

/-- A tag. -/
def tag? (s : Scanner) : Option Scanner := do
  let s ← s.saveKey?
  let (name, cursor) ← tagName? s.inFlow s.cursor
  some ({ s with cursor, keyAllowed := false }.push (.tag name))

/-- A block scalar. -/
def block? (s : Scanner) (style : Style) : Option Scanner := do
  let s ← s.dropKey?
  let (text, cursor) ← Yaml.block? (style = .folded) s.indent s.cursor
  some ({ s with cursor, keyAllowed := true }.push (.scalar style (String.ofList text)))

/-- A quoted scalar. -/
def quoted? (s : Scanner) (style : Style) : Option Scanner := do
  let s ← s.saveKey?
  let (text, cursor) ← Yaml.quoted? (style = .doubleQuoted) s.cursor
  some ({ s with cursor, keyAllowed := false }.push (.scalar style (String.ofList text)))

/-- A plain scalar. A key may start after it if a line break ended it. -/
def plain? (s : Scanner) : Option Scanner := do
  let s ← s.saveKey?
  let (text, broken, cursor) ← Yaml.plain? s.inFlow (s.indent + 1).toNat s.cursor
  some ({ s with cursor, keyAllowed := broken }.push (.scalar .plain (String.ofList text)))

/-- Whether a plain scalar may start with the character, whatever follows. -/
def startsPlain (c : Char) : Bool :=
  !(isBlankOrEnd c || c ∈ ['-', '?', ':', ',', '[', ']', '\x7b', '\x7d', '#', '&', '*', '!', '|',
    '>', '\'', '"', '%', '@', '\x60'])

/-- The scanner after the next token, which brings others with it where a block
collection starts or ends; no scanner at the end of the text. Fails where no
token can start, or one is malformed. -/
def next? (s : Scanner) : Option (Scanner × Bool) := do
  let s ← (skipBlanks (s.cursor.rest.length + 1) s).dropStale?
  let s := s.unroll s.cursor.column
  let c := s.cursor.here
  let wordEnds := isBlankOrEnd (s.cursor.peek 1)
  let more (s : Option Scanner) : Option (Scanner × Bool) := s.map fun s => (s, true)
  if isEnd c then s.finish?.map fun s => (s, false)
  else if s.cursor.column = 0 && c = '%' then more s.directive?
  else if s.cursor.atMark '-' then more (s.documentMark? .documentStart)
  else if s.cursor.atMark '.' then more (s.documentMark? .documentEnd)
  else if c = '[' then more (s.openFlow? .flowSequenceStart)
  else if c = '\x7b' then more (s.openFlow? .flowMappingStart)
  else if c = ']' then more (s.closeFlow? .flowSequenceEnd)
  else if c = '\x7d' then more (s.closeFlow? .flowMappingEnd)
  else if c = ',' then more s.flowEntry?
  else if c = '-' && wordEnds then more s.blockEntry?
  else if c = '?' && (s.inFlow || wordEnds) then more s.key?
  else if c = ':' && (s.inFlow || wordEnds) then more s.value?
  else if c = '*' then more (s.anchor? .alias)
  else if c = '&' then more (s.anchor? .anchor)
  else if c = '!' then more s.tag?
  else if c = '|' && !s.inFlow then more (s.block? .literal)
  else if c = '>' && !s.inFlow then more (s.block? .folded)
  else if c = '\'' then more (s.quoted? .singleQuoted)
  else if c = '"' then more (s.quoted? .doubleQuoted)
  else if startsPlain c || c = '-' || (!s.inFlow && (c = '?' || c = ':')) then more s.plain?
  else none

/-- The tokens of the whole text. Every call but the last takes a character. -/
def run? : Nat → Scanner → Option (List Token)
  | 0, _ => none
  | fuel + 1, s =>
    match s.next? with
    | none => none
    | some (s, false) => some s.tokens.reverse
    | some (s, true) => run? fuel s

end Scanner

/-- The tokens of a text, if all its characters are allowed and all its tokens are
well formed. -/
def Token.scan? (text : List Char) : Option (List Token) :=
  if text.all isAllowed then Scanner.run? (text.length + 1) (.ofText text) else none

end Gatekeeper.Yaml
