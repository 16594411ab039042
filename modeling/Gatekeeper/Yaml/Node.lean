import Gatekeeper.Text.Utf8
import Gatekeeper.Yaml.Scan

/-!
# `Gatekeeper.Yaml.Node`: the content of a YAML document

A document is a tree of scalars, sequences and mappings. A node may carry an
anchor, and an alias stands for the node whose anchor it names. Anchors are
numbered: each takes the number of different names met before it, and an alias
stands for the last node of its number.

* `Node.ofTokens?`: the one document that tokens spell.
* `Node.parse?`: the one document of a text.
* `Node.anchored?`: the node that an alias stands for.
-/

set_option autoImplicit false

namespace Gatekeeper.Yaml

open Gatekeeper.Text

/-- A node of a document. -/
inductive Node where
  | scalar (anchor : Option Nat) (tag : Option (List UInt8)) (style : Style) (text : String)
  | sequence (anchor : Option Nat) (items : List Node)
  | mapping (anchor : Option Nat) (entries : List (Node × Node))
  | alias (anchor : Nat)

namespace Node

/-! ### Directives -/

/-- What the handles of tags stand for. -/
abbrev Handles := List (List Char × List UInt8)

/-- The handles that need no directive. -/
def standardHandles : Handles :=
  [(['!'], Utf8.encode ['!']), (['!', '!'], Utf8.encodeString "tag:yaml.org,2002:")]

/-- The handles that directives define, after those of `handles`, and the tokens
after the directives. One version may be given, 1.1 or 1.2, and a handle may be
defined once. -/
def directives? : Bool → Handles → List Token → Option (Handles × List Token)
  | versioned, handles, .versionDirective major minor :: rest =>
    if !versioned && major = 1 && (minor = 1 || minor = 2) then directives? true handles rest
    else none
  | versioned, handles, .tagDirective handle expansion :: rest =>
    if handles.any (·.1 = handle) then none
    else directives? versioned (handles ++ [(handle, expansion)]) rest
  | _, handles, rest => some (handles, rest)

/-- The full tag of a name, if its handle is known. -/
def fullTag? (handles : Handles) (name : TagName) : Option (List UInt8) :=
  if name.handle.isEmpty then some name.suffix
  else (handles.lookup name.handle).map (· ++ name.suffix)

/-! ### Nodes -/

/-- Tokens that are still to come, and the anchors so far with their numbers. -/
structure Remaining where
  tokens : List Token
  anchors : List (List Char × Nat)

namespace Remaining

/-- The token that is next. -/
def head? (r : Remaining) : Option Token := r.tokens.head?

/-- What follows the next token. -/
def tail (r : Remaining) : Remaining := { r with tokens := r.tokens.tail }

/-- What follows a token that has to be next. -/
def expect? (r : Remaining) (token : Token) : Option Remaining :=
  if r.head? = some token then some r.tail else none

/-- Whether one of the tokens is next. -/
def isAt (r : Remaining) (tokens : List Token) : Bool :=
  match r.head? with
  | some token => token ∈ tokens
  | none => false

/-- The number of a new anchor. -/
def define (r : Remaining) (name : List Char) : Nat × Remaining :=
  let number := r.anchors.length
  (number, { r with anchors := (name, number) :: r.anchors.filter (·.1 ≠ name) })

end Remaining

/-- The scalar that stands where nothing is written. -/
def nothing : Node := .scalar none none .plain ""

/-- What stands in front of a node: its anchor and its tag, in either order. -/
def properties? (handles : Handles) (r : Remaining) :
    Option (Option (List Char) × Option (List UInt8) × Remaining) :=
  match r.tokens with
  | .anchor name :: .tag tag :: _ =>
    (fullTag? handles tag).map fun tag => (some name, some tag, r.tail.tail)
  | .tag tag :: .anchor name :: _ =>
    (fullTag? handles tag).map fun tag => (some name, some tag, r.tail.tail)
  | .anchor name :: _ => some (some name, none, r.tail)
  | .tag tag :: _ => (fullTag? handles tag).map fun tag => (none, some tag, r.tail)
  | _ => some (none, none, r)

/-- The tag of a scalar. One exclamation mark alone is no tag. -/
def scalarTag (tag : Option (List UInt8)) : Option (List UInt8) :=
  tag.filter fun tag => tag ≠ Utf8.encode ['!']

/-- The number of the anchor, if there is one. -/
def number (r : Remaining) (name : Option (List Char)) : Option Nat × Remaining :=
  match name with
  | some name =>
    let (number, r) := r.define name
    (some number, r)
  | none => (none, r)

/-- A node of which only properties are written, and at least one. -/
def absent? (name : Option (List Char)) (tag : Option (List UInt8)) (r : Remaining) :
    Option (Node × Remaining) :=
  if name.isNone && tag.isNone then none
  else
    let (anchor, r) := number r name
    some (.scalar anchor tag .plain "", r)

mutual

/-- The node at the next token. `block` tells whether a block collection may stand
here, and `dashes` whether the items of a sequence may stand at the column of the
mapping around it. -/
def node? (handles : Handles) : Nat → Bool → Bool → Remaining → Option (Node × Remaining)
  | 0, _, _, _ => none
  | fuel + 1, block, dashes, r =>
    match r.head? with
    | some (.alias name) =>
      (r.anchors.lookup name).map fun number => (.alias number, r.tail)
    | _ => do
      let (name, tag, r) ← properties? handles r
      match r.head? with
      | some (.scalar style text) =>
        let (anchor, r) := number r name
        some (.scalar anchor (scalarTag tag) style text, r.tail)
      | some .blockEntry =>
        if dashes then
          let (anchor, r) := number r name
          (dashItems? handles fuel r).map fun (items, r) => (.sequence anchor items, r)
        else absent? name tag r
      | some .flowSequenceStart =>
        let (anchor, r) := number r name
        (flowItems? handles fuel true r.tail).map fun (items, r) => (.sequence anchor items, r)
      | some .flowMappingStart =>
        let (anchor, r) := number r name
        (flowEntries? handles fuel true r.tail).map fun (entries, r) => (.mapping anchor entries, r)
      | some .blockSequenceStart =>
        if block then
          let (anchor, r) := number r name
          (blockItems? handles fuel r.tail).map fun (items, r) => (.sequence anchor items, r)
        else absent? name tag r
      | some .blockMappingStart =>
        if block then
          let (anchor, r) := number r name
          (blockEntries? handles fuel r.tail).map fun (entries, r) => (.mapping anchor entries, r)
        else absent? name tag r
      | _ => absent? name tag r

/-- The node at the next token, or nothing at one of the tokens that end its place. -/
def nodeUnless? (handles : Handles) : Nat → List Token → Bool → Bool → Remaining →
    Option (Node × Remaining)
  | 0, _, _, _, _ => none
  | fuel + 1, ends, block, dashes, r =>
    if r.isAt ends then some (nothing, r) else node? handles fuel block dashes r

/-- The items of a block sequence, up to its end. -/
def blockItems? (handles : Handles) : Nat → Remaining → Option (List Node × Remaining)
  | 0, _ => none
  | fuel + 1, r =>
    match r.head? with
    | some .blockEntry => do
      let (item, r) ← nodeUnless? handles fuel [.blockEntry, .blockEnd] true false r.tail
      let (items, r) ← blockItems? handles fuel r
      some (item :: items, r)
    | some .blockEnd => some ([], r.tail)
    | _ => none

/-- The items of a sequence at the column of the mapping around it. -/
def dashItems? (handles : Handles) : Nat → Remaining → Option (List Node × Remaining)
  | 0, _ => none
  | fuel + 1, r =>
    match r.head? with
    | some .blockEntry => do
      let (item, r) ←
        nodeUnless? handles fuel [.blockEntry, .key, .value, .blockEnd] true false r.tail
      let (items, r) ← dashItems? handles fuel r
      some (item :: items, r)
    | _ => some ([], r)

/-- The entries of a block mapping, up to its end. -/
def blockEntries? (handles : Handles) : Nat → Remaining → Option (List (Node × Node) × Remaining)
  | 0, _ => none
  | fuel + 1, r =>
    match r.head? with
    | some .key => do
      let (key, r) ← nodeUnless? handles fuel [.key, .value, .blockEnd] true true r.tail
      let (value, r) ← match r.head? with
        | some .value => nodeUnless? handles fuel [.key, .value, .blockEnd] true true r.tail
        | _ => some (nothing, r)
      let (entries, r) ← blockEntries? handles fuel r
      some ((key, value) :: entries, r)
    | some .blockEnd => some ([], r.tail)
    | _ => none

/-- The items of a flow sequence, up to its end. A comma precedes each but the
first. An item with a key is a mapping of one entry. -/
def flowItems? (handles : Handles) : Nat → Bool → Remaining → Option (List Node × Remaining)
  | 0, _, _ => none
  | fuel + 1, first, r =>
    match r.head? with
    | some .flowSequenceEnd => some ([], r.tail)
    | _ => do
      let r ← if first then some r else r.expect? .flowEntry
      match r.head? with
      | some .flowSequenceEnd => some ([], r.tail)
      | some .key => do
        let (key, r) ←
          if r.tail.isAt [.value, .flowEntry, .flowSequenceEnd] then some (nothing, r.tail.tail)
          else node? handles fuel false false r.tail
        let (value, r) ← match r.head? with
          | some .value =>
            nodeUnless? handles fuel [.flowEntry, .flowSequenceEnd] false false r.tail
          | _ => some (nothing, r)
        let (items, r) ← flowItems? handles fuel false r
        some (.mapping none [(key, value)] :: items, r)
      | _ => do
        let (item, r) ← node? handles fuel false false r
        let (items, r) ← flowItems? handles fuel false r
        some (item :: items, r)

/-- The entries of a flow mapping, up to its end. A comma precedes each but the
first. -/
def flowEntries? (handles : Handles) :
    Nat → Bool → Remaining → Option (List (Node × Node) × Remaining)
  | 0, _, _ => none
  | fuel + 1, first, r =>
    match r.head? with
    | some .flowMappingEnd => some ([], r.tail)
    | _ => do
      let r ← if first then some r else r.expect? .flowEntry
      match r.head? with
      | some .flowMappingEnd => some ([], r.tail)
      | some .key => do
        let (key, r) ←
          nodeUnless? handles fuel [.value, .flowEntry, .flowMappingEnd] false false r.tail
        let (value, r) ← match r.head? with
          | some .value =>
            nodeUnless? handles fuel [.flowEntry, .flowMappingEnd] false false r.tail
          | _ => some (nothing, r)
        let (entries, r) ← flowEntries? handles fuel false r
        some ((key, value) :: entries, r)
      | _ => do
        let (key, r) ← node? handles fuel false false r
        let (entries, r) ← flowEntries? handles fuel false r
        some ((key, nothing) :: entries, r)

end

/-! ### Documents -/

/-- The tokens that end a document, or start another. -/
def endsDocument : Option Token → Bool
  | none => true
  | some (.versionDirective _ _) => true
  | some (.tagDirective _ _) => true
  | some .documentStart => true
  | some .documentEnd => true
  | some _ => false

/-- The document at the front of the tokens, and the tokens after it. Unless marked,
it starts at once and without directives. -/
def document? (tokens : List Token) : Option (Node × List Token) := do
  let fuel := 3 * tokens.length + 3
  match tokens.head? with
  | some (.versionDirective _ _) | some (.tagDirective _ _) | some .documentStart =>
    let (handles, tokens) ← directives? false [] tokens
    let tokens ← if tokens.head? = some .documentStart then some tokens.tail else none
    let handles := handles ++ standardHandles
    if endsDocument tokens.head? then some (nothing, tokens)
    else (node? handles fuel true false ⟨tokens, []⟩).map fun (node, r) => (node, r.tokens)
  | _ => (node? standardHandles fuel true false ⟨tokens, []⟩).map fun (node, r) => (node, r.tokens)

/-- The one document that tokens spell; nothing at all is one too. Marks of its end
may follow it. -/
def ofTokens? (tokens : List Token) : Option (Option Node) :=
  if tokens.isEmpty then some none
  else
    match document? tokens with
    | some (node, rest) => if rest.all (· = .documentEnd) then some (some node) else none
    | none => none

/-- The one document of a text. -/
def parse? (text : String) : Option (Option Node) :=
  (Token.scan? text.toList).bind ofTokens?

/-! ### Aliases -/

mutual

/-- The anchored nodes of a node with their numbers, in the order in which they
start. -/
def anchors : Node → List (Nat × Node)
  | .alias _ => []
  | .scalar anchor tag style text =>
    (anchor.map fun n => (n, Node.scalar anchor tag style text)).toList
  | .sequence anchor items =>
    (anchor.map fun n => (n, Node.sequence anchor items)).toList ++ itemAnchors items
  | .mapping anchor entries =>
    (anchor.map fun n => (n, Node.mapping anchor entries)).toList ++ entryAnchors entries

/-- The anchored nodes of items. -/
def itemAnchors : List Node → List (Nat × Node)
  | [] => []
  | item :: rest => anchors item ++ itemAnchors rest

/-- The anchored nodes of entries, keys before values. -/
def entryAnchors : List (Node × Node) → List (Nat × Node)
  | [] => []
  | (key, value) :: rest => anchors key ++ (anchors value ++ entryAnchors rest)

end

/-- The node that an alias of a document stands for: the last one with its number. -/
def anchored? (document : Node) (number : Nat) : Option Node :=
  document.anchors.reverse.lookup number

end Node

end Gatekeeper.Yaml
