/-!
# `Gatekeeper.Yaml.Token`: the tokens of a YAML text

Besides the marks that are written, there are tokens that follow from indentation:
where a block collection starts and ends, and where the key of a mapping starts
that no mark announces.
-/

set_option autoImplicit false

namespace Gatekeeper.Yaml

/-- How a scalar is written. -/
inductive Style where
  | plain
  | singleQuoted
  | doubleQuoted
  | literal
  | folded
  deriving DecidableEq, Repr

/-- A tag as written: a handle that stands for the start of the tag, and the rest.
A handle of no characters stands for nothing. -/
structure TagName where
  handle : List Char
  suffix : List UInt8
  deriving DecidableEq, Repr

/-- One token. -/
inductive Token where
  | versionDirective (major minor : Nat)
  | tagDirective (handle : List Char) (expansion : List UInt8)
  | documentStart
  | documentEnd
  | blockSequenceStart
  | blockMappingStart
  | blockEnd
  | flowSequenceStart
  | flowSequenceEnd
  | flowMappingStart
  | flowMappingEnd
  | blockEntry
  | flowEntry
  | key
  | value
  | alias (name : List Char)
  | anchor (name : List Char)
  | tag (name : TagName)
  | scalar (style : Style) (text : String)
  deriving DecidableEq, Repr

end Gatekeeper.Yaml
