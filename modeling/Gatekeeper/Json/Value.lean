import Gatekeeper.Json.Token

/-!
# `Gatekeeper.Json.Value`: JSON values

A value is read from tokens one at a time, with the arrays and objects that are
still open kept in a list, and is written without blanks. Objects keep the order
of their fields, and every field that is given.

* `Value.ofTokens?`: the value that tokens spell.
* `Value.parse?`, `Value.render`: a value from text, and as text.
-/

set_option autoImplicit false

namespace Gatekeeper.Json

/-- A JSON value. The text of a string or key is absent where its characters are
incomplete. -/
inductive Value where
  | null
  | bool (value : Bool)
  | number (literal : List Char)
  | string (text : Option String)
  | array (items : List Value)
  | object (fields : List (Option String × Value))

/-- An array or object that is still open, with what it holds so far in reverse.
In an object the key of the next field has been read. -/
inductive Frame where
  | array (items : List Value)
  | object (fields : List (Option String × Value)) (key : Option String)

/-- What the tokens so far leave to come. -/
inductive Progress where
  /-- A value. -/
  | value (frames : List Frame)
  /-- The first item of an array, or its end. -/
  | item (frames : List Frame)
  /-- The first field of an object, or its end. -/
  | field (frames : List Frame)
  /-- The key of a further field. -/
  | key (frames : List Frame) (fields : List (Option String × Value))
  /-- The colon after a key. -/
  | colon (frames : List Frame) (fields : List (Option String × Value)) (key : Option String)
  /-- What follows a finished value. -/
  | done (frames : List Frame) (value : Value)

/-- The progress after a token where a value is due. -/
def Progress.openValue (frames : List Frame) : Token → Option Progress
  | .null => some (.done frames .null)
  | .bool b => some (.done frames (.bool b))
  | .number literal => some (.done frames (.number literal))
  | .string text => some (.done frames (.string text))
  | .openBracket => some (.item frames)
  | .openBrace => some (.field frames)
  | _ => none

/-- The progress after one more token, or `none` where it cannot stand. -/
def Progress.next : Progress → Token → Option Progress
  | .value frames, token => openValue frames token
  | .item frames, .closeBracket => some (.done frames (.array []))
  | .item frames, token => openValue (.array [] :: frames) token
  | .field frames, .closeBrace => some (.done frames (.object []))
  | .field frames, .string name => some (.colon frames [] name)
  | .key frames fields, .string name => some (.colon frames fields name)
  | .colon frames fields name, .colon => some (.value (.object fields name :: frames))
  | .done (.array items :: frames) v, .comma => some (.value (.array (v :: items) :: frames))
  | .done (.array items :: frames) v, .closeBracket =>
    some (.done frames (.array (v :: items).reverse))
  | .done (.object fields name :: frames) v, .comma => some (.key frames ((name, v) :: fields))
  | .done (.object fields name :: frames) v, .closeBrace =>
    some (.done frames (.object ((name, v) :: fields).reverse))
  | _, _ => none

/-- The progress after more tokens. -/
def Progress.run : Progress → List Token → Option Progress
  | progress, [] => some progress
  | progress, token :: rest => (progress.next token).bind fun progress => run progress rest

namespace Value

/-- The one value that tokens spell. -/
def ofTokens? (tokens : List Token) : Option Value :=
  match Progress.run (.value []) tokens with
  | some (.done [] value) => some value
  | _ => none

/-- The value that a text spells. -/
def parse? (text : List Char) : Option Value := (scan text).bind ofTokens?

mutual

/-- The text of a value, without blanks. -/
def render : Value → List Char
  | null => "null".toList
  | bool true => "true".toList
  | bool false => "false".toList
  | number literal => literal
  | string text => quote (text.getD "")
  | array [] => ['[', ']']
  | array (item :: rest) => '[' :: render item ++ renderItems rest
  | object [] => ['\x7b', '\x7d']
  | object ((key, value) :: rest) =>
    '\x7b' :: quote (key.getD "") ++ ':' :: render value ++ renderFields rest

/-- The further items of an array, and its end. -/
def renderItems : List Value → List Char
  | [] => [']']
  | item :: rest => ',' :: render item ++ renderItems rest

/-- The further fields of an object, and its end. -/
def renderFields : List (Option String × Value) → List Char
  | [] => ['\x7d']
  | (key, value) :: rest =>
    ',' :: quote (key.getD "") ++ ':' :: render value ++ renderFields rest

end

end Value

end Gatekeeper.Json
