import Gatekeeper.Handshake.Message
import Gatekeeper.Text.Blank

/-!
# `Gatekeeper.Wire.Command`: what a client asks for

A client's line is a word and, for a connect, a request in JSON. Letters of the
word may have either case, and blanks around word and request do not matter.

* `Command.parse`: the command of a line.
-/

set_option autoImplicit false

namespace Gatekeeper.Wire

open Gatekeeper.Text Gatekeeper.Handshake

/-- What a client asks for. -/
inductive Command where
  | connect (request : Request)
  | ping
  | pong
  deriving DecidableEq, Repr

/-- Why a line is no command. -/
inductive CommandFault where
  | unknownOperation (word : String)
  | malformedConnect
  deriving DecidableEq, Repr

/-- The wording of a fault. -/
def CommandFault.message : CommandFault → String
  | .unknownOperation word => s!"unknown operation: {word}"
  | .malformedConnect => "malformed CONNECT payload"

namespace Command

/-- The first word of a line, and the rest without the blanks around it. -/
def split (line : String) : List Char × List Char :=
  let cs := trim line.toList
  (cs.takeWhile (!isBlank ·), trim (cs.dropWhile (!isBlank ·)))

/-- The request of a payload, which may be left out. -/
def requestOf? (payload : List Char) : Option Request :=
  if payload.isEmpty then some .empty else (Json.Value.parse? payload).bind Request.ofJson?

/-- The command of a line. -/
def parse (line : String) : Except CommandFault Command :=
  let (word, rest) := split line
  let operation := String.ofList (word.map Char.toUpper)
  if operation = "CONNECT" then
    match requestOf? rest with
    | some request => .ok (.connect request)
    | none => .error .malformedConnect
  else if operation = "PING" ∧ rest.isEmpty then .ok .ping
  else if operation = "PONG" ∧ rest.isEmpty then .ok .pong
  else .error (.unknownOperation (String.ofList word))

end Command

end Gatekeeper.Wire
