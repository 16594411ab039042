import Gatekeeper.Curve.Signature
import Gatekeeper.Key.Text

/-!
# `Gatekeeper.Key.Public`: public keys

A public key is a role and the 32 bytes of a curve point. Its text is the role's
letter followed by the sealed bytes.

* `PublicKey.parse`, `PublicKey.toText`: the two directions.
* `PublicKey.verify`: whether a signature text is one of this key's.
-/

set_option autoImplicit false

namespace Gatekeeper.Key

open Gatekeeper.Bytes

/-- A role and the encoding of a curve point. -/
structure PublicKey where
  role : Role
  bytes : Block 32
  deriving DecidableEq, Repr

/-- The bytes of a signature text: the base64url text of 64 bytes. -/
def signatureBytes? (text : String) : Option (Block 64) :=
  (Base64Url.decode? text.toList).bind (Block.ofList? 64)

namespace PublicKey

/-- Whether the bytes do encode a point of the curve. -/
def Valid (key : PublicKey) : Prop := (Curve.Point.ofBytes? key.bytes.val).isSome = true

instance (key : PublicKey) : Decidable key.Valid := inferInstanceAs (Decidable (_ = true))

/-- The text of a key. -/
def toText (key : PublicKey) : String :=
  String.ofList (sealText [key.role.letter] key.bytes)

/-- The key that a text stands for. -/
def parse (text : String) : Except Fault PublicKey :=
  match text.toList with
  | [] => .error .empty
  | letter :: body =>
    match Role.ofLetter? letter with
    | none => .error (.unknownPrefix letter)
    | some role =>
      match unsealText [letter] body with
      | .error fault => .error fault
      | .ok bytes =>
        if (Curve.Point.ofBytes? bytes.val).isSome then .ok ⟨role, bytes⟩
        else .error .invalidPoint

/-- The key that a text stands for, if it has the expected role. -/
def parseRole (expected : Role) (text : String) : Except Fault PublicKey :=
  match parse text with
  | .error fault => .error fault
  | .ok key => if key.role = expected then .ok key else .error (.wrongRole expected key.role)

/-- Whether 64 bytes are a strict signature of this key on the message. -/
def verifyBytes (key : PublicKey) (message : List UInt8) (signature : Block 64) : Bool :=
  Curve.Signature.verify key.bytes.val message signature.val

/-- Whether a text is a signature of this key on the message. A malformed text is
none. -/
def verify (key : PublicKey) (message : List UInt8) (signature : String) : Bool :=
  match signatureBytes? signature with
  | some bytes => key.verifyBytes message bytes
  | none => false

/-- The key as diagnostics show it. -/
def describe (key : PublicKey) : String :=
  s!"PublicKey(\"{key.toText}\")"

end PublicKey

end Gatekeeper.Key
