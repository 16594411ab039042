import Gatekeeper.Base64Url
import Gatekeeper.Bytes
import Gatekeeper.Hash.Sha256
import Gatekeeper.Key.Role
import Gatekeeper.Text.Quoted
import Gatekeeper.Text.Utf8

/-!
# `Gatekeeper.Key.Text`: 32 bytes under a label, as text

Keys and seeds share one written form: a label of one or two letters, then the
base64url text of the 32 bytes and a checksum of four. The checksum covers the
label too, so a key with the letter of another role does not read back.

* `sealText`, `unsealText`: the two directions.
* `Fault`: why a text is no key.
-/

set_option autoImplicit false

namespace Gatekeeper.Key

open Gatekeeper.Bytes Gatekeeper.Text

/-- Why a text is no key. -/
inductive Fault where
  | empty
  | unknownPrefix (found : Char)
  | encoding
  | length (found : Nat)
  | checksum
  | invalidPoint
  | wrongRole (expected actual : Role)
  deriving DecidableEq, Repr

/-- The wording of a fault. -/
def Fault.message : Fault → String
  | .empty => "key is empty"
  | .unknownPrefix c => "unknown key prefix " ++ quoteChar c
  | .encoding => "key is not valid base64url"
  | .length n => s!"decoded key has length {n}, expected 36"
  | .checksum => "key checksum mismatch"
  | .invalidPoint => "key is not a valid ed25519 point"
  | .wrongRole expected actual => s!"expected {expected.name} key, got {actual.name} key"

/-- The first four bytes of the digest of label and key. -/
def checksum (label : List Char) (key : List UInt8) : List UInt8 :=
  (Hash.Sha256.digest (Utf8.encode label ++ key)).take 4

/-- The text of 32 bytes under a label. -/
def sealText (label : List Char) (key : Block 32) : List Char :=
  label ++ Base64Url.encode (key.val ++ checksum label key.val)

/-- The 32 bytes whose text under a label has the given rest. -/
def unsealText (label body : List Char) : Except Fault (Block 32) :=
  match Base64Url.decode? body with
  | none => .error .encoding
  | some payload =>
    if h : payload.length = 36 then
      if payload.drop 32 = checksum label (payload.take 32) then
        .ok ⟨payload.take 32, by simp [h]⟩
      else .error .checksum
    else .error (.length payload.length)

end Gatekeeper.Key
