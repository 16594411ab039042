import Gatekeeper.Key.Public
import Gatekeeper.Text.Blank

/-!
# `Gatekeeper.Key.Pair`: signing keys

A key pair is a role and a seed of 32 bytes. The seed's text has the letter `S`
and the role's letter in front, so no seed reads as a public key.

* `KeyPair.publicKey`, `KeyPair.sign`: what the seed yields.
* `KeyPair.seedText`, `KeyPair.ofSeedText`: the two directions of its text;
  blanks around it do not matter.
-/

set_option autoImplicit false

namespace Gatekeeper.Key

open Gatekeeper.Bytes

/-- The secret half of a key. -/
abbrev Seed := Block 32

/-- A role and the seed of its keys. -/
structure KeyPair where
  role : Role
  seed : Seed
  deriving DecidableEq

namespace KeyPair

/-- The public half. -/
def publicKey (pair : KeyPair) : PublicKey :=
  ⟨pair.role, Curve.Signature.publicKey pair.seed.val, Curve.Signature.length_publicKey _⟩

/-- The text of the pair's signature on a message. -/
def sign (pair : KeyPair) (message : List UInt8) : String :=
  String.ofList (Base64Url.encode (Curve.Signature.sign pair.seed.val message))

/-- The letters in front of the seeds of a role. -/
def seedLabel (role : Role) : List Char := ['S', role.letter]

/-- The text of the pair's seed. -/
def seedText (pair : KeyPair) : String :=
  String.ofList (sealText (seedLabel pair.role) pair.seed)

/-- The pair whose seed's text is given, blanks around it aside. -/
def ofSeedText (text : String) : Except Fault KeyPair :=
  match Text.trim text.toList with
  | [] => .error .empty
  | 'S' :: [] => .error .empty
  | 'S' :: letter :: body =>
    match Role.ofLetter? letter with
    | none => .error (.unknownPrefix letter)
    | some role =>
      match unsealText ['S', letter] body with
      | .error fault => .error fault
      | .ok seed => .ok ⟨role, seed⟩
  | letter :: _ => .error (.unknownPrefix letter)

/-- The pair as diagnostics show it, without its seed. -/
def describe (pair : KeyPair) : String :=
  s!"KeyPair \x7b role: {pair.role.title}, public_key: \"{pair.publicKey.toText}\", .. \x7d"

end KeyPair

end Gatekeeper.Key
