import Gatekeeper.Curve.Point
import Gatekeeper.Hash.Sha512

/-!
# `Gatekeeper.Curve.Signature`: Ed25519 signatures

A seed of 32 bytes hashes to a secret scalar and a nonce key. The public key is
the encoded multiple of the generator, and a signature is an encoded point `R`
followed by a scalar `s`.

* `publicKey`, `sign`: what a seed yields.
* `verify`: the strict check. It takes `s` only below the group order, refuses
  small-order points on either side, and compares `s B - k A` with `R` byte for
  byte, without clearing the cofactor.
-/

set_option autoImplicit false

namespace Gatekeeper.Curve.Signature

open Gatekeeper.Bytes Gatekeeper.Hash

/-- A hash read as a scalar modulo the group order. -/
def hashScalar (message : List UInt8) : Nat :=
  ofLittleEndian (Sha512.digest message) % groupOrder

/-- The weight of the bit that secret scalars have set, 2²⁵⁴. -/
def setBit : Nat := 0x4000000000000000000000000000000000000000000000000000000000000000

/-- The secret scalar of a seed: the low half of the seed's hash with the three
low bits cleared, the top bit cleared and the one below it set. -/
def secretScalar (seed : List UInt8) : Nat :=
  let low := ofLittleEndian ((Sha512.digest seed).take 32)
  low % setBit / 8 * 8 + setBit

/-- The second half of the seed's hash, from which signing draws its scalar. -/
def signingKey (seed : List UInt8) : List UInt8 :=
  (Sha512.digest seed).drop 32

/-- The encoded public key of a seed. -/
def publicKey (seed : List UInt8) : List UInt8 :=
  (Point.base.scale 255 (secretScalar seed)).toBytes

/-- The 64 bytes of a seed's signature on a message. -/
def sign (seed message : List UInt8) : List UInt8 :=
  let draw := hashScalar (signingKey seed ++ message)
  let r := (Point.base.scale 253 draw).toBytes
  let k := hashScalar (r ++ publicKey seed ++ message)
  r ++ littleEndian 32 ((draw + k * secretScalar seed) % groupOrder)

/-- Whether 64 bytes are a strict signature on a message under an encoded key. -/
def verify (key message signature : List UInt8) : Bool :=
  let r := signature.take 32
  let s := ofLittleEndian (signature.drop 32)
  match Point.ofBytes? key, Point.ofBytes? r with
  | some a, some rPoint =>
    let k := hashScalar (r ++ key ++ message)
    s < groupOrder && !rPoint.isSmallOrder && !a.isSmallOrder &&
      ((Point.base.scale 253 s).add (a.negate.scale 253 k)).toBytes = r
  | _, _ => false

@[simp] theorem length_publicKey (seed : List UInt8) : (publicKey seed).length = 32 :=
  Point.length_toBytes _

@[simp] theorem length_sign (seed message : List UInt8) : (sign seed message).length = 64 := by
  simp [sign]

end Gatekeeper.Curve.Signature
