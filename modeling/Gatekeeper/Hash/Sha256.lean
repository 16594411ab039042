import Gatekeeper.Hash.Padding

/-!
# `Gatekeeper.Hash.Sha256`: the SHA-256 digest

A padded message is read as 32-bit words, sixteen to a block. Each block is
mixed into eight working words by 64 rounds, one per round constant, while a
window of sixteen words rolls over the message schedule; the mixed words are
added to those before the block.

* `digest`: the 32 bytes of the digest.
* `length_digest`: there are always 32 of them.
-/

set_option autoImplicit false

namespace Gatekeeper.Hash.Sha256

open Gatekeeper.Bytes

/-- The eight working words. -/
structure Words where
  a : UInt32
  b : UInt32
  c : UInt32
  d : UInt32
  e : UInt32
  f : UInt32
  g : UInt32
  h : UInt32

/-- The working words before the first block: the first bits of the fractional
parts of the square roots of the first eight primes. -/
def initial : Words where
  a := 0x6a09e667
  b := 0xbb67ae85
  c := 0x3c6ef372
  d := 0xa54ff53a
  e := 0x510e527f
  f := 0x9b05688c
  g := 0x1f83d9ab
  h := 0x5be0cd19

/-- One constant per round: the first bits of the fractional parts of the cube
roots of the first 64 primes. -/
def roundConstants : List UInt32 := [
  0x428a2f98, 0x71374491, 0xb5c0fbcf, 0xe9b5dba5, 0x3956c25b, 0x59f111f1, 0x923f82a4, 0xab1c5ed5,
  0xd807aa98, 0x12835b01, 0x243185be, 0x550c7dc3, 0x72be5d74, 0x80deb1fe, 0x9bdc06a7, 0xc19bf174,
  0xe49b69c1, 0xefbe4786, 0x0fc19dc6, 0x240ca1cc, 0x2de92c6f, 0x4a7484aa, 0x5cb0a9dc, 0x76f988da,
  0x983e5152, 0xa831c66d, 0xb00327c8, 0xbf597fc7, 0xc6e00bf3, 0xd5a79147, 0x06ca6351, 0x14292967,
  0x27b70a85, 0x2e1b2138, 0x4d2c6dfc, 0x53380d13, 0x650a7354, 0x766a0abb, 0x81c2c92e, 0x92722c85,
  0xa2bfe8a1, 0xa81a664b, 0xc24b8b70, 0xc76c51a3, 0xd192e819, 0xd6990624, 0xf40e3585, 0x106aa070,
  0x19a4c116, 0x1e376c08, 0x2748774c, 0x34b0bcb5, 0x391c0cb3, 0x4ed8aa4a, 0x5b9cca4f, 0x682e6ff3,
  0x748f82ee, 0x78a5636f, 0x84c87814, 0x8cc70208, 0x90befffa, 0xa4506ceb, 0xbef9a3f7, 0xc67178f2]

/-- Rotation of a word by `n` bits to the right. -/
def rotate (x : UInt32) (n : UInt32) : UInt32 :=
  (x >>> n) ||| (x <<< (32 - n))

/-- The word sixteen places on in the message schedule, from the window's
words 0, 1, 9 and 14. -/
def scheduled (w0 w1 w9 w14 : UInt32) : UInt32 :=
  let low := rotate w1 7 ^^^ rotate w1 18 ^^^ (w1 >>> 3)
  let high := rotate w14 17 ^^^ rotate w14 19 ^^^ (w14 >>> 10)
  w0 + low + w9 + high

/-- One round: constant `k` and schedule word `w` enter the working words. -/
def Words.round (s : Words) (k w : UInt32) : Words :=
  let sumE := rotate s.e 6 ^^^ rotate s.e 11 ^^^ rotate s.e 25
  let choice := (s.e &&& s.f) ^^^ (~~~s.e &&& s.g)
  let t := s.h + sumE + choice + k + w
  let sumA := rotate s.a 2 ^^^ rotate s.a 13 ^^^ rotate s.a 22
  let majority := (s.a &&& s.b) ^^^ (s.a &&& s.c) ^^^ (s.b &&& s.c)
  ⟨t + (sumA + majority), s.a, s.b, s.c, s.d + t, s.e, s.f, s.g⟩

/-- The rounds of the given constants over a window of sixteen schedule words. -/
def rounds : List UInt32 → List UInt32 → Words → Words
  | k :: ks, w0 :: w1 :: window, s =>
    let next := scheduled w0 w1 (window.getD 7 0) (window.getD 12 0)
    rounds ks (w1 :: window ++ [next]) (s.round k w0)
  | _, _, s => s

/-- Word by word sum. -/
def Words.add (s t : Words) : Words :=
  ⟨s.a + t.a, s.b + t.b, s.c + t.c, s.d + t.d, s.e + t.e, s.f + t.f, s.g + t.g, s.h + t.h⟩

/-- The working words after one block of sixteen message words. -/
def Words.absorb (s : Words) (block : List UInt32) : Words :=
  s.add (rounds roundConstants block s)

/-- Bytes read as words, most significant byte first. -/
def toWords : List UInt8 → List UInt32
  | b0 :: b1 :: b2 :: b3 :: rest =>
    UInt32.ofNat (ofBigEndian [b0, b1, b2, b3]) :: toWords rest
  | _ => []

/-- The working words after `count` blocks. -/
def absorbAll : Nat → List UInt32 → Words → Words
  | 0, _, s => s
  | count + 1, ws, s => absorbAll count (ws.drop 16) (s.absorb (ws.take 16))

/-- The working words as bytes, most significant byte first. -/
def Words.toBytes (s : Words) : List UInt8 :=
  [s.a, s.b, s.c, s.d, s.e, s.f, s.g, s.h].flatMap fun w => bigEndian 4 w.toNat

/-- The SHA-256 digest of a message. -/
def digest (message : List UInt8) : List UInt8 :=
  let ws := toWords (pad 64 8 message)
  (absorbAll (ws.length / 16) ws initial).toBytes

theorem length_digest (message : List UInt8) : (digest message).length = 32 := by
  simp [digest, Words.toBytes]

end Gatekeeper.Hash.Sha256
