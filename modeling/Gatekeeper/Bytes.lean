/-!
# `Gatekeeper.Bytes`: numbers as bytes

Fixed-width numbers in both byte orders.

* `bigEndian`, `littleEndian`: the low bytes of a number.
* `ofBigEndian`, `ofLittleEndian`: the number that some bytes spell.
* `Block`: byte lists of one length, such as seeds, keys and signatures.
-/

set_option autoImplicit false

namespace Gatekeeper.Bytes

/-- The byte lists of length `n`. -/
abbrev Block (n : Nat) := { bytes : List UInt8 // bytes.length = n }

/-- The byte list as a block, if it has the length of one. -/
def Block.ofList? (n : Nat) (bytes : List UInt8) : Option (Block n) :=
  if h : bytes.length = n then some ⟨bytes, h⟩ else none

/-- The `count` low bytes of `n`, most significant first. -/
def bigEndian : Nat → Nat → List UInt8
  | 0, _ => []
  | count + 1, n => UInt8.ofNat (n >>> (8 * count)) :: bigEndian count n

/-- The number whose bytes, most significant first, are given. -/
def ofBigEndian (bytes : List UInt8) : Nat :=
  bytes.foldl (fun n b => 256 * n + b.toNat) 0

/-- The `count` low bytes of `n`, least significant first. -/
def littleEndian : Nat → Nat → List UInt8
  | 0, _ => []
  | count + 1, n => UInt8.ofNat n :: littleEndian count (n >>> 8)

/-- The number whose bytes, least significant first, are given. -/
def ofLittleEndian : List UInt8 → Nat
  | [] => 0
  | b :: rest => b.toNat + 256 * ofLittleEndian rest

@[simp] theorem length_bigEndian (count n : Nat) : (bigEndian count n).length = count := by
  induction count with
  | zero => rfl
  | succ count ih => simp [bigEndian, ih]

@[simp] theorem length_littleEndian (count n : Nat) : (littleEndian count n).length = count := by
  induction count generalizing n with
  | zero => rfl
  | succ count ih => simp [littleEndian, ih]

end Gatekeeper.Bytes
