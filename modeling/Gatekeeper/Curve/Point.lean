import Gatekeeper.Bytes
import Gatekeeper.Curve.Field

/-!
# `Gatekeeper.Curve.Point`: points of the twisted Edwards curve

The curve `-x² + y² = 1 + d x² y²` over `Field`, in extended coordinates:
`(X, Y, Z, T)` stands for `x = X / Z`, `y = Y / Z` with `T = X Y / Z`, so that
one addition formula serves every pair of points without a division.

* `add`, `scale`: the group operation and multiples.
* `ofBytes?`: the point that 32 bytes encode: the second coordinate, and the
  parity of the first in the top bit.
* `toBytes`: the encoding of a point.
* `isSmallOrder`: whether eight times the point is the identity.
-/

set_option autoImplicit false

namespace Gatekeeper.Curve

open Gatekeeper.Bytes

/-- The order of the group that `Point.base` generates, a prime just above 2²⁵². -/
def groupOrder : Nat :=
  0x1000000000000000000000000000000014def9dea2f79cd65812631a5cf5d3ed

/-- The weight of the sign bit in the encoding of a point, 2²⁵⁵. -/
def signWeight : Nat := 0x8000000000000000000000000000000000000000000000000000000000000000

/-- The curve's constant `d = -121665 / 121666`. -/
def edwardsD : Field :=
  -(Field.ofNat 121665) * (Field.ofNat 121666).inverse

/-- A point in extended coordinates. -/
structure Point where
  x : Field
  y : Field
  z : Field
  t : Field

namespace Point

/-- The neutral point, `(0, 1)`. -/
def identity : Point := ⟨0, 1, 1, 0⟩

/-- The point with the given plain coordinates. -/
def ofAffine (x y : Field) : Point := ⟨x, y, 1, x * y⟩

/-- The sum of two points. The formula holds for equal points too. -/
def add (p q : Point) : Point :=
  let a := (p.y - p.x) * (q.y - q.x)
  let b := (p.y + p.x) * (q.y + q.x)
  let c := p.t * (edwardsD + edwardsD) * q.t
  let d := (p.z + p.z) * q.z
  let e := b - a
  let f := d - c
  let g := d + c
  let h := b + a
  ⟨e * f, g * h, f * g, e * h⟩

/-- The inverse point. -/
def negate (p : Point) : Point := ⟨-p.x, p.y, p.z, -p.t⟩

/-- The multiple of a point by the `bits` low bits of `n`. -/
def scale (p : Point) : Nat → Nat → Point
  | 0, _ => identity
  | bits + 1, n =>
    let half := scale p bits (n / 2)
    let twice := half.add half
    if n % 2 = 1 then twice.add p else twice

/-- Whether two triples of coordinates stand for the neutral point. -/
def isIdentity (p : Point) : Bool := p.x = 0 && p.y = p.z

/-- Whether eight times the point is the identity. -/
def isSmallOrder (p : Point) : Bool := (p.scale 4 8).isIdentity

/-- The 32 bytes that encode a point: the second coordinate, least significant
byte first, with the parity of the first coordinate in the top bit. -/
def toBytes (p : Point) : List UInt8 :=
  let reciprocal := p.z.inverse
  let sign := if (p.x * reciprocal).isOdd then signWeight else 0
  littleEndian 32 ((p.y * reciprocal).val + sign)

/-- The point that 32 bytes encode, if its second coordinate is one of a point
of the curve. A second coordinate of `prime` or more stands for its residue, and
the sign bit is idle where the first coordinate is zero. -/
def ofBytes? (bytes : List UInt8) : Option Point :=
  let n := ofLittleEndian bytes
  let y := Field.ofNat (n % signWeight)
  let square := y * y
  (Field.sqrtRatio? (square - 1) (edwardsD * square + 1)).map fun x =>
    ofAffine (if n / signWeight % 2 = 1 then -x else x) y

/-- The generator: second coordinate 4/5 and an even first coordinate. -/
def base : Point :=
  let y := Field.ofNat 4 * (Field.ofNat 5).inverse
  ofAffine (Field.ofNat
    15112221349535400772501151409588531511454012693041857206046113283949847762202) y

@[simp] theorem length_toBytes (p : Point) : p.toBytes.length = 32 :=
  length_littleEndian _ _

end Point

end Gatekeeper.Curve
