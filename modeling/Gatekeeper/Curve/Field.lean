/-!
# `Gatekeeper.Curve.Field`: arithmetic modulo 2²⁵⁵ − 19

The coordinates of curve points. Sums and products are those of `Fin`; powers,
inverses and square roots are powers by repeated squaring.

* `pow`: `x ^ n` for exponents below `2 ^ bits`.
* `inverse`: `x⁻¹`, and zero for zero, as `x ^ (prime - 2)`.
* `sqrtRatio?`: the even root of `u / v`, when there is one.
-/

set_option autoImplicit false

namespace Gatekeeper.Curve

/-- The field's prime, 2²⁵⁵ − 19. -/
def prime : Nat := 0x7fffffffffffffffffffffffffffffffffffffffffffffffffffffffffffffed

instance : @NeZero Nat Zero.ofOfNat0 prime := ⟨by decide⟩

/-- A residue modulo `prime`. -/
abbrev Field := Fin prime

namespace Field

/-- The residue of a number. -/
def ofNat (n : Nat) : Field := Fin.ofNat prime n

/-- `x` to the power given by the `bits` low bits of `n`. -/
def pow (x : Field) : Nat → Nat → Field
  | 0, _ => 1
  | bits + 1, n =>
    let half := pow x bits (n / 2)
    if n % 2 = 1 then half * half * x else half * half

/-- The reciprocal of `x`, and zero for zero. -/
def inverse (x : Field) : Field := x.pow 255 (prime - 2)

/-- A square root of −1. -/
def sqrtMinusOne : Field := pow 2 255 ((prime - 1) / 4)

/-- Whether the residue's least number is odd. This is the sign that an encoded
point keeps of its first coordinate. -/
def isOdd (x : Field) : Bool := x.val % 2 == 1

/-- The one of `x` and `-x` that is even. -/
def even (x : Field) : Field := if x.isOdd then -x else x

/-- The even `r` with `v * r * r = u`, for a nonzero `v`; `none` if `u / v` is
no square. The candidate `(u / v) ^ ((prime + 3) / 8)` squares to `u / v` times
a fourth root of one, so it is the root, or the root times a root of −1. -/
def sqrtRatio? (u v : Field) : Option Field :=
  let v3 := v * v * v
  let candidate := u * v3 * (u * v3 * v3 * v).pow 252 ((prime - 5) / 8)
  let square := v * candidate * candidate
  if square = u then some candidate.even
  else if square = -u then some (candidate * sqrtMinusOne).even
  else none

end Field

end Gatekeeper.Curve
