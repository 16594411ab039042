/-!
# `Gatekeeper.Text.Decimal`: bounded decimal numbers

Unsigned numbers in decimal digits, read from left to right under a bound. The
first fault met decides the error: a character that is no digit, or a prefix
that already reaches the bound.

* `read`: digits with at most one leading plus sign.
* `write`: the digits of a number.
-/

set_option autoImplicit false

namespace Gatekeeper.Text

/-- Whether the character is a decimal digit. -/
def isDigit (c : Char) : Bool := '0' ≤ c && c ≤ '9'

namespace Decimal

/-- Why a text is no number below a bound. -/
inductive Fault where
  | empty
  | invalidDigit
  | tooLarge
  deriving DecidableEq, Repr

/-- The wording of a fault. -/
def Fault.message : Fault → String
  | .empty => "cannot parse integer from empty string"
  | .invalidDigit => "invalid digit found in string"
  | .tooLarge => "number too large to fit in target type"

/-- The value of a decimal digit. -/
def digit? (c : Char) : Option Nat :=
  if isDigit c then some (c.toNat - '0'.toNat) else none

/-- The number that digits spell after a prefix worth `n`, below `bound`. -/
def readDigits (bound : Nat) : Nat → List Char → Except Fault Nat
  | n, [] => .ok n
  | n, c :: rest =>
    match digit? c with
    | none => .error .invalidDigit
    | some d => if 10 * n + d < bound then readDigits bound (10 * n + d) rest else .error .tooLarge

/-- The number below `bound` that a text spells. A lone plus sign is no number. -/
def read (bound : Nat) : List Char → Except Fault Nat
  | [] => .error .empty
  | ['+'] => .error .invalidDigit
  | '+' :: rest => readDigits bound 0 rest
  | cs => readDigits bound 0 cs

/-- The decimal digits of a number. -/
def write (n : Nat) : List Char := Nat.toDigits 10 n

end Decimal

end Gatekeeper.Text
