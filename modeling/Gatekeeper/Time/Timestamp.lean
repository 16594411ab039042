import Gatekeeper.Time.Duration

/-!
# `Gatekeeper.Time.Timestamp`: instants

An instant is a number of seconds since 1970-01-01T00:00:00Z and a number of
nanoseconds. In the last second of a minute the nanoseconds may run past a whole
second: the instant then lies in an inserted leap second. Instants span the years
-262143 to 262142.

A time library may also hold readings whose nanoseconds run past a whole second in
some other second of a minute, where they were set one by one. They are left out: no
clock gives them, none is read from a text, and going back does not lead to them.

* `Timestamp.before`: the instant a span of time earlier, or the least one where
  there is none.
* `Timestamp.ofMicros?`: the instant of a number of microseconds.
-/

set_option autoImplicit false

namespace Gatekeeper

/-- An instant. -/
structure Timestamp where
  seconds : Int
  nanos : Nat
  seconds_ge : -8334601228800 ≤ seconds
  seconds_le : seconds ≤ 8210266876799
  nanos_lt : nanos < 2 * 1000000000
  /-- Only the last second of a minute may be followed by a leap second. -/
  leap : 1000000000 ≤ nanos → seconds % 60 = 59
  deriving DecidableEq, Repr

namespace Timestamp

/-- The instant of a number of seconds and nanoseconds, if it exists. -/
def ofParts? (seconds : Int) (nanos : Nat) : Option Timestamp :=
  if h : -8334601228800 ≤ seconds ∧ seconds ≤ 8210266876799 ∧ nanos < 2 * 1000000000 ∧
      (1000000000 ≤ nanos → seconds % 60 = 59) then
    some ⟨seconds, nanos, h.1, h.2.1, h.2.2.1, h.2.2.2⟩
  else none

/-- The least instant. -/
def least : Timestamp := ⟨-8334601228800, 0, by decide, by decide, by decide, by decide⟩

/-- The instant of 1970-01-01T00:00:00Z. -/
def epoch : Timestamp := ⟨0, 0, by decide, by decide, by decide, by decide⟩

/-- Instants are ordered by seconds, and within a second by nanoseconds. -/
def blt (a b : Timestamp) : Bool :=
  a.seconds < b.seconds || (a.seconds = b.seconds && a.nanos < b.nanos)

instance : LT Timestamp := ⟨fun a b => blt a b = true⟩

instance (a b : Timestamp) : Decidable (a < b) := inferInstanceAs (Decidable (_ = true))

instance : LE Timestamp := ⟨fun a b => ¬b < a⟩

instance (a b : Timestamp) : Decidable (a ≤ b) := inferInstanceAs (Decidable (¬_))

/-- The instant a number of nanoseconds earlier, if there is one. Within the second
of the instant, a leap second included, the nanoseconds alone go back. -/
def back? (t : Timestamp) (nanos : Nat) : Option Timestamp :=
  if nanos ≤ t.nanos then ofParts? t.seconds (t.nanos - nanos)
  else
    let total : Int := t.seconds * 1000000000 + t.nanos - nanos
    ofParts? (total / 1000000000) (total % 1000000000).toNat

/-- The nanoseconds of a span that instants can be moved by: at most 2⁶³ - 1
milliseconds. -/
def shift? (span : Duration) : Option Nat :=
  if span.nanos ≤ 9223372036854775807 * 1000000 then some span.nanos else none

/-- The instant a span of time earlier. Where the span is too long or there is no
such instant, it is the least one. -/
def before (t : Timestamp) (span : Duration) : Timestamp :=
  ((shift? span).bind t.back?).getD least

/-- The instant a span of time later, if there is one. -/
def after? (t : Timestamp) (span : Duration) : Option Timestamp :=
  let total : Int := t.seconds * 1000000000 + t.nanos + span.nanos
  ofParts? (total / 1000000000) (total % 1000000000).toNat

/-- The instant of a number of microseconds since 1970-01-01T00:00:00Z. -/
def ofMicros? (micros : Int) : Option Timestamp :=
  ofParts? (micros / 1000000) ((micros % 1000000).toNat * 1000)

/-- The whole microseconds since 1970-01-01T00:00:00Z. -/
def toMicros (t : Timestamp) : Int := t.seconds * 1000000 + (t.nanos / 1000 : Nat)

end Timestamp

end Gatekeeper
