/-!
# `Gatekeeper.Time.Duration`: spans of time

A span is a whole number of nanoseconds, of fewer than 2⁶⁴ seconds. Every span of
64-bit milliseconds or seconds exists; a sum may not.

* `ofSeconds`, `ofMillis`: the spans that settings give.
* `add?`: the sum, if there is one.
-/

set_option autoImplicit false

namespace Gatekeeper

/-- A span of time in nanoseconds. -/
structure Duration where
  nanos : Nat
  nanos_lt : nanos < 18446744073709551616 * 1000000000
  deriving DecidableEq, Repr

namespace Duration

/-- No time at all. -/
def zero : Duration := ⟨0, by decide⟩

/-- The span of that many nanoseconds, if it exists. -/
def ofNanos? (nanos : Nat) : Option Duration :=
  if h : nanos < 18446744073709551616 * 1000000000 then some ⟨nanos, h⟩ else none

/-- The span of that many seconds. -/
def ofSeconds (n : UInt64) : Duration :=
  ⟨n.toNat * 1000000000, by have := n.toNat_lt; omega⟩

/-- The span of that many milliseconds. -/
def ofMillis (n : UInt64) : Duration :=
  ⟨n.toNat * 1000000, by have := n.toNat_lt; omega⟩

/-- The whole seconds of a span. -/
def seconds (d : Duration) : Nat := d.nanos / 1000000000

/-- The nanoseconds past the whole seconds. -/
def subsecNanos (d : Duration) : Nat := d.nanos % 1000000000

/-- The sum of two spans, if it exists. -/
def add? (a b : Duration) : Option Duration := ofNanos? (a.nanos + b.nanos)

end Duration

/-- A reading of a monotonic clock: the nanoseconds since its origin. -/
abbrev Moment := Nat

end Gatekeeper
