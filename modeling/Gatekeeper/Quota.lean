import Gatekeeper.Time.Duration

/-!
# `Gatekeeper.Quota`: a number of calls per window of time

A quota admits up to `capacity` calls in a window and counts the rest. A window
lasts until the first call that reads the clock past its end; that call opens
the next one. The count of refused calls outlives the window and is cleared only
by reading it.

* `create`: a quota for positive numbers only.
* `allow`, `countBlocked`: the two calls.
-/

set_option autoImplicit false

namespace Gatekeeper

/-- A quota and what it counted since its window opened. -/
structure Quota where
  capacity : UInt64
  window : Duration
  openedAt : Moment
  allowed : UInt64
  blocked : UInt64
  capacity_pos : 0 < capacity
  window_pos : 0 < window.nanos
  allowed_le : allowed ≤ capacity

namespace Quota

/-- Why there is no such quota. -/
inductive Fault where
  | zeroCapacity
  | zeroWindow
  deriving DecidableEq, Repr

/-- The wording of a fault. -/
def Fault.message : Fault → String
  | .zeroCapacity => "rate counter capacity must be greater than zero"
  | .zeroWindow => "rate counter window must be greater than zero"

/-- The quota whose first window opens now. -/
def create (capacity : UInt64) (window : Duration) (now : Moment) : Except Fault Quota :=
  if hc : 0 < capacity then
    if hw : 0 < window.nanos then
      .ok ⟨capacity, window, now, 0, 0, hc, hw, UInt64.le_iff_toNat_le.2 (Nat.zero_le _)⟩
    else .error .zeroWindow
  else .error .zeroCapacity

/-- The quota at a call that reads `now`: as it is, or with a window opened now
if the last one is over. A clock that stepped back ends no window. -/
def roll (quota : Quota) (now : Moment) : Quota :=
  if quota.window.nanos ≤ now - quota.openedAt then
    { quota with
      openedAt := now, allowed := 0, allowed_le := UInt64.le_iff_toNat_le.2 (Nat.zero_le _) }
  else quota

/-- One call at a reading of the clock: whether it is admitted, and the quota
after it. -/
def allow (quota : Quota) (now : Moment) : Bool × Quota :=
  let current := quota.roll now
  if h : current.allowed < current.capacity then
    (true, { current with
      allowed := current.allowed + 1
      allowed_le := by
        have := UInt64.lt_iff_toNat_lt.1 h
        have := current.capacity.toNat_lt
        rw [UInt64.le_iff_toNat_le, UInt64.toNat_add]
        simp only [UInt64.toNat_one]
        omega })
  else (false, { current with blocked := current.blocked + 1 })

/-- Reads and clears the number of refused calls. -/
def countBlocked (quota : Quota) : UInt64 × Quota :=
  (quota.blocked, { quota with blocked := 0 })

end Quota

end Gatekeeper
