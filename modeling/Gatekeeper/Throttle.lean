import Gatekeeper.Metrics
import Gatekeeper.Quota

/-!
# `Gatekeeper.Throttle`: a quota on diagnostics

A throttle admits a diagnostic, and then tells how many it kept back since the
last one it admitted, or keeps it back and counts it.
-/

set_option autoImplicit false

namespace Gatekeeper

/-- A quota under a name. -/
structure Throttle where
  name : String
  quota : Quota

namespace Throttle

/-- The throttle of a fresh quota. -/
def create (name : String) (capacity : UInt64) (window : Duration) (now : Moment) :
    Except Quota.Fault Throttle :=
  (Throttle.mk name) <$> Quota.create capacity window now

/-- Asks the throttle at a reading of the clock. An admitted diagnostic gets the
number of those kept back before it. -/
def ask (throttle : Throttle) (now : Moment) (metrics : Metrics) :
    Option UInt64 × Throttle × Metrics :=
  let (allowed, quota) := throttle.quota.allow now
  if allowed then
    let (suppressed, quota) := quota.countBlocked
    (some suppressed, { throttle with quota }, metrics)
  else (none, { throttle with quota }, metrics.count (.throttled throttle.name) 1)

end Throttle

end Gatekeeper
