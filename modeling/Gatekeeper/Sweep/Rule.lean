import Gatekeeper.Quota
import Gatekeeper.Time.Timestamp

/-!
# `Gatekeeper.Sweep.Rule`: when a record has outlived its time

A connection is a zombie when it was silent for longer than the heartbeat interval
and the grace period together; a poison message is expired when it is older than
the retention.

* `Rule.check`: which rules a sweeper accepts.
* `Rule.staleAfter?`: the silence that makes a zombie, if the sum exists.
* `Rule.bounds?`: the two instants that a sweep compares records with.
-/

set_option autoImplicit false

namespace Gatekeeper.Sweep

/-- The spans of time that a sweeper works with. -/
structure Rule where
  heartbeatInterval : Duration
  gracePeriod : Duration
  /-- The time between two sweeps. -/
  interval : Duration
  poisonRetention : Duration
  /-- How many failures are reported per `diagnosticWindow`. -/
  diagnosticCapacity : UInt64
  diagnosticWindow : Duration
  deriving DecidableEq, Repr

namespace Rule

/-- The rule of a sweeper that nothing was set for. -/
def standard : Rule where
  heartbeatInterval := .ofSeconds 30
  gracePeriod := .ofSeconds 60
  interval := .ofSeconds 30
  poisonRetention := .ofSeconds (7 * 24 * 60 * 60)
  diagnosticCapacity := 10
  diagnosticWindow := .ofSeconds 60

/-- Why a sweeper refuses a rule. -/
inductive Fault where
  | zeroInterval
  | diagnostics (fault : Quota.Fault)
  deriving DecidableEq, Repr

/-- The wording of a fault. -/
def Fault.message : Fault → String
  | .zeroInterval => "sweep interval must be greater than zero"
  | .diagnostics fault => s!"invalid diagnostic rate limit: {fault.message}"

/-- Whether a sweeper can work by the rule: there is time between sweeps, and the
quota on failure reports exists. -/
def check (rule : Rule) : Except Fault Unit :=
  if rule.interval.nanos = 0 then .error .zeroInterval
  else
    match Quota.create rule.diagnosticCapacity rule.diagnosticWindow 0 with
    | .error fault => .error (.diagnostics fault)
    | .ok _ => .ok ()

/-- The silence after which a connection is a zombie. -/
def staleAfter? (rule : Rule) : Option Duration :=
  rule.heartbeatInterval.add? rule.gracePeriod

/-- The instants before which a sweep finds connections stale and messages
expired. -/
structure Bounds where
  cutoff : Timestamp
  horizon : Timestamp
  deriving DecidableEq, Repr

/-- The bounds of a sweep, if the silence exists. -/
def bounds? (rule : Rule) (now : Timestamp) : Option Bounds :=
  rule.staleAfter?.map fun silence => ⟨now.before silence, now.before rule.poisonRetention⟩

/-- How the program ends when the silence does not exist. -/
def overflowMessage : String := "overflow when adding durations"

end Rule

end Gatekeeper.Sweep
