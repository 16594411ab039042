import Gatekeeper.Roster

/-!
# `Gatekeeper.Metrics`: counters

What the program counts about itself. A counter has a name and labels, appears
once it was touched, even by zero, and never goes down.

* `Metric`: the counters of the program.
* `Metrics.count`, `Metrics.get`: counting and reading.
-/

set_option autoImplicit false

namespace Gatekeeper

/-- A counter's name and labels. -/
structure Metric where
  name : String
  labels : List (String × String)
  deriving DecidableEq, Repr

namespace Metric

/-- The counter as a line of the metrics page shows it. -/
def render (metric : Metric) : String :=
  match metric.labels with
  | [] => metric.name
  | labels =>
    let pairs := labels.map fun (label, value) => s!"{label}=\"{value}\""
    metric.name ++ "\x7b" ++ String.intercalate "," pairs ++ "\x7d"

/-- Diagnostics that a throttle of the given name refused. -/
def throttled (name : String) : Metric := ⟨"warden_ratelimit_blocked_total", [("throttle", name)]⟩

/-- Handshakes that ended with an identity. -/
def accepted : Metric := ⟨"warden_auth_total", [("outcome", "accepted")]⟩

/-- Handshakes that were refused for the given reason. -/
def rejected (reason : String) : Metric :=
  ⟨"warden_auth_total", [("outcome", "rejected"), ("reason", reason)]⟩

/-- Handshakes that passed their deadline. -/
def timedOut : Metric := ⟨"warden_auth_total", [("outcome", "timeout")]⟩

/-- Clients that could not be let in. -/
def acceptFailed : Metric := ⟨"warden_accept_errors_total", []⟩

/-- Sweeps. -/
def sweeps : Metric := ⟨"warden_reaper_sweeps_total", []⟩

/-- Records of the given kind that sweeps retired. -/
def retired (kind : String) : Metric := ⟨"warden_reaper_deactivated_total", [("kind", kind)]⟩

/-- Poison messages that sweeps removed. -/
def purged : Metric := ⟨"warden_reaper_poison_purged_total", []⟩

/-- Sweep steps of the given name that failed. -/
def failedStep (step : String) : Metric := ⟨"warden_reaper_errors_total", [("step", step)]⟩

end Metric

/-- The counters touched so far. -/
abbrev Metrics := Roster Metric Nat

namespace Metrics

/-- The value of a counter; zero if it was never touched. -/
def get (metrics : Metrics) (metric : Metric) : Nat := (metrics.find? metric).getD 0

/-- Touches a counter and adds to it. -/
def count (metrics : Metrics) (metric : Metric) (n : Nat) : Metrics :=
  metrics.set metric (metrics.get metric + n)

end Metrics

end Gatekeeper
