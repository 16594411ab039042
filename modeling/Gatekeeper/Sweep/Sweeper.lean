import Gatekeeper.Sweep.Pass
import Gatekeeper.Sweep.Schedule

/-!
# `Gatekeeper.Sweep.Sweeper`: a run of sweeps

A sweeper sweeps the ledger by one rule, from its start to its shutdown.
-/

set_option autoImplicit false

namespace Gatekeeper.Sweep

open Gatekeeper.Ledger

/-- The run of a sweeper: its course, the ledger after it, and the metrics. `clock`
gives the instant of each moment, and `lasts` how long each sweep takes. There is
none where the rule's silence does not exist. -/
def run? (rule : Rule) (conditions : Conditions) (clock : Moment → Timestamp)
    (lasts : List Moment) (stop : Moment) (ledger : Ledger) (metrics : Metrics) :
    Option (Course × Ledger × Metrics) :=
  let course := runSweeps rule.interval lasts stop
  let swept := course.starts.foldlM (fun (state : Ledger × Metrics) start =>
    (sweepAt? rule conditions (clock start) state.1 state.2).map fun (_, after) => after)
    (ledger, metrics)
  swept.map fun (ledger, metrics) => (course, ledger, metrics)

end Gatekeeper.Sweep
