import Gatekeeper.Ledger.Basic
import Gatekeeper.Metrics

/-!
# `Gatekeeper.Sweep.Report`: what one sweep did

A report tells what a sweep found and changed, and which of its steps failed. The
counters of a report are added to the metrics when the sweep ends.
-/

set_option autoImplicit false

namespace Gatekeeper.Sweep

open Gatekeeper.Ledger

/-- The steps of a sweep that can fail. -/
inductive Step where
  | findStale
  | deactivateConnections
  | cascade
  | repairOrphans
  | purgePoison
  deriving DecidableEq, Repr

/-- The name of a step in counters and reports. -/
def Step.name : Step → String
  | .findStale => "find_stale"
  | .deactivateConnections => "deactivate_connections"
  | .cascade => "cascade"
  | .repairOrphans => "repair_orphans"
  | .purgePoison => "purge_poison"

/-- What one sweep did. -/
structure Report where
  /-- How many connections the query found. -/
  staleFound : Nat
  /-- The connections that the update turned inactive. -/
  retired : List String
  /-- The children of those. -/
  cascaded : ChildCounts
  /-- The children of connections that were inactive already. -/
  repaired : ChildCounts
  purged : Nat
  /-- The steps that failed, in their order. -/
  failed : List Step
  deriving DecidableEq, Repr

namespace Report

/-- The report before a sweep did anything. -/
def empty : Report := ⟨0, [], .zero, .zero, 0, []⟩

/-- Whether no step failed. -/
def isClean (report : Report) : Bool := report.failed.isEmpty

/-- The report with one more failed step. -/
def fail (report : Report) (step : Step) : Report :=
  { report with failed := report.failed ++ [step] }

/-- The counters of a report, added to the metrics. -/
def record (report : Report) (metrics : Metrics) : Metrics :=
  let metrics := report.failed.foldl (fun metrics step => metrics.count (.failedStep step.name) 1)
    metrics
  let metrics := metrics.count .sweeps 1
  let metrics := metrics.count (.retired "connection") report.retired.length
  let metrics := metrics.count (.retired "producer")
    (report.cascaded.producers + report.repaired.producers)
  let metrics := metrics.count (.retired "consumer")
    (report.cascaded.consumers + report.repaired.consumers)
  metrics.count .purged report.purged

end Report

end Gatekeeper.Sweep
