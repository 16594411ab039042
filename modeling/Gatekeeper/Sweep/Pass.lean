import Gatekeeper.Ledger.Call
import Gatekeeper.Sweep.Report
import Gatekeeper.Sweep.Rule

/-!
# `Gatekeeper.Sweep.Pass`: one sweep over the ledger

A sweep finds the stale connections, turns them inactive, turns their children
inactive, then does the same for children that an earlier sweep missed, and
removes expired messages. A step that fails ends the chain of the first three; the
last two are tried in every sweep, so the next sweep finishes what this one left.

A sweep advances by passes. Each pass reads or writes one collection in one go;
between two passes anybody else may write.

* `Progress.step`: one pass.
* `sweep`: all passes, with nobody in between.
-/

set_option autoImplicit false

namespace Gatekeeper.Sweep

open Gatekeeper.Ledger

/-- The pass that is due, with what earlier ones found. -/
inductive Pass where
  /-- The query for stale connections. -/
  | findStale
  /-- The update of the connections found. -/
  | retireConnections (stale : List String)
  /-- The update of the producers of the connections retired. -/
  | cascadeProducers (owners : List String)
  /-- The update of their consumers, after that many producers. -/
  | cascadeConsumers (owners : List String) (producers : Nat)
  /-- The query for inactive connections. -/
  | findInactive
  /-- The update of their producers. -/
  | repairProducers (owners : List String)
  /-- The update of their consumers, after that many producers. -/
  | repairConsumers (owners : List String) (producers : Nat)
  /-- The removal of expired messages. -/
  | purge
  | finished
  deriving DecidableEq, Repr

/-- A sweep that is under way: the pass that is due, and the report so far. -/
structure Progress where
  pass : Pass
  report : Report
  deriving DecidableEq, Repr

namespace Progress

/-- A sweep that did nothing yet. -/
def start : Progress := ⟨.findStale, .empty⟩

/-- The pass that is due. -/
def step (conditions : Conditions) (bounds : Rule.Bounds) (progress : Progress)
    (ledger : Ledger) : Progress × Ledger :=
  let report := progress.report
  match progress.pass with
  | .findStale =>
    match ledger.callFindStale conditions bounds.cutoff with
    | (.error _, ledger) => (⟨.findInactive, report.fail .findStale⟩, ledger)
    | (.ok stale, ledger) =>
      (⟨if stale.isEmpty then .findInactive else .retireConnections stale,
        { report with staleFound := stale.length }⟩, ledger)
  | .retireConnections stale =>
    match ledger.callDeactivateConnections conditions stale bounds.cutoff with
    | (.error _, ledger) => (⟨.findInactive, report.fail .deactivateConnections⟩, ledger)
    | (.ok retired, ledger) =>
      (⟨if retired.isEmpty then .findInactive else .cascadeProducers retired,
        { report with retired := retired }⟩, ledger)
  | .cascadeProducers owners =>
    match conditions.failing .deactivateChildren with
    | some _ => (⟨.findInactive, report.fail .cascade⟩, ledger)
    | none =>
      let (count, ledger) := ledger.retireProducers owners
      (⟨.cascadeConsumers owners count, report⟩, ledger)
  | .cascadeConsumers owners producers =>
    let (count, ledger) := ledger.retireConsumers owners
    (⟨.findInactive, { report with cascaded := ⟨producers, count⟩ }⟩, ledger)
  | .findInactive =>
    match conditions.failing .deactivateOrphans with
    | some _ => (⟨.purge, report.fail .repairOrphans⟩, ledger)
    | none =>
      let owners := ledger.inactiveIds
      (⟨if owners.isEmpty then .purge else .repairProducers owners, report⟩, ledger)
  | .repairProducers owners =>
    let (count, ledger) := ledger.retireProducers owners
    (⟨.repairConsumers owners count, report⟩, ledger)
  | .repairConsumers owners producers =>
    let (count, ledger) := ledger.retireConsumers owners
    (⟨.purge, { report with repaired := ⟨producers, count⟩ }⟩, ledger)
  | .purge =>
    match ledger.callPurge conditions bounds.horizon with
    | (.error _, ledger) => (⟨.finished, report.fail .purgePoison⟩, ledger)
    | (.ok count, ledger) => (⟨.finished, { report with purged := count }⟩, ledger)
  | .finished => (progress, ledger)

/-- That many passes, with nobody in between. -/
def run (conditions : Conditions) (bounds : Rule.Bounds) :
    Nat → Progress → Ledger → Progress × Ledger
  | 0, progress, ledger => (progress, ledger)
  | count + 1, progress, ledger =>
    let (progress, ledger) := progress.step conditions bounds ledger
    run conditions bounds count progress ledger

end Progress

/-- The number of passes that no sweep exceeds. -/
def maxPasses : Nat := 8

/-- One sweep with the given bounds and nobody in between: its report, and the
ledger after it. -/
def sweep (conditions : Conditions) (bounds : Rule.Bounds) (ledger : Ledger) :
    Report × Ledger :=
  let (progress, ledger) := Progress.run conditions bounds maxPasses .start ledger
  (progress.report, ledger)

/-- One sweep at a reading of the clock: its report, the ledger after it, and the
metrics with its counters. There is none where the rule's silence does not
exist. -/
def sweepAt? (rule : Rule) (conditions : Conditions) (now : Timestamp) (ledger : Ledger)
    (metrics : Metrics) : Option (Report × Ledger × Metrics) :=
  (rule.bounds? now).map fun bounds =>
    let (report, ledger) := sweep conditions bounds ledger
    (report, ledger, report.record metrics)

end Gatekeeper.Sweep
