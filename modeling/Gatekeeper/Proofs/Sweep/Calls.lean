import Gatekeeper.Proofs.Ledger.Bulk
import Gatekeeper.Sweep.Pass

/-!
# `Gatekeeper.Proofs.Sweep.Calls`: a sweep as its five calls

A sweep advances by passes, so that others can get in between two of them. Where nobody
does, the passes run together into the five calls on the ledger that a caller would make
one by one: `retireStale` makes the first three, each on what the one before found, and
`repairOrphans` and `purgePoison` make the last two whatever happened to the others.

* `sweep_eq`: the sweep is these calls.
* `snd_retireStale`, `snd_finish`: what they leave of the ledger when some of them fail.
-/

set_option autoImplicit false

namespace Gatekeeper.Sweep

open Gatekeeper.Ledger

variable (conditions : Conditions)

/-- The chain of the first three calls: each works on what the one before found, and a
failure or an empty find ends the chain. -/
def retireStale (cutoff : Timestamp) (ledger : Ledger) : Report × Ledger :=
  match ledger.callFindStale conditions cutoff with
  | (.error _, ledger) => (Report.empty.fail .findStale, ledger)
  | (.ok stale, ledger) =>
    let report := { Report.empty with staleFound := stale.length }
    if stale.isEmpty then (report, ledger)
    else
      match ledger.callDeactivateConnections conditions stale cutoff with
      | (.error _, ledger) => (report.fail .deactivateConnections, ledger)
      | (.ok retired, ledger) =>
        let report := { report with retired := retired }
        if retired.isEmpty then (report, ledger)
        else
          match ledger.callDeactivateChildren conditions retired with
          | (.error _, ledger) => (report.fail .cascade, ledger)
          | (.ok counts, ledger) => ({ report with cascaded := counts }, ledger)

/-- The call that catches up on children of connections that are inactive already. -/
def repairOrphans (report : Report) (ledger : Ledger) : Report × Ledger :=
  match ledger.callDeactivateOrphans conditions with
  | (.error _, ledger) => (report.fail .repairOrphans, ledger)
  | (.ok counts, ledger) => ({ report with repaired := counts }, ledger)

/-- The call that removes expired messages. -/
def purgePoison (horizon : Timestamp) (report : Report) (ledger : Ledger) : Report × Ledger :=
  match ledger.callPurge conditions horizon with
  | (.error _, ledger) => (report.fail .purgePoison, ledger)
  | (.ok count, ledger) => ({ report with purged := count }, ledger)

/-- The last two calls. -/
def finish (bounds : Rule.Bounds) (report : Report) (ledger : Ledger) : Report × Ledger :=
  let (report, ledger) := repairOrphans conditions report ledger
  purgePoison conditions bounds.horizon report ledger

namespace Progress

variable {conditions : Conditions} {bounds : Rule.Bounds}

/-- Some passes and one more are the first one and then the others. -/
theorem run_succ (count : Nat) (progress : Progress) (ledger : Ledger) :
    run conditions bounds (count + 1) progress ledger =
      run conditions bounds count (progress.step conditions bounds ledger).1
        (progress.step conditions bounds ledger).2 := rfl

/-- A sweep that has finished stays as it is. -/
theorem run_finished (count : Nat) (report : Report) (ledger : Ledger) :
    run conditions bounds count ⟨.finished, report⟩ ledger = (⟨.finished, report⟩, ledger) := by
  induction count with
  | zero => rfl
  | succ count ih => rw [run_succ]; exact ih

/-- The last pass. -/
theorem run_purge (count : Nat) (report : Report) (ledger : Ledger) :
    run conditions bounds (count + 1) ⟨.purge, report⟩ ledger =
      (⟨.finished, (purgePoison conditions bounds.horizon report ledger).1⟩,
        (purgePoison conditions bounds.horizon report ledger).2) := by
  rw [run_succ]
  simp only [step, purgePoison, callPurge, guarded]
  cases conditions.failing .purgePoison with
  | none => exact run_finished count _ _
  | some fault => exact run_finished count _ _

/-- The passes from the query for inactive connections on. -/
theorem run_findInactive (count : Nat) {report : Report} (ledger : Ledger)
    (hreport : report.repaired = .zero) :
    run conditions bounds (count + 4) ⟨.findInactive, report⟩ ledger =
      (⟨.finished, (finish conditions bounds report ledger).1⟩,
        (finish conditions bounds report ledger).2) := by
  rw [run_succ]
  simp only [step, finish, repairOrphans, callDeactivateOrphans, guarded]
  cases conditions.failing .deactivateOrphans with
  | some fault => exact run_purge (count + 2) _ _
  | none =>
    cases howners : ledger.inactiveIds with
    | nil =>
      -- The two passes over the children are left out, and the report has their zero already.
      have hsame : { report with repaired := .zero } = report := by rw [← hreport]
      simp only [retireOrphans, howners, hsame]
      exact run_purge (count + 2) _ _
    | cons owner owners =>
      simp only [retireOrphans, howners]
      rw [List.isEmpty_cons, if_neg Bool.false_ne_true]
      exact run_purge count _ _

/-- All passes of a sweep. Each way through the chain leaves enough of them for the calls that
follow it. -/
theorem run_start (bounds : Rule.Bounds) (ledger : Ledger) :
    run conditions bounds maxPasses .start ledger =
      (⟨.finished, (finish conditions bounds (retireStale conditions bounds.cutoff ledger).1
          (retireStale conditions bounds.cutoff ledger).2).1⟩,
        (finish conditions bounds (retireStale conditions bounds.cutoff ledger).1
          (retireStale conditions bounds.cutoff ledger).2).2) := by
  -- Each failure or empty answer leaves the chain early, with passes to spare for the last
  -- two calls.
  rw [maxPasses, start, run_succ]
  simp only [step, retireStale, callFindStale, guarded]
  cases conditions.failing .findStale with
  | some fault => exact run_findInactive 3 _ rfl
  | none =>
  dsimp only
  cases hstale : (ledger.stale bounds.cutoff).isEmpty with
  | true => exact run_findInactive 3 _ rfl
  | false =>
  rw [if_neg Bool.false_ne_true, if_neg Bool.false_ne_true, run_succ]
  simp only [step]
  rcases ledger.callDeactivateConnections conditions (ledger.stale bounds.cutoff)
    bounds.cutoff with ⟨fault | retired, after⟩
  · exact run_findInactive 2 _ rfl
  dsimp only
  cases hretired : retired.isEmpty with
  | true => exact run_findInactive 2 _ rfl
  | false =>
  rw [if_neg Bool.false_ne_true, if_neg Bool.false_ne_true, run_succ]
  simp only [step, callDeactivateChildren, guarded]
  cases conditions.failing .deactivateChildren with
  | some fault => exact run_findInactive 1 _ rfl
  | none => exact run_findInactive 0 _ rfl

end Progress

/-- A sweep is its calls. -/
theorem sweep_eq (bounds : Rule.Bounds) (ledger : Ledger) :
    sweep conditions bounds ledger =
      finish conditions bounds (retireStale conditions bounds.cutoff ledger).1
        (retireStale conditions bounds.cutoff ledger).2 := by
  rw [sweep, Progress.run_start]

/-! ### What the calls leave -/

/-- The ledger after the first three calls. Where a find of nothing ends the chain, the next call
would have had nothing to do. -/
theorem snd_retireStale (failing : Call → Option Ledger.Fault) (cutoff : Timestamp)
    (ledger : Ledger) :
    (retireStale (.failures failing) cutoff ledger).2 =
      if failing .findStale = none ∧ failing .deactivateConnections = none then
        let (retired, after) := ledger.retireConnections cutoff (ledger.stale cutoff)
        if failing .deactivateChildren = none then (after.retireChildren retired).2 else after
      else ledger := by
  simp only [retireStale, callFindStale, callDeactivateConnections, callDeactivateChildren, guarded,
    Conditions.failures]
  cases failing .findStale with
  | some fault => rfl
  | none =>
  -- Nothing stale: to retire nobody, and no children of nobody, changes nothing.
  cases hstale : ledger.stale cutoff with
  | nil =>
    rw [retireConnections, retireChildren_nil, ite_self, ite_self]
    rfl
  | cons id rest =>
  cases failing .deactivateConnections with
  | some fault => rfl
  | none =>
  dsimp only
  rw [List.isEmpty_cons, if_neg Bool.false_ne_true]
  generalize ledger.retireConnections cutoff (id :: rest) = outcome
  obtain ⟨retired, after⟩ := outcome
  cases retired with
  | nil =>
    rw [retireChildren_nil, ite_self]
    rfl
  | cons owner owners => cases failing .deactivateChildren <;> rfl

/-- The ledger after the last two calls. -/
theorem snd_finish (failing : Call → Option Ledger.Fault) (bounds : Rule.Bounds) (report : Report)
    (ledger : Ledger) :
    (finish (.failures failing) bounds report ledger).2 =
      let repaired := if failing .deactivateOrphans = none then ledger.retireOrphans.2 else ledger
      if failing .purgePoison = none then (repaired.purge bounds.horizon).2 else repaired := by
  simp only [finish, repairOrphans, purgePoison, callDeactivateOrphans, callPurge, guarded,
    Conditions.failures]
  cases failing .deactivateOrphans <;> cases failing .purgePoison <;> rfl

end Gatekeeper.Sweep
