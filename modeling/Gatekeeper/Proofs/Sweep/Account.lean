import Gatekeeper.Proofs.Ledger.Changes
import Gatekeeper.Proofs.Sweep.Traffic

/-!
# `Gatekeeper.Proofs.Sweep.Account`: a report against what happened

A sweep fills its report in while it goes, and any of its calls may fail. An `Account` is a sweep
with books kept beside the report: what the query was there to find, and what the passes changed
in the ledger, which is found out by comparing the ledger before a pass with the ledger after it.
Others may use the ledger between two passes; what they change is in nobody's account.

A step of the sweep is reached if those before it had something for it to do, and it stumbles if
it is reached and its call fails. `Sound` ties the report so far to the books so far, pass by
pass. A part of the report that is yet to come is blank, so filling it in is adding to it.

* `leads_step`: where a pass leads; the lemmas about passes are read off it.
* `Tallied.step`, `Sound.advance`: one pass; `Sound.advances`: any number of them.
* `rank_advances`: no sweep takes more than eight.
* `sound_ofSweep`: a whole sweep, compared as a whole.
* `Sound.failed_eq`: which steps a finished sweep reports as failed.
-/

set_option autoImplicit false

namespace Gatekeeper.Sweep

open Gatekeeper.Ledger

/-! ### Steps -/

namespace Step

/-- The call that a step makes. -/
def call : Step → Call
  | findStale => .findStale
  | deactivateConnections => .deactivateConnections
  | cascade => .deactivateChildren
  | repairOrphans => .deactivateOrphans
  | purgePoison => .purgePoison

/-- The steps that work on what the one before found. -/
def chain : List Step := [findStale, deactivateConnections, cascade]

/-- The steps that every sweep attempts. -/
def always : List Step := [repairOrphans, purgePoison]

/-- The pass that is due after a step failed. -/
def next : Step → Pass
  | findStale | deactivateConnections | cascade => .findInactive
  | repairOrphans => .purge
  | purgePoison => .finished

end Step

namespace Pass

/-- How far a sweep is at a pass. -/
def rank : Pass → Nat
  | findStale => 0
  | retireConnections _ => 1
  | cascadeProducers _ => 2
  | cascadeConsumers _ _ => 3
  | findInactive => 4
  | repairProducers _ => 5
  | repairConsumers _ _ => 6
  | purge => 7
  | finished => 8

/-- Only the last pass has that rank. -/
theorem eq_finished {pass : Pass} (h : 8 ≤ pass.rank) : pass = .finished := by
  cases pass <;> simp [rank] at h ⊢

/-- The step whose call the pass begins with. -/
def due? : Pass → Option Step
  | findStale => some .findStale
  | retireConnections _ => some .deactivateConnections
  | cascadeProducers _ => some .cascade
  | findInactive => some .repairOrphans
  | purge => some .purgePoison
  | cascadeConsumers _ _ | repairProducers _ | repairConsumers _ _ | finished => none

/-- A step that fails ends what depends on it, and the sweep goes on behind that. -/
theorem rank_lt_next {pass : Pass} {step : Step} (hdue : pass.due? = some step) :
    pass.rank < step.next.rank := by
  cases pass <;> cases hdue <;> simp [rank, Step.next]

/-- The steps that are over, or left out, when the pass is due. -/
def past : Pass → List Step
  | findStale => []
  | retireConnections _ => [.findStale]
  | cascadeProducers _ => [.findStale, .deactivateConnections]
  | cascadeConsumers _ _ | findInactive => Step.chain
  | repairProducers _ | repairConsumers _ _ | purge => Step.chain ++ [.repairOrphans]
  | finished => Step.chain ++ Step.always

/-- The producers that were retired and are not in the report yet. -/
def held : Pass → Nat
  | cascadeConsumers _ producers | repairConsumers _ producers => producers
  | _ => 0

end Pass

/-! ### One pass -/

section
variable {failing : Call → Option Ledger.Fault} {bounds : Rule.Bounds} {ledger after : Ledger}
  {progress next : Progress}

/-- Where a pass leads: how far the sweep is then, with what report, and with what ledger. -/
inductive Leads (failing : Call → Option Ledger.Fault) (bounds : Rule.Bounds) (ledger : Ledger) :
    Progress → Progress → Ledger → Prop where
  | failed {pass : Pass} {report : Report} (step : Step) (hdue : pass.due? = some step)
      (hfails : (failing step.call).isSome = true) :
    Leads failing bounds ledger ⟨pass, report⟩ ⟨step.next, report.fail step⟩ ledger
  | noneStale {report : Report} (hcalm : failing .findStale = none)
      (hstale : ledger.stale bounds.cutoff = []) :
    Leads failing bounds ledger ⟨.findStale, report⟩
      ⟨.findInactive, { report with staleFound := 0 }⟩ ledger
  | someStale {report : Report} (hcalm : failing .findStale = none)
      (hstale : ledger.stale bounds.cutoff ≠ []) :
    Leads failing bounds ledger ⟨.findStale, report⟩
      ⟨.retireConnections (ledger.stale bounds.cutoff),
        { report with staleFound := (ledger.stale bounds.cutoff).length }⟩ ledger
  | noneRetired {report : Report} {stale : List String}
      (hcalm : failing .deactivateConnections = none)
      (hretired : (ledger.retireConnections bounds.cutoff stale).1 = []) :
    Leads failing bounds ledger ⟨.retireConnections stale, report⟩
      ⟨.findInactive, { report with retired := [] }⟩
      (ledger.retireConnections bounds.cutoff stale).2
  | someRetired {report : Report} {stale : List String}
      (hcalm : failing .deactivateConnections = none)
      (hretired : (ledger.retireConnections bounds.cutoff stale).1 ≠ []) :
    Leads failing bounds ledger ⟨.retireConnections stale, report⟩
      ⟨.cascadeProducers (ledger.retireConnections bounds.cutoff stale).1,
        { report with retired := (ledger.retireConnections bounds.cutoff stale).1 }⟩
      (ledger.retireConnections bounds.cutoff stale).2
  | cascading {report : Report} {owners : List String}
      (hcalm : failing .deactivateChildren = none) :
    Leads failing bounds ledger ⟨.cascadeProducers owners, report⟩
      ⟨.cascadeConsumers owners (ledger.retireProducers owners).1, report⟩
      (ledger.retireProducers owners).2
  | cascaded {report : Report} {owners : List String} {producers : Nat} :
    Leads failing bounds ledger ⟨.cascadeConsumers owners producers, report⟩
      ⟨.findInactive, { report with cascaded := ⟨producers, (ledger.retireConsumers owners).1⟩ }⟩
      (ledger.retireConsumers owners).2
  | noneInactive {report : Report} (hcalm : failing .deactivateOrphans = none) :
    Leads failing bounds ledger ⟨.findInactive, report⟩ ⟨.purge, report⟩ ledger
  | someInactive {report : Report} {owners : List String}
      (hcalm : failing .deactivateOrphans = none) :
    Leads failing bounds ledger ⟨.findInactive, report⟩ ⟨.repairProducers owners, report⟩ ledger
  | repairing {report : Report} {owners : List String} :
    Leads failing bounds ledger ⟨.repairProducers owners, report⟩
      ⟨.repairConsumers owners (ledger.retireProducers owners).1, report⟩
      (ledger.retireProducers owners).2
  | repaired {report : Report} {owners : List String} {producers : Nat} :
    Leads failing bounds ledger ⟨.repairConsumers owners producers, report⟩
      ⟨.purge, { report with repaired := ⟨producers, (ledger.retireConsumers owners).1⟩ }⟩
      (ledger.retireConsumers owners).2
  | purged {report : Report} (hcalm : failing .purgePoison = none) :
    Leads failing bounds ledger ⟨.purge, report⟩
      ⟨.finished, { report with purged := (ledger.purge bounds.horizon).1 }⟩
      (ledger.purge bounds.horizon).2
  | finished {report : Report} :
    Leads failing bounds ledger ⟨.finished, report⟩ ⟨.finished, report⟩ ledger

/-- A pass leads where `Leads` says. -/
theorem leads_step (failing : Call → Option Ledger.Fault) (bounds : Rule.Bounds)
    (progress : Progress) (ledger : Ledger) :
    Leads failing bounds ledger progress (progress.step (.failures failing) bounds ledger).1
      (progress.step (.failures failing) bounds ledger).2 := by
  obtain ⟨pass, report⟩ := progress
  cases pass with
  -- The three calls with a count are guarded as a whole; the cascades fail before their
  -- first part.
  | findStale =>
    simp only [Progress.step, callFindStale, guarded, Conditions.failures]
    cases hcall : failing .findStale with
    | some fault => exact .failed .findStale rfl (Option.isSome_of_eq_some hcall)
    | none =>
      cases hstale : ledger.stale bounds.cutoff with
      | nil => exact .noneStale hcall hstale
      | cons id rest =>
        have hsome : ledger.stale bounds.cutoff ≠ [] := by simp [hstale]
        rw [← hstale]
        simpa [hsome] using Leads.someStale hcall hsome
  | retireConnections stale =>
    simp only [Progress.step, callDeactivateConnections, guarded, Conditions.failures]
    cases hcall : failing .deactivateConnections with
    | some fault => exact .failed .deactivateConnections rfl (Option.isSome_of_eq_some hcall)
    | none =>
      by_cases hretired : (ledger.retireConnections bounds.cutoff stale).1 = []
      · simpa [hretired] using Leads.noneRetired hcall hretired
      · simpa [hretired] using Leads.someRetired hcall hretired
  | cascadeProducers owners =>
    simp only [Progress.step, Conditions.failures]
    cases hcall : failing .deactivateChildren with
    | some fault => exact .failed .cascade rfl (Option.isSome_of_eq_some hcall)
    | none => exact .cascading hcall
  -- The second half of a cascade belongs to a call that did not fail.
  | cascadeConsumers owners producers => exact .cascaded
  | findInactive =>
    simp only [Progress.step, Conditions.failures]
    cases hcall : failing .deactivateOrphans with
    | some fault => exact .failed .repairOrphans rfl (Option.isSome_of_eq_some hcall)
    | none =>
      dsimp only
      split
      · exact .noneInactive hcall
      · exact .someInactive hcall
  | repairProducers owners => exact .repairing
  | repairConsumers owners producers => exact .repaired
  | purge =>
    simp only [Progress.step, callPurge, guarded, Conditions.failures]
    cases hcall : failing .purgePoison with
    | some fault => exact .failed .purgePoison rfl (Option.isSome_of_eq_some hcall)
    | none => exact .purged hcall
  | finished => exact .finished

/-- A pass changes what the comparison finds, and nothing else. -/
theorem Leads.made (h : Leads failing bounds ledger progress next after) :
    ∃ changes, Made changes ledger after := by
  cases h with
  | failed | noneStale | someStale | noneInactive | someInactive | finished => exact ⟨_, .refl _⟩
  | noneRetired | someRetired => exact ⟨_, made_retireConnections ..⟩
  | cascading | repairing =>
    obtain ⟨ids, -, hmade⟩ := made_retireProducers _ ledger
    exact ⟨_, hmade⟩
  | cascaded | repaired =>
    obtain ⟨ids, -, hmade⟩ := made_retireConsumers _ ledger
    exact ⟨_, hmade⟩
  | purged =>
    obtain ⟨ids, -, hmade⟩ := made_purge bounds.horizon ledger
    exact ⟨_, hmade⟩

/-- Every pass leads on to a later one, up to the end. -/
theorem Leads.rank (h : Leads failing bounds ledger progress next after) :
    min 8 (progress.pass.rank + 1) ≤ next.pass.rank := by
  cases h with
  | failed step hdue hfails => exact Nat.le_trans (Nat.min_le_right _ _) (Pass.rank_lt_next hdue)
  | _ => simp [Pass.rank]

end

/-! ### The report so far -/

/-- What a report does not have yet at a pass. -/
structure Pass.Blank (pass : Pass) (report : Report) : Prop where
  retired : pass.rank ≤ 1 → report.retired = []
  cascaded : pass.rank ≤ 3 → report.cascaded = .zero
  repaired : pass.rank ≤ 6 → report.repaired = .zero
  purged : pass.rank ≤ 7 → report.purged = 0

/-- The report so far has the changes so far, but for the producers that the pass holds. -/
structure Tallied (changes : Changes) (progress : Progress) : Prop where
  amount : changes.Amount progress.report.retired
    (progress.report.cascaded.producers + progress.report.repaired.producers + progress.pass.held)
    (progress.report.cascaded.consumers + progress.report.repaired.consumers)
    progress.report.purged
  blank : progress.pass.Blank progress.report

/-- Nothing was found, and nothing changed. -/
theorem tallied_start : Tallied .none .start where
  amount := ⟨.refl _, rfl, rfl, rfl⟩
  blank := ⟨fun _ => rfl, fun _ => rfl, fun _ => rfl, fun _ => rfl⟩

section
variable {failing : Call → Option Ledger.Fault} {bounds : Rule.Bounds} {ledger after : Ledger}
  {progress next : Progress} {changes : Changes}

/-- What is blank after a pass was blank before it. -/
theorem Leads.blank (h : Leads failing bounds ledger progress next after)
    (hblank : progress.pass.Blank progress.report) : next.pass.Blank next.report := by
  obtain ⟨hretired, hcascaded, hrepaired, hpurged⟩ := hblank
  cases h with
  | failed step hdue hfails =>
    -- The report has no other change, and less of it is blank than before.
    have hrank := Nat.le_of_lt (Pass.rank_lt_next hdue)
    exact ⟨fun hle => hretired (Nat.le_trans hrank hle),
      fun hle => hcascaded (Nat.le_trans hrank hle),
      fun hle => hrepaired (Nat.le_trans hrank hle), fun hle => hpurged (Nat.le_trans hrank hle)⟩
  | _ => constructor <;> simp_all [Pass.rank]

/-- One pass adds to the report what it changed. -/
theorem Tallied.step (h : Tallied changes progress)
    (hleads : Leads failing bounds ledger progress next after) :
    Tallied (changes ++ ledger.changes after) next := by
  refine ⟨?_, hleads.blank h.blank⟩
  obtain ⟨hretired, hcascaded, hrepaired, hpurged⟩ := h.blank
  have hnothing := h.amount.append (Made.refl ledger).amount
  cases hleads with
  | @failed pass report step hdue hfails =>
    have hheld : pass.held = 0 := by cases pass <;> cases hdue <;> rfl
    have hheld' : step.next.held = 0 := by cases step <;> rfl
    simpa [Report.fail, hheld, hheld'] using hnothing
  | noneStale | someStale | noneInactive | someInactive | finished =>
    simpa [Pass.held] using hnothing
  | @noneRetired report stale hcalm hnone =>
    have hsum := h.amount.append (made_retireConnections bounds.cutoff stale ledger).amount
    have hretired : report.retired = [] := hretired (Nat.le_refl 1)
    simpa [Pass.held, hnone, hretired] using hsum
  | @someRetired report stale =>
    have hsum := h.amount.append (made_retireConnections bounds.cutoff stale ledger).amount
    have hretired : report.retired = [] := hretired (Nat.le_refl 1)
    simpa [Pass.held, hretired] using hsum
  | @cascading report owners | @repairing report owners =>
    obtain ⟨ids, hids, hmade⟩ := made_retireProducers owners ledger
    have hsum := h.amount.append hmade.amount
    simpa [Pass.held, hids] using hsum
  | @cascaded report owners producers =>
    obtain ⟨ids, hids, hmade⟩ := made_retireConsumers owners ledger
    have hsum := h.amount.append hmade.amount
    have hcascaded : report.cascaded = .zero := hcascaded (Nat.le_refl 3)
    -- Nothing was repaired yet either, so the producers that were held are all there are.
    have hrepaired : report.repaired = .zero := hrepaired (show 3 ≤ 6 by decide)
    simpa [Pass.held, hids, hcascaded, hrepaired, ChildCounts.zero] using hsum
  | @repaired report owners producers =>
    obtain ⟨ids, hids, hmade⟩ := made_retireConsumers owners ledger
    have hsum := h.amount.append hmade.amount
    have hrepaired : report.repaired = .zero := hrepaired (Nat.le_refl 6)
    simpa [Pass.held, hids, hrepaired, ChildCounts.zero] using hsum
  | @purged report =>
    obtain ⟨ids, hids, hmade⟩ := made_purge bounds.horizon ledger
    have hsum := h.amount.append hmade.amount
    have hpurged : report.purged = 0 := hpurged (Nat.le_refl 7)
    simpa [Pass.held, hids, hpurged] using hsum

/-- Only the update of the connections changes connections. -/
theorem Leads.connections (h : Leads failing bounds ledger progress next after)
    (hsame : after = ledger ∨ progress.pass.due? ≠ some .deactivateConnections) :
    (ledger.changes after).connections = [] := by
  have hnothing := (Made.refl ledger).amount.connections.symm.eq_nil
  cases h with
  | failed | noneStale | someStale | noneInactive | someInactive | finished => exact hnothing
  -- The two that may change connections are those of the call that is excluded.
  | noneRetired | someRetired =>
    rcases hsame with hsame | hpass
    · rw [hsame]
      exact hnothing
    · exact absurd rfl hpass
  | @cascading report owners | @repairing report owners =>
    obtain ⟨ids, -, hmade⟩ := made_retireProducers owners ledger
    exact hmade.amount.connections.symm.eq_nil
  | @cascaded report owners | @repaired report owners =>
    obtain ⟨ids, -, hmade⟩ := made_retireConsumers owners ledger
    exact hmade.amount.connections.symm.eq_nil
  | purged =>
    obtain ⟨ids, -, hmade⟩ := made_purge bounds.horizon ledger
    exact hmade.amount.connections.symm.eq_nil

end

/-! ### Accounts -/

/-- A sweep with its books. -/
@[ext] structure Account where
  /-- The calls that fail. -/
  failing : Call → Option Ledger.Fault
  bounds : Rule.Bounds
  /-- The stale connections at the time of the query. -/
  found : List String
  /-- What the passes changed in the ledger. -/
  changes : Changes
  progress : Progress

namespace Account

/-- A sweep that did nothing yet. -/
def start (failing : Call → Option Ledger.Fault) (bounds : Rule.Bounds) : Account :=
  ⟨failing, bounds, [], .none, .start⟩

/-- The report so far. -/
def report (account : Account) : Report := account.progress.report

/-- The pass that is due, with the books kept: the account and the ledger after it. -/
def advance (account : Account) (ledger : Ledger) : Account × Ledger :=
  let (progress, next) := account.progress.step (.failures account.failing) account.bounds ledger
  ({ account with
      found :=
        if account.progress.pass = .findStale then ledger.stale account.bounds.cutoff
        else account.found
      changes := account.changes ++ ledger.changes next
      progress }, next)

variable {account : Account}

/-- Whether the call of a step fails. -/
def fails (account : Account) (step : Step) : Bool := (account.failing step.call).isSome

/-- Whether a step is reached: in the chain, the step before succeeded and found or changed
something. -/
def reaches (account : Account) : Step → Bool
  | .findStale => true
  | .deactivateConnections => !account.fails .findStale && !account.found.isEmpty
  | .cascade => !account.fails .findStale && !account.found.isEmpty &&
      !account.fails .deactivateConnections && !account.changes.connections.isEmpty
  | .repairOrphans => true
  | .purgePoison => true

/-- Whether a step is reached and fails. -/
def stumbles (account : Account) (step : Step) : Bool := account.reaches step && account.fails step

/-- Whether a step stumbles depends on the calls that fail, on what was found, and on the
connections that were retired. -/
theorem stumbles_congr {other : Account} (hfailing : other.failing = account.failing)
    (hfound : other.found = account.found)
    (hchanges : other.changes.connections.isEmpty = account.changes.connections.isEmpty) :
    other.stumbles = account.stumbles := by
  funext step
  have hfails : ∀ step, other.fails step = account.fails step := fun step => by
    rw [fails, fails, hfailing]
  cases step <;> simp [stumbles, reaches, hfails, hfound, hchanges]

/-- The report so far is what the books say: it has their changes, and the steps that are over
and stumbled are its failed steps. -/
structure Sound (account : Account) : Prop where
  tallied : Tallied account.changes account.progress
  failed : account.report.failed = account.progress.pass.past.filter account.stumbles
  reached : ∀ step, account.progress.pass.due? = some step → account.reaches step = true

/-- An account that was just opened is sound. -/
theorem sound_start (failing : Call → Option Ledger.Fault) (bounds : Rule.Bounds) :
    (start failing bounds).Sound where
  tallied := tallied_start
  failed := rfl
  reached step hstep := by cases hstep; rfl

/-- While the same steps stumble as before, those that get done are all that the report needs. -/
theorem Sound.of_same {other : Account} (h : account.Sound)
    (htallied : Tallied other.changes other.progress)
    (hstumbles : other.stumbles = account.stumbles) (done : List Step)
    (hpast : other.progress.pass.past = account.progress.pass.past ++ done)
    (hfailed : other.report.failed = account.report.failed ++ done.filter account.stumbles)
    (hreached : ∀ step, other.progress.pass.due? = some step → other.reaches step = true) :
    other.Sound where
  tallied := htallied
  failed := by rw [hfailed, h.failed, hstumbles, hpast, List.filter_append]
  reached := hreached

/-- A step whose call does not fail leaves the failed steps as they are. -/
theorem Sound.of_calm {other : Account} (h : account.Sound)
    (htallied : Tallied other.changes other.progress)
    (hstumbles : other.stumbles = account.stumbles) (step : Step)
    (hcalm : account.failing step.call = none)
    (hpast : other.progress.pass.past = account.progress.pass.past ++ [step])
    (hfailed : other.report.failed = account.report.failed)
    (hreached : ∀ step, other.progress.pass.due? = some step → other.reaches step = true) :
    other.Sound := by
  refine h.of_same htallied hstumbles [step] hpast ?_ hreached
  simp [hfailed, stumbles, fails, hcalm]

/-- A step that is due and whose call fails is one more. -/
theorem Sound.of_stumble {other : Account} (h : account.Sound)
    (htallied : Tallied other.changes other.progress)
    (hstumbles : other.stumbles = account.stumbles) {step : Step}
    (hdue : account.progress.pass.due? = some step)
    (hfails : (account.failing step.call).isSome = true)
    (hpast : other.progress.pass.past = account.progress.pass.past ++ [step])
    (hfailed : other.report.failed = account.report.failed ++ [step])
    (hreached : ∀ step, other.progress.pass.due? = some step → other.reaches step = true) :
    other.Sound := by
  refine h.of_same htallied hstumbles [step] hpast ?_ hreached
  simp [hfailed, stumbles, fails, h.reached step hdue, hfails]

variable {failing : Call → Option Ledger.Fault} {bounds : Rule.Bounds} {found : List String}
  {changes : Changes} {report : Report} {ledger after : Ledger} {next : Progress}

/-- The query: nothing failed before it, and what it finds decides about the rest of the chain. -/
theorem Sound.findStale (h : (Account.mk failing bounds found changes ⟨.findStale, report⟩).Sound)
    (hleads : Leads failing bounds ledger ⟨.findStale, report⟩ next after)
    (htallied : Tallied (changes ++ ledger.changes after) next) :
    (Account.mk failing bounds (ledger.stale bounds.cutoff) (changes ++ ledger.changes after)
      next).Sound := by
  have hfailed : report.failed = [] := h.failed
  cases hleads with
  | failed step hdue hfails =>
    cases hdue
    refine ⟨htallied, ?_, fun step hstep => by cases hstep; rfl⟩
    simp [Account.report, Report.fail, hfailed, Step.next, Pass.past, Step.chain, stumbles, reaches,
      fails, hfails]
  -- Nothing stale: the chain is passed over, and that is no failure.
  | noneStale hcalm hstale =>
    refine ⟨htallied, ?_, fun step hstep => by cases hstep; rfl⟩
    simp [Account.report, hfailed, Pass.past, Step.chain, stumbles, reaches, fails, Step.call,
      hcalm, hstale]
  | someStale hcalm hstale =>
    refine ⟨htallied, ?_, fun step hstep => ?_⟩
    · simp [Account.report, hfailed, Pass.past, stumbles, reaches, fails, Step.call, hcalm]
    · cases hstep
      simp [reaches, fails, Step.call, hcalm, hstale]

/-- The update of the connections: what it retires decides whether there is a cascade. -/
theorem Sound.retireConnections {stale : List String}
    (h : (Account.mk failing bounds found changes ⟨.retireConnections stale, report⟩).Sound)
    (hleads : Leads failing bounds ledger ⟨.retireConnections stale, report⟩ next after)
    (htallied : Tallied (changes ++ ledger.changes after) next) :
    (Account.mk failing bounds found (changes ++ ledger.changes after) next).Sound := by
  -- To have come here, the query did not fail and found something.
  have hreached := h.reached _ rfl
  simp only [reaches, fails, Bool.and_eq_true, Bool.not_eq_true'] at hreached
  obtain ⟨hcalmFind, hfound⟩ := hreached
  have hfind : failing .findStale = none := by simpa [Step.call] using hcalmFind
  have hfailed : report.failed = [] :=
    h.failed.trans (by simp [Pass.past, stumbles, fails, Step.call, hfind])
  have hretired := htallied.amount.connections
  cases hleads with
  | failed step hdue hfails =>
    cases hdue
    have hfails : (failing .deactivateConnections).isSome = true := hfails
    refine ⟨htallied, ?_, fun step hstep => by cases hstep; rfl⟩
    simp [Account.report, Report.fail, hfailed, Step.next, Pass.past, Step.chain, stumbles, reaches,
      fails, Step.call, hfails, hfind, hfound]
  | noneRetired hcalm hnone =>
    have hnil := hretired.symm.eq_nil
    refine ⟨htallied, ?_, fun step hstep => by cases hstep; rfl⟩
    simp [Account.report, hfailed, Pass.past, Step.chain, stumbles, reaches, fails, Step.call,
      hfind, hcalm, hnil]
  | someRetired hcalm hsome =>
    -- Connections were changed, by the count that is not zero.
    have hchanged : (changes ++ ledger.changes _).connections ≠ [] := fun hnil =>
      hsome (List.Perm.eq_nil (hnil ▸ hretired))
    refine ⟨htallied, ?_, fun step hstep => ?_⟩
    · simp [Account.report, hfailed, Pass.past, stumbles, reaches, fails, Step.call, hfind, hcalm]
    · cases hstep
      simp [reaches, fails, Step.call, hfind, hfound, hcalm, hchanged]

/-- **One pass.** The report goes on being what the books say. -/
theorem Sound.advance (h : account.Sound) (ledger : Ledger) :
    (account.advance ledger).1.Sound := by
  obtain ⟨failing, bounds, found, changes, progress⟩ := account
  have hleads := leads_step failing bounds progress ledger
  have htallied := h.tallied.step hleads
  unfold Account.advance
  dsimp only
  generalize (progress.step (.failures failing) bounds ledger).1 = next,
    (progress.step (.failures failing) bounds ledger).2 = after at hleads htallied ⊢
  by_cases hfind : progress.pass = .findStale
  · obtain ⟨pass, report⟩ := progress
    cases hfind
    rw [if_pos rfl]
    exact h.findStale hleads htallied
  rw [if_neg hfind]
  by_cases hretire : ∃ stale, progress.pass = .retireConnections stale
  · obtain ⟨stale, hstale⟩ := hretire
    obtain ⟨pass, report⟩ := progress
    cases hstale
    exact h.retireConnections hleads htallied
  have hdue : progress.pass.due? ≠ some .deactivateConnections := by
    intro hdue
    obtain ⟨pass, report⟩ := progress
    cases pass with
    | retireConnections stale => exact hretire ⟨stale, rfl⟩
    | _ => cases hdue
  -- From here on the same steps stumble as before.
  have hstumbles :
      (Account.mk failing bounds found (changes ++ ledger.changes after) next).stumbles =
        (Account.mk failing bounds found changes progress).stumbles := by
    refine stumbles_congr rfl rfl ?_
    show (changes.connections ++ (ledger.changes after).connections).isEmpty = _
    rw [hleads.connections (.inr hdue), List.append_nil]
  cases hleads with
  | @failed pass report step hdueStep hfails =>
    cases pass with
    | cascadeProducers | findInactive =>
      cases hdueStep
      refine h.of_stumble htallied hstumbles rfl hfails rfl rfl fun step hstep => ?_
      cases hstep
      rfl
    | purge =>
      cases hdueStep
      exact h.of_stumble htallied hstumbles rfl hfails rfl rfl nofun
    | findStale => exact absurd rfl hfind
    | retireConnections => exact absurd rfl hdue
    | cascadeConsumers | repairProducers | repairConsumers | finished => cases hdueStep
  | noneStale | someStale => exact absurd rfl hfind
  | noneRetired | someRetired => exact absurd rfl hdue
  | cascading hcalm => exact h.of_calm htallied hstumbles .cascade hcalm rfl rfl nofun
  | noneInactive hcalm =>
    refine h.of_calm htallied hstumbles .repairOrphans hcalm rfl rfl fun step hstep => ?_
    cases hstep
    rfl
  | someInactive hcalm => exact h.of_calm htallied hstumbles .repairOrphans hcalm rfl rfl nofun
  | purged hcalm => exact h.of_calm htallied hstumbles .purgePoison hcalm rfl rfl nofun
  -- These passes are over with a step whose call did not fail.
  | cascaded | repaired =>
    refine h.of_same htallied hstumbles [] rfl (List.append_nil _).symm fun step hstep => ?_
    cases hstep
    rfl
  | repairing | finished =>
    exact h.of_same htallied hstumbles [] rfl (List.append_nil _).symm nofun

/-- The books may list the changes in another order. -/
theorem Sound.of_alike {progress : Progress} {more : Changes}
    (h : (Account.mk failing bounds found changes progress).Sound) (hsame : more.Alike changes) :
    (Account.mk failing bounds found more progress).Sound := by
  have hstumbles : (Account.mk failing bounds found more progress).stumbles =
      (Account.mk failing bounds found changes progress).stumbles :=
    stumbles_congr rfl rfl hsame.connections.isEmpty_eq
  refine ⟨⟨h.tallied.amount.alike hsame, h.tallied.blank⟩, ?_, fun step hstep => ?_⟩
  · rw [hstumbles]
    exact h.failed
  · have hreached := h.reached step hstep
    have hempty := hsame.connections.isEmpty_eq
    cases step with
    | cascade => simpa [reaches, fails, hempty] using hreached
    | findStale | deactivateConnections | repairOrphans | purgePoison => exact hreached

/-! #### All passes -/

/-- That many passes, with nobody in between. -/
def advances : Nat → Account → Ledger → Account × Ledger
  | 0, account, ledger => (account, ledger)
  | count + 1, account, ledger =>
    advances count (account.advance ledger).1 (account.advance ledger).2

/-- The books do not disturb the sweep. -/
theorem run_eq_advances (count : Nat) (account : Account) (ledger : Ledger) :
    Progress.run (.failures account.failing) account.bounds count account.progress ledger =
      ((advances count account ledger).1.progress, (advances count account ledger).2) := by
  induction count generalizing account ledger with
  | zero => rfl
  | succ count ih => exact ih (account.advance ledger).1 (account.advance ledger).2

/-- By induction, so is one that went on for some passes. -/
theorem Sound.advances (h : account.Sound) (count : Nat) (ledger : Ledger) :
    (advances count account ledger).1.Sound := by
  induction count generalizing account ledger with
  | zero => exact h
  | succ count ih => exact ih (h.advance ledger) (account.advance ledger).2

/-- Each pass brings a sweep nearer to its end. -/
theorem rank_advance (account : Account) (ledger : Ledger) :
    min 8 (account.progress.pass.rank + 1) ≤ (account.advance ledger).1.progress.pass.rank :=
  (leads_step account.failing account.bounds account.progress ledger).rank

/-- No sweep takes more than eight passes. -/
theorem rank_advances (count : Nat) (account : Account) (ledger : Ledger) :
    min 8 (account.progress.pass.rank + count) ≤
      (advances count account ledger).1.progress.pass.rank := by
  induction count generalizing account ledger with
  | zero => exact Nat.min_le_right _ _
  | succ count ih =>
    have hfirst := rank_advance account ledger
    have hrest := ih (account.advance ledger).1 (account.advance ledger).2
    rw [advances]
    omega

/-- What fails and what the bounds are is settled when a sweep starts, and what was found when its
query is over. -/
theorem advances_same (count : Nat) (account : Account) (ledger : Ledger) :
    (advances count account ledger).1.failing = account.failing ∧
      (advances count account ledger).1.bounds = account.bounds ∧
      (0 < account.progress.pass.rank →
        (advances count account ledger).1.found = account.found) := by
  induction count generalizing account ledger with
  | zero => exact ⟨rfl, rfl, fun _ => rfl⟩
  | succ count ih =>
    obtain ⟨hfailing, hbounds, hfound⟩ := ih (account.advance ledger).1 (account.advance ledger).2
    refine ⟨hfailing, hbounds, fun hrank => ?_⟩
    have hfirst := rank_advance account ledger
    -- The query is the pass of rank zero, and passes only move on.
    have hpass : account.progress.pass ≠ .findStale := by
      intro hpass
      rw [hpass] at hrank
      exact absurd hrank (by decide)
    exact (hfound (by omega)).trans (if_neg hpass)

/-- Passes with nobody in between change what the books say they change. -/
theorem made_advances (count : Nat) (account : Account) (ledger : Ledger) :
    ∃ more, (advances count account ledger).1.changes = account.changes ++ more ∧
      Made more ledger (advances count account ledger).2 := by
  induction count generalizing account ledger with
  | zero => exact ⟨.none, (Changes.append_none _).symm, .refl ledger⟩
  | succ count ih =>
    obtain ⟨more, hchanges, hmore⟩ := ih (account.advance ledger).1 (account.advance ledger).2
    obtain ⟨first, hfirst⟩ :=
      (leads_step account.failing account.bounds account.progress ledger).made
    refine ⟨ledger.changes (account.advance ledger).2 ++ more, ?_, hfirst.self.trans hmore⟩
    rw [← Changes.append_assoc]
    exact hchanges

/-- A sweep is the passes of its account. -/
theorem sweep_eq_advances (failing : Call → Option Ledger.Fault) (bounds : Rule.Bounds)
    (ledger : Ledger) :
    sweep (.failures failing) bounds ledger =
      ((advances maxPasses (start failing bounds) ledger).1.report,
        (advances maxPasses (start failing bounds) ledger).2) := by
  have hrun : Progress.run (.failures failing) bounds maxPasses .start ledger = _ :=
    run_eq_advances maxPasses (start failing bounds) ledger
  rw [sweep, hrun]
  rfl

/-- The account of a whole sweep: what changed is found out by comparing the ledger before it with
the ledger after it. -/
def ofSweep (failing : Call → Option Ledger.Fault) (bounds : Rule.Bounds) (ledger : Ledger) :
    Account where
  failing := failing
  bounds := bounds
  found := ledger.stale bounds.cutoff
  changes := ledger.changes (sweep (.failures failing) bounds ledger).2
  progress := ⟨.finished, (sweep (.failures failing) bounds ledger).1⟩

/-- **One sweep.** The account of a sweep that nobody got into is sound, and the sweep changed
nothing else. -/
theorem sound_ofSweep (failing : Call → Option Ledger.Fault) (bounds : Rule.Bounds)
    (ledger : Ledger) :
    (ofSweep failing bounds ledger).Sound ∧
      Made (ofSweep failing bounds ledger).changes ledger
        (sweep (.failures failing) bounds ledger).2 := by
  have hsound := (sound_start failing bounds).advances maxPasses ledger
  have hrank := rank_advances maxPasses (start failing bounds) ledger
  obtain ⟨hfailing, hbounds, -⟩ := advances_same maxPasses (start failing bounds) ledger
  obtain ⟨more, hchanges, hmade⟩ := made_advances maxPasses (start failing bounds) ledger
  -- After the first pass the query is over.
  have hfound : (advances maxPasses (start failing bounds) ledger).1.found =
      ledger.stale bounds.cutoff :=
    (advances_same 7 ((start failing bounds).advance ledger).1
      ((start failing bounds).advance ledger).2).2.2 (rank_advance (start failing bounds) ledger)
  have hsweep := sweep_eq_advances failing bounds ledger
  generalize advances maxPasses (start failing bounds) ledger = result at *
  have hprogress : result.1.progress = ⟨.finished, result.1.report⟩ := by
    rw [← Pass.eq_finished hrank]
    rfl
  have haccount : result.1 = ⟨failing, bounds, ledger.stale bounds.cutoff, more,
      ⟨.finished, result.1.report⟩⟩ := Account.ext hfailing hbounds hfound hchanges hprogress
  rw [haccount] at hsound
  rw [ofSweep, hsweep]
  exact ⟨hsound.of_alike hmade.alike, hmade.self⟩

/-! #### Finished sweeps -/

/-- A step of the chain is reached only if those before it did not fail, so at most one of them
stumbles. -/
theorem filter_chain (account : Account) :
    Step.chain.filter account.stumbles = (Step.chain.find? account.stumbles).toList := by
  cases hfind : account.fails .findStale <;> cases hfound : account.found.isEmpty <;>
    cases hretire : account.fails .deactivateConnections <;>
    cases hcascade : account.stumbles .cascade <;>
    simp_all [Step.chain, stumbles, reaches]

/-- The steps that a finished sweep reports as failed: the first of the chain that is reached and
fails, and then those of the last two that fail. -/
theorem Sound.failed_eq (h : account.Sound) (hpass : account.progress.pass = .finished) :
    account.report.failed = (Step.chain.find? account.stumbles).toList ++
      Step.always.filter account.stumbles := by
  rw [h.failed, hpass, ← filter_chain]
  exact List.filter_append _ _

/-- A step is among the failed steps once if it stumbled, and else not at all. -/
theorem Sound.count_failed (h : account.Sound) (hpass : account.progress.pass = .finished)
    (step : Step) : account.report.failed.count step = (account.stumbles step).toNat := by
  have honce : Pass.finished.past.count step = 1 := by cases step <;> rfl
  rw [h.failed, hpass]
  cases hstep : account.stumbles step with
  | true => rw [List.count_filter hstep, honce]; rfl
  | false =>
    refine List.count_eq_zero.mpr fun hmem => ?_
    rw [List.mem_filter, hstep] at hmem
    exact Bool.false_ne_true hmem.2

end Account

end Gatekeeper.Sweep
