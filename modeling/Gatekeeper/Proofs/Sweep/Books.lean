import Gatekeeper.Proofs.Ledger.History
import Gatekeeper.Proofs.Sweep.Account
import Gatekeeper.Proofs.Throttle
import Mathlib.Algebra.GroupWithZero.Nat

/-!
# `Gatekeeper.Proofs.Sweep.Books`: reports and counters over any run

`Books` are a ledger in use, the counters, and an account of every sweep. An event is a call on
the ledger, a whole sweep, the start of a sweep, or the next pass of one that is under way. Any
number of sweeps may be under way, and in each of them any of the calls may fail. When a sweep is
finished its report goes to the counters and its account is closed.

* `get_record`: what a report adds to a counter.
* `sound_step`, `sound_run`: the accounts stay sound, and the counters are the sum of the reports.
* `made_step`: a sweep changes what its account says, and nothing else.
* `accounts_run`: all closed accounts, and the counters.
-/

set_option autoImplicit false

namespace Gatekeeper.Sweep

open Gatekeeper.Ledger

/-! ### Counters -/

/-- No two steps of a sweep have one name, so a counter by name is a counter by step. -/
theorem Step.name_injective {step other : Step} (h : step.name = other.name) : step = other := by
  revert h
  cases step <;> cases other <;> decide

namespace Report

/-- What a report adds to a counter. -/
def credit (report : Report) (metric : Metric) : Nat :=
  report.failed.countP (fun step => metric = .failedStep step.name) +
    (if metric = .sweeps then 1 else 0) +
    (if metric = .retired "connection" then report.retired.length else 0) +
    (if metric = .retired "producer" then report.cascaded.producers + report.repaired.producers
      else 0) +
    (if metric = .retired "consumer" then report.cascaded.consumers + report.repaired.consumers
      else 0) +
    (if metric = .purged then report.purged else 0)

/-- Counting on one counter leaves every other one alone. -/
theorem get_count_add (metrics : Metrics) (metric other : Metric) (n : Nat) :
    (metrics.count metric n).get other = metrics.get other + if other = metric then n else 0 := by
  rw [Metrics.get_count]
  split
  next heq => rw [heq]
  next => rfl

/-- Every failed step is counted under its name. -/
theorem get_foldl_failed (failed : List Step) (metrics : Metrics) (metric : Metric) :
    (failed.foldl (fun metrics step => metrics.count (.failedStep step.name) 1) metrics).get
        metric = metrics.get metric + failed.countP fun step => metric = .failedStep step.name := by
  induction failed generalizing metrics with
  | nil => rfl
  | cons step rest ih =>
    rw [List.foldl_cons, ih, get_count_add, List.countP_cons]
    simp only [decide_eq_true_eq]
    omega

/-- Recording a report adds its credit to every counter, and does nothing else. -/
theorem get_record (report : Report) (metrics : Metrics) (metric : Metric) :
    (report.record metrics).get metric = metrics.get metric + report.credit metric := by
  simp only [record, credit, get_count_add, get_foldl_failed]
  omega

/-- Every sweep counts as one. -/
theorem credit_sweeps (report : Report) : report.credit .sweeps = 1 := by
  simp [credit, Metric.sweeps, Metric.failedStep, Metric.retired, Metric.purged]

/-- The counter of connections gets the connections that the sweep retired. -/
theorem credit_connections (report : Report) :
    report.credit (.retired "connection") = report.retired.length := by
  simp [credit, Metric.sweeps, Metric.failedStep, Metric.retired, Metric.purged]

/-- The counter of producers gets those of retired connections and the orphans. -/
theorem credit_producers (report : Report) : report.credit (.retired "producer") =
    report.cascaded.producers + report.repaired.producers := by
  simp [credit, Metric.sweeps, Metric.failedStep, Metric.retired, Metric.purged]

/-- The counter of consumers gets those of retired connections and the orphans. -/
theorem credit_consumers (report : Report) : report.credit (.retired "consumer") =
    report.cascaded.consumers + report.repaired.consumers := by
  simp [credit, Metric.sweeps, Metric.failedStep, Metric.retired, Metric.purged]

/-- The counter of messages gets the messages that the sweep removed. -/
theorem credit_purged (report : Report) : report.credit .purged = report.purged := by
  simp [credit, Metric.sweeps, Metric.failedStep, Metric.retired, Metric.purged]

/-- The counter of a step gets how often this step failed in the sweep. -/
theorem credit_failedStep (report : Report) (step : Step) :
    report.credit (.failedStep step.name) = report.failed.count step := by
  have hstep : ∀ other, Metric.failedStep step.name = .failedStep other.name ↔ other = step :=
    fun other => ⟨fun h => (Step.name_injective (by simpa [Metric.failedStep] using h)).symm,
      fun h => by rw [h]⟩
  simp only [credit, hstep]
  simp [Metric.sweeps, Metric.failedStep, Metric.retired, Metric.purged, List.count]
  rfl

end Report

/-! ### Books -/

/-- A ledger in use, the counters, and the accounts of the sweeps. -/
structure Books where
  ledger : Ledger
  metrics : Metrics
  underway : List Account
  /-- The accounts of the sweeps that are finished. -/
  closed : List Account

namespace Books

/-- One thing that happens. -/
inductive Event where
  /-- A call on the ledger, which may be out of order. -/
  | called (outage : Option Ledger.Fault) (request : History.Request)
  /-- A whole sweep; the given calls fail. -/
  | swept (rule : Rule) (now : Timestamp) (failing : Call → Option Ledger.Fault)
  /-- A sweep begins; the given calls will fail. -/
  | began (rule : Rule) (now : Timestamp) (failing : Call → Option Ledger.Fault)
  /-- The next pass of the sweep at a place of those under way. -/
  | advanced (place : Nat)

/-- Whether the event is a sweep's. -/
def Event.isSweep : Event → Bool
  | called _ _ => false
  | swept _ _ _ | began _ _ _ | advanced _ => true

/-- What an event does. No sweep begins where the rule's silence does not exist. -/
def step (books : Books) : Event → Books
  | .called outage request => { books with ledger := (request.serve outage books.ledger).2 }
  | .swept rule now failing =>
    match rule.bounds? now, sweepAt? rule (.failures failing) now books.ledger books.metrics with
    | some bounds, some (report, ledger, metrics) =>
      { books with
        ledger
        metrics
        closed := books.closed ++ [⟨failing, bounds, books.ledger.stale bounds.cutoff,
          books.ledger.changes ledger, ⟨.finished, report⟩⟩] }
    | _, _ => books
  | .began rule now failing =>
    match rule.bounds? now with
    | some bounds => { books with underway := books.underway ++ [.start failing bounds] }
    | none => books
  | .advanced place =>
    match books.underway[place]? with
    | some account =>
      let (account, ledger) := account.advance books.ledger
      if account.progress.pass = .finished then
        { ledger
          metrics := account.report.record books.metrics
          underway := books.underway.eraseIdx place
          closed := books.closed ++ [account] }
      else { books with ledger, underway := books.underway.set place account }
    | none => books

/-- A run of events. -/
def run (books : Books) (events : List Event) : Books := events.foldl step books

/-- Nothing happened yet. -/
def start (ledger : Ledger) (metrics : Metrics) : Books := ⟨ledger, metrics, [], []⟩

variable {books : Books} {before : Metrics}

/-- A whole sweep, with its account. -/
theorem step_swept {rule : Rule} {now : Timestamp} {bounds : Rule.Bounds}
    (hbounds : rule.bounds? now = some bounds) (failing : Call → Option Ledger.Fault)
    (books : Books) :
    step books (.swept rule now failing) =
      { books with
        ledger := (sweep (.failures failing) bounds books.ledger).2
        metrics := (Account.ofSweep failing bounds books.ledger).report.record books.metrics
        closed := books.closed ++ [Account.ofSweep failing bounds books.ledger] } := by
  simp only [step, sweepAt?, hbounds, Option.map_some]
  rfl

/-- A sweep changes what the comparison finds, and nothing else. -/
theorem made_step {event : Event} (hsweep : event.isSweep = true) (books : Books) :
    Made (books.ledger.changes (step books event).ledger) books.ledger
      (step books event).ledger := by
  have hnothing : Made (books.ledger.changes books.ledger) books.ledger books.ledger :=
    (Made.refl books.ledger).self
  cases event with
  | called outage request => cases hsweep
  | swept rule now failing =>
    cases hbounds : rule.bounds? now with
    | none => simpa [step, hbounds] using hnothing
    | some bounds =>
      rw [step_swept hbounds]
      exact (Account.sound_ofSweep failing bounds books.ledger).2
  -- A sweep that only begins changes nothing yet.
  | began rule now failing =>
    cases hbounds : rule.bounds? now <;> simpa [step, hbounds] using hnothing
  | advanced place =>
    cases hplace : books.underway[place]? with
    | none => simpa [step, hplace] using hnothing
    | some account =>
      obtain ⟨changes, hmade⟩ :=
        (leads_step account.failing account.bounds account.progress books.ledger).made
      have hledger : (step books (.advanced place)).ledger = (account.advance books.ledger).2 := by
        simp only [step, hplace]
        split <;> rfl
      rw [hledger]
      exact hmade.self

/-- The accounts are sound, and the counters have what the reports of the closed ones add. -/
structure Sound (before : Metrics) (books : Books) : Prop where
  underway : ∀ account ∈ books.underway, account.Sound
  closed : ∀ account ∈ books.closed, account.Sound ∧ account.progress.pass = .finished
  counted : ∀ metric, books.metrics.get metric =
    before.get metric + (books.closed.map (·.report.credit metric)).sum

/-- A sound account of a finished sweep is closed, and its report goes to the counters. -/
theorem Sound.close (h : books.Sound before) {account : Account} (haccount : account.Sound)
    (hpass : account.progress.pass = .finished) (ledger : Ledger) {underway : List Account}
    (hunderway : ∀ other ∈ underway, other.Sound) :
    Sound before ⟨ledger, account.report.record books.metrics, underway,
      books.closed ++ [account]⟩ where
  underway := hunderway
  closed other hmem := by
    rcases List.mem_append.mp hmem with hclosed | hnew
    · exact h.closed other hclosed
    · rw [List.mem_singleton.mp hnew]
      exact ⟨haccount, hpass⟩
  counted metric := by
    rw [Report.get_record, h.counted, List.map_append, List.sum_append]
    simp [Nat.add_assoc]

/-- Every event keeps the accounts sound. One that closes an account adds to the counters what its
report adds. -/
theorem sound_step (h : books.Sound before) (event : Event) : (step books event).Sound before := by
  cases event with
  | called outage request => exact ⟨h.underway, h.closed, h.counted⟩
  | swept rule now failing =>
    cases hbounds : rule.bounds? now with
    | none => simpa [step, hbounds] using h
    | some bounds =>
      rw [step_swept hbounds]
      exact h.close (Account.sound_ofSweep failing bounds books.ledger).1 rfl _ h.underway
  | began rule now failing =>
    cases hbounds : rule.bounds? now with
    | none => simpa [step, hbounds] using h
    | some bounds =>
      simp only [step, hbounds]
      refine ⟨fun account hmem => ?_, h.closed, h.counted⟩
      rcases List.mem_append.mp hmem with hold | hnew
      · exact h.underway account hold
      · rw [List.mem_singleton.mp hnew]
        exact Account.sound_start failing bounds
  | advanced place =>
    cases hplace : books.underway[place]? with
    | none => simpa [step, hplace] using h
    | some account =>
      have haccount : (account.advance books.ledger).1.Sound :=
        (h.underway account (List.mem_of_getElem? hplace)).advance books.ledger
      simp only [step, hplace]
      -- The account is closed by the last pass only; all other accounts stay as they are.
      split
      next hpass =>
        exact h.close haccount hpass _ fun other hmem =>
          h.underway other (List.mem_of_mem_eraseIdx hmem)
      next =>
        refine ⟨fun other hmem => ?_, h.closed, h.counted⟩
        rcases List.mem_or_eq_of_mem_set hmem with hold | rfl
        · exact h.underway other hold
        · exact haccount

/-- So does a run of events, by induction. -/
theorem sound_run (h : books.Sound before) (events : List Event) :
    (run books events).Sound before := by
  induction events generalizing books with
  | nil => exact h
  | cons event rest ih => exact ih (sound_step h event)

/-- Before the first event there are no accounts, and the counters have what they had. -/
theorem sound_start (ledger : Ledger) (metrics : Metrics) :
    (start ledger metrics).Sound metrics where
  underway _ hmem := (List.not_mem_nil hmem).elim
  closed _ hmem := (List.not_mem_nil hmem).elim
  counted _ := (Nat.add_zero _).symm

/-- If each closed account adds so much to a counter, all of them add the sum. -/
theorem Sound.total (h : books.Sound before) (metric : Metric) (amount : Account → Nat)
    (hamount : ∀ account ∈ books.closed, account.report.credit metric = amount account) :
    books.metrics.get metric = before.get metric + (books.closed.map amount).sum := by
  rw [h.counted, List.map_congr_left hamount]

/-- Adding up ones and zeros is counting. -/
theorem sum_toNat (p : Account → Bool) (accounts : List Account) :
    (accounts.map fun account => (p account).toNat).sum = accounts.countP p := by
  induction accounts with
  | nil => rfl
  | cons account rest ih =>
    rw [List.map_cons, List.sum_cons, List.countP_cons, ih]
    cases p account <;> simp [Nat.add_comm]

/-- **Reports and counters match what happened**, in any run of calls and sweeps over any ledger,
whichever calls of each sweep fail, and whoever gets in between the passes of a sweep.

The report of every finished sweep has as failed steps the first of the chain that is reached and
fails, and then those of the last two that fail, which are always attempted. The connections that
it lists are those that its passes turned inactive, and it has as many children of each kind as
they turned inactive, whether by the cascade or by the repair, and as many messages as they
removed. This holds of the parts of the report before and after a failure alike. Whatever a sweep
does to the ledger leaves it with nothing but these changes made.

The counters went up by the number of finished sweeps, by all their changes of each kind and,
once no sweep is under way, under the name of each step by the number of sweeps in which it was
reached and failed. -/
theorem accounts_run (ledger : Ledger) (metrics : Metrics) (events : List Event) :
    let books := run (start ledger metrics) events
    let total := fun amount : Account → Nat => (books.closed.map amount).sum
    (∀ account ∈ books.closed,
      account.report.failed = (Step.chain.find? account.stumbles).toList ++
        Step.always.filter account.stumbles ∧
      account.report.retired.Perm account.changes.connections ∧
      account.report.cascaded.producers + account.report.repaired.producers =
        account.changes.producers.length ∧
      account.report.cascaded.consumers + account.report.repaired.consumers =
        account.changes.consumers.length ∧
      account.report.purged = account.changes.messages.length) ∧
    (∀ event, event.isSweep = true →
      let after := (step books event).ledger
      after = books.ledger.without (books.ledger.changes after)) ∧
    books.metrics.get .sweeps = metrics.get .sweeps + books.closed.length ∧
    books.metrics.get (.retired "connection") =
      metrics.get (.retired "connection") + total (·.changes.connections.length) ∧
    books.metrics.get (.retired "producer") =
      metrics.get (.retired "producer") + total (·.changes.producers.length) ∧
    books.metrics.get (.retired "consumer") =
      metrics.get (.retired "consumer") + total (·.changes.consumers.length) ∧
    books.metrics.get .purged = metrics.get .purged + total (·.changes.messages.length) ∧
    (books.underway = [] → ∀ step : Step, books.metrics.get (.failedStep step.name) =
      metrics.get (.failedStep step.name) + books.closed.countP (·.stumbles step)) := by
  intro books total
  have hsound : books.Sound metrics := sound_run (sound_start ledger metrics) events
  -- A finished sweep holds nothing back from its report.
  have hamount : ∀ account ∈ books.closed, account.changes.Amount account.report.retired
      (account.report.cascaded.producers + account.report.repaired.producers)
      (account.report.cascaded.consumers + account.report.repaired.consumers)
      account.report.purged := by
    intro account hmem
    obtain ⟨haccount, hpass⟩ := hsound.closed account hmem
    have hamount := haccount.tallied.amount
    rw [hpass] at hamount
    exact hamount
  refine ⟨fun account hmem => ?_, fun event hsweep => ?_, ?_, ?_, ?_, ?_, ?_, fun _ step => ?_⟩
  · obtain ⟨haccount, hpass⟩ := hsound.closed account hmem
    obtain ⟨hconnections, hproducers, hconsumers, hmessages⟩ := hamount account hmem
    exact ⟨haccount.failed_eq hpass, hconnections, hproducers, hconsumers, hmessages⟩
  · exact (made_step hsweep books).eq_without
  · rw [hsound.total .sweeps (fun _ => 1) fun account _ => account.report.credit_sweeps]
    simp
  · exact hsound.total _ _ fun account hmem =>
      account.report.credit_connections.trans (hamount account hmem).connections.length_eq
  · exact hsound.total _ _ fun account hmem =>
      account.report.credit_producers.trans (hamount account hmem).producers
  · exact hsound.total _ _ fun account hmem =>
      account.report.credit_consumers.trans (hamount account hmem).consumers
  · exact hsound.total _ _ fun account hmem =>
      account.report.credit_purged.trans (hamount account hmem).messages
  · have htotal := hsound.total (.failedStep step.name)
      (fun account => (account.stumbles step).toNat) fun account hmem =>
        (account.report.credit_failedStep step).trans
          ((hsound.closed account hmem).1.count_failed (hsound.closed account hmem).2 step)
    rw [htotal, sum_toNat]

/-- A sweep that retires a connection and fails to turn its children, with a child added in
between its passes, and a sweep after it that turns both children. -/
theorem accounts_run_of_missed_children :
    let now : Timestamp := ⟨90, 1, by decide, by decide, by decide, by decide⟩
    let ledger := ((Ledger.empty.upsertConnection ⟨"a", .epoch, true⟩).insertProducer
      ⟨"p", "a", true⟩).2
    let failing : Call → Option Ledger.Fault := fun call =>
      if call = .deactivateChildren ∨ call = .deactivateOrphans then some (.unexpected "down")
      else none
    let books := run (start ledger .empty) [.began .standard now failing, .advanced 0, .advanced 0,
      .called none (.insert .producer ⟨"q", "a", true⟩), .advanced 0, .advanced 0, .advanced 0,
      .swept .standard now fun _ => none]
    books.closed.map (·.report.failed) = [[.cascade, .repairOrphans], []] ∧
      books.closed.map (·.changes) = [⟨["a"], [], [], []⟩, ⟨[], ["p", "q"], [], []⟩] ∧
      (∀ account ∈ books.closed, account.report.retired.Perm account.changes.connections) ∧
      books.metrics.get (.retired "connection") = 1 ∧
      books.metrics.get (.retired "producer") = 2 ∧
      books.metrics.get (.failedStep (Step.cascade).name) = 1 := by
  intro now ledger failing books
  obtain ⟨hclosed, -, -, hconnections, hproducers, -, -, hfailed⟩ :=
    accounts_run ledger .empty [.began .standard now failing, .advanced 0, .advanced 0,
      .called none (.insert .producer ⟨"q", "a", true⟩), .advanced 0, .advanced 0, .advanced 0,
      .swept .standard now fun _ => none]
  have hended : books.underway = [] := List.isEmpty_iff.mp (by decide +kernel)
  refine ⟨by decide +kernel, by decide +kernel, fun account hmem => (hclosed account hmem).2.1,
    hconnections.trans ?_, hproducers.trans ?_, (hfailed hended .cascade).trans ?_⟩
  · decide +kernel
  · decide +kernel
  · decide +kernel

end Books

end Gatekeeper.Sweep
