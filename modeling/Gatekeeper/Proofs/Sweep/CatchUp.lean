import Gatekeeper.Proofs.Sweep.Effect
import Gatekeeper.Proofs.Time.Clamp

/-!
# `Gatekeeper.Proofs.Sweep.CatchUp`: a sweep finishes what earlier ones left

A sweep may fail at any of its calls, and leaves the ledger half done: connections retired
with their children still live, messages removed with nothing else done. None of it is
lost. Whatever a sweep does by an earlier reading of the clock is a part of what a sweep
does by a later one.

`Underway` says so of two ledgers: the second lies on the way from the first to the ledger
that a later sweep leaves, because that sweep leaves the same from both. Each call of a
sweep goes a part of the way (`underway_retireStale`, `underway_finish`), so a sweep does
(`underway_sweep`), and by induction so does any number of them (`underway_attempts`).

"Later" is `Timestamp.NotBefore` throughout: a reading that is no less and, for a sweep inside a
leap second, no less time elapsed. The order of the readings would not do for such a sweep.

* `attempts?_caughtUp`: sweeps with any failures, followed by one without, leave what the
  last one alone would have left. So sweeps commute, and a repeated one does nothing.
* `leap_not_caughtUp`: the later reading alone does not make up for a sweep in a leap second.
* `caughtUp_iff_notBefore`: which pairs of readings are such that the second makes up for the first.
-/

set_option autoImplicit false

namespace Gatekeeper

open Gatekeeper.Ledger Gatekeeper.Sweep

namespace Ledger

variable {ledger : Ledger} {bounds : Rule.Bounds}

/-! ### The parts of a sweep, before a later sweep -/

/-- Retiring connections by an earlier cutoff changes nothing for a later one, by which they would
not live either. -/
theorem liveFrom_retireConnections {cutoff later : Timestamp} (h : cutoff ≤ later)
    (ids : List String) :
    (ledger.retireConnections cutoff ids).2.liveFrom later = ledger.liveFrom later := by
  rw [retireConnections_eq, liveFrom, liveFrom]
  congr 1
  rw [Roster.mapValues_mapValues]
  apply Roster.mapValues_congr
  intro id record _
  split
  · exact Connection.liveFrom_liveFrom h
  · rfl

/-- Retiring connections by an earlier cutoff. -/
theorem swept_retireConnections {cutoff : Timestamp} (h : cutoff ≤ bounds.cutoff)
    (ids : List String) :
    (ledger.retireConnections cutoff ids).2.swept bounds = ledger.swept bounds := by
  rw [swept, swept, liveFrom_retireConnections h]

/-- Children whose owners do not live may be retired first. -/
theorem followOwners_mapChildren {lives : String → Bool}
    (h : ∀ id, lives id = false → livesIn ledger.connections id = false) :
    (ledger.mapChildren (·.liveUnder lives)).followOwners = ledger.followOwners := by
  rw [followOwners, mapChildren_mapChildren, followOwners]
  congr 1
  funext child
  rw [Function.comp_apply, Child.liveUnder_liveUnder]
  congr 1
  funext id
  show (lives id && livesIn ledger.connections id) = livesIn ledger.connections id
  -- A child whose owner does not live ends up the same, retired first or not.
  cases hlives : lives id with
  | true => rfl
  | false =>
    rw [h id hlives]
    rfl

/-- A connection that does not live is not brought back. -/
theorem livesIn_liveFrom_of_livesIn (cutoff : Timestamp) {id : String}
    (h : livesIn ledger.connections id = false) :
    livesIn (ledger.liveFrom cutoff).connections id = false := by
  rw [livesIn, liveFrom, Roster.find?_mapValues]
  rw [livesIn] at h
  cases hfind : ledger.connections.find? id with
  | none => simp [hfind] at h
  | some record =>
    have hinactive : record.isActive = false := by simpa [hfind] using h
    simp [Connection.liveFrom, hinactive]

/-- Retiring children whose owners do not live. -/
theorem swept_mapChildren {lives : String → Bool}
    (h : ∀ id, lives id = false → livesIn ledger.connections id = false) :
    (ledger.mapChildren (·.liveUnder lives)).swept bounds = ledger.swept bounds := by
  show ((ledger.liveFrom bounds.cutoff).mapChildren
    (·.liveUnder lives)).followOwners.messagesFrom bounds.horizon = _
  rw [followOwners_mapChildren fun id hlives => livesIn_liveFrom_of_livesIn _ (h id hlives)]
  rfl

/-- Removing messages by an earlier horizon. -/
theorem swept_messagesFrom {horizon : Timestamp} (h : horizon ≤ bounds.horizon) :
    (ledger.messagesFrom horizon).swept bounds = ledger.swept bounds := by
  have hpoison : (ledger.messagesFrom horizon).messagesFrom bounds.horizon =
      ledger.messagesFrom bounds.horizon := by
    unfold messagesFrom
    congr 1
    rw [Roster.filter_filter]
    apply Roster.filter_congr
    intro id record _
    -- What the later horizon keeps, the earlier one keeps.
    by_cases hkeep : bounds.horizon ≤ record.createdAt
    · simp [hkeep, Timestamp.le_trans h hkeep]
    · simp [hkeep]
  show { (ledger.liveFrom bounds.cutoff).followOwners with
    poison := ((ledger.messagesFrom horizon).messagesFrom bounds.horizon).poison } = _
  rw [hpoison]
  rfl

/-! ### On the way -/

/-- The second ledger lies on the way from the first to what a sweep with these bounds
leaves: that sweep leaves the same from both. -/
structure Underway (bounds : Rule.Bounds) (ledger after : Ledger) : Prop where
  filed : after.Filed
  swept : after.swept bounds = ledger.swept bounds

/-- Nothing was done yet. -/
theorem underway_refl (hfiled : ledger.Filed) : Underway bounds ledger ledger := ⟨hfiled, rfl⟩

/-- Two parts of the way are one. -/
theorem Underway.trans {a b c : Ledger} (hab : Underway bounds a b) (hbc : Underway bounds b c) :
    Underway bounds a c := ⟨hbc.filed, hbc.swept.trans hab.swept⟩

/-- The update of all connections, by an earlier cutoff. -/
theorem underway_liveFrom (hfiled : ledger.Filed) {cutoff : Timestamp}
    (h : cutoff ≤ bounds.cutoff) : Underway bounds ledger (ledger.liveFrom cutoff) := by
  have hretire :
      (ledger.retireConnections cutoff (ledger.stale cutoff)).2 = ledger.liveFrom cutoff :=
    congrArg Prod.snd (retireConnections_stale hfiled cutoff)
  refine ⟨filed_liveFrom hfiled cutoff, ?_⟩
  rw [← hretire]
  exact swept_retireConnections h (ledger.stale cutoff)

/-- The children of connections that do not live. -/
theorem underway_retireChildren (hfiled : ledger.Filed) {owners : List String}
    (h : ∀ id ∈ owners, livesIn ledger.connections id = false) :
    Underway bounds ledger (ledger.retireChildren owners).2 := by
  refine ⟨hfiled.retireChildren owners, ?_⟩
  rw [retireChildren_eq]
  apply swept_mapChildren
  intro id hlives
  exact h id (by simpa using hlives)

/-- The repair of orphans, whose owners do not live. -/
theorem underway_retireOrphans (hfiled : ledger.Filed) :
    Underway bounds ledger ledger.retireOrphans.2 := by
  refine ⟨hfiled.retireOrphans, ?_⟩
  rw [retireOrphans_eq hfiled]
  exact swept_mapChildren fun id hlives => hlives

/-- The removal of messages, by an earlier horizon. -/
theorem underway_purge (hfiled : ledger.Filed) {horizon : Timestamp}
    (h : horizon ≤ bounds.horizon) : Underway bounds ledger (ledger.purge horizon).2 := by
  refine ⟨hfiled.purge horizon, ?_⟩
  rw [purge_eq]
  exact swept_messagesFrom h

/-! ### Two sweeps -/

/-- Two cutoffs may be applied in either order: a connection lives by both if it lives by each. -/
theorem liveFrom_comm (ledger : Ledger) (a b : Timestamp) :
    (ledger.liveFrom a).liveFrom b = (ledger.liveFrom b).liveFrom a := by
  have hrecord : ∀ record : Connection,
      (record.liveFrom a).liveFrom b = (record.liveFrom b).liveFrom a := by
    rintro ⟨id, last, isActive⟩
    show Connection.mk id last (isActive && decide (a ≤ last) && decide (b ≤ last)) =
      Connection.mk id last (isActive && decide (b ≤ last) && decide (a ≤ last))
    rw [Bool.and_right_comm]
  simp only [liveFrom, Roster.mapValues_mapValues, hrecord]

/-- Two horizons may be applied in either order. -/
theorem messagesFrom_comm (ledger : Ledger) (a b : Timestamp) :
    (ledger.messagesFrom a).messagesFrom b = (ledger.messagesFrom b).messagesFrom a := by
  simp only [messagesFrom, Roster.filter_filter, Bool.and_comm]

/-- Of two sweeps the children follow the owners that both leave. -/
theorem swept_swept (ledger : Ledger) (a b : Rule.Bounds) :
    (ledger.swept a).swept b =
      (((ledger.liveFrom a.cutoff).liveFrom b.cutoff).followOwners.messagesFrom
        a.horizon).messagesFrom b.horizon := by
  show ((((ledger.liveFrom a.cutoff).liveFrom b.cutoff).mapChildren (·.liveUnder
    (livesIn (ledger.liveFrom a.cutoff).connections))).followOwners.messagesFrom
      a.horizon).messagesFrom b.horizon = _
  rw [followOwners_mapChildren fun id hlives => livesIn_liveFrom_of_livesIn _ hlives]

/-- Two sweeps come to the same in either order. -/
theorem swept_comm (ledger : Ledger) (a b : Rule.Bounds) :
    (ledger.swept a).swept b = (ledger.swept b).swept a := by
  rw [swept_swept, swept_swept, liveFrom_comm, messagesFrom_comm]

/-- A sweep leaves no stale connection. -/
theorem stale_swept (hfiled : (ledger.swept bounds).Filed) :
    (ledger.swept bounds).stale bounds.cutoff = [] := by
  rw [List.eq_nil_iff_forall_not_mem]
  intro id hmem
  obtain ⟨record, hfind, hstale⟩ := (mem_stale_iff hfiled).mp hmem
  have hold : (ledger.connections.find? id).map (·.liveFrom bounds.cutoff) = some record :=
    (Roster.find?_mapValues ..).symm.trans hfind
  obtain ⟨old, -, rfl⟩ := Option.map_eq_some_iff.mp hold
  obtain ⟨hactive, hlast⟩ := Connection.isStale_iff.mp hstale
  rw [Connection.liveFrom, Bool.and_eq_true, decide_eq_true_iff] at hactive
  exact hactive.2 hlast

/-- No live child is left whose owner does not live. -/
theorem countChildren_followOwners (ledger : Ledger) :
    (ledger.followOwners.countChildren fun child =>
      child.isActive && !livesIn ledger.connections child.connection) = .zero := by
  have hnone : ∀ child : Child, (child.isActive && livesIn ledger.connections child.connection &&
      !livesIn ledger.connections child.connection) = false := by
    intro child
    cases livesIn ledger.connections child.connection <;> simp
  rw [followOwners, countChildren_mapChildren]
  simp only [countChildren, Child.liveUnder, Function.comp_def, hnone, List.countP_false]
  rfl

/-- No message is left from before the horizon. -/
theorem countP_messagesFrom (ledger : Ledger) (horizon : Timestamp) :
    (ledger.messagesFrom horizon).poison.values.countP (·.createdAt < horizon) = 0 := by
  rw [List.countP_eq_zero]
  intro record hmem
  obtain ⟨id, hentry⟩ := Roster.mem_values_iff.mp hmem
  have hkeep : decide (horizon ≤ record.createdAt) = true := (List.mem_filter.mp hentry).2
  rw [decide_eq_true_iff] at hkeep ⊢
  exact hkeep

/-- A sweep leaves nothing that the next one by the same bounds would report. -/
theorem sweepReport_swept (hfiled : (ledger.swept bounds).Filed) :
    (ledger.swept bounds).sweepReport bounds = .empty := by
  have hcascaded : (ledger.swept bounds).countChildren (·.isOwned []) = .zero := by
    simp [countChildren, Child.isOwned, ChildCounts.zero]
  have hrepaired : (ledger.swept bounds).countChildren (fun child => child.isActive &&
      !livesIn (ledger.swept bounds).connections child.connection) = .zero :=
    countChildren_followOwners (ledger.liveFrom bounds.cutoff)
  have hpurged : (ledger.swept bounds).poison.values.countP (·.createdAt < bounds.horizon) = 0 :=
    countP_messagesFrom (ledger.liveFrom bounds.cutoff).followOwners bounds.horizon
  rw [sweepReport, stale_swept hfiled, hcascaded, hrepaired, hpurged]
  rfl

end Ledger

namespace Sweep

variable {ledger : Ledger} {bounds : Rule.Bounds}

/-! ### Sweeps that fail -/

/-- The first three calls, with any of them failing. What the third one retires belongs to
connections that the second one retired. -/
theorem underway_retireStale (failing : Call → Option Ledger.Fault) (hfiled : ledger.Filed)
    {cutoff : Timestamp} (h : cutoff ≤ bounds.cutoff) :
    Underway bounds ledger (retireStale (.failures failing) cutoff ledger).2 := by
  have hretire := retireConnections_stale hfiled cutoff
  have hconnections : Underway bounds ledger (ledger.liveFrom cutoff) := underway_liveFrom hfiled h
  have hchildren : Underway bounds (ledger.liveFrom cutoff)
      ((ledger.liveFrom cutoff).retireChildren (ledger.stale cutoff)).2 := by
    apply underway_retireChildren (filed_liveFrom hfiled cutoff)
    intro id hmem
    rw [livesIn_liveFrom hfiled, decide_eq_true hmem]
    exact Bool.and_false _
  rw [snd_retireStale, hretire]
  dsimp only
  split
  · split
    · exact hconnections.trans hchildren
    · exact hconnections
  · exact underway_refl hfiled

/-- The last two calls, with any of them failing. -/
theorem underway_finish (failing : Call → Option Ledger.Fault) (hfiled : ledger.Filed)
    {earlier : Rule.Bounds} (h : earlier.horizon ≤ bounds.horizon) (report : Report) :
    Underway bounds ledger (finish (.failures failing) earlier report ledger).2 := by
  have hrepaired : Underway bounds ledger
      (if failing .deactivateOrphans = none then ledger.retireOrphans.2 else ledger) := by
    split
    · exact underway_retireOrphans hfiled
    · exact underway_refl hfiled
  rw [snd_finish]
  dsimp only
  split
  · exact hrepaired.trans (underway_purge hrepaired.filed h)
  · exact hrepaired

/-- A sweep with any failing calls goes a part of the way of a later sweep. -/
theorem underway_sweep (failing : Call → Option Ledger.Fault) (hfiled : ledger.Filed)
    {earlier : Rule.Bounds} (hcutoff : earlier.cutoff ≤ bounds.cutoff)
    (hhorizon : earlier.horizon ≤ bounds.horizon) :
    Underway bounds ledger (sweep (.failures failing) earlier ledger).2 := by
  have hstale : Underway bounds ledger (retireStale (.failures failing) earlier.cutoff ledger).2 :=
    underway_retireStale failing hfiled hcutoff
  rw [sweep_eq]
  exact hstale.trans (underway_finish failing hstale.filed hhorizon _)

/-- A clean sweep goes all the way. -/
theorem underway_swept (hfiled : ledger.Filed) (bounds : Rule.Bounds) :
    Underway bounds ledger (ledger.swept bounds) := by
  have hsweep : Underway bounds ledger (sweep .calm bounds ledger).2 :=
    underway_sweep (fun _ => none) hfiled (Timestamp.le_refl _) (Timestamp.le_refl _)
  rwa [sweep_calm hfiled] at hsweep

/-! ### Several sweeps -/

/-- A sweep at a reading of the clock, and the calls that fail in it. -/
structure Attempt where
  now : Timestamp
  failing : Call → Option Ledger.Fault

/-- A sweep in which no call fails. -/
def Attempt.clean (now : Timestamp) : Attempt := ⟨now, fun _ => none⟩

/-- Sweeps one after another, with nobody in between. -/
def attempts? (rule : Rule) (attempts : List Attempt) (state : Ledger × Metrics) :
    Option (Ledger × Metrics) :=
  attempts.foldlM (fun state attempt =>
    (sweepAt? rule (.failures attempt.failing) attempt.now state.1 state.2).map (·.2)) state

/-- The ledger after them. -/
def ledgerAfter? (rule : Rule) (attempts : List Attempt) (ledger : Ledger) (metrics : Metrics) :
    Option Ledger :=
  (attempts? rule attempts (ledger, metrics)).map Prod.fst

/-- Sweeps may be made in two parts: the second goes on from what the first one left. -/
theorem ledgerAfter?_append (rule : Rule) (attempts rest : List Attempt) (ledger : Ledger)
    (metrics : Metrics) :
    ledgerAfter? rule (attempts ++ rest) ledger metrics =
      (attempts? rule attempts (ledger, metrics)).bind fun (after, metrics) =>
        ledgerAfter? rule rest after metrics := by
  rw [ledgerAfter?, attempts?, List.foldlM_append]
  show Option.map Prod.fst (Option.bind (attempts? rule attempts (ledger, metrics)) _) = _
  rw [Option.map_bind]
  rfl

section
variable {rule : Rule} {silence : Duration} (hsilence : rule.staleAfter? = some silence)
include hsilence

/-- The first of several sweeps, and the others from what it left. -/
theorem attempts?_cons (attempt : Attempt) (rest : List Attempt) (ledger : Ledger)
    (metrics : Metrics) :
    attempts? rule (attempt :: rest) (ledger, metrics) =
      attempts? rule rest
        ((sweep (.failures attempt.failing) (boundsAt rule silence attempt.now) ledger).2,
          (sweep (.failures attempt.failing) (boundsAt rule silence attempt.now) ledger).1.record
            metrics) := by
  rw [attempts?, List.foldlM_cons, sweepAt?_eq hsilence]
  rfl

/-- A clean sweep, and then some others. -/
theorem ledgerAfter?_clean (hfiled : ledger.Filed) (now : Timestamp) (rest : List Attempt)
    (metrics : Metrics) :
    ledgerAfter? rule (.clean now :: rest) ledger metrics =
      ledgerAfter? rule rest (ledger.swept (boundsAt rule silence now))
        ((ledger.sweepReport (boundsAt rule silence now)).record metrics) := by
  have hsweep : sweep (.failures fun _ => none) (boundsAt rule silence now) ledger = _ :=
    sweep_calm hfiled (boundsAt rule silence now)
  rw [ledgerAfter?, attempts?_cons hsilence, Attempt.clean, hsweep]
  rfl

/-- Two clean sweeps. -/
theorem ledgerAfter?_pair (hfiled : ledger.Filed) (first second : Timestamp) (metrics : Metrics) :
    ledgerAfter? rule [.clean first, .clean second] ledger metrics =
      some ((ledger.swept (boundsAt rule silence first)).swept (boundsAt rule silence second)) := by
  have hswept := (underway_swept hfiled (boundsAt rule silence first)).filed
  rw [ledgerAfter?_clean hsilence hfiled, ledgerAfter?_clean hsilence hswept]
  rfl

/-- Any number of sweeps goes a part of the way of one by later bounds. The induction is on
the sweeps, from any ledger. -/
theorem underway_attempts (hfiled : ledger.Filed) (bounds : Rule.Bounds) {attempts : List Attempt}
    (h : ∀ attempt ∈ attempts, attempt.now.before silence ≤ bounds.cutoff ∧
      attempt.now.before rule.poisonRetention ≤ bounds.horizon) (metrics : Metrics) :
    ∃ after metrics', attempts? rule attempts (ledger, metrics) = some (after, metrics') ∧
      Underway bounds ledger after := by
  induction attempts generalizing ledger metrics with
  | nil => exact ⟨ledger, metrics, rfl, underway_refl hfiled⟩
  | cons attempt rest ih =>
    obtain ⟨hcutoff, hhorizon⟩ := h attempt List.mem_cons_self
    have hfirst : Underway bounds ledger (sweep (.failures attempt.failing)
        (boundsAt rule silence attempt.now) ledger).2 :=
      underway_sweep attempt.failing hfiled hcutoff hhorizon
    rw [attempts?_cons hsilence]
    obtain ⟨after, metrics', hrun, hrest⟩ :=
      ih hfirst.filed (fun other hmem => h other (List.mem_cons_of_mem _ hmem)) _
    exact ⟨after, metrics', hrun, hfirst.trans hrest⟩

/-- Any number of sweeps, and a clean one that is not before any of them. -/
theorem ledgerAfter?_append_clean (hfiled : ledger.Filed) {attempts : List Attempt}
    {now : Timestamp} (hnow : ∀ attempt ∈ attempts, now.NotBefore attempt.now)
    (metrics : Metrics) :
    ledgerAfter? rule (attempts ++ [.clean now]) ledger metrics =
      some (ledger.swept (boundsAt rule silence now)) := by
  obtain ⟨before, metrics', hrun, hunderway⟩ :=
    underway_attempts hsilence hfiled (boundsAt rule silence now) (fun attempt hmem =>
      ⟨Timestamp.before_le_before (hnow attempt hmem) silence,
        Timestamp.before_le_before (hnow attempt hmem) rule.poisonRetention⟩) metrics
  -- The last sweep leaves the same from where the others stopped as from the start.
  rw [← hunderway.swept, ledgerAfter?_append, hrun]
  exact ledgerAfter?_clean hsilence hunderway.filed now [] metrics'

/-- Of two clean sweeps, the second one does if it is not before the first. -/
theorem ledgerAfter?_pair_of_notBefore (hfiled : ledger.Filed) {first second : Timestamp}
    (h : second.NotBefore first) (metrics : Metrics) :
    ledgerAfter? rule [.clean first, .clean second] ledger metrics =
      some (ledger.swept (boundsAt rule silence second)) := by
  have hlater : ∀ attempt ∈ [Attempt.clean first], second.NotBefore attempt.now := by
    intro attempt hmem
    cases List.mem_singleton.mp hmem
    exact h
  exact ledgerAfter?_append_clean hsilence hfiled hlater metrics

end

/-- **Failed sweeps are fully caught up.** After any sweeps, at any readings of the clock and
with any calls failing in each, a sweep without a failure leaves the ledger that it alone
would have left, record for record, if its reading is not before any of theirs and, for those
of them inside a leap second, no less time has elapsed at it. Where no sweep was in a leap second,
the readings decide (`Timestamp.notBefore_iff_le`); a sweep that was takes the second condition.

So two clean sweeps come to the same in either order, and to the later one alone; and a
repeated one has nothing to report and changes nothing. -/
theorem attempts?_caughtUp {rule : Rule} {silence : Duration}
    (hsilence : rule.staleAfter? = some silence) {ledger : Ledger} (hfiled : ledger.Filed)
    (metrics : Metrics) :
    (∀ attempts now, (∀ attempt ∈ attempts, now.NotBefore attempt.now) →
      ∃ after, ledgerAfter? rule (attempts ++ [.clean now]) ledger metrics = some after ∧
        ledgerAfter? rule [.clean now] ledger metrics = some after) ∧
    (∀ a b, ledgerAfter? rule [.clean a, .clean b] ledger metrics =
      ledgerAfter? rule [.clean b, .clean a] ledger metrics) ∧
    (∀ a b, b.NotBefore a → ∃ after,
      ledgerAfter? rule [.clean a, .clean b] ledger metrics = some after ∧
      ledgerAfter? rule [.clean b] ledger metrics = some after) ∧
    (∀ now, ∃ report after metrics',
      sweepAt? rule .calm now ledger metrics = some (report, after, metrics') ∧
      sweepAt? rule .calm now after metrics' =
        some (.empty, after, Report.empty.record metrics')) := by
  refine ⟨fun attempts now hnow => ?_, fun a b => ?_, fun a b hab => ?_, fun now => ?_⟩
  · exact ⟨_, ledgerAfter?_append_clean hsilence hfiled hnow metrics,
      ledgerAfter?_clean hsilence hfiled now [] metrics⟩
  · rw [ledgerAfter?_pair hsilence hfiled, ledgerAfter?_pair hsilence hfiled]
    exact congrArg some (swept_comm ledger _ _)
  · exact ⟨_, ledgerAfter?_pair_of_notBefore hsilence hfiled hab metrics,
      ledgerAfter?_clean hsilence hfiled b [] metrics⟩
  · have hswept := underway_swept hfiled (boundsAt rule silence now)
    refine ⟨_, _, _, sweepAt?_eq hsilence .calm now ledger metrics, ?_⟩
    rw [sweepAt?_eq hsilence, sweep_calm hfiled, sweep_calm hswept.filed,
      sweepReport_swept hswept.filed, hswept.swept]

/-- A sweep that retires a connection and loses the children, and a clean one a second
later. -/
theorem attempts?_caughtUp_of_lost_children :
    let ledger := ((Ledger.empty.upsertConnection ⟨"a", .epoch, true⟩).insertProducer
      ⟨"p", "a", true⟩).2
    let lossy : Attempt :=
      ⟨⟨100, 0, by decide, by decide, by decide, by decide⟩, fun call =>
        if call = .deactivateChildren ∨ call = .deactivateOrphans then some (.unexpected "down")
        else none⟩
    let now : Timestamp := ⟨101, 0, by decide, by decide, by decide, by decide⟩
    ∃ after, ledgerAfter? .standard [lossy, .clean now] ledger .empty = some after ∧
      ledgerAfter? .standard [.clean now] ledger .empty = some after := by
  intro ledger lossy now
  have hsilence : Rule.standard.staleAfter? = some (.ofSeconds 90) := rfl
  have hfiled : ledger.Filed := (filed_empty.upsertConnection _).insertProducer _
  refine (attempts?_caughtUp hsilence hfiled .empty).1 [lossy] now fun attempt hmem => ?_
  cases List.mem_singleton.mp hmem
  exact (Timestamp.notBefore_iff_le (by decide)).mpr (by decide)

/-- The readings alone do not decide. A sweep in the leap second at the end of the first minute,
by a silence of a second, retires a connection that a sweep at the start of the second minute lets
live: its reading is the earlier one, but half a second more has elapsed. -/
theorem leap_not_caughtUp :
    let rule : Rule :=
      { Rule.standard with heartbeatInterval := .ofSeconds 1, gracePeriod := .zero }
    let heard : Timestamp := ⟨59, 200000000, by decide, by decide, by decide, by decide⟩
    let leap : Timestamp := ⟨59, 1500000000, by decide, by decide, by decide, by decide⟩
    let next : Timestamp := ⟨60, 0, by decide, by decide, by decide, by decide⟩
    let ledger := Ledger.empty.upsertConnection ⟨"a", heard, true⟩
    (rule.staleAfter? = some (.ofSeconds 1) ∧ leap ≤ next) ∧
      ∃ both alone, ledgerAfter? rule [.clean leap, .clean next] ledger .empty = some both ∧
        ledgerAfter? rule [.clean next] ledger .empty = some alone ∧
        both.connections.find? "a" = some ⟨"a", heard, false⟩ ∧
        alone.connections.find? "a" = some ⟨"a", heard, true⟩ := by
  intro rule heard leap next ledger
  have hsilence : rule.staleAfter? = some (.ofSeconds 1) := by decide
  have hfiled : ledger.Filed := filed_empty.upsertConnection _
  exact ⟨⟨hsilence, by decide⟩, _, _, ledgerAfter?_pair hsilence hfiled leap next .empty,
    ledgerAfter?_clean hsilence hfiled next [] .empty, by decide, by decide⟩

/-- One reading makes up for another, by every rule and on every ledger, just if it is not before
it. So what `attempts?_caughtUp` asks of the readings is no more than it takes. -/
theorem caughtUp_iff_notBefore {earlier now : Timestamp} :
    (∀ (rule : Rule) (silence : Duration), rule.staleAfter? = some silence →
      ∀ ledger : Ledger, ledger.Filed →
        ledgerAfter? rule [.clean earlier, .clean now] ledger .empty =
          ledgerAfter? rule [.clean now] ledger .empty) ↔ now.NotBefore earlier := by
  constructor
  · intro h
    rw [← Timestamp.before_le_before_iff]
    intro span
    -- A connection that was last heard of just when the later sweep draws the line.
    let rule : Rule := { Rule.standard with heartbeatInterval := span, gracePeriod := .zero }
    let record : Connection := ⟨"a", now.before span, true⟩
    let ledger := Ledger.empty.upsertConnection record
    have hsilence : rule.staleAfter? = some span := dif_pos span.nanos_lt
    have hfiled : ledger.Filed := filed_empty.upsertConnection _
    have hboth := h rule span hsilence ledger hfiled
    rw [ledgerAfter?_pair hsilence hfiled, ledgerAfter?_clean hsilence hfiled] at hboth
    have hrecord : some ((record.liveFrom (earlier.before span)).liveFrom (now.before span)) =
        some (record.liveFrom (now.before span)) :=
      congrArg (fun after => after.connections.find? "a") (Option.some.inj hboth)
    have hactive := congrArg Connection.isActive (Option.some.inj hrecord)
    simpa [record, Connection.liveFrom, Timestamp.le_refl] using hactive
  · intro h rule silence hsilence ledger hfiled
    exact (ledgerAfter?_pair_of_notBefore hsilence hfiled h .empty).trans
      (ledgerAfter?_clean hsilence hfiled now [] .empty).symm

end Sweep

end Gatekeeper
