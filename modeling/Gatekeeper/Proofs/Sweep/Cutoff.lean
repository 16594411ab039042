import Gatekeeper.Proofs.Sweep.Effect
import Gatekeeper.Proofs.Time.Clamp

/-!
# `Gatekeeper.Proofs.Sweep.Cutoff`: the bounds of a sweep are clamped exactly

A sweep compares records with two instants, each a span before the reading of the clock. Where
there is no such instant, the least one stands in for it, and no record is from before that. So a
sweep whose silence reaches back past the beginning retires nothing, and one whose retention does
removes nothing.

* `stale_least`, `retireConnections_least`, `purge_least`: with the least instant as its bound, a
  query finds nothing and an update does nothing.
* `sweep_of_cutoff_least`, `sweep_of_horizon_least`: nor does a sweep, whatever calls fail.
* `bounds_clamp`: how the bounds depend on the clock and the spans, and what the least one does.
* `bounds_not_monotone`: a later reading of the clock, and an earlier bound.
-/

set_option autoImplicit false

namespace Gatekeeper

open Gatekeeper.Ledger Gatekeeper.Sweep

/-! ### Nothing is from before the least instant -/

namespace Ledger

variable (ledger : Ledger)

/-- No instant is before the least one. -/
theorem not_lt_least (t : Timestamp) : ¬t < Timestamp.least := Timestamp.least_le t

/-- So no connection was last heard of before it. -/
theorem Connection.isStale_least (record : Connection) : record.isStale .least = false := by
  simp [isStale, not_lt_least]

/-- So the query finds none. -/
theorem stale_least : ledger.stale .least = [] := by
  have hnone : ledger.connections.values.filter (·.isStale .least) = [] := by
    rw [List.filter_eq_nil_iff]
    intro record _
    rw [record.isStale_least]
    exact Bool.false_ne_true
  rw [stale, hnone, List.map_nil, List.mergeSort_nil]

/-- So the update turns none inactive. -/
theorem retireConnections_least (ids : List String) :
    ledger.retireConnections .least ids = ([], ledger) := by
  induction ids with
  | nil => rfl
  | cons id rest ih =>
    rw [retireConnections]
    cases ledger.connections.find? id with
    | none => exact ih
    | some record =>
      dsimp only
      rw [record.isStale_least, if_neg Bool.false_ne_true]
      exact ih

/-- And no message was stored before it. -/
theorem purge_least : ledger.purge .least = (0, ledger) := by
  have hcount : ledger.poison.values.countP (·.createdAt < .least) = 0 := by
    rw [List.countP_eq_zero]
    intro message _
    simp [not_lt_least]
  have hkeep : ledger.messagesFrom .least = ledger := by
    have hfilter : ledger.poison.filter (fun _ message => decide (.least ≤ message.createdAt)) =
        ledger.poison := by
      apply Roster.filter_eq_self
      intro _ message _
      exact decide_eq_true (Timestamp.least_le _)
    rw [messagesFrom, hfilter]
  rw [purge_eq, hcount, hkeep]

/-- The orphans are looked for and retired among the children alone. -/
theorem snd_retireOrphans :
    ledger.retireOrphans.2 =
      ledger.mapChildren (·.liveUnder fun id => !decide (id ∈ ledger.inactiveIds)) := by
  rw [retireOrphans_eq_retireChildren, retireChildren_eq]

end Ledger

/-! ### Sweeps -/

namespace Sweep

variable (failing : Call → Option Ledger.Fault) (bounds : Rule.Bounds) (ledger : Ledger)

/-- From the least instant on, the chain of the first three calls finds nothing to work on. -/
theorem retireStale_least : retireStale (.failures failing) .least ledger =
    (if failing .findStale = none then .empty else Report.empty.fail .findStale, ledger) := by
  simp only [retireStale, callFindStale, guarded, Conditions.failures]
  cases failing .findStale with
  | some fault => rfl
  | none =>
    dsimp only
    rw [stale_least]
    rfl

/-- The last two calls leave what the report says of the first three. -/
theorem fst_finish (report : Report) :
    let after := (finish (.failures failing) bounds report ledger).1
    after.staleFound = report.staleFound ∧ after.retired = report.retired ∧
      after.cascaded = report.cascaded := by
  simp only [finish, repairOrphans, purgePoison, callDeactivateOrphans, callPurge, guarded,
    Conditions.failures]
  cases failing .deactivateOrphans <;> cases failing .purgePoison <;> exact ⟨rfl, rfl, rfl⟩

/-- The last two calls work on children and messages. -/
theorem connections_finish (report : Report) :
    (finish (.failures failing) bounds report ledger).2.connections = ledger.connections := by
  have hrepaired :
      (if failing .deactivateOrphans = none then ledger.retireOrphans.2 else ledger).connections =
        ledger.connections := by
    split
    · rw [snd_retireOrphans]
      rfl
    · rfl
  rw [snd_finish]
  dsimp only
  split
  · exact hrepaired
  · exact hrepaired

variable {bounds}

/-- A sweep with the least instant as its cutoff retires no connection. -/
theorem sweep_of_cutoff_least (h : bounds.cutoff = .least) :
    let (report, after) := sweep (.failures failing) bounds ledger
    report.staleFound = 0 ∧ report.retired = [] ∧ report.cascaded = .zero ∧
      after.connections = ledger.connections := by
  rw [sweep_eq, h, retireStale_least]
  -- The first calls have done nothing, and the last two leave the connections as they are.
  obtain ⟨hfound, hretired, hcascaded⟩ := fst_finish failing bounds ledger
    (if failing .findStale = none then .empty else Report.empty.fail .findStale)
  refine ⟨hfound.trans ?_, hretired.trans ?_, hcascaded.trans ?_, connections_finish ..⟩
  · split <;> rfl
  · split <;> rfl
  · split <;> rfl

/-- The first three calls say nothing of messages. -/
theorem purged_retireStale (conditions : Conditions) (cutoff : Timestamp) :
    (retireStale conditions cutoff ledger).1.purged = 0 := by
  unfold retireStale
  rcases ledger.callFindStale conditions cutoff with ⟨fault | stale, found⟩
  · rfl
  dsimp only
  split
  · rfl
  rcases found.callDeactivateConnections conditions stale cutoff with ⟨fault | retired, updated⟩
  · rfl
  dsimp only
  split
  · rfl
  rcases updated.callDeactivateChildren conditions retired with ⟨fault | counts, after⟩
  · rfl
  · rfl

/-- The first three calls work on connections and children. -/
theorem poison_retireStale (cutoff : Timestamp) :
    (retireStale (.failures failing) cutoff ledger).2.poison = ledger.poison := by
  have hretired : ∀ ids, (ledger.retireConnections cutoff ids).2.poison = ledger.poison := by
    intro ids
    rw [retireConnections_eq]
  rw [snd_retireStale]
  dsimp only
  split
  · split
    · rw [retireChildren_eq]
      exact hretired _
    · exact hretired _
  · rfl

/-- With the least instant as their horizon, the last two calls remove no message. -/
theorem finish_of_horizon_least (h : bounds.horizon = .least) {report : Report}
    (hreport : report.purged = 0) :
    (finish (.failures failing) bounds report ledger).1.purged = 0 ∧
      (finish (.failures failing) bounds report ledger).2.poison = ledger.poison := by
  have hrepaired : ledger.retireOrphans.2.poison = ledger.poison := by
    rw [snd_retireOrphans]
    rfl
  simp only [finish, repairOrphans, purgePoison, callDeactivateOrphans, callPurge, guarded,
    Conditions.failures, h, purge_least]
  -- Neither call touches messages, whichever of them fail.
  cases failing .deactivateOrphans with
  | some fault =>
    cases failing .purgePoison with
    | some fault => exact ⟨hreport, rfl⟩
    | none => exact ⟨rfl, rfl⟩
  | none =>
    cases failing .purgePoison with
    | some fault => exact ⟨hreport, hrepaired⟩
    | none => exact ⟨rfl, hrepaired⟩

/-- A sweep with the least instant as its horizon removes no message. -/
theorem sweep_of_horizon_least (h : bounds.horizon = .least) :
    let (report, after) := sweep (.failures failing) bounds ledger
    report.purged = 0 ∧ after.poison = ledger.poison := by
  rw [sweep_eq]
  have hreport := purged_retireStale ledger (.failures failing) bounds.cutoff
  obtain ⟨hpurged, hpoison⟩ := finish_of_horizon_least failing
    (retireStale (.failures failing) bounds.cutoff ledger).2 h hreport
  exact ⟨hpurged, hpoison.trans (poison_retireStale ..)⟩

/-! ### The bounds -/

/-- **The bounds of a sweep are clamped exactly**, at every reading of the clock and for every
span.

The instant a span earlier has exactly the span less elapsed, or is the least instant where that
would be earlier still; it lies inside a leap second only if the span does not lead out of the one
where it starts. Both ways to have no such instant, a span that is too long to go back by and a
result that does not exist, come only with an exact instant before the least one.

So the elapsed time grows with the clock and shrinks with the span. The reading shrinks with the
span too. It does not always grow with the clock: it does so from every start that is not inside a
leap second, and from a start that is, for all spans, if and only if no less time has elapsed at the
later one.

With the least instant as its bound, the query finds no connection stale, no connection is retired
and no message removed. A sweep whose silence, or whose retention, leads back to it or past it does
as little, whatever calls fail. -/
theorem bounds_clamp :
    (∀ (now : Timestamp) (span : Duration),
      (∀ bound, now.before span = bound ↔
        bound.elapsed = max (now.elapsed - span.nanos) Timestamp.least.elapsed ∧
          (1000000000 ≤ bound.nanos ↔ span.nanos + 1000000000 ≤ now.nanos)) ∧
      (Timestamp.shift? span = none → now.elapsed - span.nanos < Timestamp.least.elapsed) ∧
      (now.back? span.nanos = none ↔ now.elapsed - span.nanos < Timestamp.least.elapsed)) ∧
    (∀ (earlier later : Timestamp) (short long : Duration),
      earlier.elapsed ≤ later.elapsed → short.nanos ≤ long.nanos →
        (earlier.before long).elapsed ≤ (later.before short).elapsed) ∧
    (∀ (now : Timestamp) (short long : Duration), short.nanos ≤ long.nanos →
      now.before long ≤ now.before short) ∧
    (∀ earlier later : Timestamp,
      (∀ span, earlier.before span ≤ later.before span) ↔
        earlier ≤ later ∧ (1000000000 ≤ earlier.nanos → earlier.elapsed ≤ later.elapsed)) ∧
    (∀ ledger : Ledger, ledger.stale .least = [] ∧
      (∀ ids, ledger.retireConnections .least ids = ([], ledger)) ∧
      ledger.purge .least = (0, ledger)) ∧
    ∀ (rule : Rule) (silence : Duration), rule.staleAfter? = some silence →
      ∀ (failing : Call → Option Ledger.Fault) (now : Timestamp) (ledger : Ledger)
        (metrics : Metrics),
      ∃ report after, sweepAt? rule (.failures failing) now ledger metrics =
          some (report, after, report.record metrics) ∧
        (now.elapsed - silence.nanos ≤ Timestamp.least.elapsed →
          report.staleFound = 0 ∧ report.retired = [] ∧ report.cascaded = .zero ∧
            after.connections = ledger.connections) ∧
        (now.elapsed - rule.poisonRetention.nanos ≤ Timestamp.least.elapsed →
          report.purged = 0 ∧ after.poison = ledger.poison) := by
  refine ⟨fun now span => ⟨fun bound => ?_, fun hlong => ?_, ?_⟩, ?_, ?_, ?_, ?_, ?_⟩
  -- The first three are about the calendar alone.
  · exact Timestamp.before_eq_iff
  · exact Timestamp.elapsed_lt_of_shift? hlong now
  · exact Timestamp.back?_eq_none_iff
  · intro earlier later short long hstart hspan
    exact Timestamp.elapsed_before_le hstart hspan
  · intro now short long hspan
    exact now.before_le_of_le hspan
  · intro earlier later
    rw [Timestamp.before_le_before_iff]
    exact ⟨fun h => ⟨h.reads, h.leap⟩, fun ⟨hreads, hleap⟩ => ⟨hreads, hleap⟩⟩
  -- What the clamp means to the calls, and from there to a whole sweep.
  · intro ledger
    exact ⟨ledger.stale_least, ledger.retireConnections_least, ledger.purge_least⟩
  · intro rule silence hsilence failing now ledger metrics
    refine ⟨_, _, sweepAt?_eq hsilence (.failures failing) now ledger metrics, ?_, ?_⟩
    · intro hshort
      exact sweep_of_cutoff_least failing ledger (Timestamp.before_eq_least_iff.mpr hshort)
    · intro hshort
      exact sweep_of_horizon_least failing ledger (Timestamp.before_eq_least_iff.mpr hshort)

/-- A silence and a retention a millisecond too long to go back by, at the first instant of 1970,
with a connection and a message from the least one; beside it, half a leap second and a second. -/
theorem bounds_clamp_of_long_silence :
    let now : Timestamp := .epoch
    let leap : Timestamp := ⟨59, 1500000000, by decide, by decide, by decide, by decide⟩
    let short : Duration := .ofSeconds 1
    let long : Duration := .ofMillis 9223372036854775808
    let rule : Rule :=
      { Rule.standard with
        heartbeatInterval := long, gracePeriod := .zero, poisonRetention := long }
    let ledger := ((Ledger.empty.upsertConnection ⟨"a", .least, true⟩).insertPoison
      ⟨"m", "subject", [0], .least⟩).2
    (Timestamp.shift? long = none ∧ now.elapsed - long.nanos < Timestamp.least.elapsed) ∧
      ((now.elapsed ≤ leap.elapsed ∧ short.nanos ≤ long.nanos) ∧
        (now.before long).elapsed ≤ (leap.before short).elapsed) ∧
      leap.before long ≤ leap.before short ∧
      ∃ report after, sweepAt? rule (.failures fun _ => none) now ledger .empty =
          some (report, after, report.record .empty) ∧
        (report.retired = [] ∧ after.connections.find? "a" = some ⟨"a", .least, true⟩) ∧
        report.purged = 0 ∧ after.poison.find? "m" = some ⟨"m", "subject", [0], .least⟩ := by
  intro now leap short long rule ledger
  have hlong : Timestamp.shift? long = none := by decide
  have hstart : now.elapsed ≤ leap.elapsed := by decide
  have hspan : short.nanos ≤ long.nanos := by decide
  have hzero : ∀ span : Duration, span.add? .zero = some span := fun span => dif_pos span.nanos_lt
  have hsilence : rule.staleAfter? = some long := hzero long
  obtain ⟨hexact, hgrows, hshrinks, -, -, hsweep⟩ := bounds_clamp
  -- Too long to be a shift at all, so it leads past the least instant.
  have hpast := (hexact now long).2.1 hlong
  obtain ⟨report, after, hreport, hcutoff, hhorizon⟩ :=
    hsweep rule long hsilence (fun _ => none) now ledger .empty
  obtain ⟨-, hretired, -, hconnections⟩ := hcutoff (Int.le_of_lt hpast)
  obtain ⟨hpurged, hpoison⟩ := hhorizon (Int.le_of_lt hpast)
  refine ⟨⟨hlong, hpast⟩, ⟨⟨hstart, hspan⟩, hgrows now leap short long hstart hspan⟩,
    hshrinks leap short long hspan, report, after, hreport, ⟨hretired, ?_⟩, hpurged, ?_⟩
  · rw [hconnections]
    decide
  · rw [hpoison]
    decide

/-- The later of two readings with the earlier bound. In the leap second at the end of the first
minute, half a second more has elapsed than at the start of the second minute, which reads later. -/
theorem bounds_not_monotone :
    let leap : Timestamp := ⟨59, 1500000000, by decide, by decide, by decide, by decide⟩
    let next : Timestamp := ⟨60, 0, by decide, by decide, by decide, by decide⟩
    leap ≤ next ∧ ¬leap.before (.ofSeconds 1) ≤ next.before (.ofSeconds 1) := by
  decide

end Sweep

end Gatekeeper
