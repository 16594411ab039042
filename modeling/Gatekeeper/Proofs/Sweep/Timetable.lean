import Gatekeeper.Proofs.Sweep.Books
import Gatekeeper.Proofs.Sweep.Effect
import Gatekeeper.Sweep.Sweeper
import Mathlib.Logic.Function.Iterate

/-!
# `Gatekeeper.Proofs.Sweep.Timetable`: when a sweeper sweeps

Between two sweeps a sweeper waits for the tick of its timer and for the shutdown, and goes by the
one that is there first. `Takes` gives the courses that come of this, step by step and without a
bound on their number. Where both are there at once, it lets either be the first: only `Untied`
runs have one course.

Each tick is due at least one interval after the one before was due, which is the measure by which
a run ends. How long the sweeps take, and whether their calls fail, has no part in that.

* `takes_runFrom`: what `runFrom` finds is such a course, if it may follow enough sweeps.
* `Takes.start_next`, `Takes.stopped_eq`: no overlap, no burst, and when a run is over.
* `pass_run`: a sweep comes to its end whatever calls fail.
* `timetable_run`: the course of a sweeper.
-/

set_option autoImplicit false

namespace Gatekeeper.Sweep

open Gatekeeper.Ledger

/-! ### Waits -/

/-- A sweeper between two sweeps. -/
structure Waiting where
  /-- When the next sweep is due. -/
  due : Moment
  /-- When the sweep before has ended. -/
  free : Moment
  /-- How long the sweeps to come take; those past the end take no time. -/
  lasts : List Moment

namespace Waiting

/-- The first wait: a sweep is due at once. -/
def first (lasts : List Moment) : Waiting := ⟨0, 0, lasts⟩

/-- When the tick is there. -/
def tick (waiting : Waiting) : Moment := max waiting.due waiting.free

/-- When the shutdown is there. One that came during a sweep is found after it. -/
def shutdown (stop : Moment) (waiting : Waiting) : Moment := max stop waiting.free

/-- The wait after the sweep that the tick starts. -/
def swept (interval : Moment) (waiting : Waiting) : Waiting :=
  ⟨nextDue interval waiting.due waiting.tick, waiting.tick + waiting.lasts.headD 0,
    waiting.lasts.tail⟩

/-- In no wait of the run are the tick and the shutdown there at once. -/
def Untied (interval stop : Moment) (waiting : Waiting) : Prop :=
  ∀ n, (∀ k < n, ((swept interval)^[k] waiting).tick <
      ((swept interval)^[k] waiting).shutdown stop) →
    ((swept interval)^[n] waiting).tick ≠ ((swept interval)^[n] waiting).shutdown stop

variable {interval stop : Moment} {waiting : Waiting}

/-- The tick that a sweeper waits for and the shutdown are not there at once. -/
theorem Untied.ne (h : waiting.Untied interval stop) : waiting.tick ≠ waiting.shutdown stop :=
  h 0 nofun

/-- What follows the first wait is untied as well. -/
theorem Untied.swept (h : waiting.Untied interval stop)
    (hfirst : waiting.tick < waiting.shutdown stop) :
    (waiting.swept interval).Untied interval stop := by
  intro n hbefore
  rw [← Function.iterate_succ_apply]
  apply h (n + 1)
  intro k hk
  cases k with
  | zero => exact hfirst
  | succ k =>
    rw [Function.iterate_succ_apply]
    exact hbefore k (Nat.lt_of_succ_lt_succ hk)

/-- A tick that is there before the shutdown is there before the moment of the shutdown, because
what comes during a sweep is found after it. -/
theorem tick_lt_iff : waiting.tick < waiting.shutdown stop ↔ waiting.tick < stop := by
  unfold tick shutdown
  unfold Moment at *
  omega

/-- Likewise the shutdown is there by the tick just if its moment has come by then. -/
theorem shutdown_le_iff : waiting.shutdown stop ≤ waiting.tick ↔ stop ≤ waiting.tick := by
  rw [← Nat.not_lt, tick_lt_iff, Nat.not_lt]

/-- The next tick is due an interval after the one before was due, or later. -/
theorem due_swept (interval : Moment) (waiting : Waiting) :
    waiting.due + interval ≤ (waiting.swept interval).due := by
  show waiting.due + interval ≤ nextDue interval waiting.due waiting.tick
  have hdue : waiting.due ≤ waiting.tick := Nat.le_max_left ..
  unfold nextDue
  split
  · exact Nat.add_le_add_right hdue interval
  · exact Nat.le_refl _

/-- The next tick comes after the end of the sweep before. -/
theorem ended_le_tick (interval : Moment) (waiting : Waiting) :
    waiting.tick + waiting.lasts.headD 0 ≤ (waiting.swept interval).tick :=
  Nat.le_max_right ..

/-- It comes an interval after the start of the sweep before but for the permitted lateness: a
sweep that started later than that moved the due time. -/
theorem start_add_le_tick (interval : Moment) (waiting : Waiting) :
    waiting.tick + interval ≤ (waiting.swept interval).tick + lateness := by
  have hdue : nextDue interval waiting.due waiting.tick ≤ (waiting.swept interval).tick :=
    Nat.le_max_left ..
  have hlate : waiting.tick + interval ≤ nextDue interval waiting.due waiting.tick + lateness := by
    unfold nextDue
    split
    · exact Nat.le_add_right ..
    · unfold Moment at *
      omega
  exact Nat.le_trans hlate (Nat.add_le_add_right hdue lateness)

end Waiting

/-! ### Courses -/

/-- The courses that a sweeper can take from a wait on. -/
inductive Takes (interval stop : Moment) : Waiting → Course → Prop where
  | stops {waiting : Waiting} (first : waiting.shutdown stop ≤ waiting.tick) :
    Takes interval stop waiting ⟨[], waiting.shutdown stop⟩
  | sweeps {waiting : Waiting} {rest : Course} (first : waiting.tick ≤ waiting.shutdown stop)
      (after : Takes interval stop (waiting.swept interval) rest) :
    Takes interval stop waiting ⟨waiting.tick :: rest.starts, rest.stopped⟩

/-- Enough sweeps may be followed when one more would be due after the shutdown. -/
theorem takes_runFrom {interval stop : Moment} (hinterval : 0 < interval) {fuel : Nat}
    {waiting : Waiting} (hfuel : stop < waiting.due + fuel) :
    Takes interval stop waiting
      (runFrom interval stop fuel waiting.due waiting.free waiting.lasts) := by
  induction fuel generalizing waiting with
  | zero =>
    -- The next sweep is due after the shutdown already.
    have hstop : stop ≤ waiting.tick := Nat.le_trans (Nat.le_of_lt hfuel) (Nat.le_max_left ..)
    exact .stops (Waiting.shutdown_le_iff.mpr hstop)
  | succ fuel ih =>
    rw [runFrom]
    by_cases hstop : stop ≤ max waiting.due waiting.free
    · rw [if_pos hstop]
      exact .stops (Waiting.shutdown_le_iff.mpr hstop)
    · rw [if_neg hstop]
      have hrest : stop < (waiting.swept interval).due + fuel := by
        have hdue := waiting.due_swept interval
        unfold Moment at *
        omega
      have hfirst : waiting.tick < waiting.shutdown stop :=
        Waiting.tick_lt_iff.mpr (Nat.lt_of_not_le hstop)
      exact .sweeps (Nat.le_of_lt hfirst) (ih hrest)

namespace Takes

variable {interval stop : Moment} {waiting : Waiting} {course taken : Course}

/-- The first sweep starts with the tick. -/
theorem head?_eq (h : Takes interval stop waiting course) {start : Moment}
    (hstart : course.starts[0]? = some start) : start = waiting.tick := by
  cases h with
  | stops => cases hstart
  | sweeps => exact (Option.some.inj hstart).symm

/-- A tick that is there before the shutdown starts a sweep. -/
theorem first_start (h : Takes interval stop waiting course)
    (hfirst : waiting.tick < waiting.shutdown stop) : course.starts[0]? = some waiting.tick := by
  cases h with
  | stops first => exact absurd first (Nat.not_le_of_lt hfirst)
  | sweeps => rfl

/-- A sweep starts after the end of the one before, and an interval after its start but for the
permitted lateness. -/
theorem start_next (h : Takes interval stop waiting course) {i : Nat} {start next : Moment}
    (hstart : course.starts[i]? = some start) (hnext : course.starts[i + 1]? = some next) :
    start + waiting.lasts.getD i 0 ≤ next ∧ start + interval ≤ next + lateness := by
  induction h generalizing i with
  | stops => cases hstart
  | @sweeps waiting rest first after ih =>
    rw [List.getElem?_cons_succ] at hnext
    cases i with
    -- The first of the rest starts at the tick that follows the sweep just made.
    | zero =>
      cases hstart
      rw [after.head?_eq hnext]
      have hended := waiting.ended_le_tick interval
      rw [List.headD_eq_getD] at hended
      exact ⟨hended, waiting.start_add_le_tick interval⟩
    | succ i =>
      rw [List.getElem?_cons_succ] at hstart
      have hrest := ih hstart hnext
      rwa [Waiting.swept, List.getD_eq_getElem?_getD, List.getElem?_tail,
        ← List.getD_eq_getElem?_getD] at hrest

/-- A run is over at the shutdown, or when the sweep that is under way then has ended. -/
theorem stopped_eq (h : Takes interval stop waiting course) :
    (course.starts = [] → course.stopped = waiting.shutdown stop) ∧
      ∀ i start, course.starts.length = i + 1 → course.starts[i]? = some start →
        course.stopped = max stop (start + waiting.lasts.getD i 0) := by
  induction h with
  | stops => exact ⟨fun _ => rfl, fun i start hlength => nomatch hlength⟩
  | @sweeps waiting rest first after ih =>
    refine ⟨nofun, fun i start hlength hstart => ?_⟩
    rw [List.length_cons, Nat.add_right_cancel_iff] at hlength
    cases i with
    -- No sweep follows the last one, so the run waits for its end and for the shutdown.
    | zero =>
      cases hstart
      rw [ih.1 (List.eq_nil_of_length_eq_zero hlength), ← List.headD_eq_getD]
      rfl
    | succ i =>
      have hrest := ih.2 i start hlength hstart
      rwa [Waiting.swept, List.getD_eq_getElem?_getD, List.getElem?_tail,
        ← List.getD_eq_getElem?_getD] at hrest

/-- Without a tie no sweep starts at the shutdown or after it. -/
theorem start_lt (h : Takes interval stop waiting course) (huntied : waiting.Untied interval stop) :
    ∀ start ∈ course.starts, start < stop := by
  induction h with
  | stops => exact nofun
  | @sweeps waiting rest first after ih =>
    have hfirst : waiting.tick < waiting.shutdown stop := Nat.lt_of_le_of_ne first huntied.ne
    intro start hmem
    rcases List.mem_cons.mp hmem with rfl | hmem
    · exact Waiting.tick_lt_iff.mp hfirst
    · exact ih (huntied.swept hfirst) start hmem

/-- Without a tie there is one course. -/
theorem unique (h : Takes interval stop waiting course) (h' : Takes interval stop waiting taken)
    (huntied : waiting.Untied interval stop) : taken = course := by
  induction h generalizing taken with
  | @stops waiting first =>
    cases h' with
    | stops => rfl
    | sweeps first' => exact absurd (Nat.le_antisymm first' first) huntied.ne
  | @sweeps waiting rest first after ih =>
    cases h' with
    | stops first' => exact absurd (Nat.le_antisymm first first') huntied.ne
    | sweeps first' after' =>
      rw [ih after' (huntied.swept (Nat.lt_of_le_of_ne first huntied.ne))]

end Takes

/-! ### Whole runs -/

section
variable {rule : Rule} {lasts : List Moment} {stop : Moment}

/-- A sweep comes to its end, whatever calls fail. -/
theorem pass_run (conditions : Conditions) (bounds : Rule.Bounds) (ledger : Ledger) :
    (Progress.run conditions bounds maxPasses .start ledger).1.pass = .finished := by
  rw [Progress.run_start]

/-- Every sweep that is started is made and counted, whatever calls fail. -/
theorem foldlM_sweepAt? {silence : Duration} (hsilence : rule.staleAfter? = some silence)
    (conditions : Conditions) (clock : Moment → Timestamp) (starts : List Moment)
    (ledger : Ledger) (metrics : Metrics) :
    ∃ after counted,
      starts.foldlM (fun (state : Ledger × Metrics) start =>
        (sweepAt? rule conditions (clock start) state.1 state.2).map fun (_, after) => after)
        (ledger, metrics) = some (after, counted) ∧
      counted.get .sweeps = metrics.get .sweeps + starts.length := by
  induction starts generalizing ledger metrics with
  | nil => exact ⟨ledger, metrics, rfl, rfl⟩
  | cons start rest ih =>
    let swept := sweep conditions (boundsAt rule silence (clock start)) ledger
    obtain ⟨after, counted, hrest, hcount⟩ := ih swept.2 (swept.1.record metrics)
    refine ⟨after, counted, ?_, ?_⟩
    · rw [List.foldlM_cons, sweepAt?_eq hsilence]
      exact hrest
    · rw [hcount, Report.get_record, Report.credit_sweeps, List.length_cons]
      omega

/-- The course of a run is one that a sweeper can take. -/
theorem takes_runSweeps (hinterval : 0 < rule.interval.nanos) (lasts : List Moment)
    (stop : Moment) :
    Takes rule.interval.nanos stop (.first lasts) (runSweeps rule.interval lasts stop) := by
  have hfuel : stop < (Waiting.first lasts).due + (stop + 1) := by
    show stop < 0 + (stop + 1)
    rw [Nat.zero_add]
    exact Nat.lt_succ_self stop
  exact takes_runFrom hinterval hfuel

end

/-- **The course of a sweeper**, for any interval but none, however long its sweeps take and
whenever the shutdown comes, if the tick and the shutdown are never there at once.

* It is the one course that the timer and the shutdown allow.
* The first sweep starts at once. Each other one starts after the end of the one before, and an
  interval after its start but for the permitted lateness.
* No sweep starts at the shutdown or after it. The one that is under way then is the last, and the
  run is over when both have come, the shutdown and its end.
* Whatever calls fail, the course is the same, and every sweep that was started makes all its
  passes and is counted. -/
theorem timetable_run {rule : Rule} (hinterval : 0 < rule.interval.nanos) {lasts : List Moment}
    {stop : Moment} (huntied : (Waiting.first lasts).Untied rule.interval.nanos stop) :
    let course := runSweeps rule.interval lasts stop
    (∀ taken, Takes rule.interval.nanos stop (.first lasts) taken ↔ taken = course) ∧
      course.starts[0]? = some 0 ∧
      (∀ i start next, course.starts[i]? = some start → course.starts[i + 1]? = some next →
        start + lasts.getD i 0 ≤ next ∧ start + rule.interval.nanos ≤ next + lateness) ∧
      (∀ start ∈ course.starts, start < stop) ∧
      (∀ i start, course.starts.length = i + 1 → course.starts[i]? = some start →
        course.stopped = max stop (start + lasts.getD i 0)) ∧
      ∀ conditions clock ledger metrics silence, rule.staleAfter? = some silence →
        ∃ after counted,
          run? rule conditions clock lasts stop ledger metrics = some (course, after, counted) ∧
          counted.get .sweeps = metrics.get .sweeps + course.starts.length ∧
          ∀ bounds ledger, (Progress.run conditions bounds maxPasses .start ledger).1.pass =
            .finished := by
  intro course
  have htakes : Takes rule.interval.nanos stop (.first lasts) course :=
    takes_runSweeps hinterval lasts stop
  refine ⟨fun taken => ⟨fun h => htakes.unique h huntied, fun h => h ▸ htakes⟩, ?_,
    fun i start next hstart hnext => htakes.start_next hstart hnext, htakes.start_lt huntied,
    htakes.stopped_eq.2, ?_⟩
  · -- The first tick is there at once, so the shutdown is not.
    exact htakes.first_start (Nat.lt_of_le_of_ne (Nat.zero_le _) huntied.ne)
  · intro conditions clock ledger metrics silence hsilence
    obtain ⟨after, counted, hswept, hcount⟩ :=
      foldlM_sweepAt? hsilence conditions clock course.starts ledger metrics
    refine ⟨after, counted, ?_, hcount, pass_run conditions⟩
    rw [run?]
    dsimp only
    rw [hswept]
    rfl

/-- A slow first sweep moves the schedule: the second one starts when it has ended, and the third
one an interval after that. The shutdown comes while the third one is under way. -/
theorem timetable_run_of_slow :
    let rule : Rule := { Rule.standard with interval := .ofMillis 10 }
    let lasts : List Moment := [25000000, 0, 8000000]
    0 < rule.interval.nanos ∧ (Waiting.first lasts).Untied rule.interval.nanos 40000000 ∧
      ∀ conditions clock, ∃ after counted,
        run? rule conditions clock lasts 40000000 .empty .empty =
          some (⟨[0, 25000000, 35000000], 43000000⟩, after, counted) ∧
        counted.get .sweeps = 3 := by
  intro rule lasts
  -- No tick falls together with the shutdown: after the third sweep there is none before
  -- it.
  have huntied : (Waiting.first lasts).Untied rule.interval.nanos 40000000 := by
    intro n hbefore
    match n with
    | 0 => decide
    | 1 => decide
    | 2 => decide
    | 3 => decide
    | n + 4 => exact absurd (hbefore 3 (by omega)) (by decide)
  have hinterval : 0 < rule.interval.nanos := by decide
  have hsilence : rule.staleAfter? = some (.ofSeconds 90) :=
    show Rule.standard.staleAfter? = _ from rfl
  have hcourse : runSweeps rule.interval lasts 40000000 =
      ⟨[0, 25000000, 35000000], 43000000⟩ := by decide +kernel
  obtain ⟨-, -, -, -, -, hruns⟩ := timetable_run hinterval huntied
  refine ⟨hinterval, huntied, fun conditions clock => ?_⟩
  obtain ⟨after, counted, hrun, hcount, -⟩ :=
    hruns conditions clock .empty .empty _ hsilence
  rw [hcourse] at hrun hcount
  exact ⟨after, counted, hrun, hcount⟩

end Gatekeeper.Sweep
