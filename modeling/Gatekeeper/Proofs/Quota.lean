import Gatekeeper.Quota
import Mathlib.Data.List.Induction

/-!
# `Gatekeeper.Proofs.Quota`: how much a quota lets through

Any number of callers share a quota, each reads the clock before it gets the lock, and the
clock may step back. So a run is any sequence of calls with any readings. `Usage` is a quota
in use: beside the quota stands the log of what its calls did, the latest first.

A window lasts until a call reads the clock past its end, and that call opens the next one.
Hence the start of the window never moves back, whatever the readings do, and every window
starts at least its length after the one before.

* `verdict_allow`: the three things that a call can come to; all about runs is read off it.
* `Sound`, `Spanned`: what the quota has to do with its log, and where the calls of a span of
  time are; one call keeps both, and so does a run.
* `Balances`: refused calls are either still counted or were told.
* `admissions_run`: the bound on the calls let through, and which calls are refused.
-/

set_option autoImplicit false

namespace Gatekeeper.Quota

/-! ### One call -/

/-- What a call did. -/
inductive Entry where
  /-- A window was opened. -/
  | opened (at_ : Moment)
  | admitted (reading : Moment)
  | refused (reading : Moment)
  /-- The number of refused calls was read and cleared. -/
  | told (count : UInt64)
  deriving DecidableEq, Repr

/-- What a call at a reading of the clock does, the latest first. -/
def entries (quota : Quota) (now : Moment) : List Entry :=
  let answer := if (quota.allow now).1 then Entry.admitted now else .refused now
  if quota.openedAt + quota.window.nanos ≤ now then [answer, .opened now] else [answer]

/-- The three things that a call can come to: its answer, what it does, and the quota after
it. -/
inductive Verdict (quota : Quota) (now : Moment) : Bool → List Entry → Quota → Prop where
  /-- The window is over. The call opens the next one and is the first in it. -/
  | opened {after : Quota} (ended : quota.openedAt + quota.window.nanos ≤ now)
      (openedAt : after.openedAt = now) (allowed : after.allowed.toNat = 1)
      (blocked : after.blocked = quota.blocked) :
    Verdict quota now true [.admitted now, .opened now] after
  /-- There is room in the window. -/
  | admitted {after : Quota} (within : now < quota.openedAt + quota.window.nanos)
      (room : quota.allowed.toNat < quota.capacity.toNat)
      (openedAt : after.openedAt = quota.openedAt)
      (allowed : after.allowed.toNat = quota.allowed.toNat + 1)
      (blocked : after.blocked = quota.blocked) :
    Verdict quota now true [.admitted now] after
  /-- The window is full. -/
  | refused {after : Quota} (within : now < quota.openedAt + quota.window.nanos)
      (full : quota.allowed.toNat = quota.capacity.toNat)
      (openedAt : after.openedAt = quota.openedAt)
      (allowed : after.allowed.toNat = quota.allowed.toNat)
      (blocked : after.blocked = quota.blocked + 1) :
    Verdict quota now false [.refused now] after

/-- A window that is over is rolled over: the next one begins now, with nothing admitted in it. -/
theorem roll_of_le {quota : Quota} {now : Moment}
    (h : quota.openedAt + quota.window.nanos ≤ now) :
    (quota.roll now).openedAt = now ∧ (quota.roll now).allowed = 0 := by
  rw [roll, if_pos (Nat.le_sub_of_add_le' h)]
  exact ⟨rfl, rfl⟩

/-- A window that is not over stays. -/
theorem roll_of_lt {quota : Quota} {now : Moment}
    (h : now < quota.openedAt + quota.window.nanos) : quota.roll now = quota := by
  have hpos := quota.window_pos
  rw [roll, if_neg]
  unfold Moment at *
  omega

/-- Rolling over keeps the capacity. -/
@[simp] theorem capacity_roll (quota : Quota) (now : Moment) :
    (quota.roll now).capacity = quota.capacity := by
  unfold roll
  split <;> rfl

/-- Rolling over keeps the length of the windows. -/
@[simp] theorem window_roll (quota : Quota) (now : Moment) :
    (quota.roll now).window = quota.window := by
  unfold roll
  split <;> rfl

/-- Rolling over keeps the count of refused calls, which outlives the window. -/
@[simp] theorem blocked_roll (quota : Quota) (now : Moment) :
    (quota.roll now).blocked = quota.blocked := by
  unfold roll
  split <;> rfl

/-- A call keeps the capacity. -/
@[simp] theorem capacity_allow (quota : Quota) (now : Moment) :
    (quota.allow now).2.capacity = quota.capacity := by
  unfold allow
  dsimp only
  split <;> exact capacity_roll ..

/-- A call keeps the length of the windows. -/
@[simp] theorem window_allow (quota : Quota) (now : Moment) :
    (quota.allow now).2.window = quota.window := by
  unfold allow
  dsimp only
  split <;> exact window_roll ..

/-- A call opens no window but by rolling over. -/
@[simp] theorem openedAt_allow (quota : Quota) (now : Moment) :
    (quota.allow now).2.openedAt = (quota.roll now).openedAt := by
  unfold allow
  dsimp only
  split <;> rfl

/-- A call is admitted and counted, or refused and counted. The count of the admitted calls
has room for one more, because it is below the capacity. -/
theorem allow_cases (quota : Quota) (now : Moment) :
    ((quota.allow now).1 = true ∧
      (quota.roll now).allowed.toNat < quota.capacity.toNat ∧
      (quota.allow now).2.allowed.toNat = (quota.roll now).allowed.toNat + 1 ∧
      (quota.allow now).2.blocked = quota.blocked) ∨
    ((quota.allow now).1 = false ∧
      (quota.roll now).allowed.toNat = quota.capacity.toNat ∧
      (quota.allow now).2.allowed.toNat = (quota.roll now).allowed.toNat ∧
      (quota.allow now).2.blocked = quota.blocked + 1) := by
  have hle := UInt64.le_iff_toNat_le.1 (quota.roll now).allowed_le
  rw [capacity_roll] at hle
  unfold allow
  dsimp only
  split
  next hroom =>
    rw [UInt64.lt_iff_toNat_lt, capacity_roll] at hroom
    refine .inl ⟨rfl, hroom, ?_, blocked_roll ..⟩
    -- Below a capacity that fits, one more fits as well.
    have hbound := quota.capacity.toNat_lt
    rw [UInt64.toNat_add, UInt64.toNat_one]
    omega
  next hfull =>
    rw [UInt64.lt_iff_toNat_lt, capacity_roll] at hfull
    exact .inr ⟨rfl, by omega, rfl, by rw [blocked_roll]⟩

/-- Every call comes to one of the three things, and its answer tells which. -/
theorem verdict_allow (quota : Quota) (now : Moment) :
    Verdict quota now (quota.allow now).1 (quota.entries now) (quota.allow now).2 := by
  have hcapacity := UInt64.lt_iff_toNat_lt.1 quota.capacity_pos
  rw [UInt64.toNat_zero] at hcapacity
  have hcases := quota.allow_cases now
  have hopened := quota.openedAt_allow now
  unfold entries
  by_cases hover : quota.openedAt + quota.window.nanos ≤ now
  · -- A window that just opened is empty, and so there is room in it.
    obtain ⟨hroll, hempty⟩ := roll_of_le hover
    rw [hempty, UInt64.toNat_zero] at hcases
    rcases hcases with ⟨hanswer, -, hallowed, hblocked⟩ | ⟨-, hfull, -⟩
    · rw [if_pos hover, hanswer, if_pos rfl]
      exact .opened hover (hopened.trans hroll) hallowed hblocked
    · omega
  · have hwithin : now < quota.openedAt + quota.window.nanos := Nat.lt_of_not_le hover
    rw [roll_of_lt hwithin] at hcases hopened
    rw [if_neg hover]
    rcases hcases with ⟨hanswer, hroom, hallowed, hblocked⟩ | ⟨hanswer, hfull, hallowed, hblocked⟩
    · rw [hanswer, if_pos rfl]
      exact .admitted hwithin hroom hopened hallowed hblocked
    · rw [hanswer, if_neg Bool.false_ne_true]
      exact .refused hwithin hfull hopened hallowed hblocked

/-! ### Calls and their log -/

namespace Entry

/-- The start of the window that was opened. -/
def openedAt? : Entry → Option Moment
  | opened at_ => some at_
  | _ => none

/-- The reading of a call that was answered. -/
def reading? : Entry → Option Moment
  | admitted reading | refused reading => some reading
  | _ => none

@[simp] def isOpened : Entry → Bool
  | opened _ => true
  | _ => false

@[simp] def isAdmitted : Entry → Bool
  | admitted _ => true
  | _ => false

@[simp] def isRefused : Entry → Bool
  | refused _ => true
  | _ => false

/-- Whether a call was admitted at a reading from `first` on, but before `length` was over. -/
def isAdmittedIn (first : Moment) (length : Nat) : Entry → Bool
  | admitted reading => first ≤ reading && reading < first + length
  | _ => false

/-- How many refused calls were told. -/
@[simp] def toldCount : Entry → Nat
  | .told count => count.toNat
  | _ => 0

end Entry

/-- The readings of the calls that were answered. -/
def readings (log : List Entry) : List Moment := log.filterMap Entry.reading?

/-- The instants at which windows were opened, that of the first one included. -/
def openings (started : Moment) (log : List Entry) : List Moment :=
  log.filterMap Entry.openedAt? ++ [started]

/-- The instant at which the latest window was opened. -/
def lastOpening (started : Moment) (log : List Entry) : Moment :=
  (log.filterMap Entry.openedAt?).headD started

/-- How many windows were opened after the first one. -/
def rollovers (log : List Entry) : Nat := log.countP Entry.isOpened

/-- How many calls were admitted. -/
def admissions (log : List Entry) : Nat := log.countP Entry.isAdmitted

/-- How many calls were admitted since the latest window was opened. -/
def admissionsSince (log : List Entry) : Nat :=
  admissions (log.takeWhile fun entry => !entry.isOpened)

/-- How many calls were admitted at readings from `first` on, but before `length` was over. -/
def admissionsIn (first : Moment) (length : Nat) (log : List Entry) : Nat :=
  log.countP (Entry.isAdmittedIn first length)

/-- How many calls were refused. -/
def refusals (log : List Entry) : Nat := log.countP Entry.isRefused

/-- How many refused calls were told, all in all. -/
def tellings : List Entry → Nat
  | [] => 0
  | entry :: rest => entry.toldCount + tellings rest

section
variable (started first : Moment) (length : Nat) (entry : Entry) (log : List Entry)

/-- An entry adds to the windows opened if it opened one. -/
@[simp] theorem rollovers_cons :
    rollovers (entry :: log) = rollovers log + if entry.isOpened then 1 else 0 := List.countP_cons

/-- An entry adds to the calls admitted if it admitted one. -/
@[simp] theorem admissions_cons :
    admissions (entry :: log) = admissions log + if entry.isAdmitted then 1 else 0 :=
  List.countP_cons

/-- An entry that opens a window starts the count anew. -/
@[simp] theorem admissionsSince_cons :
    admissionsSince (entry :: log) =
      if entry.isOpened then 0 else admissionsSince log + if entry.isAdmitted then 1 else 0 := by
  unfold admissionsSince
  rw [List.takeWhile_cons]
  cases hopened : entry.isOpened with
  | true => rfl
  | false => exact admissions_cons ..

/-- An entry adds to the calls admitted in a span if it admitted one in that span. -/
@[simp] theorem admissionsIn_cons :
    admissionsIn first length (entry :: log) =
      admissionsIn first length log + if entry.isAdmittedIn first length then 1 else 0 :=
  List.countP_cons

/-- One entry adds at most one call to those of a span. -/
theorem admissionsIn_cons_le :
    admissionsIn first length (entry :: log) ≤ admissionsIn first length log + 1 := by
  rw [admissionsIn_cons]
  split <;> omega

/-- An entry adds to the calls refused if it refused one. -/
@[simp] theorem refusals_cons :
    refusals (entry :: log) = refusals log + if entry.isRefused then 1 else 0 := List.countP_cons

/-- An entry adds to the calls told as many as it told. -/
@[simp] theorem tellings_cons : tellings (entry :: log) = entry.toldCount + tellings log := rfl

/-- The latest opening is the first of the list, which is never empty. -/
theorem openings_eq_cons :
    ∃ earlier, openings started log = lastOpening started log :: earlier := by
  unfold openings lastOpening
  cases log.filterMap Entry.openedAt? with
  | nil => exact ⟨[], rfl⟩
  | cons at_ rest => exact ⟨rest ++ [started], rfl⟩

end

/-- A call of somebody who holds the lock. -/
inductive Call where
  /-- Asks to be let through; the clock was read before. -/
  | allow (reading : Moment)
  /-- Reads and clears the number of refused calls. -/
  | countBlocked
  deriving DecidableEq, Repr

/-- The reading of the clock that comes with a call. -/
def Call.reading? : Call → Option Moment
  | allow reading => some reading
  | countBlocked => none

/-- A quota in use: the quota, and what its calls did so far, the latest first. -/
structure Usage where
  quota : Quota
  log : List Entry

/-- The quota is in its first window and was not called yet. -/
structure IsFresh (quota : Quota) (capacity : UInt64) (window : Duration) (started : Moment) :
    Prop where
  capacity_eq : quota.capacity = capacity
  window_eq : quota.window = window
  openedAt_eq : quota.openedAt = started
  allowed_eq : quota.allowed = 0
  blocked_eq : quota.blocked = 0

/-- A quota that was just made is in its first window. -/
theorem isFresh_of_create {capacity : UInt64} {window : Duration} {started : Moment}
    {quota : Quota} (h : create capacity window started = .ok quota) :
    quota.IsFresh capacity window started := by
  unfold create at h
  split at h
  · split at h
    · cases h
      exact ⟨rfl, rfl, rfl, rfl, rfl⟩
    · cases h
  · cases h

/-- There is a quota for every two positive numbers. -/
theorem create_of_pos {capacity : UInt64} {window : Duration} (hcapacity : 0 < capacity)
    (hwindow : 0 < window.nanos) (started : Moment) :
    ∃ quota, create capacity window started = .ok quota := by
  rw [create, dif_pos hcapacity, dif_pos hwindow]
  exact ⟨_, rfl⟩

namespace Usage

/-- A quota before its calls. -/
def start (quota : Quota) : Usage := ⟨quota, []⟩

/-- The quota after a call. -/
def step (usage : Usage) : Call → Usage
  | .allow now => ⟨(usage.quota.allow now).2, usage.quota.entries now ++ usage.log⟩
  | .countBlocked =>
    ⟨usage.quota.countBlocked.2, .told usage.quota.countBlocked.1 :: usage.log⟩

/-- A run of calls. -/
def run (usage : Usage) (calls : List Call) : Usage := calls.foldl step usage

/-- A call comes to one of three things, and changes neither the capacity nor the length of the
windows. -/
theorem step_cases (usage : Usage) (now : Moment) :
    ∃ answer entries after, Verdict usage.quota now answer entries after ∧
      after.capacity = usage.quota.capacity ∧ after.window = usage.quota.window ∧
      (usage.quota.allow now).1 = answer ∧
      usage.step (.allow now) = ⟨after, entries ++ usage.log⟩ :=
  ⟨_, _, _, usage.quota.verdict_allow now, capacity_allow .., window_allow .., rfl, rfl⟩

/-- A run with one more call is a step more. -/
theorem run_concat (usage : Usage) (calls : List Call) (call : Call) :
    usage.run (calls ++ [call]) = (usage.run calls).step call := by
  rw [run, List.foldl_append]
  rfl

/-! ### Windows -/

/-- What the quota of a run has to do with its log. -/
structure Sound (capacity length : Nat) (started : Moment) (usage : Usage) : Prop where
  capacity_eq : usage.quota.capacity.toNat = capacity
  length_eq : usage.quota.window.nanos = length
  openedAt : usage.quota.openedAt = lastOpening started usage.log
  /-- The quota counts the calls that it admitted since its window was opened. -/
  allowed : usage.quota.allowed.toNat = admissionsSince usage.log
  /-- A window starts at least its length after all before it. -/
  spaced : (openings started usage.log).Pairwise fun later earlier => earlier + length ≤ later
  late : started + length * rollovers usage.log ≤ lastOpening started usage.log
  /-- A window is opened at the reading of a call. -/
  dated : rollovers usage.log = 0 ∨ lastOpening started usage.log ∈ readings usage.log
  total : admissions usage.log ≤ capacity * rollovers usage.log + admissionsSince usage.log

variable {capacity length : Nat} {started : Moment} {usage : Usage}

/-- The window that lasts has admitted no more calls than the capacity, since its counter says how
many. -/
theorem Sound.admissionsSince_le (h : usage.Sound capacity length started) :
    admissionsSince usage.log ≤ capacity := by
  rw [← h.allowed, ← h.capacity_eq]
  exact UInt64.le_iff_toNat_le.1 usage.quota.allowed_le

/-- No window started after the latest one. -/
theorem Sound.le_lastOpening (h : usage.Sound capacity length started) {at_ : Moment}
    (hmem : at_ ∈ openings started usage.log) : at_ ≤ lastOpening started usage.log := by
  obtain ⟨earlier, heq⟩ := openings_eq_cons started usage.log
  have hspaced := h.spaced
  rw [heq] at hmem hspaced
  rcases List.mem_cons.mp hmem with rfl | hmem
  · exact Nat.le_refl _
  · exact Nat.le_of_add_right_le ((List.pairwise_cons.mp hspaced).1 at_ hmem)

/-- A fresh quota and its empty log agree. -/
theorem sound_start {limit : UInt64} {window : Duration} {quota : Quota}
    (h : quota.IsFresh limit window started) :
    (start quota).Sound limit.toNat window.nanos started where
  capacity_eq := congrArg UInt64.toNat h.capacity_eq
  length_eq := congrArg Duration.nanos h.window_eq
  openedAt := h.openedAt_eq
  allowed := congrArg UInt64.toNat h.allowed_eq
  spaced := List.pairwise_singleton ..
  late := Nat.le_refl _
  dated := .inl rfl
  total := Nat.zero_le _

/-- A call keeps the quota and its log in agreement: each of its three outcomes changes both alike.
-/
theorem sound_step (h : usage.Sound capacity length started) (call : Call) :
    (usage.step call).Sound capacity length started := by
  cases call with
  | countBlocked => exact { h with }
  | allow now =>
    obtain ⟨answer, entries, after, hverdict, hcapacity, hwindow, -, hstep⟩ :=
      usage.step_cases now
    have hcapacity := (congrArg UInt64.toNat hcapacity).trans h.capacity_eq
    have hlength := (congrArg Duration.nanos hwindow).trans h.length_eq
    have hle := h.admissionsSince_le
    have htotal := h.total
    rw [hstep]
    cases hverdict with
    | opened ended openedAt allowed blocked =>
      -- The new window starts at the reading, which is past the end of the one before.
      rw [h.length_eq, h.openedAt] at ended
      have hrollovers : rollovers (.admitted now :: .opened now :: usage.log) =
          rollovers usage.log + 1 := by simp
      have hadmissions : admissions (.admitted now :: .opened now :: usage.log) =
          admissions usage.log + 1 := by simp
      have hsince : admissionsSince (.admitted now :: .opened now :: usage.log) = 1 := by simp
      refine ⟨hcapacity, hlength, openedAt, allowed, ?_, ?_, .inr List.mem_cons_self, ?_⟩
      · refine List.pairwise_cons.mpr ⟨fun at_ hmem => ?_, h.spaced⟩
        exact Nat.le_trans (Nat.add_le_add_right (h.le_lastOpening hmem) length) ended
      · show started + length * rollovers (.admitted now :: .opened now :: usage.log) ≤ now
        rw [hrollovers, Nat.mul_add_one, ← Nat.add_assoc]
        exact Nat.le_trans (Nat.add_le_add_right h.late length) ended
      · -- The calls of the window that ended are within its capacity.
        show admissions (.admitted now :: .opened now :: usage.log) ≤
          capacity * rollovers (.admitted now :: .opened now :: usage.log) +
            admissionsSince (.admitted now :: .opened now :: usage.log)
        rw [hrollovers, hadmissions, hsince, Nat.mul_add_one]
        omega
    | admitted within room openedAt allowed blocked =>
      -- The window stays, and the call is counted on both sides.
      have hadmissions : admissions (.admitted now :: usage.log) = admissions usage.log + 1 := by
        simp
      have hsince : admissionsSince (.admitted now :: usage.log) =
          admissionsSince usage.log + 1 := by simp
      refine ⟨hcapacity, hlength, openedAt.trans h.openedAt, ?_, h.spaced, h.late,
        h.dated.imp_right (List.mem_cons_of_mem _), ?_⟩
      · exact (allowed.trans (congrArg (· + 1) h.allowed)).trans hsince.symm
      · show admissions (.admitted now :: usage.log) ≤
          capacity * rollovers usage.log + admissionsSince (.admitted now :: usage.log)
        omega
    | refused within full openedAt allowed blocked =>
      -- Neither the window nor its calls change.
      exact ⟨hcapacity, hlength, openedAt.trans h.openedAt, allowed.trans h.allowed, h.spaced,
        h.late, h.dated.imp_right (List.mem_cons_of_mem _), htotal⟩

/-- So does a run of calls, by induction. -/
theorem sound_run (h : usage.Sound capacity length started) (calls : List Call) :
    (usage.run calls).Sound capacity length started := by
  induction calls generalizing usage with
  | nil => exact h
  | cons call rest ih => exact ih (sound_step h call)

/-! ### How many calls are let through -/

/-- The windows that were opened are as many as fit between the first reading and the largest,
and each admits as many calls as the capacity says. -/
theorem Sound.admissions_le (h : usage.Sound capacity length started) (hlength : 0 < length)
    {largest : Moment} (hlargest : ∀ reading ∈ readings usage.log, reading ≤ largest) :
    admissions usage.log ≤ capacity * (1 + (largest - started) / length) := by
  have hrollovers : rollovers usage.log ≤ (largest - started) / length := by
    rw [Nat.le_div_iff_mul_le hlength, Nat.mul_comm]
    -- If a window was opened after the first, that was at a reading.
    rcases h.dated with hnone | hmem
    · rw [hnone]
      exact Nat.zero_le _
    · exact Nat.le_sub_of_add_le' (Nat.le_trans h.late (hlargest _ hmem))
  calc admissions usage.log
      ≤ capacity * rollovers usage.log + admissionsSince usage.log := h.total
    _ ≤ capacity * rollovers usage.log + capacity := Nat.add_le_add_left h.admissionsSince_le _
    _ = capacity * (1 + rollovers usage.log) := by rw [Nat.add_comm 1, Nat.mul_add_one]
    _ ≤ capacity * (1 + (largest - started) / length) :=
        Nat.mul_le_mul_left _ (Nat.add_le_add_left hrollovers 1)

/-- A call is refused if the window is full and lasts, and only then. -/
theorem Sound.refused_iff (h : usage.Sound capacity length started) (now : Moment) :
    (usage.quota.allow now).1 = false ↔
      admissionsSince usage.log = capacity ∧ now < lastOpening started usage.log + length := by
  obtain ⟨answer, entries, after, hverdict, -, -, hanswer, -⟩ := usage.step_cases now
  rw [hanswer, ← h.allowed, ← h.openedAt, ← h.capacity_eq, ← h.length_eq]
  cases hverdict with
  | opened ended => exact iff_of_false nofun fun hfull => absurd hfull.2 (Nat.not_lt_of_le ended)
  | admitted within room => exact iff_of_false nofun fun hfull => absurd hfull.1 (Nat.ne_of_lt room)
  | refused within full => exact iff_of_true rfl ⟨full, within⟩

/-! ### Spans of time -/

/-- Where the admitted calls of the span that begins at `first` are. The span is as long as a
window, so they are in two windows at most, as long as the clock does not go back. -/
inductive Spanned (capacity length : Nat) (first : Moment) (usage : Usage) : Prop where
  /-- All are in the window that lasts. -/
  | here (few : admissionsIn first length usage.log ≤ admissionsSince usage.log)
  /-- Some are in the window before. Then the one that lasts was opened in the span. -/
  | both (read : usage.quota.openedAt ∈ readings usage.log) (began : first ≤ usage.quota.openedAt)
      (few : admissionsIn first length usage.log ≤ capacity + admissionsSince usage.log)
  /-- The span was over when the window that lasts was opened. -/
  | past (read : usage.quota.openedAt ∈ readings usage.log)
      (ended : first + length ≤ usage.quota.openedAt)
      (few : admissionsIn first length usage.log ≤ 2 * capacity)

/-- No call was admitted in a span that is still to come. -/
theorem admissionsIn_of_lt {first : Moment} {log : List Entry}
    (h : ∀ reading ∈ readings log, reading < first) : admissionsIn first length log = 0 := by
  refine List.countP_eq_zero.mpr fun entry hmem => ?_
  cases entry with
  | admitted reading =>
    have hlt := h reading (List.mem_filterMap.mpr ⟨_, hmem, rfl⟩)
    simp [Entry.isAdmittedIn, Nat.not_le_of_lt hlt]
  | opened | refused | told => exact Bool.false_ne_true

/-- A call after the span is not one of it. -/
theorem admissionsIn_of_le {first now : Moment} (h : first + length ≤ now) (log : List Entry) :
    admissionsIn first length (.admitted now :: log) = admissionsIn first length log := by
  simp [Entry.isAdmittedIn, h]

/-- A call that opens no window, at a reading that is not before the others. -/
theorem Spanned.answered {first : Moment} (h : usage.Spanned capacity length first) {now : Moment}
    {after : Quota} {entry : Entry} (hopenedAt : after.openedAt = usage.quota.openedAt)
    (hentry : entry = .admitted now ∨ entry = .refused now)
    (hsteady : ∀ reading ∈ readings usage.log, reading ≤ now) :
    Spanned capacity length first ⟨after, entry :: usage.log⟩ := by
  -- A call that the span gains is one that the window gains.
  have hmore : admissionsIn first length (entry :: usage.log) + admissionsSince usage.log ≤
      admissionsIn first length usage.log + admissionsSince (entry :: usage.log) := by
    rcases hentry with rfl | rfl
    · have hone := admissionsIn_cons_le first length (.admitted now) usage.log
      have hsince : admissionsSince (.admitted now :: usage.log) =
          admissionsSince usage.log + 1 := by simp
      omega
    · simp [Entry.isAdmittedIn]
  have hread : readings usage.log ⊆ readings (entry :: usage.log) := by
    rcases hentry with rfl | rfl <;> exact List.subset_cons_self ..
  cases h with
  | here few => exact .here (by dsimp only; omega)
  | both read began few =>
    exact .both (hopenedAt ▸ hread read) (hopenedAt ▸ began) (by dsimp only; omega)
  | past read ended few =>
    -- The span was over before the call, so it gains nothing.
    refine .past (hopenedAt ▸ hread read) (hopenedAt ▸ ended) ?_
    rcases hentry with rfl | rfl
    · have hspent : first + length ≤ now := Nat.le_trans ended (hsteady _ read)
      exact Nat.le_trans (Nat.le_of_eq (admissionsIn_of_le hspent usage.log)) few
    · exact few

/-- A call that opens a window, at a reading that is not before the others. -/
theorem Spanned.opened {first : Moment} (h : usage.Spanned capacity length first) {now : Moment}
    {after : Quota} (hopenedAt : after.openedAt = now)
    (hover : usage.quota.openedAt + length ≤ now) (hfull : admissionsSince usage.log ≤ capacity)
    (hsteady : ∀ reading ∈ readings usage.log, reading ≤ now) :
    Spanned capacity length first ⟨after, .admitted now :: .opened now :: usage.log⟩ := by
  have hread : after.openedAt ∈ readings (.admitted now :: .opened now :: usage.log) :=
    hopenedAt ▸ List.mem_cons_self
  have hsince : admissionsSince (.admitted now :: .opened now :: usage.log) = 1 := by simp
  have hopening : admissionsIn first length (.opened now :: usage.log) =
      admissionsIn first length usage.log := by simp [Entry.isAdmittedIn]
  have hone := admissionsIn_cons_le first length (.admitted now) (.opened now :: usage.log)
  cases h with
  | here few =>
    by_cases hbegan : first ≤ now
    · exact .both hread (hopenedAt ▸ hbegan) (by dsimp only; omega)
    · -- The span is still to come.
      have hnone : admissionsIn first length usage.log = 0 :=
        admissionsIn_of_lt fun reading hmem =>
          Nat.lt_of_le_of_lt (hsteady reading hmem) (Nat.lt_of_not_le hbegan)
      exact .here (by dsimp only; omega)
  | both read began few =>
    -- The window that ended began in the span, so the span is over as well.
    have hspent : first + length ≤ now := Nat.le_trans (Nat.add_le_add_right began length) hover
    have hsame := admissionsIn_of_le hspent (.opened now :: usage.log)
    exact .past hread (hopenedAt ▸ hspent) (by dsimp only; omega)
  | past read ended few =>
    have hspent : first + length ≤ now := Nat.le_trans ended (hsteady _ read)
    have hsame := admissionsIn_of_le hspent (.opened now :: usage.log)
    exact .past hread (hopenedAt ▸ hspent) (by dsimp only; omega)

/-- A call keeps the admitted calls of a span in two windows at most, if its reading is not before
any earlier one. -/
theorem spanned_step (hsound : usage.Sound capacity length started) {first : Moment}
    (h : usage.Spanned capacity length first) {call : Call}
    (hsteady : ∀ now, call.reading? = some now → ∀ reading ∈ readings usage.log, reading ≤ now) :
    (usage.step call).Spanned capacity length first := by
  cases call with
  | countBlocked =>
    cases h with
    | here few => exact .here few
    | both read began few => exact .both read began few
    | past read ended few => exact .past read ended few
  | allow now =>
    have hlast := hsteady now rfl
    obtain ⟨answer, entries, after, hverdict, -, -, -, hstep⟩ := usage.step_cases now
    rw [hstep]
    -- A new window begins with this call, or the call is answered in the window of the last
    -- one.
    cases hverdict with
    | opened ended openedAt =>
      exact h.opened openedAt (hsound.length_eq ▸ ended) hsound.admissionsSince_le hlast
    | admitted within room openedAt => exact h.answered openedAt (.inl rfl) hlast
    | refused within full openedAt => exact h.answered openedAt (.inr rfl) hlast

/-! ### The readings of a run -/

/-- The readings in the log are those of the calls, the latest first. -/
theorem readings_run (quota : Quota) (calls : List Call) :
    readings ((start quota).run calls).log = (calls.filterMap Call.reading?).reverse := by
  induction calls using List.reverseRecOn with
  | nil => rfl
  | append_singleton calls call ih =>
    rw [run_concat, List.filterMap_append, List.reverse_append, ← ih]
    cases call with
    | countBlocked => rfl
    | allow now =>
      obtain ⟨answer, entries, after, hverdict, -, -, -, hstep⟩ :=
        ((start quota).run calls).step_cases now
      rw [hstep]
      -- Whatever the verdict, the log gets the reading once.
      cases hverdict <;> rfl

/-- A run whose readings never go back keeps them there. The induction is on the calls from the last
one. -/
theorem spanned_run {quota : Quota} (hsound : (start quota).Sound capacity length started)
    {calls : List Call} (hsteady : (calls.filterMap Call.reading?).Pairwise (· ≤ ·))
    (first : Moment) : ((start quota).run calls).Spanned capacity length first := by
  induction calls using List.reverseRecOn with
  | nil => exact .here (Nat.le_refl _)
  | append_singleton calls call ih =>
    rw [List.filterMap_append, List.pairwise_append] at hsteady
    obtain ⟨hcalls, -, hlast⟩ := hsteady
    rw [run_concat]
    refine spanned_step (sound_run hsound calls) (ih hcalls) fun now hnow reading hmem => ?_
    rw [readings_run, List.mem_reverse] at hmem
    exact hlast reading hmem now (List.mem_filterMap.mpr ⟨call, List.mem_singleton_self call, hnow⟩)

/-- A span holds at most the admitted calls of two windows. -/
theorem Spanned.admissionsIn_le {first : Moment} (h : usage.Spanned capacity length first)
    (hsound : usage.Sound capacity length started) :
    admissionsIn first length usage.log ≤ 2 * capacity := by
  have hle := hsound.admissionsSince_le
  cases h with
  | here few | both _ _ few => omega
  | past _ _ few => exact few

end Usage

/-- **The bound on admitted calls**, under any readings of the clock. In every run of calls on a
quota of that capacity and that length of its windows, both positive:

* The windows start at least their length apart, and the quota is in the latest one. So the
  admitted calls are at most the capacity times the windows that fit between the first reading
  and the largest.
* A call is refused exactly if the calls admitted since the latest window was opened are as
  many as the capacity, and its reading is less than a window's length after that.
* If the readings never decrease, a span as long as a window holds at most twice as many
  admitted calls as the capacity.
* The count of the admitted calls is exact, and it grows by one with every admitted call. So
  it never overflows, however large the capacity. -/
theorem admissions_run {capacity : UInt64} {window : Duration} (hcapacity : 0 < capacity)
    (hwindow : 0 < window.nanos) (started : Moment) :
    ∃ quota, create capacity window started = .ok quota ∧
      ∀ calls, let usage := (Usage.start quota).run calls
        (openings started usage.log).Pairwise
          (fun later earlier => earlier + window.nanos ≤ later) ∧
        usage.quota.openedAt = lastOpening started usage.log ∧
        (∀ largest, (∀ reading ∈ calls.filterMap Call.reading?, reading ≤ largest) →
          admissions usage.log ≤
            capacity.toNat * (1 + (largest - started) / window.nanos)) ∧
        (∀ now, (usage.quota.allow now).1 = false ↔
          admissionsSince usage.log = capacity.toNat ∧
            now < lastOpening started usage.log + window.nanos) ∧
        ((calls.filterMap Call.reading?).Pairwise (· ≤ ·) →
          ∀ first, admissionsIn first window.nanos usage.log ≤ 2 * capacity.toNat) ∧
        usage.quota.allowed.toNat = admissionsSince usage.log ∧
        ∀ now, (usage.quota.allow now).1 = true →
          (usage.quota.allow now).2.allowed.toNat =
            (usage.quota.roll now).allowed.toNat + 1 := by
  obtain ⟨quota, hcreate⟩ := create_of_pos hcapacity hwindow started
  refine ⟨quota, hcreate, fun calls => ?_⟩
  intro usage
  have hstart := Usage.sound_start (isFresh_of_create hcreate)
  have hsound : usage.Sound capacity.toNat window.nanos started := Usage.sound_run hstart calls
  refine ⟨hsound.spaced, hsound.openedAt, fun largest hlargest => ?_, hsound.refused_iff,
    fun hsteady first => ?_, hsound.allowed, fun now hadmitted => ?_⟩
  · refine hsound.admissions_le hwindow fun reading hmem => hlargest reading ?_
    rwa [Usage.readings_run, List.mem_reverse] at hmem
  · exact (Usage.spanned_run hstart hsteady first).admissionsIn_le hsound
  · rcases usage.quota.allow_cases now with ⟨-, -, hcount, -⟩ | ⟨hrefused, -⟩
    · exact hcount
    · cases hadmitted.symm.trans hrefused

/-- With one call in ten nanoseconds: a clock that steps back opens no window, and a span that
begins between two calls holds both windows. -/
theorem admissions_run_of_one :
    ∃ quota, create 1 ⟨10, by decide⟩ 100 = .ok quota ∧
      let back := ((Usage.start quota).run [.allow 100, .allow 95, .allow 110, .allow 99]).log
      let steady := ((Usage.start quota).run [.allow 109, .allow 109, .allow 110]).log
      back = [.refused 99, .admitted 110, .opened 110, .refused 95, .admitted 100] ∧
        admissions back ≤ 1 * (1 + (110 - 100) / 10) ∧
        steady = [.admitted 110, .opened 110, .refused 109, .admitted 109] ∧
        admissionsIn 105 10 steady ≤ 2 * 1 := by
  obtain ⟨quota, hcreate, hrun⟩ := @admissions_run 1 ⟨10, by decide⟩ (by decide) (by decide) 100
  obtain ⟨-, -, hbound, -⟩ := hrun [.allow 100, .allow 95, .allow 110, .allow 99]
  obtain ⟨-, -, -, -, hspan, -⟩ := hrun [.allow 109, .allow 109, .allow 110]
  refine ⟨quota, hcreate, ?_, hbound 110 (by decide), ?_, hspan (by decide) 105⟩
  all_goals
    cases hcreate
    decide

/-! ### Refused calls -/

/-- A refused call is counted, whether or not it is the first after a window, as long as the
count has room for it. -/
theorem toNat_blocked_allow {quota : Quota} {now : Moment}
    (hroom : (quota.allow now).1 = false → quota.blocked.toNat + 1 < 18446744073709551616) :
    (quota.allow now).2.blocked.toNat =
      if (quota.allow now).1 then quota.blocked.toNat else quota.blocked.toNat + 1 := by
  rcases quota.allow_cases now with ⟨hanswer, -, -, hblocked⟩ | ⟨hanswer, -, -, hblocked⟩
  · rw [hanswer, hblocked, if_pos rfl]
  · rw [hanswer, hblocked, if_neg Bool.false_ne_true, UInt64.toNat_add, UInt64.toNat_one]
    exact Nat.mod_eq_of_lt (hroom hanswer)

/-- As many calls were refused as were told and are still counted. -/
def Balances (quota : Quota) (refused told : Nat) : Prop :=
  told + quota.blocked.toNat = refused

namespace Balances

variable {quota : Quota} {refused told : Nat}

/-- A call that is refused is counted. -/
theorem allow (h : quota.Balances refused told) (now : Moment)
    (hfew : (quota.allow now).1 = false → refused + 1 < 18446744073709551616) :
    (quota.allow now).2.Balances (if (quota.allow now).1 then refused else refused + 1) told := by
  unfold Balances at h ⊢
  -- The count has room for one more, because it is part of the refused calls.
  rw [toNat_blocked_allow fun hanswer => ?_]
  · split <;> omega
  · have hroom := hfew hanswer
    omega

/-- What is read and cleared is told. -/
theorem countBlocked (h : quota.Balances refused told) :
    quota.countBlocked.2.Balances refused (told + quota.countBlocked.1.toNat) := h

end Balances

namespace Usage

/-- A call that asks to be let through may be refused, and tells nothing. -/
theorem log_step_allow (usage : Usage) (now : Moment) :
    refusals (usage.step (.allow now)).log =
        (if (usage.quota.allow now).1 then refusals usage.log else refusals usage.log + 1) ∧
      tellings (usage.step (.allow now)).log = tellings usage.log := by
  obtain ⟨answer, entries, after, hverdict, -, -, hanswer, hstep⟩ := usage.step_cases now
  rw [hstep, hanswer]
  cases hverdict <;> simp

/-- Calls do not take back that others were refused. -/
theorem refusals_le_step (usage : Usage) (call : Call) :
    refusals usage.log ≤ refusals (usage.step call).log := by
  cases call with
  | countBlocked => exact Nat.le_of_eq (by simp [step])
  | allow now =>
    rw [(usage.log_step_allow now).1]
    split <;> omega

/-- The refused calls of a run are told or still counted, if the count had room for them. -/
theorem balances_run {quota : Quota} (hblocked : quota.blocked = 0) (calls : List Call)
    (hfew : refusals ((start quota).run calls).log < 18446744073709551616) :
    ((start quota).run calls).quota.Balances (refusals ((start quota).run calls).log)
      (tellings ((start quota).run calls).log) := by
  induction calls using List.reverseRecOn with
  | nil => exact (Nat.zero_add _).trans (congrArg UInt64.toNat hblocked)
  -- The induction is on the last call, since the bound is on the count at the end.
  | append_singleton calls call ih =>
    rw [run_concat] at hfew ⊢
    have hbefore := ih (Nat.lt_of_le_of_lt (refusals_le_step ..) hfew)
    cases call with
    | countBlocked =>
      have htold := hbefore.countBlocked
      rw [Nat.add_comm] at htold
      simpa [step] using htold
    | allow now =>
      obtain ⟨hrefusals, htellings⟩ := ((start quota).run calls).log_step_allow now
      rw [hrefusals] at hfew ⊢
      rw [htellings]
      exact hbefore.allow now fun hanswer => by rwa [hanswer] at hfew

end Usage

end Gatekeeper.Quota
