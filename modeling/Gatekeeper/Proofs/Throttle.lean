import Gatekeeper.Proofs.Quota
import Gatekeeper.Proofs.Roster
import Gatekeeper.Throttle
import Mathlib.Data.List.Perm.Basic

/-!
# `Gatekeeper.Proofs.Throttle`: no suppressed report is lost

A diagnostic takes the lock of its quota, is told whether it is admitted, and gives the lock
back. An admitted one takes the lock again, to read how many were kept back; a refused one
touches the counter of its throttle. Others may come in between. So a run is any sequence of
such single steps, and `Usage` also holds the callers that took the first step only.

* `ask_eq`: a caller that takes both steps at once is `Throttle.ask`.
* `Sound`: what was told and what is still counted are together the refused calls; one step
  keeps that, and so does a run.
* `Orderly`: if callers come one at a time, what is told is what was kept back since.
* `reports_run`: both, and the same for the calls on a quota without a throttle.
-/

set_option autoImplicit false

namespace Gatekeeper.Metrics

/-- Counting changes one counter only. -/
@[simp] theorem get_count (metrics : Metrics) (metric other : Metric) (n : Nat) :
    (metrics.count metric n).get other =
      if other = metric then metrics.get metric + n else metrics.get other := by
  rw [get, count, Roster.find?_set]
  split
  · rfl
  · rfl

end Gatekeeper.Metrics

namespace Gatekeeper.Throttle

/-! ### Steps of callers -/

/-- One step of somebody. -/
inductive Event where
  /-- A caller asks the quota; the clock was read before. -/
  | entered (reading : Moment)
  /-- The caller at that place of those underway goes on, and leaves. -/
  | went (place : Nat)
  /-- Somebody adds to a counter. -/
  | counted (metric : Metric) (n : Nat)

/-- Whether a caller asks the quota. -/
def Event.isEntered : Event → Bool
  | entered _ => true
  | went _ | counted _ _ => false

/-- A throttle in use. -/
structure Usage where
  throttle : Throttle
  metrics : Metrics
  /-- What the callers that did not leave yet were told by the quota. -/
  underway : List Bool
  /-- What the callers that left came back with, the latest first. -/
  answers : List (Option UInt64)

/-- How many callers left without being admitted. -/
def kept (answers : List (Option UInt64)) : Nat := answers.countP Option.isNone

/-- How many of them came back with since the latest caller that was admitted. -/
def keptSince (answers : List (Option UInt64)) : Nat := (answers.takeWhile Option.isNone).length

/-- How many refused calls the admitted callers came back with, all in all. -/
def told : List (Option UInt64) → Nat
  | [] => 0
  | answer :: rest => (answer.getD 0).toNat + told rest

namespace Usage

/-- A throttle before its callers. -/
def start (throttle : Throttle) (metrics : Metrics) : Usage := ⟨throttle, metrics, [], []⟩

/-- How many calls the quota refused. -/
def refused (usage : Usage) : Nat := kept usage.answers + usage.underway.count false

/-- A caller that was told that much by the quota takes its second step. -/
def leave (usage : Usage) (underway : List Bool) : Bool → Usage
  | true =>
    { usage with
      throttle := { usage.throttle with quota := usage.throttle.quota.countBlocked.2 }
      underway
      answers := some usage.throttle.quota.countBlocked.1 :: usage.answers }
  | false =>
    { usage with
      metrics := usage.metrics.count (.throttled usage.throttle.name) 1
      underway
      answers := none :: usage.answers }

/-- The throttle after a step. -/
def step (usage : Usage) : Event → Usage
  | .entered now =>
    { usage with
      throttle := { usage.throttle with quota := (usage.throttle.quota.allow now).2 }
      underway := usage.underway ++ [(usage.throttle.quota.allow now).1] }
  | .went place =>
    match usage.underway[place]? with
    | some answer => usage.leave (usage.underway.eraseIdx place) answer
    | none => usage
  | .counted metric n => { usage with metrics := usage.metrics.count metric n }

/-- A run of steps. -/
def run (usage : Usage) (events : List Event) : Usage := events.foldl step usage

/-- A caller that goes on leaves, if there is one at that place. -/
theorem step_went (usage : Usage) (place : Nat) :
    usage.step (.went place) = usage ∨
      ∃ answer, usage.underway[place]? = some answer ∧
        usage.step (.went place) = usage.leave (usage.underway.eraseIdx place) answer := by
  unfold step
  dsimp only
  split
  next answer hanswer => exact .inr ⟨answer, hanswer, rfl⟩
  next => exact .inl rfl

/-- A caller that takes both steps at once is one that asks the throttle. -/
theorem ask_eq (usage : Usage) (now : Moment) :
    (usage.step (.entered now)).step (.went usage.underway.length) =
      { throttle := (usage.throttle.ask now usage.metrics).2.1
        metrics := (usage.throttle.ask now usage.metrics).2.2
        underway := usage.underway
        answers := (usage.throttle.ask now usage.metrics).1 :: usage.answers } := by
  have hleft (answer : Bool) :
      (usage.underway ++ [answer]).eraseIdx usage.underway.length = usage.underway := by
    simp [List.eraseIdx_append_of_length_le]
  simp only [step, List.getElem?_concat_length, hleft, ask]
  cases (usage.throttle.quota.allow now).1 with
  | true => rfl
  | false => rfl

end Usage

/-- A new throttle did not refuse anything. -/
theorem fresh_of_create {name : String} {capacity : UInt64} {window : Duration} {started : Moment}
    {throttle : Throttle} (h : create name capacity window started = .ok throttle) :
    throttle.name = name ∧ throttle.quota.blocked = 0 := by
  unfold create at h
  cases hquota : Quota.create capacity window started with
  | error fault =>
    rw [hquota] at h
    cases h
  | ok quota =>
    rw [hquota] at h
    cases h
    exact ⟨rfl, (Quota.isFresh_of_create hquota).blocked_eq⟩

/-! ### What is told, and what is still counted -/

section
variable (answer : Option UInt64) (answers : List (Option UInt64))

/-- An answer adds to the callers kept back if it keeps one back. -/
@[simp] theorem kept_cons :
    kept (answer :: answers) = kept answers + if answer.isNone then 1 else 0 := List.countP_cons

/-- An answer that lets a caller through starts the count of those kept back anew. -/
@[simp] theorem keptSince_cons :
    keptSince (answer :: answers) = if answer.isNone then keptSince answers + 1 else 0 := by
  unfold keptSince
  rw [List.takeWhile_cons]
  cases answer <;> rfl

/-- An answer adds to the callers told of as many as it tells of. -/
@[simp] theorem told_cons : told (answer :: answers) = (answer.getD 0).toNat + told answers := rfl

end

/-- A caller that leaves is one fewer of its kind. -/
theorem count_eraseIdx {underway : List Bool} {place : Nat} {answer : Bool}
    (h : underway[place]? = some answer) :
    underway.count false =
      (underway.eraseIdx place).count false + if answer = false then 1 else 0 := by
  obtain ⟨hplace, rfl⟩ := List.getElem?_eq_some_iff.mp h
  have hperm := List.getElem_cons_eraseIdx_perm hplace
  rw [← hperm.count_eq, List.count_cons]
  simp

namespace Usage

/-- What a throttle in use has to do with what its callers came back with. Its own counter
was at `before` when it was new. -/
structure Sound (name : String) (before : Nat) (usage : Usage) : Prop where
  name_eq : usage.throttle.name = name
  /-- What was told and what is still counted are together the refused calls. -/
  balances : usage.throttle.quota.Balances usage.refused (told usage.answers)
  counted : usage.metrics.get (.throttled name) = before + kept usage.answers

variable {name : String} {before : Nat} {usage : Usage}

/-- A caller is refused just if the quota does not let it through. -/
theorem refused_entered (usage : Usage) (now : Moment) :
    (usage.step (.entered now)).refused =
      if (usage.throttle.quota.allow now).1 then usage.refused else usage.refused + 1 := by
  unfold refused step
  dsimp only
  rw [List.count_append]
  cases (usage.throttle.quota.allow now).1 with
  | true => rfl
  | false => rfl

/-- A caller that leaves was refused before, or was not. -/
theorem refused_leave {place : Nat} {answer : Bool} (h : usage.underway[place]? = some answer) :
    (usage.leave (usage.underway.eraseIdx place) answer).refused = usage.refused := by
  unfold refused
  rw [count_eraseIdx h]
  cases answer with
  | true => simp [leave]
  | false =>
    -- It was counted among those underway, and now among those that left.
    have hkept : kept (none :: usage.answers) = kept usage.answers + 1 := by simp
    show kept (none :: usage.answers) + (usage.underway.eraseIdx place).count false = _
    rw [hkept, if_pos rfl]
    omega

/-- Refused calls stay refused. -/
theorem refused_le_step (usage : Usage) (event : Event) :
    usage.refused ≤ (usage.step event).refused := by
  cases event with
  | entered now =>
    rw [refused_entered]
    split <;> omega
  | went place =>
    rcases usage.step_went place with hsame | ⟨answer, hanswer, hleave⟩
    · exact Nat.le_of_eq (congrArg refused hsame).symm
    · exact Nat.le_of_eq ((congrArg refused hleave).trans (refused_leave hanswer)).symm
  | counted metric n => exact Nat.le_refl _

/-- Nobody is let through later that was refused before. The induction is on the events. -/
theorem refused_le_run (usage : Usage) (events : List Event) :
    usage.refused ≤ (usage.run events).refused := by
  induction events generalizing usage with
  | nil => exact Nat.le_refl _
  | cons event rest ih => exact Nat.le_trans (refused_le_step usage event) (ih (usage.step event))

/-- A new throttle agrees with having had no callers. -/
theorem sound_start {throttle : Throttle} (hblocked : throttle.quota.blocked = 0)
    (metrics : Metrics) :
    (start throttle metrics).Sound throttle.name (metrics.get (.throttled throttle.name)) where
  name_eq := rfl
  balances := (Nat.zero_add _).trans (congrArg UInt64.toNat hblocked)
  counted := rfl

/-- A caller that leaves is counted, or told of those that were. -/
theorem sound_leave (h : usage.Sound name before) {place : Nat} {answer : Bool}
    (hanswer : usage.underway[place]? = some answer) :
    (usage.leave (usage.underway.eraseIdx place) answer).Sound name before := by
  have hbalances := h.balances
  rw [← refused_leave hanswer] at hbalances
  cases answer with
  | true =>
    have htold := hbalances.countBlocked
    rw [Nat.add_comm] at htold
    refine ⟨h.name_eq, ?_, h.counted⟩
    rw [leave, told_cons]
    exact htold
  | false =>
    -- Nothing is told, and the counter of the throttle goes up.
    refine ⟨h.name_eq, ?_, ?_⟩
    · rw [leave, told_cons]
      simpa [leave] using hbalances
    · simp [leave, h.name_eq, h.counted, Nat.add_assoc]

/-- Every event keeps the throttle in agreement with its callers, as long as the counter of the
refused does not overflow and nobody else counts on the throttle's own metric. -/
theorem sound_step (h : usage.Sound name before) {event : Event}
    (hother : ∀ metric n, event = .counted metric n → metric ≠ .throttled name)
    (hfew : (usage.step event).refused < 18446744073709551616) :
    (usage.step event).Sound name before := by
  cases event with
  | entered now =>
    refine ⟨h.name_eq, ?_, h.counted⟩
    rw [refused_entered] at hfew ⊢
    exact h.balances.allow now fun hanswer => by rwa [hanswer] at hfew
  | went place =>
    -- Nobody is at the place, or a caller leaves with the answer that it got.
    rcases usage.step_went place with hsame | ⟨answer, hanswer, hleave⟩
    · rw [hsame]
      exact h
    · rw [hleave]
      exact sound_leave h hanswer
  | counted metric n =>
    have hne : Metric.throttled name ≠ metric := (hother metric n rfl).symm
    refine ⟨h.name_eq, h.balances, ?_⟩
    rw [step, Metrics.get_count, if_neg hne]
    exact h.counted

/-- So does a run of events, by induction. -/
theorem sound_run (h : usage.Sound name before) {events : List Event}
    (hother : ∀ metric n, .counted metric n ∈ events → metric ≠ .throttled name)
    (hfew : (usage.run events).refused < 18446744073709551616) :
    (usage.run events).Sound name before := by
  induction events generalizing usage with
  | nil => exact h
  | cons event rest ih =>
    have hnow := Nat.lt_of_le_of_lt ((usage.step event).refused_le_run rest) hfew
    refine ih (sound_step h (fun metric n heq => ?_) hnow) (fun metric n hmem => ?_) hfew
    · exact hother metric n (heq ▸ List.mem_cons_self)
    · exact hother metric n (List.mem_cons_of_mem _ hmem)

/-! ### Callers that come one at a time -/

/-- Nobody asks the quota while somebody else is underway. -/
def InTurn (usage : Usage) : List Event → Prop
  | [] => True
  | event :: rest => (event.isEntered = true → usage.underway = []) ∧ InTurn (usage.step event) rest

instance decidableInTurn (usage : Usage) : (events : List Event) → Decidable (usage.InTurn events)
  | [] => inferInstanceAs (Decidable True)
  | event :: rest =>
    have := decidableInTurn (usage.step event) rest
    inferInstanceAs (Decidable (_ ∧ _))

/-- What a throttle in use is like if its callers come one at a time. -/
structure Orderly (usage : Usage) : Prop where
  alone : usage.underway.length ≤ 1
  pending : usage.throttle.quota.blocked.toNat =
    keptSince usage.answers + usage.underway.count false
  /-- Every admitted caller came back with the number of those kept back since the one before. -/
  exact : ∀ n older, some n :: older <:+ usage.answers → n.toNat = keptSince older

/-- A new throttle has nobody underway. -/
theorem orderly_start {throttle : Throttle} (hblocked : throttle.quota.blocked = 0)
    (metrics : Metrics) : (start throttle metrics).Orderly where
  alone := Nat.zero_le _
  pending := congrArg UInt64.toNat hblocked
  exact _ _ hsuffix := nomatch List.suffix_nil.mp hsuffix

/-- The only caller leaves, and then nobody is underway. -/
theorem orderly_leave (h : usage.Orderly) {place : Nat} {answer : Bool}
    (hanswer : usage.underway[place]? = some answer) :
    (usage.leave (usage.underway.eraseIdx place) answer).Orderly := by
  obtain ⟨hplace, -⟩ := List.getElem?_eq_some_iff.mp hanswer
  have halone := h.alone
  have hnobody : usage.underway.eraseIdx place = [] := by
    rw [← List.length_eq_zero_iff, List.length_eraseIdx_of_lt hplace]
    omega
  have hpending := h.pending
  rw [count_eraseIdx hanswer, hnobody, List.count_nil, Nat.zero_add] at hpending
  rw [hnobody]
  cases answer with
  | true =>
    -- The number is read while nobody else is underway, so it counts those that left.
    refine ⟨Nat.zero_le _, rfl, fun n older hsuffix => ?_⟩
    rcases List.suffix_cons_iff.mp hsuffix with heq | hlater
    · cases heq
      exact hpending
    · exact h.exact n older hlater
  | false =>
    refine ⟨Nat.zero_le _, ?_, fun n older hsuffix => ?_⟩
    · simpa [leave] using hpending
    · rcases List.suffix_cons_iff.mp hsuffix with heq | hlater
      · cases heq
      · exact h.exact n older hlater

/-- Callers that come one at a time keep it so that at most one is underway, and that whoever is let
through is told exactly of those since the one before. -/
theorem orderly_step (h : usage.Orderly) (hsound : usage.Sound name before) {event : Event}
    (halone : event.isEntered = true → usage.underway = [])
    (hfew : (usage.step event).refused < 18446744073709551616) : (usage.step event).Orderly := by
  cases event with
  | entered now =>
    have hnobody := halone rfl
    have hpending := h.pending
    have hbalances := hsound.balances
    rw [refused_entered] at hfew
    unfold Quota.Balances at hbalances
    rw [hnobody, List.count_nil, Nat.add_zero] at hpending
    refine ⟨?_, ?_, h.exact⟩
    · simp [step, hnobody]
    · rw [step, hnobody]
      dsimp only
      rw [Quota.toNat_blocked_allow fun hanswer => ?_, hpending]
      · cases (usage.throttle.quota.allow now).1 with
        | true => rfl
        | false => rfl
      · -- The count has room for one more, because it is part of the refused calls.
        rw [hanswer, if_neg Bool.false_ne_true] at hfew
        omega
  | went place =>
    rcases usage.step_went place with hsame | ⟨answer, hanswer, hleave⟩
    · rw [hsame]
      exact h
    · rw [hleave]
      exact orderly_leave h hanswer
  | counted metric n => exact ⟨h.alone, h.pending, h.exact⟩

/-- So does a run in which they come one at a time, by induction. -/
theorem orderly_run (h : usage.Orderly) (hsound : usage.Sound name before) {events : List Event}
    (hother : ∀ metric n, .counted metric n ∈ events → metric ≠ .throttled name)
    (hfew : (usage.run events).refused < 18446744073709551616) (hturn : usage.InTurn events) :
    (usage.run events).Orderly := by
  induction events generalizing usage with
  | nil => exact h
  | cons event rest ih =>
    have hnow := Nat.lt_of_le_of_lt ((usage.step event).refused_le_run rest) hfew
    have hsound' : (usage.step event).Sound name before :=
      sound_step hsound (fun metric n heq => hother metric n (heq ▸ List.mem_cons_self)) hnow
    exact ih (orderly_step h hsound hturn.1 hnow) hsound'
      (fun metric n hmem => hother metric n (List.mem_cons_of_mem _ hmem)) hfew hturn.2

end Usage

/-- **No suppressed report is lost or told twice**, under any readings of the clock, as long
as fewer than 2⁶⁴ calls are refused.

* In every run of calls on the quota, the refused calls are those that were told and those that
  are still counted. A new window changes neither.
* In every run of steps of any callers of the throttle, whoever comes in between, what the
  admitted callers came back with and what is still counted are together the callers that came
  back refused and the refused ones underway. The counter of the throttle, which nobody else
  touches, went up by one for each that came back refused.
* If callers come one at a time, every admitted one came back with the number of those that were
  refused since the one before.
* A caller whose two steps come one right after the other is one that asks the throttle. -/
theorem reports_run {name : String} {capacity : UInt64} {window : Duration} {started : Moment}
    {throttle : Throttle} (hcreate : create name capacity window started = .ok throttle) :
    (∀ calls, let usage := (Quota.Usage.start throttle.quota).run calls
      Quota.refusals usage.log < 18446744073709551616 →
        Quota.refusals usage.log = Quota.tellings usage.log + usage.quota.blocked.toNat ∧
        ∀ now, (usage.quota.roll now).blocked = usage.quota.blocked) ∧
    ∀ metrics events, (∀ metric n, .counted metric n ∈ events → metric ≠ .throttled name) →
      let usage := (Usage.start throttle metrics).run events
      usage.refused < 18446744073709551616 →
        told usage.answers + usage.throttle.quota.blocked.toNat =
          kept usage.answers + usage.underway.count false ∧
        (false ∉ usage.underway →
          told usage.answers + usage.throttle.quota.blocked.toNat = kept usage.answers) ∧
        usage.metrics.get (.throttled name) =
          metrics.get (.throttled name) + kept usage.answers ∧
        ((Usage.start throttle metrics).InTurn events →
          ∀ n older, some n :: older <:+ usage.answers → n.toNat = keptSince older) ∧
        ∀ now, (usage.step (.entered now)).step (.went usage.underway.length) =
          { throttle := (usage.throttle.ask now usage.metrics).2.1
            metrics := (usage.throttle.ask now usage.metrics).2.2
            underway := usage.underway
            answers := (usage.throttle.ask now usage.metrics).1 :: usage.answers } := by
  obtain ⟨hname, hblocked⟩ := fresh_of_create hcreate
  refine ⟨fun calls => ?_, fun metrics events hother => ?_⟩
  · intro usage hfew
    have hbalances := Quota.Usage.balances_run hblocked calls hfew
    exact ⟨hbalances.symm, usage.quota.blocked_roll⟩
  · intro usage hfew
    subst hname
    have hstart := Usage.sound_start hblocked metrics
    have hsound := Usage.sound_run hstart hother hfew
    refine ⟨hsound.balances, fun hnobody => ?_, hsound.counted, fun hturn => ?_, usage.ask_eq⟩
    -- With no refused caller underway, all of them came back.
    · refine hsound.balances.trans ?_
      rw [Usage.refused, List.count_eq_zero_of_not_mem hnobody]
      rfl
    · have horderly := Usage.orderly_start hblocked metrics
      exact (Usage.orderly_run horderly hstart hother hfew hturn).exact

/-- Of three callers two are refused. If they overlap, the admitted one may come back with the
report of one that is still underway. -/
theorem reports_run_of_three :
    ∃ throttle, create "auth" 1 ⟨10, by decide⟩ 100 = .ok throttle ∧
      let overlapping := (Usage.start throttle .empty).run
        [.entered 100, .entered 99, .went 1, .entered 101, .went 0]
      let inTurn := (Usage.start throttle .empty).run
        [.entered 100, .went 0, .entered 99, .went 0, .entered 101, .went 0, .entered 110, .went 0]
      overlapping.answers = [some 2, none] ∧
        told overlapping.answers + overlapping.throttle.quota.blocked.toNat =
          kept overlapping.answers + overlapping.underway.count false ∧
        inTurn.answers = [some 2, none, none, some 0] ∧
        (2 : UInt64).toNat = keptSince [none, none, some 0] := by
  obtain ⟨throttle, hcreate⟩ :
    ∃ throttle, create "auth" 1 ⟨10, by decide⟩ 100 = .ok throttle := ⟨_, rfl⟩
  obtain ⟨-, hruns⟩ := reports_run hcreate
  have hoverlapping := hruns .empty
    [.entered 100, .entered 99, .went 1, .entered 101, .went 0] (by simp)
  have hinTurn := hruns .empty
    [.entered 100, .went 0, .entered 99, .went 0, .entered 101, .went 0, .entered 110, .went 0]
    (by simp)
  refine ⟨throttle, hcreate, ?_⟩
  cases hcreate
  refine ⟨by decide, (hoverlapping (by decide)).1, by decide, ?_⟩
  exact (hinTurn (by decide)).2.2.2.1 (by decide) _ _ (by decide)

end Gatekeeper.Throttle
