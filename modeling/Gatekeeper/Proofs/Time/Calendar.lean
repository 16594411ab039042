import Gatekeeper.Time.Calendar
import Mathlib.Algebra.GroupWithZero.Nat

/-!
# `Gatekeeper.Proofs.Time.Calendar`: days and their dates

A year starts on the day after its predecessor ends, and its months follow each other in the same
way. `ofDay` finds the year by dividing through cycles of years, and the month by walking along
the lengths; `toDay` adds the same lengths up again.

* `daysBeforeYear_succ`: a year has the days of its months, leap years included.
* `ofDay_cases`: the year of a day, and the day's place in it.
* `toDay_ofDay`: a date has the number of the day that it was made of.
* `isValid_ofDay`: the calendar has the date of every day of its years.
-/

set_option autoImplicit false

namespace Gatekeeper.Time

/-- Every fourth year is a leap year, but for three centuries out of four. -/
theorem isLeapYear_iff {year : Int} :
    isLeapYear year = true ↔ year % 4 = 0 ∧ (year % 100 ≠ 0 ∨ year % 400 = 0) := by
  simp [isLeapYear]

/-- The months of a year add up to its days. -/
theorem sum_monthLengths (leap : Bool) :
    (monthLengths leap).sum = if leap then 366 else 365 := by
  cases leap <;> rfl

namespace Date

/-! ### Years -/

/-- The next year starts where the months of a year end. -/
theorem daysBeforeYear_succ (year : Int) :
    daysBeforeYear (year + 1) = daysBeforeYear year + (monthLengths (isLeapYear year)).sum := by
  rw [sum_monthLengths]
  unfold daysBeforeYear
  dsimp only
  split
  next hleap =>
    rw [isLeapYear_iff] at hleap
    omega
  next hleap =>
    rw [isLeapYear_iff] at hleap
    omega

/-- Later years start later. -/
theorem daysBeforeYear_le {a b : Int} (h : a ≤ b) : daysBeforeYear a ≤ daysBeforeYear b := by
  unfold daysBeforeYear
  dsimp only
  omega

section Cycles

variable (cycles : Int) {century four one : Nat}

/-- The days before a year, counted in cycles of 400 years, centuries, four years and years. -/
theorem daysBeforeYear_cycles (hcentury : century ≤ 3) (hfour : four ≤ 24) (hone : one ≤ 3) :
    daysBeforeYear (cycles * 400 + (century * 100 + four * 4 + one : Nat) + 1) =
      cycles * 146097 + (century * 36524 + four * 1461 + one * 365 : Nat) := by
  unfold daysBeforeYear
  dsimp only
  omega

/-- A leap year ends four years, but no century other than the last of a cycle. -/
theorem isLeapYear_cycles (hcentury : century ≤ 3) (hfour : four ≤ 24) (hone : one ≤ 3) :
    isLeapYear (cycles * 400 + (century * 100 + four * 4 + one : Nat) + 1) = true ↔
      one = 3 ∧ (four = 24 → century = 3) := by
  rw [isLeapYear_iff]
  omega

end Cycles

/-! ### Months -/

/-- A sum may be started anywhere. -/
theorem foldl_add_eq (lengths : List Nat) (n : Nat) :
    lengths.foldl (· + ·) n = lengths.sum + n := by
  have hassoc : lengths.foldl (· + ·) (n + 0) = n + lengths.foldl (· + ·) 0 := List.foldl_assoc
  rw [Nat.add_comm, List.sum_eq_foldl_nat, ← hassoc, Nat.add_zero]

/-- A day that the months have lies in one of them, after the days of the months before it. -/
theorem splitDay_cases (month : Nat) {n : Nat} {lengths : List Nat} (h : n < lengths.sum) :
    ∃ past day, splitDay month lengths n = (month + past, day + 1) ∧ past < lengths.length ∧
      day < lengths.getD past 0 ∧ (lengths.take past).sum + day = n := by
  -- The walk takes off one length at a time, and `past` counts them.
  induction lengths generalizing month n with
  | nil => exact absurd h (Nat.not_lt_zero n)
  | cons length lengths ih =>
    rw [splitDay]
    split
    next hlt => exact ⟨0, n, rfl, Nat.succ_pos _, hlt, Nat.zero_add n⟩
    next hge =>
      rw [List.sum_cons] at h
      have hrest : n - length < lengths.sum := by omega
      obtain ⟨past, day, hsplit, hpast, hday, hsum⟩ := ih (month + 1) hrest
      refine ⟨past + 1, day, ?_, Nat.succ_lt_succ hpast, hday, ?_⟩
      · rw [hsplit, Nat.add_assoc, Nat.add_comm 1 past]
      · rw [List.take_succ_cons, List.sum_cons]
        omega

/-! ### Days -/

/-- The year of a day has the day, at a place that its months lead to. -/
theorem ofDay_cases (day : Int) :
    ∃ (year : Int) (inYear : Nat), daysBeforeYear year + inYear = day + epochDay ∧
      inYear < (monthLengths (isLeapYear year)).sum ∧
      ofDay day = ⟨year, (splitDay 1 (monthLengths (isLeapYear year)) inYear).1,
        (splitDay 1 (monthLengths (isLeapYear year)) inYear).2⟩ := by
  -- The year and the place in it are those that the definition computes from its quotients.
  refine ⟨_, _, ?_, ?_, rfl⟩
  · rw [daysBeforeYear_cycles _ (by omega) (by omega) (by omega)]
    omega
  · rw [sum_monthLengths]
    split
    next => omega
    next hleap =>
      rw [isLeapYear_cycles _ (by omega) (by omega) (by omega)] at hleap
      omega

/-- The date of a day has the number of the day. -/
theorem toDay_ofDay (day : Int) : (ofDay day).toDay = day := by
  obtain ⟨year, inYear, hyear, hinYear, hdate⟩ := ofDay_cases day
  obtain ⟨past, dayOfMonth, hsplit, -, -, hsum⟩ := splitDay_cases 1 hinYear
  rw [hdate, hsplit]
  unfold toDay
  dsimp only
  rw [Nat.add_sub_cancel_left, Nat.add_sub_cancel, foldl_add_eq, hsum]
  omega

/-- The calendar has the date of every day of its years. -/
theorem isValid_ofDay {day : Int} (hlow : daysBeforeYear minYear ≤ day + epochDay)
    (hhigh : day + epochDay < daysBeforeYear (maxYear + 1)) : (ofDay day).isValid = true := by
  obtain ⟨year, inYear, hyear, hinYear, hdate⟩ := ofDay_cases day
  obtain ⟨past, dayOfMonth, hsplit, hpast, hday, -⟩ := splitDay_cases 1 hinYear
  have hmin : minYear ≤ year := by
    apply Int.not_lt.mp
    intro hlt
    -- The year would be over before the first one starts.
    have hle : daysBeforeYear (year + 1) ≤ daysBeforeYear minYear := daysBeforeYear_le hlt
    rw [daysBeforeYear_succ] at hle
    omega
  have hmax : year ≤ maxYear := by
    apply Int.not_lt.mp
    intro hlt
    have hle : daysBeforeYear (maxYear + 1) ≤ daysBeforeYear year := daysBeforeYear_le hlt
    omega
  have hmonths : (monthLengths (isLeapYear year)).length = 12 := by
    cases isLeapYear year <;> rfl
  rw [hdate, hsplit]
  unfold isValid
  simp only [Bool.and_eq_true, decide_eq_true_eq, Nat.add_sub_cancel_left]
  refine ⟨⟨⟨⟨⟨hmin, hmax⟩, ?_⟩, ?_⟩, ?_⟩, hday⟩
  · omega
  · omega
  · omega

/-- Months and days of the calendar have at most two digits. -/
theorem bounds_of_isValid {date : Date} (h : date.isValid = true) :
    (1 ≤ date.month ∧ date.month ≤ 12) ∧ 1 ≤ date.day ∧ date.day ≤ 31 := by
  have hlengths : ∀ leap, ∀ past < 12, (monthLengths leap).getD past 0 ≤ 31 := by decide
  unfold isValid at h
  simp only [Bool.and_eq_true, decide_eq_true_eq] at h
  obtain ⟨⟨⟨⟨-, hmonth⟩, hmonth'⟩, hday⟩, hlength⟩ := h
  exact ⟨⟨hmonth, hmonth'⟩, hday, Nat.le_trans hlength (hlengths _ _ (by omega))⟩

end Date

end Gatekeeper.Time
