import Gatekeeper.Proofs.Time.Timestamp

/-!
# `Gatekeeper.Proofs.Time.Clamp`: going back clamps at the least instant

Going back can fail in two places. The span may be too long to move an instant by, and the instant
that it leads to may not exist. Both yield the least instant, and both only happen where the exact
instant would lie before it. So there is no jump at either limit, and going back is subtraction of
elapsed time with the least instant as its floor.

* `before_eq_iff`: which instant lies a span earlier, said without the two checks.
* `elapsed_lt_of_shift?`, `back?_eq_none_iff`: each check fails only below the least instant.
* `before_le_of_le`: a longer span leads to no later reading.
* `before_le_before_iff`: a later start to no earlier one, except that two starts on both sides of
  the end of a leap second may change places.
-/

set_option autoImplicit false

namespace Gatekeeper.Timestamp

/-- An instant is its parts. -/
theorem eq_of_parts {a b : Timestamp} (hseconds : a.seconds = b.seconds)
    (hnanos : a.nanos = b.nanos) : a = b := by
  cases a
  cases b
  cases hseconds
  cases hnanos
  rfl

/-- Two instants with the same time elapsed are one if they both lie inside leap seconds or both
do not. -/
theorem eq_of_elapsed {a b : Timestamp} (helapsed : a.elapsed = b.elapsed)
    (hleap : 1000000000 ≤ a.nanos ↔ 1000000000 ≤ b.nanos) : a = b := by
  have ha := a.nanos_lt
  have hb := b.nanos_lt
  unfold elapsed at helapsed
  apply eq_of_parts
  · omega
  · omega

/-! ### The exact instant -/

variable {t : Timestamp}

/-- Going back ends inside a leap second only if it starts there and the span is short. -/
theorem leap_before_iff (t : Timestamp) (span : Duration) :
    1000000000 ≤ (t.before span).nanos ↔ span.nanos + 1000000000 ≤ t.nanos := by
  rcases before_cases t span with ⟨-, -, hnanos⟩ | ⟨hbeyond, -, hnanos⟩ | ⟨hbeyond, -, hend⟩
  · omega
  · omega
  · have hzero : (t.before span).nanos = 0 := by
      rw [hend]
      rfl
    omega

/-- The instant a span earlier: no other has the exact time elapsed, or that of the least instant,
and lies inside a leap second just if the span does not lead out of one. -/
theorem before_eq_iff {span : Duration} {result : Timestamp} :
    t.before span = result ↔
      result.elapsed = max (t.elapsed - span.nanos) least.elapsed ∧
        (1000000000 ≤ result.nanos ↔ span.nanos + 1000000000 ≤ t.nanos) := by
  constructor
  · rintro rfl
    exact ⟨elapsed_before t span, leap_before_iff t span⟩
  · rintro ⟨helapsed, hleap⟩
    apply eq_of_elapsed
    · rw [elapsed_before, helapsed]
    · rw [leap_before_iff, hleap]

/-- Going back ends at the least instant just if the exact one is not later. -/
theorem before_eq_least_iff {span : Duration} :
    t.before span = least ↔ t.elapsed - span.nanos ≤ least.elapsed := by
  have hge := t.seconds_ge
  rw [before_eq_iff]
  simp only [elapsed, least]
  omega

/-! ### The two checks -/

/-- A span too long to move an instant by is longer than all of time. -/
theorem elapsed_lt_of_shift? {span : Duration} (h : shift? span = none) (t : Timestamp) :
    t.elapsed - span.nanos < least.elapsed := by
  have hle := t.seconds_le
  have hnanos := t.nanos_lt
  unfold shift? at h
  split at h
  · cases h
  · simp only [elapsed, least]
    omega

/-- Parts beyond their limits are those of no instant. -/
theorem ofParts?_eq_none_iff {seconds : Int} {nanos : Nat} :
    ofParts? seconds nanos = none ↔ ¬(-8334601228800 ≤ seconds ∧ seconds ≤ 8210266876799 ∧
      nanos < 2 * 1000000000 ∧ (1000000000 ≤ nanos → seconds % 60 = 59)) := by
  unfold ofParts?
  split <;> simp_all

/-- There is no instant that much earlier just if it would lie before the least one. -/
theorem back?_eq_none_iff {nanos : Nat} :
    t.back? nanos = none ↔ t.elapsed - nanos < least.elapsed := by
  have hge := t.seconds_ge
  have hle := t.seconds_le
  have hnanos := t.nanos_lt
  have hleap := t.leap
  unfold back?
  simp only [elapsed, least]
  split
  · rw [ofParts?_eq_none_iff]
    omega
  · rw [ofParts?_eq_none_iff]
    omega

/-! ### Later starts and longer spans -/

/-- A longer span leads to no later reading. -/
theorem before_le_of_le (t : Timestamp) {short long : Duration} (h : short.nanos ≤ long.nanos) :
    t.before long ≤ t.before short := by
  apply le_of_elapsed_le (elapsed_before_le (Int.le_refl _) h)
  intro hleap
  rw [seconds_before_of_leap hleap]
  exact seconds_le_of_le (before_le t long)

/-- No time earlier is now. -/
theorem before_zero (t : Timestamp) : t.before .zero = t := by
  have hleast := least_elapsed_le t
  have hzero : Duration.zero.nanos = 0 := rfl
  rw [before_eq_iff, hzero]
  omega

/-- The spans that all keep two readings in order. Two starts that are in order by the reading alone
change places for the span that leads the later one into the second of the other. -/
theorem before_le_before_iff {earlier later : Timestamp} :
    (∀ span, earlier.before span ≤ later.before span) ↔ later.NotBefore earlier := by
  constructor
  · intro h
    have hreads : earlier ≤ later := by
      have hzero := h .zero
      rwa [before_zero, before_zero] at hzero
    refine ⟨hreads, fun hleap => Int.not_lt.mp fun hless => ?_⟩
    have hnanos := earlier.nanos_lt
    have hoverlap :
        later.seconds = earlier.seconds + 1 ∧ later.nanos + 1000000000 < earlier.nanos := by
      rw [le_iff] at hreads
      unfold elapsed at hless
      omega
    let span : Duration := ⟨later.nanos + 1, by omega⟩
    have hspan : span.nanos = later.nanos + 1 := rfl
    -- The later start leaves its second, and the earlier one stays inside the leap second.
    have hinside := (leap_before_iff earlier span).mpr (by omega)
    have houtside : ¬1000000000 ≤ (later.before span).nanos := by
      rw [leap_before_iff]
      omega
    have hseconds : (later.before span).seconds = earlier.seconds := by
      have helapsed := elapsed_before later span
      have hge := earlier.seconds_ge
      simp only [elapsed, least] at helapsed
      omega
    have hle := le_iff.mp (h span)
    rw [seconds_before_of_leap hinside, hseconds] at hle
    omega
  · exact before_le_before

end Gatekeeper.Timestamp
