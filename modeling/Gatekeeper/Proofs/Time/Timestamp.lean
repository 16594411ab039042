import Gatekeeper.Time.Timestamp

/-!
# `Gatekeeper.Proofs.Time.Timestamp`: the order of instants, and going back in time

Instants are compared by their parts: the seconds first, then the nanoseconds. Spans of
time are taken off the elapsed nanoseconds. The two views agree except inside a leap
second, which overlaps the first second of the next minute: there an instant with fewer
seconds may have more nanoseconds elapsed.

* `before_cases`: the exact instant a span earlier, or the least one where that instant
  would lie before it.
* `elapsed_before`: the time elapsed there.
* `elapsed_before_le`: it grows with that of the start and shrinks with the span.
* `before_le_before`: an instant that is not before another one stays so when the same
  span is taken off both. `NotBefore` is the order of the parts, and for an instant inside
  a leap second that of the elapsed time as well; everywhere else the one entails the
  other (`NotBefore.elapsed_le`).
-/

set_option autoImplicit false

namespace Gatekeeper.Timestamp

/-! ### The order -/

/-- One instant is before another if its second is, or its nanoseconds in the same second are. -/
theorem lt_iff {a b : Timestamp} :
    a < b ↔ a.seconds < b.seconds ∨ a.seconds = b.seconds ∧ a.nanos < b.nanos := by
  show blt a b = true ↔ _
  simp [blt]

/-- What is not earlier is no less: the order is total. -/
theorem not_lt {a b : Timestamp} : ¬a < b ↔ b ≤ a := Iff.rfl

/-- One instant is no later than another if its second is earlier, or its nanoseconds are no more in
the same second. -/
theorem le_iff {a b : Timestamp} :
    a ≤ b ↔ a.seconds < b.seconds ∨ a.seconds = b.seconds ∧ a.nanos ≤ b.nanos := by
  rw [← not_lt, lt_iff]
  omega

/-- An instant that is no later is in no later second. -/
theorem seconds_le_of_le {a b : Timestamp} (h : a ≤ b) : a.seconds ≤ b.seconds := by
  rw [le_iff] at h
  omega

/-- An instant is no later than itself. -/
theorem le_refl (a : Timestamp) : a ≤ a := by
  rw [le_iff]
  omega

/-- The order is transitive. -/
theorem le_trans {a b c : Timestamp} (hab : a ≤ b) (hbc : b ≤ c) : a ≤ c := by
  rw [le_iff] at hab hbc ⊢
  omega

/-- No instant is before the least one. -/
theorem least_le (a : Timestamp) : least ≤ a := by
  have := a.seconds_ge
  rw [le_iff]
  simp only [least]
  omega

/-! ### Elapsed time -/

/-- The nanoseconds since the epoch. -/
def elapsed (t : Timestamp) : Int := t.seconds * 1000000000 + t.nanos

/-- No less time has elapsed at an instant than at the least one. -/
theorem least_elapsed_le (t : Timestamp) : least.elapsed ≤ t.elapsed := by
  have hge := t.seconds_ge
  simp only [elapsed, least]
  omega

/-- If no less time has elapsed at an instant, it reads no earlier, unless it lies inside a leap
second that overlaps the seconds of the other. -/
theorem le_of_elapsed_le {a b : Timestamp} (helapsed : a.elapsed ≤ b.elapsed)
    (hleap : 1000000000 ≤ b.nanos → a.seconds ≤ b.seconds) : a ≤ b := by
  unfold elapsed at helapsed
  rw [le_iff]
  omega

/-- One instant is not before another: it reads no earlier, and if the other one lies inside
a leap second, no less time has elapsed at it. -/
structure NotBefore (later earlier : Timestamp) : Prop where
  reads : earlier ≤ later
  leap : 1000000000 ≤ earlier.nanos → earlier.elapsed ≤ later.elapsed

/-- Away from leap seconds the reading alone decides. -/
theorem notBefore_iff_le {later earlier : Timestamp} (h : earlier.nanos < 1000000000) :
    later.NotBefore earlier ↔ earlier ≤ later :=
  ⟨NotBefore.reads, fun hle => ⟨hle, fun hleap => absurd hleap (Nat.not_le_of_lt h)⟩⟩

/-- At an instant that is not before another one, no less time has elapsed. Outside a leap second
the reading alone says so. -/
theorem NotBefore.elapsed_le {later earlier : Timestamp} (h : later.NotBefore earlier) :
    earlier.elapsed ≤ later.elapsed := by
  by_cases hleap : 1000000000 ≤ earlier.nanos
  · exact h.leap hleap
  · have hreads := le_iff.mp h.reads
    unfold elapsed
    omega

/-! ### Going back -/

/-- Parts within their limits are those of an instant. -/
theorem ofParts?_eq_some (seconds : Int) (nanos : Nat)
    (h : -8334601228800 ≤ seconds ∧ seconds ≤ 8210266876799 ∧ nanos < 2 * 1000000000 ∧
      (1000000000 ≤ nanos → seconds % 60 = 59)) :
    ofParts? seconds nanos = some ⟨seconds, nanos, h.1, h.2.1, h.2.2.1, h.2.2.2⟩ :=
  dif_pos h

/-- The three ways to go back by a span. It ends within the second where it starts, a leap
second included; or it ends in an earlier second, with exactly the span less elapsed; or
there is no instant that early, and it ends at the least one. -/
theorem before_cases (t : Timestamp) (span : Duration) :
    (span.nanos ≤ t.nanos ∧ (t.before span).seconds = t.seconds ∧
        (t.before span).nanos + span.nanos = t.nanos) ∨
      (t.nanos < span.nanos ∧ (t.before span).elapsed = t.elapsed - span.nanos ∧
        (t.before span).nanos < 1000000000) ∨
      (t.nanos < span.nanos ∧ t.elapsed - span.nanos < least.elapsed ∧
        t.before span = least) := by
  have hge := t.seconds_ge
  have hle := t.seconds_le
  have hnanos := t.nanos_lt
  by_cases hwithin : span.nanos ≤ t.nanos
  · -- The seconds stay, so the parts are those of an instant.
    have hshift : shift? span = some span.nanos := if_pos (by omega)
    have hparts := ofParts?_eq_some t.seconds (t.nanos - span.nanos)
      ⟨hge, hle, by omega, fun h => t.leap (by omega)⟩
    refine .inl ⟨hwithin, ?_⟩
    rw [before, hshift, Option.bind_some, back?, if_pos hwithin, hparts]
    exact ⟨rfl, Nat.sub_add_cancel hwithin⟩
  have hbeyond : t.nanos < span.nanos := Nat.lt_of_not_le hwithin
  refine .inr ?_
  by_cases hexists : least.elapsed ≤ t.elapsed - span.nanos
  · simp only [elapsed, least] at hexists
    have hshift : shift? span = some span.nanos := if_pos (by omega)
    have hparts := ofParts?_eq_some ((t.seconds * 1000000000 + t.nanos - span.nanos) / 1000000000)
      ((t.seconds * 1000000000 + t.nanos - span.nanos) % 1000000000).toNat
      ⟨by omega, by omega, by omega, fun h => by omega⟩
    refine .inl ⟨hbeyond, ?_⟩
    rw [before, hshift, Option.bind_some, back?, if_neg hwithin]
    simp only [hparts, Option.getD_some, elapsed]
    omega
  · -- A span too long to move an instant by would end before the least one as well.
    have hshort := Int.lt_of_not_ge hexists
    refine .inr ⟨hbeyond, hshort, ?_⟩
    simp only [elapsed, least] at hshort
    unfold before shift?
    split
    · have hnone : back? t span.nanos = none := by
        rw [back?, if_neg hwithin]
        exact dif_neg (by omega)
      rw [Option.bind_some, hnone, Option.getD_none]
    · rfl

/-- Going back does not lead to a later instant. -/
theorem before_le (t : Timestamp) (span : Duration) : t.before span ≤ t := by
  rcases before_cases t span with ⟨-, hseconds, hnanos⟩ | ⟨hbeyond, helapsed, -⟩ | ⟨-, -, hleast⟩
  · rw [le_iff]
    omega
  · -- The span is longer than what the last second has to give.
    rw [le_iff]
    unfold elapsed at helapsed
    omega
  · rw [hleast]
    exact least_le t

/-- The elapsed time is the exact one, or that of the least instant where this is later. -/
theorem elapsed_before (t : Timestamp) (span : Duration) :
    (t.before span).elapsed = max (t.elapsed - span.nanos) least.elapsed := by
  have hleast := least_elapsed_le (t.before span)
  rcases before_cases t span with ⟨-, hseconds, hnanos⟩ | ⟨-, helapsed, -⟩ | ⟨-, hshort, hend⟩
  · -- Within one second the nanoseconds make up all of the span.
    have hexact : (t.before span).elapsed = t.elapsed - span.nanos := by
      unfold elapsed
      omega
    omega
  · omega
  · rw [hend]
    omega

/-- Going back ends inside a leap second only within the second where it starts. -/
theorem seconds_before_of_leap {t : Timestamp} {span : Duration}
    (h : 1000000000 ≤ (t.before span).nanos) : (t.before span).seconds = t.seconds := by
  rcases before_cases t span with ⟨-, hseconds, -⟩ | ⟨-, -, hnanos⟩ | ⟨-, -, hend⟩
  · exact hseconds
  · exact absurd hnanos (Nat.not_lt_of_le h)
  · rw [hend] at h
    exact absurd h (by decide)

/-- Going back from a later start by a shorter span leaves more time elapsed. -/
theorem elapsed_before_le {earlier later : Timestamp} {short long : Duration}
    (hstart : earlier.elapsed ≤ later.elapsed) (hspan : short.nanos ≤ long.nanos) :
    (earlier.before long).elapsed ≤ (later.before short).elapsed := by
  rw [elapsed_before, elapsed_before]
  omega

/-- Going back by the same span keeps two instants in order. -/
theorem before_le_before {later earlier : Timestamp} (h : later.NotBefore earlier)
    (span : Duration) : earlier.before span ≤ later.before span := by
  apply le_of_elapsed_le (elapsed_before_le h.elapsed_le (Nat.le_refl _))
  intro hleap
  rw [seconds_before_of_leap hleap]
  exact Int.le_trans (seconds_le_of_le (before_le earlier span)) (seconds_le_of_le h.reads)

end Gatekeeper.Timestamp
