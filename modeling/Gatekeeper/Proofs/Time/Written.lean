import Gatekeeper.Proofs.Text.Decimal
import Gatekeeper.Proofs.Time.Calendar
import Gatekeeper.Proofs.Time.Timestamp
import Gatekeeper.Time.Written

/-!
# `Gatekeeper.Proofs.Time.Written`: instants are read back from their text

Every part of the text is a run of digits that ends at a mark, so a reader that takes digits as
long as there are any takes just the part. `NoDigit` says so of what follows.

* `readNumber?_digits`: digits are read up to the mark that ends them.
* `readYear?_writeYear`, `readFraction?_writeFraction`: a year of any length and sign, and a
  fraction of any precision.
* `read?_write`: every instant is read back, inside leap seconds too.
-/

set_option autoImplicit false

namespace Gatekeeper.Timestamp

open Gatekeeper.Text Gatekeeper.Time

/-! ### Digits -/

/-- The text does not start with a digit. -/
def NoDigit (cs : List Char) : Prop := ∀ c ∈ cs.head?, isDigit c = false

/-- A text that begins with something else than a digit does not go on a number. -/
theorem noDigit_cons {c : Char} (h : isDigit c = false) (cs : List Char) : NoDigit (c :: cs) := by
  rintro d ⟨⟩
  exact h

/-- The value of digits is the one that the standard library gives them. -/
theorem digitsValue_eq (digits : List Char) :
    digitsValue digits = Nat.ofDigitChars 10 digits 0 := rfl

/-- Zeros behind a number make it ten times as much each. -/
theorem digitsValue_append_zeros (digits : List Char) (count : Nat) :
    digitsValue (digits ++ List.replicate count '0') = digitsValue digits * 10 ^ count := by
  rw [digitsValue_eq, digitsValue_eq, Nat.ofDigitChars_append, Nat.ofDigitChars_replicate_zero,
    Nat.mul_comm]

/-- Zeros in front of a number are worth nothing. -/
theorem digitsValue_padded (width n : Nat) : digitsValue (padded width n) = n := by
  unfold padded Decimal.write
  dsimp only
  rw [digitsValue_eq, Nat.ofDigitChars_append, Nat.ofDigitChars_replicate_zero, Nat.mul_zero,
    Nat.ofDigitChars_ten_toDigits]

/-- A padded number is all digits. -/
theorem isDigit_of_mem_padded {width n : Nat} {c : Char} (h : c ∈ padded width n) :
    isDigit c = true := by
  unfold padded at h
  rcases List.mem_append.mp h with hzero | hdigit
  · rw [List.eq_of_mem_replicate hzero]
    rfl
  · exact Decimal.isDigit_of_mem_write hdigit

/-- A padded number is not empty. -/
theorem padded_ne_nil (width n : Nat) : padded width n ≠ [] := by
  unfold padded
  exact List.append_ne_nil_of_right_ne_nil _ Nat.toDigits_ne_nil

/-- A number that the width has room for fills it. -/
theorem length_padded {width n : Nat} (hwidth : 0 < width) (h : n < 10 ^ width) :
    (padded width n).length = width := by
  have hlength : (Decimal.write n).length ≤ width :=
    (Nat.length_toDigits_le_iff (by decide) hwidth).mpr h
  unfold padded
  rw [List.length_append, List.length_replicate]
  omega

/-! ### Parts of the text -/

section Parts

variable {rest : List Char}

/-- A run of digits within the width ends at the mark behind it. -/
theorem takeWhile_take_digits {width : Nat} {digits : List Char}
    (hdigits : ∀ c ∈ digits, isDigit c = true) (hwidth : digits.length ≤ width)
    (hrest : NoDigit rest) : ((digits ++ rest).take width).takeWhile isDigit = digits := by
  rw [List.take_append, List.take_of_length_le hwidth]
  refine (span_append hdigits fun c hc => hrest c ?_).1
  rw [List.head?_take] at hc
  split at hc
  · cases hc
  · exact hc

/-- Digits are read up to the mark that ends them. -/
theorem readNumber?_digits {width : Nat} {digits : List Char} (hne : digits ≠ [])
    (hdigits : ∀ c ∈ digits, isDigit c = true) (hwidth : digits.length ≤ width)
    (hrest : NoDigit rest) :
    readNumber? width (digits ++ rest) = some (digitsValue digits, rest) := by
  unfold readNumber?
  rw [takeWhile_take_digits hdigits hwidth hrest]
  cases digits with
  | nil => exact absurd rfl hne
  | cons c digits =>
    dsimp only
    rw [List.drop_left]

/-- A padded number is read back, up to where no digit follows. -/
theorem readNumber?_padded {width limit n : Nat} (hlimit : (padded width n).length ≤ limit)
    (hrest : NoDigit rest) : readNumber? limit (padded width n ++ rest) = some (n, rest) := by
  rw [readNumber?_digits (padded_ne_nil width n) (fun _ => isDigit_of_mem_padded) hlimit hrest,
    digitsValue_padded]

/-- No blanks stand in front of a number. -/
theorem trimStart_padded (width n : Nat) (rest : List Char) :
    trimStart (padded width n ++ rest) = padded width n ++ rest := by
  obtain ⟨c, digits, hpadded⟩ := List.exists_cons_of_ne_nil (padded_ne_nil width n)
  have hdigit : isDigit c = true := isDigit_of_mem_padded (hpadded ▸ List.mem_cons_self)
  have hblank : ¬isBlank c = true := Bool.eq_false_iff.mp (isBlank_of_isDigit hdigit)
  rw [hpadded, List.cons_append, trimStart, List.dropWhile_cons_of_neg hblank]

/-- A number of two digits within its bounds. -/
theorem readItem?_padded {low high n : Nat} (hlow : low ≤ n) (hhigh : n ≤ high) (h : n < 100)
    (hrest : NoDigit rest) : readItem? low high (padded 2 n ++ rest) = some (n, rest) := by
  have hlength : (padded 2 n).length ≤ 2 := Nat.le_of_eq (length_padded (by decide) h)
  unfold readItem?
  rw [trimStart_padded, readNumber?_padded hlength hrest]
  exact if_pos ⟨hlow, hhigh⟩

/-- A year, whatever its sign and length. -/
theorem readYear?_writeYear (year : Int) (hrest : NoDigit rest) :
    readYear? (writeYear year ++ rest) = some (year, rest) := by
  have hread : ∀ n, readNumber? (padded 4 n ++ rest).length (padded 4 n ++ rest) =
      some (n, rest) := by
    intro n
    refine readNumber?_padded ?_ hrest
    rw [List.length_append]
    exact Nat.le_add_right _ _
  unfold writeYear
  split
  next hshort =>
    -- Four digits, and no sign in front of them.
    have hlength : (padded 4 year.toNat).length ≤ 4 :=
      Nat.le_of_eq (length_padded (by decide) (by omega))
    obtain ⟨c, digits, hpadded⟩ := List.exists_cons_of_ne_nil (padded_ne_nil 4 year.toNat)
    have hdigit : isDigit c = true := isDigit_of_mem_padded (hpadded ▸ List.mem_cons_self)
    have hfour := readNumber?_padded hlength hrest
    unfold readYear?
    rw [trimStart_padded]
    rw [hpadded, List.cons_append] at hfour ⊢
    split
    next heq => exact absurd (List.cons.inj heq).1 (ne_of_isDigit hdigit (by decide))
    next heq => exact absurd (List.cons.inj heq).1 (ne_of_isDigit hdigit (by decide))
    next =>
      rw [hfour]
      show some ((year.toNat : Int), rest) = _
      rw [Int.toNat_of_nonneg hshort.1]
  next hlong =>
    split
    next hneg =>
      have hyear : -(year.natAbs : Int) = year := by omega
      show (readNumber? (padded 4 year.natAbs ++ rest).length (padded 4 year.natAbs ++ rest)).map
        (fun read => (-(read.1 : Int), read.2)) = _
      rw [hread, Option.map_some, hyear]
    next hpos =>
      have hyear : (year.natAbs : Int) = year := by omega
      show (readNumber? (padded 4 year.natAbs ++ rest).length (padded 4 year.natAbs ++ rest)).map
        (fun read => ((read.1 : Int), read.2)) = _
      rw [hread, Option.map_some, hyear]

/-- The digits behind a point are the leading ones of nine. -/
theorem readFraction?_padded {width n : Nat} (hpos : 0 < width) (hwidth : width ≤ 9)
    (h : n < 10 ^ width) (hrest : NoDigit rest) :
    readFraction? ('.' :: padded width n ++ rest) = some (n * 10 ^ (9 - width), rest) := by
  have hlength : (padded width n).length = width := length_padded hpos h
  have hdigits : ∀ c ∈ padded width n, isDigit c = true := fun _ => isDigit_of_mem_padded
  have hvalue := digitsValue_append_zeros (padded width n) (9 - width)
  rw [digitsValue_padded] at hvalue
  rw [List.cons_append, readFraction?]
  rw [takeWhile_take_digits hdigits (hlength.trans_le hwidth) hrest]
  obtain ⟨c, digits, hpadded⟩ := List.exists_cons_of_ne_nil (padded_ne_nil width n)
  rw [hpadded] at hlength hdigits hvalue ⊢
  dsimp only
  rw [hlength, hvalue, (span_append hdigits hrest).2]

/-- A fraction, in as few digits as it was written with. -/
theorem readFraction?_writeFraction {nanos : Nat} (h : nanos < 1000000000) (hrest : NoDigit rest)
    (hpoint : ∀ tail, rest ≠ '.' :: tail) :
    readFraction? (writeFraction nanos ++ rest) = some (nanos, rest) := by
  -- The writer picks no digits, three, six or nine, whichever is exact.
  unfold writeFraction
  split
  next hzero =>
    rw [hzero, List.nil_append]
    unfold readFraction?
    split
    next tail => exact absurd rfl (hpoint tail)
    next => rfl
  split
  next hmillis =>
    rw [readFraction?_padded (by decide) (by decide) (by omega) hrest]
    congr 2
    omega
  split
  next hmicros =>
    rw [readFraction?_padded (by decide) (by decide) (by omega) hrest]
    congr 2
    omega
  next =>
    rw [readFraction?_padded (by decide) (by decide) (by omega) hrest, Nat.sub_self, Nat.pow_zero,
      Nat.mul_one]

/-- A mark that is no blank is found at once. -/
theorem readMark?_cons (mark : Char) (h : isBlank mark = false) (rest : List Char) :
    readMark? mark (mark :: rest) = some rest := by
  have hblank : ¬isBlank mark = true := Bool.eq_false_iff.mp h
  rw [readMark?, trimStart, List.dropWhile_cons_of_neg hblank]
  exact if_pos rfl

end Parts

/-! ### Instants -/

/-- A text of dates and times in the form of this library is the instant of its parts. -/
theorem read?_parts {date : Date} {hour minute second nanos : Nat} (hdate : date.isValid = true)
    (hhour : hour ≤ 23) (hminute : minute ≤ 59) (hsecond : second ≤ 60)
    (hnanos : nanos < 1000000000) :
    read? (String.ofList (writeYear date.year ++ '-' :: padded 2 date.month ++
        '-' :: padded 2 date.day ++ 'T' :: padded 2 hour ++ ':' :: padded 2 minute ++
        ':' :: padded 2 second ++ writeFraction nanos ++ ['Z'])) =
      let (second, nanos) := if second = 60 then (59, nanos + 1000000000) else (second, nanos)
      ofParts? (date.toDay * 86400 + (hour * 3600 + minute * 60 + second : Nat)) nanos := by
  obtain ⟨⟨hmonth, hmonth'⟩, hday, hday'⟩ := Date.bounds_of_isValid hdate
  have hfraction : NoDigit (writeFraction nanos ++ ['Z']) := by
    unfold writeFraction
    split_ifs <;> exact noDigit_cons (by decide) _
  -- Every reader finds its part in front, ended by the mark or the fraction behind it.
  simp only [List.append_assoc, List.cons_append]
  unfold read?
  repeat rw [Option.bind_eq_bind]
  rw [String.toList_ofList, readYear?_writeYear _ (noDigit_cons (by decide) _), Option.bind_some]
  dsimp only
  rw [readMark?_cons '-' (by decide), Option.bind_some,
    readItem?_padded hmonth hmonth' (by omega) (noDigit_cons (by decide) _), Option.bind_some]
  dsimp only
  rw [readMark?_cons '-' (by decide), Option.bind_some,
    readItem?_padded hday hday' (by omega) (noDigit_cons (by decide) _), Option.bind_some]
  dsimp only
  rw [if_pos (.inr (.inl rfl)), Option.bind_some,
    readItem?_padded (Nat.zero_le hour) hhour (by omega) (noDigit_cons (by decide) _),
    Option.bind_some]
  dsimp only
  rw [readMark?_cons ':' (by decide), Option.bind_some,
    readItem?_padded (Nat.zero_le minute) hminute (by omega) (noDigit_cons (by decide) _),
    Option.bind_some]
  dsimp only
  rw [readMark?_cons ':' (by decide), Option.bind_some,
    readItem?_padded (Nat.zero_le second) hsecond (by omega) hfraction, Option.bind_some]
  dsimp only
  have hread : readFraction? (writeFraction nanos ++ ['Z']) = some (nanos, ['Z']) :=
    readFraction?_writeFraction hnanos (noDigit_cons (by decide) _) nofun
  have hzone : readZone? (trimStart ['Z']) = some (0, []) := rfl
  rw [hread, Option.bind_some, hzone, Option.bind_some]
  have hwhole : ((trimStart []).isEmpty && date.isValid && decide ((0 : Int).natAbs < 86400)) =
      true := by
    rw [hdate]
    rfl
  rw [if_pos hwhole, Int.sub_zero]

/-- The parts of an instant make it up again. -/
theorem ofParts?_self (t : Timestamp) : ofParts? t.seconds t.nanos = some t :=
  ofParts?_eq_some t.seconds t.nanos ⟨t.seconds_ge, t.seconds_le, t.nanos_lt, t.leap⟩

/-- The date of every instant is in the calendar. -/
theorem isValid_date (t : Timestamp) : (Date.ofDay (t.seconds / 86400)).isValid = true := by
  have hge := t.seconds_ge
  have hle := t.seconds_le
  apply Date.isValid_ofDay
  · have hmin : Date.daysBeforeYear minYear = Date.epochDay - 96465292 := by decide
    omega
  · have hmax : Date.daysBeforeYear (maxYear + 1) = Date.epochDay + 95026237 := by decide
    omega

/-- Every instant is read back from its text: in any year, with any fraction, and inside leap
seconds, which are written as the second 60. -/
theorem read?_write (t : Timestamp) : read? t.write = some t := by
  have hnanos := t.nanos_lt
  have hleap := t.leap
  unfold write
  dsimp only
  split
  next hplain =>
    rw [read?_parts t.isValid_date (by omega) (by omega) (by omega) hplain, if_neg (by omega),
      Date.toDay_ofDay]
    dsimp only
    convert t.ofParts?_self using 2
    omega
  next hinserted =>
    -- The second 60 of the text is a whole second more in the nanoseconds of the second 59.
    rw [read?_parts t.isValid_date (by omega) (by omega) (by omega) (by omega), if_pos (by omega),
      Date.toDay_ofDay]
    dsimp only
    convert t.ofParts?_self using 2
    · omega
    · omega

example : least.write = "-262143-01-01T00:00:00Z" := by decide

example :
    let last : Timestamp :=
      ⟨8210266876799, 1500000000, by decide, by decide, by decide, by decide⟩
    last.write = "+262142-12-31T23:59:60.500Z" := by
  decide

end Gatekeeper.Timestamp
