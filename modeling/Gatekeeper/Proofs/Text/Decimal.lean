import Gatekeeper.Proofs.Text.Blank
import Gatekeeper.Text.Decimal

/-!
# `Gatekeeper.Proofs.Text.Decimal`: which texts are numbers

* `IsNumeral`, `read_eq_ok_iff`: digits with at most one plus sign in front are a number, and
  nothing else is. It is read if it is below the bound.
* `readDigits_eq_ok`: digits are worth what they spell, if that is below the bound. No prefix of
  them is worth more.
* `isDigit_of_mem_write`, `write_cons`: what a number is written with.
* `read_trim_write`: a number is read back from its digits.
-/

set_option autoImplicit false

namespace Gatekeeper.Text

/-- A digit is none of the characters that are not. -/
theorem ne_of_isDigit {c d : Char} (hc : isDigit c = true) (hd : isDigit d = false) : c ≠ d := by
  intro heq
  rw [heq, hd] at hc
  exact Bool.noConfusion hc

/-- A digit is no blank. -/
theorem isBlank_of_isDigit {c : Char} (h : isDigit c = true) : isBlank c = false := by
  simp only [isDigit, Bool.and_eq_true, decide_eq_true_iff, Char.le_def,
    UInt32.le_iff_toNat_le] at h
  have hlow : 48 ≤ c.toNat := h.1
  have hhigh : c.toNat ≤ 57 := h.2
  simp only [isBlank, Bool.or_eq_false_iff, Bool.and_eq_false_iff, beq_eq_false_iff_ne,
    decide_eq_false_iff_not]
  omega

namespace Decimal

/-- A number is written in digits. -/
theorem isDigit_of_mem_write {n : Nat} {c : Char} (h : c ∈ write n) : isDigit c = true := by
  have hdigit : c.isDigit = true := Nat.isDigit_of_mem_toDigits (by decide) (Nat.le_refl 10) h
  unfold Char.isDigit at hdigit
  unfold isDigit
  simp only [Bool.and_eq_true, decide_eq_true_iff] at hdigit ⊢
  exact hdigit

/-- The text of a number starts with a digit. -/
theorem write_cons (n : Nat) : ∃ c digits, write n = c :: digits ∧ isDigit c = true := by
  cases hwrite : write n with
  | nil => exact absurd hwrite Nat.toDigits_ne_nil
  | cons c digits =>
    have hmem : c ∈ write n := by
      rw [hwrite]
      exact .head _
    exact ⟨c, digits, rfl, isDigit_of_mem_write hmem⟩

/-- Reading more digits does not make a number smaller. -/
theorem le_ofDigitChars (cs : List Char) (n : Nat) : n ≤ Nat.ofDigitChars 10 cs n := by
  induction cs generalizing n with
  | nil => exact Nat.le_refl n
  | cons c cs ih =>
    rw [Nat.ofDigitChars_cons]
    exact Nat.le_trans (by omega) (ih _)

/-- Digits after a prefix worth `n` are worth what they spell, if that is below the bound. -/
theorem readDigits_eq_ok {bound n : Nat} {cs : List Char} (hdigits : ∀ c ∈ cs, isDigit c = true)
    (hbound : Nat.ofDigitChars 10 cs n < bound) :
    readDigits bound n cs = .ok (Nat.ofDigitChars 10 cs n) := by
  induction cs generalizing n with
  | nil => rfl
  | cons c cs ih =>
    rw [Nat.ofDigitChars_cons] at hbound ⊢
    have hdigit : digit? c = some (c.toNat - '0'.toNat) := if_pos (hdigits c (.head _))
    have hprefix : 10 * n + (c.toNat - '0'.toNat) < bound :=
      Nat.lt_of_le_of_lt (le_ofDigitChars cs _) hbound
    rw [readDigits, hdigit]
    dsimp only
    rw [if_pos hprefix]
    exact ih (fun c hc => hdigits c (.tail _ hc)) hbound

/-- Digits that are read are worth what they spell, and if there are any, this is below the bound.
The induction is on the digits; each of them moves the prefix that the next ones continue. -/
theorem of_readDigits {bound n m : Nat} {cs : List Char} (h : readDigits bound n cs = .ok m) :
    (∀ c ∈ cs, isDigit c = true) ∧ Nat.ofDigitChars 10 cs n = m ∧ (cs ≠ [] → m < bound) := by
  induction cs generalizing n with
  | nil =>
    cases h
    exact ⟨nofun, rfl, fun hne => absurd rfl hne⟩
  | cons c cs ih =>
    rw [readDigits] at h
    split at h
    · cases h
    next d hdigit =>
      split at h
      next hprefix =>
        obtain ⟨hc, hd⟩ : isDigit c = true ∧ d = c.toNat - '0'.toNat := by
          rw [digit?] at hdigit
          split at hdigit
          next hc => exact ⟨hc, (Option.some.inj hdigit).symm⟩
          · cases hdigit
        obtain ⟨hdigits, hvalue, hbound⟩ := ih h
        refine ⟨List.forall_mem_cons.mpr ⟨hc, hdigits⟩, ?_, fun _ => ?_⟩
        · rw [Nat.ofDigitChars_cons, ← hd]
          exact hvalue
        -- The bound was checked at the last digit, whichever that is.
        · cases cs with
          | nil =>
            cases h
            exact hprefix
          | cons c' cs' => exact hbound (List.cons_ne_nil c' cs')
      · cases h

/-- The text is a number: digits, with at most one plus sign in front. -/
def IsNumeral (cs : List Char) (n : Nat) : Prop :=
  ∃ digits, digits ≠ [] ∧ (∀ c ∈ digits, isDigit c = true) ∧
    (cs = digits ∨ cs = '+' :: digits) ∧ Nat.ofDigitChars 10 digits 0 = n

/-- The numbers below the bound are read, and nothing else is. -/
theorem read_eq_ok_iff {bound n : Nat} {cs : List Char} :
    read bound cs = .ok n ↔ IsNumeral cs n ∧ n < bound := by
  constructor
  · intro h
    unfold read at h
    split at h
    · cases h
    · cases h
    next rest hlone =>
      obtain ⟨hdigits, hvalue, hbound⟩ := of_readDigits h
      -- A plus sign that stands alone was refused before.
      exact ⟨⟨rest, hlone, hdigits, .inr rfl, hvalue⟩, hbound hlone⟩
    next hne _ _ =>
      obtain ⟨hdigits, hvalue, hbound⟩ := of_readDigits h
      exact ⟨⟨cs, hne, hdigits, .inl rfl, hvalue⟩, hbound hne⟩
  · rintro ⟨⟨digits, hne, hdigits, hsign, rfl⟩, hbound⟩
    have hread := readDigits_eq_ok hdigits hbound
    obtain ⟨c, rest, rfl⟩ := List.exists_cons_of_ne_nil hne
    have hplus : c ≠ '+' := ne_of_isDigit (hdigits c (.head rest)) (by decide)
    rcases hsign with rfl | rfl
    · unfold read
      split
      next heq => cases heq
      next heq => exact absurd (List.cons.inj heq).1 hplus
      next _ heq => exact absurd (List.cons.inj heq).1 hplus
      next => exact hread
    · exact hread

/-- A number has no blanks in it. -/
theorem IsNumeral.trimmed {cs : List Char} {n : Nat} (h : IsNumeral cs n) : Trimmed cs := by
  obtain ⟨digits, -, hdigits, hsign, -⟩ := h
  have hnone : ∀ c ∈ digits, isBlank c = false := fun c hc => isBlank_of_isDigit (hdigits c hc)
  apply trimmed_of_forall
  rcases hsign with rfl | rfl
  · exact hnone
  · exact List.forall_mem_cons.mpr ⟨by decide, hnone⟩

/-- The digits of a number are a number. -/
theorem isNumeral_write (n : Nat) : IsNumeral (write n) n := by
  obtain ⟨c, digits, hwrite, -⟩ := write_cons n
  have hne : write n ≠ [] := hwrite ▸ List.cons_ne_nil c digits
  exact ⟨write n, hne, fun _ => isDigit_of_mem_write, .inl rfl,
    Nat.ofDigitChars_toDigits (by decide) (Nat.le_refl 10)⟩

/-- A number below the bound is read back from its digits. -/
theorem read_trim_write {bound n : Nat} (h : n < bound) : read bound (trim (write n)) = .ok n := by
  rw [trim_eq_self (isNumeral_write n).trimmed, read_eq_ok_iff]
  exact ⟨isNumeral_write n, h⟩

end Decimal

end Gatekeeper.Text
