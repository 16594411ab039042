import Gatekeeper.Base64Url

/-!
# `Gatekeeper.Proofs.Base64Url`: each byte list has one text

* `decode?_encode`: what `encode` writes reads back.
* `eq_encode_of_decode?`: nothing else reads at all. The idle bits of the last digit
  have to be zero, and no text has one digit left over.
* `decode?_eq_some_iff` joins the two.

Both rest on the digits: `value?_digit` and `digit_value?` make the digit table a
bijection between the numbers below 64 and the 64 characters of the alphabet.
-/

set_option autoImplicit false

namespace Gatekeeper.Base64Url

/-! ### Digits -/

/-- Each of the 64 digits has its value. -/
theorem value?_digit : ∀ n < 64, value? (digit n) = some n := by
  decide

/-- Characters between two others have code points between theirs. -/
theorem toNat_between {low high c : Char} (h : low ≤ c ∧ c ≤ high) :
    low.toNat ≤ c.toNat ∧ c.toNat ≤ high.toNat :=
  ⟨UInt32.le_iff_toNat_le.mp (Char.le_def.mp h.1), UInt32.le_iff_toNat_le.mp (Char.le_def.mp h.2)⟩

/-- Only digits are worth something, and each is the digit of its worth. -/
theorem digit_value? {c : Char} {n : Nat} (h : value? c = some n) : n < 64 ∧ digit n = c := by
  unfold value? at h
  -- The three ranges of the alphabet first, then the two characters that stand alone.
  split at h
  next hupper =>
    have hc : 65 ≤ c.toNat ∧ c.toNat ≤ 90 := toNat_between hupper
    cases h
    refine ⟨by omega, ?_⟩
    rw [digit, if_pos (by omega), show 65 + (c.toNat - 65) = c.toNat by omega, Char.ofNat_toNat]
  split at h
  next hlower =>
    have hc : 97 ≤ c.toNat ∧ c.toNat ≤ 122 := toNat_between hlower
    cases h
    refine ⟨by omega, ?_⟩
    rw [digit, if_neg (by omega), if_pos (by omega),
      show 97 + (c.toNat - 97 + 26 - 26) = c.toNat by omega, Char.ofNat_toNat]
  split at h
  next hdecimal =>
    have hc : 48 ≤ c.toNat ∧ c.toNat ≤ 57 := toNat_between hdecimal
    cases h
    refine ⟨by omega, ?_⟩
    rw [digit, if_neg (by omega), if_neg (by omega), if_pos (by omega),
      show 48 + (c.toNat - 48 + 52 - 52) = c.toNat by omega, Char.ofNat_toNat]
  split at h
  next hminus =>
    cases h
    exact ⟨by decide, hminus.symm⟩
  split at h
  next hunderscore =>
    cases h
    exact ⟨by decide, hunderscore.symm⟩
  next => cases h

/-! ### Texts -/

/-- A byte is the number it spells. -/
theorem ofNat_eq {a : UInt8} {n : Nat} (h : n = a.toNat) : UInt8.ofNat n = a := by
  rw [h, UInt8.ofNat_toNat]

/-- What is written reads back, three bytes at a time. -/
theorem decode?_encode (bytes : List UInt8) : decode? (encode bytes) = some bytes := by
  fun_induction encode bytes with
  | case1 => rfl
  | case2 a =>
    have ha := a.toNat_lt
    simp only [decode?, value?_digit (a.toNat / 4) (by omega),
      value?_digit (a.toNat % 4 * 16) (by omega), Option.bind_eq_bind, Option.bind_some]
    rw [if_pos (by omega), ofNat_eq (a := a) (by omega)]
  | case3 a b =>
    have ha := a.toNat_lt
    have hb := b.toNat_lt
    simp only [decode?, value?_digit (a.toNat / 4) (by omega),
      value?_digit (a.toNat % 4 * 16 + b.toNat / 16) (by omega),
      value?_digit (b.toNat % 16 * 4) (by omega), Option.bind_eq_bind, Option.bind_some]
    rw [if_pos (by omega), ofNat_eq (a := a) (by omega), ofNat_eq (a := b) (by omega)]
  | case4 a b c rest ih =>
    -- Four digits of six bits each hold the twenty-four bits of the three bytes.
    have ha := a.toNat_lt
    have hb := b.toNat_lt
    have hc := c.toNat_lt
    simp only [decode?, value?_digit (a.toNat / 4) (by omega),
      value?_digit (a.toNat % 4 * 16 + b.toNat / 16) (by omega),
      value?_digit (b.toNat % 16 * 4 + c.toNat / 64) (by omega),
      value?_digit (c.toNat % 64) (by omega), ih, Option.bind_eq_bind, Option.bind_some]
    rw [ofNat_eq (a := a) (by omega), ofNat_eq (a := b) (by omega),
      ofNat_eq (a := c) (by omega)]

/-- Three bytes are four digits; one and two bytes left over are two and three. -/
theorem length_encode (bytes : List UInt8) :
    (encode bytes).length = (4 * bytes.length + 2) / 3 := by
  fun_induction encode bytes with
  | case1 => rfl
  | case2 a => simp
  | case3 a b => simp
  | case4 a b c rest ih =>
    simp only [List.length_cons, ih]
    omega

/-- A number below 256 survives as a byte. -/
theorem toNat_ofNat {n : Nat} (h : n < 256) : (UInt8.ofNat n).toNat = n := by
  rw [UInt8.toNat_ofNat']
  exact Nat.mod_eq_of_lt h

/-- What reads at all is what is written for the bytes read. -/
theorem eq_encode_of_decode? {cs : List Char} {bytes : List UInt8}
    (h : decode? cs = some bytes) : cs = encode bytes := by
  fun_induction decode? cs generalizing bytes with
  | case1 =>
    cases h
    rfl
  | case2 => cases h
  | case3 cp cq =>
    simp only [Option.bind_eq_bind, Option.bind_eq_some_iff] at h
    obtain ⟨p, hp, q, hq, h⟩ := h
    obtain ⟨hp64, rfl⟩ := digit_value? hp
    obtain ⟨hq64, rfl⟩ := digit_value? hq
    -- `decode?` has checked the idle bits, so the second digit has no others to lose.
    split at h
    · cases h
      rw [encode, toNat_ofNat (by omega), show (p * 4 + q / 16) / 4 = p by omega,
        show (p * 4 + q / 16) % 4 * 16 = q by omega]
    · cases h
  | case4 cp cq cr =>
    simp only [Option.bind_eq_bind, Option.bind_eq_some_iff] at h
    obtain ⟨p, hp, q, hq, r, hr, h⟩ := h
    obtain ⟨hp64, rfl⟩ := digit_value? hp
    obtain ⟨hq64, rfl⟩ := digit_value? hq
    obtain ⟨hr64, rfl⟩ := digit_value? hr
    split at h
    · cases h
      rw [encode, toNat_ofNat (by omega), toNat_ofNat (by omega),
        show (p * 4 + q / 16) / 4 = p by omega,
        show (p * 4 + q / 16) % 4 * 16 + (q % 16 * 16 + r / 4) / 16 = q by omega,
        show (q % 16 * 16 + r / 4) % 16 * 4 = r by omega]
    · cases h
  | case5 cp cq cr cs rest ih =>
    simp only [Option.bind_eq_bind, Option.bind_eq_some_iff, Option.some.injEq] at h
    obtain ⟨p, hp, q, hq, r, hr, s, hs, tail, htail, rfl⟩ := h
    obtain ⟨hp64, rfl⟩ := digit_value? hp
    obtain ⟨hq64, rfl⟩ := digit_value? hq
    obtain ⟨hr64, rfl⟩ := digit_value? hr
    obtain ⟨hs64, rfl⟩ := digit_value? hs
    rw [encode, toNat_ofNat (by omega), toNat_ofNat (by omega), toNat_ofNat (by omega),
      show (p * 4 + q / 16) / 4 = p by omega,
      show (p * 4 + q / 16) % 4 * 16 + (q % 16 * 16 + r / 4) / 16 = q by omega,
      show (q % 16 * 16 + r / 4) % 16 * 4 + (r % 4 * 64 + s) / 64 = r by omega,
      show (r % 4 * 64 + s) % 64 = s by omega, ← ih htail]

/-- A text is decoded just if it is what the bytes are encoded as, so no other text stands for them.
-/
theorem decode?_eq_some_iff {cs : List Char} {bytes : List UInt8} :
    decode? cs = some bytes ↔ cs = encode bytes :=
  ⟨eq_encode_of_decode?, fun h => h ▸ decode?_encode bytes⟩

end Gatekeeper.Base64Url
