import Gatekeeper.Proofs.Base64Url
import Mathlib.Algebra.Group.Nat.Defs

/-!
# `Gatekeeper.Proofs.Base64Url.Bits`: the text as a string of bits

What a base64url text stands for, without the arithmetic of `encode` and `decode?`. The
bits of the bytes are written down one after another, most significant first. As few idle
zeros follow as make their number a multiple of six, and each group of six is one digit.

* `Spells`: a text holds the bits of some bytes in this way.
* `spells_encode`, `spells_iff`: `encode` writes such a text, and there is no other. So the
  texts that `decode?` reads are exactly those that spell some bytes.

Bits are taken apart by `bits_append`: a number of `m + n` bits is its `m` high bits and
then its `n` low ones.
-/

set_option autoImplicit false

namespace Gatekeeper.Base64Url

/-! ### Bits of a number -/

/-- The `width` low bits of a number, most significant first. -/
def bits : Nat → Nat → List Bool
  | 0, _ => []
  | width + 1, n => n.testBit width :: bits width n

/-- A number is written in as many bits as asked for. -/
theorem length_bits (width n : Nat) : (bits width n).length = width := by
  induction width with
  | zero => rfl
  | succ width ih => simp [bits, ih]

/-- Bits above the width do not show. -/
theorem bits_mod (width n : Nat) {bound : Nat} (h : width ≤ bound) :
    bits width (n % 2 ^ bound) = bits width n := by
  induction width with
  | zero => rfl
  | succ width ih =>
    have htop : (n % 2 ^ bound).testBit width = n.testBit width := by
      rw [Nat.testBit_mod_two_pow, decide_eq_true (by omega), Bool.true_and]
    rw [bits, bits, htop, ih (by omega)]

/-- The high bits of a number, and then the low ones. The induction is on the number of
high bits. -/
theorem bits_append (m n high : Nat) {low : Nat} (h : low < 2 ^ n) :
    bits (m + n) (high * 2 ^ n + low) = bits m high ++ bits n low := by
  induction m with
  | zero =>
    have hlow : (high * 2 ^ n + low) % 2 ^ n = low := by
      rw [Nat.mul_comm, Nat.mul_add_mod, Nat.mod_eq_of_lt h]
    rw [Nat.zero_add, ← bits_mod n _ (Nat.le_refl n), hlow]
    rfl
  | succ m ih =>
    have htop : (high * 2 ^ n + low).testBit (m + n) = high.testBit m := by
      rw [Nat.mul_comm, Nat.testBit_two_pow_mul_add high h, if_neg (by omega), Nat.add_sub_cancel]
    rw [show m + 1 + n = m + n + 1 by omega, bits, bits, htop, ih, List.cons_append]

/-- The same for a number that is given in another form. -/
theorem bits_split {width m n total high low : Nat} (hwidth : width = m + n)
    (hlow : low < 2 ^ n) (htotal : total = high * 2 ^ n + low) :
    bits width total = bits m high ++ bits n low := by
  rw [hwidth, htotal, bits_append m n high hlow]

/-- Zero is written in zeros. -/
theorem bits_zero (width : Nat) : bits width 0 = List.replicate width false := by
  induction width with
  | zero => rfl
  | succ width ih => rw [bits, ih, Nat.zero_testBit, List.replicate_succ]

/-- A number is known by its bits. -/
theorem bits_injective {width m n : Nat} (hm : m < 2 ^ width) (hn : n < 2 ^ width)
    (h : bits width m = bits width n) : m = n := by
  induction width generalizing m n with
  | zero => omega
  | succ width ih =>
    -- The top bit is one digit of the number, and the rest is the number below it.
    have hm' : m % 2 ^ width < 2 ^ width := Nat.mod_lt _ (Nat.two_pow_pos width)
    have hn' : n % 2 ^ width < 2 ^ width := Nat.mod_lt _ (Nat.two_pow_pos width)
    simp only [bits, List.cons.injEq] at h
    obtain ⟨htop, hrest⟩ := h
    rw [← bits_mod width m (Nat.le_refl _), ← bits_mod width n (Nat.le_refl _)] at hrest
    have hlow : m % 2 ^ width = n % 2 ^ width := ih hm' hn' hrest
    have hhigh : ∀ k < 2 ^ (width + 1), k / 2 ^ width = (k.testBit width).toNat := by
      intro k hk
      have hlt : k / 2 ^ width < 2 := Nat.div_lt_of_lt_mul (by rwa [← Nat.pow_succ])
      rw [Nat.testBit_eq_decide_div_mod_eq]
      rcases Nat.lt_or_eq_of_le (Nat.le_of_lt_succ hlt) with hzero | hone
      · rw [Nat.lt_one_iff.mp hzero]
        rfl
      · rw [hone]
        rfl
    have hdiv : m / 2 ^ width = n / 2 ^ width := by rw [hhigh m hm, hhigh n hn, htop]
    rw [← Nat.div_add_mod m (2 ^ width), ← Nat.div_add_mod n (2 ^ width), hdiv, hlow]

/-! ### Bits of texts and bytes -/

/-- The bits of bytes, eight for each. -/
def bitsOfBytes (bytes : List UInt8) : List Bool := bytes.flatMap fun b => bits 8 b.toNat

/-- The bits of digits, six for each. -/
def bitsOfText (text : List Char) : List Bool :=
  text.flatMap fun c => bits 6 ((value? c).getD 0)

/-- The text is the base64url text of the bytes: it consists of digits, and their bits are
those of the bytes with fewer than six idle zeros after them. -/
structure Spells (text : List Char) (bytes : List UInt8) : Prop where
  digits : ∀ c ∈ text, (value? c).isSome = true
  bits : ∃ idle < 6, bitsOfText text = bitsOfBytes bytes ++ List.replicate idle false

/-- Each digit stands for six bits. -/
theorem length_bitsOfText (text : List Char) : (bitsOfText text).length = 6 * text.length := by
  induction text with
  | nil => rfl
  | cons c rest ih =>
    have hcons : bitsOfText (c :: rest) = bits 6 ((value? c).getD 0) ++ bitsOfText rest := rfl
    rw [hcons, List.length_append, length_bits, ih, List.length_cons]
    omega

/-- A text of digits is known by its bits. -/
theorem bitsOfText_injective {s t : List Char} (hs : ∀ c ∈ s, (value? c).isSome = true)
    (ht : ∀ c ∈ t, (value? c).isSome = true) (h : bitsOfText s = bitsOfText t) : s = t := by
  have hlength : s.length = t.length := by
    have hbits := congrArg List.length h
    rw [length_bitsOfText, length_bitsOfText] at hbits
    omega
  induction s generalizing t with
  | nil => exact (List.length_eq_zero_iff.mp hlength.symm).symm
  | cons c s ih =>
    cases t with
    | nil => cases hlength
    | cons d t =>
      obtain ⟨m, hm⟩ := Option.isSome_iff_exists.mp (hs c List.mem_cons_self)
      obtain ⟨n, hn⟩ := Option.isSome_iff_exists.mp (ht d List.mem_cons_self)
      obtain ⟨hm64, hc⟩ := digit_value? hm
      obtain ⟨hn64, hd⟩ := digit_value? hn
      have hsplit : bits 6 m ++ bitsOfText s = bits 6 n ++ bitsOfText t := by
        simpa [bitsOfText, hm, hn] using h
      -- The first six bits belong to the first digit on both sides.
      obtain ⟨hfirst, hrest⟩ := List.append_inj hsplit (by rw [length_bits, length_bits])
      have hsame : m = n := bits_injective hm64 hn64 hfirst
      rw [← hc, ← hd, hsame, ih (fun c hmem => hs c (List.mem_cons_of_mem _ hmem))
        (fun c hmem => ht c (List.mem_cons_of_mem _ hmem)) hrest (Nat.succ.inj hlength)]

/-! ### The text of bytes -/

/-- The bits of a digit of known worth. -/
theorem bitsOfText_digit {n : Nat} (hn : n < 64) (rest : List Char) :
    bitsOfText (digit n :: rest) = bits 6 n ++ bitsOfText rest := by
  show bits 6 ((value? (digit n)).getD 0) ++ bitsOfText rest = _
  rw [value?_digit n hn, Option.getD_some]

/-- What `encode` writes holds the bits of the bytes. A digit ends after six, four or two bits
of a byte, so each byte and each digit is split there. -/
theorem bitsOfText_encode (bytes : List UInt8) :
    ∃ idle < 6, bitsOfText (encode bytes) = bitsOfBytes bytes ++ List.replicate idle false := by
  have hcons : ∀ (b : UInt8) (rest : List UInt8),
      bitsOfBytes (b :: rest) = bits 8 b.toNat ++ bitsOfBytes rest := fun _ _ => rfl
  have hfirst : ∀ a : UInt8,
      bits 8 a.toNat = bits 6 (a.toNat / 4) ++ bits 2 (a.toNat % 4) := by
    intro a
    exact bits_split rfl (by omega) (by omega)
  have hsecond : ∀ b : UInt8,
      bits 8 b.toNat = bits 4 (b.toNat / 16) ++ bits 4 (b.toNat % 16) := by
    intro b
    exact bits_split rfl (by omega) (by omega)
  have hthird : ∀ c : UInt8,
      bits 8 c.toNat = bits 2 (c.toNat / 64) ++ bits 6 (c.toNat % 64) := by
    intro c
    exact bits_split rfl (by omega) (by omega)
  fun_induction encode bytes with
  | case1 => exact ⟨0, by omega, rfl⟩
  | case2 a =>
    have ha := a.toNat_lt
    -- The second digit has two bits of the byte and four idle ones.
    have hlast : bits 6 (a.toNat % 4 * 16) = bits 2 (a.toNat % 4) ++ bits 4 0 :=
      bits_split rfl (by omega) (by omega)
    refine ⟨4, by omega, ?_⟩
    rw [bitsOfText_digit (by omega), bitsOfText_digit (by omega), hlast, hcons, hfirst, bits_zero]
    simp [bitsOfText, bitsOfBytes]
  | case3 a b =>
    have ha := a.toNat_lt
    have hb := b.toNat_lt
    have hmiddle : bits 6 (a.toNat % 4 * 16 + b.toNat / 16) =
        bits 2 (a.toNat % 4) ++ bits 4 (b.toNat / 16) := bits_split rfl (by omega) (by omega)
    have hlast : bits 6 (b.toNat % 16 * 4) = bits 4 (b.toNat % 16) ++ bits 2 0 :=
      bits_split rfl (by omega) (by omega)
    refine ⟨2, by omega, ?_⟩
    rw [bitsOfText_digit (by omega), bitsOfText_digit (by omega), bitsOfText_digit (by omega),
      hmiddle, hlast, hcons, hcons, hfirst, hsecond, bits_zero]
    simp [bitsOfText, bitsOfBytes]
  | case4 a b c rest ih =>
    have ha := a.toNat_lt
    have hb := b.toNat_lt
    have hc := c.toNat_lt
    have hleft : bits 6 (a.toNat % 4 * 16 + b.toNat / 16) =
        bits 2 (a.toNat % 4) ++ bits 4 (b.toNat / 16) := bits_split rfl (by omega) (by omega)
    have hright : bits 6 (b.toNat % 16 * 4 + c.toNat / 64) =
        bits 4 (b.toNat % 16) ++ bits 2 (c.toNat / 64) := bits_split rfl (by omega) (by omega)
    -- Three bytes fill four digits, so nothing idle comes before the rest.
    obtain ⟨idle, hidle, hrest⟩ := ih
    refine ⟨idle, hidle, ?_⟩
    rw [bitsOfText_digit (by omega), bitsOfText_digit (by omega), bitsOfText_digit (by omega),
      bitsOfText_digit (by omega), hleft, hright, hrest, hcons, hcons, hcons, hfirst, hsecond,
      hthird]
    simp only [List.append_assoc]

/-- `encode` writes digits only. -/
theorem isSome_value?_of_mem_encode (bytes : List UInt8) :
    ∀ c ∈ encode bytes, (value? c).isSome = true := by
  have hdigit : ∀ n < 64, (value? (digit n)).isSome = true := by
    intro n hn
    rw [value?_digit n hn]
    rfl
  -- The cases are those of the encoder: groups of three bytes, and a rest of none, one or
  -- two.
  fun_induction encode bytes with
  | case1 => simp
  | case2 a =>
    have ha := a.toNat_lt
    simp only [List.mem_cons, List.not_mem_nil, or_false, forall_eq_or_imp, forall_eq]
    exact ⟨hdigit _ (by omega), hdigit _ (by omega)⟩
  | case3 a b =>
    have ha := a.toNat_lt
    have hb := b.toNat_lt
    simp only [List.mem_cons, List.not_mem_nil, or_false, forall_eq_or_imp, forall_eq]
    exact ⟨hdigit _ (by omega), hdigit _ (by omega), hdigit _ (by omega)⟩
  | case4 a b c rest ih =>
    have ha := a.toNat_lt
    have hb := b.toNat_lt
    have hc := c.toNat_lt
    simp only [List.mem_cons, forall_eq_or_imp]
    exact ⟨hdigit _ (by omega), hdigit _ (by omega), hdigit _ (by omega), hdigit _ (by omega), ih⟩

/-- Encoded bytes spell the bytes. -/
theorem spells_encode (bytes : List UInt8) : Spells (encode bytes) bytes :=
  ⟨isSome_value?_of_mem_encode bytes, bitsOfText_encode bytes⟩

/-- The bits of the bytes leave no choice of a text: not in its digits, and not in the number
of idle zeros. -/
theorem Spells.unique {s t : List Char} {bytes : List UInt8} (hs : Spells s bytes)
    (ht : Spells t bytes) : s = t := by
  obtain ⟨i, hi, hbitsS⟩ := hs.bits
  obtain ⟨j, hj, hbitsT⟩ := ht.bits
  have hlengthS := congrArg List.length hbitsS
  have hlengthT := congrArg List.length hbitsT
  rw [length_bitsOfText, List.length_append, List.length_replicate] at hlengthS hlengthT
  -- Both numbers of idle zeros fill the same bits up to a multiple of six.
  have hidle : i = j := by omega
  exact bitsOfText_injective hs.digits ht.digits (by rw [hbitsS, hbitsT, hidle])

/-- Only one text spells some bytes. -/
theorem spells_iff {text : List Char} {bytes : List UInt8} :
    Spells text bytes ↔ text = encode bytes := by
  constructor
  · intro h
    exact h.unique (spells_encode bytes)
  · rintro rfl
    exact spells_encode bytes

end Gatekeeper.Base64Url
