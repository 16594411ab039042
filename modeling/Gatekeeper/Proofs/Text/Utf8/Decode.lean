import Gatekeeper.Text.Utf8
import Mathlib.Tactic.SplitIfs

/-!
# `Gatekeeper.Proofs.Text.Utf8.Decode`: decoding undoes encoding

The decoder looks at first bytes and at what may follow them, the encoder at code points.
Between the two stands `Form`, one character's bytes with the conditions the decoder checks:
the encoder writes nothing else, and nothing else is written in such bytes.

* `decode_eq_ok_iff`: bytes decode to characters exactly if they are their encoding. So no two
  texts are encoded alike (`encode_injective`).
* `mem_encode_iff`: a byte below 128 stands for its own character only.
-/

set_option autoImplicit false

namespace Gatekeeper.Text.Utf8

/-- The bytes of one character and its code point, by the number of bytes. -/
inductive Form : List UInt8 → Nat → Prop
  | one {b0 : UInt8} {n : Nat} (h0 : b0.toNat < 0x80) (hn : n = b0.toNat) : Form [b0] n
  | two {b0 b1 : UInt8} {n : Nat} (h0 : 0xc2 ≤ b0.toNat ∧ b0.toNat ≤ 0xdf)
    (h1 : isContinuation b1 = true) (hn : n = b0.toNat % 32 * 64 + payload b1) : Form [b0, b1] n
  | three {b0 b1 b2 : UInt8} {n : Nat} (h0 : 0xe0 ≤ b0.toNat ∧ b0.toNat ≤ 0xef)
    (h1 : maySecond b0 b1 = true) (h2 : isContinuation b2 = true)
    (hn : n = b0.toNat % 16 * 4096 + payload b1 * 64 + payload b2) : Form [b0, b1, b2] n
  | four {b0 b1 b2 b3 : UInt8} {n : Nat} (h0 : 0xf0 ≤ b0.toNat ∧ b0.toNat ≤ 0xf4)
    (h1 : maySecond b0 b1 = true) (h2 : isContinuation b2 = true) (h3 : isContinuation b3 = true)
    (hn : n = b0.toNat % 8 * 262144 + payload b1 * 4096 + payload b2 * 64 + payload b3) :
    Form [b0, b1, b2, b3] n

/-! ### Bytes as numbers -/

/-- A byte is between two others if its number is. -/
theorem between_iff {low high b : UInt8} :
    (decide (low ≤ b) && decide (b ≤ high)) = true ↔
      low.toNat ≤ b.toNat ∧ b.toNat ≤ high.toNat := by
  simp only [Bool.and_eq_true, decide_eq_true_iff, UInt8.le_iff_toNat_le]

/-- A continuation byte is one of 128 to 191. -/
theorem isContinuation_iff {b : UInt8} :
    isContinuation b = true ↔ 128 ≤ b.toNat ∧ b.toNat ≤ 191 := between_iff

/-- What may follow a first byte: a continuation byte, with a bound of its own after four of
the first bytes. -/
theorem maySecond_iff {lead b : UInt8} :
    maySecond lead b = true ↔ (128 ≤ b.toNat ∧ b.toNat ≤ 191) ∧
      (lead.toNat = 0xe0 → 160 ≤ b.toNat) ∧ (lead.toNat = 0xed → b.toNat ≤ 159) ∧
      (lead.toNat = 0xf0 → 144 ≤ b.toNat) ∧ (lead.toNat = 0xf4 → b.toNat ≤ 143) := by
  have he0 : lead = 0xe0 ↔ lead.toNat = 0xe0 := UInt8.toNat_inj.symm
  have hed : lead = 0xed ↔ lead.toNat = 0xed := UInt8.toNat_inj.symm
  have hf0 : lead = 0xf0 ↔ lead.toNat = 0xf0 := UInt8.toNat_inj.symm
  have hf4 : lead = 0xf4 ↔ lead.toNat = 0xf4 := UInt8.toNat_inj.symm
  unfold maySecond
  simp only [he0, hed, hf0, hf4]
  split_ifs <;> simp only [isContinuation_iff, between_iff, UInt8.reduceToNat] <;> omega

/-- A byte made of a number below 256 is that number. -/
theorem toNat_ofNat_of_lt {n : Nat} (h : n < 256) : (UInt8.ofNat n).toNat = n :=
  UInt8.toNat_ofNat_of_lt' h

/-- A number below 256 is the number of one byte only. -/
theorem ofNat_eq_of_toNat {n : Nat} (b : UInt8) (h : n = b.toNat) : UInt8.ofNat n = b := by
  rw [h, UInt8.ofNat_toNat]

/-- A character made of a code point that there is has that code point. -/
theorem toNat_ofNat_of_isValidChar {n : Nat} (h : n.isValidChar) :
    (Char.ofNat n).val.toNat = n := by
  unfold Char.ofNat
  rw [dif_pos h]
  rfl

/-! ### One character -/

/-- The code point that a form spells is one of a character. -/
theorem Form.isValidChar {bytes : List UInt8} {n : Nat} (h : Form bytes n) : n.isValidChar := by
  cases h with
  | one h0 hn => exact Or.inl (by omega)
  | two h0 h1 hn =>
    unfold payload at hn
    exact Or.inl (by omega)
  -- What the second byte may be keeps the surrogates out, and below what is beyond the last
  -- plane.
  | three h0 h1 h2 hn =>
    rw [maySecond_iff] at h1
    unfold payload at hn
    unfold Nat.isValidChar
    omega
  | four h0 h1 h2 h3 hn =>
    rw [maySecond_iff] at h1
    unfold payload at hn
    unfold Nat.isValidChar
    omega

/-- The bytes of a form are those of its character. -/
theorem Form.encodeChar_eq {bytes : List UInt8} {n : Nat} (h : Form bytes n) :
    String.utf8EncodeChar (Char.ofNat n) = bytes := by
  have hpoint := toNat_ofNat_of_isValidChar h.isValidChar
  unfold String.utf8EncodeChar
  dsimp only
  rw [hpoint]
  -- The lead byte bounds the code point from both sides, which selects the same length
  -- again.
  cases h with
  | one h0 hn => rw [if_pos (by omega), hn, UInt8.ofNat_toNat]
  | @two b0 b1 _ h0 h1 hn =>
    rw [isContinuation_iff] at h1
    unfold payload at hn
    rw [if_neg (by omega), if_pos (by omega), ofNat_eq_of_toNat b0 (by omega),
      ofNat_eq_of_toNat b1 (by omega)]
  | @three b0 b1 b2 _ h0 h1 h2 hn =>
    rw [maySecond_iff] at h1
    rw [isContinuation_iff] at h2
    unfold payload at hn
    rw [if_neg (by omega), if_neg (by omega), if_pos (by omega), ofNat_eq_of_toNat b0 (by omega),
      ofNat_eq_of_toNat b1 (by omega), ofNat_eq_of_toNat b2 (by omega)]
  | @four b0 b1 b2 b3 _ h0 h1 h2 h3 hn =>
    rw [maySecond_iff] at h1
    rw [isContinuation_iff] at h2 h3
    unfold payload at hn
    rw [if_neg (by omega), if_neg (by omega), if_neg (by omega), ofNat_eq_of_toNat b0 (by omega),
      ofNat_eq_of_toNat b1 (by omega), ofNat_eq_of_toNat b2 (by omega),
      ofNat_eq_of_toNat b3 (by omega)]

/-- Every character is written in a form. -/
theorem form_encodeChar (c : Char) : Form (String.utf8EncodeChar c) c.toNat := by
  have hvalid : c.val.toNat < 0xd800 ∨ 0xdfff < c.val.toNat ∧ c.val.toNat < 0x110000 := c.valid
  show Form (String.utf8EncodeChar c) c.val.toNat
  unfold String.utf8EncodeChar
  dsimp only
  generalize c.val.toNat = v at hvalid
  -- All bytes the encoder writes are below 256, so each is the number it was made from.
  split_ifs
  · apply Form.one
    · simp (disch := omega) only [toNat_ofNat_of_lt]
      omega
    · simp (disch := omega) only [toNat_ofNat_of_lt]
  · apply Form.two <;>
      simp (disch := omega) only [isContinuation_iff, payload, toNat_ofNat_of_lt] <;> omega
  · apply Form.three <;>
      simp (disch := omega) only [maySecond_iff, isContinuation_iff, payload,
        toNat_ofNat_of_lt] <;> omega
  · apply Form.four <;>
      simp (disch := omega) only [maySecond_iff, isContinuation_iff, payload,
        toNat_ofNat_of_lt] <;> omega

/-! ### The decoder -/

/-- A byte stands for itself if it is below 128. -/
theorem lt_0x80_iff {b : UInt8} : b < 0x80 ↔ b.toNat < 0x80 := UInt8.lt_iff_toNat_lt

/-- A character of two bytes begins with a byte from 0xc2 to 0xdf. -/
theorem isTwo_iff {b : UInt8} :
    (decide (0xc2 ≤ b) && decide (b ≤ 0xdf)) = true ↔ 0xc2 ≤ b.toNat ∧ b.toNat ≤ 0xdf :=
  between_iff

/-- A character of three bytes begins with a byte from 0xe0 to 0xef. -/
theorem isThree_iff {b : UInt8} :
    (decide (0xe0 ≤ b) && decide (b ≤ 0xef)) = true ↔ 0xe0 ≤ b.toNat ∧ b.toNat ≤ 0xef :=
  between_iff

/-- A character of four bytes begins with a byte from 0xf0 to 0xf4. -/
theorem isFour_iff {b : UInt8} :
    (decide (0xf0 ≤ b) && decide (b ≤ 0xf4)) = true ↔ 0xf0 ≤ b.toNat ∧ b.toNat ≤ 0xf4 :=
  between_iff

/-- The decoder reads a form as its character, and goes on after it. -/
theorem decodeFrom_form {bytes : List UInt8} {n : Nat} (h : Form bytes n) (start : Nat)
    (rest : List UInt8) :
    decodeFrom start (bytes ++ rest) =
      (Char.ofNat n :: ·) <$> decodeFrom (start + bytes.length) rest := by
  cases h with
  | one h0 hn =>
    rw [List.singleton_append, decodeFrom.eq_def]
    dsimp only
    rw [if_pos (lt_0x80_iff.mpr h0), hn]
    rfl
  -- Each lead byte fails the tests of the shorter forms, which come first.
  | two h0 h1 hn =>
    rw [List.cons_append, decodeFrom.eq_def]
    dsimp only
    rw [if_neg (by rw [lt_0x80_iff]; omega), if_pos (isTwo_iff.mpr h0), hn]
    simp only [List.singleton_append, h1, if_true]
    rfl
  | three h0 h1 h2 hn =>
    rw [List.cons_append, decodeFrom.eq_def]
    dsimp only
    rw [if_neg (by rw [lt_0x80_iff]; omega), if_neg (by rw [isTwo_iff]; omega),
      if_pos (isThree_iff.mpr h0), hn]
    simp only [List.cons_append, List.nil_append, h1, h2, if_true]
    rfl
  | four h0 h1 h2 h3 hn =>
    rw [List.cons_append, decodeFrom.eq_def]
    dsimp only
    rw [if_neg (by rw [lt_0x80_iff]; omega), if_neg (by rw [isTwo_iff]; omega),
      if_neg (by rw [isThree_iff]; omega),
      if_pos (isFour_iff.mpr h0), hn]
    simp only [List.cons_append, List.nil_append, h1, h2, h3, if_true]
    rfl

/-- What the decoder reads starts with a form, where there is anything to read. -/
theorem form_of_decodeFrom {start : Nat} {b : UInt8} {bytes : List UInt8} {cs : List Char}
    (h : decodeFrom start (b :: bytes) = .ok cs) :
    ∃ form n rest, Form form n ∧ b :: bytes = form ++ rest := by
  rw [decodeFrom.eq_def] at h
  dsimp only at h
  -- One branch for each length, by the lead byte. A byte that is missing or wrong ends in
  -- an error.
  split_ifs at h with h0 h0 h0 h0
  · exact ⟨[b], b.toNat, bytes, .one (lt_0x80_iff.mp h0) rfl, rfl⟩
  · split at h
    · cases h
    · split_ifs at h with h1
      exact ⟨_, _, _, .two (isTwo_iff.mp h0) h1 rfl, rfl⟩
  · split at h
    · cases h
    · split_ifs at h with h1
      split at h
      · cases h
      · split_ifs at h with h2
        exact ⟨_, _, _, .three (isThree_iff.mp h0) h1 h2 rfl, rfl⟩
  · split at h
    · cases h
    · split_ifs at h with h1
      split at h
      · cases h
      · split_ifs at h with h2
        split at h
        · cases h
        · split_ifs at h with h3
          exact ⟨_, _, _, .four (isFour_iff.mp h0) h1 h2 h3 rfl, rfl⟩

/-- Characters are read back from their bytes, wherever they start. -/
theorem decodeFrom_encode (cs : List Char) (start : Nat) :
    decodeFrom start (encode cs) = .ok cs := by
  induction cs generalizing start with
  | nil => rfl
  | cons c rest ih =>
    show decodeFrom start (String.utf8EncodeChar c ++ encode rest) = _
    rw [decodeFrom_form (form_encodeChar c), ih, Char.ofNat_toNat]
    rfl

/-- Bytes that are read as characters are those of the characters. The induction is on a bound
of their number. -/
theorem eq_encode_of_decodeFrom (bound : Nat) {start : Nat} {bytes : List UInt8} {cs : List Char}
    (hbound : bytes.length ≤ bound) (h : decodeFrom start bytes = .ok cs) : bytes = encode cs := by
  induction bound generalizing start bytes cs with
  | zero =>
    have hnil : bytes = [] := List.length_eq_zero_iff.mp (Nat.le_zero.mp hbound)
    subst hnil
    cases h
    rfl
  | succ bound ih =>
    cases bytes with
    | nil =>
      cases h
      rfl
    | cons b bytes =>
      -- The first character takes a form off, which is not empty.
      obtain ⟨form, n, rest, hform, heq⟩ := form_of_decodeFrom h
      rw [heq] at h hbound ⊢
      rw [decodeFrom_form hform] at h
      have hpos : 0 < form.length := by cases hform <;> exact Nat.succ_pos _
      cases hrest : decodeFrom (start + form.length) rest with
      | error fault =>
        rw [hrest] at h
        cases h
      | ok tail =>
        rw [hrest] at h
        cases h
        rw [List.length_append] at hbound
        show form ++ rest = String.utf8EncodeChar (Char.ofNat n) ++ encode tail
        rw [hform.encodeChar_eq, ← ih (by omega) hrest]

/-- Bytes decode to characters exactly if they are their encoding. -/
theorem decode_eq_ok_iff {bytes : List UInt8} {cs : List Char} :
    decode bytes = .ok cs ↔ bytes = encode cs := by
  constructor
  · intro h
    exact eq_encode_of_decodeFrom bytes.length (Nat.le_refl _) h
  · intro h
    rw [h]
    exact decodeFrom_encode cs 0

/-- A text is read back from its bytes. -/
@[simp]
theorem decodeString?_encodeString (text : String) :
    decodeString? (encodeString text) = some text := by
  rw [decodeString?, encodeString, decode_eq_ok_iff.mpr rfl]
  exact congrArg some String.ofList_toList

/-- Bytes are a text exactly if they are its bytes. -/
theorem decodeString?_eq_some_iff {bytes : List UInt8} {text : String} :
    decodeString? bytes = some text ↔ bytes = encodeString text := by
  constructor
  · intro h
    unfold decodeString? at h
    split at h
    next cs hdecode =>
      cases h
      rw [encodeString, String.toList_ofList]
      exact decode_eq_ok_iff.mp hdecode
    · cases h
  · rintro rfl
    exact decodeString?_encodeString text

/-- No two texts have the same bytes. -/
theorem encode_injective {cs ds : List Char} (h : encode cs = encode ds) : cs = ds := by
  have hcs : decode (encode cs) = .ok cs := decode_eq_ok_iff.mpr rfl
  have hds : decode (encode cs) = .ok ds := decode_eq_ok_iff.mpr h
  exact Except.ok.inj (hcs.symm.trans hds)

/-- A text is encoded character by character, so in parts. -/
theorem encode_append (cs ds : List Char) : encode (cs ++ ds) = encode cs ++ encode ds :=
  List.flatMap_append

/-! ### Bytes below 128 -/

/-- A byte below 128 stands for itself, and for nothing else. -/
theorem Form.eq_of_mem {bytes : List UInt8} {n : Nat} (h : Form bytes n) {b : UInt8}
    (hmem : b ∈ bytes) (hlow : b.toNat < 0x80) : n = b.toNat := by
  cases h with
  | one h0 hn => rw [hn, List.mem_singleton.mp hmem]
  -- No byte of a longer form is below 128.
  | two h0 h1 hn =>
    rw [isContinuation_iff] at h1
    simp only [List.mem_cons, List.not_mem_nil, or_false] at hmem
    obtain rfl | rfl := hmem <;> omega
  | three h0 h1 h2 hn =>
    rw [maySecond_iff] at h1
    rw [isContinuation_iff] at h2
    simp only [List.mem_cons, List.not_mem_nil, or_false] at hmem
    obtain rfl | rfl | rfl := hmem <;> omega
  | four h0 h1 h2 h3 hn =>
    rw [maySecond_iff] at h1
    rw [isContinuation_iff] at h2 h3
    simp only [List.mem_cons, List.not_mem_nil, or_false] at hmem
    obtain rfl | rfl | rfl | rfl := hmem <;> omega

/-- A character below 128 has its byte in a text exactly if it is in the text. -/
theorem mem_encode_iff {cs : List Char} {n : Nat} (hn : n < 0x80) :
    UInt8.ofNat n ∈ encode cs ↔ Char.ofNat n ∈ cs := by
  have hbyte : (UInt8.ofNat n).toNat = n := toNat_ofNat_of_lt (by omega)
  unfold encode
  rw [List.mem_flatMap]
  constructor
  · rintro ⟨c, hc, hmem⟩
    have hpoint := (form_encodeChar c).eq_of_mem hmem (by omega)
    rw [hbyte] at hpoint
    rwa [← hpoint, Char.ofNat_toNat]
  · intro hc
    have hform : Form [UInt8.ofNat n] n := .one (by omega) hbyte.symm
    refine ⟨Char.ofNat n, hc, ?_⟩
    rw [hform.encodeChar_eq]
    exact List.mem_singleton_self _

end Gatekeeper.Text.Utf8
