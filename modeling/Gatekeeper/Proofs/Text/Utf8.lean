import Gatekeeper.Text.Utf8

/-!
# `Gatekeeper.Proofs.Text.Utf8`: the order of texts is the order of their bytes

Texts are compared character by character, and characters by their code points. UTF-8
keeps that order: the first byte of a character tells how many follow, with greater first
bytes for longer forms, and within one length the bytes are the digits of the code point.

* `lex_encode`: of two texts, the one that comes first has the bytes that come first.
-/

set_option autoImplicit false

namespace Gatekeeper.Text.Utf8

/-- One byte list comes before another, byte by byte. -/
abbrev BytesBefore (a b : List UInt8) : Prop := List.Lex (· < ·) a b

/-- The first bytes decide, and where they are the same the rest does. -/
theorem bytesBefore_cons {m n : Nat} {a b : List UInt8} (hn : n < 256) (hle : m ≤ n)
    (hrest : m = n → BytesBefore a b) :
    BytesBefore (UInt8.ofNat m :: a) (UInt8.ofNat n :: b) := by
  rcases Nat.lt_or_eq_of_le hle with hlt | heq
  · apply List.Lex.rel
    rw [UInt8.lt_iff_toNat_lt, UInt8.toNat_ofNat_of_lt' (by exact Nat.lt_of_le_of_lt hle hn),
      UInt8.toNat_ofNat_of_lt' (by exact hn)]
    exact hlt
  · rw [heq]
    exact List.Lex.cons (hrest heq)

/-- A character with a smaller code point has smaller bytes, whatever follows. -/
theorem bytesBefore_encodeChar {c d : Char} (h : c < d) (a b : List UInt8) :
    BytesBefore (String.utf8EncodeChar c ++ a) (String.utf8EncodeChar d ++ b) := by
  have hlt : c.val.toNat < d.val.toNat := h
  have hmax : d.val.toNat < 0x110000 := by
    have hvalid := d.valid
    simp only [UInt32.isValidChar, Nat.isValidChar] at hvalid
    omega
  unfold String.utf8EncodeChar
  dsimp only
  repeat' split
  -- The first byte that differs decides; the digits before it agree.
  all_goals
    repeat' first
      | (exfalso; omega)
      | refine bytesBefore_cons (by omega) (by omega) fun _ => ?_

/-- Of two texts, the one that comes first has the bytes that come first. The induction is
on how the texts compare. -/
theorem lex_encode {s t : String} (h : s < t) :
    BytesBefore (encodeString s) (encodeString t) := by
  have hlex : List.Lex (· < ·) s.toList t.toList := String.lt_iff.mp h
  unfold encodeString
  generalize s.toList = cs at hlex
  generalize t.toList = ds at hlex
  induction hlex with
  | @nil d ds =>
    show BytesBefore [] (String.utf8EncodeChar d ++ encode ds)
    cases hbytes : String.utf8EncodeChar d with
    | nil => exact absurd hbytes String.utf8EncodeChar_ne_nil
    | cons byte rest => exact List.Lex.nil
  -- A common character has common bytes.
  | @cons c cs ds _ ih =>
    show BytesBefore (String.utf8EncodeChar c ++ encode cs) (String.utf8EncodeChar c ++ encode ds)
    induction String.utf8EncodeChar c with
    | nil => exact ih
    | cons byte rest ihBytes => exact List.Lex.cons ihBytes
  -- The first characters that differ decide, by their bytes, whatever follows.
  | rel hlt => exact bytesBefore_encodeChar hlt _ _

end Gatekeeper.Text.Utf8
