/-!
# `Gatekeeper.Text.Utf8`: bytes as characters

The decoder reads one character after another and stops at the first place where
no character starts. Its error tells where that is, and whether the bytes there
are wrong or only cut short by the end.

* `decode`: the characters, or the first fault.
* `encode`: the bytes of characters.
-/

set_option autoImplicit false

namespace Gatekeeper.Text.Utf8

/-- The first place where bytes are not UTF-8: after `validUpTo` good bytes come
`badLength` bytes that start no character, or, for `none`, the start of a
character that the end cuts off. -/
structure Fault where
  validUpTo : Nat
  badLength : Option Nat
  deriving DecidableEq, Repr

/-- The wording of a fault. -/
def Fault.message (fault : Fault) : String :=
  match fault.badLength with
  | some n => s!"invalid utf-8 sequence of {n} bytes from index {fault.validUpTo}"
  | none => s!"incomplete utf-8 byte sequence from index {fault.validUpTo}"

/-- The bytes of characters. -/
def encode (cs : List Char) : List UInt8 := cs.flatMap String.utf8EncodeChar

/-- The bytes of a text. -/
def encodeString (s : String) : List UInt8 := encode s.toList

/-- Whether the byte continues a character. -/
def isContinuation (b : UInt8) : Bool := 0x80 ≤ b && b ≤ 0xbf

/-- Whether `b` may follow the first byte `lead` of a character of three or four
bytes. The bounds leave out overlong forms, surrogates and numbers past the last
code point. -/
def maySecond (lead b : UInt8) : Bool :=
  if lead = 0xe0 then 0xa0 ≤ b && b ≤ 0xbf
  else if lead = 0xed then 0x80 ≤ b && b ≤ 0x9f
  else if lead = 0xf0 then 0x90 ≤ b && b ≤ 0xbf
  else if lead = 0xf4 then 0x80 ≤ b && b ≤ 0x8f
  else isContinuation b

/-- The six low bits of a continuation byte. -/
def payload (b : UInt8) : Nat := b.toNat % 64

/-- The characters of the bytes that follow `start` good ones. -/
def decodeFrom (start : Nat) : List UInt8 → Except Fault (List Char)
  | [] => .ok []
  | b0 :: t0 =>
    if b0 < 0x80 then
      (Char.ofNat b0.toNat :: ·) <$> decodeFrom (start + 1) t0
    else if 0xc2 ≤ b0 && b0 ≤ 0xdf then
      match t0 with
      | [] => .error ⟨start, none⟩
      | b1 :: t1 =>
        if isContinuation b1 then
          (Char.ofNat (b0.toNat % 32 * 64 + payload b1) :: ·) <$> decodeFrom (start + 2) t1
        else .error ⟨start, some 1⟩
    else if 0xe0 ≤ b0 && b0 ≤ 0xef then
      match t0 with
      | [] => .error ⟨start, none⟩
      | b1 :: t1 =>
        if maySecond b0 b1 then
          match t1 with
          | [] => .error ⟨start, none⟩
          | b2 :: t2 =>
            if isContinuation b2 then
              (Char.ofNat (b0.toNat % 16 * 4096 + payload b1 * 64 + payload b2) :: ·) <$>
                decodeFrom (start + 3) t2
            else .error ⟨start, some 2⟩
        else .error ⟨start, some 1⟩
    else if 0xf0 ≤ b0 && b0 ≤ 0xf4 then
      match t0 with
      | [] => .error ⟨start, none⟩
      | b1 :: t1 =>
        if maySecond b0 b1 then
          match t1 with
          | [] => .error ⟨start, none⟩
          | b2 :: t2 =>
            if isContinuation b2 then
              match t2 with
              | [] => .error ⟨start, none⟩
              | b3 :: t3 =>
                if isContinuation b3 then
                  (Char.ofNat (b0.toNat % 8 * 262144 + payload b1 * 4096 + payload b2 * 64 +
                    payload b3) :: ·) <$> decodeFrom (start + 4) t3
                else .error ⟨start, some 3⟩
            else .error ⟨start, some 2⟩
        else .error ⟨start, some 1⟩
    else .error ⟨start, some 1⟩

/-- The characters that bytes encode, or the first place where they do not. -/
def decode (bytes : List UInt8) : Except Fault (List Char) := decodeFrom 0 bytes

/-- The text that bytes encode, if they are UTF-8. -/
def decodeString? (bytes : List UInt8) : Option String :=
  match decode bytes with
  | .ok cs => some (String.ofList cs)
  | .error _ => none

end Gatekeeper.Text.Utf8
