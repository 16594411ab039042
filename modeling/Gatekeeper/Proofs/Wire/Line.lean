import Gatekeeper.Wire.Line
import Gatekeeper.Proofs.Text.Utf8.Decode
import Mathlib.Algebra.Group.Nat.Defs

/-!
# `Gatekeeper.Proofs.Wire.Line`: a framed line is read whole or not at all

A line without control characters holds no line feed, so the first line feed on the stream is
the one that the frame puts behind it. If it is within the bytes that a piece may have, the
piece is the line with its end; if not, the piece is full before any line feed, and an error.

* `nextPiece_flatten`: the chunks of a stream do not matter.
* `readLine_frame`: a line shorter than the limit is read as it was sent, and what follows it is
  left.
* `readLine_frame_of_ge`: any other line is an error.
-/

set_option autoImplicit false

namespace Gatekeeper.Wire

open Gatekeeper.Text

/-! ### Pieces -/

/-- The piece at the front of two lists is that of the first, or goes on in the second. -/
theorem takePiece_append (limit : Nat) (front back : List UInt8) :
    takePiece limit (front ++ back) =
      if (takePiece limit front).2.1 then
        ((takePiece limit front).1, true, (takePiece limit front).2.2 ++ back)
      else
        let more := takePiece (limit - (takePiece limit front).1.length) back
        ((takePiece limit front).1 ++ more.1, more.2.1, more.2.2) := by
  -- Each byte of the first list that is no line feed uses up one of the limit.
  induction front generalizing limit with
  | nil => cases limit <;> rfl
  | cons b front ih =>
    cases limit with
    | zero => rfl
    | succ limit =>
      rw [List.cons_append, takePiece, takePiece]
      by_cases hfeed : b = lineFeed
      · rw [if_pos hfeed, if_pos hfeed]
        rfl
      · rw [if_neg hfeed, if_neg hfeed]
        dsimp only
        rw [ih limit]
        by_cases hcomplete : (takePiece limit front).2.1 = true
        · rw [if_pos hcomplete, if_pos hcomplete]
        · rw [if_neg hcomplete, if_neg hcomplete]
          simp

/-- The piece of a stream in chunks is that of the bytes of all of them. -/
theorem nextPiece_flatten (limit : Nat) (chunks : List (List UInt8)) :
    (nextPiece limit chunks).1 = (takePiece limit chunks.flatten).1 ∧
      (nextPiece limit chunks).2.flatten = (takePiece limit chunks.flatten).2.2 := by
  induction chunks generalizing limit with
  | nil => cases limit <;> exact ⟨rfl, rfl⟩
  | cons chunk chunks ih =>
    rw [List.flatten_cons, takePiece_append, nextPiece]
    -- A chunk that completes the piece is cut. Otherwise the next chunks go on with what is
    -- left of the limit.
    by_cases hcomplete : (takePiece limit chunk).2.1 = true
    · rw [if_pos hcomplete]
      dsimp only
      rw [if_pos hcomplete]
      refine ⟨rfl, ?_⟩
      cases (takePiece limit chunk).2.2 <;> rfl
    · rw [if_neg hcomplete]
      dsimp only
      rw [if_neg hcomplete]
      obtain ⟨hpiece, hrest⟩ := ih (limit - (takePiece limit chunk).1.length)
      exact ⟨congrArg _ hpiece, hrest⟩

/-- Bytes without a line feed, and a line feed within the limit, are a piece. -/
theorem takePiece_lineFeed {limit : Nat} {body : List UInt8} (hbody : lineFeed ∉ body)
    (hlimit : body.length < limit) (rest : List UInt8) :
    takePiece limit (body ++ lineFeed :: rest) = (body ++ [lineFeed], true, rest) := by
  induction body generalizing limit with
  | nil =>
    obtain ⟨limit, rfl⟩ := Nat.exists_eq_add_one.mpr hlimit
    rfl
  | cons b body ih =>
    obtain ⟨limit, rfl⟩ := Nat.exists_eq_add_one.mpr (Nat.zero_lt_of_lt hlimit)
    rw [List.mem_cons, not_or] at hbody
    have hrest := ih hbody.2 (Nat.lt_of_succ_lt_succ hlimit)
    rw [List.cons_append, takePiece, if_neg fun h => hbody.1 h.symm, hrest]
    rfl

/-- Bytes without a line feed that reach the limit are cut there. -/
theorem takePiece_full {limit : Nat} {body : List UInt8} (hbody : lineFeed ∉ body)
    (hlimit : limit ≤ body.length) (rest : List UInt8) :
    takePiece limit (body ++ rest) = (body.take limit, true, body.drop limit ++ rest) := by
  induction body generalizing limit with
  | nil =>
    rw [Nat.le_zero.mp hlimit]
    rfl
  | cons b body ih =>
    cases limit with
    | zero => rfl
    | succ limit =>
      rw [List.mem_cons, not_or] at hbody
      have hrest := ih hbody.2 (Nat.le_of_succ_le_succ hlimit)
      rw [List.cons_append, takePiece, if_neg fun h => hbody.1 h.symm, hrest]
      rfl

/-! ### Lines -/

/-- A line as this program sends it: no control character is in it. -/
def Printable (line : String) : Prop := ∀ c ∈ line.toList, ' ' ≤ c

variable {line : String} {max : UInt64}

/-- Below the largest number of 64 bits, a piece may have one byte more than a line. -/
theorem pieceLimit?_eq (hmax : max.toNat < 2 ^ 64 - 1) : pieceLimit? max = some (max.toNat + 1) :=
  if_pos (by omega)

/-- The bytes of a frame: those of the line, and the two that end it. -/
theorem encodeString_frame (line : String) :
    Utf8.encodeString (frame line) = Utf8.encodeString line ++ [carriageReturn, lineFeed] := by
  unfold Utf8.encodeString frame Utf8.encode
  rw [String.toList_append, List.flatMap_append]
  rfl

/-- Where the line feed of a frame stands. -/
theorem encodeString_frame_append (line : String) (rest : List UInt8) :
    Utf8.encodeString (frame line) ++ rest =
      Utf8.encodeString line ++ [carriageReturn] ++ lineFeed :: rest := by
  rw [encodeString_frame]
  simp

/-- A text has a line feed in its bytes just if it has one. -/
theorem lineFeed_mem_encode_iff {cs : List Char} : lineFeed ∈ Utf8.encode cs ↔ '\n' ∈ cs :=
  Utf8.mem_encode_iff (by decide)

/-- A printable line has no line feed before the end of its frame. -/
theorem lineFeed_not_mem_of_printable (h : Printable line) :
    lineFeed ∉ Utf8.encodeString line ++ [carriageReturn] := by
  intro hmem
  obtain hmem | hmem := List.mem_append.mp hmem
  · have hfeed := h '\n' (lineFeed_mem_encode_iff.mp hmem)
    revert hfeed
    decide
  · revert hmem
    decide

/-- The piece of a whole frame is its line. -/
theorem lineOfPiece_frame (max : UInt64) (h : Printable line) :
    lineOfPiece max (Utf8.encodeString (frame line)) = .ok line := by
  have hdecode : Utf8.decode (Utf8.encodeString (frame line)) =
      .ok (line.toList ++ ['\r', '\n']) := by
    rw [Utf8.decode_eq_ok_iff]
    unfold Utf8.encodeString frame
    rw [String.toList_append]
    rfl
  unfold lineOfPiece
  rw [hdecode]
  dsimp only
  have hlast : (line.toList ++ ['\r', '\n']).getLast? = some '\n' := by simp
  rw [if_neg fun hfault => hfault.1 hlast, List.reverse_append]
  -- Behind the two characters of the end stands none that would be taken off.
  have hkeep : (line.toList.reverse).dropWhile (fun c => c = '\r' || c = '\n') =
      line.toList.reverse := by
    cases hreverse : line.toList.reverse with
    | nil => rfl
    | cons c rest =>
      have hmem : c ∈ line.toList := by
        rw [← List.mem_reverse, hreverse]
        exact .head _
      have hreturn : c ≠ '\r' := fun heq => absurd (h c hmem) (by rw [heq]; decide)
      have hfeed : c ≠ '\n' := fun heq => absurd (h c hmem) (by rw [heq]; decide)
      rw [List.dropWhile_cons, if_neg (by simp [hreturn, hfeed])]
  show Except.ok (String.ofList ((line.toList.reverse).dropWhile _).reverse) = _
  rw [hkeep, List.reverse_reverse, String.ofList_toList]

/-- A piece that is full without a line feed is an error; if it is text, it is too long. -/
theorem lineOfPiece_full {piece : List UInt8} (hfeed : lineFeed ∉ piece)
    (hfull : max.toNat < piece.length) :
    ∃ fault, lineOfPiece max piece = .error fault ∧
      ∀ cs, piece = Utf8.encode cs → fault = .tooLong max := by
  unfold lineOfPiece
  cases hdecode : Utf8.decode piece with
  | error fault =>
    refine ⟨.notText fault, rfl, ?_⟩
    intro cs hcs
    rw [Utf8.decode_eq_ok_iff.mpr hcs] at hdecode
    cases hdecode
  | ok cs =>
    -- Without the byte there is no such character.
    have hlast : cs.getLast? ≠ some '\n' := by
      intro hlast
      rw [Utf8.decode_eq_ok_iff.mp hdecode] at hfeed
      exact hfeed (lineFeed_mem_encode_iff.mpr (List.mem_of_getLast? hlast))
    dsimp only
    rw [if_pos ⟨hlast, hfull⟩]
    exact ⟨.tooLong max, rfl, fun _ _ => rfl⟩

/-! ### Reading -/

/-- A reader reads the piece at the front of the bytes, whatever the chunks are. -/
theorem readLine_of_takePiece {limit : Nat} (hlimit : pieceLimit? max = some limit)
    {chunks : List (List UInt8)} {piece rest : List UInt8} {complete : Bool}
    (h : takePiece limit chunks.flatten = (piece, complete, rest)) (hne : piece ≠ []) :
    (readLine max chunks).1 = .line (lineOfPiece max piece) ∧
      (readLine max chunks).2.flatten = rest := by
  obtain ⟨hpiece, hrest⟩ := nextPiece_flatten limit chunks
  rw [h] at hpiece hrest
  unfold readLine
  rw [hlimit]
  dsimp only
  rw [hpiece, if_neg fun hempty => hne (List.isEmpty_iff.mp hempty)]
  exact ⟨rfl, hrest⟩

/-- A line shorter than the limit is read as it was sent, and what follows it is left. -/
theorem readLine_frame (h : Printable line) (hmax : max.toNat < 2 ^ 64 - 1)
    (hsize : (Utf8.encodeString line).length < max.toNat) {chunks : List (List UInt8)}
    {rest : List UInt8} (hchunks : chunks.flatten = Utf8.encodeString (frame line) ++ rest) :
    (readLine max chunks).1 = .line (.ok line) ∧ (readLine max chunks).2.flatten = rest := by
  -- The carriage return counts, which is why the line has to be shorter than the limit.
  have hlimit : (Utf8.encodeString line ++ [carriageReturn]).length < max.toNat + 1 := by
    rw [List.length_append, List.length_singleton]
    omega
  have htake := takePiece_lineFeed (lineFeed_not_mem_of_printable h) hlimit rest
  have hframe : Utf8.encodeString line ++ [carriageReturn] ++ [lineFeed] =
      Utf8.encodeString (frame line) := by
    rw [encodeString_frame, List.append_assoc]
    rfl
  rw [← encodeString_frame_append, ← hchunks, hframe] at htake
  have hne : Utf8.encodeString (frame line) ≠ [] := by simp [encodeString_frame]
  rw [← lineOfPiece_frame max h]
  exact readLine_of_takePiece (pieceLimit?_eq hmax) htake hne

/-- Any other line is an error. One byte more than the limit is text if it is the carriage return
behind a line of exactly that many bytes, and then the line is too long. -/
theorem readLine_frame_of_ge (h : Printable line) (hmax : max.toNat < 2 ^ 64 - 1)
    (hsize : max.toNat ≤ (Utf8.encodeString line).length) {chunks : List (List UInt8)}
    {rest : List UInt8} (hchunks : chunks.flatten = Utf8.encodeString (frame line) ++ rest) :
    ∃ fault, (readLine max chunks).1 = .line (.error fault) ∧
      ((Utf8.encodeString line).length = max.toNat → fault = .tooLong max) := by
  have hfeed := lineFeed_not_mem_of_printable h
  have hlimit : max.toNat + 1 ≤ (Utf8.encodeString line ++ [carriageReturn]).length := by
    rw [List.length_append, List.length_singleton]
    omega
  -- The piece is cut before the line feed, with one byte more than the limit in it.
  have htake := takePiece_full hfeed hlimit (lineFeed :: rest)
  rw [← encodeString_frame_append, ← hchunks] at htake
  have hlength : ((Utf8.encodeString line ++ [carriageReturn]).take (max.toNat + 1)).length =
      max.toNat + 1 := by
    rw [List.length_take, Nat.min_eq_left hlimit]
  have hfull := Nat.lt_of_lt_of_eq (Nat.lt_succ_self max.toNat) hlength.symm
  obtain ⟨fault, hfault, htext⟩ :=
    lineOfPiece_full (fun hmem => hfeed (List.mem_of_mem_take hmem)) hfull
  refine ⟨fault, ?_, ?_⟩
  · rw [← hfault]
    refine (readLine_of_takePiece (pieceLimit?_eq hmax) htake ?_).1
    intro hnil
    rw [hnil] at hlength
    cases hlength
  · intro hexact
    -- Here the cut is behind the carriage return, so no character is torn apart.
    apply htext (line.toList ++ ['\r'])
    rw [List.take_of_length_le]
    · unfold Utf8.encodeString Utf8.encode
      rw [List.flatMap_append]
      rfl
    · rw [List.length_append, List.length_singleton]
      omega

end Gatekeeper.Wire
