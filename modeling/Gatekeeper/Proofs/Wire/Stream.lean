import Gatekeeper.Proofs.Wire.Line
import Mathlib.Algebra.BigOperators.Group.List.Basic
import Mathlib.Data.List.DropRight

/-!
# `Gatekeeper.Proofs.Wire.Stream`: a stream is read to its end

A reader is called until it finds the end of the stream, and an error does not stop it. Its
calls take the stream apart: each takes a piece off the front, and all that a call answers is
read off its piece. So nothing is lost, nothing is made up, and the chunks in which the stream
arrives do not matter.

* `Cut`: how a stream falls into pieces.
* `Answers`: what a call has to answer to a piece.
* `Drains`: the calls on a stream, up to the one that finds its end.
* `stream_run`: the calls on a stream are a cut of it, with the answers to its pieces.
-/

set_option autoImplicit false

namespace Gatekeeper.Wire

open Gatekeeper.Text

/-! ### Pieces -/

/-- A piece at the front of a stream, and the bytes after it. The piece ends with its first line
feed, at the limit or with the stream. -/
structure Front (limit : Nat) (stream piece rest : List UInt8) : Prop where
  append : piece ++ rest = stream
  bounded : piece.length ≤ limit
  inner : lineFeed ∉ piece.dropLast
  ends : piece.getLast? = some lineFeed ∨ piece.length = limit ∨ rest = []

/-- A stream in pieces, each with a byte at least and `limit` at most. A piece ends with its
first line feed, at the limit or with the stream. -/
structure Cut (limit : Nat) (stream : List UInt8) (pieces : List (List UInt8)) : Prop where
  flatten : pieces.flatten = stream
  pos : ∀ piece ∈ pieces, 1 ≤ piece.length
  bounded : ∀ piece ∈ pieces, piece.length ≤ limit
  inner : ∀ piece ∈ pieces, lineFeed ∉ piece.dropLast
  ends : ∀ before piece after, pieces = before ++ piece :: after →
    piece.getLast? = some lineFeed ∨ piece.length = limit ∨ after = []

section
variable {limit : Nat} {stream piece rest : List UInt8} {pieces : List (List UInt8)}

/-- The piece that is taken off a stream is its front. -/
theorem front_takePiece (limit : Nat) (stream : List UInt8) :
    Front limit stream (takePiece limit stream).1 (takePiece limit stream).2.2 := by
  induction stream generalizing limit with
  | nil =>
    cases limit with
    | zero => exact ⟨rfl, Nat.le_refl _, List.not_mem_nil, .inr (.inl rfl)⟩
    | succ limit => exact ⟨rfl, Nat.zero_le _, List.not_mem_nil, .inr (.inr rfl)⟩
  | cons b stream ih =>
    cases limit with
    | zero => exact ⟨rfl, Nat.le_refl _, List.not_mem_nil, .inr (.inl rfl)⟩
    | succ limit =>
      rw [takePiece]
      -- A line feed ends the piece. Anything else stands before the front of the rest.
      by_cases hfeed : b = lineFeed
      · rw [if_pos hfeed]
        exact ⟨rfl, Nat.succ_le_succ (Nat.zero_le _), List.not_mem_nil,
          .inl (congrArg some hfeed)⟩
      · rw [if_neg hfeed]
        dsimp only
        obtain ⟨happend, hbounded, hinner, hends⟩ := ih limit
        generalize (takePiece limit stream).1 = piece at happend hbounded hinner hends ⊢
        refine ⟨congrArg (b :: ·) happend, Nat.succ_le_succ hbounded, ?_, ?_⟩
        · cases piece with
          | nil => exact List.not_mem_nil
          | cons c piece =>
            rw [List.dropLast_cons_of_ne_nil (List.cons_ne_nil c piece), List.mem_cons, not_or]
            exact ⟨fun heq => hfeed heq.symm, hinner⟩
        · refine hends.imp (fun hlast => ?_) (Or.imp_left (congrArg (· + 1)))
          rw [List.getLast?_cons, hlast]
          rfl

/-- There is a piece where there are bytes. -/
theorem Front.ne_nil (h : Front limit stream piece rest) (hlimit : 0 < limit)
    (hstream : stream ≠ []) : piece ≠ [] := by
  rintro rfl
  obtain hlast | hfull | hrest := h.ends
  · cases hlast
  · exact absurd hfull (Nat.ne_of_lt hlimit)
  · exact hstream (by rw [← h.append, hrest]; rfl)

/-- Nothing is cut into nothing. -/
theorem cut_nil (limit : Nat) : Cut limit [] [] where
  flatten := rfl
  pos := nofun
  bounded := nofun
  inner := nofun
  ends before piece after h := absurd h (by simp)

/-- A stream without bytes has no pieces. -/
theorem Cut.eq_nil (h : Cut limit [] pieces) : pieces = [] := by
  cases pieces with
  | nil => rfl
  | cons piece pieces =>
    have hpos := h.pos piece (.head _)
    rw [(List.append_eq_nil_iff.mp h.flatten).1] at hpos
    cases hpos

/-- A piece at the front, and a cut of the rest. -/
theorem Cut.cons (h : Cut limit rest pieces) (hfront : Front limit stream piece rest)
    (hne : piece ≠ []) : Cut limit stream (piece :: pieces) where
  flatten := by rw [List.flatten_cons, h.flatten, hfront.append]
  pos := List.forall_mem_cons.mpr ⟨List.length_pos_iff.mpr hne, h.pos⟩
  bounded := List.forall_mem_cons.mpr ⟨hfront.bounded, h.bounded⟩
  inner := List.forall_mem_cons.mpr ⟨hfront.inner, h.inner⟩
  ends before piece' after heq := by
    cases before with
    | nil =>
      cases heq
      -- Where the stream ends with the piece, no other comes after it.
      exact hfront.ends.imp_right (Or.imp_right fun hrest => (hrest ▸ h).eq_nil)
    | cons first before =>
      obtain ⟨-, heq⟩ := List.cons.inj heq
      exact h.ends before piece' after heq

/-- Each piece takes a byte. -/
theorem Cut.length_le (h : Cut limit stream pieces) : pieces.length ≤ stream.length := by
  rw [← h.flatten, List.length_flatten]
  have hsum := List.length_le_sum_of_one_le (pieces.map List.length) (by simpa using h.pos)
  rwa [List.length_map] at hsum

end

/-! ### Answers -/

/-- Whether the character may stand at the end of a line. -/
def IsEnding (c : Char) : Prop := c = '\r' ∨ c = '\n'

/-- What a reader of lines of at most `max` bytes has to answer to a piece. -/
inductive Answers (max : UInt64) (piece : List UInt8) : Except LineFault String → Prop
  /-- The piece is no text. -/
  | notText (fault : Utf8.Fault) (garbled : ∀ cs, piece ≠ Utf8.encode cs) :
    Answers max piece (.error (.notText fault))
  /-- The piece is a text of more bytes than a line may have, without a line feed. -/
  | tooLong {cs : List Char} (text : piece = Utf8.encode cs) (full : piece.length = max.toNat + 1)
    (unended : lineFeed ∉ piece) : Answers max piece (.error (.tooLong max))
  /-- The piece is any other text. All line feeds and carriage returns at its end are taken
  off. -/
  | line {line : String} {ending : List Char}
    (text : piece = Utf8.encodeString line ++ Utf8.encode ending)
    (fits : lineFeed ∈ piece ∨ piece.length ≤ max.toNat)
    (ending : ∀ c ∈ ending, IsEnding c) (kept : ∀ c ∈ line.toList.getLast?, ¬IsEnding c)
    (bounded : (Utf8.encodeString line).length ≤ max.toNat) (clean : '\n' ∉ line.toList) :
    Answers max piece (.ok line)

/-- What stands before the end of a text and what is taken off there. -/
theorem exists_ending (cs : List Char) :
    ∃ line ending, (cs.reverse.dropWhile fun c => c = '\r' || c = '\n').reverse = line ∧
      cs = line ++ ending ∧ (∀ c ∈ ending, IsEnding c) ∧ ∀ c ∈ line.getLast?, ¬IsEnding c := by
  refine ⟨cs.rdropWhile _, cs.rtakeWhile _, rfl,
    (List.rdropWhile_append_rtakeWhile ..).symm, fun c hc => ?_, fun c hc => ?_⟩
  · simpa [IsEnding] using List.mem_rtakeWhile_imp hc
  · obtain ⟨hne, rfl⟩ := List.mem_getLast?_eq_getLast hc
    simpa [IsEnding] using List.rdropWhile_last_not _ _ hne

section
variable {max : UInt64} {piece : List UInt8} {cs line ending : List Char}

/-- Nothing stands behind the line feed of a piece. -/
theorem eq_nil_of_inner (hinner : lineFeed ∉ piece.dropLast) {before after : List Char}
    (htext : piece = Utf8.encode (before ++ '\n' :: after)) : after = [] := by
  by_contra hafter
  have hne : Utf8.encode after ≠ [] := fun hnil => hafter (Utf8.encode_injective hnil)
  have hsplit : before ++ '\n' :: after = (before ++ ['\n']) ++ after := by simp
  have hmem : lineFeed ∈ Utf8.encode (before ++ ['\n']) := lineFeed_mem_encode_iff.mpr (by simp)
  rw [htext, hsplit, Utf8.encode_append, List.dropLast_append_of_ne_nil hne] at hinner
  exact hinner (List.mem_append_left _ hmem)

/-- A text with a line feed ends with it. -/
theorem getLast?_of_inner (hinner : lineFeed ∉ piece.dropLast) (htext : piece = Utf8.encode cs)
    (hmem : '\n' ∈ cs) : cs.getLast? = some '\n' := by
  obtain ⟨before, after, hcs⟩ := List.append_of_mem hmem
  have hnil : after = [] := eq_nil_of_inner hinner (hcs ▸ htext)
  rw [hcs, hnil]
  simp

/-- No line feed is left in a line. -/
theorem lineFeed_notMem_line (hinner : lineFeed ∉ piece.dropLast)
    (htext : piece = Utf8.encode (line ++ ending)) (hkept : ∀ c ∈ line.getLast?, ¬IsEnding c) :
    '\n' ∉ line := by
  intro hmem
  obtain ⟨before, after, hline⟩ := List.append_of_mem hmem
  rw [hline, List.append_assoc, List.cons_append] at htext
  have hnil : after = [] := (List.append_eq_nil_iff.mp (eq_nil_of_inner hinner htext)).1
  refine hkept '\n' ?_ (.inr rfl)
  rw [hline, hnil]
  simp

/-- A line is no longer than lines may be: a piece with one byte more has a line feed, which is
taken off. -/
theorem length_line_le (htext : piece = Utf8.encode (line ++ ending)) (hclean : '\n' ∉ line)
    (hbounded : piece.length ≤ max.toNat + 1)
    (hfits : lineFeed ∈ piece ∨ piece.length ≤ max.toNat) :
    (Utf8.encode line).length ≤ max.toNat := by
  have hlength : piece.length = (Utf8.encode line).length + (Utf8.encode ending).length := by
    rw [htext, Utf8.encode_append, List.length_append]
  obtain hmem | hle := hfits
  · rw [htext, lineFeed_mem_encode_iff, List.mem_append] at hmem
    have hending := lineFeed_mem_encode_iff.mpr (hmem.resolve_left hclean)
    have hpos := List.length_pos_of_mem hending
    omega
  · omega

/-- A reader answers to a piece as it has to. -/
theorem answers_lineOfPiece (hbounded : piece.length ≤ max.toNat + 1)
    (hinner : lineFeed ∉ piece.dropLast) : Answers max piece (lineOfPiece max piece) := by
  unfold lineOfPiece
  cases hdecode : Utf8.decode piece with
  | error fault =>
    refine .notText fault fun cs hcs => ?_
    rw [Utf8.decode_eq_ok_iff.mpr hcs] at hdecode
    cases hdecode
  | ok cs =>
    have htext : piece = Utf8.encode cs := Utf8.decode_eq_ok_iff.mp hdecode
    -- A line feed can only be the last byte, and in a text it is the last character.
    have hfeed : lineFeed ∈ piece ↔ cs.getLast? = some '\n' := by
      refine ⟨fun hmem => ?_, fun hlast => ?_⟩
      · rw [htext, lineFeed_mem_encode_iff] at hmem
        exact getLast?_of_inner hinner htext hmem
      · rw [htext, lineFeed_mem_encode_iff]
        exact List.mem_of_getLast? hlast
    dsimp only
    split
    next hlong =>
      rw [ne_eq, ← hfeed] at hlong
      exact .tooLong htext (Nat.le_antisymm hbounded hlong.2) hlong.1
    next hshort =>
      -- What is left without its ending is the line.
      obtain ⟨line, ending, hline, hcs, hends, hkept⟩ := exists_ending cs
      rw [hcs] at htext
      have hclean : '\n' ∉ line := lineFeed_notMem_line hinner htext hkept
      have hfits : lineFeed ∈ piece ∨ piece.length ≤ max.toNat := by
        rwa [not_and_or, ne_eq, ← hfeed, not_not, Nat.not_lt] at hshort
      have hbound := length_line_le htext hclean hbounded hfits
      rw [hline]
      have htoList : (String.ofList line).toList = line := String.toList_ofList
      refine Answers.line (?_ : _ = _ ++ Utf8.encode ending) hfits hends ?_ ?_ ?_
      · rw [Utf8.encodeString, htoList, ← Utf8.encode_append, htext]
      · rwa [htoList]
      · rwa [Utf8.encodeString, htoList]
      · rwa [htoList]

end

/-! ### Calls -/

/-- A call of a reader: the bytes that it takes off the stream, and its answer. -/
structure Call where
  piece : List UInt8
  answer : Except LineFault String

/-- The calls of a reader on the chunks of a stream, up to the one that finds its end. An error
does not stop the reader. -/
inductive Drains (max : UInt64) : List (List UInt8) → List Call → Prop
  | ended {chunks : List (List UInt8)} (answer : (readLine max chunks).1 = .ended) :
    Drains max chunks []
  | went {chunks : List (List UInt8)} {call : Call} {calls : List Call}
    (answer : (readLine max chunks).1 = .line call.answer)
    (taken : chunks.flatten = call.piece ++ (readLine max chunks).2.flatten)
    (more : Drains max (readLine max chunks).2 calls) : Drains max chunks (call :: calls)

section
variable {max : UInt64} {chunks : List (List UInt8)} {calls calls' : List Call}

/-- What a reader does, it has to do. -/
theorem Drains.unique (h : Drains max chunks calls) (h' : Drains max chunks calls') :
    calls = calls' := by
  induction h generalizing calls' with
  | ended hnone =>
    cases h' with
    | ended _ => rfl
    | went hanswer _ _ => cases hnone.symm.trans hanswer
  | @went chunks call calls hanswer htaken _ ih =>
    cases h' with
    | ended hnone => cases hnone.symm.trans hanswer
    | @went _ call' calls' hanswer' htaken' hmore' =>
      -- Both calls took their piece off the same bytes and left the same rest.
      have hpiece : call.piece = call'.piece :=
        List.append_cancel_right (htaken.symm.trans htaken')
      have hsame : call = call' := by
        cases call
        cases call'
        cases hpiece
        cases hanswer.symm.trans hanswer'
        rfl
      rw [hsame, ih hmore']

/-- The answers are what a reader lists, if it may make one call more than that. -/
theorem readLines_of_drains {fuel : Nat} (h : Drains max chunks calls)
    (hfuel : calls.length < fuel) :
    readLines max fuel chunks = some (calls.map (·.answer)) := by
  induction h generalizing fuel with
  | @ended chunks hended =>
    obtain ⟨fuel, rfl⟩ := Nat.exists_eq_add_one.mpr hfuel
    rw [readLines]
    -- The last call finds the end, for which one unit of fuel is left.
    generalize readLine max chunks = read at hended ⊢
    obtain ⟨_, rest⟩ := read
    cases hended
    rfl
  | @went chunks call calls hanswer htaken _ ih =>
    obtain ⟨fuel, rfl⟩ := Nat.exists_eq_add_one.mpr (Nat.zero_lt_of_lt hfuel)
    have hmore := ih (Nat.lt_of_succ_lt_succ hfuel)
    rw [readLines]
    generalize readLine max chunks = read at hanswer hmore ⊢
    obtain ⟨_, rest⟩ := read
    cases hanswer
    dsimp only at hmore ⊢
    rw [hmore]
    rfl

/-- A reader that has a limit of pieces finds an end just where there are no bytes. -/
theorem readLine_eq_ended_iff {limit : Nat} (hlimit : pieceLimit? max = some limit) :
    (readLine max chunks).1 = .ended ↔ chunks.flatten = [] := by
  -- A limit is at least one, so a piece of something is something.
  have hpos : 0 < limit := by
    unfold pieceLimit? at hlimit
    split at hlimit
    · cases hlimit
      exact Nat.succ_pos _
    · cases hlimit
  have hpiece := (nextPiece_flatten limit chunks).1
  have hended : (readLine max chunks).1 = .ended ↔ (takePiece limit chunks.flatten).1 = [] := by
    unfold readLine
    rw [hlimit]
    dsimp only
    rw [hpiece, ← List.isEmpty_iff]
    split <;> simp [*]
  rw [hended]
  constructor
  · intro hnil
    by_contra hbytes
    exact (front_takePiece _ _).ne_nil hpos hbytes hnil
  · intro hflatten
    rw [hflatten]
    cases limit <;> rfl

/-- A reader that has a limit of pieces takes the piece at the front of the stream. -/
theorem readLine_of_front {limit : Nat} (hlimit : pieceLimit? max = some limit) (hpos : 0 < limit)
    (h : chunks.flatten ≠ []) :
    let piece := (takePiece limit chunks.flatten).1
    (readLine max chunks).1 = .line (lineOfPiece max piece) ∧
      (readLine max chunks).2.flatten = (takePiece limit chunks.flatten).2.2 :=
  readLine_of_takePiece hlimit rfl ((front_takePiece _ _).ne_nil hpos h)

end

/-- There are calls that cut the stream and answer to its pieces, and they are the same for all
chunks. The induction is on a bound of the number of bytes. -/
theorem exists_drains {max : UInt64} (hmax : max.toNat < 2 ^ 64 - 1) (bound : Nat)
    (stream : List UInt8) (hbound : stream.length ≤ bound) :
    ∃ calls : List Call, Cut (max.toNat + 1) stream (calls.map (·.piece)) ∧
      (∀ call ∈ calls, Answers max call.piece call.answer) ∧
      ∀ chunks, chunks.flatten = stream → Drains max chunks calls := by
  have hlimit := pieceLimit?_eq hmax
  induction bound generalizing stream with
  | zero =>
    have hnil : stream = [] := List.length_eq_zero_iff.mp (Nat.le_zero.mp hbound)
    subst hnil
    exact ⟨[], cut_nil _, nofun, fun chunks h => .ended ((readLine_eq_ended_iff hlimit).mpr h)⟩
  | succ bound ih =>
    by_cases hnil : stream = []
    · subst hnil
      exact ⟨[], cut_nil _, nofun, fun chunks h => .ended ((readLine_eq_ended_iff hlimit).mpr h)⟩
    have hpos : 0 < max.toNat + 1 := Nat.succ_pos _
    have hfront := front_takePiece (max.toNat + 1) stream
    -- One call takes the same piece off any chunks of the stream.
    have hread : ∀ chunks : List (List UInt8), chunks.flatten = stream →
        (readLine max chunks).1 =
            .line (lineOfPiece max (takePiece (max.toNat + 1) stream).1) ∧
          (readLine max chunks).2.flatten = (takePiece (max.toNat + 1) stream).2.2 := by
      intro chunks h
      have hread := readLine_of_front hlimit hpos (h ▸ hnil)
      rwa [h] at hread
    generalize (takePiece (max.toNat + 1) stream).1 = piece at hfront hread
    generalize (takePiece (max.toNat + 1) stream).2.2 = rest at hfront hread
    have hne : piece ≠ [] := hfront.ne_nil hpos hnil
    have hlength : piece.length + rest.length = stream.length := by
      rw [← hfront.append, List.length_append]
    -- The piece is not empty, so the rest is within the smaller bound.
    have hpiece := List.length_pos_iff.mpr hne
    obtain ⟨calls, hcut, hanswers, hdrains⟩ := ih rest (by omega)
    refine ⟨⟨piece, lineOfPiece max piece⟩ :: calls, hcut.cons hfront hne,
      List.forall_mem_cons.mpr ⟨answers_lineOfPiece hfront.bounded hfront.inner, hanswers⟩,
      fun chunks h => ?_⟩
    obtain ⟨hanswer, hrest⟩ := hread chunks h
    refine .went hanswer ?_ (hdrains _ hrest)
    rw [h, hrest, hfront.append]

/-- **A stream is read to its end**, whatever its bytes are and whatever lines may have, so that
one byte more is still a number of 64 bits. There is a list of calls such that:

* The calls cut the stream into pieces, none of which is empty. So they are no more than its
  bytes.
* Each call answers to its piece as it has to.
* On all chunks of the stream a reader makes these calls and no others, and the list of all
  answers is theirs. -/
theorem stream_run (max : UInt64) (hmax : max.toNat < 2 ^ 64 - 1) (stream : List UInt8) :
    ∃ calls : List Call, Cut (max.toNat + 1) stream (calls.map (·.piece)) ∧
      calls.length ≤ stream.length ∧ (∀ call ∈ calls, Answers max call.piece call.answer) ∧
      ∀ chunks, chunks.flatten = stream →
        (∀ calls', Drains max chunks calls' ↔ calls' = calls) ∧
          readAll max chunks = some (calls.map (·.answer)) := by
  obtain ⟨calls, hcut, hanswers, hdrains⟩ := exists_drains hmax _ stream (Nat.le_refl _)
  have hlength : calls.length ≤ stream.length := by
    have hlength := hcut.length_le
    rwa [List.length_map] at hlength
  refine ⟨calls, hcut, hlength, hanswers, fun chunks h => ⟨fun calls' => ?_, ?_⟩⟩
  · refine ⟨fun hcalls' => hcalls'.unique (hdrains chunks h), ?_⟩
    rintro rfl
    exact hdrains chunks h
  · rw [readAll, h]
    exact readLines_of_drains (hdrains chunks h) (Nat.lt_succ_of_le hlength)

/-- Of a long line, a garbled one and a short one in two chunks, the first is cut in the middle,
and what is left of it is a line of its own. -/
theorem stream_run_of_long_line :
    let calls : List Call :=
      [⟨[97, 98, 99], .error (.tooLong 2)⟩, ⟨[100, 13, 10], .ok "d"⟩,
        ⟨[255, 10], .error (.notText ⟨0, some 1⟩)⟩, ⟨[101], .ok "e"⟩]
    (2 : UInt64).toNat < 2 ^ 64 - 1 ∧
      Cut 3 [97, 98, 99, 100, 13, 10, 255, 10, 101] (calls.map (·.piece)) ∧
      (∀ call ∈ calls, Answers 2 call.piece call.answer) ∧
      ∀ chunks, chunks.flatten = [97, 98, 99, 100, 13, 10, 255, 10, 101] →
        readAll 2 chunks = some (calls.map (·.answer)) := by
  intro calls
  obtain ⟨found, hcut, -, hanswers, hread⟩ :=
    stream_run 2 (by decide) [97, 98, 99, 100, 13, 10, 255, 10, 101]
  have hfound : calls = found := by
    refine ((hread [[97, 98, 99, 100, 13], [10, 255, 10, 101]] rfl).1 calls).mp ?_
    refine .went rfl rfl (.went rfl rfl (.went rfl rfl (.went rfl rfl (.ended rfl))))
  rw [hfound]
  exact ⟨by decide, hcut, hanswers, fun chunks h => (hread chunks h).2⟩

end Gatekeeper.Wire
