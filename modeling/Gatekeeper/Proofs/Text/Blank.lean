import Gatekeeper.Text.Blank
import Mathlib.Data.List.TakeWhile

/-!
# `Gatekeeper.Proofs.Text.Blank`: blanks around a text

`trim` takes the blanks off both ends of a text. `Padded` says the same without it: the text is
blanks, then the core, then blanks. A core that is `Trimmed` has no blank at either end, and a text
has only one of those.

* `trim_eq_iff`: `trim` finds the trimmed core that the text pads.
* `trim_padded`: blanks around a trimmed core are taken off, whichever and however many.
-/

set_option autoImplicit false

namespace Gatekeeper.Text

/-- The text is the core with blanks around it. -/
def Padded (cs core : List Char) : Prop :=
  ∃ front back, (∀ c ∈ front, isBlank c = true) ∧ (∀ c ∈ back, isBlank c = true) ∧
    cs = front ++ core ++ back

/-- The text neither starts nor ends with a blank. -/
structure Trimmed (cs : List Char) : Prop where
  first : ∀ c ∈ cs.head?, isBlank c = false
  last : ∀ c ∈ cs.getLast?, isBlank c = false

variable {cs core : List Char}

/-- A text has no blanks around itself. -/
theorem Padded.refl (cs : List Char) : Padded cs cs :=
  ⟨[], [], nofun, nofun, (List.append_nil cs).symm⟩

/-- A text without any blank is trimmed. -/
theorem trimmed_of_forall (h : ∀ c ∈ cs, isBlank c = false) : Trimmed cs where
  first c hc := h c (List.mem_of_mem_head? hc)
  last c hc := h c (List.mem_of_mem_getLast? hc)

/-- A run of characters that pass a test ends at the first one that does not. -/
theorem span_append {p : Char → Bool} {front rest : List Char} (hfront : ∀ c ∈ front, p c = true)
    (hrest : ∀ c ∈ rest.head?, p c = false) :
    (front ++ rest).takeWhile p = front ∧ (front ++ rest).dropWhile p = rest := by
  have hend : rest.takeWhile p = [] ∧ rest.dropWhile p = rest := by
    cases rest with
    | nil => exact ⟨rfl, rfl⟩
    | cons c rest =>
      have hc : ¬p c = true := Bool.eq_false_iff.mp (hrest c rfl)
      exact ⟨List.takeWhile_cons_of_neg hc, List.dropWhile_cons_of_neg hc⟩
  constructor
  · rw [List.takeWhile_append_of_pos hfront, hend.1, List.append_nil]
  · rw [List.dropWhile_append_of_pos hfront, hend.2]

/-- Blanks are dropped up to the first character that is none. -/
theorem dropWhile_append_blanks {front rest : List Char} (hfront : ∀ c ∈ front, isBlank c = true)
    (hrest : ∀ c ∈ rest.head?, isBlank c = false) : (front ++ rest).dropWhile isBlank = rest :=
  (span_append hfront hrest).2

/-- Nothing but blanks leaves nothing. -/
theorem trim_of_blanks (h : ∀ c ∈ cs, isBlank c = true) : trim cs = [] := by
  have hstart : trimStart cs = [] := List.dropWhile_eq_nil_iff.mpr h
  rw [trim, hstart]
  rfl

/-- Blanks around a trimmed core are taken off. -/
theorem trim_padded (hpadded : Padded cs core) (hcore : Trimmed core) : trim cs = core := by
  obtain ⟨front, back, hfront, hback, rfl⟩ := hpadded
  cases core with
  | nil =>
    -- There is nothing between the two runs of blanks to stop at.
    apply trim_of_blanks
    intro c hc
    rw [List.append_nil, List.mem_append] at hc
    exact hc.elim (hfront c) (hback c)
  | cons c rest =>
    have hstart : trimStart (front ++ c :: rest ++ back) = c :: rest ++ back := by
      rw [trimStart, List.append_assoc]
      exact dropWhile_append_blanks hfront hcore.first
    have hend : trimEnd (c :: rest ++ back) = c :: rest := by
      have hreverse : ∀ d ∈ back.reverse, isBlank d = true :=
        fun d hd => hback d (List.mem_reverse.mp hd)
      have hlast : ∀ d ∈ (c :: rest).reverse.head?, isBlank d = false := by
        rw [List.head?_reverse]
        exact hcore.last
      rw [trimEnd, List.reverse_append, dropWhile_append_blanks hreverse hlast,
        List.reverse_reverse]
    rw [trim, hstart, hend]

/-- Nothing is taken off a text that has no blanks around it. -/
theorem trim_eq_self (h : Trimmed cs) : trim cs = cs := trim_padded (.refl cs) h

/-- Blanks around blanks are blanks. -/
theorem Padded.trans {outer : List Char} (h : Padded outer cs) (h' : Padded cs core) :
    Padded outer core := by
  obtain ⟨front, back, hfront, hback, rfl⟩ := h
  obtain ⟨front', back', hfront', hback', rfl⟩ := h'
  refine ⟨front ++ front', back' ++ back, fun c hc => ?_, fun c hc => ?_, ?_⟩
  · exact (List.mem_append.mp hc).elim (hfront c) (hfront' c)
  · exact (List.mem_append.mp hc).elim (hback' c) (hback c)
  · simp only [List.append_assoc]

/-- A text is what is left of it after trimming, with blanks around it. -/
theorem padded_trim (cs : List Char) : Padded cs (trim cs) := by
  refine ⟨cs.takeWhile isBlank, ((trimStart cs).reverse.takeWhile isBlank).reverse,
    fun c hc => List.mem_takeWhile_imp hc,
    fun c hc => List.mem_takeWhile_imp (List.mem_reverse.mp hc), ?_⟩
  have hend : trimStart cs =
      trim cs ++ ((trimStart cs).reverse.takeWhile isBlank).reverse := by
    rw [trim, trimEnd, ← List.reverse_append, List.takeWhile_append_dropWhile,
      List.reverse_reverse]
  calc cs = cs.takeWhile isBlank ++ trimStart cs := List.takeWhile_append_dropWhile.symm
    _ = cs.takeWhile isBlank ++
        (trim cs ++ ((trimStart cs).reverse.takeWhile isBlank).reverse) := by rw [← hend]
    _ = _ := (List.append_assoc ..).symm

/-- What a run of blanks is dropped from does not start with one. -/
theorem isBlank_of_mem_head?_dropWhile {c : Char} (h : c ∈ (cs.dropWhile isBlank).head?) :
    isBlank c = false := by
  have hnot := List.head?_dropWhile_not isBlank cs
  rw [Option.mem_def.mp h] at hnot
  simpa using hnot

/-- What is left after trimming is trimmed. -/
theorem trimmed_trim (cs : List Char) : Trimmed (trim cs) where
  first c hc := by
    -- What is left of the start is a front part of it, and has its first character.
    have hprefix : trim cs <+: trimStart cs := by
      rw [trim, trimEnd, ← List.reverse_suffix, List.reverse_reverse]
      exact List.dropWhile_suffix _
    obtain ⟨back, hback⟩ := hprefix
    have hstart : c ∈ (trimStart cs).head? := by
      rw [← hback, List.head?_append, Option.mem_def.mp hc]
      rfl
    exact isBlank_of_mem_head?_dropWhile hstart
  last c hc := by
    rw [trim, trimEnd, List.getLast?_reverse] at hc
    exact isBlank_of_mem_head?_dropWhile hc

/-- What `trim` finds is the one trimmed core that the text pads. -/
theorem trim_eq_iff : trim cs = core ↔ Padded cs core ∧ Trimmed core := by
  constructor
  · rintro rfl
    exact ⟨padded_trim cs, trimmed_trim cs⟩
  · rintro ⟨hpadded, hcore⟩
    exact trim_padded hpadded hcore

/-- Blanks around a text make no difference to its core. -/
theorem Padded.trim_eq {outer : List Char} (h : Padded outer cs) : trim outer = trim cs :=
  trim_padded (h.trans (padded_trim cs)) (trimmed_trim cs)

/-- A text between two characters that are no blanks has no blanks around it. -/
theorem trimmed_of_ends {c d : Char} (hc : isBlank c = false) (hd : isBlank d = false)
    (cs : List Char) : Trimmed (c :: cs ++ [d]) where
  first b hb := by
    cases hb
    exact hc
  last b hb := by
    rw [List.getLast?_concat] at hb
    cases hb
    exact hd

end Gatekeeper.Text
