import Gatekeeper.Json.Token
import Gatekeeper.Proofs.Text.Decimal
import Mathlib.Tactic.IntervalCases

/-!
# `Gatekeeper.Proofs.Json.Scan`: tokens are read back from their text

A token that this program writes is scanned as the same token, whatever text it holds. Only a
number needs to know what follows it, because more digits would be part of it.

* `scanString_quote`: a quoted text is read back, whatever its characters are.
* `scanNumber?_write`: so are the digits of a number, before a mark that ends it.
* `Scans.cons`: so is every token, with all that follows it.
* `not_control_of_mem_text`: no token is written with a control character.
-/

set_option autoImplicit false

namespace Gatekeeper.Json

open Gatekeeper.Text
open Gatekeeper.Text.Decimal (isDigit_of_mem_write write_cons)

/-! ### Strings -/

/-- The numeric escape of a control character stands for that character. -/
theorem hexUnit_control {n : Nat} (hn : n < 32) :
    ∃ a b c d, hexUnit n = [a, b, c, d] ∧ hexUnit? a b c d = some n := by
  refine ⟨_, _, _, _, rfl, ?_⟩
  interval_cases n <;> rfl

/-- A character that is neither a quote nor a backslash nor a control character stands for
itself. -/
theorem scanString_plain {c : Char} (hquote : c ≠ '"') (hslash : c ≠ '\\') (hlow : ¬ c < ' ')
    {rest tail : List Char} {pieces : List Piece} (h : scanString rest = some (pieces, tail)) :
    scanString (c :: rest) = some (.char c :: pieces, tail) := by
  rw [scanString.eq_5 _ _ hquote (fun _ _ _ _ _ heq _ => hslash heq)
    (fun _ _ heq _ => hslash heq), h]
  simp [hlow, hslash]

/-- A character is read back from the way it is written inside a string. -/
theorem scanString_escape (c : Char) {rest tail : List Char} {pieces : List Piece}
    (h : scanString rest = some (pieces, tail)) :
    scanString (escape c ++ rest) = some (.char c :: pieces, tail) := by
  -- Seven characters are escaped by a letter each, and all other control characters by digits.
  have hletter : ∀ e, e ≠ 'u' → escaped? e = some c →
      scanString ('\\' :: e :: rest) = some (.char c :: pieces, tail) := by
    intro e hne hescaped
    rw [scanString.eq_4 _ _ fun _ _ _ _ _ heq _ => hne heq, hescaped, h]
    rfl
  unfold escape
  split
  · next heq => exact hletter '"' (by decide) (by rw [heq]; rfl)
  split
  · next heq => exact hletter '\\' (by decide) (by rw [heq]; rfl)
  split
  · next heq => exact hletter 'b' (by decide) (by rw [heq]; rfl)
  split
  · next heq => exact hletter 'f' (by decide) (by rw [heq]; rfl)
  split
  · next heq => exact hletter 'n' (by decide) (by rw [heq]; rfl)
  split
  · next heq => exact hletter 'r' (by decide) (by rw [heq]; rfl)
  split
  · next heq => exact hletter 't' (by decide) (by rw [heq]; rfl)
  split
  · next hlow =>
    have hn : c.toNat < 32 := hlow
    obtain ⟨a, b, d, e, hdigits, hunit⟩ := hexUnit_control hn
    rw [hdigits]
    show scanString ('\\' :: 'u' :: a :: b :: d :: e :: rest) = _
    have hpiece : Piece.ofUnit c.toNat = .char c := by
      rw [Piece.ofUnit, if_neg (by omega), Char.ofNat_toNat]
    rw [scanString.eq_3, hunit, h, ← hpiece]
    rfl
  · next hquote hslash _ _ _ _ _ hlow => exact scanString_plain hquote hslash hlow h

/-- The characters of a quoted text, and what follows the closing quote. -/
theorem scanString_quote (cs rest : List Char) :
    scanString (cs.flatMap escape ++ '"' :: rest) = some (cs.map .char, rest) := by
  induction cs with
  | nil => rfl
  | cons c cs ih =>
    rw [List.flatMap_cons, List.append_assoc]
    exact scanString_escape c ih

/-- Pieces that are all characters join to these characters. -/
theorem joinPieces?_char (cs : List Char) : joinPieces? (cs.map .char) = some cs := by
  induction cs with
  | nil => rfl
  | cons c cs ih =>
    show (c :: ·) <$> joinPieces? (cs.map .char) = _
    rw [ih]
    rfl

/-- A text of printable characters has no control character in it. -/
theorem not_control_of_all {cs : List Char} (hall : cs.all (' ' ≤ ·) = true) {c : Char}
    (h : c ∈ cs) : ' ' ≤ c :=
  of_decide_eq_true (List.all_eq_true.mp hall c h)

/-- An escape by number is printable. -/
theorem hexUnit_all {n : Nat} (hn : n < 32) :
    ('\\' :: 'u' :: hexUnit n).all (' ' ≤ ·) = true := by
  interval_cases n <;> rfl

/-- A quoted text holds no control character: all of them are written by letters or digits. -/
theorem not_control_of_mem_escape {c d : Char} (h : d ∈ escape c) : ' ' ≤ d := by
  -- Seven characters have an escape of two letters, other control characters have six.
  unfold escape at h
  split at h
  · exact not_control_of_all rfl h
  split at h
  · exact not_control_of_all rfl h
  split at h
  · exact not_control_of_all rfl h
  split at h
  · exact not_control_of_all rfl h
  split at h
  · exact not_control_of_all rfl h
  split at h
  · exact not_control_of_all rfl h
  split at h
  · exact not_control_of_all rfl h
  split at h
  · next hlow => exact not_control_of_all (hexUnit_all hlow) h
  · next hlow =>
    rw [List.mem_singleton.mp h]
    exact Char.not_lt.mp hlow

/-- A quoted text is printable, since control characters are escaped. -/
theorem not_control_of_mem_quote {text : String} {d : Char} (h : d ∈ quote text) : ' ' ≤ d := by
  unfold quote at h
  rw [List.cons_append, List.mem_cons, List.mem_append, List.mem_flatMap,
    List.mem_singleton] at h
  obtain heq | ⟨c, -, hmem⟩ | heq := h
  · rw [heq]
    decide
  · exact not_control_of_mem_escape hmem
  · rw [heq]
    decide

/-! ### Numbers -/

/-- Whether a text starts with what may follow a number, or is at its end. -/
def EndsNumber (rest : List Char) : Prop :=
  ∀ c, rest.head? = some c → c = ',' ∨ c = ']' ∨ c = '\x7d'

/-- Where a number ends, there is no fraction. -/
theorem scanFraction?_endsNumber {rest : List Char} (h : EndsNumber rest) :
    scanFraction? rest = some ([], rest) := by
  cases rest with
  | nil => rfl
  | cons c rest => obtain heq | heq | heq := h c rfl <;> subst heq <;> rfl

/-- Where a number ends, there is no exponent. -/
theorem scanExponent?_endsNumber {rest : List Char} (h : EndsNumber rest) :
    scanExponent? rest = some ([], rest) := by
  cases rest with
  | nil => rfl
  | cons c rest => obtain heq | heq | heq := h c rfl <;> subst heq <;> rfl

/-- Digits run up to where the number ends. -/
theorem span_endsNumber {digits rest : List Char} (hdigits : ∀ c ∈ digits, isDigit c = true)
    (h : EndsNumber rest) :
    (digits ++ rest).takeWhile isDigit = digits ∧ (digits ++ rest).dropWhile isDigit = rest := by
  refine span_append hdigits fun c hc => ?_
  obtain rfl | rfl | rfl := h c hc <;> rfl

/-- The digits of a number that is not zero start with another digit than zero. -/
theorem write_of_pos {n : Nat} (hpos : 0 < n) :
    ∃ c digits, Decimal.write n = c :: digits ∧ c ≠ '0' := by
  induction n using Nat.strongRecOn with
  | ind n ih =>
    unfold Decimal.write at ih ⊢
    by_cases hlt : n < 10
    · rw [Nat.toDigits_of_lt_base hlt]
      refine ⟨_, _, rfl, ?_⟩
      interval_cases n <;> decide
    · -- The digits before the last are those of a smaller number, which is not zero either.
      obtain ⟨c, digits, hdigits, hne⟩ := ih (n / 10) (by omega) (by omega)
      rw [Nat.toDigits_of_base_le (by decide) (Nat.le_of_not_lt hlt), hdigits]
      exact ⟨c, digits ++ [(n % 10).digitChar], rfl, hne⟩

/-- The whole part of a number that this program writes is all of it. -/
theorem scanWhole?_write (n : Nat) {rest : List Char} (h : EndsNumber rest) :
    scanWhole? (Decimal.write n ++ rest) = some (Decimal.write n, rest) := by
  by_cases hzero : n = 0
  · rw [hzero]
    rfl
  · obtain ⟨c, digits, hwrite, hne⟩ := write_of_pos (Nat.pos_of_ne_zero hzero)
    obtain ⟨htake, hdrop⟩ := span_endsNumber (fun _ => isDigit_of_mem_write (n := n)) h
    rw [hwrite] at htake hdrop ⊢
    rw [List.cons_append, scanWhole?.eq_2 _ fun _ heq => hne (List.cons.inj heq).1]
    rw [List.cons_append] at htake hdrop
    unfold scanDigits?
    rw [htake, hdrop]

/-- A number is scanned back up to its end. -/
theorem scanNumber?_write (n : Nat) {rest : List Char} (h : EndsNumber rest) :
    scanNumber? (Decimal.write n ++ rest) = some (Decimal.write n, rest) := by
  have hsign : ∀ tail, Decimal.write n ++ rest = '-' :: tail → False := by
    -- A sign would have to be the first digit.
    intro tail heq
    obtain ⟨c, digits, hwrite, hdigit⟩ := write_cons n
    rw [hwrite] at heq
    exact ne_of_isDigit hdigit (by decide) (List.cons.inj heq).1
  rw [scanNumber?.eq_2 _ hsign]
  unfold scanUnsigned?
  rw [scanWhole?_write n h]
  simp [scanFraction?_endsNumber h, scanExponent?_endsNumber h]

/-! ### Tokens -/

/-- The text of a token. -/
def Token.text : Token → List Char
  | .openBrace => ['\x7b']
  | .closeBrace => ['\x7d']
  | .openBracket => ['[']
  | .closeBracket => [']']
  | .colon => [':']
  | .comma => [',']
  | .null => "null".toList
  | .bool true => "true".toList
  | .bool false => "false".toList
  | .number literal => literal
  | .string text => quote (text.getD "")

/-- Whether this program writes the token: a string has a text, and a number has the digits of
one. -/
inductive Token.Written : Token → Prop
  | openBrace : Written .openBrace
  | closeBrace : Written .closeBrace
  | openBracket : Written .openBracket
  | closeBracket : Written .closeBracket
  | colon : Written .colon
  | comma : Written .comma
  | null : Written .null
  | bool (b : Bool) : Written (.bool b)
  | number (n : Nat) : Written (.number (Decimal.write n))
  | string (text : String) : Written (.string (some text))

/-- A token that is written is read back, if what follows ends it. -/
theorem scanToken?_text {token : Token} (hwritten : token.Written) {rest : List Char}
    (hrest : ∀ n, token = .number (Decimal.write n) → EndsNumber rest) :
    scanToken? (token.text ++ rest) = some (token, rest) := by
  cases hwritten with
  | openBrace | closeBrace | openBracket | closeBracket | colon | comma | null => rfl
  | bool b => cases b <;> rfl
  | number n =>
    show scanToken? (Decimal.write n ++ rest) = _
    have hscan := scanNumber?_write n (hrest n rfl)
    obtain ⟨c, digits, hwrite, hdigit⟩ := write_cons n
    rw [hwrite, List.cons_append] at hscan ⊢
    -- No other token starts with a digit.
    rw [scanToken?.eq_11, hscan]
    · rfl
    all_goals
      intros
      rename_i heq
      exact ne_of_isDigit hdigit (by decide) (List.cons.inj heq).1
  | string text =>
    have hscan := scanString_quote text.toList rest
    have htext : (Token.string (some text)).text ++ rest =
        '"' :: (text.toList.flatMap escape ++ '"' :: rest) := by
      simp [Token.text, quote]
    rw [htext, scanToken?.eq_10, hscan]
    show some (Token.string ((joinPieces? (text.toList.map .char)).map String.ofList), rest) = _
    rw [joinPieces?_char, Option.map_some, String.ofList_toList]

/-- No token starts with a blank. -/
theorem text_cons {token : Token} (hwritten : token.Written) :
    ∃ c cs, token.text = c :: cs ∧ isBlank c = false := by
  cases hwritten with
  | openBrace | closeBrace | openBracket | closeBracket | colon | comma | null =>
    exact ⟨_, _, rfl, by decide⟩
  | bool b => cases b <;> exact ⟨_, _, rfl, by decide⟩
  | number n =>
    obtain ⟨c, digits, hwrite, hdigit⟩ := write_cons n
    refine ⟨c, digits, hwrite, ?_⟩
    have hne : ∀ d, isDigit d = false → c ≠ d := fun d => ne_of_isDigit hdigit
    simp [isBlank, hne ' ' (by decide), hne '\t' (by decide), hne '\n' (by decide),
      hne '\r' (by decide)]
  | string text => exact ⟨'"', _, rfl, by decide⟩

/-- The text of a token that is written holds no control character. -/
theorem not_control_of_mem_text {token : Token} (hwritten : token.Written) {c : Char}
    (h : c ∈ token.text) : ' ' ≤ c := by
  cases hwritten with
  | openBrace | closeBrace | openBracket | closeBracket | colon | comma | null =>
    exact not_control_of_all rfl h
  | bool b => cases b <;> exact not_control_of_all rfl h
  | number n =>
    have hdigit := isDigit_of_mem_write (n := n) h
    unfold isDigit at hdigit
    rw [Bool.and_eq_true, decide_eq_true_iff] at hdigit
    exact Char.le_trans (by decide) hdigit.1
  | string text => exact not_control_of_mem_quote h

/-- The text is scanned into the tokens, with a step for each of them, and holds no control
character. -/
structure Scans (cs : List Char) (tokens : List Token) : Prop where
  /-- No token is without text. -/
  length_le : tokens.length ≤ cs.length
  scanFrom_eq : ∀ fuel, tokens.length ≤ fuel → scanFrom fuel cs = some tokens
  printable : ∀ c ∈ cs, ' ' ≤ c

/-- The empty text has no token. -/
theorem scans_nil : Scans [] [] where
  length_le := Nat.le_refl 0
  scanFrom_eq fuel _ := by cases fuel <;> rfl
  printable := List.forall_mem_nil _

/-- A token at the front is scanned first, and then what follows it. -/
theorem Scans.cons {rest : List Char} {tokens : List Token} (h : Scans rest tokens)
    {token : Token} (hwritten : token.Written)
    (hrest : ∀ n, token = .number (Decimal.write n) → EndsNumber rest) :
    Scans (token.text ++ rest) (token :: tokens) := by
  obtain ⟨c, cs, htext, hblank⟩ := text_cons hwritten
  have hscan := scanToken?_text hwritten hrest
  have hprintable : ∀ d ∈ token.text ++ rest, ' ' ≤ d := by
    intro d hmem
    obtain hmem | hmem := List.mem_append.mp hmem
    · exact not_control_of_mem_text hwritten hmem
    · exact h.printable d hmem
  rw [htext] at hscan hprintable ⊢
  refine ⟨?_, ?_, hprintable⟩
  · have hlength := h.length_le
    simp only [List.length_cons, List.cons_append, List.length_append]
    omega
  · -- One step of the fuel goes to the token, and the others to what follows.
    intro fuel hfuel
    obtain ⟨fuel, rfl⟩ : ∃ n, fuel = n + 1 := Nat.exists_eq_add_one.mpr (Nat.lt_of_lt_of_le
      (Nat.succ_pos _) hfuel)
    have hdrop : (c :: cs ++ rest).dropWhile isBlank = c :: cs ++ rest := by
      rw [List.cons_append, List.dropWhile_cons, hblank]
      rfl
    unfold scanFrom
    rw [hdrop]
    show (scanToken? (c :: cs ++ rest)).bind _ = _
    rw [hscan]
    show (scanFrom fuel rest).bind _ = _
    rw [h.scanFrom_eq fuel (Nat.le_of_succ_le_succ hfuel)]
    rfl

/-- A token other than a number is scanned, whatever follows it. -/
theorem Scans.cons_of_ne {rest : List Char} {tokens : List Token} (h : Scans rest tokens)
    {token : Token} (hwritten : token.Written) (hne : ∀ literal, token ≠ .number literal) :
    Scans (token.text ++ rest) (token :: tokens) :=
  h.cons hwritten fun _ heq => absurd heq (hne _)

/-- A text that is scanned step by step is scanned as a whole. -/
theorem Scans.scan_eq {cs : List Char} {tokens : List Token} (h : Scans cs tokens) :
    scan cs = some tokens :=
  h.scanFrom_eq cs.length h.length_le

end Gatekeeper.Json
