import Gatekeeper.Json.Record
import Gatekeeper.Proofs.Json.Scan

/-!
# `Gatekeeper.Proofs.Json.RoundTrip`: values are read back from their text

A value is written token by token, and the tokens lead the reader through the same arrays and
objects. So a value whose strings have texts and whose numbers are plain digits is read back as
it was.

* `Value.tokens`: the tokens of a value.
* `ofTokens?_tokens`: the value is read back from them.
* `parse?_render`, `parse?_toText`: a plain value is read back from its text.
* `not_control_of_mem_render`: the text holds no control character.
-/

set_option autoImplicit false

namespace Gatekeeper.Json

open Gatekeeper.Text

namespace Value

/-- Whether all strings and keys of a value have a text and all its numbers are written in
digits alone. -/
inductive Plain : Value → Prop
  | null : Plain null
  | bool (b : Bool) : Plain (bool b)
  | number (n : Nat) : Plain (number (Decimal.write n))
  | string (text : String) : Plain (string (some text))
  | array (items : List Value) (hitems : ∀ item ∈ items, Plain item) : Plain (array items)
  | object (fields : List (Option String × Value)) (hkeys : ∀ field ∈ fields, field.1.isSome)
    (hvalues : ∀ field ∈ fields, Plain field.2) : Plain (object fields)

mutual

/-- The tokens of a value. -/
def tokens : Value → List Token
  | null => [.null]
  | bool b => [.bool b]
  | number literal => [.number literal]
  | string text => [.string text]
  | array [] => [.openBracket, .closeBracket]
  | array (item :: rest) => .openBracket :: tokens item ++ itemTokens rest
  | object [] => [.openBrace, .closeBrace]
  | object ((key, value) :: rest) =>
    .openBrace :: .string key :: .colon :: tokens value ++ fieldTokens rest

/-- The tokens of the further items of an array, and its end. -/
def itemTokens : List Value → List Token
  | [] => [.closeBracket]
  | item :: rest => .comma :: tokens item ++ itemTokens rest

/-- The tokens of the further fields of an object, and its end. -/
def fieldTokens : List (Option String × Value) → List Token
  | [] => [.closeBrace]
  | (key, value) :: rest => .comma :: .string key :: .colon :: tokens value ++ fieldTokens rest

end

/-! ### From tokens -/

/-- A run takes the first token and then the rest. -/
theorem run_cons {progress : Progress} {token : Token} (after : Progress)
    (h : progress.next token = some after) (rest : List Token) :
    progress.run (token :: rest) = after.run rest := by
  rw [Progress.run, h]
  rfl

/-- The first token of a value does not end an array. -/
theorem tokens_cons (value : Value) :
    ∃ token rest, value.tokens = token :: rest ∧ token ≠ .closeBracket := by
  match value with
  | null | bool _ | number _ | string _ | array [] | object [] =>
    exact ⟨_, _, by rw [tokens], Token.noConfusion⟩
  | array (_ :: _) | object (_ :: _) => exact ⟨_, _, by rw [tokens]; rfl, Token.noConfusion⟩

/-- The first item of an array is read as any value is. -/
theorem run_item (value : Value) (frames : List Frame) (rest : List Token) :
    (Progress.item frames).run (value.tokens ++ rest) =
      (Progress.value (.array [] :: frames)).run (value.tokens ++ rest) := by
  obtain ⟨token, tail, htokens, hne⟩ := value.tokens_cons
  have hnext : (Progress.item frames).next token =
      (Progress.value (.array [] :: frames)).next token := by
    cases token <;> first | rfl | exact absurd rfl hne
  rw [htokens, List.cons_append, Progress.run, Progress.run, hnext]

mutual

/-- Where a value is due, its tokens lead to the value. -/
theorem run_tokens (value : Value) (frames : List Frame) (rest : List Token) :
    (Progress.value frames).run (value.tokens ++ rest) =
      (Progress.done frames value).run rest := by
  match value with
  | null | bool _ | number _ | string _ =>
    rw [tokens]
    rfl
  | array [] | object [] =>
    rw [tokens]
    rfl
  -- After the first item, the rest is left to the reader of items; so with fields.
  | array (item :: items) =>
    simp only [tokens, List.cons_append, List.append_assoc]
    rw [run_cons (.item frames) rfl, run_item, run_tokens item, run_itemTokens items]
    rfl
  | object ((key, value) :: fields) =>
    simp only [tokens, List.cons_append, List.append_assoc]
    rw [run_cons (.field frames) rfl, run_cons (.colon frames [] key) rfl,
      run_cons (.value (.object [] key :: frames)) rfl, run_tokens value,
      run_fieldTokens fields]
    rfl

/-- After an item of an array, the tokens of the further items lead to the whole array. -/
theorem run_itemTokens (items : List Value) (frames : List Frame) (before : List Value)
    (value : Value) (rest : List Token) :
    (Progress.done (.array before :: frames) value).run (itemTokens items ++ rest) =
      (Progress.done frames (.array ((value :: before).reverse ++ items))).run rest := by
  match items with
  | [] =>
    rw [itemTokens, List.append_nil]
    rfl
  | item :: items =>
    simp only [itemTokens, List.cons_append, List.append_assoc]
    rw [run_cons (.value (.array (value :: before) :: frames)) rfl, run_tokens item,
      run_itemTokens items, List.reverse_cons, List.append_assoc]
    rfl

/-- After a field of an object, the tokens of the further fields lead to the whole object. -/
theorem run_fieldTokens (fields : List (Option String × Value)) (frames : List Frame)
    (before : List (Option String × Value)) (key : Option String) (value : Value)
    (rest : List Token) :
    (Progress.done (.object before key :: frames) value).run (fieldTokens fields ++ rest) =
      (Progress.done frames (.object (((key, value) :: before).reverse ++ fields))).run rest := by
  match fields with
  | [] =>
    rw [fieldTokens, List.append_nil]
    rfl
  -- The fields so far are kept in reverse, and the last brace turns them round.
  | (key', value') :: fields =>
    simp only [fieldTokens, List.cons_append, List.append_assoc]
    rw [run_cons (.key frames ((key, value) :: before)) rfl,
      run_cons (.colon frames ((key, value) :: before) key') rfl,
      run_cons (.value (.object ((key, value) :: before) key' :: frames)) rfl,
      run_tokens value', run_fieldTokens fields, List.reverse_cons, List.append_assoc]
    rfl

end

/-- A value is read back from its tokens. -/
theorem ofTokens?_tokens (value : Value) : ofTokens? value.tokens = some value := by
  have hrun := run_tokens value [] []
  rw [List.append_nil] at hrun
  unfold ofTokens?
  rw [hrun]
  rfl

/-! ### From text -/

/-- A text is scanned into the tokens of a value, whatever follows, as long as a number at its
end is ended. -/
def ScansBack (value : Value) : Prop :=
  ∀ rest tokens, EndsNumber rest → Scans rest tokens →
    Scans (value.render ++ rest) (value.tokens ++ tokens)

/-- What stands after an item cannot go on a number: a comma or a bracket. -/
theorem endsNumber_renderItems (items : List Value) (rest : List Char) :
    EndsNumber (renderItems items ++ rest) := by
  intro c hc
  cases items <;> rw [renderItems] at hc <;> cases hc
  · exact Or.inr (Or.inl rfl)
  · exact Or.inl rfl

/-- What stands after a field cannot go on a number: a comma or a brace. -/
theorem endsNumber_renderFields (fields : List (Option String × Value)) (rest : List Char) :
    EndsNumber (renderFields fields ++ rest) := by
  intro c hc
  cases fields <;> rw [renderFields] at hc <;> cases hc
  · exact Or.inr (Or.inr rfl)
  · exact Or.inl rfl

/-- The items of an array are scanned back one after another. -/
theorem scans_items (items : List Value) (hitems : ∀ item ∈ items, ScansBack item)
    {rest : List Char} {tokens : List Token} (h : Scans rest tokens) :
    Scans (renderItems items ++ rest) (itemTokens items ++ tokens) := by
  induction items with
  | nil =>
    rw [renderItems, itemTokens]
    exact h.cons_of_ne .closeBracket fun _ => Token.noConfusion
  | cons item items ih =>
    rw [renderItems, itemTokens]
    have hrest := ih fun item hmem => hitems item (.tail _ hmem)
    have hitem := hitems item (.head _) _ _ (endsNumber_renderItems items rest) hrest
    have hcomma := hitem.cons_of_ne .comma fun _ => Token.noConfusion
    simpa [Token.text, List.append_assoc] using hcomma

/-- A key, its colon and a value are scanned, and then what follows. -/
theorem scans_field {key : Option String} {value : Value} (hkey : key.isSome)
    (hvalue : ScansBack value) {rest : List Char} {tokens : List Token} (hends : EndsNumber rest)
    (h : Scans rest tokens) :
    Scans (quote (key.getD "") ++ ':' :: value.render ++ rest)
      (.string key :: .colon :: value.tokens ++ tokens) := by
  obtain ⟨name, rfl⟩ := Option.isSome_iff_exists.mp hkey
  have hcolon := (hvalue rest tokens hends h).cons_of_ne .colon fun _ => Token.noConfusion
  have hfield := hcolon.cons_of_ne (.string name) fun _ => Token.noConfusion
  simpa [Token.text, List.append_assoc] using hfield

/-- The fields of an object are scanned back one after another, each with its name. -/
theorem scans_fields (fields : List (Option String × Value))
    (hkeys : ∀ field ∈ fields, field.1.isSome) (hvalues : ∀ field ∈ fields, ScansBack field.2)
    {rest : List Char} {tokens : List Token} (h : Scans rest tokens) :
    Scans (renderFields fields ++ rest) (fieldTokens fields ++ tokens) := by
  induction fields with
  | nil =>
    rw [renderFields, fieldTokens]
    exact h.cons_of_ne .closeBrace fun _ => Token.noConfusion
  | cons field fields ih =>
    obtain ⟨key, value⟩ := field
    rw [renderFields, fieldTokens]
    have hrest := ih (fun field hmem => hkeys field (.tail _ hmem))
      (fun field hmem => hvalues field (.tail _ hmem))
    have hfield := scans_field (hkeys _ (.head _)) (hvalues _ (.head _))
      (endsNumber_renderFields fields rest) hrest
    have hcomma := hfield.cons_of_ne .comma fun _ => Token.noConfusion
    simpa [Token.text, List.append_assoc] using hcomma

/-- The text of a plain value is scanned into its tokens. -/
theorem Plain.scansBack {value : Value} (h : value.Plain) : ScansBack value := by
  induction h with
  | null =>
    intro rest tokens _ hrest
    exact hrest.cons_of_ne .null fun _ => Token.noConfusion
  | bool b =>
    intro rest tokens _ hrest
    have hbool := hrest.cons_of_ne (.bool b) fun _ => Token.noConfusion
    cases b <;> exact hbool
  | number n =>
    intro rest tokens hends hrest
    exact hrest.cons (.number n) fun _ _ => hends
  | string text =>
    intro rest tokens _ hrest
    exact hrest.cons_of_ne (.string text) fun _ => Token.noConfusion
  | array items _ ih =>
    -- From the end to the front: further items, first item, bracket.
    intro rest tokens _ hrest
    cases items with
    | nil =>
      have hclose := hrest.cons_of_ne .closeBracket fun _ => Token.noConfusion
      exact hclose.cons_of_ne .openBracket fun _ => Token.noConfusion
    | cons item items =>
      have hitems := scans_items items (fun item hmem => ih item (.tail _ hmem)) hrest
      have hitem := ih item (.head _) _ _ (endsNumber_renderItems items rest) hitems
      have hopen := hitem.cons_of_ne .openBracket fun _ => Token.noConfusion
      simpa [Value.render, Value.tokens, Token.text, List.append_assoc] using hopen
  | object fields hkeys _ ih =>
    intro rest tokens _ hrest
    cases fields with
    | nil =>
      have hclose := hrest.cons_of_ne .closeBrace fun _ => Token.noConfusion
      exact hclose.cons_of_ne .openBrace fun _ => Token.noConfusion
    | cons field fields =>
      obtain ⟨key, value⟩ := field
      have hfields := scans_fields fields (fun field hmem => hkeys field (.tail _ hmem))
        (fun field hmem => ih field (.tail _ hmem)) hrest
      have hfield := scans_field (hkeys _ (.head _)) (ih _ (.head _))
        (endsNumber_renderFields fields rest) hfields
      have hopen := hfield.cons_of_ne .openBrace fun _ => Token.noConfusion
      simpa [Value.render, Value.tokens, Token.text, List.append_assoc] using hopen

/-- A plain value is scanned back from its text. The induction is on how it is made. -/
theorem Plain.scans {value : Value} (h : value.Plain) : Scans value.render value.tokens := by
  have hends : EndsNumber [] := by
    intro c hc
    cases hc
  have hscans := h.scansBack [] [] hends scans_nil
  rwa [List.append_nil, List.append_nil] at hscans

/-- A plain value is read back from its text. -/
theorem parse?_render {value : Value} (h : value.Plain) : parse? value.render = some value := by
  unfold parse?
  rw [h.scans.scan_eq]
  exact ofTokens?_tokens value

/-- A plain value is parsed back from its text. -/
theorem parse?_toText {value : Value} (h : value.Plain) :
    parse? value.toText.toList = some value := by
  unfold Value.toText
  rw [String.toList_ofList]
  exact parse?_render h

/-- The text of a plain value holds no control character. -/
theorem not_control_of_mem_render {value : Value} (h : value.Plain) {c : Char}
    (hmem : c ∈ value.render) : ' ' ≤ c := h.scans.printable c hmem

/-- The text of an object stands between braces. -/
theorem render_object (fields : List (Option String × Value)) :
    ∃ cs, render (.object fields) = '\x7b' :: cs ++ ['\x7d'] := by
  have hfields : ∀ fields, ∃ cs, renderFields fields = cs ++ ['\x7d'] := by
    intro fields
    induction fields with
    | nil => exact ⟨[], rfl⟩
    | cons field fields ih =>
      obtain ⟨cs, hcs⟩ := ih
      rw [renderFields, hcs, ← List.append_assoc]
      exact ⟨_, rfl⟩
  cases fields with
  | nil => exact ⟨[], rfl⟩
  | cons field fields =>
    obtain ⟨cs, hcs⟩ := hfields fields
    rw [render, hcs, ← List.append_assoc]
    exact ⟨_, rfl⟩

end Value

end Gatekeeper.Json
