import Gatekeeper.Proofs.Text.Blank
import Gatekeeper.Wire.Command
import Mathlib.Data.List.Forall2

/-!
# `Gatekeeper.Proofs.Wire.Command`: what a line asks for

`Means` is the grammar of commands, without the function that reads them: what each answer takes,
said of the line without the blanks around it. A word ends at the first blank of Unicode, and its
letters may have either case, where only the letters of ASCII have two.

* `sameButCase_iff`: comparing capitals is comparing up to case.
* `means_parse`, `Means.parse_eq`: a line has the answer that the grammar gives it, and no other.
* `command_grammar`: the commands of all lines.
-/

set_option autoImplicit false

namespace Gatekeeper.Wire.Command

open Gatekeeper.Text Gatekeeper.Handshake

/-! ### Letters -/

/-- A capital letter of ASCII, from `A` to `Z`, and the small one. -/
def TwoCases (capital small : Char) : Prop :=
  65 ≤ capital.toNat ∧ capital.toNat ≤ 90 ∧ small.toNat = capital.toNat + 32

/-- One character, or one letter of ASCII in its two cases. -/
def SameLetter (c d : Char) : Prop := c = d ∨ TwoCases c d ∨ TwoCases d c

/-- The texts have the same characters but for the case of letters of ASCII. -/
def SameButCase (cs ds : List Char) : Prop := List.Forall₂ SameLetter cs ds

/-- The capital of a character, as a number: only the 26 small letters move, and all by the same
distance. -/
theorem toNat_toUpper (c : Char) :
    c.toUpper.toNat = if 97 ≤ c.toNat ∧ c.toNat ≤ 122 then c.toNat - 32 else c.toNat := by
  have hsmall : ('a'.val ≤ c.val ∧ c.val ≤ 'z'.val) ↔ 97 ≤ c.toNat ∧ c.toNat ≤ 122 := by
    rw [UInt32.le_iff_toNat_le, UInt32.le_iff_toNat_le]
    rfl
  unfold Char.toUpper
  split
  next h =>
    rw [if_pos (hsmall.mp h)]
    obtain ⟨hlow, hhigh⟩ := hsmall.mp h
    -- What is added is the way to the capitals around the end of the numbers.
    show (c.val + 4294967264).toNat = c.toNat - 32
    rw [UInt32.toNat_add]
    show (c.toNat + 4294967264) % 4294967296 = c.toNat - 32
    omega
  next h => rw [if_neg fun hboth => h (hsmall.mpr hboth)]

/-- Two characters are the same letter just if they have the same capital. -/
theorem sameLetter_iff {c d : Char} : SameLetter c d ↔ c.toUpper = d.toUpper := by
  rw [← Char.toNat_inj, toNat_toUpper, toNat_toUpper, SameLetter, ← Char.toNat_inj]
  unfold TwoCases
  split <;> split <;> omega

/-- Two texts are the same but for case just if their capitals are. -/
theorem sameButCase_iff {cs ds : List Char} :
    SameButCase cs ds ↔ cs.map Char.toUpper = ds.map Char.toUpper := by
  have hletters : SameLetter = fun c d => c.toUpper = d.toUpper :=
    funext fun c => funext fun d => propext sameLetter_iff
  rw [← List.forall₂_eq_eq_eq, List.forall₂_map_left_iff, List.forall₂_map_right_iff,
    SameButCase, hletters]

/-- No letter is a blank, in either case. -/
theorem isBlank_of_twoCases {capital small : Char} (h : TwoCases capital small) :
    isBlank capital = false ∧ isBlank small = false := by
  obtain ⟨hlow, hhigh, hsmall⟩ := h
  constructor
  · simp [isBlank]
    omega
  · simp [isBlank]
    omega

/-- The case of a letter has no part in where a word ends. -/
theorem isBlank_eq_of_sameLetter {c d : Char} (h : SameLetter c d) : isBlank c = isBlank d := by
  rcases h with rfl | h | h
  · rfl
  · rw [(isBlank_of_twoCases h).1, (isBlank_of_twoCases h).2]
  · rw [(isBlank_of_twoCases h).1, (isBlank_of_twoCases h).2]

/-- A word without a blank, as a test of its characters. -/
theorem solid_of_all {cs : List Char} (h : cs.all (!isBlank ·) = true) :
    ∀ c ∈ cs, isBlank c = false := by
  simpa using h

/-- A text that is a word but for case has no blank in it either. -/
theorem SameButCase.solid {cs ds : List Char} (h : SameButCase cs ds)
    (hsolid : ∀ d ∈ ds, isBlank d = false) : ∀ c ∈ cs, isBlank c = false := by
  induction h with
  | nil => exact nofun
  | cons hletter _ ih =>
    obtain ⟨hfirst, hrest⟩ := List.forall_mem_cons.mp hsolid
    exact List.forall_mem_cons.mpr ⟨(isBlank_eq_of_sameLetter hletter).trans hfirst, ih hrest⟩

/-- An operation is written in capitals, so a word spells it if its capitals do. -/
theorem capitals_eq_iff {operation : String} {word : List Char}
    (hcapitals : operation.toList.map Char.toUpper = operation.toList) :
    String.ofList (word.map Char.toUpper) = operation ↔ SameButCase word operation.toList := by
  rw [sameButCase_iff, hcapitals]
  constructor
  · rintro rfl
    exact String.toList_ofList.symm
  · intro h
    rw [h, String.ofList_toList]

/-- A word reads CONNECT just if it is that word but for case. -/
theorem connect_iff {word : List Char} :
    String.ofList (word.map Char.toUpper) = "CONNECT" ↔ SameButCase word "CONNECT".toList :=
  capitals_eq_iff (by decide)

/-- A word reads PING just if it is that word but for case. -/
theorem ping_iff {word : List Char} :
    String.ofList (word.map Char.toUpper) = "PING" ↔ SameButCase word "PING".toList :=
  capitals_eq_iff (by decide)

/-- A word reads PONG just if it is that word but for case. -/
theorem pong_iff {word : List Char} :
    String.ofList (word.map Char.toUpper) = "PONG" ↔ SameButCase word "PONG".toList :=
  capitals_eq_iff (by decide)

/-! ### Words -/

/-- The text starts with the word, and what follows it is nothing or starts with a blank. -/
structure FirstWord (cs word rest : List Char) : Prop where
  eq : cs = word ++ rest
  solid : ∀ c ∈ word, isBlank c = false
  ends : ∀ c ∈ rest.head?, isBlank c = true

variable {cs word rest : List Char} {line : String}

/-- The first word of a text runs up to its first blank, or to its end. -/
theorem firstWord_span (cs : List Char) :
    FirstWord cs (cs.takeWhile (!isBlank ·)) (cs.dropWhile (!isBlank ·)) where
  eq := List.takeWhile_append_dropWhile.symm
  solid c hc := by simpa using List.mem_takeWhile_imp hc
  ends c hc := by
    have hnot := List.head?_dropWhile_not (!isBlank ·) cs
    rw [Option.mem_def.mp hc] at hnot
    simpa using hnot

/-- A text without a blank is one word. -/
theorem firstWord_self (h : ∀ c ∈ word, isBlank c = false) : FirstWord word word [] :=
  ⟨(List.append_nil word).symm, h, nofun⟩

/-- What stands before a blank is the first word. -/
theorem firstWord_blank {blank : Char} {text : List Char} (h : ∀ c ∈ word, isBlank c = false)
    (hblank : isBlank blank = true) : FirstWord (word ++ blank :: text) word (blank :: text) where
  eq := rfl
  solid := h
  ends c hc := by
    cases hc
    exact hblank

namespace FirstWord

/-- No other split of the text is one into its first word and the rest, so the reader finds this
one. -/
theorem span_eq (h : FirstWord cs word rest) :
    cs.takeWhile (!isBlank ·) = word ∧ cs.dropWhile (!isBlank ·) = rest := by
  rw [h.eq]
  exact span_append (fun c hc => by simp [h.solid c hc]) fun c hc => by simp [h.ends c hc]

/-- A text has one first word. -/
theorem unique {word' rest' : List Char} (h : FirstWord cs word rest)
    (h' : FirstWord cs word' rest') : word = word' ∧ rest = rest' :=
  ⟨h.span_eq.1.symm.trans h'.span_eq.1, h.span_eq.2.symm.trans h'.span_eq.2⟩

/-- Where the text does not end in a blank, nothing but blanks behind the word is nothing. -/
theorem rest_eq_nil (h : FirstWord cs word rest) (htrimmed : Trimmed cs) (hrest : trim rest = []) :
    rest = [] := by
  obtain ⟨front, back, hfront, hback, heq⟩ := (trim_eq_iff.mp hrest).1
  rw [List.append_nil] at heq
  by_contra hne
  -- The text would end as what follows the word does, which is in a blank.
  have hlast : rest.getLast hne ∈ cs.getLast? := by
    rw [h.eq, List.getLast?_append, List.getLast?_eq_some_getLast hne]
    rfl
  have hmem : rest.getLast hne ∈ front ++ back := heq ▸ List.getLast_mem hne
  have hblank : isBlank (rest.getLast hne) = true :=
    (List.mem_append.mp hmem).elim (hfront _) (hback _)
  rw [htrimmed.last _ hlast] at hblank
  cases hblank

/-- The function that splits a line finds its first word. -/
theorem split_eq (h : FirstWord (trim line.toList) word rest) : split line = (word, trim rest) := by
  rw [split, h.span_eq.1, h.span_eq.2]

/-- An operation stands alone if it is the first word and nothing follows. -/
theorem alone_iff (h : FirstWord cs word rest) (htrimmed : Trimmed cs) {operation : List Char}
    (hsolid : ∀ c ∈ operation, isBlank c = false) :
    SameButCase word operation ∧ (trim rest).isEmpty = true ↔ SameButCase cs operation := by
  rw [List.isEmpty_iff]
  constructor
  · rintro ⟨hword, hrest⟩
    rw [h.eq, h.rest_eq_nil htrimmed hrest, List.append_nil]
    exact hword
  · intro hcs
    obtain ⟨rfl, rfl⟩ := h.unique (firstWord_self (hcs.solid hsolid))
    exact ⟨hcs, rfl⟩

end FirstWord

/-! ### The grammar -/

/-- The request that a text is read as. -/
def request? (text : List Char) : Option Request := (Json.Value.parse? text).bind Request.ofJson?

/-- What a line without blanks around it asks for. -/
inductive Means : List Char → Except CommandFault Command → Prop where
  /-- The operation alone. -/
  | ping {cs : List Char} (spelled : SameButCase cs "PING".toList) : Means cs (.ok .ping)
  | pong {cs : List Char} (spelled : SameButCase cs "PONG".toList) : Means cs (.ok .pong)
  /-- The operation alone, for the request that claims nothing. -/
  | bare {cs : List Char} (spelled : SameButCase cs "CONNECT".toList) :
    Means cs (.ok (.connect .empty))
  /-- The operation, a blank, and a text that is read as a request. -/
  | connect {word text : List Char} {blank : Char} {request : Request}
    (spelled : SameButCase word "CONNECT".toList) (gap : isBlank blank = true)
    (reads : request? (trim text) = some request) :
    Means (word ++ blank :: text) (.ok (.connect request))
  /-- The operation, a blank, and some other text. -/
  | malformed {word text : List Char} {blank : Char}
    (spelled : SameButCase word "CONNECT".toList) (gap : isBlank blank = true)
    (present : trim text ≠ []) (unread : request? (trim text) = none) :
    Means (word ++ blank :: text) (.error .malformedConnect)
  /-- Everything else. -/
  | unknown {cs word rest : List Char} (first : FirstWord cs word rest)
    (connect : ¬SameButCase word "CONNECT".toList) (ping : ¬SameButCase cs "PING".toList)
    (pong : ¬SameButCase cs "PONG".toList) :
    Means cs (.error (.unknownOperation (String.ofList word)))

/-- An empty text is no request. -/
theorem request?_nil : request? [] = none := by rfl

/-- The object without fields is the request that an operation alone stands for. -/
theorem request?_braces : request? ['\x7b', '\x7d'] = some .empty := by rfl

/-- A request with any text to it is read from this text. -/
theorem requestOf?_eq {text : List Char} (h : text ≠ []) : requestOf? text = request? text := by
  rw [requestOf?, if_neg (by simpa using h)]
  rfl

/-- Blanks in front make no difference to the core. -/
theorem trim_cons {blank : Char} {text : List Char} (h : isBlank blank = true) :
    trim (blank :: text) = trim text := by
  have hpadded : Padded (blank :: text) text :=
    ⟨[blank], [], by simpa using h, nofun, (List.append_nil _).symm⟩
  exact hpadded.trim_eq

/-! ### Reading -/

/-- A line whose first word is CONNECT asks to connect, or is malformed. -/
theorem parse_of_connect (h : FirstWord (trim line.toList) word rest)
    (hspelled : SameButCase word "CONNECT".toList) :
    parse line =
      match requestOf? (trim rest) with
      | some request => .ok (.connect request)
      | none => .error .malformedConnect := by
  rw [parse, h.split_eq]
  exact if_pos (connect_iff.mpr hspelled)

/-- A line that is PING, and nothing else, is a ping. -/
theorem parse_of_ping (hspelled : SameButCase (trim line.toList) "PING".toList) :
    parse line = .ok .ping := by
  have hword := firstWord_self (hspelled.solid (solid_of_all (by decide)))
  rw [parse, hword.split_eq]
  dsimp only
  rw [ping_iff.mpr hspelled, if_neg (by decide), if_pos ⟨rfl, rfl⟩]

/-- A line that is PONG, and nothing else, is a pong. -/
theorem parse_of_pong (hspelled : SameButCase (trim line.toList) "PONG".toList) :
    parse line = .ok .pong := by
  have hword := firstWord_self (hspelled.solid (solid_of_all (by decide)))
  rw [parse, hword.split_eq]
  dsimp only
  rw [pong_iff.mpr hspelled, if_neg (by decide), if_neg (by decide), if_pos ⟨rfl, rfl⟩]

/-- Any other line is an operation that nobody knows, under its first word as it was written. -/
theorem parse_of_other (h : FirstWord (trim line.toList) word rest)
    (hconnect : ¬SameButCase word "CONNECT".toList)
    (hping : ¬SameButCase (trim line.toList) "PING".toList)
    (hpong : ¬SameButCase (trim line.toList) "PONG".toList) :
    parse line = .error (.unknownOperation (String.ofList word)) := by
  have htrimmed := trimmed_trim line.toList
  rw [← h.alone_iff htrimmed (solid_of_all (by decide)), ← ping_iff] at hping
  rw [← h.alone_iff htrimmed (solid_of_all (by decide)), ← pong_iff] at hpong
  rw [← connect_iff] at hconnect
  rw [parse, h.split_eq]
  dsimp only
  rw [if_neg hconnect, if_neg hping, if_neg hpong]

/-- What the grammar gives a line is the answer to it. -/
theorem Means.parse_eq {answer : Except CommandFault Command}
    (h : Means (trim line.toList) answer) : parse line = answer := by
  generalize hcs : trim line.toList = cs at h
  cases h with
  | ping spelled => exact parse_of_ping (hcs ▸ spelled)
  | pong spelled => exact parse_of_pong (hcs ▸ spelled)
  | bare spelled =>
    have hword := firstWord_self (spelled.solid (solid_of_all (by decide)))
    rw [← hcs] at hword spelled
    rw [parse_of_connect hword spelled]
    rfl
  | @connect word text blank _ spelled gap reads =>
    have hword : FirstWord (trim line.toList) word (blank :: text) :=
      hcs ▸ firstWord_blank (spelled.solid (solid_of_all (by decide))) gap
    -- What is left out stands for a request, but nothing is read as one.
    have hpresent : trim text ≠ [] := by
      intro hnil
      rw [hnil, request?_nil] at reads
      cases reads
    rw [parse_of_connect hword spelled, trim_cons gap, requestOf?_eq hpresent, reads]
  | @malformed word text blank spelled gap present unread =>
    have hword : FirstWord (trim line.toList) word (blank :: text) :=
      hcs ▸ firstWord_blank (spelled.solid (solid_of_all (by decide))) gap
    rw [parse_of_connect hword spelled, trim_cons gap, requestOf?_eq present, unread]
  | unknown first connect ping pong =>
    subst hcs
    exact parse_of_other first connect ping pong

/-- Every line has an answer in the grammar. -/
theorem means_parse (line : String) : Means (trim line.toList) (parse line) := by
  have htrimmed := trimmed_trim line.toList
  obtain ⟨word, rest, hword⟩ : ∃ word rest, FirstWord (trim line.toList) word rest :=
    ⟨_, _, firstWord_span _⟩
  by_cases hconnect : SameButCase word "CONNECT".toList
  · rw [parse_of_connect hword hconnect, hword.eq]
    cases rest with
    | nil =>
      rw [List.append_nil]
      exact .bare hconnect
    | cons blank text =>
      -- Something follows the blank, because the line does not end in one.
      have hgap : isBlank blank = true := hword.ends blank rfl
      have hpresent : trim text ≠ [] := by
        rw [← trim_cons hgap]
        exact fun hnil => nomatch hword.rest_eq_nil htrimmed hnil
      rw [trim_cons hgap, requestOf?_eq hpresent]
      cases hreads : request? (trim text) with
      | some request => exact .connect hconnect hgap hreads
      | none => exact .malformed hconnect hgap hpresent hreads
  by_cases hping : SameButCase (trim line.toList) "PING".toList
  · rw [parse_of_ping hping]
    exact .ping hping
  by_cases hpong : SameButCase (trim line.toList) "PONG".toList
  · rw [parse_of_pong hpong]
    exact .pong hpong
  rw [parse_of_other hword hconnect hping hpong]
  exact .unknown hword hconnect hping hpong

/-! ### Blanks and case -/

/-- Blanks around a line do not matter. -/
theorem parse_of_padded {padded : String} (h : Padded padded.toList line.toList) :
    parse padded = parse line := by
  have hsplit : split padded = split line := by rw [split, split, h.trim_eq]
  rw [parse, parse, hsplit]

/-- Another case of the first word is another word for an unknown operation, and the same command
for the others. -/
theorem parse_of_recased {recased : String} {word' : List Char}
    (h : FirstWord (trim line.toList) word rest)
    (h' : FirstWord (trim recased.toList) word' rest) (hsame : SameButCase word' word)
    {command : Command} : parse recased = .ok command ↔ parse line = .ok command := by
  rw [parse, parse, h.split_eq, h'.split_eq]
  dsimp only
  rw [sameButCase_iff.mp hsame]
  by_cases hconnect : String.ofList (word.map Char.toUpper) = "CONNECT"
  · rw [if_pos hconnect, if_pos hconnect]
  rw [if_neg hconnect, if_neg hconnect]
  by_cases hping : String.ofList (word.map Char.toUpper) = "PING" ∧ (trim rest).isEmpty = true
  · rw [if_pos hping, if_pos hping]
  rw [if_neg hping, if_neg hping]
  by_cases hpong : String.ofList (word.map Char.toUpper) = "PONG" ∧ (trim rest).isEmpty = true
  · rw [if_pos hpong, if_pos hpong]
  rw [if_neg hpong, if_neg hpong]
  -- Neither is a command, and the faults differ in the spelling of the word.
  exact ⟨nofun, nofun⟩

/-- **The grammar of commands.** Of any line, with the blanks of Unicode taken off both ends:

* The answer is what `Means` gives: a ping or a pong for the operation alone, a connect for the
  operation alone or with a text behind a blank that is read as its request, a malformed connect
  for another text there, and an unknown operation, with the first word as it is spelled, for
  everything else. Letters of ASCII count in either case.
* Blanks around the line make no difference to the answer.
* The case of the first word makes no difference to which command is accepted. -/
theorem command_grammar :
    (∀ line answer, parse line = answer ↔ Means (trim line.toList) answer) ∧
    (∀ line padded : String, Padded padded.toList line.toList → parse padded = parse line) ∧
    (∀ (line recased : String) word word' rest, FirstWord (trim line.toList) word rest →
      trim recased.toList = word' ++ rest → SameButCase word' word →
        ∀ command, parse recased = .ok command ↔ parse line = .ok command) := by
  refine ⟨fun line answer => ⟨fun h => h ▸ means_parse line, Means.parse_eq⟩,
    fun line padded => parse_of_padded, ?_⟩
  intro line recased word word' rest hword hrecased hsame command
  exact parse_of_recased hword ⟨hrecased, hsame.solid hword.solid, hword.ends⟩ hsame

/-- A connect in mixed case between blanks of several kinds, a ping with something behind it, and
a line of blanks. -/
theorem command_grammar_of_lines :
    let line := "CONNECT\u3000\x7b\x7d"
    let recased := " cOnNecT\u3000\x7b\x7d\r"
    SameButCase "cOnNecT".toList "CONNECT".toList ∧ parse line = .ok (.connect .empty) ∧
      parse recased = .ok (.connect .empty) ∧
      parse "Ping me" = .error (.unknownOperation "Ping") ∧
      parse " \t" = .error (.unknownOperation "") := by
  intro line recased
  obtain ⟨hgrammar, -, hrecased⟩ := command_grammar
  have hsame : SameButCase "cOnNecT".toList "CONNECT".toList := sameButCase_iff.mpr (by decide)
  have htrim : trim line.toList = "CONNECT".toList ++ '\u3000' :: ['\x7b', '\x7d'] := by
    decide +kernel
  -- The blank between word and payload is an ideographic space.
  have hword : FirstWord (trim line.toList) "CONNECT".toList ['\u3000', '\x7b', '\x7d'] :=
    htrim ▸ firstWord_blank (solid_of_all (by decide)) (by decide)
  have hline : parse line = .ok (.connect .empty) := by
    rw [hgrammar, htrim]
    exact .connect (sameButCase_iff.mpr rfl) (by decide) request?_braces
  refine ⟨hsame, hline, ?_, ?_, ?_⟩
  · exact (hrecased line recased _ _ _ hword (by decide +kernel) hsame _).mpr hline
  · have hping : FirstWord ("Ping".toList ++ ' ' :: "me".toList) "Ping".toList
        (' ' :: "me".toList) := firstWord_blank (solid_of_all (by decide)) (by decide)
    have hmeans := Means.unknown hping (by rw [sameButCase_iff]; decide)
      (by rw [sameButCase_iff]; decide) (by rw [sameButCase_iff]; decide)
    exact (hgrammar "Ping me" _).mpr hmeans
  · have hmeans : Means [] (.error (.unknownOperation (String.ofList []))) :=
      .unknown ⟨rfl, nofun, nofun⟩ nofun nofun nofun
    exact (hgrammar _ _).mpr hmeans

end Gatekeeper.Wire.Command
