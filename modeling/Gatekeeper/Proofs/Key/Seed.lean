import Gatekeeper.Key.Source
import Gatekeeper.Proofs.Base64Url.Bits
import Gatekeeper.Proofs.Key
import Gatekeeper.Proofs.Text.Blank
import Gatekeeper.Proofs.Text.Utf8.Decode

/-!
# `Gatekeeper.Proofs.Key.Seed`: each seed has one text

A seed is read from its own text and from no other, blanks around it aside. Seeds and public keys
share the sealed form, but not the letter in front, so no text is both.

* `ofSeedText_eq_ok_iff`: a text is a seed exactly when it is that seed's text with blanks
  around it.
* `Loads`, `load_seedFile_iff`: what a seed file yields, one case for each way to fail.
* `seed_texts`: both together.
-/

set_option autoImplicit false

namespace Gatekeeper.Key

open Gatekeeper.Bytes Gatekeeper.Text

/-! ### Sealed texts have no blanks -/

/-- No digit of the encoding is a blank. -/
theorem isBlank_digit : ∀ n < 64, isBlank (Base64Url.digit n) = false := by
  decide

/-- So encoded bytes have no blank in them. -/
theorem isBlank_of_mem_encode {bytes : List UInt8} {c : Char}
    (h : c ∈ Base64Url.encode bytes) : isBlank c = false := by
  obtain ⟨n, hn⟩ := Option.isSome_iff_exists.mp (Base64Url.isSome_value?_of_mem_encode bytes c h)
  obtain ⟨hlt, rfl⟩ := Base64Url.digit_value? hn
  exact isBlank_digit n hlt

/-- No letter of a role is a blank. -/
theorem isBlank_letter (role : Role) : isBlank role.letter = false := by
  cases role <;> decide

/-- A sealed text has no blanks around it. -/
theorem trimmed_sealText {label : List Char} (hlabel : ∀ c ∈ label, isBlank c = false)
    (key : Block 32) : Trimmed (sealText label key) := by
  apply trimmed_of_forall
  intro c hc
  rw [sealText, List.mem_append] at hc
  exact hc.elim (hlabel c) isBlank_of_mem_encode

/-- The text of a seed has no blanks around it. -/
theorem trimmed_seedText (pair : KeyPair) : Trimmed pair.seedText.toList := by
  rw [KeyPair.seedText, String.toList_ofList]
  apply trimmed_sealText
  intro c hc
  rw [KeyPair.seedLabel, List.mem_cons, List.mem_singleton] at hc
  rcases hc with rfl | rfl
  · decide
  · exact isBlank_letter pair.role

/-- The text of a public key has none either. -/
theorem trimmed_toText (key : PublicKey) : Trimmed key.toText.toList := by
  rw [PublicKey.toText, String.toList_ofList]
  apply trimmed_sealText
  intro c hc
  rw [List.mem_singleton.mp hc]
  exact isBlank_letter key.role

/-! ### Texts of seeds -/

/-- The text of a seed, letter by letter. -/
theorem toList_seedText (pair : KeyPair) :
    pair.seedText.toList = 'S' :: pair.role.letter ::
      Base64Url.encode (pair.seed.val ++ checksum ['S', pair.role.letter] pair.seed.val) := by
  rw [KeyPair.seedText, String.toList_ofList]
  rfl

/-- What is left of a text without the blanks around it is the text of the seed. -/
theorem trim_of_ofSeedText {text : String} {pair : KeyPair}
    (h : KeyPair.ofSeedText text = .ok pair) : trim text.toList = pair.seedText.toList := by
  unfold KeyPair.ofSeedText at h
  split at h
  · cases h
  · cases h
  next letter body htrim =>
    split at h
    · cases h
    next role hrole =>
      split at h
      · cases h
      next seed hseed =>
        cases h
        have hbody : ['S', letter] ++ body = sealText ['S', letter] seed :=
          unsealText_eq_ok_iff.mp hseed
        -- The letter that was read is the letter of the role.
        obtain rfl := Role.ofLetter?_eq_some_iff.mp hrole
        rw [htrim, KeyPair.seedText, String.toList_ofList]
        exact hbody
  · cases h

/-- A text is a seed exactly when it is that seed's text with blanks around it. -/
theorem ofSeedText_eq_ok_iff {text : String} {pair : KeyPair} :
    KeyPair.ofSeedText text = .ok pair ↔ Padded text.toList pair.seedText.toList := by
  constructor
  · intro h
    exact (trim_eq_iff.mp (trim_of_ofSeedText h)).1
  · intro h
    have htrim := trim_padded h (trimmed_seedText pair)
    have hrole : Role.ofLetter? pair.role.letter = some pair.role :=
      Role.ofLetter?_eq_some_iff.mpr rfl
    rw [KeyPair.ofSeedText, htrim, toList_seedText]
    simp only [hrole, unsealText_encode]

/-! ### Seeds and public keys -/

/-- The text of a seed does not start with the letter of a role. -/
theorem parse_seedText (pair : KeyPair) :
    PublicKey.parse pair.seedText = .error (.unknownPrefix 'S') := by
  rw [PublicKey.parse, toList_seedText]
  rfl

/-- The text of a public key does not start with the letter of seeds. -/
theorem ofSeedText_of_padded_toText {text : String} {key : PublicKey}
    (h : Padded text.toList key.toText.toList) :
    KeyPair.ofSeedText text = .error (.unknownPrefix key.role.letter) := by
  have htrim := trim_padded h (trimmed_toText key)
  rw [KeyPair.ofSeedText, htrim, PublicKey.toText, String.toList_ofList, sealText]
  cases key.role <;> rfl

/-- No text is a seed and a public key. -/
theorem not_parse_of_ofSeedText {text : String} {pair : KeyPair} {key : PublicKey}
    (hseed : KeyPair.ofSeedText text = .ok pair) : PublicKey.parse text ≠ .ok key := by
  intro hkey
  obtain ⟨-, rfl⟩ := PublicKey.parse_eq_ok_iff.mp hkey
  rw [ofSeedText_of_padded_toText (.refl _)] at hseed
  cases hseed

/-! ### Seed files -/

/-- What a seed file yields for a role, by what reading the file gives. Each case rules out the
ones before it. -/
inductive Loads (path : String) (role : Role) :
    Except FileFault (List UInt8) → Except LoadFault KeyPair → Prop where
  /-- The file gives nothing. -/
  | unreadable (fault : FileFault) :
      Loads path role (.error fault) (.error (.unreadable path fault))
  /-- The file's bytes are no text. -/
  | notText {bytes : List UInt8} (noText : ∀ text, Utf8.encodeString text ≠ bytes) :
      Loads path role (.ok bytes) (.error (.unreadable path .notText))
  /-- The text is no seed. -/
  | invalid {text : String} {fault : Fault} (noSeed : KeyPair.ofSeedText text = .error fault) :
      Loads path role (.ok (Utf8.encodeString text)) (.error (.invalidSeed fault))
  /-- The seed is one of another role. -/
  | wrongRole {text : String} {pair : KeyPair} (seed : KeyPair.ofSeedText text = .ok pair)
      (other : pair.role ≠ role) :
      Loads path role (.ok (Utf8.encodeString text))
        (.error (.invalidSeed (.wrongRole role pair.role)))
  /-- The seed is one of the role. -/
  | loaded {text : String} {pair : KeyPair} (seed : KeyPair.ofSeedText text = .ok pair)
      (same : pair.role = role) : Loads path role (.ok (Utf8.encodeString text)) (.ok pair)

variable {files : Files} {draw : Seed} {path : String} {role : Role}
  {given : Except FileFault (List UInt8)} {result : Except LoadFault KeyPair}

/-- Whatever the file gives, there is a case for it. -/
theorem exists_loads (path : String) (role : Role) (given : Except FileFault (List UInt8)) :
    ∃ result, Loads path role given result := by
  cases given with
  | error fault => exact ⟨_, .unreadable fault⟩
  | ok bytes =>
    by_cases htext : ∃ text, Utf8.encodeString text = bytes
    · obtain ⟨text, rfl⟩ := htext
      cases hseed : KeyPair.ofSeedText text with
      | error fault => exact ⟨_, .invalid hseed⟩
      | ok pair =>
        by_cases hrole : pair.role = role
        · exact ⟨_, .loaded hseed hrole⟩
        · exact ⟨_, .wrongRole hseed hrole⟩
    · exact ⟨_, .notText (not_exists.mp htext)⟩

/-- The file loads as its case says. -/
theorem load_of_loads (hgiven : files path = given) (h : Loads path role given result) :
    (Source.seedFile path).load files draw role = result := by
  have htext : ∀ text, files path = .ok (Utf8.encodeString text) →
      files.readText path = .ok text := by
    intro text hbytes
    rw [Files.readText, hbytes]
    simp only [Utf8.decodeString?_encodeString]
  cases h with
  | unreadable fault =>
    have hread : files.readText path = .error fault := by rw [Files.readText, hgiven]
    rw [Source.load, hread]
  -- Bytes that decode would be the bytes of a text.
  | @notText bytes noText =>
    have hread : files.readText path = .error .notText := by
      rw [Files.readText, hgiven]
      cases hdecode : Utf8.decodeString? bytes with
      | none => simp only [hdecode]
      | some text => exact absurd (Utf8.decodeString?_eq_some_iff.mp hdecode).symm (noText text)
    rw [Source.load, hread]
  | invalid noSeed =>
    rw [Source.load, htext _ hgiven]
    simp only [noSeed]
  | wrongRole seed other =>
    rw [Source.load, htext _ hgiven]
    simp only [seed, if_neg other]
  | loaded seed same =>
    rw [Source.load, htext _ hgiven]
    simp only [seed, if_pos same]

/-- What a seed file yields is what its case says, and nothing else. -/
theorem load_seedFile_iff :
    (Source.seedFile path).load files draw role = result ↔ Loads path role (files path) result := by
  constructor
  · rintro rfl
    obtain ⟨result, hloads⟩ := exists_loads path role (files path)
    rw [load_of_loads rfl hloads]
    exact hloads
  · exact load_of_loads rfl

/-- **A seed has one text, and a seed file holds that text or is refused.**

* The text of a seed reads back, whichever blanks are put around it. What reads as a seed is,
  without the blanks around it, the text of that seed.
* No text of a seed is a public key. No text of a public key is a seed, even with blanks around
  it. So no text is both.
* A seed file yields a pair exactly if its bytes are a text that reads as this pair, and the pair
  has the role that is asked for. Otherwise the error is the first that applies: the file gives
  no text, its text is no seed, the seed is of another role. -/
theorem seed_texts :
    (∀ (pair : KeyPair) (front back : String), (∀ c ∈ front.toList, isBlank c = true) →
      (∀ c ∈ back.toList, isBlank c = true) →
      KeyPair.ofSeedText (front ++ pair.seedText ++ back) = .ok pair) ∧
    (∀ text pair, KeyPair.ofSeedText text = .ok pair →
      String.ofList (trim text.toList) = pair.seedText) ∧
    (∀ pair : KeyPair, PublicKey.parse pair.seedText = .error (.unknownPrefix 'S')) ∧
    (∀ (key : PublicKey) (text : String), Padded text.toList key.toText.toList →
      KeyPair.ofSeedText text = .error (.unknownPrefix key.role.letter)) ∧
    (∀ text, (∃ pair, KeyPair.ofSeedText text = .ok pair) →
      ¬∃ key, PublicKey.parse text = .ok key) ∧
    ∀ (path : String) (files : Files) (draw : Seed) (role : Role),
      (∀ pair, (Source.seedFile path).load files draw role = .ok pair ↔
        ∃ text, files path = .ok (Utf8.encodeString text) ∧
          KeyPair.ofSeedText text = .ok pair ∧ pair.role = role) ∧
      ∀ result, (Source.seedFile path).load files draw role = result ↔
        Loads path role (files path) result := by
  refine ⟨?_, ?_, parse_seedText, ?_, ?_, ?_⟩
  · intro pair front back hfront hback
    apply ofSeedText_eq_ok_iff.mpr
    refine ⟨front.toList, back.toList, hfront, hback, ?_⟩
    rw [String.toList_append, String.toList_append]
  · intro text pair h
    rw [trim_of_ofSeedText h, String.ofList_toList]
  · intro key text
    exact ofSeedText_of_padded_toText
  · rintro text ⟨pair, hseed⟩ ⟨key, hkey⟩
    exact not_parse_of_ofSeedText hseed hkey
  · intro path files draw role
    refine ⟨?_, fun result => load_seedFile_iff⟩
    intro pair
    rw [load_seedFile_iff]
    constructor
    -- Of the five cases only the last one ends in a pair.
    · generalize files path = given
      intro h
      cases h with
      | loaded seed same => exact ⟨_, rfl, seed, same⟩
    · rintro ⟨text, hbytes, hseed, hrole⟩
      rw [hbytes]
      exact .loaded hseed hrole

/-- A file holds the seed of an operator between blanks. It loads for an operator and for no other
role. -/
theorem seed_texts_of_operator :
    let pair : KeyPair := ⟨.operator, List.replicate 32 7, rfl⟩
    let text := "\u2003" ++ pair.seedText ++ "\r\n"
    let files : Files := fun _ => .ok (Utf8.encodeString text)
    KeyPair.ofSeedText text = .ok pair ∧ String.ofList (trim text.toList) = pair.seedText ∧
      KeyPair.ofSeedText pair.publicKey.toText = .error (.unknownPrefix 'O') ∧
      (∀ key, PublicKey.parse text ≠ .ok key) ∧
      (Source.seedFile "seed").load files pair.seed .operator = .ok pair ∧
      (Source.seedFile "seed").load files pair.seed .user =
        .error (.invalidSeed (.wrongRole .user .operator)) := by
  intro pair text files
  obtain ⟨hreads, hwritten, -, hpublic, hdisjoint, hfile⟩ := seed_texts
  have hseed : KeyPair.ofSeedText text = .ok pair :=
    hreads pair "\u2003" "\r\n" (List.all_eq_true.mp (by decide)) (List.all_eq_true.mp (by decide))
  refine ⟨hseed, hwritten text pair hseed, hpublic pair.publicKey _ (.refl _), ?_, ?_, ?_⟩
  · intro key hkey
    exact hdisjoint text ⟨pair, hseed⟩ ⟨key, hkey⟩
  · exact ((hfile "seed" files pair.seed .operator).1 pair).mpr ⟨text, rfl, hseed, rfl⟩
  · exact ((hfile "seed" files pair.seed .user).2 _).mpr (.wrongRole hseed (by decide))

end Gatekeeper.Key
