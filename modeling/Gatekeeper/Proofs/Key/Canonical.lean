import Gatekeeper.Proofs.Base64Url.Bits
import Gatekeeper.Proofs.Key

/-!
# `Gatekeeper.Proofs.Key.Canonical`: which texts are keys and signatures

Some configured keys are compared as texts and others as keys, so the two comparisons have to
agree. They do, because a key has one text and no other text reads as that key.

`IsKeyText` and `IsSignatureText` say what the accepted texts look like. They describe
base64url by its bits (`Base64Url.Spells`) and name neither the reader nor the writer of
texts, so they are a second account of what `parse` and `toText` do.

* `canonical_texts`: the accepted texts are exactly the described ones, reading and writing
  are inverse to each other, and keys, their texts and the texts they were read from are
  equal together.

Not every 32 bytes are a point of the curve. The keys of the statement are those that are
(`PublicKey.Valid`), which is what every key that was read satisfies.
-/

set_option autoImplicit false

namespace Gatekeeper.Key

open Gatekeeper.Bytes Gatekeeper.Text

/-- A key's text: the letter of a role, and then in base64url the 32 bytes of a point of the
curve and the first four bytes of the digest of letter and point. -/
def IsKeyText (text : String) : Prop :=
  ∃ letter ∈ ['U', 'A', 'O'], ∃ body point,
    text.toList = letter :: body ∧ point.length = 32 ∧
      (Curve.Point.ofBytes? point).isSome = true ∧
      Base64Url.Spells body
        (point ++ (Hash.Sha256.digest (UInt8.ofNat letter.toNat :: point)).take 4)

/-- A signature's text: 64 bytes in base64url. -/
def IsSignatureText (text : String) : Prop :=
  ∃ bytes : List UInt8, bytes.length = 64 ∧ Base64Url.Spells text.toList bytes

/-- The letters that open keys are those of the roles. -/
theorem mem_letters_iff {letter : Char} :
    letter ∈ ['U', 'A', 'O'] ↔ ∃ role : Role, letter = role.letter := by
  constructor
  · intro h
    simp only [List.mem_cons, List.not_mem_nil, or_false] at h
    rcases h with rfl | rfl | rfl
    · exact ⟨.user, rfl⟩
    · exact ⟨.account, rfl⟩
    · exact ⟨.operator, rfl⟩
  · rintro ⟨role, rfl⟩
    cases role <;> simp [Role.letter]

/-- The label of a public key is one byte of what is digested. -/
theorem checksum_letter (role : Role) (point : List UInt8) :
    checksum [role.letter] point =
      (Hash.Sha256.digest (UInt8.ofNat role.letter.toNat :: point)).take 4 := by
  have hlabel : Utf8.encode [role.letter] = [UInt8.ofNat role.letter.toNat] := by
    cases role <;> decide
  rw [checksum, hlabel, List.singleton_append]

/-- The text of a key, letter by letter. -/
theorem toList_toText (key : PublicKey) :
    key.toText.toList = key.role.letter ::
      Base64Url.encode (key.bytes.val ++ checksum [key.role.letter] key.bytes.val) := by
  rw [PublicKey.toText, String.toList_ofList, sealText, List.singleton_append]

/-- The texts of points are the described texts. -/
theorem isKeyText_iff {text : String} :
    IsKeyText text ↔ ∃ key : PublicKey, key.Valid ∧ text = key.toText := by
  constructor
  · rintro ⟨letter, hletter, body, point, htext, hlength, hpoint, hspells⟩
    obtain ⟨role, rfl⟩ := mem_letters_iff.mp hletter
    refine ⟨⟨role, point, hlength⟩, hpoint, ?_⟩
    -- Bytes have one text, so the body is the one that the key would be written with.
    have hbody := Base64Url.spells_iff.mp hspells
    apply String.toList_inj.mp
    rw [htext, toList_toText, checksum_letter, hbody]
  · rintro ⟨key, hvalid, rfl⟩
    refine ⟨key.role.letter, mem_letters_iff.mpr ⟨key.role, rfl⟩, _, key.bytes.val,
      toList_toText key, key.bytes.property, hvalid, ?_⟩
    rw [checksum_letter]
    exact Base64Url.spells_encode _

/-- The texts of 64 bytes are the described texts. -/
theorem isSignatureText_iff {text : String} :
    IsSignatureText text ↔ ∃ signature : Block 64,
      text = String.ofList (Base64Url.encode signature.val) := by
  constructor
  · rintro ⟨bytes, hlength, hspells⟩
    exact ⟨⟨bytes, hlength⟩, eq_ofList_iff.mpr (Base64Url.spells_iff.mp hspells)⟩
  · rintro ⟨signature, htext⟩
    exact ⟨signature.val, signature.property,
      Base64Url.spells_iff.mpr (eq_ofList_iff.mp htext)⟩

/-- **Keys and signatures have one text each.**

* The text of a key reads back as the key, and a text that reads as a key is its text.
* The texts that read as some key are exactly those of the described form.
* Of two texts that read as keys, the keys are equal exactly if the texts are, and exactly if
  the texts that the keys are written as are equal. No two keys are written alike.
* The same for signatures: what reads as one is the base64url text of its 64 bytes, each 64
  bytes have such a text, and two texts of one signature are the same. -/
theorem canonical_texts :
    (∀ key : PublicKey, key.Valid → PublicKey.parse key.toText = .ok key) ∧
    (∀ text key, PublicKey.parse text = .ok key → key.Valid ∧ key.toText = text) ∧
    (∀ text, (∃ key, PublicKey.parse text = .ok key) ↔ IsKeyText text) ∧
    (∀ text text' key key', PublicKey.parse text = .ok key → PublicKey.parse text' = .ok key' →
      (key = key' ↔ text = text') ∧ (key = key' ↔ key.toText = key'.toText)) ∧
    (∀ key key' : PublicKey, key.toText = key'.toText ↔ key = key') ∧
    (∀ text, (∃ signature, signatureBytes? text = some signature) ↔ IsSignatureText text) ∧
    (∀ text signature, signatureBytes? text = some signature ↔
      text = String.ofList (Base64Url.encode signature.val)) ∧
    (∀ text text' signature, signatureBytes? text = some signature →
      signatureBytes? text' = some signature → text = text') := by
  have hwritten : ∀ key key' : PublicKey, key.toText = key'.toText ↔ key = key' := by
    intro key key'
    exact ⟨PublicKey.toText_injective, fun h => h ▸ rfl⟩
  refine ⟨fun key hvalid => PublicKey.parse_eq_ok_iff.mpr ⟨hvalid, rfl⟩, ?_, fun text => ?_, ?_,
    hwritten, fun text => ?_, fun text signature => signatureBytes?_eq_some_iff, ?_⟩
  · intro text key h
    obtain ⟨hvalid, htext⟩ := PublicKey.parse_eq_ok_iff.mp h
    exact ⟨hvalid, htext.symm⟩
  · rw [isKeyText_iff]
    exact exists_congr fun key => PublicKey.parse_eq_ok_iff
  · intro text text' key key' h h'
    -- Each text is the text of its key, so comparing the one is comparing the other.
    obtain ⟨-, rfl⟩ := PublicKey.parse_eq_ok_iff.mp h
    obtain ⟨-, rfl⟩ := PublicKey.parse_eq_ok_iff.mp h'
    exact ⟨(hwritten key key').symm, (hwritten key key').symm⟩
  · rw [isSignatureText_iff]
    exact exists_congr fun signature => signatureBytes?_eq_some_iff
  · intro text text' signature h h'
    rw [signatureBytes?_eq_some_iff.mp h, signatureBytes?_eq_some_iff.mp h']

/-- The base point of the curve is the key of an account, with one text. -/
theorem canonical_texts_of_basePoint :
    let key : PublicKey := ⟨.account, 0x58 :: List.replicate 31 0x66, rfl⟩
    key.Valid ∧ PublicKey.parse key.toText = .ok key ∧ IsKeyText key.toText ∧
      ∀ text, PublicKey.parse text = .ok key → text = key.toText := by
  intro key
  have hvalid : key.Valid := by decide +kernel
  obtain ⟨hreads, hwritten, htexts, -⟩ := canonical_texts
  have hparse := hreads key hvalid
  refine ⟨hvalid, hparse, (htexts key.toText).mp ⟨key, hparse⟩, ?_⟩
  intro text h
  exact (hwritten text key h).2.symm

end Gatekeeper.Key
