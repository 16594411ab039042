import Gatekeeper.Key.Public
import Gatekeeper.Proofs.Base64Url

/-!
# `Gatekeeper.Proofs.Key`: each key has one text

* `unsealText_eq_ok_iff`: a text under a label reads exactly when it is the sealed text
  of the bytes read, checksum included.
* `parse_eq_ok_iff`: a text is a public key exactly when it is that key's own text and
  the key is a point of the curve. So two texts of one key are the same text, and
  membership of texts is membership of keys.
* `signatureBytes?_eq_some_iff`: the same for signatures.
-/

set_option autoImplicit false

namespace Gatekeeper.Key

open Gatekeeper.Bytes

/-- A text is made of some characters just if these are its characters. -/
theorem eq_ofList_iff {text : String} {cs : List Char} :
    text = String.ofList cs ↔ text.toList = cs := by
  constructor
  · rintro rfl
    exact String.toList_ofList
  · rintro rfl
    exact String.ofList_toList.symm

/-- A checksum has four bytes. -/
theorem length_checksum (label : List Char) (key : List UInt8) :
    (checksum label key).length = 4 := by
  rw [checksum, List.length_take, Hash.Sha256.length_digest]
  rfl

/-- What is sealed under a label is read under it, and nothing else is. -/
theorem unsealText_eq_ok_iff {label body : List Char} {key : Block 32} :
    unsealText label body = .ok key ↔ label ++ body = sealText label key := by
  rw [sealText, List.append_cancel_left_eq]
  constructor
  · intro h
    unfold unsealText at h
    split at h
    · cases h
    next payload hdecode =>
      split at h
      next hlength =>
        split at h
        next hchecksum =>
          cases h
          -- The checksum that was compared is the rest of the payload.
          show body = Base64Url.encode (payload.take 32 ++ checksum label (payload.take 32))
          rw [← hchecksum, List.take_append_drop]
          exact Base64Url.eq_encode_of_decode? hdecode
        · cases h
      · cases h
  · rintro rfl
    have hkey : key.val.length = 32 := key.property
    have hlength : (key.val ++ checksum label key.val).length = 36 := by
      rw [List.length_append, hkey, length_checksum]
    have htake : (key.val ++ checksum label key.val).take 32 = key.val :=
      List.take_left' hkey
    have hdrop : (key.val ++ checksum label key.val).drop 32 = checksum label key.val :=
      List.drop_left' hkey
    simp only [unsealText, Base64Url.decode?_encode, hlength, htake, hdrop, dif_pos, if_true]

/-- What was sealed is unsealed. -/
theorem unsealText_encode (label : List Char) (key : Block 32) :
    unsealText label (Base64Url.encode (key.val ++ checksum label key.val)) = .ok key :=
  unsealText_eq_ok_iff.mpr rfl

/-- A signature text is the text of the signature's 64 bytes. -/
theorem signatureBytes?_eq_some_iff {text : String} {signature : Block 64} :
    signatureBytes? text = some signature ↔
      text = String.ofList (Base64Url.encode signature.val) := by
  rw [signatureBytes?, Option.bind_eq_some_iff, eq_ofList_iff]
  constructor
  · rintro ⟨bytes, hdecode, hblock⟩
    unfold Block.ofList? at hblock
    split at hblock
    · cases hblock
      exact Base64Url.eq_encode_of_decode? hdecode
    · cases hblock
  · intro h
    refine ⟨signature.val, Base64Url.decode?_eq_some_iff.mpr h, ?_⟩
    rw [Block.ofList?, dif_pos signature.property]

namespace PublicKey

/-- A text is a key exactly when it is that key's own text, and the key a point. -/
theorem parse_eq_ok_iff {text : String} {key : PublicKey} :
    parse text = .ok key ↔ key.Valid ∧ text = key.toText := by
  rw [toText, eq_ofList_iff]
  constructor
  · intro h
    unfold parse at h
    split at h
    · cases h
    next letter body htext =>
      split at h
      · cases h
      next role hrole =>
        split at h
        · cases h
        next bytes hbytes =>
          split at h
          next hpoint =>
            cases h
            -- The letter that was read is the letter of the role.
            rw [Role.ofLetter?_eq_some_iff.mp hrole] at htext hbytes
            exact ⟨hpoint, htext.trans (unsealText_eq_ok_iff.mp hbytes)⟩
          · cases h
  · rintro ⟨hpoint, htext⟩
    have hrole : Role.ofLetter? key.role.letter = some key.role :=
      Role.ofLetter?_eq_some_iff.mpr rfl
    rw [parse, htext, sealText]
    simp only [List.singleton_append, hrole, unsealText_encode]
    exact if_pos hpoint

/-- The same with the role that is expected. -/
theorem parseRole_eq_ok_iff {role : Role} {text : String} {key : PublicKey} :
    parseRole role text = .ok key ↔ key.Valid ∧ key.role = role ∧ text = key.toText := by
  unfold parseRole
  split
  next fault hparse =>
    constructor
    · intro h
      cases h
    · rintro ⟨hvalid, -, htext⟩
      exact nomatch hparse.symm.trans (parse_eq_ok_iff.mpr ⟨hvalid, htext⟩)
  -- A text parses to one key, whose role decides.
  next found hparse =>
    obtain ⟨hvalid, htext⟩ := parse_eq_ok_iff.mp hparse
    constructor
    · intro h
      split at h
      next hrole =>
        cases h
        exact ⟨hvalid, hrole, htext⟩
      · cases h
    · rintro ⟨hvalid', hrole, htext'⟩
      have hsame := hparse.symm.trans (parse_eq_ok_iff.mpr ⟨hvalid', htext'⟩)
      cases hsame
      rw [if_pos hrole]

/-- A key of another role, or no key: either way the text is refused. -/
theorem parseRole_eq_error_iff {role : Role} {text : String} :
    (∃ fault, parseRole role text = .error fault) ↔
      ¬∃ key : PublicKey, parse text = .ok key ∧ key.role = role := by
  unfold parseRole
  split
  next fault hparse => simp [hparse]
  next found hparse =>
    by_cases hrole : found.role = role
    · simp [hparse, hrole]
    · simp [hparse, hrole]

/-- Keys with one text are one key, whether they are points or not. -/
theorem toText_injective {a b : PublicKey} (h : a.toText = b.toText) : a = b := by
  rw [toText, toText, eq_ofList_iff, String.toList_ofList] at h
  obtain ⟨hletter, hbody⟩ := List.cons.inj h
  have hrole : a.role = b.role := by
    have hread := (Role.ofLetter?_eq_some_iff.mpr hletter).symm.trans
      (Role.ofLetter?_eq_some_iff.mpr rfl)
    exact (Option.some.inj hread).symm
  -- `parse` would ask for points, so the bytes come from the sealed text alone.
  have hbytes : b.bytes = a.bytes := by
    have hread : unsealText [a.role.letter]
        (Base64Url.encode (b.bytes.val ++ checksum [b.role.letter] b.bytes.val)) = .ok a.bytes :=
      unsealText_eq_ok_iff.mpr (congrArg _ hbody.symm)
    rw [hletter, unsealText_encode] at hread
    exact Except.ok.inj hread
  cases a
  cases b
  cases hrole
  cases hbytes
  rfl

end PublicKey

end Gatekeeper.Key
