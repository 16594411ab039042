import Gatekeeper.Handshake.Message
import Gatekeeper.Nonce
import Gatekeeper.Proofs.Base64Url.Bits
import Gatekeeper.Proofs.Key.Canonical
import Gatekeeper.Proofs.Text.Utf8.Decode

/-!
# `Gatekeeper.Proofs.Handshake.Vouch`: what a vouch signs

A vouch signs a domain, the text of a user key and an account, one after another, with a null
after the domain and another one after the key. No length is written down, and the account is
any text, so it may hold nulls itself. What keeps the parts apart is what a key's text looks
like: a letter and then base64url, none of which is a null. The second null is therefore the
first one behind the domain, and the account starts right after it.

A nonce is base64url only, while the domain holds a colon. So no nonce reads as a vouch.

All of this is about characters. `Vouch.message_eq` carries it to the bytes that are signed,
because no two texts have the same bytes (`Text.Utf8.encode_injective`).

* `Vouch.message_separates`: the bytes tell the user and the account, and are no nonce's.
-/

set_option autoImplicit false

namespace Gatekeeper.Handshake

open Gatekeeper.Key Gatekeeper.Text

/-! ### Texts without certain characters -/

/-- A base64url text holds characters of the alphabet only. -/
theorem not_mem_encode {c : Char} (h : Base64Url.value? c = none) (bytes : List UInt8) :
    c ∉ Base64Url.encode bytes := by
  intro hmem
  have hdigit := Base64Url.isSome_value?_of_mem_encode bytes c hmem
  rw [h] at hdigit
  exact Bool.false_ne_true hdigit

/-- The text of a key holds no null. -/
theorem null_not_mem_toText (key : PublicKey) : '\x00' ∉ key.toText.toList := by
  rw [toList_toText]
  intro hmem
  rcases List.mem_cons.mp hmem with hletter | hbody
  · -- The letter is one of three.
    revert hletter
    cases key.role <;> decide
  · exact not_mem_encode (by decide) _ hbody

/-- A nonce holds no colon. -/
theorem colon_not_mem_ofDraw (draw : Nonce.Draw) : ':' ∉ (Nonce.ofDraw draw).toList := by
  rw [Nonce.ofDraw, String.toList_ofList]
  exact not_mem_encode (by decide) draw.val

/-- Where a mark comes up for the first time, a list is cut in one way only. The induction is
on what comes before the mark. -/
theorem append_mark_inj {mark : Char} {front front' back back' : List Char}
    (hfront : mark ∉ front) (hfront' : mark ∉ front')
    (h : front ++ mark :: back = front' ++ mark :: back') : front = front' ∧ back = back' := by
  induction front generalizing front' with
  | nil =>
    cases front' with
    | nil => exact ⟨rfl, (List.cons.inj h).2⟩
    | cons c rest' =>
      have hc : mark = c := (List.cons.inj h).1
      exact absurd (hc ▸ List.mem_cons_self) hfront'
  | cons c rest ih =>
    cases front' with
    | nil =>
      have hc : c = mark := (List.cons.inj h).1
      exact absurd (hc ▸ List.mem_cons_self) hfront
    | cons c' rest' =>
      obtain ⟨hc, hrest⟩ := List.cons.inj h
      obtain ⟨hfronts, hbacks⟩ := ih (fun hmem => hfront (List.mem_cons_of_mem _ hmem))
        (fun hmem => hfront' (List.mem_cons_of_mem _ hmem)) hrest
      exact ⟨by rw [hc, hfronts], hbacks⟩

/-! ### The characters of a vouch -/

namespace Vouch

/-- The characters that a vouch for a user key and an account signs. -/
def characters (userKey account : String) : List Char :=
  "warden-vouch:v1\x00".toList ++ (userKey.toList ++ '\x00' :: account.toList)

/-- The message of a vouch is a text. -/
theorem message_eq (userKey account : String) :
    message userKey account = Utf8.encode (characters userKey account) := by
  have hnull : String.utf8EncodeChar '\x00' = [0] := by decide
  unfold message domain characters Utf8.encodeString
  rw [Utf8.encode_append, Utf8.encode_append, List.append_assoc]
  -- The null in between is one byte.
  show _ = _ ++ (_ ++ (String.utf8EncodeChar '\x00' ++ Utf8.encode account.toList))
  rw [hnull, List.singleton_append]

/-- The characters tell the user key from the account, whatever the account holds. -/
theorem characters_inj {user user' : PublicKey} {account account' : String}
    (h : characters user.toText account = characters user'.toText account') :
    user = user' ∧ account = account' := by
  have hbody : user.toText.toList ++ '\x00' :: account.toList =
      user'.toText.toList ++ '\x00' :: account'.toList := List.append_cancel_left h
  obtain ⟨hkey, haccount⟩ :=
    append_mark_inj (null_not_mem_toText user) (null_not_mem_toText user') hbody
  exact ⟨PublicKey.toText_injective (String.toList_inj.mp hkey), String.toList_inj.mp haccount⟩

/-- There is a colon in every domain. -/
theorem colon_mem_characters (userKey account : String) : ':' ∈ characters userKey account := by
  have hdomain : ':' ∈ "warden-vouch:v1\x00".toList := by decide
  exact List.mem_append_left _ hdomain

/-- **What a vouch signs is unambiguous, and no nonce.** Two vouches sign the same bytes only if
they are for the same user and the same account, whatever the accounts are: empty, with nulls
in them, or in any script. And whatever a vouch signs, for whatever text as a key, it is not
what a client signs to answer a challenge. So a signature on the one is none on the other. -/
theorem message_separates :
    (∀ (user user' : PublicKey) (account account' : String),
      message user.toText account = message user'.toText account' ↔
        user = user' ∧ account = account') ∧
    ∀ (userKey account : String) (draw : Nonce.Draw),
      message userKey account ≠ Utf8.encodeString (Nonce.ofDraw draw) := by
  refine ⟨fun user user' account account' => ⟨fun h => ?_, ?_⟩, fun userKey account draw h => ?_⟩
  · rw [message_eq, message_eq] at h
    exact characters_inj (Utf8.encode_injective h)
  · rintro ⟨rfl, rfl⟩
    rfl
  · rw [message_eq] at h
    -- The bytes are the same only if the texts are, and only one of these has a colon.
    have htexts : characters userKey account = (Nonce.ofDraw draw).toList :=
      Utf8.encode_injective h
    have hcolon := colon_mem_characters userKey account
    rw [htexts] at hcolon
    exact colon_not_mem_ofDraw draw hcolon

end Vouch

end Gatekeeper.Handshake
