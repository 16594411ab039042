import Gatekeeper.Handshake.Message
import Gatekeeper.Proofs.Json.Record

/-!
# `Gatekeeper.Proofs.Handshake.Message`: messages are read back from their JSON form

* `Hello.ofJson?_toJson`, `Request.ofJson?_toJson`, `Vouch.ofJson?_toJson`: whatever texts a
  message holds and whatever it leaves out, its JSON form is read as the message.
* `Hello.plain_toJson`, `Request.plain_toJson`: the form is one that its own text is read back as.
-/

set_option autoImplicit false

namespace Gatekeeper.Handshake

open Gatekeeper.Json

/-- An optional text is read back from its slot. -/
theorem optional?_text (slot : Option String) : optional? text? (slot.map ofText) = some slot :=
  optional?_map text?_ofText (fun _ => Value.noConfusion) slot

/-- A vouch is written as a plain value. -/
@[simp]
theorem Vouch.plain_toJson (vouch : Vouch) : vouch.toJson.Plain := by
  apply plain_object
  simp

/-- A vouch is read back from what was written. -/
theorem Vouch.ofJson?_toJson (vouch : Vouch) : Vouch.ofJson? vouch.toJson = some vouch := by
  have hslots : slots? ["issuer", "account", "sig"] vouch.toJson =
      some [some (ofText vouch.issuer), some (ofText vouch.account),
        some (ofText vouch.signature)] :=
    slots?_object [("issuer", ofText vouch.issuer), ("account", ofText vouch.account),
      ("sig", ofText vouch.signature)] (by simp)
  unfold Vouch.ofJson?
  rw [hslots]
  rfl

/-- A greeting is written as a plain value. -/
theorem Hello.plain_toJson (hello : Hello) : hello.toJson.Plain := by
  apply plain_object
  simp

/-- A greeting is read back from what was written, without a nonce as well as with one. -/
theorem Hello.ofJson?_toJson (hello : Hello) : Hello.ofJson? hello.toJson = some hello := by
  have hslots : slots? ["server_id", "auth_required", "nonce"] hello.toJson =
      some [some (ofText hello.serverId), some (.bool hello.authRequired),
        hello.nonce.map ofText] :=
    slots?_object [("server_id", ofText hello.serverId),
      ("auth_required", some (.bool hello.authRequired)), ("nonce", hello.nonce.map ofText)]
      (by simp)
  unfold Hello.ofJson?
  rw [hslots]
  show (do
    let nonce ← optional? text? (hello.nonce.map ofText)
    some (Hello.mk hello.serverId hello.authRequired nonce)) = _
  rw [optional?_text]
  rfl

/-- A request is written as a plain value. -/
theorem Request.plain_toJson (request : Request) : request.toJson.Plain := by
  apply plain_object
  simp

/-- A request is read back from what was written, whichever of its fields are there. -/
theorem Request.ofJson?_toJson (request : Request) :
    Request.ofJson? request.toJson = some request := by
  have hslots : slots? ["name", "nkey", "sig", "vouch"] request.toJson =
      some [request.name.map ofText, request.key.map ofText, request.signature.map ofText,
        request.vouch.map Vouch.toJson] :=
    slots?_object [("name", request.name.map ofText), ("nkey", request.key.map ofText),
      ("sig", request.signature.map ofText), ("vouch", request.vouch.map Vouch.toJson)] (by simp)
  have hvouch : optional? Vouch.ofJson? (request.vouch.map Vouch.toJson) = some request.vouch :=
    optional?_map Vouch.ofJson?_toJson (fun _ => Value.noConfusion) request.vouch
  unfold Request.ofJson?
  rw [hslots]
  simp [optional?_text, hvouch]

end Gatekeeper.Handshake
