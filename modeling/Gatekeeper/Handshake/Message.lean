import Gatekeeper.Json.Record
import Gatekeeper.Key.Pair

/-!
# `Gatekeeper.Handshake.Message`: what the two sides of a handshake send

The server's hello carries its own key text and, where clients have to prove who
they are, a nonce. The client's request answers with a user key and a signature
of the nonce's text, and may add a vouch: an operator's signature on the
statement that the user belongs to an account.

* `Hello`, `Request`, `Vouch`: the messages, each with its JSON form.
* `Vouch.message`: the bytes that a vouch signs.
* `Request.signed`, `Vouch.issue`: the messages of an honest side.
* `Identity`: who a client turned out to be.
-/

set_option autoImplicit false

namespace Gatekeeper.Handshake

open Gatekeeper.Key Gatekeeper.Json Gatekeeper.Text

/-- Who a client is: a user key, and the account that a vouch gives it. -/
structure Identity where
  publicKey : Option String
  account : Option String
  deriving DecidableEq, Repr

/-- The identity of a client that proved nothing. -/
def Identity.anonymous : Identity := ⟨none, none⟩

/-- Whether the identity names no key. -/
def Identity.isAnonymous (identity : Identity) : Bool := identity.publicKey.isNone

/-- An operator's statement that a user belongs to an account. -/
structure Vouch where
  issuer : String
  account : String
  signature : String
  deriving DecidableEq, Repr

namespace Vouch

/-- The bytes that every vouch message starts with. No nonce starts so, because
its text holds neither a colon nor a null. -/
def domain : List UInt8 := Utf8.encodeString "warden-vouch:v1\x00"

/-- The bytes that a vouch for a user key and an account signs. A key text holds no
null, so the null after it marks its end. -/
def message (userKey account : String) : List UInt8 :=
  domain ++ Utf8.encodeString userKey ++ 0 :: Utf8.encodeString account

/-- The vouch of an operator. -/
def issue (operator : KeyPair) (user : PublicKey) (account : String) : Vouch where
  issuer := operator.publicKey.toText
  account := account
  signature := operator.sign (message user.toText account)

/-- The JSON form. -/
def toJson (vouch : Vouch) : Value :=
  object [("issuer", ofText vouch.issuer), ("account", ofText vouch.account),
    ("sig", ofText vouch.signature)]

/-- The vouch of a JSON value. -/
def ofJson? (value : Value) : Option Vouch := do
  match ← slots? ["issuer", "account", "sig"] value with
  | [issuer, account, signature] =>
    some ⟨← required? text? issuer, ← required? text? account, ← required? text? signature⟩
  | _ => none

end Vouch

/-- The server's first message. -/
structure Hello where
  serverId : String
  authRequired : Bool
  nonce : Option String
  deriving DecidableEq, Repr

namespace Hello

/-- The JSON form. -/
def toJson (hello : Hello) : Value :=
  object [("server_id", ofText hello.serverId), ("auth_required", some (.bool hello.authRequired)),
    ("nonce", hello.nonce.map ofText)]

/-- The hello of a JSON value. -/
def ofJson? (value : Value) : Option Hello := do
  match ← slots? ["server_id", "auth_required", "nonce"] value with
  | [serverId, authRequired, nonce] =>
    some ⟨← required? text? serverId, ← required? bool? authRequired, ← optional? text? nonce⟩
  | _ => none

end Hello

/-- The client's answer. -/
structure Request where
  name : Option String
  key : Option String
  signature : Option String
  vouch : Option Vouch
  deriving DecidableEq, Repr

namespace Request

/-- The request that claims nothing. -/
def empty : Request := ⟨none, none, none, none⟩

/-- The request of a user that answers a nonce. -/
def signed (user : KeyPair) (nonce : String) : Request :=
  { empty with
    key := some user.publicKey.toText
    signature := some (user.sign (Utf8.encodeString nonce)) }

/-- The request with a vouch. -/
def withVouch (request : Request) (vouch : Vouch) : Request :=
  { request with vouch := some vouch }

/-- The JSON form. -/
def toJson (request : Request) : Value :=
  object [("name", request.name.map ofText), ("nkey", request.key.map ofText),
    ("sig", request.signature.map ofText), ("vouch", request.vouch.map Vouch.toJson)]

/-- The request of a JSON value. -/
def ofJson? (value : Value) : Option Request := do
  match ← slots? ["name", "nkey", "sig", "vouch"] value with
  | [name, key, signature, vouch] =>
    some ⟨← optional? text? name, ← optional? text? key, ← optional? text? signature,
      ← optional? Vouch.ofJson? vouch⟩
  | _ => none

end Request

end Gatekeeper.Handshake
