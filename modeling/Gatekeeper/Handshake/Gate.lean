import Gatekeeper.Handshake.Policy
import Gatekeeper.Nonce
import Gatekeeper.Roster

/-!
# `Gatekeeper.Handshake.Gate`: handshakes under one policy

The gate opens a handshake for each connection, keeps the roster of nonces that
are still unanswered, and judges each answer. A nonce leaves the roster before
anything else is checked, so it is compared at most once; a handshake that ends
without an answer gives its nonce back.

* `Gate.open?`: a new handshake, with a nonce that no other one holds.
* `Gate.answer`: the verdict on a request, and the stage it leads to.
* `Gate.abandon`: the end of a handshake.
-/

set_option autoImplicit false

namespace Gatekeeper

open Gatekeeper.Key Gatekeeper.Text Gatekeeper.Handshake

namespace Handshake

/-- Why an answer is refused. The client is never told which it was. -/
inductive Refusal where
  | missingCredentials
  | malformedKey
  | malformedSignature
  | badSignature
  | unknownKey
  | untrustedVouch
  | nonceReused
  | staleNonce
  | alreadyBound
  | alreadyRejected
  deriving DecidableEq, Repr

namespace Refusal

/-- The name of a refusal in logs and counters. -/
def name : Refusal → String
  | missingCredentials => "missing_credentials"
  | malformedKey => "malformed_key"
  | malformedSignature => "malformed_signature"
  | badSignature => "bad_signature"
  | unknownKey => "unknown_key"
  | untrustedVouch => "untrusted_vouch"
  | nonceReused => "nonce_reused"
  | staleNonce => "stale_nonce"
  | alreadyBound => "already_bound"
  | alreadyRejected => "already_rejected"

/-- The one wording that all refusals share. -/
def message (_ : Refusal) : String := "authorization violation"

end Refusal

/-- How far a handshake is. -/
inductive Stage where
  /-- Nothing was sent yet. -/
  | awaiting
  /-- The nonce was sent and is unanswered. -/
  | nonceIssued (nonce : String) (issuedAt : Moment)
  /-- The client has an identity, for good. -/
  | authenticated (identity : Identity)
  /-- The client was refused, for good. -/
  | rejected
  deriving DecidableEq, Repr

end Handshake

/-- The handshake of one connection. -/
structure Handshake where
  connection : String
  hello : Hello
  stage : Stage
  deriving DecidableEq, Repr

namespace Handshake

/-- The identity that the handshake led to. -/
def identity? (handshake : Handshake) : Option Identity :=
  match handshake.stage with
  | .authenticated identity => some identity
  | _ => none

/-- Whom an unanswered nonce was issued to, and when. -/
structure Issue where
  connection : String
  issuedAt : Moment
  deriving DecidableEq, Repr

/-- A policy and the nonces that are unanswered under it. -/
structure Gate where
  policy : Policy
  outstanding : Roster String Issue

namespace Gate

/-- The gate of a policy before any connection. -/
def ofPolicy (policy : Policy) : Gate := ⟨policy, .empty⟩

/-- The first draw whose nonce the roster does not hold, and the draws after it. -/
def freshNonce? (outstanding : Roster String Issue) :
    List Nonce.Draw → Option (String × List Nonce.Draw)
  | [] => none
  | draw :: rest =>
    if outstanding.contains (Nonce.ofDraw draw) then freshNonce? outstanding rest
    else some (Nonce.ofDraw draw, rest)

/-- Opens a handshake for a connection. Where clients have to prove who they are,
the random source is drawn from until a nonce is fresh; there is no handshake if
it ends before. Yields the draws that are left. -/
def open? (gate : Gate) (connection : String) (now : Moment) (draws : List Nonce.Draw) :
    Option (Handshake × Gate × List Nonce.Draw) :=
  if gate.policy.authRequired then
    match freshNonce? gate.outstanding draws with
    | none => none
    | some (nonce, rest) =>
      some
        (⟨connection, ⟨gate.policy.serverId, true, some nonce⟩, .nonceIssued nonce now⟩,
          { gate with outstanding := (gate.outstanding.add nonce ⟨connection, now⟩).2 }, rest)
  else
    some
      (⟨connection, ⟨gate.policy.serverId, false, none⟩, .authenticated .anonymous⟩, gate, draws)

/-- The verdict on a request that answers a nonce, whose roster entry was taken out
by `entry`. The checks run in this order: the nonce is this connection's and not
too old; key and signature are there and well formed; the signature is the
key's on the nonce; a vouch, if there is one, holds; without a vouch the key is
allowed. -/
def judge (policy : Policy) (connection nonce : String) (entry : Option Issue) (now : Moment)
    (request : Request) : Except Refusal Identity :=
  match entry with
  | none => .error .nonceReused
  | some issue =>
    if issue.connection ≠ connection then .error .nonceReused
    else if policy.nonceTtl.nanos < now - issue.issuedAt then .error .staleNonce
    else
      match request.key, request.signature with
      | some keyText, some signatureText =>
        match PublicKey.parseRole .user keyText with
        | .error _ => .error .malformedKey
        | .ok key =>
          match signatureBytes? signatureText with
          | none => .error .malformedSignature
          | some signature =>
            if !key.verifyBytes (Utf8.encodeString nonce) signature then .error .badSignature
            else
              match request.vouch with
              | some vouch =>
                match policy.vouchedAccount? key vouch with
                | none => .error .untrustedVouch
                | some account => .ok ⟨some key.toText, some account⟩
              | none =>
                if key.toText ∈ policy.allowed then .ok ⟨some key.toText, none⟩
                else .error .unknownKey
      | _, _ => .error .missingCredentials

/-- Judges a request at a reading of the clock. The first answer to a nonce takes
the nonce out and settles the stage; a later one changes nothing. -/
def answer (gate : Gate) (handshake : Handshake) (request : Request) (now : Moment) :
    Except Refusal Identity × Handshake × Gate :=
  match handshake.stage with
  | .nonceIssued nonce _ =>
    let (entry, outstanding) := gate.outstanding.take nonce
    match judge gate.policy handshake.connection nonce entry now request with
    | .ok identity =>
      (.ok identity, { handshake with stage := .authenticated identity }, { gate with outstanding })
    | .error refusal =>
      (.error refusal, { handshake with stage := .rejected }, { gate with outstanding })
  | .authenticated identity =>
    (if identity.isAnonymous then .ok identity else .error .alreadyBound, handshake, gate)
  | .rejected => (.error .alreadyRejected, handshake, gate)
  | .awaiting => (.error .missingCredentials, { handshake with stage := .rejected }, gate)

/-- Ends a handshake: an unanswered nonce leaves the roster. -/
def abandon (gate : Gate) (handshake : Handshake) : Gate :=
  match handshake.stage with
  | .nonceIssued nonce _ => { gate with outstanding := (gate.outstanding.delete nonce).2 }
  | _ => gate

end Gate

end Handshake

end Gatekeeper
