import Gatekeeper.Handshake.Message
import Gatekeeper.Time.Duration

/-!
# `Gatekeeper.Handshake.Policy`: whom the server admits

A policy names the users that need no vouch and the operators whose vouches
count. Every key text of it has to read as a key of its role: one that does not
refuses the whole policy, and nothing is left to the first client.

* `Trusted.parse`, `Policy.create`: the checks.
* `Policy.vouchedAccount?`: the account that a vouch gives a user.
-/

set_option autoImplicit false

namespace Gatekeeper.Handshake

open Gatekeeper.Key

/-- The first key text that refuses a policy: its list, its place in it, the text
and what is wrong with it. -/
inductive PolicyFault where
  | trusted (index : Nat) (text : String) (fault : Fault)
  | allowed (index : Nat) (text : String) (fault : Fault)
  deriving DecidableEq, Repr

/-- The wording of a fault. -/
def PolicyFault.message : PolicyFault → String
  | .trusted index text fault => s!"invalid trusted key #{index} ({text}): {fault.message}"
  | .allowed index text fault => s!"invalid allowed key #{index} ({text}): {fault.message}"

/-- What is wrong with the key text. -/
def PolicyFault.cause : PolicyFault → Fault
  | .trusted _ _ fault => fault
  | .allowed _ _ fault => fault

/-- The keys of a list of texts, or the first text that is no key of the role, with
its place. Places count from `index`. -/
def parseKeys (role : Role) : Nat → List String → Except (Nat × String × Fault) (List PublicKey)
  | _, [] => .ok []
  | index, text :: rest =>
    match PublicKey.parseRole role text with
    | .error fault => .error (index, text, fault)
    | .ok key =>
      match parseKeys role (index + 1) rest with
      | .error fault => .error fault
      | .ok keys => .ok (key :: keys)

/-- Operators that may vouch: the texts as configured, and their keys. -/
structure Trusted where
  texts : List String
  keys : List PublicKey
  deriving DecidableEq, Repr

namespace Trusted

/-- The operators of a list of key texts. -/
def parse (texts : List String) : Except PolicyFault Trusted :=
  match parseKeys .operator 0 texts with
  | .error (index, text, fault) => .error (.trusted index text fault)
  | .ok keys => .ok ⟨texts, keys⟩

/-- Whether the key is one of the operators'. -/
def contains (trusted : Trusted) (key : PublicKey) : Bool := key ∈ trusted.keys

end Trusted

/-- What an operator of the server configures. -/
structure PolicySource where
  authRequired : Bool
  allowedKeys : List String
  trustedKeys : List String
  nonceTtl : Duration
  deriving DecidableEq, Repr

/-- Whom the server admits. -/
structure Policy where
  authRequired : Bool
  /-- The key texts of users that need no vouch. -/
  allowed : List String
  trusted : Trusted
  /-- How old a nonce may be when it is answered. -/
  nonceTtl : Duration
  /-- The server's own key text. -/
  serverId : String
  deriving DecidableEq, Repr

namespace Policy

/-- The policy of a server with the given key. Trusted keys are checked before
allowed ones. -/
def create (source : PolicySource) (serverKey : KeyPair) : Except PolicyFault Policy :=
  match Trusted.parse source.trustedKeys with
  | .error fault => .error fault
  | .ok trusted =>
    match parseKeys .user 0 source.allowedKeys with
    | .error (index, text, fault) => .error (.allowed index text fault)
    | .ok keys =>
      .ok
        { authRequired := source.authRequired
          allowed := keys.map PublicKey.toText
          trusted := trusted
          nonceTtl := source.nonceTtl
          serverId := serverKey.publicKey.toText }

/-- The account that a vouch gives a user: the vouch names one, its issuer is a
trusted operator, and the signature is the issuer's. -/
def vouchedAccount? (policy : Policy) (user : PublicKey) (vouch : Vouch) : Option String :=
  if vouch.account.isEmpty then none
  else
    match PublicKey.parseRole .operator vouch.issuer with
    | .error _ => none
    | .ok issuer =>
      if policy.trusted.contains issuer &&
          issuer.verify (Vouch.message user.toText vouch.account) vouch.signature then
        some vouch.account
      else none

end Policy

end Gatekeeper.Handshake
