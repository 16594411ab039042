import Gatekeeper.Proofs.Handshake.Admission
import Gatekeeper.Proofs.Handshake.Finality

/-!
# `Gatekeeper.Proofs.Handshake.Honest`: an honest client gets in

The client builds its request with functions of its own: `Request.signed` answers the nonce of
the hello, and `Vouch.issue` is what an operator hands out. The gate takes the request apart
again. The theorems here say that the two sides fit: what an honest client sends passes every
check of the gate, in any gatehouse that events lead to.

What is assumed of the signature scheme is `KeyPair.Signs`, that strict verification takes the
pair's own signature. It is assumed of the two messages in question only. An assumption about
all messages would be too much, because strict verification refuses a signature whose random
part happens to be a point of small order. That the public key is a point of the curve need
not be assumed, since no signature verifies under a key that is none (`KeyPair.Signs.valid`).

* `admits_listed`, `admits_vouched`: an honest request passes the checks.
* `greeted_run`: the hello of an unanswered handshake carries the nonce that is checked.
* `honest_run`: the verdict on an honest request, in every run.
-/

set_option autoImplicit false

/-! ### Pairs whose signatures verify -/

namespace Gatekeeper.Curve.Signature

/-- Nothing verifies under a key that is no point. -/
theorem isSome_of_verify {key message signature : List UInt8}
    (h : verify key message signature = true) : (Point.ofBytes? key).isSome = true := by
  unfold verify at h
  dsimp only at h
  split at h
  next point _ hpoint _ =>
    rw [hpoint]
    rfl
  next => cases h

end Gatekeeper.Curve.Signature

namespace Gatekeeper.Key

open Gatekeeper.Bytes

/-- Strict verification under the public key of the pair takes its signature on the message. -/
def KeyPair.Signs (pair : KeyPair) (message : List UInt8) : Prop :=
  Curve.Signature.verify (Curve.Signature.publicKey pair.seed.val) message
    (Curve.Signature.sign pair.seed.val message) = true

instance (pair : KeyPair) (message : List UInt8) : Decidable (pair.Signs message) :=
  inferInstanceAs (Decidable (_ = true))

namespace KeyPair

variable {pair : KeyPair} {message : List UInt8}

/-- The 64 bytes of the pair's signature. -/
def signature (pair : KeyPair) (message : List UInt8) : Block 64 :=
  ⟨Curve.Signature.sign pair.seed.val message, Curve.Signature.length_sign _ _⟩

/-- Who signs has a key that is on the curve. -/
theorem Signs.valid (h : pair.Signs message) : pair.publicKey.Valid :=
  Curve.Signature.isSome_of_verify h

/-- A signature that a pair makes is one that its public key verifies. -/
theorem Signs.verifyBytes (h : pair.Signs message) :
    pair.publicKey.verifyBytes message (pair.signature message) = true := h

/-- The text of the signature verifies, too. -/
theorem Signs.verify (h : pair.Signs message) :
    pair.publicKey.verify message (pair.sign message) = true := by
  have hread : signatureBytes? (pair.sign message) = some (pair.signature message) :=
    signatureBytes?_eq_some_iff.mpr rfl
  rw [PublicKey.verify, hread]
  exact h.verifyBytes

end KeyPair

end Gatekeeper.Key

namespace Gatekeeper.Handshake

open Gatekeeper.Bytes Gatekeeper.Key Gatekeeper.Text

/-! ### What an honest client sends -/

section
variable {user : KeyPair} {nonce : String}

/-- The request names the user's key, with or without a vouch. -/
theorem namesUser_signed (hrole : user.role = .user)
    (hsigns : user.Signs (Utf8.encodeString nonce)) (vouch : Option Vouch) :
    Request.NamesUser { Request.signed user nonce with vouch } user.publicKey := by
  have hparse : PublicKey.parse user.publicKey.toText = .ok user.publicKey :=
    PublicKey.parse_eq_ok_iff.mpr ⟨hsigns.valid, rfl⟩
  exact ⟨hrole, user.publicKey.toText, rfl, hparse⟩

/-- The request carries the user's signature on the nonce. -/
theorem carries_signed (user : KeyPair) (nonce : String) (vouch : Option Vouch) :
    Request.Carries { Request.signed user nonce with vouch }
      (user.signature (Utf8.encodeString nonce)) := rfl

/-- The vouch of a trusted operator holds. -/
theorem holds_issue {operator : KeyPair} {user : PublicKey} {account : String}
    {trustedKeys : List String} (hrole : operator.role = .operator)
    (hlisted : operator.publicKey.toText ∈ trustedKeys) (haccount : account ≠ "")
    (hsigns : operator.Signs (Vouch.message user.toText account)) :
    (Vouch.issue operator user account).Holds trustedKeys user where
  account_ne := haccount
  listed := hlisted
  signed := ⟨operator.publicKey, hrole, rfl, hsigns.verify⟩

variable {source : PolicySource} {issuedAt now : Moment}

/-- An honest user on the list is admitted. -/
theorem admits_listed (hrole : user.role = .user)
    (hsigns : user.Signs (Utf8.encodeString nonce))
    (htimely : now - issuedAt ≤ source.nonceTtl.nanos)
    (hlisted : user.publicKey.toText ∈ source.allowedKeys) :
    Trial.Admits ⟨source, nonce, issuedAt, now, .signed user nonce⟩
      ⟨some user.publicKey.toText, none⟩ :=
  ⟨htimely, user.publicKey, user.signature (Utf8.encodeString nonce),
    namesUser_signed hrole hsigns none, carries_signed user nonce none, hsigns.verifyBytes,
    hlisted, rfl⟩

/-- An honest user with the vouch of a trusted operator is admitted, on the list or not. -/
theorem admits_vouched {operator : KeyPair} {account : String} (hrole : user.role = .user)
    (hsigns : user.Signs (Utf8.encodeString nonce))
    (htimely : now - issuedAt ≤ source.nonceTtl.nanos)
    (hvouch : (Vouch.issue operator user.publicKey account).Holds source.trustedKeys
      user.publicKey) :
    Trial.Admits ⟨source, nonce, issuedAt, now,
        (Request.signed user nonce).withVouch (.issue operator user.publicKey account)⟩
      ⟨some user.publicKey.toText, some account⟩ :=
  ⟨htimely, user.publicKey, user.signature (Utf8.encodeString nonce),
    namesUser_signed hrole hsigns (some _), carries_signed user nonce (some _),
    hsigns.verifyBytes, hvouch, rfl⟩

end

/-! ### Policies of keys -/

/-- The texts of keys of a role are read as these keys. -/
theorem parseKeys_toText {role : Role} {keys : List PublicKey}
    (h : ∀ key ∈ keys, key.Valid ∧ key.role = role) (index : Nat) :
    parseKeys role index (keys.map PublicKey.toText) = .ok keys := by
  induction keys generalizing index with
  | nil => rfl
  | cons key rest ih =>
    obtain ⟨hvalid, hrole⟩ := h key List.mem_cons_self
    have hkey : PublicKey.parseRole role key.toText = .ok key :=
      PublicKey.parseRole_eq_ok_iff.mpr ⟨hvalid, hrole, rfl⟩
    have hrest := ih (fun other hmem => h other (List.mem_cons_of_mem _ hmem)) (index + 1)
    rw [List.map_cons, parseKeys, hkey]
    dsimp only
    rw [hrest]

/-- A policy can be made of any users and any operators. -/
theorem Policy.create_toText {users operators : List PublicKey}
    (husers : ∀ key ∈ users, key.Valid ∧ key.role = .user)
    (hoperators : ∀ key ∈ operators, key.Valid ∧ key.role = .operator) (authRequired : Bool)
    (nonceTtl : Duration) (serverKey : KeyPair) :
    Policy.create
      ⟨authRequired, users.map PublicKey.toText, operators.map PublicKey.toText, nonceTtl⟩
      serverKey = .ok
        { authRequired, allowed := users.map PublicKey.toText,
          trusted := ⟨operators.map PublicKey.toText, operators⟩, nonceTtl,
          serverId := serverKey.publicKey.toText } := by
  simp only [Policy.create, Trusted.parse, parseKeys_toText husers, parseKeys_toText hoperators]

/-! ### The nonce of the hello -/

namespace Gatehouse

variable {house : Gatehouse}

/-- The hello of an unanswered handshake carries its nonce. -/
def Greeted (house : Gatehouse) : Prop :=
  ∀ place handshake nonce issuedAt, house.handshake? place = some handshake →
    handshake.stage = .nonceIssued nonce issuedAt → handshake.hello.nonce = some nonce

/-- Only an opening makes an unanswered handshake, and it puts the nonce in both places. -/
theorem greeted_step (hsound : house.Sound) (hgreeted : house.Greeted) (event : Event) :
    (house.step event).Greeted := by
  intro place handshake nonce issuedAt hlive hstage
  rcases handshake?_step hsound hlive with hbefore | ⟨_, _, _, gate, _, -, hopen, -⟩ |
    ⟨before, _, _, request, now, -, -, -, rfl⟩
  · exact hgreeted place handshake nonce issuedAt hbefore hstage
  · rcases Gate.open?_cases hopen with ⟨fresh, -, -, rfl, -⟩ | ⟨-, rfl, -⟩
    · cases hstage
      rfl
    · cases hstage
  · -- An answer settles the handshake, whatever the verdict is.
    revert hstage
    show settled (house.gate.answer before request now).1 = _ → _
    cases (house.gate.answer before request now).1 <;> exact nofun

/-- In every run the hellos carry the nonces. The induction is on the events, from any gatehouse
that has the invariants. -/
theorem greeted_run (policy : Policy) (events : List Event) : (run policy events).Greeted := by
  suffices h : ∀ house : Gatehouse, house.Sound → house.Greeted →
      (events.foldl step house).Greeted by
    refine h _ (sound_ofPolicy policy) ?_
    intro place handshake nonce issuedAt hlive
    simp [handshake?, ofPolicy] at hlive
  induction events with
  | nil => exact fun _ _ hgreeted => hgreeted
  | cons event rest ih =>
    intro house hsound hgreeted
    exact ih _ (sound_step hsound event) (greeted_step hsound hgreeted event)

/-- A trial that admits its client ends so in every run: the gate answers with the identity,
and the handshake has it from then on. -/
theorem answer_of_admits {source : PolicySource} {serverKey : KeyPair} {policy : Policy}
    (hpolicy : Policy.create source serverKey = .ok policy) {events : List Event} {place : Nat}
    {handshake : Handshake} (hlive : (run policy events).handshake? place = some handshake)
    {nonce : String} {issuedAt now : Moment} {request : Request} {identity : Identity}
    (hstage : handshake.stage = .nonceIssued nonce issuedAt)
    (hadmits : Trial.Admits ⟨source, nonce, issuedAt, now, request⟩ identity) :
    ((run policy events).gate.answer handshake request now).1 = .ok identity ∧
      ((run policy events).gate.answer handshake request now).2.1.stage =
        .authenticated identity := by
  have hsound : (run policy events).Sound := sound_run policy events
  have hentry : handshake.entry? = some (nonce, ⟨handshake.connection, issuedAt⟩) :=
    entry?_eq_some_iff.mpr ⟨rfl, hstage⟩
  have hfound := find?_outstanding hsound hlive hentry
  -- The roster has the nonce as this handshake's own, so the checks alone decide.
  have hreads : policy.Reads source := Policy.reads_of_create hpolicy
  have hends : Trial.EndsWith ⟨source, nonce, issuedAt, now, request⟩
      (Gate.judge policy handshake.connection nonce (some ⟨handshake.connection, issuedAt⟩) now
        request) := Gate.endsWith_judge hreads handshake.connection
  have hjudge := (hends.verdict.1 identity).mpr hadmits
  rw [Gate.answer_nonceIssued request now hstage, hfound, policy_run, hjudge]
  exact ⟨rfl, rfl⟩

end Gatehouse

/-- **An honest client gets in.** Take any gatehouse that events lead to, an unanswered handshake
in it and an answer that is not too late. Let the user's pair be one whose signature on the
nonce verifies. The hello has told the user this nonce. Then the request that the user signs is
accepted,

* under the user's key and without an account, if the list has the key;
* under the user's key and with the account, if a trusted operator vouches for it. The account
  is any text but the empty one, and it does not matter whether the list has the key.

The handshake keeps the identity. -/
theorem honest_run {source : PolicySource} {serverKey : KeyPair} {policy : Policy}
    (hpolicy : Policy.create source serverKey = .ok policy) (events : List Gatehouse.Event)
    {place : Nat} {handshake : Handshake} {nonce : String} {issuedAt : Moment}
    (hlive : (Gatehouse.run policy events).handshake? place = some handshake)
    (hstage : handshake.stage = .nonceIssued nonce issuedAt) {now : Moment}
    (htimely : now - issuedAt ≤ source.nonceTtl.nanos) {user : KeyPair}
    (huser : user.role = .user) (hsigns : user.Signs (Utf8.encodeString nonce)) :
    let gate := (Gatehouse.run policy events).gate
    let text := user.publicKey.toText
    handshake.hello.nonce = some nonce ∧
      (text ∈ source.allowedKeys →
        let outcome := gate.answer handshake (.signed user nonce) now
        outcome.1 = .ok ⟨some text, none⟩ ∧
          outcome.2.1.stage = .authenticated ⟨some text, none⟩) ∧
      ∀ (operator : KeyPair) (account : String), operator.role = .operator →
        operator.publicKey.toText ∈ source.trustedKeys → account ≠ "" →
        operator.Signs (Vouch.message text account) →
        let request := (Request.signed user nonce).withVouch
          (.issue operator user.publicKey account)
        let outcome := gate.answer handshake request now
        outcome.1 = .ok ⟨some text, some account⟩ ∧
          outcome.2.1.stage = .authenticated ⟨some text, some account⟩ := by
  intro gate text
  refine ⟨?_, fun hlisted => ?_, fun operator account hrole htrusted haccount hvouches => ?_⟩
  · exact Gatehouse.greeted_run policy events place handshake nonce issuedAt hlive hstage
  · exact Gatehouse.answer_of_admits hpolicy hlive hstage
      (admits_listed huser hsigns htimely hlisted)
  · have hvouch : (Vouch.issue operator user.publicKey account).Holds source.trustedKeys
        user.publicKey := holds_issue hrole htrusted haccount hvouches
    exact Gatehouse.answer_of_admits hpolicy hlive hstage
      (admits_vouched huser hsigns htimely hvouch)

/-- A user on the list, first on its own and then with a vouch for an account that holds a
null. -/
theorem honest_run_of_vouched :
    let user : KeyPair := ⟨.user, List.replicate 32 1, rfl⟩
    let operator : KeyPair := ⟨.operator, List.replicate 32 2, rfl⟩
    let source : PolicySource :=
      ⟨true, [user.publicKey].map PublicKey.toText,
        [operator.publicKey].map PublicKey.toText, .ofSeconds 30⟩
    let nonce := Nonce.ofDraw ⟨List.replicate 24 3, rfl⟩
    ∃ policy handshake, Policy.create source operator = .ok policy ∧
      let house := Gatehouse.run policy [.opened "c1" 5 [⟨List.replicate 24 3, rfl⟩]]
      house.handshake? 0 = some handshake ∧ handshake.hello.nonce = some nonce ∧
        (house.gate.answer handshake (.signed user nonce) 7).1 =
          .ok ⟨some user.publicKey.toText, none⟩ ∧
        (house.gate.answer handshake ((Request.signed user nonce).withVouch
          (.issue operator user.publicKey "a\x00b")) 7).1 =
          .ok ⟨some user.publicKey.toText, some "a\x00b"⟩ := by
  intro user operator source nonce
  have hsigns : user.Signs (Utf8.encodeString nonce) := by decide +kernel
  have hvouches : operator.Signs (Vouch.message user.publicKey.toText "a\x00b") := by
    decide +kernel
  have husers : ∀ key ∈ [user.publicKey], key.Valid ∧ key.role = .user := by
    intro key hmem
    cases List.mem_singleton.mp hmem
    exact ⟨hsigns.valid, rfl⟩
  have hoperators : ∀ key ∈ [operator.publicKey], key.Valid ∧ key.role = .operator := by
    intro key hmem
    cases List.mem_singleton.mp hmem
    exact ⟨hvouches.valid, rfl⟩
  have hpolicy := Policy.create_toText husers hoperators true (.ofSeconds 30) operator
  obtain ⟨hhello, hlisted, hvouched⟩ :=
    honest_run hpolicy [.opened "c1" 5 [⟨List.replicate 24 3, rfl⟩]]
      (show Gatehouse.handshake? _ 0 = some _ from rfl) rfl
      (show 7 - 5 ≤ source.nonceTtl.nanos by decide) (rfl : user.role = .user) hsigns
  refine ⟨_, _, hpolicy, rfl, hhello, ?_, ?_⟩
  · exact (hlisted (List.mem_singleton_self _)).1
  · exact (hvouched operator "a\x00b" rfl (List.mem_singleton_self _) (by decide) hvouches).1

end Gatekeeper.Handshake
