import Gatekeeper.Proofs.Handshake.Gatehouse
import Gatekeeper.Proofs.Key

/-!
# `Gatekeeper.Proofs.Handshake.Admission`: whom the gate admits

The verdict on an answer, stated over what the operator configured and what the client
sent. A `Trial` is an answer with everything that decides it, and a `Check` is one
question about a trial. `Check.Passes` asks the question of the configured texts and
the request alone; nothing in it refers to the roster of nonces or to parsed keys that
a policy keeps.

`endsWith_judge` reads the gate's judgement as a walk through the checks in the order of
their ranks: it ends at the first that fails, with that check's refusal, or it passes
all seven. `verdict_run` carries this to every reachable gatehouse. There the nonce of
an unanswered handshake is always found, so no verdict is `nonceReused`.

Two facts bridge from parsed keys to texts. A key has one text (`Proofs/Key.lean`), so
`Policy.Reads` can say that a policy holds exactly the configured texts; and a text in
the list of trusted keys is the text of an operator's key, because the policy would not
exist otherwise.
-/

set_option autoImplicit false

namespace Gatekeeper.Handshake

open Gatekeeper.Bytes Gatekeeper.Key Gatekeeper.Text

/-! ### What a policy holds -/

/-- The keys of a list of texts have these texts, each of the expected role. -/
theorem toText_of_parseKeys {role : Role} {index : Nat} {texts : List String}
    {keys : List PublicKey} (h : parseKeys role index texts = .ok keys) :
    keys.map PublicKey.toText = texts ∧ ∀ key ∈ keys, key.Valid ∧ key.role = role := by
  induction texts generalizing index keys with
  | nil =>
    cases h
    exact ⟨rfl, nofun⟩
  | cons text rest ih =>
    rw [parseKeys] at h
    split at h
    · cases h
    next key hkey =>
      split at h
      · cases h
      next others hothers =>
        cases h
        -- A key that a text parses to is written as that text.
        obtain ⟨hvalid, hrole, htext⟩ := PublicKey.parseRole_eq_ok_iff.mp hkey
        obtain ⟨htexts, hall⟩ := ih hothers
        refine ⟨by rw [List.map_cons, htexts, htext], fun other hmem => ?_⟩
        rcases List.mem_cons.mp hmem with rfl | hmem
        · exact ⟨hvalid, hrole⟩
        · exact hall other hmem

/-- A policy holds what its source configures: the same texts, and for the trusted ones
the operators' keys that have them. -/
structure Policy.Reads (policy : Policy) (source : PolicySource) : Prop where
  allowed : policy.allowed = source.allowedKeys
  trusted : policy.trusted.keys.map PublicKey.toText = source.trustedKeys
  operators : ∀ key ∈ policy.trusted.keys, key.Valid ∧ key.role = .operator
  nonceTtl : policy.nonceTtl = source.nonceTtl

/-- What a policy is made of: both lists of texts were read. -/
theorem Policy.of_create {source : PolicySource} {serverKey : KeyPair} {policy : Policy}
    (h : Policy.create source serverKey = .ok policy) :
    ∃ operators users, parseKeys .operator 0 source.trustedKeys = .ok operators ∧
      parseKeys .user 0 source.allowedKeys = .ok users ∧
      policy =
        { authRequired := source.authRequired
          allowed := users.map PublicKey.toText
          trusted := ⟨source.trustedKeys, operators⟩
          nonceTtl := source.nonceTtl
          serverId := serverKey.publicKey.toText } := by
  unfold create Trusted.parse at h
  cases hoperators : parseKeys .operator 0 source.trustedKeys with
  | error found => simp [hoperators] at h
  | ok operators =>
    cases husers : parseKeys .user 0 source.allowedKeys with
    | error found => simp [hoperators, husers] at h
    | ok users =>
      rw [hoperators, husers] at h
      cases h
      exact ⟨operators, users, rfl, rfl, rfl⟩

/-- A policy that could be made reads the keys that its source lists. -/
theorem Policy.reads_of_create {source : PolicySource} {serverKey : KeyPair} {policy : Policy}
    (h : Policy.create source serverKey = .ok policy) : policy.Reads source := by
  obtain ⟨operators, users, hoperators, husers, rfl⟩ := Policy.of_create h
  obtain ⟨htexts, hall⟩ := toText_of_parseKeys hoperators
  exact ⟨(toText_of_parseKeys husers).1, htexts, hall, rfl⟩

/-! ### What a request claims -/

/-- The request names this user key. -/
def Request.NamesUser (request : Request) (user : PublicKey) : Prop :=
  user.role = .user ∧ ∃ text, request.key = some text ∧ PublicKey.parse text = .ok user

/-- The request carries the base64url text of these 64 bytes. -/
def Request.Carries (request : Request) (signature : Block 64) : Prop :=
  request.signature = some (String.ofList (Base64Url.encode signature.val))

/-- The vouch is an operator's for the user: it names an account, its issuer is one of
the trusted texts, and the signature is the issuer's on user and account. -/
structure Vouch.Holds (vouch : Vouch) (trustedKeys : List String) (user : PublicKey) : Prop where
  account_ne : vouch.account ≠ ""
  listed : vouch.issuer ∈ trustedKeys
  signed : ∃ issuer : PublicKey, issuer.role = .operator ∧ vouch.issuer = issuer.toText ∧
    issuer.verify (Vouch.message user.toText vouch.account) vouch.signature = true

/-- A request names at most one user key. -/
theorem Request.NamesUser.unique {request : Request} {user user' : PublicKey}
    (h : request.NamesUser user) (h' : request.NamesUser user') : user = user' := by
  obtain ⟨-, text, htext, hparse⟩ := h
  obtain ⟨-, text', htext', hparse'⟩ := h'
  cases htext.symm.trans htext'
  cases hparse.symm.trans hparse'
  rfl

/-- A request carries at most one signature. -/
theorem Request.Carries.unique {request : Request} {signature signature' : Block 64}
    (h : request.Carries signature) (h' : request.Carries signature') :
    signature = signature' := by
  have htext := Option.some.inj (h.symm.trans h')
  have hread := (signatureBytes?_eq_some_iff.mpr rfl).symm.trans
    (signatureBytes?_eq_some_iff.mpr htext)
  exact Option.some.inj hread

/-- The policy finds an account in a vouch exactly when the vouch holds under the
configured texts. -/
theorem Policy.vouchedAccount?_eq_some_iff {policy : Policy} {source : PolicySource}
    (hreads : policy.Reads source) {user : PublicKey} {vouch : Vouch} {account : String} :
    policy.vouchedAccount? user vouch = some account ↔
      account = vouch.account ∧ vouch.Holds source.trustedKeys user := by
  unfold vouchedAccount?
  constructor
  · intro h
    split at h
    · cases h
    next hnamed =>
      split at h
      · cases h
      next issuer hissuer =>
        obtain ⟨-, hrole, htext⟩ := PublicKey.parseRole_eq_ok_iff.mp hissuer
        split at h
        next hgood =>
          cases h
          rw [Bool.and_eq_true, Trusted.contains, decide_eq_true_iff] at hgood
          refine ⟨rfl, fun hempty => hnamed (by simp [hempty]), ?_, issuer, hrole, htext, hgood.2⟩
          rw [← hreads.trusted, htext]
          exact List.mem_map_of_mem hgood.1
        · cases h
  · rintro ⟨rfl, hnamed, hlisted, issuer, hrole, htext, hsigned⟩
    -- The trusted key with the issuer's text is what the issuer's text parses to.
    rw [← hreads.trusted, List.mem_map] at hlisted
    obtain ⟨key, hmem, hkey⟩ := hlisted
    obtain ⟨hvalid, hoperator⟩ := hreads.operators key hmem
    have hparse : PublicKey.parseRole .operator vouch.issuer = .ok key :=
      PublicKey.parseRole_eq_ok_iff.mpr ⟨hvalid, hoperator, hkey.symm⟩
    have hsame : issuer = key := PublicKey.toText_injective (htext.symm.trans hkey.symm)
    subst hsame
    rw [if_neg (by simpa using hnamed), hparse]
    have hgood : (policy.trusted.contains issuer &&
        issuer.verify (Vouch.message user.toText vouch.account) vouch.signature) = true := by
      rw [Bool.and_eq_true, Trusted.contains, decide_eq_true_iff]
      exact ⟨hmem, hsigned⟩
    exact if_pos hgood

/-! ### The checks -/

/-- An answer to a nonce, with what the operator configured. -/
structure Trial where
  source : PolicySource
  nonce : String
  issuedAt : Moment
  now : Moment
  request : Request

/-- One question about a trial. -/
inductive Check where
  | age
  | credentials
  | key
  | signatureForm
  | signature
  | vouch
  | allowance
  deriving DecidableEq, Repr

namespace Check

/-- The place of a check in their order. -/
def rank : Check → Nat
  | age => 0
  | credentials => 1
  | key => 2
  | signatureForm => 3
  | signature => 4
  | vouch => 5
  | allowance => 6

/-- The refusal of a trial that fails the check. -/
def refusal : Check → Refusal
  | age => .staleNonce
  | credentials => .missingCredentials
  | key => .malformedKey
  | signatureForm => .malformedSignature
  | signature => .badSignature
  | vouch => .untrustedVouch
  | allowance => .unknownKey

/-- Whether a trial passes a check. -/
def Passes (trial : Trial) : Check → Prop
  | age => trial.now - trial.issuedAt ≤ trial.source.nonceTtl.nanos
  | credentials => trial.request.key ≠ none ∧ trial.request.signature ≠ none
  | key => ∃ user, trial.request.NamesUser user
  | signatureForm => ∃ signature, trial.request.Carries signature
  | signature => ∃ user signature, trial.request.NamesUser user ∧
      trial.request.Carries signature ∧
      user.verifyBytes (Utf8.encodeString trial.nonce) signature = true
  | vouch => ∀ vouch, trial.request.vouch = some vouch →
      ∃ user, trial.request.NamesUser user ∧ vouch.Holds trial.source.trustedKeys user
  | allowance => trial.request.vouch = none →
      ∃ user, trial.request.NamesUser user ∧ user.toText ∈ trial.source.allowedKeys

/-- No two checks are made at the same place in the order. -/
theorem rank_injective {a b : Check} (h : a.rank = b.rank) : a = b := by
  cases a <;> cases b <;> first | rfl | cases h

/-- A trial passes every check before the given rank. -/
def Clear (trial : Trial) (rank : Nat) : Prop :=
  ∀ check : Check, check.rank < rank → check.Passes trial

/-- Before the first check there is nothing to pass. -/
theorem clear_zero (trial : Trial) : Clear trial 0 := fun _ h => absurd h (Nat.not_lt_zero _)

/-- One more check passed. -/
theorem Clear.next {trial : Trial} (check : Check) (hclear : Clear trial check.rank)
    (hpass : check.Passes trial) : Clear trial (check.rank + 1) := by
  intro earlier hrank
  rcases Nat.lt_succ_iff_lt_or_eq.mp hrank with hlt | heq
  · exact hclear earlier hlt
  · exact rank_injective heq ▸ hpass

/-- The check is the first that the trial fails. -/
structure Stops (trial : Trial) (check : Check) : Prop where
  clear : Clear trial check.rank
  fails : ¬check.Passes trial

/-- A trial stops at one check at most. -/
theorem Stops.unique {trial : Trial} {a b : Check} (ha : Stops trial a) (hb : Stops trial b) :
    a = b := by
  rcases Nat.lt_trichotomy a.rank b.rank with hlt | heq | hgt
  · exact absurd (hb.clear a hlt) ha.fails
  · exact rank_injective heq
  · exact absurd (ha.clear b hgt) hb.fails

end Check

/-- The trial admits its client under this identity: the nonce is not too old, the
request names a user key and carries that key's signature on the nonce, and the user
either has a vouch that holds or, without one, is on the list. -/
def Trial.Admits (trial : Trial) (identity : Identity) : Prop :=
  trial.now - trial.issuedAt ≤ trial.source.nonceTtl.nanos ∧
    ∃ user signature, trial.request.NamesUser user ∧ trial.request.Carries signature ∧
      user.verifyBytes (Utf8.encodeString trial.nonce) signature = true ∧
      (match trial.request.vouch with
        | none => user.toText ∈ trial.source.allowedKeys
        | some vouch => vouch.Holds trial.source.trustedKeys user) ∧
      identity = ⟨some user.toText, trial.request.vouch.map (·.account)⟩

/-- A trial that admits its client passes every check. -/
theorem Trial.Admits.passes {trial : Trial} {identity : Identity} (h : trial.Admits identity)
    (check : Check) : check.Passes trial := by
  obtain ⟨hage, user, signature, hnames, hcarries, hverify, hroute, -⟩ := h
  cases check with
  | age => exact hage
  | credentials =>
    obtain ⟨-, text, htext, -⟩ := hnames
    constructor
    · exact fun hnone => nomatch htext.symm.trans hnone
    · exact fun hnone => nomatch hcarries.symm.trans hnone
  | key => exact ⟨user, hnames⟩
  | signatureForm => exact ⟨signature, hcarries⟩
  | signature => exact ⟨user, signature, hnames, hcarries, hverify⟩
  | vouch =>
    intro vouch hvouch
    rw [hvouch] at hroute
    exact ⟨user, hnames, hroute⟩
  | allowance =>
    intro hvouch
    rw [hvouch] at hroute
    exact ⟨user, hnames, hroute⟩

/-- A trial admits its client under one identity at most. -/
theorem Trial.Admits.unique {trial : Trial} {identity identity' : Identity}
    (h : trial.Admits identity) (h' : trial.Admits identity') : identity = identity' := by
  obtain ⟨-, user, signature, hnames, -, -, -, rfl⟩ := h
  obtain ⟨-, user', signature', hnames', -, -, -, rfl⟩ := h'
  rw [hnames.unique hnames']

/-! ### The verdict -/

/-- How a trial can end: it stops at a check with that check's refusal, or it admits the
client. -/
def Trial.EndsWith (trial : Trial) (verdict : Except Refusal Identity) : Prop :=
  (∃ check, Check.Stops trial check ∧ verdict = .error check.refusal) ∨
    ∃ identity, trial.Admits identity ∧ verdict = .ok identity

/-- The last two checks: once the user's signature holds, the way in is a vouch or the
list. -/
theorem Trial.endsWith_route {trial : Trial} {policy : Policy}
    (hreads : policy.Reads trial.source) {user : PublicKey} {signature : Block 64}
    (clear : Check.Clear trial Check.vouch.rank) (hnames : trial.request.NamesUser user)
    (hcarries : trial.request.Carries signature)
    (hverify : user.verifyBytes (Utf8.encodeString trial.nonce) signature = true) :
    trial.EndsWith
      (match trial.request.vouch with
        | some vouch =>
          match policy.vouchedAccount? user vouch with
          | none => .error .untrustedVouch
          | some account => .ok ⟨some user.toText, some account⟩
        | none =>
          if user.toText ∈ policy.allowed then .ok ⟨some user.toText, none⟩
          else .error .unknownKey) := by
  have hage : Check.age.Passes trial := clear .age (by decide)
  cases hvouch : trial.request.vouch with
  | none =>
    by_cases hallowed : user.toText ∈ policy.allowed
    · refine .inr ⟨⟨some user.toText, none⟩, ?_, if_pos hallowed⟩
      refine ⟨hage, user, signature, hnames, hcarries, hverify, ?_, ?_⟩
      · rw [hvouch, ← hreads.allowed]
        exact hallowed
      · rw [hvouch]
        rfl
    -- Without a vouch that check is passed for nothing, and the list decides.
    · replace clear := Check.Clear.next .vouch clear
        (fun vouch h => nomatch hvouch.symm.trans h)
      refine .inl ⟨.allowance, ⟨clear, fun h => ?_⟩, if_neg hallowed⟩
      obtain ⟨user', hnames', hlisted⟩ := h hvouch
      cases hnames.unique hnames'
      exact hallowed (hreads.allowed ▸ hlisted)
  | some vouch =>
    dsimp only
    cases haccount : policy.vouchedAccount? user vouch with
    | none =>
      refine .inl ⟨.vouch, ⟨clear, fun h => ?_⟩, rfl⟩
      obtain ⟨user', hnames', hholds⟩ := h vouch hvouch
      cases hnames.unique hnames'
      have hfound := (Policy.vouchedAccount?_eq_some_iff hreads).mpr ⟨rfl, hholds⟩
      exact nomatch haccount.symm.trans hfound
    | some account =>
      -- The account that is admitted is the one that the vouch names.
      obtain ⟨rfl, hholds⟩ := (Policy.vouchedAccount?_eq_some_iff hreads).mp haccount
      refine .inr ⟨⟨some user.toText, some vouch.account⟩, ?_, rfl⟩
      refine ⟨hage, user, signature, hnames, hcarries, hverify, ?_, ?_⟩
      · rw [hvouch]
        exact hholds
      · rw [hvouch]
        rfl

/-- The judgement on a nonce that is in the roster, as issued to this connection, walks
through the checks. The clear prefix grows by one check with every branch that goes
on. -/
theorem Gate.endsWith_judge {policy : Policy} {trial : Trial}
    (hreads : policy.Reads trial.source) (connection : String) :
    trial.EndsWith (judge policy connection trial.nonce (some ⟨connection, trial.issuedAt⟩)
      trial.now trial.request) := by
  obtain ⟨source, nonce, issuedAt, now, request⟩ := trial
  simp only [judge, ne_eq, not_true_eq_false, if_false, hreads.nonceTtl]
  -- Nothing is checked yet. Each branch that refuses names its check and the clear prefix
  -- before it.
  have clear := Check.clear_zero ⟨source, nonce, issuedAt, now, request⟩
  by_cases hage : now - issuedAt ≤ source.nonceTtl.nanos
  case neg =>
    rw [if_pos (Nat.lt_of_not_le hage)]
    exact .inl ⟨.age, ⟨clear, hage⟩, rfl⟩
  rw [if_neg (Nat.not_lt_of_le hage)]
  replace clear := Check.Clear.next .age clear hage
  cases hkey : request.key with
  | none => exact .inl ⟨.credentials, ⟨clear, fun h => h.1 hkey⟩, rfl⟩
  | some keyText =>
  cases hsignature : request.signature with
  | none => exact .inl ⟨.credentials, ⟨clear, fun h => h.2 hsignature⟩, rfl⟩
  | some signatureText =>
  replace clear := Check.Clear.next .credentials clear
    ⟨fun h => (nomatch hkey.symm.trans h), fun h => (nomatch hsignature.symm.trans h)⟩
  dsimp only
  cases huser : PublicKey.parseRole .user keyText with
  | error fault =>
    refine .inl ⟨.key, ⟨clear, ?_⟩, rfl⟩
    rintro ⟨user, hrole, text, htext, hparse⟩
    cases hkey.symm.trans htext
    exact PublicKey.parseRole_eq_error_iff.mp ⟨fault, huser⟩ ⟨user, hparse, hrole⟩
  | ok user =>
  -- From here on the request names one user, and no other.
  obtain ⟨hvalid, hrole, htext⟩ := PublicKey.parseRole_eq_ok_iff.mp huser
  have hnames : request.NamesUser user :=
    ⟨hrole, keyText, hkey, PublicKey.parse_eq_ok_iff.mpr ⟨hvalid, htext⟩⟩
  replace clear := Check.Clear.next .key clear ⟨user, hnames⟩
  cases hbytes : signatureBytes? signatureText with
  | none =>
    refine .inl ⟨.signatureForm, ⟨clear, ?_⟩, rfl⟩
    rintro ⟨signature, hcarries⟩
    have hform := Option.some.inj (hsignature.symm.trans hcarries)
    exact nomatch hbytes.symm.trans (signatureBytes?_eq_some_iff.mpr hform)
  | some signature =>
  have hcarries : request.Carries signature :=
    hsignature.trans (congrArg some (signatureBytes?_eq_some_iff.mp hbytes))
  replace clear := Check.Clear.next .signatureForm clear ⟨signature, hcarries⟩
  dsimp only
  cases hverify : user.verifyBytes (Utf8.encodeString nonce) signature with
  | false =>
    refine .inl ⟨.signature, ⟨clear, ?_⟩, rfl⟩
    rintro ⟨user', signature', hnames', hcarries', hverify'⟩
    cases hnames.unique hnames'
    cases hcarries.unique hcarries'
    exact nomatch hverify.symm.trans hverify'
  | true =>
  replace clear := Check.Clear.next .signature clear
    ⟨user, signature, hnames, hcarries, hverify⟩
  -- The way in is left: a vouch, or the list.
  exact Trial.endsWith_route hreads clear hnames hcarries hverify

/-- A verdict that a trial can end with tells exactly how it ended. -/
theorem Trial.EndsWith.verdict {trial : Trial} {verdict : Except Refusal Identity}
    (h : trial.EndsWith verdict) :
    (∀ identity, verdict = .ok identity ↔ trial.Admits identity) ∧
      ∀ refusal, verdict = .error refusal ↔
        ∃ check, Check.Stops trial check ∧ refusal = check.refusal := by
  rcases h with ⟨check, hstops, rfl⟩ | ⟨identity, hadmits, rfl⟩
  -- A trial that stops admits nobody, and stops at one check.
  · refine ⟨fun identity => ⟨nofun, fun hadmits => ?_⟩, fun refusal => ⟨fun heq => ?_, ?_⟩⟩
    · exact absurd (hadmits.passes check) hstops.fails
    · cases heq
      exact ⟨check, hstops, rfl⟩
    · rintro ⟨check', hstops', rfl⟩
      rw [hstops.unique hstops']
  -- One that admits a client admits it under one identity, and passes every check.
  · refine ⟨fun identity' => ⟨fun heq => ?_, fun hadmits' => ?_⟩, fun refusal => ⟨nofun, ?_⟩⟩
    · cases heq
      exact hadmits
    · rw [hadmits.unique hadmits']
    · rintro ⟨check, hstops, -⟩
      exact absurd (hadmits.passes check) hstops.fails

/-- **The admission rule.** In any gatehouse that events lead to, an answer to a nonce is
judged by what the operator configured, the nonce and the request alone: it is accepted
exactly when the trial admits the client, under the identity that the trial gives it, and
refused with the refusal of the first check that it fails. No refusal says that the
nonce was used before. The verdict settles the handshake. -/
theorem verdict_run {source : PolicySource} {serverKey : KeyPair} {policy : Policy}
    (hpolicy : Policy.create source serverKey = .ok policy) (events : List Gatehouse.Event)
    {place : Nat} {handshake : Handshake} {nonce : String} {issuedAt : Moment}
    (hlive : (Gatehouse.run policy events).handshake? place = some handshake)
    (hstage : handshake.stage = .nonceIssued nonce issuedAt) (request : Request)
    (now : Moment) :
    let trial : Trial := ⟨source, nonce, issuedAt, now, request⟩
    let outcome := (Gatehouse.run policy events).gate.answer handshake request now
    (∀ identity, outcome.1 = .ok identity ↔ trial.Admits identity) ∧
      (∀ refusal, outcome.1 = .error refusal ↔
        ∃ check, Check.Stops trial check ∧ refusal = check.refusal) ∧
      outcome.1 ≠ .error .nonceReused ∧
      outcome.2.1 = { handshake with stage := settled outcome.1 } := by
  intro trial outcome
  have hsound := Gatehouse.sound_run policy events
  have hentry : handshake.entry? = some (nonce, ⟨handshake.connection, issuedAt⟩) :=
    entry?_eq_some_iff.mpr ⟨rfl, hstage⟩
  -- The roster holds the handshake's own entry, so the judgement starts from it.
  have hfound := Gatehouse.find?_outstanding hsound hlive hentry
  have houtcome := (Gatehouse.run policy events).gate.answer_nonceIssued request now hstage
  rw [hfound, Gatehouse.policy_run] at houtcome
  have hends : trial.EndsWith outcome.1 := by
    rw [show outcome.1 = _ from congrArg Prod.fst houtcome]
    exact Gate.endsWith_judge (Policy.reads_of_create hpolicy) handshake.connection
  obtain ⟨hok, herror⟩ := hends.verdict
  refine ⟨hok, herror, fun hreused => ?_, ?_⟩
  · obtain ⟨check, -, hrefusal⟩ := (herror .nonceReused).mp hreused
    cases check <;> cases hrefusal
  · rw [show outcome = _ from houtcome]

/-- A user on the list that signs its nonce in time is admitted under its own key. -/
theorem verdict_run_of_listed :
    let user : KeyPair := ⟨.user, List.replicate 32 1, rfl⟩
    let server : KeyPair := ⟨.operator, List.replicate 32 2, rfl⟩
    let source : PolicySource :=
      ⟨true, ["Uiojj3XQJ8ZX9UtstPLpdcspnCb8dlBIb83SIAbQPb1wnPb9d"], [], .ofSeconds 30⟩
    let nonce := Nonce.ofDraw ⟨List.replicate 24 3, rfl⟩
    ∃ policy handshake, Policy.create source server = .ok policy ∧
      let house := Gatehouse.run policy [.opened "c1" 5 [⟨List.replicate 24 3, rfl⟩]]
      house.handshake? 0 = some handshake ∧ handshake.stage = .nonceIssued nonce 5 ∧
        (house.gate.answer handshake (.signed user nonce) 7).1 =
          .ok ⟨some "Uiojj3XQJ8ZX9UtstPLpdcspnCb8dlBIb83SIAbQPb1wnPb9d", none⟩ := by
  intro user server source nonce
  have htext : user.publicKey.toText = "Uiojj3XQJ8ZX9UtstPLpdcspnCb8dlBIb83SIAbQPb1wnPb9d" := by
    decide +kernel
  have hvalid : user.publicKey.Valid := by decide +kernel
  have hkey : PublicKey.parseRole .user user.publicKey.toText = .ok user.publicKey :=
    PublicKey.parseRole_eq_ok_iff.mpr ⟨hvalid, rfl, rfl⟩
  -- The policy of the source: its one key is that of the user, as text and as key.
  have hpolicy : Policy.create source server = .ok
      { authRequired := true, allowed := [user.publicKey.toText], trusted := ⟨[], []⟩,
        nonceTtl := .ofSeconds 30, serverId := server.publicKey.toText } := by
    simp only [Policy.create, Trusted.parse, parseKeys, source, ← htext, hkey]
    rfl
  refine ⟨_, _, hpolicy, rfl, rfl, ?_⟩
  have hverdict := verdict_run hpolicy [.opened "c1" 5 [⟨List.replicate 24 3, rfl⟩]]
    (show Gatehouse.handshake? _ 0 = some _ from rfl) rfl (.signed user nonce) 7
  rw [hverdict.1]
  have hnames : (Request.signed user nonce).NamesUser user.publicKey :=
    ⟨rfl, user.publicKey.toText, rfl, PublicKey.parse_eq_ok_iff.mpr ⟨hvalid, rfl⟩⟩
  refine ⟨by decide, user.publicKey, ⟨_, Curve.Signature.length_sign _ _⟩, hnames, rfl, ?_, ?_, ?_⟩
  · decide +kernel
  · exact List.mem_singleton.mpr htext
  · rw [htext]
    rfl

end Gatekeeper.Handshake
