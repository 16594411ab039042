import Gatekeeper.Proofs.Handshake.Admission

/-!
# `Gatekeeper.Proofs.Handshake.Policy`: which keys make a policy

The two lists of a policy are read one after the other, each from its first text on, and the first
text that is no key of the list's role is what the policy is refused for. So the fault is a place:
everything before it reads, in its own list and, for an allowed key, in the whole list of trusted
ones.

* `parseKeys_eq_error_iff`, `exists_parseKeys_iff`: one list.
* `Policy.create_eq_error_iff`, `Policy.exists_create_iff`: both.
* `contains_iff`: a key is trusted exactly if its text is listed, because a key has one text.
* `policy_keys`: all that a list of keys comes to.
-/

set_option autoImplicit false

namespace Gatekeeper.Handshake

open Gatekeeper.Key

/-! ### One list -/

/-- The text is the text of a key of the role. -/
def IsKey (role : Role) (text : String) : Prop := ∃ key, PublicKey.parseRole role text = .ok key

/-- The first text of a list that is no key of the role, with its place and what is wrong with
it. -/
structure FirstBad (role : Role) (texts : List String) (index : Nat) (text : String)
    (fault : Key.Fault) : Prop where
  listed : texts[index]? = some text
  bad : PublicKey.parseRole role text = .error fault
  earlier : ∀ other ∈ texts.take index, IsKey role other

variable {role : Role} {text : String} {texts : List String} {fault : Key.Fault}

/-- The text of a key is no fault. -/
theorem IsKey.not_error (h : IsKey role text) : PublicKey.parseRole role text ≠ .error fault := by
  obtain ⟨key, hkey⟩ := h
  rw [hkey]
  exact nofun

/-- A list without texts has no bad one. -/
theorem not_firstBad_nil (index : Nat) : ¬FirstBad role [] index text fault :=
  fun h => nomatch h.listed

/-- The first text of a list is the first bad one if it is bad. -/
theorem firstBad_cons_zero {first : String} {rest : List String} :
    FirstBad role (first :: rest) 0 text fault ↔
      first = text ∧ PublicKey.parseRole role first = .error fault := by
  constructor
  · rintro ⟨hlisted, hbad, -⟩
    cases hlisted
    exact ⟨rfl, hbad⟩
  · rintro ⟨rfl, hbad⟩
    exact ⟨rfl, hbad, nofun⟩

/-- A later text of a list is the first bad one if the first text is good and it is the first bad
one of the rest. -/
theorem firstBad_cons_succ {first : String} {rest : List String} {index : Nat} :
    FirstBad role (first :: rest) (index + 1) text fault ↔
      IsKey role first ∧ FirstBad role rest index text fault := by
  constructor
  · rintro ⟨hlisted, hbad, hearlier⟩
    obtain ⟨hfirst, hrest⟩ := List.forall_mem_cons.mp hearlier
    exact ⟨hfirst, hlisted, hbad, hrest⟩
  · rintro ⟨hfirst, hlisted, hbad, hrest⟩
    exact ⟨hlisted, hbad, List.forall_mem_cons.mpr ⟨hfirst, hrest⟩⟩

/-- Behind a text that reads, the list goes on as before. -/
theorem parseKeys_cons_eq_error_iff {index : Nat} {first : String} {rest : List String}
    {reason : Nat × String × Key.Fault} (h : IsKey role first) :
    parseKeys role index (first :: rest) = .error reason ↔
      parseKeys role (index + 1) rest = .error reason := by
  obtain ⟨key, hkey⟩ := h
  rw [parseKeys, hkey]
  dsimp only
  cases parseKeys role (index + 1) rest <;> simp

/-- A list of key texts is refused for its first bad one. The induction is on the list, with the
places counted from any number on. -/
theorem parseKeys_from_eq_error_iff {index place : Nat} :
    parseKeys role index texts = .error (place, text, fault) ↔
      ∃ i, place = index + i ∧ FirstBad role texts i text fault := by
  induction texts generalizing index with
  | nil => exact ⟨nofun, fun ⟨i, _, hbad⟩ => absurd hbad (not_firstBad_nil i)⟩
  | cons first rest ih =>
    cases hfirst : PublicKey.parseRole role first with
    | error found =>
      rw [parseKeys, hfirst]
      constructor
      · intro h
        cases h
        exact ⟨0, rfl, firstBad_cons_zero.mpr ⟨rfl, hfirst⟩⟩
      · rintro ⟨i, rfl, hbad⟩
        cases i with
        | zero =>
          obtain ⟨rfl, hfault⟩ := firstBad_cons_zero.mp hbad
          cases hfirst.symm.trans hfault
          rfl
        -- A later one is not the first bad one, because this one is bad.
        | succ i => exact absurd hfirst (firstBad_cons_succ.mp hbad).1.not_error
    | ok key =>
      have hkey : IsKey role first := ⟨key, hfirst⟩
      rw [parseKeys_cons_eq_error_iff hkey, ih]
      constructor
      · rintro ⟨i, rfl, hbad⟩
        exact ⟨i + 1, by omega, firstBad_cons_succ.mpr ⟨hkey, hbad⟩⟩
      · rintro ⟨i, rfl, hbad⟩
        cases i with
        | zero => exact absurd (firstBad_cons_zero.mp hbad).2 hkey.not_error
        | succ i => exact ⟨i, by omega, (firstBad_cons_succ.mp hbad).2⟩

/-- Reading a list stops at the first bad text, with its index and fault. -/
theorem parseKeys_eq_error_iff {index : Nat} :
    parseKeys role 0 texts = .error (index, text, fault) ↔
      FirstBad role texts index text fault := by
  rw [parseKeys_from_eq_error_iff]
  simp

/-- A list of key texts is read exactly if each of them is. -/
theorem exists_parseKeys_iff :
    (∃ keys, parseKeys role 0 texts = .ok keys) ↔ ∀ text ∈ texts, IsKey role text := by
  constructor
  · rintro ⟨keys, hkeys⟩ text hmem
    obtain ⟨rfl, hall⟩ := toText_of_parseKeys hkeys
    obtain ⟨key, hkey, rfl⟩ := List.mem_map.mp hmem
    obtain ⟨hvalid, hrole⟩ := hall key hkey
    exact ⟨key, PublicKey.parseRole_eq_ok_iff.mpr ⟨hvalid, hrole, rfl⟩⟩
  · intro hall
    cases hkeys : parseKeys role 0 texts with
    | ok keys => exact ⟨keys, rfl⟩
    | error found =>
      -- Otherwise there would be a first bad text among them.
      obtain ⟨index, text, fault⟩ := found
      have hfirst := parseKeys_eq_error_iff.mp hkeys
      exact absurd hfirst.bad (hall text (List.mem_of_getElem? hfirst.listed)).not_error

/-! ### Both lists -/

namespace Policy

variable {source : PolicySource} {serverKey : KeyPair} {policy : Policy} {index : Nat}

/-- A policy exists exactly if all texts read. -/
theorem exists_create_iff :
    (∃ policy, create source serverKey = .ok policy) ↔
      (∀ text ∈ source.trustedKeys, IsKey .operator text) ∧
        ∀ text ∈ source.allowedKeys, IsKey .user text := by
  rw [← exists_parseKeys_iff, ← exists_parseKeys_iff, create, Trusted.parse]
  cases parseKeys .operator 0 source.trustedKeys with
  | error found => simp
  | ok operators =>
    dsimp only
    cases parseKeys .user 0 source.allowedKeys <;> simp

/-- The trusted keys come first, so the allowed ones have no part in their fault. -/
theorem create_eq_trusted_iff :
    create source serverKey = .error (.trusted index text fault) ↔
      FirstBad .operator source.trustedKeys index text fault := by
  rw [← parseKeys_eq_error_iff, create, Trusted.parse]
  cases parseKeys .operator 0 source.trustedKeys with
  | error found => simp [Prod.ext_iff]
  | ok operators =>
    dsimp only
    cases parseKeys .user 0 source.allowedKeys <;> simp

/-- A policy is refused for an allowed key just if all trusted ones are good and this is the first
bad one. -/
theorem create_eq_allowed_iff :
    create source serverKey = .error (.allowed index text fault) ↔
      (∀ text ∈ source.trustedKeys, IsKey .operator text) ∧
        FirstBad .user source.allowedKeys index text fault := by
  rw [← parseKeys_eq_error_iff, ← exists_parseKeys_iff, create, Trusted.parse]
  cases parseKeys .operator 0 source.trustedKeys with
  | error found => simp
  | ok operators =>
    dsimp only
    cases parseKeys .user 0 source.allowedKeys <;> simp [Prod.ext_iff]

/-- The texts of the trusted keys are kept as they are. -/
theorem texts_of_create (h : create source serverKey = .ok policy) :
    policy.trusted.texts = source.trustedKeys := by
  obtain ⟨operators, users, -, -, rfl⟩ := of_create h
  rfl

/-- A key is trusted exactly if its text is listed. -/
theorem Reads.contains_iff (h : policy.Reads source) {key : PublicKey} :
    policy.trusted.contains key = true ↔ key.toText ∈ source.trustedKeys := by
  rw [Trusted.contains, decide_eq_true_iff, ← h.trusted, List.mem_map]
  constructor
  · exact fun hmem => ⟨key, hmem, rfl⟩
  · rintro ⟨other, hmem, htext⟩
    -- Two keys with one text are one key.
    rwa [← PublicKey.toText_injective htext]

end Policy

/-- **The keys of a policy are all or nothing**, whatever lists of texts there are.

* There is a policy exactly if every trusted text is an operator's key and every allowed one is a
  user's.
* Otherwise it is refused for the first trusted text that is no operator's key, whatever the
  allowed ones are, and only if there is none for the first allowed one that is no user's key. The
  fault has the place of the text, the text, and what is wrong with it as a key.
* A policy keeps both lists as they are, with their order and repetitions. A key, whether it is a
  point or not, is trusted exactly if its text is in the list. -/
theorem policy_keys (source : PolicySource) (serverKey : KeyPair) :
    let trusted := source.trustedKeys
    let allowed := source.allowedKeys
    let made := Policy.create source serverKey
    ((∃ policy, made = .ok policy) ↔
      (∀ text ∈ trusted, IsKey .operator text) ∧ ∀ text ∈ allowed, IsKey .user text) ∧
    (∀ index text fault, made = .error (.trusted index text fault) ↔
      FirstBad .operator trusted index text fault) ∧
    (∀ index text fault, made = .error (.allowed index text fault) ↔
      (∀ text ∈ trusted, IsKey .operator text) ∧ FirstBad .user allowed index text fault) ∧
    (∀ policy, made = .ok policy → policy.trusted.texts = trusted ∧ policy.allowed = allowed ∧
      ∀ key : PublicKey, policy.trusted.contains key = true ↔ key.toText ∈ trusted) := by
  intro trusted allowed made
  refine ⟨Policy.exists_create_iff, fun index text fault => Policy.create_eq_trusted_iff,
    fun index text fault => Policy.create_eq_allowed_iff, fun policy hpolicy => ?_⟩
  have hreads := Policy.reads_of_create hpolicy
  exact ⟨Policy.texts_of_create hpolicy, hreads.allowed, fun key => hreads.contains_iff⟩

/-- The base point of the curve as the key of an operator, trusted twice, and then trusted beside
its text as a user's key. -/
theorem policy_keys_of_basePoint :
    let operator : PublicKey := ⟨.operator, 0x58 :: List.replicate 31 0x66, rfl⟩
    let user : PublicKey := ⟨.user, 0x58 :: List.replicate 31 0x66, rfl⟩
    ∀ serverKey : KeyPair,
      (∃ policy, Policy.create ⟨true, [], [operator.toText, operator.toText], .ofSeconds 30⟩
          serverKey = .ok policy ∧
        policy.trusted.texts = [operator.toText, operator.toText] ∧
        policy.trusted.contains operator = true ∧ policy.trusted.contains user = false) ∧
      ∃ fault, Policy.create ⟨true, ["x"], [operator.toText, user.toText], .ofSeconds 30⟩
        serverKey = .error (.trusted 1 user.toText fault) := by
  intro operator user serverKey
  have hoperator : IsKey .operator operator.toText :=
    ⟨operator, PublicKey.parseRole_eq_ok_iff.mpr ⟨by decide +kernel, rfl, rfl⟩⟩
  have huser : user.Valid := by decide +kernel
  have hne : user.toText ≠ operator.toText :=
    fun h => nomatch congrArg PublicKey.role (PublicKey.toText_injective h)
  refine ⟨?_, ?_⟩
  · obtain ⟨hmade, -, -, hkeeps⟩ := policy_keys
      ⟨true, [], [operator.toText, operator.toText], .ofSeconds 30⟩ serverKey
    obtain ⟨policy, hpolicy⟩ := hmade.mpr ⟨by simpa using hoperator, nofun⟩
    obtain ⟨htexts, -, hcontains⟩ := hkeeps policy hpolicy
    refine ⟨policy, hpolicy, htexts, (hcontains operator).mpr List.mem_cons_self, ?_⟩
    rw [Bool.eq_false_iff, Ne, hcontains]
    simpa using hne
  · obtain ⟨fault, hfault⟩ := PublicKey.parseRole_eq_error_iff.mpr
      (show ¬∃ key, PublicKey.parse user.toText = .ok key ∧ key.role = .operator by
        rw [PublicKey.parse_eq_ok_iff.mpr ⟨huser, rfl⟩]
        rintro ⟨key, hkey, hrole⟩
        cases hkey
        cases hrole)
    have hrefused := (policy_keys ⟨true, ["x"], [operator.toText, user.toText], .ofSeconds 30⟩
      serverKey).2.1 1 user.toText fault
    exact ⟨fault, hrefused.mpr ⟨rfl, hfault, by simpa using hoperator⟩⟩

end Gatekeeper.Handshake
