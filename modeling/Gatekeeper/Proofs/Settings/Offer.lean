import Gatekeeper.Proofs.Settings
import Gatekeeper.Proofs.Text.Utf8.Decode

/-!
# `Gatekeeper.Proofs.Settings.Offer`: what each source offers

An environment and a file are two sources of settings. What one source offers does not depend on
the other, and neither does whether it can be read. Offers combine setting by setting: the
first source that offers one wins, and what none offers stays as it was.

* `Offer`, `Offer.ofEnvironment`, `Offer.ofFile`: what a source offers.
* `Offer.or`, `Offer.onto`: offers combined, and settings with an offer in place of what was
  there. `onto_or`: one after the other is both together.
* `readEnvironment_of_legible`, `apply_eq_ok_iff`: reading a source is taking its offer.
* `merged`, `load_of_legible`, `merged_of_load`: what is loaded from sources that can be read.
-/

set_option autoImplicit false

namespace Gatekeeper.Settings

open Gatekeeper.Text Gatekeeper.Net

/-! ### Offers -/

/-- What a source offers, setting by setting. -/
@[ext]
structure Offer where
  listen : Option SocketAddress
  metrics : Option SocketAddress
  authRequired : Option Bool
  allowedKeys : Option (List String)
  trustedKeys : Option (List String)
  nonceTtlMs : Option UInt64
  handshakeTimeoutMs : Option UInt64
  maxLineBytes : Option UInt64
  serverSeedFile : Option String
  heartbeatIntervalMs : Option UInt64
  gracePeriodMs : Option UInt64
  sweepIntervalMs : Option UInt64
  poisonRetentionSecs : Option UInt64
  diagnosticCapacity : Option UInt64
  diagnosticWindowMs : Option UInt64
  storage : Option Backend
  postgres : Option PostgresOverride

/-- Of each part the first offer, or else the second. -/
def PostgresOverride.or (first second : PostgresOverride) : PostgresOverride where
  url := first.url.or second.url
  maxConnections := first.maxConnections.or second.maxConnections
  acquireTimeoutMs := first.acquireTimeoutMs.or second.acquireTimeoutMs

/-- The database with what is offered in place of what was there. -/
def PostgresOverride.onto (offer : PostgresOverride) (base : Postgres) : Postgres where
  url := offer.url.getD base.url
  maxConnections := offer.maxConnections.getD base.maxConnections
  acquireTimeoutMs := offer.acquireTimeoutMs.getD base.acquireTimeoutMs

namespace Offer

/-- Of each setting the first offer, or else the second. A database is offered part by part. -/
def or (first second : Offer) : Offer where
  listen := first.listen.or second.listen
  metrics := first.metrics.or second.metrics
  authRequired := first.authRequired.or second.authRequired
  allowedKeys := first.allowedKeys.or second.allowedKeys
  trustedKeys := first.trustedKeys.or second.trustedKeys
  nonceTtlMs := first.nonceTtlMs.or second.nonceTtlMs
  handshakeTimeoutMs := first.handshakeTimeoutMs.or second.handshakeTimeoutMs
  maxLineBytes := first.maxLineBytes.or second.maxLineBytes
  serverSeedFile := first.serverSeedFile.or second.serverSeedFile
  heartbeatIntervalMs := first.heartbeatIntervalMs.or second.heartbeatIntervalMs
  gracePeriodMs := first.gracePeriodMs.or second.gracePeriodMs
  sweepIntervalMs := first.sweepIntervalMs.or second.sweepIntervalMs
  poisonRetentionSecs := first.poisonRetentionSecs.or second.poisonRetentionSecs
  diagnosticCapacity := first.diagnosticCapacity.or second.diagnosticCapacity
  diagnosticWindowMs := first.diagnosticWindowMs.or second.diagnosticWindowMs
  storage := first.storage.or second.storage
  postgres := Option.merge PostgresOverride.or first.postgres second.postgres

/-- The settings with what is offered in place of what was there. -/
def onto (offer : Offer) (base : Settings) : Settings where
  listen := offer.listen.getD base.listen
  metrics := offer.metrics.getD base.metrics
  authRequired := offer.authRequired.getD base.authRequired
  allowedKeys := offer.allowedKeys.getD base.allowedKeys
  trustedKeys := offer.trustedKeys.getD base.trustedKeys
  nonceTtlMs := offer.nonceTtlMs.getD base.nonceTtlMs
  handshakeTimeoutMs := offer.handshakeTimeoutMs.getD base.handshakeTimeoutMs
  maxLineBytes := offer.maxLineBytes.getD base.maxLineBytes
  serverSeedFile := offer.serverSeedFile.or base.serverSeedFile
  heartbeatIntervalMs := offer.heartbeatIntervalMs.getD base.heartbeatIntervalMs
  gracePeriodMs := offer.gracePeriodMs.getD base.gracePeriodMs
  sweepIntervalMs := offer.sweepIntervalMs.getD base.sweepIntervalMs
  poisonRetentionSecs := offer.poisonRetentionSecs.getD base.poisonRetentionSecs
  diagnosticCapacity := offer.diagnosticCapacity.getD base.diagnosticCapacity
  diagnosticWindowMs := offer.diagnosticWindowMs.getD base.diagnosticWindowMs
  storage := offer.storage.getD base.storage
  postgres := match offer.postgres with
    | some offer => some (offer.onto (base.postgres.getD .standard))
    | none => base.postgres

/-- Of two offers over a standard, the first that is made counts. -/
theorem getD_or {α : Type} (first second : Option α) (base : α) :
    (first.or second).getD base = first.getD (second.getD base) := by
  cases first <;> rfl

/-- Two offers for the database, one over the other, fill in the fields that each of them has. -/
theorem postgres_onto_or (first second : PostgresOverride) (base : Postgres) :
    (first.or second).onto base = first.onto (second.onto base) := by
  simp only [PostgresOverride.or, PostgresOverride.onto, getD_or]

/-- Two offers one after the other are the two together. -/
theorem onto_or (first second : Offer) (base : Settings) :
    (first.or second).onto base = first.onto (second.onto base) := by
  simp only [onto, or, getD_or, Option.or_assoc, Settings.mk.injEq, true_and]
  cases first.postgres with
  | none => cases second.postgres <;> rfl
  | some first =>
    cases second.postgres with
    | none => rfl
    | some second => exact congrArg some (postgres_onto_or first second _)

end Offer

/-! ### Texts -/

/-- A text can be read, if there is one. -/
def Legible {α : Type} (read : String → Option α) (text : Option String) : Prop :=
  ∀ t, text = some t → (read t).isSome = true

instance {α : Type} (read : String → Option α) (text : Option String) :
    Decidable (Legible read text) :=
  decidable_of_iff (∀ t ∈ text, (read t).isSome = true) Iff.rfl

/-- The number below `bound` that a text spells, with blanks around it. -/
def numberOfText? (bound : Nat) (text : String) : Option Nat :=
  (Decimal.read bound (trim text.toList)).toOption

/-- The number of 64 bits that a text spells. -/
def wordOfText? (text : String) : Option UInt64 :=
  (numberOfText? 18446744073709551616 text).map UInt64.ofNat

/-- The number of 32 bits that a text spells. -/
def halfWordOfText? (text : String) : Option UInt32 :=
  (numberOfText? 4294967296 text).map UInt32.ofNat

/-- The keys that a text lists: what stands between its commas, without the blanks around it and
without empty ones. -/
def listed (text : String) : List String :=
  (((text.toList.splitOn ',').map trim).filter (!·.isEmpty)).map String.ofList

/-- A number of 32 bits that zero does not set. -/
def positiveHalf? (n : Option UInt32) : Option UInt32 := n.filter (0 < ·)

/-- What an environment offers. Of a database it offers nothing without an address. -/
def Offer.ofEnvironment (env : Environment) : Offer where
  listen := (env.text? "WARDEN_LISTEN_BIND").bind SocketAddress.parse?
  metrics := (env.text? "WARDEN_BROKER_METRICS_BIND").bind SocketAddress.parse?
  authRequired := (env.text? "WARDEN_AUTH_REQUIRED").map fun t => t ∉ ["0", "false", "no"]
  allowedKeys := (env.text? "WARDEN_ALLOWED_KEYS").map listed
  trustedKeys := (env.text? "WARDEN_TRUSTED_KEYS").map listed
  nonceTtlMs := positive? ((env.text? "WARDEN_NONCE_TTL_MS").bind wordOfText?)
  handshakeTimeoutMs := positive? ((env.text? "WARDEN_HANDSHAKE_TIMEOUT_MS").bind wordOfText?)
  maxLineBytes := positive? ((env.text? "WARDEN_MAX_LINE_BYTES").bind wordOfText?)
  serverSeedFile := env.text? "WARDEN_SERVER_SEED_FILE"
  heartbeatIntervalMs := positive? ((env.text? "WARDEN_HEARTBEAT_INTERVAL_MS").bind wordOfText?)
  gracePeriodMs := (env.text? "WARDEN_GRACE_PERIOD_MS").bind wordOfText?
  sweepIntervalMs := positive? ((env.text? "WARDEN_SWEEP_INTERVAL_MS").bind wordOfText?)
  poisonRetentionSecs := positive? ((env.text? "WARDEN_POISON_RETENTION_SECS").bind wordOfText?)
  diagnosticCapacity := positive? ((env.text? "WARDEN_DIAGNOSTIC_CAPACITY").bind wordOfText?)
  diagnosticWindowMs := positive? ((env.text? "WARDEN_DIAGNOSTIC_WINDOW_MS").bind wordOfText?)
  storage := (env.text? "WARDEN_STORE_BACKEND").bind Backend.parse?
  postgres := (env.text? "WARDEN_PG_URL").map fun url =>
    { url := some url
      maxConnections := positiveHalf?
        ((env.text? "WARDEN_PG_MAX_CONNECTIONS").bind halfWordOfText?)
      acquireTimeoutMs := positive?
        ((env.text? "WARDEN_PG_ACQUIRE_TIMEOUT_MS").bind wordOfText?) }

/-- What a file offers. -/
def Offer.ofFile (given : Override) : Offer where
  listen := given.listen.bind SocketAddress.parse?
  metrics := given.metrics.bind SocketAddress.parse?
  authRequired := given.authRequired
  allowedKeys := given.allowedKeys
  trustedKeys := given.trustedKeys
  nonceTtlMs := positive? given.nonceTtlMs
  handshakeTimeoutMs := positive? given.handshakeTimeoutMs
  maxLineBytes := positive? given.maxLineBytes
  serverSeedFile := given.serverSeedFile
  heartbeatIntervalMs := positive? given.heartbeatIntervalMs
  gracePeriodMs := given.gracePeriodMs
  sweepIntervalMs := positive? given.sweepIntervalMs
  poisonRetentionSecs := positive? given.poisonRetentionSecs
  diagnosticCapacity := positive? given.diagnosticCapacity
  diagnosticWindowMs := positive? given.diagnosticWindowMs
  storage := given.storage.bind Backend.parse?
  postgres := given.postgres.map fun given =>
    { url := given.url
      maxConnections := positiveHalf? given.maxConnections
      acquireTimeoutMs := positive? given.acquireTimeoutMs }

/-! ### Reading the environment -/

/-- Everything that is set can be read, as far as it counts: the limits of a database do not
without its address. -/
structure LegibleEnvironment (env : Environment) : Prop where
  addresses : ∀ name ∈ addressNames, Legible SocketAddress.parse? (env.text? name)
  numbers : ∀ name ∈ numberNames, Legible wordOfText? (env.text? name)
  backend : Legible Backend.parse? (env.text? "WARDEN_STORE_BACKEND")
  limits : env.text? "WARDEN_PG_URL" ≠ none →
    Legible halfWordOfText? (env.text? "WARDEN_PG_MAX_CONNECTIONS") ∧
      Legible wordOfText? (env.text? "WARDEN_PG_ACQUIRE_TIMEOUT_MS")

section
variable {env : Environment} {name place : String} {text : Option String}

/-- Nothing is legible, since nothing is set. -/
theorem legible_none {α : Type} {read : String → Option α} : Legible read none := nofun

/-- A text is legible just if it can be read. -/
theorem legible_some_iff {α : Type} {read : String → Option α} {t : String} :
    Legible read (some t) ↔ (read t).isSome = true := by
  simp [Legible]

/-- Whether a text is legible does not depend on what is made of it after it was read. -/
theorem legible_map_iff {α β : Type} {read : String → Option α} {f : α → β} :
    Legible (fun t => (read t).map f) text ↔ Legible read text := by
  simp only [Legible, Option.isSome_map]

/-- An address is taken from a text that is set and legible, and it is the standard if none is set.
-/
theorem addressFrom_eq_ok_iff {base address : SocketAddress} :
    Override.addressFrom place text base = .ok address ↔
      Legible SocketAddress.parse? text ∧ address = (text.bind SocketAddress.parse?).getD base := by
  cases text with
  | none => simp [Override.addressFrom, legible_none, eq_comm]
  | some t =>
    rw [Override.addressFrom, legible_some_iff, Option.bind_some]
    cases SocketAddress.parse? t <;> simp [eq_comm]

/-- A backend is taken from a text in the same way. -/
theorem backendFrom_eq_ok_iff {base backend : Backend} :
    backendFrom place text base = .ok backend ↔
      Legible Backend.parse? text ∧ backend = (text.bind Backend.parse?).getD base := by
  cases text with
  | none => simp [backendFrom, legible_none, eq_comm]
  | some t =>
    rw [backendFrom, backendOf, legible_some_iff, Option.bind_some]
    cases Backend.parse? t <;> simp [eq_comm]

/-- A variable gives a number just if its text is legible, and then it gives the number of the text.
-/
theorem numberOf?_eq_ok_iff {bound : Nat} {n : Option Nat} :
    numberOf? env name bound = .ok n ↔
      Legible (numberOfText? bound) (env.text? name) ∧
        n = (env.text? name).bind (numberOfText? bound) := by
  rw [numberOf?]
  cases env.text? name with
  | none => simp [legible_none, eq_comm]
  | some t =>
    rw [legible_some_iff, Option.bind_some, numberOfText?]
    dsimp only
    cases Decimal.read bound (trim t.toList) <;> simp [Except.toOption, eq_comm]

/-- A mapped result is good just if the result is. -/
theorem map_eq_ok {ε α β : Type} {result : Except ε α} {f : α → β} {b : β} :
    result.map f = .ok b ↔ ∃ a, result = .ok a ∧ b = f a := by
  cases result <;> simp [Except.map, eq_comm]

/-- A mapped result has the fault of the result. -/
theorem map_eq_error {ε α β : Type} {result : Except ε α} {f : α → β} {fault : ε} :
    result.map f = .error fault ↔ result = .error fault := by
  cases result <;> simp [Except.map]

/-- A variable gives a 64-bit number just if its text is legible as one. -/
theorem wordOf?_eq_ok_iff {n : Option UInt64} :
    wordOf? env name = .ok n ↔
      Legible wordOfText? (env.text? name) ∧ n = (env.text? name).bind wordOfText? := by
  have hlegible : Legible wordOfText? (env.text? name) ↔
      Legible (numberOfText? 18446744073709551616) (env.text? name) := legible_map_iff
  have hbind : (env.text? name).bind wordOfText? =
      ((env.text? name).bind (numberOfText? 18446744073709551616)).map UInt64.ofNat :=
    Option.map_bind.symm
  simp only [wordOf?, map_eq_ok, numberOf?_eq_ok_iff, and_assoc, exists_and_left, exists_eq_left,
    hlegible, hbind]

/-- A number that is set replaces the standard, except that zero asks for the standard. -/
theorem wordOr_eq_ok_iff {standard n : UInt64} :
    wordOr env name standard = .ok n ↔
      Legible wordOfText? (env.text? name) ∧
        n = (positive? ((env.text? name).bind wordOfText?)).getD standard := by
  simp only [wordOr, map_eq_ok, wordOf?_eq_ok_iff, and_assoc, exists_and_left, exists_eq_left]

/-- An address that is set replaces the standard. -/
theorem addressOr_eq_ok_iff {standard address : SocketAddress} :
    addressOr env name standard = .ok address ↔
      Legible SocketAddress.parse? (env.text? name) ∧
        address = ((env.text? name).bind SocketAddress.parse?).getD standard :=
  addressFrom_eq_ok_iff

/-- The limits of a database are read where its address is set. -/
theorem postgresOf?_eq_ok_iff {postgres : Option Postgres} :
    postgresOf? env = .ok postgres ↔
      (env.text? "WARDEN_PG_URL" ≠ none →
        Legible halfWordOfText? (env.text? "WARDEN_PG_MAX_CONNECTIONS") ∧
          Legible wordOfText? (env.text? "WARDEN_PG_ACQUIRE_TIMEOUT_MS")) ∧
        postgres = ((Offer.ofEnvironment env).onto standard).postgres := by
  have hlegible : Legible halfWordOfText? (env.text? "WARDEN_PG_MAX_CONNECTIONS") ↔
      Legible (numberOfText? 4294967296) (env.text? "WARDEN_PG_MAX_CONNECTIONS") :=
    legible_map_iff
  have hbind : (env.text? "WARDEN_PG_MAX_CONNECTIONS").bind halfWordOfText? =
      ((env.text? "WARDEN_PG_MAX_CONNECTIONS").bind (numberOfText? 4294967296)).map UInt32.ofNat :=
    Option.map_bind.symm
  rw [postgresOf?, Offer.onto, Offer.ofEnvironment]
  dsimp only
  rw [hbind]
  cases hurl : env.text? "WARDEN_PG_URL" with
  | none => simp [standard, eq_comm]
  | some url =>
    simp only [bind_eq_ok, numberOf?_eq_ok_iff, wordOr_eq_ok_iff, hlegible, and_assoc,
      exists_and_left, exists_eq_left]
    rw [← and_assoc]
    refine and_congr (by simp) ?_
    exact ⟨fun h => (Except.ok.inj h).symm, fun h => congrArg Except.ok h.symm⟩

/-- The keys that the code cuts a text into are those between its commas. -/
theorem splitAt_eq_splitOn (separator : Char) (cs : List Char) :
    splitAt separator cs = cs.splitOn separator := by
  rw [List.splitOn_eq_splitOnP]
  induction cs with
  | nil => rfl
  | cons c cs ih =>
    rw [splitAt, List.splitOnP_cons_eq_if_modifyHead, ih]
    by_cases hc : c = separator
    · simp [hc]
    · cases hparts : cs.splitOnP (· == separator) with
      | nil => exact absurd hparts (List.splitOnP_ne_nil _ _)
      | cons part parts => simp [hc]

/-- A list of keys that is not set is empty. -/
theorem keysOf_eq (env : Environment) (name : String) :
    keysOf env name = ((env.text? name).map listed).getD [] := by
  rw [keysOf]
  cases env.text? name with
  | none => rfl
  | some t =>
    rw [Option.map_some, Option.getD_some, listed, ← splitAt_eq_splitOn]

/-- A switch is on unless it is set to one of the three texts that turn it off. -/
theorem turnsOff_eq (text : Option String) :
    (!text.any turnsOff) = (text.map fun t => decide (t ∉ ["0", "false", "no"])).getD true := by
  cases text with
  | none => rfl
  | some t => simp [turnsOff, Bool.and_assoc]

/-- An environment that can be read is taken at its offer. -/
theorem readEnvironment_of_legible (h : LegibleEnvironment env) :
    readEnvironment env = .ok ((Offer.ofEnvironment env).onto standard) := by
  have haddress : ∀ name ∈ addressNames, ∀ standard, addressOr env name standard =
      .ok (((env.text? name).bind SocketAddress.parse?).getD standard) :=
    fun name hname standard => addressOr_eq_ok_iff.mpr ⟨h.addresses name hname, rfl⟩
  have hword : ∀ name ∈ numberNames, ∀ standard, wordOr env name standard =
      .ok ((positive? ((env.text? name).bind wordOfText?)).getD standard) :=
    fun name hname standard => wordOr_eq_ok_iff.mpr ⟨h.numbers name hname, rfl⟩
  have hgrace : wordOf? env "WARDEN_GRACE_PERIOD_MS" =
      .ok ((env.text? "WARDEN_GRACE_PERIOD_MS").bind wordOfText?) :=
    wordOf?_eq_ok_iff.mpr ⟨h.numbers _ (by decide), rfl⟩
  have hstorage : backendFrom "WARDEN_STORE_BACKEND" (env.text? "WARDEN_STORE_BACKEND")
      standard.storage = .ok ((Offer.ofEnvironment env).onto standard).storage :=
    backendFrom_eq_ok_iff.mpr ⟨h.backend, rfl⟩
  have hpostgres := postgresOf?_eq_ok_iff.mpr ⟨h.limits, rfl⟩
  have hseed : ((Offer.ofEnvironment env).onto standard).serverSeedFile =
      env.text? "WARDEN_SERVER_SEED_FILE" := Option.or_none
  unfold readEnvironment
  simp (disch := decide) only [haddress, hword, hgrace, hpostgres, turnsOff_eq, keysOf_eq]
  rw [← hseed]
  -- What follows the backend is the same whether or not it is set.
  cases ht : env.text? "WARDEN_STORE_BACKEND" with
  | none =>
    rw [ht] at hstorage
    rw [show Except.ok standard.storage = _ from hstorage]
    rfl
  | some t =>
    rw [ht] at hstorage
    dsimp only
    rw [show backendOf "WARDEN_STORE_BACKEND" t = _ from hstorage]
    rfl

/-- An environment that was read is legible. -/
theorem legible_of_readEnvironment {settings : Settings} (h : readEnvironment env = .ok settings) :
    LegibleEnvironment env := by
  have hread := read_of_readEnvironment h
  -- Nothing would have been read if the limits of a database were not.
  obtain ⟨postgres, hpostgres⟩ : ∃ postgres, postgresOf? env = .ok postgres := by
    unfold readEnvironment at h
    simp only [bind_eq_ok] at h
    obtain ⟨_, -, _, -, h⟩ := h
    split at h
    all_goals
      simp only [bind_eq_ok] at h
      obtain ⟨_, -, postgres, hpostgres, -⟩ := h
      exact ⟨postgres, hpostgres⟩
  refine ⟨?_, ?_, (backendFrom_eq_ok_iff.mp hread.storage).1,
    (postgresOf?_eq_ok_iff.mp hpostgres).1⟩
  · simp only [addressNames, List.forall_mem_cons, List.not_mem_nil, false_implies, implies_true,
      and_true]
    exact ⟨(addressOr_eq_ok_iff.mp hread.listen).1, (addressOr_eq_ok_iff.mp hread.metrics).1⟩
  · intro name hname
    obtain ⟨n, hn⟩ := hread.exists_number hname
    exact (wordOf?_eq_ok_iff.mp hn).1

end

/-! ### Reading the file -/

/-- Everything that a file gives as a text can be read. -/
structure LegibleOverride (given : Override) : Prop where
  listen : Legible SocketAddress.parse? given.listen
  metrics : Legible SocketAddress.parse? given.metrics
  backend : Legible Backend.parse? given.storage

/-- The database of a file is merged into that of the settings, field by field. -/
theorem ofFile_onto_postgres (given : Override) (base : Settings) :
    ((Offer.ofFile given).onto base).postgres =
      match given.postgres with
      | some given => some (Override.mergePostgres base.postgres given)
      | none => base.postgres := by
  unfold Offer.onto Offer.ofFile
  cases given.postgres <;> rfl

/-- A legible file is applied without fault, and what it gives is its offer over the settings. -/
theorem apply_of_legible {given : Override} (h : LegibleOverride given) (base : Settings) :
    given.apply base = .ok ((Offer.ofFile given).onto base) := by
  have hlisten : Override.addressFrom "listen_bind" given.listen base.listen =
      .ok ((Offer.ofFile given).onto base).listen := addressFrom_eq_ok_iff.mpr ⟨h.listen, rfl⟩
  have hmetrics : Override.addressFrom "metrics_bind" given.metrics base.metrics =
      .ok ((Offer.ofFile given).onto base).metrics := addressFrom_eq_ok_iff.mpr ⟨h.metrics, rfl⟩
  have hstorage : backendFrom "storage" given.storage base.storage =
      .ok ((Offer.ofFile given).onto base).storage := backendFrom_eq_ok_iff.mpr ⟨h.backend, rfl⟩
  have hrest := congrArg (fun postgres => (.ok { (Offer.ofFile given).onto base with postgres } :
    Except Fault Settings)) (ofFile_onto_postgres given base).symm
  unfold Override.apply
  rw [hlisten, hmetrics]
  -- What follows the backend is the same whether or not it is given.
  cases ht : given.storage with
  | none =>
    rw [ht] at hstorage
    rw [show Except.ok base.storage = _ from hstorage]
    exact hrest
  | some t =>
    rw [ht] at hstorage
    dsimp only
    rw [show backendOf "storage" t = _ from hstorage]
    exact hrest

/-- A file that can be read is taken at its offer. -/
theorem apply_eq_ok_iff {given : Override} {base settings : Settings} :
    given.apply base = .ok settings ↔
      LegibleOverride given ∧ settings = (Offer.ofFile given).onto base := by
  constructor
  · intro h
    obtain ⟨hlisten, hmetrics, hstorage, -⟩ := apply_cases h
    have hlegible : LegibleOverride given := ⟨(addressFrom_eq_ok_iff.mp hlisten).1,
      (addressFrom_eq_ok_iff.mp hmetrics).1, (backendFrom_eq_ok_iff.mp hstorage).1⟩
    exact ⟨hlegible, Except.ok.inj (h.symm.trans (apply_of_legible hlegible base))⟩
  · rintro ⟨hlegible, rfl⟩
    exact apply_of_legible hlegible base

/-! ### Loading -/

/-- The environment in which variables are set to texts. -/
def environmentOf (texts : List (String × String)) : Environment := fun name =>
  (texts.lookup name).map Utf8.encodeString

/-- In such an environment a variable has the first text that is listed for it. -/
@[simp]
theorem text?_environmentOf (texts : List (String × String)) (name : String) :
    (environmentOf texts).text? name = texts.lookup name := by
  rw [Environment.text?, environmentOf]
  cases texts.lookup name <;> simp

/-- What a file without content gives. -/
def Override.nothing : Override :=
  ⟨none, none, none, none, none, none, none, none, none, none, none, none, none, none, none, none,
    none⟩

/-- The environment gives what is in the file that it names, or nothing if it names none. -/
inductive Gives (env : Environment) (files : Files) : Override → Prop where
  | nothing (unnamed : env.text? "WARDEN_BROKER_CONFIG" = none) : Gives env files .nothing
  | file {path text : String} {given : Override}
      (named : env.text? "WARDEN_BROKER_CONFIG" = some path)
      (readable : files.readText path = .ok text) (parsed : Override.parse? text = some given) :
      Gives env files given

/-- What is in a file of the given text. -/
theorem Gives.ofText {env : Environment} {path : String} (text : String) {given : Override}
    (named : env.text? "WARDEN_BROKER_CONFIG" = some path)
    (parsed : Override.parse? text = some given) :
    Gives env (fun _ => .ok (Utf8.encodeString text)) given :=
  .file named (by simp [Files.readText]) parsed

/-- An environment and its files give one content, so "what they give" makes sense. -/
theorem Gives.unique {env : Environment} {files : Files} {given given' : Override}
    (h : Gives env files given) (h' : Gives env files given') : given = given' := by
  cases h with
  | nothing hunnamed =>
    cases h' with
    | nothing => rfl
    | file hnamed => cases hunnamed.symm.trans hnamed
  | file hnamed hreadable hparsed =>
    cases h' with
    | nothing hunnamed => cases hunnamed.symm.trans hnamed
    | file hnamed' hreadable' hparsed' =>
      cases hnamed.symm.trans hnamed'
      cases hreadable.symm.trans hreadable'
      exact Option.some.inj (hparsed.symm.trans hparsed')

/-- The settings that a file gives, or else those of the environment, or else the standard
ones. -/
def merged (env : Environment) (given : Override) : Settings :=
  ((Offer.ofFile given).or (Offer.ofEnvironment env)).onto standard

section
variable {env : Environment} {files : Files} {given : Override} {settings : Settings}

/-- The settings of both sources are the offers of the file over those of the environment, over the
standard. -/
theorem merged_eq (env : Environment) (given : Override) :
    merged env given = (Offer.ofFile given).onto ((Offer.ofEnvironment env).onto standard) :=
  Offer.onto_or _ _ _

/-- Without a file, the environment alone decides. -/
theorem merged_nothing (env : Environment) :
    merged env .nothing = (Offer.ofEnvironment env).onto standard :=
  merged_eq env .nothing

/-- A file without content is legible. -/
theorem legible_nothing : LegibleOverride .nothing := ⟨legible_none, legible_none, legible_none⟩

/-- A legible environment is read without fault, so only its storage is still checked. -/
theorem ofEnvironment_of_legible (h : LegibleEnvironment env) :
    ofEnvironment env = validate (merged env .nothing) := by
  rw [ofEnvironment, readEnvironment_of_legible h, merged_nothing]
  rfl

/-- Loading from sources that can be read: the environment is to have its storage by itself, and
once more with what the file gives. -/
theorem load_of_legible (hgives : Gives env files given) (henv : LegibleEnvironment env)
    (hfile : LegibleOverride given) :
    load env files =
      if (merged env .nothing).hasStorage ∧ (merged env given).hasStorage then
        .ok (merged env given)
      else .error .missingUrl := by
  have happly : given.apply (merged env .nothing) = .ok (merged env given) := by
    rw [apply_of_legible hfile, merged_nothing, merged_eq]
  rw [load, ofEnvironment_of_legible henv, validate]
  -- The environment alone is refused before the file is looked at.
  by_cases hown : (merged env .nothing).hasStorage = true
  · rw [if_pos hown]
    cases hgives with
    | nothing hunnamed => simp [hunnamed, hown, bind, Except.bind]
    | file hnamed hreadable hparsed =>
      simp [hnamed, hreadable, hparsed, happly, hown, bind, Except.bind, validate]
  · rw [if_neg hown, if_neg fun h => hown h.1]
    rfl

/-- Settings are loaded only from sources that can be read. -/
theorem legible_of_load (h : load env files = .ok settings) :
    LegibleEnvironment env ∧ ∃ given, Gives env files given ∧ LegibleOverride given := by
  obtain ⟨unchecked, hread⟩ : ∃ unchecked, readEnvironment env = .ok unchecked := by
    rw [load, bind_eq_ok] at h
    obtain ⟨base, hbase, -⟩ := h
    rw [ofEnvironment, bind_eq_ok] at hbase
    exact hbase.imp fun _ => And.left
  refine ⟨legible_of_readEnvironment hread, ?_⟩
  obtain ⟨-, base, -, ⟨hunnamed, -⟩ | ⟨path, text, given, hnamed, hreadable, hparsed, happly⟩⟩ :=
    load_cases h
  · exact ⟨.nothing, .nothing hunnamed, legible_nothing⟩
  · exact ⟨given, .file hnamed hreadable hparsed, (apply_eq_ok_iff.mp happly).1⟩

/-- What is loaded is what the sources give together. -/
theorem merged_of_load (h : load env files = .ok settings) :
    ∃ given, Gives env files given ∧ settings = merged env given := by
  obtain ⟨henv, given, hgives, hfile⟩ := legible_of_load h
  refine ⟨given, hgives, ?_⟩
  rw [load_of_legible hgives henv hfile] at h
  split at h
  · exact (Except.ok.inj h).symm
  · cases h

end

end Gatekeeper.Settings
