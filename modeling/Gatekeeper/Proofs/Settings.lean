import Gatekeeper.Proofs.Quota
import Gatekeeper.Settings.Override
import Gatekeeper.Sweep.Pass
import Gatekeeper.Throttle
import Mathlib.Data.List.TakeWhile

/-!
# `Gatekeeper.Proofs.Settings`: settings that are accepted can run

Settings come from the environment and from a file, setting by setting. A zero is refused where
a part of the server cannot work with one: it leaves what was there, which is positive already.
So no part has to check its settings again.

* `Read`, `load_cases`: where each setting comes from.
* `Positive`: the numbers that are never zero.
* `Runs`, `runs_of_load`: what the parts of a server need, and that all accepted settings give it.
* `Malformed`, `load_ne_ok_of_malformed`: what is set to something that cannot be read is refused.
-/

set_option autoImplicit false

namespace Gatekeeper

open Gatekeeper.Text Gatekeeper.Net

section
variable {ε α β : Type} {result : Except ε α} {next : α → Except ε β}

/-- A chain is good just if its first part is, and the rest with what that gives. -/
theorem bind_eq_ok {b : β} :
    (result >>= next) = .ok b ↔ ∃ a, result = .ok a ∧ next a = .ok b := by
  cases result with
  | error fault => exact ⟨nofun, nofun⟩
  | ok a => simp [bind, Except.bind]

/-- A chain has the fault of its first part, or else that of the rest. -/
theorem bind_eq_error {fault : ε} :
    (result >>= next) = .error fault ↔
      result = .error fault ∨ ∃ a, result = .ok a ∧ next a = .error fault := by
  cases result with
  | error fault => simp [bind, Except.bind]
  | ok a => simp [bind, Except.bind]

end

namespace Settings

variable {env : Environment} {files : Files} {base settings : Settings}

/-! ### Where each setting comes from -/

/-- The backend that a text gives, or the one that was there. -/
def backendFrom (place : String) (text : Option String) (base : Backend) : Except Fault Backend :=
  match text with
  | some text => backendOf place text
  | none => .ok base

/-- Settings that were read from an environment. -/
structure Read (env : Environment) (settings : Settings) : Prop where
  listen : addressOr env "WARDEN_LISTEN_BIND" standard.listen = .ok settings.listen
  metrics : addressOr env "WARDEN_BROKER_METRICS_BIND" standard.metrics = .ok settings.metrics
  storage : backendFrom "WARDEN_STORE_BACKEND" (env.text? "WARDEN_STORE_BACKEND")
    standard.storage = .ok settings.storage
  nonceTtlMs : wordOr env "WARDEN_NONCE_TTL_MS" standard.nonceTtlMs = .ok settings.nonceTtlMs
  handshakeTimeoutMs : wordOr env "WARDEN_HANDSHAKE_TIMEOUT_MS" standard.handshakeTimeoutMs =
    .ok settings.handshakeTimeoutMs
  maxLineBytes : wordOr env "WARDEN_MAX_LINE_BYTES" standard.maxLineBytes =
    .ok settings.maxLineBytes
  heartbeatIntervalMs : wordOr env "WARDEN_HEARTBEAT_INTERVAL_MS" standard.heartbeatIntervalMs =
    .ok settings.heartbeatIntervalMs
  gracePeriodMs : ∃ n, wordOf? env "WARDEN_GRACE_PERIOD_MS" = .ok n
  sweepIntervalMs : wordOr env "WARDEN_SWEEP_INTERVAL_MS" standard.sweepIntervalMs =
    .ok settings.sweepIntervalMs
  poisonRetentionSecs : wordOr env "WARDEN_POISON_RETENTION_SECS" standard.poisonRetentionSecs =
    .ok settings.poisonRetentionSecs
  diagnosticCapacity : wordOr env "WARDEN_DIAGNOSTIC_CAPACITY" standard.diagnosticCapacity =
    .ok settings.diagnosticCapacity
  diagnosticWindowMs : wordOr env "WARDEN_DIAGNOSTIC_WINDOW_MS" standard.diagnosticWindowMs =
    .ok settings.diagnosticWindowMs

/-- Settings that were read from an environment have every field as the reader of this field gave
it. -/
theorem read_of_readEnvironment (h : readEnvironment env = .ok settings) : Read env settings := by
  unfold readEnvironment at h
  simp only [bind_eq_ok] at h
  obtain ⟨listen, hlisten, metrics, hmetrics, h⟩ := h
  -- The rest is the same whether or not the backend is set.
  split at h
  all_goals
    next hbackend =>
    simp only [bind_eq_ok] at h
    obtain ⟨storage, hstorage, postgres, -, nonceTtlMs, hnonce, handshakeTimeoutMs, hhandshake,
      maxLineBytes, hline, heartbeatIntervalMs, hheartbeat, grace, hgrace, sweepIntervalMs,
      hsweep, poisonRetentionSecs, hretention, diagnosticCapacity, hcapacity,
      diagnosticWindowMs, hwindow, h⟩ := h
    cases h
    refine ⟨hlisten, hmetrics, ?_, hnonce, hhandshake, hline, hheartbeat, ⟨grace, hgrace⟩, hsweep,
      hretention, hcapacity, hwindow⟩
    rw [hbackend]
    exact hstorage

/-- A check passes settings unchanged, and only with their storage in order. -/
theorem validate_eq_ok :
    validate base = .ok settings ↔ base.hasStorage = true ∧ base = settings := by
  unfold validate
  split
  next h => simp [h]
  next h => simp [h]

/-- Settings are those of the environment, or what the file that it names makes of them. -/
theorem load_cases (h : load env files = .ok settings) :
    settings.hasStorage = true ∧ ∃ base, Read env base ∧
      (env.text? "WARDEN_BROKER_CONFIG" = none ∧ settings = base ∨
        ∃ path text given, env.text? "WARDEN_BROKER_CONFIG" = some path ∧
          files.readText path = .ok text ∧ Override.parse? text = some given ∧
          given.apply base = .ok settings) := by
  rw [load, bind_eq_ok] at h
  obtain ⟨base, hbase, h⟩ := h
  rw [ofEnvironment, bind_eq_ok] at hbase
  obtain ⟨unchecked, hread, hvalid⟩ := hbase
  obtain ⟨hstorage, rfl⟩ := validate_eq_ok.mp hvalid
  have hread := read_of_readEnvironment hread
  -- Without a file nothing changes any more; with one, all is checked anew.
  split at h
  next hnone =>
    cases h
    exact ⟨hstorage, _, hread, .inl ⟨hnone, rfl⟩⟩
  next path hpath =>
    split at h
    · cases h
    next text htext =>
      split at h
      · cases h
      next given hgiven =>
        rw [bind_eq_ok] at h
        obtain ⟨overridden, happly, hvalid⟩ := h
        obtain ⟨hstorage, rfl⟩ := validate_eq_ok.mp hvalid
        exact ⟨hstorage, _, hread, .inr ⟨path, text, given, hpath, htext, hgiven, happly⟩⟩

/-! ### Numbers that are never zero -/

/-- The numbers that no part of a server could work with if they were zero. -/
structure Positive (settings : Settings) : Prop where
  nonceTtlMs : 0 < settings.nonceTtlMs
  handshakeTimeoutMs : 0 < settings.handshakeTimeoutMs
  maxLineBytes : 0 < settings.maxLineBytes
  heartbeatIntervalMs : 0 < settings.heartbeatIntervalMs
  sweepIntervalMs : 0 < settings.sweepIntervalMs
  poisonRetentionSecs : 0 < settings.poisonRetentionSecs
  diagnosticCapacity : 0 < settings.diagnosticCapacity
  diagnosticWindowMs : 0 < settings.diagnosticWindowMs

/-- A zero leaves what was there. -/
theorem getD_positive?_pos {n : UInt64} (h : 0 < n) (given : Option UInt64) :
    0 < (positive? given).getD n := by
  unfold positive?
  cases given with
  | none => exact h
  | some m =>
    by_cases hm : 0 < m
    · simp [Option.filter, hm]
    · simpa [Option.filter, hm] using h

/-- A number from a variable is the one that is set or the standard. -/
theorem wordOr_cases {name : String} {standard n : UInt64}
    (h : wordOr env name standard = .ok n) :
    ∃ given, wordOf? env name = .ok given ∧ n = (positive? given).getD standard := by
  unfold wordOr at h
  cases hword : wordOf? env name with
  | error fault =>
    rw [hword] at h
    cases h
  | ok given =>
    rw [hword] at h
    cases h
    exact ⟨given, rfl, rfl⟩

/-- A number from a variable is not zero if the standard is not, since zero asks for the standard.
-/
theorem pos_of_wordOr {name : String} {standard n : UInt64}
    (h : wordOr env name standard = .ok n) (hstandard : 0 < standard) : 0 < n := by
  obtain ⟨given, -, rfl⟩ := wordOr_cases h
  exact getD_positive?_pos hstandard given

/-- All standards of an environment are above zero, so what was read is. -/
theorem Read.positive (h : Read env settings) : settings.Positive where
  nonceTtlMs := pos_of_wordOr h.nonceTtlMs (by decide)
  handshakeTimeoutMs := pos_of_wordOr h.handshakeTimeoutMs (by decide)
  maxLineBytes := pos_of_wordOr h.maxLineBytes (by decide)
  heartbeatIntervalMs := pos_of_wordOr h.heartbeatIntervalMs (by decide)
  sweepIntervalMs := pos_of_wordOr h.sweepIntervalMs (by decide)
  poisonRetentionSecs := pos_of_wordOr h.poisonRetentionSecs (by decide)
  diagnosticCapacity := pos_of_wordOr h.diagnosticCapacity (by decide)
  diagnosticWindowMs := pos_of_wordOr h.diagnosticWindowMs (by decide)

/-- What a file makes of settings: its addresses and its backend can be read, and the numbers
stay positive. -/
theorem apply_cases {given : Override} (h : given.apply base = .ok settings) :
    Override.addressFrom "listen_bind" given.listen base.listen = .ok settings.listen ∧
      Override.addressFrom "metrics_bind" given.metrics base.metrics = .ok settings.metrics ∧
      backendFrom "storage" given.storage base.storage = .ok settings.storage ∧
      (base.Positive → settings.Positive) := by
  unfold Override.apply at h
  simp only [bind_eq_ok] at h
  obtain ⟨listen, hlisten, metrics, hmetrics, h⟩ := h
  -- Whether the file names a backend or not, the rest is applied alike.
  split at h
  all_goals
    next hbackend =>
    simp only [bind_eq_ok] at h
    obtain ⟨storage, hstorage, h⟩ := h
    cases h
    refine ⟨hlisten, hmetrics, ?_, fun hpositive => ?_⟩
    · rw [hbackend]
      exact hstorage
    · exact
        { nonceTtlMs := getD_positive?_pos hpositive.nonceTtlMs _
          handshakeTimeoutMs := getD_positive?_pos hpositive.handshakeTimeoutMs _
          maxLineBytes := getD_positive?_pos hpositive.maxLineBytes _
          heartbeatIntervalMs := getD_positive?_pos hpositive.heartbeatIntervalMs _
          sweepIntervalMs := getD_positive?_pos hpositive.sweepIntervalMs _
          poisonRetentionSecs := getD_positive?_pos hpositive.poisonRetentionSecs _
          diagnosticCapacity := getD_positive?_pos hpositive.diagnosticCapacity _
          diagnosticWindowMs := getD_positive?_pos hpositive.diagnosticWindowMs _ }

/-- Loaded settings are above zero where they have to be: the environment gives such settings, and
no file takes one of them down to zero. -/
theorem positive_of_load (h : load env files = .ok settings) : settings.Positive := by
  obtain ⟨-, base, hread, ⟨-, rfl⟩ | ⟨path, text, given, -, -, -, happly⟩⟩ := load_cases h
  · exact hread.positive
  · exact (apply_cases happly).2.2.2 hread.positive

/-! ### What the parts of a server need -/

/-- What the parts of a server need of its settings. -/
structure Runs (settings : Settings) : Prop where
  /-- A sweeper takes the rule. -/
  sweeps : settings.sweepRule.check = .ok ()
  /-- There is a throttle on diagnostics under every name. -/
  diagnostics : ∀ name now, ∃ throttle, Throttle.create name settings.diagnosticCapacity
    settings.diagnosticWindow now = .ok throttle
  /-- The silence that makes a zombie is the exact sum of what was set. -/
  silence : ∃ silence, settings.sweepRule.staleAfter? = some silence ∧
    silence.nanos =
      (settings.heartbeatIntervalMs.toNat + settings.gracePeriodMs.toNat) * 1000000
  /-- There is a sweep at every reading of the clock. -/
  sweepAt : ∀ conditions now ledger metrics,
    (Sweep.sweepAt? settings.sweepRule conditions now ledger metrics).isSome = true
  nonceTtlMs : settings.nonceTtlMs ≠ 0
  handshakeTimeoutMs : settings.handshakeTimeoutMs ≠ 0
  maxLineBytes : settings.maxLineBytes ≠ 0
  /-- A database that records are to be kept in has an address. -/
  database : settings.storage = .postgres → ∃ postgres, settings.postgres = some postgres ∧
    ∃ c ∈ postgres.url.toList, isBlank c = false

/-- A span of some milliseconds is not empty. -/
theorem nanos_ofMillis_pos {n : UInt64} (h : 0 < n) : 0 < (Duration.ofMillis n).nanos :=
  Nat.mul_pos (UInt64.lt_iff_toNat_lt.mp h) (by decide)

/-- What is above zero is not zero. -/
theorem ne_zero_of_pos {n : UInt64} (h : 0 < n) : n ≠ 0 := by
  rintro rfl
  exact absurd h (by decide)

/-- Two spans of 64-bit milliseconds have a sum. -/
theorem staleAfter?_sweepRule (settings : Settings) :
    ∃ silence, settings.sweepRule.staleAfter? = some silence ∧
      silence.nanos =
        (settings.heartbeatIntervalMs.toNat + settings.gracePeriodMs.toNat) * 1000000 := by
  have hinterval := settings.heartbeatIntervalMs.toNat_lt
  have hgrace := settings.gracePeriodMs.toNat_lt
  have hsum : settings.heartbeatIntervalMs.toNat * 1000000 +
      settings.gracePeriodMs.toNat * 1000000 < 18446744073709551616 * 1000000000 := by omega
  refine ⟨⟨_, hsum⟩, dif_pos hsum, ?_⟩
  rw [Nat.add_mul]

/-- A text is blank if all its characters are. -/
theorem isBlankText_eq_true_iff {text : String} :
    isBlankText text = true ↔ ∀ c ∈ text.toList, isBlank c = true := by
  have hends : isBlankText text = true ↔ ∀ c ∈ trimStart text.toList, isBlank c = true := by
    simp [isBlankText, trim, trimEnd]
  rw [hends]
  refine ⟨fun h c hc => ?_, fun h c hc => h c ((List.dropWhile_suffix _).mem hc)⟩
  rw [← List.takeWhile_append_dropWhile (p := isBlank) (l := text.toList), List.mem_append] at hc
  exact hc.elim List.mem_takeWhile_imp (h c)

/-- Settings with their storage in order that ask for a database have one with an address. -/
theorem database_of_hasStorage (h : settings.hasStorage = true)
    (hstorage : settings.storage = .postgres) :
    ∃ postgres, settings.postgres = some postgres ∧
      ∃ c ∈ postgres.url.toList, isBlank c = false := by
  rw [hasStorage, hstorage] at h
  cases hpostgres : settings.postgres with
  | none =>
    rw [hpostgres] at h
    cases h
  | some postgres =>
    rw [hpostgres] at h
    have hblank : ¬ ∀ c ∈ postgres.url.toList, isBlank c = true := by
      rw [← isBlankText_eq_true_iff]
      simpa using h
    exact ⟨postgres, rfl, by simpa using hblank⟩

/-- A sweeper takes the rule of settings that are above zero. -/
theorem Positive.check (h : settings.Positive) : settings.sweepRule.check = .ok () := by
  obtain ⟨quota, hquota⟩ : ∃ quota, Quota.create settings.sweepRule.diagnosticCapacity
      settings.sweepRule.diagnosticWindow 0 = .ok quota :=
    Quota.create_of_pos h.diagnosticCapacity (nanos_ofMillis_pos h.diagnosticWindowMs) 0
  have hinterval : settings.sweepRule.interval.nanos ≠ 0 :=
    Nat.ne_of_gt (nanos_ofMillis_pos h.sweepIntervalMs)
  rw [Sweep.Rule.check, if_neg hinterval, hquota]

/-- A throttle takes the quota of settings that are above zero, at any moment. -/
theorem Positive.throttle (h : settings.Positive) (name : String) (now : Moment) :
    ∃ throttle, Throttle.create name settings.diagnosticCapacity settings.diagnosticWindow now =
      .ok throttle := by
  obtain ⟨quota, hquota⟩ := Quota.create_of_pos h.diagnosticCapacity
    (nanos_ofMillis_pos h.diagnosticWindowMs) now
  refine ⟨⟨name, quota⟩, ?_⟩
  rw [Throttle.create, diagnosticWindow, hquota]
  rfl

/-- Loaded settings have all that the parts of a server need of them. -/
theorem runs_of_load (h : load env files = .ok settings) : settings.Runs := by
  have hpositive := positive_of_load h
  have hsilence := settings.staleAfter?_sweepRule
  refine ⟨hpositive.check, hpositive.throttle, hsilence, fun conditions now ledger metrics => ?_,
    ne_zero_of_pos hpositive.nonceTtlMs, ne_zero_of_pos hpositive.handshakeTimeoutMs,
    ne_zero_of_pos hpositive.maxLineBytes, database_of_hasStorage (load_cases h).1⟩
  obtain ⟨silence, hsome, -⟩ := hsilence
  rw [Sweep.sweepAt?, Sweep.Rule.bounds?, hsome]
  rfl

example (files : Files) : standard.Runs := @runs_of_load (fun _ => none) files standard rfl

/-! ### What cannot be read -/

/-- The variables that give an address. -/
def addressNames : List String := ["WARDEN_LISTEN_BIND", "WARDEN_BROKER_METRICS_BIND"]

/-- The variables that give a number, whatever else is set. -/
def numberNames : List String :=
  ["WARDEN_NONCE_TTL_MS", "WARDEN_HANDSHAKE_TIMEOUT_MS", "WARDEN_MAX_LINE_BYTES",
    "WARDEN_HEARTBEAT_INTERVAL_MS", "WARDEN_GRACE_PERIOD_MS", "WARDEN_SWEEP_INTERVAL_MS",
    "WARDEN_POISON_RETENTION_SECS", "WARDEN_DIAGNOSTIC_CAPACITY", "WARDEN_DIAGNOSTIC_WINDOW_MS"]

/-- Something is set to what cannot be read. -/
inductive Malformed (env : Environment) (files : Files) : Prop where
  | address {name text : String} (known : name ∈ addressNames) (set : env.text? name = some text)
      (unreadable : SocketAddress.parse? text = none)
  | number {name text : String} {fault : Decimal.Fault} (known : name ∈ numberNames)
      (set : env.text? name = some text)
      (unreadable : Decimal.read 18446744073709551616 (trim text.toList) = .error fault)
  | backend {text : String} (set : env.text? "WARDEN_STORE_BACKEND" = some text)
      (unknown : Backend.parse? text = none)
  /-- The file that the environment names gives no text. -/
  | file {path : String} {fault : FileFault} (named : env.text? "WARDEN_BROKER_CONFIG" = some path)
      (unreadable : files.readText path = .error fault)
  /-- Its text is no YAML, or a field of it is not of its kind. -/
  | fields {path text : String} (named : env.text? "WARDEN_BROKER_CONFIG" = some path)
      (readable : files.readText path = .ok text) (unreadable : Override.parse? text = none)
  | field {path text : String} {given : Override}
      (named : env.text? "WARDEN_BROKER_CONFIG" = some path)
      (readable : files.readText path = .ok text) (parsed : Override.parse? text = some given)
      (unreadable : ∃ text, SocketAddress.parse? text = none ∧
          (given.listen = some text ∨ given.metrics = some text) ∨
        Backend.parse? text = none ∧ given.storage = some text)

/-- An address that cannot be parsed is a fault, whatever the standard is. -/
theorem addressOr_ne_ok {name text : String} {standard address : SocketAddress}
    (hset : env.text? name = some text) (hparse : SocketAddress.parse? text = none) :
    addressOr env name standard ≠ .ok address := by
  rw [addressOr, hset]
  dsimp only
  rw [hparse]
  exact nofun

/-- A number that cannot be read is a fault. -/
theorem wordOf?_ne_ok {name text : String} {fault : Decimal.Fault} {n : Option UInt64}
    (hset : env.text? name = some text)
    (hread : Decimal.read 18446744073709551616 (trim text.toList) = .error fault) :
    wordOf? env name ≠ .ok n := by
  rw [wordOf?, numberOf?, hset]
  dsimp only
  rw [hread]
  exact nofun

/-- An address in a file that cannot be parsed is a fault. -/
theorem addressFrom_ne_ok {place text : String} {base address : SocketAddress}
    (hparse : SocketAddress.parse? text = none) :
    Override.addressFrom place (some text) base ≠ .ok address := by
  rw [Override.addressFrom, hparse]
  exact nofun

/-- A backend in a file that does not exist is a fault. -/
theorem backendFrom_ne_ok {place text : String} {base backend : Backend}
    (hparse : Backend.parse? text = none) :
    backendFrom place (some text) base ≠ .ok backend := by
  rw [backendFrom, backendOf, hparse]
  exact nofun

/-- All numbers of an environment that settings were read from can be read. -/
theorem Read.exists_number (h : Read env settings) {name : String} (hknown : name ∈ numberNames) :
    ∃ n, wordOf? env name = .ok n := by
  have hword : ∀ {name standard n}, wordOr env name standard = .ok n →
      ∃ n, wordOf? env name = .ok n := fun h => (wordOr_cases h).imp fun _ given => given.1
  simp only [numberNames, List.mem_cons, List.not_mem_nil, or_false] at hknown
  -- One number for each name. Only the grace period may be zero, so it is read apart.
  rcases hknown with rfl | rfl | rfl | rfl | rfl | rfl | rfl | rfl | rfl
  · exact hword h.nonceTtlMs
  · exact hword h.handshakeTimeoutMs
  · exact hword h.maxLineBytes
  · exact hword h.heartbeatIntervalMs
  · exact h.gracePeriodMs
  · exact hword h.sweepIntervalMs
  · exact hword h.poisonRetentionSecs
  · exact hword h.diagnosticCapacity
  · exact hword h.diagnosticWindowMs

/-- The file of settings that were loaded gives settings, and what it gives can be read. -/
theorem given_of_load (h : load env files = .ok settings) {path : String}
    (hpath : env.text? "WARDEN_BROKER_CONFIG" = some path) :
    ∃ text given base, files.readText path = .ok text ∧ Override.parse? text = some given ∧
      given.apply base = .ok settings := by
  obtain ⟨-, base, -, ⟨hnone, -⟩ | ⟨path', text, given, hpath', htext, hgiven, happly⟩⟩ :=
    load_cases h
  · cases hnone.symm.trans hpath
  · cases hpath'.symm.trans hpath
    exact ⟨text, given, base, htext, hgiven, happly⟩

/-- What cannot be read is refused. -/
theorem load_ne_ok_of_malformed (h : Malformed env files) : load env files ≠ .ok settings := by
  intro hload
  obtain ⟨-, base, hread, -⟩ := load_cases hload
  cases h with
  | address known set unreadable =>
    simp only [addressNames, List.mem_cons, List.not_mem_nil, or_false] at known
    rcases known with rfl | rfl
    · exact addressOr_ne_ok set unreadable hread.listen
    · exact addressOr_ne_ok set unreadable hread.metrics
  | number known set unreadable =>
    obtain ⟨n, hn⟩ := hread.exists_number known
    exact wordOf?_ne_ok set unreadable hn
  | backend set unknown => exact backendFrom_ne_ok unknown (set ▸ hread.storage)
  -- If a file is named, it was read before the settings were accepted.
  | file named unreadable =>
    obtain ⟨text, given, base, htext, -⟩ := given_of_load hload named
    cases unreadable.symm.trans htext
  | fields named readable unreadable =>
    obtain ⟨text, given, base, htext, hgiven, -⟩ := given_of_load hload named
    cases readable.symm.trans htext
    cases unreadable.symm.trans hgiven
  | field named readable parsed unreadable =>
    obtain ⟨text, given, base, htext, hgiven, happly⟩ := given_of_load hload named
    cases readable.symm.trans htext
    cases parsed.symm.trans hgiven
    -- The fields of a file that are texts are read once more when they are applied.
    obtain ⟨hlisten, hmetrics, hstorage, -⟩ := apply_cases happly
    obtain ⟨text, ⟨hparse, hgiven | hgiven⟩ | ⟨hparse, hgiven⟩⟩ := unreadable
    · exact addressFrom_ne_ok hparse (hgiven ▸ hlisten)
    · exact addressFrom_ne_ok hparse (hgiven ▸ hmetrics)
    · exact backendFrom_ne_ok hparse (hgiven ▸ hstorage)

end Settings

end Gatekeeper
