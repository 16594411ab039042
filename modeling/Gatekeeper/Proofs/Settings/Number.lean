import Gatekeeper.Proofs.Settings.Acceptance
import Gatekeeper.Proofs.Text.Decimal
import Mathlib.Algebra.Group.Nat.Defs

/-!
# `Gatekeeper.Proofs.Settings.Number`: numbers in the environment

A variable that is set to a text gives its number or an error. There is no third way: what is not
a number in the range of its setting is never passed over for the standard. Zero is a number, but
it asks for the standard, except as a grace period.

The two limits of a database belong to its address. Without one there is no database, so nothing
takes the standard in place of a limit, and the limits are not looked at.

* `NumberSetting`: the settings that are numbers.
* `SpellsNumber`, `numberOfText?_eq_some_iff`: which texts are numbers.
* `Blames`, `blames_of_ofEnvironment`: an error names what is at fault.
* `numbers_of_environment`: what becomes of a number that is set.
-/

set_option autoImplicit false

namespace Gatekeeper.Settings

open Gatekeeper.Text Gatekeeper.Net

/-! ### Settings that are numbers -/

/-- The settings that are numbers. -/
inductive NumberSetting where
  | nonceTtlMs
  | handshakeTimeoutMs
  | maxLineBytes
  | heartbeatIntervalMs
  | gracePeriodMs
  | sweepIntervalMs
  | poisonRetentionSecs
  | diagnosticCapacity
  | diagnosticWindowMs
  | maxConnections
  | acquireTimeoutMs
  deriving DecidableEq, Repr

namespace NumberSetting

/-- The variable that gives the number. -/
def name : NumberSetting → String
  | nonceTtlMs => "WARDEN_NONCE_TTL_MS"
  | handshakeTimeoutMs => "WARDEN_HANDSHAKE_TIMEOUT_MS"
  | maxLineBytes => "WARDEN_MAX_LINE_BYTES"
  | heartbeatIntervalMs => "WARDEN_HEARTBEAT_INTERVAL_MS"
  | gracePeriodMs => "WARDEN_GRACE_PERIOD_MS"
  | sweepIntervalMs => "WARDEN_SWEEP_INTERVAL_MS"
  | poisonRetentionSecs => "WARDEN_POISON_RETENTION_SECS"
  | diagnosticCapacity => "WARDEN_DIAGNOSTIC_CAPACITY"
  | diagnosticWindowMs => "WARDEN_DIAGNOSTIC_WINDOW_MS"
  | maxConnections => "WARDEN_PG_MAX_CONNECTIONS"
  | acquireTimeoutMs => "WARDEN_PG_ACQUIRE_TIMEOUT_MS"

/-- The numbers of the setting are those below its bound. -/
def bound : NumberSetting → Nat
  | maxConnections => 2 ^ 32
  | _ => 2 ^ 64

/-- Whether the number is a limit of the database. -/
def isLimit : NumberSetting → Bool
  | maxConnections | acquireTimeoutMs => true
  | _ => false

/-- The number in settings with a database. -/
def value (settings : Settings) (postgres : Postgres) : NumberSetting → Nat
  | nonceTtlMs => settings.nonceTtlMs.toNat
  | handshakeTimeoutMs => settings.handshakeTimeoutMs.toNat
  | maxLineBytes => settings.maxLineBytes.toNat
  | heartbeatIntervalMs => settings.heartbeatIntervalMs.toNat
  | gracePeriodMs => settings.gracePeriodMs.toNat
  | sweepIntervalMs => settings.sweepIntervalMs.toNat
  | poisonRetentionSecs => settings.poisonRetentionSecs.toNat
  | diagnosticCapacity => settings.diagnosticCapacity.toNat
  | diagnosticWindowMs => settings.diagnosticWindowMs.toNat
  | maxConnections => postgres.maxConnections.toNat
  | acquireTimeoutMs => postgres.acquireTimeoutMs.toNat

/-- The number that is in force. A limit is in force where there is a database. -/
def inForce? (setting : NumberSetting) (settings : Settings) : Option Nat :=
  if setting.isLimit then settings.postgres.map fun postgres => setting.value settings postgres
  else some (setting.value settings .standard)

/-- What a number that is set asks for: itself, or the standard if it is zero. -/
def meant (setting : NumberSetting) (n : Nat) : Nat :=
  if n = 0 ∧ setting ≠ gracePeriodMs then setting.value Settings.standard .standard else n

/-- For every number but the grace period, zero stands for the standard. -/
theorem meant_of_ne {setting : NumberSetting} (h : setting ≠ gracePeriodMs) (n : Nat) :
    setting.meant n = if n = 0 then setting.value Settings.standard .standard else n := by
  simp only [meant, and_iff_left h]

/-- A limit of the database is in force only where there is a database. -/
theorem inForce?_limit {setting : NumberSetting} (h : setting.isLimit = true)
    (settings : Settings) : setting.inForce? settings =
      settings.postgres.map fun postgres => setting.value settings postgres := if_pos h

end NumberSetting

/-! ### Texts that are numbers -/

/-- The text is a number, with any blanks around it. -/
def SpellsNumber (text : String) (n : Nat) : Prop :=
  ∃ numeral, Padded text.toList numeral ∧ Decimal.IsNumeral numeral n

/-- A result is there just if it is good. -/
theorem toOption_eq_some_iff {ε α : Type} {result : Except ε α} {a : α} :
    result.toOption = some a ↔ result = .ok a := by
  cases result <;> simp [Except.toOption]

/-- The texts that are read are those of numbers below the bound. -/
theorem numberOfText?_eq_some_iff {bound n : Nat} {text : String} :
    numberOfText? bound text = some n ↔ SpellsNumber text n ∧ n < bound := by
  rw [numberOfText?, toOption_eq_some_iff, Decimal.read_eq_ok_iff]
  refine and_congr_left fun _ => ?_
  constructor
  · intro hnumeral
    exact ⟨_, padded_trim text.toList, hnumeral⟩
  · rintro ⟨numeral, hpadded, hnumeral⟩
    rw [trim_padded hpadded hnumeral.trimmed]
    exact hnumeral

/-- A text that is not read is no number below the bound. -/
theorem no_number {bound : Nat} {text : String} (h : numberOfText? bound text = none) :
    ¬∃ n, SpellsNumber text n ∧ n < bound := by
  rintro ⟨n, hnumber⟩
  rw [numberOfText?_eq_some_iff.mpr hnumber] at h
  cases h

/-- What is read of a text comes from a number that the text is. -/
theorem exists_number {α : Type} {f : Nat → α} {bound : Nat} {text : String}
    (h : ((numberOfText? bound text).map f).isSome = true) :
    ∃ n, SpellsNumber text n ∧ n < bound ∧ (numberOfText? bound text).map f = some (f n) := by
  rw [Option.isSome_map] at h
  obtain ⟨n, hn⟩ := Option.isSome_iff_exists.mp h
  obtain ⟨hspells, hbound⟩ := numberOfText?_eq_some_iff.mp hn
  exact ⟨n, hspells, hbound, congrArg (Option.map f) hn⟩

/-- What is offered counts unless it is zero. -/
theorem getD_filter_pos {α : Type} {toNat : α → Nat} {pos : α → Bool}
    (hpos : ∀ a, pos a = true ↔ 0 < toNat a) (a standard : α) :
    toNat (((some a).filter pos).getD standard) =
      if toNat a = 0 then toNat standard else toNat a := by
  by_cases ha : 0 < toNat a
  · have hkeep : (some a).filter pos = some a := Option.filter_some_pos ((hpos a).mpr ha)
    rw [hkeep, if_neg (Nat.ne_of_gt ha)]
    rfl
  · have hdrop : (some a).filter pos = none :=
      Option.filter_some_neg (Bool.eq_false_iff.mpr (mt (hpos a).mp ha))
    rw [hdrop, if_pos (Nat.eq_zero_of_not_pos ha)]
    rfl

/-- A 64-bit number that is given replaces the standard unless it is zero. -/
theorem toNat_getD_positive? {n : Nat} (h : n < 2 ^ 64) (standard : UInt64) :
    ((positive? (some (UInt64.ofNat n))).getD standard).toNat =
      if n = 0 then standard.toNat else n := by
  have hvalue : (UInt64.ofNat n).toNat = n := UInt64.toNat_ofNat_of_lt h
  have hpos : ∀ a : UInt64, decide (0 < a) = true ↔ 0 < a.toNat := fun a => by
    rw [decide_eq_true_iff, UInt64.lt_iff_toNat_lt]
    rfl
  have hcounts := getD_filter_pos hpos (UInt64.ofNat n) standard
  rwa [hvalue] at hcounts

/-- A 32-bit number that is given replaces the standard unless it is zero. -/
theorem toNat_getD_positiveHalf? {n : Nat} (h : n < 2 ^ 32) (standard : UInt32) :
    ((positiveHalf? (some (UInt32.ofNat n))).getD standard).toNat =
      if n = 0 then standard.toNat else n := by
  have hvalue : (UInt32.ofNat n).toNat = n := UInt32.toNat_ofNat_of_lt h
  have hpos : ∀ a : UInt32, decide (0 < a) = true ↔ 0 < a.toNat := fun a => by
    rw [decide_eq_true_iff, UInt32.lt_iff_toNat_lt]
    rfl
  have hcounts := getD_filter_pos hpos (UInt32.ofNat n) standard
  rwa [hvalue] at hcounts

/-! ### What is in force -/

variable {env : Environment} {settings : Settings} {fault : Fault} {text : String}

/-- Settings that an environment gives are its offer, and it can be read. -/
theorem onto_of_ofEnvironment (h : ofEnvironment env = .ok settings) :
    LegibleEnvironment env ∧ settings = (Offer.ofEnvironment env).onto standard := by
  obtain ⟨unchecked, hread, hvalid⟩ := bind_eq_ok.mp h
  obtain ⟨-, rfl⟩ := validate_eq_ok.mp hvalid
  have hlegible := legible_of_readEnvironment hread
  exact ⟨hlegible, Except.ok.inj (hread.symm.trans (readEnvironment_of_legible hlegible))⟩

/-- The database of an environment is offered with its address. -/
theorem postgres_onto (env : Environment) :
    ((Offer.ofEnvironment env).onto standard).postgres =
      (env.text? "WARDEN_PG_URL").map fun url =>
        { url
          maxConnections :=
            (positiveHalf? ((env.text? "WARDEN_PG_MAX_CONNECTIONS").bind halfWordOfText?)).getD
              Postgres.standard.maxConnections
          acquireTimeoutMs :=
            (positive? ((env.text? "WARDEN_PG_ACQUIRE_TIMEOUT_MS").bind wordOfText?)).getD
              Postgres.standard.acquireTimeoutMs } := by
  unfold Offer.onto Offer.ofEnvironment
  cases env.text? "WARDEN_PG_URL" <;> rfl

/-- A number that is set is in force. The limits of a database need its address. -/
theorem inForce?_of_ofEnvironment {setting : NumberSetting}
    (h : ofEnvironment env = .ok settings) (hset : env.text? setting.name = some text)
    (hcounts : setting.isLimit = true → env.text? "WARDEN_PG_URL" ≠ none) :
    ∃ n, SpellsNumber text n ∧ n < setting.bound ∧
      setting.inForce? settings = some (setting.meant n) := by
  obtain ⟨hlegible, rfl⟩ := onto_of_ofEnvironment h
  have hword : setting.name ∈ numberNames → ∃ n, SpellsNumber text n ∧ n < 2 ^ 64 ∧
      (env.text? setting.name).bind wordOfText? = some (UInt64.ofNat n) := fun hname => by
    have hsome := hlegible.numbers _ hname text hset
    rw [hset]
    exact exists_number hsome
  cases setting with
  | gracePeriodMs =>
    obtain ⟨n, hspells, hbound, hn⟩ := hword (by decide)
    have hvalue : ((some (UInt64.ofNat n)).getD Settings.standard.gracePeriodMs).toNat = n :=
      UInt64.toNat_ofNat_of_lt hbound
    rw [← hn] at hvalue
    refine ⟨n, hspells, hbound, ?_⟩
    rw [NumberSetting.meant, if_neg fun hzero => hzero.2 rfl]
    exact congrArg some hvalue
  | maxConnections =>
    obtain ⟨url, hurl⟩ := Option.ne_none_iff_exists'.mp (hcounts rfl)
    obtain ⟨n, hspells, hbound, hn⟩ :=
      exists_number ((hlegible.limits (hcounts rfl)).1 text hset)
    have hvalue := toNat_getD_positiveHalf? hbound Postgres.standard.maxConnections
    rw [← hn] at hvalue
    refine ⟨n, hspells, hbound, ?_⟩
    rw [NumberSetting.meant_of_ne (by decide), NumberSetting.inForce?_limit rfl, postgres_onto,
      hurl, show env.text? "WARDEN_PG_MAX_CONNECTIONS" = some text from hset]
    exact congrArg some hvalue
  | acquireTimeoutMs =>
    obtain ⟨url, hurl⟩ := Option.ne_none_iff_exists'.mp (hcounts rfl)
    obtain ⟨n, hspells, hbound, hn⟩ :=
      exists_number ((hlegible.limits (hcounts rfl)).2 text hset)
    have hvalue := toNat_getD_positive? hbound Postgres.standard.acquireTimeoutMs
    rw [← hn] at hvalue
    refine ⟨n, hspells, hbound, ?_⟩
    rw [NumberSetting.meant_of_ne (by decide), NumberSetting.inForce?_limit rfl, postgres_onto,
      hurl, show env.text? "WARDEN_PG_ACQUIRE_TIMEOUT_MS" = some text from hset]
    exact congrArg some hvalue
  | _ =>
    -- The other numbers are read alike.
    obtain ⟨n, hspells, hbound, hn⟩ := hword (by decide)
    have hvalue := fun standard => toNat_getD_positive? hbound standard
    rw [← hn] at hvalue
    refine ⟨n, hspells, hbound, ?_⟩
    rw [NumberSetting.meant_of_ne (by decide)]
    exact congrArg some (hvalue _)

/-- Without an address there is no database, so nothing stands in place of a limit. -/
theorem postgres_of_ofEnvironment (h : ofEnvironment env = .ok settings)
    (hurl : env.text? "WARDEN_PG_URL" = none) : settings.postgres = none := by
  obtain ⟨-, rfl⟩ := onto_of_ofEnvironment h
  rw [postgres_onto, hurl]
  rfl

/-! ### What is at fault -/

/-- The fault names a variable whose text cannot be read, and says why, or the address of the
database is missing. -/
inductive Blames (env : Environment) : Fault → Prop where
  | address {name text : String} (known : name ∈ addressNames) (set : env.text? name = some text)
      (unreadable : SocketAddress.parse? text = none) : Blames env (.address name)
  | backend {text : String} (set : env.text? "WARDEN_STORE_BACKEND" = some text)
      (unknown : Backend.parse? text = none) : Blames env (.backend "WARDEN_STORE_BACKEND" text)
  | number {setting : NumberSetting} {text : String} {fault : Decimal.Fault}
      (set : env.text? setting.name = some text)
      (counts : setting.isLimit = true → env.text? "WARDEN_PG_URL" ≠ none)
      (unreadable : ¬∃ n, SpellsNumber text n ∧ n < setting.bound)
      (why : Decimal.read setting.bound (trim text.toList) = .error fault) :
      Blames env (.number setting.name fault)
  | stranded (stranded : Stranded env) : Blames env .missingUrl

/-- A fault over an address is the blame of its variable. -/
theorem blames_of_addressOr {name : String} {standard : SocketAddress}
    (known : name ∈ addressNames) (h : addressOr env name standard = .error fault) :
    Blames env fault := by
  unfold addressOr at h
  split at h
  · cases h
  next text hset =>
    split at h
    · cases h
    next hparse =>
      cases h
      exact .address known hset hparse

/-- A fault over the backend is the blame of its variable. -/
theorem blames_of_backendFrom (h : backendFrom "WARDEN_STORE_BACKEND"
    (env.text? "WARDEN_STORE_BACKEND") standard.storage = .error fault) : Blames env fault := by
  unfold backendFrom at h
  split at h
  next text hset =>
    unfold backendOf at h
    split at h
    · cases h
    next hparse =>
      cases h
      exact .backend hset hparse
  · cases h

/-- A fault over a number is the blame of its variable, which is then a setting that counts. -/
theorem blames_of_numberOf? (setting : NumberSetting)
    (counts : setting.isLimit = true → env.text? "WARDEN_PG_URL" ≠ none)
    (h : numberOf? env setting.name setting.bound = .error fault) : Blames env fault := by
  unfold numberOf? at h
  split at h
  · cases h
  next text hset =>
    split at h
    · cases h
    next reason hread =>
      cases h
      exact .number hset counts (no_number (congrArg Except.toOption hread)) hread

/-- So is a fault over a number with a standard. -/
theorem blames_of_wordOr (setting : NumberSetting) (hbound : setting.bound = 2 ^ 64)
    (counts : setting.isLimit = true → env.text? "WARDEN_PG_URL" ≠ none) {standard : UInt64}
    (h : wordOr env setting.name standard = .error fault) : Blames env fault := by
  rw [wordOr, map_eq_error, wordOf?, map_eq_error] at h
  refine blames_of_numberOf? setting counts ?_
  rw [hbound]
  exact h

/-- A fault over the database is the blame of one of its limits, and they count only with its
address. -/
theorem blames_of_postgresOf? (h : postgresOf? env = .error fault) : Blames env fault := by
  unfold postgresOf? at h
  split at h
  · cases h
  next url hurl =>
    have hcounts : ∀ setting : NumberSetting, setting.isLimit = true →
        env.text? "WARDEN_PG_URL" ≠ none := fun _ _ => hurl ▸ Option.some_ne_none url
    rw [bind_eq_error] at h
    rcases h with h | ⟨connections, -, h⟩
    · exact blames_of_numberOf? .maxConnections (hcounts _) h
    · rw [bind_eq_error] at h
      rcases h with h | ⟨timeout, -, h⟩
      · exact blames_of_wordOr .acquireTimeoutMs rfl (hcounts _) h
      · cases h

/-- Whatever is read first of what cannot be read, the error names it. -/
theorem blames_of_readEnvironment (h : readEnvironment env = .error fault) : Blames env fault := by
  have hword : ∀ (setting : NumberSetting) (standard : UInt64), setting.isLimit = false →
      wordOr env setting.name standard = .error fault → Blames env fault := by
    intro setting standard hlimit h
    have hbound : setting.bound = 2 ^ 64 := by
      cases setting <;> first | rfl | cases hlimit
    refine blames_of_wordOr setting hbound (fun hcounts => ?_) h
    exact absurd (hlimit.symm.trans hcounts) Bool.false_ne_true
  unfold readEnvironment at h
  rcases bind_eq_error.mp h with h | ⟨_, -, h⟩
  · exact blames_of_addressOr (by decide) h
  rcases bind_eq_error.mp h with h | ⟨_, -, h⟩
  · exact blames_of_addressOr (by decide) h
  -- The rest is the same whether or not the backend is set.
  split at h
  all_goals
    next hset =>
    simp only [bind_eq_error] at h
    rcases h with h | ⟨_, -, h | ⟨_, -, h | ⟨_, -, h | ⟨_, -, h | ⟨_, -, h | ⟨_, -, h |
      ⟨_, -, h | ⟨_, -, h | ⟨_, -, h | ⟨_, -, h | ⟨_, -, h⟩⟩⟩⟩⟩⟩⟩⟩⟩⟩⟩
    · apply blames_of_backendFrom
      rw [hset]
      exact h
    · exact blames_of_postgresOf? h
    · exact hword .nonceTtlMs _ rfl h
    · exact hword .handshakeTimeoutMs _ rfl h
    · exact hword .maxLineBytes _ rfl h
    · exact hword .heartbeatIntervalMs _ rfl h
    · rw [wordOf?, map_eq_error] at h
      exact blames_of_numberOf? .gracePeriodMs (fun hcounts => absurd hcounts Bool.false_ne_true) h
    · exact hword .sweepIntervalMs _ rfl h
    · exact hword .poisonRetentionSecs _ rfl h
    · exact hword .diagnosticCapacity _ rfl h
    · exact hword .diagnosticWindowMs _ rfl h
    · cases h

/-- An error of an environment names what is at fault. -/
theorem blames_of_ofEnvironment (h : ofEnvironment env = .error fault) : Blames env fault := by
  rcases bind_eq_error.mp h with hread | ⟨unchecked, hread, hvalid⟩
  · exact blames_of_readEnvironment hread
  · have hlegible := legible_of_readEnvironment hread
    rw [ofEnvironment_of_legible hlegible, validate] at h
    split at h
    · cases h
    next hstorage =>
      cases h
      rw [hasStorage_eq_true_iff, hasDatabase_merged_nothing, not_not] at hstorage
      exact .stranded hstorage

/-! ### Numbers that are set -/

/-- **A number that is set is in force, or else there is an error.** Take any environment.

* A variable that is set to a text gives the setting the number that the text is, with any blanks
  around it, in the range of the setting; zero asks for the standard, except as a grace period. For
  the limits of a database this holds where its address is set.
* If the text is no such number, there is an error.
* Where the address of a database is not set, there is no database, and so no limit of one.
* There is an error only if something that is set cannot be read, or if there is no address for
  the database that is asked for; and the error says which. -/
theorem numbers_of_environment (env : Environment) :
    (∀ (setting : NumberSetting) (text : String),
      env setting.name = some (Utf8.encodeString text) →
      (setting.isLimit = true → env.text? "WARDEN_PG_URL" ≠ none) →
      (∀ settings, ofEnvironment env = .ok settings → ∃ n, SpellsNumber text n ∧
        n < setting.bound ∧ setting.inForce? settings = some (setting.meant n)) ∧
      ((¬∃ n, SpellsNumber text n ∧ n < setting.bound) →
        ∃ fault, ofEnvironment env = .error fault)) ∧
    (env.text? "WARDEN_PG_URL" = none →
      ∀ settings, ofEnvironment env = .ok settings → settings.postgres = none) ∧
    ∀ fault, ofEnvironment env = .error fault → Blames env fault := by
  refine ⟨?_, ?_, ?_⟩
  · intro setting text hbytes hcounts
    have hset : env.text? setting.name = some text := by
      rw [Environment.text?, hbytes, Option.bind_some, Utf8.decodeString?_encodeString]
    have hforce := fun settings (h : ofEnvironment env = .ok settings) =>
      inForce?_of_ofEnvironment h hset hcounts
    refine ⟨hforce, ?_⟩
    intro hnone
    -- Settings that are given have the number in force, so the text would be one.
    cases hread : ofEnvironment env with
    | error fault => exact ⟨fault, rfl⟩
    | ok settings =>
      obtain ⟨n, hspells, hbound, -⟩ := hforce settings hread
      exact absurd ⟨n, hspells, hbound⟩ hnone
  · intro hurl settings h
    exact postgres_of_ofEnvironment h hurl
  · intro fault
    exact blames_of_ofEnvironment

/-- A grace period of zero counts, a limit of connections has blanks and a plus sign around it,
and seconds are no number. -/
theorem numbers_of_environment_set :
    let env := environmentOf [("WARDEN_GRACE_PERIOD_MS", "0"), ("WARDEN_PG_URL", "postgres://db"),
      ("WARDEN_PG_MAX_CONNECTIONS", " +7\n")]
    (∀ settings, ofEnvironment env = .ok settings →
      (∃ n, SpellsNumber "0" n ∧ n < 2 ^ 64 ∧
        settings.gracePeriodMs.toNat = NumberSetting.gracePeriodMs.meant n) ∧
      ∃ n, SpellsNumber " +7\n" n ∧ n < 2 ^ 32 ∧
        NumberSetting.maxConnections.inForce? settings =
          some (NumberSetting.maxConnections.meant n)) ∧
    ∃ fault, ofEnvironment (environmentOf [("WARDEN_GRACE_PERIOD_MS", "30s")]) = .error fault := by
  intro env
  obtain ⟨hnumbers, -⟩ := numbers_of_environment env
  have hurl : env.text? "WARDEN_PG_URL" ≠ none := by decide +kernel
  refine ⟨fun settings h => ⟨?_, ?_⟩, ?_⟩
  · obtain ⟨n, hspells, hbound, hforce⟩ :=
      (hnumbers .gracePeriodMs "0" (by decide +kernel) nofun).1 settings h
    exact ⟨n, hspells, hbound, Option.some.inj hforce⟩
  · exact (hnumbers .maxConnections " +7\n" (by decide +kernel) fun _ => hurl).1 settings h
  · have hnone : ¬∃ n, SpellsNumber "30s" n ∧ n < NumberSetting.gracePeriodMs.bound :=
      no_number (by decide +kernel)
    exact ((numbers_of_environment _).1 .gracePeriodMs "30s" (by decide +kernel) nofun).2 hnone

/-- Two values that are set and are no numbers are passed over: a limit of a database that has no
address, and bytes that are no text. -/
theorem unread_numbers :
    (ofEnvironment (environmentOf [("WARDEN_PG_MAX_CONNECTIONS", "30s")]) = .ok .standard ∧
      ¬∃ n, SpellsNumber "30s" n ∧ n < NumberSetting.maxConnections.bound) ∧
    ofEnvironment (fun name => if name = "WARDEN_DIAGNOSTIC_CAPACITY" then some [0xff] else none) =
      .ok .standard ∧
    ∀ text, Utf8.encodeString text ≠ [0xff] := by
  refine ⟨⟨by decide +kernel, no_number (by decide +kernel)⟩, by decide +kernel, ?_⟩
  intro text hbytes
  have htext := Utf8.decodeString?_encodeString text
  rw [hbytes, show Utf8.decodeString? [0xff] = none by decide +kernel] at htext
  cases htext

end Gatekeeper.Settings
