import Gatekeeper.Proofs.Settings.Offer

/-!
# `Gatekeeper.Proofs.Settings.Precedence`: which source wins

A setting is what the file gives, or else what the environment gives, or else the standard. The
environment and the file are read by code of their own, so that a setting may mean one thing in
one and another thing in the other. It does not: whatever moves from a variable to the
field of the same setting leaves all settings as they were.

* `Moves`, `Moved`: settings that move from an environment to a file.
* `moved_or`: sources that settings have moved between offer the same together.
* `listed_intercalate`: any keys can move, as they can be listed in a variable.
* `precedence_of_load`: what is loaded is merged, and does not depend on where settings are.
-/

set_option autoImplicit false

namespace Gatekeeper.Settings

open Gatekeeper.Text Gatekeeper.Net

/-! ### Settings that move -/

/-- A setting stays where it is, or moves from its variable to its field, which was empty. The
text of the variable and the value in the field have the same meaning. -/
inductive Moves {α : Type} (same : String → α → Prop) (text text' : Option String)
    (field field' : Option α) : Prop where
  | stays (htext : text' = text) (hfield : field' = field) : Moves same text text' field field'
  | goes {t : String} {a : α} (hsame : same t a) (hset : text = some t) (hempty : field = none)
      (hunset : text' = none) (hgiven : field' = some a) : Moves same text text' field field'

/-- The settings of a database stay, or they move with its address. The file keeps what it gave of
them before, a limit of zero apart. -/
inductive MovesDatabase (env env' : Environment) (field field' : Option PostgresOverride) :
    Prop where
  | stays (htext : ∀ name ∈ ["WARDEN_PG_URL", "WARDEN_PG_MAX_CONNECTIONS",
        "WARDEN_PG_ACQUIRE_TIMEOUT_MS"], env'.text? name = env.text? name)
      (hfield : field' = field) : MovesDatabase env env' field field'
  | goes {url : String} (hset : env.text? "WARDEN_PG_URL" = some url)
      (hunset : env'.text? "WARDEN_PG_URL" = none)
      (hgiven : field' = some
        { url := (field.bind (·.url)).or (some url)
          maxConnections := (positiveHalf? (field.bind (·.maxConnections))).or
            ((env.text? "WARDEN_PG_MAX_CONNECTIONS").bind halfWordOfText?)
          acquireTimeoutMs := (positive? (field.bind (·.acquireTimeoutMs))).or
            ((env.text? "WARDEN_PG_ACQUIRE_TIMEOUT_MS").bind wordOfText?) }) :
      MovesDatabase env env' field field'

/-- A text and the number that it spells. -/
def IsNumber (text : String) (n : UInt64) : Prop := wordOfText? text = some n

/-- Two texts with one reading. -/
def ReadAlike {β : Type} (read : String → Option β) (text text' : String) : Prop :=
  read text' = read text

/-- A text and the keys that it lists. -/
def AreKeys (text : String) (keys : List String) : Prop := keys = listed text

/-- Any of the settings have moved from the first environment to the file, which leaves the
second environment and what the file gives then. -/
structure Moved (env env' : Environment) (given given' : Override) : Prop where
  listen : Moves (ReadAlike SocketAddress.parse?) (env.text? "WARDEN_LISTEN_BIND")
    (env'.text? "WARDEN_LISTEN_BIND") given.listen given'.listen
  metrics : Moves (ReadAlike SocketAddress.parse?) (env.text? "WARDEN_BROKER_METRICS_BIND")
    (env'.text? "WARDEN_BROKER_METRICS_BIND") given.metrics given'.metrics
  authRequired : Moves (fun t required => required = decide (t ∉ ["0", "false", "no"]))
    (env.text? "WARDEN_AUTH_REQUIRED") (env'.text? "WARDEN_AUTH_REQUIRED") given.authRequired
    given'.authRequired
  allowedKeys : Moves AreKeys (env.text? "WARDEN_ALLOWED_KEYS") (env'.text? "WARDEN_ALLOWED_KEYS")
    given.allowedKeys given'.allowedKeys
  trustedKeys : Moves AreKeys (env.text? "WARDEN_TRUSTED_KEYS") (env'.text? "WARDEN_TRUSTED_KEYS")
    given.trustedKeys given'.trustedKeys
  nonceTtlMs : Moves IsNumber (env.text? "WARDEN_NONCE_TTL_MS") (env'.text? "WARDEN_NONCE_TTL_MS")
    given.nonceTtlMs given'.nonceTtlMs
  handshakeTimeoutMs : Moves IsNumber (env.text? "WARDEN_HANDSHAKE_TIMEOUT_MS")
    (env'.text? "WARDEN_HANDSHAKE_TIMEOUT_MS") given.handshakeTimeoutMs given'.handshakeTimeoutMs
  maxLineBytes : Moves IsNumber (env.text? "WARDEN_MAX_LINE_BYTES")
    (env'.text? "WARDEN_MAX_LINE_BYTES") given.maxLineBytes given'.maxLineBytes
  serverSeedFile : Moves (fun t path => path = t) (env.text? "WARDEN_SERVER_SEED_FILE")
    (env'.text? "WARDEN_SERVER_SEED_FILE") given.serverSeedFile given'.serverSeedFile
  heartbeatIntervalMs : Moves IsNumber (env.text? "WARDEN_HEARTBEAT_INTERVAL_MS")
    (env'.text? "WARDEN_HEARTBEAT_INTERVAL_MS") given.heartbeatIntervalMs
    given'.heartbeatIntervalMs
  gracePeriodMs : Moves IsNumber (env.text? "WARDEN_GRACE_PERIOD_MS")
    (env'.text? "WARDEN_GRACE_PERIOD_MS") given.gracePeriodMs given'.gracePeriodMs
  sweepIntervalMs : Moves IsNumber (env.text? "WARDEN_SWEEP_INTERVAL_MS")
    (env'.text? "WARDEN_SWEEP_INTERVAL_MS") given.sweepIntervalMs given'.sweepIntervalMs
  poisonRetentionSecs : Moves IsNumber (env.text? "WARDEN_POISON_RETENTION_SECS")
    (env'.text? "WARDEN_POISON_RETENTION_SECS") given.poisonRetentionSecs
    given'.poisonRetentionSecs
  diagnosticCapacity : Moves IsNumber (env.text? "WARDEN_DIAGNOSTIC_CAPACITY")
    (env'.text? "WARDEN_DIAGNOSTIC_CAPACITY") given.diagnosticCapacity given'.diagnosticCapacity
  diagnosticWindowMs : Moves IsNumber (env.text? "WARDEN_DIAGNOSTIC_WINDOW_MS")
    (env'.text? "WARDEN_DIAGNOSTIC_WINDOW_MS") given.diagnosticWindowMs given'.diagnosticWindowMs
  storage : Moves (ReadAlike Backend.parse?) (env.text? "WARDEN_STORE_BACKEND")
    (env'.text? "WARDEN_STORE_BACKEND") given.storage given'.storage
  postgres : MovesDatabase env env' given.postgres given'.postgres

/-! ### What moves is offered as before -/

/-- Whatever is read of a variable and of a field, by whichever rule: if the two rules agree on what
moves, then the setting is offered as before. -/
theorem Moves.offered {α β : Type} {same : String → α → Prop} {text text' : Option String}
    {field field' : Option α} (h : Moves same text text' field field')
    (ofField : Option α → Option β) (ofText : Option String → Option β)
    (hempty : ofField none = none) (hunset : ofText none = none)
    (hsame : ∀ t a, same t a → ofField (some a) = ofText (some t)) :
    (ofField field').or (ofText text') = (ofField field).or (ofText text) := by
  cases h with
  | stays htext hfield => rw [htext, hfield]
  | @goes t a h hset hnone hunset' hgiven =>
    rw [hgiven, hunset', hset, hnone, hempty, hunset, hsame t a h, Option.or_none, Option.none_or]

section
variable {text text' : Option String}

/-- A number that moves to the file is offered from there. -/
theorem Moves.offered_number {field field' : Option UInt64}
    (h : Moves IsNumber text text' field field') :
    field'.or (text'.bind wordOfText?) = field.or (text.bind wordOfText?) :=
  h.offered id (·.bind wordOfText?) rfl rfl fun _ _ hn => hn.symm

/-- A number that moves to the file, where zero asks for the standard, is offered from there. -/
theorem Moves.offered_positive {field field' : Option UInt64}
    (h : Moves IsNumber text text' field field') :
    (positive? field').or (positive? (text'.bind wordOfText?)) =
      (positive? field).or (positive? (text.bind wordOfText?)) :=
  h.offered positive? (fun text => positive? (text.bind wordOfText?)) rfl rfl
    fun _ _ hn => congrArg positive? hn.symm

/-- A text that moves to the file is offered from there, read in the same way. -/
theorem Moves.offered_read {β : Type} {read : String → Option β} {field field' : Option String}
    (h : Moves (ReadAlike read) text text' field field') :
    (field'.bind read).or (text'.bind read) = (field.bind read).or (text.bind read) :=
  h.offered (·.bind read) (·.bind read) rfl rfl fun _ _ hread => hread

/-- A list of keys that moves to the file is offered from there. -/
theorem Moves.offered_keys {field field' : Option (List String)}
    (h : Moves AreKeys text text' field field') :
    field'.or (text'.map listed) = field.or (text.map listed) :=
  h.offered id (·.map listed) rfl rfl fun _ _ hkeys => congrArg some hkeys

end

/-- Zeros of the file are passed over, and passing them over twice is no different. -/
theorem positiveHalf?_or (first second : Option UInt32) :
    positiveHalf? ((positiveHalf? first).or second) =
      (positiveHalf? first).or (positiveHalf? second) := by
  rcases first with - | n
  · rfl
  · by_cases hn : 0 < n <;> simp [positiveHalf?, Option.filter, hn]

/-- So are zeros of 64 bits. -/
theorem positive?_or (first second : Option UInt64) :
    positive? ((positive? first).or second) = (positive? first).or (positive? second) := by
  rcases first with - | n
  · rfl
  · by_cases hn : 0 < n <;> simp [positive?, Option.filter, hn]

/-- A database that moves to the file is offered from there, field by field. -/
theorem MovesDatabase.offered {env env' : Environment} {given given' : Override}
    (h : MovesDatabase env env' given.postgres given'.postgres) :
    ((Offer.ofFile given').or (Offer.ofEnvironment env')).postgres =
      ((Offer.ofFile given).or (Offer.ofEnvironment env)).postgres := by
  unfold Offer.or Offer.ofFile Offer.ofEnvironment
  dsimp only
  cases h with
  | stays htext hfield =>
    rw [hfield, htext _ (by decide), htext _ (by decide), htext _ (by decide)]
  | goes hset hunset hgiven =>
    rw [hgiven, hset, hunset]
    cases given.postgres with
    | none => rfl
    | some first => simp [Option.merge, PostgresOverride.or, positiveHalf?_or, positive?_or]

/-- Sources that settings have moved between offer the same together. -/
theorem moved_or {env env' : Environment} {given given' : Override}
    (h : Moved env env' given given') :
    (Offer.ofFile given').or (Offer.ofEnvironment env') =
      (Offer.ofFile given).or (Offer.ofEnvironment env) := by
  apply Offer.ext
  case listen => exact h.listen.offered_read
  case metrics => exact h.metrics.offered_read
  case authRequired =>
    exact h.authRequired.offered id (·.map fun t => decide (t ∉ ["0", "false", "no"])) rfl rfl
      fun _ _ hrequired => congrArg some hrequired
  case allowedKeys => exact h.allowedKeys.offered_keys
  case trustedKeys => exact h.trustedKeys.offered_keys
  case nonceTtlMs => exact h.nonceTtlMs.offered_positive
  case handshakeTimeoutMs => exact h.handshakeTimeoutMs.offered_positive
  case maxLineBytes => exact h.maxLineBytes.offered_positive
  case serverSeedFile =>
    exact h.serverSeedFile.offered id id rfl rfl fun _ _ hpath => congrArg some hpath
  case heartbeatIntervalMs => exact h.heartbeatIntervalMs.offered_positive
  case gracePeriodMs => exact h.gracePeriodMs.offered_number
  case sweepIntervalMs => exact h.sweepIntervalMs.offered_positive
  case poisonRetentionSecs => exact h.poisonRetentionSecs.offered_positive
  case diagnosticCapacity => exact h.diagnosticCapacity.offered_positive
  case diagnosticWindowMs => exact h.diagnosticWindowMs.offered_positive
  case storage => exact h.storage.offered_read
  case postgres => exact h.postgres.offered

/-! ### Keys that are listed -/

/-- A key that a list can hold: not empty, without commas and without blanks around it. -/
structure IsKey (key : String) : Prop where
  ne_empty : key ≠ ""
  trimmed : trim key.toList = key.toList
  no_comma : ',' ∉ key.toList

/-- Keys with commas between them are listed as they are. -/
theorem listed_intercalate {keys : List String} (h : ∀ key ∈ keys, IsKey key) :
    listed (",".intercalate keys) = keys := by
  cases keys with
  | nil => rfl
  | cons key keys =>
    -- Splitting, trimming and dropping empty parts each leave a key alone.
    have hcommas : ∀ cs ∈ (key :: keys).map String.toList, ',' ∉ cs :=
      List.forall_mem_map.mpr fun key hkey => (h key hkey).no_comma
    have htrim : ((key :: keys).map String.toList).map trim = (key :: keys).map String.toList := by
      rw [List.map_map]
      exact List.map_congr_left fun key hkey => (h key hkey).trimmed
    have hkeep : ((key :: keys).map String.toList).filter (!·.isEmpty) =
        (key :: keys).map String.toList := by
      refine List.filter_eq_self.mpr (List.forall_mem_map.mpr fun key hkey => ?_)
      simpa using (h key hkey).ne_empty
    have hcommaList : ",".toList = [','] := rfl
    rw [listed, String.toList_intercalate, hcommaList,
      List.splitOn_intercalate ',' hcommas (List.cons_ne_nil _ _), htrim, hkeep, List.map_map]
    exact List.map_id'' (fun _ => String.ofList_toList) _

/-! ### Precedence -/

/-- **The file comes first, then the environment.** Take settings that were loaded.

* Each of them is what the file gives, or else what the environment gives, or else the standard.
* They stay the same when any of them move from the environment to the file.
* Keys are among what can move: any keys that a list can hold are listed in some variable. -/
theorem precedence_of_load {env : Environment} {files : Files} {settings : Settings}
    (h : load env files = .ok settings) :
    ∃ given, Gives env files given ∧ settings = merged env given ∧
      (∀ env' files' given' settings', Moved env env' given given' →
        Gives env' files' given' → load env' files' = .ok settings' → settings' = settings) ∧
      ∀ keys, (∀ key ∈ keys, IsKey key) → listed (",".intercalate keys) = keys := by
  obtain ⟨given, hgives, hmerged⟩ := merged_of_load h
  refine ⟨given, hgives, hmerged, fun env' files' given' settings' hmoved hgives' h' => ?_,
    fun keys => listed_intercalate⟩
  obtain ⟨given'', hgives'', hmerged'⟩ := merged_of_load h'
  cases hgives'.unique hgives''
  rw [hmerged', hmerged, merged, merged, moved_or hmoved]

/-- A grace period of zero and two keys, in the environment or in a file. -/
theorem precedence_of_load_moved : ∃ settings,
    load (environmentOf [("WARDEN_GRACE_PERIOD_MS", "0"), ("WARDEN_ALLOWED_KEYS", " A , ,B")])
      (fun _ => .error .missing) = .ok settings ∧
    settings.gracePeriodMs = 0 ∧ settings.allowedKeys = ["A", "B"] ∧
    ∀ settings', load (environmentOf [("WARDEN_BROKER_CONFIG", "f")])
        (fun _ => .ok (Utf8.encodeString "grace_period_ms: 0\nallowed_keys: [A, B]\n")) =
      .ok settings' → settings' = settings := by
  have hload : load
      (environmentOf [("WARDEN_GRACE_PERIOD_MS", "0"), ("WARDEN_ALLOWED_KEYS", " A , ,B")])
      (fun _ => .error .missing) =
        .ok { standard with gracePeriodMs := 0, allowedKeys := ["A", "B"] } := by decide +kernel
  have hnamed : (environmentOf [("WARDEN_BROKER_CONFIG", "f")]).text? "WARDEN_BROKER_CONFIG" =
      some "f" := by decide +kernel
  refine ⟨_, hload, rfl, rfl, fun settings' h' => ?_⟩
  obtain ⟨given, hgives, -, hmoved, -⟩ := precedence_of_load hload
  -- The first environment names no file.
  cases hgives.unique (.nothing (by decide +kernel))
  refine hmoved _ _ { Override.nothing with
    gracePeriodMs := some 0, allowedKeys := some ["A", "B"] } _ ?_
    (.ofText "grace_period_ms: 0\nallowed_keys: [A, B]\n" hnamed (by decide +kernel)) h'
  constructor
  case allowedKeys =>
    have hsame : AreKeys " A , ,B" ["A", "B"] := by unfold AreKeys; decide +kernel
    exact .goes hsame (by decide +kernel) rfl (by decide +kernel) rfl
  case gracePeriodMs =>
    have hsame : IsNumber "0" 0 := by unfold IsNumber; decide +kernel
    exact .goes hsame (by decide +kernel) rfl (by decide +kernel) rfl
  case postgres => exact .stays (by decide +kernel) rfl
  all_goals exact .stays rfl rfl

end Gatekeeper.Settings
