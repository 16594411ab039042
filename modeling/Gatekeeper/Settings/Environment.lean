import Gatekeeper.Settings.Basic
import Gatekeeper.Text.Utf8

/-!
# `Gatekeeper.Settings.Environment`: settings from the environment

Each setting has a variable. A variable that is not set, or that is no text, leaves
the standard value; one that is set to anything malformed is an error. Zero leaves
the standard value too, except for the grace period.

* `Settings.ofEnvironment`: the settings of an environment.
-/

set_option autoImplicit false

namespace Gatekeeper

open Gatekeeper.Text Gatekeeper.Net

/-- The bytes of each variable that is set. -/
abbrev Environment := String → Option (List UInt8)

namespace Environment

/-- The text of a variable, if it is set to one. -/
def text? (env : Environment) (name : String) : Option String :=
  (env name).bind Utf8.decodeString?

end Environment

namespace Settings

open Environment

/-- The variables that settings come from. -/
def variableNames : List String :=
  ["WARDEN_BROKER_CONFIG", "WARDEN_LISTEN_BIND", "WARDEN_BROKER_METRICS_BIND",
    "WARDEN_AUTH_REQUIRED", "WARDEN_ALLOWED_KEYS", "WARDEN_TRUSTED_KEYS", "WARDEN_NONCE_TTL_MS",
    "WARDEN_HANDSHAKE_TIMEOUT_MS", "WARDEN_MAX_LINE_BYTES", "WARDEN_SERVER_SEED_FILE",
    "WARDEN_HEARTBEAT_INTERVAL_MS", "WARDEN_GRACE_PERIOD_MS", "WARDEN_SWEEP_INTERVAL_MS",
    "WARDEN_POISON_RETENTION_SECS", "WARDEN_DIAGNOSTIC_CAPACITY", "WARDEN_DIAGNOSTIC_WINDOW_MS",
    "WARDEN_STORE_BACKEND", "WARDEN_PG_URL", "WARDEN_PG_MAX_CONNECTIONS",
    "WARDEN_PG_ACQUIRE_TIMEOUT_MS"]

/-- The number below `bound` of a variable, if it is set. Blanks around it do not
matter. -/
def numberOf? (env : Environment) (name : String) (bound : Nat) : Except Fault (Option Nat) :=
  match env.text? name with
  | none => .ok none
  | some text =>
    match Decimal.read bound (trim text.toList) with
    | .ok n => .ok (some n)
    | .error fault => .error (.number name fault)

/-- The number of a variable of 64 bits, if it is set. -/
def wordOf? (env : Environment) (name : String) : Except Fault (Option UInt64) :=
  (numberOf? env name 18446744073709551616).map (·.map UInt64.ofNat)

/-- A number that zero does not set. -/
def positive? (n : Option UInt64) : Option UInt64 := n.filter (0 < ·)

/-- The number of a variable of 64 bits, or the standard where it is not set or zero. -/
def wordOr (env : Environment) (name : String) (standard : UInt64) : Except Fault UInt64 :=
  (wordOf? env name).map fun n => (positive? n).getD standard

/-- The address of a variable, or the standard where it is not set. -/
def addressOr (env : Environment) (name : String) (standard : SocketAddress) :
    Except Fault SocketAddress :=
  match env.text? name with
  | none => .ok standard
  | some text =>
    match SocketAddress.parse? text with
    | some address => .ok address
    | none => .error (.address name)

/-- The backend of a name. -/
def backendOf (place text : String) : Except Fault Backend :=
  match Backend.parse? text with
  | some backend => .ok backend
  | none => .error (.backend place text)

/-- The parts of a text between the separators in it. -/
def splitAt (separator : Char) : List Char → List (List Char)
  | [] => [[]]
  | c :: rest =>
    if c = separator then [] :: splitAt separator rest
    else
      match splitAt separator rest with
      | part :: parts => (c :: part) :: parts
      | [] => [[c]]

/-- The texts between the commas of a variable, without the blanks around them and
without empty ones. -/
def keysOf (env : Environment) (name : String) : List String :=
  match env.text? name with
  | none => []
  | some text =>
    (((splitAt ',' text.toList).map trim).filter (!·.isEmpty)).map String.ofList

/-- The texts that turn authentication off. -/
def turnsOff (text : String) : Bool := text = "0" || text = "false" || text = "no"

/-- The database of an environment, if its address is set. Its limits count only
then. -/
def postgresOf? (env : Environment) : Except Fault (Option Postgres) :=
  match env.text? "WARDEN_PG_URL" with
  | none => .ok none
  | some url => do
    let connections ← numberOf? env "WARDEN_PG_MAX_CONNECTIONS" 4294967296
    let timeout ← wordOr env "WARDEN_PG_ACQUIRE_TIMEOUT_MS" Postgres.standard.acquireTimeoutMs
    let connections := (connections.map UInt32.ofNat).filter (0 < ·)
    .ok (some ⟨url, connections.getD Postgres.standard.maxConnections, timeout⟩)

/-- The settings of an environment, before they are validated. -/
def readEnvironment (env : Environment) : Except Fault Settings := do
  let listen ← addressOr env "WARDEN_LISTEN_BIND" standard.listen
  let metrics ← addressOr env "WARDEN_BROKER_METRICS_BIND" standard.metrics
  let storage ← match env.text? "WARDEN_STORE_BACKEND" with
    | some text => backendOf "WARDEN_STORE_BACKEND" text
    | none => .ok standard.storage
  let postgres ← postgresOf? env
  let nonceTtlMs ← wordOr env "WARDEN_NONCE_TTL_MS" standard.nonceTtlMs
  let handshakeTimeoutMs ←
    wordOr env "WARDEN_HANDSHAKE_TIMEOUT_MS" standard.handshakeTimeoutMs
  let maxLineBytes ← wordOr env "WARDEN_MAX_LINE_BYTES" standard.maxLineBytes
  let heartbeatIntervalMs ←
    wordOr env "WARDEN_HEARTBEAT_INTERVAL_MS" standard.heartbeatIntervalMs
  let gracePeriodMs ← wordOf? env "WARDEN_GRACE_PERIOD_MS"
  let sweepIntervalMs ← wordOr env "WARDEN_SWEEP_INTERVAL_MS" standard.sweepIntervalMs
  let poisonRetentionSecs ←
    wordOr env "WARDEN_POISON_RETENTION_SECS" standard.poisonRetentionSecs
  let diagnosticCapacity ←
    wordOr env "WARDEN_DIAGNOSTIC_CAPACITY" standard.diagnosticCapacity
  let diagnosticWindowMs ←
    wordOr env "WARDEN_DIAGNOSTIC_WINDOW_MS" standard.diagnosticWindowMs
  .ok
    { listen, metrics, storage, postgres, nonceTtlMs, handshakeTimeoutMs, maxLineBytes,
      heartbeatIntervalMs, sweepIntervalMs, poisonRetentionSecs, diagnosticCapacity,
      diagnosticWindowMs
      authRequired := !((env.text? "WARDEN_AUTH_REQUIRED").any turnsOff)
      allowedKeys := keysOf env "WARDEN_ALLOWED_KEYS"
      trustedKeys := keysOf env "WARDEN_TRUSTED_KEYS"
      serverSeedFile := env.text? "WARDEN_SERVER_SEED_FILE"
      gracePeriodMs := gracePeriodMs.getD standard.gracePeriodMs }

/-- The settings of an environment. -/
def ofEnvironment (env : Environment) : Except Fault Settings :=
  readEnvironment env >>= validate

end Settings

end Gatekeeper
