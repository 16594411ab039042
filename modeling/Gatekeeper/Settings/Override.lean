import Gatekeeper.Settings.Environment
import Gatekeeper.Yaml.Field

/-!
# `Gatekeeper.Settings.Override`: settings from a file

A file in YAML may override settings of the environment. A field of it that is
absent or null overrides nothing, nor does a zero, except for the grace period.

* `Override.parse?`: what a file gives.
* `Override.apply`: the settings with what the file gives in place of what was
  there.
* `Settings.load`: the settings of an environment and of the file that it names.
-/

set_option autoImplicit false

namespace Gatekeeper.Settings

open Gatekeeper.Yaml Gatekeeper.Net

/-- What a file gives of a database. -/
structure PostgresOverride where
  url : Option String
  maxConnections : Option UInt32
  acquireTimeoutMs : Option UInt64
  deriving DecidableEq, Repr

/-- What a file gives. -/
structure Override where
  listen : Option String
  metrics : Option String
  authRequired : Option Bool
  allowedKeys : Option (List String)
  trustedKeys : Option (List String)
  nonceTtlMs : Option UInt64
  handshakeTimeoutMs : Option UInt64
  maxLineBytes : Option UInt64
  serverSeedFile : Option String
  heartbeatIntervalMs : Option UInt64
  gracePeriodMs : Option UInt64
  sweepIntervalMs : Option UInt64
  poisonRetentionSecs : Option UInt64
  diagnosticCapacity : Option UInt64
  diagnosticWindowMs : Option UInt64
  storage : Option String
  postgres : Option PostgresOverride
  deriving DecidableEq, Repr

/-! ### Reading -/

/-- A number of 64 bits. -/
def word? (document node : Node) : Option UInt64 :=
  (number? 18446744073709551616 document node).map UInt64.ofNat

/-- A number of 32 bits. -/
def halfWord? (document node : Node) : Option UInt32 :=
  (number? 4294967296 document node).map UInt32.ofNat

/-- What a node gives of a database. -/
def PostgresOverride.ofNode? (document node : Node) : Option PostgresOverride := do
  let fields ← fields? document node ["url", "max_connections", "acquire_timeout_ms"]
  some
    { url := ← field? text? document fields "url"
      maxConnections := ← field? halfWord? document fields "max_connections"
      acquireTimeoutMs := ← field? word? document fields "acquire_timeout_ms" }

namespace Override

/-- The names of the fields. -/
def names : List String :=
  ["listen_bind", "metrics_bind", "auth_required", "allowed_keys", "trusted_keys", "nonce_ttl_ms",
    "handshake_timeout_ms", "max_line_bytes", "server_seed_file", "heartbeat_interval_ms",
    "grace_period_ms", "sweep_interval_ms", "poison_retention_secs", "diagnostic_capacity",
    "diagnostic_window_ms", "storage", "postgres"]

/-- What the fields of a document give. -/
def ofFields? (document : Node) (fields : List (String × Node)) : Option Override := do
  let word := field? word? document fields
  let text := field? text? document fields
  some
    { listen := ← text "listen_bind"
      metrics := ← text "metrics_bind"
      authRequired := ← field? bool? document fields "auth_required"
      allowedKeys := ← field? (list? text?) document fields "allowed_keys"
      trustedKeys := ← field? (list? text?) document fields "trusted_keys"
      nonceTtlMs := ← word "nonce_ttl_ms"
      handshakeTimeoutMs := ← word "handshake_timeout_ms"
      maxLineBytes := ← word "max_line_bytes"
      serverSeedFile := ← text "server_seed_file"
      heartbeatIntervalMs := ← word "heartbeat_interval_ms"
      gracePeriodMs := ← word "grace_period_ms"
      sweepIntervalMs := ← word "sweep_interval_ms"
      poisonRetentionSecs := ← word "poison_retention_secs"
      diagnosticCapacity := ← word "diagnostic_capacity"
      diagnosticWindowMs := ← word "diagnostic_window_ms"
      storage := ← text "storage"
      postgres := ← field? PostgresOverride.ofNode? document fields "postgres" }

/-- What a file of the given text gives. A file without content gives nothing. -/
def parse? (text : String) : Option Override := do
  match ← Node.parse? text with
  | none => ofFields? Node.nothing []
  | some document => ofFields? document (← fields? document document names)

/-! ### Overriding -/

/-- The address that a field gives, or the one that was there. -/
def addressFrom (place : String) (text : Option String) (base : SocketAddress) :
    Except Fault SocketAddress :=
  match text with
  | none => .ok base
  | some text =>
    match SocketAddress.parse? text with
    | some address => .ok address
    | none => .error (.address place)

/-- The database that a file gives, field by field, in place of the one that was
there. -/
def mergePostgres (base : Option Postgres) (given : PostgresOverride) : Postgres :=
  let base := base.getD .standard
  { url := given.url.getD base.url
    maxConnections := (given.maxConnections.filter (0 < ·)).getD base.maxConnections
    acquireTimeoutMs := (positive? given.acquireTimeoutMs).getD base.acquireTimeoutMs }

/-- The settings with what the file gives in place of what was there. -/
def apply (given : Override) (base : Settings) : Except Fault Settings := do
  let listen ← addressFrom "listen_bind" given.listen base.listen
  let metrics ← addressFrom "metrics_bind" given.metrics base.metrics
  let storage ← match given.storage with
    | some text => backendOf "storage" text
    | none => .ok base.storage
  let word (given : Option UInt64) (base : UInt64) : UInt64 := (positive? given).getD base
  .ok
    { listen, metrics, storage
      authRequired := given.authRequired.getD base.authRequired
      allowedKeys := given.allowedKeys.getD base.allowedKeys
      trustedKeys := given.trustedKeys.getD base.trustedKeys
      nonceTtlMs := word given.nonceTtlMs base.nonceTtlMs
      handshakeTimeoutMs := word given.handshakeTimeoutMs base.handshakeTimeoutMs
      maxLineBytes := word given.maxLineBytes base.maxLineBytes
      serverSeedFile := given.serverSeedFile.or base.serverSeedFile
      heartbeatIntervalMs := word given.heartbeatIntervalMs base.heartbeatIntervalMs
      gracePeriodMs := given.gracePeriodMs.getD base.gracePeriodMs
      sweepIntervalMs := word given.sweepIntervalMs base.sweepIntervalMs
      poisonRetentionSecs := word given.poisonRetentionSecs base.poisonRetentionSecs
      diagnosticCapacity := word given.diagnosticCapacity base.diagnosticCapacity
      diagnosticWindowMs := word given.diagnosticWindowMs base.diagnosticWindowMs
      postgres := match given.postgres with
        | some given => some (mergePostgres base.postgres given)
        | none => base.postgres }

end Override

/-- The settings of an environment, overridden by the file that it names. Both are
validated. -/
def load (env : Environment) (files : Files) : Except Fault Settings := do
  let base ← ofEnvironment env
  match env.text? "WARDEN_BROKER_CONFIG" with
  | none => .ok base
  | some path =>
    match files.readText path with
    | .error fault => .error (.unreadable path fault)
    | .ok text =>
      match Override.parse? text with
      | none => .error .malformedFile
      | some given => given.apply base >>= validate

end Gatekeeper.Settings
