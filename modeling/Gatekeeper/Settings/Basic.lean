import Gatekeeper.Files
import Gatekeeper.Handshake.Policy
import Gatekeeper.Net.SocketAddress
import Gatekeeper.Sweep.Rule
import Gatekeeper.Text.Blank
import Gatekeeper.Text.Decimal

/-!
# `Gatekeeper.Settings.Basic`: what can be set

The settings of a server, the values that hold where nothing is set, and what the
parts of the server take from them.

* `Settings`: the settings.
* `Settings.validate`: the one condition between them.
* `Settings.Fault`: why there are none.
-/

set_option autoImplicit false

namespace Gatekeeper

open Gatekeeper.Text Gatekeeper.Net

namespace Settings

/-- Where records are kept. -/
inductive Backend where
  | memory
  | postgres
  deriving DecidableEq, Repr

/-- A backend's name. -/
def Backend.name : Backend → String
  | .memory => "memory"
  | .postgres => "postgres"

/-- A text without the blanks around it and in lower case. -/
def normalized (text : String) : String :=
  String.ofList ((trim text.toList).map Char.toLower)

/-- The backend of a name, in either case and with blanks around it. -/
def Backend.parse? (text : String) : Option Backend :=
  match normalized text with
  | "memory" | "mem" => some .memory
  | "postgres" | "pg" => some .postgres
  | _ => none

/-- How to reach a database. -/
structure Postgres where
  url : String
  maxConnections : UInt32
  acquireTimeoutMs : UInt64
  deriving DecidableEq, Repr

/-- A database that nothing was set for. -/
def Postgres.standard : Postgres := ⟨"", 10, 5000⟩

/-- Why there are no settings. The first text says where the fault is. -/
inductive Fault where
  | address (place : String)
  | backend (place text : String)
  | number (place : String) (fault : Decimal.Fault)
  | missingUrl
  | unreadable (path : String) (fault : FileFault)
  | malformedFile
  deriving DecidableEq, Repr

/-- The wording of an unknown backend. -/
def unknownBackend (text : String) : String := s!"unknown storage backend: {normalized text}"

/-- The wording of a fault and of the reasons behind it, outermost first. -/
def Fault.chain : Fault → List String
  | .address place => [s!"parse {place}", "invalid socket address syntax"]
  | .backend place text => [s!"parse {place}", unknownBackend text]
  | .number place fault => [s!"parse {place}", fault.message]
  | .missingUrl => ["postgres storage selected but WARDEN_PG_URL is not set"]
  | .unreadable path fault => [s!"read WARDEN_BROKER_CONFIG: {path}", fault.message]
  | .malformedFile => ["parse broker config yaml"]

end Settings

open Settings

/-- The settings of a server. -/
structure Settings where
  /-- Where clients connect. -/
  listen : SocketAddress
  /-- Where the metrics page is served. -/
  metrics : SocketAddress
  authRequired : Bool
  allowedKeys : List String
  trustedKeys : List String
  nonceTtlMs : UInt64
  handshakeTimeoutMs : UInt64
  maxLineBytes : UInt64
  serverSeedFile : Option String
  heartbeatIntervalMs : UInt64
  gracePeriodMs : UInt64
  sweepIntervalMs : UInt64
  poisonRetentionSecs : UInt64
  diagnosticCapacity : UInt64
  diagnosticWindowMs : UInt64
  storage : Backend
  postgres : Option Postgres
  deriving DecidableEq, Repr

namespace Settings

/-- The settings where nothing is set. -/
def standard : Settings where
  listen := .v4 [0, 0, 0, 0] 4222
  metrics := .v4 [0, 0, 0, 0] 8080
  authRequired := true
  allowedKeys := []
  trustedKeys := []
  nonceTtlMs := 30000
  handshakeTimeoutMs := 5000
  maxLineBytes := 65536
  serverSeedFile := none
  heartbeatIntervalMs := 30000
  gracePeriodMs := 60000
  sweepIntervalMs := 30000
  poisonRetentionSecs := 604800
  diagnosticCapacity := 10
  diagnosticWindowMs := 60000
  storage := .memory
  postgres := none

/-- Whether the text has no characters but blanks. -/
def isBlankText (text : String) : Bool := (trim text.toList).isEmpty

/-- Whether a database that records are to be kept in can be reached. -/
def hasStorage (settings : Settings) : Bool :=
  match settings.storage, settings.postgres with
  | .memory, _ => true
  | .postgres, none => false
  | .postgres, some postgres => !isBlankText postgres.url

/-- The settings, unless records are to be kept in a database without an address. -/
def validate (settings : Settings) : Except Fault Settings :=
  if settings.hasStorage then .ok settings else .error .missingUrl

/-! ### What the parts of the server take -/

/-- Whom to admit. -/
def policySource (settings : Settings) : Handshake.PolicySource where
  authRequired := settings.authRequired
  allowedKeys := settings.allowedKeys
  trustedKeys := settings.trustedKeys
  nonceTtl := .ofMillis settings.nonceTtlMs

/-- When records have outlived their time. -/
def sweepRule (settings : Settings) : Sweep.Rule where
  heartbeatInterval := .ofMillis settings.heartbeatIntervalMs
  gracePeriod := .ofMillis settings.gracePeriodMs
  interval := .ofMillis settings.sweepIntervalMs
  poisonRetention := .ofSeconds settings.poisonRetentionSecs
  diagnosticCapacity := settings.diagnosticCapacity
  diagnosticWindow := .ofMillis settings.diagnosticWindowMs

/-- How long a client may take to answer. -/
def handshakeTimeout (settings : Settings) : Duration := .ofMillis settings.handshakeTimeoutMs

/-- The window of the quotas on diagnostics. -/
def diagnosticWindow (settings : Settings) : Duration := .ofMillis settings.diagnosticWindowMs

end Settings

end Gatekeeper
