import Gatekeeper.Key.Source
import Gatekeeper.Session.Hall
import Gatekeeper.Settings.Override

/-!
# `Gatekeeper.Startup`: from settings to a server

A server starts only if all is in order: its settings, its own key, the keys of
clients and operators, its storage, the rule of its sweeps and the quotas of its
diagnostics. They are checked in this order, and the address that clients connect
to is opened last, so a server that is refused never had one open.

* `Startup.Host`: what a start depends on from outside. What a database keeps comes in here: how
  it keeps it is its own business.
* `Startup.openLedger`, `Startup.assemble`, `Startup.prepare`: the checks.
* `Startup.start`: the settings, the checks and the address.
* `Startup.Fault.chain`: what is reported when one of them fails.
-/

set_option autoImplicit false

namespace Gatekeeper

open Gatekeeper.Handshake Gatekeeper.Key Gatekeeper.Net Gatekeeper.Session

namespace Startup

/-- Why a server does not start. -/
inductive Fault where
  | settings (fault : Settings.Fault)
  | serverKey (fault : LoadFault)
  | policy (fault : PolicyFault)
  | missingDatabase
  /-- The database's own words for why there is no connection to it. -/
  | unreachableDatabase (reasons : List String)
  | sweeps (fault : Sweep.Rule.Fault)
  | diagnostics (fault : Quota.Fault)
  /-- The system's own words for why an address cannot be opened. -/
  | listening (address : SocketAddress) (reason : String)
  deriving DecidableEq, Repr

/-- The wording of a fault and of the reasons behind it, outermost first. -/
def Fault.chain : Fault → List String
  | .settings fault => fault.chain
  | .serverKey fault => ["load server key", fault.message, fault.cause]
  | .policy fault => ["invalid auth configuration", fault.message, fault.cause.message]
  | .missingDatabase => ["postgres configuration missing"]
  | .unreachableDatabase reasons => "connect postgres liveness store" :: reasons
  | .sweeps .zeroInterval =>
    ["invalid reaper configuration", Sweep.Rule.Fault.zeroInterval.message]
  | .sweeps (.diagnostics fault) =>
    ["invalid reaper configuration", (Sweep.Rule.Fault.diagnostics fault).message, fault.message]
  | .diagnostics fault => ["invalid diagnostic rate limit", fault.message]
  | .listening address reason => [s!"bind client listener on {address.render}", reason]

/-- Numbered lines, from a number on. -/
def numbered : Nat → List String → String
  | _, [] => ""
  | n, text :: rest => s!"\n    {n}: {text}" ++ numbered (n + 1) rest

/-- A fault as it is reported: its wording, and the reasons behind it below. -/
def Fault.report (fault : Fault) : String :=
  match fault.chain with
  | [] => "Error"
  | [text] => s!"Error: {text}"
  | [text, reason] => s!"Error: {text}\n\nCaused by:\n    {reason}"
  | text :: reasons => s!"Error: {text}\n\nCaused by:" ++ numbered 0 reasons

/-- What a start depends on from outside. -/
structure Host where
  env : Environment
  files : Files
  /-- The seed that the random source gives. -/
  seed : Seed
  /-- What a connection to a database comes to: the records that it keeps, or why there is no
  connection. -/
  connect : Settings.Postgres → Except (List String) Ledger
  /-- Why an address cannot be opened, if it cannot. -/
  refusal? : SocketAddress → Option String

/-- A server that may start. -/
structure Server where
  settings : Settings
  rule : Sweep.Rule
  hall : Hall

/-- The result of a check, or the start's fault for it. -/
def orFault {ε α : Type} (fault : ε → Fault) (result : Except ε α) : Except Fault α :=
  result.mapError fault

/-- The ledger of a backend: an empty one in memory, or the records of a database. -/
def openLedger (host : Host) (storage : Settings.Backend) (database : Option Settings.Postgres) :
    Except Fault Ledger :=
  match storage, database with
  | .memory, _ => .ok .empty
  | .postgres, none => .error .missingDatabase
  | .postgres, some postgres => orFault .unreachableDatabase (host.connect postgres)

/-- Where the settings say that the server's own key comes from. -/
def keySource (settings : Settings) : Source :=
  match settings.serverSeedFile with
  | some path => .seedFile path
  | none => .drawn

/-- The server of settings and a policy, if storage, sweeps and diagnostics are in order. -/
def assemble (host : Host) (settings : Settings) (now : Moment) (policy : Policy) :
    Except Fault Server := do
  let ledger ← openLedger host settings.storage settings.postgres
  orFault .sweeps settings.sweepRule.check
  let shared ← orFault .diagnostics
    (Shared.create policy ledger settings.diagnosticCapacity settings.diagnosticWindow now)
  .ok ⟨settings, settings.sweepRule,
    .create settings.maxLineBytes settings.handshakeTimeout shared⟩

/-- The server of settings, if all is in order. -/
def prepare (host : Host) (settings : Settings) (source : Source) (now : Moment) :
    Except Fault Server := do
  let key ← orFault .serverKey (source.load host.files host.seed .operator)
  let policy ← orFault .policy (Policy.create settings.policySource key)
  assemble host settings now policy

/-- Opens the address that clients connect to. -/
def listen (host : Host) (server : Server) : Except Fault Server :=
  match host.refusal? server.settings.listen with
  | some reason => .error (.listening server.settings.listen reason)
  | none => .ok server

/-- The server that starts on a host. -/
def start (host : Host) (now : Moment) : Except Fault Server := do
  let settings ← orFault .settings (Settings.load host.env host.files)
  let server ← prepare host settings (keySource settings) now
  listen host server

end Startup

end Gatekeeper
