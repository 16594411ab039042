import Gatekeeper.Session.Shared
import Gatekeeper.Wire.Command
import Gatekeeper.Wire.Line

/-!
# `Gatekeeper.Session.Basic`: one client's session

A session greets its client and waits for a connect. A client that the gate admits
gets a stored record, then an entry in the index, then its confirmation; from then
on each ping is a sign of life. When a session ends, its index entry and its
unanswered nonce go with it. Its stored record stays: it falls silent, and a sweep
retires it.

Storage, index and gate are shared, so a session works in small steps: each
changes at most one of them, and other sessions may step in between.

* `open?`: the session of a new client.
* `step`: what one event does to a session.
* `settle`: the steps that are due without the client.
-/

set_option autoImplicit false

namespace Gatekeeper

open Gatekeeper.Handshake Gatekeeper.Ledger Gatekeeper.Text Gatekeeper.Wire

namespace Session

/-- How far a session is. -/
inductive Phase where
  /-- The greeting was sent; a connect is awaited. -/
  | handshaking
  /-- The client was admitted; its record is to be stored. -/
  | persisting (identity : Identity)
  /-- The record was stored; the client is to be entered in the index. -/
  | registering (identity : Identity)
  /-- The client was entered; it is to be told so. -/
  | confirming
  /-- Commands are awaited. -/
  | serving
  /-- Nothing more is read or written; what the session holds is to be given back. -/
  | leaving
  | ended
  deriving DecidableEq, Repr

/-- What happens to a session. -/
inductive Event where
  /-- The next line was read, or what stood in its place. -/
  | line (read : Except LineFault String)
  /-- The client's side of the stream ended, or reading it broke off. -/
  | closed
  /-- The deadline of the handshake passed. -/
  | expired
  /-- The server hangs up. -/
  | dismissed
  /-- The step that is due without the client. -/
  | proceed

/-! ### What a session writes -/

/-- The line that confirms a connect. -/
def confirmation : String := "+OK"

/-- The line that answers a ping. -/
def pong : String := "PONG"

/-- Why a session tells its client goodbye. -/
inductive Farewell where
  | unknownOperation
  | refused
  | tooSlow
  | stale
  | unavailable
  deriving DecidableEq, Repr

/-- The error line of a farewell. -/
def Farewell.line : Farewell → String
  | unknownOperation => errorLine "Unknown Protocol Operation"
  | refused => errorLine "Authorization Violation"
  | tooSlow => errorLine "Authentication Timeout"
  | stale => errorLine "Stale Connection"
  | unavailable => errorLine "Service Unavailable"

end Session

open Session

/-- One client's session. -/
structure Session where
  connection : String
  handshake : Handshake
  phase : Phase
  /-- The entry that this session made in the index and did not take out. -/
  entry : Option Handle
  /-- The lines written, in order. -/
  written : List String

namespace Session

/-- Writes a line and goes on to a phase, or leaves if the client cannot be written
to. -/
def write (session : Session) (scene : Scene) (line : String) (next : Phase) : Session :=
  if scene.writable then { session with written := session.written ++ [line], phase := next }
  else { session with phase := .leaving }

/-- Writes an error line and leaves. -/
def bidFarewell (session : Session) (scene : Scene) (farewell : Farewell) : Session :=
  session.write scene farewell.line .leaving

/-- The session of a new client, which was sent the greeting. -/
def open? (connection : String) (scene : Scene) (shared : Shared) (draws : List Nonce.Draw) :
    Option (Session × Shared × List Nonce.Draw) :=
  (shared.gate.open? connection scene.moment draws).map fun (handshake, gate, rest) =>
    let session : Session := ⟨connection, handshake, .handshaking, none, []⟩
    (session.write scene (infoLine handshake.hello) .handshaking, { shared with gate }, rest)

/-- The command of a read line. A blank line asks for nothing, like a pong. -/
def commandOf? (read : Except LineFault String) : Option Command :=
  match read with
  | .error _ => none
  | .ok line =>
    if (trim line.toList).isEmpty then some .pong else (Command.parse line).toOption

/-- A line from a client that is not admitted yet. -/
def greetLine (session : Session) (scene : Scene) (shared : Shared)
    (read : Except LineFault String) : Session × Shared :=
  match commandOf? read with
  | none => (session.bidFarewell scene .unknownOperation, shared)
  | some .ping => (session.write scene pong .handshaking, shared)
  | some .pong => (session, shared)
  | some (.connect request) =>
    match shared.authenticate scene session.handshake request with
    | (some identity, handshake, shared) =>
      ({ session with handshake, phase := .persisting identity }, shared)
    | (none, handshake, shared) => ({ session with handshake }.bidFarewell scene .refused, shared)

/-- Stores the record of an admitted client. -/
def persist (session : Session) (scene : Scene) (shared : Shared) (identity : Identity) :
    Session × Shared :=
  match shared.ledger.callUpsert scene.conditions ⟨session.connection, scene.instant, true⟩ with
  | (.ok (), ledger) => ({ session with phase := .registering identity }, { shared with ledger })
  | (.error _, ledger) =>
    (session.bidFarewell scene .unavailable, { shared with ledger }.noteStorage scene)

/-- Enters an admitted client in the index. One whose id is taken has to leave. -/
def register (session : Session) (scene : Scene) (shared : Shared) (identity : Identity) :
    Session × Shared :=
  let handle : Handle := ⟨session.connection, identity, scene.instant⟩
  match shared.index.add session.connection handle with
  | (true, index) =>
    ({ session with phase := .confirming, entry := some handle }, { shared with index })
  | (false, _) => ({ session with phase := .leaving }, shared)

/-- A sign of life. A client whose record is gone or was retired has to leave; a
failure of storage is no fault of the client. -/
def beat (session : Session) (scene : Scene) (shared : Shared) : Session × Shared :=
  match shared.ledger.callHeartbeat scene.conditions session.connection scene.instant with
  | (.ok true, ledger) => (session.write scene pong .serving, { shared with ledger })
  | (.ok false, ledger) => (session.bidFarewell scene .stale, { shared with ledger })
  | (.error (.notFound _), ledger) => (session.bidFarewell scene .stale, { shared with ledger })
  | (.error _, ledger) =>
    (session.write scene pong .serving, { shared with ledger }.noteStorage scene)

/-- A line from an admitted client. -/
def serveLine (session : Session) (scene : Scene) (shared : Shared)
    (read : Except LineFault String) : Session × Shared :=
  match commandOf? read with
  | none => (session.bidFarewell scene .unknownOperation, shared)
  | some .ping => session.beat scene shared
  | some .pong => (session, shared)
  | some (.connect request) =>
    match shared.authenticate scene session.handshake request with
    | (some _, handshake, shared) =>
      ({ session with handshake }.write scene confirmation .serving, shared)
    | (none, handshake, shared) => ({ session with handshake }.bidFarewell scene .refused, shared)

/-- Gives back what the session holds: its index entry and its unanswered nonce. -/
def release (session : Session) (shared : Shared) : Session × Shared :=
  let index := match session.entry with
    | some _ => shared.index.erase session.connection
    | none => shared.index
  ({ session with phase := .ended, entry := none },
    { shared with index, gate := shared.gate.abandon session.handshake })

/-- What an event does to a session. An event that the phase does not wait for does
nothing. -/
def step (scene : Scene) (event : Event) (session : Session) (shared : Shared) :
    Session × Shared :=
  match session.phase, event with
  | .handshaking, .line read => session.greetLine scene shared read
  | .handshaking, .closed => ({ session with phase := .leaving }, shared)
  | .handshaking, .expired =>
    (session.bidFarewell scene .tooSlow,
      { shared with metrics := shared.metrics.count .timedOut 1 })
  | .persisting identity, .proceed => session.persist scene shared identity
  | .registering identity, .proceed => session.register scene shared identity
  | .confirming, .proceed => (session.write scene confirmation .serving, shared)
  | .serving, .line read => session.serveLine scene shared read
  | .serving, .closed => ({ session with phase := .leaving }, shared)
  | .serving, .dismissed => ({ session with phase := .leaving }, shared)
  | .leaving, .proceed => session.release shared
  | _, _ => (session, shared)

/-- Whether the session waits for something from outside. -/
def isWaiting (session : Session) : Bool :=
  session.phase = .handshaking || session.phase = .serving

/-- That many steps that are due without the client, with nobody in between. -/
def proceed (scene : Scene) : Nat → Session → Shared → Session × Shared
  | 0, session, shared => (session, shared)
  | count + 1, session, shared =>
    let (session, shared) := step scene .proceed session shared
    proceed scene count session shared

/-- The number of steps that no session takes in a row without its client: storing,
entering, confirming and giving back. -/
def maxSteps : Nat := 4

/-- All steps that are due without the client, with nobody in between. -/
def settle (scene : Scene) (session : Session) (shared : Shared) : Session × Shared :=
  proceed scene maxSteps session shared

/-- One event and all that is due after it, with nobody in between. -/
def handle (scene : Scene) (event : Event) (session : Session) (shared : Shared) :
    Session × Shared :=
  let (session, shared) := step scene event session shared
  settle scene session shared

end Session

end Gatekeeper
