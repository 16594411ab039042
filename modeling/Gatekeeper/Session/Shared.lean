import Gatekeeper.Handshake.Gate
import Gatekeeper.Ledger.Call
import Gatekeeper.Throttle

/-!
# `Gatekeeper.Session.Shared`: what sessions have in common

All sessions of a server work on one gate, one ledger and one index of the clients
that were admitted. Failures that could flood the diagnostics pass a throttle.

* `Handle`: the index entry of a client.
* `Scene`: what a step of a session depends on from outside.
* `Shared.authenticate`, `Shared.noteStorage`, `Shared.noteAccept`: the gate's verdict, a
  storage failure and a client that could not be let in, with the counters they touch.
-/

set_option autoImplicit false

namespace Gatekeeper.Session

open Gatekeeper.Handshake Gatekeeper.Ledger

/-- What the index tells about an admitted client. -/
structure Handle where
  connection : String
  identity : Identity
  connectedAt : Timestamp
  deriving DecidableEq, Repr

/-- What a step depends on from outside: the readings of the two clocks, the
conditions of storage, and whether the client can be written to. -/
structure Scene where
  moment : Moment
  instant : Timestamp
  conditions : Conditions
  writable : Bool

/-- What the sessions of a server have in common. -/
structure Shared where
  gate : Gate
  ledger : Ledger
  /-- The clients that were admitted and did not leave. -/
  index : Roster String Handle
  /-- The throttle on diagnostics about refused clients. -/
  authThrottle : Throttle
  /-- The throttle on diagnostics about failed storage calls. -/
  storeThrottle : Throttle
  /-- The throttle on diagnostics about clients that could not be let in. -/
  acceptThrottle : Throttle
  metrics : Metrics

namespace Shared

/-- A server before its first client. All throttles get the same quota. -/
def create (policy : Policy) (ledger : Ledger) (capacity : UInt64) (window : Duration)
    (now : Moment) : Except Quota.Fault Shared := do
  let authThrottle ← Throttle.create "auth" capacity window now
  let storeThrottle ← Throttle.create "store" capacity window now
  let acceptThrottle ← Throttle.create "accept" capacity window now
  .ok ⟨.ofPolicy policy, ledger, .empty, authThrottle, storeThrottle, acceptThrottle, .empty⟩

/-- The gate's verdict on a request. Every verdict is counted, and a refusal asks the
throttle whether to report it. -/
def authenticate (shared : Shared) (scene : Scene) (handshake : Handshake) (request : Request) :
    Option Identity × Handshake × Shared :=
  match shared.gate.answer handshake request scene.moment with
  | (.ok identity, handshake, gate) =>
    (some identity, handshake,
      { shared with gate, metrics := shared.metrics.count .accepted 1 })
  | (.error refusal, handshake, gate) =>
    let metrics := shared.metrics.count (.rejected refusal.name) 1
    let (_, authThrottle, metrics) := shared.authThrottle.ask scene.moment metrics
    (none, handshake, { shared with gate, authThrottle, metrics })

/-- A failed storage call asks the throttle whether to report it. -/
def noteStorage (shared : Shared) (scene : Scene) : Shared :=
  let (_, storeThrottle, metrics) := shared.storeThrottle.ask scene.moment shared.metrics
  { shared with storeThrottle, metrics }

/-- A client that could not be let in is counted, and the failure asks the throttle whether to
report it. -/
def noteAccept (shared : Shared) (scene : Scene) : Shared :=
  let metrics := shared.metrics.count .acceptFailed 1
  let (_, acceptThrottle, metrics) := shared.acceptThrottle.ask scene.moment metrics
  { shared with acceptThrottle, metrics }

end Shared

end Gatekeeper.Session
