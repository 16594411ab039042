import Gatekeeper.Session.Reception
import Gatekeeper.Sweep.Pass

/-!
# `Gatekeeper.Session.Hall`: all clients of a server

The clients that are connected, each under a name of its own, work on what they
share. Whatever happens concerns one client: its bytes arrive, its stream ends, its
deadline passes, the server hangs up on it. What its session does then it does with
nobody in between.

* `Hall.enter?`, `Hall.turnAway`: a new client, or one that could not be let in.
* `Hall.arrive`, `Hall.finish`, `Hall.dismiss`: what happens to one.
* `Hall.expire`, `Hall.dismissAll`: what happens to every client it concerns.
* `Hall.deliver?`: the next line for a client.
* `Hall.sweepAt?`: a sweep over the ledger that the clients share.
-/

set_option autoImplicit false

namespace Gatekeeper.Session

/-- A connected client. -/
structure Guest where
  reception : Reception
  /-- When its handshake has to be done. -/
  deadline : Moment
  /-- How many of its session's lines were delivered to it. -/
  delivered : Nat

/-- The session of a client. -/
def Guest.session (guest : Guest) : Session := guest.reception.session

/-- The clients of a server, and what they share. -/
structure Hall where
  /-- The number of bytes that a line may have. -/
  maxLine : UInt64
  /-- How long a handshake may take. -/
  patience : Duration
  shared : Shared
  guests : Roster String Guest

namespace Hall

/-- A hall without clients. -/
def create (maxLine : UInt64) (patience : Duration) (shared : Shared) : Hall :=
  ⟨maxLine, patience, shared, .empty⟩

/-- A client enters under a name. Its session may draw nonces, and there is none if
the draws end before one is fresh. The session then waits for a line, which it does not if
reading breaks off at once. -/
def enter? (hall : Hall) (scene : Scene) (name connection : String) (draws : List Nonce.Draw) :
    Option Hall :=
  (Session.open? connection scene hall.shared draws).map fun (session, shared, _) =>
    let (reception, shared) := (Reception.mk session [] false).read hall.maxLine scene shared
    let guest : Guest := ⟨reception, scene.moment + hall.patience.nanos, 0⟩
    { hall with shared, guests := hall.guests.set name guest }

/-- A client could not be let in. The clients that are there do not notice. -/
def turnAway (hall : Hall) (scene : Scene) : Hall :=
  { hall with shared := hall.shared.noteAccept scene }

/-- What happens to the client of a name, if there is one. -/
def update (hall : Hall) (name : String)
    (happening : Reception → Shared → Reception × Shared) : Hall :=
  match hall.guests.find? name with
  | none => hall
  | some guest =>
    let (reception, shared) := happening guest.reception hall.shared
    { hall with shared, guests := hall.guests.set name { guest with reception } }

/-- Bytes of a client arrive. -/
def arrive (hall : Hall) (scene : Scene) (name : String) (bytes : List UInt8) : Hall :=
  hall.update name fun reception => reception.arrive hall.maxLine scene bytes

/-- A client's side of its stream ends. -/
def finish (hall : Hall) (scene : Scene) (name : String) : Hall :=
  hall.update name fun reception => reception.finish hall.maxLine scene

/-- An event that is no line, for one client. -/
def await (hall : Hall) (scene : Scene) (event : Event) (name : String) : Hall :=
  hall.update name fun reception => reception.await scene event

/-- The server hangs up on a client. -/
def dismiss (hall : Hall) (scene : Scene) (name : String) : Hall :=
  hall.await scene .dismissed name

/-- The server hangs up on every client. One that is not admitted yet is let be. -/
def dismissAll (hall : Hall) (scene : Scene) : Hall :=
  hall.guests.keys.foldl (fun hall name => hall.dismiss scene name) hall

/-- The names of the clients whose handshake should be done. -/
def overdue (hall : Hall) (now : Moment) : List String :=
  (hall.guests.filter fun _ guest => guest.deadline < now).keys

/-- Time has passed: handshakes that should be done by now are given up. -/
def expire (hall : Hall) (scene : Scene) : Hall :=
  (hall.overdue scene.moment).foldl (fun hall name => hall.await scene .expired name) hall

/-- The next line for a client, which is then delivered. -/
def deliver? (hall : Hall) (name : String) : Option (String × Hall) := do
  let guest ← hall.guests.find? name
  let line ← guest.session.written[guest.delivered]?
  some (line,
    { hall with guests := hall.guests.set name { guest with delivered := guest.delivered + 1 } })

/-- A sweep over the ledger, with nobody in between. -/
def sweepAt? (hall : Hall) (rule : Sweep.Rule) (conditions : Ledger.Conditions)
    (now : Timestamp) : Option (Sweep.Report × Hall) :=
  (Sweep.sweepAt? rule conditions now hall.shared.ledger hall.shared.metrics).map
    fun (report, ledger, metrics) =>
      (report, { hall with shared := { hall.shared with ledger, metrics } })

/-- The name of the client with a connection. -/
def nameOf? (hall : Hall) (connection : String) : Option String :=
  (hall.guests.entries.find? fun (_, guest) => guest.session.connection = connection).map (·.1)

/-- The hall without the client of a name. -/
def forget (hall : Hall) (name : String) : Hall :=
  { hall with guests := hall.guests.erase name }

end Hall

end Gatekeeper.Session
