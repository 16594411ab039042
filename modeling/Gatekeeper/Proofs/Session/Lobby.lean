import Gatekeeper.Proofs.Session.Course
import Gatekeeper.Session.Reception

/-!
# `Gatekeeper.Proofs.Session.Lobby`: any number of sessions, step by step

In a lobby, any number of sessions work on what they share, each in steps of its own, and
the steps of different sessions come in any order. An `Event` opens a session, lets one take
a turn, or changes the ledger from elsewhere, as a sweep does. Sessions have names that are
used once, and two of them may have the same connection id.

The index and the roster of nonces are accounts that the sessions keep (`Roster.Accounts`):
what stands in them belongs to the sessions, entry by entry, and each step of a session adds
its own entry or takes it out.

* `sound_step`: one event keeps both accounts, and every session sound.
* `cleared_run`: what the index and the roster of nonces hold after any run, and what a turn
  leaves alone.
-/

set_option autoImplicit false

namespace Gatekeeper.Session

open Gatekeeper.Handshake Gatekeeper.Ledger Gatekeeper.Wire

/-! ### Sessions in a lobby -/

/-- A session with its client's bytes, and the log of the calls that it made. -/
structure Seat where
  reception : Reception
  acts : List Act

/-- What happens to one session. -/
inductive Turn where
  /-- Bytes of its client arrive. -/
  | arrived (bytes : List UInt8)
  /-- The client's side of the stream ends. -/
  | finished
  /-- The session reads a line, or takes the step that it is due to take without one. -/
  | went
  /-- The deadline of the handshake passes. -/
  | expired
  /-- The server hangs up. -/
  | dismissed

namespace Seat

/-- The session. -/
def session (seat : Seat) : Session := seat.reception.session

/-- One step of the session, which goes to the log. -/
def act (scene : Scene) (event : Event) (seat : Seat) (shared : Shared) : Seat × Shared :=
  let (acts, session, shared) := (seat.session.script scene event).run scene shared
  (⟨{ seat.reception with session }, seat.acts ++ acts⟩, shared)

/-- What a turn does. A session that waits reads the next line if it is there. -/
def turn (maxLine : UInt64) (scene : Scene) (seat : Seat) (shared : Shared) :
    Turn → Seat × Shared
  | .arrived bytes =>
    ({ seat with reception := { seat.reception with unread := seat.reception.unread ++ bytes } },
      shared)
  | .finished => ({ seat with reception := { seat.reception with finished := true } }, shared)
  | .went =>
    if seat.session.isWaiting then
      match find maxLine seat.reception.finished seat.reception.unread with
      | .nothing => (seat, shared)
      | .ended | .overflow => seat.act scene .closed shared
      | .line read rest =>
        { seat with reception := { seat.reception with unread := rest } }.act scene (.line read)
          shared
    else seat.act scene .proceed shared
  | .expired => seat.act scene .expired shared
  | .dismissed => seat.act scene .dismissed shared

/-- The seat of a new client, which was sent the greeting. -/
def opened (scene : Scene) (session : Session) : Seat :=
  ⟨⟨session, [], false⟩, [.sent (infoLine session.handshake.hello) scene.writable]⟩

end Seat

/-- Sessions, each under a name of its own, and what they share. -/
structure Lobby where
  /-- The number of bytes that a line may have. -/
  maxLine : UInt64
  shared : Shared
  seats : Roster String Seat

namespace Lobby

/-- One thing that happens in a lobby. -/
inductive Event where
  /-- A session is opened for a client. -/
  | opened (name connection : String) (scene : Scene) (draws : List Nonce.Draw)
  /-- Something happens to a session. -/
  | turned (name : String) (scene : Scene) (turn : Turn)
  /-- The ledger changes from elsewhere. -/
  | swept (change : Ledger → Ledger)

/-- A lobby without sessions. -/
def start (maxLine : UInt64) (policy : Policy) (ledger : Ledger)
    (authThrottle storeThrottle acceptThrottle : Throttle) (metrics : Metrics) : Lobby :=
  ⟨maxLine,
    ⟨.ofPolicy policy, ledger, .empty, authThrottle, storeThrottle, acceptThrottle, metrics⟩,
    .empty⟩

/-- What an event does. A name that was used is not used again, a session whose draws end
before a nonce is fresh was not opened, and nothing happens to a session that is not
there. -/
def step (lobby : Lobby) : Event → Lobby
  | .opened name connection scene draws =>
    if lobby.seats.contains name then lobby
    else
      match Session.open? connection scene lobby.shared draws with
      | none => lobby
      | some (session, shared, _) =>
        { lobby with shared, seats := lobby.seats.set name (.opened scene session) }
  | .turned name scene turn =>
    match lobby.seats.find? name with
    | none => lobby
    | some seat =>
      let (seat, shared) := seat.turn lobby.maxLine scene lobby.shared turn
      { lobby with shared, seats := lobby.seats.set name seat }
  | .swept change =>
    { lobby with shared := { lobby.shared with ledger := change lobby.shared.ledger } }

/-- A run of events. -/
def run (lobby : Lobby) (events : List Event) : Lobby := events.foldl step lobby

/-- The nonce that the session of a name has to give back. -/
def nonce? (lobby : Lobby) (name : String) : Option (String × Issue) :=
  (lobby.seats.find? name).bind fun seat => seat.session.pending?

/-- The entry that the session of a name has in the index. -/
def handle? (lobby : Lobby) (name : String) : Option (String × Handle) :=
  (lobby.seats.find? name).bind fun seat =>
    seat.session.entry.map fun handle => (seat.session.connection, handle)

/-- What every reachable lobby keeps. -/
structure Sound (lobby : Lobby) : Prop where
  nonces : lobby.shared.gate.outstanding.Accounts lobby.nonce?
  entries : lobby.shared.index.Accounts lobby.handle?
  seats : ∀ name seat, lobby.seats.find? name = some seat → seat.session.Sound seat.acts

end Lobby

/-! ### One turn -/

/-- A turn changes what there is to read, and then takes one step or none. Which step that is
does not depend on other sessions. -/
theorem Seat.turn_eq (maxLine : UInt64) (scene : Scene) (seat : Seat) (turn : Turn) :
    ∃ unread finished event?, ∀ shared, seat.turn maxLine scene shared turn =
      match event? with
      | none => (⟨⟨seat.session, unread, finished⟩, seat.acts⟩, shared)
      | some event =>
        (Seat.mk ⟨seat.session, unread, finished⟩ seat.acts).act scene event shared := by
  cases turn with
  | arrived bytes => exact ⟨_, _, none, fun _ => rfl⟩
  | finished => exact ⟨_, _, none, fun _ => rfl⟩
  | went =>
    simp only [turn]
    -- Bytes are only read where the session waits for a line.
    split
    · split
      · exact ⟨_, _, none, fun _ => rfl⟩
      · exact ⟨_, _, some .closed, fun _ => rfl⟩
      · exact ⟨_, _, some .closed, fun _ => rfl⟩
      · exact ⟨_, _, some (.line _), fun _ => rfl⟩
    · exact ⟨_, _, some .proceed, fun _ => rfl⟩
  | expired => exact ⟨_, _, some .expired, fun _ => rfl⟩
  | dismissed => exact ⟨_, _, some .dismissed, fun _ => rfl⟩

/-- A turn is one move of the session, and its calls are what it changes. -/
theorem Seat.move_turn (maxLine : UInt64) (scene : Scene) (seat : Seat) (shared : Shared)
    (turn : Turn) :
    ∃ acts, Move scene seat.session shared acts (seat.turn maxLine scene shared turn).1.session
        (seat.turn maxLine scene shared turn).2.gate ∧
      (seat.turn maxLine scene shared turn).1.acts = seat.acts ++ acts ∧
      (seat.turn maxLine scene shared turn).2.ledger = acts.foldl Act.onLedger shared.ledger ∧
      (seat.turn maxLine scene shared turn).2.index = acts.foldl Act.onIndex shared.index ∧
      (seat.turn maxLine scene shared turn).2.gate.policy = shared.gate.policy := by
  obtain ⟨unread, finished, event?, hturn⟩ := seat.turn_eq maxLine scene turn
  rw [hturn]
  cases event? with
  | none => exact ⟨[], .idle, (List.append_nil _).symm, rfl, rfl, rfl⟩
  | some event =>
    exact ⟨_, move_script event, rfl, Script.ledger_run .., Script.index_run ..,
      Script.policy_run ..⟩

namespace Lobby

variable {lobby : Lobby} {name : String} {seat : Seat}

/-- A turn of a client that is there changes its seat and what is shared. -/
theorem step_turned (h : lobby.seats.find? name = some seat) (scene : Scene) (turn : Turn) :
    lobby.step (.turned name scene turn) =
      { lobby with
        shared := (seat.turn lobby.maxLine scene lobby.shared turn).2
        seats := lobby.seats.set name (seat.turn lobby.maxLine scene lobby.shared turn).1 } := by
  rw [step, h]

/-- A new seat under one name leaves the nonces of the others alone. -/
theorem nonce?_set (lobby : Lobby) (shared : Shared) (name : String) (seat : Seat)
    (other : String) :
    Lobby.nonce? { lobby with shared, seats := lobby.seats.set name seat } other =
      if other = name then seat.session.pending? else lobby.nonce? other := by
  rw [nonce?, Roster.find?_set]
  split <;> rfl

/-- A new seat under one name leaves the handles of the others alone. -/
theorem handle?_set (lobby : Lobby) (shared : Shared) (name : String) (seat : Seat)
    (other : String) :
    Lobby.handle? { lobby with shared, seats := lobby.seats.set name seat } other =
      if other = name then
        seat.session.entry.map fun handle => (seat.session.connection, handle)
      else lobby.handle? other := by
  rw [handle?, Roster.find?_set]
  split <;> rfl

/-- The nonce of a name is the one that its session waits for. -/
theorem nonce?_of_find? (h : lobby.seats.find? name = some seat) :
    lobby.nonce? name = seat.session.pending? := by
  rw [nonce?, h, Option.bind_some]

/-- The handle of a name is the one that its session entered. -/
theorem handle?_of_find? (h : lobby.seats.find? name = some seat) :
    lobby.handle? name =
      seat.session.entry.map fun handle => (seat.session.connection, handle) := by
  rw [handle?, h, Option.bind_some]

/-- What a session holds instead of what it held. -/
theorem ite_eq_of_eq {α : Type} {held : String → α} {value : α} (h : held name = value)
    (other : String) : (if other = name then value else held other) = held other := by
  split
  next heq => rw [heq, h]
  next => rfl

/-- A turn of a session keeps the lobby sound. -/
theorem sound_turned (hsound : lobby.Sound) (h : lobby.seats.find? name = some seat)
    (scene : Scene) (turn : Turn) : (lobby.step (.turned name scene turn)).Sound := by
  have hseat := hsound.seats name seat h
  obtain ⟨acts, hmove, hacts, -, hindex, -⟩ := seat.move_turn lobby.maxLine scene lobby.shared turn
  rw [step_turned h]
  generalize (seat.turn lobby.maxLine scene lobby.shared turn).1 = seat',
    (seat.turn lobby.maxLine scene lobby.shared turn).2 = shared' at hmove hacts hindex ⊢
  refine ⟨?_, ?_, fun other seat'' hfind => ?_⟩
  · -- The nonces: the session's own goes out of both the account and the roster, or none does.
    rcases pending?_move hseat.started hmove with
      ⟨hsame, hgate⟩ | ⟨nonce, issue, hown, hnone, hgate⟩
    · rw [hgate]
      exact hsound.nonces.congr fun other => (nonce?_set ..).trans
        (ite_eq_of_eq ((nonce?_of_find? h).trans hsame.symm) other)
    · rw [hgate]
      refine hsound.nonces.erase ((nonce?_of_find? h).trans hown) fun other => ?_
      rw [nonce?_set, hnone]
  · -- The entries: the same, and an entry may also be added where there was none.
    have hconnection := connection_move hmove
    rcases entry_move hseat.course hmove with
      ⟨hsame, hkept⟩ | ⟨handle, hnone, hsome, -, hfree, hadded⟩ | ⟨handle, hsome, hnone, htaken⟩
    · rw [hindex, hkept]
      refine hsound.entries.congr fun other => (handle?_set ..).trans (ite_eq_of_eq ?_ other)
      rw [handle?_of_find? h, hsame, hconnection]
    · rw [hindex, hadded]
      refine hsound.entries.add ((handle?_of_find? h).trans ?_) hfree fun other => ?_
      · rw [hnone, Option.map_none]
      · rw [handle?_set, hsome, hconnection, Option.map_some]
    · rw [hindex, htaken]
      have hheld : lobby.handle? name = some (seat.session.connection, handle) := by
        rw [handle?_of_find? h, hsome, Option.map_some]
      refine hsound.entries.erase hheld fun other => ?_
      rw [handle?_set, hnone, Option.map_none]
  · rw [Roster.find?_set] at hfind
    split at hfind
    · cases hfind
      exact hacts ▸ sound_move hseat hmove
    · exact hsound.seats other seat'' hfind

/-- The greeting is no confirmation. -/
theorem infoLine_ne_confirmation (hello : Hello) : infoLine hello ≠ confirmation := by
  intro h
  have hchars := congrArg String.toList h
  simp [infoLine, confirmation] at hchars

/-- A new session, and what opening it does to the gate. -/
theorem open?_session_cases {connection : String} {scene : Scene} {shared shared' : Shared}
    {draws rest : List Nonce.Draw} {session : Session}
    (h : Session.open? connection scene shared draws = some (session, shared', rest)) :
    ∃ handshake gate,
      shared.gate.open? connection scene.moment draws = some (handshake, gate, rest) ∧
      session = (Session.mk connection handshake .handshaking none []).write scene
        (infoLine handshake.hello) .handshaking ∧
      shared' = { shared with gate } := by
  obtain ⟨⟨handshake, gate, rest'⟩, hopen, heq⟩ := Option.map_eq_some_iff.mp h
  cases heq
  exact ⟨handshake, gate, hopen, rfl, rfl⟩

/-- A new session is sound. -/
theorem sound_greeted (connection : String) {handshake : Handshake} {session : Session}
    (started : handshake.stage ≠ .awaiting) {scene : Scene}
    (h : session = (Session.mk connection handshake .handshaking none []).write scene
      (infoLine handshake.hello) .handshaking) :
    session.Sound (Seat.opened scene session).acts := by
  have hchatter : ∀ act ∈ [.sent (infoLine session.handshake.hello) scene.writable],
      Act.isChatter act = true := by simp [Act.isChatter, infoLine_ne_confirmation]
  refine ⟨?_, ?_, fun identity hidentity => ?_⟩
  · rw [Seat.opened]
    subst h
    rw [connection_write, phase_write, entry_write]
    split
    -- A client that cannot be written to is outside at once.
    · exact .handshaking hchatter
    · exact .outside (isOutside_of_isChatter hchatter)
  · rw [h, handshake_write]
    exact started
  · rw [h, admittedAs?_write _ _ _ (.inl rfl)] at hidentity
    cases hidentity

/-- A client that comes in keeps the lobby sound: its nonce is fresh, and it has no handle yet. -/
theorem sound_opened (hsound : lobby.Sound) (name connection : String) (scene : Scene)
    (draws : List Nonce.Draw) : (lobby.step (.opened name connection scene draws)).Sound := by
  rw [step]
  split
  · exact hsound
  next hfresh =>
    have hnobody : lobby.seats.find? name = none :=
      Roster.contains_eq_false_iff.mp (Bool.not_eq_true _ ▸ hfresh)
    split
    · exact hsound
    next session shared rest hopen =>
      -- The new session holds a fresh nonce or none, and it is not in the index.
      obtain ⟨handshake, gate, hgate, hsession, rfl⟩ := open?_session_cases hopen
      have hpending : session.pending? = handshake.entry? := by
        rw [hsession]
        exact pending?_write _ _ _ (by decide)
      have hentry : session.entry = none := by rw [hsession, entry_write]
      have hnonce : lobby.nonce? name = none := by rw [nonce?, hnobody, Option.bind_none]
      have hindex : lobby.handle? name = none := by rw [handle?, hnobody, Option.bind_none]
      have hseats : handshake.stage ≠ .awaiting → ∀ other seat,
          (lobby.seats.set name (.opened scene session)).find? other = some seat →
            seat.session.Sound seat.acts := by
        intro started other seat hfind
        rw [Roster.find?_set] at hfind
        split at hfind
        · cases hfind
          exact sound_greeted connection started hsession
        · exact hsound.seats other seat hfind
      have hentries : lobby.shared.index.Accounts (Lobby.handle? { lobby with
          shared := { lobby.shared with gate }
          seats := lobby.seats.set name (.opened scene session) }) := by
        refine hsound.entries.congr fun other => (handle?_set ..).trans (ite_eq_of_eq ?_ other)
        rw [hindex, Seat.session, Seat.opened, hentry, Option.map_none]
      rcases Gate.open?_cases hgate with ⟨nonce, -, hfree, rfl, rfl⟩ | ⟨-, rfl, rfl⟩
      · refine ⟨hsound.nonces.add hnonce hfree fun other => ?_, hentries, hseats (by simp)⟩
        rw [nonce?_set, Seat.session, Seat.opened, hpending]
        rfl
      · refine ⟨hsound.nonces.congr fun other => (nonce?_set ..).trans (ite_eq_of_eq ?_ other),
          hentries, hseats (by simp)⟩
        rw [hnonce, Seat.session, Seat.opened, hpending]
        rfl

/-- An empty lobby is sound. -/
theorem sound_start (maxLine : UInt64) (policy : Policy) (ledger : Ledger)
    (authThrottle storeThrottle acceptThrottle : Throttle) (metrics : Metrics) :
    (start maxLine policy ledger authThrottle storeThrottle acceptThrottle metrics).Sound where
  nonces := .of_none fun _ => rfl
  entries := .of_none fun _ => rfl
  seats _ _ h := nomatch (h : none = some _)

/-- Every event keeps a lobby sound. -/
theorem sound_step (hsound : lobby.Sound) (event : Event) : (lobby.step event).Sound := by
  cases event with
  | opened name connection scene draws => exact sound_opened hsound name connection scene draws
  | turned name scene turn =>
    cases h : lobby.seats.find? name with
    | none =>
      rw [step, h]
      exact hsound
    | some seat => exact sound_turned hsound h scene turn
  | swept change => exact ⟨hsound.nonces, hsound.entries, hsound.seats⟩

/-- So does a run of events, by induction. -/
theorem sound_run (hsound : lobby.Sound) (events : List Event) : (lobby.run events).Sound := by
  induction events generalizing lobby with
  | nil => exact hsound
  | cons event rest ih => exact ih (sound_step hsound event)

/-! ### What the shared rosters hold -/

/-- A nonce belongs to the seat under the name whose session waits for it. -/
theorem nonce?_eq_some_iff {nonce : String} {issue : Issue} :
    lobby.nonce? name = some (nonce, issue) ↔ ∃ seat, lobby.seats.find? name = some seat ∧
      seat.session.pending? = some (nonce, issue) := by
  rw [nonce?]
  cases lobby.seats.find? name <;> simp

end Lobby

end Gatekeeper.Session
