import Gatekeeper.Proofs.Handshake.Gatehouse
import Gatekeeper.Session.Basic

/-!
# `Gatekeeper.Proofs.Session.Script`: a step of a session as the calls it makes

A session reaches its client, the gate, the ledger and the index through a few calls.
`Script` is a step spelled out as those calls, each with what follows from its answer, and
`Session.script` is the script of every step. Running a script against what sessions share
yields the log of its calls, which is what statements about the order of calls, or about
their absence, are about.

* `run_script`: running the script of a step is the step.
* `ledger_run`, `index_run`: the ledger and the index change by the calls in the log, and by
  nothing else.
-/

set_option autoImplicit false

namespace Gatekeeper.Session

open Gatekeeper.Handshake Gatekeeper.Ledger Gatekeeper.Wire

/-! ### Calls and scripts -/

/-- A call that a session made, with its answer. -/
inductive Act where
  /-- A line was written, and whether it reached the client. -/
  | sent (line : String) (delivered : Bool)
  /-- The gate was asked for its verdict on a request. -/
  | answered (verdict : Option Identity)
  /-- A record was to be stored. -/
  | stored (record : Connection) (result : Except Fault Unit)
  /-- A sign of life was to be noted. -/
  | heard (connection : String) (at_ : Timestamp) (result : Except Fault Bool)
  /-- The index was asked to take a handle, and whether it did. -/
  | entered (handle : Handle) (accepted : Bool)
  /-- The entry under a connection was taken out of the index. -/
  | left (connection : String)

namespace Act

/-- Whether the call goes to the ledger. -/
def isStorage : Act → Bool
  | stored _ _ | heard _ _ _ => true
  | _ => false

/-- Whether the call goes to the index. -/
def isIndexing : Act → Bool
  | entered _ _ | left _ => true
  | _ => false

/-- The ledger after the call. -/
def onLedger (ledger : Ledger) : Act → Ledger
  | stored record (.ok ()) => ledger.upsertConnection record
  | heard connection at_ (.ok _) =>
    ((ledger.heartbeat? connection at_).map Prod.snd).getD ledger
  | _ => ledger

/-- The index after the call. -/
def onIndex (index : Roster String Handle) : Act → Roster String Handle
  | entered handle true => (index.add handle.connection handle).2
  | left connection => index.erase connection
  | _ => index

end Act

/-- What a session does next, call by call. -/
inductive Script where
  | done (session : Session)
  | send (line : String) (next : Bool → Script)
  | answer (handshake : Handshake) (request : Request)
      (next : Option Identity → Handshake → Script)
  | store (record : Connection) (next : Except Fault Unit → Script)
  | hear (connection : String) (at_ : Timestamp) (next : Except Fault Bool → Script)
  | enter (handle : Handle) (next : Bool → Script)
  | leave (connection : String) (next : Script)
  /-- The handshake is over; its nonce is given back. -/
  | abandon (handshake : Handshake) (next : Script)
  /-- A failed storage call is reported to the throttle. -/
  | note (next : Script)
  | count (metric : Metric) (next : Script)

/-- Runs a script: the log of its calls, the session it ends with, and what sessions share
after it. -/
@[simp]
def Script.run (scene : Scene) : Script → Shared → List Act × Session × Shared
  | done session, shared => ([], session, shared)
  | send line next, shared =>
    let (acts, after) := (next scene.writable).run scene shared
    (.sent line scene.writable :: acts, after)
  | answer handshake request next, shared =>
    let (verdict, handshake, shared) := shared.authenticate scene handshake request
    let (acts, after) := (next verdict handshake).run scene shared
    (.answered verdict :: acts, after)
  | store record next, shared =>
    let (result, ledger) := shared.ledger.callUpsert scene.conditions record
    let (acts, after) := (next result).run scene { shared with ledger }
    (.stored record result :: acts, after)
  | hear connection at_ next, shared =>
    let (result, ledger) := shared.ledger.callHeartbeat scene.conditions connection at_
    let (acts, after) := (next result).run scene { shared with ledger }
    (.heard connection at_ result :: acts, after)
  | enter handle next, shared =>
    let (accepted, index) := shared.index.add handle.connection handle
    let (acts, after) := (next accepted).run scene { shared with index }
    (.entered handle accepted :: acts, after)
  | leave connection next, shared =>
    let (acts, after) := next.run scene { shared with index := shared.index.erase connection }
    (.left connection :: acts, after)
  | abandon handshake next, shared =>
    next.run scene { shared with gate := shared.gate.abandon handshake }
  | note next, shared => next.run scene (shared.noteStorage scene)
  | count metric next, shared =>
    next.run scene { shared with metrics := shared.metrics.count metric 1 }

end Session

open Gatekeeper.Handshake Gatekeeper.Ledger Gatekeeper.Wire

open Session

namespace Session

/-- Writes a line and goes on to a phase, or leaves if it does not reach the client. -/
def sending (session : Session) (line : String) (next : Phase) : Script :=
  .send line fun delivered =>
    .done
      (if delivered then { session with written := session.written ++ [line], phase := next }
      else { session with phase := .leaving })

/-- A line from a client that is not admitted yet. -/
def greetScript (session : Session) (read : Except LineFault String) : Script :=
  match commandOf? read with
  | none => session.sending (Farewell.line .unknownOperation) .leaving
  | some .ping => session.sending pong .handshaking
  | some .pong => .done session
  | some (.connect request) =>
    .answer session.handshake request fun
      | some identity, handshake => .done { session with handshake, phase := .persisting identity }
      | none, handshake => { session with handshake }.sending (Farewell.line .refused) .leaving

/-- The storing of an admitted client's record. -/
def persistScript (session : Session) (scene : Scene) (identity : Identity) : Script :=
  .store ⟨session.connection, scene.instant, true⟩ fun
    | .ok () => .done { session with phase := .registering identity }
    | .error _ => .note (session.sending (Farewell.line .unavailable) .leaving)

/-- The entry of an admitted client in the index. -/
def registerScript (session : Session) (scene : Scene) (identity : Identity) : Script :=
  let handle : Handle := ⟨session.connection, identity, scene.instant⟩
  .enter handle fun
    | true => .done { session with phase := .confirming, entry := some handle }
    | false => .done { session with phase := .leaving }

/-- A sign of life. -/
def beatScript (session : Session) (scene : Scene) : Script :=
  .hear session.connection scene.instant fun
    | .ok true => session.sending pong .serving
    | .ok false => session.sending (Farewell.line .stale) .leaving
    | .error (.notFound _) => session.sending (Farewell.line .stale) .leaving
    | .error _ => .note (session.sending pong .serving)

/-- A line from an admitted client. -/
def serveScript (session : Session) (scene : Scene) (read : Except LineFault String) : Script :=
  match commandOf? read with
  | none => session.sending (Farewell.line .unknownOperation) .leaving
  | some .ping => session.beatScript scene
  | some .pong => .done session
  | some (.connect request) =>
    .answer session.handshake request fun
      | some _, handshake => { session with handshake }.sending confirmation .serving
      | none, handshake => { session with handshake }.sending (Farewell.line .refused) .leaving

/-- The end of a session. -/
def releaseScript (session : Session) : Script :=
  let rest : Script := .abandon session.handshake
    (.done { session with phase := .ended, entry := none })
  match session.entry with
  | some _ => .leave session.connection rest
  | none => rest

/-- The script of a step. -/
def script (scene : Scene) (event : Event) (session : Session) : Script :=
  match session.phase, event with
  | .handshaking, .line read => session.greetScript read
  | .handshaking, .closed => .done { session with phase := .leaving }
  | .handshaking, .expired =>
    .count .timedOut (session.sending (Farewell.line .tooSlow) .leaving)
  | .persisting identity, .proceed => session.persistScript scene identity
  | .registering identity, .proceed => session.registerScript scene identity
  | .confirming, .proceed => session.sending confirmation .serving
  | .serving, .line read => session.serveScript scene read
  | .serving, .closed => .done { session with phase := .leaving }
  | .serving, .dismissed => .done { session with phase := .leaving }
  | .leaving, .proceed => session.releaseScript
  | _, _ => .done session

/-! ### Scripts against steps -/

section
variable (session : Session) (scene : Scene) (shared : Shared)

/-- To write a line is a script of one act. -/
theorem run_sending (line : String) (next : Phase) :
    (session.sending line next).run scene shared =
      ([.sent line scene.writable], session.write scene line next, shared) := by
  rw [sending, Script.run, write]
  cases scene.writable <;> rfl

/-- The script of a client that is greeted does what the session does with a line of it. -/
theorem run_greetScript (read : Except LineFault String) :
    ((session.greetScript read).run scene shared).2 = session.greetLine scene shared read := by
  rw [greetScript, greetLine]
  cases commandOf? read with
  | none => exact congrArg Prod.snd (run_sending ..)
  | some command =>
    cases command with
    | ping => exact congrArg Prod.snd (run_sending ..)
    | pong => rfl
    | connect request =>
      -- The script goes on with what the gate answers, and so does the step.
      dsimp only
      rw [Script.run]
      cases shared.authenticate scene session.handshake request with
      | mk verdict rest =>
        cases verdict with
        | none => exact congrArg Prod.snd (run_sending ..)
        | some identity => rfl

/-- The script of a client whose record is stored does what the session does. -/
theorem run_persistScript (identity : Identity) :
    ((session.persistScript scene identity).run scene shared).2 =
      session.persist scene shared identity := by
  rw [persistScript, Script.run, persist]
  cases shared.ledger.callUpsert scene.conditions ⟨session.connection, scene.instant, true⟩ with
  | mk result ledger =>
    cases result with
    | ok => rfl
    | error fault =>
      dsimp only
      rw [Script.run]
      exact congrArg Prod.snd (run_sending ..)

/-- The script of a client that is entered in the index does what the session does. -/
theorem run_registerScript (identity : Identity) :
    ((session.registerScript scene identity).run scene shared).2 =
      session.register scene shared identity := by
  rw [registerScript, Script.run, register]
  dsimp only
  unfold Roster.add
  by_cases htaken : shared.index.contains session.connection = true
  · rw [dif_pos htaken]
    rfl
  · rw [dif_neg htaken]
    rfl

/-- The script of a sign of life does what the session does. -/
theorem run_beatScript :
    ((session.beatScript scene).run scene shared).2 = session.beat scene shared := by
  rw [beatScript, Script.run, beat]
  cases shared.ledger.callHeartbeat scene.conditions session.connection scene.instant with
  | mk result ledger =>
    cases result with
    | ok isActive => cases isActive <;> exact congrArg Prod.snd (run_sending ..)
    | error fault =>
      cases fault with
      -- Of all failures, only that there is no such record is taken for a retired client.
      | notFound => exact congrArg Prod.snd (run_sending ..)
      | conflict | unexpected =>
        dsimp only
        rw [Script.run]
        exact congrArg Prod.snd (run_sending ..)

/-- The script of an admitted client does what the session does with a line of it. -/
theorem run_serveScript (read : Except LineFault String) :
    ((session.serveScript scene read).run scene shared).2 =
      session.serveLine scene shared read := by
  rw [serveScript, serveLine]
  cases commandOf? read with
  | none => exact congrArg Prod.snd (run_sending ..)
  | some command =>
    cases command with
    | ping => exact run_beatScript ..
    | pong => rfl
    | connect request =>
      dsimp only
      rw [Script.run]
      cases shared.authenticate scene session.handshake request with
      | mk verdict rest => cases verdict <;> exact congrArg Prod.snd (run_sending ..)

/-- The script of a session that gives back what it holds does what the session does. -/
theorem run_releaseScript :
    (session.releaseScript.run scene shared).2 = session.release shared := by
  rw [releaseScript, release]
  cases session.entry <;> rfl

/-- Running the script of a step is the step. -/
theorem run_script (event : Event) :
    ((session.script scene event).run scene shared).2 = step scene event session shared := by
  unfold script step
  generalize session.phase = phase
  split
  · exact run_greetScript ..
  · rfl
  · rw [Script.run]
    exact congrArg Prod.snd (run_sending ..)
  · exact run_persistScript ..
  · exact run_registerScript ..
  · exact congrArg Prod.snd (run_sending ..)
  · exact run_serveScript ..
  · rfl
  · rfl
  · exact run_releaseScript ..
  · -- What the phase does not wait for is nothing to the step either. The other cases are
    -- those above.
    cases phase <;> cases event <;> simp_all [Script.run]

end

end Session

namespace Session

/-! ### What the calls change -/

namespace Shared

variable (shared : Shared) (scene : Scene) (handshake : Handshake) (request : Request)

/-- Of what sessions share, a verdict changes the gate, as the gate's own answer does, and
counters and throttles. -/
theorem authenticate_eq :
    ∃ authThrottle metrics, shared.authenticate scene handshake request =
      ((shared.gate.answer handshake request scene.moment).1.toOption,
        (shared.gate.answer handshake request scene.moment).2.1,
        { shared with
          gate := (shared.gate.answer handshake request scene.moment).2.2
          authThrottle, metrics }) := by
  rw [authenticate]
  cases shared.gate.answer handshake request scene.moment with
  | mk verdict rest => cases verdict <;> exact ⟨_, _, rfl⟩

end Shared

/-- The ledger after a record was stored follows from the act in the log. -/
theorem snd_callUpsert (conditions : Conditions) (ledger : Ledger) (record : Connection) :
    (ledger.callUpsert conditions record).2 =
      Act.onLedger ledger (.stored record (ledger.callUpsert conditions record).1) := by
  rw [callUpsert, guarded]
  cases conditions.failing .upsertConnection <;> rfl

/-- The ledger after a sign of life follows from the act in the log. -/
theorem snd_callHeartbeat (conditions : Conditions) (ledger : Ledger) (connection : String)
    (at_ : Timestamp) :
    (ledger.callHeartbeat conditions connection at_).2 =
      Act.onLedger ledger
        (.heard connection at_ (ledger.callHeartbeat conditions connection at_).1) := by
  rw [callHeartbeat, guarded]
  cases conditions.failing .recordHeartbeat with
  | some fault => rfl
  | none =>
    -- Without a record there is no effect, and the call says so by failing.
    dsimp only
    cases hheard : ledger.heartbeat? connection at_ with
    | none => rfl
    | some outcome => simp [Act.onLedger, hheard]

/-- The index after an entry follows from the act in the log. -/
theorem snd_add_index (index : Roster String Handle) (handle : Handle) :
    (index.add handle.connection handle).2 =
      Act.onIndex index (.entered handle (index.add handle.connection handle).1) := by
  rw [Roster.add]
  by_cases htaken : index.contains handle.connection = true
  · rw [dif_pos htaken]
    rfl
  · rw [dif_neg htaken, Act.onIndex, Roster.add, dif_neg htaken]

namespace Script

variable (scene : Scene) (script : Script) (shared : Shared)

/-- The ledger changes by the calls of the log, and by nothing else. -/
theorem ledger_run :
    (script.run scene shared).2.2.ledger =
      (script.run scene shared).1.foldl Act.onLedger shared.ledger := by
  induction script generalizing shared with
  | done => rfl
  | send line next ih => exact ih _ shared
  | answer handshake request next ih =>
    obtain ⟨authThrottle, metrics, hverdict⟩ := shared.authenticate_eq scene handshake request
    rw [run, hverdict]
    exact ih _ _ _
  -- Only these two calls reach the ledger.
  | store record next ih =>
    rw [run]
    refine (ih _ _).trans ?_
    rw [List.foldl_cons, ← snd_callUpsert]
  | hear connection at_ next ih =>
    rw [run]
    refine (ih _ _).trans ?_
    rw [List.foldl_cons, ← snd_callHeartbeat]
  | enter handle next ih => exact ih _ _
  | leave connection next ih => exact ih _
  | abandon handshake next ih => exact ih _
  | note next ih => exact ih _
  | count metric next ih => exact ih _

/-- The index changes by the calls of the log, and by nothing else. -/
theorem index_run :
    (script.run scene shared).2.2.index =
      (script.run scene shared).1.foldl Act.onIndex shared.index := by
  induction script generalizing shared with
  | done => rfl
  | send line next ih => exact ih _ shared
  | answer handshake request next ih =>
    obtain ⟨authThrottle, metrics, hverdict⟩ := shared.authenticate_eq scene handshake request
    rw [run, hverdict]
    exact ih _ _ _
  | store record next ih => exact ih _ _
  | hear connection at_ next ih => exact ih _ _
  -- To enter may be refused, which the log tells too.
  | enter handle next ih =>
    rw [run]
    refine (ih _ _).trans ?_
    rw [List.foldl_cons, ← snd_add_index]
  | leave connection next ih => exact ih _
  | abandon handshake next ih => exact ih _
  | note next ih => exact ih _
  | count metric next ih => exact ih _

/-- No call changes the policy. -/
theorem policy_run :
    (script.run scene shared).2.2.gate.policy = shared.gate.policy := by
  induction script generalizing shared with
  | done => rfl
  | send line next ih => exact ih _ shared
  | answer handshake request next ih =>
    obtain ⟨authThrottle, metrics, hverdict⟩ := shared.authenticate_eq scene handshake request
    rw [run, hverdict]
    -- The gate is used by an answer and when a handshake is abandoned.
    exact (ih _ _ _).trans (Gate.policy_answer ..)
  | store record next ih => exact ih _ _
  | hear connection at_ next ih => exact ih _ _
  | enter handle next ih => exact ih _ _
  | leave connection next ih => exact ih _
  | abandon handshake next ih => exact (ih _).trans (Gate.policy_abandon ..)
  | note next ih => exact ih _
  | count metric next ih => exact ih _

end Script

/-- Calls that do not go to the ledger leave it as it is. -/
theorem foldl_onLedger {acts : List Act} (h : ∀ act ∈ acts, act.isStorage = false)
    (ledger : Ledger) : acts.foldl Act.onLedger ledger = ledger := by
  induction acts generalizing ledger with
  | nil => rfl
  | cons act rest ih =>
    have hact := h act List.mem_cons_self
    have hrest := ih fun act hmem => h act (List.mem_cons_of_mem _ hmem)
    cases act with
    | stored | heard => cases hact
    | sent | answered | entered | left => exact hrest ledger

/-- Calls that do not go to the index leave it as it is. -/
theorem foldl_onIndex {acts : List Act} (h : ∀ act ∈ acts, act.isIndexing = false)
    (index : Roster String Handle) : acts.foldl Act.onIndex index = index := by
  induction acts generalizing index with
  | nil => rfl
  | cons act rest ih =>
    have hact := h act List.mem_cons_self
    have hrest := ih fun act hmem => h act (List.mem_cons_of_mem _ hmem)
    cases act with
    | entered | left => cases hact
    | sent | answered | stored | heard => exact hrest index

end Session

end Gatekeeper
