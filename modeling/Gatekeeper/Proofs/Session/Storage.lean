import Gatekeeper.Proofs.Session.Lobby

/-!
# `Gatekeeper.Proofs.Session.Storage`: what one turn does to the ledger

Of all calls of a session only two change the ledger: the record that it stores once, and a sign
of life that is taken. Both leave the reading of the clock behind as the time at which the client
was last heard of, and the answer to a sign of life tells whether the record still counts as
live.

* `recorded?`: the latest time that a session left in its record.
* `keeping_turn`: a turn stores the record, has a sign of life taken, or leaves the ledger alone.
* `turn_ping`: what a ping that storage takes leads to.
-/

set_option autoImplicit false

namespace Gatekeeper.Session

open Gatekeeper.Handshake Gatekeeper.Ledger Gatekeeper.Wire

/-- The time that the call left in the record of its connection. -/
def Act.recorded? : Act → Option Timestamp
  | stored record (.ok ()) => some record.lastHeartbeat
  | heard _ at_ (.ok _) => some at_
  | _ => none

/-- The latest time that the calls left in the record. -/
def recorded? (acts : List Act) : Option Timestamp := (acts.filterMap Act.recorded?).getLast?

/-- Calls that record no time leave the latest one. -/
theorem recorded?_append_of_eq_nil {acts new : List Act} (h : new.filterMap Act.recorded? = []) :
    recorded? (acts ++ new) = recorded? acts := by
  unfold recorded?
  rw [List.filterMap_append, h, List.append_nil]

/-- A call that records a time makes it the latest one. -/
theorem recorded?_append_of_eq_singleton {acts new : List Act} {at_ : Timestamp}
    (h : new.filterMap Act.recorded? = [at_]) : recorded? (acts ++ new) = some at_ := by
  unfold recorded?
  rw [List.filterMap_append, h, List.getLast?_concat]

/-- Calls that leave no time behind leave the ledger as it is. -/
theorem foldl_onLedger_of_recorded {acts : List Act} (h : acts.filterMap Act.recorded? = [])
    (ledger : Ledger) : acts.foldl Act.onLedger ledger = ledger := by
  induction acts generalizing ledger with
  | nil => rfl
  | cons act rest ih =>
    rw [List.filterMap_cons] at h
    cases act with
    | stored record result =>
      cases result with
      | ok => cases h
      | error fault => exact ih h ledger
    | heard connection at_ result =>
      cases result with
      | ok isActive => cases h
      | error fault => exact ih h ledger
    | sent | answered | entered | left => exact ih h ledger

/-! ### One turn -/

/-- The answer to a sign of life that was taken. -/
def reply (isActive : Bool) : String := if isActive then pong else Farewell.stale.line

/-- What one turn does with the ledger: the calls that it makes, the session and the ledger
after it. -/
inductive Keeping (scene : Scene) (session : Session) (ledger : Ledger) :
    List Act → Session → Ledger → Prop where
  /-- Nothing is stored, and no sign of life is taken. -/
  | nothing {acts : List Act} {session' : Session} (none : acts.filterMap Act.recorded? = []) :
    Keeping scene session ledger acts session' ledger
  /-- The record is stored. -/
  | stored {identity : Identity} (due : session.phase = .persisting identity) :
    Keeping scene session ledger [.stored ⟨session.connection, scene.instant, true⟩ (.ok ())]
      { session with phase := .registering identity }
      (ledger.upsertConnection ⟨session.connection, scene.instant, true⟩)
  /-- A sign of life is taken, and answered by what the record says. -/
  | heard {record : Connection} (due : session.phase = .serving)
      (found : ledger.connections.find? session.connection = some record) :
    Keeping scene session ledger
      [.heard session.connection scene.instant (.ok record.isActive),
        .sent (reply record.isActive) scene.writable]
      (session.write scene (reply record.isActive) (if record.isActive then .serving else .leaving))
      { ledger with
        connections := ledger.connections.set session.connection
          { record with lastHeartbeat := scene.instant } }

section
variable {scene : Scene} {session : Session} {shared : Shared}

/-- A step whose calls leave no time behind. -/
theorem keeping_of_recorded {script : Script}
    (h : (script.run scene shared).1.filterMap Act.recorded? = []) :
    Keeping scene session shared.ledger (script.run scene shared).1
      (script.run scene shared).2.1 (script.run scene shared).2.2.ledger := by
  rw [Script.ledger_run, foldl_onLedger_of_recorded h]
  exact .nothing h

/-- Writing a line does nothing with the ledger. -/
theorem keeping_sending (line : String) (next : Phase) :
    Keeping scene session shared.ledger ((session.sending line next).run scene shared).1
      ((session.sending line next).run scene shared).2.1
      ((session.sending line next).run scene shared).2.2.ledger := by
  apply keeping_of_recorded
  rw [run_sending]
  rfl

/-- Answering a request records no time, whatever comes of it. -/
theorem recorded_run_answer (handshake : Handshake) (request : Request)
    (next : Option Identity → Handshake → Script)
    (h : ∀ verdict handshake shared,
      ((next verdict handshake).run scene shared).1.filterMap Act.recorded? = []) :
    ((Script.answer handshake request next).run scene shared).1.filterMap Act.recorded? = [] := by
  rw [Script.run]
  exact h _ _ _

/-- A client that is not admitted yet does nothing with the ledger. -/
theorem keeping_greet (read : Except LineFault String) :
    Keeping scene session shared.ledger ((session.greetScript read).run scene shared).1
      ((session.greetScript read).run scene shared).2.1
      ((session.greetScript read).run scene shared).2.2.ledger := by
  apply keeping_of_recorded
  unfold greetScript
  split
  · rw [run_sending]
    rfl
  · rw [run_sending]
    rfl
  · rfl
  -- The verdict is all that a request gets here. What an admission stores comes with later
  -- steps.
  · apply recorded_run_answer
    intro verdict handshake shared
    cases verdict with
    | none =>
      dsimp only
      rw [run_sending]
      rfl
    | some identity => rfl

/-- A client that was admitted has its record stored, or is told that it could not be. -/
theorem keeping_persist {identity : Identity} (due : session.phase = .persisting identity) :
    Keeping scene session shared.ledger ((session.persistScript scene identity).run scene shared).1
      ((session.persistScript scene identity).run scene shared).2.1
      ((session.persistScript scene identity).run scene shared).2.2.ledger := by
  unfold persistScript
  rw [Script.run, callUpsert, guarded]
  cases scene.conditions.failing .upsertConnection with
  | some fault =>
    dsimp only
    rw [Script.run, run_sending]
    exact .nothing rfl
  | none => exact .stored due

/-- A sign of life is taken where there is a record and storage is in order. -/
theorem run_beatScript_of_found (calm : scene.conditions.failing .recordHeartbeat = none)
    {record : Connection}
    (found : shared.ledger.connections.find? session.connection = some record) :
    (session.beatScript scene).run scene shared =
      ([.heard session.connection scene.instant (.ok record.isActive),
          .sent (reply record.isActive) scene.writable],
        session.write scene (reply record.isActive)
          (if record.isActive then .serving else .leaving),
        { shared with
          ledger := { shared.ledger with
            connections := shared.ledger.connections.set session.connection
              { record with lastHeartbeat := scene.instant } } }) := by
  have hheard : shared.ledger.callHeartbeat scene.conditions session.connection scene.instant =
      (.ok record.isActive, { shared.ledger with
        connections := shared.ledger.connections.set session.connection
          { record with lastHeartbeat := scene.instant } }) := by
    rw [callHeartbeat, guarded, calm, heartbeat?, found]
    rfl
  unfold beatScript
  rw [Script.run, hheard]
  cases record.isActive <;>
    · dsimp only
      rw [run_sending]
      rfl

/-- A sign of life moves the time of the record, or is answered by why it could not. -/
theorem keeping_beat (due : session.phase = .serving) :
    Keeping scene session shared.ledger ((session.beatScript scene).run scene shared).1
      ((session.beatScript scene).run scene shared).2.1
      ((session.beatScript scene).run scene shared).2.2.ledger := by
  cases hfailing : scene.conditions.failing .recordHeartbeat with
  -- A failed call leaves no time behind, whatever is written then.
  | some fault =>
    unfold beatScript
    rw [Script.run, callHeartbeat, guarded, hfailing]
    cases fault with
    | notFound =>
      dsimp only
      rw [run_sending]
      exact .nothing rfl
    | conflict | unexpected =>
      dsimp only
      rw [Script.run, run_sending]
      exact .nothing rfl
  | none =>
    cases hfind : shared.ledger.connections.find? session.connection with
    | none =>
      unfold beatScript
      rw [Script.run, callHeartbeat, guarded, hfailing, heartbeat?, hfind]
      dsimp only [Option.map_none]
      rw [run_sending]
      exact .nothing rfl
    | some record =>
      rw [run_beatScript_of_found hfailing hfind]
      exact .heard due hfind

/-- An admitted client does something with the ledger only by a sign of life. -/
theorem keeping_serve (due : session.phase = .serving) (read : Except LineFault String) :
    Keeping scene session shared.ledger ((session.serveScript scene read).run scene shared).1
      ((session.serveScript scene read).run scene shared).2.1
      ((session.serveScript scene read).run scene shared).2.2.ledger := by
  unfold serveScript
  split
  · exact keeping_sending _ _
  · exact keeping_beat due
  · exact .nothing rfl
  -- A second connect is answered without storage.
  · apply keeping_of_recorded
    apply recorded_run_answer
    intro verdict handshake shared
    cases verdict <;>
      · dsimp only
        rw [run_sending]
        rfl

/-- Every event of a session is one of these. -/
theorem keeping_script (event : Event) :
    Keeping scene session shared.ledger ((session.script scene event).run scene shared).1
      ((session.script scene event).run scene shared).2.1
      ((session.script scene event).run scene shared).2.2.ledger := by
  unfold script
  generalize hphase : session.phase = phase
  -- Two phases call the ledger: the one that stores the record and the one that serves.
  split
  · exact keeping_greet _
  · exact .nothing rfl
  · rw [Script.run]
    exact keeping_sending _ _
  · exact keeping_persist hphase
  · -- The index is none of the ledger's business.
    apply keeping_of_recorded
    unfold registerScript
    rw [Script.run]
    dsimp only
    cases (shared.index.add session.connection _).1 <;> rfl
  · exact keeping_sending _ _
  · exact keeping_serve hphase _
  · exact .nothing rfl
  · exact .nothing rfl
  · apply keeping_of_recorded
    unfold releaseScript
    cases session.entry <;> rfl
  · exact .nothing rfl

end

/-- A turn stores the record, has a sign of life taken, or leaves the ledger alone. -/
theorem Seat.keeping_turn (maxLine : UInt64) (scene : Scene) (seat : Seat) (shared : Shared)
    (turn : Turn) :
    ∃ acts, Keeping scene seat.session shared.ledger acts
        (seat.turn maxLine scene shared turn).1.session
        (seat.turn maxLine scene shared turn).2.ledger ∧
      (seat.turn maxLine scene shared turn).1.acts = seat.acts ++ acts := by
  obtain ⟨unread, finished, event?, hturn⟩ := seat.turn_eq maxLine scene turn
  rw [hturn]
  cases event? with
  | none => exact ⟨[], .nothing rfl, (List.append_nil _).symm⟩
  | some event => exact ⟨_, keeping_script event, rfl⟩

/-! ### What the log tells -/

/-- Chatter records no time. -/
theorem recorded_of_isChatter {acts : List Act} (h : ∀ act ∈ acts, act.isChatter = true) :
    acts.filterMap Act.recorded? = [] := by
  rw [List.filterMap_eq_nil_iff]
  intro act hmem
  have hchatter := h act hmem
  cases act with
  | sent => rfl
  | _ => cases hchatter

/-- A session that is to store its record left no time behind yet. -/
theorem Course.recorded?_persisting {connection : String} {identity : Identity}
    {entry : Option Handle} {acts : List Act}
    (h : Course connection (.persisting identity) entry acts) : recorded? acts = none := by
  cases h with
  | persisting chatter =>
    unfold recorded?
    rw [List.filterMap_append, recorded_of_isChatter chatter]
    rfl

/-- A session that serves its client stored the record. -/
theorem Course.recorded?_serving {connection : String} {entry : Option Handle} {acts : List Act}
    (h : Course connection .serving entry acts) : (recorded? acts).isSome := by
  cases h with
  | serving admission service =>
    obtain ⟨chatter, at_, -, hcalls⟩ := admission.calls
    unfold recorded?
    rw [List.getLast?_isSome, List.filterMap_append, hcalls, List.filterMap_append]
    simp [Act.recorded?]

/-! ### Pings and endings -/

section
variable {maxLine : UInt64} {scene : Scene} {seat : Seat} {shared : Shared}

/-- The next thing that the session does is to take a ping that has arrived. -/
structure Seat.HearsPing (maxLine : UInt64) (seat : Seat) : Prop where
  serving : seat.session.phase = .serving
  arrived : ∃ read rest,
    find maxLine seat.reception.finished seat.reception.unread = .line read rest ∧
      commandOf? read = some .ping

/-- A line that has arrived is what the session acts on. -/
theorem turn_line {read : Except LineFault String} {rest : List UInt8}
    (hwaiting : seat.session.isWaiting = true)
    (hline : find maxLine seat.reception.finished seat.reception.unread = .line read rest) :
    let after := (seat.turn maxLine scene shared .went).1
    after.acts = seat.acts ++ ((seat.session.script scene (.line read)).run scene shared).1 ∧
      after.session = ((seat.session.script scene (.line read)).run scene shared).2.1 := by
  intro after
  have hafter : after = ((Seat.mk { seat.reception with unread := rest } seat.acts).act scene
      (.line read) shared).1 := by
    simp [after, Seat.turn, hwaiting, hline]
  rw [hafter]
  exact ⟨rfl, rfl⟩

/-- A ping that storage takes is answered by what the record says. -/
theorem turn_ping (h : seat.HearsPing maxLine)
    (calm : scene.conditions.failing .recordHeartbeat = none) {record : Connection}
    (found : shared.ledger.connections.find? seat.session.connection = some record) :
    let after := (seat.turn maxLine scene shared .went).1
    after.acts = seat.acts ++
        [.heard seat.session.connection scene.instant (.ok record.isActive),
          .sent (reply record.isActive) scene.writable] ∧
      after.session = seat.session.write scene (reply record.isActive)
        (if record.isActive then .serving else .leaving) := by
  obtain ⟨due, read, rest, hline, hping⟩ := h
  have hwaiting : seat.session.isWaiting = true := by simp [isWaiting, due]
  -- While the session serves, a ping is a sign of life.
  have hscript : seat.session.script scene (.line read) = seat.session.beatScript scene := by
    unfold script
    rw [due]
    dsimp only
    unfold serveScript
    rw [hping]
  intro after
  obtain ⟨hacts, hsession⟩ : after.acts = seat.acts ++ _ ∧ after.session = _ :=
    turn_line hwaiting hline
  rw [hscript, run_beatScript_of_found calm found] at hacts hsession
  exact ⟨hacts, hsession⟩

/-- A session that leaves ends with its next step. -/
theorem turn_leaving (h : seat.session.phase = .leaving) :
    (seat.turn maxLine scene shared .went).1.session.phase = .ended := by
  have hbusy : seat.session.isWaiting = false := by simp [isWaiting, h]
  rw [Seat.turn, hbusy]
  show ((seat.session.script scene .proceed).run scene shared).2.1.phase = .ended
  rw [run_script]
  simp only [step, h, release]

end

end Gatekeeper.Session
