import Gatekeeper.Proofs.Session.Storage
import Gatekeeper.Proofs.Sweep.Retirement

/-!
# `Gatekeeper.Proofs.Session.Watch`: sessions under a sweeper

A watch is a lobby whose ledger one sweeper goes over, sweep after sweep and pass by pass. Any
session may take a turn between two passes. The sessions and the sweeper read one clock, and a
session reads it in the turn that uses the reading. A session has the connection id of its name,
so no id is used twice.

* `Effect`, `effect_step`: all that one event can do to the record of one connection.
* `due_step`: an update of connections is due only after a query that succeeded.
* `agrees_step`: the record of a connection has the latest time that its session recorded.
* `isRetired_run`: no inactive record comes back.
-/

set_option autoImplicit false

namespace Gatekeeper.Session

open Gatekeeper.Handshake Gatekeeper.Ledger Gatekeeper.Sweep

/-! ### The system -/

/-- A sweep that is under way: the reading of the clock that it began with, the bounds that the
rule gives it, and how far it is. -/
structure Round (rule : Rule) where
  time : Timestamp
  bounds : Rule.Bounds
  ruled : rule.bounds? time = some bounds
  progress : Progress

/-- The sweep that begins at a reading of the clock, if the rule has bounds for it. -/
def Round.begin? (rule : Rule) (now : Timestamp) : Option (Round rule) :=
  match h : rule.bounds? now with
  | some bounds => some ⟨now, bounds, h, .start⟩
  | none => none

/-- A lobby, and the sweep that is going over its ledger. -/
structure Watch (rule : Rule) where
  lobby : Lobby
  round : Option (Round rule)

namespace Watch

/-- One thing that happens under a sweeper. -/
inductive Event where
  /-- A session is opened for a client. -/
  | opened (connection : String) (scene : Scene) (draws : List Nonce.Draw)
  /-- Something happens to a session. -/
  | turned (connection : String) (scene : Scene) (turn : Turn)
  /-- A child is added. -/
  | added (kind : Kind) (record : Child)
  /-- The next sweep begins. -/
  | began (now : Timestamp)
  /-- The pass that is due; the given calls fail. -/
  | passed (failing : Call → Option Fault)

namespace Event

/-- The reading of the clock that comes with the event. -/
def reading? : Event → Option Timestamp
  | opened _ scene _ | turned _ scene _ => some scene.instant
  | began now => some now
  | added _ _ | passed _ => none

/-- Whether the event is a pass of the sweep. -/
def isPass : Event → Bool
  | passed _ => true
  | _ => false

end Event

/-- The clock never goes back. -/
def Timely (events : List Event) : Prop :=
  (events.filterMap Event.reading?).Pairwise (· ≤ ·)

instance (events : List Event) : Decidable (Timely events) :=
  inferInstanceAs (Decidable (List.Pairwise _ _))

/-- A lobby without sessions, and no sweep yet. -/
def start (rule : Rule) (maxLine : UInt64) (policy : Policy) (ledger : Ledger)
    (authThrottle storeThrottle acceptThrottle : Throttle) (metrics : Metrics) : Watch rule :=
  ⟨Lobby.start maxLine policy ledger authThrottle storeThrottle acceptThrottle metrics, none⟩

variable {rule : Rule}

/-- What an event does. A sweep begins when the one before is finished. -/
def step (watch : Watch rule) : Event → Watch rule
  | .opened connection scene draws =>
    { watch with lobby := watch.lobby.step (.opened connection connection scene draws) }
  | .turned connection scene turn =>
    { watch with lobby := watch.lobby.step (.turned connection scene turn) }
  | .added kind record =>
    { watch with
      lobby := watch.lobby.step (.swept fun ledger =>
        (Traffic.insertChild ledger kind record).2) }
  | .began now =>
    match watch.round with
    | some _ => watch
    | none => { watch with round := Round.begin? rule now }
  | .passed failing =>
    match watch.round with
    | none => watch
    | some round =>
      let after := round.progress.step (.failures failing) round.bounds watch.lobby.shared.ledger
      { lobby := watch.lobby.step (.swept fun _ => after.2)
        round :=
          if after.1.pass = .finished then none else some { round with progress := after.1 } }

/-- A run of events. -/
def run (watch : Watch rule) (events : List Event) : Watch rule := events.foldl step watch

/-- A run may be cut anywhere. -/
theorem run_append (watch : Watch rule) (front back : List Event) :
    watch.run (front ++ back) = (watch.run front).run back := List.foldl_append

/-- A run with one more event is a step more. -/
theorem run_concat (watch : Watch rule) (events : List Event) (event : Event) :
    watch.run (events ++ [event]) = (watch.run events).step event := run_append ..

/-- The record of a connection. -/
def record? (watch : Watch rule) (id : String) : Option Connection :=
  watch.lobby.shared.ledger.connections.find? id

/-- The latest time that the session of a connection recorded. -/
def recorded? (watch : Watch rule) (id : String) : Option Timestamp :=
  (watch.lobby.seats.find? id).bind fun seat => Session.recorded? seat.acts

/-- The query of a sweep that began at a time is due. -/
def QueryDue (watch : Watch rule) (time : Timestamp) : Prop :=
  ∃ round, watch.round = some round ∧ round.time = time ∧ round.progress.pass = .findStale

/-- The update of connections is due, with what the query found. -/
def UpdateDue (watch : Watch rule) (round : Round rule) (stale : List String) : Prop :=
  watch.round = some round ∧ round.progress.pass = .retireConnections stale

/-! ### What one event does -/

variable {watch : Watch rule}

/-- A session is opened under a name that no session has, and gets that name as its id. -/
theorem opened_cases (lobby : Lobby) (connection : String) (scene : Scene)
    (draws : List Nonce.Draw) :
    let after := lobby.step (.opened connection connection scene draws)
    after = lobby ∨ lobby.seats.find? connection = none ∧ ∃ session gate,
      session.connection = connection ∧
      after = { lobby with
        shared := { lobby.shared with gate }
        seats := lobby.seats.set connection (.opened scene session) } := by
  rw [Lobby.step]
  split
  · exact .inl rfl
  next hfresh =>
    have hnobody := Roster.contains_eq_false_iff.mp (Bool.not_eq_true _ ▸ hfresh)
    split
    · exact .inl rfl
    next session shared rest hopen =>
      obtain ⟨handshake, gate, -, hsession, hshared⟩ := Lobby.open?_session_cases hopen
      refine .inr ⟨hnobody, session, gate, ?_, ?_⟩
      · rw [hsession, connection_write]
      · rw [hshared]

/-- A turn of a session that is there changes its seat and what is shared, and not the sweep. -/
theorem step_turned {connection : String} {seat : Seat}
    (hseat : watch.lobby.seats.find? connection = some seat) (scene : Scene) (turn : Turn) :
    watch.step (.turned connection scene turn) =
      { watch with
        lobby := { watch.lobby with
          shared := (seat.turn watch.lobby.maxLine scene watch.lobby.shared turn).2
          seats := watch.lobby.seats.set connection
            (seat.turn watch.lobby.maxLine scene watch.lobby.shared turn).1 } } :=
  congrArg (fun lobby => { watch with lobby }) (Lobby.step_turned hseat scene turn)

/-- Nothing happens to a session that there is not. -/
theorem step_turned_of_not_find? {connection : String}
    (hnobody : watch.lobby.seats.find? connection = none) (scene : Scene) (turn : Turn) :
    watch.step (.turned connection scene turn) = watch := by
  rw [step, Lobby.step, hnobody]

/-- What every watch keeps: its lobby is sound, records stand under their own ids, and sessions
under theirs. -/
structure Sound (watch : Watch rule) : Prop where
  lobby : watch.lobby.Sound
  filed : watch.lobby.shared.ledger.Filed
  named : ∀ name seat, watch.lobby.seats.find? name = some seat → seat.session.connection = name

/-- What a turn does to the ledger keeps records under their own ids. -/
theorem filed_keeping {scene : Scene} {session session' : Session} {ledger ledger' : Ledger}
    {acts : List Act} (hfiled : ledger.Filed)
    (h : Keeping scene session ledger acts session' ledger') : ledger'.Filed := by
  cases h with
  | nothing => exact hfiled
  | stored => exact hfiled.upsertConnection _
  | heard due found =>
    have hid := hfiled.connections _ _ found
    exact { hfiled with connections := hfiled.connections.set hid }

/-- Every event keeps a watch sound. -/
theorem sound_step (hsound : watch.Sound) (event : Event) : (watch.step event).Sound := by
  obtain ⟨hlobby, hfiled, hnamed⟩ := hsound
  cases event with
  | opened connection scene draws =>
    refine ⟨Lobby.sound_step hlobby (.opened connection connection scene draws), ?_, ?_⟩
    · show (watch.lobby.step (.opened connection connection scene draws)).shared.ledger.Filed
      obtain heq | ⟨-, session, gate, -, heq⟩ := opened_cases watch.lobby connection scene draws
      · rw [heq]
        exact hfiled
      · rw [heq]
        exact hfiled
    -- A session is filed under its own connection: the new one because it is opened so.
    · intro name seat hfind
      change (watch.lobby.step (.opened connection connection scene draws)).seats.find? name =
        some seat at hfind
      obtain heq | ⟨-, session, gate, hconnection, heq⟩ :=
        opened_cases watch.lobby connection scene draws
      · rw [heq] at hfind
        exact hnamed name seat hfind
      · rw [heq, Roster.find?_set] at hfind
        split at hfind
        next hname =>
          cases hfind
          exact hconnection.trans hname.symm
        next => exact hnamed name seat hfind
  | turned connection scene turn =>
    -- A turn of nobody changes nothing.
    cases hseat : watch.lobby.seats.find? connection with
    | none =>
      rw [step_turned_of_not_find? hseat]
      exact ⟨hlobby, hfiled, hnamed⟩
    | some before =>
      refine ⟨Lobby.sound_step hlobby (.turned connection scene turn), ?_, ?_⟩
      · rw [step_turned hseat]
        obtain ⟨acts, hkeeping, -⟩ :=
          before.keeping_turn watch.lobby.maxLine scene watch.lobby.shared turn
        exact filed_keeping hfiled hkeeping
      · intro name seat hfind
        rw [step_turned hseat, Roster.find?_set] at hfind
        split at hfind
        next hname =>
          cases hfind
          -- The turn may change all of a session but its connection.
          obtain ⟨acts, hmove, -⟩ :=
            before.move_turn watch.lobby.maxLine scene watch.lobby.shared turn
          rw [connection_move hmove, hname]
          exact hnamed connection before hseat
        next => exact hnamed name seat hfind
  | added kind record =>
    refine ⟨?_, ?_, hnamed⟩
    · exact Lobby.sound_step hlobby (.swept fun ledger =>
        (Traffic.insertChild ledger kind record).2)
    · cases kind with
      | producer => exact hfiled.insertProducer record
      | consumer => exact hfiled.insertConsumer record
  | began now =>
    rw [step]
    split <;> exact ⟨hlobby, hfiled, hnamed⟩
  | passed failing =>
    rw [step]
    split
    · exact ⟨hlobby, hfiled, hnamed⟩
    next round hround =>
      refine ⟨?_, Traffic.filed_pass hfiled, hnamed⟩
      exact Lobby.sound_step hlobby (.swept fun _ => (round.progress.step (.failures failing)
        round.bounds watch.lobby.shared.ledger).2)

/-- So does a run of events, by induction. -/
theorem sound_run (hsound : watch.Sound) (events : List Event) : (watch.run events).Sound := by
  induction events generalizing watch with
  | nil => exact hsound
  | cons event rest ih => exact ih (sound_step hsound event)

/-- Whether the event is an update of connections that is due and succeeds. -/
def Updates (watch : Watch rule) (event : Event) : Prop :=
  ∃ failing round stale, event = .passed failing ∧ watch.UpdateDue round stale ∧
    failing .deactivateConnections = none

/-- What one event can do to a connection: the latest time that its session recorded, and its
record, after it. -/
inductive Effect (watch : Watch rule) (id : String) :
    Event → Option Timestamp → Option Connection → Prop where
  /-- Nothing. -/
  | still {event : Event} (other : ¬watch.Updates event) :
    Effect watch id event (watch.recorded? id) (watch.record? id)
  /-- The session stores the record, which it did not do before. -/
  | stored {scene : Scene} {turn : Turn} (fresh : watch.recorded? id = none) :
    Effect watch id (.turned id scene turn) (some scene.instant) (some ⟨id, scene.instant, true⟩)
  /-- A sign of life is taken. -/
  | heard {scene : Scene} {turn : Turn} {record : Connection}
      (found : watch.record? id = some record) :
    Effect watch id (.turned id scene turn) (some scene.instant)
      (some { record with lastHeartbeat := scene.instant })
  /-- The update of connections judges the record by the time that is stored then. -/
  | updated {failing : Call → Option Fault} {round : Round rule} {stale : List String}
      (due : watch.UpdateDue round stale) (calm : failing .deactivateConnections = none) :
    Effect watch id (.passed failing) (watch.recorded? id)
      ((watch.record? id).map fun record =>
        if id ∈ stale then record.liveFrom round.bounds.cutoff else record)

/-- An event that is no pass of the sweep updates no connection. -/
theorem not_updates_of_not_isPass {event : Event} (h : event.isPass = false) :
    ¬watch.Updates event := by
  rintro ⟨failing, round, stale, rfl, -⟩
  cases h

/-- What a connection's session recorded is in the log of its seat. -/
theorem recorded?_of_find? {id : String} {seat : Seat}
    (h : watch.lobby.seats.find? id = some seat) :
    watch.recorded? id = Session.recorded? seat.acts := by
  rw [recorded?, h, Option.bind_some]

/-- Without a session, nothing was recorded. -/
theorem recorded?_of_not_find? {id : String} (h : watch.lobby.seats.find? id = none) :
    watch.recorded? id = none := by
  rw [recorded?, h, Option.bind_none]

/-- A turn of the connection's own session. -/
theorem effect_own_turn (hsound : watch.Sound) {id : String} {seat : Seat}
    (hseat : watch.lobby.seats.find? id = some seat) (scene : Scene) (turn : Turn) :
    Effect watch id (.turned id scene turn) ((watch.step (.turned id scene turn)).recorded? id)
      ((watch.step (.turned id scene turn)).record? id) := by
  have hname := hsound.named id seat hseat
  obtain ⟨acts, hkeeping, hacts⟩ :=
    seat.keeping_turn watch.lobby.maxLine scene watch.lobby.shared turn
  rw [step_turned hseat]
  have hrecorded : recorded? { watch with
      lobby := { watch.lobby with
        shared := (seat.turn watch.lobby.maxLine scene watch.lobby.shared turn).2
        seats := watch.lobby.seats.set id
          (seat.turn watch.lobby.maxLine scene watch.lobby.shared turn).1 } } id =
      Session.recorded? (seat.acts ++ acts) := by
    rw [recorded?, Roster.find?_set, if_pos rfl, Option.bind_some, hacts]
  rw [hrecorded]
  show Effect watch id _ _
    ((seat.turn watch.lobby.maxLine scene watch.lobby.shared turn).2.ledger.connections.find? id)
  generalize (seat.turn watch.lobby.maxLine scene watch.lobby.shared turn).1.session = session',
    (seat.turn watch.lobby.maxLine scene watch.lobby.shared turn).2.ledger = ledger' at hkeeping ⊢
  cases hkeeping with
  | nothing hnone =>
    -- Without a new time in the log and a change of the ledger, nothing shows.
    rw [recorded?_append_of_eq_nil hnone, ← recorded?_of_find? hseat]
    exact .still (not_updates_of_not_isPass rfl)
  | stored due =>
    rw [recorded?_append_of_eq_singleton rfl, hname]
    have hfresh : watch.recorded? id = none := by
      have hcourse := (hsound.lobby.seats id seat hseat).course
      rw [due] at hcourse
      rw [recorded?_of_find? hseat, hcourse.recorded?_persisting]
    have hrecord : (watch.lobby.shared.ledger.upsertConnection
        ⟨id, scene.instant, true⟩).connections.find? id = some ⟨id, scene.instant, true⟩ := by
      show (watch.lobby.shared.ledger.connections.set id _).find? id = _
      rw [Roster.find?_set, if_pos rfl]
    rw [hrecord]
    exact .stored hfresh
  | heard due found =>
    rw [recorded?_append_of_eq_singleton rfl]
    dsimp only
    rw [hname] at found ⊢
    rw [Roster.find?_set, if_pos rfl]
    exact .heard found

/-- A turn of another session. -/
theorem effect_other_turn (hsound : watch.Sound) {id connection : String} (hne : id ≠ connection)
    (scene : Scene) (turn : Turn) :
    (watch.step (.turned connection scene turn)).recorded? id = watch.recorded? id ∧
      (watch.step (.turned connection scene turn)).record? id = watch.record? id := by
  cases hseat : watch.lobby.seats.find? connection with
  | none =>
    rw [step_turned_of_not_find? hseat]
    exact ⟨rfl, rfl⟩
  | some seat =>
    have hname := hsound.named connection seat hseat
    obtain ⟨acts, hkeeping, -⟩ :=
      seat.keeping_turn watch.lobby.maxLine scene watch.lobby.shared turn
    rw [step_turned hseat]
    constructor
    · rw [recorded?, Roster.find?_set, if_neg hne]
      rfl
    · show (seat.turn watch.lobby.maxLine scene watch.lobby.shared
        turn).2.ledger.connections.find? id = watch.lobby.shared.ledger.connections.find? id
      generalize (seat.turn watch.lobby.maxLine scene watch.lobby.shared turn).1.session = session',
        (seat.turn watch.lobby.maxLine scene watch.lobby.shared turn).2.ledger = ledger'
        at hkeeping ⊢
      -- What a turn leaves in the ledger it leaves under the connection of its own session.
      cases hkeeping with
      | nothing => rfl
      | stored =>
        show (watch.lobby.shared.ledger.connections.set seat.session.connection _).find? id = _
        rw [Roster.find?_set, if_neg (by rw [hname]; exact hne)]
      | heard =>
        show (watch.lobby.shared.ledger.connections.set seat.session.connection _).find? id = _
        rw [Roster.find?_set, if_neg (by rw [hname]; exact hne)]

/-- All that one event can do to a connection. -/
theorem effect_step (hsound : watch.Sound) (id : String) (event : Event) :
    Effect watch id event ((watch.step event).recorded? id) ((watch.step event).record? id) := by
  cases event with
  | opened connection scene draws =>
    have hstill : Effect watch id (.opened connection scene draws) _ _ :=
      .still (not_updates_of_not_isPass rfl)
    obtain heq | ⟨hnobody, session, gate, -, heq⟩ :=
      opened_cases watch.lobby connection scene draws
    · have hstep : watch.step (.opened connection scene draws) = watch := by
        rw [step, heq]
      rw [hstep]
      exact hstill
    · -- A new session has recorded nothing, and neither had the nobody before it.
      have hrecorded : (watch.step (.opened connection scene draws)).recorded? id =
          watch.recorded? id := by
        show ((watch.lobby.step (.opened connection connection scene draws)).seats.find? id).bind
          (fun seat => Session.recorded? seat.acts) = _
        rw [heq, Roster.find?_set]
        split
        next hname =>
          rw [recorded?_of_not_find? (by rw [hname]; exact hnobody)]
          rfl
        next => rfl
      have hrecord : (watch.step (.opened connection scene draws)).record? id =
          watch.record? id := by
        show (watch.lobby.step (.opened connection connection scene
          draws)).shared.ledger.connections.find? id = _
        rw [heq]
        rfl
      rw [hrecorded, hrecord]
      exact hstill
  | turned connection scene turn =>
    by_cases hname : id = connection
    · subst hname
      cases hseat : watch.lobby.seats.find? id with
      | none =>
        rw [step_turned_of_not_find? hseat]
        exact .still (not_updates_of_not_isPass rfl)
      | some seat => exact effect_own_turn hsound hseat scene turn
    · obtain ⟨hrecorded, hrecord⟩ := effect_other_turn hsound hname scene turn
      rw [hrecorded, hrecord]
      exact .still (not_updates_of_not_isPass rfl)
  | added kind record =>
    have hrecord : (watch.step (.added kind record)).record? id = watch.record? id := by
      show (Traffic.insertChild _ kind record).2.connections.find? id = _
      rw [Traffic.connections_insertChild]
      rfl
    rw [hrecord]
    exact .still (not_updates_of_not_isPass rfl)
  | began now =>
    have hstep : (watch.step (.began now)).lobby = watch.lobby := by
      rw [step]
      split <;> rfl
    rw [recorded?, record?, hstep]
    exact .still (not_updates_of_not_isPass rfl)
  | passed failing =>
    cases hround : watch.round with
    | none =>
      have hstep : watch.step (.passed failing) = watch := by
        rw [step, hround]
      rw [hstep]
      refine .still ?_
      rintro ⟨_, round, stale, -, ⟨hdue, -⟩, -⟩
      rw [hround] at hdue
      cases hdue
    | some round =>
      have hrecorded : (watch.step (.passed failing)).recorded? id = watch.recorded? id := by
        rw [step, hround]
        rfl
      have hrecord : (watch.step (.passed failing)).record? id =
          (round.progress.step (.failures failing) round.bounds
            watch.lobby.shared.ledger).2.connections.find? id := by
        rw [step, hround]
        rfl
      rw [hrecorded, hrecord, Traffic.connections_pass]
      split
      next stale hpass hcalm =>
        rw [Roster.find?_mapValues]
        exact .updated ⟨hround, hpass⟩ hcalm
      next hother =>
        refine .still ?_
        rintro ⟨_, round', stale, heq, ⟨hdue, hpass⟩, hcalm⟩
        cases heq
        cases hround.symm.trans hdue
        exact hother stale hpass hcalm

/-! ### The record of a connection -/

/-- The record of a connection has the latest time that its session recorded. -/
def Agrees (watch : Watch rule) (id : String) : Prop :=
  watch.recorded? id = (watch.record? id).map (·.lastHeartbeat)

/-- Every event keeps the record and what the session recorded in agreement: a call changes both to
one time, and an update by the sweep leaves the time alone. -/
theorem agrees_step (hsound : watch.Sound) {id : String} (h : watch.Agrees id) (event : Event) :
    (watch.step event).Agrees id := by
  have heffect := effect_step hsound id event
  unfold Agrees at h ⊢
  generalize (watch.step event).recorded? id = recorded, (watch.step event).record? id = record
    at heffect ⊢
  cases heffect with
  | still => exact h
  | stored | heard => rfl
  | updated due calm =>
    -- An update leaves the time alone.
    rw [h]
    cases watch.record? id with
    | none => rfl
    | some record =>
      rw [Option.map_some, Option.map_some, Option.map_some]
      split <;> rfl

/-- The connection has a record, and the record is inactive. -/
def IsRetired (watch : Watch rule) (id : String) : Prop :=
  ∃ record, watch.record? id = some record ∧ record.isActive = false

/-- Nothing brings an inactive record back: its session does not store it again, and a sign of
life changes its time only. -/
theorem isRetired_step (hsound : watch.Sound) {id : String} (hagrees : watch.Agrees id)
    (h : watch.IsRetired id) (event : Event) : (watch.step event).IsRetired id := by
  obtain ⟨record, hfound, hinactive⟩ := h
  have heffect := effect_step hsound id event
  unfold IsRetired
  generalize (watch.step event).recorded? id = recorded', (watch.step event).record? id = record'
    at heffect ⊢
  cases heffect with
  | still => exact ⟨record, hfound, hinactive⟩
  | stored fresh =>
    -- Who has a record has recorded a time, so it is not stored for the first time.
    unfold Agrees at hagrees
    rw [fresh, hfound] at hagrees
    cases hagrees
  | heard found =>
    cases hfound.symm.trans found
    exact ⟨_, rfl, hinactive⟩
  | updated due calm =>
    rw [hfound, Option.map_some]
    refine ⟨_, rfl, ?_⟩
    split
    · rw [Connection.liveFrom, hinactive, Bool.false_and]
    · exact hinactive

/-- An inactive record stays so over any run, by induction. -/
theorem isRetired_run (hsound : watch.Sound) {id : String} (hagrees : watch.Agrees id)
    (h : watch.IsRetired id) (events : List Event) : (watch.run events).IsRetired id := by
  induction events generalizing watch with
  | nil => exact h
  | cons event rest ih =>
    exact ih (sound_step hsound event) (agrees_step hsound hagrees event)
      (isRetired_step hsound hagrees h event)

/-! ### The sweep -/

/-- An update of connections is due only after a query that succeeded, with what it found. -/
theorem due_of_progress {failing : Call → Option Fault} {bounds : Rule.Bounds}
    {progress : Progress} {ledger : Ledger} {stale : List String}
    (h : (progress.step (.failures failing) bounds ledger).1.pass = .retireConnections stale) :
    progress.pass = .findStale ∧ failing .findStale = none ∧ stale = ledger.stale bounds.cutoff ∧
      (progress.step (.failures failing) bounds ledger).2 = ledger := by
  obtain ⟨pass, report⟩ := progress
  cases pass with
  | findStale =>
    simp only [Progress.step, callFindStale, guarded, Conditions.failures] at h ⊢
    cases hfailing : failing .findStale with
    | some fault =>
      rw [hfailing] at h
      cases h
    | none =>
      rw [hfailing] at h
      dsimp only at h
      split at h
      · cases h
      · cases h
        exact ⟨trivial, rfl, rfl, rfl⟩
  | retireConnections stale' =>
    -- What comes after an update works on what it retired, or is the query for orphans.
    rw [Progress.step] at h
    dsimp only at h
    split at h
    · cases h
    · dsimp only at h
      split at h <;> cases h
  | cascadeProducers owners =>
    rw [Progress.step] at h
    dsimp only at h
    split at h <;> cases h
  | findInactive =>
    rw [Progress.step] at h
    dsimp only at h
    split at h
    · cases h
    · dsimp only at h
      split at h <;> cases h
  | purge =>
    rw [Progress.step] at h
    dsimp only at h
    split at h <;> cases h
  | cascadeConsumers | repairProducers | repairConsumers | finished => cases h

/-- What one event does to the sweep that is under way after it. It went on from before, with
the same beginning, or it has just begun. -/
theorem round_step {event : Event} {round : Round rule}
    (h : (watch.step event).round = some round) :
    (event.isPass = false ∧ watch.round = some round) ∨
      (event = .began round.time ∧ watch.round = none ∧ round.progress = .start) ∨
      ∃ failing before, event = .passed failing ∧ watch.round = some before ∧
        round.time = before.time ∧ round.bounds = before.bounds ∧
        round.progress = (before.progress.step (.failures failing) before.bounds
          watch.lobby.shared.ledger).1 := by
  cases event with
  | opened | turned | added => exact .inl ⟨rfl, h⟩
  | began now =>
    rw [step] at h
    split at h
    · exact .inl ⟨rfl, h⟩
    next hnone =>
      change Round.begin? rule now = some round at h
      unfold Round.begin? at h
      split at h
      · cases h
        exact .inr (.inl ⟨rfl, hnone, rfl⟩)
      · cases h
  | passed failing =>
    rw [step] at h
    split at h
    next hnone =>
      rw [hnone] at h
      cases h
    next before hbefore =>
      -- A pass that finishes the sweep leaves none under way.
      change (if (before.progress.step _ _ _).1.pass = .finished then none else _) =
        some round at h
      split at h
      · cases h
      · cases h
        exact .inr (.inr ⟨failing, before, rfl, hbefore, rfl, rfl, rfl⟩)

/-- An update of connections is due only after a query that succeeded, and nothing happened to
the ledger since. -/
theorem due_step {event : Event} {round : Round rule} {stale : List String}
    (h : (watch.step event).UpdateDue round stale) :
    (event.isPass = false ∧ watch.UpdateDue round stale) ∨
      ∃ failing, event = .passed failing ∧ watch.QueryDue round.time ∧
        failing .findStale = none ∧ stale = watch.lobby.shared.ledger.stale round.bounds.cutoff ∧
        (watch.step event).lobby.shared.ledger = watch.lobby.shared.ledger := by
  obtain ⟨hround, hpass⟩ := h
  obtain ⟨hplain, hbefore⟩ | ⟨-, -, hstart⟩ |
    ⟨failing, before, heq, hbefore, htime, hbounds, hprogress⟩ := round_step hround
  · exact .inl ⟨hplain, hbefore, hpass⟩
  -- A sweep that has just begun has its query due, not its update.
  · rw [hstart] at hpass
    cases hpass
  · rw [hprogress] at hpass
    obtain ⟨hquery, hcalm, hstale, hledger⟩ := due_of_progress hpass
    refine .inr ⟨failing, heq, ⟨before, hbefore, htime.symm, hquery⟩, hcalm, ?_, ?_⟩
    · rw [hstale, hbounds]
    · rw [heq, step, hbefore]
      exact hledger

end Watch

end Gatekeeper.Session
