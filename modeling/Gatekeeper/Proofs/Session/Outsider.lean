import Gatekeeper.Proofs.Session.Lobby

/-!
# `Gatekeeper.Proofs.Session.Outsider`: clients that were never admitted

A client that the gate does not admit is told so and leaves. It makes no call to the ledger
and none to the index, so both are what they would be without it, and so is every other
session: a run is compared with the run in which this client never comes.

The one thing that an outsider does hold is a nonce. While it holds one, nobody else gets
the same, so the other run is the one in which nobody draws it either (`Lobby.without`).

* `alike_run`: a script does the same on two servers that differ by a nonce that it does not
  touch.
* `apart_step`, `apart_run`: the two runs, event by event.
* `outsider_run`: an outsider leaves no trace, and what comes before a confirmation.
-/

set_option autoImplicit false

namespace Gatekeeper.Session

open Gatekeeper.Handshake Gatekeeper.Ledger Gatekeeper.Wire

/-! ### Servers that differ by a nonce -/

/-- A roster of nonces without one that somebody may hold. -/
def spare (outstanding : Roster String Issue) : Option String → Roster String Issue
  | some nonce => outstanding.erase nonce
  | none => outstanding

/-- The handshake has nothing to do with a nonce that somebody may hold. -/
def Spares (held : Option String) (handshake : Handshake) : Prop :=
  ∀ nonce issue, handshake.entry? = some (nonce, issue) → held ≠ some nonce

/-- Two servers with the same ledger and the same index, where the other one has the same
nonces but for one that somebody may hold. Counters and throttles may differ. -/
structure Alike (held : Option String) (shared shared' : Shared) : Prop where
  ledger : shared'.ledger = shared.ledger
  index : shared'.index = shared.index
  policy : shared'.gate.policy = shared.gate.policy
  outstanding : shared'.gate.outstanding = spare shared.gate.outstanding held

section
variable {held : Option String} {nonce : String} {outstanding : Roster String Issue}

/-- Any nonce but the one that somebody holds is found as before. -/
theorem find?_spare (h : held ≠ some nonce) :
    (spare outstanding held).find? nonce = outstanding.find? nonce := by
  cases held with
  | none => rfl
  | some other =>
    have hne : nonce ≠ other := fun heq => h (congrArg some heq.symm)
    rw [spare, Roster.find?_erase, if_neg hne]

/-- Taking a nonce off a roster, and leaving out the one that somebody holds, may be done in either
order. -/
theorem erase_spare (outstanding : Roster String Issue) (held : Option String) (nonce : String) :
    (spare outstanding held).erase nonce = spare (outstanding.erase nonce) held := by
  cases held with
  | none => rfl
  | some other => exact Roster.erase_comm ..

/-- So may adding a nonce that is free and is not the one that somebody holds. -/
theorem add_spare (hfree : outstanding.find? nonce = none) (h : held ≠ some nonce)
    (issue : Issue) :
    ((spare outstanding held).add nonce issue).2 = spare (outstanding.add nonce issue).2 held := by
  cases held with
  | none => rfl
  | some other =>
    have hne : nonce ≠ other := fun heq => h (congrArg some heq.symm)
    exact (Roster.erase_add issue hfree hne).symm

end

section
variable {held : Option String} {gate gate' : Gate} {handshake : Handshake}

/-- A gate's verdict does not depend on nonces that are not the handshake's own. -/
theorem answer_alike (hpolicy : gate'.policy = gate.policy)
    (houtstanding : gate'.outstanding = spare gate.outstanding held)
    (hspares : Spares held handshake) (request : Request) (now : Moment) :
    (gate'.answer handshake request now).1 = (gate.answer handshake request now).1 ∧
      (gate'.answer handshake request now).2.1 = (gate.answer handshake request now).2.1 ∧
      (gate'.answer handshake request now).2.2.outstanding =
        spare (gate.answer handshake request now).2.2.outstanding held := by
  -- The gate looks up the handshake's own nonce and no other one.
  cases hstage : handshake.stage with
  | nonceIssued nonce issuedAt =>
    have hother : held ≠ some nonce :=
      hspares nonce ⟨_, _⟩ (entry?_eq_some_iff.mpr ⟨rfl, hstage⟩)
    rw [Gate.answer_nonceIssued request now hstage, Gate.answer_nonceIssued request now hstage,
      hpolicy, houtstanding, find?_spare hother]
    exact ⟨rfl, rfl, erase_spare ..⟩
  | awaiting | authenticated | rejected =>
    simp only [Gate.answer, hstage, true_and]
    exact houtstanding

/-- Dropping a handshake takes the same nonce off both rosters. -/
theorem abandon_alike (houtstanding : gate'.outstanding = spare gate.outstanding held) :
    (gate'.abandon handshake).outstanding = spare (gate.abandon handshake).outstanding held := by
  cases hstage : handshake.stage with
  | nonceIssued nonce issuedAt =>
    rw [Gate.abandon_nonceIssued hstage, Gate.abandon_nonceIssued hstage, houtstanding]
    exact erase_spare ..
  | awaiting | authenticated | rejected =>
    simp only [Gate.abandon, hstage]
    exact houtstanding

end

/-! ### Scripts on such servers -/

/-- The script has nothing to do with a nonce that somebody may hold. -/
def Script.Spares (held : Option String) : Script → Prop
  | done _ => True
  | send _ next => ∀ delivered, (next delivered).Spares held
  | answer handshake _ next =>
    Session.Spares held handshake ∧ ∀ verdict handshake, (next verdict handshake).Spares held
  | store _ next => ∀ result, (next result).Spares held
  | hear _ _ next => ∀ result, (next result).Spares held
  | enter _ next => ∀ accepted, (next accepted).Spares held
  | leave _ next => next.Spares held
  | abandon handshake next => Session.Spares held handshake ∧ next.Spares held
  | note next => next.Spares held
  | count _ next => next.Spares held

section
variable {held : Option String} {shared shared' : Shared}

/-- Servers that are alike stay so with one ledger for both. -/
theorem Alike.withLedger (h : Alike held shared shared') (ledger : Ledger) :
    Alike held { shared with ledger } { shared' with ledger } :=
  ⟨rfl, h.index, h.policy, h.outstanding⟩

/-- Servers that are alike stay so with one index for both. -/
theorem Alike.withIndex (h : Alike held shared shared') (index : Roster String Handle) :
    Alike held { shared with index } { shared' with index } :=
  ⟨h.ledger, rfl, h.policy, h.outstanding⟩

/-- A script makes the same calls with the same answers on both servers, and leads to the
same session. -/
theorem alike_run (scene : Scene) {script : Script} (hspares : script.Spares held)
    (h : Alike held shared shared') :
    (script.run scene shared').1 = (script.run scene shared).1 ∧
      (script.run scene shared').2.1 = (script.run scene shared).2.1 ∧
      Alike held (script.run scene shared).2.2 (script.run scene shared').2.2 := by
  induction script generalizing shared shared' with
  | done session => exact ⟨rfl, rfl, h⟩
  | send line next ih =>
    obtain ⟨hacts, hafter⟩ := ih scene.writable (hspares _) h
    exact ⟨congrArg (List.cons _) hacts, hafter⟩
  | answer handshake request next ih =>
    -- The verdicts are the same, so both runs go on alike; counters and throttles may differ.
    obtain ⟨hverdict, hhandshake, houtstanding⟩ :=
      answer_alike h.policy h.outstanding hspares.1 request scene.moment
    have hpolicy := (Gate.policy_answer shared'.gate handshake request scene.moment).trans
      (h.policy.trans (Gate.policy_answer shared.gate handshake request scene.moment).symm)
    obtain ⟨authThrottle, metrics, heq⟩ := shared.authenticate_eq scene handshake request
    obtain ⟨authThrottle', metrics', heq'⟩ := shared'.authenticate_eq scene handshake request
    rw [Script.run, Script.run, heq, heq', hverdict, hhandshake]
    obtain ⟨hacts, hafter⟩ := ih _ _ (hspares.2 _ _)
      (⟨h.ledger, h.index, hpolicy, houtstanding⟩ : Alike held
        { shared with
          gate := (shared.gate.answer handshake request scene.moment).2.2, authThrottle, metrics }
        { shared' with
          gate := (shared'.gate.answer handshake request scene.moment).2.2
          authThrottle := authThrottle', metrics := metrics' })
    exact ⟨congrArg (List.cons _) hacts, hafter⟩
  | store record next ih =>
    rw [Script.run, Script.run, h.ledger]
    obtain ⟨hacts, hafter⟩ := ih _ (hspares _) (h.withLedger _)
    exact ⟨congrArg (List.cons _) hacts, hafter⟩
  | hear connection at_ next ih =>
    rw [Script.run, Script.run, h.ledger]
    obtain ⟨hacts, hafter⟩ := ih _ (hspares _) (h.withLedger _)
    exact ⟨congrArg (List.cons _) hacts, hafter⟩
  | enter handle next ih =>
    rw [Script.run, Script.run, h.index]
    obtain ⟨hacts, hafter⟩ := ih _ (hspares _) (h.withIndex _)
    exact ⟨congrArg (List.cons _) hacts, hafter⟩
  | leave connection next ih =>
    rw [Script.run, Script.run, h.index]
    obtain ⟨hacts, hafter⟩ := ih hspares (h.withIndex _)
    exact ⟨congrArg (List.cons _) hacts, hafter⟩
  | abandon handshake next ih =>
    have hpolicy := (Gate.policy_abandon shared'.gate handshake).trans
      (h.policy.trans (Gate.policy_abandon shared.gate handshake).symm)
    exact ih hspares.2 ⟨h.ledger, h.index, hpolicy, abandon_alike h.outstanding⟩
  | note next ih => exact ih hspares ⟨h.ledger, h.index, h.policy, h.outstanding⟩
  | count metric next ih => exact ih hspares ⟨h.ledger, h.index, h.policy, h.outstanding⟩

end

/-- Writing a line has nothing to do with nonces. -/
theorem spares_sending {held : Option String} (session : Session) (line : String) (next : Phase) :
    (session.sending line next).Spares held := fun _ => trivial

/-- The script of a step has to do with the session's own nonce only. -/
theorem spares_script {held : Option String} {session : Session}
    (hown : ∀ nonce issue, session.pending? = some (nonce, issue) → held ≠ some nonce)
    (scene : Scene) (event : Event) : (session.script scene event).Spares held := by
  have hspares : session.phase ≠ .ended → Spares held session.handshake := by
    intro hlive nonce issue hentry
    exact hown nonce issue (pending?_eq_some_iff.mpr ⟨hlive, hentry⟩)
  -- The handshake is handed on only by the first and a further request, and at the end.
  unfold script
  generalize hphase : session.phase = phase at hspares
  split
  · unfold greetScript
    split
    · exact spares_sending _ _ _
    · exact spares_sending _ _ _
    · trivial
    · refine ⟨hspares nofun, fun verdict handshake => ?_⟩
      cases verdict with
      | none => exact spares_sending _ _ _
      | some identity => trivial
  · trivial
  · exact spares_sending _ _ _
  · rintro (fault | _)
    · exact spares_sending _ _ _
    · trivial
  · rintro (_ | _) <;> trivial
  · exact spares_sending _ _ _
  · unfold serveScript
    split
    · exact spares_sending _ _ _
    · rintro ((fault | fault | fault) | (_ | _)) <;> exact spares_sending _ _ _
    · trivial
    · refine ⟨hspares nofun, fun verdict handshake => ?_⟩
      cases verdict <;> exact spares_sending _ _ _
  · trivial
  · trivial
  · unfold releaseScript
    split <;> exact ⟨hspares nofun, trivial⟩
  · trivial

/-! ### A run without one client -/

/-- A turn of a session is the same on both servers. -/
theorem alike_turn {held : Option String} {shared shared' : Shared} {seat : Seat}
    (hown : ∀ nonce issue, seat.session.pending? = some (nonce, issue) → held ≠ some nonce)
    (h : Alike held shared shared') (maxLine : UInt64) (scene : Scene) (turn : Turn) :
    (seat.turn maxLine scene shared' turn).1 = (seat.turn maxLine scene shared turn).1 ∧
      Alike held (seat.turn maxLine scene shared turn).2
        (seat.turn maxLine scene shared' turn).2 := by
  obtain ⟨unread, finished, event?, hturn⟩ := seat.turn_eq maxLine scene turn
  rw [hturn, hturn]
  cases event? with
  | none => exact ⟨rfl, h⟩
  | some event =>
    obtain ⟨hacts, hsession, hafter⟩ := alike_run scene (spares_script hown scene event) h
    refine ⟨?_, hafter⟩
    show Seat.mk ⟨((seat.session.script scene event).run scene shared').2.1, unread, finished⟩
      (seat.acts ++ ((seat.session.script scene event).run scene shared').1) = _
    rw [hacts, hsession]
    rfl

/-- The search for a fresh nonce, without the draws of a nonce that is not fresh anyway. -/
theorem freshNonce?_spare {held : Option String} {outstanding : Roster String Issue}
    (hheld : ∀ nonce, held = some nonce → outstanding.contains nonce = true)
    (draws : List Nonce.Draw) :
    Gate.freshNonce? (spare outstanding held)
        (draws.filter fun draw => held ≠ some (Nonce.ofDraw draw)) =
      (Gate.freshNonce? outstanding draws).map fun (nonce, rest) =>
        (nonce, rest.filter fun draw => held ≠ some (Nonce.ofDraw draw)) := by
  induction draws with
  | nil => rfl
  | cons draw rest ih =>
    rw [Gate.freshNonce?]
    -- The draw of the held nonce is passed over on the one side and missing on the other.
    by_cases hdraw : held = some (Nonce.ofDraw draw)
    · rw [List.filter_cons_of_neg (by simp [hdraw]), hheld _ hdraw, if_pos rfl, ih]
    · rw [List.filter_cons_of_pos (by simp [hdraw]), Gate.freshNonce?, Roster.contains,
        find?_spare hdraw, ← Roster.contains]
      split
      · exact ih
      · rfl

/-- A handshake gets the same nonce where another one is spared. -/
theorem open?_spare {held : Option String} {gate : Gate}
    (hheld : ∀ nonce, held = some nonce → gate.outstanding.contains nonce = true)
    (connection : String) (now : Moment) (draws : List Nonce.Draw) :
    Gate.open? { gate with outstanding := spare gate.outstanding held } connection now
        (draws.filter fun draw => held ≠ some (Nonce.ofDraw draw)) =
      (gate.open? connection now draws).map fun (handshake, gate, rest) =>
        (handshake, { gate with outstanding := spare gate.outstanding held },
          rest.filter fun draw => held ≠ some (Nonce.ofDraw draw)) := by
  rw [Gate.open?, Gate.open?]
  split
  · rw [freshNonce?_spare hheld]
    cases hfresh : Gate.freshNonce? gate.outstanding draws with
    | none => rfl
    | some found =>
      obtain ⟨nonce, rest⟩ := found
      have hfree := Gate.find?_of_freshNonce? hfresh
      -- The nonce that is found is free, so it is not the one that is held.
      have hother : held ≠ some nonce := by
        rintro rfl
        simpa [Roster.contains, hfree] using hheld nonce rfl
      simp only [Option.map_some, add_spare hfree hother]
  · rfl

namespace Lobby

/-- The nonce that nobody else gets as long as the session of a name holds it. -/
def held? (lobby : Lobby) (name : String) : Option String := (lobby.nonce? name).map Prod.fst

/-- Whether an event is about the session of a name. -/
def Event.isAbout (name : String) : Event → Bool
  | opened other _ _ _ => other = name
  | turned other _ _ => other = name
  | swept _ => false

/-- An event where nobody draws a nonce that somebody may hold. -/
def Event.sparing (held : Option String) : Event → Event
  | opened name connection scene draws =>
    opened name connection scene (draws.filter fun draw => held ≠ some (Nonce.ofDraw draw))
  | event => event

/-- A run of events without the client of a name: nothing happens to it, and nobody draws the
nonce that it would have held by then. -/
def without (name : String) : Lobby → List Event → List Event
  | _, [] => []
  | lobby, event :: rest =>
    if event.isAbout name then without name (lobby.step event) rest
    else event.sparing (lobby.held? name) :: without name (lobby.step event) rest

/-- The other lobby is the same without the session of a name. -/
structure Apart (name : String) (lobby lobby' : Lobby) : Prop where
  maxLine : lobby'.maxLine = lobby.maxLine
  shared : Alike (lobby.held? name) lobby.shared lobby'.shared
  seats : lobby'.seats = lobby.seats.erase name

/-- The client of a name was never admitted. -/
def Outside (name : String) (lobby : Lobby) : Prop :=
  ∀ seat, lobby.seats.find? name = some seat → ∀ identity, .answered (some identity) ∉ seat.acts

variable {lobby lobby' : Lobby} {name : String} {seat : Seat}

/-- No event takes anything out of the log of a session. -/
theorem acts_step (h : lobby.seats.find? name = some seat) (event : Event) :
    ∃ seat' more, (lobby.step event).seats.find? name = some seat' ∧
      seat'.acts = seat.acts ++ more := by
  have hkept : ∃ seat' more, lobby.seats.find? name = some seat' ∧
      seat'.acts = seat.acts ++ more := ⟨seat, [], h, (List.append_nil _).symm⟩
  cases event with
  | swept change => exact hkept
  | opened other connection scene draws =>
    rw [step]
    split
    · exact hkept
    next hfresh =>
      have hne : name ≠ other := by
        rintro rfl
        exact hfresh (by simp [Roster.contains, h])
      split
      · exact hkept
      · rwa [Roster.find?_set, if_neg hne]
  | turned other scene turn =>
    -- A turn of its own adds to the log, one of another session leaves it alone.
    by_cases hname : name = other
    · subst hname
      obtain ⟨acts, -, hacts, -⟩ := seat.move_turn lobby.maxLine scene lobby.shared turn
      rw [step_turned h, Roster.find?_set, if_pos rfl]
      exact ⟨_, acts, rfl, hacts⟩
    · cases hother : lobby.seats.find? other with
      | none => rwa [step, hother]
      | some seat' => rwa [step_turned hother, Roster.find?_set, if_neg hname]

/-- Who was never admitted after an event was not admitted before it. -/
theorem outside_of_step {event : Event} (h : (lobby.step event).Outside name) :
    lobby.Outside name := by
  intro seat hfind identity hmem
  obtain ⟨seat', more, hfind', hacts⟩ := acts_step hfind event
  exact h seat' hfind' identity (hacts ▸ List.mem_append_left more hmem)

/-- Who was never admitted after a run was not admitted before it. -/
theorem outside_of_run {events : List Event} (h : (lobby.run events).Outside name) :
    lobby.Outside name := by
  induction events generalizing lobby with
  | nil => exact h
  | cons event rest ih => exact outside_of_step (ih h)

/-! ### One event in both runs -/

/-- A turn of an outsider changes neither the ledger nor the index, and of the nonces its own
at most. -/
theorem apart_turned_self (hsound : lobby.Sound) (h : Apart name lobby lobby')
    (hfind : lobby.seats.find? name = some seat) (scene : Scene) (turn : Turn)
    (hout : (lobby.step (.turned name scene turn)).Outside name) :
    Apart name (lobby.step (.turned name scene turn)) lobby' := by
  have hseat := hsound.seats name seat hfind
  have hafter := sound_step hsound (.turned name scene turn)
  obtain ⟨acts, hmove, hacts, hledger, hindex, hpolicy⟩ :=
    seat.move_turn lobby.maxLine scene lobby.shared turn
  have hfind' : (lobby.step (.turned name scene turn)).seats.find? name =
      some (seat.turn lobby.maxLine scene lobby.shared turn).1 := by
    rw [step_turned hfind, Roster.find?_set, if_pos rfl]
  -- Everything in the log is what an outsider gets done, this turn included.
  have houtside : ∀ act ∈ acts, act.isOutside = true := fun act hmem =>
    (hafter.seats name _ hfind').course.isOutside (hout _ hfind') act
      (hacts ▸ List.mem_append_right _ hmem)
  rw [foldl_onLedger (isStorage_of_isOutside houtside)] at hledger
  rw [foldl_onIndex (isIndexing_of_isOutside houtside)] at hindex
  have hheld : lobby.held? name = seat.session.pending?.map Prod.fst := by
    rw [held?, nonce?_of_find? hfind]
  have hheld' : (lobby.step (.turned name scene turn)).held? name =
      (seat.turn lobby.maxLine scene lobby.shared turn).1.session.pending?.map Prod.fst := by
    rw [held?, nonce?_of_find? hfind']
  refine ⟨?_, ⟨?_, ?_, ?_, ?_⟩, ?_⟩
  · rw [step_turned hfind]
    exact h.maxLine
  · rw [step_turned hfind, hledger]
    exact h.shared.ledger
  · rw [step_turned hfind, hindex]
    exact h.shared.index
  · rw [step_turned hfind, hpolicy]
    exact h.shared.policy
  · -- The roster lost the outsider's own nonce, which the other run never had, or nothing.
    rw [hheld', h.shared.outstanding, hheld, step_turned hfind]
    rcases pending?_move hseat.started hmove with
      ⟨hsame, hgate⟩ | ⟨nonce, issue, hown, hnone, hgate⟩
    · rw [hsame, hgate]
    · rw [hown, hnone, hgate]
      rfl
  · rw [step_turned hfind, Roster.erase_set_self]
    exact h.seats

/-- That an outsider comes adds its nonce and its seat, and nothing else. -/
theorem apart_opened_self (h : Apart name lobby lobby') (connection : String) (scene : Scene)
    (draws : List Nonce.Draw) :
    Apart name (lobby.step (.opened name connection scene draws)) lobby' := by
  rw [step]
  split
  · exact h
  next hfresh =>
    have hnobody : lobby.seats.find? name = none :=
      Roster.contains_eq_false_iff.mp (Bool.not_eq_true _ ▸ hfresh)
    split
    · exact h
    next session shared rest hopen =>
      obtain ⟨handshake, gate, hgate, hsession, rfl⟩ := open?_session_cases hopen
      have hheld : lobby.held? name = none := by
        rw [held?, nonce?, hnobody, Option.bind_none, Option.map_none]
      have hpending : session.pending? = handshake.entry? := by
        rw [hsession]
        exact pending?_write _ _ _ (by decide)
      have hseats : lobby'.seats = (lobby.seats.set name (.opened scene session)).erase name := by
        rw [Roster.erase_set_self]
        exact h.seats
      -- Before it came, the two gates had the same nonces outstanding.
      have houtstanding := h.shared.outstanding
      rw [hheld] at houtstanding
      have hheld' : Lobby.held? { lobby with
          shared := { lobby.shared with gate }
          seats := lobby.seats.set name (.opened scene session) } name =
            handshake.entry?.map Prod.fst := by
        rw [held?, nonce?_set, if_pos rfl, ← hpending]
        rfl
      -- With a nonce, that one is set apart. Without, the gate is as it was.
      rcases Gate.open?_cases hgate with ⟨nonce, -, hfree, rfl, rfl⟩ | ⟨-, rfl, rfl⟩
      · refine ⟨h.maxLine, ⟨h.shared.ledger, h.shared.index, h.shared.policy, ?_⟩, hseats⟩
        rw [hheld', houtstanding]
        exact (Roster.erase_add_self _ hfree).symm
      · refine ⟨h.maxLine, ⟨h.shared.ledger, h.shared.index, h.shared.policy, ?_⟩, hseats⟩
        rw [hheld', houtstanding]
        rfl

/-- Nobody else holds the nonce of a session. -/
theorem ne_of_held? (hsound : lobby.Sound) {other : String} (hne : other ≠ name)
    (hfind : lobby.seats.find? other = some seat) :
    ∀ nonce issue, seat.session.pending? = some (nonce, issue) →
      lobby.held? name ≠ some nonce := by
  intro nonce issue hpending hheld
  obtain ⟨⟨nonce', issue'⟩, hown, rfl⟩ := Option.map_eq_some_iff.mp hheld
  exact hne (hsound.nonces.unique other name nonce' issue issue'
    (nonce?_eq_some_iff.mpr ⟨seat, hfind, hpending⟩) hown)

/-- A turn of anybody else is the same in both lobbies. -/
theorem apart_turned_other (hsound : lobby.Sound) (h : Apart name lobby lobby') {other : String}
    (hne : other ≠ name) (scene : Scene) (turn : Turn) :
    Apart name (lobby.step (.turned other scene turn))
      (lobby'.step (.turned other scene turn)) := by
  have hfind' : lobby'.seats.find? other = lobby.seats.find? other := by
    rw [h.seats, Roster.find?_erase, if_neg hne]
  cases hfind : lobby.seats.find? other with
  | none =>
    rw [step, step, hfind', hfind]
    exact h
  | some seat =>
    -- The other session holds another nonce, so the two gates answer it alike.
    obtain ⟨hseat, hafter⟩ := alike_turn (ne_of_held? hsound hne hfind) h.shared lobby.maxLine
      scene turn
    have hheld : (lobby.step (.turned other scene turn)).held? name = lobby.held? name := by
      rw [held?, held?, step_turned hfind, nonce?_set, if_neg (Ne.symm hne)]
    refine ⟨?_, ?_, ?_⟩
    · rw [step_turned hfind, step_turned (hfind'.trans hfind)]
      exact h.maxLine
    · rw [hheld, step_turned hfind, step_turned (hfind'.trans hfind), h.maxLine]
      exact hafter
    · rw [step_turned hfind, step_turned (hfind'.trans hfind), h.maxLine, hseat, h.seats]
      exact (Roster.erase_set _ _ hne).symm

/-- Anybody else comes in both lobbies alike, and with the same nonce. -/
theorem apart_opened_other (hsound : lobby.Sound) (h : Apart name lobby lobby') {other : String}
    (hne : other ≠ name) (connection : String) (scene : Scene) (draws : List Nonce.Draw) :
    Apart name (lobby.step (.opened other connection scene draws))
      (lobby'.step (Event.sparing (lobby.held? name) (.opened other connection scene draws))) := by
  have hcontains : lobby'.seats.contains other = lobby.seats.contains other := by
    rw [Roster.contains, Roster.contains, h.seats, Roster.find?_erase, if_neg hne]
  -- The outsider's nonce is outstanding, so nobody else draws it here.
  have hheld : ∀ nonce, lobby.held? name = some nonce →
      lobby.shared.gate.outstanding.contains nonce = true := by
    intro nonce hheld
    obtain ⟨⟨nonce, issue⟩, hown, rfl⟩ := Option.map_eq_some_iff.mp hheld
    rw [Roster.contains, (hsound.nonces.find?_iff nonce issue).mpr ⟨name, hown⟩, Option.isSome_some]
  have hgate : lobby'.shared.gate = { lobby.shared.gate with
      outstanding := spare lobby.shared.gate.outstanding (lobby.held? name) } := by
    show _ = Gate.mk lobby.shared.gate.policy _
    rw [← h.shared.outstanding, ← h.shared.policy]
  -- Sparing the draws of that nonce, the other gate opens with the same one.
  have hopen := open?_spare hheld connection scene.moment draws
  rw [← hgate] at hopen
  rw [Event.sparing, step, step, hcontains]
  split
  · exact h
  simp only [Session.open?, hopen]
  cases lobby.shared.gate.open? connection scene.moment draws with
  | none => exact h
  | some opened =>
    obtain ⟨handshake, gate, rest⟩ := opened
    simp only [Option.map_some]
    refine ⟨h.maxLine, ?_, ?_⟩
    · rw [held?, nonce?_set, if_neg (Ne.symm hne)]
      exact ⟨h.shared.ledger, h.shared.index, rfl, rfl⟩
    · rw [h.seats]
      exact (Roster.erase_set _ _ hne).symm

/-- One event in both runs. -/
theorem apart_step (hsound : lobby.Sound) (h : Apart name lobby lobby') (event : Event)
    (hout : (lobby.step event).Outside name) :
    Apart name (lobby.step event)
      (if event.isAbout name then lobby' else lobby'.step (event.sparing (lobby.held? name))) := by
  cases event with
  -- A sweep finds the same ledger in both. What the outsider does is left out of the second
  -- run.
  | swept change =>
    refine ⟨h.maxLine, ⟨?_, h.shared.index, h.shared.policy, h.shared.outstanding⟩, h.seats⟩
    exact congrArg change h.shared.ledger
  | opened other connection scene draws =>
    by_cases hname : other = name
    · subst hname
      rw [Event.isAbout, decide_eq_true rfl, if_pos rfl]
      exact apart_opened_self h connection scene draws
    · rw [Event.isAbout, decide_eq_false hname, if_neg Bool.false_ne_true]
      exact apart_opened_other hsound h hname connection scene draws
  | turned other scene turn =>
    by_cases hname : other = name
    · subst hname
      rw [Event.isAbout, decide_eq_true rfl, if_pos rfl]
      cases hfind : lobby.seats.find? other with
      | none => rwa [step, hfind]
      | some seat => exact apart_turned_self hsound h hfind scene turn hout
    · rw [Event.isAbout, decide_eq_false hname, if_neg Bool.false_ne_true]
      exact apart_turned_other hsound h hname scene turn

/-- The two runs, if the client is not admitted in the whole of the one in which it is
there. -/
theorem apart_run (hsound : lobby.Sound) (h : Apart name lobby lobby') {events : List Event}
    (hout : (lobby.run events).Outside name) :
    Apart name (lobby.run events) (lobby'.run (without name lobby events)) := by
  -- An outsider at the end was one all along, because its log only grows.
  induction events generalizing lobby lobby' with
  | nil => exact h
  | cons event rest ih =>
    have hnext := apart_step hsound h event (outside_of_run hout)
    have hrest := ih (sound_step hsound event) hnext hout
    rw [without]
    split at hrest
    next habout => rwa [if_pos habout]
    next habout => rwa [if_neg habout]

/-- Before the first event, nobody is there to be left out. -/
theorem apart_start (maxLine : UInt64) (policy : Policy) (ledger : Ledger)
    (authThrottle storeThrottle acceptThrottle : Throttle) (metrics : Metrics) (name : String) :
    Apart name (start maxLine policy ledger authThrottle storeThrottle acceptThrottle metrics)
      (start maxLine policy ledger authThrottle storeThrottle acceptThrottle metrics) where
  maxLine := rfl
  shared := ⟨rfl, rfl, rfl, rfl⟩
  seats := (Roster.erase_eq_self rfl).symm

/-- A session whose record could not be stored does not change the index, in the turn in which
that happens or in a later one. -/
theorem index_of_unstored (hsound : lobby.Sound) (h : lobby.seats.find? name = some seat)
    (scene : Scene) (turn : Turn) {seat' : Seat}
    (h' : (lobby.step (.turned name scene turn)).seats.find? name = some seat')
    {record : Connection} {fault : Fault} (hmem : .stored record (.error fault) ∈ seat'.acts) :
    (lobby.step (.turned name scene turn)).shared.index = lobby.shared.index := by
  have hseat' := (sound_step hsound (.turned name scene turn)).seats name seat' h'
  obtain ⟨acts, -, hacts, -, hindex, -⟩ := seat.move_turn lobby.maxLine scene lobby.shared turn
  rw [step_turned h, Roster.find?_set, if_pos rfl] at h'
  cases h'
  rw [step_turned h, hindex]
  -- The log of such a session has no call to the index at all.
  refine foldl_onIndex (fun act hact => ?_) _
  exact hseat'.course.isIndexing_of_unstored hmem act (hacts ▸ List.mem_append_right _ hact)

end Lobby

/-- **A client that was never admitted leaves no trace**, whatever it sends and whatever else
happens.

* A session for which the gate never had a good verdict makes no call to the ledger and none
  to the index. Ledger, index and all other sessions are those of the run in which its
  client never comes.
* The first confirmation that a session writes comes right after a good verdict, the storing
  of a live record under the session's own connection, and the entry of a handle with the
  very identity of the verdict in the index, in this order; before that there was only talk.
* A session whose record could not be stored tells its client so and makes no other call. It
  does not change the index. -/
theorem outsider_run (maxLine : UInt64) (policy : Policy) (ledger : Ledger)
    (authThrottle storeThrottle acceptThrottle : Throttle) (metrics : Metrics)
    (events : List Lobby.Event) :
    let start := Lobby.start maxLine policy ledger authThrottle storeThrottle acceptThrottle metrics
    let lobby := start.run events
    (∀ name seat, lobby.seats.find? name = some seat →
      (∀ identity, .answered (some identity) ∉ seat.acts) →
      (∀ act ∈ seat.acts, act.isStorage = false ∧ act.isIndexing = false) ∧
      (start.run (Lobby.without name start events)).shared.ledger = lobby.shared.ledger ∧
      (start.run (Lobby.without name start events)).shared.index = lobby.shared.index ∧
      (start.run (Lobby.without name start events)).seats = lobby.seats.erase name) ∧
    (∀ name seat front delivered back, lobby.seats.find? name = some seat →
      seat.acts = front ++ .sent confirmation delivered :: back →
      (∀ act ∈ front, act.isConfirmation = false) →
      ∃ talk identity storedAt enteredAt, (∀ act ∈ talk, Act.isChatter act = true) ∧
        front = talk ++ [.answered (some identity),
          .stored ⟨seat.session.connection, storedAt, true⟩ (.ok ()),
          .entered ⟨seat.session.connection, identity, enteredAt⟩ true]) ∧
    (∀ name seat record fault, lobby.seats.find? name = some seat →
      .stored record (.error fault) ∈ seat.acts →
      ∃ talk identity delivered, (∀ act ∈ talk, Act.isChatter act = true) ∧
        seat.acts = talk ++ [.answered (some identity), .stored record (.error fault),
          .sent (Farewell.line .unavailable) delivered]) ∧
    (∀ name seat scene turn seat' record fault, lobby.seats.find? name = some seat →
      (lobby.step (.turned name scene turn)).seats.find? name = some seat' →
      .stored record (.error fault) ∈ seat'.acts →
      (lobby.step (.turned name scene turn)).shared.index = lobby.shared.index) := by
  intro start lobby
  have hstart : start.Sound := Lobby.sound_start ..
  have hsound : lobby.Sound := Lobby.sound_run hstart events
  refine ⟨fun name seat h hnever => ?_, fun name seat front delivered back h hlog hfirst => ?_,
    fun name seat record fault h hmem => (hsound.seats name seat h).course.of_unstored hmem,
    fun name seat scene turn seat' record fault h h' hmem =>
      Lobby.index_of_unstored hsound h scene turn h' hmem⟩
  -- The lobby without the client's events goes on beside the real one, apart only in its
  -- seat.
  · have houtside := (hsound.seats name seat h).course.isOutside hnever
    have hout : lobby.Outside name := by
      intro other hother
      cases h.symm.trans hother
      exact hnever
    have hapart := Lobby.apart_run hstart (Lobby.apart_start .. : Lobby.Apart name start start) hout
    exact ⟨fun act hmem => ⟨isStorage_of_isOutside houtside act hmem,
      isIndexing_of_isOutside houtside act hmem⟩, hapart.shared.ledger, hapart.shared.index,
      hapart.seats⟩
  · obtain ⟨⟨connection, identity, enteredAt⟩, hown, talk, storedAt, htalk, hfront⟩ :=
      (hsound.seats name seat h).course.admission hlog hfirst
    cases hown
    exact ⟨talk, identity, storedAt, enteredAt, htalk, hfront⟩

/-- A client without credentials leaves no trace where they are asked for. Where they are not, it
is confirmed, and the calls of its admission come before that. -/
theorem outsider_run_of_stranger :
    let quota : Quota := ⟨1, .ofSeconds 1, 0, 0, 0, by decide, by decide, by decide⟩
    let scene : Scene := ⟨0, .epoch, .calm, true⟩
    let start (authRequired : Bool) : Lobby :=
      .start 64 ⟨authRequired, [], ⟨[], []⟩, .ofSeconds 30, "O1"⟩ .empty ⟨"auth", quota⟩
        ⟨"store", quota⟩ ⟨"accept", quota⟩ .empty
    let visit : List Lobby.Event :=
      [.opened "a" "c1" scene [⟨List.replicate 24 3, rfl⟩],
        .turned "a" scene (.arrived "CONNECT\n".toUTF8.toList), .turned "a" scene .went,
        .turned "a" scene .went, .turned "a" scene .went, .turned "a" scene .went]
    ((start true).run (Lobby.without "a" (start true) visit)).shared.index =
        ((start true).run visit).shared.index ∧
      ∃ talk identity storedAt enteredAt delivered back seat,
        ((start false).run visit).seats.find? "a" = some seat ∧
        seat.acts = (talk ++ [.answered (some identity),
          .stored ⟨seat.session.connection, storedAt, true⟩ (.ok ()),
          .entered ⟨seat.session.connection, identity, enteredAt⟩ true]) ++
            .sent confirmation delivered :: back := by
  intro quota scene start visit
  have hstart : ∀ authRequired, Lobby.start 64 ⟨authRequired, [], ⟨[], []⟩, .ofSeconds 30, "O1"⟩
      .empty ⟨"auth", quota⟩ ⟨"store", quota⟩ ⟨"accept", quota⟩ .empty = start authRequired :=
    fun _ => rfl
  have hrun : ∀ authRequired, _ := fun authRequired =>
    outsider_run 64 ⟨authRequired, [], ⟨[], []⟩, .ofSeconds 30, "O1"⟩ .empty ⟨"auth", quota⟩
      ⟨"store", quota⟩ ⟨"accept", quota⟩ .empty visit
  simp only [hstart] at hrun
  refine ⟨?_, ?_⟩
  -- Where credentials are asked for, every act of the client is an outsider's.
  · have houtside : (((start true).run visit).seats.find? "a").map (·.acts.all Act.isOutside) =
        some true := by decide +kernel
    obtain ⟨seat, hseat, hall⟩ := Option.map_eq_some_iff.mp houtside
    have hnever : ∀ identity, .answered (some identity) ∉ seat.acts := by
      intro identity hmem
      cases List.all_eq_true.mp hall _ hmem
    obtain ⟨htrace, -⟩ := hrun true
    obtain ⟨-, -, hindex, -⟩ := htrace "a" seat hseat hnever
    exact hindex
  -- Where they are not, its log has a first confirmation, and the theorem says what is
  -- before it.
  · have hconfirmed : (((start false).run visit).seats.find? "a").map
        (fun seat => (seat.acts.find? Act.isConfirmation).isSome) = some true := by decide +kernel
    obtain ⟨seat, hseat, hfound⟩ := Option.map_eq_some_iff.mp hconfirmed
    obtain ⟨act, hact⟩ := Option.isSome_iff_exists.mp hfound
    obtain ⟨hconfirms, front, back, hacts, hfirst⟩ := List.find?_eq_some_iff_append.mp hact
    cases act with
    | sent line delivered =>
      obtain rfl : line = confirmation := of_decide_eq_true hconfirms
      obtain ⟨-, hadmission, -⟩ := hrun false
      obtain ⟨talk, identity, storedAt, enteredAt, -, hfront⟩ :=
        hadmission "a" seat front delivered back hseat hacts (by simpa using hfirst)
      exact ⟨talk, identity, storedAt, enteredAt, delivered, back, seat, hseat, hfront ▸ hacts⟩
    | answered | stored | heard | entered | left => cases hconfirms

end Gatekeeper.Session
