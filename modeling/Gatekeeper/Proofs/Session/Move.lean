import Gatekeeper.Proofs.Session.Script

/-!
# `Gatekeeper.Proofs.Session.Move`: what one step of a session can be

`Move` lists what one step can be, call by call, with the session and the gate after it.
`move_script` shows that there is nothing else, and every fact about one step is read off
the list.

* `pending?_move`: a step leaves the session's own nonce alone or gives it back, and the
  roster of nonces changes by just that.
* `handshake_move`, `released_of_ended`: how a handshake is settled, and how a session ends.
-/

set_option autoImplicit false

namespace Gatekeeper.Session

open Gatekeeper.Handshake Gatekeeper.Ledger Gatekeeper.Wire

/-- Whether the call is part of serving the client of a connection. -/
def Act.isService (connection : String) : Act → Bool
  | sent _ _ | answered _ => true
  | heard other _ _ => other = connection
  | _ => false

/-! ### One step -/

/-- What one step of a session can be: the calls it makes, the session after it, and the gate
after it. -/
inductive Move (scene : Scene) (session : Session) (shared : Shared) :
    List Act → Session → Gate → Prop where
  /-- Nothing is due, or a line asks for nothing. -/
  | idle : Move scene session shared [] session shared.gate
  /-- One of the two sides hung up. -/
  | hungUp (waiting : session.isWaiting = true) :
    Move scene session shared [] { session with phase := .leaving } shared.gate
  /-- A client that is not admitted is answered, or told goodbye. -/
  | chatted {line : String} {next : Phase} (due : session.phase = .handshaking)
      (other : line ≠ confirmation) (stays : next = .handshaking ∨ next = .leaving) :
    Move scene session shared [.sent line scene.writable] (session.write scene line next)
      shared.gate
  /-- The gate admits the client. -/
  | admitted {request : Request} {identity : Identity} {handshake : Handshake} {gate : Gate}
      (due : session.phase = .handshaking)
      (verdict : shared.gate.answer session.handshake request scene.moment =
        (.ok identity, handshake, gate)) :
    Move scene session shared [.answered (some identity)]
      { session with handshake, phase := .persisting identity } gate
  /-- The gate refuses a request, be it the first one or a further one. -/
  | refused {request : Request} {refusal : Refusal} {handshake : Handshake} {gate : Gate}
      (due : session.isWaiting = true)
      (verdict : shared.gate.answer session.handshake request scene.moment =
        (.error refusal, handshake, gate)) :
    Move scene session shared
      [.answered none, .sent (Farewell.line .refused) scene.writable]
      ({ session with handshake }.write scene (Farewell.line .refused) .leaving) gate
  /-- The record is stored. -/
  | stored {identity : Identity} (due : session.phase = .persisting identity) :
    Move scene session shared [.stored ⟨session.connection, scene.instant, true⟩ (.ok ())]
      { session with phase := .registering identity } shared.gate
  /-- The record could not be stored. -/
  | unstored {identity : Identity} {fault : Fault} (due : session.phase = .persisting identity) :
    Move scene session shared
      [.stored ⟨session.connection, scene.instant, true⟩ (.error fault),
        .sent (Farewell.line .unavailable) scene.writable]
      (session.write scene (Farewell.line .unavailable) .leaving) shared.gate
  /-- The index takes the client. -/
  | entered {identity : Identity} (due : session.phase = .registering identity)
      (free : shared.index.find? session.connection = none) :
    Move scene session shared [.entered ⟨session.connection, identity, scene.instant⟩ true]
      { session with
        phase := .confirming, entry := some ⟨session.connection, identity, scene.instant⟩ }
      shared.gate
  /-- The index has another entry under the connection. -/
  | taken {identity : Identity} (due : session.phase = .registering identity)
      (occupied : shared.index.find? session.connection ≠ none) :
    Move scene session shared [.entered ⟨session.connection, identity, scene.instant⟩ false]
      { session with phase := .leaving } shared.gate
  /-- The client is told that it was admitted. -/
  | confirmed (due : session.phase = .confirming) :
    Move scene session shared [.sent confirmation scene.writable]
      (session.write scene confirmation .serving) shared.gate
  /-- An admitted client is answered, perhaps after a sign of life, or told goodbye. -/
  | served {acts : List Act} {line : String} {next : Phase} (due : session.phase = .serving)
      (service : ∀ act ∈ acts, act.isService session.connection = true)
      (stays : next = .serving ∨ next = .leaving) :
    Move scene session shared (acts ++ [.sent line scene.writable])
      (session.write scene line next) shared.gate
  /-- The gate admits an anonymous client once more. -/
  | repeated {request : Request} {identity : Identity} {handshake : Handshake} {gate : Gate}
      (due : session.phase = .serving)
      (verdict : shared.gate.answer session.handshake request scene.moment =
        (.ok identity, handshake, gate)) :
    Move scene session shared
      [.answered (some identity), .sent confirmation scene.writable]
      ({ session with handshake }.write scene confirmation .serving) gate
  /-- The session ends and gives back what it holds. -/
  | released (due : session.phase = .leaving) :
    Move scene session shared
      (match session.entry with
        | some _ => [.left session.connection]
        | none => [])
      { session with phase := .ended, entry := none } (shared.gate.abandon session.handshake)

section
variable {scene : Scene} {session : Session} {shared : Shared}

/-- The gate's verdict as a session gets it. -/
theorem answer_of_authenticate {handshake handshake' : Handshake} {request : Request}
    {verdict : Option Identity} {shared' : Shared}
    (h : shared.authenticate scene handshake request = (verdict, handshake', shared')) :
    ∃ answer, shared.gate.answer handshake request scene.moment =
        (answer, handshake', shared'.gate) ∧ verdict = answer.toOption := by
  obtain ⟨authThrottle, metrics, heq⟩ := shared.authenticate_eq scene handshake request
  cases heq.symm.trans h
  exact ⟨_, rfl, rfl⟩

/-- A client that is greeted makes one of these moves with whatever it writes. -/
theorem move_greet (due : session.phase = .handshaking) (read : Except LineFault String) :
    Move scene session shared ((session.greetScript read).run scene shared).1
      ((session.greetScript read).run scene shared).2.1
      ((session.greetScript read).run scene shared).2.2.gate := by
  unfold greetScript
  cases commandOf? read with
  | none =>
    dsimp only
    rw [run_sending]
    exact .chatted due (by decide) (.inr rfl)
  | some command =>
    cases command with
    | ping =>
      dsimp only
      rw [run_sending]
      exact .chatted due (by decide) (.inl rfl)
    | pong => exact .idle
    | connect request =>
      dsimp only
      rw [Script.run]
      generalize hverdict : shared.authenticate scene session.handshake request = outcome
      obtain ⟨verdict, handshake, shared'⟩ := outcome
      obtain ⟨answer, hanswer, rfl⟩ := answer_of_authenticate hverdict
      -- Either way the handshake that goes on is the one that the gate settled.
      cases answer with
      | error refusal =>
        dsimp only [Except.toOption]
        rw [run_sending]
        exact .refused (by simp [isWaiting, due]) hanswer
      | ok identity => exact .admitted due hanswer

/-- So does a client whose record is to be stored. -/
theorem move_persist {identity : Identity} (due : session.phase = .persisting identity) :
    Move scene session shared ((session.persistScript scene identity).run scene shared).1
      ((session.persistScript scene identity).run scene shared).2.1
      ((session.persistScript scene identity).run scene shared).2.2.gate := by
  rw [persistScript, Script.run]
  generalize shared.ledger.callUpsert scene.conditions _ = outcome
  obtain ⟨result, ledger⟩ := outcome
  cases result with
  | ok => exact .stored due
  | error fault =>
    dsimp only
    rw [Script.run, run_sending]
    exact .unstored due

/-- So does a client that is to be entered in the index. -/
theorem move_register {identity : Identity} (due : session.phase = .registering identity) :
    Move scene session shared ((session.registerScript scene identity).run scene shared).1
      ((session.registerScript scene identity).run scene shared).2.1
      ((session.registerScript scene identity).run scene shared).2.2.gate := by
  rw [registerScript, Script.run]
  dsimp only
  unfold Roster.add
  by_cases htaken : shared.index.contains session.connection = true
  · rw [dif_pos htaken]
    exact .taken due fun hfree => by simp [Roster.contains, hfree] at htaken
  · rw [dif_neg htaken]
    exact .entered due (Roster.contains_eq_false_iff.mp (Bool.not_eq_true _ ▸ htaken))

/-- So does an admitted client with whatever it writes. -/
theorem move_serve (due : session.phase = .serving) (read : Except LineFault String) :
    Move scene session shared ((session.serveScript scene read).run scene shared).1
      ((session.serveScript scene read).run scene shared).2.1
      ((session.serveScript scene read).run scene shared).2.2.gate := by
  unfold serveScript
  cases commandOf? read with
  | none =>
    have hservice : ∀ act ∈ ([] : List Act), act.isService session.connection = true := by simp
    dsimp only
    rw [run_sending]
    exact .served due hservice (.inr rfl)
  | some command =>
    cases command with
    | ping =>
      dsimp only
      rw [beatScript, Script.run]
      generalize shared.ledger.callHeartbeat scene.conditions session.connection _ = outcome
      obtain ⟨result, ledger⟩ := outcome
      -- Whatever storage says to a sign of life, one line is written after it.
      have hservice : ∀ act ∈ [Act.heard session.connection scene.instant result],
          act.isService session.connection = true := by simp [Act.isService]
      cases result with
      | ok isActive =>
        cases isActive with
        | true =>
          dsimp only
          rw [run_sending]
          exact .served due hservice (.inl rfl)
        | false =>
          dsimp only
          rw [run_sending]
          exact .served due hservice (.inr rfl)
      | error fault =>
        cases fault with
        | notFound =>
          dsimp only
          rw [run_sending]
          exact .served due hservice (.inr rfl)
        | conflict | unexpected =>
          dsimp only
          rw [Script.run, run_sending]
          exact .served due hservice (.inl rfl)
    | pong => exact .idle
    | connect request =>
      dsimp only
      rw [Script.run]
      generalize hverdict : shared.authenticate scene session.handshake request = outcome
      obtain ⟨verdict, handshake, shared'⟩ := outcome
      obtain ⟨answer, hanswer, rfl⟩ := answer_of_authenticate hverdict
      cases answer with
      | error refusal =>
        dsimp only [Except.toOption]
        rw [run_sending]
        exact .refused (by simp [isWaiting, due]) hanswer
      | ok identity =>
        dsimp only [Except.toOption]
        rw [run_sending]
        exact .repeated due hanswer

/-- A step is one of the moves. -/
theorem move_script (event : Event) :
    Move scene session shared ((session.script scene event).run scene shared).1
      ((session.script scene event).run scene shared).2.1
      ((session.script scene event).run scene shared).2.2.gate := by
  unfold script
  generalize hphase : session.phase = phase
  split
  · exact move_greet hphase _
  · exact .hungUp (by simp [isWaiting, hphase])
  · rw [Script.run, run_sending]
    exact .chatted hphase (by decide) (.inr rfl)
  · exact move_persist hphase
  · exact move_register hphase
  · rw [run_sending]
    exact .confirmed hphase
  · exact move_serve hphase _
  · exact .hungUp (by simp [isWaiting, hphase])
  · exact .hungUp (by simp [isWaiting, hphase])
  · -- The entry is taken out only if the session has one.
    have hmove : Move scene session shared _ _ _ := .released hphase
    rw [releaseScript]
    cases hentry : session.entry <;> rw [hentry] at hmove <;> exact hmove
  · exact .idle

end

/-! ### The nonce of a session -/

/-- Writing does not change the connection id. -/
@[simp] theorem connection_write (session : Session) (scene : Scene) (line : String)
    (next : Phase) : (session.write scene line next).connection = session.connection := by
  rw [write]
  split <;> rfl

/-- Writing does not change the handshake. -/
@[simp] theorem handshake_write (session : Session) (scene : Scene) (line : String)
    (next : Phase) : (session.write scene line next).handshake = session.handshake := by
  rw [write]
  split <;> rfl

/-- Writing does not change the entry in the index. -/
@[simp] theorem entry_write (session : Session) (scene : Scene) (line : String)
    (next : Phase) : (session.write scene line next).entry = session.entry := by
  rw [write]
  split <;> rfl

/-- Writing leads on, unless the client cannot be written to. -/
theorem phase_write (session : Session) (scene : Scene) (line : String) (next : Phase) :
    (session.write scene line next).phase = if scene.writable then next else .leaving := by
  rw [write]
  split <;> rfl

/-- The entry of the roster of nonces that a session has to give back. -/
def pending? (session : Session) : Option (String × Issue) :=
  if session.phase = .ended then none else session.handshake.entry?

/-- Until its end, a session waits for what its handshake waits for. -/
theorem pending?_of_phase {session : Session} (h : session.phase ≠ .ended) :
    session.pending? = session.handshake.entry? := if_neg h

/-- A session waits for a nonce while it is not over and its handshake has that nonce open. -/
theorem pending?_eq_some_iff {session : Session} {nonce : String} {issue : Issue} :
    session.pending? = some (nonce, issue) ↔ session.phase ≠ .ended ∧
      session.handshake.entry? = some (nonce, issue) := by
  rw [pending?]
  split <;> simp [*]

/-- No written line ends a session. -/
theorem pending?_write (session : Session) (scene : Scene) (line : String) {next : Phase}
    (h : next ≠ .ended) :
    (session.write scene line next).pending? = session.handshake.entry? := by
  rw [pending?_of_phase, handshake_write]
  rw [phase_write]
  split
  · exact h
  · nofun

/-- A session that waits for its client is not over. -/
theorem phase_ne_ended_of_isWaiting {session : Session} (h : session.isWaiting = true) :
    session.phase ≠ .ended := by
  intro hended
  simp [isWaiting, hended] at h

variable {scene : Scene} {session session' : Session} {shared : Shared} {acts : List Act}
  {gate : Gate}

/-- What an answer does to the nonce of a session that goes on after it. -/
theorem pending?_of_answer {handshake : Handshake} {request : Request}
    {verdict : Except Refusal Identity} (started : session.handshake.stage ≠ .awaiting)
    (h : shared.gate.answer session.handshake request scene.moment = (verdict, handshake, gate))
    (hlive : session.phase ≠ .ended) (hnext : session'.pending? = handshake.entry?) :
    session'.pending? = session.pending? ∧ gate.outstanding = shared.gate.outstanding ∨
      ∃ nonce issue, session.pending? = some (nonce, issue) ∧ session'.pending? = none ∧
        gate.outstanding = shared.gate.outstanding.erase nonce := by
  -- The first answer to a nonce takes it out, and there is no nonce left for a second one.
  rw [hnext, pending?_of_phase hlive]
  rcases Gate.answer_cases started h with ⟨-, rfl, rfl⟩ | ⟨nonce, issue, hentry, rfl, rfl⟩
  · exact .inl ⟨rfl, rfl⟩
  · exact .inr ⟨nonce, issue, hentry, Gatehouse.entry?_stage_settled _ _, rfl⟩

/-- A step leaves the session's nonce and the roster of nonces alone, or takes exactly this
nonce out of both. -/
theorem pending?_move (started : session.handshake.stage ≠ .awaiting)
    (h : Move scene session shared acts session' gate) :
    session'.pending? = session.pending? ∧ gate.outstanding = shared.gate.outstanding ∨
      ∃ nonce issue, session.pending? = some (nonce, issue) ∧ session'.pending? = none ∧
        gate.outstanding = shared.gate.outstanding.erase nonce := by
  have hlive : ∀ {phase : Phase}, session.phase = phase → phase ≠ .ended →
      session.pending? = session.handshake.entry? := fun due hne =>
    pending?_of_phase (due ▸ hne)
  cases h with
  | idle => exact .inl ⟨rfl, rfl⟩
  | hungUp waiting =>
    exact .inl ⟨(pending?_of_phase (phase_ne_ended_of_isWaiting waiting)).symm, rfl⟩
  | chatted due other stays =>
    refine .inl ⟨(pending?_write _ _ _ ?_).trans (hlive due nofun).symm, rfl⟩
    rcases stays with rfl | rfl <;> nofun
  | admitted due verdict => exact pending?_of_answer started verdict (due ▸ nofun) rfl
  | refused due verdict =>
    exact pending?_of_answer started verdict (phase_ne_ended_of_isWaiting due)
      (pending?_write _ _ _ nofun)
  | stored due | entered due | taken due => exact .inl ⟨(hlive due nofun).symm, rfl⟩
  | unstored due | confirmed due =>
    refine .inl ⟨(pending?_write _ _ _ ?_).trans (hlive due nofun).symm, rfl⟩
    nofun
  | served due service stays =>
    refine .inl ⟨(pending?_write _ _ _ ?_).trans (hlive due nofun).symm, rfl⟩
    rcases stays with rfl | rfl <;> nofun
  | repeated due verdict =>
    exact pending?_of_answer started verdict (due ▸ nofun) (pending?_write _ _ _ nofun)
  | released due =>
    -- What is left of the nonce goes back, and an ended session has none to give back.
    rw [hlive due nofun]
    cases hentry : session.handshake.entry? with
    | none => exact .inl ⟨rfl, by rw [Gate.abandon_settled hentry]⟩
    | some entry =>
      obtain ⟨nonce, issue⟩ := entry
      exact .inr ⟨nonce, issue, rfl, rfl,
        by rw [Gate.abandon_nonceIssued (entry?_eq_some_iff.mp hentry).2]⟩

/-! ### The handshake, the connection and the end of a session -/

/-- A verdict leaves a client that was admitted its identity. -/
theorem stage_of_answer {handshake handshake' : Handshake} {request : Request}
    {verdict : Except Refusal Identity} {identity : Identity}
    (h : shared.gate.answer handshake request scene.moment = (verdict, handshake', gate))
    (hstage : handshake.stage = .authenticated identity) :
    handshake'.stage = .authenticated identity := by
  -- The handshake is settled already, so it has no nonce that this answer could be to.
  rcases Gate.answer_cases (hstage ▸ nofun) h with ⟨-, rfl, -⟩ | ⟨nonce, issue, hentry, -⟩
  · exact hstage
  · unfold entry? at hentry
    simp [hstage] at hentry

/-- An answer does not take a handshake back to before its greeting. -/
theorem stage_ne_awaiting_of_answer {handshake handshake' : Handshake} {request : Request}
    {verdict : Except Refusal Identity} (started : handshake.stage ≠ .awaiting)
    (h : shared.gate.answer handshake request scene.moment = (verdict, handshake', gate)) :
    handshake'.stage ≠ .awaiting := by
  rcases Gate.answer_cases started h with ⟨-, rfl, -⟩ | ⟨nonce, issue, -, rfl, -⟩
  · exact started
  · cases verdict <;> nofun

/-- A step leaves the handshake alone or is an answer to it. -/
theorem handshake_move (h : Move scene session shared acts session' gate) :
    session'.handshake = session.handshake ∨ ∃ request verdict,
      shared.gate.answer session.handshake request scene.moment =
        (verdict, session'.handshake, gate) := by
  cases h with
  | idle | hungUp | stored | entered | taken | released => exact .inl rfl
  | chatted | unstored | confirmed | served => exact .inl (handshake_write ..)
  | admitted due verdict => exact .inr ⟨_, _, verdict⟩
  | refused due verdict | repeated due verdict =>
    rw [handshake_write]
    exact .inr ⟨_, _, verdict⟩

/-- A move does not change the connection id. -/
theorem connection_move (h : Move scene session shared acts session' gate) :
    session'.connection = session.connection := by
  cases h with
  | idle | hungUp | admitted | stored | entered | taken | released => rfl
  | chatted | refused | unstored | confirmed | served | repeated => exact connection_write ..

end Gatekeeper.Session
