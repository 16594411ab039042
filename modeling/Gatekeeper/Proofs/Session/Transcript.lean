import Gatekeeper.Proofs.Session.Lobby

/-!
# `Gatekeeper.Proofs.Session.Transcript`: what a session writes

What a session writes depends on what its client does and on what comes of its own calls, and
between two of its steps other sessions may change all that it shares with them. Here this is
said without the phases of a session. An `Occasion` is something that happens while a session
waits, with what each of the steps that follow finds. `greeting` is what is written up to the
first connect, `service` what is written from there on, and both are recursions on what
happens.

* `attend`: what an occasion makes of a session.
* `transcript_run`: a session writes what `greeting` says, line for line, and ends where it
  says so.
-/

set_option autoImplicit false

namespace Gatekeeper.Session

open Gatekeeper.Handshake Gatekeeper.Ledger Gatekeeper.Text Gatekeeper.Wire

/-! ### Occasions -/

/-- What a step finds: what it depends on from outside, and what sessions share at that
time. -/
structure Circumstance where
  scene : Scene
  shared : Shared

/-- Something that happens to a session that waits, and what each step finds that it brings
about. -/
structure Occasion where
  event : Event
  finds : Nat → Circumstance

/-- That many steps that are due without the client, with anybody in between. -/
def proceedAmid : Nat → (Nat → Circumstance) → Session → Session
  | 0, _, session => session
  | count + 1, finds, session =>
    proceedAmid count (fun n => finds (n + 1))
      (step (finds 0).scene .proceed session (finds 0).shared).1

/-- All steps that are due without the client, with anybody in between. -/
def settleAmid (session : Session) (finds : Nat → Circumstance) : Session :=
  proceedAmid maxSteps finds session

/-- One event and all that is due after it, with anybody in between. -/
def attend (session : Session) (occasion : Occasion) : Session :=
  settleAmid (step (occasion.finds 0).scene occasion.event session (occasion.finds 0).shared).1
    fun n => occasion.finds (n + 1)

/-- One occasion after another. -/
def attendAll (session : Session) (occasions : List Occasion) : Session :=
  occasions.foldl attend session

/-! ### What a client says, and what comes of a call -/

/-- What a client says with a line, or with what stands in its place. -/
inductive Utterance where
  | ping
  | pong
  | blank
  | connect (request : Request)
  | unknownOperation (word : String)
  | malformedConnect
  | tooLong (max : UInt64)
  | notText (fault : Utf8.Fault)

/-- What a client says. -/
def utterance (read : Except LineFault String) : Utterance :=
  match read with
  | .error (.tooLong max) => .tooLong max
  | .error (.notText fault) => .notText fault
  | .ok line =>
    if (trim line.toList).isEmpty then .blank
    else
      match Command.parse line with
      | .ok .ping => .ping
      | .ok .pong => .pong
      | .ok (.connect request) => .connect request
      | .error (.unknownOperation word) => .unknownOperation word
      | .error .malformedConnect => .malformedConnect

/-- What a client asks for by what it says. -/
def Utterance.command? : Utterance → Option Command
  | ping => some .ping
  | pong | blank => some .pong
  | connect request => some (.connect request)
  | unknownOperation _ | malformedConnect | tooLong _ | notText _ => none

namespace Circumstance

variable (circumstance : Circumstance)

/-- The gate's verdict on a request. -/
def verdict (handshake : Handshake) (request : Request) : Except Refusal Identity :=
  (circumstance.shared.gate.answer handshake request circumstance.scene.moment).1

/-- The outcome of storing a client's record. -/
def stored (connection : String) : Except Fault Unit :=
  (circumstance.shared.ledger.callUpsert circumstance.scene.conditions
    ⟨connection, circumstance.scene.instant, true⟩).1

/-- Whether a connection id is taken. -/
def isTaken (connection : String) : Bool := circumstance.shared.index.contains connection

/-- Whether a sign of life finds no live record. Storage may also say so itself where it is
out of order. -/
def isStale (connection : String) : Bool :=
  match circumstance.scene.conditions.failing .recordHeartbeat with
  | some (.notFound _) => true
  | some _ => false
  | none =>
    match circumstance.shared.ledger.connections.find? connection with
    | some record => !record.isActive
    | none => true

end Circumstance

/-! ### What is written -/

/-- What is written from some time on, and whether the session is over then. -/
structure Transcript where
  lines : List String
  isOver : Bool

namespace Transcript

/-- Nothing yet. -/
def pause : Transcript := ⟨[], false⟩

/-- Nothing more. -/
def silence : Transcript := ⟨[], true⟩

/-- A line, and what comes after it. To a client that cannot be written to, nothing more is
written. -/
def say (circumstance : Circumstance) (line : String) (rest : Transcript) : Transcript :=
  if circumstance.scene.writable then ⟨line :: rest.lines, rest.isOver⟩ else silence

/-- A line, and nothing more. -/
def part (circumstance : Circumstance) (line : String) : Transcript :=
  say circumstance line silence

end Transcript

/-- What is written to an admitted client. -/
def service (connection : String) (anonymous : Bool) : List Occasion → Transcript
  | [] => .pause
  | ⟨event, finds⟩ :: rest =>
    match event with
    | .line read =>
      match utterance read with
      | .ping =>
        if (finds 0).isStale connection then .part (finds 0) "-ERR 'Stale Connection'"
        else .say (finds 0) "PONG" (service connection anonymous rest)
      | .pong | .blank => service connection anonymous rest
      | .connect _ =>
        if anonymous then .say (finds 0) "+OK" (service connection anonymous rest)
        else .part (finds 0) "-ERR 'Authorization Violation'"
      | .unknownOperation _ | .malformedConnect | .tooLong _ | .notText _ =>
        .part (finds 0) "-ERR 'Unknown Protocol Operation'"
    | .closed | .dismissed => .silence
    | .expired | .proceed => service connection anonymous rest

/-- What is written to a client that asks to connect, the steps of which find this. -/
def admission (handshake : Handshake) (connection : String) (request : Request)
    (finds : Nat → Circumstance) (rest : List Occasion) : Transcript :=
  match (finds 0).verdict handshake request with
  | .error _ => .part (finds 0) "-ERR 'Authorization Violation'"
  | .ok identity =>
    match (finds 1).stored connection with
    | .error _ => .part (finds 1) "-ERR 'Service Unavailable'"
    | .ok () =>
      if (finds 2).isTaken connection then .silence
      else .say (finds 3) "+OK" (service connection identity.isAnonymous rest)

/-- What is written to a client that is not admitted yet. -/
def greeting (handshake : Handshake) (connection : String) : List Occasion → Transcript
  | [] => .pause
  | ⟨event, finds⟩ :: rest =>
    match event with
    | .line read =>
      match utterance read with
      | .ping => .say (finds 0) "PONG" (greeting handshake connection rest)
      | .pong | .blank => greeting handshake connection rest
      | .connect request => admission handshake connection request finds rest
      | .unknownOperation _ | .malformedConnect | .tooLong _ | .notText _ =>
        .part (finds 0) "-ERR 'Unknown Protocol Operation'"
    | .closed => .silence
    | .expired => .part (finds 0) "-ERR 'Authentication Timeout'"
    | .dismissed | .proceed => greeting handshake connection rest

/-! ### Calls and their outcomes -/

/-- A session reads a line as a command just if the line is one of the utterances that ask for
something. -/
theorem commandOf?_eq (read : Except LineFault String) :
    commandOf? read = (utterance read).command? := by
  unfold commandOf? utterance
  cases read with
  | error fault => cases fault <;> rfl
  | ok line =>
    dsimp only
    split
    · rfl
    · cases Command.parse line with
      | ok command => cases command <;> rfl
      | error fault => cases fault <;> rfl

section
variable (session : Session) (circumstance : Circumstance)

/-- A line from a client that is not admitted yet. -/
theorem fst_greetLine (read : Except LineFault String) :
    (session.greetLine circumstance.scene circumstance.shared read).1 =
      match utterance read with
      | .ping => session.write circumstance.scene pong .handshaking
      | .pong | .blank => session
      | .connect request =>
        let handshake := (circumstance.shared.gate.answer session.handshake request
          circumstance.scene.moment).2.1
        match circumstance.verdict session.handshake request with
        | .ok identity => { session with handshake, phase := .persisting identity }
        | .error _ => { session with handshake }.bidFarewell circumstance.scene .refused
      | .unknownOperation _ | .malformedConnect | .tooLong _ | .notText _ =>
        session.bidFarewell circumstance.scene .unknownOperation := by
  rw [greetLine, commandOf?_eq]
  cases utterance read with
  | connect request =>
    obtain ⟨authThrottle, metrics, heq⟩ :=
      circumstance.shared.authenticate_eq circumstance.scene session.handshake request
    rw [Utterance.command?]
    dsimp only
    rw [heq, Circumstance.verdict]
    cases (circumstance.shared.gate.answer session.handshake request
      circumstance.scene.moment).1 <;> rfl
  | ping | pong | blank | unknownOperation | malformedConnect | tooLong | notText => rfl

/-- A sign of life is answered unless it finds no live record. -/
theorem fst_beat :
    (session.beat circumstance.scene circumstance.shared).1 =
      if circumstance.isStale session.connection then
        session.bidFarewell circumstance.scene .stale
      else session.write circumstance.scene pong .serving := by
  rw [beat, callHeartbeat, guarded, Circumstance.isStale, heartbeat?]
  cases circumstance.scene.conditions.failing .recordHeartbeat with
  -- A failure is no fault of the client, unless it says that there is no record.
  | some fault => cases fault <;> rfl
  | none =>
    cases circumstance.shared.ledger.connections.find? session.connection with
    | none => rfl
    | some record => cases hactive : record.isActive <;> simp [hactive]

/-- Storing a client's record leads on to its registration, or to the lines that say why not. -/
theorem fst_persist (identity : Identity) :
    (session.persist circumstance.scene circumstance.shared identity).1 =
      match circumstance.stored session.connection with
      | .ok () => { session with phase := .registering identity }
      | .error _ => session.bidFarewell circumstance.scene .unavailable := by
  rw [persist, Circumstance.stored]
  generalize circumstance.shared.ledger.callUpsert circumstance.scene.conditions _ = outcome
  obtain ⟨result, ledger⟩ := outcome
  cases result <;> rfl

/-- Registering a client leads on to its welcome, unless the connection id is taken. -/
theorem fst_register (identity : Identity) :
    (session.register circumstance.scene circumstance.shared identity).1 =
      if circumstance.isTaken session.connection then { session with phase := .leaving }
      else
        { session with
          phase := .confirming
          entry := some ⟨session.connection, identity, circumstance.scene.instant⟩ } := by
  rw [register, Circumstance.isTaken]
  unfold Roster.add
  by_cases htaken : circumstance.shared.index.contains session.connection = true
  · rw [dif_pos htaken, if_pos htaken]
  · rw [dif_neg htaken, if_neg htaken]

/-- A line from an admitted client. Its identity is fixed, and the gate's verdict on a further
connect depends on nothing else. -/
theorem fst_serveLine {identity : Identity}
    (hstage : session.handshake.stage = .authenticated identity)
    (read : Except LineFault String) :
    (session.serveLine circumstance.scene circumstance.shared read).1 =
      match utterance read with
      | .ping =>
        if circumstance.isStale session.connection then
          session.bidFarewell circumstance.scene .stale
        else session.write circumstance.scene pong .serving
      | .pong | .blank => session
      | .connect _ =>
        if identity.isAnonymous then session.write circumstance.scene confirmation .serving
        else session.bidFarewell circumstance.scene .refused
      | .unknownOperation _ | .malformedConnect | .tooLong _ | .notText _ =>
        session.bidFarewell circumstance.scene .unknownOperation := by
  rw [serveLine, commandOf?_eq]
  cases utterance read with
  | ping => exact fst_beat ..
  | connect request =>
    -- The gate does not look at the request of a client that has its identity.
    have hanswer : circumstance.shared.gate.answer session.handshake request
        circumstance.scene.moment = (if identity.isAnonymous then .ok identity
          else .error .alreadyBound, session.handshake, circumstance.shared.gate) := by
      rw [Gate.answer, hstage]
    rw [Utterance.command?]
    dsimp only
    rw [Shared.authenticate, hanswer]
    cases identity.isAnonymous <;> rfl
  | pong | blank | unknownOperation | malformedConnect | tooLong | notText => rfl

end

/-! ### Steps without the client -/

section
variable {session : Session} {finds : Nat → Circumstance} {count : Nat}

/-- The steps that are due are taken one at a time: the first as it finds things, the others as they
find them then. -/
theorem proceedAmid_succ (count : Nat) (finds : Nat → Circumstance) (session : Session) :
    proceedAmid (count + 1) finds session =
      proceedAmid count (fun n => finds (n + 1))
        (step (finds 0).scene .proceed session (finds 0).shared).1 := rfl

/-- In both phases in which a client is listened to, the session waits. -/
theorem isWaiting_of_phase (h : session.phase = .handshaking ∨ session.phase = .serving) :
    session.isWaiting = true := by
  rcases h with h | h <;> simp [isWaiting, h]

/-- Nothing is due while a session waits, and nothing after its end. -/
theorem proceedAmid_of_isWaiting (h : session.isWaiting = true ∨ session.phase = .ended) :
    proceedAmid count finds session = session := by
  induction count generalizing finds with
  | zero => rfl
  | succ count ih =>
    have hidle : (step (finds 0).scene .proceed session (finds 0).shared).1 = session := by
      simp only [isWaiting, Bool.or_eq_true, decide_eq_true_iff] at h
      rcases h with (h | h) | h <;> simp only [step, h]
    rw [proceedAmid_succ, hidle, ih]

/-- A session that leaves ends with its next step. -/
theorem proceedAmid_of_leaving (due : session.phase = .leaving) :
    proceedAmid (count + 1) finds session = { session with phase := .ended, entry := none } := by
  have hrelease : (step (finds 0).scene .proceed session (finds 0).shared).1 =
      { session with phase := .ended, entry := none } := by
    simp only [step, due, release]
  rw [proceedAmid_succ, hrelease]
  exact proceedAmid_of_isWaiting (.inr rfl)

/-- Whatever happens after the end of a session, it is none of its business. -/
theorem attendAll_of_ended (h : session.phase = .ended) (occasions : List Occasion) :
    session.attendAll occasions = session := by
  induction occasions with
  | nil => rfl
  | cons occasion rest ih =>
    have hidle : session.attend occasion = session := by
      rw [attend]
      have hstep : (step (occasion.finds 0).scene occasion.event session
          (occasion.finds 0).shared).1 = session := by simp only [step, h]
      rw [hstep]
      exact proceedAmid_of_isWaiting (.inr h)
    rw [attendAll, List.foldl_cons, hidle]
    exact ih

end

/-! ### Sessions and transcripts -/

/-- A session that was at some lines comes to a transcript after them. -/
structure Tells (session : Session) (before : List String) (transcript : Transcript) : Prop where
  written : session.written = before ++ transcript.lines
  waits : transcript.isOver = false → session.isWaiting = true
  ended : transcript.isOver = true → session.phase = .ended

/-- The session with a line written. -/
def withLine (session : Session) (line : String) (next : Phase) : Session :=
  { session with written := session.written ++ [line], phase := next }

section
variable (session : Session) (circumstance : Circumstance) (line : String)
variable {finds : Nat → Circumstance} {rest : List Occasion} {count : Nat}

/-- A session that waits has written nothing more than it had. -/
theorem tells_pause (h : session.isWaiting = true) : Tells session session.written .pause where
  written := (List.append_nil _).symm
  waits _ := h
  ended hover := absurd hover Bool.false_ne_true

/-- A session that leaves says nothing more. -/
theorem tells_of_leaving {before lines : List String} (due : session.phase = .leaving)
    (hwritten : session.written = before ++ lines) :
    Tells ((proceedAmid (count + 1) finds session).attendAll rest) before ⟨lines, true⟩ := by
  rw [proceedAmid_of_leaving due, attendAll_of_ended rfl]
  exact ⟨hwritten, fun hopen => absurd hopen.symm Bool.false_ne_true, fun _ => rfl⟩

/-- A session that leaves writes nothing more, whatever is still to come. -/
theorem tells_silence (due : session.phase = .leaving) :
    Tells ((proceedAmid (count + 1) finds session).attendAll rest) session.written .silence :=
  tells_of_leaving session due (List.append_nil _).symm

/-- A line is written, and then the session tells what it tells with the line written; or the
line does not reach the client, and that is all. -/
theorem tells_say {next : Phase} (hnext : next = .handshaking ∨ next = .serving)
    {transcript : Transcript}
    (hrest : Tells ((session.withLine line next).attendAll rest) (session.written ++ [line])
      transcript) :
    Tells ((proceedAmid (count + 1) finds
      (session.write circumstance.scene line next)).attendAll rest) session.written
      (.say circumstance line transcript) := by
  rw [write, Transcript.say]
  split
  · have hwaiting : (session.withLine line next).isWaiting = true := isWaiting_of_phase hnext
    rw [← withLine, proceedAmid_of_isWaiting (.inl hwaiting)]
    refine ⟨?_, hrest.waits, hrest.ended⟩
    rw [hrest.written, List.append_assoc, List.singleton_append]
  · exact tells_silence { session with phase := .leaving } rfl

/-- A line is written, and the session is over. -/
theorem tells_part :
    Tells ((proceedAmid (count + 1) finds
      (session.write circumstance.scene line .leaving)).attendAll rest) session.written
      (.part circumstance line) := by
  rw [write, Transcript.part, Transcript.say]
  split
  · exact tells_of_leaving (session.withLine line .leaving) rfl rfl
  · exact tells_silence { session with phase := .leaving } rfl

/-- To attend to occasions is to attend to the first one and then to the rest. -/
theorem attendAll_cons (event : Event) (finds : Nat → Circumstance) (rest : List Occasion) :
    session.attendAll (⟨event, finds⟩ :: rest) =
      (proceedAmid maxSteps (fun n => finds (n + 1))
        (step (finds 0).scene event session (finds 0).shared).1).attendAll rest := rfl

/-- An event that leaves a waiting session as it is leaves everything to the next one. -/
theorem attendAll_cons_of_idle (hwaiting : session.isWaiting = true) {event : Event}
    (hstep : (step (finds 0).scene event session (finds 0).shared).1 = session) :
    session.attendAll (⟨event, finds⟩ :: rest) = session.attendAll rest := by
  rw [attendAll_cons, hstep, proceedAmid_of_isWaiting (.inl hwaiting)]

/-- What an admitted client is told. The induction is on what happens; the identity stays. -/
theorem tells_service {identity : Identity} (due : session.phase = .serving)
    (hstage : session.handshake.stage = .authenticated identity) (occasions : List Occasion) :
    Tells (session.attendAll occasions) session.written
      (service session.connection identity.isAnonymous occasions) := by
  induction occasions generalizing session with
  | nil => exact tells_pause session (isWaiting_of_phase (.inr due))
  | cons occasion rest ih =>
    obtain ⟨event, finds⟩ := occasion
    -- Two ways to go on: without a word, and with one line written.
    have hidle : ∀ event, (step (finds 0).scene event session (finds 0).shared).1 = session →
        Tells (session.attendAll (⟨event, finds⟩ :: rest)) session.written
          (service session.connection identity.isAnonymous rest) := by
      intro event hstep
      rw [attendAll_cons_of_idle session (isWaiting_of_phase (.inr due)) hstep]
      exact ih session due hstage
    have htold : ∀ line, Tells ((session.withLine line .serving).attendAll rest)
        (session.written ++ [line]) (service session.connection identity.isAnonymous rest) := by
      intro line
      exact ih (session.withLine line .serving) rfl hstage
    cases event with
    | line read =>
      have hstep : (step (finds 0).scene (.line read) session (finds 0).shared).1 =
          (session.serveLine (finds 0).scene (finds 0).shared read).1 := by
        simp only [step, due]
      have hserve := hstep.trans (fst_serveLine session (finds 0) hstage read)
      rw [service]
      cases hutterance : utterance read with
      | ping =>
        rw [hutterance] at hserve
        rw [attendAll_cons, hserve]
        dsimp only
        split
        · exact tells_part ..
        · exact tells_say _ _ _ (.inr rfl) (htold pong)
      | pong | blank =>
        rw [hutterance] at hserve
        exact hidle _ hserve
      -- Who was admitted without credentials is confirmed again. Anybody else is sent away.
      | connect request =>
        rw [hutterance] at hserve
        rw [attendAll_cons, hserve]
        dsimp only
        split
        · exact tells_say _ _ _ (.inr rfl) (htold confirmation)
        · exact tells_part ..
      | unknownOperation | malformedConnect | tooLong | notText =>
        rw [hutterance] at hserve
        rw [attendAll_cons, hserve]
        exact tells_part ..
    | closed | dismissed =>
      rw [attendAll_cons]
      simp only [step, due]
      exact tells_silence { session with phase := .leaving } rfl
    | expired | proceed => exact hidle _ (by simp only [step, due])

/-- What a client is told that has its verdict: it is stored, entered in the index and told
so, in one step each, and each of the first two may be the last. -/
theorem tells_admission {identity : Identity} (due : session.phase = .persisting identity)
    (hstage : session.handshake.stage = .authenticated identity) (finds : Nat → Circumstance) :
    Tells ((proceedAmid maxSteps finds session).attendAll rest) session.written
      (match (finds 0).stored session.connection with
        | .error _ => .part (finds 0) "-ERR 'Service Unavailable'"
        | .ok () =>
          if (finds 1).isTaken session.connection then .silence
          else .say (finds 2) "+OK" (service session.connection identity.isAnonymous rest)) := by
  have hpersist : (step (finds 0).scene .proceed session (finds 0).shared).1 =
      (session.persist (finds 0).scene (finds 0).shared identity).1 := by simp only [step, due]
  rw [maxSteps, proceedAmid_succ, hpersist, fst_persist session (finds 0)]
  cases (finds 0).stored session.connection with
  | error fault => exact tells_part ..
  | ok =>
    -- The record is stored, and the index is asked in the next step.
    have hregister :=
      fst_register { session with phase := .registering identity } (finds 1) identity
    dsimp only at hregister ⊢
    rw [proceedAmid_succ]
    simp only [step]
    rw [hregister]
    split
    next => exact tells_silence { session with phase := .leaving } rfl
    next =>
      let entered : Session := { session with
        phase := .confirming
        entry := some ⟨session.connection, identity, (finds 1).scene.instant⟩ }
      rw [proceedAmid_succ]
      exact tells_say entered _ _ (.inr rfl)
        (tells_service (entered.withLine confirmation .serving) rfl hstage rest)

/-- What a client is told before it is admitted. The induction is on what happens; the handshake
stays until it is answered. -/
theorem tells_greeting (due : session.phase = .handshaking)
    (started : session.handshake.stage ≠ .awaiting) (occasions : List Occasion) :
    Tells (session.attendAll occasions) session.written
      (greeting session.handshake session.connection occasions) := by
  induction occasions generalizing session with
  | nil => exact tells_pause session (isWaiting_of_phase (.inl due))
  | cons occasion rest ih =>
    obtain ⟨event, finds⟩ := occasion
    have hidle : ∀ event, (step (finds 0).scene event session (finds 0).shared).1 = session →
        Tells (session.attendAll (⟨event, finds⟩ :: rest)) session.written
          (greeting session.handshake session.connection rest) := by
      intro event hstep
      rw [attendAll_cons_of_idle session (isWaiting_of_phase (.inl due)) hstep]
      exact ih session due started
    cases event with
    | line read =>
      have hstep : (step (finds 0).scene (.line read) session (finds 0).shared).1 =
          (session.greetLine (finds 0).scene (finds 0).shared read).1 := by
        simp only [step, due]
      have hgreet := hstep.trans (fst_greetLine session (finds 0) read)
      rw [greeting]
      cases hutterance : utterance read with
      | ping =>
        rw [hutterance] at hgreet
        rw [attendAll_cons, hgreet]
        exact tells_say _ _ _ (.inl rfl) (ih (session.withLine pong .handshaking) rfl started)
      | pong | blank =>
        rw [hutterance] at hgreet
        exact hidle _ hgreet
      | connect request =>
        rw [hutterance] at hgreet
        rw [attendAll_cons, hgreet]
        dsimp only
        rw [admission]
        -- With a good verdict the handshake has the identity that the service goes by.
        have hanswer : (finds 0).shared.gate.answer session.handshake request
          (finds 0).scene.moment = ((finds 0).verdict session.handshake request, _, _) := rfl
        cases hverdict : (finds 0).verdict session.handshake request with
        | error refusal => exact tells_part { session with handshake := _ } ..
        | ok identity =>
          rw [hverdict] at hanswer
          exact tells_admission { session with handshake := _, phase := .persisting identity } rfl
            (Gate.stage_of_answer_ok started hanswer) _
      | unknownOperation | malformedConnect | tooLong | notText =>
        rw [hutterance] at hgreet
        rw [attendAll_cons, hgreet]
        exact tells_part ..
    | closed =>
      rw [attendAll_cons]
      simp only [step, due]
      exact tells_silence { session with phase := .leaving } rfl
    | expired =>
      rw [attendAll_cons]
      simp only [step, due]
      exact tells_part ..
    | dismissed | proceed => exact hidle _ (by simp only [step, due])

end

/-! ### Error lines -/

namespace Transcript

variable {circumstance : Circumstance} {line : String} {rest : Transcript}

/-- An error line is the last line, and the session is over with it. -/
def Closes (transcript : Transcript) : Prop :=
  ∀ (farewell : Farewell) (front back : List String),
    transcript.lines = front ++ farewell.line :: back → back = [] ∧ transcript.isOver = true

/-- Without any line there is no error line. -/
theorem closes_of_lines_eq_nil {transcript : Transcript} (h : transcript.lines = []) :
    transcript.Closes := by
  intro farewell front back hlines
  simp [h] at hlines

/-- A line that is no farewell does not end a transcript, so what comes after it decides. -/
theorem closes_say (hline : ∀ farewell : Farewell, line ≠ farewell.line) (hrest : rest.Closes) :
    (say circumstance line rest).Closes := by
  rw [say]
  split
  · intro farewell front back hlines
    -- The line itself is no error line, so the error line is among those after it.
    cases front with
    | nil => exact absurd (List.cons.inj hlines).1 (hline farewell)
    | cons first front => exact hrest farewell front back (List.cons.inj hlines).2
  · exact closes_of_lines_eq_nil rfl

/-- After a farewell nothing comes. -/
theorem closes_part : (part circumstance line).Closes := by
  rw [part, say]
  split
  · intro farewell front back hlines
    cases front with
    | nil => exact ⟨(List.cons.inj hlines).2.symm, rfl⟩
    | cons first front => cases front <;> cases (List.cons.inj hlines).2
  · exact closes_of_lines_eq_nil rfl

end Transcript

/-- The answer to a ping is no farewell. -/
theorem pong_ne_farewell (farewell : Farewell) : "PONG" ≠ farewell.line := by
  cases farewell <;> decide

/-- The welcome is no farewell. -/
theorem confirmation_ne_farewell (farewell : Farewell) : "+OK" ≠ farewell.line := by
  cases farewell <;> decide

/-- The greeting is no farewell: it begins with another character. -/
theorem infoLine_ne_farewell (hello : Hello) (farewell : Farewell) :
    infoLine hello ≠ farewell.line := by
  intro h
  have hchars := congrArg String.toList h
  cases farewell <;> simp [infoLine, Farewell.line, errorLine] at hchars

/-- What an admitted client is written ends with its farewell. The induction is on the occasions. -/
theorem closes_service (connection : String) (anonymous : Bool) (occasions : List Occasion) :
    (service connection anonymous occasions).Closes := by
  induction occasions with
  | nil => exact Transcript.closes_of_lines_eq_nil rfl
  | cons occasion rest ih =>
    obtain ⟨event, finds⟩ := occasion
    cases event with
    | line read =>
      rw [service]
      cases utterance read with
      | ping =>
        dsimp only
        split
        · exact Transcript.closes_part
        · exact Transcript.closes_say pong_ne_farewell ih
      -- What is not answered leaves the rest as it is.
      | pong | blank => exact ih
      | connect request =>
        dsimp only
        split
        · exact Transcript.closes_say confirmation_ne_farewell ih
        · exact Transcript.closes_part
      | unknownOperation | malformedConnect | tooLong | notText => exact Transcript.closes_part
    | closed | dismissed => exact Transcript.closes_of_lines_eq_nil rfl
    | expired | proceed => exact ih

/-- So does what a client is written that asks to connect: it is refused, or its service goes on. -/
theorem closes_admission (handshake : Handshake) (connection : String) (request : Request)
    (finds : Nat → Circumstance) (rest : List Occasion) :
    (admission handshake connection request finds rest).Closes := by
  unfold admission
  split
  · exact Transcript.closes_part
  · split
    · exact Transcript.closes_part
    · split
      · exact Transcript.closes_of_lines_eq_nil rfl
      · exact Transcript.closes_say confirmation_ne_farewell (closes_service _ _ _)

/-- So does what a client is written from its greeting on. -/
theorem closes_greeting (handshake : Handshake) (connection : String)
    (occasions : List Occasion) : (greeting handshake connection occasions).Closes := by
  induction occasions with
  | nil => exact Transcript.closes_of_lines_eq_nil rfl
  | cons occasion rest ih =>
    obtain ⟨event, finds⟩ := occasion
    cases event with
    | line read =>
      rw [greeting]
      cases utterance read with
      | ping => exact Transcript.closes_say pong_ne_farewell ih
      | pong | blank => exact ih
      | connect request => exact closes_admission _ _ _ _ _
      | unknownOperation | malformedConnect | tooLong | notText => exact Transcript.closes_part
    | closed => exact Transcript.closes_of_lines_eq_nil rfl
    | expired => exact Transcript.closes_part
    | dismissed | proceed => exact ih

/-- What a client is told from the opening of its session on. -/
theorem tells_opened {connection : String} {opening : Nat → Circumstance}
    {draws rest : List Nonce.Draw} {session : Session} {shared : Shared}
    (h : Session.open? connection (opening 0).scene (opening 0).shared draws =
      some (session, shared, rest)) (occasions : List Occasion) :
    Tells ((session.settleAmid fun n => opening (n + 1)).attendAll occasions) []
      (.say (opening 0) (infoLine session.handshake.hello)
        (greeting session.handshake connection occasions)) := by
  obtain ⟨handshake, gate, hgate, hsession, -⟩ := Lobby.open?_session_cases h
  have started : handshake.stage ≠ .awaiting := by
    rcases Gate.open?_cases hgate with ⟨nonce, -, -, rfl, -⟩ | ⟨-, rfl, -⟩ <;> simp
  have hhandshake : session.handshake = handshake := by rw [hsession, handshake_write]
  rw [hhandshake, hsession]
  exact tells_say _ _ _ (.inl rfl) (tells_greeting
    ⟨connection, handshake, .handshaking, none, [infoLine handshake.hello]⟩ rfl started occasions)

/-- **What a session writes**, whatever its client sends, whatever comes of its calls and
whatever other sessions do between its steps: the greeting line, and then what `greeting` says.

* It writes these lines, in this order, and no others.
* It is over exactly where the transcript is, and waits for more otherwise.
* An error line is the last line that it writes, and it ends with it. -/
theorem transcript_run {connection : String} {opening : Nat → Circumstance}
    {draws rest : List Nonce.Draw} {session : Session} {shared : Shared}
    (h : Session.open? connection (opening 0).scene (opening 0).shared draws =
      some (session, shared, rest)) (occasions : List Occasion) :
    let transcript := Transcript.say (opening 0) (infoLine session.handshake.hello)
      (greeting session.handshake connection occasions)
    let after := (session.settleAmid fun n => opening (n + 1)).attendAll occasions
    after.written = transcript.lines ∧
    (after.phase = .ended ↔ transcript.isOver = true) ∧
    (after.isWaiting = true ↔ transcript.isOver = false) ∧
    ∀ (farewell : Farewell) (front back : List String),
      after.written = front ++ farewell.line :: back → back = [] ∧ after.phase = .ended := by
  intro transcript after
  -- Over and waiting exclude each other, so one direction of each gives both equivalences.
  have htells : Tells after [] transcript := tells_opened h occasions
  have hcloses : transcript.Closes :=
    Transcript.closes_say (infoLine_ne_farewell _) (closes_greeting _ _ _)
  refine ⟨htells.written, ⟨fun hphase => ?_, htells.ended⟩, ⟨fun hwaits => ?_, htells.waits⟩, ?_⟩
  · cases hover : transcript.isOver with
    | true => rfl
    | false => exact absurd hphase (phase_ne_ended_of_isWaiting (htells.waits hover))
  · cases hover : transcript.isOver with
    | true => exact absurd (htells.ended hover) (phase_ne_ended_of_isWaiting hwaits)
    | false => rfl
  · intro farewell front back hwritten
    obtain ⟨hback, hover⟩ := hcloses farewell front back (htells.written.symm.trans hwritten)
    exact ⟨hback, htells.ended hover⟩

/-- A client of a server that lets everybody in. Its line that is too long ends the session, and
what it sends after that is not answered. -/
theorem transcript_run_of_anonymous :
    let policy : Policy := ⟨false, [], ⟨[], []⟩, .ofSeconds 30, "O1"⟩
    let quota : Quota := ⟨1, .ofSeconds 1, 0, 0, 0, by decide, by decide, by decide⟩
    let shared : Shared := ⟨.ofPolicy policy, Ledger.empty.upsertConnection ⟨"c1", .epoch, true⟩,
      .empty, ⟨"auth", quota⟩, ⟨"store", quota⟩, ⟨"accept", quota⟩, .empty⟩
    let finds : Nat → Circumstance := fun _ => ⟨⟨0, .epoch, .calm, true⟩, shared⟩
    let occasions : List Occasion :=
      [.ok "PING", .ok "connect", .ok " ", .ok "PING", .ok "CONNECT \x7b\x7d", .error (.tooLong 9),
        .ok "PING"].map fun read => ⟨.line read, finds⟩
    ∃ session, Session.open? "c1" (finds 0).scene (finds 0).shared [] = some (session, shared, []) ∧
      let after := (session.settleAmid fun n => finds (n + 1)).attendAll occasions
      after.written = ["INFO \x7b\"server_id\":\"O1\",\"auth_required\":false\x7d", "PONG", "+OK",
        "PONG", "+OK", "-ERR 'Unknown Protocol Operation'"] ∧ after.phase = .ended := by
  intro policy quota shared finds occasions
  have hopen : Session.open? "c1" (finds 0).scene (finds 0).shared [] = some (_, shared, []) := rfl
  refine ⟨_, hopen, ?_⟩
  obtain ⟨hwritten, hended, -⟩ := transcript_run hopen occasions
  refine ⟨hwritten.trans ?_, hended.mpr ?_⟩
  · decide +kernel
  · decide +kernel

/-! ### Sessions in a lobby -/

/-- The number of steps that a session may still take without its client. -/
def Phase.due : Phase → Nat
  | persisting _ => 4
  | registering _ => 3
  | confirming => 2
  | leaving => 1
  | handshaking | serving | ended => 0

/-- No phase takes more steps than are taken at once. -/
theorem due_le_maxSteps (phase : Phase) : phase.due ≤ maxSteps := by
  cases phase <;> simp [Phase.due, maxSteps]

/-- Each step without the client leaves fewer to take. -/
theorem due_proceed (session : Session) (circumstance : Circumstance) :
    (step circumstance.scene .proceed session circumstance.shared).1.phase.due ≤
      session.phase.due - 1 := by
  cases due : session.phase with
  | handshaking | serving | ended => simp [step, due, Phase.due]
  -- Storage that fails skips the steps in between.
  | persisting identity =>
    simp only [step, due]
    rw [fst_persist session circumstance]
    split
    · simp [Phase.due]
    · rw [bidFarewell, phase_write, ite_self]
      simp [Phase.due]
  | registering identity =>
    simp only [step, due]
    rw [fst_register session circumstance]
    split <;> simp [Phase.due]
  | confirming =>
    simp only [step, due]
    rw [phase_write]
    split <;> simp [Phase.due]
  | leaving => simp [step, due, release, Phase.due]

/-- More steps than are due change nothing. -/
theorem proceedAmid_of_due_le {session : Session} {finds : Nat → Circumstance} {count : Nat}
    (h : session.phase.due ≤ count) :
    proceedAmid (count + 1) finds session = proceedAmid count finds session := by
  induction count generalizing session finds with
  -- With none due, the session waits or is over.
  | zero =>
    refine proceedAmid_of_isWaiting ?_
    cases due : session.phase with
    | handshaking => exact .inl (isWaiting_of_phase (.inl due))
    | serving => exact .inl (isWaiting_of_phase (.inr due))
    | ended => exact .inr rfl
    | persisting | registering | confirming | leaving => simp [due, Phase.due] at h
  | succ count ih =>
    have hstep := due_proceed session (finds 0)
    rw [proceedAmid_succ, ih (by omega), ← proceedAmid_succ]

/-- A session that does not wait for anything takes the steps that are due, and nothing else
happens to it. -/
theorem step_of_busy {session : Session} (hbusy : session.isWaiting = false) {event : Event}
    (hevent : event ≠ .proceed) (scene : Scene) (shared : Shared) :
    (step scene event session shared).1 = session := by
  simp only [isWaiting, Bool.or_eq_false_iff, decide_eq_false_iff_not] at hbusy
  unfold step
  split <;> simp_all

/-- These findings, from the second step on. -/
def findsThen (scene : Scene) (shared : Shared) (finds : Nat → Circumstance) : Nat → Circumstance
  | 0 => ⟨scene, shared⟩
  | n + 1 => finds n

/-- However the steps go that are due, the session is one that was opened and then attended to
some occasions. -/
def Attended (session : Session) : Prop :=
  ∀ finds : Nat → Circumstance, ∃ (connection : String) (opening : Nat → Circumstance)
    (draws rest : List Nonce.Draw) (opened : Session) (shared : Shared)
    (occasions : List Occasion),
    Session.open? connection (opening 0).scene (opening 0).shared draws =
      some (opened, shared, rest) ∧
    session.settleAmid finds =
      (opened.settleAmid fun n => opening (n + 1)).attendAll occasions

section
variable {session : Session} (scene : Scene) (shared : Shared)

/-- A session that was just opened is one that was opened and then attended to no occasion. -/
theorem attended_opened {connection : String} {draws rest : List Nonce.Draw} {shared' : Shared}
    (h : Session.open? connection scene shared draws = some (session, shared', rest)) :
    session.Attended := by
  intro finds
  exact ⟨connection, findsThen scene shared finds, draws, rest, session, shared', [], h, rfl⟩

/-- Every step keeps to occasions: it is the first of one more, or one that is due in the
last. -/
theorem attended_step (h : session.Attended) (event : Event) :
    (step scene event session shared).1.Attended := by
  intro finds
  obtain ⟨connection, opening, draws, rest, opened, shared', occasions, hopen, heq⟩ :=
    h (findsThen scene shared finds)
  cases hwaiting : session.isWaiting with
  | true =>
    -- The session was done with all that happened before, so one occasion more begins.
    refine ⟨connection, opening, draws, rest, opened, shared',
      occasions ++ [⟨event, findsThen scene shared finds⟩], hopen, ?_⟩
    have hsettled : session.settleAmid (findsThen scene shared finds) = session :=
      proceedAmid_of_isWaiting (.inl hwaiting)
    have hall : session = (opened.settleAmid fun n => opening (n + 1)).attendAll occasions :=
      hsettled.symm.trans heq
    rw [attendAll, List.foldl_append]
    show _ = attend (attendAll _ occasions) _
    rw [← hall]
    rfl
  | false =>
    by_cases hevent : event = .proceed
    · -- The step is one of those that the last occasion leaves open, and its circumstance comes
      -- before those that are still to come.
      subst hevent
      refine ⟨connection, opening, draws, rest, opened, shared', occasions, hopen, ?_⟩
      rw [← heq]
      show proceedAmid (maxSteps + 1) (findsThen scene shared finds) session =
        proceedAmid maxSteps (findsThen scene shared finds) session
      exact proceedAmid_of_due_le (due_le_maxSteps session.phase)
    · rw [step_of_busy hwaiting hevent]
      exact h finds

end

namespace Lobby

variable {lobby : Lobby}

/-- Every session of a lobby, in any run, is one that attends to occasions. -/
theorem attended_run (h : ∀ name seat, lobby.seats.find? name = some seat → seat.session.Attended)
    (events : List Event) {name : String} {seat : Seat}
    (hseat : (lobby.run events).seats.find? name = some seat) : seat.session.Attended := by
  induction events generalizing lobby with
  | nil => exact h name seat hseat
  | cons event rest ih =>
    refine ih (fun other seat' hfind => ?_) hseat
    cases event with
    | swept change => exact h other seat' hfind
    -- A session that was just opened attends to nothing yet, so it is one of them.
    | opened opened connection scene draws =>
      rw [step] at hfind
      split at hfind
      · exact h other seat' hfind
      · split at hfind
        · exact h other seat' hfind
        next session shared rest hopen =>
          rw [Roster.find?_set] at hfind
          split at hfind
          · cases hfind
            exact attended_opened scene lobby.shared hopen
          · exact h other seat' hfind
    | turned turned scene turn =>
      cases hturned : lobby.seats.find? turned with
      | none =>
        rw [step, hturned] at hfind
        exact h other seat' hfind
      | some seat'' =>
        rw [step_turned hturned, Roster.find?_set] at hfind
        split at hfind
        · cases hfind
          -- A turn plays the script of one event or of none.
          obtain ⟨unread, finished, event?, hturn⟩ := seat''.turn_eq lobby.maxLine scene turn
          rw [hturn]
          cases event? with
          | none => exact h turned seat'' hturned
          | some event =>
            have hstep := congrArg Prod.fst (run_script seat''.session scene lobby.shared event)
            show ((seat''.session.script scene event).run scene lobby.shared).2.1.Attended
            rw [hstep]
            exact attended_step scene lobby.shared (h turned seat'' hturned) event
        · exact h other seat' hfind

/-- What any session of a lobby has written when it waits or has ended, however its steps and
those of all others went: what was written at its opening, and then what `greeting` says of some
occasions. -/
theorem written_run (maxLine : UInt64) (policy : Policy) (ledger : Ledger)
    (authThrottle storeThrottle acceptThrottle : Throttle) (metrics : Metrics) (events : List Event)
    {name : String} {seat : Seat}
    (hseat : ((start maxLine policy ledger authThrottle storeThrottle acceptThrottle metrics).run
      events).seats.find? name = some seat)
    (hsettled : seat.session.isWaiting = true ∨ seat.session.phase = .ended) :
    ∃ (connection : String) (opening : Nat → Circumstance) (draws rest : List Nonce.Draw)
      (opened : Session) (shared : Shared) (occasions : List Occasion),
      Session.open? connection (opening 0).scene (opening 0).shared draws =
        some (opened, shared, rest) ∧
      seat.session.written = (Transcript.say (opening 0) (infoLine opened.handshake.hello)
        (greeting opened.handshake connection occasions)).lines := by
  have hnobody : ∀ other seat', (start maxLine policy ledger authThrottle storeThrottle
      acceptThrottle metrics).seats.find? other = some seat' → seat'.session.Attended := by
    intro other seat' hfind
    cases hfind
  -- The steps that are due are none, so it does not matter what they would find.
  obtain ⟨connection, opening, draws, rest, opened, shared, occasions, hopen, hattended⟩ :=
    attended_run hnobody events hseat fun _ => ⟨⟨0, .epoch, .calm, true⟩, ⟨.ofPolicy policy,
      ledger, .empty, authThrottle, storeThrottle, acceptThrottle, metrics⟩⟩
  have hsession : seat.session = (opened.settleAmid fun n => opening (n + 1)).attendAll occasions :=
    (proceedAmid_of_isWaiting hsettled).symm.trans hattended
  refine ⟨connection, opening, draws, rest, opened, shared, occasions, hopen, ?_⟩
  rw [hsession]
  exact (tells_opened hopen occasions).written

end Lobby

end Gatekeeper.Session
