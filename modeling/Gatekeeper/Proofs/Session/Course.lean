import Gatekeeper.Proofs.Session.Move

/-!
# `Gatekeeper.Proofs.Session.Course`: the course that every session takes

However its client behaves and whatever other sessions do meanwhile, a session makes its
calls in one order: it talks to a client it does not know, gets the gate's verdict, stores
the record, enters the index, confirms, serves, and takes its entry back. `Course` ties a
session to the log of all its calls.

* `sound_move`: every step keeps to the course, and to the identity that the gate gave.
* `entry_move`: a step leaves the session's own entry alone, adds it or takes it out, and the
  index changes by just that.
* `Course.isOutside`, `Course.filterMap_accepted?`: what the log tells about a client that
  was never admitted, and about one that was.
-/

set_option autoImplicit false

namespace Gatekeeper.Session

open Gatekeeper.Handshake Gatekeeper.Ledger Gatekeeper.Wire

namespace Act

/-- Whether the call is part of the talk with a client that is not admitted. -/
def isChatter : Act → Bool
  | sent line _ => line ≠ confirmation
  | _ => false

/-- Whether the call is one that a client gets done without being admitted. -/
def isOutside : Act → Bool
  | sent line _ => line ≠ confirmation
  | answered verdict => verdict.isNone
  | _ => false

end Act

/-! ### The log of all calls -/

/-- The calls by which a client was admitted: some talk, the verdict, the record and the
index. -/
structure Admission (connection : String) (handle : Handle) (acts : List Act) : Prop where
  own : handle.connection = connection
  calls : ∃ chatter at_, (∀ act ∈ chatter, Act.isChatter act = true) ∧
    acts = chatter ++ [.answered (some handle.identity), .stored ⟨connection, at_, true⟩ (.ok ()),
      .entered handle true]

/-- The log of all calls of a session, by the phase that it is in and the entry that it has
in the index. -/
inductive Course (connection : String) : Phase → Option Handle → List Act → Prop where
  | handshaking {acts : List Act} (chatter : ∀ act ∈ acts, act.isChatter = true) :
    Course connection .handshaking none acts
  | persisting {identity : Identity} {talk : List Act}
      (chatter : ∀ act ∈ talk, act.isChatter = true) :
    Course connection (.persisting identity) none (talk ++ [.answered (some identity)])
  | registering {identity : Identity} {talk : List Act} {at_ : Timestamp}
      (chatter : ∀ act ∈ talk, act.isChatter = true) :
    Course connection (.registering identity) none
      (talk ++ [.answered (some identity), .stored ⟨connection, at_, true⟩ (.ok ())])
  | confirming {handle : Handle} {acts : List Act} (admission : Admission connection handle acts) :
    Course connection .confirming (some handle) acts
  | serving {handle : Handle} {front back : List Act}
      (admission : Admission connection handle front)
      (service : ∀ act ∈ back, act.isService connection = true) :
    Course connection .serving (some handle) (front ++ .sent confirmation true :: back)
  /-- The client was not admitted. -/
  | outside {acts : List Act} (outside : ∀ act ∈ acts, act.isOutside = true) :
    Course connection .leaving none acts
  /-- The record of an admitted client could not be stored. -/
  | unavailable {identity : Identity} {talk : List Act} {at_ : Timestamp} {fault : Fault}
      {delivered : Bool} (chatter : ∀ act ∈ talk, act.isChatter = true) :
    Course connection .leaving none
      (talk ++ [.answered (some identity), .stored ⟨connection, at_, true⟩ (.error fault),
        .sent (Farewell.line .unavailable) delivered])
  /-- The id of an admitted client was taken. -/
  | taken {handle : Handle} {identity : Identity} {talk : List Act} {at_ : Timestamp}
      (chatter : ∀ act ∈ talk, act.isChatter = true) :
    Course connection .leaving none
      (talk ++ [.answered (some identity), .stored ⟨connection, at_, true⟩ (.ok ()),
        .entered handle false])
  /-- An admitted client was told so, or could not be told, and was served for a while. -/
  | parting {handle : Handle} {front back : List Act} {delivered : Bool}
      (admission : Admission connection handle front)
      (service : ∀ act ∈ back, act.isService connection = true) :
    Course connection .leaving (some handle) (front ++ .sent confirmation delivered :: back)
  /-- The session ended without an entry. -/
  | gone {acts : List Act} (before : Course connection .leaving none acts) :
    Course connection .ended none acts
  /-- The session ended and took its entry out. -/
  | left {handle : Handle} {acts : List Act}
      (before : Course connection .leaving (some handle) acts) :
    Course connection .ended none (acts ++ [.left connection])

/-- Whom a session was admitted as, until it gives its entry back. -/
def admittedAs? (session : Session) : Option Identity :=
  match session.phase with
  | .persisting identity | .registering identity => some identity
  | _ => session.entry.map (·.identity)

/-- A session as it stands with the log of its calls. -/
structure Sound (session : Session) (acts : List Act) : Prop where
  course : Course session.connection session.phase session.entry acts
  /-- The handshake has its nonce, or its identity, from the opening on. -/
  started : session.handshake.stage ≠ .awaiting
  /-- An admitted client has the identity that the gate gave it. -/
  bound : ∀ identity, session.admittedAs? = some identity →
    session.handshake.stage = .authenticated identity

/-- Talking gets done without being admitted. -/
theorem isOutside_of_isChatter {acts : List Act} (h : ∀ act ∈ acts, act.isChatter = true) :
    ∀ act ∈ acts, act.isOutside = true := by
  intro act hmem
  have hchatter := h act hmem
  cases act with
  | sent => exact hchatter
  | _ => cases hchatter

variable {scene : Scene} {session session' : Session} {shared : Shared} {log acts : List Act}
  {gate : Gate}

/-- The log after one step more. -/
theorem course_move (hcourse : Course session.connection session.phase session.entry log)
    (h : Move scene session shared acts session' gate) :
    Course session'.connection session'.phase session'.entry (log ++ acts) := by
  obtain ⟨connection, handshake, phase, entry, written⟩ := session
  cases h with
  | idle => rwa [List.append_nil]
  | hungUp waiting =>
    rw [List.append_nil]
    simp only [isWaiting, Bool.or_eq_true, decide_eq_true_iff] at waiting
    rcases waiting with due | due <;> cases due
    · cases hcourse with
      | handshaking chatter => exact .outside (isOutside_of_isChatter chatter)
    · cases hcourse with
      | serving admission service => exact .parting admission service
  | @chatted line next due other stays =>
    cases due
    cases hcourse with
    | handshaking chatter =>
      have hchatter : ∀ act ∈ log ++ [.sent line scene.writable], act.isChatter = true :=
        List.forall_mem_append.mpr ⟨chatter, by simp [Act.isChatter, other]⟩
      rw [connection_write, phase_write, entry_write]
      split
      · rcases stays with rfl | rfl
        · exact .handshaking hchatter
        · exact .outside (isOutside_of_isChatter hchatter)
      · exact .outside (isOutside_of_isChatter hchatter)
  | admitted due verdict =>
    -- The talk is over, and the verdict is the first call of the admission.
    cases due
    cases hcourse with
    | handshaking chatter => exact .persisting chatter
  | refused due verdict =>
    rw [connection_write, phase_write, entry_write, ite_self]
    simp only [isWaiting, Bool.or_eq_true, decide_eq_true_iff] at due
    -- Refused at its first request, the client stays outside. At a further one it was served.
    rcases due with due | due <;> cases due
    · cases hcourse with
      | handshaking chatter =>
        have hrefusal : Farewell.refused.line ≠ confirmation := by decide
        exact .outside (List.forall_mem_append.mpr
          ⟨isOutside_of_isChatter chatter, by simp [Act.isOutside, hrefusal]⟩)
    · cases hcourse with
      | serving admission service =>
        rw [List.append_assoc, List.cons_append]
        exact .parting admission
          (List.forall_mem_append.mpr ⟨service, by simp [Act.isService]⟩)
  | stored due =>
    cases due
    cases hcourse with
    | persisting chatter =>
      rw [List.append_assoc]
      exact .registering chatter
  | unstored due =>
    cases due
    cases hcourse with
    | persisting chatter =>
      rw [connection_write, phase_write, entry_write, ite_self, List.append_assoc]
      exact .unavailable chatter
  | entered due free =>
    cases due
    cases hcourse with
    | registering chatter =>
      rw [List.append_assoc]
      exact .confirming ⟨rfl, _, _, chatter, rfl⟩
  | taken due occupied =>
    cases due
    cases hcourse with
    | registering chatter =>
      rw [List.append_assoc]
      exact .taken chatter
  | confirmed due =>
    cases due
    cases hcourse with
    | confirming admission =>
      rw [connection_write, phase_write, entry_write]
      -- Who cannot be told leaves, and its entry is still to be taken out.
      cases scene.writable with
      | true => exact .serving admission (List.forall_mem_nil _)
      | false => exact .parting admission (List.forall_mem_nil _)
  | @served more line next due hmore stays =>
    cases due
    cases hcourse with
    | serving admission service =>
      have hservice := List.forall_mem_append.mpr ⟨service, List.forall_mem_append.mpr
        ⟨hmore, List.forall_mem_singleton.mpr
          (rfl : Act.isService connection (.sent line scene.writable) = true)⟩⟩
      rw [connection_write, phase_write, entry_write, List.append_assoc, List.cons_append]
      split
      · rcases stays with rfl | rfl
        · exact .serving admission hservice
        · exact .parting admission hservice
      · exact .parting admission hservice
  | @repeated request identity handshake' gate' due verdict =>
    cases due
    cases hcourse with
    | serving admission service =>
      have hanswers : ∀ act ∈ [.answered (some identity), .sent confirmation scene.writable],
          Act.isService connection act = true := by simp [Act.isService]
      have hservice := List.forall_mem_append.mpr ⟨service, hanswers⟩
      rw [connection_write, phase_write, entry_write, List.append_assoc, List.cons_append]
      split
      · exact .serving admission hservice
      · exact .parting admission hservice
  | released due =>
    cases due
    cases entry with
    | none =>
      rw [List.append_nil]
      exact .gone hcourse
    | some handle => exact .left hcourse

/-- A written line leads to no phase that is about an identity. -/
theorem admittedAs?_write (session : Session) (scene : Scene) (line : String) {next : Phase}
    (h : next = .handshaking ∨ next = .serving ∨ next = .leaving) :
    (session.write scene line next).admittedAs? = session.entry.map (·.identity) := by
  rw [write]
  split
  · rcases h with rfl | rfl | rfl <;> rfl
  · rfl

/-- A client is admitted by a verdict of the gate, and by nothing else. -/
theorem admittedAs?_move (hcourse : Course session.connection session.phase session.entry log)
    (h : Move scene session shared acts session' gate) {identity : Identity}
    (hidentity : session'.admittedAs? = some identity) :
    session.admittedAs? = some identity ∨ ∃ request,
      shared.gate.answer session.handshake request scene.moment =
        (.ok identity, session'.handshake, gate) := by
  obtain ⟨connection, handshake, phase, entry, written⟩ := session
  have hwaiting : ∀ {phase : Phase}, phase = .handshaking ∨ phase = .serving →
      entry.map (·.identity) = some identity →
        admittedAs? ⟨connection, handshake, phase, entry, written⟩ = some identity := by
    rintro phase (rfl | rfl) hentry <;> exact hentry
  cases h with
  | idle => exact .inl hidentity
  | hungUp waiting =>
    exact .inl (hwaiting (by simpa [isWaiting] using waiting) hidentity)
  | chatted due other stays =>
    rw [admittedAs?_write _ _ _ (by rcases stays with rfl | rfl <;> simp)] at hidentity
    exact .inl (hwaiting (.inl due) hidentity)
  | admitted due verdict =>
    cases hidentity
    exact .inr ⟨_, verdict⟩
  | refused due verdict =>
    rw [admittedAs?_write _ _ _ (by simp)] at hidentity
    exact .inl (hwaiting (by simpa [isWaiting] using due) hidentity)
  | stored due | entered due =>
    cases due
    exact .inl hidentity
  | unstored due =>
    -- The client has no entry yet, so it leaves as nobody.
    cases due
    cases hcourse
    rw [admittedAs?_write _ _ _ (by simp)] at hidentity
    cases hidentity
  | taken due =>
    cases due
    cases hcourse
    cases hidentity
  | confirmed due =>
    cases due
    rw [admittedAs?_write _ _ _ (by simp)] at hidentity
    exact .inl hidentity
  | served due hmore stays =>
    rw [admittedAs?_write _ _ _ (by rcases stays with rfl | rfl <;> simp)] at hidentity
    exact .inl (hwaiting (.inr due) hidentity)
  | repeated due verdict =>
    rw [admittedAs?_write _ _ _ (by simp)] at hidentity
    exact .inl (hwaiting (.inr due) hidentity)
  | released due => cases hidentity

/-- A step keeps a session sound. The identity is the one that the gate gave, and no later
verdict changes it. -/
theorem sound_move (hsound : Sound session log)
    (h : Move scene session shared acts session' gate) : Sound session' (log ++ acts) := by
  refine ⟨course_move hsound.course h, ?_, fun identity hidentity => ?_⟩
  · rcases handshake_move h with hsame | ⟨request, verdict, hanswer⟩
    · exact hsame ▸ hsound.started
    · exact stage_ne_awaiting_of_answer hsound.started hanswer
  · -- Who was admitted before keeps its identity; who is admitted now gets the verdict's.
    rcases admittedAs?_move hsound.course h hidentity with hbefore | ⟨request, hanswer⟩
    · have hstage := hsound.bound identity hbefore
      rcases handshake_move h with hsame | ⟨request, verdict, hanswer⟩
      · exact hsame ▸ hstage
      · exact stage_of_answer hanswer hstage
    · exact Gate.stage_of_answer_ok hsound.started hanswer

/-! ### The entry of a session -/

/-- Serving a client does nothing with the index. -/
theorem isIndexing_of_isService {connection : String}
    (h : ∀ act ∈ acts, act.isService connection = true) :
    ∀ act ∈ acts, act.isIndexing = false := by
  intro act hmem
  have hservice := h act hmem
  cases act with
  | entered | left => cases hservice
  | sent | answered | stored | heard => rfl

/-- A step leaves the session's entry and the index alone, or adds exactly this entry to the
index, or takes exactly this entry out. -/
theorem entry_move (hcourse : Course session.connection session.phase session.entry log)
    (h : Move scene session shared acts session' gate) :
    (session'.entry = session.entry ∧ acts.foldl Act.onIndex shared.index = shared.index) ∨
    (∃ handle, session.entry = none ∧ session'.entry = some handle ∧
      handle.connection = session.connection ∧
      shared.index.find? session.connection = none ∧
      acts.foldl Act.onIndex shared.index = (shared.index.add session.connection handle).2) ∨
    ∃ handle, session.entry = some handle ∧ session'.entry = none ∧
      acts.foldl Act.onIndex shared.index = shared.index.erase session.connection := by
  obtain ⟨connection, handshake, phase, entry, written⟩ := session
  cases h with
  | idle | hungUp | admitted | stored => exact .inl ⟨rfl, rfl⟩
  | taken => exact .inl ⟨rfl, rfl⟩
  | chatted | refused | unstored | confirmed | repeated => exact .inl ⟨entry_write .., rfl⟩
  | served due hmore stays =>
    -- Service goes to the gate and to storage, never to the index.
    refine .inl ⟨entry_write .., ?_⟩
    rw [List.foldl_append, foldl_onIndex (isIndexing_of_isService hmore)]
    rfl
  | entered due free =>
    -- The course has no entry before this one.
    cases due
    cases hcourse
    exact .inr (.inl ⟨_, rfl, rfl, rfl, free, rfl⟩)
  | released due =>
    cases entry with
    | none => exact .inl ⟨rfl, rfl⟩
    | some handle => exact .inr (.inr ⟨handle, rfl, rfl, rfl⟩)

/-- What gets done without being admitted does nothing with the index. -/
theorem isIndexing_of_isOutside (h : ∀ act ∈ acts, act.isOutside = true) :
    ∀ act ∈ acts, act.isIndexing = false := by
  intro act hmem
  have houtside := h act hmem
  cases act with
  | entered | left => cases houtside
  | sent | answered | stored | heard => rfl

/-- Nor with the ledger. -/
theorem isStorage_of_isOutside (h : ∀ act ∈ acts, act.isOutside = true) :
    ∀ act ∈ acts, act.isStorage = false := by
  intro act hmem
  have houtside := h act hmem
  cases act with
  | stored | heard => cases houtside
  | sent | answered | entered | left => rfl

/-- A client whom the gate never admitted got done what needs no admission, and nothing
else. -/
theorem Course.isOutside {connection : String} {phase : Phase} {entry : Option Handle}
    (h : Course connection phase entry log) (hnever : ∀ identity, .answered (some identity) ∉ log) :
    ∀ act ∈ log, act.isOutside = true := by
  have hadmission : ∀ {handle : Handle} {acts : List Act}, Admission connection handle acts →
      .answered (some handle.identity) ∈ acts := by
    rintro handle acts ⟨-, talk, at_, -, rfl⟩
    simp
  induction h with
  | handshaking chatter => exact isOutside_of_isChatter chatter
  | outside outside => exact outside
  | gone before ih => exact ih hnever
  | left before ih =>
    -- Whoever had an entry was admitted.
    cases before with
    | parting admission =>
      exact absurd (List.mem_append_left _ (List.mem_append_left _ (hadmission admission)))
        (hnever _)
  -- Every other course has a good verdict in its log.
  | @persisting identity | @registering identity | @unavailable identity =>
    exact absurd (by simp) (hnever identity)
  | @taken handle identity => exact absurd (by simp) (hnever identity)
  | confirming admission => exact absurd (hadmission admission) (hnever _)
  | serving admission | parting admission =>
    exact absurd (List.mem_append_left _ (hadmission admission)) (hnever _)

/-- Whether the call tells a client that it was admitted. -/
def Act.isConfirmation : Act → Bool
  | sent line _ => line = confirmation
  | _ => false

/-- The calls before the first one that passes a test. -/
theorem front_eq {test : Act → Bool} {front front' back back' : List Act} {act act' : Act}
    (h : front ++ act :: back = front' ++ act' :: back')
    (hfront : ∀ act ∈ front, test act = false) (hact : test act = true)
    (hfront' : ∀ act ∈ front', test act = false) (hact' : test act' = true) : front = front' := by
  have hwhile := congrArg (List.takeWhile (!test ·)) h
  rwa [List.takeWhile_append_of_pos (by simpa using hfront),
    List.takeWhile_append_of_pos (by simpa using hfront'),
    List.takeWhile_cons_of_neg (by simp [hact]), List.takeWhile_cons_of_neg (by simp [hact']),
    List.append_nil, List.append_nil] at hwhile

/-- Nor is the welcome part of it. -/
theorem isConfirmation_of_isOutside (h : ∀ act ∈ acts, act.isOutside = true) :
    ∀ act ∈ acts, act.isConfirmation = false := by
  intro act hmem
  have houtside := h act hmem
  cases act with
  | sent line => exact decide_eq_false (of_decide_eq_true houtside)
  | answered | stored | heard | entered | left => rfl

/-- Nothing before the confirmation is one. -/
theorem Admission.isConfirmation {connection : String} {handle : Handle}
    (h : Admission connection handle acts) : ∀ act ∈ acts, act.isConfirmation = false := by
  obtain ⟨-, talk, at_, htalk, rfl⟩ := h
  exact List.forall_mem_append.mpr
    ⟨isConfirmation_of_isOutside (isOutside_of_isChatter htalk), by simp [Act.isConfirmation]⟩

/-- The first confirmation comes after an admission, with nothing in between. The induction is
on how the session got where it is. -/
theorem Course.admission {connection : String} {phase : Phase} {entry : Option Handle}
    (h : Course connection phase entry log) {front back : List Act} {delivered : Bool}
    (hlog : log = front ++ .sent confirmation delivered :: back)
    (hfirst : ∀ act ∈ front, act.isConfirmation = false) :
    ∃ handle, Admission connection handle front := by
  have hnone : ∀ {log back : List Act}, log = front ++ .sent confirmation delivered :: back →
      (∀ act ∈ log, act.isConfirmation = false) → ∃ handle, Admission connection handle front := by
    rintro _ back rfl hlog
    cases hlog (.sent confirmation delivered) (by simp)
  have htalk : ∀ {talk acts : List Act}, (∀ act ∈ talk, act.isChatter = true) →
      (∀ act ∈ acts, act.isConfirmation = false) →
        ∀ act ∈ talk ++ acts, act.isConfirmation = false := fun hchatter hacts =>
    List.forall_mem_append.mpr
      ⟨isConfirmation_of_isOutside (isOutside_of_isChatter hchatter), hacts⟩
  -- Two ways to split the log at its first confirmation are the same.
  have hsplit : ∀ {handle : Handle} {front' back' back : List Act} {delivered' : Bool},
      Admission connection handle front' →
      front' ++ .sent confirmation delivered' :: back' =
        front ++ .sent confirmation delivered :: back → Admission connection handle front := by
    intro handle front' back' back delivered' hadmission heq
    have hsame : front' = front :=
      front_eq heq hadmission.isConfirmation (by simp [Act.isConfirmation])
      hfirst (by simp [Act.isConfirmation])
    rwa [← hsame]
  induction h generalizing back with
  | handshaking chatter =>
    exact hnone hlog (isConfirmation_of_isOutside (isOutside_of_isChatter chatter))
  | outside outside => exact hnone hlog (isConfirmation_of_isOutside outside)
  | persisting chatter | registering chatter | taken chatter =>
    exact hnone hlog (htalk chatter (by simp [Act.isConfirmation]))
  | unavailable chatter =>
    have hgoodbye : Farewell.unavailable.line ≠ confirmation := by decide
    exact hnone hlog (htalk chatter (by simp [Act.isConfirmation, hgoodbye]))
  | confirming admission => exact hnone hlog admission.isConfirmation
  | serving admission service | parting admission service =>
    exact ⟨_, hsplit admission hlog⟩
  | gone before ih => exact ih hlog
  | left before ih =>
    cases before with
    | parting admission service =>
      rw [List.append_assoc, List.cons_append] at hlog
      exact ⟨_, hsplit admission hlog⟩

/-- A client whose record could not be stored is told so and leaves, and the index is not
asked. -/
theorem Course.of_unstored {connection : String} {phase : Phase} {entry : Option Handle}
    (h : Course connection phase entry log) {record : Connection} {fault : Fault}
    (hmem : .stored record (.error fault) ∈ log) :
    ∃ talk identity delivered, (∀ act ∈ talk, act.isChatter = true) ∧
      log = talk ++ [.answered (some identity), .stored record (.error fault),
        .sent (Farewell.line .unavailable) delivered] := by
  have htalk : ∀ {talk : List Act}, (∀ act ∈ talk, act.isChatter = true) →
      .stored record (.error fault) ∉ talk := fun hchatter hmem => nomatch hchatter _ hmem
  have hadmission : ∀ {handle : Handle} {acts : List Act}, Admission connection handle acts →
      .stored record (.error fault) ∉ acts := by
    rintro handle acts ⟨-, talk, at_, hchatter, rfl⟩
    simp [htalk hchatter]
  have hservice : ∀ {acts : List Act}, (∀ act ∈ acts, act.isService connection = true) →
      .stored record (.error fault) ∉ acts := fun hacts hmem => nomatch hacts _ hmem
  -- A failure to store stands in one kind of log only, right before the goodbye.
  induction h with
  | handshaking chatter => exact absurd hmem (htalk chatter)
  | outside outside => cases outside _ hmem
  | persisting chatter | registering chatter | taken chatter => simp [htalk chatter] at hmem
  | @unavailable identity talk at_ fault' delivered chatter =>
    simp only [List.mem_append, htalk chatter, false_or, List.mem_cons, List.not_mem_nil, or_false,
      reduceCtorEq, Act.stored.injEq, Except.error.injEq] at hmem
    obtain ⟨rfl, rfl⟩ := hmem
    exact ⟨talk, identity, delivered, chatter, rfl⟩
  | confirming admission => exact absurd hmem (hadmission admission)
  | serving admission service | parting admission service =>
    simp [hadmission admission, hservice service] at hmem
  | gone before ih => exact ih hmem
  | left before ih =>
    cases before with
    | parting admission service => simp [hadmission admission, hservice service] at hmem

/-- A client whose record could not be stored never enters the index. -/
theorem Course.isIndexing_of_unstored {connection : String} {phase : Phase}
    {entry : Option Handle} (h : Course connection phase entry log) {record : Connection}
    {fault : Fault} (hmem : .stored record (.error fault) ∈ log) :
    ∀ act ∈ log, act.isIndexing = false := by
  obtain ⟨talk, identity, delivered, htalk, rfl⟩ := h.of_unstored hmem
  exact List.forall_mem_append.mpr
    ⟨isIndexing_of_isOutside (isOutside_of_isChatter htalk), by simp [Act.isIndexing]⟩

end Gatekeeper.Session
