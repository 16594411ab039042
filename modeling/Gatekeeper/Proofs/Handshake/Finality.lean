import Gatekeeper.Proofs.Handshake.Gatehouse

/-!
# `Gatekeeper.Proofs.Handshake.Finality`: verdicts are for good

A handshake is settled once: by its first answer, or at its opening where clients need not
prove who they are. From then on it stays as it is until it is dropped, and further answers
change nothing, neither there nor elsewhere in the gatehouse.

The random source may repeat itself, so a nonce may go out again after its first holder has
answered. What is counted is therefore not the nonce but its issuance. A `Mark` notes that a
nonce went out to a place or that a client got an identity there, and `log` is the list of
the marks of a run. A place is never used twice, so it tells the issuances apart.

* `handshake?_step`: what one event can make of the handshake of a place.
* `Identified`, `Recorded`: what the identities and the log of a run have to do with the
  handshakes, each kept by one event and then, by induction, by a run.
* `finality_run`: settled handshakes stay settled, and every issuance leads to one identity
  at most.
-/

set_option autoImplicit false

namespace Gatekeeper.Handshake

open Gatekeeper.Key

/-- The handshake has its verdict. -/
def IsSettled (handshake : Handshake) : Prop :=
  handshake.stage = .rejected ∨ ∃ identity, handshake.stage = .authenticated identity

namespace Gate

/-- Whoever is admitted on a nonce has a key. -/
theorem isAnonymous_of_judge {policy : Policy} {connection nonce : String} {entry : Option Issue}
    {now : Moment} {request : Request} {identity : Identity}
    (h : judge policy connection nonce entry now request = .ok identity) :
    identity.isAnonymous = false := by
  unfold judge at h
  -- Of all the ways through the checks, two end with an identity.
  repeat' split at h
  all_goals cases h
  all_goals rfl

/-- The verdict on a settled handshake. -/
theorem answer_of_isSettled {gate : Gate} {handshake : Handshake} (h : handshake.IsSettled)
    (request : Request) (now : Moment) :
    gate.answer handshake request now =
      (match handshake.stage with
        | .authenticated identity =>
          if identity.isAnonymous then .ok identity else .error .alreadyBound
        | _ => .error .alreadyRejected, handshake, gate) := by
  rcases h with hstage | ⟨identity, hstage⟩ <;> simp only [answer, hstage]

end Gate

namespace Gatehouse

variable {house : Gatehouse}

/-! ### What one event can make of a handshake -/

/-- A further answer changes nothing in the gatehouse. -/
theorem step_answered_of_isSettled {place : Nat} {handshake : Handshake}
    (h : house.handshake? place = some handshake) (hsettled : handshake.IsSettled)
    (request : Request) (now : Moment) : house.step (.answered place request now) = house := by
  have hplace : house.places[place]? = some (some handshake) := handshake?_eq_some_iff.mp h
  -- The handshake is put back where it was.
  have hkept : house.places.set place (some handshake) = house.places := by
    apply List.ext_getElem?
    intro other
    rw [List.getElem?_set]
    split
    next heq =>
      subst heq
      rw [hplace, if_pos (List.getElem?_eq_some_iff.mp hplace).1]
    next => rfl
  rw [step_answered h, Gate.answer_of_isSettled hsettled]
  dsimp only
  rw [hkept]

/-- Where a handshake comes from: it stood there before, it was opened at the next free place,
or it is what an answer made of an unanswered one. -/
theorem handshake?_step (hsound : house.Sound) {event : Event} {place : Nat}
    {handshake : Handshake} (h : (house.step event).handshake? place = some handshake) :
    house.handshake? place = some handshake ∨
    (∃ connection now draws gate rest, event = .opened connection now draws ∧
      house.gate.open? connection now draws = some (handshake, gate, rest) ∧
      place = house.places.length) ∨
    ∃ before nonce issuedAt request now, event = .answered place request now ∧
      house.handshake? place = some before ∧ before.stage = .nonceIssued nonce issuedAt ∧
      handshake = { before with stage := settled (house.gate.answer before request now).1 } := by
  cases event with
  | opened connection now draws =>
    rw [step] at h
    split at h
    · exact .inl h
    next opened gate rest hopen =>
      rw [handshake?_eq_some_iff, List.getElem?_append] at h
      split at h
      · exact .inl (handshake?_eq_some_iff.mpr h)
      next hle =>
        rw [List.getElem?_singleton] at h
        split at h
        next hlast =>
          cases h
          exact .inr (.inl ⟨connection, now, draws, gate, rest, rfl, hopen, by omega⟩)
        next => cases h
  | answered other request now =>
    cases hfind : house.handshake? other with
    | none => exact .inl (by rwa [step, hfind] at h)
    | some before =>
      have hstarted := hsound.started other before hfind
      cases hstage : before.stage with
      | awaiting => exact absurd hstage hstarted
      | rejected => exact .inl (by rwa [step_answered_of_isSettled hfind (.inl hstage)] at h)
      | authenticated identity =>
        exact .inl (by rwa [step_answered_of_isSettled hfind (.inr ⟨identity, hstage⟩)] at h)
      | nonceIssued nonce issuedAt =>
        rw [step_answered hfind] at h
        by_cases hsame : other = place
        · -- The place that was answered holds the settled handshake now.
          subst hsame
          have hlt := (List.getElem?_eq_some_iff.mp (handshake?_eq_some_iff.mp hfind)).1
          rw [handshake?_eq_some_iff, List.getElem?_set_self hlt] at h
          have heq := Option.some.inj (Option.some.inj h)
          rw [Gate.answer_nonceIssued request now hstage] at heq
          refine .inr (.inr ⟨before, nonce, issuedAt, request, now, rfl, hfind, hstage, ?_⟩)
          rw [Gate.answer_nonceIssued request now hstage]
          exact heq.symm
        · rw [handshake?_eq_some_iff, List.getElem?_set_ne hsame] at h
          exact .inl (handshake?_eq_some_iff.mpr h)
  | dropped other =>
    cases hfind : house.handshake? other with
    | none => exact .inl (by rwa [step, hfind] at h)
    | some before =>
      rw [step_dropped hfind] at h
      rcases handshake?_set h with hnone | hold
      · cases hnone
      · exact .inl hold

/-- Places are only added. -/
theorem length_places_step (house : Gatehouse) (event : Event) :
    house.places.length ≤ (house.step event).places.length := by
  cases event with
  | opened connection now draws =>
    rw [step]
    split
    · exact Nat.le_refl _
    next => simp
  | answered place request now =>
    cases h : house.handshake? place with
    | none => simp [step, h]
    | some handshake => simp [step_answered h]
  | dropped place =>
    cases h : house.handshake? place with
    | none => simp [step, h]
    | some handshake => simp [step_dropped h]

/-- A settled handshake stays as it is until it is dropped. -/
theorem handshake?_step_of_isSettled {place : Nat} {handshake : Handshake}
    (h : house.handshake? place = some handshake) (hsettled : handshake.IsSettled)
    {event : Event} (hkept : event ≠ .dropped place) :
    (house.step event).handshake? place = some handshake := by
  have hplace : house.places[place]? = some (some handshake) := handshake?_eq_some_iff.mp h
  have hlt : place < house.places.length := (List.getElem?_eq_some_iff.mp hplace).1
  cases event with
  | opened connection now draws =>
    rw [step]
    split
    · exact h
    next => rw [handshake?_eq_some_iff, List.getElem?_append_left hlt, hplace]
  -- An answer to a settled handshake is not looked at, and one to another is not about it.
  | answered other request now =>
    by_cases hsame : other = place
    · subst hsame
      rwa [step_answered_of_isSettled h hsettled]
    · cases hfind : house.handshake? other with
      | none => rwa [step, hfind]
      | some before =>
        rw [step_answered hfind, handshake?_eq_some_iff, List.getElem?_set_ne hsame, hplace]
  | dropped other =>
    have hne : other ≠ place := by
      rintro rfl
      exact hkept rfl
    cases hfind : house.handshake? other with
    | none => rwa [step, hfind]
    | some before =>
      rw [step_dropped hfind, handshake?_eq_some_iff, List.getElem?_set_ne hne, hplace]

/-- The same over a run. -/
theorem handshake?_foldl_of_isSettled {place : Nat} {handshake : Handshake}
    (h : house.handshake? place = some handshake) (hsettled : handshake.IsSettled)
    {later : List Event} (hkept : .dropped place ∉ later) :
    (later.foldl step house).handshake? place = some handshake := by
  induction later generalizing house with
  | nil => exact h
  | cons event rest ih =>
    have hevent : event ≠ .dropped place := by
      rintro rfl
      exact hkept List.mem_cons_self
    exact ih (handshake?_step_of_isSettled h hsettled hevent)
      (fun hmem => hkept (List.mem_cons_of_mem _ hmem))

/-! ### Identities -/

/-- What the handshakes have to do with the policy: nonces go out and clients have keys where
they have to prove who they are, and all are anonymous where they need not. -/
structure Identified (house : Gatehouse) : Prop where
  issued : ∀ place handshake nonce issuedAt, house.handshake? place = some handshake →
    handshake.stage = .nonceIssued nonce issuedAt → house.gate.policy.authRequired = true
  bound : ∀ place handshake identity, house.handshake? place = some handshake →
    handshake.stage = .authenticated identity →
      if house.gate.policy.authRequired then identity.isAnonymous = false
      else identity = .anonymous

/-- Before anybody comes there is no handshake that the policy could not allow. -/
theorem identified_ofPolicy (policy : Policy) : (ofPolicy policy).Identified where
  issued place handshake nonce issuedAt h := by simp [handshake?, ofPolicy] at h
  bound place handshake identity h := by simp [handshake?, ofPolicy] at h

/-- Every event keeps the handshakes within what the policy allows. -/
theorem identified_step (hsound : house.Sound) (hids : house.Identified) (event : Event) :
    (house.step event).Identified := by
  have hpolicy : (house.step event).gate.policy = house.gate.policy := policy_step house event
  refine ⟨fun place handshake nonce issuedAt h hstage => ?_,
    fun place handshake identity h hstage => ?_⟩
  · rw [hpolicy]
    rcases handshake?_step hsound h with hold | ⟨_, _, _, _, _, -, hopen, -⟩ | hanswer
    · exact hids.issued place handshake nonce issuedAt hold hstage
    · rcases Gate.open?_cases hopen with ⟨_, hrequired, -⟩ | ⟨-, rfl, -⟩
      · exact hrequired
      · cases hstage
    · -- A verdict leads to no stage with a nonce.
      obtain ⟨before, _, _, request, now, -, -, -, rfl⟩ := hanswer
      generalize (house.gate.answer before request now).1 = verdict at hstage
      cases verdict <;> cases hstage
  · rw [hpolicy]
    rcases handshake?_step hsound h with hold | ⟨_, _, _, _, _, -, hopen, -⟩ | hanswer
    · exact hids.bound place handshake identity hold hstage
    · rcases Gate.open?_cases hopen with ⟨_, -, -, rfl, -⟩ | ⟨hfree, rfl, -⟩
      · cases hstage
      · cases hstage
        rw [hfree]
        rfl
    · obtain ⟨before, nonce, issuedAt, request, now, -, hbefore, hissued, rfl⟩ := hanswer
      rw [if_pos (hids.issued place before nonce issuedAt hbefore hissued)]
      rw [Gate.answer_nonceIssued request now hissued] at hstage
      dsimp only at hstage
      -- The identity is the one that the judgement found, and that one has a key.
      cases hverdict : Gate.judge house.gate.policy before.connection nonce
          (house.gate.outstanding.find? nonce) now request with
      | error refusal =>
        rw [hverdict] at hstage
        cases hstage
      | ok found =>
        rw [hverdict] at hstage
        cases hstage
        exact Gate.isAnonymous_of_judge hverdict

/-- So does a run of events, by induction. -/
theorem identified_run (policy : Policy) (events : List Event) :
    (run policy events).Identified := by
  suffices h : ∀ house : Gatehouse, house.Sound → house.Identified →
      (events.foldl step house).Identified from
    h _ (sound_ofPolicy policy) (identified_ofPolicy policy)
  induction events with
  | nil => exact fun _ _ hids => hids
  | cons event rest ih =>
    intro house hsound hids
    exact ih _ (sound_step hsound event) (identified_step hsound hids event)

/-- The verdict on an answer binds an identity only if the answer is the first one to a nonce,
and that nonce is outstanding for this very handshake. -/
theorem issued_of_binding (hsound : house.Sound) {place : Nat} {handshake : Handshake}
    (h : house.handshake? place = some handshake) {request : Request} {now : Moment}
    {identity : Identity} (hverdict : (house.gate.answer handshake request now).1 = .ok identity)
    (hbinds : identity.isAnonymous = false) :
    ∃ nonce issuedAt, handshake.stage = .nonceIssued nonce issuedAt ∧
      house.gate.outstanding.find? nonce = some ⟨handshake.connection, issuedAt⟩ := by
  have hstarted := hsound.started place handshake h
  cases hstage : handshake.stage with
  | awaiting => exact absurd hstage hstarted
  | rejected =>
    rw [Gate.answer_of_isSettled (.inl hstage), hstage] at hverdict
    cases hverdict
  | authenticated bound =>
    rw [Gate.answer_of_isSettled (.inr ⟨bound, hstage⟩), hstage] at hverdict
    dsimp only at hverdict
    -- A settled handshake repeats its verdict for anonymous clients only.
    split at hverdict
    next hanonymous =>
      cases hverdict
      cases hbinds.symm.trans hanonymous
    next => cases hverdict
  | nonceIssued nonce issuedAt =>
    exact ⟨nonce, issuedAt, rfl,
      find?_outstanding hsound h (entry?_eq_some_iff.mpr ⟨rfl, hstage⟩)⟩

/-! ### The log of a run -/

/-- Something of note in a run. -/
inductive Mark where
  /-- A nonce went out with the handshake of a place. -/
  | issued (place : Nat) (nonce : String)
  /-- An answer at a place was accepted and gave the client an identity with a key. -/
  | bound (place : Nat) (identity : Identity)
  deriving DecidableEq

/-- Whether the mark is the issuance of a nonce to the place. -/
def Mark.isIssue (place : Nat) : Mark → Bool
  | .issued other _ => other = place
  | .bound _ _ => false

/-- Whether the mark is an identity for the client of the place. -/
def Mark.isBinding (place : Nat) : Mark → Bool
  | .issued _ _ => false
  | .bound other _ => other = place

/-- The marks of one event. -/
def marks (house : Gatehouse) : Event → List Mark
  | .opened connection now draws =>
    match house.gate.open? connection now draws with
    | some (⟨_, _, .nonceIssued nonce _⟩, _) => [.issued house.places.length nonce]
    | _ => []
  | .answered place request now =>
    match house.handshake? place with
    | none => []
    | some handshake =>
      match (house.gate.answer handshake request now).1 with
      | .ok identity => if identity.isAnonymous then [] else [.bound place identity]
      | .error _ => []
  | .dropped _ => []

/-- The marks of a run of events. -/
def log : Gatehouse → List Event → List Mark
  | _, [] => []
  | house, event :: rest => house.marks event ++ log (house.step event) rest

/-- What the log so far has to do with the handshakes. -/
structure Recorded (marks : List Mark) (house : Gatehouse) : Prop where
  /-- Nothing happened yet at places that are still free. -/
  free : ∀ place, house.places.length ≤ place →
    marks.countP (Mark.isIssue place) = 0 ∧ marks.countP (Mark.isBinding place) = 0
  /-- One nonce at most goes out to a place, and it leads to one identity at most. -/
  once : ∀ place, marks.countP (Mark.isBinding place) ≤ marks.countP (Mark.isIssue place) ∧
    marks.countP (Mark.isIssue place) ≤ 1
  /-- A nonce that is unanswered went out to its place and has led to no identity. -/
  unanswered : ∀ place handshake nonce issuedAt, house.handshake? place = some handshake →
    handshake.stage = .nonceIssued nonce issuedAt →
      .issued place nonce ∈ marks ∧ marks.countP (Mark.isBinding place) = 0

/-- Marks that come later change nothing about those of other places. -/
theorem Recorded.step_of_marks_eq_nil {marks : List Mark} (h : Recorded marks house)
    (hsound : house.Sound) {event : Event} (hmarks : house.marks event = []) :
    Recorded (marks ++ house.marks event) (house.step event) := by
  rw [hmarks, List.append_nil]
  refine ⟨fun place hfree => ?_, h.once, fun place handshake nonce issuedAt hlive hstage => ?_⟩
  · exact h.free place (Nat.le_trans (length_places_step house event) hfree)
  · rcases handshake?_step hsound hlive with hold |
      ⟨connection, now, draws, gate, rest, rfl, hopen, -⟩ |
      ⟨before, _, _, request, now, -, -, -, rfl⟩
    · exact h.unanswered place handshake nonce issuedAt hold hstage
    · -- An opening that sends a nonce leaves a mark.
      obtain ⟨connection', hello, stage⟩ := handshake
      cases hstage
      simp [Gatehouse.marks, hopen] at hmarks
    · generalize (house.gate.answer before request now).1 = verdict at hstage
      cases verdict <;> cases hstage

/-- An opening that sends a nonce is noted at a place where nothing happened before. -/
theorem Recorded.opened {marks : List Mark} (h : Recorded marks house) (hsound : house.Sound)
    {connection : String} {now : Moment} {draws rest : List Nonce.Draw} {handshake : Handshake}
    {gate : Gate} {nonce : String} {issuedAt : Moment}
    (hopen : house.gate.open? connection now draws = some (handshake, gate, rest))
    (hstage : handshake.stage = .nonceIssued nonce issuedAt) :
    Recorded (marks ++ house.marks (.opened connection now draws))
      (house.step (.opened connection now draws)) := by
  have hmarks : house.marks (.opened connection now draws) =
      [.issued house.places.length nonce] := by
    obtain ⟨connection', hello, stage⟩ := handshake
    cases hstage
    simp [Gatehouse.marks, hopen]
  have hlength : (house.step (.opened connection now draws)).places.length =
      house.places.length + 1 := by
    rw [step, hopen]
    simp
  -- The place is the next one, of which there is no mark yet.
  obtain ⟨hnone, hnobody⟩ := h.free house.places.length (Nat.le_refl _)
  rw [hmarks]
  refine ⟨fun place hfree => ?_, fun place => ?_,
    fun place other nonce' issuedAt' hlive hother => ?_⟩
  · obtain ⟨hissues, hbindings⟩ := h.free place (by omega)
    have hne : house.places.length ≠ place := by omega
    simp [List.countP_append, hissues, hbindings, Mark.isIssue, Mark.isBinding, hne]
  · obtain ⟨hle, hone⟩ := h.once place
    by_cases hsame : house.places.length = place
    · subst hsame
      simp [List.countP_append, hnone, hnobody, Mark.isIssue, Mark.isBinding]
    · simpa [List.countP_append, Mark.isIssue, Mark.isBinding, hsame] using And.intro hle hone
  -- An unanswered handshake was there before, or it is the one that was just opened.
  · rcases handshake?_step hsound hlive with hold | ⟨_, _, _, _, _, heq, hopen', rfl⟩ |
      ⟨_, _, _, _, _, heq, -⟩
    · obtain ⟨hmem, hzero⟩ := h.unanswered place other nonce' issuedAt' hold hother
      exact ⟨List.mem_append_left _ hmem,
        by simpa [List.countP_append, Mark.isBinding] using hzero⟩
    · cases heq
      cases hopen.symm.trans hopen'
      cases hstage.symm.trans hother
      exact ⟨by simp, by simpa [List.countP_append, Mark.isBinding] using hnobody⟩
    · cases heq

/-- An answer that binds an identity is noted at a place whose nonce was unanswered. -/
theorem Recorded.bound {marks : List Mark} (h : Recorded marks house) (hsound : house.Sound)
    {place : Nat} {handshake : Handshake} (hlive : house.handshake? place = some handshake)
    {request : Request} {now : Moment} {identity : Identity}
    (hverdict : (house.gate.answer handshake request now).1 = .ok identity)
    (hbinds : identity.isAnonymous = false) :
    Recorded (marks ++ house.marks (.answered place request now))
      (house.step (.answered place request now)) := by
  have hmarks : house.marks (.answered place request now) = [.bound place identity] := by
    rw [Gatehouse.marks, hlive]
    simp [hverdict, hbinds]
  obtain ⟨nonce, issuedAt, hstage, -⟩ := issued_of_binding hsound hlive hverdict hbinds
  obtain ⟨hissued, hunbound⟩ := h.unanswered place handshake nonce issuedAt hlive hstage
  have hissues : 1 ≤ marks.countP (Mark.isIssue place) :=
    List.countP_pos_iff.mpr ⟨_, hissued, by simp [Mark.isIssue]⟩
  have hlength := length_places_step house (.answered place request now)
  rw [hmarks]
  refine ⟨fun other hfree => ?_, fun other => ?_,
    fun other handshake' nonce' issuedAt' hlive' hstage' => ?_⟩
  · obtain ⟨hnone, hnobody⟩ := h.free other (Nat.le_trans hlength hfree)
    have hne : place ≠ other := by
      rintro rfl
      omega
    simp [List.countP_append, hnone, hnobody, Mark.isIssue, Mark.isBinding, hne]
  · obtain ⟨hle, hone⟩ := h.once other
    by_cases hsame : place = other
    · subst hsame
      simpa [List.countP_append, hunbound, Mark.isIssue, Mark.isBinding] using
        And.intro hissues hone
    · simpa [List.countP_append, Mark.isIssue, Mark.isBinding, hsame] using And.intro hle hone
  · rcases handshake?_step hsound hlive' with hold | ⟨_, _, _, _, _, heq, -⟩ |
      ⟨before, _, _, _, _, -, -, -, rfl⟩
    · -- The place that was answered is settled, so this is another one.
      have hne : place ≠ other := by
        rintro rfl
        have hsettled := step_answered hlive request now
        have hlt := (List.getElem?_eq_some_iff.mp (handshake?_eq_some_iff.mp hlive)).1
        rw [hsettled, handshake?_eq_some_iff, List.getElem?_set_self hlt,
          Gate.answer_nonceIssued request now hstage] at hlive'
        cases Option.some.inj (Option.some.inj hlive')
        generalize Gate.judge _ _ _ _ _ _ = verdict at hstage'
        cases verdict <;> cases hstage'
      obtain ⟨hmem, hzero⟩ := h.unanswered other handshake' nonce' issuedAt' hold hstage'
      exact ⟨List.mem_append_left _ hmem,
        by simpa [List.countP_append, Mark.isBinding, hne] using hzero⟩
    · cases heq
    · generalize (house.gate.answer before _ _).1 = verdict at hstage'
      cases verdict <;> cases hstage'

/-- Every event keeps the log right: it leaves no mark, or it is one of the two that do. -/
theorem recorded_step {marks : List Mark} (h : Recorded marks house) (hsound : house.Sound)
    (event : Event) : Recorded (marks ++ house.marks event) (house.step event) := by
  cases event with
  | opened connection now draws =>
    cases hopen : house.gate.open? connection now draws with
    | none => exact h.step_of_marks_eq_nil hsound (by simp [Gatehouse.marks, hopen])
    | some outcome =>
      obtain ⟨⟨connection', hello, stage⟩, gate, rest⟩ := outcome
      cases stage with
      | nonceIssued nonce issuedAt => exact h.opened hsound hopen rfl
      | awaiting | authenticated | rejected =>
        exact h.step_of_marks_eq_nil hsound (by simp [Gatehouse.marks, hopen])
  | answered place request now =>
    cases hlive : house.handshake? place with
    | none => exact h.step_of_marks_eq_nil hsound (by simp [Gatehouse.marks, hlive])
    | some handshake =>
      cases hverdict : (house.gate.answer handshake request now).1 with
      | error refusal =>
        exact h.step_of_marks_eq_nil hsound (by simp [Gatehouse.marks, hlive, hverdict])
      -- Only a verdict that binds an identity is marked. Anonymous clients are not told
      -- apart.
      | ok identity =>
        cases hbinds : identity.isAnonymous with
        | false => exact h.bound hsound hlive hverdict hbinds
        | true =>
          exact h.step_of_marks_eq_nil hsound (by simp [Gatehouse.marks, hlive, hverdict, hbinds])
  | dropped place => exact h.step_of_marks_eq_nil hsound rfl

/-- The log of a run records what the run did, by induction on its events. -/
theorem recorded_run (policy : Policy) (events : List Event) :
    Recorded ((ofPolicy policy).log events) (run policy events) := by
  -- The induction carries the marks that were made before.
  suffices h : ∀ (marks : List Mark) (house : Gatehouse), Recorded marks house → house.Sound →
      Recorded (marks ++ house.log events) (events.foldl step house) by
    have hstart : Recorded [] (ofPolicy policy) :=
      ⟨fun _ _ => ⟨rfl, rfl⟩, fun _ => ⟨Nat.le_refl _, Nat.zero_le _⟩,
        fun place handshake _ _ hlive => by simp [handshake?, ofPolicy] at hlive⟩
    exact h [] _ hstart (sound_ofPolicy policy)
  induction events with
  | nil =>
    intro marks house hrecorded _
    rwa [log, List.append_nil]
  | cons event rest ih =>
    intro marks house hrecorded hsound
    rw [log, ← List.append_assoc]
    exact ih _ _ (recorded_step hrecorded hsound event) (sound_step hsound event)

/-- **Verdicts are for good, and a nonce authenticates once.** After any run of openings,
answers and drops:

* A handshake that has its verdict stays as it is for the rest of the run, until it is
  dropped. A further answer to it, with any request, leaves the whole gatehouse as it is. Its
  verdict is the identity again for an anonymous client, that the client is already bound for
  one with an identity, and that it was already rejected for one that was.
* Where clients have to prove who they are no identity is anonymous, and where they need not
  all are.
* One nonce at most goes out to a place, and one answer at most binds an identity there, which
  is after a nonce went out.
* An answer that binds an identity is the first one to the nonce that went out to that place,
  which has led to no identity before. The nonce is outstanding for this very handshake until
  then, and it is not outstanding after it. -/
theorem finality_run (policy : Policy) (events : List Event) :
    let house := run policy events
    let marks := (ofPolicy policy).log events
    (∀ place handshake, house.handshake? place = some handshake → handshake.IsSettled →
      (∀ later : List Event, .dropped place ∉ later →
        (later.foldl step house).handshake? place = some handshake) ∧
      ∀ request now, house.step (.answered place request now) = house ∧
        (house.gate.answer handshake request now).1 =
          match handshake.stage with
          | .authenticated identity =>
            if identity = .anonymous then .ok .anonymous else .error .alreadyBound
          | _ => .error .alreadyRejected) ∧
    (∀ place handshake identity, house.handshake? place = some handshake →
      handshake.stage = .authenticated identity →
      (identity.isAnonymous = true ↔ policy.authRequired = false)) ∧
    (∀ place, marks.countP (Mark.isBinding place) ≤ marks.countP (Mark.isIssue place) ∧
      marks.countP (Mark.isIssue place) ≤ 1) ∧
    (∀ place handshake request now identity, house.handshake? place = some handshake →
      (house.gate.answer handshake request now).1 = .ok identity → identity.isAnonymous = false →
      ∃ nonce issuedAt, handshake.stage = .nonceIssued nonce issuedAt ∧
        .issued place nonce ∈ marks ∧ marks.countP (Mark.isBinding place) = 0 ∧
        house.gate.outstanding.find? nonce = some ⟨handshake.connection, issuedAt⟩ ∧
        (house.step (.answered place request now)).gate.outstanding.find? nonce = none) := by
  intro house marks
  have hsound : house.Sound := sound_run policy events
  have hids : house.Identified := identified_run policy events
  have hrecorded : Recorded marks house := recorded_run policy events
  have hpolicy : house.gate.policy = policy := policy_run policy events
  -- An identity without a key is the anonymous one, because no other such identity comes up.
  have hanonymous : ∀ place handshake identity, house.handshake? place = some handshake →
      handshake.stage = .authenticated identity →
      (identity.isAnonymous = true ↔ policy.authRequired = false) ∧
        (identity.isAnonymous = true ↔ identity = .anonymous) := by
    intro place handshake identity hlive hstage
    have hbound := hids.bound place handshake identity hlive hstage
    rw [hpolicy] at hbound
    cases hrequired : policy.authRequired with
    | true =>
      rw [hrequired, if_pos rfl] at hbound
      have hne : identity ≠ .anonymous := by
        rintro rfl
        cases hbound
      simp [hbound, hne]
    | false =>
      rw [hrequired, if_neg Bool.false_ne_true] at hbound
      subst hbound
      simp [Identity.isAnonymous, Identity.anonymous]
  refine ⟨fun place handshake hlive hsettled => ⟨?_, fun request now => ⟨?_, ?_⟩⟩,
    fun place handshake identity hlive hstage =>
      (hanonymous place handshake identity hlive hstage).1,
    hrecorded.once, ?_⟩
  · intro later hkept
    exact handshake?_foldl_of_isSettled hlive hsettled hkept
  · exact step_answered_of_isSettled hlive hsettled request now
  · rw [Gate.answer_of_isSettled hsettled]
    rcases hsettled with hstage | ⟨identity, hstage⟩
    · simp only [hstage]
    · have hiff := (hanonymous place handshake identity hlive hstage).2
      simp only [hstage]
      by_cases hsame : identity = .anonymous
      · rw [if_pos hsame, if_pos (hiff.mpr hsame), hsame]
      · rw [if_neg hsame, if_neg (fun hkeyless => hsame (hiff.mp hkeyless))]
  · intro place handshake request now identity hlive hverdict hbinds
    obtain ⟨nonce, issuedAt, hstage, hfound⟩ := issued_of_binding hsound hlive hverdict hbinds
    obtain ⟨hissued, hunbound⟩ := hrecorded.unanswered place handshake nonce issuedAt hlive hstage
    refine ⟨nonce, issuedAt, hstage, hissued, hunbound, hfound, ?_⟩
    have hentry : handshake.entry? = some (nonce, ⟨handshake.connection, issuedAt⟩) :=
      entry?_eq_some_iff.mpr ⟨rfl, hstage⟩
    rw [outstanding_step hsound hlive (show (Event.answered place request now).place? = _ from rfl),
      hentry, Roster.find?_erase, if_pos rfl]

/-- A user that has signed its nonce is bound. It stays so when a later client gets the same nonce,
which is another issuance, and to sign it once more changes nothing. -/
theorem finality_run_of_repeated_draw :
    let user : KeyPair := ⟨.user, List.replicate 32 1, rfl⟩
    let policy : Policy := ⟨true, [user.publicKey.toText], ⟨[], []⟩, .ofSeconds 30, "O1"⟩
    let draw : Nonce.Draw := ⟨List.replicate 24 3, rfl⟩
    let request := Request.signed user (Nonce.ofDraw draw)
    let house := run policy
      [.opened "c1" 5 [draw], .answered 0 request 7, .opened "c2" 8 [draw]]
    ∃ handshake identity, house.handshake? 0 = some handshake ∧
      handshake.stage = .authenticated identity ∧ identity.isAnonymous = false ∧
      (house.handshake? 1).map (·.stage) = some (.nonceIssued (Nonce.ofDraw draw) 8) ∧
      house.step (.answered 0 request 9) = house ∧
      (house.gate.answer handshake request 9).1 = .error .alreadyBound := by
  intro user policy draw request house
  -- Both stages are evaluated together, because the run signs and verifies.
  have hstages : (house.handshake? 0).map (·.stage) =
        some (.authenticated ⟨some user.publicKey.toText, none⟩) ∧
      (house.handshake? 1).map (·.stage) = some (.nonceIssued (Nonce.ofDraw draw) 8) := by
    decide +kernel
  obtain ⟨hfirst, hsecond⟩ := hstages
  obtain ⟨handshake, hlive, hbound⟩ := Option.map_eq_some_iff.mp hfirst
  obtain ⟨hfinal, -⟩ := finality_run policy
    [.opened "c1" 5 [draw], .answered 0 request 7, .opened "c2" 8 [draw]]
  obtain ⟨-, hanswer⟩ := hfinal 0 handshake hlive (.inr ⟨_, hbound⟩)
  obtain ⟨hkept, hverdict⟩ := hanswer request 9
  rw [hbound] at hverdict
  exact ⟨handshake, _, hlive, hbound, rfl, hsecond, hkept, hverdict⟩

end Gatehouse

end Gatekeeper.Handshake
