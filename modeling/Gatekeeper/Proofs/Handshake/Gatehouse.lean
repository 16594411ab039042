import Gatekeeper.Handshake.Gate
import Gatekeeper.Proofs.Roster

/-!
# `Gatekeeper.Proofs.Handshake.Gatehouse`: which nonces are outstanding

A gatehouse is a gate together with all handshakes that were opened at it. The
handshakes are private to their connections, and the roster of nonces is all that
they share. An `Event` is one operation on one handshake; the operations of
different connections come in any order, with any connection ids, any random draws
and any readings of the clock.

`Gatehouse.Sound` is the invariant. Its main field says that the roster of nonces
lists the entries of the handshakes that are unanswered, in the order of their
opening, and nothing else. `sound_step` shows that one event keeps it, and
`sound_run` follows by induction on the events.

* `outstanding_run` puts the roster and the handshakes of every run side by side,
  and says what an answer or a drop takes out.
* `find?_outstanding` is the part that the verdict on an answer needs: the nonce of
  an unanswered handshake is in the roster, with the handshake's own connection and
  time of issue.

Opening draws nonces until one is fresh. A draw that is not fresh leaves the roster
as it was, so the whole of an opening takes effect when its last draw is added, and
one event per opening covers every interleaving of the draws of several.
-/

set_option autoImplicit false

namespace Gatekeeper.Handshake

open Gatekeeper.Key

/-! ### What one operation does -/

/-- The stage that a verdict leads to. -/
def settled : Except Refusal Identity → Stage
  | .ok identity => .authenticated identity
  | .error _ => .rejected

/-- The roster entry that belongs to a handshake, as long as it is unanswered. -/
def entry? (handshake : Handshake) : Option (String × Issue) :=
  match handshake.stage with
  | .nonceIssued nonce issuedAt => some (nonce, ⟨handshake.connection, issuedAt⟩)
  | _ => none

/-- Whether the nonce of the handshake is unanswered. -/
def isUnanswered (handshake : Handshake) : Bool := handshake.entry?.isSome

/-- The entry of a handshake is that of its nonce, with its connection and the moment of the issue.
-/
theorem entry?_eq_some_iff {handshake : Handshake} {nonce : String} {issue : Issue} :
    handshake.entry? = some (nonce, issue) ↔
      handshake.connection = issue.connection ∧
        handshake.stage = .nonceIssued nonce issue.issuedAt := by
  obtain ⟨connection, issuedAt⟩ := issue
  unfold entry?
  split
  next n t hstage => simp [hstage, and_left_comm]
  next hother =>
    constructor
    · intro h
      cases h
    · intro h
      exact absurd h.2 (hother _ _)

namespace Gate

/-- The first answer to a nonce: the nonce leaves the roster whatever the verdict is,
and the verdict settles the stage. -/
theorem answer_nonceIssued {gate : Gate} {handshake : Handshake} {nonce : String}
    {issuedAt : Moment} (request : Request) (now : Moment)
    (hstage : handshake.stage = .nonceIssued nonce issuedAt) :
    gate.answer handshake request now =
      (judge gate.policy handshake.connection nonce (gate.outstanding.find? nonce) now request,
        { handshake with
          stage := settled (judge gate.policy handshake.connection nonce
            (gate.outstanding.find? nonce) now request) },
        { gate with outstanding := gate.outstanding.erase nonce }) := by
  simp only [answer, hstage, Roster.take]
  cases judge gate.policy handshake.connection nonce (gate.outstanding.find? nonce) now request <;>
    rfl

/-- A later answer changes nothing. -/
theorem answer_settled {gate : Gate} {handshake : Handshake} (request : Request) (now : Moment)
    (hentry : handshake.entry? = none) (hawaiting : handshake.stage ≠ .awaiting) :
    (gate.answer handshake request now).2 = (handshake, gate) := by
  unfold answer
  unfold entry? at hentry
  cases hstage : handshake.stage with
  | awaiting => exact absurd hstage hawaiting
  | nonceIssued nonce issuedAt => simp [hstage] at hentry
  | authenticated identity => rfl
  | rejected => rfl

/-- Dropping an unanswered handshake takes its nonce out. -/
theorem abandon_nonceIssued {gate : Gate} {handshake : Handshake} {nonce : String}
    {issuedAt : Moment} (hstage : handshake.stage = .nonceIssued nonce issuedAt) :
    gate.abandon handshake = { gate with outstanding := gate.outstanding.erase nonce } := by
  rw [abandon, hstage]
  rfl

/-- Dropping an answered handshake changes nothing. -/
theorem abandon_settled {gate : Gate} {handshake : Handshake}
    (hentry : handshake.entry? = none) : gate.abandon handshake = gate := by
  unfold abandon
  unfold entry? at hentry
  cases hstage : handshake.stage with
  | nonceIssued nonce issuedAt => simp [hstage] at hentry
  | awaiting => rfl
  | authenticated identity => rfl
  | rejected => rfl

/-- An answer changes nothing where the handshake was settled before. Otherwise it takes the
nonce out and settles the handshake by its verdict. -/
theorem answer_cases {gate gate' : Gate} {handshake handshake' : Handshake}
    {request : Request} {now : Moment} {verdict : Except Refusal Identity}
    (started : handshake.stage ≠ .awaiting)
    (h : gate.answer handshake request now = (verdict, handshake', gate')) :
    (handshake.entry? = none ∧ handshake' = handshake ∧ gate' = gate) ∨
      ∃ nonce issue, handshake.entry? = some (nonce, issue) ∧
        handshake' = { handshake with stage := settled verdict } ∧
        gate' = { gate with outstanding := gate.outstanding.erase nonce } := by
  cases hentry : handshake.entry? with
  | none =>
    have hsame : (gate.answer handshake request now).2 = _ :=
      answer_settled request now hentry started
    rw [h] at hsame
    cases hsame
    exact .inl ⟨rfl, rfl, rfl⟩
  | some entry =>
    obtain ⟨nonce, issue⟩ := entry
    rw [answer_nonceIssued request now (entry?_eq_some_iff.mp hentry).2] at h
    cases h
    exact .inr ⟨nonce, issue, rfl, rfl, rfl⟩

/-- A client that the gate admits has its identity from then on. -/
theorem stage_of_answer_ok {gate gate' : Gate} {handshake handshake' : Handshake}
    {request : Request} {now : Moment} {identity : Identity}
    (started : handshake.stage ≠ .awaiting)
    (h : gate.answer handshake request now = (.ok identity, handshake', gate')) :
    handshake'.stage = .authenticated identity := by
  rcases answer_cases started h with ⟨hentry, rfl, rfl⟩ | ⟨nonce, issue, -, rfl, -⟩
  · cases hstage : handshake'.stage with
    | awaiting => exact absurd hstage started
    | nonceIssued nonce issuedAt =>
      unfold entry? at hentry
      simp [hstage] at hentry
    | rejected => simp [answer, hstage] at h
    -- Only an anonymous identity is confirmed again, and it is the one that was bound.
    | authenticated bound =>
      simp only [answer, hstage] at h
      cases hanonymous : bound.isAnonymous <;> simp [hanonymous] at h
      rw [h]
  · rfl

/-- Answering does not change the policy. -/
theorem policy_answer (gate : Gate) (handshake : Handshake) (request : Request) (now : Moment) :
    (gate.answer handshake request now).2.2.policy = gate.policy := by
  cases hstage : handshake.stage with
  | nonceIssued nonce issuedAt => rw [answer_nonceIssued request now hstage]
  | awaiting => simp only [answer, hstage]
  | authenticated identity => simp only [answer, hstage]
  | rejected => simp only [answer, hstage]

/-- Dropping a handshake does not change the policy. -/
theorem policy_abandon (gate : Gate) (handshake : Handshake) :
    (gate.abandon handshake).policy = gate.policy := by
  unfold abandon
  split <;> rfl

/-- The nonce that a search ends with is not in the roster. -/
theorem find?_of_freshNonce? {outstanding : Roster String Issue} {draws rest : List Nonce.Draw}
    {nonce : String} (h : freshNonce? outstanding draws = some (nonce, rest)) :
    outstanding.find? nonce = none := by
  induction draws with
  | nil => cases h
  | cons draw draws ih =>
    rw [freshNonce?] at h
    split at h
    · exact ih h
    · next hfresh =>
      cases h
      exact Roster.contains_eq_false_iff.mp (Bool.not_eq_true _ ▸ hfresh)

/-- The two ways to open a handshake. Where clients have to prove who they are, one
fresh nonce joins the roster at its end; where they do not, the roster stays. -/
theorem open?_cases {gate gate' : Gate} {connection : String} {now : Moment}
    {draws rest : List Nonce.Draw} {handshake : Handshake}
    (h : gate.open? connection now draws = some (handshake, gate', rest)) :
    (∃ nonce, gate.policy.authRequired = true ∧ gate.outstanding.find? nonce = none ∧
        handshake = ⟨connection, ⟨gate.policy.serverId, true, some nonce⟩, .nonceIssued nonce now⟩ ∧
        gate' = { gate with
          outstanding := (gate.outstanding.add nonce ⟨connection, now⟩).2 }) ∨
    (gate.policy.authRequired = false ∧
      handshake =
        ⟨connection, ⟨gate.policy.serverId, false, none⟩, .authenticated .anonymous⟩ ∧
      gate' = gate) := by
  unfold open? at h
  split at h
  · next hrequired =>
    split at h
    · cases h
    · next nonce rest hfresh =>
      cases h
      exact .inl ⟨nonce, hrequired, find?_of_freshNonce? hfresh, rfl, rfl⟩
  · next hrequired =>
    cases h
    exact .inr ⟨Bool.not_eq_true _ ▸ hrequired, rfl, rfl⟩

end Gate

/-! ### Runs of operations -/

/-- A gate and the handshakes that were opened at it, in the order of their opening. A
handshake that is dropped leaves its place empty, so a place names one handshake for
good. -/
structure Gatehouse where
  gate : Gate
  places : List (Option Handshake)

namespace Gatehouse

/-- One operation on one handshake. -/
inductive Event where
  | opened (connection : String) (now : Moment) (draws : List Nonce.Draw)
  | answered (place : Nat) (request : Request) (now : Moment)
  | dropped (place : Nat)

/-- The place of the handshake that an event is about, if it was opened before. -/
def Event.place? : Event → Option Nat
  | .opened _ _ _ => none
  | .answered place _ _ => some place
  | .dropped place => some place

/-- A gatehouse before any connection. -/
def ofPolicy (policy : Policy) : Gatehouse := ⟨.ofPolicy policy, []⟩

/-- The live handshake of a place. -/
def handshake? (house : Gatehouse) (place : Nat) : Option Handshake :=
  house.places[place]?.join

/-- The roster entries that belong to the unanswered handshakes of some places. -/
def entriesOf (places : List (Option Handshake)) : List (String × Issue) :=
  places.filterMap fun place => place.bind entry?

/-- The roster entries that belong to the live handshakes that are unanswered, in the
order of their opening. -/
def pending (house : Gatehouse) : List (String × Issue) := entriesOf house.places

/-- What an event does. An opening whose draws end before one is fresh has not come to
its end, and an event about no live handshake does nothing. -/
def step (house : Gatehouse) : Event → Gatehouse
  | .opened connection now draws =>
    match house.gate.open? connection now draws with
    | none => house
    | some (handshake, gate, _) => ⟨gate, house.places ++ [some handshake]⟩
  | .answered place request now =>
    match house.handshake? place with
    | none => house
    | some handshake =>
      let (_, handshake, gate) := house.gate.answer handshake request now
      ⟨gate, house.places.set place (some handshake)⟩
  | .dropped place =>
    match house.handshake? place with
    | none => house
    | some handshake => ⟨house.gate.abandon handshake, house.places.set place none⟩

/-- The gatehouse of a policy after a run of events. -/
def run (policy : Policy) (events : List Event) : Gatehouse :=
  events.foldl step (ofPolicy policy)

/-- A handshake is at a place just if the place is there and taken by it. -/
theorem handshake?_eq_some_iff {house : Gatehouse} {place : Nat} {handshake : Handshake} :
    house.handshake? place = some handshake ↔ house.places[place]? = some (some handshake) := by
  simp [handshake?, Option.join_eq_some_iff]

/-- What every reachable gatehouse keeps. -/
structure Sound (house : Gatehouse) : Prop where
  /-- The roster lists the entries of the unanswered handshakes, and nothing else. -/
  outstanding : house.gate.outstanding.entries = house.pending
  /-- Where clients need not prove who they are, no handshake is unanswered. -/
  anonymous : house.gate.policy.authRequired = false → house.pending = []
  /-- A handshake has its nonce, or its identity, from its opening on. -/
  started : ∀ place handshake, house.handshake? place = some handshake →
    handshake.stage ≠ .awaiting

/-! ### One step -/

/-- An answer goes to the handshake at the place, and to nothing if there is none. -/
theorem step_answered {house : Gatehouse} {place : Nat} {handshake : Handshake}
    (h : house.handshake? place = some handshake) (request : Request) (now : Moment) :
    house.step (.answered place request now) =
      ⟨(house.gate.answer handshake request now).2.2,
        house.places.set place (some (house.gate.answer handshake request now).2.1)⟩ := by
  rw [step, h]

/-- Dropping empties the place and takes its nonce off the roster. -/
theorem step_dropped {house : Gatehouse} {place : Nat} {handshake : Handshake}
    (h : house.handshake? place = some handshake) :
    house.step (.dropped place) =
      ⟨house.gate.abandon handshake, house.places.set place none⟩ := by
  rw [step, h]

/-- The entries of two rows of places are those of the first and then those of the second. -/
theorem entriesOf_append (front back : List (Option Handshake)) :
    entriesOf (front ++ back) = entriesOf front ++ entriesOf back :=
  List.filterMap_append

/-- A place gives its entry, if it has one. -/
theorem entriesOf_cons (place : Option Handshake) (rest : List (Option Handshake)) :
    entriesOf (place :: rest) = (place.bind entry?).toList ++ entriesOf rest := by
  rw [entriesOf, List.filterMap_cons]
  cases place.bind entry? <;> rfl

/-- What stands in one place shows in the pending entries there and nowhere else. -/
theorem exists_pending_set {house : Gatehouse} {place : Nat} {handshake : Handshake}
    (h : house.handshake? place = some handshake) :
    ∃ before after, house.pending = before ++ handshake.entry?.toList ++ after ∧
      ∀ (gate : Gate) (replacement : Option Handshake),
        (Gatehouse.mk gate (house.places.set place replacement)).pending =
          before ++ (replacement.bind entry?).toList ++ after := by
  obtain ⟨hlt, hget⟩ := List.getElem?_eq_some_iff.mp (handshake?_eq_some_iff.mp h)
  have hsplit : house.places =
      house.places.take place ++ some handshake :: house.places.drop (place + 1) := by
    rw [← hget, ← List.drop_eq_getElem_cons hlt, List.take_append_drop]
  refine ⟨entriesOf (house.places.take place), entriesOf (house.places.drop (place + 1)), ?_,
    fun gate replacement => ?_⟩
  · rw [pending, hsplit, entriesOf_append, entriesOf_cons, ← List.append_assoc, ← hsplit]
    rfl
  · rw [pending, List.set_eq_take_append_cons_drop, if_pos hlt, entriesOf_append, entriesOf_cons,
      ← List.append_assoc]

/-- Settling a place takes exactly its own entry out of the pending ones. -/
theorem pending_set_settled {house : Gatehouse} (hsound : house.Sound) {place : Nat}
    {handshake : Handshake} (h : house.handshake? place = some handshake) {nonce : String}
    {issue : Issue} (hentry : handshake.entry? = some (nonce, issue)) (gate : Gate)
    {replacement : Option Handshake} (hreplacement : replacement.bind entry? = none) :
    (Gatehouse.mk gate (house.places.set place replacement)).pending =
      (house.gate.outstanding.erase nonce).entries := by
  obtain ⟨before, after, hpending, hset⟩ := exists_pending_set h
  rw [hentry, Option.toList_some] at hpending
  have hnodup : ((before ++ [(nonce, issue)] ++ after).map Prod.fst).Nodup := by
    rw [← hpending, ← hsound.outstanding]
    exact house.gate.outstanding.nodup_keys
  -- The nonce is the key of no other entry, so the filter drops one entry only.
  have hkeep : ∀ entry ∈ before ++ after, decide (entry.1 ≠ nonce) = true := by
    intro entry hmem
    rw [decide_eq_true_iff]
    rintro rfl
    simp only [List.append_assoc, List.singleton_append, List.map_append, List.map_cons,
      List.nodup_append, List.nodup_cons, List.mem_cons] at hnodup
    obtain ⟨-, ⟨hafter, -⟩, hbefore⟩ := hnodup
    rcases List.mem_append.mp hmem with hmem | hmem
    · exact hbefore _ (List.mem_map_of_mem hmem) _ (.inl rfl) rfl
    · exact hafter (List.mem_map_of_mem hmem)
  rw [Roster.entries_erase, hsound.outstanding, hpending, hset, hreplacement,
    Option.toList_none, List.append_nil, List.filter_append, List.filter_append,
    List.filter_cons_of_neg (by simp), List.filter_nil, List.append_nil, ← List.filter_append,
    List.filter_eq_self.mpr hkeep]

/-- Settling a place that is settled already changes no pending entry. -/
theorem pending_set_of_settled {house : Gatehouse} {place : Nat} {handshake : Handshake}
    (h : house.handshake? place = some handshake) (hentry : handshake.entry? = none)
    (gate : Gate) {replacement : Option Handshake}
    (hreplacement : replacement.bind entry? = none) :
    (Gatehouse.mk gate (house.places.set place replacement)).pending = house.pending := by
  obtain ⟨before, after, hpending, hset⟩ := exists_pending_set h
  rw [hset, hpending, hreplacement, hentry]

/-- A live handshake after a place was changed stands in that place or stood where it
stands before. -/
theorem handshake?_set {house : Gatehouse} {gate : Gate} {place other : Nat}
    {replacement : Option Handshake} {handshake : Handshake}
    (h : (Gatehouse.mk gate (house.places.set place replacement)).handshake? other =
      some handshake) :
    replacement = some handshake ∨ house.handshake? other = some handshake := by
  rw [handshake?_eq_some_iff] at h ⊢
  rw [List.getElem?_set] at h
  split at h
  · split at h
    · exact .inl (Option.some.inj h)
    · cases h
  · exact .inr h

/-- Before anybody comes there is nothing outstanding and nobody to wait for. -/
theorem sound_ofPolicy (policy : Policy) : (ofPolicy policy).Sound where
  outstanding := rfl
  anonymous _ := rfl
  started place handshake h := by simp [handshake?, ofPolicy] at h

/-- Opening a handshake. Its entry joins the roster and the pending entries at their
ends. -/
theorem sound_opened {house : Gatehouse} (hsound : house.Sound) (connection : String)
    (now : Moment) (draws : List Nonce.Draw) :
    (house.step (.opened connection now draws)).Sound := by
  rw [step]
  split
  · exact hsound
  next handshake gate rest hopen =>
    have hpending : ∀ places gate, (Gatehouse.mk gate (places ++ [some handshake])).pending =
        entriesOf places ++ handshake.entry?.toList := by
      intro places gate
      rw [pending, entriesOf_append, entriesOf_cons]
      exact congrArg _ (List.append_nil _)
    -- Every place but the last is an old one.
    have hstarted : handshake.stage ≠ .awaiting → ∀ place other,
        (Gatehouse.mk gate (house.places ++ [some handshake])).handshake? place = some other →
          other.stage ≠ .awaiting := by
      intro hstage place other h
      rw [handshake?_eq_some_iff, List.getElem?_append] at h
      split at h
      · exact hsound.started place other (handshake?_eq_some_iff.mpr h)
      · rw [List.getElem?_singleton] at h
        split at h
        · cases h
          exact hstage
        · cases h
    rcases Gate.open?_cases hopen with ⟨nonce, hrequired, hfresh, rfl, rfl⟩ | ⟨hrequired, rfl, rfl⟩
    · refine ⟨?_, fun hnot => ?_, hstarted nofun⟩
      · rw [hpending, Roster.entries_add _ hfresh, hsound.outstanding]
        rfl
      · exact nomatch hrequired.symm.trans hnot
    · refine ⟨?_, fun hnot => ?_, hstarted nofun⟩
      · rw [hpending, hsound.outstanding]
        exact (List.append_nil _).symm
      · rw [hpending]
        exact (List.append_nil _).trans (hsound.anonymous hnot)

/-- The invariant over a change of one place that leaves no unanswered handshake there:
the gate has lost that place's entry, if it had one. -/
theorem sound_set {house : Gatehouse} (hsound : house.Sound) {place : Nat}
    {handshake : Handshake} (h : house.handshake? place = some handshake) {gate : Gate}
    (hpolicy : gate.policy = house.gate.policy) {replacement : Option Handshake}
    (hreplacement : replacement.bind entry? = none)
    (hstarted : ∀ other, replacement = some other → other.stage ≠ .awaiting)
    (hgate : gate.outstanding =
      match handshake.entry? with
      | some (nonce, _) => house.gate.outstanding.erase nonce
      | none => house.gate.outstanding) :
    (Gatehouse.mk gate (house.places.set place replacement)).Sound := by
  refine ⟨?_, fun hnot => ?_, fun other handshake' h' => ?_⟩
  -- The entries of the places lose that of this place, if it had one, as the gate did.
  · cases hentry : handshake.entry? with
    | none =>
      rw [pending_set_of_settled h hentry _ hreplacement, ← hsound.outstanding, hgate, hentry]
    | some entry =>
      rw [pending_set_settled hsound h hentry _ hreplacement, hgate, hentry]
  · obtain ⟨before, after, hpending, hset⟩ := exists_pending_set h
    have hnil : house.pending = [] := hsound.anonymous (hpolicy ▸ hnot)
    rw [hpending] at hnil
    simp only [List.append_eq_nil_iff] at hnil
    rw [hset, hreplacement, hnil.1.1, hnil.2]
    rfl
  · rcases handshake?_set h' with hnew | hold
    · exact hstarted handshake' hnew
    · exact hsound.started other handshake' hold

/-- A settled handshake has no entry any more, whatever the verdict was. -/
theorem entry?_stage_settled (handshake : Handshake) (verdict : Except Refusal Identity) :
    entry? { handshake with stage := settled verdict } = none := by
  cases verdict <;> rfl

/-- What an answer or a drop does to the roster: an unanswered handshake loses its own
entry, whatever the verdict; a settled one leaves the roster alone. -/
theorem outstanding_step {house : Gatehouse} (hsound : house.Sound) {place : Nat}
    {handshake : Handshake} (h : house.handshake? place = some handshake) {event : Event}
    (hevent : event.place? = some place) :
    (house.step event).gate.outstanding =
      match handshake.entry? with
      | some (nonce, _) => house.gate.outstanding.erase nonce
      | none => house.gate.outstanding := by
  have hstage : ∀ {nonce issue}, handshake.entry? = some (nonce, issue) →
      handshake.stage = .nonceIssued nonce issue.issuedAt :=
    fun hentry => (entry?_eq_some_iff.mp hentry).2
  -- Handshakes at a place have begun, so one without an entry is settled.
  have hstarted : handshake.stage ≠ .awaiting := hsound.started place handshake h
  cases event with
  | opened connection now draws => cases hevent
  | answered place' request now =>
    cases hevent
    rw [step_answered h]
    cases hentry : handshake.entry? with
    | none => rw [Gate.answer_settled request now hentry hstarted]
    | some entry => rw [Gate.answer_nonceIssued request now (hstage hentry)]
  | dropped place' =>
    cases hevent
    rw [step_dropped h]
    cases hentry : handshake.entry? with
    | none => rw [Gate.abandon_settled hentry]
    | some entry => rw [Gate.abandon_nonceIssued (hstage hentry)]

/-- No event changes the policy. -/
theorem policy_step (house : Gatehouse) (event : Event) :
    (house.step event).gate.policy = house.gate.policy := by
  cases event with
  | opened connection now draws =>
    rw [step]
    split
    · rfl
    next handshake gate rest hopen =>
      rcases Gate.open?_cases hopen with ⟨nonce, -, -, -, rfl⟩ | ⟨-, -, rfl⟩ <;> rfl
  | answered place request now =>
    cases h : house.handshake? place with
    | none => rw [step, h]
    | some handshake => rw [step_answered h, Gate.policy_answer]
  | dropped place =>
    cases h : house.handshake? place with
    | none => rw [step, h]
    | some handshake => rw [step_dropped h, Gate.policy_abandon]

/-- Every event keeps the invariant. -/
theorem sound_step {house : Gatehouse} (hsound : house.Sound) (event : Event) :
    (house.step event).Sound := by
  cases event with
  | opened connection now draws => exact sound_opened hsound connection now draws
  | answered place request now =>
    cases h : house.handshake? place with
    | none => rwa [step, h]
    | some handshake =>
      have hpolicy := policy_step house (.answered place request now)
      have hgate := outstanding_step hsound h
        (show (Event.answered place request now).place? = some place from rfl)
      have hstarted := hsound.started place handshake h
      rw [step_answered h] at hpolicy hgate ⊢
      cases hentry : handshake.entry? with
      | none =>
        rw [Gate.answer_settled request now hentry hstarted] at hpolicy hgate ⊢
        exact sound_set hsound h hpolicy hentry (fun other heq => Option.some.inj heq ▸ hstarted)
          hgate
      | some entry =>
        rw [Gate.answer_nonceIssued request now (entry?_eq_some_iff.mp hentry).2]
          at hpolicy hgate ⊢
        -- The verdict settles the stage whichever it is, so the place has no entry left.
        refine sound_set hsound h hpolicy (entry?_stage_settled handshake _) ?_ hgate
        rintro other heq
        cases heq
        cases Gate.judge _ _ _ _ _ _ <;> nofun
  | dropped place =>
    cases h : house.handshake? place with
    | none => rwa [step, h]
    | some handshake =>
      have hpolicy := policy_step house (.dropped place)
      have hgate := outstanding_step hsound h
        (show (Event.dropped place).place? = some place from rfl)
      rw [step_dropped h] at hpolicy hgate ⊢
      exact sound_set hsound h hpolicy rfl nofun hgate

/-- Every run keeps the invariant. The induction is on the events, from any gatehouse
that has it. -/
theorem sound_foldl {house : Gatehouse} (hsound : house.Sound) (events : List Event) :
    (events.foldl step house).Sound := by
  induction events generalizing house with
  | nil => exact hsound
  | cons event rest ih => exact ih (sound_step hsound event)

/-- By induction, every run keeps the roster and the places in agreement. -/
theorem sound_run (policy : Policy) (events : List Event) : (run policy events).Sound :=
  sound_foldl (sound_ofPolicy policy) events

/-- No run changes the policy. -/
theorem policy_run (policy : Policy) (events : List Event) :
    (run policy events).gate.policy = policy := by
  suffices h : ∀ house : Gatehouse, (events.foldl step house).gate.policy = house.gate.policy from
    h (ofPolicy policy)
  induction events with
  | nil => exact fun _ => rfl
  | cons event rest ih => exact fun house => (ih _).trans (policy_step house event)

/-- The roster holds the nonce of an unanswered handshake, under the handshake's own
connection and time of issue. -/
theorem find?_outstanding {house : Gatehouse} (hsound : house.Sound) {place : Nat}
    {handshake : Handshake} (h : house.handshake? place = some handshake) {nonce : String}
    {issue : Issue} (hentry : handshake.entry? = some (nonce, issue)) :
    house.gate.outstanding.find? nonce = some issue := by
  rw [Roster.find?_eq_some_iff, hsound.outstanding]
  obtain ⟨before, after, hpending, -⟩ := exists_pending_set h
  rw [hpending, hentry]
  simp

/-- The roster holds nothing that no unanswered handshake accounts for. -/
theorem exists_handshake_of_find? {house : Gatehouse} (hsound : house.Sound) {nonce : String}
    {issue : Issue} (h : house.gate.outstanding.find? nonce = some issue) :
    ∃ place handshake, house.handshake? place = some handshake ∧
      handshake.entry? = some (nonce, issue) := by
  rw [Roster.find?_eq_some_iff, hsound.outstanding, pending, entriesOf, List.mem_filterMap] at h
  obtain ⟨slot, hmem, hslot⟩ := h
  obtain ⟨handshake, rfl, hentry⟩ := Option.bind_eq_some_iff.mp hslot
  obtain ⟨place, hplace⟩ := List.mem_iff_getElem?.mp hmem
  exact ⟨place, handshake, handshake?_eq_some_iff.mpr hplace, hentry⟩

/-- No two places hold the same unanswered nonce. Emptying the one place takes the nonce
out of the roster, which would leave the other without its entry. -/
theorem place_eq_of_entry? {house : Gatehouse} (hsound : house.Sound) {place place' : Nat}
    {handshake handshake' : Handshake} (h : house.handshake? place = some handshake)
    (h' : house.handshake? place' = some handshake') {nonce : String} {issue issue' : Issue}
    (hentry : handshake.entry? = some (nonce, issue))
    (hentry' : handshake'.entry? = some (nonce, issue')) : place = place' := by
  refine Decidable.byContradiction fun hne => ?_
  have hdropped : (house.step (.dropped place)).Sound := sound_step hsound (.dropped place)
  have hkept : (house.step (.dropped place)).handshake? place' = some handshake' := by
    rw [step_dropped h, handshake?_eq_some_iff, List.getElem?_set_ne hne]
    exact handshake?_eq_some_iff.mp h'
  have hfound := find?_outstanding hdropped hkept hentry'
  rw [outstanding_step hsound h rfl, hentry, Roster.find?_erase, if_pos rfl] at hfound
  cases hfound

/-- **The nonces that are outstanding after any run.**

The roster holds an entry under a nonce exactly when a live handshake is unanswered with
that nonce, and the entry is that handshake's connection and time of issue. No two live
handshakes are unanswered with the same nonce, so the size of the roster is the number
of unanswered ones; it is zero where clients need not prove who they are. No handshake
is seen before its nonce was issued.

An answer or a drop takes exactly its own entry out as long as the handshake is
unanswered, and nothing once it is settled, whoever drew the same nonce since. -/
theorem outstanding_run (policy : Policy) (events : List Event) :
    let house := run policy events
    (∀ nonce issue, house.gate.outstanding.find? nonce = some issue ↔
      ∃ place handshake, house.handshake? place = some handshake ∧
        handshake.connection = issue.connection ∧
        handshake.stage = .nonceIssued nonce issue.issuedAt) ∧
    (∀ place place' handshake handshake' nonce issuedAt issuedAt',
      house.handshake? place = some handshake → house.handshake? place' = some handshake' →
      handshake.stage = .nonceIssued nonce issuedAt →
      handshake'.stage = .nonceIssued nonce issuedAt' → place = place') ∧
    house.gate.outstanding.size = house.places.countP (fun place => place.any isUnanswered) ∧
    (policy.authRequired = false → house.gate.outstanding.size = 0) ∧
    (∀ place handshake, house.handshake? place = some handshake →
      handshake.stage ≠ .awaiting) ∧
    (∀ place handshake event, house.handshake? place = some handshake →
      event.place? = some place →
      match handshake.stage with
      | .nonceIssued nonce issuedAt =>
        house.gate.outstanding.find? nonce = some ⟨handshake.connection, issuedAt⟩ ∧
          ∀ other, (house.step event).gate.outstanding.find? other =
            if other = nonce then none else house.gate.outstanding.find? other
      | _ => (house.step event).gate.outstanding = house.gate.outstanding) := by
  intro house
  have hsound : house.Sound := sound_run policy events
  have hentry : ∀ {handshake : Handshake} {nonce issuedAt},
      handshake.stage = .nonceIssued nonce issuedAt →
        handshake.entry? = some (nonce, ⟨handshake.connection, issuedAt⟩) :=
    fun hstage => entry?_eq_some_iff.mpr ⟨rfl, hstage⟩
  have hsize : house.gate.outstanding.size = house.pending.length := by
    rw [Roster.size, hsound.outstanding]
  refine ⟨fun nonce issue => ⟨fun h => ?_, ?_⟩, ?_, ?_, fun hnot => ?_, hsound.started, ?_⟩
  · obtain ⟨place, handshake, hplace, hown⟩ := exists_handshake_of_find? hsound h
    exact ⟨place, handshake, hplace, entry?_eq_some_iff.mp hown⟩
  · rintro ⟨place, handshake, hplace, hown⟩
    exact find?_outstanding hsound hplace (entry?_eq_some_iff.mpr hown)
  · intro place place' handshake handshake' nonce issuedAt issuedAt' h h' hstage hstage'
    exact place_eq_of_entry? hsound h h' (hentry hstage) (hentry hstage')
  -- The entries are read off the places, so their number is that of the unanswered
  -- handshakes.
  · rw [hsize, pending, entriesOf, List.length_filterMap_eq_countP]
    congr 1
    funext place
    cases place <;> rfl
  -- A policy that asks for nothing issues nothing, and no event changes the policy.
  · have hpolicy := congrArg Policy.authRequired (policy_run policy events)
    rw [hsize, hsound.anonymous (hpolicy.trans hnot)]
    rfl
  · intro place handshake event h hevent
    have hstep := outstanding_step hsound h hevent
    split
    next nonce issuedAt hstage =>
      rw [hentry hstage] at hstep
      refine ⟨find?_outstanding hsound h (hentry hstage), fun other => ?_⟩
      rw [hstep, Roster.find?_erase]
    -- A settled handshake has no entry, so there is nothing to take out.
    next hother =>
      have hnone : handshake.entry? = none := by
        unfold entry?
        split
        next nonce issuedAt hstage => exact absurd hstage (hother nonce issuedAt)
        next => rfl
      rw [hstep, hnone]

end Gatehouse

end Gatekeeper.Handshake
