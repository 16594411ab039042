import Gatekeeper.Proofs.Session.Watch
import Gatekeeper.Proofs.Time.Timestamp

/-!
# `Gatekeeper.Proofs.Session.Zombie`: who counts as a zombie

A sweep that begins at some time retires whom it finds silent since before its cutoff, and it
looks twice: its query lists the stale records, and its update judges each listed record again.
Meanwhile clients may be heard of. On a clock that never goes back such a sign of life is no
earlier than the beginning of the sweep, so a record that is stale at the update was stale, and
listed, at the query. The update therefore retires exactly the records that are stale then.

* `Condemned`: a sweep did its query and its update, and by then the latest time that the session
  had recorded was before the cutoff.
* `tracks_run`: a record is inactive exactly if its connection was condemned.
* `zombies_run`: the same for a lobby from its start, with what follows for clients that are
  heard of in time, and for a retired client's next ping.
-/

set_option autoImplicit false

namespace Gatekeeper.Session

open Gatekeeper.Handshake Gatekeeper.Ledger Gatekeeper.Sweep

variable {rule : Rule}

/-- The cutoff of a sweep lies the rule's silence before its beginning. -/
theorem Round.cutoff_eq (round : Round rule) :
    ∃ silence, rule.staleAfter? = some silence ∧
      round.bounds.cutoff = round.time.before silence := by
  obtain ⟨silence, hsilence, hbounds⟩ := Option.map_eq_some_iff.mp round.ruled
  exact ⟨silence, hsilence, by rw [← hbounds]⟩

/-- No cutoff is after the reading of the clock that it was made of. -/
theorem Round.cutoff_le (round : Round rule) : round.bounds.cutoff ≤ round.time := by
  obtain ⟨silence, -, hcutoff⟩ := round.cutoff_eq
  rw [hcutoff]
  exact Timestamp.before_le _ _

namespace Watch

/-! ### Sweeps that judge -/

/-- A sweep whose query and whose update of connections both succeeded, in the course of some
events. -/
structure Judgement (start : Watch rule) (events : List Event) where
  /-- The events before the query. -/
  front : List Event
  /-- The failures at the query. -/
  query : Call → Option Fault
  /-- The events between the query and the update. -/
  middle : List Event
  /-- The failures at the update. -/
  update : Call → Option Fault
  back : List Event
  /-- The sweep at its update. -/
  round : Round rule
  stale : List String
  events_eq : events = front ++ .passed query :: middle ++ .passed update :: back
  queried : (start.run front).QueryDue round.time
  found : query .findStale = none
  between : ∀ event ∈ middle, event.isPass = false
  due : (start.run (front ++ .passed query :: middle)).UpdateDue round stale
  updated : update .deactivateConnections = none

/-- The latest time that the session of a connection had recorded at the update. -/
def Judgement.recorded? {start : Watch rule} {events : List Event}
    (judgement : Judgement start events) (id : String) : Option Timestamp :=
  (start.run (judgement.front ++ .passed judgement.query :: judgement.middle)).recorded? id

/-- A sweep did its query and its update, and at the update the latest time that the session of a
connection had recorded was before the beginning of the sweep by more than the rule's silence. -/
def Condemned (start : Watch rule) (events : List Event) (id : String) : Prop :=
  ∃ (judgement : Judgement start events) (at_ : Timestamp) (silence : Duration),
    judgement.recorded? id = some at_ ∧ rule.staleAfter? = some silence ∧
      at_ < judgement.round.time.before silence

/-- The event is an update of connections that succeeds, and the latest time that the session
recorded is before the cutoff. -/
def Condemns (watch : Watch rule) (id : String) (event : Event) : Prop :=
  ∃ failing round stale at_, event = .passed failing ∧ watch.UpdateDue round stale ∧
    failing .deactivateConnections = none ∧ watch.recorded? id = some at_ ∧
    at_ < round.bounds.cutoff

variable {start : Watch rule} {events : List Event} {event : Event} {id : String}

/-- Only an update of connections condemns. -/
theorem not_condemns_of_not_updates {watch : Watch rule} (h : ¬watch.Updates event) :
    ¬watch.Condemns id event := by
  rintro ⟨failing, round, stale, at_, heq, hdue, hcalm, -⟩
  exact h ⟨failing, round, stale, heq, hdue, hcalm⟩

/-- The query before an update that is due. -/
def Queried (start : Watch rule) (events : List Event) (round : Round rule) : Prop :=
  ∃ front query middle, events = front ++ .passed query :: middle ∧
    (start.run front).QueryDue round.time ∧ query .findStale = none ∧
    ∀ event ∈ middle, event.isPass = false

/-- An event among some events and one more is the last one, or among those before. -/
theorem concat_eq_append_cons {front back : List Event} {last : Event}
    (h : events ++ [last] = front ++ event :: back) :
    (events = front ∧ event = last ∧ back = []) ∨
      ∃ back', back = back' ++ [last] ∧ events = front ++ event :: back' := by
  obtain rfl | ⟨back', last', rfl⟩ := List.eq_nil_or_concat back
  · obtain ⟨hevents, hlast⟩ := List.append_inj' h rfl
    exact .inl ⟨hevents, (List.singleton_inj.mp hlast).symm, rfl⟩
  · rw [List.concat_eq_append, ← List.cons_append, ← List.append_assoc] at h
    obtain ⟨hevents, hlast⟩ := List.append_inj' h rfl
    rw [List.concat_eq_append, List.singleton_inj.mp hlast]
    exact .inr ⟨back', rfl, hevents⟩

/-- Who is condemned in the course of some events was so before the last of them, or is
condemned by it. -/
theorem condemned_concat_iff
    (hqueried : ∀ round stale, (start.run events).UpdateDue round stale →
      Queried start events round) :
    Condemned start (events ++ [event]) id ↔
      Condemned start events id ∨ (start.run events).Condemns id event := by
  constructor
  · rintro ⟨judgement, at_, silence, hrecorded, hsilence, hbefore⟩
    obtain ⟨front, query, middle, update, back, round, stale, heq, hquery, hfound, hbetween, hdue,
      hupdated⟩ := judgement
    unfold Judgement.recorded? at hrecorded
    dsimp only at hrecorded hbefore
    obtain ⟨hevents, hevent, -⟩ | ⟨back', -, hevents⟩ := concat_eq_append_cons heq
    · -- The update is the last event.
      obtain ⟨silence', hsilence', hcutoff⟩ := round.cutoff_eq
      cases hsilence.symm.trans hsilence'
      rw [← hevents] at hdue hrecorded
      rw [← hcutoff] at hbefore
      exact .inr ⟨update, round, stale, at_, hevent.symm, hdue, hupdated, hrecorded, hbefore⟩
    · exact .inl ⟨⟨front, query, middle, update, back', round, stale, hevents, hquery, hfound,
        hbetween, hdue, hupdated⟩, at_, silence, hrecorded, hsilence, hbefore⟩
  · rintro (⟨judgement, at_, silence, hrecorded, hsilence, hbefore⟩ |
      ⟨update, round, stale, at_, rfl, hdue, hupdated, hrecorded, hbefore⟩)
    · refine ⟨{ judgement with back := judgement.back ++ [event], events_eq := ?_ }, at_, silence,
        hrecorded, hsilence, hbefore⟩
      rw [← List.cons_append, ← List.append_assoc, ← judgement.events_eq]
    · obtain ⟨front, query, middle, heq, hquery, hfound, hbetween⟩ := hqueried round stale hdue
      obtain ⟨silence, hsilence, hcutoff⟩ := round.cutoff_eq
      rw [heq] at hdue hrecorded
      refine ⟨⟨front, query, middle, update, [], round, stale, by rw [heq], hquery, hfound,
        hbetween, hdue, hupdated⟩, at_, silence, hrecorded, hsilence, ?_⟩
      rw [← hcutoff]
      exact hbefore

/-! ### The clock -/

/-- A clock that never goes back does not go back in the first part of a run. -/
theorem Timely.of_append {front back : List Event} (h : Timely (front ++ back)) :
    Timely front := by
  unfold Timely at h ⊢
  rw [List.filterMap_append] at h
  exact (List.pairwise_append.mp h).1

/-- A reading is no earlier than those before it. -/
theorem Timely.le {event' : Event} (h : Timely (events ++ [event])) (hmem : event' ∈ events)
    {earlier later : Timestamp} (hearlier : event'.reading? = some earlier)
    (hlater : event.reading? = some later) : earlier ≤ later := by
  unfold Timely at h
  rw [List.filterMap_append] at h
  have hle := (List.pairwise_append.mp h).2.2
  refine hle earlier (List.mem_filterMap.mpr ⟨event', hmem, hearlier⟩) later ?_
  exact List.mem_filterMap.mpr ⟨event, List.mem_singleton_self _, hlater⟩

/-- The sweep that is under way began at a reading of the clock. -/
def Begun (start : Watch rule) (events : List Event) : Prop :=
  ∀ round, (start.run events).round = some round →
    ∃ event ∈ events, event.reading? = some round.time

/-- The sweep that is under way after one more event began with that event or before. -/
theorem begun_concat (h : Begun start events) (event : Event) :
    Begun start (events ++ [event]) := by
  intro round hround
  rw [run_concat] at hround
  -- A sweep that goes on keeps its beginning.
  have hold : ∀ before, (start.run events).round = some before → round.time = before.time →
      ∃ event' ∈ events ++ [event], event'.reading? = some round.time := by
    intro before hbefore htime
    obtain ⟨event', hmem, hreading⟩ := h before hbefore
    exact ⟨event', List.mem_append_left _ hmem, htime ▸ hreading⟩
  obtain ⟨-, hbefore⟩ | ⟨hbegan, -, -⟩ | ⟨failing, before, -, hbefore, htime, -, -⟩ :=
    round_step hround
  · exact hold round hbefore rfl
  · exact ⟨event, List.mem_append_right _ (List.mem_singleton_self _), by rw [hbegan]; rfl⟩
  · exact hold before hbefore htime

/-- What a session records while a sweep is under way is not before the cutoff. -/
theorem cutoff_le_reading (hbegun : Begun start events) (htimely : Timely (events ++ [event]))
    {round : Round rule} (hround : (start.run events).round = some round) {now : Timestamp}
    (hnow : event.reading? = some now) : round.bounds.cutoff ≤ now := by
  obtain ⟨event', hmem, hreading⟩ := hbegun round hround
  exact Timestamp.le_trans round.cutoff_le (htimely.le hmem hreading hnow)

/-! ### Exactness -/

/-- What a run keeps about one connection, on a clock that never goes back. -/
structure Tracks (start : Watch rule) (events : List Event) (id : String) : Prop where
  sound : (start.run events).Sound
  agrees : (start.run events).Agrees id
  begun : Begun start events
  queried : ∀ round stale, (start.run events).UpdateDue round stale → Queried start events round
  /-- An update that is due has all records in its list that are stale by then. -/
  listed : ∀ round stale record, (start.run events).UpdateDue round stale →
    (start.run events).record? id = some record → record.isStale round.bounds.cutoff = true →
    id ∈ stale
  exact : (start.run events).IsRetired id ↔ Condemned start events id

/-- An update that is due after one more event has its query among these events: none comes due but
by a query that succeeded, and nothing but the update itself ends its wait. -/
theorem queried_concat
    (h : ∀ round stale, (start.run events).UpdateDue round stale → Queried start events round)
    {round : Round rule} {stale : List String}
    (hdue : (start.run (events ++ [event])).UpdateDue round stale) :
    Queried start (events ++ [event]) round := by
  rw [run_concat] at hdue
  obtain ⟨hplain, hbefore⟩ | ⟨query, rfl, hquery, hfound, -, -⟩ := due_step hdue
  · obtain ⟨front, query, middle, heq, hquery, hfound, hbetween⟩ := h round stale hbefore
    refine ⟨front, query, middle ++ [event], by rw [heq]; simp, hquery, hfound, ?_⟩
    intro event' hmem
    obtain hmem | hmem := List.mem_append.mp hmem
    · exact hbetween event' hmem
    · rw [List.mem_singleton.mp hmem]
      exact hplain
  · exact ⟨events, query, [], rfl, hquery, hfound, List.forall_mem_nil _⟩

/-- A record that is stale when an update is due was listed by the query. Signs of life and new
records since then have times from the beginning of the sweep on. -/
theorem listed_concat (h : Tracks start events id) (htimely : Timely (events ++ [event]))
    {round : Round rule} {stale : List String} {record : Connection}
    (hdue : (start.run (events ++ [event])).UpdateDue round stale)
    (hrecord : (start.run (events ++ [event])).record? id = some record)
    (hstale : record.isStale round.bounds.cutoff = true) : id ∈ stale := by
  rw [run_concat] at hdue hrecord
  obtain ⟨hplain, hbefore⟩ | ⟨query, rfl, -, -, hlist, hledger⟩ := due_step hdue
  · have hfresh : ∀ now, event.reading? = some now → ¬now < round.bounds.cutoff := by
      intro now hnow
      exact cutoff_le_reading h.begun htimely hbefore.1 hnow
    -- So what the event records is not stale, and a record that is was there before it.
    have hsilent := (Connection.isStale_iff.mp hstale).2
    have heffect := effect_step h.sound id event
    rw [hrecord] at heffect
    generalize ((start.run events).step event).recorded? id = recorded at heffect
    generalize hafter : some record = after at heffect
    cases heffect with
    | still => exact h.listed round stale record hbefore hafter.symm hstale
    | stored | heard =>
      cases hafter
      exact absurd hsilent (hfresh _ rfl)
    | updated => cases hplain
  · have hfound : (start.run events).record? id = some record := by
      rw [record?, ← hledger]
      exact hrecord
    rw [hlist, mem_stale_iff h.sound.filed]
    exact ⟨record, hfound, hstale⟩

/-- An update that is due retires a record exactly if it is stale then. -/
theorem isRetired_updated (h : Tracks start events id) {round : Round rule} {stale : List String}
    (hdue : (start.run events).UpdateDue round stale) {record : Connection}
    (hrecord : (start.run events).record? id = some record) :
    (if id ∈ stale then record.liveFrom round.bounds.cutoff else record).isActive = false ↔
      record.isActive = false ∨ record.lastHeartbeat < round.bounds.cutoff := by
  cases hactive : record.isActive with
  | false =>
    split
    · simp [Connection.liveFrom, hactive]
    · simp [hactive]
  | true =>
    by_cases hsilent : record.lastHeartbeat < round.bounds.cutoff
    -- A silent record is on the list, for it was silent already when the list was made.
    · have hstale : record.isStale round.bounds.cutoff = true :=
        Connection.isStale_iff.mpr ⟨hactive, hsilent⟩
      rw [if_pos (h.listed round stale record hdue hrecord hstale),
        Connection.liveFrom_of_isStale hstale]
      simp [hsilent]
    · have hkeep : record.isStale round.bounds.cutoff = false := by
        simp [Connection.isStale, hsilent]
      rw [Connection.liveFrom_of_not_isStale hkeep, ite_self, hactive]
      simp [hsilent]

/-- One event more retires a connection exactly if it condemns it. -/
theorem isRetired_concat_iff (h : Tracks start events id) (event : Event) :
    (start.run (events ++ [event])).IsRetired id ↔
      (start.run events).IsRetired id ∨ (start.run events).Condemns id event := by
  have heffect := effect_step h.sound id event
  have hagrees := h.agrees
  unfold Agrees at hagrees
  rw [run_concat]
  unfold IsRetired
  generalize ((start.run events).step event).recorded? id = recorded,
    ((start.run events).step event).record? id = after at heffect ⊢
  cases heffect with
  | still hother =>
    have hcalm : ¬(start.run events).Condemns id event := not_condemns_of_not_updates hother
    simp [hcalm]
  | @stored scene turn fresh =>
    -- There was no record yet, and the new one is active.
    rw [fresh] at hagrees
    have hnone : (start.run events).record? id = none := by
      simpa using hagrees.symm
    have hcalm : ¬(start.run events).Condemns id (.turned id scene turn) :=
      not_condemns_of_not_updates (not_updates_of_not_isPass rfl)
    simp [hnone, hcalm]
  | @heard scene turn record found =>
    have hcalm : ¬(start.run events).Condemns id (.turned id scene turn) :=
      not_condemns_of_not_updates (not_updates_of_not_isPass rfl)
    simp [found, hcalm]
  | @updated failing round stale due calm =>
    -- Only one sweep is under way, so the update that condemns is this one.
    have hcondemns : (start.run events).Condemns id (.passed failing) ↔
        ∃ at_, (start.run events).recorded? id = some at_ ∧ at_ < round.bounds.cutoff := by
      constructor
      · rintro ⟨failing', round', stale', at_, -, ⟨hround, -⟩, -, hrecorded, hbefore⟩
        cases hround.symm.trans due.1
        exact ⟨at_, hrecorded, hbefore⟩
      · rintro ⟨at_, hrecorded, hbefore⟩
        exact ⟨failing, round, stale, at_, rfl, due, calm, hrecorded, hbefore⟩
    rw [hcondemns, hagrees]
    cases hrecord : (start.run events).record? id with
    | none => simp
    | some record => simp [isRetired_updated h due hrecord]

/-- One more event keeps all that a run keeps about a connection. -/
theorem tracks_concat (h : Tracks start events id) (htimely : Timely (events ++ [event])) :
    Tracks start (events ++ [event]) id where
  sound := by
    rw [run_concat]
    exact sound_step h.sound event
  agrees := by
    rw [run_concat]
    exact agrees_step h.sound h.agrees event
  begun := begun_concat h.begun event
  queried _ _ hdue := queried_concat h.queried hdue
  listed _ _ _ hdue hrecord hstale := listed_concat h htimely hdue hrecord hstale
  exact := by
    rw [isRetired_concat_iff h event, h.exact, condemned_concat_iff h.queried]

/-- Before anything happens, a connection without a record was not condemned. -/
theorem tracks_nil (hsound : start.Sound) (hagrees : start.Agrees id) (hidle : start.round = none)
    (hfresh : start.record? id = none) : Tracks start [] id where
  sound := hsound
  agrees := hagrees
  begun round hround := by
    cases hidle.symm.trans hround
  queried round stale hdue := by
    cases hidle.symm.trans hdue.1
  listed round stale record hdue := by
    cases hidle.symm.trans hdue.1
  exact := by
    constructor
    · rintro ⟨record, hrecord, -⟩
      cases hfresh.symm.trans hrecord
    · rintro ⟨judgement, -⟩
      have hnil := judgement.events_eq
      simp at hnil

/-- The same at the start of a watch. -/
theorem tracks_start (rule : Rule) (maxLine : UInt64) (policy : Policy) {ledger : Ledger}
    (authThrottle storeThrottle acceptThrottle : Throttle) (metrics : Metrics)
    (hfiled : ledger.Filed)
    (hfresh : ledger.connections.find? id = none) :
    Tracks (Watch.start rule maxLine policy ledger authThrottle storeThrottle acceptThrottle
      metrics) [] id := by
  refine tracks_nil ⟨Lobby.sound_start .., hfiled, ?_⟩ ?_ rfl hfresh
  · intro name seat hseat
    cases hseat
  · show none = (ledger.connections.find? id).map (·.lastHeartbeat)
    rw [hfresh]
    rfl

/-- More events on a clock that never goes back keep what a run keeps. -/
theorem tracks_run {more : List Event} (h : Tracks start events id)
    (htimely : Timely (events ++ more)) : Tracks start (events ++ more) id := by
  induction more generalizing events with
  | nil =>
    rw [List.append_nil]
    exact h
  | cons event rest ih =>
    rw [List.append_cons] at htimely ⊢
    exact ih (tracks_concat h htimely.of_append) htimely

/-- The record of a session that has recorded a time has that time, and is inactive exactly if
the connection was condemned. -/
theorem Tracks.exact_record (h : Tracks start events id) {at_ : Timestamp}
    (hrecorded : (start.run events).recorded? id = some at_) :
    ∃ isActive, (start.run events).record? id = some ⟨id, at_, isActive⟩ ∧
      (isActive = false ↔ Condemned start events id) := by
  have hmap := h.agrees
  unfold Agrees at hmap
  rw [hrecorded] at hmap
  obtain ⟨record, hrecord, htime⟩ := Option.map_eq_some_iff.mp hmap.symm
  have hid := h.sound.filed.connections id record hrecord
  -- The record has the id that it is filed under and the time that was recorded.
  obtain ⟨recordId, lastHeartbeat, isActive⟩ := record
  cases hid
  cases htime
  refine ⟨isActive, hrecord, ?_⟩
  rw [← h.exact]
  constructor
  · intro hinactive
    exact ⟨_, hrecord, hinactive⟩
  · rintro ⟨record, hfound, hinactive⟩
    cases hrecord.symm.trans hfound
    exact hinactive

/-! ### Clients that are heard of in time -/

/-- Whenever a sweep begins, the latest time that the session of the connection recorded is not
before the cutoff. -/
def Prompt (start : Watch rule) (events : List Event) (id : String) : Prop :=
  ∀ front now back silence at_, events = front ++ .began now :: back →
    (start.run front).round = none → rule.staleAfter? = some silence →
    (start.run front).recorded? id = some at_ → now.before silence ≤ at_

/-- Who is heard of in time over a run is so over its first part. -/
theorem Prompt.of_append {front back : List Event} (h : Prompt start (front ++ back) id) :
    Prompt start front id := by
  intro front' now back' silence at_ heq
  refine h front' now (back' ++ back) silence at_ ?_
  rw [heq]
  simp

/-- While a sweep is under way, the latest time that was recorded is not before its cutoff. -/
def Recent (watch : Watch rule) (id : String) : Prop :=
  ∀ round at_, watch.round = some round → watch.recorded? id = some at_ →
    round.bounds.cutoff ≤ at_

/-- One more event keeps the latest time that was recorded from the cutoff on: a sweep that begins
finds it so, and a session that records a time records a later one. -/
theorem recent_concat (hsound : (start.run events).Sound) (hbegun : Begun start events)
    (h : (start.run events).Recent id) (htimely : Timely (events ++ [event]))
    (hprompt : Prompt start (events ++ [event]) id) :
    (start.run (events ++ [event])).Recent id := by
  intro round at_ hround hrecorded
  rw [run_concat] at hround hrecorded
  have heffect := effect_step hsound id event
  rw [hrecorded] at heffect
  generalize ((start.run events).step event).record? id = record at heffect
  -- A time that was recorded just now is not before the sweep; one from before is as it was.
  have hcutoff : (∀ now, event.reading? = some now → round.bounds.cutoff ≤ now) →
      ((start.run events).recorded? id = some at_ → round.bounds.cutoff ≤ at_) →
      round.bounds.cutoff ≤ at_ := by
    intro hnow hold
    generalize hafter : some at_ = after at heffect
    cases heffect with
    | still => exact hold hafter.symm
    | stored | heard =>
      cases hafter
      exact hnow _ rfl
    | updated => exact hold hafter.symm
  obtain ⟨-, hbefore⟩ | ⟨rfl, hnone, -⟩ | ⟨failing, before, rfl, hbefore, -, hbounds, -⟩ :=
    round_step hround
  · exact hcutoff (fun now hnow => cutoff_le_reading hbegun htimely hbefore hnow)
      (h round at_ hbefore)
  · obtain ⟨silence, hsilence, heq⟩ := round.cutoff_eq
    refine hcutoff ?_ ?_
    · intro now hnow
      cases hnow
      exact round.cutoff_le
    · intro hold
      rw [heq]
      exact hprompt events round.time [] silence at_ rfl hnone hsilence hold
  · rw [hbounds] at hcutoff ⊢
    exact hcutoff (fun now hnow => by cases hnow) (h before at_ hbefore)

/-- So does any number of events more, by induction. -/
theorem recent_run {more : List Event} (h : Tracks start events id)
    (hrecent : (start.run events).Recent id) (htimely : Timely (events ++ more))
    (hprompt : Prompt start (events ++ more) id) : (start.run (events ++ more)).Recent id := by
  induction more generalizing events with
  | nil =>
    rw [List.append_nil]
    exact hrecent
  | cons event rest ih =>
    rw [List.append_cons] at htimely hprompt ⊢
    have hnext := recent_concat h.sound h.begun hrecent htimely.of_append hprompt.of_append
    exact ih (tracks_concat h htimely.of_append) hnext htimely hprompt

/-- Who is heard of in time is not condemned. -/
theorem not_condemned_of_prompt (h : Tracks start [] id) (hidle : start.round = none)
    (htimely : Timely events) (hprompt : Prompt start events id) : ¬Condemned start events id := by
  rintro ⟨judgement, at_, silence, hrecorded, hsilence, hbefore⟩
  have hrecent : (start.run []).Recent id := by
    intro round at_ hround
    cases hidle.symm.trans hround
  have hevents := judgement.events_eq
  rw [hevents] at htimely hprompt
  -- At the update of the judgement, the client was heard of since the cutoff.
  have hupdate := recent_run h hrecent htimely.of_append hprompt.of_append
  obtain ⟨silence', hsilence', hcutoff⟩ := judgement.round.cutoff_eq
  cases hsilence.symm.trans hsilence'
  have hle := hupdate judgement.round at_ judgement.due.1 hrecorded
  rw [hcutoff] at hle
  exact hle hbefore

/-! ### A retired client -/

/-- What the session of a retired connection gets done: a sign of life that storage takes is
answered by the farewell of a stale client, and so is the next ping. -/
theorem turn_of_isRetired {watch : Watch rule} (hsound : watch.Sound)
    (hretired : watch.IsRetired id) {seat : Seat}
    (hseat : watch.lobby.seats.find? id = some seat) (scene : Scene) (turn : Turn) :
    ∃ seat' acts, (watch.step (.turned id scene turn)).lobby.seats.find? id = some seat' ∧
      seat'.acts = seat.acts ++ acts ∧
      ((∃ connection at_ alive, .heard connection at_ (.ok alive) ∈ acts) ∨
          turn = .went ∧ seat.HearsPing watch.lobby.maxLine ∧
            scene.conditions.failing .recordHeartbeat = none →
        acts = [.heard id scene.instant (.ok false),
            .sent Farewell.stale.line scene.writable] ∧
          seat'.session.phase = .leaving) := by
  obtain ⟨record, hrecord, hinactive⟩ := hretired
  have hname := hsound.named id seat hseat
  have hfound : watch.lobby.shared.ledger.connections.find? seat.session.connection =
      some record := by
    rw [hname]
    exact hrecord
  have hleaving : ∀ line, (seat.session.write scene line .leaving).phase = .leaving := by
    intro line
    rw [phase_write, ite_self]
  obtain ⟨acts, hkeeping, hacts⟩ :=
    seat.keeping_turn watch.lobby.maxLine scene watch.lobby.shared turn
  refine ⟨(seat.turn watch.lobby.maxLine scene watch.lobby.shared turn).1, acts, ?_, hacts, ?_⟩
  · rw [step_turned hseat, Roster.find?_set, if_pos rfl]
  -- A sign of life was taken, or a ping is about to be.
  · rintro (⟨connection, at_, alive, hmem⟩ | ⟨rfl, hping, hcalm⟩)
    · generalize (seat.turn watch.lobby.maxLine scene watch.lobby.shared turn).1.session = session',
        (seat.turn watch.lobby.maxLine scene watch.lobby.shared turn).2.ledger = ledger'
        at hkeeping ⊢
      -- Of all that a turn may leave in the ledger, only a heartbeat is logged as one.
      cases hkeeping with
      | nothing hnone =>
        have hleft := List.filterMap_eq_nil_iff.mp hnone _ hmem
        cases hleft
      | stored => simp at hmem
      | heard due found =>
        cases hfound.symm.trans found
        rw [hinactive, hname]
        exact ⟨rfl, hleaving _⟩
    · obtain ⟨hlog, hsession⟩ := turn_ping hping hcalm hfound
      rw [hinactive] at hlog hsession
      rw [hname] at hlog
      rw [hsession]
      exact ⟨List.append_cancel_left (hacts.symm.trans hlog), hleaving _⟩

end Watch

/-- **Zombie detection is exact**, for any number of sessions under one sweeper, whatever their
clients send, whichever calls fail and wherever sessions get in between the passes of a sweep, on
a clock that never goes back. Take a connection without a record at the start.

* A session that serves its client has recorded a time. The record of the connection has the
  latest time that its session recorded, and it is inactive exactly if the connection was
  condemned: a sweep did its query and its update, and at the update that time lay before the
  beginning of the sweep by more than the rule's silence.
* A connection whose latest time is not before the cutoff whenever a sweep begins is active.
* A record that is inactive stays so. A sign of life of its client that storage takes, and so the
  client's next ping if storage is in order, is answered by the farewell of a stale client; then
  the session leaves, and with its next step it ends. -/
theorem zombies_run (rule : Rule) (maxLine : UInt64) (policy : Policy) {ledger : Ledger}
    (authThrottle storeThrottle acceptThrottle : Throttle) (metrics : Metrics)
    (hfiled : ledger.Filed)
    {events : List Watch.Event} (htimely : Watch.Timely events) (id : String)
    (hfresh : ledger.connections.find? id = none) :
    let start :=
      Watch.start rule maxLine policy ledger authThrottle storeThrottle acceptThrottle metrics
    let watch := start.run events
    (∀ seat, watch.lobby.seats.find? id = some seat → seat.session.phase = .serving →
      (watch.recorded? id).isSome) ∧
    (∀ at_, watch.recorded? id = some at_ → ∃ isActive,
      watch.record? id = some ⟨id, at_, isActive⟩ ∧
        (isActive = false ↔ Watch.Condemned start events id)) ∧
    (Watch.Prompt start events id → ∀ record, watch.record? id = some record →
      record.isActive = true) ∧
    (watch.IsRetired id → ∀ more,
      let later := watch.run more
      later.IsRetired id ∧ ∀ seat, later.lobby.seats.find? id = some seat →
        (∀ scene turn, ∃ seat' acts,
          (later.step (.turned id scene turn)).lobby.seats.find? id = some seat' ∧
          seat'.acts = seat.acts ++ acts ∧
          ((∃ connection at_ alive, .heard connection at_ (.ok alive) ∈ acts) ∨
              turn = .went ∧ seat.HearsPing later.lobby.maxLine ∧
                scene.conditions.failing .recordHeartbeat = none →
            acts = [.heard id scene.instant (.ok false),
                .sent Farewell.stale.line scene.writable] ∧
              seat'.session.phase = .leaving)) ∧
        (seat.session.phase = .leaving → ∀ scene, ∃ seat',
          (later.step (.turned id scene .went)).lobby.seats.find? id = some seat' ∧
            seat'.session.phase = .ended)) := by
  intro start watch
  have hnil : Watch.Tracks start [] id :=
    Watch.tracks_start rule maxLine policy authThrottle storeThrottle acceptThrottle metrics hfiled
      hfresh
  -- The invariant of the run carries the first two parts, and what sweeps did so far is in
  -- it.
  have htracks : Watch.Tracks start events id := Watch.tracks_run hnil htimely
  refine ⟨?_, ?_, ?_, ?_⟩
  · intro seat hseat hserving
    have hcourse := (htracks.sound.lobby.seats id seat hseat).course
    rw [hserving] at hcourse
    rw [Watch.recorded?_of_find? hseat]
    exact hcourse.recorded?_serving
  · intro at_ hrecorded
    exact htracks.exact_record hrecorded
  · intro hprompt record hrecord
    cases hactive : record.isActive with
    | true => rfl
    | false =>
      -- A prompt connection was never condemned, so it is not inactive.
      have hcondemned := htracks.exact.mp ⟨record, hrecord, hactive⟩
      exact absurd hcondemned (Watch.not_condemned_of_prompt hnil rfl htimely hprompt)
  · intro hretired more later
    have hlater : later.Sound := Watch.sound_run htracks.sound more
    have hstays : later.IsRetired id :=
      Watch.isRetired_run htracks.sound htracks.agrees hretired more
    refine ⟨hstays, ?_⟩
    intro seat hseat
    refine ⟨?_, ?_⟩
    · intro scene turn
      exact Watch.turn_of_isRetired hlater hstays hseat scene turn
    · intro hleaving scene
      refine ⟨(seat.turn later.lobby.maxLine scene later.lobby.shared .went).1, ?_,
        turn_leaving hleaving⟩
      rw [Watch.step_turned hseat, Roster.find?_set, if_pos rfl]

/-- A client that connects and is silent for 100 seconds, under a rule that allows 90. The sweep
that begins then condemns it, and its ping does not bring its record back. -/
theorem zombies_run_of_silence :
    let policy : Policy := ⟨false, [], ⟨[], []⟩, .ofSeconds 30, "O1"⟩
    let quota : Quota := ⟨1, .ofSeconds 1, 0, 0, 0, by decide, by decide, by decide⟩
    let late : Timestamp := ⟨100, 0, by decide, by decide, by decide, by decide⟩
    let scene (now : Timestamp) : Scene := ⟨0, now, .calm, true⟩
    let sends (now : Timestamp) (line : String) : List Watch.Event :=
      [.turned "c1" (scene now) (.arrived line.toUTF8.toList), .turned "c1" (scene now) .went]
    let goes : Watch.Event := .turned "c1" (scene .epoch) .went
    let calm : Watch.Event := .passed fun _ => none
    let events : List Watch.Event := .opened "c1" (scene .epoch) [] :: sends .epoch "CONNECT\n" ++
      [goes, goes, goes, .began late, calm, calm]
    let start : Watch .standard :=
      Watch.start .standard 64 policy .empty ⟨"auth", quota⟩ ⟨"store", quota⟩ ⟨"accept", quota⟩
        .empty
    Watch.Timely events ∧ Watch.Condemned start events "c1" ∧
      ((start.run events).run (sends late "PING\n")).IsRetired "c1" := by
  intro policy quota late scene sends goes calm events start
  -- The run is evaluated for what the theorem asks of it and for the record it ends with.
  have htimely : Watch.Timely events := by decide +kernel
  have hrecorded : (start.run events).recorded? "c1" = some .epoch := by decide +kernel
  have hrecord : (start.run events).record? "c1" = some ⟨"c1", .epoch, false⟩ := by
    decide +kernel
  obtain ⟨-, hexact, -, hretired⟩ := zombies_run .standard 64 policy ⟨"auth", quota⟩
    ⟨"store", quota⟩ ⟨"accept", quota⟩ .empty filed_empty htimely "c1" rfl
  refine ⟨htimely, ?_, (hretired ⟨_, hrecord, rfl⟩ _).1⟩
  obtain ⟨isActive, hfound, hiff⟩ := hexact .epoch hrecorded
  have hinactive : isActive = false := by
    have heq := hfound.symm.trans hrecord
    injection heq with heq
    injection heq
  exact hiff.mp hinactive

end Gatekeeper.Session
