import Gatekeeper.Proofs.Ledger.History
import Mathlib.Data.List.Induction
import Mathlib.Data.List.Infix

/-!
# `Gatekeeper.Proofs.Ledger.Heartbeat`: the times given to a connection

A connection keeps one time: the last one that it was given, when it was stored or by a heartbeat
since. It is the last one in the order of the calls, whatever it reads, because the update does not
look at the time that is there. So the time of a connection moves forward, and a sweep can rely on
it, where the times arrive in order; a heartbeat that arrives late takes the time back.

* `find?_step`: what one event makes of one connection.
* `lastHeartbeat_run`: the time that is stored is the last one given.
* `inOrder_iff`: it is always the latest one exactly where the times arrived in order.
* `heartbeats_run`: what becomes of the time of a connection.
-/

set_option autoImplicit false

namespace Gatekeeper.Ledger

open Gatekeeper.Sweep

/-! ### Sweeps and the connections -/

section
variable {ledger : Ledger} {failing : Call → Option Fault}

/-- Two calls of a sweep are about connections, and either of them may fail. The others leave the
connections alone. -/
theorem connections_sweep (hfiled : ledger.Filed) (bounds : Rule.Bounds) :
    (sweep (.failures failing) bounds ledger).2.connections =
      if failing .findStale = none ∧ failing .deactivateConnections = none then
        (ledger.liveFrom bounds.cutoff).connections
      else ledger.connections := by
  have hfinish : ∀ report middle, (finish (.failures failing) bounds report middle).2.connections =
      middle.connections := by
    intro report middle
    rw [snd_finish, retireOrphans_eq_retireChildren]
    cases failing .deactivateOrphans <;> cases failing .purgePoison <;> rfl
  rw [sweep_eq, hfinish, snd_retireStale, retireConnections_stale hfiled]
  dsimp only
  split
  · cases failing .deactivateChildren <;> rfl
  · rfl

end

namespace History

variable {ledger : Ledger} {id : String}

/-! ### One event and one connection -/

/-- The instant from which on a connection must have been heard of to live on after the event. -/
def Event.cutoff? (id : String) : Event → Option Timestamp
  | called none (.retireConnections ids cutoff) => if id ∈ ids then some cutoff else none
  | called _ _ => none
  | passed failing bounds progress =>
    match progress.pass, failing .deactivateConnections with
    | .retireConnections stale, none => if id ∈ stale then some bounds.cutoff else none
    | _, _ => none
  | swept failing bounds =>
    if failing .findStale = none ∧ failing .deactivateConnections = none then some bounds.cutoff
    else none

/-- What a call of a client makes of what stands under the id of a connection. -/
def Event.noted (id : String) (found : Option Connection) : Event → Option Connection
  | called none (.upsert record) => if record.id = id then some record else found
  | called none (.heartbeat heard at_) =>
    if heard = id then found.map fun record => { record with lastHeartbeat := at_ } else found
  | _ => found

/-- What an event makes of what stands under the id of a connection. -/
def Event.leaves (id : String) (found : Option Connection) (event : Event) : Option Connection :=
  match event.cutoff? id with
  | some cutoff => (event.noted id found).map (·.liveFrom cutoff)
  | none => event.noted id found

/-- A call leaves each connection as its event says. -/
theorem find?_called (ledger : Ledger) (outage : Option Fault) (request : Request) (id : String) :
    (request.serve outage ledger).2.connections.find? id =
      (Event.called outage request).leaves id (ledger.connections.find? id) := by
  cases outage with
  | some fault => rfl
  | none =>
    cases request with
    | connection | messages | stale | health | retireChildren | purge => rfl
    | child kind id => cases kind <;> rfl
    | upsert record =>
      show (ledger.connections.set record.id record).find? id = _
      rw [Roster.find?_set]
      simp only [Event.leaves, Event.cutoff?, Event.noted, eq_comm]
    | heartbeat heard at_ =>
      show (ledger.callHeartbeat .calm heard at_).2.connections.find? id = _
      rw [snd_callHeartbeat_calm, Roster.find?_mapValues]
      by_cases hheard : heard = id
      · simp [Event.leaves, Event.cutoff?, Event.noted, hheard]
      · simp [Event.leaves, Event.cutoff?, Event.noted, hheard, Ne.symm hheard]
    -- The other collections are out of the way of the connections.
    | insert kind record =>
      show (Traffic.insertChild ledger kind record).2.connections.find? id = _
      rw [Traffic.connections_insertChild]
      rfl
    | park record =>
      show (ledger.insertPoison record).2.connections.find? id = _
      rw [Traffic.connections_insertPoison]
      rfl
    | retireOrphans =>
      show ledger.retireOrphans.2.connections.find? id = _
      rw [retireOrphans_eq_retireChildren]
      rfl
    | retireConnections ids cutoff =>
      show (ledger.retireConnections cutoff ids).2.connections.find? id = _
      rw [retireConnections_eq, Roster.find?_mapValues]
      by_cases hmem : id ∈ ids <;> simp [Event.leaves, Event.cutoff?, Event.noted, hmem]

/-- An event does to a connection what `leaves` says, whatever else the ledger holds. -/
theorem find?_step (hfiled : ledger.Filed) (event : Event) (id : String) :
    (step ledger event).connections.find? id = event.leaves id (ledger.connections.find? id) := by
  cases event with
  | called outage request => exact find?_called ledger outage request id
  | passed failing bounds progress =>
    rw [step, Traffic.connections_pass]
    dsimp only [Event.leaves, Event.cutoff?, Event.noted]
    -- Only one pass of a sweep touches connections.
    cases progress.pass with
    | retireConnections stale =>
      cases failing .deactivateConnections with
      | some fault => rfl
      | none =>
        dsimp only
        rw [Roster.find?_mapValues]
        by_cases hmem : id ∈ stale <;> simp [hmem]
    | _ => rfl
  | swept failing bounds =>
    rw [step, connections_sweep hfiled]
    dsimp only [Event.leaves, Event.cutoff?, Event.noted]
    split
    · exact Roster.find?_mapValues ..
    · rfl

/-- What was heard of from the cutoff on is left as it is. -/
theorem map_liveFrom {found : Option Connection} {cutoff : Timestamp}
    (h : ∀ record, found = some record → cutoff ≤ record.lastHeartbeat) :
    found.map (·.liveFrom cutoff) = found := by
  cases found with
  | none => rfl
  | some record =>
    have hfresh : cutoff ≤ record.lastHeartbeat := h record rfl
    simp [Connection.liveFrom, hfresh]

/-! ### The times given -/

/-- The times given to a connection, after an event: the one that it is stored with, and those of
its heartbeats since. Where there is no connection, a heartbeat is given to nobody. -/
def given (id : String) (times : List Timestamp) : Event → List Timestamp
  | .called none (.upsert record) => if record.id = id then [record.lastHeartbeat] else times
  | .called none (.heartbeat heard at_) =>
    if heard = id ∧ times ≠ [] then times ++ [at_] else times
  | _ => times

/-- The times given to a connection since it was stored last, in the order of the calls. -/
def timesOf (id : String) (events : List Event) : List Timestamp := events.foldl (given id) []

/-- At no point of the history do the times given to the connection since it was stored last go
back. -/
def InOrder (id : String) (events : List Event) : Prop :=
  ∀ earlier, earlier <+: events → (timesOf id earlier).Pairwise (· ≤ ·)

/-- A time of a list that is not before any other one. -/
structure Latest (times : List Timestamp) (time : Timestamp) : Prop where
  mem : time ∈ times
  le : ∀ other ∈ times, other ≤ time

/-- The times given to a connection grow by those of one more event. -/
theorem timesOf_concat (id : String) (events : List Event) (event : Event) :
    timesOf id (events ++ [event]) = given id (timesOf id events) event := by
  rw [timesOf, List.foldl_append]
  rfl

/-- A run with one more event is a step more. -/
theorem run_concat (events : List Event) (event : Event) :
    run .empty (events ++ [event]) = step (run .empty events) event := run_append ..

/-- A run from the empty ledger keeps records under their own ids. -/
theorem filed_run (events : List Event) : (run .empty events).Filed :=
  (kept_run events .empty).filed filed_empty

/-- An event gives a connection no time, or a first one, or one more. -/
theorem given_cases (id : String) (times : List Timestamp) (event : Event) :
    given id times event = times ∨ (∃ time, given id times event = [time]) ∨
      ∃ time, given id times event = times ++ [time] := by
  unfold given
  split
  · split
    · exact .inr (.inl ⟨_, rfl⟩)
    · exact .inl rfl
  · split
    · exact .inr (.inr ⟨_, rfl⟩)
    · exact .inl rfl
  · exact .inl rfl

/-- What a client's call leaves is the last time given. -/
theorem lastHeartbeat_noted {found : Option Connection} {times : List Timestamp}
    (h : found.map (·.lastHeartbeat) = times.getLast?) (event : Event) :
    (event.noted id found).map (·.lastHeartbeat) = (given id times event).getLast? := by
  unfold Event.noted given
  split
  · split
    · rfl
    · exact h
  next heard at_ =>
    cases found with
    | none =>
      -- Nothing was given to a connection that is not there, and neither is this.
      have hnone : times = [] := List.getLast?_eq_none_iff.mp h.symm
      simp [hnone]
    | some record =>
      have hsome : times ≠ [] := by
        rintro rfl
        cases h
      by_cases hheard : heard = id
      · rw [if_pos hheard, if_pos ⟨hheard, hsome⟩, List.getLast?_concat]
        rfl
      · rw [if_neg hheard, if_neg fun hboth => hheard hboth.1]
        exact h
  next => exact h

/-- An event that looks for silent connections does not touch the time of one. -/
theorem lastHeartbeat_leaves (found : Option Connection) (event : Event) :
    (event.leaves id found).map (·.lastHeartbeat) =
      (event.noted id found).map (·.lastHeartbeat) := by
  unfold Event.leaves
  split
  · rw [Option.map_map]
    rfl
  · rfl

/-- The time that is stored is the last one given. -/
theorem lastHeartbeat_run (id : String) (events : List Event) :
    ((run .empty events).connections.find? id).map (·.lastHeartbeat) =
      (timesOf id events).getLast? := by
  induction events using List.reverseRecOn with
  | nil => rfl
  | append_singleton events event ih =>
    rw [run_concat, find?_step (filed_run events), lastHeartbeat_leaves, timesOf_concat]
    exact lastHeartbeat_noted ih event

/-- The last of times in order is the latest. -/
theorem latest_getLast {times : List Timestamp} {last : Timestamp}
    (hsorted : times.Pairwise (· ≤ ·)) (hlast : times.getLast? = some last) :
    Latest times last := by
  obtain ⟨before, rfl⟩ := List.getLast?_eq_some_iff.mp hlast
  refine ⟨List.mem_concat_self, fun other hmem => ?_⟩
  rcases List.mem_append.mp hmem with hbefore | hself
  · exact (List.pairwise_append.mp hsorted).2.2 other hbefore last (List.mem_singleton_self last)
  · rw [List.mem_singleton.mp hself]
    exact Timestamp.le_refl last

/-- One more time is in order where the last one is the latest. -/
theorem pairwise_given {times : List Timestamp} {event : Event}
    (hsorted : times.Pairwise (· ≤ ·))
    (hlatest : ∀ last, (given id times event).getLast? = some last →
      Latest (given id times event) last) :
    (given id times event).Pairwise (· ≤ ·) := by
  rcases given_cases id times event with hsame | ⟨time, hfirst⟩ | ⟨time, hmore⟩
  · rwa [hsame]
  · rw [hfirst]
    exact List.pairwise_singleton ..
  · rw [hmore] at hlatest ⊢
    have hle := (hlatest time (List.getLast?_concat ..)).le
    refine List.pairwise_append.mpr ⟨hsorted, List.pairwise_singleton .., ?_⟩
    intro other hmem last hlast
    rw [List.mem_singleton.mp hlast]
    exact hle other (List.mem_append_left _ hmem)

/-- The times arrive in order exactly where the one that is stored is always the latest. -/
theorem inOrder_iff (id : String) (events : List Event) :
    InOrder id events ↔ ∀ earlier, earlier <+: events → ∀ record,
      (run .empty earlier).connections.find? id = some record →
        Latest (timesOf id earlier) record.lastHeartbeat := by
  have hstored : ∀ {earlier record}, (run .empty earlier).connections.find? id = some record →
      (timesOf id earlier).getLast? = some record.lastHeartbeat := by
    intro earlier record hfind
    rw [← lastHeartbeat_run, hfind]
    rfl
  constructor
  · exact fun h earlier hpart record hfind => latest_getLast (h earlier hpart) (hstored hfind)
  · intro h
    induction events using List.reverseRecOn with
    | nil =>
      intro earlier hpart
      rw [List.prefix_nil.mp hpart]
      exact .nil
    | append_singleton events event ih =>
      have hbefore : InOrder id events :=
        ih fun earlier hpart => h earlier (hpart.trans (List.prefix_append ..))
      intro earlier hpart
      rcases List.prefix_concat_iff.mp hpart with rfl | hearlier
      · -- What the last event gives is stored after it, so it is the latest by assumption.
        rw [timesOf_concat]
        refine pairwise_given (hbefore events (List.prefix_refl events)) fun last hlast => ?_
        rw [← timesOf_concat, ← lastHeartbeat_run] at hlast
        obtain ⟨record, hfind, rfl⟩ := Option.map_eq_some_iff.mp hlast
        rw [← timesOf_concat]
        exact h _ hpart record hfind
      · exact hbefore earlier hearlier

/-! ### Every history -/

/-- A heartbeat takes no time back that was given before. -/
theorem mem_given_heartbeat {times : List Timestamp} {time : Timestamp} (h : time ∈ times)
    (outage : Option Fault) (heard : String) (at_ : Timestamp) :
    time ∈ given id times (.called outage (.heartbeat heard at_)) := by
  cases outage with
  | some fault => exact h
  | none =>
    show time ∈ if heard = id ∧ times ≠ [] then times ++ [at_] else times
    split
    · exact List.mem_append_left _ h
    · exact h

/-- Where an event looks for connections that were not heard of from the cutoff on, one that was
is left as it is. -/
theorem leaves_eq {found : Option Connection} {cutoff : Timestamp} {event : Event}
    (hnoted : event.noted id found = found)
    (hcutoff : ∀ asked, event.cutoff? id = some asked → asked = cutoff)
    (hfresh : ∀ record, found = some record → cutoff ≤ record.lastHeartbeat) :
    event.leaves id found = found := by
  unfold Event.leaves
  rw [hnoted]
  split
  next asked hasked =>
    rw [hcutoff asked hasked]
    exact map_liveFrom hfresh
  next => rfl

/-- A sweep asks by its own cutoff. -/
theorem cutoff?_swept {failing : Call → Option Fault} {bounds : Rule.Bounds} {asked : Timestamp}
    (h : (Event.swept failing bounds).cutoff? id = some asked) : asked = bounds.cutoff := by
  rw [Event.cutoff?] at h
  split at h
  · exact (Option.some.inj h).symm
  · cases h

/-- A pass asks by its own cutoff. -/
theorem cutoff?_passed {failing : Call → Option Fault} {bounds : Rule.Bounds} {progress : Progress}
    {asked : Timestamp} (h : (Event.passed failing bounds progress).cutoff? id = some asked) :
    asked = bounds.cutoff := by
  rw [Event.cutoff?] at h
  split at h
  · split at h
    · exact (Option.some.inj h).symm
    · cases h
  · cases h

/-- **What becomes of the time of a connection** in any history.

* The time that is stored is the last one given since the connection was stored, and a sweep whose
  calls do not fail goes by it: a live connection lives on if this one is not before the cutoff.
* It is always the latest one exactly where the times arrive in order.
* Where they do, no heartbeat makes it earlier. A connection that was given a time from the cutoff
  on is left as it is by a sweep, and by each pass of a sweep that others get in between of. -/
theorem heartbeats_run (id : String) (events : List Event) :
    (let ledger := run .empty events
     (ledger.connections.find? id).map (·.lastHeartbeat) = (timesOf id events).getLast? ∧
      ∀ failing bounds last, failing .findStale = none → failing .deactivateConnections = none →
        (timesOf id events).getLast? = some last →
          (step ledger (.swept failing bounds)).connections.find? id =
            (ledger.connections.find? id).map fun record =>
              { record with isActive := record.isActive && decide (bounds.cutoff ≤ last) }) ∧
    (InOrder id events ↔ ∀ earlier, earlier <+: events → ∀ record,
      (run .empty earlier).connections.find? id = some record →
        Latest (timesOf id earlier) record.lastHeartbeat) ∧
    (InOrder id events → ∀ earlier, earlier <+: events →
      let ledger := run .empty earlier
      (∀ outage at_, earlier ++ [.called outage (.heartbeat id at_)] <+: events →
        ∀ before after, ledger.connections.find? id = some before →
          (step ledger (.called outage (.heartbeat id at_))).connections.find? id = some after →
            before.lastHeartbeat ≤ after.lastHeartbeat) ∧
      ∀ failing bounds, ∀ time ∈ timesOf id earlier, bounds.cutoff ≤ time →
        (step ledger (.swept failing bounds)).connections.find? id =
            ledger.connections.find? id ∧
          ∀ progress, (step ledger (.passed failing bounds progress)).connections.find? id =
            ledger.connections.find? id) := by
  refine ⟨⟨lastHeartbeat_run id events, ?_⟩, inOrder_iff id events, ?_⟩
  · intro failing bounds last hfind hretire hlast
    rw [← lastHeartbeat_run] at hlast
    obtain ⟨record, hrecord, rfl⟩ := Option.map_eq_some_iff.mp hlast
    rw [find?_step (filed_run events), hrecord, Event.leaves, Event.cutoff?,
      if_pos ⟨hfind, hretire⟩]
    rfl
  · intro horder earlier hearlier ledger
    have hlatest := (inOrder_iff id events).mp horder
    refine ⟨fun outage at_ hpart before after hbefore hafter => ?_, ?_⟩
    · -- The time from before is still among those given, and the new one is the latest of them.
      have hstored := (hlatest earlier hearlier before hbefore).mem
      rw [← run_concat] at hafter
      apply (hlatest _ hpart after hafter).le
      rw [timesOf_concat]
      exact mem_given_heartbeat hstored outage id at_
    · intro failing bounds time hgiven hcutoff
      have hfresh : ∀ record, ledger.connections.find? id = some record →
          bounds.cutoff ≤ record.lastHeartbeat := fun record hfind =>
        Timestamp.le_trans hcutoff ((hlatest earlier hearlier record hfind).le time hgiven)
      refine ⟨?_, fun progress => ?_⟩
      · rw [find?_step (filed_run earlier)]
        exact leaves_eq rfl (fun asked => cutoff?_swept) hfresh
      · rw [find?_step (filed_run earlier)]
        exact leaves_eq rfl (fun asked => cutoff?_passed) hfresh

/-- Two heartbeats that arrive in order. A sweep finds the connection fresh by the second one. -/
theorem heartbeats_run_of_forward :
    let early : Timestamp := ⟨50, 0, by decide, by decide, by decide, by decide⟩
    let late : Timestamp := ⟨100, 0, by decide, by decide, by decide, by decide⟩
    let bounds : Rule.Bounds := ⟨⟨75, 0, by decide, by decide, by decide, by decide⟩, .epoch⟩
    let events : List Event := [.called none (.upsert ⟨"a", .epoch, true⟩),
      .called none (.heartbeat "a" early), .called none (.heartbeat "a" late)]
    InOrder "a" events ∧
      ((run .empty events).connections.find? "a").map (·.lastHeartbeat) = some late ∧
      ∀ failing, (step (run .empty events) (.swept failing bounds)).connections.find? "a" =
        some ⟨"a", late, true⟩ := by
  intro early late bounds events
  have horder : InOrder "a" events := by
    have hall : ∀ earlier ∈ events.inits, (timesOf "a" earlier).Pairwise (· ≤ ·) := by decide
    exact fun earlier hpart => hall earlier ((List.mem_inits _ _).mpr hpart)
  obtain ⟨⟨hstored, -⟩, -, hforward⟩ := heartbeats_run "a" events
  refine ⟨horder, hstored, fun failing => ?_⟩
  have hsweep := (hforward horder events (List.prefix_refl events)).2 failing bounds late
    (by decide) (by decide)
  exact hsweep.1

/-- A heartbeat that arrives late takes the time back, and a sweep retires a connection that was
heard of after the cutoff: a minute before the sweep, where it takes a minute and a half of
silence. -/
theorem late_heartbeat_retires :
    let early : Timestamp := ⟨50, 0, by decide, by decide, by decide, by decide⟩
    let late : Timestamp := ⟨100, 0, by decide, by decide, by decide, by decide⟩
    let now : Timestamp := ⟨165, 0, by decide, by decide, by decide, by decide⟩
    let earlier : List Event :=
      [.called none (.upsert ⟨"a", .epoch, true⟩), .called none (.heartbeat "a" late)]
    let events := earlier ++ [.called none (.heartbeat "a" early)]
    ∃ bounds, Rule.standard.bounds? now = some bounds ∧
      ((run .empty earlier).connections.find? "a").map (·.lastHeartbeat) = some late ∧
      ((run .empty events).connections.find? "a").map (·.lastHeartbeat) = some early ∧
      early < late ∧ late ∈ timesOf "a" events ∧ bounds.cutoff ≤ late ∧
      (run .empty events).connections.find? "a" = some ⟨"a", early, true⟩ ∧
      (step (run .empty events) (.swept (fun _ => none) bounds)).connections.find? "a" =
        some ⟨"a", early, false⟩ := by
  intro early late now earlier events
  refine ⟨⟨now.before (.ofSeconds 90), now.before (.ofSeconds (7 * 24 * 60 * 60))⟩, rfl, rfl, rfl,
    by decide, by decide, by decide, rfl, ?_⟩
  rw [find?_step (filed_run events)]
  decide

end History

end Gatekeeper.Ledger
