import Gatekeeper.Proofs.Sweep.Calls
import Gatekeeper.Proofs.Sweep.Traffic

/-!
# `Gatekeeper.Proofs.Ledger.History`: what becomes of a record

A history is any sequence of calls on the ledger and of sweeps over it, from the ledger without
records on. Any of them may fail: a call as a whole, and a sweep in any of its passes. A sweep
comes as a whole or pass by pass, and then it may be at any pass and may have found anything
before, so other calls and other sweeps can get in between.

* `serve_eq_of_error`, `pass_eq_of_failed`: what fails changes nothing.
* `Kept`: what a ledger still has of an earlier one. Every update keeps it, hence every call,
  pass and sweep, and hence every history.
* `history_run`: what becomes of a record.
-/

set_option autoImplicit false

namespace Gatekeeper.Ledger.History

open Gatekeeper.Sweep Gatekeeper.Sweep.Traffic

/-! ### Histories -/

/-- A call on the ledger. -/
inductive Request where
  | upsert (record : Connection)
  | heartbeat (id : String) (at_ : Timestamp)
  | connection (id : String)
  | insert (kind : Kind) (record : Child)
  | child (kind : Kind) (id : String)
  | park (record : PoisonMessage)
  | messages
  | stale (cutoff : Timestamp)
  | retireConnections (ids : List String) (cutoff : Timestamp)
  | retireChildren (owners : List String)
  | retireOrphans
  | purge (horizon : Timestamp)
  | health

/-- What a call answers if it does not fail. -/
inductive Answer where
  | done
  | lives (isActive : Bool)
  | connection (record : Connection)
  | child (record : Child)
  | messages (records : List PoisonMessage)
  | ids (ids : List String)
  | counts (counts : ChildCounts)
  | count (count : Nat)

/-- The answer of a call, as one of any call. -/
def answered {α : Type} (answer : α → Answer) (outcome : Outcome α) : Outcome Answer :=
  (outcome.1.map answer, outcome.2)

/-- Answers a call. One that is out of order fails, and does nothing else. -/
def Request.serve (outage : Option Fault) (request : Request) (ledger : Ledger) : Outcome Answer :=
  match outage with
  | some fault => (.error fault, ledger)
  | none =>
    match request with
    | upsert record => answered (fun _ => .done) (ledger.callUpsert .calm record)
    | heartbeat id at_ => answered .lives (ledger.callHeartbeat .calm id at_)
    | connection id => answered .connection (ledger.getConnection id, ledger)
    | insert kind record => answered (fun _ => .done) (insertChild ledger kind record)
    | child .producer id => answered .child (ledger.getProducer id, ledger)
    | child .consumer id => answered .child (ledger.getConsumer id, ledger)
    | park record => answered (fun _ => .done) (ledger.insertPoison record)
    | messages => (.ok (.messages ledger.poisonMessages), ledger)
    | stale cutoff => answered .ids (ledger.callFindStale .calm cutoff)
    | retireConnections ids cutoff =>
      answered .ids (ledger.callDeactivateConnections .calm ids cutoff)
    | retireChildren owners => answered .counts (ledger.callDeactivateChildren .calm owners)
    | retireOrphans => answered .counts (ledger.callDeactivateOrphans .calm)
    | purge horizon => answered .count (ledger.callPurge .calm horizon)
    | health => answered (fun _ => .done) (callHealthCheck .calm, ledger)

/-- One thing that happens to the ledger. -/
inductive Event where
  /-- A call, which may be out of order. -/
  | called (outage : Option Fault) (request : Request)
  /-- A pass of a sweep that got so far; the given calls fail. -/
  | passed (failing : Call → Option Fault) (bounds : Rule.Bounds) (progress : Progress)
  /-- A sweep; the given calls fail. -/
  | swept (failing : Call → Option Fault) (bounds : Rule.Bounds)

/-- The ledger after an event. -/
def step (ledger : Ledger) : Event → Ledger
  | .called outage request => (request.serve outage ledger).2
  | .passed failing bounds progress => (progress.step (.failures failing) bounds ledger).2
  | .swept failing bounds => (sweep (.failures failing) bounds ledger).2

/-- The ledger after a history. -/
def run (ledger : Ledger) (events : List Event) : Ledger := events.foldl step ledger

/-- A run may be cut anywhere: the second part goes on from the ledger that the first one leaves. -/
theorem run_append (ledger : Ledger) (events more : List Event) :
    run ledger (events ++ more) = run (run ledger events) more := List.foldl_append

/-- Whether the event stores a live connection under an id. -/
def Event.Revives (event : Event) (id : String) : Prop :=
  ∃ at_, event = .called none (.upsert ⟨id, at_, true⟩)

/-- The instant before which the event removes messages. -/
def Event.horizon? : Event → Option Timestamp
  | called none (.purge horizon) => some horizon
  | called _ _ => none
  | passed failing bounds progress =>
    if progress.pass = .purge ∧ failing .purgePoison = none then some bounds.horizon else none
  | swept failing bounds => if failing .purgePoison = none then some bounds.horizon else none

/-! ### What fails -/

/-- A child that is not inserted changes nothing, of either kind. -/
theorem insertChild_eq_of_error {ledger : Ledger} {kind : Kind} {record : Child} {fault : Fault}
    (h : (insertChild ledger kind record).1 = .error fault) :
    (insertChild ledger kind record).2 = ledger := by
  cases kind with
  | producer =>
    rw [insertChild, insertProducer] at h ⊢
    split at h
    · cases h
    next => rfl
  | consumer =>
    rw [insertChild, insertConsumer] at h ⊢
    split at h
    · cases h
    next => rfl

/-- A message that is not inserted changes nothing. -/
theorem insertPoison_eq_of_error {ledger : Ledger} {record : PoisonMessage} {fault : Fault}
    (h : (ledger.insertPoison record).1 = .error fault) :
    (ledger.insertPoison record).2 = ledger := by
  rw [insertPoison] at h ⊢
  split at h
  · cases h
  next => rfl

/-- A sign of life of a connection that is not there changes nothing. -/
theorem callHeartbeat_eq_of_error {ledger : Ledger} {id : String} {at_ : Timestamp} {fault : Fault}
    (h : (ledger.callHeartbeat .calm id at_).1 = .error fault) :
    (ledger.callHeartbeat .calm id at_).2 = ledger := by
  rw [callHeartbeat, guarded, Conditions.calm] at h ⊢
  dsimp only at h ⊢
  split at h
  · cases h
  next => rfl

/-- An answer that is a fault is the fault of the call. -/
theorem error_of_answered {α : Type} {answer : α → Answer} {outcome : Outcome α} {fault : Fault}
    (h : (answered answer outcome).1 = .error fault) : outcome.1 = .error fault := by
  obtain ⟨result, after⟩ := outcome
  cases result with
  | error fault' => exact congrArg _ (Except.error.inj h)
  | ok value => cases h

/-- A call that fails changes nothing. -/
theorem serve_eq_of_error {outage : Option Fault} {request : Request} {ledger : Ledger}
    {fault : Fault} (h : (request.serve outage ledger).1 = .error fault) :
    (request.serve outage ledger).2 = ledger := by
  cases outage with
  | some outage => rfl
  | none =>
    cases request with
    | connection | messages | stale | health => rfl
    | child kind id => cases kind <;> rfl
    | upsert | retireConnections | retireChildren | retireOrphans | purge => cases h
    | heartbeat id at_ => exact callHeartbeat_eq_of_error (error_of_answered h)
    | insert kind record => exact insertChild_eq_of_error (error_of_answered h)
    | park record => exact insertPoison_eq_of_error (error_of_answered h)

/-- A pass whose call fails notes that, and changes nothing. -/
theorem pass_eq_of_failed {failing : Call → Option Fault} {bounds : Rule.Bounds}
    {progress : Progress} {ledger : Ledger}
    (h : (progress.step (.failures failing) bounds ledger).1.report.failed ≠
      progress.report.failed) :
    (progress.step (.failures failing) bounds ledger).2 = ledger := by
  obtain ⟨pass, report⟩ := progress
  cases pass with
  | findStale =>
    simp only [Progress.step, callFindStale, guarded, Conditions.failures]
    cases failing .findStale <;> rfl
  | retireConnections stale =>
    simp only [Progress.step, callDeactivateConnections, guarded, Conditions.failures] at h ⊢
    cases hfailing : failing .deactivateConnections with
    | some fault => rfl
    -- A call that is in order adds nothing to the failed steps.
    | none => simp [hfailing] at h
  | cascadeProducers owners =>
    simp only [Progress.step, Conditions.failures] at h ⊢
    cases hfailing : failing .deactivateChildren with
    | some fault => rfl
    | none => simp [hfailing] at h
  | findInactive =>
    simp only [Progress.step, Conditions.failures]
    cases failing .deactivateOrphans <;> rfl
  | purge =>
    simp only [Progress.step, callPurge, guarded, Conditions.failures] at h ⊢
    cases hfailing : failing .purgePoison with
    | some fault => rfl
    | none => simp [hfailing] at h
  -- These passes go on with a call that did not fail.
  | cascadeConsumers | repairProducers | repairConsumers | finished => exact absurd rfl h

/-- A child as faults name it. -/
def describeChild : Kind → String → String
  | .producer, id => s!"producer {id}"
  | .consumer, id => s!"consumer {id}"

/-- An insert under an id that is there fails with a conflict. -/
theorem insertChild_of_present {ledger : Ledger} {kind : Kind} {record old : Child}
    (h : (childrenOf ledger kind).find? record.id = some old) :
    insertChild ledger kind record =
      (.error (.conflict (describeChild kind record.id)), ledger) := by
  have hadd : ∀ children : Roster String Child, children.find? record.id = some old →
      children.add record.id record = (false, children) := fun children hfind => by
    rw [Roster.add, dif_pos (by simp [Roster.contains, hfind])]
  cases kind with
  | producer =>
    rw [insertChild, insertProducer, hadd ledger.producers h]
    rfl
  | consumer =>
    rw [insertChild, insertConsumer, hadd ledger.consumers h]
    rfl

/-- The id of a stored message is taken: another one is a conflict, and the stored one stays. -/
theorem insertPoison_of_present {ledger : Ledger} {record old : PoisonMessage}
    (h : ledger.poison.find? record.id = some old) :
    ledger.insertPoison record =
      (.error (.conflict s!"poison message {record.id}"), ledger) := by
  rw [insertPoison, Roster.add, dif_pos (by simp [Roster.contains, h])]

/-- Inserting a child leaves the messages alone. -/
theorem poison_insertChild (ledger : Ledger) (kind : Kind) (record : Child) :
    (insertChild ledger kind record).2.poison = ledger.poison := by
  cases kind with
  | producer =>
    rw [insertChild, insertProducer]
    split <;> rfl
  | consumer =>
    rw [insertChild, insertConsumer]
    split <;> rfl

/-! ### What is kept -/

/-- What a ledger still has of an earlier one. Meanwhile live connections were stored under the
ids that satisfy `revived`, and messages from before the instants that satisfy `purged` were
removed. -/
structure Kept (revived : String → Prop) (purged : Timestamp → Prop) (before after : Ledger) :
    Prop where
  /-- Every record still stands under its own id. -/
  filed : before.Filed → after.Filed
  /-- A child is still there and still belongs to its owner. It may have turned inactive. -/
  child : ∀ kind id record, (childrenOf before kind).find? id = some record →
    ∃ isActive, (childrenOf after kind).find? id = some { record with isActive } ∧
      (isActive = true → record.isActive = true)
  /-- A connection is still there. It turned live only if it was stored anew. -/
  connection : ∀ id record, before.connections.find? id = some record →
    ∃ record', after.connections.find? id = some record' ∧
      (record'.isActive = true → record.isActive = true ∨ revived id)
  /-- A message is still there, or messages of its age were removed. -/
  message : ∀ id message, before.poison.find? id = some message →
    after.poison.find? id = some message ∨ ∃ horizon, purged horizon ∧ message.createdAt < horizon

namespace Kept

variable {revived : String → Prop} {purged : Timestamp → Prop} {ledger before after later : Ledger}

/-- Nothing happens to a ledger that stays as it is, so nothing is lost from it. -/
theorem refl (revived : String → Prop) (purged : Timestamp → Prop) (ledger : Ledger) :
    Kept revived purged ledger ledger where
  filed := id
  child _ _ record hfind := ⟨record.isActive, hfind, id⟩
  connection _ record hfind := ⟨record, hfind, .inl⟩
  message _ _ hfind := .inl hfind

/-- What two steps keep, both of them together keep: each part of the later ledger is traced back to
the first one by way of the one between. -/
theorem trans (h : Kept revived purged before after) (h' : Kept revived purged after later) :
    Kept revived purged before later where
  filed hfiled := h'.filed (h.filed hfiled)
  child kind id record hfind := by
    obtain ⟨isActive, hafter, hactive⟩ := h.child kind id record hfind
    obtain ⟨isActive', hlater, hactive'⟩ := h'.child kind id _ hafter
    exact ⟨isActive', hlater, fun hlive => hactive (hactive' hlive)⟩
  connection id record hfind := by
    obtain ⟨record', hafter, hactive⟩ := h.connection id record hfind
    obtain ⟨record'', hlater, hactive'⟩ := h'.connection id record' hafter
    exact ⟨record'', hlater, fun hlive => (hactive' hlive).elim hactive .inr⟩
  message id message hfind :=
    (h.message id message hfind).elim (fun hafter => h'.message id message hafter) .inr

/-- More revivals and more horizons allowed is less to be kept. -/
theorem mono (h : Kept revived purged before after) {revived' : String → Prop}
    {purged' : Timestamp → Prop} (hrevived : ∀ id, revived id → revived' id)
    (hpurged : ∀ horizon, purged horizon → purged' horizon) :
    Kept revived' purged' before after where
  filed := h.filed
  child := h.child
  connection id record hfind := by
    obtain ⟨record', hafter, hactive⟩ := h.connection id record hfind
    exact ⟨record', hafter, fun hlive => (hactive hlive).imp_right (hrevived id)⟩
  message id message hfind :=
    (h.message id message hfind).imp_right fun ⟨horizon, hhorizon, hlt⟩ =>
      ⟨horizon, hpurged horizon hhorizon, hlt⟩

/-! #### Connections -/

/-- An update of connections needs a look at the connections only. -/
theorem of_connections {connections : Roster String Connection}
    (hfiled : ledger.Filed → Filed { ledger with connections })
    (h : ∀ id record, ledger.connections.find? id = some record →
      ∃ record', connections.find? id = some record' ∧
        (record'.isActive = true → record.isActive = true ∨ revived id)) :
    Kept revived purged ledger { ledger with connections } where
  filed := hfiled
  child kind _ record hfind := ⟨record.isActive, by cases kind <;> exact hfind, id⟩
  connection := h
  message _ _ hfind := .inl hfind

/-- Storing a connection revives its own id only, and only with a record that is active. -/
theorem upsertConnection {record : Connection} (h : record.isActive = true → revived record.id) :
    Kept revived purged ledger (ledger.upsertConnection record) := by
  refine of_connections (fun hfiled => hfiled.upsertConnection record) fun id old hfind => ?_
  rw [Roster.find?_set]
  split
  next heq => exact ⟨record, rfl, fun hlive => .inr (heq ▸ h hlive)⟩
  next => exact ⟨old, hfind, .inl⟩

/-- A sign of life moves a time. It brings no connection back, and touches no child and no message.
-/
theorem callHeartbeat (id : String) (at_ : Timestamp) :
    Kept revived purged ledger (ledger.callHeartbeat .calm id at_).2 := by
  have hfiled : ledger.Filed → (ledger.callHeartbeat .calm id at_).2.Filed :=
    fun hfiled => hfiled.callHeartbeat id at_
  rw [snd_callHeartbeat_calm] at hfiled ⊢
  refine of_connections hfiled fun other old hfind => ?_
  rw [Roster.find?_mapValues, hfind]
  refine ⟨_, rfl, fun hlive => .inl ?_⟩
  split at hlive <;> exact hlive

/-- Turning connections inactive revives none of them. -/
theorem retireConnections (cutoff : Timestamp) (ids : List String) :
    Kept revived purged ledger (ledger.retireConnections cutoff ids).2 := by
  have hfiled : ledger.Filed → (ledger.retireConnections cutoff ids).2.Filed :=
    fun hfiled => hfiled.retireConnections cutoff ids
  rw [retireConnections_eq] at hfiled ⊢
  refine of_connections hfiled fun id record hfind => ?_
  rw [Roster.find?_mapValues, hfind]
  refine ⟨_, rfl, fun hlive => .inl ?_⟩
  split at hlive
  -- The update can only take away from a connection that it counts as live.
  · exact (Bool.and_eq_true_iff.mp hlive).1
  · exact hlive

/-! #### Children -/

/-- The update of children by their owners keeps each child, and only ever turns it inactive. -/
theorem child_retireOwned {children : Roster String Child} {id : String} {record : Child}
    (h : children.find? id = some record) (owners : List String) :
    ∃ isActive, (retireOwned owners children).2.find? id = some { record with isActive } ∧
      (isActive = true → record.isActive = true) := by
  rw [find?_retireOwned, h, Option.map_some]
  split
  · exact ⟨false, rfl, nofun⟩
  · exact ⟨record.isActive, rfl, fun hlive => hlive⟩

/-- The update of producers keeps what the ledger holds. -/
theorem retireProducers (owners : List String) :
    Kept revived purged ledger (ledger.retireProducers owners).2 where
  filed hfiled := { hfiled with producers := keyedBy_retireOwned hfiled.producers owners }
  child kind id record hfind := by
    cases kind with
    | producer => exact child_retireOwned hfind owners
    | consumer => exact ⟨record.isActive, hfind, fun hlive => hlive⟩
  connection _ record hfind := ⟨record, hfind, .inl⟩
  message _ _ hfind := .inl hfind

/-- The update of consumers keeps what the ledger holds. -/
theorem retireConsumers (owners : List String) :
    Kept revived purged ledger (ledger.retireConsumers owners).2 where
  filed hfiled := { hfiled with consumers := keyedBy_retireOwned hfiled.consumers owners }
  child kind id record hfind := by
    cases kind with
    | producer => exact ⟨record.isActive, hfind, fun hlive => hlive⟩
    | consumer => exact child_retireOwned hfind owners
  connection _ record hfind := ⟨record, hfind, .inl⟩
  message _ _ hfind := .inl hfind

/-- So does the one after the other. -/
theorem retireChildren (owners : List String) :
    Kept revived purged ledger (ledger.retireChildren owners).2 :=
  (retireProducers owners).trans (retireConsumers owners)

/-- The repair of orphans is such an update of both. -/
theorem retireOrphans : Kept revived purged ledger ledger.retireOrphans.2 := by
  unfold Ledger.retireOrphans
  split
  · exact refl ..
  · exact retireChildren _

/-- Inserting a child adds one under an id that was free, or nothing. -/
theorem insertChild (kind : Kind) (record : Child) :
    Kept revived purged ledger (insertChild ledger kind record).2 where
  filed hfiled := by
    cases kind with
    | producer => exact hfiled.insertProducer record
    | consumer => exact hfiled.insertConsumer record
  child kind' _ old hfind := ⟨old.isActive, find?_insertChild hfind kind record, fun hlive => hlive⟩
  connection _ old hfind := ⟨old, by rw [connections_insertChild, hfind], .inl⟩
  message _ _ hfind := .inl (by rw [poison_insertChild, hfind])

/-! #### Messages -/

/-- An update of messages needs a look at the messages only. -/
theorem of_poison {poison : Roster String PoisonMessage}
    (hfiled : ledger.Filed → Filed { ledger with poison })
    (h : ∀ id message, ledger.poison.find? id = some message →
      poison.find? id = some message ∨ ∃ horizon, purged horizon ∧ message.createdAt < horizon) :
    Kept revived purged ledger { ledger with poison } where
  filed := hfiled
  child kind _ record hfind := ⟨record.isActive, by cases kind <;> exact hfind, id⟩
  connection _ record hfind := ⟨record, hfind, .inl⟩
  message := h

/-- Inserting a message adds one under an id that was free, or nothing. -/
theorem insertPoison (record : PoisonMessage) :
    Kept revived purged ledger (ledger.insertPoison record).2 := by
  have hfiled : ledger.Filed → (ledger.insertPoison record).2.Filed :=
    fun hfiled => hfiled.insertPoison record
  unfold Ledger.insertPoison at hfiled ⊢
  split at hfiled
  next poison heq =>
    -- The new message is beside the others, under an id of its own.
    refine of_poison hfiled fun id message hfind => .inl ?_
    have hadd := Roster.find?_add ledger.poison record.id record id
    rw [heq] at hadd
    rw [hadd]
    split
    next hid => rw [← hid, hfind, Option.getD_some]
    next => exact hfind
  next => exact refl ..

/-- A purge removes messages from before its horizon, and does nothing else. -/
theorem purge {horizon : Timestamp} (h : purged horizon) :
    Kept revived purged ledger (ledger.purge horizon).2 := by
  refine of_poison (fun hfiled => hfiled.purge horizon) fun id message hfind => ?_
  rw [Roster.find?_filter, hfind]
  by_cases hold : message.createdAt < horizon
  · exact .inr ⟨horizon, h, hold⟩
  · exact .inl (by simp [hold])

end Kept

/-! ### One event -/

section
variable {ledger : Ledger}

/-- What a call does is what its request does, or nothing if storage is out of order. -/
theorem kept_called (outage : Option Fault) (request : Request) (ledger : Ledger) :
    Kept (Event.called outage request).Revives
      (fun horizon => (Event.called outage request).horizon? = some horizon) ledger
      (request.serve outage ledger).2 := by
  cases outage with
  | some fault => exact .refl ..
  | none =>
    cases request with
    | connection | messages | stale | health => exact .refl ..
    | child kind id => cases kind <;> exact .refl ..
    -- Only an upsert may bring a record back to life, and it says so.
    | upsert record =>
      refine .upsertConnection fun hlive => ⟨record.lastHeartbeat, ?_⟩
      rw [← hlive]
    | heartbeat id at_ => exact .callHeartbeat id at_
    | insert kind record => exact .insertChild kind record
    | park record => exact .insertPoison record
    | retireConnections ids cutoff => exact .retireConnections cutoff ids
    | retireChildren owners => exact .retireChildren owners
    | retireOrphans => exact .retireOrphans
    | purge horizon => exact .purge rfl

section
variable {failing : Call → Option Fault} {bounds : Rule.Bounds}

/-- The last pass removes messages, unless its call fails. -/
theorem pass_purge {progress : Progress} (h : progress.pass = .purge) :
    (progress.step (.failures failing) bounds ledger).2 =
      if failing .purgePoison = none then (ledger.purge bounds.horizon).2 else ledger := by
  obtain ⟨pass, report⟩ := progress
  cases h
  simp only [Progress.step, callPurge, guarded, Conditions.failures]
  cases failing .purgePoison <;> rfl

/-- A sweep keeps everything up to its last call. -/
theorem sweep_eq_purge (failing : Call → Option Fault) (bounds : Rule.Bounds) (ledger : Ledger) :
    ∃ middle, (∀ revived purged, Kept revived purged ledger middle) ∧
      (sweep (.failures failing) bounds ledger).2 =
        if failing .purgePoison = none then (middle.purge bounds.horizon).2 else middle := by
  -- The ledger after the first three calls, and the one after the fourth.
  let retired := (retireStale (.failures failing) bounds.cutoff ledger).2
  let repaired := if failing .deactivateOrphans = none then retired.retireOrphans.2 else retired
  have hretired : ∀ revived purged, Kept revived purged ledger retired := by
    intro revived purged
    show Kept revived purged ledger (retireStale (.failures failing) bounds.cutoff ledger).2
    rw [snd_retireStale]
    split
    · dsimp only
      split
      · exact .trans (.retireConnections ..) (.retireChildren _)
      · exact .retireConnections ..
    · exact .refl ..
  have hrepaired : ∀ revived purged, Kept revived purged retired repaired := by
    intro revived purged
    show Kept revived purged retired (if _ then _ else _)
    split
    · exact .retireOrphans
    · exact .refl ..
  refine ⟨repaired, fun revived purged => (hretired _ _).trans (hrepaired _ _), ?_⟩
  rw [sweep_eq, snd_finish]

end

/-- One pass of a sweep does what the call behind it does. Only the pass that purges has a horizon.
-/
theorem kept_passed (failing : Call → Option Fault) (bounds : Rule.Bounds) (progress : Progress)
    (ledger : Ledger) :
    Kept (Event.passed failing bounds progress).Revives
      (fun horizon => (Event.passed failing bounds progress).horizon? = some horizon) ledger
      (progress.step (.failures failing) bounds ledger).2 := by
  by_cases hpurge : progress.pass = .purge
  · rw [pass_purge hpurge]
    split
    next hcalm => exact .purge (if_pos ⟨hpurge, hcalm⟩)
    next => exact .refl ..
  · have heffect := effect_pass failing bounds progress ledger
    -- The effect of a pass is one of the bulk updates, or nothing.
    generalize progress.pass = pass, (progress.step _ bounds ledger).1.pass = next,
      (progress.step _ bounds ledger).2 = after at heffect hpurge ⊢
    cases heffect with
    | nothing | listed => exact .refl ..
    | connections => exact .retireConnections ..
    | producers => exact .retireProducers _
    | consumers => exact .retireConsumers _
    | purged => exact absurd rfl hpurge

/-- A sweep up to its purge keeps everything, and the purge is made only if that call does not fail.
-/
theorem kept_swept (failing : Call → Option Fault) (bounds : Rule.Bounds) (ledger : Ledger) :
    Kept (Event.swept failing bounds).Revives
      (fun horizon => (Event.swept failing bounds).horizon? = some horizon) ledger
      (sweep (.failures failing) bounds ledger).2 := by
  obtain ⟨middle, hkept, hsweep⟩ := sweep_eq_purge failing bounds ledger
  rw [hsweep]
  split
  next hcalm => exact (hkept _ _).trans (.purge (if_pos hcalm))
  next => exact hkept _ _

/-- Every event keeps what the ledger holds, up to what this event itself revives and removes. -/
theorem kept_step (event : Event) (ledger : Ledger) :
    Kept event.Revives (fun horizon => event.horizon? = some horizon) ledger
      (step ledger event) := by
  cases event with
  | called outage request => exact kept_called outage request ledger
  | passed failing bounds progress => exact kept_passed failing bounds progress ledger
  | swept failing bounds => exact kept_swept failing bounds ledger

/-- A heartbeat does not touch whether a connection counts as live. -/
theorem isActive_heartbeat (ledger : Ledger) (outage : Option Fault) (id : String)
    (at_ : Timestamp) (other : String) :
    (((Request.heartbeat id at_).serve outage ledger).2.connections.find? other).map (·.isActive) =
      (ledger.connections.find? other).map (·.isActive) := by
  cases outage with
  | some fault => rfl
  | none =>
    show ((ledger.callHeartbeat .calm id at_).2.connections.find? other).map _ = _
    rw [snd_callHeartbeat_calm, Roster.find?_mapValues, Option.map_map]
    congr 1
    funext record
    rw [Function.comp_apply]
    split <;> rfl

/-- An event that removes messages does so last, and keeps everything until then. -/
theorem step_eq_purge {event : Event} {horizon : Timestamp}
    (hevent : event.horizon? = some horizon) (ledger : Ledger) :
    ∃ middle, (∀ revived purged, Kept revived purged ledger middle) ∧
      step ledger event = (middle.purge horizon).2 := by
  cases event with
  | called outage request =>
    cases outage with
    | some fault => cases hevent
    | none =>
      cases request with
      | purge horizon' =>
        cases hevent
        exact ⟨ledger, fun revived purged => .refl .., rfl⟩
      | _ => cases hevent
  -- One pass purges at once; a whole sweep, after its first four calls.
  | passed failing bounds progress =>
    rw [Event.horizon?] at hevent
    split at hevent
    next hcalm =>
      cases hevent
      refine ⟨ledger, fun revived purged => .refl .., ?_⟩
      rw [step, pass_purge hcalm.1, if_pos hcalm.2]
    next => cases hevent
  | swept failing bounds =>
    rw [Event.horizon?] at hevent
    split at hevent
    next hcalm =>
      cases hevent
      obtain ⟨middle, hkept, hsweep⟩ := sweep_eq_purge failing bounds ledger
      exact ⟨middle, hkept, hsweep.trans (if_pos hcalm)⟩
    next => cases hevent

/-- A message is gone once messages of its age were removed. -/
theorem gone_step {event : Event} {horizon : Timestamp} (hevent : event.horizon? = some horizon)
    {id : String} {message : PoisonMessage} (hfind : ledger.poison.find? id = some message)
    (hold : message.createdAt < horizon) : (step ledger event).poison.find? id = none := by
  obtain ⟨middle, hkept, hstep⟩ := step_eq_purge hevent ledger
  -- Until then no messages were removed, so it was still there.
  have hmiddle : middle.poison.find? id = some message := by
    rcases (hkept (fun _ => False) (fun _ => False)).message id message hfind with
      hsame | ⟨_, hnone, -⟩
    · exact hsame
    · exact hnone.elim
  rw [hstep, Ledger.purge, Roster.find?_filter, hmiddle]
  simp [hold]

end

/-! ### Every history -/

/-- A history keeps what each of its events keeps. -/
theorem kept_run (events : List Event) (ledger : Ledger) :
    Kept (fun id => ∃ event ∈ events, event.Revives id)
      (fun horizon => ∃ event ∈ events, event.horizon? = some horizon) ledger
      (run ledger events) := by
  induction events generalizing ledger with
  | nil => exact .refl ..
  | cons event rest ih =>
    refine Kept.trans (Kept.mono (kept_step event ledger) ?_ ?_) (Kept.mono (ih _) ?_ ?_)
    · exact fun id hrevives => ⟨event, List.mem_cons_self, hrevives⟩
    · exact fun horizon hhorizon => ⟨event, List.mem_cons_self, hhorizon⟩
    · exact fun id ⟨other, hmem, hrevives⟩ => ⟨other, List.mem_cons_of_mem _ hmem, hrevives⟩
    · exact fun horizon ⟨other, hmem, hhorizon⟩ => ⟨other, List.mem_cons_of_mem _ hmem, hhorizon⟩

/-- **What becomes of a record** in any history. After any earlier part of it:

* Every record stands under its own id.
* `Kept` tells what any later part leaves: children and connections are never removed and only
  turn inactive, but for a connection that is stored anew. A message stays as it is until
  messages of its age are removed, and then it is gone.
* A heartbeat does not touch whether a connection counts as live.
* An insert under an id that is there is a conflict, and changes nothing.
* A call that fails changes nothing, and neither does a failed pass of a sweep. -/
theorem history_run (earlier later : List Event) :
    let ledger := run .empty earlier
    ledger.Filed ∧
      Kept (fun id => ∃ event ∈ later, event.Revives id)
        (fun horizon => ∃ event ∈ later, event.horizon? = some horizon) ledger
        (run .empty (earlier ++ later)) ∧
      (∀ event horizon, event.horizon? = some horizon → ∀ id message,
        ledger.poison.find? id = some message → message.createdAt < horizon →
          (step ledger event).poison.find? id = none) ∧
      (∀ outage id at_ other,
        (((Request.heartbeat id at_).serve outage ledger).2.connections.find? other).map
          (·.isActive) = (ledger.connections.find? other).map (·.isActive)) ∧
      (∀ kind record old, (childrenOf ledger kind).find? record.id = some old →
        (Request.insert kind record).serve none ledger =
          (.error (.conflict (describeChild kind record.id)), ledger)) ∧
      (∀ record old, ledger.poison.find? record.id = some old →
        (Request.park record).serve none ledger =
          (.error (.conflict s!"poison message {record.id}"), ledger)) ∧
      (∀ outage (request : Request) fault, (request.serve outage ledger).1 = .error fault →
        (request.serve outage ledger).2 = ledger) ∧
      ∀ failing bounds (progress : Progress),
        (progress.step (.failures failing) bounds ledger).1.report.failed ≠
            progress.report.failed →
          (progress.step (.failures failing) bounds ledger).2 = ledger := by
  intro ledger
  have hfiled : ledger.Filed := (kept_run earlier .empty).filed filed_empty
  refine ⟨hfiled, ?_, fun event horizon hevent id message => gone_step hevent,
    isActive_heartbeat ledger, fun kind record old hfind => ?_, fun record old hfind => ?_,
    fun outage request fault => serve_eq_of_error, fun failing bounds progress => pass_eq_of_failed⟩
  · rw [run_append]
    exact kept_run later ledger
  · rw [Request.serve, insertChild_of_present hfind]
    rfl
  · rw [Request.serve, insertPoison_of_present hfind]
    rfl

end Gatekeeper.Ledger.History
