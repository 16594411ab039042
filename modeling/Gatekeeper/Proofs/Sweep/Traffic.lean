import Gatekeeper.Proofs.Ledger.Bulk
import Gatekeeper.Sweep.Pass

/-!
# `Gatekeeper.Proofs.Sweep.Traffic`: sweeps with clients in between

A sweep goes over the ledger in passes, and between two passes clients connect, are heard
of and add children. The ids that a pass works on were read by an earlier one, so the
question is what they are worth by then. `Traffic` is a ledger in use: an `Event` is one
pass of the sweep under way or one call of a client, and a run is any sequence of them.

* `effect_pass`: what one pass leads to; the lemmas about passes are read off it.
* `connection_step` and `child_step`: what one event can do to one record.
* `step_passed`, `childrenOf_passed`, `progress_client`: what moves the sweep on.
-/

set_option autoImplicit false

namespace Gatekeeper.Sweep

open Gatekeeper.Ledger

/-! ### A ledger in use -/

/-- A ledger in use, with the sweep that is going over it. -/
structure Traffic where
  ledger : Ledger
  /-- The bounds of the sweep. -/
  bounds : Rule.Bounds
  /-- How far the sweep is. -/
  progress : Progress

/-- The two kinds of children. -/
inductive Kind where
  | producer
  | consumer
  deriving DecidableEq, Repr

/-- The children of a kind. -/
def childrenOf (ledger : Ledger) : Kind → Roster String Child
  | .producer => ledger.producers
  | .consumer => ledger.consumers

namespace Pass

/-- The owners that the pass works on or hands to the next one. -/
def owners : Pass → List String
  | cascadeProducers owners | cascadeConsumers owners _ => owners
  | repairProducers owners | repairConsumers owners _ => owners
  | _ => []

/-- The owners whose children of a kind the pass retires. -/
def retires : Pass → Kind → List String
  | cascadeProducers owners, .producer | repairProducers owners, .producer => owners
  | cascadeConsumers owners _, .consumer | repairConsumers owners _, .consumer => owners
  | _, _ => []

/-- Whether the pass is in the middle of a repair of orphans. -/
def isRepair : Pass → Bool
  | repairProducers _ | repairConsumers _ _ => true
  | _ => false

end Pass

namespace Traffic

/-- One thing that happens to a ledger in use. -/
inductive Event where
  /-- The next sweep begins. -/
  | began (bounds : Rule.Bounds)
  /-- The pass that is due; the given calls fail. -/
  | passed (failing : Call → Option Ledger.Fault)
  /-- A client connects. -/
  | connected (id : String) (at_ : Timestamp)
  /-- A connection is heard of. -/
  | heard (id : String) (at_ : Timestamp)
  /-- A child is added. -/
  | added (kind : Kind) (record : Child)
  /-- A message is put aside. -/
  | parked (record : PoisonMessage)

/-- Whether the event is a client's. -/
def Event.isClient : Event → Bool
  | began _ | passed _ => false
  | connected _ _ | heard _ _ | added _ _ | parked _ => true

/-- A ledger before the first pass of a first sweep. -/
def start (ledger : Ledger) (bounds : Rule.Bounds) : Traffic := ⟨ledger, bounds, .start⟩

/-- Adds a child of a kind. -/
def insertChild (ledger : Ledger) : Kind → Child → Outcome Unit
  | .producer, record => ledger.insertProducer record
  | .consumer, record => ledger.insertConsumer record

/-- What an event does. A sweep begins when the one before is finished, and a client
connects under an id that no record has, which is one that was never used, because no
record of a connection is ever removed. -/
def step (traffic : Traffic) : Event → Traffic
  | .began bounds =>
    if traffic.progress.pass = .finished then { traffic with bounds, progress := .start }
    else traffic
  | .passed failing =>
    let (progress, ledger) :=
      traffic.progress.step (.failures failing) traffic.bounds traffic.ledger
    { traffic with ledger, progress }
  | .connected id at_ =>
    if traffic.ledger.connections.contains id then traffic
    else { traffic with ledger := (traffic.ledger.callUpsert .calm ⟨id, at_, true⟩).2 }
  | .heard id at_ => { traffic with ledger := (traffic.ledger.callHeartbeat .calm id at_).2 }
  | .added kind record => { traffic with ledger := (insertChild traffic.ledger kind record).2 }
  | .parked record => { traffic with ledger := (traffic.ledger.insertPoison record).2 }

/-- A run of events. -/
def run (traffic : Traffic) (events : List Event) : Traffic := events.foldl step traffic

/-! ### What one pass does -/

/-- What a pass leads to: the next pass, and the ledger after it. A pass that only reads, or
whose call fails, leaves the ledger as it is. -/
inductive Effect (failing : Call → Option Ledger.Fault) (bounds : Rule.Bounds)
    (ledger : Ledger) : Pass → Pass → Ledger → Prop where
  | nothing {pass next : Pass} (unowned : next.owners = []) (whole : pass.isRepair = false)
      (failed : ∀ stale, pass = .retireConnections stale →
        failing .deactivateConnections ≠ none) :
    Effect failing bounds ledger pass next ledger
  | listed {next : Pass} (inactive : next.owners = ledger.inactiveIds) :
    Effect failing bounds ledger .findInactive next ledger
  | connections {stale : List String} {next : Pass}
      (calm : failing .deactivateConnections = none)
      (retired : next.owners = (ledger.retireConnections bounds.cutoff stale).1) :
    Effect failing bounds ledger (.retireConnections stale) next
      (ledger.retireConnections bounds.cutoff stale).2
  | producers {pass next : Pass} {owners : List String}
      (due : pass = .cascadeProducers owners ∨ pass = .repairProducers owners)
      (same : next.owners = owners) :
    Effect failing bounds ledger pass next (ledger.retireProducers owners).2
  | consumers {pass next : Pass} {owners : List String} {count : Nat}
      (due : pass = .cascadeConsumers owners count ∨ pass = .repairConsumers owners count)
      (unowned : next.owners = []) :
    Effect failing bounds ledger pass next (ledger.retireConsumers owners).2
  | purged : Effect failing bounds ledger .purge .finished (ledger.purge bounds.horizon).2

/-- Where a pass over some owners is left out for want of owners, none are handed on. -/
theorem owners_ite {owners : List String} {next rest : Pass} (hnext : next.owners = owners)
    (hrest : rest.owners = []) : (if owners.isEmpty then rest else next).owners = owners := by
  cases owners with
  | nil => exact hrest
  | cons owner rest => exact hnext

/-- Every pass has one of these effects. -/
theorem effect_pass (failing : Call → Option Ledger.Fault) (bounds : Rule.Bounds)
    (progress : Progress) (ledger : Ledger) :
    Effect failing bounds ledger progress.pass
      (progress.step (.failures failing) bounds ledger).1.pass
      (progress.step (.failures failing) bounds ledger).2 := by
  obtain ⟨pass, report⟩ := progress
  cases pass with
  | findStale =>
    -- The query only reads, and the ids that it found are no owners yet.
    simp only [Progress.step, callFindStale, guarded, Conditions.failures]
    cases failing .findStale with
    | some fault => exact .nothing rfl rfl (by simp)
    | none => exact .nothing (by dsimp only; split <;> rfl) rfl (by simp)
  | retireConnections stale =>
    simp only [Progress.step, callDeactivateConnections, guarded, Conditions.failures]
    cases hcalm : failing .deactivateConnections with
    | some fault => exact .nothing rfl rfl (by simp [hcalm])
    | none => exact .connections hcalm (owners_ite rfl rfl)
  | cascadeProducers owners =>
    -- The call covers both kinds of children, so a failure is one of its first pass.
    simp only [Progress.step, Conditions.failures]
    cases failing .deactivateChildren with
    | some fault => exact .nothing rfl rfl (by simp)
    | none => exact .producers (.inl rfl) rfl
  | cascadeConsumers owners count => exact .consumers (.inl rfl) rfl
  | findInactive =>
    simp only [Progress.step, Conditions.failures]
    cases failing .deactivateOrphans with
    | some fault => exact .nothing rfl rfl (by simp)
    | none => exact .listed (owners_ite rfl rfl)
  | repairProducers owners => exact .producers (.inr rfl) rfl
  | repairConsumers owners count => exact .consumers (.inr rfl) rfl
  | purge =>
    simp only [Progress.step, callPurge, guarded, Conditions.failures]
    cases failing .purgePoison with
    | some fault => exact .nothing rfl rfl (by simp)
    | none => exact .purged
  | finished => exact .nothing rfl rfl (by simp)

section
variable {failing : Call → Option Ledger.Fault} {bounds : Rule.Bounds} {progress : Progress}
  {ledger : Ledger}

/-- The update of connections looks at each listed record as it is by then; every other
pass leaves the connections alone. -/
theorem connections_pass :
    (progress.step (.failures failing) bounds ledger).2.connections =
      match progress.pass, failing .deactivateConnections with
      | .retireConnections stale, none =>
        ledger.connections.mapValues fun id record =>
          if id ∈ stale then record.liveFrom bounds.cutoff else record
      | _, _ => ledger.connections := by
  have heffect := effect_pass failing bounds progress ledger
  generalize progress.pass = pass, (progress.step _ bounds ledger).1.pass = next,
    (progress.step _ bounds ledger).2 = after at heffect ⊢
  cases heffect with
  | connections calm =>
    -- One by one in the order of the list is the same as all at once.
    rw [calm]
    exact congrArg Ledger.connections (retireConnections_eq _ _)
  | nothing unowned whole failed =>
    -- Were the update due and in order, it would have had its effect.
    split
    next stale hcalm => exact absurd hcalm (failed stale rfl)
    next => rfl
  | listed | purged => rfl
  | producers due | consumers due => rcases due with rfl | rfl <;> rfl

/-- Children that a pass has no owners for stay as they are. -/
theorem retireOwned_nil (children : Roster String Child) :
    (retireOwned [] children).2 = children := by
  dsimp only [retireOwned]
  apply Roster.mapValues_eq_self
  intro id record _
  simp [Child.isOwned]

/-- A pass over children retires those of its owners, unless its call fails. A repair that
is under way does not fail any more. -/
theorem childrenOf_pass (kind : Kind) :
    ∃ owners, childrenOf (progress.step (.failures failing) bounds ledger).2 kind =
        (retireOwned owners (childrenOf ledger kind)).2 ∧
      (owners = progress.pass.retires kind ∨ owners = [] ∧ progress.pass.isRepair = false) := by
  -- A pass that is not about this kind retires the children of nobody.
  have hkeep : childrenOf ledger kind = (retireOwned [] (childrenOf ledger kind)).2 :=
    (retireOwned_nil _).symm
  have heffect := effect_pass failing bounds progress ledger
  generalize progress.pass = pass, (progress.step _ bounds ledger).1.pass = next,
    (progress.step _ bounds ledger).2 = after at heffect ⊢
  cases heffect with
  | nothing unowned whole => exact ⟨[], hkeep, .inr ⟨rfl, whole⟩⟩
  | listed => exact ⟨[], hkeep, .inl rfl⟩
  | connections =>
    rw [retireConnections_eq]
    exact ⟨[], hkeep, .inl rfl⟩
  | producers due =>
    cases kind with
    | producer => exact ⟨_, rfl, .inl (by rcases due with rfl | rfl <;> rfl)⟩
    | consumer => exact ⟨[], hkeep, .inl (by rcases due with rfl | rfl <;> rfl)⟩
  | consumers due =>
    cases kind with
    | producer => exact ⟨[], hkeep, .inl (by rcases due with rfl | rfl <;> rfl)⟩
    | consumer => exact ⟨_, rfl, .inl (by rcases due with rfl | rfl <;> rfl)⟩
  | purged => exact ⟨[], hkeep, .inl rfl⟩

/-- A pass leaves records under their own ids. -/
theorem filed_pass (hfiled : ledger.Filed) :
    (progress.step (.failures failing) bounds ledger).2.Filed := by
  have heffect := effect_pass failing bounds progress ledger
  generalize progress.pass = pass, (progress.step _ bounds ledger).1.pass = next,
    (progress.step _ bounds ledger).2 = after at heffect ⊢
  cases heffect with
  | nothing | listed => exact hfiled
  | connections => exact hfiled.retireConnections _ _
  | producers => exact { hfiled with producers := keyedBy_retireOwned hfiled.producers _ }
  | consumers => exact { hfiled with consumers := keyedBy_retireOwned hfiled.consumers _ }
  | purged => exact hfiled.purge _

/-- What an update of connections reports is inactive after it. -/
theorem livesIn_of_mem_retired {cutoff : Timestamp} {ids : List String} {id : String}
    (h : id ∈ (ledger.retireConnections cutoff ids).1) :
    livesIn (ledger.retireConnections cutoff ids).2.connections id = false := by
  rw [fst_retireConnections, List.mem_eraseDups, List.mem_filter] at h
  obtain ⟨hmem, hstale⟩ := h
  rw [retireConnections_eq, livesIn, Roster.find?_mapValues]
  cases hfind : ledger.connections.find? id with
  | none => simp [hfind] at hstale
  | some record =>
    have hrecord : record.isStale cutoff = true := by simpa [hfind] using hstale
    simp [hmem, Connection.liveFrom_of_isStale hrecord]

/-- A pass hands on only owners that it was handed or that are inactive by then. -/
theorem owners_pass (hfiled : ledger.Filed) {id : String}
    (h : id ∈ (progress.step (.failures failing) bounds ledger).1.pass.owners) :
    id ∈ progress.pass.owners ∨
      livesIn (progress.step (.failures failing) bounds ledger).2.connections id = false := by
  have heffect := effect_pass failing bounds progress ledger
  generalize progress.pass = pass, (progress.step _ bounds ledger).1.pass = next,
    (progress.step _ bounds ledger).2 = after at heffect h ⊢
  cases heffect with
  | nothing unowned => simp [unowned] at h
  -- The two passes that hand on owners of their own found them inactive or made them so.
  | listed inactive => exact .inr ((mem_inactiveIds_iff hfiled).mp (inactive ▸ h))
  | connections calm retired => exact .inr (livesIn_of_mem_retired (retired ▸ h))
  | producers due same => exact .inl (by rcases due with rfl | rfl <;> exact same ▸ h)
  | consumers due unowned => simp [unowned] at h
  | purged => simp [Pass.owners] at h

end

/-! ### What one event does to one record -/

variable {traffic : Traffic}

/-- Inserting a child does not touch the connections. -/
theorem connections_insertChild (ledger : Ledger) (kind : Kind) (record : Child) :
    (insertChild ledger kind record).2.connections = ledger.connections := by
  cases kind with
  | producer =>
    rw [insertChild, insertProducer]
    split <;> rfl
  | consumer =>
    rw [insertChild, insertConsumer]
    split <;> rfl

/-- Inserting a message does not touch the connections. -/
theorem connections_insertPoison (ledger : Ledger) (record : PoisonMessage) :
    (ledger.insertPoison record).2.connections = ledger.connections := by
  rw [insertPoison]
  split <;> rfl

/-- A pass goes over the ledger and moves the sweep on. -/
theorem step_passed (traffic : Traffic) (failing : Call → Option Ledger.Fault) :
    traffic.step (.passed failing) =
      { traffic with
        ledger := (traffic.progress.step (.failures failing) traffic.bounds traffic.ledger).2
        progress :=
          (traffic.progress.step (.failures failing) traffic.bounds traffic.ledger).1 } := rfl

/-- A pass updates the children of a kind by the owners that it retires for this kind, or, before a
repair, by none where the call fails. -/
theorem childrenOf_passed (traffic : Traffic) (failing : Call → Option Ledger.Fault)
    (kind : Kind) :
    ∃ owners, childrenOf (traffic.step (.passed failing)).ledger kind =
        (retireOwned owners (childrenOf traffic.ledger kind)).2 ∧
      (owners = traffic.progress.pass.retires kind ∨
        owners = [] ∧ traffic.progress.pass.isRepair = false) := childrenOf_pass kind

/-- What an event makes of a connection that has a record: it is heard of, or the update of
connections judges it by the time that is stored then. -/
def revise (traffic : Traffic) (id : String) (record : Connection) : Event → Connection
  | .heard other at_ => if id = other then { record with lastHeartbeat := at_ } else record
  | .passed failing =>
    match traffic.progress.pass, failing .deactivateConnections with
    | .retireConnections stale, none =>
      if id ∈ stale then record.liveFrom traffic.bounds.cutoff else record
    | _, _ => record
  | _ => record

/-- After any event, a connection that was there is there with the record that the event leaves it.
-/
theorem connection_step {id : String} {record : Connection}
    (h : traffic.ledger.connections.find? id = some record) (event : Event) :
    (traffic.step event).ledger.connections.find? id =
      some (traffic.revise id record event) := by
  cases event with
  | began bounds =>
    rw [step]
    split <;> exact h
  | passed failing =>
    rw [step_passed, revise, connections_pass]
    split
    · rw [Roster.find?_mapValues, h, Option.map_some]
    · exact h
  | connected id' at_ =>
    rw [step]
    split
    · exact h
    next hfresh =>
      -- The new id is one without a record, so this record is under another one.
      have hne : id ≠ id' := by
        rintro rfl
        exact hfresh (by simp [Roster.contains, h])
      show (traffic.ledger.connections.set id' _).find? id = some record
      rw [Roster.find?_set, if_neg hne, h]
  | heard other at_ =>
    rw [step, snd_callHeartbeat_calm, Roster.find?_mapValues, h]
    rfl
  | added kind child =>
    rw [step, connections_insertChild, h]
    rfl
  | parked message =>
    rw [step, connections_insertPoison, h]
    rfl

/-- No event brings an inactive record back: a sign of life moves its time only, and an update turns
records inactive. -/
theorem isActive_revise {id : String} {record : Connection} (h : record.isActive = false)
    (event : Event) : (traffic.revise id record event).isActive = false := by
  unfold revise
  split
  · split <;> exact h
  · split
    · split
      · rw [Connection.liveFrom, h, Bool.false_and]
      · exact h
    · exact h
  · exact h

/-- Only children of the owners of a pass are turned inactive by it. -/
theorem retires_subset (pass : Pass) (kind : Kind) : pass.retires kind ⊆ pass.owners := by
  cases pass <;> cases kind <;> simp [Pass.retires, Pass.owners]

/-- A child that is there stays as it is when another is added. -/
theorem find?_insertChild {ledger : Ledger} {kind : Kind} {id : String} {child : Child}
    (h : (childrenOf ledger kind).find? id = some child) (other : Kind) (record : Child) :
    (childrenOf (insertChild ledger other record).2 kind).find? id = some child := by
  have hadd : ∀ children : Roster String Child, children.find? id = some child →
      (children.add record.id record).2.find? id = some child := by
    intro children hfind
    rw [Roster.find?_add]
    split
    next heq => rw [← heq, hfind, Option.getD_some]
    next => exact hfind
  -- A child of the other kind is out of reach; one of the same kind is added beside it.
  cases other with
  | producer =>
    rw [insertChild, insertProducer]
    split
    next producers heq =>
      cases kind with
      | producer =>
        have hkept := hadd _ h
        rwa [childrenOf, heq] at hkept
      | consumer => exact h
    next => exact h
  | consumer =>
    rw [insertChild, insertConsumer]
    split
    next consumers heq =>
      cases kind with
      | producer => exact h
      | consumer =>
        have hkept := hadd _ h
        rwa [childrenOf, heq] at hkept
    next => exact h

/-- What an event can do to a child that is there: the pass that is due works on its
owner. -/
theorem child_step {kind : Kind} {id : String} {child : Child}
    (h : (childrenOf traffic.ledger kind).find? id = some child) (event : Event) :
    ∃ child', (childrenOf (traffic.step event).ledger kind).find? id = some child' ∧
      (child' = child ∨
        (∃ failing, event = .passed failing) ∧ child.connection ∈ traffic.progress.pass.owners ∧
          child' = { child with isActive := false }) := by
  cases event with
  | began bounds =>
    refine ⟨child, ?_, .inl rfl⟩
    rw [step]
    split <;> exact h
  | passed failing =>
    obtain ⟨owners, hchildren, howners⟩ := childrenOf_passed traffic failing kind
    rw [hchildren, find?_retireOwned, h, Option.map_some]
    refine ⟨_, rfl, ?_⟩
    -- It is retired only if the pass has its owner, and then the pass had it before.
    split
    next howned =>
      have hmem : child.connection ∈ owners := by
        rw [Child.isOwned, Bool.and_eq_true, decide_eq_true_iff] at howned
        exact howned.2
      rcases howners with rfl | ⟨rfl, -⟩
      · exact .inr ⟨⟨failing, rfl⟩, retires_subset _ _ hmem, rfl⟩
      · exact absurd hmem List.not_mem_nil
    next => exact .inl rfl
  | connected id' at_ =>
    refine ⟨child, ?_, .inl rfl⟩
    rw [step]
    split
    · exact h
    · cases kind <;> exact h
  | heard id' at_ =>
    refine ⟨child, ?_, .inl rfl⟩
    rw [step, snd_callHeartbeat_calm]
    cases kind <;> exact h
  | added other record => exact ⟨child, find?_insertChild h other record, .inl rfl⟩
  | parked record =>
    refine ⟨child, ?_, .inl rfl⟩
    rw [step, insertPoison]
    split <;> cases kind <;> exact h

/-- Clients do not move the sweep on. -/
theorem progress_client (traffic : Traffic) {event : Event} (h : event.isClient = true) :
    (traffic.step event).progress = traffic.progress ∧
      (traffic.step event).bounds = traffic.bounds := by
  cases event with
  | began | passed => cases h
  | connected id at_ =>
    rw [step]
    split <;> exact ⟨rfl, rfl⟩
  | heard | added | parked => exact ⟨rfl, rfl⟩

end Traffic

end Gatekeeper.Sweep
