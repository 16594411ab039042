import Gatekeeper.Proofs.Sweep.Traffic

/-!
# `Gatekeeper.Proofs.Sweep.Retirement`: who is retired while clients are at work

The ids that a pass works on may be old by the time it does. Two facts make that harmless:

* the update of connections looks at each record again (`connection_step`), so an old list
  of stale ids retires nobody who was heard of since;
* the owners whose children a pass retires are inactive (`Sound.owners`), and they stay so,
  because nothing brings an inactive connection back (`livesIn_step`).

Everything about runs follows from what one event does, by induction on the events.

* `retirements_run`: when connections and children turn inactive in any run, that they stay
  so, and what a repair of orphans leaves behind.
-/

set_option autoImplicit false

namespace Gatekeeper.Sweep

open Gatekeeper.Ledger

namespace Traffic

variable {traffic : Traffic}

/-! ### What every run keeps -/

/-- What every ledger in use keeps: records stand under their own ids, and the owners that
the sweep works on are inactive. -/
structure Sound (traffic : Traffic) : Prop where
  filed : traffic.ledger.Filed
  owners : ∀ id ∈ traffic.progress.pass.owners, livesIn traffic.ledger.connections id = false

/-- Before its first pass a sweep works on no owner. -/
theorem sound_start {ledger : Ledger} (hfiled : ledger.Filed) (bounds : Rule.Bounds) :
    (start ledger bounds).Sound := ⟨hfiled, nofun⟩

/-- A connection does not live just if it has a record, and that is inactive. -/
theorem livesIn_eq_false_iff {connections : Roster String Connection} {id : String} :
    livesIn connections id = false ↔
      ∃ record, connections.find? id = some record ∧ record.isActive = false := by
  rw [livesIn]
  cases connections.find? id <;> simp

/-- Nothing brings an inactive connection back. -/
theorem livesIn_step {id : String} (h : livesIn traffic.ledger.connections id = false)
    (event : Event) : livesIn (traffic.step event).ledger.connections id = false := by
  rw [livesIn_eq_false_iff] at h ⊢
  obtain ⟨record, hfind, hinactive⟩ := h
  exact ⟨_, connection_step hfind event, isActive_revise hinactive event⟩

/-- Every event keeps the invariant. -/
theorem sound_step (hsound : traffic.Sound) (event : Event) : (traffic.step event).Sound := by
  refine ⟨?_, fun id hmem => ?_⟩
  · cases event with
    | began bounds =>
      rw [step]
      split <;> exact hsound.filed
    | passed failing => exact filed_pass hsound.filed
    | connected id at_ =>
      rw [step]
      split
      · exact hsound.filed
      · exact hsound.filed.upsertConnection _
    | heard id at_ => exact hsound.filed.callHeartbeat id at_
    | added kind record =>
      cases kind with
      | producer => exact hsound.filed.insertProducer record
      | consumer => exact hsound.filed.insertConsumer record
    | parked record => exact hsound.filed.insertPoison record
  · -- The owners of the next pass come with this one, or it found them inactive.
    have hold : id ∈ traffic.progress.pass.owners →
        livesIn (traffic.step event).ledger.connections id = false :=
      fun hmem => livesIn_step (hsound.owners id hmem) event
    cases event with
    | passed failing => exact (owners_pass hsound.filed hmem).elim hold fun hinactive => hinactive
    | began bounds =>
      rw [step] at hmem
      split at hmem
      · exact absurd hmem List.not_mem_nil
      · exact hold hmem
    | connected id' at_ =>
      rw [step] at hmem
      split at hmem <;> exact hold hmem
    | heard | added | parked => exact hold hmem

/-- By induction, every run keeps records under their ids and the owners inactive. -/
theorem sound_run {events : List Event} (hsound : traffic.Sound) : (traffic.run events).Sound := by
  induction events generalizing traffic with
  | nil => exact hsound
  | cons event rest ih => exact ih (sound_step hsound event)

/-- An inactive connection keeps its record and stays inactive. -/
theorem livesIn_run {id : String} (h : livesIn traffic.ledger.connections id = false)
    (events : List Event) : livesIn (traffic.run events).ledger.connections id = false := by
  induction events generalizing traffic with
  | nil => exact h
  | cons event rest ih => exact ih (livesIn_step h event)

/-- A child keeps its record and its owner, and once it is inactive it stays so. -/
theorem child_run {kind : Kind} {id : String} {child : Child}
    (h : (childrenOf traffic.ledger kind).find? id = some child) (events : List Event) :
    ∃ child', (childrenOf (traffic.run events).ledger kind).find? id = some child' ∧
      child'.connection = child.connection ∧
      (child.isActive = false → child'.isActive = false) := by
  induction events generalizing traffic child with
  | nil => exact ⟨child, h, rfl, fun hinactive => hinactive⟩
  | cons event rest ih =>
    obtain ⟨child', hfind, hchange⟩ := child_step h event
    obtain ⟨last, hlast, howner, hinactive⟩ := ih hfind
    rcases hchange with rfl | ⟨-, -, rfl⟩
    · exact ⟨last, hlast, howner, hinactive⟩
    · exact ⟨last, hlast, howner, fun _ => hinactive rfl⟩

/-! ### Between the query and the update -/

/-- When a connection was last heard of, if that was at `since` before the events. -/
def lastHeard (id : String) (since : Timestamp) : List Event → Timestamp
  | [] => since
  | .heard other at_ :: rest => lastHeard id (if id = other then at_ else since) rest
  | _ :: rest => lastHeard id since rest

/-- Clients change a connection only by its being heard of. -/
theorem clients_run {clients : List Event} (hclients : ∀ event ∈ clients, event.isClient = true)
    {id : String} {record : Connection}
    (h : traffic.ledger.connections.find? id = some record) :
    (traffic.run clients).progress = traffic.progress ∧
      (traffic.run clients).bounds = traffic.bounds ∧
      (traffic.run clients).ledger.connections.find? id =
        some { record with lastHeartbeat := lastHeard id record.lastHeartbeat clients } := by
  -- Each event leaves the record with another time at most, and the rest start from that.
  induction clients generalizing traffic record with
  | nil => exact ⟨rfl, rfl, h⟩
  | cons event rest ih =>
    have hclient : event.isClient = true := hclients event List.mem_cons_self
    obtain ⟨hprogress, hbounds⟩ := progress_client traffic hclient
    obtain ⟨hprogress', hbounds', hfind⟩ :=
      ih (fun event hmem => hclients event (List.mem_cons_of_mem _ hmem)) (connection_step h event)
    refine ⟨hprogress'.trans hprogress, hbounds'.trans hbounds, hfind.trans ?_⟩
    cases event with
    | began | passed => cases hclient
    | heard other at_ =>
      rw [revise, lastHeard]
      split <;> rfl
    | connected | added | parked => rfl

/-! ### After a repair of orphans -/

/-- Every child of a kind is still there, under its owner. -/
def Kept (before : Ledger) (traffic : Traffic) (kind : Kind) : Prop :=
  ∀ id child, (childrenOf before kind).find? id = some child →
    ∃ child', (childrenOf traffic.ledger kind).find? id = some child' ∧
      child'.connection = child.connection

/-- The children of a kind that were there before under owners that were inactive then are
inactive now. -/
def Repaired (before : Ledger) (traffic : Traffic) (kind : Kind) : Prop :=
  ∀ id child, (childrenOf before kind).find? id = some child →
    livesIn before.connections child.connection = false →
    ∃ child', (childrenOf traffic.ledger kind).find? id = some child' ∧
      child'.connection = child.connection ∧ child'.isActive = false

/-- How far the repair is that read the inactive connections of the ledger `before`. -/
inductive Repairing (before : Ledger) (traffic : Traffic) : Prop where
  | producersDue (pass : traffic.progress.pass = .repairProducers before.inactiveIds)
      (kept : ∀ kind, Kept before traffic kind)
  | consumersDue
      (pass : ∃ count, traffic.progress.pass = .repairConsumers before.inactiveIds count)
      (kept : Kept before traffic .consumer) (producers : Repaired before traffic .producer)
  | done (all : ∀ kind, Repaired before traffic kind)

variable {before : Ledger}

/-- No event takes a child away from its owner. -/
theorem kept_step {kind : Kind} (h : Kept before traffic kind) (event : Event) :
    Kept before (traffic.step event) kind := by
  intro id child hfind
  obtain ⟨now, hnow, hsame⟩ := h id child hfind
  obtain ⟨next, hnext, rfl | ⟨-, -, rfl⟩⟩ := child_step hnow event
  · exact ⟨_, hnext, hsame⟩
  · exact ⟨_, hnext, hsame⟩

/-- No event makes a repaired child live again: its id is taken, and nothing else sets it live. -/
theorem repaired_step {kind : Kind} (h : Repaired before traffic kind) (event : Event) :
    Repaired before (traffic.step event) kind := by
  intro id child hfind howner
  obtain ⟨now, hnow, hsame, hinactive⟩ := h id child hfind howner
  obtain ⟨next, hnext, rfl | ⟨-, -, rfl⟩⟩ := child_step hnow event
  · exact ⟨_, hnext, hsame, hinactive⟩
  · exact ⟨_, hnext, hsame, rfl⟩

/-- A pass of a repair leaves no child of its kind active whose owner was read as inactive. -/
theorem repaired_passed (hfiled : before.Filed) {kind : Kind} (hkept : Kept before traffic kind)
    (hrepair : traffic.progress.pass.isRepair = true)
    (hretires : traffic.progress.pass.retires kind = before.inactiveIds)
    (failing : Call → Option Ledger.Fault) :
    Repaired before (traffic.step (.passed failing)) kind := by
  intro id child hfind howner
  obtain ⟨now, hnow, hsame⟩ := hkept id child hfind
  obtain ⟨owners, hchildren, rfl | ⟨-, hwhole⟩⟩ := childrenOf_passed traffic failing kind
  · -- The owner was read as inactive, so it is one of those whose children are retired now.
    have howned : child.connection ∈ traffic.progress.pass.retires kind :=
      hretires ▸ (mem_inactiveIds_iff hfiled).mpr howner
    rw [hchildren, find?_retireOwned, hnow, Option.map_some]
    refine ⟨_, rfl, ?_⟩
    cases hactive : now.isActive with
    | false => simp [Child.isOwned, hactive, hsame]
    | true => simp [Child.isOwned, hactive, howned, hsame]
  · cases hrepair.symm.trans hwhole

/-- Nobody but the sweep itself moves a repair on. -/
theorem progress_step_of_isRepair (h : traffic.progress.pass.isRepair = true) (event : Event) :
    (∃ failing, event = .passed failing) ∨ (traffic.step event).progress = traffic.progress := by
  cases event with
  | passed failing => exact .inl ⟨failing, rfl⟩
  | began bounds =>
    rw [step]
    split
    next hfinished => simp [hfinished, Pass.isRepair] at h
    next => exact .inr rfl
  | connected | heard | added | parked => exact .inr (progress_client traffic rfl).1

/-- Every event takes a repair a step on or leaves it where it is. -/
theorem repairing_step (hfiled : before.Filed) (h : Repairing before traffic) (event : Event) :
    Repairing before (traffic.step event) := by
  cases h with
  | producersDue pass kept =>
    have hrepair : traffic.progress.pass.isRepair = true := by rw [pass]; rfl
    obtain ⟨failing, rfl⟩ | hsame := progress_step_of_isRepair hrepair event
    · -- The pass over the producers hands the same owners on to that over the consumers.
      have hnext : (traffic.step (.passed failing)).progress.pass = .repairConsumers
          before.inactiveIds (traffic.ledger.retireProducers before.inactiveIds).1 := by
        rw [step_passed, Progress.step, pass]
      exact .consumersDue ⟨_, hnext⟩ (kept_step (kept _) _)
        (repaired_passed hfiled (kept _) hrepair (by rw [pass]; rfl) _)
    · exact .producersDue (hsame ▸ pass) fun kind => kept_step (kept kind) event
  | consumersDue pass kept producers =>
    obtain ⟨count, pass⟩ := pass
    have hrepair : traffic.progress.pass.isRepair = true := by rw [pass]; rfl
    obtain ⟨failing, rfl⟩ | hsame := progress_step_of_isRepair hrepair event
    · -- The producers were done before, and what was done stays done.
      refine .done fun kind => ?_
      cases kind with
      | producer => exact repaired_step producers _
      | consumer => exact repaired_passed hfiled kept hrepair (by rw [pass]; rfl) _
    · exact .consumersDue ⟨count, hsame ▸ pass⟩ (kept_step kept event)
        (repaired_step producers event)
  | done all => exact .done fun kind => repaired_step (all kind) event

/-- A repair begins by reading which connections are inactive. -/
theorem repairing_start (hsound : traffic.Sound) (hpass : traffic.progress.pass = .findInactive)
    {failing : Call → Option Ledger.Fault} (hcalm : failing .deactivateOrphans = none) :
    Repairing traffic.ledger (traffic.step (.passed failing)) := by
  have hstep : traffic.progress.step (.failures failing) traffic.bounds traffic.ledger =
      (⟨if traffic.ledger.inactiveIds.isEmpty then .purge
        else .repairProducers traffic.ledger.inactiveIds, traffic.progress.report⟩,
        traffic.ledger) := by
    simp only [Progress.step, hpass, Conditions.failures, hcalm]
  rw [step_passed, hstep]
  by_cases hnone : traffic.ledger.inactiveIds.isEmpty
  · -- Nobody is inactive, so there is nobody whose children are to be inactive.
    refine .done fun kind id child _ howner => ?_
    have hmem := (mem_inactiveIds_iff hsound.filed).mpr howner
    simp [List.isEmpty_iff.mp hnone] at hmem
  · exact .producersDue (if_neg hnone) fun kind id child hfind => ⟨child, hfind, rfl⟩

/-- So does a run of events, by induction. -/
theorem repairing_run (hfiled : before.Filed) (h : Repairing before traffic)
    (events : List Event) : Repairing before (traffic.run events) := by
  induction events generalizing traffic with
  | nil => exact h
  | cons event rest ih => exact ih (repairing_step hfiled h event)

/-- A repair is over when the pass that is due is not one of its own. -/
theorem Repairing.repaired (h : Repairing before traffic)
    (hover : traffic.progress.pass.isRepair = false) (kind : Kind) :
    Repaired before traffic kind := by
  cases h with
  | producersDue pass =>
    rw [pass] at hover
    cases hover
  | consumersDue pass =>
    obtain ⟨count, pass⟩ := pass
    rw [pass] at hover
    cases hover
  | done all => exact all kind

/-! ### Every run -/

/-- A connection that an event turns inactive is one that the update of connections was due
for, and its stored time is before the cutoff. -/
theorem stale_of_step {id : String} {record record' : Connection}
    (h : traffic.ledger.connections.find? id = some record) (event : Event)
    (h' : (traffic.step event).ledger.connections.find? id = some record')
    (hbefore : record.isActive = true) (hafter : record'.isActive = false) :
    ∃ failing stale, event = .passed failing ∧ failing .deactivateConnections = none ∧
      traffic.progress.pass = .retireConnections stale ∧ id ∈ stale ∧
      record.lastHeartbeat < traffic.bounds.cutoff := by
  have hrevise : (traffic.revise id record event).isActive = false := by
    have hsame := Option.some.inj ((connection_step h event).symm.trans h')
    rwa [hsame]
  -- Of all that can become of the record, only the update makes it inactive.
  unfold revise at hrevise
  split at hrevise
  · split at hrevise
    · cases hbefore.symm.trans hrevise
    · cases hbefore.symm.trans hrevise
  next failing =>
    split at hrevise
    next stale hpass hcalm =>
      split at hrevise
      next hmem =>
        refine ⟨failing, stale, rfl, hcalm, hpass, hmem, ?_⟩
        rw [Connection.liveFrom, hbefore, Bool.true_and, decide_eq_false_iff_not] at hrevise
        exact Decidable.not_not.mp hrevise
      next => cases hbefore.symm.trans hrevise
    next => cases hbefore.symm.trans hrevise
  · cases hbefore.symm.trans hrevise

/-- What the update of connections makes of a live one, after whatever clients did since the
query: it lives on unless the update takes place, it is on the list, and it was last heard of
before the cutoff. -/
theorem isActive_update {clients : List Event} {stale : List String}
    (hclients : ∀ event ∈ clients, event.isClient = true)
    (hpass : traffic.progress.pass = .retireConnections stale) {id : String}
    {record : Connection} (h : traffic.ledger.connections.find? id = some record)
    (hactive : record.isActive = true) (failing : Call → Option Ledger.Fault) :
    ∃ record', ((traffic.run clients).step (.passed failing)).ledger.connections.find? id =
        some record' ∧
      (record'.isActive = true ↔ failing .deactivateConnections ≠ none ∨ id ∉ stale ∨
        traffic.bounds.cutoff ≤ lastHeard id record.lastHeartbeat clients) := by
  obtain ⟨hprogress, hbounds, hfind⟩ := clients_run hclients h
  refine ⟨_, connection_step hfind _, ?_⟩
  rw [revise, hprogress, hpass, hbounds]
  cases hcalm : failing .deactivateConnections with
  | some fault => simp [hactive]
  | none => by_cases hmem : id ∈ stale <;> simp [hmem, hactive, Connection.liveFrom]

/-- A child that an event turns inactive belongs to a connection that is inactive, before the
event and after it. -/
theorem inactive_owner_of_step (hsound : traffic.Sound) {kind : Kind} {id : String}
    {child child' : Child} (h : (childrenOf traffic.ledger kind).find? id = some child)
    (event : Event) (h' : (childrenOf (traffic.step event).ledger kind).find? id = some child')
    (hbefore : child.isActive = true) (hafter : child'.isActive = false) :
    livesIn traffic.ledger.connections child.connection = false ∧
      livesIn (traffic.step event).ledger.connections child.connection = false := by
  -- Either the event left the child as it was, or the sweep was working on its owner.
  obtain ⟨next, hnext, rfl | ⟨-, howner, -⟩⟩ := child_step h event
  · cases hnext.symm.trans h'
    cases hbefore.symm.trans hafter
  · have hinactive := hsound.owners _ howner
    exact ⟨hinactive, livesIn_step hinactive event⟩

end Traffic

/-- **Sweeps with clients in between**, from any ledger whose records stand under their own
ids and through any run of passes and calls of clients.

* A connection turns inactive only in an update of connections whose cutoff is later than the
  time stored at that very moment. So, of a live connection on the list of the query, the
  update decides by when it was last heard of by then: it lives on exactly if that is from
  the cutoff on (or if the call fails).
* A child turns inactive only while its connection has a record that is inactive.
* What is inactive stays so.
* When a repair of orphans returns, each child that was there when it read which connections
  are inactive, under one of those, is inactive. -/
theorem retirements_run {ledger : Ledger} (hfiled : ledger.Filed) (bounds : Rule.Bounds)
    (events : List Traffic.Event) :
    let traffic := (Traffic.start ledger bounds).run events
    (∀ event id record record', traffic.ledger.connections.find? id = some record →
      (traffic.step event).ledger.connections.find? id = some record' →
      record.isActive = true → record'.isActive = false →
      ∃ failing stale, event = .passed failing ∧ failing .deactivateConnections = none ∧
        traffic.progress.pass = .retireConnections stale ∧ id ∈ stale ∧
        record.lastHeartbeat < traffic.bounds.cutoff) ∧
    (∀ clients stale id record, (∀ event ∈ clients, Traffic.Event.isClient event = true) →
      traffic.progress.pass = .retireConnections stale →
      traffic.ledger.connections.find? id = some record → record.isActive = true →
      ∀ failing, ∃ record',
        ((traffic.run clients).step (.passed failing)).ledger.connections.find? id =
          some record' ∧
        (record'.isActive = true ↔ failing .deactivateConnections ≠ none ∨ id ∉ stale ∨
          traffic.bounds.cutoff ≤ Traffic.lastHeard id record.lastHeartbeat clients)) ∧
    (∀ event kind id child child', (childrenOf traffic.ledger kind).find? id = some child →
      (childrenOf (traffic.step event).ledger kind).find? id = some child' →
      child.isActive = true → child'.isActive = false →
      ∃ owner owner', traffic.ledger.connections.find? child.connection = some owner ∧
        owner.isActive = false ∧
        (traffic.step event).ledger.connections.find? child.connection = some owner' ∧
        owner'.isActive = false) ∧
    (∀ later id record, traffic.ledger.connections.find? id = some record →
      record.isActive = false →
      ∃ record', (traffic.run later).ledger.connections.find? id = some record' ∧
        record'.isActive = false) ∧
    (∀ later kind id child, (childrenOf traffic.ledger kind).find? id = some child →
      child.isActive = false →
      ∃ child', (childrenOf (traffic.run later).ledger kind).find? id = some child' ∧
        child'.isActive = false) ∧
    (∀ failing later, traffic.progress.pass = .findInactive → failing .deactivateOrphans = none →
      ((traffic.step (.passed failing)).run later).progress.pass.isRepair = false →
      ∀ kind id child owner, (childrenOf traffic.ledger kind).find? id = some child →
        traffic.ledger.connections.find? child.connection = some owner →
        owner.isActive = false →
        ∃ child', (childrenOf ((traffic.step (.passed failing)).run later).ledger kind).find? id =
          some child' ∧ child'.isActive = false) := by
  intro traffic
  have hsound : traffic.Sound := Traffic.sound_run (Traffic.sound_start hfiled bounds)
  refine ⟨fun event id record record' h h' => Traffic.stale_of_step h event h',
    fun clients stale id record hclients hpass h hactive =>
      Traffic.isActive_update hclients hpass h hactive,
    fun event kind id child child' h h' hbefore hafter => ?_,
    fun later id record h hinactive => ?_, fun later kind id child h hinactive => ?_,
    fun failing later hpass hcalm hover kind id child owner h howner hinactive => ?_⟩
  · -- An owner that is inactive has a record that says so, before the event and after it.
    obtain ⟨hold, hnew⟩ := Traffic.inactive_owner_of_step hsound h event h' hbefore hafter
    obtain ⟨owner, hfind, howner⟩ := Traffic.livesIn_eq_false_iff.mp hold
    obtain ⟨owner', hfind', howner'⟩ := Traffic.livesIn_eq_false_iff.mp hnew
    exact ⟨owner, owner', hfind, howner, hfind', howner'⟩
  · exact Traffic.livesIn_eq_false_iff.mp
      (Traffic.livesIn_run (Traffic.livesIn_eq_false_iff.mpr ⟨record, h, hinactive⟩) later)
  · obtain ⟨child', hfind, -, hkeep⟩ := Traffic.child_run h later
    exact ⟨child', hfind, hkeep hinactive⟩
  · -- The repair is followed from its reading of the inactive connections to its return.
    have hrepairing := Traffic.repairing_run hsound.filed
      (Traffic.repairing_start hsound hpass hcalm) later
    obtain ⟨child', hfind, -, hrepaired⟩ := hrepairing.repaired hover kind id child h
      (Traffic.livesIn_eq_false_iff.mpr ⟨owner, howner, hinactive⟩)
    exact ⟨child', hfind, hrepaired⟩

/-- Two connections are stale when the sweep asks. One of them is heard of before the update
and lives on; the other one, which only added a producer, is retired. -/
theorem retirements_run_of_heard :
    let now : Timestamp := ⟨100, 0, by decide, by decide, by decide, by decide⟩
    let cutoff : Timestamp := ⟨10, 0, by decide, by decide, by decide, by decide⟩
    let ledger := ((Ledger.empty.upsertConnection ⟨"a", .epoch, true⟩).upsertConnection
      ⟨"b", .epoch, true⟩)
    let traffic := (Traffic.start ledger ⟨cutoff, .epoch⟩).run [.passed fun _ => none]
    (∃ record', ((traffic.run [.heard "a" now, .added .producer ⟨"p", "b", true⟩]).step
        (.passed fun _ => none)).ledger.connections.find? "a" = some record' ∧
      record'.isActive = true) ∧
    ∃ record', ((traffic.run [.heard "a" now, .added .producer ⟨"p", "b", true⟩]).step
        (.passed fun _ => none)).ledger.connections.find? "b" = some record' ∧
      record'.isActive = false := by
  intro now cutoff ledger traffic
  have hfiled : ledger.Filed := (filed_empty.upsertConnection _).upsertConnection _
  have hstale : "b" ∈ ledger.stale cutoff :=
    (mem_stale_iff hfiled).mpr ⟨⟨"b", .epoch, true⟩, rfl, by decide⟩
  -- After the query, the update of what it found is due.
  have hpass : traffic.progress.pass = .retireConnections (ledger.stale cutoff) := by
    show (if (ledger.stale cutoff).isEmpty then Pass.findInactive
      else .retireConnections (ledger.stale cutoff)) = _
    exact if_neg (by simpa using List.ne_nil_of_mem hstale)
  have hclients : ∀ event ∈ [Traffic.Event.heard "a" now, .added .producer ⟨"p", "b", true⟩],
      event.isClient = true := by decide
  obtain ⟨-, hupdate, -⟩ := retirements_run hfiled ⟨cutoff, .epoch⟩ [.passed fun _ => none]
  obtain ⟨a, ha, hlives⟩ := hupdate _ _ "a" ⟨"a", .epoch, true⟩ hclients hpass rfl rfl fun _ => none
  obtain ⟨b, hb, hretired⟩ :=
    hupdate _ _ "b" ⟨"b", .epoch, true⟩ hclients hpass rfl rfl fun _ => none
  refine ⟨⟨a, ha, hlives.mpr (.inr (.inr (by decide)))⟩, b, hb, ?_⟩
  rw [← Bool.not_eq_true, hretired]
  rintro (hfails | hnot | hlate)
  · exact hfails rfl
  · exact hnot hstale
  · exact absurd hlate (by decide)

end Gatekeeper.Sweep
