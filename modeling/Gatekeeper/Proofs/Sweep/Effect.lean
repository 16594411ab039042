import Gatekeeper.Proofs.Sweep.Calls

/-!
# `Gatekeeper.Proofs.Sweep.Effect`: what one sweep does

`Ledger.swept` is the ledger after a sweep in which no call fails and nobody else writes,
given record by record, and `Ledger.sweepReport` is the report of that sweep, given in terms
of the ledger before it. `sweep_calm` shows that the five calls of a sweep come to this.

The calls feed each other: the second works on what the first found, the third on what
the second retired, and the fourth on whatever is inactive then. `livesIn_liveFrom` is
where they meet. A connection does not live after the second call if it did not live
before or was retired, and never both; so the third and fourth call together reach each
child of such a connection once.

* `sweepAt?_calm`: the records after a sweep and its report, for every ledger whose
  records stand under their own ids.
-/

set_option autoImplicit false

namespace Gatekeeper

open Gatekeeper.Ledger Gatekeeper.Sweep Gatekeeper.Text.Utf8

namespace Ledger

/-- The ledger after a sweep with these bounds in which nothing goes wrong. -/
def swept (ledger : Ledger) (bounds : Rule.Bounds) : Ledger :=
  (ledger.liveFrom bounds.cutoff).followOwners.messagesFrom bounds.horizon

/-- The report of that sweep. -/
def sweepReport (ledger : Ledger) (bounds : Rule.Bounds) : Report where
  staleFound := (ledger.stale bounds.cutoff).length
  retired := ledger.stale bounds.cutoff
  cascaded := ledger.countChildren (·.isOwned (ledger.stale bounds.cutoff))
  repaired := ledger.countChildren fun child =>
    child.isActive && !livesIn ledger.connections child.connection
  purged := ledger.poison.values.countP (·.createdAt < bounds.horizon)
  failed := []

variable {ledger : Ledger}

/-- A connection lives after the update if it lived before and was not stale. -/
theorem livesIn_liveFrom (hfiled : ledger.Filed) (cutoff : Timestamp) (id : String) :
    livesIn (ledger.liveFrom cutoff).connections id =
      (livesIn ledger.connections id && !decide (id ∈ ledger.stale cutoff)) := by
  rw [livesIn, livesIn, liveFrom, Roster.find?_mapValues]
  cases hfind : ledger.connections.find? id with
  | none =>
    have hnot : id ∉ ledger.stale cutoff := by
      intro hmem
      obtain ⟨record, hrecord, -⟩ := (mem_stale_iff hfiled).mp hmem
      cases hfind.symm.trans hrecord
    simp [hnot]
  | some record =>
    -- On a filed ledger, an id is listed just if the record under it is stale.
    have hmem : id ∈ ledger.stale cutoff ↔ record.isStale cutoff = true := by
      rw [mem_stale_iff hfiled, hfind]
      simp
    cases hstale : record.isStale cutoff with
    | true => simp [hmem, hstale, Connection.liveFrom_of_isStale hstale]
    | false => simp [hmem, hstale, Connection.liveFrom_of_not_isStale hstale]

/-- What is stale lives still. -/
theorem livesIn_of_mem_stale (hfiled : ledger.Filed) {cutoff : Timestamp} {id : String}
    (h : id ∈ ledger.stale cutoff) : livesIn ledger.connections id = true := by
  obtain ⟨record, hfind, hstale⟩ := (mem_stale_iff hfiled).mp h
  rw [livesIn, hfind]
  exact (Connection.isStale_iff.mp hstale).1

/-- The update of all connections leaves them under their ids. -/
theorem filed_liveFrom (hfiled : ledger.Filed) (cutoff : Timestamp) :
    (ledger.liveFrom cutoff).Filed := by
  have hretired := hfiled.retireConnections cutoff (ledger.stale cutoff)
  rwa [retireConnections_stale hfiled] at hretired

end Ledger

namespace Sweep

variable {ledger : Ledger}

/-- The first three calls: every stale connection is retired, and its children with it. -/
theorem retireStale_calm (hfiled : ledger.Filed) (cutoff : Timestamp) :
    retireStale .calm cutoff ledger =
      ({ Report.empty with
          staleFound := (ledger.stale cutoff).length
          retired := ledger.stale cutoff
          cascaded := ledger.countChildren (·.isOwned (ledger.stale cutoff)) },
        (ledger.liveFrom cutoff).mapChildren
          (·.liveUnder fun id => !decide (id ∈ ledger.stale cutoff))) := by
  have hretire := retireConnections_stale hfiled cutoff
  have hchildren := retireChildren_eq (ledger.liveFrom cutoff) (ledger.stale cutoff)
  simp only [retireStale, callFindStale, callDeactivateConnections, callDeactivateChildren, guarded,
    Conditions.calm]
  -- An empty find ends the chain where the calls would have had nothing to do.
  cases hstale : ledger.stale cutoff with
  | nil =>
    rw [hstale] at hretire hchildren
    have hledger : ledger = ledger.liveFrom cutoff := congrArg Prod.snd hretire
    rw [retireChildren_nil, ← hledger] at hchildren
    obtain ⟨hzero, hkeep⟩ := Prod.mk.inj hchildren
    rw [← hledger, ← hkeep, ← hzero]
    rfl
  | cons id rest =>
    rw [hstale] at hretire hchildren
    simp only [List.isEmpty_cons, Bool.false_eq_true, if_false, hretire, hchildren]
    rfl

/-- The fourth call. The connections that are inactive by now were inactive before, or the
first three calls retired them and turned their children. -/
theorem retireOrphans_calm (hfiled : ledger.Filed) (cutoff : Timestamp) :
    ((ledger.liveFrom cutoff).mapChildren
        (·.liveUnder fun id => !decide (id ∈ ledger.stale cutoff))).retireOrphans =
      (ledger.countChildren fun child =>
          child.isActive && !livesIn ledger.connections child.connection,
        (ledger.liveFrom cutoff).followOwners) := by
  have hcascaded := (filed_liveFrom hfiled cutoff).retireChildren (ledger.stale cutoff)
  rw [retireChildren_eq] at hcascaded
  rw [retireOrphans_eq hcascaded, countChildren_mapChildren, followOwners, mapChildren_mapChildren]
  -- Turning children changes no connection.
  have hlives : ∀ id, livesIn ((ledger.liveFrom cutoff).mapChildren
      (·.liveUnder fun id => !decide (id ∈ ledger.stale cutoff))).connections id =
        (livesIn ledger.connections id && !decide (id ∈ ledger.stale cutoff)) :=
    livesIn_liveFrom hfiled cutoff
  apply Prod.ext
  · show ledger.countChildren _ = ledger.countChildren _
    congr 1
    funext child
    rw [Function.comp_apply, Child.liveUnder, hlives]
    -- The children of stale connections are turned already, so the repair does not count
    -- them.
    by_cases hmem : child.connection ∈ ledger.stale cutoff
    · simp [hmem, livesIn_of_mem_stale hfiled hmem]
    · simp [hmem]
  · show (ledger.liveFrom cutoff).mapChildren _ = (ledger.liveFrom cutoff).mapChildren _
    congr 1
    funext child
    rw [Function.comp_apply, Child.liveUnder_liveUnder]
    congr 1
    funext id
    rw [hlives, livesIn_liveFrom hfiled]
    cases livesIn ledger.connections id <;> simp

/-- A sweep in which no call fails, with nobody in between. -/
theorem sweep_calm (hfiled : ledger.Filed) (bounds : Rule.Bounds) :
    sweep .calm bounds ledger = (ledger.sweepReport bounds, ledger.swept bounds) := by
  rw [sweep_eq, retireStale_calm hfiled]
  simp only [finish, repairOrphans, purgePoison, callDeactivateOrphans, callPurge, guarded,
    Conditions.calm, retireOrphans_calm hfiled, purge_eq]
  rfl

/-- The bounds of a sweep at a reading of the clock, for a rule with the given silence. -/
def boundsAt (rule : Rule) (silence : Duration) (now : Timestamp) : Rule.Bounds :=
  ⟨now.before silence, now.before rule.poisonRetention⟩

/-- With a rule that has a silence, every reading of the clock has a sweep, and its report is
counted. -/
theorem sweepAt?_eq {rule : Rule} {silence : Duration} (hsilence : rule.staleAfter? = some silence)
    (conditions : Conditions) (now : Timestamp) (ledger : Ledger) (metrics : Metrics) :
    sweepAt? rule conditions now ledger metrics =
      some ((sweep conditions (boundsAt rule silence now) ledger).1,
        (sweep conditions (boundsAt rule silence now) ledger).2,
        (sweep conditions (boundsAt rule silence now) ledger).1.record metrics) := by
  rw [sweepAt?, Rule.bounds?, hsilence]
  rfl

/-- **The effect of one sweep** on any ledger whose records stand under their own ids, when no
call fails and nobody else writes. The cutoff and the horizon are the instants that lie the
silence and the retention before the reading of the clock, or the least instant.

Connections keep everything but their liveness, and live on if they lived and were heard of
from the cutoff on. Children keep everything but their liveness, and live on if they lived
and their connection lives after the sweep or does not exist. Of the messages, those from the
horizon on are left as they were.

The report lists the connections that were retired, each once and in the order of their
bytes. It counts the children of those that turned inactive, apart from them the children of
connections that were inactive before, and the messages removed. -/
theorem sweepAt?_calm {rule : Rule} {silence : Duration}
    (hsilence : rule.staleAfter? = some silence) {ledger : Ledger} (hfiled : ledger.Filed)
    (now : Timestamp) (metrics : Metrics) :
    let cutoff := now.before silence
    let horizon := now.before rule.poisonRetention
    ∃ report after,
      sweepAt? rule .calm now ledger metrics = some (report, after, report.record metrics) ∧
      after.connections = ledger.connections.mapValues (fun _ record =>
        { record with
          isActive := record.isActive && decide (cutoff ≤ record.lastHeartbeat) }) ∧
      after.producers = ledger.producers.mapValues (fun _ child =>
        { child with
          isActive := child.isActive &&
            (after.connections.find? child.connection).all (·.isActive) }) ∧
      after.consumers = ledger.consumers.mapValues (fun _ child =>
        { child with
          isActive := child.isActive &&
            (after.connections.find? child.connection).all (·.isActive) }) ∧
      after.poison =
        ledger.poison.filter (fun _ message => decide (horizon ≤ message.createdAt)) ∧
      (∀ id, id ∈ report.retired ↔ ∃ record, ledger.connections.find? id = some record ∧
        record.isActive = true ∧ record.lastHeartbeat < cutoff) ∧
      report.retired.Nodup ∧
      report.retired.Pairwise (fun a b => BytesBefore (encodeString a) (encodeString b)) ∧
      report.staleFound = report.retired.length ∧
      report.cascaded = ledger.countChildren (fun child =>
        child.isActive && decide (child.connection ∈ report.retired)) ∧
      report.repaired = ledger.countChildren (fun child =>
        child.isActive && (ledger.connections.find? child.connection).any (!·.isActive)) ∧
      report.purged = ledger.poison.values.countP (fun message => message.createdAt < horizon) ∧
      report.failed = [] := by
  intro cutoff horizon
  have hsweep := sweepAt?_eq hsilence .calm now ledger metrics
  rw [sweep_calm hfiled] at hsweep
  refine ⟨_, _, hsweep, rfl, rfl, rfl, rfl, fun id => ?_, nodup_stale hfiled cutoff,
    pairwise_stale hfiled cutoff, rfl, rfl, ?_, rfl, rfl⟩
  · show id ∈ ledger.stale cutoff ↔ _
    rw [mem_stale_iff hfiled]
    simp only [Connection.isStale_iff]
  -- Children without a connection are not repaired, and neither count has them.
  · show ledger.countChildren _ = ledger.countChildren _
    congr 1
    funext child
    rw [livesIn]
    cases ledger.connections.find? child.connection <;> rfl

/-- A connection that was silent for a nanosecond too long, with its producer, beside one that
was heard of just now. -/
theorem sweepAt?_calm_of_silent :
    let now : Timestamp := ⟨90, 1, by decide, by decide, by decide, by decide⟩
    let ledger := (((Ledger.empty.upsertConnection ⟨"a", .epoch, true⟩).upsertConnection
      ⟨"b", now, true⟩).insertProducer ⟨"p", "a", true⟩).2
    ∃ report after,
      sweepAt? .standard .calm now ledger .empty = some (report, after, report.record .empty) ∧
      ("a" ∈ report.retired ∧ "b" ∉ report.retired) ∧
      after.connections.find? "a" = some ⟨"a", .epoch, false⟩ ∧
      after.connections.find? "b" = some ⟨"b", now, true⟩ ∧
      after.producers.find? "p" = some ⟨"p", "a", false⟩ := by
  intro now ledger
  have hsilence : Rule.standard.staleAfter? = some (.ofSeconds 90) := rfl
  have hfiled : ledger.Filed :=
    ((filed_empty.upsertConnection _).upsertConnection _).insertProducer _
  obtain ⟨report, after, hsweep, hconnections, hproducers, -, -, hretired, -⟩ :=
    sweepAt?_calm hsilence hfiled now .empty
  refine ⟨report, after, hsweep, ⟨?_, ?_⟩, ?_, ?_, ?_⟩
  · exact (hretired "a").mpr ⟨⟨"a", .epoch, true⟩, rfl, rfl, by decide⟩
  · rw [hretired]
    rintro ⟨record, hfind, -, hstale⟩
    cases hfind
    exact absurd hstale (by decide)
  · rw [hconnections]
    decide
  · rw [hconnections]
    decide
  · rw [hproducers, hconnections]
    decide

end Sweep

end Gatekeeper
