import ProofPlatform.AgentStore.LiveStarts
import ProofPlatform.AgentStore.StoredCheckpoints

/-! Live starts in the SQLite store: on rows that read back, it does what memory does. -/
namespace ProofPlatform.AgentRows
open Kernel Executor Library Fallible List Transaction Tx Statements Table
open Trace AgentStore

variable (P : Primitives) (T : TextFormats) (R : Readers) (parseInstant : String → Option Instant)

/-- The start is on record with its claim, and the run it started goes on. -/
structure LiveStartOnRecord (t : AgentTables) (claim : LiveRunStartClaim) (run : AgentRun)
    (checkpoint : AgentCheckpoint) (event : AgentRunEvent) : Prop where
  valid : claim.validateInitialBundle P parseInstant run checkpoint event = .ok ()
  claimed : claimRow T claim run checkpoint.id event.id ∈ t.claims
  claimRead : R.claim (claimJson claim) = some claim
  initialRead : R.run (runJson T run) = some run
  checkpointStored : checkpointRow T checkpoint ∈ t.checkpoints
  checkpointRead : R.checkpoint (checkpointJson T checkpoint) = some checkpoint
  eventStored : eventRow T event ∈ t.events
  eventRead : R.event (eventJson T event) = some event
  current : ∃ current, runRow T current ∈ t.runs ∧ R.run (runJson T current) = some current ∧
    current.revision < 2 ^ 63 ∧ current.continues run = true

/-- What a claim would write reads back. -/
structure ClaimReadsBack (call : ClaimCall) : Prop where
  claim : R.claim (claimJson call.claim) = some call.claim
  run : R.run (runJson T call.run) = some call.run
  checkpoint : R.checkpoint (checkpointJson T call.checkpoint) = some call.checkpoint
  event : R.event (eventJson T call.event) = some call.event

/-- So does what another write would write. -/
def WriteReadsBack : RunWrite → Prop
  | .run saved => R.run (runJson T saved) = some saved
  | .append _ saved | .checkpoint saved => R.checkpoint (checkpointJson T saved) = some saved
  | .event saved => R.event (eventJson T saved) = some saved

def agentWrite : RunWrite → AgentWrite
  | .run saved => .run saved
  | .append expectedTail candidate => .append expectedTail candidate
  | .checkpoint saved => .checkpoint saved
  | .event saved => .event saved

/-- The call on the tables. -/
abbrev claimOnTables (call : ClaimCall) :=
  claimLiveRunStart P T R parseInstant call.claim call.run call.checkpoint call.event

def AgentTables.withStart (t : AgentTables) (call : ClaimCall) : AgentTables :=
  { t with
    runs := t.runs ++ [runRow T call.run]
    checkpoints := t.checkpoints ++ [checkpointRow T call.checkpoint]
    events := t.events ++ [eventRow T call.event]
    claims := t.claims ++ [claimRow T call.claim call.run call.checkpoint.id call.event.id] }

variable {P T R parseInstant} {o : Nat → Bool} {t t' : AgentTables} {n n' : Nat}

theorem yields_orConflict {α : Type} {value : Option α} {a : α} (h : value = some a) (message : String) :
    Yields (orConflict value message) o t a t := by
  subst h
  exact yields_lift rfl

theorem LiveStartOnRecord.yields_validateExisting {claim : LiveRunStartClaim} {run : AgentRun}
    {checkpoint : AgentCheckpoint} {event : AgentRunEvent}
    (h : LiveStartOnRecord P T R parseInstant t claim run checkpoint event) (hruns : Keyed RunRow.id t.runs)
    (hcheckpoints : Keyed CheckpointRow.id t.checkpoints) (hevents : Keyed EventRow.id t.events) :
    Yields (validateExistingLiveStartClaim P T R parseInstant claim (claimRow T claim run checkpoint.id event.id)) o t
      run.id t := by
  have hinitial := initial_of_valid h.valid
  obtain ⟨current, hcurrent, hcurrentRead, hrevision, hcontinues⟩ := h.current
  have hcheckpoint : (t.checkpoints.find? fun row => decide (row.id = checkpoint.id ∧ row.runId = run.id ∧
      row.sequence = 0)) = some (checkpointRow T checkpoint) :=
    hcheckpoints.find_of_mem h.checkpointStored
      (decide_eq_true ⟨rfl, hinitial.checkpointRun, hinitial.checkpointFirst⟩)
      fun row hrow => (of_decide_eq_true hrow).1
  have hevent : (t.events.find? fun row => decide (row.id = event.id ∧ row.runId = run.id ∧ row.sequence = 0 ∧
      row.kind = .started)) = some (eventRow T event) :=
    hevents.find_of_mem h.eventStored
      (decide_eq_true ⟨rfl, hinitial.eventRun, hinitial.eventFirst, hinitial.kind⟩)
      fun row hrow => (of_decide_eq_true hrow).1
  have hrun : t.run? run.id = some (runRow T current) := by
    rw [← id_of_continues hcontinues]
    exact hruns.lookup_of_mem hcurrent
  refine yields_bind (yields_orConflict h.claimRead _) (yields_bind (yields_orConflict h.initialRead _) ?_)
  refine yields_bind (yields_conflictIf (by simp [ClaimRow.columnsMatch, claimRow]) _) ?_
  refine yields_bind (yields_select _) (yields_bind (yields_orConflict hcheckpoint _) ?_)
  refine yields_bind (yields_select _) (yields_bind (yields_orConflict hevent _) ?_)
  refine yields_bind (yields_select _) (yields_bind (yields_orConflict hrun _) ?_)
  refine yields_bind (yields_orConflict h.checkpointRead _) (yields_bind (yields_orConflict h.eventRead _) ?_)
  refine yields_bind (yields_orConflict hcurrentRead _) (yields_bind (yields_lift (by rw [h.valid]; rfl)) ?_)
  refine yields_bind (yields_conflictIf (by simp [checkpointRow, eventRow, runRow]) _) ?_
  refine yields_bind (yields_lift (if_pos hrevision)) (yields_bind (yields_conflictIf (by simp [runRow]) _) ?_)
  exact yields_bind (yields_conflictIf (by rw [hcontinues]; rfl) _) (yields_pure _)

theorem start_claimRow {call : ClaimCall} (hread : ClaimReadsBack T R call) :
    ClaimRow.start R (startRow T ⟨call.claim, call.run, call.checkpoint.id, call.event.id⟩) =
      some ⟨call.claim, call.run, call.checkpoint.id, call.event.id⟩ := by
  simp [startRow, claimRow, ClaimRow.start, hread.claim, hread.run]

namespace AgentTables.ReadsBack
variable (hback : t.ReadsBack T R)
include hback

theorem runs_eq : t.runs = (t.view R).runs.map (runRow T) := hback.runs.map_decoded.symm

theorem checkpoints_eq : t.checkpoints = (t.view R).checkpoints.map (checkpointRow T) :=
  hback.checkpoints.map_decoded.symm

theorem events_eq : t.events = (t.view R).events.map (eventRow T) := hback.events.map_decoded.symm

theorem claims_eq : t.claims = (t.view R).liveStartClaims.map (startRow T) := hback.claims.map_decoded.symm

/-- The identifiers of the rows are those of the records. -/
theorem keyed (h : Sound P parseInstant (t.view R)) :
    Keyed RunRow.id t.runs ∧ Keyed CheckpointRow.id t.checkpoints ∧ Keyed EventRow.id t.events := by
  rw [Keyed, Keyed, Keyed, hback.runs_eq, hback.checkpoints_eq, hback.events_eq, map_map, map_map, map_map]
  exact ⟨h.runs, h.checkpoints, h.events⟩

theorem withStart {call : ClaimCall} (hread : ClaimReadsBack T R call) (hrevision : call.run.revision < 2 ^ 63) :
    (t.withStart T call).ReadsBack T R where
  runs := hback.runs.append hread.run
  revisions row hrow := by
    rcases mem_append.mp hrow with hold | hlast
    · exact hback.revisions row hold
    · rw [mem_singleton.mp hlast]
      exact hrevision
  checkpoints := Encodes.append hback.checkpoints hread.checkpoint
  events := hback.events.append hread.event
  claims := hback.claims.append (start_claimRow hread)

end AgentTables.ReadsBack

theorem view_withStart {call : ClaimCall} (hread : ClaimReadsBack T R call) :
    (t.withStart T call).view R = (t.view R).withStart call := by
  have hruns : (t.withStart T call).runs.filterMap (fun row => R.run row.runJson) = (t.view R).runs ++ [call.run] :=
    filterMap_append_decode hread.run
  have hcheckpoints : (t.withStart T call).checkpoints.filterMap (fun row => R.checkpoint row.checkpointJson) =
      (t.view R).checkpoints ++ [call.checkpoint] := filterMap_append_decode hread.checkpoint
  have hevents : (t.withStart T call).events.filterMap (fun row => R.event row.eventJson) =
      (t.view R).events ++ [call.event] := filterMap_append_decode hread.event
  have hclaims : (t.withStart T call).claims.filterMap (ClaimRow.start R) = (t.view R).liveStartClaims ++
      [⟨call.claim, call.run, call.checkpoint.id, call.event.id⟩] := filterMap_append_decode (start_claimRow hread)
  rw [AgentTables.view, hruns, hcheckpoints, hevents, hclaims]
  rfl

/-! ### Writes between claims -/

section Writes
variable {write : RunWrite} {answer : WriteAnswer} (hback : t.ReadsBack T R)
include hback

theorem checkpoint_added {checkpoint : AgentCheckpoint}
    (hread : R.checkpoint (checkpointJson T checkpoint) = some checkpoint)
    (hconstraint : checkpointConstraint (checkpointRow T checkpoint) t = true) :
    let t' : AgentTables := { t with checkpoints := t.checkpoints ++ [checkpointRow T checkpoint] }
    t'.view R = (RunWrite.checkpoint checkpoint).record (t.view R) ∧ t'.ReadsBack T R ∧
      (RunWrite.checkpoint checkpoint).Fits (t.view R) := by
  simp only [checkpointConstraint, Bool.and_eq_true, Bool.not_eq_true', any_eq_false] at hconstraint
  obtain ⟨hput, hnew⟩ := filterMap_put CheckpointRow.id hread hback.checkpoints
    fun row hrow hid => hconstraint.2 row hrow (decide_eq_true (.inl hid))
  refine ⟨?_, { hback with checkpoints := Encodes.append hback.checkpoints hread }, fun stored hstored hid => absurd hid
    (hnew stored hstored)⟩
  rw [AgentTables.view, hput]
  rfl

theorem event_added {event : AgentRunEvent} (hread : R.event (eventJson T event) = some event)
    (hconstraint : eventConstraint (eventRow T event) t = true) :
    let t' : AgentTables := { t with events := t.events ++ [eventRow T event] }
    t'.view R = (RunWrite.event event).record (t.view R) ∧ t'.ReadsBack T R ∧
      (RunWrite.event event).Fits (t.view R) := by
  simp only [eventConstraint, Bool.and_eq_true, Bool.not_eq_true', any_eq_false] at hconstraint
  obtain ⟨hput, hnew⟩ := filterMap_put EventRow.id hread hback.events
    fun row hrow hid => hconstraint.2 row hrow (decide_eq_true (.inl hid))
  refine ⟨?_, { hback with events := hback.events.append hread }, fun stored hstored hid => absurd hid
    (hnew stored hstored)⟩
  rw [AgentTables.view, hput]
  rfl

/-- A legal successor keeps its creation time, so the stored row is the new run's. -/
theorem runs_upserted {run : AgentRun} (hlegal : (RunWrite.run run).Legal (t.view R)) :
    t.upsertRun (runRow T run) = { t with runs := (put AgentRun.id run (t.view R).runs).map (runRow T) } := by
  have hany : (t.runs.any fun stored => decide (stored.id = (runRow T run).id)) =
      (t.view R).runs.any fun stored => decide (stored.id = run.id) := by
    rw [hback.runs_eq, any_map]
    rfl
  rw [AgentTables.upsertRun, hany, put]
  split
  · simp only [hback.runs_eq, updateWhere, map_map]
    refine congrArg (fun runs => { t with runs := runs }) (map_congr_left fun stored hstored => ?_)
    simp only [Function.comp_apply]
    by_cases hid : stored.id = run.id
    · have hcreated : stored.createdAt = run.createdAt := by
        have hcontinues := hlegal.continues hstored hid
        simp only [AgentRun.continues, Bool.and_eq_true, beq_iff_eq] at hcontinues
        grind
      simp [runRow, hid, hcreated]
    · simp [runRow, hid]
  · rw [map_append, ← hback.runs_eq]
    rfl

theorem run_saved {run : AgentRun} (hlegal : (RunWrite.run run).Legal (t.view R))
    (hread : R.run (runJson T run) = some run) (hrevision : run.revision < 2 ^ 63) :
    (t.upsertRun (runRow T run)).view R = (RunWrite.run run).record (t.view R) ∧
      (t.upsertRun (runRow T run)).ReadsBack T R := by
  have hreads : ∀ stored ∈ put AgentRun.id run (t.view R).runs, R.run (runRow T stored).runJson = some stored := by
    intro stored hstored
    rcases mem_put.mp hstored with ⟨hmem, -⟩ | rfl
    · exact hback.runs.decode_of_mem hmem
    · exact hread
  rw [runs_upserted hback hlegal]
  refine ⟨?_, { hback with runs := encodes_map hreads, revisions := ?_ }⟩
  · have hruns : ((put AgentRun.id run (t.view R).runs).map (runRow T)).filterMap (fun row => R.run row.runJson) =
        put AgentRun.id run (t.view R).runs := filterMap_map_decode hreads
    rw [AgentTables.view, hruns]
    rfl
  · intro row hrow
    obtain ⟨stored, hstored, rfl⟩ := mem_map.mp hrow
    rcases mem_put.mp hstored with ⟨hmem, -⟩ | rfl
    · exact hback.revisions _ (hback.runs_eq ▸ mem_map_of_mem hmem)
    · exact hrevision

/-- What the SQLite store does between claims is the effect that the write has on the records. -/
theorem effect_perform (h : Sound P parseInstant (t.view R)) (hlegal : write.Legal (t.view R))
    (hread : WriteReadsBack T R write)
    (hr : Returns ((agentWrite write).perform P T R parseInstant) o t n answer t' n') :
    Effect (t.view R) write answer (t'.view R) ∧ t'.ReadsBack T R := by
  cases write with
  | run run =>
    obtain ⟨_, hsaved, rfl⟩ := returns_bind_pure hr
    rcases returns_saveAgentRun hsaved with ⟨rfl, row, hrow, hjson⟩ | ⟨rfl, -, hrevision⟩
    · have hmem : run ∈ (t'.view R).runs := mem_filterMap.mpr ⟨row, hrow, hjson ▸ hread⟩
      exact ⟨.of_onRecord h hmem (by simp), hback⟩
    · obtain ⟨hview, hback'⟩ := run_saved hback hlegal hread hrevision
      exact ⟨hview ▸ .recorded (by simp) trivial, hback'⟩
  | append expectedTail checkpoint =>
    obtain ⟨result, hsaved, rfl⟩ := returns_bind_pure hr
    simp only [appendAgentCheckpoint, returns_lift_bind, returns_conflictIf_bind, returns_atomically] at hsaved
    obtain ⟨_, -, _, -, -, happended⟩ := hsaved
    rcases returns_appendInTransaction happended with ⟨rfl, rfl | ⟨rfl, hrow⟩⟩ | ⟨rfl, rfl, -, hconstraint⟩
    · exact ⟨.stale, hback⟩
    · have hmem : checkpoint ∈ (t'.view R).checkpoints := mem_filterMap.mpr ⟨_, hrow, hread⟩
      exact ⟨.of_onRecord h hmem (by simp), hback⟩
    · obtain ⟨hview, hback', hfits⟩ := checkpoint_added hback hread hconstraint
      exact ⟨hview ▸ .recorded (by simp) hfits, hback'⟩
  | checkpoint checkpoint =>
    obtain ⟨_, hsaved, rfl⟩ := returns_bind_pure hr
    rcases returns_saveAgentCheckpoint hsaved with ⟨rfl, row, hrow, hjson⟩ | ⟨rfl, -, hconstraint⟩
    · have hmem : checkpoint ∈ (t'.view R).checkpoints := mem_filterMap.mpr ⟨row, hrow, hjson ▸ hread⟩
      exact ⟨.of_onRecord h hmem (by simp), hback⟩
    · obtain ⟨hview, hback', hfits⟩ := checkpoint_added hback hread hconstraint
      exact ⟨hview ▸ .recorded (by simp) hfits, hback'⟩
  | event event =>
    obtain ⟨_, hsaved, rfl⟩ := returns_bind_pure hr
    rcases returns_saveAgentRunEvent hsaved with ⟨rfl, row, hrow, hjson⟩ | ⟨rfl, -, hconstraint, -⟩
    · have hmem : event ∈ (t'.view R).events := mem_filterMap.mpr ⟨row, hrow, hjson ▸ hread⟩
      exact ⟨.of_onRecord h hmem (by simp), hback⟩
    · obtain ⟨hview, hback', hfits⟩ := event_added hback hread hconstraint
      exact ⟨hview ▸ .recorded (by simp) hfits, hback'⟩

end Writes

theorem traceless_agentWrite (write : RunWrite) : Traceless ((agentWrite write).perform P T R parseInstant) := by
  cases write with
  | append expectedTail candidate => exact traceless_bind_pure (traceless_appendAgentCheckpoint _ _) _
  | run | checkpoint | event => exact traceless_bind_pure (traceless_atomically _) _

/-! ### Claims -/

section Claims
variable {call : ClaimCall} {claim : LiveRunStartClaim} {start : RecordingLiveRunStartClaim}
  {result : LiveRunStartClaimResult}

theorem traceless_claimOnTables (call : ClaimCall) : Traceless (claimOnTables P T R parseInstant call) :=
  traceless_lift_bind fun _ => traceless_atomically _

/-- The columns that a first claim fixes have those values in every valid bundle. -/
theorem initial_rows (hvalid : call.Valid P parseInstant) :
    { runRow T call.run with mode := .session, status := .running } = runRow T call.run ∧
      { checkpointRow T call.checkpoint with runId := call.run.id, sequence := 0 } = checkpointRow T call.checkpoint ∧
      { eventRow T call.event with runId := call.run.id, sequence := 0, kind := .started } = eventRow T call.event := by
  obtain ⟨-, -, hmode, hstatus, -, hcrun, hcsequence, herun, hesequence, hkind⟩ := initial_of_valid hvalid
  simp [runRow, checkpointRow, eventRow, hcrun, hcsequence, herun, hesequence, hkind, hmode, hstatus]

theorem clashes_view (hback : t.ReadsBack T R) : call.clashes (t.view R) = false ↔
    (∀ row ∈ t.runs, row.id ≠ call.run.id) ∧
      (∀ row ∈ t.checkpoints, ¬ (row.id = call.checkpoint.id ∨ row.runId = call.run.id ∧ row.sequence = 0)) ∧
      ∀ row ∈ t.events, ¬ (row.id = call.event.id ∨ row.runId = call.run.id ∧ row.sequence = 0) := by
  rw [clashes_eq_false, hback.runs_eq, hback.checkpoints_eq, hback.events_eq]
  simp only [forall_mem_map]
  rfl

theorem returns_writeLiveStart (hvalid : call.Valid P parseInstant) (hback : t.ReadsBack T R)
    (hr : Returns (writeLiveStart T call.claim call.run call.checkpoint call.event) o t n result t' n') :
    result = .acquired ∧ t' = t.withStart T call ∧ call.clashes (t.view R) = false := by
  have hinitial := initial_of_valid hvalid
  obtain ⟨hrunRow, hcheckpointRow, heventRow⟩ := initial_rows (T := T) hvalid
  simp only [writeLiveStart, orConflict, returns_lift_bind, insertRun, insertCheckpoint, insertEvent, insertClaim,
    returns_execute_bind, returns_statement_bind, returns_pure, hrunRow, hcheckpointRow, heventRow] at hr
  obtain ⟨_, -, _, -, -, hrun, -, hcheckpoint, -, hevent, -, -, -, rfl, rfl, -⟩ := hr
  refine ⟨rfl, rfl, (clashes_view hback).mpr ?_⟩
  simp only [checkpointConstraint, eventConstraint, Bool.and_eq_true, Bool.not_eq_true', any_eq_false,
    decide_eq_true_eq] at hrun hcheckpoint hevent
  simp only [checkpointRow, eventRow, hinitial.checkpointRun, hinitial.checkpointFirst, hinitial.eventRun,
    hinitial.eventFirst] at hcheckpoint hevent
  exact ⟨hrun, hcheckpoint.2, hevent.2⟩

section
variable (hback : t.ReadsBack T R) (h : Sound P parseInstant (t.view R))
include hback h

theorem yields_writeLiveStart (hvalid : call.Valid P parseInstant)
    (hnew : ∀ start ∈ (t.view R).liveStartClaims, ¬ start.Shares call.claim)
    (hclashes : call.clashes (t.view R) = false) :
    Yields (writeLiveStart T call.claim call.run call.checkpoint call.event) o t .acquired (t.withStart T call) := by
  have hinitial := initial_of_valid hvalid
  obtain ⟨agent, hagent⟩ := hinitial.agent
  obtain ⟨hrunRow, hcheckpointRow, heventRow⟩ := initial_rows (T := T) hvalid
  obtain ⟨hrun, hcheckpoint, hevent⟩ := (clashes_view hback).mp hclashes
  unfold writeLiveStart
  rw [hrunRow, hcheckpointRow, heventRow]
  refine yields_bind (yields_orConflict hagent _)
    (yields_bind (yields_lift (if_pos (by rw [hinitial.revision]; decide))) ?_)
  refine yields_bind (yields_execute ?_ rfl) (yields_bind (yields_execute ?_ rfl) (yields_bind (yields_execute ?_ rfl)
    (yields_bind (yields_execute ?_ rfl) (yields_bind yields_statement (yields_pure _)))))
  · simp only [Bool.not_eq_true', any_eq_false, decide_eq_true_eq]
    exact hrun
  · simp only [checkpointConstraint, Bool.and_eq_true, Bool.not_eq_true', any_eq_true, any_eq_false, decide_eq_true_eq,
      checkpointRow, hinitial.checkpointRun, hinitial.checkpointFirst]
    exact ⟨⟨runRow T call.run, mem_append_right _ mem_cons_self, rfl⟩, hcheckpoint⟩
  · simp only [eventConstraint, Bool.and_eq_true, Bool.not_eq_true', any_eq_true, any_eq_false, decide_eq_true_eq,
      eventRow, hinitial.eventRun, hinitial.eventFirst]
    exact ⟨⟨runRow T call.run, mem_append_right _ mem_cons_self, rfl⟩, hevent⟩
  · simp only [claimConstraint, Bool.and_eq_true, Bool.not_eq_true', any_eq_false, any_eq_true, decide_eq_true_eq,
      and_assoc]
    refine ⟨?_, ⟨_, mem_append_right _ mem_cons_self, rfl⟩, ⟨_, mem_append_right _ mem_cons_self, rfl⟩,
      ⟨_, mem_append_right _ mem_cons_self, rfl⟩⟩
    rw [hback.claims_eq]
    simp only [forall_mem_map]
    intro start hstart
    -- An earlier claim names rows that were there before, so none of those of this call.
    obtain ⟨⟨run, hmem, hcontinues⟩, checkpoint, hcmem, event, hemem, hcid, heid, -⟩ := h.started start hstart
    obtain ⟨hrun, hcheckpoint, hevent⟩ := clashes_eq_false.mp hclashes
    rintro (heq | heq | heq | heq | heq)
    · exact hnew start hstart (.inl heq)
    · exact hnew start hstart (.inr heq)
    · exact hrun run hmem ((id_of_continues hcontinues).trans heq)
    · exact hcheckpoint checkpoint hcmem (.inl (hcid.trans heq))
    · exact hevent event hemem (.inl (heid.trans heq))

omit h in
theorem matching_eq (claim : LiveRunStartClaim) : t.matching claim =
    ((t.view R).liveStartClaims.filter fun start => decide (start.Shares claim)).map (startRow T) := by
  rw [AgentTables.matching, hback.claims_eq, filter_map]
  rfl

theorem yields_validateExisting (hstart : start ∈ (t.view R).liveStartClaims) :
    Yields (validateExistingLiveStartClaim P T R parseInstant start.claim (startRow T start)) o t
      start.initialRun.id t := by
  obtain ⟨⟨run, hrun, hcontinues⟩, checkpoint, hcheckpoint, event, hevent, hcid, heid, hvalid⟩ := h.started start hstart
  have hclaimed : startRow T start ∈ t.claims := hback.claims_eq ▸ mem_map_of_mem hstart
  have hrow : runRow T run ∈ t.runs := hback.runs_eq ▸ mem_map_of_mem hrun
  have hread := hback.claims.decode_of_mem hstart
  simp only [ClaimRow.start, Option.bind_eq_bind, Option.bind_eq_some_iff] at hread
  obtain ⟨claim', hclaim', run', hrun', hsome⟩ := hread
  obtain rfl : claim' = start.claim := congrArg RecordingLiveRunStartClaim.claim (Option.some.inj hsome)
  obtain rfl : run' = start.initialRun := congrArg RecordingLiveRunStartClaim.initialRun (Option.some.inj hsome)
  have hrecord : LiveStartOnRecord P T R parseInstant t start.claim start.initialRun checkpoint event := by
    refine ⟨hvalid, ?_, hclaim', hrun', hback.checkpoints_eq ▸ mem_map_of_mem hcheckpoint,
      hback.checkpoints.decode_of_mem hcheckpoint, hback.events_eq ▸ mem_map_of_mem hevent,
      hback.events.decode_of_mem hevent, run, hrow, hback.runs.decode_of_mem hrun, hback.revisions _ hrow, hcontinues⟩
    rw [hcid, heid]
    exact hclaimed
  obtain ⟨hruns, hcheckpoints, hevents⟩ := hback.keyed h
  have hyields := hrecord.yields_validateExisting (o := o) hruns hcheckpoints hevents
  rw [hcid, heid] at hyields
  exact hyields

/-- A claim that is answered is one that the records behind the rows answer. -/
theorem sqlite_claim_ok (hr : Returns (claimOnTables P T R parseInstant call) o t n result t' n') :
    ∃ answer, call.inMemory P parseInstant (t.view R) = .ok answer := by
  simp only [claimLiveRunStart, returns_lift_bind, mapError_eq_ok, returns_atomically, returns_statement_bind,
    returns_select_bind, matching_eq hback] at hr
  obtain ⟨⟨⟩, hbundle, -, -, hr⟩ := hr
  have hvalid : call.Valid P parseInstant := hbundle
  by_cases hshares : ∃ start ∈ (t.view R).liveStartClaims, start.Shares call.claim
  · obtain ⟨start, hstart, hshares⟩ := hshares
    by_cases hclaim : start.claim = call.claim
    · exact ⟨_, h.claim_existing hvalid hstart hclaim⟩
    · exact ⟨_, h.claim_conflict hvalid hstart hshares hclaim⟩
  · have hnew : ∀ start ∈ (t.view R).liveStartClaims, ¬ start.Shares call.claim :=
      fun start hstart hs => hshares ⟨start, hstart, hs⟩
    rw [filter_eq_nil_iff.mpr (by simpa using hnew)] at hr
    obtain ⟨-, -, hclashes⟩ := returns_writeLiveStart hvalid hback hr
    exact ⟨_, (claim_new hvalid hnew).trans (if_neg (by simp [hclashes]))⟩

/-- A claim that the records answer is answered alike, and leaves the rows of what they become. -/
theorem sqlite_claim {store' : RecordingAgentRunStore}
    (hok : call.inMemory P parseInstant (t.view R) = .ok (result, store')) :
    Yields (claimOnTables P T R parseInstant call) o t result
      (if result = .acquired then t.withStart T call else t) := by
  have hvalid := valid_of_ok hok
  refine yields_bind (yields_lift (mapError_eq_ok.mpr hvalid)) (yields_atomically ?_)
  refine yields_bind yields_statement (yields_bind (yields_select _) ?_)
  rw [matching_eq hback]
  rcases hfilter : (t.view R).liveStartClaims.filter fun start => decide (start.Shares call.claim) with
    _ | ⟨first, _ | ⟨second, more⟩⟩
  · have hnew : ∀ start ∈ (t.view R).liveStartClaims, ¬ start.Shares call.claim := by
      simpa using filter_eq_nil_iff.mp hfilter
    rw [claim_new hvalid hnew] at hok
    split at hok
    · cases hok
    · rename_i hfree
      cases hok
      rw [hfilter]
      exact yields_writeLiveStart hback h hvalid hnew (by simpa using hfree)
  · obtain ⟨hfirst, hshares⟩ := mem_filter.mp (hfilter ▸ mem_cons_self : first ∈ (t.view R).liveStartClaims.filter _)
    rw [hfilter, map_cons, map_nil, settleLiveStart]
    split
    · rename_i hne
      have hclaim : first.claim ≠ call.claim := by
        rintro heq
        simp [startRow, claimRow, heq] at hne
      cases hok.symm.trans (h.claim_conflict hvalid hfirst (of_decide_eq_true hshares) hclaim)
      exact yields_bind yields_statement (yields_pure _)
    · rename_i hsame
      simp only [ne_eq, not_or, not_not] at hsame
      -- Both claims passed validation, so their schema is the same.
      obtain ⟨-, _, -, _, -, -, -, hbundle⟩ := h.started first hfirst
      have hschema := (initial_of_valid hbundle).schema.trans (initial_of_valid hvalid).schema.symm
      have hclaim : first.claim = call.claim := claim_ext hschema hsame.1 hsame.2
      cases hok.symm.trans (h.claim_existing hvalid hfirst hclaim)
      exact yields_bind (hclaim ▸ yields_validateExisting hback h hfirst) (yields_bind yields_statement (yields_pure _))
  · obtain ⟨start, hstart, hshares, hclaim⟩ := h.conflict_of_many hfilter
    cases hok.symm.trans (h.claim_conflict hvalid hstart hshares hclaim)
    rw [hfilter]
    exact yields_bind yields_statement (yields_pure _)

end
end Claims
end ProofPlatform.AgentRows
