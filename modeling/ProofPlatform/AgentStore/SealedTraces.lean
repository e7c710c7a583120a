import ProofPlatform.AgentStore.CompareAndAppend
import ProofPlatform.AgentStore.StoredStarts

/-! Sealed traces: once a run is cancelled, or has the event that ends it in its status, no sequence of writes changes
its records or the evidence of its approvals. -/
namespace ProofPlatform.AgentRows
open Kernel Executor Library Fallible List Transaction Tx Statements
open Trace Table Bool AgentTables KeyedLog
open AgentStore (followingSequence)

/-- A step of the run is bound to the request. -/
def AgentTables.binds (t : AgentTables) (runId requestId : Uuid) : Bool :=
  (logOf StepRow.runId runId t.steps).any fun step => decide (step.approvalRequestId = some requestId)

/-- The rows of a run, and those of the approvals bound to its steps. -/
structure TraceRows where
  run : Option RunRow
  steps : List StepRow
  checkpoints : List CheckpointRow
  events : List EventRow
  requests : List RequestRow
  decisions : List DecisionRow
  executions : List ExecutionRow

def AgentTables.trace (t : AgentTables) (runId : Uuid) : TraceRows where
  run := t.run? runId
  steps := logOf StepRow.runId runId t.steps
  checkpoints := logOf CheckpointRow.runId runId t.checkpoints
  events := logOf EventRow.runId runId t.events
  requests := t.requests.filter fun row => t.binds runId row.id
  decisions := t.decisions.filter fun row => t.binds runId row.requestId
  executions := t.executions.filter fun row => t.binds runId row.requestId

/-- The events of the run stand at 0, 1, 2 and so on. -/
def AgentTables.ContiguousEvents (t : AgentTables) (runId : Uuid) : Prop :=
  (logOf EventRow.runId runId t.events).map EventRow.sequence =
    List.range (logOf EventRow.runId runId t.events).length

section Frame
variable {T : TextFormats} {t t' : AgentTables} {runId : Uuid}

theorem terminalEvents_eq :
    t.terminalEvents runId = (t.trace runId).events.filter fun event =>
      (t.trace runId).run.any fun run => sealsTrace run.status event.kind := by
  simp only [terminalEvents, trace, logOf, filter_filter, Bool.and_comm]

theorem sealed_congr (h : t'.trace runId = t.trace runId) (hsealed : t.Sealed runId) : t'.Sealed runId := by
  have hrun : t'.run? runId = t.run? runId := congrArg TraceRows.run h
  rw [Sealed, terminalEvents_eq] at hsealed ⊢
  rw [h, hrun]
  exact hsealed

/-- A request bound to a step of a sealed trace is not open. -/
theorem not_binds_of_open (hlawful : t.Lawful) (hsealed : t.Sealed runId) {requestId : Uuid}
    (hopen : t.OpenRequest requestId) : t.binds runId requestId = false := by
  refine Bool.eq_false_iff.mpr fun hbinds => ?_
  obtain ⟨step, hstep, hbound⟩ := any_eq_true.mp hbinds
  obtain ⟨hmem, rfl⟩ := mem_logOf.mp hstep
  have hbound := of_decide_eq_true hbound
  have hfind : t.boundStep? requestId = some step := by
    cases hfound : t.boundStep? requestId with
    | none => exact absurd (decide_eq_true hbound) (List.find?_eq_none.mp hfound step hmem)
    | some found =>
      have hfoundBound : found.approvalRequestId = some requestId := by simpa using List.find?_some hfound
      rw [hlawful.bindings found (mem_of_find?_eq_some hfound) step hmem (by rw [hfoundBound]; rfl)
        (hfoundBound.trans hbound.symm)]
  exact hopen step hfind hsealed

theorem run?_upsertRun {row : RunRow} (hne : row.id ≠ runId) : (t.upsertRun row).run? runId = t.run? runId := by
  unfold run? upsertRun Table.lookup
  split
  · rw [← List.head?_filter, ← List.head?_filter, filter_updateWhere]
    intro stored _ hid
    have hid := of_decide_eq_true hid
    exact ⟨decide_eq_false fun h => hne (hid.symm.trans h), decide_eq_false hne⟩
  · rw [List.find?_append, List.find?_singleton, if_neg (by simpa using hne), Option.or_none]

theorem steps_upsertStep {row : StepRow} (hlawful : t.Lawful) (hne : row.runId ≠ runId)
    (hbinding : ∀ stored, t.step? row.id = some stored → stored.runId = row.runId) :
    logOf StepRow.runId runId (t.upsertStep row).steps = logOf StepRow.runId runId t.steps := by
  unfold upsertStep logOf
  split
  · refine filter_updateWhere fun stored hstored hid => ?_
    have hfound : t.step? row.id = some stored := by
      rw [← of_decide_eq_true hid]
      exact hlawful.steps.lookup_of_mem hstored
    have hother : decide (stored.runId = runId) = false :=
      decide_eq_false fun h => hne ((hbinding stored hfound).symm.trans h)
    exact ⟨hother, hother⟩
  · exact logOf_append_other t.steps hne

theorem exists_run_of_sealed (h : t.Sealed runId) : ∃ run ∈ t.runs, run.id = runId := by
  have hsome : ∃ run, t.run? runId = some run := by
    cases hrun : t.run? runId with
    | some run => exact ⟨run, rfl⟩
    | none => simp [Sealed, terminalEvents, hrun] at h
  obtain ⟨run, hrun⟩ := hsome
  exact ⟨run, lookup_eq_some hrun⟩

theorem filter_binds_concat {ρ : Type} (request : ρ → Uuid) (rows : List ρ) {row : ρ}
    (h : t.binds runId (request row) = false) :
    (rows ++ [row]).filter (fun stored => t.binds runId (request stored)) =
      rows.filter fun stored => t.binds runId (request stored) := by
  rw [filter_append, filter_cons_of_neg (by rw [h]; exact false_ne_true), filter_nil, append_nil]

/-- No change touches a sealed trace. -/
theorem Change.trace_eq (h : Change T t t') (hlawful : t.Lawful) (hsealed : t.Sealed runId) :
    t'.trace runId = t.trace runId := by
  -- the guards say that the run written to is open, so it is another one
  have hne {other : Uuid} (hopen : ¬ t.Sealed other) : other ≠ runId := fun h => hopen (h ▸ hsealed)
  cases h with
  | none | definition | evaluation => rfl
  | run row hrecord hopen =>
    have hrun := run?_upsertRun (t := t) (hne hopen)
    rw [upsertRun_frame] at hrun ⊢
    exact congrArg (fun run => { t.trace runId with run }) hrun
  | step row hrecord hopen hbinding hconstraint =>
    have hsteps := steps_upsertStep hlawful (hne hopen) hbinding
    rw [upsertStep_frame] at hsteps ⊢
    simp only [trace, binds, hsteps]
    rfl
  | checkpoint row hrecord hopen hconstraint =>
    exact congrArg (fun checkpoints => { t.trace runId with checkpoints })
      (logOf_append_other t.checkpoints (hne hopen))
  | event row hopen hconstraint hnext =>
    exact congrArg (fun events => { t.trace runId with events }) (logOf_append_other t.events (hne hopen))
  | liveStart run checkpoint event claim hinitial hrecord hnew hcheckpoint hcheckpointNew hevent hfirst heventNew
    hclaimNew =>
    obtain ⟨stored, hstored, hid⟩ := exists_run_of_sealed hsealed
    have hother : run.id ≠ runId := fun h => hnew stored hstored (hid.trans h.symm)
    have hrun : lookup RunRow.id (t.runs ++ [run]) runId = t.run? runId := by
      rw [lookup_append run (lookup_eq_none.mpr hnew), if_neg hother.symm]
      rfl
    have hcheckpoints := logOf_append_other t.checkpoints (hcheckpoint ▸ hother)
    have hevents := logOf_append_other t.events (hevent ▸ hother)
    simp only [trace, run?, hcheckpoints, hevents, hrun]
    rfl
  | request row hopen hnew =>
    exact congrArg (fun requests => { t.trace runId with requests })
      (filter_binds_concat RequestRow.id t.requests (not_binds_of_open hlawful hsealed hopen))
  | decision row hopen hnew =>
    exact congrArg (fun decisions => { t.trace runId with decisions })
      (filter_binds_concat DecisionRow.requestId t.decisions (not_binds_of_open hlawful hsealed hopen))
  | execution row hopen hnew =>
    exact congrArg (fun executions => { t.trace runId with executions })
      (filter_binds_concat ExecutionRow.requestId t.executions (not_binds_of_open hlawful hsealed hopen))

/-- Every change leaves the events of every run at 0, 1, 2 and so on. -/
theorem Change.contiguousEvents (h : Change T t t') (hlawful : t.Lawful) (hcontiguous : t.ContiguousEvents runId) :
    t'.ContiguousEvents runId := by
  have hadd {row : EventRow} (hplace : row.runId = runId →
      row.sequence = (logOf EventRow.runId runId t.events).length) :
      (logOf EventRow.runId runId (t.events ++ [row])).map EventRow.sequence =
        List.range (logOf EventRow.runId runId (t.events ++ [row])).length := by
    by_cases hrun : row.runId = runId
    · subst hrun
      rw [logOf_append_self, map_append, hcontiguous, length_append, length_singleton,
        range_succ, map_singleton, hplace rfl]
    · rw [logOf_append_other t.events hrun]
      exact hcontiguous
  cases h with
  | none | definition | evaluation | checkpoint | request | decision | execution => exact hcontiguous
  | run row hrecord hopen =>
    rw [upsertRun_frame]
    exact hcontiguous
  | step row hrecord hopen hbinding hconstraint =>
    rw [upsertStep_frame]
    exact hcontiguous
  | event row hopen hconstraint hnext => exact hadd fun hrun => hrun ▸ hnext
  | liveStart run checkpoint event claim hinitial hrecord hnew hcheckpoint hcheckpointNew hevent hfirst heventNew
    hclaimNew =>
    refine hadd fun hrun => ?_
    -- an event of a run that had no row before is the first one
    have hnone : logOf EventRow.runId runId t.events = [] := by
      refine eq_nil_iff_forall_not_mem.mpr fun stored hstored => ?_
      obtain ⟨hmem, hid⟩ := mem_logOf.mp hstored
      obtain ⟨owner, howner, hownerId⟩ := hlawful.eventRuns stored hmem
      exact hnew owner howner (hownerId.trans (hid.trans (hrun.symm.trans hevent)))
    rw [hfirst, hnone]
    rfl

end Frame

/-! Writing a record again. -/

def CheckpointRow.tail (row : CheckpointRow) : AgentCheckpointTail where
  checkpointId := row.id
  sequence := row.sequence
  stateDigest := row.stateDigest

variable (P : Primitives) (T : TextFormats) (R : Readers) (parseInstant : String → Option Instant)

/-- The row reads back as a checkpoint whose columns and digest are right. -/
def CheckpointRow.Intact (row : CheckpointRow) : Prop :=
  ∃ checkpoint, validateStoredCheckpoint P T R row none = .ok checkpoint

/-- The checkpoint is on record after the tail given, and intact, as are the newest of its run and the one before it.
-/
structure AppendOnRecord (t : AgentTables) (expectedTail : Option AgentCheckpointTail) (checkpoint : AgentCheckpoint) :
    Prop where
  stored : checkpointRow T checkpoint ∈ t.checkpoints
  newest : ∀ row, t.currentCheckpoint checkpoint.runId = some row → row.Intact P T R
  own : (checkpointRow T checkpoint).Intact P T R
  preceding : ∀ row, t.checkpointAt checkpoint.runId (checkpoint.sequence - 1) = some row → 0 < checkpoint.sequence →
    row.Intact P T R
  follows : followingSequence expectedTail = some checkpoint.sequence
  tail : ∀ tail, expectedTail = some tail →
    ∃ row ∈ t.checkpoints, row.runId = checkpoint.runId ∧ row.tail = tail

variable (t : AgentTables)

/-- What the write would write is on record already. -/
def AgentWrite.OnRecord : AgentWrite → Prop
  | .definition agent => definitionRow T agent ∈ t.definitions
  | .event recorded => eventRow T recorded ∈ t.events
  | .liveStart claim initialRun initialCheckpoint startedEvent =>
    LiveStartOnRecord P T R parseInstant t claim initialRun initialCheckpoint startedEvent
  | .run recorded => ∃ row ∈ t.runs, row.id = recorded.id ∧ row.runJson = runJson T recorded
  | .step recorded => ∃ row ∈ t.steps, row.id = recorded.id ∧ row.runId = recorded.runId ∧
    row.approvalRequestId = recorded.approvalRequestId ∧ row.stepJson = stepJson T recorded
  | .append expectedTail recorded => AppendOnRecord P T R t expectedTail recorded
  | .checkpoint recorded => checkpointRow T recorded ∈ t.checkpoints
  | .evaluation recorded => evaluationRow T recorded ∈ t.evaluations
  | .approvalRequest request => requestRow T request ∈ t.requests
  | .approvalDecision decision => decisionRow T decision ∈ t.decisions
  | .approvalExecution execution => executionRow T execution ∈ t.executions

section Repetition
variable {P T R parseInstant} {t : AgentTables} {o : Nat → Bool}

theorem yields_stored {α β : Type} {query : AgentTables → β} {rest : β → RowM α} {found : β} {a : α}
    (hfind : query t = found) (h : Yields (rest found) o t a t) :
    Yields (atomically (statement >>= fun _ => select query >>= rest)) o t a t := by
  subst hfind
  exact yields_atomically (yields_bind yields_statement (yields_bind (yields_select _) h))

variable {checkpoint : AgentCheckpoint} {row : CheckpointRow}

section Saves
variable (hlawful : t.Lawful)
include hlawful

theorem yields_saveAgentDefinition {agent : AgentDefinition} (h : definitionRow T agent ∈ t.definitions) :
    Yields (saveAgentDefinition T agent) o t () t := by
  have hfind : (t.definitions.find? fun row => decide (row.id = agent.id ∨ row.name = agent.name)) =
      some (definitionRow T agent) :=
    hlawful.definitionIds.find_of_mem_either hlawful.definitionNames h (by simp [definitionRow])
      fun row hrow => of_decide_eq_true hrow
  have htaken : (t.definitions.any fun row => decide (row.id = agent.id ∨ row.name = agent.name)) = true :=
    any_eq_true.mpr ⟨_, h, by simp [definitionRow]⟩
  refine yields_bind (yields_execute rfl (if_pos htaken)) (yields_bind (yields_select _) ?_)
  rw [hfind]
  exact yields_conflictIf (by simp [definitionRow]) _

theorem yields_saveAgentRunEvent {event : AgentRunEvent} (h : eventRow T event ∈ t.events) :
    Yields (saveAgentRunEvent T event) o t () t := by
  have hfind : (t.events.find? fun row => decide
      (row.id = event.id ∨ row.runId = event.runId ∧ row.sequence = event.sequence)) = some (eventRow T event) :=
    hlawful.eventIds.find_of_mem_either hlawful.eventPlaces h (by simp [eventRow]) fun row hrow =>
      (of_decide_eq_true hrow).imp id fun hplace => Prod.ext hplace.1 hplace.2
  refine yields_stored hfind ?_
  exact yields_bind (yields_conflictIf (by simp [eventRow]) _) yields_statement

theorem yields_saveAgentRun {run : AgentRun} {row : RunRow} (h : row ∈ t.runs) (hid : row.id = run.id)
    (hjson : row.runJson = runJson T run) : Yields (saveAgentRun T run) o t () t := by
  have hfind : t.run? run.id = some row := hid ▸ hlawful.runs.lookup_of_mem h
  refine yields_stored hfind ?_
  rw [if_pos (by simp [hjson])]
  exact yields_statement

theorem yields_saveAgentRunStep {step : AgentRunStep} {row : StepRow} (h : row ∈ t.steps) (hid : row.id = step.id)
    (hrun : row.runId = step.runId) (happroval : row.approvalRequestId = step.approvalRequestId)
    (hjson : row.stepJson = stepJson T step) : Yields (saveAgentRunStep T step) o t () t := by
  have hfind : t.step? step.id = some row := hid ▸ hlawful.steps.lookup_of_mem h
  refine yields_stored hfind ?_
  simp only [if_pos hjson]
  exact yields_bind (yields_conflictIf (by simp [hrun]) _)
    (yields_bind (yields_conflictIf (by simp [happroval]) _) yields_statement)

theorem yields_saveAgentCheckpoint (h : checkpointRow T checkpoint ∈ t.checkpoints) :
    Yields (saveAgentCheckpoint T checkpoint) o t () t := by
  have hfind : t.checkpointClash checkpoint = some (checkpointRow T checkpoint) :=
    hlawful.checkpointIds.find_of_mem_either hlawful.checkpointPlaces h (by simp [checkpointRow]) fun row hrow =>
      (of_decide_eq_true hrow).imp id fun hplace => Prod.ext hplace.1 hplace.2
  refine yields_stored hfind ?_
  exact yields_bind (yields_conflictIf (by simp [checkpointRow]) _) yields_statement

theorem yields_saveAgentRunEvaluation {evaluation : AgentRunEvaluation}
    (h : evaluationRow T evaluation ∈ t.evaluations) : Yields (saveAgentRunEvaluation T evaluation) o t () t := by
  have hfind : lookup EvaluationRow.id t.evaluations evaluation.id = some (evaluationRow T evaluation) :=
    hlawful.evaluations.lookup_of_mem h
  refine yields_stored hfind ?_
  exact yields_bind (yields_conflictIf (by simp [evaluationRow]) _) yields_statement

omit hlawful in
theorem yields_saveEvidence {ρ : Type} {find : AgentTables → Option ρ} {same : ρ → Bool} {requestId : Uuid}
    {difference action : String} {constraint : AgentTables → Bool} {add : AgentTables → AgentTables} {row : ρ}
    (hfind : find t = some row) (hsame : same row = true) :
    Yields (saveEvidence find same requestId difference action constraint add) o t () t := by
  refine yields_stored hfind ?_
  exact yields_bind (yields_conflictIf (by rw [hsame]; rfl) _) yields_statement

theorem yields_saveApprovalRequest {request : SignedApprovalRequest} (h : requestRow T request ∈ t.requests) :
    Yields (saveApprovalRequest T request) o t () t :=
  yields_saveEvidence (hlawful.requests.lookup_of_mem h) (by simp [requestRow])

theorem yields_saveApprovalDecision {decision : SignedApprovalDecision} (h : decisionRow T decision ∈ t.decisions) :
    Yields (saveApprovalDecision T decision) o t () t :=
  yields_saveEvidence
    (hlawful.decisionIds.find_of_mem_either hlawful.decisionRequests h (by simp [decisionRow])
      fun _ hrow => of_decide_eq_true hrow)
    (by simp [decisionRow])

theorem yields_saveApprovalExecution {execution : ApprovalExecution} (h : executionRow T execution ∈ t.executions) :
    Yields (saveApprovalExecution T execution) o t () t :=
  yields_saveEvidence (hlawful.executions.lookup_of_mem h) (by simp [executionRow])

end Saves

/-! The two writes that read their evidence back before they answer. -/

variable {expectedRunId : Option Uuid}

theorem validateStored_expecting (h : validateStoredCheckpoint P T R row none = .ok checkpoint) :
    validateStoredCheckpoint P T R row (some row.runId) = .ok checkpoint := by
  have hsame : (some row.runId).any (· != row.runId) = (none : Option Uuid).any (· != row.runId) := by simp
  unfold validateStoredCheckpoint at h ⊢
  rw [hsame]
  exact h

/-- A row tells its checkpoint: the state stands in the JSON. -/
theorem checkpointRow_injective {a b : AgentCheckpoint} (h : checkpointRow T a = checkpointRow T b) : a = b := by
  obtain ⟨hid, hrun, hsequence, hdigest, hcreated, hjson⟩ := CheckpointRow.mk.inj h
  have hstate : a.state = b.state := by
    simp only [checkpointJson, Json.object.injEq, List.cons.injEq, Prod.mk.injEq] at hjson
    exact hjson.2.2.2.1.2
  cases a
  cases b
  simp_all

section Append
variable {expectedTail : Option AgentCheckpointTail} {checkpoint : AgentCheckpoint}

namespace AppendOnRecord
variable (h : AppendOnRecord P T R t expectedTail checkpoint)
include h

omit h in
theorem read_intact (hintact : row.Intact P T R) (hrun : row.runId = checkpoint.runId) :
    ∃ stored, row = checkpointRow T stored ∧
      validateStoredCheckpoint P T R row (some checkpoint.runId) = .ok stored := by
  obtain ⟨stored, hread⟩ := hintact
  exact ⟨stored, (of_validateStoredCheckpoint hread).1, hrun ▸ validateStored_expecting hread⟩

theorem read_self :
    validateStoredCheckpoint P T R (checkpointRow T checkpoint) none = .ok checkpoint ∧
      serializeValidatedCheckpoint P checkpoint "stored agent checkpoint" = .ok () := by
  obtain ⟨stored, hread⟩ := h.own
  obtain ⟨heq, hvalid⟩ := of_validateStoredCheckpoint hread
  obtain rfl := checkpointRow_injective heq
  exact ⟨hread, hvalid⟩

theorem tail_own (hlawful : t.Lawful) :
    ∀ tail ∈ expectedTail, ∀ row ∈ t.checkpoint? tail.checkpointId, row.runId = checkpoint.runId := by
  intro tail hsome row hrow
  obtain ⟨own, hown, hrun, rfl⟩ := h.tail tail hsome
  obtain rfl := Option.some.inj ((hlawful.checkpointIds.lookup_of_mem hown).symm.trans hrow)
  exact hrun

theorem yields_loadPredecessor : ∃ predecessor, Yields (loadPredecessor P T R checkpoint) o t predecessor t := by
  unfold loadPredecessor
  split
  · exact ⟨none, yields_pure _⟩
  · rename_i hpositive
    cases hrow : t.checkpointAt checkpoint.runId (checkpoint.sequence - 1) with
    | none => exact ⟨none, yields_loadNone hrow⟩
    | some row =>
      obtain ⟨-, hrun⟩ := mem_logOf.mp (mem_of_find?_eq_some hrow)
      obtain ⟨stored, -, hread⟩ := read_intact (h.preceding row hrow (Nat.pos_of_ne_zero hpositive)) hrun
      exact ⟨some stored, yields_loadStored hrow hread⟩

/-- The newest checkpoint of the run, which is not older than the one on record. -/
theorem exists_current :
    ∃ row current, t.currentCheckpoint checkpoint.runId = some row ∧ row = checkpointRow T current ∧
      validateStoredCheckpoint P T R row (some checkpoint.runId) = .ok current ∧
      checkpoint.sequence ≤ current.sequence := by
  have hlog : checkpointRow T checkpoint ∈ logOf CheckpointRow.runId checkpoint.runId t.checkpoints :=
    mem_logOf.mpr ⟨h.stored, rfl⟩
  cases hcurrent : t.currentCheckpoint checkpoint.runId with
  | none =>
    rw [latest_eq_none hcurrent] at hlog
    cases hlog
  | some row =>
    obtain ⟨-, hrun⟩ := mem_logOf.mp (mem_of_latest hcurrent)
    obtain ⟨current, heq, hread⟩ := read_intact (h.newest row hcurrent) hrun
    refine ⟨row, current, rfl, heq, hread, ?_⟩
    have hle := le_latest hcurrent _ hlog
    rw [heq] at hle
    exact hle

/-- An append that is on record is answered again, without a change. -/
theorem yields (hlawful : t.Lawful) :
    ∃ result, Yields (appendAgentCheckpoint P T R expectedTail checkpoint) o t result t := by
  obtain ⟨hself, hvalid⟩ := h.read_self
  obtain ⟨row, current, hrow, heq, hread, hnewer⟩ := h.exists_current
  obtain ⟨predecessor, hpredecessor⟩ := h.yields_loadPredecessor (o := o)
  have hbyId : t.checkpoint? checkpoint.id = some (checkpointRow T checkpoint) :=
    hlawful.checkpointIds.lookup_of_mem h.stored
  have hsettles : ∃ result, Yields (settleAppend P T R expectedTail checkpoint (some current)) o t result t := by
    unfold settleAppend
    split
    · exact ⟨_, yields_bind hpredecessor (yields_bind yields_statement (yields_pure _))⟩
    · -- the newest checkpoint is not the one before, so the append is late
      have hlate : (some current).map AgentCheckpoint.tail ≠ expectedTail := by
        intro htail
        have hfollows := h.follows
        rw [← htail, Option.map_some, followingSequence] at hfollows
        split at hfollows
        · have hnext : current.sequence + 1 = checkpoint.sequence := Option.some.inj hfollows
          omega
        · cases hfollows
      rw [if_pos hlate]
      exact ⟨_, yields_bind yields_statement (yields_pure _)⟩
  obtain ⟨result, hsettles⟩ := hsettles
  exact ⟨result, yields_append (serializeValidatedCheckpoint_eq_ok.mp hvalid) h.follows (yields_loadStored hrow hread)
    (yields_loadStored hbyId hself) (by simp) (h.tail_own hlawful) hsettles⟩

end AppendOnRecord

end Append

section LiveStart
variable {claim : LiveRunStartClaim} {run : AgentRun} {checkpoint : AgentCheckpoint} {event : AgentRunEvent}

section
variable (h : LiveStartOnRecord P T R parseInstant t claim run checkpoint event) (hlawful : t.Lawful)
include h hlawful

theorem LiveStartOnRecord.yields :
    Yields (claimLiveRunStart P T R parseInstant claim run checkpoint event) o t (.existing run.id) t := by
  have hmatching : t.matching claim = [claimRow T claim run checkpoint.id event.id] :=
    hlawful.claimReadiness.filter_of_mem_either hlawful.claimSetups h.claimed (decide_eq_true (.inl rfl))
      fun row hrow => of_decide_eq_true hrow
  refine yields_bind (yields_lift (by rw [h.valid]; rfl)) (yields_stored hmatching ?_)
  rw [settleLiveStart, if_neg (by simp [claimRow])]
  exact yields_bind (h.yields_validateExisting hlawful.runs hlawful.checkpointIds hlawful.eventIds)
    (yields_bind yields_statement (yields_pure _))

end

end LiveStart

/-- A record that is on file is written again without an error and without a change. -/
theorem AgentWrite.OnRecord.yields {write : AgentWrite} (h : write.OnRecord P T R parseInstant t)
    (hlawful : t.Lawful) : ∃ answer, Yields (write.perform P T R parseInstant) o t answer t := by
  cases write with
  | definition agent => exact ⟨_, yields_bind (yields_saveAgentDefinition hlawful h) (yields_pure _)⟩
  | event event => exact ⟨_, yields_bind (yields_saveAgentRunEvent hlawful h) (yields_pure _)⟩
  | liveStart claim run checkpoint event =>
    exact ⟨_, yields_bind (LiveStartOnRecord.yields h hlawful) (yields_pure _)⟩
  | run run =>
    obtain ⟨row, hrow, hid, hjson⟩ := h
    exact ⟨_, yields_bind (yields_saveAgentRun hlawful hrow hid hjson) (yields_pure _)⟩
  | step step =>
    obtain ⟨row, hrow, hid, hrun, happroval, hjson⟩ := h
    exact ⟨_, yields_bind (yields_saveAgentRunStep hlawful hrow hid hrun happroval hjson) (yields_pure _)⟩
  | append expectedTail checkpoint =>
    obtain ⟨result, hresult⟩ := AppendOnRecord.yields h hlawful
    exact ⟨_, yields_bind hresult (yields_pure _)⟩
  | checkpoint checkpoint => exact ⟨_, yields_bind (yields_saveAgentCheckpoint hlawful h) (yields_pure _)⟩
  | evaluation evaluation => exact ⟨_, yields_bind (yields_saveAgentRunEvaluation hlawful h) (yields_pure _)⟩
  | approvalRequest request => exact ⟨_, yields_bind (yields_saveApprovalRequest hlawful h) (yields_pure _)⟩
  | approvalDecision decision => exact ⟨_, yields_bind (yields_saveApprovalDecision hlawful h) (yields_pure _)⟩
  | approvalExecution execution => exact ⟨_, yields_bind (yields_saveApprovalExecution hlawful h) (yields_pure _)⟩

end Repetition

/-! Sequences of writes, by whatever callers. -/

/-- A write, with what the engine does on its statements. -/
structure WriteCall where
  write : AgentWrite
  engine : Nat → Bool

def WriteCall.answer (call : WriteCall) (t : AgentTables) : Except StorageError WriteAnswer :=
  (call.write.perform P T R parseInstant call.engine t 0).result

def AgentTables.afterCall (call : WriteCall) : AgentTables :=
  (call.write.perform P T R parseInstant call.engine t 0).state

def AgentTables.after (calls : List WriteCall) : AgentTables :=
  calls.foldl (afterCall P T R parseInstant) t

section Sequences
variable {P T R parseInstant}

theorem after_induction {p : AgentTables → Prop} (hstep : ∀ t t', Change T t t' → p t → p t') {t : AgentTables}
    (h : p t) (calls : List WriteCall) : p (t.after P T R parseInstant calls) := by
  induction calls generalizing t with
  | nil => exact h
  | cons call calls ih => exact ih (hstep t _ (leaves_perform call.write call.engine t 0) h)

theorem AgentTables.Lawful.after {t : AgentTables} (h : t.Lawful) (calls : List WriteCall) :
    (t.after P T R parseInstant calls).Lawful :=
  after_induction (fun _ _ hchange => hchange.lawful) h calls

end Sequences

/-- No sequence of writes changes the rows of a sealed trace; a record on file is written again without an error or a
change; and events stay contiguous from 0. -/
theorem sealed_traces_immutable (t : AgentTables) (hlawful : t.Lawful) (calls : List WriteCall) :
    (∀ runId, t.Sealed runId → (t.after P T R parseInstant calls).trace runId = t.trace runId ∧
      (t.after P T R parseInstant calls).Sealed runId) ∧
    (∀ call : WriteCall, (∀ n, call.engine n = true) →
      call.write.OnRecord P T R parseInstant (t.after P T R parseInstant calls) →
      (∃ answer, call.answer P T R parseInstant (t.after P T R parseInstant calls) = .ok answer) ∧
      (t.after P T R parseInstant calls).afterCall P T R parseInstant call = t.after P T R parseInstant calls) ∧
    ∀ runId, t.ContiguousEvents runId → (t.after P T R parseInstant calls).ContiguousEvents runId := by
  refine ⟨fun runId hsealed => ?_, fun call hworks honRecord => ?_, fun runId hcontiguous => ?_⟩
  · have hframe : (t.after P T R parseInstant calls).Lawful ∧
        (t.after P T R parseInstant calls).trace runId = t.trace runId := by
      refine after_induction (p := fun s => s.Lawful ∧ s.trace runId = t.trace runId) ?_ ⟨hlawful, rfl⟩ calls
      intro s s' hchange hs
      have hsSealed := sealed_congr hs.2 hsealed
      exact ⟨hchange.lawful hs.1, (hchange.trace_eq hs.1 hsSealed).trans hs.2⟩
    exact ⟨hframe.2, sealed_congr hframe.2 hsealed⟩
  · obtain ⟨answer, hyields⟩ := honRecord.yields (hlawful.after calls)
    obtain ⟨n', hreturns⟩ := hyields.returns trivial hworks 0
    have hout : call.write.perform P T R parseInstant call.engine (t.after P T R parseInstant calls) 0 =
      ⟨.ok answer, t.after P T R parseInstant calls, n'⟩ := hreturns
    exact ⟨⟨answer, congrArg Outcome.result hout⟩, congrArg Outcome.state hout⟩
  · exact (after_induction (p := fun s => s.Lawful ∧ s.ContiguousEvents runId)
      (fun s s' hchange hs => ⟨hchange.lawful hs.1, hchange.contiguousEvents hs.1 hs.2⟩) ⟨hlawful, hcontiguous⟩ calls).2

/-- The tables as the migrations create them. -/
theorem lawful_empty : empty.Lawful where
  definitionIds := nodup_nil
  definitionNames := nodup_nil
  runs := nodup_nil
  steps := nodup_nil
  bindings := forall_mem_nil _
  checkpointIds := nodup_nil
  checkpointPlaces := nodup_nil
  eventIds := nodup_nil
  eventPlaces := nodup_nil
  eventRuns := forall_mem_nil _
  evaluations := nodup_nil
  requests := nodup_nil
  decisionIds := nodup_nil
  decisionRequests := nodup_nil
  executions := nodup_nil
  claimReadiness := nodup_nil
  claimSetups := nodup_nil

theorem Change.approvals_kept {T : TextFormats} {t t' : AgentTables} (h : Change T t t') :
    t.decisions ⊆ t'.decisions ∧ t.executions ⊆ t'.executions := by
  cases h with
  | run row => rw [upsertRun_frame]; simp
  | step row => rw [upsertStep_frame]; simp
  | decision | execution => simp
  | _ => exact ⟨Subset.refl _, Subset.refl _⟩

/-- Whatever is written later, the decision and the execution on record for a request stay the only ones. -/
theorem approvals_final (principals : List PrincipalId) (calls later : List WriteCall) :
    let t := AgentTables.after P T R parseInstant { empty with principals } calls
    let t' := t.after P T R parseInstant later
    (∀ row ∈ t.decisions, t'.decisions.filter (fun row' => decide (row'.requestId = row.requestId)) = [row]) ∧
      ∀ row ∈ t.executions, t'.executions.filter (fun row' => decide (row'.requestId = row.requestId)) = [row] := by
  intro t t'
  have hstart : AgentTables.Lawful { empty with principals } := { lawful_empty with }
  have hlawful : t'.Lawful := (hstart.after calls).after later
  have hkept : t.decisions ⊆ t'.decisions ∧ t.executions ⊆ t'.executions := by
    refine after_induction (p := fun s => t.decisions ⊆ s.decisions ∧ t.executions ⊆ s.executions) ?_
      ⟨Subset.refl _, Subset.refl _⟩ later
    intro s s' hchange hs
    exact ⟨Subset.trans hs.1 hchange.approvals_kept.1, Subset.trans hs.2 hchange.approvals_kept.2⟩
  exact ⟨fun row hrow => hlawful.decisionRequests.filter_of_mem (hkept.1 hrow),
    fun row hrow => hlawful.executions.filter_of_mem (hkept.2 hrow)⟩

section Fixtures
open AgentStore (nullPrimitives sessionRun epochTexts firstCheckpoint checkpointReaders)

def queuedRun : AgentRun := { sessionRun .queued with revision := 0 }

def cancelledRun : AgentRun := sessionRun .cancelled

/-- A checkpoint whose digest is not that of its state. -/
def forgedCheckpoint : AgentCheckpoint := ⟨Uuid.v7 4, Uuid.v7 1, 1, .null, ⟨0⟩, 0⟩

/-- The readers, on the checkpoints stored below. -/
def forgedReaders : Readers := checkpointReaders [firstCheckpoint 3, forgedCheckpoint]

def working (write : AgentWrite) : WriteCall := ⟨write, fun _ => true⟩

def afterWrites (writes : List AgentWrite) : AgentTables :=
  t.after nullPrimitives epochTexts forgedReaders (fun _ => none) (writes.map working)

def answerTo (write : AgentWrite) : Except StorageError WriteAnswer :=
  (working write).answer nullPrimitives epochTexts forgedReaders (fun _ => none) t

/-- A cancelled run takes no further checkpoint, and is saved again as it stands. -/
theorem sealed_traces_immutable_cancelled :
    let t := afterWrites .empty [.run queuedRun, .append none (firstCheckpoint 3), .run cancelledRun]
    let t' := afterWrites t [.checkpoint forgedCheckpoint]
    t.Sealed cancelledRun.id ∧ t'.trace cancelledRun.id = t.trace cancelledRun.id ∧
      (∃ answer, answerTo t' (.run cancelledRun) = .ok answer) ∧ t'.ContiguousEvents cancelledRun.id := by
  intro t t'
  have hlawful : t.Lawful := lawful_empty.after _
  have hsealed : t.Sealed cancelledRun.id := by decide +kernel
  obtain ⟨hframe, hagain, hevents⟩ := sealed_traces_immutable nullPrimitives epochTexts forgedReaders
    (fun _ => none) t hlawful [working (.checkpoint forgedCheckpoint)]
  have honRecord : ∃ row ∈ t'.runs, row.id = cancelledRun.id ∧ row.runJson = runJson epochTexts cancelledRun := by
    decide +kernel
  exact ⟨hsealed, (hframe _ hsealed).1, (hagain (working (.run cancelledRun)) (fun _ => rfl) honRecord).1,
    hevents _ rfl⟩

/-- An answered append is repeated after a checkpoint with a wrong digest was saved: it is on record, and the answer
is an error. -/
theorem append_retry_refused :
    let t := afterWrites .empty [.run queuedRun, .append none (firstCheckpoint 3), .checkpoint forgedCheckpoint,
      .run cancelledRun]
    answerTo (afterWrites .empty [.run queuedRun]) (.append none (firstCheckpoint 3)) = .ok (.append .appended) ∧
    t.Sealed cancelledRun.id ∧ checkpointRow epochTexts (firstCheckpoint 3) ∈ t.checkpoints ∧
    answerTo t (.append none (firstCheckpoint 3)) =
      .error (.conflict "stored agent checkpoint state digest does not match its state") := by
  decide +kernel

end Fixtures
end ProofPlatform.AgentRows
