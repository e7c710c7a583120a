import ProofPlatform.AgentStore.Rows

/-! What one write can do to the agent and approval tables, and the constraints that every write keeps. -/
namespace ProofPlatform.AgentRows
open Kernel Library Fallible List Transaction Tx Statements
open Trace Table

variable (t : AgentTables) (runId : Uuid)

/-- The run has an event that ends its trace in the status it is in, or it is cancelled. -/
def AgentTables.Sealed : Prop :=
  t.terminalEvents runId ≠ [] ∨ ((t.run? runId).any fun run => run.status == .cancelled) = true

instance (t : AgentTables) (runId : Uuid) : Decidable (t.Sealed runId) := by
  unfold AgentTables.Sealed
  infer_instance

/-- The step that the request is bound to, if there is one, is in an open trace. -/
def AgentTables.OpenRequest (requestId : Uuid) : Prop :=
  ∀ step, t.boundStep? requestId = some step → ¬ t.Sealed step.runId

/-- What one write leaves behind. -/
inductive Change (T : TextFormats) (t : AgentTables) : AgentTables → Prop
  | none : Change T t t
  | definition (row : DefinitionRow) (hnew : ∀ stored ∈ t.definitions, stored.id ≠ row.id ∧ stored.name ≠ row.name) :
      Change T t { t with definitions := t.definitions ++ [row] }
  | evaluation (row : EvaluationRow) (hnew : ∀ stored ∈ t.evaluations, stored.id ≠ row.id) :
      Change T t { t with evaluations := t.evaluations ++ [row] }
  | run (row : RunRow) (hrecord : ∃ run, row.runJson = runJson T run) (hopen : ¬ t.Sealed row.id) :
      Change T t (t.upsertRun row)
  | step (row : StepRow) (hrecord : ∃ step, row.stepJson = stepJson T step) (hopen : ¬ t.Sealed row.runId)
      (hbinding : ∀ stored, t.step? row.id = some stored → stored.runId = row.runId)
      (hconstraint : stepConstraint row t = true) : Change T t (t.upsertStep row)
  | checkpoint (row : CheckpointRow) (hrecord : ∃ checkpoint, row.checkpointJson = checkpointJson T checkpoint)
      (hopen : ¬ t.Sealed row.runId) (hconstraint : checkpointConstraint row t = true) :
      Change T t { t with checkpoints := t.checkpoints ++ [row] }
  | event (row : EventRow) (hopen : ¬ t.Sealed row.runId) (hconstraint : eventConstraint row t = true)
      (hnext : row.sequence = (KeyedLog.logOf EventRow.runId row.runId t.events).length) :
      Change T t { t with events := t.events ++ [row] }
  | liveStart (run : RunRow) (checkpoint : CheckpointRow) (event : EventRow) (claim : ClaimRow)
      (hrun : ∃ initial, run.runJson = runJson T initial)
      (hrecord : ∃ initial, checkpoint.checkpointJson = checkpointJson T initial)
      (hnew : ∀ stored ∈ t.runs, stored.id ≠ run.id) (hcheckpoint : checkpoint.runId = run.id)
      (hcheckpointNew : ∀ stored ∈ t.checkpoints, stored.id ≠ checkpoint.id ∧
        (stored.runId, stored.sequence) ≠ (checkpoint.runId, checkpoint.sequence))
      (hevent : event.runId = run.id) (hfirst : event.sequence = 0)
      (heventNew : ∀ stored ∈ t.events, stored.id ≠ event.id ∧
        (stored.runId, stored.sequence) ≠ (event.runId, event.sequence))
      (hclaimNew : ∀ stored ∈ t.claims, stored.readinessBindingDigest ≠ claim.readinessBindingDigest ∧
        stored.setupDigest ≠ claim.setupDigest) :
      Change T t { t with
        runs := t.runs ++ [run]
        checkpoints := t.checkpoints ++ [checkpoint]
        events := t.events ++ [event]
        claims := t.claims ++ [claim] }
  | request (row : RequestRow) (hopen : t.OpenRequest row.id) (hnew : ∀ stored ∈ t.requests, stored.id ≠ row.id) :
      Change T t { t with requests := t.requests ++ [row] }
  | decision (row : DecisionRow) (hopen : t.OpenRequest row.requestId)
      (hnew : ∀ stored ∈ t.decisions, stored.id ≠ row.id ∧ stored.requestId ≠ row.requestId) :
      Change T t { t with decisions := t.decisions ++ [row] }
  | execution (row : ExecutionRow) (hopen : t.OpenRequest row.requestId)
      (hnew : ∀ stored ∈ t.executions, stored.requestId ≠ row.requestId) :
      Change T t { t with executions := t.executions ++ [row] }

section Guards
variable {α : Type} {o : Nat → Bool} {t t' : AgentTables} {n n' : Nat} {b : α} {g : Unit → RowM α} {u : Unit}
variable {message : String} {action : String}

@[simp] theorem not_returns_conflict : ¬ Returns (conflict message) o t n b t' n' := by
  simp [conflict]

@[simp] theorem returns_conflictIf {condition : Bool} :
    Returns (conflictIf condition message) o t n u t' n' ↔ condition = false ∧ t = t' ∧ n = n' := by
  simp [conflictIf]

@[simp] theorem returns_conflictIf_bind {condition : Bool} :
    Returns (conflictIf condition message >>= g) o t n b t' n' ↔ condition = false ∧ Returns (g ()) o t n b t' n' := by
  simp [returns_bind]

theorem readOnly_conflictIf (condition : Bool) (message : String) : ReadOnly (conflictIf condition message) :=
  .lift _

theorem readOnly_rejectIfOperatorGovernedRun (action : String) : ReadOnly (rejectIfOperatorGovernedRun runId action) :=
  .bind (readOnly_select _ _) fun _ => .lift _

theorem readOnly_rejectIfAgentTraceSealed (action : String) : ReadOnly (rejectIfAgentTraceSealed runId action) :=
  .bind_option (readOnly_select _ _) (.bind (readOnly_select _ _) fun _ => .lift _) fun _ => .lift _

theorem open_of_rejectIfAgentTraceSealed {runId : Uuid}
    (h : Returns (rejectIfAgentTraceSealed runId action) o t n u t' n') : ¬ t.Sealed runId := by
  rw [rejectIfAgentTraceSealed, returns_select_bind] at h
  obtain ⟨-, h⟩ := h
  split at h
  · exact absurd h not_returns_conflict
  · rename_i hterminal
    rw [returns_select_bind, returns_conflictIf] at h
    rintro (hevent | hcancelled)
    · exact hevent (latest_eq_none hterminal)
    · rw [h.2.1] at hcancelled
      cases hcancelled

theorem readOnly_rejectIfApprovalIsBoundToSealedTrace (requestId : Uuid) (action : String) :
    ReadOnly (rejectIfApprovalIsBoundToSealedTrace requestId action) :=
  .bind_option (readOnly_select _ _) (.pure _) fun _ => readOnly_rejectIfAgentTraceSealed _ _

theorem open_of_rejectIfApprovalIsBoundToSealedTrace {requestId : Uuid}
    (h : Returns (rejectIfApprovalIsBoundToSealedTrace requestId action) o t n u t' n') : t.OpenRequest requestId := by
  intro step hstep
  rw [rejectIfApprovalIsBoundToSealedTrace, returns_select_bind, hstep] at h
  exact open_of_rejectIfAgentTraceSealed h.2

theorem readOnly_rejectIfOperatorGovernedApproval (requestId : Uuid) (action : String) :
    ReadOnly (rejectIfOperatorGovernedApproval requestId action) :=
  .bind (readOnly_select _ _) fun _ => .lift _

/-- A write that both guards of a run let through leaves the tables alone; the trace is open. -/
theorem guards_passed {runId : Uuid} {rest : RowM α} (h : Returns (do
      rejectIfOperatorGovernedRun runId action
      rejectIfAgentTraceSealed runId action
      rest) o t n b t' n') : ¬ t.Sealed runId ∧ ∃ n₁, Returns rest o t n₁ b t' n' := by
  obtain ⟨_, n₁, -, h⟩ := (readOnly_rejectIfOperatorGovernedRun runId action).returns_bind h
  obtain ⟨_, n₂, hopen, h⟩ := (readOnly_rejectIfAgentTraceSealed runId action).returns_bind h
  exact ⟨open_of_rejectIfAgentTraceSealed hopen, n₂, h⟩

end Guards

section Inversion
variable {P : Primitives} {T : TextFormats} {R : Readers} {parseInstant : String → Option Instant} {o : Nat → Bool}
  {t t' : AgentTables} {n n' : Nat} {u : Unit}

theorem leaves_select {α β : Type} {query : AgentTables → β} {rest : β → RowM α}
    (h : ∀ o t n a t' n', Returns (rest (query t)) o t n a t' n' → Change T t t') :
    Leaves (fun _ => Change T) (atomically (statement >>= fun _ => select query >>= rest)) := by
  refine leaves_atomically (fun _ _ => .none) fun o t n a t' n' hdone => ?_
  rw [returns_statement_bind, returns_select_bind] at hdone
  exact h o t _ a t' n' hdone.2.2

theorem leaves_saveAgentDefinition (agent : AgentDefinition) :
    Leaves (fun _ => Change T) (saveAgentDefinition T agent) := by
  refine leaves_bind ?_ fun _ => .bind_option (readOnly_select _ _) (.lift _) fun _ => .lift _
  refine leaves_execute (fun _ => .none) fun t _ => ?_
  split
  · exact .none
  · rename_i hnew
    exact .definition _ (by simpa [definitionRow] using hnew)

theorem readOnly_validateEventRunStatus (event : AgentRunEvent) : ReadOnly (validateEventRunStatus event) := by
  refine .bind_option (readOnly_select _ _) (.lift _) fun run => ?_
  simp only
  split <;> exact .lift _

theorem next_of_validateNextEventSequence {event : AgentRunEvent}
    (h : Returns (validateNextEventSequence event) o t n u t' n') :
    t = t' ∧ event.sequence = (KeyedLog.logOf EventRow.runId event.runId t.events).length := by
  simp only [validateNextEventSequence, returns_select_bind, returns_conflictIf_bind, returns_conflictIf,
    bne_eq_false_iff_eq, AgentTables.eventSpan, length_map] at h
  exact ⟨h.2.2.2.1, h.2.2.1⟩

/-- An event that was saved was on record, or the next place of an open trace takes it. -/
theorem returns_saveAgentRunEvent {event : AgentRunEvent} (h : Returns (saveAgentRunEvent T event) o t n u t' n') :
    (t' = t ∧ ∃ row ∈ t.events, row.eventJson = eventJson T event) ∨
      (t' = { t with events := t.events ++ [eventRow T event] } ∧ ¬ t.Sealed event.runId ∧
        eventConstraint (eventRow T event) t = true ∧
        event.sequence = (KeyedLog.logOf EventRow.runId event.runId t.events).length) := by
  rw [saveAgentRunEvent, returns_atomically, returns_statement_bind, returns_select_bind] at h
  obtain ⟨-, -, h⟩ := h
  split at h
  · rename_i existing hfound
    rw [returns_conflictIf_bind, returns_statement, bne_eq_false_iff_eq] at h
    exact .inl ⟨h.2.2.1.symm, existing, mem_of_find?_eq_some hfound, h.1⟩
  · obtain ⟨hopen, n₁, h⟩ := guards_passed h
    obtain ⟨_, n₂, -, h⟩ := (readOnly_validateEventRunStatus event).returns_bind h
    obtain ⟨_, t₁, n₃, hnext, h⟩ := returns_bind.mp h
    obtain ⟨rfl, hplace⟩ := next_of_validateNextEventSequence hnext
    rw [insertEvent, returns_execute_bind, returns_statement] at h
    exact .inr ⟨h.2.2.2.1.symm, hopen, h.2.1, hplace⟩

theorem leaves_saveAgentRunEvent (event : AgentRunEvent) : Leaves (fun _ => Change T) (saveAgentRunEvent T event) := by
  refine leaves_atomically (fun _ _ => .none) fun o t n u t' n' h => ?_
  rcases returns_saveAgentRunEvent (returns_atomically.mpr h) with ⟨rfl, -⟩ | ⟨rfl, hopen, hconstraint, hplace⟩
  · exact .none
  · exact .event (eventRow T event) hopen hconstraint hplace

theorem readOnly_validateRevision (stored : Option Nat) (revision : Nat) (subject identity : String) :
    ReadOnly (validateRevision stored revision subject identity) := by
  cases stored with
  | none => exact .lift _
  | some stored => exact .bind (.lift _) fun _ => .lift _

theorem revision_of_validateRevision {stored : Option Nat} {revision : Nat} {subject identity : String}
    (h : Returns (validateRevision stored revision subject identity) o t n u t' n') : revision < 2 ^ 63 := by
  cases stored with
  | none =>
    simp only [validateRevision, returns_conflictIf, bne_eq_false_iff_eq] at h
    exact h.1 ▸ by decide
  | some stored =>
    simp only [validateRevision, returns_lift_bind, revisionI64] at h
    obtain ⟨supplied, hsupplied, -⟩ := h
    exact (Fallible.ite_eq_ok.mp hsupplied).1

/-- A saved run was on record as it is, or its row is written into an open trace. -/
theorem returns_saveAgentRun {run : AgentRun} (h : Returns (saveAgentRun T run) o t n u t' n') :
    (t' = t ∧ ∃ row ∈ t.runs, row.runJson = runJson T run) ∨
      (t' = t.upsertRun (runRow T run) ∧ ¬ t.Sealed run.id ∧ run.revision < 2 ^ 63) := by
  rw [saveAgentRun, returns_atomically, returns_statement_bind, returns_select_bind] at h
  obtain ⟨-, -, h⟩ := h
  split at h
  · rename_i hsame
    rw [returns_statement] at h
    cases hrow : t.run? run.id with
    | none => simp [hrow] at hsame
    | some row => exact .inl ⟨h.2.1.symm, row, (lookup_eq_some hrow).1, by simpa [hrow] using hsame⟩
  · obtain ⟨hopen, n₁, h⟩ := guards_passed h
    obtain ⟨_, n₂, hrevision, h⟩ := (readOnly_validateRevision _ _ _ _).returns_bind h
    rw [returns_execute_bind, returns_statement] at h
    exact .inr ⟨h.2.2.2.1.symm, hopen, revision_of_validateRevision hrevision⟩

theorem leaves_saveAgentRun (run : AgentRun) : Leaves (fun _ => Change T) (saveAgentRun T run) := by
  refine leaves_atomically (fun _ _ => .none) fun o t n u t' n' h => ?_
  rcases returns_saveAgentRun (returns_atomically.mpr h) with ⟨rfl, -⟩ | ⟨rfl, hopen, -⟩
  · exact .none
  · exact .run (runRow T run) ⟨run, rfl⟩ hopen

theorem readOnly_rejectBoundApproval (step : AgentRunStep) : ReadOnly (rejectBoundApproval step) := by
  unfold rejectBoundApproval
  split
  · exact .pure _
  · exact .bind_option (readOnly_select _ _) (.pure _) fun _ => .lift _

theorem change_of_writeStep {step : AgentRunStep} {existing : Option StepRow}
    (hbinding : ∀ stored, t.step? step.id = some stored → stored.runId = step.runId)
    (h : Returns (writeStep T step existing) o t n u t' n') : Change T t t' := by
  obtain ⟨hopen, n₁, h⟩ := guards_passed h
  obtain ⟨_, n₂, -, h⟩ := (readOnly_rejectBoundApproval step).returns_bind h
  obtain ⟨_, n₃, -, h⟩ := (readOnly_validateRevision _ _ _ _).returns_bind h
  rw [returns_execute_bind, returns_statement] at h
  obtain ⟨-, hconstraint, -, rfl, -⟩ := h
  exact .step (stepRow T step) ⟨step, rfl⟩ hopen hbinding hconstraint

theorem leaves_saveAgentRunStep (step : AgentRunStep) : Leaves (fun _ => Change T) (saveAgentRunStep T step) := by
  refine leaves_select fun o t n u t' n' h => ?_
  split at h
  · rename_i hnone
    exact change_of_writeStep (fun stored hstored => by rw [hnone] at hstored; cases hstored) h
  · rename_i stored hstored
    split at h
    · rw [returns_conflictIf_bind, returns_conflictIf_bind, returns_statement] at h
      exact h.2.2.2.1 ▸ .none
    · simp only [validateStepBinding, bind_assoc, returns_conflictIf_bind, bne_eq_false_iff_eq] at h
      refine change_of_writeStep (fun stored' hstored' => ?_) h.2.2
      obtain rfl := Option.some.inj (hstored.symm.trans hstored')
      exact h.1

variable {checkpoint : AgentCheckpoint}

theorem returns_writeCheckpoint (h : Returns (writeCheckpoint T checkpoint) o t n u t' n') :
    t' = { t with checkpoints := t.checkpoints ++ [checkpointRow T checkpoint] } ∧ ¬ t.Sealed checkpoint.runId ∧
      checkpointConstraint (checkpointRow T checkpoint) t = true := by
  obtain ⟨hopen, n₁, h⟩ := guards_passed h
  rw [insertCheckpoint, returns_execute_bind, returns_statement] at h
  exact ⟨h.2.2.2.1.symm, hopen, h.2.1⟩

/-- A checkpoint that was saved was on record, or its trace is open and its row is added. -/
theorem returns_saveAgentCheckpoint (h : Returns (saveAgentCheckpoint T checkpoint) o t n u t' n') :
    (t' = t ∧ ∃ row ∈ t.checkpoints, row.checkpointJson = checkpointJson T checkpoint) ∨
      (t' = { t with checkpoints := t.checkpoints ++ [checkpointRow T checkpoint] } ∧ ¬ t.Sealed checkpoint.runId ∧
        checkpointConstraint (checkpointRow T checkpoint) t = true) := by
  rw [saveAgentCheckpoint, returns_atomically, returns_statement_bind, returns_select_bind] at h
  obtain ⟨-, -, h⟩ := h
  split at h
  · rename_i existing hfound
    rw [returns_conflictIf_bind, returns_statement, bne_eq_false_iff_eq] at h
    exact .inl ⟨h.2.2.1.symm, existing, mem_of_find?_eq_some hfound, h.1⟩
  · exact .inr (returns_writeCheckpoint h)

theorem leaves_saveAgentCheckpoint (checkpoint : AgentCheckpoint) :
    Leaves (fun _ => Change T) (saveAgentCheckpoint T checkpoint) := by
  refine leaves_atomically (fun _ _ => .none) fun o t n u t' n' h => ?_
  rcases returns_saveAgentCheckpoint (returns_atomically.mpr h) with ⟨rfl, -⟩ | ⟨rfl, hopen, hconstraint⟩
  · exact .none
  · exact .checkpoint (checkpointRow T checkpoint) ⟨checkpoint, rfl⟩ hopen hconstraint

/-- What an intact row says: it is the row of the checkpoint it reads back as. -/
theorem of_validateStoredCheckpoint {row : CheckpointRow} {expectedRunId : Option Uuid}
    (h : validateStoredCheckpoint P T R row expectedRunId = .ok checkpoint) : row = checkpointRow T checkpoint ∧
      serializeValidatedCheckpoint P checkpoint "stored agent checkpoint" = .ok () := by
  simp only [validateStoredCheckpoint, bind_eq_ok, orReject_eq_ok, reject_eq_ok, exists_const] at h
  obtain ⟨read, -, -, ⟨⟩, hvalid, hrow, hpure⟩ := h
  obtain rfl : read = checkpoint := Except.ok.inj hpure
  simp only [Bool.or_eq_false_iff, bne_eq_false_iff_eq] at hrow
  exact ⟨hrow.1, hvalid⟩

theorem returns_loadStoredCheckpoint {query : AgentTables → Option CheckpointRow} {expectedRunId : Option Uuid}
    (h : Returns (loadStoredCheckpoint P T R query expectedRunId) o t n (some checkpoint) t' n') :
    query t = some (checkpointRow T checkpoint) := by
  rw [loadStoredCheckpoint, returns_select_bind] at h
  obtain ⟨-, h⟩ := h
  split at h
  · cases (returns_pure.mp h).1
  · rename_i row hrow
    simp only [returns_lift_bind, returns_pure] at h
    obtain ⟨read, hread, hsome, -⟩ := h
    obtain rfl := Option.some.inj hsome
    rw [hrow, (of_validateStoredCheckpoint hread).1]

theorem readOnly_loadStoredCheckpoint (query : AgentTables → Option CheckpointRow) (expectedRunId : Option Uuid) :
    ReadOnly (loadStoredCheckpoint P T R query expectedRunId) :=
  .bind_option (readOnly_select _ _) (.pure _) fun _ => .bind (.lift _) fun _ => .pure _

theorem readOnly_rejectExpectedTailFromAnotherRun (expectedTail : Option AgentCheckpointTail) (candidateRunId : Uuid) :
    ReadOnly (rejectExpectedTailFromAnotherRun expectedTail candidateRunId) := by
  cases expectedTail with
  | none => exact .pure _
  | some tail => exact .bind_option (readOnly_select _ _) (.pure _) fun _ => .lift _

theorem readOnly_rejectCheckpointIdentityConflicts (checkpoint : AgentCheckpoint) :
    ReadOnly (rejectCheckpointIdentityConflicts checkpoint) :=
  .bind_option (readOnly_select _ _) (.pure _) fun _ => .lift _

theorem readOnly_loadPredecessor (checkpoint : AgentCheckpoint) : ReadOnly (loadPredecessor P T R checkpoint) := by
  unfold loadPredecessor
  split
  · exact .pure _
  · exact readOnly_loadStoredCheckpoint _ _

/-- An answered append changed nothing, or added its row to an open trace. -/
theorem returns_appendInTransaction {expectedTail : Option AgentCheckpointTail} {result : AgentCheckpointAppendResult}
    (h : Returns (appendInTransaction P T R expectedTail checkpoint) o t n result t' n') :
    (t' = t ∧ (result = .stale ∨ result = .appended ∧ checkpointRow T checkpoint ∈ t.checkpoints)) ∨
      (result = .appended ∧ t' = { t with checkpoints := t.checkpoints ++ [checkpointRow T checkpoint] } ∧
        ¬ t.Sealed checkpoint.runId ∧ checkpointConstraint (checkpointRow T checkpoint) t = true) := by
  rw [appendInTransaction, returns_statement_bind] at h
  obtain ⟨current, n₁, hcurrent, h⟩ := (readOnly_loadStoredCheckpoint _ _).returns_bind h.2
  obtain ⟨stored, n₂, -, h⟩ := (readOnly_loadStoredCheckpoint _ _).returns_bind h
  rw [returns_conflictIf_bind] at h
  obtain ⟨_, n₃, -, h⟩ := (readOnly_rejectExpectedTailFromAnotherRun _ _).returns_bind h.2
  unfold settleAppend at h
  split at h
  · obtain ⟨_, n₄, -, h⟩ := (readOnly_loadPredecessor _).returns_bind h
    rw [returns_statement_bind, returns_pure] at h
    obtain ⟨-, rfl, rfl, -⟩ := h
    refine .inl ⟨rfl, ?_⟩
    split
    · rename_i hretry
      rw [hretry.1] at hcurrent
      have hlatest := returns_loadStoredCheckpoint hcurrent
      exact .inr ⟨rfl, (KeyedLog.mem_logOf.mp (mem_of_latest hlatest)).1⟩
    · exact .inl rfl
  · split at h
    · rw [returns_statement_bind, returns_pure] at h
      exact .inl ⟨h.2.2.1.symm, .inl h.2.1.symm⟩
    · obtain ⟨_, n₄, -, h⟩ := (readOnly_rejectCheckpointIdentityConflicts _).returns_bind h
      obtain ⟨_, t₁, n₅, hwrite, h⟩ := returns_bind.mp h
      obtain ⟨rfl, rfl, -⟩ := returns_pure.mp h
      exact .inr ⟨rfl, returns_writeCheckpoint hwrite⟩

theorem leaves_appendAgentCheckpoint (expectedTail : Option AgentCheckpointTail) (checkpoint : AgentCheckpoint) :
    Leaves (fun _ => Change T) (appendAgentCheckpoint P T R expectedTail checkpoint) := by
  refine leaves_of_readOnly_bind (fun _ _ => .none) (.lift _) fun _ => ?_
  refine leaves_of_readOnly_bind (fun _ _ => .none) (.lift _) fun _ => ?_
  refine leaves_of_readOnly_bind (fun _ _ => .none) (readOnly_conflictIf _ _) fun _ => ?_
  refine leaves_atomically (fun _ _ => .none) fun o t n result t' n' h => ?_
  rcases returns_appendInTransaction h with ⟨rfl, -⟩ | ⟨-, rfl, hopen, hconstraint⟩
  · exact .none
  · exact .checkpoint (checkpointRow T checkpoint) ⟨checkpoint, rfl⟩ hopen hconstraint

theorem leaves_saveAgentRunEvaluation (evaluation : AgentRunEvaluation) :
    Leaves (fun _ => Change T) (saveAgentRunEvaluation T evaluation) := by
  refine leaves_select fun o t n u t' n' h => ?_
  split at h
  · rw [returns_conflictIf_bind, returns_statement] at h
    exact h.2.2.1 ▸ .none
  · rename_i hnone
    obtain ⟨_, n₁, -, h⟩ := (readOnly_rejectIfOperatorGovernedRun _ _).returns_bind h
    rw [returns_execute_bind, returns_select_bind] at h
    obtain ⟨-, -, -, h⟩ := h
    split at h
    · exact absurd h (by simp)
    · rw [returns_conflictIf_bind, returns_statement] at h
      obtain ⟨-, -, rfl, -⟩ := h
      unfold AgentTables.addEvaluation
      split
      · exact .none
      · exact .evaluation _ (lookup_eq_none.mp hnone)

/-- Evidence was on record, or its request is open and the row is added. -/
theorem leaves_saveEvidence {ρ : Type} {find : AgentTables → Option ρ} {same : ρ → Bool} {requestId : Uuid}
    {difference action : String} {constraint : AgentTables → Bool} {add : AgentTables → AgentTables}
    (hadd : ∀ t, t.OpenRequest requestId → constraint t = true → Change T t (add t)) :
    Leaves (fun _ => Change T) (saveEvidence find same requestId difference action constraint add) := by
  refine leaves_select fun o t n u t' n' h => ?_
  split at h
  · rw [returns_conflictIf_bind, returns_statement] at h
    exact h.2.2.1 ▸ .none
  · obtain ⟨_, n₁, -, h⟩ := (readOnly_rejectIfOperatorGovernedApproval _ _).returns_bind h
    obtain ⟨_, n₂, hopen, h⟩ := (readOnly_rejectIfApprovalIsBoundToSealedTrace _ _).returns_bind h
    rw [returns_execute_bind, returns_statement] at h
    obtain ⟨-, hconstraint, -, rfl, -⟩ := h
    exact hadd t (open_of_rejectIfApprovalIsBoundToSealedTrace hopen) hconstraint

theorem leaves_saveApprovalRequest (request : SignedApprovalRequest) :
    Leaves (fun _ => Change T) (saveApprovalRequest T request) :=
  leaves_saveEvidence fun t hopen hnew => .request (requestRow T request) hopen (by simpa [requestRow] using hnew)

theorem leaves_saveApprovalDecision (decision : SignedApprovalDecision) :
    Leaves (fun _ => Change T) (saveApprovalDecision T decision) :=
  leaves_saveEvidence fun t hopen hconstraint => .decision (decisionRow T decision) hopen (by
    simp only [Bool.and_eq_true, Bool.not_eq_true', any_eq_false, decide_eq_true_eq, not_or] at hconstraint
    exact hconstraint.2)

theorem leaves_saveApprovalExecution (execution : ApprovalExecution) :
    Leaves (fun _ => Change T) (saveApprovalExecution T execution) :=
  leaves_saveEvidence fun t hopen hconstraint => .execution (executionRow T execution) hopen (by
    simp only [Bool.and_eq_true, Bool.not_eq_true', any_eq_false, decide_eq_true_eq] at hconstraint
    exact hconstraint.2)

theorem readOnly_orConflict {α : Type} (value : Option α) (message : String) : ReadOnly (orConflict value message) :=
  .lift _

theorem readOnly_validateExistingLiveStartClaim (claim : LiveRunStartClaim) (stored : ClaimRow) :
    ReadOnly (validateExistingLiveStartClaim P T R parseInstant claim stored) := by
  unfold validateExistingLiveStartClaim
  refine .bind (readOnly_orConflict _ _) fun claim' => .bind (readOnly_orConflict _ _) fun initial => ?_
  refine .bind (readOnly_conflictIf _ _) fun _ => ?_
  refine .bind (readOnly_select _ _) fun _ => .bind (readOnly_orConflict _ _) fun checkpointStored => ?_
  refine .bind (readOnly_select _ _) fun _ => .bind (readOnly_orConflict _ _) fun eventStored => ?_
  refine .bind (readOnly_select _ _) fun _ => .bind (readOnly_orConflict _ _) fun runStored => ?_
  refine .bind (readOnly_orConflict _ _) fun checkpoint => ?_
  refine .bind (readOnly_orConflict _ _) fun event => .bind (readOnly_orConflict _ _) fun current => ?_
  refine .bind (.lift _) fun _ => .bind (readOnly_conflictIf _ _) fun _ => ?_
  refine .bind (.lift _) fun _ => .bind (readOnly_conflictIf _ _) fun _ => ?_
  exact .bind (readOnly_conflictIf _ _) fun _ => .pure _

theorem change_of_writeLiveStart {claim : LiveRunStartClaim} {run : AgentRun}
    {event : AgentRunEvent} {result : LiveRunStartClaimResult}
    (h : Returns (writeLiveStart T claim run checkpoint event) o t n result t' n') : Change T t t' := by
  rw [writeLiveStart] at h
  obtain ⟨_, n₁, -, h⟩ := (readOnly_orConflict _ _).returns_bind h
  simp only [returns_lift_bind, insertRun, insertCheckpoint, insertEvent, insertClaim, returns_execute_bind,
    returns_statement_bind, returns_pure, checkpointConstraint, eventConstraint, claimConstraint, Bool.and_eq_true,
    Bool.not_eq_true',
    any_eq_false, decide_eq_true_eq, not_or, not_and] at h
  obtain ⟨_, -, -, hrun, -, ⟨-, hcheckpoint⟩, -, ⟨-, hevent⟩, -, hclaim, -, -, rfl, -⟩ := h
  refine .liveStart _ _ _ _ ⟨run, rfl⟩ ⟨checkpoint, rfl⟩ hrun rfl (fun stored hstored => ?_) rfl rfl
    (fun stored hstored => ?_)
    fun stored hstored => ⟨(hclaim.1.1.1 stored hstored).1, (hclaim.1.1.1 stored hstored).2.1⟩
  · refine ⟨(hcheckpoint stored hstored).1, fun hplace => ?_⟩
    obtain ⟨hrunId, hsequence⟩ := Prod.mk.inj hplace
    exact (hcheckpoint stored hstored).2 hrunId hsequence
  · refine ⟨(hevent stored hstored).1, fun hplace => ?_⟩
    obtain ⟨hrunId, hsequence⟩ := Prod.mk.inj hplace
    exact (hevent stored hstored).2 hrunId hsequence

theorem leaves_claimLiveRunStart (claim : LiveRunStartClaim) (run : AgentRun) (checkpoint : AgentCheckpoint)
    (event : AgentRunEvent) :
    Leaves (fun _ => Change T) (claimLiveRunStart P T R parseInstant claim run checkpoint event) := by
  refine leaves_of_readOnly_bind (fun _ _ => .none) (.lift _) fun _ => ?_
  refine leaves_select fun o t n u t' n' h => ?_
  unfold settleLiveStart at h
  split at h
  · exact change_of_writeLiveStart h
  · split at h
    · rw [returns_statement_bind, returns_pure] at h
      exact h.2.2.1 ▸ .none
    · obtain ⟨_, n₁, -, h⟩ := (readOnly_validateExistingLiveStartClaim _ _).returns_bind h
      rw [returns_statement_bind, returns_pure] at h
      exact h.2.2.1 ▸ .none
  · rw [returns_statement_bind, returns_pure] at h
    exact h.2.2.1 ▸ .none

/-- Whatever the write is and however it ends, it leaves one of these changes. -/
theorem leaves_perform (write : AgentWrite) : Leaves (fun _ => Change T) (write.perform P T R parseInstant) := by
  cases write with
  | definition agent => exact leaves_bind (leaves_saveAgentDefinition agent) fun _ => .pure _
  | event event => exact leaves_bind (leaves_saveAgentRunEvent event) fun _ => .pure _
  | liveStart claim run checkpoint event =>
    exact leaves_bind (leaves_claimLiveRunStart claim run checkpoint event) fun _ => .pure _
  | run run => exact leaves_bind (leaves_saveAgentRun run) fun _ => .pure _
  | step step => exact leaves_bind (leaves_saveAgentRunStep step) fun _ => .pure _
  | append expectedTail checkpoint =>
    exact leaves_bind (leaves_appendAgentCheckpoint expectedTail checkpoint) fun _ => .pure _
  | checkpoint checkpoint => exact leaves_bind (leaves_saveAgentCheckpoint checkpoint) fun _ => .pure _
  | evaluation evaluation => exact leaves_bind (leaves_saveAgentRunEvaluation evaluation) fun _ => .pure _
  | approvalRequest request => exact leaves_bind (leaves_saveApprovalRequest request) fun _ => .pure _
  | approvalDecision decision => exact leaves_bind (leaves_saveApprovalDecision decision) fun _ => .pure _
  | approvalExecution execution => exact leaves_bind (leaves_saveApprovalExecution execution) fun _ => .pure _

end Inversion

/-- The constraints of the schema: unique keys, one step per request, a run for every event. -/
structure AgentTables.Lawful (t : AgentTables) : Prop where
  definitionIds : Keyed DefinitionRow.id t.definitions
  definitionNames : Keyed DefinitionRow.name t.definitions
  runs : Keyed RunRow.id t.runs
  steps : Keyed StepRow.id t.steps
  bindings : ∀ a ∈ t.steps, ∀ b ∈ t.steps, a.approvalRequestId.isSome = true →
    a.approvalRequestId = b.approvalRequestId → a = b
  checkpointIds : Keyed CheckpointRow.id t.checkpoints
  checkpointPlaces : Keyed (fun row : CheckpointRow => (row.runId, row.sequence)) t.checkpoints
  eventIds : Keyed EventRow.id t.events
  eventPlaces : Keyed (fun row : EventRow => (row.runId, row.sequence)) t.events
  eventRuns : ∀ event ∈ t.events, ∃ run ∈ t.runs, run.id = event.runId
  evaluations : Keyed EvaluationRow.id t.evaluations
  requests : Keyed RequestRow.id t.requests
  decisionIds : Keyed DecisionRow.id t.decisions
  decisionRequests : Keyed DecisionRow.requestId t.decisions
  executions : Keyed ExecutionRow.requestId t.executions
  claimReadiness : Keyed ClaimRow.readinessBindingDigest t.claims
  claimSetups : Keyed ClaimRow.setupDigest t.claims

section Lawful
variable {T : TextFormats} {t t' : AgentTables}

theorem upsertRun_frame (row : RunRow) : t.upsertRun row = { t with runs := (t.upsertRun row).runs } := by
  unfold AgentTables.upsertRun
  split <;> rfl

theorem upsertStep_frame (row : StepRow) : t.upsertStep row = { t with steps := (t.upsertStep row).steps } := by
  unfold AgentTables.upsertStep
  split <;> rfl

theorem map_id_upsertRun (row : RunRow) : (t.upsertRun row).runs.map RunRow.id = t.runs.map RunRow.id ∨
      (t.upsertRun row).runs.map RunRow.id = t.runs.map RunRow.id ++ [row.id] ∧ row.id ∉ t.runs.map RunRow.id := by
  unfold AgentTables.upsertRun
  split
  · exact .inl (map_updateWhere fun stored hstored => (of_decide_eq_true hstored).symm)
  · rename_i hnew
    refine .inr ⟨map_append, fun hmem => hnew ?_⟩
    obtain ⟨stored, hstored, hid⟩ := mem_map.mp hmem
    exact any_eq_true.mpr ⟨stored, hstored, decide_eq_true hid⟩

theorem keyed_upsertRun {row : RunRow} (h : Keyed RunRow.id t.runs) : Keyed RunRow.id (t.upsertRun row).runs := by
  rw [Keyed] at h ⊢
  rcases map_id_upsertRun row with heq | ⟨heq, hnew⟩
  · rw [heq]
    exact h
  · rw [heq]
    exact nodup_append.mpr ⟨h, nodup_singleton _, fun a ha b hb hab => hnew (by
      rw [← mem_singleton.mp hb, ← hab]
      exact ha)⟩

theorem exists_upsertRun {row : RunRow} {runId : Uuid} (h : ∃ run ∈ t.runs, run.id = runId) :
    ∃ run ∈ (t.upsertRun row).runs, run.id = runId := by
  have hmem : runId ∈ t.runs.map RunRow.id := mem_map.mpr h
  refine mem_map.mp ?_
  rcases map_id_upsertRun (t := t) row with heq | ⟨heq, -⟩
  · exact heq ▸ hmem
  · exact heq ▸ mem_append_left _ hmem

theorem mem_upsertStep {row stored : StepRow} (h : stored ∈ (t.upsertStep row).steps) :
    stored ∈ t.steps ∧ stored.id ≠ row.id ∨
      stored.id = row.id ∧ stored.approvalRequestId = row.approvalRequestId := by
  unfold AgentTables.upsertStep at h
  split at h
  · obtain ⟨old, hold, rfl⟩ := mem_map.mp h
    split
    · rename_i hid
      exact .inr ⟨of_decide_eq_true hid, rfl⟩
    · rename_i hid
      exact .inl ⟨hold, by simpa using hid⟩
  · rename_i hnew
    rcases mem_append.mp h with h | h
    · exact .inl ⟨h, fun hid => hnew (any_eq_true.mpr ⟨stored, h, decide_eq_true hid⟩)⟩
    · obtain rfl := mem_singleton.mp h
      exact .inr ⟨rfl, rfl⟩

variable {row : StepRow}

theorem keyed_upsertStep (h : Keyed StepRow.id t.steps) : Keyed StepRow.id (t.upsertStep row).steps := by
  unfold AgentTables.upsertStep
  split
  · exact h.updateWhere fun _ _ => rfl
  · rename_i hnew
    exact h.append fun stored hstored hid => hnew (any_eq_true.mpr ⟨stored, hstored, decide_eq_true hid⟩)

theorem unbound_of_stepConstraint (h : stepConstraint row t = true) {stored : StepRow}
    (hstored : stored ∈ t.steps) (hid : stored.id ≠ row.id) (hbound : row.approvalRequestId.isSome = true) :
    stored.approvalRequestId ≠ row.approvalRequestId := by
  intro hsame
  simp only [stepConstraint, Bool.and_eq_true, Bool.not_eq_true', any_eq_false, decide_eq_true_eq] at h
  exact h.2 stored hstored ⟨hid, hbound, hsame⟩

theorem AgentTables.Lawful.upsertStep (h : t.Lawful) (hconstraint : stepConstraint row t = true) :
    ∀ a ∈ (t.upsertStep row).steps, ∀ b ∈ (t.upsertStep row).steps, a.approvalRequestId.isSome = true →
      a.approvalRequestId = b.approvalRequestId → a = b := by
  intro a ha b hb hsome hsame
  rcases mem_upsertStep ha with ⟨holdA, hidA⟩ | ⟨hidA, hboundA⟩ <;>
    rcases mem_upsertStep hb with ⟨holdB, hidB⟩ | ⟨hidB, hboundB⟩
  · exact h.bindings a holdA b holdB hsome hsame
  · exact absurd (hsame.trans hboundB) (unbound_of_stepConstraint hconstraint holdA hidA (hboundB ▸ hsame ▸ hsome))
  · exact absurd (hsame.symm.trans hboundA) (unbound_of_stepConstraint hconstraint holdB hidB (hboundA ▸ hsome))
  · exact (keyed_upsertStep h.steps).eq_of_key_eq ha hb (hidA.trans hidB.symm)

theorem forall_mem_concat {α : Type} {p : α → Prop} {rows : List α} {row : α} (h : ∀ r ∈ rows, p r) (hrow : p row) :
    ∀ r ∈ rows ++ [row], p r := by
  intro r hr
  rcases mem_append.mp hr with hr | hr
  · exact h r hr
  · exact mem_singleton.mp hr ▸ hrow

theorem Change.lawful (h : Change T t t') (hlawful : t.Lawful) : t'.Lawful := by
  cases h with
  | none => exact hlawful
  | definition row hnew =>
    exact { hlawful with
      definitionIds := hlawful.definitionIds.append fun stored hstored => (hnew stored hstored).1
      definitionNames := hlawful.definitionNames.append fun stored hstored => (hnew stored hstored).2 }
  | evaluation row hnew => exact { hlawful with evaluations := hlawful.evaluations.append hnew }
  | run row hrecord hopen =>
    rw [upsertRun_frame]
    exact { hlawful with
      runs := keyed_upsertRun hlawful.runs
      eventRuns := fun event hevent => exists_upsertRun (hlawful.eventRuns event hevent) }
  | step row hrecord hopen hbinding hconstraint =>
    rw [upsertStep_frame]
    exact { hlawful with
      steps := keyed_upsertStep hlawful.steps
      bindings := hlawful.upsertStep hconstraint }
  | checkpoint row hrecord hopen hconstraint =>
    simp only [checkpointConstraint, Bool.and_eq_true, Bool.not_eq_true', any_eq_false, decide_eq_true_eq,
      not_or, not_and] at hconstraint
    exact { hlawful with
      checkpointIds := hlawful.checkpointIds.append fun stored hstored => (hconstraint.2 stored hstored).1
      checkpointPlaces := hlawful.checkpointPlaces.append fun stored hstored hplace =>
        (hconstraint.2 stored hstored).2 (Prod.mk.inj hplace).1 (Prod.mk.inj hplace).2 }
  | event row hopen hconstraint hnext =>
    simp only [eventConstraint, Bool.and_eq_true, Bool.not_eq_true', any_eq_false, any_eq_true,
      decide_eq_true_eq, not_or, not_and] at hconstraint
    exact { hlawful with
      eventIds := hlawful.eventIds.append fun stored hstored => (hconstraint.2 stored hstored).1
      eventPlaces := hlawful.eventPlaces.append fun stored hstored hplace =>
        (hconstraint.2 stored hstored).2 (Prod.mk.inj hplace).1 (Prod.mk.inj hplace).2
      eventRuns := forall_mem_concat hlawful.eventRuns hconstraint.1 }
  | liveStart run checkpoint event claim hrun hrecord hnew hcheckpoint hcheckpointNew hevent hfirst heventNew
    hclaimNew =>
    exact { hlawful with
      runs := hlawful.runs.append hnew
      checkpointIds := hlawful.checkpointIds.append fun stored hstored => (hcheckpointNew stored hstored).1
      checkpointPlaces := hlawful.checkpointPlaces.append fun stored hstored => (hcheckpointNew stored hstored).2
      eventIds := hlawful.eventIds.append fun stored hstored => (heventNew stored hstored).1
      eventPlaces := hlawful.eventPlaces.append fun stored hstored => (heventNew stored hstored).2
      eventRuns := forall_mem_concat
        (fun stored hstored => (hlawful.eventRuns stored hstored).imp fun run hrun =>
          ⟨mem_append_left _ hrun.1, hrun.2⟩)
        ⟨run, mem_append_right _ (mem_singleton_self _), hevent.symm⟩
      claimReadiness := hlawful.claimReadiness.append fun stored hstored => (hclaimNew stored hstored).1
      claimSetups := hlawful.claimSetups.append fun stored hstored => (hclaimNew stored hstored).2 }
  | request row hopen hnew => exact { hlawful with requests := hlawful.requests.append hnew }
  | decision row hopen hnew =>
    exact { hlawful with
      decisionIds := hlawful.decisionIds.append fun stored hstored => (hnew stored hstored).1
      decisionRequests := hlawful.decisionRequests.append fun stored hstored => (hnew stored hstored).2 }
  | execution row hopen hnew => exact { hlawful with executions := hlawful.executions.append hnew }

end Lawful
end ProofPlatform.AgentRows
