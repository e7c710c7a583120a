import ProofPlatform.Operator.RuntimeStore

/-! The commit: its checks, its rows, and the savepoint that leaves a forfeit if one cannot be written. -/
namespace ProofPlatform.Operator
open Kernel Executor Library Fallible Transaction Tx Table Bool BudgetReservation

variable (C : OperatorStoreContext)

/-! ### The prepared result -/

/-- The text before the first double colon. -/
def beforeDoubleColon : List Char → Option (List Char)
  | ':' :: ':' :: _ => some []
  | c :: rest => (beforeDoubleColon rest).map (c :: ·)
  | [] => none

def canonical (value : Json) : Bool := C.primitives.canonicalize value matches .ok _

variable (prepared : PreparedGovernedExecution)

/-- The prepared execution has a canonical text, over which its digest is taken. -/
def PreparedGovernedExecution.onWire : Bool :=
  uuidIsV7 prepared.executionContextId && canonical C prepared.output && prepared.stepAfter.output.all (canonical C) &&
  (prepared.checkpoint.all fun checkpoint => canonical C checkpoint.state) &&
  (prepared.events.all fun event => canonical C event.data) &&
  (prepared.evaluation.all fun evaluation => canonical C evaluation.metrics) &&
  (prepared.approval.all fun approval => approval.binding.onWire) && prepared.usage.onWire &&
  allSafe [prepared.runAfter.revision, prepared.stepAfter.revision]

def PreparedGovernedExecution.result (operation : String) : PreparedRuntimeResultBody where
  schema := PreparedRuntimeResultBody.schemaName
  usage := prepared.usage
  outputDigest := prepared.proof.body.outputDigest
  proof := proofReference C prepared.proof operation
  runRevision := prepared.runAfter.revision
  stepRevision := prepared.stepAfter.revision
  checkpointId := prepared.checkpoint.map AgentCheckpoint.id
  checkpointSequence := prepared.checkpoint.map AgentCheckpoint.sequence
  checkpointDigest := prepared.checkpoint.map AgentCheckpoint.stateDigest
  firstEventSequence := (prepared.events.head?.map AgentRunEvent.sequence).getD 0
  lastEventSequence := (prepared.events.getLast?.map AgentRunEvent.sequence).getD 0

/-- The binding of a prepared execution, if it has one. -/
def PreparedExecutionBinding.fromPrepared
    (replayBindingDigest : Option ControlDigest) : Option PreparedExecutionBinding := do
  guard (prepared.replay.isSome = replayBindingDigest.isSome)
  let operation ← beforeDoubleColon prepared.proof.body.operation.toList
  let result := prepared.result C (String.ofList operation)
  let resultDigest ← (result.digest C.hashes).toOption
  guard (prepared.onWire C)
  let binding : PreparedExecutionBinding :=
    { schema := PreparedExecutionBinding.schemaName
      payloadDigest := C.hashes.preparedExecution prepared
      replayBindingDigest, result, resultDigest
      executionContextId := prepared.executionContextId }
  guard (binding.valid C.hashes)
  pure binding

variable (request : RuntimeCommitRequest)

/-- The prepared projection is bound to the intent that its custody was used to begin. -/
def RuntimeCommitRequest.preparedMatchesDispatch : Bool :=
  let usage := request.prepared.result.usage
  request.prepared.valid C.hashes && request.prepared.replayBindingDigest == request.permit.replayBindingDigest &&
  request.prepared.result.proof.operation == request.intent.operation && usage.boundaryKind == request.intent.kind &&
  usage.adapter == request.intent.adapter && usage.model == request.intent.model &&
  decide (usage.steps ≤ request.intent.ceiling.steps) && decide (usage.tokens ≤ request.intent.ceiling.tokens) &&
  decide (usage.costMicrousd ≤ request.intent.ceiling.costMicrousd) &&
  decide (usage.toolDispatches ≤ request.intent.ceiling.toolDispatches)

/-- Elapsed milliseconds, rounded up; a clock that went back has none. -/
def dispatchDuration (started now : Instant) : Option Nat :=
  let elapsed := now - started
  let milliseconds := elapsed / 1000000
  if elapsed < 0 then none
  else checkedAdd milliseconds.toNat (if milliseconds * 1000000 < elapsed then 1 else 0)

def PreparedUsageRecord.charge (usage : PreparedUsageRecord) (durationMs : Nat) : BudgetAmounts :=
  ⟨usage.steps, usage.tokens, durationMs, usage.costMicrousd, usage.toolDispatches⟩

/-! ### The checks of a commit -/

/-- The records a commit is checked against, as its transaction reads them. -/
structure CommitRecords where
  control : RunControl
  lease : RunLease
  reservation : BudgetReservation
  run : AgentRun
  step : AgentRunStep
  projection : RunProjection
  checkpoint : CheckpointIdentity
  budget : BudgetAccount

variable (prepared : PreparedGovernedExecution)

def loadCommitRecords (control : RunControl) (lease : RunLease)
    (reservation : BudgetReservation) : StoreM CommitRecords := do
  let run ← loadAgentRunExact reservation.runId
  let step ← loadAgentStepExact ((reservation.replay.map ReplayClaimBinding.stepId).getD prepared.stepAfter.id)
  let projection ← loadLatestProjectionExact C run.id
  let checkpoint ← loadLatestCheckpointIdentity run.id
  let budget ← loadBudget C reservation.budgetId
  pure ⟨control, lease, reservation, run, step, projection, checkpoint, budget⟩

namespace CommitRecords

variable (records : CommitRecords)

/-- Permit, account and lease belong together. -/
def permitted (permit : DispatchPermit) : Bool :=
  records.budget.budgetId == records.reservation.budgetId &&
  records.budget.policy.workspaceId == records.control.workspaceId &&
  records.budget.policy.deadlineAt == permit.budgetDeadlineAt &&
  permit.processEpochId == records.lease.processEpochId && permit.leaseId == records.lease.leaseId &&
  permit.fenceEpoch == records.lease.fenceEpoch && permit.runId == records.run.id

/-- Run and step are running, and projected as they stand. -/
def running : Bool :=
  records.run.status == .running && records.step.status == .running &&
  records.projection.workspaceId == records.control.workspaceId &&
  records.projection.currentFor records.run records.control records.lease &&
  records.checkpoint == records.projection.checkpoint

def usedAs (usage : PreparedUsageRecord) : Bool :=
  usage.boundaryKind == records.reservation.intent.kind && usage.adapter == records.reservation.intent.adapter &&
  usage.model == records.reservation.intent.model && usage.steps == 1

/-- The run that is to be stored is the run, one revision on if it was one-shot. -/
def runContinues (next : AgentRun) : Bool :=
  next.id == records.run.id && next.actor == records.run.actor && next.agentId == records.run.agentId &&
  next.mode == records.run.mode && next.goal == records.run.goal && next.createdAt == records.run.createdAt &&
  runRevisionAfter records.run.mode records.run.revision == some next.revision

/-- The step that is to be stored is the step, one revision on. -/
def stepContinues (next : AgentRunStep) : Bool :=
  let step := records.step
  next.id == step.id && next.runId == step.runId && next.ordinal == step.ordinal && next.attempt == step.attempt &&
  next.retryOf == step.retryOf && next.operation == step.operation && next.version == step.version &&
  next.inputDigest == step.inputDigest && next.createdAt == step.createdAt &&
  checkedAdd step.revision 1 == some next.revision

/-- The proof is the run actor's, of the reserved operation on the used input and output. -/
def proved (prepared : PreparedGovernedExecution) : Bool :=
  let body := prepared.proof.body
  body.actor == records.run.actor &&
  body.operation == proofOperation records.reservation.intent.operation records.reservation.intent.version &&
  body.inputDigest == prepared.usage.inputDigest && body.outputDigest == prepared.usage.outputDigest &&
  match C.primitives.canonicalize prepared.output with
  | .ok output => C.primitives.digest .operationOutput output == body.outputDigest
  | .error _ => false

/-- Everything a result must pass to be recorded; a result that does not is forfeited. -/
def accepts (request : RuntimeCommitRequest) (prepared : PreparedGovernedExecution) (duration : Option Nat) : Bool :=
  let reservation := records.reservation
  request.prepared.valid C.hashes &&
  PreparedExecutionBinding.fromPrepared C prepared (reservation.replay.map ReplayClaimBinding.bindingDigest) ==
    some request.prepared &&
  request.preparedMatchesDispatch C && duration.isSome &&
  (prepared.usage.charge (duration.getD 0)).fitsWithin reservation.reserved &&
  C.catalog.validateOutput reservation.intent.operation reservation.intent.version prepared.output &&
  records.permitted request.permit && records.running && records.usedAs prepared.usage &&
  records.runContinues prepared.runAfter && records.stepContinues prepared.stepAfter && records.proved C prepared

end CommitRecords

/-! ### Persistence -/

def persistRuntimeContextAndProof : StoreM Unit := do
  let proof := prepared.proof
  invalidIf (prepared.context.actor != proof.body.actor || prepared.context.timestamp != proof.body.timestamp)
  let principal ← failingWith .invalid (loadPrincipalRecord proof.body.actor.id)
  invalidIf (principal.kind != .agent || !proof.verify C.primitives principal.publicKey)
  insertInto (fun db => db.replayTables.executionContexts)
    (fun db executionContexts => { db with replayTables := { db.replayTables with executionContexts } })
    (fun row => decide (row.id = prepared.executionContextId)) prepared.contextRow
  insertInto (fun db => db.replayTables.proofs)
    (fun db proofs => { db with replayTables := { db.replayTables with proofs } })
    (fun row => decide (row.body.id = proof.body.id)) proof

def persistRuntimeCheckpoint (checkpoint : AgentCheckpoint) (runId : Uuid) (sequence : Nat) : StoreM Unit := do
  let state ← orElse (C.primitives.canonicalize checkpoint.state) .invalid
  invalidIf (checkpoint.runId != runId || checkpoint.sequence != sequence ||
    checkpoint.stateDigest != C.primitives.digest .agentCheckpoint state)
  insertInto Database.checkpoints (fun db checkpoints => { db with checkpoints })
    (fun row => decide (row.id = checkpoint.id) ||
      decide (row.runId = checkpoint.runId ∧ row.sequence = checkpoint.sequence)) checkpoint

/-- One past the last event of a run. -/
def nextEventSequence (db : Database) (runId : Uuid) : Nat :=
  ((db.runEvents.filter fun event => decide (event.runId = runId)).map fun event => event.sequence + 1).foldr max 0

def persistRuntimeEvents (runId : Uuid) : Nat → List AgentRunEvent → StoreM Unit
  | _, [] => pure ()
  | expected, event :: events => do
    let data ← orElse (C.primitives.canonicalize event.data) .invalid
    invalidIf (event.runId != runId || event.sequence != expected ||
      event.dataDigest != C.primitives.digest .agentEvent data)
    insertInto Database.runEvents (fun db runEvents => { db with runEvents })
      (fun row => decide (row.id = event.id) || decide (row.runId = event.runId ∧ row.sequence = event.sequence)) event
    persistRuntimeEvents runId (expected + 1) events

def persistRuntimeEvaluation (evaluation : AgentRunEvaluation) (run : AgentRun) : StoreM Unit := do
  invalidIf (evaluation.runId != run.id || !run.status.isTerminal || evaluation.evaluator.toList.all isWhiteSpace ||
    evaluation.scoreBps.any (fun score => decide (10000 < score)) || !canonical C evaluation.metrics)
  insertInto Database.evaluations (fun db evaluations => { db with evaluations })
    (fun row => decide (row.id = evaluation.id)) evaluation

/-- The enrolled human of the workspace. -/
def loadOperatorHumanId : StoreM Uuid := do
  let workspace ← orFail (← select fun db => db.workspaces.head?) .unavailable
  uuidColumn workspace.human.principalId.id

def persistRuntimeApproval (approval : PreparedApprovalBundle) (run : AgentRun) (step : AgentRunStep)
    (checkpoint : CheckpointIdentity) : StoreM Unit := do
  let request := approval.request
  let binding := approval.binding
  let requester ← loadPrincipalRecord request.body.requestedBy.id
  orElse (request.verify C.primitives requester) .invalid
  invalidIf (run.status != .waitingForInput || step.status != .waitingForApproval ||
    step.approvalRequestId != some request.body.id || binding.approvalRequestId != request.body.id)
  let control ← loadControl C run.id
  invalidIf (binding.workspaceId != control.workspaceId || binding.runId != run.id || binding.stepId != step.id ||
    binding.checkpoint != checkpoint || binding.inputDigest != request.body.inputDigest)
  let human ← loadOperatorHumanId
  invalidIf (binding.requiredHumanId != human)
  insertInto Database.approvalRequests (fun db approvalRequests => { db with approvalRequests })
    (fun row => decide (row.body.id = request.body.id)) request
  invalidIf (!binding.onWire)
  insertInto Database.approvalBindings (fun db approvalBindings => { db with approvalBindings })
    (fun row => decide (row.approvalRequestId = binding.approvalRequestId) || decide (row.stepId = binding.stepId) ||
      decide (row.bindingDigest = binding.bindingDigest)) binding

/-- Complete the claim that the dispatch was bound to with the prepared result. -/
def completeBoundReplay (binding : Option ReplayClaimBinding) (prepared : PreparedGovernedExecution) : StoreM Unit :=
  match binding with
  | none => invalidIf prepared.replay.isSome
  | some binding => do
    let claim ← orFail prepared.replay .invalid
    invalidIf (claim.key != binding.key || claim.inputDigest != binding.inputDigest ||
      claim.claimedBy != binding.claimedBy)
    let row ← orFail (← selectOr .corrupt fun db =>
      lookup ReplayRow.key db.replayTables.executionReplays binding.key) .corrupt
    invalidIf (row.state != .claimed || row.claimToken != claim.claimToken ||
      row.inputDigest != binding.inputDigest || row.claimedBy != binding.claimedBy)
    let output ← orElse (C.primitives.canonicalize prepared.output) .invalid
    updateIn (fun db => db.replayTables.executionReplays)
      (fun db executionReplays => { db with replayTables := { db.replayTables with executionReplays } })
      (fun row => decide (row.key = binding.key ∧ row.state = .claimed ∧ row.claimToken = claim.claimToken ∧
        row.inputDigest = binding.inputDigest))
      (SqliteStore.completedRow output prepared.proof prepared.executionContextId row) .conflict

/-- Write what the execution prepared if it prepared one. -/
def persistOptional {α : Type} (prepared : Option α) (persist : α → StoreM Unit) : StoreM Unit :=
  match prepared with
  | none => pure ()
  | some value => persist value

variable (records : CommitRecords)

/-- The tail of the run's checkpoints once the prepared one is stored. -/
def CommitRecords.tail (prepared : PreparedGovernedExecution) : CheckpointIdentity :=
  match prepared.checkpoint with
  | some checkpoint => ⟨checkpoint.id, checkpoint.sequence, checkpoint.stateDigest⟩
  | none => records.projection.checkpoint

def persistResultRows : StoreM Unit := do
  let run := prepared.runAfter
  persistRuntimeContextAndProof C prepared
  updateAgentRunExact run records.run.revision
  updateAgentStepExact C prepared.stepAfter records.step.revision
  persistOptional prepared.checkpoint fun checkpoint => do
    let sequence ← orFail (checkedAdd records.projection.checkpointSequence 1) .corrupt
    persistRuntimeCheckpoint C checkpoint run.id sequence
  let first ← select fun db => nextEventSequence db run.id
  persistRuntimeEvents C run.id first prepared.events
  persistOptional prepared.evaluation fun evaluation => persistRuntimeEvaluation C evaluation run
  persistOptional prepared.approval fun approval =>
    persistRuntimeApproval C approval run prepared.stepAfter (records.tail prepared)
  completeBoundReplay C records.reservation.replay prepared

variable (charged : BudgetAmounts) (now : Instant)

def RuntimeCommitRequest.commit : RuntimeCommit where
  schema := RuntimeCommit.schemaName
  permit := request.permit
  expectedRunRevision := records.run.revision
  expectedStepRevision := records.step.revision
  expectedCheckpointId := records.projection.checkpointId
  expectedCheckpointSequence := records.projection.checkpointSequence
  expectedCheckpointDigest := records.projection.checkpointDigest
  actualCharge := charged
  preparedExecutionDigest := request.prepared.payloadDigest
  resultDigest := request.prepared.resultDigest
  committedAt := now

def RuntimeCommitResult.valid (result : RuntimeCommitResult) : Bool :=
  allSafe [result.runRevision, result.stepRevision, result.controlRevision, result.budgetRevision] &&
  result.charged.isSafe && result.proof.validate matches .ok _

/-- Everything a commit writes, in the order it is written. -/
def persistCommit : StoreM RuntimeCommitResult := do
  persistResultRows C prepared records
  let budget ← lift (settledAccount records.budget records.reservation charged now)
  let commit := request.commit records charged now
  orElse commit.validate .invalid
  let reservation := records.reservation.committed request.prepared commit
  storeSettlement C budget reservation
  let control ← advanceControl C (records.control.dispatches none) records.lease.fenceEpoch now
  let _ ← appendCommitEvents C control records.lease reservation prepared.proof now
  let result : RuntimeCommitResult := ⟨prepared.runAfter.revision, prepared.stepAfter.revision,
    control.controlRevision, budget.revision, charged, request.prepared.result.proof⟩
  invalidIf (!result.valid)
  pure result

/-! ### The barrier -/

/-- A retry of a committed result reports what stands. -/
def repeatCommit (reservation : BudgetReservation) : StoreM RuntimeCommitResult := do
  let commit ← orFail reservation.runtimeCommit .corrupt
  let stored ← orFail reservation.preparedBinding .corrupt
  failIf (stored != request.prepared || commit.permit != request.permit) .conflict
  let control ← loadControl C reservation.runId
  let budget ← loadBudget C reservation.budgetId
  statement
  pure ⟨stored.result.runRevision, stored.result.stepRevision, control.controlRevision, budget.revision,
    reservation.charged, stored.result.proof⟩

/-- The savepoint: what is persisted inside it stays if all of it could be, and the dispatch
is forfeited otherwise. -/
def commitOrForfeit : StoreM (Except OperatorStoreError RuntimeCommitResult) := do
  statement
  match ← attempt (atomically (persistCommit C request prepared records charged now)) with
  | .ok result =>
    statement
    statement
    pure (.ok result)
  | .error error =>
    statement
    let _ ← applyForfeit C records.control records.lease records.reservation now
    statement
    pure (.error error)

def commitInTransaction : StoreM (Except OperatorStoreError RuntimeCommitResult) := do
  statement
  let reservation ← loadPermitted C request.permit request.dispatchToken
  if reservation.state == .committed then
    let result ← repeatCommit C request reservation
    pure (.ok result)
  else
    let (now, control, lease) ← beginSettlement C request.authority request.permit reservation
    let started ← orFail reservation.dispatchStartedAt .corrupt
    let records ← loadCommitRecords C prepared control lease reservation
    let duration := dispatchDuration started now
    if records.accepts C request prepared duration then
      commitOrForfeit C request prepared records (prepared.usage.charge (duration.getD 0)) now
    else
      let _ ← applyForfeit C control lease reservation now
      statement
      pure (.error .invalid)

def commitRuntime : StoreM RuntimeCommitResult := do
  invalidIf (request.schema != "proof.operator.runtime-commit-request/v1")
  let result ← lift (← atomically (commitInTransaction C request prepared))
  invalidIf (!result.valid)
  pure result

/-- A prepared projection that is not bound to the dispatch is forfeited at once. -/
def forfeitInTransaction : StoreM Unit := do
  statement
  let reservation ← loadPermitted C request.permit request.dispatchToken
  let (now, control, lease) ← beginSettlement C request.authority request.permit reservation
  let _ ← applyForfeit C control lease reservation now
  statement

def forfeitCommit : StoreM RuntimeCommitResult := do
  invalidIf (request.schema != "proof.operator.runtime-commit-request/v1")
  atomically (forfeitInTransaction C request)
  fail .notActionable

def commitRuntimeBarrier : StoreM RuntimeCommitResult :=
  if request.preparedMatchesDispatch C then commitRuntime C request prepared else forfeitCommit C request

/-- The request repeats a commit that is on record. -/
def RuntimeCommitRequest.Repeats (s : Database) : Prop :=
  ∃ reservation commit,
    lookup reservationId s.reservations request.permit.reservationId = some reservation ∧
    reservation.state = .committed ∧ reservation.runtimeCommit = some commit ∧ commit.permit = request.permit ∧
    reservation.preparedBinding = some request.prepared

/-- How a commit's transaction ends: it reports what stands, commits, or forfeits the dispatch. -/
def CommitDid (o : Nat → Answer) (s s' : Database) (result : Except OperatorStoreError RuntimeCommitResult) : Prop :=
  ((∃ r, result = .ok r) ∧ s' = s ∧ request.Repeats s) ∨
  ∃ now control reservation,
    Settling C request.authority o s request.permit.reservationId now control reservation ∧
    ((∃ r, result = .ok r ∧ r.valid = true) ∧ Commits C now s s' control reservation request.prepared prepared ∨
      (∃ error, result = .error error) ∧ Forfeits C.hashes now s s' control reservation)

section Commit
variable {C} {o : Nat → Answer} {s s' : Database} {n n' : Nat} {now : Instant} {u : Unit}
  {prepared : PreparedGovernedExecution} {records : CommitRecords} {request : RuntimeCommitRequest}
  {charged : BudgetAmounts} {runId : Uuid}

private theorem persistRuntimeContextAndProof_spec
    (h : Returns (persistRuntimeContextAndProof C prepared) o s n u s' n') :
    s' = { s with replayTables := { s.replayTables with
      executionContexts := s.replayTables.executionContexts ++ [prepared.contextRow]
      proofs := s.replayTables.proofs ++ [prepared.proof] } } := by
  obtain ⟨-, h⟩ := returns_invalidIf_bind.mp h
  obtain ⟨principal, _, _, hprincipal, h⟩ := returns_bind.mp h
  obtain rfl := (readOnly_loadPrincipalRecord _).state_eq (returns_failingWith.mp hprincipal)
  simp only [returns_invalidIf_bind, returns_insertInto_bind, returns_insertInto] at h
  obtain ⟨-, -, -, -, -, rfl, -⟩ := h
  rfl

private theorem persistCheckpoint_spec {checkpoint : Option AgentCheckpoint} {sequence : StoreM Nat}
    (hsequence : ReadOnly sequence) (h : Returns (persistOptional checkpoint fun checkpoint => do
      persistRuntimeCheckpoint C checkpoint runId (← sequence)) o s n u s' n') :
    s' = { s with checkpoints := s.checkpoints ++ checkpoint.toList } ∧ ∀ c ∈ checkpoint, c.runId = runId := by
  cases checkpoint with
  | none =>
    obtain ⟨-, rfl, -⟩ := returns_pure.mp h
    simp
  | some checkpoint =>
    obtain ⟨next, _, _, hnext, h⟩ := returns_bind.mp h
    obtain rfl := hsequence.state_eq hnext
    simp only [persistRuntimeCheckpoint, returns_orElse_bind, returns_invalidIf_bind, returns_insertInto] at h
    obtain ⟨_, -, hmatch, -, -, rfl, -⟩ := h
    simp only [or_eq_false_iff, bne_eq_false_iff_eq] at hmatch
    exact ⟨rfl, fun c hc => Option.some.inj hc ▸ hmatch.1.1⟩

private theorem persistRuntimeEvents_spec {events : List AgentRunEvent} {expected : Nat}
    (h : Returns (persistRuntimeEvents C runId expected events) o s n u s' n') :
    s' = { s with runEvents := s.runEvents ++ events } := by
  induction events generalizing expected s n with
  | nil =>
    obtain ⟨-, rfl, -⟩ := returns_pure.mp h
    simp
  | cons event events ih =>
    simp only [persistRuntimeEvents, returns_orElse_bind, returns_invalidIf_bind, returns_insertInto_bind] at h
    obtain ⟨_, -, -, -, -, h⟩ := h
    rw [ih h, List.append_assoc, List.singleton_append]

private theorem persistEvaluation_spec {evaluation : Option AgentRunEvaluation} {run : AgentRun}
    (h : Returns (persistOptional evaluation fun evaluation => persistRuntimeEvaluation C evaluation run) o s n u
      s' n') : s' = { s with evaluations := s.evaluations ++ evaluation.toList } := by
  cases evaluation with
  | none =>
    obtain ⟨-, rfl, -⟩ := returns_pure.mp h
    simp
  | some evaluation =>
    obtain ⟨-, h⟩ := returns_invalidIf_bind.mp h
    obtain ⟨-, -, rfl, -⟩ := returns_insertInto.mp h
    rfl

private theorem readOnly_loadOperatorHumanId : ReadOnly loadOperatorHumanId :=
  .bind (readOnly_select _) fun _ => .bind (.lift _) fun _ => readOnly_uuidColumn _

private theorem persistApproval_spec {approval : Option PreparedApprovalBundle} {run : AgentRun} {step : AgentRunStep}
    {checkpoint : CheckpointIdentity}
    (h : Returns (persistOptional approval fun approval => persistRuntimeApproval C approval run step checkpoint) o s n
      u s' n') :
    s' = { s with
      approvalRequests := s.approvalRequests ++ (approval.map PreparedApprovalBundle.request).toList
      approvalBindings := s.approvalBindings ++ (approval.map PreparedApprovalBundle.binding).toList } := by
  cases approval with
  | none =>
    obtain ⟨-, rfl, -⟩ := returns_pure.mp h
    simp
  | some approval =>
    obtain ⟨requester, _, hrequester, h⟩ := (readOnly_loadPrincipalRecord _).returns_bind h
    simp only [loadControl, returns_orElse_bind, returns_invalidIf_bind, returns_loadRow_bind] at h
    obtain ⟨_, -, -, -, control, -, -, -, h⟩ := h
    obtain ⟨human, _, _, hhuman, h⟩ := returns_bind.mp h
    obtain rfl := readOnly_loadOperatorHumanId.state_eq hhuman
    simp only [returns_invalidIf_bind, returns_insertInto_bind, returns_insertInto] at h
    obtain ⟨-, -, -, -, -, -, rfl, -⟩ := h
    rfl

private theorem completeBoundReplay_spec {binding : Option ReplayClaimBinding}
    (h : Returns (completeBoundReplay C binding prepared) o s n u s' n') :
    ∃ executionReplays, ReplayCompleted C.primitives binding prepared s.replayTables.executionReplays executionReplays ∧
      s' = { s with replayTables := { s.replayTables with executionReplays } } := by
  cases binding with
  | none =>
    obtain ⟨-, rfl, -⟩ := returns_invalidIf.mp h
    exact ⟨s.replayTables.executionReplays, rfl, rfl⟩
  | some binding =>
    simp only [completeBoundReplay, returns_orFail_bind, returns_invalidIf_bind, returns_selectOr_bind,
      returns_orElse_bind, returns_updateIn] at h
    obtain ⟨claim, -, -, -, row, hrow, hbound, output, houtput, -, ⟨rows, hrows, rfl⟩, -⟩ := h
    obtain ⟨-, hkey⟩ := lookup_eq_some hrow
    simp only [or_eq_false_iff, bne_eq_false_iff_eq] at hbound
    obtain ⟨⟨⟨hstate, htoken⟩, hinput⟩, hclaimant⟩ := hbound
    refine ⟨rows, ⟨row, output, houtput, hstate, hkey, hinput, hclaimant, ?_⟩, rfl⟩
    exact .of_replaceOne hrows (hkey ▸ hrow) (by simp [hkey, hstate, htoken, hinput]) rfl

private theorem persistResultRows_spec {stepId : Uuid}
    (h : Returns (persistResultRows C prepared records) o s n u s' n')
    (hrun : lookup AgentRun.id s.agentRuns runId = some records.run)
    (hstep : lookup AgentRunStep.id s.agentSteps stepId = some records.step)
    (hrunId : prepared.runAfter.id = records.run.id) (hstepId : prepared.stepAfter.id = records.step.id) :
    ∃ agentRuns agentSteps executionReplays,
      Replaces AgentRun.id records.run prepared.runAfter s.agentRuns agentRuns ∧
      Replaces AgentRunStep.id records.step prepared.stepAfter s.agentSteps agentSteps ∧
      (∀ c ∈ prepared.checkpoint, c.runId = records.run.id) ∧
      ReplayCompleted C.primitives records.reservation.replay prepared s.replayTables.executionReplays
        executionReplays ∧
      s' = { s with
        agentRuns, agentSteps
        checkpoints := s.checkpoints ++ prepared.checkpoint.toList
        runEvents := s.runEvents ++ prepared.events
        evaluations := s.evaluations ++ prepared.evaluation.toList
        approvalRequests := s.approvalRequests ++ (prepared.approval.map PreparedApprovalBundle.request).toList
        approvalBindings := s.approvalBindings ++ (prepared.approval.map PreparedApprovalBundle.binding).toList
        replayTables := ⟨executionReplays, s.replayTables.executionContexts ++ [prepared.contextRow],
          s.replayTables.proofs ++ [prepared.proof]⟩ } := by
  obtain ⟨_, _, _, hcontext, h⟩ := returns_bind.mp h
  obtain rfl := persistRuntimeContextAndProof_spec hcontext
  simp only [updateAgentRunExact, updateAgentStepExact, bind_assoc, returns_invalidIf_bind, returns_updateIn_bind,
    returns_select_bind, returns_failIf_bind] at h
  obtain ⟨-, -, agentRuns, hruns, -, -, -, -, agentSteps, hsteps, h⟩ := h
  obtain ⟨_, _, _, hcheckpoint, h⟩ := returns_bind.mp h
  obtain ⟨rfl, hcheckpoints⟩ := persistCheckpoint_spec (.lift _) hcheckpoint
  obtain ⟨-, h⟩ := returns_select_bind.mp h
  obtain ⟨_, _, _, hevents, h⟩ := returns_bind.mp h
  obtain rfl := persistRuntimeEvents_spec hevents
  obtain ⟨_, _, _, hevaluation, h⟩ := returns_bind.mp h
  obtain rfl := persistEvaluation_spec hevaluation
  obtain ⟨_, _, _, happroval, h⟩ := returns_bind.mp h
  obtain rfl := persistApproval_spec happroval
  obtain ⟨executionReplays, hcompleted, rfl⟩ := completeBoundReplay_spec h
  have hrunRow := (lookup_eq_some hrun).2
  have hstepRow := (lookup_eq_some hstep).2
  refine ⟨agentRuns, agentSteps, executionReplays, ?_, ?_, fun c hc => (hcheckpoints c hc).trans hrunId,
    hcompleted, rfl⟩
  · exact .of_replaceOne hruns (hrunRow ▸ hrun) (by simp [hrunId]) hrunId
  · exact .of_replaceOne hsteps (hstepRow ▸ hstep) (by simp [hstepId]) hstepId

private theorem loadCommitRecords_spec {control : RunControl} {lease : RunLease} {reservation : BudgetReservation}
    (h : Returns (loadCommitRecords C prepared control lease reservation) o s n records s' n') :
    records.control = control ∧ records.lease = lease ∧ records.reservation = reservation ∧
      lookup AgentRun.id s.agentRuns reservation.runId = some records.run ∧
      (∃ stepId, lookup AgentRunStep.id s.agentSteps stepId = some records.step) ∧
      lookup BudgetAccount.budgetId s.budgets reservation.budgetId = some records.budget ∧ s = s' := by
  simp only [loadCommitRecords, loadAgentRunExact, loadAgentStepExact, loadLatestProjectionExact,
    returns_loadRow_bind] at h
  obtain ⟨-, run, hrun, -, -, step, hstep, -, -, projection, -, -, h⟩ := h
  obtain ⟨checkpoint, _, hcheckpoint, h⟩ := (readOnly_loadLatestCheckpointIdentity _).returns_bind h
  simp only [loadBudget, returns_loadRow_bind, returns_pure] at h
  obtain ⟨-, budget, hbudget, -, rfl, rfl, -⟩ := h
  exact ⟨rfl, rfl, rfl, hrun, ⟨_, hstep⟩, hbudget, rfl⟩

/-- An accepted result continues a running run, and its binding is that of what is stored. -/
theorem CommitRecords.bound_of_accepts {duration : Option Nat}
    (h : records.accepts C request prepared duration = true) :
    (records.run.status = .running ∧ prepared.runAfter.id = records.run.id ∧ prepared.stepAfter.id = records.step.id) ∧
      request.prepared.result.runRevision = prepared.runAfter.revision ∧
      request.prepared.result.stepRevision = prepared.stepAfter.revision := by
  simp only [accepts, running, runContinues, stepContinues, and_eq_true, beq_iff_eq] at h
  obtain ⟨⟨⟨⟨⟨hbinding, hrunning⟩, -⟩, hrun⟩, hstep⟩, -⟩ := h
  refine ⟨⟨hrunning.1.1.1.1, hrun.1.1.1.1.1.1, hstep.1.1.1.1.1.1.1.1.1⟩, ?_⟩
  replace hbinding := hbinding.1.1.1.1.1.2
  simp only [PreparedExecutionBinding.fromPrepared, Option.bind_eq_bind, Option.bind_eq_some_iff] at hbinding
  obtain ⟨_, -, operation, -, digest, -, _, -, _, -, hpure⟩ := hbinding
  rw [← Option.some.inj hpure]
  exact ⟨rfl, rfl⟩

/-- The duration of an accepted result is the time since its dispatch, in milliseconds rounded up. -/
theorem charges_of_accepts {started : Instant} (hstarted : records.reservation.dispatchStartedAt = some started)
    (h : records.accepts C request prepared (dispatchDuration started now) = true) :
    records.reservation.Charges now prepared.usage
      (prepared.usage.charge ((dispatchDuration started now).getD 0)) := by
  simp only [CommitRecords.accepts, and_eq_true] at h
  obtain ⟨duration, hduration⟩ := Option.isSome_iff_exists.mp h.1.1.1.1.1.1.1.1.2
  rw [hduration, Option.getD_some]
  simp only [dispatchDuration, checkedAdd] at hduration
  refine ⟨started, duration, hstarted, ?_, ?_, rfl⟩ <;> grind

/-- The answer is what is on record for the committed reservation, but for two revisions. -/
def RuntimeCommitRequest.Reports (request : RuntimeCommitRequest) (s : Database) (result : RuntimeCommitResult) :
    Prop :=
  ∃ row, s.reservation? request.permit.reservationId = some row ∧ row.state = .committed ∧ result =
      ⟨request.prepared.result.runRevision, request.prepared.result.stepRevision, result.controlRevision,
        result.budgetRevision, row.charged, request.prepared.result.proof⟩

variable {result : Except OperatorStoreError RuntimeCommitResult}

section
variable {controlId stepId : Uuid} {duration : Option Nat}
  (haccepts : records.accepts C request prepared duration = true)
  (hcharges : records.reservation.Charges now prepared.usage charged)
  (hcontrol : lookup RunControl.runId s.controls controlId = some records.control)
  (hr : s.reservation? request.permit.reservationId = some records.reservation)
  (hstate : records.reservation.state = .dispatching)
  (hrun : lookup AgentRun.id s.agentRuns records.reservation.runId = some records.run)
  (hstep : lookup AgentRunStep.id s.agentSteps stepId = some records.step)
  (hb : lookup BudgetAccount.budgetId s.budgets records.reservation.budgetId = some records.budget)
include haccepts hcharges hcontrol hr hstate hrun hstep hb

private theorem persistCommit_spec {result : RuntimeCommitResult}
    (h : Returns (persistCommit C request prepared records charged now) o s n result s' n') :
    (result.valid = true ∧ Commits C now s s' records.control records.reservation request.prepared prepared) ∧
      request.Reports s' result := by
  obtain ⟨⟨hrunning, hids⟩, hrevisions⟩ := CommitRecords.bound_of_accepts haccepts
  obtain ⟨_, _, _, hrows, h⟩ := returns_bind.mp h
  obtain ⟨agentRuns, agentSteps, executionReplays, hruns, hsteps, hcheckpoint, hreplay, rfl⟩ :=
    persistResultRows_spec hrows hrun hstep hids.1 hids.2
  simp only [returns_lift_bind, returns_orElse_bind] at h
  obtain ⟨account, haccount, -, -, h⟩ := h
  obtain ⟨_, _, _, hsettle, h⟩ := returns_bind.mp h
  obtain ⟨budgets, reservations, hsettles, rfl⟩ := storeSettlement_spec hsettle haccount hr hb hstate rfl ⟨rfl, rfl⟩
    (by simp [held, reservationOpen, committed])
    (by simp [spent, committed, RuntimeCommitRequest.commit])
  obtain ⟨next, controls, projection, _, hadvances, hp, -, h⟩ := advances_of_advanceControl h hcontrol rfl rfl rfl
  obtain ⟨event, _, _, hevents, h⟩ := returns_bind.mp h
  obtain ⟨events, hkinds, journal, hgrows, hprojections, rfl⟩ := appendCommitEvents_audits hevents
  simp only [returns_invalidIf_bind, returns_pure, not_eq_false'] at h
  obtain ⟨hvalid, rfl, rfl, -⟩ := h
  have hrunId : records.run.id = records.reservation.runId := (lookup_eq_some hrun).2
  refine ⟨⟨hvalid, ⟨request.commit records charged now, records.budget, account, hcharges, rfl, rfl, rfl, hsettles⟩,
    ⟨records.run, hrunId, hrunning, hruns⟩, ⟨records.step, hsteps⟩, ⟨rfl, fun c hc => (hcheckpoint c hc).trans hrunId⟩,
    rfl, rfl,
    ⟨rfl, rfl⟩, rfl, rfl, hreplay, ⟨next, hadvances⟩, .of_audits hp hkinds hgrows hprojections, rfl⟩,
    records.reservation.committed request.prepared (request.commit records charged now), ?_, rfl, ?_⟩
  · exact hsettles.reservations.lookup_eq.trans (if_pos (lookup_eq_some hr).2.symm)
  · rw [hrevisions.1, hrevisions.2]
    rfl

/-- Whatever fails inside the savepoint, what it leaves is a whole commit or a whole forfeit. -/
private theorem commitOrForfeit_spec
    (h : Returns (commitOrForfeit C request prepared records charged now) o s n result s' n') :
    ((∃ r, result = .ok r ∧ r.valid = true) ∧
        Commits C now s s' records.control records.reservation request.prepared prepared ∨
      (∃ error, result = .error error) ∧ Forfeits C.hashes now s s' records.control records.reservation) ∧
      ∀ r, result = .ok r → request.Reports s' r := by
  obtain ⟨-, h⟩ := returns_statement_bind.mp h
  obtain ⟨persisted, _, _, hpersist, h⟩ := returns_bind.mp h
  rcases returns_attempt_atomically.mp hpersist with ⟨committed, rfl, hcommit⟩ | ⟨error, rfl, rfl, -, -⟩
  · simp only [returns_statement_bind, returns_pure] at h
    obtain ⟨-, -, rfl, rfl, -⟩ := h
    obtain ⟨⟨hvalid, hcommits⟩, hreports⟩ :=
      persistCommit_spec haccepts hcharges hcontrol hr hstate hrun hstep hb hcommit
    exact ⟨.inl ⟨⟨committed, rfl, hvalid⟩, hcommits⟩, fun _ hr => Except.ok.inj hr ▸ hreports⟩
  · -- The savepoint is rolled back, so the forfeit starts from the state the call began with.
    obtain ⟨-, h⟩ := returns_statement_bind.mp h
    obtain ⟨_, _, hforfeit, rfl⟩ := returns_commit h
    exact ⟨.inr ⟨⟨error, rfl⟩, applyForfeit_spec hforfeit hcontrol hr hstate⟩, fun _ hr => by cases hr⟩

end

/-- The revisions of the answer are those that the control record and the account have. -/
def RuntimeCommitResult.Stands (result : RuntimeCommitResult) (s : Database) (row : BudgetReservation) : Prop :=
  ∃ control account, lookup RunControl.runId s.controls row.runId = some control ∧
    lookup BudgetAccount.budgetId s.budgets row.budgetId = some account ∧
    result.controlRevision = control.controlRevision ∧ result.budgetRevision = account.revision

theorem commitInTransaction_spec (h : Returns (commitInTransaction C request prepared) o s n result s' n') :
    CommitDid C request prepared o s s' result ∧ ∀ r, result = .ok r → request.Reports s' r ∧ ∀ row,
      s.reservation? request.permit.reservationId = some row → row.state = .committed → r.Stands s row := by
  obtain ⟨-, h⟩ := returns_statement_bind.mp h
  obtain ⟨reservation, _, _, hload, h⟩ := returns_bind.mp h
  obtain ⟨hr, -, rfl⟩ := loadPermitted_spec hload
  split at h
  · rename_i hcommitted
    simp only [repeatCommit, loadControl, loadBudget, bind_assoc, returns_orFail_bind, returns_failIf_bind,
      returns_loadRow_bind, returns_statement_bind, returns_pure, pure_bind, or_eq_false_iff,
      bne_eq_false_iff_eq] at h
    obtain ⟨commit, hcommit, stored, hstored, ⟨rfl, hpermit⟩, -, control, hcontrol, -, -, account, haccount, -, -,
      rfl, rfl, -⟩ := h
    have hstate := beq_iff_eq.mp hcommitted
    refine ⟨.inl ⟨⟨_, rfl⟩, rfl, reservation, commit, hr, hstate, hcommit, hpermit, hstored⟩, fun r he => ?_⟩
    obtain rfl := Except.ok.inj he
    refine ⟨⟨reservation, hr, hstate, rfl⟩, fun row hrow _ => ?_⟩
    obtain rfl := Option.some.inj (hr.symm.trans hrow)
    exact ⟨control, account, hcontrol, haccount, rfl, rfl⟩
  · rename_i hopen
    obtain ⟨⟨now, control, lease⟩, _, _, hbegin, h⟩ := returns_bind.mp h
    obtain ⟨hsettling, rfl⟩ := beginSettlement_spec hr hbegin
    obtain ⟨_, hacts⟩ := hsettling.acts
    obtain ⟨started, hstarted, h⟩ := returns_orFail_bind.mp h
    obtain ⟨records, _, _, hrecords, h⟩ := returns_bind.mp h
    obtain ⟨rfl, rfl, rfl, hrun, ⟨stepId, hstep⟩, hb, rfl⟩ := loadCommitRecords_spec hrecords
    suffices hdid : (_ ∨ _) ∧ ∀ r, result = .ok r → request.Reports s' r by
      refine ⟨.inr ⟨now, _, _, hsettling, hdid.1⟩, fun r he => ⟨hdid.2 r he, ?_⟩⟩
      intro row hrow hcommitted
      obtain rfl := Option.some.inj (hr.symm.trans hrow)
      exact absurd (beq_iff_eq.mpr hcommitted) hopen
    dsimp only at h
    split at h
    · rename_i haccepts
      exact commitOrForfeit_spec haccepts (charges_of_accepts hstarted haccepts) hacts.controlRow hr hsettling.state
        hrun hstep hb h
    · obtain ⟨_, _, hforfeit, rfl⟩ := returns_commit h
      exact ⟨.inr ⟨⟨_, rfl⟩, hsettling.forfeits hforfeit⟩, fun _ he => by cases he⟩

private theorem forfeitInTransaction_spec (h : Returns (forfeitInTransaction C request) o s n u s' n') :
    ∃ now control reservation,
      Settling C request.authority o s request.permit.reservationId now control reservation ∧
      Forfeits C.hashes now s s' control reservation := by
  obtain ⟨-, h⟩ := returns_statement_bind.mp h
  obtain ⟨reservation, _, _, hload, h⟩ := returns_bind.mp h
  obtain ⟨hr, -, rfl⟩ := loadPermitted_spec hload
  obtain ⟨⟨now, control, lease⟩, _, _, hbegin, h⟩ := returns_bind.mp h
  obtain ⟨hsettling, rfl⟩ := beginSettlement_spec hr hbegin
  obtain ⟨_, _, _, hforfeit, h⟩ := returns_bind.mp h
  obtain ⟨-, rfl, -⟩ := returns_statementOr.mp h
  exact ⟨now, control, reservation, hsettling, hsettling.forfeits hforfeit⟩

private theorem commitRuntime_did (request : RuntimeCommitRequest) (prepared : PreparedGovernedExecution)
    (o : Nat → Answer) (s : Database) (n : Nat) :
    ((∃ error, (commitRuntime C request prepared o s n).result = .error error) ∧
        (commitRuntime C request prepared o s n).state = s) ∨
      CommitDid C request prepared o s (commitRuntime C request prepared o s n).state
        (commitRuntime C request prepared o s n).result := by
  unfold commitRuntime
  rcases checked_cases _ (commitInTransaction C request prepared) _ o s n with hfailed | ⟨result, s', n', h, hout⟩
  · exact .inl hfailed
  rw [hout]
  have hdid := (commitInTransaction_spec h).1
  cases result with
  | error error => exact .inr hdid
  | ok result =>
    cases hvalid : result.valid with
    | true =>
      have hend : Returns (lift (.ok result) >>= fun result => invalidIf (!result.valid) >>= fun _ => pure result)
          o s' n' result s' n' := by simp only [returns_lift_bind, returns_invalidIf_bind, returns_pure]; simp [hvalid]
      exact .inr ((show _ = _ from hend) ▸ hdid)
    | false =>
      -- Only a report of what stands can fail the last check.
      rcases hdid with ⟨-, rfl, -⟩ | ⟨_, _, _, -, ⟨⟨r, hr, hr'⟩, -⟩ | ⟨⟨_, hr⟩, -⟩⟩
      · refine .inl ⟨⟨.invalid, ?_⟩, ?_⟩
        · simp [bind, lift, invalidIf, reject, hvalid]
        · simp [bind, lift, invalidIf, reject, hvalid]
      · obtain rfl := Except.ok.inj hr
        cases hvalid.symm.trans hr'
      · cases hr

theorem commitRuntimeBarrier_did (request : RuntimeCommitRequest) (prepared : PreparedGovernedExecution)
    (o : Nat → Answer) (s : Database) (n : Nat) :
    ((∃ error, (commitRuntimeBarrier C request prepared o s n).result = .error error) ∧
        (commitRuntimeBarrier C request prepared o s n).state = s) ∨
      CommitDid C request prepared o s (commitRuntimeBarrier C request prepared o s n).state
        (commitRuntimeBarrier C request prepared o s n).result := by
  unfold commitRuntimeBarrier
  split
  · exact commitRuntime_did request prepared o s n
  · unfold forfeitCommit
    rcases checked_cases _ (forfeitInTransaction C request) _ o s n with hfailed | ⟨_, s', n', h, hout⟩
    · exact .inl hfailed
    rw [hout]
    obtain ⟨now, control, reservation, hsettling, hforfeits⟩ := forfeitInTransaction_spec h
    exact .inr (.inr ⟨now, control, reservation, hsettling, .inr ⟨⟨.notActionable, rfl⟩, hforfeits⟩⟩)

/-- A commit that succeeds reports what is on record; a repeated one, the present revisions. -/
theorem commitRuntimeBarrier_reports {result : RuntimeCommitResult}
    (hok : (commitRuntimeBarrier C request prepared o s n).result = .ok result) :
    request.Reports (commitRuntimeBarrier C request prepared o s n).state result ∧ ∀ row,
      s.reservation? request.permit.reservationId = some row → row.state = .committed → result.Stands s row := by
  have h := returns_of_result hok
  generalize (commitRuntimeBarrier C request prepared o s n).state = s' at h ⊢
  unfold commitRuntimeBarrier at h
  split at h
  · rw [commitRuntime, returns_invalidIf_bind] at h
    obtain ⟨_, _, _, hcommit, h⟩ := returns_bind.mp h.2
    simp only [returns_lift_bind, returns_invalidIf_bind, returns_pure] at h
    obtain ⟨r, rfl, -, rfl, rfl, -⟩ := h
    exact (commitInTransaction_spec (returns_atomically.mp hcommit)).2 r rfl
  · simp [forfeitCommit, returns_bind] at h

theorem commitRuntimeBarrier_leaves (request : RuntimeCommitRequest) (prepared : PreparedGovernedExecution) :
    Leaves (Effect C (some request.authority.credential)) (commitRuntimeBarrier C request prepared) := by
  intro o s n
  rcases commitRuntimeBarrier_did request prepared o s n with ⟨-, hs⟩ | ⟨-, hs, -⟩ | ⟨now, _, _, hsettling, hdone⟩
  · exact .inl hs
  · exact .inl hs
  · obtain ⟨⟨m, hnow⟩, ⟨lease, hacts⟩, -, hstate, hactive⟩ := hsettling
    refine .inr ⟨now, m, hnow, ?_⟩
    rcases hdone with ⟨-, hcommits⟩ | ⟨-, hforfeits⟩
    · exact .committed hacts hstate hactive hcommits
    · exact .forfeited hacts hstate hactive hforfeits

end Commit
end ProofPlatform.Operator
