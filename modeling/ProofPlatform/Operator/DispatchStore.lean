import ProofPlatform.Operator.BudgetStore

/-! A reservation becomes a dispatch, unless its replay claim was settled before: then the recorded completion is
returned, and the reservation given back. -/
namespace ProofPlatform.Operator
open Kernel Executor Library Fallible Transaction Tx Table Bool SqliteStore

variable (C : OperatorStoreContext)

/-! ### Verified replay -/

/-- The rows a replay lookup joins: claim, binding, run, step, control, and the proof if any. -/
structure ReplayRecords where
  claim : ReplayRow
  bound : ReplayBindingRow
  run : AgentRun
  step : AgentRunStep
  control : RunControl
  proof : Option Proof

def findReplayRecords (db : Database) (key : ExecutionReplayKey) : Option ReplayRecords := do
  let claim ← lookup ReplayRow.key db.replayTables.executionReplays key
  let bound ← lookup (fun row => row.binding.key) db.replayBindings key
  let run ← lookup AgentRun.id db.agentRuns bound.binding.runId
  let step ← db.agentSteps.find? fun step =>
    decide (step.id = bound.binding.stepId ∧ step.runId = bound.binding.runId)
  let control ← lookup RunControl.runId db.controls bound.binding.runId
  pure ⟨claim, bound, run, step, control, claim.proofId.bind (loadProof db.replayTables)⟩

/-- The reservation a binding was first used for, as a commit left it. -/
def BudgetReservation.originOf (reservation : BudgetReservation) (bound : ReplayBindingRow) : Bool :=
  reservation.state == .committed && reservation.reservationId == bound.originReservationId &&
  reservation.runId == bound.binding.runId && reservation.replay == some bound.binding

/-- The prepared result is that of the commit and was charged to the reservation. -/
def PreparedExecutionBinding.settled (prepared : PreparedExecutionBinding) (commit : RuntimeCommit)
    (reservation : BudgetReservation) (binding : ReplayClaimBinding) : Bool :=
  let usage := prepared.result.usage
  prepared.replayBindingDigest == some binding.bindingDigest &&
  prepared.payloadDigest == commit.preparedExecutionDigest && prepared.resultDigest == commit.resultDigest &&
  usage.boundaryKind == reservation.kind && usage.adapter == reservation.intent.adapter &&
  usage.model == reservation.intent.model && usage.inputDigest == binding.inputDigest &&
  usage.steps == reservation.charged.steps && usage.tokens == reservation.charged.tokens &&
  usage.costMicrousd == reservation.charged.costMicrousd &&
  usage.toolDispatches == reservation.charged.toolDispatches

/-- The settled columns of a completed claim. -/
structure CompletedClaim where
  completedAt : Instant
  outputJson : CanonicalJson
  proofId : Uuid
  proof : Proof
  contextId : Uuid
  output : Json

/-- Read the completion of a claim; its output is canonical and fits the operation's schema. -/
def completedClaim (claim : ReplayRow) (binding : ReplayClaimBinding) : Except OperatorStoreError CompletedClaim := do
  let completedAt ← orReject claim.completedAt .corrupt
  let outputJson ← orReject claim.outputJson .corrupt
  let proofId ← orReject claim.proofId .corrupt
  let proof ← orReject claim.proofJson .corrupt
  let contextId ← orReject claim.executionContextId .corrupt
  let output ← orReject (C.parseJson outputJson.text) .corrupt
  let canonical ← (C.primitives.canonicalize output).mapError fun _ => .corrupt
  reject (canonical != outputJson) .corrupt
  reject (!C.catalog.validateOutput binding.operation binding.version output) .corrupt
  pure ⟨completedAt, outputJson, proofId, proof, contextId, output⟩

/-- The proof is the stored one and proves this operation on this input. -/
def CompletedClaim.proved (completed : CompletedClaim) (stored persisted : Option Proof) (binding : ReplayClaimBinding)
    (prepared : PreparedExecutionBinding) : Bool :=
  let body := completed.proof.body
  body.id == completed.proofId && body.actor == binding.claimedBy &&
  body.operation == proofOperation binding.operation binding.version && body.inputDigest == binding.inputDigest &&
  body.outputDigest == prepared.result.outputDigest && body.timestamp == completed.completedAt &&
  stored == some completed.proof && persisted == some completed.proof

/-- A Unix path that starts at the root. -/
def isAbsolute (path : String) : Bool := path.toList.head? == some '/'

/-- The stored context is the one the proof was made in. -/
def CompletedClaim.contextual (completed : CompletedClaim) (context : ContextRow)
    (prepared : PreparedExecutionBinding) : Bool :=
  let body := completed.proof.body
  context.id == completed.contextId && context.actor == body.actor && context.delegationId == body.delegationId &&
  isAbsolute context.workspacePath && context.timestamp == body.timestamp &&
  prepared.executionContextId == completed.contextId

/-- By how much a commit moves a run's revision: a one-shot run ends with it. -/
def runRevisionAfter (mode : AgentRunMode) (revision : Nat) : Option Nat :=
  match mode with
  | .oneShot => checkedAdd revision 1
  | .session => some revision

variable (records : ReplayRecords)

variable (completed : CompletedClaim) (prepared : PreparedExecutionBinding) (commit : RuntimeCommit)
  (reservation : BudgetReservation)

/-- Run and step carry the completion, at or after the revisions the commit gave them. -/
def ReplayRecords.carries : Bool :=
  let binding := records.bound.binding
  records.step.proof == some completed.proof && records.step.output == some completed.output &&
  prepared.result.proof == proofReference C completed.proof binding.operation &&
  decide (prepared.result.runRevision ≤ records.run.revision) &&
  decide (prepared.result.stepRevision ≤ records.step.revision) &&
  runRevisionAfter records.run.mode commit.expectedRunRevision == some prepared.result.runRevision &&
  checkedAdd commit.expectedStepRevision 1 == some prepared.result.stepRevision &&
  commit.expectedCheckpointId == binding.checkpointId &&
  commit.expectedCheckpointSequence == binding.checkpointSequence &&
  commit.expectedCheckpointDigest == binding.checkpointDigest &&
  reservation.settledAt == some commit.committedAt

variable (result : PreparedRuntimeResultBody) (binding : ReplayClaimBinding)

/-- The checkpoint a commit left as the run's tail: a new one, or the one it started from. -/
def PreparedRuntimeResultBody.tail : Option CheckpointIdentity :=
  match result.checkpointId, result.checkpointSequence, result.checkpointDigest with
  | some id, some sequence, some digest => some ⟨id, sequence, digest⟩
  | none, none, none => some binding.checkpoint
  | _, _, _ => none

variable (db : Database) (runId : Uuid) (runRevision controlRevision : Nat)

/-- The first projection of a run at these revisions. -/
def commitProjection : Option RunProjection :=
  latest (fun a b => decide (b.projectionSequence ≤ a.projectionSequence))
    (db.journal.projections.filter fun projection => decide (projection.runId = runId ∧
      projection.sourceRunRevision = runRevision ∧ projection.sourceControlRevision = controlRevision))

def loadCommitProjectionExact : StoreM RunProjection := do
  invalidIf (!allSafe [runRevision, controlRevision])
  loadRow (fun db => commitProjection db runId runRevision controlRevision) .corrupt (RunProjection.validate C.hashes)

/-- Events one after another from the expected sequence on; the result is the next one. -/
def checkEvents (runId : Uuid) : Nat → List AgentRunEvent → Except OperatorStoreError Nat
  | expected, [] => pure expected
  | expected, event :: events => do
    let canonical ← (C.primitives.canonicalize event.data).mapError fun _ => .corrupt
    reject (!uuidIsV7 event.id || event.runId != runId || event.sequence != expected ||
      event.dataDigest != C.primitives.digest .agentEvent canonical) .corrupt
    checkEvents runId (← orReject (checkedAdd expected 1) .corrupt) events

def runEventsBetween (first last : Nat) : List AgentRunEvent :=
  (db.runEvents.filter fun event => decide (event.runId = runId ∧ first ≤ event.sequence ∧ event.sequence ≤ last)
    ).insertionSort fun a b => a.sequence ≤ b.sequence

def validateRuntimeEventRange (first last : Nat) : StoreM Unit := do
  failIf (decide (last < first) || !allSafe [first, last]) .corrupt
  let next ← lift (checkEvents C runId first (← select fun db => runEventsBetween db runId first last))
  failIf (checkedAdd last 1 != some next) .corrupt

/-- The projections of the run, when it was committed and now, agree with its records. -/
def checkReplayProjections : StoreM Unit := do
  let binding := records.bound.binding
  let revision ← orFail ((checkedAdd commit.permit.expectedControlRevision 2).filter safeOnWire) .corrupt
  failIf (decide (records.control.controlRevision < revision)) .corrupt
  let tail ← orFail (prepared.result.tail binding) .corrupt
  let stored ← loadCheckpointIdentityExact tail.id records.run.id
  failIf (stored != tail) .corrupt
  let committed ← loadCommitProjectionExact C records.run.id prepared.result.runRevision revision
  failIf (committed.workspaceId != binding.workspaceId || committed.checkpoint != tail ||
    committed.fenceEpoch != reservation.fenceEpoch || committed.projectedAt != commit.committedAt) .corrupt
  let latest ← loadLatestProjectionExact C records.run.id
  let checkpoint ← loadLatestCheckpointIdentity records.run.id
  failIf (latest.workspaceId != binding.workspaceId || latest.sourceRunRevision != records.run.revision ||
    latest.sourceControlRevision != records.control.controlRevision || latest.runStatus != records.run.status ||
    checkpoint != latest.checkpoint) .corrupt

def ReplayRecords.completion : ReplayCompletionBinding :=
  let binding := records.bound.binding
  let body := completed.proof.body
  { replayBindingDigest := binding.bindingDigest
    workspaceId := binding.workspaceId
    runId := binding.runId
    stepId := binding.stepId
    checkpointId := binding.checkpointId
    checkpointSequence := binding.checkpointSequence
    checkpointDigest := binding.checkpointDigest
    existingRunRevision := records.run.revision
    existingStepRevision := records.step.revision
    existingControlRevision := records.control.controlRevision
    canonicalOutputJson := completed.outputJson
    inputDigest := binding.inputDigest
    outputDigest := body.outputDigest
    proof := ⟨body.id, body.actor.id, body.delegationId, binding.operation, binding.version, body.inputDigest,
      body.outputDigest, body.timestamp, body.expiresAt, completed.proof.signature⟩ }

def ReplayProofEnvelope.valid (proof : ReplayProofEnvelope) : Bool :=
  allV7 ([proof.proofId, proof.actorId] ++ proof.delegationId.toList) && validOperationName proof.operation &&
  validOperationVersion proof.version && proof.expiresAt.all fun expires => decide (proof.timestamp < expires)

def ReplayCompletionBinding.valid (completion : ReplayCompletionBinding) : Bool :=
  let text := completion.canonicalOutputJson
  ((C.parseJson text.text).any fun output => C.primitives.canonicalize output == .ok text) &&
  decide (2 ≤ text.text.utf8ByteSize ∧ text.text.utf8ByteSize ≤ 1048576) &&
  allV7 [completion.workspaceId, completion.runId, completion.stepId, completion.checkpointId] &&
  allSafe [completion.checkpointSequence, completion.existingRunRevision, completion.existingStepRevision,
    completion.existingControlRevision] &&
  completion.proof.valid && completion.proof.inputDigest == completion.inputDigest &&
  completion.proof.outputDigest == completion.outputDigest &&
  C.primitives.digest .operationOutput text == completion.outputDigest

/-- The reservation that the claim was bound to, with the result it was committed with. -/
def loadReplayOrigin : StoreM (BudgetReservation × PreparedExecutionBinding × RuntimeCommit) := do
  let reservation ← loadReservation C (← uuidColumn records.bound.originReservationId)
  failIf (!reservation.originOf records.bound) .corrupt
  let prepared ← orFail reservation.preparedBinding .corrupt
  failIf (!prepared.valid C.hashes) .corrupt
  let commit ← orFail reservation.runtimeCommit .corrupt
  orElse commit.validate .corrupt
  failIf (!prepared.settled commit reservation records.bound.binding) .corrupt
  pure ⟨reservation, prepared, commit⟩

/-- The completion of the claim, proved by an agent in the context on record. -/
def loadReplayCompletion : StoreM CompletedClaim := do
  let completed ← lift (completedClaim C records.claim records.bound.binding)
  let persisted ← select fun db => loadProof db.replayTables completed.proofId
  failIf (!completed.proved records.proof persisted records.bound.binding prepared) .corrupt
  let principal ← loadPrincipalRecord completed.proof.body.actor.id
  failIf (principal.kind != .agent || !completed.proof.verify C.primitives principal.publicKey) .corrupt
  let context ← orFail (← select fun db => loadContext db.replayTables completed.contextId) .corrupt
  failIf (!completed.contextual context prepared) .corrupt
  pure completed

/-- The run, its step and its control record stand as the commit left them or later. -/
def checkReplayRun : StoreM Unit := do
  orElse (records.control.validate C.hashes) .corrupt
  let run ← loadAgentRunExact records.bound.binding.runId
  let step ← loadAgentStepExact records.bound.binding.stepId
  let control ← loadControl C records.bound.binding.runId
  failIf (records.run != run || records.step != step || records.control != control ||
    !records.carries C completed prepared commit reservation) .corrupt
  checkReplayProjections C records prepared commit reservation
  validateRuntimeEventRange C run.id prepared.result.firstEventSequence prepared.result.lastEventSequence

/-- Verify a completed claim against every record it left. -/
def verifyReplay : StoreM ReplayCompletionBinding := do
  failIf (records.claim.inputDigest != records.bound.binding.inputDigest || !records.bound.binding.onWire) .corrupt
  let (reservation, prepared, commit) ← loadReplayOrigin C records
  let completed ← loadReplayCompletion C records prepared
  checkReplayRun C records completed prepared commit reservation
  let completion := records.completion completed
  failIf (!completion.valid C) .corrupt
  pure completion

/-- The completion a binding was settled with, if it was. -/
def loadVerifiedReplay : StoreM (Option ReplayCompletionBinding) := do
  orElse (binding.validate C.hashes) .invalid
  match ← select fun db => findReplayRecords db binding.key with
  | none => pure none
  | some records =>
    if records.claim.state != .completed then pure none
    else
      orElse (records.bound.binding.validate C.hashes) .corrupt
      failIf (records.bound.binding != binding) .conflict
      pure (some (← verifyReplay C records))

section ReadOnly

private theorem readOnly_validateRuntimeEventRange (first last : Nat) :
    ReadOnly (validateRuntimeEventRange C runId first last) :=
  .bind (.lift _) fun _ => .bind (readOnly_select _) fun _ =>
    .bind (.lift _) fun _ => .lift _

private theorem readOnly_checkReplayProjections (records : ReplayRecords) (prepared : PreparedExecutionBinding)
    (commit : RuntimeCommit) (reservation : BudgetReservation) :
    ReadOnly (checkReplayProjections C records prepared commit reservation) := by
  refine .bind (.lift _) fun _ => .bind (.lift _) fun _ => ?_
  refine .bind (.lift _) fun _ => .bind (readOnly_loadCheckpointIdentityExact _ _) fun _ => ?_
  refine .bind (.lift _) fun _ => .bind ?_ fun _ => ?_
  · exact .bind (.lift _) fun _ => readOnly_loadRow _ _ _
  · refine .bind (.lift _) fun _ => .bind (readOnly_loadRow _ _ _) fun _ => ?_
    exact .bind (readOnly_loadLatestCheckpointIdentity _) fun _ => .lift _

private theorem readOnly_loadReplayOrigin (records : ReplayRecords) : ReadOnly (loadReplayOrigin C records) := by
  refine .bind (readOnly_uuidColumn _) fun _ => .bind (readOnly_loadReservation C _) fun _ => ?_
  refine .bind (.lift _) fun _ => .bind (.lift _) fun _ => .bind (.lift _) fun _ => ?_
  exact .bind (.lift _) fun _ => .bind (.lift _) fun _ => .bind (.lift _) fun _ => .pure _

private theorem readOnly_loadReplayCompletion (records : ReplayRecords) (prepared : PreparedExecutionBinding) :
    ReadOnly (loadReplayCompletion C records prepared) := by
  refine .bind (.lift _) fun _ => .bind (readOnly_select _) fun _ => .bind (.lift _) fun _ => ?_
  refine .bind (readOnly_loadPrincipalRecord _) fun _ => .bind (.lift _) fun _ => ?_
  exact .bind (readOnly_select _) fun _ => .bind (.lift _) fun _ => .bind (.lift _) fun _ => .pure _

private theorem readOnly_checkReplayRun (records : ReplayRecords) (completed : CompletedClaim)
    (prepared : PreparedExecutionBinding) (commit : RuntimeCommit) (reservation : BudgetReservation) :
    ReadOnly (checkReplayRun C records completed prepared commit reservation) := by
  refine .bind (.lift _) fun _ => .bind (readOnly_loadRow _ _ _) fun _ => .bind (readOnly_loadRow _ _ _) fun _ => ?_
  refine .bind (readOnly_loadRow _ _ _) fun _ => .bind (.lift _) fun _ => ?_
  exact .bind (readOnly_checkReplayProjections C _ _ _ _) fun _ => readOnly_validateRuntimeEventRange C _ _ _

private theorem readOnly_verifyReplay (records : ReplayRecords) : ReadOnly (verifyReplay C records) := by
  refine .bind (.lift _) fun _ => .bind (readOnly_loadReplayOrigin C _) fun _ => ?_
  refine .bind (readOnly_loadReplayCompletion C _ _) fun _ => .bind (readOnly_checkReplayRun C _ _ _ _ _) fun _ => ?_
  exact .bind (.lift _) fun _ => .pure _

theorem readOnly_loadVerifiedReplay : ReadOnly (loadVerifiedReplay C binding) := by
  refine .bind (.lift _) fun _ => .bind (readOnly_select _) fun found => ?_
  cases found with
  | none => exact .pure _
  | some records =>
    dsimp only
    split
    · exact .pure _
    · exact .bind (.lift _) fun _ => .bind (.lift _) fun _ =>
        .bind (readOnly_verifyReplay C _) fun _ => .pure _

end ReadOnly

/-! ### Dispatch -/

variable (request : BeginDispatchRequest)

def BeginDispatchRequest.wellFormed : Bool :=
  request.schema == "proof.operator.begin-dispatch-request/v1" && uuidIsV7 request.reservationId &&
  request.intent.validate matches .ok _ && intentDigestIs C request.intent request.intentDigest &&
  request.callDigest == C.hashes.dispatchCall request.intent

/-- The reservation is open, held by this lease, and for the requested call. -/
def BeginDispatchRequest.mayBegin (reservation : BudgetReservation) (control : RunControl) (lease : RunLease) : Bool :=
  reservation.state == .reserved && reservation.runId == control.runId && reservation.leaseId == lease.leaseId &&
  reservation.fenceEpoch == lease.fenceEpoch && reservation.intent == request.intent &&
  reservation.intentDigest == request.intentDigest && reservation.replay == request.replay

variable (control : RunControl)

/-- The step a dispatch is for: the bound one, or else the run's latest. -/
def loadDispatchStep : StoreM AgentRunStep :=
  match request.replay with
  | some binding => loadAgentStepExact binding.stepId
  | none => do orFail (← loadLatestAgentStep control.runId) .notActionable

/-- The step runs the requested operation, which the catalog knows. -/
def BeginDispatchRequest.isFor (step : AgentRunStep) (run : AgentRun) : Bool :=
  step.runId == run.id && step.status == .running && step.operation == request.intent.operation &&
  step.version == request.intent.version &&
  C.catalog.entries.contains (request.intent.operation, request.intent.version)

variable (control : RunControl) (run : AgentRun) (step : AgentRunStep) (checkpoint : CheckpointIdentity)

/-- The binding names the run, step and checkpoint that are to be dispatched. -/
def ReplayClaimBinding.names : Bool :=
  binding.workspaceId == control.workspaceId && binding.runId == run.id && binding.stepId == step.id &&
  binding.checkpoint == checkpoint && binding.inputDigest == step.inputDigest && binding.claimedBy == run.actor

/-- An exact replay needs a binding that names the dispatch, and a claim token, or has neither. -/
def checkDispatchReplay : StoreM (Option ReplayCompletionBinding) :=
  match request.replay with
  | some binding => do
    invalidIf (!binding.names control run step checkpoint || request.replayClaimToken.isNone)
    loadVerifiedReplay C binding
  | none => do
    invalidIf request.replayClaimToken.isSome
    pure none

def ReplayClaimBinding.claim (claimToken : Uuid) (now : Instant) : ExecutionReplayClaim :=
  ⟨binding.key, binding.inputDigest, claimToken, binding.claimedBy, now⟩

/-- Claim the replay key inside the transaction. -/
def claimExecutionReplayInTransaction (claim : ExecutionReplayClaim) : StoreM ExecutionReplayClaimResult := do
  statementOr .corrupt
  let db ← current
  let (result, replayTables) ←
    orElse (claimExecutionReplay C.primitives C.parseJson db.replayTables claim) .corrupt
  statementOr .corrupt
  store { db with replayTables }
  pure result

def insertReplayBinding (reservationId : Uuid) (now : Instant) : StoreM Unit := do
  orElse (binding.validate C.hashes) .invalid
  insertInto Database.replayBindings (fun db replayBindings => { db with replayBindings })
    (fun row => decide (row.binding.key = binding.key) || decide (row.originReservationId = reservationId) ||
      decide (row.binding.bindingDigest = binding.bindingDigest) ||
      decide (row.binding.runId = binding.runId ∧ row.binding.stepId = binding.stepId)) ⟨binding, reservationId, now⟩

variable (lease : RunLease) (reservation : BudgetReservation) (budget : BudgetAccount)

/-- No handler is to run: the reservation is given back and the outcome says why. -/
def declineDispatch (kind : AuditEventKind) (audit : AuditOutcome) (now : Instant) (outcome : DispatchOutcome)
    (completion : Option ReplayCompletionBinding) : StoreM DispatchResult := do
  let settled ← releaseAndAdvance C control lease reservation budget kind audit now
  pure ⟨outcome, none, completion, settled.controlRevision⟩

def dispatchPermit (permitId : Uuid) (now : Instant) : DispatchPermit where
  schema := DispatchPermit.schemaName
  permitId := permitId
  runId := control.runId
  reservationId := reservation.reservationId
  leaseId := lease.leaseId
  processEpochId := lease.processEpochId
  fenceEpoch := lease.fenceEpoch
  expectedControlRevision := control.controlRevision
  intentDigest := reservation.intentDigest
  replayBindingDigest := reservation.replay.map ReplayClaimBinding.bindingDigest
  dispatchTokenDigest := C.hashes.dispatchToken request.dispatchToken
  callDigest := request.callDigest
  authorizedAt := now
  budgetDeadlineAt := budget.policy.deadlineAt

/-- The control record names the reservation that is dispatched. -/
def RunControl.dispatches (reservationId : Option Uuid) : RunControl :=
  { control with activeDispatchReservationId := reservationId }

/-- The handler may run: a permit is issued and the run marked as dispatching. -/
def authorizeDispatch (now : Instant) : StoreM DispatchResult := do
  let permit := dispatchPermit C request control lease reservation budget (← operatorUuid) now
  orElse permit.validate .invalid
  let reservation := reservation.dispatching permit now
  updateReservation C reservation
  let control ← advanceControl C (control.dispatches (some reservation.reservationId)) lease.fenceEpoch now
  let _ ← appendDispatchEvent C control lease reservation now
  statement
  pure ⟨.dispatchAuthorized, some permit, none, control.controlRevision⟩

/-- Dispatch under a replay claim, if the claim can be acquired. -/
def dispatchClaimed (now : Instant) (binding : ReplayClaimBinding) : StoreM DispatchResult := do
  let claimToken ← orFail request.replayClaimToken .invalid
  let declined := declineDispatch C control lease reservation budget .budgetRejected .rejected now
  match ← claimExecutionReplayInTransaction C (binding.claim claimToken now) with
  | .acquired =>
    insertReplayBinding C binding reservation.reservationId now
    authorizeDispatch C request control lease reservation budget now
  | .completed _ =>
    let completion ← loadVerifiedReplay C binding
    declineDispatch C control lease reservation budget .budgetReleased .accepted now .exactReplay completion
  | .conflict => declined .replayConflict none
  | .failed => declined .replayFailed none
  | .inProgress => declined .replayInProgress none
  | .unsupported => declined .replayUnsupported none

/-- What is left to decide once the records allow the dispatch. -/
def dispatchReserved (completed : Option ReplayCompletionBinding)
    (now : Instant) : StoreM (Except OperatorStoreError DispatchResult) := do
  if completed.isSome then
    pure (.ok (← declineDispatch C control lease reservation budget .budgetReleased .accepted now .exactReplay
      completed))
  else if budget.policy.deadlineAt ≤ now then
    -- The release past the deadline is committed before the refusal is reported.
    let _ ← releaseAndAdvance C control lease reservation budget .budgetRejected .rejected now
    pure (.error .notActionable)
  else match request.replay with
    | some binding => pure (.ok (← dispatchClaimed C request control lease reservation budget now binding))
    | none => pure (.ok (← authorizeDispatch C request control lease reservation budget now))

def beginInTransaction : StoreM (Except OperatorStoreError DispatchResult) := do
  statement
  let now ← operatorNow
  let (control, lease) ← validateAuthority C request.authority now
  let reservation ← loadReservation C request.reservationId
  failIf (!request.mayBegin reservation control lease) .notActionable
  let budget ← loadBudget C reservation.budgetId
  let opened ← select fun db => openReservations db control.runId
  let run ← loadAgentRunExact control.runId
  let projection ← orFail (← select fun db => latestProjection db control.runId) .unavailable
  let checkpoint ← loadLatestCheckpointIdentity control.runId
  let step ← loadDispatchStep request control
  failIf (opened != 1 || control.activeDispatchReservationId.isSome || run.status != .running ||
    !projection.currentFor run control lease || checkpoint != projection.checkpoint || !request.isFor C step run)
    .notActionable
  let completed ← checkDispatchReplay C request control run step checkpoint
  dispatchReserved C request control lease reservation budget completed now

def beginDispatch : StoreM DispatchResult := do
  invalidIf (!request.wellFormed C)
  lift (← atomically (beginInTransaction C request))

section Effects
variable {C} {o : Nat → Answer} {s s' : Database} {n n' : Nat} {now : Instant} {credential : Credential}
  {request : BeginDispatchRequest} {control : RunControl} {lease : RunLease} {reservation : BudgetReservation}
  {budget : BudgetAccount} {result : DispatchResult} {runId reservationId : Uuid}

private theorem readOnly_loadDispatchStep (request : BeginDispatchRequest) (control : RunControl) :
    ReadOnly (loadDispatchStep request control) := by
  unfold loadDispatchStep
  split
  · exact readOnly_loadRow _ _ _
  · exact .bind (readOnly_loadLatestAgentStep _) fun _ => .lift _

private theorem readOnly_checkDispatchReplay (request : BeginDispatchRequest) (control : RunControl) (run : AgentRun)
    (step : AgentRunStep) (checkpoint : CheckpointIdentity) :
    ReadOnly (checkDispatchReplay C request control run step checkpoint) := by
  unfold checkDispatchReplay
  split
  · exact .bind (.lift _) fun _ => readOnly_loadVerifiedReplay C _
  · exact .bind (.lift _) fun _ => .pure _

/-- An acquired claim adds its row, any other changes nothing; it is answered as completed exactly if there is a
completion of its key and input. -/
theorem claimExecutionReplay_spec {P : Primitives} {parseJson : String → Option Json}
    {tables tables' : SqliteReplayTables} {claim : ExecutionReplayClaim} {result : ExecutionReplayClaimResult}
    (h : claimExecutionReplay P parseJson tables claim = .ok (result, tables')) :
    (result = .acquired ∧ tables' = { tables with executionReplays := tables.executionReplays ++ [claimedRow claim] } ∨
      result ≠ .acquired ∧ tables' = tables) ∧
    ((∃ outcome, result = .completed outcome) ↔ ∃ row,
      lookup ReplayRow.key tables.executionReplays claim.key = some row ∧ row.state = .completed ∧
        row.inputDigest = claim.inputDigest) := by
  simp only [claimExecutionReplay, loadReplay, bind_eq_ok] at h
  obtain ⟨-, -, h⟩ := h
  split at h
  · rename_i row hrow
    simp only [hrow, Option.some.injEq, exists_eq_left']
    split at h
    · rename_i hdigest
      obtain ⟨rfl, rfl⟩ := Prod.mk.inj (Except.ok.inj h)
      simp [hdigest]
    · split at h
      · obtain ⟨rfl, rfl⟩ := Prod.mk.inj (Except.ok.inj h)
        simp [*]
      · obtain ⟨rfl, rfl⟩ := Prod.mk.inj (Except.ok.inj h)
        simp [*]
      · simp only [loadCompletedOutcome, bind_assoc, bind_eq_ok] at h
        obtain ⟨_, -, _, -, _, -, _, -, _, -, -, -, -, -, -, -, _, -, -, -, _, hresult, h⟩ := h
        obtain rfl := Except.ok.inj hresult
        obtain ⟨rfl, rfl⟩ := Prod.mk.inj (Except.ok.inj h)
        simp_all
  · rename_i hnone
    obtain ⟨-, -, h⟩ := bind_eq_ok.mp h
    obtain ⟨rfl, rfl⟩ := Prod.mk.inj (Except.ok.inj h)
    simp [hnone]

variable {binding : ReplayClaimBinding}

/-- The ledger has a completion for the binding's key and input. -/
def OnLedger (s : Database) (binding : ReplayClaimBinding) : Prop :=
  ∃ row, lookup ReplayRow.key s.replayTables.executionReplays binding.key = some row ∧ row.state = .completed ∧
    row.inputDigest = binding.inputDigest

theorem claimExecutionReplayInTransaction_spec {claimToken : Uuid} {result : ExecutionReplayClaimResult}
    (h : Returns (claimExecutionReplayInTransaction C (binding.claim claimToken now)) o s n result s' n') :
    (∃ executionReplays, s' = { s with replayTables := { s.replayTables with executionReplays } }) ∧
      (result ≠ .acquired → s = s') ∧ ((∃ outcome, result = .completed outcome) ↔ OnLedger s binding) := by
  simp only [claimExecutionReplayInTransaction, returns_bind, returns_statementOr, returns_current, returns_orElse,
    returns_store, returns_pure] at h
  obtain ⟨_, _, _, ⟨-, rfl, rfl⟩, _, _, _, ⟨rfl, rfl, rfl⟩, ⟨claimed, tables⟩, _, _, ⟨hclaim, rfl, rfl⟩, _, _, _,
    ⟨-, rfl, rfl⟩, _, _, _, ⟨rfl, rfl⟩, rfl, rfl, rfl⟩ := h
  obtain ⟨⟨rfl, rfl⟩ | ⟨hne, rfl⟩, hledger⟩ := claimExecutionReplay_spec hclaim
  · exact ⟨⟨_, rfl⟩, fun hne => absurd rfl hne, hledger⟩
  · exact ⟨⟨_, rfl⟩, fun _ => rfl, hledger⟩

/-- Under a claim the dispatch is authorized, or declined for what the claim was answered with. -/
theorem dispatchClaimed_cases
    (h : Returns (dispatchClaimed C request control lease reservation budget now binding) o s n result s' n') :
    (¬ OnLedger s binding ∧ ∃ executionReplays replayBindings m,
      Returns (authorizeDispatch C request control lease reservation budget now) o
        { s with replayTables := { s.replayTables with executionReplays }, replayBindings } m result s' n') ∨
    (¬ OnLedger s binding ∧ ∃ outcome m, outcome ≠ .dispatchAuthorized ∧ outcome ≠ .exactReplay ∧
      Returns (declineDispatch C control lease reservation budget .budgetRejected .rejected now outcome none) o s m
        result s' n') ∨
    (OnLedger s binding ∧ ∃ completion m₀ m₁ m, Returns (loadVerifiedReplay C binding) o s m₀ completion s m₁ ∧
      Returns (declineDispatch C control lease reservation budget .budgetReleased .accepted now .exactReplay completion)
        o s m result s' n') := by
  obtain ⟨claimToken, -, h⟩ := returns_orFail_bind.mp h
  obtain ⟨claimed, _, _, hclaim, h⟩ := returns_bind.mp h
  obtain ⟨⟨executionReplays, hs⟩, hkept, hledger⟩ := claimExecutionReplayInTransaction_spec hclaim
  rw [← hledger]
  cases claimed with
  | acquired =>
    subst hs
    simp only [insertReplayBinding, bind_assoc, returns_orElse_bind, returns_insertInto_bind, exists_unit] at h
    obtain ⟨-, -, -, h⟩ := h
    exact .inl ⟨by simp, _, _, _, h⟩
  | completed outcome =>
    obtain rfl := hkept (by simp)
    obtain ⟨completion, _, hload, h⟩ := (readOnly_loadVerifiedReplay C _).returns_bind h
    exact .inr (.inr ⟨⟨outcome, rfl⟩, completion, _, _, _, hload, h⟩)
  | conflict => exact .inr (.inl ⟨by simp, .replayConflict, _, by simp, by simp, hkept (by simp) ▸ h⟩)
  | inProgress => exact .inr (.inl ⟨by simp, .replayInProgress, _, by simp, by simp, hkept (by simp) ▸ h⟩)
  | failed => exact .inr (.inl ⟨by simp, .replayFailed, _, by simp, by simp, hkept (by simp) ▸ h⟩)
  | unsupported => exact .inr (.inl ⟨by simp, .replayUnsupported, _, by simp, by simp, hkept (by simp) ▸ h⟩)

/-- An authorized dispatch marks the reservation and the control record, under a new permit. -/
theorem authorizeDispatch_spec (h : Returns (authorizeDispatch C request control lease reservation budget now) o s n
      result s' n') (hcontrol : lookup RunControl.runId s.controls runId = some control)
    (hr : s.reservation? reservationId = some reservation) :
    ∃ permit next reservations controls events journal,
      result = ⟨.dispatchAuthorized, some permit, none, next.controlRevision⟩ ∧ permit.validate = .ok () ∧
      safeOnWire next.controlRevision = true ∧
      permit.dispatchTokenDigest = C.hashes.dispatchToken request.dispatchToken ∧
      (∀ row ∈ s.reservations, row.reservationId ≠ reservation.reservationId → row.permitId ≠ some permit.permitId) ∧
      Replaces BudgetReservation.reservationId reservation (reservation.dispatching permit now) s.reservations
        reservations ∧
      Advances s.controls controls control next (some reservation.reservationId) ∧
      Grows C.hashes s.journal events journal ∧ s' = { s with reservations, controls, journal } := by
  simp only [authorizeDispatch, returns_operatorUuid_bind, returns_orElse_bind, exists_unit] at h
  obtain ⟨permitId, -, hvalid, h⟩ := h
  obtain ⟨_, _, _, hupdate, h⟩ := returns_bind.mp h
  obtain ⟨-, hclash, reservations, hreservations, rfl⟩ := updateReservation_spec hupdate
  obtain ⟨next, controls, projection, _, hadvances, hp, hsafe, h⟩ := advances_of_advanceControl h hcontrol rfl rfl rfl
  obtain ⟨event, _, hevent, rfl⟩ := returns_commit h
  obtain ⟨appended, -, journal, hgrows, -, rfl⟩ := appendDispatchEvent_audits hevent
  refine ⟨dispatchPermit C request control lease reservation budget permitId now, next, reservations, controls,
    [appended], journal, rfl, hvalid, hsafe, rfl, fun row hrow hne hpermit => ?_, .of_lookup hreservations hr rfl,
    hadvances, hp.grows hgrows, rfl⟩
  have hc := hclash row hrow hne
  simp only [reservationsClash, or_eq_false_iff, decide_eq_false_iff_not] at hc
  exact hc.1.1.2 ⟨by simp [hpermit], hpermit⟩

/-- What a dispatch that passed every check of the records was found to be. -/
structure MayDispatch (C : OperatorStoreContext) (credential : Credential) (now : Instant) (s : Database)
    (control : RunControl) (lease : RunLease) (reservation : BudgetReservation) (budget : BudgetAccount) : Prop where
  acts : Acts C credential now s control lease
  reservationRow : ∃ id, lookup BudgetReservation.reservationId s.reservations id = some reservation
  budgetRow : lookup BudgetAccount.budgetId s.budgets reservation.budgetId = some budget
  state : reservation.state = .reserved
  owner : reservation.runId = control.runId
  idle : control.activeDispatchReservationId = none
  running : ∃ run, lookup AgentRun.id s.agentRuns control.runId = some run ∧ run.status = .running

theorem MayDispatch.declined {kind : AuditEventKind} {audit : AuditOutcome} {outcome : DispatchOutcome}
    {completion : Option ReplayCompletionBinding}
    (hmay : MayDispatch C credential now s control lease reservation budget)
    (h : Returns (declineDispatch C control lease reservation budget kind audit now outcome completion) o s n result
      s' n') : Change C (some credential) now s s' := by
  obtain ⟨settled, hrelease, -⟩ := returns_bind_pure h
  obtain ⟨id, hr⟩ := hmay.reservationRow
  exact (releaseAndAdvance_spec hmay.acts hr hmay.budgetRow hmay.owner hrelease).1

variable {completed : Option ReplayCompletionBinding} {step : Except OperatorStoreError DispatchResult}

section
variable (hmay : MayDispatch C request.credential now s control lease reservation budget)
include hmay

/-- The dispatch itself, after what a replay claim has added to the replay tables. -/
theorem MayDispatch.authorized {executionReplays : List ReplayRow} {replayBindings : List ReplayBindingRow}
    (h : Returns (authorizeDispatch C request control lease reservation budget now) o
      { s with replayTables := { s.replayTables with executionReplays }, replayBindings } n result s' n') :
    Change C (some request.credential) now s s' := by
  obtain ⟨id, hr⟩ := hmay.reservationRow
  obtain ⟨run, hrun, hrunning⟩ := hmay.running
  obtain ⟨permit, next, reservations, controls, events, journal, -, -, -, htoken, hpermit, hrows, hadvances, hgrows,
    rfl⟩ := authorizeDispatch_spec h hmay.acts.controlRow hr
  exact .dispatched hmay.acts hmay.state hrows hmay.owner hmay.idle hrun hrunning hpermit ⟨rfl, htoken⟩ hadvances hgrows

theorem MayDispatch.claimed
    (h : Returns (dispatchClaimed C request control lease reservation budget now binding) o s n result s' n') :
    Change C (some request.credential) now s s' := by
  rcases dispatchClaimed_cases h with ⟨-, _, _, _, h⟩ | ⟨-, _, _, -, -, h⟩ | ⟨-, _, _, _, _, -, h⟩
  · exact hmay.authorized h
  · exact hmay.declined h
  · exact hmay.declined h

theorem MayDispatch.change
    (h : Returns (dispatchReserved C request control lease reservation budget completed now) o s n step s' n') :
    Change C (some request.credential) now s s' ∧
      (step = .error .notActionable ∧ JournalGrows C.hashes control.runId [.budgetRejected] s.journal s'.journal ∨
        ∃ result, step = .ok result) := by
  unfold dispatchReserved at h
  split at h
  · obtain ⟨_, hdecline, rfl⟩ := returns_bind_pure h
    exact ⟨hmay.declined hdecline, .inr ⟨_, rfl⟩⟩
  · split at h
    · obtain ⟨settled, hrelease, rfl⟩ := returns_bind_pure h
      obtain ⟨id, hr⟩ := hmay.reservationRow
      obtain ⟨hchange, hgrows⟩ := releaseAndAdvance_spec hmay.acts hr hmay.budgetRow hmay.owner hrelease
      exact ⟨hchange, .inl ⟨rfl, hgrows⟩⟩
    · split at h
      · obtain ⟨_, hclaimed, rfl⟩ := returns_bind_pure h
        exact ⟨hmay.claimed hclaimed, .inr ⟨_, rfl⟩⟩
      · obtain ⟨_, hauthorize, rfl⟩ := returns_bind_pure h
        exact ⟨hmay.authorized hauthorize, .inr ⟨_, rfl⟩⟩

end

section
variable (h : Returns (beginInTransaction C request) o s n step s' n')
include h

/-- What a dispatch that reaches its last decision has found. -/
theorem beginInTransaction_may :
    ∃ now control lease reservation budget completed n₀ n₁ n₂, (∃ m, (o m).now = some now) ∧
      control.runId = request.authority.runId ∧
      MayDispatch C request.credential now s control lease reservation budget ∧
      s.reservation? request.reservationId = some reservation ∧
      (∃ run step checkpoint,
        Returns (checkDispatchReplay C request control run step checkpoint) o s n₀ completed s n₁) ∧
      Returns (dispatchReserved C request control lease reservation budget completed now) o s n₂ step s' n' := by
  obtain ⟨now, _, control, lease, _, hnow, hacts, -, -, h⟩ := returns_authorized h
  obtain ⟨reservation, _, _, hload, h⟩ := returns_bind.mp h
  obtain ⟨hr, -, rfl⟩ := loadReservation_spec hload
  simp only [loadBudget, loadAgentRunExact, returns_failIf_bind, returns_loadRow_bind, returns_select_bind,
    returns_orFail_bind] at h
  obtain ⟨hbegin, -, budget, hb, -, -, -, run, hrun, -, -, projection, -, h⟩ := h
  obtain ⟨checkpoint, _, hcheckpoint, h⟩ := (readOnly_loadLatestCheckpointIdentity _).returns_bind h
  obtain ⟨dispatched, _, hstep, h⟩ := (readOnly_loadDispatchStep _ _).returns_bind h
  obtain ⟨hready, h⟩ := returns_failIf_bind.mp h
  obtain ⟨completed, _, hreplay, h⟩ := (readOnly_checkDispatchReplay _ _ _ _ _).returns_bind h
  simp only [BeginDispatchRequest.mayBegin, not_eq_false', and_eq_true, beq_iff_eq] at hbegin
  simp only [or_eq_false_iff, bne_eq_false_iff_eq, Option.isSome_eq_false_iff, Option.isNone_iff_eq_none] at hready
  refine ⟨now, control, lease, reservation, budget, completed, _, _, _, ⟨_, hnow⟩, hacts.control_runId, ?_, hr,
    ⟨run, dispatched, checkpoint, hreplay⟩, h⟩
  exact ⟨hacts.bringing _, ⟨_, hr⟩, hb, hbegin.1.1.1.1.1.1, hbegin.1.1.1.1.1.2, hready.1.1.1.1.2, run, hrun,
    hready.1.1.1.2⟩

theorem beginInTransaction_spec :
    (∃ run, lookup AgentRun.id s.agentRuns request.authority.runId = some run ∧ run.status = .running) ∧
      ∃ now m, (o m).now = some now ∧ Change C (some request.credential) now s s' ∧
        (step = .error .notActionable ∧
            JournalGrows C.hashes request.authority.runId [.budgetRejected] s.journal s'.journal ∨
          ∃ result, step = .ok result) := by
  obtain ⟨now, control, lease, reservation, budget, completed, -, -, _, ⟨m, hnow⟩, hrunId, hmay, -, -, h⟩ :=
    beginInTransaction_may h
  rw [← hrunId]
  exact ⟨hmay.running, now, m, hnow, hmay.change h⟩

end

theorem beginDispatch_did (request : BeginDispatchRequest) (o : Nat → Answer) (s : Database) (n : Nat) :
    ((∃ error, (beginDispatch C request o s n).result = .error error) ∧ (beginDispatch C request o s n).state = s) ∨
      (∃ run, lookup AgentRun.id s.agentRuns request.authority.runId = some run ∧ run.status = .running) ∧
        ((beginDispatch C request o s n).result = .error .notActionable ∧
            JournalGrows C.hashes request.authority.runId [.budgetRejected] s.journal
              (beginDispatch C request o s n).state.journal ∨
          ∃ result, (beginDispatch C request o s n).result = .ok result) := by
  unfold beginDispatch
  rcases checked_cases _ (beginInTransaction C request) _ o s n with hfailed | ⟨result, s', n', h, hout⟩
  · exact .inl hfailed
  obtain ⟨hrunning, -, -, -, -, hdone⟩ := beginInTransaction_spec h
  rw [hout]
  exact .inr ⟨hrunning, hdone⟩

theorem beginDispatch_leaves (request : BeginDispatchRequest) :
    Leaves (Effect C (some request.credential)) (beginDispatch C request) := by
  refine leaves_of_readOnly_bind (effect_refl _) (.lift _) fun _ => ?_
  refine leaves_bind (leaves_atomically (effect_refl _) fun o s n step s' n' h => .inr ?_) fun _ => .lift _
  obtain ⟨-, now, m, hnow, hchange, -⟩ := beginInTransaction_spec h
  exact ⟨now, m, hnow, hchange⟩

end Effects
end ProofPlatform.Operator
