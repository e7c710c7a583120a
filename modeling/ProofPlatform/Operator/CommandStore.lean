import ProofPlatform.Operator.ReclaimStore

/-! Operator commands: a human decides an approval, cancels or resumes a run, or revokes the session. -/
namespace ProofPlatform.Operator
open Kernel Library Transaction Tx Table

variable (C : OperatorStoreContext) (signer : OperatorSigner)

/-! ### The scope of a command -/

def loadWorkspaceTransaction : StoreM OperatorWorkspace :=
  loadRow (fun db => db.workspaces.head?) .unavailable (OperatorWorkspace.validate C.hashes)

def SessionAuthorityBinding.onWire (authority : SessionAuthorityBinding) : Bool :=
  allV7 authority.ids && allSafe [authority.authEpoch, authority.policyRevision] &&
  allTimes [authority.issuedAt, authority.absoluteExpiresAt]

/-- The command is bound to the session that its scope was issued for. -/
def CommandBinding.boundTo (binding : CommandBinding) (authority : SessionAuthorityBinding)
    (authorityDigest : ControlDigest) : Bool :=
  binding.workspaceId == authority.workspaceId && binding.serverInstanceId == authority.serverInstanceId &&
  binding.sessionId == authority.sessionId && binding.humanId == authority.humanId &&
  binding.authEpoch == authority.authEpoch && binding.policyRevision == authority.policyRevision &&
  binding.sessionAuthorityDigest == authorityDigest

def OperatorMutationScope.covers (scope : OperatorMutationScope) (command : OperatorCommand)
    (authorityDigest : ControlDigest) : Bool :=
  let authority := scope.sessionAuthority
  let expected := command.kind.expectedCapabilities
  scope.route == command.kind.route && scope.requiredCapabilities == expected &&
  scope.sessionAuthorityDigest == authorityDigest && scope.policyRevision == authority.policyRevision &&
  command.binding.boundTo authority authorityDigest && expected.all authority.grantedCapabilities.contains

variable (workspace : OperatorWorkspace)

def OperatorWorkspace.admits (command : OperatorCommand) : Bool :=
  let binding := command.binding
  workspace.workspaceId == binding.workspaceId && workspace.human.principalId.id == binding.humanId &&
  workspace.authEpoch == binding.authEpoch && workspace.policyRevision == binding.policyRevision &&
  command.kind.expectedCapabilities.all workspace.capabilities.contains

variable (request : CommandExecutionRequest)

def validateCommandScope : StoreM OperatorWorkspace := do
  invalidIf (request.schema != "proof.operator.command-execution-request/v1" ||
    request.scope.schema != "proof.operator.mutation-scope/v1")
  orElse request.command.validate .invalid
  let authority := request.scope.sessionAuthority
  orElse authority.validate .invalid
  let authorityDigest ← orElse (digestOnWire authority.onWire (C.hashes.sessionAuthority authority)) .invalid
  invalidIf (!request.scope.covers request.command authorityDigest)
  let workspace ← loadWorkspaceTransaction C
  invalidIf (!workspace.admits request.command)
  pure workspace

/-! ### Envelope, event and receipt -/

/-- A command as it is recorded, at the time it was accepted. -/
def OperatorCommand.envelope (command : OperatorCommand) (requestDigest : ControlDigest) (now : Instant) :
    CommandEnvelope where
  schema := CommandEnvelope.schemaName
  command := command
  requestDigest := requestDigest
  requiredCapabilities := command.kind.expectedCapabilities
  requestedAt := now

variable (envelope : CommandEnvelope)

def insertCommandEnvelope : StoreM Unit := do
  invalidIf (!envelope.onWire)
  insertInto Database.commands (fun db commands => { db with commands }) (fun row => commandsClash row envelope)
    envelope

/-- The fields of an event about a command. -/
def populateCommandEvent (event : AuditEvent) (envelope : CommandEnvelope) (shape : CommandShape) (applied : Bool)
    (proof : Option ProofReference) : AuditEvent :=
  let binding := envelope.binding
  let event := { event with
    humanId := some binding.humanId
    sessionId := some binding.sessionId
    sessionAuthorityDigest := some binding.sessionAuthorityDigest
    commandId := some binding.commandId
    commandKind := some shape.kind
    runId := shape.targetRunId
    approvalRequestId := shape.approvalRequestId
    proof := proof }
  match shape.kind with
  | .runResume => { event with
      decisionDigest := shape.decisionDigest
      recoveryDirectiveId := shape.recoveryDirectiveId
      recoveryDirectiveDigest := shape.recoveryDirectiveDigest }
  | .sessionRevoke =>
    if applied then { event with
      serverInstanceId := some binding.serverInstanceId
      authEpoch := some binding.authEpoch
      policyRevision := some binding.policyRevision }
    else event
  | .approvalDecide | .runCancel => event

/-- What a command did to its target, as its proof and its receipt report it. -/
structure CommandEffect where
  targetRunId : Option Uuid := none
  approvalRequestId : Option Uuid := none
  observedRunRevision : Option Nat := none
  resultingRunRevision : Option Nat := none
  resultingStepRevision : Option Nat := none
  resultingControlRevision : Option Nat := none
  resultingFenceEpoch : Option Nat := none
  decisionId : Option Uuid := none
  decisionDigest : Option ContentDigest := none

def CommandEnvelope.transition (effect : CommandEffect) (now : Instant) : ControlTransitionOutcome where
  schema := ControlTransitionOutcome.schemaName
  commandId := envelope.binding.commandId
  kind := envelope.command.kind
  proofOperation := envelope.command.kind
  targetRunId := effect.targetRunId
  approvalRequestId := effect.approvalRequestId
  resultingRunRevision := effect.resultingRunRevision
  resultingStepRevision := effect.resultingStepRevision
  resultingControlRevision := effect.resultingControlRevision
  resultingFenceEpoch := effect.resultingFenceEpoch
  decisionDigest := effect.decisionDigest
  completedAt := now

def CommandEnvelope.receipt (effect : CommandEffect) (outcome : CommandOutcome)
    (proof : Option ProofReference) (event : AuditEvent) (receiptId : Uuid) (now : Instant) : CommandReceipt where
  schema := CommandReceipt.schemaName
  receiptId := receiptId
  commandId := envelope.binding.commandId
  idempotencyKey := envelope.binding.idempotencyKey
  kind := envelope.command.kind
  outcome := outcome
  requestDigest := envelope.requestDigest
  workspaceId := envelope.binding.workspaceId
  humanId := envelope.binding.humanId
  targetRunId := effect.targetRunId
  approvalRequestId := effect.approvalRequestId
  observedRunRevision := effect.observedRunRevision
  resultingRunRevision := effect.resultingRunRevision
  resultingStepRevision := effect.resultingStepRevision
  resultingControlRevision := effect.resultingControlRevision
  resultingFenceEpoch := effect.resultingFenceEpoch
  decisionId := effect.decisionId
  decisionDigest := effect.decisionDigest
  proof := proof
  auditEventId := event.eventId
  auditSequence := event.sequence
  auditDigest := event.eventDigest
  completedAt := now
  receiptDigest := .blank

def finalizeReceipt (receipt : CommandReceipt) : Except OperatorStoreError CommandReceipt := do
  let receiptDigest ← (receipt.digest C.hashes).mapError fun _ => .invalid
  let receipt := { receipt with receiptDigest }
  (receipt.validate C.hashes).mapError fun _ => .corrupt
  pure receipt

def insertCommandReceipt (receipt : CommandReceipt) : StoreM Unit := do
  orElse (receipt.validate C.hashes) .corrupt
  insertInto Database.receipts (fun db receipts => { db with receipts })
    (fun row => receiptsClash row receipt) receipt

/-- The proof is the workspace agent's, of this operation at this time. -/
def persistCommandProof (proof : Proof) (workspace : OperatorWorkspace) (kind : CommandKind) (proofId : Uuid)
    (inputDigest outputDigest : ContentDigest) (now : Instant) : StoreM ProofReference := do
  let agentId := workspace.agent.principalId.id
  let principal ← loadPrincipalRecord agentId
  let body := proof.body
  failIf (principal.kind != .agent || body.id != proofId || body.actor.id != agentId || body.delegationId.isSome ||
    body.operation != kind.operation ++ "::v1" || body.inputDigest != inputDigest ||
    body.outputDigest != outputDigest || body.timestamp != now || body.expiresAt.isSome ||
    !proof.verify C.primitives principal.publicKey) .unavailable
  insertInto (fun db => db.replayTables.proofs)
    (fun db proofs => { db with replayTables := { db.replayTables with proofs } })
    (fun row => decide (row.body.id = body.id)) proof
  pure ⟨body.id, agentId, kind.operation, C.hashes.proof proof⟩

def signCommandTransition (outcome : ControlTransitionOutcome) (now : Instant) : StoreM ProofReference := do
  orElse outcome.validate .corrupt
  invalidIf (!envelope.onWire)
  let inputDigest := C.hashes.commandInput envelope
  invalidIf (!outcome.onWire)
  let outputDigest := C.hashes.commandOutput outcome
  let proofId ← operatorUuid
  let proof ← orFail (signer.signOperatorProof
    { agentId := workspace.agent.principalId.id
      command := envelope
      commandDigest := envelope.requestDigest
      inputDigest, outputDigest, proofId, outcome
      timestamp := now }) .unavailable
  persistCommandProof C proof workspace envelope.command.kind proofId inputDigest outputDigest now

/-- Every recorded command ends so: its event is linked and its receipt stored. -/
def recordCommand (effect : CommandEffect) (outcome : CommandOutcome)
    (proof : Option ProofReference) (event : Uuid → AuditEvent) (now : Instant) : StoreM CommandReceipt := do
  let event ← appendAuditEvent C (event (← operatorUuid))
  let receiptId ← operatorUuid
  let receipt ← lift (finalizeReceipt C (envelope.receipt effect outcome proof event receiptId now))
  insertCommandReceipt C receipt
  statement
  pure receipt

/-- The event of a command, before it is linked. -/
def commandEvent (kind : AuditEventKind) (outcome : AuditOutcome) (shape : CommandShape)
    (applied : Bool) (proof : Option ProofReference) (now : Instant) (eventId : Uuid) : AuditEvent :=
  populateCommandEvent (AuditEvent.base envelope.binding.workspaceId eventId kind outcome now) envelope shape applied
    proof

/-! ### Loaders -/

def loadCommandLease (runId : Uuid) (fenceEpoch : Nat) (now : Instant) (requireActive : Bool) : StoreM RunLease := do
  invalidIf (!safeOnWire fenceEpoch)
  let row ← orFail (← select fun db => db.leases.find? fun lease =>
    decide (lease.runId = runId ∧ lease.fenceEpoch = fenceEpoch)) .staleFence
  let lease ← loadLease C (← uuidColumn row.leaseId)
  failIf (requireActive && (lease.state != .active || decide (lease.expiresAt ≤ now))) .staleFence
  pure lease

structure ApprovalBundle where
  binding : ApprovalBinding
  request : SignedApprovalRequest
  decision : Option SignedApprovalDecision

def findApprovalBundle (db : Database) (requestId : Uuid) : Option ApprovalBundle := do
  let binding ← lookup ApprovalBinding.approvalRequestId db.approvalBindings requestId
  let request ← lookup (fun request => request.body.id) db.approvalRequests requestId
  pure ⟨binding, request, lookup (fun decision => decision.body.requestId) db.approvalDecisions requestId⟩

def ApprovalBinding.schemaName : String := "proof-operator-approval-binding/v1"

/-- The binding carries the digests of what it shows, and is that of the request. -/
def ApprovalBinding.describes (binding : ApprovalBinding) (request : SignedApprovalRequest)
    (bindingDigest : ControlDigest) : Bool :=
  let consequence : PendingConsequenceBody := ⟨binding.consequence.classification, binding.consequence.summary⟩
  let consequenceDigest := C.hashes.approvalConsequence consequence
  binding.schema == schemaName && allV7 binding.ids && binding.approvalRequestId == request.body.id &&
  binding.inputDigest == request.body.inputDigest &&
  binding.argumentDigest == C.hashes.approvalArgument binding.reviewFields &&
  binding.consequenceDigest == consequenceDigest && binding.consequence.consequenceDigest == consequenceDigest &&
  binding.bindingDigest == bindingDigest

def validateApprovalRecord (bundle : ApprovalBundle) : StoreM Unit := do
  let binding := bundle.binding
  let request := bundle.request
  let bindingDigest ← orElse
    (digestOnWire binding.onWire (C.hashes.approvalBinding { binding with bindingDigest := .blank })) .invalid
  failIf (!binding.describes C request bindingDigest) .corrupt
  let requester ← loadPrincipalRecord request.body.requestedBy.id
  orElse (request.verify C.primitives requester) .corrupt
  match bundle.decision with
  | none => pure ()
  | some decision => do
    let approver ← loadPrincipalRecord decision.body.decidedBy.id
    orElse (decision.verify C.primitives approver) .corrupt
    failIf (decision.body.requestId != request.body.id ||
      decision.body.requestDigest != C.primitives.requestDigest request ||
      decision.body.decidedBy.id != binding.requiredHumanId) .corrupt

def loadApprovalBundle (requestId : Uuid) : StoreM ApprovalBundle := do
  let bundle ← orFail (← select fun db => findApprovalBundle db requestId) .notFound
  validateApprovalRecord C bundle
  pure bundle

/-! ### Deciding an approval -/

variable (command : ApprovalDecisionCommand) (control : RunControl)

/-- The decision is still to be made, on the run, step and checkpoint as the command expects them. -/
def ApprovalDecisionCommand.actionable (run : AgentRun)
    (step : AgentRunStep) (checkpoint : CheckpointIdentity) (bundle : ApprovalBundle) : Bool :=
  bundle.decision.isNone && run.status == .waitingForInput && step.status == .waitingForApproval &&
  step.approvalRequestId == some command.approvalRequestId && bundle.binding.runId == run.id &&
  bundle.binding.stepId == step.id && bundle.binding.requiredHumanId == command.binding.humanId &&
  C.primitives.requestDigest bundle.request == command.expectedRequestDigest &&
  run.revision == command.expectedRunRevision && step.revision == command.expectedStepRevision &&
  control.controlRevision == command.expectedControlRevision &&
  checkpoint == ⟨command.expectedCheckpointId, command.expectedCheckpointSequence, command.expectedCheckpointDigest⟩

def DecisionOutcome.approval : DecisionOutcome → ApprovalOutcome
  | .approved => .approved
  | .denied => .denied

/-- The decision that the human is asked to sign. -/
def ApprovalDecisionCommand.decision (decisionId : Uuid) (now : Instant) : ApprovalDecision where
  id := decisionId
  requestId := command.approvalRequestId
  requestDigest := command.expectedRequestDigest
  outcome := command.outcome.approval
  decidedBy := ⟨command.binding.humanId⟩
  decidedAt := now
  reason := none

/-- Have the decision signed and store it. -/
def signDecision (binding : ApprovalBinding) (decisionId : Uuid) (now : Instant) : StoreM ContentDigest := do
  let signed ← orFail (signer.signApproval
    { commandId := command.binding.commandId
      decisionId := decisionId
      authenticatedHumanId := command.binding.humanId
      approvalBinding := binding
      signedRequestDigest := command.expectedRequestDigest
      outcome := command.outcome
      validatedAt := now }) .unavailable
  failIf (signed.schema != "proof.operator.signed-decision-result/v1") .unavailable
  let signature ← orFail (decodeBase64url signed.signature) .unavailable
  let decision : SignedApprovalDecision := ⟨command.decision decisionId now, signature⟩
  let human ← loadPrincipalRecord command.binding.humanId
  failIf (C.primitives.decisionDigest decision != signed.decisionDigest ||
    !(decision.verify C.primitives human matches .ok _)) .unavailable
  insertInto Database.approvalDecisions (fun db approvalDecisions => { db with approvalDecisions })
    (fun row => decide (row.body.id = decision.body.id) || decide (row.body.requestId = decision.body.requestId))
    decision
  pure signed.decisionDigest

/-- Store the decision, advance the run's control record and record the command. -/
def applyDecision (run : AgentRun) (step : AgentRunStep) (bundle : ApprovalBundle) (now : Instant) :
    StoreM CommandResult := do
  insertCommandEnvelope envelope
  let decisionId ← operatorUuid
  let decisionDigest ← signDecision C signer command bundle.binding decisionId now
  let control ← advanceControl C { control with lastCommandId := some command.binding.commandId }
    command.expectedFenceEpoch now
  let effect : CommandEffect :=
    { targetRunId := some run.id
      approvalRequestId := some command.approvalRequestId
      observedRunRevision := some run.revision
      resultingRunRevision := some run.revision
      resultingStepRevision := some step.revision
      resultingControlRevision := some control.controlRevision
      resultingFenceEpoch := some command.expectedFenceEpoch
      decisionId := some decisionId
      decisionDigest := some decisionDigest }
  let proof ← signCommandTransition C signer workspace envelope (envelope.transition effect now) now
  let shape := { envelope.command.shape with decisionDigest := some decisionDigest }
  let receipt ← recordCommand C envelope effect .applied (some proof)
    (commandEvent envelope .approvalDecided .accepted shape true (some proof) now) now
  pure ⟨.applied, receipt⟩

/-- A request that has expired is only noted as such. -/
def decideApproval (now : Instant) : StoreM (Except OperatorStoreError CommandResult) := do
  let control ← loadControl C command.runId
  let run ← loadAgentRunExact command.runId
  let step ← loadAgentStepExact command.stepId
  let checkpoint ← loadLatestCheckpointIdentity command.runId
  let bundle ← loadApprovalBundle C command.approvalRequestId
  let _ ← loadCommandLease C command.runId command.expectedFenceEpoch now true
  if bundle.request.body.expiresAt ≤ now then
    let expired := AuditEvent.base command.binding.workspaceId (← operatorUuid) .approvalExpired .expired now
    let _ ← appendAuditEvent C { expired with
      runId := some command.runId
      approvalRequestId := some command.approvalRequestId }
    statement
    pure (.error .notActionable)
  else
    failIf (!command.actionable C control run step checkpoint bundle) .notActionable
    let result ← applyDecision C signer workspace envelope command control run step bundle now
    pure (.ok result)

/-! ### Cancelling a run -/

variable (run : AgentRun) (lease : RunLease) (now : Instant)

/-- A run that has ended is left as it is, and the command is recorded as rejected. -/
def rejectCancel : StoreM CommandResult := do
  let effect : CommandEffect :=
    { targetRunId := some run.id
      observedRunRevision := some run.revision
      resultingRunRevision := some run.revision
      resultingControlRevision := some control.controlRevision
      resultingFenceEpoch := some lease.fenceEpoch }
  let receipt ← recordCommand C envelope effect .alreadyTerminal none
    (commandEvent envelope .commandRejected .rejected envelope.command.shape false none now) now
  pure ⟨.alreadyTerminal, receipt⟩

/-- Release the reservation that the run has made and not dispatched, if there is one. -/
def releaseOpenReservation : StoreM Unit := do
  match ← select fun db => db.reservations.find? fun row => decide (row.runId = run.id ∧ row.state = .reserved) with
  | none => pure ()
  | some row =>
    let reservation ← loadReservation C (← uuidColumn row.reservationId)
    let budget ← loadBudget C reservation.budgetId
    let (reservation, _) ← releaseReservation C reservation budget now
    let _ ← appendBudgetEvent C control lease reservation.reservationId reservation.intentDigest .budgetReleased
      .accepted now

def applyCancel (command : RunCancelCommand)
    (control : RunControl) (run : AgentRun) (lease : RunLease) (now : Instant) : StoreM CommandResult := do
  releaseOpenReservation C control run lease now
  let cancelled ← orElse (run.cancel now) .corrupt
  updateAgentRunExact cancelled run.revision
  let control ← advanceControl C { control with lastCommandId := some command.binding.commandId } lease.fenceEpoch now
  let effect : CommandEffect :=
    { targetRunId := some run.id
      observedRunRevision := some run.revision
      resultingRunRevision := some cancelled.revision
      resultingControlRevision := some control.controlRevision
      resultingFenceEpoch := some lease.fenceEpoch }
  let proof ← signCommandTransition C signer workspace envelope (envelope.transition effect now) now
  let receipt ← recordCommand C envelope effect .applied (some proof)
    (commandEvent envelope .runCancelled .accepted envelope.command.shape true (some proof) now) now
  pure ⟨.applied, receipt⟩

def cancelRun (command : RunCancelCommand) (now : Instant) : StoreM CommandResult := do
  let control ← loadControl C command.runId
  let run ← loadAgentRunExact command.runId
  let lease ← loadCommandLease C command.runId command.expectedFenceEpoch now (!run.status.isTerminal)
  failIf (run.revision != command.expectedRunRevision || control.controlRevision != command.expectedControlRevision)
    .staleRevision
  failIf control.activeDispatchReservationId.isSome .notActionable
  insertCommandEnvelope envelope
  if run.status.isTerminal then rejectCancel C envelope control run lease now
  else applyCancel C signer workspace envelope command control run lease now

/-! ### Resuming a run -/

/-- The run as it goes on, and what led to it. -/
structure Resumption where
  run : AgentRun
  stepRevision : Nat
  control : RunControl
  decisionId : Option Uuid
  recovery : Option RecoveryDirective

/-- After a decision the run goes on if it was approved and fails if it was denied. -/
def followDecision (outcome : ApprovalOutcome) (run : AgentRun) (step : AgentRunStep) (now : Instant) :
    Except AgentRunError (AgentRun × AgentRunStep) :=
  match outcome with
  | .approved => do pure (← run.resume now, ← step.resumeFromApproval now)
  | .denied => do pure (← run.fail now, ← step.fail "approval denied" now)

variable (command : RunResumeCommand)

def resumeDecided (requestId : Uuid) (control : RunControl) (run : AgentRun)
    (step : AgentRunStep) (now : Instant) : StoreM Resumption := do
  let bundle ← loadApprovalBundle C requestId
  let decision ← orFail bundle.decision .notActionable
  failIf (run.status != .waitingForInput || step.status != .waitingForApproval ||
    step.approvalRequestId != some requestId || bundle.binding.runId != run.id || bundle.binding.stepId != step.id ||
    decide (bundle.request.body.expiresAt < decision.body.decidedAt) ||
    command.decisionDigest != some (C.primitives.decisionDigest decision)) .notActionable
  let (next, nextStep) ← orElse (followDecision decision.body.outcome run step now) .corrupt
  updateAgentStepExact C nextStep step.revision
  pure ⟨next, nextStep.revision, control, some decision.body.id, none⟩

variable (directiveId : Uuid) (control : RunControl) (run : AgentRun) (step : AgentRunStep)
  (checkpoint : CheckpointIdentity) (now : Instant)

/-- A failed run goes on under the directive that its control record carries, once. -/
def resumeRecovered : StoreM Resumption := do
  let directive ← loadRecoveryDirective C directiveId
  let consumed ← select fun db => resumptions db run.id directiveId
  failIf (run.status != .failed || directive.runId != run.id || directive.checkpoint != checkpoint ||
    control.recoveryDirectiveId != some directiveId ||
    control.recoveryDirectiveDigest != some directive.directiveDigest ||
    command.recoveryDirectiveDigest != some directive.directiveDigest || consumed != 0) .notActionable
  let next ← orElse (run.resume now) .corrupt
  pure ⟨next, step.revision, { control with recoveryDirectiveId := none, recoveryDirectiveDigest := none }, none,
    some directive⟩

def loadResumption : StoreM Resumption :=
  match command.approvalRequestId, command.recoveryDirectiveId with
  | some requestId, none => resumeDecided C command requestId control run step now
  | none, some directiveId => resumeRecovered C command directiveId control run step checkpoint now
  | _, _ => fail .invalid

variable (workspaceId runId : Uuid) (lease : RunLease) (directive : RecoveryDirective) (now : Instant)

def appendRecoveryCompleted : StoreM AuditEvent := do
  let eventId ← operatorUuid
  appendAuditEvent C { AuditEvent.base workspaceId eventId .recoveryCompleted .accepted now with
    serverInstanceId := some lease.ownerInstanceId
    runId := some runId
    reservationId := some directive.sourceReservationId
    leaseId := some lease.leaseId
    sourceLeaseId := some directive.sourceLeaseId
    processEpochId := some lease.processEpochId
    recoveryDirectiveId := some directive.directiveId
    fenceEpoch := some lease.fenceEpoch
    intentDigest := some directive.intentDigest
    recoveryDirectiveDigest := some directive.directiveDigest }

/-- A recovery that the resume was for is completed by it. -/
def completeRecovery (recovery : Option RecoveryDirective) (now : Instant) : StoreM Unit :=
  match recovery with
  | none => pure ()
  | some directive => do
    let _ ← appendRecoveryCompleted C workspaceId runId lease directive now

/-- The event of a resume names the lease when the run recovers. -/
def resumeEvent (recovery : Option RecoveryDirective)
    (proof : ProofReference) (now : Instant) (eventId : Uuid) : AuditEvent :=
  let event := commandEvent envelope .runResumed .accepted envelope.command.shape true (some proof) now eventId
  if recovery.isSome then { event with
    leaseId := some lease.leaseId
    processEpochId := some lease.processEpochId
    fenceEpoch := some lease.fenceEpoch }
  else event

def applyResume (resumption : Resumption) (now : Instant) : StoreM CommandResult := do
  insertCommandEnvelope envelope
  updateAgentRunExact resumption.run run.revision
  let control ← advanceControl C { resumption.control with lastCommandId := some command.binding.commandId }
    lease.fenceEpoch now
  let effect : CommandEffect :=
    { targetRunId := some run.id
      approvalRequestId := command.approvalRequestId
      observedRunRevision := some run.revision
      resultingRunRevision := some resumption.run.revision
      resultingStepRevision := some resumption.stepRevision
      resultingControlRevision := some control.controlRevision
      resultingFenceEpoch := some lease.fenceEpoch
      decisionId := resumption.decisionId
      decisionDigest := command.decisionDigest }
  let proof ← signCommandTransition C signer workspace envelope (envelope.transition effect now) now
  completeRecovery C command.binding.workspaceId run.id lease resumption.recovery now
  let receipt ← recordCommand C envelope effect .applied (some proof)
    (resumeEvent envelope lease resumption.recovery proof now) now
  pure ⟨.applied, receipt⟩

def resumeRun : StoreM CommandResult := do
  let control ← loadControl C command.runId
  let run ← loadAgentRunExact command.runId
  let step ← loadAgentStepExact command.stepId
  let checkpoint ← loadLatestCheckpointIdentity command.runId
  let lease ← loadCommandLease C command.runId command.expectedFenceEpoch now true
  failIf (run.revision != command.expectedRunRevision || step.revision != command.expectedStepRevision ||
    control.controlRevision != command.expectedControlRevision ||
    checkpoint !=
      ⟨command.expectedCheckpointId, command.expectedCheckpointSequence, command.expectedCheckpointDigest⟩ ||
    control.activeDispatchReservationId.isSome) .staleRevision
  let resumption ← loadResumption C command control run step checkpoint now
  applyResume C signer workspace envelope command run lease resumption now

/-! ### Revoking a session -/

def revokeSession : StoreM CommandResult := do
  insertCommandEnvelope envelope
  let effect : CommandEffect := {}
  let proof ← signCommandTransition C signer workspace envelope (envelope.transition effect now) now
  let receipt ← recordCommand C envelope effect .applied (some proof)
    (commandEvent envelope .sessionRevoked .accepted envelope.command.shape true (some proof) now) now
  pure ⟨.applied, receipt⟩

/-! ### Execution -/

/-- The recorded command with this key, and its receipt. -/
def findCommand (db : Database) (binding : CommandBinding) : Option (CommandEnvelope × CommandReceipt) :=
  db.commands.findSome? fun envelope =>
    if envelope.binding.workspaceId = binding.workspaceId ∧ envelope.binding.humanId = binding.humanId ∧
        envelope.binding.idempotencyKey = binding.idempotencyKey then
      (lookup CommandReceipt.commandId db.receipts envelope.binding.commandId).map fun receipt =>
        (envelope, receipt)
    else none

/-- The same command again reports its receipt; another command under its key is a conflict. -/
def repeatCommand (command : OperatorCommand) (requestDigest : ControlDigest) (envelope : CommandEnvelope)
    (receipt : CommandReceipt) : StoreM (Except OperatorStoreError CommandResult) := do
  if envelope.requestDigest == requestDigest then
    failIf (envelope.command != command) .corrupt
    failIf (!safeOnWire receipt.auditSequence) .corrupt
    let _ ← uuidColumn receipt.receiptId
    lift (validateCommandReceiptBinding C.hashes receipt envelope)
    statement
    pure (.ok ⟨.exactReplay, receipt⟩)
  else
    let now ← operatorNow
    let event := commandEvent (command.envelope requestDigest now) .commandConflict .conflict command.shape false
      none now
    let _ ← appendAuditEvent C (event (← operatorUuid))
    statement
    pure (.error .conflict)

def runCommand : StoreM (Except OperatorStoreError CommandResult) :=
  match envelope.command with
  | .approvalDecision command => decideApproval C signer workspace envelope command now
  | .runCancel command => do pure (.ok (← cancelRun C signer workspace envelope command now))
  | .runResume command => do pure (.ok (← resumeRun C signer workspace envelope command now))
  | .sessionRevoke _ => do pure (.ok (← revokeSession C signer workspace envelope now))

def executeInTransaction : StoreM (Except OperatorStoreError CommandResult) := do
  statement
  let workspace ← validateCommandScope C request
  let requestDigest ← orElse (request.command.digest C.hashes) .invalid
  match ← select fun db => findCommand db request.command.binding with
  | some (envelope, receipt) => repeatCommand C request.command requestDigest envelope receipt
  | none =>
    let now ← operatorNow
    failIf (decide (request.scope.sessionAuthority.absoluteExpiresAt ≤ now)) .notActionable
    runCommand C signer workspace (request.command.envelope requestDigest now) now

def executeOperatorCommand : StoreM CommandResult := do
  lift (← atomically (executeInTransaction C signer request))

end ProofPlatform.Operator
