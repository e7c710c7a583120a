import ProofPlatform.Executor.Context
import ProofPlatform.Operator.Values

/-! The durable operator records and the digests they carry, each computed with its own field left out. -/
namespace ProofPlatform.Operator
open Kernel Executor Library.Fallible

inductive OperatorValidationError where
  | invalidSchema
  | invalidUuid
  | invalidRevision
  | invalidBranch
  | invalidChronology
  | budgetExceeded
  deriving DecidableEq

abbrev Validation := Except OperatorValidationError Unit

def allV7 (ids : List Uuid) : Bool := ids.all uuidIsV7

def allSafe (values : List Nat) : Bool := values.all safeOnWire

def allTimes (times : List Instant) : Bool := times.all timeOnWire

structure PrincipalBinding where
  principalId : PrincipalId
  kind : PrincipalKind
  publicKey : PublicKey
  publicKeyFingerprint : ControlDigest
  deriving DecidableEq

/-- A file or directory, by device and inode. -/
structure DescriptorIdentity where
  device : Nat
  inode : Nat
  deriving DecidableEq

structure WorkspaceFingerprintInput where
  schema : String
  workspaceId : Uuid
  proofDirectory : DescriptorIdentity
  controlLock : DescriptorIdentity
  agentKeyFile : DescriptorIdentity
  humanKeyFile : DescriptorIdentity
  agentId : Uuid
  humanId : Uuid
  agentPublicKey : PublicKey
  humanPublicKey : PublicKey
  deriving DecidableEq

inductive Capability where
  | approvalDecide
  | approvalRead
  | auditRead
  | runCancel
  | runRead
  | runResume
  deriving DecidableEq

structure OperatorWorkspace where
  schema : String
  workspaceId : Uuid
  databaseName : String
  fingerprintInput : WorkspaceFingerprintInput
  workspaceFingerprint : ControlDigest
  schemaCatalogDigest : ControlDigest
  agent : PrincipalBinding
  human : PrincipalBinding
  authEpoch : Nat
  policyRevision : Nat
  capabilities : List Capability
  createdAt : Instant
  updatedAt : Instant
  bindingDigest : ControlDigest
  deriving DecidableEq

structure SessionAuthorityBinding where
  schema : String
  sessionId : Uuid
  workspaceId : Uuid
  serverInstanceId : Uuid
  humanId : Uuid
  authEpoch : Nat
  policyRevision : Nat
  origin : String
  grantedCapabilities : List Capability
  issuedAt : Instant
  absoluteExpiresAt : Instant

inductive BudgetAccountState where
  | active
  | closed
  | exhausted
  deriving DecidableEq

structure BudgetPolicy where
  schema : String
  budgetId : Uuid
  workspaceId : Uuid
  limits : BudgetAmounts
  deadlineAt : Instant
  limitsDigest : ControlDigest
  deriving DecidableEq

structure BudgetAccount where
  schema : String
  policy : BudgetPolicy
  revision : Nat
  state : BudgetAccountState
  reserved : BudgetAmounts
  committed : BudgetAmounts
  createdAt : Instant
  updatedAt : Instant
  deriving DecidableEq

structure RunControl where
  schema : String
  runId : Uuid
  workspaceId : Uuid
  budgetId : Uuid
  controlRevision : Nat
  activeDispatchReservationId : Option Uuid := none
  recoveryDirectiveId : Option Uuid := none
  recoveryDirectiveDigest : Option ControlDigest := none
  lastCommandId : Option Uuid := none
  createdAt : Instant
  updatedAt : Instant
  bindingDigest : ControlDigest
  deriving DecidableEq

inductive RunLeaseState where
  | active
  | released
  deriving DecidableEq

structure RunLease where
  schema : String
  runId : Uuid
  workspaceId : Uuid
  leaseId : Uuid
  ownerInstanceId : Uuid
  processEpochId : Uuid
  leaseTokenDigest : ControlDigest
  fenceEpoch : Nat
  revision : Nat
  state : RunLeaseState
  acquiredAt : Instant
  renewedAt : Instant
  expiresAt : Instant
  releasedAt : Option Instant
  leaseDigest : ControlDigest

inductive BoundaryKind where
  | provider
  | tool
  deriving DecidableEq

structure DispatchIntent where
  schema : String
  kind : BoundaryKind
  adapter : String
  model : Option String
  operation : String
  version : String
  argumentDigest : ControlDigest
  ceiling : BudgetAmounts
  deriving DecidableEq

/-- The only replay policy is required UUIDv7 exact replay, so it is not a field here. -/
structure ReplayClaimBinding where
  schema : String
  workspaceId : Uuid
  runId : Uuid
  stepId : Uuid
  checkpointId : Uuid
  checkpointSequence : Nat
  checkpointDigest : ContentDigest
  operation : String
  version : String
  idempotencyKey : Uuid
  inputDigest : ContentDigest
  claimedBy : PrincipalId
  bindingDigest : ControlDigest
  deriving DecidableEq

structure DispatchPermit where
  schema : String
  permitId : Uuid
  runId : Uuid
  reservationId : Uuid
  leaseId : Uuid
  processEpochId : Uuid
  fenceEpoch : Nat
  expectedControlRevision : Nat
  intentDigest : ControlDigest
  replayBindingDigest : Option ControlDigest
  dispatchTokenDigest : ControlDigest
  callDigest : ControlDigest
  authorizedAt : Instant
  budgetDeadlineAt : Instant
  deriving DecidableEq

/-- Classification and budget disposition have one value each and are not fields here. -/
structure RecoveryDirective where
  schema : String
  directiveId : Uuid
  workspaceId : Uuid
  runId : Uuid
  sourceLeaseId : Uuid
  sourceReservationId : Uuid
  sourceBudgetId : Uuid
  sourceIdempotencyKey : Uuid
  sourceRequestDigest : ControlDigest
  checkpointId : Uuid
  checkpointSequence : Nat
  checkpointDigest : ContentDigest
  sourceFenceEpoch : Nat
  sourceControlRevision : Nat
  intentDigest : ControlDigest
  replay : Option ReplayClaimBinding
  createdAt : Instant
  directiveDigest : ControlDigest
  deriving DecidableEq

structure ProofReference where
  proofId : Uuid
  actorId : Uuid
  operation : String
  proofDigest : ContentDigest
  deriving DecidableEq

structure PreparedUsageRecord where
  schema : String
  boundaryKind : BoundaryKind
  boundaryCalls : Nat
  adapter : String
  model : Option String
  steps : Nat
  tokens : Nat
  costMicrousd : Nat
  toolDispatches : Nat
  inputDigest : ContentDigest
  outputDigest : ContentDigest
  deriving DecidableEq

structure PreparedRuntimeResultBody where
  schema : String
  usage : PreparedUsageRecord
  outputDigest : ContentDigest
  proof : ProofReference
  runRevision : Nat
  stepRevision : Nat
  checkpointId : Option Uuid
  checkpointSequence : Option Nat
  checkpointDigest : Option ContentDigest
  firstEventSequence : Nat
  lastEventSequence : Nat
  deriving DecidableEq

/-- A handler mutation is always `NoEffect` and is not a field here. -/
structure PreparedExecutionBinding where
  schema : String
  payloadDigest : ControlDigest
  replayBindingDigest : Option ControlDigest
  executionContextId : Uuid
  result : PreparedRuntimeResultBody
  resultDigest : ControlDigest
  deriving DecidableEq

structure RuntimeCommit where
  schema : String
  permit : DispatchPermit
  expectedRunRevision : Nat
  expectedStepRevision : Nat
  expectedCheckpointId : Uuid
  expectedCheckpointSequence : Nat
  expectedCheckpointDigest : ContentDigest
  actualCharge : BudgetAmounts
  preparedExecutionDigest : ControlDigest
  resultDigest : ControlDigest
  committedAt : Instant
  deriving DecidableEq

inductive BudgetReservationState where
  | committed
  | dispatching
  | forfeited
  | released
  | reserved
  deriving DecidableEq

structure BudgetReservation where
  schema : String
  reservationId : Uuid
  budgetId : Uuid
  runId : Uuid
  leaseId : Uuid
  fenceEpoch : Nat
  idempotencyKey : Uuid
  requestDigest : ControlDigest
  kind : BoundaryKind
  intent : DispatchIntent
  intentDigest : ControlDigest
  replay : Option ReplayClaimBinding
  recovery : Option RecoveryDirective
  state : BudgetReservationState
  reserved : BudgetAmounts
  charged : BudgetAmounts
  createdAt : Instant
  permitId : Option Uuid
  dispatchTokenDigest : Option ControlDigest
  callDigest : Option ControlDigest
  preparedExecutionDigest : Option ControlDigest
  resultDigest : Option ControlDigest
  preparedBinding : Option PreparedExecutionBinding
  runtimeCommit : Option RuntimeCommit
  dispatchStartedAt : Option Instant
  settledAt : Option Instant
  deriving DecidableEq

inductive AttentionState where
  | awaitingDecision
  | recoverable
  | running
  | terminal
  deriving DecidableEq

structure RunProjection where
  schema : String
  projectionId : Uuid
  projectionSequence : Nat
  projectionRevision : Nat
  workspaceId : Uuid
  runId : Uuid
  sourceRunRevision : Nat
  sourceControlRevision : Nat
  checkpointId : Uuid
  checkpointSequence : Nat
  checkpointDigest : ContentDigest
  fenceEpoch : Nat
  runStatus : AgentRunStatus
  attention : AttentionState
  requiredHumanId : Option Uuid := none
  approvalRequestId : Option Uuid := none
  recoveryDirectiveId : Option Uuid := none
  recoveryDirectiveDigest : Option ControlDigest := none
  projectedAt : Instant
  snapshotDigest : ControlDigest

inductive CommandKind where
  | approvalDecide
  | runCancel
  | runResume
  | sessionRevoke
  deriving DecidableEq

inductive AuditEventKind where
  | approvalDecided
  | approvalExpired
  | budgetCommitted
  | budgetForfeited
  | budgetRejected
  | budgetReleased
  | budgetReserved
  | commandConflict
  | commandRejected
  | controlFailure
  | controlShutdown
  | dispatchAuthorized
  | leaseAcquired
  | leaseReclaimed
  | leaseReleased
  | leaseRenewed
  | recoveryCompleted
  | recoveryStarted
  | runCancelled
  | runResumed
  | runtimeResultCommitted
  | sessionChallengeIssued
  | sessionExpired
  | sessionIssued
  | sessionReplaced
  | sessionRevoked
  | staleFenceRejected
  deriving DecidableEq

inductive AuditOutcome where
  | accepted
  | conflict
  | expired
  | failed
  | rejected
  deriving DecidableEq

inductive AuditFailureScope where
  | command
  | runtime
  | storage
  | workspace

structure AuditEvent where
  schema : String
  workspaceId : Uuid
  eventId : Uuid
  sequence : Nat
  kind : AuditEventKind
  outcome : AuditOutcome
  previousDigest : Option ControlDigest := none
  eventDigest : ControlDigest
  humanId : Option Uuid := none
  sessionId : Option Uuid := none
  challengeId : Option Uuid := none
  challengeDigest : Option ControlDigest := none
  sessionAuthorityDigest : Option ControlDigest := none
  relatedSessionId : Option Uuid := none
  serverInstanceId : Option Uuid := none
  runId : Option Uuid := none
  approvalRequestId : Option Uuid := none
  commandId : Option Uuid := none
  commandKind : Option CommandKind := none
  budgetId : Option Uuid := none
  reservationId : Option Uuid := none
  leaseId : Option Uuid := none
  sourceLeaseId : Option Uuid := none
  processEpochId : Option Uuid := none
  permitId : Option Uuid := none
  recoveryDirectiveId : Option Uuid := none
  fenceEpoch : Option Nat := none
  authEpoch : Option Nat := none
  policyRevision : Option Nat := none
  intentDigest : Option ControlDigest := none
  callDigest : Option ControlDigest := none
  decisionDigest : Option ContentDigest := none
  recoveryDirectiveDigest : Option ControlDigest := none
  failureScope : Option AuditFailureScope := none
  proof : Option ProofReference := none
  occurredAt : Instant

inductive ReviewFieldClassification where
  | identifier
  | publicValue
  | secret
  | sensitive

structure ReviewField where
  name : String
  classification : ReviewFieldClassification
  displayValue : String
  inputDigest : ContentDigest

inductive ConsequenceClassification where
  | externalEffect
  | governedWrite
  | providerCall
  | toolCall

structure PendingConsequenceBody where
  classification : ConsequenceClassification
  summary : String

structure PendingConsequence where
  classification : ConsequenceClassification
  summary : String
  consequenceDigest : ControlDigest

structure ApprovalBinding where
  schema : String
  approvalRequestId : Uuid
  workspaceId : Uuid
  runId : Uuid
  stepId : Uuid
  checkpointId : Uuid
  checkpointSequence : Nat
  checkpointDigest : ContentDigest
  requiredHumanId : Uuid
  inputDigest : ContentDigest
  reviewFields : List ReviewField
  consequence : PendingConsequence
  argumentDigest : ControlDigest
  consequenceDigest : ControlDigest
  createdAt : Instant
  bindingDigest : ControlDigest

structure CommandBinding where
  commandId : Uuid
  idempotencyKey : Uuid
  workspaceId : Uuid
  serverInstanceId : Uuid
  sessionId : Uuid
  humanId : Uuid
  authEpoch : Nat
  sessionAuthorityDigest : ControlDigest
  policyRevision : Nat
  deriving DecidableEq

inductive DecisionOutcome where
  | approved
  | denied
  deriving DecidableEq

structure ApprovalDecisionCommand where
  schema : String
  binding : CommandBinding
  approvalRequestId : Uuid
  runId : Uuid
  stepId : Uuid
  outcome : DecisionOutcome
  expectedRequestDigest : ContentDigest
  expectedRunRevision : Nat
  expectedStepRevision : Nat
  expectedControlRevision : Nat
  expectedCheckpointId : Uuid
  expectedCheckpointSequence : Nat
  expectedCheckpointDigest : ContentDigest
  expectedFenceEpoch : Nat
  deriving DecidableEq

structure RunCancelCommand where
  schema : String
  binding : CommandBinding
  runId : Uuid
  expectedRunRevision : Nat
  expectedControlRevision : Nat
  expectedFenceEpoch : Nat
  deriving DecidableEq

structure RunResumeCommand where
  schema : String
  binding : CommandBinding
  runId : Uuid
  stepId : Uuid
  approvalRequestId : Option Uuid
  decisionDigest : Option ContentDigest
  recoveryDirectiveId : Option Uuid
  recoveryDirectiveDigest : Option ControlDigest
  expectedRunRevision : Nat
  expectedStepRevision : Nat
  expectedControlRevision : Nat
  expectedCheckpointId : Uuid
  expectedCheckpointSequence : Nat
  expectedCheckpointDigest : ContentDigest
  expectedFenceEpoch : Nat
  deriving DecidableEq

structure SessionRevokeRequest where
  schema : String
  binding : CommandBinding
  deriving DecidableEq

inductive OperatorCommand where
  | approvalDecision (command : ApprovalDecisionCommand)
  | runCancel (command : RunCancelCommand)
  | runResume (command : RunResumeCommand)
  | sessionRevoke (command : SessionRevokeRequest)
  deriving DecidableEq

def OperatorCommand.binding : OperatorCommand → CommandBinding
  | .approvalDecision command => command.binding
  | .runCancel command => command.binding
  | .runResume command => command.binding
  | .sessionRevoke command => command.binding

inductive CommandOutcome where
  | alreadyTerminal
  | applied
  deriving DecidableEq

structure CommandEnvelope where
  schema : String
  command : OperatorCommand
  requestDigest : ControlDigest
  requiredCapabilities : List Capability
  requestedAt : Instant

structure CommandReceipt where
  schema : String
  receiptId : Uuid
  commandId : Uuid
  idempotencyKey : Uuid
  kind : CommandKind
  outcome : CommandOutcome
  requestDigest : ControlDigest
  workspaceId : Uuid
  humanId : Uuid
  targetRunId : Option Uuid
  approvalRequestId : Option Uuid
  observedRunRevision : Option Nat
  resultingRunRevision : Option Nat
  resultingStepRevision : Option Nat
  resultingControlRevision : Option Nat
  resultingFenceEpoch : Option Nat
  decisionId : Option Uuid
  decisionDigest : Option ContentDigest
  proof : Option ProofReference
  auditEventId : Uuid
  auditSequence : Nat
  auditDigest : ControlDigest
  completedAt : Instant
  receiptDigest : ControlDigest

/-- What an applied command is proved to have done. The outcome is always `Applied`. -/
structure ControlTransitionOutcome where
  schema : String
  commandId : Uuid
  kind : CommandKind
  proofOperation : CommandKind
  targetRunId : Option Uuid
  approvalRequestId : Option Uuid
  resultingRunRevision : Option Nat
  resultingStepRevision : Option Nat
  resultingControlRevision : Option Nat
  resultingFenceEpoch : Option Nat
  decisionDigest : Option ContentDigest
  completedAt : Instant

/-! What callers hand to the operator store and what it hands back, without the fixed schema names. -/

/-- The 32 bytes of a lease or dispatch token. -/
abbrev Token := BitVec 256

structure LeaseAuthority where
  schema : String
  workspaceId : Uuid
  runId : Uuid
  leaseId : Uuid
  ownerInstanceId : Uuid
  processEpochId : Uuid
  fenceEpoch : Nat
  expectedControlRevision : Nat
  leaseToken : Token

structure InitialRunProjectionInput where
  schema : String
  workspaceId : Uuid
  runId : Uuid
  sourceRunRevision : Nat
  checkpointId : Uuid
  checkpointSequence : Nat
  checkpointDigest : ContentDigest
  runStatus : AgentRunStatus

structure RegisterGovernedRunRequest where
  schema : String
  workspaceId : Uuid
  runId : Uuid
  budgetId : Uuid
  initialProjection : InitialRunProjectionInput

inductive CreationOutcome where
  | created
  | exactExisting
  deriving DecidableEq

structure RegisterGovernedRunResult where
  outcome : CreationOutcome
  runId : Uuid
  controlRevision : Nat
  runControl : RunControl
  initialProjection : RunProjection

structure LeaseClaimRequest where
  schema : String
  workspaceId : Uuid
  runId : Uuid
  leaseId : Uuid
  ownerInstanceId : Uuid
  processEpochId : Uuid
  leaseToken : Token
  expectedFenceEpoch : Nat
  expectedControlRevision : Nat

structure LeaseRenewRequest where
  schema : String
  authority : LeaseAuthority

/-- The authority of the custody that is given up, if that custody was bound to a lease. -/
structure LeaseReleaseRequest where
  schema : String
  authority : Option LeaseAuthority

inductive LeaseMutationOutcome where
  | acquired
  | released
  | renewed
  deriving DecidableEq

structure LeaseMutationResult where
  outcome : LeaseMutationOutcome
  lease : RunLease
  controlRevision : Nat

structure BudgetReserveRequest where
  schema : String
  authority : LeaseAuthority
  reservationId : Uuid
  idempotencyKey : Uuid
  intent : DispatchIntent
  intentDigest : ControlDigest
  replay : Option ReplayClaimBinding
  recovery : Option RecoveryDirective

inductive BudgetReserveOutcome where
  | exactExisting
  | reserved
  deriving DecidableEq

structure BudgetReserveResult where
  outcome : BudgetReserveOutcome
  reservation : BudgetReservation
  budgetRevision : Nat
  controlRevision : Nat
  deriving DecidableEq

/-- The only disposition is a release before dispatch. -/
structure BudgetSettlementRequest where
  schema : String
  authority : LeaseAuthority
  reservationId : Uuid

structure BudgetSettlementResult where
  reservation : BudgetReservation
  budgetRevision : Nat
  controlRevision : Nat

structure BeginDispatchRequest where
  schema : String
  authority : LeaseAuthority
  reservationId : Uuid
  dispatchToken : Token
  intent : DispatchIntent
  intentDigest : ControlDigest
  replay : Option ReplayClaimBinding
  replayClaimToken : Option Uuid
  callDigest : ControlDigest

structure ReplayProofEnvelope where
  proofId : Uuid
  actorId : Uuid
  delegationId : Option Uuid
  operation : String
  version : String
  inputDigest : ContentDigest
  outputDigest : ContentDigest
  timestamp : Instant
  expiresAt : Option Instant
  signature : Signature
  deriving DecidableEq

structure ReplayCompletionBinding where
  replayBindingDigest : ControlDigest
  workspaceId : Uuid
  runId : Uuid
  stepId : Uuid
  checkpointId : Uuid
  checkpointSequence : Nat
  checkpointDigest : ContentDigest
  existingRunRevision : Nat
  existingStepRevision : Nat
  existingControlRevision : Nat
  canonicalOutputJson : CanonicalJson
  inputDigest : ContentDigest
  outputDigest : ContentDigest
  proof : ReplayProofEnvelope
  deriving DecidableEq

inductive DispatchOutcome where
  | dispatchAuthorized
  | exactReplay
  | replayConflict
  | replayFailed
  | replayInProgress
  | replayUnsupported
  deriving DecidableEq

structure DispatchResult where
  outcome : DispatchOutcome
  permit : Option DispatchPermit
  replayCompletion : Option ReplayCompletionBinding
  controlRevision : Nat

structure PreparedApprovalBundle where
  request : SignedApprovalRequest
  binding : ApprovalBinding

/-- Everything a governed execution wants recorded; the replay transition completes its claim, if any. -/
structure PreparedGovernedExecution where
  output : Json
  executionContextId : Uuid
  context : ExecutionContext
  proof : Proof
  runAfter : AgentRun
  stepAfter : AgentRunStep
  checkpoint : Option AgentCheckpoint
  events : List AgentRunEvent
  evaluation : Option AgentRunEvaluation
  approval : Option PreparedApprovalBundle
  replay : Option ExecutionReplayClaim
  usage : PreparedUsageRecord

/-- A commit request with the custody it consumes: dispatch token and intent. -/
structure RuntimeCommitRequest where
  schema : String
  authority : LeaseAuthority
  permit : DispatchPermit
  dispatchToken : Token
  intent : DispatchIntent
  prepared : PreparedExecutionBinding

structure RuntimeCommitResult where
  runRevision : Nat
  stepRevision : Nat
  controlRevision : Nat
  budgetRevision : Nat
  charged : BudgetAmounts
  proof : ProofReference

inductive RuntimeFailureCode where
  | dispatchAmbiguous
  | handlerFailed
  | processShutdown
  | resultInvalid

/-- The only classification is an ambiguous failure that must be forfeited. -/
structure RuntimeFailureBody where
  schema : String
  reservationId : Uuid
  permitId : Uuid
  failureCode : RuntimeFailureCode
  intentDigest : ControlDigest
  callDigest : ControlDigest

structure RuntimeFailureRequest where
  schema : String
  authority : LeaseAuthority
  permit : DispatchPermit
  dispatchToken : Token
  failure : RuntimeFailureBody
  errorDigest : ControlDigest

/-- A settled failure never carries a recovery directive. -/
structure RuntimeFailureResult where
  runRevision : Nat
  controlRevision : Nat
  budgetRevision : Nat

structure ReclaimRequest where
  schema : String
  workspaceId : Uuid
  runId : Uuid
  expiredLeaseId : Uuid
  expectedFenceEpoch : Nat
  expectedControlRevision : Nat
  newLeaseId : Uuid
  ownerInstanceId : Uuid
  newProcessEpochId : Uuid
  newLeaseToken : Token
  checkpointId : Uuid
  checkpointSequence : Nat
  checkpointDigest : ContentDigest

inductive ReclaimOutcome where
  | ambiguousForfeited
  | idleReclaimed
  | preDispatchRecovered
  | recoverableReclaimed

structure ReclaimResult where
  outcome : ReclaimOutcome
  lease : Option RunLease
  directive : Option RecoveryDirective
  controlRevision : Nat

inductive OperatorMutationRoute where
  | approvalDecide
  | runCancel
  | runResume
  | sessionRevoke
  deriving DecidableEq

structure OperatorMutationScope where
  schema : String
  route : OperatorMutationRoute
  sessionAuthority : SessionAuthorityBinding
  sessionAuthorityDigest : ControlDigest
  policyRevision : Nat
  requiredCapabilities : List Capability

structure CommandExecutionRequest where
  schema : String
  scope : OperatorMutationScope
  command : OperatorCommand

inductive CommandResultOutcome where
  | alreadyTerminal
  | applied
  | exactReplay
  deriving DecidableEq

structure CommandResult where
  outcome : CommandResultOutcome
  receipt : CommandReceipt

structure ApprovalSigningRequest where
  commandId : Uuid
  decisionId : Uuid
  authenticatedHumanId : Uuid
  approvalBinding : ApprovalBinding
  signedRequestDigest : ContentDigest
  outcome : DecisionOutcome
  validatedAt : Instant

/-- The signature is base64url text. -/
structure SignedDecisionResult where
  schema : String
  decisionDigest : ContentDigest
  signature : String

structure OperatorProofSigningRequest where
  agentId : Uuid
  command : CommandEnvelope
  commandDigest : ControlDigest
  inputDigest : ContentDigest
  outputDigest : ContentDigest
  proofId : Uuid
  timestamp : Instant
  outcome : ControlTransitionOutcome

inductive ControlAuthorityEventKind where
  | controlShutdown
  | sessionChallengeIssued
  | sessionExpired
  | sessionIssued
  | sessionReplaced
  deriving DecidableEq

structure ControlAuditAppendRequest where
  schema : String
  workspaceId : Uuid
  serverInstanceId : Uuid
  kind : ControlAuthorityEventKind
  humanId : Option Uuid := none
  sessionId : Option Uuid := none
  challengeId : Option Uuid := none
  challengeDigest : Option ControlDigest := none
  sessionAuthorityDigest : Option ControlDigest := none
  relatedSessionId : Option Uuid := none
  authEpoch : Option Nat := none
  policyRevision : Option Nat := none

/-- The signer the store is handed; no answer is a failure to sign. -/
structure OperatorSigner where
  signApproval : ApprovalSigningRequest → Option SignedDecisionResult
  signOperatorProof : OperatorProofSigningRequest → Option Proof

end ProofPlatform.Operator
