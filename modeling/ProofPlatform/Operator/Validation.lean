import ProofPlatform.Operator.Records

/-! The kernel's validators of the durable operator records. -/
namespace ProofPlatform.Operator
open Kernel Library.Fallible Bool

/-- The keyed hashes of the operator records, one per domain label: of their canonical text, without its own digest
and secret tokens. Nothing is assumed of them. -/
structure ControlHashes where
  publicKey : PublicKey → ControlDigest
  workspace : WorkspaceFingerprintInput → ControlDigest
  workspaceBinding : OperatorWorkspace → ControlDigest
  sessionAuthority : SessionAuthorityBinding → ControlDigest
  budgetLimits : BudgetPolicy → ControlDigest
  runBinding : RunControl → ControlDigest
  lease : RunLease → ControlDigest
  leaseToken : BitVec 256 → ControlDigest
  dispatchIntent : DispatchIntent → ControlDigest
  dispatchCall : DispatchIntent → ControlDigest
  dispatchToken : BitVec 256 → ControlDigest
  replayBinding : ReplayClaimBinding → ControlDigest
  recoveryDirective : RecoveryDirective → ControlDigest
  runtimeResult : PreparedRuntimeResultBody → ControlDigest
  runProjection : RunProjection → ControlDigest
  auditEvent : AuditEvent → ControlDigest
  approvalArgument : List ReviewField → ControlDigest
  approvalConsequence : PendingConsequenceBody → ControlDigest
  approvalBinding : ApprovalBinding → ControlDigest
  budgetRequest : BudgetReserveRequest → ControlDigest
  preparedExecution : PreparedGovernedExecution → ControlDigest
  runtimeFailure : RuntimeFailureBody → ControlDigest
  command : OperatorCommand → ControlDigest
  commandReceipt : CommandReceipt → ControlDigest
  proof : Proof → ContentDigest
  commandInput : CommandEnvelope → ContentDigest
  commandOutput : ControlTransitionOutcome → ContentDigest

/-- Every hash is zero, where digests are compared with themselves only. -/
def ControlHashes.zero : ControlHashes := by constructor <;> exact fun _ => ⟨0⟩

variable (H : ControlHashes)

/-- A digest of a record, when the strict serializers accept the record. -/
def digestOnWire (onWire : Bool) (digest : ControlDigest) : Except OperatorValidationError ControlDigest :=
  if onWire then .ok digest else .error .invalidSchema

def PrincipalBinding.validate (binding : PrincipalBinding) : Validation :=
  reject (!uuidIsV7 binding.principalId.id || binding.publicKeyFingerprint != H.publicKey binding.publicKey)
    .invalidSchema

def DescriptorIdentity.valid (identity : DescriptorIdentity) : Bool :=
  allSafe [identity.device, identity.inode] && identity.inode != 0

namespace WorkspaceFingerprintInput

def schemaName : String := "proof.operator.workspace-fingerprint-input/v1"

def validate (input : WorkspaceFingerprintInput) : Validation :=
  reject (input.schema != schemaName || !allV7 [input.workspaceId, input.agentId, input.humanId] ||
    !([input.proofDirectory, input.controlLock, input.agentKeyFile, input.humanKeyFile].all DescriptorIdentity.valid))
    .invalidSchema

end WorkspaceFingerprintInput

namespace OperatorWorkspace

def schemaName : String := "proof-operator-workspace/v1"

def onWire (workspace : OperatorWorkspace) : Bool :=
  allV7 [workspace.workspaceId, workspace.agent.principalId.id, workspace.human.principalId.id,
    workspace.fingerprintInput.workspaceId, workspace.fingerprintInput.agentId, workspace.fingerprintInput.humanId] &&
  allSafe [workspace.authEpoch, workspace.policyRevision] && allTimes [workspace.createdAt, workspace.updatedAt]

/-- The principals of the record are those of its fingerprint. -/
def principalsMatch (workspace : OperatorWorkspace) : Bool :=
  let input := workspace.fingerprintInput
  input.workspaceId == workspace.workspaceId && workspace.agent.principalId.id == input.agentId &&
  workspace.human.principalId.id == input.humanId && workspace.agent.kind == .agent &&
  workspace.human.kind == .human && workspace.agent.publicKey == input.agentPublicKey &&
  workspace.human.publicKey == input.humanPublicKey

def validate (workspace : OperatorWorkspace) : Validation := do
  workspace.fingerprintInput.validate
  workspace.agent.validate H
  workspace.human.validate H
  let binding ← digestOnWire workspace.onWire (H.workspaceBinding { workspace with bindingDigest := .blank })
  reject (workspace.schema != schemaName || workspace.databaseName != "storage.db" ||
    !uuidIsV7 workspace.workspaceId || !workspace.principalsMatch || workspace.authEpoch != 1 ||
    workspace.policyRevision != 1 || decide (workspace.updatedAt < workspace.createdAt) ||
    workspace.workspaceFingerprint != H.workspace workspace.fingerprintInput ||
    workspace.bindingDigest != binding) .invalidSchema

end OperatorWorkspace

namespace SessionAuthorityBinding

def schemaName : String := "proof.operator.session.authority-binding/v1"

def ids (authority : SessionAuthorityBinding) : List Uuid :=
  [authority.sessionId, authority.workspaceId, authority.serverInstanceId, authority.humanId]

def validate (authority : SessionAuthorityBinding) : Validation :=
  reject (authority.schema != schemaName || !allV7 authority.ids || authority.authEpoch == 0 ||
    authority.policyRevision == 0 || !allSafe [authority.authEpoch, authority.policyRevision] ||
    authority.origin == "" || decide (authority.absoluteExpiresAt ≤ authority.issuedAt)) .invalidSchema

end SessionAuthorityBinding

namespace BudgetPolicy

def schemaName : String := "proof.operator.budget-policy/v1"

def onWire (policy : BudgetPolicy) : Bool :=
  allV7 [policy.budgetId, policy.workspaceId] && policy.limits.isSafe && timeOnWire policy.deadlineAt

def digest (policy : BudgetPolicy) : Except OperatorValidationError ControlDigest :=
  digestOnWire policy.onWire (H.budgetLimits { policy with limitsDigest := .blank })

def validate (policy : BudgetPolicy) : Validation := do
  let expected ← policy.digest H
  reject (policy.schema != schemaName || !allV7 [policy.budgetId, policy.workspaceId] ||
    !policy.limits.isSafe || policy.limitsDigest != expected) .invalidSchema

/-- The record with its own digest. -/
def sealed (policy : BudgetPolicy) : BudgetPolicy :=
  { policy with limitsDigest := H.budgetLimits { policy with limitsDigest := .blank } }

theorem validate_sealed {H : ControlHashes} {policy : BudgetPolicy} (hschema : policy.schema = schemaName)
    (hwire : policy.onWire = true) : (policy.sealed H).validate H = .ok () := by
  have hwire' : (policy.sealed H).onWire = true := hwire
  simp only [onWire, and_eq_true] at hwire
  simp only [validate, digest, hwire', digestOnWire]
  simp [sealed, hschema, hwire, bind_eq_ok]

theorem limits_safe {H : ControlHashes} {policy : BudgetPolicy} (h : policy.validate H = .ok ()) :
    policy.limits.isSafe = true := by
  simp only [validate, bind_eq_ok, reject_eq_ok, or_eq_false_iff, not_eq_false'] at h
  obtain ⟨-, -, ⟨-, hsafe⟩, -⟩ := h
  exact hsafe

end BudgetPolicy

/-- Below safe limits no addition overflows, so the check is on the sum of the amounts. -/
theorem fits_iff {a b limits : BudgetAmounts} {e : OperatorValidationError} (h : limits.isSafe = true) :
    (orReject (a.checkedAdd b) e >>= fun sum => reject (!sum.fitsWithin limits) e) = .ok () ↔ a + b ≤ limits := by
  simp only [bind_eq_ok, orReject_eq_ok, reject_eq_ok, not_eq_false']
  constructor
  · rintro ⟨sum, hsum, hfits⟩
    exact BudgetAmounts.eq_add_of_checkedAdd hsum ▸ hfits
  · intro hle
    exact ⟨_, BudgetAmounts.checkedAdd_eq_some (BudgetAmounts.isSafe_of_add_le (b := 0) (by rwa [add_zero]) h), hle⟩

namespace BudgetAccount

def schemaName : String := "proof-operator-budget-account/v1"

/-- Reserved and committed amounts stay within the limits, without overflow. -/
def validate (account : BudgetAccount) : Validation := do
  account.policy.validate H
  reject (account.schema != schemaName || !safeOnWire account.revision || !account.reserved.isSafe ||
    !account.committed.isSafe) .invalidSchema
  reject (decide (account.updatedAt < account.createdAt) || decide (account.policy.deadlineAt ≤ account.createdAt))
    .invalidChronology
  let used ← orReject (account.reserved.checkedAdd account.committed) .budgetExceeded
  reject (!used.fitsWithin account.policy.limits) .budgetExceeded

def canReserve (account : BudgetAccount) (requested : BudgetAmounts) (now : Instant) : Validation := do
  account.validate H
  reject (!requested.isSafe || account.state != .active || decide (account.policy.deadlineAt ≤ now)) .budgetExceeded
  let next ← orReject (account.reserved.checkedAdd requested) .budgetExceeded
  let combined ← orReject (next.checkedAdd account.committed) .budgetExceeded
  reject (!combined.fitsWithin account.policy.limits) .budgetExceeded

variable {H : ControlHashes} {account : BudgetAccount}

theorem validate_iff : account.validate H = .ok () ↔ account.policy.validate H = .ok () ∧
    (((account.schema = schemaName ∧ safeOnWire account.revision = true) ∧ account.reserved.isSafe = true) ∧
      account.committed.isSafe = true) ∧
    (account.createdAt ≤ account.updatedAt ∧ account.createdAt < account.policy.deadlineAt) ∧
    account.reserved + account.committed ≤ account.policy.limits := by
  rw [validate, seq_eq_ok, seq_eq_ok, seq_eq_ok]
  refine and_congr_right fun hpolicy => ?_
  rw [fits_iff (BudgetPolicy.limits_safe hpolicy)]
  simp only [reject_eq_ok, or_eq_false_iff, not_eq_false', bne_eq_false_iff_eq, decide_eq_false_iff_not,
    not_lt, not_le]

theorem canReserve_iff (requested : BudgetAmounts) (now : Instant) (h : account.validate H = .ok ()) :
    account.canReserve H requested now = .ok () ↔ account.state = .active ∧ requested.isSafe = true ∧
      now < account.policy.deadlineAt ∧ account.reserved + requested + account.committed ≤ account.policy.limits := by
  have hsafe := BudgetPolicy.limits_safe (validate_iff.mp h).1
  rw [canReserve, h, ok_bind, seq_eq_ok, bind_eq_ok]
  simp only [fits_iff hsafe, reject_eq_ok, or_eq_false_iff, not_eq_false', bne_eq_false_iff_eq,
    decide_eq_false_iff_not, not_le, orReject_eq_ok]
  constructor
  · rintro ⟨⟨⟨hrequested, hactive⟩, hnow⟩, next, hnext, hfits⟩
    exact ⟨hactive, hrequested, hnow, BudgetAmounts.eq_add_of_checkedAdd hnext ▸ hfits⟩
  · rintro ⟨hactive, hrequested, hnow, hfits⟩
    have hnext := BudgetAmounts.checkedAdd_eq_some (BudgetAmounts.isSafe_of_add_le hfits hsafe)
    exact ⟨⟨⟨hrequested, hactive⟩, hnow⟩, _, hnext, hfits⟩

end BudgetAccount

namespace RunControl

def schemaName : String := "proof-operator-run-control/v1"

def onWire (control : RunControl) : Bool :=
  allV7 ([control.runId, control.workspaceId, control.budgetId] ++ control.activeDispatchReservationId.toList ++
    control.recoveryDirectiveId.toList ++ control.lastCommandId.toList) &&
  safeOnWire control.controlRevision && allTimes [control.createdAt, control.updatedAt]

def digest (control : RunControl) : Except OperatorValidationError ControlDigest :=
  digestOnWire control.onWire (H.runBinding { control with bindingDigest := .blank })

def validate (control : RunControl) : Validation := do
  reject (control.schema != schemaName) .invalidSchema
  reject (!allV7 [control.runId, control.workspaceId, control.budgetId] || !safeOnWire control.controlRevision)
    .invalidRevision
  reject (control.recoveryDirectiveId.isSome != control.recoveryDirectiveDigest.isSome) .invalidBranch
  reject (!allV7 (control.activeDispatchReservationId.toList ++ control.recoveryDirectiveId.toList ++
      control.lastCommandId.toList) || decide (control.updatedAt < control.createdAt)) .invalidChronology
  let expected ← control.digest H
  reject (control.bindingDigest != expected) .invalidChronology

/-- The record with its own digest. -/
def sealed (control : RunControl) : RunControl :=
  { control with bindingDigest := H.runBinding { control with bindingDigest := .blank } }

theorem validate_sealed {H : ControlHashes} {control : RunControl} (hschema : control.schema = schemaName)
    (hwire : control.onWire = true)
    (hbranch : control.recoveryDirectiveId.isSome = control.recoveryDirectiveDigest.isSome)
    (htime : control.createdAt ≤ control.updatedAt) : (control.sealed H).validate H = .ok () := by
  have hwire' : (control.sealed H).onWire = true := hwire
  simp only [onWire, allV7, List.all_append, List.all_cons, List.all_nil, and_eq_true] at hwire
  simp only [validate, digest, hwire', digestOnWire]
  simp [sealed, hschema, hbranch, htime, allV7, hwire, bind_eq_ok]

theorem safe_of_validate {H : ControlHashes} {control : RunControl} (h : control.validate H = .ok ()) :
    safeOnWire control.controlRevision = true := by
  simp only [validate, bind_eq_ok, reject_eq_ok, or_eq_false_iff, not_eq_false'] at h
  obtain ⟨-, -, -, ⟨-, hsafe⟩, -⟩ := h
  exact hsafe

end RunControl

namespace RunLease

def schemaName : String := "proof.operator.run-lease/v1"

/-- A lease lives thirty seconds from its last renewal. -/
def duration : Int := 30 * 1000000000

def onWire (lease : RunLease) : Bool :=
  allV7 [lease.runId, lease.workspaceId, lease.leaseId, lease.ownerInstanceId, lease.processEpochId] &&
  allSafe [lease.fenceEpoch, lease.revision] &&
  allTimes ([lease.acquiredAt, lease.renewedAt, lease.expiresAt] ++ lease.releasedAt.toList)

def digest (lease : RunLease) : Except OperatorValidationError ControlDigest :=
  digestOnWire lease.onWire (H.lease { lease with leaseDigest := .blank })

/-- Renewals, expiry and release in order; a release falls before the expiry. -/
def chronological (lease : RunLease) : Bool :=
  decide (lease.acquiredAt ≤ lease.renewedAt) && decide (lease.renewedAt < lease.expiresAt) &&
  (lease.state == .active) == lease.releasedAt.isNone &&
  (lease.state != .active || lease.expiresAt - lease.renewedAt == duration) &&
  lease.releasedAt.all fun released => decide (lease.renewedAt ≤ released) && decide (released < lease.expiresAt)

def validate (lease : RunLease) : Validation := do
  reject (lease.schema != schemaName) .invalidSchema
  reject (lease.fenceEpoch == 0 || !allSafe [lease.fenceEpoch, lease.revision] ||
    !allV7 [lease.runId, lease.workspaceId, lease.leaseId, lease.ownerInstanceId, lease.processEpochId])
    .invalidRevision
  reject (!lease.chronological) .invalidChronology
  let expected ← lease.digest H
  reject (lease.leaseDigest != expected) .invalidSchema

/-- The record with its own digest. -/
def sealed (lease : RunLease) : RunLease := { lease with leaseDigest := H.lease { lease with leaseDigest := .blank } }

theorem validate_sealed {H : ControlHashes} {lease : RunLease} (hschema : lease.schema = schemaName)
    (hfence : lease.fenceEpoch ≠ 0) (hwire : lease.onWire = true) (hchronology : lease.chronological = true) :
    (lease.sealed H).validate H = .ok () := by
  have hwire' : (lease.sealed H).onWire = true := hwire
  have hchronology' : (lease.sealed H).chronological = true := hchronology
  simp only [onWire, and_eq_true] at hwire
  simp only [validate, digest, hwire', hchronology', digestOnWire]
  simp [sealed, hschema, hfence, hwire, bind_eq_ok]

end RunLease

namespace DispatchIntent

def schemaName : String := "proof.operator.dispatch-intent/v1"

def onWire (intent : DispatchIntent) : Bool := intent.ceiling.isSafe

def validate (intent : DispatchIntent) : Validation := do
  reject (intent.schema != schemaName || !validOperationName intent.operation ||
    !validOperationVersion intent.version || !validAdapterName intent.adapter ||
    intent.model.any fun model => !validModelName model) .invalidSchema
  reject (!intent.ceiling.isSafe || (intent.kind == .provider) != intent.model.isSome) .invalidBranch

end DispatchIntent

namespace ReplayClaimBinding

def schemaName : String := "proof.operator.replay-claim-binding/v1"

variable (binding : ReplayClaimBinding)

def ids : List Uuid :=
  [binding.workspaceId, binding.runId, binding.stepId, binding.checkpointId, binding.idempotencyKey,
    binding.claimedBy.id]

def onWire : Bool :=
  allV7 binding.ids && safeOnWire binding.checkpointSequence

def recomputedBindingDigest : Except OperatorValidationError ControlDigest :=
  digestOnWire binding.onWire (H.replayBinding { binding with bindingDigest := .blank })

def validate : Validation := do
  reject (binding.schema != schemaName || !allV7 binding.ids || !safeOnWire binding.checkpointSequence ||
    !validOperationName binding.operation || !validOperationVersion binding.version) .invalidSchema
  let expected ← binding.recomputedBindingDigest H
  reject (expected != binding.bindingDigest) .invalidSchema

end ReplayClaimBinding

namespace DispatchPermit

def schemaName : String := "proof.operator.dispatch-permit/v1"

def ids (permit : DispatchPermit) : List Uuid :=
  [permit.permitId, permit.runId, permit.reservationId, permit.leaseId, permit.processEpochId]

def onWire (permit : DispatchPermit) : Bool :=
  allV7 permit.ids && allSafe [permit.fenceEpoch, permit.expectedControlRevision] &&
  allTimes [permit.authorizedAt, permit.budgetDeadlineAt]

def validate (permit : DispatchPermit) : Validation := do
  reject (permit.schema != schemaName || !allV7 permit.ids || permit.fenceEpoch == 0 ||
    !allSafe [permit.fenceEpoch, permit.expectedControlRevision]) .invalidRevision
  reject (decide (permit.budgetDeadlineAt ≤ permit.authorizedAt)) .invalidChronology

end DispatchPermit

namespace RecoveryDirective

def schemaName : String := "proof.operator.recovery-directive/v1"

variable (directive : RecoveryDirective)

def ids : List Uuid :=
  [directive.directiveId, directive.workspaceId, directive.runId, directive.sourceLeaseId,
    directive.sourceReservationId, directive.sourceBudgetId, directive.sourceIdempotencyKey, directive.checkpointId]

def onWire : Bool :=
  allV7 directive.ids &&
  allSafe [directive.checkpointSequence, directive.sourceFenceEpoch, directive.sourceControlRevision] &&
  directive.replay.all ReplayClaimBinding.onWire && timeOnWire directive.createdAt

def digest : Except OperatorValidationError ControlDigest :=
  digestOnWire directive.onWire (H.recoveryDirective { directive with directiveDigest := .blank })

/-- A bound replay claim names the directive's own run and checkpoint. -/
def bindsReplay (binding : ReplayClaimBinding) : Bool :=
  binding.validate H matches .ok _ && binding.workspaceId == directive.workspaceId &&
  binding.runId == directive.runId && binding.checkpointId == directive.checkpointId &&
  binding.checkpointSequence == directive.checkpointSequence &&
  binding.checkpointDigest == directive.checkpointDigest

def validate : Validation := do
  reject (directive.schema != schemaName || !allV7 directive.ids || directive.sourceFenceEpoch == 0 ||
    !allSafe [directive.checkpointSequence, directive.sourceFenceEpoch, directive.sourceControlRevision] ||
    directive.replay.any fun binding => !directive.bindsReplay H binding) .invalidBranch
  let expected ← directive.digest H
  reject (directive.directiveDigest != expected) .invalidSchema

end RecoveryDirective

def ProofReference.validate (reference : ProofReference) : Validation :=
  reject (!allV7 [reference.proofId, reference.actorId] || !validOperationName reference.operation) .invalidSchema

namespace PreparedUsageRecord

def schemaName : String := "proof.operator.prepared-usage-body/v1"

/-- One boundary call: a provider call uses no tool, a tool call is one dispatch and no tokens. -/
def valid (usage : PreparedUsageRecord) : Bool :=
  usage.schema == schemaName && usage.boundaryCalls == 1 && usage.steps == 1 && validAdapterName usage.adapter &&
  usage.model.all validModelName && (usage.boundaryKind == .provider) == usage.model.isSome &&
  (usage.boundaryKind != .provider || usage.toolDispatches == 0) &&
  (usage.boundaryKind != .tool || usage.tokens == 0 && usage.costMicrousd == 0 && usage.toolDispatches == 1) &&
  allSafe [usage.tokens, usage.costMicrousd, usage.toolDispatches]

def onWire (usage : PreparedUsageRecord) : Bool :=
  allSafe [usage.boundaryCalls, usage.steps, usage.tokens, usage.costMicrousd, usage.toolDispatches]

end PreparedUsageRecord

namespace PreparedRuntimeResultBody

def schemaName : String := "proof.operator.prepared-runtime-result-body/v1"

variable (result : PreparedRuntimeResultBody)

def valid : Bool :=
  result.schema == schemaName && result.usage.valid &&
  (result.checkpointId.isNone && result.checkpointSequence.isNone && result.checkpointDigest.isNone ||
    result.checkpointId.isSome && result.checkpointSequence.isSome && result.checkpointDigest.isSome) &&
  result.checkpointId.all uuidIsV7 &&
  allSafe [result.runRevision, result.stepRevision, result.checkpointSequence.getD 0, result.firstEventSequence,
    result.lastEventSequence] &&
  decide (result.firstEventSequence ≤ result.lastEventSequence) &&
  result.outputDigest == result.usage.outputDigest && result.proof.validate matches .ok _

def onWire : Bool :=
  result.usage.onWire && allV7 ([result.proof.proofId, result.proof.actorId] ++ result.checkpointId.toList) &&
  allSafe ([result.runRevision, result.stepRevision, result.firstEventSequence, result.lastEventSequence] ++
    result.checkpointSequence.toList)

def digest : Except OperatorValidationError ControlDigest :=
  digestOnWire result.onWire (H.runtimeResult result)

end PreparedRuntimeResultBody

namespace PreparedExecutionBinding

def schemaName : String := "proof.operator.prepared-execution-binding/v1"

def valid (binding : PreparedExecutionBinding) : Bool :=
  binding.schema == schemaName && uuidIsV7 binding.executionContextId && binding.result.valid &&
  binding.result.digest H == .ok binding.resultDigest

end PreparedExecutionBinding

namespace RuntimeCommit

def schemaName : String := "proof.operator.runtime-commit/v1"

def onWire (commit : RuntimeCommit) : Bool :=
  commit.permit.onWire && uuidIsV7 commit.expectedCheckpointId && commit.actualCharge.isSafe &&
  allSafe [commit.expectedRunRevision, commit.expectedStepRevision, commit.expectedCheckpointSequence] &&
  timeOnWire commit.committedAt

def validate (commit : RuntimeCommit) : Validation :=
  reject (commit.schema != schemaName || !(commit.permit.validate matches .ok _) ||
    !allSafe [commit.expectedRunRevision, commit.expectedStepRevision, commit.expectedCheckpointSequence] ||
    !uuidIsV7 commit.expectedCheckpointId || !commit.actualCharge.isSafe ||
    decide (commit.committedAt < commit.permit.authorizedAt)) .invalidBranch

end RuntimeCommit

namespace BudgetReservation

def schemaName : String := "proof-operator-budget-reservation/v1"

variable (reservation : BudgetReservation)

def ids : List Uuid :=
  [reservation.reservationId, reservation.budgetId, reservation.runId, reservation.leaseId,
    reservation.idempotencyKey]

def onWire : Bool :=
  allV7 (reservation.ids ++ reservation.permitId.toList) && safeOnWire reservation.fenceEpoch &&
  reservation.intent.onWire && reservation.replay.all ReplayClaimBinding.onWire &&
  reservation.recovery.all RecoveryDirective.onWire && reservation.reserved.isSafe && reservation.charged.isSafe &&
  reservation.preparedBinding.all (fun binding => uuidIsV7 binding.executionContextId && binding.result.onWire) &&
  reservation.runtimeCommit.all RuntimeCommit.onWire &&
  allTimes ([reservation.createdAt] ++ reservation.dispatchStartedAt.toList ++ reservation.settledAt.toList)

/-- Nothing of a dispatch is recorded yet. -/
def preDispatchEmpty : Bool :=
  reservation.permitId.isNone && reservation.dispatchTokenDigest.isNone && reservation.callDigest.isNone &&
  reservation.preparedExecutionDigest.isNone && reservation.resultDigest.isNone &&
  reservation.preparedBinding.isNone && reservation.runtimeCommit.isNone && reservation.dispatchStartedAt.isNone

def dispatchIdentity : Bool :=
  reservation.permitId.isSome && reservation.dispatchTokenDigest.isSome && reservation.callDigest.isSome &&
  reservation.dispatchStartedAt.isSome

def noResult : Bool :=
  reservation.preparedExecutionDigest.isNone && reservation.resultDigest.isNone &&
  reservation.preparedBinding.isNone && reservation.runtimeCommit.isNone

/-- The fields each state of a reservation requires. -/
def branchValid : Bool :=
  match reservation.state with
  | .reserved => reservation.charged == .zero && reservation.preDispatchEmpty && reservation.settledAt.isNone
  | .released => reservation.charged == .zero && reservation.preDispatchEmpty && reservation.settledAt.isSome
  | .dispatching => reservation.charged == .zero && reservation.dispatchIdentity && reservation.noResult &&
      reservation.settledAt.isNone
  | .forfeited => reservation.charged == reservation.reserved && reservation.dispatchIdentity &&
      reservation.noResult && reservation.settledAt.isSome
  | .committed => reservation.dispatchIdentity && reservation.preparedExecutionDigest.isSome &&
      reservation.resultDigest.isSome && reservation.preparedBinding.isSome && reservation.runtimeCommit.isSome &&
      reservation.settledAt.isSome

def chronological : Bool :=
  (reservation.dispatchStartedAt.all fun start => decide (reservation.createdAt ≤ start)) &&
  reservation.settledAt.all fun settled => decide (reservation.createdAt ≤ settled) &&
    reservation.dispatchStartedAt.all fun start => decide (start ≤ settled)

/-- A committed reservation agrees with the commit and the prepared result it carries. -/
def commitMatches (commit : RuntimeCommit) (prepared : PreparedExecutionBinding) : Bool :=
  some commit.permit.permitId == reservation.permitId && commit.permit.reservationId == reservation.reservationId &&
  commit.permit.runId == reservation.runId && commit.permit.leaseId == reservation.leaseId &&
  commit.permit.fenceEpoch == reservation.fenceEpoch && commit.permit.intentDigest == reservation.intentDigest &&
  some commit.permit.callDigest == reservation.callDigest && commit.actualCharge == reservation.charged &&
  some commit.preparedExecutionDigest == reservation.preparedExecutionDigest &&
  some commit.resultDigest == reservation.resultDigest &&
  commit.preparedExecutionDigest == prepared.payloadDigest && commit.resultDigest == prepared.resultDigest

def validate : Validation := do
  reservation.intent.validate
  reject (reservation.schema != schemaName || !allV7 reservation.ids || reservation.fenceEpoch == 0 ||
    !safeOnWire reservation.fenceEpoch || reservation.kind != reservation.intent.kind ||
    (reservation.kind == .provider && reservation.replay.isSome) || !reservation.reserved.isSafe ||
    reservation.reserved != reservation.intent.ceiling || !reservation.charged.isSafe ||
    !reservation.charged.fitsWithin reservation.reserved || reservation.permitId.any (fun id => !uuidIsV7 id) ||
    reservation.replay.any (fun binding => !(binding.validate H matches .ok _)) ||
    reservation.recovery.any (fun directive => !(directive.validate H matches .ok _))) .invalidBranch
  let expected ← digestOnWire reservation.intent.onWire (H.dispatchIntent reservation.intent)
  reject (reservation.intentDigest != expected || reservation.recovery.any fun recovery =>
    recovery.runId != reservation.runId || recovery.intentDigest != reservation.intentDigest ||
      recovery.replay != reservation.replay) .invalidSchema
  reject (!reservation.branchValid || !reservation.chronological) .invalidBranch
  match reservation.runtimeCommit with
  | none => pure ()
  | some commit => do
    commit.validate
    let prepared ← orReject reservation.preparedBinding .invalidBranch
    reject (!prepared.valid H) .invalidBranch
    reject (!reservation.commitMatches commit prepared) .invalidBranch

theorem charged_le_of_validate {H : ControlHashes} {reservation : BudgetReservation}
    (h : reservation.validate H = .ok ()) : reservation.charged ≤ reservation.reserved := by
  simp only [validate, bind_eq_ok, reject_eq_ok] at h
  obtain ⟨-, -, -, hbranch, -⟩ := h
  simp only [or_eq_false_iff, not_eq_false'] at hbranch
  exact hbranch.1.1.1.2

end BudgetReservation

namespace ApprovalBinding

def ids (binding : ApprovalBinding) : List Uuid :=
  [binding.approvalRequestId, binding.workspaceId, binding.runId, binding.stepId, binding.checkpointId,
    binding.requiredHumanId]

def onWire (binding : ApprovalBinding) : Bool :=
  allV7 binding.ids && safeOnWire binding.checkpointSequence && timeOnWire binding.createdAt

end ApprovalBinding

namespace RunProjection

def schemaName : String := "proof-operator-run-projection/v1"

variable (projection : RunProjection)

def optionalIds : List Uuid :=
  projection.requiredHumanId.toList ++ projection.approvalRequestId.toList ++ projection.recoveryDirectiveId.toList

def revisions : List Nat :=
  [projection.projectionSequence, projection.projectionRevision, projection.sourceRunRevision,
    projection.sourceControlRevision, projection.checkpointSequence, projection.fenceEpoch]

def ids : List Uuid :=
  [projection.projectionId, projection.workspaceId, projection.runId, projection.checkpointId]

def onWire : Bool :=
  allV7 (projection.ids ++ projection.optionalIds) && allSafe projection.revisions &&
  timeOnWire projection.projectedAt

def digest : Except OperatorValidationError ControlDigest :=
  digestOnWire projection.onWire (H.runProjection { projection with snapshotDigest := .blank })

/-- Attention, run status and the fields they need agree. -/
def attentionValid : Bool :=
  let noApproval := projection.requiredHumanId.isNone && projection.approvalRequestId.isNone
  let noRecovery := projection.recoveryDirectiveId.isNone && projection.recoveryDirectiveDigest.isNone
  match projection.attention with
  | .awaitingDecision => projection.runStatus == .waitingForInput && projection.requiredHumanId.isSome &&
      projection.approvalRequestId.isSome && noRecovery
  | .recoverable => projection.runStatus == .failed && noApproval && projection.recoveryDirectiveId.isSome &&
      projection.recoveryDirectiveDigest.isSome
  | .running => (projection.runStatus == .queued || projection.runStatus == .running) && noApproval && noRecovery
  | .terminal => projection.runStatus.isTerminal && noApproval && noRecovery

def validate : Validation := do
  reject (projection.schema != schemaName || projection.projectionSequence == 0 || !allSafe projection.revisions ||
    !allV7 (projection.ids ++ projection.optionalIds)) .invalidRevision
  reject (!projection.attentionValid) .invalidBranch
  let expected ← projection.digest H
  reject (projection.snapshotDigest != expected) .invalidSchema

/-- The record with its own digest. -/
def sealed : RunProjection :=
  { projection with snapshotDigest := H.runProjection { projection with snapshotDigest := .blank } }

theorem validate_sealed {H : ControlHashes} {projection : RunProjection} (hschema : projection.schema = schemaName)
    (hsequence : projection.projectionSequence ≠ 0) (hwire : projection.onWire = true)
    (hattention : projection.attentionValid = true) : (projection.sealed H).validate H = .ok () := by
  have hwire' : (projection.sealed H).onWire = true := hwire
  have hattention' : (projection.sealed H).attentionValid = true := hattention
  simp only [onWire, and_eq_true] at hwire
  have hids : allV7 ((projection.sealed H).ids ++ (projection.sealed H).optionalIds) = true := hwire.1.1
  have hrevisions : allSafe (projection.sealed H).revisions = true := hwire.1.2
  simp only [validate, digest, hwire', hattention', hids, hrevisions, digestOnWire]
  simp [sealed, hschema, hsequence, bind_eq_ok]

end RunProjection

end ProofPlatform.Operator
