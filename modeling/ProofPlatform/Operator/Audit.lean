import ProofPlatform.Operator.Validation

/-! The operator audit chain: which fields each kind of event carries, and the check of an event. -/
namespace ProofPlatform.Operator
open Kernel Library.Fallible

namespace AuditEvent
variable (H : ControlHashes)

def schemaName : String := "proof.operator.audit-event/v1"

variable (event : AuditEvent)

/-- The presence of the optional fields, lowest bit first. -/
def profileMask : Nat :=
  let present := [
    event.humanId.isSome, event.sessionId.isSome, event.challengeId.isSome, event.relatedSessionId.isSome,
    event.serverInstanceId.isSome, event.runId.isSome, event.approvalRequestId.isSome, event.commandId.isSome,
    event.commandKind.isSome, event.budgetId.isSome, event.reservationId.isSome, event.leaseId.isSome,
    event.sourceLeaseId.isSome, event.processEpochId.isSome, event.permitId.isSome,
    event.recoveryDirectiveId.isSome, event.fenceEpoch.isSome, event.authEpoch.isSome,
    event.policyRevision.isSome, event.intentDigest.isSome, event.callDigest.isSome, event.decisionDigest.isSome,
    event.recoveryDirectiveDigest.isSome, event.failureScope.isSome, event.proof.isSome]
  present.foldr (fun bit mask => bit.toNat + 2 * mask) 0

def proofOperationIs (operation : String) : Bool :=
  event.proof.any fun proof => proof.operation == operation

def validCommandProfile (mask : Nat) : Bool :=
  match event.commandKind with
  | some .approvalDecide => mask == 0x1e3
  | some .runCancel => mask == 0x1a3
  | some .runResume => mask == 0x2001e3 || mask == 0x4081a3
  | some .sessionRevoke => mask == 0x183
  | none => false

def validFailureProfile (mask : Nat) : Bool :=
  event.outcome == .failed &&
  match event.failureScope, event.commandKind with
  | some .workspace, none => mask == 0x800010
  | some .storage, none => mask == 0x800010
  | some .command, some .approvalDecide => mask == 0x8001f3
  | some .command, some .runCancel => mask == 0x8001b3
  | some .command, some .runResume => mask == 0xe081f3
  | some .command, some .sessionRevoke => mask == 0x800193
  | some .runtime, none => mask == 0x996e30
  | _, _ => false

/-- A rejected fence names its command's fields and a nonzero fence. -/
def validStaleFenceProfile (mask : Nat) : Bool :=
  event.outcome == .rejected && (event.fenceEpoch.any fun fence => fence != 0) &&
  match event.commandKind with
  | some .approvalDecide => mask == 0x101e3
  | some .runCancel => mask == 0x101a3
  | some .runResume => mask == 0x2101e3 || mask == 0x4181a3
  | _ => false

/-- The outcome and the exact set of fields that each kind requires. -/
def validProfile : Bool :=
  let mask := event.profileMask
  let accepted := event.outcome == .accepted
  match event.kind with
  | .sessionChallengeIssued => accepted && mask == 0x60015
  | .sessionIssued => accepted && mask == 0x60017
  | .sessionReplaced => accepted && mask == 0x6001f
  | .sessionRevoked => accepted && mask == 0x1060193 && event.commandKind == some .sessionRevoke &&
      event.proofOperationIs "operator.session_revoke"
  | .sessionExpired => event.outcome == .expired && mask == 0x60013
  | .approvalDecided => accepted && mask == 0x12001e3 && event.commandKind == some .approvalDecide &&
      event.proofOperationIs "operator.approval_decide"
  | .approvalExpired => event.outcome == .expired && mask == 0x60
  | .runCancelled => accepted && mask == 0x10001a3 && event.commandKind == some .runCancel &&
      event.proofOperationIs "operator.run_cancel"
  | .runResumed => accepted && (mask == 0x12001e3 || mask == 0x141a9a3) && event.commandKind == some .runResume &&
      event.proofOperationIs "operator.run_resume"
  | .leaseAcquired | .leaseRenewed | .leaseReleased => accepted && mask == 0x12830
  | .leaseReclaimed => accepted && (mask == 0x13830 || mask == 0x49b830 || mask == 0x49bc30)
  | .staleFenceRejected => event.validStaleFenceProfile mask
  | .budgetReserved | .budgetReleased => accepted && mask == 0x90e20
  | .budgetCommitted => accepted && mask == 0x194e20
  | .budgetForfeited => event.outcome == .failed && mask == 0x194e20
  | .budgetRejected => event.outcome == .rejected && mask == 0x90e20
  | .dispatchAuthorized => accepted && mask == 0x196e30
  | .runtimeResultCommitted => accepted && mask == 0x1196e30
  | .recoveryStarted => accepted && mask == 0x499430
  | .recoveryCompleted => accepted && mask == 0x49bc30
  | .controlShutdown => accepted && mask == 0x10
  | .commandRejected => event.outcome == .rejected && event.validCommandProfile mask
  | .commandConflict => event.outcome == .conflict && event.validCommandProfile mask
  | .controlFailure => event.validFailureProfile mask

def optionalIds : List Uuid :=
  [event.humanId, event.sessionId, event.challengeId, event.relatedSessionId, event.serverInstanceId, event.runId,
    event.approvalRequestId, event.commandId, event.budgetId, event.reservationId, event.leaseId,
    event.sourceLeaseId, event.processEpochId, event.permitId, event.recoveryDirectiveId].reduceOption

def onWire : Bool :=
  allV7 ([event.workspaceId, event.eventId] ++ event.optionalIds) &&
  allSafe (event.sequence :: [event.fenceEpoch, event.authEpoch, event.policyRevision].reduceOption) &&
  (event.proof.all fun proof => allV7 [proof.proofId, proof.actorId]) && timeOnWire event.occurredAt

def digest : Except OperatorValidationError ControlDigest :=
  digestOnWire event.onWire (H.auditEvent { event with eventDigest := .blank })

def challengeKind : AuditEventKind → Bool
  | .sessionChallengeIssued | .sessionIssued | .sessionReplaced => true
  | _ => false

def validateChainLink (expectedSequence : Nat) (expectedPrevious : Option ControlDigest) : Validation := do
  reject (event.schema != schemaName || event.sequence != expectedSequence || event.sequence == 0 ||
    event.previousDigest != expectedPrevious || (event.sequence == 1) != event.previousDigest.isNone)
    .invalidChronology
  reject (!allV7 ([event.workspaceId, event.eventId] ++ event.optionalIds) ||
    !allSafe [event.fenceEpoch, event.authEpoch, event.policyRevision].reduceOption ||
    ([event.authEpoch, event.policyRevision].reduceOption.any fun value => value == 0) ||
    event.proof.any fun proof => !(proof.validate matches .ok _)) .invalidUuid
  reject (event.sessionId.isSome != event.sessionAuthorityDigest.isSome) .invalidBranch
  reject (challengeKind event.kind != event.challengeDigest.isSome) .invalidBranch
  reject (!event.validProfile) .invalidBranch
  let expected ← event.digest H
  reject (expected != event.eventDigest) .invalidSchema

variable {event : AuditEvent} {sequence : Nat} {previous : Option ControlDigest} {u : Unit}

theorem validProfile_of_validateChainLink (h : event.validateChainLink H sequence previous = .ok u) :
    event.validProfile = true := by
  simp only [validateChainLink, bind_eq_ok, reject_eq_ok, exists_const] at h
  simpa using h.2.2.2.2.1

theorem link_of_validateChainLink (h : event.validateChainLink H sequence previous = .ok u) :
    event.sequence = sequence ∧ event.previousDigest = previous := by
  simp only [validateChainLink, bind_eq_ok, reject_eq_ok, exists_const, Bool.or_eq_false_iff, bne_eq_false_iff_eq] at h
  obtain ⟨⟨⟨⟨⟨-, hsequence⟩, -⟩, hprevious⟩, -⟩, -⟩ := h
  exact ⟨hsequence, hprevious⟩

/-- An event with no optional field set. -/
def base (workspaceId eventId : Uuid) (kind : AuditEventKind) (outcome : AuditOutcome) (occurredAt : Instant) :
    AuditEvent where
  schema := schemaName
  workspaceId := workspaceId
  eventId := eventId
  sequence := 1
  kind := kind
  outcome := outcome
  eventDigest := .blank
  occurredAt := occurredAt

end AuditEvent

def authorityEventKind : ControlAuthorityEventKind → AuditEventKind
  | .controlShutdown => .controlShutdown
  | .sessionChallengeIssued => .sessionChallengeIssued
  | .sessionExpired => .sessionExpired
  | .sessionIssued => .sessionIssued
  | .sessionReplaced => .sessionReplaced

def authorityEventOutcome (kind : ControlAuthorityEventKind) : AuditOutcome :=
  if kind = .sessionExpired then .expired else .accepted

/-- The event that the authority asks for, before it is linked. -/
def ControlAuditAppendRequest.event (request : ControlAuditAppendRequest) (eventId : Uuid) (now : Instant) :
    AuditEvent :=
  { AuditEvent.base request.workspaceId eventId (authorityEventKind request.kind)
      (authorityEventOutcome request.kind) now with
    humanId := request.humanId
    sessionId := request.sessionId
    challengeId := request.challengeId
    challengeDigest := request.challengeDigest
    sessionAuthorityDigest := request.sessionAuthorityDigest
    relatedSessionId := request.relatedSessionId
    serverInstanceId := some request.serverInstanceId
    authEpoch := request.authEpoch
    policyRevision := request.policyRevision }

end ProofPlatform.Operator
