import ProofPlatform.Operator.Database

/-! Operator commands: what each kind names and requires, and the validators of commands and receipts. -/
namespace ProofPlatform.Operator
open Kernel Library.Fallible

variable (H : ControlHashes)

namespace CommandBinding

def ids (binding : CommandBinding) : List Uuid :=
  [binding.commandId, binding.idempotencyKey, binding.workspaceId, binding.serverInstanceId, binding.sessionId,
    binding.humanId]

def validate (binding : CommandBinding) : Validation := do
  reject (!allV7 binding.ids) .invalidUuid
  reject (binding.authEpoch != 1 || binding.policyRevision != 1) .invalidRevision

end CommandBinding

/-- The checks shared by the commands on a run: their schema, a nonzero fence and the binding. -/
def validateRunCommand (schema expected : String) (fenceEpoch : Nat) (binding : CommandBinding) : Validation := do
  reject (schema != expected || fenceEpoch == 0) .invalidRevision
  binding.validate

namespace ApprovalDecisionCommand

def schemaName : String := "proof.operator.command.approval-decision/v1"

def validate (command : ApprovalDecisionCommand) : Validation :=
  validateRunCommand command.schema schemaName command.expectedFenceEpoch command.binding

end ApprovalDecisionCommand

namespace RunCancelCommand

def schemaName : String := "proof.operator.command.run-cancel/v1"

def validate (command : RunCancelCommand) : Validation :=
  validateRunCommand command.schema schemaName command.expectedFenceEpoch command.binding

end RunCancelCommand

namespace RunResumeCommand

def schemaName : String := "proof.operator.command.run-resume/v1"

/-- A resume follows a decision or a recovery directive, not both. -/
def validate (command : RunResumeCommand) : Validation := do
  validateRunCommand command.schema schemaName command.expectedFenceEpoch command.binding
  let approval := command.approvalRequestId.isSome && command.decisionDigest.isSome &&
    command.recoveryDirectiveId.isNone && command.recoveryDirectiveDigest.isNone
  let recovery := command.approvalRequestId.isNone && command.decisionDigest.isNone &&
    command.recoveryDirectiveId.isSome && command.recoveryDirectiveDigest.isSome
  reject (approval == recovery) .invalidBranch

end RunResumeCommand

def SessionRevokeRequest.schemaName : String := "proof.operator.command.session-revoke/v1"

namespace CommandKind

/-- The operation of the proof that an applied command is given. -/
def operation : CommandKind → String
  | .approvalDecide => "operator.approval_decide"
  | .runCancel => "operator.run_cancel"
  | .runResume => "operator.run_resume"
  | .sessionRevoke => "operator.session_revoke"

def route : CommandKind → OperatorMutationRoute
  | .approvalDecide => .approvalDecide
  | .runCancel => .runCancel
  | .runResume => .runResume
  | .sessionRevoke => .sessionRevoke

def expectedCapabilities : CommandKind → List Capability
  | .approvalDecide => [.approvalDecide, .approvalRead]
  | .runCancel => [.runCancel, .runRead]
  | .runResume => [.runRead, .runResume]
  | .sessionRevoke => []

end CommandKind

/-- What a command names and expects, in the columns it is stored with. -/
structure CommandShape where
  kind : CommandKind
  targetRunId : Option Uuid := none
  targetStepId : Option Uuid := none
  approvalRequestId : Option Uuid := none
  expectedRunRevision : Option Nat := none
  expectedStepRevision : Option Nat := none
  expectedControlRevision : Option Nat := none
  expectedCheckpointId : Option Uuid := none
  expectedCheckpointSequence : Option Nat := none
  expectedFenceEpoch : Option Nat := none
  recoveryDirectiveId : Option Uuid := none
  recoveryDirectiveDigest : Option ControlDigest := none
  decisionDigest : Option ContentDigest := none

namespace CommandShape

def ids (shape : CommandShape) : List Uuid :=
  [shape.targetRunId, shape.targetStepId, shape.approvalRequestId, shape.expectedCheckpointId,
    shape.recoveryDirectiveId].reduceOption

def revisions (shape : CommandShape) : List Nat :=
  [shape.expectedRunRevision, shape.expectedStepRevision, shape.expectedControlRevision,
    shape.expectedCheckpointSequence, shape.expectedFenceEpoch].reduceOption

end CommandShape

namespace OperatorCommand

def shape : OperatorCommand → CommandShape
  | .approvalDecision command =>
    { kind := .approvalDecide
      targetRunId := some command.runId
      targetStepId := some command.stepId
      approvalRequestId := some command.approvalRequestId
      expectedRunRevision := some command.expectedRunRevision
      expectedStepRevision := some command.expectedStepRevision
      expectedControlRevision := some command.expectedControlRevision
      expectedCheckpointId := some command.expectedCheckpointId
      expectedCheckpointSequence := some command.expectedCheckpointSequence
      expectedFenceEpoch := some command.expectedFenceEpoch }
  | .runCancel command =>
    { kind := .runCancel
      targetRunId := some command.runId
      expectedRunRevision := some command.expectedRunRevision
      expectedControlRevision := some command.expectedControlRevision
      expectedFenceEpoch := some command.expectedFenceEpoch }
  | .runResume command =>
    { kind := .runResume
      targetRunId := some command.runId
      targetStepId := some command.stepId
      approvalRequestId := command.approvalRequestId
      expectedRunRevision := some command.expectedRunRevision
      expectedStepRevision := some command.expectedStepRevision
      expectedControlRevision := some command.expectedControlRevision
      expectedCheckpointId := some command.expectedCheckpointId
      expectedCheckpointSequence := some command.expectedCheckpointSequence
      expectedFenceEpoch := some command.expectedFenceEpoch
      recoveryDirectiveId := command.recoveryDirectiveId
      recoveryDirectiveDigest := command.recoveryDirectiveDigest
      decisionDigest := command.decisionDigest }
  | .sessionRevoke _ =>
    { kind := .sessionRevoke }

def kind (command : OperatorCommand) : CommandKind := command.shape.kind

def validate : OperatorCommand → Validation
  | .approvalDecision command => command.validate
  | .runCancel command => command.validate
  | .runResume command => command.validate
  | .sessionRevoke command => do
    reject (command.schema != SessionRevokeRequest.schemaName) .invalidSchema
    command.binding.validate

def onWire (command : OperatorCommand) : Bool :=
  allV7 (command.binding.ids ++ command.shape.ids) &&
  allSafe ([command.binding.authEpoch, command.binding.policyRevision] ++ command.shape.revisions)

def digest (command : OperatorCommand) : Except OperatorValidationError ControlDigest :=
  digestOnWire command.onWire (H.command command)

end OperatorCommand

namespace CommandEnvelope

def schemaName : String := "proof.operator.command-envelope/v1"

def onWire (envelope : CommandEnvelope) : Bool := envelope.command.onWire && timeOnWire envelope.requestedAt

end CommandEnvelope

variable (receipt : CommandReceipt)

namespace CommandReceipt

def schemaName : String := "proof.operator.command-receipt/v1"

def ids : List Uuid :=
  [receipt.receiptId, receipt.commandId, receipt.idempotencyKey, receipt.workspaceId, receipt.humanId,
    receipt.auditEventId] ++ [receipt.targetRunId, receipt.approvalRequestId, receipt.decisionId].reduceOption

def revisions : List Nat :=
  [receipt.observedRunRevision, receipt.resultingRunRevision, receipt.resultingStepRevision,
    receipt.resultingControlRevision, receipt.resultingFenceEpoch].reduceOption

def onWire : Bool :=
  allV7 receipt.ids && allSafe (receipt.auditSequence :: receipt.revisions) &&
  (receipt.proof.all fun proof => allV7 [proof.proofId, proof.actorId]) && timeOnWire receipt.completedAt

def digest : Except OperatorValidationError ControlDigest :=
  digestOnWire receipt.onWire (H.commandReceipt { receipt with receiptDigest := .blank })

/-- The run fields that every receipt of a command on a run has. -/
def namesRun : Bool :=
  receipt.targetRunId.isSome && receipt.observedRunRevision.isSome && receipt.resultingRunRevision.isSome &&
  receipt.resultingControlRevision.isSome && receipt.resultingFenceEpoch.isSome

def proves : Bool :=
  receipt.proof.any fun proof => proof.operation == receipt.kind.operation

/-- The fields that each kind of command leaves in its receipt. -/
def branchValid : Bool :=
  match receipt.kind with
  | .approvalDecide => receipt.outcome == .applied && receipt.namesRun && receipt.approvalRequestId.isSome &&
      receipt.resultingStepRevision.isSome && receipt.decisionId.isSome && receipt.proves
  | .runCancel => receipt.namesRun && receipt.approvalRequestId.isNone && receipt.resultingStepRevision.isNone &&
      receipt.decisionId.isNone && (receipt.outcome == .alreadyTerminal || receipt.proves) &&
      (receipt.outcome != .alreadyTerminal || receipt.resultingRunRevision == receipt.observedRunRevision)
  | .runResume => receipt.outcome == .applied && receipt.namesRun && receipt.resultingStepRevision.isSome &&
      receipt.approvalRequestId.isSome == receipt.decisionId.isSome && receipt.proves
  | .sessionRevoke => receipt.outcome == .applied &&
      [receipt.targetRunId, receipt.approvalRequestId, receipt.decisionId].reduceOption.isEmpty &&
      receipt.revisions.isEmpty && receipt.proves

def validate : Validation := do
  reject (receipt.schema != schemaName || receipt.auditSequence == 0 || !safeOnWire receipt.auditSequence ||
    !allV7 receipt.ids || !allSafe receipt.revisions) .invalidRevision
  reject ((receipt.outcome == .applied) != receipt.proof.isSome) .invalidBranch
  reject (receipt.decisionId.isSome != receipt.decisionDigest.isSome) .invalidBranch
  reject (!receipt.branchValid) .invalidBranch
  let expected ← receipt.digest H
  reject (receipt.receiptDigest != expected) .invalidSchema

end CommandReceipt

namespace ControlTransitionOutcome

def schemaName : String := "proof.operator.control-transition-outcome/v1"

variable (transition : ControlTransitionOutcome)

def ids : List Uuid :=
  transition.commandId :: [transition.targetRunId, transition.approvalRequestId].reduceOption

def revisions : List Nat :=
  [transition.resultingRunRevision, transition.resultingStepRevision, transition.resultingControlRevision,
    transition.resultingFenceEpoch].reduceOption

def onWire : Bool :=
  allV7 transition.ids && allSafe transition.revisions && timeOnWire transition.completedAt

def namesRun : Bool :=
  transition.targetRunId.isSome && transition.resultingRunRevision.isSome &&
  transition.resultingControlRevision.isSome && transition.resultingFenceEpoch.isSome

def branchValid : Bool :=
  transition.proofOperation == transition.kind &&
  match transition.kind with
  | .approvalDecide => transition.namesRun && transition.approvalRequestId.isSome &&
      transition.resultingStepRevision.isSome && transition.decisionDigest.isSome
  | .runCancel => transition.namesRun && transition.approvalRequestId.isNone &&
      transition.resultingStepRevision.isNone && transition.decisionDigest.isNone
  | .runResume => transition.namesRun && transition.resultingStepRevision.isSome &&
      transition.approvalRequestId.isSome == transition.decisionDigest.isSome
  | .sessionRevoke => [transition.targetRunId, transition.approvalRequestId].reduceOption.isEmpty &&
      transition.revisions.isEmpty && transition.decisionDigest.isNone

def validate : Validation := do
  reject (transition.schema != schemaName || !allV7 transition.ids || !allSafe transition.revisions) .invalidRevision
  reject (!transition.branchValid) .invalidBranch

end ControlTransitionOutcome

/-! ### Recorded commands -/

def CommandEnvelope.binding (envelope : CommandEnvelope) : CommandBinding := envelope.command.binding

/-- Two envelopes that the unique indexes over commands do not let stand together. -/
def commandsClash (row envelope : CommandEnvelope) : Bool :=
  decide (row.binding.commandId = envelope.binding.commandId) || decide (row.requestDigest = envelope.requestDigest) ||
  decide (row.binding.workspaceId = envelope.binding.workspaceId ∧ row.binding.humanId = envelope.binding.humanId ∧
    row.binding.idempotencyKey = envelope.binding.idempotencyKey)

/-- Two receipts that the unique indexes over receipts do not let stand together. -/
def receiptsClash (row receipt : CommandReceipt) : Bool :=
  decide (row.receiptId = receipt.receiptId) || decide (row.commandId = receipt.commandId) ||
  decide (row.receiptDigest = receipt.receiptDigest)

/-- The checks of a recorded command; only a revocation's schema is reported as invalid. -/
def validateOperatorCommand : OperatorCommand → Except OperatorStoreError Unit
  | .sessionRevoke command => do
    reject (command.schema != SessionRevokeRequest.schemaName) .invalid
    command.binding.validate.mapError fun _ => .corrupt
  | command => command.validate.mapError fun _ => .corrupt

def validateCommandReceiptBinding (envelope : CommandEnvelope) : Except OperatorStoreError Unit := do
  (receipt.validate H).mapError fun _ => .corrupt
  validateOperatorCommand envelope.command
  let binding := envelope.binding
  let expected ← (envelope.command.digest H).mapError fun _ => .corrupt
  reject (envelope.schema != CommandEnvelope.schemaName || envelope.requestDigest != expected ||
    receipt.requestDigest != expected || receipt.commandId != binding.commandId ||
    receipt.idempotencyKey != binding.idempotencyKey || receipt.workspaceId != binding.workspaceId ||
    receipt.humanId != binding.humanId || receipt.kind != envelope.command.kind) .corrupt

/-! ### Base64url -/

def base64Alphabet : List Char := "ABCDEFGHIJKLMNOPQRSTUVWXYZabcdefghijklmnopqrstuvwxyz0123456789-_".toList

def base64Digit (bits position : Nat) : Char := base64Alphabet.getD (bits / 2 ^ position % 64) 'A'

/-- Three octets to four characters; a shorter last chunk to as many as it fills. -/
def base64url : List (BitVec 8) → List Char
  | [] => []
  | [a] => let bits := a.toNat * 2 ^ 16; [base64Digit bits 18, base64Digit bits 12]
  | [a, b] =>
    let bits := a.toNat * 2 ^ 16 + b.toNat * 2 ^ 8
    [base64Digit bits 18, base64Digit bits 12, base64Digit bits 6]
  | a :: b :: c :: rest =>
    let bits := a.toNat * 2 ^ 16 + b.toNat * 2 ^ 8 + c.toNat
    base64Digit bits 18 :: base64Digit bits 12 :: base64Digit bits 6 :: base64Digit bits 0 :: base64url rest

/-- Decode from left to right, with the bits that do not fill an octet yet. -/
def decodeDigits : List Char → (accumulator bits : Nat) → Option (List (BitVec 8) × Nat × Nat)
  | [], accumulator, bits => some ([], accumulator, bits)
  | c :: rest, accumulator, bits => do
    let digit ← base64Alphabet.idxOf? c
    let accumulator := accumulator * 64 + digit
    let bits := bits + 6
    if 8 ≤ bits then
      let (octets, left) ← decodeDigits rest (accumulator % 2 ^ (bits - 8)) (bits - 8)
      pure (BitVec.ofNat 8 (accumulator / 2 ^ (bits - 8)) :: octets, left)
    else decodeDigits rest accumulator bits

/-- Only the text that the octets encode to is accepted. -/
def decodeBase64url (value : String) : Option (List (BitVec 8)) := do
  guard (value ≠ "")
  let (octets, accumulator, bits) ← decodeDigits value.toList 0 0
  guard (bits < 6 ∧ accumulator = 0 ∧ base64url octets = value.toList)
  pure octets

theorem idxOf_base64Digit (bits position : Nat) :
    base64Alphabet.idxOf? (base64Digit bits position) = some (bits / 2 ^ position % 64) := by
  have hindex : ∀ digit < 64, base64Alphabet.idxOf? (base64Alphabet.getD digit 'A') = some digit := by decide
  exact hindex _ (Nat.mod_lt _ (by decide))

/-- The octets come back chunk by chunk, and nothing is left over but zero bits. -/
theorem decodeDigits_base64url (octets : List (BitVec 8)) :
    ∃ bits < 6, decodeDigits (base64url octets) 0 0 = some (octets, 0, bits) := by
  have hoctet {value : Nat} {octet : BitVec 8} (h : value = octet.toNat) : BitVec.ofNat 8 value = octet := by
    rw [h, BitVec.ofNat_toNat, BitVec.setWidth_eq]
  fun_induction base64url with
  | case1 => exact ⟨0, by decide, rfl⟩
  | case2 a =>
    have ha := a.isLt
    refine ⟨4, by decide, ?_⟩
    simp [decodeDigits, idxOf_base64Digit]
    exact ⟨hoctet (by omega), by omega⟩
  | case3 a b =>
    have ha := a.isLt
    have hb := b.isLt
    refine ⟨2, by decide, ?_⟩
    simp [decodeDigits, idxOf_base64Digit]
    exact ⟨⟨hoctet (by omega), hoctet (by omega)⟩, by omega⟩
  | case4 a b c rest _ ih =>
    obtain ⟨left, hleft, hrest⟩ := ih
    have ha := a.isLt
    have hb := b.isLt
    have hc := c.isLt
    refine ⟨left, hleft, ?_⟩
    simp [decodeDigits, idxOf_base64Digit, Nat.mod_one, hrest]
    exact ⟨hoctet (by omega), hoctet (by omega), hoctet (by omega)⟩

/-- Octets come back from their text unless it is empty; an accepted text is the one they encode to. -/
theorem base64url_inverse (octets : List (BitVec 8)) :
    decodeBase64url (.ofList (base64url octets)) = (if octets = [] then none else some octets) ∧
      ∀ value, decodeBase64url value = some octets → String.ofList (base64url octets) = value := by
  constructor
  · obtain ⟨bits, hbits, hdecode⟩ := decodeDigits_base64url octets
    by_cases hvalue : String.ofList (base64url octets) = ""
    · rw [← String.toList_inj, String.toList_ofList] at hvalue
      rw [show String.toList "" = [] from rfl] at hvalue
      rw [hvalue] at hdecode
      cases hdecode
      rfl
    · have hsome : octets ≠ [] := by
        rintro rfl
        exact hvalue rfl
      simp [decodeBase64url, hvalue, hdecode, hbits, hsome]
  · intro value h
    simp only [decodeBase64url, Option.bind_eq_bind, Option.bind_eq_some_iff] at h
    obtain ⟨-, -, ⟨_, _, _⟩, -, _, hcanonical, h⟩ := h
    cases h
    simp only [Option.guard_eq_some'] at hcanonical
    rw [hcanonical.2.2, String.ofList_toList]

/-- No octets have a text that is not decoded. -/
theorem base64url_empty_refused : decodeBase64url (.ofList (base64url [])) ≠ some [] := by decide

end ProofPlatform.Operator
