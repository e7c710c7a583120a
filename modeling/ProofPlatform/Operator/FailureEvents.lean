import Mathlib.Data.List.ReduceOption
import ProofPlatform.Operator.Recovery

/-! The audit events of failed commands, whose check asks for fields that some commands lack. -/
namespace ProofPlatform.Operator
open Kernel Library Fallible List Transaction Tx AuditEvent

/-- The event that another command under a used key is noted with. -/
def conflictEvent (command : OperatorCommand) (requestDigest : ControlDigest) (now : Instant) (eventId : Uuid) :
    AuditEvent :=
  commandEvent (command.envelope requestDigest now) .commandConflict .conflict command.shape false none now eventId

/-- A valid resume follows a decision or a directive, and names the one with its digest. -/
theorem RunResumeCommand.branch_of_validate {command : RunResumeCommand} (h : command.validate = .ok ()) :
    (∃ requestId digest, command.approvalRequestId = some requestId ∧ command.decisionDigest = some digest ∧
      command.recoveryDirectiveId = none ∧ command.recoveryDirectiveDigest = none) ∨
    ∃ directiveId digest, command.approvalRequestId = none ∧ command.decisionDigest = none ∧
      command.recoveryDirectiveId = some directiveId ∧ command.recoveryDirectiveDigest = some digest := by
  simp only [RunResumeCommand.validate, bind_eq_ok, reject_eq_ok, exists_unit] at h
  obtain ⟨-, hbranch⟩ := h
  cases hrequest : command.approvalRequestId <;> cases hdecision : command.decisionDigest <;>
    cases hdirective : command.recoveryDirectiveId <;> cases hdigest : command.recoveryDirectiveDigest <;>
    simp [hrequest, hdecision, hdirective, hdigest] at hbranch ⊢

/-- The ways an attempted command fails. -/
inductive CommandFailure where
  | rejected | conflict | staleFence | control
  deriving DecidableEq

/-- The event of a command's failure: a stale fence is noted with the expected fence, a failure of the control plane
with its server and scope. -/
def failureEvent (failure : CommandFailure) (command : OperatorCommand) (requestDigest : ControlDigest) (now : Instant)
    (eventId : Uuid) : AuditEvent :=
  let event (kind : AuditEventKind) (outcome : AuditOutcome) :=
    commandEvent (command.envelope requestDigest now) kind outcome command.shape false none now eventId
  match failure with
  | .rejected => event .commandRejected .rejected
  | .conflict => conflictEvent command requestDigest now eventId
  | .staleFence => { event .staleFenceRejected .rejected with fenceEpoch := command.shape.expectedFenceEpoch }
  | .control => { event .controlFailure .failed with
      serverInstanceId := some command.binding.serverInstanceId
      failureScope := some .command }

/-- The identifiers of what a command is about. -/
def CommandShape.subjects (shape : CommandShape) : List Uuid :=
  [shape.targetRunId, shape.approvalRequestId, shape.recoveryDirectiveId].reduceOption

section FailureEvent
variable {failure : CommandFailure} {command : OperatorCommand} {H : ControlHashes} {now : Instant} {eventId : Uuid}
  {sequence : Nat} {previous : Option ControlDigest} {requestDigest : ControlDigest}

private theorem bound_of_validate (h : command.validate = .ok ()) :
    allV7 command.binding.ids = true ∧ command.shape.expectedFenceEpoch ≠ some 0 := by
  cases command <;>
    simp_all [OperatorCommand.validate, ApprovalDecisionCommand.validate, RunCancelCommand.validate,
      RunResumeCommand.validate, validateRunCommand, CommandBinding.validate, OperatorCommand.shape,
      OperatorCommand.binding, bind_eq_ok]

/-- The event has the fields of its kind unless it asks for a fence of a command that expects none, or for both
references of a resume. -/
theorem failureEvent_validProfile (hvalid : command.validate = .ok ()) :
    (failureEvent failure command requestDigest now eventId).validProfile = true ↔
      match failure with
      | .rejected | .conflict => True
      | .staleFence => command.shape.expectedFenceEpoch.isSome = true
      | .control => command.kind ≠ .runResume := by
  have hfence := (bound_of_validate hvalid).2
  cases command
  case' runResume command =>
    rcases RunResumeCommand.branch_of_validate hvalid with ⟨_, _, h₁, h₂, h₃, h₄⟩ | ⟨_, _, h₁, h₂, h₃, h₄⟩
  all_goals
    cases failure <;>
      simp -implicitDefEqProofs [*, failureEvent, conflictEvent, commandEvent, populateCommandEvent,
        OperatorCommand.shape, OperatorCommand.kind, base, validProfile, validCommandProfile,
        validFailureProfile, validStaleFenceProfile, profileMask] <;>
      exact fun hzero => hfence (congrArg some hzero)

/-- Beside its own, it names those of the command. -/
theorem failureEvent_ids (hvalid : command.validate = .ok ()) (hid : uuidIsV7 eventId = true) :
    let event := failureEvent failure command requestDigest now eventId
    allV7 ([event.workspaceId, event.eventId] ++ event.optionalIds) = allV7 command.shape.subjects := by
  have hids := (bound_of_validate hvalid).1
  cases command <;> cases failure <;>
    simp_all [allV7, failureEvent, conflictEvent, commandEvent, populateCommandEvent, OperatorCommand.envelope,
      OperatorCommand.shape, OperatorCommand.binding, CommandEnvelope.binding, base, optionalIds,
      CommandBinding.ids, CommandShape.subjects, List.reduceOption]

/-- Its other fields pass the check of the chain, in any place with room for it. -/
theorem failureEvent_link (H : ControlHashes) (failure : CommandFailure) (command : OperatorCommand)
    (requestDigest : ControlDigest) (eventId : Uuid) (htime : timeOnWire now = true)
    (hsafe : safeOnWire sequence = true)
    (hpositive : sequence ≠ 0) (hfirst : (sequence == 1) = previous.isNone) :
    let event := failureEvent failure command requestDigest now eventId
    (event.linked sequence previous (H.auditEvent (event.linked sequence previous .blank))).validateChainLink H sequence
        previous = .ok () ↔
      allV7 ([event.workspaceId, event.eventId] ++ event.optionalIds) = true ∧
        (failure = .staleFence → allSafe command.shape.expectedFenceEpoch.toList = true) ∧
          event.validProfile = true := by
  intro event
  obtain ⟨hschema, hoccurred, hepoch, hpolicy, hproof, hsession, hauthority, hchallenge, hkind⟩ :
      event.schema = schemaName ∧ event.occurredAt = now ∧ event.authEpoch = none ∧
      event.policyRevision = none ∧ event.proof = none ∧ event.sessionId.isSome = true ∧
      event.sessionAuthorityDigest.isSome = true ∧ event.challengeDigest = none ∧
      challengeKind event.kind = false := by
    cases failure <;> cases command <;> exact ⟨rfl, rfl, rfl, rfl, rfl, rfl, rfl, rfl, rfl⟩
  have hprofile (digest : ControlDigest) :
    (event.linked sequence previous digest).validProfile = event.validProfile := rfl
  simp only [validateChainLink, bind_eq_ok, reject_eq_ok, exists_const, hprofile]
  have hfence : [event.fenceEpoch, none, none].reduceOption =
      if failure = .staleFence then command.shape.expectedFenceEpoch.toList else [] := by
    cases failure <;> cases command <;> rfl
  by_cases hstale : failure = .staleFence <;>
    simp [digest, digestOnWire, onWire, linked, optionalIds, allSafe, hschema,
      hoccurred, hepoch, hpolicy, hproof, hsession, hauthority, hchallenge, hkind, hpositive, hfirst, htime, hsafe,
      hfence, hstale] <;>
    tauto

/-- The journal has an event unless the fence is stale for a command that expects none, or the control plane fails a
resume. -/
def CommandFailure.Notable (failure : CommandFailure) (command : OperatorCommand) : Prop :=
  match failure with
  | .rejected | .conflict => True
  | .staleFence => ∃ fence, command.shape.expectedFenceEpoch = some fence ∧ safeOnWire fence = true
  | .control => command.kind ≠ .runResume

/-- The event of a valid command's failure is accepted exactly for those, with well-formed identifiers. -/
theorem failureEvent_accepted_iff (H : ControlHashes) (failure : CommandFailure) (command : OperatorCommand)
    (requestDigest : ControlDigest) (now : Instant) (eventId : Uuid) (sequence : Nat) (previous : Option ControlDigest)
    (hvalid : command.validate = .ok ()) (hid : uuidIsV7 eventId = true) (htime : timeOnWire now = true)
    (hsafe : safeOnWire sequence = true) (hpositive : sequence ≠ 0) (hfirst : (sequence == 1) = previous.isNone) :
    let event := failureEvent failure command requestDigest now eventId
    (event.linked sequence previous (H.auditEvent (event.linked sequence previous .blank))).validateChainLink H sequence
        previous = .ok () ↔ allV7 command.shape.subjects = true ∧ failure.Notable command := by
  intro event
  refine (failureEvent_link H failure command requestDigest eventId htime hsafe hpositive hfirst).trans ?_
  rw [failureEvent_ids hvalid hid, failureEvent_validProfile hvalid]
  refine and_congr_right fun _ => ?_
  cases failure <;> cases hfence : command.shape.expectedFenceEpoch <;>
    simp [CommandFailure.Notable, hfence, allSafe]

/-- A control failure during a resume cannot be noted: the event would have to name an approval. -/
theorem resume_failure_unaudited :
    (OperatorCommand.runResume resumeEcho).validate = .ok () ∧
      let event := failureEvent .control (.runResume resumeEcho) .blank 5 (.v7 70)
      (event.linked 1 none (sampleHashes.auditEvent (event.linked 1 none .blank))).validateChainLink sampleHashes 1
        none = .error .invalidBranch := by
  decide +kernel

theorem resume_stale_fence_audited :
    let event := failureEvent .staleFence (.runResume resumeEcho) .blank 5 (.v7 70)
    (event.linked 1 none (sampleHashes.auditEvent (event.linked 1 none .blank))).validateChainLink sampleHashes 1
      none = .ok () :=
  (failureEvent_accepted_iff sampleHashes .staleFence (.runResume resumeEcho) .blank 5 (.v7 70) 1 none
    (by decide +kernel) rfl (by decide) (by decide) one_ne_zero rfl).mpr ⟨rfl, 1, rfl, by decide⟩

end FailureEvent

end ProofPlatform.Operator
