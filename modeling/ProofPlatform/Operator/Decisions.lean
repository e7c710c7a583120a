import ProofPlatform.Operator.CommandEffects

/-! A human decision on a pending approval: its event cannot be linked, so none is ever recorded. -/
namespace ProofPlatform.Operator
open Kernel Library Fallible Transaction Tx Bool

section Never
variable {C : OperatorStoreContext} {s s' : Database}
  {request : CommandExecutionRequest} {command : ApprovalDecisionCommand}

/-- Events of other kinds than a decision may be appended; all else is as before. -/
def Undecided (H : ControlHashes) (s s' : Database) : Prop :=
  ∃ events, Audits H events s s' ∧ ∀ event ∈ events, event.kind ≠ .approvalDecided

theorem Undecided.refl (H : ControlHashes) (s : Database) : Undecided H s s := ⟨[], .refl H s, by simp⟩

theorem CommandRefused.undecided {error : OperatorStoreError} (h : CommandRefused C.hashes error s s') :
    Undecided C.hashes s s' := by
  obtain ⟨event, haudits, hkind⟩ := h
  refine ⟨[event], haudits, fun event' hmem => ?_⟩
  obtain rfl := List.mem_singleton.mp hmem
  rcases hkind with ⟨-, hkind⟩ | ⟨-, hkind⟩ <;> simp [hkind]

/-- A decision is refused, or reports an earlier execution of the same command. -/
theorem executeOperatorCommand_undecided (C : OperatorStoreContext) (signer : OperatorSigner)
    (hcommand : request.command = .approvalDecision command) (o : Nat → Answer) (s : Database) (n : Nat) :
    (∀ result, (executeOperatorCommand C signer request o s n).result = .ok result → result.outcome = .exactReplay) ∧
      Undecided C.hashes s (executeOperatorCommand C signer request o s n).state := by
  rcases lift_atomically_cases (executeInTransaction C signer request) o s n with
    ⟨error, herror, hs⟩ | ⟨r, s', n', h, hr, hs'⟩
  · refine ⟨fun result hok => ?_, ?_⟩
    · cases herror.symm.trans hok
    · rw [show (executeOperatorCommand C signer request o s n).state = s from hs]
      exact .refl _ s
  · rw [show (executeOperatorCommand C signer request o s n).state = s' from hs',
      show (executeOperatorCommand C signer request o s n).result = r from hr]
    rcases executeInTransaction_decision h hcommand with ⟨error, rfl, hrefused⟩ | ⟨result, rfl, hreplay, rfl⟩
    · exact ⟨fun result hok => (by cases hok), hrefused.undecided⟩
    · exact ⟨fun result' hok => Except.ok.inj hok ▸ hreplay, .refl _ _⟩

end Never

/-- Whatever the store holds and is told, no decision is stored and no event reports one. -/
theorem approval_decision_never_applied (C : OperatorStoreContext) (signer : OperatorSigner) (schema : String)
    (scope : OperatorMutationScope) (command : ApprovalDecisionCommand) (o : Nat → Answer) (s : Database) (n : Nat) :
    (∀ result, (executeOperatorCommand C signer ⟨schema, scope, .approvalDecision command⟩ o s n).result = .ok result →
        result.outcome ≠ .applied) ∧
      (executeOperatorCommand C signer ⟨schema, scope, .approvalDecision command⟩ o s n).state.approvalDecisions =
        s.approvalDecisions ∧
      ∃ events,
        (executeOperatorCommand C signer ⟨schema, scope, .approvalDecision command⟩ o s n).state.journal.auditEvents =
          s.journal.auditEvents ++ events ∧ ∀ event ∈ events, event.kind ≠ .approvalDecided := by
  obtain ⟨hreplay, events, ⟨journal, hgrows, -, hstate⟩, hkinds⟩ :=
    executeOperatorCommand_undecided C signer (rfl : (⟨schema, scope, .approvalDecision command⟩ :
      CommandExecutionRequest).command = _) o s n
  refine ⟨fun result hok happlied => ?_, ?_, events, ?_, hkinds⟩
  · cases (hreplay result hok).symm.trans happlied
  · rw [hstate]
  · rw [hstate]
    exact hgrows.auditEvents_eq

/-! A run that waits for the enrolled human, who may decide until time one hundred. -/

variable (C : OperatorStoreContext) (signature : List (BitVec 8))

def enrolledWorkspace : OperatorWorkspace :=
  let input : WorkspaceFingerprintInput :=
    ⟨WorkspaceFingerprintInput.schemaName, .v7 2, ⟨1, 1⟩, ⟨1, 2⟩, ⟨1, 3⟩, ⟨1, 4⟩, .v7 8, .v7 20, 1, 2⟩
  let workspace : OperatorWorkspace :=
    { schema := OperatorWorkspace.schemaName
      workspaceId := .v7 2
      databaseName := "storage.db"
      fingerprintInput := input
      workspaceFingerprint := C.hashes.workspace input
      schemaCatalogDigest := .blank
      agent := ⟨⟨.v7 8⟩, .agent, 1, C.hashes.publicKey 1⟩
      human := ⟨⟨.v7 20⟩, .human, 2, C.hashes.publicKey 2⟩
      authEpoch := 1
      policyRevision := 1
      capabilities := [.approvalDecide, .approvalRead, .auditRead, .runCancel, .runRead, .runResume]
      createdAt := 0
      updatedAt := 0
      bindingDigest := .blank }
  { workspace with bindingDigest := C.hashes.workspaceBinding workspace }

def humanSession : SessionAuthorityBinding :=
  ⟨SessionAuthorityBinding.schemaName, .v7 21, .v7 2, .v7 22, .v7 20, 1, 1, "https://localhost",
    [.approvalDecide, .approvalRead, .auditRead, .runCancel, .runRead, .runResume], 0, 100⟩

/-- The scope of a command of this kind in the session. -/
def sessionScope (kind : CommandKind) : OperatorMutationScope :=
  ⟨"proof.operator.mutation-scope/v1", kind.route, humanSession, C.hashes.sessionAuthority humanSession, 1,
    kind.expectedCapabilities⟩

/-- The binding of a command that is sent in the session. -/
def sessionBinding (commandId idempotencyKey : Uuid) : CommandBinding :=
  ⟨commandId, idempotencyKey, .v7 2, .v7 22, .v7 21, .v7 20, 1, C.hashes.sessionAuthority humanSession, 1⟩

def pendingRequest : SignedApprovalRequest :=
  ⟨⟨.v7 23, "content.publish", "v1", ⟨0⟩, ⟨.v7 8⟩, 0, 100⟩, signature⟩

def pendingApproval : ApprovalBinding :=
  let consequence : PendingConsequenceBody := ⟨.externalEffect, "publish"⟩
  let binding : ApprovalBinding :=
    { schema := ApprovalBinding.schemaName
      approvalRequestId := .v7 23
      workspaceId := .v7 2
      runId := .v7 1
      stepId := .v7 24
      checkpointId := .v7 9
      checkpointSequence := 0
      checkpointDigest := ⟨0⟩
      requiredHumanId := .v7 20
      inputDigest := ⟨0⟩
      reviewFields := []
      consequence := ⟨.externalEffect, "publish", C.hashes.approvalConsequence consequence⟩
      argumentDigest := C.hashes.approvalArgument []
      consequenceDigest := C.hashes.approvalConsequence consequence
      createdAt := 0
      bindingDigest := .blank }
  { binding with bindingDigest := C.hashes.approvalBinding binding }

def waitingRun : AgentRun := { strandedRun with status := .waitingForInput }

def waitingStep : AgentRunStep :=
  ⟨.v7 24, .v7 1, 0, 0, none, "content.publish", "v1", ⟨0⟩, .waitingForApproval, some (.v7 23), none, none, none, 1,
    0, 0, some 0, none⟩

def workspaceAgent : Principal := ⟨⟨.v7 8⟩, .agent, 1, 0⟩

def waitingStore : Database :=
  { strandedStore C with
    workspaces := [enrolledWorkspace C]
    principals := [workspaceAgent, ⟨⟨.v7 20⟩, .human, 2, 0⟩]
    agentRuns := [waitingRun]
    agentSteps := [waitingStep]
    approvalRequests := [pendingRequest signature]
    approvalBindings := [pendingApproval C] }

def approve : ApprovalDecisionCommand where
  schema := ApprovalDecisionCommand.schemaName
  binding := sessionBinding C (.v7 25) (.v7 26)
  approvalRequestId := .v7 23
  runId := .v7 1
  stepId := .v7 24
  outcome := .approved
  expectedRequestDigest := C.primitives.requestDigest (pendingRequest signature)
  expectedRunRevision := 1
  expectedStepRevision := 1
  expectedControlRevision := 1
  expectedCheckpointId := .v7 9
  expectedCheckpointSequence := 0
  expectedCheckpointDigest := ⟨0⟩
  expectedFenceEpoch := 1

/-- The request that sends a command in the session. -/
def sessionRequest (command : OperatorCommand) : CommandExecutionRequest where
  schema := "proof.operator.command-execution-request/v1"
  scope := sessionScope C command.kind
  command := command

/-- Every statement is carried out, at time ten. -/
def atTen (n : Nat) : Answer := ⟨some 10, some (.v7 (100 + n)), true⟩

private theorem enrolledWorkspace_validate : (enrolledWorkspace C).validate C.hashes = .ok () := by
  simp only [OperatorWorkspace.validate, PrincipalBinding.validate, OperatorWorkspace.onWire,
    OperatorWorkspace.principalsMatch, enrolledWorkspace]
  simp [bind_eq_ok, digestOnWire]
  decide

/-- A valid command that is bound to the session passes the scope check. -/
theorem sessionRequest_admitted {command : OperatorCommand} {commandId idempotencyKey : Uuid} {o : Nat → Answer}
    {s : Database} {n : Nat} (hbinding : command.binding = sessionBinding C commandId idempotencyKey)
    (hcommand : command.validate = .ok ()) (hworkspace : s.workspaces.head? = some (enrolledWorkspace C))
    (hworks : (o n).works = true) :
    Returns (validateCommandScope C (sessionRequest C command)) o s n (enrolledWorkspace C) s (n + 1) := by
  have hgranted : command.kind.expectedCapabilities.all humanSession.grantedCapabilities.contains = true := by
    cases command.kind <;> decide
  have hcovers : (sessionScope C command.kind).covers command (C.hashes.sessionAuthority humanSession) = true := by
    simp only [OperatorMutationScope.covers, CommandBinding.boundTo, hbinding, and_eq_true, beq_iff_eq]
    exact ⟨⟨⟨⟨⟨rfl, rfl⟩, rfl⟩, rfl⟩, ⟨⟨⟨⟨⟨⟨rfl, rfl⟩, rfl⟩, rfl⟩, rfl⟩, rfl⟩, rfl⟩⟩, hgranted⟩
  have hadmits : (enrolledWorkspace C).admits command = true := by
    simp only [OperatorWorkspace.admits, hbinding, and_eq_true, beq_iff_eq]
    exact ⟨⟨⟨⟨rfl, rfl⟩, rfl⟩, rfl⟩, hgranted⟩
  have hsession : humanSession.validate = .ok () ∧ humanSession.onWire = true := by decide
  simp only [validateCommandScope, returns_invalidIf_bind, returns_orElse_bind, exists_unit]
  refine ⟨rfl, hcommand, hsession.1, C.hashes.sessionAuthority humanSession, if_pos hsession.2, ?_, ?_⟩
  · exact not_eq_eq_eq_not.mpr hcovers
  · refine returns_bind.mpr ⟨_, _, _,
      returns_loadRow.mpr ⟨hworks, hworkspace, enrolledWorkspace_validate C, rfl, rfl⟩, ?_⟩
    exact returns_invalidIf_bind.mpr ⟨not_eq_eq_eq_not.mpr hadmits, rfl⟩

private theorem pendingApproval_loaded
    (hsigned : (pendingRequest signature).verify C.primitives workspaceAgent = .ok ()) :
    Returns (loadApprovalBundle C (.v7 23)) atTen (waitingStore C signature) 0
      ⟨pendingApproval C, pendingRequest signature, none⟩ (waitingStore C signature) 2 := by
  have hwire : (pendingApproval C).onWire = true := by
    simp only [ApprovalBinding.onWire, ApprovalBinding.ids, pendingApproval]
    decide
  have hids : allV7 (pendingApproval C).ids = true := by
    simp only [ApprovalBinding.ids, pendingApproval]
    decide
  have hdescribes : (pendingApproval C).describes C (pendingRequest signature)
      (pendingApproval C).bindingDigest = true := by
    simp only [ApprovalBinding.describes, and_eq_true, beq_iff_eq]
    exact ⟨⟨⟨⟨⟨⟨⟨rfl, hids⟩, rfl⟩, rfl⟩, rfl⟩, rfl⟩, rfl⟩, trivial⟩
  simp only [loadApprovalBundle, validateApprovalRecord, loadPrincipalRecord, bind_assoc, pure_bind,
    returns_select_bind,
    returns_orFail_bind, returns_orElse_bind, returns_failIf_bind, returns_uuidColumn_bind, exists_unit]
  exact ⟨rfl, ⟨pendingApproval C, pendingRequest signature, none⟩, rfl, (pendingApproval C).bindingDigest,
    if_pos hwire, not_eq_eq_eq_not.mpr hdescribes, rfl, workspaceAgent, rfl, rfl, hsigned, rfl⟩

/-- The windows, records and request are in order; whoever signs, the decision is not applied. -/
theorem waiting_decision_not_applied :
    10 < humanSession.absoluteExpiresAt ∧ 10 < (pendingRequest []).body.expiresAt ∧
    ∀ (C : OperatorStoreContext) (signature : List (BitVec 8)),
      (pendingRequest signature).verify C.primitives workspaceAgent = .ok () →
      let request := sessionRequest C (.approvalDecision (approve C signature))
      let s := waitingStore C signature
      Returns (validateCommandScope C request) atTen s 0 (enrolledWorkspace C) s 1 ∧
      Returns (loadControl C (.v7 1)) atTen s 0 (strandedControl C) s 1 ∧
      Returns (loadAgentRunExact (.v7 1)) atTen s 0 waitingRun s 1 ∧
      Returns (loadAgentStepExact (.v7 24)) atTen s 0 waitingStep s 1 ∧
      Returns (loadLatestCheckpointIdentity (.v7 1)) atTen s 0 ⟨.v7 9, 0, ⟨0⟩⟩ s 2 ∧
      Returns (loadApprovalBundle C (.v7 23)) atTen s 0 ⟨pendingApproval C, pendingRequest signature, none⟩ s 2 ∧
      Returns (loadCommandLease C (.v7 1) 1 10 true) atTen s 0 (strandedLease C) s 2 ∧
      (approve C signature).actionable C (strandedControl C) waitingRun waitingStep ⟨.v7 9, 0, ⟨0⟩⟩
        ⟨pendingApproval C, pendingRequest signature, none⟩ = true ∧
      ∀ signer o n result, (executeOperatorCommand C signer request o s n).result = .ok result →
        result.outcome ≠ .applied := by
  refine ⟨by decide, by decide, fun C signature hsigned => ⟨?_, ?_, ?_, ?_, ?_, ?_, ?_, ?_, ?_⟩⟩
  · refine sessionRequest_admitted C rfl ?_ rfl rfl
    simp only [OperatorCommand.validate, ApprovalDecisionCommand.validate, validateRunCommand, CommandBinding.validate,
      CommandBinding.ids, approve, sessionBinding]
    decide
  · exact returns_loadRow.mpr ⟨rfl, rfl, strandedControl_validate C, rfl, rfl⟩
  · rfl
  · rfl
  · rfl
  · exact pendingApproval_loaded C signature hsigned
  · have hid : uuidIsV7 (strandedLease C).leaseId = true := by
      simp only [strandedLease, newLease, RunLease.sealed]
      decide
    simp only [loadCommandLease, returns_select_bind, returns_orFail_bind, returns_invalidIf_bind,
      returns_uuidColumn_bind]
    refine ⟨by decide, rfl, strandedLease C, rfl, hid, ?_⟩
    exact returns_bind.mpr ⟨_, _, _, returns_loadRow.mpr ⟨rfl, rfl, strandedLease_validate C, rfl, rfl⟩, rfl⟩
  · simp only [ApprovalDecisionCommand.actionable, and_eq_true, beq_iff_eq]
    exact ⟨⟨⟨⟨⟨⟨⟨⟨⟨⟨⟨rfl, rfl⟩, rfl⟩, rfl⟩, rfl⟩, rfl⟩, rfl⟩, rfl⟩, rfl⟩, rfl⟩, rfl⟩, rfl⟩
  · intro signer o n result hok happlied
    cases ((executeOperatorCommand_undecided C signer rfl o _ n).1 result hok).symm.trans happlied

end ProofPlatform.Operator
