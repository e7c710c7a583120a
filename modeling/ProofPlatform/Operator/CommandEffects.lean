import ProofPlatform.Operator.CommandStore

/-! What a command leaves in the tables: a decision is never recorded, a cancel or a resume changes its run once, and
the same command again changes nothing. -/
namespace ProofPlatform.Operator
open Kernel Library Fallible Transaction Tx Table Bool Database AuditEvent

variable {C : OperatorStoreContext} {signer : OperatorSigner} {o : Nat → Answer} {s s' : Database} {n n' : Nat}
  {now : Instant} {u : Unit} {envelope : CommandEnvelope} {workspace : OperatorWorkspace}

theorem readOnly_validateCommandScope (request : CommandExecutionRequest) : ReadOnly (validateCommandScope C request) :=
  .bind (.lift _) fun _ => .bind (.lift _) fun _ =>
    .bind (.lift _) fun _ => .bind (.lift _) fun _ =>
    .bind (.lift _) fun _ => .bind (readOnly_loadRow _ _ _) fun _ =>
    .bind (.lift _) fun _ => .pure _

private theorem readOnly_loadApprovalBundle (requestId : Uuid) : ReadOnly (loadApprovalBundle C requestId) := by
  refine .bind (readOnly_select _) fun _ => .bind (.lift _) fun bundle =>
    .bind ?_ fun _ => .pure _
  refine .bind (.lift _) fun _ => .bind (.lift _) fun _ =>
    .bind (readOnly_loadPrincipalRecord _) fun _ => .bind (.lift _) fun _ => ?_
  cases bundle.decision with
  | none => exact .pure _
  | some decision =>
    exact .bind (readOnly_loadPrincipalRecord _) fun _ => .bind (.lift _) fun _ =>
      .lift _

private theorem readOnly_loadCommandLease (runId : Uuid) (fenceEpoch : Nat) (now : Instant) (active : Bool) :
    ReadOnly (loadCommandLease C runId fenceEpoch now active) :=
  .bind (.lift _) fun _ => .bind (readOnly_select _) fun _ =>
    .bind (.lift _) fun _ => .bind (readOnly_uuidColumn _) fun _ =>
    .bind (readOnly_loadRow _ _ _) fun _ => .bind (.lift _) fun _ => .pure _

variable (kind : AuditEventKind) (outcome : AuditOutcome) (shape : CommandShape) (applied : Bool)
  (proof : Option ProofReference) (eventId : Uuid)

theorem commandEvent_kind : (commandEvent envelope kind outcome shape applied proof now eventId).kind = kind := by
  unfold commandEvent populateCommandEvent
  cases shape.kind <;> cases applied <;> rfl

theorem commandEvent_workspaceId :
    (commandEvent envelope kind outcome shape applied proof now eventId).workspaceId =
      envelope.binding.workspaceId := by
  unfold commandEvent populateCommandEvent
  cases shape.kind <;> cases applied <;> rfl

/-- A command that passed the checks of its scope, as it is to be recorded. -/
structure Accepted (H : ControlHashes) (envelope : CommandEnvelope) : Prop where
  schema : envelope.schema = CommandEnvelope.schemaName
  valid : envelope.command.validate = .ok ()
  digest : envelope.command.digest H = .ok envelope.requestDigest

section
variable {α : Type} {a : α}

private theorem insertCommandEnvelope_bind {f : Unit → StoreM α}
    (h : Returns (insertCommandEnvelope envelope >>= f) o s n a s' n') :
    (∀ row ∈ s.commands, commandsClash row envelope = false) ∧
      ∃ m, Returns (f ()) o { s with commands := s.commands ++ [envelope] } m a s' n' := by
  simp only [insertCommandEnvelope, bind_assoc, returns_invalidIf_bind, returns_insertInto_bind] at h
  exact ⟨h.2.2.1, _, h.2.2.2⟩

private theorem signCommandTransition_bind {outcome : ControlTransitionOutcome} {f : ProofReference → StoreM α}
    (h : Returns (signCommandTransition C signer workspace envelope outcome now >>= f) o s n a s' n') :
    ∃ proof proofs m, Returns (f proof) o { s with replayTables := { s.replayTables with proofs } } m a s' n' := by
  simp only [signCommandTransition, persistCommandProof, bind_assoc, returns_orElse_bind, returns_invalidIf_bind,
    returns_operatorUuid_bind, returns_orFail_bind, exists_unit] at h
  obtain ⟨-, -, -, proofId, -, signed, -, h⟩ := h
  obtain ⟨_, _, hp, h⟩ := (readOnly_loadPrincipalRecord _).returns_bind h
  simp only [returns_failIf_bind, returns_insertInto_bind, pure_bind] at h
  exact ⟨_, _, _, h.2.2.2⟩

end

/-- The receipt that a command is given, for the event it is recorded with. -/
structure Receives (C : OperatorStoreContext) (s : Database) (envelope : CommandEnvelope) (event : AuditEvent)
    (receipt : CommandReceipt) : Prop where
  new : ∀ row ∈ s.receipts, receiptsClash row receipt = false
  valid : receipt.validate C.hashes = .ok ()
  names : ∃ effect outcome proof receiptId now receiptDigest,
    receipt = { envelope.receipt effect outcome proof event receiptId now with receiptDigest }

theorem finalizeReceipt_eq_ok {receipt final : CommandReceipt} (h : finalizeReceipt C receipt = .ok final) :
    ∃ receiptDigest, final = { receipt with receiptDigest } := by
  simp only [finalizeReceipt, bind_eq_ok, mapError_eq_ok] at h
  obtain ⟨digest, -, -, -, he⟩ := h
  exact ⟨digest, (Except.ok.inj he).symm⟩

variable {result : Except OperatorStoreError CommandResult} {answer : CommandResult} {control : RunControl}
  {command : RunResumeCommand} {run : AgentRun} {receipt : CommandReceipt} {resumption : Resumption} {lease : RunLease}
  {request : CommandExecutionRequest} {step : AgentRunStep}

private theorem recordCommand_spec {effect : CommandEffect} {outcome : CommandOutcome} {proof : Option ProofReference}
    {event : Uuid → AuditEvent}
    (h : Returns (recordCommand C envelope effect outcome proof event now) o s n receipt s' n') :
    ∃ eventId sequence previous digest journal,
      Grows C.hashes s.journal [(event eventId).linked sequence previous digest] journal ∧
      ((event eventId).linked sequence previous digest).validProfile = true ∧
      Receives C s envelope ((event eventId).linked sequence previous digest) receipt ∧
      s' = { s with receipts := s.receipts ++ [receipt], journal } := by
  simp only [recordCommand, returns_operatorUuid_bind] at h
  obtain ⟨eventId, -, h⟩ := h
  obtain ⟨linked, _, _, hevent, h⟩ := returns_bind.mp h
  obtain ⟨⟨sequence, previous, digest, rfl⟩, heads, hlinks, rfl⟩ := appendAuditEvent_spec hevent
  obtain ⟨head, -, hvalid⟩ := hlinks.head
  simp only [insertCommandReceipt, bind_assoc, returns_operatorUuid_bind, returns_lift_bind, returns_orElse_bind,
    returns_insertInto_bind, returns_statement_bind, returns_pure, exists_unit] at h
  obtain ⟨receiptId, -, final, hfinal, hreceipt, -, hclash, -, rfl, rfl, -⟩ := h
  obtain ⟨receiptDigest, hfinal⟩ := finalizeReceipt_eq_ok hfinal
  exact ⟨eventId, sequence, previous, digest, _, .audit hlinks, validProfile_of_validateChainLink _ hvalid,
    ⟨hclash, hreceipt, effect, outcome, proof, receiptId, now, receiptDigest, hfinal⟩, rfl⟩

theorem validateOperatorCommand_eq_ok {command : OperatorCommand} (h : command.validate = .ok ()) :
    validateOperatorCommand command = .ok () := by
  cases command with
  | sessionRevoke command =>
    simp only [OperatorCommand.validate, bind_eq_ok, reject_eq_ok, exists_const] at h
    simp only [validateOperatorCommand, bind_eq_ok, reject_eq_ok, mapError_eq_ok, exists_const]
    exact h
  | approvalDecision command | runCancel command | runResume command => exact mapError_eq_ok.mpr h

theorem Receives.binding {event : AuditEvent} (h : Receives C s envelope event receipt)
    (ha : Accepted C.hashes envelope) : validateCommandReceiptBinding C.hashes receipt envelope = .ok () := by
  obtain ⟨effect, outcome, proof, receiptId, now, receiptDigest, rfl⟩ := h.names
  simp only [validateCommandReceiptBinding, bind_eq_ok, mapError_eq_ok, exists_unit, ha.digest]
  refine ⟨h.valid, validateOperatorCommand_eq_ok ha.valid, envelope.requestDigest, rfl, ?_⟩
  simp [CommandEnvelope.receipt, ha.schema]

/-- The event of a recorded command joins those that the call has left before. -/
private theorem recordCommand_records {t : Database} {effect : CommandEffect} {outcome : CommandOutcome}
    {proof : Option ProofReference} {event : Uuid → AuditEvent}
    (h : Returns (recordCommand C envelope effect outcome proof event now) o t n receipt s' n')
    (ha : Accepted C.hashes envelope) (hnew : ∀ row ∈ s.commands, commandsClash row envelope = false)
    (hcommands : t.commands = s.commands ++ [envelope]) (hreceipts : t.receipts = s.receipts)
    (hworkspace : ∀ id, (event id).workspaceId = envelope.binding.workspaceId) :
    ∃ eventId sequence previous digest journal,
      Grows C.hashes t.journal [(event eventId).linked sequence previous digest] journal ∧
      (∀ events, Records C (events ++ [(event eventId).linked sequence previous digest]) s s' envelope receipt) ∧
      s' = { t with receipts := t.receipts ++ [receipt], journal } := by
  obtain ⟨eventId, sequence, previous, digest, journal, hgrows, -, hreceives, hs'⟩ := recordCommand_spec h
  refine ⟨eventId, sequence, previous, digest, journal, hgrows, fun events => ?_, hs'⟩
  refine ⟨(congrArg commands hs').trans hcommands, (congrArg receipts hs').trans (hreceipts ▸ rfl), hnew,
    hreceipts ▸ hreceives.new, hreceives.binding ha, _, List.mem_append_right events (List.mem_singleton_self _), ?_⟩
  obtain ⟨effect, outcome, proof, receiptId, now, receiptDigest, rfl⟩ := hreceives.names
  exact ⟨hworkspace eventId, rfl, rfl, rfl⟩

private theorem loadCommandLease_spec {runId : Uuid} {fenceEpoch : Nat} {active : Bool}
    (hs : s.Keyed) (h : Returns (loadCommandLease C runId fenceEpoch now active) o s n lease s' n')
    (hcontrol : lookup RunControl.runId s.controls runId = some control) :
    s = s' ∧ (active = true → Acts C ⟨runId, none, fenceEpoch, none, none⟩ now s control lease) := by
  simp only [loadCommandLease, loadLease, returns_invalidIf_bind, returns_select_bind, returns_orFail_bind,
    returns_uuidColumn_bind, returns_loadRow_bind, returns_failIf_bind, returns_pure] at h
  obtain ⟨-, -, row, hrow, -, -, lease', hlease, -, hactive, rfl, rfl, -⟩ := h
  have hmem := List.mem_of_find?_eq_some hrow
  have hnamed : row.runId = runId ∧ row.fenceEpoch = fenceEpoch := by simpa using List.find?_some hrow
  obtain rfl := Option.some.inj ((hs.leases.lookup_of_mem hmem).symm.trans hlease)
  refine ⟨rfl, fun ha => ?_⟩
  obtain ⟨hstate, hunexpired⟩ : row.state = .active ∧ now < row.expiresAt := by simpa [ha] using hactive
  exact ⟨hcontrol, hlease, hnamed.1, hnamed.2, by simp, by simp, hstate, hunexpired⟩

section
variable {command : ApprovalDecisionCommand} (hcommand : envelope.command = .approvalDecision command)
include hcommand

/-- The event that an applied decision is to leave does not carry the decision's digest, which
its kind requires. -/
private theorem not_validProfile_approvalDecided (decision : Option ContentDigest) (proof : ProofReference)
    (eventId : Uuid) (sequence : Nat) (previous : Option ControlDigest) (digest : ControlDigest) :
    ((commandEvent envelope .approvalDecided .accepted { envelope.command.shape with decisionDigest := decision } true
      (some proof) now eventId).linked sequence previous digest).validProfile = false := by
  simp [commandEvent, populateCommandEvent, hcommand, OperatorCommand.shape, linked, base,
    validProfile, profileMask]

/-! ### Decisions -/

private theorem not_returns_applyDecision {bundle : ApprovalBundle} :
    ¬ Returns (applyDecision C signer workspace envelope command control run step bundle now) o s n answer s' n' := by
  intro h
  obtain ⟨_, _, _, -, h⟩ := returns_bind.mp h
  obtain ⟨decisionId, -, h⟩ := returns_operatorUuid_bind.mp h
  obtain ⟨decision, _, _, -, h⟩ := returns_bind.mp h
  obtain ⟨next, _, _, -, h⟩ := returns_bind.mp h
  obtain ⟨proof, _, _, -, h⟩ := returns_bind.mp h
  obtain ⟨receipt, _, _, hrecord, -⟩ := returns_bind.mp h
  obtain ⟨eventId, sequence, previous, digest, journal, -, hprofile, -⟩ := recordCommand_spec hrecord
  rw [not_validProfile_approvalDecided hcommand] at hprofile
  cases hprofile

/-- A command that is refused leaves at most one event, that its request had expired or that
its key was used before. -/
def CommandRefused (H : ControlHashes) (error : OperatorStoreError) (s s' : Database) : Prop :=
  ∃ event, Audits H [event] s s' ∧
    (error = .notActionable ∧ event.kind = .approvalExpired ∨ error = .conflict ∧ event.kind = .commandConflict)

private theorem decideApproval_spec
    (h : Returns (decideApproval C signer workspace envelope command now) o s n result s' n') :
    ∃ error, result = .error error ∧ CommandRefused C.hashes error s s' := by
  simp only [decideApproval, loadControl, loadAgentRunExact, loadAgentStepExact, returns_loadRow_bind] at h
  obtain ⟨-, control, -, -, -, run, -, -, -, step, -, -, h⟩ := h
  obtain ⟨checkpoint, _, hcheckpoint, h⟩ := (readOnly_loadLatestCheckpointIdentity _).returns_bind h
  obtain ⟨bundle, _, hbundle, h⟩ := (readOnly_loadApprovalBundle _).returns_bind h
  obtain ⟨lease, _, hlease, h⟩ := (readOnly_loadCommandLease _ _ _ _).returns_bind h
  split at h
  · obtain ⟨eventId, -, h⟩ := returns_operatorUuid_bind.mp h
    obtain ⟨event, _, hevent, rfl⟩ := returns_commit h
    obtain ⟨appended, hkind, haudits⟩ := appendAuditEvent_kind hevent
    exact ⟨_, rfl, appended, haudits, .inl ⟨rfl, hkind⟩⟩
  · obtain ⟨-, h⟩ := returns_failIf_bind.mp h
    obtain ⟨result, _, _, hresult, -⟩ := returns_bind.mp h
    exact absurd hresult (not_returns_applyDecision hcommand)

end

/-! ### Cancels -/

/-- The credential of a command on a run is the fence that it quotes. -/
def RunCancelCommand.credential (command : RunCancelCommand) : Credential :=
  ⟨command.runId, none, command.expectedFenceEpoch, none, none⟩

def RunResumeCommand.credential (command : RunResumeCommand) : Credential :=
  ⟨command.runId, none, command.expectedFenceEpoch, none, none⟩

/-- The command is on record with its receipt and the events of this call. -/
def Recorded (C : OperatorStoreContext) (envelope : CommandEnvelope) (receipt : CommandReceipt) (s s' : Database) :
    Prop :=
  ∃ events, Grows C.hashes s.journal events s'.journal ∧ Records C events s s' envelope receipt

private theorem releaseOpenReservation_spec (h : Returns (releaseOpenReservation C control run lease now) o s n u s' n')
    (hs : Keyed BudgetReservation.reservationId s.reservations) :
    ∃ reservations budgets events journal, Grows C.hashes s.journal events journal ∧
      ((⟨budgets, reservations⟩ : Books) = s.books ∧
          (∀ row ∈ s.reservations, row.runId = run.id → row.state ≠ .reserved) ∨
        ∃ reservation account account', reservation.state = .reserved ∧ reservation.runId = run.id ∧
          Settles s.books ⟨budgets, reservations⟩ reservation (reservation.released now) account account') ∧
      s' = { s with reservations, budgets, journal } := by
  simp only [releaseOpenReservation, returns_select_bind] at h
  obtain ⟨-, h⟩ := h
  split at h
  · rename_i hnone
    obtain ⟨-, rfl, -⟩ := returns_pure.mp h
    refine ⟨s.reservations, s.budgets, [], s.journal, .refl, .inl ⟨rfl, fun row hrow => ?_⟩, rfl⟩
    simpa using List.find?_eq_none.mp hnone row hrow
  · rename_i row hrow
    have hmem := List.mem_of_find?_eq_some hrow
    have hnamed : row.runId = run.id ∧ row.state = .reserved := by simpa using List.find?_some hrow
    obtain ⟨-, h⟩ := returns_uuidColumn_bind.mp h
    obtain ⟨reservation, _, _, hload, h⟩ := returns_bind.mp h
    obtain ⟨hr, -, rfl⟩ := loadReservation_spec hload
    obtain rfl := Option.some.inj ((hs.lookup_of_mem hmem).symm.trans hr)
    simp only [loadBudget, returns_loadRow_bind] at h
    obtain ⟨-, budget, hb, -, h⟩ := h
    obtain ⟨⟨released, budget'⟩, _, _, hrelease, h⟩ := returns_bind.mp h
    obtain ⟨hstate, rfl, reservations, budgets, hsettles, rfl⟩ := releaseReservation_spec hrelease hr hb
    obtain ⟨event, hevent, -⟩ := returns_bind_pure h
    obtain ⟨appended, -, journal, hgrows, -, rfl⟩ := appendBudgetEvent_audits hevent
    exact ⟨reservations, budgets, [appended], journal, hgrows,
      .inr ⟨row, budget, budget', hstate, hnamed.1, hsettles⟩, rfl⟩

private theorem applyCancel_spec {credential : Credential} {command : RunCancelCommand}
    (hs : s.Keyed) (ha : Accepted C.hashes envelope)
    (hacts : Acts C credential now s control lease) (hidle : control.activeDispatchReservationId = none)
    (hrun : lookup AgentRun.id s.agentRuns control.runId = some run) (hongoing : run.status.isTerminal = false)
    (hnew : ∀ row ∈ s.commands, commandsClash row envelope = false)
    (h : Returns (applyCancel C signer workspace envelope command control run lease now) o
      { s with commands := s.commands ++ [envelope] } n answer s' n') :
    answer.outcome = .applied ∧ Recorded C envelope answer.receipt s s' ∧
      Cancels C credential now s s' control lease run := by
  have hrunId : run.id = control.runId := (lookup_eq_some hrun).2
  obtain ⟨_, _, _, hrelease, h⟩ := returns_bind.mp h
  obtain ⟨reservations, budgets, events, journal, hgrows, hbooks, rfl⟩ :=
    releaseOpenReservation_spec hrelease hs.reservations
  rw [hrunId] at hbooks
  obtain ⟨cancelled, hcancel, h⟩ := returns_orElse_bind.mp h
  obtain ⟨_, _, _, hupdate, h⟩ := returns_bind.mp h
  obtain ⟨agentRuns, hruns, rfl⟩ := updateAgentRunExact_spec hupdate hrun (AgentRun.transition_id hcancel)
  obtain ⟨next, controls, projection, _, hadvances, hp, -, h⟩ :=
    advances_of_advanceControl h hacts.controlRow rfl rfl rfl
  rw [hidle] at hadvances
  obtain ⟨proof, proofs, _, h⟩ := signCommandTransition_bind h
  obtain ⟨receipt, hrecord, rfl⟩ := returns_bind_pure h
  obtain ⟨_, _, _, _, journal', hgrows', hrecords, rfl⟩ :=
    recordCommand_records hrecord ha hnew rfl rfl (commandEvent_workspaceId _ _ _ _ _)
  have hall := hgrows.trans (hp.grows hgrows')
  exact ⟨rfl, ⟨_, hall, hrecords _⟩, hacts, hidle, hbooks, hrun, hongoing, ⟨cancelled, hcancel, hruns⟩,
    ⟨next, hadvances⟩, ⟨_, envelope, receipt, hall, hrecords _⟩, rfl⟩

private theorem cancelRun_spec {command : RunCancelCommand} (hs : s.Keyed)
    (ha : Accepted C.hashes envelope)
    (h : Returns (cancelRun C signer workspace envelope command now) o s n answer s' n') :
    Recorded C envelope answer.receipt s s' ∧
      (answer.outcome = .alreadyTerminal ∧ Change C (some command.credential) now s s' ∨
        answer.outcome = .applied ∧ ∃ control lease run, Cancels C command.credential now s s' control lease run) := by
  simp only [cancelRun, loadControl, loadAgentRunExact, returns_loadRow_bind] at h
  obtain ⟨-, control, hcontrol, -, -, run, hrun, -, h⟩ := h
  obtain ⟨lease, _, _, hlease, h⟩ := returns_bind.mp h
  obtain ⟨rfl, hacts⟩ := loadCommandLease_spec hs hlease hcontrol
  simp only [returns_failIf_bind, Option.isSome_eq_false_iff, Option.isNone_iff_eq_none] at h
  obtain ⟨-, hidle, h⟩ := h
  obtain ⟨hnew, _, h⟩ := insertCommandEnvelope_bind h
  have hcontrolId : control.runId = command.runId := (lookup_eq_some hcontrol).2
  split at h
  · obtain ⟨receipt, hrecord, rfl⟩ := returns_bind_pure h
    obtain ⟨_, _, _, _, journal', hgrows, hrecords, rfl⟩ :=
      recordCommand_records hrecord ha hnew rfl rfl (commandEvent_workspaceId _ _ _ _ _)
    exact ⟨⟨_, hgrows, hrecords []⟩, .inl ⟨rfl, .recorded hgrows (hrecords [])⟩⟩
  · rename_i hongoing
    simp only [not_eq_true] at hongoing
    rw [← hcontrolId] at hrun
    obtain ⟨happlied, hrecorded, hcancels⟩ :=
      applyCancel_spec hs ha (hacts (by simp [hongoing])) hidle hrun hongoing hnew h
    exact ⟨hrecorded, .inr ⟨happlied, control, lease, run, hcancels⟩⟩

/-! ### Resumes -/

/-- What is known of a resumption before it is applied. -/
structure Resumable (s s' : Database) (command : RunResumeCommand) (control : RunControl) (run : AgentRun)
    (resumption : Resumption) : Prop where
  waiting : run.status = .waitingForInput ∨ run.status = .failed
  id : resumption.run.id = run.id
  kept : resumption.control.runId = control.runId ∧ resumption.control.budgetId = control.budgetId ∧
    resumption.control.controlRevision = control.controlRevision ∧
    resumption.control.activeDispatchReservationId = control.activeDispatchReservationId
  recovery : resumption.control.recoveryDirectiveId =
    if resumption.recovery.isSome then none else control.recoveryDirectiveId
  directive : ∀ directive ∈ resumption.recovery,
    lookup RecoveryDirective.directiveId s.directives directive.directiveId = some directive ∧
    directive.runId = run.id ∧ control.recoveryDirectiveId = some directive.directiveId
  named : resumption.recovery.map RecoveryDirective.directiveId = command.recoveryDirectiveId
  unconsumed : ∀ directive ∈ resumption.recovery, resumptions s run.id directive.directiveId = 0
  steps : ∃ agentSteps, s' = { s with agentSteps }

/-- A decision is followed by its run and step; the step goes on naming the request. -/
private theorem followDecision_kept {outcome : ApprovalOutcome} {next : AgentRun} {step' : AgentRunStep}
    (h : followDecision outcome run step now = .ok (next, step')) :
    next.id = run.id ∧ step'.id = step.id ∧ step'.approvalRequestId = step.approvalRequestId := by
  cases outcome with
  | approved =>
    simp only [followDecision, bind_eq_ok] at h
    obtain ⟨resumed, hrun, _, hstep, he⟩ := h
    obtain ⟨rfl, rfl⟩ := Prod.mk.inj (Except.ok.inj he)
    obtain ⟨-, rfl⟩ := AgentRunStep.transition_eq_ok.mp hstep
    exact ⟨AgentRun.resume_id hrun, rfl, rfl⟩
  | denied =>
    simp only [followDecision, AgentRunStep.fail, bind_assoc, pure_bind, bind_eq_ok] at h
    obtain ⟨failed, hrun, _, hstep, he⟩ := h
    obtain ⟨rfl, rfl⟩ := Prod.mk.inj (Except.ok.inj he)
    obtain ⟨-, rfl⟩ := AgentRunStep.transition_eq_ok.mp hstep
    exact ⟨AgentRun.transition_id hrun, rfl, rfl⟩

private theorem resumeDecided_spec {requestId : Uuid} (hcommand : command.recoveryDirectiveId = none)
    (hstep : lookup AgentRunStep.id s.agentSteps command.stepId = some step)
    (h : Returns (resumeDecided C command requestId control run step now) o s n resumption s' n') :
    Resumable s s' command control run resumption ∧ ∃ step',
      lookup AgentRunStep.id s'.agentSteps command.stepId = some step' ∧
        step'.approvalRequestId = some requestId := by
  obtain ⟨bundle, _, hbundle, h⟩ := (readOnly_loadApprovalBundle _).returns_bind h
  simp only [updateAgentStepExact, bind_assoc, returns_orFail_bind, returns_failIf_bind, returns_orElse_bind,
    returns_invalidIf_bind, returns_select_bind, returns_updateIn_bind, returns_pure, or_eq_false_iff,
    bne_eq_false_iff_eq] at h
  obtain ⟨decision, -, hwaiting, ⟨next, nextStep⟩, hnext, -, -, -, -, agentSteps, hreplace, rfl, rfl, -⟩ := h
  obtain ⟨hid, hstepId, hkept⟩ := followDecision_kept hnext
  obtain ⟨-, hkey⟩ := lookup_eq_some hstep
  rw [← hkey] at hstep ⊢
  have hrows : Replaces AgentRunStep.id step nextStep s.agentSteps agentSteps :=
    .of_replaceOne hreplace hstep (by simp [hstepId]) hstepId
  refine ⟨⟨.inl hwaiting.1.1.1.1.1.1, hid, ⟨rfl, rfl, rfl, rfl⟩, rfl, by simp, hcommand.symm, by simp, agentSteps, rfl⟩,
    nextStep, ?_, hkept.trans hwaiting.1.1.1.1.2⟩
  rw [hrows.lookup_eq, if_pos rfl]

variable {checkpoint : CheckpointIdentity}

private theorem resumeRecovered_spec {directiveId : Uuid} (hcommand : command.recoveryDirectiveId = some directiveId)
    (h : Returns (resumeRecovered C command directiveId control run step checkpoint now) o s n resumption s' n') :
    Resumable s s' command control run resumption := by
  simp only [resumeRecovered, loadRecoveryDirective, bind_assoc, pure_bind, returns_selectOr_bind, returns_orFail_bind,
    returns_orElse_bind, returns_select_bind, returns_failIf_bind, returns_pure, exists_unit, or_eq_false_iff,
    bne_eq_false_iff_eq] at h
  obtain ⟨-, directive, hdirective, -, -, ⟨⟨⟨⟨⟨⟨hfailed, hrun⟩, -⟩, hnamed⟩, -⟩, -⟩, hunconsumed⟩, next, hnext,
    rfl, rfl, -⟩ := h
  obtain rfl := (lookup_eq_some hdirective).2
  refine ⟨.inr hfailed, AgentRun.resume_id hnext, ⟨rfl, rfl, rfl, rfl⟩, rfl, ?_, hcommand.symm, ?_, s.agentSteps,
    rfl⟩ <;>
    simp only [Option.mem_def, Option.some.injEq, forall_eq']
  · exact ⟨hdirective, hrun, hnamed⟩
  · exact hunconsumed

private theorem loadResumption_spec (hstep : lookup AgentRunStep.id s.agentSteps command.stepId = some step)
    (h : Returns (loadResumption C command control run step checkpoint now) o s n resumption s' n') :
    Resumable s s' command control run resumption ∧ ∀ requestId ∈ command.approvalRequestId, ∃ step',
      lookup AgentRunStep.id s'.agentSteps command.stepId = some step' ∧
        step'.approvalRequestId = some requestId := by
  unfold loadResumption at h
  split at h
  · rename_i hrequest hnone
    rw [hrequest]
    obtain ⟨hresumable, hnamed⟩ := resumeDecided_spec hnone hstep h
    exact ⟨hresumable, fun _ hsame => Option.some.inj hsame ▸ hnamed⟩
  · rename_i hnone hdirective
    rw [hnone]
    exact ⟨resumeRecovered_spec hdirective h, by simp⟩
  · exact absurd h returns_fail

private theorem resumeEvent_workspaceId (lease : RunLease) (recovery : Option RecoveryDirective)
    (proof : ProofReference) (eventId : Uuid) :
    (resumeEvent envelope lease recovery proof now eventId).workspaceId = envelope.binding.workspaceId := by
  unfold resumeEvent
  cases recovery <;> exact commandEvent_workspaceId _ _ _ _ _ _

private theorem resumptions_pair {runId directiveId : Uuid} {first second : AuditEvent}
    (hevents : s'.journal.auditEvents = s.journal.auditEvents ++ [first, second])
    (hfirst : first.kind = .recoveryCompleted ∧ first.runId = some runId ∧
      first.recoveryDirectiveId = some directiveId)
    (hsecond : second.kind = .runResumed ∧ second.runId = some runId ∧
      second.recoveryDirectiveId = some directiveId) : 2 ≤ resumptions s' runId directiveId := by
  unfold resumptions
  rw [hevents, List.countP_append]
  simp [hfirst, hsecond]

private theorem completeRecovery_spec {workspaceId runId : Uuid} {recovery : Option RecoveryDirective}
    (h : Returns (completeRecovery C workspaceId runId lease recovery now) o s n u s' n') :
    ∃ events, Audits C.hashes events s s' ∧ ∀ directive ∈ recovery, ∃ event, events = [event] ∧
      event.kind = .recoveryCompleted ∧ event.runId = some runId ∧
      event.recoveryDirectiveId = some directive.directiveId := by
  cases recovery with
  | none =>
    obtain ⟨-, rfl, -⟩ := returns_pure.mp h
    exact ⟨[], .refl _ s, by simp⟩
  | some directive =>
    simp only [completeRecovery, appendRecoveryCompleted, bind_assoc, returns_operatorUuid_bind] at h
    obtain ⟨eventId, -, h⟩ := h
    obtain ⟨linked, hevent, -⟩ := returns_bind_pure h
    obtain ⟨haudits, sequence, previous, digest, rfl⟩ := appendAuditEvent_audits hevent
    refine ⟨_, haudits, fun directive' hd => ⟨_, rfl, rfl, rfl, ?_⟩⟩
    obtain rfl := Option.some.inj hd
    rfl

private theorem applyResume_spec {t : Database} (ha : Accepted C.hashes envelope)
    (hcommand : envelope.command = .runResume command) (hacts : Acts C command.credential now s control lease)
    (hidle : control.activeDispatchReservationId = none)
    (hrun : lookup AgentRun.id s.agentRuns control.runId = some run)
    (hresumable : Resumable s t command control run resumption)
    (h : Returns (applyResume C signer workspace envelope command run lease resumption now) o t n answer s' n') :
    answer.outcome = .applied ∧ Recorded C envelope answer.receipt s s' ∧
      Resumes C command.credential now s s' control lease run resumption.recovery ∧ s'.agentSteps = t.agentSteps := by
  have hrunId : run.id = control.runId := (lookup_eq_some hrun).2
  obtain ⟨hwaiting, hid, ⟨hkeptRun, hkeptBudget, hkeptRevision, hkeptActive⟩, hrecovery, hdirective, hnamed,
    hunconsumed, agentSteps, rfl⟩ := hresumable
  obtain ⟨hnew, _, h⟩ := insertCommandEnvelope_bind h
  obtain ⟨_, _, _, hupdate, h⟩ := returns_bind.mp h
  obtain ⟨agentRuns, hruns, rfl⟩ := updateAgentRunExact_spec hupdate hrun hid
  obtain ⟨next, controls, projection, _, hadvances, hp, -, h⟩ :=
    advances_of_advanceControl h hacts.controlRow hkeptRun hkeptBudget hkeptRevision
  dsimp only at hadvances
  rw [hkeptActive, hidle, hrecovery] at hadvances
  obtain ⟨proof, proofs, _, h⟩ := signCommandTransition_bind h
  obtain ⟨_, _, _, hcompleted, h⟩ := returns_bind.mp h
  obtain ⟨events, ⟨journal, hgrows, -, rfl⟩, hevents⟩ := completeRecovery_spec hcompleted
  obtain ⟨receipt, final, _, hrecord, h⟩ := returns_bind.mp h
  obtain ⟨eventId, sequence, previous, digest, journal', hgrows', hrecords, hs'⟩ :=
    recordCommand_records (s := s) hrecord ha hnew rfl rfl (resumeEvent_workspaceId _ _ _)
  obtain ⟨rfl, rfl, -⟩ := returns_pure.mp h
  have hall := (hp.grows hgrows).trans hgrows'
  rw [hrunId] at hunconsumed
  have hmarked : ∀ directive ∈ resumption.recovery, 2 ≤ resumptions final control.runId directive.directiveId := by
    intro directive hd
    obtain ⟨event, rfl, hkind, heventRun, heventDirective⟩ := hevents directive hd
    have happended := hall.auditEvents_eq
    rw [show journal' = final.journal from (congrArg Database.journal hs').symm] at happended
    refine resumptions_pair happended ⟨hkind, hrunId ▸ heventRun, heventDirective⟩ ?_
    rw [Option.mem_def.mp hd, Option.map_some] at hnamed
    have htarget : command.runId = control.runId := hacts.control_runId.symm
    simp [resumeEvent, commandEvent, populateCommandEvent, hcommand, OperatorCommand.shape, linked,
      Option.mem_def.mp hd, ← hnamed, htarget, base]
  subst hs'
  refine ⟨rfl, ⟨_, hall, hrecords _⟩, ⟨hacts, hidle, hrun, hwaiting, ⟨_, hruns⟩, fun directive hd => ?_,
    fun directive hd => ⟨hunconsumed directive hd, hmarked directive hd⟩, ⟨next, hadvances⟩,
    ⟨_, envelope, receipt, hall, hrecords _⟩, rfl⟩, rfl⟩
  obtain ⟨hstored, hdirectiveRun, hcontrol⟩ := hdirective directive hd
  exact ⟨hstored, hdirectiveRun.trans hrunId, hcontrol⟩

private theorem resumeRun_spec (hs : s.Keyed)
    (ha : Accepted C.hashes envelope) (hcommand : envelope.command = .runResume command)
    (h : Returns (resumeRun C signer workspace envelope command now) o s n answer s' n') :
    (Recorded C envelope answer.receipt s s' ∧ answer.outcome = .applied ∧
      ∃ control lease run recovery, Resumes C command.credential now s s' control lease run recovery ∧
        recovery.map RecoveryDirective.directiveId = command.recoveryDirectiveId) ∧
    ∀ requestId ∈ command.approvalRequestId, ∃ step',
      lookup AgentRunStep.id s'.agentSteps command.stepId = some step' ∧
        step'.approvalRequestId = some requestId := by
  simp only [resumeRun, loadControl, loadAgentRunExact, loadAgentStepExact, returns_loadRow_bind] at h
  obtain ⟨-, control, hcontrol, -, -, run, hrun, -, -, step, hstep, -, h⟩ := h
  obtain ⟨checkpoint, _, hcheckpoint, h⟩ := (readOnly_loadLatestCheckpointIdentity _).returns_bind h
  obtain ⟨lease, _, _, hlease, h⟩ := returns_bind.mp h
  obtain ⟨rfl, hacts⟩ := loadCommandLease_spec hs hlease hcontrol
  simp only [returns_failIf_bind, or_eq_false_iff, Option.isSome_eq_false_iff, Option.isNone_iff_eq_none] at h
  obtain ⟨⟨-, hidle⟩, h⟩ := h
  obtain ⟨resumption, _, _, hload, h⟩ := returns_bind.mp h
  obtain ⟨hresumable, hnamed⟩ := loadResumption_spec hstep hload
  have hcontrolId : control.runId = command.runId := (lookup_eq_some hcontrol).2
  rw [← hcontrolId] at hrun
  obtain ⟨happlied, hrecorded, hresumes, hsteps⟩ := applyResume_spec ha hcommand (hacts rfl) hidle hrun hresumable h
  refine ⟨⟨hrecorded, happlied, control, lease, run, resumption.recovery, hresumes, hresumable.named⟩, ?_⟩
  rwa [hsteps]

/-! ### Revocations and execution -/

private theorem revokeSession_spec (ha : Accepted C.hashes envelope)
    (h : Returns (revokeSession C signer workspace envelope now) o s n answer s' n') :
    Recorded C envelope answer.receipt s s' ∧ answer.outcome = .applied ∧ Change C none now s s' := by
  obtain ⟨hnew, _, h⟩ := insertCommandEnvelope_bind h
  obtain ⟨proof, proofs, _, h⟩ := signCommandTransition_bind h
  obtain ⟨receipt, hrecord, rfl⟩ := returns_bind_pure h
  obtain ⟨_, _, _, _, journal', hgrows, hrecords, rfl⟩ :=
    recordCommand_records hrecord ha hnew rfl rfl (commandEvent_workspaceId _ _ _ _ _)
  exact ⟨⟨_, hgrows, hrecords []⟩, rfl, .recorded hgrows (hrecords [])⟩

def OperatorCommand.credential : OperatorCommand → Option Credential
  | .runCancel command => some command.credential
  | .runResume command => some command.credential
  | .approvalDecision _ | .sessionRevoke _ => none

/-- What a command that is carried out does beside being recorded. -/
def OperatorCommand.CarriedOut (C : OperatorStoreContext) (now : Instant) (s s' : Database)
    (outcome : CommandResultOutcome) : OperatorCommand → Prop
  | .approvalDecision _ => False
  | .runCancel command => outcome = .alreadyTerminal ∧ Change C (some command.credential) now s s' ∨
      outcome = .applied ∧ ∃ control lease run, Cancels C command.credential now s s' control lease run
  | .runResume command => outcome = .applied ∧ ∃ control lease run recovery,
      Resumes C command.credential now s s' control lease run recovery ∧
        recovery.map RecoveryDirective.directiveId = command.recoveryDirectiveId
  | .sessionRevoke _ => outcome = .applied ∧ Change C none now s s'

/-- How a command's transaction ends: it reports what stands, carries it out, or refuses it. -/
def CommandDid (C : OperatorStoreContext) (command : OperatorCommand) (o : Nat → Answer) (s s' : Database) :
    Except OperatorStoreError CommandResult → Prop
  | .error error => (∃ now m, (o m).now = some now) ∧ CommandRefused C.hashes error s s'
  | .ok result =>
    (result.outcome = .exactReplay ∧ s' = s ∧ ∃ envelope, envelope.command = command ∧
      findCommand s command.binding = some (envelope, result.receipt)) ∨
    ∃ now m envelope, (o m).now = some now ∧ envelope.command = command ∧ findCommand s command.binding = none ∧
      Recorded C envelope result.receipt s s' ∧ command.CarriedOut C now s s' result.outcome

private theorem repeatCommand_spec {command : OperatorCommand} {requestDigest : ControlDigest}
    (hfound : findCommand s command.binding = some (envelope, receipt))
    (h : Returns (repeatCommand C command requestDigest envelope receipt) o s n result s' n') :
    CommandDid C command o s s' result := by
  unfold repeatCommand at h
  split at h
  · simp only [returns_failIf_bind, returns_uuidColumn_bind, returns_lift_bind, returns_statement_bind, returns_pure,
      exists_unit, bne_eq_false_iff_eq] at h
    obtain ⟨rfl, -, -, -, -, rfl, rfl, -⟩ := h
    exact .inl ⟨rfl, rfl, envelope, rfl, hfound⟩
  · simp only [returns_operatorNow_bind, returns_operatorUuid_bind] at h
    obtain ⟨now, hnow, eventId, -, h⟩ := h
    obtain ⟨event, _, hevent, rfl⟩ := returns_commit h
    obtain ⟨appended, hkind, haudits⟩ := appendAuditEvent_kind hevent
    rw [commandEvent_kind] at hkind
    exact ⟨⟨now, _, hnow⟩, appended, haudits, .inr ⟨rfl, hkind⟩⟩

private theorem runCommand_spec {m : Nat} (hs : s.Keyed) (ha : Accepted C.hashes envelope) (hnow : (o m).now = some now)
    (hnew : findCommand s envelope.command.binding = none)
    (h : Returns (runCommand C signer workspace envelope now) o s n result s' n') :
    CommandDid C envelope.command o s s' result := by
  unfold runCommand at h
  split at h
  · rename_i command hcommand
    obtain ⟨error, rfl, hrefused⟩ := decideApproval_spec hcommand h
    exact ⟨⟨now, m, hnow⟩, hrefused⟩
  · rename_i command hcommand
    obtain ⟨result, hcancel, rfl⟩ := returns_bind_pure h
    obtain ⟨hrecorded, hdone⟩ := cancelRun_spec hs ha hcancel
    exact .inr ⟨now, m, envelope, hnow, rfl, hnew, hrecorded, hcommand ▸ hdone⟩
  · rename_i command hcommand
    obtain ⟨result, hresume, rfl⟩ := returns_bind_pure h
    obtain ⟨⟨hrecorded, hdone⟩, -⟩ := resumeRun_spec hs ha hcommand hresume
    exact .inr ⟨now, m, envelope, hnow, rfl, hnew, hrecorded, hcommand ▸ hdone⟩
  · rename_i command hcommand
    obtain ⟨result, hrevoke, rfl⟩ := returns_bind_pure h
    obtain ⟨hrecorded, hdone⟩ := revokeSession_spec ha hrevoke
    exact .inr ⟨now, m, envelope, hnow, rfl, hnew, hrecorded, hcommand ▸ hdone⟩

theorem validateCommandScope_valid
    (h : Returns (validateCommandScope C request) o s n workspace s' n') : request.command.validate = .ok () := by
  simp only [validateCommandScope, returns_invalidIf_bind, returns_orElse_bind, exists_unit] at h
  exact h.2.1

section
variable (h : Returns (executeInTransaction C signer request) o s n result s' n')
include h

private theorem executeInTransaction_cases :
    (∃ envelope receipt requestDigest m, findCommand s request.command.binding = some (envelope, receipt) ∧
      Returns (repeatCommand C request.command requestDigest envelope receipt) o s m result s' n') ∨
    ∃ workspace requestDigest now m, (∃ k, (o k).now = some now) ∧ findCommand s request.command.binding = none ∧
      Accepted C.hashes (request.command.envelope requestDigest now) ∧
      Returns (runCommand C signer workspace (request.command.envelope requestDigest now) now) o s m result s' n' := by
  obtain ⟨-, h⟩ := returns_statement_bind.mp h
  obtain ⟨workspace, _, hscope, h⟩ := (readOnly_validateCommandScope _).returns_bind h
  simp only [returns_orElse_bind, returns_select_bind] at h
  obtain ⟨requestDigest, hdigest, -, h⟩ := h
  split at h
  · rename_i hfound
    exact .inl ⟨_, _, _, _, hfound, h⟩
  · rename_i hnew
    simp only [returns_operatorNow_bind, returns_failIf_bind] at h
    obtain ⟨now, hnow, -, h⟩ := h
    exact .inr ⟨workspace, requestDigest, now, _, ⟨_, hnow⟩, hnew,
      ⟨rfl, validateCommandScope_valid hscope, hdigest⟩, h⟩

theorem executeInTransaction_spec (hs : s.Keyed) : CommandDid C request.command o s s' result := by
  rcases executeInTransaction_cases h with ⟨_, _, _, _, hfound, h⟩ | ⟨_, _, _, _, ⟨_, hnow⟩, hnew, ha, h⟩
  · exact repeatCommand_spec hfound h
  · exact runCommand_spec hs ha hnow hnew h

theorem executeInTransaction_decision {command : ApprovalDecisionCommand}
    (hcommand : request.command = .approvalDecision command) :
    (∃ error, result = .error error ∧ CommandRefused C.hashes error s s') ∨
      ∃ r, result = .ok r ∧ r.outcome = .exactReplay ∧ s' = s := by
  rcases executeInTransaction_cases h with ⟨_, _, _, _, hfound, h⟩ | ⟨_, _, _, _, -, -, -, h⟩
  · have hdid := repeatCommand_spec hfound h
    cases result with
    | error error => exact .inl ⟨error, rfl, hdid.2⟩
    | ok r =>
      rcases hdid with ⟨hreplay, hs, -⟩ | ⟨_, _, _, -, -, hnone, -⟩
      · exact .inr ⟨r, rfl, hreplay, hs⟩
      · cases hfound.symm.trans hnone
  · simp only [runCommand, OperatorCommand.envelope, hcommand] at h
    exact .inl (decideApproval_spec rfl h)

end

/-- An applied resume of an approval leaves a step that still names the request. -/
theorem executeInTransaction_resumed {requestId : Uuid} {r : CommandResult} (hs : s.Keyed)
    (hcommand : request.command = .runResume command) (hrequest : command.approvalRequestId = some requestId)
    (happlied : r.outcome = .applied) (h : Returns (executeInTransaction C signer request) o s n (.ok r) s' n') :
    ∃ step', lookup AgentRunStep.id s'.agentSteps command.stepId = some step' ∧
      step'.approvalRequestId = some requestId := by
  rcases executeInTransaction_cases h with ⟨_, _, _, _, hfound, h⟩ | ⟨_, _, _, _, -, -, ha, h⟩
  · rcases repeatCommand_spec hfound h with ⟨hreplay, -⟩ | ⟨_, _, _, -, -, hnone, -⟩
    · cases happlied.symm.trans hreplay
    · cases hfound.symm.trans hnone
  · simp only [runCommand, OperatorCommand.envelope, hcommand] at h
    obtain ⟨_, hresume, -⟩ := returns_bind_pure h
    exact (resumeRun_spec hs (hcommand ▸ ha) rfl hresume).2 requestId hrequest

/-- What is left of a command, however its execution ends. -/
theorem executeOperatorCommand_did (signer : OperatorSigner) (hs : s.Keyed) (request : CommandExecutionRequest)
    (o : Nat → Answer) (n : Nat) :
    (∃ error, (executeOperatorCommand C signer request o s n).result = .error error ∧
        (executeOperatorCommand C signer request o s n).state = s) ∨
      CommandDid C request.command o s (executeOperatorCommand C signer request o s n).state
        (executeOperatorCommand C signer request o s n).result := by
  rcases lift_atomically_cases (executeInTransaction C signer request) o s n with hfailed | ⟨r, s', n', h, hr, hs'⟩
  · exact .inl hfailed
  · refine .inr ?_
    rw [show (executeOperatorCommand C signer request o s n).state = s' from hs',
      show (executeOperatorCommand C signer request o s n).result = r from hr]
    exact executeInTransaction_spec h hs

theorem CommandDid.effect {command : OperatorCommand}
    (h : CommandDid C command o s s' result) : Effect C command.credential o s s' := by
  cases result with
  | error error =>
    obtain ⟨⟨now, m, hm⟩, event, haudits, -⟩ := h
    exact .inr ⟨now, m, hm, change_of_audits haudits⟩
  | ok result =>
    rcases h with ⟨-, hs, -⟩ | ⟨now', m', envelope, hm', -, -, -, hdone⟩
    · exact .inl hs
    · refine .inr ⟨now', m', hm', ?_⟩
      cases command with
      | approvalDecision command => exact hdone.elim
      | runCancel command =>
        rcases hdone with ⟨-, hchange⟩ | ⟨-, control, lease, run, hcancels⟩
        · exact hchange
        · exact .cancelled hcancels
      | runResume command =>
        obtain ⟨-, control, lease, run, recovery, hresumes, -⟩ := hdone
        exact .resumed hresumes
      | sessionRevoke command => exact hdone.2

end ProofPlatform.Operator
