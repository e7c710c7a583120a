import ProofPlatform.Operator.LeaseStore

/-! Budget is reserved before a boundary call and given back when the call is not made. -/
namespace ProofPlatform.Operator
open Kernel Library Fallible Transaction Tx Table Bool

variable (C : OperatorStoreContext)

/-- The digest of an intent, where the strict serializers accept it. -/
def intentDigestIs (intent : DispatchIntent) (digest : ControlDigest) : Bool :=
  intent.onWire && digest == C.hashes.dispatchIntent intent

variable (request : BudgetReserveRequest)

def BudgetReserveRequest.wellFormed : Bool :=
  request.schema == "proof.operator.budget-reserve-request/v1" &&
  allV7 [request.reservationId, request.idempotencyKey] && request.intent.validate matches .ok _ &&
  (request.replay.all fun binding => binding.validate C.hashes matches .ok _) &&
  (request.recovery.all fun directive => directive.validate C.hashes matches .ok _) &&
  intentDigestIs C request.intent request.intentDigest

def budgetRequestDigest : Except OperatorStoreError ControlDigest := do
  reject (!request.intent.onWire || request.replay.any (fun binding => !binding.onWire) ||
    request.recovery.any fun directive => !directive.onWire) .invalid
  pure (C.hashes.budgetRequest request)

def openReservations (db : Database) (runId : Uuid) : Nat :=
  db.reservations.countP fun reservation => decide (reservation.runId = runId) && reservationOpen reservation

/-- The run as projected is the run as it stands, and it is running. -/
def RunProjection.currentFor (projection : RunProjection) (run : AgentRun) (control : RunControl) (lease : RunLease) :
    Bool :=
  projection.sourceRunRevision == run.revision && projection.sourceControlRevision == control.controlRevision &&
  projection.fenceEpoch == lease.fenceEpoch && projection.attention == .running

variable (control : RunControl)

/-- A replay claim to be bound names the run's own step and checkpoint. -/
def BudgetReserveRequest.namesStep (replay : ReplayClaimBinding) (run : AgentRun) (checkpoint : CheckpointIdentity)
    (step : AgentRunStep) : Bool :=
  replay.workspaceId == control.workspaceId && replay.runId == control.runId &&
  replay.checkpoint == checkpoint && replay.operation == request.intent.operation &&
  replay.version == request.intent.version && replay.inputDigest == step.inputDigest &&
  replay.claimedBy == run.actor && step.runId == run.id && step.status == .running

def checkReserveReplay (run : AgentRun) (checkpoint : CheckpointIdentity) : StoreM Unit :=
  match request.replay with
  | none => pure ()
  | some replay => do
    let step ← loadAgentStepExact replay.stepId
    failIf (!request.namesStep control replay run checkpoint step) .invalid

/-- The reservation a directive was made from is released and is the one it describes. -/
def RecoveryDirective.sourceIs (directive : RecoveryDirective) (source : BudgetReservation) : Bool :=
  source.state == .released && source.reservationId == directive.sourceReservationId &&
  source.budgetId == directive.sourceBudgetId && source.idempotencyKey == directive.sourceIdempotencyKey &&
  source.requestDigest == directive.sourceRequestDigest && source.intentDigest == directive.intentDigest &&
  source.replay == directive.replay

/-- A directive may be used once, after the run was resumed under it. -/
def checkReserveRecovery (run : AgentRun) : StoreM Unit :=
  match request.recovery with
  | none =>
    failIf (control.recoveryDirectiveId.isSome || control.recoveryDirectiveDigest.isSome) .notActionable
  | some recovery => do
    let stored ← loadRecoveryDirective C recovery.directiveId
    let source ← loadReservation C recovery.sourceReservationId
    let reused ← select fun db => db.reservations.countP fun row =>
      decide (row.recovery.map RecoveryDirective.directiveId = some recovery.directiveId)
    let resumed ← select fun db => resumptions db run.id recovery.directiveId
    failIf (stored != recovery || control.recoveryDirectiveId.isSome || control.recoveryDirectiveDigest.isSome ||
      !recovery.sourceIs source || request.intentDigest != recovery.intentDigest ||
      request.replay != recovery.replay || reused != 0 || decide (resumed < 2)) .notActionable

variable (lease : RunLease)

def BudgetReserveRequest.reservation (requestDigest : ControlDigest) (now : Instant) : BudgetReservation where
  schema := BudgetReservation.schemaName
  reservationId := request.reservationId
  budgetId := control.budgetId
  runId := control.runId
  leaseId := lease.leaseId
  fenceEpoch := lease.fenceEpoch
  idempotencyKey := request.idempotencyKey
  requestDigest := requestDigest
  kind := request.intent.kind
  intent := request.intent
  intentDigest := request.intentDigest
  replay := request.replay
  recovery := request.recovery
  state := .reserved
  reserved := request.intent.ceiling
  charged := .zero
  createdAt := now
  permitId := none
  dispatchTokenDigest := none
  callDigest := none
  preparedExecutionDigest := none
  resultDigest := none
  preparedBinding := none
  runtimeCommit := none
  dispatchStartedAt := none
  settledAt := none

/-- How the transaction of a reserve call ends, when it commits. -/
inductive ReserveStep where
  | existing (control : RunControl) (reservation : BudgetReservation)
  | rejected (error : OperatorStoreError)
  | reserved (result : BudgetReserveResult)

/-- A refusal that is put on record before it is reported. -/
def rejectReserve (now : Instant) (error : OperatorStoreError) : StoreM ReserveStep := do
  let _ ← appendBudgetEvent C control lease request.reservationId request.intentDigest .budgetRejected .rejected now
  statement
  pure (.rejected error)

/-- Store the reservation and the account that is charged with it. -/
def placeReservation (budget : BudgetAccount) (now : Instant) : StoreM (BudgetReservation × BudgetAccount) := do
  let requestDigest ← lift (budgetRequestDigest C request)
  let reservation := request.reservation control lease requestDigest now
  orElse (reservation.validate C.hashes) .invalid
  insertReservation reservation
  let reserved ← lift (addAmounts budget.reserved reservation.reserved)
  let budget := budget.withTotals reserved budget.committed now
  updateBudget C budget
  pure (reservation, budget)

def reportReserved (reservation : BudgetReservation) (budget : BudgetAccount) (now : Instant) : StoreM ReserveStep := do
  let _ ← appendBudgetEvent C control lease reservation.reservationId reservation.intentDigest .budgetReserved
    .accepted now
  statement
  pure (.reserved ⟨.reserved, reservation, budget.revision, control.controlRevision⟩)

def openReservation (budget : BudgetAccount) (now : Instant) : StoreM ReserveStep := do
  let (reservation, budget) ← placeReservation C request control lease budget now
  let control ← advanceControl C control lease.fenceEpoch now
  reportReserved C control lease reservation budget now

def reserveNew (now : Instant) : StoreM ReserveStep := do
  let opened ← select fun db => openReservations db control.runId
  if opened != 0 || control.activeDispatchReservationId.isSome then
    rejectReserve C request control lease now .conflict
  else
    let run ← loadAgentRunExact control.runId
    failIf (run.status != .running) .notActionable
    let projection ← loadRow (fun db => latestProjection db control.runId) .unavailable
      (RunProjection.validate C.hashes)
    failIf (!projection.currentFor run control lease) .corrupt
    let checkpoint ← loadLatestCheckpointIdentity control.runId
    failIf (checkpoint != projection.checkpoint) .corrupt
    checkReserveReplay request control run checkpoint
    checkReserveRecovery C request control run
    let budget ← loadBudget C control.budgetId
    match budget.canReserve C.hashes request.intent.ceiling now with
    | .error _ => rejectReserve C request control lease now .notActionable
    | .ok _ => openReservation C request control lease budget now

def repeatReserve (reservation : BudgetReservation) : StoreM ReserveStep := do
  orElse (reservation.validate C.hashes) .corrupt
  let expected ← lift (budgetRequestDigest C request)
  failIf (reservation.requestDigest != expected || reservation.reservationId != request.reservationId) .conflict
  statement
  pure (.existing control reservation)

def reserveInTransaction : StoreM ReserveStep := do
  statement
  let now ← operatorNow
  let (control, lease) ← validateAuthority C request.authority now
  match ← select fun db => db.reservations.find? fun row =>
      decide (row.budgetId = control.budgetId ∧ row.idempotencyKey = request.idempotencyKey) with
  | some reservation => repeatReserve C request control reservation
  | none => reserveNew C request control lease now

def answerReserve : ReserveStep → StoreM BudgetReserveResult
  | .existing control reservation => do
    statement
    let budget ← loadBudget C control.budgetId
    statement
    pure ⟨.exactExisting, reservation, budget.revision, control.controlRevision⟩
  | .rejected error => fail error
  | .reserved result => pure result

def reserveAggregateBudget : StoreM BudgetReserveResult := do
  invalidIf (!request.wellFormed C)
  answerReserve C (← atomically (reserveInTransaction C request))

/-! ### Release before dispatch -/

/-- Release a reservation, project the run and audit the release under the given kind. -/
def releaseAndAdvance (reservation : BudgetReservation)
    (budget : BudgetAccount) (kind : AuditEventKind) (outcome : AuditOutcome) (now : Instant) :
    StoreM BudgetSettlementResult := do
  let (reservation, budget) ← releaseReservation C reservation budget now
  let control ← advanceControl C control lease.fenceEpoch now
  let _ ← appendBudgetEvent C control lease reservation.reservationId reservation.intentDigest kind outcome now
  statement
  pure ⟨reservation, budget.revision, control.controlRevision⟩

def settleInTransaction (request : BudgetSettlementRequest) :
    StoreM (Except OperatorStoreError BudgetSettlementResult) := do
  statement
  let now ← operatorNow
  let (control, lease) ← validateAuthority C request.authority now
  let reservation ← loadReservation C request.reservationId
  failIf (reservation.runId != control.runId || reservation.leaseId != lease.leaseId) .notActionable
  if reservation.state == .dispatching then
    failIf (control.activeDispatchReservationId != some reservation.reservationId) .corrupt
    let _ ← appendBudgetEvent C control lease reservation.reservationId reservation.intentDigest .budgetRejected
      .rejected now
    statement
    pure (.error .notActionable)
  else
    failIf (reservation.state != .reserved) .notActionable
    let budget ← loadBudget C reservation.budgetId
    pure (.ok (← releaseAndAdvance C control lease reservation budget .budgetReleased .accepted now))

def settleBudgetReservation (request : BudgetSettlementRequest) : StoreM BudgetSettlementResult := do
  invalidIf (request.schema != "proof.operator.budget-settlement-request/v1" || !uuidIsV7 request.reservationId)
  lift (← atomically (settleInTransaction C request))

section Effects
variable {C} {o : Nat → Answer} {s s' : Database} {n n' : Nat} {now : Instant} {credential : Credential}
  {control : RunControl} {lease : RunLease}
variable {request : BudgetReserveRequest} {step : ReserveStep} {reservation : BudgetReservation}

theorem loadReservation_spec {reservationId : Uuid}
    (h : Returns (loadReservation C reservationId) o s n reservation s' n') :
    s.reservation? reservationId = some reservation ∧
      reservation.validate C.hashes = .ok () ∧ s = s' := by
  simp only [loadReservation, returns_loadRow_bind, returns_invalidIf_bind, returns_pure] at h
  obtain ⟨-, row, hrow, hv, -, rfl, rfl, -⟩ := h
  exact ⟨hrow, hv, rfl⟩

/-- What the transaction of a reserve call has done, by how it ends. -/
def ReserveStep.Did (C : OperatorStoreContext) (request : BudgetReserveRequest) (o : Nat → Answer) (s s' : Database) :
    ReserveStep → Prop
  | .existing control reservation => s' = s ∧
      lookup RunControl.runId s.controls request.authority.runId = some control ∧
      control.controlRevision = request.authority.expectedControlRevision ∧
      safeOnWire request.authority.expectedControlRevision = true ∧ reservation ∈ s.reservations ∧
      reservation.requestDigest = C.hashes.budgetRequest request
  | .rejected error => (error = .conflict ∨ error = .notActionable) ∧ Rejects C.hashes s s'
  | .reserved _ => (∃ run, lookup AgentRun.id s.agentRuns request.authority.runId = some run ∧
        run.status = .running) ∧
      (∃ now n, (o n).now = some now ∧ Change C (some request.authority.credential) now s s') ∧
      ∃ control next, lookup RunControl.runId s.controls request.authority.runId = some control ∧
        control.controlRevision = request.authority.expectedControlRevision ∧
        lookup RunControl.runId s'.controls request.authority.runId = some next ∧
        next.controlRevision = control.controlRevision + 1

theorem budgetRequestDigest_eq_ok {digest : ControlDigest}
    (h : budgetRequestDigest C request = .ok digest) : digest = C.hashes.budgetRequest request := by
  simp only [budgetRequestDigest, bind_eq_ok] at h
  obtain ⟨-, -, h⟩ := h
  exact (Except.ok.inj h).symm

theorem rejectReserve_spec {error : OperatorStoreError}
    (h : Returns (rejectReserve C request control lease now error) o s n step s' n') :
    step = .rejected error ∧ Rejects C.hashes s s' := by
  obtain ⟨_, _, hevent, rfl⟩ := returns_commit h
  exact ⟨rfl, appendBudgetEvent_audits hevent⟩

private theorem readOnly_checkReserveReplay (request : BudgetReserveRequest) (control : RunControl) (run : AgentRun)
    (checkpoint : CheckpointIdentity) : ReadOnly (checkReserveReplay request control run checkpoint) := by
  unfold checkReserveReplay
  split
  · exact .pure _
  · exact .bind (readOnly_loadRow _ _ _) fun _ => .lift _

private theorem loadRecoveryDirective_spec {directiveId : Uuid} {directive : RecoveryDirective}
    (h : Returns (loadRecoveryDirective C directiveId) o s n directive s' n') :
    lookup RecoveryDirective.directiveId s.directives directiveId = some directive ∧ s = s' := by
  simp only [loadRecoveryDirective, returns_selectOr_bind, returns_orFail_bind, returns_orElse_bind, returns_pure,
    exists_unit] at h
  obtain ⟨-, row, hrow, -, rfl, rfl, -⟩ := h
  exact ⟨hrow, rfl⟩

private theorem checkReserveRecovery_spec {run : AgentRun} {u : Unit}
    (h : Returns (checkReserveRecovery C request control run) o s n u s' n')
    (hrecovery : reservation.recovery = request.recovery) (hintent : reservation.intentDigest = request.intentDigest)
    (hreplay : reservation.replay = request.replay) : Recovers s control reservation ∧ s = s' := by
  unfold checkReserveRecovery at h
  split at h
  · rename_i hnone
    obtain ⟨hidle, rfl, -⟩ := returns_failIf.mp h
    simp only [or_eq_false_iff, Option.isSome_eq_false_iff, Option.isNone_iff_eq_none] at hidle
    refine ⟨⟨hidle.1, ?_, ?_, ?_, ?_⟩, rfl⟩ <;> simp [hrecovery, hnone]
  · rename_i recovery hsome
    obtain ⟨stored, _, _, hdirective, h⟩ := returns_bind.mp h
    obtain ⟨hstored, rfl⟩ := loadRecoveryDirective_spec hdirective
    obtain ⟨source, _, _, hload, h⟩ := returns_bind.mp h
    obtain ⟨hsource, -, rfl⟩ := loadReservation_spec hload
    simp only [returns_select_bind, returns_failIf, or_eq_false_iff, bne_eq_false_iff_eq,
      Option.isSome_eq_false_iff, Option.isNone_iff_eq_none, not_eq_false', List.countP_eq_zero,
      decide_eq_true_eq] at h
    obtain ⟨-, -, ⟨⟨⟨⟨⟨⟨⟨rfl, hidle⟩, -⟩, hsourceIs⟩, hintent'⟩, hreplay'⟩, hunused⟩, -⟩, rfl, -⟩ := h
    simp only [RecoveryDirective.sourceIs, and_eq_true, beq_iff_eq] at hsourceIs
    refine ⟨⟨hidle, ?_, ?_, ?_, ?_⟩, rfl⟩ <;>
      simp only [hrecovery, hsome, Option.mem_def, Option.some.injEq, forall_eq']
    · exact hstored
    · exact ⟨source, hsourceIs.1.1.1.1.1.1, hsource⟩
    · exact ⟨hintent.trans hintent', hreplay.trans hreplay'⟩
    · exact hunused

theorem openReservation_spec {budget : BudgetAccount} (hacts : Acts C credential now s control lease)
    (hasked : request.authority.runId = control.runId ∧
      request.authority.expectedControlRevision = control.controlRevision ∧
      safeOnWire request.authority.expectedControlRevision = true)
    (hidle : control.activeDispatchReservationId = none)
    (hvacant : ∀ row ∈ s.reservations, row.runId = control.runId → reservationOpen row = false)
    (hrecovers : ∀ digest, Recovers s control (request.reservation control lease digest now))
    (hbudget : lookup BudgetAccount.budgetId s.budgets control.budgetId = some budget)
    (h : Returns (openReservation C request control lease budget now) o s n step s' n') :
    (∃ result, step = .reserved result) ∧ Change C (some credential) now s s' ∧
      ∃ next, lookup RunControl.runId s'.controls control.runId = some next ∧
        next.controlRevision = control.controlRevision + 1 := by
  simp only [openReservation, placeReservation, insertReservation, updateBudget, bind_assoc, pure_bind,
    returns_lift_bind, returns_orElse_bind, returns_invalidIf_bind, returns_insertInto_bind, returns_updateRow_bind,
    exists_unit] at h
  obtain ⟨digest, hdigest, hvalid, -, -, hclash, reserved, hadd, hvb, -, budgets, hbudgets, h⟩ := h
  obtain rfl := budgetRequestDigest_eq_ok hdigest
  obtain ⟨next, controls, projection, _, hadvances, hp, -, h⟩ :=
    advances_of_advanceControl h hacts.controlRow rfl rfl rfl
  obtain ⟨event, _, hevent, rfl⟩ := returns_commit h
  obtain ⟨appended, -, journal, hgrows, -, rfl⟩ := appendBudgetEvent_audits hevent
  simp only [addAmounts, bind_eq_ok, orReject_eq_ok] at hadd
  obtain ⟨sum, hsum, -, -, he⟩ := hadd
  obtain rfl := Except.ok.inj he
  obtain rfl := BudgetAmounts.eq_add_of_checkedAdd hsum
  have hopens : Opens s.books
      ⟨budgets, s.reservations ++ [request.reservation control lease (C.hashes.budgetRequest request) now]⟩
      (request.reservation control lease (C.hashes.budgetRequest request) now) budget
      (budget.withTotals (budget.reserved + request.intent.ceiling) budget.committed now) := by
    refine ⟨rfl, fun row hrow => ?_, rfl, .of_lookup hbudgets hbudget rfl, (lookup_eq_some hbudget).2, rfl, rfl,
      rfl, BudgetReservation.charged_le_of_validate hvalid, (BudgetAccount.validate_iff.mp hvb).2.2.2⟩
    have hc := hclash row hrow
    simp only [or_eq_false_iff, decide_eq_false_iff_not] at hc
    exact hc.1
  rw [hidle] at hadvances
  refine ⟨⟨_, rfl⟩, .reserved hacts hopens rfl hidle hvacant (hrecovers _) ⟨rfl, hasked⟩ ⟨rfl, rfl⟩ hadvances
    (hp.grows hgrows), next, ?_, hadvances.revision⟩
  rw [hadvances.rows.lookup_eq, if_pos rfl]

theorem openReservations_eq_zero {runId : Uuid} (h : openReservations s runId = 0) :
    ∀ row ∈ s.reservations, row.runId = runId → reservationOpen row = false := by
  intro row hrow hrun
  have hclosed := List.countP_eq_zero.mp h row hrow
  simpa [hrun] using hclosed

theorem reserveNew_spec
    (hacts : Acts C request.authority.credential now s control lease) (hnow : ∃ m, (o m).now = some now)
    (hrevision : control.controlRevision = request.authority.expectedControlRevision)
    (hsafe : safeOnWire request.authority.expectedControlRevision = true)
    (h : Returns (reserveNew C request control lease now) o s n step s' n') : step.Did C request o s s' := by
  simp only [reserveNew, returns_select_bind] at h
  obtain ⟨-, h⟩ := h
  split at h
  · obtain ⟨rfl, hrejects⟩ := rejectReserve_spec h
    exact ⟨.inl rfl, hrejects⟩
  · rename_i hfree
    simp only [not_eq_true, or_eq_false_iff, bne_eq_false_iff_eq, Option.isSome_eq_false_iff,
      Option.isNone_iff_eq_none] at hfree
    simp only [loadAgentRunExact, returns_loadRow_bind, returns_failIf_bind] at h
    obtain ⟨-, run, hrun, -, hrunning, -, projection, -, -, -, h⟩ := h
    obtain ⟨checkpoint, _, hcheckpoint, h⟩ := (readOnly_loadLatestCheckpointIdentity _).returns_bind h
    obtain ⟨-, h⟩ := returns_failIf_bind.mp h
    obtain ⟨_, _, hreplay, h⟩ := (readOnly_checkReserveReplay _ _ _ _).returns_bind h
    obtain ⟨_, _, _, hrecovery, h⟩ := returns_bind.mp h
    have hrecovers (digest : ControlDigest) :=
      (checkReserveRecovery_spec hrecovery rfl rfl rfl :
        Recovers _ control (request.reservation control lease digest now) ∧ _)
    obtain rfl := (hrecovers .blank).2
    simp only [loadBudget, returns_loadRow_bind] at h
    obtain ⟨-, budget, hbudget, -, h⟩ := h
    split at h
    · obtain ⟨rfl, hrejects⟩ := rejectReserve_spec h
      exact ⟨.inr rfl, hrejects⟩
    · obtain ⟨⟨result, rfl⟩, hchange, next, hnext, hadvanced⟩ := openReservation_spec hacts
        ⟨hacts.control_runId.symm, hrevision.symm, hsafe⟩ hfree.2 (openReservations_eq_zero hfree.1)
        (fun digest => (hrecovers digest).1) hbudget h
      rw [hacts.control_runId] at hrun hnext
      obtain ⟨m, hm⟩ := hnow
      exact ⟨⟨run, hrun, by simpa using hrunning⟩, ⟨now, m, hm, hchange⟩, control, next, hacts.controlRow, hrevision,
        hnext, hadvanced⟩

theorem reserveInTransaction_spec
    (h : Returns (reserveInTransaction C request) o s n step s' n') : step.Did C request o s s' := by
  obtain ⟨now, _, control, lease, _, hnow, hacts, hrevision, hsafe, h⟩ := returns_authorized h
  simp only [returns_select_bind] at h
  obtain ⟨-, h⟩ := h
  split at h
  · rename_i reservation hfound
    simp only [repeatReserve, returns_orElse_bind, returns_lift_bind, returns_failIf_bind, returns_statement_bind,
      returns_pure, exists_unit, or_eq_false_iff, bne_eq_false_iff_eq] at h
    obtain ⟨-, digest, hdigest, hsame, -, rfl, rfl, -⟩ := h
    obtain rfl := budgetRequestDigest_eq_ok hdigest
    exact ⟨rfl, hacts.controlRow, hrevision, hsafe, List.mem_of_find?_eq_some hfound, hsame.1⟩
  · exact reserveNew_spec hacts ⟨_, hnow⟩ hrevision hsafe h

theorem ReserveStep.Did.effect (h : step.Did C request o s s')
    (hnow : ∃ now m, (o m).now = some now) : Effect C (some request.authority.credential) o s s' := by
  obtain ⟨now, m, hm⟩ := hnow
  cases step with
  | existing control reservation => exact .inl h.1
  | rejected error =>
    obtain ⟨-, event, -, haudits⟩ := h
    exact .inr ⟨now, m, hm, change_of_audits haudits⟩
  | reserved result => exact .inr h.2.1

private theorem readOnly_answerReserve (step : ReserveStep) : ReadOnly (answerReserve C step) := by
  cases step with
  | existing control reservation =>
    exact .bind readOnly_statement fun _ => .bind (readOnly_loadRow _ _ _) fun _ =>
      .bind readOnly_statement fun _ => .pure _
  | rejected error => exact fun _ _ _ => rfl
  | reserved result => exact .pure _

theorem reserveAggregateBudget_did (request : BudgetReserveRequest) (o : Nat → Answer) (s : Database) (n : Nat) :
    ((∃ error, (reserveAggregateBudget C request o s n).result = .error error) ∧
        (reserveAggregateBudget C request o s n).state = s) ∨
      (∃ error, (reserveAggregateBudget C request o s n).result = .error error ∧
        (ReserveStep.rejected error).Did C request o s (reserveAggregateBudget C request o s n).state) ∨
      ∃ result, (reserveAggregateBudget C request o s n).result = .ok result ∧
        ((result.outcome = .exactExisting ∧ ∃ control reservation, (ReserveStep.existing control reservation).Did C
            request o s (reserveAggregateBudget C request o s n).state) ∨
          (ReserveStep.reserved result).Did C request o s (reserveAggregateBudget C request o s n).state) := by
  unfold reserveAggregateBudget
  rcases checked_cases _ (reserveInTransaction C request) _ o s n with hfailed | ⟨step, s', n', h, hout⟩
  · exact .inl hfailed
  rw [hout]
  have hdid := reserveInTransaction_spec h
  have hkept := readOnly_answerReserve (C := C) step o s' n'
  cases step with
  | rejected error => exact .inr (.inl ⟨error, rfl, hdid⟩)
  | reserved result => exact .inr (.inr ⟨result, rfl, .inr hdid⟩)
  | existing control reservation =>
    rw [hkept]
    cases hresult : (Outcome.result _) with
    | error error => exact .inl ⟨⟨error, rfl⟩, hdid.1⟩
    | ok result =>
      have hreturns := returns_of_result hresult
      simp only [answerReserve, loadBudget, returns_statement_bind, returns_loadRow_bind, returns_pure] at hreturns
      obtain ⟨-, -, budget, -, -, -, rfl, -⟩ := hreturns
      exact .inr (.inr ⟨_, rfl, .inl ⟨rfl, control, reservation, hdid⟩⟩)

theorem reserveAggregateBudget_leaves (request : BudgetReserveRequest) :
    Leaves (Effect C (some request.authority.credential)) (reserveAggregateBudget C request) := by
  refine leaves_of_readOnly_bind (effect_refl _) (.lift _) fun _ => ?_
  refine leaves_bind (leaves_atomically (effect_refl _) fun o s n step s' n' h => ?_) readOnly_answerReserve
  have hnow : ∃ now m, (o m).now = some now := by
    simp only [reserveInTransaction, returns_statement_bind, returns_operatorNow_bind] at h
    exact ⟨h.2.choose, n + 1, h.2.choose_spec.1⟩
  exact (reserveInTransaction_spec h).effect hnow

theorem releaseAndAdvance_spec {budget : BudgetAccount} {kind : AuditEventKind}
    {outcome : AuditOutcome} {result : BudgetSettlementResult} {reservationId : Uuid}
    (hacts : Acts C credential now s control lease) (hr : s.reservation? reservationId = some reservation)
    (hb : lookup BudgetAccount.budgetId s.budgets reservation.budgetId = some budget)
    (hrun : reservation.runId = control.runId)
    (h : Returns (releaseAndAdvance C control lease reservation budget kind outcome now) o s n result s' n') :
    Change C (some credential) now s s' ∧ JournalGrows C.hashes control.runId [kind] s.journal s'.journal := by
  obtain ⟨⟨released, budget'⟩, _, _, hrelease, h⟩ := returns_bind.mp h
  obtain ⟨hstate, rfl, reservations, budgets, hsettles, rfl⟩ := releaseReservation_spec hrelease hr hb
  obtain ⟨next, controls, projection, _, hadvances, hp, -, h⟩ :=
    advances_of_advanceControl h hacts.controlRow rfl rfl rfl
  obtain ⟨event, _, hevent, -⟩ := returns_commit h
  obtain ⟨appended, hkind, journal, hgrows, hprojections, rfl⟩ := appendBudgetEvent_audits hevent
  exact ⟨.released hacts hstate hsettles hrun hadvances (hp.grows hgrows),
    .of_audits hp (show [appended].map AuditEvent.kind = [kind] by simp [hkind]) hgrows hprojections⟩

theorem settleInTransaction_spec {request : BudgetSettlementRequest}
    {settled : Except OperatorStoreError BudgetSettlementResult}
    (h : Returns (settleInTransaction C request) o s n settled s' n') :
    ∃ now m, (o m).now = some now ∧ Change C (some request.authority.credential) now s s' ∧
      (settled = .error .notActionable ∧ Rejects C.hashes s s' ∨ ∃ result, settled = .ok result) := by
  obtain ⟨now, _, control, lease, _, hnow, hacts, -, -, h⟩ := returns_authorized h
  refine ⟨now, _, hnow, ?_⟩
  obtain ⟨reservation, _, _, hload, h⟩ := returns_bind.mp h
  obtain ⟨hr, -, rfl⟩ := loadReservation_spec hload
  obtain ⟨howner, h⟩ := returns_failIf_bind.mp h
  split at h
  · obtain ⟨-, h⟩ := returns_failIf_bind.mp h
    obtain ⟨event, _, hevent, rfl⟩ := returns_commit h
    obtain ⟨appended, hkind, haudits⟩ := appendBudgetEvent_audits hevent
    exact ⟨change_of_audits haudits, .inl ⟨rfl, appended, hkind, haudits⟩⟩
  · simp only [loadBudget, returns_failIf_bind, returns_loadRow_bind] at h
    obtain ⟨-, -, budget, hb, -, h⟩ := h
    obtain ⟨result, hrelease, rfl⟩ := returns_bind_pure h
    simp only [or_eq_false_iff, bne_eq_false_iff_eq] at howner
    exact ⟨(releaseAndAdvance_spec hacts hr hb howner.1 hrelease).1, .inr ⟨result, rfl⟩⟩

theorem settleBudgetReservation_did (request : BudgetSettlementRequest) (o : Nat → Answer) (s : Database) (n : Nat) :
    (settleBudgetReservation C request o s n).state = s ∨
      (settleBudgetReservation C request o s n).result = .error .notActionable ∧
        Rejects C.hashes s (settleBudgetReservation C request o s n).state ∨
      ∃ result, (settleBudgetReservation C request o s n).result = .ok result := by
  unfold settleBudgetReservation
  rcases checked_cases _ (settleInTransaction C request) _ o s n with ⟨-, hs⟩ | ⟨result, s', n', h, hout⟩
  · exact .inl hs
  obtain ⟨-, -, -, -, hdone⟩ := settleInTransaction_spec h
  rw [hout]
  exact .inr hdone

theorem settleBudgetReservation_leaves (request : BudgetSettlementRequest) :
    Leaves (Effect C (some request.authority.credential)) (settleBudgetReservation C request) := by
  refine leaves_of_readOnly_bind (effect_refl _) (.lift _) fun _ => ?_
  refine leaves_bind (leaves_atomically (effect_refl _) fun o s n settled s' n' h => .inr ?_) fun _ => .lift _
  obtain ⟨now, m, hnow, hchange, -⟩ := settleInTransaction_spec h
  exact ⟨now, m, hnow, hchange⟩

end Effects
end ProofPlatform.Operator
