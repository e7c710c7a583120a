import ProofPlatform.Operator.RuntimeStore

/-! Reclaim of a run whose lease has expired: the open reservation is resolved and a new lease granted. -/
namespace ProofPlatform.Operator
open Kernel Library Fallible Transaction Tx Bool RunLease

variable (C : OperatorStoreContext) (request : ReclaimRequest)

def ReclaimRequest.wellFormed : Bool :=
  request.schema == "proof.operator.reclaim-request/v1" &&
  allV7 [request.workspaceId, request.runId, request.expiredLeaseId, request.newLeaseId, request.ownerInstanceId,
    request.newProcessEpochId, request.checkpointId] &&
  request.expectedFenceEpoch != 0 &&
  allSafe [request.expectedFenceEpoch, request.expectedControlRevision, request.checkpointSequence]

def ReclaimRequest.checkpoint : CheckpointIdentity :=
  ⟨request.checkpointId, request.checkpointSequence, request.checkpointDigest⟩

variable (control : RunControl)

/-- The request quotes the records as they stand, and the lease has expired. -/
def ReclaimRequest.current (expired : RunLease) (checkpoint : CheckpointIdentity) (now : Instant) : Bool :=
  control.workspaceId == request.workspaceId && control.controlRevision == request.expectedControlRevision &&
  expired.workspaceId == request.workspaceId && expired.runId == request.runId &&
  expired.fenceEpoch == request.expectedFenceEpoch && expired.state == .active && decide (expired.expiresAt ≤ now) &&
  checkpoint == request.checkpoint

def ReclaimRequest.lease (fenceEpoch : Nat) (now : Instant) : RunLease :=
  newLease C request.runId request.workspaceId request.newLeaseId request.ownerInstanceId request.newProcessEpochId
    request.newLeaseToken fenceEpoch now

def replacementLease (now : Instant) : Except OperatorStoreError RunLease := do
  let fenceEpoch ← orReject (nextSafe request.expectedFenceEpoch) .invalid
  let lease ← sealLease C (request.lease C fenceEpoch now)
  (lease.validate C.hashes).mapError fun _ => .invalid
  pure lease

def insertRecoveryDirective (directive : RecoveryDirective) : StoreM Unit := do
  orElse (directive.validate C.hashes) .invalid
  insertInto Database.directives (fun db directives => { db with directives })
    (fun row => decide (row.directiveId = directive.directiveId) ||
      decide (row.directiveDigest = directive.directiveDigest)) directive

def appendRecoveryStarted (lease : RunLease) (reservation : BudgetReservation) (directive : RecoveryDirective)
    (now : Instant) : StoreM AuditEvent := do
  let eventId ← operatorUuid
  appendAuditEvent C { AuditEvent.base directive.workspaceId eventId .recoveryStarted .accepted now with
    serverInstanceId := some lease.ownerInstanceId
    runId := some directive.runId
    reservationId := some reservation.reservationId
    sourceLeaseId := some lease.leaseId
    recoveryDirectiveId := some directive.directiveId
    fenceEpoch := some lease.fenceEpoch
    intentDigest := some directive.intentDigest
    recoveryDirectiveDigest := some directive.directiveDigest }

def appendReclaimEvent (replacement : RunLease) (sourceLeaseId : Uuid) (reservationId : Option Uuid)
    (directive : Option RecoveryDirective) (now : Instant) : StoreM AuditEvent := do
  let event := { leaseEvent replacement (← operatorUuid) .leaseReclaimed now with sourceLeaseId := some sourceLeaseId }
  appendAuditEvent C (match directive with
    | none => event
    | some directive => { event with
        reservationId := reservationId
        recoveryDirectiveId := some directive.directiveId
        intentDigest := some directive.intentDigest
        recoveryDirectiveDigest := some directive.directiveDigest })

def ReclaimResult.valid (result : ReclaimResult) : Bool :=
  let leaseValid := result.lease.any fun lease => lease.state == .active && lease.validate C.hashes matches .ok _
  let directiveValid := result.directive.any fun directive => directive.validate C.hashes matches .ok _
  safeOnWire result.controlRevision &&
  match result.outcome with
  | .ambiguousForfeited => result.lease.isNone && result.directive.isNone
  | .idleReclaimed => leaseValid && result.directive.isNone
  | .preDispatchRecovered | .recoverableReclaimed => leaseValid && directiveValid

variable (directiveId : Uuid) (control : RunControl) (expired : RunLease) (reservation : BudgetReservation)
  (checkpoint : CheckpointIdentity) (now : Instant)

/-- The directive that a released reservation seeds, before it is sealed. -/
def ReclaimRequest.directive : RecoveryDirective where
  schema := RecoveryDirective.schemaName
  directiveId := directiveId
  workspaceId := request.workspaceId
  runId := request.runId
  sourceLeaseId := expired.leaseId
  sourceReservationId := reservation.reservationId
  sourceBudgetId := reservation.budgetId
  sourceIdempotencyKey := reservation.idempotencyKey
  sourceRequestDigest := reservation.requestDigest
  checkpointId := checkpoint.id
  checkpointSequence := checkpoint.sequence
  checkpointDigest := checkpoint.digest
  sourceFenceEpoch := expired.fenceEpoch
  sourceControlRevision := control.controlRevision
  intentDigest := reservation.intentDigest
  replay := reservation.replay
  createdAt := now
  directiveDigest := .blank

/-- A reservation that was not dispatched is released, and may be made again under a directive. -/
def recoverReserved : StoreM ReclaimResult := do
  failIf (reservation.state != .reserved || control.activeDispatchReservationId.isSome) .corrupt
  let budget ← loadBudget C reservation.budgetId
  let (reservation, _) ← releaseReservation C reservation budget now
  let directive := request.directive (← operatorUuid) control expired reservation checkpoint now
  let directiveDigest ← orElse (directive.digest C.hashes) .invalid
  let directive := { directive with directiveDigest }
  insertRecoveryDirective C directive
  let control := { control with
    recoveryDirectiveId := some directive.directiveId
    recoveryDirectiveDigest := some directive.directiveDigest }
  let run ← loadAgentRunExact request.runId
  failIf run.status.isTerminal .notActionable
  let failed ← orElse (run.fail now) .corrupt
  updateAgentRunExact failed run.revision
  let replacement ← lift (replacementLease C request now)
  insertLease replacement
  let control ← advanceControl C control replacement.fenceEpoch now
  let _ ← appendBudgetEvent C control expired reservation.reservationId reservation.intentDigest .budgetReleased
    .accepted now
  let _ ← appendRecoveryStarted C expired reservation directive now
  let _ ← appendReclaimEvent C replacement expired.leaseId (some reservation.reservationId) (some directive) now
  statement
  pure ⟨.preDispatchRecovered, some replacement, some directive, control.controlRevision⟩

/-- The directive a failed run is still waiting to be resumed under. -/
def loadExistingDirective (run : AgentRun) (checkpoint : CheckpointIdentity) : StoreM (Option RecoveryDirective) :=
  match control.recoveryDirectiveId, control.recoveryDirectiveDigest, run.status with
  | some id, some digest, .failed => do
    let directive ← loadRecoveryDirective C id
    let source ← loadReservation C directive.sourceReservationId
    let consumed ← select fun db => resumptions db request.runId id
    failIf (directive.directiveDigest != digest || directive.workspaceId != request.workspaceId ||
      directive.runId != request.runId || directive.checkpoint != checkpoint || !directive.sourceIs source ||
      source.leaseId != directive.sourceLeaseId || consumed != 0) .corrupt
    pure (some directive)
  | none, none, .queued | none, none, .running | none, none, .waitingForInput => pure none
  | none, none, _ => fail .notActionable
  | _, _, _ => fail .corrupt

/-- With no open reservation the run only changes hands. -/
def reclaimIdle : StoreM ReclaimResult := do
  let run ← loadAgentRunExact request.runId
  let directive ← loadExistingDirective C request control run checkpoint
  let replacement ← lift (replacementLease C request now)
  insertLease replacement
  let control ← advanceControl C control replacement.fenceEpoch now
  let _ ← appendReclaimEvent C replacement expired.leaseId (directive.map RecoveryDirective.sourceReservationId)
    directive now
  statement
  pure ⟨if directive.isSome then .recoverableReclaimed else .idleReclaimed, some replacement, directive,
    control.controlRevision⟩

def openReservationIds (db : Database) (runId : Uuid) : List Uuid :=
  (db.reservations.filter fun reservation =>
    decide (reservation.runId = runId) && reservationOpen reservation).map BudgetReservation.reservationId

def reclaimInTransaction : StoreM ReclaimResult := do
  statement
  let now ← operatorNow
  let control ← loadControl C request.runId
  let lease ← loadLease C request.expiredLeaseId
  let checkpoint ← loadLatestCheckpointIdentity request.runId
  failIf (!request.current control lease checkpoint now) .staleFence
  let active ← select fun db => db.leases.countP fun lease =>
    decide (lease.runId = request.runId ∧ lease.state = .active)
  failIf (active != 1) .corrupt
  let opened ← select fun db => openReservationIds db request.runId
  failIf (decide (1 < opened.length)) .corrupt
  failIf (checkedAdd lease.revision 1).isNone .corrupt
  let expired ← lift (sealLease C (lease.released now))
  updateLease C expired
  match opened with
  | id :: _ =>
    let reservation ← loadReservation C (← uuidColumn id)
    if reservation.state == .dispatching then
      let settled ← applyForfeit C control expired reservation now
      statement
      pure ⟨.ambiguousForfeited, none, none, settled.controlRevision⟩
    else recoverReserved C request control expired reservation checkpoint now
  | [] => reclaimIdle C request control expired checkpoint now

def reclaimRun : StoreM ReclaimResult := do
  invalidIf (!request.wellFormed)
  let result ← atomically (reclaimInTransaction C request)
  invalidIf (!result.valid C)
  pure result

section Progress
variable {C} {o : Nat → Answer} {s s' : Database} {n n' : Nat} {now : Instant}

/-- A lease is valid only if it was released before it expired. -/
theorem RunLease.validate_released_of_expired {H : ControlHashes} {lease : RunLease} {leaseDigest : ControlDigest}
    (h : lease.expiresAt ≤ now) :
    ({ lease.released now with leaseDigest } : RunLease).validate H ≠ .ok () := by
  intro hv
  simp only [validate, bind_eq_ok, reject_eq_ok] at hv
  obtain ⟨-, -, -, -, -, hchronology, -⟩ := hv
  simp only [chronological, released, not_eq_false', and_eq_true, Option.all_some] at hchronology
  exact not_lt.mpr h (of_decide_eq_true hchronology.2.2)

/-- Reclaim asks for an expired lease and then marks it released now, which no lease may be. -/
private theorem not_returns_reclaimInTransaction (result : ReclaimResult) :
    ¬ Returns (reclaimInTransaction C request) o s n result s' n' := by
  intro h
  simp only [reclaimInTransaction, loadControl, loadLease, returns_statement_bind, returns_operatorNow_bind,
    returns_loadRow_bind] at h
  obtain ⟨-, now, -, -, control, -, -, -, lease, -, -, h⟩ := h
  obtain ⟨checkpoint, _, _, -, h⟩ := returns_bind.mp h
  simp only [updateLease, returns_failIf_bind, returns_select_bind, returns_lift_bind, returns_updateRow_bind] at h
  obtain ⟨hcurrent, -, -, -, -, -, expired, hseal, hvalid, -⟩ := h
  simp only [ReclaimRequest.current, not_eq_false', and_eq_true, decide_eq_true_eq] at hcurrent
  obtain ⟨⟨-, hexpired⟩, -⟩ := hcurrent
  obtain ⟨digest, rfl⟩ := sealLease_eq_ok hseal
  exact validate_released_of_expired hexpired hvalid

/-- Reclaim refuses every input, whatever the store holds and the surroundings answer. -/
theorem reclaimRun_refuses (C : OperatorStoreContext) (request : ReclaimRequest) (o : Nat → Answer) (s : Database)
    (n : Nat) : Refuses (reclaimRun C request) o s n := by
  refine refuses_of_readOnly_bind (.lift _) fun _ n' => ?_
  refine refuses_bind _ (refuses_atomically fun result s' n'' h => ?_)
  exact not_returns_reclaimInTransaction request result h

/-- No reclaim ever commits: there is no input on which it returns a result, and the store is
left as it was. -/
theorem reclaimRun_never_commits (C : OperatorStoreContext) (request : ReclaimRequest) (o : Nat → Answer)
    (s : Database) (n : Nat) :
    (∀ result s' n', ¬ Returns (reclaimRun C request) o s n result s' n') ∧ (reclaimRun C request o s n).state = s := by
  obtain ⟨e, n', h⟩ := reclaimRun_refuses C request o s n
  refine ⟨fun result s' n'' hr => ?_, congrArg Outcome.state h⟩
  cases h.symm.trans hr

end Progress

/-! A run whose worker is gone: its lease was taken at time zero and has just expired. -/

def strandedControl : RunControl :=
  let control : RunControl :=
    { schema := RunControl.schemaName
      runId := .v7 1
      workspaceId := .v7 2
      budgetId := .v7 3
      controlRevision := 1
      createdAt := 0
      updatedAt := 0
      bindingDigest := .blank }
  control.sealed C.hashes

def strandedLease : RunLease := (newLease C (.v7 1) (.v7 2) (.v7 4) (.v7 5) (.v7 6) 7 1 0).sealed C.hashes

def strandedRun : AgentRun := ⟨.v7 1, ⟨.v7 8⟩, none, .oneShot, "answer", .running, 0, 1, 0, 0, none⟩

def strandedCheckpoint : AgentCheckpoint where
  id := .v7 9
  runId := .v7 1
  sequence := 0
  state := .null
  stateDigest := ⟨0⟩
  createdAt := 0

def strandedBudget : BudgetAccount :=
  let policy : BudgetPolicy :=
    { schema := BudgetPolicy.schemaName
      budgetId := .v7 3
      workspaceId := .v7 2
      limits := ⟨1, 1, 1, 1, 1⟩
      deadlineAt := 2 * duration
      limitsDigest := .blank }
  { schema := BudgetAccount.schemaName
    policy := policy.sealed C.hashes
    revision := 0
    state := .active
    reserved := 0
    committed := 0
    createdAt := 0
    updatedAt := 0 }

def strandedProjection : RunProjection :=
  let projection : RunProjection :=
    { schema := RunProjection.schemaName
      projectionId := .v7 14
      projectionSequence := 1
      projectionRevision := 1
      workspaceId := .v7 2
      runId := .v7 1
      sourceRunRevision := 1
      sourceControlRevision := 1
      checkpointId := .v7 9
      checkpointSequence := 0
      checkpointDigest := ⟨0⟩
      fenceEpoch := 1
      runStatus := .running
      attention := .running
      projectedAt := 0
      snapshotDigest := .blank }
  projection.sealed C.hashes

def strandedStore : Database :=
  { Database.empty with
    agentRuns := [strandedRun]
    checkpoints := [strandedCheckpoint]
    controls := [strandedControl C]
    leases := [strandedLease C]
    budgets := [strandedBudget C]
    journal := ⟨[strandedProjection C], [], []⟩ }

def strandedRequest : ReclaimRequest where
  schema := "proof.operator.reclaim-request/v1"
  workspaceId := .v7 2
  runId := .v7 1
  expiredLeaseId := .v7 4
  expectedFenceEpoch := 1
  expectedControlRevision := 1
  newLeaseId := .v7 10
  ownerInstanceId := .v7 11
  newProcessEpochId := .v7 12
  newLeaseToken := 13
  checkpointId := .v7 9
  checkpointSequence := 0
  checkpointDigest := ⟨0⟩

/-- Every statement is carried out, at the instant the lease expires. -/
def atExpiry (n : Nat) : Answer := ⟨some duration, some (.v7 (100 + n)), true⟩

theorem strandedControl_validate : (strandedControl C).validate C.hashes = .ok () := by
  refine RunControl.validate_sealed rfl ?_ rfl (by decide)
  simp only [RunControl.onWire]
  decide

theorem strandedLease_validate : (strandedLease C).validate C.hashes = .ok () := by
  refine validate_sealed rfl Nat.one_ne_zero ?_ rfl
  simp only [onWire, newLease]
  decide

private theorem strandedProjection_validate : (strandedProjection C).validate C.hashes = .ok () :=
  RunProjection.validate_sealed rfl (by decide) (by decide) (by decide)

private theorem strandedBudget_validate : (strandedBudget C).validate C.hashes = .ok () := by
  simp only [BudgetAccount.validate, strandedBudget]
  rw [BudgetPolicy.validate_sealed rfl (by decide)]
  rfl

/-- The rows are accepted and quoted as they stand, yet the reclaim is refused as corrupt. -/
theorem stranded_run_not_reclaimed : strandedRequest.wellFormed = true ∧ ∀ C : OperatorStoreContext,
    (strandedControl C).validate C.hashes = .ok () ∧ (strandedLease C).validate C.hashes = .ok () ∧
    (strandedBudget C).validate C.hashes = .ok () ∧ (strandedProjection C).validate C.hashes = .ok () ∧
    strandedRequest.current (strandedControl C) (strandedLease C) ⟨.v7 9, 0, ⟨0⟩⟩ duration = true ∧
    Fails (reclaimRun C strandedRequest) .corrupt atExpiry (strandedStore C) 0 := by
  refine ⟨by decide, fun C => ⟨strandedControl_validate C, strandedLease_validate C, strandedBudget_validate C,
    strandedProjection_validate C, ?_, ?_⟩⟩
  · rfl
  · refine fails_failIf_bind (by decide) (fails_bind _ (fails_atomically ?_))
    refine fails_statement_bind rfl (fails_operatorNow_bind rfl ?_)
    refine fails_bind_of_returns (returns_loadRow.mpr ⟨rfl, rfl, strandedControl_validate C, rfl, rfl⟩) ?_
    refine fails_bind_of_returns (returns_loadRow.mpr ⟨rfl, rfl, strandedLease_validate C, rfl, rfl⟩) ?_
    refine fails_bind_of_returns (show Returns _ _ _ _ ⟨.v7 9, 0, ⟨0⟩⟩ (strandedStore C) 6 from rfl) ?_
    refine fails_failIf_bind rfl (fails_selectOr_bind rfl (fails_failIf_bind rfl ?_))
    refine fails_selectOr_bind rfl (fails_failIf_bind rfl (fails_failIf_bind rfl ?_))
    refine fails_lift_bind (sealLease_of_onWire ?_) (fails_bind _ (fails_bind _ (fails_orElse fun _ => ?_)))
    · simp only [onWire, released, strandedLease, newLease, sealed]
      decide
    · exact validate_released_of_expired le_rfl

end ProofPlatform.Operator
