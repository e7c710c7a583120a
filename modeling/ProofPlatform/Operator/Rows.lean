import ProofPlatform.Operator.Database

/-! Exact loaders and writers of single operator rows, which validate what they read or store. -/
namespace ProofPlatform.Operator
open Kernel Library Fallible Transaction Tx BudgetReservation Table Database

variable (C : OperatorStoreContext)

variable {α ε : Type} (query : Database → Option α) (missing : OperatorStoreError) (check : α → Except ε Unit)

/-- Read one row and check it: a missing row is `missing`, a row that fails is corrupt. -/
def loadRow : StoreM α := do
  let row ← orFail (← select query) missing
  orElse (check row) .corrupt
  pure row

/-- Check a row and put it in the place of the stored one. -/
def updateRow (rows : Database → List α)
    (put : Database → List α → Database) (p : α → Bool) (row : α) : StoreM Unit := do
  orElse (check row) .corrupt
  updateIn rows put p row .corrupt

/-! ### Run control -/

def loadControl (runId : Uuid) : StoreM RunControl :=
  loadRow (fun db => lookup RunControl.runId db.controls runId) .notFound (RunControl.validate C.hashes)

variable (control : RunControl)

def insertRunControl : StoreM Unit :=
  insertInto controls (fun db controls => { db with controls })
    (fun row => decide (row.runId = control.runId)) control

def updateRunControl : StoreM Unit :=
  updateRow (RunControl.validate C.hashes) controls (fun db controls => { db with controls })
    (fun row => decide (row.runId = control.runId)) control

/-- The control record one revision later, with a digest. -/
def RunControl.advanced (now : Instant) (bindingDigest : ControlDigest) : RunControl :=
  { control with controlRevision := control.controlRevision + 1, updatedAt := now, bindingDigest }

/-- Advance a control record by one revision and seal it with its own digest. -/
def bumpControl (now : Instant) : Except OperatorStoreError RunControl := do
  reject (nextSafe control.controlRevision).isNone .corrupt
  let bindingDigest ← ((control.advanced now .blank).digest C.hashes).mapError fun _ => .invalid
  let next := control.advanced now bindingDigest
  (next.validate C.hashes).mapError fun _ => .corrupt
  pure next

/-! ### Leases -/

def loadLease (leaseId : Uuid) : StoreM RunLease :=
  loadRow (fun db => lookup RunLease.leaseId db.leases leaseId) .notFound (RunLease.validate C.hashes)

/-- Leases have distinct identifiers and, per run, distinct fences and one active lease. -/
def insertLease (lease : RunLease) : StoreM Unit := do
  invalidIf (!lease.onWire)
  insertInto leases (fun db leases => { db with leases })
    (fun row => decide (row.leaseId = lease.leaseId) ||
      decide (row.runId = lease.runId ∧ row.fenceEpoch = lease.fenceEpoch) ||
      decide (row.runId = lease.runId ∧ row.state = .active ∧ lease.state = .active)) lease

def updateLease (lease : RunLease) : StoreM Unit :=
  updateRow (RunLease.validate C.hashes) leases (fun db leases => { db with leases })
    (fun row => decide (row.leaseId = lease.leaseId)) lease

variable (db : Database) (runId : Uuid)

/-- The highest fence a run's leases have had. -/
def maxFence : Nat :=
  ((db.leases.filter fun lease => decide (lease.runId = runId)).map RunLease.fenceEpoch).foldr max 0

/-- Seal a lease with its own digest. -/
def sealLease (lease : RunLease) : Except OperatorStoreError RunLease := do
  let leaseDigest ← (lease.digest C.hashes).mapError fun _ => .invalid
  pure { lease with leaseDigest }

/-! ### Budget accounts -/

/-- An account is known by the budget its policy names. -/
def BudgetAccount.budgetId (account : BudgetAccount) : Uuid := account.policy.budgetId

def loadBudget (budgetId : Uuid) : StoreM BudgetAccount :=
  loadRow (fun db => lookup BudgetAccount.budgetId db.budgets budgetId) .notFound
    (BudgetAccount.validate C.hashes)

def updateBudget (account : BudgetAccount) : StoreM Unit :=
  updateRow (BudgetAccount.validate C.hashes) budgets (fun db budgets => { db with budgets })
    (fun row => decide (row.budgetId = account.budgetId)) account

def addAmounts (target value : BudgetAmounts) : Except OperatorStoreError BudgetAmounts := do
  let sum ← orReject (target.checkedAdd value) .corrupt
  reject (!sum.isSafe) .corrupt
  pure sum

def subtractAmounts (target value : BudgetAmounts) : Except OperatorStoreError BudgetAmounts :=
  orReject (target.checkedSub value) .corrupt

/-! ### Reservations -/

variable (reservation : BudgetReservation)

def reservationOpen : Bool :=
  reservation.state == .reserved || reservation.state == .dispatching

def loadReservation (reservationId : Uuid) : StoreM BudgetReservation := do
  let reservation ← loadRow (fun db => lookup BudgetReservation.reservationId db.reservations reservationId)
    .notFound (BudgetReservation.validate C.hashes)
  invalidIf (!reservation.onWire)
  pure reservation

/-- Two rows that the unique indexes over reservations do not let stand together. -/
def reservationsClash (row reservation : BudgetReservation) : Bool :=
  decide (row.budgetId = reservation.budgetId ∧ row.idempotencyKey = reservation.idempotencyKey) ||
  decide (row.permitId.isSome ∧ row.permitId = reservation.permitId) ||
  decide (row.recovery.isSome ∧
    row.recovery.map RecoveryDirective.directiveId = reservation.recovery.map RecoveryDirective.directiveId) ||
  (decide (row.runId = reservation.runId) && reservationOpen row && reservationOpen reservation)

def insertReservation : StoreM Unit := do
  invalidIf (!reservation.onWire)
  insertInto reservations (fun db reservations => { db with reservations })
    (fun row => decide (row.reservationId = reservation.reservationId) || reservationsClash row reservation) reservation

def updateReservation : StoreM Unit := do
  orElse (reservation.validate C.hashes) .corrupt
  invalidIf (!reservation.onWire)
  let clash ← select fun db => db.reservations.any fun row =>
    decide (row.reservationId ≠ reservation.reservationId) && reservationsClash row reservation
  failIf clash .unavailable
  updateIn reservations (fun db reservations => { db with reservations })
    (fun row => decide (row.reservationId = reservation.reservationId)) reservation .corrupt

def BudgetReservation.released (now : Instant) : BudgetReservation :=
  { reservation with state := .released, settledAt := some now }

def BudgetReservation.dispatching (permit : DispatchPermit) (now : Instant) : BudgetReservation :=
  { reservation with
    state := .dispatching
    permitId := some permit.permitId
    dispatchTokenDigest := some permit.dispatchTokenDigest
    callDigest := some permit.callDigest
    dispatchStartedAt := some now }

/-- A forfeited reservation is charged in full. -/
def BudgetReservation.forfeited (now : Instant) : BudgetReservation :=
  { reservation with state := .forfeited, charged := reservation.reserved, settledAt := some now }

def BudgetReservation.committed (prepared : PreparedExecutionBinding) (commit : RuntimeCommit) : BudgetReservation :=
  { reservation with
    state := .committed
    charged := commit.actualCharge
    preparedExecutionDigest := some prepared.payloadDigest
    resultDigest := some prepared.resultDigest
    preparedBinding := some prepared
    runtimeCommit := some commit
    settledAt := some commit.committedAt }

/-- The account one revision later, with new totals. -/
def BudgetAccount.withTotals (account : BudgetAccount) (reserved committed : BudgetAmounts) (now : Instant) :
    BudgetAccount :=
  { account with reserved, committed, revision := account.revision + 1, updatedAt := now }

/-- Give a reservation back to its account before dispatch. -/
def releaseReservation (budget : BudgetAccount) (now : Instant) : StoreM (BudgetReservation × BudgetAccount) := do
  invalidIf (reservation.state != .reserved)
  let reserved ← lift (subtractAmounts budget.reserved reservation.reserved)
  failIf (checkedAdd budget.revision 1).isNone .corrupt
  let budget := budget.withTotals reserved budget.committed now
  let reservation := reservation.released now
  updateReservation C reservation
  updateBudget C budget
  pure (reservation, budget)

/-- What a reservation holds of its account's funds. -/
def BudgetReservation.held : BudgetAmounts :=
  if reservationOpen reservation then reservation.reserved else 0

/-- What a settled reservation has used up for good. -/
def BudgetReservation.spent : BudgetAmounts :=
  if reservation.state = .committed ∨ reservation.state = .forfeited then reservation.charged else 0

/-- The accounts of a store and the reservations against them. -/
structure Books where
  budgets : List BudgetAccount
  reservations : List BudgetReservation

def Database.books : Books := ⟨db.budgets, db.reservations⟩

/-- A reservation is settled and its account moves what the reservation held and spent. -/
structure Settles (books books' : Books) (reservation settled : BudgetReservation) (account account' : BudgetAccount) :
    Prop where
  reservations : Replaces BudgetReservation.reservationId reservation settled books.reservations
    books'.reservations
  budgets : Replaces BudgetAccount.budgetId account account' books.budgets books'.budgets
  budget : account.budgetId = reservation.budgetId
  owner : settled.budgetId = reservation.budgetId ∧ settled.runId = reservation.runId
  policy : account'.policy = account.policy
  reserved : account'.reserved + reservation.held = account.reserved + settled.held
  committed : account'.committed + reservation.spent = account.committed + settled.spent
  charged : settled.charged ≤ settled.reserved
  limits : account'.reserved + account'.committed ≤ account'.policy.limits

/-! ### Agent runs, steps and checkpoints -/

def loadAgentRunExact : StoreM AgentRun :=
  loadRow (fun db => lookup AgentRun.id db.agentRuns runId) .notFound
    fun run => reject (!safeOnWire run.revision) OperatorStoreError.corrupt

def updateAgentRunExact (run : AgentRun) (previousRevision : Nat) : StoreM Unit := do
  invalidIf (!allSafe [run.revision, previousRevision])
  updateIn agentRuns (fun db agentRuns => { db with agentRuns })
    (fun row => decide (row.id = run.id ∧ row.revision = previousRevision)) run .staleRevision

def loadAgentStepExact (stepId : Uuid) : StoreM AgentRunStep :=
  loadRow (fun db => lookup AgentRunStep.id db.agentSteps stepId) .notFound
    fun step => reject (!safeOnWire step.revision) OperatorStoreError.corrupt

/-- By ordinal, then attempt, then identifier. -/
def stepLe (a b : AgentRunStep) : Bool :=
  decide (a.ordinal < b.ordinal ∨ a.ordinal = b.ordinal ∧
    (a.attempt < b.attempt ∨ a.attempt = b.attempt ∧ a.id.toNat ≤ b.id.toNat))

def loadLatestAgentStep : StoreM (Option AgentRunStep) := do
  match ← select fun db => latest stepLe (db.agentSteps.filter fun step => decide (step.runId = runId)) with
  | none => pure none
  | some latest =>
    let id ← uuidColumn latest.id
    pure (some (← loadAgentStepExact id))

/-- The stored text of a step needs a canonical output. -/
def stepOnWire (step : AgentRunStep) : Bool :=
  safeOnWire step.revision && step.output.all fun output => C.primitives.canonicalize output matches .ok _

/-- No two steps wait for the same approval, or are the same attempt of a run's ordinal. -/
def stepsClash (row step : AgentRunStep) : Bool :=
  decide (row.approvalRequestId.isSome ∧ row.approvalRequestId = step.approvalRequestId) ||
  decide (row.runId = step.runId ∧ row.ordinal = step.ordinal ∧ row.attempt = step.attempt)

def updateAgentStepExact (step : AgentRunStep) (previousRevision : Nat) : StoreM Unit := do
  invalidIf (!stepOnWire C step || !safeOnWire previousRevision)
  let clash ← select fun db => db.agentSteps.any fun row => decide (row.id ≠ step.id) && stepsClash row step
  failIf clash .unavailable
  updateIn agentSteps (fun db agentSteps => { db with agentSteps })
    (fun row => decide (row.id = step.id ∧ row.revision = previousRevision)) step .staleRevision

def RunProjection.checkpoint (projection : RunProjection) : CheckpointIdentity :=
  ⟨projection.checkpointId, projection.checkpointSequence, projection.checkpointDigest⟩

def ReplayClaimBinding.checkpoint (binding : ReplayClaimBinding) : CheckpointIdentity :=
  ⟨binding.checkpointId, binding.checkpointSequence, binding.checkpointDigest⟩

def RecoveryDirective.checkpoint (directive : RecoveryDirective) : CheckpointIdentity :=
  ⟨directive.checkpointId, directive.checkpointSequence, directive.checkpointDigest⟩

def ApprovalBinding.checkpoint (binding : ApprovalBinding) : CheckpointIdentity :=
  ⟨binding.checkpointId, binding.checkpointSequence, binding.checkpointDigest⟩

def latestCheckpoint : Option AgentCheckpoint :=
  latest (fun a b => decide (a.sequence ≤ b.sequence))
    (db.checkpoints.filter fun checkpoint => decide (checkpoint.runId = runId))

def loadCheckpointIdentityExact (checkpointId runId : Uuid) : StoreM CheckpointIdentity := do
  let checkpoint ← loadRow (fun db => lookup AgentCheckpoint.id db.checkpoints checkpointId) .corrupt
    fun checkpoint => reject (checkpoint.runId != runId) OperatorStoreError.corrupt
  pure ⟨checkpoint.id, checkpoint.sequence, checkpoint.stateDigest⟩

def loadLatestCheckpointIdentity : StoreM CheckpointIdentity := do
  let checkpoint ← orFail (← select fun db => latestCheckpoint db runId) .corrupt
  loadCheckpointIdentityExact (← uuidColumn checkpoint.id) runId

/-- Principals are stored without their creation time. -/
def loadPrincipalRecord (principalId : Uuid) : StoreM Principal := do
  let principal ← orFail
    (← select fun db => lookup (fun row => row.id.id) db.principals principalId) .corrupt
  let id ← uuidColumn principal.id.id
  pure { principal with id := ⟨id⟩, createdAt := 0 }

def loadRecoveryDirective (directiveId : Uuid) : StoreM RecoveryDirective := do
  let directive ← orFail
    (← selectOr .corrupt fun db => lookup RecoveryDirective.directiveId db.directives directiveId) .corrupt
  orElse (directive.validate C.hashes) .corrupt
  pure directive

theorem readOnly_loadRow : ReadOnly (loadRow query missing check) :=
  .bind (readOnly_select _) fun _ => .bind (.lift _) fun _ =>
    .bind (.lift _) fun _ => .pure _

theorem readOnly_loadReservation (reservationId : Uuid) : ReadOnly (loadReservation C reservationId) :=
  .bind (readOnly_loadRow _ _ _) fun _ => .bind (.lift _) fun _ => .pure _

theorem readOnly_uuidColumn (id : Uuid) : ReadOnly (uuidColumn id) :=
  .bind (.lift _) fun _ => .pure _

theorem readOnly_loadLatestAgentStep : ReadOnly (loadLatestAgentStep runId) := by
  refine .bind (readOnly_select _) fun latest => ?_
  cases latest with
  | none => exact .pure _
  | some latest =>
    exact .bind (readOnly_uuidColumn _) fun _ => .bind (readOnly_loadRow _ _ _) fun _ => .pure _

theorem readOnly_loadPrincipalRecord (principalId : Uuid) : ReadOnly (loadPrincipalRecord principalId) :=
  .bind (readOnly_select _) fun _ => .bind (.lift _) fun _ =>
    .bind (readOnly_uuidColumn _) fun _ => .pure _

theorem readOnly_loadCheckpointIdentityExact (checkpointId runId : Uuid) :
    ReadOnly (loadCheckpointIdentityExact checkpointId runId) :=
  .bind (readOnly_loadRow _ _ _) fun _ => .pure _

theorem readOnly_loadLatestCheckpointIdentity : ReadOnly (loadLatestCheckpointIdentity runId) :=
  .bind (readOnly_select _) fun _ => .bind (.lift _) fun _ =>
    .bind (readOnly_uuidColumn _) fun _ => readOnly_loadCheckpointIdentityExact _ _

section Specification
variable {C} {α ε : Type} {o : Nat → Answer} {s s' : Database} {n n' : Nat} {u : Unit} {now : Instant}
variable {check : α → Except ε Unit} {query : Database → Option α} {missing : OperatorStoreError} {row : α} {β : Type}
  {b : β} {reservation : BudgetReservation}

theorem returns_loadRow : Returns (loadRow query missing check) o s n row s' n' ↔ (o n).works = true ∧
      query s = some row ∧ check row = .ok () ∧ s = s' ∧ n + 1 = n' := by
  simp only [loadRow, returns_select_bind, returns_orFail_bind, returns_orElse_bind, exists_unit, returns_pure]
  constructor
  · rintro ⟨hw, row, hq, hc, rfl, rfl, rfl⟩
    exact ⟨hw, hq, hc, rfl, rfl⟩
  · rintro ⟨hw, hq, hc, rfl, rfl⟩
    exact ⟨hw, row, hq, hc, rfl, rfl, rfl⟩

@[simp] theorem returns_loadRow_bind {f : α → StoreM β} :
    Returns (loadRow query missing check >>= f) o s n b s' n' ↔ (o n).works = true ∧
      ∃ row, query s = some row ∧ check row = .ok () ∧ Returns (f row) o s (n + 1) b s' n' := by
  simp only [loadRow, bind_assoc, returns_select_bind, returns_orFail_bind, returns_orElse_bind, exists_unit, pure_bind]

@[simp] theorem returns_updateRow_bind {rows : Database → List α} {put : Database → List α → Database} {p : α → Bool}
    {f : Unit → StoreM β} :
    Returns (updateRow check rows put p row >>= f) o s n b s' n' ↔ check row = .ok () ∧ (o n).works = true ∧
      ∃ rows', replaceOne p row (rows s) = some rows' ∧ Returns (f ()) o (put s rows') (n + 1) b s' n' := by
  simp only [updateRow, bind_assoc, returns_orElse_bind, returns_updateIn_bind, exists_unit]

theorem updateReservation_spec (h : Returns (updateReservation C reservation) o s n u s' n') :
    reservation.validate C.hashes = .ok () ∧
      (∀ row ∈ s.reservations, row.reservationId ≠ reservation.reservationId →
        reservationsClash row reservation = false) ∧
      ∃ reservations, replaceOne (fun row => decide (row.reservationId = reservation.reservationId)) reservation
        s.reservations = some reservations ∧ s' = { s with reservations } := by
  simp only [updateReservation, returns_orElse_bind, returns_invalidIf_bind, returns_select_bind, returns_failIf_bind,
    returns_updateIn, exists_unit] at h
  obtain ⟨hv, -, -, hclash, -, ⟨rows, hrows, rfl⟩, -⟩ := h
  exact ⟨hv, by simpa using hclash, rows, hrows, rfl⟩

theorem bumpControl_eq_ok {control next : RunControl} (h : bumpControl C control now = .ok next) :
    ∃ bindingDigest, next = control.advanced now bindingDigest := by
  simp only [bumpControl, bind_eq_ok, mapError_eq_ok] at h
  obtain ⟨-, -, digest, -, -, -, he⟩ := h
  exact ⟨digest, (Except.ok.inj he).symm⟩

theorem releaseReservation_spec {reservation' : BudgetReservation} {budget budget' : BudgetAccount}
    {reservationId : Uuid}
    (h : Returns (releaseReservation C reservation budget now) o s n (reservation', budget') s' n')
    (hr : s.reservation? reservationId = some reservation)
    (hb : lookup BudgetAccount.budgetId s.budgets reservation.budgetId = some budget) :
    reservation.state = .reserved ∧ reservation' = reservation.released now ∧ ∃ reservations budgets,
      Settles s.books ⟨budgets, reservations⟩ reservation reservation' budget budget' ∧
        s' = { s with reservations, budgets } := by
  simp only [releaseReservation, returns_invalidIf_bind, returns_lift_bind, returns_failIf_bind] at h
  obtain ⟨hstate, reserved, hsub, -, h⟩ := h
  obtain ⟨_, _, _, hres, h⟩ := returns_bind.mp h
  obtain ⟨hvr, -, reservations, hreplace, rfl⟩ := updateReservation_spec hres
  simp only [updateBudget, returns_updateRow_bind, returns_pure, Prod.mk.injEq] at h
  obtain ⟨hvb, -, budgets, hbudget, ⟨rfl, rfl⟩, rfl, -⟩ := h
  replace hstate : reservation.state = .reserved := by simpa using hstate
  refine ⟨hstate, rfl, reservations, budgets, ?_, rfl⟩
  refine ⟨.of_lookup hreplace hr rfl, .of_lookup hbudget hb rfl, (lookup_eq_some hb).2, ⟨rfl, rfl⟩, rfl, ?_, ?_,
    charged_le_of_validate hvr, (BudgetAccount.validate_iff.mp hvb).2.2.2⟩
  · have hsum := BudgetAmounts.add_eq_of_checkedSub (orReject_eq_ok.mp hsub)
    simpa [held, reservationOpen, hstate, released, BudgetAccount.withTotals]
      using hsum
  · simp [spent, hstate, released, BudgetAccount.withTotals]

theorem updateAgentRunExact_spec {run next : AgentRun} {runId : Uuid}
    (h : Returns (updateAgentRunExact next run.revision) o s n u s' n')
    (hrun : lookup AgentRun.id s.agentRuns runId = some run) (hid : next.id = run.id) :
    ∃ agentRuns, Replaces AgentRun.id run next s.agentRuns agentRuns ∧ s' = { s with agentRuns } := by
  simp only [updateAgentRunExact, returns_invalidIf_bind, returns_updateIn] at h
  obtain ⟨-, -, ⟨agentRuns, hruns, rfl⟩, -⟩ := h
  obtain rfl := (lookup_eq_some hrun).2
  exact ⟨agentRuns, .of_replaceOne hruns hrun (by simp [hid]) hid, rfl⟩

theorem loadLatestAgentStep_spec {runId : Uuid} {latest : Option AgentRunStep}
    (h : Returns (loadLatestAgentStep runId) o s n latest s' n') :
    s = s' ∧ ∀ step, latest = some step → lookup AgentRunStep.id s.agentSteps step.id = some step := by
  simp only [loadLatestAgentStep, returns_select_bind] at h
  obtain ⟨-, h⟩ := h
  split at h
  · obtain ⟨rfl, rfl, -⟩ := returns_pure.mp h
    exact ⟨rfl, by simp⟩
  · simp only [loadAgentStepExact, returns_uuidColumn_bind, returns_loadRow_bind, returns_pure] at h
    obtain ⟨-, -, step, hstep, -, rfl, rfl, -⟩ := h
    refine ⟨rfl, fun step' he => ?_⟩
    obtain rfl := Option.some.inj he
    rwa [(lookup_eq_some hstep).2]

end Specification
end ProofPlatform.Operator
