import ProofPlatform.Operator.DispatchStore

/-! The commit barrier: a prepared result is recorded whole, or its reservation is forfeited. -/
namespace ProofPlatform.Operator
open Kernel Executor Library Fallible Transaction Tx BudgetReservation Table Bool

variable (C : OperatorStoreContext)

/-! ### The permit and the lease -/

variable (reservation : BudgetReservation) (permit : DispatchPermit)

/-- The permit is the one that was issued when the reservation was dispatched. -/
def BudgetReservation.permittedBy : Bool :=
  reservation.reservationId == permit.reservationId && reservation.runId == permit.runId &&
  reservation.leaseId == permit.leaseId && reservation.fenceEpoch == permit.fenceEpoch &&
  reservation.permitId == some permit.permitId &&
  reservation.dispatchTokenDigest == some permit.dispatchTokenDigest &&
  reservation.intentDigest == permit.intentDigest &&
  reservation.replay.map ReplayClaimBinding.bindingDigest == permit.replayBindingDigest &&
  reservation.callDigest == some permit.callDigest && reservation.dispatchStartedAt == some permit.authorizedAt

def validatePermitReservation : StoreM Unit := do
  orElse permit.validate .invalid
  invalidIf (!reservation.permittedBy permit)

/-- The reservation of a permit, for whoever holds the dispatch token. -/
def loadPermitted (dispatchToken : Token) : StoreM BudgetReservation := do
  let row ← orFail (← select fun db => db.reservations.find? fun row =>
    decide (row.reservationId = permit.reservationId ∧ row.permitId = some permit.permitId)) .staleFence
  let digest ← orFail row.dispatchTokenDigest .unavailable
  failIf (C.hashes.dispatchToken dispatchToken != digest) .staleFence
  let reservation ← loadReservation C permit.reservationId
  validatePermitReservation reservation permit
  pure reservation

/-- The lease is proved, and its run dispatches the reservation under the permit. -/
def validateDispatch (authority : LeaseAuthority) (permit : DispatchPermit) (reservation : BudgetReservation)
    (now : Instant) : StoreM (RunControl × RunLease) := do
  let (control, lease) ← validateAuthority C authority now
  let expected ← orFail (checkedAdd permit.expectedControlRevision 1) .corrupt
  invalidIf (control.controlRevision != expected ||
    control.activeDispatchReservationId != some reservation.reservationId)
  pure (control, lease)

/-- A call that settles a dispatch reads the time and proves its lease. -/
def beginSettlement (authority : LeaseAuthority) (permit : DispatchPermit) (reservation : BudgetReservation) :
    StoreM (Instant × RunControl × RunLease) := do
  failIf (reservation.state != .dispatching) .notActionable
  let now ← operatorNow
  let (control, lease) ← validateDispatch C authority permit reservation now
  pure (now, control, lease)

/-! ### Settlement of the books -/

/-- The account after the reservation's funds are freed and a charge is committed. -/
def settledAccount (budget : BudgetAccount) (reservation : BudgetReservation) (charged : BudgetAmounts)
    (now : Instant) : Except OperatorStoreError BudgetAccount := do
  let reserved ← subtractAmounts budget.reserved reservation.reserved
  let committed ← addAmounts budget.committed charged
  reject (nextSafe budget.revision).isNone .corrupt
  pure (budget.withTotals reserved committed now)

def storeSettlement (budget : BudgetAccount) (reservation : BudgetReservation) : StoreM Unit := do
  updateBudget C budget
  updateReservation C reservation

/-! ### Forfeit -/

/-- The claim that a dispatch was bound to is failed, unless it is already. -/
def markBoundReplayFailed (binding : Option ReplayClaimBinding) (now : Instant) : StoreM Unit :=
  match binding with
  | none => pure ()
  | some binding => do
    let row ← orFail (← selectOr .corrupt fun db =>
      lookup ReplayRow.key db.replayTables.executionReplays binding.key) .corrupt
    failIf (row.inputDigest != binding.inputDigest || row.claimedBy != binding.claimedBy) .corrupt
    match row.state with
    | .claimed =>
      updateIn (fun db => db.replayTables.executionReplays)
        (fun db executionReplays => { db with replayTables := { db.replayTables with executionReplays } })
        (fun row => decide (row.key = binding.key ∧ row.state = .claimed ∧ row.inputDigest = binding.inputDigest))
        (SqliteStore.failedRow now "governed dispatch forfeited" row) .conflict
    | .failed => pure ()
    | .completed => fail .corrupt

def failAgentRun (runId : Uuid) (now : Instant) : StoreM AgentRun := do
  let run ← loadAgentRunExact runId
  if run.status.isTerminal then pure run
  else
    let failed ← orElse (run.fail now) .corrupt
    updateAgentRunExact failed run.revision
    pure failed

def failLatestAgentStep (runId : Uuid) (now : Instant) : StoreM Unit := do
  match ← loadLatestAgentStep runId with
  | none => pure ()
  | some step =>
    if step.status.isTerminal then pure ()
    else
      let failed ← orElse (step.fail "governed runtime settlement failed" now) .corrupt
      updateAgentStepExact C failed step.revision

/-- What a settled failure reports. -/
def applyForfeit (control : RunControl) (lease : RunLease) (reservation : BudgetReservation) (now : Instant) :
    StoreM RuntimeFailureResult := do
  let budget ← loadBudget C reservation.budgetId
  let budget ← lift (settledAccount budget reservation reservation.reserved now)
  let reservation := reservation.forfeited now
  storeSettlement C budget reservation
  markBoundReplayFailed reservation.replay now
  let run ← failAgentRun control.runId now
  failLatestAgentStep C control.runId now
  let control ← advanceControl C (control.dispatches none) lease.fenceEpoch now
  let _ ← appendForfeitEvents C control lease reservation now
  pure ⟨run.revision, control.controlRevision, budget.revision⟩

def RuntimeFailureResult.valid (result : RuntimeFailureResult) : Bool :=
  allSafe [result.runRevision, result.controlRevision, result.budgetRevision]

variable (request : RuntimeFailureRequest)

def RuntimeFailureRequest.wellFormed : Bool :=
  request.schema == "proof.operator.runtime-failure-request/v1" &&
  request.failure.schema == "proof.operator.runtime-failure-body/v1" &&
  request.failure.reservationId == request.permit.reservationId &&
  request.failure.permitId == request.permit.permitId &&
  request.failure.intentDigest == request.permit.intentDigest &&
  request.failure.callDigest == request.permit.callDigest &&
  allV7 [request.failure.reservationId, request.failure.permitId] &&
  request.errorDigest == C.hashes.runtimeFailure request.failure

/-- Settle a failed dispatch; a retry of a settled failure reports what stands. -/
def settleFailureInTransaction : StoreM (Bool × RuntimeFailureResult) := do
  statement
  let reservation ← loadPermitted C request.permit request.dispatchToken
  if reservation.state == .forfeited then
    let run ← loadAgentRunExact reservation.runId
    let budget ← loadBudget C reservation.budgetId
    let control ← loadControl C reservation.runId
    statement
    pure (false, ⟨run.revision, control.controlRevision, budget.revision⟩)
  else
    let (now, control, lease) ← beginSettlement C request.authority request.permit reservation
    let result ← applyForfeit C control lease reservation now
    statement
    pure (true, result)

def settleRuntimeFailure : StoreM RuntimeFailureResult := do
  invalidIf (!request.wellFormed C)
  let (settled, result) ← atomically (settleFailureInTransaction C request)
  -- Only a fresh settlement has its result checked, after it is committed.
  invalidIf (settled && !result.valid)
  pure result

section Forfeit
variable {C} {o : Nat → Answer} {s s' : Database} {n n' : Nat} {now : Instant} {u : Unit} {control : RunControl}
  {lease : RunLease} {reservation settled : BudgetReservation} {budget account : BudgetAccount}
  {charged : BudgetAmounts} {runId reservationId : Uuid}

theorem settledAccount_eq_ok (h : settledAccount budget reservation charged now = .ok account) :
    ∃ reserved, reserved + reservation.reserved = budget.reserved ∧
      account = budget.withTotals reserved (budget.committed + charged) now := by
  simp only [settledAccount, subtractAmounts, addAmounts, bind_eq_ok, orReject_eq_ok] at h
  obtain ⟨reserved, hsub, _, ⟨sum, hadd, -, -, hsum⟩, -, -, he⟩ := h
  obtain rfl := Except.ok.inj hsum
  obtain rfl := BudgetAmounts.eq_add_of_checkedAdd hadd
  exact ⟨reserved, BudgetAmounts.add_eq_of_checkedSub hsub, (Except.ok.inj he).symm⟩

theorem storeSettlement_spec (h : Returns (storeSettlement C account settled) o s n u s' n')
    (haccount : settledAccount budget reservation charged now = .ok account)
    (hr : s.reservation? reservationId = some reservation)
    (hb : lookup BudgetAccount.budgetId s.budgets reservation.budgetId = some budget)
    (hstate : reservation.state = .dispatching) (hid : settled.reservationId = reservation.reservationId)
    (howner : settled.budgetId = reservation.budgetId ∧ settled.runId = reservation.runId) (hheld : settled.held = 0)
    (hspent : settled.spent = charged) :
    ∃ budgets reservations, Settles s.books ⟨budgets, reservations⟩ reservation settled budget account ∧
      s' = { s with budgets, reservations } := by
  obtain ⟨reserved, hreserved, rfl⟩ := settledAccount_eq_ok haccount
  simp only [storeSettlement, updateBudget, returns_updateRow_bind] at h
  obtain ⟨hvb, -, budgets, hbudgets, h⟩ := h
  obtain ⟨hvr, -, reservations, hreservations, rfl⟩ := updateReservation_spec h
  refine ⟨budgets, reservations, ?_, rfl⟩
  refine ⟨.of_lookup hreservations hr hid, .of_lookup hbudgets hb rfl, (lookup_eq_some hb).2, howner, rfl, ?_, ?_,
    charged_le_of_validate hvr, (BudgetAccount.validate_iff.mp hvb).2.2.2⟩
  · have hopen : reservation.held = reservation.reserved := by
      simp [held, reservationOpen, hstate]
    rw [hopen, hheld, add_zero]
    exact hreserved
  · have hunspent : reservation.spent = 0 := by simp [spent, hstate]
    rw [hunspent, hspent, add_zero]
    rfl

theorem markBoundReplayFailed_spec {binding : Option ReplayClaimBinding}
    (h : Returns (markBoundReplayFailed binding now) o s n u s' n') :
    ∃ executionReplays, ReplayFailed binding s.replayTables.executionReplays executionReplays ∧
      s' = { s with replayTables := { s.replayTables with executionReplays } } := by
  unfold markBoundReplayFailed at h
  split at h
  · obtain ⟨-, rfl, -⟩ := returns_pure.mp h
    exact ⟨s.replayTables.executionReplays, rfl, rfl⟩
  · rename_i binding
    simp only [returns_selectOr_bind, returns_orFail_bind, returns_failIf_bind] at h
    obtain ⟨-, row, hrow, hbound, h⟩ := h
    obtain ⟨-, hkey⟩ := lookup_eq_some hrow
    simp only [or_eq_false_iff, bne_eq_false_iff_eq] at hbound
    split at h
    · rename_i hstate
      obtain ⟨-, ⟨rows, hrows, rfl⟩, -⟩ := returns_updateIn.mp h
      refine ⟨rows, ⟨row, SqliteStore.failedRow now "governed dispatch forfeited" row, rfl, hkey, hbound.1, hbound.2,
        ?_⟩, rfl⟩
      exact .of_replaceOne hrows (hkey ▸ hrow) (by simp [hkey, hstate, hbound.1]) rfl
    · rename_i hstate
      obtain ⟨-, rfl, -⟩ := returns_pure.mp h
      exact ⟨s.replayTables.executionReplays, ⟨row, row, hstate, hkey, hbound.1, hbound.2, .refl hrow⟩, rfl⟩
    · exact absurd h returns_fail

theorem failAgentRun_spec {run' : AgentRun} (h : Returns (failAgentRun runId now) o s n run' s' n') :
    ∃ run agentRuns, lookup AgentRun.id s.agentRuns runId = some run ∧
      (run.status.isTerminal = true ∧ agentRuns = s.agentRuns ∨
        run.fail now = .ok run' ∧ Replaces AgentRun.id run run' s.agentRuns agentRuns) ∧
      s' = { s with agentRuns } := by
  simp only [failAgentRun, loadAgentRunExact, returns_loadRow_bind] at h
  obtain ⟨-, run, hrun, -, h⟩ := h
  split at h
  · rename_i hterminal
    obtain ⟨rfl, rfl, -⟩ := returns_pure.mp h
    exact ⟨run, s.agentRuns, hrun, .inl ⟨hterminal, rfl⟩, rfl⟩
  · obtain ⟨failed, hfail, h⟩ := returns_orElse_bind.mp h
    obtain ⟨_, hupdate, rfl⟩ := returns_bind_pure h
    obtain ⟨agentRuns, hruns, rfl⟩ := updateAgentRunExact_spec hupdate hrun (AgentRun.transition_id hfail)
    exact ⟨run, agentRuns, hrun, .inr ⟨hfail, hruns⟩, rfl⟩

private theorem failAgentRun_safe {run : AgentRun} (h : Returns (failAgentRun runId now) o s n run s' n') :
    safeOnWire run.revision = true := by
  simp only [failAgentRun, loadAgentRunExact, returns_loadRow_bind, reject_eq_ok, not_eq_false'] at h
  obtain ⟨-, found, -, hsafe, h⟩ := h
  split at h
  · obtain ⟨rfl, -, -⟩ := returns_pure.mp h
    exact hsafe
  · simp only [updateAgentRunExact, bind_assoc, returns_orElse_bind, returns_invalidIf_bind, returns_updateIn_bind,
      returns_pure, allSafe, List.all_cons, List.all_nil, not_eq_false', and_eq_true] at h
    obtain ⟨failed, -, hsafe', -, _, -, rfl, -, -⟩ := h
    exact hsafe'.1

theorem failLatestAgentStep_spec (h : Returns (failLatestAgentStep C runId now) o s n u s' n') :
    ∃ agentSteps, (agentSteps = s.agentSteps ∨ ∃ step step',
        step.fail "governed runtime settlement failed" now = .ok step' ∧
          Replaces AgentRunStep.id step step' s.agentSteps agentSteps) ∧
      s' = { s with agentSteps } := by
  obtain ⟨latest, _, _, hlatest, h⟩ := returns_bind.mp h
  obtain ⟨rfl, hfound⟩ := loadLatestAgentStep_spec hlatest
  split at h
  · obtain ⟨-, rfl, -⟩ := returns_pure.mp h
    exact ⟨s.agentSteps, .inl rfl, rfl⟩
  · rename_i step
    split at h
    · obtain ⟨-, rfl, -⟩ := returns_pure.mp h
      exact ⟨s.agentSteps, .inl rfl, rfl⟩
    · simp only [updateAgentStepExact, returns_orElse_bind, returns_invalidIf_bind, returns_select_bind,
        returns_failIf_bind, returns_updateIn] at h
      obtain ⟨failed, hfail, -, -, -, -, ⟨agentSteps, hsteps, rfl⟩, -⟩ := h
      refine ⟨agentSteps, .inr ⟨step, failed, hfail, ?_⟩, rfl⟩
      have hid : failed.id = step.id := AgentRunStep.fail_id hfail
      exact .of_replaceOne hsteps (hfound step rfl) (by simp [hid]) hid

section
variable {result : RuntimeFailureResult} (h : Returns (applyForfeit C control lease reservation now) o s n result s' n')
include h

theorem applyForfeit_spec (hcontrol : lookup RunControl.runId s.controls runId = some control)
    (hr : s.reservation? reservationId = some reservation)
    (hstate : reservation.state = .dispatching) : Forfeits C.hashes now s s' control reservation := by
  simp only [applyForfeit, loadBudget, returns_loadRow_bind, returns_lift_bind] at h
  obtain ⟨-, budget, hb, -, account, haccount, h⟩ := h
  obtain ⟨_, _, _, hsettle, h⟩ := returns_bind.mp h
  obtain ⟨budgets, reservations, hsettles, rfl⟩ := storeSettlement_spec hsettle haccount hr hb hstate rfl ⟨rfl, rfl⟩
    (by simp [held, reservationOpen, forfeited])
    (by simp [spent, forfeited])
  obtain ⟨_, _, _, hreplay, h⟩ := returns_bind.mp h
  obtain ⟨executionReplays, hfailed, rfl⟩ := markBoundReplayFailed_spec hreplay
  obtain ⟨run', _, _, hrun, h⟩ := returns_bind.mp h
  obtain ⟨run, agentRuns, hfound, hruns, rfl⟩ := failAgentRun_spec hrun
  obtain ⟨_, _, _, hstep, h⟩ := returns_bind.mp h
  obtain ⟨agentSteps, hsteps, rfl⟩ := failLatestAgentStep_spec hstep
  obtain ⟨next, controls, projection, _, hadvances, hp, -, h⟩ := advances_of_advanceControl h hcontrol rfl rfl rfl
  obtain ⟨event, hevents, -⟩ := returns_bind_pure h
  obtain ⟨events, hkinds, journal, hgrows, hprojections, rfl⟩ := appendForfeitEvents_audits hevents
  exact ⟨⟨budget, account, hsettles⟩, ⟨run, hfound, hruns.imp id fun hr => ⟨run', hr⟩⟩, hsteps, hfailed,
    ⟨next, hadvances⟩, .of_audits hp hkinds hgrows hprojections, rfl⟩

/-- The revisions that a forfeit reports have been checked where they were stored. -/
theorem applyForfeit_valid : result.valid = true := by
  simp only [applyForfeit, loadBudget, storeSettlement, updateBudget, bind_assoc, returns_loadRow_bind,
    returns_lift_bind, returns_updateRow_bind] at h
  obtain ⟨-, _, -, -, account, -, hbudget, -, _, -, h⟩ := h
  obtain ⟨_, _, _, -, h⟩ := returns_bind.mp h
  obtain ⟨_, _, _, -, h⟩ := returns_bind.mp h
  obtain ⟨run, _, _, hrun, h⟩ := returns_bind.mp h
  obtain ⟨_, _, _, -, h⟩ := returns_bind.mp h
  obtain ⟨next, _, _, hadvance, h⟩ := returns_bind.mp h
  obtain ⟨_, _, _, -, h⟩ := returns_bind.mp h
  obtain ⟨rfl, -, -⟩ := returns_pure.mp h
  have hrunSafe : safeOnWire run.revision = true := failAgentRun_safe hrun
  have hnextSafe : safeOnWire next.controlRevision = true := advanceControl_safe hadvance
  have hbudgetSafe : safeOnWire account.revision = true := (BudgetAccount.validate_iff.mp hbudget).2.1.1.1.2
  simp [RuntimeFailureResult.valid, allSafe, hrunSafe, hnextSafe, hbudgetSafe]

end

variable {authority : LeaseAuthority} {permit : DispatchPermit} {id : Uuid}

theorem loadPermitted_spec {dispatchToken : Token}
    (h : Returns (loadPermitted C permit dispatchToken) o s n reservation s' n') :
    s.reservation? permit.reservationId = some reservation ∧
      reservation.permittedBy permit = true ∧ s = s' := by
  simp only [loadPermitted, returns_select_bind, returns_orFail_bind, returns_failIf_bind] at h
  obtain ⟨-, _, -, _, -, -, h⟩ := h
  obtain ⟨row, _, _, hload, h⟩ := returns_bind.mp h
  obtain ⟨hr, -, rfl⟩ := loadReservation_spec hload
  simp only [validatePermitReservation, bind_assoc, returns_orElse_bind, returns_invalidIf_bind, returns_pure,
    not_eq_false'] at h
  obtain ⟨_, -, hpermit, rfl, rfl, -⟩ := h
  exact ⟨hr, hpermit, rfl⟩

theorem validateDispatch_spec
    (h : Returns (validateDispatch C authority permit reservation now) o s n (control, lease) s' n') :
    Acts C authority.credential now s control lease ∧
      control.activeDispatchReservationId = some reservation.reservationId ∧ s = s' := by
  obtain ⟨⟨control', lease'⟩, _, _, hauthority, h⟩ := returns_bind.mp h
  obtain ⟨hacts, -, rfl⟩ := validateAuthority_spec hauthority
  simp only [returns_orFail_bind, returns_invalidIf_bind, returns_pure, Prod.mk.injEq, or_eq_false_iff,
    bne_eq_false_iff_eq] at h
  obtain ⟨_, -, hactive, ⟨rfl, rfl⟩, rfl, -⟩ := h
  exact ⟨hacts, hactive.2, rfl⟩

/-- The call settles a reservation that its run dispatches, under a lease of the run. -/
structure Settling (C : OperatorStoreContext) (authority : LeaseAuthority) (o : Nat → Answer) (s : Database)
    (id : Uuid) (now : Instant) (control : RunControl) (reservation : BudgetReservation) : Prop where
  told : ∃ n, (o n).now = some now
  acts : ∃ lease, Acts C authority.credential now s control lease
  stored : s.reservation? id = some reservation
  state : reservation.state = .dispatching
  active : control.activeDispatchReservationId = some reservation.reservationId

theorem Settling.forfeits {result : RuntimeFailureResult} (h : Settling C authority o s id now control reservation)
    (hforfeit : Returns (applyForfeit C control lease reservation now) o s n result s' n') :
    Forfeits C.hashes now s s' control reservation := by
  obtain ⟨_, hacts⟩ := h.acts
  exact applyForfeit_spec hforfeit hacts.controlRow h.stored h.state

theorem beginSettlement_spec (hr : s.reservation? id = some reservation)
    (h : Returns (beginSettlement C authority permit reservation) o s n (now, control, lease) s' n') :
    Settling C authority o s id now control reservation ∧ s = s' := by
  simp only [beginSettlement, returns_failIf_bind, returns_operatorNow_bind] at h
  obtain ⟨hstate, _, hnow, h⟩ := h
  obtain ⟨⟨_, _⟩, _, _, hdispatch, h⟩ := returns_bind.mp h
  obtain ⟨hacts, hactive, rfl⟩ := validateDispatch_spec hdispatch
  obtain ⟨heq, rfl, -⟩ := returns_pure.mp h
  cases heq
  exact ⟨⟨⟨_, hnow⟩, ⟨_, hacts⟩, hr, by simpa using hstate, hactive⟩, rfl⟩

theorem settleFailureInTransaction_spec {request : RuntimeFailureRequest} {settled : Bool × RuntimeFailureResult}
    (h : Returns (settleFailureInTransaction C request) o s n settled s' n') :
    (settled.1 = false ∧ s' = s) ∨ settled.2.valid = true ∧ ∃ now control reservation,
      Settling C request.authority o s request.permit.reservationId now control reservation ∧
      Forfeits C.hashes now s s' control reservation := by
  obtain ⟨-, h⟩ := returns_statement_bind.mp h
  obtain ⟨reservation, _, _, hload, h⟩ := returns_bind.mp h
  obtain ⟨hr, -, rfl⟩ := loadPermitted_spec hload
  split at h
  · simp only [loadAgentRunExact, loadBudget, loadControl, returns_loadRow_bind, returns_statement_bind,
      returns_pure] at h
    obtain ⟨-, _, -, -, -, _, -, -, -, _, -, -, -, rfl, rfl, -⟩ := h
    exact .inl ⟨rfl, rfl⟩
  · obtain ⟨⟨now, control, lease⟩, _, _, hbegin, h⟩ := returns_bind.mp h
    obtain ⟨hsettling, rfl⟩ := beginSettlement_spec hr hbegin
    obtain ⟨result, _, hforfeit, rfl⟩ := returns_commit h
    exact .inr ⟨applyForfeit_valid hforfeit, now, control, reservation, hsettling, hsettling.forfeits hforfeit⟩

theorem settleRuntimeFailure_leaves :
    Leaves (Effect C (some request.authority.credential)) (settleRuntimeFailure C request) := by
  refine leaves_of_readOnly_bind (effect_refl _) (.lift _) fun _ => ?_
  refine leaves_bind (leaves_atomically (effect_refl _) fun o s n settled s' n' h => ?_) fun _ =>
    .bind (.lift _) fun _ => .pure _
  rcases settleFailureInTransaction_spec h with ⟨-, hs⟩ | ⟨-, now, control, reservation, hsettling, hforfeits⟩
  · exact .inl hs
  · obtain ⟨⟨m, hnow⟩, ⟨lease, hacts⟩, -, hstate, hactive⟩ := hsettling
    exact .inr ⟨now, m, hnow, .forfeited hacts hstate hactive hforfeits⟩

/-- The check after the commit has been made before, so that only a call that settles nothing
can fail. -/
theorem settleRuntimeFailure_error (o : Nat → Answer) (s : Database) (n : Nat) :
    (∃ result, (settleRuntimeFailure C request o s n).result = .ok result) ∨
      (settleRuntimeFailure C request o s n).state = s := by
  unfold settleRuntimeFailure
  rcases checked_cases _ (settleFailureInTransaction C request) _ o s n with
    ⟨-, hs⟩ | ⟨⟨settled, result⟩, s', n', h, hout⟩
  · exact .inr hs
  rw [hout]
  rcases settleFailureInTransaction_spec h with ⟨-, hs⟩ | ⟨hvalid, -⟩
  · have hkept := ReadOnly.bind (ReadOnly.lift (reject (settled && !result.valid) OperatorStoreError.invalid))
      (fun _ => ReadOnly.pure result) o s' n'
    exact .inr (hkept.trans hs)
  · refine .inl ⟨result, ?_⟩
    simp only at hvalid
    simp [bind, invalidIf, reject, lift, hvalid, pure]

end Forfeit
end ProofPlatform.Operator
