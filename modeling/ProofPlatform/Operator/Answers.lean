import ProofPlatform.Operator.CommitBarrier

/-! What the answers of the reservation calls can be relied on for. A reserve request quotes a revision that it has
itself advanced, so it cannot be sent again. A commit sent again is answered with the revisions of the day. A dispatch
is answered well unless the ledger has a completion that no governed run is bound to. A resumed step passes no plan
check. -/
namespace ProofPlatform.Operator
open Kernel Executor Library Transaction Tx Table Option

/-! ### Reserve requests sent again -/

section Reserve
variable {C : OperatorStoreContext} {request : BudgetReserveRequest} {o : Nat → Answer} {s : Database} {n : Nat}
  {result : BudgetReserveResult}

/-- An answered reserve call has found the revision it quotes, and passes it if it reserves. -/
theorem quoted_of_reserve (hok : (reserveAggregateBudget C request o s n).result = .ok result) :
    ∃ control, lookup RunControl.runId s.controls request.authority.runId = some control ∧
      control.controlRevision = request.authority.expectedControlRevision ∧ (result.outcome = .reserved →
        ∃ next, lookup RunControl.runId (reserveAggregateBudget C request o s n).state.controls
          request.authority.runId = some next ∧ next.controlRevision = control.controlRevision + 1) := by
  rcases reserveAggregateBudget_did request o s n with ⟨⟨error, he⟩, -⟩ | ⟨error, he, -⟩ | ⟨result', hok',
    ⟨hexisting, control, _, -, hcontrol, hrevision, -⟩ | ⟨-, -, control, next, hcontrol, hrevision, hnext, hadvanced⟩⟩
  · cases he.symm.trans hok
  · cases he.symm.trans hok
  · obtain rfl := Except.ok.inj (hok'.symm.trans hok)
    exact ⟨control, hcontrol, hrevision, fun hreserved => by cases hreserved.symm.trans hexisting⟩
  · exact ⟨control, hcontrol, hrevision, fun _ => ⟨next, hnext, hadvanced⟩⟩

end Reserve

/-- A request that was answered with a new reservation is refused when it is sent again at once. -/
theorem reserve_again_refused (C : OperatorStoreContext) (s : Database) (request : BudgetReserveRequest)
    (o o' : Nat → Answer) (n n' : Nat) (result : BudgetReserveResult)
    (hok : (reserveAggregateBudget C request o s n).result = .ok result) (hreserved : result.outcome = .reserved) :
    ∀ again, (reserveAggregateBudget C request o' (reserveAggregateBudget C request o s n).state n').result ≠
      .ok again := by
  intro again hagain
  obtain ⟨control, -, hquoted, hnext⟩ := quoted_of_reserve hok
  obtain ⟨next, hnext, hadvanced⟩ := hnext hreserved
  obtain ⟨next', hnext', hquoted', -⟩ := quoted_of_reserve hagain
  obtain rfl := some.inj (hnext.symm.trans hnext')
  omega

/-- The first run is registered and its lease claimed. -/
def leasedEcho : Database := after sampleContext ((dispatchEcho 1 1 7 9).take 2) sampleStore

def reservingEcho := reserveAggregateBudget sampleContext (reserveEcho 1 1 1 7) (sampleAnswers 3) leasedEcho 0

theorem reserveEcho_reserved : ∃ result, reservingEcho.result = .ok result ∧ result.outcome = .reserved :=
  Fallible.exists_ok_of_toOption (f := BudgetReserveResult.outcome) (by decide +kernel)

theorem reserve_again_refused_echo :
    (reserveAggregateBudget sampleContext (reserveEcho 1 1 1 7) (sampleAnswers 4) reservingEcho.state
      0).result.toOption = none := by
  obtain ⟨result, hok, hreserved⟩ := reserveEcho_reserved
  have hrefused := reserve_again_refused sampleContext leasedEcho (reserveEcho 1 1 1 7) (sampleAnswers 3)
    (sampleAnswers 4) 0 0 result hok hreserved
  change ∀ again, (reserveAggregateBudget _ _ (sampleAnswers 4) reservingEcho.state 0).result ≠ .ok again at hrefused
  generalize (reserveAggregateBudget _ _ (sampleAnswers 4) _ 0).result = second at hrefused ⊢
  cases second with
  | error error => rfl
  | ok again => exact absurd rfl (hrefused again)

/-- The lease is still active, but the repeated request is stale. -/
theorem reserve_again_stale :
    reservingEcho.result.toOption.map BudgetReserveResult.outcome = some .reserved ∧
      (reservingEcho.state.leases.any fun lease =>
        lease.leaseId == (holdLease 1 1 1 7).leaseId && lease.state == .active && decide (4 < lease.expiresAt)) = true ∧
      (reserveAggregateBudget sampleContext (reserveEcho 1 1 1 7) (sampleAnswers 4) reservingEcho.state 0).result
        matches .error .staleFence := by
  refine ⟨by decide +kernel, by decide +kernel, by decide +kernel⟩

/-! ### Commits sent again -/

theorem Change.committed_stays {C : OperatorStoreContext} {who : Option Credential} {now : Instant} {s s' : Database}
    {id : Uuid} {reservation : BudgetReservation} (h : Change C who now s s')
    (hfound : s.reservation? id = some reservation) (hstate : reservation.state = .committed) :
    s'.reservation? id = some reservation := by
  rcases h.reservations_cases with hsame | ⟨new, hjoins⟩ | ⟨old, new, hrows, hturns⟩
  · rw [Database.reservation?, hsame]
    exact hfound
  · rw [Database.reservation?, hjoins.rows, lookup, List.find?_append, show List.find? _ _ = _ from hfound]
    rfl
  · rw [Database.reservation?, hrows.lookup_eq, if_neg]
    · exact hfound
    rintro rfl
    obtain rfl := some.inj (hrows.lookup_old.symm.trans hfound)
    have hmoves := hturns.moves
    rw [hstate] at hmoves
    cases hmoves

/-- A commit that succeeded and is sent again changes nothing. If it succeeds again, its answer is the first one with
the revisions that the control record of the run and the account now have. -/
theorem commit_retry_answer (C : OperatorStoreContext) (events : List Event) (s : Database) (hs : Provisioned s)
    (request : RuntimeCommitRequest) (prepared : PreparedGovernedExecution) (o : Nat → Answer) (n : Nat)
    (first : RuntimeCommitResult)
    (hfirst : (commitRuntimeBarrier C request prepared o (after C events s) n).result = .ok first)
    (later : List Event) (o' : Nat → Answer) (n' : Nat) :
    let s₂ := after C later (commitRuntimeBarrier C request prepared o (after C events s) n).state
    (commitRuntimeBarrier C request prepared o' s₂ n').state = s₂ ∧
      ∀ second, (commitRuntimeBarrier C request prepared o' s₂ n').result = .ok second →
        ∃ row control account, s₂.reservation? request.permit.reservationId = some row ∧
          lookup RunControl.runId s₂.controls row.runId = some control ∧
          lookup BudgetAccount.budgetId s₂.budgets row.budgetId = some account ∧
          second = { first with controlRevision := control.controlRevision, budgetRevision := account.revision } := by
  intro s₂
  obtain ⟨⟨row, hrow, hstate, hreport⟩, -⟩ := commitRuntimeBarrier_reports hfirst
  have hkept : s₂.reservation? request.permit.reservationId = some row :=
    after_invariant (I := fun s => s.reservation? _ = some row)
      (fun _ h hfound => h.committed_stays hfound hstate) later
      (commitRuntimeBarrier_keyed (after_keyed events hs.keyed)) hrow
  have hsame : (commitRuntimeBarrier C request prepared o' s₂ n').state = s₂ := by
    rcases commitRuntimeBarrier_did request prepared o' s₂ n' with
      ⟨-, hs⟩ | ⟨-, hs, -⟩ | ⟨_, _, _, hsettling, -⟩
    · exact hs
    · exact hs
    · obtain rfl := some.inj (hkept.symm.trans hsettling.stored)
      cases hstate.symm.trans hsettling.state
  refine ⟨hsame, fun second hsecond => ?_⟩
  obtain ⟨⟨row', hrow', -, hreport'⟩, hstands⟩ := commitRuntimeBarrier_reports hsecond
  rw [hsame] at hrow'
  obtain rfl := some.inj (hkept.symm.trans hrow')
  obtain ⟨control, account, hcontrol, haccount, hrevisions⟩ := hstands row hkept hstate
  refine ⟨row, control, account, hkept, hcontrol, haccount, ?_⟩
  rw [hreport', hreport, hrevisions.1, hrevisions.2]

/-- The run is cancelled between the two: the control revision of the second answer is another one. -/
theorem commit_retry_after_cancel :
    let first := commitRuntimeBarrier sampleContext commitEcho preparedEcho (sampleAnswers 5)
      (after sampleContext (dispatchEcho 1 1 7 9) sampleStore) 0
    let s₂ := after sampleContext [⟨.executeOperatorCommand sampleSigner cancelRequest, sampleAnswers 6⟩] first.state
    first.result.toOption.map RuntimeCommitResult.controlRevision = some 4 ∧
      (commitRuntimeBarrier sampleContext commitEcho preparedEcho (sampleAnswers 7) s₂ 0).result.toOption.map
        RuntimeCommitResult.controlRevision = some 5 := by
  decide +kernel

theorem commit_retry_at_once :
    let s := after sampleContext (dispatchEcho 1 1 7 9) sampleStore
    let commit := commitRuntimeBarrier sampleContext commitEcho preparedEcho
    ∃ first second : RuntimeCommitResult, (commit (sampleAnswers 5) s 0).result = .ok first ∧
      (commit (sampleAnswers 6) (commit (sampleAnswers 5) s 0).state 0).result = .ok second ∧
      ∃ control account : Nat, second = { first with controlRevision := control, budgetRevision := account } := by
  intro s commit
  obtain ⟨first, hfirst, -⟩ := Fallible.exists_ok_of_toOption (d := 4) (f := RuntimeCommitResult.controlRevision)
    (x := (commit (sampleAnswers 5) s 0).result) (by decide +kernel)
  obtain ⟨second, hsecond, -⟩ := Fallible.exists_ok_of_toOption (d := 4) (f := RuntimeCommitResult.controlRevision)
    (x := (commit (sampleAnswers 6) (commit (sampleAnswers 5) s 0).state 0).result) (by decide +kernel)
  obtain ⟨-, hanswer⟩ := commit_retry_answer sampleContext (dispatchEcho 1 1 7 9) sampleStore
    sampleStore_provisioned commitEcho preparedEcho (sampleAnswers 5) 0 first hfirst [] (sampleAnswers 6) 0
  obtain ⟨row, control, account, -, -, -, hequal⟩ := hanswer second hsecond
  exact ⟨first, second, hfirst, hsecond, _, _, hequal⟩

/-! ### Dispatch answers -/

/-- The answer has what its outcome promises, and nothing else. -/
def DispatchResult.valid (C : OperatorStoreContext) (result : DispatchResult) : Bool :=
  safeOnWire result.controlRevision &&
  match result.outcome with
  | .dispatchAuthorized =>
    (result.permit.any fun permit => permit.validate matches .ok _) && result.replayCompletion.isNone
  | .exactReplay => result.permit.isNone && result.replayCompletion.any fun completion => completion.valid C
  | .replayConflict | .replayFailed | .replayInProgress | .replayUnsupported =>
    result.permit.isNone && result.replayCompletion.isNone

/-- The reservation is dispatching under the permit that was issued. -/
def UnderPermit (s : Database) (reservationId : Uuid) (result : DispatchResult) : Prop :=
  ∃ row permit, lookup BudgetReservation.reservationId s.reservations reservationId = some row ∧
    result.permit = some permit ∧ row.state = .dispatching ∧ row.permitId = some permit.permitId ∧
    row.dispatchTokenDigest = some permit.dispatchTokenDigest ∧ row.callDigest = some permit.callDigest

/-- The reservation is released, and its amounts are back in its account. -/
def GivenBack (s s' : Database) (reservationId : Uuid) : Prop :=
  ∃ row now account account', lookup BudgetReservation.reservationId s.reservations reservationId = some row ∧
    Settles s.books s'.books row (row.released now) account account'

/-- The answer is valid, and its reservation either dispatches under the permit or was given back. -/
structure Answered (C : OperatorStoreContext) (s s' : Database) (reservationId : Uuid) (result : DispatchResult) :
    Prop where
  valid : result.valid C = true
  settled : UnderPermit s' reservationId result ∧ ¬ GivenBack s s' reservationId ∨
    ¬ UnderPermit s' reservationId result ∧ GivenBack s s' reservationId

/-- A completion on the ledger is bound to a governed run, with its step and control record. -/
def Joined (s : Database) (request : BeginDispatchRequest) : Prop :=
  ∀ binding ∈ request.replay, OnLedger s binding → ∃ records, findReplayRecords s binding.key = some records

variable {step : AgentRunStep} {run : AgentRun}

section Dispatch
variable {C : OperatorStoreContext} {request : BeginDispatchRequest} {o : Nat → Answer} {s s' : Database} {n n' : Nat}
  {result : DispatchResult} {binding : ReplayClaimBinding} {completed completion : Option ReplayCompletionBinding}
  {now : Instant} {control : RunControl} {lease : RunLease} {reservation : BudgetReservation} {budget : BudgetAccount}
  {credential : Credential}

theorem GivenBack.released (h : GivenBack s s' request.reservationId) :
    ∃ row, s'.reservation? request.reservationId = some row ∧
      row.state = .released := by
  obtain ⟨row, now, account, account', hr, hsettles⟩ := h
  refine ⟨row.released now, ?_, rfl⟩
  have hlookup := hsettles.reservations.lookup_eq (k := request.reservationId)
  rwa [if_pos (lookup_eq_some hr).2.symm] at hlookup

theorem GivenBack.not_underPermit (h : GivenBack s s' request.reservationId) :
    ¬ UnderPermit s' request.reservationId result := by
  rintro ⟨row, permit, hrow, -, hdispatching, -⟩
  obtain ⟨row', hrow', hreleased⟩ := h.released
  obtain rfl := some.inj (hrow.symm.trans hrow')
  cases hdispatching.symm.trans hreleased

variable {kind : AuditEventKind} {audit : AuditOutcome} {outcome : DispatchOutcome}

section
variable (hmay : MayDispatch C credential now s control lease reservation budget)
include hmay

section
variable (h : Returns (declineDispatch C control lease reservation budget kind audit now outcome completion) o s n
  result s' n')
include h

theorem declineDispatch_answer :
    (∃ revision, safeOnWire revision = true ∧ result = ⟨outcome, none, completion, revision⟩) ∧
      ∃ account account', Settles s.books s'.books reservation (reservation.released now) account account' := by
  obtain ⟨settled, hrelease, rfl⟩ := returns_bind_pure h
  obtain ⟨⟨released, budget'⟩, _, _, hreleased, h⟩ := returns_bind.mp hrelease
  obtain ⟨id, hr⟩ := hmay.reservationRow
  obtain ⟨-, rfl, reservations, budgets, hsettles, rfl⟩ := releaseReservation_spec hreleased hr hmay.budgetRow
  obtain ⟨next, _, _, hadvance, h⟩ := returns_bind.mp h
  obtain ⟨event, _, hevent, rfl⟩ := returns_commit h
  have hsafe := advanceControl_safe hadvance
  obtain ⟨_, _, _, -, -, -, rfl⟩ := advanceControl_spec hadvance
  obtain ⟨-, -, _, -, -, rfl⟩ := appendBudgetEvent_audits hevent
  exact ⟨⟨_, hsafe, rfl⟩, budget, budget', hsettles⟩

theorem answered_of_decline (hr : s.reservation? request.reservationId = some reservation)
    (hvalid : ∀ revision, safeOnWire revision = true →
        (⟨outcome, none, completion, revision⟩ : DispatchResult).valid C = true) :
    Answered C s s' request.reservationId result := by
  obtain ⟨⟨revision, hsafe, rfl⟩, account, account', hsettles⟩ := declineDispatch_answer hmay h
  have hback : GivenBack s s' request.reservationId := ⟨_, _, _, _, hr, hsettles⟩
  exact ⟨hvalid revision hsafe, .inr ⟨hback.not_underPermit, hback⟩⟩

end

end

/-- An authorized dispatch, whatever its replay claim has added to the replay tables. -/
theorem answered_of_authorize {executionReplays : List ReplayRow} {replayBindings : List ReplayBindingRow}
    (hmay : MayDispatch C credential now s control lease reservation budget)
    (hr : s.reservation? request.reservationId = some reservation)
    (h : Returns (authorizeDispatch C request control lease reservation budget now) o
      { s with replayTables := { s.replayTables with executionReplays }, replayBindings } n result s' n') :
    Answered C s s' request.reservationId result := by
  obtain ⟨permit, next, reservations, controls, events, journal, rfl, hvalid, hsafe, -, -, hrows, -, -, rfl⟩ :=
    authorizeDispatch_spec h hmay.acts.controlRow hr
  have hlookup : lookup BudgetReservation.reservationId reservations request.reservationId =
      some (reservation.dispatching permit now) := by
    rw [hrows.lookup_eq, if_pos (lookup_eq_some hr).2.symm]
  have hunder : UnderPermit { s with reservations, controls, journal } request.reservationId
      ⟨.dispatchAuthorized, some permit, none, next.controlRevision⟩ :=
    ⟨_, permit, hlookup, rfl, rfl, rfl, rfl, rfl⟩
  exact ⟨by simp [DispatchResult.valid, hsafe, hvalid], .inl ⟨hunder, fun hback => hback.not_underPermit hunder⟩⟩

theorem verifyReplay_valid {records : ReplayRecords} {verified : ReplayCompletionBinding}
    (h : Returns (verifyReplay C records) o s n verified s' n') : verified.valid C = true := by
  obtain ⟨-, h⟩ := returns_failIf_bind.mp h
  obtain ⟨⟨reservation, prepared, commit⟩, _, _, -, h⟩ := returns_bind.mp h
  obtain ⟨completed, _, _, -, h⟩ := returns_bind.mp h
  obtain ⟨_, _, _, -, h⟩ := returns_bind.mp h
  obtain ⟨hvalid, h⟩ := returns_failIf_bind.mp h
  obtain ⟨rfl, -⟩ := returns_pure.mp h
  simpa using hvalid

theorem loadVerifiedReplay_spec (h : Returns (loadVerifiedReplay C binding) o s n completed s' n') :
    (completed = none ↔ ∀ records, findReplayRecords s binding.key = some records → records.claim.state ≠ .completed) ∧
      ∀ completion ∈ completed, completion.valid C = true := by
  simp only [loadVerifiedReplay, returns_orElse_bind, returns_select_bind, exists_unit] at h
  obtain ⟨-, -, h⟩ := h
  split at h
  · rename_i hnone
    obtain ⟨rfl, -⟩ := returns_pure.mp h
    simp [hnone]
  · rename_i records hrecords
    simp only [hrecords, some.injEq, forall_eq']
    split at h
    · rename_i hstate
      obtain ⟨rfl, -⟩ := returns_pure.mp h
      simpa using hstate
    · rename_i hstate
      simp only [returns_orElse_bind, returns_failIf_bind, exists_unit] at h
      obtain ⟨-, -, h⟩ := h
      obtain ⟨verified, _, _, hverified, h⟩ := returns_bind.mp h
      obtain ⟨rfl, -⟩ := returns_pure.mp h
      have hcompleted : records.claim.state = .completed := by simpa using hstate
      simp [hcompleted, verifyReplay_valid hverified]

theorem OnLedger.claim_completed {records : ReplayRecords} (h : OnLedger s binding)
    (hrecords : findReplayRecords s binding.key = some records) : records.claim.state = .completed := by
  obtain ⟨row, hrow, hstate, -⟩ := h
  simp only [findReplayRecords, hrow, bind_eq_bind, bind_some, bind_eq_some_iff,
    pure_def, some.injEq] at hrecords
  obtain ⟨_, -, _, -, _, -, _, -, rfl⟩ := hrecords
  exact hstate

/-- Under a claim without a verified completion, an answer is ill formed exactly if the ledger has one. -/
theorem dispatchClaimed_answer (hmay : MayDispatch C credential now s control lease reservation budget)
    (hr : s.reservation? request.reservationId = some reservation)
    (hnone : ∀ records, findReplayRecords s binding.key = some records → records.claim.state ≠ .completed)
    (h : Returns (dispatchClaimed C request control lease reservation budget now binding) o s n result s' n') :
    Answered C s s' request.reservationId result ∧ ¬ OnLedger s binding ∨
      result.valid C = false ∧ OnLedger s binding := by
  rcases dispatchClaimed_cases h with ⟨hoff, _, _, _, h⟩ | ⟨hoff, outcome, _, hpermit, hreplay, h⟩ |
    ⟨hledger, completion, _, _, _, hload, h⟩
  · exact .inl ⟨answered_of_authorize hmay hr h, hoff⟩
  · refine .inl ⟨answered_of_decline hmay h hr fun revision hsafe => ?_, hoff⟩
    cases outcome <;> first | contradiction | simp [DispatchResult.valid, hsafe]
  · obtain rfl := (loadVerifiedReplay_spec hload).1.mpr hnone
    obtain ⟨⟨revision, -, rfl⟩, -⟩ := declineDispatch_answer hmay h
    exact .inr ⟨by simp [DispatchResult.valid], hledger⟩

variable {checkpoint : CheckpointIdentity}

theorem checkDispatchReplay_spec
    (h : Returns (checkDispatchReplay C request control run step checkpoint) o s n completed s' n') :
    (∀ completion ∈ completed, completion.valid C = true ∧ Joined s request) ∧
      (completed = none → ∀ binding ∈ request.replay, ∀ records,
        findReplayRecords s binding.key = some records → records.claim.state ≠ .completed) := by
  unfold checkDispatchReplay at h
  split at h
  · rename_i binding hbinding
    obtain ⟨-, h⟩ := returns_invalidIf_bind.mp h
    obtain ⟨hnone, hvalid⟩ := loadVerifiedReplay_spec h
    simp only [Joined, hbinding, mem_def, some.injEq, forall_eq']
    refine ⟨fun completion hcompletion => ⟨hvalid completion hcompletion, fun _ => ?_⟩, hnone.mp⟩
    by_contra hrecords
    have hcompleted := hnone.mpr fun records hfound => absurd ⟨records, hfound⟩ hrecords
    cases hcompleted.symm.trans hcompletion
  · rename_i hbinding
    obtain ⟨-, h⟩ := returns_invalidIf_bind.mp h
    obtain ⟨rfl, -⟩ := returns_pure.mp h
    simp [hbinding]

theorem dispatchReserved_answer {n₀ n₁ : Nat} (hmay : MayDispatch C credential now s control lease reservation budget)
    (hr : s.reservation? request.reservationId = some reservation)
    (hcheck : Returns (checkDispatchReplay C request control run step checkpoint) o s n₀ completed s n₁)
    (h : Returns (dispatchReserved C request control lease reservation budget completed now) o s n (.ok result) s' n') :
    Answered C s s' request.reservationId result ∧ Joined s request ∨
      result.valid C = false ∧ ¬ Joined s request := by
  obtain ⟨hsome, hnone⟩ := checkDispatchReplay_spec hcheck
  unfold dispatchReserved at h
  split at h
  · rename_i hcompleted
    obtain ⟨completion, rfl⟩ := isSome_iff_exists.mp hcompleted
    obtain ⟨_, _, _, hdecline, h⟩ := returns_bind.mp h
    obtain ⟨hresult, rfl, -⟩ := returns_pure.mp h
    obtain rfl := Except.ok.inj hresult
    obtain ⟨hvalid, hjoined⟩ := hsome completion rfl
    refine .inl ⟨answered_of_decline hmay hdecline hr fun revision hsafe => ?_, hjoined⟩
    simp [DispatchResult.valid, hsafe, hvalid]
  · rename_i hcompleted
    have hopen := hnone (by simpa using hcompleted)
    split at h
    · obtain ⟨_, _, _, -, h⟩ := returns_bind.mp h
      cases (returns_pure.mp h).1
    · split at h
      · rename_i binding hbinding
        obtain ⟨_, _, _, hclaimed, h⟩ := returns_bind.mp h
        obtain ⟨hresult, rfl, -⟩ := returns_pure.mp h
        obtain rfl := Except.ok.inj hresult
        have hopen := hopen binding hbinding
        simp only [Joined, hbinding, mem_def, some.injEq, forall_eq']
        rcases dispatchClaimed_answer hmay hr hopen hclaimed with ⟨hanswered, hoff⟩ | ⟨hinvalid, hledger⟩
        · exact .inl ⟨hanswered, fun hledger => absurd hledger hoff⟩
        · refine .inr ⟨hinvalid, fun hjoined => ?_⟩
          obtain ⟨records, hrecords⟩ := hjoined hledger
          exact hopen records hrecords (hledger.claim_completed hrecords)
      · rename_i hbinding
        obtain ⟨_, _, _, hauthorize, h⟩ := returns_bind.mp h
        obtain ⟨hresult, rfl, -⟩ := returns_pure.mp h
        obtain rfl := Except.ok.inj hresult
        exact .inl ⟨answered_of_authorize hmay hr hauthorize, by simp [Joined, hbinding]⟩

end Dispatch

/-- A dispatch is answered as promised exactly if every completion for its key and input is governed. -/
theorem answered_iff_joined (C : OperatorStoreContext) (s : Database) (request : BeginDispatchRequest)
    (o : Nat → Answer) (n : Nat) (result : DispatchResult) (hok : (beginDispatch C request o s n).result = .ok result) :
    Answered C s (beginDispatch C request o s n).state request.reservationId result ↔ Joined s request := by
  have h := returns_of_result hok
  obtain ⟨-, h⟩ := returns_invalidIf_bind.mp h
  obtain ⟨step, s', _, hbegin, h⟩ := returns_bind.mp h
  obtain ⟨hresult, hs', -⟩ := returns_lift.mp h
  subst hresult
  rw [← hs']
  obtain ⟨now, control, lease, reservation, budget, completed, _, _, _, -, -, hmay, hr, ⟨run, step, checkpoint, hcheck⟩,
    hdone⟩ := beginInTransaction_may (returns_atomically.mp hbegin)
  rcases dispatchReserved_answer hmay hr hcheck hdone with ⟨hanswered, hjoined⟩ | ⟨hinvalid, hjoined⟩
  · exact ⟨fun _ => hjoined, fun _ => hanswered⟩
  · exact ⟨fun h => absurd (h.valid.symm.trans hinvalid) nofun, fun h => absurd h hjoined⟩

/-- The first run has reserved its call. -/
def reservedEcho : Database := after sampleContext ((dispatchEcho 1 1 7 9).take 3) sampleStore

theorem answered_iff_joined_echo :
    ∃ result, Answered sampleContext reservedEcho
      (beginDispatch sampleContext (beginEcho 1 1 2 7 9) (sampleAnswers 4) reservedEcho 0).state
        (runUuid 1 30) result := by
  obtain ⟨result, hok, -⟩ : ∃ result, (beginDispatch sampleContext (beginEcho 1 1 2 7 9) (sampleAnswers 4) reservedEcho
      0).result = .ok result ∧ result.outcome = .dispatchAuthorized :=
    Fallible.exists_ok_of_toOption (f := DispatchResult.outcome) (by decide +kernel)
  exact ⟨result, (answered_iff_joined sampleContext reservedEcho (beginEcho 1 1 2 7 9) (sampleAnswers 4) 0 result
    hok).mpr nofun⟩

/-! The operation was run directly before, under the key that the governed run now binds its call to. -/

def echoBinding : ReplayClaimBinding :=
  ⟨ReplayClaimBinding.schemaName, .v7 2, runUuid 1 1, runUuid 1 2, runUuid 1 3, 0, ⟨0⟩, "test.echo", "v1", .v7 60,
    ⟨0⟩, ⟨.v7 8⟩, .blank⟩

def directProof : Proof := { echoProof with body := { echoProof.body with timestamp := 0 } }

def directTables : SqliteReplayTables where
  executionReplays := [{ SqliteStore.claimedRow ⟨echoBinding.key, ⟨0⟩, .v7 61, ⟨.v7 8⟩, 0⟩ with
    state := .completed
    completedAt := some 0
    outputJson := some ⟨"null"⟩
    proofId := some (.v7 40)
    proofJson := some directProof
    executionContextId := some (.v7 41) }]
  executionContexts := [⟨.v7 41, ⟨.v7 8⟩, none, "/workspace", 0⟩]
  proofs := [directProof]

def directContext : OperatorStoreContext := { sampleContext with parseJson := fun _ => some .null }

def boundEcho : Database :=
  after directContext ((dispatchEcho 1 1 7 9).take 2 ++
      [⟨.reserveAggregateBudget { reserveEcho 1 1 1 7 with replay := some echoBinding }, sampleAnswers 3⟩])
    { sampleStore with replayTables := directTables }

/-- The claim finds the direct completion and the governed lookup does not. -/
theorem exact_replay_without_completion :
    let request := { beginEcho 1 1 2 7 9 with replay := some echoBinding, replayClaimToken := some (.v7 62) }
    ∃ result, (beginDispatch directContext request (sampleAnswers 4) boundEcho 0).result = .ok result ∧
      (result.outcome, result.replayCompletion, result.valid directContext) = (.exactReplay, none, false) :=
  Fallible.exists_ok_of_toOption
    (f := fun result : DispatchResult => (result.outcome, result.replayCompletion, result.valid directContext))
    (by decide +kernel)

/-! ### Approved steps -/

/-- Some plan for the run and the step passes the check against its permit. -/
def Dispatchable (H : GovernedHashes) (run : AgentRun) (step : AgentRunStep) : Prop :=
  ∃ (plan : GovernedExecutionPlan) (operation version : String) (argumentDigest : ControlDigest)
    (inputDigest : ContentDigest) (trustedNow : Instant), plan.runBefore = run ∧ plan.stepBefore = step ∧
    (plan.callMatches operation version argumentDigest inputDigest && plan.inProgress && plan.wellFormed &&
      plan.chronological trustedNow && plan.permitMatches H trustedNow) = true

theorem not_dispatchable_of_request {H : GovernedHashes} {requestId : Uuid}
    (h : step.approvalRequestId = some requestId) : ¬ Dispatchable H run step := by
  rintro ⟨plan, operation, version, argumentDigest, inputDigest, trustedNow, -, rfl, hpasses⟩
  simp [GovernedExecutionPlan.inProgress, h] at hpasses

/-- After a resume of an approval was applied, no plan for its step passes. -/
theorem resumed_not_dispatchable (C : OperatorStoreContext) (H : GovernedHashes) (signer : OperatorSigner)
    (s : Database) (hs : s.Keyed) (request : CommandExecutionRequest) (command : RunResumeCommand) (requestId : Uuid)
    (hcommand : request.command = .runResume command) (hrequest : command.approvalRequestId = some requestId)
    (o : Nat → Answer) (n : Nat) (result : CommandResult)
    (hok : (executeOperatorCommand C signer request o s n).result = .ok result) (happlied : result.outcome = .applied) :
    ∃ step, lookup AgentRunStep.id (executeOperatorCommand C signer request o s n).state.agentSteps
        command.stepId = some step ∧ ∀ run, ¬ Dispatchable H run step := by
  obtain ⟨done, s', _, hreturns, h⟩ := returns_bind.mp (returns_of_result hok)
  obtain ⟨hdone, hs', -⟩ := returns_lift.mp h
  subst hdone
  rw [show (executeOperatorCommand C signer request o s n).state = s' from hs'.symm]
  obtain ⟨step, hstep, hnamed⟩ :=
    executeInTransaction_resumed hs hcommand hrequest happlied (returns_atomically.mp hreturns)
  exact ⟨step, hstep, fun run => not_dispatchable_of_request hnamed⟩

/-! The run that waits for the enrolled human is approved, and resumed. -/

def approvedDecision : SignedApprovalDecision where
  body := ⟨.v7 27, .v7 23, ⟨0⟩, .approved, ⟨.v7 20⟩, 5, none⟩
  signature := List.replicate 64 0

def approvedStore : Database :=
  let waiting := waitingStore sampleContext (List.replicate 64 0)
  { waiting with
    approvalDecisions := [approvedDecision]
    journal := { waiting.journal with auditHeads := [⟨.v7 2, 0, none⟩] } }

def resumeApproved : RunResumeCommand where
  schema := RunResumeCommand.schemaName
  binding := sessionBinding sampleContext (.v7 25) (.v7 26)
  runId := .v7 1
  stepId := .v7 24
  approvalRequestId := some (.v7 23)
  decisionDigest := some ⟨0⟩
  recoveryDirectiveId := none
  recoveryDirectiveDigest := none
  expectedRunRevision := 1
  expectedStepRevision := 1
  expectedControlRevision := 1
  expectedCheckpointId := .v7 9
  expectedCheckpointSequence := 0
  expectedCheckpointDigest := ⟨0⟩
  expectedFenceEpoch := 1

def resumeRequest : CommandExecutionRequest := sessionRequest sampleContext (.runResume resumeApproved)

theorem resumed_not_dispatchable_approved :
    ∃ step, lookup AgentRunStep.id
        (executeOperatorCommand sampleContext sampleSigner resumeRequest atTen approvedStore 0).state.agentSteps
          (.v7 24) =
      some step ∧ ∀ run, ¬ Dispatchable ⟨sampleHashes, fun _ => .blank⟩ run step := by
  obtain ⟨result, hok, happlied⟩ : ∃ result, (executeOperatorCommand sampleContext sampleSigner resumeRequest atTen
      approvedStore 0).result = .ok result ∧ result.outcome = .applied :=
    Fallible.exists_ok_of_toOption (f := CommandResult.outcome) (by decide +kernel)
  exact resumed_not_dispatchable sampleContext ⟨sampleHashes, fun _ => .blank⟩ sampleSigner approvedStore
    ⟨List.nodup_singleton _, List.nodup_nil⟩ resumeRequest resumeApproved (.v7 23) rfl rfl atTen 0 result hok happlied

/-- The resumed step runs and still names its request, which every plan check refuses. -/
theorem approved_step_undispatchable :
    let done := executeOperatorCommand sampleContext sampleSigner resumeRequest atTen approvedStore 0
    approvedDecision.body.outcome = .approved ∧
      done.result.toOption.map CommandResult.outcome = some .applied ∧
      done.state.agentSteps.map (fun step => (step.status, step.approvalRequestId)) = [(.running, some (.v7 23))] ∧
      ∀ plan : GovernedExecutionPlan, plan.stepBefore ∈ done.state.agentSteps → plan.inProgress = false := by
  intro done
  have hsteps : done.state.agentSteps.map (fun step => (step.status, step.approvalRequestId)) =
      [(.running, some (.v7 23))] := by decide +kernel
  refine ⟨rfl, by decide +kernel, hsteps, fun plan hplan => ?_⟩
  have hnamed := List.mem_map_of_mem (f := fun step : AgentRunStep => (step.status, step.approvalRequestId)) hplan
  rw [hsteps, List.mem_singleton, Prod.mk.injEq] at hnamed
  simp [GovernedExecutionPlan.inProgress, hnamed.2]

end ProofPlatform.Operator
