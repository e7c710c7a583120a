import ProofPlatform.Operator.System

/-! How a reservation moves. A run has one open reservation at most, and names it while dispatching. -/
namespace ProofPlatform.Operator
open Kernel Library List Table Option

/-- The moves that a reservation can make. -/
inductive Moves : BudgetReservationState → BudgetReservationState → Prop
  | release : Moves .reserved .released
  | dispatch : Moves .reserved .dispatching
  | commit : Moves .dispatching .committed
  | forfeit : Moves .dispatching .forfeited

/-- A reservation keeps its permit, or gets one no other has, with the digest of the token brought. -/
structure Turns (C : OperatorStoreContext) (who : Option Credential) (rows : List BudgetReservation)
    (old new : BudgetReservation) : Prop where
  moves : Moves old.state new.state
  run : new.runId = old.runId
  request : new.requestDigest = old.requestDigest
  call : new.intentDigest = old.intentDigest ∧ new.replay = old.replay ∧ new.recovery = old.recovery
  permit : new.permitId = old.permitId ∨
    ∀ row ∈ rows, row.reservationId ≠ old.reservationId → row.permitId ≠ new.permitId
  token : new.dispatchTokenDigest = old.dispatchTokenDigest ∨ ∃ credential token, who = some credential ∧
    credential.dispatchToken = some token ∧ new.dispatchTokenDigest = some (C.hashes.dispatchToken token)

/-- The digest is that of a request that quoted an earlier revision of its control record. -/
def AskedBefore (C : OperatorStoreContext) (controls : List RunControl) (digest : ControlDigest) : Prop :=
  ∃ request : BudgetReserveRequest, digest = C.hashes.budgetRequest request ∧
    safeOnWire request.authority.expectedControlRevision = true ∧
    ∃ control ∈ controls, control.runId = request.authority.runId ∧
      request.authority.expectedControlRevision < control.controlRevision

/-- A reservation that is added, for a run that has no open one and no directive outstanding. -/
structure Joins (C : OperatorStoreContext) (s s' : Database) (row : BudgetReservation) : Prop where
  rows : s'.reservations = s.reservations ++ [row]
  state : row.state = .reserved
  unpermitted : row.permitId = none ∧ row.dispatchTokenDigest = none
  vacant : ∀ old ∈ s.reservations, old.runId = row.runId → reservationOpen old = false
  asked : AskedBefore C s'.controls row.requestDigest
  recovers : ∃ control, lookup RunControl.runId s.controls row.runId = some control ∧ Recovers s control row

section Reservations
variable {C : OperatorStoreContext} {who : Option Credential} {now : Instant} {s s' : Database}

theorem Change.reservations_cases (h : Change C who now s s') : s'.reservations = s.reservations ∨
    (∃ row, Joins C s s' row) ∨
    ∃ old new, Replaces BudgetReservation.reservationId old new s.reservations s'.reservations ∧
      Turns C who s.reservations old new := by
  cases h with
  | noted | recorded | registered | claimed | relet => exact .inl rfl
  | reserved acts opens owner _ vacant recovers asked unpermitted advanced =>
    obtain ⟨hdigest, hrun, hrevision, hsafe⟩ := asked
    refine .inr (.inl ⟨_, opens.reservations, opens.state, unpermitted, fun old hold hold' =>
      vacant old hold (hold'.trans owner), ⟨_, hdigest, hsafe, _, advanced.rows.new_mem, ?_, ?_⟩, _, ?_, recovers⟩)
    · exact advanced.rows.key_eq.trans hrun.symm
    · rw [hrevision, advanced.revision]
      exact Nat.lt_succ_self _
    · rw [owner, acts.control_runId]
      exact acts.controlRow
  | released _ state settles =>
    refine .inr (.inr ⟨_, _, settles.reservations, ⟨?_, rfl, rfl, ⟨rfl, rfl, rfl⟩, .inl rfl, .inl rfl⟩⟩)
    rw [state]
    exact .release
  | dispatched _ state rows _ _ _ _ permitted brought =>
    refine .inr (.inr ⟨_, _, rows, ⟨?_, rfl, rfl, ⟨rfl, rfl, rfl⟩, .inr permitted, .inr ⟨_, _, rfl, brought.1, ?_⟩⟩⟩)
    · rw [state]
      exact .dispatch
    · exact congrArg some brought.2
  | committed _ state _ commits =>
    obtain ⟨_, _, _, -, -, -, -, hsettles⟩ := commits.settled
    refine .inr (.inr ⟨_, _, hsettles.reservations, ⟨?_, rfl, rfl, ⟨rfl, rfl, rfl⟩, .inl rfl, .inl rfl⟩⟩)
    rw [state]
    exact .commit
  | forfeited _ state _ forfeits =>
    obtain ⟨_, _, hsettles⟩ := forfeits.settled
    refine .inr (.inr ⟨_, _, hsettles.reservations, ⟨?_, rfl, rfl, ⟨rfl, rfl, rfl⟩, .inl rfl, .inl rfl⟩⟩)
    rw [state]
    exact .forfeit
  | cancelled cancels =>
    rcases cancels.books with ⟨hbooks, -⟩ | ⟨reservation, _, _, state, -, hsettles⟩
    · exact .inl (congrArg Books.reservations hbooks)
    · refine .inr (.inr ⟨_, _, hsettles.reservations, ⟨?_, rfl, rfl, ⟨rfl, rfl, rfl⟩, .inl rfl, .inl rfl⟩⟩)
      rw [state]
      exact .release
  | resumed resumes => exact .inl (by rw [resumes.rest])

theorem Moves.open_old {old new : BudgetReservation} (h : Moves old.state new.state) : reservationOpen old = true := by
  unfold reservationOpen
  cases hold : old.state <;> rw [hold] at h <;> first | rfl | cases h

/-- A run has one open reservation at most, and a permit belongs to one reservation. -/
structure Booked (rows : List BudgetReservation) : Prop where
  single : ∀ a ∈ rows, ∀ b ∈ rows, a.runId = b.runId → reservationOpen a = true → reservationOpen b = true → a = b
  permits : ∀ a ∈ rows, ∀ b ∈ rows, a.permitId = b.permitId → a.permitId ≠ none → a = b

theorem Booked.nil : Booked [] := ⟨by simp, by simp⟩

theorem Change.booked (h : Change C who now s s') (hs : s.Keyed) (hb : Booked s.reservations) :
    Booked s'.reservations := by
  rcases h.reservations_cases with hsame | ⟨row, hjoins⟩ | ⟨old, new, hrows, hturns⟩
  · exact hsame ▸ hb
  · rw [hjoins.rows]
    constructor
    · refine forall_pairs_append (fun a b hab hrun ha hb => (hab hrun.symm hb ha).symm)
        (fun _ _ _ _ => rfl) hb.single ?_
      intro a ha hrun hopen
      simp [hjoins.vacant a ha hrun] at hopen
    · refine forall_pairs_append (fun a b hab hpermit hnone => (hab hpermit.symm (hpermit ▸ hnone)).symm)
        (fun _ _ _ => rfl) hb.permits ?_
      intro a ha hpermit hnone
      exact absurd (hpermit.trans hjoins.unpermitted.1) hnone
  · have hold := hturns.moves.open_old
    constructor
    · refine hs.reservations.forall_pairs_replaces hrows (fun a b hab hrun ha hb => (hab hrun.symm hb ha).symm)
        (fun _ _ _ _ => rfl) hb.single ?_
      intro a ha hid hrun hopen
      exact absurd (congrArg _ (hb.single a ha old hrows.old_mem (hrun.trans hturns.run) hopen hold)) hid
    · refine hs.reservations.forall_pairs_replaces hrows
        (fun a b hab hpermit hnone => (hab hpermit.symm (hpermit ▸ hnone)).symm) (fun _ _ _ => rfl) hb.permits ?_
      intro a ha hid hpermit hnone
      rcases hturns.permit with hkept | hnew
      · exact absurd (congrArg _ (hb.permits a ha old hrows.old_mem (hpermit.trans hkept) hnone)) hid
      · exact absurd hpermit (hnew a ha hid)

end Reservations

/-! ### The reservation that a run dispatches -/

/-- The control record of the run names the reservation. -/
def ActiveIn (controls : List RunControl) (runId reservationId : Uuid) : Prop :=
  ∃ control ∈ controls, control.runId = runId ∧ control.activeDispatchReservationId = some reservationId

/-- The run has the reservation, and it is dispatching. -/
def DispatchingIn (rows : List BudgetReservation) (runId reservationId : Uuid) : Prop :=
  ∃ row ∈ rows, row.runId = runId ∧ row.reservationId = reservationId ∧ row.state = .dispatching

/-- Control records name the dispatching reservations, and a run that dispatches is running. -/
structure Dispatches (s : Database) : Prop where
  controls : Keyed RunControl.runId s.controls
  booked : Booked s.reservations
  agrees : ∀ runId reservationId,
    ActiveIn s.controls runId reservationId ↔ DispatchingIn s.reservations runId reservationId
  running : ∀ runId reservationId, ActiveIn s.controls runId reservationId →
    ∃ run, lookup AgentRun.id s.agentRuns runId = some run ∧ run.status = .running

section Dispatch
variable {C : OperatorStoreContext} {who : Option Credential} {credential : Credential} {now : Instant}
  {s s' : Database}
  {rows rows' : List RunControl} {control next : RunControl} {lease : RunLease} {active recovery : Option Uuid}
  {runId reservationId : Uuid} {reservation : BudgetReservation}

theorem Advances.activeIn_iff (h : Advances rows rows' control next active recovery)
    (hactive : active = control.activeDispatchReservationId) :
    ActiveIn rows' runId reservationId ↔ ActiveIn rows runId reservationId :=
  h.rows.exists_iff (by rw [show next.runId = control.runId from h.rows.key_eq, h.active, hactive])

theorem Advances.activeIn_of_idle (h : Advances rows rows' control next active recovery)
    (hidle : control.activeDispatchReservationId = none) : ActiveIn rows' runId reservationId ↔
      (control.runId = runId ∧ active = some reservationId) ∨ ActiveIn rows runId reservationId := by
  unfold ActiveIn
  rw [h.rows.exists_iff_of_not_old (by simp [hidle]), show next.runId = control.runId from h.rows.key_eq, h.active]

theorem Advances.activeIn_of_none (h : Advances rows rows' control next none recovery)
    (hkeyed : Keyed RunControl.runId rows) :
    ActiveIn rows' runId reservationId ↔ ActiveIn rows runId reservationId ∧ runId ≠ control.runId := by
  unfold ActiveIn
  rw [hkeyed.exists_iff_of_not_new h.rows (by simp [h.active])]
  constructor
  · rintro ⟨row, hrow, ⟨hrun, hactive⟩, hne⟩
    exact ⟨⟨row, hrow, hrun, hactive⟩, hrun ▸ hne⟩
  · rintro ⟨⟨row, hrow, hrun, hactive⟩, hne⟩
    exact ⟨row, hrow, ⟨hrun, hactive⟩, hrun.symm ▸ hne⟩

theorem Acts.control_mem (h : Acts C credential now s control lease) : control ∈ s.controls :=
  (lookup_eq_some h.controlRow).1

section
variable (hd : Dispatches s)
include hd

theorem Dispatches.ne_of_idle (hcontrol : control ∈ s.controls)
    (hidle : control.activeDispatchReservationId = none) (hactive : ActiveIn s.controls runId reservationId) :
    runId ≠ control.runId := by
  rintro rfl
  obtain ⟨row, hrow, hrun, hactive⟩ := hactive
  obtain rfl := hd.controls.eq_of_key_eq hrow hcontrol hrun
  cases hidle.symm.trans hactive

theorem Dispatches.owner_of_active (hs : s.Keyed) (hcontrol : control ∈ s.controls)
    (hactive : control.activeDispatchReservationId = some reservation.reservationId)
    (hmem : reservation ∈ s.reservations) : reservation.runId = control.runId := by
  obtain ⟨row, hrow, hrun, hid, -⟩ := (hd.agrees _ _).mp ⟨control, hcontrol, rfl, hactive⟩
  rw [← hs.reservations.eq_of_key_eq hrow hmem hid, hrun]

private theorem Dispatches.quiet (hcontrols : Keyed RunControl.runId s'.controls) (hbooked : Booked s'.reservations)
    (hactive : ∀ runId id, ActiveIn s'.controls runId id ↔ ActiveIn s.controls runId id)
    (hdispatching : ∀ runId id, DispatchingIn s'.reservations runId id ↔ DispatchingIn s.reservations runId id)
    (hruns : ∀ runId id, ActiveIn s.controls runId id →
      lookup AgentRun.id s'.agentRuns runId = lookup AgentRun.id s.agentRuns runId) : Dispatches s' := by
  refine ⟨hcontrols, hbooked, fun runId id => ?_, fun runId id hid => ?_⟩
  · rw [hactive, hdispatching, hd.agrees]
  · have hid' := (hactive runId id).mp hid
    rw [hruns runId id hid']
    exact hd.running runId id hid'

private theorem Dispatches.lookup_of_idle (hcontrol : control ∈ s.controls)
    (hidle : control.activeDispatchReservationId = none) {run run' : AgentRun} {agentRuns : List AgentRun}
    (hfound : lookup AgentRun.id s.agentRuns control.runId = some run)
    (hrows : Replaces AgentRun.id run run' s.agentRuns agentRuns) (hactive : ActiveIn s.controls runId reservationId) :
    lookup AgentRun.id agentRuns runId = lookup AgentRun.id s.agentRuns runId := by
  rw [hrows.lookup_eq, if_neg]
  rw [(lookup_eq_some hfound).2]
  exact hd.ne_of_idle hcontrol hidle hactive

private theorem Dispatches.ended (hs : s.Keyed) (hbooked : Booked s'.reservations) (hcontrol : control ∈ s.controls)
    (hactive : control.activeDispatchReservationId = some reservation.reservationId)
    (hadvances : Advances s.controls s'.controls control next none recovery) {settled : BudgetReservation}
    (hrows : Replaces BudgetReservation.reservationId reservation settled s.reservations s'.reservations)
    (hsettled : settled.state ≠ .dispatching) (hruns : ∀ runId, runId ≠ control.runId →
      lookup AgentRun.id s'.agentRuns runId = lookup AgentRun.id s.agentRuns runId) : Dispatches s' := by
  have hnone (runId id : Uuid) : ActiveIn s'.controls runId id ↔ ActiveIn s.controls runId id ∧ runId ≠ control.runId :=
    hadvances.activeIn_of_none hd.controls
  refine ⟨hd.controls.replaces hadvances.rows, hbooked, fun runId id => ?_, fun runId id hid => ?_⟩
  · have hgone : DispatchingIn s'.reservations runId id ↔
        ∃ row ∈ s.reservations, (row.runId = runId ∧ row.reservationId = id ∧ row.state = .dispatching) ∧
          row.reservationId ≠ reservation.reservationId :=
      hs.reservations.exists_iff_of_not_new hrows (fun hp => hsettled hp.2.2)
    rw [hnone, hgone]
    constructor
    · rintro ⟨hid, hne⟩
      obtain ⟨row, hrow, hrun, hid', hstate⟩ := (hd.agrees runId id).mp hid
      refine ⟨row, hrow, ⟨hrun, hid', hstate⟩, fun hsame => hne ?_⟩
      rw [← hrun, hs.reservations.eq_of_key_eq hrow hrows.old_mem hsame]
      exact hd.owner_of_active hs hcontrol hactive hrows.old_mem
    · rintro ⟨row, hrow, hrow', hne⟩
      have hid := (hd.agrees runId id).mpr ⟨row, hrow, hrow'⟩
      refine ⟨hid, fun hrun => hne ?_⟩
      obtain ⟨other, hother, hotherRun, hotherActive⟩ := hid
      rw [hd.controls.eq_of_key_eq hother hcontrol (hotherRun.trans hrun), hactive] at hotherActive
      rw [hrow'.2.1]
      exact (some.inj hotherActive).symm
  · obtain ⟨hid, hne⟩ := (hnone runId id).mp hid
    rw [hruns runId hne]
    exact hd.running runId id hid

end

private theorem dispatchingIn_append {rows rows' : List BudgetReservation} (h : rows' = rows ++ [reservation])
    (hstate : reservation.state ≠ .dispatching) :
    DispatchingIn rows' runId reservationId ↔ DispatchingIn rows runId reservationId := by
  subst h
  simp [DispatchingIn, or_and_right, exists_or, hstate]

private theorem dispatchingIn_replaces {rows rows' : List BudgetReservation} {old new : BudgetReservation}
    (h : Replaces BudgetReservation.reservationId old new rows rows') (hold : old.state ≠ .dispatching)
    (hnew : new.state ≠ .dispatching) :
    DispatchingIn rows' runId reservationId ↔ DispatchingIn rows runId reservationId :=
  h.exists_iff (by simp [hold, hnew])

theorem Change.dispatches (h : Change C who now s s') (hs : s.Keyed) (hd : Dispatches s) : Dispatches s' := by
  have hbooked := h.booked hs hd.booked
  cases h with
  | noted | recorded => exact ⟨hd.controls, hd.booked, hd.agrees, hd.running⟩
  | registered new idle =>
    refine hd.quiet (hd.controls.append new) hbooked (fun runId id => ?_) (fun _ _ => .rfl) fun _ _ _ => rfl
    simp [ActiveIn, or_and_right, exists_or, idle]
  | claimed _ _ _ _ advanced | relet _ _ _ _ _ advanced =>
    exact hd.quiet (hd.controls.replaces advanced.rows) hbooked (fun _ _ => advanced.activeIn_iff rfl) (fun _ _ => .rfl)
      fun _ _ _ => rfl
  | reserved _ opens _ idle _ _ _ _ advanced =>
    exact hd.quiet (hd.controls.replaces advanced.rows) hbooked (fun _ _ => advanced.activeIn_iff idle.symm)
      (fun _ _ => dispatchingIn_append opens.reservations (by simp [opens.state])) fun _ _ _ => rfl
  | released _ state settles _ advanced =>
    exact hd.quiet (hd.controls.replaces advanced.rows) hbooked (fun _ _ => advanced.activeIn_iff rfl)
      (fun _ _ => dispatchingIn_replaces settles.reservations (by simp [state]) (by simp [BudgetReservation.released]))
      fun _ _ _ => rfl
  | dispatched acts state rows owner idle found running _ _ advanced =>
    refine ⟨hd.controls.replaces advanced.rows, hbooked, fun runId id => ?_, fun runId id hid => ?_⟩
    · have hnew : DispatchingIn _ runId id ↔ _ := rows.exists_iff_of_not_old (by simp [state])
      rw [advanced.activeIn_of_idle idle, hnew, hd.agrees]
      simp [BudgetReservation.dispatching, owner, DispatchingIn]
    · rcases (advanced.activeIn_of_idle idle).mp hid with ⟨rfl, -⟩ | hid
      · exact ⟨_, found, running⟩
      · exact hd.running runId id hid
  | committed acts _ active commits =>
    obtain ⟨_, _, _, -, -, -, -, hsettles⟩ := commits.settled
    obtain ⟨next, hadvances⟩ := commits.advanced
    obtain ⟨run, hrun, -, hruns⟩ := commits.run
    refine hd.ended hs hbooked acts.control_mem active hadvances hsettles.reservations
      (by simp [BudgetReservation.committed]) fun runId hne => ?_
    rw [hruns.lookup_eq, if_neg]
    rw [hrun, hd.owner_of_active hs acts.control_mem active hsettles.reservations.old_mem]
    exact hne
  | forfeited acts _ active forfeits =>
    obtain ⟨_, _, hsettles⟩ := forfeits.settled
    obtain ⟨next, hadvances⟩ := forfeits.advanced
    obtain ⟨run, hfound, hruns⟩ := forfeits.run
    refine hd.ended hs hbooked acts.control_mem active hadvances hsettles.reservations
      (by simp [BudgetReservation.forfeited]) fun runId hne => ?_
    rcases hruns with ⟨-, hsame⟩ | ⟨run', -, hruns⟩
    · rw [hsame]
    · rw [hruns.lookup_eq, if_neg]
      rwa [(lookup_eq_some hfound).2]
  | cancelled cancels =>
    obtain ⟨next, hadvances⟩ := cancels.advanced
    obtain ⟨run', -, hruns⟩ := cancels.cancelled
    refine hd.quiet (hd.controls.replaces hadvances.rows) hbooked
      (fun _ _ => hadvances.activeIn_iff cancels.idle.symm) (fun runId id => ?_)
      fun _ _ => hd.lookup_of_idle cancels.acts.control_mem cancels.idle cancels.found hruns
    rcases cancels.books with ⟨hbooks, -⟩ | ⟨_, _, _, state, -, hsettles⟩
    · rw [show s'.reservations = s.reservations from congrArg Books.reservations hbooks]
    · exact dispatchingIn_replaces hsettles.reservations (by simp [state]) (by simp [BudgetReservation.released])
  | resumed resumes =>
    obtain ⟨next, hadvances⟩ := resumes.advanced
    obtain ⟨run', hruns⟩ := resumes.resumed
    refine hd.quiet (hd.controls.replaces hadvances.rows) hbooked
      (fun _ _ => hadvances.activeIn_iff resumes.idle.symm) (fun runId id => ?_)
      fun _ _ => hd.lookup_of_idle resumes.acts.control_mem resumes.idle resumes.found hruns
    rw [show s'.reservations = s.reservations by rw [resumes.rest]]

end Dispatch

section Histories
variable {C : OperatorStoreContext} {s : Database}

theorem Provisioned.dispatches (h : Provisioned s) : Dispatches s := by
  refine ⟨?_, h.reservations ▸ .nil, fun runId id => ?_, fun runId id hid => ?_⟩
  · rw [h.controls]
    exact nodup_nil
  · simp [ActiveIn, DispatchingIn, h.controls, h.reservations]
  · simp [ActiveIn, h.controls] at hid

theorem after_dispatches (events : List Event) (hs : Provisioned s) : Dispatches (after C events s) :=
  after_invariant (fun hs h => h.dispatches hs) events hs.keyed hs.dispatches

/-- The call is a dispatch that brings a token with this digest. -/
def Event.brings (C : OperatorStoreContext) (digest : ControlDigest) (event : Event) : Bool :=
  match event.call with
  | .beginDispatch request => C.hashes.dispatchToken request.dispatchToken == digest
  | _ => false

theorem Event.brings_of_credential {event : Event} {credential : Credential} {token : Token}
    (hcredential : event.call.credential = some credential) (htoken : credential.dispatchToken = some token) :
    event.brings C (C.hashes.dispatchToken token) = true := by
  unfold Event.brings
  cases hcall : event.call with
  | beginDispatch request =>
    rw [hcall] at hcredential
    obtain rfl := some.inj hcredential
    obtain rfl := some.inj htoken
    simp
  | releaseRunLease request =>
    rw [hcall] at hcredential
    obtain ⟨authority, -, rfl⟩ := map_eq_some_iff.mp hcredential
    cases htoken
  | executeOperatorCommand signer request =>
    rw [hcall, Call.credential] at hcredential
    cases hcommand : request.command <;> rw [hcommand] at hcredential <;> cases hcredential <;> cases htoken
  | registerGovernedRun | appendAuthorityEvent | claimRunLease | reclaimRun =>
    rw [hcall] at hcredential
    cases hcredential
  | renewRunLease | reserveAggregateBudget | settleBudgetReservation | commitRuntimeBarrier | settleRuntimeFailure =>
    rw [hcall] at hcredential
    obtain rfl := some.inj hcredential
    cases htoken

/-- The reservations that carry the digest of a dispatch token. -/
def tokenCount (digest : ControlDigest) (rows : List BudgetReservation) : Nat :=
  rows.countP fun row => row.dispatchTokenDigest == some digest

/-- One call adds the digest to one reservation at most, and only if it brings the token. -/
theorem next_tokenCount_le (digest : ControlDigest) (event : Event) (hs : s.Keyed) :
    tokenCount digest (next C s event).reservations ≤
      tokenCount digest s.reservations + if event.brings C digest then 1 else 0 := by
  rcases next_cases hs event with hsame | ⟨now, n, -, hchange⟩
  · rw [hsame]
    exact Nat.le_add_right _ _
  rcases hchange.reservations_cases with hsame | ⟨row, hjoins⟩ | ⟨old, new, hrows, hturns⟩
  · rw [hsame]
    exact Nat.le_add_right _ _
  · rw [hjoins.rows]
    simp [tokenCount, hjoins.unpermitted.2]
  · obtain ⟨-, left, right, hsplit, hsplit', -⟩ := hrows
    rw [hsplit, hsplit']
    simp only [tokenCount, countP_append, countP_cons]
    rcases hturns.token with hkept | ⟨credential, token, hwho, htoken, hdigest⟩
    · rw [hkept]
      omega
    · by_cases hd : C.hashes.dispatchToken token = digest
      · rw [← hd, Event.brings_of_credential hwho htoken, hdigest]
        simp only [beq_self_eq_true, if_true]
        omega
      · have hne : (new.dispatchTokenDigest == some digest) = false := by simp [hdigest, hd]
        rw [hne]
        simp only [Bool.false_eq_true, if_false]
        omega

theorem after_tokenCount_le (digest : ControlDigest) (events : List Event) (hs : s.Keyed) :
    tokenCount digest (after C events s).reservations ≤
      tokenCount digest s.reservations + events.countP (Event.brings C digest) := by
  induction events generalizing s with
  | nil => exact Nat.le_add_right _ _
  | cons event events ih =>
    have hstep := next_tokenCount_le (C := C) digest event hs
    have hrest := ih (next_keyed (C := C) event hs)
    rw [after_cons, countP_cons]
    omega

theorem next_moves (event : Event) (hs : s.Keyed) {row : BudgetReservation} (hrow : row ∈ s.reservations) :
    ∃ row' ∈ (next C s event).reservations, row'.reservationId = row.reservationId ∧
      (row'.state = row.state ∨ Moves row.state row'.state) := by
  rcases next_cases hs event with hsame | ⟨now, n, -, hchange⟩
  · rw [hsame]
    exact ⟨row, hrow, rfl, .inl rfl⟩
  rcases hchange.reservations_cases with hsame | ⟨new, hjoins⟩ | ⟨old, new, hrows, hturns⟩
  · rw [hsame]
    exact ⟨row, hrow, rfl, .inl rfl⟩
  · rw [hjoins.rows]
    exact ⟨row, mem_append_left _ hrow, rfl, .inl rfl⟩
  · by_cases hold : row = old
    · subst hold
      exact ⟨new, hrows.new_mem, hrows.key_eq, .inr hturns.moves⟩
    · exact ⟨row, hrows.mem_of_ne hrow hold, rfl, .inl rfl⟩

theorem next_starts (event : Event) (hs : s.Keyed) {row' : BudgetReservation}
    (hrow : row' ∈ (next C s event).reservations) :
    (∃ row ∈ s.reservations, row.reservationId = row'.reservationId) ∨ row'.state = .reserved := by
  rcases next_cases hs event with hsame | ⟨now, n, -, hchange⟩
  · exact .inl ⟨row', hsame ▸ hrow, rfl⟩
  rcases hchange.reservations_cases with hsame | ⟨new, hjoins⟩ | ⟨old, new, hrows, hturns⟩
  · exact .inl ⟨row', hsame ▸ hrow, rfl⟩
  · rw [hjoins.rows] at hrow
    rcases mem_append.mp hrow with hrow | hrow
    · exact .inl ⟨row', hrow, rfl⟩
    · exact .inr (mem_singleton.mp hrow ▸ hjoins.state)
  · rcases hrows.mem_cases hrow with rfl | hrow
    · exact .inl ⟨old, hrows.old_mem, hrows.key_eq.symm⟩
    · exact .inl ⟨row', hrow, rfl⟩

private theorem length_le_one_of_forall_eq {rows : List BudgetReservation} (hnodup : rows.Nodup)
    (h : ∀ a ∈ rows, ∀ b ∈ rows, a = b) : rows.length ≤ 1 := by
  match rows with
  | [] | [_] => simp
  | a :: b :: rows =>
    have hab := h a (by simp) b (by simp)
    simp [hab] at hnodup

end Histories

/-- After any calls, a run has one open reservation at most; its control record names a reservation exactly when that
is the one it dispatches; a permit belongs to one reservation at most, and the digest of a dispatch token to no more
than there were dispatches that brought it; and reservations move only as they may. -/
theorem dispatch_bookkeeping (C : OperatorStoreContext) (events : List Event) (s : Database) (hs : Provisioned s) :
    let s₁ := after C events s
    (∀ runId, (s₁.reservations.filter fun row => decide (row.runId = runId) && reservationOpen row).length ≤ 1) ∧
    (∀ control ∈ s₁.controls, ∀ reservationId, control.activeDispatchReservationId = some reservationId ↔
      ∃ row ∈ s₁.reservations, row.runId = control.runId ∧ row.reservationId = reservationId ∧
        row.state = .dispatching) ∧
    (∀ permitId, (s₁.reservations.filter fun row => row.permitId == some permitId).length ≤ 1) ∧
    (∀ digest, (s₁.reservations.countP fun row => row.dispatchTokenDigest == some digest) ≤
      events.countP (Event.brings C digest)) ∧
    ∀ event, (∀ row ∈ s₁.reservations, ∃ row' ∈ (next C s₁ event).reservations,
        row'.reservationId = row.reservationId ∧ (row'.state = row.state ∨ Moves row.state row'.state)) ∧
      ∀ row' ∈ (next C s₁ event).reservations,
        (∃ row ∈ s₁.reservations, row.reservationId = row'.reservationId) ∨ row'.state = .reserved := by
  intro s₁
  have hkeyed : s₁.Keyed := after_keyed events hs.keyed
  have hd : Dispatches s₁ := after_dispatches events hs
  have hnodup : s₁.reservations.Nodup := hkeyed.reservations.of_map
  refine ⟨fun runId => ?_, fun control hcontrol id => ?_, fun permitId => ?_, fun digest => ?_, fun event => ?_⟩
  · refine length_le_one_of_forall_eq (hnodup.filter _) fun a ha b hb => ?_
    simp only [mem_filter, Bool.and_eq_true, decide_eq_true_eq] at ha hb
    exact hd.booked.single a ha.1 b hb.1 (ha.2.1.trans hb.2.1.symm) ha.2.2 hb.2.2
  · refine Iff.trans ⟨fun h => ⟨control, hcontrol, rfl, h⟩, ?_⟩ (hd.agrees control.runId id)
    rintro ⟨other, hother, hrun, hactive⟩
    rwa [← hd.controls.eq_of_key_eq hother hcontrol hrun]
  · refine length_le_one_of_forall_eq (hnodup.filter _) fun a ha b hb => ?_
    simp only [mem_filter, beq_iff_eq] at ha hb
    exact hd.booked.permits a ha.1 b hb.1 (ha.2.trans hb.2.symm) (by simp [ha.2])
  · have hcount := after_tokenCount_le (C := C) digest events hs.keyed
    rwa [hs.reservations, tokenCount, tokenCount, countP_nil, Nat.zero_add] at hcount
  · exact ⟨fun row hrow => next_moves event hkeyed hrow, fun row' hrow' => next_starts event hkeyed hrow'⟩

theorem dispatch_bookkeeping_workEcho : Provisioned sampleStore ∧
    ∀ runId, ((after sampleContext workEcho sampleStore).reservations.filter fun row =>
      decide (row.runId = runId) && reservationOpen row).length ≤ 1 :=
  ⟨sampleStore_provisioned, (dispatch_bookkeeping sampleContext workEcho sampleStore sampleStore_provisioned).1⟩

/-- Tokens of dispatches may repeat: two runs dispatch under one, in two reservations. -/
theorem dispatch_token_shared :
    let s := after sampleContext (dispatchEcho 1 1 7 9 ++ dispatchEcho 2 5 8 9) sampleStore
    s.reservations.map (fun row => (row.reservationId, row.state, row.dispatchTokenDigest)) =
      [(runUuid 1 30, .dispatching, some ⟨9⟩), (runUuid 2 30, .dispatching, some ⟨9⟩)] := by
  decide +kernel

end ProofPlatform.Operator
