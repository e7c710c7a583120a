import ProofPlatform.Operator.Recovery

/-! A run is cancelled only while it dispatches nothing, and a cancelled run never dispatches again. -/
namespace ProofPlatform.Operator
open Kernel Library Transaction Table

section Changes
variable {C : OperatorStoreContext} {who : Option Credential} {now : Instant} {s s' : Database} {runId : Uuid}

/-! ### A cancelled run -/

/-- Whatever run a change is about had not ended, unless it had failed. -/
theorem Change.agentRuns_cases (h : Change C who now s s') : s'.agentRuns = s.agentRuns ∨
    ∃ run run', (run.status.isTerminal = false ∨ run.status = .failed) ∧
      Replaces AgentRun.id run run' s.agentRuns s'.agentRuns := by
  cases h with
  | noted | recorded | registered | claimed | relet | reserved | released | dispatched => exact .inl rfl
  | committed _ _ _ commits =>
    obtain ⟨run, -, hrunning, hruns⟩ := commits.run
    exact .inr ⟨run, _, .inl (by rw [hrunning]; rfl), hruns⟩
  | forfeited _ _ _ forfeits =>
    obtain ⟨run, -, ⟨-, hsame⟩ | ⟨run', hfail, hruns⟩⟩ := forfeits.run
    · exact .inl hsame
    · refine .inr ⟨run, run', .inl ?_, hruns⟩
      have hvalid := (AgentRun.transition_eq_ok.mp hfail).1
      cases hstatus : run.status <;> rw [hstatus] at hvalid <;> first | rfl | cases hvalid
  | cancelled cancels =>
    obtain ⟨run', -, hruns⟩ := cancels.cancelled
    exact .inr ⟨_, run', .inl cancels.ongoing, hruns⟩
  | resumed resumes =>
    obtain ⟨run', hruns⟩ := resumes.resumed
    exact .inr ⟨_, run', resumes.waiting.imp_left (fun hwaiting => by rw [hwaiting]; rfl), hruns⟩

/-- The run has been cancelled. -/
def Cancelled (s : Database) (runId : Uuid) : Prop :=
  ∃ run, lookup AgentRun.id s.agentRuns runId = some run ∧ run.status = .cancelled

theorem Change.cancelled_stays (h : Change C who now s s') (hs : Cancelled s runId) : Cancelled s' runId := by
  obtain ⟨run, hfound, hcancelled⟩ := hs
  rcases h.agentRuns_cases with hsame | ⟨old, new, hold, hruns⟩
  · exact ⟨run, hsame ▸ hfound, hcancelled⟩
  · refine ⟨run, ?_, hcancelled⟩
    rw [hruns.lookup_eq, if_neg, hfound]
    rintro rfl
    obtain rfl := Option.some.inj (hruns.lookup_old.symm.trans hfound)
    rw [hcancelled] at hold
    simp [AgentRunStatus.isTerminal] at hold

theorem Cancelled.not_running (h : Cancelled s runId) :
    ¬ ∃ run, lookup AgentRun.id s.agentRuns runId = some run ∧ run.status = .running := by
  rintro ⟨run, hfound, hrunning⟩
  obtain ⟨run', hfound', hcancelled⟩ := h
  obtain rfl := Option.some.inj (hfound.symm.trans hfound')
  cases hrunning.symm.trans hcancelled

/-! ### A repeated reserve request -/

theorem Change.controls_mono (h : Change C who now s s') {control : RunControl} (hcontrol : control ∈ s.controls) :
    ∃ control' ∈ s'.controls, control'.runId = control.runId ∧ control.controlRevision ≤ control'.controlRevision := by
  have hadvances {rows : List RunControl} {old next : RunControl} {active recovery : Option Uuid}
      (h : Advances s.controls rows old next active recovery) :
      ∃ control' ∈ rows, control'.runId = control.runId ∧ control.controlRevision ≤ control'.controlRevision := by
    by_cases hold : control = old
    · subst hold
      exact ⟨next, h.rows.new_mem, h.rows.key_eq, by rw [h.revision]; exact Nat.le_succ _⟩
    · exact ⟨control, h.rows.mem_of_ne hcontrol hold, rfl, le_rfl⟩
  cases h with
  | noted | recorded => exact ⟨control, hcontrol, rfl, le_rfl⟩
  | registered => exact ⟨control, List.mem_append_left _ hcontrol, rfl, le_rfl⟩
  | claimed _ _ _ _ advanced | relet _ _ _ _ _ advanced | reserved _ _ _ _ _ _ _ _ advanced
  | released _ _ _ _ advanced | dispatched _ _ _ _ _ _ _ _ _ advanced => exact hadvances advanced
  | committed _ _ _ commits =>
    obtain ⟨next, advanced⟩ := commits.advanced
    exact hadvances advanced
  | forfeited _ _ _ forfeits =>
    obtain ⟨next, advanced⟩ := forfeits.advanced
    exact hadvances advanced
  | cancelled cancels =>
    obtain ⟨next, advanced⟩ := cancels.advanced
    exact hadvances advanced
  | resumed resumes =>
    obtain ⟨next, advanced⟩ := resumes.advanced
    exact hadvances advanced

theorem Change.askedBefore (h : Change C who now s s')
    (hs : ∀ row ∈ s.reservations, AskedBefore C s.controls row.requestDigest) :
    ∀ row ∈ s'.reservations, AskedBefore C s'.controls row.requestDigest := by
  have hkept {digest : ControlDigest} (hasked : AskedBefore C s.controls digest) :
      AskedBefore C s'.controls digest := by
    obtain ⟨request, hdigest, hsafe, control, hcontrol, hrun, hlt⟩ := hasked
    obtain ⟨control', hcontrol', hrun', hle⟩ := h.controls_mono hcontrol
    exact ⟨request, hdigest, hsafe, control', hcontrol', hrun'.trans hrun, lt_of_lt_of_le hlt hle⟩
  intro row hrow
  rcases h.reservations_cases with hsame | ⟨new, hjoins⟩ | ⟨old, new, hrows, hturns⟩
  · exact hkept (hs row (hsame ▸ hrow))
  · rw [hjoins.rows] at hrow
    rcases List.mem_append.mp hrow with hrow | hrow
    · exact hkept (hs row hrow)
    · exact List.mem_singleton.mp hrow ▸ hjoins.asked
  · rcases hrows.mem_cases hrow with rfl | hrow
    · exact hturns.request ▸ hkept (hs old hrows.old_mem)
    · exact hkept (hs row hrow)

/-! ### What calls on a cancelled run come to -/

/-- What holds of every store that calls lead to. -/
structure Sound (C : OperatorStoreContext) (s : Database) : Prop where
  keyed : s.Keyed
  dispatches : Dispatches s
  asked : ∀ row ∈ s.reservations, AskedBefore C s.controls row.requestDigest

theorem Provisioned.sound (h : Provisioned s) : Sound C s :=
  ⟨h.keyed, h.dispatches, by simp [h.reservations]⟩

theorem Sound.change (hs : Sound C s) (h : Change C who now s s') : Sound C s' :=
  ⟨h.keyed hs.keyed, h.dispatches hs.keyed hs.dispatches, h.askedBefore hs.asked⟩

theorem Sound.after (hs : Sound C s) (events : List Event) : Sound C (after C events s) :=
  after_invariant (fun _ h hs => hs.change h) events hs.keyed hs

theorem Cancelled.after (h : Cancelled s runId) (hs : s.Keyed) (events : List Event) :
    Cancelled (Operator.after C events s) runId :=
  after_invariant (I := fun s => Cancelled s runId) (fun _ h => h.cancelled_stays) events hs h

/-- Digests of reserve requests tell their runs and quoted revisions apart. -/
def RequestsTold (C : OperatorStoreContext) : Prop :=
  ∀ a b : BudgetReserveRequest, safeOnWire a.authority.expectedControlRevision = true →
    safeOnWire b.authority.expectedControlRevision = true → C.hashes.budgetRequest a = C.hashes.budgetRequest b →
    a.authority.runId = b.authority.runId ∧ a.authority.expectedControlRevision = b.authority.expectedControlRevision

variable {o : Nat → Answer} {n : Nat}

/-- A reserve call succeeds for a running run only: a repeated request quotes a passed revision. -/
theorem Sound.running_of_reserve (hs : Sound C s) (htold : RequestsTold C) {request : BudgetReserveRequest}
    {result : BudgetReserveResult} (hok : (reserveAggregateBudget C request o s n).result = .ok result) :
    ∃ run, lookup AgentRun.id s.agentRuns request.authority.runId = some run ∧ run.status = .running := by
  rcases reserveAggregateBudget_did request o s n with
    ⟨⟨error, he⟩, -⟩ | ⟨error, he, -⟩ | ⟨result', -, hexisting | hreserved⟩
  · cases he.symm.trans hok
  · cases he.symm.trans hok
  · obtain ⟨-, control, reservation, -, hcontrol, hrevision, hsafe, hmem, hdigest⟩ := hexisting
    obtain ⟨earlier, hearlier, hsafe', control', hcontrol', hrun', hlt⟩ := hs.asked reservation hmem
    obtain ⟨hrun, hsame⟩ := htold earlier request hsafe' hsafe (hearlier.symm.trans hdigest)
    obtain ⟨hmemControl, hid⟩ := lookup_eq_some hcontrol
    have heq := hs.dispatches.controls.eq_of_key_eq hcontrol' hmemControl (hrun'.trans (hrun.trans hid.symm))
    rw [heq, hrevision, hsame] at hlt
    exact absurd hlt (lt_irrefl _)
  · exact hreserved.1

theorem running_of_begin {request : BeginDispatchRequest} {result : DispatchResult}
    (hok : (beginDispatch C request o s n).result = .ok result) :
    ∃ run, lookup AgentRun.id s.agentRuns request.authority.runId = some run ∧ run.status = .running := by
  rcases beginDispatch_did request o s n with ⟨⟨error, he⟩, -⟩ | ⟨hrunning, -⟩
  · cases he.symm.trans hok
  · exact hrunning

/-- A commit that succeeds repeats one on record, or its run is running. -/
theorem Sound.repeats_of_commit (hs : Sound C s) (hcancelled : Cancelled s runId) {request : RuntimeCommitRequest}
    {prepared : PreparedGovernedExecution} {result : RuntimeCommitResult}
    (hrun : request.authority.runId = runId ∨ ∃ row ∈ s.reservations,
      row.reservationId = request.permit.reservationId ∧ row.runId = runId)
    (hok : (commitRuntimeBarrier C request prepared o s n).result = .ok result) :
    (commitRuntimeBarrier C request prepared o s n).state = s ∧ request.Repeats s := by
  rcases commitRuntimeBarrier_did request prepared o s n with ⟨⟨error, he⟩, -⟩ | ⟨-, hsame, hrepeats⟩ |
    ⟨_, control, _, ⟨-, ⟨_, hacts⟩, hfound, -, hactive⟩, -⟩
  · cases he.symm.trans hok
  · exact ⟨hsame, hrepeats⟩
  · obtain ⟨hmem, hid⟩ := lookup_eq_some hfound
    have howner := hs.dispatches.owner_of_active hs.keyed hacts.control_mem hactive hmem
    have hcontrol : control.runId = runId := by
      rcases hrun with hrun | ⟨row, hrow, hrowId, hrowRun⟩
      · exact hacts.control_runId.trans hrun
      · rw [← howner, ← hs.keyed.reservations.eq_of_key_eq hrow hmem (hrowId.trans hid.symm), hrowRun]
    have hrunning := hs.dispatches.running _ _ ⟨control, hacts.control_mem, rfl, hactive⟩
    exact absurd (hcontrol ▸ hrunning) hcancelled.not_running

theorem Sound.repeats_of_resume (hs : Sound C s) {signer : OperatorSigner} {request : CommandExecutionRequest}
    {command : RunResumeCommand} (hcancelled : Cancelled s command.runId)
    {result : CommandResult} (hcommand : request.command = .runResume command)
    (hok : (executeOperatorCommand C signer request o s n).result = .ok result) :
    result.outcome = .exactReplay ∧ (executeOperatorCommand C signer request o s n).state = s := by
  rcases executeOperatorCommand_did (C := C) signer hs.keyed request o n with ⟨error, he, -⟩ | hdid
  · cases he.symm.trans hok
  rw [hok, hcommand] at hdid
  rcases hdid with ⟨hreplay, hsame, -⟩ | ⟨now, m, envelope, -, -, -, -, -, control, lease, run, recovery, hresumes, -⟩
  · exact ⟨hreplay, hsame⟩
  · obtain ⟨run', hfound, hstatus⟩ := hcancelled
    have hfound' := hresumes.found
    rw [hresumes.acts.control_runId] at hfound'
    obtain rfl := Option.some.inj (hfound.symm.trans hfound')
    rcases hresumes.waiting with hwaiting | hfailed
    · cases hstatus.symm.trans hwaiting
    · cases hstatus.symm.trans hfailed

end Changes

section Cancel
variable {C : OperatorStoreContext} {credential : Credential} {now : Instant} {s s' : Database} {control : RunControl}
  {lease : RunLease} {run : AgentRun}

section
variable (h : Cancels C credential now s s' control lease run)
include h

theorem Cancels.cancelled_run : Cancelled s' credential.runId := by
  obtain ⟨run', hcancel, hruns⟩ := h.cancelled
  refine ⟨run', ?_, ?_⟩
  · rw [hruns.lookup_eq, if_pos]
    rw [(lookup_eq_some h.found).2, h.acts.control_runId]
  · rw [(AgentRun.transition_eq_ok.mp hcancel).2]

theorem Cancels.not_dispatching (hd : Dispatches s) :
    ∀ row ∈ s.reservations, row.runId = credential.runId → row.state ≠ .dispatching := by
  intro row hrow hrun hstate
  have hactive := (hd.agrees row.runId row.reservationId).mpr ⟨row, hrow, rfl, rfl, hstate⟩
  exact hd.ne_of_idle h.acts.control_mem h.idle hactive (hrun.trans h.acts.control_runId.symm)

theorem Cancels.released_reserved (hd : Dispatches s)
    {row : BudgetReservation} (hrow : row ∈ s.reservations) (hrun : row.runId = credential.runId)
    (hstate : row.state = .reserved) :
    ∃ account account', Settles s.books s'.books row (row.released now) account account' := by
  have hcontrol := h.acts.control_runId
  rcases h.books with ⟨-, hnone⟩ | ⟨reservation, account, account', hreserved, howner, hsettles⟩
  · exact absurd hstate (hnone row hrow (hrun.trans hcontrol.symm))
  · have heq := hd.booked.single row hrow reservation hsettles.reservations.old_mem
      (hrun.trans (hcontrol.symm.trans howner.symm)) (by simp [reservationOpen, hstate])
      (by simp [reservationOpen, hreserved])
    exact heq ▸ ⟨account, account', hsettles⟩

end

end Cancel

/-- A cancel that is applied finds nothing dispatching and gives a reserved reservation back. After it no dispatch and
no reserve call on the run succeeds, a resume or commit only as a repetition that changes nothing. While something is
dispatching, no cancel is applied. -/
theorem cancel_excludes_dispatch (C : OperatorStoreContext) (htold : RequestsTold C) (events : List Event)
    (s : Database) (hs : Provisioned s) (signer : OperatorSigner) (request : CommandExecutionRequest)
    (command : RunCancelCommand) (hcommand : request.command = .runCancel command) (o : Nat → Answer) (n : Nat)
    (result : CommandResult)
    (hok : (executeOperatorCommand C signer request o (after C events s) n).result = .ok result) :
    let s₁ := after C events s
    let s₂ := (executeOperatorCommand C signer request o s₁ n).state
    ((∃ row ∈ s₁.reservations, row.runId = command.runId ∧ row.state = .dispatching) → result.outcome ≠ .applied) ∧
    (result.outcome = .applied →
      (∀ row ∈ s₁.reservations, row.runId = command.runId → row.state ≠ .dispatching) ∧
      (∀ row ∈ s₁.reservations, row.runId = command.runId → row.state = .reserved →
        ∃ now account account', Settles s₁.books s₂.books row (row.released now) account account') ∧
      ∀ later, let s₃ := after C later s₂
        (∀ request o n result, request.authority.runId = command.runId →
          (beginDispatch C request o s₃ n).result ≠ .ok result) ∧
        (∀ request o n result, request.authority.runId = command.runId →
          (reserveAggregateBudget C request o s₃ n).result ≠ .ok result) ∧
        (∀ signer request o n result (resume : RunResumeCommand), request.command = .runResume resume →
          resume.runId = command.runId → (executeOperatorCommand C signer request o s₃ n).result = .ok result →
          result.outcome = .exactReplay ∧ (executeOperatorCommand C signer request o s₃ n).state = s₃) ∧
        ∀ request prepared o n result, (request.authority.runId = command.runId ∨ ∃ row ∈ s₃.reservations,
            row.reservationId = request.permit.reservationId ∧ row.runId = command.runId) →
          (commitRuntimeBarrier C request prepared o s₃ n).result = .ok result →
          (commitRuntimeBarrier C request prepared o s₃ n).state = s₃ ∧ request.Repeats s₃) := by
  intro s₁ s₂
  have hsound : Sound C s₁ := hs.sound.after events
  have hcancels (happlied : result.outcome = .applied) :
      ∃ now control lease run, Cancels C command.credential now s₁ s₂ control lease run := by
    rcases executeOperatorCommand_did (C := C) signer hsound.keyed request o n with ⟨error, he, -⟩ | hdid
    · cases he.symm.trans hok
    rw [hok, hcommand] at hdid
    rcases hdid with ⟨hreplay, -⟩ | ⟨now, m, envelope, -, -, -, -, ⟨hterminal, -⟩ | ⟨-, control, lease, run, hcancels⟩⟩
    · cases happlied.symm.trans hreplay
    · cases happlied.symm.trans hterminal
    · exact ⟨now, control, lease, run, hcancels⟩
  refine ⟨?_, fun happlied => ?_⟩
  · rintro ⟨row, hrow, hrun, hstate⟩ happlied
    obtain ⟨now, control, lease, run, hcancels⟩ := hcancels happlied
    exact hcancels.not_dispatching hsound.dispatches row hrow hrun hstate
  · obtain ⟨now, control, lease, run, hcancels⟩ := hcancels happlied
    refine ⟨hcancels.not_dispatching hsound.dispatches, fun row hrow hrun hstate =>
      ⟨now, hcancels.released_reserved hsound.dispatches hrow hrun hstate⟩, fun later => ?_⟩
    intro s₃
    have hsound₂ : Sound C s₂ := hsound.change (.cancelled hcancels)
    have hsound₃ : Sound C s₃ := hsound₂.after later
    have hcancelled : Cancelled s₃ command.runId := hcancels.cancelled_run.after hsound₂.keyed later
    refine ⟨fun request o n result hrun hok => ?_, fun request o n result hrun hok => ?_,
      fun signer request o n result resume hresume hrun hok => ?_, fun request prepared o n result hrun hok => ?_⟩
    · exact hcancelled.not_running (hrun ▸ running_of_begin hok)
    · exact hcancelled.not_running (hrun ▸ hsound₃.running_of_reserve htold hok)
    · exact hsound₃.repeats_of_resume (hrun ▸ hcancelled) hresume hok
    · exact hsound₃.repeats_of_commit hcancelled hrun hok

theorem sampleContext_requestsTold : RequestsTold sampleContext := by
  intro a b ha hb hdigest
  have hbound (request : BudgetReserveRequest) (h : safeOnWire request.authority.expectedControlRevision = true) :
      request.authority.expectedControlRevision < 2 ^ 53 ∧
      request.authority.runId.toNat * 2 ^ 53 + request.authority.expectedControlRevision < 2 ^ 256 := by
    have hsafe : request.authority.expectedControlRevision ≤ 9007199254740991 := of_decide_eq_true h
    have hrun := request.authority.runId.isLt
    omega
  obtain ⟨ha, ha'⟩ := hbound a ha
  obtain ⟨hb, hb'⟩ := hbound b hb
  have hnat := congrArg (fun digest => digest.bytes.toNat) hdigest
  simp only [sampleContext, sampleHashes, BitVec.toNat_ofNat, Nat.mod_eq_of_lt ha', Nat.mod_eq_of_lt hb'] at hnat
  exact ⟨BitVec.eq_of_toNat_eq (by omega), by omega⟩

theorem cancel_excludes_reserve :
    let s₁ := after sampleContext workEcho sampleStore
    let s₂ := (executeOperatorCommand sampleContext sampleSigner cancelRequest (sampleAnswers 6) s₁ 0).state
    ∀ request o n result, request.authority.runId = runUuid 1 1 →
      (reserveAggregateBudget sampleContext request o s₂ n).result ≠ .ok result := by
  intro s₁ s₂
  obtain ⟨result, hok, happlied⟩ := cancelEcho_applied
  have hexcluded := cancel_excludes_dispatch sampleContext sampleContext_requestsTold workEcho sampleStore
    sampleStore_provisioned sampleSigner cancelRequest cancelEcho rfl (sampleAnswers 6) 0 result hok
  exact ((hexcluded.2 happlied).2.2 []).2.1

/-- A commit or a resume that was recorded before the cancel still succeeds when it is sent again. -/
theorem repetitions_after_cancel :
    let call := fun request time s => executeOperatorCommand sampleContext sampleSigner request (sampleAnswers time) s 0
    let worked := after sampleContext workEcho sampleStore
    let resume := sessionRequest sampleContext (.runResume resumeEcho)
    let cancel := sessionRequest sampleContext (.runCancel { cancelEcho with expectedRunRevision := 2 })
    let cancelled := call cancel 6 (call resume 5 recoveringStore).state
    ((∃ result, (call cancelRequest 6 worked).result = .ok result ∧ result.outcome = .applied) ∧
      commitEcho.authority.runId = cancelEcho.runId ∧
      (commitRuntimeBarrier sampleContext commitEcho preparedEcho (sampleAnswers 7) (call cancelRequest 6 worked).state
        0).result.isOk = true) ∧
    resumeEcho.runId = cancelEcho.runId ∧ cancelled.result.toOption.map CommandResult.outcome = some .applied ∧
      (call resume 7 cancelled.state).result.isOk = true :=
  ⟨⟨cancelEcho_applied, rfl, by decide +kernel⟩, rfl, by decide +kernel, by decide +kernel⟩

end ProofPlatform.Operator
