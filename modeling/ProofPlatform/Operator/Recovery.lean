import ProofPlatform.Operator.AuditLog
import ProofPlatform.Operator.Dispatching

/-! A recovery directive authorizes one resume and one replacement reservation. -/
namespace ProofPlatform.Operator
open Kernel Library Table Option RecoveryDirective

section Changes
variable {C : OperatorStoreContext} {who : Option Credential} {now : Instant} {s s' : Database}

/-- No change touches a directive: only a reclaim inserts one, and it is rolled back (`reclaimRun_refuses`). -/
theorem Change.directives_eq (h : Change C who now s s') : s'.directives = s.directives := by
  cases h with
  | noted | recorded | registered | claimed | relet | reserved | released | dispatched => rfl
  | committed _ _ _ commits => rw [commits.rest]
  | forfeited _ _ _ forfeits => rw [forfeits.rest]
  | cancelled cancels => rw [cancels.rest]
  | resumed resumes => rw [resumes.rest]

/-- Reservations under a directive: one for each, for the call it describes, in place of a
released one. -/
structure Recovered (s : Database) : Prop where
  sole : ∀ a ∈ s.reservations, ∀ b ∈ s.reservations, (∃ id, a.recovery.map directiveId = some id ∧
    b.recovery.map directiveId = some id) → a = b
  stored : ∀ row ∈ s.reservations, ∀ directive ∈ row.recovery,
    lookup directiveId s.directives directive.directiveId = some directive ∧
    row.intentDigest = directive.intentDigest ∧ row.replay = directive.replay
  source : ∀ row ∈ s.reservations, ∀ directive ∈ row.recovery, ∃ source ∈ s.reservations,
    source.reservationId = directive.sourceReservationId ∧ source.state = .released

theorem Recovered.of_unused (h : ∀ row ∈ s.reservations, row.recovery = none) : Recovered s := by
  refine ⟨fun a ha b _ hshared => ?_, fun row hrow directive hdirective => ?_, fun row hrow directive hdirective => ?_⟩
  · obtain ⟨id, hid, -⟩ := hshared
    simp [h a ha] at hid
  · simp [h row hrow] at hdirective
  · simp [h row hrow] at hdirective

theorem Change.released_mem (h : Change C who now s s') {row : BudgetReservation} (hrow : row ∈ s.reservations)
    (hstate : row.state = .released) : row ∈ s'.reservations := by
  rcases h.reservations_cases with hsame | ⟨new, hjoins⟩ | ⟨old, new, hrows, hturns⟩
  · exact hsame ▸ hrow
  · rw [hjoins.rows]
    exact List.mem_append_left _ hrow
  · refine hrows.mem_of_ne hrow ?_
    rintro rfl
    have hmoves := hturns.moves
    rw [hstate] at hmoves
    cases hmoves

theorem Change.recovered (h : Change C who now s s') (hs : s.Keyed) (hr : Recovered s) : Recovered s' := by
  have hsource {directive : RecoveryDirective} (h' : ∃ source ∈ s.reservations,
      source.reservationId = directive.sourceReservationId ∧ source.state = .released) :
      ∃ source ∈ s'.reservations, source.reservationId = directive.sourceReservationId ∧ source.state = .released := by
    obtain ⟨source, hmem, hid, hstate⟩ := h'
    exact ⟨source, h.released_mem hmem hstate, hid, hstate⟩
  have hsymm (a b : BudgetReservation)
      (hab : (∃ id, a.recovery.map directiveId = some id ∧
        b.recovery.map directiveId = some id) → a = b) :
      (∃ id, b.recovery.map directiveId = some id ∧
        a.recovery.map directiveId = some id) → b = a :=
    fun ⟨id, hb, ha⟩ => (hab ⟨id, ha, hb⟩).symm
  rcases h.reservations_cases with hsame | ⟨new, hjoins⟩ | ⟨old, new, hrows, hturns⟩
  · refine ⟨hsame ▸ hr.sole, ?_, ?_⟩
    · rw [hsame, h.directives_eq]
      exact hr.stored
    · intro row hrow directive hdirective
      exact hsource (hr.source row (hsame ▸ hrow) directive hdirective)
  · obtain ⟨control, -, hrecovers⟩ := hjoins.recovers
    refine ⟨?_, fun row hrow directive hdirective => ?_, fun row hrow directive hdirective => ?_⟩
    · rw [hjoins.rows]
      refine forall_pairs_append hsymm (fun _ _ => rfl) hr.sole fun a ha => ?_
      rintro ⟨id, ha', hnew⟩
      obtain ⟨directive, hdirective, rfl⟩ := map_eq_some_iff.mp hnew
      exact absurd ha' (hrecovers.unused directive hdirective a ha)
    · rw [h.directives_eq]
      rw [hjoins.rows] at hrow
      rcases List.mem_append.mp hrow with hrow | hrow
      · exact hr.stored row hrow directive hdirective
      · obtain rfl := List.mem_singleton.mp hrow
        exact ⟨hrecovers.stored directive hdirective, hrecovers.call directive hdirective⟩
    · rw [hjoins.rows] at hrow
      rcases List.mem_append.mp hrow with hrow | hrow
      · exact hsource (hr.source row hrow directive hdirective)
      · obtain rfl := List.mem_singleton.mp hrow
        obtain ⟨source, hstate, hfound⟩ := hrecovers.source directive hdirective
        obtain ⟨hmem, hid⟩ := lookup_eq_some hfound
        exact hsource ⟨source, hmem, hid, hstate⟩
  · obtain ⟨hintent, hreplay, hrecovery⟩ := hturns.call
    refine ⟨?_, fun row hrow directive hdirective => ?_, fun row hrow directive hdirective => ?_⟩
    · refine hs.reservations.forall_pairs_replaces hrows hsymm (fun _ _ => rfl) hr.sole fun a ha hid => ?_
      rw [hrecovery]
      exact fun hshared => absurd (congrArg _ (hr.sole a ha old hrows.old_mem hshared)) hid
    · rw [h.directives_eq]
      rcases hrows.mem_cases hrow with rfl | hrow
      · rw [hintent, hreplay]
        exact hr.stored old hrows.old_mem directive (hrecovery ▸ hdirective)
      · exact hr.stored row hrow directive hdirective
    · rcases hrows.mem_cases hrow with rfl | hrow
      · exact hsource (hr.source old hrows.old_mem directive (hrecovery ▸ hdirective))
      · exact hsource (hr.source row hrow directive hdirective)

end Changes

section Histories
variable {C : OperatorStoreContext} {s : Database}

theorem after_directives_eq (events : List Event) (hs : s.Keyed) : (after C events s).directives = s.directives :=
  after_invariant (I := fun s' => s'.directives = s.directives) (fun _ h hd => h.directives_eq.trans hd) events hs rfl

theorem after_resumptions_le (events : List Event) (hs : s.Keyed) (runId directiveId : Uuid) :
    resumptions s runId directiveId ≤ resumptions (after C events s) runId directiveId := by
  obtain ⟨appended, happended⟩ := after_auditEvents (C := C) events hs
  rw [resumptions, resumptions, happended, List.countP_append]
  exact Nat.le_add_right _ _

/-- A reservation that was not there before was made while no directive was outstanding. -/
theorem next_unaided (event : Event) (hs : s.Keyed) {row : BudgetReservation} {control : RunControl}
    (hrow : row ∈ (next C s event).reservations) (hnew : ∀ old ∈ s.reservations, old.reservationId ≠ row.reservationId)
    (hcontrol : lookup RunControl.runId s.controls row.runId = some control) :
    control.recoveryDirectiveId = none := by
  rcases next_cases hs event with hsame | ⟨now, n, -, hchange⟩
  · exact absurd rfl (hnew row (hsame ▸ hrow))
  rcases hchange.reservations_cases with hsame | ⟨new, hjoins⟩ | ⟨old, new, hrows, -⟩
  · exact absurd rfl (hnew row (hsame ▸ hrow))
  · rw [hjoins.rows] at hrow
    rcases List.mem_append.mp hrow with hrow | hrow
    · exact absurd rfl (hnew row hrow)
    · obtain rfl := List.mem_singleton.mp hrow
      obtain ⟨found, hfound, hrecovers⟩ := hjoins.recovers
      obtain rfl := some.inj (hcontrol.symm.trans hfound)
      exact hrecovers.consumed
  · rcases hrows.mem_cases hrow with rfl | hrow
    · exact absurd hrows.key_eq.symm (hnew old hrows.old_mem)
    · exact absurd rfl (hnew row hrow)

theorem resumed_of_applied {signer : OperatorSigner} {request : CommandExecutionRequest} {command : RunResumeCommand}
    {o : Nat → Answer} {n : Nat} {result : CommandResult} {directiveId : Uuid} (hs : s.Keyed)
    (hcommand : request.command = .runResume command) (hdirective : command.recoveryDirectiveId = some directiveId)
    (hok : (executeOperatorCommand C signer request o s n).result = .ok result) (happlied : result.outcome = .applied) :
    (∃ who now, Change C who now s (executeOperatorCommand C signer request o s n).state) ∧
    ∃ directive, lookup RecoveryDirective.directiveId s.directives directiveId = some directive ∧
      resumptions s directive.runId directiveId = 0 ∧
      2 ≤ resumptions (executeOperatorCommand C signer request o s n).state directive.runId directiveId := by
  rcases executeOperatorCommand_did (C := C) signer hs request o n with ⟨error, he, -⟩ | hdid
  · cases he.symm.trans hok
  rw [hok, hcommand] at hdid
  rcases hdid with ⟨hreplay, -⟩ | ⟨now, m, envelope, -, -, -, -, -, control, lease, run, recovery, hresumes, hrecovery⟩
  · cases happlied.symm.trans hreplay
  · rw [hdirective] at hrecovery
    obtain ⟨directive, hmem, rfl⟩ := map_eq_some_iff.mp hrecovery
    obtain ⟨hfound, hrun, -⟩ := hresumes.directive directive hmem
    obtain ⟨hunused, hused⟩ := hresumes.consumed directive hmem
    rw [← hrun] at hunused hused
    exact ⟨⟨_, _, .resumed hresumes⟩, directive, hfound, hunused, hused⟩

end Histories

/-- From a store in which no reservation was made under a directive, after any calls: no two resumes under one
directive are applied; at most one reservation is made under it, for exactly the call it describes and in place of a
released one; and none is made for a run while its control record names a directive. -/
theorem recovery_directive_used_once (C : OperatorStoreContext) (events : List Event) (s : Database) (hs : s.Keyed)
    (hunused : ∀ row ∈ s.reservations, row.recovery = none) :
    let s₁ := after C events s
    (∀ signer request command o n result directiveId, request.command = .runResume command →
      command.recoveryDirectiveId = some directiveId →
      (executeOperatorCommand C signer request o s₁ n).result = .ok result → result.outcome = .applied →
      ∀ later signer' request' command' o' n' result',
        let s₂ := after C later (executeOperatorCommand C signer request o s₁ n).state
        request'.command = .runResume command' → command'.recoveryDirectiveId = some directiveId →
        (executeOperatorCommand C signer' request' o' s₂ n').result = .ok result' → result'.outcome ≠ .applied) ∧
    (∀ a ∈ s₁.reservations, ∀ b ∈ s₁.reservations, ∀ first ∈ a.recovery, ∀ second ∈ b.recovery,
      first.directiveId = second.directiveId → a = b) ∧
    (∀ row ∈ s₁.reservations, ∀ directive ∈ row.recovery,
      lookup directiveId s₁.directives directive.directiveId = some directive ∧
      row.intentDigest = directive.intentDigest ∧ row.replay = directive.replay ∧
      ∃ source ∈ s₁.reservations, source.reservationId = directive.sourceReservationId ∧ source.state = .released) ∧
    ∀ event, ∀ row ∈ (next C s₁ event).reservations, (∀ old ∈ s₁.reservations, old.reservationId ≠ row.reservationId) →
      ∀ control, lookup RunControl.runId s₁.controls row.runId = some control →
        control.recoveryDirectiveId = none := by
  intro s₁
  have hkeyed : s₁.Keyed := after_keyed events hs
  have hrecovered : Recovered s₁ :=
    after_invariant (fun hs h => h.recovered hs) events hs (.of_unused hunused)
  refine ⟨?_, fun a ha b hb first hfirst second hsecond hid => ?_, fun row hrow directive hdirective => ?_,
    fun event row hrow hnew control hcontrol => next_unaided event hkeyed hrow hnew hcontrol⟩
  · intro signer request command o n result directiveId hcommand hdirective hok happlied later signer' request' command'
      o' n' result' s₂ hcommand' hdirective' hok' happlied'
    obtain ⟨⟨who, now, hchange⟩, directive, hfound, -, hused⟩ :=
      resumed_of_applied hkeyed hcommand hdirective hok happlied
    have hkeyed' := hchange.keyed hkeyed
    obtain ⟨-, directive', hfound', hunused', -⟩ :=
      resumed_of_applied (after_keyed later hkeyed') hcommand' hdirective' hok' happlied'
    rw [after_directives_eq later hkeyed', hchange.directives_eq, hfound] at hfound'
    obtain rfl := some.inj hfound'
    have hgrown := after_resumptions_le (C := C) later hkeyed' directive.runId directiveId
    omega
  · exact hrecovered.sole a ha b hb ⟨first.directiveId, by simp [mem_def.mp hfirst], by
      simp [mem_def.mp hsecond, hid]⟩
  · obtain ⟨hfound, hintent, hreplay⟩ := hrecovered.stored row hrow directive hdirective
    exact ⟨hfound, hintent, hreplay, hrecovered.source row hrow directive hdirective⟩

/-- The first run as a reclaim would leave it: failed, its reservation given back, with a directive. -/
def echoDirective : RecoveryDirective :=
  ⟨RecoveryDirective.schemaName, .v7 60, .v7 2, runUuid 1 1, runUuid 1 11, runUuid 1 30, .v7 3, runUuid 1 31,
    sampleHashes.budgetRequest (reserveEcho 1 1 1 7), runUuid 1 3, 0, ⟨0⟩, 1, 2, .blank, none, 3, digestOf (.v7 60)⟩

def settleEcho : BudgetSettlementRequest where
  schema := "proof.operator.budget-settlement-request/v1"
  authority := holdLease 1 1 2 7
  reservationId := runUuid 1 30

def recoveringStore : Database :=
  let settled := after sampleContext
    ((dispatchEcho 1 1 7 9).take 3 ++ [⟨.settleBudgetReservation settleEcho, sampleAnswers 4⟩]) sampleStore
  { settled with
    directives := [echoDirective]
    controls := settled.controls.map fun control =>
      { control with recoveryDirectiveId := some (.v7 60), recoveryDirectiveDigest := some (digestOf (.v7 60)) }
    agentRuns := [{ sampleRun 1 with status := .failed, completedAt := some 4 }] }

def resumeEcho : RunResumeCommand where
  schema := RunResumeCommand.schemaName
  binding := sessionBinding sampleContext (.v7 62) (.v7 63)
  runId := runUuid 1 1
  stepId := runUuid 1 2
  approvalRequestId := none
  decisionDigest := none
  recoveryDirectiveId := some (.v7 60)
  recoveryDirectiveDigest := some (digestOf (.v7 60))
  expectedRunRevision := 1
  expectedStepRevision := 1
  expectedControlRevision := 3
  expectedCheckpointId := runUuid 1 3
  expectedCheckpointSequence := 0
  expectedCheckpointDigest := ⟨0⟩
  expectedFenceEpoch := 1

/-- The run is resumed under the directive and reserves in place of what was given back. -/
def recoverEcho : List Event :=
  [⟨.executeOperatorCommand sampleSigner (sessionRequest sampleContext (.runResume resumeEcho)), sampleAnswers 5⟩,
    ⟨.reserveAggregateBudget { reserveEcho 1 1 4 7 with
      reservationId := runUuid 1 32
      idempotencyKey := runUuid 1 33
      recovery := some echoDirective }, sampleAnswers 6⟩]

theorem recovery_directive_used_by_echo :
    (after sampleContext recoverEcho recoveringStore).reservations.map (fun row => (row.state, row.recovery)) =
      [(.released, none), (.reserved, some echoDirective)] ∧
    ∀ a ∈ (after sampleContext recoverEcho recoveringStore).reservations,
      ∀ b ∈ (after sampleContext recoverEcho recoveringStore).reservations, ∀ first ∈ a.recovery, ∀ second ∈ b.recovery,
        first.directiveId = second.directiveId → a = b := by
  have hkeyed : recoveringStore.Keyed := by
    obtain ⟨hleases, hreservations⟩ := after_keyed (C := sampleContext)
      ((dispatchEcho 1 1 7 9).take 3 ++ [⟨.settleBudgetReservation settleEcho, sampleAnswers 4⟩])
      sampleStore_provisioned.keyed
    exact ⟨hleases, hreservations⟩
  exact ⟨by decide +kernel,
    (recovery_directive_used_once sampleContext recoverEcho recoveringStore hkeyed (by decide +kernel)).2.1⟩

end ProofPlatform.Operator
