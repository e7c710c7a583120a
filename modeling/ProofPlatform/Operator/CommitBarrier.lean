import ProofPlatform.Operator.Dispatching

/-! The commit barrier is all or nothing: it leaves no trace, or a whole commit, or a whole forfeit. -/
namespace ProofPlatform.Operator
open Kernel Library Transaction Table Option BudgetReservation

/-- The three ways in which the barrier can leave the store. -/
inductive BarrierOutcome where
  | unchanged
  | committed
  | forfeited

/-- What each way amounts to, for the reservation that the permit names. -/
def BarrierOutcome.Left (C : OperatorStoreContext) (request : RuntimeCommitRequest)
    (prepared : PreparedGovernedExecution) (s s' : Database) : BarrierOutcome → Prop
  | .unchanged => s' = s
  | .committed => ∃ now control reservation,
      lookup reservationId s.reservations request.permit.reservationId = some reservation ∧
      reservation.state = .dispatching ∧ control ∈ s.controls ∧ control.runId = reservation.runId ∧
      Commits C now s s' control reservation request.prepared prepared
  | .forfeited => ∃ now control reservation,
      lookup reservationId s.reservations request.permit.reservationId = some reservation ∧
      reservation.state = .dispatching ∧ control ∈ s.controls ∧ control.runId = reservation.runId ∧
      Forfeits C.hashes now s s' control reservation ∧
      ∃ run, lookup AgentRun.id s'.agentRuns reservation.runId = some run ∧ run.status = .failed

section Outcomes
variable {C : OperatorStoreContext} {request : RuntimeCommitRequest} {prepared : PreparedGovernedExecution}
  {s s' : Database} {now : Instant} {control : RunControl} {reservation : BudgetReservation}

theorem Commits.committed_mem (h : Commits C now s s' control reservation request.prepared prepared) :
    ∃ row ∈ s'.reservations, row.reservationId = reservation.reservationId ∧ row.state = .committed := by
  obtain ⟨_, _, _, -, -, -, -, hsettles⟩ := h.settled
  exact ⟨_, hsettles.reservations.new_mem, rfl, rfl⟩

theorem Forfeits.forfeited_mem (h : Forfeits C.hashes now s s' control reservation) :
    ∃ row ∈ s'.reservations, row.reservationId = reservation.reservationId ∧ row.state = .forfeited := by
  obtain ⟨_, _, hsettles⟩ := h.settled
  exact ⟨_, hsettles.reservations.new_mem, rfl, rfl⟩

theorem BarrierOutcome.Left.state {outcome : BarrierOutcome} (h : outcome.Left C request prepared s s')
    (hfound : lookup reservationId s.reservations request.permit.reservationId = some reservation)
    (hstate : reservation.state = .dispatching) :
    ∃ row ∈ s'.reservations, row.reservationId = reservation.reservationId ∧ row.state = match outcome with
      | .unchanged => .dispatching
      | .committed => .committed
      | .forfeited => .forfeited := by
  cases outcome with
  | unchanged =>
    obtain rfl : s' = s := h
    exact ⟨reservation, (lookup_eq_some hfound).1, rfl, hstate⟩
  | committed =>
    obtain ⟨_, _, named, hnamed, -, -, -, hcommits⟩ := h
    obtain rfl := some.inj (hnamed.symm.trans hfound)
    exact hcommits.committed_mem
  | forfeited =>
    obtain ⟨_, _, named, hnamed, -, -, -, hforfeits, -⟩ := h
    obtain rfl := some.inj (hnamed.symm.trans hfound)
    exact hforfeits.forfeited_mem

theorem BarrierOutcome.Left.unique {outcome outcome' : BarrierOutcome} (hs' : s'.Keyed)
    (h : outcome.Left C request prepared s s') (h' : outcome'.Left C request prepared s s') : outcome = outcome' := by
  by_cases hnamed : ∃ reservation, lookup reservationId s.reservations
      request.permit.reservationId = some reservation ∧ reservation.state = .dispatching
  · obtain ⟨reservation, hfound, hstate⟩ := hnamed
    obtain ⟨row, hrow, hid, hrowState⟩ := h.state hfound hstate
    obtain ⟨row', hrow', hid', hrowState'⟩ := h'.state hfound hstate
    rw [hs'.reservations.eq_of_key_eq hrow hrow' (hid.trans hid'.symm), hrowState'] at hrowState
    cases outcome <;> cases outcome' <;> first | rfl | cases hrowState
  · -- Nothing is dispatching under that name, so only the first way is open.
    have hfirst {outcome : BarrierOutcome} (h : outcome.Left C request prepared s s') : outcome = .unchanged := by
      cases outcome with
      | unchanged => rfl
      | committed | forfeited =>
        obtain ⟨_, _, reservation, hfound, hstate, -⟩ := h
        exact absurd ⟨reservation, hfound, hstate⟩ hnamed
    rw [hfirst h, hfirst h']

/-- A dispatching run has not ended, so a forfeit fails it. -/
theorem Forfeits.run_failed (h : Forfeits C.hashes now s s' control reservation) (hd : Dispatches s)
    (hcontrol : control ∈ s.controls) (hactive : control.activeDispatchReservationId = some reservation.reservationId) :
    ∃ run, lookup AgentRun.id s'.agentRuns control.runId = some run ∧ run.status = .failed := by
  obtain ⟨run, hfound, hrun⟩ := h.run
  obtain ⟨run', hfound', hrunning⟩ := hd.running control.runId _ ⟨control, hcontrol, rfl, hactive⟩
  obtain rfl := some.inj (hfound'.symm.trans hfound)
  rcases hrun with ⟨hterminal, -⟩ | ⟨failed, hfail, hruns⟩
  · simp [hrunning, AgentRunStatus.isTerminal] at hterminal
  · refine ⟨failed, ?_, ?_⟩
    · rw [hruns.lookup_eq, if_pos (lookup_eq_some hfound).2.symm]
    · rw [(AgentRun.transition_eq_ok.mp hfail).2]

theorem commitRuntimeBarrier_keyed {o : Nat → Answer} {n : Nat} (hs : s.Keyed) :
    (commitRuntimeBarrier C request prepared o s n).state.Keyed := by
  rcases commitRuntimeBarrier_leaves request prepared o s n with hsame | ⟨_, _, -, hchange⟩
  · rw [hsame]
    exact hs
  · exact hchange.keyed hs

end Outcomes

end ProofPlatform.Operator
