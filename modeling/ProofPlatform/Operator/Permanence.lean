import ProofPlatform.Operator.Exclusion
import ProofPlatform.Operator.Idempotency

/-! What the store never takes back: evidence, charges, and how a run has ended. -/
namespace ProofPlatform.Operator
open Kernel Library Table List

variable {C : OperatorStoreContext} {who : Option Credential} {now : Instant} {s s' : Database}

/-! ### Evidence -/

/-- Nothing that was taken down is changed or taken out. -/
@[mk_iff]
structure AppendOnly (s s' : Database) : Prop where
  checkpoints : s.checkpoints <+: s'.checkpoints
  runEvents : s.runEvents <+: s'.runEvents
  evaluations : s.evaluations <+: s'.evaluations
  requests : s.approvalRequests <+: s'.approvalRequests
  bindings : s.approvalBindings <+: s'.approvalBindings
  contexts : s.replayTables.executionContexts <+: s'.replayTables.executionContexts
  commands : s.commands <+: s'.commands
  receipts : s.receipts <+: s'.receipts

theorem AppendOnly.trans {s₁ s₂ s₃ : Database} (h : AppendOnly s₁ s₂) (h' : AppendOnly s₂ s₃) : AppendOnly s₁ s₃ :=
  ⟨h.checkpoints.trans h'.checkpoints, h.runEvents.trans h'.runEvents, h.evaluations.trans h'.evaluations,
    h.requests.trans h'.requests, h.bindings.trans h'.bindings, h.contexts.trans h'.contexts,
    h.commands.trans h'.commands, h.receipts.trans h'.receipts⟩

theorem Change.appendOnly (h : Change C who now s s') : AppendOnly s s' := by
  have hrecords : s.commands <+: s'.commands ∧ s.receipts <+: s'.receipts := by
    rcases h.records_cases with ⟨hcommands, hreceipts⟩ | ⟨_, _, _, hrecords⟩
    · simp [hcommands, hreceipts]
    · simp [hrecords.commands, hrecords.receipts]
  rw [appendOnly_iff]
  cases h with
  | noted | recorded | registered | claimed | relet | reserved | released | dispatched => simp [hrecords]
  | committed _ _ _ commits =>
    simp [hrecords, commits.checkpoint.1, commits.events, commits.evaluation, commits.approval, commits.context]
  | forfeited _ _ _ forfeits => rw [forfeits.rest]; simp
  | cancelled cancels => rw [cancels.rest]; simp [hrecords]
  | resumed resumes => rw [resumes.rest]; simp [hrecords]

/-- Whatever is called, the evidence of a store only grows. -/
theorem evidence_append_only (C : OperatorStoreContext) (events : List Event) (s : Database) (hs : s.Keyed) :
    AppendOnly s (after C events s) :=
  after_invariant (I := AppendOnly s) (fun _ h hs => hs.trans h.appendOnly) events hs (by simp [appendOnly_iff])

theorem evidence_append_only_echo : sampleStore.Keyed ∧
    AppendOnly sampleStore (after sampleContext workEcho sampleStore) :=
  ⟨sampleStore_provisioned.keyed, evidence_append_only sampleContext workEcho sampleStore sampleStore_provisioned.keyed⟩

/-! ### Accounts and runs -/

/-- The account under the same policy, charged with something more. -/
def Charged (account account' : BudgetAccount) : Prop :=
  account'.budgetId = account.budgetId ∧ account'.policy = account.policy ∧
    ∃ more, account'.committed = account.committed + more

/-- What is settled has not spent anything before, so that it can only add. -/
theorem Settles.charges {books books' : Books} {reservation settled : BudgetReservation}
    {account account' : BudgetAccount} (h : Settles books books' reservation settled account account')
    (hstate : reservation.state = .reserved ∨ reservation.state = .dispatching) : Charged account account' := by
  have hspent : reservation.spent = 0 := by
    rcases hstate with hstate | hstate <;> simp [BudgetReservation.spent, hstate]
  exact ⟨h.budgets.key_eq, h.policy, settled.spent, by rw [← h.committed, hspent, add_zero]⟩

theorem Change.budgets_cases (h : Change C who now s s') : s'.budgets = s.budgets ∨ ∃ account account',
    Replaces BudgetAccount.budgetId account account' s.budgets s'.budgets ∧ Charged account account' := by
  cases h with
  | noted | recorded | registered | claimed | relet | dispatched => exact .inl rfl
  | reserved _ opens =>
    exact .inr ⟨_, _, opens.budgets, opens.budgets.key_eq, opens.policy, 0, by rw [opens.committed, add_zero]⟩
  | released _ state settles => exact .inr ⟨_, _, settles.budgets, settles.charges (.inl state)⟩
  | committed _ state _ commits =>
    obtain ⟨_, _, _, -, -, -, -, hsettles⟩ := commits.settled
    exact .inr ⟨_, _, hsettles.budgets, hsettles.charges (.inr state)⟩
  | forfeited _ state _ forfeits =>
    obtain ⟨_, _, hsettles⟩ := forfeits.settled
    exact .inr ⟨_, _, hsettles.budgets, hsettles.charges (.inr state)⟩
  | cancelled cancels =>
    rcases cancels.books with ⟨hbooks, -⟩ | ⟨_, _, _, state, -, hsettles⟩
    · exact .inl (congrArg Books.budgets hbooks)
    · exact .inr ⟨_, _, hsettles.budgets, hsettles.charges (.inl state)⟩
  | resumed resumes => exact .inl (by rw [resumes.rest])

/-- An account is never lost, given other limits, or given back what it was charged. -/
theorem charges_irreversible (C : OperatorStoreContext) (events : List Event) (s : Database) (hs : s.Keyed)
    (account : BudgetAccount) (haccount : account ∈ s.budgets) :
    ∃ account' ∈ (after C events s).budgets, Charged account account' := by
  refine after_invariant (I := fun s => ∃ account' ∈ s.budgets, Charged account account') (fun _ h hI => ?_) events hs
    ⟨account, haccount, rfl, rfl, 0, (add_zero _).symm⟩
  obtain ⟨current, hcurrent, hid, hpolicy, more, hmore⟩ := hI
  rcases h.budgets_cases with hsame | ⟨old, new, hrows, hid', hpolicy', more', hmore'⟩
  · exact ⟨current, hsame ▸ hcurrent, hid, hpolicy, more, hmore⟩
  · by_cases hold : current = old
    · subst hold
      exact ⟨new, hrows.new_mem, hid'.trans hid, hpolicy'.trans hpolicy, more + more', by rw [hmore', hmore, add_assoc]⟩
    · exact ⟨current, hrows.mem_of_ne hcurrent hold, hid, hpolicy, more, hmore⟩

theorem charges_irreversible_echo : sampleBudget ∈ sampleStore.budgets ∧
    ∃ account' ∈ (after sampleContext workEcho sampleStore).budgets, Charged sampleBudget account' :=
  ⟨.head _, charges_irreversible sampleContext workEcho sampleStore sampleStore_provisioned.keyed sampleBudget
    (.head _)⟩

/-- Whatever is called, a run that has succeeded or has been cancelled is never touched again. -/
theorem ended_runs_stay (C : OperatorStoreContext) (events : List Event) (s : Database) (hs : s.Keyed) (run : AgentRun)
    (hrun : run ∈ s.agentRuns) (hended : run.status.isTerminal = true) (hfailed : run.status ≠ .failed) :
    run ∈ (after C events s).agentRuns := by
  refine after_invariant (I := fun s => run ∈ s.agentRuns) (fun _ h hmem => ?_) events hs hrun
  rcases h.agentRuns_cases with hsame | ⟨old, new, hold, hruns⟩
  · exact hsame ▸ hmem
  · refine hruns.mem_of_ne hmem ?_
    rintro rfl
    rcases hold with hongoing | hfailed'
    · cases hongoing.symm.trans hended
    · exact hfailed hfailed'

theorem ended_runs_stay_cancelled :
    let run := { sampleRun 1 with status := .cancelled }
    run ∈ (after sampleContext workEcho { sampleStore with agentRuns := [run] }).agentRuns :=
  ended_runs_stay sampleContext workEcho _ (Provisioned.keyed ⟨rfl, rfl, rfl, rfl, rfl, rfl, rfl, rfl, by decide⟩) _
    (.head _) rfl (by decide)

end ProofPlatform.Operator
