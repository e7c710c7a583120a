import ProofPlatform.Operator.System

/-! Conservation of budgets: an account holds what its open reservations hold and has spent what the settled ones were
charged. -/
namespace ProofPlatform.Operator
open Kernel Library BudgetReservation Table BudgetAccount

/-- Committed and forfeited reservations have used up what they were charged. -/
def reservationSpent (reservation : BudgetReservation) : Bool :=
  reservation.state == .committed || reservation.state == .forfeited

/-- The account agrees with its reservations and keeps within its limits. -/
structure Balanced (rows : List BudgetReservation) (account : BudgetAccount) : Prop where
  reserved : account.reserved = ((rows.filter fun row =>
    decide (row.budgetId = account.budgetId) && reservationOpen row).map BudgetReservation.reserved).sum
  committed : account.committed = ((rows.filter fun row =>
    decide (row.budgetId = account.budgetId) && reservationSpent row).map BudgetReservation.charged).sum
  charged : ∀ row ∈ rows, row.budgetId = account.budgetId → row.charged ≤ row.reserved
  limits : account.reserved + account.committed ≤ account.policy.limits

variable (budgetId : Uuid) (amount : BudgetReservation → BudgetAmounts) (row : BudgetReservation)

/-- What a reservation counts for in the totals of an account. -/
def BudgetReservation.share : BudgetAmounts := if row.budgetId = budgetId then amount row else 0

private theorem sum_shares (p : BudgetReservation → Bool) (f amount : BudgetReservation → BudgetAmounts)
    (hamount : ∀ row, amount row = if p row then f row else 0) (rows : List BudgetReservation) :
    ((rows.filter fun row => decide (row.budgetId = budgetId) && p row).map f).sum =
      (rows.map (share budgetId amount)).sum := by
  induction rows with
  | nil => rfl
  | cons row rows ih =>
    by_cases hrow : row.budgetId = budgetId
    · cases hp : p row <;> simp [share, hrow, hp, hamount, ih]
    · simp [share, hrow, ih]

theorem balanced_iff {rows : List BudgetReservation} {account : BudgetAccount} : Balanced rows account ↔
    account.reserved = (rows.map (share account.budgetId held)).sum ∧
    account.committed = (rows.map (share account.budgetId spent)).sum ∧
    (∀ row ∈ rows, row.budgetId = account.budgetId → row.charged ≤ row.reserved) ∧
    account.reserved + account.committed ≤ account.policy.limits := by
  have hheld := sum_shares account.budgetId reservationOpen reserved held
    (fun _ => rfl) rows
  have hspent := sum_shares account.budgetId reservationSpent charged spent
    (fun row => by simp [spent, reservationSpent]) rows
  rw [← hheld, ← hspent]
  exact ⟨fun h => ⟨h.reserved, h.committed, h.charged, h.limits⟩, fun h => ⟨h.1, h.2.1, h.2.2.1, h.2.2.2⟩⟩

section Steps
variable {books books' : Books} {reservation settled : BudgetReservation} {account account' : BudgetAccount}
  {budgetId : Uuid}

/-- The account with this identifier is there and balanced. -/
def Books.Conserved (books : Books) (budgetId : Uuid) : Prop :=
  ∃ account, lookup BudgetAccount.budgetId books.budgets budgetId = some account ∧
    Balanced books.reservations account

/-- An account and its reservations take `new` for `old`; the other accounts keep theirs. -/
private theorem Books.Conserved.moved (old new : (BudgetReservation → BudgetAmounts) → BudgetAmounts)
    (hbudgets : Replaces BudgetAccount.budgetId account account' books.budgets books'.budgets)
    (hshares : ∀ id amount,
      (books'.reservations.map (share id amount)).sum + (if account.budgetId = id then old amount else 0) =
        (books.reservations.map (share id amount)).sum + if account.budgetId = id then new amount else 0)
    (hreserved : account'.reserved + old held = account.reserved + new held)
    (hcommitted : account'.committed + old spent = account.committed + new spent)
    (hcharged : ∀ row ∈ books'.reservations, row ∈ books.reservations ∨ row.charged ≤ row.reserved)
    (hlimits : account'.reserved + account'.committed ≤ account'.policy.limits) (hbooks : books.Conserved budgetId) :
    books'.Conserved budgetId := by
  obtain ⟨found, hfound, hbalanced⟩ := hbooks
  obtain ⟨hfoundReserved, hfoundCommitted, hfoundCharged, hfoundLimits⟩ := balanced_iff.mp hbalanced
  have hheld := hshares found.budgetId held
  have hspent := hshares found.budgetId spent
  have hcharged' (row : BudgetReservation) (hrow : row ∈ books'.reservations) (hown : row.budgetId = found.budgetId) :
      row.charged ≤ row.reserved := (hcharged row hrow).elim (fun hold => hfoundCharged row hold hown) id
  by_cases hb : budgetId = account.budgetId
  · obtain rfl : found = account := Option.some.inj (hfound.symm.trans (hb ▸ hbudgets.lookup_old))
    rw [if_pos rfl, if_pos rfl] at hheld hspent
    refine ⟨account', by rw [hbudgets.lookup_eq, if_pos hb], balanced_iff.mpr ?_⟩
    rw [hbudgets.key_eq]
    exact ⟨BudgetAmounts.add_right_cancel (hreserved.trans (hfoundReserved ▸ hheld.symm)),
      BudgetAmounts.add_right_cancel (hcommitted.trans (hfoundCommitted ▸ hspent.symm)), hcharged', hlimits⟩
  · have hother : account.budgetId ≠ found.budgetId := by
      rw [(lookup_eq_some hfound).2]
      exact Ne.symm hb
    rw [if_neg hother, if_neg hother, add_zero, add_zero] at hheld hspent
    exact ⟨found, by rw [hbudgets.lookup_eq, if_neg hb, hfound],
      balanced_iff.mpr ⟨hheld ▸ hfoundReserved, hspent ▸ hfoundCommitted, hcharged', hfoundLimits⟩⟩

theorem Opens.conserved (h : Opens books books' reservation account account') (hbooks : books.Conserved budgetId) :
    books'.Conserved budgetId := by
  have hspent : reservation.spent = 0 := by simp [spent, h.state]
  refine hbooks.moved (fun _ => 0) (fun amount => amount reservation) h.budgets (fun id amount => ?_) ?_ ?_ ?_
    h.limits
  · simp [h.reservations, share, h.budget]
  · simp [h.reserved]
  · simp [h.committed, hspent]
  · rw [h.reservations]
    exact List.forall_mem_append.mpr ⟨fun row hrow => .inl hrow, by simpa using .inr h.charged⟩

theorem Settles.conserved (h : Settles books books' reservation settled account account')
    (hbooks : books.Conserved budgetId) : books'.Conserved budgetId := by
  refine hbooks.moved (fun amount => amount reservation) (fun amount => amount settled) h.budgets
    (fun id amount => ?_) h.reserved h.committed (fun row hrow => ?_) h.limits
  · have hsum := h.reservations.sum_eq (share id amount)
    simpa [share, h.owner.1, h.budget] using hsum
  · rcases h.reservations.mem_cases hrow with rfl | hrow
    · exact .inr h.charged
    · exact .inl hrow

/-- A reservation that changes and still counts for the same. -/
theorem Books.Conserved.replaced {rows : List BudgetReservation}
    (hrows : Replaces reservationId reservation settled books.reservations rows)
    (howner : settled.budgetId = reservation.budgetId) (hheld : settled.held = reservation.held)
    (hspent : settled.spent = reservation.spent) (hreserved : settled.reserved = reservation.reserved)
    (hcharged : settled.charged = reservation.charged) (hbooks : books.Conserved budgetId) :
    (⟨books.budgets, rows⟩ : Books).Conserved budgetId := by
  obtain ⟨found, hfound, hbalanced⟩ := hbooks
  obtain ⟨hreserved', hcommitted, hcharged', hlimits⟩ := balanced_iff.mp hbalanced
  refine ⟨found, hfound, balanced_iff.mpr ⟨?_, ?_, ?_, hlimits⟩⟩
  · rw [hrows.map_eq _ (by simp [share, howner, hheld]), hreserved']
  · rw [hrows.map_eq _ (by simp [share, howner, hspent]), hcommitted]
  · intro row hrow hown
    rcases hrows.mem_cases hrow with rfl | hrow
    · rw [hcharged, hreserved]
      exact hcharged' reservation hrows.old_mem (howner.symm.trans hown)
    · exact hcharged' row hrow hown

end Steps

variable {C : OperatorStoreContext}

theorem Change.conserved {who : Option Credential} {now : Instant} {s s' : Database} {budgetId : Uuid}
    (h : Change C who now s s') (hs : s.books.Conserved budgetId) : s'.books.Conserved budgetId := by
  cases h with
  | noted | recorded | registered | claimed | relet => exact hs
  | reserved _ opens => exact opens.conserved hs
  | released _ _ settles => exact settles.conserved hs
  | dispatched _ state rows =>
    refine Books.Conserved.replaced rows (by rfl) ?_ ?_ (by rfl) (by rfl) hs
    · simp [held, reservationOpen, dispatching, state]
    · simp [spent, dispatching, state]
  | committed _ _ _ commits =>
    obtain ⟨_, _, _, -, -, -, -, hsettles⟩ := commits.settled
    exact hsettles.conserved hs
  | forfeited _ _ _ forfeits =>
    obtain ⟨_, _, hsettles⟩ := forfeits.settled
    exact hsettles.conserved hs
  | cancelled cancels =>
    rcases cancels.books with ⟨hbooks, -⟩ | ⟨_, _, _, -, -, hsettles⟩
    · exact hbooks ▸ hs
    · exact hsettles.conserved hs
  | resumed resumes =>
    rw [resumes.rest]
    exact hs

/-- From an account provisioned with nothing reserved or committed, any calls leave a balance. -/
theorem budget_conserved (C : OperatorStoreContext) (events : List Event) (s : Database) (budgetId : Uuid)
    (account : BudgetAccount) (hkeyed : s.Keyed)
    (hfound : lookup BudgetAccount.budgetId s.budgets budgetId = some account)
    (hzero : account.reserved = 0 ∧ account.committed = 0) (hunused : ∀ row ∈ s.reservations, row.budgetId ≠ budgetId) :
    ∃ account', lookup BudgetAccount.budgetId (after C events s).budgets budgetId = some account' ∧
      Balanced (after C events s).reservations account' := by
  have hid : account.budgetId = budgetId := (lookup_eq_some hfound).2
  have hnone (p : BudgetReservation → Bool) :
      s.reservations.filter (fun row => decide (row.budgetId = account.budgetId) && p row) = [] := by
    refine List.filter_eq_nil_iff.mpr fun row hrow => ?_
    simp [hid, hunused row hrow]
  have hstart : s.books.Conserved budgetId := by
    refine ⟨account, hfound, ⟨?_, ?_, fun row hrow hown => absurd (hown.trans hid) (hunused row hrow), ?_⟩⟩
    · rw [hzero.1, Database.books, hnone]
      rfl
    · rw [hzero.2, Database.books, hnone]
      rfl
    · rw [hzero.1, hzero.2]
      simp [BudgetAmounts.le_def, BudgetAmounts.zero_def, BudgetAmounts.add_def]
  exact after_invariant (I := fun s => s.books.Conserved budgetId) (fun _ h => h.conserved) events hkeyed hstart

/-- A run of the small store works off a call, and the account is charged for it. -/
theorem budget_conserved_workEcho :
    (after sampleContext workEcho sampleStore).reservations.map BudgetReservation.state = [.committed] ∧
    ∃ account, lookup BudgetAccount.budgetId (after sampleContext workEcho sampleStore).budgets (.v7 3) =
        some account ∧ Balanced (after sampleContext workEcho sampleStore).reservations account :=
  ⟨by decide +kernel, budget_conserved sampleContext workEcho sampleStore (.v7 3) sampleBudget
    sampleStore_provisioned.keyed (by decide +kernel) (by decide +kernel) (by decide)⟩

open BudgetAmounts Library.Fallible Library.Transaction Library.Transaction.Tx in
/-- What is admitted can be added. The account then passes its own check, as it does with its next revision and the
time of the call unless one of these is not valid by itself. -/
theorem canReserve_exact (account : BudgetAccount) (h : account.validate C.hashes = .ok ())
    (requested : BudgetAmounts) (now : Instant) :
    (account.canReserve C.hashes requested now = .ok () ↔ account.state = .active ∧
      (∀ amount ∈ requested.toList, amount ≤ maxSafeInteger) ∧ now < account.policy.deadlineAt ∧
      ∀ amount ∈ [steps, tokens, durationMs, costMicrousd, toolDispatches],
        amount account.reserved + amount account.committed + amount requested ≤ amount account.policy.limits) ∧
    (account.canReserve C.hashes requested now = .ok () →
      ∃ reserved, addAmounts account.reserved requested = .ok reserved ∧
        { account with reserved }.validate C.hashes = .ok () ∧
        ((account.withTotals reserved account.committed now).validate C.hashes = .ok () ↔
          account.revision < maxSafeInteger ∧ account.createdAt ≤ now) ∧
        ∀ o s n u s' n', Returns (updateBudget C (account.withTotals reserved account.committed now)) o s n u s' n' →
          (account.withTotals reserved account.committed now).validate C.hashes = .ok ()) := by
  have hiff := BudgetAccount.canReserve_iff requested now h
  constructor
  · rw [hiff, isSafe_iff]
    simp only [le_def, add_def, List.forall_mem_cons]
    grind
  · intro hadmitted
    obtain ⟨-, -, -, hfits⟩ := hiff.mp hadmitted
    obtain ⟨hpolicy, ⟨⟨⟨hschema, hrevision⟩, -⟩, hcommitted⟩, hchronology, -⟩ := validate_iff.mp h
    have hreserved := isSafe_of_add_le hfits (BudgetPolicy.limits_safe hpolicy)
    refine ⟨account.reserved + requested, ?_, ?_, ?_, fun o s n u s' n' hdone => ?_⟩
    · simp only [addAmounts, checkedAdd_eq_some hreserved, hreserved, orReject_some, ok_bind, Bool.not_true,
        reject_false]
      rfl
    · exact validate_iff.mpr ⟨hpolicy, ⟨⟨⟨hschema, hrevision⟩, hreserved⟩, hcommitted⟩, hchronology, hfits⟩
    · rw [validate_iff]
      simp only [withTotals, hpolicy, hschema, hreserved, hcommitted, hfits, hchronology.2, safeOnWire,
        decide_eq_true_eq, and_true, true_and]
      rfl
    · simp only [updateBudget, updateRow, returns_orElse_bind, exists_unit] at hdone
      exact hdone.1

/-- The account of the small store admits one call of each kind, and then has nothing left. -/
theorem canReserve_exact_sample : sampleBudget.validate sampleContext.hashes = .ok () ∧
    sampleBudget.canReserve sampleContext.hashes sampleBudget.policy.limits 0 = .ok () :=
  ⟨by decide +kernel, (canReserve_exact (C := sampleContext) sampleBudget (by decide +kernel)
    sampleBudget.policy.limits 0).1.mpr (by decide +kernel)⟩

end ProofPlatform.Operator
