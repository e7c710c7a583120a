import ProofPlatform.Kernel.Agent

/-! Duration budgets of the agent runtime. Where the time library panics there is no result. -/
namespace ProofPlatform.Runtime
open Kernel Library.Fallible Option

def elapsedSeconds (startedAt now : Int) : Nat := ((now - startedAt).tdiv (10 ^ 9)).toNat

/-- A duration is a signed 64-bit number of milliseconds. -/
def durationSeconds (seconds : Nat) : Option Int := if seconds * 1000 < 2 ^ 63 then some (seconds * 10 ^ 9) else none

variable (last : Int) (limits : AgentLimits) (startedAt now : Int)

/-- The `last` instant stands in for a sum that is past it. -/
def runDeadline (maxDurationSeconds : Nat) : Option Int := do
  let duration ← durationSeconds (if maxDurationSeconds < 2 ^ 63 then maxDurationSeconds else 2 ^ 63 - 1)
  pure (if startedAt + duration ≤ last then startedAt + duration else last)

def exceeded (budget : String) (maximum : Nat) (unit : String) : String :=
  budget ++ " budget exceeded: maximum " ++ toString maximum ++ unit

def durationBudgetError : Option (Option String) := do
  let deadline ← runDeadline last startedAt limits.maxDurationSeconds
  pure (if deadline ≤ now then some (exceeded "duration" limits.maxDurationSeconds " seconds") else none)

def preModelBudgetError (modelCalls totalTokens : Nat) : Option String :=
  if limits.maxModelCalls ≤ modelCalls then some (exceeded "model call" limits.maxModelCalls "")
  else if limits.maxDurationSeconds ≤ elapsedSeconds startedAt now then
    some (exceeded "duration" limits.maxDurationSeconds " seconds")
  else if limits.maxTotalTokens ≤ totalTokens then some (exceeded "token" limits.maxTotalTokens "")
  else none

/-- When the approval that a run waits for expires; a run out of time waits for none. -/
def waitForApproval (approvalTtl : Int) : Option (Option Int) := do
  match ← durationBudgetError last limits startedAt now with
  | some _ => pure none
  | none =>
    let requested ← Option.guard (· ≤ last) (now + approvalTtl)
    let deadline ← runDeadline last startedAt limits.maxDurationSeconds
    pure (some (min requested deadline))

/-- The run has a deadline, both tests of its budget are exact, and no approval expires later. -/
def Exact : Prop := ∃ deadline, runDeadline last startedAt limits.maxDurationSeconds = some deadline ∧
  ((∃ error, durationBudgetError last limits startedAt now = some (some error)) ↔
    min (startedAt + limits.maxDurationSeconds * 10 ^ 9) last ≤ now) ∧
  (∀ modelCalls < limits.maxModelCalls, ∀ totalTokens < limits.maxTotalTokens,
    durationBudgetError last limits startedAt now =
      some (preModelBudgetError limits startedAt now modelCalls totalTokens)) ∧
  ∀ approvalTtl expiresAt, waitForApproval last limits startedAt now approvalTtl = some (some expiresAt) →
    expiresAt ≤ deadline

variable {last limits startedAt now}

theorem runDeadline_eq (maximum : Nat) : runDeadline last startedAt maximum =
    if maximum ≤ 9223372036854775 then some (min (startedAt + maximum * 10 ^ 9) last) else none := by
  simp only [runDeadline, durationSeconds, ← min_def]
  split_ifs <;> first | omega | rfl

theorem le_elapsedSeconds_iff {maximum : Nat} (h : startedAt ≤ now) :
    maximum ≤ elapsedSeconds startedAt now ↔ startedAt + maximum * 10 ^ 9 ≤ now := by
  rw [elapsedSeconds, Int.tdiv_eq_ediv_of_nonneg (by omega)]
  omega

section Representable
variable (h : limits.maxDurationSeconds ≤ 9223372036854775)
include h

theorem durationBudgetError_eq : durationBudgetError last limits startedAt now =
    some (if min (startedAt + limits.maxDurationSeconds * 10 ^ 9) last ≤ now then
      some (exceeded "duration" limits.maxDurationSeconds " seconds") else none) := by
  rw [durationBudgetError, runDeadline_eq, if_pos h]
  rfl

/-- With calls and tokens left, the two tests differ only where the deadline is cut off. -/
theorem durationBudgetError_eq_preModel_iff {modelCalls totalTokens : Nat} (hstart : startedAt ≤ now)
    (hcalls : modelCalls < limits.maxModelCalls) (htokens : totalTokens < limits.maxTotalTokens) :
    durationBudgetError last limits startedAt now =
        some (preModelBudgetError limits startedAt now modelCalls totalTokens) ↔
      (last ≤ now → startedAt + limits.maxDurationSeconds * 10 ^ 9 ≤ now) := by
  rw [durationBudgetError_eq h, preModelBudgetError, if_neg hcalls.not_ge, if_neg htokens.not_ge]
  simp only [le_elapsedSeconds_iff hstart, min_le_iff, some.injEq]
  split_ifs <;> simp <;> omega

theorem le_deadline_of_waitForApproval {approvalTtl expiresAt : Int}
    (hexpires : waitForApproval last limits startedAt now approvalTtl = some (some expiresAt)) :
    expiresAt ≤ min (startedAt + limits.maxDurationSeconds * 10 ^ 9) last := by
  simp only [waitForApproval, durationBudgetError_eq h, runDeadline_eq, if_pos h, bind_eq_bind, bind_some] at hexpires
  split at hexpires
  · cases hexpires
  · obtain ⟨requested, -, hmin⟩ := bind_eq_some_iff.mp hexpires
    cases hmin
    exact min_le_right _ _

end Representable

/-- Budgets are exact while the limit fits a duration and the deadline comes no earlier. -/
theorem exact_iff (hlimits : limits.validate = .ok ()) (hstart : startedAt ≤ now) (hnow : now ≤ last) :
    Exact last limits startedAt now ↔ limits.maxDurationSeconds ≤ 9223372036854775 ∧
      (now < last ∨ startedAt + limits.maxDurationSeconds * 10 ^ 9 ≤ last) := by
  constructor
  · rintro ⟨deadline, hdeadline, -, hagree, -⟩
    rw [runDeadline_eq, ite_none_right_eq_some] at hdeadline
    simp only [AgentLimits.validate, reject_eq_ok, Bool.or_eq_false_iff, beq_eq_false_iff_ne] at hlimits
    obtain ⟨⟨⟨⟨⟨-, hcalls⟩, htokens⟩, -⟩, -⟩, -⟩ := hlimits
    replace hcalls := Nat.pos_of_ne_zero hcalls
    replace htokens := Nat.pos_of_ne_zero htokens
    have hcut := (durationBudgetError_eq_preModel_iff hdeadline.1 hstart hcalls htokens).mp (hagree 0 hcalls 0 htokens)
    exact ⟨hdeadline.1, by omega⟩
  · rintro ⟨hmaximum, hlast⟩
    refine ⟨_, (runDeadline_eq _).trans (if_pos hmaximum), ?_, fun modelCalls hcalls totalTokens htokens => ?_,
      fun approvalTtl expiresAt => le_deadline_of_waitForApproval hmaximum⟩
    · rw [durationBudgetError_eq hmaximum]
      simp
    · rw [durationBudgetError_eq_preModel_iff hmaximum hstart hcalls htokens]
      omega

/-- The default limits, one second after the deadline. -/
theorem exact_overdue : Exact 8210266876799999999999 ⟨16, 24, 100000, 900, 4096, none⟩ 0 901000000000 :=
  (exact_iff rfl (by decide) (by decide)).mpr (by decide)

/-- A valid limit that no duration holds: there is no deadline, the run stops in a panic. -/
theorem not_exact_long : AgentLimits.validate ⟨16, 24, 100000, 9223372036854776, 4096, none⟩ = .ok () ∧
    ¬ Exact 8210266876799999999999 ⟨16, 24, 100000, 9223372036854776, 4096, none⟩ 0 0 := by
  refine ⟨rfl, ?_⟩
  rintro ⟨_, hdeadline, -⟩
  cases hdeadline

end ProofPlatform.Runtime
