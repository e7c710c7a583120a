import ProofPlatform.Kernel.Evidence

/-! Values shared by the operator records: digests, safe integers, budget amounts and
the syntax of names. -/
namespace ProofPlatform.Operator
open Kernel Option

/-- A 256-bit control digest. -/
structure ControlDigest where
  bytes : BitVec 256
  deriving DecidableEq

/-- The digest a record carries while its own digest is computed. -/
def ControlDigest.blank : ControlDigest := ⟨0⟩

def maxSafeInteger : Nat := 9007199254740991

/-- What the strict serializers accept: a safe integer, an RFC 4122 UUIDv7, and an instant
with a four-digit year. -/
def safeOnWire (value : Nat) : Bool := decide (value ≤ maxSafeInteger)

def timeOnWire (t : Instant) : Bool :=
  decide (-62167219200 * 1000000000 ≤ t ∧ t < 253402300800 * 1000000000)

/-- Addition of unsigned 64-bit values; an overflow has no result. -/
def checkedAdd (a b : Nat) : Option Nat := if a + b < 2 ^ 64 then some (a + b) else none

def checkedSub (a b : Nat) : Option Nat := if b ≤ a then some (a - b) else none

/-- The successor of a revision or sequence, while it stays a safe integer. -/
def nextSafe (value : Nat) : Option Nat := if value + 1 ≤ maxSafeInteger then some (value + 1) else none

@[ext] structure BudgetAmounts where
  steps : Nat
  tokens : Nat
  durationMs : Nat
  costMicrousd : Nat
  toolDispatches : Nat
  deriving DecidableEq

namespace BudgetAmounts

def zero : BudgetAmounts := ⟨0, 0, 0, 0, 0⟩

def toList (a : BudgetAmounts) : List Nat := [a.steps, a.tokens, a.durationMs, a.costMicrousd, a.toolDispatches]

def isSafe (a : BudgetAmounts) : Bool := a.toList.all safeOnWire

def fitsWithin (a ceiling : BudgetAmounts) : Bool :=
  decide (a.steps ≤ ceiling.steps ∧ a.tokens ≤ ceiling.tokens ∧ a.durationMs ≤ ceiling.durationMs ∧
    a.costMicrousd ≤ ceiling.costMicrousd ∧ a.toolDispatches ≤ ceiling.toolDispatches)

/-- Dimension by dimension, failing where one dimension fails. -/
def combine (f : Nat → Nat → Option Nat) (a b : BudgetAmounts) : Option BudgetAmounts := do
  let steps ← f a.steps b.steps
  let tokens ← f a.tokens b.tokens
  let durationMs ← f a.durationMs b.durationMs
  let costMicrousd ← f a.costMicrousd b.costMicrousd
  let toolDispatches ← f a.toolDispatches b.toolDispatches
  pure ⟨steps, tokens, durationMs, costMicrousd, toolDispatches⟩

def checkedAdd (a b : BudgetAmounts) : Option BudgetAmounts := combine Operator.checkedAdd a b

def checkedSub (a b : BudgetAmounts) : Option BudgetAmounts := combine Operator.checkedSub a b

/-! Amounts as an ordered monoid, dimension by dimension. -/

instance : Zero BudgetAmounts := ⟨zero⟩

instance : Add BudgetAmounts := ⟨fun a b => ⟨a.steps + b.steps, a.tokens + b.tokens, a.durationMs + b.durationMs,
  a.costMicrousd + b.costMicrousd, a.toolDispatches + b.toolDispatches⟩⟩

instance : LE BudgetAmounts := ⟨fun a b => a.fitsWithin b = true⟩

theorem add_def (a b : BudgetAmounts) : a + b = ⟨a.steps + b.steps, a.tokens + b.tokens, a.durationMs + b.durationMs,
    a.costMicrousd + b.costMicrousd, a.toolDispatches + b.toolDispatches⟩ := rfl

theorem zero_def : (0 : BudgetAmounts) = ⟨0, 0, 0, 0, 0⟩ := rfl

theorem le_def {a b : BudgetAmounts} : a ≤ b ↔ a.steps ≤ b.steps ∧ a.tokens ≤ b.tokens ∧
    a.durationMs ≤ b.durationMs ∧ a.costMicrousd ≤ b.costMicrousd ∧ a.toolDispatches ≤ b.toolDispatches := by
  simp only [LE.le, fitsWithin, decide_eq_true_eq]

instance : AddCommMonoid BudgetAmounts where
  add_assoc a b c := by simp only [add_def, Nat.add_assoc]
  zero_add a := by simp only [add_def, zero_def, Nat.zero_add]
  add_zero a := by simp only [add_def, zero_def, Nat.add_zero]
  add_comm a b := by simp only [add_def, Nat.add_comm]
  nsmul := nsmulRec

variable {a b c : BudgetAmounts}

protected theorem add_right_cancel (h : a + c = b + c) : a = b := by
  simp only [add_def, mk.injEq, Nat.add_right_cancel_iff] at h
  exact BudgetAmounts.ext h.1 h.2.1 h.2.2.1 h.2.2.2.1 h.2.2.2.2

theorem combine_eq_some {f : Nat → Nat → Option Nat} :
    combine f a b = some c ↔ f a.steps b.steps = some c.steps ∧ f a.tokens b.tokens = some c.tokens ∧
      f a.durationMs b.durationMs = some c.durationMs ∧ f a.costMicrousd b.costMicrousd = some c.costMicrousd ∧
      f a.toolDispatches b.toolDispatches = some c.toolDispatches := by
  simp only [combine, bind_eq_bind, bind_eq_some_iff, pure_def, some.injEq]
  constructor
  · rintro ⟨_, h₁, _, h₂, _, h₃, _, h₄, _, h₅, rfl⟩
    exact ⟨h₁, h₂, h₃, h₄, h₅⟩
  · rintro ⟨h₁, h₂, h₃, h₄, h₅⟩
    exact ⟨_, h₁, _, h₂, _, h₃, _, h₄, _, h₅, rfl⟩

theorem eq_add_of_checkedAdd (h : a.checkedAdd b = some c) : c = a + b := by
  simp only [checkedAdd, combine_eq_some, Operator.checkedAdd, ite_none_right_eq_some, some.injEq] at h
  obtain ⟨⟨-, h₁⟩, ⟨-, h₂⟩, ⟨-, h₃⟩, ⟨-, h₄⟩, -, h₅⟩ := h
  exact BudgetAmounts.ext h₁.symm h₂.symm h₃.symm h₄.symm h₅.symm

theorem add_eq_of_checkedSub (h : a.checkedSub b = some c) : c + b = a := by
  simp only [checkedSub, combine_eq_some, Operator.checkedSub, ite_none_right_eq_some, some.injEq] at h
  obtain ⟨⟨_, h₁⟩, ⟨_, h₂⟩, ⟨_, h₃⟩, ⟨_, h₄⟩, _, h₅⟩ := h
  rw [add_def]
  ext <;> simp only <;> omega

theorem isSafe_iff : a.isSafe = true ↔ ∀ amount ∈ a.toList, amount ≤ maxSafeInteger := by
  simp [isSafe, safeOnWire]

theorem isSafe_of_add_le (h : a + b ≤ c) (hc : c.isSafe = true) : a.isSafe = true := by
  simp only [isSafe_iff, toList, List.forall_mem_cons, le_def, add_def] at *
  grind

theorem checkedAdd_eq_some (h : (a + b).isSafe = true) : a.checkedAdd b = some (a + b) := by
  simp only [isSafe_iff, toList, List.forall_mem_cons, add_def, maxSafeInteger] at *
  simp only [checkedAdd, combine_eq_some, Operator.checkedAdd]
  grind

end BudgetAmounts

private def lowerAscii (c : Char) : Bool := 'a' ≤ c && c ≤ 'z'

private def digitAscii (c : Char) : Bool := '0' ≤ c && c ≤ '9'

private def upperAscii (c : Char) : Bool := 'A' ≤ c && c ≤ 'Z'

private def validLowerIdentifier (name : List Char) : Bool :=
  name.head?.any lowerAscii && name.all fun c => lowerAscii c || digitAscii c || c == '_'

/-- `domain.action`, each a lower-case identifier. -/
def validOperationName (name : String) : Bool :=
  decide (name.utf8ByteSize ≤ 128) &&
    match name.toList.span (fun c => c != '.') with
    | (domain, _ :: action) => validLowerIdentifier domain && validLowerIdentifier action
    | _ => false

/-- `v` and a positive decimal number without leading zeros. -/
def validOperationVersion (version : String) : Bool :=
  match version.toList with
  | 'v' :: digits =>
    decide (version.utf8ByteSize ≤ 16) && !digits.isEmpty && digits.head? != some '0' && digits.all digitAscii
  | _ => false

def validAdapterName (name : String) : Bool :=
  decide (2 ≤ name.utf8ByteSize ∧ name.utf8ByteSize ≤ 64) && name.toList.head?.any lowerAscii &&
    name.toList.all fun c => lowerAscii c || digitAscii c || c == '_' || c == '-'

def validModelName (name : String) : Bool :=
  decide (1 ≤ name.utf8ByteSize ∧ name.utf8ByteSize ≤ 128) &&
    name.toList.all fun c => lowerAscii c || upperAscii c || digitAscii c || ['.', '_', ':', '/', '-'].contains c

end ProofPlatform.Operator
