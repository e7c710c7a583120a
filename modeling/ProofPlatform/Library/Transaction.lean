import Mathlib.Tactic.Common
import ProofPlatform.Library.Fallible

/-! Programs over a state with rollback, which ask an oracle about everything outside it. -/
namespace ProofPlatform.Library.Transaction

/-- The result of a program, the state as it then stands, and the number of questions asked. -/
structure Outcome (σ ε α : Type) where
  result : Except ε α
  state : σ
  tick : Nat

/-- A program over the state `σ`, with errors `ε`, that asks questions answered in `A`. -/
def Tx (A σ ε α : Type) : Type := (Nat → A) → σ → Nat → Outcome σ ε α

namespace Tx
variable {A σ ε α β : Type}

instance : Monad (Tx A σ ε) where
  pure a := fun _ s n => ⟨.ok a, s, n⟩
  bind m f := fun o s n =>
    match m o s n with
    | ⟨.ok a, s', n'⟩ => f a o s' n'
    | ⟨.error e, s', n'⟩ => ⟨.error e, s', n'⟩

instance : LawfulMonad (Tx A σ ε) := LawfulMonad.mk' (Tx A σ ε)
  (by
    intro α m
    funext o s n
    simp only [Functor.map]
    rcases m o s n with ⟨_ | _, _, _⟩ <;> rfl)
  (fun _ _ => rfl)
  (by
    intro α β γ m f g
    funext o s n
    simp only [bind]
    rcases m o s n with ⟨_ | _, _, _⟩ <;> rfl)

def fail (e : ε) : Tx A σ ε α := fun _ s n => ⟨.error e, s, n⟩

def lift (x : Except ε α) : Tx A σ ε α := fun _ s n => ⟨x, s, n⟩

/-- Ask the oracle; an answer of no use is the error. -/
def ask (use : A → Option α) (e : ε) : Tx A σ ε α := fun o s n =>
  match use (o n) with
  | some a => ⟨.ok a, s, n + 1⟩
  | none => ⟨.error e, s, n + 1⟩

def current : Tx A σ ε σ := fun _ s n => ⟨.ok s, s, n⟩

def store (s : σ) : Tx A σ ε Unit := fun _ _ n => ⟨.ok (), s, n⟩

/-- All of the program's writes, or none of them when it fails. -/
def atomically (m : Tx A σ ε α) : Tx A σ ε α := fun o s n =>
  match m o s n with
  | ⟨.ok a, s', n'⟩ => ⟨.ok a, s', n'⟩
  | ⟨.error e, _, n'⟩ => ⟨.error e, s, n'⟩

/-- Report any failure of the program as this one. -/
def failingWith (e : ε) (m : Tx A σ ε α) : Tx A σ ε α := fun o s n =>
  let out := m o s n
  ⟨out.result.mapError fun _ => e, out.state, out.tick⟩

/-- Run the program and go on with its error in hand. -/
def attempt (m : Tx A σ ε α) : Tx A σ ε (Except ε α) := fun o s n =>
  let out := m o s n
  ⟨.ok out.result, out.state, out.tick⟩

/-- The program succeeds with the result `a` and leaves the state `s'`. -/
def Returns (m : Tx A σ ε α) (o : Nat → A) (s : σ) (n : Nat) (a : α) (s' : σ) (n' : Nat) : Prop :=
  m o s n = ⟨.ok a, s', n'⟩

variable {m : Tx A σ ε α} {f : α → Tx A σ ε β} {o : Nat → A} {x : Except ε α} {use : A → Option α} {b : β}
  {n n' : Nat} {s s' : σ}

theorem returns_of_result {a : α} (h : (m o s n).result = .ok a) :
    Returns m o s n a (m o s n).state (m o s n).tick := by
  rw [Returns, ← h]

section Inversion

@[simp] theorem exists_unit {p : Unit → Prop} : (∃ u, p u) ↔ p () := ⟨fun ⟨_, h⟩ => h, fun h => ⟨(), h⟩⟩

variable {o : Nat → A} {s s' : σ} {n n' : Nat} {a : α} {e : ε}

@[simp] theorem returns_pure {b : α} : Returns (pure b : Tx A σ ε α) o s n a s' n' ↔ b = a ∧ s = s' ∧ n = n' := by
  simp [Returns, pure]

theorem returns_bind :
    Returns (m >>= f) o s n b s' n' ↔ ∃ a s₁ n₁, Returns m o s n a s₁ n₁ ∧ Returns (f a) o s₁ n₁ b s' n' := by
  simp only [Returns, bind]
  rcases m o s n with ⟨_ | a, s₁, n₁⟩
  · simp
  · constructor
    · intro h
      exact ⟨a, s₁, n₁, rfl, h⟩
    · rintro ⟨a', s₂, n₂, h, hf⟩
      obtain ⟨ha, rfl, rfl⟩ := Outcome.mk.inj h
      obtain rfl := Except.ok.inj ha
      exact hf

theorem returns_bind_pure {r : α → β} (h : Returns (m >>= fun a => pure (r a)) o s n b s' n') :
    ∃ a, Returns m o s n a s' n' ∧ r a = b := by
  obtain ⟨a, _, _, hm, h⟩ := returns_bind.mp h
  obtain ⟨hr, rfl, rfl⟩ := returns_pure.mp h
  exact ⟨a, hm, hr⟩

@[simp] theorem returns_fail : ¬ Returns (fail e : Tx A σ ε α) o s n a s' n' := by
  simp [Returns, fail]

@[simp] theorem returns_lift : Returns (lift x : Tx A σ ε α) o s n a s' n' ↔ x = .ok a ∧ s = s' ∧ n = n' := by
  simp [Returns, lift]

@[simp] theorem returns_ask :
    Returns (ask use e : Tx A σ ε α) o s n a s' n' ↔ use (o n) = some a ∧ s = s' ∧ n + 1 = n' := by
  simp only [Returns, ask]
  cases use (o n) <;> simp

@[simp] theorem returns_current {t : σ} : Returns (current : Tx A σ ε σ) o s n t s' n' ↔ s = t ∧ s = s' ∧ n = n' := by
  simp [Returns, current]

@[simp] theorem returns_store {t : σ} {u : Unit} :
    Returns (store t : Tx A σ ε Unit) o s n u s' n' ↔ t = s' ∧ n = n' := by
  simp [Returns, store]

/-! A step whose effect is known, followed by the rest of a program. -/

@[simp] theorem returns_lift_bind :
    Returns (lift x >>= f) o s n b s' n' ↔ ∃ a, x = .ok a ∧ Returns (f a) o s n b s' n' := by
  simp [returns_bind]

@[simp] theorem returns_ask_bind :
    Returns (ask use e >>= f) o s n b s' n' ↔ ∃ a, use (o n) = some a ∧ Returns (f a) o s (n + 1) b s' n' := by
  simp [returns_bind]

@[simp] theorem returns_atomically : Returns (atomically m) o s n a s' n' ↔ Returns m o s n a s' n' := by
  simp only [Returns, atomically]
  rcases m o s n with ⟨_ | _, _, _⟩ <;> simp

@[simp] theorem returns_failingWith : Returns (failingWith e m) o s n a s' n' ↔ Returns m o s n a s' n' := by
  simp only [Returns, failingWith]
  rcases m o s n with ⟨_ | _, _, _⟩ <;> simp

end Inversion

/-! What a call leaves behind, however it ends. -/

/-- The program changes nothing. -/
def ReadOnly (m : Tx A σ ε α) : Prop := ∀ o s n, (m o s n).state = s

/-- Whether it succeeds or fails, the program leaves a state related to the one it began with. -/
def Leaves (R : (Nat → A) → σ → σ → Prop) (m : Tx A σ ε α) : Prop := ∀ o s n, R o s (m o s n).state

protected theorem ReadOnly.lift (x : Except ε α) : ReadOnly (lift x : Tx A σ ε α) := fun _ _ _ => rfl

protected theorem ReadOnly.pure (a : α) : ReadOnly (pure a : Tx A σ ε α) := fun _ _ _ => rfl

protected theorem ReadOnly.ask (use : A → Option α) (e : ε) : ReadOnly (ask use e : Tx A σ ε α) := by
  intro o s n
  simp only [ask]
  cases use (o n) <;> rfl

protected theorem ReadOnly.bind (hm : ReadOnly m) (hf : ∀ a, ReadOnly (f a)) : ReadOnly (m >>= f) := by
  intro o s n
  have hs := hm o s n
  simp only [bind]
  rcases hout : m o s n with ⟨_ | a, s', n'⟩
  · rw [hout] at hs
    exact hs
  · rw [hout] at hs
    exact (hf a o s' n').trans hs

theorem ReadOnly.bind_option {γ : Type} {q : Tx A σ ε (Option γ)} {g : Option γ → Tx A σ ε α} (hq : ReadOnly q)
    (hnone : ReadOnly (g none)) (hsome : ∀ c, ReadOnly (g (some c))) : ReadOnly (q >>= g) :=
  hq.bind fun
    | none => hnone
    | some c => hsome c

theorem ReadOnly.state_eq {a : α} (hm : ReadOnly m) (h : Returns m o s n a s' n') : s = s' := by
  have hs := hm o s n
  rw [h] at hs
  exact hs.symm

theorem ReadOnly.returns_bind (hm : ReadOnly m) (h : Returns (m >>= f) o s n b s' n') :
    ∃ a n₁, Returns m o s n a s n₁ ∧ Returns (f a) o s n₁ b s' n' := by
  obtain ⟨a, s₁, n₁, hfirst, hrest⟩ := Tx.returns_bind.mp h
  obtain rfl := hm.state_eq hfirst
  exact ⟨a, n₁, hfirst, hrest⟩

section Leaves
variable {R : (Nat → A) → σ → σ → Prop}

/-- A failure inside `atomically` leaves no trace, so only its successes count. -/
theorem leaves_atomically (hrefl : ∀ o s, R o s s)
    (h : ∀ o s n a s' n', Returns m o s n a s' n' → R o s s') : Leaves R (atomically m) := by
  intro o s n
  simp only [atomically]
  rcases hm : m o s n with ⟨_ | a, s', n'⟩
  · exact hrefl o s
  · exact h o s n a s' n' hm

theorem leaves_bind (hm : Leaves R m) (hf : ∀ a, ReadOnly (f a)) : Leaves R (m >>= f) := by
  intro o s n
  have hR := hm o s n
  simp only [bind]
  rcases hout : m o s n with ⟨_ | a, s', n'⟩
  · rw [hout] at hR
    exact hR
  · rw [hout] at hR
    simp only [hf a o s' n']
    exact hR

theorem leaves_of_readOnly_bind (hrefl : ∀ o s, R o s s) (hm : ReadOnly m)
    (hf : ∀ a, Leaves R (f a)) : Leaves R (m >>= f) := by
  intro o s n
  have hs := hm o s n
  simp only [bind]
  rcases hout : m o s n with ⟨_ | a, s', n'⟩
  · rw [hout] at hs
    exact hs ▸ hrefl o s
  · rw [hout] at hs
    obtain rfl : s' = s := hs
    exact hf a o s' n'

end Leaves

/-- The program fails here and changes nothing. -/
def Refuses (m : Tx A σ ε α) (o : Nat → A) (s : σ) (n : Nat) : Prop := ∃ e n', m o s n = ⟨.error e, s, n'⟩

section Refuses
variable {o : Nat → A} {s : σ} {n : Nat}

theorem refuses_atomically (h : ∀ a s' n', ¬ Returns m o s n a s' n') : Refuses (atomically m) o s n := by
  simp only [Refuses, atomically]
  rcases hm : m o s n with ⟨e | a, s', n'⟩
  · exact ⟨e, n', rfl⟩
  · exact absurd hm (h a s' n')

theorem refuses_bind (f : α → Tx A σ ε β) (h : Refuses m o s n) : Refuses (m >>= f) o s n := by
  obtain ⟨e, n', hm⟩ := h
  simp only [Refuses, bind, hm]
  exact ⟨e, n', rfl⟩

theorem refuses_of_readOnly_bind (hm : ReadOnly m) (hf : ∀ a n', Refuses (f a) o s n') : Refuses (m >>= f) o s n := by
  have hs := hm o s n
  simp only [Refuses, bind]
  rcases hout : m o s n with ⟨e | a, s', n'⟩
  · rw [hout] at hs
    obtain rfl : s' = s := hs
    exact ⟨e, n', rfl⟩
  · rw [hout] at hs
    obtain rfl : s' = s := hs
    exact hf a n'

end Refuses

/-- The program fails here with the error `e`. -/
def Fails (m : Tx A σ ε α) (e : ε) (o : Nat → A) (s : σ) (n : Nat) : Prop := (m o s n).result = .error e

section Fails
variable {o : Nat → A} {s : σ} {n : Nat} {e : ε}

theorem fails_bind_of_returns {a : α}
    (hm : Returns m o s n a s' n') (hf : Fails (f a) e o s' n') : Fails (m >>= f) e o s n := by
  have hm' : m o s n = ⟨.ok a, s', n'⟩ := hm
  simp only [Fails, bind, hm']
  exact hf

theorem fails_bind (f : α → Tx A σ ε β) (hm : Fails m e o s n) : Fails (m >>= f) e o s n := by
  simp only [Fails, bind] at hm ⊢
  rcases hout : m o s n with ⟨e' | a, s', n'⟩
  · rw [hout] at hm
    exact congrArg _ (Except.error.inj hm)
  · rw [hout] at hm
    cases hm

theorem fails_atomically (hm : Fails m e o s n) : Fails (atomically m) e o s n := by
  simp only [Fails, atomically] at hm ⊢
  rcases hout : m o s n with ⟨e' | a, s', n'⟩
  · rw [hout] at hm
    exact congrArg _ (Except.error.inj hm)
  · rw [hout] at hm
    cases hm

end Fails

/-! How a call ends that checks its arguments, runs a transaction and goes on from it. -/

theorem atomically_bind_cases (m : Tx A σ ε α) (f : α → Tx A σ ε β) (o : Nat → A) (s : σ) (n : Nat) :
    ((∃ e, ((atomically m >>= f) o s n).result = .error e) ∧ ((atomically m >>= f) o s n).state = s) ∨
      ∃ a s' n', Returns m o s n a s' n' ∧ (atomically m >>= f) o s n = f a o s' n' := by
  simp only [Returns, bind, atomically]
  rcases m o s n with ⟨e | a, s', n'⟩
  · exact .inl ⟨⟨e, rfl⟩, rfl⟩
  · exact .inr ⟨a, s', n', rfl, rfl⟩

/-- Nothing is left of the program if it fails. -/
def Traceless (m : Tx A σ ε α) : Prop := ∀ o s n, (∃ a, (m o s n).result = .ok a) ∨ (m o s n).state = s

theorem traceless_atomically (m : Tx A σ ε α) : Traceless (atomically m) := by
  intro o s n
  simp only [atomically]
  rcases m o s n with ⟨e | a, s', n'⟩
  · exact .inr rfl
  · exact .inl ⟨a, rfl⟩

theorem traceless_lift_bind (h : ∀ a, Traceless (f a)) : Traceless (lift x >>= f) := by
  intro o s n
  cases x with
  | error e => exact .inr rfl
  | ok a => exact h a o s n

theorem traceless_bind_pure (h : Traceless m) (g : α → β) : Traceless (m >>= fun a => pure (g a)) := by
  intro o s n
  have hm := h o s n
  simp only [bind, pure]
  rcases hout : m o s n with ⟨e | a, s', n'⟩
  · rw [hout] at hm
    exact .inr (hm.resolve_left fun ⟨_, hok⟩ => by cases hok)
  · exact .inl ⟨g a, rfl⟩

/-- The transaction failed and nothing is left of it, or it ended and the report is its own. -/
theorem lift_atomically_cases (m : Tx A σ ε (Except ε α)) (o : Nat → A) (s : σ) (n : Nat) :
    (∃ e, ((atomically m >>= lift) o s n).result = .error e ∧ ((atomically m >>= lift) o s n).state = s) ∨
      ∃ r s' n', Returns m o s n r s' n' ∧ ((atomically m >>= lift) o s n).result = r ∧
        ((atomically m >>= lift) o s n).state = s' := by
  rcases atomically_bind_cases m lift o s n with ⟨⟨e, he⟩, hs⟩ | ⟨r, s', n', hm, hout⟩
  · exact .inl ⟨e, he, hs⟩
  · exact .inr ⟨r, s', n', hm, congrArg Outcome.result hout, congrArg Outcome.state hout⟩

theorem lift_atomically_of_returns {m : Tx A σ ε (Except ε α)} {r : Except ε α}
    (h : Returns m o s n r s' n') : (atomically m >>= lift) o s n = ⟨r, s', n'⟩ := by
  have hm : m o s n = ⟨.ok r, s', n'⟩ := h
  simp only [bind, atomically, hm, lift]

theorem returns_attempt_atomically {r : Except ε α} :
    Returns (attempt (atomically m)) o s n r s' n' ↔
      (∃ a, r = .ok a ∧ Returns m o s n a s' n') ∨
      (∃ e, r = .error e ∧ s = s' ∧ (m o s n).result = .error e ∧ (m o s n).tick = n') := by
  simp only [Returns, attempt, atomically]
  rcases m o s n with ⟨e | a, s₁, n₁⟩
  · simp only [Outcome.mk.injEq, Except.ok.injEq]
    constructor
    · rintro ⟨rfl, rfl, rfl⟩
      exact .inr ⟨e, rfl, rfl, rfl, rfl⟩
    · rintro (⟨a, rfl, h⟩ | ⟨e', rfl, rfl, he, rfl⟩)
      · exact absurd h.1 (by simp)
      · exact ⟨he.symm ▸ rfl, rfl, rfl⟩
  · simp only [Outcome.mk.injEq, Except.ok.injEq]
    constructor
    · rintro ⟨rfl, rfl, rfl⟩
      exact .inl ⟨a, rfl, rfl, rfl, rfl⟩
    · rintro (⟨a', rfl, h, rfl, rfl⟩ | ⟨e, -, -, he, -⟩)
      · exact ⟨congrArg _ h, rfl, rfl⟩
      · cases he

/-- A program over a part of the state. -/
def within {τ : Type} (get : σ → τ) (put : σ → τ → σ) (m : Tx A τ ε α) : Tx A σ ε α := fun o s n =>
  let out := m o (get s) n
  ⟨out.result, put s out.state, out.tick⟩

section Within
variable {τ : Type} {get : σ → τ} {put : σ → τ → σ} {m : Tx A τ ε α} {o : Nat → A} {s s' : σ} {n n' : Nat} {a : α}

theorem returns_within : Returns (within get put m) o s n a s' n' ↔
    ∃ t, Returns m o (get s) n a t n' ∧ put s t = s' := by
  simp only [Returns, within]
  rcases m o (get s) n with ⟨_ | _, t, n₁⟩
  · simp
  · simp only [Outcome.mk.injEq, Except.ok.injEq]
    constructor
    · rintro ⟨rfl, rfl, rfl⟩
      exact ⟨t, ⟨rfl, rfl, rfl⟩, rfl⟩
    · rintro ⟨_, ⟨rfl, rfl, rfl⟩, rfl⟩
      exact ⟨rfl, rfl, rfl⟩

end Within

end Tx
end ProofPlatform.Library.Transaction
