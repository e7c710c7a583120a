import ProofPlatform.Library.Transaction

/-! Statements sent to a database engine, which may fail to carry out any, and refuses writes that break constraints.
-/
namespace ProofPlatform.Library.Statements
open Fallible Transaction Tx

variable {σ ε α β : Type}

/-- One statement; the oracle says whether the engine carries it out. -/
def statement (e : ε) : Tx Bool σ ε Unit := ask (fun works => if works then some () else none) e

def select (e : ε) (query : σ → α) : Tx Bool σ ε α := do
  statement e
  pure (query (← current))

/-- A statement that writes, if the constraint is met. -/
def execute (e : ε) (constraint : σ → Bool) (update : σ → σ) : Tx Bool σ ε Unit := do
  statement e
  let state ← current
  lift (reject (!constraint state) e)
  store (update state)

section Returns
variable {o : Nat → Bool} {s s' : σ} {n n' : Nat} {a : α} {b : β} {u : Unit} {e : ε} {f : α → Tx Bool σ ε β}
  {g : Unit → Tx Bool σ ε β} {query : σ → α} {constraint : σ → Bool} {update : σ → σ}

@[simp] theorem returns_statement : Returns (statement e) o s n u s' n' ↔ o n = true ∧ s = s' ∧ n + 1 = n' := by
  simp [statement]

@[simp] theorem returns_execute :
    Returns (execute e constraint update) o s n u s' n' ↔
      o n = true ∧ constraint s = true ∧ update s = s' ∧ n + 1 = n' := by
  simp only [execute, returns_bind, returns_statement, returns_current, returns_lift, returns_store, reject_eq_ok,
    Bool.not_eq_false']
  constructor
  · rintro ⟨_, _, _, ⟨hw, rfl, rfl⟩, _, _, _, ⟨rfl, rfl, rfl⟩, _, _, _, ⟨hc, rfl, rfl⟩, rfl, rfl⟩
    exact ⟨hw, hc, rfl, rfl⟩
  · rintro ⟨hw, hc, rfl, rfl⟩
    exact ⟨(), s, n + 1, ⟨hw, rfl, rfl⟩, s, s, n + 1, ⟨rfl, rfl, rfl⟩, (), s, n + 1, ⟨hc, rfl, rfl⟩, rfl, rfl⟩

@[simp] theorem returns_statement_bind :
    Returns (statement e >>= g) o s n b s' n' ↔ o n = true ∧ Returns (g ()) o s (n + 1) b s' n' := by
  simp [returns_bind]

@[simp] theorem returns_select_bind :
    Returns (select e query >>= f) o s n b s' n' ↔ o n = true ∧ Returns (f (query s)) o s (n + 1) b s' n' := by
  simp [select, returns_bind]

@[simp] theorem returns_execute_bind :
    Returns (execute e constraint update >>= g) o s n b s' n' ↔
      o n = true ∧ constraint s = true ∧ Returns (g ()) o (update s) (n + 1) b s' n' := by
  simp [returns_bind, and_assoc]

end Returns

section ReadOnly

theorem readOnly_statement (e : ε) : ReadOnly (statement e : Tx Bool σ ε Unit) := .ask _ _

theorem readOnly_select (e : ε) (query : σ → α) : ReadOnly (select e query) :=
  .bind (readOnly_statement e) fun _ => .bind (fun _ _ _ => rfl) fun _ => .pure _

theorem leaves_execute {R : σ → σ → Prop} {e : ε} {constraint : σ → Bool} {update : σ → σ} (hrefl : ∀ s, R s s)
    (h : ∀ s, constraint s = true → R s (update s)) : Leaves (fun _ => R) (execute e constraint update) := by
  intro o s n
  rcases hout : execute e constraint update o s n with ⟨_ | u, s', n'⟩
  · have hs : s' = s := by
      simp only [execute, statement, bind, ask, current, lift, store] at hout
      cases hw : o n <;> cases hc : constraint s <;> simp_all
    exact hs ▸ hrefl s
  · obtain ⟨-, hc, rfl, -⟩ := returns_execute.mp hout
    exact h s hc

end ReadOnly

/-- Every run gives this answer and state or an error; no error if the engine works and `p` holds. -/
def YieldsIf (p : Prop) (m : Tx Bool σ ε α) (o : Nat → Bool) (s : σ) (a : α) (s' : σ) : Prop :=
  ∀ n, (∃ n', Returns m o s n a s' n') ∨ ¬ (p ∧ ∀ n, o n = true) ∧ ∃ e, (m o s n).result = .error e

abbrev Yields : Tx Bool σ ε α → (Nat → Bool) → σ → α → σ → Prop := YieldsIf True

section Yields
variable {p : Prop} {m : Tx Bool σ ε α} {f : α → Tx Bool σ ε β} {o : Nat → Bool} {s s₁ s' : σ} {a a' : α}
  {b : β} {e : ε} {n n' : Nat}

theorem YieldsIf.returns (h : YieldsIf p m o s a s') (hp : p) (ho : ∀ n, o n = true) (n : Nat) :
    ∃ n', Returns m o s n a s' n' :=
  (h n).resolve_right fun hfailed => hfailed.1 ⟨hp, ho⟩

theorem YieldsIf.eq_of_returns (h : YieldsIf p m o s a s') (hr : Returns m o s n a' s₁ n') : a' = a ∧ s₁ = s' := by
  rcases h n with ⟨_, hr'⟩ | ⟨-, e, he⟩
  · rw [Returns, hr] at hr'
    cases hr'
    exact ⟨rfl, rfl⟩
  · rw [hr] at he
    cases he

theorem YieldsIf.returns_bind (h : YieldsIf p m o s a s₁) (hr : Returns (m >>= f) o s n b s' n') :
    ∃ n₁, Returns (f a) o s₁ n₁ b s' n' := by
  obtain ⟨a', s₂, n₁, hm, hf⟩ := Tx.returns_bind.mp hr
  obtain ⟨rfl, rfl⟩ := h.eq_of_returns hm
  exact ⟨n₁, hf⟩

theorem yieldsIf_of_returns (hr : ∀ n a' s₁ n', Returns m o s n a' s₁ n' → a' = a ∧ s₁ = s')
    (hp : p → (∀ n, o n = true) → ∀ n, ∃ n', Returns m o s n a s' n') : YieldsIf p m o s a s' := by
  intro n
  rcases hout : m o s n with ⟨e | a', s₁, n'⟩
  · refine .inr ⟨fun ⟨h, ho⟩ => ?_, e, rfl⟩
    obtain ⟨_, hreturns⟩ := hp h ho n
    rw [Returns, hout] at hreturns
    cases hreturns
  · obtain ⟨rfl, rfl⟩ := hr n a' s₁ n' hout
    exact .inl ⟨n', hout⟩

theorem yields_pure (a : α) : YieldsIf p (pure a : Tx Bool σ ε α) o s a s := fun n => .inl ⟨n, rfl⟩

theorem yields_lift {x : Except ε α} (h : x = .ok a) : YieldsIf p (lift x : Tx Bool σ ε α) o s a s :=
  fun n => .inl ⟨n, returns_lift.mpr ⟨h, rfl, rfl⟩⟩

theorem yields_bind (hm : YieldsIf p m o s a s₁) (hf : YieldsIf p (f a) o s₁ b s') : YieldsIf p (m >>= f) o s b s' := by
  refine yieldsIf_of_returns (fun n b' s₂ n' hr => ?_) fun hp ho n => ?_
  · obtain ⟨n₁, hr⟩ := hm.returns_bind hr
    exact hf.eq_of_returns hr
  · obtain ⟨n₁, hm⟩ := hm.returns hp ho n
    obtain ⟨n', hf⟩ := hf.returns hp ho n₁
    exact ⟨n', Tx.returns_bind.mpr ⟨a, s₁, n₁, hm, hf⟩⟩

theorem yields_atomically (h : YieldsIf p m o s a s') : YieldsIf p (atomically m) o s a s' := by
  refine yieldsIf_of_returns (fun n a' s₁ n' hr => h.eq_of_returns (returns_atomically.mp hr)) fun hp ho n => ?_
  obtain ⟨n', hr⟩ := h.returns hp ho n
  exact ⟨n', returns_atomically.mpr hr⟩

theorem yields_execute {constraint : σ → Bool} {update : σ → σ} (hc : constraint s = true) (hs : update s = s') :
    YieldsIf p (execute e constraint update) o s () s' :=
  yieldsIf_of_returns (fun _ _ _ _ hr => ⟨rfl, (returns_execute.mp hr).2.2.1.symm.trans hs⟩)
    fun _ ho n => ⟨n + 1, returns_execute.mpr ⟨ho n, hc, hs, rfl⟩⟩

theorem yields_statement : YieldsIf p (statement e) o s () s :=
  yieldsIf_of_returns (fun _ _ _ _ hr => ⟨rfl, (returns_statement.mp hr).2.1.symm⟩)
    fun _ ho n => ⟨n + 1, returns_statement.mpr ⟨ho n, rfl, rfl⟩⟩

theorem yields_select (query : σ → α) : YieldsIf p (select e query) o s (query s) s :=
  yields_bind yields_statement (yields_bind (fun n => .inl ⟨n, rfl⟩) (yields_pure _))

end Yields
end ProofPlatform.Library.Statements
