/-! Early-return computations, taken apart bind by bind without unfolding the monad. -/
namespace ProofPlatform.Library.Fallible
universe u v
variable {ε : Type u} {α β : Type v}

/-- Return early with the error when the condition holds. -/
def reject (bad : Bool) (e : ε) : Except ε Unit := if bad then .error e else .ok ()

/-- The value, or an early return with the error when there is none. -/
def orReject (value : Option α) (e : ε) : Except ε α :=
  match value with
  | some a => .ok a
  | none => .error e

variable {e : ε}

@[simp] theorem reject_eq_ok {bad : Bool} {u : Unit} : reject bad e = .ok u ↔ bad = false := by
  cases bad <;> simp [reject]

@[simp] theorem reject_eq_error {bad : Bool} {e' : ε} : reject bad e = .error e' ↔ bad = true ∧ e = e' := by
  cases bad <;> simp [reject]

@[simp] theorem reject_false (e : ε) : reject false e = .ok () := rfl

@[simp] theorem reject_true (e : ε) : reject true e = .error e := rfl

@[simp] theorem orReject_eq_ok {value : Option α} {a : α} : orReject value e = .ok a ↔ value = some a := by
  cases value <;> simp [orReject]

@[simp] theorem orReject_eq_error {value : Option α} {e' : ε} :
    orReject value e = .error e' ↔ value = none ∧ e = e' := by
  cases value <;> simp [orReject]

@[simp] theorem orReject_some (a : α) (e : ε) : orReject (some a) e = .ok a := rfl

@[simp] theorem orReject_none (e : ε) : orReject (none : Option α) e = .error e := rfl

variable {ε' : Type u}

@[simp] theorem mapError_ok (f : ε → ε') (a : α) : (Except.ok a).mapError f = .ok a := rfl

@[simp] theorem mapError_error (f : ε → ε') (e : ε) : (.error e : Except ε α).mapError f = .error (f e) := rfl

@[simp] theorem mapError_eq_ok {x : Except ε α} {f : ε → ε'} {a : α} : x.mapError f = .ok a ↔ x = .ok a := by
  cases x <;> simp

theorem ite_eq_ok {c : Prop} [Decidable c] {a b : α} :
    (if c then .ok a else .error e) = (.ok b : Except ε α) ↔ c ∧ b = a := by
  split
  · simp [*, eq_comm]
  · simp [*]

theorem bind_eq_ok {x : Except ε α} {f : α → Except ε β} {b : β} : x >>= f = .ok b ↔ ∃ a, x = .ok a ∧ f a = .ok b := by
  cases x with
  | error e | ok a => simp [bind, Except.bind]

theorem ok_bind (a : α) (f : α → Except ε β) : (Except.ok a >>= f) = f a := rfl

/-- A check that only ever succeeds or fails: its success is one proposition. -/
theorem seq_eq_ok {γ : Type} {x : Except ε Unit} {y : Except ε γ} {b : γ} :
    (do x; y) = .ok b ↔ x = .ok () ∧ y = .ok b := by
  rw [bind_eq_ok]
  constructor
  · rintro ⟨⟨⟩, hx, hy⟩
    exact ⟨hx, hy⟩
  · rintro ⟨hx, hy⟩
    exact ⟨(), hx, hy⟩

theorem toOption_eq_some {γ : Type} {x : Except ε γ} {c : γ} : x.toOption = some c ↔ x = .ok c := by
  cases x <;> simp [Except.toOption]

/-- A check passes if something is known of the value it passes with. -/
theorem exists_ok_of_toOption {γ δ : Type} {x : Except ε γ} {f : γ → δ} {d : δ} (h : x.toOption.map f = some d) :
    ∃ c, x = .ok c ∧ f c = d := by
  cases x with
  | error e => cases h
  | ok c => exact ⟨c, rfl, Option.some.inj h⟩

/-- Every error the check can end with meets the condition. -/
def FailsWith {γ : Type} (x : Except ε γ) (p : ε → Prop) : Prop := ∀ e, x = .error e → p e

section FailsWith
variable {γ δ : Type} {p : ε → Prop}

theorem failsWith_ok (c : γ) : FailsWith (.ok c : Except ε γ) p := by
  rintro e ⟨⟩

theorem failsWith_reject {bad : Bool} (h : p e) : FailsWith (reject bad e) p := by
  intro e' he'
  obtain ⟨-, rfl⟩ := reject_eq_error.mp he'
  exact h

theorem failsWith_orReject {value : Option γ} (h : p e) : FailsWith (orReject value e) p := by
  cases value with
  | none => rintro e' ⟨⟩; exact h
  | some c => rintro e' ⟨⟩

theorem failsWith_bind {x : Except ε γ} {f : γ → Except ε δ} (hx : FailsWith x p) (hf : ∀ c, FailsWith (f c) p) :
    FailsWith (x >>= f) p := by
  cases x with
  | error e => rintro e' ⟨⟩; exact hx e rfl
  | ok c => exact hf c

end FailsWith

end ProofPlatform.Library.Fallible

/-! Checks that report findings instead of stopping. -/
namespace ProofPlatform.Library.Findings
universe u
variable {ι : Type u}

/-- The finding when something is wrong. -/
def flag (wrong : Bool) (finding : ι) : List ι := if wrong then [finding] else []

@[simp] theorem flag_eq_nil {wrong : Bool} {finding : ι} : flag wrong finding = [] ↔ wrong = false := by
  cases wrong <;> simp [flag]

end ProofPlatform.Library.Findings
