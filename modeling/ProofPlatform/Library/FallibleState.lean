import Mathlib.Tactic.Common

/-! Calls on a state that may fail. A failed call keeps what it wrote before it failed. -/
namespace ProofPlatform.Library.FallibleState

/-- A call on the state `σ`, with errors `ε`. -/
def Act (σ ε α : Type) : Type := σ → Except ε α × σ

namespace Act
variable {σ ε ε' α β : Type}

instance : Monad (Act σ ε) where
  pure a := fun s => (.ok a, s)
  bind m f := fun s =>
    match m s with
    | (.ok a, s') => f a s'
    | (.error e, s') => (.error e, s')

def fail (e : ε) : Act σ ε α := fun s => (.error e, s)

def lift (x : Except ε α) : Act σ ε α := fun s => (x, s)

def current : Act σ ε σ := fun s => (.ok s, s)

def update (f : σ → σ) : Act σ ε Unit := fun s => (.ok (), f s)

/-- Fail and leave this state. -/
def failWith (e : ε) (s : σ) : Act σ ε α := fun _ => (.error e, s)

/-- Report the failures of a call as failures of another kind. -/
def mapError (f : ε → ε') (m : Act σ ε α) : Act σ ε' α := fun s => ((m s).1.mapError f, (m s).2)

/-- The call, made in the state `s`, meets one condition if it returns and the other if it fails. -/
def Meets (m : Act σ ε α) (s : σ) (ok : α → σ → Prop) (err : ε → σ → Prop) : Prop :=
  match m s with
  | (.ok a, s') => ok a s'
  | (.error e, s') => err e s'

variable {m : Act σ ε α} {f : α → Act σ ε β} {s s' : σ} {ok ok' : α → σ → Prop} {err err' : ε → σ → Prop}
variable {okB : β → σ → Prop}

@[simp] theorem meets_pure {a : α} : Meets (pure a : Act σ ε α) s ok err ↔ ok a s := Iff.rfl

@[simp] theorem meets_current {okS : σ → σ → Prop} : Meets (current : Act σ ε σ) s okS err ↔ okS s s := Iff.rfl

@[simp] theorem meets_update {g : σ → σ} {okU : Unit → σ → Prop} :
    Meets (update g : Act σ ε Unit) s okU err ↔ okU () (g s) := Iff.rfl

@[simp] theorem meets_lift {x : Except ε α} :
    Meets (lift x : Act σ ε α) s ok err ↔ (∀ a, x = .ok a → ok a s) ∧ ∀ e, x = .error e → err e s := by
  cases x <;> simp [Meets, lift]

@[simp] theorem meets_bind : Meets (m >>= f) s okB err ↔ Meets m s (fun a s' => Meets (f a) s' okB err) err := by
  simp only [Meets, bind]
  rcases m s with ⟨_ | _, _⟩ <;> rfl

@[simp] theorem meets_mapError {g : ε → ε'} {errG : ε' → σ → Prop} :
    Meets (mapError g m) s ok errG ↔ Meets m s ok fun e s' => errG (g e) s' := by
  simp only [Meets, mapError]
  rcases m s with ⟨_ | _, _⟩ <;> rfl

theorem Meets.mono (h : Meets m s ok err) (hok : ∀ a s', ok a s' → ok' a s') (herr : ∀ e s', err e s' → err' e s') :
    Meets m s ok' err' := by
  unfold Meets at h ⊢
  rcases hm : m s with ⟨e | a, s'⟩
  · rw [hm] at h
    exact herr e s' h
  · rw [hm] at h
    exact hok a s' h

theorem Meets.of_ok {a : α} (h : Meets m s ok err) (hm : m s = (.ok a, s')) : ok a s' := by
  rw [Meets, hm] at h
  exact h

theorem Meets.of_error {e : ε} (h : Meets m s ok err) (hm : m s = (.error e, s')) : err e s' := by
  rw [Meets, hm] at h
  exact h

theorem Meets.elim {Q : Except ε α → σ → Prop} (h : Meets m s ok err) (hok : ∀ a s', ok a s' → Q (.ok a) s')
    (herr : ∀ e s', err e s' → Q (.error e) s') : Q (m s).1 (m s).2 := by
  rcases hm : m s with ⟨e | a, s'⟩
  · exact herr e s' (h.of_error hm)
  · exact hok a s' (h.of_ok hm)

theorem Meets.after {I : σ → Prop} (h : Meets m s (fun _ => I) fun _ => I) : I (m s).2 :=
  h.elim (Q := fun _ => I) (fun _ _ h => h) fun _ _ h => h

end Act
end ProofPlatform.Library.FallibleState
