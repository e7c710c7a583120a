import Mathlib.Tactic.Common

/-! A system that takes one event after another: what holds after every history. -/
namespace ProofPlatform.Library.History
variable {σ ε : Type} (step : σ → ε → σ)

/-- The state after these events. -/
def run (events : List ε) (s : σ) : σ := events.foldl step s

@[simp] theorem run_nil (s : σ) : run step [] s = s := rfl

@[simp] theorem run_cons (event : ε) (events : List ε) (s : σ) :
    run step (event :: events) s = run step events (step s event) := rfl

variable {step}

theorem run_invariant {I : σ → Prop} {events : List ε} (hstep : ∀ s, ∀ event ∈ events, I s → I (step s event)) {s : σ}
    (hs : I s) : I (run step events s) :=
  List.foldlRecOn events step hs fun _ h event hevent => hstep _ event hevent h

theorem run_related {I : σ → Prop} {R : σ → σ → Prop} {events : List ε}
    (hI : ∀ s, ∀ event ∈ events, I s → I (step s event)) (hrefl : ∀ s, R s s)
    (htrans : ∀ s₁ s₂ s₃, R s₁ s₂ → R s₂ s₃ → R s₁ s₃)
    (hR : ∀ s, ∀ event ∈ events, I s → R s (step s event)) {s : σ} (hs : I s) : R s (run step events s) := by
  induction events generalizing s with
  | nil => exact hrefl s
  | cons event events ih =>
    refine htrans _ _ _ (hR s event List.mem_cons_self hs) (ih (fun s e he => hI s e (List.mem_cons_of_mem _ he))
      (fun s e he => hR s e (List.mem_cons_of_mem _ he)) ?_)
    exact hI s event List.mem_cons_self hs

/-! ### Events that may be refused -/

section Moves
variable (accept : σ → ε → Option σ)

/-- The state after these events, where those refused change nothing. -/
def settle (events : List ε) (s : σ) : σ := run (fun s event => (accept s event).getD s) events s

/-- The accepted events, each with the states before and after it. -/
def moves : List ε → σ → List (σ × ε × σ)
  | [], _ => []
  | event :: events, s =>
    match accept s event with
    | some s' => (s, event, s') :: moves events s'
    | none => moves events s

variable {accept}

/-- What every accepted event adds to the moves before it holds of all of them. -/
theorem moves_induction {I : List (σ × ε × σ) → σ → Prop} {s : σ} (hstart : I [] s)
    (hmove : ∀ ms s event s', I ms s → accept s event = some s' → I (ms ++ [(s, event, s')]) s') (events : List ε) :
    I (moves accept events s) (settle accept events s) := by
  have hfrom : ∀ (events : List ε) ms s, I ms s → I (ms ++ moves accept events s) (settle accept events s) := by
    intro events
    induction events with
    | nil =>
      intro ms s h
      rw [moves, List.append_nil]
      exact h
    | cons event events ih =>
      intro ms s h
      cases haccept : accept s event with
      | none =>
        simp only [settle, run_cons, moves, haccept, Option.getD_none]
        exact ih ms s h
      | some s' =>
        simp only [settle, run_cons, moves, haccept, Option.getD_some]
        rw [List.append_cons]
        exact ih _ s' (hmove ms s event s' h haccept)
  exact hfrom events [] s hstart

end Moves

end ProofPlatform.Library.History
