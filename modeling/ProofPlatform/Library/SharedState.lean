import ProofPlatform.Library.Interaction

/-! Concurrent callers of one shared service: requests are atomic, callers may crash between them. -/
namespace ProofPlatform.Library.Interaction
variable {I : Interface} {α σ τ ι : Type} [DecidableEq ι]

/-- How a service may answer one request, and the state it leaves. -/
abbrev Service (I : Interface) (σ : Type) := σ → (request : I.Request) → I.Answer request → σ → Prop

/-- The shared state, what each caller has left to do, and all exchanges, newest first. -/
structure Config (I : Interface) (α σ ι : Type) where
  state : σ
  callers : ι → Option (Program I α)
  history : List (ι × I.Exchange)

def Config.initial (state : σ) (programs : ι → Program I α) : Config I α σ ι :=
  ⟨state, fun i => some (programs i), []⟩

inductive Step (serve : Service I σ) : Config I α σ ι → Config I α σ ι → Prop
  | answer {c : Config I α σ ι} {i : ι} {request : I.Request} {next : I.Answer request → Program I α}
      {reply : I.Answer request} {state : σ} :
      c.callers i = some (.ask request next) → serve c.state request reply state →
      Step serve c ⟨state, Function.update c.callers i (some (next reply)), (i, ⟨request, reply⟩) :: c.history⟩
  | crash {c : Config I α σ ι} (i : ι) : Step serve c { c with callers := Function.update c.callers i none }

abbrev Reaches (serve : Service I σ) : Config I α σ ι → Config I α σ ι → Prop :=
  Relation.ReflTransGen (Step serve)

variable {c c' : Config I α σ ι} {serve : Service I σ}

theorem Reaches.invariant {P : Config I α σ ι → Prop}
    (hr : Reaches serve c c') (h : P c) (hstep : ∀ a b, Step serve a b → P a → P b) : P c' := by
  induction hr with
  | refl => exact h
  | tail _ hs ih => exact hstep _ _ hs ih

/-- The phase of one caller, read off the shared history. -/
def Monitor.phaseOf (M : Monitor I) (start : M.Phase) (i : ι) : List (ι × I.Exchange) → M.Phase
  | [] => start
  | (j, exchange) :: rest =>
    if j = i then M.next (M.phaseOf start i rest) exchange.1 exchange.2 else M.phaseOf start i rest

section
variable {M : Monitor I} {start : M.Phase} {i j : ι} {request : I.Request} {reply : I.Answer request}
  {rest : List (ι × I.Exchange)}

@[simp] theorem phaseOf_nil : M.phaseOf start i [] = start := rfl

@[simp] theorem phaseOf_self : M.phaseOf start i ((i, ⟨request, reply⟩) :: rest) =
    M.next (M.phaseOf start i rest) request reply := by
  simp [Monitor.phaseOf]

theorem phaseOf_other (h : j ≠ i) : M.phaseOf start i ((j, ⟨request, reply⟩) :: rest) = M.phaseOf start i rest := by
  simp [Monitor.phaseOf, h]

end

/-- Every live caller obeys the monitor at the phase its own exchanges brought it to. -/
def Monitored (M : Monitor I) (post : M.Phase → α → Prop) (start : ι → M.Phase) (c : Config I α σ ι) : Prop :=
  ∀ i p, c.callers i = some p → p.Obeys M post (M.phaseOf (start i) i c.history)

theorem Monitored.initial {M : Monitor I} {post : M.Phase → α → Prop} {start : ι → M.Phase} {state : σ}
    {programs : ι → Program I α} (h : ∀ i, (programs i).Obeys M post (start i)) :
    Monitored M post start (Config.initial state programs) := by
  intro i p hp
  obtain rfl := Option.some.inj hp
  exact h i

/-- One step keeps all callers monitored, if its answer is one they may rely on. -/
theorem Monitored.step {M : Monitor I} {post : M.Phase → α → Prop} {start : ι → M.Phase}
    (hrely : ∀ state request reply state', serve state request reply state' →
      ∀ phase, M.relies phase request reply) (hs : Step serve c c') (h : Monitored M post start c) :
    Monitored M post start c' := by
  intro i p hp
  cases hs with
  | @answer j request next reply state hj hserve =>
    by_cases hij : j = i
    · subst hij
      have hn : p = next reply := by simpa using hp.symm
      subst hn
      rw [phaseOf_self]
      exact (h j _ hj).2 reply (hrely _ _ _ _ hserve _)
    · rw [phaseOf_other hij]
      exact h i p (by simpa [Function.update_of_ne (Ne.symm hij)] using hp)
  | crash j =>
    by_cases hij : j = i
    · subst hij
      simp at hp
    · exact h i p (by simpa [Function.update_of_ne (Ne.symm hij)] using hp)

/-- Every exchange was allowed at the phase its caller was in. -/
def Lawful (M : Monitor I) (start : ι → M.Phase) : List (ι × I.Exchange) → Prop
  | [] => True
  | (i, exchange) :: rest => M.allows (M.phaseOf (start i) i rest) exchange.1 ∧ Lawful M start rest

theorem Lawful.step {M : Monitor I} {post : M.Phase → α → Prop} {start : ι → M.Phase} (hs : Step serve c c')
    (hm : Monitored M post start c) (h : Lawful M start c.history) : Lawful M start c'.history := by
  cases hs with
  | answer hj _ => exact ⟨(hm _ _ hj).1, h⟩
  | crash j => exact h

/-- The phases after one more exchange: only its caller's changes. -/
theorem phaseOf_cons (M : Monitor I) (start : ι → M.Phase) (i : ι) (request : I.Request)
    (reply : I.Answer request) (rest : List (ι × I.Exchange)) :
    (fun j => M.phaseOf (start j) j ((i, ⟨request, reply⟩) :: rest)) =
      Function.update (fun j => M.phaseOf (start j) j rest) i
        (M.next (M.phaseOf (start i) i rest) request reply) := by
  funext j
  by_cases hij : i = j
  · subst hij
    simp
  · rw [phaseOf_other hij, Function.update_of_ne (Ne.symm hij)]

/-- Replace the state of a configuration, callers and history as they are. -/
def Config.withState (c : Config I α σ ι) (state : τ) : Config I α τ ι := ⟨state, c.callers, c.history⟩

/-- A service that simulates another lets every run be read as a run over the other. -/
theorem Reaches.simulate {serve' : Service I τ} {R : σ → τ → Prop}
    (hsim : ∀ s r a s' t, serve s r a s' → R s t → ∃ t', serve' t r a t' ∧ R s' t') (hr : Reaches serve c c') {t : τ}
    (hR : R c.state t) :
    ∃ t', R c'.state t' ∧ Reaches serve' (c.withState t) (c'.withState t') := by
  induction hr with
  | refl => exact ⟨t, hR, .refl⟩
  | tail _ hs ih =>
    obtain ⟨u, hu, hreach⟩ := ih
    cases hs with
    | answer hj hserve =>
      obtain ⟨t', ht', hR'⟩ := hsim _ _ _ _ _ hserve hu
      exact ⟨t', hR', hreach.tail (.answer hj ht')⟩
    | crash j => exact ⟨u, hu, hreach.tail (.crash j)⟩

/-- A program run to its end with no other caller around. -/
inductive Program.Alone (serve : Service I σ) : σ → Program I α → σ → α → Prop
  | done (state : σ) (value : α) : Alone serve state (.done value) state value
  | ask {state mid state' : σ} {request : I.Request} {next : I.Answer request → Program I α}
      {reply : I.Answer request} {value : α} (answered : serve state request reply mid)
      (rest : Alone serve mid (next reply) state' value) : Alone serve state (.ask request next) state' value

/-- A caller that has crashed or finished never acts again. -/
def Config.Idle (c : Config I α σ ι) (i : ι) : Prop :=
  c.callers i = none ∨ ∃ value, c.callers i = some (.done value)

theorem Step.idle (hs : Step serve c c') {i : ι} (h : c.Idle i) : c'.Idle i := by
  cases hs with
  | @answer j _ _ _ _ hj _ =>
    have hij : i ≠ j := by
      rintro rfl
      rcases h with h | ⟨_, h⟩ <;> rw [h] at hj <;> cases hj
    simpa [Config.Idle, Function.update_of_ne hij] using h
  | crash j =>
    by_cases hij : i = j
    · exact .inl (by simp [hij])
    · simpa [Config.Idle, Function.update_of_ne hij] using h

end ProofPlatform.Library.Interaction
