import Mathlib.Logic.Relation
import Mathlib.Logic.Function.Basic

/-! Programs that act only through requests to an environment, and a monitor logic for them. -/
namespace ProofPlatform.Library.Interaction

structure Interface where
  Request : Type
  Answer : Request → Type

/-- One request together with the answer it got. -/
abbrev Interface.Exchange (I : Interface) := Σ request : I.Request, I.Answer request

inductive Program (I : Interface) (α : Type) where
  | done (value : α)
  | ask (request : I.Request) (next : I.Answer request → Program I α)

variable {I : Interface} {α β ε : Type}

namespace Program

def bind : Program I α → (α → Program I β) → Program I β
  | .done value, f => f value
  | .ask request next, f => .ask request fun answer => (next answer).bind f

instance : Monad (Program I) where
  pure := .done
  bind := .bind

@[simp] theorem pure_eq (value : α) : (pure value : Program I α) = .done value := rfl

@[simp] theorem done_bind (value : α) (f : α → Program I β) : (Program.done value >>= f) = f value := rfl

@[simp] theorem ask_bind (request : I.Request) (next : I.Answer request → Program I α) (f : α → Program I β) :
    (Program.ask request next >>= f) = .ask request fun answer => next answer >>= f := rfl

/-- Issue one request and return its answer. -/
def perform (request : I.Request) : Program I (I.Answer request) := .ask request .done

end Program

/-- A monitor: each phase says which requests may be issued and which answers relied on. -/
structure Monitor (I : Interface) where
  Phase : Type
  allows : Phase → I.Request → Prop
  relies : Phase → (request : I.Request) → I.Answer request → Prop
  next : Phase → (request : I.Request) → I.Answer request → Phase

variable {M : Monitor I}

/-- Only allowed requests under every answer to rely on, and a value that fits the phase reached. -/
def Program.Obeys (M : Monitor I) (post : M.Phase → α → Prop) : M.Phase → Program I α → Prop
  | phase, .done value => post phase value
  | phase, .ask request next => M.allows phase request ∧
      ∀ answer, M.relies phase request answer → (next answer).Obeys M post (M.next phase request answer)

variable {post : M.Phase → α → Prop} {kind : I.Request → Prop} {phase : M.Phase} {p : Program I α}
  {request : I.Request} {next : I.Answer request → Program I α}

namespace Program

@[simp] theorem obeys_done {value : α} :
    (Program.done value : Program I α).Obeys M post phase ↔ post phase value := Iff.rfl

@[simp] theorem obeys_ask : (Program.ask request next).Obeys M post phase ↔
      M.allows phase request ∧ ∀ answer, M.relies phase request answer →
        (next answer).Obeys M post (M.next phase request answer) := Iff.rfl

theorem obeys_bind {post : M.Phase → β → Prop} {f : α → Program I β} :
    (p >>= f).Obeys M post phase ↔ p.Obeys M (fun mid value => (f value).Obeys M post mid) phase := by
  induction p generalizing phase with
  | done value => simp
  | ask request next ih => simp [ih]

theorem Obeys.mono {post' : M.Phase → α → Prop}
    (h : p.Obeys M post phase) (hp : ∀ mid value, post mid value → post' mid value) :
    p.Obeys M post' phase := by
  induction p generalizing phase with
  | done value => exact hp _ _ h
  | ask request next ih => exact ⟨h.1, fun answer ha => ih answer (h.2 answer ha)⟩

theorem obeys_of_allows (ha : ∀ phase request, M.allows phase request)
    (hp : ∀ phase value, post phase value) (p : Program I α) (phase : M.Phase) : p.Obeys M post phase := by
  induction p generalizing phase with
  | done value => exact hp _ _
  | ask request next ih => exact ⟨ha _ _, fun answer _ => ih answer _⟩

end Program

/-- One run of a program: the exchanges made so far and what is left to do. -/
inductive Program.Run : Program I α → List I.Exchange → Program I α → Prop
  | stop (p : Program I α) : Run p [] p
  | step {request : I.Request} {next : I.Answer request → Program I α} {answer : I.Answer request}
      {history : List I.Exchange} {q : Program I α} :
      Run (next answer) history q → Run (.ask request next) (⟨request, answer⟩ :: history) q

/-- The phase reached through a list of exchanges, oldest first. -/
def Monitor.after (M : Monitor I) : M.Phase → List I.Exchange → M.Phase
  | phase, [] => phase
  | phase, exchange :: rest => M.after (M.next phase exchange.1 exchange.2) rest

/-- Every answer of the list is one the monitor lets the program rely on. -/
def Monitor.Trusts (M : Monitor I) : M.Phase → List I.Exchange → Prop
  | _, [] => True
  | phase, exchange :: rest =>
    M.relies phase exchange.1 exchange.2 ∧ M.Trusts (M.next phase exchange.1 exchange.2) rest

variable {history : List I.Exchange}

theorem Monitor.trusts_of_forall
    (h : ∀ phase, ∀ exchange ∈ history, M.relies phase exchange.1 exchange.2) (phase : M.Phase) :
    M.Trusts phase history := by
  induction history generalizing phase with
  | nil => trivial
  | cons exchange rest ih =>
    exact ⟨h _ _ List.mem_cons_self, ih (fun mid e he => h mid e (List.mem_cons_of_mem _ he)) _⟩

/-- Along a run with trusted answers the rest of the program obeys the monitor. -/
theorem Program.Run.obeys {q : Program I α}
    (hr : p.Run history q) (ht : M.Trusts phase history) (h : p.Obeys M post phase) :
    q.Obeys M post (M.after phase history) := by
  induction hr generalizing phase with
  | stop p => exact h
  | step _ ih => exact ih ht.2 (h.2 _ ht.1)

/-- Requests of one kind are allowed only if something holds. -/
abbrev Monitor.gate (I : Interface) (kind : I.Request → Prop) (admitted : Prop) : Monitor I where
  Phase := Unit
  allows _ request := kind request → admitted
  relies _ _ _ := True
  next _ _ _ := ()

/-- Some run of the program gets to a request of the given kind. -/
def Program.Issues (p : Program I α) (kind : I.Request → Prop) : Prop :=
  ∃ history request next, kind request ∧ p.Run history (.ask request next)

namespace Program

theorem Issues.admitted {admitted : Prop}
    {post : Unit → α → Prop} (hi : p.Issues kind) (ho : p.Obeys (.gate I kind admitted) post ()) : admitted := by
  obtain ⟨history, request, next, hk, hr⟩ := hi
  have ht : (Monitor.gate I kind admitted).Trusts () history :=
    Monitor.trusts_of_forall (fun _ _ _ => trivial) _
  exact (hr.obeys ht ho).1 hk

/-- The request a program is about to issue. -/
def pending : Program I α → Option I.Request
  | .done _ => none
  | .ask request _ => some request

theorem issues_of_pending (hp : p.pending = some request) (hk : kind request) : p.Issues kind := by
  cases p with
  | done value => cases hp
  | ask asked next =>
    cases hp
    exact ⟨[], request, next, hk, .stop _⟩

theorem Run.issues {q : Program I α} {exchange : I.Exchange} (hr : p.Run history q)
    (hx : exchange ∈ history) : p.Issues (· = exchange.1) := by
  induction hr with
  | stop p => cases hx
  | step _ ih =>
    obtain rfl | hx := List.mem_cons.mp hx
    · exact ⟨[], _, _, rfl, .stop _⟩
    · obtain ⟨earlier, found, after, hk, hrun⟩ := ih hx
      exact ⟨_, found, after, hk, .step hrun⟩

theorem Run.trans {q r : Program I α} {later : List I.Exchange} (hr : p.Run history q) (hr' : q.Run later r) :
    p.Run (history ++ later) r := by
  induction hr with
  | stop p => exact hr'
  | step _ ih => exact .step (ih hr')

/-- A request that some run gets to is there for a first time. -/
theorem Issues.first (hi : p.Issues (· = request)) :
    ∃ history next, p.Run history (.ask request next) ∧ ∀ exchange ∈ history, exchange.1 ≠ request := by
  obtain ⟨history, request, next, rfl, hr⟩ := hi
  generalize hq : Program.ask request next = q at hr
  induction hr with
  | stop p => exact ⟨[], next, hq ▸ .stop _, nofun⟩
  | @step asked rest answer history q _ ih =>
    by_cases hasked : asked = request
    · exact ⟨[], hasked ▸ rest, by subst hasked; exact .stop _, nofun⟩
    · obtain ⟨earlier, after, hr, hnot⟩ := ih hq
      exact ⟨_, after, .step hr, List.forall_mem_cons.mpr ⟨hasked, hnot⟩⟩

/-- Where some answer can always be relied on, the program comes to an end that fits. -/
theorem Obeys.exists_done (h : p.Obeys M post phase) (ha : ∀ phase request, ∃ answer, M.relies phase request answer) :
    ∃ history value, p.Run history (.done value) ∧ post (M.after phase history) value := by
  induction p generalizing phase with
  | done value => exact ⟨[], value, .stop _, h⟩
  | ask request next ih =>
    obtain ⟨answer, hanswer⟩ := ha phase request
    obtain ⟨history, value, hr, hpost⟩ := ih answer (h.2 _ hanswer)
    exact ⟨_, value, .step hr, hpost⟩

/-- What follows the last request of a program issues nothing. -/
theorem Issues.of_bind_done {f : α → β} (hi : (p >>= fun value => .done (f value)).Issues kind) : p.Issues kind := by
  obtain ⟨history, request, next, hk, hr⟩ := hi
  induction p generalizing history with
  | done value => cases hr
  | ask asked rest ih =>
    rw [ask_bind] at hr
    cases hr with
    | stop => exact ⟨[], _, rest, hk, .stop _⟩
    | step hr =>
      obtain ⟨earlier, found, after, hkind, hrun⟩ := ih _ _ hr
      exact ⟨_, found, after, hkind, .step hrun⟩

end Program

/-- A program with an early-return error. -/
abbrev Procedure (I : Interface) (ε : Type) : Type → Type := ExceptT ε (Program I)

namespace Procedure

def call (request : I.Request) : Procedure I ε (I.Answer request) := ExceptT.lift (Program.perform request)

def ofExcept (result : Except ε α) : Procedure I ε α := ExceptT.mk (.done result)

/-- The procedure obeys the monitor; normal returns and early returns are judged apart. -/
def Obeys (M : Monitor I) (post : M.Phase → α → Prop) (fail : M.Phase → ε → Prop) (phase : M.Phase)
    (p : Procedure I ε α) : Prop :=
  Program.Obeys M (fun mid result => result.casesOn (fail mid) (post mid)) phase p.run

variable {post : M.Phase → α → Prop} {fail : M.Phase → ε → Prop} {phase : M.Phase} {p : Procedure I ε α}

@[simp] theorem obeys_pure {value : α} :
    Obeys M post fail phase (pure value : Procedure I ε α) ↔ post phase value := Iff.rfl

@[simp] theorem obeys_ofExcept {result : Except ε α} : Obeys M post fail phase (ofExcept result : Procedure I ε α) ↔
      (∀ value, result = .ok value → post phase value) ∧ ∀ e, result = .error e → fail phase e := by
  cases result <;> simp [Obeys, ofExcept]

@[simp] theorem obeys_call {post : M.Phase → I.Answer request → Prop} :
    Obeys M post fail phase (call request : Procedure I ε _) ↔
      M.allows phase request ∧
        ∀ answer, M.relies phase request answer → post (M.next phase request answer) answer := Iff.rfl

@[simp] theorem obeys_bind {post : M.Phase → β → Prop} {f : α → Procedure I ε β} :
    Obeys M post fail phase (p >>= f) ↔ Obeys M (fun mid value => Obeys M post fail mid (f value)) fail phase p := by
  unfold Obeys
  rw [ExceptT.run_bind, Program.obeys_bind]
  constructor <;>
  · intro h
    refine h.mono fun mid result hr => ?_
    cases result with
    | ok value | error e => exact hr

theorem Obeys.mono {post' : M.Phase → α → Prop} (h : Obeys M post fail phase p)
    (hp : ∀ mid value, post mid value → post' mid value) : Obeys M post' fail phase p := by
  refine Program.Obeys.mono h fun mid result hr => ?_
  cases result with
  | ok value => exact hp _ _ hr
  | error e => exact hr

/-- Two parts in sequence, with what holds between them. -/
theorem Obeys.bind {post' : M.Phase → β → Prop} {f : α → Procedure I ε β} (h : Obeys M post fail phase p)
    (hf : ∀ mid value, post mid value → Obeys M post' fail mid (f value)) : Obeys M post' fail phase (p >>= f) :=
  obeys_bind.mpr (h.mono hf)

theorem obeys_gate_of {admitted : Prop} {post : Unit → α → Prop} (ha : admitted)
    (hp : ∀ value, post () value) (p : Procedure I ε α) :
    Obeys (.gate I kind admitted) post (fun _ _ => True) () p := by
  unfold Obeys
  apply Program.obeys_of_allows
  · exact fun _ _ _ => ha
  intro _ result
  cases result with
  | ok value => exact hp value
  | error e => trivial

theorem admitted_of_issues {admitted : Prop}
    (hi : p.run.Issues kind) (ho : Obeys (.gate I kind admitted) (fun _ _ => True) (fun _ _ => True) () p) :
    admitted :=
  hi.admitted ho

theorem issues_of_map {f : α → β}
    (hi : (p >>= fun value => pure (f value)).run.Issues kind) : p.run.Issues kind := by
  apply Program.Issues.of_bind_done (f := Except.map f)
  rw [ExceptT.run_bind] at hi
  refine (congrArg (Program.Issues · kind) (congrArg _ (funext fun result => ?_))).mp hi
  cases result <;> rfl

end Procedure
end ProofPlatform.Library.Interaction
