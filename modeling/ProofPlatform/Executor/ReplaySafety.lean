import ProofPlatform.Executor.ReplayLedger

/-! What the history of an interleaved run says about each key: one entry, one completion. -/
namespace ProofPlatform.Executor
open Kernel Library.Interaction ReplayPhase List Option Bool

abbrev EngineExchange := engineInterface.Exchange

def isEntry (exchange : EngineExchange) : Bool :=
  match exchange.1 with
  | .executeVersioned _ _ _ _ => true
  | _ => false

namespace ReplayPhase

/-- The handler has been called. -/
def handled : ReplayPhase → Bool
  | .entered _ => true
  | .settled _ handled => handled
  | _ => false

variable {phase : ReplayPhase} {request : EngineRequest} {reply : request.Answer} {claim : ExecutionReplayClaim}
  {expected : Option (ExecutionReplayKey × ContentDigest)}

theorem handled_next (h : phase.Allows request) (reply : request.Answer) :
    (phase.next request reply).handled.toNat = phase.handled.toNat + (isEntry ⟨request, reply⟩).toNat := by
  cases request with
  | claimExecutionReplay claim =>
    obtain rfl := allows_claim h
    match reply with
    | .error _ | .ok .acquired | .ok (.completed _) | .ok .conflict | .ok .inProgress | .ok .failed
    | .ok .unsupported => rfl
  | completeExecutionReplay => obtain rfl := allows_complete h; rfl
  | failExecutionReplay => rcases allows_fail h with rfl | rfl <;> rfl
  | executeVersioned => obtain ⟨_, rfl⟩ := allows_handler h; rfl
  | _ => cases phase <;> rfl

theorem holds_next (ha : phase.Allows request) (h : (phase.next request reply).Holds claim) :
    phase.Holds claim ∨
      (⟨request, reply⟩ : EngineExchange) = ⟨.claimExecutionReplay claim, .ok .acquired⟩ := by
  cases request with
  | claimExecutionReplay other =>
    obtain rfl := allows_claim ha
    match reply, h with
    | .error _, h => exact absurd h id
    | .ok .acquired, h => exact .inr (by obtain rfl : other = claim := h; rfl)
    | .ok (.completed _), h | .ok .conflict, h | .ok .inProgress, h | .ok .failed, h | .ok .unsupported, h =>
      exact absurd h id
  | completeExecutionReplay => obtain rfl := allows_complete ha; exact .inl h
  | failExecutionReplay => rcases allows_fail ha with rfl | rfl <;> exact .inl h
  | executeVersioned => obtain ⟨_, rfl⟩ := allows_handler ha; exact .inl h
  | _ => left; cases phase <;> exact h

theorem ready_next (ha : phase.Allows request) (h : phase.next request reply = .ready claim) :
    phase = .ready claim ∨
      (⟨request, reply⟩ : EngineExchange) = ⟨.claimExecutionReplay claim, .ok .acquired⟩ := by
  rcases holds_next ha (show (phase.next request reply).Holds claim by rw [h]; rfl) with hold | he
  · left
    cases request with
    | claimExecutionReplay => rw [allows_claim ha] at hold; exact absurd hold id
    | completeExecutionReplay => rw [allows_complete ha] at h; cases h
    | failExecutionReplay => rcases allows_fail ha with hp | hp <;> rw [hp] at h <;> cases h
    | executeVersioned =>
      obtain ⟨_, hp⟩ := allows_handler ha
      rw [hp] at h
      cases h
    | _ => cases phase <;> exact h
  · exact .inr he

theorem fresh_next (ha : phase.Allows request) (h : phase.next request reply = .fresh expected) :
    phase = .fresh expected := by
  cases request with
  | claimExecutionReplay other =>
    rw [allows_claim ha] at h
    match reply, h with
    | .error _, h | .ok .acquired, h | .ok (.completed _), h | .ok .conflict, h | .ok .inProgress, h
    | .ok .failed, h | .ok .unsupported, h => cases h
  | completeExecutionReplay => rw [allows_complete ha] at h; cases h
  | failExecutionReplay => rcases allows_fail ha with hp | hp <;> rw [hp] at h <;> cases h
  | executeVersioned =>
    obtain ⟨_, hp⟩ := allows_handler ha
    rw [hp] at h
    cases h
  | _ => cases phase <;> exact h

theorem not_allows_settled {handled : Bool} : ¬ (settled claim handled).Allows request := by
  cases request <;> exact id

end ReplayPhase

section
variable {ι : Type} [DecidableEq ι] {start : ι → ReplayPhase} {history : List (ι × EngineExchange)}

/-- The phase of a caller along a history of exact-replay exchanges. -/
abbrev phaseAt (start : ι → ReplayPhase) (history : List (ι × EngineExchange)) (i : ι) : ReplayPhase :=
  replayMonitor.phaseOf (start i) i history

variable (hl : Lawful replayMonitor start history)
include hl

theorem count_entries (hfresh : ∀ i, (start i).handled = false) (i : ι) :
    history.countP (fun x => decide (x.1 = i) && isEntry x.2) = (phaseAt start history i).handled.toNat := by
  induction history with
  | nil => simp [hfresh]
  | cons x rest ih =>
    obtain ⟨j, request, reply⟩ := x
    obtain ⟨ha, hl⟩ := hl
    rw [countP_cons, ih hl]
    by_cases hji : j = i
    · subst hji
      rw [show phaseAt start (_ :: rest) j = _ from phaseOf_self]
      refine Eq.trans ?_ (handled_next ha reply).symm
      cases isEntry (⟨request, reply⟩ : EngineExchange) <;> simp
    · rw [show phaseAt start (_ :: rest) i = _ from phaseOf_other hji]
      simp [hji]

variable {i : ι}

theorem start_of_fresh {expected : Option (ExecutionReplayKey × ContentDigest)}
    (h : phaseAt start history i = .fresh expected) : start i = .fresh expected := by
  induction history with
  | nil => exact h
  | cons x rest ih =>
    obtain ⟨j, request, reply⟩ := x
    obtain ⟨ha, hl⟩ := hl
    by_cases hji : j = i
    · subst hji
      rw [phaseAt, phaseOf_self] at h
      exact ih hl (fresh_next ha h)
    · rw [phaseAt, phaseOf_other hji] at h
      exact ih hl h

variable {claim claim' : ExecutionReplayClaim}

theorem start_of_claim {reply : Except String ExecutionReplayClaimResult}
    (hx : (i, (⟨.claimExecutionReplay claim, reply⟩ : EngineExchange)) ∈ history) :
    start i = .fresh (some (claim.key, claim.inputDigest)) := by
  induction history with
  | nil => cases hx
  | cons x rest ih =>
    obtain ⟨j, request, answer⟩ := x
    obtain ⟨ha, hl⟩ := hl
    rcases mem_cons.mp hx with he | hm
    · obtain ⟨rfl, hs⟩ := Prod.mk.inj he
      obtain ⟨rfl, -⟩ := Sigma.mk.inj hs
      exact start_of_fresh hl (allows_claim ha)
    · exact ih hl hm

theorem acquired_of_holds (hfresh : ∀ i claim, ¬ (start i).Holds claim) (h : (phaseAt start history i).Holds claim) :
    (i, (⟨.claimExecutionReplay claim, .ok .acquired⟩ : EngineExchange)) ∈ history := by
  induction history with
  | nil => exact absurd h (hfresh i claim)
  | cons x rest ih =>
    obtain ⟨j, request, reply⟩ := x
    obtain ⟨ha, hl⟩ := hl
    by_cases hji : j = i
    · subst hji
      rw [phaseAt, phaseOf_self] at h
      rcases holds_next ha h with hold | he
      · exact mem_cons_of_mem _ (ih hl hold)
      · rw [he]
        exact mem_cons_self
    · rw [phaseAt, phaseOf_other hji] at h
      exact mem_cons_of_mem _ (ih hl h)

variable {context context' : ExecutionContext} {outcome outcome' : ExecutionOutcome} {reply reply' : Except String Unit}

theorem settled_of_complete
    (hx : (i, (⟨.completeExecutionReplay claim context outcome, reply⟩ : EngineExchange)) ∈ history) :
    phaseAt start history i = .settled claim true := by
  induction history with
  | nil => cases hx
  | cons x rest ih =>
    obtain ⟨j, request, answer⟩ := x
    obtain ⟨ha, hl⟩ := hl
    rcases mem_cons.mp hx with he | hx
    · obtain ⟨rfl, hs⟩ := Prod.mk.inj he
      obtain ⟨rfl, -⟩ := Sigma.mk.inj hs
      have hp : replayMonitor.phaseOf (start i) i rest = _ := allows_complete ha
      rw [phaseAt, phaseOf_self, hp]
      rfl
    · have hs := ih hl hx
      by_cases hji : j = i
      · subst hji
        change ReplayPhase.Allows (phaseAt start rest j) request at ha
        rw [hs] at ha
        exact absurd ha not_allows_settled
      · rw [phaseAt, phaseOf_other hji]
        exact hs

theorem complete_unique (hx : (i, (⟨.completeExecutionReplay claim context outcome, reply⟩ : EngineExchange)) ∈ history)
    (hx' : (i, (⟨.completeExecutionReplay claim' context' outcome', reply'⟩ : EngineExchange)) ∈ history) :
    outcome = outcome' := by
  induction history with
  | nil => cases hx
  | cons x rest ih =>
    obtain ⟨j, request, answer⟩ := x
    obtain ⟨ha, hl⟩ := hl
    have hlast {c : ExecutionReplayClaim} {ctx : ExecutionContext} {o : ExecutionOutcome} {r : Except String Unit}
        (hm : (j, (⟨.completeExecutionReplay c ctx o, r⟩ : EngineExchange)) ∈ rest) : False := by
      change ReplayPhase.Allows (phaseAt start rest j) request at ha
      rw [settled_of_complete hl hm] at ha
      exact not_allows_settled ha
    rcases mem_cons.mp hx with he | hm <;> rcases mem_cons.mp hx' with he' | hm'
    · obtain ⟨-, hs⟩ := Prod.mk.inj (he.trans he'.symm)
      obtain ⟨hr, -⟩ := Sigma.mk.inj hs
      exact (EngineRequest.completeExecutionReplay.inj hr).2.2
    · obtain ⟨rfl, -⟩ := Prod.mk.inj he
      exact (hlast hm').elim
    · obtain ⟨rfl, -⟩ := Prod.mk.inj he'
      exact (hlast hm).elim
    · exact ih hl hm hm'

theorem handled_of_entry (hfresh : ∀ i, (start i).handled = false) {exchange : EngineExchange}
    (hx : (i, exchange) ∈ history) (he : isEntry exchange) :
    (phaseAt start history i).handled = true := by
  have hpos : 0 < history.countP (fun x => decide (x.1 = i) && isEntry x.2) :=
    countP_pos_iff.mpr ⟨_, hx, by simp [he]⟩
  rw [count_entries hl hfresh] at hpos
  cases hh : (phaseAt start history i).handled with
  | true => rfl
  | false => simp [hh] at hpos

end

/-- One `execute` call: an engine, the operation and its input, and the caller's context. -/
structure Call where
  engine : ExecutionEngine
  operation : String
  version : String
  input : Json
  context : ExecutionContext
  approval : Option (ApprovalGrant × Principal)
  evidenceRequired : Bool

namespace Call
variable (P : Primitives) (call : Call)

def program : DirectProgram :=
  (call.engine.executeInner P call.operation call.version call.input call.context call.approval
    call.evidenceRequired).run

def expected : Option (ExecutionReplayKey × ContentDigest) :=
  expectedClaim P call.operation call.version call.input

/-- The replay key, when the input carries a valid one and has a canonical form. -/
def key : Option ExecutionReplayKey := (call.expected P).map Prod.fst

/-- The handler asks for exact replay. -/
def ExactReplay : Prop := ∀ handler, call.engine.handlers call.operation = some handler →
  handler.idempotencyPolicyFor call.version = .requiredUuidV7ExactReplay

end Call

abbrev DirectConfig (σ ι : Type) := Config engineInterface (Except ExecutionError InternalExecutionOutcome) σ ι

/-- A completion of `claim` with these contents was requested. -/
def Completion (P : Primitives) {ι : Type} (history : List (ι × EngineExchange)) (claim : ExecutionReplayClaim)
    (output : CanonicalJson) (proof : Proof) : Prop :=
  ∃ i context outcome reply,
    (i, (⟨.completeExecutionReplay claim context outcome, reply⟩ : EngineExchange)) ∈ history ∧
      P.canonicalize outcome.output = .ok output ∧ outcome.proof = proof

/-- Every slot was claimed, and every completed one completed, by a call of the history. -/
structure Recorded (P : Primitives) {ι : Type} (L : Ledger) (history : List (ι × EngineExchange)) : Prop where
  claimed : ∀ key slot, L key = some slot → slot.claim.key = key ∧ ∃ i reply,
    (i, (⟨.claimExecutionReplay slot.claim, reply⟩ : EngineExchange)) ∈ history
  completed : ∀ key first output proof, L key = some (.completed first output proof) →
    Completion P history first output proof

variable {key : ExecutionReplayKey}

namespace Recorded
variable {P : Primitives} {ι : Type} {L : Ledger} {history : List (ι × EngineExchange)}

theorem cons (h : Recorded P L history) (x : ι × EngineExchange) : Recorded P L (x :: history) where
  claimed key slot hs := by
    obtain ⟨hk, i, reply, hx⟩ := h.claimed key slot hs
    exact ⟨hk, i, reply, mem_cons_of_mem _ hx⟩
  completed key first output proof hs := by
    obtain ⟨i, context, outcome, reply, hx, hc⟩ := h.completed key first output proof hs
    exact ⟨i, context, outcome, reply, mem_cons_of_mem _ hx, hc⟩

/-- Writing a slot whose claim and completion the history accounts for. -/
theorem write (h : Recorded P L history) {slot : Slot} (hk : slot.claim.key = key)
    (hc : ∃ i reply, (i, (⟨.claimExecutionReplay slot.claim, reply⟩ : EngineExchange)) ∈ history)
    (hd : ∀ first output proof, slot = .completed first output proof → Completion P history first output proof) :
    Recorded P (Function.update L key (some slot)) history where
  claimed k s hs := by
    by_cases hkk : k = key
    · subst hkk
      obtain rfl : slot = s := by simpa using hs
      exact ⟨hk, hc⟩
    · exact h.claimed k s (by simpa [Function.update_of_ne hkk] using hs)
  completed k first output proof hs := by
    by_cases hkk : k = key
    · subst hkk
      exact hd first output proof (by simpa using hs)
    · exact h.completed k first output proof (by simpa [Function.update_of_ne hkk] using hs)

end Recorded

/-- All that is kept along a run of exact-replay calls over the ledger. -/
structure Sound (P : Primitives) {ι : Type} [DecidableEq ι] (calls : ι → Call) (c : DirectConfig Ledger ι) : Prop where
  monitored : Monitored replayMonitor (fun phase result => result.casesOn (fun _ => True) phase.Returns)
    (fun i => .fresh ((calls i).expected P)) c
  lawful : Lawful replayMonitor (fun i => .fresh ((calls i).expected P)) c.history
  coherent : Coherent P (fun i => (calls i).expected P) c.state
    (phaseAt (fun i => .fresh ((calls i).expected P)) c.history)
  recorded : Recorded P c.state c.history

/-- One allowed request keeps the history accounting for the ledger. -/
theorem Recorded.step {P : Primitives} {ι : Type} {expected : ι → Option (ExecutionReplayKey × ContentDigest)}
    {phase : ι → ReplayPhase} {L L' : Ledger} {history : List (ι × EngineExchange)} (h : Recorded P L history)
    (hc : Coherent P expected L phase) {i : ι} {request : EngineRequest} {reply : request.Answer}
    (ha : (phase i).Allows request) (hs : LedgerServes P L request reply L') :
    Recorded P L' ((i, ⟨request, reply⟩) :: history) := by
  have h' := h.cons (i, ⟨request, reply⟩)
  cases hs with
  | acquire reply =>
    exact h'.write rfl ⟨i, reply, mem_cons_self⟩ (fun _ _ _ he => by cases he)
  | @complete _ claim first context outcome output reply hkey hout =>
    -- The slot still holds the caller's own claim, so the completion is filed under it.
    have hopen : (phase i).Open claim := by rw [allows_complete ha]; rfl
    obtain rfl : first = claim := Slot.claimed.inj (some.inj (hkey.symm.trans (hc.openClaim i claim hopen)))
    refine h'.write rfl (h'.claimed _ _ hkey).2 fun first' output' proof' he => ?_
    obtain ⟨rfl, rfl, rfl⟩ := Slot.completed.inj he
    exact ⟨i, context, outcome, reply, mem_cons_self, hout, rfl⟩
  | fail reply hkey =>
    obtain ⟨hk, hx⟩ := h'.claimed _ _ hkey
    exact h'.write hk hx (fun _ _ _ he => by cases he)
  | _ => exact h'

section
variable {P : Primitives} {ι : Type} [DecidableEq ι] {calls : ι → Call}

theorem Sound.initial (hcalls : ∀ i, (calls i).ExactReplay) :
    Sound P calls (Config.initial (fun _ => none) fun i => (calls i).program P) where
  monitored := Monitored.initial fun i => executeInner_follows _ _ (hcalls i)
  lawful := trivial
  coherent := {
    fixed := fun i e he => (fresh.inj he).symm
    held := fun i claim hc => absurd hc id
    unique := fun i j claim other hc => absurd hc id
    openClaim := fun i claim hc => absurd hc id
    replayed := fun i claim outcome he => by cases he }
  recorded := {
    claimed := fun key slot hs => by cases hs
    completed := fun key first output proof hs => by cases hs }

theorem Sound.step {c c' : DirectConfig Ledger ι} (hs : Step (LedgerServes P) c c') (h : Sound P calls c) :
    Sound P calls c' := by
  refine ⟨h.monitored.step (fun _ _ _ _ _ _ => trivial) hs, Lawful.step hs h.monitored h.lawful, ?_, ?_⟩
  · cases hs with
    | @answer i request next reply state hi hserve =>
      have ha := (h.monitored i _ hi).1
      have hstep := h.coherent.step ha hserve
      rw [← phaseOf_cons replayMonitor] at hstep
      exact hstep
    | crash i => exact h.coherent
  · cases hs with
    | @answer i request next reply state hi hserve =>
      exact h.recorded.step h.coherent (h.monitored i _ hi).1 hserve
    | crash i => exact h.recorded

variable {c : DirectConfig Ledger ι}

theorem Sound.reaches (hcalls : ∀ i, (calls i).ExactReplay)
    (hr : Reaches (LedgerServes P) (Config.initial (fun _ => none) fun i => (calls i).program P) c) :
    Sound P calls c :=
  hr.invariant (Sound.initial hcalls) fun _ _ hs h => h.step hs

/-- The call has called its handler. -/
def Entered (history : List (ι × EngineExchange)) (i : ι) : Prop :=
  ∃ exchange, (i, exchange) ∈ history ∧ isEntry exchange

/-- The call has returned this outcome. -/
def Received {σ : Type} (c : DirectConfig σ ι) (i : ι) (outcome : InternalExecutionOutcome) : Prop :=
  c.callers i = some (.done (.ok outcome))

/-- How often the handler was entered under a key. -/
def entries (P : Primitives) (calls : ι → Call) (key : ExecutionReplayKey) (history : List (ι × EngineExchange)) :
    Nat :=
  history.countP fun x => isEntry x.2 && decide ((calls x.1).key P = some key)

namespace Sound
variable {c : DirectConfig Ledger ι} {i j : ι} {key : ExecutionReplayKey}

private theorem holds_of_handled {phase : ReplayPhase} (h : phase.handled = true) : ∃ claim, phase.Holds claim := by
  cases phase with
  | entered claim | settled claim handled => exact ⟨claim, rfl⟩
  | _ => cases h

theorem holds_of_entered (h : Sound P calls c) (he : Entered c.history i) :
    ∃ claim, (phaseAt (fun i => .fresh ((calls i).expected P)) c.history i).Holds claim := by
  obtain ⟨exchange, hx, he⟩ := he
  exact holds_of_handled (handled_of_entry h.lawful (fun _ => rfl) hx he)

variable {outcome : InternalExecutionOutcome}

/-- A returned outcome is the call's own settled one or the replayed one. -/
theorem returns (h : Sound P calls c) (hr : Received c i outcome) :
    (phaseAt (fun i => .fresh ((calls i).expected P)) c.history i).Returns outcome :=
  h.monitored i _ hr

private theorem key_of_expected {call : Call} {k : ExecutionReplayKey} {d : ContentDigest}
    (h : call.expected P = some (k, d)) : call.key P = some k := by
  simp [Call.key, h]

section
variable (h : Sound P calls c)
include h

theorem entered_unique (hi : Entered c.history i) (hj : Entered c.history j)
    (hik : (calls i).key P = some key) (hjk : (calls j).key P = some key) : i = j := by
  obtain ⟨claim, hci⟩ := h.holds_of_entered hi
  obtain ⟨other, hcj⟩ := h.holds_of_entered hj
  have hclaim := key_of_expected (h.coherent.held i claim hci).1
  have hother := key_of_expected (h.coherent.held j other hcj).1
  refine h.coherent.unique i j claim other hci hcj ?_
  exact some.inj ((hclaim.symm.trans hik).trans (hjk.symm.trans hother))

theorem entries_le_one (key : ExecutionReplayKey) : entries P calls key c.history ≤ 1 := by
  rcases Nat.eq_zero_or_pos (entries P calls key c.history) with hzero | hpos
  · omega
  · obtain ⟨⟨i, exchange⟩, hx, he⟩ := countP_pos_iff.mp hpos
    simp only [and_eq_true, decide_eq_true_eq] at he
    -- All entries under the key are this caller's, and a caller enters once.
    calc entries P calls key c.history
        ≤ c.history.countP (fun x => decide (x.1 = i) && isEntry x.2) := by
          refine countP_mono_left fun x hx' hx'' => ?_
          simp only [and_eq_true, decide_eq_true_eq] at hx'' ⊢
          exact ⟨h.entered_unique ⟨x.2, hx', hx''.1⟩ ⟨exchange, hx, he.1⟩ hx''.2 he.2, hx''.1⟩
      _ = _ := count_entries h.lawful (fun _ => rfl) i
      _ ≤ 1 := toNat_le _

theorem digest_of_active (ha : Entered c.history i ∨ ∃ outcome, Received c i outcome) :
    ∃ slot, (calls i).expected P = some (slot.claim.key, slot.claim.inputDigest) ∧
      c.state slot.claim.key = some slot := by
  have hheld {claim : ExecutionReplayClaim}
      (hc : (phaseAt (fun i => .fresh ((calls i).expected P)) c.history i).Holds claim) :
      ∃ slot, (calls i).expected P = some (slot.claim.key, slot.claim.inputDigest) ∧
        c.state slot.claim.key = some slot := by
    obtain ⟨he, slot, hs, rfl⟩ := h.coherent.held i claim hc
    exact ⟨slot, he, hs⟩
  rcases ha with he | ⟨outcome, hr⟩
  · obtain ⟨claim, hc⟩ := h.holds_of_entered he
    exact hheld hc
  · have hret := h.returns hr
    cases hp : phaseAt (fun i => .fresh ((calls i).expected P)) c.history i with
    | settled claim handled => exact hheld (show ReplayPhase.Holds _ claim by rw [hp]; rfl)
    | replayed claim outcome' =>
      obtain ⟨he, first, output, hs, hd, -⟩ := h.coherent.replayed i claim outcome' hp
      have hk := (h.recorded.claimed _ _ hs).1
      refine ⟨.completed first output outcome'.proof, ?_, ?_⟩
      · rw [he, ← hd, hk]
        rfl
      · rw [hk]
        exact hs
    | _ => rw [hp] at hret; exact absurd hret id

theorem completion_unique {claim claim' : ExecutionReplayClaim}
    {context context' : ExecutionContext} {outcome outcome' : ExecutionOutcome} {reply reply' : Except String Unit}
    (hx : (i, (⟨.completeExecutionReplay claim context outcome, reply⟩ : EngineExchange)) ∈ c.history)
    (hx' : (j, (⟨.completeExecutionReplay claim' context' outcome', reply'⟩ : EngineExchange)) ∈ c.history)
    (hk : claim.key = claim'.key) : i = j ∧ outcome = outcome' := by
  have hij : i = j := by
    refine h.coherent.unique i j claim claim' ?_ ?_ hk
    · rw [settled_of_complete h.lawful hx]; rfl
    · rw [settled_of_complete h.lawful hx']; rfl
  subst hij
  exact ⟨rfl, complete_unique h.lawful hx hx'⟩

/-- An outcome returned without entering the handler is that of the completion under the key. -/
theorem replays_completion (hr : Received c i outcome) (hn : ¬ Entered c.history i) (hk : (calls i).key P = some key) :
    ∃ j claim context completed reply output,
      (j, (⟨.completeExecutionReplay claim context completed, reply⟩ : EngineExchange)) ∈ c.history ∧
      claim.key = key ∧ outcome.proof = some completed.proof ∧
      P.canonicalize completed.output = .ok output ∧ P.canonicalize outcome.output = .ok output := by
  have hret := h.returns hr
  cases hp : phaseAt (fun i => .fresh ((calls i).expected P)) c.history i with
  | settled claim handled =>
    rw [hp] at hret
    -- A settled call that returns normally has been through its handler.
    have hhandled : (phaseAt (fun i => .fresh ((calls i).expected P)) c.history i).handled = true := by
      rw [hp]
      cases handled with
      | true => rfl
      | false => exact absurd hret id
    have hcount := count_entries h.lawful (fun _ => rfl) i
    rw [hhandled] at hcount
    obtain ⟨x, hx, he⟩ := countP_pos_iff.mp (show 0 < _ by rw [hcount]; decide)
    simp only [and_eq_true, decide_eq_true_eq] at he
    exact absurd ⟨x.2, he.1 ▸ hx, he.2⟩ hn
  | replayed claim replay =>
    rw [hp] at hret
    obtain rfl : outcome = _ := hret
    obtain ⟨he, first, output, hs, -, hout⟩ := h.coherent.replayed i claim replay hp
    obtain ⟨j, context, completed, reply, hx, hcanon, hproof⟩ := h.recorded.completed _ _ _ _ hs
    have hclaim : claim.key = key := some.inj ((key_of_expected he).symm.trans hk)
    have hfirst : first.key = claim.key := (h.recorded.claimed _ _ hs).1
    exact ⟨j, first, context, completed, reply, output, hx, hfirst.trans hclaim, by rw [hproof], hcanon, hout⟩
  | _ => rw [hp] at hret; exact absurd hret id

end

end Sound

/-- The key is taken and every call that could still enter its handler is gone. -/
def Blocked (P : Primitives) (calls : ι → Call) (key : ExecutionReplayKey) (c : DirectConfig Ledger ι) : Prop :=
  (∃ slot, c.state key = some slot) ∧ ∀ i claim,
    phaseAt (fun i => .fresh ((calls i).expected P)) c.history i = .ready claim → claim.key = key → c.Idle i

theorem LedgerServes.keeps_slot {L L' : Ledger} {request : EngineRequest} {reply : request.Answer}
    (hs : LedgerServes P L request reply L') {slot : Slot} (hk : L key = some slot) :
    ∃ slot', L' key = some slot' := by
  have hupdate (k : ExecutionReplayKey) (s : Slot) : ∃ slot', Function.update L k (some s) key = some slot' := by
    by_cases hkk : key = k
    · exact ⟨s, by simp [hkk]⟩
    · exact ⟨slot, by rw [Function.update_of_ne hkk]; exact hk⟩
  cases hs with
  | acquire | complete | fail => exact hupdate _ _
  | _ => exact ⟨slot, hk⟩

theorem Blocked.step {c' : DirectConfig Ledger ι} (hs : Step (LedgerServes P) c c')
    (h : Sound P calls c) (hb : Blocked P calls key c) :
    Blocked P calls key c' ∧ entries P calls key c'.history = entries P calls key c.history := by
  obtain ⟨⟨slot, hslot⟩, hready⟩ := hb
  cases hs with
  | crash i =>
    refine ⟨⟨⟨slot, hslot⟩, fun j claim hp hk => ?_⟩, rfl⟩
    exact (Step.crash i : Step (LedgerServes P) c _).idle (hready j claim hp hk)
  | @answer i request next reply state hi hserve =>
    have ha := (h.monitored i _ hi).1
    have hbusy : ¬ c.Idle i := by
      rintro (hd | ⟨_, hd⟩) <;> rw [hi] at hd <;> cases hd
    refine ⟨⟨hserve.keeps_slot hslot, fun j claim hp hk => ?_⟩, ?_⟩
    · refine (Step.answer hi hserve).idle ?_
      by_cases hij : i = j
      · subst hij
        rw [phaseAt, phaseOf_self] at hp
        rcases ready_next ha hp with hp | he
        · exact hready i claim hp hk
        · -- A key that is taken is not granted again.
          obtain ⟨rfl, he⟩ := Sigma.mk.inj he
          obtain rfl := eq_of_heq he
          cases hserve with
          | acquire _ hnone =>
            rw [hk, hslot] at hnone
            cases hnone
          | refuse hacq _ => exact absurd rfl hacq
      · rw [phaseAt, phaseOf_other hij] at hp
        exact hready j claim hp hk
    · rw [entries, countP_cons_of_neg]
      · rfl
      · intro he
        simp only [and_eq_true, decide_eq_true_eq] at he
        cases request with
        | executeVersioned =>
          -- An entry is made by a call that holds the key in the ready phase.
          obtain ⟨claim, hp⟩ : ∃ claim, phaseAt (fun i => .fresh ((calls i).expected P)) c.history i = .ready claim :=
            allows_handler ha
          have hexpected := (h.coherent.held i claim (by rw [hp]; rfl)).1
          have hkey : claim.key = key := by
            have := he.2
            simp only [Call.key, hexpected, map_some] at this
            exact some.inj this
          exact hbusy (hready i claim hp hkey)
        | _ => simp [isEntry] at he

theorem Blocked.reaches {c' : DirectConfig Ledger ι} (h : Sound P calls c)
    (hb : Blocked P calls key c) (hr : Reaches (LedgerServes P) c c') :
    entries P calls key c'.history = entries P calls key c.history := by
  have hall : Sound P calls c' ∧ Blocked P calls key c' ∧
      entries P calls key c'.history = entries P calls key c.history := by
    refine hr.invariant (P := fun d => Sound P calls d ∧ Blocked P calls key d ∧
      entries P calls key d.history = entries P calls key c.history) ⟨h, hb, rfl⟩ ?_
    rintro a b hs ⟨ha, hba, hea⟩
    have hstep := hba.step hs ha
    exact ⟨ha.step hs, hstep.1, hstep.2.trans hea⟩
  exact hall.2.2

theorem Sound.blocked_of_failed (h : Sound P calls c)
    {claim : ExecutionReplayClaim} (hf : c.state key = some (.failed claim)) : Blocked P calls key c := by
  refine ⟨⟨_, hf⟩, fun i other hp hk => ?_⟩
  have hopen := h.coherent.openClaim i other (by rw [hp]; rfl)
  rw [hk, hf] at hopen
  cases hopen

/-- A key whose acquirer is gone is blocked, whether or not its claim was ever settled. -/
theorem Sound.blocked_of_left (h : Sound P calls c) {slot : Slot} (hs : c.state key = some slot)
    (hleft : ∀ i claim, (i, (⟨.claimExecutionReplay claim, .ok .acquired⟩ : EngineExchange)) ∈ c.history →
      claim.key = key → c.Idle i) : Blocked P calls key c := by
  refine ⟨⟨slot, hs⟩, fun i claim hp hk => hleft i claim ?_ hk⟩
  exact acquired_of_holds h.lawful (fun _ _ => id) (by rw [hp]; rfl)

end
end ProofPlatform.Executor
