import ProofPlatform.Executor.Authority

/-! The claim protocol of an exact-replay call: claim before the handler, enter it once, settle the claim once, and
return only what was settled or replayed. -/
namespace ProofPlatform.Executor
open Kernel Library.Interaction Library.Fallible Procedure ExecutionEngine

/-- Where one call stands with its claim. -/
inductive ReplayPhase where
  /-- Nothing claimed yet; the call can only claim what its input fixes. -/
  | fresh (expected : Option (ExecutionReplayKey × ContentDigest))
  /-- The claim is acquired and the handler not called. -/
  | ready (claim : ExecutionReplayClaim)
  /-- The handler has been called under the claim. -/
  | entered (claim : ExecutionReplayClaim)
  /-- Completion or failure was requested, after the handler or without it. -/
  | settled (claim : ExecutionReplayClaim) (handled : Bool)
  /-- The store answered with a completed outcome. -/
  | replayed (claim : ExecutionReplayClaim) (outcome : ExecutionOutcome)
  /-- The store did not grant the claim. -/
  | refused

namespace ReplayPhase

def Allows : ReplayPhase → EngineRequest → Prop
  | .fresh expected, .claimExecutionReplay claim => expected = some (claim.key, claim.inputDigest)
  | .fresh _, .loadDelegation _ => True
  | .fresh _, .nowV7 => True
  | .ready _, .latestProofForOperation _ _ => True
  | .ready _, .executeVersioned _ _ _ _ => True
  | .ready claim, .failExecutionReplay failed _ _ => failed = claim
  | .entered _, .nowV7 => True
  | .entered claim, .completeExecutionReplay completed _ _ => completed = claim
  | .entered claim, .failExecutionReplay failed _ _ => failed = claim
  | _, _ => False

def next : ReplayPhase → (request : EngineRequest) → request.Answer → ReplayPhase
  | .fresh _, .claimExecutionReplay claim, .ok .acquired => .ready claim
  | .fresh _, .claimExecutionReplay claim, .ok (.completed outcome) => .replayed claim outcome
  | .fresh _, .claimExecutionReplay _, _ => .refused
  | .ready claim, .executeVersioned _ _ _ _, _ => .entered claim
  | .ready claim, .failExecutionReplay _ _ _, _ => .settled claim false
  | .entered claim, .completeExecutionReplay _ _ _, _ => .settled claim true
  | .entered claim, .failExecutionReplay _ _ _, _ => .settled claim true
  | phase, _, _ => phase

/-- A normal return is either the call's own settled outcome or the replayed one. -/
def Returns : ReplayPhase → InternalExecutionOutcome → Prop
  | .settled _ true, _ => True
  | .replayed _ outcome, returned => returned = ⟨outcome.output, some outcome.proof⟩
  | _, _ => False

end ReplayPhase

abbrev replayMonitor : Monitor engineInterface where
  Phase := ReplayPhase
  allows := ReplayPhase.Allows
  relies _ _ _ := True
  next := ReplayPhase.next

/-- The key and digest that a call's input fixes, when it has a valid key and a
canonical form. -/
def expectedClaim (P : Primitives) (operation version : String) (input : Json) :
    Option (ExecutionReplayKey × ContentDigest) :=
  match ExecutionEngine.idempotencyKey P input, P.canonicalize input with
  | .ok key, .ok canonical => some (⟨operation, version, key⟩, P.digest .operationInput canonical)
  | _, _ => none

section
variable {P : Primitives} {engine : ExecutionEngine} {operation version : String} {input output : Json}
  {context : ExecutionContext} {claim : ExecutionReplayClaim} {entry : RegistryEntry}

private theorem failAcquiredClaim_obeys {α : Type} {phase : ReplayPhase} {post : ReplayPhase → α → Prop}
    {failedAt : Instant} {error : ExecutionError}
    (ha : ∀ text, phase.Allows (.failExecutionReplay claim failedAt text)) :
    Procedure.Obeys replayMonitor post (fun _ _ => True) phase
      (failAcquiredClaim (some claim) failedAt error) := by
  simp only [failAcquiredClaim, obeys_bind]
  refine obeys_call.mpr ⟨ha _, ?_⟩
  rintro (_ | _) _ <;> trivial

private theorem checkBenchmark_obeys :
    Procedure.Obeys replayMonitor (fun phase _ => phase = .ready claim) (fun _ _ => True) (.ready claim)
      (engine.checkBenchmark entry operation version context (some claim)) := by
  unfold checkBenchmark
  split
  · rw [obeys_bind]
    refine obeys_call.mpr ⟨trivial, ?_⟩
    rintro (_ | _ | proof) _
    · exact failAcquiredClaim_obeys fun _ => rfl
    · exact rfl
    · dsimp only
      split
      · exact failAcquiredClaim_obeys fun _ => rfl
      · exact rfl
  · exact rfl

private theorem prove_obeys :
    Procedure.Obeys replayMonitor (fun phase _ => phase = .entered claim) (fun _ _ => True) (.entered claim)
      (engine.prove P operation version input output context (some claim)) := by
  unfold prove
  rw [obeys_bind]
  refine obeys_call.mpr ⟨trivial, ?_⟩
  intro id _
  dsimp only
  split
  · exact rfl
  · exact failAcquiredClaim_obeys fun _ => rfl

/-- With its claim in hand a call enters the handler once and settles the claim once. -/
theorem executeClaimed_obeys {evidenceRequired : Bool} :
    Procedure.Obeys replayMonitor ReplayPhase.Returns (fun _ _ => True) (.ready claim)
      (engine.executeClaimed P entry operation version input context evidenceRequired (some claim)) := by
  unfold executeClaimed
  refine checkBenchmark_obeys.bind fun phase _ hphase => ?_
  subst hphase
  rw [obeys_bind]
  refine obeys_call.mpr ⟨trivial, ?_⟩
  rintro (error | output) _
  · exact failAcquiredClaim_obeys fun _ => rfl
  refine prove_obeys.bind fun phase proof hphase => ?_
  subst hphase
  rw [obeys_bind, storageCall_obeys]
  refine obeys_call.mpr ⟨rfl, ?_⟩
  intro _ _ _ _
  exact trivial

private theorem checkDelegation_fresh {expected : Option (ExecutionReplayKey × ContentDigest)} :
    Procedure.Obeys replayMonitor (fun phase _ => phase = .fresh expected) (fun _ _ => True) (.fresh expected)
      (engine.checkDelegation entry operation context) := by
  unfold checkDelegation
  split
  · unfold enforceDelegation
    simp only [obeys_bind, obeys_ofExcept, implies_true, and_true]
    intro chain _ _ _
    split
    · simp only [obeys_bind, storageCall_obeys, obeys_ofExcept, obeys_pure, implies_true, and_true]
      refine obeys_call.mpr ⟨trivial, ?_⟩
      intros
      rfl
    · simp
  · simp
  · exact rfl

private theorem executionReplayClaim_obeys :
    Procedure.Obeys replayMonitor
      (fun phase claim => phase = .fresh (expectedClaim P operation version input) ∧
        expectedClaim P operation version input = some (claim.key, claim.inputDigest))
      (fun _ _ => True) (.fresh (expectedClaim P operation version input))
      (executionReplayClaim P operation version input context) := by
  unfold executionReplayClaim
  simp only [obeys_bind, obeys_ofExcept, implies_true, and_true, mapError_eq_ok]
  intro key hkey canonical hcanonical
  refine obeys_call.mpr ⟨trivial, ?_⟩
  intro token _
  refine ⟨rfl, ?_⟩
  simp [expectedClaim, hkey, hcanonical]

/-- A call of an exact-replay handler follows the claim protocol from start to return. -/
theorem executeInner_follows (approval : Option (ApprovalGrant × Principal)) (evidenceRequired : Bool)
    (hpolicy : ∀ handler, engine.handlers operation = some handler →
      handler.idempotencyPolicyFor version = .requiredUuidV7ExactReplay) :
    Procedure.Obeys replayMonitor ReplayPhase.Returns (fun _ _ => True)
      (.fresh (expectedClaim P operation version input))
      (engine.executeInner P operation version input context approval evidenceRequired) := by
  unfold executeInner
  simp only [obeys_bind, obeys_ofExcept, orReject_eq_ok, implies_true, and_true]
  intro entry _ _ _ _ _
  refine checkDelegation_fresh.mono fun phase _ hphase => ?_
  subst hphase
  intro handler hhandler
  rw [hpolicy handler hhandler]
  simp only [obeys_bind]
  refine executionReplayClaim_obeys.mono fun phase claim hclaim => ?_
  obtain ⟨rfl, hexpected⟩ := hclaim
  simp only [obeys_ofExcept, implies_true, and_true, storageCall_obeys]
  intro _ _
  refine obeys_call.mpr ⟨hexpected, ?_⟩
  -- One case per answer of the store to the claim.
  rintro _ _ result rfl
  cases result with
  | acquired => exact executeClaimed_obeys
  | completed outcome =>
    simp only [obeys_bind, obeys_ofExcept, obeys_pure, implies_true, and_true]
    intro _ _
    rfl
  | conflict | inProgress | failed | unsupported => trivial

end
end ProofPlatform.Executor
