import ProofPlatform.Executor.ReplayProtocol
import ProofPlatform.Library.SharedState

/-! The exact-replay ledger: one slot per key, claimed once, then completed or failed for good. -/
namespace ProofPlatform.Executor
open Kernel Library.Interaction ReplayPhase Function

/-- The durable state of one key. A completion keeps the canonical output and the proof. -/
inductive Slot where
  | claimed (claim : ExecutionReplayClaim)
  | completed (claim : ExecutionReplayClaim) (output : CanonicalJson) (proof : Proof)
  | failed (claim : ExecutionReplayClaim)

def Slot.claim : Slot → ExecutionReplayClaim
  | .claimed claim => claim
  | .completed claim _ _ => claim
  | .failed claim => claim

abbrev Ledger := ExecutionReplayKey → Option Slot

/-- What the ledger may answer and how it moves, also when its acknowledgement is lost. -/
inductive LedgerServes (P : Primitives) : Service engineInterface Ledger
  | acquire {L : Ledger} {claim : ExecutionReplayClaim} (reply : Except String ExecutionReplayClaimResult) :
      L claim.key = none → (∀ result, reply = .ok result → result = .acquired) →
      LedgerServes P L (.claimExecutionReplay claim) reply (update L claim.key (some (.claimed claim)))
  | replay {L : Ledger} {claim first : ExecutionReplayClaim} {output : CanonicalJson}
      {outcome : ExecutionOutcome} :
      L claim.key = some (.completed first output outcome.proof) → first.inputDigest = claim.inputDigest →
      P.canonicalize outcome.output = .ok output →
      LedgerServes P L (.claimExecutionReplay claim) (.ok (.completed outcome)) L
  | refuse {L : Ledger} {claim : ExecutionReplayClaim} {reply : Except String ExecutionReplayClaimResult} :
      reply ≠ .ok .acquired → (∀ outcome, reply ≠ .ok (.completed outcome)) →
      LedgerServes P L (.claimExecutionReplay claim) reply L
  | complete {L : Ledger} {claim first : ExecutionReplayClaim} {context : ExecutionContext}
      {outcome : ExecutionOutcome} {output : CanonicalJson} (reply : Except String Unit) :
      L claim.key = some (.claimed first) → P.canonicalize outcome.output = .ok output →
      LedgerServes P L (.completeExecutionReplay claim context outcome) reply
        (update L claim.key (some (.completed first output outcome.proof)))
  | keepCompletion {L : Ledger} {claim : ExecutionReplayClaim} {context : ExecutionContext}
      {outcome : ExecutionOutcome} (reply : Except String Unit) :
      LedgerServes P L (.completeExecutionReplay claim context outcome) reply L
  | fail {L : Ledger} {claim first : ExecutionReplayClaim} {failedAt : Instant} {failure : String}
      (reply : Except String Unit) : L claim.key = some (.claimed first) →
      LedgerServes P L (.failExecutionReplay claim failedAt failure) reply
        (update L claim.key (some (.failed first)))
  | keepFailure {L : Ledger} {claim : ExecutionReplayClaim} {failedAt : Instant} {failure : String}
      (reply : Except String Unit) : LedgerServes P L (.failExecutionReplay claim failedAt failure) reply L
  | handler {L : Ledger} {operation version : String} {input : Json} {context : ExecutionContext}
      (reply : Except ExecutionError Json) :
      LedgerServes P L (.executeVersioned operation version input context) reply L
  | loadDelegation {L : Ledger} {id : Uuid} (reply : Except String (Option Delegation)) :
      LedgerServes P L (.loadDelegation id) reply L
  | latestProof {L : Ledger} {operation version : String} (reply : Except String (Option Proof)) :
      LedgerServes P L (.latestProofForOperation operation version) reply L
  | saveContext {L : Ledger} {context : ExecutionContext} (reply : Except String String) :
      LedgerServes P L (.saveExecutionContext context) reply L
  | saveProof {L : Ledger} {proof : Proof} (reply : Except String Unit) : LedgerServes P L (.saveProof proof) reply L
  | nowV7 {L : Ledger} (reply : Uuid) : LedgerServes P L .nowV7 reply L

/-- The claim a call holds from the moment it acquired it. -/
def ReplayPhase.Holds : ReplayPhase → ExecutionReplayClaim → Prop
  | .ready claim, held => claim = held
  | .entered claim, held => claim = held
  | .settled claim _, held => claim = held
  | _, _ => False

/-- The claim is held and not settled yet. -/
def ReplayPhase.Open : ReplayPhase → ExecutionReplayClaim → Prop
  | .ready claim, held => claim = held
  | .entered claim, held => claim = held
  | _, _ => False

/-- A key has at most one holder, an open claim is the ledger's, a replayed outcome the completed one. -/
structure Coherent (P : Primitives) {ι : Type} (expected : ι → Option (ExecutionReplayKey × ContentDigest))
    (L : Ledger) (phase : ι → ReplayPhase) : Prop where
  fixed : ∀ i e, phase i = .fresh e → e = expected i
  held : ∀ i claim, (phase i).Holds claim →
    expected i = some (claim.key, claim.inputDigest) ∧ ∃ slot, L claim.key = some slot ∧ slot.claim = claim
  unique : ∀ i j claim other, (phase i).Holds claim → (phase j).Holds other → claim.key = other.key → i = j
  openClaim : ∀ i claim, (phase i).Open claim → L claim.key = some (.claimed claim)
  replayed : ∀ i claim outcome, phase i = .replayed claim outcome →
    expected i = some (claim.key, claim.inputDigest) ∧ ∃ first output,
      L claim.key = some (.completed first output outcome.proof) ∧ first.inputDigest = claim.inputDigest ∧
      P.canonicalize outcome.output = .ok output

variable {claim : ExecutionReplayClaim}

theorem ReplayPhase.Open.holds {phase : ReplayPhase} (h : phase.Open claim) : phase.Holds claim := by
  cases phase <;> first | exact h | exact absurd h id

namespace ReplayPhase
variable {phase : ReplayPhase} {claim : ExecutionReplayClaim}

theorem allows_claim (h : phase.Allows (.claimExecutionReplay claim)) :
    phase = .fresh (some (claim.key, claim.inputDigest)) := by
  cases phase <;> simp_all [Allows]

variable {context : ExecutionContext}

theorem allows_complete {outcome : ExecutionOutcome}
    (h : phase.Allows (.completeExecutionReplay claim context outcome)) : phase = .entered claim := by
  cases phase <;> simp_all [Allows]

theorem allows_fail {failedAt : Instant} {failure : String}
    (h : phase.Allows (.failExecutionReplay claim failedAt failure)) :
    phase = .ready claim ∨ phase = .entered claim := by
  cases phase <;> simp_all [Allows]

theorem allows_handler {operation version : String} {input : Json}
    (h : phase.Allows (.executeVersioned operation version input context)) : ∃ claim, phase = .ready claim := by
  cases phase <;> simp_all [Allows]

end ReplayPhase

namespace Coherent
variable {P : Primitives} {ι : Type} [DecidableEq ι]
  {expected : ι → Option (ExecutionReplayKey × ContentDigest)} {L : Ledger} {phase : ι → ReplayPhase}
variable (h : Coherent P expected L phase)
include h

/-- A caller moves on without gaining a claim. -/
theorem movePhase (i : ι) (p : ReplayPhase) (hfresh : ∀ e, p = .fresh e → e = expected i)
    (hholds : ∀ claim, p.Holds claim → (phase i).Holds claim) (hopen : ∀ claim, p.Open claim → (phase i).Open claim)
    (hreplay : ∀ claim outcome, p = .replayed claim outcome →
      expected i = some (claim.key, claim.inputDigest) ∧ ∃ first output,
        L claim.key = some (.completed first output outcome.proof) ∧ first.inputDigest = claim.inputDigest ∧
        P.canonicalize outcome.output = .ok output) :
    Coherent P expected L (update phase i p) := by
  have hold (j : ι) (claim : ExecutionReplayClaim) (hj : (update phase i p j).Holds claim) : (phase j).Holds claim := by
    by_cases hji : j = i
    · subst hji
      exact hholds claim (by simpa using hj)
    · simpa [update_of_ne hji] using hj
  constructor
  · intro j e hj
    by_cases hji : j = i
    · subst hji
      exact hfresh e (by simpa using hj)
    · exact h.fixed j e (by simpa [update_of_ne hji] using hj)
  · exact fun j claim hj => h.held j claim (hold j claim hj)
  · exact fun j k claim other hj hk => h.unique j k claim other (hold j claim hj) (hold k other hk)
  · intro j claim hj
    by_cases hji : j = i
    · subst hji
      exact h.openClaim j claim (hopen claim (by simpa using hj))
    · exact h.openClaim j claim (by simpa [update_of_ne hji] using hj)
  · intro j claim outcome hj
    by_cases hji : j = i
    · subst hji
      exact hreplay claim outcome (by simpa using hj)
    · exact h.replayed j claim outcome (by simpa [update_of_ne hji] using hj)

omit [DecidableEq ι] in
/-- An empty key has no holder, so filling it disturbs nobody. -/
theorem insert {key : ExecutionReplayKey} (hkey : L key = none) (slot : Slot) :
    Coherent P expected (update L key (some slot)) phase := by
  have hne {k : ExecutionReplayKey} {s : Slot} (hk : L k = some s) : k ≠ key := by
    rintro rfl
    rw [hkey] at hk
    cases hk
  constructor
  · exact h.fixed
  · intro i claim hi
    obtain ⟨he, s, hs, hc⟩ := h.held i claim hi
    exact ⟨he, s, by rw [update_of_ne (hne hs)]; exact hs, hc⟩
  · exact h.unique
  · intro i claim hi
    have hs := h.openClaim i claim hi
    rw [update_of_ne (hne hs)]
    exact hs
  · intro i claim outcome hi
    obtain ⟨he, first, output, hs, hrest⟩ := h.replayed i claim outcome hi
    exact ⟨he, first, output, by rw [update_of_ne (hne hs)]; exact hs, hrest⟩

omit [DecidableEq ι] in
/-- A claimed key nobody holds open may be completed or failed. -/
theorem replace {key : ExecutionReplayKey} {first : ExecutionReplayClaim} (hkey : L key = some (.claimed first))
    (hopen : ∀ i claim, (phase i).Open claim → claim.key ≠ key) {slot : Slot} (hslot : slot.claim = first) :
    Coherent P expected (update L key (some slot)) phase := by
  constructor
  · exact h.fixed
  · intro i claim hi
    obtain ⟨he, s, hs, hc⟩ := h.held i claim hi
    refine ⟨he, ?_⟩
    by_cases hk : claim.key = key
    · rw [hk, hkey] at hs
      obtain rfl := Option.some.inj hs
      exact ⟨slot, by simp [hk], hslot.trans hc⟩
    · exact ⟨s, by rw [update_of_ne hk]; exact hs, hc⟩
  · exact h.unique
  · intro i claim hi
    rw [update_of_ne (hopen i claim hi)]
    exact h.openClaim i claim hi
  · intro i claim outcome hi
    obtain ⟨he, other, output, hs, hrest⟩ := h.replayed i claim outcome hi
    have hk : claim.key ≠ key := by
      intro hk
      rw [hk, hkey] at hs
      cases hs
    exact ⟨he, other, output, by rw [update_of_ne hk]; exact hs, hrest⟩

/-- A caller takes a freshly claimed key that nobody else holds. -/
theorem grant {i : ι} (hkey : L claim.key = some (.claimed claim))
    (hfree : ∀ j other, (phase j).Holds other → other.key ≠ claim.key)
    (hexpected : expected i = some (claim.key, claim.inputDigest)) :
    Coherent P expected L (update phase i (.ready claim)) := by
  have hold (j : ι) (other : ExecutionReplayClaim)
      (hj : (update phase i (.ready claim) j).Holds other) :
      (j = i ∧ other = claim) ∨ (phase j).Holds other := by
    by_cases hji : j = i
    · subst hji
      have : claim = other := by simpa [ReplayPhase.Holds] using hj
      exact .inl ⟨rfl, this.symm⟩
    · exact .inr (by simpa [update_of_ne hji] using hj)
  constructor
  · intro j e hj
    by_cases hji : j = i
    · subst hji
      simp at hj
    · exact h.fixed j e (by simpa [update_of_ne hji] using hj)
  · intro j other hj
    rcases hold j other hj with ⟨rfl, rfl⟩ | hj
    · exact ⟨hexpected, _, hkey, rfl⟩
    · exact h.held j other hj
  · intro j k one other hj hk he
    rcases hold j one hj with ⟨hji, hone⟩ | hone <;> rcases hold k other hk with ⟨hki, hother⟩ | hother
    · exact hji.trans hki.symm
    · exact absurd (he.symm.trans (congrArg _ hone)) (hfree k other hother)
    · exact absurd (he.trans (congrArg _ hother)) (hfree j one hone)
    · exact h.unique j k one other hone hother he
  · intro j other hj
    by_cases hji : j = i
    · subst hji
      have : claim = other := by simpa [ReplayPhase.Open] using hj
      exact this ▸ hkey
    · exact h.openClaim j other (by simpa [update_of_ne hji] using hj)
  · intro j other outcome hj
    by_cases hji : j = i
    · subst hji
      simp at hj
    · exact h.replayed j other outcome (by simpa [update_of_ne hji] using hj)

/-- Settling the claim a caller holds open: its key may change state with it. -/
private theorem settle {i : ι} {handled : Bool} (hopen : (phase i).Open claim) :
    Coherent P expected L (update phase i (.settled claim handled)) ∧ ∀ first slot,
      L claim.key = some (.claimed first) → slot.claim = first →
      Coherent P expected (update L claim.key (some slot))
        (update phase i (.settled claim handled)) := by
  have hmove : Coherent P expected L (update phase i (.settled claim handled)) := by
    refine h.movePhase i _ (fun e he => by cases he) ?_ (fun _ hc => absurd hc id) (fun _ _ he => by cases he)
    rintro _ rfl
    exact hopen.holds
  refine ⟨hmove, fun first slot hkey hslot => hmove.replace hkey ?_ hslot⟩
  intro j other hj he
  have hij : j = i := hmove.unique j i other claim hj.holds (by simp [ReplayPhase.Holds]) he
  subst hij
  simp [ReplayPhase.Open] at hj

/-- One allowed request keeps ledger and callers in agreement. -/
theorem step {i : ι} {request : EngineRequest} {reply : request.Answer}
    {L' : Ledger} (ha : (phase i).Allows request) (hs : LedgerServes P L request reply L') :
    Coherent P expected L' (update phase i ((phase i).next request reply)) := by
  have hstay (hn : (phase i).next request reply = phase i) :
      Coherent P expected L (update phase i ((phase i).next request reply)) := by
    rw [hn, update_eq_self]
    exact h
  have hrefused (K : Ledger) (hK : Coherent P expected K phase) : Coherent P expected K (update phase i .refused) :=
    hK.movePhase i _ (fun e he => by cases he) (fun _ hc => absurd hc id) (fun _ hc => absurd hc id)
      (fun _ _ he => by cases he)
  cases hs with
  | @acquire _ claim reply hkey hreply =>
    have hp := allows_claim ha
    have hexpected := (h.fixed i _ hp).symm
    have hfree (j : ι) (other : ExecutionReplayClaim) (hj : (phase j).Holds other) : other.key ≠ claim.key := by
      intro he
      obtain ⟨_, slot, hs, _⟩ := h.held j other hj
      rw [he, hkey] at hs
      cases hs
    rw [hp]
    cases reply with
    | error message => exact hrefused _ (h.insert hkey _)
    | ok result =>
      obtain rfl := hreply result rfl
      exact (h.insert hkey _).grant (by simp) hfree hexpected
  | @replay _ claim first output outcome hkey hdigest hcanonical =>
    have hp := allows_claim ha
    have hexpected := (h.fixed i _ hp).symm
    rw [hp]
    refine h.movePhase i _ (fun e he => by cases he) (fun _ hc => absurd hc id) (fun _ hc => absurd hc id) ?_
    intro claim' outcome' he
    obtain ⟨rfl, rfl⟩ := replayed.inj he
    exact ⟨hexpected, first, output, hkey, hdigest, hcanonical⟩
  | @refuse _ claim reply hacquired hcompleted =>
    have hp := allows_claim ha
    rw [hp]
    have hn : (fresh (some (claim.key, claim.inputDigest))).next (.claimExecutionReplay claim) reply = .refused := by
      match reply, hacquired, hcompleted with
      | .error _, _, _ => rfl
      | .ok .acquired, h, _ => exact absurd rfl h
      | .ok (.completed outcome), _, h => exact absurd rfl (h outcome)
      | .ok .conflict, _, _ | .ok .inProgress, _, _ | .ok .failed, _, _ | .ok .unsupported, _, _ => rfl
    rw [hn]
    exact hrefused _ h
  | complete reply hkey =>
    have hp := allows_complete ha
    rw [hp]
    exact (h.settle (by rw [hp]; rfl)).2 _ _ hkey rfl
  | keepCompletion =>
    have hp := allows_complete ha
    rw [hp]
    exact (h.settle (by rw [hp]; rfl)).1
  | fail reply hkey =>
    rcases allows_fail ha with hp | hp <;> rw [hp] <;>
      exact (h.settle (by rw [hp]; rfl)).2 _ _ hkey rfl
  | keepFailure =>
    rcases allows_fail ha with hp | hp <;> rw [hp] <;> exact (h.settle (by rw [hp]; rfl)).1
  | handler =>
    obtain ⟨claim, hp⟩ := allows_handler ha
    rw [hp]
    refine h.movePhase i _ (fun e he => by cases he) ?_ ?_ (fun _ _ he => by cases he)
    · intro other ho
      rw [hp]
      exact ho
    · intro other ho
      rw [hp]
      exact ho
  | loadDelegation | latestProof | saveContext | saveProof | nowV7 => exact hstay (by cases hp : phase i <;> rfl)

end Coherent

end ProofPlatform.Executor
