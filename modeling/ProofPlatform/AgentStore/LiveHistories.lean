import ProofPlatform.AgentStore.CompareAndAppend
import ProofPlatform.AgentStore.StoredStarts

/-! Histories of live starts: claims, in whatever order the callers race, and in between the writes that drive the runs
they started. -/
namespace ProofPlatform.AgentStore
open Kernel Executor Library List RecordingAgentRunStore
open Trace (TextFormats)
open Transaction.Tx (Traceless)
open AgentRows (AgentTables Readers WriteAnswer ClaimReadsBack WriteReadsBack claimOnTables agentWrite)

/-- What happens to a store: a claim, or a write that drives a run, with the engine's part. -/
inductive LiveStep where
  | claim (call : ClaimCall)
  | write (write : RunWrite) (engine : Nat → Bool)

def LiveStep.Legal (store : RecordingAgentRunStore) : LiveStep → Prop
  | .claim _ => True
  | .write saved _ => saved.Legal store

/-- A store as those who claim live starts and drive the runs see it. -/
structure LiveStore (σ : Type) where
  /-- The runs, checkpoints, events and claims on record. -/
  view : σ → RecordingAgentRunStore
  consistent : σ → Prop
  claim : σ → ClaimCall → Except String LiveRunStartClaimResult × σ
  /-- The store with the evidence of one more start, and no other change. -/
  withStart : σ → ClaimCall → σ
  /-- The call meets no failure of the engine. -/
  served : ClaimCall → Prop
  write : σ → RunWrite → (Nat → Bool) → Except String WriteAnswer × σ
  /-- The store reads back what the step writes. -/
  readsBack : LiveStep → Prop

section Stores
variable (P : Primitives) (T : TextFormats) (R : Readers) (parseInstant : String → Option Instant)

def recordingLiveStarts : LiveStore RecordingAgentRunStore where
  view := id
  consistent _ := True
  claim store call :=
    match call.inMemory P parseInstant store with
    | .ok (result, store') => (.ok result, store')
    | .error message => (.error message, store)
  withStart := withStart
  served _ := True
  write store write _ :=
    match write.inMemory P store with
    | .ok (answer, store') => (.ok answer, store')
    | .error message => (.error message, store)
  readsBack _ := True

def sqliteLiveStarts : LiveStore AgentTables where
  view := AgentTables.view R
  consistent := AgentTables.ReadsBack T R
  claim t call :=
    let out := claimOnTables P T R parseInstant call call.engine t 0
    (out.result.mapError StorageError.message, out.state)
  withStart := AgentTables.withStart T
  served call := ∀ n, call.engine n = true
  write t write engine :=
    let out := (agentWrite write).perform P T R parseInstant engine t 0
    (out.result.mapError StorageError.message, out.state)
  readsBack
    | .claim call => ClaimReadsBack T R call
    | .write write _ => WriteReadsBack T R write

end Stores

variable (P : Primitives) (parseInstant : String → Option Instant)

section Histories
variable {σ : Type}

namespace LiveStore
variable (S : LiveStore σ)

def next (s : σ) : LiveStep → σ
  | .claim call => (S.claim s call).2
  | .write write engine => (S.write s write engine).2

/-- The answers to the claims among the steps. -/
def answers : σ → List LiveStep → List (ClaimCall × Except String LiveRunStartClaimResult)
  | _, [] => []
  | s, .claim call :: steps => (call, (S.claim s call).1) :: answers (S.next s (.claim call)) steps
  | s, step :: steps => answers (S.next s step) steps

/-- What the writes among the steps return, if they are accepted. -/
def accepted : σ → List LiveStep → List (Option WriteAnswer)
  | _, [] => []
  | s, .write write engine :: steps =>
    (S.write s write engine).1.toOption :: accepted (S.next s (.write write engine)) steps
  | s, step :: steps => accepted (S.next s step) steps

/-- Every write among the steps is legal where it comes. -/
def Legal : σ → List LiveStep → Prop
  | _, [] => True
  | s, step :: steps => step.Legal (S.view s) ∧ Legal (S.next s step) steps

end LiveStore

/-- The two claims name the same readiness and the same setup. -/
def ClaimCall.SamePair (call call' : ClaimCall) : Prop :=
  call.claim.readinessBindingDigest = call'.claim.readinessBindingDigest ∧
    call.claim.setupDigest = call'.claim.setupDigest

/-- The claim on record has exactly one digest in common with the claim of the call. -/
def RecordingLiveRunStartClaim.SharesOne (start : RecordingLiveRunStartClaim) (claim : LiveRunStartClaim) : Prop :=
  ¬ (start.claim.readinessBindingDigest = claim.readinessBindingDigest ↔ start.claim.setupDigest = claim.setupDigest)

/-- What holds of a history with these answers that ends in this store. -/
structure LiveStartLaws (S : LiveStore σ) (answers : List (ClaimCall × Except String LiveRunStartClaimResult)) (s : σ) :
    Prop where
  readiness : ((S.view s).liveStartClaims.map fun start => start.claim.readinessBindingDigest).Nodup
  setup : ((S.view s).liveStartClaims.map fun start => start.claim.setupDigest).Nodup
  /-- A pair of digests is acquired once; later calls with a valid bundle get the run of that call. -/
  once : answers.Pairwise fun earlier later => earlier.2 = .ok .acquired → earlier.1.SamePair later.1 →
    later.2 ≠ .ok .acquired ∧
      (later.1.Valid P parseInstant → S.served later.1 → later.2 = .ok (.existing earlier.1.run.id))
  conflict : ∀ call, call.Valid P parseInstant → S.served call → ∀ start ∈ (S.view s).liveStartClaims,
    start.SharesOne call.claim → (S.claim s call).1 = .ok .conflict
  unchanged : ∀ call, (S.claim s call).1 ≠ .ok .acquired → (S.claim s call).2 = s
  /-- A claim acquired adds its bundle, which is valid, and nothing else. -/
  acquired : ∀ call, (S.claim s call).1 = .ok .acquired → (S.claim s call).2 = S.withStart s call ∧
    (S.readsBack (.claim call) → S.view (S.withStart s call) = (S.view s).withStart call) ∧ call.Valid P parseInstant ∧
    call.checkpoint.sequence = 0 ∧ call.event.sequence = 0 ∧ call.event.kind = .started

/-- The store refuses, or answers as its view does. -/
structure LiveFollows (S : LiveStore σ) : Prop where
  claims : ∀ {s : σ}, Sound P parseInstant (S.view s) → S.consistent s → ∀ call,
    (∃ message, S.claim s call = (.error message, s) ∧
      (S.served call → (call.inMemory P parseInstant (S.view s)).toOption = none)) ∨
    ∃ result store', call.inMemory P parseInstant (S.view s) = .ok (result, store') ∧
      S.claim s call = (.ok result, if result = .acquired then S.withStart s call else s)
  withStart : ∀ {s call}, S.readsBack (.claim call) → call.Valid P parseInstant → S.consistent s →
    S.view (S.withStart s call) = (S.view s).withStart call ∧ S.consistent (S.withStart s call)
  writes : ∀ {s write} engine, Sound P parseInstant (S.view s) → S.consistent s → write.Legal (S.view s) →
    S.readsBack (.write write engine) → (∃ message, S.write s write engine = (.error message, s)) ∨
      ∃ answer s', S.write s write engine = (.ok answer, s') ∧ Effect (S.view s) write answer (S.view s') ∧
        S.consistent s'

variable {P parseInstant}

theorem recording_live_follows : LiveFollows P parseInstant (recordingLiveStarts P parseInstant) where
  claims {store} h _ call := by
    have h' : Sound P parseInstant store := h
    rcases hout : call.inMemory P parseInstant store with message | ⟨result, store'⟩
    · exact .inl ⟨message, by simp only [recordingLiveStarts, hout], fun _ => congrArg Except.toOption hout⟩
    · refine .inr ⟨result, store', hout, ?_⟩
      rcases h'.claim_cases hout with ⟨hne, rfl⟩ | ⟨rfl, rfl, -⟩
      · simp only [recordingLiveStarts, hout, if_neg hne]
      · simp only [recordingLiveStarts, hout, if_true]
  withStart _ _ _ := ⟨rfl, trivial⟩
  writes {store write} engine h _ _ _ := by
    rcases hout : write.inMemory P store with message | ⟨answer, store'⟩
    · exact .inl ⟨message, by simp only [recordingLiveStarts, hout]⟩
    · exact .inr ⟨answer, store', by simp only [recordingLiveStarts, hout], effect_inMemory h hout, trivial⟩

theorem sqlite_live_follows {T : TextFormats} {R : Readers} :
    LiveFollows P parseInstant (sqliteLiveStarts P T R parseInstant) where
  claims {t} h hback call := by
    have htraceless : Traceless (claimOnTables P T R parseInstant call) := AgentRows.traceless_claimOnTables call
    have hstate := htraceless call.engine t 0
    rcases hout : claimOnTables P T R parseInstant call call.engine t 0 with ⟨e | result, t', n'⟩
    · rw [hout] at hstate
      obtain rfl : t' = t := hstate.resolve_left (by rintro ⟨_, ⟨⟩⟩)
      refine .inl ⟨e.message, by simp only [sqliteLiveStarts, hout]; rfl, fun hserved => ?_⟩
      cases hview : call.inMemory P parseInstant ((sqliteLiveStarts P T R parseInstant).view t') with
      | error message' => rfl
      | ok answer =>
        obtain ⟨n₁, hreturns⟩ := (AgentRows.sqlite_claim hback h hview).returns trivial hserved 0
        rw [Transaction.Tx.Returns, hout] at hreturns
        cases hreturns
    · obtain ⟨⟨result', store'⟩, hview⟩ := AgentRows.sqlite_claim_ok hback h hout
      obtain ⟨rfl, rfl⟩ := (AgentRows.sqlite_claim hback h hview).eq_of_returns hout
      exact .inr ⟨result, store', hview, by simp only [sqliteLiveStarts, hout]; rfl⟩
  withStart hread hvalid hback :=
    ⟨AgentRows.view_withStart hread, hback.withStart hread (by rw [(initial_of_valid hvalid).revision]; decide)⟩
  writes {t write} engine h hback hlegal hread := by
    have htraceless : Traceless ((agentWrite write).perform P T R parseInstant) := AgentRows.traceless_agentWrite write
    have hstate := htraceless engine t 0
    rcases hout : (agentWrite write).perform P T R parseInstant engine t 0 with ⟨e | answer, t', n'⟩
    · rw [hout] at hstate
      obtain rfl : t' = t := hstate.resolve_left (by rintro ⟨_, ⟨⟩⟩)
      exact .inl ⟨e.message, by simp only [sqliteLiveStarts, hout]; rfl⟩
    · exact .inr ⟨answer, t', by simp only [sqliteLiveStarts, hout]; rfl,
        AgentRows.effect_perform hback h hlegal hread hout⟩

namespace LiveFollows
variable {S : LiveStore σ} {s s' : σ} {call : ClaimCall} {steps : List LiveStep}

section Sound
variable (hS : LiveFollows P parseInstant S) (h : Sound P parseInstant (S.view s)) (hc : S.consistent s)
include hS h hc

theorem claim_step (call : ClaimCall) :
    ((S.claim s call).1 ≠ .ok .acquired ∧ (S.claim s call).2 = s) ∨
    (S.claim s call = (.ok .acquired, S.withStart s call) ∧ call.Valid P parseInstant ∧
      (∀ start ∈ (S.view s).liveStartClaims, ¬ start.Shares call.claim) ∧ call.clashes (S.view s) = false) := by
  rcases hS.claims h hc call with ⟨message, heq, -⟩ | ⟨result, store', hview, heq⟩
  · exact .inl (by simp [heq])
  · rcases h.claim_cases hview with ⟨hne, -⟩ | ⟨rfl, -, hnew, hfree⟩
    · exact .inl (by simp [heq, hne])
    · exact .inr ⟨heq, valid_of_ok hview, hnew, hfree⟩

/-- A claim adds a start or nothing; a legal write is progress of the runs, or nothing. -/
theorem sound_next {step : LiveStep} (hlegal : step.Legal (S.view s)) (hread : S.readsBack step) :
    Sound P parseInstant (S.view (S.next s step)) ∧ S.consistent (S.next s step) ∧
      (S.view s).liveStartClaims ⊆ (S.view (S.next s step)).liveStartClaims := by
  cases step with
  | claim call =>
    rw [LiveStore.next]
    rcases hS.claim_step h hc call with ⟨-, heq⟩ | ⟨heq, hvalid, hnew, hfree⟩
    · rw [heq]
      exact ⟨h, hc, List.Subset.refl _⟩
    · obtain ⟨hview, hc'⟩ := hS.withStart hread hvalid hc
      rw [heq, hview]
      exact ⟨h.withStart hvalid hnew hfree, hc', subset_append_left _ _⟩
  | write write engine =>
    rw [LiveStore.next]
    rcases hS.writes engine h hc hlegal hread with ⟨message, heq⟩ | ⟨answer, s', heq, heffect, hc'⟩
    · rw [heq]
      exact ⟨h, hc, List.Subset.refl _⟩
    · have hp := heffect.progresses hlegal h
      rw [heq]
      exact ⟨h.progresses hp, hc', by rw [hp.claims]; exact List.Subset.refl _⟩

variable {start : RecordingLiveRunStartClaim}

/-- A served call that the view answers without a new start gets that answer. -/
theorem answer_of_view {result : LiveRunStartClaimResult} (hserved : S.served call)
    (hview : call.inMemory P parseInstant (S.view s) = .ok (result, S.view s)) : (S.claim s call).1 = .ok result := by
  rcases hS.claims h hc call with ⟨message, -, hnone⟩ | ⟨result', store', hview', heq⟩
  · rw [hview] at hnone
    cases hnone hserved
  · cases hview.symm.trans hview'
    rw [heq]

section
variable (hlegal : S.Legal s steps) (hread : ∀ step ∈ steps, S.readsBack step)
include hlegal hread

theorem sound_steps : Sound P parseInstant (S.view (steps.foldl S.next s)) ∧ S.consistent (steps.foldl S.next s) := by
  induction steps generalizing s with
  | nil => exact ⟨h, hc⟩
  | cons step steps ih =>
    obtain ⟨hfirst, hrest⟩ := forall_mem_cons.mp hread
    obtain ⟨h', hc', -⟩ := hS.sound_next h hc hlegal.1 hfirst
    exact ih h' hc' hlegal.2 hrest

/-- From a claim on record on, no call with its pair of digests is answered `Acquired`. -/
theorem settled_steps {earlier : ClaimCall} (hearlier : earlier.Valid P parseInstant)
    (hstart : start ∈ (S.view s).liveStartClaims) (hclaim : start.claim = earlier.claim) :
    ∀ later ∈ S.answers s steps, earlier.SamePair later.1 → later.2 ≠ .ok .acquired ∧
      (later.1.Valid P parseInstant → S.served later.1 → later.2 = .ok (.existing start.initialRun.id)) := by
  induction steps generalizing s with
  | nil => exact fun later hlater => absurd hlater not_mem_nil
  | cons step steps ih =>
    obtain ⟨hfirst, hrest⟩ := forall_mem_cons.mp hread
    obtain ⟨h', hc', hkept⟩ := hS.sound_next h hc hlegal.1 hfirst
    cases step with
    | claim call =>
      intro later hlater hpair
      rcases mem_cons.mp hlater with rfl | hlater
      · constructor
        · rcases hS.claim_step h hc call with ⟨hne, -⟩ | ⟨-, -, hnew, -⟩
          · exact hne
          · exact absurd (.inl (hclaim ▸ hpair.1)) (hnew start hstart)
        · intro hvalid hserved
          -- Both bundles are valid, so the schemas agree as well.
          have hschema := (initial_of_valid hearlier).schema.trans (initial_of_valid hvalid).schema.symm
          exact hS.answer_of_view h hc hserved
            (h.claim_existing hvalid hstart (hclaim.trans (claim_ext hschema hpair.1 hpair.2)))
      · exact ih h' hc' hlegal.2 hrest (hkept hstart) later hlater hpair
    | write write engine => exact ih h' hc' hlegal.2 hrest (hkept hstart)

theorem acquired_once :
    (S.answers s steps).Pairwise fun earlier later => earlier.2 = .ok .acquired → earlier.1.SamePair later.1 →
      later.2 ≠ .ok .acquired ∧
        (later.1.Valid P parseInstant → S.served later.1 → later.2 = .ok (.existing earlier.1.run.id)) := by
  induction steps generalizing s with
  | nil => exact List.Pairwise.nil
  | cons step steps ih =>
    obtain ⟨hfirst, hrest⟩ := forall_mem_cons.mp hread
    obtain ⟨h', hc', -⟩ := hS.sound_next h hc hlegal.1 hfirst
    cases step with
    | claim call =>
      refine List.Pairwise.cons (fun later hlater hacquired hpair => ?_) (ih h' hc' hlegal.2 hrest)
      rcases hS.claim_step h hc call with ⟨hne, -⟩ | ⟨heq, hvalid, -, -⟩
      · exact absurd hacquired hne
      · have hmem : (⟨call.claim, call.run, call.checkpoint.id, call.event.id⟩ : RecordingLiveRunStartClaim) ∈
            (S.view (S.claim s call).2).liveStartClaims := by
          rw [heq, (hS.withStart hfirst hvalid hc).1]
          exact mem_append_right _ mem_cons_self
        exact hS.settled_steps h' hc' hlegal.2 hrest hvalid hmem rfl later hlater hpair
    | write write engine => exact ih h' hc' hlegal.2 hrest

theorem laws : LiveStartLaws P parseInstant S (S.answers s steps) (steps.foldl S.next s) := by
  obtain ⟨h', hc'⟩ := hS.sound_steps h hc hlegal hread
  refine ⟨h'.readiness, h'.setup, hS.acquired_once h hc hlegal hread, ?_, ?_, ?_⟩
  · intro call hvalid hserved start hstart hone
    have hshares : start.Shares call.claim := by
      by_contra hno
      obtain ⟨hreadiness, hsetup⟩ := not_or.mp hno
      exact hone ⟨fun h => absurd h hreadiness, fun h => absurd h hsetup⟩
    refine hS.answer_of_view h' hc' hserved (h'.claim_conflict hvalid hstart hshares ?_)
    rintro heq
    exact hone (by simp [heq])
  · intro call hne
    rcases hS.claim_step h' hc' call with ⟨-, heq⟩ | ⟨heq, -⟩
    · exact heq
    · exact absurd (by rw [heq]) hne
  · intro call hacquired
    rcases hS.claim_step h' hc' call with ⟨hne, -⟩ | ⟨heq, hvalid, -, -⟩
    · exact absurd hacquired hne
    · have hinitial := initial_of_valid hvalid
      exact ⟨by rw [heq], fun hread => (hS.withStart hread hvalid hc').1, hvalid, hinitial.checkpointFirst,
        hinitial.eventFirst, hinitial.kind⟩

end
end Sound

section Agreement
variable {τ : Type} {U : LiveStore τ} {u : τ} (hS : LiveFollows P parseInstant S) (hU : LiveFollows P parseInstant U)
variable (hview : S.view s = U.view u) (h : Sound P parseInstant (S.view s)) (hcs : S.consistent s)
  (hcu : U.consistent u)
include hS hU hview h hcs hcu

theorem agree_claim (hs : S.served call) (hu : U.served call) (hreads : S.readsBack (.claim call))
    (hreadu : U.readsBack (.claim call)) : (S.claim s call).1.toOption = (U.claim u call).1.toOption ∧
      S.view (S.claim s call).2 = U.view (U.claim u call).2 := by
  rcases hS.claims h hcs call with ⟨message, heq, hnone⟩ | ⟨result, store', hleft, heq⟩ <;>
    rcases hU.claims (hview ▸ h) hcu call with ⟨message₂, heq₂, hnone₂⟩ | ⟨result₂, store₂, hright, heq₂⟩
  · rw [heq, heq₂]
    exact ⟨rfl, hview⟩
  · rw [hview, hright] at hnone
    cases hnone hs
  · rw [← hview, hleft] at hnone₂
    cases hnone₂ hu
  · rw [hview, hright] at hleft
    cases hleft
    have hvalid := valid_of_ok hright
    rw [heq, heq₂]
    refine ⟨rfl, ?_⟩
    split
    · rw [(hS.withStart hreads hvalid hcs).1, (hU.withStart hreadu hvalid hcu).1, hview]
    · exact hview

/-- A write that both stores refuse, or accept with the same answer, leaves the same records in both. -/
theorem agree_write {write : RunWrite} {engine : Nat → Bool} (hlegal : write.Legal (S.view s))
    (hreads : S.readsBack (.write write engine)) (hreadu : U.readsBack (.write write engine))
    (haccepted : (S.write s write engine).1.toOption = (U.write u write engine).1.toOption) :
    S.view (S.write s write engine).2 = U.view (U.write u write engine).2 := by
  rcases hS.writes engine h hcs hlegal hreads with ⟨message, heq⟩ | ⟨answer, s', heq, heffect, -⟩ <;>
    rcases hU.writes engine (hview ▸ h) hcu (hview ▸ hlegal) hreadu with
      ⟨message₂, heq₂⟩ | ⟨answer₂, u', heq₂, heffect₂, -⟩ <;>
    rw [heq, heq₂] at haccepted ⊢
  · exact hview
  · cases haccepted
  · cases haccepted
  · obtain rfl : answer = answer₂ := Option.some.inj haccepted
    rw [hview] at heffect
    exact heffect.unique heffect₂

/-- Two stores with the same rows that go through the same steps give answers of the same class. -/
theorem agree (hserved : ∀ call, .claim call ∈ steps → S.served call ∧ U.served call) (hlegal : S.Legal s steps)
    (hreads : ∀ step ∈ steps, S.readsBack step) (hreadu : ∀ step ∈ steps, U.readsBack step)
    (haccepted : S.accepted s steps = U.accepted u steps) :
    (S.answers s steps).map (fun answer => answer.2.toOption) =
      (U.answers u steps).map fun answer => answer.2.toOption := by
  induction steps generalizing s u with
  | nil => rfl
  | cons step steps ih =>
    obtain ⟨hs, hrests⟩ := forall_mem_cons.mp hreads
    obtain ⟨hu, hrestu⟩ := forall_mem_cons.mp hreadu
    have hservedRest : ∀ call, .claim call ∈ steps → S.served call ∧ U.served call :=
      fun call hmem => hserved call (mem_cons_of_mem _ hmem)
    obtain ⟨h', hcs', -⟩ := hS.sound_next h hcs hlegal.1 hs
    obtain ⟨-, hcu', -⟩ := hU.sound_next (hview ▸ h) hcu (hview ▸ hlegal.1) hu
    cases step with
    | claim call =>
      obtain ⟨hcallS, hcallU⟩ := hserved call mem_cons_self
      obtain ⟨hanswer, hview'⟩ := hS.agree_claim hU hview h hcs hcu hcallS hcallU hs hu
      exact congrArg₂ List.cons hanswer (ih hview' h' hcs' hcu' hservedRest hlegal.2 hrests hrestu haccepted)
    | write write engine =>
      obtain ⟨hwrite, hrest⟩ := List.cons.inj haccepted
      have hview' := hS.agree_write hU hview h hcs hcu hlegal.1 hs hu hwrite
      exact ih hview' h' hcs' hcu' hservedRest hlegal.2 hrests hrestu hrest

end Agreement
end LiveFollows

end Histories

/-- Claims of live starts in any order, while the runs that were started are driven by legal writes: in both stores
each claim authorizes one run, and with the writes accepted alike the answers are of the same class. -/
theorem live_starts_authorize_one_run (P : Primitives) (T : TextFormats) (R : Readers)
    (parseInstant : String → Option Instant) (store : RecordingAgentRunStore) (t : AgentTables)
    (hstore : Sound P parseInstant store) (ht : Sound P parseInstant (t.view R)) (hback : t.ReadsBack T R)
    (steps : List LiveStep) :
    let M := recordingLiveStarts P parseInstant
    let D := sqliteLiveStarts P T R parseInstant
    (M.Legal store steps → LiveStartLaws P parseInstant M (M.answers store steps) (steps.foldl M.next store)) ∧
    ((∀ step ∈ steps, D.readsBack step) →
      (D.Legal t steps → LiveStartLaws P parseInstant D (D.answers t steps) (steps.foldl D.next t)) ∧
      (M.Legal store steps → store = t.view R → (∀ call, .claim call ∈ steps → ∀ n, call.engine n = true) →
        M.accepted store steps = D.accepted t steps →
        (M.answers store steps).map (fun answer => answer.2.toOption) =
          (D.answers t steps).map fun answer => answer.2.toOption)) := by
  intro M D
  refine ⟨?_, fun hread => ⟨?_, ?_⟩⟩
  · intro hlegal
    exact recording_live_follows.laws hstore trivial hlegal fun _ _ => trivial
  · intro hlegal
    exact sqlite_live_follows.laws ht hback hlegal hread
  · intro hlegal hview hengine haccepted
    exact recording_live_follows.agree sqlite_live_follows hview hstore trivial hback
      (fun call hcall => ⟨trivial, hengine call hcall⟩) hlegal (fun _ _ => trivial) hread haccepted

section Fixtures

def liveRuntime : List (String × Json) :=
  [("schema", .string "proof-agent-runtime-state/v2"),
    ("run_id", .string "00000000-0000-7000-8000-000000000001"),
    ("agent_id", .string "00000000-0000-7000-8000-000000000002"),
    ("started_at", .string "1970-01-01T00:00:00Z"),
    ("process_epoch_id", .string "00000000-0000-7000-8000-000000000003")]

def liveState : Json := .object [("kind", .string "agent_runtime_v2"), ("runtime", .object liveRuntime)]

/-- The digest of the initial state. -/
def liveStateDigest : ContentDigest := ⟨0x494f03174ede16c2d743fd69ca5aab2fc0db444888940e421209a9b771d1ea79⟩

/-- The digest of the data of the started event. -/
def liveDataDigest : ContentDigest := ⟨0xf26f2972b9ef2ac143f06ca1d7bab1f39f91f05f54794139c28b2ff005d8d0cd⟩

/-- The libraries, on the one bundle that is claimed below. -/
def livePrimitives : Primitives :=
  { keyPrimitives with
    canonicalize := canonicalize noFloats jsonLiterals.quote
    digest := fun kind _ => if kind = .agentCheckpoint then liveStateDigest else liveDataDigest
    parseUuid := fun text => [Uuid.v7 1, Uuid.v7 2, Uuid.v7 3].find? fun id => uuidText id == text }

def liveInstant (text : String) : Option Instant := if text = "1970-01-01T00:00:00Z" then some 0 else none

def liveRun : AgentRun := { sessionRun .running with agentId := some (Uuid.v7 2) }

/-- The bundle, under a claim with the setup digest given. -/
def liveCall (setup : Nat) : ClaimCall where
  claim := ⟨LiveRunStartClaim.schemaName, ⟨1⟩, ⟨setup⟩⟩
  run := liveRun
  checkpoint := ⟨Uuid.v7 4, Uuid.v7 1, 0, liveState, liveStateDigest, 0⟩
  event := {
    id := Uuid.v7 5
    runId := Uuid.v7 1
    sequence := 0
    kind := .started
    data := LiveRunStartClaim.expectedStartedData liveRuntime
    dataDigest := liveDataDigest
    createdAt := 0 }
  engine _ := true

/-- The started run has gone on to wait for input. -/
def liveWaiting : AgentRun := { liveRun with status := .waitingForInput, revision := 2, updatedAt := 1 }

/-- The readers, on what is written below. -/
def liveReaders : Readers where
  run json := [liveRun, liveWaiting].find? fun run => decide (Trace.runJson epochTexts run = json)
  step _ := none
  checkpoint json := [(liveCall 2).checkpoint].find? fun checkpoint =>
    decide (AgentRows.checkpointJson epochTexts checkpoint = json)
  event json := [(liveCall 2).event].find? fun event => decide (Trace.eventJson epochTexts event = json)
  claim json := [(liveCall 2).claim, (liveCall 3).claim].find? fun claim => decide (AgentRows.claimJson claim = json)

def liveEmpty : RecordingAgentRunStore := ⟨[], [], [], []⟩

def liveMemory : LiveStore RecordingAgentRunStore := recordingLiveStarts livePrimitives liveInstant

def liveTables : LiveStore AgentTables := sqliteLiveStarts livePrimitives epochTexts liveReaders liveInstant

private theorem live_sound : Sound livePrimitives liveInstant liveEmpty :=
  ⟨nodup_nil, nodup_nil, nodup_nil, nodup_nil, nodup_nil, forall_mem_nil _⟩

private theorem live_legal : (RunWrite.run liveWaiting).Legal (withStart liveEmpty (liveCall 2)) := by
  intro stored hstored _
  obtain rfl : stored = liveRun := mem_singleton.mp hstored
  exact .inr ⟨.waitForInput, 1, by decide +kernel, by decide +kernel⟩

/-- A claim is acquired, its run waits, the claim comes again, then one with another setup. -/
theorem live_starts_authorize_one_run_waiting :
    let steps := [.claim (liveCall 2), .write (.run liveWaiting) fun _ => true, .claim (liveCall 2),
      .claim (liveCall 3)]
    LiveStartLaws livePrimitives liveInstant liveMemory (liveMemory.answers liveEmpty steps)
      (steps.foldl liveMemory.next liveEmpty) ∧
    LiveStartLaws livePrimitives liveInstant liveTables (liveTables.answers .empty steps)
      (steps.foldl liveTables.next .empty) ∧
    liveMemory.accepted liveEmpty steps = [some .done] ∧
    (liveMemory.answers liveEmpty steps).map (fun answer => answer.2.toOption) =
      [some .acquired, some (.existing (Uuid.v7 1)), some .conflict] ∧
    (liveTables.answers .empty steps).map (fun answer => answer.2.toOption) =
      [some .acquired, some (.existing (Uuid.v7 1)), some .conflict] := by
  intro steps
  have hempty : AgentTables.empty.ReadsBack epochTexts liveReaders :=
    ⟨nofun, nofun, nofun, nofun, nofun⟩
  have hmemory : liveMemory.Legal liveEmpty steps := by
    have hstart : liveMemory.next liveEmpty (.claim (liveCall 2)) = withStart liveEmpty (liveCall 2) := by
      decide +kernel
    exact ⟨trivial, hstart ▸ live_legal, trivial, trivial, trivial⟩
  have htables : liveTables.Legal .empty steps := by
    have hstart : liveTables.view (liveTables.next .empty (.claim (liveCall 2))) =
        withStart liveEmpty (liveCall 2) := by decide +kernel
    exact ⟨trivial, hstart ▸ live_legal, trivial, trivial, trivial⟩
  have hread : ∀ step ∈ steps, liveTables.readsBack step := by
    have hfirst : ClaimReadsBack epochTexts liveReaders (liveCall 2) :=
      ⟨by decide +kernel, by decide +kernel, by decide +kernel, by decide +kernel⟩
    have hother : ClaimReadsBack epochTexts liveReaders (liveCall 3) :=
      ⟨by decide +kernel, by decide +kernel, by decide +kernel, by decide +kernel⟩
    have hwaiting : liveReaders.run (Trace.runJson epochTexts liveWaiting) = some liveWaiting := by decide +kernel
    simp only [steps, forall_mem_cons]
    exact ⟨hfirst, hwaiting, hfirst, hother, forall_mem_nil _⟩
  obtain ⟨hlaws, hsqlite⟩ := live_starts_authorize_one_run livePrimitives epochTexts liveReaders liveInstant
    liveEmpty .empty live_sound live_sound hempty steps
  obtain ⟨hlaws', hagree⟩ := hsqlite hread
  have haccepted : liveMemory.accepted liveEmpty steps = [some .done] := by decide +kernel
  have haccepted' : liveTables.accepted .empty steps = [some .done] := by decide +kernel
  have hanswers := hagree hmemory rfl (by simp [steps, liveCall]) (haccepted.trans haccepted'.symm)
  have hmemoryAnswers : (liveMemory.answers liveEmpty steps).map (fun answer => answer.2.toOption) =
      [some .acquired, some (.existing (Uuid.v7 1)), some .conflict] := by decide +kernel
  exact ⟨hlaws hmemory, hlaws' htables, haccepted, hmemoryAnswers, hanswers.symm.trans hmemoryAnswers⟩

/-- After a claim was acquired, it is refused with a bundle that is not initial, and also after the run has legally
moved on at a time before it was created. -/
theorem live_start_claim_refused_again :
    let store := withStart liveEmpty (liveCall 2)
    let later : ClaimCall := { liveCall 2 with run := { liveRun with revision := 2 } }
    (liveMemory.claim liveEmpty (liveCall 2)) = (.ok .acquired, store) ∧
    (liveMemory.claim store later).1 = .error "live run start claim or initial evidence bundle is invalid" ∧
    (liveTables.claim (liveTables.claim .empty (liveCall 2)).2 later).1.toOption = none ∧
    ∃ run' store', liveRun.transition .waitingForInput (-1) = .ok run' ∧ store.saveAgentRun run' = .ok store' ∧
      (liveMemory.claim store' (liveCall 2)).1 = .error "claimed live run identity or history drifted" := by
  refine ⟨by decide +kernel, by decide +kernel, by decide +kernel, _, _, rfl, rfl, by decide +kernel⟩

end Fixtures
end ProofPlatform.AgentStore
