import ProofPlatform.Executor.EntryPoints
import ProofPlatform.Executor.ReplayStore

/-! The evidence of a direct call is made after its handler has returned. It can then still fail, other than in the
store, by the caller's identity or for want of canonical forms. -/
namespace ProofPlatform.Executor
open Kernel Library.Interaction Library.Fallible Procedure ExecutionEngine

/-- A run without evidence: it fails for want of a proof, or is about to complete its claim with an outcome that the
store's own check refuses. -/
def Unevidenced (P : Primitives) : DirectProgram → Prop
  | .done (.error (.evidenceFailed _)) => True
  | .ask (.completeExecutionReplay claim context outcome) _ =>
    ∃ refusal, validateReplayCompletion P claim context outcome = .error refusal
  | _ => False

/-- The engine is to make a proof and can: it signs for the caller, input and output are canonical. -/
def Provable (P : Primitives) (engine : ExecutionEngine) (input output : Json) (context : ExecutionContext)
    (evidenceRequired : Bool) : Prop :=
  engine.storage = true ∨ evidenceRequired = true →
    context.actor = engine.keypair.principalId ∧ (P.canonicalize input).isOk ∧ (P.canonicalize output).isOk

/-- The claim is one that the engine makes for this call. -/
structure ExecutionReplayClaim.Fits (P : Primitives) (operation version : String) (input : Json)
    (context : ExecutionContext) (claim : ExecutionReplayClaim) : Prop where
  operation : claim.key.operation = operation
  version : claim.key.version = version
  claimedBy : claim.claimedBy = context.actor
  inputDigest : (P.canonicalize input).map (P.digest .operationInput) = .ok claim.inputDigest

/-- A failure that is to be recorded is. -/
def FailureRecorded : engineInterface.Exchange → Prop
  | ⟨.failExecutionReplay _ _ _, .error _⟩ => False
  | _ => True

/-- The request neither calls a handler nor completes a claim. -/
def EngineRequest.Plain : EngineRequest → Prop
  | .executeVersioned _ _ _ _ | .completeExecutionReplay _ _ _ => False
  | _ => True

/-- The exchange in which the handler of a call returns its output. -/
abbrev returns (operation version : String) (input : Json) (context : ExecutionContext) (output : Json) :
    engineInterface.Exchange := ⟨.executeVersioned operation version input context, .ok output⟩

/-- Follows a run up to an exchange and beyond: what completes a claim must pass the store's check. -/
abbrev evidenceMonitor (P : Primitives) (returned : engineInterface.Exchange) (provable : Prop) :
    Monitor engineInterface where
  Phase := Prop
  allows _ request := ∀ claim context outcome, request = .completeExecutionReplay claim context outcome →
    ∃ canonical, validateReplayCompletion P claim context outcome = .ok canonical
  relies phase request answer := phase → ¬ provable → FailureRecorded ⟨request, answer⟩
  next phase request answer := phase ∨ (⟨request, answer⟩ : engineInterface.Exchange) = returned

theorem evidenceMonitor_after {P : Primitives} {returned : engineInterface.Exchange} {provable phase : Prop}
    {history : List engineInterface.Exchange} :
    (evidenceMonitor P returned provable).after phase history ↔ phase ∨ returned ∈ history := by
  induction history generalizing phase with
  | nil => simp [Monitor.after]
  | cons exchange history ih =>
    rw [Monitor.after, ih, List.mem_cons, or_assoc, eq_comm]

/-- Nothing is relied on up to the exchange. -/
theorem evidenceMonitor_trusts {P : Primitives} {returned : engineInterface.Exchange} {provable phase : Prop}
    {history : List engineInterface.Exchange} (hphase : ¬ phase) (hfirst : ∀ exchange ∈ history, exchange ≠ returned) :
    (evidenceMonitor P returned provable).Trusts phase (history ++ [returned]) := by
  induction history generalizing phase with
  | nil => exact ⟨fun h => absurd h hphase, trivial⟩
  | cons exchange history ih =>
    obtain ⟨hexchange, hfirst⟩ := List.forall_mem_cons.mp hfirst
    exact ⟨fun h => absurd h hphase, ih (not_or.mpr ⟨hphase, hexchange⟩) hfirst⟩

/-- Past the exchange, a run is to fail for want of evidence exactly if no proof can be made. -/
def Judged (provable phase : Prop) (error : ExecutionError) : Prop :=
  phase → (provable ↔ ∀ message, error ≠ .evidenceFailed message)

section
variable {P : Primitives} {engine : ExecutionEngine} {operation version : String} {input output made : Json}
  {context : ExecutionContext} {claim : ExecutionReplayClaim} {id : Uuid} {proof : Proof} {entry : RegistryEntry}
  {evidenceRequired : Bool} {acquired : Option ExecutionReplayClaim}

theorem createOperationProof_isOk :
    (∃ proof, engine.createOperationProof P id operation version input output context = .ok proof) ↔
      context.actor = engine.keypair.principalId ∧ (P.canonicalize input).isOk ∧ (P.canonicalize output).isOk := by
  unfold createOperationProof createProof signProof
  cases P.canonicalize input with
  | error e => simp [Except.isOk, Except.toBool]
  | ok i =>
    cases P.canonicalize output with
    | error e => simp [Except.isOk, Except.toBool]
    | ok o =>
      by_cases hactor : engine.keypair.principalId = context.actor
      · exact iff_of_true ⟨_, if_pos hactor⟩ ⟨hactor.symm, rfl, rfl⟩
      · simp [hactor, Ne.symm hactor]

/-- A proof that could be made is one that completes the claim. -/
theorem validateReplayCompletion_of_proof (hclaim : claim.Fits P operation version input context)
    (hproof : engine.createOperationProof P id operation version input output context = .ok proof) :
    ∃ canonical, validateReplayCompletion P claim context ⟨output, proof⟩ = .ok canonical := by
  obtain ⟨-, hi, ho⟩ := createOperationProof_isOk.mp ⟨proof, hproof⟩
  unfold createOperationProof createProof signProof at hproof
  cases hinput : P.canonicalize input with
  | error e => simp [hinput, Except.isOk, Except.toBool] at hi
  | ok i =>
    cases houtput : P.canonicalize output with
    | error e => simp [houtput, Except.isOk, Except.toBool] at ho
    | ok o =>
      have hdigest := hclaim.inputDigest
      rw [hinput] at hproof hdigest
      rw [houtput] at hproof
      by_cases hactor : engine.keypair.principalId = context.actor
      · obtain rfl := Except.ok.inj ((if_pos hactor).symm.trans hproof)
        exact ⟨o, by simp [validateReplayCompletion, bind_eq_ok, houtput, hclaim.operation, hclaim.version,
          hclaim.claimedBy, Except.ok.inj hdigest]⟩
      · cases (if_neg hactor).symm.trans hproof

section
variable {returned : engineInterface.Exchange} {provable phase : Prop} {α : Type}

theorem storageCall_judged {call : Exec (Except String α)} {post : Prop → α → Prop}
    (h : Procedure.Obeys (evidenceMonitor P returned provable)
      (fun mid answer => (mid → provable) ∧ ∀ value, answer = .ok value → post mid value)
      (Judged provable) phase call) :
    Procedure.Obeys (evidenceMonitor P returned provable) post (Judged provable)
      phase (storageCall call) := by
  refine h.bind fun mid answer ha => ?_
  rcases answer with message | value
  · exact obeys_ofExcept.mpr ⟨nofun, fun e he => Except.error.inj he ▸ fun hmid => iff_of_true (ha.1 hmid) nofun⟩
  · exact obeys_ofExcept.mpr ⟨fun v hv => ha.2 v (mapError_eq_ok.mp hv), nofun⟩

variable (hreturned : ¬ returned.1.Plain)
include hreturned

theorem obeys_send {request : EngineRequest} {post : Prop → request.Answer → Prop} {fail : Prop → ExecutionError → Prop}
    (hplain : request.Plain)
    (h : ∀ answer, (phase → ¬ provable → FailureRecorded ⟨request, answer⟩) → post phase answer) :
    Procedure.Obeys (evidenceMonitor P returned provable) post fail phase
      (send request) := by
  refine obeys_call.mpr ⟨?_, fun answer hrelies => ?_⟩
  · rintro claim context outcome rfl
    exact hplain.elim
  · have hphase : (phase ∨ (⟨request, answer⟩ : engineInterface.Exchange) = returned) = phase :=
      propext (or_iff_left fun he => hreturned (he ▸ hplain))
    show post _ answer
    exact (congrArg (post · answer) hphase).mpr (h answer hrelies)

theorem failAcquiredClaim_judged {failedAt : Instant} {error : ExecutionError} {post : Prop → α → Prop}
    (hjudged : Judged provable phase error) :
    Procedure.Obeys (evidenceMonitor P returned provable) post (Judged provable)
      phase (failAcquiredClaim acquired failedAt error) := by
  cases acquired with
  | none => exact hjudged
  | some claim =>
    refine obeys_bind.mpr (obeys_send hreturned trivial ?_)
    rintro (failure | _) hrelies
    · intro hphase
      refine iff_of_true ?_ nofun
      by_contra hnot
      exact hrelies hphase hnot
    · exact hjudged

theorem checkBenchmark_judged (hphase : ¬ phase) :
    Procedure.Obeys (evidenceMonitor P returned provable)
      (fun phase _ => ¬ phase) (Judged provable) phase
      (engine.checkBenchmark entry operation version context acquired) := by
  have hjudged {error : ExecutionError} : Judged provable phase error := fun h => absurd h hphase
  unfold checkBenchmark
  split
  · refine obeys_bind.mpr (obeys_send hreturned trivial ?_)
    rintro (_ | _ | proof) _
    · exact failAcquiredClaim_judged hreturned hjudged
    · exact hphase
    · dsimp only
      split
      · exact failAcquiredClaim_judged hreturned hjudged
      · exact hphase
  · exact hphase

theorem checkDelegation_judged (hphase : ¬ phase) :
    Procedure.Obeys (evidenceMonitor P returned provable)
      (fun phase _ => ¬ phase) (Judged provable) phase (engine.checkDelegation entry operation context) := by
  have hjudged {error : ExecutionError} : Judged provable phase error := fun h => absurd h hphase
  unfold checkDelegation
  split
  · unfold enforceDelegation
    simp only [obeys_bind, obeys_ofExcept, hjudged, implies_true, and_true]
    intro chain _ _ _
    split
    · simp only [obeys_bind]
      refine storageCall_judged (obeys_send hreturned trivial fun answer _ =>
        ⟨fun h => absurd h hphase, fun stored _ => ?_⟩)
      simp [Judged, hphase]
    · simp [Judged, hphase]
  · simp [Judged, hphase]
  · exact hphase

theorem executionReplayClaim_judged (hphase : ¬ phase) :
    Procedure.Obeys (evidenceMonitor P returned provable)
      (fun mid claim => ¬ mid ∧ claim.Fits P operation version input context) (Judged provable) phase
      (executionReplayClaim P operation version input context) := by
  have hjudged {error : ExecutionError} : Judged provable phase error := fun h => absurd h hphase
  unfold executionReplayClaim
  simp only [obeys_bind, obeys_ofExcept, hjudged, implies_true, and_true, mapError_eq_ok]
  intro key _ canonical hcanonical
  refine obeys_send hreturned trivial fun token _ => ⟨hphase, rfl, rfl, rfl, ?_⟩
  rw [hcanonical]
  rfl

/-- A proof of what the handler has made, which is the output if it was made in the exchange. -/
theorem prove_judged (hphase : phase → made = output) (hneeds : engine.storage = true ∨ evidenceRequired = true)
    (hprovable : provable ↔ Provable P engine input output context evidenceRequired) :
    Procedure.Obeys (evidenceMonitor P returned provable)
      (fun mid proof => (mid → provable) ∧
        ∃ id, engine.createOperationProof P id operation version input made context = .ok proof) (Judged provable)
      phase (engine.prove P operation version input made context acquired) := by
  unfold prove
  refine obeys_bind.mpr (obeys_send hreturned trivial fun id _ => ?_)
  dsimp only
  split
  · rename_i proof hproof
    refine ⟨fun h => hprovable.mpr fun _ => ?_, id, hproof⟩
    rw [← hphase h]
    exact createOperationProof_isOk.mp ⟨proof, hproof⟩
  · rename_i error herror
    refine failAcquiredClaim_judged hreturned fun h => iff_of_false (fun hproof => ?_) fun hne => hne _ rfl
    have hable := hprovable.mp hproof hneeds
    rw [← hphase h] at hable
    obtain ⟨proof, hproof⟩ := createOperationProof_isOk.mpr hable
    cases herror.symm.trans hproof

end

theorem returns_not_plain : ¬ (returns operation version input context output).1.Plain := not_false

/-- Where one is to be made, no output is returned without a proof. -/
theorem executeClaimed_judged {provable phase : Prop} (hphase : ¬ phase)
    (hclaim : ∀ claim ∈ acquired, claim.Fits P operation version input context ∧ engine.storage = true)
    (hprovable : provable ↔ Provable P engine input output context evidenceRequired) :
    Procedure.Obeys (evidenceMonitor P (returns operation version input context output) provable)
      (fun mid _ => mid → provable) (Judged provable) phase
      (engine.executeClaimed P entry operation version input context evidenceRequired acquired) := by
  refine (checkBenchmark_judged returns_not_plain hphase).bind fun mid _ hmid => ?_
  refine obeys_bind.mpr (obeys_call.mpr ⟨fun _ _ _ h => (by cases h), fun answer _ => ?_⟩)
  rcases answer with error | made
  · refine failAcquiredClaim_judged returns_not_plain ?_
    rintro (h | h)
    · exact absurd h hmid
    · cases h
  have hmade : mid ∨ (⟨.executeVersioned operation version input context, .ok made⟩ : engineInterface.Exchange) =
      returns operation version input context output → made = output := by
    rintro (h | h)
    · exact absurd h hmid
    · cases h
      rfl
  change Procedure.Obeys (evidenceMonitor P (returns operation version input context output) provable) _ _ (mid ∨ _) _
  generalize (mid ∨ _ : Prop) = returned at hmade ⊢
  cases acquired with
  | some claim =>
    obtain ⟨hfits, hstorage⟩ := hclaim claim rfl
    refine (prove_judged returns_not_plain hmade (.inl hstorage) hprovable).bind ?_
    rintro mid proof ⟨hmid, id, hproof⟩
    refine obeys_bind.mpr (storageCall_judged (obeys_call.mpr ⟨?_, fun answer _ => ?_⟩))
    · rintro _ _ _ h
      cases h
      exact validateReplayCompletion_of_proof hfits hproof
    · have hend : mid ∨ (⟨.completeExecutionReplay claim context ⟨made, proof⟩, answer⟩ : engineInterface.Exchange) =
          returns operation version input context output → provable := by
        rintro (h | h)
        · exact hmid h
        · cases h
      exact ⟨hend, fun _ _ => hend⟩
  | none =>
    dsimp only
    split
    · rename_i hstorage
      refine (prove_judged returns_not_plain hmade (.inl hstorage) hprovable).bind ?_
      rintro mid proof ⟨hmid, -⟩
      refine obeys_bind.mpr (storageCall_judged (obeys_send returns_not_plain trivial fun answer _ =>
        ⟨hmid, fun _ _ => ?_⟩))
      exact obeys_bind.mpr (storageCall_judged (obeys_send returns_not_plain trivial fun answer _ =>
        ⟨hmid, fun _ _ => hmid⟩))
    · rename_i hstorage
      split
      · rename_i hrequired
        refine (prove_judged returns_not_plain hmade (.inr hrequired) hprovable).bind ?_
        rintro mid proof ⟨hmid, -⟩
        exact hmid
      · rename_i hrequired
        exact fun _ => hprovable.mpr fun hneeds => absurd hneeds (not_or.mpr ⟨hstorage, hrequired⟩)

theorem executeInner_judged {provable : Prop} (approval : Option (ApprovalGrant × Principal))
    (hprovable : provable ↔ Provable P engine input output context evidenceRequired) :
    Procedure.Obeys (evidenceMonitor P (returns operation version input context output) provable)
      (fun mid _ => mid → provable) (Judged provable) False
      (engine.executeInner P operation version input context approval evidenceRequired) := by
  have hjudged {error : ExecutionError} {phase : Prop} (hphase : ¬ phase) : Judged provable phase error :=
    fun h => absurd h hphase
  unfold executeInner
  simp only [obeys_bind, obeys_ofExcept, hjudged not_false, implies_true, and_true]
  intro entry _ _ _ _ _
  refine (checkDelegation_judged returns_not_plain not_false).mono fun mid _ hmid => ?_
  refine ⟨fun handler _ => ?_, fun _ _ => hjudged hmid⟩
  split
  · exact executeClaimed_judged hmid (by simp) hprovable
  · refine (executionReplayClaim_judged returns_not_plain hmid).bind fun mid claim hfits => ?_
    obtain ⟨hmid, hfits⟩ := hfits
    refine obeys_bind.mpr (obeys_ofExcept.mpr ⟨fun _ hstorage => ?_, fun _ _ => hjudged hmid⟩)
    replace hstorage : engine.storage = true := by simpa using hstorage
    refine obeys_bind.mpr (storageCall_judged (obeys_send returns_not_plain trivial fun answer _ =>
      ⟨fun h => absurd h hmid, fun result _ => ?_⟩))
    cases result with
    | acquired =>
      refine executeClaimed_judged hmid ?_ hprovable
      intro acquired hacquired
      obtain rfl := Option.some.inj hacquired
      exact ⟨hfits, hstorage⟩
    | completed outcome =>
      exact obeys_bind.mpr (obeys_ofExcept.mpr ⟨fun _ _ h => absurd h hmid, fun _ _ => hjudged hmid⟩)
    | conflict | inProgress | failed | unsupported => exact hjudged hmid

end

/-- After the handler of a direct call has returned, no run of the call lacks evidence, if and only if every such call
that is to be proved is made by the engine's own principal, with an input and an output that have canonical forms. -/
theorem evidenced_after_handler_iff (P : Primitives) (engine : ExecutionEngine) (operation version : String)
    (input output : Json) (context : ExecutionContext) (approval : Option (ApprovalGrant × Principal))
    (evidenceRequired : Bool) :
    (∀ history rest,
      (engine.executeInner P operation version input context approval evidenceRequired).run.Run history rest →
      ⟨.executeVersioned operation version input context, .ok output⟩ ∈ history → ¬ Unevidenced P rest) ↔
    ((engine.executeInner P operation version input context approval evidenceRequired).run.Issues
        (· = .executeVersioned operation version input context) →
      Provable P engine input output context evidenceRequired) := by
  let M := evidenceMonitor P (returns operation version input context output)
    (Provable P engine input output context evidenceRequired)
  have hobeys : (engine.executeInner P operation version input context approval evidenceRequired).run.Obeys M
      (fun phase result => phase → (Provable P engine input output context evidenceRequired ↔
        ∀ message, result ≠ .error (.evidenceFailed message))) False := by
    refine Program.Obeys.mono (executeInner_judged approval Iff.rfl) ?_
    rintro phase (error | outcome) hend hphase
    · simpa using hend hphase
    · exact iff_of_true (hend hphase) nofun
  constructor
  · intro hruns hissues
    by_contra hnot
    obtain ⟨history, next, hr, hfirst⟩ := hissues.first
    have hreturned : Program.Run _ (history ++ [returns operation version input context output]) (next (.ok output)) :=
      hr.trans (.step (.stop _))
    -- Nothing is relied on before the handler has returned; then the failure that must come is recorded.
    have htrusts : M.Trusts False (history ++ [returns operation version input context output]) :=
      evidenceMonitor_trusts not_false fun exchange hexchange he => hfirst exchange hexchange (congrArg Sigma.fst he)
    obtain ⟨later, result, hend, hresult⟩ := (hreturned.obeys htrusts hobeys).exists_done fun _ request => by
      cases request with
      | failExecutionReplay claim failedAt failure => exact ⟨.ok (), fun _ _ => trivial⟩
      | executeVersioned operation version input context => exact ⟨.error .sunset, fun _ _ => trivial⟩
      | nowV7 => exact ⟨0, fun _ _ => trivial⟩
      | _ => exact ⟨.error "", fun _ _ => trivial⟩
    have hphase : M.after (M.after False (history ++ [returns operation version input context output])) later :=
      evidenceMonitor_after.mpr (.inl (evidenceMonitor_after.mpr (.inr (by simp))))
    obtain ⟨message, rfl⟩ := not_forall_not.mp (mt (hresult hphase).mpr hnot)
    exact hruns _ _ (hreturned.trans hend) (by simp) trivial
  · intro hprovable history rest hr hreturned hlacks
    replace hprovable := hprovable (hr.issues hreturned)
    have htrusts : M.Trusts False history :=
      Monitor.trusts_of_forall (fun _ _ _ _ hnot => absurd hprovable hnot) _
    have hrest := hr.obeys htrusts hobeys
    have hphase : M.after False history := evidenceMonitor_after.mpr (.inr hreturned)
    unfold Unevidenced at hlacks
    split at hlacks
    · exact (hrest hphase).mp hprovable _ rfl
    · obtain ⟨refusal, hrefusal⟩ := hlacks
      obtain ⟨canonical, hcanonical⟩ := hrest.1 _ _ _ rfl
      cases hrefusal.symm.trans hcanonical
    · exact hlacks

def strangerContext : ExecutionContext := ⟨principal 3, some .agent, none, none, "/workspace", 5⟩

/-- The engine signs as principal 2, principal 3 calls: the handler returns, the call fails. -/
theorem handled_without_evidence :
    ((publishEngine true).executeInner keyPrimitives "content.publish" "v1" .null strangerContext none true).run.Run
      [⟨.executeVersioned "content.publish" "v1" .null strangerContext, .ok .null⟩, ⟨.nowV7, Uuid.v7 1⟩]
      (.done (.error (.evidenceFailed "proof actor does not match signing key"))) :=
  .step (.step (.stop _))

end ProofPlatform.Executor
