import ProofPlatform.Trace.Evaluator
import ProofPlatform.Trace.Grammar

/-! What a passed evaluation establishes: every expected call was made, every step is proven, and every approval is
accounted for. -/
namespace ProofPlatform.Trace
open Kernel List Library Fallible
open Findings
open Matching DeterministicTraceEvaluator

variable (P : Primitives)

/-- The step succeeded with a proof of exactly its call under the key of the run's actor. -/
structure Proven (run : AgentRun) (runActor : Principal) (step : AgentRunStep) : Prop where
  succeeded : step.status = .succeeded
  actor : runActor.id = run.actor
  proof : ∃ output canonical proof, step.output = some output ∧ step.proof = some proof ∧
    P.canonicalize output = .ok canonical ∧ proof.verify P runActor.publicKey = true ∧
    proof.body.actor = run.actor ∧ proof.body.operation = proofOperation step.operation step.version ∧
    proof.body.inputDigest = step.inputDigest ∧ proof.body.outputDigest = P.digest .operationOutput canonical

/-- The run's actor asked for the step, a trusted human approved it in time, and it was executed in time with its
proof. -/
structure Backs (run : AgentRun) (runActor : Principal) (trustedApprovers : List Principal) (step : AgentRunStep)
    (evidence : ApprovalEvidence) : Prop where
  requested : evidence.request.verify P runActor = .ok ()
  requester : evidence.request.body.requestedBy = run.actor
  call : evidence.request.body.operation = step.operation ∧ evidence.request.body.version = step.version ∧
    evidence.request.body.inputDigest = step.inputDigest
  decided : evidence.decision.verify P evidence.approver = .ok ()
  answers : evidence.decision.body.requestId = evidence.request.body.id ∧
    evidence.decision.body.requestDigest = P.requestDigest evidence.request
  approved : evidence.decision.body.outcome = .approved
  trusted : ∃ trusted ∈ trustedApprovers, trusted.kind = .human ∧ trusted.id = evidence.approver.id ∧
    trusted.publicKey = evidence.approver.publicKey
  decidedInWindow : evidence.request.body.requestedAt ≤ evidence.decision.body.decidedAt ∧
    evidence.decision.body.decidedAt ≤ evidence.request.body.expiresAt
  executedInWindow : evidence.decision.body.decidedAt ≤ evidence.execution.executedAt ∧
    evidence.execution.executedAt ≤ evidence.request.body.expiresAt
  executed : evidence.execution.requestId = evidence.request.body.id ∧ step.proof = some evidence.execution.proof

/-- Exactly one piece of the supplied evidence is about the step's request, and it backs the step. -/
def Backed (run : AgentRun) (runActor : Principal) (trustedApprovers : List Principal)
    (approvals : List ApprovalEvidence) (step : AgentRunStep) : Prop :=
  ∃ requestId evidence, step.approvalRequestId = some requestId ∧
    (approvals.filter fun evidence => decide (evidence.request.body.id = requestId)) = [evidence] ∧
    Backs P run runActor trustedApprovers step evidence

/-- The step is the exact call that a policy expects. -/
structure Performs (expected : ExpectedToolCall) (step : AgentRunStep) : Prop where
  operation : step.operation = expected.operation
  version : step.version = expected.version
  arguments : ∃ canonical, P.canonicalize expected.arguments = .ok canonical ∧
    step.inputDigest = P.digest .operationInput canonical

/-- What a passed trace shows. -/
structure ApprovedAndProven (policy : TraceEvaluationPolicy) (run : AgentRun) (runActor : Principal)
    (trustedApprovers : List Principal) (steps : List AgentRunStep) (approvals : List ApprovalEvidence) : Prop where
  assigned : ∃ position : Fin policy.expectedCalls.length → Fin (observedSteps steps).length,
    StrictMono position ∧
    (∀ i, Performs P (policy.expectedCalls.get i) ((observedSteps steps).get (position i))) ∧
    (policy.allowAdditionalCalls = false → Function.Bijective position) ∧
    ∀ i, (policy.expectedCalls.get i).requiresApprovedExecution = true →
      Backed P run runActor trustedApprovers approvals ((observedSteps steps).get (position i))
  proven : ∀ step ∈ steps, Proven P run runActor step
  backed : ∀ step ∈ steps, step.approvalRequestId.isSome = true →
    Backed P run runActor trustedApprovers approvals step
  distinct : steps.Pairwise fun a b => ∀ requestId ∈ a.approvalRequestId, b.approvalRequestId ≠ some requestId
  used : ∀ evidence ∈ approvals, ∃ step ∈ steps, step.approvalRequestId = some evidence.request.body.id

variable {P} {run : AgentRun} {runActor : Principal} {trustedApprovers : List Principal}
  {approvals : List ApprovalEvidence} {observed : List AgentRunStep}

theorem isOk_iff {ε : Type} {x : Except ε Unit} : x.isOk = true ↔ x = .ok () := by
  cases x <;> simp [Except.isOk, Except.toBool]

variable {step : AgentRunStep}

theorem proven_of_silent (h : stepProofIssues P run runActor step = []) : Proven P run runActor step := by
  simp only [stepProofIssues, append_eq_nil_iff, flag_eq_nil, bne_eq_false_iff_eq] at h
  obtain ⟨⟨-, hsucceeded⟩, hproof⟩ := h
  cases houtput : step.output with
  | none => simp [houtput] at hproof
  | some output =>
    cases hstep : step.proof with
    | none => simp [houtput, hstep] at hproof
    | some proof =>
      simp only [houtput, hstep, proofIssues, append_eq_nil_iff, flag_eq_nil, Bool.or_eq_false_iff,
        bne_eq_false_iff_eq, Bool.not_eq_false'] at hproof
      obtain ⟨⟨⟨⟨⟨⟨hactor, htrusted⟩, hoperation⟩, hinput⟩, hdigest⟩, hverify⟩, -⟩ := hproof
      cases hcanonical : canonicalDigest P .operationOutput output with
      | none => simp [hcanonical] at hdigest
      | some digest =>
        simp only [hcanonical, flag_eq_nil, bne_eq_false_iff_eq] at hdigest
        obtain ⟨canonical, htext, rfl⟩ := canonicalDigest_eq_some.mp hcanonical
        exact ⟨hsucceeded, htrusted.symm.trans hactor, output, canonical, proof, houtput, hstep, htext, hverify,
          hactor, hoperation, hinput, hdigest⟩

theorem human_of_verified {decision : SignedApprovalDecision} {approver : Principal}
    (h : decision.verify P approver = .ok ()) : approver.kind = .human := by
  simp only [SignedApprovalDecision.verify, seq_eq_ok, reject_eq_ok, bne_eq_false_iff_eq] at h
  exact h.1

theorem backs_of_silent {evidence : ApprovalEvidence}
    (h : approvalEvidenceIssues P run runActor trustedApprovers step evidence = []) :
    Backs P run runActor trustedApprovers step evidence := by
  simp only [approvalEvidenceIssues, append_eq_nil_iff, flag_eq_nil, Bool.not_eq_false', any_eq_true] at h
  obtain ⟨⟨⟨⟨trusted, hmem, hsame⟩, hrequest⟩, hdecision⟩, hexecution⟩ := h
  simp only [requestIssues, append_eq_nil_iff, flag_eq_nil, Bool.or_eq_false_iff, bne_eq_false_iff_eq,
    Bool.not_eq_false', isOk_iff] at hrequest
  obtain ⟨⟨⟨⟨⟨⟨hrequested, hrequester, -⟩, hoperation⟩, hversion⟩, hinput⟩, -⟩, -⟩ := hrequest
  simp only [decisionIssues, append_eq_nil_iff, flag_eq_nil, Bool.or_eq_false_iff, bne_eq_false_iff_eq,
    Bool.not_eq_false', isOk_iff, decide_eq_false_iff_not, Int.not_lt] at hdecision
  obtain ⟨⟨⟨⟨hdecided, hrequestId⟩, hdigest⟩, happroved⟩, hdecidedAt⟩ := hdecision
  simp only [executionIssues, append_eq_nil_iff, flag_eq_nil, Bool.or_eq_false_iff, bne_eq_false_iff_eq,
    decide_eq_false_iff_not, Int.not_lt] at hexecution
  obtain ⟨⟨⟨⟨⟨⟨⟨⟨hexecution, hexecutedAt⟩, -⟩, -⟩, hproof⟩, -⟩, -⟩, -⟩, -⟩ := hexecution
  simp only [samePrincipal, Bool.and_eq_true, beq_iff_eq] at hsame
  obtain ⟨⟨hid, hkind⟩, hkey⟩ := hsame
  exact ⟨hrequested, hrequester, ⟨hoperation, hversion, hinput⟩, hdecided, ⟨hrequestId, hdigest.symm⟩, happroved,
    ⟨trusted, hmem, hkind.trans (human_of_verified hdecided), hid, hkey⟩, hdecidedAt, hexecutedAt, hexecution, hproof⟩

theorem failedApproval_not_passed (expectedIndex : Option Nat) (stepId requestId : Option Uuid) (reason : String) :
    resultPassed (failedApproval expectedIndex stepId requestId reason) = false := by
  simp [resultPassed, failedApproval, Json.get, List.lookup_cons]

theorem approvalResult_passed {step : Option AgentRunStep} {index : Option Nat} {used : List Uuid}
    (h : resultPassed (approvalResult P run runActor trustedApprovers approvals step index used).1 = true) :
    ∃ found requestId, step = some found ∧ found.approvalRequestId = some requestId ∧ requestId ∉ used ∧
      (approvalResult P run runActor trustedApprovers approvals step index used).2 = requestId :: used ∧
      Backed P run runActor trustedApprovers approvals found := by
  unfold approvalResult at h ⊢
  split at h
  · simp [failedApproval_not_passed] at h
  · rename_i found
    split at h
    · simp [failedApproval_not_passed] at h
    · rename_i requestId hrequest
      split at h
      · simp [failedApproval_not_passed] at h
      · rename_i hfresh
        refine ⟨found, requestId, rfl, hrequest, by simpa using hfresh, ?_, ?_⟩
        · simp only [hfresh]
          rfl
        · dsimp only at h
          split at h
          · simp [failedApproval_not_passed] at h
          · rename_i evidence hfilter
            refine ⟨requestId, evidence, hrequest, hfilter, backs_of_silent ?_⟩
            simpa [resultPassed, Json.get, List.lookup_cons] using h
          · simp [failedApproval_not_passed] at h

/-- The steps whose approvals passed so far, each with its own request, and the shared sets. -/
structure Tally (P : Primitives) (run : AgentRun) (runActor : Principal) (trustedApprovers : List Principal)
    (approvals : List ApprovalEvidence) (observed : List AgentRunStep) (checkedSteps usedRequestIds : List Uuid)
    (passed : List AgentRunStep) : Prop where
  checked : checkedSteps = passed.map AgentRunStep.id
  used : usedRequestIds.map some = passed.map AgentRunStep.approvalRequestId
  fresh : usedRequestIds.Nodup
  observed : ∀ step ∈ passed, step ∈ observed
  backed : ∀ step ∈ passed, Backed P run runActor trustedApprovers approvals step

section Tally
variable {checkedSteps usedRequestIds : List Uuid} {passed : List AgentRunStep}

theorem Tally.empty : Tally P run runActor trustedApprovers approvals observed [] [] [] :=
  ⟨rfl, rfl, nodup_nil, forall_mem_nil _, forall_mem_nil _⟩

section
variable {requestId : Uuid}
  (tally : Tally P run runActor trustedApprovers approvals observed checkedSteps usedRequestIds passed)
include tally

theorem Tally.add (hstep : step ∈ observed) (hrequest : step.approvalRequestId = some requestId)
    (hfresh : requestId ∉ usedRequestIds) (hbacked : Backed P run runActor trustedApprovers approvals step) :
    Tally P run runActor trustedApprovers approvals observed (step.id :: checkedSteps) (requestId :: usedRequestIds)
      (step :: passed) where
  checked := by rw [tally.checked]; rfl
  used := by rw [map_cons, map_cons, tally.used, hrequest]
  fresh := nodup_cons.mpr ⟨hfresh, tally.fresh⟩
  observed := forall_mem_cons.mpr ⟨hstep, tally.observed⟩
  backed := forall_mem_cons.mpr ⟨hbacked, tally.backed⟩

theorem Tally.requests_nodup : (passed.map AgentRunStep.approvalRequestId).Nodup := by
  rw [← tally.used]
  exact tally.fresh.map (Option.some_injective _)

theorem Tally.of_used (h : requestId ∈ usedRequestIds) : ∃ step ∈ passed, step.approvalRequestId = some requestId := by
  have hmem : some requestId ∈ passed.map AgentRunStep.approvalRequestId := by
    rw [← tally.used]
    exact mem_map_of_mem h
  exact mem_map.mp hmem

end

theorem mem_observed {position : Option Nat}
    (h : (position.bind fun position => observed[position]?) = some step) : step ∈ observed := by
  obtain ⟨position, -, hat⟩ := Option.bind_eq_some_iff.mp h
  exact mem_of_getElem? hat

/-- The pass over the policy's calls, by induction on the calls left. -/
theorem expectedApprovals_passed {calls : List (ExpectedToolCall × Option Nat)} :
    ∀ {index : Nat} {checkedSteps usedRequestIds : List Uuid} {passed : List AgentRunStep},
    Tally P run runActor trustedApprovers approvals observed checkedSteps usedRequestIds passed →
    (expectedApprovals P run runActor trustedApprovers observed approvals index calls checkedSteps
      usedRequestIds).1.all resultPassed = true →
    ∃ passed', Tally P run runActor trustedApprovers approvals observed
        (expectedApprovals P run runActor trustedApprovers observed approvals index calls checkedSteps
          usedRequestIds).2.1
        (expectedApprovals P run runActor trustedApprovers observed approvals index calls checkedSteps
          usedRequestIds).2.2 passed' ∧
      passed ⊆ passed' ∧
      ∀ call ∈ calls, call.1.requiresApprovedExecution = true →
        ∃ step ∈ passed', (call.2.bind fun position => observed[position]?) = some step := by
  induction calls with
  | nil =>
    intro index checkedSteps usedRequestIds passed tally _
    exact ⟨passed, tally, List.Subset.refl _, fun _ h => by cases h⟩
  | cons call calls ih =>
    intro index checkedSteps usedRequestIds passed tally hall
    obtain ⟨expected, position⟩ := call
    unfold expectedApprovals at hall ⊢
    split
    · rename_i hrequires
      rw [if_pos hrequires] at hall
      simp only [all_cons, Bool.and_eq_true] at hall
      obtain ⟨hresult, hrest⟩ := hall
      obtain ⟨step, requestId, hstep, hrequest, hfresh, hused, hbacked⟩ := approvalResult_passed hresult
      simp only [hstep] at hused hrest ⊢
      simp only [hused] at hrest ⊢
      have hnext := tally.add (mem_observed hstep) hrequest hfresh hbacked
      obtain ⟨passed', htally, hsubset, hcalls⟩ := ih hnext hrest
      refine ⟨passed', htally, fun _ h => hsubset (mem_cons_of_mem _ h), ?_⟩
      rw [forall_mem_cons]
      exact ⟨fun _ => ⟨step, hsubset mem_cons_self, hstep⟩, hcalls⟩
    · rename_i hrequires
      rw [if_neg hrequires] at hall
      obtain ⟨passed', htally, hsubset, hcalls⟩ := ih tally hall
      refine ⟨passed', htally, hsubset, ?_⟩
      rw [forall_mem_cons]
      exact ⟨fun h => absurd h hrequires, hcalls⟩

/-- The pass over the steps that carry a request, by induction on the steps left. -/
theorem carriedApprovals_passed {steps : List AgentRunStep} (hobserved : ∀ step ∈ steps, step ∈ observed) :
    ∀ {checkedSteps usedRequestIds : List Uuid} {passed : List AgentRunStep},
    Tally P run runActor trustedApprovers approvals observed checkedSteps usedRequestIds passed →
    (carriedApprovals P run runActor trustedApprovers approvals steps checkedSteps usedRequestIds).1.all
      resultPassed = true →
    ∃ checked' passed', Tally P run runActor trustedApprovers approvals observed checked'
        (carriedApprovals P run runActor trustedApprovers approvals steps checkedSteps usedRequestIds).2 passed' ∧
      passed ⊆ passed' ∧
      ∀ step ∈ steps, step.approvalRequestId.isSome = true → ∃ other ∈ passed', other.id = step.id := by
  induction steps with
  | nil =>
    intro checkedSteps usedRequestIds passed tally _
    exact ⟨checkedSteps, passed, tally, List.Subset.refl _, fun _ h => by cases h⟩
  | cons step steps ih =>
    intro checkedSteps usedRequestIds passed tally hall
    obtain ⟨hstep, hsteps⟩ := forall_mem_cons.mp hobserved
    unfold carriedApprovals at hall ⊢
    split
    · rename_i hcarried
      rw [if_pos hcarried] at hall
      simp only [all_cons, Bool.and_eq_true] at hall
      obtain ⟨hresult, hrest⟩ := hall
      obtain ⟨_, requestId, ⟨⟩, hrequest, hfresh, hused, hbacked⟩ := approvalResult_passed hresult
      simp only [hused] at hrest ⊢
      obtain ⟨checked', passed', htally, hsubset, hcalls⟩ := ih hsteps (tally.add hstep hrequest hfresh hbacked) hrest
      refine ⟨checked', passed', htally, fun _ h => hsubset (mem_cons_of_mem _ h), ?_⟩
      rw [forall_mem_cons]
      exact ⟨fun _ => ⟨step, hsubset mem_cons_self, rfl⟩, hcalls⟩
    · rename_i hskipped
      rw [if_neg hskipped] at hall
      obtain ⟨checked', passed', htally, hsubset, hcalls⟩ := ih hsteps tally hall
      refine ⟨checked', passed', htally, hsubset, ?_⟩
      rw [forall_mem_cons]
      refine ⟨?_, hcalls⟩
      -- a step that was skipped has been checked before
      intro hrequest
      have hchecked : step.id ∈ checkedSteps := by simpa [hrequest] using hskipped
      rw [tally.checked] at hchecked
      obtain ⟨other, hother, heq⟩ := mem_map.mp hchecked
      exact ⟨other, hsubset hother, heq⟩

/-- All results passed: every required or carried approval and all evidence is on the tally. -/
theorem requiredApprovalResults_passed {expectedCalls : List ExpectedToolCall} {matchedPositions : List (Option Nat)}
    (h : (requiredApprovalResults P run runActor trustedApprovers expectedCalls matchedPositions observed
      approvals).all resultPassed = true) :
    ∃ checked used passed, Tally P run runActor trustedApprovers approvals observed checked used passed ∧
      (∀ call ∈ expectedCalls.zip matchedPositions, call.1.requiresApprovedExecution = true →
        ∃ step ∈ passed, (call.2.bind fun position => observed[position]?) = some step) ∧
      (∀ step ∈ observed, step.approvalRequestId.isSome = true → ∃ other ∈ passed, other.id = step.id) ∧
      ∀ evidence ∈ approvals, evidence.request.body.id ∈ used := by
  simp only [requiredApprovalResults, all_append, Bool.and_eq_true] at h
  obtain ⟨⟨hexpected, hcarried⟩, hunused⟩ := h
  obtain ⟨passed, htally, -, hcalls⟩ := expectedApprovals_passed Tally.empty hexpected
  obtain ⟨checked, passed', htally, hsubset, hsteps⟩ := carriedApprovals_passed (fun _ h => h) htally hcarried
  refine ⟨checked, _, passed', htally, ?_, hsteps, ?_⟩
  · intro call hcall hrequires
    obtain ⟨step, hstep, hat⟩ := hcalls call hcall hrequires
    exact ⟨step, hsubset hstep, hat⟩
  · intro evidence hevidence
    by_contra hmissing
    rw [all_eq_true] at hunused
    have hfailed := hunused _ (mem_map_of_mem (mem_filter.mpr ⟨hevidence, by simpa using hmissing⟩))
    rw [failedApproval_not_passed] at hfailed
    cases hfailed

end Tally

theorem mem_observedSteps {steps : List AgentRunStep} : step ∈ observedSteps steps ↔ step ∈ steps :=
  (perm_insertionSort stepKeyLe steps).mem_iff

variable {calls : List ExpectedToolCall}

theorem expectedDigests_ok : ∀ {index : Nat} {digests : List ContentDigest},
    expectedDigests P index calls = .ok digests →
    List.Forall₂ (fun call digest => ∃ canonical, P.canonicalize call.arguments = .ok canonical ∧
      digest = P.digest .operationInput canonical) calls digests := by
  induction calls with
  | nil =>
    rintro index digests ⟨⟩
    exact .nil
  | cons call calls ih =>
    intro index digests h
    simp only [expectedDigests, bind_eq_ok, mapError_eq_ok] at h
    obtain ⟨_, -, canonical, hcanonical, rest, hrest, hdigests⟩ := h
    obtain rfl : _ = digests := Except.ok.inj hdigests
    exact .cons ⟨canonical, hcanonical, rfl⟩ (ih hrest)

theorem new_digests {T : TextFormats} {policy : TraceEvaluationPolicy} {evaluator : DeterministicTraceEvaluator}
    (h : new P T policy = .ok evaluator) :
    evaluator.policy = policy ∧
    List.Forall₂ (fun call digest => ∃ canonical, P.canonicalize call.arguments = .ok canonical ∧
      digest = P.digest .operationInput canonical) policy.expectedCalls evaluator.expectedArgumentDigests := by
  simp only [new, bind_eq_ok] at h
  obtain ⟨policyDigest, -, digests, hdigests, _, -, hevaluator⟩ := h
  obtain rfl : _ = evaluator := Except.ok.inj hevaluator
  exact ⟨rfl, expectedDigests_ok hdigests⟩

/-- A full matching assigns every expected call to a step that performs it, in order. -/
theorem assignment_of_matched {digests : List ContentDigest}
    (hdigests : List.Forall₂ (fun call digest => ∃ canonical, P.canonicalize call.arguments = .ok canonical ∧
      digest = P.digest .operationInput canonical) calls digests)
    (hfull : ((matchExpectedCalls calls digests observed).filter Option.isSome).length = calls.length) :
    ∃ position : Fin calls.length → Fin observed.length, StrictMono position ∧
      ∀ i, (matchExpectedCalls calls digests observed)[i]? = some (some (position i).val) ∧
        Performs P (calls.get i) (observed.get (position i)) := by
  have hlength : (matchExpectedCalls calls digests observed).length = calls.length := by
    simp [matchExpectedCalls, hdigests.length_eq]
  have hsome := length_filter_eq_length_iff.mp (hfull.trans hlength.symm)
  have hplace : ∀ i : Fin calls.length, ∃ place : Fin observed.length,
      (matchExpectedCalls calls digests observed)[i]? = some (some place.val) ∧
        Performs P (calls.get i) (observed.get place) := by
    intro i
    have hi : i.val < (matchExpectedCalls calls digests observed).length := by
      rw [hlength]
      exact i.isLt
    obtain ⟨place, hplace⟩ := Option.isSome_iff_exists.mp (hsome _ (getElem_mem hi))
    have hat : (matchExpectedCalls calls digests observed)[i.val]? = some (some place) := by
      rw [List.getElem?_eq_getElem hi, hplace]
    obtain ⟨⟨call, digest⟩, step, hcall, hstep, hfits⟩ := fits_of_greedy hat
    obtain ⟨hcall, hdigest⟩ := List.getElem?_zip_eq_some.mp hcall
    obtain ⟨hcalls, rfl⟩ := List.getElem?_eq_some_iff.mp hcall
    obtain ⟨hbound, rfl⟩ := List.getElem?_eq_some_iff.mp hdigest
    obtain ⟨hlt, rfl⟩ := List.getElem?_eq_some_iff.mp hstep
    simp only [matchesCall, Bool.and_eq_true, beq_iff_eq] at hfits
    obtain ⟨⟨hoperation, hversion⟩, hinput⟩ := hfits
    obtain ⟨canonical, hcanonical, heq⟩ := hdigests.get hcalls hbound
    exact ⟨⟨place, hlt⟩, hat, hoperation, hversion, canonical, hcanonical, hinput.trans heq⟩
  choose position hposition using hplace
  refine ⟨position, ?_, hposition⟩
  intro i j hij
  have hordered := pairwise_iff_getElem.mp
    (pairwise_greedy : List.Pairwise _ (matchExpectedCalls calls digests observed))
  obtain ⟨hi, hat⟩ := List.getElem?_eq_some_iff.mp (hposition i).1
  obtain ⟨hj, hat'⟩ := List.getElem?_eq_some_iff.mp (hposition j).1
  exact hordered i.val j.val hi hj hij _ hat _ hat'

variable {T : TextFormats} {evaluator : DeterministicTraceEvaluator} {agent : AgentDefinition}
  {steps : List AgentRunStep} {events : List AgentRunEvent}

theorem checks_of_passed {evaluatorId : String} {createdAt : Instant} {id : Uuid} {evaluation : AgentRunEvaluation}
    (h : evaluator.evaluate P T run agent runActor trustedApprovers steps events approvals evaluatorId createdAt id =
      .ok evaluation) (hpassed : evaluation.outcome = .passed) :
    ∀ check ∈ evaluator.checks P T run agent runActor trustedApprovers steps events approvals,
      check.passed = true := by
  simp only [evaluate, AgentRunEvaluation.create, bind_eq_ok, mapError_eq_ok] at h
  obtain ⟨_, -, _, -, _, -, _, -, _, -, hevaluation⟩ := h
  obtain rfl : _ = evaluation := Except.ok.inj hevaluation
  dsimp only at hpassed
  split at hpassed
  · rename_i hnone
    simpa [failedCheckNames] using hnone
  · cases hpassed

theorem passed_checks (h : ∀ check ∈ evaluator.checks P T run agent runActor trustedApprovers steps events approvals,
      check.passed = true) :
    ((evaluator.matchedPositions steps).filter Option.isSome).length = evaluator.policy.expectedCalls.length ∧
    (evaluator.policy.allowAdditionalCalls = true ∨
      (observedSteps steps).length = evaluator.policy.expectedCalls.length) ∧
    (∀ step ∈ observedSteps steps, stepProofIssues P run runActor step = []) ∧
    (requiredApprovalResults P run runActor trustedApprovers evaluator.policy.expectedCalls
      (evaluator.matchedPositions steps) (observedSteps steps) approvals).all resultPassed = true ∧
    stepTopologyIssues run (observedSteps steps) = [] := by
  simp only [checks, forall_mem_cons] at h
  obtain ⟨-, -, -, hcalls, hproofs, -, happrovals, -, hlifecycle, -, -⟩ := h
  simp only [Bool.and_eq_true, Bool.or_eq_true, beq_iff_eq] at hcalls
  simp only [List.isEmpty_iff, List.filterMap_eq_nil_iff] at hproofs
  refine ⟨hcalls.1, hcalls.2, ?_, happrovals, ?_⟩
  · intro step hstep
    have hnone := hproofs step hstep
    simp only [invalidStepDetails, ite_eq_left_iff, reduceCtorEq, imp_false, not_not, List.isEmpty_iff] at hnone
    exact hnone
  · rw [List.isEmpty_iff] at hlifecycle
    exact (List.append_eq_nil_iff.mp (List.append_eq_nil_iff.mp hlifecycle).1).1

/-- If an evaluation passes, the trace was approved and proven. -/
theorem passed_approved_and_proven (P : Primitives) (T : TextFormats) (policy : TraceEvaluationPolicy)
    (evaluator : DeterministicTraceEvaluator) (run : AgentRun) (agent : AgentDefinition) (runActor : Principal)
    (trustedApprovers : List Principal) (steps : List AgentRunStep) (events : List AgentRunEvent)
    (approvals : List ApprovalEvidence) (evaluatorId : String) (createdAt : Instant) (id : Uuid)
    (evaluation : AgentRunEvaluation) (hnew : new P T policy = .ok evaluator)
    (heval : evaluator.evaluate P T run agent runActor trustedApprovers steps events approvals evaluatorId createdAt
      id = .ok evaluation) (hpassed : evaluation.outcome = .passed) :
    ApprovedAndProven P policy run runActor trustedApprovers steps approvals := by
  obtain ⟨rfl, hdigests⟩ := new_digests hnew
  obtain ⟨hfull, hcount, hproofs, happrovals, htopology⟩ := passed_checks (checks_of_passed heval hpassed)
  obtain ⟨position, hmono, hposition⟩ := assignment_of_matched hdigests hfull
  obtain ⟨checked, used, passed, htally, hcalls, hcarried, hused⟩ := requiredApprovalResults_passed happrovals
  have hnodup := stepTopologyIssues_nodup htopology
  -- a passed step with the identifier of an observed one is that step
  have hlisted : ∀ step ∈ observedSteps steps, step.approvalRequestId.isSome = true → step ∈ passed := by
    intro step hstep hrequest
    obtain ⟨other, hother, heq⟩ := hcarried step hstep hrequest
    rw [← List.inj_on_of_nodup_map hnodup (htally.observed other hother) hstep heq]
    exact hother
  refine ⟨⟨position, hmono, fun i => (hposition i).2, ?_, ?_⟩, ?_, ?_, ?_, ?_⟩
  · intro hexact
    have hlength := hcount.resolve_left (by simp [hexact])
    refine (Fintype.bijective_iff_injective_and_card position).mpr ⟨hmono.injective, ?_⟩
    rw [Fintype.card_fin, Fintype.card_fin, hlength]
  · intro i hrequires
    have hcall : (evaluator.policy.expectedCalls.get i, some (position i).val) ∈
        evaluator.policy.expectedCalls.zip (evaluator.matchedPositions steps) :=
      mem_of_getElem? (List.getElem?_zip_eq_some.mpr ⟨List.getElem?_eq_getElem i.isLt, (hposition i).1⟩)
    obtain ⟨step, hstep, hat⟩ := hcalls _ hcall hrequires
    obtain ⟨_, rfl⟩ := List.getElem?_eq_some_iff.mp hat
    exact htally.backed _ hstep
  · intro step hstep
    exact proven_of_silent (hproofs step (mem_observedSteps.mpr hstep))
  · intro step hstep hrequest
    exact htally.backed step (hlisted step (mem_observedSteps.mpr hstep) hrequest)
  · have hids : (steps.map AgentRunStep.id).Nodup :=
      ((perm_insertionSort stepKeyLe steps).map AgentRunStep.id).nodup_iff.mp hnodup
    refine (pairwise_map.mp hids).imp_of_mem ?_
    intro a b ha hb hne requestId harequest hbrequest
    have hamem := hlisted a (mem_observedSteps.mpr ha) (by simp [Option.mem_def.mp harequest])
    have hbmem := hlisted b (mem_observedSteps.mpr hb) (by simp [hbrequest])
    obtain rfl := inj_on_of_nodup_map htally.requests_nodup hamem hbmem
      ((Option.mem_def.mp harequest).trans hbrequest.symm)
    exact hne rfl
  · intro evidence hevidence
    obtain ⟨step, hstep, hrequest⟩ := htally.of_used (hused evidence hevidence)
    exact ⟨step, mem_observedSteps.mp (htally.observed step hstep), hrequest⟩

/-- The one call that the trace makes, approved, and no other. -/
def publishPolicy : TraceEvaluationPolicy where
  expectedCalls := [⟨"content.publish", "v1", publishArguments, true⟩]
  allowAdditionalCalls := false
  requiredFinalOutputReferences := []

def publishEvaluator : DeterministicTraceEvaluator := ⟨publishPolicy, publishPolicyDigest, [publishInputDigest]⟩

private theorem publish_passed :
    (publishEvaluator.evaluate publishPrimitives publishTexts publishRun publishAgent publishActor [publishApprover]
      [publishStep] publishEvents [publishApproval] "tasks" (seconds 20) (Uuid.v7 9)).toOption.map
        AgentRunEvaluation.outcome = some .passed := by decide +kernel

theorem passed_approved_and_proven_publish :
    ∃ evaluation, new publishPrimitives publishTexts publishPolicy = .ok publishEvaluator ∧
      publishEvaluator.evaluate publishPrimitives publishTexts publishRun publishAgent publishActor [publishApprover]
        [publishStep] publishEvents [publishApproval] "tasks" (seconds 20) (Uuid.v7 9) = .ok evaluation ∧
      evaluation.outcome = .passed ∧
      ApprovedAndProven publishPrimitives publishPolicy publishRun publishActor [publishApprover] [publishStep]
        [publishApproval] := by
  have hnew : new publishPrimitives publishTexts publishPolicy = .ok publishEvaluator := by decide +kernel
  obtain ⟨evaluation, heval, houtcome⟩ := exists_ok_of_toOption publish_passed
  exact ⟨evaluation, hnew, heval, houtcome, passed_approved_and_proven _ _ _ _ _ _ _ _ _ _ _ _ _ _ _ hnew heval
    houtcome⟩

end ProofPlatform.Trace
