import Mathlib.Data.Prod.Lex
import ProofPlatform.Trace.Verdict

/-! A verdict does not depend on the order of the steps, the approvals and the trusted approvers. Steps are sorted;
approvals are read by request, so that only the list of the unused ones shows their order. -/
namespace ProofPlatform.Kernel
open Library.KeyOrder

variable {F : FloatText} {quote : String → List Char}

theorem isOk_bind_pure {ε α β : Type} (result : Except ε α) (f : α → β) :
    (do pure (f (← result)) : Except ε β).isOk = result.isOk := by cases result <;> rfl

theorem collect_isOk {ε α : Type} (results : List (Except ε α)) : (collect results).isOk = results.all Except.isOk := by
  induction results with
  | nil => rfl
  | cons first rest ih =>
    rw [List.all_cons, ← ih, collect]
    cases first with
    | error error => rfl
    | ok value => exact isOk_bind_pure _ _

theorem canonicalize_isOk (value : Json) :
    (canonicalize F quote value).isOk = (canonicalValue F quote value).isOk := isOk_bind_pure _ _

theorem canonicalize_array_isOk (items : List Json) : (canonicalize F quote (.array items)).isOk =
    items.all fun item => (canonicalize F quote item).isOk := by
  simp only [canonicalize_isOk]
  rw [canonicalValue, isOk_bind_pure, collect_isOk]
  induction items with
  | nil => rfl
  | cons item rest ih => rw [canonicalItems, List.all_cons, List.all_cons, ih]

theorem canonicalize_object_isOk (members : List (String × Json)) : (canonicalize F quote (.object members)).isOk =
    members.all fun member => (canonicalize F quote member.2).isOk := by
  simp only [canonicalize_isOk]
  rw [canonicalValue, isOk_bind_pure, collect_isOk, List.all_map]
  simp only [Function.comp_def, isOk_bind_pure]
  rw [(sortByKey_perm _).all_eq]
  induction members with
  | nil => rfl
  | cons member rest ih => rw [canonicalMembers, List.all_cons, List.all_cons, ih]

end ProofPlatform.Kernel

namespace ProofPlatform.Trace
open Kernel Library.KeyOrder List Function

variable {P : Primitives} {F : FloatText} {quote : String → List Char}

/-- Sorted by a key that no two elements share, a list forgets the order it came in. -/
theorem insertionSort_eq_of_perm {α κ : Type} [LinearOrder κ] {r : α → α → Prop} [DecidableRel r] {l l' : List α}
    (key : α → κ) (hr : ∀ a b, r a b ↔ key a ≤ key b) (distinct : (l.map key).Nodup) (same : l.Perm l') :
    l.insertionSort r = l'.insertionSort r := by
  have keyed (l : List α) : sortByKey (l.map fun a => (key a, a)) = (l.insertionSort r).map fun a => (key a, a) :=
    (map_insertionSort r _ (fun a => (key a, a)) l fun a _ b _ => hr a b).symm
  have sorted := (sortByKey_eq_iff (by simpa [comp_def] using distinct)).mpr (same.map fun a => (key a, a))
  rw [keyed, keyed] at sorted
  simpa [comp_def] using congrArg (List.map Prod.snd) sorted

theorem observedSteps_perm {steps steps' : List AgentRunStep} (distinct : (steps.map AgentRunStep.id).Nodup)
    (same : steps.Perm steps') : observedSteps steps = observedSteps steps' := by
  refine insertionSort_eq_of_perm (fun step => toLex (step.ordinal, toLex (step.attempt, step.id.toNat))) ?_ ?_ same
  · simp [stepKeyLe, Prod.Lex.le_iff, BitVec.le_def]
  · refine List.Nodup.of_map (fun key => BitVec.ofNat 128 (ofLex (ofLex key).2).2) ?_
    simpa [comp_def] using distinct

theorem sortById_perm {α : Type} (id : α → Uuid) {l l' : List α} (distinct : (l.map id).Nodup) (same : l.Perm l') :
    (l.insertionSort fun a b => id a ≤ id b) = l'.insertionSort fun a b => id a ≤ id b := by
  refine insertionSort_eq_of_perm (fun a => (id a).toNat) (fun a b => BitVec.le_def) ?_ same
  exact List.Nodup.of_map (BitVec.ofNat 128) (by simpa [comp_def] using distinct)

variable {T : TextFormats} {evaluator : DeterministicTraceEvaluator} {run : AgentRun} {agent : AgentDefinition}
  {runActor : Principal} {events : List AgentRunEvent} {evaluatorId : String} {createdAt : Instant} {id : Uuid}

/-- Which checks passed, by name, and the digest of the trace. -/
def reportedIn (metrics : Json) : List (Option Json × Option Json) × Option Json :=
  ((match metrics.get "checks" with
    | some (.array checks) => checks.map fun check => (check.get "name", check.get "passed")
    | _ => []), (metrics.get "binding").bind fun binding => binding.get "trace_digest")

def verdictOf (evaluation : AgentRunEvaluation) :=
  (evaluation.outcome, evaluation.scoreBps, reportedIn evaluation.metrics)

/-- What is left of a check when its details are not read. -/
def Check.flag (P : Primitives) (check : Check) : String × Bool × Bool :=
  (check.name, check.passed, (P.canonicalize check.details).isOk)

section Flags
variable (checks : List Check)

theorem passedChecks_eq :
    (checks.filter Check.passed).length = ((checks.map (Check.flag P)).filter (·.2.1)).length := by
  simp [filter_map, Check.flag, comp_def]

theorem failedCheckNames_eq : failedCheckNames checks = ((checks.map (Check.flag P)).filter (!·.2.1)).map Prod.fst := by
  simp [filter_map, Check.flag, comp_def, failedCheckNames]

theorem checks_reported : (checks.map Check.intoValue).map (fun check => (check.get "name", check.get "passed")) =
    (checks.map (Check.flag P)).map fun flag => (some (.string flag.1), some (.bool flag.2.1)) := by
  rw [map_map, map_map]
  rfl

theorem checks_isOk (hP : P.canonicalize = canonicalize F quote) :
    ((checks.map Check.intoValue).all fun check => (canonicalize F quote check).isOk) =
      (checks.map (Check.flag P)).all (·.2.2) := by
  rw [all_map, all_map]
  refine congrArg checks.all (funext fun check => ?_)
  simp only [comp_apply, Check.intoValue, Check.flag, hP, canonicalize_object_isOk, all_cons,
    all_nil, Bool.and_true]
  rfl

end Flags

theorem map_bind_congr {ε α β γ : Type} {x : Except ε α} {f f' : α → Except ε β} {g : β → γ}
    (h : ∀ a, (f a).map g = (f' a).map g) : (x >>= f).map g = (x >>= f').map g := by
  cases x with
  | error e => rfl
  | ok a => exact h a

theorem map_mapError {ε ε' α β : Type} (x : Except ε α) (f : ε → ε') (g : α → β) :
    (x.mapError f).map g = (x.map g).mapError f := by cases x <;> rfl

theorem create_verdict {metrics metrics' : Json} {outcome : AgentEvaluationOutcome} {score : Option Nat}
    {summary : Option String} (hok : (P.canonicalize metrics).isOk = (P.canonicalize metrics').isOk)
    (hreported : reportedIn metrics = reportedIn metrics') :
    (AgentRunEvaluation.create P id run evaluatorId outcome score metrics summary createdAt).map verdictOf =
      (AgentRunEvaluation.create P id run evaluatorId outcome score metrics' summary createdAt).map verdictOf := by
  refine map_bind_congr fun _ => map_bind_congr fun _ => map_bind_congr fun _ => ?_
  cases h : P.canonicalize metrics <;> cases h' : P.canonicalize metrics' <;> rw [h, h'] at hok
  · rfl
  · cases hok
  · cases hok
  · exact congrArg (fun reported => Except.ok (outcome, score, reported)) hreported

section Reordered
variable {observed : List AgentRunStep} {required : List Uuid} {trusted trusted' : List Principal}
  {steps steps' : List AgentRunStep} {approvals approvals' : List ApprovalEvidence}
  (hP : P.canonicalize = canonicalize F quote) (trustedDistinct : (trusted.map Principal.id).Nodup)
  (stepsDistinct : (steps.map AgentRunStep.id).Nodup) (stepsSame : steps.Perm steps')
  (trustedSame : trusted.Perm trusted')
  (distinct : (approvals.map fun evidence => evidence.request.body.id).Nodup) (same : approvals.Perm approvals')
include distinct same

theorem filter_request_perm (requestId : Uuid) :
    (approvals.filter fun evidence => decide (evidence.request.body.id = requestId)) =
      approvals'.filter fun evidence => decide (evidence.request.body.id = requestId) := by
  have unordered (l : List ApprovalEvidence) : l.Pairwise fun _ _ => True := pairwise_of_forall fun _ _ => trivial
  refine List.Perm.eq_of_pairwise (fun a b ha hb _ _ => ?_) (unordered _) (unordered _) (same.filter _)
  simp only [mem_filter, decide_eq_true_eq] at ha hb
  exact inj_on_of_nodup_map distinct ha.1 (same.mem_iff.mpr hb.1) (ha.2.trans hb.2.symm)

theorem toolTurn_perm :
    toolTurn P T observed events approvals required = toolTurn P T observed events approvals' required := by
  funext stepIndex decision index
  simp only [toolTurn, approvalPause, validateApprovalRequired, validateApprovalResumed, approvalByRequest,
    filter_request_perm distinct same]

theorem modelTurns_perm {output : Option String} {lastIndex fuel : Nat} :
    modelTurns P T agent observed events approvals required output lastIndex fuel =
      modelTurns P T agent observed events approvals' required output lastIndex fuel := by
  induction fuel with
  | zero => rfl
  | succ fuel ih =>
    funext index stepIndex modelCall previous
    simp only [modelTurns, toolTurn_perm distinct same, ih]

include trustedSame

theorem approvalResult_perm :
    approvalResult P run runActor trusted approvals = approvalResult P run runActor trusted' approvals' := by
  funext step expectedIndex used
  simp only [approvalResult, approvalEvidenceIssues, filter_request_perm distinct same, trustedSame.any_eq]

theorem expectedApprovals_perm {calls : List (ExpectedToolCall × Option Nat)} :
    ∀ index, expectedApprovals P run runActor trusted observed approvals index calls =
      expectedApprovals P run runActor trusted' observed approvals' index calls := by
  induction calls with
  | nil => exact fun _ => rfl
  | cons call rest ih =>
    intro index
    funext checked used
    simp only [expectedApprovals, approvalResult_perm trustedSame distinct same, ih]

theorem carriedApprovals_perm : carriedApprovals P run runActor trusted approvals observed =
    carriedApprovals P run runActor trusted' approvals' observed := by
  induction observed with
  | nil => rfl
  | cons step rest ih =>
    funext checked used
    simp only [carriedApprovals, approvalResult_perm trustedSame distinct same, ih]

theorem requiredApprovalResults_perm (calls : List ExpectedToolCall) (positions : List (Option Nat)) :
    (requiredApprovalResults P run runActor trusted calls positions observed approvals).Perm
      (requiredApprovalResults P run runActor trusted' calls positions observed approvals') := by
  simp only [requiredApprovalResults, expectedApprovals_perm trustedSame distinct same,
    carriedApprovals_perm trustedSame distinct same]
  exact ((same.filter _).map _).append_left _

include stepsDistinct stepsSame

include hP in
theorem checks_perm :
    (evaluator.checks P T run agent runActor trusted steps events approvals).map (Check.flag P) =
      (evaluator.checks P T run agent runActor trusted' steps' events approvals').map (Check.flag P) := by
  have hsteps := observedSteps_perm stepsDistinct stepsSame
  have hmatched : evaluator.matchedPositions steps = evaluator.matchedPositions steps' := by
    simp only [DeterministicTraceEvaluator.matchedPositions, hsteps]
  simp only [DeterministicTraceEvaluator.checks, map_cons, Check.flag, hP, canonicalize_object_isOk,
    canonicalize_array_isOk, hsteps, hmatched, lifecycleIssues, turnIssues, modelTurns_perm distinct same,
    all_cons, (requiredApprovalResults_perm trustedSame distinct same _ _).all_eq]

include trustedDistinct in
theorem traceSnapshot_perm : traceSnapshot T run agent runActor trusted steps events approvals =
    traceSnapshot T run agent runActor trusted' steps' events approvals' := by
  have hids : (trusted.map fun approver => approver.id.id).Nodup :=
    List.Nodup.of_map PrincipalId.mk (by simpa [comp_def] using trustedDistinct)
  simp only [traceSnapshot, observedSteps_perm stepsDistinct stepsSame, sortById_perm _ hids trustedSame,
    sortById_perm _ distinct same]

include hP trustedDistinct

/-- The order in which a trace is presented changes nothing of its verdict. -/
theorem evaluate_presentation_order :
    (evaluator.evaluate P T run agent runActor trusted steps events approvals evaluatorId createdAt id).map verdictOf =
      (evaluator.evaluate P T run agent runActor trusted' steps' events approvals' evaluatorId createdAt id).map
        verdictOf := by
  have hlength (trusted steps approvals) :
      (evaluator.checks P T run agent runActor trusted steps events approvals).length = 10 := rfl
  simp only [DeterministicTraceEvaluator.evaluate, traceSnapshot_perm trustedDistinct stepsDistinct stepsSame
    trustedSame distinct same, stepsSame.length_eq, same.length_eq, passedChecks_eq (P := P),
    failedCheckNames_eq (P := P), hlength, checks_perm hP stepsDistinct stepsSame trustedSame distinct same]
  refine map_bind_congr fun digest => ?_
  rw [map_mapError, map_mapError]
  refine congrArg (Except.mapError TraceEvaluationError.evaluation) (create_verdict ?_ (Prod.ext ?_ rfl))
  · simp only [hP, canonicalize_object_isOk, canonicalize_array_isOk, all_cons, checks_isOk _ hP,
      checks_perm hP stepsDistinct stepsSame trustedSame distinct same]
  · refine (checks_reported (P := P) _).trans ?_
    rw [checks_perm hP stepsDistinct stepsSame trustedSame distinct same]
    exact (checks_reported _).symm

end Reordered

/-- A second step of the trace, with the evidence of its own approval. -/
def publishRetry : AgentRunStep :=
  { publishStep with id := Uuid.v7 10, ordinal := 1, approvalRequestId := some (Uuid.v7 11) }

def publishRetryApproval : ApprovalEvidence :=
  { publishApproval with request.body.id := Uuid.v7 11 }

theorem publish_trace_reversed :
    (publishEvaluator.evaluate publishPrimitives publishTexts publishRun publishAgent publishActor
      [publishApprover, publishActor] [publishStep, publishRetry] publishEvents [publishApproval, publishRetryApproval]
      "tasks" (seconds 20) (Uuid.v7 9)).map verdictOf =
    (publishEvaluator.evaluate publishPrimitives publishTexts publishRun publishAgent publishActor
      [publishActor, publishApprover] [publishRetry, publishStep] publishEvents [publishRetryApproval, publishApproval]
      "tasks" (seconds 20) (Uuid.v7 9)).map verdictOf :=
  evaluate_presentation_order rfl (by decide) (by decide) (.swap _ _ _) (.swap _ _ _) (by decide) (.swap _ _ _)

end ProofPlatform.Trace
