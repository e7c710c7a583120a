import ProofPlatform.Library.Matching
import ProofPlatform.Trace.Wire

/-! The deterministic evaluator of a persisted trace: its policy, and the verdict over ten checks. -/
namespace ProofPlatform.Trace
open Kernel Library Fallible
open Findings
open Matching

/-- One exact tool call required by a deterministic task policy. -/
structure ExpectedToolCall where
  operation : String
  version : String
  arguments : Json
  requiresApprovedExecution : Bool
  deriving DecidableEq

inductive FinalOutputSource where
  | arguments
  | output
  | proofId
  deriving DecidableEq

/-- Tool evidence whose scalar value must be reported in the final model output. -/
structure FinalOutputReference where
  callIndex : Nat
  source : FinalOutputSource
  pointer : Option String
  deriving DecidableEq

structure TraceEvaluationPolicy where
  expectedCalls : List ExpectedToolCall
  allowAdditionalCalls : Bool
  requiredFinalOutputReferences : List FinalOutputReference
  deriving DecidableEq

inductive TraceEvaluationError where
  | invalidExpectedCall (index : Nat) (reason : String)
  | invalidFinalOutputReference (index : Nat) (reason : String)
  | binding (reason : String)
  | evaluation (error : AgentRunError)
  deriving DecidableEq

structure DeterministicTraceEvaluator where
  policy : TraceEvaluationPolicy
  policyDigest : ContentDigest
  expectedArgumentDigests : List ContentDigest
  deriving DecidableEq

def metricsSchema : String := "proof-agent-trace-evaluation/v1"

def policyBindingSchema : String := "proof-agent-trace-policy/v1"

def traceBindingSchema : String := "proof-agent-trace-snapshot/v1"

def finalOutputSourceJson : FinalOutputSource → Json
  | .arguments => .string "arguments"
  | .output => .string "output"
  | .proofId => .string "proof_id"

def policyJson (policy : TraceEvaluationPolicy) : Json :=
  .object [("expected_calls", .array (policy.expectedCalls.map fun call =>
      .object [("operation", .string call.operation), ("version", .string call.version),
        ("arguments", call.arguments), ("requires_approved_execution", .bool call.requiresApprovedExecution)])),
    ("allow_additional_calls", .bool policy.allowAdditionalCalls),
    ("required_final_output_references", .array (policy.requiredFinalOutputReferences.map fun reference =>
      .object ([("call_index", jsonNat reference.callIndex), ("source", finalOutputSourceJson reference.source)] ++
        optionalMember "pointer" Json.string reference.pointer)))]

variable (P : Primitives) (T : TextFormats)

def bindingDigest (schema : String) (value : Json) : Except TraceEvaluationError ContentDigest := do
  let canonical ← (P.canonicalize (.object [("schema", .string schema), ("value", value)])).mapError
    fun error => .binding error.message
  return P.digest .generic canonical

/-- The digests of the expected arguments, from the index of the first call on. -/
def expectedDigests : Nat → List ExpectedToolCall → Except TraceEvaluationError (List ContentDigest)
  | _, [] => .ok []
  | index, expected :: rest => do
    let _ ← (AgentTool.new expected.operation expected.version).mapError
      fun error => .invalidExpectedCall index error.message
    let canonical ← (P.canonicalize expected.arguments).mapError
      fun error => .invalidExpectedCall index error.message
    let digests ← expectedDigests (index + 1) rest
    return P.digest .operationInput canonical :: digests

variable (policy : TraceEvaluationPolicy)

def checkFinalOutputReference (index : Nat) (reference : FinalOutputReference) : Except TraceEvaluationError Unit := do
  let expected ← orReject policy.expectedCalls[reference.callIndex]? (.invalidFinalOutputReference index
    ("call index " ++ toString reference.callIndex ++ " is outside " ++ toString policy.expectedCalls.length ++
      " expected calls"))
  match reference.source with
  | .proofId =>
    reject reference.pointer.isSome
      (.invalidFinalOutputReference index "proof ID references cannot include a JSON pointer")
  | _ =>
    let pointer ← orReject reference.pointer
      (.invalidFinalOutputReference index "argument and output references require a JSON pointer")
    reject (pointer.toList.head? != some '/')
      (.invalidFinalOutputReference index "JSON pointer must start with '/'")
    reject (reference.source == .arguments &&
        ((jsonPointer expected.arguments pointer).bind (scalarReferenceText T)).isNone)
      (.invalidFinalOutputReference index
        ("argument pointer " ++ T.debug pointer ++ " does not select a scalar value"))

def checkFinalOutputReferences (policy : TraceEvaluationPolicy) :
    Nat → List FinalOutputReference → Except TraceEvaluationError Unit
  | _, [] => .ok ()
  | index, reference :: rest => do
    checkFinalOutputReference T policy index reference
    checkFinalOutputReferences policy (index + 1) rest

def DeterministicTraceEvaluator.new : Except TraceEvaluationError DeterministicTraceEvaluator := do
  let policyDigest ← bindingDigest P policyBindingSchema (.object [("policy", policyJson policy)])
  let expectedArgumentDigests ← expectedDigests P 0 policy.expectedCalls
  checkFinalOutputReferences T policy 0 policy.requiredFinalOutputReferences
  return { policy, policyDigest, expectedArgumentDigests }

/-- The order of the observed steps: ordinal, attempt, identifier. -/
def stepKeyLe (a b : AgentRunStep) : Prop :=
  a.ordinal < b.ordinal ∨ a.ordinal = b.ordinal ∧ (a.attempt < b.attempt ∨ a.attempt = b.attempt ∧ a.id ≤ b.id)

instance : DecidableRel stepKeyLe := fun a b => by unfold stepKeyLe; infer_instance

def observedSteps (steps : List AgentRunStep) : List AgentRunStep := steps.insertionSort stepKeyLe

def matchesCall (expected : ExpectedToolCall × ContentDigest) (step : AgentRunStep) : Bool :=
  step.operation == expected.1.operation && step.version == expected.1.version && step.inputDigest == expected.2

variable (expectedCalls : List ExpectedToolCall)

def matchExpectedCalls (digests : List ContentDigest) (steps : List AgentRunStep) : List (Option Nat) :=
  greedy matchesCall steps 0 (expectedCalls.zip digests)

def proofOperation (operation version : String) : String := operation ++ "::" ++ version

def verdict (issues : List String) : Json := .array (issues.map Json.string)

variable (run : AgentRun) (runActor : Principal) (step : AgentRunStep)

def proofIssues (output : Json) (proof : Proof) : List String :=
  flag (proof.body.actor != run.actor || proof.body.actor != runActor.id) "proof_actor_mismatch" ++
  flag (proof.body.operation != proofOperation step.operation step.version) "proof_operation_mismatch" ++
  flag (proof.body.inputDigest != step.inputDigest) "proof_input_mismatch" ++
  (match canonicalDigest P .operationOutput output with
  | some outputDigest => flag (proof.body.outputDigest != outputDigest) "proof_output_mismatch"
  | none => ["invalid_output"]) ++
  flag (!proof.verify P runActor.publicKey) "invalid_proof_signature" ++
  match step.startedAt, step.completedAt with
  | some startedAt, some completedAt =>
    flag (decide (proof.body.timestamp < startedAt) || decide (completedAt < proof.body.timestamp))
      "proof_timestamp_outside_step_window"
  | _, _ => ["missing_step_execution_window"]

def stepProofIssues : List String :=
  flag (step.runId != run.id) "step_run_mismatch" ++
  flag (step.status != .succeeded) "step_not_succeeded" ++
  match step.output, step.proof with
  | none, _ => ["missing_output"]
  | some _, none => ["missing_proof"]
  | some output, some proof => proofIssues P run runActor step output proof

def invalidStepDetails : Option Json :=
  let issues := stepProofIssues P run runActor step
  if issues.isEmpty then none else some (.object [("step_id", jsonUuid step.id), ("issues", verdict issues)])

/-- Issues of the request: who asked, for which call, and when. -/
def requestIssues (request : SignedApprovalRequest) : List String :=
  flag (!(request.verify P runActor).isOk) "invalid_request_signature" ++
  flag (request.body.requestedBy != run.actor || request.body.requestedBy != runActor.id) "request_actor_mismatch" ++
  flag (request.body.operation != step.operation) "request_operation_mismatch" ++
  flag (request.body.version != step.version) "request_version_mismatch" ++
  flag (request.body.inputDigest != step.inputDigest) "request_input_mismatch" ++
  flag (decide (request.body.expiresAt ≤ request.body.requestedAt)) "invalid_request_window" ++
  flag (step.startedAt.all fun startedAt => decide (request.body.requestedAt < startedAt))
    "approval_request_precedes_step"

/-- Issues of the decision on the request. -/
def decisionIssues (evidence : ApprovalEvidence) : List String :=
  let request := evidence.request
  let decision := evidence.decision
  flag (!(decision.verify P evidence.approver).isOk) "invalid_decision_signature" ++
  flag (decision.body.requestId != request.body.id) "decision_request_mismatch" ++
  flag (P.requestDigest request != decision.body.requestDigest) "decision_request_digest_mismatch" ++
  flag (decision.body.outcome != .approved) "decision_not_approved" ++
  flag (decide (decision.body.decidedAt < request.body.requestedAt) ||
    decide (request.body.expiresAt < decision.body.decidedAt)) "decision_out_of_window"

/-- Issues of the execution that the decision let through. -/
def executionIssues (evidence : ApprovalEvidence) : List String :=
  let request := evidence.request
  let execution := evidence.execution
  flag (execution.requestId != request.body.id) "execution_request_mismatch" ++
  flag (decide (execution.executedAt < evidence.decision.body.decidedAt) ||
    decide (request.body.expiresAt < execution.executedAt)) "execution_out_of_window" ++
  flag (step.completedAt.all fun completedAt => decide (completedAt < execution.executedAt))
    "approval_execution_outside_step" ++
  flag (!step.output.any fun stepOutput =>
    match P.canonicalize stepOutput, P.canonicalize execution.output with
    | .ok stepOutput, .ok executionOutput => stepOutput == executionOutput
    | _, _ => false) "execution_output_mismatch" ++
  flag (step.proof != some execution.proof) "execution_proof_mismatch" ++
  flag (execution.proof.body.timestamp != execution.executedAt) "execution_timestamp_mismatch" ++
  flag (execution.proof.body.actor != run.actor ||
    execution.proof.body.operation != proofOperation step.operation step.version ||
    execution.proof.body.inputDigest != step.inputDigest) "execution_proof_binding_mismatch" ++
  flag (canonicalDigest P .operationOutput execution.output != some execution.proof.body.outputDigest)
    "execution_proof_output_mismatch" ++
  flag (!execution.proof.verify P runActor.publicKey) "invalid_execution_proof_signature"

variable (trustedApprovers : List Principal)

def approvalEvidenceIssues (step : AgentRunStep) (evidence : ApprovalEvidence) : List String :=
  flag (!trustedApprovers.any fun trusted => samePrincipal trusted evidence.approver) "untrusted_approver" ++
  requestIssues P run runActor step evidence.request ++ decisionIssues P evidence ++
  executionIssues P run runActor step evidence

/-- The form of an approval result that failed before any evidence was looked at. -/
def failedApproval (expectedIndex : Option Nat) (stepId requestId : Option Uuid) (reason : String) : Json :=
  .object [("expected_index", jsonOption jsonNat expectedIndex), ("step_id", jsonOption jsonUuid stepId),
    ("request_id", jsonOption jsonUuid requestId), ("passed", .bool false), ("issues", verdict [reason])]

/-- The result for one step, with the requests used so far. -/
def approvalResult (approvals : List ApprovalEvidence) (step : Option AgentRunStep) (expectedIndex : Option Nat)
    (usedRequestIds : List Uuid) : Json × List Uuid :=
  match step with
  | none => (failedApproval expectedIndex none none "missing_expected_step", usedRequestIds)
  | some step =>
    match step.approvalRequestId with
    | none => (failedApproval expectedIndex (some step.id) none "missing_step_approval_request", usedRequestIds)
    | some requestId =>
      if usedRequestIds.contains requestId then
        (failedApproval expectedIndex (some step.id) (some requestId) "approval_request_reused", usedRequestIds)
      else
        (match approvals.filter fun evidence => decide (evidence.request.body.id = requestId) with
        | [] => failedApproval expectedIndex (some step.id) (some requestId) "missing_approval_evidence"
        | [evidence] =>
          let issues := approvalEvidenceIssues P run runActor trustedApprovers step evidence
          .object [("expected_index", jsonOption jsonNat expectedIndex), ("step_id", jsonUuid step.id),
            ("request_id", jsonUuid requestId), ("approver_id", jsonUuid evidence.approver.id.id),
            ("passed", .bool issues.isEmpty), ("issues", verdict issues)]
        | _ => failedApproval expectedIndex (some step.id) (some requestId) "duplicate_approval_evidence",
        requestId :: usedRequestIds)

/-- The approvals that a policy's calls require, in the order of the calls. -/
def expectedApprovals (run : AgentRun) (runActor : Principal) (trustedApprovers : List Principal)
    (observed : List AgentRunStep) (approvals : List ApprovalEvidence) :
    (index : Nat) → List (ExpectedToolCall × Option Nat) → (checkedSteps usedRequestIds : List Uuid) →
    List Json × List Uuid × List Uuid
  | _, [], checkedSteps, usedRequestIds => ([], checkedSteps, usedRequestIds)
  | index, (expected, position) :: rest, checkedSteps, usedRequestIds =>
    if expected.requiresApprovedExecution then
      let step := position.bind fun position => observed[position]?
      let (result, used) :=
        approvalResult P run runActor trustedApprovers approvals step (some index) usedRequestIds
      let (results, sets) := expectedApprovals run runActor trustedApprovers observed approvals (index + 1) rest
        ((step.map AgentRunStep.id).toList ++ checkedSteps) used
      (result :: results, sets)
    else expectedApprovals run runActor trustedApprovers observed approvals (index + 1) rest checkedSteps usedRequestIds

/-- The approvals of the other steps that carry a request. -/
def carriedApprovals (run : AgentRun) (runActor : Principal) (trustedApprovers : List Principal)
    (approvals : List ApprovalEvidence) :
    List AgentRunStep → (checkedSteps usedRequestIds : List Uuid) → List Json × List Uuid
  | [], _, usedRequestIds => ([], usedRequestIds)
  | step :: steps, checkedSteps, usedRequestIds =>
    if step.approvalRequestId.isSome && !checkedSteps.contains step.id then
      let (result, used) := approvalResult P run runActor trustedApprovers approvals (some step) none usedRequestIds
      let (results, used) := carriedApprovals run runActor trustedApprovers approvals steps
        (step.id :: checkedSteps) used
      (result :: results, used)
    else carriedApprovals run runActor trustedApprovers approvals steps checkedSteps usedRequestIds

def requiredApprovalResults
    (expectedCalls : List ExpectedToolCall) (matchedPositions : List (Option Nat)) (observed : List AgentRunStep)
    (approvals : List ApprovalEvidence) : List Json :=
  let (expected, checkedSteps, used) := expectedApprovals P run runActor trustedApprovers observed approvals 0
    (expectedCalls.zip matchedPositions) [] []
  let (carried, used) := carriedApprovals P run runActor trustedApprovers approvals observed checkedSteps used
  let unused := approvals.filter fun evidence => !used.contains evidence.request.body.id
  expected ++ carried ++
    unused.map fun evidence => failedApproval none none (some evidence.request.body.id) "unused_approval_evidence"

/-- Whether one string occurs in another. -/
def containsText (text part : String) : Bool := decide (part.toList <:+: text.toList)

/-- The text that a reference to a matched step stands for. -/
def referenceValue (reference : FinalOutputReference) (step : AgentRunStep) : Option String :=
  match reference.source with
  | .arguments => (policy.expectedCalls[reference.callIndex]?.bind fun expected =>
      reference.pointer.bind (jsonPointer expected.arguments)).bind (scalarReferenceText T)
  | .output => (reference.pointer.bind fun pointer => step.output.bind fun output =>
      jsonPointer output pointer).bind (scalarReferenceText T)
  | .proofId => step.proof.map fun (proof : Proof) => Executor.uuidText proof.body.id

section Matched
variable (matchedPositions : List (Option Nat)) (observed : List AgentRunStep)

def finalOutputResult (finalOutput : String) (index : Nat) (reference : FinalOutputReference) : Json :=
  let about : List (String × Json) := [("index", jsonNat index), ("call_index", jsonNat reference.callIndex)]
  let named : List (String × Json) := [("source", finalOutputSourceJson reference.source),
    ("pointer", jsonOption Json.string reference.pointer)]
  match (matchedPositions[reference.callIndex]?.join).bind fun position => observed[position]? with
  | none => .object (about ++ named ++ [("issue", .string "expected_call_not_matched"), ("passed", .bool false)])
  | some step =>
    match referenceValue T policy reference step with
    | none => .object (about ++ [("matched_step_id", jsonUuid step.id)] ++ named ++
        [("issue", .string "reference_value_missing_or_not_scalar"), ("passed", .bool false)])
    | some expectedValue =>
      let reported := containsText finalOutput expectedValue
      .object (about ++ [("matched_step_id", jsonUuid step.id)] ++ named ++
        [("expected", .string expectedValue), ("reported", .bool reported), ("passed", .bool reported)])

def finalOutputReferenceResults (events : List AgentRunEvent) : List Json :=
  let finalOutput := (((events.getLast?.filter fun event => event.kind == .completed).bind fun event =>
    dataStr event.data "output").getD "")
  policy.requiredFinalOutputReferences.zipIdx.map fun (reference, index) =>
    finalOutputResult T policy matchedPositions observed finalOutput index reference

def resultPassed (result : Json) : Bool := result.get "passed" == some (.bool true)

structure Check where
  name : String
  passed : Bool
  details : Json

def Check.intoValue (check : Check) : Json :=
  .object [("name", .string check.name), ("passed", .bool check.passed), ("details", check.details)]

def expectedCallMetrics (digests : List ContentDigest)
    (matchedPositions : List (Option Nat)) (observed : List AgentRunStep) : List Json :=
  ((expectedCalls.zip digests).zip matchedPositions).zipIdx.map fun (((expected, digest), position), index) =>
    .object [("index", jsonNat index), ("operation", .string expected.operation), ("version", .string expected.version),
      ("argument_digest", jsonDigest digest),
      ("requires_approved_execution", .bool expected.requiresApprovedExecution),
      ("matched_step_id", jsonOption (fun step => jsonUuid step.id)
        (position.bind fun position => observed[position]?))]

def observedCallMetrics : List Json :=
  observed.map fun step =>
    .object [("step_id", jsonUuid step.id), ("ordinal", jsonNat step.ordinal), ("attempt", jsonNat step.attempt),
      ("operation", .string step.operation), ("version", .string step.version),
      ("argument_digest", jsonDigest step.inputDigest)]

def unallowlistedCalls (agent : AgentDefinition) (observed : List AgentRunStep) : List Json :=
  (observed.filter fun step => !agent.tools.any fun allowed =>
    allowed.operation == step.operation && allowed.version == step.version).map fun step =>
      .object [("step_id", jsonUuid step.id), ("operation", .string step.operation), ("version", .string step.version)]

def failureEvents (events : List AgentRunEvent) : List Json :=
  (events.filter fun event =>
    event.kind == .toolFailed || event.kind == .failed || event.kind == .budgetExceeded).map fun event =>
      .object [("event_id", jsonUuid event.id), ("sequence", jsonNat event.sequence),
        ("kind", eventKindJson event.kind)]

def issueJson (found : Issue) : Json := .object [("code", .string found.code), ("details", found.details)]

/-- The steps matched by calls that require an approved execution. -/
def requiredApprovalStepIds : List Uuid :=
  ((expectedCalls.zip matchedPositions).filter fun (expected, _) => expected.requiresApprovedExecution).filterMap
    fun (_, position) => (position.bind fun position => observed[position]?).map AgentRunStep.id

end Matched

section Evaluate
variable (evaluator : DeterministicTraceEvaluator) (run : AgentRun) (agent : AgentDefinition) (runActor : Principal)
  (trustedApprovers : List Principal) (steps : List AgentRunStep) (events : List AgentRunEvent)
  (approvals : List ApprovalEvidence)

def DeterministicTraceEvaluator.matchedPositions : List (Option Nat) :=
  matchExpectedCalls evaluator.policy.expectedCalls evaluator.expectedArgumentDigests (observedSteps steps)

/-- The ten checks over one trace. -/
def DeterministicTraceEvaluator.checks : List Check :=
  let policy := evaluator.policy
  let observed := observedSteps steps
  let matchedPositions := evaluator.matchedPositions steps
  let matchedCallCount := (matchedPositions.filter Option.isSome).length
  let invalidSteps := observed.filterMap (invalidStepDetails P run runActor)
  let unallowlisted := unallowlistedCalls agent observed
  let approvalResults := requiredApprovalResults P run runActor trustedApprovers policy.expectedCalls matchedPositions
    observed approvals
  let finalOutputResults := finalOutputReferenceResults T policy matchedPositions observed events
  let issues := lifecycleIssues P T run agent observed events approvals
    (requiredApprovalStepIds policy.expectedCalls matchedPositions observed)
  let failures := failureEvents events
  [ { name := "run_succeeded"
      passed := run.status == .succeeded
      details := .object [("status", runStatusJson run.status)] },
    { name := "run_bound_to_agent"
      passed := run.agentId == some agent.id
      details := .object [("run_agent_id", jsonOption jsonUuid run.agentId),
        ("evaluated_agent_id", jsonUuid agent.id)] },
    { name := "trusted_run_actor"
      passed := runActor.id == run.actor && runActor.kind == .agent
      details := .object [("run_actor_id", jsonUuid run.actor.id), ("trusted_actor_id", jsonUuid runActor.id.id),
        ("trusted_actor_kind", principalKindJson runActor.kind)] },
    { name := "expected_tool_calls"
      passed := matchedCallCount == policy.expectedCalls.length &&
        (policy.allowAdditionalCalls || observed.length == policy.expectedCalls.length)
      details := .object [("allow_additional_calls", .bool policy.allowAdditionalCalls),
        ("expected_count", jsonNat policy.expectedCalls.length), ("observed_count", jsonNat observed.length),
        ("matched_count", jsonNat matchedCallCount),
        ("expected", .array (expectedCallMetrics policy.expectedCalls evaluator.expectedArgumentDigests
          matchedPositions observed)),
        ("observed", .array (observedCallMetrics observed))] },
    { name := "successful_steps_with_valid_proofs"
      passed := invalidSteps.isEmpty
      details := .object [("checked_count", jsonNat observed.length), ("invalid_steps", .array invalidSteps)] },
    { name := "calls_allowlisted"
      passed := unallowlisted.isEmpty
      details := .object [("unallowlisted_calls", .array unallowlisted)] },
    { name := "required_approvals"
      passed := approvalResults.all resultPassed
      details := .object [("required", .array approvalResults)] },
    { name := "final_output_references"
      passed := finalOutputResults.all resultPassed
      details := .object [("required", .array finalOutputResults)] },
    { name := "lifecycle_integrity"
      passed := issues.isEmpty
      details := .object [("issues", .array (issues.map issueJson))] },
    { name := "no_failure_events"
      passed := failures.isEmpty
      details := .object [("failure_events", .array failures)] } ]

/-- The bound snapshot of a trace; lists that come in no order are sorted by identifier. -/
def traceSnapshot : Json :=
  .object [("run", runJson T run), ("agent", agentJson T agent), ("run_actor", durablePrincipalBinding runActor),
    ("trusted_approvers", .array ((trustedApprovers.insertionSort fun a b => a.id.id ≤ b.id.id).map
      durablePrincipalBinding)),
    ("steps", .array ((observedSteps steps).map (stepJson T))), ("events", .array (events.map (eventJson T))),
    ("approvals", .array ((approvals.insertionSort fun a b => a.request.body.id ≤ b.request.body.id).map
      (approvalBinding T)))]

def failedCheckNames (checks : List Check) : List String := (checks.filter fun check => !check.passed).map Check.name

/-- Evaluate a trace; the identifier of the evaluation is the one drawn for it. -/
def DeterministicTraceEvaluator.evaluate (evaluatorId : String) (createdAt : Instant) (id : Uuid) :
    Except TraceEvaluationError AgentRunEvaluation := do
  let checks := evaluator.checks P T run agent runActor trustedApprovers steps events approvals
  let passedChecks := (checks.filter Check.passed).length
  let scoreBps := passedChecks * 10000 / checks.length
  let failedNames := failedCheckNames checks
  let outcome := if failedNames.isEmpty then AgentEvaluationOutcome.passed else .failed
  let summary := if failedNames.isEmpty then
      "all " ++ toString checks.length ++ " deterministic task checks passed"
    else "failed deterministic task checks: " ++ String.intercalate ", " failedNames
  let traceDigest ← bindingDigest P traceBindingSchema
    (traceSnapshot T run agent runActor trustedApprovers steps events approvals)
  let metrics := Json.object [("schema", .string metricsSchema), ("evaluation_kind", .string "task_correctness"),
    ("binding", .object [("algorithm", .string "blake3-256"), ("policy_schema", .string policyBindingSchema),
      ("policy_digest", jsonDigest evaluator.policyDigest), ("trace_schema", .string traceBindingSchema),
      ("trace_digest", jsonDigest traceDigest), ("run_revision", jsonNat run.revision),
      ("step_count", jsonNat steps.length), ("event_count", jsonNat events.length),
      ("approval_count", jsonNat approvals.length)]),
    ("passed_checks", jsonNat passedChecks), ("total_checks", jsonNat checks.length), ("score_bps", jsonNat scoreBps),
    ("checks", .array (checks.map Check.intoValue))]
  (AgentRunEvaluation.create P id run evaluatorId outcome (some scoreBps) metrics (some summary) createdAt).mapError
    .evaluation

end Evaluate

end ProofPlatform.Trace
