import ProofPlatform.Executor.Context
import ProofPlatform.Kernel.Agent

/-! The lifecycle check of a persisted trace: step topology, event sequence, and the
walk through the model's turns. -/
namespace ProofPlatform.Trace
open Kernel
open Library.Findings
open Executor (uuidText)

structure ApprovalExecution where
  requestId : Uuid
  executedAt : Instant
  output : Json
  proof : Proof

/-- Persisted evidence for one signed and executed approval lifecycle. -/
structure ApprovalEvidence where
  request : SignedApprovalRequest
  decision : SignedApprovalDecision
  approver : Principal
  execution : ApprovalExecution

structure Issue where
  code : String
  details : Json

/-- Texts that linked libraries write: instants, JSON numbers, and strings as in debug messages. -/
structure TextFormats where
  instant : Instant → String
  number : Number → String
  debug : String → String

def jsonNat (n : Nat) : Json := .number (.posInt n)

def jsonUuid (id : Uuid) : Json := .string (uuidText id)

variable {α : Type}

def jsonOption (encode : α → Json) : Option α → Json
  | none => .null
  | some value => encode value

/-- The octets of a signature, most significant first. -/
def signatureBytes (signature : Signature) : List (BitVec 8) :=
  (List.range 64).map fun i => signature.extractLsb' (8 * (63 - i)) 8

def eventKindJson : AgentRunEventKind → Json
  | .started => .string "started"
  | .modelRequested => .string "model_requested"
  | .modelResponded => .string "model_responded"
  | .toolRequested => .string "tool_requested"
  | .toolSucceeded => .string "tool_succeeded"
  | .toolFailed => .string "tool_failed"
  | .approvalRequired => .string "approval_required"
  | .approvalResumed => .string "approval_resumed"
  | .completed => .string "completed"
  | .failed => .string "failed"
  | .budgetExceeded => .string "budget_exceeded"

def approvalOutcomeJson : ApprovalOutcome → Json
  | .approved => .string "approved"
  | .denied => .string "denied"

def issue (code : String) (details : List (String × Json)) : Issue := ⟨code, .object details⟩

def jsonAsU64 : Json → Option Nat
  | .number (.posInt n) => some n
  | _ => none

def dataStr (data : Json) (key : String) : Option String := (data.get key).bind Json.asStr

variable (P : Primitives) (T : TextFormats)

def dataUuid (data : Json) (key : String) : Option Uuid := (dataStr data key).bind P.parseUuid

def dataPrincipalId (data : Json) (key : String) : Option PrincipalId := (dataUuid P data key).map PrincipalId.mk

def canonicalDigest (kind : ArtifactKind) (value : Json) : Option ContentDigest :=
  (P.canonicalize value).toOption.map (P.digest kind)

/-- The evidence of a request, if exactly one was supplied. -/
def approvalByRequest (approvals : List ApprovalEvidence) (requestId : Uuid) : Option ApprovalEvidence :=
  match approvals.filter fun evidence => decide (evidence.request.body.id = requestId) with
  | [evidence] => some evidence
  | _ => none

def u32Max : Nat := 2 ^ 32 - 1

def saturatingSucc (n : Nat) : Nat := min (n + 1) u32Max

/-- What the walk over the steps remembers. -/
structure StepWalk where
  seenIds : List Uuid
  currentOrdinal : Option Nat
  expectedOrdinal : Nat
  expectedAttempt : Nat
  previousAttempt : Option AgentRunStep

/-- A step with another ordinal opens the attempts of the next call. -/
def StepWalk.enter (walk : StepWalk) (step : AgentRunStep) : StepWalk :=
  if walk.currentOrdinal != some step.ordinal then
    { walk with
      currentOrdinal := some step.ordinal
      expectedOrdinal := saturatingSucc walk.expectedOrdinal
      expectedAttempt := 1
      previousAttempt := none }
  else walk

def StepWalk.advance (walk : StepWalk) (step : AgentRunStep) : StepWalk :=
  { walk.enter step with
    seenIds := step.id :: walk.seenIds
    expectedAttempt := saturatingSucc (walk.enter step).expectedAttempt
    previousAttempt := some step }

def retryIssues (previous : Option AgentRunStep) (step : AgentRunStep) : List Issue :=
  match previous with
  | some previous =>
    let details := [("step_id", jsonUuid step.id), ("retry_of", jsonUuid previous.id)]
    flag (step.retryOf != some previous.id) (issue "step_retry_lineage_invalid"
      [("step_id", jsonUuid step.id), ("expected_retry_of", jsonUuid previous.id)]) ++
    flag (!(previous.status == .failed || previous.status == .cancelled))
      (issue "step_retry_parent_not_retryable" details) ++
    flag (step.operation != previous.operation || step.version != previous.version ||
      step.inputDigest != previous.inputDigest) (issue "step_retry_call_mismatch" details) ++
    flag (previous.completedAt.all fun completedAt => decide (step.createdAt < completedAt))
      (issue "step_retry_precedes_parent_completion" details)
  | none =>
    flag step.retryOf.isSome (issue "first_step_attempt_has_retry_parent"
      [("step_id", jsonUuid step.id), ("retry_of", jsonOption jsonUuid step.retryOf)])

variable (run : AgentRun) (step : AgentRunStep)

def stepTimeIssues : List Issue :=
  let details := [("step_id", jsonUuid step.id)]
  flag (decide (step.createdAt < run.createdAt) || decide (step.updatedAt < step.createdAt))
    (issue "step_timestamp_order_invalid" details) ++
  flag ((step.startedAt.any fun startedAt => decide (startedAt < step.createdAt)) ||
    (step.completedAt.any fun completedAt =>
      step.startedAt.all fun startedAt => decide (completedAt < startedAt)))
    (issue "step_execution_window_invalid" details) ++
  flag (run.completedAt.any fun runCompletedAt =>
    decide (runCompletedAt < step.createdAt) || decide (runCompletedAt < step.updatedAt) ||
      (step.startedAt.any fun startedAt => decide (runCompletedAt < startedAt)) ||
      (step.completedAt.any fun completedAt => decide (runCompletedAt < completedAt)))
    (issue "step_timestamp_outside_run" details)

/-- What one step adds to the issues found before it. -/
def stepIssues (walk : StepWalk) (step : AgentRunStep) : List Issue :=
  flag (walk.seenIds.contains step.id) (issue "duplicate_step_id" [("step_id", jsonUuid step.id)]) ++
  flag (walk.currentOrdinal != some step.ordinal && step.ordinal != walk.expectedOrdinal)
    (issue "step_ordinal_not_contiguous" [("step_id", jsonUuid step.id),
      ("expected", jsonNat walk.expectedOrdinal), ("actual", jsonNat step.ordinal)]) ++
  flag (step.attempt != (walk.enter step).expectedAttempt)
    (issue "step_attempt_not_contiguous" [("step_id", jsonUuid step.id),
      ("expected", jsonNat (walk.enter step).expectedAttempt), ("actual", jsonNat step.attempt)]) ++
  retryIssues (walk.enter step).previousAttempt step ++ stepTimeIssues run step

def walkSteps (run : AgentRun) (walk : StepWalk) : List AgentRunStep → List Issue
  | [] => []
  | step :: steps => stepIssues run walk step ++ walkSteps run (walk.advance step) steps

def runTimeIssues : List Issue :=
  flag (decide (run.updatedAt < run.createdAt)) (issue "run_timestamp_order_invalid" []) ++
  match run.completedAt with
  | some completedAt =>
    if completedAt < run.createdAt ∨ completedAt ≠ run.updatedAt then
      [issue "run_completion_timestamp_invalid" []]
    else flag (!run.status.isTerminal) (issue "nonterminal_run_has_completion" [])
  | none => flag run.status.isTerminal (issue "terminal_run_completion_missing" [])

def stepTopologyIssues (observedSteps : List AgentRunStep) : List Issue :=
  runTimeIssues run ++ walkSteps run
    { seenIds := [], currentOrdinal := none, expectedOrdinal := 0, expectedAttempt := 1, previousAttempt := none }
    observedSteps

def namesOperation (data : Json) : Bool :=
  dataStr data "operation" == some step.operation && dataStr data "version" == some step.version

def validateToolRequested (decision : Json) (event : AgentRunEvent) : List Issue :=
  let callId := dataStr event.data "call_id"
  let eventArguments := event.data.get "arguments"
  let decisionArguments := decision.get "arguments"
  flag (dataUuid P event.data "step_id" != some step.id) (issue "tool_requested_step_mismatch" []) ++
  flag (!namesOperation step event.data) (issue "tool_requested_operation_mismatch" []) ++
  flag (callId.all isBlank || callId != dataStr decision "call_id") (issue "tool_requested_call_id_mismatch" []) ++
  flag (dataStr event.data "tool" != dataStr decision "name") (issue "tool_requested_name_mismatch" []) ++
  flag (eventArguments.bind (canonicalDigest P .operationInput) != some step.inputDigest)
    (issue "tool_requested_arguments_mismatch" []) ++
  flag (match eventArguments, decisionArguments with
    | some eventArguments, some decisionArguments =>
      (P.canonicalize eventArguments).toOption != (P.canonicalize decisionArguments).toOption
    | _, _ => true) (issue "model_tool_arguments_mismatch" [])

def namesRequest (requestId : Uuid) (data : Json) : Bool :=
  dataUuid P data "step_id" == some step.id && dataUuid P data "request_id" == some requestId

def validateApprovalRequired (requestId : Uuid) (toolRequested event : AgentRunEvent)
    (approvals : List ApprovalEvidence) : List Issue :=
  flag (!namesRequest P step requestId event.data) (issue "approval_required_id_mismatch" []) ++
  flag (!namesOperation step event.data) (issue "approval_required_operation_mismatch" []) ++
  match approvalByRequest approvals requestId with
  | none => [issue "approval_required_evidence_missing" []]
  | some evidence =>
    let request := evidence.request.body
    flag (event.data.get "expires_at" != some (.string (T.instant request.expiresAt)))
      (issue "approval_required_expiration_mismatch" []) ++
    flag (decide (event.createdAt < request.requestedAt) || decide (request.expiresAt < event.createdAt))
      (issue "approval_required_timestamp_out_of_window" []) ++
    flag (decide (request.requestedAt < toolRequested.createdAt)) (issue "approval_request_precedes_tool" [])

def validateApprovalResumed (requestId : Uuid) (required event : AgentRunEvent)
    (approvals : List ApprovalEvidence) : List Issue :=
  flag (!namesRequest P step requestId event.data) (issue "approval_resumed_id_mismatch" []) ++
  match approvalByRequest approvals requestId with
  | none => [issue "approval_resumed_evidence_missing" []]
  | some evidence =>
    let decision := evidence.decision.body
    flag (dataPrincipalId P event.data "decided_by" != some decision.decidedBy ||
      event.data.get "outcome" != some (approvalOutcomeJson decision.outcome))
      (issue "approval_resumed_decision_mismatch" []) ++
    flag (decide (event.createdAt < decision.decidedAt) ||
      decide (evidence.request.body.expiresAt < event.createdAt))
      (issue "approval_resumed_timestamp_out_of_window" []) ++
    flag (decide (decision.decidedAt < required.createdAt)) (issue "approval_decision_precedes_required_event" []) ++
    flag (decide (evidence.execution.executedAt < event.createdAt))
      (issue "approval_execution_precedes_resumed_event" [])

def validateToolSucceeded (callId : String) (event : AgentRunEvent) : List Issue :=
  flag (dataUuid P event.data "step_id" != some step.id) (issue "tool_succeeded_step_mismatch" []) ++
  flag (dataStr event.data "call_id" != some callId) (issue "tool_succeeded_call_id_mismatch" []) ++
  flag (!namesOperation step event.data) (issue "tool_succeeded_operation_mismatch" []) ++
  flag (dataUuid P event.data "proof_id" != step.proof.map fun proof => proof.body.id)
    (issue "tool_succeeded_proof_mismatch" []) ++
  flag ((step.proof.any fun proof => decide (event.createdAt < proof.body.timestamp)) ||
    (step.completedAt.any fun completedAt => decide (event.createdAt < completedAt)))
    (issue "tool_succeeded_timestamp_precedes_step" [])

variable (agent : AgentDefinition) (observedSteps : List AgentRunStep) (events : List AgentRunEvent)
  (approvals : List ApprovalEvidence) (requiredApprovalStepIds : List Uuid)

/-- A part of the walk: the issues it found, and where it goes on unless it broke off. -/
structure Walked (α : Type) where
  issues : List Issue
  next : Option α

/-- Break off with one more issue. -/
def Walked.stop (code : String) (details : List (String × Json)) : Walked α :=
  ⟨[issue code details], none⟩

def Walked.goOn (next : α) : Walked α := ⟨[], some next⟩

/-- Issues found on the way to the rest of the walk. -/
def Walked.after (issues : List Issue) (walked : Walked α) : Walked α :=
  ⟨issues ++ walked.issues, walked.next⟩

def Walked.then {α β : Type} (walked : Walked α) (rest : α → Walked β) : Walked β :=
  match walked.next with
  | none => ⟨walked.issues, none⟩
  | some next => Walked.after walked.issues (rest next)

/-- The event expected at an index; the walk breaks off when it is missing or of another kind. -/
def expectEvent (index : Nat) (kind : AgentRunEventKind) (missing outOfOrder : Issue) : Walked AgentRunEvent :=
  match events[index]? with
  | none => ⟨[missing], none⟩
  | some event => if event.kind = kind then .goOn event else ⟨[outOfOrder], none⟩

def kindAt (index : Nat) : Json := jsonOption (fun event => eventKindJson event.kind) events[index]?

/-- The approval pause of a tool turn, if its step has a request; ends at the index after it. -/
def approvalPause (step : AgentRunStep) (toolRequested : AgentRunEvent) (index : Nat) : Walked Nat :=
  match step.approvalRequestId with
  | none => .goOn index
  | some requestId =>
    (expectEvent events index .approvalRequired
      (issue "approval_required_missing" [("step_id", jsonUuid step.id)])
      (issue "approval_required_out_of_order" [("index", jsonNat index), ("kind", kindAt events index)])).then
    fun required => .after (validateApprovalRequired P T step requestId toolRequested required approvals) <|
    (expectEvent events (index + 1) .approvalResumed
      (issue "approval_resumed_missing" [("step_id", jsonUuid step.id)])
      (issue "approval_resumed_out_of_order"
        [("index", jsonNat (index + 1)), ("kind", kindAt events (index + 1))])).then
    fun resumed => .after (validateApprovalResumed P step requestId required resumed approvals) <|
    .goOn (index + 2)

/-- The events of one tool turn from its request on; ends at the index after it. -/
def toolTurn (stepIndex : Nat) (decision : Json) (index : Nat) : Walked Nat :=
  match observedSteps[stepIndex]? with
  | none => .stop "tool_event_without_step" [("index", jsonNat index)]
  | some step =>
    (expectEvent events index .toolRequested
      (issue "tool_requested_missing" [("step_id", jsonUuid step.id)])
      (issue "tool_requested_out_of_order" [("index", jsonNat index), ("kind", kindAt events index)])).then
    fun toolRequested => .after (validateToolRequested P step decision toolRequested) <|
    .after (flag (requiredApprovalStepIds.contains step.id && step.approvalRequestId.isNone)
      (issue "required_step_approval_request_missing" [("step_id", jsonUuid step.id)])) <|
    (approvalPause P T events approvals step toolRequested (index + 1)).then
    fun index =>
    (expectEvent events index .toolSucceeded
      (issue "tool_succeeded_missing" [("step_id", jsonUuid step.id)])
      (issue "tool_succeeded_out_of_order" [("index", jsonNat index), ("kind", kindAt events index)])).then
    fun succeeded =>
    .after (validateToolSucceeded P step ((dataStr toolRequested.data "call_id").getD "") succeeded) <|
    .goOn (index + 1)

/-- What a model request must say about its place in the conversation. -/
def modelRequestIssues (index modelCall : Nat) (previousResponseId : Option String) (requested : AgentRunEvent) :
    List Issue :=
  flag (dataStr requested.data "model" != some agent.model)
    (issue "model_request_model_mismatch" [("index", jsonNat index)]) ++
  flag ((requested.data.get "model_call").bind jsonAsU64 != some modelCall)
    (issue "model_call_number_mismatch" [("index", jsonNat index), ("expected", jsonNat modelCall)]) ++
  flag (dataStr requested.data "previous_response_id" != previousResponseId)
    (issue "previous_response_id_mismatch" [("index", jsonNat index)])

def responseId (responded : AgentRunEvent) : Option String :=
  (dataStr responded.data "response_id").filter fun responseId => !isBlank responseId

def decisionOf (responded : AgentRunEvent) : Json := (responded.data.get "decision").getD .null

def finishIssues (decision : Json) (completedOutput : Option String) (index lastIndex : Nat) : List Issue :=
  let finishOutput := dataStr decision "output"
  flag (index != lastIndex) (issue "finish_not_followed_by_completed" [("index", jsonNat index)]) ++
  flag (finishOutput.all isBlank) (issue "finish_output_empty" []) ++
  flag (finishOutput != completedOutput) (issue "finish_completed_output_mismatch" [])

/-- What the loop over the turns leaves: its issues, the steps bound and whether the model finished. -/
structure TurnsOutcome where
  issues : List Issue
  stepIndex : Nat
  sawFinish : Bool

def TurnsOutcome.after (issues : List Issue) (outcome : TurnsOutcome) : TurnsOutcome :=
  { outcome with issues := issues ++ outcome.issues }

/-- The loop over the model's turns. The index moves by at least three: the events are fuel enough. -/
def modelTurns (completedOutput : Option String) (lastIndex : Nat) :
    (fuel index stepIndex modelCall : Nat) → (previousResponseId : Option String) → TurnsOutcome
  | 0, _, stepIndex, _, _ => ⟨[], stepIndex, false⟩
  | fuel + 1, index, stepIndex, modelCall, previousResponseId =>
    if index < lastIndex then
      match events[index]? with
      | none => ⟨[], stepIndex, false⟩
      | some requested =>
        if requested.kind ≠ .modelRequested then
          ⟨[issue "expected_model_requested" [("index", jsonNat index), ("kind", eventKindJson requested.kind)]],
            stepIndex, false⟩
        else .after (modelRequestIssues agent index modelCall previousResponseId requested) <|
          match events[index + 1]? with
          | none => ⟨[issue "model_response_missing" [("index", jsonNat index)]], stepIndex, false⟩
          | some responded =>
            if responded.kind ≠ .modelResponded then
              ⟨[issue "model_request_not_paired"
                [("index", jsonNat index), ("next_kind", eventKindJson responded.kind)]], stepIndex, false⟩
            else .after (flag (responseId responded).isNone
                (issue "model_response_id_empty" [("index", jsonNat (index + 1))])) <|
              match dataStr (decisionOf responded) "type" with
              | some "tool_call" =>
                let turn := toolTurn P T observedSteps events approvals requiredApprovalStepIds stepIndex
                  (decisionOf responded) (index + 2)
                .after turn.issues <|
                  match turn.next with
                  | none => ⟨[], stepIndex, false⟩
                  | some index =>
                    modelTurns completedOutput lastIndex fuel index (stepIndex + 1) (modelCall + 1)
                      (responseId responded)
              | some "finish" =>
                ⟨finishIssues (decisionOf responded) completedOutput (index + 2) lastIndex, stepIndex, true⟩
              | _ => ⟨[issue "invalid_model_decision" [("index", jsonNat (index + 2 - 1))]], stepIndex, false⟩
    else ⟨[], stepIndex, false⟩

/-- Per-event checks, given the index of the first event and the event before it. -/
def eventIssues (run : AgentRun) (index : Nat) (previous : Option AgentRunEvent) : List AgentRunEvent → List Issue
  | [] => []
  | event :: events =>
    flag (previous.any fun previous => decide (event.createdAt < previous.createdAt))
      (issue "event_timestamp_not_monotonic" [("index", jsonNat index),
        ("previous_created_at", jsonOption (fun previous => .string (T.instant previous.createdAt)) previous),
        ("created_at", .string (T.instant event.createdAt))]) ++
    flag (event.runId != run.id)
      (issue "event_run_mismatch" [("index", jsonNat index), ("event_id", jsonUuid event.id)]) ++
    flag (event.sequence != index)
      (issue "event_sequence_not_contiguous" [("index", jsonNat index), ("sequence", jsonNat event.sequence)]) ++
    flag (canonicalDigest P .agentEvent event.data != some event.dataDigest)
      (issue "invalid_event_data_digest" [("index", jsonNat index), ("sequence", jsonNat event.sequence)]) ++
    eventIssues run (index + 1) (some event) events

def startedIssues (started : AgentRunEvent) : List Issue :=
  if started.kind ≠ .started then [issue "started_event_not_first" [("first_kind", eventKindJson started.kind)]]
  else
    flag (decide (started.createdAt < run.createdAt)) (issue "started_event_precedes_run" []) ++
    flag (dataUuid P started.data "agent_id" != some agent.id) (issue "started_agent_mismatch" []) ++
    flag (dataStr started.data "goal" != some run.goal) (issue "started_goal_mismatch" [])

def countKind (kind : AgentRunEventKind) : Nat :=
  (events.filter fun event => decide (event.kind = kind)).length

def completedIssues (completed : AgentRunEvent) : List Issue :=
  flag (run.completedAt.all fun completedAt => decide (completed.createdAt < completedAt))
    (issue "completed_event_precedes_run_completion" []) ++
  flag ((dataStr completed.data "output").all isBlank) (issue "completed_output_empty" []) ++
  flag (countKind events .started != 1) (issue "started_event_count_invalid" []) ++
  flag (countKind events .completed != 1) (issue "completed_event_count_invalid" [])

/-- The walk over the turns and the count of the steps it bound. -/
def turnIssues (completedOutput : Option String) : List Issue :=
  let outcome := modelTurns P T agent observedSteps events approvals requiredApprovalStepIds completedOutput
    (events.length - 1) events.length 1 0 1 none
  outcome.issues ++
  flag (!outcome.sawFinish) (issue "missing_finish_decision" []) ++
  flag (outcome.stepIndex != observedSteps.length) (issue "step_event_count_mismatch"
    [("steps", jsonNat observedSteps.length), ("bound_steps", jsonNat outcome.stepIndex)])

/-- Everything wrong with the lifecycle of a trace. -/
def lifecycleIssues : List Issue :=
  stepTopologyIssues run observedSteps ++ eventIssues P T run 0 none events ++
  match events.head?, events.getLast? with
  | some started, some completed =>
    startedIssues P run agent started ++
    if completed.kind ≠ .completed then
      [issue "completed_event_not_last" [("last_kind", eventKindJson completed.kind)]]
    else
      completedIssues run events completed ++
      if started.kind ≠ .started then []
      else turnIssues P T agent observedSteps events approvals requiredApprovalStepIds
        (dataStr completed.data "output")
  | _, _ => [issue "missing_started_event" [], issue "missing_completed_event" []]

end ProofPlatform.Trace
