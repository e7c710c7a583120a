import ProofPlatform.Trace.Lifecycle

/-! The JSON forms of the records that an evaluation binds, and references into JSON. -/
namespace ProofPlatform.Trace
open Kernel

/-- Two lower-case hexadecimal digits for each octet, most significant first. -/
def digestHex (digest : ContentDigest) : String :=
  String.ofList ((List.range 64).map fun i =>
    Nat.digitChar (digest.bytes.extractLsb' (4 * (63 - i)) 4).toNat)

def jsonDigest (digest : ContentDigest) : Json := .string (digestHex digest)

def jsonBytes (bytes : List (BitVec 8)) : Json := .array (bytes.map fun byte => jsonNat byte.toNat)

/-- A member that is left out when there is no value. -/
def optionalMember {α : Type} (key : String) (encode : α → Json) (value : Option α) : List (String × Json) :=
  value.toList.map fun value => (key, encode value)

def principalKindJson : PrincipalKind → Json
  | .human => .string "human"
  | .agent => .string "agent"
  | .service => .string "service"

def runStatusJson : AgentRunStatus → Json
  | .queued => .string "queued"
  | .running => .string "running"
  | .waitingForInput => .string "waiting_for_input"
  | .succeeded => .string "succeeded"
  | .failed => .string "failed"
  | .cancelled => .string "cancelled"

def stepStatusJson : AgentRunStepStatus → Json
  | .pending => .string "pending"
  | .running => .string "running"
  | .waitingForApproval => .string "waiting_for_approval"
  | .succeeded => .string "succeeded"
  | .failed => .string "failed"
  | .cancelled => .string "cancelled"

def runModeJson : AgentRunMode → Json
  | .oneShot => .string "one_shot"
  | .session => .string "session"

/-- The fields of a principal that a store keeps; the creation time is not one of them. -/
def durablePrincipalBinding (principal : Principal) : Json :=
  .object [("id", jsonUuid principal.id.id), ("kind", principalKindJson principal.kind),
    ("public_key", jsonBytes ((List.range 32).map fun i => principal.publicKey.extractLsb' (8 * (31 - i)) 8))]

def agentJson (T : TextFormats) (agent : AgentDefinition) : Json :=
  .object [("id", jsonUuid agent.id), ("name", .string agent.name), ("instructions", .string agent.instructions),
    ("provider", .string agent.provider), ("model", .string agent.model),
    ("tools", .array (agent.tools.map fun tool =>
      .object [("operation", .string tool.operation), ("version", .string tool.version)])),
    ("limits", .object ([("max_steps", jsonNat agent.limits.maxSteps),
      ("max_model_calls", jsonNat agent.limits.maxModelCalls),
      ("max_total_tokens", jsonNat agent.limits.maxTotalTokens),
      ("max_duration_seconds", jsonNat agent.limits.maxDurationSeconds),
      ("max_output_tokens_per_call", jsonNat agent.limits.maxOutputTokensPerCall)] ++
      optionalMember "max_cost_microusd" jsonNat agent.limits.maxCostMicrousd)),
    ("created_at", .string (T.instant agent.createdAt))]

variable (T : TextFormats)

def jsonInstant (instant : Instant) : Json := .string (T.instant instant)

def runJson (run : AgentRun) : Json :=
  .object ([("id", jsonUuid run.id), ("actor", jsonUuid run.actor.id)] ++
    optionalMember "agent_id" jsonUuid run.agentId ++
    [("mode", runModeJson run.mode), ("goal", .string run.goal), ("status", runStatusJson run.status),
      ("retry_count", jsonNat run.retryCount), ("revision", jsonNat run.revision),
      ("created_at", jsonInstant T run.createdAt), ("updated_at", jsonInstant T run.updatedAt)] ++
    optionalMember "completed_at" (jsonInstant T) run.completedAt)

def proofJson (proof : Proof) : Json :=
  .object [("body", .object ([("id", jsonUuid proof.body.id), ("actor", jsonUuid proof.body.actor.id)] ++
      optionalMember "delegation_id" jsonUuid proof.body.delegationId ++
      [("operation", .string proof.body.operation), ("input_digest", jsonDigest proof.body.inputDigest),
        ("output_digest", jsonDigest proof.body.outputDigest), ("timestamp", jsonInstant T proof.body.timestamp)] ++
      optionalMember "expires_at" (jsonInstant T) proof.body.expiresAt)),
    ("signature", jsonBytes (signatureBytes proof.signature))]

def stepJson (step : AgentRunStep) : Json :=
  .object ([("id", jsonUuid step.id), ("run_id", jsonUuid step.runId), ("ordinal", jsonNat step.ordinal),
      ("attempt", jsonNat step.attempt)] ++
    optionalMember "retry_of" jsonUuid step.retryOf ++
    [("operation", .string step.operation), ("version", .string step.version),
      ("input_digest", jsonDigest step.inputDigest), ("status", stepStatusJson step.status)] ++
    optionalMember "approval_request_id" jsonUuid step.approvalRequestId ++
    optionalMember "output" id step.output ++ optionalMember "proof" (proofJson T) step.proof ++
    optionalMember "error" Json.string step.error ++
    [("revision", jsonNat step.revision), ("created_at", jsonInstant T step.createdAt),
      ("updated_at", jsonInstant T step.updatedAt)] ++
    optionalMember "started_at" (jsonInstant T) step.startedAt ++
    optionalMember "completed_at" (jsonInstant T) step.completedAt)

def eventJson (event : AgentRunEvent) : Json :=
  .object [("id", jsonUuid event.id), ("run_id", jsonUuid event.runId), ("sequence", jsonNat event.sequence),
    ("kind", eventKindJson event.kind), ("data", event.data), ("data_digest", jsonDigest event.dataDigest),
    ("created_at", jsonInstant T event.createdAt)]

def approvalRequestJson (request : SignedApprovalRequest) : Json :=
  .object [("body", .object [("id", jsonUuid request.body.id), ("operation", .string request.body.operation),
      ("version", .string request.body.version), ("input_digest", jsonDigest request.body.inputDigest),
      ("requested_by", jsonUuid request.body.requestedBy.id), ("requested_at", jsonInstant T request.body.requestedAt),
      ("expires_at", jsonInstant T request.body.expiresAt)]),
    ("signature", jsonBytes request.signature)]

def approvalDecisionJson (decision : SignedApprovalDecision) : Json :=
  .object [("body", .object ([("id", jsonUuid decision.body.id), ("request_id", jsonUuid decision.body.requestId),
      ("request_digest", jsonDigest decision.body.requestDigest),
      ("outcome", approvalOutcomeJson decision.body.outcome), ("decided_by", jsonUuid decision.body.decidedBy.id),
      ("decided_at", jsonInstant T decision.body.decidedAt)] ++
      optionalMember "reason" Json.string decision.body.reason)),
    ("signature", jsonBytes decision.signature)]

def approvalBinding (approval : ApprovalEvidence) : Json :=
  .object [("request", approvalRequestJson T approval.request),
    ("decision", approvalDecisionJson T approval.decision),
    ("approver", durablePrincipalBinding approval.approver),
    ("execution", .object [("request_id", jsonUuid approval.execution.requestId),
      ("executed_at", jsonInstant T approval.execution.executedAt), ("output", approval.execution.output),
      ("proof", proofJson T approval.execution.proof)])]

/-- Replace each occurrence of two characters in a row, from the left. -/
def replacePair (first second with_ : Char) : List Char → List Char
  | a :: b :: rest =>
    if a = first ∧ b = second then with_ :: replacePair first second with_ rest
    else a :: replacePair first second with_ (b :: rest)
  | rest => rest

/-- An array index in a pointer: digits without a leading zero. -/
def parseIndex (token : List Char) : Option Nat :=
  if token.isEmpty || !token.all Char.isDigit || (token.head? == some '0' && token.length != 1) then none
  else some (token.foldl (fun n c => 10 * n + (c.toNat - '0'.toNat)) 0)

def followToken (value : Json) (token : List Char) : Option Json :=
  match value with
  | .object members => members.lookup (String.ofList token)
  | .array items => (parseIndex token).bind fun index => items[index]?
  | _ => none

/-- The value a JSON pointer selects. -/
def jsonPointer (value : Json) (pointer : String) : Option Json :=
  match pointer.toList with
  | [] => some value
  | '/' :: rest =>
    ((rest.splitOn '/').map fun token => replacePair '~' '0' '~' (replacePair '~' '1' '/' token)).foldlM
      followToken value
  | _ => none

/-- The text of a scalar, unless it is blank. -/
def scalarReferenceText (value : Json) : Option String :=
  (match value with
  | .string text => some text
  | .number number => some (T.number number)
  | .bool true => some "true"
  | .bool false => some "false"
  | _ => none).filter fun text => !isBlank text

end ProofPlatform.Trace
