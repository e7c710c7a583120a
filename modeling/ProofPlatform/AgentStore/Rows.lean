import ProofPlatform.AgentStore.Recording
import ProofPlatform.Executor.ReplayStore
import ProofPlatform.Library.Statements
import ProofPlatform.Trace.Wire

/-! The agent and approval tables of `SqliteStore`, row by row, and every call that writes to them. A JSON column holds
its value with the members in the order of the text; the other columns hold the values their texts encode. -/
namespace ProofPlatform.AgentRows
open Kernel Executor Library Fallible Transaction Tx
open AgentStore (followingSequence)
open Trace Table

structure DefinitionRow where
  id : Uuid
  name : String
  provider : String
  model : String
  createdAt : Instant
  definitionJson : Json

structure RunRow where
  id : Uuid
  actor : PrincipalId
  agentId : Option Uuid
  mode : AgentRunMode
  status : AgentRunStatus
  revision : Nat
  createdAt : Instant
  updatedAt : Instant
  runJson : Json
  deriving DecidableEq

structure StepRow where
  id : Uuid
  runId : Uuid
  ordinal : Nat
  attempt : Nat
  status : AgentRunStepStatus
  approvalRequestId : Option Uuid
  revision : Nat
  createdAt : Instant
  updatedAt : Instant
  stepJson : Json
  deriving DecidableEq

structure CheckpointRow where
  id : Uuid
  runId : Uuid
  sequence : Nat
  stateDigest : ContentDigest
  createdAt : Instant
  checkpointJson : Json
  deriving DecidableEq

structure EventRow where
  id : Uuid
  runId : Uuid
  sequence : Nat
  kind : AgentRunEventKind
  dataDigest : ContentDigest
  createdAt : Instant
  eventJson : Json

structure EvaluationRow where
  id : Uuid
  runId : Uuid
  evaluator : String
  outcome : AgentEvaluationOutcome
  scoreBps : Option Nat
  createdAt : Instant
  evaluationJson : Json

structure RequestRow where
  id : Uuid
  requestedBy : PrincipalId
  operation : String
  version : String
  inputDigest : ContentDigest
  requestedAt : Instant
  expiresAt : Instant
  requestJson : Json

structure DecisionRow where
  id : Uuid
  requestId : Uuid
  decidedBy : PrincipalId
  outcome : ApprovalOutcome
  decidedAt : Instant
  decisionJson : Json

structure ExecutionRow where
  requestId : Uuid
  executedAt : Instant
  outputJson : Json
  proofJson : Json

structure ClaimRow where
  readinessBindingDigest : ContentDigest
  setupDigest : ContentDigest
  schema : String
  runId : Uuid
  initialCheckpointId : Uuid
  startedEventId : Uuid
  claimedAt : Instant
  claimJson : Json
  initialRunJson : Json

/-- The tables; of the governed operator's, the columns that the guards read. -/
structure AgentTables where
  principals : List PrincipalId
  definitions : List DefinitionRow
  runs : List RunRow
  steps : List StepRow
  checkpoints : List CheckpointRow
  events : List EventRow
  evaluations : List EvaluationRow
  requests : List RequestRow
  decisions : List DecisionRow
  executions : List ExecutionRow
  claims : List ClaimRow
  governedRuns : List Uuid
  governedApprovals : List Uuid

/-- The tables as the migrations create them. -/
def AgentTables.empty : AgentTables := ⟨[], [], [], [], [], [], [], [], [], [], [], [], []⟩

abbrev RowM := Tx Bool AgentTables StorageError

abbrev statement : RowM Unit := Statements.statement .database

abbrev select {α : Type} (query : AgentTables → α) : RowM α := Statements.select .database query

abbrev execute (constraint : AgentTables → Bool) (update : AgentTables → AgentTables) : RowM Unit :=
  Statements.execute .database constraint update

def conflict {α : Type} (message : String) : RowM α := lift (.error (.conflict message))

def conflictIf (condition : Bool) (message : String) : RowM Unit := lift (reject condition (.conflict message))

/-- What the serializer's derived readers make of a JSON column. -/
structure Readers where
  run : Json → Option AgentRun
  step : Json → Option AgentRunStep
  checkpoint : Json → Option AgentCheckpoint
  event : Json → Option AgentRunEvent
  claim : Json → Option LiveRunStartClaim

section Encoding
variable (T : TextFormats)

def checkpointJson (checkpoint : AgentCheckpoint) : Json :=
  .object [("id", jsonUuid checkpoint.id), ("run_id", jsonUuid checkpoint.runId),
    ("sequence", jsonNat checkpoint.sequence), ("state", checkpoint.state),
    ("state_digest", jsonDigest checkpoint.stateDigest), ("created_at", jsonInstant T checkpoint.createdAt)]

def evaluationOutcomeJson : AgentEvaluationOutcome → Json
  | .passed => .string "passed"
  | .failed => .string "failed"

def evaluationJson (evaluation : AgentRunEvaluation) : Json :=
  .object ([("id", jsonUuid evaluation.id), ("run_id", jsonUuid evaluation.runId),
      ("evaluator", .string evaluation.evaluator), ("outcome", evaluationOutcomeJson evaluation.outcome)] ++
    optionalMember "score_bps" jsonNat evaluation.scoreBps ++ [("metrics", evaluation.metrics)] ++
    optionalMember "summary" Json.string evaluation.summary ++ [("created_at", jsonInstant T evaluation.createdAt)])

def claimJson (claim : LiveRunStartClaim) : Json :=
  .object [("schema", .string claim.schema), ("readiness_binding_digest", jsonDigest claim.readinessBindingDigest),
    ("setup_digest", jsonDigest claim.setupDigest)]

def definitionRow (agent : AgentDefinition) : DefinitionRow where
  id := agent.id
  name := agent.name
  provider := agent.provider
  model := agent.model
  createdAt := agent.createdAt
  definitionJson := agentJson T agent

def runRow (run : AgentRun) : RunRow where
  id := run.id
  actor := run.actor
  agentId := run.agentId
  mode := run.mode
  status := run.status
  revision := run.revision
  createdAt := run.createdAt
  updatedAt := run.updatedAt
  runJson := runJson T run

def stepRow (step : AgentRunStep) : StepRow where
  id := step.id
  runId := step.runId
  ordinal := step.ordinal
  attempt := step.attempt
  status := step.status
  approvalRequestId := step.approvalRequestId
  revision := step.revision
  createdAt := step.createdAt
  updatedAt := step.updatedAt
  stepJson := stepJson T step

def checkpointRow (checkpoint : AgentCheckpoint) : CheckpointRow where
  id := checkpoint.id
  runId := checkpoint.runId
  sequence := checkpoint.sequence
  stateDigest := checkpoint.stateDigest
  createdAt := checkpoint.createdAt
  checkpointJson := checkpointJson T checkpoint

def eventRow (event : AgentRunEvent) : EventRow where
  id := event.id
  runId := event.runId
  sequence := event.sequence
  kind := event.kind
  dataDigest := event.dataDigest
  createdAt := event.createdAt
  eventJson := eventJson T event

def evaluationRow (evaluation : AgentRunEvaluation) : EvaluationRow where
  id := evaluation.id
  runId := evaluation.runId
  evaluator := evaluation.evaluator
  outcome := evaluation.outcome
  scoreBps := evaluation.scoreBps
  createdAt := evaluation.createdAt
  evaluationJson := evaluationJson T evaluation

def requestRow (request : SignedApprovalRequest) : RequestRow where
  id := request.body.id
  requestedBy := request.body.requestedBy
  operation := request.body.operation
  version := request.body.version
  inputDigest := request.body.inputDigest
  requestedAt := request.body.requestedAt
  expiresAt := request.body.expiresAt
  requestJson := approvalRequestJson T request

def decisionRow (decision : SignedApprovalDecision) : DecisionRow where
  id := decision.body.id
  requestId := decision.body.requestId
  decidedBy := decision.body.decidedBy
  outcome := decision.body.outcome
  decidedAt := decision.body.decidedAt
  decisionJson := approvalDecisionJson T decision

def executionRow (execution : ApprovalExecution) : ExecutionRow where
  requestId := execution.requestId
  executedAt := execution.executedAt
  outputJson := execution.output
  proofJson := proofJson T execution.proof

def claimRow (claim : LiveRunStartClaim) (initialRun : AgentRun) (initialCheckpointId startedEventId : Uuid) :
    ClaimRow where
  readinessBindingDigest := claim.readinessBindingDigest
  setupDigest := claim.setupDigest
  schema := claim.schema
  runId := initialRun.id
  initialCheckpointId
  startedEventId
  claimedAt := initialRun.createdAt
  claimJson := claimJson claim
  initialRunJson := runJson T initialRun

end Encoding

/-! The guards of the writes. -/

def AgentTables.run? (t : AgentTables) (runId : Uuid) : Option RunRow := lookup RunRow.id t.runs runId

def AgentTables.step? (t : AgentTables) (stepId : Uuid) : Option StepRow := lookup StepRow.id t.steps stepId

/-- The step that an approval request is bound to. -/
def AgentTables.boundStep? (t : AgentTables) (requestId : Uuid) : Option StepRow :=
  t.steps.find? fun row => decide (row.approvalRequestId = some requestId)

def rejectIfOperatorGovernedRun (runId : Uuid) (action : String) : RowM Unit := do
  let governed ← select fun t => t.governedRuns.contains runId
  conflictIf governed
    ("operator-governed run " ++ uuidText runId ++ " may not use the legacy storage path to " ++ action)

/-- The event ends the trace of a run in this status. -/
def sealsTrace (status : AgentRunStatus) (kind : AgentRunEventKind) : Bool :=
  match status, kind with
  | .succeeded, .completed | .failed, .failed | .failed, .budgetExceeded => true
  | _, _ => false

def eventKindName : AgentRunEventKind → String
  | .started => "started"
  | .modelRequested => "model_requested"
  | .modelResponded => "model_responded"
  | .toolRequested => "tool_requested"
  | .toolSucceeded => "tool_succeeded"
  | .toolFailed => "tool_failed"
  | .approvalRequired => "approval_required"
  | .approvalResumed => "approval_resumed"
  | .completed => "completed"
  | .failed => "failed"
  | .budgetExceeded => "budget_exceeded"

/-- The events that end the trace of a run, as the status of the run stands. -/
def AgentTables.terminalEvents (t : AgentTables) (runId : Uuid) : List EventRow :=
  t.events.filter fun event => decide (event.runId = runId) &&
    (t.run? runId).any fun run => sealsTrace run.status event.kind

def rejectIfAgentTraceSealed (runId : Uuid) (action : String) : RowM Unit := do
  match ← select fun t => latest (fun a b => decide (b.sequence < a.sequence)) (t.terminalEvents runId) with
  | some event =>
    conflict ("agent run " ++ uuidText runId ++ " trace is sealed by " ++ eventKindName event.kind ++ " event " ++
      uuidText event.id ++ " at sequence " ++ toString event.sequence ++ "; cannot " ++ action)
  | none => do
    let run ← select fun t => t.run? runId
    conflictIf (run.any fun run => run.status == .cancelled)
      ("agent run " ++ uuidText runId ++ " trace is sealed by cancelled run status; cannot " ++ action)

def rejectIfApprovalIsBoundToSealedTrace (requestId : Uuid) (action : String) : RowM Unit := do
  match ← select fun t => t.boundStep? requestId with
  | none => pure ()
  | some step => rejectIfAgentTraceSealed step.runId action

def rejectIfOperatorGovernedApproval (requestId : Uuid) (action : String) : RowM Unit := do
  let governed ← select fun t => t.governedApprovals.contains requestId || t.steps.any fun step =>
    decide (step.approvalRequestId = some requestId) && t.governedRuns.contains step.runId
  conflictIf governed
    ("operator-governed approval " ++ uuidText requestId ++ " may not use the legacy storage path to " ++ action)

/-- A revision that the integer column holds. -/
def revisionI64 (revision : Nat) : Except StorageError Nat :=
  if revision < 2 ^ 63 then .ok revision else .error (.conflict "agent run revision exceeds SQLite range")

/-- A new record starts at revision 0, and every other one follows the stored revision. -/
def validateRevision (stored : Option Nat) (revision : Nat) (subject identity : String) : RowM Unit :=
  match stored with
  | some stored => do
    let supplied ← lift (revisionI64 revision)
    conflictIf (stored + 1 != supplied)
      ("stale " ++ subject ++ " revision: stored " ++ toString stored ++ ", supplied " ++ toString revision)
  | none => conflictIf (revision != 0) ("new " ++ subject ++ " " ++ identity ++ " must start at revision 0")

section Writes
variable (P : Primitives) (T : TextFormats) (R : Readers)

/-- The insert is committed by itself. -/
def saveAgentDefinition (agent : AgentDefinition) : RowM Unit := do
  execute (fun _ => true) fun t =>
    if t.definitions.any fun row => decide (row.id = agent.id ∨ row.name = agent.name) then t
    else { t with definitions := t.definitions ++ [definitionRow T agent] }
  match ← select fun t => t.definitions.find? fun row => decide (row.id = agent.id ∨ row.name = agent.name) with
  | none => lift (.error .database)
  | some existing =>
    conflictIf (existing.definitionJson != agentJson T agent) ("conflicting agent definition: " ++ uuidText agent.id)

def runStatusName : AgentRunStatus → String
  | .queued => "queued"
  | .running => "running"
  | .waitingForInput => "waiting_for_input"
  | .succeeded => "succeeded"
  | .failed => "failed"
  | .cancelled => "cancelled"

/-- Whether the status of the run is the one that the event ends it in; other events have none. -/
def matchesTerminalStatus (kind : AgentRunEventKind) (status : AgentRunStatus) : Option Bool :=
  match kind with
  | .completed => some (status == .succeeded)
  | .failed | .budgetExceeded => some (status == .failed)
  | _ => none

def validateEventRunStatus (event : AgentRunEvent) : RowM Unit := do
  match ← select fun t => t.run? event.runId with
  | none => lift (.error (.notFound ("agent run " ++ uuidText event.runId)))
  | some run =>
    match matchesTerminalStatus event.kind run.status with
    | some matching =>
      conflictIf (!matching) ("terminal " ++ eventKindName event.kind ++ " event for agent run " ++
        uuidText event.runId ++ " does not match stored run status " ++ runStatusName run.status)
    | none =>
      conflictIf (run.status == .succeeded || run.status == .failed || run.status == .cancelled)
        ("agent run " ++ uuidText event.runId ++ " is already " ++ runStatusName run.status ++
          "; only its matching terminal event may be appended")

variable (t : AgentTables)

/-- The number of events of a run, and the least and the greatest sequence among them. -/
def AgentTables.eventSpan (runId : Uuid) : Nat × Option Nat × Option Nat :=
  let sequences := (KeyedLog.logOf EventRow.runId runId t.events).map EventRow.sequence
  (sequences.length, sequences.min?, sequences.max?)

def validateNextEventSequence (event : AgentRunEvent) : RowM Unit := do
  let (count, minimum, maximum) ← select fun t => t.eventSpan event.runId
  conflictIf (count != 0 && (minimum != some 0 || maximum != some (count - 1)))
    ("existing event trace for agent run " ++ uuidText event.runId ++ " is not contiguous")
  conflictIf (event.sequence != count)
    ("agent run " ++ uuidText event.runId ++ " event sequence must be contiguous: expected " ++ toString count ++
      ", supplied " ++ toString event.sequence)

def eventConstraint (row : EventRow) (t : AgentTables) : Bool :=
  t.runs.any (fun run => decide (run.id = row.runId)) &&
    !t.events.any fun stored => decide (stored.id = row.id ∨ stored.runId = row.runId ∧ stored.sequence = row.sequence)

def insertEvent (row : EventRow) : RowM Unit :=
  execute (eventConstraint row) fun t => { t with events := t.events ++ [row] }

def saveAgentRunEvent (event : AgentRunEvent) : RowM Unit := atomically do
  statement
  match ← select fun t => t.events.find? fun row => decide
      (row.id = event.id ∨ row.runId = event.runId ∧ row.sequence = event.sequence) with
  | some existing =>
    conflictIf (existing.eventJson != eventJson T event)
      ("conflicting event " ++ toString event.sequence ++ " for agent run " ++ uuidText event.runId)
    statement
  | none =>
    rejectIfOperatorGovernedRun event.runId "append an event"
    rejectIfAgentTraceSealed event.runId "append an event"
    validateEventRunStatus event
    validateNextEventSequence event
    insertEvent (eventRow T event)
    statement

/-- A stored run takes every column of the new one but its creation time. -/
def AgentTables.upsertRun (row : RunRow) : AgentTables :=
  if t.runs.any fun stored => decide (stored.id = row.id) then
    let update (stored : RunRow) : RunRow := { row with createdAt := stored.createdAt }
    { t with runs := updateWhere (fun stored => decide (stored.id = row.id)) update t.runs }
  else { t with runs := t.runs ++ [row] }

def saveAgentRun (run : AgentRun) : RowM Unit := atomically do
  statement
  let existing ← select fun t => t.run? run.id
  if existing.any fun stored => decide (stored.runJson = runJson T run) then statement
  else
    rejectIfOperatorGovernedRun run.id "modify the run"
    rejectIfAgentTraceSealed run.id "modify the run"
    validateRevision (existing.map RunRow.revision) run.revision "agent run" (uuidText run.id)
    execute (fun _ => true) fun t => t.upsertRun (runRow T run)
    statement

/-- A stored step takes the status, approval binding, revision, update time and JSON. -/
def AgentTables.upsertStep (row : StepRow) : AgentTables :=
  if t.steps.any fun stored => decide (stored.id = row.id) then
    let update (stored : StepRow) : StepRow := { stored with
      status := row.status
      approvalRequestId := row.approvalRequestId
      revision := row.revision
      updatedAt := row.updatedAt
      stepJson := row.stepJson }
    { t with steps := updateWhere (fun stored => decide (stored.id = row.id)) update t.steps }
  else { t with steps := t.steps ++ [row] }

/-- An attempt stands once in its run, a request is bound once, and named rows are there. -/
def stepConstraint (row : StepRow) (t : AgentTables) : Bool :=
  decide (1 ≤ row.attempt) && t.runs.any (fun run => decide (run.id = row.runId)) &&
    row.approvalRequestId.all (fun requestId => t.requests.any fun request => decide (request.id = requestId)) &&
    (t.steps.any (fun stored => decide (stored.id = row.id)) || !t.steps.any fun stored => decide
      (stored.runId = row.runId ∧ stored.ordinal = row.ordinal ∧ stored.attempt = row.attempt)) &&
    !t.steps.any fun stored => decide (stored.id ≠ row.id ∧ row.approvalRequestId.isSome = true ∧
      stored.approvalRequestId = row.approvalRequestId)

variable (step : AgentRunStep)

/-- The bindings of a stored step are kept. -/
def validateStepBinding (stored : StepRow) : RowM Unit := do
  conflictIf (stored.runId != step.runId) ("agent run step " ++ uuidText step.id ++ " run binding is immutable")
  conflictIf (stored.approvalRequestId.isSome && stored.approvalRequestId != step.approvalRequestId)
    ("agent run step " ++ uuidText step.id ++ " approval binding is immutable once assigned")

def rejectBoundApproval : RowM Unit :=
  match step.approvalRequestId with
  | none => pure ()
  | some requestId => do
    match ← select fun t => t.steps.find? fun stored => decide
        (stored.approvalRequestId = some requestId ∧ stored.id ≠ step.id) with
    | none => pure ()
    | some bound =>
      conflict ("approval request " ++ uuidText requestId ++ " is already bound to agent run step " ++
        uuidText bound.id)

/-- The end of a save that is not an exact repetition. -/
def writeStep (existing : Option StepRow) : RowM Unit := do
  rejectIfOperatorGovernedRun step.runId "modify a run step"
  rejectIfAgentTraceSealed step.runId "modify a run step"
  rejectBoundApproval step
  validateRevision (existing.map StepRow.revision) step.revision "agent run step" (uuidText step.id)
  execute (stepConstraint (stepRow T step)) fun t => t.upsertStep (stepRow T step)
  statement

def saveAgentRunStep : RowM Unit := atomically do
  statement
  match ← select fun t => t.step? step.id with
  | none => writeStep T step none
  | some stored =>
    if stored.stepJson = stepJson T step then
      conflictIf (stored.runId != step.runId)
        ("agent run step " ++ uuidText step.id ++ " run binding column does not match its serialized record")
      conflictIf (stored.approvalRequestId != step.approvalRequestId)
        ("agent run step " ++ uuidText step.id ++ " approval binding column does not match its serialized record")
      statement
    else
      validateStepBinding step stored
      writeStep T step (some stored)

/-- The state is canonicalizable and has the digest given; the text is `checkpointJson`. -/
def serializeValidatedCheckpoint (checkpoint : AgentCheckpoint) (description : String) : Except StorageError Unit := do
  let canonical ← (P.canonicalize checkpoint.state).mapError fun error =>
    .conflict (description ++ " state is not canonicalizable: " ++ error.message)
  reject (checkpoint.stateDigest != P.digest .agentCheckpoint canonical)
    (.conflict (description ++ " state digest does not match its state"))

def validateStoredCheckpoint (stored : CheckpointRow) (expectedRunId : Option Uuid) :
    Except StorageError AgentCheckpoint := do
  let checkpoint ← orReject (R.checkpoint stored.checkpointJson) (.conflict "stored agent checkpoint is malformed: ")
  reject (decide (2 ^ 32 ≤ stored.sequence)) (.conflict "stored agent checkpoint sequence is out of range")
  serializeValidatedCheckpoint P checkpoint "stored agent checkpoint"
  reject (stored != checkpointRow T checkpoint || expectedRunId.any (· != stored.runId))
    (.conflict "stored agent checkpoint indexed columns or immutable JSON drifted")
  pure checkpoint

def loadStoredCheckpoint (query : AgentTables → Option CheckpointRow) (expectedRunId : Option Uuid) :
    RowM (Option AgentCheckpoint) := do
  match ← select query with
  | none => pure none
  | some stored => do
    let checkpoint ← lift (validateStoredCheckpoint P T R stored expectedRunId)
    pure (some checkpoint)

/-- The checkpoint with the greatest sequence. -/
def AgentTables.currentCheckpoint (runId : Uuid) : Option CheckpointRow :=
  latest (fun a b => decide (a.sequence ≤ b.sequence)) (KeyedLog.logOf CheckpointRow.runId runId t.checkpoints)

def AgentTables.checkpointAt (runId : Uuid) (sequence : Nat) : Option CheckpointRow :=
  (KeyedLog.logOf CheckpointRow.runId runId t.checkpoints).find? fun row => decide (row.sequence = sequence)

def AgentTables.checkpoint? (id : Uuid) : Option CheckpointRow :=
  lookup CheckpointRow.id t.checkpoints id

variable (expectedTail : Option AgentCheckpointTail)

def rejectExpectedTailFromAnotherRun (candidateRunId : Uuid) : RowM Unit :=
  match expectedTail with
  | none => pure ()
  | some tail => do
    match ← select fun t => t.checkpoint? tail.checkpointId with
    | none => pure ()
    | some stored =>
      conflictIf (stored.runId != candidateRunId)
        ("expected agent checkpoint tail " ++ uuidText tail.checkpointId ++ " belongs to run " ++
          uuidText stored.runId ++ ", not " ++ uuidText candidateRunId)

/-- A row that the checkpoint would clash with. -/
def AgentTables.checkpointClash (checkpoint : AgentCheckpoint) : Option CheckpointRow :=
  t.checkpoints.find? fun stored => decide
    (stored.id = checkpoint.id ∨ stored.runId = checkpoint.runId ∧ stored.sequence = checkpoint.sequence)

variable (checkpoint : AgentCheckpoint)

def rejectCheckpointIdentityConflicts : RowM Unit := do
  match ← select fun t => t.checkpointClash checkpoint with
  | none => pure ()
  | some stored =>
    conflict ("new agent checkpoint " ++ uuidText checkpoint.id ++ " conflicts with stored checkpoint " ++
      uuidText stored.id ++ " at run " ++ uuidText stored.runId ++ " sequence " ++ toString stored.sequence)

def checkpointConstraint (row : CheckpointRow) (t : AgentTables) : Bool :=
  t.runs.any (fun run => decide (run.id = row.runId)) &&
    !t.checkpoints.any fun stored =>
      decide (stored.id = row.id ∨ stored.runId = row.runId ∧ stored.sequence = row.sequence)

def insertCheckpoint (row : CheckpointRow) : RowM Unit :=
  execute (checkpointConstraint row) fun t => { t with checkpoints := t.checkpoints ++ [row] }

/-- The guards of a new checkpoint, and its row. -/
def writeCheckpoint : RowM Unit := do
  rejectIfOperatorGovernedRun checkpoint.runId "append a checkpoint"
  rejectIfAgentTraceSealed checkpoint.runId "append a checkpoint"
  insertCheckpoint (checkpointRow T checkpoint)
  statement

def loadPredecessor : RowM (Option AgentCheckpoint) :=
  if checkpoint.sequence = 0 then pure none
  else loadStoredCheckpoint P T R (fun t => t.checkpointAt checkpoint.runId (checkpoint.sequence - 1))
    (some checkpoint.runId)

/-- The end of an append, by the newest checkpoint of the run. -/
def settleAppend (current : Option AgentCheckpoint) : RowM AgentCheckpointAppendResult :=
  if current.map AgentCheckpoint.tail = some checkpoint.tail then do
    let predecessor ← loadPredecessor P T R checkpoint
    statement
    pure (if current = some checkpoint ∧ predecessor.map AgentCheckpoint.tail = expectedTail then .appended else .stale)
  else if current.map AgentCheckpoint.tail ≠ expectedTail then do
    statement
    pure .stale
  else do
    rejectCheckpointIdentityConflicts checkpoint
    writeCheckpoint T checkpoint
    pure .appended

/-- The part of an append that runs in the transaction. -/
def appendInTransaction : RowM AgentCheckpointAppendResult := do
  statement
  let current ← loadStoredCheckpoint P T R (fun t => t.currentCheckpoint checkpoint.runId) (some checkpoint.runId)
  let stored ← loadStoredCheckpoint P T R (fun t => t.checkpoint? checkpoint.id) none
  conflictIf (stored.any fun existing => existing != checkpoint)
    ("new agent checkpoint " ++ uuidText checkpoint.id ++ " conflicts with an existing immutable checkpoint")
  rejectExpectedTailFromAnotherRun expectedTail checkpoint.runId
  settleAppend P T R expectedTail checkpoint current

def appendAgentCheckpoint : RowM AgentCheckpointAppendResult := do
  lift (serializeValidatedCheckpoint P checkpoint "new agent checkpoint")
  let expectedSequence ← lift (orReject (followingSequence expectedTail)
    (.conflict "new agent checkpoint cannot follow the maximum expected tail sequence"))
  conflictIf (checkpoint.sequence != expectedSequence)
    ("new agent checkpoint sequence " ++ toString checkpoint.sequence ++ " does not follow expected sequence " ++
      toString expectedSequence)
  atomically (appendInTransaction P T R expectedTail checkpoint)

def saveAgentCheckpoint : RowM Unit := atomically do
  statement
  match ← select fun t => t.checkpointClash checkpoint with
  | some existing =>
    conflictIf (existing.checkpointJson != checkpointJson T checkpoint)
      ("conflicting checkpoint " ++ toString checkpoint.sequence ++ " for agent run " ++ uuidText checkpoint.runId)
    statement
  | none => writeCheckpoint T checkpoint

/-- An insert that skips a row whose identifier is taken or whose score is out of range. -/
def AgentTables.addEvaluation (row : EvaluationRow) : AgentTables :=
  if t.evaluations.any (fun stored => decide (stored.id = row.id)) ||
      row.scoreBps.any fun score => decide (10000 < score)
  then t else { t with evaluations := t.evaluations ++ [row] }

def saveAgentRunEvaluation (evaluation : AgentRunEvaluation) : RowM Unit := atomically do
  statement
  match ← select fun t => lookup EvaluationRow.id t.evaluations evaluation.id with
  | some existing =>
    conflictIf (existing.evaluationJson != evaluationJson T evaluation)
      ("conflicting agent run evaluation: " ++ uuidText evaluation.id)
    statement
  | none =>
    rejectIfOperatorGovernedRun evaluation.runId "append a run evaluation"
    execute (fun t => t.runs.any fun run => decide (run.id = evaluation.runId)) fun t =>
      t.addEvaluation (evaluationRow T evaluation)
    match ← select fun t => lookup EvaluationRow.id t.evaluations evaluation.id with
    | none => lift (.error .database)
    | some existing =>
      conflictIf (existing.evaluationJson != evaluationJson T evaluation)
        ("conflicting agent run evaluation: " ++ uuidText evaluation.id)
      statement

/-- Approval evidence of any kind: a row on record is repeated, or the guards let it in. -/
def saveEvidence {ρ : Type} (find : AgentTables → Option ρ) (same : ρ → Bool) (requestId : Uuid)
    (difference action : String)
    (constraint : AgentTables → Bool) (add : AgentTables → AgentTables) : RowM Unit := atomically do
  statement
  match ← select find with
  | some existing =>
    conflictIf (!same existing) ("approval request " ++ uuidText requestId ++ difference)
    statement
  | none =>
    rejectIfOperatorGovernedApproval requestId action
    rejectIfApprovalIsBoundToSealedTrace requestId action
    execute constraint add
    statement

def saveApprovalRequest (request : SignedApprovalRequest) : RowM Unit :=
  saveEvidence (fun t => lookup RequestRow.id t.requests request.body.id)
    (fun existing => decide (existing.requestJson = approvalRequestJson T request)) request.body.id
    " already exists with different content" "insert approval request evidence"
    (fun t => !t.requests.any fun row => decide (row.id = request.body.id))
    fun t => { t with requests := t.requests ++ [requestRow T request] }

def saveApprovalDecision (decision : SignedApprovalDecision) : RowM Unit :=
  saveEvidence
    (fun t => t.decisions.find? fun row => decide (row.id = decision.body.id ∨ row.requestId = decision.body.requestId))
    (fun existing => decide (existing.decisionJson = approvalDecisionJson T decision)) decision.body.requestId
    " already has a different decision" "insert approval decision evidence"
    (fun t => t.requests.any (fun row => decide (row.id = decision.body.requestId)) &&
      t.principals.contains decision.body.decidedBy &&
      !t.decisions.any fun row => decide (row.id = decision.body.id ∨ row.requestId = decision.body.requestId))
    fun t => { t with decisions := t.decisions ++ [decisionRow T decision] }

def saveApprovalExecution (execution : ApprovalExecution) : RowM Unit :=
  saveEvidence (fun t => lookup ExecutionRow.requestId t.executions execution.requestId)
    (fun existing => decide (existing.executedAt = execution.executedAt ∧ existing.outputJson = execution.output ∧
      existing.proofJson = proofJson T execution.proof)) execution.requestId
    " already has a different execution" "insert approval execution evidence"
    (fun t => t.requests.any (fun row => decide (row.id = execution.requestId)) &&
      !t.executions.any fun row => decide (row.requestId = execution.requestId))
    fun t => { t with executions := t.executions ++ [executionRow T execution] }

variable (parseInstant : String → Option Instant)

def orConflict {α : Type} (value : Option α) (message : String) : RowM α := lift (orReject value (.conflict message))

/-- The columns of a claim's row repeat its claim and its initial run. -/
def ClaimRow.columnsMatch (stored : ClaimRow) (claim : LiveRunStartClaim) (initialRun : AgentRun) : Bool :=
  stored.schema == claim.schema && stored.readinessBindingDigest == claim.readinessBindingDigest &&
    stored.setupDigest == claim.setupDigest && initialRun.id == stored.runId &&
    stored.claimedAt == initialRun.createdAt && decide (stored.claimJson = AgentRows.claimJson claim) &&
    decide (stored.initialRunJson = runJson T initialRun)

def validateExistingLiveStartClaim (expectedClaim : LiveRunStartClaim) (stored : ClaimRow) : RowM Uuid := do
  let claim ← orConflict (R.claim stored.claimJson) "stored live start claim is malformed: "
  let initialRun ← orConflict (R.run stored.initialRunJson) "stored initial live run is malformed: "
  conflictIf (claim != expectedClaim || !stored.columnsMatch T claim initialRun)
    "stored live start claim columns or immutable JSON drifted"
  let checkpointStored ← orConflict (← select fun t => t.checkpoints.find? fun row => decide
      (row.id = stored.initialCheckpointId ∧ row.runId = stored.runId ∧ row.sequence = 0))
    "claimed live start checkpoint is missing"
  let eventStored ← orConflict (← select fun t => t.events.find? fun row => decide
      (row.id = stored.startedEventId ∧ row.runId = stored.runId ∧ row.sequence = 0 ∧ row.kind = .started))
    "claimed live start event is missing"
  let runStored ← orConflict (← select fun t => t.run? stored.runId) "claimed live run is missing"
  let checkpoint ← orConflict (R.checkpoint checkpointStored.checkpointJson)
    "claimed live start checkpoint is malformed: "
  let event ← orConflict (R.event eventStored.eventJson) "claimed live start event is malformed: "
  let currentRun ← orConflict (R.run runStored.runJson) "claimed live run is malformed: "
  lift ((claim.validateInitialBundle P parseInstant initialRun checkpoint event).mapError fun error =>
    .conflict error.message)
  let drifted := "claimed live start indexed columns or serialized evidence drifted"
  conflictIf (checkpointStored.checkpointJson != checkpointJson T checkpoint ||
      checkpointStored.stateDigest != checkpoint.stateDigest || checkpointStored.createdAt != checkpoint.createdAt ||
      eventStored.eventJson != eventJson T event || eventStored.dataDigest != event.dataDigest ||
      eventStored.createdAt != event.createdAt || runStored.runJson != runJson T currentRun ||
      runStored.actor != currentRun.actor || runStored.agentId != currentRun.agentId ||
      runStored.mode != currentRun.mode || runStored.status != currentRun.status) drifted
  let revision ← lift (revisionI64 currentRun.revision)
  conflictIf (runStored.revision != revision || runStored.createdAt != currentRun.createdAt ||
      runStored.updatedAt != currentRun.updatedAt) drifted
  conflictIf (!currentRun.continues initialRun) "claimed live run identity or history drifted"
  pure stored.runId

def insertRun (row : RunRow) : RowM Unit :=
  execute (fun t => !t.runs.any fun stored => decide (stored.id = row.id)) fun t => { t with runs := t.runs ++ [row] }

/-- Every identifying column is unique, and the rows a claim names are there. -/
def claimConstraint (row : ClaimRow) (t : AgentTables) : Bool :=
  !t.claims.any (fun stored => decide (stored.readinessBindingDigest = row.readinessBindingDigest ∨
      stored.setupDigest = row.setupDigest ∨ stored.runId = row.runId ∨
      stored.initialCheckpointId = row.initialCheckpointId ∨ stored.startedEventId = row.startedEventId)) &&
    t.runs.any (fun run => decide (run.id = row.runId)) &&
    t.checkpoints.any (fun checkpoint => decide (checkpoint.id = row.initialCheckpointId)) &&
    t.events.any fun event => decide (event.id = row.startedEventId)

def insertClaim (row : ClaimRow) : RowM Unit :=
  execute (claimConstraint row) fun t => { t with claims := t.claims ++ [row] }

variable (claim : LiveRunStartClaim) (initialRun : AgentRun) (initialCheckpoint : AgentCheckpoint)
  (startedEvent : AgentRunEvent)

/-- The first claim writes the run, the checkpoint, the event and itself; their columns name the first places and the
started kind whatever the records say. -/
def writeLiveStart : RowM LiveRunStartClaimResult := do
  let _ ← orConflict initialRun.agentId "initial live run has no agent ID"
  let _ ← lift (revisionI64 initialRun.revision)
  insertRun { runRow T initialRun with mode := .session, status := .running }
  insertCheckpoint { checkpointRow T initialCheckpoint with runId := initialRun.id, sequence := 0 }
  insertEvent { eventRow T startedEvent with runId := initialRun.id, sequence := 0, kind := .started }
  insertClaim (claimRow T claim initialRun initialCheckpoint.id startedEvent.id)
  statement
  pure .acquired

/-- The rows that share a digest with a claim. -/
def AgentTables.matching (t : AgentTables) (claim : LiveRunStartClaim) : List ClaimRow :=
  t.claims.filter fun stored => decide
    (stored.readinessBindingDigest = claim.readinessBindingDigest ∨ stored.setupDigest = claim.setupDigest)

/-- The end of a claim, by the rows that share a digest with it. -/
def settleLiveStart : List ClaimRow → RowM LiveRunStartClaimResult
  | [] => writeLiveStart T claim initialRun initialCheckpoint startedEvent
  | [stored] =>
    if stored.readinessBindingDigest ≠ claim.readinessBindingDigest ∨ stored.setupDigest ≠ claim.setupDigest then do
      statement
      pure .conflict
    else do
      let runId ← validateExistingLiveStartClaim P T R parseInstant claim stored
      statement
      pure (.existing runId)
  | _ :: _ :: _ => do
    statement
    pure .conflict

def claimLiveRunStart : RowM LiveRunStartClaimResult := do
  lift ((claim.validateInitialBundle P parseInstant initialRun initialCheckpoint startedEvent).mapError fun error =>
    .conflict error.message)
  atomically do
    statement
    let matching ← select fun t => t.matching claim
    settleLiveStart P T R parseInstant claim initialRun initialCheckpoint startedEvent matching

end Writes

/-- A write through the agent store or the approval store. -/
inductive AgentWrite where
  | definition (agent : AgentDefinition)
  | event (event : AgentRunEvent)
  | liveStart (claim : LiveRunStartClaim) (initialRun : AgentRun) (initialCheckpoint : AgentCheckpoint)
      (startedEvent : AgentRunEvent)
  | run (run : AgentRun)
  | step (step : AgentRunStep)
  | append (expectedTail : Option AgentCheckpointTail) (checkpoint : AgentCheckpoint)
  | checkpoint (checkpoint : AgentCheckpoint)
  | evaluation (evaluation : AgentRunEvaluation)
  | approvalRequest (request : SignedApprovalRequest)
  | approvalDecision (decision : SignedApprovalDecision)
  | approvalExecution (execution : ApprovalExecution)

/-- What a write that succeeds returns. -/
inductive WriteAnswer where
  | done
  | append (result : AgentCheckpointAppendResult)
  | liveStart (result : LiveRunStartClaimResult)
  deriving DecidableEq

def AgentWrite.perform (P : Primitives) (T : TextFormats) (R : Readers) (parseInstant : String → Option Instant) :
    AgentWrite → RowM WriteAnswer
  | .definition agent => do saveAgentDefinition T agent; pure .done
  | .event recorded => do saveAgentRunEvent T recorded; pure .done
  | .liveStart claim initialRun initialCheckpoint startedEvent => do
    let result ← claimLiveRunStart P T R parseInstant claim initialRun initialCheckpoint startedEvent
    pure (.liveStart result)
  | .run recorded => do saveAgentRun T recorded; pure .done
  | .step recorded => do saveAgentRunStep T recorded; pure .done
  | .append expectedTail recorded => do
    let result ← appendAgentCheckpoint P T R expectedTail recorded
    pure (.append result)
  | .checkpoint recorded => do saveAgentCheckpoint T recorded; pure .done
  | .evaluation recorded => do saveAgentRunEvaluation T recorded; pure .done
  | .approvalRequest request => do saveApprovalRequest T request; pure .done
  | .approvalDecision decision => do saveApprovalDecision T decision; pure .done
  | .approvalExecution execution => do saveApprovalExecution T execution; pure .done

end ProofPlatform.AgentRows
