import ProofPlatform.Domain.Pipelines
import ProofPlatform.Kernel.LiveStart
import ProofPlatform.Library.FallibleState

/-! Workflows: a definition lists steps; a run and each of its steps are files, which handlers move on. -/
namespace ProofPlatform.Domain
open Kernel Executor Trace
open Library.Fallible Library.FallibleState

inductive WorkflowRunStatus where
  | pending
  | inProgress
  | completed
  | failed
  deriving DecidableEq

inductive WorkflowStepStatus where
  | pending
  | completed
  | approved
  deriving DecidableEq

structure WorkflowStepBlueprint where
  key : String
  name : String
  requiresApproval : Bool

structure WorkflowDefinition where
  id : Uuid
  name : String
  description : String
  steps : List WorkflowStepBlueprint
  createdAt : Instant
  updatedAt : Instant

structure WorkflowRun where
  id : Uuid
  workflowDefinitionId : Uuid
  status : WorkflowRunStatus
  createdAt : Instant
  updatedAt : Instant

structure WorkflowStep where
  id : Uuid
  workflowRunId : Uuid
  workflowDefinitionId : Uuid
  key : String
  name : String
  requiresApproval : Bool
  status : WorkflowStepStatus
  createdAt : Instant
  updatedAt : Instant

/-! ### The records -/

def WorkflowRun.new (id workflowDefinitionId : Uuid) (now : Instant) : WorkflowRun :=
  ⟨id, workflowDefinitionId, .pending, now, now⟩

def WorkflowRunStatus.debug : WorkflowRunStatus → String
  | .pending => "Pending"
  | .inProgress => "InProgress"
  | .completed => "Completed"
  | .failed => "Failed"

def WorkflowRunStatus.text : WorkflowRunStatus → String
  | .pending => "pending"
  | .inProgress => "in_progress"
  | .completed => "completed"
  | .failed => "failed"

def WorkflowStepStatus.text : WorkflowStepStatus → String
  | .pending => "pending"
  | .completed => "completed"
  | .approved => "approved"

def WorkflowRunStatus.allows : WorkflowRunStatus → WorkflowRunStatus → Bool
  | .pending, .inProgress => true
  | .inProgress, .completed => true
  | .inProgress, .failed => true
  | _, _ => false

def WorkflowRun.transitionTo (run : WorkflowRun) (next : WorkflowRunStatus) (now : Instant) :
    Except String WorkflowRun :=
  if run.status.allows next then .ok { run with status := next, updatedAt := now }
  else .error ("invalid workflow run transition from " ++ run.status.debug ++ " to " ++ next.text)

def WorkflowStep.complete (step : WorkflowStep) (now : Instant) : Except String WorkflowStep :=
  if step.status ≠ .pending then .error ("workflow step " ++ step.key ++ " is not pending")
  else .ok { step with status := if step.requiresApproval then .completed else .approved, updatedAt := now }

def WorkflowStep.approve (step : WorkflowStep) (now : Instant) : Except String WorkflowStep :=
  if step.status ≠ .completed then
    .error ("workflow step " ++ step.key ++ " must be completed before approval")
  else .ok { step with status := .approved, updatedAt := now }

/-! ### Files -/

/-- A file holds a record, or a text that is none, with the reader's complaint. -/
abbrev StoredFiles (α : Type) := Uuid → Option (Except String α)

structure WorkflowFiles where
  definitions : StoredFiles WorkflowDefinition
  runs : StoredFiles WorkflowRun
  steps : StoredFiles WorkflowStep

variable (files : WorkflowFiles) (definition : WorkflowDefinition)

def WorkflowFiles.saveRun (run : WorkflowRun) : WorkflowFiles :=
  { files with runs := Function.update files.runs run.id (some (.ok run)) }

def WorkflowFiles.saveStep (step : WorkflowStep) : WorkflowFiles :=
  { files with steps := Function.update files.steps step.id (some (.ok step)) }

/-- What linked libraries compute. -/
structure WorkflowLibrary where
  digests : DigestTexts
  texts : TextFormats
  parseUuid : String → Except String Uuid

structure JsonSchema where
  required : List String
  properties : List String
  additionalProperties : Bool

/-- The surroundings of one call: its schema in the registry, which files cannot be read, what is said of a missing
one, and what is drawn. -/
structure CallSurroundings where
  schema : Except ExecutionError JsonSchema
  unreadable : String → Uuid → Option String
  notFound : String
  id : Uuid
  stepTime : Instant
  runTime : Instant

variable (L : WorkflowLibrary) (E : CallSurroundings)

def JsonSchema.validate (schema : JsonSchema) (input : Json) : Except ExecutionError Unit := do
  let members ← orReject input.asObject (.handlerFailed "input must be a JSON object")
  match schema.required.find? fun key => !(members.map Prod.fst).contains key with
  | some key => .error (.handlerFailed ("missing required field: " ++ key))
  | none =>
    match (members.map Prod.fst).find? fun key => !schema.properties.contains key && !schema.additionalProperties with
    | some key => .error (.handlerFailed ("unknown field: " ++ key))
    | none => .ok ()

def load {α : Type} (files : StoredFiles α) (id : Uuid) (kind : String) : Except ExecutionError α := do
  let file ← orReject (if (E.unreadable kind id).isSome then none else files id)
    (.handlerFailed ("failed to load " ++ kind ++ " " ++ uuidText id ++ ": " ++ (E.unreadable kind id).getD E.notFound))
  file.mapError fun error => .handlerFailed ("invalid " ++ kind ++ " file for " ++ uuidText id ++ ": " ++ error)

variable (input : Json)

def parseId (key : String) : Except ExecutionError Uuid := do
  let text ← orReject ((input.get key).bind Json.asStr) (.handlerFailed ("missing required field: " ++ key))
  (L.parseUuid text).mapError fun error => .handlerFailed ("invalid " ++ key ++ ": " ++ error)

/-- The hash of the kernel's canonical text, which every record has: none holds a float. -/
def workflowHash (value : Json) : BitVec 256 :=
  L.digests.sha256 (((canonicalize ⟨L.digests.float, fun _ => none⟩ L.digests.quote value).toOption.map
    CanonicalJson.text).getD "")

def workflowDigest (value : Json) : Json := .string ("sha256:" ++ digestHex ⟨workflowHash L value⟩)

/-- The first half of a hash. -/
def stepId (runId : Uuid) (key : String) : Uuid :=
  (workflowHash L (.object [("run_id", jsonUuid runId), ("step_key", .string key)])).extractLsb' 128 128

def loadDefinition (files : WorkflowFiles) (id : Uuid) : Except ExecutionError WorkflowDefinition :=
  load E files.definitions id "workflow definition"

def loadSteps (files : WorkflowFiles) (run : WorkflowRun) :
    List WorkflowStepBlueprint → Except ExecutionError (List WorkflowStep)
  | [] => .ok []
  | blueprint :: rest => do
    let step ← load E files.steps (stepId L run.id blueprint.key) "workflow step"
    let steps ← loadSteps files run rest
    pure (step :: steps)

/-- The elements before the first one with the property, that one, and the elements after it. -/
def splitFirst {α : Type} (p : α → Bool) : List α → Option (List α × α × List α)
  | [] => none
  | a :: rest => if p a then some ([], a, rest)
    else (splitFirst p rest).map fun (before, found, after) => (a :: before, found, after)

/-! ### Encoding -/

def workflowRunJson (run : WorkflowRun) : Json :=
  .object [("id", jsonUuid run.id), ("workflow_definition_id", jsonUuid run.workflowDefinitionId),
    ("status", .string run.status.text), ("created_at", jsonInstant L.texts run.createdAt),
    ("updated_at", jsonInstant L.texts run.updatedAt)]

def workflowStepJson (step : WorkflowStep) : Json :=
  .object [("id", jsonUuid step.id), ("workflow_run_id", jsonUuid step.workflowRunId),
    ("workflow_definition_id", jsonUuid step.workflowDefinitionId), ("key", .string step.key),
    ("name", .string step.name), ("requires_approval", .bool step.requiresApproval),
    ("status", .string step.status.text), ("created_at", jsonInstant L.texts step.createdAt),
    ("updated_at", jsonInstant L.texts step.updatedAt)]

/-! ### Handlers -/

abbrev WorkflowM := Act WorkflowFiles ExecutionError

/-- A message of the records, as the error of a handler. -/
def asInputError {α : Type} (result : Except String α) : Except ExecutionError α := result.mapError .handlerFailed

def newStep (definition : WorkflowDefinition) (run : WorkflowRun) (blueprint : WorkflowStepBlueprint) :
    WorkflowStep where
  id := stepId L run.id blueprint.key
  workflowRunId := run.id
  workflowDefinitionId := definition.id
  key := blueprint.key
  name := blueprint.name
  requiresApproval := blueprint.requiresApproval
  status := .pending
  createdAt := run.createdAt
  updatedAt := run.createdAt

def executeTrigger : WorkflowM Json := do
  let definitionId ← Act.lift (parseId L input "workflow_id")
  let files ← Act.current
  let definition ← Act.lift (loadDefinition E files definitionId)
  let run := WorkflowRun.new E.id definition.id E.runTime
  let steps := definition.steps.map (newStep L definition run)
  Act.update fun files => steps.foldl WorkflowFiles.saveStep files
  Act.update fun files => files.saveRun run
  pure (.object [("workflow_run_id", jsonUuid run.id), ("workflow_definition_id", jsonUuid run.workflowDefinitionId),
    ("status", .string run.status.text),
    ("steps", .array (steps.map fun step => .object [("key", .string step.key), ("name", .string step.name),
      ("requires_approval", .bool step.requiresApproval), ("status", .string step.status.text)])),
    ("created_at", jsonInstant L.texts run.createdAt), ("content_digest", workflowDigest L (workflowRunJson L run))])

/-- The run after a step is saved: completed with its last step, no longer pending after any other. -/
def advanceRun (run : WorkflowRun) (steps : List WorkflowStep) : Except ExecutionError WorkflowRun :=
  if steps.all fun step => decide (step.status = .approved) then asInputError (run.transitionTo .completed E.runTime)
  else if run.status = .pending then asInputError (run.transitionTo .inProgress E.runTime)
  else .ok run

/-- The run that the input names, with its definition and its steps. -/
def loadRun : WorkflowM (WorkflowRun × List WorkflowStep) := do
  let runId ← Act.lift (parseId L input "run_id")
  let files ← Act.current
  let run ← Act.lift (load E files.runs runId "workflow run")
  let definition ← Act.lift (loadDefinition E files run.workflowDefinitionId)
  let steps ← Act.lift (loadSteps L E files run definition.steps)
  pure (run, steps)

/-- The step is saved before the run is moved on, which may still fail. -/
def executeStepComplete : WorkflowM Json := do
  let (run, steps) ← loadRun L E input
  let (before, pending, after) ← Act.lift (orReject (splitFirst (fun step => decide (step.status = .pending)) steps)
    (.handlerFailed "workflow run has no pending step"))
  Act.lift (reject (before.any fun step => decide (step.status ≠ .approved))
    (.handlerFailed ("workflow step " ++ pending.key ++ " cannot complete before earlier steps are approved")))
  let step ← Act.lift (asInputError (pending.complete E.stepTime))
  Act.update fun files => files.saveStep step
  let run ← Act.lift (advanceRun E run (before ++ step :: after))
  Act.update fun files => files.saveRun run
  pure (.object [("workflow_run_id", jsonUuid run.id), ("step_key", .string step.key),
    ("step_status", .string step.status.text), ("run_status", .string run.status.text),
    ("updated_at", jsonInstant L.texts run.updatedAt), ("content_digest", workflowDigest L (workflowRunJson L run))])

/-- The run itself is not looked at again. -/
def executeApprove (context : ExecutionContext) (input : Json) : WorkflowM Json := do
  Act.lift (reject (decide (context.principalKind ≠ some .human)) .humanOnly)
  let (run, steps) ← loadRun L E input
  let (_, completed, _) ← Act.lift (orReject (splitFirst (fun step => decide (step.status = .completed)) steps)
    (.handlerFailed "workflow run has no completed step awaiting approval"))
  let step ← Act.lift (asInputError (completed.approve E.stepTime))
  Act.update fun files => files.saveStep step
  pure (.object [("workflow_run_id", jsonUuid run.id), ("step_key", .string step.key),
    ("step_status", .string step.status.text), ("approved_at", jsonInstant L.texts step.updatedAt),
    ("content_digest", workflowDigest L (workflowStepJson L step))])

/-- Every handler first validates its input against the schema in the registry. -/
def handle (operation : String) (input : Json) (execute : WorkflowM Json) : WorkflowM Json := do
  let schema ← Act.lift E.schema
  Act.lift (schema.validate input)
  let data ← execute
  pure (.object [("operation", .string operation), ("data", data)])

end ProofPlatform.Domain
