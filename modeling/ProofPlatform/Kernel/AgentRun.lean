import ProofPlatform.Kernel.Evidence

/-! Agent runs, their steps and checkpoints, with every status transition. -/
namespace ProofPlatform.Kernel
open Library.Fallible

inductive AgentRunMode where
  | oneShot
  | session
  deriving DecidableEq

inductive AgentRunStatus where
  | queued
  | running
  | waitingForInput
  | succeeded
  | failed
  | cancelled
  deriving DecidableEq

def AgentRunStatus.isTerminal : AgentRunStatus → Bool
  | .succeeded | .failed | .cancelled => true
  | _ => false

inductive AgentRunStepStatus where
  | pending
  | running
  | waitingForApproval
  | succeeded
  | failed
  | cancelled
  deriving DecidableEq

def AgentRunStepStatus.isTerminal : AgentRunStepStatus → Bool
  | .succeeded | .failed | .cancelled => true
  | _ => false

inductive AgentRunError where
  | emptyGoal
  | emptyOperation
  | emptyVersion
  | invalidRunTransition (source target : AgentRunStatus)
  | invalidStepTransition (source target : AgentRunStepStatus)
  | retryOverflow
  | proofMismatch
  | approvalBindingImmutable
  | invalidInput
  | invalidCheckpoint
  | runNotTerminal
  | emptyEvaluator
  | invalidScore
  | invalidMetrics
  | invalidLiveStartClaim
  deriving DecidableEq

def runStatusName : AgentRunStatus → String
  | .queued => "Queued"
  | .running => "Running"
  | .waitingForInput => "WaitingForInput"
  | .succeeded => "Succeeded"
  | .failed => "Failed"
  | .cancelled => "Cancelled"

def stepStatusName : AgentRunStepStatus → String
  | .pending => "Pending"
  | .running => "Running"
  | .waitingForApproval => "WaitingForApproval"
  | .succeeded => "Succeeded"
  | .failed => "Failed"
  | .cancelled => "Cancelled"

def AgentRunError.message : AgentRunError → String
  | .emptyGoal => "agent run goal must not be empty"
  | .emptyOperation => "agent run operation must not be empty"
  | .emptyVersion => "agent run version must not be empty"
  | .invalidRunTransition source target =>
    "invalid agent run transition from " ++ runStatusName source ++ " to " ++ runStatusName target
  | .invalidStepTransition source target =>
    "invalid agent run step transition from " ++ stepStatusName source ++ " to " ++ stepStatusName target
  | .retryOverflow => "agent run retry count overflow"
  | .proofMismatch => "agent run step proof does not match its operation, input, or output"
  | .approvalBindingImmutable => "agent run step approval request binding is immutable once assigned"
  | .invalidInput => "agent run step input could not be canonicalized"
  | .invalidCheckpoint => "agent checkpoint state could not be canonicalized"
  | .runNotTerminal => "agent evaluation requires a terminal run"
  | .emptyEvaluator => "agent evaluation evaluator must not be empty"
  | .invalidScore => "agent evaluation score must be between 0 and 10000 basis points"
  | .invalidMetrics => "agent evaluation metrics could not be canonicalized"
  | .invalidLiveStartClaim => "live run start claim or initial evidence bundle is invalid"

/-- The characters a trim takes off: Unicode's white space. -/
def isWhiteSpace (c : Char) : Bool :=
  let n := c.toNat
  (9 ≤ n && n ≤ 13) || (0x2000 ≤ n && n ≤ 0x200A) ||
    [0x20, 0x85, 0xA0, 0x1680, 0x2028, 0x2029, 0x202F, 0x205F, 0x3000].contains n

/-- Nothing is left of the text after a trim. -/
def isBlank (text : String) : Bool := text.toList.all isWhiteSpace

structure AgentRun where
  id : Uuid
  actor : PrincipalId
  agentId : Option Uuid
  mode : AgentRunMode
  goal : String
  status : AgentRunStatus
  retryCount : Nat
  revision : Nat
  createdAt : Instant
  updatedAt : Instant
  completedAt : Option Instant
  deriving DecidableEq

namespace AgentRun

def validTransition : AgentRunStatus → AgentRunStatus → Bool
  | .queued, .running => true
  | .queued, .cancelled => true
  | .running, .waitingForInput => true
  | .running, .succeeded => true
  | .running, .failed => true
  | .running, .cancelled => true
  | .waitingForInput, .running => true
  | .waitingForInput, .failed => true
  | .waitingForInput, .cancelled => true
  | .failed, .running => true
  | .failed, .cancelled => true
  | _, _ => false

def transition (run : AgentRun) (next : AgentRunStatus) (now : Instant) : Except AgentRunError AgentRun :=
  if validTransition run.status next then
    .ok { run with
      status := next
      updatedAt := now
      revision := run.revision + 1
      completedAt := if next.isTerminal then some now else none }
  else .error (.invalidRunTransition run.status next)

/-- A new run, with the identifier drawn for it. -/
def create (id : Uuid) (actor : PrincipalId) (agentId : Option Uuid) (mode : AgentRunMode) (goal : String)
    (createdAt : Instant) : Except AgentRunError AgentRun := do
  reject (isBlank goal) .emptyGoal
  pure { id, actor, agentId, mode, goal, status := .queued, retryCount := 0, revision := 0
         createdAt, updatedAt := createdAt, completedAt := none }

variable (run : AgentRun) (now : Instant)

def start : Except AgentRunError AgentRun := run.transition .running now

def waitForInput : Except AgentRunError AgentRun := run.transition .waitingForInput now

/-- Resuming a failed run counts as a retry. -/
def resume : Except AgentRunError AgentRun :=
  if run.status = .failed then
    if run.retryCount + 1 < 2 ^ 32 then
      transition { run with retryCount := run.retryCount + 1 } .running now
    else .error .retryOverflow
  else run.transition .running now

def succeed : Except AgentRunError AgentRun := run.transition .succeeded now

def fail : Except AgentRunError AgentRun := run.transition .failed now

def cancel : Except AgentRunError AgentRun := run.transition .cancelled now

variable {run} {now} {next' : AgentRun} {next : AgentRunStatus}

theorem transition_eq_ok :
    run.transition next now = .ok next' ↔ validTransition run.status next = true ∧ next' = { run with
      status := next
      updatedAt := now
      revision := run.revision + 1
      completedAt := if next.isTerminal then some now else none } :=
  ite_eq_ok

theorem transition_id (h : run.transition next now = .ok next') : next'.id = run.id := by
  obtain ⟨-, rfl⟩ := transition_eq_ok.mp h
  rfl

theorem resume_id (h : run.resume now = .ok next') : next'.id = run.id := by
  unfold resume at h
  split at h
  · split at h
    · obtain ⟨-, rfl⟩ := transition_eq_ok.mp h
      rfl
    · cases h
  · exact transition_id h

end AgentRun

structure AgentRunStep where
  id : Uuid
  runId : Uuid
  ordinal : Nat
  attempt : Nat
  retryOf : Option Uuid
  operation : String
  version : String
  inputDigest : ContentDigest
  status : AgentRunStepStatus
  approvalRequestId : Option Uuid
  output : Option Json
  proof : Option Proof
  error : Option String
  revision : Nat
  createdAt : Instant
  updatedAt : Instant
  startedAt : Option Instant
  completedAt : Option Instant
  deriving DecidableEq

namespace AgentRunStep

def validTransition : AgentRunStepStatus → AgentRunStepStatus → Bool
  | .pending, .running => true
  | .pending, .cancelled => true
  | .running, .waitingForApproval => true
  | .running, .succeeded => true
  | .running, .failed => true
  | .running, .cancelled => true
  | .waitingForApproval, .running => true
  | .waitingForApproval, .failed => true
  | .waitingForApproval, .cancelled => true
  | _, _ => false

variable (step : AgentRunStep)

def transition (next : AgentRunStepStatus) (now : Instant) : Except AgentRunError AgentRunStep :=
  if validTransition step.status next then
    .ok { step with
      status := next
      updatedAt := now
      revision := step.revision + 1
      completedAt := if next.isTerminal then some now else none }
  else .error (.invalidStepTransition step.status next)

/-- The first attempt at a call, with the identifier drawn for it. -/
def create (P : Primitives) (id runId : Uuid) (ordinal : Nat) (operation version : String) (input : Json)
    (createdAt : Instant) : Except AgentRunError AgentRunStep := do
  reject (isBlank operation) .emptyOperation
  reject (isBlank version) .emptyVersion
  let canonical ← (P.canonicalize input).mapError fun _ => .invalidInput
  pure { id, runId, ordinal, attempt := 1, retryOf := none, operation, version
         inputDigest := P.digest .operationInput canonical, status := .pending, approvalRequestId := none
         output := none, proof := none, error := none, revision := 0
         createdAt, updatedAt := createdAt, startedAt := none, completedAt := none }

variable (now : Instant)

def start : Except AgentRunError AgentRunStep := do
  let next ← step.transition .running now
  pure { next with startedAt := some (next.startedAt.getD now) }

def waitForApproval (approvalRequestId : Uuid) (now : Instant) : Except AgentRunError AgentRunStep := do
  reject (step.approvalRequestId.any (· != approvalRequestId)) .approvalBindingImmutable
  let next ← step.transition .waitingForApproval now
  pure { next with approvalRequestId := some approvalRequestId }

def resumeFromApproval : Except AgentRunError AgentRunStep :=
  step.transition .running now

/-- A step succeeds with a proof of its own operation, input and output. -/
def succeed (P : Primitives) (step : AgentRunStep) (output : Json) (proof : Proof) (now : Instant) :
    Except AgentRunError AgentRunStep := do
  let canonical ← (P.canonicalize output).mapError fun _ => .proofMismatch
  reject (proof.body.operation != step.operation ++ "::" ++ step.version ||
    proof.body.inputDigest != step.inputDigest || proof.body.outputDigest != P.digest .operationOutput canonical)
    .proofMismatch
  let next ← step.transition .succeeded now
  pure { next with output := some output, proof := some proof, error := none }

def fail (error : String) (now : Instant) : Except AgentRunError AgentRunStep := do
  let next ← step.transition .failed now
  pure { next with error := some error }

def cancel : Except AgentRunError AgentRunStep := step.transition .cancelled now

/-- The next attempt at a step that failed or was cancelled, with the identifier drawn for it. -/
def retry (id : Uuid) (createdAt : Instant) : Except AgentRunError AgentRunStep := do
  reject (step.status != .failed && step.status != .cancelled) (.invalidStepTransition step.status .pending)
  reject (decide (2 ^ 32 ≤ step.attempt + 1)) .retryOverflow
  pure { id, runId := step.runId, ordinal := step.ordinal, attempt := step.attempt + 1, retryOf := some step.id
         operation := step.operation, version := step.version, inputDigest := step.inputDigest
         status := .pending, approvalRequestId := none, output := none, proof := none, error := none
         revision := 0, createdAt, updatedAt := createdAt, startedAt := none, completedAt := none }

variable {step} {now} {next' : AgentRunStep} {next : AgentRunStepStatus}

theorem transition_eq_ok :
    step.transition next now = .ok next' ↔ validTransition step.status next = true ∧ next' = { step with
      status := next
      updatedAt := now
      revision := step.revision + 1
      completedAt := if next.isTerminal then some now else none } :=
  ite_eq_ok

theorem transition_id (h : step.transition next now = .ok next') : next'.id = step.id := by
  obtain ⟨-, rfl⟩ := transition_eq_ok.mp h
  rfl

theorem fail_id {error : String} (h : step.fail error now = .ok next') : next'.id = step.id := by
  obtain ⟨moved, hmoved, he⟩ := bind_eq_ok.mp h
  have hid := transition_id hmoved
  rw [← Except.ok.inj he]
  exact hid

end AgentRunStep

structure AgentCheckpoint where
  id : Uuid
  runId : Uuid
  sequence : Nat
  state : Json
  stateDigest : ContentDigest
  createdAt : Instant
  deriving DecidableEq

/-- What identifies the last checkpoint of a run. -/
structure AgentCheckpointTail where
  checkpointId : Uuid
  sequence : Nat
  stateDigest : ContentDigest
  deriving DecidableEq

/-- The answers of a checkpoint append; a store that does not offer it says so. -/
inductive AgentCheckpointAppendResult where
  | appended
  | stale
  | unsupported
  deriving DecidableEq

def AgentCheckpoint.tail (checkpoint : AgentCheckpoint) : AgentCheckpointTail where
  checkpointId := checkpoint.id
  sequence := checkpoint.sequence
  stateDigest := checkpoint.stateDigest

inductive AgentRunEventKind where
  | started
  | modelRequested
  | modelResponded
  | toolRequested
  | toolSucceeded
  | toolFailed
  | approvalRequired
  | approvalResumed
  | completed
  | failed
  | budgetExceeded
  deriving DecidableEq

structure AgentRunEvent where
  id : Uuid
  runId : Uuid
  sequence : Nat
  kind : AgentRunEventKind
  data : Json
  dataDigest : ContentDigest
  createdAt : Instant
  deriving DecidableEq

inductive AgentEvaluationOutcome where
  | passed
  | failed
  deriving DecidableEq

structure AgentRunEvaluation where
  id : Uuid
  runId : Uuid
  evaluator : String
  outcome : AgentEvaluationOutcome
  scoreBps : Option Nat
  metrics : Json
  summary : Option String
  createdAt : Instant

/-- An immutable assertion about a terminal run, with the identifier drawn for it. -/
def AgentRunEvaluation.create (P : Primitives) (id : Uuid) (run : AgentRun) (evaluator : String)
    (outcome : AgentEvaluationOutcome) (scoreBps : Option Nat) (metrics : Json) (summary : Option String)
    (createdAt : Instant) : Except AgentRunError AgentRunEvaluation := do
  reject (!run.status.isTerminal) .runNotTerminal
  reject (isBlank evaluator) .emptyEvaluator
  reject (scoreBps.any fun score => decide (10000 < score)) .invalidScore
  let _ ← (P.canonicalize metrics).mapError fun _ => .invalidMetrics
  return { id, runId := run.id, evaluator, outcome, scoreBps, metrics
           summary := summary.filter fun summary => !isBlank summary
           createdAt }

end ProofPlatform.Kernel
