import ProofPlatform.Kernel.AgentRun

/-! Live starts: a claim names one authorization and the run, checkpoint and event it starts. -/
namespace ProofPlatform.Kernel
open Library.Fallible

/-- The proposed run is no part of the claim, so a replay may propose a fresh one. -/
structure LiveRunStartClaim where
  schema : String
  readinessBindingDigest : ContentDigest
  setupDigest : ContentDigest
  deriving DecidableEq

inductive LiveRunStartClaimResult where
  | acquired
  | existing (runId : Uuid)
  | conflict
  | unsupported
  deriving DecidableEq

def Json.asObject : Json → Option (List (String × Json))
  | .object members => some members
  | _ => none

namespace LiveRunStartClaim

def schemaName : String := "proof-live-run-start-claim/v1"

def zeroDigest : ContentDigest := ⟨0⟩

/-- The fields of an initial bundle, all but the state and the data. -/
def fieldsMatch (claim : LiveRunStartClaim) (run : AgentRun) (checkpoint : AgentCheckpoint)
    (startedEvent : AgentRunEvent) : Bool :=
  claim.schema == schemaName && claim.readinessBindingDigest != zeroDigest && claim.setupDigest != zeroDigest &&
    uuidIsV7 run.id && run.agentId.any uuidIsV7 && run.mode == .session && run.status == .running &&
    run.retryCount == 0 && run.revision == 1 && run.createdAt == run.updatedAt && run.completedAt.isNone &&
    uuidIsV7 checkpoint.id && checkpoint.runId == run.id && checkpoint.sequence == 0 &&
    decide (run.createdAt ≤ checkpoint.createdAt) &&
    uuidIsV7 startedEvent.id && startedEvent.runId == run.id && startedEvent.sequence == 0 &&
    startedEvent.kind == .started && decide (checkpoint.createdAt ≤ startedEvent.createdAt)

/-- What the data of the started event repeats of the runtime state. -/
def expectedStartedData (runtime : List (String × Json)) : Json :=
  .object [
    ("authority", (runtime.lookup "authority").getD .null),
    ("live", .bool true),
    ("policy_binding", (runtime.lookup "policy_binding").getD .null),
    ("process_epoch_id", (runtime.lookup "process_epoch_id").getD .null),
    ("schema", (runtime.lookup "schema").getD .null)]

variable (P : Primitives) (parseInstant : String → Option Instant)

/-- The runtime state names the run, its agent and its start. -/
def runtimeMatches (run : AgentRun) (runtime : List (String × Json)) : Bool :=
  (runtime.lookup "schema").bind Json.asStr == some "proof-agent-runtime-state/v2" &&
    ((runtime.lookup "run_id").bind Json.asStr).bind P.parseUuid == some run.id &&
    ((runtime.lookup "agent_id").bind Json.asStr).bind P.parseUuid == run.agentId &&
    ((runtime.lookup "started_at").bind Json.asStr).bind parseInstant == some run.createdAt &&
    (((runtime.lookup "process_epoch_id").bind Json.asStr).bind P.parseUuid).any uuidIsV7

/-- Every failure is reported as one error. -/
def validateInitialBundle (claim : LiveRunStartClaim) (run : AgentRun) (checkpoint : AgentCheckpoint)
    (startedEvent : AgentRunEvent) : Except AgentRunError Unit := do
  reject (!claim.fieldsMatch run checkpoint startedEvent) .invalidLiveStartClaim
  let envelope ← orReject checkpoint.state.asObject .invalidLiveStartClaim
  reject (envelope.length != 2 || (envelope.lookup "kind").bind Json.asStr != some "agent_runtime_v2")
    .invalidLiveStartClaim
  let runtime ← orReject ((envelope.lookup "runtime").bind Json.asObject) .invalidLiveStartClaim
  reject (!runtimeMatches P parseInstant run runtime) .invalidLiveStartClaim
  let checkpointCanonical ← (P.canonicalize checkpoint.state).mapError fun _ => .invalidLiveStartClaim
  reject (checkpoint.stateDigest != P.digest .agentCheckpoint checkpointCanonical) .invalidLiveStartClaim
  let eventCanonical ← (P.canonicalize startedEvent.data).mapError fun _ => .invalidLiveStartClaim
  reject (!startedEvent.data.equal (expectedStartedData runtime) ||
    startedEvent.dataDigest != P.digest .agentEvent eventCanonical) .invalidLiveStartClaim

end LiveRunStartClaim

/-- The run is the one a claim started, at the same point of its life or a later one. -/
def AgentRun.continues (current initial : AgentRun) : Bool :=
  current.id == initial.id && current.actor == initial.actor && current.agentId == initial.agentId &&
    current.mode == initial.mode && current.goal == initial.goal && current.createdAt == initial.createdAt &&
    decide (initial.revision ≤ current.revision) && decide (initial.updatedAt ≤ current.updatedAt)

end ProofPlatform.Kernel
