import ProofPlatform.Executor.Context
import ProofPlatform.Library.Interaction

/-! The direct execution path. Each store call, handler call and fresh identifier is one request. -/
namespace ProofPlatform.Executor
open Kernel Library.Interaction Library.Fallible

inductive EngineRequest where
  | loadDelegation (id : Uuid)
  | claimExecutionReplay (claim : ExecutionReplayClaim)
  | completeExecutionReplay (claim : ExecutionReplayClaim) (context : ExecutionContext) (outcome : ExecutionOutcome)
  | failExecutionReplay (claim : ExecutionReplayClaim) (failedAt : Instant) (failure : String)
  | latestProofForOperation (operation version : String)
  | saveExecutionContext (context : ExecutionContext)
  | saveProof (proof : Proof)
  | executeVersioned (operation version : String) (input : Json) (context : ExecutionContext)
  | nowV7
  deriving DecidableEq

abbrev EngineRequest.Answer : EngineRequest → Type
  | .loadDelegation _ => Except String (Option Delegation)
  | .claimExecutionReplay _ => Except String ExecutionReplayClaimResult
  | .completeExecutionReplay _ _ _ => Except String Unit
  | .failExecutionReplay _ _ _ => Except String Unit
  | .latestProofForOperation _ _ => Except String (Option Proof)
  | .saveExecutionContext _ => Except String String
  | .saveProof _ => Except String Unit
  | .executeVersioned _ _ _ _ => Except ExecutionError Json
  | .nowV7 => Uuid

abbrev engineInterface : Interface := ⟨EngineRequest, EngineRequest.Answer⟩

abbrev Exec : Type → Type := Procedure engineInterface ExecutionError

def send (request : EngineRequest) : Exec request.Answer := Procedure.call (I := engineInterface) request

/-- What the engine reads of a registered handler besides calling it. -/
structure OperationHandler where
  operation : String
  idempotencyPolicyFor : String → IdempotencyPolicy

structure ExecutionEngine where
  registry : Registry
  handlers : String → Option OperationHandler
  /-- Whether a store is attached. -/
  storage : Bool
  keypair : Keypair

/-- A returned outcome; evidence may be absent when none was asked for or stored. -/
structure InternalExecutionOutcome where
  output : Json
  proof : Option Proof

namespace ExecutionEngine
variable (P : Primitives) (engine : ExecutionEngine)

/-- A store failure is reported under its own message. -/
def storageCall {α : Type} (call : Exec (Except String α)) : Exec α := do
  Procedure.ofExcept ((← call).mapError ExecutionError.storageFailed)

variable (entry : RegistryEntry)

variable (operation version : String) (input : Json) (context : ExecutionContext)

/-- Humans run anything; another principal needs an approval for a human-only entry. -/
def checkGovernance (approval : Option (ApprovalGrant × Principal)) : Except ExecutionError Unit :=
  if entry.governance == .humanOnly && context.principalKind != some .human then do
    let (grant, trustedApprover) ← orReject approval .humanOnly
    (grant.verifyForExecution P engine.keypair trustedApprover operation version input context.actor
      context.timestamp).mapError .approval
  else .ok ()

def enforceDelegation (operation domain : String) (context : ExecutionContext) (delegationId : Uuid) : Exec Unit := do
  let chain ← Procedure.ofExcept (orReject context.delegationChain (.delegation .emptyChain))
  Procedure.ofExcept ((chain.validate context.actor context.timestamp).mapError .delegation)
  let delegation ← if engine.storage then do
      let stored ← storageCall (send (.loadDelegation delegationId))
      let delegation ← Procedure.ofExcept (orReject stored (.delegation .emptyChain))
      let chainIndex ← Procedure.ofExcept
        (orReject (chain.grants.findIdx? fun grant => grant.id == delegationId) (.delegation .emptyChain))
      Procedure.ofExcept (reject (chain.grants[chainIndex]? != some delegation) (.delegation .emptyChain))
      Procedure.ofExcept (reject (delegation.recipient != context.actor)
        (.delegation (.invalidTerminalAgent chainIndex)))
      pure delegation
    else
      Procedure.ofExcept
        (orReject (chain.grants.find? fun grant => grant.id == delegationId) (.delegation .emptyChain))
  Procedure.ofExcept (reject (!delegation.scope.scopeAllowsOperation operation domain) .scopeViolation)

/-- A named delegation is enforced in full; a chain without a name is only validated. -/
def checkDelegation (operation : String) (context : ExecutionContext) : Exec Unit :=
  match context.delegationId, context.delegationChain with
  | some delegationId, _ => enforceDelegation engine operation entry.domain context delegationId
  | none, some chain =>
    Procedure.ofExcept ((chain.validate context.actor context.timestamp).mapError .delegation)
  | none, none => pure ()

/-- The idempotency key is a top-level string member that parses to a UUIDv7. -/
def idempotencyKey : Except ExecutionError Uuid := do
  let value ← orReject (input.get "idempotency_key") (.idempotency .missingKey)
  let text ← orReject value.asStr (.idempotency .invalidUuidV7)
  let key ← orReject (P.parseUuid text) (.idempotency .invalidUuidV7)
  reject (!uuidIsV7 key) (.idempotency .invalidUuidV7)
  pure key

def executionReplayClaim : Exec ExecutionReplayClaim := do
  let key ← Procedure.ofExcept (idempotencyKey P input)
  let canonical ← Procedure.ofExcept
    ((P.canonicalize input).mapError fun error => .evidenceFailed error.message)
  let claimToken ← send .nowV7
  pure
    { key := ⟨operation, version, key⟩
      inputDigest := P.digest .operationInput canonical
      claimToken
      claimedBy := context.actor
      claimedAt := context.timestamp }

def validateReplayedOutcome (claim : ExecutionReplayClaim) (outcome : ExecutionOutcome) :
    Except ExecutionError Unit := do
  reject (outcome.proof.body.operation != proofOperation claim.key.operation claim.key.version)
    (.storageFailed "stored replay proof operation does not match the claim")
  reject (outcome.proof.body.inputDigest != claim.inputDigest)
    (.storageFailed "stored replay proof input digest does not match the claim")
  let output ← (P.canonicalize outcome.output).mapError fun _ =>
    .storageFailed "stored replay output could not be canonicalized"
  reject (outcome.proof.body.outputDigest != P.digest .operationOutput output)
    (.storageFailed "stored replay proof output digest does not match the output")

/-- Mark an acquired claim failed before reporting why the execution stopped. -/
def failAcquiredClaim {α : Type} (claim : Option ExecutionReplayClaim) (failedAt : Instant)
    (error : ExecutionError) : Exec α :=
  match claim with
  | none => throw error
  | some claim => do
    match ← send (.failExecutionReplay claim failedAt error.message) with
    | .ok () => throw error
    | .error failure => throw (.storageFailed
        ("failed to record indeterminate execution after " ++ error.message ++ ": " ++ failure))

/-- An expired benchmark proof blocks the operation it benchmarks. -/
def checkBenchmark (claim : Option ExecutionReplayClaim) : Exec Unit :=
  match entry.benchmark, engine.storage with
  | some benchmark, true => do
    match ← send (.latestProofForOperation operation version) with
    | .error message => failAcquiredClaim claim context.timestamp (.storageFailed message)
    | .ok none => pure ()
    | .ok (some proof) =>
      if proof.isExpired context.timestamp then
        failAcquiredClaim claim context.timestamp (.benchmarkExpired benchmark (uuidText proof.body.id))
      else pure ()
  | _, _ => pure ()

def createOperationProof (id : Uuid) (operation version : String) (input output : Json)
    (context : ExecutionContext) : Except ProofError Proof :=
  createProof P id context.actor context.delegationId (proofOperation operation version) input output
    context.timestamp engine.keypair

/-- Evidence for a finished handler call. -/
def prove (input output : Json) (context : ExecutionContext) (claim : Option ExecutionReplayClaim) : Exec Proof := do
  let id ← send .nowV7
  match engine.createOperationProof P id operation version input output context with
  | .ok proof => pure proof
  | .error error => failAcquiredClaim claim context.timestamp (.evidenceFailed error.message)

/-- The path after admission: benchmark, handler, evidence, persistence. -/
def executeClaimed (evidenceRequired : Bool) (claim : Option ExecutionReplayClaim) : Exec InternalExecutionOutcome := do
  engine.checkBenchmark entry operation version context claim
  match ← send (.executeVersioned operation version input context) with
  | .error error => failAcquiredClaim claim context.timestamp error
  | .ok output =>
    match claim with
    | some acquired => do
      let proof ← engine.prove P operation version input output context claim
      storageCall (send (.completeExecutionReplay acquired context ⟨output, proof⟩))
      pure ⟨output, some proof⟩
    | none =>
      if engine.storage then do
        let proof ← engine.prove P operation version input output context claim
        let _ ← storageCall (send (.saveExecutionContext context))
        storageCall (send (.saveProof proof))
        pure ⟨output, some proof⟩
      else if evidenceRequired then do
        let proof ← engine.prove P operation version input output context claim
        pure ⟨output, some proof⟩
      else pure ⟨output, none⟩

def executeInner (approval : Option (ApprovalGrant × Principal)) (evidenceRequired : Bool) :
    Exec InternalExecutionOutcome := do
  let entry ← Procedure.ofExcept
    (orReject (engine.registry.find operation version) (.operationNotFound operation version))
  Procedure.ofExcept (engine.checkGovernance P entry operation version input context approval)
  Procedure.ofExcept (reject (entry.status == .sunset) .sunset)
  engine.checkDelegation entry operation context
  let handler ← Procedure.ofExcept (orReject (engine.handlers operation) (.noHandler operation))
  match handler.idempotencyPolicyFor version with
  | .none => engine.executeClaimed P entry operation version input context evidenceRequired none
  | .requiredUuidV7ExactReplay => do
    let claim ← executionReplayClaim P operation version input context
    Procedure.ofExcept (reject (!engine.storage) (.idempotency .storageRequired))
    match ← storageCall (send (.claimExecutionReplay claim)) with
    | .acquired => engine.executeClaimed P entry operation version input context evidenceRequired (some claim)
    | .completed outcome => do
      Procedure.ofExcept (validateReplayedOutcome P claim outcome)
      pure ⟨outcome.output, some outcome.proof⟩
    | .conflict => throw (.idempotency .conflict)
    | .inProgress => throw (.idempotency .inProgress)
    | .failed => throw (.idempotency .indeterminate)
    | .unsupported => throw (.idempotency .storageRequired)

end ExecutionEngine
end ProofPlatform.Executor
