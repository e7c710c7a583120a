import ProofPlatform.Executor.Engine
import ProofPlatform.Operator.Validation

/-! The governed execution path, which prepares a result without persisting it. -/
namespace ProofPlatform.Executor
open Kernel Operator Library.Interaction Library.Fallible

/-- The chain check of the governed path: the last link is the named one and every
link allows the operation. -/
def checkGovernedDelegation (operation domain : String) (context : ExecutionContext) (trustedNow : Instant) :
    Except ExecutionError Unit :=
  match context.delegationId, context.delegationChain with
  | none, none => .ok ()
  | some delegationId, some chain => do
    (chain.validate context.actor trustedNow).mapError .delegation
    reject (chain.grants.getLast?.map Delegation.id != some delegationId ||
      chain.grants.any fun grant => !grant.scope.scopeAllowsOperation operation domain) .scopeViolation
  | _, _ => .error (.delegation .emptyChain)

theorem checkGovernedDelegation_eq_ok {operation domain : String} {context : ExecutionContext}
    {trustedNow : Instant} {chain : DelegationChain} (hc : context.delegationChain = some chain) :
    checkGovernedDelegation operation domain context trustedNow = .ok () ↔
      chain.validate context.actor trustedNow = .ok () ∧
      (∃ id, context.delegationId = some id ∧ chain.grants.getLast?.map Delegation.id = some id) ∧
      ∀ grant ∈ chain.grants, grant.scope.scopeAllowsOperation operation domain = true := by
  unfold checkGovernedDelegation
  cases hid : context.delegationId with
  | none => simp [hc]
  | some id => simp [hc, seq_eq_ok]

inductive GovernedEffectPolicy where
  | ineligible
  | noDurableOrExternalEffect
  deriving DecidableEq

/-- What the governed path reads of a registered handler besides calling it. -/
structure GovernedHandler where
  operation : String
  idempotencyPolicyFor : String → IdempotencyPolicy
  governedEffectPolicyFor : String → GovernedEffectPolicy

/-- The adapter a governed handler was registered for; the seal is the identity of its reporter. -/
structure RegisteredGovernedAdapter where
  reporterSeal : Nat
  operation : String
  version : String
  kind : BoundaryKind
  adapter : String
  model : Option String

def RegisteredGovernedAdapter.matchesIntent (registered : RegisteredGovernedAdapter) (intent : DispatchIntent) : Bool :=
  registered.operation == intent.operation && registered.version == intent.version &&
  registered.kind == intent.kind && registered.adapter == intent.adapter && registered.model == intent.model

structure PreparedBoundaryUsage where
  reporterSeal : Nat
  boundaryKind : BoundaryKind
  tokens : Nat
  costMicrousd : Nat
  toolDispatches : Nat

/-- A prepared mutation is always `NoEffect` and is not a field here. -/
structure PreparedHandlerOutput where
  output : Json
  boundaryUsage : PreparedBoundaryUsage

inductive OperatorEnvironmentError where
  | clockUnavailable
  | entropyUnavailable

def OperatorEnvironmentError.message : OperatorEnvironmentError → String
  | .clockUnavailable => "clock unavailable"
  | .entropyUnavailable => "entropy unavailable"

/-- Answer of the two sets of consumed permits and tokens, which are locked, searched and
extended together. -/
inductive PermitAdmission where
  | admitted
  | alreadyConsumed
  | unavailable

inductive GovernedRequest where
  | trustedUtcNow
  | monotonicMillis
  | newUuidV7
  | consumePermit (permitId : Uuid) (tokenDigest : ControlDigest)
  | leaseLiveness
  | claimEffect
  | executeGovernedVersioned (operation version : String) (input : Json) (context : ExecutionContext)

abbrev GovernedRequest.Answer : GovernedRequest → Type
  | .trustedUtcNow => Except OperatorEnvironmentError Instant
  | .monotonicMillis => Except OperatorEnvironmentError Nat
  | .newUuidV7 => Except OperatorEnvironmentError Uuid
  | .consumePermit _ _ => PermitAdmission
  | .leaseLiveness => Bool
  | .claimEffect => Bool
  | .executeGovernedVersioned _ _ _ _ => Except ExecutionError PreparedHandlerOutput

abbrev governedInterface : Interface := ⟨GovernedRequest, GovernedRequest.Answer⟩

abbrev GovernedExec : Type → Type := Procedure governedInterface ExecutionError

def sendGoverned (request : GovernedRequest) : GovernedExec request.Answer :=
  Procedure.call (I := governedInterface) request

/-- The schemas of the registered operations, as the linked schema validator judges them. -/
structure OperatorSchemaCatalog where
  validateInput : String → String → Json → Bool
  validateOutput : String → String → Json → Bool

/-- An engine with the parts only governed execution uses. -/
structure GovernedEngine extends ExecutionEngine where
  governedHandlers : String → String → Option (RegisteredGovernedAdapter × GovernedHandler)
  /-- Whether a control environment is attached. -/
  operatorEnvironment : Bool
  operatorCatalog : Option OperatorSchemaCatalog

/-- The hash of a canonical input that a dispatch intent quotes, besides the hashes of the
operator records. -/
structure GovernedHashes extends ControlHashes where
  dispatchArgument : CanonicalJson → ControlDigest

/-- A custody bound to its permit, as an authorization shows it. -/
structure DispatchAuthorization where
  workspaceId : Uuid
  permit : DispatchPermit
  intent : DispatchIntent
  replayBinding : Option ReplayClaimBinding
  replayClaimToken : Option Uuid
  monotonicDeadline : Nat

structure GovernedExecutionPlan where
  authorization : DispatchAuthorization
  intent : DispatchIntent
  runBefore : AgentRun
  stepBefore : AgentRunStep
  checkpointTail : Option AgentCheckpointTail
  replayClaim : Option ExecutionReplayClaim

namespace GovernedExecutionPlan
variable (H : GovernedHashes) (plan : GovernedExecutionPlan)

/-- The plan's intent and step are about this call. -/
def callMatches (operation version : String) (argumentDigest : ControlDigest) (inputDigest : ContentDigest) : Bool :=
  plan.authorization.intent == plan.intent && plan.intent.operation == operation &&
  plan.intent.version == version && plan.intent.argumentDigest == argumentDigest &&
  plan.authorization.permit.runId == plan.runBefore.id && plan.stepBefore.runId == plan.runBefore.id &&
  plan.stepBefore.operation == operation && plan.stepBefore.version == version &&
  plan.stepBefore.inputDigest == inputDigest

/-- The run and its step are in progress, with nothing recorded for the step yet. -/
def inProgress : Bool :=
  plan.runBefore.status == .running && plan.stepBefore.status == .running && plan.runBefore.completedAt.isNone &&
  plan.stepBefore.approvalRequestId.isNone && plan.stepBefore.output.isNone && plan.stepBefore.proof.isNone &&
  plan.stepBefore.error.isNone && plan.stepBefore.completedAt.isNone

def wellFormed : Bool :=
  allSafe [plan.runBefore.revision, plan.stepBefore.revision] &&
  allV7 [plan.runBefore.id, plan.stepBefore.id] && plan.stepBefore.retryOf.all uuidIsV7

def chronological (trustedNow : Instant) : Bool :=
  decide (plan.runBefore.createdAt ≤ plan.runBefore.updatedAt) &&
  decide (plan.stepBefore.createdAt ≤ plan.stepBefore.updatedAt) &&
  decide (plan.runBefore.updatedAt ≤ trustedNow) && decide (plan.stepBefore.updatedAt ≤ trustedNow) &&
  plan.stepBefore.startedAt.any fun started =>
    decide (plan.stepBefore.createdAt ≤ started) && decide (started ≤ trustedNow)

/-- The permit was given for this intent, after the run and step were last touched. -/
def permitMatches (trustedNow : Instant) : Bool :=
  let permit := plan.authorization.permit
  permit.validate == .ok () && permit.intentDigest == H.dispatchIntent plan.intent &&
  permit.callDigest == H.dispatchCall plan.intent && decide (permit.authorizedAt ≤ trustedNow) &&
  decide (plan.runBefore.updatedAt ≤ permit.authorizedAt) && decide (plan.stepBefore.updatedAt ≤ permit.authorizedAt)

/-- The binding and the claim name this call, its checkpoint and each other. -/
def replayMatches (binding : ReplayClaimBinding) (claim : ExecutionReplayClaim) (checkpoint : AgentCheckpointTail)
    (operation version : String) (inputDigest : ContentDigest) (actor : PrincipalId) (trustedNow : Instant) : Bool :=
  binding.workspaceId == plan.authorization.workspaceId && binding.runId == plan.runBefore.id &&
  binding.stepId == plan.stepBefore.id && binding.checkpointId == checkpoint.checkpointId &&
  binding.checkpointSequence == checkpoint.sequence && binding.checkpointDigest == checkpoint.stateDigest &&
  binding.operation == operation && binding.version == version &&
  binding.idempotencyKey == claim.key.idempotencyKey && binding.inputDigest == inputDigest &&
  binding.claimedBy == actor && binding.recomputedBindingDigest H.toControlHashes == .ok binding.bindingDigest &&
  claim.key.operation == operation && claim.key.version == version && claim.inputDigest == inputDigest &&
  claim.claimedBy == actor && plan.authorization.replayClaimToken == some claim.claimToken &&
  allV7 [claim.key.idempotencyKey, claim.claimToken] && decide (claim.claimedAt ≤ trustedNow) &&
  plan.authorization.permit.replayBindingDigest == some binding.bindingDigest

/-- Replay authority is carried exactly when the handler's policy asks for it. -/
def checkReplay (policy : IdempotencyPolicy) (checkpoint : AgentCheckpointTail) (operation version : String)
    (inputDigest : ContentDigest) (actor : PrincipalId) (trustedNow : Instant) : Except ExecutionError Unit :=
  match policy with
  | .none =>
    reject (plan.replayClaim.isSome || plan.authorization.replayBinding.isSome ||
      plan.authorization.replayClaimToken.isSome || plan.authorization.permit.replayBindingDigest.isSome)
      (.handlerFailed "non-replay execution carried replay authority")
  | .requiredUuidV7ExactReplay => do
    let claim ← orReject plan.replayClaim (.handlerFailed "required replay claim is missing")
    let binding ← orReject plan.authorization.replayBinding (.handlerFailed "required replay binding is missing")
    (binding.validate H.toControlHashes).mapError fun _ => .handlerFailed "replay binding is invalid"
    reject (!plan.replayMatches H binding claim checkpoint operation version inputDigest actor trustedNow)
      (.handlerFailed "replay claim does not match governed execution")

end GovernedExecutionPlan

/-- Usage as reported through the registered adapter's own reporter, within the ceiling. -/
def preparedUsageFromReport (intent : DispatchIntent) (registered : RegisteredGovernedAdapter)
    (report : PreparedBoundaryUsage) (inputDigest outputDigest : ContentDigest) :
    Except ExecutionError PreparedUsageRecord := do
  reject (!registered.matchesIntent intent || registered.reporterSeal != report.reporterSeal ||
    report.boundaryKind != intent.kind ||
    decide (intent.ceiling.tokens < report.tokens) || decide (intent.ceiling.costMicrousd < report.costMicrousd) ||
    decide (intent.ceiling.toolDispatches < report.toolDispatches) || decide (intent.ceiling.steps < 1) ||
    (report.boundaryKind == .provider && report.toolDispatches != 0) ||
    (report.boundaryKind == .tool && (report.tokens != 0 || report.costMicrousd != 0 || report.toolDispatches != 1)))
    (.evidenceFailed "prepared boundary usage is invalid")
  pure
    { schema := PreparedUsageRecord.schemaName
      boundaryKind := report.boundaryKind
      boundaryCalls := 1
      adapter := intent.adapter
      model := intent.model
      steps := 1
      tokens := report.tokens
      costMicrousd := report.costMicrousd
      toolDispatches := report.toolDispatches
      inputDigest
      outputDigest }

namespace GovernedEngine
variable (P : Primitives) (H : GovernedHashes) (engine : GovernedEngine)

/-- An environment failure is reported under the given kind of error. -/
def environmentCall {α : Type} (err : String → ExecutionError)
    (call : GovernedExec (Except OperatorEnvironmentError α)) : GovernedExec α := do
  Procedure.ofExcept ((← call).mapError fun error => err error.message)

/-- Who may run a governed operation: a human-only entry takes no approval here. -/
def checkGovernedAuthority (entry : RegistryEntry) (operation : String) (context : ExecutionContext)
    (runActor : PrincipalId) (trustedNow : Instant) : Except ExecutionError Unit := do
  reject (entry.status == .sunset) .sunset
  reject (entry.governance == .humanOnly && context.principalKind != some .human) .humanOnly
  reject (context.actor != runActor || context.actor != engine.keypair.principalId)
    (.handlerFailed "governed actor mismatch")
  checkGovernedDelegation operation entry.domain context trustedNow

/-- The handler is the registered one and declares no durable or external effect. -/
def governedEligible (registered : RegisteredGovernedAdapter) (handler : GovernedHandler)
    (operation version : String) (intent : DispatchIntent) : Bool :=
  handler.operation == operation && handler.governedEffectPolicyFor version == .noDurableOrExternalEffect &&
    registered.matchesIntent intent

/-- A call that passed every check before its effect. -/
structure GovernedCall where
  registered : RegisteredGovernedAdapter
  handler : GovernedHandler
  catalog : OperatorSchemaCatalog
  inputDigest : ContentDigest
  trustedNow : Instant

variable (operation version : String) (input : Json) (context : ExecutionContext) (plan : GovernedExecutionPlan)

/-- Everything checked before fresh identifiers are drawn. The digests of a validated
intent always exist. -/
def prepareGovernedCall : GovernedExec GovernedCall := do
  let entry ← Procedure.ofExcept
    (orReject (engine.registry.find operation version) (.operationNotFound operation version))
  Procedure.ofExcept (reject (!engine.operatorEnvironment)
    (.evidenceFailed "operator environment is not configured"))
  let catalog ← Procedure.ofExcept
    (orReject engine.operatorCatalog (.evidenceFailed "operator schema catalog is not configured"))
  let trustedNow ← environmentCall .evidenceFailed (sendGoverned .trustedUtcNow)
  Procedure.ofExcept (engine.checkGovernedAuthority entry operation context plan.runBefore.actor trustedNow)
  Procedure.ofExcept (reject (!catalog.validateInput operation version input)
    (.evidenceFailed "governed input failed schema validation"))
  let canonical ← Procedure.ofExcept
    ((P.canonicalize input).mapError fun error => .evidenceFailed error.message)
  let inputDigest := P.digest .operationInput canonical
  let (registered, handler) ← Procedure.ofExcept (orReject (engine.governedHandlers operation version)
    (.handlerFailed "handler has no governed adapter registration"))
  Procedure.ofExcept (reject (!governedEligible registered handler operation version plan.intent)
    (.handlerFailed "handler is ineligible for governed execution"))
  Procedure.ofExcept (plan.intent.validate.mapError fun _ => .handlerFailed "dispatch intent is invalid")
  Procedure.ofExcept (reject (!(plan.callMatches operation version (H.dispatchArgument canonical) inputDigest &&
    plan.inProgress && plan.wellFormed && plan.chronological trustedNow && plan.permitMatches H trustedNow))
    (.handlerFailed "governed execution plan does not match its permit"))
  let checkpoint ← Procedure.ofExcept (orReject plan.checkpointTail
    (.handlerFailed "governed execution requires a checkpoint tail"))
  Procedure.ofExcept (reject (!uuidIsV7 checkpoint.checkpointId) (.handlerFailed "governed checkpoint is invalid"))
  Procedure.ofExcept (plan.checkReplay H (handler.idempotencyPolicyFor version) checkpoint operation version
    inputDigest context.actor trustedNow)
  pure ⟨registered, handler, catalog, inputDigest, trustedNow⟩

/-- Permit, token and the custody's effect are consumed once, while lease and deadlines last. -/
def consumeAuthority (authorization : DispatchAuthorization) (boundaryNow : Instant) (monotonicNow : Nat) :
    GovernedExec Unit := do
  match ← sendGoverned (.consumePermit authorization.permit.permitId authorization.permit.dispatchTokenDigest) with
  | .unavailable => throw (.handlerFailed "permit registry is unavailable")
  | .alreadyConsumed => throw (.handlerFailed "dispatch permit was already consumed")
  | .admitted => pure ()
  let live ← sendGoverned .leaseLiveness
  Procedure.ofExcept (reject (!live || decide (authorization.permit.budgetDeadlineAt ≤ boundaryNow) ||
    decide (authorization.monotonicDeadline ≤ monotonicNow))
    (.handlerFailed "dispatch authority expired before effect"))
  let claimed ← sendGoverned .claimEffect
  Procedure.ofExcept (reject (!claimed) (.handlerFailed "dispatch authority already consumed"))

/-- The evidence and the successor states for a finished governed handler. -/
def prepareResult (call : GovernedCall) (executionContextId proofId : Uuid) (boundaryNow : Instant)
    (prepared : PreparedHandlerOutput) : Except ExecutionError PreparedGovernedExecution := do
  reject (!call.catalog.validateOutput operation version prepared.output)
    (.evidenceFailed "governed output failed schema validation")
  let canonical ← (P.canonicalize prepared.output).mapError fun error => .evidenceFailed error.message
  let outputDigest := P.digest .operationOutput canonical
  let usage ← preparedUsageFromReport plan.intent call.registered prepared.boundaryUsage call.inputDigest outputDigest
  let proof ← (signProof P
    { id := proofId
      actor := context.actor
      delegationId := context.delegationId
      operation := proofOperation operation version
      inputDigest := call.inputDigest
      outputDigest
      timestamp := boundaryNow
      expiresAt := none } engine.keypair).mapError fun error => .evidenceFailed error.message
  let stepAfter ← (plan.stepBefore.succeed P prepared.output proof boundaryNow).mapError fun error =>
    .handlerFailed error.message
  let runAfter ← if plan.runBefore.mode == .oneShot then
      (plan.runBefore.succeed boundaryNow).mapError fun error => .handlerFailed error.message
    else .ok plan.runBefore
  pure
    { output := prepared.output
      executionContextId
      context := { context with timestamp := boundaryNow }
      proof
      runAfter
      stepAfter
      checkpoint := none
      events := []
      evaluation := none
      approval := none
      replay := plan.replayClaim
      usage }

/-- One permit-authorized bounded handler call, without any store call. -/
def executeEvidencedUnpersisted : GovernedExec PreparedGovernedExecution := do
  let call ← engine.prepareGovernedCall P H operation version input context plan
  let executionContextId ← environmentCall .evidenceFailed (sendGoverned .newUuidV7)
  let proofId ← environmentCall .evidenceFailed (sendGoverned .newUuidV7)
  Procedure.ofExcept (reject (!allV7 [executionContextId, proofId])
    (.evidenceFailed "operator environment returned a non-UUIDv7 identifier"))
  let boundaryNow ← environmentCall .handlerFailed (sendGoverned .trustedUtcNow)
  let monotonicNow ← environmentCall .handlerFailed (sendGoverned .monotonicMillis)
  Procedure.ofExcept (reject (decide (boundaryNow < call.trustedNow) || decide (boundaryNow < context.timestamp))
    (.handlerFailed "governed execution chronology is invalid"))
  Procedure.ofExcept (reject (!governedEligible call.registered call.handler operation version plan.intent)
    (.handlerFailed "governed handler registration changed before boundary entry"))
  consumeAuthority plan.authorization boundaryNow monotonicNow
  let prepared ← Procedure.ofExcept (← sendGoverned (.executeGovernedVersioned operation version input context))
  Procedure.ofExcept (engine.prepareResult P operation version context plan call executionContextId proofId
    boundaryNow prepared)

end GovernedEngine
end ProofPlatform.Executor
