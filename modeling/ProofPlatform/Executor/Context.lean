import ProofPlatform.Kernel.Approval
import ProofPlatform.Kernel.Delegation

/-! Execution contexts, errors and the records of exact replay. -/
namespace ProofPlatform.Executor
open Kernel

structure ExecutionContext where
  actor : PrincipalId
  /-- An absent kind is treated as an agent. -/
  principalKind : Option PrincipalKind
  delegationId : Option Uuid
  delegationChain : Option DelegationChain
  workspacePath : String
  timestamp : Instant
  deriving DecidableEq

inductive IdempotencyError where
  | missingKey
  | invalidUuidV7
  | conflict
  | inProgress
  | indeterminate
  | storageRequired
  deriving DecidableEq

inductive ExecutionError where
  | operationNotFound (operation version : String)
  | noHandler (operation : String)
  | humanOnly
  | approval (error : ApprovalError)
  | sunset
  | delegation (error : DelegationError)
  | scopeViolation
  | handlerFailed (message : String)
  | evidenceFailed (message : String)
  | benchmarkExpired (benchmark proofId : String)
  | idempotency (error : IdempotencyError)
  | storageFailed (message : String)
  deriving DecidableEq

private def hexDigit (n : Nat) : Char := "0123456789abcdef".toList.getD n '0'

private def hexDigits (id : Uuid) (first count : Nat) : List Char :=
  (List.range count).map fun i => hexDigit (id.toNat / 16 ^ (31 - (first + i)) % 16)

/-- The hyphenated lower-case form. -/
def uuidText (id : Uuid) : String :=
  String.ofList (hexDigits id 0 8 ++ ['-'] ++ hexDigits id 8 4 ++ ['-'] ++ hexDigits id 12 4 ++ ['-'] ++
    hexDigits id 16 4 ++ ['-'] ++ hexDigits id 20 12)

def delegationMessage : DelegationError → String
  | .emptyChain => "delegation chain cannot be empty"
  | .invalidRoot root => "delegation chain does not start at root principal " ++ uuidText root.id
  | .brokenChain index => "delegation links are not connected at link " ++ toString index
  | .invalidTerminalAgent index =>
    "delegation recipient at link " ++ toString index ++ " is not the executing agent"
  | .insufficientActionAuthority index action =>
    "grantor at link " ++ toString index ++ " cannot delegate " ++ action
  | .insufficientResourceAuthority index resource =>
    "grantor at link " ++ toString index ++ " cannot delegate resource " ++ resource
  | .invalidTime index => "delegation at link " ++ toString index ++ " is not valid at the requested time"
  | .revoked index => "delegation at link " ++ toString index ++ " is revoked"

def IdempotencyError.message : IdempotencyError → String
  | .missingKey => "idempotency_key is required"
  | .invalidUuidV7 => "idempotency_key must be a UUIDv7 string"
  | .conflict => "idempotency key is already bound to different input"
  | .inProgress => "idempotency key is currently being executed; retry later"
  | .indeterminate => "idempotency key has an indeterminate prior execution and requires reconciliation"
  | .storageRequired => "durable exact-replay storage is required for this operation"

def ExecutionError.message : ExecutionError → String
  | .operationNotFound operation version => "operation not found: " ++ operation ++ " " ++ version
  | .noHandler operation => "no handler registered for: " ++ operation
  | .humanOnly => "operation is human-only, agents cannot execute"
  | .approval error => "approval invalid: " ++ error.message
  | .sunset => "operation is sunset and cannot be executed"
  | .delegation error => "delegation chain invalid: " ++ delegationMessage error
  | .scopeViolation => "operation is outside the delegation scope"
  | .handlerFailed message => "handler execution failed: " ++ message
  | .evidenceFailed message => "evidence generation failed: " ++ message
  | .benchmarkExpired benchmark proofId =>
    "benchmark proof expired: benchmark=" ++ benchmark ++ " proof=" ++ proofId
  | .idempotency error => "idempotency failed: " ++ error.message
  | .storageFailed message => "storage failed: " ++ message

inductive IdempotencyPolicy where
  | none
  | requiredUuidV7ExactReplay

/-- The durable scope of an exact-replay claim. -/
structure ExecutionReplayKey where
  operation : String
  version : String
  idempotencyKey : Uuid
  deriving DecidableEq

/-- A caller's attempt to claim a key before the mutation. -/
structure ExecutionReplayClaim where
  key : ExecutionReplayKey
  inputDigest : ContentDigest
  claimToken : Uuid
  claimedBy : PrincipalId
  claimedAt : Instant
  deriving DecidableEq

structure ExecutionOutcome where
  output : Json
  proof : Proof
  deriving DecidableEq

inductive ExecutionReplayClaimResult where
  | acquired
  | completed (outcome : ExecutionOutcome)
  | conflict
  | inProgress
  | failed
  | unsupported

/-- The name under which evidence of one version of an operation is filed. -/
def proofOperation (operation version : String) : String := operation ++ "::" ++ version

end ProofPlatform.Executor
