import ProofPlatform.Kernel.AgentRun

/-! Signed human approvals: who may request, who may decide, and what an approval
authorizes. -/
namespace ProofPlatform.Kernel
open Library.Fallible

inductive ApprovalError where
  | emptyOperation
  | emptyVersion
  | invalidWindow
  | requesterMustBeAgent
  | requesterMismatch
  | approverMustBeHuman
  | approverMismatch
  | invalidSignature
  | canonicalization
  | requestMismatch
  | denied
  | expired
  | decisionOutOfWindow
  | operationMismatch
  | versionMismatch
  | inputMismatch
  | actorMismatch
  | untrustedApprover
  deriving DecidableEq

def ApprovalError.message : ApprovalError → String
  | .emptyOperation => "approval operation must not be empty"
  | .emptyVersion => "approval version must not be empty"
  | .invalidWindow => "approval expiration must be after its request time"
  | .requesterMustBeAgent => "approval requester must use an agent identity"
  | .requesterMismatch => "approval requester does not match the signing identity"
  | .approverMustBeHuman => "approval decision must use a human identity"
  | .approverMismatch => "approval decision does not match the signing identity"
  | .invalidSignature => "approval signature is invalid"
  | .canonicalization => "approval payload could not be canonicalized"
  | .requestMismatch => "approval request does not match the decision"
  | .denied => "approval request was denied"
  | .expired => "approval request has expired"
  | .decisionOutOfWindow => "approval decision falls outside the request validity window"
  | .operationMismatch => "approval operation does not match the requested execution"
  | .versionMismatch => "approval version does not match the requested execution"
  | .inputMismatch => "approval input does not match the requested execution"
  | .actorMismatch => "approval actor does not match the requesting agent"
  | .untrustedApprover => "approval was signed by an untrusted human principal"

structure ApprovalGrant where
  request : SignedApprovalRequest
  decision : SignedApprovalDecision
  approver : Principal

variable (P : Primitives)

def verifyBytes (key : PublicKey) (payload : SignedPayload) (signature : List (BitVec 8)) : Except ApprovalError Unit :=
  reject (!(signatureOfBytes signature).any (P.verify key payload)) .invalidSignature

def SignedApprovalRequest.verify (request : SignedApprovalRequest) (requester : Principal) :
    Except ApprovalError Unit := do
  reject (requester.kind != .agent) .requesterMustBeAgent
  reject (requester.id != request.body.requestedBy) .requesterMismatch
  verifyBytes P requester.publicKey (.approvalRequest request.body) request.signature

/-- The request authorizes this exact pending agent call. -/
def SignedApprovalRequest.verifyForCall (request : SignedApprovalRequest) (requester : Principal)
    (operation version : String) (input : Json) (actor : PrincipalId) (now : Instant) :
    Except ApprovalError Unit := do
  request.verify P requester
  reject (decide (request.body.expiresAt < now)) .expired
  reject (actor != requester.id || actor != request.body.requestedBy) .actorMismatch
  reject (operation != request.body.operation) .operationMismatch
  reject (version != request.body.version) .versionMismatch
  let canonical ← (P.canonicalize input).mapError fun _ => .canonicalization
  reject (P.digest .operationInput canonical != request.body.inputDigest) .inputMismatch

def SignedApprovalDecision.verify (decision : SignedApprovalDecision) (approver : Principal) :
    Except ApprovalError Unit := do
  reject (approver.kind != .human) .approverMustBeHuman
  reject (approver.id != decision.body.decidedBy) .approverMismatch
  verifyBytes P approver.publicKey (.approvalDecision decision.body) decision.signature

def samePrincipal (left right : Principal) : Bool :=
  left.id == right.id && left.kind == right.kind && left.publicKey == right.publicKey

def ApprovalGrant.verifyDecision (grant : ApprovalGrant) (requester trustedApprover : Principal) :
    Except ApprovalError Unit := do
  reject (!samePrincipal grant.approver trustedApprover) .untrustedApprover
  grant.request.verify P requester
  grant.decision.verify P grant.approver
  reject (grant.decision.body.requestId != grant.request.body.id ||
    grant.decision.body.requestDigest != P.requestDigest grant.request) .requestMismatch
  reject (decide (grant.decision.body.decidedAt < grant.request.body.requestedAt) ||
    decide (grant.request.body.expiresAt < grant.decision.body.decidedAt)) .decisionOutOfWindow

def ApprovalGrant.verifyForExecution (grant : ApprovalGrant) (requester : Keypair)
    (trustedApprover : Principal) (operation version : String) (input : Json) (actor : PrincipalId)
    (now : Instant) : Except ApprovalError Unit := do
  let requesterPrincipal := principalFromKeypair P requester
  grant.verifyDecision P requesterPrincipal trustedApprover
  reject (grant.decision.body.outcome != .approved) .denied
  grant.request.verifyForCall P requesterPrincipal operation version input actor now

end ProofPlatform.Kernel
