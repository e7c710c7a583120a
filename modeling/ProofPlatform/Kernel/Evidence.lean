import ProofPlatform.Kernel.Canonical

/-! Signed evidence envelopes, over the cryptographic functions the kernel links. -/
namespace ProofPlatform.Kernel

abbrev SigningKey := BitVec 256
abbrev PublicKey := BitVec 256

/-- The 64 bytes of a signature. -/
abbrev Signature := BitVec 512

structure Principal where
  id : PrincipalId
  kind : PrincipalKind
  publicKey : PublicKey
  createdAt : Instant

structure Keypair where
  principalId : PrincipalId
  kind : PrincipalKind
  createdAt : Instant
  signingKey : SigningKey

structure ProofBody where
  id : Uuid
  actor : PrincipalId
  delegationId : Option Uuid
  operation : String
  inputDigest : ContentDigest
  outputDigest : ContentDigest
  timestamp : Instant
  expiresAt : Option Instant
  deriving DecidableEq

structure Proof where
  body : ProofBody
  signature : Signature
  deriving DecidableEq

def Proof.isExpired (proof : Proof) (now : Instant) : Bool :=
  proof.body.expiresAt.any fun expiresAt => decide (expiresAt ≤ now)

inductive ApprovalOutcome where
  | approved
  | denied
  deriving DecidableEq

structure ApprovalRequest where
  id : Uuid
  operation : String
  version : String
  inputDigest : ContentDigest
  requestedBy : PrincipalId
  requestedAt : Instant
  expiresAt : Instant
  deriving DecidableEq

/-- A signed request; the signature is kept as received, of any length. -/
structure SignedApprovalRequest where
  body : ApprovalRequest
  signature : List (BitVec 8)

structure ApprovalDecision where
  id : Uuid
  requestId : Uuid
  requestDigest : ContentDigest
  outcome : ApprovalOutcome
  decidedBy : PrincipalId
  decidedAt : Instant
  reason : Option String
  deriving DecidableEq

structure SignedApprovalDecision where
  body : ApprovalDecision
  signature : List (BitVec 8)

/-- What a kernel signature is computed over; the canonical text of a record determines it. -/
inductive SignedPayload where
  | proof (body : ProofBody)
  | approvalRequest (body : ApprovalRequest)
  | approvalDecision (body : ApprovalDecision)
  deriving DecidableEq

/-- Functions the kernel takes from its canonical encoder and from linked libraries.
Nothing is assumed of them here. -/
structure Primitives where
  canonicalize : Json → Except CanonicalizationError CanonicalJson
  digest : ArtifactKind → CanonicalJson → ContentDigest
  requestDigest : SignedApprovalRequest → ContentDigest
  decisionDigest : SignedApprovalDecision → ContentDigest
  publicKey : SigningKey → PublicKey
  sign : SigningKey → SignedPayload → Signature
  verify : PublicKey → SignedPayload → Signature → Bool
  parseUuid : String → Option Uuid

/-- Libraries for paths that call none of their functions. -/
def unusedPrimitives : Primitives where
  canonicalize _ := .error .nonExactNumber
  digest _ _ := ⟨0⟩
  requestDigest _ := ⟨0⟩
  decisionDigest _ := ⟨0⟩
  publicKey _ := 0
  sign _ _ := 0
  verify _ _ _ := false
  parseUuid _ := none

/-- Join 64 octets, most significant first; any other length is no signature. -/
def signatureOfBytes (bytes : List (BitVec 8)) : Option Signature :=
  if bytes.length = 64 then
    some (BitVec.ofNat 512 (bytes.foldl (fun acc byte => acc * 256 + byte.toNat) 0))
  else none

variable (P : Primitives)

inductive ProofError where
  | invalidSignature
  | actorMismatch
  | canonicalization

def ProofError.message : ProofError → String
  | .invalidSignature => "invalid proof signature"
  | .actorMismatch => "proof actor does not match signing key"
  | .canonicalization => "canonicalization failed"

def principalFromKeypair (keypair : Keypair) : Principal where
  id := keypair.principalId
  kind := keypair.kind
  publicKey := P.publicKey keypair.signingKey
  createdAt := keypair.createdAt

/-- Only the actor named in the body can sign it. -/
def signProof (body : ProofBody) (keypair : Keypair) : Except ProofError Proof :=
  if keypair.principalId = body.actor then
    .ok ⟨body, P.sign keypair.signingKey (.proof body)⟩
  else .error .actorMismatch

def Proof.verify (proof : Proof) (key : PublicKey) : Bool := P.verify key (.proof proof.body) proof.signature

/-- A proof for an executed operation, with the identifier drawn for it. -/
def createProof (id : Uuid) (actor : PrincipalId) (delegationId : Option Uuid) (operation : String)
    (input output : Json) (timestamp : Instant) (keypair : Keypair) : Except ProofError Proof :=
  match P.canonicalize input, P.canonicalize output with
  | .ok input, .ok output =>
    signProof P
      { id, actor, delegationId, operation, timestamp
        inputDigest := P.digest .operationInput input
        outputDigest := P.digest .operationOutput output
        expiresAt := none } keypair
  | _, _ => .error .canonicalization

end ProofPlatform.Kernel
