import ProofPlatform.Executor.ReplaySafety
import ProofPlatform.Library.Table

/-! The two stores that support exact replay: the in-memory `RecordingStore` and the
replay tables of `SqliteStore`. -/
namespace ProofPlatform.Executor
open Kernel Library.Fallible Library Table

inductive RecordingReplayState where
  | claimed
  | completed (context : ExecutionContext) (outcome : ExecutionOutcome)
  | failed (failedAt : Instant) (failure : String)

structure RecordingReplay where
  claim : ExecutionReplayClaim
  state : RecordingReplayState

structure RecordingStore where
  proofs : List Proof
  contexts : List ExecutionContext
  executionReplays : List RecordingReplay

/-- The checks of a completion before the ledger is touched; the result is the canonical output. -/
def validateReplayCompletion (P : Primitives) (claim : ExecutionReplayClaim) (context : ExecutionContext)
    (outcome : ExecutionOutcome) : Except String CanonicalJson := do
  let proof := outcome.proof.body
  reject (proof.operation != proofOperation claim.key.operation claim.key.version)
    "execution replay proof operation does not match the claim"
  reject (proof.inputDigest != claim.inputDigest)
    "execution replay proof input digest does not match the claim"
  reject (proof.actor != claim.claimedBy || proof.actor != context.actor)
    "execution replay proof actor does not match the claim"
  reject (proof.delegationId != context.delegationId || proof.timestamp != context.timestamp)
    "execution replay proof context does not match"
  let output ← (P.canonicalize outcome.output).mapError fun _ =>
    "execution replay output could not be canonicalized"
  reject (proof.outputDigest != P.digest .operationOutput output)
    "execution replay proof output digest does not match the output"
  pure output

namespace RecordingStore
variable (P : Primitives) (store : RecordingStore)

def find (key : ExecutionReplayKey) : Option RecordingReplay :=
  lookup (fun replay => replay.claim.key) store.executionReplays key

def setState (key : ExecutionReplayKey) (state : RecordingReplayState) : List RecordingReplay :=
  updateWhere (fun replay => decide (replay.claim.key = key)) (fun replay => { replay with state })
    store.executionReplays

variable (claim : ExecutionReplayClaim) (context : ExecutionContext) (outcome : ExecutionOutcome)

def claimExecutionReplay : Except String (ExecutionReplayClaimResult × RecordingStore) :=
  match store.find claim.key with
  | none => .ok (.acquired, { store with
      executionReplays := store.executionReplays ++ [⟨claim, .claimed⟩] })
  | some replay =>
    if replay.claim.inputDigest ≠ claim.inputDigest then .ok (.conflict, store)
    else
      match replay.state with
      | .claimed => .ok (.inProgress, store)
      | .completed _ outcome => .ok (.completed outcome, store)
      | .failed _ _ => .ok (.failed, store)

/-- The replay a settlement refers to, after its digest and token are compared. -/
def owned : Except String RecordingReplay := do
  let replay ← orReject (store.find claim.key) "execution replay claim does not exist"
  reject (replay.claim.inputDigest != claim.inputDigest)
    "execution replay input digest conflicts with the claim"
  reject (replay.claim.claimToken != claim.claimToken) "execution replay claim token does not match"
  pure replay

def completeExecutionReplay : Except String RecordingStore := do
  let _ ← validateReplayCompletion P claim context outcome
  let replay ← store.owned claim
  match replay.state with
  | .claimed => .ok { store with
      proofs := store.proofs ++ [outcome.proof]
      contexts := store.contexts ++ [context]
      executionReplays := store.setState claim.key (.completed context outcome) }
  | .completed storedContext storedOutcome =>
    if storedContext = context ∧ storedOutcome = outcome then .ok store
    else .error "execution replay is already completed differently"
  | .failed _ _ => .error "failed execution replay cannot be completed"

def failExecutionReplay (failedAt : Instant) (failure : String) : Except String RecordingStore := do
  reject (failure == "") "execution replay failure must not be empty"
  let replay ← store.owned claim
  match replay.state with
  | .claimed => .ok { store with executionReplays := store.setState claim.key (.failed failedAt failure) }
  | .failed storedAt storedFailure =>
    if storedAt = failedAt ∧ storedFailure = failure then .ok store
    else .error "execution replay is already failed differently"
  | .completed _ _ => .error "completed execution replay cannot be failed"

end RecordingStore

inductive StorageError where
  | database
  | serialization
  | notFound (message : String)
  | conflict (message : String)
  deriving DecidableEq

/-- The text the engine sees; what a linked library reports is left open. -/
def StorageError.message : StorageError → String
  | .database => "database error: "
  | .serialization => "serialization error: "
  | .notFound message => "not found: " ++ message
  | .conflict message => "conflict: " ++ message

inductive ReplayState where
  | claimed
  | completed
  | failed
  deriving DecidableEq

/-- A row of `execution_replays`; the output is kept as its canonical text. -/
structure ReplayRow where
  key : ExecutionReplayKey
  inputDigest : ContentDigest
  state : ReplayState
  claimToken : Uuid
  claimedBy : PrincipalId
  claimedAt : Instant
  completedAt : Option Instant
  failedAt : Option Instant
  failure : Option String
  outputJson : Option CanonicalJson
  proofId : Option Uuid
  proofJson : Option Proof
  executionContextId : Option Uuid

structure ContextRow where
  id : Uuid
  actor : PrincipalId
  delegationId : Option Uuid
  workspacePath : String
  timestamp : Instant
  deriving DecidableEq

/-- The tables exact replay reads and writes. The `signature` column of `proofs` holds the
whole signed proof. -/
structure SqliteReplayTables where
  executionReplays : List ReplayRow
  executionContexts : List ContextRow
  proofs : List Proof

namespace SqliteStore
variable (P : Primitives) (parseJson : String → Option Json) (tables : SqliteReplayTables)

variable (claim : ExecutionReplayClaim)

def validateClaimShape : Except StorageError Unit :=
  reject (claim.key.idempotencyKey.version != 7) (.conflict "execution replay idempotency key must be UUIDv7")

def loadReplay : Option ReplayRow :=
  lookup ReplayRow.key tables.executionReplays claim.key

def validateStoredClaim (row : ReplayRow) (claim : ExecutionReplayClaim) : Except StorageError Unit := do
  reject (row.inputDigest != claim.inputDigest)
    (.conflict "execution replay input digest conflicts with the claim")
  reject (row.claimToken != claim.claimToken) (.conflict "execution replay claim token does not match")
  reject (row.claimedBy != claim.claimedBy || row.claimedAt != claim.claimedAt)
    (.conflict "execution replay claimant does not match")

def loadProof (id : Uuid) : Option Proof := lookup (fun proof => proof.body.id) tables.proofs id

def loadContext (id : Uuid) : Option ContextRow := lookup ContextRow.id tables.executionContexts id

def loadCompletedOutcome (row : ReplayRow) : Except StorageError ExecutionReplayClaimResult := do
  let outputJson ← orReject row.outputJson (.conflict "completed execution replay has no output")
  let proofId ← orReject row.proofId (.conflict "completed execution replay has no proof ID")
  let proof ← orReject row.proofJson (.conflict "completed execution replay has no proof")
  let output ← orReject (parseJson outputJson.text) .serialization
  let canonicalOutput ← (P.canonicalize output).mapError fun _ =>
    .conflict "completed execution replay output could not be canonicalized"
  reject (canonicalOutput != outputJson) (.conflict "completed execution replay output is not canonical")
  reject (proof.body.id != proofId)
    (.conflict "completed execution replay proof ID does not match its proof")
  reject (loadProof tables proofId != some proof)
    (.conflict "completed execution replay proof does not match immutable proof storage")
  let contextId ← orReject row.executionContextId
    (.conflict "completed execution replay has no execution context")
  reject (loadContext tables contextId == none)
    (.conflict "completed execution replay execution context is missing")
  pure (.completed ⟨output, proof⟩)

def claimedRow : ReplayRow where
  key := claim.key
  inputDigest := claim.inputDigest
  state := .claimed
  claimToken := claim.claimToken
  claimedBy := claim.claimedBy
  claimedAt := claim.claimedAt
  completedAt := none
  failedAt := none
  failure := none
  outputJson := none
  proofId := none
  proofJson := none
  executionContextId := none

def claimExecutionReplay : Except StorageError (ExecutionReplayClaimResult × SqliteReplayTables) := do
  validateClaimShape claim
  match loadReplay tables claim with
  | some row =>
    if row.inputDigest ≠ claim.inputDigest then pure (.conflict, tables)
    else
      match row.state with
      | .claimed => pure (.inProgress, tables)
      | .failed => pure (.failed, tables)
      | .completed => do
        let result ← loadCompletedOutcome P parseJson tables row
        pure (result, tables)
  | none => do
    -- Claim tokens are unique across the table.
    reject (tables.executionReplays.any fun row => row.claimToken == claim.claimToken) .database
    pure (.acquired, { tables with executionReplays := tables.executionReplays ++ [claimedRow claim] })

/-- The same checks as in memory, then the canonical text to store. -/
def validateCompletion (context : ExecutionContext) (outcome : ExecutionOutcome) : Except StorageError CanonicalJson :=
  (validateReplayCompletion P claim context outcome).mapError .conflict

def insertExecutionContext (id : Uuid) (context : ExecutionContext) : Except StorageError SqliteReplayTables := do
  reject (loadContext tables id != none) .database
  pure { tables with executionContexts := tables.executionContexts ++
    [⟨id, context.actor, context.delegationId, context.workspacePath, context.timestamp⟩] }

def insertImmutableProof (proof : Proof) : Except StorageError SqliteReplayTables := do
  reject (loadProof tables proof.body.id != none) .database
  pure { tables with proofs := tables.proofs ++ [proof] }

def validateIdempotentCompletion (row : ReplayRow) (context : ExecutionContext) (outcome : ExecutionOutcome)
    (outputJson : CanonicalJson) : Except StorageError Unit := do
  reject (!(row.completedAt == some outcome.proof.body.timestamp && row.outputJson == some outputJson &&
      row.proofId == some outcome.proof.body.id && row.proofJson == some outcome.proof))
    (.conflict "execution replay is already completed differently")
  let contextId ← orReject row.executionContextId
    (.conflict "completed execution replay has no execution context")
  reject (loadContext tables contextId != some
      ⟨contextId, context.actor, context.delegationId, context.workspacePath, context.timestamp⟩)
    (.conflict "execution replay is already completed with a different context")
  reject (loadProof tables outcome.proof.body.id != some outcome.proof)
    (.conflict "execution replay is already completed with a different proof")

/-- The row an update of an open claim may change. -/
def ownedBy (row : ReplayRow) : Bool :=
  decide (row.key = claim.key) && row.state == .claimed && row.claimToken == claim.claimToken &&
    row.inputDigest == claim.inputDigest

/-- Update the open row of a claim; anything but one changed row is an error. -/
def settleRow (f : ReplayRow → ReplayRow) (changed : String) : Except StorageError SqliteReplayTables := do
  reject (tables.executionReplays.countP (ownedBy claim) != 1) (.conflict changed)
  pure { tables with executionReplays := updateWhere (ownedBy claim) f tables.executionReplays }

def completedRow (output : CanonicalJson) (proof : Proof) (contextId : Uuid) (row : ReplayRow) : ReplayRow :=
  { row with
    state := .completed
    completedAt := some proof.body.timestamp
    outputJson := some output
    proofId := some proof.body.id
    proofJson := some proof
    executionContextId := some contextId }

def failedRow (failedAt : Instant) (failure : String) (row : ReplayRow) : ReplayRow :=
  { row with state := .failed, failedAt := some failedAt, failure := some failure }

def completeExecutionReplay (contextId : Uuid) (claim : ExecutionReplayClaim) (context : ExecutionContext)
    (outcome : ExecutionOutcome) : Except StorageError SqliteReplayTables := do
  validateClaimShape claim
  let outputJson ← validateCompletion P claim context outcome
  let row ← orReject (loadReplay tables claim) (.conflict "execution replay claim does not exist")
  validateStoredClaim row claim
  match row.state with
  | .completed => do
    validateIdempotentCompletion tables row context outcome outputJson
    pure tables
  | .failed => throw (.conflict "failed execution replay cannot be completed")
  | .claimed => do
    let withContext ← insertExecutionContext tables contextId context
    let withProof ← insertImmutableProof withContext outcome.proof
    settleRow withProof claim (completedRow outputJson outcome.proof contextId)
      "execution replay claim changed before completion"

def failExecutionReplay (failedAt : Instant) (failure : String) : Except StorageError SqliteReplayTables := do
  validateClaimShape claim
  reject (failure == "") (.conflict "execution replay failure must not be empty")
  let row ← orReject (loadReplay tables claim) (.conflict "execution replay claim does not exist")
  validateStoredClaim row claim
  match row.state with
  | .claimed =>
    settleRow tables claim (failedRow failedAt failure)
      "execution replay claim changed before failure was recorded"
  | .failed =>
    if row.failedAt = some failedAt ∧ row.failure = some failure then pure tables
    else throw (.conflict "execution replay is already failed differently")
  | .completed => throw (.conflict "completed execution replay cannot be failed")

end SqliteStore

/-- What the engine and its callers can see of a key: the recorded claim and its state. -/
abbrev ReplayView := Option (ExecutionReplayClaim × ReplayState)

/-- The replay methods of a store; `elsewhere` relates states with the same replay rows. -/
structure ReplayStore (σ : Type) where
  view : σ → ExecutionReplayKey → ReplayView
  claim : σ → ExecutionReplayClaim → Except String (ExecutionReplayClaimResult × σ)
  complete : σ → Uuid → ExecutionReplayClaim → ExecutionContext → ExecutionOutcome → Except String σ
  fail : σ → ExecutionReplayClaim → Instant → String → Except String σ
  elsewhere : σ → σ → Prop

def RecordingReplayState.tag : RecordingReplayState → ReplayState
  | .claimed => .claimed
  | .completed _ _ => .completed
  | .failed _ _ => .failed

def recordingReplayStore (P : Primitives) : ReplayStore RecordingStore where
  view store key := (store.find key).map fun replay => (replay.claim, replay.state.tag)
  claim := RecordingStore.claimExecutionReplay
  complete store _ := store.completeExecutionReplay P
  fail := RecordingStore.failExecutionReplay
  elsewhere store store' := store'.executionReplays = store.executionReplays

def ReplayRow.claim (row : ReplayRow) : ExecutionReplayClaim :=
  ⟨row.key, row.inputDigest, row.claimToken, row.claimedBy, row.claimedAt⟩

def sqliteReplayStore (P : Primitives) (parseJson : String → Option Json) : ReplayStore SqliteReplayTables where
  view tables key := (lookup ReplayRow.key tables.executionReplays key).map fun row => (row.claim, row.state)
  claim tables claim := (SqliteStore.claimExecutionReplay P parseJson tables claim).mapError StorageError.message
  complete tables contextId claim context outcome :=
    (SqliteStore.completeExecutionReplay P tables contextId claim context outcome).mapError StorageError.message
  fail tables claim failedAt failure :=
    (SqliteStore.failExecutionReplay tables claim failedAt failure).mapError StorageError.message
  elsewhere tables tables' := tables'.executionReplays = tables.executionReplays

end ProofPlatform.Executor
