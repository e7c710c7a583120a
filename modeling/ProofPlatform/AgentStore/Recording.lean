import ProofPlatform.Executor.Context
import ProofPlatform.Kernel.LiveStart
import ProofPlatform.Library.KeyedLog

/-! The in-memory store of agent runs: every call is one step, under one lock. -/
namespace ProofPlatform.AgentStore
open Kernel Executor Library Library.Fallible Table

/-- The checkpoint sequence that follows an observed tail, if there is one left. -/
def followingSequence (expectedTail : Option AgentCheckpointTail) : Option Nat :=
  match expectedTail with
  | some tail => if tail.sequence + 1 < 2 ^ 32 then some (tail.sequence + 1) else none
  | none => some 0

structure RecordingLiveRunStartClaim where
  claim : LiveRunStartClaim
  initialRun : AgentRun
  checkpointId : Uuid
  eventId : Uuid
  deriving DecidableEq

/-- Each map is the list of its values; nothing below depends on their order. -/
structure RecordingAgentRunStore where
  runs : List AgentRun
  checkpoints : List AgentCheckpoint
  events : List AgentRunEvent
  liveStartClaims : List RecordingLiveRunStartClaim
  deriving DecidableEq

variable (P : Primitives)

def validateAgentCheckpointIntegrity (checkpoint : AgentCheckpoint) (description : String) : Except String Unit := do
  let canonical ← (P.canonicalize checkpoint.state).mapError fun error =>
    description ++ " state is not canonicalizable: " ++ error.message
  reject (checkpoint.stateDigest != P.digest .agentCheckpoint canonical)
    (description ++ " state digest does not match its state")

/-- A checkpoint read back from the store, if there is one, is checked again. -/
def validateStoredIntegrity (stored : Option AgentCheckpoint) (description : String) : Except String Unit :=
  match stored with
  | some checkpoint => validateAgentCheckpointIntegrity P checkpoint description
  | none => .ok ()

def validateProgressedClaimRun (initial current : AgentRun) : Except String Unit :=
  reject (!current.continues initial) "claimed live run identity or history drifted"

/-- A record that is written once: it may be written again as it is. -/
def saveOnce {α : Type} [DecidableEq α] (id : α → Uuid) (record : α) (name : String) (records : List α) :
    Except String (List α) :=
  match lookup id records (id record) with
  | some existing =>
    if existing = record then .ok records else .error ("conflicting " ++ name ++ ": " ++ uuidText (id record))
  | none => .ok (put id record records)

namespace RecordingAgentRunStore

variable (store : RecordingAgentRunStore)

def saveAgentRun (run : AgentRun) : Except String RecordingAgentRunStore :=
  match lookup AgentRun.id store.runs run.id with
  | some existing =>
    if existing = run then .ok store
    else if existing.revision + 1 = run.revision ∧ existing.revision + 1 < 2 ^ 64 then
      .ok { store with runs := put AgentRun.id run store.runs }
    else .error ("stale agent run revision: stored " ++ toString existing.revision ++ ", supplied " ++
      toString run.revision)
  | none =>
    if run.revision = 0 then .ok { store with runs := put AgentRun.id run store.runs }
    else .error ("new agent run record " ++ uuidText run.id ++ " must start at revision 0")

/-- The last checkpoint of a run. -/
def currentCheckpoint (runId : Uuid) : Option AgentCheckpoint :=
  latest (fun a b => decide (a.sequence ≤ b.sequence)) (KeyedLog.logOf AgentCheckpoint.runId runId store.checkpoints)

/-- The checkpoint before the one given, in the same run. -/
def predecessorOf (checkpoint : AgentCheckpoint) : Option AgentCheckpoint :=
  if checkpoint.sequence = 0 then none
  else (KeyedLog.logOf AgentCheckpoint.runId checkpoint.runId store.checkpoints).find? fun existing =>
    decide (existing.sequence = checkpoint.sequence - 1)

/-- An expected tail that is a checkpoint of another run is no tail of this one. -/
def checkExpectedTail (expectedTail : Option AgentCheckpointTail) (runId : Uuid) : Except String Unit :=
  match expectedTail with
  | none => .ok ()
  | some tail =>
    match lookup AgentCheckpoint.id store.checkpoints tail.checkpointId with
    | none => .ok ()
    | some predecessor =>
      reject (predecessor.runId != runId)
        ("expected agent checkpoint tail " ++ uuidText tail.checkpointId ++ " belongs to run " ++
          uuidText predecessor.runId ++ ", not " ++ uuidText runId)

def appendAgentCheckpoint (expectedTail : Option AgentCheckpointTail)
    (checkpoint : AgentCheckpoint) : Except String (AgentCheckpointAppendResult × RecordingAgentRunStore) := do
  validateAgentCheckpointIntegrity P checkpoint "new agent checkpoint"
  let expectedSequence ← orReject (followingSequence expectedTail)
    "new agent checkpoint sequence cannot follow the maximum expected tail sequence"
  reject (checkpoint.sequence != expectedSequence)
    ("new agent checkpoint sequence " ++ toString checkpoint.sequence ++ " does not follow expected sequence " ++
      toString expectedSequence)
  reject ((lookup AgentCheckpoint.id store.checkpoints checkpoint.id).any fun existing => existing != checkpoint)
    ("agent checkpoint " ++ uuidText checkpoint.id ++ " conflicts with an existing immutable checkpoint")
  store.checkExpectedTail expectedTail checkpoint.runId
  let current := store.currentCheckpoint checkpoint.runId
  validateStoredIntegrity P current "stored current agent checkpoint"
  if current.map AgentCheckpoint.tail = some checkpoint.tail then
    let predecessor := store.predecessorOf checkpoint
    validateStoredIntegrity P predecessor "stored predecessor agent checkpoint"
    reject (current != some checkpoint)
      ("agent checkpoint " ++ uuidText checkpoint.id ++ " has a conflicting immutable envelope")
    pure (if predecessor.map AgentCheckpoint.tail = expectedTail then .appended else .stale, store)
  else if current.map AgentCheckpoint.tail ≠ expectedTail then
    pure (.stale, store)
  else
    reject (store.checkpoints.any fun existing =>
        decide (existing.runId = checkpoint.runId ∧ existing.sequence = checkpoint.sequence))
      ("agent checkpoint sequence " ++ toString checkpoint.sequence ++ " conflicts within run " ++
        uuidText checkpoint.runId)
    pure (.appended, { store with checkpoints := put AgentCheckpoint.id checkpoint store.checkpoints })

def saveAgentCheckpoint (checkpoint : AgentCheckpoint) : Except String RecordingAgentRunStore := do
  reject (store.checkpoints.any fun existing => decide
      (existing.runId = checkpoint.runId ∧ existing.sequence = checkpoint.sequence ∧ existing.id ≠ checkpoint.id))
    ("agent checkpoint sequence " ++ toString checkpoint.sequence ++ " already exists for run " ++
      uuidText checkpoint.runId)
  let checkpoints ← saveOnce AgentCheckpoint.id checkpoint "agent checkpoint" store.checkpoints
  pure { store with checkpoints }

def saveAgentRunEvent (event : AgentRunEvent) : Except String RecordingAgentRunStore := do
  reject (store.events.any fun existing => decide
      (existing.runId = event.runId ∧ existing.sequence = event.sequence ∧ existing.id ≠ event.id))
    ("agent run event sequence " ++ toString event.sequence ++ " already exists for run " ++ uuidText event.runId)
  let events ← saveOnce AgentRunEvent.id event "agent run event" store.events
  pure { store with events }

variable (parseInstant : String → Option Instant)

/-- The initial evidence of a claim meets rows that are there already. -/
def evidenceConflicts (initialRun : AgentRun) (initialCheckpoint : AgentCheckpoint)
    (startedEvent : AgentRunEvent) : Bool :=
  store.runs.any (fun run => decide (run.id = initialRun.id)) ||
    store.checkpoints.any (fun checkpoint => decide (checkpoint.id = initialCheckpoint.id)) ||
    store.checkpoints.any (fun checkpoint => decide (checkpoint.runId = initialRun.id ∧ checkpoint.sequence = 0)) ||
    store.events.any (fun event => decide (event.id = startedEvent.id)) ||
    store.events.any fun event => decide (event.runId = initialRun.id ∧ event.sequence = 0)

def claimLiveRunStart (claim : LiveRunStartClaim) (initialRun : AgentRun)
    (initialCheckpoint : AgentCheckpoint) (startedEvent : AgentRunEvent) :
    Except String (LiveRunStartClaimResult × RecordingAgentRunStore) := do
  (claim.validateInitialBundle P parseInstant initialRun initialCheckpoint startedEvent).mapError AgentRunError.message
  match store.liveStartClaims.find? fun existing =>
      decide (existing.claim.readinessBindingDigest = claim.readinessBindingDigest ∨
        existing.claim.setupDigest = claim.setupDigest) with
  | some existing =>
    if existing.claim ≠ claim then pure (.conflict, store)
    else
      let currentRun ← orReject (lookup AgentRun.id store.runs existing.initialRun.id) "claimed live run is missing"
      let checkpoint ← orReject (lookup AgentCheckpoint.id store.checkpoints existing.checkpointId)
        "claimed live start checkpoint is missing"
      let event ← orReject (lookup AgentRunEvent.id store.events existing.eventId)
        "claimed live start event is missing"
      (existing.claim.validateInitialBundle P parseInstant existing.initialRun checkpoint event).mapError
        AgentRunError.message
      validateProgressedClaimRun existing.initialRun currentRun
      pure (.existing existing.initialRun.id, store)
  | none =>
    reject (store.evidenceConflicts initialRun initialCheckpoint startedEvent)
      "live start initial evidence conflicts with existing rows"
    pure (.acquired, {
      runs := put AgentRun.id initialRun store.runs
      checkpoints := put AgentCheckpoint.id initialCheckpoint store.checkpoints
      events := put AgentRunEvent.id startedEvent store.events
      liveStartClaims := put (fun existing => existing.claim.readinessBindingDigest)
        ⟨claim, initialRun, initialCheckpoint.id, startedEvent.id⟩ store.liveStartClaims })

end RecordingAgentRunStore
end ProofPlatform.AgentStore
