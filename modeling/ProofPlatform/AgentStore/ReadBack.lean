import ProofPlatform.AgentStore.Changes

/-! The tables of `SqliteStore`, read as an in-memory store. A record is found again if the text of its row reads back
as the record, which texts nested too deeply and numbers that the reader rounds do not. -/
namespace ProofPlatform.AgentRows
open Kernel Library List
open Trace Table KeyedLog
open AgentStore (RecordingAgentRunStore RecordingLiveRunStartClaim)

variable (T : TextFormats) (R : Readers)

def startRow (start : RecordingLiveRunStartClaim) : ClaimRow :=
  claimRow T start.claim start.initialRun start.checkpointId start.eventId

def ClaimRow.start (row : ClaimRow) : Option RecordingLiveRunStartClaim := do
  let claim ← R.claim row.claimJson
  let initialRun ← R.run row.initialRunJson
  pure ⟨claim, initialRun, row.initialCheckpointId, row.startedEventId⟩

namespace AgentTables
variable (t : AgentTables)

/-- The records that the rows read back as. -/
def view : RecordingAgentRunStore where
  runs := t.runs.filterMap fun row => R.run row.runJson
  checkpoints := t.checkpoints.filterMap fun row => R.checkpoint row.checkpointJson
  events := t.events.filterMap fun row => R.event row.eventJson
  liveStartClaims := t.claims.filterMap (ClaimRow.start R)

/-- Every checkpoint's row is the row of the checkpoint that it reads back as. -/
def CheckpointsReadBack : Prop :=
  Encodes (checkpointRow T) (fun row => R.checkpoint row.checkpointJson) t.checkpoints

/-- So is every other row that a live start writes, and the revisions fit their column. -/
structure ReadsBack : Prop where
  runs : Encodes (runRow T) (fun row => R.run row.runJson) t.runs
  revisions : ∀ row ∈ t.runs, row.revision < 2 ^ 63
  checkpoints : t.CheckpointsReadBack T R
  events : Encodes (eventRow T) (fun row => R.event row.eventJson) t.events
  claims : Encodes (startRow T) (ClaimRow.start R) t.claims

end AgentTables

section Searches
variable {T R} {t : AgentTables} (h : t.CheckpointsReadBack T R)
include h

theorem currentCheckpoint_eq (runId : Uuid) : t.currentCheckpoint runId =
    (latest (fun a b => decide (a.sequence ≤ b.sequence))
      (logOf AgentCheckpoint.runId runId (t.view R).checkpoints)).map (checkpointRow T) := by
  rw [AgentTables.currentCheckpoint, ← h.map_decoded, logOf_map, latest_map]
  rfl

theorem checkpoint?_eq (id : Uuid) :
    t.checkpoint? id = (lookup AgentCheckpoint.id (t.view R).checkpoints id).map (checkpointRow T) := by
  rw [AgentTables.checkpoint?, ← h.map_decoded, lookup_map]
  rfl

theorem checkpointAt_eq (runId : Uuid) (sequence : Nat) : t.checkpointAt runId sequence =
    ((logOf AgentCheckpoint.runId runId (t.view R).checkpoints).find? fun checkpoint =>
      decide (checkpoint.sequence = sequence)).map (checkpointRow T) := by
  rw [AgentTables.checkpointAt, ← h.map_decoded, logOf_map, List.find?_map]
  rfl

theorem checkpointClash_eq (checkpoint : AgentCheckpoint) : t.checkpointClash checkpoint =
    ((t.view R).checkpoints.find? fun stored => decide (stored.id = checkpoint.id ∨
      stored.runId = checkpoint.runId ∧ stored.sequence = checkpoint.sequence)).map (checkpointRow T) := by
  rw [AgentTables.checkpointClash, ← h.map_decoded, List.find?_map]
  rfl

end Searches
end ProofPlatform.AgentRows
