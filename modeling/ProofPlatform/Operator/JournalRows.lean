import ProofPlatform.Operator.AuditChain
import ProofPlatform.Operator.Rows

/-! The append-only rows: the projection after each change of a run, and the audit events of each call. -/
namespace ProofPlatform.Operator
open Kernel Library Transaction Tx Table AuditEvent

variable (C : OperatorStoreContext)

def latestProjection (db : Database) (runId : Uuid) : Option RunProjection :=
  latest (fun a b => decide (a.projectionSequence ≤ b.projectionSequence))
    (db.journal.projections.filter fun projection => decide (projection.runId = runId))

def loadLatestProjectionExact (runId : Uuid) : StoreM RunProjection :=
  loadRow (fun db => latestProjection db runId) .corrupt (RunProjection.validate C.hashes)

def nextProjectionSequence (db : Database) : Nat :=
  (db.journal.projections.map RunProjection.projectionSequence).foldr max 0 + 1

def insertProjection (projection : RunProjection) : StoreM Unit := do
  invalidIf (!projection.onWire)
  insertInto (fun db => db.journal.projections)
    (fun db projections => { db with journal := { db.journal with projections } })
    (fun row => decide (row.projectionSequence = projection.projectionSequence) ||
      decide (row.projectionId = projection.projectionId) ||
      decide (row.workspaceId = projection.workspaceId ∧ row.runId = projection.runId ∧
        row.projectionRevision = projection.projectionRevision)) projection

/-- Whose attention a run needs: the part of a projection that its status decides. -/
structure ProjectedAttention where
  attention : AttentionState
  requiredHumanId : Option Uuid
  approvalRequestId : Option Uuid
  recoveryDirectiveId : Option Uuid
  recoveryDirectiveDigest : Option ControlDigest

/-- By creation time, then identifier. -/
def approvalBindingLe (a b : ApprovalBinding) : Bool :=
  decide (a.createdAt < b.createdAt ∨ a.createdAt = b.createdAt ∧
    a.approvalRequestId.toNat ≤ b.approvalRequestId.toNat)

variable (control : RunControl)

def projectedAttention (status : AgentRunStatus) : StoreM ProjectedAttention :=
  match status with
  | .queued | .running => pure ⟨.running, none, none, none, none⟩
  | .waitingForInput => do
    let approval ← orFail (← select fun db => latest approvalBindingLe
      (db.approvalBindings.filter fun binding => decide (binding.runId = control.runId))) .corrupt
    let requestId ← uuidColumn approval.approvalRequestId
    let humanId ← uuidColumn approval.requiredHumanId
    pure ⟨.awaitingDecision, some humanId, some requestId, none, none⟩
  | .failed =>
    if control.recoveryDirectiveId.isSome then
      pure ⟨.recoverable, none, none, control.recoveryDirectiveId, control.recoveryDirectiveDigest⟩
    else pure ⟨.terminal, none, none, none, none⟩
  | .succeeded | .cancelled => pure ⟨.terminal, none, none, none, none⟩

/-- The projection that follows the latest one, before the rows of the run are read. -/
def nextProjection (fenceEpoch : Nat) (now : Instant) : StoreM RunProjection := do
  let previous ← loadRow (fun db => latestProjection db control.runId) .corrupt (RunProjection.validate C.hashes)
  failIf (previous.workspaceId != control.workspaceId) .corrupt
  let projectionSequence ← select nextProjectionSequence
  let projectionId ← operatorUuid
  failIf (!safeOnWire projectionSequence) .corrupt
  let projectionRevision ← orFail (nextSafe previous.projectionRevision) .corrupt
  pure { previous with
    projectionId, projectionSequence, projectionRevision, fenceEpoch
    sourceControlRevision := control.controlRevision
    projectedAt := now }

/-- Complete a projection by its run and checkpoint, and append it. -/
def projectRun (next : RunProjection) (run : AgentRun) (checkpoint : CheckpointIdentity) : StoreM RunProjection := do
  let attention ← projectedAttention control run.status
  let projection := { next with
    sourceRunRevision := run.revision
    runStatus := run.status
    checkpointId := checkpoint.id
    checkpointSequence := checkpoint.sequence
    checkpointDigest := checkpoint.digest
    attention := attention.attention
    requiredHumanId := attention.requiredHumanId
    approvalRequestId := attention.approvalRequestId
    recoveryDirectiveId := attention.recoveryDirectiveId
    recoveryDirectiveDigest := attention.recoveryDirectiveDigest }
  let snapshotDigest ← orElse (projection.digest C.hashes) .invalid
  let projection := { projection with snapshotDigest }
  orElse (projection.validate C.hashes) .corrupt
  insertProjection projection
  pure projection

/-- Project the run as its rows stand now, one revision after its latest projection. -/
def appendCurrentProjection (fenceEpoch : Nat) (now : Instant) : StoreM RunProjection := do
  let next ← nextProjection C control fenceEpoch now
  let run ← orFail (← select fun db => lookup AgentRun.id db.agentRuns control.runId) .unavailable
  let checkpoint ← orFail (← select fun db => latestCheckpoint db control.runId) .corrupt
  let checkpointId ← uuidColumn checkpoint.id
  projectRun C control next run ⟨checkpointId, checkpoint.sequence, checkpoint.stateDigest⟩

/-- Every change of a run ends so: the control record advances and the run is projected anew. -/
def advanceControl (fenceEpoch : Nat) (now : Instant) : StoreM RunControl := do
  let next ← lift (bumpControl C control now)
  updateRunControl C next
  let _ ← appendCurrentProjection C next fenceEpoch now
  pure next

/-- The event as it is linked to the head of the chain. -/
def AuditEvent.linked (event : AuditEvent) (sequence : Nat) (previousDigest : Option ControlDigest)
    (eventDigest : ControlDigest) : AuditEvent :=
  { event with sequence, previousDigest, eventDigest }

/-- Link an event to its workspace's chain and advance the head. -/
def appendAuditEvent (event : AuditEvent) : StoreM AuditEvent := do
  let head ← orFail (← select fun db => lookup AuditHead.workspaceId db.journal.auditHeads event.workspaceId)
    .unavailable
  let sequence ← orFail (nextSafe head.lastSequence) .corrupt
  let eventDigest ← orElse ((event.linked sequence head.lastDigest .blank).digest C.hashes) .invalid
  let event := event.linked sequence head.lastDigest eventDigest
  orElse (event.validateChainLink C.hashes sequence head.lastDigest) .invalid
  insertInto (fun db => db.journal.auditEvents)
    (fun db auditEvents => { db with journal := { db.journal with auditEvents } })
    (fun row => decide (row.workspaceId = event.workspaceId ∧ row.sequence = event.sequence) ||
      decide (row.eventId = event.eventId) || decide (row.eventDigest = event.eventDigest)) event
  updateIn (fun db => db.journal.auditHeads)
    (fun db auditHeads => { db with journal := { db.journal with auditHeads } })
    (fun row => decide (row.workspaceId = event.workspaceId ∧ row.lastSequence = head.lastSequence))
    { head with lastSequence := sequence, lastDigest := some eventDigest } .corrupt
  pure event

variable (lease : RunLease)

def leaseEvent (eventId : Uuid) (kind : AuditEventKind) (now : Instant) : AuditEvent :=
  { base lease.workspaceId eventId kind .accepted now with
    runId := some lease.runId
    serverInstanceId := some lease.ownerInstanceId
    leaseId := some lease.leaseId
    processEpochId := some lease.processEpochId
    fenceEpoch := some lease.fenceEpoch }

def appendLeaseEvent (kind : AuditEventKind) (now : Instant) : StoreM AuditEvent := do
  appendAuditEvent C (leaseEvent lease (← operatorUuid) kind now)

def appendBudgetEvent (reservationId : Uuid) (intentDigest : ControlDigest)
    (kind : AuditEventKind) (outcome : AuditOutcome) (now : Instant) : StoreM AuditEvent := do
  let eventId ← operatorUuid
  appendAuditEvent C { base control.workspaceId eventId kind outcome now with
    runId := some control.runId
    budgetId := some control.budgetId
    reservationId := some reservationId
    leaseId := some lease.leaseId
    fenceEpoch := some lease.fenceEpoch
    intentDigest := some intentDigest }

variable (reservation : BudgetReservation)

variable (eventId : Uuid) (kind : AuditEventKind) (outcome : AuditOutcome) (now : Instant)

/-- The fields of an event about a dispatched reservation. -/
def dispatchEvent : AuditEvent :=
  { base control.workspaceId eventId kind outcome now with
    runId := some control.runId
    budgetId := some control.budgetId
    reservationId := some reservation.reservationId
    leaseId := some lease.leaseId
    fenceEpoch := some lease.fenceEpoch
    permitId := reservation.permitId
    intentDigest := some reservation.intentDigest
    callDigest := reservation.callDigest }

/-- The same, with the instance and process that hold the lease. -/
def dispatchHolderEvent : AuditEvent :=
  { dispatchEvent control lease reservation eventId kind outcome now with
    serverInstanceId := some lease.ownerInstanceId
    processEpochId := some lease.processEpochId }

def appendDispatchEvent : StoreM AuditEvent := do
  appendAuditEvent C
    (dispatchHolderEvent control lease reservation (← operatorUuid) .dispatchAuthorized .accepted now)

/-- Two events, one linked to the other. -/
def appendBoth (first second : Uuid → AuditEvent) : StoreM AuditEvent := do
  let _ ← appendAuditEvent C (first (← operatorUuid))
  appendAuditEvent C (second (← operatorUuid))

def appendForfeitEvents : StoreM AuditEvent :=
  appendBoth C (fun eventId => dispatchEvent control lease reservation eventId .budgetForfeited .failed now)
    fun eventId => { dispatchHolderEvent control lease reservation eventId .controlFailure .failed now with
      failureScope := some .runtime }

def proofReference (proof : Proof) (operation : String) : ProofReference :=
  ⟨proof.body.id, proof.body.actor.id, operation, C.hashes.proof proof⟩

def appendCommitEvents (proof : Proof) (now : Instant) : StoreM AuditEvent :=
  appendBoth C (fun eventId => dispatchEvent control lease reservation eventId .budgetCommitted .accepted now)
    fun eventId => { dispatchHolderEvent control lease reservation eventId .runtimeResultCommitted .accepted now with
      proof := some (proofReference C proof reservation.intent.operation) }

/-- How often the audit chain says that a run was resumed under a directive. -/
def resumptions (db : Database) (runId directiveId : Uuid) : Nat :=
  db.journal.auditEvents.countP fun event =>
    decide (event.runId = some runId ∧ event.recoveryDirectiveId = some directiveId) &&
      (event.kind == .recoveryCompleted || event.kind == .runResumed)

section Specification
variable {C} {o : Nat → Answer} {s s' : Database} {n n' : Nat} {now : Instant}

private theorem readOnly_projectedAttention (status : AgentRunStatus) :
    ReadOnly (projectedAttention control status) := by
  cases status with
  | waitingForInput =>
    exact .bind (readOnly_select _) fun _ => .bind (.lift _) fun _ =>
      .bind (readOnly_uuidColumn _) fun _ => .bind (readOnly_uuidColumn _) fun _ => .pure _
  | failed =>
    simp only [projectedAttention]
    split <;> exact .pure _
  | queued | running | succeeded | cancelled => exact .pure _

variable {projection : RunProjection}

theorem lt_nextProjectionSequence (h : projection ∈ s.journal.projections) :
    projection.projectionSequence < nextProjectionSequence s := by
  have hle : ∀ rows : List RunProjection, projection ∈ rows →
      projection.projectionSequence ≤ (rows.map RunProjection.projectionSequence).foldr max 0 := by
    intro rows hmem
    induction rows with
    | nil => cases hmem
    | cons row rows ih =>
      rcases List.mem_cons.mp hmem with rfl | hmem
      · exact Nat.le_max_left _ _
      · exact (ih hmem).trans (Nat.le_max_right _ _)
  exact Nat.lt_succ_of_le (hle _ h)

/-- What is known of the projection that a call appends. -/
structure Projects (H : ControlHashes) (journal : Journal) (control : RunControl) (projection : RunProjection) :
    Prop where
  run : projection.runId = control.runId
  later : ∀ row ∈ journal.projections, row.projectionSequence < projection.projectionSequence
  valid : projection.validate H = .ok ()

variable {control : RunControl} {event : AuditEvent} {lease : RunLease} {reservation : BudgetReservation}
  {fenceEpoch : Nat}

theorem appendCurrentProjection_spec
    (h : Returns (appendCurrentProjection C control fenceEpoch now) o s n projection s' n') :
    Projects C.hashes s.journal control projection ∧ s' = { s with journal := s.journal.projected projection } := by
  simp only [appendCurrentProjection, nextProjection, projectRun, bind_assoc, pure_bind, returns_loadRow_bind,
    returns_failIf_bind, returns_select_bind, returns_operatorUuid_bind, returns_orFail_bind,
    returns_uuidColumn_bind] at h
  obtain ⟨-, previous, hprevious, -, -, -, id, -, -, revision, -, -, run, -, -, checkpoint, -, -, h⟩ := h
  obtain ⟨attention, _, ha, h⟩ := (readOnly_projectedAttention control run.status).returns_bind h
  simp only [insertProjection, bind_assoc, returns_orElse_bind, returns_invalidIf_bind, returns_insertInto_bind,
    returns_pure, exists_unit] at h
  obtain ⟨digest, -, hvalid, -, -, -, rfl, rfl, -⟩ := h
  have hrun : previous.runId = control.runId := by
    simpa using (List.mem_filter.mp (mem_of_latest hprevious)).2
  exact ⟨⟨hrun, fun row hrow => lt_nextProjectionSequence hrow, hvalid⟩, rfl⟩

section
variable {control next : RunControl} (h : Returns (advanceControl C control fenceEpoch now) o s n next s' n')
include h

theorem advanceControl_safe : safeOnWire next.controlRevision = true := by
  simp only [advanceControl, returns_lift_bind, updateRunControl, returns_updateRow_bind] at h
  obtain ⟨next', -, hvalid, -, _, -, h⟩ := h
  obtain ⟨projection, _, _, -, h⟩ := returns_bind.mp h
  obtain ⟨rfl, -, -⟩ := returns_pure.mp h
  exact RunControl.safe_of_validate hvalid

theorem advanceControl_spec :
    ∃ digest controls projection, next = control.advanced now digest ∧
      replaceOne (fun row => decide (row.runId = next.runId)) next s.controls = some controls ∧
      Projects C.hashes s.journal control projection ∧
      s' = { s with controls, journal := s.journal.projected projection } := by
  simp only [advanceControl, returns_lift_bind, updateRunControl, returns_updateRow_bind] at h
  obtain ⟨next', hbump, -, -, controls, hcontrols, h⟩ := h
  obtain ⟨digest, rfl⟩ := bumpControl_eq_ok hbump
  obtain ⟨projection, hp, rfl⟩ := returns_bind_pure h
  obtain ⟨⟨hrun, hlater, hvalid⟩, rfl⟩ := appendCurrentProjection_spec hp
  exact ⟨digest, controls, projection, rfl, hcontrols, ⟨hrun, hlater, hvalid⟩, rfl⟩

end

theorem eq_succ_of_nextSafe {value next : Nat} (h : nextSafe value = some next) : next = value + 1 := by
  unfold nextSafe at h
  split at h
  · exact (Option.some.inj h).symm
  · cases h

theorem appendAuditEvent_spec {linked : AuditEvent} (h : Returns (appendAuditEvent C event) o s n linked s' n') :
    (∃ sequence previous digest, linked = event.linked sequence previous digest) ∧
      ∃ auditHeads, Links C.hashes s.journal auditHeads linked ∧
        s' = { s with journal := s.journal.audited auditHeads linked } := by
  simp only [appendAuditEvent, returns_select_bind, returns_orFail_bind, returns_orElse_bind, returns_insertInto_bind,
    returns_updateIn_bind, returns_pure, exists_unit] at h
  obtain ⟨-, head, hhead, sequence, hsequence, digest, -, hvalid, -, hclash, -, heads, hheads, rfl, rfl, -⟩ := h
  obtain rfl := eq_succ_of_nextSafe hsequence
  have hworkspace : head.workspaceId = event.workspaceId := (lookup_eq_some hhead).2
  refine ⟨⟨_, head.lastDigest, digest, rfl⟩, heads, ⟨⟨head, ?_, hvalid⟩, fun row hrow => ?_⟩, rfl⟩
  · have hrow : (⟨event.workspaceId, head.lastSequence + 1, some digest⟩ : AuditHead) =
        { head with lastSequence := head.lastSequence + 1, lastDigest := some digest } := by rw [← hworkspace]
    change Replaces _ head ⟨event.workspaceId, head.lastSequence + 1, some digest⟩ _ _
    rw [hrow]
    exact .of_replaceOne hheads (hworkspace ▸ hhead) (by simp [hworkspace, linked]) rfl
  · have hc := hclash row hrow
    simp only [Bool.or_eq_false_iff, decide_eq_false_iff_not] at hc
    exact ⟨hc.1.2, hc.2⟩

/-- These events are appended to the chain, and nothing else changes but its heads. -/
def Audits (H : ControlHashes) (events : List AuditEvent) (s s' : Database) : Prop :=
  ∃ journal, Grows H s.journal events journal ∧ journal.projections = s.journal.projections ∧ s' = { s with journal }

theorem Audits.refl (H : ControlHashes) (s : Database) : Audits H [] s s := ⟨s.journal, .refl, rfl, rfl⟩

variable {s₁ s₂ s₃ : Database}

theorem Audits.trans {H : ControlHashes} {events events' : List AuditEvent}
    (h : Audits H events s₁ s₂) (h' : Audits H events' s₂ s₃) : Audits H (events ++ events') s₁ s₃ := by
  obtain ⟨journal, hg, hp, rfl⟩ := h
  obtain ⟨journal', hg', hp', rfl⟩ := h'
  exact ⟨journal', hg.trans hg', hp'.trans hp, rfl⟩

section
variable {event linked : AuditEvent} (h : Returns (appendAuditEvent C event) o s n linked s' n')
include h

theorem appendAuditEvent_audits :
    Audits C.hashes [linked] s s' ∧ ∃ sequence previous digest, linked = event.linked sequence previous digest := by
  obtain ⟨hlinked, heads, hlinks, rfl⟩ := appendAuditEvent_spec h
  exact ⟨⟨_, .audit hlinks, rfl, rfl⟩, hlinked⟩

theorem appendAuditEvent_kind : ∃ appended, appended.kind = event.kind ∧ Audits C.hashes [appended] s s' := by
  obtain ⟨haudits, sequence, previous, digest, rfl⟩ := appendAuditEvent_audits h
  exact ⟨event.linked sequence previous digest, rfl, haudits⟩

end

variable {kind : AuditEventKind}

private theorem appendBoth_audits {first second : Uuid → AuditEvent} {kind' : AuditEventKind}
    (h : Returns (appendBoth C first second) o s n event s' n') (hkind : ∀ id, (first id).kind = kind)
    (hkind' : ∀ id, (second id).kind = kind') :
    ∃ events, events.map AuditEvent.kind = [kind, kind'] ∧ Audits C.hashes events s s' := by
  obtain ⟨_, -, h⟩ := returns_operatorUuid_bind.mp h
  obtain ⟨_, _, _, hfirst, h⟩ := returns_bind.mp h
  obtain ⟨_, -, hsecond⟩ := returns_operatorUuid_bind.mp h
  obtain ⟨e₁, hk₁, ha₁⟩ := appendAuditEvent_kind hfirst
  obtain ⟨e₂, hk₂, ha₂⟩ := appendAuditEvent_kind hsecond
  exact ⟨[e₁, e₂], by simp [hk₁, hk₂, hkind, hkind'], ha₁.trans ha₂⟩

theorem appendForfeitEvents_audits
    (h : Returns (appendForfeitEvents C control lease reservation now) o s n event s' n') :
    ∃ events, events.map AuditEvent.kind = [.budgetForfeited, .controlFailure] ∧ Audits C.hashes events s s' :=
  appendBoth_audits h (fun _ => rfl) fun _ => rfl

theorem appendCommitEvents_audits {proof : Proof}
    (h : Returns (appendCommitEvents C control lease reservation proof now) o s n event s' n') :
    ∃ events, events.map AuditEvent.kind = [.budgetCommitted, .runtimeResultCommitted] ∧
      Audits C.hashes events s s' :=
  appendBoth_audits h (fun _ => rfl) fun _ => rfl

theorem appendLeaseEvent_audits (h : Returns (appendLeaseEvent C lease kind now) o s n event s' n') :
    ∃ appended, appended.kind = kind ∧ Audits C.hashes [appended] s s' := by
  simp only [appendLeaseEvent, returns_operatorUuid_bind] at h
  obtain ⟨_, -, h⟩ := h
  exact appendAuditEvent_kind h

theorem appendBudgetEvent_audits {reservationId : Uuid} {intentDigest : ControlDigest} {outcome : AuditOutcome}
    (h : Returns (appendBudgetEvent C control lease reservationId intentDigest kind outcome now) o s n event s' n') :
    ∃ appended, appended.kind = kind ∧ Audits C.hashes [appended] s s' := by
  simp only [appendBudgetEvent, returns_operatorUuid_bind] at h
  obtain ⟨_, -, h⟩ := h
  exact appendAuditEvent_kind h

theorem appendDispatchEvent_audits
    (h : Returns (appendDispatchEvent C control lease reservation now) o s n event s' n') :
    ∃ appended, appended.kind = .dispatchAuthorized ∧ Audits C.hashes [appended] s s' := by
  simp only [appendDispatchEvent, returns_operatorUuid_bind] at h
  obtain ⟨_, -, h⟩ := h
  exact appendAuditEvent_kind h

end Specification
end ProofPlatform.Operator
