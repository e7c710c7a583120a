import ProofPlatform.Operator.Effects

/-! Registration of runs, the authority every mutable call proves, and the calls that claim, renew and release a
lease. -/
namespace ProofPlatform.Operator
open Kernel Library Fallible Transaction Tx Table Bool RunLease

variable (C : OperatorStoreContext)

/-! ### Registration -/

variable (request : RegisterGovernedRunRequest)

def RegisterGovernedRunRequest.wellFormed : Bool :=
  let initial := request.initialProjection
  request.schema == "proof.operator.register-governed-run-request/v1" &&
  initial.schema == "proof.operator.initial-run-projection-input/v1" &&
  allV7 [request.workspaceId, request.runId, request.budgetId, initial.workspaceId, initial.runId,
    initial.checkpointId] &&
  request.workspaceId == initial.workspaceId && request.runId == initial.runId &&
  allSafe [initial.sourceRunRevision, initial.checkpointSequence]

/-- A run that is registered already, with its first projection. -/
def registeredRun (db : Database) (runId : Uuid) : Option (RunControl × RunProjection) := do
  let control ← lookup RunControl.runId db.controls runId
  let first ← latest (fun a b => decide (b.projectionSequence ≤ a.projectionSequence))
    (db.journal.projections.filter fun projection => decide (projection.runId = runId))
  pure (control, first)

/-- The request repeats the registration that is on record. -/
def RegisterGovernedRunRequest.repeats (control : RunControl) (projection : RunProjection) : Bool :=
  let initial := request.initialProjection
  control.runId == request.runId && control.workspaceId == request.workspaceId &&
  control.budgetId == request.budgetId && projection.runId == request.runId &&
  projection.workspaceId == request.workspaceId && projection.sourceRunRevision == initial.sourceRunRevision &&
  projection.checkpointId == initial.checkpointId && projection.checkpointSequence == initial.checkpointSequence &&
  projection.checkpointDigest == initial.checkpointDigest && projection.runStatus == initial.runStatus

def RegisterGovernedRunRequest.control (now : Instant) (bindingDigest : ControlDigest) : RunControl where
  schema := RunControl.schemaName
  runId := request.runId
  workspaceId := request.workspaceId
  budgetId := request.budgetId
  controlRevision := 0
  createdAt := now
  updatedAt := now
  bindingDigest := bindingDigest

def RegisterGovernedRunRequest.projection (run : AgentRun)
    (projectionId : Uuid) (sequence : Nat) (now : Instant) (snapshotDigest : ControlDigest) : RunProjection where
  schema := RunProjection.schemaName
  projectionId := projectionId
  projectionSequence := sequence
  projectionRevision := 0
  workspaceId := request.workspaceId
  runId := request.runId
  sourceRunRevision := run.revision
  sourceControlRevision := 0
  checkpointId := request.initialProjection.checkpointId
  checkpointSequence := request.initialProjection.checkpointSequence
  checkpointDigest := request.initialProjection.checkpointDigest
  fenceEpoch := 0
  runStatus := run.status
  attention := .running
  projectedAt := now
  snapshotDigest := snapshotDigest

/-- The digest of the named checkpoint of a run. -/
def checkpointDigestAt (db : Database) (id runId : Uuid) (sequence : Nat) : Option ContentDigest :=
  (db.checkpoints.find? fun checkpoint =>
    decide (checkpoint.id = id ∧ checkpoint.runId = runId ∧ checkpoint.sequence = sequence)).map
    AgentCheckpoint.stateDigest

/-- Register a run by its record and the digest of the checkpoint the request names. -/
def registerRecorded (run : AgentRun) (digest : ContentDigest) : StoreM RegisterGovernedRunResult := do
  let initial := request.initialProjection
  invalidIf (run.id != request.runId || run.revision != initial.sourceRunRevision ||
    run.status != initial.runStatus || !(run.status == .queued || run.status == .running) ||
    digest != initial.checkpointDigest)
  let workspace ← orFail (← select fun db => db.workspaces.head?) .unavailable
  invalidIf (workspace.workspaceId != request.workspaceId)
  let accounts ← select fun db => db.budgets.countP fun account =>
    decide (account.budgetId = request.budgetId ∧ account.policy.workspaceId = workspace.workspaceId)
  invalidIf (accounts != 1)
  let now ← operatorNow
  let bindingDigest ← orElse ((request.control now .blank).digest C.hashes) .invalid
  let control := request.control now bindingDigest
  orElse (control.validate C.hashes) .invalid
  let projectionId ← operatorUuid
  let sequence ← select nextProjectionSequence
  failIf (!safeOnWire sequence) .corrupt
  let snapshotDigest ← orElse ((request.projection run projectionId sequence now .blank).digest C.hashes) .invalid
  let projection := request.projection run projectionId sequence now snapshotDigest
  orElse (projection.validate C.hashes) .invalid
  insertRunControl control
  insertProjection projection
  statement
  pure ⟨.created, request.runId, 0, control, projection⟩

def registerNewRun : StoreM RegisterGovernedRunResult := do
  let initial := request.initialProjection
  let run ← orFail (← select fun db => lookup AgentRun.id db.agentRuns request.runId) .notFound
  let digest ← orFail
    (← select fun db => checkpointDigestAt db initial.checkpointId request.runId initial.checkpointSequence) .notFound
  registerRecorded C request run digest

def repeatRegistration (control : RunControl) (projection : RunProjection) : StoreM RegisterGovernedRunResult := do
  failIf (!request.repeats control projection) .conflict
  statement
  pure ⟨.exactExisting, request.runId, control.controlRevision, control, projection⟩

def registerGovernedRun : StoreM RegisterGovernedRunResult := do
  invalidIf (!request.wellFormed)
  atomically do
    statement
    match ← select fun db => registeredRun db request.runId with
    | some (control, projection) => repeatRegistration request control projection
    | none => registerNewRun C request

/-! ### Events of the session authority -/

/-- The fields that each kind of authority event is to carry, and no others. -/
def ControlAuditAppendRequest.complete (request : ControlAuditAppendRequest) : Bool :=
  let present (human session challenge sessionAuthority related epochs : Bool) : Bool :=
    request.humanId.isSome == human && request.sessionId.isSome == session &&
    request.challengeId.isSome == challenge && request.challengeDigest.isSome == challenge &&
    request.sessionAuthorityDigest.isSome == sessionAuthority && request.relatedSessionId.isSome == related &&
    request.authEpoch.isSome == epochs && request.policyRevision.isSome == epochs
  match request.kind with
  | .sessionChallengeIssued => present true false true false false true
  | .sessionIssued => present true true true true false true
  | .sessionReplaced => present true true true true true true
  | .sessionExpired => present true true false true false true
  | .controlShutdown => present false false false false false false

def ControlAuditAppendRequest.wellFormed (request : ControlAuditAppendRequest) : Bool :=
  request.schema == "proof.operator.control-audit-append-request/v1" &&
  allV7 ([request.workspaceId, request.serverInstanceId] ++
    [request.humanId, request.sessionId, request.challengeId, request.relatedSessionId].reduceOption) &&
  allSafe [request.authEpoch, request.policyRevision].reduceOption &&
  !([request.authEpoch, request.policyRevision].reduceOption.contains 0) && request.complete

def appendAuthorityEvent (request : ControlAuditAppendRequest) : StoreM AuditEvent := do
  invalidIf (!request.wellFormed)
  atomically do
    statement
    let workspaces ← select fun db => db.workspaces.countP fun workspace =>
      decide (workspace.workspaceId = request.workspaceId)
    invalidIf (workspaces != 1)
    let now ← operatorNow
    let eventId ← operatorUuid
    let event ← appendAuditEvent C (request.event eventId now)
    statement
    pure event

/-! ### Lease authority -/

def LeaseAuthority.wellFormed (authority : LeaseAuthority) : Bool :=
  authority.schema == "proof.operator.lease-authority/v1" &&
  allV7 [authority.workspaceId, authority.runId, authority.leaseId, authority.ownerInstanceId,
    authority.processEpochId] &&
  authority.fenceEpoch != 0 && allSafe [authority.fenceEpoch, authority.expectedControlRevision]

/-- The authority names the records as they stand, and the lease is active and unexpired. -/
def LeaseAuthority.current (authority : LeaseAuthority) (control : RunControl) (lease : RunLease) (now : Instant) :
    Bool :=
  control.workspaceId == authority.workspaceId && control.controlRevision == authority.expectedControlRevision &&
  lease.workspaceId == authority.workspaceId && lease.runId == authority.runId &&
  lease.ownerInstanceId == authority.ownerInstanceId && lease.processEpochId == authority.processEpochId &&
  lease.fenceEpoch == authority.fenceEpoch && lease.state == .active && decide (now < lease.expiresAt)

def validateAuthority (authority : LeaseAuthority) (now : Instant) : StoreM (RunControl × RunLease) := do
  invalidIf (!authority.wellFormed)
  let stored ← orFail (← select fun db =>
    (lookup leaseId db.leases authority.leaseId).map leaseTokenDigest) .staleFence
  failIf (C.hashes.leaseToken authority.leaseToken != stored) .staleFence
  let control ← loadControl C authority.runId
  let lease ← loadLease C authority.leaseId
  failIf (!authority.current control lease now) .staleFence
  pure (control, lease)

/-! ### Claim, renewal and release -/

def LeaseClaimRequest.wellFormed (request : LeaseClaimRequest) : Bool :=
  request.schema == "proof.operator.lease-claim-request/v1" &&
  allV7 [request.workspaceId, request.runId, request.leaseId, request.ownerInstanceId, request.processEpochId] &&
  allSafe [request.expectedFenceEpoch, request.expectedControlRevision]

/-- A lease that begins now, before it is sealed. -/
def newLease (runId workspaceId leaseId ownerInstanceId processEpochId : Uuid) (token : Token) (fenceEpoch : Nat)
    (now : Instant) : RunLease where
  schema := schemaName
  runId := runId
  workspaceId := workspaceId
  leaseId := leaseId
  ownerInstanceId := ownerInstanceId
  processEpochId := processEpochId
  leaseTokenDigest := C.hashes.leaseToken token
  fenceEpoch := fenceEpoch
  revision := 0
  state := .active
  acquiredAt := now
  renewedAt := now
  expiresAt := now + duration
  releasedAt := none
  leaseDigest := .blank

def LeaseClaimRequest.lease (request : LeaseClaimRequest) (now : Instant) : RunLease :=
  newLease C request.runId request.workspaceId request.leaseId request.ownerInstanceId request.processEpochId
    request.leaseToken (request.expectedFenceEpoch + 1) now

/-- Insert the lease that is asked for, if the run has no active one. -/
def openLease (request : LeaseClaimRequest) : StoreM (RunControl × RunLease × Instant) := do
  statement
  let control ← loadControl C request.runId
  failIf (control.workspaceId != request.workspaceId ||
    control.controlRevision != request.expectedControlRevision) .staleRevision
  let active ← select fun db => db.leases.countP fun lease =>
    decide (lease.runId = request.runId ∧ lease.state = .active)
  failIf (active != 0) .notActionable
  let maximum ← select fun db => maxFence db request.runId
  failIf (!safeOnWire maximum) .corrupt
  failIf (maximum != request.expectedFenceEpoch) .staleFence
  let now ← operatorNow
  let lease ← lift (sealLease C (request.lease C now))
  orElse (lease.validate C.hashes) .invalid
  insertLease lease
  pure (control, lease, now)

/-- Audit a lease as it is stored now, and answer with it. -/
def reportLease (lease : RunLease) (kind : AuditEventKind) (outcome : LeaseMutationOutcome) (now : Instant)
    (control : RunControl) : StoreM LeaseMutationResult := do
  let _ ← appendLeaseEvent C lease kind now
  statement
  pure ⟨outcome, lease, control.controlRevision⟩

def claimRunLease (request : LeaseClaimRequest) : StoreM LeaseMutationResult := do
  invalidIf (!request.wellFormed)
  atomically do
    let (control, lease, now) ← openLease C request
    let control ← advanceControl C control lease.fenceEpoch now
    reportLease C lease .leaseAcquired .acquired now control

/-- Store the lease as its holder changed it. -/
def storeLease (control : RunControl) (lease : RunLease) (kind : AuditEventKind) (outcome : LeaseMutationOutcome)
    (now : Instant) : StoreM LeaseMutationResult := do
  let lease ← lift (sealLease C lease)
  updateLease C lease
  let control ← advanceControl C control lease.fenceEpoch now
  reportLease C lease kind outcome now control

def RunLease.renewed (lease : RunLease) (now : Instant) : RunLease :=
  { lease with revision := lease.revision + 1, renewedAt := now, expiresAt := now + duration }

def RunLease.released (lease : RunLease) (now : Instant) : RunLease :=
  { lease with revision := lease.revision + 1, state := .released, releasedAt := some now }

def renewRunLease (request : LeaseRenewRequest) : StoreM LeaseMutationResult := do
  invalidIf (request.schema != "proof.operator.lease-renew-request/v1")
  atomically do
    statement
    let now ← operatorNow
    let (control, lease) ← validateAuthority C request.authority now
    failIf (checkedAdd lease.revision 1).isNone .corrupt
    storeLease C control (lease.renewed now) .leaseRenewed .renewed now

def releaseRunLease (request : LeaseReleaseRequest) : StoreM LeaseMutationResult := do
  invalidIf (request.schema != "proof.operator.lease-release-request/v1")
  let authority ← orFail request.authority .invalid
  atomically do
    statement
    let now ← operatorNow
    let (control, lease) ← validateAuthority C authority now
    let opened ← select fun db => db.reservations.countP fun reservation =>
      decide (reservation.leaseId = lease.leaseId) && reservationOpen reservation
    failIf (opened != 0 || control.activeDispatchReservationId.isSome) .notActionable
    failIf (checkedAdd lease.revision 1).isNone .corrupt
    storeLease C control (lease.released now) .leaseReleased .released now

section Effects
variable {C} {o : Nat → Answer} {s s' : Database} {n n' : Nat} {now : Instant}

theorem effect_refl (who : Option Credential) (o : Nat → Answer) (s : Database) : Effect C who o s s := .inl rfl

variable {authority : LeaseAuthority} {control : RunControl} {lease : RunLease}

theorem validateAuthority_spec
    (h : Returns (validateAuthority C authority now) o s n (control, lease) s' n') :
    Acts C authority.credential now s control lease ∧
      control.controlRevision = authority.expectedControlRevision ∧ s = s' := by
  simp only [validateAuthority, loadControl, loadLease, returns_invalidIf_bind, returns_select_bind,
    returns_orFail_bind, returns_failIf_bind, returns_loadRow_bind, returns_pure, Prod.mk.injEq] at h
  obtain ⟨-, -, digest, hdigest, htoken, -, _, hcontrol, -, -, _, hlease, -, hcurrent, ⟨rfl, rfl⟩, rfl, -⟩ := h
  rw [hlease, Option.map_some, Option.some.injEq] at hdigest
  simp only [LeaseAuthority.current, not_eq_false', and_eq_true, beq_iff_eq, decide_eq_true_eq] at hcurrent
  obtain ⟨⟨⟨⟨⟨⟨⟨⟨-, hrevision⟩, -⟩, hrun⟩, -⟩, -⟩, hfence⟩, hactive⟩, hunexpired⟩ := hcurrent
  obtain ⟨-, hid⟩ := lookup_eq_some hlease
  refine ⟨⟨hcontrol, hid ▸ hlease, hrun, hfence, ?_, ?_, hactive, hunexpired⟩, hrevision, rfl⟩
  · rintro id hmem
    exact (Option.some.inj hmem).symm.trans hid.symm
  · rintro token hmem
    obtain rfl := Option.some.inj hmem
    simpa [hdigest] using htoken

theorem validateAuthority_safe {records : RunControl × RunLease}
    (h : Returns (validateAuthority C authority now) o s n records s' n') :
    safeOnWire authority.expectedControlRevision = true := by
  obtain ⟨hwellFormed, -⟩ := returns_invalidIf_bind.mp h
  simp only [LeaseAuthority.wellFormed, allSafe, List.all_cons, List.all_nil, not_eq_false',
    and_eq_true] at hwellFormed
  exact hwellFormed.2.2.1

/-- A transaction that begins with the time and a proof of authority. -/
theorem returns_authorized {β : Type} {rest : Instant → RunControl × RunLease → StoreM β} {b : β} (h : Returns (do
      statement
      let now ← operatorNow
      let records ← validateAuthority C authority now
      rest now records) o s n b s' n') :
    ∃ now m control lease k, (o m).now = some now ∧ Acts C authority.credential now s control lease ∧
      control.controlRevision = authority.expectedControlRevision ∧
      safeOnWire authority.expectedControlRevision = true ∧ Returns (rest now (control, lease)) o s k b s' n' := by
  simp only [returns_statement_bind, returns_operatorNow_bind] at h
  obtain ⟨-, now, hnow, h⟩ := h
  obtain ⟨⟨control, lease⟩, _, _, hauthority, h⟩ := returns_bind.mp h
  obtain ⟨hacts, hrevision, rfl⟩ := validateAuthority_spec hauthority
  exact ⟨now, _, control, lease, _, hnow, hacts, hrevision, validateAuthority_safe hauthority, h⟩

theorem sealLease_eq_ok {sealed : RunLease} (h : sealLease C lease = .ok sealed) :
    ∃ leaseDigest, sealed = { lease with leaseDigest } := by
  simp only [sealLease, bind_eq_ok, mapError_eq_ok] at h
  obtain ⟨digest, -, he⟩ := h
  exact ⟨digest, (Except.ok.inj he).symm⟩

theorem sealLease_of_onWire (h : lease.onWire = true) :
    sealLease C lease = .ok (lease.sealed C.hashes) := by
  simp only [sealLease, digest, digestOnWire, h]
  rfl

theorem claimRunLease_leaves (request : LeaseClaimRequest) : Leaves (Effect C none) (claimRunLease C request) := by
  refine leaves_of_readOnly_bind (effect_refl none) (.lift _) fun _ => ?_
  refine leaves_atomically (effect_refl none) fun o s n result s' n' h => .inr ?_
  simp only [openLease, loadControl, returns_statement_bind, returns_loadRow_bind, returns_failIf_bind,
    returns_select_bind, returns_operatorNow_bind, returns_lift_bind, returns_orElse_bind, insertLease, bind_assoc,
    pure_bind, returns_invalidIf_bind, returns_insertInto_bind, exists_unit] at h
  obtain ⟨-, -, control, hcontrol, -, -, -, hactive, -, -, hmax, now, hnow, lease, hlease, hv, -, -, hclash, h⟩ := h
  obtain ⟨next, controls, projection, _, hadvances, hp, -, h⟩ := advances_of_advanceControl h hcontrol rfl rfl rfl
  obtain ⟨event, _, hevent, -⟩ := returns_commit h
  obtain ⟨appended, -, journal, hgrows, -, rfl⟩ := appendLeaseEvent_audits hevent
  obtain ⟨digest, rfl⟩ := sealLease_eq_ok hlease
  refine ⟨now, _, hnow, .claimed ?_ ?_ ?_ rfl hadvances (hp.grows hgrows)⟩
  · intro row hrow
    have hc := hclash row hrow
    simp only [or_eq_false_iff, decide_eq_false_iff_not] at hc
    exact hc.1.1
  · intro row hrow hrun
    rw [bne_eq_false_iff_eq, List.countP_eq_zero] at hactive
    have hstate : row.state ≠ .active := fun hs => hactive row hrow (decide_eq_true ⟨hrun, hs⟩)
    cases hs : row.state with
    | active => exact absurd hs hstate
    | released => rfl
  · rw [bne_eq_false_iff_eq] at hmax
    exact congrArg (· + 1) hmax.symm

private theorem storeLease_change {credential : Credential} {changed : RunLease}
    {kind : AuditEventKind} {outcome : LeaseMutationOutcome} {result : LeaseMutationResult}
    (hacts : Acts C credential now s control lease)
    (h : Returns (storeLease C control changed kind outcome now) o s n result s' n')
    (hid : changed.leaseId = lease.leaseId) (hrun : changed.runId = lease.runId)
    (hfence : changed.fenceEpoch = lease.fenceEpoch) (htoken : changed.leaseTokenDigest = lease.leaseTokenDigest) :
    Change C (some credential) now s s' := by
  simp only [storeLease, returns_lift_bind, updateLease, returns_updateRow_bind] at h
  obtain ⟨sealed, hseal, -, -, leases, hleases, h⟩ := h
  obtain ⟨digest, rfl⟩ := sealLease_eq_ok hseal
  obtain ⟨next, controls, projection, _, hadvances, hp, -, h⟩ :=
    advances_of_advanceControl h hacts.controlRow rfl rfl rfl
  obtain ⟨event, _, hevent, -⟩ := returns_commit h
  obtain ⟨appended, -, journal, hgrows, -, rfl⟩ := appendLeaseEvent_audits hevent
  exact .relet hacts (.of_lookup hleases hacts.leaseRow hid) hrun hfence htoken hadvances (hp.grows hgrows)

theorem renewRunLease_leaves (request : LeaseRenewRequest) :
    Leaves (Effect C (some request.authority.credential)) (renewRunLease C request) := by
  refine leaves_of_readOnly_bind (effect_refl _) (.lift _) fun _ => ?_
  refine leaves_atomically (effect_refl _) fun o s n result s' n' h => .inr ?_
  obtain ⟨now, _, control, lease, _, hnow, hacts, -, -, hstore⟩ := returns_authorized h
  simp only [returns_failIf_bind] at hstore
  exact ⟨now, _, hnow, storeLease_change hacts hstore.2 rfl rfl rfl rfl⟩

/-- The authority of a release is the one its custody was bound to. -/
def LeaseReleaseRequest.credential (request : LeaseReleaseRequest) : Option Credential :=
  request.authority.map LeaseAuthority.credential

theorem releaseRunLease_leaves (request : LeaseReleaseRequest) :
    Leaves (Effect C request.credential) (releaseRunLease C request) := by
  refine leaves_of_readOnly_bind (effect_refl _) (.lift _) fun _ => ?_
  cases hrequest : request.authority with
  | none => exact fun o s n => .inl rfl
  | some authority =>
    simp only [orFail_some, pure_bind, LeaseReleaseRequest.credential, hrequest, Option.map_some]
    refine leaves_atomically (effect_refl _) fun o s n result s' n' h => .inr ?_
    obtain ⟨now, _, control, lease, _, hnow, hacts, -, -, hstore⟩ := returns_authorized h
    simp only [returns_select_bind, returns_failIf_bind] at hstore
    exact ⟨now, _, hnow, storeLease_change hacts hstore.2.2.2 rfl rfl rfl rfl⟩

theorem registerGovernedRun_leaves : Leaves (Effect C none) (registerGovernedRun C request) := by
  refine leaves_of_readOnly_bind (effect_refl _) (.lift _) fun _ => ?_
  refine leaves_atomically (effect_refl _) fun o s n result s' n' h => ?_
  simp only [returns_statement_bind, returns_select_bind] at h
  obtain ⟨-, -, h⟩ := h
  split at h
  · simp only [repeatRegistration, returns_failIf_bind, returns_statement_bind, returns_pure] at h
    exact .inl h.2.2.2.1.symm
  · simp only [registerNewRun, registerRecorded, insertRunControl, insertProjection, bind_assoc, returns_select_bind,
      returns_orFail_bind, returns_invalidIf_bind, returns_operatorNow_bind, returns_orElse_bind,
      returns_operatorUuid_bind, returns_failIf_bind, returns_insertInto_bind, returns_statement_bind, returns_pure,
      exists_unit] at h
    obtain ⟨-, run, -, -, digest, -, -, -, workspace, -, -, -, -, now, hnow, binding, -, -, id, -, -, -, snapshot, -,
      hvalid, -, hnew, -, -, -, -, -, rfl, -⟩ := h
    refine .inr ⟨now, _, hnow, .registered ?_ rfl rfl (.projected .refl ?_ hvalid)⟩
    · intro row hrow
      simpa using hnew row hrow
    · exact fun row hrow => lt_nextProjectionSequence hrow

theorem change_of_audits {who : Option Credential} {events : List AuditEvent} (h : Audits C.hashes events s s') :
    Change C who now s s' := by
  obtain ⟨journal, hgrows, -, rfl⟩ := h
  exact .noted hgrows

theorem appendAuthorityEvent_leaves (request : ControlAuditAppendRequest) :
    Leaves (Effect C none) (appendAuthorityEvent C request) := by
  refine leaves_of_readOnly_bind (effect_refl _) (.lift _) fun _ => ?_
  refine leaves_atomically (effect_refl _) fun o s n result s' n' h => .inr ?_
  simp only [returns_statement_bind, returns_select_bind, returns_invalidIf_bind, returns_operatorNow_bind,
    returns_operatorUuid_bind] at h
  obtain ⟨-, -, -, now, hnow, eventId, -, h⟩ := h
  obtain ⟨event, _, hevent, -⟩ := returns_commit h
  exact ⟨now, _, hnow, change_of_audits (appendAuditEvent_audits hevent).1⟩

end Effects
end ProofPlatform.Operator
