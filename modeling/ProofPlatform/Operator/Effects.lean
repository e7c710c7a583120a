import ProofPlatform.Operator.Commands
import ProofPlatform.Operator.JournalRows

/-! What a committed call does to the tables: nothing, or one of these changes. -/
namespace ProofPlatform.Operator
open Kernel Executor Library Transaction Tx Table

/-- No two leases and no two reservations have the same identifier. -/
structure Database.Keyed (s : Database) : Prop where
  leases : Table.Keyed RunLease.leaseId s.leases
  reservations : Table.Keyed BudgetReservation.reservationId s.reservations

/-- What a call shows of a lease: an authority proves its token, a command quotes its fence, and a dispatch brings the
token to settle with. -/
structure Credential where
  runId : Uuid
  leaseId : Option Uuid
  fenceEpoch : Nat
  leaseToken : Option Token
  dispatchToken : Option Token

def LeaseAuthority.credential (authority : LeaseAuthority) : Credential :=
  ⟨authority.runId, some authority.leaseId, authority.fenceEpoch, some authority.leaseToken, none⟩

def BeginDispatchRequest.credential (request : BeginDispatchRequest) : Credential :=
  { request.authority.credential with dispatchToken := some request.dispatchToken }

/-- The credential is that of an active lease of its run, before the lease's expiry. -/
structure Acts (C : OperatorStoreContext) (credential : Credential) (now : Instant) (s : Database)
    (control : RunControl) (lease : RunLease) : Prop where
  controlRow : lookup RunControl.runId s.controls credential.runId = some control
  leaseRow : lookup RunLease.leaseId s.leases lease.leaseId = some lease
  run : lease.runId = credential.runId
  fence : lease.fenceEpoch = credential.fenceEpoch
  holder : ∀ id ∈ credential.leaseId, id = lease.leaseId
  token : ∀ token ∈ credential.leaseToken, C.hashes.leaseToken token = lease.leaseTokenDigest
  active : lease.state = .active
  unexpired : now < lease.expiresAt

variable {C : OperatorStoreContext} {control : RunControl} {now : Instant}

section
variable {credential : Credential} {s : Database} {lease : RunLease} (h : Acts C credential now s control lease)
include h

theorem Acts.control_runId : control.runId = credential.runId := (lookup_eq_some h.controlRow).2

/-- A dispatch token is brought by whoever acts for the lease. -/
theorem Acts.bringing (token : Token) : Acts C { credential with dispatchToken := some token } now s control lease :=
  ⟨h.controlRow, h.leaseRow, h.run, h.fence, h.holder, h.token, h.active, h.unexpired⟩

end

/-- A new reservation is opened and its account sets aside what it holds. -/
structure Opens (books books' : Books) (reservation : BudgetReservation) (account account' : BudgetAccount) : Prop where
  reservations : books'.reservations = books.reservations ++ [reservation]
  new : ∀ row ∈ books.reservations, row.reservationId ≠ reservation.reservationId
  state : reservation.state = .reserved
  budgets : Replaces BudgetAccount.budgetId account account' books.budgets books'.budgets
  budget : account.budgetId = reservation.budgetId
  policy : account'.policy = account.policy
  reserved : account'.reserved = account.reserved + reservation.held
  committed : account'.committed = account.committed
  charged : reservation.charged ≤ reservation.reserved
  limits : account'.reserved + account'.committed ≤ account'.policy.limits

/-- The control record advances to dispatch `active` under the directive `recovery`. -/
structure Advances (rows rows' : List RunControl) (control next : RunControl)
    (active : Option Uuid := control.activeDispatchReservationId)
    (recovery : Option Uuid := control.recoveryDirectiveId) : Prop where
  rows : Replaces RunControl.runId control next rows rows'
  budget : next.budgetId = control.budgetId
  revision : next.controlRevision = control.controlRevision + 1
  active : next.activeDispatchReservationId = active
  recovery : next.recoveryDirectiveId = recovery

theorem advances_of_advanceControl {α : Type} {changed : RunControl} {fenceEpoch : Nat} {runId : Uuid}
    {f : RunControl → StoreM α} {a : α} {o : Nat → Answer} {s s' : Database} {n n' : Nat}
    (h : Returns (advanceControl C changed fenceEpoch now >>= f) o s n a s' n')
    (hcontrol : lookup RunControl.runId s.controls runId = some control) (hrun : changed.runId = control.runId)
    (hbudget : changed.budgetId = control.budgetId) (hrevision : changed.controlRevision = control.controlRevision) :
    ∃ next controls projection m,
      Advances s.controls controls control next changed.activeDispatchReservationId changed.recoveryDirectiveId ∧
      Projects C.hashes s.journal control projection ∧ safeOnWire next.controlRevision = true ∧
      Returns (f next) o { s with controls, journal := s.journal.projected projection } m a s' n' := by
  obtain ⟨next, _, m, hadvance, h⟩ := returns_bind.mp h
  have hsafe := advanceControl_safe hadvance
  obtain ⟨digest, controls, projection, rfl, hcontrols, hp, rfl⟩ := advanceControl_spec hadvance
  refine ⟨changed.advanced now digest, controls, projection, m, ⟨?_, hbudget, congrArg (· + 1) hrevision, rfl, rfl⟩,
    ⟨hp.run.trans hrun, hp.later, hp.valid⟩, hsafe, h⟩
  exact .of_lookup hcontrols hcontrol hrun

variable {H : ControlHashes} {projection : RunProjection} {events : List AuditEvent} {journal journal' : Journal}

theorem Projects.grows (h : Projects H journal control projection)
    (hgrows : Grows H (journal.projected projection) events journal') : Grows H journal events journal' :=
  .trans (.projected .refl h.later h.valid) hgrows

/-- The replay claim that a reservation was bound to, by its key. -/
def ReplayClaimBinding.key (binding : ReplayClaimBinding) : ExecutionReplayKey :=
  ⟨binding.operation, binding.version, binding.idempotencyKey⟩

/-- The bound claim, if there is one, is failed and no other replay row changes. -/
def ReplayFailed (binding : Option ReplayClaimBinding) (replays replays' : List ReplayRow) : Prop :=
  match binding with
  | none => replays' = replays
  | some binding => ∃ row row', row'.state = .failed ∧ row.key = binding.key ∧
      row.inputDigest = binding.inputDigest ∧ row.claimedBy = binding.claimedBy ∧
      Replaces ReplayRow.key row row' replays replays'

/-- The bound claim, if any, is completed with this execution; no other replay row changes. -/
def ReplayCompleted (P : Primitives) (binding : Option ReplayClaimBinding) (prepared : PreparedGovernedExecution)
    (replays replays' : List ReplayRow) : Prop :=
  match binding with
  | none => replays' = replays
  | some binding => ∃ row output, P.canonicalize prepared.output = .ok output ∧
      row.state = .claimed ∧ row.key = binding.key ∧ row.inputDigest = binding.inputDigest ∧
      row.claimedBy = binding.claimedBy ∧ Replaces ReplayRow.key row
        (SqliteStore.completedRow output prepared.proof prepared.executionContextId row) replays replays'

/-- One projection of the run and events of these kinds are appended. -/
def JournalGrows (H : ControlHashes) (runId : Uuid) (kinds : List AuditEventKind) (journal journal' : Journal) : Prop :=
  ∃ projection events, projection.runId = runId ∧ journal'.projections = journal.projections ++ [projection] ∧
    events.map AuditEvent.kind = kinds ∧ Grows H journal events journal'

theorem JournalGrows.of_audits {kinds : List AuditEventKind}
    (h : Projects H journal control projection) (hkinds : events.map AuditEvent.kind = kinds)
    (hgrows : Grows H (journal.projected projection) events journal')
    (hp : journal'.projections = (journal.projected projection).projections) :
    JournalGrows H control.runId kinds journal journal' :=
  ⟨projection, events, h.run, hp, hkinds, h.grows hgrows⟩

/-- A forfeit: the reservation is charged in full, the run and its latest step have failed if they had not ended, and
the bound replay claim is failed. Tables not named in `rest` are as before. -/
structure Forfeits (H : ControlHashes) (now : Instant) (s s' : Database) (control : RunControl)
    (reservation : BudgetReservation) : Prop where
  settled : ∃ account account',
    Settles s.books s'.books reservation (reservation.forfeited now) account account'
  run : ∃ run, lookup AgentRun.id s.agentRuns control.runId = some run ∧
    (run.status.isTerminal = true ∧ s'.agentRuns = s.agentRuns ∨
      ∃ run', run.fail now = .ok run' ∧ Replaces AgentRun.id run run' s.agentRuns s'.agentRuns)
  step : s'.agentSteps = s.agentSteps ∨ ∃ step step',
    step.fail "governed runtime settlement failed" now = .ok step' ∧
      Replaces AgentRunStep.id step step' s.agentSteps s'.agentSteps
  replay : ReplayFailed reservation.replay s.replayTables.executionReplays s'.replayTables.executionReplays
  advanced : ∃ next, Advances s.controls s'.controls control next none
  journal : JournalGrows H control.runId [.budgetForfeited, .controlFailure] s.journal s'.journal
  rest : s' = { s with
    budgets := s'.budgets
    reservations := s'.reservations
    agentRuns := s'.agentRuns
    agentSteps := s'.agentSteps
    replayTables := { s.replayTables with executionReplays := s'.replayTables.executionReplays }
    controls := s'.controls
    journal := s'.journal }

/-- The row under which an execution's context is stored. -/
def PreparedGovernedExecution.contextRow (prepared : PreparedGovernedExecution) : ContextRow :=
  ⟨prepared.executionContextId, prepared.context.actor, prepared.context.delegationId,
    prepared.context.workspacePath, prepared.context.timestamp⟩

/-- The charge is what the result used, over the milliseconds begun since its dispatch. -/
def BudgetReservation.Charges (reservation : BudgetReservation) (now : Instant) (usage : PreparedUsageRecord)
    (charged : BudgetAmounts) : Prop :=
  ∃ (started : Instant) (duration : Nat), reservation.dispatchStartedAt = some started ∧
    now - started ≤ duration * 1000000 ∧
    duration * 1000000 < now - started + 1000000 ∧
    charged = ⟨usage.steps, usage.tokens, duration, usage.costMicrousd, usage.toolDispatches⟩

/-- A commit: the reservation is charged what was used and keeps the binding, every prepared row is there, the bound
claim is completed, and the run is projected and audited. -/
structure Commits (C : OperatorStoreContext) (now : Instant) (s s' : Database) (control : RunControl)
    (reservation : BudgetReservation) (binding : PreparedExecutionBinding) (prepared : PreparedGovernedExecution) :
    Prop where
  settled : ∃ commit account account', reservation.Charges now prepared.usage commit.actualCharge ∧
    commit.preparedExecutionDigest = binding.payloadDigest ∧ commit.resultDigest = binding.resultDigest ∧
    commit.committedAt = now ∧
    Settles s.books s'.books reservation (reservation.committed binding commit) account account'
  run : ∃ run, run.id = reservation.runId ∧ run.status = .running ∧
    Replaces AgentRun.id run prepared.runAfter s.agentRuns s'.agentRuns
  step : ∃ step, Replaces AgentRunStep.id step prepared.stepAfter s.agentSteps s'.agentSteps
  checkpoint : s'.checkpoints = s.checkpoints ++ prepared.checkpoint.toList ∧
    ∀ checkpoint ∈ prepared.checkpoint, checkpoint.runId = reservation.runId
  events : s'.runEvents = s.runEvents ++ prepared.events
  evaluation : s'.evaluations = s.evaluations ++ prepared.evaluation.toList
  approval : s'.approvalRequests = s.approvalRequests ++ (prepared.approval.map PreparedApprovalBundle.request).toList ∧
    s'.approvalBindings = s.approvalBindings ++ (prepared.approval.map PreparedApprovalBundle.binding).toList
  context : s'.replayTables.executionContexts = s.replayTables.executionContexts ++ [prepared.contextRow]
  proof : s'.replayTables.proofs = s.replayTables.proofs ++ [prepared.proof]
  replay : ReplayCompleted C.primitives reservation.replay prepared s.replayTables.executionReplays
    s'.replayTables.executionReplays
  advanced : ∃ next, Advances s.controls s'.controls control next none
  journal : JournalGrows C.hashes control.runId [.budgetCommitted, .runtimeResultCommitted] s.journal s'.journal
  rest : s' = { s with
    budgets := s'.budgets
    reservations := s'.reservations
    agentRuns := s'.agentRuns
    agentSteps := s'.agentSteps
    checkpoints := s'.checkpoints
    runEvents := s'.runEvents
    evaluations := s'.evaluations
    approvalRequests := s'.approvalRequests
    approvalBindings := s'.approvalBindings
    replayTables := s'.replayTables
    controls := s'.controls
    journal := s'.journal }

/-- A reservation is made while no directive is outstanding for its run, and if under one, for the call it describes
and in place of the released one. -/
structure Recovers (s : Database) (control : RunControl) (reservation : BudgetReservation) : Prop where
  consumed : control.recoveryDirectiveId = none
  stored : ∀ directive ∈ reservation.recovery,
    lookup RecoveryDirective.directiveId s.directives directive.directiveId = some directive
  source : ∀ directive ∈ reservation.recovery, ∃ source, source.state = .released ∧
    lookup BudgetReservation.reservationId s.reservations directive.sourceReservationId = some source
  call : ∀ directive ∈ reservation.recovery,
    reservation.intentDigest = directive.intentDigest ∧ reservation.replay = directive.replay
  unused : ∀ directive ∈ reservation.recovery, ∀ row ∈ s.reservations,
    row.recovery.map RecoveryDirective.directiveId ≠ some directive.directiveId

/-- A command is put on record: its envelope, one of the events and its receipt. -/
structure Records (C : OperatorStoreContext) (events : List AuditEvent) (s s' : Database) (envelope : CommandEnvelope)
    (receipt : CommandReceipt) : Prop where
  commands : s'.commands = s.commands ++ [envelope]
  receipts : s'.receipts = s.receipts ++ [receipt]
  new : ∀ row ∈ s.commands, commandsClash row envelope = false
  unreceived : ∀ row ∈ s.receipts, receiptsClash row receipt = false
  sound : validateCommandReceiptBinding C.hashes receipt envelope = .ok ()
  event : ∃ event ∈ events, event.workspaceId = receipt.workspaceId ∧ event.eventId = receipt.auditEventId ∧
    event.sequence = receipt.auditSequence ∧ event.eventDigest = receipt.auditDigest

/-- A run with no dispatch in progress is cancelled, and an open reservation released. -/
structure Cancels (C : OperatorStoreContext) (credential : Credential) (now : Instant) (s s' : Database)
    (control : RunControl) (lease : RunLease) (run : AgentRun) : Prop where
  acts : Acts C credential now s control lease
  idle : control.activeDispatchReservationId = none
  books : (s'.books = s.books ∧ ∀ row ∈ s.reservations, row.runId = control.runId → row.state ≠ .reserved) ∨
    ∃ reservation account account', reservation.state = .reserved ∧ reservation.runId = control.runId ∧
      Settles s.books s'.books reservation (reservation.released now) account account'
  found : lookup AgentRun.id s.agentRuns control.runId = some run
  ongoing : run.status.isTerminal = false
  cancelled : ∃ run', run.cancel now = .ok run' ∧ Replaces AgentRun.id run run' s.agentRuns s'.agentRuns
  advanced : ∃ next, Advances s.controls s'.controls control next none
  recorded : ∃ events envelope receipt, Grows C.hashes s.journal events s'.journal ∧
    Records C events s s' envelope receipt
  rest : s' = { s with
    budgets := s'.budgets
    reservations := s'.reservations
    agentRuns := s'.agentRuns
    controls := s'.controls
    commands := s'.commands
    receipts := s'.receipts
    replayTables := { s.replayTables with proofs := s'.replayTables.proofs }
    journal := s'.journal }

/-- A run with no dispatch in progress goes on, or fails after a denial; a failed run goes on under the directive of
its control record, which is consumed. -/
structure Resumes (C : OperatorStoreContext) (credential : Credential) (now : Instant) (s s' : Database)
    (control : RunControl) (lease : RunLease) (run : AgentRun) (recovery : Option RecoveryDirective) : Prop where
  acts : Acts C credential now s control lease
  idle : control.activeDispatchReservationId = none
  found : lookup AgentRun.id s.agentRuns control.runId = some run
  waiting : run.status = .waitingForInput ∨ run.status = .failed
  resumed : ∃ run', Replaces AgentRun.id run run' s.agentRuns s'.agentRuns
  directive : ∀ directive ∈ recovery,
    lookup RecoveryDirective.directiveId s.directives directive.directiveId = some directive ∧
    directive.runId = control.runId ∧ control.recoveryDirectiveId = some directive.directiveId
  consumed : ∀ directive ∈ recovery, resumptions s control.runId directive.directiveId = 0 ∧
    2 ≤ resumptions s' control.runId directive.directiveId
  advanced : ∃ next, Advances s.controls s'.controls control next none
    (if recovery.isSome then none else control.recoveryDirectiveId)
  recorded : ∃ events envelope receipt, Grows C.hashes s.journal events s'.journal ∧
    Records C events s s' envelope receipt
  rest : s' = { s with
    agentRuns := s'.agentRuns
    agentSteps := s'.agentSteps
    controls := s'.controls
    commands := s'.commands
    receipts := s'.receipts
    replayTables := { s.replayTables with proofs := s'.replayTables.proofs }
    journal := s'.journal }

/-- One committed call, on behalf of the credential it carried, at the time it read. -/
inductive Change (C : OperatorStoreContext) : Option Credential → Instant → Database → Database → Prop
  /-- Nothing but events. -/
  | noted {who now s events journal} (grows : Grows C.hashes s.journal events journal) :
      Change C who now s { s with journal }
  /-- Nothing but a command. -/
  | recorded {who now s events envelope receipt commands receipts proofs journal}
      (grows : Grows C.hashes s.journal events journal)
      (records : Records C events s
        { s with commands, receipts, replayTables := { s.replayTables with proofs }, journal } envelope receipt) :
      Change C who now s { s with commands, receipts, replayTables := { s.replayTables with proofs }, journal }
  | registered {who now s control journal} (new : ∀ row ∈ s.controls, row.runId ≠ control.runId)
      (idle : control.activeDispatchReservationId = none) (unaided : control.recoveryDirectiveId = none)
      (grows : Grows C.hashes s.journal [] journal) :
      Change C who now s { s with controls := s.controls ++ [control], journal }
  /-- A run without an active lease gets one, under the next fence. -/
  | claimed {who now s lease control next controls events journal} (new : ∀ row ∈ s.leases, row.leaseId ≠ lease.leaseId)
      (vacant : ∀ row ∈ s.leases, row.runId = lease.runId → row.state = .released)
      (fence : lease.fenceEpoch = maxFence s lease.runId + 1) (active : lease.state = .active)
      (advanced : Advances s.controls controls control next)
      (grows : Grows C.hashes s.journal events journal) :
      Change C who now s { s with leases := s.leases ++ [lease], controls, journal }
  /-- The lease is renewed or released by its holder. -/
  | relet {credential now s lease lease' control next leases controls events journal}
      (acts : Acts C credential now s control lease)
      (rows : Replaces RunLease.leaseId lease lease' s.leases leases) (run : lease'.runId = lease.runId)
      (fence : lease'.fenceEpoch = lease.fenceEpoch) (token : lease'.leaseTokenDigest = lease.leaseTokenDigest)
      (advanced : Advances s.controls controls control next)
      (grows : Grows C.hashes s.journal events journal) :
      Change C (some credential) now s { s with leases, controls, journal }
  | reserved {credential now s lease control next reservation account account' request reservations budgets controls
        events journal}
      (acts : Acts C credential now s control lease)
      (opens : Opens s.books ⟨budgets, reservations⟩ reservation account account')
      (owner : reservation.runId = control.runId) (idle : control.activeDispatchReservationId = none)
      (vacant : ∀ row ∈ s.reservations, row.runId = control.runId → reservationOpen row = false)
      (recovers : Recovers s control reservation)
      (asked : reservation.requestDigest = C.hashes.budgetRequest request ∧ request.authority.runId = control.runId ∧
        request.authority.expectedControlRevision = control.controlRevision ∧
        safeOnWire request.authority.expectedControlRevision = true)
      (unpermitted : reservation.permitId = none ∧ reservation.dispatchTokenDigest = none)
      (advanced : Advances s.controls controls control next none)
      (grows : Grows C.hashes s.journal events journal) :
      Change C (some credential) now s { s with reservations, budgets, controls, journal }
  | released {credential now s lease control next reservation account account' reservations budgets controls events
        journal}
      (acts : Acts C credential now s control lease) (state : reservation.state = .reserved)
      (settles : Settles s.books ⟨budgets, reservations⟩ reservation (reservation.released now) account account')
      (owner : reservation.runId = control.runId)
      (advanced : Advances s.controls controls control next)
      (grows : Grows C.hashes s.journal events journal) :
      Change C (some credential) now s { s with reservations, budgets, controls, journal }
  /-- The handler may now run: the reservation is the one its running run dispatches. -/
  | dispatched {credential now s lease control next reservation permit token run reservations controls executionReplays
        replayBindings events journal}
      (acts : Acts C credential now s control lease) (state : reservation.state = .reserved)
      (rows : Replaces BudgetReservation.reservationId reservation (reservation.dispatching permit now)
        s.reservations reservations)
      (owner : reservation.runId = control.runId) (idle : control.activeDispatchReservationId = none)
      (found : lookup AgentRun.id s.agentRuns control.runId = some run) (running : run.status = .running)
      (permitted : ∀ row ∈ s.reservations, row.reservationId ≠ reservation.reservationId →
        row.permitId ≠ some permit.permitId)
      (brought : credential.dispatchToken = some token ∧ permit.dispatchTokenDigest = C.hashes.dispatchToken token)
      (advanced : Advances s.controls controls control next (some reservation.reservationId))
      (grows : Grows C.hashes s.journal events journal) :
      Change C (some credential) now s { s with
        reservations, controls, replayTables := { s.replayTables with executionReplays }, replayBindings, journal }
  | committed {credential now s s' lease control reservation binding prepared}
      (acts : Acts C credential now s control lease) (state : reservation.state = .dispatching)
      (active : control.activeDispatchReservationId = some reservation.reservationId)
      (commits : Commits C now s s' control reservation binding prepared) : Change C (some credential) now s s'
  | forfeited {credential now s s' lease control reservation} (acts : Acts C credential now s control lease)
      (state : reservation.state = .dispatching)
      (active : control.activeDispatchReservationId = some reservation.reservationId)
      (forfeits : Forfeits C.hashes now s s' control reservation) : Change C (some credential) now s s'
  | cancelled {credential now s s' control lease run} (cancels : Cancels C credential now s s' control lease run) :
      Change C (some credential) now s s'
  | resumed {credential now s s' control lease run recovery}
      (resumes : Resumes C credential now s s' control lease run recovery) : Change C (some credential) now s s'

theorem Change.grows {who : Option Credential} {s s' : Database}
    (h : Change C who now s s') : ∃ events, Grows C.hashes s.journal events s'.journal := by
  cases h with
  | noted grows | recorded grows | registered _ _ _ grows | claimed _ _ _ _ _ grows | relet _ _ _ _ _ _ grows
  | reserved _ _ _ _ _ _ _ _ _ grows | released _ _ _ _ _ grows | dispatched _ _ _ _ _ _ _ _ _ _ grows =>
    exact ⟨_, grows⟩
  | committed _ _ _ commits =>
    obtain ⟨-, events, -, -, -, grows⟩ := commits.journal
    exact ⟨events, grows⟩
  | forfeited _ _ _ forfeits =>
    obtain ⟨-, events, -, -, -, grows⟩ := forfeits.journal
    exact ⟨events, grows⟩
  | cancelled cancels =>
    obtain ⟨events, -, -, grows, -⟩ := cancels.recorded
    exact ⟨events, grows⟩
  | resumed resumes =>
    obtain ⟨events, -, -, grows, -⟩ := resumes.recorded
    exact ⟨events, grows⟩

/-- Nothing but the note that a budget call was refused. -/
def Rejects (H : ControlHashes) (s s' : Database) : Prop :=
  ∃ event, event.kind = .budgetRejected ∧ Audits H [event] s s'

/-- What a call leaves behind: the tables as they were, or one change at a time it read. -/
def Effect (C : OperatorStoreContext) (who : Option Credential) (o : Nat → Answer) (s s' : Database) : Prop :=
  s' = s ∨ ∃ now n, (o n).now = some now ∧ Change C who now s s'

end ProofPlatform.Operator
