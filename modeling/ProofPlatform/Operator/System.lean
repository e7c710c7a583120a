import ProofPlatform.Library.History
import ProofPlatform.Operator.CommitStore
import ProofPlatform.Operator.Decisions

/-! The store as a system: any callers make any calls, each with whatever answers it is given. -/
namespace ProofPlatform.Operator
open Kernel Library Transaction

/-- A call of the store with its arguments. -/
inductive Call where
  | registerGovernedRun (request : RegisterGovernedRunRequest)
  | appendAuthorityEvent (request : ControlAuditAppendRequest)
  | claimRunLease (request : LeaseClaimRequest)
  | renewRunLease (request : LeaseRenewRequest)
  | releaseRunLease (request : LeaseReleaseRequest)
  | reserveAggregateBudget (request : BudgetReserveRequest)
  | settleBudgetReservation (request : BudgetSettlementRequest)
  | beginDispatch (request : BeginDispatchRequest)
  | commitRuntimeBarrier (request : RuntimeCommitRequest) (prepared : PreparedGovernedExecution)
  | settleRuntimeFailure (request : RuntimeFailureRequest)
  | reclaimRun (request : ReclaimRequest)
  | executeOperatorCommand (signer : OperatorSigner) (request : CommandExecutionRequest)

namespace Call

/-- What the call shows of a lease, when it is made on behalf of one. -/
def credential : Call → Option Credential
  | registerGovernedRun _ | appendAuthorityEvent _ | claimRunLease _ | reclaimRun _ => none
  | renewRunLease request => some request.authority.credential
  | releaseRunLease request => request.credential
  | reserveAggregateBudget request => some request.authority.credential
  | settleBudgetReservation request => some request.authority.credential
  | beginDispatch request => some request.credential
  | commitRuntimeBarrier request _ => some request.authority.credential
  | settleRuntimeFailure request => some request.authority.credential
  | executeOperatorCommand _ request => request.command.credential

variable (C : OperatorStoreContext)

/-- The store as the call leaves it, whether it succeeds or fails. -/
def leaves (o : Nat → Answer) (s : Database) : Call → Database
  | registerGovernedRun request => (Operator.registerGovernedRun C request o s 0).state
  | appendAuthorityEvent request => (Operator.appendAuthorityEvent C request o s 0).state
  | claimRunLease request => (Operator.claimRunLease C request o s 0).state
  | renewRunLease request => (Operator.renewRunLease C request o s 0).state
  | releaseRunLease request => (Operator.releaseRunLease C request o s 0).state
  | reserveAggregateBudget request => (Operator.reserveAggregateBudget C request o s 0).state
  | settleBudgetReservation request => (Operator.settleBudgetReservation C request o s 0).state
  | beginDispatch request => (Operator.beginDispatch C request o s 0).state
  | commitRuntimeBarrier request prepared => (Operator.commitRuntimeBarrier C request prepared o s 0).state
  | settleRuntimeFailure request => (Operator.settleRuntimeFailure C request o s 0).state
  | reclaimRun request => (Operator.reclaimRun C request o s 0).state
  | executeOperatorCommand signer request => (Operator.executeOperatorCommand C signer request o s 0).state

variable {C}

/-- Every call leaves the tables as they are or makes one change, for the credential it shows. -/
theorem effect {s : Database} (hs : s.Keyed) (call : Call) (o : Nat → Answer) :
    Effect C call.credential o s (call.leaves C o s) := by
  cases call with
  | registerGovernedRun request => exact registerGovernedRun_leaves request o s 0
  | appendAuthorityEvent request => exact appendAuthorityEvent_leaves request o s 0
  | claimRunLease request => exact claimRunLease_leaves request o s 0
  | renewRunLease request => exact renewRunLease_leaves request o s 0
  | releaseRunLease request => exact releaseRunLease_leaves request o s 0
  | reserveAggregateBudget request => exact reserveAggregateBudget_leaves request o s 0
  | settleBudgetReservation request => exact settleBudgetReservation_leaves request o s 0
  | beginDispatch request => exact beginDispatch_leaves request o s 0
  | commitRuntimeBarrier request prepared => exact commitRuntimeBarrier_leaves request prepared o s 0
  | settleRuntimeFailure request => exact settleRuntimeFailure_leaves request o s 0
  | reclaimRun request =>
    obtain ⟨e, n', h⟩ := reclaimRun_refuses C request o s 0
    exact .inl (congrArg Outcome.state h)
  | executeOperatorCommand signer request =>
    rcases executeOperatorCommand_did signer hs request o 0 with ⟨-, -, hs'⟩ | hdid
    · exact .inl hs'
    · exact hdid.effect

end Call

/-- One call and what the surroundings answered during it. -/
structure Event where
  call : Call
  answers : Nat → Answer

variable (C : OperatorStoreContext)

/-- The store after one more call. -/
def next (s : Database) (event : Event) : Database := event.call.leaves C event.answers s

/-- The store after these calls. -/
def after (events : List Event) (s : Database) : Database := History.run (next C) events s

@[simp] theorem after_nil (s : Database) : after C [] s = s := rfl

@[simp] theorem after_cons (event : Event) (events : List Event) (s : Database) :
    after C (event :: events) s = after C events (next C s event) := rfl

/-- A provisioned store before its first use: no run is governed and nothing is on record. -/
structure Provisioned (s : Database) : Prop where
  controls : s.controls = []
  leases : s.leases = []
  reservations : s.reservations = []
  directives : s.directives = []
  commands : s.commands = []
  receipts : s.receipts = []
  projections : s.journal.projections = []
  auditEvents : s.journal.auditEvents = []
  heads : ∀ head ∈ s.journal.auditHeads, head.lastSequence = 0 ∧ head.lastDigest = none

theorem Provisioned.keyed {s : Database} (h : Provisioned s) : s.Keyed := by
  constructor
  · rw [h.leases]
    exact List.nodup_nil
  · rw [h.reservations]
    exact List.nodup_nil

variable {C} {who : Option Credential} {now : Instant} {s s' : Database}

theorem Change.keyed (h : Change C who now s s') (hs : s.Keyed) : s'.Keyed := by
  obtain ⟨hleases, hreservations⟩ := hs
  cases h with
  | noted | recorded | registered => exact ⟨hleases, hreservations⟩
  | claimed new => exact ⟨hleases.append new, hreservations⟩
  | relet _ rows => exact ⟨hleases.replaces rows, hreservations⟩
  | reserved _ opens =>
    refine ⟨hleases, ?_⟩
    have happended := hreservations.append opens.new
    rw [show s.reservations = s.books.reservations from rfl, ← opens.reservations] at happended
    exact happended
  | released _ _ settles => exact ⟨hleases, hreservations.replaces settles.reservations⟩
  | dispatched _ _ rows => exact ⟨hleases, hreservations.replaces rows⟩
  | committed _ _ _ commits =>
    obtain ⟨_, _, _, -, -, -, -, hsettles⟩ := commits.settled
    rw [commits.rest]
    exact ⟨hleases, hreservations.replaces hsettles.reservations⟩
  | forfeited _ _ _ forfeits =>
    obtain ⟨_, _, hsettles⟩ := forfeits.settled
    rw [forfeits.rest]
    exact ⟨hleases, hreservations.replaces hsettles.reservations⟩
  | cancelled cancels =>
    rw [cancels.rest]
    refine ⟨hleases, ?_⟩
    rcases cancels.books with ⟨hbooks, -⟩ | ⟨_, _, _, -, -, hsettles⟩
    · rw [show s'.reservations = s.reservations from congrArg Books.reservations hbooks]
      exact hreservations
    · exact hreservations.replaces hsettles.reservations
  | resumed resumes =>
    rw [resumes.rest]
    exact ⟨hleases, hreservations⟩

/-! What every change keeps, every history keeps; what every change does, every history does. -/

theorem next_cases (hs : s.Keyed) (event : Event) :
    next C s event = s ∨ ∃ now n, (event.answers n).now = some now ∧
      Change C event.call.credential now s (next C s event) := event.call.effect hs event.answers

theorem next_keyed (event : Event) (hs : s.Keyed) : (next C s event).Keyed := by
  rcases next_cases hs event with hsame | ⟨now, n, -, hchange⟩
  · exact hsame.symm ▸ hs
  · exact hchange.keyed hs

theorem after_keyed (events : List Event) (hs : s.Keyed) : (after C events s).Keyed :=
  History.run_invariant (fun _ event _ => next_keyed event) hs

theorem after_invariant {I : Database → Prop}
    (hI : ∀ {who now s s'}, s.Keyed → Change C who now s s' → I s → I s') (events : List Event) (hs : s.Keyed)
    (h : I s) :
    I (after C events s) := by
  have hstep (s : Database) (event : Event) (_ : event ∈ events) (hboth : s.Keyed ∧ I s) :
      (next C s event).Keyed ∧ I (next C s event) := by
    refine ⟨next_keyed event hboth.1, ?_⟩
    rcases next_cases hboth.1 event with hsame | ⟨now, n, -, hchange⟩
    · exact hsame.symm ▸ hboth.2
    · exact hI hboth.1 hchange hboth.2
  exact (History.run_invariant hstep ⟨hs, h⟩).2

/-- With an invariant at hand, and times that the calls read. -/
theorem after_related {I : Database → Prop} {R : Database → Database → Prop} {T : Instant → Prop}
    {events : List Event} (hI : ∀ {who now s s'}, s.Keyed → Change C who now s s' → I s → I s')
    (hrefl : ∀ s, R s s) (htrans : ∀ s₁ s₂ s₃, R s₁ s₂ → R s₂ s₃ → R s₁ s₃)
    (hR : ∀ {who now s s'}, s.Keyed → I s → T now → Change C who now s s' → R s s')
    (htimes : ∀ event ∈ events, ∀ n, ∀ now ∈ (event.answers n).now, T now) (hs : s.Keyed) (h : I s) :
    R s (after C events s) := by
  refine History.run_related (fun s event _ hboth => ?_) hrefl htrans (fun s event hmem hboth => ?_) (I := fun s =>
    s.Keyed ∧ I s) ⟨hs, h⟩
  · exact ⟨next_keyed event hboth.1, after_invariant hI [event] hboth.1 hboth.2⟩
  · rcases next_cases hboth.1 event with hsame | ⟨now, n, hnow, hchange⟩
    · exact hsame.symm ▸ hrefl s
    · exact hR hboth.1 hboth.2 (htimes event hmem n now hnow) hchange

/-! A small store: a workspace with two runs that share a budget. -/

def digestOf (id : Uuid) : ControlDigest := ⟨id.setWidth 256⟩

def sampleHashes : ControlHashes :=
  { ControlHashes.zero with
    publicKey := fun key => ⟨key⟩
    sessionAuthority := fun authority => digestOf authority.sessionId
    leaseToken := fun token => ⟨token⟩
    dispatchToken := fun token => ⟨token⟩
    recoveryDirective := fun directive => digestOf directive.directiveId
    auditEvent := fun event => digestOf event.eventId
    budgetRequest := fun request =>
      ⟨BitVec.ofNat 256 (request.authority.runId.toNat * 2 ^ 53 + request.authority.expectedControlRevision)⟩
    command := fun command => digestOf command.binding.commandId
    commandReceipt := fun receipt => digestOf receipt.receiptId }

def sampleContext : OperatorStoreContext where
  primitives :=
    { unusedPrimitives with
      canonicalize := fun _ => .ok ⟨"null"⟩
      publicKey := id
      verify := fun _ _ signature => signature == 0 }
  hashes := sampleHashes
  catalog := ⟨[("test.echo", "v1")], fun _ _ _ => true, fun _ _ _ => true⟩
  parseJson _ := none

def sampleSigner : OperatorSigner where
  signApproval _ := none
  signOperatorProof request := some
    ⟨⟨request.proofId, ⟨request.agentId⟩, none, request.command.command.kind.operation ++ "::v1", request.inputDigest,
      request.outputDigest, request.timestamp, none⟩, 0⟩

/-- The `i`th identifier that belongs to run `k`. -/
def runUuid (k i : Nat) : Uuid := .v7 (1000 * k + i)

def sampleRun (k : Nat) : AgentRun := { strandedRun with id := runUuid k 1, mode := .session }

def sampleStep (k : Nat) : AgentRunStep :=
  { waitingStep with
    id := runUuid k 2
    runId := runUuid k 1
    operation := "test.echo"
    status := .running
    approvalRequestId := none }

def sampleCheckpoint (k : Nat) : AgentCheckpoint :=
  { strandedCheckpoint with id := runUuid k 3, runId := runUuid k 1 }

def sampleBudget : BudgetAccount :=
  let stranded := strandedBudget sampleContext
  { stranded with policy := { stranded.policy with limits := ⟨9, 9, 9, 9, 9⟩ } }

def sampleStore : Database :=
  { Database.empty with
    workspaces := [enrolledWorkspace sampleContext]
    principals := [workspaceAgent, ⟨⟨.v7 20⟩, .human, 2, 0⟩]
    agentRuns := [sampleRun 1, sampleRun 2]
    agentSteps := [sampleStep 1, sampleStep 2]
    checkpoints := [sampleCheckpoint 1, sampleCheckpoint 2]
    budgets := [sampleBudget]
    journal := ⟨[], [⟨.v7 2, 0, none⟩], []⟩ }

theorem sampleStore_provisioned : Provisioned sampleStore :=
  ⟨rfl, rfl, rfl, rfl, rfl, rfl, rfl, rfl, by decide⟩

/-- Every statement is carried out, at this time. -/
def sampleAnswers (time n : Nat) : Answer := ⟨some time, some (.v7 (100000 + 100 * time + n)), true⟩

def registerRun (k : Nat) : RegisterGovernedRunRequest where
  schema := "proof.operator.register-governed-run-request/v1"
  workspaceId := .v7 2
  runId := runUuid k 1
  budgetId := .v7 3
  initialProjection :=
    { schema := "proof.operator.initial-run-projection-input/v1"
      workspaceId := .v7 2
      runId := runUuid k 1
      sourceRunRevision := 1
      checkpointId := runUuid k 3
      checkpointSequence := 0
      checkpointDigest := ⟨0⟩
      runStatus := .running }

variable (k fence revision : Nat) (token : Token)

/-- The lease with this fence is claimed, and held under that claim. -/
def claimLease : LeaseClaimRequest :=
  ⟨"proof.operator.lease-claim-request/v1", .v7 2, runUuid k 1, runUuid k (10 + fence), .v7 5, .v7 6, token,
    fence - 1, revision⟩

def holdLease : LeaseAuthority :=
  ⟨"proof.operator.lease-authority/v1", .v7 2, runUuid k 1, runUuid k (10 + fence), .v7 5, .v7 6, fence, revision,
    token⟩

def echoIntent : DispatchIntent :=
  ⟨DispatchIntent.schemaName, .tool, "local", none, "test.echo", "v1", .blank, ⟨1, 0, 1, 0, 1⟩⟩

def reserveEcho : BudgetReserveRequest :=
  ⟨"proof.operator.budget-reserve-request/v1", holdLease k fence revision token, runUuid k 30, runUuid k 31,
    echoIntent, .blank, none, none⟩

def beginEcho (token dispatchToken : Token) : BeginDispatchRequest :=
  ⟨"proof.operator.begin-dispatch-request/v1", holdLease k fence revision token, runUuid k 30, dispatchToken,
    echoIntent, .blank, none, none, .blank⟩

/-- Run `k` is registered, leased and dispatches a call, at four times from `time` on. -/
def dispatchEcho (k time : Nat) (token dispatchToken : Token) : List Event :=
  [⟨.registerGovernedRun (registerRun k), sampleAnswers time⟩,
    ⟨.claimRunLease (claimLease k 1 0 token), sampleAnswers (time + 1)⟩,
    ⟨.reserveAggregateBudget (reserveEcho k 1 1 token), sampleAnswers (time + 2)⟩,
    ⟨.beginDispatch (beginEcho k 1 2 token dispatchToken), sampleAnswers (time + 3)⟩]

def echoProof : Proof := ⟨⟨.v7 40, ⟨.v7 8⟩, none, "test.echo::v1", ⟨0⟩, ⟨0⟩, 5, none⟩, 0⟩

/-- What the call of the first run is to leave: its step has succeeded and the session goes on. -/
def preparedEcho : PreparedGovernedExecution where
  output := .null
  executionContextId := .v7 41
  context := ⟨⟨.v7 8⟩, none, none, none, "/workspace", 5⟩
  proof := echoProof
  runAfter := { sampleRun 1 with updatedAt := 5 }
  stepAfter :=
    { sampleStep 1 with
      status := .succeeded
      output := some .null
      proof := some echoProof
      revision := 2
      updatedAt := 5
      completedAt := some 5 }
  checkpoint := none
  events := []
  evaluation := none
  approval := none
  replay := none
  usage :=
    { schema := PreparedUsageRecord.schemaName
      boundaryKind := .tool
      boundaryCalls := 1
      adapter := "local"
      model := none
      steps := 1
      tokens := 0
      costMicrousd := 0
      toolDispatches := 1
      inputDigest := ⟨0⟩
      outputDigest := ⟨0⟩ }

/-- The commit of the call that the first run has dispatched at time four. -/
def commitEcho : RuntimeCommitRequest where
  schema := "proof.operator.runtime-commit-request/v1"
  authority := holdLease 1 1 3 7
  permit :=
    { schema := DispatchPermit.schemaName
      permitId := .v7 100414
      runId := runUuid 1 1
      reservationId := runUuid 1 30
      leaseId := runUuid 1 11
      processEpochId := .v7 6
      fenceEpoch := 1
      expectedControlRevision := 2
      intentDigest := .blank
      replayBindingDigest := none
      dispatchTokenDigest := ⟨9⟩
      callDigest := .blank
      authorizedAt := 4
      budgetDeadlineAt := 2 * RunLease.duration }
  dispatchToken := 9
  intent := echoIntent
  prepared :=
    { schema := PreparedExecutionBinding.schemaName
      payloadDigest := .blank
      replayBindingDigest := none
      executionContextId := .v7 41
      result := preparedEcho.result sampleContext "test.echo"
      resultDigest := .blank }

/-- The first run works off one call. -/
def workEcho : List Event :=
  dispatchEcho 1 1 7 9 ++ [⟨.commitRuntimeBarrier commitEcho preparedEcho, sampleAnswers 5⟩]

example : (after sampleContext workEcho sampleStore).reservations.map BudgetReservation.state = [.committed] := by
  decide +kernel

/-- The human cancels the first run as it then stands. -/
def cancelEcho : RunCancelCommand :=
  ⟨RunCancelCommand.schemaName, sessionBinding sampleContext (.v7 50) (.v7 51), runUuid 1 1, 1, 4, 1⟩

def cancelRequest : CommandExecutionRequest := sessionRequest sampleContext (.runCancel cancelEcho)

theorem cancelEcho_applied :
    ∃ result, (executeOperatorCommand sampleContext sampleSigner cancelRequest (sampleAnswers 6)
      (after sampleContext workEcho sampleStore) 0).result = .ok result ∧ result.outcome = .applied := by
  exact Fallible.exists_ok_of_toOption (f := CommandResult.outcome) (by decide +kernel)

end ProofPlatform.Operator
