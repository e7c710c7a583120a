import ProofPlatform.AgentStore.SealedTraces
import ProofPlatform.Kernel.SerializedText
import ProofPlatform.Operator.System

/-! A run passes from the agent store to the governed operator, which shares its tables. The agent store writes
serialized text; the operator's exact loaders accept canonical text. -/
namespace ProofPlatform.Handover
open Kernel Library Fallible Transaction Tx
open Trace AgentRows
open Operator hiding loadAgentRunExact loadAgentStepExact loadCheckpointIdentityExact
  loadLatestCheckpointIdentity checkpointDigestAt registerNewRun registerGovernedRun appendCurrentProjection
  advanceControl claimRunLease checkReserveReplay openReservation reserveNew reserveInTransaction reserveAggregateBudget
  select statement execute

/-- The agent store's rows and the operator's tables, whose own agent tables are not used. -/
structure SharedTables where
  agent : AgentTables
  operator : Database

/-- What the stores are opened with: the operator's context, and records as text and back. -/
structure WireContext where
  operator : OperatorStoreContext
  texts : TextFormats
  readers : Readers
  literals : StringLiterals
  floats : FloatText
  serializedFloat : Rat → List Char

abbrev SharedM := Tx Answer SharedTables OperatorStoreError

variable {α : Type} {row : RunRow}

def onOperator (m : StoreM α) : SharedM α :=
  within SharedTables.operator (fun s operator => { s with operator }) m

/-- Read the agent tables. -/
def selectRow (query : AgentTables → α) : SharedM α := do
  onOperator Operator.statement
  pure (query (← current).agent)

variable (K : WireContext)

/-! ### Exact loaders -/

/-- The text of a JSON column. -/
def columnText (column : Json) : String :=
  String.ofList (column.serialize K.serializedFloat K.literals.quote)

/-- The text that the operator writes for a record. -/
def canonicalText (record : Json) : Except OperatorStoreError String := do
  let text ← (canonicalize K.floats K.literals.quote record).mapError fun _ => .corrupt
  pure text.text

variable (reader : Json → Option α) (column : Json)

/-- Read a column whose objects have distinct keys. -/
def decode : Except OperatorStoreError α := do
  reject (!column.distinctKeys) .corrupt
  orReject (reader column) .corrupt

/-- The record of a JSON column, if the other columns repeat it and the text is its canonical one. -/
def exactRecord (encode : α → Json) (column : Json) (repeated : α → Bool) : Except OperatorStoreError α := do
  let record ← decode reader column
  let text ← canonicalText K (encode record)
  reject (!repeated record || columnText K column != text) .corrupt
  pure record

def exactRun (row : RunRow) : Except OperatorStoreError AgentRun :=
  exactRecord K K.readers.run (runJson K.texts) row.runJson fun run =>
    safeOnWire row.revision && decide (row = { runRow K.texts run with runJson := row.runJson })

def loadAgentRunExact (runId : Uuid) : SharedM AgentRun := do
  let row ← lift (orReject (← selectRow fun t => t.run? runId) .notFound)
  lift (exactRun K row)

def exactStep (row : StepRow) : Except OperatorStoreError AgentRunStep :=
  exactRecord K K.readers.step (stepJson K.texts) row.stepJson fun step =>
    allSafe [row.ordinal, row.attempt, row.revision] &&
      decide (row = { stepRow K.texts step with stepJson := row.stepJson })

def loadAgentStepExact (stepId : Uuid) : SharedM AgentRunStep := do
  let row ← lift (orReject (← selectRow fun t => t.step? stepId) .notFound)
  lift (exactStep K row)

def exactCheckpoint (checkpointId runId : Uuid) (row : CheckpointRow) : Except OperatorStoreError AgentCheckpoint :=
  exactRecord K K.readers.checkpoint (checkpointJson K.texts) row.checkpointJson fun checkpoint =>
    safeOnWire row.sequence && checkpoint.id == checkpointId && checkpoint.runId == runId &&
      decide (row = { checkpointRow K.texts checkpoint with checkpointJson := row.checkpointJson })

def loadCheckpointIdentityExact (checkpointId runId : Uuid) : SharedM CheckpointIdentity := do
  let row ← lift (orReject (← selectRow fun t => t.checkpoint? checkpointId) .corrupt)
  let checkpoint ← lift (exactCheckpoint K checkpointId runId row)
  pure ⟨checkpoint.id, checkpoint.sequence, checkpoint.stateDigest⟩

def loadLatestCheckpointIdentity (runId : Uuid) : SharedM CheckpointIdentity := do
  let row ← lift (orReject (← selectRow fun t => t.currentCheckpoint runId) .corrupt)
  let checkpointId ← onOperator (uuidColumn row.id)
  loadCheckpointIdentityExact K checkpointId runId

/-! ### Registration -/

/-- The guards of the agent store see the run as governed. -/
def withGoverned (t : AgentTables) (runId : Uuid) : AgentTables := { t with governedRuns := t.governedRuns ++ [runId] }

/-- The state digest of the named checkpoint of a run, as its column has it. -/
def checkpointDigestAt (t : AgentTables) (id runId : Uuid) (sequence : Nat) : Option ContentDigest :=
  (t.checkpoints.find? fun row => decide (row.id = id ∧ row.runId = runId ∧ row.sequence = sequence)).map
    CheckpointRow.stateDigest

/-- The run is decoded; its columns and its text are not compared. -/
def registerNewRun (request : RegisterGovernedRunRequest) : SharedM RegisterGovernedRunResult := do
  let initial := request.initialProjection
  let row ← lift (orReject (← selectRow fun t => t.run? request.runId) .notFound)
  let run ← lift (decode K.readers.run row.runJson)
  let digest ← lift (orReject (← selectRow fun t =>
    checkpointDigestAt t initial.checkpointId request.runId initial.checkpointSequence) .notFound)
  let result ← onOperator (registerRecorded K.operator request run digest)
  -- the control record is in the table that the guards of the agent store read
  let s ← current
  store { s with agent := withGoverned s.agent request.runId }
  pure result

def registerGovernedRun (request : RegisterGovernedRunRequest) : SharedM RegisterGovernedRunResult := do
  lift (reject (!request.wellFormed) .invalid)
  atomically do
    onOperator Operator.statement
    match ← onOperator (Operator.select fun db => registeredRun db request.runId) with
    | some (control, projection) => onOperator (repeatRegistration request control projection)
    | none => registerNewRun K request

/-! ### Lease and reservation -/

variable (control : RunControl) (fenceEpoch : Nat) (now : Instant)

/-- The projection reads the run's JSON and its last checkpoint's columns, neither exactly. -/
def appendCurrentProjection : SharedM RunProjection := do
  let next ← onOperator (nextProjection K.operator control fenceEpoch now)
  let row ← lift (orReject (← selectRow fun t => t.run? control.runId) .unavailable)
  let run ← lift (decode K.readers.run row.runJson)
  lift (reject (run.id != control.runId) .corrupt)
  let checkpoint ← lift (orReject (← selectRow fun t => t.currentCheckpoint control.runId) .corrupt)
  let checkpointId ← onOperator (uuidColumn checkpoint.id)
  lift (reject (!safeOnWire checkpoint.sequence) .corrupt)
  onOperator (projectRun K.operator control next run ⟨checkpointId, checkpoint.sequence, checkpoint.stateDigest⟩)

def advanceControl : SharedM RunControl := do
  let next ← lift (bumpControl K.operator control now)
  onOperator (updateRunControl K.operator next)
  let _ ← appendCurrentProjection K next fenceEpoch now
  pure next

def claimRunLease (request : LeaseClaimRequest) : SharedM LeaseMutationResult := do
  lift (reject (!request.wellFormed) .invalid)
  atomically do
    let (control, lease, now) ← onOperator (openLease K.operator request)
    let control ← advanceControl K control lease.fenceEpoch now
    onOperator (reportLease K.operator lease .leaseAcquired .acquired now control)

variable (request : BudgetReserveRequest)

def checkReserveReplay (control : RunControl) (run : AgentRun) (checkpoint : CheckpointIdentity) : SharedM Unit :=
  match request.replay with
  | none => pure ()
  | some replay => do
    let step ← loadAgentStepExact K replay.stepId
    lift (reject (!request.namesStep control replay run checkpoint step) .invalid)

def openReservation (control : RunControl) (lease : RunLease)
    (budget : BudgetAccount) (now : Instant) : SharedM ReserveStep := do
  let (reservation, budget) ← onOperator (placeReservation K.operator request control lease budget now)
  let control ← advanceControl K control lease.fenceEpoch now
  onOperator (reportReserved K.operator control lease reservation budget now)

def reserveNew (control : RunControl) (lease : RunLease) (now : Instant) : SharedM ReserveStep := do
  let C := K.operator
  let opened ← onOperator (Operator.select fun db => openReservations db control.runId)
  if opened != 0 || control.activeDispatchReservationId.isSome then
    onOperator (rejectReserve C request control lease now .conflict)
  else
    let run ← loadAgentRunExact K control.runId
    lift (reject (run.status != .running) .notActionable)
    let projection ← onOperator (loadRow (fun db => latestProjection db control.runId) .unavailable
      (RunProjection.validate C.hashes))
    lift (reject (!projection.currentFor run control lease) .corrupt)
    let checkpoint ← loadLatestCheckpointIdentity K control.runId
    lift (reject (checkpoint != projection.checkpoint) .corrupt)
    checkReserveReplay K request control run checkpoint
    onOperator (checkReserveRecovery C request control run)
    let budget ← onOperator (loadBudget C control.budgetId)
    match budget.canReserve C.hashes request.intent.ceiling now with
    | .error _ => onOperator (rejectReserve C request control lease now .notActionable)
    | .ok _ => openReservation K request control lease budget now

def reserveInTransaction : SharedM ReserveStep := do
  onOperator Operator.statement
  let now ← onOperator operatorNow
  let (control, lease) ← onOperator (validateAuthority K.operator request.authority now)
  match ← onOperator (Operator.select fun db => db.reservations.find? fun row =>
      decide (row.budgetId = control.budgetId ∧ row.idempotencyKey = request.idempotencyKey)) with
  | some reservation => onOperator (repeatReserve K.operator request control reservation)
  | none => reserveNew K request control lease now

def reserveAggregateBudget : SharedM BudgetReserveResult := do
  lift (reject (!request.wellFormed K.operator) .invalid)
  let step ← atomically (reserveInTransaction K request)
  onOperator (answerReserve K.operator step)

/-! ### What the loaders make of the agent store's rows -/

/-- Every JSON column is the serialized form of a record. -/
structure Recorded (T : TextFormats) (t : AgentTables) : Prop where
  runs : ∀ row ∈ t.runs, ∃ run, row.runJson = runJson T run
  steps : ∀ row ∈ t.steps, ∃ step, row.stepJson = stepJson T step
  checkpoints : ∀ row ∈ t.checkpoints, ∃ checkpoint, row.checkpointJson = checkpointJson T checkpoint

section Recorded
variable {T : TextFormats} {t t' : AgentTables}

theorem forall_upsertRun {p : RunRow → Prop} (h : ∀ stored ∈ t.runs, p stored)
    (hrow : ∀ createdAt, p { row with createdAt }) : ∀ stored ∈ (t.upsertRun row).runs, p stored := by
  unfold AgentTables.upsertRun
  split
  · intro stored hstored
    obtain ⟨old, hold, rfl⟩ := List.mem_map.mp hstored
    split
    · exact hrow old.createdAt
    · exact h old hold
  · exact forall_mem_concat h (hrow row.createdAt)

theorem forall_upsertStep {p : Json → Prop} {row : StepRow} (h : ∀ stored ∈ t.steps, p stored.stepJson)
    (hrow : p row.stepJson) : ∀ stored ∈ (t.upsertStep row).steps, p stored.stepJson := by
  unfold AgentTables.upsertStep
  split
  · intro stored hstored
    obtain ⟨old, hold, rfl⟩ := List.mem_map.mp hstored
    split
    · exact hrow
    · exact h old hold
  · exact forall_mem_concat h hrow

theorem Recorded.change (h : Recorded T t) (hchange : Change T t t') : Recorded T t' := by
  cases hchange with
  | none | definition | evaluation | event | request | decision | execution => exact ⟨h.runs, h.steps, h.checkpoints⟩
  | run row hrecord hopen =>
    rw [upsertRun_frame]
    exact { h with runs := forall_upsertRun h.runs fun _ => hrecord }
  | step row hrecord hopen hbinding hconstraint =>
    rw [upsertStep_frame]
    exact { h with steps := forall_upsertStep (p := fun json => ∃ step, json = stepJson T step) h.steps hrecord }
  | checkpoint row hrecord hopen hconstraint =>
    exact { h with checkpoints := forall_mem_concat h.checkpoints hrecord }
  | liveStart run checkpoint event claim hrun hrecord =>
    exact { h with
      runs := forall_mem_concat h.runs hrun
      checkpoints := forall_mem_concat h.checkpoints hrecord }

/-- The tables before the first write; principals are registered elsewhere. -/
def provisioned (principals : List PrincipalId) : AgentTables := { AgentTables.empty with principals }

theorem recorded_after (P : Primitives) (R : Readers) (parseInstant : String → Option Instant)
    (principals : List PrincipalId) (calls : List WriteCall) :
    Recorded T ((provisioned principals).after P T R parseInstant calls) := by
  refine after_induction (fun t t' hchange h => h.change hchange) ⟨?_, ?_, ?_⟩ calls <;>
  · intro row hrow
    cases hrow

end Recorded

section Exact
variable {K}

theorem decode_failsWith : FailsWith (decode reader column) (· = .corrupt) :=
  failsWith_bind (failsWith_reject rfl) fun _ => failsWith_orReject rfl

theorem canonicalText_failsWith (record : Json) : FailsWith (canonicalText K record) (· = .corrupt) := by
  refine failsWith_bind ?_ fun _ => failsWith_ok _
  cases canonicalize K.floats K.literals.quote record with
  | error why => rintro e ⟨⟩; rfl
  | ok text => exact failsWith_ok text

/-- A column that no record has as its canonical text is corrupt, whatever the reader makes of it. -/
theorem exactRecord_corrupt {reader : Json → Option α} {encode : α → Json} {column : Json} {repeated : α → Bool}
    (h : ∀ record text, canonicalText K (encode record) = .ok text → columnText K column ≠ text) :
    exactRecord K reader encode column repeated = .error .corrupt := by
  unfold exactRecord
  cases hdecode : decode reader column with
  | error e =>
    obtain rfl := decode_failsWith reader column _ hdecode
    rfl
  | ok record =>
    cases htext : canonicalText K (encode record) with
    | error e =>
      obtain rfl := canonicalText_failsWith (encode record) _ htext
      simp only [bind, Except.bind, htext]
    | ok text =>
      have hne : (columnText K column != text) = true := bne_iff_ne.mpr (h record text htext)
      simp only [bind, Except.bind, htext, hne, Bool.or_true, reject, if_true]

/-- The text of a record that begins with `key` is no canonical text of a record with a smaller key. -/
theorem columnText_ne (least : String) {key : String} {value : Json} {rest members : List (String × Json)}
    {text : String} (hlt : least < key) (hleast : least ∈ members.map Prod.fst)
    (h : canonicalText K (.object members) = .ok text) : columnText K (.object ((key, value) :: rest)) ≠ text := by
  simp only [canonicalText, bind_eq_ok, mapError_eq_ok] at h
  obtain ⟨canonical, hcanonical, htext⟩ := h
  obtain rfl := Except.ok.inj htext
  exact serialize_ne_canonical K.literals hlt hleast hcanonical

theorem exactRun_corrupt {run : AgentRun} (h : row.runJson = runJson K.texts run) :
    exactRun K row = .error .corrupt := by
  refine exactRecord_corrupt fun record text htext => ?_
  rw [h]
  exact columnText_ne "actor" (by decide) (by simp) htext

theorem exactStep_corrupt {row : StepRow} {step : AgentRunStep} (h : row.stepJson = stepJson K.texts step) :
    exactStep K row = .error .corrupt := by
  refine exactRecord_corrupt fun record text htext => ?_
  rw [h]
  exact columnText_ne "attempt" (by decide) (by simp) htext

theorem exactCheckpoint_corrupt {row : CheckpointRow} {checkpoint : AgentCheckpoint} (checkpointId runId : Uuid)
    (h : row.checkpointJson = checkpointJson K.texts checkpoint) :
    exactCheckpoint K checkpointId runId row = .error .corrupt := by
  refine exactRecord_corrupt fun record text htext => ?_
  rw [h]
  exact columnText_ne "created_at" (by decide) (by simp) htext

end Exact

section Runs
variable {K} {α β : Type} {o : Nat → Answer} {s s' : SharedTables} {n n' : Nat} {b : β} {e : OperatorStoreError}
variable {f : α → SharedM β}

theorem returns_onOperator_bind {m : StoreM α} :
    Returns (onOperator m >>= f) o s n b s' n' ↔ ∃ a operator n₁, Returns m o s.operator n a operator n₁ ∧
      Returns (f a) o { s with operator } n₁ b s' n' := by
  simp only [onOperator, returns_bind, returns_within]
  constructor
  · rintro ⟨a, s₁, n₁, ⟨operator, hm, rfl⟩, hf⟩
    exact ⟨a, operator, n₁, hm, hf⟩
  · rintro ⟨a, operator, n₁, hm, hf⟩
    exact ⟨a, _, n₁, ⟨operator, hm, rfl⟩, hf⟩

theorem fails_onOperator_bind {m : StoreM α} {a : α} {n₁ : Nat}
    (hm : Returns m o s.operator n a s.operator n₁) (hf : Fails (f a) e o s n₁) :
    Fails (onOperator m >>= f) e o s n :=
  fails_bind_of_returns (returns_within.mpr ⟨_, hm, rfl⟩) hf

variable {query : AgentTables → α}

theorem returns_selectRow_bind :
    Returns (selectRow query >>= f) o s n b s' n' ↔
      (o n).works = true ∧ Returns (f (query s.agent)) o s (n + 1) b s' n' := by
  simp only [selectRow, bind_assoc, returns_onOperator_bind, Operator.statement, returns_statementOr]
  constructor
  · rintro ⟨_, operator, n₁, ⟨hw, rfl, rfl⟩, h⟩
    exact ⟨hw, h⟩
  · rintro ⟨hw, h⟩
    exact ⟨(), s.operator, n + 1, ⟨hw, rfl, rfl⟩, h⟩

theorem fails_selectRow_bind (hw : (o n).works = true)
    (hf : Fails (f (query s.agent)) e o s (n + 1)) : Fails (selectRow query >>= f) e o s n := by
  rw [selectRow, bind_assoc]
  exact fails_onOperator_bind (a := ()) (returns_statementOr.mpr ⟨hw, rfl, rfl⟩) hf

variable {request : RegisterGovernedRunRequest} {result : RegisterGovernedRunResult}

theorem registerNewRun_spec (h : Returns (registerNewRun K request) o s n result s' n') :
    (∃ row, s.agent.run? request.runId = some row) ∧ s'.agent = withGoverned s.agent request.runId := by
  simp only [registerNewRun, returns_selectRow_bind, returns_lift_bind, returns_onOperator_bind, orReject_eq_ok] at h
  obtain ⟨-, row, hrow, run, -, -, digest, -, registered, operator, _, -, h⟩ := h
  simp only [returns_bind, returns_current, returns_store, returns_pure] at h
  obtain ⟨_, _, _, ⟨rfl, rfl, rfl⟩, _, _, _, ⟨rfl, rfl⟩, -, rfl, -⟩ := h
  exact ⟨⟨row, hrow⟩, rfl⟩

theorem registerGovernedRun_spec
    (h : Returns (registerGovernedRun K request) o s n result s' n') (hcreated : result.outcome = .created) :
    (∃ row, s.agent.run? request.runId = some row) ∧ s'.agent = withGoverned s.agent request.runId := by
  simp only [registerGovernedRun, returns_lift_bind, returns_atomically, returns_onOperator_bind, Operator.statement,
    returns_statementOr, Operator.select, returns_selectOr] at h
  obtain ⟨-, -, _, operator, _, ⟨-, rfl, rfl⟩, registered, _, _, ⟨-, -, rfl, rfl⟩, h⟩ := h
  split at h
  · obtain ⟨operator, h, -⟩ := returns_within.mp h
    simp only [repeatRegistration, returns_failIf_bind, returns_statement_bind, returns_pure] at h
    obtain ⟨-, -, rfl, -⟩ := h
    cases hcreated
  · exact registerNewRun_spec h

theorem fails_loadAgentRunExact {runId : Uuid} (hw : (o n).works = true)
    (hrow : s.agent.run? runId = some row) (h : exactRun K row = .error e) :
    Fails (loadAgentRunExact K runId) e o s n := by
  refine fails_selectRow_bind hw ?_
  rw [hrow]
  exact h

theorem fails_loadAgentStepExact {stepId : Uuid} {row : StepRow} (hw : (o n).works = true)
    (hrow : s.agent.step? stepId = some row) (h : exactStep K row = .error e) :
    Fails (loadAgentStepExact K stepId) e o s n := by
  refine fails_selectRow_bind hw ?_
  rw [hrow]
  exact h

theorem fails_loadCheckpointIdentityExact (checkpointId runId : Uuid) (hw : (o n).works = true)
    (h : Recorded K.texts s.agent) : Fails (loadCheckpointIdentityExact K checkpointId runId) .corrupt o s n := by
  refine fails_selectRow_bind hw ?_
  cases hrow : s.agent.checkpoint? checkpointId with
  | none => exact fails_bind _ rfl
  | some row =>
    obtain ⟨checkpoint, hrecord⟩ := h.checkpoints row (Table.lookup_eq_some hrow).1
    exact fails_bind_of_returns (a := row) rfl (fails_bind _ (exactCheckpoint_corrupt checkpointId runId hrecord))

/-- A reservation that its authority, its key and the open reservations let through is answered by the run's row. -/
theorem fails_reserveAggregateBudget {request : BudgetReserveRequest} {now : Instant} {control : RunControl}
    {lease : RunLease} {n₁ : Nat} (hworks : ∀ i, (o i).works = true)
    (hrequest : request.wellFormed K.operator = true) (hnow : (o (n + 1)).now = some now)
    (hauthority : Returns (validateAuthority K.operator request.authority now) o s.operator (n + 2) (control, lease)
      s.operator n₁)
    (hkey : ∀ reservation ∈ s.operator.reservations,
      ¬ (reservation.budgetId = control.budgetId ∧ reservation.idempotencyKey = request.idempotencyKey))
    (hopen : openReservations s.operator control.runId = 0) (hidle : control.activeDispatchReservationId = none)
    (hrow : s.agent.run? control.runId = some row) (h : exactRun K row = .error e) :
    Fails (reserveAggregateBudget K request) e o s n := by
  have hreserve : Fails (reserveNew K request control lease now) e o s (n₁ + 1) := by
    refine fails_onOperator_bind (returns_selectOr.mpr ⟨hworks _, rfl, rfl, rfl⟩) ?_
    rw [hopen, hidle]
    exact fails_bind _ (fails_loadAgentRunExact (hworks _) hrow h)
  have htransaction : Fails (reserveInTransaction K request) e o s n := by
    refine fails_onOperator_bind (a := ()) (returns_statementOr.mpr ⟨hworks _, rfl, rfl⟩) ?_
    refine fails_onOperator_bind (returns_operatorNow.mpr ⟨hnow, rfl, rfl⟩) ?_
    refine fails_onOperator_bind hauthority ?_
    refine fails_onOperator_bind (returns_selectOr.mpr ⟨hworks _, rfl, rfl, rfl⟩) ?_
    rw [List.find?_eq_none.mpr fun reservation hmem => by simpa using hkey reservation hmem]
    exact hreserve
  refine fails_bind_of_returns (a := ()) (returns_lift.mpr ⟨?_, rfl, rfl⟩)
    (fails_bind _ (fails_atomically htransaction))
  rw [hrequest]
  rfl

end Runs

/-- No run of the agent store can be governed: whatever was written before, and whatever the operator's tables hold
after a registration that answered created, the exact loaders answer corrupt for the run, its steps and every
checkpoint, and so does every reservation that gets as far as the run. -/
theorem registered_run_ungovernable (P : Primitives) (parseInstant : String → Option Instant)
    (principals : List PrincipalId) (calls : List WriteCall) (db : Database) (request : RegisterGovernedRunRequest)
    (o : Nat → Answer) (n n' : Nat) (result : RegisterGovernedRunResult) (s' : SharedTables)
    (h : Returns (registerGovernedRun K request) o
      ⟨(provisioned principals).after P K.texts K.readers parseInstant calls, db⟩ n result s' n')
    (hcreated : result.outcome = .created) (db' : Database) (o' : Nat → Answer) (m : Nat)
    (hworks : ∀ i, (o' i).works = true) :
    Fails (loadAgentRunExact K request.runId) .corrupt o' ⟨s'.agent, db'⟩ m ∧
    (∀ step ∈ s'.agent.steps, Fails (loadAgentStepExact K step.id) .corrupt o' ⟨s'.agent, db'⟩ m) ∧
    (∀ checkpointId, Fails (loadCheckpointIdentityExact K checkpointId request.runId) .corrupt o' ⟨s'.agent, db'⟩ m) ∧
    ∀ (reserve : BudgetReserveRequest) (now : Instant) (control : RunControl) (lease : RunLease) (m' : Nat),
      reserve.wellFormed K.operator = true → (o' (m + 1)).now = some now →
      Returns (validateAuthority K.operator reserve.authority now) o' db' (m + 2) (control, lease) db' m' →
      control.runId = request.runId →
      (∀ reservation ∈ db'.reservations,
        ¬ (reservation.budgetId = control.budgetId ∧ reservation.idempotencyKey = reserve.idempotencyKey)) →
      openReservations db' control.runId = 0 → control.activeDispatchReservationId = none →
      Fails (reserveAggregateBudget K reserve) .corrupt o' ⟨s'.agent, db'⟩ m := by
  obtain ⟨⟨row, hrow⟩, hagent⟩ := registerGovernedRun_spec h hcreated
  have hrecorded := recorded_after (T := K.texts) P K.readers parseInstant principals calls
  obtain ⟨run, hrun⟩ := hrecorded.runs row (Table.lookup_eq_some hrow).1
  have hcorrupt := exactRun_corrupt hrun
  rw [hagent]
  refine ⟨fails_loadAgentRunExact (hworks _) hrow hcorrupt, fun step hstep => ?_, fun checkpointId => ?_, ?_⟩
  · have hstored : Table.lookup StepRow.id (withGoverned _ request.runId).steps step.id ≠ none :=
      fun hnone => Table.lookup_eq_none.mp hnone step hstep rfl
    obtain ⟨found, hfound⟩ := Option.ne_none_iff_exists'.mp hstored
    obtain ⟨record, hrecord⟩ := hrecorded.steps found (Table.lookup_eq_some hfound).1
    exact fails_loadAgentStepExact (hworks _) hfound (exactStep_corrupt hrecord)
  · exact fails_loadCheckpointIdentityExact checkpointId _ (hworks _) ⟨hrecorded.runs, hrecorded.steps,
      hrecorded.checkpoints⟩
  · intro reserve now control lease m' hrequest hnow hauthority hrunId hkey hopen hidle
    exact fails_reserveAggregateBudget hworks hrequest hnow hauthority hkey hopen hidle (hrunId ▸ hrow) hcorrupt

section Fixtures
open AgentStore (nullDigest nullPrimitives epochTexts)

def handedRun : AgentRun := sampleRun 1

def handedCheckpoint : AgentCheckpoint := { sampleCheckpoint 1 with stateDigest := nullDigest }

/-- A reader takes the members of a record in any order; the ones below are serialized or sorted. -/
def readsAs (json record : Json) : Bool := decide (json = record ∨ json = record.sorted)

def handoverContext : WireContext where
  operator := sampleContext
  texts := epochTexts
  readers :=
    { run := fun json => [handedRun, { handedRun with status := .queued, revision := 0 }].find? fun run =>
        readsAs json (runJson epochTexts run)
      step := fun _ => none
      checkpoint := fun json => [handedCheckpoint].find? fun checkpoint =>
        readsAs json (checkpointJson epochTexts checkpoint)
      event := fun _ => none
      claim := fun _ => none }
  literals := jsonLiterals
  floats := noFloats
  serializedFloat _ := []

/-- The run is saved as it is queued and as it runs, and so is its first checkpoint. -/
def handoverWrites : List WriteCall :=
  [.run { handedRun with status := .queued, revision := 0 }, .run handedRun, .checkpoint handedCheckpoint].map working

def handoverTables : AgentTables :=
  (provisioned [⟨.v7 8⟩]).after nullPrimitives epochTexts handoverContext.readers (fun _ => none) handoverWrites

def handoverRequest : RegisterGovernedRunRequest :=
  { registerRun 1 with initialProjection := { (registerRun 1).initialProjection with checkpointDigest := nullDigest } }

def handoverRegistered (agent : AgentTables) : Outcome SharedTables OperatorStoreError RegisterGovernedRunResult :=
  registerGovernedRun handoverContext handoverRequest (sampleAnswers 1) ⟨agent, sampleStore⟩ 0

def handoverClaimed (agent : AgentTables) : Outcome SharedTables OperatorStoreError LeaseMutationResult :=
  claimRunLease handoverContext (claimLease 1 1 0 7) (sampleAnswers 2) (handoverRegistered agent).state 0

def handoverReserved (agent : AgentTables) : Except OperatorStoreError BudgetReserveResult :=
  (reserveAggregateBudget handoverContext (reserveEcho 1 1 1 7) (sampleAnswers 3)
    (handoverClaimed agent).state 0).result

end Fixtures

/-- A running run is registered and leased, and its first reservation is answered corrupt. -/
theorem leased_run_reservation_corrupt :
    (handoverRegistered handoverTables).result.toOption.map RegisterGovernedRunResult.outcome = some .created ∧
    (handoverClaimed handoverTables).result.toOption.map LeaseMutationResult.outcome = some .acquired ∧
    handoverReserved handoverTables = .error .corrupt := by
  decide +kernel

/-- The registered run of that history: its row and its reservation, under the lease it was given. -/
theorem registered_run_ungovernable_leased :
    let db' := (handoverClaimed handoverTables).state.operator
    ∃ result s' n', Returns (registerGovernedRun handoverContext handoverRequest) (sampleAnswers 1)
      ⟨handoverTables, sampleStore⟩ 0 result s' n' ∧ result.outcome = .created ∧
      Fails (loadAgentRunExact handoverContext handoverRequest.runId) .corrupt (sampleAnswers 3) ⟨s'.agent, db'⟩ 0 ∧
      Fails (reserveAggregateBudget handoverContext (reserveEcho 1 1 1 7)) .corrupt
        (sampleAnswers 3) ⟨s'.agent, db'⟩ 0 := by
  intro db'
  obtain ⟨result, hresult, hcreated⟩ := exists_ok_of_toOption (x := (handoverRegistered handoverTables).result)
    (f := RegisterGovernedRunResult.outcome) (d := .created) (by decide +kernel)
  have hregister : Returns (registerGovernedRun handoverContext handoverRequest) (sampleAnswers 1)
      ⟨handoverTables, sampleStore⟩ 0 result (handoverRegistered handoverTables).state
      (handoverRegistered handoverTables).tick := returns_of_result hresult
  obtain ⟨⟨control, lease⟩, hauthority, hfacts⟩ := exists_ok_of_toOption
    (x := (validateAuthority sampleContext (holdLease 1 1 1 7) 3 (sampleAnswers 3) db' 2).result)
    (f := fun records => (records.1.runId, records.1.activeDispatchReservationId)) (d := (runUuid 1 1, none))
    (by decide +kernel)
  have hreturns := returns_of_result hauthority
  obtain ⟨-, -, hsame⟩ := validateAuthority_spec hreturns
  rw [← hsame] at hreturns
  obtain ⟨hrun, hidle⟩ := Prod.mk.inj hfacts
  obtain ⟨hload, -, -, hreserve⟩ := registered_run_ungovernable handoverContext AgentStore.nullPrimitives
    (fun _ => none)
    [⟨.v7 8⟩] handoverWrites sampleStore handoverRequest (sampleAnswers 1) 0 _ result _ hregister hcreated db'
    (sampleAnswers 3) 0 (fun _ => rfl)
  have hempty : db'.reservations = [] := by decide +kernel
  refine ⟨result, _, _, hregister, hcreated, hload, hreserve _ 3 control lease _ (by decide +kernel) rfl hreturns
    hrun ?_ ?_ hidle⟩
  · simp [hempty]
  · simp [openReservations, hempty]

/-- The same rows with their JSON columns rewritten to canonical text are reserved for. -/
example : (handoverReserved { handoverTables with
    runs := handoverTables.runs.map fun row => { row with runJson := row.runJson.sorted }
    checkpoints := handoverTables.checkpoints.map fun row => { row with checkpointJson := row.checkpointJson.sorted }
    }).toOption.map BudgetReserveResult.outcome = some .reserved := by
  decide +kernel

end ProofPlatform.Handover
