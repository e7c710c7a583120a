import ProofPlatform.Executor.ReplayStore
import ProofPlatform.Library.Transaction
import ProofPlatform.Operator.Audit

/-! The operator tables of `SqliteStore` and the statements its transactions are made of. A row holds the values its
columns encode. -/
namespace ProofPlatform.Operator
open Kernel Executor Library Fallible Transaction Tx Table

inductive OperatorStoreError where
  | conflict
  | corrupt
  | invalid
  | notActionable
  | notFound
  | signerFailed
  | staleFence
  | staleRevision
  | unavailable
  deriving DecidableEq

/-- The tail of a run's checkpoints: identifier, sequence and state digest. -/
structure CheckpointIdentity where
  id : Uuid
  sequence : Nat
  digest : ContentDigest
  deriving DecidableEq

structure AuditHead where
  workspaceId : Uuid
  lastSequence : Nat
  lastDigest : Option ControlDigest

structure ReplayBindingRow where
  binding : ReplayClaimBinding
  originReservationId : Uuid
  createdAt : Instant

/-- The append-only record of what happened: run projections and the audit chain. -/
structure Journal where
  projections : List RunProjection
  auditHeads : List AuditHead
  auditEvents : List AuditEvent

def Journal.projected (journal : Journal) (projection : RunProjection) : Journal :=
  { journal with projections := journal.projections ++ [projection] }

/-- An event is appended; only heads change besides. -/
def Journal.audited (journal : Journal) (auditHeads : List AuditHead) (event : AuditEvent) : Journal :=
  { journal with auditHeads, auditEvents := journal.auditEvents ++ [event] }

structure Database where
  workspaces : List OperatorWorkspace
  principals : List Principal
  agentRuns : List AgentRun
  agentSteps : List AgentRunStep
  checkpoints : List AgentCheckpoint
  runEvents : List AgentRunEvent
  evaluations : List AgentRunEvaluation
  approvalRequests : List SignedApprovalRequest
  approvalDecisions : List SignedApprovalDecision
  approvalBindings : List ApprovalBinding
  replayTables : SqliteReplayTables
  replayBindings : List ReplayBindingRow
  controls : List RunControl
  leases : List RunLease
  budgets : List BudgetAccount
  reservations : List BudgetReservation
  directives : List RecoveryDirective
  commands : List CommandEnvelope
  receipts : List CommandReceipt
  journal : Journal

abbrev Database.reservation? (db : Database) (reservationId : Uuid) : Option BudgetReservation :=
  lookup BudgetReservation.reservationId db.reservations reservationId

/-- The tables as the migrations create them. -/
def Database.empty : Database :=
  ⟨[], [], [], [], [], [], [], [], [], [], ⟨[], [], []⟩, [], [], [], [], [], [], [], [], ⟨[], [], []⟩⟩

/-- The catalog of operation schemas; validation against a schema is a linked library's. -/
structure SchemaCatalog where
  entries : List (String × String)
  validateInput : String → String → Json → Bool
  validateOutput : String → String → Json → Bool

/-- What a store is opened with, beside its tables and the environment it asks. -/
structure OperatorStoreContext where
  primitives : Primitives
  hashes : ControlHashes
  catalog : SchemaCatalog
  parseJson : String → Option Json

/-- What the surroundings answer: the time, a fresh identifier, and whether the engine works. -/
structure Answer where
  now : Option Instant
  uuid : Option Uuid
  works : Bool

abbrev StoreM := Tx Answer Database OperatorStoreError

/-- One statement sent to the engine; `e` reports that it was not carried out. -/
def statementOr (e : OperatorStoreError) : StoreM Unit :=
  ask (fun answer => if answer.works then some () else none) e

/-- `BEGIN`, `COMMIT` and savepoint statements count. -/
def statement : StoreM Unit := statementOr .unavailable

variable {α : Type} {bad : Bool}

variable (e : OperatorStoreError) (query : Database → α)

def selectOr : StoreM α := do
  statementOr e
  pure (query (← current))

def select : StoreM α := selectOr .unavailable query

/-- A statement that writes; a violated constraint or a wrong row count is its error. -/
def execute (update : Database → Except OperatorStoreError Database) : StoreM Unit := do
  statement
  store (← lift (update (← current)))

variable (rows : Database → List α) (put : Database → List α → Database) (clash : α → Bool) (row : α)

/-- Append a row to a table, unless it clashes with a row that is there. -/
def insertInto : StoreM Unit :=
  execute fun db => if (rows db).any clash then .error .unavailable else .ok (put db (rows db ++ [row]))

/-- Replace one row of a table; a count other than one is the error. -/
def updateIn (p : α → Bool) (row : α) (e : OperatorStoreError) : StoreM Unit :=
  execute fun db => match replaceOne p row (rows db) with
    | some rows' => .ok (put db rows')
    | none => .error e

def operatorNow : StoreM Instant := ask Answer.now .unavailable

def operatorUuid : StoreM Uuid := ask Answer.uuid .unavailable

/-- Reject the request. -/
def invalidIf (condition : Bool) : StoreM Unit := lift (reject condition .invalid)

def failIf (condition : Bool) (e : OperatorStoreError) : StoreM Unit := lift (reject condition e)

def orFail (value : Option α) (e : OperatorStoreError) : StoreM α := lift (orReject value e)

@[simp] theorem orFail_some (a : α) (e : OperatorStoreError) : orFail (some a) e = pure a := rfl

/-- The value of a check whose own error is not reported. -/
def orElse {α ε : Type} (value : Except ε α) (e : OperatorStoreError) : StoreM α := lift (value.mapError fun _ => e)

/-- An identifier read back from a text column. -/
def uuidColumn (id : Uuid) : StoreM Uuid := do
  invalidIf (!uuidIsV7 id)
  pure id

section ReadOnly
variable {α : Type}

theorem readOnly_statement : ReadOnly statement := .ask _ _

theorem readOnly_selectOr : ReadOnly (selectOr e query) :=
  .bind (.ask _ _) fun _ => .bind (fun _ _ _ => rfl) fun _ => .pure _

theorem readOnly_select : ReadOnly (select query) := readOnly_selectOr _ query

end ReadOnly

section Inversion
variable {α ε : Type} {o : Nat → Answer} {s s' : Database} {n n' : Nat} {a : α} {u : Unit} {e : OperatorStoreError}
  {query : Database → α}

@[simp] theorem returns_statementOr :
    Returns (statementOr e) o s n u s' n' ↔ (o n).works = true ∧ s = s' ∧ n + 1 = n' := by
  simp [statementOr]

@[simp] theorem returns_selectOr :
    Returns (selectOr e query) o s n a s' n' ↔ (o n).works = true ∧ query s = a ∧ s = s' ∧ n + 1 = n' := by
  simp only [selectOr, returns_bind, returns_statementOr, returns_current, returns_pure]
  constructor
  · rintro ⟨-, -, -, ⟨hw, rfl, rfl⟩, -, -, -, ⟨rfl, rfl, rfl⟩, rfl, rfl, rfl⟩
    exact ⟨hw, rfl, rfl, rfl⟩
  · rintro ⟨hw, rfl, rfl, rfl⟩
    exact ⟨(), s, n + 1, ⟨hw, rfl, rfl⟩, s, s, n + 1, ⟨rfl, rfl, rfl⟩, rfl, rfl, rfl⟩

@[simp] theorem returns_execute {update : Database → Except OperatorStoreError Database} :
    Returns (execute update) o s n u s' n' ↔ (o n).works = true ∧ update s = .ok s' ∧ n + 1 = n' := by
  simp only [execute, statement, returns_bind, returns_statementOr, returns_current, returns_lift, returns_store]
  constructor
  · rintro ⟨_, _, _, ⟨hw, rfl, rfl⟩, _, _, _, ⟨rfl, rfl, rfl⟩, _, _, _, ⟨hu, rfl, rfl⟩, rfl, rfl⟩
    exact ⟨hw, hu, rfl⟩
  · rintro ⟨hw, hu, rfl⟩
    exact ⟨(), s, n + 1, ⟨hw, rfl, rfl⟩, s, s, n + 1, ⟨rfl, rfl, rfl⟩, s', s, n + 1, ⟨hu, rfl, rfl⟩, rfl, rfl⟩

variable {put : Database → List α → Database} {rows : Database → List α} {clash p : α → Bool} {row : α}

@[simp] theorem returns_insertInto : Returns (insertInto rows put clash row) o s n u s' n' ↔ (o n).works = true ∧
      (∀ r ∈ rows s, clash r = false) ∧ put s (rows s ++ [row]) = s' ∧ n + 1 = n' := by
  simp only [insertInto, returns_execute]
  by_cases h : (rows s).any clash = true
  · have hn : ¬ ∀ r ∈ rows s, clash r = false := by simpa using h
    simp [h, hn]
  · have hn : ∀ r ∈ rows s, clash r = false := by simpa using h
    rw [if_neg h]
    constructor
    · rintro ⟨hw, he, hn'⟩
      exact ⟨hw, hn, Except.ok.inj he, hn'⟩
    · rintro ⟨hw, -, he, hn'⟩
      exact ⟨hw, congrArg _ he, hn'⟩

@[simp] theorem returns_updateIn : Returns (updateIn rows put p row e) o s n u s' n' ↔ (o n).works = true ∧
      (∃ rows', replaceOne p row (rows s) = some rows' ∧ put s rows' = s') ∧ n + 1 = n' := by
  simp only [updateIn, returns_execute]
  cases replaceOne p row (rows s) <;> simp

@[simp] theorem returns_operatorNow {t : Instant} :
    Returns operatorNow o s n t s' n' ↔ (o n).now = some t ∧ s = s' ∧ n + 1 = n' := returns_ask

@[simp] theorem returns_failIf : Returns (failIf bad e) o s n u s' n' ↔ bad = false ∧ s = s' ∧ n = n' := by
  simp [failIf]

@[simp] theorem returns_invalidIf : Returns (invalidIf bad) o s n u s' n' ↔ bad = false ∧ s = s' ∧ n = n' := by
  simp [invalidIf]

@[simp] theorem returns_orFail {value : Option α} :
    Returns (orFail value e) o s n a s' n' ↔ value = some a ∧ s = s' ∧ n = n' := by
  simp [orFail]

@[simp] theorem returns_orElse {value : Except ε α} :
    Returns (orElse value e) o s n a s' n' ↔ value = .ok a ∧ s = s' ∧ n = n' := by
  cases value <;> simp [orElse]

@[simp] theorem returns_uuidColumn {id id' : Uuid} :
    Returns (uuidColumn id) o s n id' s' n' ↔ uuidIsV7 id = true ∧ id = id' ∧ s = s' ∧ n = n' := by
  simp only [uuidColumn, returns_bind, returns_invalidIf, returns_pure, Bool.not_eq_false']
  constructor
  · rintro ⟨-, -, -, ⟨hv, rfl, rfl⟩, rfl, rfl, rfl⟩
    exact ⟨hv, rfl, rfl, rfl⟩
  · rintro ⟨hv, rfl, rfl, rfl⟩
    exact ⟨(), s, n, ⟨hv, rfl, rfl⟩, rfl, rfl, rfl⟩

/-! The same steps with the rest of a program after them. -/

variable {β : Type} {f : α → StoreM β} {g : Unit → StoreM β} {b : β}

@[simp] theorem returns_statement_bind :
    Returns (statement >>= g) o s n b s' n' ↔ (o n).works = true ∧ Returns (g ()) o s (n + 1) b s' n' := by
  simp [statement, returns_bind]

/-- A transaction behind a check of the request. -/
theorem checked_cases (bad : Bool) (m : StoreM α) (f : α → StoreM β) (o : Nat → Answer) (s : Database) (n : Nat) :
    ((∃ e, ((invalidIf bad >>= fun _ => atomically m >>= f) o s n).result = .error e) ∧
        ((invalidIf bad >>= fun _ => atomically m >>= f) o s n).state = s) ∨
      ∃ a s' n', Returns m o s n a s' n' ∧ (invalidIf bad >>= fun _ => atomically m >>= f) o s n = f a o s' n' := by
  cases bad with
  | true => exact .inl ⟨⟨_, rfl⟩, rfl⟩
  | false => exact atomically_bind_cases m f o s n

theorem returns_commit {m : StoreM α} {r : α → β}
    (h : Returns (m >>= fun a => statement >>= fun _ => pure (r a)) o s n b s' n') :
    ∃ a n₁, Returns m o s n a s' n₁ ∧ r a = b := by
  obtain ⟨a, _, n₁, hm, h⟩ := returns_bind.mp h
  simp only [returns_statement_bind, returns_pure] at h
  obtain ⟨-, hr, rfl, -⟩ := h
  exact ⟨a, n₁, hm, hr⟩

@[simp] theorem returns_selectOr_bind :
    Returns (selectOr e query >>= f) o s n b s' n' ↔
      (o n).works = true ∧ Returns (f (query s)) o s (n + 1) b s' n' := by
  simp [returns_bind]

@[simp] theorem returns_select_bind :
    Returns (select query >>= f) o s n b s' n' ↔
      (o n).works = true ∧ Returns (f (query s)) o s (n + 1) b s' n' := returns_selectOr_bind

@[simp] theorem returns_operatorNow_bind {f : Instant → StoreM β} :
    Returns (operatorNow >>= f) o s n b s' n' ↔
      ∃ t, (o n).now = some t ∧ Returns (f t) o s (n + 1) b s' n' := returns_ask_bind

@[simp] theorem returns_operatorUuid_bind {f : Uuid → StoreM β} :
    Returns (operatorUuid >>= f) o s n b s' n' ↔
      ∃ id, (o n).uuid = some id ∧ Returns (f id) o s (n + 1) b s' n' := returns_ask_bind

@[simp] theorem returns_failIf_bind :
    Returns (failIf bad e >>= g) o s n b s' n' ↔ bad = false ∧ Returns (g ()) o s n b s' n' := by
  simp [returns_bind]

@[simp] theorem returns_invalidIf_bind :
    Returns (invalidIf bad >>= g) o s n b s' n' ↔ bad = false ∧ Returns (g ()) o s n b s' n' := by
  simp [returns_bind]

@[simp] theorem returns_orFail_bind {value : Option α} :
    Returns (orFail value e >>= f) o s n b s' n' ↔ ∃ a, value = some a ∧ Returns (f a) o s n b s' n' := by
  simp [returns_bind]

@[simp] theorem returns_orElse_bind {value : Except ε α} :
    Returns (orElse value e >>= f) o s n b s' n' ↔ ∃ a, value = .ok a ∧ Returns (f a) o s n b s' n' := by
  simp [returns_bind]

@[simp] theorem returns_uuidColumn_bind {id : Uuid} {f : Uuid → StoreM β} :
    Returns (uuidColumn id >>= f) o s n b s' n' ↔ uuidIsV7 id = true ∧ Returns (f id) o s n b s' n' := by
  simp [returns_bind]

@[simp] theorem returns_insertInto_bind :
    Returns (insertInto rows put clash row >>= g) o s n b s' n' ↔ (o n).works = true ∧
      (∀ r ∈ rows s, clash r = false) ∧ Returns (g ()) o (put s (rows s ++ [row])) (n + 1) b s' n' := by
  simp [returns_bind, and_assoc]

@[simp] theorem returns_updateIn_bind :
    Returns (updateIn rows put p row e >>= g) o s n b s' n' ↔ (o n).works = true ∧
      ∃ rows', replaceOne p row (rows s) = some rows' ∧ Returns (g ()) o (put s rows') (n + 1) b s' n' := by
  simp only [returns_bind, returns_updateIn]
  constructor
  · rintro ⟨_, _, _, ⟨hw, ⟨rows', hr, rfl⟩, rfl⟩, hg⟩
    exact ⟨hw, rows', hr, hg⟩
  · rintro ⟨hw, rows', hr, hg⟩
    exact ⟨(), _, _, ⟨hw, ⟨rows', hr, rfl⟩, rfl⟩, hg⟩

end Inversion

/-! Steps that succeed on the way to a failure. -/

section Failure
variable {α β ε : Type} {o : Nat → Answer} {s : Database} {n : Nat} {e e' : OperatorStoreError} {f : α → StoreM β}
  {g : Unit → StoreM β}

theorem fails_statement_bind (hw : (o n).works = true) (hg : Fails (g ()) e o s (n + 1)) :
    Fails (statement >>= g) e o s n :=
  fails_bind_of_returns (a := ()) (returns_statementOr.mpr ⟨hw, rfl, rfl⟩) hg

theorem fails_selectOr_bind {query : Database → α} (hw : (o n).works = true)
    (hf : Fails (f (query s)) e o s (n + 1)) : Fails (selectOr e' query >>= f) e o s n :=
  fails_bind_of_returns (returns_selectOr.mpr ⟨hw, rfl, rfl, rfl⟩) hf

theorem fails_operatorNow_bind {f : Instant → StoreM β} {t : Instant} (ht : (o n).now = some t)
    (hf : Fails (f t) e o s (n + 1)) : Fails (operatorNow >>= f) e o s n :=
  fails_bind_of_returns (returns_operatorNow.mpr ⟨ht, rfl, rfl⟩) hf

theorem fails_failIf_bind (hbad : bad = false) (hg : Fails (g ()) e o s n) : Fails (failIf bad e' >>= g) e o s n :=
  fails_bind_of_returns (a := ()) (returns_failIf.mpr ⟨hbad, rfl, rfl⟩) hg

theorem fails_lift_bind {value : Except OperatorStoreError α} {a : α} (ha : value = .ok a) (hf : Fails (f a) e o s n) :
    Fails (lift value >>= f) e o s n :=
  fails_bind_of_returns (returns_lift.mpr ⟨ha, rfl, rfl⟩) hf

theorem fails_orElse {value : Except ε α} (h : ∀ a, value ≠ .ok a) : Fails (orElse value e) e o s n := by
  cases value with
  | error why => rfl
  | ok a => exact absurd rfl (h a)

end Failure
end ProofPlatform.Operator
