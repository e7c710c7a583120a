import ProofPlatform.Executor.Context
import ProofPlatform.Library.FallibleState
import ProofPlatform.Library.Table

/-! The workspace of the command line: an identity in two files, an archive of rotated keys, and a database. The
process may die before any write. -/
namespace ProofPlatform.Cli
open Kernel Executor Library Fallible FallibleState Table

structure StoredKeypair where
  principalId : PrincipalId
  kind : PrincipalKind
  createdAt : Instant
  publicKey : PublicKey
  signingKey : SigningKey

structure WorkspaceConfig where
  actorId : PrincipalId
  version : String

/-- A file in the archive. -/
structure RotatedKeypair where
  fileName : String
  keypair : StoredKeypair
  rotatedAt : Instant

structure PrincipalRow where
  id : PrincipalId
  kind : PrincipalKind
  publicKey : PublicKey

/-- A workspace: whether it has a directory, the identity, the tables, the proofs that the engine has recorded, and the
proofs that commands have shown. -/
structure WorkspaceDisk where
  directory : Bool
  config : Option WorkspaceConfig
  keypair : Option StoredKeypair
  rotated : List RotatedKeypair
  principals : List PrincipalRow
  delegations : List Delegation
  evidence : List Proof
  proofs : Uuid → Option Proof

def WorkspaceDisk.empty : WorkspaceDisk := ⟨false, none, none, [], [], [], [], fun _ => none⟩

structure Workspace where
  keypair : Keypair
  actor : PrincipalId

inductive CliError where
  | died
  | failed (message : String)
  deriving DecidableEq

/-- The disk, and the number of writes after which the process dies. -/
structure Machine where
  disk : WorkspaceDisk
  writesLeft : Option Nat

abbrev CliM := Act Machine CliError

def readDisk : CliM WorkspaceDisk := fun machine => (.ok machine.disk, machine)

def write (change : WorkspaceDisk → WorkspaceDisk) : CliM Unit := fun machine =>
  match machine.writesLeft with
  | some 0 => (.error .died, machine)
  | some (left + 1) => (.ok (), ⟨change machine.disk, some left⟩)
  | none => (.ok (), ⟨change machine.disk, none⟩)

def bail {α : Type} (message : String) : CliM α := Act.fail (.failed message)

variable (P : Primitives) (root : String)

/-! ### Identity -/

def encodeKeypair (keypair : Keypair) : StoredKeypair :=
  ⟨keypair.principalId, keypair.kind, keypair.createdAt, P.publicKey keypair.signingKey, keypair.signingKey⟩

def decodeStoredKeypair (stored : StoredKeypair) : Except CliError Keypair :=
  if P.publicKey stored.signingKey ≠ stored.publicKey then .error (.failed "stored keypair public key mismatch")
  else .ok ⟨stored.principalId, stored.kind, stored.createdAt, stored.signingKey⟩

def missingFile (name : String) : CliError :=
  .failed ("private workspace file missing: " ++ root ++ "/.proof/" ++ name)

def loadKeypair (disk : WorkspaceDisk) : Except CliError Keypair := do
  reject (!disk.directory) (.failed ("private directory missing: " ++ root ++ "/.proof"))
  let stored ← orReject disk.keypair (missingFile root "keypair.json")
  decodeStoredKeypair P stored

def ensureWorkspaceIdentity (actor : PrincipalId) (keypair : Keypair) : Except CliError Unit :=
  reject (decide (keypair.principalId ≠ actor))
    (.failed "workspace config actor differs from the workspace signing key")

def Workspace.open (disk : WorkspaceDisk) : Except CliError Workspace := do
  reject (!disk.directory) (.failed "workspace not initialized — run `proof init` first")
  let config ← orReject disk.config (missingFile root "config.json")
  let keypair ← loadKeypair P root disk
  ensureWorkspaceIdentity config.actorId keypair
  pure ⟨keypair, config.actorId⟩

def openWorkspace : CliM Workspace := do
  let disk ← readDisk
  Act.lift (Workspace.open P root disk)

/-! ### The database -/

def conflict {α : Type} (message : String) : CliM α := bail ("conflict: " ++ message)

def savePrincipal (principal : Principal) : CliM Unit := do
  let disk ← readDisk
  match lookup PrincipalRow.id disk.principals principal.id with
  | some row =>
    if row.kind = principal.kind ∧ row.publicKey = principal.publicKey then pure ()
    else conflict ("principal " ++ uuidText principal.id.id ++ " already exists with a different kind or public key")
  | none => write fun disk =>
      { disk with principals := disk.principals ++ [⟨principal.id, principal.kind, principal.publicKey⟩] }

/-- The recipient of a grant is an agent; its key is not known. -/
def saveDelegationPrincipal (id : PrincipalId) : CliM Unit := do
  let disk ← readDisk
  match lookup PrincipalRow.id disk.principals id with
  | some row =>
    if row.kind ≠ .agent then
      bail ("delegation principal " ++ uuidText id.id ++ " is already enrolled with a different kind")
    else pure ()
  | none => write fun disk => { disk with principals := disk.principals ++ [⟨id, .agent, 0⟩] }

def saveDelegation (delegation : Delegation) : CliM Unit :=
  if delegation.validUntil < delegation.validFrom then conflict "delegation valid_from is later than valid_until"
  else write fun disk => { disk with delegations := put Delegation.id delegation disk.delegations }

/-! ### Commands -/

/-- The identity is written in two steps, and refused if one of them has been taken before. -/
def init (drawn : Keypair) : CliM Workspace := do
  write fun disk => { disk with directory := true }
  let disk ← readDisk
  if disk.config.isSome || disk.keypair.isSome then
    bail ("workspace identity already exists or is incomplete; refusing to replace it — use `proof keypair rotate` " ++
      "for an intentional identity change")
  else
    write fun disk => { disk with config := some ⟨drawn.principalId, "0.1.0"⟩ }
    write fun disk => { disk with keypair := some (encodeKeypair P drawn) }
    savePrincipal (principalFromKeypair P drawn)
    pure ⟨drawn, drawn.principalId⟩

/-- What a rotation draws. -/
structure RotationDraws where
  keypair : Keypair
  rotatedAt : Instant
  rotatedMillis : Int
  fileId : Uuid

def rotatedFileName (draws : RotationDraws) : String :=
  "keypair-" ++ toString draws.rotatedMillis ++ "-" ++ uuidText draws.fileId ++ ".json"

/-- The old key is archived first, then the actor and then the key are replaced. -/
def rotate (draws : RotationDraws) : CliM Keypair := do
  let old ← openWorkspace P root
  let disk ← readDisk
  if disk.rotated.any fun file => file.fileName == rotatedFileName draws then
    bail ("refusing to replace private workspace file: " ++ root ++ "/.proof/rotated/" ++ rotatedFileName draws)
  else
    write fun disk => { disk with
      rotated := disk.rotated ++ [⟨rotatedFileName draws, encodeKeypair P old.keypair, draws.rotatedAt⟩] }
    write fun disk => { disk with
      config := disk.config.map fun config => { config with actorId := draws.keypair.principalId } }
    write fun disk => { disk with keypair := some (encodeKeypair P draws.keypair) }
    savePrincipal (principalFromKeypair P draws.keypair)
    pure draws.keypair

/-- What a grant is asked for, and what it draws. -/
structure GrantRequest where
  id : Uuid
  recipient : PrincipalId
  allowedActions : List String
  resourceScope : List String
  scope : DelegationScope
  validFrom : Instant
  validUntil : Instant

def cmdDelegationGrant (parsed : Except CliError GrantRequest) : CliM Delegation := do
  let workspace ← openWorkspace P root
  let request ← Act.lift parsed
  let delegation : Delegation :=
    ⟨request.id, workspace.actor, request.recipient, request.allowedActions, request.resourceScope, request.scope,
      request.validFrom, request.validUntil, false⟩
  savePrincipal (principalFromKeypair P workspace.keypair)
  saveDelegationPrincipal delegation.recipient
  saveDelegation delegation
  pure delegation

def revokedBy (id : Uuid) (issuer : PrincipalId) (delegation : Delegation) : Bool :=
  decide (delegation.id = id) && decide (delegation.issuer = issuer)

/-- Only a grant of the present actor is found. -/
def cmdDelegationRevoke (parsed : Option Uuid) (text : String) : CliM Unit := do
  let workspace ← openWorkspace P root
  let id ← Act.lift (orReject parsed (.failed "invalid delegation ID"))
  let disk ← readDisk
  write fun disk => { disk with
    delegations := updateWhere (revokedBy id workspace.actor) (fun row => { row with revoked := true })
      disk.delegations }
  if disk.delegations.any (revokedBy id workspace.actor) then pure ()
  else bail ("delegation not found: " ++ text)

/-- What the engine makes of a request: an error, a proof it signs and records, or a recorded one. -/
inductive EngineAnswer where
  | refused (error : CliError)
  | signed (body : ProofBody)
  | replayed (index : Nat)

/-- The engine acts for the workspace and signs with its key. -/
def engineProof (workspace : Workspace) : EngineAnswer → CliM Proof
  | .refused error => Act.fail error
  | .signed body => do
    let proof ← Act.lift ((signProof P { body with actor := workspace.actor } workspace.keypair).mapError
      fun error => .failed error.message)
    write fun disk => { disk with evidence := disk.evidence ++ [proof] }
    pure proof
  | .replayed index => do
    let disk ← readDisk
    Act.lift (orReject disk.evidence[index]? (.failed "evidence not found"))

def executeGoverned (answer : EngineAnswer) : CliM Proof := do
  let workspace ← openWorkspace P root
  let proof ← engineProof P workspace answer
  write fun disk => { disk with proofs := Function.update disk.proofs proof.body.id (some proof) }
  pure proof

/-- The key that is stored now is the only one that is tried. -/
def cmdVerify (id : Uuid) : CliM Unit := do
  let disk ← readDisk
  let proof ← Act.lift (orReject (disk.proofs id) (.failed ("proof not found: " ++ uuidText id)))
  let keypair ← Act.lift (loadKeypair P root disk)
  Act.lift (reject (decide (proof.body.actor ≠ keypair.principalId)) (.failed
    ("proof actor " ++ uuidText proof.body.actor.id ++ " does not match stored keypair actor " ++
      uuidText keypair.principalId.id)))
  Act.lift (reject (!proof.verify P (P.publicKey keypair.signingKey)) (.failed "invalid proof signature"))

/-! ### Histories -/

inductive Command where
  | init (drawn : Keypair)
  | rotate (draws : RotationDraws)
  | grant (parsed : Except CliError GrantRequest)
  | revoke (parsed : Option Uuid) (text : String)
  | execute (answer : EngineAnswer)
  | verify (id : Uuid)

/-- A command, and after how many writes the process dies in it, if it does. -/
structure Step where
  command : Command
  writes : Option Nat

def Command.perform : Command → CliM Unit
  | .init drawn => do let _ ← Cli.init P drawn
  | .rotate draws => do let _ ← Cli.rotate P root draws
  | .grant parsed => do let _ ← cmdDelegationGrant P root parsed
  | .revoke parsed text => cmdDelegationRevoke P root parsed text
  | .execute answer => do let _ ← executeGoverned P root answer
  | .verify id => cmdVerify P root id

def Step.after (step : Step) (disk : WorkspaceDisk) : WorkspaceDisk :=
  (step.command.perform P root ⟨disk, step.writes⟩).2.disk

/-- The disk after a history, which begins with nothing. -/
def after (history : List Step) : WorkspaceDisk :=
  history.foldl (fun disk step => step.after P root disk) .empty

end ProofPlatform.Cli
