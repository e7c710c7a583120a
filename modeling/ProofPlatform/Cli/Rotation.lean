import ProofPlatform.Cli.Workspace
import ProofPlatform.Executor.EntryPoints

/-! What a workspace keeps through rotations of its key, wherever a command dies: the keys. A proof is verified and a
grant revoked only under the identity that made it. -/
namespace ProofPlatform.Cli
open Kernel Executor List Library Fallible FallibleState Act
open Relation Table

variable (P : Primitives) (root : String)

/-- The key is in the workspace or in its archive. -/
def Held (key : StoredKeypair) (disk : WorkspaceDisk) : Prop :=
  disk.keypair = some key ∨ ∃ file ∈ disk.rotated, file.keypair = key

variable {key : StoredKeypair} {workspace : Workspace} {delegation : Delegation} {α : Type} {step : Step}
  {proof : Proof}

/-- The command returns, if the process does not die in it. -/
def Accepts (command : CliM α) (disk : WorkspaceDisk) : Prop :=
  ∃ a machine, command ⟨disk, none⟩ = (.ok a, machine)

/-- The workspace opens under its actor only, no key is lost, and a proof and a grant are accepted and revoked exactly
as long as the identity that made them is the present one. -/
structure Continuity (history : List Step) : Prop where
  opened : ∀ workspace, Workspace.open P root (after P root history) = .ok workspace →
    workspace.keypair.principalId = workspace.actor ∧
      (after P root history).config.map WorkspaceConfig.actorId = some workspace.actor
  held : ∀ earlier later key, history = earlier ++ later → (after P root earlier).keypair = some key →
    Held key (after P root history)
  proofs : ∀ earlier writes later body proof machine,
    history = earlier ++ ⟨.execute (.signed body), writes⟩ :: later →
    executeGoverned P root (.signed body) ⟨after P root earlier, writes⟩ = (.ok proof, machine) →
    (Accepts (cmdVerify P root proof.body.id) (after P root history) ↔
      (after P root history).keypair = (after P root earlier).keypair)
  /-- Also if the step died before it showed its proof, and another step has shown it since. -/
  recorded : ∀ earlier step later proof, history = earlier ++ step :: later →
    proof ∈ (step.after P root (after P root earlier)).evidence → proof ∉ (after P root earlier).evidence →
    (after P root history).proofs proof.body.id = some proof →
    (Accepts (cmdVerify P root proof.body.id) (after P root history) ↔
      (after P root history).keypair = (after P root earlier).keypair)
  delegations : ∀ earlier writes later parsed delegation machine text,
    history = earlier ++ ⟨.grant parsed, writes⟩ :: later →
    cmdDelegationGrant P root parsed ⟨after P root earlier, writes⟩ = (.ok delegation, machine) →
    (Accepts (cmdDelegationRevoke P root (some delegation.id) text) (after P root history) ↔
      (after P root history).config = (after P root earlier).config ∧
        (after P root history).keypair = (after P root earlier).keypair)

def Command.drawnPrincipals : Command → List PrincipalId
  | .init drawn => [drawn.principalId]
  | .rotate draws => [draws.keypair.principalId]
  | _ => []

def Command.drawnProofs : Command → List Uuid
  | .execute (.signed body) => [body.id]
  | _ => []

def Command.drawnDelegations : Command → List Uuid
  | .grant (.ok request) => [request.id]
  | _ => []

/-- No identifier is drawn twice. -/
structure FreshDraws (history : List Step) : Prop where
  principals : (history.flatMap fun step => step.command.drawnPrincipals).Nodup
  proofs : (history.flatMap fun step => step.command.drawnProofs).Nodup
  delegations : (history.flatMap fun step => step.command.drawnDelegations).Nodup

/-! ### What one write can do -/

inductive Write (P : Primitives) (command : Command) : WorkspaceDisk → WorkspaceDisk → Prop
  | directory {disk} : Write P command disk { disk with directory := true }
  | firstConfig {disk drawn} (hcommand : command = .init drawn) (hnone : disk.config = none) :
      Write P command disk { disk with config := some ⟨drawn.principalId, "0.1.0"⟩ }
  | firstKey {disk drawn} (hcommand : command = .init drawn) (hnone : disk.keypair = none) :
      Write P command disk { disk with keypair := some (encodeKeypair P drawn) }
  | principal {disk} (row : PrincipalRow) : Write P command disk { disk with principals := disk.principals ++ [row] }
  | archive {disk} (file : RotatedKeypair) : Write P command disk { disk with rotated := disk.rotated ++ [file] }
  | actor {disk draws} (hcommand : command = .rotate draws) :
      Write P command disk { disk with
        config := disk.config.map fun config => { config with actorId := draws.keypair.principalId } }
  | key {disk draws} (hcommand : command = .rotate draws)
      (harchived : ∃ file ∈ disk.rotated, disk.keypair = some file.keypair) :
      Write P command disk { disk with keypair := some (encodeKeypair P draws.keypair) }
  | grant {disk request} (delegation : Delegation) (hcommand : command = .grant (.ok request))
      (hid : delegation.id = request.id) :
      Write P command disk { disk with delegations := put Delegation.id delegation disk.delegations }
  | revoke {disk} (id : Uuid) (issuer : PrincipalId) :
      Write P command disk { disk with
        delegations := updateWhere (revokedBy id issuer) (fun row => { row with revoked := true }) disk.delegations }
  | evidence {disk body} (proof : Proof) (hcommand : command = .execute (.signed body))
      (hid : proof.body.id = body.id) : Write P command disk { disk with evidence := disk.evidence ++ [proof] }
  | proof {disk} (proof : Proof) (hrecorded : proof ∈ disk.evidence) :
      Write P command disk { disk with proofs := Function.update disk.proofs proof.body.id (some proof) }

section Performing
variable {P root} {command : Command} {start disk : WorkspaceDisk} {machine : Machine}

/-- The disk has been written from the start of the command to here. -/
def Written (P : Primitives) (command : Command) (start : WorkspaceDisk) (machine : Machine) : Prop :=
  ReflTransGen (Write P command) start machine.disk

variable {err : CliError → Machine → Prop} {change : WorkspaceDisk → WorkspaceDisk}

theorem meets_write {ok : Unit → Machine → Prop} (hdied : err .died machine)
    (hdone : ∀ left, ok () ⟨change machine.disk, left⟩) : (write change).Meets machine ok err := by
  unfold Meets write
  split
  · rename_i heq
    split at heq <;> cases heq <;> exact hdone _
  · rename_i heq
    split at heq <;> cases heq
    exact hdied

@[simp] theorem meets_readDisk {ok : WorkspaceDisk → Machine → Prop} :
    readDisk.Meets machine ok err ↔ ok machine.disk machine := Iff.rfl

@[simp] theorem meets_openWorkspace {ok : Workspace → Machine → Prop} : (openWorkspace P root).Meets machine ok err ↔
      (∀ workspace, Workspace.open P root machine.disk = .ok workspace → ok workspace machine) ∧
        ∀ error, Workspace.open P root machine.disk = .error error → err error machine := by
  rw [openWorkspace, meets_bind, meets_readDisk, meets_lift]

/-- At most a row is added to the table of principals. -/
def Enrolled (machine machine' : Machine) : Prop :=
  machine'.disk = machine.disk ∨
    ∃ row, machine'.disk = { machine.disk with principals := machine.disk.principals ++ [row] }

theorem Enrolled.written {machine' : Machine} (h : Enrolled machine machine')
    (hwritten : Written P command start machine) :
    Written P command start machine' := by
  rcases h with heq | ⟨row, heq⟩
  · rw [Written, heq]
    exact hwritten
  · rw [Written, heq]
    exact hwritten.tail (.principal row)

theorem savePrincipal_meets (principal : Principal) :
    (savePrincipal principal).Meets machine (fun _ => Enrolled machine) fun _ => Enrolled machine := by
  rw [savePrincipal, meets_bind, meets_readDisk]
  split
  · split_ifs
    · exact .inl rfl
    · exact .inl rfl
  · exact meets_write (.inl rfl) fun _ => .inr ⟨_, rfl⟩

theorem saveDelegationPrincipal_meets (id : PrincipalId) :
    (saveDelegationPrincipal id).Meets machine (fun _ => Enrolled machine) fun _ => Enrolled machine := by
  rw [saveDelegationPrincipal, meets_bind, meets_readDisk]
  split
  · split_ifs
    · exact .inl rfl
    · exact .inl rfl
  · exact meets_write (.inl rfl) fun _ => .inr ⟨_, rfl⟩

theorem loadKeypair_eq_ok {keypair : Keypair} : loadKeypair P root disk = .ok keypair ↔
    disk.directory = true ∧ ∃ stored, disk.keypair = some stored ∧ P.publicKey stored.signingKey = stored.publicKey ∧
      keypair = ⟨stored.principalId, stored.kind, stored.createdAt, stored.signingKey⟩ := by
  simp only [loadKeypair, bind_eq_ok, reject_eq_ok, orReject_eq_ok, Bool.not_eq_false', decodeStoredKeypair]
  constructor
  · rintro ⟨_, hdirectory, stored, hstored, hdecoded⟩
    split_ifs at hdecoded with hpublic
    cases hdecoded
    exact ⟨hdirectory, stored, hstored, not_not.mp hpublic, rfl⟩
  · rintro ⟨hdirectory, stored, hstored, hpublic, rfl⟩
    exact ⟨(), hdirectory, stored, hstored, if_neg (not_not.mpr hpublic)⟩

theorem open_eq_ok : Workspace.open P root disk = .ok workspace ↔
    disk.directory = true ∧ ∃ config stored, disk.config = some config ∧ disk.keypair = some stored ∧
      P.publicKey stored.signingKey = stored.publicKey ∧ stored.principalId = config.actorId ∧
      workspace = ⟨⟨stored.principalId, stored.kind, stored.createdAt, stored.signingKey⟩, config.actorId⟩ := by
  simp only [Workspace.open, ensureWorkspaceIdentity, bind_eq_ok, reject_eq_ok, orReject_eq_ok, Bool.not_eq_false',
    loadKeypair_eq_ok, exists_const, decide_eq_false_iff_not, not_not]
  constructor
  · rintro ⟨hdirectory, config, hconfig, keypair, ⟨-, stored, hstored, hpublic, rfl⟩, hactor, hworkspace⟩
    cases hworkspace
    exact ⟨hdirectory, config, stored, hconfig, hstored, hpublic, hactor, rfl⟩
  · rintro ⟨hdirectory, config, stored, hconfig, hstored, hpublic, hactor, rfl⟩
    exact ⟨hdirectory, config, hconfig, _, ⟨hdirectory, stored, hstored, hpublic, rfl⟩, hactor, rfl⟩

theorem encode_of_open (h : Workspace.open P root disk = .ok workspace) :
    disk.keypair = some (encodeKeypair P workspace.keypair) := by
  obtain ⟨-, config, stored, -, hstored, hpublic, -, rfl⟩ := open_eq_ok.mp h
  rw [hstored, encodeKeypair, hpublic]

theorem signed_eq_ok {body : ProofBody} {keypair : Keypair} {f : ProofError → CliError}
    (h : (signProof P body keypair).mapError f = .ok proof) :
    proof.body = body ∧ proof.signature = P.sign keypair.signingKey (.proof proof.body) := by
  rw [mapError_eq_ok, signProof] at h
  split_ifs at h
  cases h
  exact ⟨rfl, rfl⟩

/-- However the call ends, the disk has been written so. -/
def Keeps {α : Type} (P : Primitives) (command : Command) (start : WorkspaceDisk) (call : CliM α) (machine : Machine) :
    Prop :=
  call.Meets machine (fun _ => Written P command start) fun _ => Written P command start

section Rules
variable {α β : Type} {f : α → CliM β}

section
variable (h : Written P command start machine)
include h

theorem keeps_write_bind {f : Unit → CliM β} (hwrite : Write P command machine.disk (change machine.disk))
    (hf : ∀ left, Written P command start ⟨change machine.disk, left⟩ →
      Keeps P command start (f ()) ⟨change machine.disk, left⟩) :
    Keeps P command start (write change >>= f) machine :=
  meets_bind.mpr (meets_write h fun left => hf left (h.tail hwrite))

theorem keeps_lift_bind {x : Except CliError α}
    (hf : ∀ a, x = .ok a → Keeps P command start (f a) machine) : Keeps P command start (lift x >>= f) machine :=
  meets_bind.mpr (meets_lift.mpr ⟨hf, fun _ _ => h⟩)

theorem keeps_open_bind {f : Workspace → CliM β}
    (hf : ∀ workspace, Workspace.open P root machine.disk = .ok workspace →
      Keeps P command start (f workspace) machine) :
    Keeps P command start (openWorkspace P root >>= f) machine :=
  meets_bind.mpr (meets_openWorkspace.mpr ⟨hf, fun _ _ => h⟩)

theorem keeps_enrol_bind {call : CliM α}
    (henrols : call.Meets machine (fun _ => Enrolled machine) fun _ => Enrolled machine)
    (hf : ∀ a machine', Written P command start machine' → Keeps P command start (f a) machine') :
    Keeps P command start (call >>= f) machine :=
  meets_bind.mpr (henrols.mono (fun a _ he => hf a _ (he.written h)) fun _ _ he => he.written h)

end

end Rules

theorem init_keeps (drawn : Keypair) : Keeps P (.init drawn) machine.disk (Cli.init P drawn) machine := by
  refine keeps_write_bind .refl .directory fun _ hdirectory => ?_
  refine meets_bind.mpr (meets_readDisk.mpr ?_)
  split_ifs with hexists
  · exact hdirectory
  · simp only [Bool.or_eq_true, Option.isSome_iff_ne_none, not_or, not_not] at hexists
    refine keeps_write_bind hdirectory (.firstConfig rfl hexists.1) fun _ hconfig => ?_
    refine keeps_write_bind hconfig (.firstKey rfl hexists.2) fun _ hkey => ?_
    exact keeps_enrol_bind hkey (savePrincipal_meets _) fun _ _ henrolled => henrolled

theorem rotate_keeps (draws : RotationDraws) : Keeps P (.rotate draws) machine.disk
    (Cli.rotate P root draws) machine := by
  refine keeps_open_bind .refl fun workspace hopen => meets_bind.mpr (meets_readDisk.mpr ?_)
  split_ifs
  · exact ReflTransGen.refl
  · refine keeps_write_bind .refl (.archive _) fun _ harchive => ?_
    refine keeps_write_bind harchive (.actor rfl) fun _ hactor => ?_
    have hstored : machine.disk.keypair = some (encodeKeypair P workspace.keypair) := encode_of_open hopen
    refine keeps_write_bind hactor (.key rfl ⟨_, mem_append_right _ (mem_singleton.mpr rfl), hstored⟩) fun _ hkey => ?_
    exact keeps_enrol_bind hkey (savePrincipal_meets _) fun _ _ henrolled => henrolled

theorem grant_keeps (parsed : Except CliError GrantRequest) :
    Keeps P (.grant parsed) machine.disk (cmdDelegationGrant P root parsed) machine := by
  refine keeps_open_bind .refl fun workspace _ => ?_
  refine keeps_lift_bind .refl fun request hparsed => ?_
  refine keeps_enrol_bind .refl (savePrincipal_meets _) fun _ _ hissuer => ?_
  refine keeps_enrol_bind hissuer (saveDelegationPrincipal_meets _) fun _ _ hrecipient => ?_
  refine meets_bind.mpr ?_
  rw [saveDelegation]
  split_ifs
  · exact hrecipient
  · exact meets_write hrecipient fun _ => hrecipient.tail (.grant _ (by rw [hparsed]) rfl)

theorem revoke_keeps (parsed : Option Uuid) (text : String) :
    Keeps P (.revoke parsed text) machine.disk (cmdDelegationRevoke P root parsed text) machine := by
  refine keeps_open_bind .refl fun workspace _ => ?_
  refine keeps_lift_bind .refl fun id _ => meets_bind.mpr (meets_readDisk.mpr ?_)
  refine keeps_write_bind .refl (.revoke _ _) fun _ hrevoked => ?_
  split_ifs
  · exact hrevoked
  · exact hrevoked

theorem execute_keeps (answer : EngineAnswer) :
    Keeps P (.execute answer) machine.disk (executeGoverned P root answer) machine := by
  refine keeps_open_bind .refl fun workspace _ => ?_
  -- a proof is shown only after the engine has recorded it
  have hengine : (engineProof P workspace answer).Meets machine
      (fun proof machine' => Written P (.execute answer) machine.disk machine' ∧ proof ∈ machine'.disk.evidence)
      fun _ => Written P (.execute answer) machine.disk := by
    cases answer with
    | refused error => exact ReflTransGen.refl
    | signed body =>
      rw [engineProof, meets_bind, meets_lift]
      refine ⟨fun proof hsigned => ?_, fun _ _ => .refl⟩
      have hid : proof.body.id = body.id := by rw [(signed_eq_ok hsigned).1]
      rw [meets_bind]
      exact meets_write .refl fun _ => ⟨.single (.evidence proof rfl hid), by simp⟩
    | replayed index =>
      rw [engineProof, meets_bind, meets_readDisk, meets_lift]
      exact ⟨fun proof hproof => ⟨.refl, mem_of_getElem? (orReject_eq_ok.mp hproof)⟩, fun _ _ => .refl⟩
  refine meets_bind.mpr (hengine.mono (fun proof machine hproof => ?_) fun _ _ hwritten => hwritten)
  exact keeps_write_bind hproof.1 (.proof proof hproof.2) fun _ hshown => hshown

theorem verify_keeps (id : Uuid) : Keeps P (.verify id) machine.disk (cmdVerify P root id) machine := by
  refine meets_bind.mpr (meets_readDisk.mpr ?_)
  refine keeps_lift_bind .refl fun _ _ => keeps_lift_bind .refl fun _ _ => ?_
  exact keeps_lift_bind .refl fun _ _ => meets_lift.mpr ⟨fun _ _ => .refl, fun _ _ => .refl⟩

/-- A command changes the disk by such writes, however far it gets. -/
theorem step_written (step : Step) (disk : WorkspaceDisk) :
    ReflTransGen (Write P step.command) disk (step.after P root disk) := by
  refine Meets.after (I := Written P step.command disk) ?_
  cases step.command with
  | init drawn => exact meets_bind.mpr (init_keeps drawn)
  | rotate draws => exact meets_bind.mpr (rotate_keeps draws)
  | grant parsed => exact meets_bind.mpr (grant_keeps parsed)
  | revoke parsed text => exact revoke_keeps parsed text
  | execute answer => exact meets_bind.mpr (execute_keeps answer)
  | verify id => exact verify_keeps id

end Performing

/-! ### What the writes keep -/

section Keeping
variable {P} {command : Command} {disk disk' : WorkspaceDisk}

theorem keeps_of_write {Q : WorkspaceDisk → Prop}
    (hwrite : ∀ {disk disk'}, Write P command disk disk' → Q disk → Q disk')
    (h : ReflTransGen (Write P command) disk disk') (hdisk : Q disk) : Q disk' := by
  induction h with
  | refl => exact hdisk
  | tail _ hlast ih => exact hwrite hlast ih

section
variable (h : Write P command disk disk')
include h

theorem Write.held (hheld : Held key disk) : Held key disk' := by
  cases h with
  | firstKey _ hnone =>
    refine hheld.imp (fun hkey => ?_) id
    rw [hnone] at hkey
    cases hkey
  | archive file =>
    refine hheld.imp id fun ⟨old, hold, hkey⟩ => ?_
    exact ⟨old, mem_append_left _ hold, hkey⟩
  | key _ harchived =>
    obtain ⟨file, hfile, hstored⟩ := harchived
    rcases hheld with hkey | hrotated
    · exact .inr ⟨file, hfile, Option.some.inj (hstored.symm.trans hkey)⟩
    · exact .inr hrotated
  | _ => exact hheld

/-- Stored keys are as the code encodes them, and the version is the one that it writes. -/
structure WellFormed (P : Primitives) (disk : WorkspaceDisk) : Prop where
  keypair : ∀ key, disk.keypair = some key → P.publicKey key.signingKey = key.publicKey
  config : ∀ config, disk.config = some config → config.version = "0.1.0"

theorem Write.wellFormed (hdisk : WellFormed P disk) : WellFormed P disk' := by
  obtain ⟨hkeypair, hconfig⟩ := hdisk
  cases h with
  | firstConfig _ _ => exact ⟨hkeypair, fun config heq => by cases heq; rfl⟩
  | firstKey _ _ => exact ⟨fun key heq => by cases heq; rfl, hconfig⟩
  | actor _ =>
    refine ⟨hkeypair, fun config heq => ?_⟩
    obtain ⟨old, hold, rfl⟩ := Option.map_eq_some_iff.mp heq
    exact hconfig old hold
  | key _ _ => exact ⟨fun key heq => by cases heq; rfl, hconfig⟩
  | _ => exact ⟨hkeypair, hconfig⟩

/-- A workspace that has been opened, perhaps under another identity since. -/
structure Established (key : StoredKeypair) (disk : WorkspaceDisk) : Prop where
  directory : disk.directory = true
  config : disk.config.isSome
  keypair : ∃ key', disk.keypair = some key' ∧ (key' = key ∨ key'.principalId ≠ key.principalId)

theorem Write.established
    (hdrawn : key.principalId ∉ command.drawnPrincipals) (hdisk : Established key disk) : Established key disk' := by
  obtain ⟨hdirectory, hconfig, hkeypair⟩ := hdisk
  cases h with
  | directory => exact ⟨rfl, hconfig, hkeypair⟩
  | firstConfig _ _ => exact ⟨hdirectory, rfl, hkeypair⟩
  | firstKey hcommand hnone =>
    obtain ⟨key', hkey', -⟩ := hkeypair
    rw [hnone] at hkey'
    cases hkey'
  | actor _ => exact ⟨hdirectory, by simpa using hconfig, hkeypair⟩
  | key hcommand _ =>
    subst hcommand
    exact ⟨hdirectory, hconfig, _, rfl, .inr fun heq => hdrawn (mem_singleton.mpr heq.symm)⟩
  | _ => exact ⟨hdirectory, hconfig, hkeypair⟩

theorem Write.evidence_eq (hdrawn : command.drawnProofs = []) : disk'.evidence = disk.evidence := by
  cases h with
  | evidence proof hcommand hid =>
    subst hcommand
    cases hdrawn
  | _ => rfl

/-- The proof is recorded under its identifier, and shown. -/
structure Shown (proof : Proof) (disk : WorkspaceDisk) : Prop where
  file : disk.proofs proof.body.id = some proof
  unique : ∀ other ∈ disk.evidence, other.body.id = proof.body.id → other = proof

theorem Write.shown (hdrawn : proof.body.id ∉ command.drawnProofs) (hdisk : Shown proof disk) : Shown proof disk' := by
  obtain ⟨hfile, hunique⟩ := hdisk
  cases h with
  | evidence other hcommand hid =>
    subst hcommand
    refine ⟨hfile, fun recorded hrecorded heq => ?_⟩
    rcases mem_append.mp hrecorded with hrecorded | hrecorded
    · exact hunique recorded hrecorded heq
    · rw [mem_singleton.mp hrecorded, hid] at heq
      exact absurd (mem_singleton.mpr heq.symm) hdrawn
  | proof other hrecorded =>
    refine ⟨?_, hunique⟩
    by_cases hid : other.body.id = proof.body.id
    · rw [hunique other hrecorded hid]
      exact Function.update_self _ _ _
    · exact (Function.update_of_ne (Ne.symm hid) _ _).trans hfile
  | _ => exact ⟨hfile, hunique⟩

/-- The grant is in the table, with its issuer. -/
structure Granted (delegation : Delegation) (disk : WorkspaceDisk) : Prop where
  exists_row : ∃ row ∈ disk.delegations, row.id = delegation.id
  issuer : ∀ row ∈ disk.delegations, row.id = delegation.id → row.issuer = delegation.issuer

theorem Write.granted
    (hdrawn : delegation.id ∉ command.drawnDelegations) (hdisk : Granted delegation disk) :
    Granted delegation disk' := by
  obtain ⟨⟨row, hrow, hid⟩, hissuer⟩ := hdisk
  cases h with
  | grant other hcommand hother =>
    subst hcommand
    have hne : delegation.id ≠ other.id := fun heq => hdrawn (mem_singleton.mpr (heq.trans hother))
    refine ⟨⟨row, mem_put.mpr (.inl ⟨hrow, hid ▸ hne⟩), hid⟩, fun row' hrow' hid' => ?_⟩
    rcases mem_put.mp hrow' with ⟨hrow', -⟩ | rfl
    · exact hissuer row' hrow' hid'
    · exact absurd hid'.symm hne
  | revoke id issuer =>
    have hkeeps : ∀ row : Delegation, (if revokedBy id issuer row then { row with revoked := true } else row).id =
        row.id ∧ (if revokedBy id issuer row then { row with revoked := true } else row).issuer = row.issuer := by
      intro row
      split_ifs <;> exact ⟨rfl, rfl⟩
    refine ⟨⟨_, mem_map.mpr ⟨row, hrow, rfl⟩, (hkeeps row).1.trans hid⟩, fun row' hrow' hid' => ?_⟩
    obtain ⟨old, hold, rfl⟩ := mem_map.mp hrow'
    rw [(hkeeps old).2]
    exact hissuer old hold ((hkeeps old).1.symm.trans hid')
  | _ => exact ⟨⟨row, hrow, hid⟩, hissuer⟩

/-- Everything on the disk has an identifier that was drawn. -/
structure DrawnFrom (principals : List PrincipalId) (proofs delegations : List Uuid) (disk : WorkspaceDisk) : Prop where
  keypair : ∀ key, disk.keypair = some key → key.principalId ∈ principals
  evidence : ∀ proof ∈ disk.evidence, proof.body.id ∈ proofs
  delegations : ∀ row ∈ disk.delegations, row.id ∈ delegations

theorem Write.drawnFrom {principals : List PrincipalId} {proofs delegations : List Uuid}
    (hprincipals : command.drawnPrincipals ⊆ principals) (hproofs : command.drawnProofs ⊆ proofs)
    (hdelegations : command.drawnDelegations ⊆ delegations) (hdisk : DrawnFrom principals proofs delegations disk) :
    DrawnFrom principals proofs delegations disk' := by
  obtain ⟨hkeypair, hevidence, hgrants⟩ := hdisk
  cases h with
  | firstKey hcommand _ | key hcommand _ =>
    subst hcommand
    exact ⟨fun key heq => by cases heq; exact hprincipals mem_cons_self, hevidence, hgrants⟩
  | grant other hcommand hother =>
    subst hcommand
    refine ⟨hkeypair, hevidence, fun row hrow => ?_⟩
    rcases mem_put.mp hrow with ⟨hrow, -⟩ | rfl
    · exact hgrants row hrow
    · exact hother ▸ hdelegations mem_cons_self
  | revoke id issuer =>
    refine ⟨hkeypair, hevidence, fun row hrow => ?_⟩
    obtain ⟨old, hold, rfl⟩ := mem_map.mp hrow
    split_ifs <;> exact hgrants old hold
  | evidence proof hcommand hid =>
    subst hcommand
    refine ⟨hkeypair, fun recorded hrecorded => ?_, hgrants⟩
    rcases mem_append.mp hrecorded with hrecorded | hrecorded
    · exact hevidence recorded hrecorded
    · rw [mem_singleton.mp hrecorded, hid]
      exact hproofs mem_cons_self
  | _ => exact ⟨hkeypair, hevidence, hgrants⟩

end

end Keeping

/-! ### Histories -/

section Histories
variable {P root} {history earlier later : List Step} {disk : WorkspaceDisk}

theorem keeps_of_steps {Q : WorkspaceDisk → Prop} (steps : List Step)
    (hwrite : ∀ step ∈ steps, ∀ {disk disk'}, Write P step.command disk disk' → Q disk → Q disk') (hdisk : Q disk) :
    Q (steps.foldl (fun disk step => step.after P root disk) disk) :=
  List.foldlRecOn steps _ hdisk fun disk hQ step hstep => keeps_of_write (hwrite step hstep) (step_written step disk) hQ

theorem after_append : after P root (earlier ++ later) =
    later.foldl (fun disk step => step.after P root disk) (after P root earlier) := foldl_append

theorem after_cons : after P root (earlier ++ step :: later) =
    later.foldl (fun disk step => step.after P root disk) (step.after P root (after P root earlier)) := after_append

theorem wellFormed_after (history : List Step) : WellFormed P (after P root history) :=
  keeps_of_steps history (fun _ _ => Write.wellFormed) ⟨nofun, nofun⟩

theorem drawnFrom_after (history : List Step) :
    DrawnFrom (history.flatMap fun step => step.command.drawnPrincipals)
      (history.flatMap fun step => step.command.drawnProofs)
      (history.flatMap fun step => step.command.drawnDelegations) (after P root history) := by
  refine keeps_of_steps history (fun step hstep _ _ hwrite => ?_)
    ⟨by simp [WorkspaceDisk.empty], by simp [WorkspaceDisk.empty], by simp [WorkspaceDisk.empty]⟩
  exact hwrite.drawnFrom (fun _ h => mem_flatMap.mpr ⟨step, hstep, h⟩)
    (fun _ h => mem_flatMap.mpr ⟨step, hstep, h⟩) fun _ h => mem_flatMap.mpr ⟨step, hstep, h⟩

section
variable {drawn : Step → List α} {a : α} (h : ((earlier ++ step :: later).flatMap drawn).Nodup)
include h

theorem not_drawn_later (ha : a ∈ earlier.flatMap drawn ∨ a ∈ drawn step) : ∀ next ∈ later, a ∉ drawn next := by
  intro next hnext hdrawn
  rw [flatMap_append, flatMap_cons, nodup_append, nodup_append] at h
  have hlater : a ∈ later.flatMap drawn := mem_flatMap.mpr ⟨next, hnext, hdrawn⟩
  rcases ha with ha | ha
  · exact h.2.2 a ha a (mem_append_right _ hlater) rfl
  · exact h.2.1.2.2 a ha a hlater rfl

theorem not_drawn_earlier (ha : a ∈ drawn step) : a ∉ earlier.flatMap drawn := by
  intro hearlier
  rw [flatMap_append, flatMap_cons, nodup_append] at h
  exact h.2.2 a hearlier a (mem_append_left _ ha) rfl

end

theorem accepts_iff_meets {command : CliM α} :
    Accepts command disk ↔ command.Meets ⟨disk, none⟩ (fun _ _ => True) fun _ _ => False := by
  unfold Accepts Meets
  rcases command ⟨disk, none⟩ with ⟨_ | _, _⟩ <;> simp

/-- The open workspace has signed the proof, which is recorded; nothing else but files of proofs may change. -/
def Signed (P : Primitives) (root : String) (body : ProofBody) (proof : Proof) (disk disk' : WorkspaceDisk) : Prop :=
  ∃ workspace, Workspace.open P root disk = .ok workspace ∧ proof.body = { body with actor := workspace.actor } ∧
    proof.signature = P.sign workspace.keypair.signingKey (.proof proof.body) ∧
    disk' = { disk with evidence := disk.evidence ++ [proof], proofs := disk'.proofs }

theorem Signed.evidence_eq {body : ProofBody} {disk' : WorkspaceDisk} (h : Signed P root body proof disk disk') :
    disk'.evidence = disk.evidence ++ [proof] := by
  obtain ⟨-, -, -, -, hdisk⟩ := h
  exact congrArg WorkspaceDisk.evidence hdisk

/-- However far an execute gets: it records nothing, or a proof that its workspace signs. -/
def Executed (P : Primitives) (root : String) (body : ProofBody) (disk : WorkspaceDisk) (machine : Machine) : Prop :=
  machine.disk = disk ∨ ∃ proof, Signed P root body proof disk machine.disk

theorem execute_signed_meets (body : ProofBody) (writes : Option Nat) :
    (executeGoverned P root (.signed body)).Meets ⟨disk, writes⟩
      (fun proof machine => Signed P root body proof disk machine.disk ∧
        machine.disk.proofs proof.body.id = some proof)
      fun _ => Executed P root body disk := by
  rw [executeGoverned, meets_bind, meets_openWorkspace]
  refine ⟨fun workspace hopen => ?_, fun _ _ => .inl rfl⟩
  rw [meets_bind, engineProof, meets_bind, meets_lift]
  refine ⟨fun proof hsigned => ?_, fun _ _ => .inl rfl⟩
  obtain ⟨hbody, hsignature⟩ := signed_eq_ok hsigned
  rw [meets_bind]
  refine meets_write (.inl rfl) fun _ => ?_
  rw [meets_pure, meets_bind]
  refine meets_write (.inr ⟨proof, workspace, hopen, hbody, hsignature, rfl⟩) fun _ => ?_
  exact ⟨⟨workspace, hopen, hbody, hsignature, rfl⟩, Function.update_self _ _ _⟩

/-- A proof that a step records is one that its workspace signs, whether or not the step dies. -/
theorem step_signed (hrecorded : proof ∈ (step.after P root disk).evidence) (hnew : proof ∉ disk.evidence) :
    ∃ body, Signed P root body proof disk (step.after P root disk) := by
  obtain ⟨command, writes⟩ := step
  by_cases hdrawn : command.drawnProofs = []
  · have hsame : (Step.after P root ⟨command, writes⟩ disk).evidence = disk.evidence :=
      keeps_of_write (Q := fun other => other.evidence = disk.evidence)
        (fun hwrite heq => (hwrite.evidence_eq hdrawn).trans heq) (step_written ⟨command, writes⟩ disk) rfl
    exact absurd (hsame ▸ hrecorded) hnew
  obtain ⟨body, rfl⟩ : ∃ body, command = .execute (.signed body) := by
    unfold Command.drawnProofs at hdrawn
    split at hdrawn
    · exact ⟨_, rfl⟩
    · exact absurd rfl hdrawn
  have hexecuted : ((Command.execute (.signed body)).perform P root).Meets ⟨disk, writes⟩
      (fun _ => Executed P root body disk) fun _ => Executed P root body disk :=
    meets_bind.mpr ((execute_signed_meets body writes).mono (fun other _ h => .inr ⟨other, h.1⟩) fun _ _ h => h)
  rcases hexecuted.after with hsame | ⟨other, hsigned⟩
  · exact absurd (hsame ▸ hrecorded) hnew
  · rw [Step.after, hsigned.evidence_eq] at hrecorded
    obtain rfl := mem_singleton.mp ((mem_append.mp hrecorded).resolve_left hnew)
    exact ⟨body, hsigned⟩

/-- What a command of the workspace opens. -/
def WorkspaceDisk.identity (disk : WorkspaceDisk) : Bool × Option WorkspaceConfig × Option StoredKeypair :=
  (disk.directory, disk.config, disk.keypair)

theorem grant_meets (parsed : Except CliError GrantRequest) (writes : Option Nat) :
    (cmdDelegationGrant P root parsed).Meets ⟨disk, writes⟩
      (fun delegation machine => ∃ workspace request, Workspace.open P root disk = .ok workspace ∧
        parsed = .ok request ∧ delegation.id = request.id ∧ delegation.issuer = workspace.actor ∧
        delegation ∈ machine.disk.delegations ∧
        (∀ row ∈ machine.disk.delegations, row = delegation ∨ row ∈ disk.delegations) ∧
        machine.disk.identity = disk.identity)
      fun _ _ => True := by
  rw [cmdDelegationGrant, meets_bind, meets_openWorkspace]
  refine ⟨fun workspace hopen => ?_, fun _ _ => trivial⟩
  rw [meets_bind, meets_lift]
  refine ⟨fun request hparsed => ?_, fun _ _ => trivial⟩
  -- enrolling the two principals changes neither the grants nor the identity
  have hsame : ∀ {machine machine' : Machine}, Enrolled machine machine' →
      machine'.disk.delegations = machine.disk.delegations ∧ machine'.disk.identity = machine.disk.identity := by
    rintro machine machine' (heq | ⟨row, heq⟩) <;> rw [heq] <;> exact ⟨rfl, rfl⟩
  rw [meets_bind]
  refine (savePrincipal_meets _).mono (fun _ first hfirst => ?_) fun _ _ _ => trivial
  rw [meets_bind]
  refine (saveDelegationPrincipal_meets _).mono (fun _ second hsecond => ?_) fun _ _ _ => trivial
  obtain ⟨hgrants, hidentity⟩ := hsame hfirst
  obtain ⟨hgrants', hidentity'⟩ := hsame hsecond
  rw [meets_bind, saveDelegation]
  split_ifs
  · trivial
  · refine meets_write trivial fun _ => ⟨workspace, request, hopen, hparsed, rfl, rfl, mem_put.mpr (.inr rfl),
      fun row hrow => ?_, hidentity'.trans hidentity⟩
    rcases mem_put.mp hrow with ⟨hrow, -⟩ | heq
    · exact .inr (by simpa only [hgrants', hgrants] using hrow)
    · exact .inl heq

theorem established_of_open (hopen : Workspace.open P root disk = .ok workspace)
    (hkey : disk.keypair = some key) : Established key disk := by
  obtain ⟨hdirectory, config, -, hconfig, -⟩ := open_eq_ok.mp hopen
  exact ⟨hdirectory, by rw [hconfig]; rfl, key, hkey, .inl rfl⟩

theorem accepts_verify_iff (hwell : WellFormed P disk)
    (hestablished : Established key disk) (hfile : disk.proofs proof.body.id = some proof)
    (hactor : proof.body.actor = key.principalId)
    (hsigned : proof.verify P (P.publicKey key.signingKey) = true) :
    Accepts (cmdVerify P root proof.body.id) disk ↔ disk.keypair = some key := by
  obtain ⟨key', hkey', hcases⟩ := hestablished.keypair
  have hload : loadKeypair P root disk = .ok ⟨key'.principalId, key'.kind, key'.createdAt, key'.signingKey⟩ :=
    loadKeypair_eq_ok.mpr ⟨hestablished.directory, key', hkey', hwell.keypair key' hkey', rfl⟩
  simp only [accepts_iff_meets, cmdVerify, meets_bind, meets_readDisk, meets_lift, hfile, hload,
    orReject_some, reject_eq_ok, reject_eq_error]
  constructor
  · rintro ⟨haccepted, -⟩
    obtain ⟨-, hmatches⟩ := (haccepted proof rfl).1 _ rfl
    rcases hcases with rfl | hne
    · exact hkey'
    · exact absurd ⟨decide_eq_true fun heq => hne (heq.symm.trans hactor), rfl⟩ (hmatches _)
  · intro hkey
    obtain rfl : key' = key := Option.some.inj (hkey'.symm.trans hkey)
    refine ⟨fun _ heq => ?_, fun _ h => by cases h⟩
    cases heq
    refine ⟨fun _ heq => ?_, fun _ h => by cases h⟩
    cases heq
    simp [hactor, hsigned]

theorem accepts_revoke_iff {config : WorkspaceConfig} {text : String}
    (hwell : WellFormed P disk) (hestablished : Established key disk) (hgranted : Granted delegation disk)
    (hissuer : delegation.issuer = key.principalId) (hactor : config.actorId = key.principalId)
    (hversion : config.version = "0.1.0") :
    Accepts (cmdDelegationRevoke P root (some delegation.id) text) disk ↔
      disk.config = some config ∧ disk.keypair = some key := by
  obtain ⟨key', hkey', hcases⟩ := hestablished.keypair
  obtain ⟨config', hconfig'⟩ := Option.isSome_iff_exists.mp hestablished.config
  have hany : ∀ actor, disk.delegations.any (revokedBy delegation.id actor) = true ↔ actor = delegation.issuer := by
    intro actor
    simp only [any_eq_true, revokedBy, Bool.and_eq_true, decide_eq_true_eq]
    constructor
    · rintro ⟨row, hrow, hid, rfl⟩
      exact hgranted.issuer row hrow hid
    · rintro rfl
      obtain ⟨row, hrow, hid⟩ := hgranted.exists_row
      exact ⟨row, hrow, hid, hgranted.issuer row hrow hid⟩
  have haccepts : Accepts (cmdDelegationRevoke P root (some delegation.id) text) disk ↔
      ∃ workspace, Workspace.open P root disk = .ok workspace ∧ workspace.actor = delegation.issuer := by
    rw [accepts_iff_meets, cmdDelegationRevoke, meets_bind, meets_openWorkspace]
    constructor
    · rintro ⟨hopened, hfailed⟩
      cases hopen : Workspace.open P root disk with
      | error error => exact (hfailed error hopen).elim
      | ok workspace =>
        refine ⟨workspace, rfl, (hany workspace.actor).mp ?_⟩
        by_contra hnot
        have hmeets := hopened workspace hopen
        simp only [meets_bind, meets_lift, meets_readDisk, orReject_some] at hmeets
        have hrun := hmeets.1 _ rfl
        rw [if_neg hnot] at hrun
        exact hrun
    · rintro ⟨workspace, hopen, hissuer'⟩
      refine ⟨fun opened hopened => ?_, fun error herror => ?_⟩
      · obtain rfl := Except.ok.inj (hopen.symm.trans hopened)
        simp only [meets_bind, meets_lift, meets_readDisk, orReject_some]
        refine ⟨fun _ heq => ?_, fun _ h => by cases h⟩
        cases heq
        rw [if_pos ((hany _).mpr hissuer')]
        trivial
      · rw [hopen] at herror
        cases herror
  rw [haccepts]
  constructor
  · rintro ⟨workspace, hopen, hissuer'⟩
    obtain ⟨-, config'', stored, hconfig'', hstored, -, hprincipal, rfl⟩ := open_eq_ok.mp hopen
    obtain rfl := Option.some.inj (hconfig'.symm.trans hconfig'')
    obtain rfl := Option.some.inj (hkey'.symm.trans hstored)
    have hsame : key'.principalId = key.principalId := hprincipal.trans (hissuer'.trans hissuer)
    obtain rfl := hcases.resolve_right fun hne => hne hsame
    have hactor' : config'.actorId = config.actorId := hissuer'.trans (hissuer.trans hactor.symm)
    have hversion' : config'.version = config.version := (hwell.config _ hconfig').trans hversion.symm
    exact ⟨hconfig'.trans (congrArg some (congrArg₂ WorkspaceConfig.mk hactor' hversion')), hkey'⟩
  · rintro ⟨hconfig, hkey⟩
    exact ⟨_, open_eq_ok.mpr ⟨hestablished.directory, config, key, hconfig, hkey, hwell.keypair key hkey,
      hactor.symm, rfl⟩, hactor.trans hissuer.symm⟩

end Histories

theorem state_of_discard {command : CliM α} {machine machine' : Machine} {a : α}
    (h : command machine = (.ok a, machine')) : ((command >>= fun _ => pure ()) machine).2.disk = machine'.disk := by
  simp only [bind, h]
  rfl

section Laws
variable {P root} {history earlier later : List Step} {writes : Option Nat} {machine : Machine}
  (hfresh : FreshDraws history)
include hfresh

/-- The identity under which a command ran is the present one, or another principal's replaced it. -/
theorem established_later (hhistory : history = earlier ++ step :: later)
    (hopen : Workspace.open P root (after P root earlier) = .ok workspace)
    (hsame : (step.after P root (after P root earlier)).identity = (after P root earlier).identity) :
    Established (encodeKeypair P workspace.keypair) (after P root history) := by
  subst hhistory
  have hkey := encode_of_open hopen
  obtain ⟨hdirectory, hconfig, hkeypair⟩ := established_of_open hopen hkey
  simp only [WorkspaceDisk.identity, Prod.mk.injEq] at hsame
  rw [← hsame.1] at hdirectory
  rw [← hsame.2.1] at hconfig
  rw [← hsame.2.2] at hkeypair
  have hlater := not_drawn_later hfresh.principals (.inl ((drawnFrom_after earlier).keypair _ hkey))
  rw [after_cons]
  exact keeps_of_steps later (fun next hnext _ _ hwrite => hwrite.established (hlater next hnext))
    ⟨hdirectory, hconfig, hkeypair⟩

section
variable (hsign : ∀ key payload, P.verify (P.publicKey key) payload (P.sign key payload) = true)
include hsign

theorem recorded_law (hhistory : history = earlier ++ step :: later)
    (hrecorded : proof ∈ (step.after P root (after P root earlier)).evidence)
    (hnew : proof ∉ (after P root earlier).evidence)
    (hfile : (after P root history).proofs proof.body.id = some proof) :
    Accepts (cmdVerify P root proof.body.id) (after P root history) ↔
      (after P root history).keypair = (after P root earlier).keypair := by
  obtain ⟨body, workspace, hopen, hbody, hsignature, hdisk⟩ := step_signed hrecorded hnew
  rw [encode_of_open hopen]
  refine accepts_verify_iff (wellFormed_after _) (established_later hfresh hhistory hopen ?_) hfile ?_ ?_
  · rw [hdisk]
    rfl
  · obtain ⟨-, config, stored, -, -, -, hprincipal, rfl⟩ := open_eq_ok.mp hopen
    rw [hbody]
    exact hprincipal.symm
  · rw [Proof.verify, hsignature]
    exact hsign _ _

theorem verify_law {body : ProofBody} (hhistory : history = earlier ++ ⟨.execute (.signed body), writes⟩ :: later)
    (hexecuted : executeGoverned P root (.signed body) ⟨after P root earlier, writes⟩ = (.ok proof, machine)) :
    Accepts (cmdVerify P root proof.body.id) (after P root history) ↔
      (after P root history).keypair = (after P root earlier).keypair := by
  subst hhistory
  obtain ⟨hsigned, hfile⟩ := (execute_signed_meets body writes).of_ok hexecuted
  have hevidence := hsigned.evidence_eq
  obtain ⟨_, -, hbody, -⟩ := hsigned
  have hafter : Step.after P root ⟨.execute (.signed body), writes⟩ (after P root earlier) = machine.disk :=
    state_of_discard hexecuted
  have hid : proof.body.id ∈ (Command.execute (.signed body)).drawnProofs := mem_singleton.mpr (by rw [hbody])
  have hnew : ∀ other ∈ (after P root earlier).evidence, other.body.id ≠ proof.body.id := fun other hother heq =>
    not_drawn_earlier hfresh.proofs hid (heq ▸ (drawnFrom_after earlier).evidence other hother)
  have hshown : Shown proof machine.disk := by
    refine ⟨hfile, fun other hother heq => ?_⟩
    rw [hevidence] at hother
    exact mem_singleton.mp ((mem_append.mp hother).resolve_left fun hother => hnew other hother heq)
  refine recorded_law hfresh hsign rfl ?_ (fun hold => hnew proof hold rfl) ?_
  · rw [hafter, hevidence]
    exact mem_append_right _ (mem_singleton_self proof)
  · rw [after_cons, hafter]
    exact (keeps_of_steps later (fun next hnext _ _ hwrite => hwrite.shown
      (not_drawn_later hfresh.proofs (.inr hid) next hnext)) hshown).file

end

theorem revoke_law {parsed : Except CliError GrantRequest} {text : String}
    (hhistory : history = earlier ++ ⟨.grant parsed, writes⟩ :: later)
    (hgrant : cmdDelegationGrant P root parsed ⟨after P root earlier, writes⟩ = (.ok delegation, machine)) :
    Accepts (cmdDelegationRevoke P root (some delegation.id) text) (after P root history) ↔
      (after P root history).config = (after P root earlier).config ∧
        (after P root history).keypair = (after P root earlier).keypair := by
  subst hhistory
  obtain ⟨workspace, request, hopen, rfl, hid, hissuer, hmem, hrows, hidentity⟩ :=
    (grant_meets parsed writes).of_ok hgrant
  have hafter : Step.after P root ⟨.grant (.ok request), writes⟩ (after P root earlier) = machine.disk :=
    state_of_discard hgrant
  have hdrawn : delegation.id ∈ (Command.grant (.ok request)).drawnDelegations := mem_singleton.mpr hid
  have hgranted : Granted delegation (after P root (earlier ++ ⟨.grant (.ok request), writes⟩ :: later)) := by
    rw [after_cons, hafter]
    refine keeps_of_steps later (fun next hnext _ _ hwrite => hwrite.granted
      (not_drawn_later hfresh.delegations (.inr hdrawn) next hnext)) ⟨⟨delegation, hmem, rfl⟩, fun row hrow heq => ?_⟩
    rcases hrows row hrow with rfl | hold
    · rfl
    · exact absurd (heq ▸ (drawnFrom_after earlier).delegations row hold) (not_drawn_earlier hfresh.delegations hdrawn)
  have hestablished := established_later hfresh rfl hopen (by rw [hafter]; exact hidentity)
  rw [encode_of_open hopen]
  obtain ⟨-, config, stored, hstored, -, -, hprincipal, rfl⟩ := open_eq_ok.mp hopen
  rw [hstored]
  exact accepts_revoke_iff (wellFormed_after _) hestablished hgranted (hissuer.trans hprincipal.symm) hprincipal.symm
    ((wellFormed_after earlier).config config hstored)

end Laws

/-- No rotation loses a key, and none carries a proof or a grant over to the new identity. -/
theorem rotation_changes_identity (P : Primitives) (root : String) (history : List Step) (hfresh : FreshDraws history)
    (hsign : ∀ key payload, P.verify (P.publicKey key) payload (P.sign key payload) = true) :
    Continuity P root history := by
  refine ⟨?_, ?_, ?_, ?_, ?_⟩
  · intro workspace hopen
    obtain ⟨-, config, stored, hconfig, -, -, hprincipal, rfl⟩ := open_eq_ok.mp hopen
    exact ⟨hprincipal, by rw [hconfig]; rfl⟩
  · rintro earlier later key rfl hkey
    rw [after_append]
    exact keeps_of_steps later (fun _ _ => Write.held) (.inl hkey)
  · intro earlier writes later body proof machine
    exact verify_law hfresh hsign
  · intro earlier step later proof
    exact recorded_law hfresh hsign
  · intro earlier writes later parsed delegation machine text
    exact revoke_law hfresh

/-- A key drawn with its principal. -/
def drawnKey (principal : Uuid) : Keypair := ⟨⟨principal⟩, .agent, 0, principal.setWidth 256⟩

def executedBody : ProofBody := ⟨11, ⟨0⟩, none, "edition.create::v1", ⟨0⟩, ⟨0⟩, 0, none⟩

def grantRequest : GrantRequest := ⟨12, ⟨5⟩, ["*"], ["*"], ⟨none, none, none⟩, 0, 86400⟩

/-- A workspace that makes a proof and a grant. -/
def identityHistory : List Step :=
  [⟨.init (drawnKey 1), none⟩, ⟨.execute (.signed executedBody), none⟩, ⟨.grant (.ok grantRequest), none⟩]

/-- Then its key is rotated; the process dies after the given number of writes. -/
def rotation (writes : Option Nat) : Step := ⟨.rotate ⟨drawnKey 2, 0, 0, 13⟩, writes⟩

theorem rotation_changes_identity_once :
    FreshDraws (identityHistory ++ [rotation none]) ∧
      Continuity keyPrimitives "/workspace" (identityHistory ++ [rotation none]) := by
  have hfresh : FreshDraws (identityHistory ++ [rotation none]) := ⟨by decide, by decide, by decide⟩
  exact ⟨hfresh, rotation_changes_identity keyPrimitives "/workspace" _ hfresh fun _ _ => beq_self_eq_true _⟩

/-- A proof and a grant accepted before the rotation are refused after it, the grant also if the process dies between
the two files. -/
theorem rotated_identity_refused :
    let verify := cmdVerify keyPrimitives "/workspace" 11
    let revoke := cmdDelegationRevoke keyPrimitives "/workspace" (some 12) (uuidText 12)
    let before := after keyPrimitives "/workspace" identityHistory
    let between := after keyPrimitives "/workspace" (identityHistory ++ [rotation (some 2)])
    let rotated := after keyPrimitives "/workspace" (identityHistory ++ [rotation none])
    (verify ⟨before, none⟩).1 = .ok () ∧ (revoke ⟨before, none⟩).1 = .ok () ∧
      (verify ⟨rotated, none⟩).1 = .error (.failed
        ("proof actor 00000000-0000-0000-0000-000000000001 does not match " ++
        "stored keypair actor 00000000-0000-0000-0000-000000000002")) ∧
      (revoke ⟨rotated, none⟩).1 = .error (.failed "delegation not found: 00000000-0000-0000-0000-00000000000c") ∧
      (revoke ⟨between, none⟩).1 =
        .error (.failed "workspace config actor differs from the workspace signing key") := by
  decide +kernel

end ProofPlatform.Cli
