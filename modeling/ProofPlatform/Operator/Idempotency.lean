import ProofPlatform.Operator.FailureEvents

/-! A command takes effect once: whatever is sent under its key afterwards is answered from the file. -/
namespace ProofPlatform.Operator
open Kernel Library Fallible List HashChain Transaction Tx AuditEvent Table

/-- What a command is recognized by: the workspace, the human and the key the human chose. -/
def CommandBinding.key (binding : CommandBinding) : Uuid × Uuid × Uuid :=
  (binding.workspaceId, binding.humanId, binding.idempotencyKey)

def CommandReceipt.key (receipt : CommandReceipt) : Uuid × Uuid × Uuid :=
  (receipt.workspaceId, receipt.humanId, receipt.idempotencyKey)
variable {who : Option Credential} {now : Instant} {events : List AuditEvent}

section Filing
variable {C : OperatorStoreContext} {H : ControlHashes} {s s' : Database} {envelope : CommandEnvelope}
  {receipt : CommandReceipt}

/-- The checks that an envelope and its receipt pass together. -/
def Belongs (H : ControlHashes) (envelope : CommandEnvelope) (receipt : CommandReceipt) : Prop :=
  validateCommandReceiptBinding H receipt envelope = .ok ()

section
variable (h : Belongs H envelope receipt)
include h

theorem Belongs.names : receipt.key = envelope.binding.key ∧ receipt.commandId = envelope.binding.commandId := by
  simp only [Belongs, validateCommandReceiptBinding, bind_eq_ok, reject_eq_ok, exists_unit, Bool.or_eq_false_iff,
    bne_eq_false_iff_eq] at h
  obtain ⟨-, -, -, -, ⟨⟨⟨⟨⟨-, hid⟩, hkey⟩, hworkspace⟩, hhuman⟩, -⟩⟩ := h
  exact ⟨by rw [CommandReceipt.key, CommandBinding.key, hworkspace, hhuman, hkey], hid⟩

theorem Belongs.digest : envelope.command.digest H = .ok envelope.requestDigest := by
  simp only [Belongs, validateCommandReceiptBinding, bind_eq_ok, mapError_eq_ok, reject_eq_ok, exists_unit,
    Bool.or_eq_false_iff, bne_eq_false_iff_eq] at h
  obtain ⟨-, -, digest, hdigest, ⟨⟨⟨⟨⟨⟨⟨-, rfl⟩, -⟩, -⟩, -⟩, -⟩, -⟩, -⟩⟩ := h
  exact hdigest

theorem Belongs.readable : safeOnWire receipt.auditSequence = true ∧ uuidIsV7 receipt.receiptId = true := by
  simp only [Belongs, validateCommandReceiptBinding, CommandReceipt.validate, bind_eq_ok, mapError_eq_ok, reject_eq_ok,
    exists_unit, exists_const, Bool.or_eq_false_iff, Bool.not_eq_false'] at h
  obtain ⟨⟨⟨⟨⟨-, hsequence⟩, hids⟩, -⟩, -⟩, -⟩ := h
  exact ⟨hsequence, all_eq_true.mp hids receipt.receiptId (by simp [CommandReceipt.ids])⟩

end

/-- Every recorded command has its receipt, and no two share a key or an identifier. -/
structure Filed (H : ControlHashes) (s : Database) : Prop where
  paired : List.Forall₂ (Belongs H) s.commands s.receipts
  keys : Keyed (fun envelope => envelope.binding.key) s.commands
  ids : Keyed (fun envelope => envelope.binding.commandId) s.commands

/-- The command stands on file with this receipt. -/
def OnFile (s : Database) (envelope : CommandEnvelope) (receipt : CommandReceipt) : Prop :=
  (envelope, receipt) ∈ s.commands.zip s.receipts

private theorem map_eq_of_forall₂ {α β γ : Type} {R : α → β → Prop} {f : α → γ} {g : β → γ} {as : List α} {bs : List β}
    (h : List.Forall₂ R as bs) (hR : ∀ a b, R a b → g b = f a) : bs.map g = as.map f := by
  induction h with
  | nil => rfl
  | cons hab _ ih => rw [map_cons, map_cons, hR _ _ hab, ih]

theorem Filed.receiptKeys (h : Filed H s) : Keyed CommandReceipt.key s.receipts := by
  rw [Keyed, map_eq_of_forall₂ h.paired fun _ _ hb => hb.names.1]
  exact h.keys

theorem Filed.receiptIds (h : Filed H s) : Keyed CommandReceipt.commandId s.receipts := by
  rw [Keyed, map_eq_of_forall₂ h.paired fun _ _ hb => hb.names.2]
  exact h.ids

theorem Filed.belongs (h : Filed H s) (hfile : OnFile s envelope receipt) : Belongs H envelope receipt :=
  (forall₂_iff_zip.mp h.paired).2 hfile

theorem Filed.findCommand_eq (h : Filed H s) (hfile : OnFile s envelope receipt) {binding : CommandBinding}
    (hkey : binding.key = envelope.binding.key) : findCommand s binding = some (envelope, receipt) := by
  obtain ⟨hcommand, hreceipt⟩ := of_mem_zip hfile
  have hlookup : lookup CommandReceipt.commandId s.receipts envelope.binding.commandId = some receipt := by
    rw [← (h.belongs hfile).names.2]
    exact h.receiptIds.lookup_of_mem hreceipt
  -- only this envelope has the key, so the search can stop nowhere else
  have hhit (row : CommandEnvelope) : (row.binding.workspaceId = binding.workspaceId ∧
      row.binding.humanId = binding.humanId ∧ row.binding.idempotencyKey = binding.idempotencyKey) ↔
      row.binding.key = envelope.binding.key := by
    rw [← hkey, CommandBinding.key, CommandBinding.key, Prod.mk.injEq, Prod.mk.injEq]
  unfold findCommand
  simp only [hhit]
  cases hfound : s.commands.findSome? fun row => if row.binding.key = envelope.binding.key then
      (lookup CommandReceipt.commandId s.receipts row.binding.commandId).map fun receipt => (row, receipt)
    else none with
  | none =>
    have hmiss := List.findSome?_eq_none_iff.mp hfound envelope hcommand
    simp [hlookup] at hmiss
  | some found =>
    obtain ⟨row, hrow, hsome⟩ := exists_of_findSome?_eq_some hfound
    split at hsome
    · rename_i hrowKey
      obtain rfl := h.keys.eq_of_key_eq hrow hcommand hrowKey
      rw [hlookup, Option.map_some] at hsome
      exact hsome.symm
    · cases hsome

section
variable (h : Records C events s s' envelope receipt) (hs : Filed C.hashes s)
include h hs

theorem Records.filed : Filed C.hashes s' := by
  have hclash (row : CommandEnvelope) (hrow : row ∈ s.commands) :
      row.binding.commandId ≠ envelope.binding.commandId ∧ row.binding.key ≠ envelope.binding.key := by
    have hnew := h.new row hrow
    simp only [commandsClash, Bool.or_eq_false_iff, decide_eq_false_iff_not] at hnew
    refine ⟨hnew.1.1, fun hkey => hnew.2 ?_⟩
    simpa only [CommandBinding.key, Prod.mk.injEq] using hkey
  refine ⟨?_, ?_, ?_⟩
  · rw [h.commands, h.receipts]
    exact rel_append hs.paired (.cons h.sound .nil)
  · rw [h.commands]
    exact hs.keys.append fun row hrow => (hclash row hrow).2
  · rw [h.commands]
    exact hs.ids.append fun row hrow => (hclash row hrow).1

theorem Records.onFile : OnFile s' envelope receipt := by
  rw [OnFile, h.commands, h.receipts, zip_append hs.paired.length_eq]
  exact mem_append_right _ (mem_singleton_self _)

end

theorem Change.records_cases (h : Change C who now s s') :
    s'.commands = s.commands ∧ s'.receipts = s.receipts ∨
      ∃ events envelope receipt, Records C events s s' envelope receipt := by
  cases h with
  | noted | registered | claimed | relet | reserved | released | dispatched => exact .inl ⟨rfl, rfl⟩
  | recorded _ records => exact .inr ⟨_, _, _, records⟩
  | committed _ _ _ commits => exact .inl ⟨by rw [commits.rest], by rw [commits.rest]⟩
  | forfeited _ _ _ forfeits => exact .inl ⟨by rw [forfeits.rest], by rw [forfeits.rest]⟩
  | cancelled cancels =>
    obtain ⟨events, envelope, receipt, -, hrecords⟩ := cancels.recorded
    exact .inr ⟨events, envelope, receipt, hrecords⟩
  | resumed resumes =>
    obtain ⟨events, envelope, receipt, -, hrecords⟩ := resumes.recorded
    exact .inr ⟨events, envelope, receipt, hrecords⟩

theorem Change.filed (h : Change C who now s s') (hs : Filed C.hashes s) : Filed C.hashes s' := by
  rcases h.records_cases with ⟨hcommands, hreceipts⟩ | ⟨events, envelope, receipt, hrecords⟩
  · exact ⟨hcommands ▸ hreceipts ▸ hs.paired, hcommands ▸ hs.keys, hcommands ▸ hs.ids⟩
  · exact hrecords.filed hs

theorem Change.onFile (h : Change C who now s s') (hs : Filed C.hashes s)
    (hfile : OnFile s envelope receipt) : OnFile s' envelope receipt := by
  rcases h.records_cases with ⟨hcommands, hreceipts⟩ | ⟨events, _, _, hrecords⟩
  · rwa [OnFile, hcommands, hreceipts]
  · rw [OnFile, hrecords.commands, hrecords.receipts, zip_append hs.paired.length_eq]
    exact mem_append_left _ hfile

theorem Provisioned.filed (h : Provisioned s) : Filed H s := by
  refine ⟨?_, ?_, ?_⟩
  · rw [h.commands, h.receipts]
    exact .nil
  · rw [h.commands]
    exact nodup_nil
  · rw [h.commands]
    exact nodup_nil

theorem after_onFile (events : List Event) (hs : s.Keyed) (h : Filed C.hashes s) (hfile : OnFile s envelope receipt) :
    OnFile (after C events s) envelope receipt :=
  (after_invariant (I := fun s => Filed C.hashes s ∧ OnFile s envelope receipt)
    (fun _ hchange hboth => ⟨hchange.filed hboth.1, hchange.onFile hboth.1 hboth.2⟩) events hs ⟨h, hfile⟩).2

end Filing

/-! ### Sending a key again -/

section Again
variable {C : OperatorStoreContext} {signer : OperatorSigner} {s s' : Database} {request : CommandExecutionRequest}
  {envelope : CommandEnvelope} {receipt : CommandReceipt} {o : Nat → Answer} {n m : Nat}

/-- Once its key is on file a command is answered from the file, or refused. -/
theorem executeOperatorCommand_again (hfound : findCommand s request.command.binding = some (envelope, receipt)) :
    let out := executeOperatorCommand C signer request o s n
    (∃ e, out.result = .error e ∧ (out.state = s ∨ e = .conflict ∧
        ∃ event, event.kind = .commandConflict ∧ Audits C.hashes [event] s out.state)) ∨
      out.result = .ok ⟨.exactReplay, receipt⟩ ∧ out.state = s ∧ request.command = envelope.command := by
  intro out
  rcases lift_atomically_cases (executeInTransaction C signer request) o s n with ⟨e, he, hs⟩ | ⟨r, s', n', h, hr, hs'⟩
  · exact .inl ⟨e, he, .inl hs⟩
  have hr : out.result = r := hr
  have hs' : out.state = s' := hs'
  obtain ⟨-, h⟩ := returns_statement_bind.mp h
  obtain ⟨workspace, _, hscope, h⟩ := (readOnly_validateCommandScope _).returns_bind h
  simp only [returns_orElse_bind, returns_select_bind, hfound] at h
  obtain ⟨requestDigest, -, -, h⟩ := h
  unfold repeatCommand at h
  split at h
  · simp only [returns_failIf_bind, returns_uuidColumn_bind, returns_lift_bind, returns_statement_bind, returns_pure,
      exists_unit, bne_eq_false_iff_eq] at h
    obtain ⟨hcommand, -, -, -, -, rfl, rfl, -⟩ := h
    exact .inr ⟨hr, hs', hcommand.symm⟩
  · simp only [returns_operatorNow_bind, returns_operatorUuid_bind] at h
    obtain ⟨now, -, eventId, -, h⟩ := h
    obtain ⟨event, _, hevent, rfl⟩ := returns_commit h
    obtain ⟨appended, hkind, haudits⟩ := appendAuditEvent_kind hevent
    rw [commandEvent_kind] at hkind
    exact .inl ⟨_, hr, .inr ⟨rfl, appended, hkind, hs' ▸ haudits⟩⟩

variable {workspace : OperatorWorkspace}

/-- The same command is answered with its receipt. Neither the time nor a fresh name is asked for. -/
theorem executeOperatorCommand_replays (signer : OperatorSigner) (hworks : ∀ k, (o k).works = true)
    (hscope : Returns (validateCommandScope C request) o s (n + 1) workspace s m)
    (hfound : findCommand s request.command.binding = some (envelope, receipt)) (hb : Belongs C.hashes envelope receipt)
    (hcommand : request.command = envelope.command) :
    executeOperatorCommand C signer request o s n = ⟨.ok ⟨.exactReplay, receipt⟩, s, m + 2⟩ := by
  refine lift_atomically_of_returns (returns_statement_bind.mpr ⟨hworks n, returns_bind.mpr ⟨_, _, _, hscope, ?_⟩⟩)
  simp only [returns_orElse_bind, returns_select_bind, hfound]
  refine ⟨envelope.requestDigest, hcommand ▸ hb.digest, hworks m, ?_⟩
  obtain ⟨hsequence, hreceiptId⟩ := hb.readable
  simp only [repeatCommand, beq_self_eq_true, if_true, returns_failIf_bind, returns_uuidColumn_bind, returns_lift_bind,
    returns_statement_bind, returns_pure, exists_unit]
  exact ⟨by simp [hcommand], by simp [hsequence], hreceiptId, hb, hworks _, trivial, trivial, trivial⟩

/-- The event can be noted next: its name is fresh, its time can be written, the chain is not full, and its digest is
no other event's. -/
structure Notable (C : OperatorStoreContext) (s : Database) (event : AuditEvent) : Prop where
  id : uuidIsV7 event.eventId = true
  time : timeOnWire event.occurredAt = true
  room : (s.journal.chainOf event.workspaceId).length < maxSafeInteger
  fresh : ∀ row ∈ s.journal.auditEvents, row.eventId ≠ event.eventId
  distinct : ∀ row ∈ s.journal.auditEvents, row.eventDigest ≠ C.hashes.auditEvent
    (event.linked ((s.journal.chainOf event.workspaceId).length + 1)
      (tip AuditEvent.eventDigest (s.journal.chainOf event.workspaceId)) .blank)

section
variable (hworks : ∀ k, (o k).works = true) (hchained : s.journal.Chained C.hashes)
  (hheads : Keyed AuditHead.workspaceId s.journal.auditHeads)
include hworks hchained hheads

theorem appendAuditEvent_returns {event : AuditEvent} {head : AuditHead}
    (hhead : lookup AuditHead.workspaceId s.journal.auditHeads event.workspaceId = some head)
    (hnotable : Notable C s event) (hlink : let sequence := head.lastSequence + 1
      (event.linked sequence head.lastDigest (C.hashes.auditEvent (event.linked sequence head.lastDigest
        .blank))).validateChainLink C.hashes sequence head.lastDigest = .ok ()) :
    ∃ linked s', Returns (appendAuditEvent C event) o s n linked s' (n + 3) := by
  obtain ⟨hlength, htip⟩ := hchained.head _ _ hhead
  obtain ⟨hmem, hworkspace⟩ := lookup_eq_some hhead
  have hnext : nextSafe head.lastSequence = some (head.lastSequence + 1) := by
    have hroom := hnotable.room
    rw [← hlength] at hroom
    exact if_pos hroom
  have hunused (row : AuditEvent) (hrow : row ∈ s.journal.auditEvents) (hsame : row.workspaceId = event.workspaceId) :
      row.sequence ≠ head.lastSequence + 1 := by
    have hin : row ∈ s.journal.chainOf event.workspaceId := by simp [Journal.chainOf, hrow, hsame]
    obtain ⟨i, hi⟩ := List.getElem?_of_mem hin
    have hplace := (hchained.link hi).1
    have hbound : i < (s.journal.chainOf event.workspaceId).length := (List.getElem?_eq_some_iff.mp hi).1
    omega
  have hupdate : ∃ heads, replaceOne (fun row : AuditHead =>
      decide (row.workspaceId = event.workspaceId ∧ row.lastSequence = head.lastSequence))
      { head with
        lastSequence := head.lastSequence + 1
        lastDigest := some (C.hashes.auditEvent (event.linked (head.lastSequence + 1) head.lastDigest .blank)) }
      s.journal.auditHeads = some heads :=
    hheads.replaceOne_isSome _ hmem (by simp [hworkspace]) fun row hrow => by
      simp only [decide_eq_true_eq] at hrow
      exact hrow.1.trans hworkspace.symm
  obtain ⟨heads, hupdate⟩ := hupdate
  have hdistinct := hnotable.distinct
  rw [← hlength, ← htip] at hdistinct
  have hdigest := hlink
  simp only [validateChainLink, bind_eq_ok, reject_eq_ok, exists_const, bne_eq_false_iff_eq] at hdigest
  obtain ⟨-, -, -, -, -, _, hdigest, rfl⟩ := hdigest
  simp only [appendAuditEvent, returns_select_bind, returns_orFail_bind, returns_orElse_bind, returns_insertInto_bind,
    returns_updateIn_bind, returns_pure, exists_unit]
  refine ⟨_, _, hworks _, head, hhead, _, hnext, _, hdigest, hlink, hworks _, fun row hrow => ?_, hworks _, heads,
    hupdate, rfl, rfl, trivial⟩
  rw [Bool.or_eq_false_iff, Bool.or_eq_false_iff, decide_eq_false_iff_not, decide_eq_false_iff_not,
    decide_eq_false_iff_not, not_and]
  exact ⟨⟨hunused row hrow, hnotable.fresh row hrow⟩, hdistinct row hrow⟩

theorem executeOperatorCommand_conflicts {eventId : Uuid} {head : AuditHead}
    (hscope : Returns (validateCommandScope C request) o s (n + 1) workspace s m)
    (hfound : findCommand s request.command.binding = some (envelope, receipt))
    (honWire : request.command.onWire = true) (hdigest : C.hashes.command request.command ≠ envelope.requestDigest)
    (hnow : (o (m + 1)).now = some now) (hid : (o (m + 2)).uuid = some eventId)
    (hhead : lookup AuditHead.workspaceId s.journal.auditHeads request.command.binding.workspaceId = some head)
    (hnotable : Notable C s (conflictEvent request.command (C.hashes.command request.command) now eventId)) :
    let out := executeOperatorCommand C signer request o s n
    out.result = .error .conflict ∧ ∃ event, event.kind = .commandConflict ∧ Audits C.hashes [event] s out.state := by
  intro out
  have hvalid := validateCommandScope_valid hscope
  have hworkspace : (conflictEvent request.command (C.hashes.command request.command) now eventId).workspaceId =
      request.command.binding.workspaceId := commandEvent_workspaceId _ _ _ _ _ _
  have hoccurred : (conflictEvent request.command (C.hashes.command request.command) now eventId).occurredAt = now := by
    cases request.command <;> rfl
  have heventId : (conflictEvent request.command (C.hashes.command request.command) now eventId).eventId = eventId := by
    cases request.command <;> rfl
  rw [← hworkspace] at hhead
  obtain ⟨hlength, htip⟩ := hchained.head _ _ hhead
  have hfirst : (head.lastSequence + 1 == 1) = head.lastDigest.isNone := by
    rw [hlength, htip, tip]
    cases hchain : (s.journal.chainOf _).getLast? with
    | none => simp [List.getLast?_eq_none_iff.mp hchain]
    | some last => simp [length_eq_zero_iff, ne_nil_of_mem (mem_of_getLast? hchain)]
  have hsafe : safeOnWire (head.lastSequence + 1) = true := by
    have hroom := hnotable.room
    rw [← hlength] at hroom
    exact decide_eq_true hroom
  have hsubjects : allV7 request.command.shape.subjects = true := by
    simp only [OperatorCommand.onWire, allV7, Bool.and_eq_true, all_eq_true] at honWire ⊢
    intro id hid
    refine honWire.1 id (mem_append_right _ ?_)
    simp [CommandShape.subjects, CommandShape.ids, List.reduceOption] at hid ⊢
    tauto
  have hlink := (failureEvent_link C.hashes .conflict request.command (C.hashes.command request.command) eventId
    (hoccurred ▸ hnotable.time) hsafe (Nat.succ_ne_zero _) hfirst).mpr
      ⟨(failureEvent_ids hvalid (heventId ▸ hnotable.id)).trans hsubjects, by simp,
      (failureEvent_validProfile hvalid).mpr trivial⟩
  obtain ⟨linked, s', happend⟩ :=
    appendAuditEvent_returns (n := m + 3) hworks hchained hheads hhead hnotable hlink
  have hreturns : Returns (executeInTransaction C signer request) o s n (.error .conflict) s' (m + 7) := by
    refine returns_statement_bind.mpr ⟨hworks n, returns_bind.mpr ⟨_, _, _, hscope, ?_⟩⟩
    simp only [returns_orElse_bind, returns_select_bind, hfound]
    refine ⟨C.hashes.command request.command, if_pos honWire, hworks m, ?_⟩
    rw [repeatCommand, if_neg (by simpa using hdigest.symm)]
    simp only [returns_operatorNow_bind, returns_operatorUuid_bind]
    refine ⟨now, hnow, eventId, hid, returns_bind.mpr ⟨_, _, _, happend, ?_⟩⟩
    exact returns_statement_bind.mpr ⟨hworks _, rfl⟩
  have hout : out = ⟨.error .conflict, s', m + 7⟩ := lift_atomically_of_returns hreturns
  obtain ⟨appended, hkind, haudits⟩ := appendAuditEvent_kind happend
  rw [conflictEvent, commandEvent_kind] at hkind
  rw [hout]
  exact ⟨rfl, appended, hkind, haudits⟩

end

end Again

/-! ### Whole histories -/

section Histories
variable {C : OperatorStoreContext} {s : Database}

theorem Grows.headsKeyed {H : ControlHashes} {journal journal' : Journal}
    (h : Grows H journal events journal') (hk : Keyed AuditHead.workspaceId journal.auditHeads) :
    Keyed AuditHead.workspaceId journal'.auditHeads := by
  induction h with
  | refl => exact hk
  | projected _ _ _ ih => exact ih
  | audited _ links ih =>
    obtain ⟨head, hrows, -⟩ := links.head
    exact ih.replaces hrows

/-- What the log of a store in use satisfies, and the file of its commands. -/
structure Kept (C : OperatorStoreContext) (s : Database) : Prop where
  keyed : s.Keyed
  filed : Filed C.hashes s
  chained : s.journal.Chained C.hashes
  heads : Keyed AuditHead.workspaceId s.journal.auditHeads

theorem Change.kept {s' : Database} (h : Change C who now s s') (hs : Kept C s) : Kept C s' := by
  obtain ⟨events, hgrows⟩ := h.grows
  exact ⟨h.keyed hs.keyed, h.filed hs.filed, hgrows.chained hs.chained, hgrows.headsKeyed hs.heads⟩

theorem Kept.after (hs : Kept C s) (events : List Event) : Kept C (after C events s) :=
  after_invariant (fun _ h => h.kept) events hs.keyed hs

/-- A command that was carried out is on file, and its workspace has a chain. -/
theorem Kept.of_carriedOut {signer : OperatorSigner} {request : CommandExecutionRequest} {o : Nat → Answer} {n : Nat}
    {result : CommandResult} (hs : Kept C s) (hok : (executeOperatorCommand C signer request o s n).result = .ok result)
    (hfresh : result.outcome ≠ .exactReplay) :
    let s' := (executeOperatorCommand C signer request o s n).state
    Kept C s' ∧ s'.journal.chainOf request.command.binding.workspaceId ≠ [] ∧
      ∃ envelope, envelope.command = request.command ∧ OnFile s' envelope result.receipt := by
  intro s'
  rcases executeOperatorCommand_did (C := C) signer hs.keyed request o n with ⟨error, he, -⟩ | hdid
  · cases he.symm.trans hok
  have heffect := hdid.effect
  rw [hok] at hdid
  rcases hdid with ⟨hreplay, -⟩ | ⟨now, m, envelope, -, hcommand, -, ⟨events, hgrows, hrecords⟩, -⟩
  · exact absurd hreplay hfresh
  have hkept : Kept C s' := by
    rcases heffect with hsame | ⟨now, n, -, hchange⟩
    · exact (show s' = s from hsame) ▸ hs
    · exact hchange.kept hs
  refine ⟨hkept, ?_, envelope, hcommand, hrecords.onFile hs.filed⟩
  obtain ⟨event, hevent, hworkspace, -⟩ := hrecords.event
  have hkey := congrArg Prod.fst (Belongs.names hrecords.sound).1
  refine ne_nil_of_mem (a := event) ?_
  simp only [Journal.chainOf, mem_filter, decide_eq_true_eq]
  refine ⟨?_, ?_⟩
  · rw [show s'.journal.auditEvents = s.journal.auditEvents ++ events from hgrows.auditEvents_eq]
    exact mem_append_right _ hevent
  · rw [hworkspace, ← hcommand]
    exact hkey

end Histories

/-- Another cancel under the key of the first. -/
def otherCancel : OperatorCommand := .runCancel
    { cancelEcho with binding := sessionBinding sampleContext (.v7 52) (.v7 51) }

end ProofPlatform.Operator
