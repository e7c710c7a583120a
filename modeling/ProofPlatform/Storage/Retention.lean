import ProofPlatform.Storage.ContentStore

/-! When a referenced blob is kept: a reference is lost only through a check that has gone stale. -/
namespace ProofPlatform.Storage
open Kernel List
open Library.Interaction Procedure ContentAddressedStore CasState

/-- What a thread holds the mutex for: a deleted blob, unreferenced blobs, or files without a row. -/
inductive LockPhase where
  | free
  | deleting (digest : ContentDigest)
  | collecting (batch : List ContentDigest)
  | sweeping (unknown : List ContentDigest)

namespace LockPhase
variable (hash : Content → ContentDigest)

def Allows : LockPhase → CasRequest → Prop
  | .free, .removeRow _ | .free, .commit | .free, .abandon | .free, .queryKnown _ | .free, .release
  | .free, .unlink _ | .free, .listFiles => False
  | .free, .persist digest content => hash content = digest
  | .free, _ => True
  | .deleting digest, .unlink other => other = digest
  | .deleting _, .release => True
  | .collecting batch, .unlink digest | .collecting batch, .removeRow digest => digest ∈ batch
  | .collecting _, .commit | .collecting _, .abandon => True
  | .sweeping unknown, .unlink digest => digest ∈ unknown
  | .sweeping _, .listFiles | .sweeping _, .queryKnown _ | .sweeping _, .isFile _ | .sweeping _, .release => True
  | _, _ => False

def next (phase : LockPhase) : (request : CasRequest) → casInterface.Answer request → LockPhase
  | .deleteBlob digest, reply =>
    match reply with
    | some (_ + 1) => .deleting digest
    | _ => phase
  | .beginCollection, reply =>
    match reply with
    | some rows => .collecting (rows.map BlobRow.digest)
    | none => phase
  | .commit, reply =>
    match reply with
    | some () => .sweeping []
    | none => phase
  | .queryKnown digest, reply =>
    match phase, reply with
    | .sweeping unknown, some false => .sweeping (digest :: unknown)
    | phase, _ => phase
  | .abandon, _ => .free
  | .release, _ => .free
  | _, _ => phase

end LockPhase

variable {digest : ContentDigest} {request : CasRequest} {reply : casInterface.Answer request} {content : Content}

section Monitored
variable (hash : Content → ContentDigest)

abbrev lockMonitor : Monitor casInterface where
  Phase := LockPhase
  allows := LockPhase.Allows hash
  relies _ _ _ := True
  next := LockPhase.next

/-- The call takes the mutex only as its phases allow and has given it back at the end. -/
def Orderly {α : Type} (p : CasM α) : Prop :=
  Procedure.Obeys (lockMonitor hash) (fun phase _ => phase = .free) (fun phase _ => phase = .free) LockPhase.free p

variable {hash} {fail : LockPhase → StorageError → Prop} {phase : LockPhase}

theorem obeys_step {post : LockPhase → casInterface.Answer request → Prop} :
    Procedure.Obeys (lockMonitor hash) post fail phase (step request) ↔
      phase.Allows hash request ∧ ∀ reply, post (phase.next request reply) reply := by
  rw [step, obeys_call]
  exact and_congr_right fun _ => forall_congr' fun _ => true_imp_iff

theorem obeys_orFail {α : Type} {post : LockPhase → α → Prop} {value : Option α} {error : StorageError}
    (hsome : ∀ a, value = some a → post phase a) (hnone : value = none → fail phase error) :
    Procedure.Obeys (lockMonitor hash) post fail phase (orFail value error) := by
  rw [orFail, obeys_ofExcept]
  cases value with
  | none =>
    refine ⟨fun _ h => (by cases h), fun e h => ?_⟩
    cases h
    exact hnone rfl
  | some a =>
    refine ⟨fun b h => ?_, fun _ h => (by cases h)⟩
    cases h
    exact hsome a rfl

section Bind
variable {α β : Type} {post : LockPhase → β → Prop}

theorem obeys_step_bind {f : casInterface.Answer request → CasM β} :
    Procedure.Obeys (lockMonitor hash) post fail phase (step request >>= f) ↔ phase.Allows hash request ∧
      ∀ reply, Procedure.Obeys (lockMonitor hash) post fail (phase.next request reply) (f reply) := by
  rw [obeys_bind, obeys_step]

theorem obeys_orFail_bind {value : Option α} {error : StorageError} {f : α → CasM β}
    (hsome : ∀ a, value = some a → Procedure.Obeys (lockMonitor hash) post fail phase (f a))
    (hnone : value = none → fail phase error) :
    Procedure.Obeys (lockMonitor hash) post fail phase (orFail value error >>= f) :=
  obeys_bind.mpr (obeys_orFail hsome hnone)

end Bind

theorem obeys_existsBlob {post : LockPhase → Bool → Prop}
    (hpost : ∀ found, post .free found) (hfail : fail .free .database) :
    Procedure.Obeys (lockMonitor hash) post fail LockPhase.free (existsBlob digest) := by
  refine obeys_step_bind.mpr ⟨trivial, fun reply => obeys_orFail_bind (fun recorded _ => ?_) fun _ => hfail⟩
  split
  · exact obeys_step.mpr ⟨trivial, fun found => hpost found⟩
  · exact hpost false

theorem orderly_put : Orderly hash (put hash content) := by
  rw [Orderly, put, obeys_bind]
  refine obeys_existsBlob (fun found => ?_) rfl
  split
  · rfl
  · refine obeys_step_bind.mpr ⟨trivial, fun created => obeys_orFail_bind (fun _ _ => ?_) fun _ => rfl⟩
    refine obeys_step_bind.mpr ⟨trivial, fun written => obeys_orFail_bind (fun _ _ => ?_) fun _ => rfl⟩
    rw [obeys_bind, persistBlob]
    refine obeys_step_bind.mpr ⟨rfl, fun persisted => ?_⟩
    split
    · exact obeys_step_bind.mpr ⟨trivial, fun there => rfl⟩
    · rw [obeys_pure]
      exact obeys_step_bind.mpr ⟨trivial, fun inserted => obeys_orFail_bind (fun _ _ => rfl) fun _ => rfl⟩

theorem orderly_get : Orderly hash (get hash digest) := by
  rw [Orderly, ContentAddressedStore.get, obeys_bind]
  refine obeys_existsBlob (fun found => ?_) rfl
  split
  · refine obeys_step_bind.mpr ⟨trivial, fun outcome => ?_⟩
    cases outcome with
    | content bytes =>
      dsimp only
      split <;> rfl
    | notFound | failed => rfl
  · rfl

variable {reference : BlobReference}

theorem orderly_addReference : Orderly hash (addReference digest reference) := by
  rw [Orderly, addReference, obeys_bind]
  refine obeys_existsBlob (fun found => ?_) rfl
  split
  · exact obeys_step_bind.mpr ⟨trivial, fun inserted => obeys_orFail (fun _ _ => rfl) fun _ => rfl⟩
  · rfl

theorem orderly_removeReference : Orderly hash (removeReference digest reference) := by
  exact obeys_step_bind.mpr ⟨trivial, fun deleted => obeys_orFail_bind (fun _ _ => rfl) fun _ => rfl⟩

theorem orderly_delete : Orderly hash (delete digest) := by
  refine obeys_step_bind.mpr ⟨trivial, fun counted => obeys_orFail_bind (fun referenceCount _ => ?_) fun _ => rfl⟩
  split
  · rfl
  · rw [obeys_bind]
    refine obeys_existsBlob (fun found => ?_) rfl
    split
    · refine obeys_step_bind.mpr ⟨trivial, fun deleted => obeys_orFail_bind (fun count hcount => ?_) ?_⟩
      · subst hcount
        cases count with
        | zero => rfl
        | succ count =>
          rw [if_neg (Nat.succ_ne_zero count)]
          refine obeys_step_bind.mpr ⟨rfl, fun outcome => obeys_step_bind.mpr ⟨trivial, fun _ => ?_⟩⟩
          cases outcome <;> rfl
      · intro hnone
        subst hnone
        rfl
    · rfl

/-- The pass over the batch, by induction on the rows left. -/
theorem obeys_collectUnreferenced {batch : List ContentDigest} {post : LockPhase → Nat × Nat → Prop}
    (hpost : ∀ counts, post (.collecting batch) counts) (hfail : ∀ error, fail .free error) {rows : List BlobRow} :
    ∀ {removed reclaimed : Nat}, (∀ row ∈ rows, row.digest ∈ batch) →
    Procedure.Obeys (lockMonitor hash) post fail (LockPhase.collecting batch)
      (collectUnreferenced rows removed reclaimed) := by
  induction rows with
  | nil => exact fun _ => hpost _
  | cons row rows ih =>
    intro removed reclaimed hrows
    obtain ⟨hrow, hrows⟩ := forall_mem_cons.mp hrows
    refine obeys_step_bind.mpr ⟨hrow, fun outcome => ?_⟩
    cases outcome with
    | failed => exact obeys_step_bind.mpr ⟨trivial, fun _ => hfail _⟩
    | removed | notFound =>
      refine obeys_step_bind.mpr ⟨hrow, fun reply => ?_⟩
      cases reply with
      | none => exact obeys_step_bind.mpr ⟨trivial, fun _ => hfail _⟩
      | some _ => exact ih hrows

/-- The files found without a row stay on the list of the phase. -/
theorem obeys_orphanedBlobs (hfail : ∀ error, fail .free error)
    {listed : List ContentDigest} : ∀ {unknown : List ContentDigest} {post : LockPhase → List ContentDigest → Prop},
    (∀ unknown' orphans, unknown ⊆ unknown' → orphans ⊆ unknown' → post (.sweeping unknown') orphans) →
    Procedure.Obeys (lockMonitor hash) post fail (LockPhase.sweeping unknown) (orphanedBlobs listed) := by
  induction listed with
  | nil => exact fun hpost => hpost _ _ (List.Subset.refl _) (nil_subset _)
  | cons digest listed ih =>
    intro unknown post hpost
    refine obeys_step_bind.mpr ⟨trivial, fun known => ?_⟩
    match known with
    | none => exact obeys_step_bind.mpr ⟨trivial, fun _ => hfail _⟩
    | some true => exact ih hpost
    | some false =>
      refine obeys_step_bind.mpr ⟨trivial, fun there => ?_⟩
      rw [obeys_bind]
      change Procedure.Obeys (lockMonitor hash) _ fail (LockPhase.sweeping (digest :: unknown)) _
      refine ih fun unknown' orphans hsubset horphans => ?_
      have hdigest : digest ∈ unknown' := hsubset mem_cons_self
      refine hpost _ _ (fun _ h => hsubset (mem_cons_of_mem _ h)) ?_
      split
      · exact cons_subset.mpr ⟨hdigest, horphans⟩
      · exact horphans

theorem obeys_sweepOrphans {unknown : List ContentDigest} {post : LockPhase → Nat → Prop}
    (hpost : ∀ count, post (.sweeping unknown) count) (hfail : ∀ error, fail .free error)
    {orphans : List ContentDigest} : ∀ {removed : Nat}, orphans ⊆ unknown →
    Procedure.Obeys (lockMonitor hash) post fail (LockPhase.sweeping unknown) (sweepOrphans orphans removed) := by
  induction orphans with
  | nil => exact fun _ => hpost _
  | cons digest orphans ih =>
    intro removed hsubset
    obtain ⟨hdigest, hsubset⟩ := cons_subset.mp hsubset
    refine obeys_step_bind.mpr ⟨hdigest, fun outcome => ?_⟩
    cases outcome with
    | failed => exact obeys_step_bind.mpr ⟨trivial, fun _ => hfail _⟩
    | removed | notFound => exact ih hsubset

theorem orderly_collectGarbage : Orderly hash collectGarbage := by
  refine obeys_step_bind.mpr ⟨trivial, fun selected => obeys_orFail_bind (fun rows hrows => ?_) ?_⟩
  · subst hrows
    rw [obeys_bind]
    refine obeys_collectUnreferenced (fun counts => ?_) (fun _ => rfl) fun row hrow => mem_map_of_mem hrow
    refine obeys_step_bind.mpr ⟨trivial, fun committed => ?_⟩
    cases committed with
    | none => exact obeys_step_bind.mpr ⟨trivial, fun _ => rfl⟩
    | some _ =>
      refine obeys_step_bind.mpr ⟨trivial, fun listed => ?_⟩
      cases listed with
      | none => exact obeys_step_bind.mpr ⟨trivial, fun _ => rfl⟩
      | some listed =>
        rw [obeys_bind]
        refine obeys_orphanedBlobs (fun _ => rfl) fun unknown orphans _ horphans => ?_
        rw [obeys_bind]
        refine obeys_sweepOrphans (fun count => ?_) (fun _ => rfl) horphans
        exact obeys_step_bind.mpr ⟨trivial, fun _ => rfl⟩
  · intro hnone
    subst hnone
    rfl

theorem Orderly.map {α : Type} {p : CasM α} (h : Orderly hash p) (f : Except StorageError α → CasResult) :
    (f <$> p.run).Obeys (lockMonitor hash) (fun phase _ => phase = .free) LockPhase.free := by
  change (p.run >>= fun result => .done (f result)).Obeys _ _ _
  rw [Program.obeys_bind]
  refine Program.Obeys.mono h fun mid result hfree => ?_
  cases result <;> exact hfree

theorem CasCall.obeys (call : CasCall) :
    (call.program hash).Obeys (lockMonitor hash) (fun phase _ => phase = .free) LockPhase.free := by
  cases call with
  | put content => exact orderly_put.map _
  | get digest => exact orderly_get.map _
  | addReference digest reference => exact orderly_addReference.map _
  | removeReference digest reference => exact orderly_removeReference.map _
  | delete digest => exact orderly_delete.map _
  | collectGarbage => exact orderly_collectGarbage.map _

theorem Thread.obeys (thread : Thread) :
    (thread.program hash).Obeys (lockMonitor hash) (fun phase _ => phase = .free) LockPhase.free := by
  induction thread with
  | stop => exact rfl
  | call first next ih =>
    rw [Thread.program, Program.obeys_bind]
    refine first.obeys.mono ?_
    rintro _ result rfl
    exact ih result

end Monitored

/-- The store between calls: contents match their digests, references have row and file, and an open transaction has
left them alone. -/
structure CasState.Kept (hash : Content → ContentDigest) (s : CasState) : Prop where
  contents : ∀ digest content, s.file digest = some content → hash content = digest
  rows : ∀ row ∈ s.db.references, s.db.hasBlob row.digest = true
  present : ∀ row ∈ s.db.references, (s.file row.digest).isSome = true
  saved : ∀ db, s.saved = some db → db.references = s.db.references ∧
    ∀ digest, s.db.hasBlob digest = true → db.hasBlob digest = true
  closed : s.locked = false → s.saved = none

/-- What a phase rests on in the shared state. -/
def LockPhase.Grants : LockPhase → CasState → Prop
  | .free, _ => True
  | .deleting digest, s => s.locked = true ∧ s.db.hasBlob digest = false ∧ s.saved = none
  | .collecting batch, s => s.locked = true ∧ s.saved.isSome = true ∧
    ∀ digest ∈ batch, ∀ row ∈ s.db.references, row.digest ≠ digest
  | .sweeping unknown, s => s.locked = true ∧ s.saved = none ∧ ∀ digest ∈ unknown, s.db.hasBlob digest = false

/-- The check of a step still holds: an added reference has its file, and a deleted blob no reference. -/
def CasState.Fresh (s : CasState) : CasRequest → Prop
  | .insertReference row => (s.file row.digest).isSome = true
  | .deleteBlob digest => s.db.referenceCount digest = 0
  | _ => True

section Steps
variable {hash : Content → ContentDigest} {s s' : CasState} {phase : LockPhase}

theorem lookup_cons_if (digest other : ContentDigest) (content : Content) (files : List (ContentDigest × Content)) :
    ((digest, content) :: files).lookup other = if other = digest then some content else files.lookup other := by
  rw [lookup_cons]
  split
  · rename_i heq
    rw [if_pos (beq_iff_eq.mp heq)]
  · rename_i hne
    rw [if_neg (beq_eq_false_iff_ne.mp hne)]

theorem lookup_filter_ne (files : List (ContentDigest × Content)) (digest other : ContentDigest) :
    (files.filter fun file => decide (file.1 ≠ digest)).lookup other =
      if other = digest then none else files.lookup other := by
  induction files with
  | nil => simp
  | cons file files ih =>
    obtain ⟨found, content⟩ := file
    by_cases hfound : found = digest
    · rw [filter_cons_of_neg (by simpa using hfound), ih, lookup_cons_if, hfound]
      split <;> rfl
    · rw [filter_cons_of_pos (by simpa using hfound), lookup_cons_if, lookup_cons_if, ih]
      by_cases hother : other = found
      · simp [hother, hfound]
      · simp [hother]

theorem file_withoutFile (digest other : ContentDigest) :
    (s.withoutFile digest).file other = if other = digest then none else s.file other :=
  lookup_filter_ne _ _ _

theorem file_withFile (digest other : ContentDigest) (content : Content) :
    (s.withFile digest content).file other = if other = digest then some content else s.file other := by
  change List.lookup other ((digest, content) :: _) = _
  rw [lookup_cons_if, lookup_filter_ne]
  split <;> rfl

section Database
variable {db : CasDatabase} {digest other : ContentDigest}

theorem hasBlob_iff : db.hasBlob digest = true ↔ ∃ row ∈ db.blobs, row.digest = digest := by
  simp [CasDatabase.hasBlob]

theorem referenceCount_eq_zero : db.referenceCount digest = 0 ↔ ∀ row ∈ db.references, row.digest ≠ digest := by
  simp [CasDatabase.referenceCount]

theorem hasBlob_insertBlob {sizeBytes : Nat} (h : db.hasBlob other = true) :
    (db.insertBlob digest sizeBytes).hasBlob other = true := by
  unfold CasDatabase.insertBlob
  split
  · exact h
  · obtain ⟨row, hrow, heq⟩ := hasBlob_iff.mp h
    exact hasBlob_iff.mpr ⟨row, mem_append_left _ hrow, heq⟩

theorem references_insertBlob (sizeBytes : Nat) : (db.insertBlob digest sizeBytes).references = db.references := by
  unfold CasDatabase.insertBlob
  split <;> rfl

theorem mem_insertReference {row other : ReferenceRow} :
    other ∈ (db.insertReference row).references ↔ other ∈ db.references ∨ other = row := by
  unfold CasDatabase.insertReference
  split
  · rename_i hcontains
    rw [contains_iff_mem] at hcontains
    exact ⟨.inl, fun h => h.elim id fun heq => heq ▸ hcontains⟩
  · simp

theorem hasBlob_insertReference (row : ReferenceRow) : (db.insertReference row).hasBlob other = db.hasBlob other := by
  unfold CasDatabase.insertReference
  split <;> rfl

theorem hasBlob_deleteBlob :
    (db.deleteBlob digest).hasBlob other = true ↔ db.hasBlob other = true ∧ other ≠ digest := by
  rw [hasBlob_iff, hasBlob_iff]
  constructor
  · rintro ⟨row, hrow, rfl⟩
    obtain ⟨hrow, hne⟩ := mem_filter.mp hrow
    exact ⟨⟨row, hrow, rfl⟩, by simpa using hne⟩
  · rintro ⟨⟨row, hrow, rfl⟩, hne⟩
    exact ⟨row, mem_filter.mpr ⟨hrow, by simpa using hne⟩, rfl⟩

theorem references_deleteBlob (h : ∀ row ∈ db.references, row.digest ≠ digest) :
    (db.deleteBlob digest).references = db.references :=
  filter_eq_self.mpr fun row hrow => by simpa using h row hrow

theorem mem_unreferenced {row : BlobRow} (h : row ∈ db.unreferenced) :
    ∀ reference ∈ db.references, reference.digest ≠ row.digest := by
  have hnone := (mem_filter.mp h).2
  simpa using hnone

end Database

section
variable (hkept : s.Kept hash)
include hkept

theorem CasState.Kept.unreferenced (h : s.db.hasBlob digest = false) :
    ∀ row ∈ s.db.references, row.digest ≠ digest := by
  rintro row hrow rfl
  rw [hkept.rows row hrow] at h
  cases h

theorem CasState.Kept.deleteRow (h : ∀ row ∈ s.db.references, row.digest ≠ digest) (hlocked : s.locked = true) :
    Kept hash { s with db := s.db.deleteBlob digest } where
  contents := hkept.contents
  rows row hrow := by
    rw [references_deleteBlob h] at hrow
    exact hasBlob_deleteBlob.mpr ⟨hkept.rows row hrow, h row hrow⟩
  present row hrow := by
    rw [references_deleteBlob h] at hrow
    exact hkept.present row hrow
  saved db hdb := by
    obtain ⟨hreferences, hblobs⟩ := hkept.saved db hdb
    exact ⟨hreferences.trans (references_deleteBlob h).symm, fun other hother =>
      hblobs other (hasBlob_deleteBlob.mp hother).1⟩
  closed hopen := absurd hopen (by simp [hlocked])

theorem CasState.Kept.removeFile
    (h : ∀ row ∈ s.db.references, row.digest ≠ digest) : (s.withoutFile digest).Kept hash where
  contents other content hfile := by
    rw [file_withoutFile] at hfile
    split at hfile
    · cases hfile
    · exact hkept.contents other content hfile
  rows := hkept.rows
  present row hrow := by
    rw [file_withoutFile, if_neg (h row hrow)]
    exact hkept.present row hrow
  saved := hkept.saved
  closed := hkept.closed

theorem CasState.Kept.writeFile (h : hash content = digest) : (s.withFile digest content).Kept hash where
  contents other found hfile := by
    rw [file_withFile] at hfile
    split at hfile
    · rename_i heq
      cases hfile
      exact h.trans heq.symm
    · exact hkept.contents other found hfile
  rows := hkept.rows
  present row hrow := by
    rw [file_withFile]
    split
    · rfl
    · exact hkept.present row hrow
  saved := hkept.saved
  closed := hkept.closed

end

theorem LockPhase.Grants.unlinkable (hgrants : phase.Grants s) (hkept : s.Kept hash)
    (hallows : phase.Allows hash (.unlink digest)) : ∀ row ∈ s.db.references, row.digest ≠ digest := by
  cases phase with
  | free => exact absurd hallows id
  | deleting deleted =>
    obtain rfl : digest = deleted := hallows
    exact hkept.unreferenced hgrants.2.1
  | collecting batch => exact hgrants.2.2 digest hallows
  | sweeping unknown => exact hkept.unreferenced (hgrants.2.2 digest hallows)

theorem LockPhase.Grants.of_db (hgrants : phase.Grants s) (hdb : s'.db = s.db) (hsaved : s'.saved = s.saved)
    (hlocked : s'.locked = s.locked) : phase.Grants s' := by
  cases phase <;> simp only [LockPhase.Grants, hdb, hsaved, hlocked] at hgrants ⊢ <;> exact hgrants

theorem LockPhase.Grants.eq_free (hgrants : phase.Grants s) (hopen : s.locked = false) : phase = .free := by
  cases phase with
  | free => rfl
  | deleting _ | collecting _ | sweeping _ =>
    rw [hgrants.1] at hopen
    cases hopen

theorem CasState.Kept.grow (hkept : s.Kept hash) (hopen : s.locked = false) {db : CasDatabase}
    (hblobs : ∀ digest, s.db.hasBlob digest = true → db.hasBlob digest = true)
    (hreferences : ∀ row ∈ db.references, row ∈ s.db.references ∨
      db.hasBlob row.digest = true ∧ (s.file row.digest).isSome = true) :
    Kept hash { s with db } where
  contents := hkept.contents
  rows row hrow := (hreferences row hrow).elim (fun h => hblobs _ (hkept.rows row h)) fun h => h.1
  present row hrow := (hreferences row hrow).elim (hkept.present row) fun h => h.2
  saved db hdb := by
    change s.saved = some db at hdb
    rw [hkept.closed hopen] at hdb
    cases hdb
  closed := hkept.closed

/-- An allowed step keeps the store and what its phase rests on, and removes only its reference. -/
theorem CasState.Kept.serve (hkept : s.Kept hash)
    (hgrants : phase.Grants s) (hallows : phase.Allows hash request) (hfresh : s.Fresh request)
    (hserve : s.serve request reply s') : s'.Kept hash ∧ (phase.next request reply).Grants s' ∧
      ∀ row ∈ s.db.references, request ≠ .deleteReference row → row ∈ s'.db.references := by
  cases request with
  | queryBlob digest | countReferences digest =>
    obtain ⟨-, rfl, -⟩ := hserve
    exact ⟨hkept, hgrants, fun _ h _ => h⟩
  | createShard digest | writeTemporary content | listFiles =>
    obtain rfl : s' = s := hserve
    exact ⟨hkept, hgrants, fun _ h _ => h⟩
  | isFile digest | read digest =>
    obtain ⟨rfl, -⟩ := hserve
    exact ⟨hkept, hgrants, fun _ h _ => h⟩
  | insertBlob digest sizeBytes =>
    obtain ⟨hopen, ⟨-, rfl⟩ | ⟨-, rfl⟩⟩ := hserve
    · exact ⟨hkept, hgrants, fun _ h _ => h⟩
    · obtain rfl := hgrants.eq_free hopen
      refine ⟨hkept.grow hopen (fun _ => hasBlob_insertBlob) fun row hrow => ?_, trivial, fun row hrow _ => ?_⟩
      · rw [references_insertBlob] at hrow
        exact .inl hrow
      · rwa [references_insertBlob]
  | insertReference row =>
    obtain ⟨hopen, ⟨-, rfl⟩ | ⟨-, hblob, rfl⟩⟩ := hserve
    · exact ⟨hkept, hgrants, fun _ h _ => h⟩
    · obtain rfl := hgrants.eq_free hopen
      refine ⟨hkept.grow hopen (fun other h => ?_) fun other hother => ?_, trivial, fun other hother _ =>
        mem_insertReference.mpr (.inl hother)⟩
      · rwa [hasBlob_insertReference]
      · rw [hasBlob_insertReference]
        rcases mem_insertReference.mp hother with hold | rfl
        · exact .inl hold
        · exact .inr ⟨hblob, hfresh⟩
  | deleteReference row =>
    obtain ⟨hopen, ⟨-, rfl⟩ | ⟨-, rfl⟩⟩ := hserve
    · exact ⟨hkept, hgrants, fun _ h _ => h⟩
    · obtain rfl := hgrants.eq_free hopen
      refine ⟨hkept.grow hopen (fun _ h => h) fun other hother => .inl (mem_filter.mp hother).1, trivial, ?_⟩
      intro other hother hrequest
      refine mem_filter.mpr ⟨hother, decide_eq_true ?_⟩
      rintro rfl
      exact hrequest rfl
  | deleteBlob digest =>
    have hunreferenced := referenceCount_eq_zero.mp hfresh
    obtain ⟨hopen, ⟨hreply, rfl⟩ | ⟨rfl, hblob, rfl⟩⟩ := hserve
    · obtain rfl := hgrants.eq_free hopen
      rcases hreply with rfl | ⟨rfl, -⟩ <;> exact ⟨hkept, trivial, fun _ h _ => h⟩
    · have hnone := hkept.closed hopen
      have hlocked : Kept hash { s with locked := true } :=
        ⟨hkept.contents, hkept.rows, hkept.present, hkept.saved, fun h => by cases h⟩
      refine ⟨hlocked.deleteRow hunreferenced rfl, ⟨rfl, ?_, hnone⟩, fun row hrow _ => ?_⟩
      · rw [← Bool.not_eq_true, hasBlob_deleteBlob]
        exact fun h => h.2 rfl
      · rwa [references_deleteBlob hunreferenced]
  | beginCollection =>
    obtain ⟨hopen, ⟨rfl, rfl⟩ | ⟨rfl, rfl⟩⟩ := hserve
    · exact ⟨hkept, hgrants, fun _ h _ => h⟩
    · refine ⟨⟨hkept.contents, hkept.rows, hkept.present, ?_, fun h => by cases h⟩, ⟨rfl, rfl, ?_⟩, fun _ h _ => h⟩
      · rintro db ⟨⟩
        exact ⟨rfl, fun _ h => h⟩
      · intro digest hdigest
        obtain ⟨row, hrow, rfl⟩ := mem_map.mp hdigest
        exact mem_unreferenced hrow
  | removeRow digest =>
    cases phase with
    | collecting batch =>
      obtain ⟨hlocked, hopen, hbatch⟩ := hgrants
      rcases hserve with ⟨rfl, rfl⟩ | ⟨rfl, rfl⟩
      · exact ⟨hkept, ⟨hlocked, hopen, hbatch⟩, fun _ h _ => h⟩
      · have hunreferenced := hbatch digest hallows
        have heq := references_deleteBlob hunreferenced
        refine ⟨hkept.deleteRow hunreferenced hlocked, ⟨hlocked, hopen, ?_⟩, fun row hrow _ => ?_⟩
        · rw [heq]
          exact hbatch
        · rwa [heq]
    | free | deleting _ | sweeping _ => exact absurd hallows id
  | commit =>
    cases phase with
    | collecting batch =>
      rcases hserve with ⟨rfl, rfl⟩ | ⟨rfl, rfl⟩
      · exact ⟨hkept, hgrants, fun _ h _ => h⟩
      · refine ⟨⟨hkept.contents, hkept.rows, hkept.present, fun _ h => (by cases h), fun _ => rfl⟩,
          ⟨hgrants.1, rfl, forall_mem_nil _⟩, fun _ h _ => h⟩
    | free | deleting _ | sweeping _ => exact absurd hallows id
  | abandon =>
    cases phase with
    | collecting batch =>
      obtain rfl := hserve
      obtain ⟨db, hdb⟩ := Option.isSome_iff_exists.mp hgrants.2.1
      obtain ⟨hreferences, hblobs⟩ := hkept.saved db hdb
      rw [hdb]
      refine ⟨⟨hkept.contents, fun row hrow => ?_, fun row hrow => ?_, fun _ h => (by cases h), fun _ => rfl⟩, trivial,
        fun row hrow _ => hreferences ▸ hrow⟩
      · exact hblobs _ (hkept.rows row (hreferences ▸ hrow))
      · exact hkept.present row (hreferences ▸ hrow)
    | free | deleting _ | sweeping _ => exact absurd hallows id
  | queryKnown digest =>
    obtain ⟨rfl, hreply⟩ := hserve
    refine ⟨hkept, ?_, fun _ h _ => h⟩
    cases phase with
    | sweeping unknown =>
      rcases hreply with rfl | rfl
      · exact hgrants
      · cases hblob : s'.db.hasBlob digest with
        | true => exact hgrants
        | false => exact ⟨hgrants.1, hgrants.2.1, forall_mem_cons.mpr ⟨hblob, hgrants.2.2⟩⟩
    | free | deleting _ | collecting _ => exact absurd hallows id
  | release =>
    obtain rfl := hserve
    refine ⟨⟨hkept.contents, hkept.rows, hkept.present, hkept.saved, fun _ => ?_⟩, trivial, fun _ h _ => h⟩
    cases phase with
    | deleting _ => exact hgrants.2.2
    | sweeping _ => exact hgrants.2.1
    | free | collecting _ => exact absurd hallows id
  | persist digest content =>
    rcases hserve with ⟨-, rfl⟩ | ⟨-, rfl⟩
    · exact ⟨hkept, hgrants, fun _ h _ => h⟩
    · cases phase with
      | free => exact ⟨hkept.writeFile hallows, trivial, fun _ h _ => h⟩
      | deleting _ | collecting _ | sweeping _ => exact absurd hallows id
  | unlink digest =>
    rcases hserve with ⟨-, rfl⟩ | ⟨-, -, rfl⟩ | ⟨-, rfl⟩
    · exact ⟨hkept, hgrants, fun _ h _ => h⟩
    · exact ⟨hkept, hgrants, fun _ h _ => h⟩
    · exact ⟨hkept.removeFile (hgrants.unlinkable hkept hallows), hgrants.of_db rfl rfl rfl, fun _ h _ => h⟩

theorem LockPhase.Grants.locked (hgrants : phase.Grants s) (hheld : phase ≠ .free) : s.locked = true := by
  by_contra hopen
  exact hheld (hgrants.eq_free (by simpa using hopen))

/-- While the mutex is taken, a thread without it changes no more than files, and does not get it. -/
theorem serve_of_locked (hlocked : s.locked = true)
    (hallows : LockPhase.free.Allows hash request) (hserve : s.serve request reply s') :
    s'.db = s.db ∧ s'.saved = s.saved ∧ s'.locked = s.locked ∧ LockPhase.free.next request reply = .free := by
  have hblocked : ∀ {p : Prop}, s.locked = false ∧ p → False := fun h => by
    rw [hlocked] at h
    cases h.1
  cases request with
  | queryBlob digest | countReferences digest | insertBlob digest sizeBytes | insertReference row
  | deleteReference row | deleteBlob digest | beginCollection => exact (hblocked hserve).elim
  | createShard digest | writeTemporary content =>
    obtain rfl : s' = s := hserve
    exact ⟨rfl, rfl, rfl, rfl⟩
  | isFile digest | read digest =>
    obtain ⟨rfl, -⟩ := hserve
    exact ⟨rfl, rfl, rfl, rfl⟩
  | persist digest content =>
    rcases hserve with ⟨-, rfl⟩ | ⟨-, rfl⟩ <;> exact ⟨rfl, rfl, rfl, rfl⟩
  | removeRow _ | commit | abandon | queryKnown _ | release | unlink _ | listFiles => exact absurd hallows id

end Steps

section Runs
variable {hash : Content → ContentDigest} {ι : Type} [DecidableEq ι]

/-- The shared store, with every step resting on a check that still holds. -/
def careful (s : CasState) (request : CasRequest) (reply : casInterface.Answer request) (s' : CasState) : Prop :=
  s.Fresh request ∧ s.serve request reply s'

abbrev CasConfig (ι : Type) := Config casInterface Unit CasState ι

def CasConfig.phase (hash : Content → ContentDigest) (c : CasConfig ι) (i : ι) : LockPhase :=
  (lockMonitor hash).phaseOf LockPhase.free i c.history

/-- What holds in every reachable configuration. -/
structure Guarded (hash : Content → ContentDigest) (c : CasConfig ι) : Prop where
  monitored : Monitored (lockMonitor hash) (fun phase _ => phase = .free) (fun _ => LockPhase.free) c
  kept : c.state.Kept hash
  grants : ∀ i, (c.phase hash i).Grants c.state
  single : ∀ i j, c.phase hash i ≠ .free → c.phase hash j ≠ .free → i = j

theorem phase_answer (c : CasConfig ι) (i j : ι) (request : CasRequest) (reply : casInterface.Answer request)
    (state : CasState) (callers : ι → Option (Program casInterface Unit)) :
    CasConfig.phase hash ⟨state, callers, (i, ⟨request, reply⟩) :: c.history⟩ j =
      if i = j then (c.phase hash i).next request reply else c.phase hash j := by
  by_cases h : i = j
  · subst h
    rw [if_pos rfl]
    exact phaseOf_self
  · rw [if_neg h]
    exact phaseOf_other h

variable {c : CasConfig ι}

theorem Guarded.free_of_other (hguarded : Guarded hash c) {i j : ι} (hne : i ≠ j)
    (hheld : c.phase hash j ≠ .free) : c.phase hash i = .free := by
  by_contra h
  exact hne (hguarded.single i j h hheld)

/-- An answered step keeps the configuration guarded; only its own removal loses a reference. -/
theorem Guarded.answer {i : ι} {next : casInterface.Answer request → Program casInterface Unit}
    {state : CasState} (hguarded : Guarded hash c) (hcaller : c.callers i = some (.ask request next))
    (hserve : careful c.state request reply state) :
    Guarded hash ⟨state, Function.update c.callers i (some (next reply)), (i, ⟨request, reply⟩) :: c.history⟩ ∧
      ∀ row ∈ c.state.db.references, request ≠ .deleteReference row → row ∈ state.db.references := by
  have hstep : Step careful c _ := .answer hcaller hserve
  obtain ⟨hfresh, hserve⟩ := hserve
  have hallows : (c.phase hash i).Allows hash request := (hguarded.monitored i _ hcaller).1
  obtain ⟨hkept, hgrants, hrows⟩ := hguarded.kept.serve (hguarded.grants i) hallows hfresh hserve
  -- the step of a thread without the mutex, while another thread has it
  have hother : ∀ j, i ≠ j → c.phase hash j ≠ .free →
      (c.phase hash j).Grants state ∧ (c.phase hash i).next request reply = .free := by
    intro j hne hheld
    have hfree := hguarded.free_of_other hne hheld
    rw [hfree] at hallows ⊢
    obtain ⟨hdb, hsaved, hlocked, hnext⟩ :=
      serve_of_locked ((hguarded.grants j).locked hheld) hallows hserve
    exact ⟨(hguarded.grants j).of_db hdb hsaved hlocked, hnext⟩
  refine ⟨⟨hguarded.monitored.step (fun _ _ _ _ _ _ => trivial) hstep, hkept, fun j => ?_, fun j k hj hk => ?_⟩, hrows⟩
  · rw [phase_answer]
    split
    · exact hgrants
    · rename_i hne
      by_cases hheld : c.phase hash j = .free
      · rw [hheld]
        trivial
      · exact (hother j hne hheld).1
  · rw [phase_answer] at hj hk
    split at hj <;> split at hk
    · rename_i hij hik
      exact hij.symm.trans hik
    · rename_i hij hik
      exact absurd (hother k hik hk).2 hj
    · rename_i hij hik
      exact absurd (hother j hij hj).2 hk
    · exact hguarded.single j k hj hk

theorem Guarded.crash (hguarded : Guarded hash c) (i : ι) :
    Guarded hash { c with callers := Function.update c.callers i none } where
  monitored := by
    have hstep : Step careful c _ := .crash i
    exact hguarded.monitored.step (fun _ _ _ _ _ _ => trivial) hstep
  kept := hguarded.kept
  grants := hguarded.grants
  single := hguarded.single

/-- A store that no call is using. -/
structure CasState.Settled (hash : Content → ContentDigest) (s : CasState) : Prop where
  kept : s.Kept hash
  unlocked : s.locked = false

theorem Guarded.initial {s : CasState} (h : s.Settled hash) (threads : ι → Thread) :
    Guarded hash (Config.initial s fun i => (threads i).program hash) where
  monitored := Monitored.initial fun i => (threads i).obeys
  kept := h.kept
  grants _ := trivial
  single _ _ hi := absurd rfl hi

theorem Guarded.reaches {c' : CasConfig ι} (h : Guarded hash c) (hrun : Reaches careful c c') : Guarded hash c' := by
  refine hrun.invariant h fun a b hstep ha => ?_
  cases hstep with
  | answer hcaller hserve => exact (ha.answer hcaller hserve).1
  | crash i => exact ha.crash i

/-- A reference that was added and not removed since is on record, by induction on the run. -/
theorem reference_on_record {c' : CasConfig ι} (hguarded : Guarded hash c) (hrun : Reaches careful c c')
    {row : ReferenceRow} (hstart : c.history = []) : ∀ {i : ι} {later earlier : List (ι × casInterface.Exchange)},
    c'.history = later ++ (i, ⟨.insertReference row, some ()⟩) :: earlier →
    (∀ entry ∈ later, entry.2.1 ≠ .deleteReference row) → row ∈ c'.state.db.references := by
  induction hrun with
  | refl =>
    intro i later earlier hhistory _
    rw [hstart] at hhistory
    simp at hhistory
  | @tail mid c' hreach hstep ih =>
    intro i later earlier hhistory hkept
    cases hstep with
    | crash j => exact ih hhistory hkept
    | @answer j request next reply state hcaller hserve =>
      cases later with
      | nil =>
        cases hhistory
        obtain ⟨-, -, ⟨hfailed, -⟩ | ⟨-, -, rfl⟩⟩ := hserve
        · cases hfailed
        · exact mem_insertReference.mpr (.inr rfl)
      | cons entry later =>
        obtain ⟨rfl, hbefore⟩ := List.cons.inj hhistory
        obtain ⟨hentry, hlater⟩ := forall_mem_cons.mp hkept
        exact ((hguarded.reaches hreach).answer hcaller hserve).2 row (ih hbefore hlater) hentry

theorem run_get (digest : ContentDigest) : (get hash digest).run =
    .ask (I := casInterface) (.queryBlob digest) fun
      | none => .done (.error .database)
      | some false => .done (.ok none)
      | some true => .ask (I := casInterface) (.isFile digest) fun
        | false => .done (.ok none)
        | true => .ask (I := casInterface) (.read digest) fun
          | .content bytes => .done (if hash bytes = digest then .ok (some bytes) else .error (.conflict digest))
          | .notFound => .done (.ok none)
          | .failed => .done (.error .io) := by
  refine congrArg (Program.ask (I := casInterface) (.queryBlob digest)) (funext fun recorded => ?_)
  match recorded with
  | none | some false => rfl
  | some true =>
    refine congrArg (Program.ask (I := casInterface) (.isFile digest)) (funext fun there => ?_)
    cases there with
    | false => rfl
    | true =>
      refine congrArg (Program.ask (I := casInterface) (.read digest)) (funext fun outcome => ?_)
      cases outcome with
      | content bytes =>
        change (if hash bytes = digest then pure (some bytes) else throw (.conflict digest) : CasM _).run =
          .done (if hash bytes = digest then .ok (some bytes) else .error (.conflict digest))
        split <;> rfl
      | notFound | failed => rfl

theorem get_returns {s : CasState} (hkept : s.Kept hash) (hopen : s.locked = false)
    (hrow : s.db.hasBlob digest = true) (hfile : s.file digest = some content) :
    (get hash digest).run.Alone serve s s (.ok (some content)) ∧
    ∀ s' result, (get hash digest).run.Alone serve s s' (.ok result) →
      result = some content := by
  have hquery : ∀ reply s', s.serve (.queryBlob digest) reply s' → s' = s ∧ (reply = none ∨ reply = some true) := by
    rintro reply s' ⟨-, rfl, hreply⟩
    rw [hrow] at hreply
    exact ⟨rfl, hreply⟩
  have hthere : (s.file digest).isSome = true := by rw [hfile]; rfl
  rw [run_get]
  constructor
  · refine .ask (show s.serve (.queryBlob digest) (some true) s from ⟨hopen, rfl, .inr (by rw [hrow])⟩) ?_
    refine .ask (show s.serve (.isFile digest) true s from ⟨rfl, hthere.symm⟩) ?_
    refine .ask (show s.serve (.read digest) (.content content) s from ⟨rfl, .inr (by rw [hfile])⟩) ?_
    dsimp only
    rw [if_pos (hkept.contents digest content hfile)]
    exact .done _ _
  · intro s' result h
    cases h with
    | ask hserve h =>
      obtain ⟨rfl, rfl | rfl⟩ := hquery _ _ hserve
      · cases h
      · cases h with
        | ask hserve h =>
          obtain ⟨rfl, rfl⟩ := hserve
          rw [hthere] at h
          cases h with
          | ask hserve h =>
            obtain ⟨rfl, rfl | rfl⟩ := hserve
            · cases h
            · rw [hfile] at h
              dsimp only at h
              rw [if_pos (hkept.contents digest content hfile)] at h
              cases h
              rfl

/-- If every step rests on a check that still holds, a reference that was added and not removed since keeps its blob:
`add_reference` returns once its row is inserted, and `remove_reference` is the step of its deletion. -/
theorem careful_references_kept (hash : Content → ContentDigest) (s : CasState) (hsettled : s.Settled hash)
    (threads : ι → Thread) (c : CasConfig ι)
    (hrun : Reaches careful (Config.initial s fun i => (threads i).program hash) c) (i : ι) (digest : ContentDigest)
    (reference : BlobReference) (later earlier : List (ι × casInterface.Exchange))
    (hadded : c.history = later ++ (i, ⟨.insertReference ⟨digest, reference⟩, some ()⟩) :: earlier)
    (hsince : ∀ entry ∈ later, entry.2.1 ≠ .deleteReference ⟨digest, reference⟩) :
    c.state.db.hasBlob digest = true ∧ ⟨digest, reference⟩ ∈ c.state.db.references ∧
    ∃ content, hash content = digest ∧ c.state.file digest = some content ∧
      (c.state.locked = false →
        (get hash digest).run.Alone serve c.state c.state (.ok (some content)) ∧
        ∀ s' result, (get hash digest).run.Alone serve c.state s' (.ok result) →
          result = some content) := by
  have hinitial := Guarded.initial hsettled threads
  have hguarded := hinitial.reaches hrun
  have hrow := reference_on_record hinitial hrun rfl hadded hsince
  have hblob := hguarded.kept.rows _ hrow
  obtain ⟨content, hfile⟩ := Option.isSome_iff_exists.mp (hguarded.kept.present _ hrow)
  exact ⟨hblob, hrow, content, hguarded.kept.contents _ _ hfile, hfile, fun hopen =>
    get_returns hguarded.kept hopen hblob hfile⟩

end Runs

section Fixtures

/-- The digest of the empty content. -/
def emptyDigest : ContentDigest := ⟨0xaf1349b9f5f9a1a6a0404dea36dcc9499bcb25c9adc112b7cc9a93cae41f3262⟩

/-- The hash, on the one content stored below. -/
def emptyHash (content : Content) : ContentDigest := if content = [] then emptyDigest else ⟨0⟩

/-- A store with the empty blob and no reference to it. -/
def emptyBlob : CasState where
  db := ⟨[⟨emptyDigest, 0⟩], []⟩
  saved := none
  locked := false
  files := [(emptyDigest, [])]

def proofReference : BlobReference := ⟨"proof", "proof-1"⟩

theorem emptyBlob_settled : emptyBlob.Settled emptyHash where
  kept := {
    contents := by
      intro digest content hfile
      change List.lookup digest [(emptyDigest, [])] = some content at hfile
      rw [lookup_cons_if] at hfile
      split at hfile
      · rename_i heq
        cases hfile
        exact heq.symm
      · cases hfile
    rows := forall_mem_nil _
    present := forall_mem_nil _
    saved := fun _ h => by cases h
    closed := fun _ => rfl }
  unlocked := rfl

/-- One thread adds a reference while the other deletes the blob. -/
def racingThreads : Bool → Thread
  | true => .call (.addReference emptyDigest proofReference) fun _ => .stop
  | false => .call (.delete emptyDigest) fun _ => .stop

theorem added_carefully :
    ∃ (c : CasConfig Bool) (earlier : List (Bool × casInterface.Exchange)),
      Reaches careful (Config.initial emptyBlob fun i => (racingThreads i).program emptyHash) c ∧
      c.history = [(false, ⟨.countReferences emptyDigest, some 1⟩)] ++
        (true, ⟨.insertReference ⟨emptyDigest, proofReference⟩, some ()⟩) :: earlier :=
  ⟨_, _,
    .head (.answer (i := true) rfl
      (show careful _ (.queryBlob emptyDigest) (some true) _ from ⟨trivial, rfl, rfl, .inr rfl⟩)) <|
    .head (.answer (i := true) rfl
      (show careful _ (.isFile emptyDigest) true _ from ⟨trivial, rfl, rfl⟩)) <|
    .head (.answer (i := true) rfl
      (show careful _ (.insertReference ⟨emptyDigest, proofReference⟩) (some ()) _ from
        ⟨rfl, rfl, .inr ⟨rfl, rfl, rfl⟩⟩)) <|
    .single (.answer (i := false) rfl
      (show careful _ (.countReferences emptyDigest) (some 1) _ from ⟨trivial, rfl, rfl, .inr rfl⟩)),
    rfl⟩

end Fixtures

theorem careful_references_kept_added :
    ∃ c : CasConfig Bool,
      Reaches careful (Config.initial emptyBlob fun i => (racingThreads i).program emptyHash) c ∧
      c.state.db.hasBlob emptyDigest = true ∧ ⟨emptyDigest, proofReference⟩ ∈ c.state.db.references ∧
      ∃ content, emptyHash content = emptyDigest ∧ c.state.file emptyDigest = some content := by
  obtain ⟨c, earlier, hrun, hadded⟩ := added_carefully
  obtain ⟨hblob, hrow, content, hhash, hfile, -⟩ := careful_references_kept emptyHash emptyBlob emptyBlob_settled
    racingThreads c hrun true emptyDigest proofReference _ earlier hadded (by simp)
  exact ⟨c, hrun, hblob, hrow, content, hhash, hfile⟩

/-- The delete counts no reference; the reference is added; the delete goes on and takes it along. -/
theorem reference_lost_to_stale_count :
    emptyBlob.Settled emptyHash ∧
    ∃ (c : CasConfig Bool) (later earlier : List (Bool × casInterface.Exchange)),
      Reaches serve (Config.initial emptyBlob fun i => (racingThreads i).program emptyHash) c ∧
      c.history = later ++ (true, ⟨.insertReference ⟨emptyDigest, proofReference⟩, some ()⟩) :: earlier ∧
      (∀ entry ∈ later, entry.2.1 ≠ .deleteReference ⟨emptyDigest, proofReference⟩) ∧
      c.state.db.hasBlob emptyDigest = false ∧ c.state.db.references = [] := by
  exact ⟨emptyBlob_settled, _, [(false, ⟨.deleteBlob emptyDigest, some 1⟩)], _,
    .head (.answer (i := false) rfl
      (show serve _ (.countReferences emptyDigest) (some 0) _ from ⟨rfl, rfl, .inr rfl⟩)) <|
    .head (.answer (i := false) rfl
      (show serve _ (.queryBlob emptyDigest) (some true) _ from ⟨rfl, rfl, .inr rfl⟩)) <|
    .head (.answer (i := false) rfl
      (show serve _ (.isFile emptyDigest) true _ from ⟨rfl, rfl⟩)) <|
    .head (.answer (i := true) rfl
      (show serve _ (.queryBlob emptyDigest) (some true) _ from ⟨rfl, rfl, .inr rfl⟩)) <|
    .head (.answer (i := true) rfl
      (show serve _ (.isFile emptyDigest) true _ from ⟨rfl, rfl⟩)) <|
    .head (.answer (i := true) rfl
      (show serve _ (.insertReference ⟨emptyDigest, proofReference⟩) (some ()) _ from
        ⟨rfl, .inr ⟨rfl, rfl, rfl⟩⟩)) <|
    .single (.answer (i := false) rfl
      (show serve _ (.deleteBlob emptyDigest) (some 1) _ from ⟨rfl, .inr ⟨rfl, rfl, rfl⟩⟩)),
    rfl, by simp, rfl, rfl⟩

end ProofPlatform.Storage
