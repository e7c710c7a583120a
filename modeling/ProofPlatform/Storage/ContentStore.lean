import ProofPlatform.Kernel.Canonical
import ProofPlatform.Library.SharedState

/-! Content-addressed blobs: metadata in a database behind a mutex, contents in files. Each call is a program of steps
that threads interleave. -/
namespace ProofPlatform.Storage
open Kernel
open Library.Fallible
open Library.Interaction

abbrev Content := List UInt8

structure BlobReference where
  artifactKind : String
  artifactId : String
  deriving DecidableEq

structure BlobRow where
  digest : ContentDigest
  sizeBytes : Nat

structure ReferenceRow where
  digest : ContentDigest
  reference : BlobReference
  deriving DecidableEq

structure CasDatabase where
  blobs : List BlobRow
  references : List ReferenceRow

namespace CasDatabase

variable (db : CasDatabase) (digest : ContentDigest)

def hasBlob : Bool := db.blobs.any fun row => decide (row.digest = digest)

def referenceCount : Nat :=
  (db.references.filter fun row => decide (row.digest = digest)).length

/-- An existing row is left as it is. -/
def insertBlob (sizeBytes : Nat) : CasDatabase :=
  if db.hasBlob digest then db else { db with blobs := db.blobs ++ [⟨digest, sizeBytes⟩] }

def insertReference (row : ReferenceRow) : CasDatabase :=
  if db.references.contains row then db else { db with references := db.references ++ [row] }

def deleteReference (row : ReferenceRow) : CasDatabase :=
  { db with references := db.references.filter fun other => decide (other ≠ row) }

/-- Deleting a blob's row takes its references with it. -/
def deleteBlob : CasDatabase where
  blobs := db.blobs.filter fun row => decide (row.digest ≠ digest)
  references := db.references.filter fun row => decide (row.digest ≠ digest)

def unreferenced : List BlobRow :=
  db.blobs.filter fun row => !db.references.any fun reference => decide (reference.digest = row.digest)

end CasDatabase

/-- The shared store; while a collection's transaction is open, a rollback goes back to `saved`. -/
structure CasState where
  db : CasDatabase
  saved : Option CasDatabase
  locked : Bool
  files : List (ContentDigest × Content)

namespace CasState

variable (state : CasState) (digest : ContentDigest)

def file : Option Content := state.files.lookup digest

/-- A rename over the destination, whether or not there was a file. -/
def withFile (content : Content) : CasState :=
  { state with files := (digest, content) :: state.files.filter fun file => decide (file.1 ≠ digest) }

def withoutFile : CasState :=
  { state with files := state.files.filter fun file => decide (file.1 ≠ digest) }

end CasState

/-- The steps of the store's calls. The first group take the mutex for one statement, the second begin a section that
keeps it, and the last are file operations. -/
inductive CasRequest where
  | queryBlob (digest : ContentDigest)
  | insertBlob (digest : ContentDigest) (sizeBytes : Nat)
  | insertReference (row : ReferenceRow)
  | deleteReference (row : ReferenceRow)
  | countReferences (digest : ContentDigest)
  | deleteBlob (digest : ContentDigest)
  | beginCollection
  | removeRow (digest : ContentDigest)
  | commit
  | abandon
  | queryKnown (digest : ContentDigest)
  | release
  | createShard (digest : ContentDigest)
  | writeTemporary (content : Content)
  | persist (digest : ContentDigest) (content : Content)
  | isFile (digest : ContentDigest)
  | read (digest : ContentDigest)
  | unlink (digest : ContentDigest)
  | listFiles

inductive ReadOutcome where
  | content (bytes : Content)
  | notFound
  | failed

inductive UnlinkOutcome where
  | removed
  | notFound
  | failed

/-- What a step returns; `none` is an error of the database or the file system. -/
abbrev casInterface : Interface where
  Request := CasRequest
  Answer
    | .queryBlob _ | .queryKnown _ => Option Bool
    | .insertBlob _ _ | .insertReference _ | .removeRow _ | .commit | .createShard _ | .writeTemporary _
    | .persist _ _ => Option Unit
    | .deleteReference _ | .countReferences _ | .deleteBlob _ => Option Nat
    | .beginCollection => Option (List BlobRow)
    | .abandon | .release => Unit
    | .isFile _ => Bool
    | .read _ => ReadOutcome
    | .unlink _ => UnlinkOutcome
    | .listFiles => Option (List ContentDigest)

/-- One step of the shared store. A step that takes the mutex waits until it is free. -/
def CasState.serve (s : CasState) : (request : CasRequest) → casInterface.Answer request → CasState → Prop
  | .queryBlob digest, reply, s' =>
    s.locked = false ∧ s' = s ∧ (reply = none ∨ reply = some (s.db.hasBlob digest))
  | .insertBlob digest sizeBytes, reply, s' =>
    s.locked = false ∧ (reply = none ∧ s' = s ∨
      reply = some () ∧ s' = { s with db := s.db.insertBlob digest sizeBytes })
  | .insertReference row, reply, s' =>
    -- the foreign key is checked even when a conflicting row would be ignored
    s.locked = false ∧ (reply = none ∧ s' = s ∨
      reply = some () ∧ s.db.hasBlob row.digest = true ∧ s' = { s with db := s.db.insertReference row })
  | .deleteReference row, reply, s' =>
    s.locked = false ∧ (reply = none ∧ s' = s ∨
      reply = some (s.db.references.count row) ∧ s' = { s with db := s.db.deleteReference row })
  | .countReferences digest, reply, s' =>
    s.locked = false ∧ s' = s ∧ (reply = none ∨ reply = some (s.db.referenceCount digest))
  | .deleteBlob digest, reply, s' =>
    -- the guard lives to the end of the call, so the mutex stays taken when there is a file to remove
    s.locked = false ∧ ((reply = none ∨ reply = some 0 ∧ s.db.hasBlob digest = false) ∧ s' = s ∨
      reply = some 1 ∧ s.db.hasBlob digest = true ∧ s' = { s with db := s.db.deleteBlob digest, locked := true })
  | .beginCollection, reply, s' =>
    s.locked = false ∧ (reply = none ∧ s' = s ∨
      reply = some s.db.unreferenced ∧ s' = { s with saved := some s.db, locked := true })
  | .removeRow digest, reply, s' =>
    reply = none ∧ s' = s ∨ reply = some () ∧ s' = { s with db := s.db.deleteBlob digest }
  | .commit, reply, s' => reply = none ∧ s' = s ∨ reply = some () ∧ s' = { s with saved := none }
  | .abandon, _, s' => s' = { s with db := s.saved.getD s.db, saved := none, locked := false }
  | .queryKnown digest, reply, s' => s' = s ∧ (reply = none ∨ reply = some (s.db.hasBlob digest))
  | .release, _, s' => s' = { s with locked := false }
  | .createShard _, _, s' => s' = s
  | .writeTemporary _, _, s' => s' = s
  | .persist digest content, reply, s' =>
    reply = none ∧ s' = s ∨ reply = some () ∧ s' = s.withFile digest content
  | .isFile digest, reply, s' => s' = s ∧ reply = (s.file digest).isSome
  | .read digest, reply, s' =>
    s' = s ∧ (reply = .failed ∨ reply = (match s.file digest with
      | some bytes => ReadOutcome.content bytes
      | none => .notFound))
  | .unlink digest, reply, s' =>
    reply = .failed ∧ s' = s ∨ reply = .notFound ∧ s.file digest = none ∧ s' = s ∨
      reply = .removed ∧ s' = s.withoutFile digest
  | .listFiles, _, s' =>
    -- files come and go while the directories are read, so any listing may result
    s' = s

inductive StorageError where
  | database
  | io
  | alreadyExists
  | notFound (digest : ContentDigest)
  | conflict (digest : ContentDigest)

structure GarbageCollectionResult where
  removedBlobs : Nat
  reclaimedBytes : Nat

abbrev CasM := Procedure casInterface StorageError

def step (request : CasRequest) : CasM (casInterface.Answer request) := Procedure.call (I := casInterface) request

def orFail {α : Type} (value : Option α) (error : StorageError) : CasM α := Procedure.ofExcept (orReject value error)

namespace ContentAddressedStore
variable (hash : Content → ContentDigest) (digest : ContentDigest)

def existsBlob : CasM Bool := do
  let recorded ← orFail (← step (.queryBlob digest)) .database
  if recorded then step (.isFile digest) else pure false

/-- Move the written file into place; a failure is told apart by whether the destination is there. -/
def persistBlob (content : Content) : CasM Unit := do
  let persisted ← step (.persist digest content)
  if persisted.isNone then
    let there ← step (.isFile digest)
    throw (if there then .alreadyExists else .io)

def put (content : Content) : CasM ContentDigest := do
  let digest := hash content
  if ← existsBlob digest then
    return digest
  else
    orFail (← step (.createShard digest)) .io
    orFail (← step (.writeTemporary content)) .io
    persistBlob digest content
    orFail (← step (.insertBlob digest content.length)) .database
    return digest

def get : CasM (Option Content) := do
  if ← existsBlob digest then
    match ← step (.read digest) with
    | .content bytes => if hash bytes = digest then return some bytes else throw (.conflict digest)
    | .notFound => return none
    | .failed => throw .io
  else return none

def addReference (reference : BlobReference) : CasM Unit := do
  if ← existsBlob digest then
    orFail (← step (.insertReference ⟨digest, reference⟩)) .database
  else throw (.notFound digest)

def removeReference (reference : BlobReference) : CasM Bool := do
  let deleted ← orFail (← step (.deleteReference ⟨digest, reference⟩)) .database
  return decide (0 < deleted)

def delete : CasM Bool := do
  let referenceCount ← orFail (← step (.countReferences digest)) .database
  if 0 < referenceCount then return false
  else if ← existsBlob digest then
    let deleted ← orFail (← step (.deleteBlob digest)) .database
    if deleted = 0 then return false
    else
      let outcome ← step (.unlink digest)
      step .release
      match outcome with
      | .failed => throw .io
      | _ => return true
  else return false

/-- Remove the blobs that no reference held when the transaction began. -/
def collectUnreferenced : List BlobRow → (removedBlobs reclaimedBytes : Nat) → CasM (Nat × Nat)
  | [], removedBlobs, reclaimedBytes => pure (removedBlobs, reclaimedBytes)
  | row :: rest, removedBlobs, reclaimedBytes => do
    match ← step (.unlink row.digest) with
    | .failed => do
      step .abandon
      throw .io
    | _ => do
      match ← step (.removeRow row.digest) with
      | none => do
        step .abandon
        throw .database
      | some () => collectUnreferenced rest (removedBlobs + 1) (reclaimedBytes + row.sizeBytes)

/-- The listed files without a row. -/
def orphanedBlobs : List ContentDigest → CasM (List ContentDigest)
  | [] => pure []
  | digest :: rest => do
    match ← step (.queryKnown digest) with
    | none => do
      step .release
      throw .database
    | some true => orphanedBlobs rest
    | some false => do
      let there ← step (.isFile digest)
      let orphans ← orphanedBlobs rest
      pure (if there then digest :: orphans else orphans)

def sweepOrphans : List ContentDigest → (removedOrphans : Nat) → CasM Nat
  | [], removedOrphans => pure removedOrphans
  | digest :: rest, removedOrphans => do
    match ← step (.unlink digest) with
    | .failed => do
      step .release
      throw .io
    | .removed => sweepOrphans rest (removedOrphans + 1)
    | .notFound => sweepOrphans rest removedOrphans

def collectGarbage : CasM GarbageCollectionResult := do
  let unreferenced ← orFail (← step .beginCollection) .database
  let (removedBlobs, reclaimedBytes) ← collectUnreferenced unreferenced 0 0
  match ← step .commit with
  | none => do
    step .abandon
    throw .database
  | some () => do
    match ← step .listFiles with
    | none => do
      step .release
      throw .io
    | some listed => do
      let orphans ← orphanedBlobs listed
      let removedOrphans ← sweepOrphans orphans 0
      step .release
      return ⟨removedBlobs + removedOrphans, reclaimedBytes⟩

end ContentAddressedStore

inductive CasCall where
  | put (content : Content)
  | get (digest : ContentDigest)
  | addReference (digest : ContentDigest) (reference : BlobReference)
  | removeReference (digest : ContentDigest) (reference : BlobReference)
  | delete (digest : ContentDigest)
  | collectGarbage

inductive CasResult where
  | digest (result : Except StorageError ContentDigest)
  | content (result : Except StorageError (Option Content))
  | done (result : Except StorageError Unit)
  | answer (result : Except StorageError Bool)
  | collected (result : Except StorageError GarbageCollectionResult)

section Threads
variable (hash : Content → ContentDigest)

/-- The steps of a call. -/
def CasCall.program : CasCall → Program casInterface CasResult
  | .put content => .digest <$> (ContentAddressedStore.put hash content).run
  | .get digest => .content <$> (ContentAddressedStore.get hash digest).run
  | .addReference digest reference => .done <$> (ContentAddressedStore.addReference digest reference).run
  | .removeReference digest reference => .answer <$> (ContentAddressedStore.removeReference digest reference).run
  | .delete digest => .answer <$> (ContentAddressedStore.delete digest).run
  | .collectGarbage => .collected <$> ContentAddressedStore.collectGarbage.run

/-- A thread: its next call, and how it goes on for each result. -/
inductive Thread where
  | stop
  | call (first : CasCall) (next : CasResult → Thread)

def Thread.program : Thread → Program casInterface Unit
  | .stop => .done ()
  | .call first next => first.program hash >>= fun result => (next result).program

end Threads

end ProofPlatform.Storage
