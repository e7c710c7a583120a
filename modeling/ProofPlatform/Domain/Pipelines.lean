import ProofPlatform.Kernel.SerializedText
import ProofPlatform.Library.FallibleState
import ProofPlatform.Trace.Wire

/-! The pipelines of the content and commerce domains: changes are executed and published as a release, an order is
created, approved and fulfilled, and a manifest binds what each has left. -/
namespace ProofPlatform.Domain
open Kernel Executor Trace Library.Fallible Library.FallibleState

/-- What linked libraries compute: string literals, texts of doubles, hashes of texts. -/
structure DigestTexts where
  quote : String → List Char
  float : Rat → List Char
  sha256 : String → BitVec 256

def canonicalJson (D : DigestTexts) (value : Json) : String :=
  String.ofList (value.sorted.serialize D.float D.quote)

def canonicalDigest (D : DigestTexts) (value : Json) : String :=
  "sha256:" ++ digestHex ⟨D.sha256 (canonicalJson D value)⟩

/-- For the examples, a string is its own literal, and hashing goes character by character. -/
def fnvDigests : DigestTexts :=
  ⟨String.toList, fun _ => [], fun text => text.toList.foldl
    (fun hash c => hash * .ofNat 256 (2 ^ 168 + 0x163) ^^^ .ofNat 256 c.toNat) 1⟩

/-- The texts of instants at the beginning of 1970; nothing else is written. -/
def epochFormats : TextFormats := ⟨fun _ => "1970-01-01T00:00:00Z", fun _ => "0", fun text => text⟩

/-! ### Releases -/

section Release

inductive ObjectStatus where
  | draft
  | submitted
  | approved
  | committed
  | published
  deriving DecidableEq

structure ContentObject where
  id : Uuid
  schemaId : Uuid
  schemaVersion : Nat
  locale : String
  content : Json
  revision : Nat
  createdAt : Instant
  updatedAt : Instant
  status : ObjectStatus
  deriving DecidableEq

structure Release where
  id : Uuid
  editionId : Uuid
  environment : String
  publishedAt : Instant
  publishedBy : PrincipalId

structure ReleaseManifestEntry where
  objectId : Uuid
  operation : String
  locale : String
  contentDigest : String

structure ReleaseManifest where
  releaseId : Uuid
  editionId : Uuid
  environment : String
  createdAt : Instant
  releaseDigest : String
  entries : List ReleaseManifestEntry

inductive ContentChangeKind where
  | create
  | edit

structure ContentChange where
  kind : ContentChangeKind
  locale : String
  schema : Json
  content : Json
  objectId : Option Uuid

structure ReleasePipelineOutput where
  release : Release
  manifest : ReleaseManifest
  objects : List ContentObject
  releaseProof : Proof
  changeProofs : List Proof

section Encoding
variable (T : TextFormats)

def objectStatusJson : ObjectStatus → Json
  | .draft => .string "draft"
  | .submitted => .string "submitted"
  | .approved => .string "approved"
  | .committed => .string "committed"
  | .published => .string "published"

def objectJson (object : ContentObject) : Json :=
  .object [("id", jsonUuid object.id), ("schema_id", jsonUuid object.schemaId),
    ("schema_version", jsonNat object.schemaVersion), ("locale", .string object.locale), ("content", object.content),
    ("revision", jsonNat object.revision), ("created_at", jsonInstant T object.createdAt),
    ("updated_at", jsonInstant T object.updatedAt), ("status", objectStatusJson object.status)]

def entryJson (entry : ReleaseManifestEntry) : Json :=
  .object [("object_id", jsonUuid entry.objectId), ("operation", .string entry.operation),
    ("locale", .string entry.locale), ("content_digest", .string entry.contentDigest)]

def entriesJson (entries : List ReleaseManifestEntry) : Json := .array (entries.map entryJson)

def manifestJson (manifest : ReleaseManifest) : Json :=
  .object [("release_id", jsonUuid manifest.releaseId), ("edition_id", jsonUuid manifest.editionId),
    ("environment", .string manifest.environment), ("created_at", jsonInstant T manifest.createdAt),
    ("release_digest", .string manifest.releaseDigest), ("entries", entriesJson manifest.entries)]

end Encoding

variable (D : DigestTexts) (T : TextFormats)

def objectDigest (object : ContentObject) : String := canonicalDigest D (objectJson T object)

def manifestEntry (object : ContentObject) : ReleaseManifestEntry where
  objectId := object.id
  operation := if object.status = .draft then "object.create" else "object.edit"
  locale := object.locale
  contentDigest := objectDigest D T object

def ReleaseManifest.fromResults (release : Release) (objects : List ContentObject) : ReleaseManifest :=
  let entries := (objects.insertionSort fun left right => left.id ≤ right.id).map (manifestEntry D T)
  { releaseId := release.id
    editionId := release.editionId
    environment := release.environment
    createdAt := release.publishedAt
    releaseDigest := canonicalDigest D (entriesJson entries)
    entries }

/-! Verification of a release -/

def checkEntry (objects : List ContentObject) (entry : ReleaseManifestEntry) : Except ExecutionError Unit := do
  let object ← orReject (objects.find? fun object => decide (object.id = entry.objectId))
    (.handlerFailed ("manifest object " ++ uuidText entry.objectId ++ " is missing"))
  reject (objectDigest D T object != entry.contentDigest)
    (.handlerFailed ("content digest mismatch for object " ++ uuidText object.id))

def checkEntries (objects : List ContentObject) : List ReleaseManifestEntry → Except ExecutionError Unit
  | [] => .ok ()
  | entry :: rest => do
    checkEntry D T objects entry
    checkEntries objects rest

/-- The release's digest is not looked at, and distinct identifiers are counted on one side only. -/
def verifyRelease (manifest : ReleaseManifest) (objects : List ContentObject) : Except ExecutionError Unit := do
  reject (manifest.entries.length != objects.length) (.handlerFailed "manifest and object count differ")
  reject (manifest.entries.length != (objects.map ContentObject.id).dedup.length)
    (.handlerFailed "manifest and object ids differ")
  checkEntries D T objects manifest.entries

/-! Publishing a release -/

/-- The surroundings of a release: the engine's answers, how an object is read, what is drawn. -/
structure PublishSurroundings where
  primitives : Primitives
  keypair : Keypair
  execute : Nat → String → Json → Except ExecutionError Json
  readObject : Json → Except String ContentObject
  drawnUuid : Nat → Uuid
  versionLabel : String
  publishedAt : Instant

/-- The proofs of changes not released yet, and the number of calls of the engine. -/
structure PipelineState where
  changeProofs : List Proof
  calls : Nat

abbrev PipelineM := Act PipelineState ExecutionError

variable (S : PublishSurroundings)

def executeOperation (operation : String) (input : Json) : PipelineM Json := fun state =>
  (S.execute state.calls operation input, { state with calls := state.calls + 1 })

/-- A proof of this input and output, signed by the key of the pipeline. -/
def pipelineProof (context : ExecutionContext) (id : Uuid) (operation : String) (input output : Json) :
    Except ExecutionError Proof :=
  (createProof S.primitives id context.actor context.delegationId operation input output context.timestamp
    S.keypair).mapError fun error => .evidenceFailed error.message

/-- A map from identifiers to objects, in the order of its keys. -/
def insertObject (object : ContentObject) : List ContentObject → List ContentObject
  | [] => [object]
  | first :: rest =>
    if object.id < first.id then object :: first :: rest
    else if object.id = first.id then object :: rest
    else first :: insertObject object rest

/-- The operation that a change calls, and its input. -/
def changeInput (objects : List ContentObject) (change : ContentChange) : Except ExecutionError (String × Json) :=
  match change.kind with
  | .create => .ok ("object.create", .object
      [("schema", change.schema), ("locale", .string change.locale), ("content", change.content)])
  | .edit => do
    let objectId ← orReject change.objectId (.handlerFailed "edit change requires object_id")
    let object ← orReject (objects.find? fun object => decide (object.id = objectId))
      (.handlerFailed ("edit refers to unknown object " ++ uuidText objectId))
    pure ("object.edit", .object [("object_id", jsonUuid objectId), ("schema", change.schema),
      ("object", objectJson T object), ("content", change.content)])

def applyChange (context : ExecutionContext) (objects : List ContentObject) (change : ContentChange) :
    PipelineM ContentObject := do
  let (operation, input) ← Act.lift (changeInput T objects change)
  let result ← executeOperation S operation input
  let state ← Act.current
  let proof ← Act.lift (pipelineProof S context (S.drawnUuid state.calls) (operation ++ "::v1") input result)
  Act.update fun state => { state with changeProofs := state.changeProofs ++ [proof] }
  let object := ((result.get "data").bind fun data => data.get "object").getD .null
  Act.lift ((S.readObject object).mapError fun error =>
    .handlerFailed ("handler returned invalid object: " ++ error))

def applyChanges (context : ExecutionContext) : List ContentObject → List ContentChange → PipelineM (List ContentObject)
  | objects, [] => pure objects
  | objects, change :: changes => do
    let object ← applyChange T S context objects change
    applyChanges context (insertObject object objects) changes

def publish (environment : String) (changes : List ContentChange) (context : ExecutionContext) :
    PipelineM ReleasePipelineOutput := do
  let objects ← applyChanges T S context [] changes
  let releaseInput : Json := .object
    [("environment", .string environment), ("version_label", .string S.versionLabel)]
  let _ ← executeOperation S "release.publish" releaseInput
  let state ← Act.current
  let release : Release :=
    { id := S.drawnUuid (state.calls + 1)
      editionId := S.drawnUuid state.calls
      environment
      publishedAt := S.publishedAt
      publishedBy := context.actor }
  let manifest := ReleaseManifest.fromResults D T release objects
  let releaseProof ← Act.lift (pipelineProof S context (S.drawnUuid (state.calls + 2)) "release.publish::v1"
    releaseInput (manifestJson T manifest))
  Act.update fun state => { state with changeProofs := [] }
  pure { release, manifest, objects, releaseProof, changeProofs := state.changeProofs }

end Release

/-! ### Orders -/

section Fulfillment

inductive OrderStatus where
  | pending
  | approved
  | fulfilled

def OrderStatus.debug : OrderStatus → String
  | .pending => "Pending"
  | .approved => "Approved"
  | .fulfilled => "Fulfilled"

def OrderStatus.canTransitionTo : OrderStatus → OrderStatus → Bool
  | .pending, .approved => true
  | .approved, .fulfilled => true
  | _, _ => false

structure OrderLine where
  catalogId : Uuid
  name : String
  quantity : Nat

structure Order where
  id : Uuid
  lines : List OrderLine
  status : OrderStatus
  createdAt : Instant
  updatedAt : Instant

def Order.transitionTo (order : Order) (next : OrderStatus) (now : Instant) : Except String Order :=
  if order.status.canTransitionTo next then .ok { order with status := next, updatedAt := now }
  else .error ("invalid order transition from " ++ order.status.debug ++ " to " ++ next.debug)

structure OrderEvidence where
  operation : String
  orderId : Uuid
  status : OrderStatus
  contentDigest : String
  recordDigest : Option String
  proof : Proof

structure FulfillmentManifest where
  orderId : Uuid
  fulfillmentDigest : String
  evidence : List OrderEvidence

structure FulfillmentPipelineOutput where
  order : Order
  manifest : FulfillmentManifest
  evidenceProofs : List Proof

section Encoding
variable (T : TextFormats)

def orderStatusJson : OrderStatus → Json
  | .pending => .string "pending"
  | .approved => .string "approved"
  | .fulfilled => .string "fulfilled"

def orderLineJson (line : OrderLine) : Json :=
  .object [("catalog_id", jsonUuid line.catalogId), ("name", .string line.name), ("quantity", jsonNat line.quantity)]

def orderJson (order : Order) : Json :=
  .object [("id", jsonUuid order.id), ("lines", .array (order.lines.map orderLineJson)),
    ("status", orderStatusJson order.status), ("created_at", jsonInstant T order.createdAt),
    ("updated_at", jsonInstant T order.updatedAt)]

def evidenceJson (evidence : OrderEvidence) : Json :=
  .object ([("operation", .string evidence.operation), ("order_id", jsonUuid evidence.orderId),
      ("status", orderStatusJson evidence.status), ("content_digest", .string evidence.contentDigest)] ++
    optionalMember "record_digest" Json.string evidence.recordDigest ++ [("proof", proofJson T evidence.proof)])

end Encoding

variable (D : DigestTexts) (T : TextFormats)

def orderDigest (order : Order) : String := canonicalDigest D (orderJson T order)

def evidenceDigest (evidence : List OrderEvidence) : String :=
  canonicalDigest D (.array (evidence.map (evidenceJson T)))

/-! Verification of a fulfilment -/

def orderCreate : String := "order.create"

def orderApprove : String := "order.approve"

def orderFulfill : String := "order.fulfill"

def checkEvidence (order : Order) (expected : String) (evidence : OrderEvidence) : Except ExecutionError Unit := do
  reject (evidence.operation != expected || evidence.orderId != order.id)
    (.handlerFailed ("invalid evidence for " ++ expected))
  reject (evidence.contentDigest != orderDigest D T order)
    (.handlerFailed ("content digest mismatch for " ++ expected))

/-- The expected operations and the evidence, side by side, as far as both go. -/
def checkAllEvidence (order : Order) : List String → List OrderEvidence → Except ExecutionError Unit
  | expected :: operations, evidence :: rest => do
    checkEvidence D T order expected evidence
    checkAllEvidence order operations rest
  | _, _ => .ok ()

/-- The digest of the fulfilment and the status of the evidence are not looked at. -/
def verifyFulfillment (manifest : FulfillmentManifest) (order : Order) : Except ExecutionError Unit := do
  reject (manifest.orderId != order.id) (.handlerFailed "manifest and order ids differ")
  reject (manifest.evidence.length != 3)
    (.handlerFailed "manifest must contain create, approve, and fulfill evidence")
  checkAllEvidence D T order [orderCreate, orderApprove, orderFulfill] manifest.evidence

/-! Fulfilling an order -/

/-- The surroundings of a fulfilment: the engine's answers, the order as stored, what is drawn. -/
structure FulfillSurroundings where
  primitives : Primitives
  keypair : Keypair
  created : Except ExecutionError Json
  approved : Except ExecutionError Json
  fulfilled : Except ExecutionError Json
  /-- What the parser says of a text that is no identifier. -/
  uuidError : String → String
  loadOrder : Uuid → Except ExecutionError Order
  approvedAt : Instant
  fulfilledAt : Instant
  proofId : String → Uuid

variable (S : FulfillSurroundings)

def createOrderInput (lines : List OrderLine) : Json := .object [("lines", .array (lines.map orderLineJson))]

def orderIdInput (order : Order) : Json := .object [("order_id", jsonUuid order.id)]

def evidenceFor (operation : String) (order : Order) (input : Json) (context : ExecutionContext) :
    Except ExecutionError OrderEvidence := do
  let proof ← (createProof S.primitives (S.proofId operation) context.actor context.delegationId (operation ++ "::v1")
    input (orderJson T order) context.timestamp S.keypair).mapError fun error => .evidenceFailed error.message
  pure
    { operation
      orderId := order.id
      status := order.status
      contentDigest := orderDigest D T order
      recordDigest := some (orderDigest D T order)
      proof }

/-- The identifier in the answer of `order.create`. -/
def createdOrderId (created : Json) : Except ExecutionError Uuid := do
  let text ← orReject (((created.get "data").bind fun data => data.get "order_id").bind Json.asStr)
    (.handlerFailed "handler returned no order_id")
  orReject (S.primitives.parseUuid text) (.handlerFailed ("invalid order_id: " ++ S.uuidError text))

def fulfill (lines : List OrderLine) (context : ExecutionContext) :
    Except ExecutionError FulfillmentPipelineOutput := do
  let created ← S.created
  let orderId ← createdOrderId S created
  let pending ← S.loadOrder orderId
  let _ ← S.approved
  let approved ← (pending.transitionTo .approved S.approvedAt).mapError fun error =>
    ExecutionError.handlerFailed ("approval produced invalid order: " ++ error)
  let _ ← S.fulfilled
  let order ← (approved.transitionTo .fulfilled S.fulfilledAt).mapError fun error =>
    ExecutionError.handlerFailed ("fulfillment produced invalid order: " ++ error)
  let createEvidence ← evidenceFor D T S orderCreate order (createOrderInput lines) context
  let approveEvidence ← evidenceFor D T S orderApprove order (orderIdInput order) context
  let fulfillEvidence ← evidenceFor D T S orderFulfill order (orderIdInput order) context
  let evidence := [createEvidence, approveEvidence, fulfillEvidence]
  pure
    { order
      manifest := ⟨order.id, evidenceDigest D T evidence, evidence⟩
      evidenceProofs := evidence.map OrderEvidence.proof }

end Fulfillment
end ProofPlatform.Domain
