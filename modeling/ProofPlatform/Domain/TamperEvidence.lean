import ProofPlatform.Domain.Pipelines
import ProofPlatform.Executor.EntryPoints
import ProofPlatform.Library.Table

/-! What an accepted manifest says about its objects, and which changes the verifiers see. -/
namespace ProofPlatform.Domain
open Kernel Executor Trace List Library Fallible FallibleState Table

variable (D : DigestTexts) (T : TextFormats)

/-- The manifest and the objects are bound one by one, and the digest to the entries. -/
structure ReleaseBound (manifest : ReleaseManifest) (objects : List ContentObject) : Prop where
  named : ∀ object ∈ objects, ∃ entry, manifest.entries.filter (fun e => decide (e.objectId = object.id)) = [entry] ∧
    entry.contentDigest = objectDigest D T object
  held : ∀ entry ∈ manifest.entries, ∃ object, objects.filter (fun o => decide (o.id = entry.objectId)) = [object]
  digest : manifest.releaseDigest = canonicalDigest D (entriesJson manifest.entries)

/-- The digest is bound to the evidence, and each item of it to the order. -/
structure FulfillmentBound (manifest : FulfillmentManifest) (order : Order) : Prop where
  digest : manifest.fulfillmentDigest = evidenceDigest D T manifest.evidence
  evidence : ∀ item ∈ manifest.evidence, item.orderId = order.id ∧ item.status = order.status ∧
    item.contentDigest = orderDigest D T order

/-- The entries name distinct objects, under the digest of these entries. -/
def ReleaseManifest.Careful (manifest : ReleaseManifest) : Prop :=
  Keyed ReleaseManifestEntry.objectId manifest.entries ∧
    manifest.releaseDigest = canonicalDigest D (entriesJson manifest.entries)

/-- Every item has the status of the order, under the digest of these items. -/
def FulfillmentManifest.Careful (manifest : FulfillmentManifest) (order : Order) : Prop :=
  manifest.fulfillmentDigest = evidenceDigest D T manifest.evidence ∧
    ∀ item ∈ manifest.evidence, item.status = order.status

/-- What verification reads of an entry. -/
def ReleaseManifestEntry.seen (entry : ReleaseManifestEntry) : Uuid × String := (entry.objectId, entry.contentDigest)

/-- What it compares that with. -/
def ContentObject.seen (object : ContentObject) : Uuid × String := (object.id, objectDigest D T object)

/-- As many entries as objects, which have distinct identifiers, and each entry is seen in one. -/
structure ReleaseMatched (manifest : ReleaseManifest) (objects : List ContentObject) : Prop where
  length : manifest.entries.length = objects.length
  keyed : Keyed ContentObject.id objects
  entries : manifest.entries.map ReleaseManifestEntry.seen ⊆ objects.map (ContentObject.seen D T)

/-- What verification reads of an item of the evidence. -/
def OrderEvidence.seen (item : OrderEvidence) : String × Uuid × String :=
  (item.operation, item.orderId, item.contentDigest)

/-- What verification expects to read of the evidence of an order. -/
def expectedEvidence (order : Order) : List (String × Uuid × String) :=
  [orderCreate, orderApprove, orderFulfill].map fun operation => (operation, order.id, orderDigest D T order)

/-- The manifest and its three items are seen to be those of the order. -/
structure FulfillmentMatched (manifest : FulfillmentManifest) (order : Order) : Prop where
  orderId : manifest.orderId = order.id
  evidence : manifest.evidence.map OrderEvidence.seen = expectedEvidence D T order

/-- What is left of a release is bound, and an object is changed together with its entry or not at all. -/
structure ReleaseSealed (output : ReleasePipelineOutput) : Prop where
  bound : ReleaseBound D T output.manifest output.objects
  objects : ∀ (manifest' : ReleaseManifest) objects', (∀ object ∈ output.objects, ∀ object' ∈ objects',
      objectDigest D T object' = objectDigest D T object → object' = object) →
    (manifest'.entries.map ReleaseManifestEntry.seen).Perm (output.manifest.entries.map ReleaseManifestEntry.seen) →
    (verifyRelease D T manifest' objects' = .ok () ↔ objects'.Perm output.objects)

/-- What is left of a fulfilment is bound, and while its evidence looks the same, no other order passes. -/
structure FulfillmentSealed (output : FulfillmentPipelineOutput) : Prop where
  bound : FulfillmentBound D T output.manifest output.order
  order : ∀ (manifest' : FulfillmentManifest) order',
    (orderDigest D T order' = orderDigest D T output.order → order' = output.order) →
    manifest'.evidence.map OrderEvidence.seen = output.manifest.evidence.map OrderEvidence.seen →
    (verifyFulfillment D T manifest' order' = .ok () ↔ manifest'.orderId = output.order.id ∧ order' = output.order)

variable {context : ExecutionContext}

section Release
variable {D T} {manifest : ReleaseManifest} {objects : List ContentObject} {entry : ReleaseManifestEntry}

theorem checkEntry_eq_ok : checkEntry D T objects entry = .ok () ↔
    ∃ object, lookup ContentObject.id objects entry.objectId = some object ∧
      objectDigest D T object = entry.contentDigest := by
  simp only [checkEntry, bind_eq_ok, orReject_eq_ok, reject_eq_ok, bne_eq_false_iff_eq, Table.lookup]

variable {entries : List ReleaseManifestEntry}

theorem checkEntries_eq_ok :
    checkEntries D T objects entries = .ok () ↔ ∀ entry ∈ entries, checkEntry D T objects entry = .ok () := by
  induction entries with
  | nil => simp [checkEntries]
  | cons first rest ih =>
    simp only [checkEntries, bind_eq_ok, ih, forall_mem_cons]
    constructor
    · rintro ⟨_, hfirst, hrest⟩
      exact ⟨hfirst, hrest⟩
    · rintro ⟨hfirst, hrest⟩
      exact ⟨(), hfirst, hrest⟩

theorem verifyRelease_eq_ok : verifyRelease D T manifest objects = .ok () ↔ ReleaseMatched D T manifest objects := by
  have hcounts : manifest.entries.length = objects.length →
      (manifest.entries.length = (objects.map ContentObject.id).dedup.length ↔ Keyed ContentObject.id objects) := by
    intro hlength
    rw [hlength, ← length_map ContentObject.id]
    constructor
    · intro h
      exact dedup_eq_self.mp ((dedup_sublist _).eq_of_length h.symm)
    · intro h
      rw [dedup_eq_self.mpr h]
  simp only [verifyRelease, bind_eq_ok, reject_eq_ok, exists_const, bne_eq_false_iff_eq, checkEntries_eq_ok,
    checkEntry_eq_ok]
  constructor
  · rintro ⟨hlength, hids, hentries⟩
    refine ⟨hlength, (hcounts hlength).mp hids, fun pair hpair => ?_⟩
    obtain ⟨entry, hentry, rfl⟩ := mem_map.mp hpair
    obtain ⟨object, hfound, hdigest⟩ := hentries entry hentry
    obtain ⟨hmem, hid⟩ := lookup_eq_some hfound
    exact mem_map.mpr ⟨object, hmem, Prod.ext hid hdigest⟩
  · rintro ⟨hlength, hkeyed, hentries⟩
    refine ⟨hlength, (hcounts hlength).mpr hkeyed, fun entry hentry => ?_⟩
    obtain ⟨object, hmem, hseen⟩ := mem_map.mp (hentries (mem_map_of_mem hentry))
    obtain ⟨hid, hdigest⟩ := Prod.mk.inj hseen
    exact ⟨object, hid ▸ hkeyed.lookup_of_mem hmem, hdigest⟩

/-- An accepted manifest binds its objects exactly if its entries are distinct and its digest theirs. -/
theorem ReleaseMatched.bound_iff (h : ReleaseMatched D T manifest objects) :
    ReleaseBound D T manifest objects ↔ manifest.Careful D := by
  have hentries : ∀ entry ∈ manifest.entries, ∃ object ∈ objects, object.seen D T = entry.seen := fun entry hentry =>
    mem_map.mp (h.entries (mem_map_of_mem hentry))
  constructor
  · intro hbound
    refine ⟨keyed_of_filter fun entry hentry => ?_, hbound.digest⟩
    obtain ⟨object, hobject, hseen⟩ := hentries entry hentry
    obtain ⟨named, hnamed, -⟩ := hbound.named object hobject
    exact ⟨named, (Prod.mk.inj hseen).1 ▸ hnamed⟩
  · rintro ⟨hdistinct, hdigest⟩
    refine ⟨fun object hobject => ?_, fun entry hentry => ?_, hdigest⟩
    · -- as many distinct names as objects, so every object is named
      have hnames : ∀ entry ∈ manifest.entries, ∃ object ∈ objects, object.id = entry.objectId := by
        intro entry hentry
        obtain ⟨named, hnamed, hseen⟩ := hentries entry hentry
        exact ⟨named, hnamed, (Prod.mk.inj hseen).1⟩
      obtain ⟨entry, hentry, hname⟩ := hdistinct.exists_of_length_eq h.length hnames object hobject
      obtain ⟨named, hnamed, hseen⟩ := hentries entry hentry
      obtain ⟨hid, hcontent⟩ := Prod.mk.inj hseen
      obtain rfl := h.keyed.eq_of_key_eq hnamed hobject (hid.trans hname)
      exact ⟨entry, hname ▸ hdistinct.filter_of_mem hentry, hcontent.symm⟩
    · obtain ⟨object, hobject, hseen⟩ := hentries entry hentry
      exact ⟨object, (Prod.mk.inj hseen).1 ▸ h.keyed.filter_of_mem hobject⟩

/-! ### What publishing leaves -/

/-- A manifest made from objects with distinct identifiers. -/
structure Published (D : DigestTexts) (T : TextFormats) (output : ReleasePipelineOutput) : Prop where
  keyed : Keyed ContentObject.id output.objects
  manifest : output.manifest = ReleaseManifest.fromResults D T output.release output.objects

theorem insertObject_increasing {object : ContentObject} (h : objects.Pairwise fun a b => a.id < b.id) :
    (insertObject object objects).Pairwise fun a b => a.id < b.id := by
  have hmem : ∀ {rest : List ContentObject} {x}, x ∈ insertObject object rest → x = object ∨ x ∈ rest := by
    intro rest x hx
    induction rest with
    | nil => exact .inl (mem_singleton.mp hx)
    | cons first rest ih => grind [insertObject]
  induction objects with
  | nil => exact pairwise_singleton _ _
  | cons first rest ih =>
    obtain ⟨hfirst, hrest⟩ := pairwise_cons.mp h
    rw [insertObject]
    split_ifs with hlt heq
    · refine pairwise_cons.mpr ⟨fun x hx => ?_, h⟩
      rcases mem_cons.mp hx with rfl | hx
      · exact hlt
      · exact BitVec.lt_trans hlt (hfirst x hx)
    · exact pairwise_cons.mpr ⟨fun x hx => heq ▸ hfirst x hx, hrest⟩
    · refine pairwise_cons.mpr ⟨fun x hx => ?_, ih hrest⟩
      rcases hmem hx with rfl | hx
      · bv_omega
      · exact hfirst x hx

variable {changes : List ContentChange}

theorem applyChanges_increasing {S : PublishSurroundings}
    {state : PipelineState} (h : objects.Pairwise fun a b => a.id < b.id) :
    (applyChanges T S context objects changes).Meets state
      (fun objects' _ => objects'.Pairwise fun a b => a.id < b.id) fun _ _ => True := by
  induction changes generalizing objects state with
  | nil => exact h
  | cons change changes ih =>
    rw [applyChanges, Act.meets_bind]
    unfold Act.Meets
    rcases applyChange T S context objects change state with ⟨_ | object, state'⟩
    · trivial
    · exact ih (insertObject_increasing h)

theorem published_of_publish {S : PublishSurroundings} {environment : String}
    {state state' : PipelineState} {output : ReleasePipelineOutput}
    (h : publish D T S environment changes context state = (.ok output, state')) : Published D T output := by
  suffices hmeets : (publish D T S environment changes context).Meets state (fun output _ => Published D T output)
      fun _ _ => True from hmeets.of_ok h
  rw [publish, Act.meets_bind]
  refine (applyChanges_increasing List.Pairwise.nil).mono (fun objects state hincreasing => ?_) fun _ _ _ => trivial
  have hkeyed : Keyed ContentObject.id objects := pairwise_map.mpr (hincreasing.imp BitVec.ne_of_lt)
  simp only [Act.meets_bind, Act.meets_current, Act.meets_lift, Act.meets_update, Act.meets_pure, implies_true,
    and_true]
  unfold Act.Meets
  split
  · exact fun _ _ => ⟨hkeyed, rfl⟩
  · trivial

section Changes
variable {output : ReleasePipelineOutput} (h : Published D T output)
include h

theorem Published.entries_seen : (output.manifest.entries.map ReleaseManifestEntry.seen).Perm
    (output.objects.map (ContentObject.seen D T)) := by
  rw [h.manifest, ReleaseManifest.fromResults, map_map]
  exact (perm_insertionSort _ output.objects).map _

theorem Published.bound : ReleaseBound D T output.manifest output.objects := by
  have hseen := h.entries_seen
  have hmatched : ReleaseMatched D T output.manifest output.objects :=
    ⟨by simpa using hseen.length_eq, h.keyed, hseen.subset⟩
  refine hmatched.bound_iff.mpr ⟨?_, by rw [h.manifest]; rfl⟩
  have hids := (hseen.map Prod.fst).nodup_iff
  rw [map_map, map_map] at hids
  exact hids.mpr h.keyed

theorem Published.sealed : ReleaseSealed D T output where
  bound := h.bound
  objects manifest' objects' hcollision hseen := by
    rw [verifyRelease_eq_ok]
    replace hseen := hseen.trans h.entries_seen
    have hlength : manifest'.entries.length = output.objects.length := by simpa using hseen.length_eq
    constructor
    · rintro ⟨hcount, -, hentries⟩
      have hsub : output.objects ⊆ objects' := by
        intro object hobject
        obtain ⟨object', hobject', hpair⟩ := mem_map.mp (hentries (hseen.mem_iff.mpr (mem_map_of_mem hobject)))
        obtain rfl := hcollision object hobject object' hobject' (Prod.mk.inj hpair).2
        exact hobject'
      exact ((subperm_of_subset h.keyed.of_map hsub).perm_of_length_le (hcount ▸ hlength).le).symm
    · intro hperm
      exact ⟨hlength.trans hperm.length_eq.symm, (hperm.map _).nodup_iff.mpr h.keyed,
        (hseen.trans (hperm.map _).symm).subset⟩

end Changes

end Release

section Fulfillment
variable {D T} {manifest : FulfillmentManifest} {order : Order}

theorem checkEvidence_eq_ok {expected : String} {item : OrderEvidence} :
    checkEvidence D T order expected item = .ok () ↔
      item.operation = expected ∧ item.orderId = order.id ∧ item.contentDigest = orderDigest D T order := by
  simp only [checkEvidence, bind_eq_ok, reject_eq_ok, exists_const, Bool.or_eq_false_iff, bne_eq_false_iff_eq,
    and_assoc]

theorem checkAllEvidence_eq_ok {operations : List String} {evidence : List OrderEvidence}
    (hlength : evidence.length = operations.length) : checkAllEvidence D T order operations evidence = .ok () ↔
      evidence.map OrderEvidence.seen = operations.map fun operation =>
        (operation, order.id, orderDigest D T order) := by
  induction operations generalizing evidence with
  | nil =>
    obtain rfl := length_eq_zero_iff.mp hlength
    simp [checkAllEvidence]
  | cons operation operations ih =>
    cases evidence with
    | nil => cases hlength
    | cons item rest =>
      simp only [checkAllEvidence, bind_eq_ok, ih (Nat.succ.inj hlength), map_cons, List.cons.injEq,
        OrderEvidence.seen, Prod.mk.injEq]
      constructor
      · rintro ⟨_, hitem, hrest⟩
        exact ⟨checkEvidence_eq_ok.mp hitem, hrest⟩
      · rintro ⟨hitem, hrest⟩
        exact ⟨(), checkEvidence_eq_ok.mpr hitem, hrest⟩

theorem verifyFulfillment_eq_ok :
    verifyFulfillment D T manifest order = .ok () ↔ FulfillmentMatched D T manifest order := by
  simp only [verifyFulfillment, bind_eq_ok, reject_eq_ok, exists_const, bne_eq_false_iff_eq]
  constructor
  · rintro ⟨hid, hlength, hcheck⟩
    exact ⟨hid, (checkAllEvidence_eq_ok hlength).mp hcheck⟩
  · rintro ⟨hid, hseen⟩
    have hlength : manifest.evidence.length = 3 := by
      simpa [expectedEvidence] using congrArg List.length hseen
    exact ⟨hid, hlength, (checkAllEvidence_eq_ok hlength).mpr hseen⟩

theorem FulfillmentMatched.bound_iff (h : FulfillmentMatched D T manifest order) :
    FulfillmentBound D T manifest order ↔ manifest.Careful D T order := by
  constructor
  · intro hbound
    exact ⟨hbound.digest, fun item hitem => (hbound.evidence item hitem).2.1⟩
  · rintro ⟨hdigest, hstatus⟩
    refine ⟨hdigest, fun item hitem => ?_⟩
    have hmem : item.seen ∈ expectedEvidence D T order := h.evidence ▸ mem_map_of_mem hitem
    obtain ⟨operation, -, hsame⟩ := mem_map.mp hmem
    obtain ⟨-, hid, hcontent⟩ := Prod.mk.inj hsame |>.imp_right Prod.mk.inj
    exact ⟨hid.symm, hstatus item hitem, hcontent.symm⟩

/-! ### What fulfilling leaves -/

variable {S : FulfillSurroundings} {lines : List OrderLine} {output : FulfillmentPipelineOutput}

theorem evidenceFor_eq_ok {operation : String} {input : Json} {item : OrderEvidence}
    (h : evidenceFor D T S operation order input context = .ok item) :
    item.seen = (operation, order.id, orderDigest D T order) ∧ item.status = order.status := by
  obtain ⟨proof, -, hitem⟩ := bind_eq_ok.mp h
  cases hitem
  exact ⟨rfl, rfl⟩

theorem matched_of_fulfill (h : fulfill D T S lines context = .ok output) :
    FulfillmentMatched D T output.manifest output.order ∧ output.manifest.Careful D T output.order := by
  simp only [fulfill, bind_eq_ok] at h
  obtain ⟨_, -, _, -, _, -, _, -, _, -, _, -, order, -, created, hcreated, approved, happroved, fulfilled, hfulfilled,
    houtput⟩ := h
  cases houtput
  obtain ⟨hcreated, hcreatedStatus⟩ := evidenceFor_eq_ok hcreated
  obtain ⟨happroved, happrovedStatus⟩ := evidenceFor_eq_ok happroved
  obtain ⟨hfulfilled, hfulfilledStatus⟩ := evidenceFor_eq_ok hfulfilled
  refine ⟨⟨rfl, ?_⟩, rfl, ?_⟩
  · simp only [map_cons, map_nil, hcreated, happroved, hfulfilled, expectedEvidence]
  · simp [hcreatedStatus, happrovedStatus, hfulfilledStatus]

theorem sealed_of_fulfill (h : fulfill D T S lines context = .ok output) : FulfillmentSealed D T output := by
  obtain ⟨hmatched, hcareful⟩ := matched_of_fulfill h
  refine ⟨hmatched.bound_iff.mpr hcareful, fun manifest' order' hcollision hseen => ?_⟩
  rw [verifyFulfillment_eq_ok]
  rw [hmatched.evidence] at hseen
  constructor
  · rintro ⟨hid, hevidence⟩
    have hdigest := congrArg (fun items => (items.map fun item => item.2.2).headD "") (hevidence.symm.trans hseen)
    obtain rfl := hcollision hdigest
    exact ⟨hid, rfl⟩
  · rintro ⟨hid, rfl⟩
    exact ⟨hid, hseen⟩

end Fulfillment

/-- What the verifiers accept, for every manifest with any objects and any order. An accepted manifest binds what it
names exactly if it was made with care: whether a release names an object twice, the status of the evidence and both
digests are left open. What the pipelines leave is bound and sealed. -/
theorem verification_binds_iff_careful : (∀ manifest objects,
      (verifyRelease D T manifest objects = .ok () ↔ ReleaseMatched D T manifest objects) ∧
      (verifyRelease D T manifest objects = .ok () → (ReleaseBound D T manifest objects ↔ manifest.Careful D))) ∧
    (∀ manifest order,
      (verifyFulfillment D T manifest order = .ok () ↔ FulfillmentMatched D T manifest order) ∧
      (verifyFulfillment D T manifest order = .ok () →
        (FulfillmentBound D T manifest order ↔ manifest.Careful D T order))) ∧
    (∀ S environment changes context state output state',
      publish D T S environment changes context state = (.ok output, state') → ReleaseSealed D T output) ∧
    ∀ S lines context output, fulfill D T S lines context = .ok output → FulfillmentSealed D T output := by
  refine ⟨fun _ _ => ⟨verifyRelease_eq_ok, fun h => (verifyRelease_eq_ok.mp h).bound_iff⟩,
    fun _ _ => ⟨verifyFulfillment_eq_ok, fun h => (verifyFulfillment_eq_ok.mp h).bound_iff⟩, ?_, ?_⟩
  · intro S environment changes context state output state' h
    exact (published_of_publish h).sealed
  · intro S lines context output h
    exact sealed_of_fulfill h

def sampleContent (id : Uuid) (title : String) : ContentObject :=
  ⟨id, 9, 1, "en", .object [("title", .string title)], 1, 0, 0, .draft⟩

def sampleOrder (status : OrderStatus) : Order := ⟨3, [⟨4, "tea", 2⟩], status, 0, 0⟩

def sampleContext : ExecutionContext := ⟨⟨7⟩, some .agent, none, none, "/workspace", 0⟩

/-- A signer of whom verification reads nothing. -/
def samplePrimitives : Primitives := { keyPrimitives with parseUuid := fun _ => some 3 }

/-- An engine that creates the first object. -/
def publishSample : PublishSurroundings where
  primitives := samplePrimitives
  keypair := ⟨⟨7⟩, .agent, 0, 0⟩
  execute _ _ _ := .ok (.object [])
  readObject _ := .ok (sampleContent 1 "a")
  drawnUuid n := Uuid.v7 n
  versionLabel := "1"
  publishedAt := 0

/-- An engine that takes the order through its three steps. -/
def fulfillSample : FulfillSurroundings where
  primitives := samplePrimitives
  keypair := ⟨⟨7⟩, .agent, 0, 0⟩
  created := .ok (.object [("data", .object [("order_id", jsonUuid 3)])])
  approved := .ok (.object [])
  fulfilled := .ok (.object [])
  uuidError _ := "invalid length"
  loadOrder _ := .ok (sampleOrder .pending)
  approvedAt := 0
  fulfilledAt := 0
  proofId _ := Uuid.v7 1

/-- What both pipelines put out is sealed, and made with care. -/
theorem verification_binds_published_objects :
    let D := fnvDigests
    let T := epochFormats
    let change : ContentChange := ⟨.create, "en", .object [], .object [("title", .string "a")], none⟩
    (∃ output state', publish D T publishSample "staging" [change] sampleContext ⟨[], 0⟩ = (.ok output, state') ∧
      ReleaseSealed D T output ∧ output.manifest.Careful D) ∧
    ∃ output, fulfill D T fulfillSample [⟨4, "tea", 2⟩] sampleContext = .ok output ∧
      FulfillmentSealed D T output ∧ output.manifest.Careful D T output.order := by
  intro D T change
  obtain ⟨hrelease, hfulfillment, hpublish, hfulfill⟩ := verification_binds_iff_careful D T
  constructor
  · obtain ⟨output, state', houtput, hobjects⟩ : ∃ output state', publish D T publishSample "staging" [change]
        sampleContext ⟨[], 0⟩ = (.ok output, state') ∧ output.objects = [sampleContent 1 "a"] := ⟨_, _, rfl, rfl⟩
    have hsealed := hpublish _ _ _ _ _ _ _ houtput
    have haccepted := (hsealed.objects output.manifest output.objects (by simp [hobjects]) (.refl _)).mpr (.refl _)
    exact ⟨output, state', houtput, hsealed, ((hrelease _ _).2 haccepted).mp hsealed.bound⟩
  · obtain ⟨output, houtput, hid⟩ : ∃ output, fulfill D T fulfillSample [⟨4, "tea", 2⟩] sampleContext = .ok output ∧
        output.manifest.orderId = output.order.id := ⟨_, rfl, rfl⟩
    have hsealed := hfulfill _ _ _ _ houtput
    have haccepted := (hsealed.order output.manifest output.order (fun _ => rfl) rfl).mpr ⟨hid, rfl⟩
    exact ⟨output, houtput, hsealed, ((hfulfillment _ _).2 haccepted).mp hsealed.bound⟩

/-- Evidence of a fulfilled order that says the order is pending. -/
def staleEvidence (operation : String) : OrderEvidence where
  operation
  orderId := 3
  status := .pending
  contentDigest := orderDigest D T (sampleOrder .fulfilled)
  recordDigest := none
  proof := ⟨⟨0, ⟨0⟩, none, operation, ⟨0⟩, ⟨0⟩, 0, none⟩, 0⟩

/-- A release that names one object twice and leaves out the other is accepted under any digest, and so is an order
with another status. -/
theorem careless_manifests_accepted :
    let D := fnvDigests
    let T := epochFormats
    let first := manifestEntry D T (sampleContent 1 "a")
    let objects := [sampleContent 1 "a", sampleContent 2 "b"]
    let manifest : ReleaseManifest := ⟨5, 6, "staging", 0, "sha256:0", [first, first]⟩
    let evidence := [orderCreate, orderApprove, orderFulfill].map (staleEvidence D T)
    let fulfillment : FulfillmentManifest := ⟨3, "sha256:0", evidence⟩
    verifyRelease D T manifest objects = .ok () ∧ ¬ ReleaseBound D T manifest objects ∧
      verifyFulfillment D T fulfillment (sampleOrder .fulfilled) = .ok () ∧
      ¬ FulfillmentBound D T fulfillment (sampleOrder .fulfilled) := by
  intro D T first objects manifest evidence fulfillment
  refine ⟨?_, fun hbound => ?_, ?_, fun hbound => ?_⟩
  · refine verifyRelease_eq_ok.mpr ⟨rfl, by simp [Keyed, objects, sampleContent], fun pair hpair => ?_⟩
    obtain rfl : pair = first.seen := by simpa [manifest] using hpair
    exact mem_cons_self
  · obtain ⟨entry, hfilter, -⟩ := hbound.named (sampleContent 2 "b") (by simp [objects])
    cases hfilter
  · exact verifyFulfillment_eq_ok.mpr ⟨rfl, rfl⟩
  · have hstatus := (hbound.evidence (staleEvidence D T orderCreate) mem_cons_self).2.1
    cases hstatus

end ProofPlatform.Domain
