import ProofPlatform.Executor.Governed
import ProofPlatform.Kernel.Attenuation

/-! Which links of a supplied delegation chain the direct path checks. -/
namespace ProofPlatform.Executor
open Kernel Library.Interaction Library.Fallible Procedure Option

/-- The link a context selects: the first grant with the named identifier. -/
def selectedIndex (context : ExecutionContext) (chain : DelegationChain) : Option Nat :=
  context.delegationId.bind fun id => chain.grants.findIdx? fun grant => grant.id == id

/-- The links that are not selected. Without a named identifier that is all of them. -/
def unselected (context : ExecutionContext) (chain : DelegationChain) : List Delegation :=
  match selectedIndex context chain with
  | some index => chain.grants.eraseIdx index
  | none => chain.grants

/-- What admission on the direct path establishes: the store speaks only for the selected link. -/
structure ChainAdmission (engine : ExecutionEngine) (stored : Uuid → Delegation → Prop)
    (context : ExecutionContext) (operation domain : String) (chain : DelegationChain) : Prop where
  valid : chain.validate context.actor context.timestamp = .ok ()
  named : ∀ id, context.delegationId = some id → ∃ index grant,
    selectedIndex context chain = some index ∧ chain.grants[index]? = some grant ∧
    grant.scope.scopeAllowsOperation operation domain = true ∧ (engine.storage = true → stored id grant)

/-- Handler calls are allowed only after admission; a grant the store returns is one it
holds. -/
abbrev admissionMonitor (stored : Uuid → Delegation → Prop) (admitted : Prop) : Monitor engineInterface where
  Phase := Unit
  allows
    | _, .executeVersioned _ _ _ _ => admitted
    | _, _ => True
  relies
    | _, .loadDelegation id, .ok (some grant) => stored id grant
    | _, _, _ => True
  next _ _ _ := ()

section
variable {engine : ExecutionEngine} {P : Primitives} {stored : Uuid → Delegation → Prop} {admitted : Prop}
  {context : ExecutionContext} {operation version : String} {input : Json} {entry : RegistryEntry}

theorem storageCall_obeys {α : Type} {M : Monitor engineInterface} {phase : M.Phase} {call : Exec (Except String α)}
    {post : M.Phase → α → Prop} :
    Procedure.Obeys M post (fun _ _ => True) phase (ExecutionEngine.storageCall call) ↔
      Procedure.Obeys M (fun mid answer => ∀ value, answer = .ok value → post mid value) (fun _ _ => True)
        phase call := by
  rw [ExecutionEngine.storageCall, obeys_bind]
  constructor <;> intro h <;> refine h.mono fun mid answer ha => ?_
  · intro value hv
    subst hv
    simpa using ha
  · cases answer <;> simp_all

variable {chain : DelegationChain}

/-- Enforcement leaves a validated chain whose selected link allows the operation. -/
theorem enforceDelegation_obeys {domain : String} {id : Uuid}
    (hid : context.delegationId = some id) (hc : context.delegationChain = some chain) :
    Procedure.Obeys (admissionMonitor stored admitted)
      (fun _ _ => ChainAdmission engine stored context operation domain chain) (fun _ _ => True) ()
      (engine.enforceDelegation operation domain context id) := by
  have hsel : selectedIndex context chain = chain.grants.findIdx? fun grant => grant.id == id := by
    rw [selectedIndex, hid, bind_some]
  have hadm {grant : Delegation} {index : Nat} (hv : chain.validate context.actor context.timestamp = .ok ())
      (hi : selectedIndex context chain = some index) (hg : chain.grants[index]? = some grant)
      (hs : grant.scope.scopeAllowsOperation operation domain = true)
      (hst : engine.storage = true → stored id grant) :
      ChainAdmission engine stored context operation domain chain := by
    refine ⟨hv, fun id' hid' => ⟨index, grant, hi, hg, hs, ?_⟩⟩
    obtain rfl := some.inj (hid.symm.trans hid')
    exact hst
  simp only [ExecutionEngine.enforceDelegation, obeys_bind, obeys_ofExcept, hc,
    orReject_some, Except.ok.injEq, mapError_eq_ok, implies_true, and_true, forall_eq']
  intro _ hv
  split
  · simp only [obeys_bind, storageCall_obeys, obeys_ofExcept, obeys_pure,
      orReject_eq_ok, reject_eq_ok, bne_eq_false_iff_eq, Bool.not_eq_false', implies_true, and_true]
    refine obeys_call.mpr ⟨trivial, ?_⟩
    intro answer hrely found hfound grant hgrant index hindex _ hlookup _ _ _ hscope
    subst hfound
    subst hgrant
    exact hadm hv (hsel.trans hindex) hlookup hscope (fun _ => hrely)
  · next hstorage =>
    simp only [obeys_bind, obeys_ofExcept, orReject_eq_ok, reject_eq_ok, Bool.not_eq_false',
      implies_true, and_true]
    intro grant hgrant _ hscope
    obtain ⟨index, hindex, hlookup⟩ : ∃ index, (chain.grants.findIdx? fun grant => grant.id == id) = some index ∧
        chain.grants[index]? = some grant := by
      rw [List.find?_eq_some_iff_getElem] at hgrant
      obtain ⟨hp, i, hi, he, hbefore⟩ := hgrant
      refine ⟨i, List.findIdx?_eq_some_iff_getElem.mpr ⟨hi, by simpa [he] using hp, ?_⟩, by simp [he, hi]⟩
      intro j hj
      simpa using hbefore j hj
    exact hadm hv (hsel.trans hindex) hlookup hscope (fun h => absurd h hstorage)

/-- The delegation gate as a whole: a supplied chain is admitted, named or not. -/
theorem checkDelegation_obeys (hc : context.delegationChain = some chain) :
    Procedure.Obeys (admissionMonitor stored admitted)
      (fun _ _ => ChainAdmission engine stored context operation entry.domain chain) (fun _ _ => True) ()
      (engine.checkDelegation entry operation context) := by
  unfold ExecutionEngine.checkDelegation
  cases hid : context.delegationId with
  | some id => exact enforceDelegation_obeys hid hc
  | none =>
    simp only [hc, obeys_ofExcept, mapError_eq_ok, implies_true, and_true]
    intro _ hv
    exact ⟨hv, fun id h => by simp [hid] at h⟩

/-- The direct path calls a handler or returns an outcome only with its chain admitted. -/
theorem executeInner_obeys (hc : context.delegationChain = some chain)
    (he : engine.registry.find operation version = some entry)
    (approval : Option (ApprovalGrant × Principal)) (evidenceRequired : Bool) :
    Procedure.Obeys
      (admissionMonitor stored (ChainAdmission engine stored context operation entry.domain chain))
      (fun _ _ => ChainAdmission engine stored context operation entry.domain chain) (fun _ _ => True) ()
      (engine.executeInner P operation version input context approval evidenceRequired) := by
  unfold ExecutionEngine.executeInner
  simp only [obeys_bind, obeys_ofExcept, he, orReject_some, Except.ok.injEq, forall_eq',
    implies_true, and_true]
  intro _ _ _ _
  refine (checkDelegation_obeys hc).mono fun _ _ hadm => ?_
  -- Past the gate every request is allowed, so what the rest of the path does is immaterial.
  intro handler _
  apply Program.obeys_of_allows
  · rintro _ (_ | _) <;> first | exact hadm | trivial
  · rintro _ (_ | _) <;> first | exact hadm | trivial

end

abbrev DirectProgram := Program engineInterface (Except ExecutionError InternalExecutionOutcome)

/-- The path is past its gates: it is about to call the handler, or has returned an outcome. -/
def PastGates (rest : DirectProgram) : Prop :=
  (∃ operation version input context next,
    rest = .ask (.executeVersioned operation version input context) next) ∨
  ∃ outcome, rest = .done (.ok outcome)

/-- Every grant the store returned in a run is the one it holds under that identifier. -/
def LoadsFrom (stored : Uuid → Option Delegation) (history : List engineInterface.Exchange) : Prop :=
  ∀ id found, (⟨.loadDelegation id, .ok found⟩ : engineInterface.Exchange) ∈ history → found = stored id

section
variable {P : Primitives} {engine : ExecutionEngine} {operation version : String} {input : Json}
  {context : ExecutionContext} {approval : Option (ApprovalGrant × Principal)} {evidenceRequired : Bool}
  {entry : RegistryEntry} {chain : DelegationChain} {history : List engineInterface.Exchange}
  {rest : DirectProgram}

section
variable (hr : (engine.executeInner P operation version input context approval evidenceRequired).run.Run history rest)
  (hp : PastGates rest)
include hr hp

theorem chainAdmission_of_run (stored : Uuid → Delegation → Prop)
    (he : engine.registry.find operation version = some entry) (hc : context.delegationChain = some chain)
    (hs : ∀ id grant, (⟨.loadDelegation id, .ok (some grant)⟩ : engineInterface.Exchange) ∈ history →
      stored id grant) :
    ChainAdmission engine stored context operation entry.domain chain := by
  have ht : (admissionMonitor stored
      (ChainAdmission engine stored context operation entry.domain chain)).Trusts () history := by
    refine Monitor.trusts_of_forall (fun _ exchange hx => ?_) _
    obtain ⟨request, answer⟩ := exchange
    cases request with
    | loadDelegation id =>
      match answer, hx with
      | .ok (some grant), hx => exact hs id grant hx
      | .ok none, _ | .error _, _ => trivial
    | _ => trivial
  have ho := hr.obeys ht (executeInner_obeys hc he approval evidenceRequired)
  rcases hp with ⟨_, _, _, _, _, rfl⟩ | ⟨_, rfl⟩
  · exact ho.1
  · exact ho

private theorem find_of_run : ∃ entry, engine.registry.find operation version = some entry := by
  cases hf : engine.registry.find operation version with
  | some entry => exact ⟨entry, rfl⟩
  | none =>
    have hd : (engine.executeInner P operation version input context approval evidenceRequired).run =
        .done (.error (.operationNotFound operation version)) := by
      rw [ExecutionEngine.executeInner, hf]
      rfl
    rw [hd] at hr
    cases hr
    rcases hp with ⟨_, _, _, _, _, h⟩ | ⟨_, h⟩ <;> cases h

end

private theorem selected_id {index : Nat} {grant : Delegation} {id : Uuid} (hid : context.delegationId = some id)
    (hi : selectedIndex context chain = some index) (hg : chain.grants[index]? = some grant) :
    grant.id = id := by
  rw [selectedIndex, hid, bind_some, List.findIdx?_eq_some_iff_getElem] at hi
  obtain ⟨hlt, hp, _⟩ := hi
  rw [List.getElem?_eq_getElem hlt] at hg
  have he := some.inj hg
  rw [he] at hp
  exact beq_iff_eq.mp hp

private theorem forall_grants_iff {Q : Delegation → Prop}
    (hsel : ∀ index, selectedIndex context chain = some index → ∃ grant, chain.grants[index]? = some grant ∧ Q grant) :
    (∀ grant ∈ chain.grants, Q grant) ↔ ∀ grant ∈ unselected context chain, Q grant := by
  unfold unselected
  cases hi : selectedIndex context chain with
  | none => rfl
  | some index =>
    constructor
    · exact fun h grant hg => h grant (List.mem_of_mem_eraseIdx hg)
    · intro h grant hg
      obtain ⟨i, hlt, rfl⟩ := List.mem_iff_getElem.mp hg
      by_cases hii : i = index
      · obtain ⟨g, hget, hq⟩ := hsel index hi
        subst hii
        rw [List.getElem?_eq_getElem hlt] at hget
        exact some.inj hget ▸ hq
      · exact h _ (List.mem_eraseIdx_iff_getElem.mpr ⟨i, hlt, hii, rfl⟩)

end

/-- The direct path checks the scope of one link. For an admitted call, the whole chain allows the operation if and
only if the unselected links do; and the governed path admits the same context at the same instant if and only if,
besides, the selected link is named as the last one. -/
theorem direct_scope_iff (P : Primitives) (engine : ExecutionEngine) (operation version : String)
    (input : Json) (context : ExecutionContext) (approval : Option (ApprovalGrant × Principal))
    (evidenceRequired : Bool) (entry : RegistryEntry) (chain : DelegationChain)
    (history : List engineInterface.Exchange) (rest : DirectProgram)
    (he : engine.registry.find operation version = some entry) (hc : context.delegationChain = some chain)
    (hr : (engine.executeInner P operation version input context approval evidenceRequired).run.Run history rest)
    (hp : PastGates rest) :
    ((∀ grant ∈ chain.grants, grant.scope.scopeAllowsOperation operation entry.domain = true) ↔
      ∀ grant ∈ unselected context chain, grant.scope.scopeAllowsOperation operation entry.domain = true) ∧
    (checkGovernedDelegation operation entry.domain context context.timestamp = .ok () ↔
      (∃ id, context.delegationId = some id ∧ chain.grants.getLast?.map Delegation.id = some id) ∧
      ∀ grant ∈ unselected context chain, grant.scope.scopeAllowsOperation operation entry.domain = true) := by
  have hadm := chainAdmission_of_run hr hp (fun _ _ => True) he hc (fun _ _ _ => trivial)
  have hscope : (∀ grant ∈ chain.grants, grant.scope.scopeAllowsOperation operation entry.domain = true) ↔
      ∀ grant ∈ unselected context chain, grant.scope.scopeAllowsOperation operation entry.domain = true := by
    apply forall_grants_iff
    intro index hi
    cases hid : context.delegationId with
    | none => simp [selectedIndex, hid] at hi
    | some id =>
      obtain ⟨_, grant, hi', hg, hs, _⟩ := hadm.named id hid
      obtain rfl := some.inj (hi.symm.trans hi')
      exact ⟨grant, hg, hs⟩
  refine ⟨hscope, ?_⟩
  rw [checkGovernedDelegation_eq_ok hc, hscope]
  simp [hadm.valid]

/-- One agent-executable operation with a plain handler and no benchmark. -/
def publishEntry : RegistryEntry where
  operation := "content.publish"
  domain := "content"
  version := "v1"
  action := "content:publish"
  governance := .agentExecutable
  benchmark := none
  status := .active

def publishEngine (storage : Bool) : ExecutionEngine where
  registry := ⟨[publishEntry], by decide⟩
  handlers operation := if operation = "content.publish" then some ⟨operation, fun _ => .none⟩ else none
  storage := storage
  keypair := ⟨principal 2, .agent, 0, 0⟩

/-- A grant over every action, bounded to one domain. -/
def domainGrant (issuer recipient : Nat) (domain : String) : Delegation :=
  { actionGrant issuer recipient ["*"] with scope := ⟨none, some [domain], none⟩ }

def chainContext (first second : Delegation) : ExecutionContext :=
  ⟨principal 2, some .agent, some second.id, some ⟨principal 0, [first, second]⟩, "/workspace", 5⟩

def publishRun (storage : Bool) (context : ExecutionContext) : DirectProgram :=
  ((publishEngine storage).executeInner unusedPrimitives "content.publish" "v1" .null context none false).run

theorem direct_scope_content :
    PastGates (publishRun false (chainContext (domainGrant 0 1 "content") (domainGrant 1 2 "content"))) ∧
    ∀ grant ∈ [domainGrant 0 1 "content", domainGrant 1 2 "content"],
      grant.scope.scopeAllowsOperation "content.publish" "content" = true := by
  have hp : PastGates (publishRun false
      (chainContext (domainGrant 0 1 "content") (domainGrant 1 2 "content"))) := .inl ⟨_, _, _, _, _, rfl⟩
  exact ⟨hp, (direct_scope_iff unusedPrimitives (publishEngine false) "content.publish" "v1" .null
    (chainContext (domainGrant 0 1 "content") (domainGrant 1 2 "content")) none false publishEntry
    ⟨principal 0, [domainGrant 0 1 "content", domainGrant 1 2 "content"]⟩ [] _ rfl rfl (.stop _) hp).1.mpr
    (by decide)⟩

/-- The first link is bounded to another domain: only the governed check refuses the context. -/
theorem direct_scope_skips_link :
    PastGates (publishRun false (chainContext (domainGrant 0 1 "billing") (domainGrant 1 2 "content"))) ∧
    (domainGrant 0 1 "billing").scope.scopeAllowsOperation "content.publish" "content" = false ∧
    checkGovernedDelegation "content.publish" "content"
      (chainContext (domainGrant 0 1 "billing") (domainGrant 1 2 "content")) 5 = .error .scopeViolation :=
  ⟨.inl ⟨_, _, _, _, _, rfl⟩, by decide, by decide⟩

/-- A stored copy of the grant, if there is one, is unrevoked and has the same terms. -/
def StoredAsSupplied (stored : Uuid → Option Delegation) (grant : Delegation) : Prop :=
  ∀ copy, stored grant.id = some copy → copy = grant ∧ copy.revoked = false

/-- The store speaks for one link. For an admitted call, every link of the chain agrees with its stored copy if and
only if the unselected links do. -/
theorem direct_revocation_iff (P : Primitives) (engine : ExecutionEngine) (operation version : String)
    (input : Json) (context : ExecutionContext) (approval : Option (ApprovalGrant × Principal))
    (evidenceRequired : Bool) (delegationId : Uuid) (chain : DelegationChain)
    (stored : Uuid → Option Delegation) (history : List engineInterface.Exchange) (rest : DirectProgram)
    (hstorage : engine.storage = true) (hid : context.delegationId = some delegationId)
    (hc : context.delegationChain = some chain)
    (hr : (engine.executeInner P operation version input context approval evidenceRequired).run.Run history rest)
    (hl : LoadsFrom stored history) (hp : PastGates rest) :
    (∀ grant ∈ chain.grants, StoredAsSupplied stored grant) ↔
      ∀ grant ∈ unselected context chain, StoredAsSupplied stored grant := by
  obtain ⟨entry, he⟩ := find_of_run hr hp
  have hadm := chainAdmission_of_run hr hp (fun id grant => stored id = some grant) he hc
    (fun id grant hx => (hl id _ hx).symm)
  obtain ⟨index, grant, hi, hg, _, hst⟩ := hadm.named delegationId hid
  apply forall_grants_iff
  intro index' hi'
  obtain rfl := some.inj (hi.symm.trans hi')
  have hlive := (validateChain_eq_ok.mp hadm.valid).live grant (List.mem_of_getElem? hg)
  refine ⟨grant, hg, ?_⟩
  intro copy hcopy
  rw [selected_id hid hi hg, hst hstorage] at hcopy
  obtain rfl := some.inj hcopy
  exact ⟨rfl, hlive.notRevoked⟩

/-- A store that holds the second grant as supplied and the first one as given. -/
def twoGrantStore (first : Delegation) (id : Uuid) : Option Delegation :=
  if id = first.id then some first
  else if id = (domainGrant 1 2 "content").id then some (domainGrant 1 2 "content")
  else none

/-- The single exchange of a stored run before its handler call. -/
def loadSecond : List engineInterface.Exchange :=
  [⟨.loadDelegation (domainGrant 1 2 "content").id, .ok (some (domainGrant 1 2 "content"))⟩]

private theorem loadSecond_from (first : Delegation) (hne : first.id ≠ (domainGrant 1 2 "content").id) :
    LoadsFrom (twoGrantStore first) loadSecond := by
  intro id found hx
  have he := List.mem_singleton.mp hx
  obtain ⟨hid, hfound⟩ := Sigma.mk.inj he
  obtain rfl := EngineRequest.loadDelegation.inj hid
  obtain rfl := Except.ok.inj (eq_of_heq hfound)
  rw [twoGrantStore, if_neg hne.symm, if_pos rfl]

theorem direct_revocation_stored :
    ∃ rest, (publishRun true (chainContext (domainGrant 0 1 "content") (domainGrant 1 2 "content"))).Run
        loadSecond rest ∧ PastGates rest ∧
      ∀ grant ∈ [domainGrant 0 1 "content", domainGrant 1 2 "content"],
        StoredAsSupplied (twoGrantStore (domainGrant 0 1 "content")) grant := by
  refine ⟨_, .step (.stop _), .inl ⟨_, _, _, _, _, rfl⟩, ?_⟩
  refine (direct_revocation_iff unusedPrimitives (publishEngine true) "content.publish" "v1" .null
    (chainContext (domainGrant 0 1 "content") (domainGrant 1 2 "content")) none false
    (domainGrant 1 2 "content").id ⟨principal 0, [domainGrant 0 1 "content", domainGrant 1 2 "content"]⟩
    (twoGrantStore (domainGrant 0 1 "content")) loadSecond _ rfl rfl rfl (.step (.stop _))
    (loadSecond_from _ (by decide)) (.inl ⟨_, _, _, _, _, rfl⟩)).mpr ?_
  intro grant hg copy hcopy
  have hfirst : grant = domainGrant 0 1 "content" := List.mem_singleton.mp hg
  subst hfirst
  rw [twoGrantStore, if_pos rfl] at hcopy
  obtain rfl := some.inj hcopy
  exact ⟨rfl, rfl⟩

/-- The first link is revoked in the store and supplied unrevoked, yet the handler is called. -/
theorem direct_revocation_skips_link :
    ∃ rest, (publishRun true (chainContext (domainGrant 0 1 "content") (domainGrant 1 2 "content"))).Run
        loadSecond rest ∧
      LoadsFrom (twoGrantStore { domainGrant 0 1 "content" with revoked := true }) loadSecond ∧
      PastGates rest ∧
      twoGrantStore { domainGrant 0 1 "content" with revoked := true } (domainGrant 0 1 "content").id =
        some { domainGrant 0 1 "content" with revoked := true } :=
  ⟨_, .step (.stop _), loadSecond_from _ (by decide), .inl ⟨_, _, _, _, _, rfl⟩, by decide⟩

end ProofPlatform.Executor
