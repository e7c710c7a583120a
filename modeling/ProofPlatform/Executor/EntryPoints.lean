import ProofPlatform.Executor.Authority

/-! The ways into the engine, and what each has checked by the time it calls a handler. -/
namespace ProofPlatform.Executor
open Kernel Operator Library.Interaction Library.Fallible Procedure Bool

namespace ExecutionEngine
variable (P : Primitives) (engine : ExecutionEngine) (operation version : String) (input : Json)
  (context : ExecutionContext)

/-- An outcome with its proof; an absent proof, which would be a panic, is `none`. -/
def evidenced (outcome : InternalExecutionOutcome) : Option ExecutionOutcome :=
  outcome.proof.map fun proof => ⟨outcome.output, proof⟩

def execute : Exec Json := do
  pure (← engine.executeInner P operation version input context none false).output

def executeEvidenced : Exec (Option ExecutionOutcome) := do
  pure (evidenced (← engine.executeInner P operation version input context none true))

def executeWithApproval (approval : ApprovalGrant) (trustedApprover : Principal) : Exec Json := do
  pure (← engine.executeInner P operation version input context (some (approval, trustedApprover)) false).output

def executeWithApprovalEvidenced (approval : ApprovalGrant) (trustedApprover : Principal) :
    Exec (Option ExecutionOutcome) := do
  pure (evidenced (← engine.executeInner P operation version input context (some (approval, trustedApprover)) true))

end ExecutionEngine

/-- An entry point of the engine, with what it is given besides the call itself. -/
inductive EntryPoint where
  | execute
  | executeEvidenced
  | executeWithApproval (approval : ApprovalGrant) (trustedApprover : Principal)
  | executeWithApprovalEvidenced (approval : ApprovalGrant) (trustedApprover : Principal)
  | executeEvidencedUnpersisted (plan : GovernedExecutionPlan)

/-- The approval and the trusted approver a caller supplies. -/
def EntryPoint.approval : EntryPoint → Option (ApprovalGrant × Principal)
  | .executeWithApproval approval trustedApprover => some (approval, trustedApprover)
  | .executeWithApprovalEvidenced approval trustedApprover => some (approval, trustedApprover)
  | _ => none

inductive EngineRequest.CallsHandler : EngineRequest → Prop
  | intro (operation version : String) (input : Json) (context : ExecutionContext) :
      CallsHandler (.executeVersioned operation version input context)

inductive GovernedRequest.CallsHandler : GovernedRequest → Prop
  | intro (operation version : String) (input : Json) (context : ExecutionContext) :
      CallsHandler (.executeGovernedVersioned operation version input context)

/-- Under some answers of store, clock and handlers the entry point calls a handler. -/
def EntryPoint.Invokes (P : Primitives) (H : GovernedHashes) (engine : GovernedEngine) (operation version : String)
    (input : Json) (context : ExecutionContext) : EntryPoint → Prop
  | .execute => (engine.execute P operation version input context).run.Issues EngineRequest.CallsHandler
  | .executeEvidenced =>
    (engine.executeEvidenced P operation version input context).run.Issues EngineRequest.CallsHandler
  | .executeWithApproval approval trustedApprover =>
    (engine.executeWithApproval P operation version input context approval trustedApprover).run.Issues
      EngineRequest.CallsHandler
  | .executeWithApprovalEvidenced approval trustedApprover =>
    (engine.executeWithApprovalEvidenced P operation version input context approval trustedApprover).run.Issues
      EngineRequest.CallsHandler
  | .executeEvidencedUnpersisted plan =>
    (engine.executeEvidencedUnpersisted P H operation version input context plan).run.Issues
      GovernedRequest.CallsHandler

section
variable {P : Primitives} {H : GovernedHashes} {engine : GovernedEngine} {operation version : String} {input : Json}
  {context : ExecutionContext} {entry : RegistryEntry}

/-- A handler is called directly, with the given approval, or governed, which takes none. -/
theorem EntryPoint.Invokes.path {point : EntryPoint} (hi : point.Invokes P H engine operation version input context) :
    (∃ evidenceRequired, (engine.executeInner P operation version input context point.approval
      evidenceRequired).run.Issues EngineRequest.CallsHandler) ∨
    ∃ plan, (engine.executeEvidencedUnpersisted P H operation version input context plan).run.Issues
      GovernedRequest.CallsHandler := by
  cases point with
  | execute => exact .inl ⟨false, issues_of_map hi⟩
  | executeEvidenced => exact .inl ⟨true, issues_of_map hi⟩
  | executeWithApproval approval trustedApprover => exact .inl ⟨false, issues_of_map hi⟩
  | executeWithApprovalEvidenced approval trustedApprover => exact .inl ⟨true, issues_of_map hi⟩
  | executeEvidencedUnpersisted plan => exact .inr ⟨plan, hi⟩

theorem environmentCall_obeys {α : Type} {M : Monitor governedInterface} {phase : M.Phase}
    {err : String → ExecutionError} {call : GovernedExec (Except OperatorEnvironmentError α)}
    {post : M.Phase → α → Prop}
    (h : Procedure.Obeys M (fun mid answer => ∀ value, answer = .ok value → post mid value) (fun _ _ => True)
      phase call) :
    Procedure.Obeys M post (fun _ _ => True) phase (GovernedEngine.environmentCall err call) := by
  refine h.bind fun mid answer ha => ?_
  exact obeys_ofExcept.mpr ⟨fun value hv => ha value (mapError_eq_ok.mp hv), fun _ _ => trivial⟩

section
variable (he : engine.registry.find operation version = some entry)
include he

theorem checkGovernance_of_issues {approval : Option (ApprovalGrant × Principal)} {evidenceRequired : Bool}
    (hi : (engine.executeInner P operation version input context approval evidenceRequired).run.Issues
      EngineRequest.CallsHandler) :
    engine.checkGovernance P entry operation version input context approval = .ok () := by
  refine admitted_of_issues hi ?_
  unfold ExecutionEngine.executeInner
  rw [he]
  refine obeys_bind.mpr (obeys_ofExcept.mpr ⟨fun found hf => ?_, fun _ _ => trivial⟩)
  obtain rfl := Except.ok.inj hf
  refine obeys_bind.mpr (obeys_ofExcept.mpr ⟨fun _ hg => ?_, fun _ _ => trivial⟩)
  exact obeys_gate_of hg (fun _ => trivial) _

theorem checkGovernedAuthority_of_issues {plan : GovernedExecutionPlan}
    (hi : (engine.executeEvidencedUnpersisted P H operation version input context plan).run.Issues
      GovernedRequest.CallsHandler) :
    ∃ trustedNow, engine.checkGovernedAuthority entry operation context plan.runBefore.actor trustedNow = .ok () := by
  refine admitted_of_issues hi (obeys_bind.mpr ?_)
  unfold GovernedEngine.prepareGovernedCall
  rw [he]
  refine obeys_bind.mpr (obeys_ofExcept.mpr ⟨fun found hf => ?_, fun _ _ => trivial⟩)
  obtain rfl := Except.ok.inj hf
  refine obeys_bind.mpr (obeys_ofExcept.mpr ⟨fun _ _ => ?_, fun _ _ => trivial⟩)
  refine obeys_bind.mpr (obeys_ofExcept.mpr ⟨fun catalog _ => ?_, fun _ _ => trivial⟩)
  refine obeys_bind.mpr (environmentCall_obeys (obeys_call.mpr ⟨nofun, ?_⟩))
  intro _ _ trustedNow _
  refine obeys_bind.mpr (obeys_ofExcept.mpr ⟨fun _ hg => ?_, fun _ _ => trivial⟩)
  -- Past the authority check the gate is open for the rest of the path.
  have hopen : ∃ now, engine.checkGovernedAuthority entry operation context plan.runBefore.actor now = .ok () :=
    ⟨trustedNow, hg⟩
  apply obeys_gate_of hopen
  intro call
  exact obeys_gate_of hopen (fun _ => trivial) _

/-- Whatever the entry point, a handler is called only with a valid chain. -/
theorem validChain_of_invokes {point : EntryPoint} {chain : DelegationChain} (hc : context.delegationChain = some chain)
    (hi : point.Invokes P H engine operation version input context) :
    ∃ now, ValidChain chain.root context.actor now chain.grants := by
  obtain ⟨evidenceRequired, history, request, next, ⟨_, _, _, _⟩, hr⟩ | ⟨plan, hi⟩ := hi.path
  · have hadm := chainAdmission_of_run hr (.inl ⟨_, _, _, _, _, rfl⟩) (fun _ _ => True) he hc (fun _ _ _ => trivial)
    exact ⟨context.timestamp, validateChain_eq_ok.mp hadm.valid⟩
  · obtain ⟨trustedNow, hg⟩ := checkGovernedAuthority_of_issues he hi
    simp only [GovernedEngine.checkGovernedAuthority, seq_eq_ok] at hg
    exact ⟨trustedNow, validateChain_eq_ok.mp ((checkGovernedDelegation_eq_ok hc).mp hg.2.2.2).1⟩

end

end

/-- Neither path reads the registry's action. When a handler is called with a chain, every grant accepts the entry's
action if and only if the last one does and so does each grant with an action pattern ending in two stars. -/
theorem invoked_action_iff (P : Primitives) (H : GovernedHashes) (engine : GovernedEngine)
    (operation version : String) (input : Json) (context : ExecutionContext) (point : EntryPoint)
    (entry : RegistryEntry) (chain : DelegationChain)
    (he : engine.registry.find operation version = some entry) (hc : context.delegationChain = some chain)
    (hi : point.Invokes P H engine operation version input context) :
    (∀ grant ∈ chain.grants, grant.allowsAction entry.action = true) ↔
      (∀ last ∈ chain.grants.getLast?, last.allowsAction entry.action = true) ∧
      ∀ grant ∈ chain.grants, HasDoubleStar grant.allowedActions → grant.allowsAction entry.action = true := by
  obtain ⟨now, hv⟩ := validChain_of_invokes he hc hi
  have hlast : chain.grants.getLast? = some (chain.grants.getLast hv.nonempty) := List.getLast?_eq_some_getLast _
  constructor
  · intro h
    exact ⟨fun last hl => h last (List.mem_of_mem_getLast? hl), fun grant hg _ => h grant hg⟩
  · rintro ⟨hl, hd⟩ grant hg
    by_cases hs : HasDoubleStar grant.allowedActions
    · exact hd grant hg hs
    · have hreach := chain_reaches_last Delegation.allowedActions (fun _ _ h => h.actions) hv.links hv.nonempty hg
      exact allowsValue_subset_iff.mpr (hreach.within hs) _ (hl _ (by rw [hlast]; rfl))

def zeroHashes : GovernedHashes := ⟨.zero, fun _ => ⟨0⟩⟩

/-- A signer whose public key is its secret and whose signature is the key. -/
def keyPrimitives : Primitives where
  canonicalize _ := .ok ⟨"null"⟩
  digest _ _ := ⟨0⟩
  requestDigest request := ⟨request.body.id.setWidth 256⟩
  decisionDigest decision := ⟨decision.body.id.setWidth 256⟩
  publicKey := id
  sign key _ := key.setWidth 512
  verify key _ signature := signature == key.setWidth 512
  parseUuid _ := none

def approveEntry : RegistryEntry :=
  { publishEntry with operation := "content.approve", action := "content:approve", governance := .humanOnly }

def publishAdapter : RegisteredGovernedAdapter := ⟨0, "content.publish", "v1", .tool, "publisher", none⟩

/-- An engine for one agent-executable and one human-only operation, the first also governed. -/
def governedPublisher : GovernedEngine where
  registry := ⟨[publishEntry, approveEntry], by decide⟩
  handlers operation := some ⟨operation, fun _ => .none⟩
  storage := false
  keypair := ⟨principal 2, .agent, 0, 7⟩
  governedHandlers operation version :=
    if operation = "content.publish" ∧ version = "v1" then
      some (publishAdapter, ⟨operation, fun _ => .none, fun _ => .noDurableOrExternalEffect⟩)
    else none
  operatorEnvironment := true
  operatorCatalog := some ⟨fun _ _ _ => true, fun _ _ _ => true⟩

def publishIntent : DispatchIntent :=
  ⟨DispatchIntent.schemaName, .tool, "publisher", none, "content.publish", "v1", ⟨0⟩, ⟨1, 0, 1000, 0, 1⟩⟩

def publishPermit : DispatchPermit :=
  ⟨DispatchPermit.schemaName, Uuid.v7 20, Uuid.v7 10, Uuid.v7 21, Uuid.v7 22, Uuid.v7 23, 1, 1, ⟨0⟩, none, ⟨0⟩, ⟨0⟩,
    4, 100⟩

def publishPlan : GovernedExecutionPlan where
  authorization := ⟨Uuid.v7 1, publishPermit, publishIntent, none, none, 1000⟩
  intent := publishIntent
  runBefore :=
    { id := Uuid.v7 10, actor := principal 2, agentId := none, mode := .oneShot, goal := "publish"
      status := .running, retryCount := 0, revision := 1, createdAt := 0, updatedAt := 1, completedAt := none }
  stepBefore :=
    { id := Uuid.v7 11, runId := Uuid.v7 10, ordinal := 0, attempt := 0, retryOf := none
      operation := "content.publish", version := "v1", inputDigest := ⟨0⟩, status := .running
      approvalRequestId := none, output := none, proof := none, error := none, revision := 1
      createdAt := 0, updatedAt := 1, startedAt := some 1, completedAt := none }
  checkpointTail := some ⟨Uuid.v7 12, 0, ⟨0⟩⟩
  replayClaim := none

/-- The answers of clock, identifier source and permit registry up to the handler call. -/
def publishExchanges : List governedInterface.Exchange :=
  [⟨.trustedUtcNow, .ok 5⟩, ⟨.newUuidV7, .ok (Uuid.v7 30)⟩, ⟨.newUuidV7, .ok (Uuid.v7 31)⟩, ⟨.trustedUtcNow, .ok 5⟩,
    ⟨.monotonicMillis, .ok 0⟩, ⟨.consumePermit (Uuid.v7 20) ⟨0⟩, .admitted⟩, ⟨.leaseLiveness, true⟩,
    ⟨.claimEffect, true⟩]

/-- Both paths call the handler of `content:publish` for a chain whose grants accept
actions on billing only. -/
theorem action_never_compared :
    let grants := [actionGrant 0 1 ["billing:*"], actionGrant 1 2 ["billing:read"]]
    let context := chainContext (actionGrant 0 1 ["billing:*"]) (actionGrant 1 2 ["billing:read"])
    EntryPoint.execute.Invokes keyPrimitives zeroHashes governedPublisher "content.publish" "v1" .null context ∧
    (EntryPoint.executeEvidencedUnpersisted publishPlan).Invokes keyPrimitives zeroHashes governedPublisher
      "content.publish" "v1" .null context ∧
    governedPublisher.registry.find "content.publish" "v1" = some publishEntry ∧
    context.delegationChain = some ⟨principal 0, grants⟩ ∧
    ∀ grant ∈ grants, grant.allowsAction publishEntry.action = false := by
  refine ⟨⟨[], _, _, .intro _ _ _ _, .stop _⟩, ?_, rfl, rfl, by decide⟩
  exact ⟨publishExchanges, _, _, .intro _ _ _ _,
    .step (.step (.step (.step (.step (.step (.step (.step (.stop _))))))))⟩

theorem invoked_action_content :
    let grants := [actionGrant 0 1 ["content:*"], actionGrant 1 2 ["content:publish"]]
    let context := chainContext (actionGrant 0 1 ["content:*"]) (actionGrant 1 2 ["content:publish"])
    EntryPoint.execute.Invokes keyPrimitives zeroHashes governedPublisher "content.publish" "v1" .null context ∧
    ∀ grant ∈ grants, grant.allowsAction publishEntry.action = true := by
  have hi : EntryPoint.execute.Invokes keyPrimitives zeroHashes governedPublisher "content.publish" "v1" .null
      (chainContext (actionGrant 0 1 ["content:*"]) (actionGrant 1 2 ["content:publish"])) :=
    ⟨[], _, _, .intro _ _ _ _, .stop _⟩
  refine ⟨hi, (invoked_action_iff keyPrimitives zeroHashes governedPublisher "content.publish" "v1" .null _ .execute
    publishEntry ⟨principal 0, _⟩ rfl rfl hi).mpr ⟨?_, ?_⟩⟩
  · decide
  · decide

/-- What an approval must show for an agent's call of a human-only operation: a request signed by the engine, an
approving decision on it signed by the trusted human, the exact call, and the time order. -/
structure ApprovedCall (P : Primitives) (keypair : Keypair) (trustedApprover : Principal) (operation version : String)
    (input : Json) (context : ExecutionContext) (grant : ApprovalGrant) : Prop where
  requestSigned : (signatureOfBytes grant.request.signature).any
    (P.verify (P.publicKey keypair.signingKey) (.approvalRequest grant.request.body)) = true
  approved : grant.decision.body.outcome = .approved
  human : trustedApprover.kind = .human
  decidedBy : grant.decision.body.decidedBy = trustedApprover.id
  decisionSigned : (signatureOfBytes grant.decision.signature).any
    (P.verify trustedApprover.publicKey (.approvalDecision grant.decision.body)) = true
  requestDigest : grant.decision.body.requestDigest = P.requestDigest grant.request
  actor : grant.request.body.requestedBy = context.actor
  engineActor : keypair.principalId = context.actor
  operation : grant.request.body.operation = operation
  version : grant.request.body.version = version
  input : ∃ canonical, P.canonicalize input = .ok canonical ∧
    grant.request.body.inputDigest = P.digest .operationInput canonical
  requested : grant.request.body.requestedAt ≤ context.timestamp
  decided : grant.decision.body.decidedAt ≤ context.timestamp
  unexpired : context.timestamp ≤ grant.request.body.expiresAt

/-- Verification establishes everything but the order of decision and execution. -/
theorem approvedCall_iff {P : Primitives} {keypair : Keypair} {trustedApprover : Principal}
    {operation version : String} {input : Json} {context : ExecutionContext} {grant : ApprovalGrant}
    (hv : grant.verifyForExecution P keypair trustedApprover operation version input context.actor
      context.timestamp = .ok ()) :
    ApprovedCall P keypair trustedApprover operation version input context grant ↔
      grant.decision.body.decidedAt ≤ context.timestamp := by
  refine ⟨fun h => h.decided, fun hd => ?_⟩
  simp only [ApprovalGrant.verifyForExecution, ApprovalGrant.verifyDecision, SignedApprovalRequest.verify,
    SignedApprovalRequest.verifyForCall, SignedApprovalDecision.verify, verifyBytes, bind_eq_ok, exists_const,
    reject_eq_ok, mapError_eq_ok, samePrincipal, principalFromKeypair, not_eq_false', and_eq_true,
    or_eq_false_iff, bne_eq_false_iff_eq, beq_iff_eq, decide_eq_false_iff_not, Int.not_lt] at hv
  obtain ⟨⟨⟨⟨hid, hkind⟩, hkey⟩, -, ⟨hhuman, hby, hdsig⟩, ⟨-, hdigest⟩, hrd, -⟩, happroved, ⟨-, -, hrsig⟩, hexp,
    ⟨hengine, hactor⟩, hop, hver, canonical, hcan, hin⟩ := hv
  exact
    { requestSigned := hrsig
      approved := happroved
      human := hkind ▸ hhuman
      decidedBy := hby.symm.trans hid
      decisionSigned := hkey ▸ hdsig
      requestDigest := hdigest
      actor := hactor.symm
      engineActor := hengine.symm
      operation := hop.symm
      version := hver.symm
      input := ⟨canonical, hcan, hin.symm⟩
      requested := hrd.trans hd
      decided := hd
      unexpired := hexp }

/-- The gate of human-only operations compares the execution time only with the end of the request's window. When a
handler of one is called for another principal, a supplied approval authorizes the call, in time order too, if and
only if its decision was not made later. -/
theorem human_only_gate_iff (P : Primitives) (H : GovernedHashes) (engine : GovernedEngine)
    (operation version : String) (input : Json) (context : ExecutionContext) (point : EntryPoint)
    (entry : RegistryEntry) (he : engine.registry.find operation version = some entry)
    (hg : entry.governance = .humanOnly) (hk : context.principalKind ≠ some .human)
    (hi : point.Invokes P H engine operation version input context) :
    (∃ grant trustedApprover, point.approval = some (grant, trustedApprover) ∧
      ApprovedCall P engine.keypair trustedApprover operation version input context grant) ↔
    ∀ grant trustedApprover, point.approval = some (grant, trustedApprover) →
      grant.decision.body.decidedAt ≤ context.timestamp := by
  obtain ⟨evidenceRequired, hi⟩ | ⟨plan, hi⟩ := hi.path
  · have hgov := checkGovernance_of_issues he hi
    simp only [ExecutionEngine.checkGovernance, hg, beq_self_eq_true, Bool.true_and, bne_iff_ne, ne_eq, hk,
      not_false_eq_true, if_true, bind_eq_ok, orReject_eq_ok, mapError_eq_ok] at hgov
    obtain ⟨⟨grant, trustedApprover⟩, hsupplied, hv⟩ := hgov
    simp only [hsupplied, Option.some.injEq, Prod.mk.injEq]
    constructor
    · rintro ⟨_, _, ⟨rfl, rfl⟩, hcall⟩ _ _ ⟨rfl, rfl⟩
      exact (approvedCall_iff hv).mp hcall
    · intro hd
      exact ⟨grant, trustedApprover, ⟨rfl, rfl⟩, (approvedCall_iff hv).mpr (hd _ _ ⟨rfl, rfl⟩)⟩
  · -- The governed path takes no approval and refuses the call.
    obtain ⟨trustedNow, hauth⟩ := checkGovernedAuthority_of_issues he hi
    simp [GovernedEngine.checkGovernedAuthority, seq_eq_ok, hg, hk] at hauth

/-- A human who decides, under the key 9. -/
def approver : Principal := ⟨principal 9, .human, 9, 0⟩

/-- An approval of `content.approve` requested at 2 and decided at 4, open until 10. -/
def contentApproval : ApprovalGrant where
  request :=
    { body := ⟨Uuid.v7 40, "content.approve", "v1", ⟨0⟩, principal 2, 2, 10⟩
      signature := List.replicate 63 0 ++ [7] }
  decision :=
    { body := ⟨Uuid.v7 41, Uuid.v7 40, ⟨(Uuid.v7 40).setWidth 256⟩, .approved, principal 9, 4, none⟩
      signature := List.replicate 63 0 ++ [9] }
  approver := approver

def agentContext (timestamp : Instant) : ExecutionContext :=
  ⟨principal 2, some .agent, none, none, "/workspace", timestamp⟩

theorem human_only_gate_approved :
    (EntryPoint.executeWithApproval contentApproval approver).Invokes keyPrimitives zeroHashes governedPublisher
      "content.approve" "v1" .null (agentContext 5) ∧
    ApprovedCall keyPrimitives governedPublisher.keypair approver "content.approve" "v1" .null (agentContext 5)
      contentApproval := by
  have hi : (EntryPoint.executeWithApproval contentApproval approver).Invokes keyPrimitives zeroHashes
      governedPublisher "content.approve" "v1" .null (agentContext 5) :=
    Program.issues_of_pending (by decide +kernel) (.intro "content.approve" "v1" .null (agentContext 5))
  refine ⟨hi, ?_⟩
  obtain ⟨_, _, hsupplied, hcall⟩ := (human_only_gate_iff keyPrimitives zeroHashes governedPublisher "content.approve"
    "v1" .null (agentContext 5) _ _ rfl rfl (by decide) hi).mpr (by rintro _ _ ⟨⟩; decide)
  cases hsupplied
  exact hcall

/-- The handler is called at time 1 on an approval that was requested at 2 and decided
at 4. -/
theorem human_only_gate_early :
    (EntryPoint.executeWithApproval contentApproval approver).Invokes keyPrimitives zeroHashes governedPublisher
      "content.approve" "v1" .null (agentContext 1) ∧
    (governedPublisher.registry.find "content.approve" "v1").map RegistryEntry.governance = some .humanOnly ∧
    (agentContext 1).principalKind = some .agent ∧
    (agentContext 1).timestamp < contentApproval.request.body.requestedAt ∧
    (agentContext 1).timestamp < contentApproval.decision.body.decidedAt :=
  ⟨Program.issues_of_pending (by decide +kernel) (.intro "content.approve" "v1" .null (agentContext 1)), rfl, rfl,
    by decide, by decide⟩

end ProofPlatform.Executor
