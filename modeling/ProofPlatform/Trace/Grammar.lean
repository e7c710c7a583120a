import ProofPlatform.Executor.EntryPoints
import ProofPlatform.Kernel.CanonicalReading
import ProofPlatform.Trace.Lifecycle

/-! The traces on which the lifecycle check is silent: one conversation, bound to the steps. -/
namespace ProofPlatform.Trace
open Kernel List
open Library.Findings StepWalk

variable (P : Primitives)

/-- The calls of a run in order: by ordinal, and by attempt within one ordinal. -/
def CallOrder (a b : AgentRunStep) : Prop := a.ordinal < b.ordinal ∨ a.ordinal = b.ordinal ∧ a.attempt ≤ b.attempt

theorem CallOrder.trans {a b c : AgentRunStep} (hab : CallOrder a b) (hbc : CallOrder b c) : CallOrder a c := by
  unfold CallOrder at *
  omega

instance : Trans CallOrder CallOrder CallOrder := ⟨CallOrder.trans⟩

/-- A tool request that carries out the model's decision with the input the step records. -/
structure RequestsTool (step : AgentRunStep) (decision : Json) (callId : String) (event : AgentRunEvent) : Prop where
  kind : event.kind = .toolRequested
  stepId : dataUuid P event.data "step_id" = some step.id
  operation : dataStr event.data "operation" = some step.operation
  version : dataStr event.data "version" = some step.version
  called : dataStr event.data "call_id" = some callId
  decided : dataStr decision "call_id" = some callId
  nonblank : isBlank callId = false
  input : ∃ arguments decided canonical, event.data.get "arguments" = some arguments ∧
    decision.get "arguments" = some decided ∧ P.canonicalize arguments = .ok canonical ∧
    P.canonicalize decided = .ok canonical ∧ step.inputDigest = P.digest .operationInput canonical

/-- The approval pause of a step, in the order of its evidence. -/
structure PausesForApproval (approvals : List ApprovalEvidence) (step : AgentRunStep) (requestId : Uuid)
    (requested required resumed : AgentRunEvent) : Prop where
  requiredKind : required.kind = .approvalRequired
  resumedKind : resumed.kind = .approvalResumed
  requiredIds : dataUuid P required.data "step_id" = some step.id ∧
    dataUuid P required.data "request_id" = some requestId
  resumedIds : dataUuid P resumed.data "step_id" = some step.id ∧
    dataUuid P resumed.data "request_id" = some requestId
  chronology : ∃ evidence, approvalByRequest approvals requestId = some evidence ∧
    requested.createdAt ≤ evidence.request.body.requestedAt ∧
    evidence.request.body.requestedAt ≤ required.createdAt ∧
    required.createdAt ≤ evidence.decision.body.decidedAt ∧
    evidence.decision.body.decidedAt ≤ resumed.createdAt ∧
    resumed.createdAt ≤ evidence.execution.executedAt ∧
    resumed.createdAt ≤ evidence.request.body.expiresAt

structure SucceedsTool (step : AgentRunStep) (callId : String) (event : AgentRunEvent) : Prop where
  kind : event.kind = .toolSucceeded
  stepId : dataUuid P event.data "step_id" = some step.id
  called : dataStr event.data "call_id" = some callId
  operation : dataStr event.data "operation" = some step.operation
  version : dataStr event.data "version" = some step.version
  proof : dataUuid P event.data "proof_id" = step.proof.map fun proof => proof.body.id

/-- The events of one call: the approval pause is there exactly when the step has a request. -/
inductive ToolCall (approvals : List ApprovalEvidence) (step : AgentRunStep) (decision : Json) :
    List AgentRunEvent → Prop where
  | direct {callId requested succeeded} (request : RequestsTool P step decision callId requested)
      (unrequested : step.approvalRequestId = none) (success : SucceedsTool P step callId succeeded) :
      ToolCall approvals step decision [requested, succeeded]
  | approved {callId requestId requested required resumed succeeded}
      (request : RequestsTool P step decision callId requested)
      (waits : step.approvalRequestId = some requestId)
      (pause : PausesForApproval P approvals step requestId requested required resumed)
      (success : SucceedsTool P step callId succeeded) :
      ToolCall approvals step decision [requested, required, resumed, succeeded]

/-- A request to the agent's model with its place in the conversation, and the answer to it. -/
structure ModelExchange (agent : AgentDefinition) (modelCall : Nat) (previous : Option String) (answer : String)
    (requested responded : AgentRunEvent) : Prop where
  requestedKind : requested.kind = .modelRequested
  respondedKind : responded.kind = .modelResponded
  model : dataStr requested.data "model" = some agent.model
  call : (requested.data.get "model_call").bind jsonAsU64 = some modelCall
  continues : dataStr requested.data "previous_response_id" = previous
  answered : dataStr responded.data "response_id" = some answer
  nonblank : isBlank answer = false

/-- Tool turns, one for each step in turn, and then the turn in which the model finishes. -/
inductive Conversation (agent : AgentDefinition) (approvals : List ApprovalEvidence) (output : String) :
    (modelCall : Nat) → (previous : Option String) → List AgentRunStep → List AgentRunEvent → Prop where
  | finish {modelCall previous answer requested responded}
      (exchange : ModelExchange agent modelCall previous answer requested responded)
      (decision : dataStr (decisionOf responded) "type" = some "finish")
      (reported : dataStr (decisionOf responded) "output" = some output) :
      Conversation agent approvals output modelCall previous [] [requested, responded]
  | turn {modelCall previous answer requested responded step steps call events}
      (exchange : ModelExchange agent modelCall previous answer requested responded)
      (decision : dataStr (decisionOf responded) "type" = some "tool_call")
      (carried : ToolCall P approvals step (decisionOf responded) call)
      (rest : Conversation agent approvals output (modelCall + 1) (some answer) steps events) :
      Conversation agent approvals output modelCall previous (step :: steps)
        (requested :: responded :: (call ++ events))

/-- A trace of the prescribed shape. -/
structure Prescribed (agent : AgentDefinition) (approvals : List ApprovalEvidence) (steps : List AgentRunStep)
    (events : List AgentRunEvent) : Prop where
  shape : ∃ started body completed output, events = started :: (body ++ [completed]) ∧
    started.kind = .started ∧ completed.kind = .completed ∧ dataStr completed.data "output" = some output ∧
    Conversation P agent approvals output 1 none steps body
  sequences : ∀ (i : Nat) (event : AgentRunEvent), events[i]? = some event → event.sequence = i
  times : events.Pairwise fun earlier later => earlier.createdAt ≤ later.createdAt
  digests : ∀ event ∈ events, ∃ canonical, P.canonicalize event.data = .ok canonical ∧
    event.dataDigest = P.digest .agentEvent canonical
  steps : steps.Pairwise CallOrder

section Topology
variable {run : AgentRun} {walk : StepWalk} {step previous : AgentRunStep}

theorem saturatingSucc_le (n : Nat) : saturatingSucc n ≤ u32Max := Nat.min_le_right _ _

/-- The walk stands right after a step whose numbers it accepted. -/
structure StepWalk.Accepted (walk : StepWalk) (step : AgentRunStep) : Prop where
  ordinal : walk.currentOrdinal = some step.ordinal
  nextOrdinal : walk.expectedOrdinal = saturatingSucc step.ordinal
  nextAttempt : walk.expectedAttempt = saturatingSucc step.attempt
  ordinal_le : step.ordinal ≤ u32Max
  attempt_le : step.attempt ≤ u32Max

/-- Where the walk can stand: before every step, or right after one it accepted. -/
def StepWalk.Placed (walk : StepWalk) (last : Option AgentRunStep) : Prop :=
  match last with
  | none => walk.currentOrdinal = none ∧ walk.expectedOrdinal ≤ u32Max
  | some step => walk.Accepted step

theorem stepIssues_numbers (h : stepIssues run walk step = []) :
    (walk.currentOrdinal = some step.ordinal ∨ step.ordinal = walk.expectedOrdinal) ∧
      step.attempt = (walk.enter step).expectedAttempt ∧ step.id ∉ walk.seenIds := by
  simp only [stepIssues, append_eq_nil_iff, flag_eq_nil] at h
  obtain ⟨⟨⟨⟨hseen, hordinal⟩, hattempt⟩, -⟩, -⟩ := h
  refine ⟨?_, by simpa using hattempt, by simpa using hseen⟩
  simp only [Bool.and_eq_false_iff, bne_eq_false_iff_eq] at hordinal
  exact hordinal

theorem StepWalk.Placed.advance {last : Option AgentRunStep} (hplaced : walk.Placed last)
    (h : stepIssues run walk step = []) :
    (walk.advance step).Accepted step ∧ ∀ previous ∈ last, CallOrder previous step := by
  obtain ⟨hordinal, hattempt, -⟩ := stepIssues_numbers h
  by_cases hsame : walk.currentOrdinal = some step.ordinal
  · -- another attempt of the call the walk is at
    have henter : walk.enter step = walk := by simp [enter, hsame]
    cases last with
    | none => exact absurd (hplaced.1.symm.trans hsame) (by simp)
    | some previous =>
      have hat : previous.ordinal = step.ordinal := Option.some.inj (hplaced.ordinal.symm.trans hsame)
      rw [henter, hplaced.nextAttempt] at hattempt
      have hle := hattempt ▸ saturatingSucc_le previous.attempt
      refine ⟨⟨?_, ?_, ?_, hat ▸ hplaced.ordinal_le, hle⟩, ?_⟩
      · simp [StepWalk.advance, henter, hsame]
      · simp [StepWalk.advance, henter, hplaced.nextOrdinal, hat]
      · simp [StepWalk.advance, henter, hplaced.nextAttempt, hattempt]
      · rintro _ ⟨⟩
        refine .inr ⟨hat, ?_⟩
        have hbound := hplaced.attempt_le
        rw [hattempt, saturatingSucc]
        omega
  · -- the first attempt of the next call
    have hexpected := hordinal.resolve_left hsame
    have henter : walk.enter step = { walk with
        currentOrdinal := some step.ordinal
        expectedOrdinal := saturatingSucc walk.expectedOrdinal
        expectedAttempt := 1
        previousAttempt := none } := by simp [enter, hsame]
    rw [henter] at hattempt
    have hle : step.ordinal ≤ u32Max := by
      cases last with
      | none => exact hexpected ▸ hplaced.2
      | some previous => exact hexpected ▸ hplaced.nextOrdinal ▸ saturatingSucc_le _
    refine ⟨⟨?_, ?_, ?_, hle, ?_⟩, ?_⟩
    · simp [StepWalk.advance, henter]
    · simp [StepWalk.advance, henter, hexpected]
    · simp [StepWalk.advance, henter, hattempt]
    · simp [hattempt, u32Max]
    · intro previous hprevious
      obtain rfl : last = some previous := hprevious
      have hne : previous.ordinal ≠ step.ordinal := fun he => hsame (hplaced.ordinal.trans (congrArg some he))
      have hbound := hplaced.ordinal_le
      rw [hplaced.nextOrdinal, saturatingSucc] at hexpected
      exact .inl (by omega)

variable {steps : List AgentRunStep}

theorem walkSteps_ordered : ∀ {walk : StepWalk} {last : Option AgentRunStep},
    walk.Placed last → walkSteps run walk steps = [] → List.IsChain CallOrder (last.toList ++ steps) := by
  induction steps with
  | nil => intro walk last _ _; cases last <;> simp
  | cons step steps ih =>
    intro walk last hplaced h
    obtain ⟨hstep, hrest⟩ := append_eq_nil_iff.mp h
    obtain ⟨haccepted, horder⟩ := hplaced.advance hstep
    have htail := ih (show Placed _ (some step) from haccepted) hrest
    cases last with
    | none => exact htail
    | some previous => exact isChain_cons_cons.mpr ⟨horder previous rfl, htail⟩

theorem walkSteps_nodup : ∀ {walk : StepWalk}, walkSteps run walk steps = [] →
    (steps.map AgentRunStep.id).Nodup ∧ ∀ step ∈ steps, step.id ∉ walk.seenIds := by
  induction steps with
  | nil => intro walk _; simp
  | cons step steps ih =>
    intro walk h
    obtain ⟨hstep, hrest⟩ := append_eq_nil_iff.mp h
    obtain ⟨hnodup, hfresh⟩ := ih hrest
    simp only [advance, mem_cons, not_or] at hfresh
    refine ⟨?_, ?_⟩
    · rw [map_cons, nodup_cons]
      refine ⟨?_, hnodup⟩
      rw [mem_map]
      rintro ⟨other, hother, heq⟩
      exact (hfresh other hother).1 heq
    · intro other hother
      rcases mem_cons.mp hother with rfl | hother
      · exact (stepIssues_numbers hstep).2.2
      · exact (hfresh other hother).2

theorem stepTopologyIssues_ordered (h : stepTopologyIssues run steps = []) : steps.Pairwise CallOrder := by
  obtain ⟨-, hwalk⟩ := append_eq_nil_iff.mp h
  have hchain := walkSteps_ordered (show Placed _ none from ⟨rfl, Nat.zero_le _⟩) hwalk
  exact isChain_iff_pairwise.mp hchain

theorem stepTopologyIssues_nodup (h : stepTopologyIssues run steps = []) : (steps.map AgentRunStep.id).Nodup :=
  (walkSteps_nodup (append_eq_nil_iff.mp h).2).1

end Topology

variable {events : List AgentRunEvent}

section Events
variable {P} {T : TextFormats} {run : AgentRun}

theorem canonicalDigest_eq_some {kind : ArtifactKind} {value : Json} {digest : ContentDigest} :
    canonicalDigest P kind value = some digest ↔
      ∃ canonical, P.canonicalize value = .ok canonical ∧ P.digest kind canonical = digest := by
  cases hcanonical : P.canonicalize value <;> simp [canonicalDigest, hcanonical, Except.toOption]

variable {index : Nat} {previous : Option AgentRunEvent} (h : eventIssues P T run index previous events = [])
include h

theorem eventIssues_sequences (i : Nat) (event : AgentRunEvent) (hevent : events[i]? = some event) :
    event.sequence = index + i := by
  induction events generalizing index previous i with
  | nil => simp at hevent
  | cons first events ih =>
    simp only [eventIssues, append_eq_nil_iff, flag_eq_nil, bne_eq_false_iff_eq] at h
    obtain ⟨⟨⟨-, hsequence⟩, -⟩, hrest⟩ := h
    cases i with
    | zero =>
      obtain rfl : first = event := by simpa using hevent
      exact hsequence
    | succ i =>
      rw [ih hrest i (by simpa using hevent)]
      omega

theorem eventIssues_chain :
    List.IsChain (fun a b : AgentRunEvent => a.createdAt ≤ b.createdAt) (previous.toList ++ events) := by
  induction events generalizing index previous with
  | nil => cases previous <;> simp
  | cons event events ih =>
    simp only [eventIssues, append_eq_nil_iff, flag_eq_nil] at h
    obtain ⟨⟨⟨⟨hmonotonic, -⟩, -⟩, -⟩, hrest⟩ := h
    cases previous with
    | none => exact ih hrest
    | some previous =>
      refine isChain_cons_cons.mpr ⟨?_, ih hrest⟩
      simpa using hmonotonic

theorem eventIssues_digests : ∀ event ∈ events, ∃ canonical,
    P.canonicalize event.data = .ok canonical ∧ event.dataDigest = P.digest .agentEvent canonical := by
  intro event hevent
  induction events generalizing index previous with
  | nil => cases hevent
  | cons first events ih =>
    simp only [eventIssues, append_eq_nil_iff, flag_eq_nil, bne_eq_false_iff_eq, canonicalDigest_eq_some] at h
    obtain ⟨⟨-, canonical, hcanonical, hdigest⟩, hrest⟩ := h
    rcases mem_cons.mp hevent with rfl | hevent
    · exact ⟨canonical, hcanonical, hdigest.symm⟩
    · exact ih hrest hevent

end Events

section Turns
variable {P} {T : TextFormats} {agent : AgentDefinition} {observedSteps : List AgentRunStep}
  {events : List AgentRunEvent} {approvals : List ApprovalEvidence} {requiredApprovalStepIds : List Uuid}

/-- A part of the walk found nothing wrong and goes on. -/
def Walked.Silent {α : Type} (walked : Walked α) (next : α) : Prop := walked.issues = [] ∧ walked.next = some next

variable {step : AgentRunStep} {event : AgentRunEvent} {issues : List Issue}

section Silent
variable {α β : Type}

@[simp] theorem silent_goOn {a b : α} : (Walked.goOn a).Silent b ↔ a = b := by simp [Walked.goOn, Walked.Silent]

@[simp] theorem silent_after {walked : Walked α} {a : α} :
    (Walked.after issues walked).Silent a ↔ issues = [] ∧ walked.Silent a := by
  simp [Walked.after, Walked.Silent, and_assoc]

@[simp] theorem silent_then {walked : Walked α} {rest : α → Walked β} {b : β} :
    (walked.then rest).Silent b ↔ ∃ a, walked.Silent a ∧ (rest a).Silent b := by
  obtain ⟨issues, next⟩ := walked
  cases next with
  | none => simp [Walked.then, Walked.Silent]
  | some next => simp [Walked.then, Walked.after, Walked.Silent, and_assoc, and_left_comm]

@[simp] theorem silent_expectEvent {index : Nat} {kind : AgentRunEventKind} {missing outOfOrder : Issue} :
    (expectEvent events index kind missing outOfOrder).Silent event ↔
      events[index]? = some event ∧ event.kind = kind := by
  unfold expectEvent
  split
  · rename_i hnone
    simp [Walked.Silent, hnone]
  · rename_i found hsome
    split
    · rename_i hkind
      simp only [silent_goOn, hsome, Option.some.injEq]
      exact ⟨fun he => ⟨he, he ▸ hkind⟩, fun he => he.1⟩
    · rename_i hkind
      simp only [Walked.Silent, cons_ne_self, false_and, hsome, Option.some.injEq, false_iff, not_and]
      rintro rfl
      exact hkind

end Silent

theorem drop_eq_cons {α : Type} {l : List α} {i : Nat} {a : α} (h : l[i]? = some a) :
    l.drop i = a :: l.drop (i + 1) := by
  obtain ⟨hi, rfl⟩ := List.getElem?_eq_some_iff.mp h
  exact drop_eq_getElem_cons hi

theorem namesOperation_iff {data : Json} :
    namesOperation step data = true ↔
      dataStr data "operation" = some step.operation ∧ dataStr data "version" = some step.version := by
  simp [namesOperation]

theorem namesRequest_iff {requestId : Uuid} {data : Json} :
    namesRequest P step requestId data = true ↔
      dataUuid P data "step_id" = some step.id ∧ dataUuid P data "request_id" = some requestId := by
  simp [namesRequest]

theorem requestsTool_of_silent {decision : Json}
    (hkind : event.kind = .toolRequested) (h : validateToolRequested P step decision event = []) :
    RequestsTool P step decision ((dataStr event.data "call_id").getD "") event := by
  simp only [validateToolRequested, append_eq_nil_iff, flag_eq_nil, bne_eq_false_iff_eq, Bool.not_eq_false',
    namesOperation_iff, Bool.or_eq_false_iff] at h
  obtain ⟨⟨⟨⟨⟨hstep, hoperation, hversion⟩, hblank, hcall⟩, -⟩, hinput⟩, harguments⟩ := h
  obtain ⟨callId, hcallId⟩ : ∃ callId, dataStr event.data "call_id" = some callId := by
    cases hc : dataStr event.data "call_id" with
    | none => simp [hc] at hblank
    | some callId => exact ⟨callId, rfl⟩
  rw [hcallId] at hblank hcall
  rw [hcallId]
  refine ⟨hkind, hstep, hoperation, hversion, hcallId, hcall.symm, by simpa using hblank, ?_⟩
  obtain ⟨arguments, hevent, hdigest⟩ := Option.bind_eq_some_iff.mp hinput
  obtain ⟨canonical, hcanonical, hdigest⟩ := canonicalDigest_eq_some.mp hdigest
  rw [hevent] at harguments
  cases hdecision : decision.get "arguments" with
  | none => simp [hdecision] at harguments
  | some decided =>
    simp only [hdecision, hcanonical, bne_eq_false_iff_eq] at harguments
    refine ⟨arguments, decided, canonical, hevent, rfl, hcanonical, ?_, hdigest.symm⟩
    cases hdecided : P.canonicalize decided with
    | error e => simp [hdecided, Except.toOption] at harguments
    | ok other =>
      have : canonical = other := by simpa [hdecided, Except.toOption] using harguments
      rw [this]

theorem succeedsTool_of_silent {callId : String}
    (hkind : event.kind = .toolSucceeded) (h : validateToolSucceeded P step callId event = []) :
    SucceedsTool P step callId event := by
  simp only [validateToolSucceeded, append_eq_nil_iff, flag_eq_nil, bne_eq_false_iff_eq, Bool.not_eq_false',
    namesOperation_iff] at h
  obtain ⟨⟨⟨⟨hstep, hcall⟩, hoperation, hversion⟩, hproof⟩, -⟩ := h
  exact ⟨hkind, hstep, hcall, hoperation, hversion, hproof⟩

theorem pausesForApproval_of_silent {requestId : Uuid}
    {requested required resumed : AgentRunEvent} (hrequired : required.kind = .approvalRequired)
    (hresumed : resumed.kind = .approvalResumed)
    (hwaits : validateApprovalRequired P T step requestId requested required approvals = [])
    (hgoes : validateApprovalResumed P step requestId required resumed approvals = []) :
    PausesForApproval P approvals step requestId requested required resumed := by
  simp only [validateApprovalRequired, append_eq_nil_iff, flag_eq_nil, Bool.not_eq_false',
    namesRequest_iff, namesOperation_iff] at hwaits
  simp only [validateApprovalResumed, append_eq_nil_iff, flag_eq_nil, Bool.not_eq_false',
    namesRequest_iff] at hgoes
  obtain ⟨⟨hrequiredIds, -⟩, hwaits⟩ := hwaits
  obtain ⟨hresumedIds, hgoes⟩ := hgoes
  cases hevidence : approvalByRequest approvals requestId with
  | none => simp [hevidence] at hwaits
  | some evidence =>
    simp only [hevidence, append_eq_nil_iff, flag_eq_nil, Bool.or_eq_false_iff, decide_eq_false_iff_not,
      Int.not_lt] at hwaits hgoes
    obtain ⟨⟨-, hafter, -⟩, hbefore⟩ := hwaits
    obtain ⟨⟨⟨-, hdecided, hexpires⟩, hpaused⟩, hexecuted⟩ := hgoes
    exact ⟨hrequired, hresumed, hrequiredIds, hresumedIds, evidence, hevidence, hbefore, hafter, hpaused, hdecided,
      hexecuted, hexpires⟩

/-- A silent tool turn consumes the events of one call of its step. -/
theorem toolTurn_silent {stepIndex index next : Nat} {decision : Json}
    (h : (toolTurn P T observedSteps events approvals requiredApprovalStepIds stepIndex decision index).Silent next) :
    ∃ step call, observedSteps[stepIndex]? = some step ∧ ToolCall P approvals step decision call ∧
      events.drop index = call ++ events.drop next := by
  unfold toolTurn at h
  cases hstep : observedSteps[stepIndex]? with
  | none => simp [hstep, Walked.stop, Walked.Silent] at h
  | some step =>
    simp only [hstep, silent_then, silent_after, silent_expectEvent, silent_goOn] at h
    obtain ⟨requested, ⟨hrequested, hkind⟩, hvalid, -, resume, hpause, succeeded, ⟨hsucceeded, hend⟩, hdone, rfl⟩ := h
    have hrequest := requestsTool_of_silent hkind hvalid
    have hsuccess := succeedsTool_of_silent hend hdone
    unfold approvalPause at hpause
    cases happroval : step.approvalRequestId with
    | none =>
      simp only [happroval, silent_goOn] at hpause
      subst hpause
      refine ⟨step, _, rfl, .direct hrequest happroval hsuccess, ?_⟩
      rw [drop_eq_cons hrequested, drop_eq_cons hsucceeded]
      rfl
    | some requestId =>
      simp only [happroval, silent_then, silent_after, silent_expectEvent, silent_goOn] at hpause
      obtain ⟨required, ⟨hrequired, hwaiting⟩, hwaits, resumed, ⟨hresumed, hresuming⟩, hgoes, rfl⟩ := hpause
      refine ⟨step, _, rfl, .approved hrequest happroval
        (pausesForApproval_of_silent hwaiting hresuming hwaits hgoes) hsuccess, ?_⟩
      rw [drop_eq_cons hrequested, drop_eq_cons hrequired, drop_eq_cons hresumed, drop_eq_cons hsucceeded]
      rfl

theorem responseId_eq_some {responded : AgentRunEvent} {answer : String} :
    responseId responded = some answer ↔
      dataStr responded.data "response_id" = some answer ∧ isBlank answer = false := by
  simp [responseId, Option.filter_eq_some_iff]

/-- What a silent iteration that reached the model's decision says about its two events. -/
theorem modelExchange_of_silent {index modelCall : Nat} {previous : Option String} {requested responded : AgentRunEvent}
    {finding : Issue} (hrequested : requested.kind = .modelRequested) (hresponded : responded.kind = .modelResponded)
    (hrequest : modelRequestIssues agent index modelCall previous requested = [])
    (hanswer : flag (responseId responded).isNone finding = []) :
    ∃ answer, responseId responded = some answer ∧
      ModelExchange agent modelCall previous answer requested responded := by
  simp only [modelRequestIssues, append_eq_nil_iff, flag_eq_nil, bne_eq_false_iff_eq] at hrequest
  obtain ⟨⟨hmodel, hcall⟩, hprevious⟩ := hrequest
  simp only [flag_eq_nil, Option.isNone_eq_false_iff, Option.isSome_iff_exists] at hanswer
  obtain ⟨answer, hanswer⟩ := hanswer
  obtain ⟨hid, hnonblank⟩ := responseId_eq_some.mp hanswer
  exact ⟨answer, hanswer, hrequested, hresponded, hmodel, hcall, hprevious, hid, hnonblank⟩

/-- The loop ended with the model's finish and nothing wrong, every step bound. -/
structure TurnsOutcome.Accepts (outcome : TurnsOutcome) (steps : Nat) : Prop where
  issues : outcome.issues = []
  finished : outcome.sawFinish = true
  bound : outcome.stepIndex = steps

@[simp] theorem accepts_after {outcome : TurnsOutcome} {steps : Nat} :
    (TurnsOutcome.after issues outcome).Accepts steps ↔ issues = [] ∧ outcome.Accepts steps := by
  constructor
  · rintro ⟨hissues, hfinished, hbound⟩
    obtain ⟨hbefore, hafter⟩ := append_eq_nil_iff.mp hissues
    exact ⟨hbefore, hafter, hfinished, hbound⟩
  · rintro ⟨hbefore, hafter, hfinished, hbound⟩
    exact ⟨append_eq_nil_iff.mpr ⟨hbefore, hafter⟩, hfinished, hbound⟩

@[simp] theorem not_accepts_unfinished {stepIndex steps : Nat} :
    ¬ (TurnsOutcome.mk issues stepIndex false).Accepts steps := by
  rintro ⟨-, hfinished, -⟩
  cases hfinished

section Loop
variable {completedOutput : Option String} {lastIndex fuel index stepIndex modelCall steps : Nat}
  {previous : Option String}

/-- One accepted iteration: a model exchange, then its finish or a tool turn and the rest. -/
theorem modelTurns_accepts_succ
    (h : (modelTurns P T agent observedSteps events approvals requiredApprovalStepIds completedOutput lastIndex
      (fuel + 1) index stepIndex modelCall previous).Accepts steps) :
    ∃ requested responded answer, events.drop index = requested :: responded :: events.drop (index + 2) ∧
      responseId responded = some answer ∧ ModelExchange agent modelCall previous answer requested responded ∧
      (dataStr (decisionOf responded) "type" = some "finish" ∧ stepIndex = steps ∧
        finishIssues (decisionOf responded) completedOutput (index + 2) lastIndex = [] ∨
      dataStr (decisionOf responded) "type" = some "tool_call" ∧ ∃ next,
        (toolTurn P T observedSteps events approvals requiredApprovalStepIds stepIndex (decisionOf responded)
          (index + 2)).Silent next ∧
        (modelTurns P T agent observedSteps events approvals requiredApprovalStepIds completedOutput lastIndex fuel next
          (stepIndex + 1) (modelCall + 1) (some answer)).Accepts steps) := by
  unfold modelTurns at h
  split at h
  case isFalse => exact absurd h not_accepts_unfinished
  split at h
  case h_1 => exact absurd h not_accepts_unfinished
  rename_i requested hrequested
  split at h
  case isTrue => exact absurd h not_accepts_unfinished
  rename_i hkind
  obtain ⟨hrequest, h⟩ := accepts_after.mp h
  split at h
  case h_1 => exact absurd h not_accepts_unfinished
  rename_i responded hresponded
  split at h
  case isTrue => exact absurd h not_accepts_unfinished
  rename_i hanswered
  obtain ⟨hid, h⟩ := accepts_after.mp h
  obtain ⟨answer, hanswer, hexchange⟩ :=
    modelExchange_of_silent (not_not.mp hkind) (not_not.mp hanswered) hrequest hid
  refine ⟨requested, responded, answer, ?_, hanswer, hexchange, ?_⟩
  · rw [drop_eq_cons hrequested, drop_eq_cons hresponded]
  · split at h
    · rename_i htype
      obtain ⟨hturn, h⟩ := accepts_after.mp h
      split at h
      · exact absurd h not_accepts_unfinished
      · rename_i next hnext
        exact .inr ⟨htype, next, ⟨hturn, hnext⟩, hanswer ▸ h⟩
    · rename_i htype
      exact .inl ⟨htype, h.bound, h.issues⟩
    · exact absurd h not_accepts_unfinished

/-- The loop invariant, by induction on the fuel: the events left are a conversation over the steps left. -/
theorem modelTurns_conversation
    (h : (modelTurns P T agent observedSteps events approvals requiredApprovalStepIds completedOutput lastIndex fuel
      index stepIndex modelCall previous).Accepts observedSteps.length) :
    ∃ body output, completedOutput = some output ∧ events.drop index = body ++ events.drop lastIndex ∧
      Conversation P agent approvals output modelCall previous (observedSteps.drop stepIndex) body := by
  induction fuel generalizing index stepIndex modelCall previous with
  | zero => exact absurd h not_accepts_unfinished
  | succ fuel ih =>
    obtain ⟨requested, responded, answer, hdrop, -, hexchange, hdecision⟩ := modelTurns_accepts_succ h
    rcases hdecision with ⟨htype, hbound, hfinish⟩ | ⟨htype, next, hturn, hrest⟩
    · simp only [finishIssues, append_eq_nil_iff, flag_eq_nil, bne_eq_false_iff_eq] at hfinish
      obtain ⟨⟨hlast, hreported⟩, hequal⟩ := hfinish
      cases houtput : dataStr (decisionOf responded) "output" with
      | none => simp [houtput] at hreported
      | some output =>
        refine ⟨[requested, responded], output, hequal ▸ houtput, by rw [hdrop, hlast]; rfl, ?_⟩
        rw [hbound, drop_length]
        exact .finish hexchange htype houtput
    · obtain ⟨step, call, hstep, hcall, hconsumed⟩ := toolTurn_silent hturn
      obtain ⟨body, output, houtput, hbody, hconversation⟩ := ih hrest
      refine ⟨requested :: responded :: (call ++ body), output, houtput, ?_, ?_⟩
      · rw [hdrop, hconsumed, hbody]
        simp
      · rw [drop_eq_cons hstep]
        exact .turn hexchange htype hcall hconversation

end Loop

end Turns

theorem drop_last {α : Type} {l : List α} {a : α} (h : l.getLast? = some a) : l.drop (l.length - 1) = [a] := by
  obtain ⟨before, rfl⟩ := List.getLast?_eq_some_iff.mp h
  simp

theorem turnIssues_conversation {T : TextFormats} {agent : AgentDefinition} {observedSteps : List AgentRunStep}
    {approvals : List ApprovalEvidence} {requiredApprovalStepIds : List Uuid} {completedOutput : Option String}
    (h : turnIssues P T agent observedSteps events approvals requiredApprovalStepIds completedOutput = []) :
    ∃ body output, completedOutput = some output ∧
      events.drop 1 = body ++ events.drop (events.length - 1) ∧
      Conversation P agent approvals output 1 none observedSteps body := by
  simp only [turnIssues, append_eq_nil_iff, flag_eq_nil, Bool.not_eq_false', bne_eq_false_iff_eq] at h
  obtain ⟨⟨hissues, hfinished⟩, hbound⟩ := h
  have haccepts : (modelTurns P T agent observedSteps events approvals requiredApprovalStepIds completedOutput
      (events.length - 1) events.length 1 0 1 none).Accepts observedSteps.length := ⟨hissues, hfinished, hbound⟩
  exact modelTurns_conversation haccepts

/-- A trace whose lifecycle check is silent has the prescribed shape. -/
theorem silent_lifecycle_prescribed (T : TextFormats) (run : AgentRun) (agent : AgentDefinition)
    (observedSteps : List AgentRunStep) (events : List AgentRunEvent) (approvals : List ApprovalEvidence)
    (requiredApprovalStepIds : List Uuid)
    (h : lifecycleIssues P T run agent observedSteps events approvals requiredApprovalStepIds = []) :
    Prescribed P agent approvals observedSteps events := by
  obtain ⟨hbefore, hafter⟩ := append_eq_nil_iff.mp h
  obtain ⟨htopology, hevents⟩ := append_eq_nil_iff.mp hbefore
  refine ⟨?_, ?_, ?_, eventIssues_digests hevents, stepTopologyIssues_ordered htopology⟩
  · split at hafter
    · rename_i started completed hfirst hlast
      obtain ⟨hstarted, hafter⟩ := append_eq_nil_iff.mp hafter
      have hkind : started.kind = .started := by
        unfold startedIssues at hstarted
        split at hstarted
        · cases hstarted
        · rename_i hkind
          exact not_not.mp hkind
      split at hafter
      · cases hafter
      · rename_i hcompleted
        obtain ⟨-, hturns⟩ := append_eq_nil_iff.mp hafter
        rw [if_neg (not_not.mpr hkind)] at hturns
        obtain ⟨body, output, houtput, hbody, hconversation⟩ := turnIssues_conversation P hturns
        refine ⟨started, body, completed, output, ?_, hkind, not_not.mp hcompleted, houtput, hconversation⟩
        rw [drop_last hlast] at hbody
        obtain ⟨rest, rfl⟩ := List.head?_eq_some_iff.mp hfirst
        rw [← hbody]
        rfl
    · cases hafter
  · intro i event hevent
    rw [eventIssues_sequences hevents i event hevent, Nat.zero_add]
  · have htrans : IsTrans AgentRunEvent fun a b => a.createdAt ≤ b.createdAt := ⟨fun _ _ _ => Int.le_trans⟩
    exact isChain_iff_pairwise.mp (eventIssues_chain hevents)

section Fixtures
open Executor (keyPrimitives)

/-- Instants of the fixture, in whole seconds. -/
def seconds (n : Int) : Instant := n * 1000000000

def publishArguments : Json := .object [("slug", .string "a")]

def publishOutput : Json := .object [("ok", .bool true)]

def publishInputDigest : ContentDigest := ⟨1⟩

def publishOutputDigest : ContentDigest := ⟨2⟩

/-- The digest that binds the policy under which the trace is evaluated. -/
def publishPolicyDigest : ContentDigest := ⟨3⟩

/-- The digest that binds the whole trace. -/
def publishTraceDigest : ContentDigest := ⟨4⟩

def publishRequestDigest : ContentDigest := ⟨5⟩

def publishEvent (sequence : Nat) (kind : AgentRunEventKind) (second : Int) (data : List (String × Json)) :
    AgentRunEvent where
  id := Uuid.v7 (16 + sequence)
  runId := Uuid.v7 1
  sequence := sequence
  kind := kind
  data := .object data
  dataDigest := ⟨16 + sequence⟩
  createdAt := seconds second

/-- The step and the operation that an event names. -/
def publishCall : List (String × Json) :=
  [("step_id", jsonUuid (Uuid.v7 5)), ("operation", .string "content.publish"), ("version", .string "v1")]

/-- One approved call of a tool, and the model's report. -/
def publishEvents : List AgentRunEvent := [
  publishEvent 0 .started 0 [("agent_id", jsonUuid (Uuid.v7 2)), ("goal", .string "publish")],
  publishEvent 1 .modelRequested 1
    [("model", .string "m1"), ("model_call", jsonNat 1), ("previous_response_id", .null)],
  publishEvent 2 .modelResponded 2
    [("response_id", .string "r1"), ("decision", .object [("type", .string "tool_call"), ("call_id", .string "c1"),
      ("name", .string "publish"), ("arguments", publishArguments)])],
  publishEvent 3 .toolRequested 3 (publishCall ++
    [("call_id", .string "c1"), ("tool", .string "publish"), ("arguments", publishArguments)]),
  publishEvent 4 .approvalRequired 5 (publishCall ++
    [("request_id", jsonUuid (Uuid.v7 6)), ("expires_at", .string "1970-01-01T00:01:00Z")]),
  publishEvent 5 .approvalResumed 7
    [("step_id", jsonUuid (Uuid.v7 5)), ("request_id", jsonUuid (Uuid.v7 6)), ("decided_by", jsonUuid (Uuid.v7 4)),
      ("outcome", .string "approved")],
  publishEvent 6 .toolSucceeded 10 (publishCall ++
    [("call_id", .string "c1"), ("proof_id", jsonUuid (Uuid.v7 8))]),
  publishEvent 7 .modelRequested 11
    [("model", .string "m1"), ("model_call", jsonNat 2), ("previous_response_id", .string "r1")],
  publishEvent 8 .modelResponded 12
    [("response_id", .string "r2"),
      ("decision", .object [("type", .string "finish"), ("output", .string "done")])],
  publishEvent 9 .completed 13 [("output", .string "done")]]

def publishProof : Proof where
  body := ⟨Uuid.v7 8, ⟨Uuid.v7 3⟩, none, "content.publish::v1", publishInputDigest, publishOutputDigest, seconds 8,
    none⟩
  signature := 1

def publishRequest : SignedApprovalRequest where
  body := ⟨Uuid.v7 6, "content.publish", "v1", publishInputDigest, ⟨Uuid.v7 3⟩, seconds 4, seconds 60⟩
  signature := signatureBytes 2

def publishDecision : SignedApprovalDecision where
  body := ⟨Uuid.v7 7, Uuid.v7 6, publishRequestDigest, .approved, ⟨Uuid.v7 4⟩, seconds 6, none⟩
  signature := signatureBytes 3

def publishActor : Principal := ⟨⟨Uuid.v7 3⟩, .agent, 3, seconds 0⟩

def publishApprover : Principal := ⟨⟨Uuid.v7 4⟩, .human, 4, seconds 0⟩

def publishApproval : ApprovalEvidence where
  request := publishRequest
  decision := publishDecision
  approver := publishApprover
  execution := ⟨Uuid.v7 6, seconds 8, publishOutput, publishProof⟩

/-- The signatures made for the trace. -/
def publishSignatures : List (PublicKey × SignedPayload × List (BitVec 8)) := [
  (publishActor.publicKey, .proof publishProof.body, signatureBytes publishProof.signature),
  (publishActor.publicKey, .approvalRequest publishRequest.body, publishRequest.signature),
  (publishApprover.publicKey, .approvalDecision publishDecision.body, publishDecision.signature)]

/-- The linked functions, on the values of the trace. -/
def publishPrimitives : Primitives :=
  { keyPrimitives with
    canonicalize := canonicalize noFloats jsonLiterals.quote
    digest := fun kind canonical =>
      match kind with
      | .operationInput => publishInputDigest
      | .operationOutput => publishOutputDigest
      | .generic => if canonical.text.utf8ByteSize < 1000 then publishPolicyDigest else publishTraceDigest
      | _ => ((publishEvents.find? fun event =>
          canonicalize noFloats jsonLiterals.quote event.data == .ok canonical).map
            AgentRunEvent.dataDigest).getD ⟨0⟩
    requestDigest := fun _ => publishRequestDigest
    verify := fun key payload signature => publishSignatures.contains (key, payload, signatureBytes signature)
    parseUuid := fun text => ((List.range 16).map Uuid.v7).find? fun id => Executor.uuidText id == text }

/-- The texts of whole seconds in the first hour; the trace has no numbers or messages to write. -/
def publishTexts : TextFormats where
  instant n :=
    let twoDigits (n : Nat) := String.ofList [Nat.digitChar (n / 10), Nat.digitChar (n % 10)]
    let second := n.toNat / 1000000000
    "1970-01-01T00:" ++ twoDigits (second / 60) ++ ":" ++ twoDigits (second % 60) ++ "Z"
  number _ := ""
  debug := id

def publishAgent : AgentDefinition where
  id := Uuid.v7 2
  name := "publisher"
  instructions := "publish"
  provider := "p1"
  model := "m1"
  tools := [⟨"content.publish", "v1"⟩]
  limits := ⟨16, 24, 100000, 900, 4096, none⟩
  createdAt := seconds 0

def publishRun : AgentRun :=
  ⟨Uuid.v7 1, ⟨Uuid.v7 3⟩, some (Uuid.v7 2), .session, "publish", .succeeded, 0, 4, seconds 0, seconds 13,
    some (seconds 13)⟩

def publishStep : AgentRunStep :=
  ⟨Uuid.v7 5, Uuid.v7 1, 0, 1, none, "content.publish", "v1", publishInputDigest, .succeeded, some (Uuid.v7 6),
    some publishOutput, some publishProof, none, 4, seconds 3, seconds 9, some (seconds 3), some (seconds 9)⟩

end Fixtures

theorem silent_lifecycle_prescribed_publish :
    lifecycleIssues publishPrimitives publishTexts publishRun publishAgent [publishStep] publishEvents
      [publishApproval] [Uuid.v7 5] = [] ∧
    Prescribed publishPrimitives publishAgent [publishApproval] [publishStep] publishEvents := by
  have hsilent : lifecycleIssues publishPrimitives publishTexts publishRun publishAgent [publishStep] publishEvents
      [publishApproval] [Uuid.v7 5] = [] := by decide +kernel
  exact ⟨hsilent, silent_lifecycle_prescribed _ _ _ _ _ _ _ _ hsilent⟩

end ProofPlatform.Trace
