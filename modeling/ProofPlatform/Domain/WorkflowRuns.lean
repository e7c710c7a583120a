import ProofPlatform.Domain.Workflow

/-! Runs of a workflow under any sequence of calls: when the record of a run keeps up with the records
of its steps. -/
namespace ProofPlatform.Domain
open Kernel Executor List Function
open Library.Fallible Library.FallibleState WorkflowStep

variable (L : WorkflowLibrary)

/-- A call that moves a run on, with its surroundings. -/
inductive WorkflowCall where
  | stepComplete (surroundings : CallSurroundings) (context : ExecutionContext) (input : Json)
  | approve (surroundings : CallSurroundings) (context : ExecutionContext) (input : Json)

namespace WorkflowCall

def surroundings : WorkflowCall → CallSurroundings
  | stepComplete E _ _ => E
  | approve E _ _ => E

def input : WorkflowCall → Json
  | stepComplete _ _ input => input
  | approve _ _ input => input

def perform : WorkflowCall → WorkflowM Json
  | stepComplete E _ input => handle E "workflow.step.complete" input (executeStepComplete L E input)
  | approve E context input => handle E "workflow.approve" input (executeApprove L E context input)

/-- The call names no run but this one. -/
def On (runId : Uuid) (call : WorkflowCall) : Prop := ∀ id, parseId L call.input "run_id" = .ok id → id = runId

/-- An approval by a human. -/
def ByHuman : WorkflowCall → Prop
  | stepComplete _ _ _ => False
  | approve _ context _ => context.principalKind = some .human

end WorkflowCall

/-- The files after the calls, whether or not they returned. -/
def performAll (calls : List WorkflowCall) (files : WorkflowFiles) : WorkflowFiles :=
  calls.foldl (fun files call => (call.perform L files).2) files

/-- Calls on the run lead from one state of the files to the other. -/
def Reaches (runId : Uuid) (files files' : WorkflowFiles) : Prop :=
  ∃ calls, (∀ call ∈ calls, call.On L runId) ∧ performAll L calls files = files'

/-- The files hold this run of the definition, with these steps. -/
structure RunFiles (definition : WorkflowDefinition) (runId : Uuid) (files : WorkflowFiles) (run : WorkflowRun)
    (steps : List WorkflowStep) : Prop where
  defined : files.definitions definition.id = some (.ok definition)
  stored : files.runs runId = some (.ok run)
  named : run.id = runId
  instanceOf : run.workflowDefinitionId = definition.id
  blueprints : steps.map (fun step => (step.id, step.requiresApproval)) =
    definition.steps.map fun blueprint => (stepId L runId blueprint.key, blueprint.requiresApproval)
  held : ∀ step ∈ steps, files.steps step.id = some (.ok step)

/-- The status of a run says how far its steps are. -/
structure Tracked (status : WorkflowRunStatus) (steps : List WorkflowStep) : Prop where
  completed : status = .completed ↔ ∀ step ∈ steps, step.status = .approved
  pending : status = .pending ↔ ∀ step ∈ steps, step.status = .pending
  inProgress : status = .inProgress ↔
    ¬ (∀ step ∈ steps, step.status = .approved) ∧ ¬ ∀ step ∈ steps, step.status = .pending

/-- What holds of a run from these files on, whatever calls are made on it. -/
structure TracksSteps (definition : WorkflowDefinition) (runId : Uuid) (start : WorkflowFiles) : Prop where
  tracked : ∀ files, Reaches L runId start files →
    ∃ run steps, RunFiles L definition runId files run steps ∧ Tracked run.status steps
  inOrder : ∀ files (call : WorkflowCall), Reaches L runId start files → call.On L runId → ∀ run steps run' steps',
    RunFiles L definition runId files run steps → RunFiles L definition runId (call.perform L files).2 run' steps' →
    ∀ (i : Nat) (step step' : WorkflowStep), steps[i]? = some step → steps'[i]? = some step' → step.status = .pending →
      step'.status ≠ .pending → ∀ earlier ∈ steps.take i, earlier.status = .approved
  byHuman : ∀ files (call : WorkflowCall), Reaches L runId start files → call.On L runId → ∀ run steps run' steps',
    RunFiles L definition runId files run steps → RunFiles L definition runId (call.perform L files).2 run' steps' →
    ∀ (i : Nat) (step step' : WorkflowStep), steps[i]? = some step → steps'[i]? = some step' →
      step.requiresApproval = true → step.status ≠ .approved → step'.status = .approved → call.ByHuman
  unchanged : ∀ files (call : WorkflowCall), Reaches L runId start files → call.On L runId → ∀ error files',
    call.perform L files = (.error error, files') → files' = files
  completes : ∀ files, Reaches L runId start files → ∃ files' run, Reaches L runId files files' ∧
    files'.runs runId = some (.ok run) ∧ run.status = .completed

/-- There is a step before the last one, and the last one needs no approval. -/
def WorkflowDefinition.EndsUnattended (definition : WorkflowDefinition) : Prop :=
  2 ≤ definition.steps.length ∧ (definition.steps.map WorkflowStepBlueprint.requiresApproval).getLast? = some false

/-! ### What a call reads -/

variable {before after : List WorkflowStep} {E : CallSurroundings} {step step' : WorkflowStep}

section Reading
variable {α : Type} {p : α → Bool} {l before after : List α} {a : α}

theorem splitFirst_eq_some (h : splitFirst p l = some (before, a, after)) :
    l = before ++ a :: after ∧ p a = true ∧ ∀ b ∈ before, p b = false := by
  induction l generalizing before with
  | nil => cases h
  | cons first rest ih =>
    rw [splitFirst] at h
    split_ifs at h with hfirst
    · cases h
      exact ⟨rfl, hfirst, by simp⟩
    · obtain ⟨⟨before', a', after'⟩, hrest, heq⟩ := Option.map_eq_some_iff.mp h
      cases heq
      obtain ⟨rfl, ha, hbefore⟩ := ih hrest
      refine ⟨rfl, ha, fun b hb => ?_⟩
      rcases mem_cons.mp hb with rfl | hb
      · exact Bool.eq_false_of_not_eq_true hfirst
      · exact hbefore b hb

theorem splitFirst_eq_none : splitFirst p l = none ↔ ∀ b ∈ l, p b = false := by
  induction l with
  | nil => simp [splitFirst]
  | cons first rest ih =>
    rw [splitFirst]
    cases hfirst : p first with
    | true => simp [hfirst]
    | false => simp [hfirst, ih]

theorem mem_of_append_eq {before' after' : List α} {a' b : α} (h : before ++ a :: after = before' ++ a' :: after')
    (hnone : ∀ b ∈ before, b ≠ a') (hb : b ∈ before) : b ∈ before' := by
  rcases append_eq_append_iff.mp h with ⟨middle, hmiddle, -⟩ | ⟨middle, hmiddle, hrest⟩
  · exact hmiddle ▸ mem_append_left _ hb
  · cases middle with
    | nil => simpa [hmiddle] using hb
    | cons first middle =>
      obtain ⟨rfl, -⟩ := List.cons.inj hrest
      exact absurd rfl (hnone a' (by simp [hmiddle]))

theorem load_eq_ok {files : StoredFiles α} {id : Uuid} {kind : String}
    (h : load E files id kind = .ok a) : files id = some (.ok a) := by
  obtain ⟨file, hfile, hread⟩ := bind_eq_ok.mp h
  obtain rfl := mapError_eq_ok.mp hread
  have hfound := orReject_eq_ok.mp hfile
  split_ifs at hfound
  exact hfound

theorem load_of_readable {files : StoredFiles α} {id : Uuid} {kind : String}
    (hreadable : E.unreadable kind id = none) (hfile : files id = some (.ok a)) : load E files id kind = .ok a := by
  refine bind_eq_ok.mpr ⟨.ok a, ?_, rfl⟩
  simp [hreadable, hfile]

end Reading

section Loading
variable {L} {E : CallSurroundings} {files : WorkflowFiles} {run : WorkflowRun} {runId : Uuid}
variable {steps : List WorkflowStep} {definition : WorkflowDefinition} {blueprints : List WorkflowStepBlueprint}

section
variable (hid : run.id = runId) (hblueprints : steps.map (fun step => (step.id, step.requiresApproval)) =
    blueprints.map fun blueprint => (stepId L runId blueprint.key, blueprint.requiresApproval))
  (hheld : ∀ step ∈ steps, files.steps step.id = some (.ok step))
include hid hblueprints hheld

theorem loadSteps_eq_ok {loaded : List WorkflowStep} (h : loadSteps L E files run blueprints = .ok loaded) :
    loaded = steps := by
  induction blueprints generalizing steps loaded with
  | nil =>
    obtain rfl := map_eq_nil_iff.mp hblueprints
    exact (Except.ok.inj h).symm
  | cons blueprint rest ih =>
    cases steps with
    | nil => cases hblueprints
    | cons step steps =>
      obtain ⟨hstep, hrest⟩ := List.cons.inj hblueprints
      obtain ⟨first, hfirst, h⟩ := bind_eq_ok.mp h
      obtain ⟨others, hothers, h⟩ := bind_eq_ok.mp h
      cases h
      have hfile := load_eq_ok hfirst
      rw [hid, ← (Prod.mk.inj hstep).1, hheld step mem_cons_self] at hfile
      cases hfile
      rw [ih hrest (fun s hs => hheld s (mem_cons_of_mem _ hs)) hothers]

theorem loadSteps_of_readable (hreadable : ∀ kind id, E.unreadable kind id = none) :
    loadSteps L E files run blueprints = .ok steps := by
  induction blueprints generalizing steps with
  | nil =>
    obtain rfl := map_eq_nil_iff.mp hblueprints
    rfl
  | cons blueprint rest ih =>
    cases steps with
    | nil => cases hblueprints
    | cons step steps =>
      obtain ⟨hstep, hrest⟩ := List.cons.inj hblueprints
      have hfile := hheld step mem_cons_self
      rw [(Prod.mk.inj hstep).1, ← hid] at hfile
      refine bind_eq_ok.mpr ⟨step, load_of_readable (hreadable _ _) hfile, bind_eq_ok.mpr ⟨steps, ?_, rfl⟩⟩
      exact ih hrest fun s hs => hheld s (mem_cons_of_mem _ hs)

end

/-- Nothing but the state of the run can keep the call from moving it on. -/
structure WorkflowCall.Ready (L : WorkflowLibrary) (runId : Uuid) (call : WorkflowCall) : Prop where
  valid : ∃ schema, call.surroundings.schema = .ok schema ∧ schema.validate call.input = .ok ()
  named : parseId L call.input "run_id" = .ok runId
  readable : ∀ kind id, call.surroundings.unreadable kind id = none

/-- A call reads the run and its steps, or fails without a change. -/
theorem RunFiles.loadRun_meets (h : RunFiles L definition runId files run steps) {input : Json}
    (hon : ∀ id, parseId L input "run_id" = .ok id → id = runId) :
    (loadRun L E input).Meets files (fun pair files' => pair = (run, steps) ∧ files' = files)
      fun _ files' => files' = files ∧
        ¬ (parseId L input "run_id" = .ok runId ∧ ∀ kind id, E.unreadable kind id = none) := by
  simp only [loadRun, Act.meets_bind, Act.meets_lift, Act.meets_current, Act.meets_pure]
  refine ⟨fun id hid => ?_, fun error herror => ⟨trivial, fun hready => ?_⟩⟩
  · obtain rfl := hon id hid
    refine ⟨fun loaded hrun => ?_, fun error herror => ⟨trivial, fun hready => ?_⟩⟩
    · obtain rfl : run = loaded := by simpa [h.stored] using load_eq_ok hrun
      refine ⟨fun loaded hdefinition => ?_, fun error herror => ⟨trivial, fun hready => ?_⟩⟩
      · obtain rfl : definition = loaded := by simpa [h.instanceOf, h.defined] using load_eq_ok hdefinition
        refine ⟨fun loaded hsteps => ?_, fun error herror => ⟨trivial, fun hready => ?_⟩⟩
        · exact ⟨by rw [loadSteps_eq_ok h.named h.blueprints h.held hsteps], trivial⟩
        · rw [loadSteps_of_readable h.named h.blueprints h.held hready.2] at herror
          cases herror
      · rw [loadDefinition, load_of_readable (hready.2 _ _) (h.instanceOf ▸ h.defined)] at herror
        cases herror
    · rw [load_of_readable (hready.2 _ _) h.stored] at herror
      cases herror
  · rw [hready.1] at herror
    cases herror

end Loading

/-! ### What a call changes -/

/-- One step is moved on: completed after those before it were approved, or approved by a human. -/
inductive Advances : WorkflowCall → List WorkflowStep → List WorkflowStep → Prop
  | complete {E : CallSurroundings} {context : ExecutionContext} {input : Json} {before after : List WorkflowStep}
      {step step' : WorkflowStep} (hbefore : ∀ b ∈ before, b.status = .approved) (hpending : step.status = .pending)
      (hstatus : step'.status = if step.requiresApproval then .completed else .approved)
      (happroval : step'.requiresApproval = step.requiresApproval) :
      Advances (.stepComplete E context input) (before ++ step :: after) (before ++ step' :: after)
  | approve {E : CallSurroundings} {context : ExecutionContext} {input : Json} {before after : List WorkflowStep}
      {step step' : WorkflowStep} (hhuman : context.principalKind = some .human) (hcompleted : step.status = .completed)
      (hstatus : step'.status = .approved) (happroval : step'.requiresApproval = step.requiresApproval) :
      Advances (.approve E context input) (before ++ step :: after) (before ++ step' :: after)

/-- What becomes of the run when its steps have advanced; an approval leaves it as it is. -/
def WorkflowCall.settle (run : WorkflowRun) (steps : List WorkflowStep) :
    WorkflowCall → Except ExecutionError WorkflowRun
  | stepComplete E _ _ => advanceRun E run steps
  | approve _ _ _ => .ok run

/-- No step is there for the call to advance. -/
def WorkflowCall.Blocked (steps : List WorkflowStep) : WorkflowCall → Prop
  | stepComplete _ _ _ => ∀ before step after, steps = before ++ step :: after → step.status = .pending →
      ¬ ∀ b ∈ before, b.status = .approved
  | approve _ context _ => (∀ step ∈ steps, step.status ≠ .completed) ∨ context.principalKind ≠ some .human

section Changing
variable {L} {files : WorkflowFiles} {run : WorkflowRun} {runId : Uuid} {steps : List WorkflowStep}
variable {definition : WorkflowDefinition}

theorem RunFiles.ids_nodup (h : RunFiles L definition runId files run steps)
    (hids : (definition.steps.map fun blueprint => stepId L runId blueprint.key).Nodup) :
    (steps.map WorkflowStep.id).Nodup := by
  have hmap := congrArg (List.map Prod.fst) h.blueprints
  simp only [map_map, comp_def] at hmap
  rw [hmap]
  exact hids

theorem RunFiles.approvals (h : RunFiles L definition runId files run steps) :
    steps.map requiresApproval = definition.steps.map WorkflowStepBlueprint.requiresApproval := by
  have hmap := congrArg (List.map Prod.snd) h.blueprints
  simpa only [map_map, comp_def] using hmap

theorem RunFiles.saveStep (h : RunFiles L definition runId files run (before ++ step :: after))
    (hids : (definition.steps.map fun blueprint => stepId L runId blueprint.key).Nodup) (hid : step'.id = step.id)
    (happroval : step'.requiresApproval = step.requiresApproval) :
    RunFiles L definition runId (files.saveStep step') run (before ++ step' :: after) where
  defined := h.defined
  stored := h.stored
  named := h.named
  instanceOf := h.instanceOf
  blueprints := by
    rw [← h.blueprints]
    simp [hid, happroval]
  held other hother := by
    have hnodup := h.ids_nodup hids
    simp only [map_append, map_cons, nodup_append, nodup_cons] at hnodup
    have hne : other ∈ before ∨ other ∈ after → other.id ≠ step'.id := by
      rintro (hmem | hmem) heq
      · exact hnodup.2.2 other.id (mem_map_of_mem hmem) step.id mem_cons_self (heq.trans hid)
      · exact hnodup.2.1.1 (hid ▸ heq ▸ mem_map_of_mem hmem)
    rcases mem_append.mp hother with hmem | hmem
    · exact (update_of_ne (hne (.inl hmem)) _ _).trans (h.held other (mem_append_left _ hmem))
    · rcases mem_cons.mp hmem with rfl | hmem
      · exact update_self _ _ _
      · have hheld := h.held other (mem_append_right _ (mem_cons_of_mem _ hmem))
        exact (update_of_ne (hne (.inr hmem)) _ _).trans hheld

theorem RunFiles.saveRun {run' : WorkflowRun} (h : RunFiles L definition runId files run steps) (hid : run'.id = run.id)
    (hdefinition : run'.workflowDefinitionId = run.workflowDefinitionId) :
    RunFiles L definition runId (files.saveRun run') run' steps where
  defined := h.defined
  stored := by
    rw [← h.named, ← hid]
    exact update_self _ _ _
  named := hid.trans h.named
  instanceOf := hdefinition.trans h.instanceOf
  blueprints := h.blueprints
  held := h.held

theorem advanceRun_same {run' : WorkflowRun} (h : advanceRun E run steps = .ok run') :
    run'.id = run.id ∧ run'.workflowDefinitionId = run.workflowDefinitionId := by
  have htransition : ∀ {next}, asInputError (run.transitionTo next E.runTime) = .ok run' →
      run'.id = run.id ∧ run'.workflowDefinitionId = run.workflowDefinitionId := by
    intro next hnext
    have hmoved := mapError_eq_ok.mp hnext
    rw [WorkflowRun.transitionTo] at hmoved
    split_ifs at hmoved
    cases hmoved
    exact ⟨rfl, rfl⟩
  rw [advanceRun] at h
  split_ifs at h
  · exact htransition h
  · exact htransition h
  · cases h
    exact ⟨rfl, rfl⟩

theorem complete_of_pending {now : Instant} (h : step.status = .pending) :
    step.complete now =
      .ok { step with status := if step.requiresApproval then .completed else .approved, updatedAt := now } := by
  rw [complete, if_neg (not_not.mpr h)]

theorem approve_of_completed {now : Instant} (h : step.status = .completed) :
    step.approve now = .ok { step with status := .approved, updatedAt := now } := by
  rw [approve, if_neg (not_not.mpr h)]

section
variable (L : WorkflowLibrary) (definition : WorkflowDefinition) (runId : Uuid) (call : WorkflowCall)
  (run : WorkflowRun) (steps : List WorkflowStep) (files' : WorkflowFiles)

/-- What a call makes of the files if it returns. -/
def Advanced : Prop :=
  ∃ run' steps', RunFiles L definition runId files' run' steps' ∧ Advances call steps steps' ∧
    call.settle run steps' = .ok run'

/-- A failed call changes no file, or has advanced a step in a run that could not be settled. -/
def Stranded (files files' : WorkflowFiles) : Prop :=
  files' = files ∧ (call.Ready L runId → call.Blocked steps) ∨
    ∃ steps' error, RunFiles L definition runId files' run steps' ∧ Advances call steps steps' ∧
      call.settle run steps' = .error error

def MovesOn (files : WorkflowFiles) (execute : WorkflowM Json) : Prop :=
  execute.Meets files (fun _ => Advanced L definition runId call run steps)
    fun _ => Stranded L definition runId call run steps files

end

section Executing
variable (h : RunFiles L definition runId files run steps)
  (hids : (definition.steps.map fun blueprint => stepId L runId blueprint.key).Nodup)
include h hids

variable {context : ExecutionContext}

theorem RunFiles.stepComplete_meets {input : Json} (hon : (WorkflowCall.stepComplete E context input).On L runId) :
    MovesOn L definition runId (.stepComplete E context input) run steps files (executeStepComplete L E input) := by
  rw [MovesOn, executeStepComplete, Act.meets_bind]
  refine (h.loadRun_meets hon).mono ?_ fun error files' hfailed =>
    .inl ⟨hfailed.1, fun hready => absurd ⟨hready.named, hready.readable⟩ hfailed.2⟩
  rintro ⟨_, _⟩ _ ⟨heq, rfl⟩
  cases heq
  simp only [Act.meets_bind, Act.meets_lift]
  refine ⟨fun split hsplit => ?_, fun error herror => .inl ⟨rfl, fun _ before step after hsteps hpending => ?_⟩⟩
  · obtain ⟨before, step, after⟩ := split
    obtain ⟨rfl, hpending, hnone⟩ := splitFirst_eq_some (orReject_eq_ok.mp hsplit)
    replace hpending := of_decide_eq_true hpending
    replace hnone : ∀ b ∈ before, b.status ≠ .pending := fun b hb => of_decide_eq_false (hnone b hb)
    simp only [complete_of_pending hpending, Act.meets_update, Act.meets_pure]
    refine ⟨fun _ hbefore => ⟨fun step' hstep' => ?_, fun error herror => by cases herror⟩, fun error herror => ?_⟩
    · obtain ⟨hid, happroval, hstatus⟩ : step'.id = step.id ∧ step'.requiresApproval = step.requiresApproval ∧
          step'.status = if step.requiresApproval then .completed else .approved := by
        cases hstep'
        exact ⟨rfl, rfl, rfl⟩
      have hadvances : Advances (.stepComplete E context input) (before ++ step :: after) (before ++ step' :: after) :=
        .complete (by simpa using hbefore) hpending hstatus happroval
      have hsaved := h.saveStep hids hid happroval
      refine ⟨fun run' hrun => ?_, fun error herror => .inr ⟨_, error, hsaved, hadvances, herror⟩⟩
      obtain ⟨hid, hdefinition⟩ := advanceRun_same hrun
      exact ⟨run', _, hsaved.saveRun hid hdefinition, hadvances, hrun⟩
    · refine .inl ⟨rfl, fun _ before' step' after' hsteps hpending' happroved => ?_⟩
      obtain ⟨hany, -⟩ := reject_eq_error.mp herror
      obtain ⟨earlier, hearlier, hstatus⟩ := any_eq_true.mp hany
      exact of_decide_eq_true hstatus
        (happroved earlier (mem_of_append_eq hsteps (fun b hb heq => hnone b hb (heq ▸ hpending')) hearlier))
  · have hpending' := splitFirst_eq_none.mp (orReject_eq_error.mp herror).1 step (by rw [hsteps]; simp)
    exact absurd hpending (of_decide_eq_false hpending')

theorem RunFiles.approve_meets {input : Json} (hon : (WorkflowCall.approve E context input).On L runId) :
    MovesOn L definition runId (.approve E context input) run steps files (executeApprove L E context input) := by
  simp only [MovesOn, executeApprove, Act.meets_bind, Act.meets_lift]
  refine ⟨fun _ hhuman => ?_, fun error herror => .inl ⟨rfl, fun _ => .inr fun hhuman => ?_⟩⟩
  · refine (h.loadRun_meets hon).mono ?_ fun error files' hfailed =>
      .inl ⟨hfailed.1, fun hready => absurd ⟨hready.named, hready.readable⟩ hfailed.2⟩
    rintro ⟨_, _⟩ _ ⟨heq, rfl⟩
    cases heq
    refine ⟨fun split hsplit => ?_, fun error herror => .inl ⟨rfl, fun _ => .inl fun step hstep hcompleted => ?_⟩⟩
    · obtain ⟨before, step, after⟩ := split
      obtain ⟨rfl, hcompleted, -⟩ := splitFirst_eq_some (orReject_eq_ok.mp hsplit)
      replace hcompleted := of_decide_eq_true hcompleted
      simp only [approve_of_completed hcompleted, Act.meets_update, Act.meets_pure]
      refine ⟨fun step' hstep' => ?_, fun error herror => by cases herror⟩
      cases hstep'
      exact ⟨run, _, h.saveStep hids rfl rfl, .approve (by simpa using hhuman) hcompleted rfl rfl, rfl⟩
    · have hnot := splitFirst_eq_none.mp (orReject_eq_error.mp herror).1 step hstep
      exact absurd hcompleted (of_decide_eq_false hnot)
  · rw [decide_eq_false (not_not.mpr hhuman)] at herror
    cases herror

theorem RunFiles.perform_meets {call : WorkflowCall} (hon : call.On L runId) :
    MovesOn L definition runId call run steps files (call.perform L) := by
  -- whatever the handler does, its schema may refuse the call first
  have hhandle : ∀ {operation execute}, MovesOn L definition runId call run steps files execute →
      MovesOn L definition runId call run steps files (handle call.surroundings operation call.input execute) := by
    intro operation execute hexecute
    simp only [MovesOn, handle, Act.meets_bind, Act.meets_lift, Act.meets_pure]
    refine ⟨fun schema hschema => ⟨fun _ _ => hexecute, fun error herror => .inl ⟨rfl, fun hready => ?_⟩⟩,
      fun error herror => .inl ⟨rfl, fun hready => ?_⟩⟩
    · obtain ⟨schema', hschema', hvalid⟩ := hready.valid
      rw [hschema, Except.ok.injEq] at hschema'
      rw [hschema', hvalid] at herror
      cases herror
    · obtain ⟨schema', hschema', -⟩ := hready.valid
      rw [hschema'] at herror
      cases herror
  cases call with
  | stepComplete E context input => exact hhandle (h.stepComplete_meets hids hon)
  | approve E context input => exact hhandle (h.approve_meets hids hon)

end Executing

end Changing

/-! ### What the calls keep -/

/-- Steps go in order: of any two, the earlier is approved or the later has not begun. -/
structure Staged (steps : List WorkflowStep) : Prop where
  inOrder : steps.Pairwise fun a b => a.status = .approved ∨ b.status = .pending
  awaiting : ∀ step ∈ steps, step.status = .completed → step.requiresApproval = true

/-- The approvals of a workflow with a step before the last one, where the last one needs none. -/
def Unattended (approvals : List Bool) : Prop := 2 ≤ approvals.length ∧ approvals.getLast? = some false

/-- The run is not completed, and has not even begun if its last step needs no approval. -/
structure Stuck (status : WorkflowRunStatus) (approvals : List Bool) : Prop where
  unfinished : status ≠ .completed
  begun : approvals.getLast? = some false → status = .pending

section Keeping
variable {call : WorkflowCall} {run run' : WorkflowRun} {steps steps' : List WorkflowStep} {E : CallSurroundings}

theorem advanceRun_of_approved (hall : ∀ step ∈ steps, step.status = .approved) :
    advanceRun E run steps = asInputError (run.transitionTo .completed E.runTime) := by
  rw [advanceRun, if_pos]
  simpa using hall

theorem advanceRun_of_not_approved (E : CallSurroundings) (run : WorkflowRun)
    (hnot : ¬ ∀ step ∈ steps, step.status = .approved) :
    ∃ run', advanceRun E run steps = .ok run' ∧
      run'.status = if run.status = .pending then .inProgress else run.status := by
  rw [advanceRun, if_neg (by simpa using hnot)]
  split_ifs with hpending
  · rw [WorkflowRun.transitionTo, hpending]
    exact ⟨_, rfl, rfl⟩
  · exact ⟨run, rfl, rfl⟩

theorem Advances.approvals (h : Advances call steps steps') :
    steps'.map requiresApproval = steps.map requiresApproval := by
  cases h with
  | complete _ _ _ happroval | approve _ _ _ happroval => simp [happroval]

theorem Staged.of_changed (h : Staged (before ++ step :: after)) (hbefore : ∀ b ∈ before, b.status = .approved)
    (hafter : ∀ b ∈ after, step'.status = .approved ∨ b.status = .pending)
    (hstep : step'.status = .completed → step'.requiresApproval = true) : Staged (before ++ step' :: after) := by
  obtain ⟨hb, ha, -⟩ := pairwise_append.mp h.inOrder
  refine ⟨pairwise_append.mpr ⟨hb, pairwise_cons.mpr ⟨hafter, (pairwise_cons.mp ha).2⟩,
    fun a ha _ _ => .inl (hbefore a ha)⟩, fun other hother => ?_⟩
  rcases mem_append.mp hother with hmem | hmem
  · exact h.awaiting other (mem_append_left _ hmem)
  · rcases mem_cons.mp hmem with rfl | hmem
    · exact hstep
    · exact h.awaiting other (mem_append_right _ (mem_cons_of_mem _ hmem))

section
variable {step : WorkflowStep} (h : Staged (before ++ step :: after))
include h

theorem Staged.before_approved (hstep : step.status ≠ .pending) : ∀ b ∈ before, b.status = .approved := by
  intro b hb
  exact ((pairwise_append.mp h.inOrder).2.2 b hb step mem_cons_self).resolve_right hstep

theorem Staged.after_pending (hstep : step.status ≠ .approved) : ∀ b ∈ after, b.status = .pending := by
  intro b hb
  exact ((pairwise_cons.mp (pairwise_append.mp h.inOrder).2.1).1 b hb).resolve_left hstep

end

theorem Advances.staged (h : Advances call steps steps') (hstaged : Staged steps) : Staged steps' := by
  cases h with
  | @complete _ _ _ before after step step' hbefore hpending hstatus happroval =>
    refine hstaged.of_changed hbefore (fun b hb => .inr (hstaged.after_pending (by simp [hpending]) b hb)) ?_
    intro hcompleted
    rw [happroval]
    by_contra hnot
    simp [hstatus, hnot] at hcompleted
  | @approve _ _ _ before after step step' _ hcompleted hstatus happroval =>
    refine hstaged.of_changed (hstaged.before_approved (by simp [hcompleted])) (fun _ _ => .inl hstatus) ?_
    simp [hstatus]

theorem Tracked.inProgress_of_mem (happroved : ∃ step ∈ steps, step.status ≠ .approved)
    (hpending : ∃ step ∈ steps, step.status ≠ .pending) : Tracked .inProgress steps := by
  obtain ⟨a, ha, hastatus⟩ := happroved
  obtain ⟨b, hb, hbstatus⟩ := hpending
  have hnotApproved : ¬ ∀ step ∈ steps, step.status = .approved := fun h => hastatus (h a ha)
  have hnotPending : ¬ ∀ step ∈ steps, step.status = .pending := fun h => hbstatus (h b hb)
  exact ⟨iff_of_false (by decide) hnotApproved, iff_of_false (by decide) hnotPending,
    iff_of_true rfl ⟨hnotApproved, hnotPending⟩⟩

/-- Where the last step needs no approval and is not the first one, the run keeps up with its steps. -/
theorem Advances.tracked (h : Advances call steps steps') (hstaged : Staged steps)
    (hends : Unattended (steps.map requiresApproval)) (htracked : Tracked run.status steps) :
    ∃ run', call.settle run steps' = .ok run' ∧ Tracked run'.status steps' := by
  cases h with
  | @complete E _ _ before after step step' hbefore hpending hstatus happroval =>
    have hafter := hstaged.after_pending (by simp [hpending])
    have hbegun : step'.status ≠ .pending := by
      rw [hstatus]
      split_ifs <;> simp
    have hnotCompleted : run.status ≠ .completed := fun hcompleted => by
      simpa [hpending] using htracked.completed.mp hcompleted step (by simp)
    cases after with
    | nil =>
      -- the last step needs no approval, and the ones before it were the beginning of the run
      obtain ⟨hlength, hlast⟩ := hends
      have happroval' : step.requiresApproval = false := by simpa using hlast
      have hne : before ≠ [] := by
        rintro rfl
        simp at hlength
      obtain ⟨first, rest, rfl⟩ := exists_cons_of_ne_nil hne
      have hinProgress : run.status = .inProgress := by
        refine htracked.inProgress.mpr ⟨fun hall => ?_, fun hall => ?_⟩
        · simpa [hpending] using hall step (by simp)
        · simpa [hbefore first (by simp)] using hall first (by simp)
      have hall : ∀ s ∈ (first :: rest) ++ [step'], s.status = .approved := by
        intro s hs
        rcases mem_append.mp hs with hs | hs
        · exact hbefore s hs
        · rw [mem_singleton.mp hs, hstatus, happroval']
          rfl
      refine ⟨{ run with status := .completed, updatedAt := E.runTime }, ?_, ?_⟩
      · rw [WorkflowCall.settle, advanceRun_of_approved hall, WorkflowRun.transitionTo, hinProgress]
        rfl
      · refine ⟨iff_of_true rfl hall, iff_of_false (by simp) fun hpending => ?_,
          iff_of_false (by simp) fun h => h.1 hall⟩
        simpa [hbefore first (by simp)] using hpending first (by simp)
    | cons next rest =>
      have hnext : next.status = .pending := hafter next mem_cons_self
      have hinProgress : Tracked .inProgress (before ++ step' :: next :: rest) :=
        Tracked.inProgress_of_mem ⟨next, by simp, by simp [hnext]⟩ ⟨step', by simp, hbegun⟩
      obtain ⟨run', hrun', hstatus'⟩ := advanceRun_of_not_approved E run
        (hinProgress.inProgress.mp rfl).1
      refine ⟨run', hrun', ?_⟩
      have hmoved : run'.status = .inProgress := by
        rw [hstatus']
        split_ifs with hstart
        · rfl
        · refine htracked.inProgress.mpr ⟨fun hall => ?_, fun hall => hstart (htracked.pending.mpr hall)⟩
          exact hnotCompleted (htracked.completed.mpr hall)
      rw [hmoved]
      exact hinProgress
  | @approve _ _ _ before after step step' _ hcompleted hstatus happroval =>
    have hrequires := hstaged.awaiting step (by simp) hcompleted
    have hafter := hstaged.after_pending (by simp [hcompleted])
    cases after with
    | nil =>
      have hlast := hends.2
      simp [hrequires] at hlast
    | cons next rest =>
      have hnext : next.status = .pending := hafter next mem_cons_self
      have hinProgress : run.status = .inProgress := by
        refine htracked.inProgress.mpr ⟨fun hall => ?_, fun hall => ?_⟩
        · simpa [hcompleted] using hall step (by simp)
        · simpa [hcompleted] using hall step (by simp)
      refine ⟨run, rfl, ?_⟩
      rw [hinProgress]
      exact Tracked.inProgress_of_mem ⟨next, by simp, by simp [hnext]⟩ ⟨step', by simp, by simp [hstatus]⟩

/-- Otherwise no call completes it. -/
theorem Advances.stuck (h : Advances call steps steps') (hstaged : Staged steps)
    (hends : ¬ Unattended (steps.map requiresApproval))
    (hstuck : Stuck run.status (steps.map requiresApproval)) (hrun : call.settle run steps' = .ok run') :
    Stuck run'.status (steps'.map requiresApproval) := by
  rw [h.approvals]
  cases h with
  | @complete E _ _ before after step step' hbefore hpending hstatus happroval =>
    have hafter := hstaged.after_pending (by simp [hpending])
    -- if the last step needs no approval then there is only this one
    have hsingle : ((before ++ step :: after).map requiresApproval).getLast? = some false →
        before = [] ∧ after = [] := by
      intro hlast
      have hlength := not_le.mp fun hlength => hends ⟨hlength, hlast⟩
      simp only [map_append, map_cons, length_append, length_cons, length_map] at hlength
      exact ⟨length_eq_zero_iff.mp (by omega), length_eq_zero_iff.mp (by omega)⟩
    rw [WorkflowCall.settle] at hrun
    by_cases hall : ∀ s ∈ before ++ step' :: after, s.status = .approved
    · obtain rfl : after = [] := by
        refine eq_nil_iff_forall_not_mem.mpr fun s hs => ?_
        have happroved := hall s (by simp [hs])
        simp [hafter s hs] at happroved
      have happroval' : step.requiresApproval = false := by
        have happroved := hall step' (by simp)
        rw [hstatus] at happroved
        by_contra hrequires
        simp [hrequires] at happroved
      have hpendingRun : run.status = .pending := hstuck.begun (by simp [happroval'])
      rw [advanceRun_of_approved hall, WorkflowRun.transitionTo, hpendingRun] at hrun
      cases hrun
    · obtain ⟨_, hrun', hstatus'⟩ := advanceRun_of_not_approved E run hall
      obtain rfl := Except.ok.inj (hrun.symm.trans hrun')
      refine ⟨?_, fun hlast => absurd ?_ hall⟩
      · rw [hstatus']
        split_ifs
        · simp
        · exact hstuck.unfinished
      · obtain ⟨rfl, rfl⟩ := hsingle hlast
        have happroval' : step.requiresApproval = false := by simpa using hlast
        simp [hstatus, happroval']
  | @approve _ _ _ before after step step' _ hcompleted hstatus happroval =>
    cases hrun
    exact hstuck

end Keeping

/-! ### Whole runs -/

section Index
variable {α : Type} {before after : List α} {a a' x x' : α} {i : Nat}

theorem index_of_changed (h : (before ++ a :: after)[i]? = some x) (h' : (before ++ a' :: after)[i]? = some x')
    (hne : x ≠ x') : i = before.length ∧ x = a ∧ x' = a' := by
  rcases lt_trichotomy i before.length with hlt | rfl | hgt
  · rw [List.getElem?_append_left hlt] at h h'
    exact absurd (Option.some.inj (h.symm.trans h')) hne
  · simp only [List.getElem?_append_right le_rfl, Nat.sub_self, List.getElem?_cons_zero, Option.some.injEq] at h h'
    exact ⟨rfl, h.symm, h'.symm⟩
  · obtain ⟨k, hk⟩ : ∃ k, i - before.length = k + 1 := ⟨i - before.length - 1, by omega⟩
    rw [List.getElem?_append_right hgt.le, hk, List.getElem?_cons_succ] at h h'
    exact absurd (Option.some.inj (h.symm.trans h')) hne

end Index

section Runs
variable {L} {call : WorkflowCall} {run run' : WorkflowRun} {steps steps' : List WorkflowStep}
variable {definition : WorkflowDefinition} {runId : Uuid} {files files' start : WorkflowFiles}

section
variable {i : Nat} (h : Advances call steps steps') (hi : steps[i]? = some step) (hi' : steps'[i]? = some step')
include h hi hi'

theorem Advances.earlier_approved (hpending : step.status = .pending)
    (hbegun : step'.status ≠ .pending) : ∀ earlier ∈ steps.take i, earlier.status = .approved := by
  have hne : step ≠ step' := fun heq => hbegun (heq ▸ hpending)
  cases h with
  | complete hbefore _ _ _ =>
    obtain ⟨rfl, -, -⟩ := index_of_changed hi hi' hne
    rw [take_left]
    exact hbefore
  | approve _ hcompleted _ _ =>
    obtain ⟨-, rfl, -⟩ := index_of_changed hi hi' hne
    simp [hpending] at hcompleted

theorem Advances.byHuman (hrequires : step.requiresApproval = true)
    (hopen : step.status ≠ .approved) (happroved : step'.status = .approved) : call.ByHuman := by
  have hne : step ≠ step' := fun heq => hopen (heq ▸ happroved)
  cases h with
  | complete _ _ hstatus _ =>
    obtain ⟨-, rfl, rfl⟩ := index_of_changed hi hi' hne
    simp [hstatus, hrequires] at happroved
  | approve hhuman _ _ _ => exact hhuman

end

theorem RunFiles.unique (h : RunFiles L definition runId files run steps)
    (h' : RunFiles L definition runId files run' steps') : run = run' ∧ steps = steps' := by
  have hrun : run = run' := by simpa [h.stored] using h'.stored
  refine ⟨hrun, ?_⟩
  have hids : steps.map WorkflowStep.id = steps'.map WorkflowStep.id := by
    have hmap := congrArg (List.map Prod.fst) (h.blueprints.trans h'.blueprints.symm)
    simpa only [map_map, comp_def] using hmap
  have hread : ∀ {l : List WorkflowStep}, (∀ step ∈ l, files.steps step.id = some (.ok step)) →
      l.map (fun step => files.steps step.id) = l.map fun step => some (.ok step) :=
    fun hheld => map_congr_left hheld
  have hfiles := congrArg (List.map files.steps) hids
  simp only [map_map, comp_def] at hfiles
  rw [hread h.held, hread h'.held] at hfiles
  exact map_injective_iff.mpr (fun _ _ heq => Except.ok.inj (Option.some.inj heq)) hfiles

/-- What holds of the files after any calls on the run. -/
structure Worked (L : WorkflowLibrary) (definition : WorkflowDefinition) (runId : Uuid) (files : WorkflowFiles)
    (run : WorkflowRun) (steps : List WorkflowStep) : Prop where
  files : RunFiles L definition runId files run steps
  staged : Staged steps
  tracked : Unattended (steps.map requiresApproval) → Tracked run.status steps
  stuck : ¬ Unattended (steps.map requiresApproval) →
    Stuck run.status (steps.map requiresApproval)

theorem Worked.advanced (h : Worked L definition runId files run steps)
    (hfiles : Advanced L definition runId call run steps files') :
    ∃ run' steps', Worked L definition runId files' run' steps' ∧ Advances call steps steps' := by
  obtain ⟨run', steps', hfiles', hadvances, hsettle⟩ := hfiles
  refine ⟨run', steps', ⟨hfiles', hadvances.staged h.staged, fun hends => ?_, fun hends => ?_⟩, hadvances⟩
  · rw [hadvances.approvals] at hends
    obtain ⟨run'', hsettle', htracked⟩ := hadvances.tracked h.staged hends (h.tracked hends)
    obtain rfl := Except.ok.inj (hsettle.symm.trans hsettle')
    exact htracked
  · rw [hadvances.approvals] at hends
    exact hadvances.stuck h.staged hends (h.stuck hends) hsettle

/-- A call that cannot settle the run fails after a step advanced; the definition's end is attended. -/
theorem Worked.stranded (h : Worked L definition runId files run steps)
    (hfiles : Stranded L definition runId call run steps files files') :
    files' = files ∧ (call.Ready L runId → call.Blocked steps) ∨
      ¬ Unattended (steps.map requiresApproval) ∧
        ∃ steps', Worked L definition runId files' run steps' ∧ Advances call steps steps' := by
  rcases hfiles with hsame | ⟨steps', error, hfiles', hadvances, hsettle⟩
  · exact .inl hsame
  · have hends : ¬ Unattended (steps.map requiresApproval) := by
      intro hends
      obtain ⟨run', hsettle', -⟩ := hadvances.tracked h.staged hends (h.tracked hends)
      rw [hsettle] at hsettle'
      cases hsettle'
    refine .inr ⟨hends, steps', ⟨hfiles', hadvances.staged h.staged, fun hends' => ?_, fun _ => ?_⟩, hadvances⟩
    · exact absurd (hadvances.approvals ▸ hends') hends
    · exact hadvances.approvals ▸ h.stuck hends

section Calls
variable (hids : (definition.steps.map fun blueprint => stepId L runId blueprint.key).Nodup)
include hids

theorem Worked.perform (h : Worked L definition runId files run steps) (hon : call.On L runId) :
    ∃ run' steps', Worked L definition runId (call.perform L files).2 run' steps' ∧
      (steps' = steps ∨ Advances call steps steps') := by
  have hmeets := h.files.perform_meets hids hon
  rcases hresult : call.perform L files with ⟨error | output, files'⟩
  · rcases h.stranded (hmeets.of_error hresult) with ⟨rfl, -⟩ | ⟨-, steps', hworked, hadvances⟩
    · exact ⟨run, steps, h, .inl rfl⟩
    · exact ⟨run, steps', hworked, .inr hadvances⟩
  · obtain ⟨run', steps', hworked, hadvances⟩ := h.advanced (hmeets.of_ok hresult)
    exact ⟨run', steps', hworked, .inr hadvances⟩

theorem Worked.reaches (h : Worked L definition runId start run steps) (hreaches : Reaches L runId start files) :
    ∃ run' steps', Worked L definition runId files run' steps' := by
  obtain ⟨calls, hon, rfl⟩ := hreaches
  induction calls generalizing start run steps with
  | nil => exact ⟨run, steps, h⟩
  | cons call calls ih =>
    obtain ⟨run', steps', h', -⟩ := h.perform hids (hon call mem_cons_self)
    exact ih h' fun later hlater => hon later (mem_cons_of_mem _ hlater)

end Calls

end Runs

end ProofPlatform.Domain
