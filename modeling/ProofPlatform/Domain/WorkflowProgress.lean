import ProofPlatform.Domain.WorkflowRuns

/-! A triggered run can be brought to its end exactly if its definition has a step before the last one and the last one
needs no approval. -/
namespace ProofPlatform.Domain
open Kernel Executor Trace List
open Library.Fallible Library.FallibleState

variable {L : WorkflowLibrary} {definition : WorkflowDefinition} {runId : Uuid} {files files' start : WorkflowFiles}
variable {run run' : WorkflowRun} {steps steps' : List WorkflowStep} {call : WorkflowCall}

/-! ### Triggering -/

theorem foldl_saveStep_frame (steps : List WorkflowStep) (files : WorkflowFiles) :
    (steps.foldl WorkflowFiles.saveStep files).definitions = files.definitions ∧
      (steps.foldl WorkflowFiles.saveStep files).runs = files.runs := by
  induction steps generalizing files with
  | nil => exact ⟨rfl, rfl⟩
  | cons step steps ih => exact ih (files.saveStep step)

theorem foldl_saveStep_of_not_mem {id : Uuid} (h : id ∉ steps.map WorkflowStep.id) (files : WorkflowFiles) :
    (steps.foldl WorkflowFiles.saveStep files).steps id = files.steps id := by
  induction steps generalizing files with
  | nil => rfl
  | cons step steps ih =>
    rw [map_cons, mem_cons, not_or] at h
    rw [foldl_cons, ih h.2]
    exact Function.update_of_ne h.1 _ _

theorem foldl_saveStep_of_mem (hids : (steps.map WorkflowStep.id).Nodup) (files : WorkflowFiles) :
    ∀ step ∈ steps, (steps.foldl WorkflowFiles.saveStep files).steps step.id = some (.ok step) := by
  induction steps generalizing files with
  | nil => simp
  | cons first steps ih =>
    rw [map_cons, nodup_cons] at hids
    intro step hstep
    rcases mem_cons.mp hstep with rfl | hstep
    · rw [foldl_cons, foldl_saveStep_of_not_mem hids.1]
      exact Function.update_self _ _ _
    · exact ih hids.2 (files.saveStep first) step hstep

theorem worked_of_trigger {E : CallSurroundings} {input output : Json}
    (hids : (definition.steps.map fun blueprint => stepId L E.id blueprint.key).Nodup)
    (hnamed : parseId L input "workflow_id" = .ok definition.id)
    (hstored : files.definitions definition.id = some (.ok definition))
    (htriggered : handle E "workflow.trigger" input (executeTrigger L E input) files = (.ok output, start)) :
    ∃ run steps, Worked L definition E.id start run steps := by
  have hnew : ∀ run : WorkflowRun, (definition.steps.map (newStep L definition run)).map WorkflowStep.id =
      definition.steps.map fun blueprint => stepId L run.id blueprint.key := by
    intro run
    simp [newStep, Function.comp_def]
  suffices hmeets : (handle E "workflow.trigger" input (executeTrigger L E input)).Meets files
      (fun _ start => ∃ run steps, Worked L definition E.id start run steps) fun _ _ => True from
    hmeets.of_ok htriggered
  simp only [handle, executeTrigger, Act.meets_bind, Act.meets_lift, Act.meets_current, Act.meets_update,
    Act.meets_pure, implies_true, and_true]
  intro schema _ _ _ id hid definition' hdefinition
  obtain rfl := Except.ok.inj (hnamed.symm.trans hid)
  obtain rfl : definition = definition' := by simpa [hstored] using load_eq_ok hdefinition
  let run := WorkflowRun.new E.id definition.id E.runTime
  have hpending : ∀ step ∈ definition.steps.map (newStep L definition run), step.status = .pending := by
    intro step hstep
    obtain ⟨blueprint, -, rfl⟩ := mem_map.mp hstep
    rfl
  refine ⟨run, definition.steps.map (newStep L definition run), ?_, ?_, fun hends => ?_, fun _ => ?_⟩
  · refine ⟨?_, Function.update_self _ _ _, rfl, rfl, ?_, ?_⟩
    · exact (congrFun (foldl_saveStep_frame _ files).1 _).trans hstored
    · simp [newStep, Function.comp_def, run, WorkflowRun.new]
    · exact foldl_saveStep_of_mem (by rw [hnew]; exact hids) files
  · refine ⟨pairwise_of_forall_mem_list fun _ _ b hb => .inr (hpending b hb), fun step hstep hcompleted => ?_⟩
    simp [hpending step hstep] at hcompleted
  · obtain ⟨first, hfirst⟩ : ∃ first, first ∈ definition.steps.map (newStep L definition run) := by
      refine exists_mem_of_length_pos ?_
      have hlength := hends.1
      rw [length_map] at hlength
      omega
    have hnotApproved : ¬ ∀ step ∈ definition.steps.map (newStep L definition run), step.status = .approved := by
      intro hall
      simpa [hpending first hfirst] using hall first hfirst
    exact ⟨iff_of_false (by simp [run, WorkflowRun.new]) hnotApproved, iff_of_true rfl hpending,
      iff_of_false (by simp [run, WorkflowRun.new]) fun h => h.2 hpending⟩
  · exact ⟨by simp [run, WorkflowRun.new], fun _ => rfl⟩

/-! ### Finishing -/

/-- How many calls the steps are still away from being approved. -/
def WorkflowStepStatus.remaining : WorkflowStepStatus → Nat
  | .pending => 2
  | .completed => 1
  | .approved => 0

def remaining (steps : List WorkflowStep) : Nat := (steps.map fun step => step.status.remaining).sum

theorem Advances.remaining_lt (h : Advances call steps steps') : remaining steps' < remaining steps := by
  have hchanged : ∀ {before after : List WorkflowStep} {step step' : WorkflowStep},
      step'.status.remaining < step.status.remaining →
        remaining (before ++ step' :: after) < remaining (before ++ step :: after) := by
    intro before after step step' hlt
    simp only [remaining, map_append, map_cons, sum_append, sum_cons]
    omega
  cases h with
  | complete _ hpending hstatus _ =>
    apply hchanged
    rw [hpending, hstatus]
    split_ifs <;> decide
  | approve _ hcompleted hstatus _ =>
    apply hchanged
    rw [hcompleted, hstatus]
    decide

/-- Surroundings with the schema that the registry holds for both operations. -/
def readySurroundings : CallSurroundings where
  schema := .ok ⟨["run_id"], ["run_id"], false⟩
  unreadable _ _ := none
  notFound := "No such file or directory (os error 2)"
  id := 0
  stepTime := 0
  runTime := 0

def readyContext : ExecutionContext := ⟨⟨0⟩, some .human, none, none, "/workspace", 0⟩

def runInput (runId : Uuid) : Json := .object [("run_id", jsonUuid runId)]

theorem ready_of_runInput (hparse : L.parseUuid (uuidText runId) = .ok runId)
    (hsurroundings : call.surroundings = readySurroundings) (hinput : call.input = runInput runId) :
    call.Ready L runId ∧ call.On L runId := by
  have hnamed : parseId L call.input "run_id" = .ok runId := by
    rw [hinput]
    exact bind_eq_ok.mpr ⟨uuidText runId, rfl, mapError_eq_ok.mpr hparse⟩
  refine ⟨⟨⟨⟨["run_id"], ["run_id"], false⟩, by rw [hsurroundings]; rfl, by rw [hinput]; rfl⟩, hnamed, ?_⟩, ?_⟩
  · intro kind id
    rw [hsurroundings]
    rfl
  · intro id hid
    exact Except.ok.inj (hid.symm.trans hnamed)

/-- Some call can advance the steps as long as one of them is not approved. -/
theorem exists_not_blocked (runId : Uuid) (hopen : ¬ ∀ step ∈ steps, step.status = .approved) :
    ∃ call : WorkflowCall, call.surroundings = readySurroundings ∧ call.input = runInput runId ∧
      ¬ call.Blocked steps := by
  by_cases hcompleted : ∃ step ∈ steps, step.status = .completed
  · refine ⟨.approve readySurroundings readyContext (runInput runId), rfl, rfl, ?_⟩
    obtain ⟨step, hstep, hstatus⟩ := hcompleted
    rintro (hnone | hnot)
    · exact hnone step hstep hstatus
    · exact hnot rfl
  · refine ⟨.stepComplete readySurroundings readyContext (runInput runId), rfl, rfl, fun hblocked => ?_⟩
    push Not at hcompleted
    cases hsplit : splitFirst (fun step => decide (step.status = .pending)) steps with
    | none =>
      refine hopen fun step hstep => ?_
      have hpending := of_decide_eq_false (splitFirst_eq_none.mp hsplit step hstep)
      cases hstatus : step.status with
      | pending => exact absurd hstatus hpending
      | completed => exact absurd hstatus (hcompleted step hstep)
      | approved => rfl
    | some split =>
      obtain ⟨before, step, after⟩ := split
      obtain ⟨hsteps, hpending, hbefore⟩ := splitFirst_eq_some hsplit
      refine hblocked before step after hsteps (of_decide_eq_true hpending) fun b hb => ?_
      have hnotPending := of_decide_eq_false (hbefore b hb)
      cases hstatus : b.status with
      | pending => exact absurd hstatus hnotPending
      | completed => exact absurd hstatus (hcompleted b (by simp [hsteps, hb]))
      | approved => rfl

section Finishing
variable (hids : (definition.steps.map fun blueprint => stepId L runId blueprint.key).Nodup)
include hids

section
variable (h : Worked L definition runId files run steps) (hends : Unattended (steps.map WorkflowStep.requiresApproval))
include h hends

/-- A call that is ready and not blocked advances a run whose end is unattended. -/
theorem Worked.advances (hready : call.Ready L runId) (hon : call.On L runId) (hfree : ¬ call.Blocked steps) :
    ∃ run' steps', Worked L definition runId (call.perform L files).2 run' steps' ∧ Advances call steps steps' := by
  have hmeets := h.files.perform_meets hids hon
  rcases hresult : call.perform L files with ⟨error | output, files'⟩
  · rcases h.stranded (hmeets.of_error hresult) with ⟨-, hblocked⟩ | ⟨hnot, -⟩
    · exact absurd (hblocked hready) hfree
    · exact absurd hends hnot
  · exact h.advanced (hmeets.of_ok hresult)

theorem Worked.completes
    (hparse : L.parseUuid (uuidText runId) = .ok runId) : ∃ files' run', Reaches L runId files files' ∧
      files'.runs runId = some (.ok run') ∧ run'.status = .completed := by
  induction hn : remaining steps using Nat.strong_induction_on generalizing files run steps with
  | _ n ih =>
    by_cases hall : ∀ step ∈ steps, step.status = .approved
    · exact ⟨files, run, ⟨[], by simp, rfl⟩, h.files.stored, (h.tracked hends).completed.mpr hall⟩
    · obtain ⟨call, hsurroundings, hinput, hfree⟩ := exists_not_blocked runId hall
      obtain ⟨hready, hon⟩ := ready_of_runInput hparse hsurroundings hinput
      obtain ⟨run', steps', h', hadvances⟩ := h.advances hids hends hready hon hfree
      obtain ⟨last, finished, ⟨calls, hcalls, hreached⟩, hrest⟩ :=
        ih (remaining steps') (hn ▸ hadvances.remaining_lt) h' (hadvances.approvals ▸ hends) rfl
      refine ⟨last, finished, ⟨call :: calls, ?_, hreached⟩, hrest⟩
      intro later hlater
      rcases mem_cons.mp hlater with rfl | hlater
      · exact hon
      · exact hcalls later hlater

end

end Finishing

theorem RunFiles.unattended_iff (h : RunFiles L definition runId files run steps) :
    Unattended (steps.map WorkflowStep.requiresApproval) ↔ definition.EndsUnattended := by
  rw [h.approvals, Unattended, length_map]
  rfl

/-- A triggered run keeps up with its steps under every sequence of calls, and can always be completed, exactly if its
definition has a step before the last one and the last one needs no approval. -/
theorem triggered_run_tracks_iff (L : WorkflowLibrary) (definition : WorkflowDefinition) (files start : WorkflowFiles)
    (E : CallSurroundings) (input output : Json)
    (hids : (definition.steps.map fun blueprint => stepId L E.id blueprint.key).Nodup)
    (hparse : L.parseUuid (uuidText E.id) = .ok E.id) (hnamed : parseId L input "workflow_id" = .ok definition.id)
    (hstored : files.definitions definition.id = some (.ok definition))
    (htriggered : handle E "workflow.trigger" input (executeTrigger L E input) files = (.ok output, start)) :
    TracksSteps L definition E.id start ↔ definition.EndsUnattended := by
  obtain ⟨run, steps, hstart⟩ := worked_of_trigger hids hnamed hstored htriggered
  have hworked : ∀ {files}, Reaches L E.id start files → ∃ run steps, Worked L definition E.id files run steps :=
    fun hreaches => hstart.reaches hids hreaches
  constructor
  · intro htracks
    obtain ⟨last, finished, hreaches, hstored, hcompleted⟩ := htracks.completes start ⟨[], by simp, rfl⟩
    obtain ⟨run', steps', h'⟩ := hworked hreaches
    rw [← h'.files.unattended_iff]
    by_contra hends
    have hsame : finished = run' := by simpa [h'.files.stored] using hstored.symm
    exact (h'.stuck hends).unfinished (hsame ▸ hcompleted)
  · intro hends
    have hunattended : ∀ {files run steps}, Worked L definition E.id files run steps →
        Unattended (steps.map WorkflowStep.requiresApproval) := fun h => h.files.unattended_iff.mpr hends
    -- one call leaves the steps as they are or advances them
    have hmoved : ∀ {files call run steps run' steps'}, Reaches L E.id start files → call.On L E.id →
        RunFiles L definition E.id files run steps →
        RunFiles L definition E.id (call.perform L files).2 run' steps' →
          steps' = steps ∨ Advances call steps steps' := by
      intro files call run steps run' steps' hreaches hon hfiles hfiles'
      obtain ⟨_, _, h⟩ := hworked hreaches
      obtain ⟨rfl, rfl⟩ := h.files.unique hfiles
      obtain ⟨_, _, h', hmove⟩ := h.perform hids hon
      obtain ⟨rfl, rfl⟩ := h'.files.unique hfiles'
      exact hmove
    refine ⟨?_, ?_, ?_, ?_, ?_⟩
    · intro files hreaches
      obtain ⟨run', steps', h'⟩ := hworked hreaches
      exact ⟨run', steps', h'.files, h'.tracked (hunattended h')⟩
    · intro files call hreaches hon run steps run' steps' hfiles hfiles' i step step' hi hi' hpending hbegun
      rcases hmoved hreaches hon hfiles hfiles' with rfl | hadvances
      · exact absurd (Option.some.inj (hi.symm.trans hi') ▸ hpending) hbegun
      · exact hadvances.earlier_approved hi hi' hpending hbegun
    · intro files call hreaches hon run steps run' steps' hfiles hfiles' i step step' hi hi' hrequires hopen happroved
      rcases hmoved hreaches hon hfiles hfiles' with rfl | hadvances
      · exact absurd (Option.some.inj (hi.symm.trans hi') ▸ happroved) hopen
      · exact hadvances.byHuman hi hi' hrequires hopen happroved
    · intro files call hreaches hon error files' hfailed
      obtain ⟨run', steps', h'⟩ := hworked hreaches
      rcases h'.stranded ((h'.files.perform_meets hids hon).of_error hfailed) with ⟨hsame, -⟩ | ⟨hnot, -⟩
      · exact hsame
      · exact absurd (hunattended h') hnot
    · intro files hreaches
      obtain ⟨run', steps', h'⟩ := hworked hreaches
      exact h'.completes hids (hunattended h') hparse

/-- Three identifiers are all that is parsed. -/
def workflowLibrary : WorkflowLibrary where
  digests := fnvDigests
  texts := epochFormats
  parseUuid text :=
    match [(1 : Uuid), 2, 3].find? fun id => uuidText id == text with
    | some id => .ok id
    | none => .error "invalid length"

/-- A workflow with steps of these keys and approvals. -/
def sampleWorkflow (steps : List (String × Bool)) : WorkflowDefinition :=
  ⟨1, "Release", "Ship safely", steps.map fun step => ⟨step.1, step.1, step.2⟩, 0, 0⟩

/-- Surroundings in which a run of the workflow is triggered as number 2. -/
def triggerSurroundings : CallSurroundings :=
  { readySurroundings with schema := .ok ⟨["workflow_id"], ["workflow_id"], false⟩, id := 2 }

variable (definition : WorkflowDefinition)

def definedFiles : WorkflowFiles where
  definitions := Function.update (fun _ => none) definition.id (some (.ok definition))
  runs _ := none
  steps _ := none

def triggerInput : Json := .object [("workflow_id", jsonUuid 1)]

def triggerSample : WorkflowM Json :=
  handle triggerSurroundings "workflow.trigger" triggerInput
    (executeTrigger workflowLibrary triggerSurroundings triggerInput)

/-- The files after a run of the workflow was triggered. -/
def triggeredFiles : WorkflowFiles := (triggerSample (definedFiles definition)).2

/-- A review that a human approves and a deployment that ends the run. -/
def reviewedRelease : WorkflowDefinition := sampleWorkflow [("review", true), ("deploy", false)]

theorem reviewed_release_tracks :
    TracksSteps workflowLibrary reviewedRelease 2 (triggeredFiles reviewedRelease) := by
  have hok : (triggerSample (definedFiles reviewedRelease)).1.isOk = true := by decide +kernel
  rcases htriggered : triggerSample (definedFiles reviewedRelease) with ⟨error | output, start⟩
  · rw [htriggered] at hok
    cases hok
  · rw [triggeredFiles, htriggered]
    exact (triggered_run_tracks_iff workflowLibrary _ _ start triggerSurroundings triggerInput output
      (by decide +kernel)
      (by decide +kernel) (by decide +kernel) (by simp [definedFiles]) htriggered).mpr ⟨by decide, by decide⟩

/-- A deployment without a review. -/
def bareDeployment : WorkflowDefinition := sampleWorkflow [("deploy", false)]

def stepCompleteCall : WorkflowCall := .stepComplete readySurroundings readyContext (runInput 2)

def approveCall : WorkflowCall := .approve readySurroundings readyContext (runInput 2)

/-- The stored status of the run and of its steps. -/
def storedStatuses (files : WorkflowFiles) : Option WorkflowRunStatus × List (Option WorkflowStepStatus) :=
  ((files.runs 2).bind fun run => run.toOption.map WorkflowRun.status,
    definition.steps.map fun blueprint => (files.steps (stepId workflowLibrary 2 blueprint.key)).bind fun step =>
      step.toOption.map WorkflowStep.status)

/-- An only step without approval is saved as approved before completing it fails, and the run stays pending. A last
step with approval is approved, and the run stays in progress. -/
theorem finished_runs_not_completed :
    (let start := triggeredFiles bareDeployment;
      (stepCompleteCall.perform workflowLibrary start).1 =
          .error (.handlerFailed "invalid workflow run transition from Pending to completed") ∧
        storedStatuses bareDeployment start = (some .pending, [some .pending]) ∧
        storedStatuses bareDeployment (performAll workflowLibrary [stepCompleteCall] start) =
          (some .pending, [some .approved]) ∧
        ¬ TracksSteps workflowLibrary bareDeployment 2 start) ∧
    let definition := sampleWorkflow [("build", false), ("sign", true)]
    storedStatuses definition (performAll workflowLibrary [stepCompleteCall, stepCompleteCall, approveCall]
      (triggeredFiles definition)) = (some .inProgress, [some .approved, some .approved]) := by
  have hfailed : (stepCompleteCall.perform workflowLibrary (triggeredFiles bareDeployment)).1 =
      .error (.handlerFailed "invalid workflow run transition from Pending to completed") := by decide +kernel
  refine ⟨⟨hfailed, by decide +kernel, by decide +kernel, fun htracks => ?_⟩, by decide +kernel⟩
  have hon : stepCompleteCall.On workflowLibrary 2 := by
    intro id hid
    have hnamed : parseId workflowLibrary stepCompleteCall.input "run_id" = .ok 2 := by decide +kernel
    exact Except.ok.inj (hid.symm.trans hnamed)
  have hresult : stepCompleteCall.perform workflowLibrary (triggeredFiles bareDeployment) =
      (.error (.handlerFailed "invalid workflow run transition from Pending to completed"),
        (stepCompleteCall.perform workflowLibrary (triggeredFiles bareDeployment)).2) := by rw [← hfailed]
  have hsame := htracks.unchanged _ stepCompleteCall ⟨[], by simp, rfl⟩ hon _ _ hresult
  have hstatuses := congrArg (storedStatuses bareDeployment) hsame
  revert hstatuses
  decide +kernel

end ProofPlatform.Domain
