import ProofPlatform.Kernel.AgentRun
import ProofPlatform.Library.History

/-! The lives of runs and steps: what their fields say after any sequence of calls. One edge of each transition table
is open to two methods, of which one does not keep the books. -/
namespace ProofPlatform.Kernel
open Library Library.Fallible List History

/-! ### Runs -/

inductive RunCall where
  | start
  | waitForInput
  | resume
  | succeed
  | fail
  | cancel
  deriving DecidableEq

def RunCall.perform (run : AgentRun) (now : Instant) : RunCall → Except AgentRunError AgentRun
  | .start => run.start now
  | .waitForInput => run.waitForInput now
  | .resume => run.resume now
  | .succeed => run.succeed now
  | .fail => run.fail now
  | .cancel => run.cancel now

def RunCall.target : RunCall → AgentRunStatus
  | .start | .resume => .running
  | .waitForInput => .waitingForInput
  | .succeed => .succeeded
  | .fail => .failed
  | .cancel => .cancelled

/-- By how much the call moves the count of retries. -/
def RunCall.retries (run : AgentRun) : RunCall → Nat
  | .resume => if run.status = .failed then 1 else 0
  | _ => 0

namespace AgentRun

def accept (run : AgentRun) (event : RunCall × Instant) : Option AgentRun := (event.1.perform run event.2).toOption

/-- The run went from failed to running. -/
def revived (move : AgentRun × (RunCall × Instant) × AgentRun) : Bool :=
  move.1.status == .failed && move.2.2.status == .running

/-- What the fields of a run say about the calls it took since it was created. -/
structure Booked (created : AgentRun) (moves : List (AgentRun × (RunCall × Instant) × AgentRun)) (run : AgentRun) :
    Prop where
  retries : run.retryCount = moves.countP revived
  completed : run.completedAt.isSome = run.status.isTerminal
  final : ∀ move ∈ moves, move.1.status ≠ .succeeded ∧ move.1.status ≠ .cancelled
  revision : run.revision = moves.length
  updated : run.updatedAt = (moves.getLast?.map fun move => move.2.1.2).getD created.createdAt

/-- A run was started that had failed. -/
def restarted (move : AgentRun × (RunCall × Instant) × AgentRun) : Bool :=
  move.1.status == .failed && move.2.1.1 == .start

variable {event : RunCall × Instant}

/-- An accepted call is a transition; a resumed run that had failed counts one retry more. -/
theorem accept_eq_some {run next : AgentRun} (h : run.accept event = some next) :
    validTransition run.status (event.1.target) = true ∧ next = { run with
      status := event.1.target
      updatedAt := event.2
      revision := run.revision + 1
      completedAt := if (event.1.target).isTerminal then some event.2 else none
      retryCount := run.retryCount + event.1.retries run } := by
  obtain ⟨call, now⟩ := event
  have hok : call.perform run now = .ok next := toOption_eq_some.mp h
  cases call with
  | resume =>
    simp only [RunCall.perform, resume] at hok
    split at hok
    · rename_i hfailed
      split at hok
      · obtain ⟨hvalid, rfl⟩ := transition_eq_ok.mp hok
        rw [RunCall.retries, if_pos hfailed]
        exact ⟨hvalid, rfl⟩
      · cases hok
    · rename_i hfailed
      obtain ⟨hvalid, rfl⟩ := transition_eq_ok.mp hok
      rw [RunCall.retries, if_neg hfailed]
      exact ⟨hvalid, rfl⟩
  | _ =>
    obtain ⟨hvalid, rfl⟩ := transition_eq_ok.mp hok
    exact ⟨hvalid, rfl⟩

theorem not_final_of_valid {source target : AgentRunStatus} (h : validTransition source target = true) :
    source ≠ .succeeded ∧ source ≠ .cancelled := by
  constructor <;> rintro rfl <;> cases h

/-- Whatever the calls, only the retries may be short, by one for each restart. -/
structure Accounted (created : AgentRun) (moves : List (AgentRun × (RunCall × Instant) × AgentRun)) (run : AgentRun) :
    Prop where
  retries : run.retryCount + moves.countP restarted = moves.countP revived
  rest : Booked created moves { run with retryCount := moves.countP revived }

theorem Accounted.move {created run next : AgentRun} {moves : List (AgentRun × (RunCall × Instant) × AgentRun)}
    (h : Accounted created moves run) (haccept : run.accept event = some next) :
    Accounted created (moves ++ [(run, event, next)]) next := by
  obtain ⟨hvalid, rfl⟩ := accept_eq_some haccept
  refine ⟨?_, rfl, ?_, ?_, ?_, ?_⟩
  · -- a failed run comes to life by a resume, which counts, or by a start, which does not
    obtain ⟨call, now⟩ := event
    simp only [countP_append, countP_singleton, ← h.retries, revived, restarted]
    cases call <;> by_cases hfailed : run.status = .failed <;>
      simp [RunCall.target, RunCall.retries, hfailed] <;> omega
  · simp only
    split <;> simp_all
  · intro move hmove
    rcases mem_append.mp hmove with hmove | hmove
    · exact h.rest.final move hmove
    · rw [mem_singleton.mp hmove]
      exact not_final_of_valid hvalid
  · rw [length_append, length_singleton, ← h.rest.revision]
  · simp

theorem accounted_of_create {id : Uuid} {actor : PrincipalId} {agentId : Option Uuid} {mode : AgentRunMode}
    {goal : String}
    {createdAt : Instant} {created : AgentRun} (hcreated : create id actor agentId mode goal createdAt = .ok created) :
    Accounted created [] created := by
  obtain ⟨-, hcreated⟩ := seq_eq_ok.mp hcreated
  obtain rfl := Except.ok.inj hcreated
  exact ⟨rfl, rfl, rfl, by simp, rfl, rfl⟩

/-- The fields of a run account for its calls exactly as long as no failed run is started again. -/
theorem booked_iff_resumed {id : Uuid} {actor : PrincipalId} {agentId : Option Uuid} {mode : AgentRunMode}
    {goal : String}
    {createdAt : Instant} {created : AgentRun} (hcreated : create id actor agentId mode goal createdAt = .ok created)
    (events : List (RunCall × Instant)) :
    Booked created (moves accept events created) (settle accept events created) ↔
      ∀ move ∈ moves accept events created, move.1.status = .failed → move.2.1.1 ≠ .start := by
  have haccounted : Accounted created (moves accept events created) (settle accept events created) :=
    moves_induction (accounted_of_create hcreated) (fun _ _ _ _ h => h.move) events
  obtain ⟨hcount, hbooked⟩ := haccounted
  have hnone : (moves accept events created).countP restarted = 0 ↔
      ∀ move ∈ moves accept events created, move.1.status = .failed → move.2.1.1 ≠ .start := by
    simp [countP_eq_zero, restarted]
  rw [← hnone]
  constructor
  · intro h
    have hretries := h.retries
    omega
  · intro h
    exact ⟨by omega, hbooked.completed, hbooked.final, hbooked.revision, hbooked.updated⟩

/-- A run that fails and is then brought back. -/
def failingRun : AgentRun := ⟨1, ⟨2⟩, none, .oneShot, "publish", .queued, 0, 0, 0, 0, none⟩

def failThen (call : RunCall) : List (RunCall × Instant) := [(.start, 1), (.fail, 2), (call, 3)]

theorem booked_iff_resumed_retry :
    create 1 ⟨2⟩ none .oneShot "publish" 0 = .ok failingRun ∧
      (Booked failingRun (moves accept (failThen .resume) failingRun) (settle accept (failThen .resume) failingRun) ↔
        ∀ move ∈ moves accept (failThen .resume) failingRun, move.1.status = .failed → move.2.1.1 ≠ .start) := by
  have hcreated : create 1 ⟨2⟩ none .oneShot "publish" 0 = .ok failingRun := by decide
  exact ⟨hcreated, booked_iff_resumed hcreated (failThen .resume)⟩

/-- Started again, the run has left its failure and counts no retry. -/
theorem restart_not_counted :
    (settle accept (failThen .start) failingRun).status = .running ∧
      (settle accept (failThen .start) failingRun).retryCount = 0 ∧
      (moves accept (failThen .start) failingRun).countP revived = 1 := by
  decide

end AgentRun

/-! ### Steps -/

inductive StepCall where
  | start
  | waitForApproval (approvalRequestId : Uuid)
  | resumeFromApproval
  | succeed (output : Json) (proof : Proof)
  | fail (error : String)
  | cancel
  deriving DecidableEq

variable (P : Primitives) (step : AgentRunStep) (now : Instant)

def StepCall.perform : StepCall → Except AgentRunError AgentRunStep
  | .start => step.start now
  | .waitForApproval approvalRequestId => step.waitForApproval approvalRequestId now
  | .resumeFromApproval => step.resumeFromApproval now
  | .succeed output proof => step.succeed P output proof now
  | .fail error => step.fail error now
  | .cancel => step.cancel now

def StepCall.target : StepCall → AgentRunStepStatus
  | .start | .resumeFromApproval => .running
  | .waitForApproval _ => .waitingForApproval
  | .succeed _ _ => .succeeded
  | .fail _ => .failed
  | .cancel => .cancelled

namespace AgentRunStep

/-- The proof is of the operation and version of the step, of its input and of this output. -/
def ProvedBy (output : Json) (proof : Proof) : Prop :=
  proof.body.operation = step.operation ++ "::" ++ step.version ∧ proof.body.inputDigest = step.inputDigest ∧
    ∃ canonical, P.canonicalize output = .ok canonical ∧ proof.body.outputDigest = P.digest .operationOutput canonical

/-- What the fields of a step say about its status. -/
structure WellKept (P : Primitives) (step : AgentRunStep) : Prop where
  started : step.status = .running ∨ step.status = .succeeded → step.startedAt.isSome
  completed : step.completedAt.isSome = step.status.isTerminal
  evidence : step.output.isSome ∧ step.proof.isSome ↔ step.status = .succeeded
  proved : ∀ output ∈ step.output, ∀ proof ∈ step.proof, step.ProvedBy P output proof

def accept (event : StepCall × Instant) : Option AgentRunStep :=
  (event.1.perform P step event.2).toOption

/-- A step along its calls: it is well kept, an approval is waited for until it is resumed or the step ends, a step
that has ended stays as it is, and the revision counts the calls. -/
structure Lived (P : Primitives) (created : AgentRunStep)
    (moves : List (AgentRunStep × (StepCall × Instant) × AgentRunStep)) (step : AgentRunStep) : Prop where
  kept : ∀ met ∈ created :: moves.map fun move => move.2.2, WellKept P met
  waiting : ∀ move ∈ moves, move.1.status = .waitingForApproval →
    move.2.1.1 = .resumeFromApproval ∨ (∃ error, move.2.1.1 = .fail error) ∨ move.2.1.1 = .cancel
  ended : ∀ move ∈ moves, move.1.status.isTerminal = false
  revision : step.revision = moves.length

/-- A step is started while it is pending, and resumed while it waits for an approval. -/
def Fits (move : AgentRunStep × (StepCall × Instant) × AgentRunStep) : Prop :=
  (move.2.1.1 = .start → move.1.status ≠ .waitingForApproval) ∧
    (move.2.1.1 = .resumeFromApproval → move.1.status ≠ .pending)

/-- What an accepted call leaves of the fields. -/
structure Moved (P : Primitives) (step : AgentRunStep) (call : StepCall) (now : Instant) (next : AgentRunStep) :
    Prop where
  valid : validTransition step.status call.target = true
  status : next.status = call.target
  completed : next.completedAt = if call.target.isTerminal then some now else none
  revision : next.revision = step.revision + 1
  named : next.operation = step.operation ∧ next.version = step.version ∧ next.inputDigest = step.inputDigest
  started : next.startedAt = if call = .start then some (step.startedAt.getD now) else step.startedAt
  evidence : match call with
    | .succeed output proof => next.output = some output ∧ next.proof = some proof ∧ next.ProvedBy P output proof
    | _ => next.output = step.output ∧ next.proof = step.proof

variable {event : StepCall × Instant}

theorem accept_moved {P : Primitives} {step next : AgentRunStep}
    (h : step.accept P event = some next) : Moved P step event.1 event.2 next := by
  obtain ⟨call, now⟩ := event
  have hok : call.perform P step now = .ok next := toOption_eq_some.mp h
  cases call with
  | start | fail =>
    obtain ⟨moved, hmoved, hset⟩ := bind_eq_ok.mp hok
    obtain ⟨hvalid, rfl⟩ := transition_eq_ok.mp hmoved
    obtain rfl := Except.ok.inj hset
    exact ⟨hvalid, rfl, rfl, rfl, ⟨rfl, rfl, rfl⟩, rfl, rfl, rfl⟩
  | waitForApproval approvalRequestId =>
    obtain ⟨-, hok⟩ := seq_eq_ok.mp hok
    obtain ⟨moved, hmoved, hset⟩ := bind_eq_ok.mp hok
    obtain ⟨hvalid, rfl⟩ := transition_eq_ok.mp hmoved
    obtain rfl := Except.ok.inj hset
    exact ⟨hvalid, rfl, rfl, rfl, ⟨rfl, rfl, rfl⟩, rfl, rfl, rfl⟩
  | resumeFromApproval | cancel =>
    obtain ⟨hvalid, rfl⟩ := transition_eq_ok.mp hok
    exact ⟨hvalid, rfl, rfl, rfl, ⟨rfl, rfl, rfl⟩, rfl, rfl, rfl⟩
  | succeed output proof =>
    obtain ⟨canonical, hcanonical, hok⟩ := bind_eq_ok.mp hok
    obtain ⟨hmatches, hok⟩ := seq_eq_ok.mp hok
    obtain ⟨moved, hmoved, hset⟩ := bind_eq_ok.mp hok
    obtain ⟨hvalid, rfl⟩ := transition_eq_ok.mp hmoved
    obtain rfl := Except.ok.inj hset
    simp only [reject_eq_ok, Bool.or_eq_false_iff, bne_eq_false_iff_eq] at hmatches
    obtain ⟨⟨hoperation, hinput⟩, houtput⟩ := hmatches
    exact ⟨hvalid, rfl, rfl, rfl, ⟨rfl, rfl, rfl⟩, rfl, rfl, rfl,
      hoperation, hinput, canonical, mapError_eq_ok.mp hcanonical, houtput⟩

/-- What every call keeps: success has its evidence, and a pending step was not started. -/
structure Recorded (P : Primitives) (step : AgentRunStep) : Prop where
  completed : step.completedAt.isSome = step.status.isTerminal
  fresh : step.status = .pending → step.startedAt = none
  empty : step.status ≠ .succeeded → step.output = none ∧ step.proof = none
  proved : step.status = .succeeded → ∃ output proof, step.output = some output ∧ step.proof = some proof ∧
    step.ProvedBy P output proof

/-- The step has its starting time, if it needs one. -/
def Begun : Prop :=
  step.status = .running ∨ step.status = .waitingForApproval ∨ step.status = .succeeded → step.startedAt.isSome

section Moves
variable {P : Primitives} {created step next : AgentRunStep} {call : StepCall} {now : Instant}

theorem Moved.recorded (h : Moved P step call now next) (hstep : Recorded P step) : Recorded P next := by
  have hopen : step.status ≠ .succeeded := by
    intro hsucceeded
    have hvalid := h.valid
    rw [hsucceeded] at hvalid
    cases hvalid
  obtain ⟨houtput, hproof⟩ := hstep.empty hopen
  refine ⟨?_, fun hpending => ?_, fun hnot => ?_, fun hsucceeded => ?_⟩
  · rw [h.completed, h.status]
    split <;> simp_all
  · rw [h.status] at hpending
    cases call <;> cases hpending
  · rw [h.status] at hnot
    have hevidence := h.evidence
    cases call with
    | succeed output proof => exact absurd rfl hnot
    | _ => exact ⟨hevidence.1.trans houtput, hevidence.2.trans hproof⟩
  · rw [h.status] at hsucceeded
    have hevidence := h.evidence
    cases call with
    | succeed output proof => exact ⟨output, proof, hevidence⟩
    | _ => cases hsucceeded

theorem Moved.begun (h : Moved P step call now next) (hstep : Begun step)
    (hfits : call = .resumeFromApproval → step.status ≠ .pending) : Begun next := by
  intro hneeds
  have hvalid := h.valid
  rw [h.started]
  split
  · rfl
  · rename_i hstart
    refine hstep ?_
    -- the call left another status than pending, since only a start or a resume leaves that one for these
    rw [h.status] at hneeds
    cases call <;> cases hstatus : step.status <;> simp_all [StepCall.target, validTransition]

theorem Recorded.wellKept (h : Recorded P step) (hbegun : Begun step) : WellKept P step := by
  refine ⟨fun hneeds => hbegun (hneeds.imp_right .inr), h.completed, ⟨fun hboth => ?_, fun hsucceeded => ?_⟩, ?_⟩
  · by_contra hnot
    rw [(h.empty hnot).1] at hboth
    cases hboth.1
  · obtain ⟨output, proof, houtput, hproof, -⟩ := h.proved hsucceeded
    rw [houtput, hproof]
    exact ⟨rfl, rfl⟩
  · intro output houtput proof hproof
    by_cases hsucceeded : step.status = .succeeded
    · obtain ⟨output', proof', houtput', hproof', hproved⟩ := h.proved hsucceeded
      obtain rfl := Option.some.inj (houtput'.symm.trans houtput)
      obtain rfl := Option.some.inj (hproof'.symm.trans hproof)
      exact hproved
    · rw [(h.empty hsucceeded).1] at houtput
      cases houtput

variable {moves : List (AgentRunStep × (StepCall × Instant) × AgentRunStep)}

/-- What is known of a step after its calls. -/
structure Told (P : Primitives) (created : AgentRunStep)
    (moves : List (AgentRunStep × (StepCall × Instant) × AgentRunStep)) (step : AgentRunStep) : Prop where
  moved : ∀ move ∈ moves, Recorded P move.1 ∧ Moved P move.1 move.2.1.1 move.2.1.2 move.2.2
  recorded : Recorded P created ∧ Recorded P step
  begun : (∀ move ∈ moves, Fits move) → Begun step ∧ ∀ met ∈ created :: moves.map fun move => move.2.2, Begun met
  revision : step.revision = moves.length

section
variable (h : Told P created moves step)
include h

theorem Told.move
    (haccept : step.accept P event = some next) : Told P created (moves ++ [(step, event, next)]) next := by
  have hmoved := accept_moved haccept
  have hrecorded := hmoved.recorded h.recorded.2
  refine ⟨?_, ⟨h.recorded.1, hrecorded⟩, fun hfits => ?_, ?_⟩
  · intro move hmove
    rcases mem_append.mp hmove with hmove | hmove
    · exact h.moved move hmove
    · rw [mem_singleton.mp hmove]
      exact ⟨h.recorded.2, hmoved⟩
  · obtain ⟨hstep, hmet⟩ := h.begun fun move hmove => hfits move (mem_append_left _ hmove)
    have hnext := hmoved.begun hstep (hfits _ (mem_append_right _ (mem_singleton_self _))).2
    refine ⟨hnext, fun met hin => ?_⟩
    rw [map_append, ← cons_append] at hin
    rcases mem_append.mp hin with hin | hin
    · exact hmet met hin
    · rw [mem_singleton.mp hin]
      exact hnext
  · rw [hmoved.revision, h.revision, length_append, length_singleton]

theorem Told.ended : ∀ move ∈ moves, move.1.status.isTerminal = false := by
  intro move hmove
  have hvalid := (h.moved move hmove).2.valid
  cases hstatus : move.1.status <;> simp_all [validTransition, AgentRunStepStatus.isTerminal]

theorem Told.fits (hlived : Lived P created moves step) : ∀ move ∈ moves, Fits move := by
  intro move hmove
  obtain ⟨hrecorded, hmoved⟩ := h.moved move hmove
  refine ⟨fun hstart hwaits => ?_, fun hresume hpending => ?_⟩
  · have hleft := hlived.waiting move hmove hwaits
    simp [hstart] at hleft
  · -- resumed instead of started, the step runs without a starting time
    have hkept := hlived.kept _ (mem_cons_of_mem _ (mem_map_of_mem hmove))
    have hstarted := hkept.started (.inl (by rw [hmoved.status, hresume]; rfl))
    rw [hmoved.started, hresume, if_neg nofun, hrecorded.fresh hpending] at hstarted
    cases hstarted

theorem Told.lived (hfits : ∀ move ∈ moves, Fits move) : Lived P created moves step := by
  refine ⟨fun met hmet => ?_, fun move hmove hwaits => ?_, h.ended, h.revision⟩
  · refine Recorded.wellKept ?_ ((h.begun hfits).2 met hmet)
    rcases mem_cons.mp hmet with rfl | hmet
    · exact h.recorded.1
    · obtain ⟨move, hmove, rfl⟩ := mem_map.mp hmet
      obtain ⟨hrecorded, hmoved⟩ := h.moved move hmove
      exact hmoved.recorded hrecorded
  · have hvalid := (h.moved move hmove).2.valid
    have hstart := (hfits move hmove).1
    rw [hwaits] at hvalid hstart
    cases hcall : move.2.1.1 <;> simp_all [StepCall.target, validTransition]

end

end Moves

/-- A new attempt: a first one, or the retry of one that failed or was cancelled. -/
def Created : Prop :=
  (∃ id runId ordinal operation version input createdAt,
      create P id runId ordinal operation version input createdAt = .ok step) ∨
    ∃ failed id createdAt, retry failed id createdAt = .ok step

theorem Created.told {P : Primitives} {step : AgentRunStep} (h : Created P step) : Told P step [] step := by
  have hnew : step.status = .pending ∧ step.startedAt = none ∧ step.completedAt = none ∧ step.output = none ∧
      step.proof = none ∧ step.revision = 0 := by
    rcases h with ⟨id, runId, ordinal, operation, version, input, createdAt, h⟩ | ⟨failed, id, createdAt, h⟩
    · obtain ⟨-, h⟩ := seq_eq_ok.mp h
      obtain ⟨-, h⟩ := seq_eq_ok.mp h
      obtain ⟨canonical, -, h⟩ := bind_eq_ok.mp h
      obtain rfl := Except.ok.inj h
      exact ⟨rfl, rfl, rfl, rfl, rfl, rfl⟩
    · obtain ⟨-, h⟩ := seq_eq_ok.mp h
      obtain ⟨-, h⟩ := seq_eq_ok.mp h
      obtain rfl := Except.ok.inj h
      exact ⟨rfl, rfl, rfl, rfl, rfl, rfl⟩
  obtain ⟨hstatus, hstarted, hcompleted, houtput, hproof, hrevision⟩ := hnew
  have hrecorded : Recorded P step := by
    refine ⟨by rw [hcompleted, hstatus]; rfl, fun _ => hstarted, fun _ => ⟨houtput, hproof⟩, fun hsucceeded => ?_⟩
    rw [hstatus] at hsucceeded
    cases hsucceeded
  have hbegun : Begun step := by
    rw [Begun, hstatus]
    rintro (hneeds | hneeds | hneeds) <;> cases hneeds
  refine ⟨by simp, ⟨hrecorded, hrecorded⟩, fun _ => ⟨hbegun, fun met hmet => ?_⟩, hrevision⟩
  rw [mem_singleton.mp hmet]
  exact hbegun

/-- A step lives as it should while it is started pending and resumed waiting. -/
theorem lived_iff_fits (P : Primitives) (created : AgentRunStep) (hcreated : Created P created)
    (events : List (StepCall × Instant)) :
    Lived P created (moves (accept P) events created) (settle (accept P) events created) ↔
      ∀ move ∈ moves (accept P) events created, Fits move := by
  have htold : Told P created (moves (accept P) events created) (settle (accept P) events created) :=
    moves_induction hcreated.told (fun _ _ _ _ h => h.move) events
  exact ⟨htold.fits, htold.lived⟩

/-- A second attempt at a call that failed. -/
def secondAttempt : AgentRunStep :=
  ⟨2, 1, 0, 2, some 3, "content.publish", "v1", ⟨0⟩, .pending, none, none, none, none, 0, 5, 5, none, none⟩

def failedAttempt : AgentRunStep :=
  { secondAttempt with id := 3, attempt := 1, retryOf := none, status := .failed, completedAt := some 4 }

def approvedAttempt : List (StepCall × Instant) :=
  [(.start, 6), (.waitForApproval 9, 7), (.resumeFromApproval, 8), (.fail "refused", 9)]

theorem lived_iff_fits_approved :
    failedAttempt.retry 2 5 = .ok secondAttempt ∧
      (Lived unusedPrimitives secondAttempt (moves (accept unusedPrimitives) approvedAttempt secondAttempt)
          (settle (accept unusedPrimitives) approvedAttempt secondAttempt) ↔
        ∀ move ∈ moves (accept unusedPrimitives) approvedAttempt secondAttempt, Fits move) := by
  have hretry : failedAttempt.retry 2 5 = .ok secondAttempt := by decide
  exact ⟨hretry, lived_iff_fits unusedPrimitives secondAttempt (.inr ⟨failedAttempt, 2, 5, hretry⟩) approvedAttempt⟩

/-- Resumed while pending, it runs without a starting time; started while waiting, without a resume. -/
theorem resumed_without_start :
    (settle (accept unusedPrimitives) [(.resumeFromApproval, 6)] secondAttempt).status = .running ∧
      (settle (accept unusedPrimitives) [(.resumeFromApproval, 6)] secondAttempt).startedAt = none ∧
      (moves (accept unusedPrimitives) [(.start, 6), (.waitForApproval 9, 7), (.start, 8)] secondAttempt).map
          (fun move => (move.1.status, move.2.1.1, move.2.2.status)) =
        [(.pending, .start, .running), (.running, .waitForApproval 9, .waitingForApproval),
          (.waitingForApproval, .start, .running)] := by
  decide

end AgentRunStep

end ProofPlatform.Kernel
