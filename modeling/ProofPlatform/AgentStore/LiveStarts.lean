import ProofPlatform.AgentStore.Checkpoints
import ProofPlatform.AgentStore.Rows
import ProofPlatform.Kernel.Lifecycle

/-! Claims of live starts, and the legal progress of runs between them, in the in-memory store. -/
namespace ProofPlatform.AgentStore
open Kernel Library Fallible List Table
open AgentRows (WriteAnswer)

/-- A claim of a live start. `engine` says which statements are carried out; memory sends none. -/
structure ClaimCall where
  claim : LiveRunStartClaim
  run : AgentRun
  checkpoint : AgentCheckpoint
  event : AgentRunEvent
  engine : Nat → Bool

/-- A claim on record and the claim of a call have a digest in common. -/
abbrev RecordingLiveRunStartClaim.Shares (start : RecordingLiveRunStartClaim) (claim : LiveRunStartClaim) : Prop :=
  start.claim.readinessBindingDigest = claim.readinessBindingDigest ∨ start.claim.setupDigest = claim.setupDigest

/-- The store with the evidence of one more live start. -/
def RecordingAgentRunStore.withStart (store : RecordingAgentRunStore) (call : ClaimCall) : RecordingAgentRunStore where
  runs := store.runs ++ [call.run]
  checkpoints := store.checkpoints ++ [call.checkpoint]
  events := store.events ++ [call.event]
  liveStartClaims := store.liveStartClaims ++ [⟨call.claim, call.run, call.checkpoint.id, call.event.id⟩]

variable (P : Primitives) (parseInstant : String → Option Instant)

/-- The bundle of the call passes validation. -/
def ClaimCall.Valid (call : ClaimCall) : Prop :=
  call.claim.validateInitialBundle P parseInstant call.run call.checkpoint call.event = .ok ()

/-- The call on the in-memory store. -/
abbrev ClaimCall.inMemory (call : ClaimCall) (store : RecordingAgentRunStore) :=
  store.claimLiveRunStart P parseInstant call.claim call.run call.checkpoint call.event

/-- The evidence of the call meets rows that are there. -/
abbrev ClaimCall.clashes (call : ClaimCall) (store : RecordingAgentRunStore) : Bool :=
  store.evidenceConflicts call.run call.checkpoint call.event

/-- The run a claim started is on record, as it was or further on, and so is the rest of its
initial bundle. -/
structure Started (store : RecordingAgentRunStore) (start : RecordingLiveRunStartClaim) : Prop where
  run : ∃ run ∈ store.runs, run.continues start.initialRun = true
  evidence : ∃ checkpoint ∈ store.checkpoints, ∃ event ∈ store.events, checkpoint.id = start.checkpointId ∧
    event.id = start.eventId ∧
    start.claim.validateInitialBundle P parseInstant start.initialRun checkpoint event = .ok ()

/-- The claims on record differ in both digests, and each has what it started with. -/
structure Sound (store : RecordingAgentRunStore) : Prop where
  runs : Keyed AgentRun.id store.runs
  checkpoints : Keyed AgentCheckpoint.id store.checkpoints
  events : Keyed AgentRunEvent.id store.events
  readiness : Keyed (fun start => start.claim.readinessBindingDigest) store.liveStartClaims
  setup : Keyed (fun start => start.claim.setupDigest) store.liveStartClaims
  started : ∀ start ∈ store.liveStartClaims, Started P parseInstant store start

/-- Legal progress between claims: neither the revision of a run nor its time of update falls, and checkpoints and
events are only added. -/
structure Progresses (store store' : RecordingAgentRunStore) : Prop where
  claims : store'.liveStartClaims = store.liveStartClaims
  runs : ∀ run ∈ store.runs, ∃ run' ∈ store'.runs, run'.continues run = true
  checkpoints : store.checkpoints ⊆ store'.checkpoints
  events : store.events ⊆ store'.events
  runIds : Keyed AgentRun.id store'.runs
  checkpointIds : Keyed AgentCheckpoint.id store'.checkpoints
  eventIds : Keyed AgentRunEvent.id store'.events

variable {P parseInstant} {store store' : RecordingAgentRunStore} {start : RecordingLiveRunStartClaim}
  {call : ClaimCall}

section Bundles
variable {claim : LiveRunStartClaim} {run : AgentRun} {checkpoint : AgentCheckpoint} {event : AgentRunEvent}

/-- The fields that are the same in the bundle of every live start. -/
structure InitialBundle (claim : LiveRunStartClaim) (run : AgentRun) (checkpoint : AgentCheckpoint)
    (event : AgentRunEvent) : Prop where
  schema : claim.schema = LiveRunStartClaim.schemaName
  agent : ∃ agent, run.agentId = some agent
  mode : run.mode = .session
  status : run.status = .running
  revision : run.revision = 1
  checkpointRun : checkpoint.runId = run.id
  checkpointFirst : checkpoint.sequence = 0
  eventRun : event.runId = run.id
  eventFirst : event.sequence = 0
  kind : event.kind = .started

theorem initial_of_valid (h : claim.validateInitialBundle P parseInstant run checkpoint event = .ok ()) :
    InitialBundle claim run checkpoint event := by
  simp only [LiveRunStartClaim.validateInitialBundle, bind_eq_ok, reject_eq_ok, exists_const,
    Bool.not_eq_false'] at h
  have hfields := h.1
  simp only [LiveRunStartClaim.fieldsMatch, Bool.and_eq_true, and_assoc, beq_iff_eq] at hfields
  obtain ⟨hschema, -, -, -, hagent, hmode, hstatus, -, hrevision, hfields⟩ := hfields
  obtain ⟨-, -, -, hcrun, hcsequence, -, -, herun, hesequence, hkind, -⟩ := hfields
  obtain ⟨agent, hagent, -⟩ := (Option.any_eq_true _ _).mp hagent
  exact ⟨hschema, ⟨agent, hagent⟩, hmode, hstatus, hrevision, hcrun, hcsequence, herun, hesequence, hkind⟩

theorem claim_ext {claim' : LiveRunStartClaim} (hschema : claim.schema = claim'.schema)
    (hreadiness : claim.readinessBindingDigest = claim'.readinessBindingDigest)
    (hsetup : claim.setupDigest = claim'.setupDigest) : claim = claim' := by
  cases claim
  cases claim'
  cases hschema
  cases hreadiness
  cases hsetup
  rfl

theorem continues_trans {a b c : AgentRun} (hab : a.continues b = true) (hbc : b.continues c = true) :
    a.continues c = true := by
  simp only [AgentRun.continues, Bool.and_eq_true, beq_iff_eq, decide_eq_true_eq] at hab hbc ⊢
  grind

theorem continues_refl (run : AgentRun) : run.continues run = true := by
  simp [AgentRun.continues]

theorem id_of_continues {current initial : AgentRun} (h : current.continues initial = true) :
    current.id = initial.id := by
  simp only [AgentRun.continues, Bool.and_eq_true, beq_iff_eq] at h
  exact h.1.1.1.1.1.1.1

end Bundles

theorem Sound.progresses (h : Sound P parseInstant store) (hp : Progresses store store') :
    Sound P parseInstant store' := by
  refine ⟨hp.runIds, hp.checkpointIds, hp.eventIds, hp.claims ▸ h.readiness, hp.claims ▸ h.setup, ?_⟩
  intro start hstart
  rw [hp.claims] at hstart
  obtain ⟨⟨run, hrun, hcontinues⟩, checkpoint, hcheckpoint, event, hevent, hids⟩ := h.started start hstart
  obtain ⟨run', hrun', hcontinues'⟩ := hp.runs run hrun
  exact ⟨⟨run', hrun', continues_trans hcontinues' hcontinues⟩,
    checkpoint, hp.checkpoints hcheckpoint, event, hp.events hevent, hids⟩

section Claims

/-- Where the claim itself is on record, it is the only one to share a digest with it. -/
theorem Sound.eq_of_shares (h : Sound P parseInstant store) (hstart : start ∈ store.liveStartClaims)
    {other : RecordingLiveRunStartClaim} (hother : other ∈ store.liveStartClaims) (hshares : other.Shares start.claim) :
    other = start := by
  rcases hshares with hreadiness | hsetup
  · exact h.readiness.eq_of_key_eq hother hstart hreadiness
  · exact h.setup.eq_of_key_eq hother hstart hsetup

/-- The starts that share a digest with a claim differ, so one of two is not the claim. -/
theorem Sound.conflict_of_many (h : Sound P parseInstant store) {claim : LiveRunStartClaim}
    {first second : RecordingLiveRunStartClaim} {more : List RecordingLiveRunStartClaim}
    (hfilter : (store.liveStartClaims.filter fun start => decide (start.Shares claim)) = first :: second :: more) :
    ∃ start ∈ store.liveStartClaims, start.Shares claim ∧ start.claim ≠ claim := by
  have hmem (start : RecordingLiveRunStartClaim) (hstart : start ∈ first :: second :: more) :
      start ∈ store.liveStartClaims ∧ start.Shares claim := by
    rw [← hfilter, mem_filter, decide_eq_true_eq] at hstart
    exact hstart
  have hdistinct : first.claim.readinessBindingDigest ≠ second.claim.readinessBindingDigest := by
    have hsub : (first :: second :: more).Sublist store.liveStartClaims := hfilter ▸ filter_sublist
    have hnodup : ((first :: second :: more).map fun start => start.claim.readinessBindingDigest).Nodup :=
      (hsub.map _).nodup h.readiness
    rw [map_cons, map_cons, nodup_cons] at hnodup
    exact fun heq => hnodup.1 (heq ▸ mem_cons_self)
  by_cases heq : first.claim = claim
  · refine ⟨second, (hmem second (by simp)).1, (hmem second (by simp)).2, fun heq' => hdistinct ?_⟩
    rw [heq, heq']
  · exact ⟨first, (hmem first (by simp)).1, (hmem first (by simp)).2, heq⟩

theorem exists_find_shares (hstart : start ∈ store.liveStartClaims) (hshares : start.Shares call.claim) :
    ∃ other ∈ store.liveStartClaims, (store.liveStartClaims.find? fun existing => decide (existing.Shares call.claim)) =
      some other ∧ other.Shares call.claim := by
  cases hfound : store.liveStartClaims.find? fun existing => decide (existing.Shares call.claim) with
  | none => exact absurd hshares (by simpa using List.find?_eq_none.mp hfound start hstart)
  | some other => exact ⟨other, mem_of_find?_eq_some hfound, rfl, by simpa using List.find?_some hfound⟩

theorem clashes_eq_false : call.clashes store = false ↔
    (∀ run ∈ store.runs, run.id ≠ call.run.id) ∧
      (∀ checkpoint ∈ store.checkpoints, ¬ (checkpoint.id = call.checkpoint.id ∨
        checkpoint.runId = call.run.id ∧ checkpoint.sequence = 0)) ∧
      ∀ event ∈ store.events, ¬ (event.id = call.event.id ∨ event.runId = call.run.id ∧ event.sequence = 0) := by
  simp only [RecordingAgentRunStore.evidenceConflicts, Bool.or_eq_false_iff, any_eq_false, decide_eq_true_eq,
    not_or, and_assoc, forall_and]

section
variable (h : Sound P parseInstant store) (hvalid : call.Valid P parseInstant) (hstart : start ∈ store.liveStartClaims)
include h hvalid hstart

theorem Sound.claim_existing (hclaim : start.claim = call.claim) :
    call.inMemory P parseInstant store =
      .ok (.existing start.initialRun.id, store) := by
  have hfind : (store.liveStartClaims.find? fun existing => decide (existing.Shares call.claim)) = some start := by
    obtain ⟨other, hother, hfound, hshares⟩ := exists_find_shares hstart (.inl (congrArg _ hclaim))
    rw [hfound, h.eq_of_shares hstart hother (hclaim ▸ hshares)]
  obtain ⟨⟨run, hrun, hcontinues⟩, checkpoint, hcheckpoint, event, hevent, hcid, heid, hbundle⟩ :=
    h.started start hstart
  have hrunFound := h.runs.lookup_of_mem hrun
  rw [id_of_continues hcontinues] at hrunFound
  have hcheckpointFound := h.checkpoints.lookup_of_mem hcheckpoint
  rw [hcid] at hcheckpointFound
  have heventFound := h.events.lookup_of_mem hevent
  rw [heid] at heventFound
  rw [ClaimCall.Valid] at hvalid
  simp only [RecordingAgentRunStore.claimLiveRunStart, hvalid, hfind, hclaim, hrunFound, hcheckpointFound,
    heventFound, orReject_some, ok_bind]
  rw [hclaim] at hbundle
  simp [hbundle, validateProgressedClaimRun, hcontinues, bind, Except.bind, pure, Except.pure]

theorem Sound.claim_conflict (hshares : start.Shares call.claim) (hclaim : start.claim ≠ call.claim) :
    call.inMemory P parseInstant store = .ok (.conflict, store) := by
  obtain ⟨other, hother, hfound, -⟩ := exists_find_shares hstart hshares
  have hne : other.claim ≠ call.claim := by
    intro heq
    rw [← heq] at hshares
    rw [h.eq_of_shares hother hstart hshares] at hclaim
    exact hclaim heq
  rw [ClaimCall.Valid] at hvalid
  simp only [RecordingAgentRunStore.claimLiveRunStart, hvalid, hfound]
  exact if_pos hne

end

/-- A claim that shares no digest with those on record is taken, unless its evidence meets
rows that are there. -/
theorem claim_new (hvalid : call.Valid P parseInstant)
    (hnew : ∀ start ∈ store.liveStartClaims, ¬ start.Shares call.claim) :
    call.inMemory P parseInstant store =
      if store.evidenceConflicts call.run call.checkpoint call.event then
        .error "live start initial evidence conflicts with existing rows"
      else .ok (.acquired, store.withStart call) := by
  have hnone : (store.liveStartClaims.find? fun existing => decide (existing.Shares call.claim)) = none :=
    List.find?_eq_none.mpr fun start hstart => by simpa using hnew start hstart
  rw [ClaimCall.Valid] at hvalid
  simp only [RecordingAgentRunStore.claimLiveRunStart, hvalid, hnone]
  cases hconflicts : store.evidenceConflicts call.run call.checkpoint call.event with
  | true => rfl
  | false =>
    obtain ⟨hrun, hcheckpoint, hevent⟩ := clashes_eq_false.mp hconflicts
    simp only [not_or, forall_and] at hcheckpoint hevent
    have hclaims : put (fun existing => existing.claim.readinessBindingDigest)
        (⟨call.claim, call.run, call.checkpoint.id, call.event.id⟩ : RecordingLiveRunStartClaim) store.liveStartClaims =
          store.liveStartClaims ++ [⟨call.claim, call.run, call.checkpoint.id, call.event.id⟩] :=
      put_of_new fun existing hexisting heq => hnew existing hexisting (.inl heq)
    simp only [reject_false, put_of_new hrun, put_of_new hcheckpoint.1, put_of_new hevent.1, hclaims]
    rfl

theorem valid_of_ok {answer : LiveRunStartClaimResult × RecordingAgentRunStore}
    (h : call.inMemory P parseInstant store = .ok answer) : call.Valid P parseInstant :=
  mapError_eq_ok.mp (seq_eq_ok.mp h).1

/-- A claim that is answered is new and is taken, or leaves the store as it is. -/
theorem Sound.claim_cases (h : Sound P parseInstant store) {result : LiveRunStartClaimResult}
    (hok : call.inMemory P parseInstant store = .ok (result, store')) :
    (result ≠ .acquired ∧ store' = store) ∨ (result = .acquired ∧ store' = store.withStart call ∧
      (∀ start ∈ store.liveStartClaims, ¬ start.Shares call.claim) ∧ call.clashes store = false) := by
  have hvalid := valid_of_ok hok
  by_cases hshares : ∃ start ∈ store.liveStartClaims, start.Shares call.claim
  · obtain ⟨start, hstart, hshares⟩ := hshares
    by_cases hclaim : start.claim = call.claim
    · cases hok.symm.trans (h.claim_existing hvalid hstart hclaim)
      exact .inl ⟨nofun, rfl⟩
    · cases hok.symm.trans (h.claim_conflict hvalid hstart hshares hclaim)
      exact .inl ⟨nofun, rfl⟩
  · have hnew : ∀ start ∈ store.liveStartClaims, ¬ start.Shares call.claim :=
      fun start hstart hs => hshares ⟨start, hstart, hs⟩
    rw [claim_new hvalid hnew] at hok
    split at hok
    · cases hok
    · rename_i hfree
      cases hok
      exact .inr ⟨rfl, rfl, hnew, by simpa using hfree⟩

theorem Sound.withStart (h : Sound P parseInstant store) (hvalid : call.Valid P parseInstant)
    (hnew : ∀ start ∈ store.liveStartClaims, ¬ start.Shares call.claim) (hconflicts : call.clashes store = false) :
    Sound P parseInstant (store.withStart call) := by
  obtain ⟨hrun, hcheckpoint, hevent⟩ := clashes_eq_false.mp hconflicts
  simp only [not_or, forall_and] at hcheckpoint hevent
  refine ⟨h.runs.append hrun, h.checkpoints.append hcheckpoint.1, h.events.append hevent.1,
    h.readiness.append fun start hstart heq => hnew start hstart (.inl heq),
    h.setup.append fun start hstart heq => hnew start hstart (.inr heq), ?_⟩
  intro start hstart
  rcases mem_append.mp hstart with hold | hlast
  · obtain ⟨⟨run, hmem, hcontinues⟩, checkpoint, hcmem, event, hemem, hids⟩ := h.started start hold
    exact ⟨⟨run, mem_append_left _ hmem, hcontinues⟩,
      checkpoint, mem_append_left _ hcmem, event, mem_append_left _ hemem, hids⟩
  · obtain rfl := mem_singleton.mp hlast
    exact ⟨⟨call.run, mem_append_right _ mem_cons_self, continues_refl _⟩,
      call.checkpoint, mem_append_right _ mem_cons_self, call.event, mem_append_right _ mem_cons_self,
      rfl, rfl, hvalid⟩

end Claims

/-! ### Writes between claims -/

/-- A write to the runs, checkpoints and events of a store. -/
inductive RunWrite where
  | run (run : AgentRun)
  | append (expectedTail : Option AgentCheckpointTail) (checkpoint : AgentCheckpoint)
  | checkpoint (checkpoint : AgentCheckpoint)
  | event (event : AgentRunEvent)

/-- A run is saved as it is, or after one call of its life cycle, not before its last update. -/
def RunWrite.Legal (store : RecordingAgentRunStore) : RunWrite → Prop
  | .run saved => ∀ stored ∈ store.runs, stored.id = saved.id → stored = saved ∨
      ∃ call now, stored.updatedAt ≤ now ∧ RunCall.perform stored now call = .ok saved
  | _ => True

def RunWrite.inMemory (P : Primitives) (store : RecordingAgentRunStore) :
    RunWrite → Except String (WriteAnswer × RecordingAgentRunStore)
  | .run saved => do pure (.done, ← store.saveAgentRun saved)
  | .append expectedTail candidate => do
    let (result, store') ← store.appendAgentCheckpoint P expectedTail candidate
    pure (.append result, store')
  | .checkpoint saved => do pure (.done, ← store.saveAgentCheckpoint saved)
  | .event saved => do pure (.done, ← store.saveAgentRunEvent saved)

/-- The records with what is written. -/
def RunWrite.record (store : RecordingAgentRunStore) : RunWrite → RecordingAgentRunStore
  | .run saved => { store with runs := put AgentRun.id saved store.runs }
  | .append _ saved | .checkpoint saved => { store with checkpoints := put AgentCheckpoint.id saved store.checkpoints }
  | .event saved => { store with events := put AgentRunEvent.id saved store.events }

/-- No other checkpoint or event has the identifier of the one that is written. -/
def RunWrite.Fits (store : RecordingAgentRunStore) : RunWrite → Prop
  | .run _ => True
  | .append _ saved | .checkpoint saved => ∀ stored ∈ store.checkpoints, stored.id = saved.id → stored = saved
  | .event saved => ∀ stored ∈ store.events, stored.id = saved.id → stored = saved

def RunWrite.OnRecord (store : RecordingAgentRunStore) : RunWrite → Prop
  | .run saved => saved ∈ store.runs
  | .append _ saved | .checkpoint saved => saved ∈ store.checkpoints
  | .event saved => saved ∈ store.events

/-- What a write that is accepted leaves. -/
inductive Effect (store : RecordingAgentRunStore) (write : RunWrite) : WriteAnswer → RecordingAgentRunStore → Prop
  | stale : Effect store write (.append .stale) store
  | recorded {answer : WriteAnswer} (hanswer : answer ≠ .append .stale) (hfits : write.Fits store) :
      Effect store write answer (write.record store)

section Writes
variable {write : RunWrite} {answer : WriteAnswer}

/-- Two stores with the same records that accept a write alike have the same records after it. -/
theorem Effect.unique {store'' : RecordingAgentRunStore} (h : Effect store write answer store')
    (h' : Effect store write answer store'') : store' = store'' := by
  cases h with
  | stale =>
    cases h' with
    | stale => rfl
    | recorded hanswer => exact absurd rfl hanswer
  | recorded hanswer =>
    cases h' with
    | stale => exact absurd rfl hanswer
    | recorded => rfl

/-- To write what is on record changes nothing. -/
theorem Effect.of_onRecord (hsound : Sound P parseInstant store) (h : write.OnRecord store)
    (hanswer : answer ≠ .append .stale) : Effect store write answer store := by
  have hsame : write.record store = store ∧ write.Fits store := by
    cases write with
    | run saved => exact ⟨by rw [RunWrite.record, hsound.runs.put_of_mem h], trivial⟩
    | append _ saved | checkpoint saved =>
      exact ⟨by rw [RunWrite.record, hsound.checkpoints.put_of_mem h],
        fun stored hstored hid => hsound.checkpoints.eq_of_key_eq hstored h hid⟩
    | event saved =>
      exact ⟨by rw [RunWrite.record, hsound.events.put_of_mem h],
        fun stored hstored hid => hsound.events.eq_of_key_eq hstored h hid⟩
  have heffect := Effect.recorded hanswer hsame.2
  rwa [hsame.1] at heffect

/-- A call of the life cycle at a later time leaves the run the one it was. -/
theorem continues_of_perform {run next : AgentRun} {call : RunCall} {now : Instant} (hlater : run.updatedAt ≤ now)
    (h : RunCall.perform run now call = .ok next) : next.continues run = true := by
  have haccept : run.accept (call, now) = some next := toOption_eq_some.mpr h
  obtain ⟨-, rfl⟩ := AgentRun.accept_eq_some haccept
  simp [AgentRun.continues, hlater]

theorem RunWrite.Legal.continues {run stored : AgentRun} (h : (RunWrite.run run).Legal store)
    (hstored : stored ∈ store.runs) (hid : stored.id = run.id) : run.continues stored = true := by
  rcases h stored hstored hid with rfl | ⟨call, now, hlater, hperform⟩
  · exact continues_refl stored
  · exact continues_of_perform hlater hperform

theorem subset_put {α : Type} {id : α → Uuid} {record : α} {records : List α}
    (hsame : ∀ stored ∈ records, id stored = id record → stored = record) : records ⊆ put id record records := by
  intro stored hstored
  by_cases hid : id stored = id record
  · exact mem_put.mpr (.inr (hsame stored hstored hid))
  · exact mem_put.mpr (.inl ⟨hstored, hid⟩)

/-- Legal writes are progress. -/
theorem Effect.progresses (h : Effect store write answer store') (hlegal : write.Legal store)
    (hsound : Sound P parseInstant store) : Progresses store store' := by
  have hkept : Progresses store store :=
    ⟨rfl, fun run hrun => ⟨run, hrun, continues_refl run⟩, List.Subset.refl _, List.Subset.refl _, hsound.runs,
      hsound.checkpoints, hsound.events⟩
  cases h with
  | stale => exact hkept
  | recorded _ hfits =>
    cases write with
    | append _ saved | checkpoint saved =>
      exact { hkept with checkpoints := subset_put hfits, checkpointIds := hsound.checkpoints.put _ }
    | event saved => exact { hkept with events := subset_put hfits, eventIds := hsound.events.put _ }
    | run saved =>
      refine { hkept with runs := fun stored hstored => ?_, runIds := hsound.runs.put _ }
      by_cases hid : stored.id = saved.id
      · exact ⟨saved, mem_put.mpr (.inr rfl), hlegal.continues hstored hid⟩
      · exact ⟨stored, mem_put.mpr (.inl ⟨hstored, hid⟩), continues_refl stored⟩

theorem saveOnce_eq_ok {α : Type} [DecidableEq α] {id : α → Uuid} {record : α} {name : String}
    {records records' : List α} (hkeyed : Keyed id records) (h : saveOnce id record name records = .ok records') :
    records' = put id record records ∧ ∀ stored ∈ records, id stored = id record → stored = record := by
  unfold saveOnce at h
  split at h
  · rename_i existing hfound
    obtain ⟨hmem, -⟩ := lookup_eq_some hfound
    split at h
    · rename_i hrecord
      obtain rfl := Except.ok.inj h
      rw [hrecord] at hmem
      exact ⟨(hkeyed.put_of_mem hmem).symm, fun stored hstored hid => hkeyed.eq_of_key_eq hstored hmem hid⟩
    · cases h
  · rename_i hnone
    exact ⟨(Except.ok.inj h).symm, fun stored hstored hid => absurd hid (lookup_eq_none.mp hnone stored hstored)⟩

theorem effect_saveAgentRun {run : AgentRun} (hsound : Sound P parseInstant store)
    (h : store.saveAgentRun run = .ok store') : Effect store (.run run) .done store' := by
  unfold RecordingAgentRunStore.saveAgentRun at h
  split at h
  · rename_i existing hfound
    split at h
    · rename_i hsame
      obtain rfl := Except.ok.inj h
      exact .of_onRecord hsound (hsame ▸ (lookup_eq_some hfound).1 : run ∈ store.runs) (by simp)
    · exact (ite_eq_ok.mp h).2 ▸ .recorded (by simp) trivial
  · exact (ite_eq_ok.mp h).2 ▸ .recorded (by simp) trivial

theorem effect_append {expectedTail : Option AgentCheckpointTail} {checkpoint : AgentCheckpoint}
    {result : AgentCheckpointAppendResult} (hsound : Sound P parseInstant store)
    (h : store.appendAgentCheckpoint P expectedTail checkpoint = .ok (result, store')) :
    Effect store (.append expectedTail checkpoint) (.append result) store' := by
  simp only [RecordingAgentRunStore.appendAgentCheckpoint, bind_eq_ok, orReject_eq_ok, reject_eq_ok, exists_const] at h
  obtain ⟨⟨⟩, -, -, -, -, hlookup, ⟨⟩, -, ⟨⟩, -, h⟩ := h
  split at h
  · simp only [bind_eq_ok, reject_eq_ok, exists_const, bne_eq_false_iff_eq] at h
    obtain ⟨⟨⟩, -, hcurrent, hanswer⟩ := h
    have hmem : checkpoint ∈ store.checkpoints := (KeyedLog.mem_logOf.mp (mem_of_latest hcurrent)).1
    obtain ⟨hresult, rfl⟩ := Prod.mk.inj (Except.ok.inj hanswer)
    subst hresult
    split
    · exact .of_onRecord hsound hmem (by simp)
    · exact .stale
  · split at h
    · obtain ⟨rfl, rfl⟩ := Prod.mk.inj (Except.ok.inj h)
      exact .stale
    · simp only [bind_eq_ok, reject_eq_ok, exists_const] at h
      obtain ⟨rfl, rfl⟩ := Prod.mk.inj (Except.ok.inj h.2)
      exact .recorded (by simp) ((lookup_any_iff hsound.checkpoints).mp hlookup)

/-- What the in-memory store does between claims is such an effect. -/
theorem effect_inMemory (hsound : Sound P parseInstant store) (h : write.inMemory P store = .ok (answer, store')) :
    Effect store write answer store' := by
  cases write with
  | append expectedTail checkpoint =>
    obtain ⟨⟨result, appended⟩, happended, hanswer⟩ := bind_eq_ok.mp h
    obtain ⟨rfl, rfl⟩ := Prod.mk.inj (Except.ok.inj hanswer)
    exact effect_append hsound happended
  | run saved =>
    obtain ⟨_, hsaved, hanswer⟩ := bind_eq_ok.mp h
    obtain ⟨rfl, rfl⟩ := Prod.mk.inj (Except.ok.inj hanswer)
    exact effect_saveAgentRun hsound hsaved
  | checkpoint saved =>
    obtain ⟨_, hsaved, hanswer⟩ := bind_eq_ok.mp h
    obtain ⟨checkpoints, honce, hstore⟩ := bind_eq_ok.mp (seq_eq_ok.mp hsaved).2
    obtain ⟨rfl, hfits⟩ := saveOnce_eq_ok hsound.checkpoints honce
    obtain ⟨rfl, rfl⟩ := Prod.mk.inj (Except.ok.inj hanswer)
    exact Except.ok.inj hstore ▸ .recorded (by simp) hfits
  | event saved =>
    obtain ⟨_, hsaved, hanswer⟩ := bind_eq_ok.mp h
    obtain ⟨events, honce, hstore⟩ := bind_eq_ok.mp (seq_eq_ok.mp hsaved).2
    obtain ⟨rfl, hfits⟩ := saveOnce_eq_ok hsound.events honce
    obtain ⟨rfl, rfl⟩ := Prod.mk.inj (Except.ok.inj hanswer)
    exact Except.ok.inj hstore ▸ .recorded (by simp) hfits

end Writes
end ProofPlatform.AgentStore
