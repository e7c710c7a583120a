import ProofPlatform.AgentStore.Recording
import ProofPlatform.Library.History

/-! Compare-and-append of checkpoints: a verdict over those on record, which a store follows. -/
namespace ProofPlatform.AgentStore
open Kernel Executor Library Fallible List KeyedLog Table Bool RecordingAgentRunStore

/-- A call of the append. `engine` says which statements are carried out; memory sends none. -/
structure AppendCall where
  expectedTail : Option AgentCheckpointTail
  checkpoint : AgentCheckpoint
  engine : Nat → Bool

/-- A store as the callers of its append see it. -/
structure CheckpointStore (σ : Type) where
  checkpoints : σ → List AgentCheckpoint
  /-- The checkpoints are stored as they are read. -/
  intact : σ → Prop
  /-- The candidate, once stored, is read as it was written. -/
  readsBack : AppendCall → Prop
  append : σ → AppendCall → Except String AgentCheckpointAppendResult × σ
  /-- The call meets no failure of the engine. -/
  served : AppendCall → Prop
  /-- The run takes further checkpoints. -/
  accepts : σ → Uuid → Prop

variable (P : Primitives)

def recordingCheckpoints : CheckpointStore RecordingAgentRunStore where
  checkpoints := checkpoints
  intact _ := True
  readsBack _ := True
  append store call :=
    match store.appendAgentCheckpoint P call.expectedTail call.checkpoint with
    | .ok (result, store') => (.ok result, store')
    | .error message => (.error message, store)
  served _ := True
  accepts _ _ := True

namespace CheckpointStore
variable {σ : Type} (S : CheckpointStore σ)

/-- The store after these calls. -/
def after (calls : List AppendCall) (s : σ) : σ := History.run (fun s call => (S.append s call).2) calls s

/-- The answer to the call at this position. -/
def answerAt (calls : List AppendCall) (s : σ) (i : Nat) : Option (Except String AgentCheckpointAppendResult) :=
  calls[i]?.map fun call => (S.append (S.after (calls.take i) s) call).1

end CheckpointStore

/-- The digest of a checkpoint is the digest of its state. -/
def digestMatches (checkpoint : AgentCheckpoint) : Bool :=
  match P.canonicalize checkpoint.state with
  | .ok canonical => checkpoint.stateDigest == P.digest .agentCheckpoint canonical
  | .error _ => false

/-- Checkpoints as appends leave them: each run's at the 32-bit sequences 0, 1, 2 and so on, with right digests and
distinct identifiers. -/
structure Linear (rows : List AgentCheckpoint) : Prop where
  contiguous : Contiguous AgentCheckpoint.runId AgentCheckpoint.sequence rows
  digests : ∀ checkpoint ∈ rows, digestMatches P checkpoint = true
  sequences : ∀ checkpoint ∈ rows, checkpoint.sequence < 2 ^ 32
  ids : Keyed AgentCheckpoint.id rows

/-- The store holds such checkpoints, as they are read. -/
structure CheckpointStore.Holds {σ : Type} (S : CheckpointStore σ) (s : σ) : Prop where
  intact : S.intact s
  linear : Linear P (S.checkpoints s)

theorem linear_nil : Linear P [] := ⟨contiguous_nil, by simp, by simp, nodup_nil⟩

variable (rows : List AgentCheckpoint) (runId : Uuid)

/-- The last checkpoint of a run. -/
def lastOf : Option AgentCheckpoint :=
  (logOf AgentCheckpoint.runId runId rows).getLast?

/-- The last checkpoint of a run but one. -/
def beforeLast : Option AgentCheckpoint :=
  (logOf AgentCheckpoint.runId runId rows).dropLast.getLast?

namespace AppendCall
variable (rows : List AgentCheckpoint) (call : AppendCall)

/-- The candidate has the right digest and the sequence after the expected tail. -/
def wellFormed : Bool :=
  digestMatches P call.checkpoint && followingSequence call.expectedTail == some call.checkpoint.sequence

/-- Another checkpoint has the candidate's identifier, or the expected tail is of another run. -/
def clashes : Bool :=
  rows.any (fun stored => decide (stored.id = call.checkpoint.id ∧ stored ≠ call.checkpoint)) ||
    call.expectedTail.any fun tail =>
      rows.any fun stored => decide (stored.id = tail.checkpointId ∧ stored.runId ≠ call.checkpoint.runId)

/-- The candidate is the tail of its run and follows the expected tail there. -/
def Retries : Prop :=
  lastOf rows call.checkpoint.runId = some call.checkpoint ∧
    (beforeLast rows call.checkpoint.runId).map AgentCheckpoint.tail = call.expectedTail

/-- The candidate is well formed and new, and the expected tail is the tail of its run. -/
def Extends : Prop :=
  call.wellFormed P = true ∧ (∀ stored ∈ rows, stored.id ≠ call.checkpoint.id) ∧
    (lastOf rows call.checkpoint.runId).map AgentCheckpoint.tail = call.expectedTail

end AppendCall

inductive Verdict where
  | rejected
  | stale
  | retried
  | fresh
  deriving DecidableEq

/-- What the checkpoints on record say to a call. -/
def verdict (call : AppendCall) : Verdict :=
  if !call.wellFormed P || call.clashes rows then .rejected
  else if lastOf rows call.checkpoint.runId = some call.checkpoint then
    if (beforeLast rows call.checkpoint.runId).map AgentCheckpoint.tail = call.expectedTail then .retried else .stale
  else if (lastOf rows call.checkpoint.runId).map AgentCheckpoint.tail = call.expectedTail then .fresh
  else .stale

def Verdict.answer : Verdict → Option AgentCheckpointAppendResult
  | .rejected => none
  | .stale => some .stale
  | .retried | .fresh => some .appended

/-- The answer to a call that is not rejected. -/
def Verdict.result (v : Verdict) : AgentCheckpointAppendResult := v.answer.getD .stale

theorem Verdict.answer_eq {v : Verdict} (h : v ≠ .rejected) : v.answer = some v.result := by
  cases v with
  | rejected => exact absurd rfl h
  | stale | retried | fresh => rfl

theorem Verdict.eq_retried {v : Verdict} (hv : v ≠ .fresh) (h : v.answer = some .appended) : v = .retried := by
  cases v with
  | retried => rfl
  | fresh => exact absurd rfl hv
  | rejected | stale => cases h

variable {P} {rows : List AgentCheckpoint} {call : AppendCall}
variable {checkpoint : AgentCheckpoint} {runId : Uuid} {expectedTail : Option AgentCheckpointTail}
variable {last : Option AgentCheckpoint}

section Rows

theorem Linear.latest_eq (h : Linear P rows) (runId : Uuid) :
    latest (fun a b => decide (a.sequence ≤ b.sequence)) (logOf AgentCheckpoint.runId runId rows) =
      lastOf rows runId := h.contiguous.latest_eq runId

theorem lastOf_mem {last : AgentCheckpoint} (h : lastOf rows runId = some last) :
    last ∈ rows ∧ last.runId = runId := mem_logOf.mp (mem_of_getLast? h)

theorem Linear.before_eq (h : Linear P rows) (hlast : lastOf rows checkpoint.runId = some checkpoint) :
    (if checkpoint.sequence = 0 then none
      else (logOf AgentCheckpoint.runId checkpoint.runId rows).find? fun existing =>
        decide (existing.sequence = checkpoint.sequence - 1)) = beforeLast rows checkpoint.runId := by
  have hlength := h.contiguous.place_getLast? hlast
  rw [beforeLast, List.getLast?_eq_getElem?, length_dropLast]
  by_cases hzero : checkpoint.sequence = 0
  · have hone : (logOf AgentCheckpoint.runId checkpoint.runId rows).length - 1 = 0 := by omega
    rw [if_pos hzero, hone]
    exact (List.getElem?_eq_none (by rw [length_dropLast]; omega)).symm
  · rw [if_neg hzero, h.contiguous.find?_place, List.getElem?_dropLast, if_pos (by omega)]
    congr 1
    omega

/-- A candidate that follows the tail of its run goes to the end of the run's log. -/
theorem Linear.sequence_eq (h : Linear P rows) (hw : call.wellFormed P = true)
    (htail : (lastOf rows call.checkpoint.runId).map AgentCheckpoint.tail = call.expectedTail) :
    call.checkpoint.sequence = (logOf AgentCheckpoint.runId call.checkpoint.runId rows).length := by
  simp only [AppendCall.wellFormed, and_eq_true, beq_iff_eq] at hw
  have hfollows := hw.2
  rw [← htail] at hfollows
  cases hlast : lastOf rows call.checkpoint.runId with
  | none =>
    rw [hlast] at hfollows
    have hempty : logOf AgentCheckpoint.runId call.checkpoint.runId rows = [] := List.getLast?_eq_none_iff.mp hlast
    rw [hempty]
    exact (Option.some.inj hfollows).symm
  | some last =>
    rw [hlast] at hfollows
    have hlength := h.contiguous.place_getLast? hlast
    simp only [Option.map_some, followingSequence, AgentCheckpoint.tail] at hfollows
    split at hfollows
    · rw [← hlength]
      exact (Option.some.inj hfollows).symm
    · cases hfollows

theorem not_clashes_iff : call.clashes rows = false ↔
    (∀ stored ∈ rows, stored.id = call.checkpoint.id → stored = call.checkpoint) ∧
      ∀ tail, call.expectedTail = some tail → ∀ stored ∈ rows, stored.id = tail.checkpointId →
        stored.runId = call.checkpoint.runId := by
  cases htail : call.expectedTail <;> simp [AppendCall.clashes, htail]

private theorem tail_run (h : Linear P rows)
    (hlast : ∀ c, last = some c → c ∈ rows ∧ c.runId = runId) {tail : AgentCheckpointTail}
    (htail : last.map AgentCheckpoint.tail = some tail) :
    ∀ stored ∈ rows, stored.id = tail.checkpointId → stored.runId = runId := by
  intro stored hstored hid
  obtain ⟨c, hc, rfl⟩ := Option.map_eq_some_iff.mp htail
  obtain ⟨hmem, hrun⟩ := hlast c hc
  rw [h.ids.eq_of_key_eq hstored hmem hid]
  exact hrun

theorem verdict_eq_rejected : verdict P rows call = .rejected ↔ ¬
    (call.wellFormed P = true ∧ call.clashes rows = false) := by
  constructor
  · rintro hv ⟨hw, hc⟩
    simp only [verdict, hw, hc, Bool.not_true, Bool.or_false, Bool.false_eq_true, if_false] at hv
    split_ifs at hv
  · intro hno
    refine if_pos ?_
    cases hw : call.wellFormed P <;> cases hc : call.clashes rows <;> simp_all

theorem wellFormed_of_verdict (hv : verdict P rows call ≠ .rejected) :
    call.wellFormed P = true ∧ call.clashes rows = false := by
  by_contra hno
  exact hv (verdict_eq_rejected.mpr hno)

theorem verdict_of_wellFormed (hw : call.wellFormed P = true) (hc : call.clashes rows = false) :
    verdict P rows call =
      if lastOf rows call.checkpoint.runId = some call.checkpoint then
        if (beforeLast rows call.checkpoint.runId).map AgentCheckpoint.tail = call.expectedTail then .retried
        else .stale
      else if (lastOf rows call.checkpoint.runId).map AgentCheckpoint.tail = call.expectedTail then .fresh
      else .stale := by
  simp [verdict, hw, hc]

/-- A candidate is new just when it extends the log of its run. -/
theorem Linear.verdict_eq_fresh (h : Linear P rows) : verdict P rows call = .fresh ↔ call.Extends P rows := by
  constructor
  · intro hv
    obtain ⟨hw, hc⟩ := wellFormed_of_verdict (hv ▸ by decide : verdict P rows call ≠ .rejected)
    rw [verdict_of_wellFormed hw hc] at hv
    have htail : (lastOf rows call.checkpoint.runId).map AgentCheckpoint.tail = call.expectedTail := by
      split_ifs at hv with _ _ htail
      exact htail
    refine ⟨hw, fun stored hstored hid => ?_, htail⟩
    obtain rfl := (not_clashes_iff.mp hc).1 stored hstored hid
    have hlt := h.contiguous.place_lt hstored
    have hseq := h.sequence_eq hw htail
    omega
  · rintro ⟨hw, hnew, htail⟩
    have hc : call.clashes rows = false := by
      refine not_clashes_iff.mpr ⟨fun stored hstored hid => absurd hid (hnew stored hstored), fun tail he => ?_⟩
      exact tail_run h (fun c => lastOf_mem) (htail.trans he)
    have hlast : lastOf rows call.checkpoint.runId ≠ some call.checkpoint := fun he => hnew _ (lastOf_mem he).1 rfl
    rw [verdict_of_wellFormed hw hc, if_neg hlast, if_pos htail]

theorem beforeLast_mem {c : AgentCheckpoint} (h : beforeLast rows runId = some c) :
    c ∈ rows ∧ c.runId = runId := mem_logOf.mp (dropLast_subset _ (mem_of_getLast? h))

/-- A candidate that is the tail of its run and follows the expected tail is a retry. -/
theorem Linear.verdict_of_retries (h : Linear P rows) (hr : call.Retries rows) : verdict P rows call = .retried := by
  obtain ⟨hlast, hbefore⟩ := hr
  obtain ⟨hmem, -⟩ := lastOf_mem hlast
  have hfollows : followingSequence call.expectedTail = some call.checkpoint.sequence := by
    rw [← hbefore, ← h.before_eq hlast]
    by_cases hzero : call.checkpoint.sequence = 0
    · rw [if_pos hzero, hzero]
      rfl
    · have hlt := h.contiguous.place_lt hmem
      have hbound := h.sequences _ hmem
      obtain ⟨previous, hprevious⟩ : ∃ previous, (logOf AgentCheckpoint.runId call.checkpoint.runId rows)[
          call.checkpoint.sequence - 1]? = some previous := ⟨_, List.getElem?_eq_getElem (by omega)⟩
      have hplace : previous.sequence = call.checkpoint.sequence - 1 := h.contiguous.place_getElem? hprevious
      rw [if_neg hzero, h.contiguous.find?_place, hprevious, Option.map_some]
      have hnext : previous.sequence + 1 = call.checkpoint.sequence := by omega
      simp only [followingSequence, AgentCheckpoint.tail, hnext]
      exact if_pos hbound
  have hw : call.wellFormed P = true := by
    simp [AppendCall.wellFormed, h.digests _ hmem, hfollows]
  have hc : call.clashes rows = false := by
    refine not_clashes_iff.mpr ⟨fun stored hstored hid => h.ids.eq_of_key_eq hstored hmem hid, fun tail he => ?_⟩
    exact tail_run h (fun c => beforeLast_mem) (hbefore.trans he)
  rw [verdict_of_wellFormed hw hc, if_pos hlast, if_pos hbefore]

theorem followingSequence_lt {tail : Option AgentCheckpointTail} {sequence : Nat}
    (h : followingSequence tail = some sequence) : sequence < 2 ^ 32 := by
  unfold followingSequence at h
  split at h
  · split at h
    · rename_i hlt
      exact Option.some.inj h ▸ hlt
    · cases h
  · rw [← Option.some.inj h]
    decide

theorem Linear.append (h : Linear P rows) (he : call.Extends P rows) : Linear P (rows ++ [call.checkpoint]) := by
  obtain ⟨hw, hnew, htail⟩ := he
  have hseq := h.sequence_eq hw htail
  simp only [AppendCall.wellFormed, and_eq_true, beq_iff_eq] at hw
  exact ⟨h.contiguous.append hseq, forall_mem_append.mpr ⟨h.digests, by simpa using hw.1⟩,
    forall_mem_append.mpr ⟨h.sequences, by simpa using followingSequence_lt hw.2⟩, h.ids.append hnew⟩

end Rows

/-- What a call on a store may come to. -/
inductive Settles {σ : Type} (P : Primitives) (S : CheckpointStore σ) (s : σ) (call : AppendCall) : Prop
  | failed (message : String) : S.append s call = (.error message, s) → Settles P S s call
  | kept (result : AgentCheckpointAppendResult) : verdict P (S.checkpoints s) call ≠ .fresh →
      (verdict P (S.checkpoints s) call).answer = some result → S.append s call = (.ok result, s) → Settles P S s call
  | fresh (s' : σ) : verdict P (S.checkpoints s) call = .fresh → S.append s call = (.ok .appended, s') →
      S.intact s' → S.checkpoints s' = S.checkpoints s ++ [call.checkpoint] →
      (∀ runId, S.accepts s runId → S.accepts s' runId) → Settles P S s call

/-- The store does what the verdict says, and fails only where it may. -/
structure Follows {σ : Type} (P : Primitives) (S : CheckpointStore σ) : Prop where
  settles : ∀ s call, S.Holds P s → S.readsBack call → Settles P S s call
  answers : ∀ s call, S.Holds P s → S.served call →
    (verdict P (S.checkpoints s) call = .fresh → S.accepts s call.checkpoint.runId) →
    verdict P (S.checkpoints s) call ≠ .rejected → ∃ result, (S.append s call).1 = .ok result

/-! How the checks of both stores read the checkpoints on record. -/

theorem lookup_any_iff (h : Keyed AgentCheckpoint.id rows) :
    (lookup AgentCheckpoint.id rows checkpoint.id).any (fun existing => existing != checkpoint) = false ↔
      ∀ stored ∈ rows, stored.id = checkpoint.id → stored = checkpoint := by
  constructor
  · intro hany stored hstored hid
    have hfound := h.lookup_of_mem hstored
    rw [hid] at hfound
    simpa [hfound] using hany
  · intro hall
    cases hfound : lookup AgentCheckpoint.id rows checkpoint.id with
    | none => rfl
    | some stored =>
      obtain ⟨hstored, hid⟩ := lookup_eq_some hfound
      simp [hall stored hstored hid]

theorem foreign_iff (h : Keyed AgentCheckpoint.id rows) {tail : AgentCheckpointTail} :
    (∀ stored, lookup AgentCheckpoint.id rows tail.checkpointId = some stored → stored.runId = runId) ↔
      ∀ tail', some tail = some tail' → ∀ stored ∈ rows, stored.id = tail'.checkpointId → stored.runId = runId := by
  constructor
  · rintro hall tail' ⟨⟩ stored hstored hid
    exact hall stored (hid ▸ h.lookup_of_mem hstored)
  · intro hall stored hfound
    obtain ⟨hstored, hid⟩ := lookup_eq_some hfound
    exact hall tail rfl stored hstored hid

/-- A checkpoint with the candidate's tail is the candidate, where identifiers are respected. -/
theorem tail_eq_iff (h : ∀ c, last = some c → c.id = checkpoint.id → c = checkpoint) :
    last.map AgentCheckpoint.tail = some checkpoint.tail ↔ last = some checkpoint := by
  constructor
  · intro htail
    obtain ⟨c, rfl, hc⟩ := Option.map_eq_some_iff.mp htail
    rw [h c rfl (congrArg AgentCheckpointTail.checkpointId hc)]
  · rintro rfl
    rfl

theorem Linear.place_free (h : Linear P rows) (hw : call.wellFormed P = true)
    (htail : (lastOf rows call.checkpoint.runId).map AgentCheckpoint.tail = call.expectedTail) :
    (rows.any fun existing => decide (existing.runId = call.checkpoint.runId ∧
      existing.sequence = call.checkpoint.sequence)) = false := by
  have hseq := h.sequence_eq hw htail
  simp only [any_eq_false, decide_eq_true_eq]
  rintro existing hexisting ⟨hrun, hplace⟩
  have hlt := h.contiguous.place_lt hexisting
  rw [hrun] at hlt
  omega

section Recording

theorem validateAgentCheckpointIntegrity_eq_ok {description : String} :
    validateAgentCheckpointIntegrity P checkpoint description = .ok () ↔ digestMatches P checkpoint = true := by
  unfold validateAgentCheckpointIntegrity digestMatches
  cases P.canonicalize checkpoint.state <;> simp [bind, Except.bind, reject]

theorem Linear.validateStoredIntegrity (h : Linear P rows) (stored : Option AgentCheckpoint)
    (hstored : ∀ c, stored = some c → c ∈ rows) (description : String) :
    validateStoredIntegrity P stored description = .ok () := by
  cases stored with
  | none => rfl
  | some c => exact validateAgentCheckpointIntegrity_eq_ok.mpr (h.digests c (hstored c rfl))

variable {store : RecordingAgentRunStore}

theorem checkExpectedTail_eq_ok (h : Keyed AgentCheckpoint.id store.checkpoints) :
    store.checkExpectedTail expectedTail runId = .ok () ↔ ∀ tail, expectedTail = some tail →
      ∀ stored ∈ store.checkpoints, stored.id = tail.checkpointId → stored.runId = runId := by
  cases expectedTail with
  | none => simp [checkExpectedTail]
  | some tail =>
    rw [← foreign_iff h]
    simp only [checkExpectedTail]
    cases lookup AgentCheckpoint.id store.checkpoints tail.checkpointId <;> simp

theorem recording_append_eq (h : Linear P store.checkpoints) (hv : verdict P store.checkpoints call ≠ .rejected) :
    store.appendAgentCheckpoint P call.expectedTail call.checkpoint = .ok ((verdict P store.checkpoints call).result,
      if verdict P store.checkpoints call = .fresh then
        { store with checkpoints := store.checkpoints ++ [call.checkpoint] }
      else store) := by
  obtain ⟨hw, hc⟩ := wellFormed_of_verdict hv
  have hw' := hw
  simp only [AppendCall.wellFormed, and_eq_true, beq_iff_eq] at hw'
  obtain ⟨hsame, hforeign⟩ := not_clashes_iff.mp hc
  have hcurrent : store.currentCheckpoint call.checkpoint.runId = lastOf store.checkpoints call.checkpoint.runId :=
    h.latest_eq _
  have hstored := h.validateStoredIntegrity (lastOf store.checkpoints call.checkpoint.runId)
    (fun c hl => (lastOf_mem hl).1) "stored current agent checkpoint"
  simp only [RecordingAgentRunStore.appendAgentCheckpoint, validateAgentCheckpointIntegrity_eq_ok.mpr hw'.1, hw'.2,
    (lookup_any_iff h.ids).mpr hsame, (checkExpectedTail_eq_ok h.ids).mpr hforeign, hcurrent, hstored, ok_bind,
    orReject_some, bne_self_eq_false, reject_false, tail_eq_iff (fun c hl => hsame c (lastOf_mem hl).1)]
  by_cases hlast : lastOf store.checkpoints call.checkpoint.runId = some call.checkpoint
  · have hbefore : store.predecessorOf call.checkpoint = beforeLast store.checkpoints call.checkpoint.runId :=
      h.before_eq hlast
    have hvalid := h.validateStoredIntegrity (beforeLast store.checkpoints call.checkpoint.runId)
      (fun c hl => (beforeLast_mem hl).1) "stored predecessor agent checkpoint"
    simp only [verdict_of_wellFormed hw hc, hlast, hbefore, hvalid, ok_bind, if_true, bne_self_eq_false, reject_false]
    split_ifs <;> first | contradiction | rfl
  · rw [verdict_of_wellFormed hw hc, if_neg hlast, if_neg hlast]
    by_cases htail : (lastOf store.checkpoints call.checkpoint.runId).map AgentCheckpoint.tail = call.expectedTail
    · have hfresh : verdict P store.checkpoints call = .fresh := by
        rw [verdict_of_wellFormed hw hc, if_neg hlast, if_pos htail]
      simp only [htail, h.place_free hw htail, if_false, if_true, ne_eq, not_true_eq_false, reject_false, ok_bind,
        put_of_new (h.verdict_eq_fresh.mp hfresh).2.1]
      rfl
    · simp only [htail, if_false, if_true, ne_eq, not_false_eq_true]
      rfl

theorem recording_append_inv (h : Keyed AgentCheckpoint.id store.checkpoints)
    {result : AgentCheckpointAppendResult × RecordingAgentRunStore}
    (hok : store.appendAgentCheckpoint P call.expectedTail call.checkpoint = .ok result) :
    call.wellFormed P = true ∧ call.clashes store.checkpoints = false := by
  simp only [RecordingAgentRunStore.appendAgentCheckpoint, bind_eq_ok, orReject_eq_ok, reject_eq_ok,
    exists_const] at hok
  obtain ⟨⟨⟩, hvalid, sequence, hfollows, hsequence, hsame, ⟨⟩, hforeign, -⟩ := hok
  constructor
  · rw [AppendCall.wellFormed, validateAgentCheckpointIntegrity_eq_ok.mp hvalid, hfollows]
    simpa using Eq.symm (by simpa using hsequence : call.checkpoint.sequence = sequence)
  · exact not_clashes_iff.mpr ⟨(lookup_any_iff h).mp hsame, (checkExpectedTail_eq_ok h).mp hforeign⟩

theorem recording_follows : Follows P (recordingCheckpoints P) where
  settles store call h _ := by
    have hlinear : Linear P store.checkpoints := h.linear
    by_cases hrejected : verdict P store.checkpoints call = .rejected
    · cases happend : store.appendAgentCheckpoint P call.expectedTail call.checkpoint with
      | error message => exact .failed message (by simp [recordingCheckpoints, happend])
      | ok result => exact absurd (recording_append_inv hlinear.ids happend) (verdict_eq_rejected.mp hrejected)
    · have happend := recording_append_eq hlinear hrejected
      by_cases hv : verdict P store.checkpoints call = .fresh
      · rw [hv, if_pos rfl] at happend
        exact .fresh { store with checkpoints := store.checkpoints ++ [call.checkpoint] } hv
          (by simp only [recordingCheckpoints, happend]; rfl) trivial rfl fun _ _ => trivial
      · rw [if_neg hv] at happend
        exact .kept _ hv (Verdict.answer_eq hrejected) (by simp only [recordingCheckpoints, happend])
  answers store call h _ _ hv := by
    have happend := recording_append_eq h.linear hv
    simp only [recordingCheckpoints, happend]
    exact ⟨_, rfl⟩

end Recording

end ProofPlatform.AgentStore
