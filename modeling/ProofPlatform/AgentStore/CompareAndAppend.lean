import ProofPlatform.AgentStore.StoredCheckpoints
import ProofPlatform.Executor.EntryPoints
import ProofPlatform.Kernel.CanonicalReading

/-! Histories of checkpoint appends, in whatever order the callers race: the laws hold in both stores, and the
stores answer alike. -/
namespace ProofPlatform.AgentStore
open Kernel Executor Library Library.KeyedLog Option
open AgentRows (AgentTables Readers sqliteCheckpoints sqlite_follows checkpointJson runRow)

variable {P : Primitives} {σ τ : Type} {S : CheckpointStore σ} {T : CheckpointStore τ} {s : σ}
variable {calls : List AppendCall}

namespace CheckpointStore

/-- The call at this position was answered `Appended`. -/
def AppendedAt (S : CheckpointStore σ) (calls : List AppendCall) (s : σ) (i : Nat) : Prop :=
  S.answerAt calls s i = some (.ok .appended)

/-- The calls at these positions race: one run, one expected tail, and no candidate twice. -/
structure Racing (calls : List AppendCall) (runId : Uuid) (tail : Option AgentCheckpointTail) (racers : Set Nat) :
    Prop where
  made : ∀ i ∈ racers, ∃ call, calls[i]? = some call ∧ call.checkpoint.runId = runId ∧ call.expectedTail = tail
  distinct : ∀ i ∈ racers, ∀ j ∈ racers,
    calls[i]?.map AppendCall.checkpoint = calls[j]?.map AppendCall.checkpoint → i = j

/-- What callers may rely on, over the history of these calls. -/
structure CompareAndAppend (P : Primitives) (S : CheckpointStore σ) (calls : List AppendCall) (s : σ) : Prop where
  /-- The checkpoints of a run have the sequences 0, 1, 2 and so on. -/
  sequences : ∀ runId,
    (logOf AgentCheckpoint.runId runId (S.checkpoints (S.after calls s))).map AgentCheckpoint.sequence =
      List.range (logOf AgentCheckpoint.runId runId (S.checkpoints (S.after calls s))).length
  digests : ∀ checkpoint ∈ S.checkpoints (S.after calls s), digestMatches P checkpoint = true
  /-- Of the calls in a race at most one is answered `Appended`. -/
  one_winner : ∀ runId tail racers, Racing calls runId tail racers →
    ∀ i ∈ racers, ∀ j ∈ racers, S.AppendedAt calls s i → S.AppendedAt calls s j → i = j
  /-- A race is won if a call finds the expected tail, with a new candidate, in a run that takes it. -/
  winner : ∀ runId tail racers, Racing calls runId tail racers →
    (∃ i ∈ racers, ∃ call, calls[i]? = some call ∧ S.served call ∧ S.accepts (S.after (calls.take i) s) runId ∧
      call.Extends P (S.checkpoints (S.after (calls.take i) s))) →
    ∃! i, i ∈ racers ∧ S.AppendedAt calls s i
  /-- Any other answer leaves the store as it was. -/
  unchanged : ∀ i, i < calls.length → ¬ S.AppendedAt calls s i →
    S.after (calls.take (i + 1)) s = S.after (calls.take i) s
  /-- A retry is answered `Appended` and writes nothing. -/
  retry : ∀ i call, calls[i]? = some call → S.served call → call.Retries (S.checkpoints (S.after (calls.take i) s)) →
    S.AppendedAt calls s i ∧ S.after (calls.take (i + 1)) s = S.after (calls.take i) s

theorem after_take_succ {i : Nat} {call : AppendCall} (hi : calls[i]? = some call) :
    S.after (calls.take (i + 1)) s = (S.append (S.after (calls.take i) s) call).2 := by
  rw [after, History.run, List.take_add_one, hi, List.foldl_append]
  rfl

theorem appendedAt_iff {i : Nat} {call : AppendCall} (hi : calls[i]? = some call) :
    S.AppendedAt calls s i ↔ (S.append (S.after (calls.take i) s) call).1 = .ok .appended := by
  simp [AppendedAt, answerAt, hi]

theorem answerAt_succ (call : AppendCall) (calls : List AppendCall) (s : σ) (i : Nat) :
    S.answerAt (call :: calls) s (i + 1) = S.answerAt calls (S.append s call).2 i := rfl

end CheckpointStore

open CheckpointStore

namespace Follows
variable {call : AppendCall} {calls : List AppendCall}

theorem holds_step (hS : Follows P S) (hread : S.readsBack call) (h : S.Holds P s) : S.Holds P (S.append s call).2 := by
  cases hS.settles s call h hread with
  | failed _ happend | kept _ _ _ happend => rwa [happend]
  | fresh s' hv happend hintact hrows =>
    rw [happend]
    refine ⟨hintact, ?_⟩
    rw [hrows]
    exact h.linear.append (h.linear.verdict_eq_fresh.mp hv)

section Holds
variable (hS : Follows P S) (h : S.Holds P s)
include hS h

theorem holds_after (hread : ∀ call ∈ calls, S.readsBack call) : S.Holds P (S.after calls s) :=
  History.run_invariant (I := S.Holds P) (fun _ call hcall => hS.holds_step (hread call hcall)) h

theorem grows_step (hread : S.readsBack call) : S.checkpoints s ⊆ S.checkpoints (S.append s call).2 := by
  cases hS.settles s call h hread with
  | failed _ happend | kept _ _ _ happend => rw [happend]; exact List.Subset.refl _
  | fresh s' hv happend _ hrows => rw [happend, hrows]; exact List.subset_append_left _ _

theorem grows_after (hread : ∀ call ∈ calls, S.readsBack call) : S.checkpoints s ⊆ S.checkpoints (S.after calls s) :=
  History.run_related (I := S.Holds P) (R := fun s s' => S.checkpoints s ⊆ S.checkpoints s')
    (fun _ call hcall => hS.holds_step (hread call hcall)) (fun _ => List.Subset.refl _)
    (fun _ _ _ => List.Subset.trans)
    (fun _ call hcall h => hS.grows_step h (hread call hcall)) h

theorem mem_of_appended (hread : S.readsBack call) (happended : (S.append s call).1 = .ok .appended) :
    call.wellFormed P = true ∧ call.checkpoint ∈ S.checkpoints (S.append s call).2 := by
  cases hS.settles s call h hread with
  | failed message happend =>
    rw [happend] at happended
    cases happended
  | kept result hv hanswer happend =>
    rw [happend] at happended ⊢
    obtain rfl := Except.ok.inj happended
    have hretried := Verdict.eq_retried hv hanswer
    obtain ⟨hw, hc⟩ := wellFormed_of_verdict (hretried ▸ by decide : verdict P (S.checkpoints s) call ≠ .rejected)
    rw [verdict_of_wellFormed hw hc] at hretried
    split_ifs at hretried with hlast
    exact ⟨hw, (lastOf_mem hlast).1⟩
  | fresh s' hv happend _ hrows =>
    rw [happend, hrows]
    exact ⟨(h.linear.verdict_eq_fresh.mp hv).1, List.mem_append_right _ List.mem_cons_self⟩

section Calls
variable (hread : ∀ call ∈ calls, S.readsBack call)
include hread

theorem holds_take (i : Nat) : S.Holds P (S.after (calls.take i) s) :=
  hS.holds_after h fun call hcall => hread call (List.mem_of_mem_take hcall)

theorem mem_of_appendedAt {i : Nat} (hi : calls[i]? = some call) (happended : S.AppendedAt calls s i) :
    call.wellFormed P = true ∧ call.checkpoint ∈ S.checkpoints (S.after calls s) := by
  obtain ⟨hw, hmem⟩ := hS.mem_of_appended (hS.holds_take h hread i) (hread call (List.mem_of_getElem? hi))
    ((appendedAt_iff hi).mp happended)
  rw [← after_take_succ hi] at hmem
  have hlater : ∀ call ∈ calls.drop (i + 1), S.readsBack call := fun call hcall =>
    hread call (List.mem_of_mem_drop hcall)
  have hgrows := hS.grows_after (hS.holds_take h hread (i + 1)) hlater
  have hsplit : S.after (calls.drop (i + 1)) (S.after (calls.take (i + 1)) s) = S.after calls s := by
    rw [after, after, after, History.run, History.run, ← List.foldl_append, List.take_append_drop]
    rfl
  rw [hsplit] at hgrows
  exact ⟨hw, hgrows hmem⟩

/-- Two winners over the same tail of a run have the same candidate: the place after that tail
holds one checkpoint. -/
theorem same_candidate {i j : Nat} {call' : AppendCall}
    (hi : calls[i]? = some call) (hj : calls[j]? = some call') (hrun : call.checkpoint.runId = call'.checkpoint.runId)
    (htail : call.expectedTail = call'.expectedTail) (happended : S.AppendedAt calls s i)
    (happended' : S.AppendedAt calls s j) : call.checkpoint = call'.checkpoint := by
  obtain ⟨hw, hmem⟩ := hS.mem_of_appendedAt h hread hi happended
  obtain ⟨hw', hmem'⟩ := hS.mem_of_appendedAt h hread hj happended'
  simp only [AppendCall.wellFormed, Bool.and_eq_true, beq_iff_eq] at hw hw'
  have hplace : call.checkpoint.sequence = call'.checkpoint.sequence := by
    have hfollows := hw.2
    rw [htail, hw'.2] at hfollows
    exact (some.inj hfollows).symm
  exact (hS.holds_after h hread).linear.contiguous.eq_of_place hmem hmem' hrun hplace

end Calls

section Call
variable (hread : S.readsBack call)
include hread

theorem answer_eq (hserved : S.served call)
    (haccepts : verdict P (S.checkpoints s) call = .fresh → S.accepts s call.checkpoint.runId) :
    (S.append s call).1.toOption = (verdict P (S.checkpoints s) call).answer := by
  cases hS.settles s call h hread with
  | failed message happend =>
    by_cases hv : verdict P (S.checkpoints s) call = .rejected
    · rw [happend, hv]
      rfl
    · obtain ⟨result, hanswer⟩ := hS.answers s call h hserved haccepts hv
      rw [happend] at hanswer
      cases hanswer
  | kept result _ hanswer happend => rw [happend, hanswer]; rfl
  | fresh s' hv happend => rw [happend, hv]; rfl

theorem appended_of_extends (hserved : S.served call)
    (haccepts : S.accepts s call.checkpoint.runId) (hextends : call.Extends P (S.checkpoints s)) :
    (S.append s call).1 = .ok .appended := by
  have hanswer := hS.answer_eq h hread hserved fun _ => haccepts
  rw [h.linear.verdict_eq_fresh.mpr hextends] at hanswer
  exact Fallible.toOption_eq_some.mp hanswer

theorem appended_of_retries (hserved : S.served call)
    (hretries : call.Retries (S.checkpoints s)) : S.append s call = (.ok .appended, s) := by
  have hv := h.linear.verdict_of_retries hretries
  have hanswer := hS.answer_eq h hread hserved fun hfresh => by rw [hv] at hfresh; cases hfresh
  rw [hv] at hanswer
  have happended := Fallible.toOption_eq_some.mp hanswer
  cases hS.settles s call h hread with
  | failed message happend =>
    rw [happend] at happended
    cases happended
  | kept result _ _ happend =>
    rw [happend] at happended ⊢
    exact congrArg (·, s) happended
  | fresh s' hfresh =>
    rw [hv] at hfresh
    cases hfresh

theorem unchanged_of_not_appended (hnot : (S.append s call).1 ≠ .ok .appended) : (S.append s call).2 = s := by
  cases hS.settles s call h hread with
  | failed _ happend | kept _ _ _ happend => rw [happend]
  | fresh s' _ happend => exact absurd (by rw [happend]) hnot

theorem checkpoints_eq (hserved : S.served call) (haccepts : S.accepts s call.checkpoint.runId) :
    S.checkpoints (S.append s call).2 = S.checkpoints s ++
      if verdict P (S.checkpoints s) call = .fresh then [call.checkpoint] else [] := by
  have hanswer := hS.answer_eq h hread hserved fun _ => haccepts
  cases hS.settles s call h hread with
  | failed message happend =>
    rw [happend] at hanswer ⊢
    rw [if_neg, List.append_nil]
    intro hv
    rw [hv] at hanswer
    cases hanswer
  | kept _ hv _ happend => rw [happend, if_neg hv, List.append_nil]
  | fresh s' hv happend _ hrows => rw [happend, hv]; exact hrows

theorem accepts_step {runId : Uuid} (haccepts : S.accepts s runId) :
    S.accepts (S.append s call).2 runId := by
  cases hS.settles s call h hread with
  | failed _ happend | kept _ _ _ happend => rwa [happend]
  | fresh s' _ happend _ _ hkept => rw [happend]; exact hkept runId haccepts

end Call

/-- A store that follows the verdict keeps the laws of compare-and-append, on candidates that read back. -/
theorem compareAndAppend (hread : ∀ call ∈ calls, S.readsBack call) : CompareAndAppend P S calls s := by
  have hwinner : ∀ runId tail racers, Racing calls runId tail racers →
      ∀ i ∈ racers, ∀ j ∈ racers, S.AppendedAt calls s i → S.AppendedAt calls s j → i = j := by
    intro runId tail racers hrace i hi j hj happended happended'
    obtain ⟨call, hcall, hrun, htail⟩ := hrace.made i hi
    obtain ⟨call', hcall', hrun', htail'⟩ := hrace.made j hj
    refine hrace.distinct i hi j hj ?_
    rw [hcall, hcall', map_some, map_some]
    exact congrArg some (hS.same_candidate h hread hcall hcall' (hrun.trans hrun'.symm) (htail.trans htail'.symm)
      happended happended')
  have hlinear := (hS.holds_after h hread).linear
  have hreadAt {i : Nat} {call : AppendCall} (hcall : calls[i]? = some call) : S.readsBack call :=
    hread call (List.mem_of_getElem? hcall)
  refine ⟨hlinear.contiguous, hlinear.digests, hwinner, ?_, ?_, ?_⟩
  · rintro runId tail racers hrace ⟨i, hi, call, hcall, hserved, haccepts, hextends⟩
    obtain ⟨call', hcall', hrun, -⟩ := hrace.made i hi
    obtain rfl : call = call' := some.inj (hcall.symm.trans hcall')
    subst hrun
    have happended := (appendedAt_iff hcall).mpr
      (hS.appended_of_extends (hS.holds_take h hread i) (hreadAt hcall) hserved haccepts hextends)
    exact ⟨i, ⟨hi, happended⟩, fun j hj => hwinner _ tail racers hrace j hj.1 i hi hj.2 happended⟩
  · intro i hi hnot
    have hcall : calls[i]? = some calls[i] := List.getElem?_eq_getElem hi
    rw [after_take_succ hcall]
    exact hS.unchanged_of_not_appended (hS.holds_take h hread i) (hreadAt hcall) fun happended =>
      hnot ((appendedAt_iff hcall).mpr happended)
  · intro i call hcall hserved hretries
    have happend := hS.appended_of_retries (hS.holds_take h hread i) (hreadAt hcall) hserved hretries
    rw [appendedAt_iff hcall, after_take_succ hcall, happend]
    exact ⟨rfl, rfl⟩

end Holds

/-- Two stores that follow the verdict on the same checkpoints answer alike while they are able to. -/
theorem agree (hS : Follows P S) (hT : Follows P T) {t : τ} (h : S.Holds P s) (h' : T.Holds P t)
    (hrows : S.checkpoints s = T.checkpoints t)
    (hs : ∀ call ∈ calls, S.readsBack call ∧ S.served call ∧ S.accepts s call.checkpoint.runId)
    (ht : ∀ call ∈ calls, T.readsBack call ∧ T.served call ∧ T.accepts t call.checkpoint.runId) (i : Nat) :
    (S.answerAt calls s i).map Except.toOption = (T.answerAt calls t i).map Except.toOption := by
  induction calls generalizing s t i with
  | nil => rfl
  | cons call calls ih =>
    obtain ⟨hread, hserved, haccepts⟩ := hs call List.mem_cons_self
    obtain ⟨hread', hserved', haccepts'⟩ := ht call List.mem_cons_self
    cases i with
    | zero =>
      have hleft := hS.answer_eq h hread hserved fun _ => haccepts
      have hright := hT.answer_eq h' hread' hserved' fun _ => haccepts'
      rw [← hrows, ← hleft] at hright
      exact congrArg some hright.symm
    | succ i =>
      rw [answerAt_succ, answerAt_succ]
      refine ih (hS.holds_step hread h) (hT.holds_step hread' h') ?_ (fun c hc => ?_) (fun c hc => ?_) i
      · rw [hS.checkpoints_eq h hread hserved haccepts, hT.checkpoints_eq h' hread' hserved' haccepts', hrows]
      · obtain ⟨hcread, hcserved, hcaccepts⟩ := hs c (List.mem_cons_of_mem _ hc)
        exact ⟨hcread, hcserved, hS.accepts_step h hread hcaccepts⟩
      · obtain ⟨hcread, hcserved, hcaccepts⟩ := ht c (List.mem_cons_of_mem _ hc)
        exact ⟨hcread, hcserved, hT.accepts_step h' hread' hcaccepts⟩

end Follows

/-- The digest of the checkpoint state `null`. -/
def nullDigest : ContentDigest := ⟨0xbc39b939e8c4731484896deaa7d7211810b23ca172c3575658f0f06885b61823⟩

/-- The digest of 127 arrays around `null`. -/
def deepDigest : ContentDigest := ⟨0x828607240385ab0171e9f1083653b1c4084494f67b219a7cfbc3257134c7db0a⟩

/-- The states written below are `null` and `null` in arrays. -/
def nullPrimitives : Primitives :=
  { keyPrimitives with
    canonicalize := canonicalize noFloats jsonLiterals.quote
    digest := fun _ canonical => if canonical.text = "null" then nullDigest else deepDigest }

def sessionRun (status : AgentRunStatus) : AgentRun :=
  ⟨Uuid.v7 1, ⟨Uuid.v7 2⟩, none, .session, "Publish one preview", status, 0, 1, 0, 0,
    if status.isTerminal then some 0 else none⟩

def runStore (run : AgentRun) : RecordingAgentRunStore := ⟨[run], [], [], []⟩

/-- The only instant below is the epoch. -/
def epochTexts : Trace.TextFormats := ⟨fun _ => "1970-01-01T00:00:00Z", fun _ => "0", fun text => text⟩

def runTables (run : AgentRun) : AgentTables := { AgentTables.empty with runs := [runRow epochTexts run] }

/-- A reader of checkpoints that makes out these and no others. -/
def checkpointReaders (checkpoints : List AgentCheckpoint) : Readers where
  run _ := none
  step _ := none
  checkpoint json := checkpoints.find? fun checkpoint => decide (checkpointJson epochTexts checkpoint = json)
  event _ := none
  claim _ := none

/-- A first checkpoint of the session run, under the identifier given. -/
def firstCheckpoint (id : Nat) : AgentCheckpoint := ⟨Uuid.v7 id, Uuid.v7 1, 0, .null, nullDigest, 0⟩

def firstAppend (id : Nat) : AppendCall := ⟨none, firstCheckpoint id, fun _ => true⟩

/-- The null state in this many arrays. -/
def nested : Nat → Json
  | 0 => .null
  | depth + 1 => .array [nested depth]

/-- With the checkpoint around it, the state is nested one level deeper than the reader goes. -/
def deepAppend : AppendCall :=
  ⟨none, { firstCheckpoint 3 with state := nested 127, stateDigest := deepDigest }, fun _ => true⟩

end ProofPlatform.AgentStore
