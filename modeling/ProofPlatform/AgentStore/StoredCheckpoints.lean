import ProofPlatform.AgentStore.Checkpoints
import ProofPlatform.AgentStore.ReadBack

/-! Compare-and-append in the SQLite store: on rows that read back, it follows the verdict. -/
namespace ProofPlatform.AgentRows
open Kernel Executor Library Fallible List KeyedLog Transaction Tx Statements Table Bool
open Trace AgentStore

/-- The run has a row, is not governed and its trace is not sealed. -/
def AgentTables.Accepts (t : AgentTables) (runId : Uuid) : Prop :=
  (∃ run ∈ t.runs, run.id = runId) ∧ t.governedRuns.contains runId = false ∧ ¬ t.Sealed runId

instance (t : AgentTables) (runId : Uuid) : Decidable (t.Accepts runId) := inferInstanceAs (Decidable (_ ∧ _ ∧ _))

def sqliteCheckpoints (P : Primitives) (T : TextFormats) (R : Readers) : CheckpointStore AgentTables where
  checkpoints t := (t.view R).checkpoints
  intact t := t.CheckpointsReadBack T R
  readsBack call := R.checkpoint (checkpointJson T call.checkpoint) = some call.checkpoint
  append t call :=
    let out := appendAgentCheckpoint P T R call.expectedTail call.checkpoint call.engine t 0
    (out.result.mapError StorageError.message, out.state)
  served call := ∀ n, call.engine n = true
  accepts := AgentTables.Accepts

variable {P : Primitives} {T : TextFormats} {R : Readers} {o : Nat → Bool} {t t' : AgentTables} {n n' : Nat}
variable {checkpoint : AgentCheckpoint} {runId : Uuid} {expectedTail : Option AgentCheckpointTail} {call : AppendCall}
  {p : Prop} {result : AgentCheckpointAppendResult}

theorem serializeValidatedCheckpoint_eq_ok {description : String} :
    serializeValidatedCheckpoint P checkpoint description = .ok () ↔ digestMatches P checkpoint = true := by
  unfold serializeValidatedCheckpoint digestMatches
  cases P.canonicalize checkpoint.state <;> simp [bind, Except.bind, reject]

variable {query : AgentTables → Option CheckpointRow} {expectedRunId : Option Uuid}

/-- The row of a checkpoint that reads back, with the right digest, is accepted as that checkpoint. -/
theorem validateStoredCheckpoint_row
    (hread : R.checkpoint (checkpointJson T checkpoint) = some checkpoint) (hsequence : checkpoint.sequence < 2 ^ 32)
    (hdigest : digestMatches P checkpoint = true) (hrun : ∀ runId ∈ expectedRunId, checkpoint.runId = runId) :
    validateStoredCheckpoint P T R (checkpointRow T checkpoint) expectedRunId = .ok checkpoint := by
  have hexpected : (expectedRunId.any (· != checkpoint.runId)) = false := by
    cases expectedRunId with
    | none => rfl
    | some runId => simp [hrun runId rfl]
  have hrange : decide (2 ^ 32 ≤ checkpoint.sequence) = false := by simpa using hsequence
  have hserialize : serializeValidatedCheckpoint P checkpoint "stored agent checkpoint" = .ok () :=
    serializeValidatedCheckpoint_eq_ok.mpr hdigest
  simp only [validateStoredCheckpoint, hserialize, show (checkpointRow T checkpoint).checkpointJson =
    checkpointJson T checkpoint from rfl, hread, orReject_some, ok_bind, show (checkpointRow T checkpoint).sequence =
    checkpoint.sequence from rfl, hrange, reject_false, bne_self_eq_false, show (checkpointRow T checkpoint).runId =
    checkpoint.runId from rfl, hexpected, Bool.or_false]
  rfl

theorem yields_conflictIf {condition : Bool} (h : condition = false) (message : String) :
    YieldsIf p (conflictIf condition message) o t () t := by
  subst h
  exact yields_lift rfl

theorem yields_loadStored {row : CheckpointRow} (hrow : query t = some row)
    (hread : validateStoredCheckpoint P T R row expectedRunId = .ok checkpoint) :
    YieldsIf p (loadStoredCheckpoint P T R query expectedRunId) o t (some checkpoint) t := by
  refine yields_bind (yields_select _) ?_
  rw [hrow]
  exact yields_bind (yields_lift hread) (yields_pure _)

theorem yields_loadNone (hrow : query t = none) :
    YieldsIf p (loadStoredCheckpoint P T R query expectedRunId) o t none t := by
  refine yields_bind (yields_select _) ?_
  rw [hrow]
  exact yields_pure none

theorem yields_rejectTail (h : ∀ tail ∈ expectedTail, ∀ row ∈ t.checkpoint? tail.checkpointId, row.runId = runId) :
    YieldsIf p (rejectExpectedTailFromAnotherRun expectedTail runId) o t () t := by
  cases expectedTail with
  | none => exact yields_pure ()
  | some tail =>
    refine yields_bind (yields_select _) ?_
    cases hrow : t.checkpoint? tail.checkpointId with
    | none => exact yields_pure ()
    | some row => exact yields_conflictIf (by simp [h tail rfl row hrow]) _

/-- What an append comes to, once its checks have passed. -/
theorem yields_append {current stored : Option AgentCheckpoint} (hdigest : digestMatches P checkpoint = true)
    (hfollows : followingSequence expectedTail = some checkpoint.sequence)
    (hcurrent : YieldsIf p (loadStoredCheckpoint P T R (fun t => t.currentCheckpoint checkpoint.runId)
      (some checkpoint.runId)) o t current t)
    (hstored : YieldsIf p (loadStoredCheckpoint P T R (fun t => t.checkpoint? checkpoint.id) none) o t stored t)
    (hsame : stored.any (fun existing => existing != checkpoint) = false)
    (htail : ∀ tail ∈ expectedTail, ∀ row ∈ t.checkpoint? tail.checkpointId, row.runId = checkpoint.runId)
    (h : YieldsIf p (settleAppend P T R expectedTail checkpoint current) o t result t') :
    YieldsIf p (appendAgentCheckpoint P T R expectedTail checkpoint) o t result t' := by
  refine yields_bind (yields_lift (serializeValidatedCheckpoint_eq_ok.mpr hdigest)) ?_
  refine yields_bind (a := checkpoint.sequence) (yields_lift (by rw [hfollows]; rfl)) ?_
  refine yields_bind (yields_conflictIf (by simp) _) (yields_atomically (yields_bind yields_statement ?_))
  refine yields_bind hcurrent (yields_bind hstored (yields_bind (yields_conflictIf hsame _) ?_))
  exact yields_bind (yields_rejectTail htail) h

section ReadBack
variable (hback : t.CheckpointsReadBack T R) (h : Linear P (t.view R).checkpoints)
include hback h

theorem validateStoredCheckpoint_of_mem (hmem : checkpoint ∈ (t.view R).checkpoints)
    (hrun : ∀ runId ∈ expectedRunId, checkpoint.runId = runId) :
    validateStoredCheckpoint P T R (checkpointRow T checkpoint) expectedRunId = .ok checkpoint :=
  validateStoredCheckpoint_row (hback.decode_of_mem hmem) (h.sequences _ hmem) (h.digests _ hmem) hrun

theorem yields_loadOf {found : Option AgentCheckpoint} (hquery : query t = found.map (checkpointRow T))
    (hmem : ∀ c, found = some c → c ∈ (t.view R).checkpoints ∧ ∀ runId ∈ expectedRunId, c.runId = runId) :
    YieldsIf p (loadStoredCheckpoint P T R query expectedRunId) o t found t := by
  cases found with
  | none => exact yields_loadNone hquery
  | some c => exact yields_loadStored hquery (validateStoredCheckpoint_of_mem hback h (hmem c rfl).1 (hmem c rfl).2)

theorem yields_loadCurrent :
    YieldsIf p (loadStoredCheckpoint P T R (fun t => t.currentCheckpoint runId) (some runId)) o t
      (lastOf (t.view R).checkpoints runId) t := by
  refine yields_loadOf hback h ?_ fun c hc => ?_
  · rw [currentCheckpoint_eq hback, h.latest_eq]
  · obtain ⟨hmem, hrun⟩ := lastOf_mem hc
    exact ⟨hmem, fun _ hrunId => hrun.trans (Option.some.inj hrunId)⟩

theorem yields_loadById {id : Uuid} : YieldsIf p (loadStoredCheckpoint P T R (fun t => t.checkpoint? id) none) o t
    (lookup AgentCheckpoint.id (t.view R).checkpoints id) t :=
  yields_loadOf hback h (checkpoint?_eq hback id) fun _ hc => ⟨(lookup_eq_some hc).1, fun _ hnone => nomatch hnone⟩

theorem yields_loadPredecessor (hlast : lastOf (t.view R).checkpoints checkpoint.runId = some checkpoint) :
    YieldsIf p (loadPredecessor P T R checkpoint) o t (beforeLast (t.view R).checkpoints checkpoint.runId) t := by
  rw [← h.before_eq hlast]
  unfold loadPredecessor
  by_cases hzero : checkpoint.sequence = 0
  · rw [if_pos hzero, if_pos hzero]
    exact yields_pure none
  · rw [if_neg hzero, if_neg hzero]
    refine yields_loadOf hback h (checkpointAt_eq hback _ _) fun c hc => ?_
    obtain ⟨hmem, hrun⟩ := mem_logOf.mp (mem_of_find?_eq_some hc)
    exact ⟨hmem, fun _ hrunId => hrun.trans (Option.some.inj hrunId)⟩

/-- The check of the expected tail passes if the row of its identifier is the run's own. -/
theorem tail_own_iff : (∀ tail ∈ expectedTail, ∀ row ∈ t.checkpoint? tail.checkpointId, row.runId = runId) ↔
    ∀ tail, expectedTail = some tail → ∀ stored ∈ (t.view R).checkpoints, stored.id = tail.checkpointId →
      stored.runId = runId := by
  refine forall₂_congr fun tail _ => ?_
  rw [checkpoint?_eq hback]
  constructor
  · intro hall stored hstored hid
    exact hall _ (by rw [← hid, h.ids.lookup_of_mem hstored]; rfl)
  · intro hall row hrow
    obtain ⟨stored, hfound, rfl⟩ := Option.map_eq_some_iff.mp hrow
    exact hall stored (lookup_eq_some hfound).1 (lookup_eq_some hfound).2

omit h in
theorem yields_writeCheckpoint (haccepts : t.Accepts checkpoint.runId)
    (hnew : ∀ stored ∈ (t.view R).checkpoints, stored.id ≠ checkpoint.id)
    (hfree : ((t.view R).checkpoints.any fun existing => decide (existing.runId = checkpoint.runId ∧
      existing.sequence = checkpoint.sequence)) = false) :
    Yields (do
        rejectCheckpointIdentityConflicts checkpoint
        writeCheckpoint T checkpoint
        pure AgentCheckpointAppendResult.appended) o t .appended
      { t with checkpoints := t.checkpoints ++ [checkpointRow T checkpoint] } := by
  obtain ⟨hrun, hgoverned, hopen⟩ := haccepts
  obtain ⟨hterminal, hcancelled⟩ := not_or.mp hopen
  have hclash : t.checkpointClash checkpoint = none := by
    rw [checkpointClash_eq hback, List.find?_eq_none.mpr, Option.map_none]
    intro stored hstored
    have hplace := any_eq_false.mp hfree stored hstored
    simp only [decide_eq_true_eq] at hplace ⊢
    exact not_or.mpr ⟨hnew stored hstored, hplace⟩
  have hidentity : Yields (rejectCheckpointIdentityConflicts checkpoint) o t () t := by
    refine yields_bind (yields_select _) ?_
    rw [hclash]
    exact yields_pure ()
  have hoperator : Yields (rejectIfOperatorGovernedRun checkpoint.runId "append a checkpoint") o t () t :=
    yields_bind (yields_select _) (yields_conflictIf hgoverned _)
  have hsealed : Yields (rejectIfAgentTraceSealed checkpoint.runId "append a checkpoint") o t () t := by
    refine yields_bind (yields_select _) ?_
    rw [not_not.mp hterminal]
    exact yields_bind (yields_select _) (yields_conflictIf (by simpa using hcancelled) _)
  have hconstraint : checkpointConstraint (checkpointRow T checkpoint) t = true := by
    simp only [checkpointConstraint, Bool.and_eq_true, Bool.not_eq_true', any_eq_true, any_eq_false, decide_eq_true_eq]
    exact ⟨hrun, by simpa [AgentTables.checkpointClash, checkpointRow] using hclash⟩
  have hwrite : Yields (writeCheckpoint T checkpoint) o t () _ :=
    yields_bind hoperator (yields_bind hsealed (yields_bind (yields_execute hconstraint rfl) yields_statement))
  exact yields_bind hidentity (yields_bind hwrite (yields_pure _))

/-- The end of an append follows the verdict, if the run takes a fresh checkpoint. -/
theorem yields_settleAppend (hw : call.wellFormed P = true) (hc : call.clashes (t.view R).checkpoints = false) :
    let v := verdict P (t.view R).checkpoints call
    YieldsIf (v = .fresh → t.Accepts call.checkpoint.runId) (settleAppend P T R call.expectedTail call.checkpoint
      (lastOf (t.view R).checkpoints call.checkpoint.runId)) o t v.result (if v = .fresh then
        { t with checkpoints := t.checkpoints ++ [checkpointRow T call.checkpoint] } else t) := by
  intro v
  have hv : v = _ := verdict_of_wellFormed hw hc
  simp only [settleAppend, tail_eq_iff fun c hl => (not_clashes_iff.mp hc).1 c (lastOf_mem hl).1]
  by_cases hlast : lastOf (t.view R).checkpoints call.checkpoint.runId = some call.checkpoint
  · rw [if_pos hlast] at hv ⊢
    refine yields_bind (yields_loadPredecessor hback h hlast) (yields_bind yields_statement ?_)
    by_cases hbefore : (beforeLast (t.view R).checkpoints call.checkpoint.runId).map AgentCheckpoint.tail =
        call.expectedTail
    · rw [hv, if_pos hbefore, if_pos ⟨hlast, hbefore⟩]
      exact yields_pure _
    · rw [hv, if_neg hbefore, if_neg fun hboth => hbefore hboth.2]
      exact yields_pure _
  · rw [if_neg hlast] at hv ⊢
    by_cases htail : (lastOf (t.view R).checkpoints call.checkpoint.runId).map AgentCheckpoint.tail = call.expectedTail
    · have hfresh : v = .fresh := hv.trans (if_pos htail)
      rw [hfresh, if_neg (not_not.mpr htail)]
      refine yieldsIf_of_returns (fun n result t' n' hr => ?_) fun haccepts ho => ?_
      · obtain ⟨_, n₂, -, hr⟩ := (readOnly_rejectCheckpointIdentityConflicts _).returns_bind hr
        obtain ⟨_, hwrite, rfl⟩ := returns_bind_pure hr
        exact ⟨rfl, (returns_writeCheckpoint hwrite).1⟩
      · exact (yields_writeCheckpoint hback (haccepts rfl) (h.verdict_eq_fresh.mp hfresh).2.1
          (h.place_free hw htail)).returns trivial ho
    · rw [hv, if_neg htail, if_pos htail]
      exact yields_bind yields_statement (yields_pure _)

theorem sqlite_append_checks
    (hr : Returns (appendAgentCheckpoint P T R call.expectedTail call.checkpoint) o t n result t' n') :
    call.wellFormed P = true ∧ call.clashes (t.view R).checkpoints = false := by
  simp only [appendAgentCheckpoint, appendInTransaction, returns_lift_bind, returns_conflictIf_bind,
    returns_atomically, returns_statement_bind, orReject_eq_ok] at hr
  obtain ⟨⟨⟩, hvalid, sequence, hfollows, hsequence, -, hr⟩ := hr
  obtain ⟨n₁, hr⟩ := (yields_loadCurrent (p := True) hback h).returns_bind hr
  obtain ⟨n₂, hr⟩ := (yields_loadById (p := True) hback h).returns_bind hr
  obtain ⟨hsame, hr⟩ := returns_conflictIf_bind.mp hr
  obtain ⟨_, _, _, htail, -⟩ := returns_bind.mp hr
  constructor
  · have hseq : call.checkpoint.sequence = sequence := by simpa using hsequence
    simp [AppendCall.wellFormed, serializeValidatedCheckpoint_eq_ok.mp hvalid, hfollows, hseq]
  · refine not_clashes_iff.mpr ⟨(lookup_any_iff h.ids).mp hsame,
      (tail_own_iff hback h).mp fun tail hsome row hrow => ?_⟩
    simp only [rejectExpectedTailFromAnotherRun, Option.mem_def.mp hsome, Option.mem_def.mp hrow,
      returns_select_bind] at htail
    simpa using (returns_lift.mp htail.2).1

/-- An append that the checkpoints on record do not reject does what they say. -/
theorem sqlite_append (hw : call.wellFormed P = true) (hc : call.clashes (t.view R).checkpoints = false) :
    let v := verdict P (t.view R).checkpoints call
    YieldsIf (v = .fresh → t.Accepts call.checkpoint.runId) (appendAgentCheckpoint P T R call.expectedTail
      call.checkpoint) o t v.result (if v = .fresh then
        { t with checkpoints := t.checkpoints ++ [checkpointRow T call.checkpoint] } else t) := by
  have hw' := hw
  simp only [AppendCall.wellFormed, Bool.and_eq_true, beq_iff_eq] at hw'
  obtain ⟨hsame, hforeign⟩ := not_clashes_iff.mp hc
  exact yields_append hw'.1 hw'.2 (yields_loadCurrent hback h) (yields_loadById hback h)
    ((lookup_any_iff h.ids).mpr hsame) ((tail_own_iff hback h).mpr hforeign) (yields_settleAppend hback h hw hc)

end ReadBack

theorem traceless_appendAgentCheckpoint (expectedTail : Option AgentCheckpointTail) (checkpoint : AgentCheckpoint) :
    Traceless (appendAgentCheckpoint P T R expectedTail checkpoint) :=
  traceless_lift_bind fun _ => traceless_lift_bind fun _ => traceless_lift_bind fun _ => traceless_atomically _

theorem sqlite_follows : Follows P (sqliteCheckpoints P T R) where
  settles t call h hread := by
    have htrace := traceless_appendAgentCheckpoint (P := P) (T := T) (R := R) call.expectedTail call.checkpoint
      call.engine t 0
    rcases hout : appendAgentCheckpoint P T R call.expectedTail call.checkpoint call.engine t 0 with
      ⟨e | result, t', n'⟩
    · rw [hout] at htrace
      obtain rfl : t' = t := htrace.resolve_left fun ⟨_, hok⟩ => by cases hok
      exact .failed e.message (by simp only [sqliteCheckpoints, hout]; rfl)
    · obtain ⟨hw, hc⟩ := sqlite_append_checks h.intact h.linear hout
      obtain ⟨hresult, hstate⟩ := (sqlite_append h.intact h.linear hw hc).eq_of_returns hout
      have happend : (sqliteCheckpoints P T R).append t call = (.ok result, t') := by
        simp only [sqliteCheckpoints, hout]
        rfl
      by_cases hv : verdict P (t.view R).checkpoints call = .fresh
      · rw [hv] at hresult hstate
        subst hresult hstate
        exact .fresh _ hv happend (Encodes.append h.intact hread) (filterMap_append_decode hread)
          fun _ haccepts => haccepts
      · obtain rfl := hstate.trans (if_neg hv)
        have hanswer := Verdict.answer_eq fun hrejected => verdict_eq_rejected.mp hrejected ⟨hw, hc⟩
        exact .kept result hv (hresult ▸ hanswer) happend
  answers t call h ho haccepts hv := by
    obtain ⟨hw, hc⟩ := wellFormed_of_verdict hv
    obtain ⟨n', hreturns⟩ := (sqlite_append h.intact h.linear hw hc).returns haccepts ho 0
    have hout : appendAgentCheckpoint P T R call.expectedTail call.checkpoint call.engine t 0 =
      ⟨.ok _, _, n'⟩ := hreturns
    exact ⟨_, by simp only [sqliteCheckpoints, hout]; rfl⟩

end ProofPlatform.AgentRows
