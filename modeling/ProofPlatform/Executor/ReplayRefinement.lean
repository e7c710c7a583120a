import ProofPlatform.Executor.ReplayStore

/-! Both replay stores refine the exact-replay ledger, so exact replay is at most once over
either of them. -/
namespace ProofPlatform.Executor
open Kernel Library Interaction Fallible RecordingStore Table Option Except

def EngineRequest.touchesReplays : EngineRequest → Bool
  | .claimExecutionReplay _ => true
  | .completeExecutionReplay _ _ _ => true
  | .failExecutionReplay _ _ _ => true
  | _ => false

/-- What a store may answer. A replay request takes effect and is acknowledged, takes effect with the acknowledgement
lost, or has no effect. -/
inductive StoreServes {σ : Type} (store : ReplayStore σ) : Service engineInterface σ
  | claim {s s' : σ} {claim : ExecutionReplayClaim} {result : ExecutionReplayClaimResult}
      (reply : Except String ExecutionReplayClaimResult) : store.claim s claim = .ok (result, s') →
      (∀ answered, reply = .ok answered → answered = result) →
      StoreServes store s (.claimExecutionReplay claim) reply s'
  | claimError {s : σ} {claim : ExecutionReplayClaim} (message : String) :
      StoreServes store s (.claimExecutionReplay claim) (.error message) s
  | complete {s s' : σ} {contextId : Uuid} {claim : ExecutionReplayClaim} {context : ExecutionContext}
      {outcome : ExecutionOutcome} (reply : Except String Unit) :
      store.complete s contextId claim context outcome = .ok s' →
      StoreServes store s (.completeExecutionReplay claim context outcome) reply s'
  | completeError {s : σ} {claim : ExecutionReplayClaim} {context : ExecutionContext} {outcome : ExecutionOutcome}
      (message : String) : StoreServes store s (.completeExecutionReplay claim context outcome) (.error message) s
  | fail {s s' : σ} {claim : ExecutionReplayClaim} {failedAt : Instant} {failure : String}
      (reply : Except String Unit) : store.fail s claim failedAt failure = .ok s' →
      StoreServes store s (.failExecutionReplay claim failedAt failure) reply s'
  | failError {s : σ} {claim : ExecutionReplayClaim} {failedAt : Instant} {failure : String} (message : String) :
      StoreServes store s (.failExecutionReplay claim failedAt failure) (.error message) s
  | other {s s' : σ} {request : EngineRequest} (reply : request.Answer) : request.touchesReplays = false →
      store.elsewhere s s' → StoreServes store s request reply s'

def Slot.state : Slot → ReplayState
  | .claimed _ => .claimed
  | .completed _ _ _ => .completed
  | .failed _ => .failed

/-- A store whose states stand for ledgers, each method for a ledger move. -/
structure RefinesLedger (P : Primitives) {σ : Type} (store : ReplayStore σ) (R : σ → Ledger → Prop) : Prop where
  start : ∀ s, (∀ key, store.view s key = none) → R s fun _ => none
  view : ∀ s L key, R s L → store.view s key = (L key).map fun slot => (slot.claim, slot.state)
  claim : ∀ s L claim result s', R s L → store.claim s claim = .ok (result, s') →
    (L claim.key = none ∧ result = .acquired ∧ R s' (Function.update L claim.key (some (.claimed claim)))) ∨
    (∃ first output outcome, result = .completed outcome ∧
      L claim.key = some (.completed first output outcome.proof) ∧ first.inputDigest = claim.inputDigest ∧
      P.canonicalize outcome.output = .ok output ∧ R s' L) ∨
    (result ≠ .acquired ∧ (∀ outcome, result ≠ .completed outcome) ∧ R s' L)
  complete : ∀ s L contextId claim context outcome s', R s L →
    store.complete s contextId claim context outcome = .ok s' → R s' L ∨ ∃ first output,
      L claim.key = some (.claimed first) ∧ P.canonicalize outcome.output = .ok output ∧
      R s' (Function.update L claim.key (some (.completed first output outcome.proof)))
  fail : ∀ s L claim failedAt failure s', R s L → store.fail s claim failedAt failure = .ok s' →
    R s' L ∨ ∃ first, L claim.key = some (.claimed first) ∧
      R s' (Function.update L claim.key (some (.failed first)))
  elsewhere : ∀ s s' L, R s L → store.elsewhere s s' → R s' L

/-- A service over such a store simulates the ledger. -/
theorem RefinesLedger.simulates {P : Primitives} {σ : Type} {store : ReplayStore σ} {R : σ → Ledger → Prop}
    (href : RefinesLedger P store R) (s : σ) (request : EngineRequest) (reply : request.Answer) (s' : σ) (L : Ledger)
    (hs : StoreServes store s request reply s') (hR : R s L) :
    ∃ L', LedgerServes P L request reply L' ∧ R s' L' := by
  cases hs with
  | claim reply hclaim hreply =>
    rcases href.claim _ _ _ _ _ hR hclaim with ⟨hnone, rfl, hR'⟩ | ⟨first, output, outcome, rfl, hkey, hd, hc, hR'⟩ |
      ⟨hacq, hcomp, hR'⟩
    · exact ⟨_, .acquire reply hnone hreply, hR'⟩
    · refine ⟨L, ?_, hR'⟩
      cases reply with
      | error message => exact .refuse (fun h => by cases h) (fun _ h => by cases h)
      | ok answered =>
        obtain rfl := hreply answered rfl
        exact .replay hkey hd hc
    · refine ⟨L, .refuse ?_ ?_, hR'⟩
      · intro h
        exact hacq (hreply _ h).symm
      · intro outcome h
        exact hcomp outcome (hreply _ h).symm
  | claimError message => exact ⟨L, .refuse (fun h => by cases h) (fun _ h => by cases h), hR⟩
  | complete reply hcomplete =>
    rcases href.complete _ _ _ _ _ _ _ hR hcomplete with hR' | ⟨first, output, hkey, hc, hR'⟩
    · exact ⟨L, .keepCompletion reply, hR'⟩
    · exact ⟨_, .complete reply hkey hc, hR'⟩
  | completeError message => exact ⟨L, .keepCompletion _, hR⟩
  | fail reply hfail =>
    rcases href.fail _ _ _ _ _ _ hR hfail with hR' | ⟨first, hkey, hR'⟩
    · exact ⟨L, .keepFailure reply, hR'⟩
    · exact ⟨_, .fail reply hkey, hR'⟩
  | failError message => exact ⟨L, .keepFailure _, hR⟩
  | other reply htouch helse =>
    refine ⟨L, ?_, href.elsewhere _ _ _ hR helse⟩
    cases request with
    | claimExecutionReplay | completeExecutionReplay | failExecutionReplay => cases htouch
    | loadDelegation => exact .loadDelegation reply
    | latestProofForOperation => exact .latestProof reply
    | saveExecutionContext => exact .saveContext reply
    | saveProof => exact .saveProof reply
    | executeVersioned => exact .handler reply
    | nowV7 => exact .nowV7 reply

variable {context : ExecutionContext}

theorem validateReplayCompletion_canonical {P : Primitives} {claim : ExecutionReplayClaim}
    {outcome : ExecutionOutcome} {output : CanonicalJson}
    (h : validateReplayCompletion P claim context outcome = .ok output) :
    P.canonicalize outcome.output = .ok output := by
  simp only [validateReplayCompletion, bind_eq_ok, mapError_eq_ok, reject_eq_ok, exists_const] at h
  obtain ⟨-, -, -, -, canonical, hc, -, he⟩ := h
  obtain rfl : canonical = output := ok.inj he
  exact hc

/-- The slot an in-memory replay stands for. -/
inductive RecordingMatches (P : Primitives) : Option RecordingReplay → Option Slot → Prop
  | absent : RecordingMatches P none none
  | claimed (claim : ExecutionReplayClaim) : RecordingMatches P (some ⟨claim, .claimed⟩) (some (.claimed claim))
  | completed (claim : ExecutionReplayClaim) (context : ExecutionContext) {outcome : ExecutionOutcome}
      {output : CanonicalJson} : P.canonicalize outcome.output = .ok output →
      RecordingMatches P (some ⟨claim, .completed context outcome⟩) (some (.completed claim output outcome.proof))
  | failed (claim : ExecutionReplayClaim) (failedAt : Instant) (failure : String) :
      RecordingMatches P (some ⟨claim, .failed failedAt failure⟩) (some (.failed claim))

namespace RecordingStore
variable {P : Primitives} {store : RecordingStore} {L : Ledger} {claim : ExecutionReplayClaim}

def Represents (P : Primitives) (store : RecordingStore) (L : Ledger) : Prop :=
  ∀ key, RecordingMatches P (store.find key) (L key)

theorem find_setState (key k : ExecutionReplayKey) (state : RecordingReplayState) :
    lookup (fun replay : RecordingReplay => replay.claim.key) (store.setState key state) k =
      (store.find k).map fun replay => if k = key then { replay with state } else replay := by
  have hkey (replay : RecordingReplay) : ({ replay with state } : RecordingReplay).claim.key = replay.claim.key := rfl
  rw [setState, lookup_updateWhere hkey, ← find]
  cases hf : store.find k with
  | none => rfl
  | some replay =>
    have hk := (lookup_eq_some hf).2
    simp [hk]

theorem Represents.settle (h : Represents P store L) {first : ExecutionReplayClaim} {state : RecordingReplayState}
    {slot : Slot} (hf : store.find claim.key = some ⟨first, .claimed⟩)
    (hm : RecordingMatches P (some ⟨first, state⟩) (some slot)) :
    L claim.key = some (.claimed first) ∧ ∀ store' : RecordingStore,
      store'.executionReplays = store.setState claim.key state →
      Represents P store' (Function.update L claim.key (some slot)) := by
  constructor
  · have hkey := h claim.key
    rw [hf] at hkey
    generalize L claim.key = found at hkey
    cases hkey
    rfl
  · intro store' hs k
    rw [find, hs, find_setState]
    by_cases hk : k = claim.key
    · subst hk
      simpa [hf] using hm
    · simpa [hk] using h k

theorem owned_eq_ok {replay : RecordingReplay} (h : store.owned claim = .ok replay) :
    store.find claim.key = some replay := by
  simp only [owned, bind_eq_ok, orReject_eq_ok, reject_eq_ok, exists_const] at h
  obtain ⟨found, hf, -, -, he⟩ := h
  obtain rfl : found = replay := ok.inj he
  exact hf

end RecordingStore

theorem recordingReplayStore_refines (P : Primitives) :
    RefinesLedger P (recordingReplayStore P) (RecordingStore.Represents P) where
  start s h key := by
    have hnone : s.find key = none := by simpa [recordingReplayStore] using h key
    rw [hnone]
    exact .absent
  view s L key h := by
    have hm := h key
    simp only [recordingReplayStore]
    generalize s.find key = found at hm
    generalize L key = slot at hm
    cases hm <;> rfl
  claim s L claim result s' h hclaim := by
    have hm := h claim.key
    simp only [recordingReplayStore, claimExecutionReplay] at hclaim
    split at hclaim
    case h_1 hf =>
      obtain ⟨rfl, rfl⟩ := Prod.mk.inj (ok.inj hclaim)
      rw [hf] at hm
      generalize hL : L claim.key = slot at hm
      cases hm
      refine .inl ⟨rfl, rfl, fun k => ?_⟩
      have hnew := lookup_append (k := k) (⟨claim, .claimed⟩ : RecordingReplay) hf
      rw [find, hnew]
      by_cases hk : k = claim.key
      · subst hk
        simpa using RecordingMatches.claimed claim
      · simpa [hk, find] using h k
    case h_2 replay hf =>
      rw [hf] at hm
      split at hclaim
      · obtain ⟨rfl, rfl⟩ := Prod.mk.inj (ok.inj hclaim)
        exact .inr (.inr ⟨by simp, by simp, h⟩)
      · rename_i hd
        generalize hL : L claim.key = slot at hm
        cases hm with
        | claimed | failed =>
          obtain ⟨rfl, rfl⟩ := Prod.mk.inj (ok.inj hclaim)
          exact .inr (.inr ⟨by simp, by simp, h⟩)
        | @completed first context outcome output hc =>
          obtain ⟨rfl, rfl⟩ := Prod.mk.inj (ok.inj hclaim)
          exact .inr (.inl ⟨first, output, outcome, rfl, rfl, not_not.mp hd, hc, h⟩)
  complete s L contextId claim context outcome s' h hcomplete := by
    simp only [recordingReplayStore, completeExecutionReplay, bind_eq_ok] at hcomplete
    obtain ⟨output, hv, ⟨first, state⟩, ho, hcomplete⟩ := hcomplete
    have hf := owned_eq_ok ho
    have hc := validateReplayCompletion_canonical hv
    cases state with
    | claimed =>
      obtain rfl := ok.inj hcomplete
      obtain ⟨hkey, hR⟩ := h.settle hf (.completed first context hc)
      exact .inr ⟨first, output, hkey, hc, hR _ rfl⟩
    | completed storedContext storedOutcome =>
      simp only at hcomplete
      split at hcomplete
      · obtain rfl := ok.inj hcomplete
        exact .inl h
      · cases hcomplete
    | failed failedAt failure => cases hcomplete
  fail s L claim failedAt failure s' h hfail := by
    simp only [recordingReplayStore, failExecutionReplay, bind_eq_ok, reject_eq_ok,
      exists_const] at hfail
    obtain ⟨-, ⟨first, state⟩, ho, hfail⟩ := hfail
    have hf := owned_eq_ok ho
    cases state with
    | claimed =>
      obtain rfl := ok.inj hfail
      obtain ⟨hkey, hR⟩ := h.settle hf (.failed first failedAt failure)
      exact .inr ⟨first, hkey, hR _ rfl⟩
    | completed storedContext storedOutcome => cases hfail
    | failed storedAt storedFailure =>
      simp only at hfail
      split at hfail
      · obtain rfl := ok.inj hfail
        exact .inl h
      · cases hfail
  elsewhere s s' L h he key := by
    have hm := h key
    rw [find] at hm ⊢
    rw [show s'.executionReplays = s.executionReplays from he]
    exact hm

/-- The slot a stored row stands for. -/
inductive RowMatches : Option ReplayRow → Option Slot → Prop
  | absent : RowMatches none none
  | claimed {row : ReplayRow} : row.state = .claimed → RowMatches (some row) (some (.claimed row.claim))
  | completed {row : ReplayRow} {output : CanonicalJson} {proof : Proof} : row.state = .completed →
      row.outputJson = some output → row.proofJson = some proof →
      RowMatches (some row) (some (.completed row.claim output proof))
  | failed {row : ReplayRow} : row.state = .failed → RowMatches (some row) (some (.failed row.claim))

namespace SqliteStore
variable {P : Primitives} {parseJson : String → Option Json} {tables : SqliteReplayTables} {L : Ledger}
  {claim : ExecutionReplayClaim}

def Represents (tables : SqliteReplayTables) (L : Ledger) : Prop :=
  ∀ key, RowMatches (lookup ReplayRow.key tables.executionReplays key) (L key)

variable {tables' : SqliteReplayTables} {row : ReplayRow}

theorem loadCompletedOutcome_eq_ok {result : ExecutionReplayClaimResult}
    (h : loadCompletedOutcome P parseJson tables row = .ok result) :
    ∃ outcome output, result = .completed outcome ∧ row.outputJson = some output ∧
      row.proofJson = some outcome.proof ∧ P.canonicalize outcome.output = .ok output := by
  simp only [loadCompletedOutcome, bind_eq_ok, orReject_eq_ok, mapError_eq_ok, reject_eq_ok, exists_const,
    bne_eq_false_iff_eq] at h
  obtain ⟨outputJson, hout, _, _, proof, hproof, output, _, canonical, hc, rfl, _, _, _, _, _, hr⟩ := h
  obtain rfl : _ = result := ok.inj hr
  exact ⟨⟨output, proof⟩, canonical, rfl, hout, hproof, hc⟩

theorem Represents.settleRow (h : Represents tables L) {f : ReplayRow → ReplayRow} {changed : String} {slot : Slot}
    (hf : loadReplay tables claim = some row) (hstate : row.state = .claimed)
    (hclaim : row.claimToken = claim.claimToken ∧ row.inputDigest = claim.inputDigest)
    (hs : SqliteStore.settleRow tables claim f changed = .ok tables')
    (hkey : ∀ row, (f row).key = row.key) (hm : RowMatches (some (f row)) (some slot)) :
    L claim.key = some (.claimed row.claim) ∧
      Represents tables' (Function.update L claim.key (some slot)) := by
  simp only [SqliteStore.settleRow, bind_eq_ok, reject_eq_ok, exists_const] at hs
  obtain ⟨-, he⟩ := hs
  obtain rfl : _ = tables' := ok.inj he
  constructor
  · have hk := h claim.key
    rw [show lookup _ _ _ = _ from hf] at hk
    generalize L claim.key = found at hk
    cases hk with
    | claimed _ => rfl
    | completed hc | failed hc => rw [hstate] at hc; cases hc
  · intro k
    simp only [lookup_updateWhere hkey]
    by_cases hk : k = claim.key
    · subst hk
      have howned : ownedBy claim row = true := by
        simp [ownedBy, hstate, hclaim, (lookup_eq_some hf).2]
      rw [show lookup _ _ _ = _ from hf]
      simpa [howned] using hm
    · -- Rows under other keys are not the claim's.
      rw [Function.update_of_ne hk]
      have hother := h k
      cases hl : lookup ReplayRow.key tables.executionReplays k with
      | none =>
        rw [hl] at hother
        exact hother
      | some other =>
        have hko := (lookup_eq_some hl).2
        have hn : ownedBy claim other = false := by simp [ownedBy, hko, hk]
        rw [hl] at hother
        simpa [hn] using hother

theorem validateStoredClaim_eq_ok {u : Unit} (h : validateStoredClaim row claim = .ok u) :
    row.claimToken = claim.claimToken ∧ row.inputDigest = claim.inputDigest := by
  simp only [validateStoredClaim, bind_eq_ok, reject_eq_ok, exists_const, bne_eq_false_iff_eq] at h
  exact ⟨h.2.1, h.1⟩

theorem insertExecutionContext_replays {id : Uuid} (h : insertExecutionContext tables id context = .ok tables') :
    tables'.executionReplays = tables.executionReplays := by
  simp only [insertExecutionContext, bind_eq_ok, reject_eq_ok, exists_const] at h
  obtain rfl := ok.inj h.2
  rfl

theorem insertImmutableProof_replays {proof : Proof} (h : insertImmutableProof tables proof = .ok tables') :
    tables'.executionReplays = tables.executionReplays := by
  simp only [insertImmutableProof, bind_eq_ok, reject_eq_ok, exists_const] at h
  obtain rfl := ok.inj h.2
  rfl

theorem Represents.elsewhere (h : Represents tables L)
    (he : tables'.executionReplays = tables.executionReplays) : Represents tables' L := by
  intro key
  rw [he]
  exact h key

end SqliteStore

variable (P : Primitives) (parseJson : String → Option Json)

theorem sqliteReplayStore_refines : RefinesLedger P (sqliteReplayStore P parseJson) SqliteStore.Represents where
  start s h key := by
    have hnone : lookup ReplayRow.key s.executionReplays key = none := by
      simpa [sqliteReplayStore] using h key
    rw [hnone]
    exact .absent
  view s L key h := by
    have hm := h key
    simp only [sqliteReplayStore]
    generalize lookup ReplayRow.key s.executionReplays key = found at hm
    generalize L key = slot at hm
    cases hm with
    | absent => rfl
    | claimed hs | completed hs _ _ | failed hs => simp [Slot.claim, Slot.state, hs]
  claim s L claim result s' h hclaim := by
    have hm := h claim.key
    simp only [sqliteReplayStore, SqliteStore.claimExecutionReplay, mapError_eq_ok, bind_eq_ok] at hclaim
    obtain ⟨-, -, hclaim⟩ := hclaim
    split at hclaim
    case h_1 row hf =>
      rw [show lookup _ _ _ = _ from hf] at hm
      split at hclaim
      · obtain ⟨rfl, rfl⟩ := Prod.mk.inj (ok.inj hclaim)
        exact .inr (.inr ⟨by simp, by simp, h⟩)
      · rename_i hd
        split at hclaim
        case h_1 | h_2 =>
          obtain ⟨rfl, rfl⟩ := Prod.mk.inj (ok.inj hclaim)
          exact .inr (.inr ⟨by simp, by simp, h⟩)
        case h_3 hs =>
          simp only [bind_eq_ok] at hclaim
          obtain ⟨loaded, hload, hclaim⟩ := hclaim
          obtain ⟨rfl, rfl⟩ := Prod.mk.inj (ok.inj hclaim)
          obtain ⟨outcome, output, rfl, hout, hproof, hc⟩ := SqliteStore.loadCompletedOutcome_eq_ok hload
          generalize hL : L claim.key = slot at hm
          cases hm with
          | claimed hs' | failed hs' => rw [hs] at hs'; cases hs'
          | completed _ hout' hproof' =>
            obtain rfl := some.inj (hout.symm.trans hout')
            obtain rfl := some.inj (hproof.symm.trans hproof')
            exact .inr (.inl ⟨row.claim, output, outcome, rfl, rfl, not_not.mp hd, hc, h⟩)
    case h_2 hf =>
      simp only [bind_eq_ok, reject_eq_ok, exists_const] at hclaim
      obtain ⟨rfl, rfl⟩ := Prod.mk.inj (ok.inj hclaim.2)
      rw [show lookup _ _ _ = _ from hf] at hm
      generalize hL : L claim.key = slot at hm
      cases hm
      refine .inl ⟨rfl, rfl, fun k => ?_⟩
      have hnew := lookup_append (k := k) (SqliteStore.claimedRow claim) hf
      have hrow : RowMatches (some (SqliteStore.claimedRow claim)) (some (.claimed claim)) := .claimed rfl
      simp only [hnew]
      by_cases hk : k = claim.key
      · subst hk
        rw [Function.update_self, if_pos (show claim.key = (SqliteStore.claimedRow claim).key from rfl)]
        exact hrow
      · simpa [hk, SqliteStore.claimedRow] using h k
  complete s L contextId claim context outcome s' h hcomplete := by
    simp only [sqliteReplayStore, SqliteStore.completeExecutionReplay, mapError_eq_ok, bind_eq_ok,
      orReject_eq_ok] at hcomplete
    obtain ⟨-, -, output, hv, row, hf, u, hstored, hcomplete⟩ := hcomplete
    have hc : P.canonicalize outcome.output = .ok output :=
      validateReplayCompletion_canonical (mapError_eq_ok.mp hv)
    cases hstate : row.state with
    | completed =>
      simp only [hstate, bind_eq_ok] at hcomplete
      obtain ⟨-, -, hcomplete⟩ := hcomplete
      obtain rfl := ok.inj hcomplete
      exact .inl h
    | failed =>
      rw [hstate] at hcomplete
      cases hcomplete
    | claimed =>
      simp only [hstate, bind_eq_ok] at hcomplete
      obtain ⟨withContext, hcontext, withProof, hproof, hsettle⟩ := hcomplete
      have hsame : withProof.executionReplays = s.executionReplays :=
        (SqliteStore.insertImmutableProof_replays hproof).trans (SqliteStore.insertExecutionContext_replays hcontext)
      have hf' : SqliteStore.loadReplay withProof claim = some row := by
        rw [SqliteStore.loadReplay, hsame]
        exact hf
      obtain ⟨hkey, hR⟩ := (h.elsewhere hsame).settleRow hf' hstate (SqliteStore.validateStoredClaim_eq_ok hstored)
        hsettle (fun _ => rfl) (.completed rfl rfl rfl)
      exact .inr ⟨row.claim, output, hkey, hc, hR⟩
  fail s L claim failedAt failure s' h hfail := by
    simp only [sqliteReplayStore, SqliteStore.failExecutionReplay, mapError_eq_ok, bind_eq_ok,
      orReject_eq_ok] at hfail
    obtain ⟨-, -, -, -, row, hf, u, hstored, hfail⟩ := hfail
    cases hstate : row.state with
    | claimed =>
      simp only [hstate] at hfail
      obtain ⟨hkey, hR⟩ := h.settleRow hf hstate (SqliteStore.validateStoredClaim_eq_ok hstored)
        hfail (fun _ => rfl) (.failed rfl)
      exact .inr ⟨row.claim, hkey, hR⟩
    | failed =>
      simp only [hstate] at hfail
      split at hfail
      · obtain rfl := ok.inj hfail
        exact .inl h
      · cases hfail
    | completed =>
      rw [hstate] at hfail
      cases hfail
  elsewhere s s' L h he := h.elsewhere he

inductive StoreKind where
  | recordingStore
  | sqliteStore

abbrev StoreKind.State : StoreKind → Type
  | .recordingStore => RecordingStore
  | .sqliteStore => SqliteReplayTables

def StoreKind.replayStore : (kind : StoreKind) → ReplayStore kind.State
  | .recordingStore => recordingReplayStore P
  | .sqliteStore => sqliteReplayStore P parseJson

theorem StoreKind.refines (kind : StoreKind) : ∃ R, RefinesLedger P (kind.replayStore P parseJson) R := by
  cases kind with
  | recordingStore => exact ⟨_, recordingReplayStore_refines P⟩
  | sqliteStore => exact ⟨_, sqliteReplayStore_refines P parseJson⟩

section
variable {σ ι : Type} [DecidableEq ι] (store : ReplayStore σ) (c : DirectConfig σ ι) (key : ExecutionReplayKey)

/-- The call whose claim the store recorded for the key. -/
def FirstClaimant (i : ι) : Prop := ∃ claim state reply, store.view c.state key = some (claim, state) ∧
  (i, (⟨.claimExecutionReplay claim, reply⟩ : EngineExchange)) ∈ c.history

def ClaimFailed : Prop := ∃ claim, store.view c.state key = some (claim, .failed)

/-- The claim is still open and the call that acquired it, if any did, is gone. -/
def LeftClaimed : Prop := (∃ claim, store.view c.state key = some (claim, .claimed)) ∧
  ∀ i claim, (i, (⟨.claimExecutionReplay claim, .ok .acquired⟩ : EngineExchange)) ∈ c.history →
    claim.key = key → c.Idle i

end

section
variable {P : Primitives} {σ ι : Type} [DecidableEq ι] {calls : ι → Call} {store : ReplayStore σ}
  {R : σ → Ledger → Prop} {c : DirectConfig σ ι} {L : Ledger} {key : ExecutionReplayKey} {i : ι}

private theorem expected_eq_some {call : Call} {k : ExecutionReplayKey} {d : ContentDigest}
    (h : call.expected P = some (k, d)) :
    ∃ canonical, P.canonicalize call.input = .ok canonical ∧ d = P.digest .operationInput canonical := by
  simp only [Call.expected, expectedClaim] at h
  split at h
  · rename_i canonical _ hc
    obtain ⟨-, rfl⟩ := Prod.mk.inj (some.inj h)
    exact ⟨canonical, hc, rfl⟩
  · cases h

section
variable (href : RefinesLedger P store R) (hR : R c.state L) (h : Sound P calls (c.withState L))
include href hR h

/-- A call that entered or returned has the canonical input of the first claimant. -/
theorem Sound.agrees_with_claimant (hk : (calls i).key P = some key)
    (hideal : ∀ i j a b, P.canonicalize (calls i).input = .ok a → P.canonicalize (calls j).input = .ok b →
      P.digest .operationInput a = P.digest .operationInput b → a = b)
    (ha : Entered c.history i ∨ ∃ outcome, Received c i outcome) :
    (∃ j, FirstClaimant store c key j) ∧
      ∀ j, FirstClaimant store c key j → P.canonicalize (calls i).input = P.canonicalize (calls j).input := by
  obtain ⟨slot, hexpected, hslot⟩ := h.digest_of_active ha
  have hkey : slot.claim.key = key := by
    simp only [Call.key, hexpected, map_some] at hk
    exact some.inj hk
  have hview : store.view c.state key = some (slot.claim, slot.state) := by
    rw [href.view _ _ _ hR, ← hkey]
    exact congrArg _ hslot
  refine ⟨?_, ?_⟩
  · obtain ⟨-, j, reply, hx⟩ := h.recorded.claimed _ _ hslot
    exact ⟨j, slot.claim, slot.state, reply, hview, hx⟩
  · rintro j ⟨claim, state, reply, hv, hx⟩
    obtain ⟨rfl, -⟩ := Prod.mk.inj (some.inj (hview.symm.trans hv))
    have hj : (calls j).expected P = some (slot.claim.key, slot.claim.inputDigest) :=
      ReplayPhase.fresh.inj (start_of_claim (i := j) h.lawful hx)
    obtain ⟨a, hca, hda⟩ := expected_eq_some hexpected
    obtain ⟨b, hcb, hdb⟩ := expected_eq_some hj
    rw [hca, hcb, hideal i j a b hca hcb (hda.symm.trans hdb)]

theorem Sound.blocked
    (hb : ClaimFailed store c key ∨ LeftClaimed store c key) : Blocked P calls key (c.withState L) := by
  have hslot {claim : ExecutionReplayClaim} {state : ReplayState}
      (hv : store.view c.state key = some (claim, state)) : ∃ slot, L key = some slot ∧ slot.state = state := by
    rw [href.view _ _ _ hR] at hv
    obtain ⟨slot, hs, he⟩ := map_eq_some_iff.mp hv
    exact ⟨slot, hs, congrArg Prod.snd he⟩
  rcases hb with ⟨claim, hv⟩ | ⟨⟨claim, hv⟩, hleft⟩
  · obtain ⟨slot, hs, hstate⟩ := hslot hv
    cases slot with
    | failed first => exact h.blocked_of_failed hs
    | claimed first | completed first output proof => cases hstate
  · obtain ⟨slot, hs, -⟩ := hslot hv
    exact h.blocked_of_left hs hleft

end

end

/-- Exact replay is at most once over either store, in any interleaving, with crashes and lost acknowledgements: one
entry per key; only calls with the first claimant's canonical input enter or return; a call that returns without
entering returns the single completion; and a failed or abandoned claim is never entered again. -/
theorem exactReplay_at_most_once (P : Primitives) (parseJson : String → Option Json) (kind : StoreKind)
    {ι : Type} [DecidableEq ι] (calls : ι → Call) (hexact : ∀ i, (calls i).ExactReplay)
    (hideal : ∀ i j a b, P.canonicalize (calls i).input = .ok a → P.canonicalize (calls j).input = .ok b →
      P.digest .operationInput a = P.digest .operationInput b → a = b)
    (s : kind.State) (hempty : ∀ key, (kind.replayStore P parseJson).view s key = none) (c : DirectConfig kind.State ι)
    (hr : Reaches (StoreServes (kind.replayStore P parseJson)) (Config.initial s fun i => (calls i).program P) c)
    (key : ExecutionReplayKey) :
    entries P calls key c.history ≤ 1 ∧
    (∀ i, (calls i).key P = some key → (Entered c.history i ∨ ∃ outcome, Received c i outcome) →
      (∃ j, FirstClaimant (kind.replayStore P parseJson) c key j) ∧
      ∀ j, FirstClaimant (kind.replayStore P parseJson) c key j →
        P.canonicalize (calls i).input = P.canonicalize (calls j).input) ∧
    (∀ i outcome, (calls i).key P = some key → Received c i outcome → ¬ Entered c.history i →
      ∃ j claim context completed reply output,
        (j, (⟨.completeExecutionReplay claim context completed, reply⟩ : EngineExchange)) ∈ c.history ∧
        claim.key = key ∧ outcome.proof = some completed.proof ∧
        P.canonicalize completed.output = .ok output ∧ P.canonicalize outcome.output = .ok output ∧
        ∀ j' claim' context' completed' reply',
          (j', (⟨.completeExecutionReplay claim' context' completed', reply'⟩ : EngineExchange)) ∈ c.history →
          claim'.key = key → j' = j ∧ completed' = completed) ∧
    (ClaimFailed (kind.replayStore P parseJson) c key ∨ LeftClaimed (kind.replayStore P parseJson) c key →
      ∀ c', Reaches (StoreServes (kind.replayStore P parseJson)) c c' →
        entries P calls key c'.history = entries P calls key c.history) := by
  obtain ⟨R, href⟩ := kind.refines P parseJson
  -- Read the run as a run over the ledger; callers and history are the same.
  obtain ⟨L, hR, hreach⟩ := hr.simulate href.simulates (href.start s hempty)
  have hsound : Sound P calls (c.withState L) := Sound.reaches hexact hreach
  refine ⟨hsound.entries_le_one key, ?_, ?_, ?_⟩
  · intro i hk ha
    exact hsound.agrees_with_claimant href hR hk hideal ha
  · intro i outcome hk hreceived hentered
    obtain ⟨j, claim, context, completed, reply, output, hx, hkey, hproof, hcompleted, hout⟩ :=
      hsound.replays_completion hreceived hentered hk
    refine ⟨j, claim, context, completed, reply, output, hx, hkey, hproof, hcompleted, hout, ?_⟩
    intro j' claim' context' completed' reply' hx' hkey'
    exact hsound.completion_unique hx' hx (hkey'.trans hkey.symm)
  · intro hb c' hr'
    obtain ⟨L', -, hreach'⟩ := hr'.simulate href.simulates hR
    exact (hsound.blocked href hR hb).reaches hsound hreach'

/-- An input with a valid key and nothing else. -/
def keyedInput : Json := .object [("idempotency_key", .string "00000000-0000-7000-8000-000000000009")]

/-- The library, with one text for every input and one identifier for every key. -/
def keyedPrimitives : Primitives :=
  { unusedPrimitives with
    canonicalize := fun _ => .ok ⟨"null"⟩
    parseUuid := fun _ => some (Uuid.v7 9) }

def keyedCall : Call where
  engine := { publishEngine true with
    handlers := fun operation => some ⟨operation, fun _ => .requiredUuidV7ExactReplay⟩ }
  operation := "content.publish"
  version := "v1"
  input := keyedInput
  context := ⟨principal 2, some .agent, none, none, "/workspace", 5⟩
  approval := none
  evidenceRequired := false

def keyedKey : ExecutionReplayKey := ⟨"content.publish", "v1", Uuid.v7 9⟩

theorem exactReplay_failed_claim :
    ∃ c : DirectConfig SqliteReplayTables Bool,
      Reaches (StoreServes (StoreKind.sqliteStore.replayStore keyedPrimitives fun _ => none))
        (Config.initial ⟨[], [], []⟩ fun _ => keyedCall.program keyedPrimitives) c ∧
      ClaimFailed (StoreKind.sqliteStore.replayStore keyedPrimitives fun _ => none) c keyedKey ∧
      entries keyedPrimitives (fun _ : Bool => keyedCall) keyedKey c.history = 1 ∧
      ∀ c', Reaches (StoreServes (StoreKind.sqliteStore.replayStore keyedPrimitives fun _ => none)) c c' →
        entries keyedPrimitives (fun _ : Bool => keyedCall) keyedKey c'.history = 1 := by
  have hcalls (i : Bool) : ((fun _ : Bool => keyedCall) i).ExactReplay := by
    rintro handler he
    obtain rfl := some.inj he
    rfl
  have hreach : Reaches (StoreServes (StoreKind.sqliteStore.replayStore keyedPrimitives fun _ => none))
      (Config.initial ⟨[], [], []⟩ fun _ : Bool => keyedCall.program keyedPrimitives) _ :=
    Relation.ReflTransGen.refl
      |>.tail (.answer (i := true) rfl (.other (Uuid.v7 1) rfl rfl))
      |>.tail (.answer (i := true) rfl (.claim (.ok .acquired) rfl fun _ h => (ok.inj h).symm))
      |>.tail (.answer (i := true) rfl (.other (error (ExecutionError.handlerFailed "unavailable")) rfl rfl))
      |>.tail (.answer (i := true) rfl (.fail (.ok ()) rfl))
      |>.tail (.answer (i := false) rfl (.other (Uuid.v7 2) rfl rfl))
      |>.tail (.answer (i := false) rfl (.claim (.ok .failed) rfl fun _ h => (ok.inj h).symm))
  refine ⟨_, hreach, ?_, ?_, ?_⟩
  · exact ⟨_, rfl⟩
  · rfl
  · intro c' hr
    exact (exactReplay_at_most_once keyedPrimitives (fun _ => none) .sqliteStore (fun _ : Bool => keyedCall) hcalls
      (fun _ _ a b ha hb _ => ok.inj (ha.symm.trans hb)) ⟨[], [], []⟩ (fun _ => rfl) _ hreach keyedKey).2.2.2
      (.inl ⟨_, rfl⟩) c' hr

end ProofPlatform.Executor
