import ProofPlatform.Operator.System

/-! The audit log: the events of a workspace are one chain with the stored head at its end. A refused call adds to it
only what notes the refusal, and a failed commit the forfeit of its dispatch. -/
namespace ProofPlatform.Operator
open Kernel Library HashChain Transaction Tx AuditEvent

section Chain
variable {C : OperatorStoreContext} {s : Database} {H : ControlHashes} {journal : Journal} {workspaceId : Uuid}

theorem Provisioned.chained (h : Provisioned s) : s.journal.Chained H := by
  have hnone (workspaceId : Uuid) : s.journal.chainOf workspaceId = [] := by simp [Journal.chainOf, h.auditEvents]
  refine ⟨fun workspaceId => ?_, fun workspaceId head hhead => ?_, fun workspaceId _ => hnone workspaceId⟩
  · rw [hnone]
    exact .nil
  · rw [hnone]
    exact h.heads head (Table.lookup_eq_some hhead).1

theorem after_chained (events : List Event) (hs : Provisioned s) : (after C events s).journal.Chained C.hashes := by
  refine after_invariant (I := fun s => s.journal.Chained C.hashes) (fun _ h hs => ?_) events hs.keyed hs.chained
  obtain ⟨events, hgrows⟩ := h.grows
  exact hgrows.chained hs

theorem after_auditEvents (events : List Event) (hs : s.Keyed) :
    ∃ appended, (after C events s).journal.auditEvents = s.journal.auditEvents ++ appended := by
  refine after_related (I := fun _ => True) (T := fun _ => True)
    (R := fun s s' => ∃ appended, s'.journal.auditEvents = s.journal.auditEvents ++ appended)
    (fun _ _ _ => trivial) (fun s => ⟨[], by simp⟩) ?_ (fun _ _ _ h => ?_) (fun _ _ _ _ _ => trivial) hs trivial
  · rintro s₁ s₂ s₃ ⟨first, hfirst⟩ ⟨second, hsecond⟩
    exact ⟨first ++ second, by rw [hsecond, hfirst, List.append_assoc]⟩
  · obtain ⟨events, hgrows⟩ := h.grows
    exact ⟨events, hgrows.auditEvents_eq⟩

theorem Journal.Chained.link (h : journal.Chained H) {i : Nat} {event : AuditEvent}
    (hevent : (journal.chainOf workspaceId)[i]? = some event) :
    event.sequence = i + 1 ∧ event.previousDigest = tip eventDigest ((journal.chainOf workspaceId).take i) ∧
      event.validateChainLink H (i + 1) (tip eventDigest ((journal.chainOf workspaceId).take i)) = .ok () := by
  have hvalid := (h.chain workspaceId).valid_of_getElem? hevent
  obtain ⟨hsequence, hprevious⟩ := link_of_validateChainLink H hvalid
  exact ⟨hsequence, hprevious, hvalid⟩

theorem Journal.Chained.sequences (h : journal.Chained H) :
    (journal.chainOf workspaceId).map sequence =
      List.range' 1 (journal.chainOf workspaceId).length := by
  refine List.ext_getElem (by simp) fun i hi _ => ?_
  rw [List.getElem_map, List.getElem_range', Nat.one_mul, Nat.add_comm]
  exact (h.link (List.getElem?_eq_getElem _)).1

end Chain

/-! ### Refusals -/

/-- The error that a call has ended with. -/
def errorOf {ε α : Type} : Except ε α → Option ε
  | .error e => some e
  | .ok _ => none

theorem errorOf_eq_some {ε α : Type} {result : Except ε α} {e : ε} : errorOf result = some e ↔ result = .error e := by
  cases result <;> simp [errorOf]

/-- The error that the call answers with, if it fails. -/
def Call.error (C : OperatorStoreContext) (o : Nat → Answer) (s : Database) : Call → Option OperatorStoreError
  | registerGovernedRun request => errorOf (Operator.registerGovernedRun C request o s 0).result
  | appendAuthorityEvent request => errorOf (Operator.appendAuthorityEvent C request o s 0).result
  | claimRunLease request => errorOf (Operator.claimRunLease C request o s 0).result
  | renewRunLease request => errorOf (Operator.renewRunLease C request o s 0).result
  | releaseRunLease request => errorOf (Operator.releaseRunLease C request o s 0).result
  | reserveAggregateBudget request => errorOf (Operator.reserveAggregateBudget C request o s 0).result
  | settleBudgetReservation request => errorOf (Operator.settleBudgetReservation C request o s 0).result
  | beginDispatch request => errorOf (Operator.beginDispatch C request o s 0).result
  | commitRuntimeBarrier request prepared => errorOf (Operator.commitRuntimeBarrier C request prepared o s 0).result
  | settleRuntimeFailure request => errorOf (Operator.settleRuntimeFailure C request o s 0).result
  | reclaimRun request => errorOf (Operator.reclaimRun C request o s 0).result
  | executeOperatorCommand signer request => errorOf (Operator.executeOperatorCommand C signer request o s 0).result

/-- The refusals that are put on record, with the kinds of the events that record them. -/
inductive Documented : Call → OperatorStoreError → List AuditEventKind → Prop
  | reserveConflict {request} : Documented (.reserveAggregateBudget request) .conflict [.budgetRejected]
  | reserveRejected {request} : Documented (.reserveAggregateBudget request) .notActionable [.budgetRejected]
  | settleRejected {request} : Documented (.settleBudgetReservation request) .notActionable [.budgetRejected]
  | dispatchRejected {request} : Documented (.beginDispatch request) .notActionable [.budgetRejected]
  | commandConflict {signer request} : Documented (.executeOperatorCommand signer request) .conflict [.commandConflict]
  | approvalExpired {signer request} :
      Documented (.executeOperatorCommand signer request) .notActionable [.approvalExpired]

/-- The events appended between two states, by their kinds. -/
def Appends (kinds : List AuditEventKind) (s s' : Database) : Prop :=
  ∃ events, s'.journal.auditEvents = s.journal.auditEvents ++ events ∧ events.map kind = kinds

/-- A commit, and what is appended when it forfeits its dispatch, whatever the error was. -/
def ForfeitsDispatch (call : Call) (s s' : Database) : Prop :=
  (∃ request prepared, call = .commitRuntimeBarrier request prepared) ∧ Appends [.budgetForfeited, .controlFailure] s s'

section Refusals
variable {C : OperatorStoreContext} {s s' : Database} {o : Nat → Answer} {e : OperatorStoreError}

theorem Rejects.appends (h : Rejects C.hashes s s') : Appends [.budgetRejected] s s' := by
  obtain ⟨event, hkind, journal, hgrows, -, rfl⟩ := h
  exact ⟨[event], hgrows.auditEvents_eq, by simp [hkind]⟩

theorem JournalGrows.appends {runId : Uuid} {kinds : List AuditEventKind}
    (h : JournalGrows C.hashes runId kinds s.journal s'.journal) : Appends kinds s s' := by
  obtain ⟨-, events, -, -, hkinds, hgrows⟩ := h
  exact ⟨events, hgrows.auditEvents_eq, hkinds⟩

theorem CommandRefused.appends (h : CommandRefused C.hashes e s s') :
    e = .notActionable ∧ Appends [.approvalExpired] s s' ∨ e = .conflict ∧ Appends [.commandConflict] s s' := by
  obtain ⟨event, ⟨journal, hgrows, -, rfl⟩, ⟨rfl, hkind⟩ | ⟨rfl, hkind⟩⟩ := h
  · exact .inl ⟨rfl, [event], hgrows.auditEvents_eq, by simp [hkind]⟩
  · exact .inr ⟨rfl, [event], hgrows.auditEvents_eq, by simp [hkind]⟩

private theorem state_of_traceless {α : Type} {m : StoreM α} (hm : Traceless m)
    (h : errorOf (m o s 0).result = some e) : (m o s 0).state = s := by
  rcases hm o s 0 with ⟨a, ha⟩ | hs
  · rw [ha] at h
    cases h
  · exact hs

/-- A call that fails leaves everything as it was, or its refusal or the forfeit is on record. -/
theorem Call.refusal (hs : s.Keyed) (call : Call) (h : call.error C o s = some e) :
    call.leaves C o s = s ∨ (∃ kinds, Documented call e kinds ∧ Appends kinds s (call.leaves C o s)) ∨
      ForfeitsDispatch call s (call.leaves C o s) := by
  cases call with
  | registerGovernedRun request | appendAuthorityEvent request | claimRunLease request | renewRunLease request =>
    exact .inl (state_of_traceless (traceless_lift_bind fun _ => traceless_atomically _) h)
  | releaseRunLease request =>
    refine .inl (state_of_traceless (traceless_lift_bind fun _ => ?_) h)
    exact traceless_lift_bind fun _ => traceless_atomically _
  | reserveAggregateBudget request =>
    replace h := errorOf_eq_some.mp h
    rcases reserveAggregateBudget_did request o s 0 with ⟨-, hsame⟩ | ⟨error, he, hconflict | hrejected, hrejects⟩ |
      ⟨result, hok, -⟩
    · exact .inl hsame
    · obtain rfl := Except.error.inj (h.symm.trans he)
      exact .inr (.inl ⟨_, hconflict ▸ .reserveConflict, hrejects.appends⟩)
    · obtain rfl := Except.error.inj (h.symm.trans he)
      exact .inr (.inl ⟨_, hrejected ▸ .reserveRejected, hrejects.appends⟩)
    · cases h.symm.trans hok
  | settleBudgetReservation request =>
    replace h := errorOf_eq_some.mp h
    rcases settleBudgetReservation_did request o s 0 with hsame | ⟨he, hrejects⟩ | ⟨result, hok⟩
    · exact .inl hsame
    · obtain rfl := Except.error.inj (h.symm.trans he)
      exact .inr (.inl ⟨_, .settleRejected, hrejects.appends⟩)
    · cases h.symm.trans hok
  | beginDispatch request =>
    replace h := errorOf_eq_some.mp h
    rcases beginDispatch_did request o s 0 with ⟨-, hsame⟩ | ⟨-, ⟨he, hgrows⟩ | ⟨result, hok⟩⟩
    · exact .inl hsame
    · obtain rfl := Except.error.inj (h.symm.trans he)
      exact .inr (.inl ⟨_, .dispatchRejected, hgrows.appends⟩)
    · cases h.symm.trans hok
  | commitRuntimeBarrier request prepared =>
    replace h := errorOf_eq_some.mp h
    rcases commitRuntimeBarrier_did request prepared o s 0 with ⟨-, hsame⟩ | ⟨-, hsame, -⟩ |
      ⟨_, _, _, -, ⟨⟨result, hok, -⟩, -⟩ | ⟨-, hforfeits⟩⟩
    · exact .inl hsame
    · exact .inl hsame
    · cases h.symm.trans hok
    · exact .inr (.inr ⟨⟨request, prepared, rfl⟩, hforfeits.journal.appends⟩)
  | settleRuntimeFailure request =>
    rcases settleRuntimeFailure_error request o s 0 with ⟨result, hok⟩ | hsame
    · cases (errorOf_eq_some.mp h).symm.trans hok
    · exact .inl hsame
  | reclaimRun request =>
    obtain ⟨error, n', hrefused⟩ := reclaimRun_refuses C request o s 0
    exact .inl (congrArg Outcome.state hrefused)
  | executeOperatorCommand signer request =>
    replace h := errorOf_eq_some.mp h
    rcases executeOperatorCommand_did signer hs request o 0 with ⟨-, -, hsame⟩ | hdid
    · exact .inl hsame
    · rw [h] at hdid
      rcases hdid.2.appends with ⟨rfl, happends⟩ | ⟨rfl, happends⟩
      · exact .inr (.inl ⟨_, .approvalExpired, happends⟩)
      · exact .inr (.inl ⟨_, .commandConflict, happends⟩)

end Refusals

/-- After any calls by any callers. The events of a workspace have the sequences from one on,
each passes the check against its predecessor and carries its digest, and the stored head is the
last event. Later calls keep every event, and one that fails appends none, unless its refusal is
one of those put on record or it is a commit that forfeits its dispatch. -/
theorem audit_log_integrity (C : OperatorStoreContext) (events : List Event) (s : Database) (hs : Provisioned s) :
    let s₁ := after C events s
    (∀ workspaceId, let chain := s₁.journal.chainOf workspaceId
      chain.map sequence = List.range' 1 chain.length ∧
      (∀ event, chain[0]? = some event → event.previousDigest = none ∧
        event.validateChainLink C.hashes 1 none = .ok ()) ∧
      (∀ i before event, chain[i]? = some before → chain[i + 1]? = some event →
        event.previousDigest = some before.eventDigest ∧
        event.validateChainLink C.hashes (i + 2) (some before.eventDigest) = .ok ()) ∧
      ∀ head, Table.lookup AuditHead.workspaceId s₁.journal.auditHeads workspaceId = some head →
        head.lastSequence = chain.length ∧ head.lastDigest = chain.getLast?.map eventDigest) ∧
    (∀ later, ∃ appended, (after C later s₁).journal.auditEvents = s₁.journal.auditEvents ++ appended) ∧
    ∀ (call : Call) (o : Nat → Answer) (e : OperatorStoreError), call.error C o s₁ = some e →
      (call.leaves C o s₁).journal.auditEvents = s₁.journal.auditEvents ∨
      (∃ kinds, Documented call e kinds ∧ Appends kinds s₁ (call.leaves C o s₁)) ∨
      ForfeitsDispatch call s₁ (call.leaves C o s₁) := by
  intro s₁
  have hkeyed : s₁.Keyed := after_keyed events hs.keyed
  have hchained : s₁.journal.Chained C.hashes := after_chained events hs
  refine ⟨fun workspaceId => ⟨hchained.sequences, fun event hevent => ?_, fun i before event hbefore hevent => ?_,
    fun head hhead => hchained.head workspaceId head hhead⟩, fun later => after_auditEvents later hkeyed,
    fun call o e he => ?_⟩
  · exact (hchained.link hevent).2
  · have hlink := (hchained.link hevent).2
    rwa [tip_take_succ hbefore] at hlink
  · exact (call.refusal hkeyed he).imp_left fun hsame => by rw [hsame]

/-- The work of a run of the small store leaves five events. -/
theorem audit_log_workEcho :
    ((after sampleContext workEcho sampleStore).journal.chainOf (.v7 2)).length = 5 ∧
    ((after sampleContext workEcho sampleStore).journal.chainOf (.v7 2)).map sequence =
      List.range' 1 ((after sampleContext workEcho sampleStore).journal.chainOf (.v7 2)).length :=
  ⟨by decide +kernel,
    ((audit_log_integrity sampleContext workEcho sampleStore sampleStore_provisioned).1 (.v7 2)).1⟩

/-- The execution context cannot be inserted: the commit answers that the store is unavailable, with two events on
record. -/
theorem unavailable_commit_audited :
    let answers := fun n => { sampleAnswers 5 n with works := n != 15 }
    let s := after sampleContext (dispatchEcho 1 1 7 9) sampleStore
    let call : Call := .commitRuntimeBarrier commitEcho preparedEcho
    call.error sampleContext answers s = some .unavailable ∧
      (call.leaves sampleContext answers s).journal.auditEvents.map kind =
        s.journal.auditEvents.map kind ++ [.budgetForfeited, .controlFailure] := by
  decide +kernel

end ProofPlatform.Operator
