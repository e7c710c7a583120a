import ProofPlatform.Operator.System

/-! A single fenced writer: the leases of a run have the fences 1, 2, 3 and so on, each claimed when all before it were
released. -/
namespace ProofPlatform.Operator
open Kernel Library List Option Database RunLease

/-- The leases of a run in the order in which they were acquired. -/
def Database.leasesOf (s : Database) (runId : Uuid) : List RunLease :=
  s.leases.filter fun lease => decide (lease.runId = runId)

/-- The fences count up from one, and all leases but the last are released. -/
structure Fenced (leases : List RunLease) : Prop where
  fences : leases.map fenceEpoch = List.range' 1 leases.length
  ended : ∀ lease ∈ leases.dropLast, lease.state = .released

section Leases
variable {leases leases' : List RunLease} {lease lease' : RunLease}

theorem mem_leasesOf {s : Database} {runId : Uuid} :
    lease ∈ s.leasesOf runId ↔ lease ∈ s.leases ∧ lease.runId = runId := by
  simp [leasesOf]

private theorem foldr_max_range' (n : Nat) : (List.range' 1 n).foldr max 0 = n := by
  induction n with
  | zero => rfl
  | succ n ih =>
    have hfold (a : Nat) (xs : List Nat) : xs.foldr max a = max (xs.foldr max 0) a := by
      induction xs with
      | nil => simp
      | cons x xs ih => simp [ih, max_assoc]
    rw [List.range'_concat, foldr_append, foldr_cons, foldr_nil, hfold, ih]
    omega

theorem Fenced.nil : Fenced [] := ⟨rfl, by simp⟩

section
variable (h : Fenced leases)
include h

/-- A lease that is claimed under the next fence when all others are released. -/
theorem Fenced.append (hvacant : ∀ row ∈ leases, row.state = .released)
    (hfence : lease.fenceEpoch = (leases.map fenceEpoch).foldr max 0 + 1) : Fenced (leases ++ [lease]) := by
  constructor
  · rw [h.fences, foldr_max_range'] at hfence
    rw [map_append, h.fences, length_append, map_singleton, hfence, length_singleton,
      List.range'_concat, Nat.one_mul, Nat.add_comm]
  · rw [dropLast_concat]
    exact hvacant

section
variable (hmem : lease ∈ leases)
include hmem

theorem Fenced.eq_concat (hactive : lease.state = .active) : leases = leases.dropLast ++ [lease] := by
  have hne : leases ≠ [] := ne_nil_of_mem hmem
  have hconcat := dropLast_append_getLast hne
  rw [← hconcat] at hmem
  rcases mem_append.mp hmem with hmem | hmem
  · exact absurd (hactive.symm.trans (h.ended lease hmem)) (by decide)
  · rw [mem_singleton.mp hmem]
    exact hconcat.symm

theorem Fenced.fence_eq_length (hactive : lease.state = .active) : lease.fenceEpoch = leases.length := by
  have hconcat := h.eq_concat hmem hactive
  have hfences := h.fences
  rw [hconcat, map_append, length_append, length_singleton, List.range'_concat] at hfences
  have hlast := (append_inj' hfences rfl).2
  rw [hconcat, length_append, length_singleton]
  simp only [map_singleton, List.cons.injEq, and_true] at hlast
  omega

theorem Fenced.fence_le_length : lease.fenceEpoch ≤ leases.length := by
  have hfence : lease.fenceEpoch ∈ leases.map fenceEpoch := mem_map_of_mem hmem
  rw [h.fences, mem_range'_1] at hfence
  omega

theorem Fenced.eq_of_fence_eq (hmem' : lease' ∈ leases)
    (hfence : lease.fenceEpoch = lease'.fenceEpoch) : lease = lease' := by
  refine inj_on_of_nodup_map ?_ hmem hmem' hfence
  rw [h.fences]
  exact nodup_range'

theorem Fenced.released_of_lt (hmem' : lease' ∈ leases)
    (hlt : lease.fenceEpoch < lease'.fenceEpoch) : lease.state = .released := by
  cases hstate : lease.state with
  | released => rfl
  | active =>
    have hle := h.fence_le_length hmem'
    rw [← h.fence_eq_length hmem hstate] at hle
    omega

end

theorem Fenced.length_active_le_one : (leases.filter fun lease => lease.state == .active).length ≤ 1 := by
  by_cases hsome : ∃ lease ∈ leases, lease.state = .active
  · obtain ⟨lease, hmem, hactive⟩ := hsome
    have hnone : leases.dropLast.filter (fun lease => lease.state == .active) = [] :=
      filter_eq_nil_iff.mpr fun row hrow => by simp [h.ended row hrow]
    rw [h.eq_concat hmem hactive, filter_append, hnone]
    simp [hactive]
  · push Not at hsome
    rw [filter_eq_nil_iff.mpr fun row hrow => by simpa using hsome row hrow]
    simp

theorem Fenced.replaces (hrows : Table.Replaces leaseId lease lease' leases leases')
    (hactive : lease.state = .active) (hfence : lease'.fenceEpoch = lease.fenceEpoch) : Fenced leases' := by
  have hlength : leases'.length = leases.length := by
    simpa using congrArg List.length (hrows.map_eq (fun _ => ()) rfl)
  refine ⟨?_, ?_⟩
  · rw [hrows.map_eq _ hfence, h.fences, hlength]
  · obtain ⟨-, left, right, rfl, rfl, -⟩ := hrows
    have hright : right = [] := by
      by_contra hne
      refine absurd (hactive.symm.trans (h.ended lease ?_)) (by decide)
      rw [dropLast_append_of_ne_nil (by simp), dropLast_cons_of_ne_nil hne]
      simp
    subst hright
    simpa using h.ended

end

end Leases

variable {lease : RunLease}

section Changes
variable {C : OperatorStoreContext} {who : Option Credential} {now : Instant} {s s' : Database} {runId : Uuid}

section
variable (h : Change C who now s s')
include h

theorem Change.leases_cases : s'.leases = s.leases ∨
    (∃ lease, s'.leases = s.leases ++ [lease] ∧ (∀ row ∈ s.leases, row.runId = lease.runId → row.state = .released) ∧
      lease.fenceEpoch = maxFence s lease.runId + 1) ∨
    ∃ credential control lease lease', who = some credential ∧ Acts C credential now s control lease ∧
      Table.Replaces leaseId lease lease' s.leases s'.leases ∧ lease'.runId = lease.runId ∧
      lease'.fenceEpoch = lease.fenceEpoch ∧ lease'.leaseTokenDigest = lease.leaseTokenDigest := by
  cases h with
  | claimed _ vacant fence => exact .inr (.inl ⟨_, rfl, vacant, fence⟩)
  | relet acts rows run fence token => exact .inr (.inr ⟨_, _, _, _, rfl, acts, rows, run, fence, token⟩)
  | noted | recorded | registered | reserved | released | dispatched => exact .inl rfl
  | committed _ _ _ commits => exact .inl (by rw [commits.rest])
  | forfeited _ _ _ forfeits => exact .inl (by rw [forfeits.rest])
  | cancelled cancels => exact .inl (by rw [cancels.rest])
  | resumed resumes => exact .inl (by rw [resumes.rest])

theorem Change.fenced (hs : Fenced (s.leasesOf runId)) : Fenced (s'.leasesOf runId) := by
  rcases h.leases_cases with hsame | ⟨lease, happend, hvacant, hfence⟩ |
    ⟨credential, control, lease, lease', -, hacts, hrows, hrun, hfence, -⟩
  · rwa [leasesOf, hsame]
  · rw [leasesOf, happend, filter_append]
    by_cases hown : lease.runId = runId
    · subst hown
      rw [filter_cons_of_pos (by simp), filter_nil]
      exact hs.append (fun row hrow => hvacant row (mem_leasesOf.mp hrow).1 (mem_leasesOf.mp hrow).2) hfence
    · rw [filter_cons_of_neg (by simpa using hown), filter_nil, append_nil]
      exact hs
  · by_cases hown : lease.runId = runId
    · exact hs.replaces (hrows.filter _ (by simpa using hown) (by simpa [hrun] using hown)) hacts.active hfence
    · rw [leasesOf, hrows.filter_eq _ (by simpa using hown) (by simpa [hrun] using hown)]
      exact hs

theorem Change.ended_mem {t : Instant} (ht : t ≤ now)
    (hmem : lease ∈ s.leases) (hended : lease.state = .released ∨ lease.expiresAt ≤ t) : lease ∈ s'.leases := by
  rcases h.leases_cases with hsame | ⟨claimed, happend, -⟩ |
    ⟨credential, control, acting, lease', -, hacts, hrows, -⟩
  · rwa [hsame]
  · rw [happend]
    exact mem_append_left _ hmem
  · refine hrows.mem_of_ne hmem ?_
    rintro rfl
    rcases hended with hreleased | hexpired
    · exact absurd (hacts.active.symm.trans hreleased) (by decide)
    · exact absurd hacts.unexpired (not_lt.mpr (hexpired.trans ht))

theorem Change.leasesOf_length_le : (s.leasesOf runId).length ≤ (s'.leasesOf runId).length := by
  rcases h.leases_cases with hsame | ⟨lease, happend, -⟩ | ⟨_, _, lease, lease', -, -, hrows, hrun, -⟩
  · rw [leasesOf, leasesOf, hsame]
  · rw [leasesOf, leasesOf, happend, filter_append, length_append]
    exact Nat.le_add_right _ _
  · have hruns := hrows.map_eq RunLease.runId hrun
    have hlength (leases : List RunLease) : (leases.filter fun lease => decide (lease.runId = runId)).length =
        (leases.map RunLease.runId).count runId := by
      rw [List.count, countP_map, countP_eq_length_filter]
      congr
    rw [leasesOf, leasesOf, hlength, hlength, hruns]

/-- Some run, reservation, checkpoint or budget is not as it was. -/
def WorkChanged (s s' : Database) : Prop :=
  ¬ (s'.agentRuns = s.agentRuns ∧ s'.reservations = s.reservations ∧ s'.checkpoints = s.checkpoints ∧
    s'.budgets = s.budgets)

/-- Such a change is made for a credential, on behalf of a lease that can act. -/
theorem Change.acts (hchanged : WorkChanged s s') :
    ∃ credential control lease, who = some credential ∧ Acts C credential now s control lease := by
  cases h with
  | noted | recorded | registered | claimed | relet => exact absurd ⟨rfl, rfl, rfl, rfl⟩ hchanged
  | reserved acts | released acts | dispatched acts | committed acts | forfeited acts => exact ⟨_, _, _, rfl, acts⟩
  | cancelled cancels => exact ⟨_, _, _, rfl, cancels.acts⟩
  | resumed resumes => exact ⟨_, _, _, rfl, resumes.acts⟩

end

end Changes

section Histories
variable {C : OperatorStoreContext} {s : Database} {runId : Uuid}

theorem after_fenced (events : List Event) (hs : s.Keyed) (hnone : s.leasesOf runId = []) :
    Fenced ((after C events s).leasesOf runId) :=
  after_invariant (I := fun s => Fenced (s.leasesOf runId)) (fun _ h => h.fenced) events hs (hnone ▸ .nil)

theorem after_leasesOf_length_le (events : List Event) (hs : s.Keyed) :
    (s.leasesOf runId).length ≤ ((after C events s).leasesOf runId).length :=
  after_related (R := fun s s' => (s.leasesOf runId).length ≤ (s'.leasesOf runId).length) (I := fun _ => True)
    (T := fun _ => True) (fun _ _ _ => trivial) (fun _ => le_rfl) (fun _ _ _ => le_trans)
    (fun _ _ _ h => h.leasesOf_length_le) (fun _ _ _ _ _ => trivial) hs trivial

/-- No call later than `t` revives a lease that cannot act then. -/
theorem after_ended_mem {events : List Event} {t : Instant} (hs : s.Keyed) (hmem : lease ∈ s.leases)
    (hended : lease.state = .released ∨ lease.expiresAt ≤ t)
    (htimes : ∀ event ∈ events, ∀ n, ∀ now ∈ (event.answers n).now, t ≤ now) : lease ∈ (after C events s).leases :=
  after_related (R := fun s s' => ∀ lease ∈ s.leases, lease.state = .released ∨ lease.expiresAt ≤ t → lease ∈ s'.leases)
    (I := fun _ => True) (T := (t ≤ ·)) (fun _ _ _ => trivial) (fun _ _ hmem _ => hmem)
    (fun _ _ _ h₁ h₂ lease hmem hended => h₂ lease (h₁ lease hmem hended) hended)
    (fun _ _ ht h _ hmem hended => h.ended_mem ht hmem hended) htimes hs trivial lease hmem hended

/-- A call that changes a run, a reservation, a checkpoint or a budget acts for a lease. -/
theorem acts_of_workChanged {event : Event} (hs : s.Keyed) (hchanged : WorkChanged s (next C s event)) :
    ∃ credential control lease now n, event.call.credential = some credential ∧ (event.answers n).now = some now ∧
      Acts C credential now s control lease := by
  rcases next_cases hs event with hsame | ⟨now, n, hnow, hchange⟩
  · exact absurd (hsame.symm ▸ ⟨rfl, rfl, rfl, rfl⟩) hchanged
  · obtain ⟨credential, control, lease, hwho, hacts⟩ := hchange.acts hchanged
    exact ⟨credential, control, lease, now, n, hwho, hnow, hacts⟩

theorem Acts.mem_leasesOf {credential : Credential} {control : RunControl} {now : Instant}
    (h : Acts C credential now s control lease) : lease ∈ s.leasesOf credential.runId :=
  Operator.mem_leasesOf.mpr ⟨(Table.lookup_eq_some h.leaseRow).1, h.run⟩

/-- The credential shows the lease, or for its run the fence, or a token no other lease of it has. -/
def Credential.Presents (C : OperatorStoreContext) (s : Database) (credential : Credential) (lease : RunLease) : Prop :=
  credential.leaseId = some lease.leaseId ∨
  (credential.runId = lease.runId ∧ credential.fenceEpoch = lease.fenceEpoch) ∨
  credential.runId = lease.runId ∧ ∃ token, credential.leaseToken = some token ∧
    C.hashes.leaseToken token = lease.leaseTokenDigest ∧
    ∀ row ∈ s.leasesOf lease.runId, row.leaseTokenDigest = lease.leaseTokenDigest → row = lease

theorem Acts.eq_of_presents {credential : Credential} {control : RunControl} {acting : RunLease} {now : Instant}
    (h : Acts C credential now s control acting) (hs : s.Keyed) (hfenced : Fenced (s.leasesOf lease.runId))
    (hmem : lease ∈ s.leases) (hpresents : credential.Presents C s lease) : acting = lease := by
  have hacting := h.mem_leasesOf
  have hlease : lease ∈ s.leasesOf lease.runId := Operator.mem_leasesOf.mpr ⟨hmem, rfl⟩
  rcases hpresents with hid | ⟨hrun, hfence⟩ | ⟨hrun, token, htoken, hdigest, hunique⟩
  · have hrow := hs.leases.lookup_of_mem hmem
    rw [h.holder _ hid, h.leaseRow] at hrow
    exact some.inj hrow
  · rw [hrun] at hacting
    exact hfenced.eq_of_fence_eq hacting hlease (h.fence.trans hfence)
  · rw [hrun] at hacting
    exact hunique acting hacting ((h.token token htoken).symm.trans hdigest)

end Histories

/-- Over any history of a run that had no lease at its start: its fences count up from one and at most one of its
leases is active; calls that change the run, its reservation, checkpoint or budget act for leases in the order of
their fences; and once a lease is released, replaced or expired, no call that presents it changes any of these. -/
theorem single_fenced_writer (C : OperatorStoreContext) (s : Database) (runId : Uuid) (hs : s.Keyed)
    (hnone : s.leasesOf runId = []) (events : List Event) :
    let s₁ := after C events s
    (s₁.leasesOf runId).map fenceEpoch = List.range' 1 (s₁.leasesOf runId).length ∧
    ((s₁.leasesOf runId).filter fun lease => lease.state == .active).length ≤ 1 ∧
    (∀ event, WorkChanged s₁ (next C s₁ event) → ∃ credential control lease now n,
      event.call.credential = some credential ∧ (event.answers n).now = some now ∧
      Acts C credential now s₁ control lease) ∧
    (∀ first later second, let s₂ := after C later (next C s₁ first)
      WorkChanged s₁ (next C s₁ first) → WorkChanged s₂ (next C s₂ second) →
      ∀ c₁ ∈ first.call.credential, ∀ c₂ ∈ second.call.credential, c₁.runId = runId → c₂.runId = runId →
        c₁.fenceEpoch ≤ c₂.fenceEpoch) ∧
    ∀ lease ∈ s₁.leasesOf runId, ∀ t, (lease.state = .released ∨
        (∃ newer ∈ s₁.leasesOf runId, lease.fenceEpoch < newer.fenceEpoch) ∨ lease.expiresAt ≤ t) →
      ∀ later last, (∀ event ∈ later ++ [last], ∀ n, ∀ now ∈ (event.answers n).now, t ≤ now) →
        ∀ credential ∈ last.call.credential, let s₂ := after C later s₁
        credential.Presents C s₂ lease → ¬ WorkChanged s₂ (next C s₂ last) := by
  intro s₁
  have hs₁ : s₁.Keyed := after_keyed events hs
  have hfenced : Fenced (s₁.leasesOf runId) := after_fenced events hs hnone
  refine ⟨hfenced.fences, hfenced.length_active_le_one, fun event => acts_of_workChanged hs₁, ?_, ?_⟩
  · intro first later second s₂ hfirst hsecond c₁ hc₁ c₂ hc₂ hrun₁ hrun₂
    have hnext : (next C s₁ first).Keyed := next_keyed first hs₁
    have hfenced₂ : Fenced (s₂.leasesOf runId) :=
      after_invariant (I := fun s => Fenced (s.leasesOf runId)) (fun _ h => h.fenced) (first :: later) hs₁ hfenced
    have hlength : (s₁.leasesOf runId).length ≤ (s₂.leasesOf runId).length :=
      after_leasesOf_length_le (first :: later) hs₁
    obtain ⟨c, _, lease₁, _, _, hc, -, hacts₁⟩ := acts_of_workChanged hs₁ hfirst
    obtain rfl : c = c₁ := some.inj (hc.symm.trans hc₁)
    obtain ⟨c', _, lease₂, _, _, hc', -, hacts₂⟩ := acts_of_workChanged (after_keyed later hnext) hsecond
    obtain rfl : c' = c₂ := some.inj (hc'.symm.trans hc₂)
    have hmem₁ := hrun₁ ▸ hacts₁.mem_leasesOf
    have hmem₂ := hrun₂ ▸ hacts₂.mem_leasesOf
    calc c.fenceEpoch = lease₁.fenceEpoch := hacts₁.fence.symm
      _ ≤ (s₁.leasesOf runId).length := hfenced.fence_le_length hmem₁
      _ ≤ (s₂.leasesOf runId).length := hlength
      _ = lease₂.fenceEpoch := (hfenced₂.fence_eq_length hmem₂ hacts₂.active).symm
      _ = c'.fenceEpoch := hacts₂.fence
  · intro lease hmem t hended later last htimes credential hcredential s₂ hpresents hchanged
    obtain ⟨hlease, hrun⟩ := mem_leasesOf.mp hmem
    have hended' : lease.state = .released ∨ lease.expiresAt ≤ t := by
      rcases hended with hreleased | ⟨newer, hnewer, hlt⟩ | hexpired
      · exact .inl hreleased
      · exact .inl (hfenced.released_of_lt hmem hnewer hlt)
      · exact .inr hexpired
    have hmem₂ : lease ∈ s₂.leases :=
      after_ended_mem hs₁ hlease hended' fun event hevent => htimes event (mem_append_left _ hevent)
    have hfenced₂ : Fenced (s₂.leasesOf lease.runId) := by
      rw [hrun]
      exact after_invariant (I := fun s => Fenced (s.leasesOf runId)) (fun _ h => h.fenced) later hs₁ hfenced
    obtain ⟨c, _, acting, now, n, hc, hnow, hacts⟩ := acts_of_workChanged (after_keyed later hs₁) hchanged
    obtain rfl : c = credential := some.inj (hc.symm.trans hcredential)
    obtain rfl := hacts.eq_of_presents (after_keyed later hs₁) hfenced₂ hmem₂ hpresents
    rcases hended' with hreleased | hexpired
    · exact absurd (hacts.active.symm.trans hreleased) (by decide)
    · have htime := htimes last (mem_append_right _ (mem_singleton_self last)) n now hnow
      exact absurd hacts.unexpired (not_lt.mpr (hexpired.trans htime))

/-- The worker releases its lease and claims the next one with the token it had. -/
def reuseToken : List Event :=
  [⟨.registerGovernedRun (registerRun 1), sampleAnswers 1⟩, ⟨.claimRunLease (claimLease 1 1 0 7), sampleAnswers 2⟩,
    ⟨.releaseRunLease ⟨"proof.operator.lease-release-request/v1", some (holdLease 1 1 1 7)⟩, sampleAnswers 3⟩,
    ⟨.claimRunLease (claimLease 1 2 2 7), sampleAnswers 4⟩]

private theorem reuseToken_released :
    ∃ lease ∈ (after sampleContext reuseToken sampleStore).leasesOf (runUuid 1 1), lease.state = .released ∧
      lease.fenceEpoch = 1 ∧ lease.runId = runUuid 1 1 ∧ lease.leaseTokenDigest = ⟨7⟩ := by
  have hleases : ((after sampleContext reuseToken sampleStore).leasesOf (runUuid 1 1)).head?.map (fun lease =>
      (lease.state, lease.fenceEpoch, lease.runId, lease.leaseTokenDigest)) =
      some (.released, 1, runUuid 1 1, ⟨7⟩) := by decide +kernel
  obtain ⟨lease, hlease, hfields⟩ := map_eq_some_iff.mp hleases
  exact ⟨lease, mem_of_head? hlease, by simpa only [Prod.mk.injEq] using hfields⟩

theorem single_fenced_writer_released :
    sampleStore.leasesOf (runUuid 1 1) = [] ∧
    let s := after sampleContext reuseToken sampleStore
    (s.leasesOf (runUuid 1 1)).map fenceEpoch = [1, 2] ∧
    ((s.leasesOf (runUuid 1 1)).filter fun lease => lease.state == .active).length ≤ 1 ∧
    ¬ WorkChanged s (next sampleContext s ⟨.reserveAggregateBudget (reserveEcho 1 1 3 7), sampleAnswers 5⟩) := by
  obtain ⟨lease, hlease, hstate, hfence, hrun, -⟩ := reuseToken_released
  obtain ⟨-, hactive, -, -, hstale⟩ := single_fenced_writer sampleContext sampleStore (runUuid 1 1)
    sampleStore_provisioned.keyed rfl reuseToken
  refine ⟨rfl, by decide +kernel, hactive, ?_⟩
  exact hstale lease hlease 0 (.inl hstate) [] _ (by simp [sampleAnswers]) _ rfl
    (.inr (.inl ⟨hrun.symm, hfence.symm⟩))

/-- Tokens of leases may repeat: a call that carries the token of a released lease reserves. -/
theorem released_token_reserves :
    let s := after sampleContext reuseToken sampleStore
    let event : Event := ⟨.reserveAggregateBudget (reserveEcho 1 2 3 7), sampleAnswers 5⟩
    (∃ lease ∈ s.leasesOf (runUuid 1 1), lease.state = .released ∧ lease.fenceEpoch = 1 ∧
      ∃ credential, event.call.credential = some credential ∧ credential.runId = lease.runId ∧
        ∃ token, credential.leaseToken = some token ∧
          sampleContext.hashes.leaseToken token = lease.leaseTokenDigest) ∧
    WorkChanged s (next sampleContext s event) := by
  intro s event
  obtain ⟨lease, hlease, hstate, hfence, hrun, htoken⟩ := reuseToken_released
  refine ⟨⟨lease, hlease, hstate, hfence, _, rfl, hrun.symm, 7, rfl, htoken.symm⟩, fun hsame => ?_⟩
  have hgrown : (next sampleContext s event).reservations.length ≠ s.reservations.length := by decide +kernel
  exact hgrown (congrArg List.length hsame.2.1)

end ProofPlatform.Operator
