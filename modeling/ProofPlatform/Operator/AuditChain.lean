import ProofPlatform.Library.KeyedLog
import ProofPlatform.Operator.Database

/-! How the journal grows: ever higher projections, and events linked to the chain's head. -/
namespace ProofPlatform.Operator
open Kernel Library Library.HashChain Table

variable {H : ControlHashes} {journal journal' : Journal} {events : List AuditEvent}

/-- An event follows the head of its workspace and takes its place. -/
structure Links (H : ControlHashes) (journal : Journal) (heads : List AuditHead) (event : AuditEvent) : Prop where
  head : ∃ head, Replaces AuditHead.workspaceId head
      ⟨event.workspaceId, head.lastSequence + 1, some event.eventDigest⟩ journal.auditHeads heads ∧
    event.validateChainLink H (head.lastSequence + 1) head.lastDigest = .ok ()
  new : ∀ row ∈ journal.auditEvents, row.eventId ≠ event.eventId ∧ row.eventDigest ≠ event.eventDigest

/-- The journal grows by these events, and by projections. -/
inductive Grows (H : ControlHashes) (journal : Journal) : List AuditEvent → Journal → Prop
  | refl : Grows H journal [] journal
  | projected {events journal' projection} (before : Grows H journal events journal')
      (later : ∀ row ∈ journal'.projections, row.projectionSequence < projection.projectionSequence)
      (valid : projection.validate H = .ok ()) : Grows H journal events (journal'.projected projection)
  | audited {events journal' heads event} (before : Grows H journal events journal')
      (links : Links H journal' heads event) : Grows H journal (events ++ [event]) (journal'.audited heads event)

theorem Grows.audit {heads : List AuditHead} {event : AuditEvent} (h : Links H journal heads event) :
    Grows H journal [event] (journal.audited heads event) := .audited .refl h

theorem Grows.trans {journal₂ journal₃ : Journal} {events' : List AuditEvent} (h : Grows H journal events journal₂)
    (h' : Grows H journal₂ events' journal₃) : Grows H journal (events ++ events') journal₃ := by
  induction h' with
  | refl => simpa using h
  | projected _ later valid ih => exact .projected ih later valid
  | audited _ links ih =>
    rw [← List.append_assoc]
    exact .audited ih links

theorem Grows.auditEvents_eq (h : Grows H journal events journal') :
    journal'.auditEvents = journal.auditEvents ++ events := by
  induction h with
  | refl => simp
  | projected _ _ _ ih => exact ih
  | audited _ _ ih => simp [Journal.audited, ih]

/-! ### The chain of a workspace -/

/-- The events of a workspace, in the order they were committed. -/
def Journal.chainOf (journal : Journal) (workspaceId : Uuid) : List AuditEvent :=
  journal.auditEvents.filter fun event => decide (event.workspaceId = workspaceId)

/-- The check that an event passes in its place of the chain. -/
def ValidLink (H : ControlHashes) (event : AuditEvent) (sequence : Nat) (previous : Option ControlDigest) : Prop :=
  event.validateChainLink H sequence previous = .ok ()

/-- Every workspace's events are a chain, and its head is the last of them. -/
structure Journal.Chained (H : ControlHashes) (journal : Journal) : Prop where
  chain : ∀ workspaceId, Chain AuditEvent.eventDigest (ValidLink H) (journal.chainOf workspaceId)
  head : ∀ workspaceId head, lookup AuditHead.workspaceId journal.auditHeads workspaceId = some head →
    head.lastSequence = (journal.chainOf workspaceId).length ∧
      head.lastDigest = tip AuditEvent.eventDigest (journal.chainOf workspaceId)
  headless : ∀ workspaceId, lookup AuditHead.workspaceId journal.auditHeads workspaceId = none →
    journal.chainOf workspaceId = []

theorem Journal.chainOf_audited (journal : Journal) (heads : List AuditHead) (event : AuditEvent) (workspaceId : Uuid) :
    (journal.audited heads event).chainOf workspaceId =
      journal.chainOf workspaceId ++ if workspaceId = event.workspaceId then [event] else [] := by
  by_cases hw : workspaceId = event.workspaceId
  · simp [Journal.chainOf, Journal.audited, hw]
  · simp [Journal.chainOf, Journal.audited, hw, Ne.symm hw]

theorem Links.chained {heads : List AuditHead} {event : AuditEvent} (h : Links H journal heads event)
    (hc : journal.Chained H) : (journal.audited heads event).Chained H := by
  obtain ⟨⟨head, hrows, hvalid⟩, -⟩ := h
  have hfound := hrows.lookup_old
  have hworkspace : head.workspaceId = event.workspaceId := hrows.key_eq.symm
  rw [hworkspace] at hfound
  obtain ⟨hlength, htip⟩ := hc.head _ _ hfound
  have hlookup (workspaceId : Uuid) :
      lookup AuditHead.workspaceId (journal.audited heads event).auditHeads workspaceId =
        if workspaceId = event.workspaceId then
          some ⟨event.workspaceId, head.lastSequence + 1, some event.eventDigest⟩
        else lookup AuditHead.workspaceId journal.auditHeads workspaceId := by
    have hrow := hrows.lookup_eq (k := workspaceId)
    rwa [hworkspace] at hrow
  refine ⟨fun workspaceId => ?_, fun workspaceId head' hhead => ?_, fun workspaceId hnone => ?_⟩
  · rw [Journal.chainOf_audited]
    split
    · rename_i hw
      subst hw
      refine .snoc (hc.chain _) ?_
      rw [← hlength, ← htip]
      exact hvalid
    · rw [List.append_nil]
      exact hc.chain workspaceId
  · rw [hlookup] at hhead
    rw [Journal.chainOf_audited]
    split at hhead
    · rename_i hw
      subst hw
      obtain rfl := Option.some.inj hhead
      simp [hlength]
    · rename_i hw
      simpa [hw] using hc.head workspaceId head' hhead
  · rw [hlookup] at hnone
    split at hnone
    · cases hnone
    · rename_i hw
      simpa [Journal.chainOf_audited, hw] using hc.headless workspaceId hnone

theorem Grows.chained (h : Grows H journal events journal') (hc : journal.Chained H) : journal'.Chained H := by
  induction h with
  | refl => exact hc
  | projected _ _ _ ih => exact ⟨ih.chain, ih.head, ih.headless⟩
  | audited _ links ih => exact links.chained ih

end ProofPlatform.Operator
