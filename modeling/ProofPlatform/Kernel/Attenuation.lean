import ProofPlatform.Kernel.Delegation
import Mathlib.Data.List.Chain

/-! What a validated chain guarantees, and when its narrowing of patterns is a
narrowing of authority. -/
namespace ProofPlatform.Kernel
open Library.PrefixPattern Library.Fallible List Bool

/-- The patterns of a list as words over characters. -/
def words (patterns : List String) : List (List Char) := patterns.map String.toList

private theorem any_isPrefixOf {o : Option (List Char)} {v : List Char} :
    (o.any fun stem => stem.isPrefixOf v) = true ↔ ∃ stem, o = some stem ∧ stem <+: v := by
  cases o <;> simp

theorem wildcard_iff {pattern value : String} : wildcard pattern value = true ↔
    ∃ stem, stripSuffix '*' pattern.toList = some stem ∧ stem <+: value.toList :=
  any_isPrefixOf

theorem patternIsCovered_iff {pattern authority : String} :
    patternIsCovered pattern authority = true ↔ Covered '*' pattern.toList authority.toList := by
  simp only [patternIsCovered, or_eq_true, beq_iff_eq, any_isPrefixOf, Covered, String.toList_inj]
  constructor
  · rintro ((rfl | h) | h)
    · exact .inr ⟨[], by decide, nil_prefix⟩
    · exact .inl h
    · exact .inr h
  · rintro (h | h)
    · exact .inl (.inr h)
    · exact .inr h

theorem allowsValue_iff {patterns : List String} {value : String} :
    allowsValue patterns value = true ↔ AdmittedBy '*' (words patterns) value.toList := by
  simp only [allowsValue, any_eq_true, or_eq_true, beq_iff_eq, wildcard_iff, AdmittedBy, words,
    mem_map, exists_exists_and_eq_and, Admits, String.toList_inj]
  refine exists_congr fun pattern => and_congr_right fun _ => ?_
  constructor
  · rintro ((rfl | h) | h)
    · exact .inr ⟨[], by decide, nil_prefix⟩
    · exact .inl h
    · exact .inr h
  · rintro (h | h)
    · exact .inl (.inr h)
    · exact .inr h

/-- Each pattern of the child is a value the parent accepts, or has its whole stem covered. -/
def PatternsWithin (parent child : List String) : Prop :=
  ∀ pattern ∈ words child, Within '*' (words parent) pattern

variable {parent child : List String} {now : Instant} {grants : List Delegation} {grant : Delegation}

theorem allowsValue_subset_iff : (∀ value, allowsValue child value = true → allowsValue parent value = true) ↔
      PatternsWithin parent child := by
  rw [PatternsWithin, ← admittedBy_subset_iff]
  simp only [allowsValue_iff]
  constructor
  · intro h word hw
    simpa using h (String.ofList word) (by simpa using hw)
  · intro h value hv
    exact h value.toList hv

/-- Some pattern of the list ends in two stars. -/
def HasDoubleStar (patterns : List String) : Prop :=
  ∃ pattern ∈ words patterns, DoubleStarred '*' pattern

instance (patterns : List String) : Decidable (HasDoubleStar patterns) :=
  inferInstanceAs (Decidable (∃ pattern ∈ words patterns, DoubleStarred '*' pattern))

theorem checkAuthority_eq_ok {patterns authority : List String} {err : String → DelegationError} :
    checkAuthority patterns authority err = .ok () ↔
      ∀ pattern ∈ patterns, ∃ parent ∈ authority, patternIsCovered pattern parent = true := by
  unfold checkAuthority
  cases hf : patterns.find? fun pattern => !authority.any (patternIsCovered pattern) with
  | none => simpa [List.find?_eq_none] using hf
  | some pattern =>
    have hp := List.find?_some hf
    have hm := mem_of_find?_eq_some hf
    simp only [reduceCtorEq, false_iff, not_forall]
    exact ⟨pattern, hm, by simpa using hp⟩

/-- The patterns of a child grant are covered, as patterns, by those of its parent. -/
def PatternsCovered (parent child : List String) : Prop :=
  ∀ pattern ∈ child, ∃ authority ∈ parent, patternIsCovered pattern authority = true

/-- A grant in force at an instant. -/
structure Delegation.LiveAt (grant : Delegation) (now : Instant) : Prop where
  notRevoked : grant.revoked = false
  started : grant.validFrom ≤ now
  notEnded : now ≤ grant.validUntil

/-- What the chain loop asks of two consecutive grants. -/
structure DelegationLink (parent child : Delegation) : Prop where
  connected : child.issuer = parent.recipient
  actions : PatternsCovered parent.allowedActions child.allowedActions
  resources : PatternsCovered parent.resourceScope child.resourceScope

/-- A chain that connects the root to the executing agent at an instant. -/
structure ValidChain (root executingAgent : PrincipalId) (now : Instant) (grants : List Delegation) : Prop where
  nonempty : grants ≠ []
  rooted : (grants.head nonempty).issuer = root
  live : ∀ grant ∈ grants, grant.LiveAt now
  links : grants.IsChain DelegationLink
  terminal : (grants.getLast nonempty).recipient = executingAgent

private theorem patternIsCovered_star (pattern : String) : patternIsCovered pattern "*" = true := rfl

private theorem time_eq_false : (!(decide (grant.validFrom ≤ now) && decide (now ≤ grant.validUntil) &&
      decide (grant.validFrom ≤ grant.validUntil))) = false ↔
      grant.validFrom ≤ now ∧ now ≤ grant.validUntil := by
  simp only [not_eq_false', and_eq_true, decide_eq_true_eq]
  constructor
  · exact fun h => h.1
  · exact fun h => ⟨h, h.1.trans h.2⟩

theorem checkGrant_root {index : Nat} : checkGrant now index none grant = .ok () ↔ grant.LiveAt now := by
  simp only [checkGrant, seq_eq_ok, reject_eq_ok, checkAuthority_eq_ok, time_eq_false, Option.elim_none,
    Option.any_none, mem_singleton, exists_eq_left, patternIsCovered_star]
  constructor
  · rintro ⟨-, hr, ⟨hf, hu⟩, -, -⟩
    exact ⟨hr, hf, hu⟩
  · rintro ⟨hr, hf, hu⟩
    exact ⟨trivial, hr, ⟨hf, hu⟩, fun _ _ => trivial, fun _ _ => trivial⟩

theorem checkGrant_child {parent : Delegation} {index : Nat} :
    checkGrant now index (some parent) grant = .ok () ↔
      grant.LiveAt now ∧ DelegationLink parent grant := by
  simp only [checkGrant, seq_eq_ok, reject_eq_ok, checkAuthority_eq_ok, time_eq_false, Option.elim_some,
    Option.any_some, bne_eq_false_iff_eq]
  constructor
  · rintro ⟨hc, hr, ⟨hf, hu⟩, ha, hs⟩
    exact ⟨⟨hr, hf, hu⟩, hc, ha, hs⟩
  · rintro ⟨⟨hr, hf, hu⟩, hc, ha, hs⟩
    exact ⟨hc, hr, ⟨hf, hu⟩, ha, hs⟩

private theorem checkGrants_child (grants : List Delegation) (parent : Delegation)
    (index : Nat) : checkGrants now index (some parent) grants = .ok () ↔
      (∀ grant ∈ grants, grant.LiveAt now) ∧ (parent :: grants).IsChain DelegationLink := by
  induction grants generalizing parent index with
  | nil => simp [checkGrants]
  | cons grant rest ih =>
    simp only [checkGrants, seq_eq_ok, checkGrant_child, ih, forall_mem_cons,
      isChain_cons_cons]
    tauto

/-- The validator checks each grant and each consecutive pair, nothing between distant ones. -/
theorem validateChain_eq_ok {root executingAgent : PrincipalId} :
    validateChain root executingAgent grants now = .ok () ↔ ValidChain root executingAgent now grants := by
  cases grants with
  | nil =>
    simp only [validateChain, reduceCtorEq, false_iff]
    exact fun h => h.nonempty rfl
  | cons first rest =>
    simp only [validateChain, seq_eq_ok, reject_eq_ok, bne_eq_false_iff_eq, checkGrants, checkGrant_root,
      checkGrants_child]
    constructor
    · rintro ⟨hroot, ⟨hfirst, hrest, hlinks⟩, hlast⟩
      exact ⟨by simp, hroot, forall_mem_cons.mpr ⟨hfirst, hrest⟩, hlinks, hlast⟩
    · rintro ⟨_, hroot, hlive, hlinks, hlast⟩
      rw [forall_mem_cons] at hlive
      exact ⟨hroot, ⟨hlive.1, hlive.2, hlinks⟩, hlast⟩

/-- Coverage in any number of links. -/
def PatternsReach (parent child : List String) : Prop :=
  ∀ pattern ∈ words child, ∃ authority ∈ words parent,
    Relation.ReflTransGen (Covered '*') pattern authority

private theorem PatternsCovered.reach (h : PatternsCovered parent child) : PatternsReach parent child := by
  intro pattern hw
  obtain ⟨p, hp, rfl⟩ := mem_map.mp hw
  obtain ⟨q, hq, hc⟩ := h p hp
  exact ⟨q.toList, mem_map_of_mem hq, .single (patternIsCovered_iff.mp hc)⟩

private theorem PatternsReach.trans {a b c : List String} (hab : PatternsReach a b)
    (hbc : PatternsReach b c) : PatternsReach a c := by
  intro pattern hp
  obtain ⟨q, hq, hpq⟩ := hbc pattern hp
  obtain ⟨r, hr, hqr⟩ := hab q hq
  exact ⟨r, hr, hpq.trans hqr⟩

private theorem PatternsReach.rfl {a : List String} : PatternsReach a a :=
  fun pattern hp => ⟨pattern, hp, .refl⟩

/-- The only defect of pattern coverage along a chain is a double star at the far end. -/
theorem PatternsReach.within (h : PatternsReach parent child)
    (hd : ¬ HasDoubleStar parent) : PatternsWithin parent child := by
  intro pattern hp
  obtain ⟨authority, ha, hr⟩ := h pattern hp
  rw [within_iff]
  intro word hw
  exact ⟨authority, ha, admits_of_closure hr (fun hs => hd ⟨authority, ha, hs⟩) hw⟩

/-- The last grant of a chain is reached from every grant of it, through any field of
patterns that each link covers. -/
theorem chain_reaches_last (patterns : Delegation → List String)
    (hlink : ∀ parent child, DelegationLink parent child → PatternsCovered (patterns parent) (patterns child))
    (hc : grants.IsChain DelegationLink) (hne : grants ≠ []) (hg : grant ∈ grants) :
    PatternsReach (patterns grant) (patterns (grants.getLast hne)) := by
  let R (parent child : Delegation) : Prop := PatternsReach (patterns parent) (patterns child)
  have : Trans R R R := ⟨fun hab hbc => PatternsReach.trans hab hbc⟩
  have hp : grants.Pairwise R := isChain_iff_pairwise.mp (hc.imp fun a b h => (hlink a b h).reach)
  exact hp.rel_getLast_of_rel_getLast_getLast hg PatternsReach.rfl

/-- The child accepts no action and no resource that the parent does not accept. -/
def Delegation.Narrows (child parent : Delegation) : Prop :=
  (∀ action, child.allowsAction action = true → parent.allowsAction action = true) ∧
    ∀ resource, child.inScope resource = true → parent.inScope resource = true

/-- A double star in the parent's patterns is harmless: the child's patterns stay within them. -/
def Delegation.GuardsStars (child parent : Delegation) : Prop :=
  (HasDoubleStar parent.allowedActions → PatternsWithin parent.allowedActions child.allowedActions) ∧
    (HasDoubleStar parent.resourceScope → PatternsWithin parent.resourceScope child.resourceScope)

/-- The last grant of a chain accepts only what every grant of the chain accepts. -/
def Attenuates (grants : List Delegation) : Prop :=
  ∀ last ∈ grants.getLast?, ∀ grant ∈ grants, last.Narrows grant

/-- No grant of a chain accepts more than the grant before it. -/
def NeverWidens (grants : List Delegation) : Prop :=
  grants.IsChain fun parent child => child.Narrows parent

private theorem subset_iff_of_reach (h : PatternsReach parent child) :
    (∀ value, allowsValue child value = true → allowsValue parent value = true) ↔
      (HasDoubleStar parent → PatternsWithin parent child) := by
  rw [allowsValue_subset_iff]
  constructor
  · exact fun hw _ => hw
  · intro hg
    by_cases hd : HasDoubleStar parent
    · exact hg hd
    · exact h.within hd

private theorem narrows_iff_of_reach {parent child : Delegation}
    (ha : PatternsReach parent.allowedActions child.allowedActions)
    (hr : PatternsReach parent.resourceScope child.resourceScope) :
    child.Narrows parent ↔ child.GuardsStars parent :=
  and_congr (subset_iff_of_reach ha) (subset_iff_of_reach hr)

private theorem isChain_congr_of_links {R S : Delegation → Delegation → Prop}
    (h : ∀ parent child, DelegationLink parent child → (R parent child ↔ S parent child))
    (hc : grants.IsChain DelegationLink) :
    grants.IsChain R ↔ grants.IsChain S := by
  induction hc with
  | nil | singleton => simp
  | cons_cons hab _ ih => rw [isChain_cons_cons, isChain_cons_cons, h _ _ hab, ih]

/-- A validated chain attenuates, end to end and link by link, if and only if every grant with a pattern ending in two
stars still accepts what the patterns below it accept. -/
theorem validateChain_attenuates_iff (root executingAgent : PrincipalId) (grants : List Delegation)
    (now : Instant) (hv : validateChain root executingAgent grants now = .ok ()) :
    (Attenuates grants ↔ ∀ last ∈ grants.getLast?, ∀ grant ∈ grants, last.GuardsStars grant) ∧
    (NeverWidens grants ↔ grants.IsChain fun parent child => child.GuardsStars parent) := by
  have hc := validateChain_eq_ok.mp hv
  have hlast : grants.getLast? = some (grants.getLast hc.nonempty) := List.getLast?_eq_some_getLast _
  constructor
  · simp only [Attenuates, hlast, Option.mem_some_iff, forall_eq']
    refine forall₂_congr fun grant hg => narrows_iff_of_reach ?_ ?_
    · exact chain_reaches_last Delegation.allowedActions (fun _ _ h => h.actions) hc.links hc.nonempty hg
    · exact chain_reaches_last Delegation.resourceScope (fun _ _ h => h.resources) hc.links hc.nonempty hg
  · exact isChain_congr_of_links (fun _ _ h => narrows_iff_of_reach h.actions.reach h.resources.reach) hc.links

/-- A principal with the given number. -/
def principal (n : Nat) : PrincipalId := ⟨Uuid.v7 n⟩

/-- A grant over actions between two numbered principals, in force throughout 0 to 10. -/
def actionGrant (issuer recipient : Nat) (actions : List String) : Delegation :=
  ⟨Uuid.v7 (100 + recipient), principal issuer, principal recipient, actions, ["*"], ⟨none, none, none⟩, 0, 10, false⟩

theorem validateChain_attenuates_content :
    validateChain (principal 0) (principal 2)
      [actionGrant 0 1 ["content:*"], actionGrant 1 2 ["content:read"]] 5 = .ok () ∧
    Attenuates [actionGrant 0 1 ["content:*"], actionGrant 1 2 ["content:read"]] := by
  have hv : validateChain (principal 0) (principal 2)
      [actionGrant 0 1 ["content:*"], actionGrant 1 2 ["content:read"]] 5 = .ok () := by decide
  refine ⟨hv, (validateChain_attenuates_iff _ _ _ _ hv).1.mpr ?_⟩
  intro last _ grant hg
  have hstars : ¬ HasDoubleStar grant.allowedActions ∧ ¬ HasDoubleStar grant.resourceScope := by
    revert grant
    decide
  exact ⟨fun h => absurd h hstars.1, fun h => absurd h hstars.2⟩

/-- A second star shrinks what a pattern accepts, yet it counts as authority for the shorter one. -/
theorem double_star_widens :
    validateChain (principal 0) (principal 2) [actionGrant 0 1 ["a**"], actionGrant 1 2 ["a*"]] 5 = .ok () ∧
    (actionGrant 1 2 ["a*"]).allowsAction "ab" = true ∧
    (actionGrant 0 1 ["a**"]).allowsAction "ab" = false := by
  decide

end ProofPlatform.Kernel
