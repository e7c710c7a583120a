import Mathlib.Data.List.Infix
import Mathlib.Order.Lattice

/-! Prefix patterns: one that ends in the star symbol also denotes every extension of its stem. -/
namespace ProofPlatform.Library.PrefixPattern
open List Option
variable {α : Type*} [DecidableEq α]

/-- Remove one trailing occurrence of a symbol, if the word ends in it. -/
def stripSuffix (star : α) (word : List α) : Option (List α) :=
  if word.getLast? = some star then some word.dropLast else none

variable {star : α} {patterns : List (List α)}

theorem stripSuffix_eq_some {word stem : List α} : stripSuffix star word = some stem ↔ word = stem ++ [star] := by
  unfold stripSuffix
  constructor
  · intro h
    split at h
    next hl =>
      obtain rfl := some.inj h
      obtain ⟨hne, he⟩ := List.getLast?_eq_some_iff.mp hl
      rw [he]
      simp
    next => cases h
  · rintro rfl
    simp

@[simp] theorem stripSuffix_append (star : α) (stem : List α) : stripSuffix star (stem ++ [star]) = some stem :=
  stripSuffix_eq_some.mpr rfl

/-- The words a pattern admits. -/
def Admits (star : α) (pattern word : List α) : Prop :=
  pattern = word ∨ ∃ stem, stripSuffix star pattern = some stem ∧ stem <+: word

/-- Syntactic coverage of one pattern by another, read off the pattern text alone. -/
def Covered (star : α) (pattern authority : List α) : Prop :=
  pattern = authority ∨ ∃ stem, stripSuffix star authority = some stem ∧ stem <+: pattern

/-- The words admitted by at least one pattern of a list. -/
def AdmittedBy (star : α) (patterns : List (List α)) (word : List α) : Prop :=
  ∃ pattern ∈ patterns, Admits star pattern word

theorem admits_literal {pattern word : List α} (h : stripSuffix star pattern = none) :
    Admits star pattern word ↔ pattern = word := by
  simp [Admits, h]

theorem admits_starred {stem word : List α} : Admits star (stem ++ [star]) word ↔ stem <+: word := by
  constructor
  · rintro (rfl | ⟨s, hs, hp⟩)
    · exact prefix_append _ _
    · rw [stripSuffix_append] at hs
      obtain rfl := some.inj hs
      exact hp
  · intro h
    exact .inr ⟨stem, stripSuffix_append star stem, h⟩

variable {pattern authority word : List α}

/-- Coverage preserves denotations unless a starred pattern is covered only with one more star. -/
theorem Covered.admits (hc : Covered star pattern authority)
    (hd : stripSuffix star pattern = none ∨ authority ≠ pattern ++ [star])
    (hw : Admits star pattern word) : Admits star authority word := by
  rcases hc with rfl | ⟨stem, hs, hp⟩
  · exact hw
  rw [stripSuffix_eq_some] at hs
  subst hs
  rw [admits_starred]
  cases he : stripSuffix star pattern with
  | none =>
    rw [admits_literal he] at hw
    exact hw ▸ hp
  | some inner =>
    rw [stripSuffix_eq_some] at he
    subst he
    rw [admits_starred] at hw
    rcases prefix_concat_iff.mp hp with heq | hin
    · subst heq
      exact absurd rfl (hd.resolve_left (by simp))
    · exact hin.trans hw

/-- The one shape of authority that coverage misreads. -/
def DoubleStarred (star : α) (pattern : List α) : Prop := ∃ stem, pattern = stem ++ [star, star]

theorem doubleStarred_iff :
    ((stripSuffix star pattern).bind (stripSuffix star)).isSome = true ↔ DoubleStarred star pattern := by
  simp only [isSome_iff_exists, bind_eq_some_iff, stripSuffix_eq_some, DoubleStarred]
  constructor
  · rintro ⟨stem, _, rfl, rfl⟩
    exact ⟨stem, by simp⟩
  · rintro ⟨stem, rfl⟩
    exact ⟨stem, stem ++ [star], by simp, rfl⟩

instance (star : α) (pattern : List α) : Decidable (DoubleStarred star pattern) :=
  decidable_of_iff _ doubleStarred_iff

/-- What covers a pattern in steps is the pattern or one of its prefixes followed by stars. -/
theorem covered_closure (h : Relation.ReflTransGen (Covered star) pattern authority) :
    pattern = authority ∨
      ∃ stem n, authority = stem ++ List.replicate (n + 1) star ∧ stem <+: pattern := by
  induction h with
  | refl => exact .inl rfl
  | tail _ hc ih =>
    rcases hc with rfl | ⟨stem, hs, hp⟩
    · exact ih
    rw [stripSuffix_eq_some] at hs
    subst hs
    rcases ih with rfl | ⟨low, n, rfl, hlow⟩
    · exact .inr ⟨stem, 0, rfl, hp⟩
    rcases prefix_or_prefix_of_prefix hp (prefix_append low _) with hin | ⟨mid, rfl⟩
    · exact .inr ⟨stem, 0, rfl, hin.trans hlow⟩
    · rw [prefix_append_right_inj, prefix_replicate_iff] at hp
      exact .inr ⟨low, mid.length, by rw [replicate_succ', ← hp.2, append_assoc], hlow⟩

omit [DecidableEq α] in
private theorem doubleStarred_stack (stem : List α) (n : Nat) :
    DoubleStarred star (stem ++ List.replicate (n + 2) star) := by
  refine ⟨stem ++ List.replicate n star, ?_⟩
  rw [append_assoc, show [star, star] = List.replicate 2 star from rfl, replicate_append_replicate]

/-- Coverage in any number of steps is sound at an authority that is not double-starred. -/
theorem admits_of_closure (h : Relation.ReflTransGen (Covered star) pattern authority)
    (hd : ¬ DoubleStarred star authority) (hw : Admits star pattern word) :
    Admits star authority word := by
  rcases covered_closure h with rfl | ⟨stem, n, rfl, hp⟩
  · exact hw
  cases n with
  | succ n => exact absurd (doubleStarred_stack stem n) hd
  | zero =>
    have hc : Covered star pattern (stem ++ [star]) := .inr ⟨stem, stripSuffix_append star stem, hp⟩
    refine hc.admits ?_ hw
    cases he : stripSuffix star pattern with
    | none => exact .inl rfl
    | some inner =>
      rw [stripSuffix_eq_some] at he
      subst he
      refine .inr fun heq => hd ⟨inner, ?_⟩
      simpa using heq

/-- Every extension of a stem is admitted: a starred pattern is at most as long as the stem, or the stem itself is
admitted and each one-symbol extension is covered in turn. -/
inductive StemCovered (star : α) (patterns : List (List α)) : List α → Prop
  | starred {short stem : List α} : short ++ [star] ∈ patterns → short <+: stem → StemCovered star patterns stem
  | split {stem : List α} : AdmittedBy star patterns stem →
      (∀ c, StemCovered star patterns (stem ++ [c])) → StemCovered star patterns stem

variable {stem : List α}

theorem StemCovered.admitted (h : StemCovered star patterns stem) (hw : stem <+: word) :
    AdmittedBy star patterns word := by
  induction h with
  | starred hm hs => exact ⟨_, hm, admits_starred.mpr (hs.trans hw)⟩
  | split ha _ ih =>
    obtain ⟨tail, rfl⟩ := hw
    cases tail with
    | nil => simpa using ha
    | cons c tail => exact ih c ⟨tail, by simp⟩

private theorem admittedBy_long (hlen : ∀ p ∈ patterns, p.length < stem.length) (h : AdmittedBy star patterns stem) :
    StemCovered star patterns stem := by
  obtain ⟨p, hp, rfl | ⟨short, hs, hpre⟩⟩ := h
  · exact absurd (hlen p hp) (lt_irrefl _)
  · rw [stripSuffix_eq_some] at hs
    exact .starred (hs ▸ hp) hpre

private theorem exists_length_bound {β : Type*} (patterns : List (List β)) :
    ∃ bound, ∀ p ∈ patterns, p.length < bound := by
  induction patterns with
  | nil => exact ⟨0, by simp⟩
  | cons p ps ih =>
    obtain ⟨bound, hb⟩ := ih
    refine ⟨max bound (p.length + 1), ?_⟩
    intro q hq
    rcases mem_cons.mp hq with rfl | hq
    · exact lt_of_lt_of_le (Nat.lt_succ_self _) (le_max_right _ _)
    · exact lt_of_lt_of_le (hb q hq) (le_max_left _ _)

/-- Past the longest pattern only a starred one admits a word, so the descent ends. -/
theorem stemCovered_iff : StemCovered star patterns stem ↔ ∀ word, stem <+: word → AdmittedBy star patterns word := by
  constructor
  · intro h word hw
    exact h.admitted hw
  obtain ⟨bound, hb⟩ := exists_length_bound patterns
  -- The descent is on the distance of the stem from the longest pattern.
  induction hn : bound - stem.length generalizing stem with
  | zero =>
    intro h
    refine admittedBy_long (fun p hp => ?_) (h stem prefix_rfl)
    have := hb p hp
    omega
  | succ n ih =>
    intro h
    refine .split (h stem prefix_rfl) (fun c => ?_)
    apply ih
    · simp only [length_append, length_singleton]
      omega
    · intro word hw
      exact h word ((prefix_append _ _).trans hw)

/-- What one pattern needs from a list of patterns for its words to stay admitted. -/
def Within (star : α) (patterns : List (List α)) (pattern : List α) : Prop :=
  match stripSuffix star pattern with
  | none => AdmittedBy star patterns pattern
  | some stem => StemCovered star patterns stem

theorem within_iff :
    Within star patterns pattern ↔
      ∀ word, Admits star pattern word → AdmittedBy star patterns word := by
  unfold Within
  cases he : stripSuffix star pattern with
  | none => simp [admits_literal he]
  | some stem =>
    rw [stripSuffix_eq_some] at he
    subst he
    simp only [stemCovered_iff, admits_starred]

/-- Inclusion between two pattern lists is decided pattern by pattern. -/
theorem admittedBy_subset_iff {child parent : List (List α)} :
    (∀ word, AdmittedBy star child word → AdmittedBy star parent word) ↔
      ∀ pattern ∈ child, Within star parent pattern := by
  simp only [within_iff]
  constructor
  · intro h pattern hp word hw
    exact h word ⟨pattern, hp, hw⟩
  · rintro h word ⟨pattern, hp, hw⟩
    exact h pattern hp word hw

end ProofPlatform.Library.PrefixPattern
