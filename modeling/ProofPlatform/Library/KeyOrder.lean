import Mathlib.Data.List.Sort

/-! Association lists with distinct keys, looked up and put in the order of their keys. -/
namespace ProofPlatform.Library.KeyOrder
open List

variable {κ α β : Type} [LinearOrder κ] {l m : List (κ × α)}

def sortByKey (l : List (κ × α)) : List (κ × α) := l.insertionSort fun a b => a.1 ≤ b.1

@[simp] theorem mem_sortByKey {member : κ × α} : member ∈ sortByKey l ↔ member ∈ l := mem_insertionSort _

theorem sortByKey_perm (l : List (κ × α)) : (sortByKey l).Perm l := perm_insertionSort _ _

theorem sortByKey_map (f : α → β) (l : List (κ × α)) :
    sortByKey (l.map fun member => (member.1, f member.2)) =
      (sortByKey l).map fun member => (member.1, f member.2) := by
  unfold sortByKey
  rw [map_insertionSort _ fun a b : κ × β => a.1 ≤ b.1]
  exact fun _ _ _ _ => Iff.rfl

section
variable (hl : (l.map Prod.fst).Nodup)
include hl

theorem nodup_sortByKey : ((sortByKey l).map Prod.fst).Nodup :=
  ((sortByKey_perm l).map Prod.fst).nodup_iff.mpr hl

private theorem sortByKey_increasing : (sortByKey l).Pairwise fun a b => a.1 < b.1 := by
  have hle : (sortByKey l).Pairwise fun a b => a.1 ≤ b.1 := pairwise_insertionSort (r := fun a b => a.1 ≤ b.1) l
  have hne : (sortByKey l).Pairwise fun a b => a.1 ≠ b.1 := pairwise_map.mp (nodup_sortByKey hl)
  exact (hle.and hne).imp fun h => lt_of_le_of_ne h.1 h.2

theorem sortByKey_eq_iff : sortByKey l = sortByKey m ↔ l.Perm m := by
  constructor
  · intro h
    exact (sortByKey_perm l).symm.trans (h ▸ sortByKey_perm m)
  · intro h
    have hm : (m.map Prod.fst).Nodup := (h.map Prod.fst).nodup_iff.mp hl
    have hp : (sortByKey l).Perm (sortByKey m) := (sortByKey_perm l).trans (h.trans (sortByKey_perm m).symm)
    exact hp.eq_of_pairwise (fun a b _ _ hab hba => absurd hba (lt_asymm hab)) (sortByKey_increasing hl)
      (sortByKey_increasing hm)

theorem sortByKey_idem : sortByKey (sortByKey l) = sortByKey l :=
  (sortByKey_eq_iff (nodup_sortByKey hl)).mpr (sortByKey_perm l)

end

theorem lookup_eq_some_iff (hm : (m.map Prod.fst).Nodup) {key : κ} {value : α} :
    m.lookup key = some value ↔ (key, value) ∈ m := by
  induction m with
  | nil => simp
  | cons first rest ih =>
    obtain ⟨k, v⟩ := first
    rw [map_cons, nodup_cons] at hm
    rw [lookup_cons, mem_cons]
    by_cases hk : key = k
    · subst hk
      have hnot : (key, value) ∉ rest := fun h => hm.1 (mem_map.mpr ⟨_, h, rfl⟩)
      simp [hnot, eq_comm]
    · have hb : (key == k) = false := beq_false_of_ne hk
      simp [hb, hk, ih hm.2]

theorem perm_iff_lookup (hl : (l.map Prod.fst).Nodup) (hm : (m.map Prod.fst).Nodup) :
    l.Perm m ↔ l.length = m.length ∧ ∀ member ∈ l, m.lookup member.1 = some member.2 := by
  simp only [lookup_eq_some_iff hm]
  constructor
  · intro h
    exact ⟨h.length_eq, fun member hmem => h.mem_iff.mp hmem⟩
  · rintro ⟨hlen, hsub⟩
    have hnodup : l.Nodup := hl.of_map Prod.fst
    exact (subperm_of_subset hnodup hsub).perm_of_length_le hlen.ge

end ProofPlatform.Library.KeyOrder
