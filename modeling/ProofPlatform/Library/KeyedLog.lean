import Mathlib.Data.List.Range
import ProofPlatform.Library.Table

/-! Append-only logs: the rows of a key stand at the places 0, 1, 2 and so on, in the order they were written. Hash
chains: an entry is checked against its place and the digest of the entry before it. -/
namespace ProofPlatform.Library.KeyedLog
open List
variable {α κ : Type} [DecidableEq κ]

/-- The log of a key, oldest row first. -/
def logOf (key : α → κ) (k : κ) (rows : List α) : List α := rows.filter fun row => decide (key row = k)

/-- The rows of every key stand at 0, 1, 2 and so on. -/
def Contiguous (key : α → κ) (place : α → Nat) (rows : List α) : Prop :=
  ∀ k, (logOf key k rows).map place = List.range (logOf key k rows).length

variable {key : α → κ} {place : α → Nat} {rows : List α} {row row' : α} {k : κ}

theorem mem_logOf : row ∈ logOf key k rows ↔ row ∈ rows ∧ key row = k := by
  simp [logOf]

theorem logOf_append_self (rows : List α) (row : α) :
    logOf key (key row) (rows ++ [row]) = logOf key (key row) rows ++ [row] := by
  simp [logOf]

theorem logOf_append_other (rows : List α) (h : key row ≠ k) : logOf key k (rows ++ [row]) = logOf key k rows := by
  simp [logOf, h]

theorem logOf_map {ρ : Type} (encode : α → ρ) (key : ρ → κ) (k : κ) (rows : List α) :
    logOf key k (rows.map encode) = (logOf (fun row => key (encode row)) k rows).map encode := List.filter_map ..

theorem contiguous_nil : Contiguous key place [] := fun _ => rfl

namespace Contiguous
variable (h : Contiguous key place rows)
include h

theorem append (hplace : place row = (logOf key (key row) rows).length) : Contiguous key place (rows ++ [row]) := by
  intro k
  by_cases hk : key row = k
  · subst hk
    rw [logOf_append_self, map_append, h, length_append, length_singleton, range_succ,
      map_singleton, hplace]
  · rw [logOf_append_other rows hk]
    exact h k

theorem place_getElem? {i : Nat} (hi : (logOf key k rows)[i]? = some row) : place row = i := by
  have hlt : i < (logOf key k rows).length := (List.getElem?_eq_some_iff.mp hi).1
  have hmap : ((logOf key k rows).map place)[i]? = some (place row) := by rw [List.getElem?_map, hi, Option.map_some]
  rw [h k, List.getElem?_range hlt] at hmap
  exact (Option.some.inj hmap).symm

theorem getElem?_place (hrow : row ∈ rows) : (logOf key (key row) rows)[place row]? = some row := by
  have hmem : row ∈ logOf key (key row) rows := mem_logOf.mpr ⟨hrow, rfl⟩
  obtain ⟨i, hi⟩ := mem_iff_getElem?.mp hmem
  rw [h.place_getElem? hi]
  exact hi

theorem eq_of_place (hrow : row ∈ rows) (hrow' : row' ∈ rows)
    (hkey : key row = key row') (hplace : place row = place row') : row = row' := by
  have hfound := h.getElem?_place hrow
  rw [hkey, hplace, h.getElem?_place hrow'] at hfound
  exact (Option.some.inj hfound).symm

theorem place_lt (hrow : row ∈ rows) : place row < (logOf key (key row) rows).length :=
  (List.getElem?_eq_some_iff.mp (h.getElem?_place hrow)).1

theorem place_getLast? (hlast : (logOf key k rows).getLast? = some row) :
    place row + 1 = (logOf key k rows).length := by
  rw [List.getLast?_eq_getElem?] at hlast
  have hplace := h.place_getElem? hlast
  have hlt := (List.getElem?_eq_some_iff.mp hlast).1
  omega

end Contiguous

private theorem latest_of_sorted {log : List α} (h : log.Pairwise fun a b => place a ≤ place b) :
    Table.latest (fun a b => decide (place a ≤ place b)) log = log.getLast? := by
  induction log using List.reverseRecOn with
  | nil => rfl
  | append_singleton earlier last ih =>
    obtain ⟨hearlier, -, hlast⟩ := pairwise_append.mp h
    have hprev := ih hearlier
    unfold Table.latest at hprev ⊢
    rw [foldl_append, hprev, foldl_cons, foldl_nil, List.getLast?_concat]
    refine if_pos ?_
    cases hbest : earlier.getLast? with
    | none => rfl
    | some best => simpa using hlast best (mem_of_getLast? hbest) last mem_cons_self

theorem Contiguous.latest_eq (h : Contiguous key place rows) (k : κ) :
    Table.latest (fun a b => decide (place a ≤ place b)) (logOf key k rows) = (logOf key k rows).getLast? := by
  apply latest_of_sorted
  have hrange : ((logOf key k rows).map place).Pairwise (· ≤ ·) := by
    rw [h k]
    exact pairwise_lt_range.imp Nat.le_of_lt
  exact pairwise_map.mp hrange

theorem Contiguous.find?_place (h : Contiguous key place rows) (k : κ) (i : Nat) :
    (logOf key k rows).find? (fun row => decide (place row = i)) = (logOf key k rows)[i]? := by
  cases hfound : (logOf key k rows).find? (fun row => decide (place row = i)) with
  | some row =>
    obtain ⟨hrow, hkey⟩ := mem_logOf.mp (mem_of_find?_eq_some hfound)
    have hplace : place row = i := by simpa using List.find?_some hfound
    rw [← hkey, ← hplace]
    exact (h.getElem?_place hrow).symm
  | none =>
    cases hi : (logOf key k rows)[i]? with
    | none => rfl
    | some row =>
      have hne := List.find?_eq_none.mp hfound row (mem_of_getElem? hi)
      exact absurd (h.place_getElem? hi) (by simpa using hne)

end ProofPlatform.Library.KeyedLog

namespace ProofPlatform.Library.HashChain
variable {α δ : Type}

/-- The digest that the next entry is checked against. -/
def tip (digest : α → δ) (entries : List α) : Option δ := entries.getLast?.map digest

/-- Every entry was valid in its place, counted from one, when it was appended. -/
inductive Chain (digest : α → δ) (Valid : α → Nat → Option δ → Prop) : List α → Prop
  | nil : Chain digest Valid []
  | snoc {entries entry} (before : Chain digest Valid entries)
      (valid : Valid entry (entries.length + 1) (tip digest entries)) : Chain digest Valid (entries ++ [entry])

variable {digest : α → δ} {Valid : α → Nat → Option δ → Prop} {entries : List α}

@[simp] theorem tip_nil : tip digest [] = none := rfl

@[simp] theorem tip_snoc (entry : α) : tip digest (entries ++ [entry]) = some (digest entry) := by
  simp [tip]

theorem tip_take_succ {i : Nat} {entry : α} (h : entries[i]? = some entry) :
    tip digest (entries.take (i + 1)) = some (digest entry) := by
  rw [List.take_add_one, h, Option.toList_some, tip_snoc]

theorem Chain.valid_of_getElem? (h : Chain digest Valid entries) {i : Nat} {entry : α}
    (hentry : entries[i]? = some entry) : Valid entry (i + 1) (tip digest (entries.take i)) := by
  induction h with
  | nil => simp at hentry
  | @snoc entries last before valid ih =>
    rcases Nat.lt_trichotomy i entries.length with hi | rfl | hi
    · rw [List.getElem?_append_left hi] at hentry
      rw [List.take_append_of_le_length (Nat.le_of_lt hi)]
      exact ih hentry
    · rw [List.getElem?_concat_length] at hentry
      obtain rfl := Option.some.inj hentry
      rwa [List.take_left]
    · rw [List.getElem?_eq_none (by simp only [List.length_append, List.length_singleton]; omega)] at hentry
      cases hentry

end ProofPlatform.Library.HashChain
