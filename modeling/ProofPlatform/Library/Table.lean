import Mathlib.Algebra.BigOperators.Group.List.Basic
import Mathlib.Data.List.Induction
import Mathlib.Data.List.Nodup
import Mathlib.Tactic.Abel

/-! Tables of rows with a key: lookup, insertion, conditional update, and totals over rows. -/
namespace ProofPlatform.Library.Table
open List
variable {α κ : Type} [DecidableEq κ]

/-- The first row with the key. -/
def lookup (key : α → κ) (rows : List α) (k : κ) : Option α := rows.find? fun row => decide (key row = k)

/-- Apply `f` to every row that meets the condition. -/
def updateWhere (p : α → Bool) (f : α → α) (rows : List α) : List α :=
  rows.map fun row => if p row then f row else row

/-- Put the row in the place of the one row that meets the condition, if it is the only one. -/
def replaceOne (p : α → Bool) (row : α) (rows : List α) : Option (List α) :=
  if rows.countP p = 1 then some (updateWhere p (fun _ => row) rows) else none

/-- Insert into a map: the row takes the place of any row under its key. -/
def put (key : α → κ) (row : α) (rows : List α) : List α :=
  if rows.any fun row' => decide (key row' = key row) then
    updateWhere (fun row' => decide (key row' = key row)) (fun _ => row) rows
  else rows ++ [row]

/-- The row that comes last in the order, and the later one of two equals. -/
def latest (le : α → α → Bool) (rows : List α) : Option α :=
  rows.foldl (fun best row => if best.all fun row' => le row' row then some row else best) none

variable {key : α → κ} {rows : List α} {k : κ}

@[simp] theorem lookup_nil : lookup key [] k = none := rfl

variable {p : α → Bool} {row : α} {rows' : List α} {f : α → α} {old new : α}

theorem lookup_eq_some (h : lookup key rows k = some row) : row ∈ rows ∧ key row = k :=
  ⟨mem_of_find?_eq_some h, by simpa using List.find?_some h⟩

theorem lookup_eq_none : lookup key rows k = none ↔ ∀ row ∈ rows, key row ≠ k := by
  simp [lookup]

theorem lookup_append (row : α) (hnew : lookup key rows (key row) = none) :
    lookup key (rows ++ [row]) k = if k = key row then some row else lookup key rows k := by
  unfold lookup at hnew ⊢
  rw [List.find?_append]
  by_cases hk : k = key row
  · subst hk
    simp [hnew]
  · simp [hk, Ne.symm hk]

theorem put_of_new (hnew : ∀ row' ∈ rows, key row' ≠ key row) : put key row rows = rows ++ [row] :=
  if_neg (by simpa using hnew)

theorem mem_put {row' : α} : row' ∈ put key row rows ↔ row' ∈ rows ∧ key row' ≠ key row ∨ row' = row := by
  unfold put
  split
  · rename_i hany
    obtain ⟨old, hold, hkey⟩ := any_eq_true.mp hany
    constructor
    · intro hmem
      obtain ⟨stored, hstored, rfl⟩ := mem_map.mp hmem
      split
      · exact .inr rfl
      · rename_i hother
        exact .inl ⟨hstored, by simpa using hother⟩
    · rintro (⟨hmem, hother⟩ | rfl)
      · exact mem_map.mpr ⟨row', hmem, if_neg (by simpa using hother)⟩
      · exact mem_map.mpr ⟨old, hold, if_pos hkey⟩
  · rename_i hnew
    simp only [any_eq_true, decide_eq_true_eq, not_exists, not_and] at hnew
    rw [mem_append, mem_singleton]
    exact or_congr_left (iff_self_and.mpr (hnew row'))

/-- An update that keeps keys changes what is found under a key and not where. -/
theorem lookup_updateWhere (hf : ∀ row, key (f row) = key row) :
    lookup key (updateWhere p f rows) k =
      (lookup key rows k).map fun row => if p row then f row else row := by
  have hkey (row : α) : key (if p row then f row else row) = key row := by
    split
    · exact hf row
    · rfl
  unfold lookup updateWhere
  rw [List.find?_map]
  simp only [Function.comp_def, hkey]

theorem updateWhere_eq_self (h : ∀ row ∈ rows, p row = false) : updateWhere p f rows = rows := by
  unfold updateWhere
  exact (map_congr_left fun row hrow => by simp [h row hrow]).trans (map_id rows)

/-- An update of rows that a filter drops, before and after, is not seen through it. -/
theorem filter_updateWhere {q : α → Bool} (h : ∀ row ∈ rows, q row = true → p row = false ∧ p (f row) = false) :
    (updateWhere q f rows).filter p = rows.filter p := by
  induction rows with
  | nil => rfl
  | cons row rest ih =>
    have hrest := ih fun row' hrow' => h row' (mem_cons_of_mem _ hrow')
    unfold updateWhere at hrest ⊢
    rw [map_cons, filter_cons, filter_cons, hrest]
    by_cases hq : q row = true
    · obtain ⟨hp, hpf⟩ := h row mem_cons_self hq
      rw [if_pos hq, hp, hpf]
      rfl
    · rw [if_neg hq]

private theorem split_of_countP_eq_one (h : rows.countP p = 1) :
    ∃ left old right, rows = left ++ old :: right ∧ p old = true ∧
      (∀ row ∈ left, p row = false) ∧ ∀ row ∈ right, p row = false := by
  induction rows with
  | nil => simp at h
  | cons row rows ih =>
    by_cases hp : p row = true
    · have hrest : rows.countP p = 0 := by simpa [countP_cons, hp] using h
      exact ⟨[], row, rows, rfl, hp, by simp, by simpa [countP_eq_zero] using hrest⟩
    · have hrest : rows.countP p = 1 := by simpa [countP_cons, hp] using h
      obtain ⟨left, old, right, rfl, hold, hleft, hright⟩ := ih hrest
      refine ⟨row :: left, old, right, rfl, hold, ?_, hright⟩
      simpa [hp] using hleft

/-- A replacement puts the row where one row stood and keeps every other row in its place. -/
theorem replaceOne_split (h : replaceOne p row rows = some rows') :
    ∃ left old right, rows = left ++ old :: right ∧ rows' = left ++ row :: right ∧ p old = true ∧
      (∀ r ∈ left, p r = false) ∧ ∀ r ∈ right, p r = false := by
  unfold replaceOne at h
  split at h
  · rename_i hcount
    obtain ⟨left, old, right, rfl, hold, hleft, hright⟩ := split_of_countP_eq_one hcount
    refine ⟨left, old, right, rfl, ?_, hold, hleft, hright⟩
    rw [← Option.some.inj h, updateWhere, map_append, map_cons]
    simp only [hold, if_true]
    rw [show left.map _ = left from updateWhere_eq_self hleft,
      show right.map _ = right from updateWhere_eq_self hright]
  · cases h

/-- `rows'` is `rows` with `new` in the place of `old`, the row found under their common key. -/
structure Replaces (key : α → κ) (old new : α) (rows rows' : List α) : Prop where
  key_eq : key new = key old
  split : ∃ left right, rows = left ++ old :: right ∧ rows' = left ++ new :: right ∧ ∀ row ∈ left, key row ≠ key old

theorem Replaces.of_replaceOne (h : replaceOne p new rows = some rows')
    (hold : lookup key rows (key old) = some old) (hp : p old = true) (hkey : key new = key old) :
    Replaces key old new rows rows' := by
  refine ⟨hkey, ?_⟩
  obtain ⟨hmem, -⟩ := lookup_eq_some hold
  obtain ⟨left, old', right, rfl, rfl, hp', hleft, hright⟩ := replaceOne_split h
  obtain rfl : old' = old := by
    rcases mem_append.mp hmem with hm | hm
    · exact absurd hp (by simp [hleft old hm])
    · rcases mem_cons.mp hm with rfl | hm
      · rfl
      · exact absurd hp (by simp [hright old hm])
  refine ⟨left, right, rfl, rfl, fun row hrow hk => ?_⟩
  -- An earlier row with the key would have been found instead, and it fails the condition.
  unfold lookup at hold
  rw [List.find?_append] at hold
  cases hf : left.find? (fun r => decide (key r = key old')) with
  | none => exact absurd hk (by simpa using List.find?_eq_none.mp hf row hrow)
  | some found =>
    rw [hf, Option.some_or] at hold
    obtain rfl := Option.some.inj hold
    exact absurd hp (by simp [hleft _ (mem_of_find?_eq_some hf)])

theorem Replaces.of_lookup (h : replaceOne (fun row => decide (key row = key new)) new rows = some rows')
    (hold : lookup key rows k = some old) (hkey : key new = key old) : Replaces key old new rows rows' := by
  obtain rfl := (lookup_eq_some hold).2
  exact .of_replaceOne h hold (by simp [hkey]) hkey

theorem Replaces.refl (h : lookup key rows k = some row) : Replaces key row row rows rows := by
  obtain rfl := (lookup_eq_some h).2
  obtain ⟨left, right, rfl, hleft⟩ := List.find?_eq_some_iff_append.mp h |>.2
  exact ⟨rfl, left, right, rfl, rfl, fun row' hrow => by simpa using hleft row' hrow⟩

namespace Replaces
variable {α κ : Type} {key : α → κ} {rows rows' : List α} {k : κ} {old new row : α}
variable (h : Replaces key old new rows rows')
include h

theorem old_mem : old ∈ rows := by
  obtain ⟨-, left, right, rfl, -⟩ := h
  simp

theorem new_mem : new ∈ rows' := by
  obtain ⟨-, left, right, -, rfl, -⟩ := h
  simp

theorem lookup_old [DecidableEq κ] : lookup key rows (key old) = some old := by
  obtain ⟨-, left, right, rfl, -, hleft⟩ := h
  have hnone : left.find? (fun r => decide (key r = key old)) = none := by simpa [List.find?_eq_none] using hleft
  simp [lookup, hnone]

theorem lookup_eq [DecidableEq κ] : lookup key rows' k = if k = key old then some new else lookup key rows k := by
  obtain ⟨hkey, left, right, rfl, rfl, hleft⟩ := h
  unfold lookup
  simp only [List.find?_append, List.find?_cons, hkey]
  by_cases hk : k = key old
  · subst hk
    have hnone : left.find? (fun r => decide (key r = key old)) = none := by simpa [List.find?_eq_none] using hleft
    simp [hnone]
  · simp [hk, Ne.symm hk]

theorem mem_cases (hr : row ∈ rows') : row = new ∨ row ∈ rows := by
  obtain ⟨-, left, right, rfl, rfl, -⟩ := h
  rcases mem_append.mp hr with hmem | hmem
  · exact .inr (by simp [hmem])
  · rcases mem_cons.mp hmem with rfl | hmem
    · exact .inl rfl
    · exact .inr (by simp [hmem])

theorem mem_of_ne (hr : row ∈ rows) (hne : row ≠ old) : row ∈ rows' := by
  obtain ⟨-, left, right, rfl, rfl, -⟩ := h
  rcases mem_append.mp hr with hmem | hmem
  · simp [hmem]
  · rcases mem_cons.mp hmem with rfl | hmem
    · exact absurd rfl hne
    · simp [hmem]

/-- Whether some row has a property, when the replaced row did not have it. -/
theorem exists_iff_of_not_old {p : α → Prop} (hold : ¬ p old) :
    (∃ row ∈ rows', p row) ↔ p new ∨ ∃ row ∈ rows, p row := by
  obtain ⟨-, left, right, rfl, rfl, -⟩ := h
  simp [hold, or_and_right, exists_or, or_left_comm]

theorem exists_iff {p : α → Prop} (hp : p new ↔ p old) : (∃ row ∈ rows', p row) ↔ ∃ row ∈ rows, p row := by
  obtain ⟨-, left, right, rfl, rfl, -⟩ := h
  simp [hp, or_and_right, exists_or]

theorem map_eq {β : Type} (f : α → β) (hf : f new = f old) : rows'.map f = rows.map f := by
  obtain ⟨-, left, right, rfl, rfl, -⟩ := h
  simp [hf]

theorem filter_eq (p : α → Bool) (hold : p old = false) (hnew : p new = false) : rows'.filter p = rows.filter p := by
  obtain ⟨-, left, right, rfl, rfl, -⟩ := h
  simp [hold, hnew]

theorem filter (p : α → Bool) (hold : p old = true) (hnew : p new = true) :
    Replaces key old new (rows.filter p) (rows'.filter p) := by
  obtain ⟨hkey, left, right, rfl, rfl, hleft⟩ := h
  refine ⟨hkey, left.filter p, right.filter p, by simp [hold], by simp [hnew], fun row hrow => ?_⟩
  exact hleft row (mem_of_mem_filter hrow)

theorem sum_eq {M : Type} [AddCommMonoid M] (weight : α → M) :
    (rows'.map weight).sum + weight old = (rows.map weight).sum + weight new := by
  obtain ⟨-, left, right, rfl, rfl, -⟩ := h
  simp only [map_append, map_cons, sum_append, sum_cons]
  abel

end Replaces

/-- No two rows have the same key. -/
def Keyed (key : α → κ) (rows : List α) : Prop := (rows.map key).Nodup

omit [DecidableEq κ] in
theorem Keyed.append (h : Keyed key rows) (hnew : ∀ r ∈ rows, key r ≠ key row) : Keyed key (rows ++ [row]) := by
  simp only [Keyed, map_append, map_cons, map_nil]
  refine List.Nodup.append h (nodup_singleton _) ?_
  simpa [disjoint_right] using hnew

omit [DecidableEq κ] in
theorem Keyed.replaces (h : Keyed key rows) (hr : Replaces key old new rows rows') : Keyed key rows' := by
  rw [Keyed, hr.map_eq key hr.key_eq]
  exact h

omit [DecidableEq κ] in
theorem map_updateWhere (hf : ∀ row, p row = true → key (f row) = key row) :
    (updateWhere p f rows).map key = rows.map key := by
  rw [updateWhere, map_map]
  refine map_congr_left fun row _ => ?_
  simp only [Function.comp_apply]
  split
  · rename_i hp
    exact hf row hp
  · rfl

omit [DecidableEq κ] in
theorem Keyed.updateWhere (h : Keyed key rows)
    (hf : ∀ row, p row = true → key (f row) = key row) : Keyed key (updateWhere p f rows) := by
  rw [Keyed, map_updateWhere hf]
  exact h

theorem Keyed.put (h : Keyed key rows) (row : α) : Keyed key (put key row rows) := by
  unfold Table.put
  split
  · exact h.updateWhere fun _ hkey => (of_decide_eq_true hkey).symm
  · rename_i hnew
    exact h.append (by simpa using hnew)

theorem Keyed.lookup_of_mem (h : Keyed key rows) (hmem : row ∈ rows) : lookup key rows (key row) = some row := by
  cases hfound : lookup key rows (key row) with
  | none => exact absurd rfl (lookup_eq_none.mp hfound row hmem)
  | some found =>
    obtain ⟨hfound, hkey⟩ := lookup_eq_some hfound
    rw [inj_on_of_nodup_map h hfound hmem hkey]

omit [DecidableEq κ] in
theorem Keyed.eq_of_key_eq {a b : α} (h : Keyed key rows) (ha : a ∈ rows) (hb : b ∈ rows) (hk : key a = key b) :
    a = b :=
  inj_on_of_nodup_map h ha hb hk

/-- To put a row that is there changes nothing. -/
theorem Keyed.put_of_mem (h : Keyed key rows) (hmem : row ∈ rows) : Table.put key row rows = rows := by
  unfold Table.put
  rw [if_pos (any_eq_true.mpr ⟨row, hmem, decide_eq_true rfl⟩)]
  refine (map_congr_left fun row' hrow' => ?_).trans (map_id rows)
  split
  · rename_i hkey
    exact h.eq_of_key_eq hmem hrow' (of_decide_eq_true hkey).symm
  · rfl

section
variable {κ' : Type} {key' : α → κ'} (h : Keyed key rows) (h' : Keyed key' rows) (hmem : row ∈ rows) (hp : p row = true)
  (honly : ∀ r, p r = true → key r = key row ∨ key' r = key' row)
omit [DecidableEq κ]
include h h' hmem hp honly

/-- A search for what only rows with a row's key can meet, and that row does, finds it. -/
theorem Keyed.find_of_mem_either : rows.find? p = some row := by
  cases hfound : rows.find? p with
  | none => exact absurd hp (List.find?_eq_none.mp hfound row hmem)
  | some found =>
    have hfoundMem := mem_of_find?_eq_some hfound
    rcases honly found (List.find?_some hfound) with hk | hk
    · rw [h.eq_of_key_eq hfoundMem hmem hk]
    · rw [h'.eq_of_key_eq hfoundMem hmem hk]

theorem Keyed.filter_of_mem_either : rows.filter p = [row] := by
  have heq {r : α} (hr : r ∈ rows.filter p) : r = row := by
    obtain ⟨hrMem, hrp⟩ := mem_filter.mp hr
    rcases honly r hrp with hk | hk
    · exact h.eq_of_key_eq hrMem hmem hk
    · exact h'.eq_of_key_eq hrMem hmem hk
  have hnodup : (rows.filter p).Nodup := (List.Nodup.of_map key h).filter p
  have hrow : row ∈ rows.filter p := mem_filter.mpr ⟨hmem, hp⟩
  match hfilter : rows.filter p with
  | [] => rw [hfilter] at hrow; cases hrow
  | [a] =>
    have ha : a ∈ rows.filter p := by
      rw [hfilter]
      exact mem_singleton_self a
    rw [heq ha]
  | a :: b :: rest =>
    rw [hfilter] at hnodup heq
    have hab : a = b := (heq mem_cons_self).trans (heq (mem_cons_of_mem _ mem_cons_self)).symm
    rw [hab] at hnodup
    exact absurd mem_cons_self (nodup_cons.mp hnodup).1

end

omit [DecidableEq κ] in
theorem Keyed.find_of_mem (h : Keyed key rows) (hmem : row ∈ rows) (hp : p row = true)
    (honly : ∀ r, p r = true → key r = key row) : rows.find? p = some row :=
  h.find_of_mem_either h hmem hp fun r hr => .inl (honly r hr)

theorem Keyed.filter_of_mem (h : Keyed key rows) (hmem : row ∈ rows) :
    rows.filter (fun r => decide (key r = key row)) = [row] :=
  h.filter_of_mem_either h hmem (decide_eq_true rfl) fun _ hr => .inl (of_decide_eq_true hr)

theorem keyed_of_filter (h : ∀ row ∈ rows, ∃ r, rows.filter (fun r => decide (key r = key row)) = [r]) :
    Keyed key rows := by
  refine nodup_iff_count_eq_one.mpr fun k hk => ?_
  obtain ⟨row, hrow, rfl⟩ := mem_map.mp hk
  obtain ⟨r, hr⟩ := h row hrow
  rw [List.count, countP_map, countP_eq_length_filter]
  exact congrArg List.length hr

omit [DecidableEq κ] in
/-- A keyed table as long as another, with none but its keys, has all its keys. -/
theorem Keyed.exists_of_length_eq {β : Type} {key' : β → κ} {rows' : List β} (h : Keyed key rows)
    (hlength : rows.length = rows'.length) (hsub : ∀ row ∈ rows, ∃ row' ∈ rows', key' row' = key row) :
    ∀ row' ∈ rows', ∃ row ∈ rows, key row = key' row' := by
  have hsubset : rows.map key ⊆ rows'.map key' := by
    intro k hk
    obtain ⟨row, hrow, rfl⟩ := mem_map.mp hk
    obtain ⟨row', hrow', hkey⟩ := hsub row hrow
    exact mem_map.mpr ⟨row', hrow', hkey⟩
  have hperm := (subperm_of_subset h hsubset).perm_of_length_le (by simp [hlength])
  intro row' hrow'
  exact mem_map.mp (hperm.mem_iff.mpr (mem_map_of_mem hrow'))

omit [DecidableEq κ] in
/-- A condition that only rows with a row's key meet, and that row does, picks it out. -/
theorem Keyed.replaceOne_isSome (new : α) (h : Keyed key rows) (hmem : row ∈ rows)
    (hp : p row = true) (honly : ∀ r, p r = true → key r = key row) : ∃ rows', replaceOne p new rows = some rows' := by
  have hcount : rows.countP p = 1 := by
    obtain ⟨left, right, rfl⟩ := append_of_mem hmem
    have hother (r : α) (hr : r ∈ left ∨ r ∈ right) : ¬ p r = true := by
      intro hpr
      have hkey := honly r hpr
      simp only [Keyed, map_append, map_cons, nodup_append, nodup_cons] at h
      rcases hr with hr | hr
      · exact h.2.2 (key r) (mem_map_of_mem hr) (key row) (mem_cons_self ..) hkey
      · exact h.2.1.1 (hkey ▸ mem_map_of_mem hr)
    rw [countP_append, countP_cons_of_pos hp, countP_eq_zero.mpr fun r hr => hother r (.inl hr),
      countP_eq_zero.mpr fun r hr => hother r (.inr hr)]
  exact ⟨_, if_pos hcount⟩

omit [DecidableEq κ] in
/-- Where keys are unique, only the row that was replaced can have lost the property. -/
theorem Keyed.exists_iff_of_not_new {p : α → Prop} (hkeyed : Keyed key rows)
    (h : Replaces key old new rows rows') (hnew : ¬ p new) :
    (∃ row ∈ rows', p row) ↔ ∃ row ∈ rows, p row ∧ key row ≠ key old := by
  constructor
  · rintro ⟨row, hrow, hp⟩
    rcases h.mem_cases hrow with rfl | hmem
    · exact absurd hp hnew
    · refine ⟨row, hmem, hp, fun hk => hnew ?_⟩
      have heq := (hkeyed.replaces h).eq_of_key_eq hrow h.new_mem (hk.trans h.key_eq.symm)
      exact heq ▸ hp
  · rintro ⟨row, hrow, hp, hk⟩
    exact ⟨row, h.mem_of_ne hrow (fun heq => hk (heq ▸ rfl)), hp⟩

/-! Statements about any two rows of a table. -/

theorem forall_pairs_append {p : α → α → Prop} (hsymm : ∀ a b, p a b → p b a)
    (hrefl : ∀ a, p a a) (hrows : ∀ a ∈ rows, ∀ b ∈ rows, p a b) (hrow : ∀ a ∈ rows, p a row) :
    ∀ a ∈ rows ++ [row], ∀ b ∈ rows ++ [row], p a b := by
  intro a ha b hb
  rcases mem_append.mp ha with ha | ha <;> rcases mem_append.mp hb with hb | hb
  · exact hrows a ha b hb
  · exact mem_singleton.mp hb ▸ hrow a ha
  · exact mem_singleton.mp ha ▸ hsymm _ _ (hrow b hb)
  · exact mem_singleton.mp ha ▸ mem_singleton.mp hb ▸ hrefl _

omit [DecidableEq κ] in
theorem Keyed.forall_pairs_replaces {p : α → α → Prop} (hkeyed : Keyed key rows)
    (h : Replaces key old new rows rows') (hsymm : ∀ a b, p a b → p b a) (hrefl : ∀ a, p a a)
    (hrows : ∀ a ∈ rows, ∀ b ∈ rows, p a b) (hnew : ∀ a ∈ rows, key a ≠ key old → p a new) :
    ∀ a ∈ rows', ∀ b ∈ rows', p a b := by
  have hother {a : α} (ha : a ∈ rows') (hne : a ≠ new) : a ∈ rows ∧ key a ≠ key old := by
    refine ⟨(h.mem_cases ha).resolve_left hne, fun hid => hne ?_⟩
    exact (hkeyed.replaces h).eq_of_key_eq ha h.new_mem (hid.trans h.key_eq.symm)
  intro a ha b hb
  by_cases hane : a = new <;> by_cases hbne : b = new
  · rw [hane, hbne]
    exact hrefl _
  · rw [hane]
    exact hsymm _ _ (hnew b (hother hb hbne).1 (hother hb hbne).2)
  · rw [hbne]
    exact hnew a (hother ha hane).1 (hother ha hane).2
  · exact hrows a (hother ha hane).1 b (hother hb hbne).1

theorem latest_eq_none {le : α → α → Bool} (h : latest le rows = none) : rows = [] := by
  have hkeeps (rest : List α) (best : α) :
      (rest.foldl (fun best row => if best.all fun row' => le row' row then some row else best)
        (some best)).isSome := by
    induction rest generalizing best with
    | nil => rfl
    | cons row rest ih =>
      rw [foldl_cons]
      split
      · exact ih row
      · exact ih best
  cases rows with
  | nil => rfl
  | cons row rest =>
    have hsome := hkeeps rest row
    rw [latest, foldl_cons] at h
    simp only [Option.all_none, if_true] at h
    rw [h] at hsome
    cases hsome

theorem le_latest {place : α → Nat} {last : α} (h : latest (fun a b => decide (place a ≤ place b)) rows = some last) :
    ∀ row ∈ rows, place row ≤ place last := by
  induction rows using List.reverseRecOn generalizing last with
  | nil => intro row hrow; cases hrow
  | append_singleton earlier final ih =>
    rw [latest, foldl_append, foldl_cons, foldl_nil] at h
    change (if (latest (fun a b => decide (place a ≤ place b)) earlier).all
      (fun row' => decide (place row' ≤ place final))
      then some final else latest (fun a b => decide (place a ≤ place b)) earlier) = some last at h
    intro row hrow
    cases hearlier : latest (fun a b => decide (place a ≤ place b)) earlier with
    | none =>
      rw [hearlier] at h
      obtain rfl := latest_eq_none hearlier
      obtain rfl : final = last := by simpa using h
      rw [nil_append, mem_singleton] at hrow
      exact hrow ▸ Nat.le_refl _
    | some best =>
      rw [hearlier] at h
      have hbest := ih hearlier
      rw [Option.all_some] at h
      rcases mem_append.mp hrow with hrow | hrow
      · split at h
        · rename_i hle
          obtain rfl := Option.some.inj h
          exact (hbest row hrow).trans (of_decide_eq_true hle)
        · obtain rfl := Option.some.inj h
          exact hbest row hrow
      · obtain rfl := mem_singleton.mp hrow
        split at h
        · obtain rfl := Option.some.inj h
          exact Nat.le_refl _
        · rename_i hle
          obtain rfl := Option.some.inj h
          exact Nat.le_of_not_le fun hge => hle (decide_eq_true hge)

theorem mem_of_latest {le : α → α → Bool} (h : latest le rows = some row) : row ∈ rows := by
  have hfold (best : Option α) (hbest : ∀ r, best = some r → r ∈ rows) (rest : List α) (hrest : rest ⊆ rows)
      (hr : rest.foldl (fun best row => if best.all fun row' => le row' row then some row else best) best =
        some row) : row ∈ rows := by
    induction rest generalizing best with
    | nil => exact hbest row hr
    | cons next rest ih =>
      refine ih _ ?_ (subset_of_cons_subset hrest) hr
      intro r hr'
      simp only at hr'
      split at hr'
      · exact Option.some.inj hr' ▸ hrest mem_cons_self
      · exact hbest r hr'
  exact hfold none (by simp) rows (List.Subset.refl rows) h

/-! Rows that encode records, and how they are searched. -/

section Encodings
variable {ρ : Type} {encode : α → ρ} {decode : ρ → Option α} {stored : List ρ} {records : List α} {record : α}

/-- Every row is the encoding of a record, and is decoded as that record. -/
def Encodes (encode : α → ρ) (decode : ρ → Option α) (stored : List ρ) : Prop :=
  ∀ row ∈ stored, ∃ record, row = encode record ∧ decode row = some record

namespace Encodes
variable (h : Encodes encode decode stored)
include h

theorem map_decoded : (stored.filterMap decode).map encode = stored := by
  induction stored with
  | nil => rfl
  | cons row rest ih =>
    obtain ⟨record, hrow, hdecode⟩ := h row mem_cons_self
    rw [filterMap_cons_some hdecode, map_cons, ih fun row' hrow' => h row' (mem_cons_of_mem _ hrow'), hrow]

theorem decode_of_mem (hmem : record ∈ stored.filterMap decode) : decode (encode record) = some record := by
  obtain ⟨row, hrow, hdecode⟩ := mem_filterMap.mp hmem
  obtain ⟨record', rfl, hdecode'⟩ := h row hrow
  obtain rfl := Option.some.inj (hdecode.symm.trans hdecode')
  exact hdecode

theorem append (hdecode : decode (encode record) = some record) :
    Encodes encode decode (stored ++ [encode record]) := by
  intro row hrow
  rcases mem_append.mp hrow with hrow | hrow
  · exact h row hrow
  · obtain rfl := mem_singleton.mp hrow
    exact ⟨record, rfl, hdecode⟩

end Encodes

theorem encodes_map (h : ∀ record ∈ records, decode (encode record) = some record) :
    Encodes encode decode (records.map encode) := by
  intro row hrow
  obtain ⟨record, hmem, rfl⟩ := mem_map.mp hrow
  exact ⟨record, rfl, h record hmem⟩

theorem filterMap_map_decode (h : ∀ record ∈ records, decode (encode record) = some record) :
    (records.map encode).filterMap decode = records := by
  rw [filterMap_map]
  exact (filterMap_congr h).trans filterMap_some

theorem filterMap_append_decode (hdecode : decode (encode record) = some record) :
    (stored ++ [encode record]).filterMap decode = stored.filterMap decode ++ [record] := by
  rw [filterMap_append, filterMap_cons_some hdecode, filterMap_nil]

/-- A row that no other row has the key of is decoded as one more record. -/
theorem filterMap_put (key : ρ → κ) (hdecode : decode (encode record) = some record)
    (h : Encodes encode decode stored) (hnew : ∀ row ∈ stored, key row ≠ key (encode record)) :
    (stored ++ [encode record]).filterMap decode = put (key ∘ encode) record (stored.filterMap decode) ∧
      ∀ other ∈ stored.filterMap decode, key (encode other) ≠ key (encode record) := by
  rw [filterMap_append_decode hdecode]
  have hother : ∀ other ∈ stored.filterMap decode, key (encode other) ≠ key (encode record) :=
    fun other hmem => hnew _ (h.map_decoded ▸ mem_map_of_mem hmem)
  exact ⟨(put_of_new hother).symm, hother⟩

theorem lookup_map (key : ρ → κ) (k : κ) :
    lookup key (records.map encode) k = (lookup (fun record => key (encode record)) records k).map encode :=
  List.find?_map ..

theorem latest_map (le : ρ → ρ → Bool) :
    latest le (records.map encode) = (latest (fun a b => le (encode a) (encode b)) records).map encode := by
  have hfold (best : Option α) :
      (records.map encode).foldl (fun best row => if best.all fun row' => le row' row then some row else best)
        (best.map encode) = (records.foldl (fun best record =>
          if best.all fun record' => le (encode record') (encode record) then some record else best) best).map
            encode := by
    induction records generalizing best with
    | nil => rfl
    | cons record rest ih =>
      rw [map_cons, foldl_cons, foldl_cons, ← ih]
      cases best with
      | none => rfl
      | some best =>
        simp only [Option.map_some, Option.all_some]
        split <;> rfl
  exact hfold none

end Encodings

end ProofPlatform.Library.Table
