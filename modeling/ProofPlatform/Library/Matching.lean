import Mathlib.Data.List.Basic

/-! Greedy matching of a list against a longer one: each item takes the first place after
the last one taken. -/
namespace ProofPlatform.Library.Matching
universe u v
variable {α : Type u} {β : Type v}

/-- The places taken, item by item; an item that fits nowhere takes none. -/
def greedy (fits : α → β → Bool) (places : List β) : Nat → List α → List (Option Nat)
  | _, [] => []
  | next, a :: as =>
    match (places.drop next).findIdx? (fits a) with
    | none => none :: greedy fits places next as
    | some offset => some (next + offset) :: greedy fits places (next + offset + 1) as

variable {fits : α → β → Bool} {places : List β}

@[simp] theorem length_greedy (as : List α) : ∀ next : Nat, (greedy fits places next as).length = as.length := by
  induction as with
  | nil => intro next; rfl
  | cons a as ih =>
    intro next
    unfold greedy
    split <;> simp [ih]

variable {as : List α}

theorem le_of_mem_greedy : ∀ {next : Nat}, ∀ p, some p ∈ greedy fits places next as → next ≤ p := by
  induction as with
  | nil => intro next p hp; cases hp
  | cons a as ih =>
    intro next p hp
    unfold greedy at hp
    split at hp
    · rcases List.mem_cons.mp hp with heq | hp
      · cases heq
      · exact ih p hp
    · rcases List.mem_cons.mp hp with heq | hp
      · cases heq
        omega
      · have hle := ih p hp
        omega

theorem pairwise_greedy : ∀ {next : Nat}, (greedy fits places next as).Pairwise fun x y => ∀ p ∈ x, ∀ q ∈ y, p < q := by
  induction as with
  | nil => intro next; exact .nil
  | cons a as ih =>
    intro next
    unfold greedy
    split
    · exact .cons (fun _ _ p hp => by cases hp) ih
    · refine .cons ?_ ih
      rintro y hy p ⟨⟩ q hq
      obtain rfl : y = some q := hq
      have hle := le_of_mem_greedy q hy
      omega

theorem fits_of_greedy : ∀ {next i p : Nat}, (greedy fits places next as)[i]? = some (some p) →
    ∃ a b, as[i]? = some a ∧ places[p]? = some b ∧ fits a b = true := by
  induction as with
  | nil => intro next i p hp; cases hp
  | cons a as ih =>
    intro next i p hp
    unfold greedy at hp
    cases i with
    | succ i =>
      split at hp <;> exact ih hp
    | zero =>
      split at hp
      · cases hp
      · rename_i offset hfound
        obtain rfl : next + offset = p := by simpa using hp
        obtain ⟨hlt, hfits, -⟩ := List.findIdx?_eq_some_iff_getElem.mp hfound
        rw [List.length_drop] at hlt
        refine ⟨a, places[next + offset], rfl, List.getElem?_eq_getElem (by omega), ?_⟩
        rw [List.getElem_drop] at hfits
        exact hfits

end ProofPlatform.Library.Matching
