import Mathlib.Algebra.Group.Nat.Defs
import Mathlib.Data.List.Basic
import Mathlib.Data.List.Induction
import Mathlib.Data.Option.Basic

/-! Strict UTC texts: up to nine fraction digits are read, and none, three, six or nine written. -/
namespace ProofPlatform.Operator
open Option

namespace StrictUtc
open List

/-- The date and the time of day, to the second. -/
def validHead (head : List Char) : Bool :=
  head[4]? == some '-' && head[7]? == some '-' && head[10]? == some 'T' && head[13]? == some ':' &&
    head[16]? == some ':' && (head.zipIdx.all fun (c, index) => [4, 7, 10, 13, 16].contains index || c.isDigit) &&
    !decide ("59".toList < head.drop 17)

def validWire (wire : List Char) : Bool :=
  validHead (wire.take 19) && match wire.drop 19 with
  | ['Z'] => true
  | '.' :: rest =>
    rest.getLast? == some 'Z' && decide (2 ≤ rest.length ∧ rest.length ≤ 10) && rest.dropLast.all Char.isDigit
  | _ => false

/-- The digits between the point and the last letter. -/
def fraction (wire : List Char) : List Char := (wire.drop 19).tail.dropLast

def nanosecond (digits : List Char) : Nat := Nat.ofDigitChars 10 digits 0 * 10 ^ (9 - digits.length)

/-- How the time library reads and writes a date and a time, in seconds since the epoch. -/
structure Rfc3339 where
  read : List Char → Option Int
  write : Int → List Char
  write_read : ∀ head seconds, validHead head = true → head.length = 19 → read head = some seconds →
    write seconds = head

variable (R : Rfc3339)

def deserialize (wire : List Char) : Option (Int × Nat) := do
  guard (validWire wire)
  let seconds ← R.read (wire.take 19)
  guard (nanosecond (fraction wire) < 10 ^ 9)
  pure (seconds, nanosecond (fraction wire))

/-- As many decimal digits as asked for. -/
def fixed : Nat → Nat → List Char
  | 0, _ => []
  | width + 1, value => fixed width (value / 10) ++ [Nat.digitChar (value % 10)]

/-- No digits, or milliseconds, microseconds or nanoseconds, whichever do first. -/
def autoSi (nanos : Nat) : List Char :=
  if nanos = 0 then [] else '.' ::
    if nanos % 10 ^ 6 = 0 then fixed 3 (nanos / 10 ^ 6)
    else if nanos % 1000 = 0 then fixed 6 (nanos / 1000) else fixed 9 nanos

def serialize (value : Int × Nat) : Option (List Char) := do
  guard (value.2 < 10 ^ 9)
  let wire := R.write value.1 ++ (autoSi value.2 ++ ['Z'])
  guard (validWire wire)
  pure wire

theorem length_fixed (width value : Nat) : (fixed width value).length = width := by
  induction width generalizing value with
  | zero => rfl
  | succ width ih => simp [fixed, ih]

theorem fixed_ofDigitChars {digits : List Char} (h : ∀ c ∈ digits, c.isDigit = true) :
    fixed digits.length (Nat.ofDigitChars 10 digits 0) = digits := by
  induction digits using List.reverseRecOn with
  | nil => rfl
  | append_singleton digits c ih =>
    have hc : 48 ≤ c.toNat ∧ c.toNat ≤ 57 := Char.isDigit_iff_toNat.mp (h c (by simp))
    have hchar : Nat.digitChar (c.toNat - 48) = c := by
      rw [← Char.toNat_inj, Nat.toNat_digitChar_of_lt_ten (by omega)]
      omega
    have hvalue : Nat.ofDigitChars 10 (digits ++ [c]) 0 = 10 * Nat.ofDigitChars 10 digits 0 + (c.toNat - 48) :=
      Nat.ofDigitChars_append 0
    rw [hvalue, length_append, length_singleton, fixed, Nat.mul_add_div (by decide), Nat.mul_add_mod,
      Nat.div_eq_of_lt (by omega), Nat.mod_eq_of_lt (by omega), hchar, Nat.add_zero,
      ih fun c hc => h c (mem_append_left _ hc)]

/-- Three, six or nine digits that do not end in three zeros. -/
def Shortest (digits : List Char) : Prop := digits.length % 3 = 0 ∧ Nat.ofDigitChars 10 digits 0 % 1000 ≠ 0

theorem autoSi_eq_iff {digits : List Char} (h : ∀ c ∈ digits, c.isDigit = true) (hempty : digits ≠ [])
    (hlength : digits.length ≤ 9) (hnano : nanosecond digits < 10 ^ 9) :
    autoSi (nanosecond digits) = '.' :: digits ↔ Shortest digits := by
  have hfixed := fixed_ofDigitChars h
  have hpos := length_pos_iff.mpr hempty
  unfold autoSi Shortest nanosecond at *
  generalize Nat.ofDigitChars 10 digits 0 = value at *
  constructor
  · intro hauto
    split_ifs at hauto <;>
    · have hwidth := congrArg length (cons.inj hauto).2
      rw [length_fixed] at hwidth
      simp only [← hwidth, Nat.reduceSub, Nat.reducePow] at *
      exact ⟨trivial, by omega⟩
  · rintro ⟨hthree, hvalue⟩
    have hwidth : digits.length = 3 ∨ digits.length = 6 ∨ digits.length = 9 := by omega
    rcases hwidth with hwidth | hwidth | hwidth <;> simp only [hwidth, Nat.reduceSub, Nat.reducePow] at *
    · rw [if_neg (by omega), if_pos (by omega), Nat.mul_div_cancel _ (by decide), hfixed]
    · rw [if_neg (by omega), if_neg (by omega), if_pos (by omega), Nat.mul_div_cancel _ (by decide), hfixed]
    · rw [if_neg (by omega), if_neg (by omega), if_neg (by omega), Nat.mul_one, hfixed]

/-- A text is written back as read just if its fraction is the shortest one or there is none. -/
theorem serialize_iff (wire : List Char) (value : Int × Nat) (h : deserialize R wire = some value) :
    serialize R value = some wire ↔ fraction wire = [] ∨ Shortest (fraction wire) := by
  simp only [deserialize, bind_eq_bind, bind_eq_some_iff, guard_eq_some'] at h
  obtain ⟨-, hwire, seconds, hseconds, -, hnano, h⟩ := h
  cases h
  obtain ⟨hhead, htail⟩ := Bool.and_eq_true_iff.mp hwire
  have hlength : (wire.take 19).length = 19 := by
    rw [length_take]
    by_contra hshort
    rw [drop_eq_nil_of_le (by omega)] at htail
    cases htail
  have hback (point : List Char) (hdrop : wire.drop 19 = point ++ ['Z']) :
      serialize R (seconds, nanosecond (fraction wire)) = some wire ↔ autoSi (nanosecond (fraction wire)) = point := by
    rw [← append_left_inj ['Z'], ← hdrop, ← append_right_inj (wire.take 19), take_append_drop,
      ← R.write_read _ _ hhead hlength hseconds]
    simp only [serialize, bind_eq_bind, bind_eq_some_iff, guard_eq_some', hnano]
    constructor
    · rintro ⟨-, -, -, -, h⟩
      exact some.inj h
    · intro h
      exact ⟨(), trivial, (), by rwa [h], congrArg _ h⟩
  split at htail
  · rename_i hdrop
    rw [hback [] hdrop]
    simp [fraction, hdrop, nanosecond, autoSi]
  · rename_i rest hdrop
    simp only [Bool.and_eq_true, decide_eq_true_eq, beq_iff_eq, List.all_eq_true] at htail
    obtain ⟨⟨hlast, hrest⟩, hdigits⟩ := htail
    have hfraction : fraction wire = rest.dropLast := by rw [fraction, hdrop, tail_cons]
    have hsome : rest.dropLast ≠ [] := by
      rw [← length_pos_iff, length_dropLast]
      omega
    have hpoint : wire.drop 19 = '.' :: rest.dropLast ++ ['Z'] := by
      rw [hdrop, cons_append, List.dropLast_append_getLast? _ hlast]
    rw [hfraction] at hnano
    rw [hback _ hpoint, hfraction, or_iff_right hsome]
    exact autoSi_eq_iff hdigits hsome (by rw [length_dropLast]; omega) hnano
  · cases htail

/-- A library that knows the first second of 1970. -/
def epoch : Rfc3339 where
  read head := if head = "1970-01-01T00:00:00".toList then some 0 else none
  write _ := "1970-01-01T00:00:00".toList
  write_read _ _ _ _ h := (ite_none_right_eq_some.mp h).1.symm

theorem serialize_iff_millisecond : serialize epoch (0, 5000000) = some "1970-01-01T00:00:00.005Z".toList :=
  (serialize_iff epoch "1970-01-01T00:00:00.005Z".toList (0, 5000000) (by decide)).mpr (.inr ⟨by decide, by decide⟩)

/-- Half a second is read from one digit and written with three. -/
theorem half_second_rewritten :
    deserialize epoch "1970-01-01T00:00:00.5Z".toList = some (0, 500000000) ∧
      serialize epoch (0, 500000000) = some "1970-01-01T00:00:00.500Z".toList := by
  decide

end StrictUtc

end ProofPlatform.Operator
