import Mathlib.Tactic.NormNum
import ProofPlatform.Kernel.Canonical

/-! The canonical text of numbers: one held both ways has one text only if it is one digit. -/
namespace ProofPlatform.Kernel
open List Number

/-- The number that is denoted. -/
def Number.value : Number → Rat
  | .posInt value => value
  | .negInt value => value
  | .float value => value

def Number.isFloat : Number → Bool
  | .float _ => true
  | _ => false

/-- What the library writes for a double other than zero: a mantissa without trailing zeros and an exponent without
leading ones. A whole number of one digit has exponent zero. -/
structure FloatText.Writes (F : FloatText) (v : Rat) (mantissa exponent : List Char) : Prop where
  text_eq : F.scientific v = mantissa ++ 'e' :: exponent
  chars : ∀ c ∈ mantissa, c.isDigit = true ∨ c = '-' ∨ c = '.'
  last : ∃ front c, mantissa = front ++ [c] ∧ c.isDigit = true ∧ c ≠ '0'
  digits : exponent = ['0'] ∨ (∃ c rest, exponent = c :: rest ∧ c ≠ '0') ∧ '.' ∉ exponent
  small : ∀ n : Int, v = n → |n| < 10 → mantissa = integerText n ∧ exponent = ['0']
  whole : exponent = ['0'] → '.' ∉ mantissa → ∃ n : Int, v = n ∧ |n| < 10

def Number.Written (F : FloatText) : Number → Prop
  | .float v => v ≠ 0 → ∃ mantissa exponent, F.Writes v mantissa exponent
  | _ => True

/-- The library writes two floats alike only if they are equal. -/
def Number.Apart (F : FloatText) : Number → Number → Prop
  | .float v, .float w => F.scientific v = F.scientific w → v = w
  | _, _ => True

/-- Equal numbers have equal texts, and different numbers different ones. -/
structure Faithful (F : FloatText) (a b : Number) : Prop where
  same : a.value = b.value → canonicalNumber F a = canonicalNumber F b
  differ : a.value ≠ b.value → ∀ text, ¬ (canonicalNumber F a = .ok text ∧ canonicalNumber F b = .ok text)

/-! ### Integers -/

theorem integerText_chars {n : Int} : ∀ c ∈ integerText n, c.isDigit = true ∨ c = '-' := by
  intro c hc
  unfold integerText at hc
  split at hc
  · rcases mem_cons.mp hc with rfl | hc
    · exact .inr rfl
    · exact .inl (Nat.isDigit_of_mem_toDigits (by decide) (by decide) hc)
  · exact .inl (Nat.isDigit_of_mem_toDigits (by decide) (by decide) hc)

theorem toDigits_inj {m n : Nat} (h : Nat.toDigits 10 m = Nat.toDigits 10 n) : m = n := by
  have hread := congrArg (fun digits => Nat.ofDigitChars 10 digits 0) h
  simpa [Nat.ofDigitChars_ten_toDigits] using hread

theorem toDigits_ne_minus {m : Nat} {rest : List Char} : Nat.toDigits 10 m ≠ '-' :: rest := by
  intro h
  have hdigit : '-'.isDigit = true :=
    Nat.isDigit_of_mem_toDigits (b := 10) (n := m) (by decide) (by decide) (h ▸ mem_cons_self)
  cases hdigit

theorem integerText_inj {m n : Int} (h : integerText m = integerText n) : m = n := by
  unfold integerText at h
  split at h <;> split at h
  · have habs := toDigits_inj (List.cons.inj h).2
    omega
  · exact absurd h.symm toDigits_ne_minus
  · exact absurd h toDigits_ne_minus
  · have habs := toDigits_inj h
    omega

/-! ### Floats -/

section Floats
variable {F : FloatText} {v w : Rat} {mantissa exponent text : List Char} {n : Int}

theorem trimEnd_of_last {c d : Char} {front : List Char} (h : d ≠ c) : trimEnd c (front ++ [d]) = front ++ [d] := by
  simp [trimEnd, h]

theorem dropPointZero_cons {c : Char} (h : ∀ rest, text ≠ '0' :: 'e' :: rest) :
    dropPointZero (c :: text) = c :: dropPointZero text := by
  rw [dropPointZero]
  exact fun rest _ htext => h rest htext

theorem dropPointZero_eq (h : '.' ∉ text) : dropPointZero text = text := by
  induction text with
  | nil => rfl
  | cons c text ih =>
    rw [mem_cons, not_or] at h
    rw [dropPointZero, ih h.2]
    exact fun rest hc _ => h.1 hc.symm

/-- Nothing is dropped if the marker comes after a digit other than zero. -/
theorem dropPointZero_marked {c : Char} {front : List Char} (hmarker : 'e' ∉ front) (hzero : c ≠ '0')
    (hdigit : c.isDigit = true) (hpoint : '.' ∉ exponent) :
    dropPointZero (front ++ c :: 'e' :: exponent) = front ++ c :: 'e' :: exponent := by
  have hmark : c ≠ 'e' := by rintro rfl; cases hdigit
  have hdot : c ≠ '.' := by rintro rfl; cases hdigit
  induction front with
  | nil => exact dropPointZero_eq (by simp [hdot.symm, hpoint])
  | cons d front ih =>
    rw [mem_cons, not_or] at hmarker
    rw [cons_append, dropPointZero_cons, ih hmarker.2]
    -- The next two characters are not a zero and the marker, wherever the front ends.
    rintro rest hrest
    match front with
    | [] => exact hzero (List.cons.inj hrest).1
    | [_] => exact hmark (List.cons.inj (List.cons.inj hrest).2).1
    | _ :: e :: _ =>
      have he : e = 'e' := (List.cons.inj (List.cons.inj hrest).2).1
      exact hmarker.2 (by simp [he])

namespace FloatText.Writes
variable (h : F.Writes v mantissa exponent)
include h

theorem no_marker : 'e' ∉ mantissa ∧ 'E' ∉ mantissa := by
  constructor <;> intro hin <;> rcases h.chars _ hin with hc | hc | hc <;> cases hc

theorem span_eq : (F.scientific v).span (fun c => c != 'e' && c != 'E') = (mantissa, 'e' :: exponent) := by
  have hkeep : ∀ c ∈ mantissa, (c != 'e' && c != 'E') = true := by
    intro c hc
    simp only [Bool.and_eq_true, bne_iff_ne]
    exact ⟨fun he => h.no_marker.1 (he ▸ hc), fun he => h.no_marker.2 (he ▸ hc)⟩
  rw [h.text_eq, span_eq_takeWhile_dropWhile, takeWhile_append_of_pos hkeep, dropWhile_append_of_pos hkeep]
  simp

theorem trimmed : trimEnd '.' (trimEnd '0' mantissa) = mantissa := by
  obtain ⟨front, c, rfl, hdigit, hzero⟩ := h.last
  rw [trimEnd_of_last hzero, trimEnd_of_last]
  rintro rfl
  cases hdigit

theorem integer_nonempty : mantissa.isEmpty = false := by
  obtain ⟨front, c, rfl, -⟩ := h.last
  simp

theorem marked (hne : exponent ≠ ['0']) : dropPointZero (F.scientific v) = F.scientific v := by
  obtain ⟨front, c, rfl, hdigit, hzero⟩ := h.last
  have hmarker : 'e' ∉ front := fun hin => h.no_marker.1 (mem_append_left _ hin)
  rw [h.text_eq, append_assoc]
  exact dropPointZero_marked hmarker hzero hdigit (h.digits.resolve_left hne).2

/-- The mantissa alone for exponent zero, else the scientific form, if it reads back. -/
theorem floatText_eq : floatText F v = if exponent = ['0'] then .ok mantissa else
    if F.parse (F.scientific v) = some v then .ok (F.scientific v) else .error .nonExactNumber := by
  have hchars : (mantissa.all fun c => c.isDigit || c == '-' || c == '.') = true :=
    all_eq_true.mpr fun c hc => by
      rcases h.chars c hc with hc | rfl | rfl
      · simp [hc]
      · rfl
      · rfl
  simp only [floatText, h.span_eq, h.trimmed, hchars, h.integer_nonempty]
  by_cases hzero : exponent = ['0']
  · simp [hzero]
  · obtain ⟨c, rest, hexponent, hc⟩ := (h.digits.resolve_left hzero).1
    have hdrop : exponent.dropWhile (· == '0') = exponent := by simp [hexponent, hc]
    have hsome : exponent.isEmpty = false := by simp [hexponent]
    simp [hzero, hdrop, hsome, checkExact, ← h.text_eq, h.marked hzero]

end FloatText.Writes

theorem text_cases (h : F.Writes v mantissa exponent) (hok : floatText F v = .ok text) :
    (exponent = ['0'] ∧ text = mantissa) ∨ (exponent ≠ ['0'] ∧ text = F.scientific v) := by
  rw [h.floatText_eq] at hok
  split at hok
  · exact .inl ⟨‹_›, (Except.ok.inj hok).symm⟩
  · split at hok
    · exact .inr ⟨‹_›, (Except.ok.inj hok).symm⟩
    · cases hok

/-- An integer is the text of a float only if the float is that integer, and has one digit. -/
theorem eq_of_integerText (h : F.Writes v mantissa exponent) (hok : floatText F v = .ok (integerText n)) :
    v = n ∧ |n| < 10 := by
  have hplain : 'e' ∉ integerText n ∧ '.' ∉ integerText n := by
    constructor <;> intro hin <;> rcases integerText_chars _ hin with hc | hc <;> cases hc
  rcases text_cases h hok with ⟨hzero, htext⟩ | ⟨-, htext⟩
  · obtain ⟨m, hm, hsmall⟩ := h.whole hzero (htext ▸ hplain.2)
    have hn : m = n := integerText_inj ((h.small m hm hsmall).1.symm.trans htext.symm)
    exact ⟨hn ▸ hm, hn ▸ hsmall⟩
  · rw [h.text_eq] at htext
    exact absurd (htext ▸ mem_append_right _ mem_cons_self) hplain.1

theorem scientific_inj (hv : F.Writes v mantissa exponent) {mantissa' exponent' : List Char}
    (hw : F.Writes w mantissa' exponent') (hokv : floatText F v = .ok text) (hokw : floatText F w = .ok text) :
    F.scientific v = F.scientific w := by
  rcases text_cases hv hokv with ⟨hzero, htext⟩ | ⟨-, htext⟩ <;>
    rcases text_cases hw hokw with ⟨hzero', htext'⟩ | ⟨-, htext'⟩
  · rw [hv.text_eq, hw.text_eq, hzero, hzero', ← htext, ← htext']
  · refine absurd ?_ hv.no_marker.1
    rw [← htext, htext', hw.text_eq]
    simp
  · refine absurd ?_ hw.no_marker.1
    rw [← htext', htext, hv.text_eq]
    simp
  · rw [← htext, htext']

/-- The text of a float, zero included, is an integer's only if the float is that integer. -/
theorem float_eq_of_integerText (hwritten : (float v).Written F)
    (hok : canonicalNumber F (.float v) = .ok (integerText n)) : v = n ∧ |n| < 10 := by
  by_cases hzero : v = 0
  · simp only [canonicalNumber, hzero, if_true] at hok
    have hn : 0 = n := integerText_inj (Except.ok.inj hok)
    subst hn
    exact ⟨hzero, by decide⟩
  · obtain ⟨mantissa, exponent, h⟩ := hwritten hzero
    simp only [canonicalNumber, if_neg hzero] at hok
    exact eq_of_integerText h hok

theorem canonicalNumber_small (hwritten : (float v).Written F) (hv : v = n) (hsmall : |n| < 10) :
    canonicalNumber F (.float v) = .ok (integerText n) := by
  by_cases hzero : v = 0
  · have hn : n = 0 := by exact_mod_cast hv.symm.trans hzero
    simp only [canonicalNumber, hzero, hn, if_true]
    rfl
  · obtain ⟨mantissa, exponent, h⟩ := hwritten hzero
    obtain ⟨rfl, rfl⟩ := h.small n hv hsmall
    simp [canonicalNumber, hzero, h.floatText_eq]

end Floats

/-! ### Pairs of numbers -/

section Pairs
variable {F : FloatText} {a b : Number} {v w : Rat} {n : Int}

theorem Number.whole (h : a.isFloat = false) : ∃ n : Int, a.value = n ∧ canonicalNumber F a = .ok (integerText n) := by
  cases a with
  | posInt value | negInt value => exact ⟨value, rfl, rfl⟩
  | float => cases h

theorem Faithful.symm (h : Faithful F a b) : Faithful F b a where
  same := fun hvalue => (h.same hvalue.symm).symm
  differ := fun hvalue text hok => h.differ (Ne.symm hvalue) text hok.symm

theorem faithful_integers (ha : a.isFloat = false) (hb : b.isFloat = false) : Faithful F a b := by
  obtain ⟨m, hm, hma⟩ := whole (F := F) ha
  obtain ⟨n, hn, hnb⟩ := whole (F := F) hb
  constructor
  · intro hvalue
    have hmn : m = n := by exact_mod_cast hm.symm.trans (hvalue.trans hn)
    rw [hma, hnb, hmn]
  · rintro hvalue text ⟨hta, htb⟩
    rw [hma] at hta
    rw [hnb] at htb
    have hmn : m = n := integerText_inj ((Except.ok.inj hta).trans (Except.ok.inj htb).symm)
    exact hvalue (by rw [hm, hn, hmn])

theorem faithful_floats (hv : (float v).Written F) (hw : (float w).Written F)
    (hapart : F.scientific v = F.scientific w → v = w) : Faithful F (.float v) (.float w) := by
  constructor
  · rintro (rfl : v = w)
    rfl
  · rintro (hvalue : v ≠ w) text ⟨hokv, hokw⟩
    by_cases hzero : v = 0
    · have htext : text = integerText 0 := by
        simp only [canonicalNumber, hzero, if_true] at hokv
        exact (Except.ok.inj hokv).symm
      exact hvalue (hzero.trans (float_eq_of_integerText hw (htext ▸ hokw)).1.symm)
    by_cases hzero' : w = 0
    · have htext : text = integerText 0 := by
        simp only [canonicalNumber, hzero', if_true] at hokw
        exact (Except.ok.inj hokw).symm
      exact hvalue ((float_eq_of_integerText hv (htext ▸ hokv)).1.trans hzero'.symm)
    obtain ⟨mantissa, exponent, hwv⟩ := hv hzero
    obtain ⟨mantissa', exponent', hww⟩ := hw hzero'
    simp only [canonicalNumber, if_neg hzero] at hokv
    simp only [canonicalNumber, if_neg hzero'] at hokw
    exact hvalue (hapart (scientific_inj hwv hww hokv hokw))

theorem faithful_mixed (ha : a.isFloat = false) (hv : (float v).Written F) :
    Faithful F a (.float v) ↔ (a.value = v → |v| < 10) := by
  obtain ⟨n, hn, htext⟩ := whole (F := F) ha
  rw [hn]
  constructor
  · intro h heq
    have hok : canonicalNumber F (.float v) = .ok (integerText n) := (h.same (hn.trans heq)).symm.trans htext
    rw [← heq]
    exact_mod_cast (float_eq_of_integerText hv hok).2
  · intro h
    constructor
    · intro hvalue
      have heq : v = n := (hn.symm.trans hvalue).symm
      have hsmall : |n| < 10 := by exact_mod_cast heq ▸ h heq.symm
      rw [htext, canonicalNumber_small hv heq hsmall]
    · rintro hvalue text ⟨hta, htb⟩
      rw [htext] at hta
      exact hvalue (hn.trans (float_eq_of_integerText hv (Except.ok.inj hta ▸ htb)).1.symm)

/-- Texts tell two numbers apart, unless one of more than one digit is held both ways. -/
theorem faithful_iff (F : FloatText) (a b : Number) (ha : a.Written F) (hb : b.Written F) (hapart : a.Apart F b) :
    Faithful F a b ↔ (a.value = b.value → a.isFloat = b.isFloat ∨ |a.value| < 10) := by
  cases hfa : a.isFloat <;> cases hfb : b.isFloat
  · simp [faithful_integers hfa hfb]
  · match b, hfb with
    | .float v, _ =>
      rw [faithful_mixed hfa hb]
      constructor
      · exact fun h heq => .inr (heq ▸ h heq)
      · exact fun h heq => heq ▸ (h heq).resolve_left nofun
  · match a, hfa with
    | .float v, _ =>
      rw [show Faithful F (.float v) b ↔ Faithful F b (.float v) from ⟨.symm, .symm⟩, faithful_mixed hfb ha]
      constructor
      · exact fun h heq => .inr (h heq.symm)
      · exact fun h heq => (h heq.symm).resolve_left nofun
  · match a, b, hfa, hfb with
    | .float v, .float w, _, _ => simp [faithful_floats ha hb hapart]

end Pairs

/-- The library on one and ten. -/
def decimalText : FloatText where
  scientific v := if v = 1 then "1e0".toList else "1e1".toList
  parse text := if text = "1e1".toList then some 10 else some 1

theorem decimalText_one : decimalText.Writes 1 ['1'] ['0'] where
  text_eq := rfl
  chars := fun c hc => .inl (mem_singleton.mp hc ▸ rfl)
  last := ⟨[], '1', rfl, rfl, by decide⟩
  digits := .inl rfl
  small := by
    intro n hn _
    have hone : n = 1 := by exact_mod_cast hn.symm
    exact hone ▸ ⟨rfl, rfl⟩
  whole := fun _ _ => ⟨1, rfl, by decide⟩

theorem faithful_iff_one : Faithful decimalText (.posInt 1) (.float 1) :=
  (faithful_iff decimalText (.posInt 1) (.float 1) trivial (fun _ => ⟨_, _, decimalText_one⟩) trivial).mpr
    fun _ => .inr (by norm_num [value])

/-- Ten has the text `10` as an integer and the text `1e1` as a float. -/
theorem ten_has_two_texts :
    (posInt 10).value = (float 10).value ∧
      canonicalNumber decimalText (.posInt 10) = .ok "10".toList ∧
      canonicalNumber decimalText (.float 10) = .ok "1e1".toList := by
  refine ⟨rfl, rfl, ?_⟩
  decide

end ProofPlatform.Kernel
