import ProofPlatform.Kernel.Canonical

/-! A value without floats and its canonical text determine each other, up to key order. -/
namespace ProofPlatform.Kernel
open Library.KeyOrder Json List Bool

/-- An encoding of strings: a literal opens with a quotation mark, and reads back up to its end. -/
structure StringLiterals where
  quote : String → List Char
  unquote : List Char → Option (String × List Char)
  opens : ∀ text, (quote text).head? = some '"'
  reads : ∀ text rest, unquote (quote text ++ rest) = some (text, rest)

def readWord (word : String) (value : Json) (text : List Char) : Option (Json × List Char) :=
  if word.toList.isPrefixOf text then some (value, text.drop word.toList.length) else none

/-- A decimal numeral without leading zeros. -/
def readNumeral (text : List Char) : Option (Nat × List Char) :=
  let (digits, rest) := text.span Char.isDigit
  let value := Nat.ofDigitChars 10 digits 0
  if digits = Nat.toDigits 10 value then some (value, rest) else none

/-- An integer in the range of one of the machine types; a negative zero is none. -/
def readInteger (text : List Char) : Option (Json × List Char) :=
  if text.head? = some '-' then
    (readNumeral text.tail).bind fun (value, rest) =>
      if 0 < value ∧ value ≤ 2 ^ 63 then some (.number (.negInt (-value)), rest) else none
  else
    (readNumeral text).bind fun (value, rest) =>
      if value < 2 ^ 64 then some (.number (.posInt value), rest) else none

section
variable (unquote : List Char → Option (String × List Char))

mutual
/-- Reads one value of JSON without floats and without white space. -/
def readValue : Nat → List Char → Option (Json × List Char)
  | 0, _ => none
  | fuel + 1, text =>
    match text.head? with
    | some '"' => (unquote text).map fun (value, rest) => (.string value, rest)
    | some '[' =>
      if text.tail.head? = some ']' then some (.array [], text.tail.tail)
      else (readItems fuel text.tail).map fun (items, rest) => (.array items, rest)
    | some '{' =>
      if text.tail.head? = some '}' then some (.object [], text.tail.tail)
      else (readMembers fuel text.tail).map fun (members, rest) => (.object members, rest)
    | some 'n' => readWord "null" .null text
    | some 't' => readWord "true" (.bool true) text
    | some 'f' => readWord "false" (.bool false) text
    | _ => readInteger text
/-- Reads the items of an array up to its closing bracket. -/
def readItems : Nat → List Char → Option (List Json × List Char)
  | 0, _ => none
  | fuel + 1, text => do
    let (item, rest) ← readValue fuel text
    match rest with
    | ',' :: rest => (readItems fuel rest).map fun (items, rest) => (item :: items, rest)
    | ']' :: rest => some ([item], rest)
    | _ => none
/-- Reads the members of an object up to its closing brace. -/
def readMembers : Nat → List Char → Option (List (String × Json) × List Char)
  | 0, _ => none
  | fuel + 1, text => do
    let (key, rest) ← unquote text
    match rest with
    | ':' :: rest => do
      let (value, rest) ← readValue fuel rest
      match rest with
      | ',' :: rest => (readMembers fuel rest).map fun (members, rest) => ((key, value) :: members, rest)
      | '}' :: rest => some ([(key, value)], rest)
      | _ => none
    | _ => none
end

/-- The value of a text that is one JSON value. Each call takes at least one character. -/
def parseJson (text : String) : Option Json :=
  match readValue unquote (text.toList.length + 1) text.toList with
  | some (value, []) => some value
  | _ => none

end

mutual
/-- The members of every object in the order of their keys. -/
def Json.sorted : Json → Json
  | .array items => .array (sortedItems items)
  | .object members => .object (sortByKey (sortedMembers members))
  | value => value
def Json.sortedItems : List Json → List Json
  | [] => []
  | item :: rest => item.sorted :: sortedItems rest
def Json.sortedMembers : List (String × Json) → List (String × Json)
  | [] => []
  | (key, value) :: rest => (key, value.sorted) :: sortedMembers rest
end

section
variable (quote : String → List Char)

mutual
/-- The compact text of a value as it stands; floats have none here. -/
def Json.write : Json → List Char
  | .null => "null".toList
  | .bool value => if value then "true".toList else "false".toList
  | .number (.posInt value) => integerText value
  | .number (.negInt value) => integerText value
  | .number (.float _) => []
  | .string text => quote text
  | .array items => '[' :: joinComma (writeItems items) ++ [']']
  | .object members => '{' :: joinComma (writeMembers members) ++ ['}']
def Json.writeItems : List Json → List (List Char)
  | [] => []
  | item :: rest => item.write :: writeItems rest
def Json.writeMembers : List (String × Json) → List (List Char)
  | [] => []
  | (key, value) :: rest => (quote key ++ ':' :: value.write) :: writeMembers rest
end

end

section
variable {members : List (String × Json)}

theorem Json.sortedMembers_eq (members : List (String × Json)) :
    sortedMembers members = members.map fun member => (member.1, member.2.sorted) := by
  induction members with
  | nil => rfl
  | cons member rest ih => rw [sortedMembers, ih, map_cons]

theorem Json.writeMembers_eq (quote : String → List Char) (members : List (String × Json)) :
    writeMembers quote members = members.map fun member => quote member.1 ++ ':' :: member.2.write quote := by
  induction members with
  | nil => rfl
  | cons member rest ih => rw [writeMembers, ih, map_cons]

theorem Json.exactMembers_iff : exactMembers members = true ↔ ∀ member ∈ members, member.2.exact = true := by
  induction members with
  | nil => simp [exactMembers]
  | cons member rest ih => simp [exactMembers, ih]

theorem Json.sortedMembers_keys (members : List (String × Json)) :
    (sortedMembers members).map Prod.fst = members.map Prod.fst := by
  rw [sortedMembers_eq, map_map]
  rfl

end

section Writing
variable {F : FloatText} {quote : String → List Char}

theorem collect_map_ok {ε α β : Type} (f : α → β) (l : List α) :
    collect (l.map fun a => (Except.ok (f a) : Except ε β)) = .ok (l.map f) := by
  induction l with
  | nil => rfl
  | cons a rest ih => rw [map_cons, collect, ih]; rfl

theorem Json.writeItems_eq (items : List Json) : writeItems quote items = items.map (write quote) := by
  induction items with
  | nil => rfl
  | cons item rest ih => rw [writeItems, ih, map_cons]

mutual
theorem canonicalValue_eq (value : Json) (h : value.exact = true) :
    canonicalValue F quote value = .ok (value.sorted.write quote) := by
  match value with
  | .null | .bool _ | .number (.posInt _) | .number (.negInt _) | .string _ => rfl
  | .array items =>
    rw [canonicalValue, canonicalItems_eq items h, collect_map_ok, sorted, write, writeItems_eq]
    rfl
  | .object members =>
    rw [exact, and_eq_true] at h
    rw [canonicalValue, canonicalMembers_eq members h.2,
      sortByKey_map fun value : Json => (Except.ok (value.write quote) : Except CanonicalizationError _), map_map]
    change (do
      let rendered ← collect ((sortByKey (sortedMembers members)).map fun member : String × Json =>
        (Except.ok (quote member.1 ++ ':' :: member.2.write quote) : Except CanonicalizationError (List Char)))
      pure ('{' :: joinComma rendered ++ ['}'])) = _
    rw [collect_map_ok, sorted, write, writeMembers_eq]
    rfl
theorem canonicalItems_eq (items : List Json) (h : exactItems items = true) :
    canonicalItems F quote items = (sortedItems items).map fun item => .ok (item.write quote) := by
  match items with
  | [] => rfl
  | item :: rest =>
    rw [exactItems, and_eq_true] at h
    rw [canonicalItems, canonicalValue_eq item h.1, canonicalItems_eq rest h.2, sortedItems, map_cons]
theorem canonicalMembers_eq (members : List (String × Json)) (h : exactMembers members = true) :
    canonicalMembers F quote members =
      (sortedMembers members).map fun member => (member.1, .ok (member.2.write quote)) := by
  match members with
  | [] => rfl
  | (key, value) :: rest =>
    rw [exactMembers, and_eq_true] at h
    rw [canonicalMembers, canonicalValue_eq value h.1, canonicalMembers_eq rest h.2, sortedMembers, map_cons]
end

end Writing

section Sorting

mutual
theorem Json.sorted_sorted (value : Json) (h : value.exact = true) : value.sorted.sorted = value.sorted := by
  match value with
  | .null | .bool _ | .number _ | .string _ => rfl
  | .array items => rw [sorted, sorted, sortedItems_sortedItems items h]
  | .object members =>
    rw [exact, and_eq_true, decide_eq_true_eq] at h
    have hkeys : ((sortedMembers members).map Prod.fst).Nodup := sortedMembers_keys members ▸ h.1
    rw [sorted, sorted, sortedMembers_eq (sortByKey _), ← sortByKey_map, ← sortedMembers_eq,
      sortedMembers_sortedMembers members h.2, sortByKey_idem hkeys]
theorem Json.sortedItems_sortedItems (items : List Json) (h : exactItems items = true) :
    sortedItems (sortedItems items) = sortedItems items := by
  match items with
  | [] => rfl
  | item :: rest =>
    rw [exactItems, and_eq_true] at h
    rw [sortedItems, sortedItems, sorted_sorted item h.1, sortedItems_sortedItems rest h.2]
theorem Json.sortedMembers_sortedMembers (members : List (String × Json)) (h : exactMembers members = true) :
    sortedMembers (sortedMembers members) = sortedMembers members := by
  match members with
  | [] => rfl
  | (key, value) :: rest =>
    rw [exactMembers, and_eq_true] at h
    rw [sortedMembers, sortedMembers, sorted_sorted value h.1,
      sortedMembers_sortedMembers rest h.2]
end

mutual
theorem Json.exact_sorted (value : Json) (h : value.exact = true) : value.sorted.exact = true := by
  match value with
  | .null | .bool _ => rfl
  | .number _ => exact h
  | .string _ => rfl
  | .array items => exact exactItems_sortedItems items h
  | .object members =>
    rw [exact, and_eq_true, decide_eq_true_eq] at h
    rw [sorted, exact, and_eq_true, decide_eq_true_eq, exactMembers_iff]
    refine ⟨nodup_sortByKey (sortedMembers_keys members ▸ h.1), fun member hm => ?_⟩
    exact exactMembers_iff.mp (exactMembers_sortedMembers members h.2) member (mem_sortByKey.mp hm)
theorem Json.exactItems_sortedItems (items : List Json) (h : exactItems items = true) :
    exactItems (sortedItems items) = true := by
  match items with
  | [] => rfl
  | item :: rest =>
    rw [exactItems, and_eq_true] at h
    rw [sortedItems, exactItems, exact_sorted item h.1, exactItems_sortedItems rest h.2]
    rfl
theorem Json.exactMembers_sortedMembers (members : List (String × Json)) (h : exactMembers members = true) :
    exactMembers (sortedMembers members) = true := by
  match members with
  | [] => rfl
  | (key, value) :: rest =>
    rw [exactMembers, and_eq_true] at h
    rw [sortedMembers, exactMembers, exact_sorted value h.1, exactMembers_sortedMembers rest h.2]
    rfl
end

private theorem lookup_sortedMembers (members : List (String × Json)) (key : String) :
    (sortedMembers members).lookup key = (members.lookup key).map sorted := by
  induction members with
  | nil => rfl
  | cons member rest ih =>
    obtain ⟨k, v⟩ := member
    rw [sortedMembers, lookup_cons, lookup_cons]
    cases key == k with
    | true => rfl
    | false => exact ih

private theorem exact_of_lookup {members : List (String × Json)} {key : String} {value : Json}
    (hnodup : (members.map Prod.fst).Nodup) (h : exactMembers members = true)
    (hl : members.lookup key = some value) : value.exact = true :=
  exactMembers_iff.mp h _ ((lookup_eq_some_iff hnodup).mp hl)

mutual
theorem Json.equal_iff (u v : Json) (hu : u.exact = true) (hv : v.exact = true) :
    u.equal v = true ↔ u.sorted = v.sorted := by
  match u with
  | .null | .bool _ | .number _ | .string _ => cases v <;> simp [equal, sorted]
  | .array as =>
    match v with
    | .array bs => rw [equal, sorted, sorted, equalItems_iff as bs hu hv, array.injEq]
    | .null | .bool _ | .number _ | .string _ | .object _ => simp [equal, sorted]
  | .object as =>
    match v with
    | .object bs =>
      rw [exact, and_eq_true, decide_eq_true_eq] at hu hv
      rw [equal, and_eq_true, beq_iff_eq, equalMembers_iff as bs hu.2 hv, sorted, sorted,
        object.injEq, sortByKey_eq_iff (sortedMembers_keys as ▸ hu.1),
        perm_iff_lookup (sortedMembers_keys as ▸ hu.1) (sortedMembers_keys bs ▸ hv.1)]
      simp [sortedMembers_eq]
    | .null | .bool _ | .number _ | .string _ | .array _ => simp [equal, sorted]
theorem Json.equalItems_iff (as bs : List Json) (ha : exactItems as = true) (hb : exactItems bs = true) :
    equalItems as bs = true ↔ sortedItems as = sortedItems bs := by
  match as, bs with
  | [], [] | [], _ :: _ | _ :: _, [] => simp [equalItems, sortedItems]
  | a :: as, b :: bs =>
    rw [exactItems, and_eq_true] at ha hb
    rw [equalItems, and_eq_true, equal_iff a b ha.1 hb.1, equalItems_iff as bs ha.2 hb.2,
      sortedItems, sortedItems, List.cons.injEq]
theorem Json.equalMembers_iff (as bs : List (String × Json)) (ha : exactMembers as = true)
    (hb : (bs.map Prod.fst).Nodup ∧ exactMembers bs = true) :
    equalMembers as bs = true ↔
      ∀ member ∈ sortedMembers as, (sortedMembers bs).lookup member.1 = some member.2 := by
  match as with
  | [] => simp [equalMembers, sortedMembers]
  | (key, a) :: rest =>
    rw [exactMembers, and_eq_true] at ha
    rw [equalMembers, and_eq_true, equalMembers_iff rest bs ha.2 hb, sortedMembers,
      forall_mem_cons]
    refine and_congr_left fun _ => ?_
    rw [lookup_sortedMembers]
    cases hl : bs.lookup key with
    | none => simp
    | some b =>
      rw [Option.any_some, Option.map_some, Option.some.injEq, equal_iff a b ha.1 (exact_of_lookup hb.1 hb.2 hl)]
      exact eq_comm
end

end Sorting

section Reading

/-- What may follow a value: nothing that would extend a number. -/
def Stops (rest : List Char) : Prop := ∀ c ∈ rest.head?, c.isDigit = false

variable {rest : List Char}

private theorem stops_cons {c : Char} (h : c.isDigit = false) : Stops (c :: rest) := by
  rintro _ ⟨⟩
  exact h

theorem readNumeral_toDigits (value : Nat) (hr : Stops rest) :
    readNumeral (Nat.toDigits 10 value ++ rest) = some (value, rest) := by
  have hdigits : ∀ c ∈ Nat.toDigits 10 value, c.isDigit = true := fun c hc =>
    Nat.isDigit_of_mem_toDigits (by decide) (by decide) hc
  have hrest : rest.takeWhile Char.isDigit = [] ∧ rest.dropWhile Char.isDigit = rest := by
    cases rest with
    | nil => exact ⟨rfl, rfl⟩
    | cons c rest => simp [hr c rfl]
  have hspan : (Nat.toDigits 10 value ++ rest).span Char.isDigit = (Nat.toDigits 10 value, rest) := by
    rw [span_eq_takeWhile_dropWhile, takeWhile_append_of_pos hdigits, dropWhile_append_of_pos hdigits,
      hrest.1, hrest.2, append_nil]
  rw [readNumeral, hspan]
  simp [Nat.ofDigitChars_ten_toDigits]

private theorem toDigits_head (value : Nat) : ∃ c rest, Nat.toDigits 10 value = c :: rest ∧ c.isDigit = true := by
  cases h : Nat.toDigits 10 value with
  | nil => exact absurd h Nat.toDigits_ne_nil
  | cons c rest => exact ⟨c, rest, rfl, Nat.isDigit_of_mem_toDigits (by decide) (by decide) (h ▸ mem_cons_self)⟩

theorem readInteger_posInt {value : Nat} (hv : value < 2 ^ 64) (hr : Stops rest) :
    readInteger (integerText value ++ rest) = some (.number (.posInt value), rest) := by
  have ht : integerText (value : Int) = Nat.toDigits 10 value := by simp [integerText]
  obtain ⟨c, more, hd, hc⟩ := toDigits_head value
  have hminus : (Nat.toDigits 10 value ++ rest).head? ≠ some '-' := by
    rw [hd]
    rintro ⟨⟩
    exact absurd hc (by decide)
  rw [ht, readInteger, if_neg hminus, readNumeral_toDigits value hr]
  exact if_pos hv

theorem readInteger_negInt {value : Int} (hv : -2 ^ 63 ≤ value ∧ value < 0) (hr : Stops rest) :
    readInteger (integerText value ++ rest) = some (.number (.negInt value), rest) := by
  have ht : integerText value = '-' :: Nat.toDigits 10 value.natAbs := by simp [integerText, hv.2]
  have hrange : 0 < value.natAbs ∧ value.natAbs ≤ 2 ^ 63 := by omega
  have hback : -(value.natAbs : Int) = value := by omega
  rw [ht, readInteger, cons_append, List.head?_cons, if_pos rfl, tail_cons,
    readNumeral_toDigits value.natAbs hr]
  refine (if_pos hrange).trans ?_
  rw [hback]

variable (L : StringLiterals)

private theorem integerText_head (value : Int) : ∃ c rest, integerText value = c :: rest ∧
    (c = '-' ∨ c.isDigit = true) := by
  unfold integerText
  split
  · exact ⟨_, _, rfl, .inl rfl⟩
  · obtain ⟨c, rest, h, hc⟩ := toDigits_head value.natAbs
    exact ⟨c, rest, h, .inr hc⟩

private theorem readValue_integer (value : Int) (fuel : Nat) (rest : List Char) :
    readValue L.unquote (fuel + 1) (integerText value ++ rest) = readInteger (integerText value ++ rest) := by
  obtain ⟨c, more, h, hc⟩ := integerText_head value
  rw [h, cons_append, readValue, List.head?_cons]
  split <;> first | rfl | (rename_i he; cases he; exact absurd hc (by decide))

private theorem write_head (value : Json) (h : value.exact = true) :
    ∃ c rest, value.write L.quote = c :: rest ∧ c ≠ ']' := by
  have hinteger (n : Int) : ∃ c rest, integerText n = c :: rest ∧ c ≠ ']' := by
    obtain ⟨c, rest, ht, hc⟩ := integerText_head n
    refine ⟨c, rest, ht, ?_⟩
    rintro rfl
    exact absurd hc (by decide)
  match value with
  | .null | .bool true | .bool false => exact ⟨_, _, rfl, by decide⟩
  | .number (.posInt n) | .number (.negInt n) => exact hinteger n
  | .string text =>
    have ho := L.opens text
    rw [write]
    cases hq : L.quote text with
    | nil => simp [hq] at ho
    | cons c rest =>
      rw [hq, List.head?_cons, Option.some.injEq] at ho
      exact ⟨c, rest, rfl, by rw [ho]; decide⟩
  | .array items | .object members => exact ⟨_, _, rfl, by decide⟩

private theorem exists_succ {n fuel : Nat} (h : n + 1 ≤ fuel) : ∃ less, fuel = less + 1 ∧ n ≤ less :=
  ⟨fuel - 1, by omega, by omega⟩

mutual
theorem readValue_write (value : Json) (h : value.exact = true) (fuel : Nat) (rest : List Char)
    (hf : (value.write L.quote).length ≤ fuel) (hr : Stops rest) :
    readValue L.unquote fuel (value.write L.quote ++ rest) = some (value, rest) := by
  obtain ⟨c, more, hw, hc⟩ := write_head L value h
  obtain ⟨fuel, rfl, hless⟩ := exists_succ (show more.length + 1 ≤ fuel by simpa [hw] using hf)
  match value with
  | .null | .bool true | .bool false => rfl
  | .number (.posInt n) =>
    rw [write, readValue_integer]
    exact readInteger_posInt (by simpa [exact] using h) hr
  | .number (.negInt n) =>
    rw [write, readValue_integer]
    exact readInteger_negInt (by simpa [exact] using h) hr
  | .string text =>
    have ho : (L.quote text ++ rest).head? = some '"' := by
      rw [List.head?_append, L.opens]
      rfl
    rw [write, readValue, ho, L.reads]
    rfl
  | .array [] => rfl
  | .array (item :: items) =>
    have hitems := readItems_write (item :: items) h (by simp) fuel rest (by simpa [write] using hf)
    obtain ⟨first, others, hfirst, hne⟩ := write_head L item (by simp_all [exact, exactItems])
    have hopen : (joinComma (writeItems L.quote (item :: items)) ++ ']' :: rest).head? ≠ some ']' := by
      cases items <;> simpa [writeItems, joinComma, hfirst] using hne
    rw [write, cons_append, cons_append, append_assoc, singleton_append, readValue,
      List.head?_cons, tail_cons]
    exact (if_neg hopen).trans (congrArg (Option.map _) hitems)
  | .object [] => rfl
  | .object (member :: members) =>
    rw [exact, and_eq_true] at h
    have hmembers := readMembers_write (member :: members) h.2 (by simp) fuel rest (by simpa [write] using hf)
    have hopen : (joinComma (writeMembers L.quote (member :: members)) ++ '}' :: rest).head? ≠ some '}' := by
      cases members <;> simp [writeMembers, joinComma, List.head?_append, L.opens]
    rw [write, cons_append, cons_append, append_assoc, singleton_append, readValue,
      List.head?_cons, tail_cons]
    exact (if_neg hopen).trans (congrArg (Option.map _) hmembers)
theorem readItems_write (items : List Json) (h : exactItems items = true) (hne : items ≠ []) (fuel : Nat)
    (rest : List Char) (hf : (joinComma (writeItems L.quote items)).length + 1 ≤ fuel) :
    readItems L.unquote fuel (joinComma (writeItems L.quote items) ++ ']' :: rest) = some (items, rest) := by
  obtain ⟨fuel, rfl, hless⟩ := exists_succ hf
  clear hf
  match items with
  | [item] =>
    rw [exactItems, and_eq_true] at h
    have hitem := readValue_write item h.1 fuel (']' :: rest) hless (stops_cons (by decide))
    rw [writeItems, writeItems, joinComma, readItems, hitem]
    rfl
  | item :: next :: more =>
    rw [exactItems, and_eq_true] at h
    rw [writeItems, writeItems, joinComma, length_append, length_cons] at hless
    have hitem := readValue_write item h.1 fuel
      (',' :: (joinComma (writeItems L.quote (next :: more)) ++ ']' :: rest)) (by omega) (stops_cons (by decide))
    have hmore := readItems_write (next :: more) h.2 (by simp) fuel rest (by rw [writeItems]; omega)
    rw [writeItems, writeItems, joinComma, ← writeItems, append_assoc, cons_append, readItems,
      hitem]
    exact congrArg (Option.map _) hmore
theorem readMembers_write (members : List (String × Json)) (h : exactMembers members = true) (hne : members ≠ [])
    (fuel : Nat) (rest : List Char) (hf : (joinComma (writeMembers L.quote members)).length + 1 ≤ fuel) :
    readMembers L.unquote fuel (joinComma (writeMembers L.quote members) ++ '}' :: rest) =
      some (members, rest) := by
  obtain ⟨fuel, rfl, hless⟩ := exists_succ hf
  clear hf
  match members with
  | [(key, value)] =>
    rw [exactMembers, and_eq_true] at h
    rw [writeMembers, writeMembers, joinComma, length_append, length_cons] at hless
    have hvalue := readValue_write value h.1 fuel ('}' :: rest) (by omega) (stops_cons (by decide))
    rw [writeMembers, writeMembers, joinComma, append_assoc, cons_append, readMembers, L.reads]
    simp only [Option.bind_eq_bind, Option.bind_some, hvalue]
  | (key, value) :: next :: more =>
    rw [exactMembers, and_eq_true] at h
    rw [writeMembers, writeMembers, joinComma, length_append, length_append, length_cons,
      length_cons] at hless
    have hvalue := readValue_write value h.1 fuel
      (',' :: (joinComma (writeMembers L.quote (next :: more)) ++ '}' :: rest)) (by omega)
      (stops_cons (by decide))
    have hmore := readMembers_write (next :: more) h.2 (by simp) fuel rest (by rw [writeMembers]; omega)
    rw [writeMembers, writeMembers, joinComma, ← writeMembers, append_assoc, append_assoc,
      cons_append, cons_append, readMembers, L.reads]
    simp only [Option.bind_eq_bind, Option.bind_some, hvalue, hmore, Option.map_some]
end

end Reading

/-- Two values without floats have the same canonical text exactly if they are equal up to the order of keys, and the
text of a value reads back as an equal value with the same text. -/
theorem canonicalize_faithful (L : StringLiterals) (F : FloatText) (u v : Json) (hu : u.exact = true)
    (hv : v.exact = true) :
    (canonicalize F L.quote u = canonicalize F L.quote v ↔ u.equal v = true) ∧
    ∃ text back, canonicalize F L.quote u = .ok text ∧ parseJson L.unquote text.text = some back ∧
      back.equal u = true ∧ canonicalize F L.quote back = .ok text := by
  have htext {w : Json} (hw : w.exact = true) :
      canonicalize F L.quote w = .ok ⟨String.ofList (w.sorted.write L.quote)⟩ := by
    rw [canonicalize, canonicalValue_eq w hw]
    rfl
  have hread {w : Json} (hw : w.exact = true) {fuel : Nat} (hf : (w.write L.quote).length ≤ fuel) :
      readValue L.unquote fuel (w.write L.quote) = some (w, []) := by
    simpa using readValue_write L w hw fuel [] hf (by simp [Stops])
  have hus := exact_sorted u hu
  have hvs := exact_sorted v hv
  refine ⟨?_, _, u.sorted, htext hu, ?_, ?_, ?_⟩
  · rw [htext hu, htext hv, equal_iff u v hu hv]
    constructor
    · intro h
      have hsame := congrArg String.toList (congrArg CanonicalJson.text (Except.ok.inj h))
      rw [String.toList_ofList, String.toList_ofList] at hsame
      have hback := hread hus le_rfl
      rw [hsame, hread hvs le_rfl] at hback
      simpa using hback.symm
    · intro h
      rw [h]
  · rw [parseJson, String.toList_ofList, hread hus (Nat.le_succ _)]
  · rw [equal_iff _ _ hus hu, sorted_sorted u hu]
  · rw [htext hus, sorted_sorted u hu]

private def hexDigits : List Char := "0123456789abcdef".toList

/-- Quotation marks, backslashes and control characters are escaped, nothing else is. -/
def escapeChar (c : Char) : List Char :=
  if c = '"' then ['\\', '"']
  else if c = '\\' then ['\\', '\\']
  else if c.toNat = 8 then ['\\', 'b']
  else if c.toNat = 9 then ['\\', 't']
  else if c.toNat = 10 then ['\\', 'n']
  else if c.toNat = 12 then ['\\', 'f']
  else if c.toNat = 13 then ['\\', 'r']
  else if c.toNat < 32 then
    ['\\', 'u', '0', '0', hexDigits.getD (c.toNat / 16) '0', hexDigits.getD (c.toNat % 16) '0']
  else [c]

private def shortEscape : Char → Option Char
  | '"' => some '"'
  | '\\' => some '\\'
  | '/' => some '/'
  | 'b' => some (Char.ofNat 8)
  | 't' => some (Char.ofNat 9)
  | 'n' => some (Char.ofNat 10)
  | 'f' => some (Char.ofNat 12)
  | 'r' => some (Char.ofNat 13)
  | _ => none

private def longEscape (digits : List Char) : Option Char :=
  if digits.all hexDigits.contains then
    some (Char.ofNat (digits.foldl (fun value c => value * 16 + hexDigits.idxOf c) 0))
  else none

/-- Reads the characters of a literal up to its closing quotation mark. -/
def readLiteral : List Char → Option (List Char × List Char)
  | [] => none
  | '"' :: rest => some ([], rest)
  | '\\' :: 'u' :: a :: b :: c :: d :: rest => do
    let char ← longEscape [a, b, c, d]
    (readLiteral rest).map fun (chars, rest) => (char :: chars, rest)
  | '\\' :: escape :: rest => do
    let char ← shortEscape escape
    (readLiteral rest).map fun (chars, rest) => (char :: chars, rest)
  | char :: rest => (readLiteral rest).map fun (chars, rest) => (char :: chars, rest)

private theorem hexDigits_getD : ∀ d < 16, hexDigits.contains (hexDigits.getD d '0') = true ∧
    hexDigits.idxOf (hexDigits.getD d '0') = d := by
  decide

private theorem longEscape_eq {n : Nat} (h : n < 256) :
    longEscape ['0', '0', hexDigits.getD (n / 16) '0', hexDigits.getD (n % 16) '0'] = some (Char.ofNat n) := by
  obtain ⟨hhigh, hhigh'⟩ := hexDigits_getD (n / 16) (by omega)
  obtain ⟨hlow, hlow'⟩ := hexDigits_getD (n % 16) (by omega)
  have hzero : hexDigits.contains '0' = true ∧ hexDigits.idxOf '0' = 0 := by decide
  have hn : n / 16 * 16 + n % 16 = n := by omega
  simp only [longEscape, all_cons, all_nil, hhigh, hlow, hzero, Bool.and_true, if_true, foldl_cons,
    foldl_nil, hhigh', hlow', Nat.zero_mul, Nat.zero_add, hn]

private theorem readLiteral_escapeChar (c : Char) (rest : List Char) :
    readLiteral (escapeChar c ++ rest) = (readLiteral rest).map fun (chars, rest) => (c :: chars, rest) := by
  have hof {n : Nat} (h : c.toNat = n) : c = Char.ofNat n := by rw [← h, Char.ofNat_toNat]
  unfold escapeChar
  split_ifs with hquote hslash hb ht hn hf hr hcontrol
  · subst hquote; rfl
  · subst hslash; rfl
  · rw [hof hb]; rfl
  · rw [hof ht]; rfl
  · rw [hof hn]; rfl
  · rw [hof hf]; rfl
  · rw [hof hr]; rfl
  · rw [cons_append, cons_append, cons_append, cons_append, cons_append, cons_append,
      nil_append, readLiteral, longEscape_eq (by omega), Char.ofNat_toNat]
    rfl
  · rw [singleton_append, readLiteral.eq_def]
    split <;> simp_all

private theorem readLiteral_escape (chars rest : List Char) :
    readLiteral (chars.flatMap escapeChar ++ '"' :: rest) = some (chars, rest) := by
  induction chars with
  | nil => rfl
  | cons c chars ih => rw [flatMap_cons, append_assoc, readLiteral_escapeChar, ih]; rfl

/-- The literals of the linked JSON library. -/
def jsonLiterals : StringLiterals where
  quote text := '"' :: text.toList.flatMap escapeChar ++ ['"']
  unquote
    | '"' :: rest => (readLiteral rest).map fun (chars, rest) => (String.ofList chars, rest)
    | _ => none
  opens _ := rfl
  reads text rest := by
    rw [cons_append, cons_append, append_assoc]
    change (readLiteral (text.toList.flatMap escapeChar ++ '"' :: rest)).map _ = _
    simp [readLiteral_escape]

/-- A library that no value without floats calls. -/
def noFloats : FloatText := ⟨fun _ => [], fun _ => none⟩

/-- One object with its members in the given order. -/
def sampleObject (first second : String × Json) : Json :=
  .object [first, ("m", .array [.null, .bool true, .number (.negInt (-12)), .array []]), second]

theorem canonicalize_faithful_swapped :
    let a := ("a", string "say \"é\"\n")
    let z := ("z", object [("k", .number (.posInt 18446744073709551615))])
    canonicalize noFloats jsonLiterals.quote (sampleObject a z) =
      canonicalize noFloats jsonLiterals.quote (sampleObject z a) ∧
    ∃ text back, canonicalize noFloats jsonLiterals.quote (sampleObject z a) = .ok text ∧
      parseJson jsonLiterals.unquote text.text = some back ∧ back.equal (sampleObject z a) = true := by
  have hexact : (sampleObject ("a", .string "say \"é\"\n")
        ("z", .object [("k", .number (.posInt 18446744073709551615))])).exact = true ∧
      (sampleObject ("z", .object [("k", .number (.posInt 18446744073709551615))])
        ("a", .string "say \"é\"\n")).exact = true := by decide +kernel
  obtain ⟨hiff, -⟩ := canonicalize_faithful jsonLiterals noFloats _ _ hexact.1 hexact.2
  obtain ⟨-, text, back, htext, hback, hequal, -⟩ := canonicalize_faithful jsonLiterals noFloats _ _ hexact.2 hexact.1
  exact ⟨hiff.mpr (by decide +kernel), text, back, htext, hback, hequal⟩

example : canonicalize noFloats jsonLiterals.quote
    (.object [("z", .number (.posInt 1)), ("a", .object [("c", .array [.bool true, .null]), ("b", .string "x")])]) =
    .ok ⟨"\x7b\"a\":\x7b\"b\":\"x\",\"c\":[true,null]\x7d,\"z\":1\x7d"⟩ := by decide +kernel

end ProofPlatform.Kernel
