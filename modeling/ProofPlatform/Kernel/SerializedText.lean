import ProofPlatform.Kernel.CanonicalReading

/-! Serialized text, with the members of an object as its record declares them; it is canonical only if the record
declares its least key first. -/
namespace ProofPlatform.Kernel
open Library.Fallible Library.KeyOrder List Json

section
variable (float : Rat → List Char) (quote : String → List Char)

mutual
def Json.serialize : Json → List Char
  | .null => "null".toList
  | .bool value => if value then "true".toList else "false".toList
  | .number (.posInt value) => integerText value
  | .number (.negInt value) => integerText value
  | .number (.float value) => float value
  | .string text => quote text
  | .array items => '[' :: joinComma (serializeItems items) ++ [']']
  | .object members => '{' :: joinComma (serializeMembers members) ++ ['}']
def Json.serializeItems : List Json → List (List Char)
  | [] => []
  | item :: rest => item.serialize :: serializeItems rest
def Json.serializeMembers : List (String × Json) → List (List Char)
  | [] => []
  | (key, value) :: rest => (quote key ++ ':' :: value.serialize) :: serializeMembers rest
end

end

mutual
/-- No object of the value has a key twice. -/
def Json.distinctKeys : Json → Bool
  | .array items => distinctKeysItems items
  | .object members => decide (members.map Prod.fst).Nodup && distinctKeysMembers members
  | _ => true
def Json.distinctKeysItems : List Json → Bool
  | [] => true
  | item :: rest => item.distinctKeys && distinctKeysItems rest
def Json.distinctKeysMembers : List (String × Json) → Bool
  | [] => true
  | (_, value) :: rest => value.distinctKeys && distinctKeysMembers rest
end

theorem joinComma_cons (first : List Char) (rest : List (List Char)) :
    ∃ tail, joinComma (first :: rest) = first ++ tail := by
  cases rest with
  | nil => exact ⟨[], (append_nil first).symm⟩
  | cons next rest => exact ⟨_, rfl⟩

theorem serialize_object (float : Rat → List Char) (quote : String → List Char) (key : String) (value : Json)
    (rest : List (String × Json)) :
    ∃ tail, (object ((key, value) :: rest)).serialize float quote = '{' :: (quote key ++ tail) := by
  obtain ⟨tail, htail⟩ := joinComma_cons (quote key ++ ':' :: value.serialize float quote)
    (serializeMembers float quote rest)
  refine ⟨':' :: value.serialize float quote ++ tail ++ ['}'], ?_⟩
  rw [serialize, serializeMembers, htail]
  simp only [cons_append, append_assoc]

section
variable {F : FloatText} {quote : String → List Char}

theorem canonicalMembers_keys (members : List (String × Json)) :
    (canonicalMembers F quote members).map Prod.fst = members.map Prod.fst := by
  induction members with
  | nil => rfl
  | cons member rest ih => rw [canonicalMembers, map_cons, map_cons, ih]

/-- The canonical text of an object begins with a key that no key of the object is below. -/
theorem canonicalValue_object {members : List (String × Json)} {text : List Char} {key : String}
    (h : canonicalValue F quote (.object members) = .ok text) (hkey : key ∈ members.map Prod.fst) :
    ∃ least tail, least ≤ key ∧ text = '{' :: (quote least ++ tail) := by
  rw [← @canonicalMembers_keys F quote] at hkey
  obtain ⟨member, hmember, rfl⟩ := mem_map.mp hkey
  have hsorted := pairwise_insertionSort (r := fun a b : String × Except CanonicalizationError (List Char) =>
    a.1 ≤ b.1) (canonicalMembers F quote members)
  rw [canonicalValue] at h
  cases hlist : sortByKey (canonicalMembers F quote members) with
  | nil => rw [← mem_sortByKey, hlist] at hmember; cases hmember
  | cons least rest =>
    rw [hlist, map_cons] at h
    simp only [collect, bind_eq_ok] at h
    obtain ⟨rendered, ⟨first, ⟨value, -, hfirst⟩, values, -, hrendered⟩, htext⟩ := h
    obtain rfl := Except.ok.inj hfirst
    obtain rfl := Except.ok.inj hrendered
    obtain rfl := Except.ok.inj htext
    obtain ⟨tail, htail⟩ := joinComma_cons (quote least.1 ++ ':' :: value) values
    refine ⟨least.1, ':' :: value ++ tail ++ ['}'], ?_, ?_⟩
    · rw [← mem_sortByKey, hlist, mem_cons] at hmember
      rw [sortByKey] at hlist
      rw [hlist, pairwise_cons] at hsorted
      rcases hmember with rfl | hmember
      · exact le_rfl
      · exact hsorted.1 member hmember
    · rw [htail]
      simp only [cons_append, append_assoc]

end

/-- A serializer that begins with a key other than the least writes no canonical text. -/
theorem serialize_ne_canonical (L : StringLiterals) {F : FloatText} {float : Rat → List Char} {key least : String}
    {value : Json} {rest members : List (String × Json)} {text : CanonicalJson} (hlt : least < key)
    (hleast : least ∈ members.map Prod.fst) (h : canonicalize F L.quote (.object members) = .ok text) :
    String.ofList ((object ((key, value) :: rest)).serialize float L.quote) ≠ text.text := by
  simp only [canonicalize, bind_eq_ok] at h
  obtain ⟨chars, hchars, htext⟩ := h
  obtain rfl := Except.ok.inj htext
  obtain ⟨first, tail, hfirst, rfl⟩ := canonicalValue_object hchars hleast
  obtain ⟨tail', htail'⟩ := serialize_object float L.quote key value rest
  intro heq
  have hlist := congrArg String.toList heq
  rw [htail', String.toList_ofList, String.toList_ofList, List.cons.injEq] at hlist
  -- both texts open with a literal, which reads back as one key only
  have hread := (L.reads key tail').symm.trans ((congrArg L.unquote hlist.2).trans (L.reads first tail))
  have hsame : key = first := (Prod.mk.inj (Option.some.inj hread)).1
  exact absurd hlt (not_lt_of_ge (hsame ▸ hfirst))

end ProofPlatform.Kernel
