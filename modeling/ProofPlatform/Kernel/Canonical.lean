import Mathlib.Data.Rat.Init
import Mathlib.Data.String.Basic
import ProofPlatform.Kernel.Identity
import ProofPlatform.Library.Fallible
import ProofPlatform.Library.KeyOrder

/-! JSON values, canonical text and content digests. -/
namespace ProofPlatform.Kernel
open Library.KeyOrder

/-- A JSON number as parsed. A float is the exact value of a finite double, so the zeros are one. -/
inductive Number where
  | posInt (value : Nat)
  | negInt (value : Int)
  | float (value : Rat)
  deriving DecidableEq

inductive Json where
  | null
  | bool (value : Bool)
  | number (value : Number)
  | string (value : String)
  | array (items : List Json)
  | object (members : List (String × Json))

mutual
def Json.beq : Json → Json → Bool
  | .null, .null => true
  | .bool a, .bool b => a == b
  | .number a, .number b => a == b
  | .string a, .string b => a == b
  | .array a, .array b => Json.beqItems a b
  | .object a, .object b => Json.beqMembers a b
  | _, _ => false
def Json.beqItems : List Json → List Json → Bool
  | [], [] => true
  | a :: as, b :: bs => a.beq b && Json.beqItems as bs
  | _, _ => false
def Json.beqMembers : List (String × Json) → List (String × Json) → Bool
  | [], [] => true
  | (k, a) :: as, (l, b) :: bs => k == l && a.beq b && Json.beqMembers as bs
  | _, _ => false
end

mutual
theorem Json.beq_eq_iff : (a b : Json) → (a.beq b = true ↔ a = b)
  | a, b => by
    cases a <;> cases b <;> simp [Json.beq]
    · exact Json.beqItems_eq_iff _ _
    · exact Json.beqMembers_eq_iff _ _
theorem Json.beqItems_eq_iff : (as bs : List Json) → (Json.beqItems as bs = true ↔ as = bs)
  | [], bs => by cases bs <;> simp [Json.beqItems]
  | a :: as, [] => by simp [Json.beqItems]
  | a :: as, b :: bs => by
    simp only [Json.beqItems, Bool.and_eq_true, List.cons.injEq]
    exact and_congr (Json.beq_eq_iff a b) (Json.beqItems_eq_iff as bs)
theorem Json.beqMembers_eq_iff : (as bs : List (String × Json)) → (Json.beqMembers as bs = true ↔ as = bs)
  | [], bs => by cases bs <;> simp [Json.beqMembers]
  | a :: as, [] => by simp [Json.beqMembers]
  | (k, a) :: as, (l, b) :: bs => by
    simp only [Json.beqMembers, Bool.and_eq_true, beq_iff_eq, List.cons.injEq, Prod.mk.injEq]
    exact and_congr (and_congr_right fun _ => Json.beq_eq_iff a b) (Json.beqMembers_eq_iff as bs)
end

instance : DecidableEq Json := fun a b => decidable_of_iff _ (Json.beq_eq_iff a b)

/-- Member lookup, as on a parsed object; other values have no members. -/
def Json.get (value : Json) (key : String) : Option Json :=
  match value with
  | .object members => members.lookup key
  | _ => none

def Json.asStr : Json → Option String
  | .string text => some text
  | _ => none

inductive ArtifactKind where
  | operationInput
  | operationOutput
  | proof
  | delegation
  | approvalRequest
  | approvalDecision
  | agentCheckpoint
  | agentEvent
  | generic
  deriving DecidableEq

inductive CanonicalizationError where
  | nonFiniteNumber
  | nonExactNumber
  | unsafeInteger
  deriving DecidableEq

def CanonicalizationError.message : CanonicalizationError → String
  | .nonFiniteNumber => "non-finite JSON number"
  | .nonExactNumber => "number cannot be represented exactly in canonical JSON"
  | .unsafeInteger => "integer exceeds the canonical JSON safe range"

structure CanonicalJson where
  text : String
  deriving DecidableEq

/-- A 256-bit content digest. -/
structure ContentDigest where
  bytes : BitVec 256
  deriving DecidableEq

/-! The canonical text of a JSON value. Linked libraries write strings and floats. -/

/-- How the linked libraries write a finite double in scientific form and read a number. -/
structure FloatText where
  scientific : Rat → List Char
  parse : List Char → Option Rat

/-- The elements in order, or the first error among them. -/
def collect {ε α : Type} : List (Except ε α) → Except ε (List α)
  | [] => .ok []
  | first :: rest => do
    let value ← first
    let values ← collect rest
    pure (value :: values)

def joinComma : List (List Char) → List Char
  | [] => []
  | [text] => text
  | text :: next :: rest => text ++ ',' :: joinComma (next :: rest)

def integerText (value : Int) : List Char :=
  if value < 0 then '-' :: Nat.toDigits 10 value.natAbs else Nat.toDigits 10 value.natAbs

def trimEnd (c : Char) (text : List Char) : List Char := (text.reverse.dropWhile (· == c)).reverse

def dropPointZero : List Char → List Char
  | '.' :: '0' :: 'e' :: rest => 'e' :: dropPointZero rest
  | c :: rest => c :: dropPointZero rest
  | [] => []

section
variable (F : FloatText)

/-- The text is kept if it reads back as the value. -/
def checkExact (value : Rat) (text : List Char) : Except CanonicalizationError (List Char) :=
  if F.parse text = some value then .ok (dropPointZero text) else .error .nonExactNumber

/-- The scientific form without a zero exponent, if the value has one. -/
def floatText (value : Rat) : Except CanonicalizationError (List Char) :=
  let text := F.scientific value
  match text.span fun c => c != 'e' && c != 'E' with
  | (_, []) => checkExact F value text
  | (mantissa, marker :: digits) =>
    let integer := trimEnd '.' (trimEnd '0' mantissa)
    if marker == 'e' && digits == ['0'] && mantissa.all (fun c => c.isDigit || c == '-' || c == '.') &&
        !integer.isEmpty then .ok integer
    else
      let exponent := digits.dropWhile (· == '0')
      if exponent.isEmpty && ['.', '0'].isSuffixOf mantissa then
        if F.parse integer = some value then .ok integer else .error .nonExactNumber
      else checkExact F value (mantissa ++ 'e' :: if exponent.isEmpty then ['0'] else exponent)

def canonicalNumber : Number → Except CanonicalizationError (List Char)
  | .posInt value => .ok (integerText value)
  | .negInt value => .ok (integerText value)
  | .float value => if value = 0 then .ok ['0'] else floatText F value

variable (quote : String → List Char)

mutual
def canonicalValue : Json → Except CanonicalizationError (List Char)
  | .null => .ok "null".toList
  | .bool value => .ok (if value then "true".toList else "false".toList)
  | .number number => canonicalNumber F number
  | .string text => .ok (quote text)
  | .array items => do
    let rendered ← collect (canonicalItems items)
    pure ('[' :: joinComma rendered ++ [']'])
  | .object members => do
    -- Strings are ordered by their UTF-8 bytes, which is the order of their code points.
    let rendered ← collect ((sortByKey (canonicalMembers members)).map fun member => do
      pure (quote member.1 ++ ':' :: (← member.2)))
    pure ('{' :: joinComma rendered ++ ['}'])
def canonicalItems : List Json → List (Except CanonicalizationError (List Char))
  | [] => []
  | item :: rest => canonicalValue item :: canonicalItems rest
def canonicalMembers : List (String × Json) → List (String × Except CanonicalizationError (List Char))
  | [] => []
  | (key, value) :: rest => (key, canonicalValue value) :: canonicalMembers rest
end

def canonicalize (value : Json) : Except CanonicalizationError CanonicalJson := do
  pure ⟨String.ofList (← canonicalValue F quote value)⟩

end

mutual
/-- Equality of parsed values, where objects are compared as maps. -/
def Json.equal : Json → Json → Bool
  | .null, .null => true
  | .bool a, .bool b => a == b
  | .number a, .number b => a == b
  | .string a, .string b => a == b
  | .array as, .array bs => Json.equalItems as bs
  | .object as, .object bs => as.length == bs.length && Json.equalMembers as bs
  | _, _ => false
def Json.equalItems : List Json → List Json → Bool
  | [], [] => true
  | a :: as, b :: bs => a.equal b && Json.equalItems as bs
  | _, _ => false
/-- Every member of the first list is found in the second. -/
def Json.equalMembers : List (String × Json) → List (String × Json) → Bool
  | [], _ => true
  | (key, a) :: as, bs => (bs.lookup key).any (fun b => a.equal b) && Json.equalMembers as bs
end

mutual
/-- A value without floats, its integers in range and the keys of each object distinct. -/
def Json.exact : Json → Bool
  | .number (.posInt value) => decide (value < 2 ^ 64)
  | .number (.negInt value) => decide (-2 ^ 63 ≤ value ∧ value < 0)
  | .number (.float _) => false
  | .array items => Json.exactItems items
  | .object members => decide (members.map Prod.fst).Nodup && Json.exactMembers members
  | _ => true
def Json.exactItems : List Json → Bool
  | [] => true
  | item :: rest => item.exact && Json.exactItems rest
def Json.exactMembers : List (String × Json) → Bool
  | [] => true
  | (_, value) :: rest => value.exact && Json.exactMembers rest
end

end ProofPlatform.Kernel
