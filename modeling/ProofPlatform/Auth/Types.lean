import ProofPlatform.Operator.Audit

/-! The values of operator authentication, and the hexadecimal texts of nonces and tokens. -/
namespace ProofPlatform.Auth
open Kernel Operator Library.Fallible

def challengeTtlSeconds : Nat := 120

def sessionAbsoluteTtlSeconds : Nat := 900

def sessionIdleTtlSeconds : Nat := 300

section Bytes

/-- Thirty-two bytes. -/
structure Bytes32 where
  bytes : List UInt8
  length_eq : bytes.length = 32
  deriving DecidableEq

def hexDigit (nibble : UInt8) : UInt8 := if nibble < 10 then 48 + nibble else 87 + nibble

def encodeHex (bytes : List UInt8) : List UInt8 :=
  bytes.flatMap fun byte : UInt8 => [hexDigit (byte >>> 4), hexDigit (byte &&& 0x0f)]

def decodeNibble (byte : UInt8) : UInt8 × Bool :=
  if 48 ≤ byte ∧ byte ≤ 57 then (byte - 48, true)
  else if 97 ≤ byte ∧ byte ≤ 102 then (byte - 97 + 10, true)
  else (0, false)

/-- The two digits at the places of a byte, a missing digit counting as the byte zero. -/
def decodeByte (input : List UInt8) (index : Nat) : UInt8 × Bool :=
  let high := decodeNibble (input.getD (index * 2) 0)
  let low := decodeNibble (input.getD (index * 2 + 1) 0)
  (high.1 <<< 4 ||| low.1, high.2 && low.2)

/-- All 64 digits are read, whatever the input; the flag says whether it was canonical. -/
def decodeHex32 (input : List UInt8) : Bytes32 × Bool :=
  (⟨(List.range 32).map fun index => (decodeByte input index).1, by simp⟩,
    decide (input.length = 64) && (List.range 32).all fun index => (decodeByte input index).2)

private theorem nibble_valid (byte : UInt8) (h : (decodeNibble byte).2 = true) :
    (decodeNibble byte).1 < 16 ∧ hexDigit (decodeNibble byte).1 = byte := by
  have hcheck : ∀ n : Fin 256, (decodeNibble (UInt8.ofNat n)).2 = true →
      (decodeNibble (UInt8.ofNat n)).1 < 16 ∧ hexDigit (decodeNibble (UInt8.ofNat n)).1 = UInt8.ofNat n := by
    decide +kernel
  have hbyte := hcheck ⟨byte.toNat, byte.toNat_lt⟩
  rw [UInt8.ofNat_toNat] at hbyte
  exact hbyte h

private theorem nibbles (high low : UInt8) (hh : high < 16) (hl : low < 16) :
    (high <<< 4 ||| low) >>> 4 = high ∧ (high <<< 4 ||| low) &&& 0x0f = low := by
  have hcheck : ∀ h : Fin 16, ∀ l : Fin 16, ((UInt8.ofNat h) <<< 4 ||| UInt8.ofNat l) >>> 4 = UInt8.ofNat h ∧
      ((UInt8.ofNat h) <<< 4 ||| UInt8.ofNat l) &&& 0x0f = UInt8.ofNat l := by decide +kernel
  have hpair := hcheck ⟨high.toNat, UInt8.lt_iff_toNat_lt.mp hh⟩ ⟨low.toNat, UInt8.lt_iff_toNat_lt.mp hl⟩
  rwa [UInt8.ofNat_toNat, UInt8.ofNat_toNat] at hpair

private theorem decodeByte_valid {input : List UInt8} {index : Nat} (h : (decodeByte input index).2 = true) :
    [hexDigit ((decodeByte input index).1 >>> 4), hexDigit ((decodeByte input index).1 &&& 0x0f)] =
      [input.getD (index * 2) 0, input.getD (index * 2 + 1) 0] := by
  simp only [decodeByte, Bool.and_eq_true] at h ⊢
  obtain ⟨hhigh, hhigh'⟩ := nibble_valid _ h.1
  obtain ⟨hlow, hlow'⟩ := nibble_valid _ h.2
  obtain ⟨hshift, hmask⟩ := nibbles _ _ hhigh hlow
  rw [hshift, hmask, hhigh', hlow']

private theorem flatMap_pairs (input : List UInt8) (n : Nat) (h : input.length = 2 * n) :
    ((List.range n).flatMap fun index => [input.getD (index * 2) 0, input.getD (index * 2 + 1) 0]) = input := by
  induction n generalizing input with
  | zero =>
    obtain rfl := List.length_eq_zero_iff.mp h
    rfl
  | succ n ih =>
    rcases input with _ | ⟨a, _ | ⟨b, rest⟩⟩
    · simp at h
    · simp at h
      omega
    · rw [List.range_succ_eq_map, List.flatMap_cons, List.flatMap_map]
      have hrest := ih rest (by simp at h; omega)
      have hplace (i : Nat) : (a :: b :: rest).getD ((i + 1) * 2) 0 = rest.getD (i * 2) 0 ∧
          (a :: b :: rest).getD ((i + 1) * 2 + 1) 0 = rest.getD (i * 2 + 1) 0 := by
        constructor <;> simp [Nat.add_mul]
      simp only [hplace, hrest]
      rfl

/-- An input read as canonical is the lowercase text of what was read. -/
theorem decodeHex32_canonical {input : List UInt8} {value : Bytes32} (h : decodeHex32 input = (value, true)) :
    input = encodeHex value.bytes := by
  simp only [decodeHex32, Prod.mk.injEq, Bool.and_eq_true, decide_eq_true_eq, List.all_eq_true] at h
  obtain ⟨rfl, hlength, hdigits⟩ := h
  rw [encodeHex, List.flatMap_map]
  have hpairs : ((List.range 32).flatMap fun index =>
      [hexDigit ((decodeByte input index).1 >>> 4), hexDigit ((decodeByte input index).1 &&& 0x0f)]) =
        (List.range 32).flatMap fun index => [input.getD (index * 2) 0, input.getD (index * 2 + 1) 0] :=
    List.flatMap_congr fun index hindex => decodeByte_valid (hdigits index hindex)
  rw [hpairs]
  exact (flatMap_pairs input 32 (by omega)).symm

end Bytes

section Capabilities

/-- The place of a capability in the canonical order. -/
def capabilityRank : Capability → Nat
  | .approvalDecide => 0
  | .approvalRead => 1
  | .auditRead => 2
  | .runCancel => 3
  | .runRead => 4
  | .runResume => 5

def isCanonicalCapabilitySet (capabilities : List Capability) : Bool :=
  !capabilities.isEmpty && decide (capabilities.length ≤ 6) &&
    (capabilities.zip capabilities.tail).all fun pair => decide (capabilityRank pair.1 < capabilityRank pair.2)

/-- A set is never empty and is kept in canonical order. -/
structure CapabilitySet where
  values : List Capability
  canonical : isCanonicalCapabilitySet values = true
  deriving DecidableEq

def CapabilitySet.new (values : List Capability) : Option CapabilitySet :=
  if h : isCanonicalCapabilitySet values = true then some ⟨values, h⟩ else none

/-- The search is binary in the source, which on an ordered list finds what is there. -/
def CapabilitySet.contains (set : CapabilitySet) (capability : Capability) : Bool := set.values.contains capability

theorem CapabilitySet.new_eq_some {values : List Capability} {set : CapabilitySet}
    (h : CapabilitySet.new values = some set) :
    set.values = values := by
  unfold CapabilitySet.new at h
  split at h
  · cases h
    rfl
  · cases h

end Capabilities

inductive OperatorAuthError where
  | invalidRequest
  | authenticationRequired
  | capabilityRequired
  | challengePending
  | controlUnavailable
  deriving DecidableEq

/-- A rejection of the caller, or a failure of the protected callback. -/
inductive AuthorizedCallError (E : Type) where
  | auth (error : OperatorAuthError)
  | callback (error : E)
  deriving DecidableEq

structure AuthPolicy where
  workspaceId : Uuid
  workspaceFingerprint : ControlDigest
  serverInstanceId : Uuid
  humanId : Uuid
  humanPublicKey : PublicKey
  humanPublicKeyFingerprint : ControlDigest
  authEpoch : Nat
  policyRevision : Nat
  origin : String
  enrolledCapabilities : CapabilitySet
  workspaceCapabilities : CapabilitySet
  supportedCapabilities : CapabilitySet

structure ChallengeIssueRequest where
  schema : String
  clientNonceDigest : ControlDigest
  requestedCapabilities : CapabilitySet

structure SessionChallenge where
  schema : String
  challengeId : Uuid
  serverInstanceId : Uuid
  serverNonce : List UInt8
  workspaceId : Uuid
  workspaceFingerprint : ControlDigest
  humanId : Uuid
  humanPublicKeyFingerprint : ControlDigest
  authEpoch : Nat
  policyRevision : Nat
  origin : String
  clientNonceDigest : ControlDigest
  requestedCapabilities : CapabilitySet
  grantedCapabilities : CapabilitySet
  issuedAt : Instant
  expiresAt : Instant
  challengeTtlSeconds : Nat
  sessionAbsoluteTtlSeconds : Nat
  sessionIdleTtlSeconds : Nat
  deriving DecidableEq

structure ChallengeIssueResponse where
  schema : String
  challenge : SessionChallenge
  challengeCode : List UInt8
  deriving DecidableEq

structure SessionAttestation where
  schema : String
  challenge : SessionChallenge
  signatureAlgorithm : String
  signature : String
  signedBytesDigest : ControlDigest
  deriving DecidableEq

structure SessionExchangeRequest where
  schema : String
  challengeId : Uuid
  clientNonce : String

structure SessionExchangeResponse where
  schema : String
  sessionId : Uuid
  sessionToken : Bytes32
  workspaceId : Uuid
  serverInstanceId : Uuid
  humanId : Uuid
  authEpoch : Nat
  policyRevision : Nat
  grantedCapabilities : CapabilitySet
  issuedAt : Instant
  absoluteExpiresAt : Instant
  idleExpiresAt : Instant
  deriving DecidableEq

/-- The scope a protected callback is given. -/
structure AuthorizedSession where
  sessionId : Uuid
  workspaceId : Uuid
  serverInstanceId : Uuid
  humanId : Uuid
  authEpoch : Nat
  policyRevision : Nat
  origin : String
  grantedCapabilities : CapabilitySet
  issuedAt : Instant
  absoluteExpiresAt : Instant
  authorityDigest : ControlDigest
  deriving DecidableEq

structure ControlAuditAppendResult where
  schema : String
  event : AuditEvent

/-- The linked libraries: canonical texts, labelled hashes, base64url, Ed25519, the last instant. -/
structure AuthPrimitives where
  canonicalChallenge : SessionChallenge → Option String
  canonicalBinding : SessionAuthorityBinding → Option String
  clientNonce : Bytes32 → ControlDigest
  publicKey : PublicKey → ControlDigest
  signedBytes : List UInt8 → ControlDigest
  authority : String → ControlDigest
  token : Bytes32 → Bytes32
  sha256 : List UInt8 → List UInt8
  decodeBase64 : String → Option (List UInt8)
  encodeBase64 : List UInt8 → String
  verify : PublicKey → List UInt8 → List UInt8 → Bool
  latest : Instant

/-- What one call learns from its environment. No call asks for the same thing twice. -/
structure CallEnvironment where
  trustedUtcNow : Option Instant
  monotonicMillis : Option Nat
  newUuidV7 : Option Uuid
  fillRandom : Option Bytes32
  appendAuthorityEvent : ControlAuditAppendRequest → Option ControlAuditAppendResult

def stringBytes (text : String) : List UInt8 := text.toUTF8.toList

variable (P : AuthPrimitives)

variable (challenge : SessionChallenge)

def challengeSigningBytes : Option (List UInt8) :=
  (P.canonicalChallenge challenge).map fun canonical =>
    stringBytes "Proof-Operator-Session-Challenge-v1" ++ [0] ++ stringBytes canonical

def challengeSignedBytesDigest : Option ControlDigest :=
  (challengeSigningBytes P challenge).map P.signedBytes

def challengeCode : Option (List UInt8) :=
  (P.canonicalChallenge challenge).map fun canonical => encodeHex ((P.sha256 (stringBytes canonical)).take 5)

def decodeSignature (value : String) : Option (List UInt8) :=
  if value.utf8ByteSize = 86 ∧ value.toList.contains '=' = false then
    (P.decodeBase64 value).filter fun bytes => bytes.length == 64 && P.encodeBase64 bytes == value
  else none

def intersectCapabilities (requested enrolled policy supported : CapabilitySet) :
    Except OperatorAuthError CapabilitySet :=
  orReject (CapabilitySet.new (requested.values.filter fun capability =>
    enrolled.contains capability && policy.contains capability && supported.contains capability)) .invalidRequest

theorem intersectCapabilities_subset {requested enrolled policy supported granted : CapabilitySet}
    (h : intersectCapabilities requested enrolled policy supported = .ok granted) :
    granted.values ⊆ requested.values ∧ granted.values ⊆ enrolled.values ∧ granted.values ⊆ policy.values ∧
      granted.values ⊆ supported.values := by
  rw [intersectCapabilities, orReject_eq_ok] at h
  rw [CapabilitySet.new_eq_some h]
  have hmem (capability : Capability) (hgranted : capability ∈ requested.values.filter fun capability =>
      enrolled.contains capability && policy.contains capability && supported.contains capability) :
      capability ∈ requested.values ∧ (capability ∈ enrolled.values ∧ capability ∈ policy.values) ∧
        capability ∈ supported.values := by
    simpa [CapabilitySet.contains] using hgranted
  exact ⟨fun c hc => (hmem c hc).1, fun c hc => (hmem c hc).2.1.1, fun c hc => (hmem c hc).2.1.2,
    fun c hc => (hmem c hc).2.2⟩

def challengeMatchesPolicy (policy : AuthPolicy) : Bool :=
  challenge.schema == "proof.operator.session.challenge/v1" && uuidIsV7 challenge.challengeId &&
    challenge.serverInstanceId == policy.serverInstanceId && challenge.workspaceId == policy.workspaceId &&
    challenge.workspaceFingerprint == policy.workspaceFingerprint && challenge.humanId == policy.humanId &&
    challenge.humanPublicKeyFingerprint == policy.humanPublicKeyFingerprint &&
    challenge.authEpoch == policy.authEpoch && challenge.policyRevision == policy.policyRevision &&
    challenge.origin == policy.origin && challenge.challengeTtlSeconds == Auth.challengeTtlSeconds &&
    challenge.sessionAbsoluteTtlSeconds == Auth.sessionAbsoluteTtlSeconds &&
    challenge.sessionIdleTtlSeconds == Auth.sessionIdleTtlSeconds &&
    isCanonicalCapabilitySet challenge.requestedCapabilities.values &&
    isCanonicalCapabilitySet challenge.grantedCapabilities.values

def auditEventKind : ControlAuthorityEventKind → AuditEventKind := authorityEventKind

def auditResultMatches (request : ControlAuditAppendRequest) (result : ControlAuditAppendResult) : Bool :=
  let event := result.event
  result.schema == "proof.operator.control-audit-append-result/v1" && event.schema == "proof.operator.audit-event/v1" &&
    event.workspaceId == request.workspaceId && event.kind == auditEventKind request.kind &&
    event.outcome == (if request.kind = .sessionExpired then .expired else .accepted) &&
    event.humanId == request.humanId && event.sessionId == request.sessionId &&
    event.challengeId == request.challengeId && event.challengeDigest == request.challengeDigest &&
    event.sessionAuthorityDigest == request.sessionAuthorityDigest &&
    event.relatedSessionId == request.relatedSessionId &&
    event.serverInstanceId == some request.serverInstanceId && event.authEpoch == request.authEpoch &&
    event.policyRevision == request.policyRevision

end ProofPlatform.Auth
