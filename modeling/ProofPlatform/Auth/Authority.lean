import ProofPlatform.Auth.Types
import ProofPlatform.Library.FallibleState

/-! The in-memory authority: at most one pending challenge and one session, both under one lock. -/
namespace ProofPlatform.Auth
open Kernel Operator Library Fallible FallibleState Act

structure PendingChallenge where
  challenge : SessionChallenge
  expiryTick : Nat
  attestation : Option SessionAttestation
  deriving DecidableEq

structure ActiveSession where
  authority : AuthorizedSession
  tokenDigest : Bytes32
  absoluteExpiryTick : Nat
  idleExpiryTick : Nat
  deriving DecidableEq

structure AuthState where
  pending : Option PendingChallenge
  session : Option ActiveSession
  deriving DecidableEq

def AuthState.clear : AuthState := ⟨none, none⟩

abbrev AuthM := Act AuthState OperatorAuthError

def clearUnavailable {α : Type} : AuthM α := failWith .controlUnavailable .clear

/-- The value, or both slots are cleared and the authority is unavailable. -/
def orClear {α : Type} : Option α → AuthM α
  | some value => pure value
  | none => clearUnavailable

@[irreducible] def checkedAdd (tick milliseconds : Nat) : Option Nat :=
  if tick + milliseconds < 2 ^ 64 then some (tick + milliseconds) else none

@[irreducible] def addSeconds (P : AuthPrimitives) (instant : Instant) (seconds : Nat) : Option Instant :=
  if instant + seconds * 10 ^ 9 ≤ P.latest then some (instant + seconds * 10 ^ 9) else none

variable (E : CallEnvironment) (request : ControlAuditAppendRequest)

/-- The audit store appended an event that matches the request. -/
def Audited : Prop :=
  ∃ result, E.appendAuthorityEvent request = some result ∧ auditResultMatches request result = true

def appendAudit : Bool :=
  (E.appendAuthorityEvent request).any (auditResultMatches request)

theorem appendAudit_iff {E : CallEnvironment} {request : ControlAuditAppendRequest} :
    appendAudit E request = true ↔ Audited E request := Option.any_eq_true ..

def auditOrClear : AuthM Unit :=
  if appendAudit E request then pure () else clearUnavailable

variable (P : AuthPrimitives) (policy : AuthPolicy) (E : CallEnvironment)

section Intents

def intent (kind : ControlAuthorityEventKind) : ControlAuditAppendRequest where
  schema := "proof.operator.control-audit-append-request/v1"
  kind := kind
  workspaceId := policy.workspaceId
  serverInstanceId := policy.serverInstanceId

/-- An event of the human's carries the policy it happened under. -/
def humanIntent (kind : ControlAuthorityEventKind) : ControlAuditAppendRequest :=
  { intent policy kind with
    humanId := some policy.humanId
    authEpoch := some policy.authEpoch
    policyRevision := some policy.policyRevision }

def challengeIntent (challengeId : Uuid) (challengeDigest : ControlDigest) : ControlAuditAppendRequest :=
  { humanIntent policy .sessionChallengeIssued with
    challengeId := some challengeId
    challengeDigest := some challengeDigest }

def sessionIntent (challengeId sessionId : Uuid) (replacedSessionId : Option Uuid)
    (challengeDigest authorityDigest : ControlDigest) : ControlAuditAppendRequest :=
  { humanIntent policy (if replacedSessionId.isSome then .sessionReplaced else .sessionIssued) with
    challengeId := some challengeId
    sessionId := some sessionId
    relatedSessionId := replacedSessionId
    challengeDigest := some challengeDigest
    sessionAuthorityDigest := some authorityDigest }

def expiredIntent (expired : AuthorizedSession) : ControlAuditAppendRequest :=
  { humanIntent policy .sessionExpired with
    sessionId := some expired.sessionId
    sessionAuthorityDigest := some expired.authorityDigest }

def shutdownIntent : ControlAuditAppendRequest := intent policy .controlShutdown

end Intents

section Challenges

/-- A pending challenge that is over by either clock is dropped. -/
def dropExpired (tick : Nat) (now : Instant) (state : AuthState) : AuthState :=
  if state.pending.any fun pending => decide (pending.expiryTick ≤ tick ∨ pending.challenge.expiresAt ≤ now) then
    { state with pending := none }
  else state

def rejectPending : AuthM Unit := do
  let state ← current
  lift (reject state.pending.isSome .challengePending)

def newChallenge (request : ChallengeIssueRequest) (granted : CapabilitySet) (challengeId : Uuid) (nonce : Bytes32)
    (issuedAt expiresAt : Instant) : SessionChallenge where
  schema := "proof.operator.session.challenge/v1"
  challengeId := challengeId
  serverInstanceId := policy.serverInstanceId
  serverNonce := encodeHex nonce.bytes
  workspaceId := policy.workspaceId
  workspaceFingerprint := policy.workspaceFingerprint
  humanId := policy.humanId
  humanPublicKeyFingerprint := policy.humanPublicKeyFingerprint
  authEpoch := policy.authEpoch
  policyRevision := policy.policyRevision
  origin := policy.origin
  clientNonceDigest := request.clientNonceDigest
  requestedCapabilities := request.requestedCapabilities
  grantedCapabilities := granted
  issuedAt := issuedAt
  expiresAt := expiresAt
  challengeTtlSeconds := Auth.challengeTtlSeconds
  sessionAbsoluteTtlSeconds := Auth.sessionAbsoluteTtlSeconds
  sessionIdleTtlSeconds := Auth.sessionIdleTtlSeconds

def issueChallenge (request : ChallengeIssueRequest) : AuthM ChallengeIssueResponse := do
  lift (reject (request.schema != "proof.operator.session.challenge-issue-request/v1" ||
    !isCanonicalCapabilitySet request.requestedCapabilities.values) .invalidRequest)
  let granted ← lift (intersectCapabilities request.requestedCapabilities policy.enrolledCapabilities
    policy.workspaceCapabilities policy.supportedCapabilities)
  let issuedAt ← orClear E.trustedUtcNow
  let issuedTick ← orClear E.monotonicMillis
  update (dropExpired issuedTick issuedAt)
  rejectPending
  let challengeId ← orClear (E.newUuidV7.filter uuidIsV7)
  let nonce ← orClear E.fillRandom
  let expiryTick ← orClear (checkedAdd issuedTick (Auth.challengeTtlSeconds * 1000))
  let expiresAt ← orClear (addSeconds P issuedAt Auth.challengeTtlSeconds)
  let challenge := newChallenge policy request granted challengeId nonce issuedAt expiresAt
  let code ← orClear (challengeCode P challenge)
  let challengeDigest ← orClear (challengeSignedBytesDigest P challenge)
  auditOrClear E (challengeIntent policy challengeId challengeDigest)
  update fun state => { state with pending := some ⟨challenge, expiryTick, none⟩ }
  pure ⟨"proof.operator.session.challenge-issue-response/v1", challenge, code⟩

/-- The attestation is the first one for the pending challenge, in time, and signed by the human. -/
def checkAttestation (attestation : SessionAttestation) (now : Instant) (tick : Nat)
    (pending : Option PendingChallenge) : Except OperatorAuthError Unit := do
  let pending ← orReject pending .authenticationRequired
  reject (pending.attestation.isSome || decide (pending.expiryTick ≤ tick) ||
    decide (pending.challenge.expiresAt ≤ now) || attestation.schema != "proof.operator.session.attestation/v1" ||
    attestation.signatureAlgorithm != "ed25519" || attestation.challenge != pending.challenge ||
    !challengeMatchesPolicy attestation.challenge policy) .authenticationRequired
  let signingBytes ← orReject (challengeSigningBytes P attestation.challenge) .authenticationRequired
  reject (attestation.signedBytesDigest != P.signedBytes signingBytes) .authenticationRequired
  let signature ← orReject (decodeSignature P attestation.signature) .authenticationRequired
  reject (!P.verify policy.humanPublicKey signingBytes signature) .authenticationRequired

def submitAttestation (attestation : SessionAttestation) : AuthM Unit := do
  let now ← orClear E.trustedUtcNow
  let tick ← orClear E.monotonicMillis
  let state ← current
  match checkAttestation P policy attestation now tick state.pending with
  | .error error => failWith error { state with pending := none }
  | .ok () => update fun state =>
    { state with pending := state.pending.map fun pending => { pending with attestation := some attestation } }

def consumeFailedChallenge (challengeId : Uuid) : AuthM Unit := do
  let state ← current
  lift (reject (!state.pending.any fun pending => decide (pending.challenge.challengeId = challengeId))
    .authenticationRequired)
  update fun state => { state with pending := none }

end Challenges

section Exchange

variable (request : SessionExchangeRequest)

/-- The pending challenge may be exchanged by this request at this time. -/
def exchangeable (now : Instant) (tick : Nat) (pending : PendingChallenge) : Bool :=
  let nonce := decodeHex32 (stringBytes request.clientNonce)
  request.schema == "proof.operator.session.exchange-request/v1" &&
    request.challengeId == pending.challenge.challengeId && pending.attestation.isSome &&
    decide (tick < pending.expiryTick) && decide (now < pending.challenge.expiresAt) &&
    challengeMatchesPolicy pending.challenge policy && pending.challenge.clientNonceDigest == P.clientNonce nonce.1 &&
    nonce.2

/-- An exchange consumes the pending challenge, whether or not it goes through. -/
def takePending (now : Instant) (tick : Nat) : AuthM PendingChallenge := do
  let state ← current
  update fun state => { state with pending := none }
  lift (orReject (state.pending.filter (exchangeable P policy request now tick)) .authenticationRequired)

variable (sessionId : Uuid) (granted : CapabilitySet) (issuedAt absoluteExpiresAt : Instant)

def newBinding : SessionAuthorityBinding where
  schema := "proof.operator.session.authority-binding/v1"
  sessionId := sessionId
  workspaceId := policy.workspaceId
  serverInstanceId := policy.serverInstanceId
  humanId := policy.humanId
  authEpoch := policy.authEpoch
  policyRevision := policy.policyRevision
  origin := policy.origin
  grantedCapabilities := granted.values
  issuedAt := issuedAt
  absoluteExpiresAt := absoluteExpiresAt

def newSession (authorityDigest : ControlDigest) : AuthorizedSession where
  sessionId := sessionId
  workspaceId := policy.workspaceId
  serverInstanceId := policy.serverInstanceId
  humanId := policy.humanId
  authEpoch := policy.authEpoch
  policyRevision := policy.policyRevision
  origin := policy.origin
  grantedCapabilities := granted
  issuedAt := issuedAt
  absoluteExpiresAt := absoluteExpiresAt
  authorityDigest := authorityDigest

def exchange : AuthM SessionExchangeResponse := do
  let now ← orClear E.trustedUtcNow
  let tick ← orClear E.monotonicMillis
  let pending ← takePending P policy request now tick
  let sessionId ← orClear (E.newUuidV7.filter uuidIsV7)
  let token ← orClear E.fillRandom
  let absoluteTick ← orClear (checkedAdd tick (Auth.sessionAbsoluteTtlSeconds * 1000))
  let idleTick ← orClear (checkedAdd tick (Auth.sessionIdleTtlSeconds * 1000))
  let absoluteExpiresAt ← orClear (addSeconds P now Auth.sessionAbsoluteTtlSeconds)
  let idleExpiresAt ← orClear (addSeconds P now Auth.sessionIdleTtlSeconds)
  let granted := pending.challenge.grantedCapabilities
  let canonical ← orClear (P.canonicalBinding (newBinding policy sessionId granted now absoluteExpiresAt))
  let authorityDigest := P.authority canonical
  let state ← current
  let replacedSessionId := state.session.map fun active => active.authority.sessionId
  let challengeDigest ← orClear (challengeSignedBytesDigest P pending.challenge)
  auditOrClear E (sessionIntent policy pending.challenge.challengeId sessionId replacedSessionId challengeDigest
    authorityDigest)
  update fun state => { state with
    session := some ⟨newSession policy sessionId granted now absoluteExpiresAt authorityDigest, P.token token,
      absoluteTick, idleTick⟩ }
  pure {
    schema := "proof.operator.session.exchange-response/v1"
    sessionId := sessionId
    sessionToken := token
    workspaceId := policy.workspaceId
    serverInstanceId := policy.serverInstanceId
    humanId := policy.humanId
    authEpoch := policy.authEpoch
    policyRevision := policy.policyRevision
    grantedCapabilities := granted
    issuedAt := now
    absoluteExpiresAt := absoluteExpiresAt
    idleExpiresAt := idleExpiresAt }

end Exchange

section Authorized
variable {T F : Type}

/-- A session past either deadline is dropped, and its expiry recorded. -/
def expireSession (tick : Nat) : AuthM Unit := fun state =>
  match state.session with
  | some session =>
    if session.absoluteExpiryTick ≤ tick ∨ session.idleExpiryTick ≤ tick then
      auditOrClear E (expiredIntent policy session.authority) { state with session := none }
    else (.ok (), state)
  | none => (.ok (), state)

variable (headerValues : List (List UInt8)) (required : Option CapabilitySet)

/-- The headers present the token of the session, and it was granted what is required. -/
def checkSession (session : Option ActiveSession) : Except OperatorAuthError ActiveSession := do
  let candidate := decodeHex32 (if headerValues.length = 1 then headerValues.headD [] else [])
  let active ← orReject session .authenticationRequired
  reject (!candidate.2 || headerValues.length != 1 || active.tokenDigest != P.token candidate.1 ||
    active.authority.workspaceId != policy.workspaceId ||
    active.authority.serverInstanceId != policy.serverInstanceId || active.authority.humanId != policy.humanId ||
    active.authority.authEpoch != policy.authEpoch || active.authority.policyRevision != policy.policyRevision ||
    active.authority.origin != policy.origin) .authenticationRequired
  reject (required.any fun set => !set.values.all active.authority.grantedCapabilities.contains) .capabilityRequired
  pure active

def authenticateLocked : AuthM (AuthorizedSession × Nat) := do
  let tick ← orClear E.monotonicMillis
  expireSession policy E tick
  let state ← current
  let active ← lift (checkSession P policy headerValues required state.session)
  let deadline ← orClear (checkedAdd tick (Auth.sessionIdleTtlSeconds * 1000))
  pure (active.authority, min deadline active.absoluteExpiryTick)

/-- The deadline for the next call moves only after the callback has succeeded. -/
def refresh (authority : AuthorizedSession) (idleTick : Nat) (state : AuthState) : AuthState :=
  { state with session := state.session.map fun active =>
      if active.authority.sessionId = authority.sessionId then { active with idleExpiryTick := idleTick } else active }

def authorizeInner (callback : AuthorizedSession → Except F T) : Act AuthState (AuthorizedCallError F) T := do
  let (authority, refreshedIdleTick) ← mapError .auth (authenticateLocked P policy E headerValues required)
  let result ← lift ((callback authority).mapError .callback)
  update (refresh authority refreshedIdleTick)
  pure result

def authorizeWith (required : CapabilitySet)
    (callback : AuthorizedSession → Except F T) : Act AuthState (AuthorizedCallError F) T := do
  lift (reject (!isCanonicalCapabilitySet required.values) (.auth .invalidRequest))
  authorizeInner P policy E headerValues (some required) callback

def authorizeAnyWith (callback : AuthorizedSession → Except F T) : Act AuthState (AuthorizedCallError F) T :=
  authorizeInner P policy E headerValues none callback

def revokeWith (durableRevoke : AuthorizedSession → Except F T) : Act AuthState (AuthorizedCallError F) T := do
  let (authority, _) ← mapError .auth (authenticateLocked P policy E headerValues none)
  match durableRevoke authority with
  | .ok result => do
    update fun state => { state with session := none }
    pure result
  | .error error => failWith (.callback error) .clear

def invalidateForShutdown : AuthM Unit := do
  auditOrClear E (shutdownIntent policy)
  update fun _ => .clear

end Authorized
end ProofPlatform.Auth
