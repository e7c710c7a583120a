import ProofPlatform.Auth.Authority

/-! What each call of the authority does to its two slots, and the histories of calls. -/
namespace ProofPlatform.Auth
open Kernel Operator Library Fallible FallibleState Act Option Bool

section Rules
variable {α β : Type} {x : Option α} {f : α → AuthM β} {s : AuthState} {ok : β → AuthState → Prop}
variable {err : OperatorAuthError → AuthState → Prop}

theorem meets_orClear_bind (hclear : err .controlUnavailable .clear) (h : ∀ a, x = some a → Meets (f a) s ok err) :
    Meets (orClear x >>= f) s ok err := by
  cases x with
  | none => exact hclear
  | some a => exact h a rfl

theorem meets_lift_bind {y : Except OperatorAuthError α} (herr : ∀ e, y = .error e → err e s)
    (h : ∀ a, y = .ok a → Meets (f a) s ok err) : Meets (lift y >>= f) s ok err :=
  meets_bind.mpr (meets_lift.mpr ⟨h, herr⟩)

theorem meets_auditOrClear_bind {E : CallEnvironment} {request : ControlAuditAppendRequest} {g : Unit → AuthM β}
    (hclear : err .controlUnavailable .clear) (h : Audited E request → Meets (g ()) s ok err) :
    Meets (auditOrClear E request >>= g) s ok err := by
  rw [meets_bind, auditOrClear]
  split
  · rename_i haudit
    exact h (appendAudit_iff.mp haudit)
  · exact hclear

theorem checkedAdd_eq_some {tick milliseconds deadline : Nat} (h : checkedAdd tick milliseconds = some deadline) :
    deadline = tick + milliseconds := by
  unfold checkedAdd at h
  split at h
  · exact (some.inj h).symm
  · cases h

theorem addSeconds_eq_some {P : AuthPrimitives} {instant later : Instant} {seconds : Nat}
    (h : addSeconds P instant seconds = some later) : later = instant + seconds * 10 ^ 9 := by
  unfold addSeconds at h
  split at h
  · exact (some.inj h).symm
  · cases h

end Rules

/-- A call that ends with an error clears both slots, or it keeps the session and adds no challenge. -/
def Refused (s : AuthState) (e : OperatorAuthError) (s' : AuthState) : Prop :=
  (e = .controlUnavailable ∧ s' = .clear) ∨
    (e ≠ .controlUnavailable ∧ s'.session = s.session ∧ (s'.pending = s.pending ∨ s'.pending = none))

theorem refused_clear (s : AuthState) : Refused s .controlUnavailable .clear := .inl ⟨rfl, rfl⟩

variable (P : AuthPrimitives) (policy : AuthPolicy)

/-- The request was answered with this challenge, and the audit store has recorded it. -/
structure Issues (request : ChallengeIssueRequest) (E : CallEnvironment) (challenge : SessionChallenge) (tick : Nat) :
    Prop where
  clock : E.monotonicMillis = some tick
  expires : ∃ now, E.trustedUtcNow = some now ∧ challenge.expiresAt = now + challengeTtlSeconds * 10 ^ 9
  nonce : challenge.clientNonceDigest = request.clientNonceDigest
  requested : challenge.grantedCapabilities.values ⊆ request.requestedCapabilities.values
  enrolled : challenge.grantedCapabilities.values ⊆ policy.enrolledCapabilities.values
  workspace : challenge.grantedCapabilities.values ⊆ policy.workspaceCapabilities.values
  supported : challenge.grantedCapabilities.values ⊆ policy.supportedCapabilities.values
  audited : ∃ digest, challengeSignedBytesDigest P challenge = some digest ∧
    Audited E (challengeIntent policy challenge.challengeId digest)

/-- The attestation carries the human's signature over the exact bytes of the challenge, in time. -/
structure Attests (attestation : SessionAttestation) (E : CallEnvironment) (challenge : SessionChallenge)
    (expiryTick : Nat) : Prop where
  about : attestation.challenge = challenge
  signature : ∃ bytes signature, challengeSigningBytes P challenge = some bytes ∧
    decodeSignature P attestation.signature = some signature ∧ P.verify policy.humanPublicKey bytes signature = true
  clock : ∃ tick, E.monotonicMillis = some tick ∧ tick < expiryTick
  wall : ∃ now, E.trustedUtcNow = some now ∧ now < challenge.expiresAt

/-- The request exchanges the challenge, in time and with its nonce, for a session on the audit record. -/
structure Exchanges (request : SessionExchangeRequest) (E : CallEnvironment) (challenge : SessionChallenge)
    (expiryTick : Nat) (response : SessionExchangeResponse) (replaced : Option Uuid) : Prop where
  id : request.challengeId = challenge.challengeId
  nonce : (decodeHex32 (stringBytes request.clientNonce)).2 = true ∧
    challenge.clientNonceDigest = P.clientNonce (decodeHex32 (stringBytes request.clientNonce)).1
  clock : ∃ tick, E.monotonicMillis = some tick ∧ tick < expiryTick
  wall : ∃ now, E.trustedUtcNow = some now ∧ now < challenge.expiresAt
  granted : response.grantedCapabilities = challenge.grantedCapabilities
  token : E.fillRandom = some response.sessionToken
  audited : ∃ challengeDigest canonical, challengeSignedBytesDigest P challenge = some challengeDigest ∧
    P.canonicalBinding (newBinding policy response.sessionId response.grantedCapabilities response.issuedAt
      response.absoluteExpiresAt) = some canonical ∧
    Audited E (sessionIntent policy challenge.challengeId response.sessionId replaced challengeDigest
      (P.authority canonical))

variable {P policy} {E : CallEnvironment} {s : AuthState}

theorem dropExpired_pending (tick : Nat) (now : Instant) (s : AuthState) :
    (dropExpired tick now s).session = s.session ∧
      ((dropExpired tick now s).pending = s.pending ∨ (dropExpired tick now s).pending = none) := by
  unfold dropExpired
  split <;> simp

theorem issueChallenge_meets (request : ChallengeIssueRequest) :
    Meets (issueChallenge P policy E request) s
      (fun response s' => ∃ tick, Issues P policy request E response.challenge tick ∧
        s' = ⟨some ⟨response.challenge, tick + challengeTtlSeconds * 1000, none⟩, s.session⟩)
      (Refused s) := by
  have hinvalid : Refused s .invalidRequest s := .inr ⟨by simp, rfl, .inl rfl⟩
  refine meets_lift_bind (failsWith_reject hinvalid) fun _ _ => ?_
  refine meets_lift_bind (failsWith_orReject hinvalid) fun granted hgranted => ?_
  refine meets_orClear_bind (refused_clear s) fun issuedAt hnow => ?_
  refine meets_orClear_bind (refused_clear s) fun tick htick => ?_
  obtain ⟨hsession, hpending⟩ := dropExpired_pending tick issuedAt s
  rw [meets_bind, meets_update, rejectPending, meets_bind, meets_bind, meets_current, meets_lift]
  refine ⟨fun _ _ => ?_, failsWith_reject (.inr ⟨by simp, hsession, hpending⟩)⟩
  · refine meets_orClear_bind (refused_clear s) fun challengeId _ => ?_
    refine meets_orClear_bind (refused_clear s) fun nonce _ => ?_
    refine meets_orClear_bind (refused_clear s) fun expiryTick hexpiry => ?_
    refine meets_orClear_bind (refused_clear s) fun expiresAt hexpires => ?_
    refine meets_orClear_bind (refused_clear s) fun code _ => ?_
    refine meets_orClear_bind (refused_clear s) fun challengeDigest hdigest => ?_
    refine meets_auditOrClear_bind (refused_clear s) fun haudit => ?_
    obtain ⟨hrequested, henrolled, hworkspace, hsupported⟩ := intersectCapabilities_subset hgranted
    refine ⟨tick, ⟨htick, ⟨issuedAt, hnow, addSeconds_eq_some hexpires⟩, rfl, hrequested, henrolled, hworkspace,
      hsupported, challengeDigest, hdigest, haudit⟩, ?_⟩
    simp only [checkedAdd_eq_some hexpiry, hsession]

theorem checkAttestation_eq_ok {attestation : SessionAttestation} {now : Instant} {tick : Nat}
    {pending : Option PendingChallenge} (h : checkAttestation P policy attestation now tick pending = .ok ())
    (hnow : E.trustedUtcNow = some now) (htick : E.monotonicMillis = some tick) :
    ∃ held, pending = some held ∧ Attests P policy attestation E held.challenge held.expiryTick := by
  simp only [checkAttestation, bind_eq_ok, orReject_eq_ok, reject_eq_ok, exists_const] at h
  obtain ⟨held, hheld, hfields, bytes, hbytes, -, signature, hsignature, hverify⟩ := h
  simp only [or_eq_false_iff, decide_eq_false_iff_not, not_le, bne_eq_false_iff_eq, not_eq_false'] at hfields
  obtain ⟨⟨⟨⟨⟨⟨-, hclock⟩, hwall⟩, -⟩, -⟩, hchallenge⟩, -⟩ := hfields
  rw [hchallenge] at hbytes
  exact ⟨held, hheld, hchallenge, ⟨bytes, signature, hbytes, hsignature, by simpa using hverify⟩, ⟨tick, htick, hclock⟩,
    ⟨now, hnow, hwall⟩⟩

theorem checkAttestation_fails (attestation : SessionAttestation) (now : Instant) (tick : Nat)
    (pending : Option PendingChallenge) :
    FailsWith (checkAttestation P policy attestation now tick pending) (· = .authenticationRequired) := by
  refine failsWith_bind (failsWith_orReject rfl) fun held => failsWith_bind (failsWith_reject rfl) fun _ => ?_
  refine failsWith_bind (failsWith_orReject rfl) fun bytes => failsWith_bind (failsWith_reject rfl) fun _ => ?_
  exact failsWith_bind (failsWith_orReject rfl) fun signature => failsWith_reject rfl

theorem submitAttestation_meets (attestation : SessionAttestation) :
    Meets (submitAttestation P policy E attestation) s
      (fun _ s' => ∃ held, s.pending = some held ∧ Attests P policy attestation E held.challenge held.expiryTick ∧
        s' = ⟨some { held with attestation := some attestation }, s.session⟩)
      (Refused s) := by
  refine meets_orClear_bind (refused_clear s) fun now hnow => ?_
  refine meets_orClear_bind (refused_clear s) fun tick htick => ?_
  rw [meets_bind, meets_current]
  cases hcheck : checkAttestation P policy attestation now tick s.pending with
  | error e =>
    obtain rfl := checkAttestation_fails _ _ _ _ e hcheck
    exact .inr ⟨by simp, rfl, .inr rfl⟩
  | ok u =>
    obtain ⟨held, hheld, hattests⟩ := checkAttestation_eq_ok hcheck hnow htick
    exact ⟨held, hheld, hattests, by simp [hheld]⟩

theorem consumeFailedChallenge_meets (challengeId : Uuid) :
    Meets (consumeFailedChallenge challengeId) s (fun _ s' => s' = ⟨none, s.session⟩) (Refused s) := by
  rw [consumeFailedChallenge, meets_bind, meets_current, meets_bind, meets_lift]
  exact ⟨fun _ _ => rfl, failsWith_reject (.inr ⟨by simp, rfl, .inl rfl⟩)⟩

/-- The session a successful exchange puts in place. -/
def exchanged (P : AuthPrimitives) (policy : AuthPolicy) (response : SessionExchangeResponse)
    (authorityDigest : ControlDigest) (tick : Nat) : ActiveSession where
  authority := newSession policy response.sessionId response.grantedCapabilities response.issuedAt
    response.absoluteExpiresAt authorityDigest
  tokenDigest := P.token response.sessionToken
  absoluteExpiryTick := tick + sessionAbsoluteTtlSeconds * 1000
  idleExpiryTick := tick + sessionIdleTtlSeconds * 1000

theorem exchangeable_iff {request : SessionExchangeRequest} {now : Instant} {tick : Nat} {pending : PendingChallenge}
    (h : exchangeable P policy request now tick pending = true) :
    request.challengeId = pending.challenge.challengeId ∧ pending.attestation.isSome = true ∧
      tick < pending.expiryTick ∧ now < pending.challenge.expiresAt ∧
      pending.challenge.clientNonceDigest = P.clientNonce (decodeHex32 (stringBytes request.clientNonce)).1 ∧
      (decodeHex32 (stringBytes request.clientNonce)).2 = true := by
  simp only [exchangeable, and_eq_true, beq_iff_eq, decide_eq_true_eq] at h
  obtain ⟨⟨⟨⟨⟨⟨⟨-, hid⟩, hattested⟩, htick⟩, hnow⟩, -⟩, hnonce⟩, hcanonical⟩ := h
  exact ⟨hid, hattested, htick, hnow, hnonce, hcanonical⟩

theorem exchange_meets (request : SessionExchangeRequest) :
    Meets (exchange P policy E request) s
      (fun response s' => ∃ held tick authorityDigest, s.pending = some held ∧ held.attestation.isSome = true ∧
        E.monotonicMillis = some tick ∧ Exchanges P policy request E held.challenge held.expiryTick response
          (s.session.map fun active => active.authority.sessionId) ∧
        s' = ⟨none, some (exchanged P policy response authorityDigest tick)⟩)
      (fun e s' => (e = .controlUnavailable ∧ s' = .clear) ∨ (e ≠ .controlUnavailable ∧ s' = ⟨none, s.session⟩)) := by
  have hclear : (OperatorAuthError.controlUnavailable = .controlUnavailable ∧ AuthState.clear = .clear) ∨
      (OperatorAuthError.controlUnavailable ≠ .controlUnavailable ∧ AuthState.clear = ⟨none, s.session⟩) :=
        .inl ⟨rfl, rfl⟩
  refine meets_orClear_bind hclear fun now hnow => ?_
  refine meets_orClear_bind hclear fun tick htick => ?_
  rw [meets_bind, takePending, meets_bind, meets_current, meets_bind, meets_update, meets_lift]
  refine ⟨fun held hheld => ?_, failsWith_orReject (.inr ⟨by simp, rfl⟩)⟩
  rw [orReject_eq_ok, filter_eq_some_iff] at hheld
  obtain ⟨hpending, hexchangeable⟩ := hheld
  obtain ⟨hid, hattested, hclock, hwall, hnonce, hcanonical⟩ := exchangeable_iff hexchangeable
  refine meets_orClear_bind hclear fun sessionId _ => ?_
  refine meets_orClear_bind hclear fun token htoken => ?_
  refine meets_orClear_bind hclear fun absoluteTick habsolute => ?_
  refine meets_orClear_bind hclear fun idleTick hidle => ?_
  refine meets_orClear_bind hclear fun absoluteExpiresAt _ => ?_
  refine meets_orClear_bind hclear fun idleExpiresAt _ => ?_
  refine meets_orClear_bind hclear fun canonical hcanonicalBinding => ?_
  rw [meets_bind, meets_current]
  refine meets_orClear_bind hclear fun challengeDigest hdigest => ?_
  refine meets_auditOrClear_bind hclear fun haudit => ?_
  refine ⟨held, tick, P.authority canonical, hpending, hattested, htick,
    ⟨hid, ⟨hcanonical, hnonce⟩, ⟨tick, htick, hclock⟩,
    ⟨now, hnow, hwall⟩, rfl, htoken, challengeDigest, canonical, hdigest, hcanonicalBinding, haudit⟩, ?_⟩
  simp only [exchanged, checkedAdd_eq_some habsolute, checkedAdd_eq_some hidle]

/-- The call presented the token of the session in time, and was granted what it required. -/
structure Presents (P : AuthPrimitives) (active : ActiveSession) (E : CallEnvironment)
    (headerValues : List (List UInt8)) (required : Option CapabilitySet) (tick : Nat) : Prop where
  clock : E.monotonicMillis = some tick
  absolute : tick < active.absoluteExpiryTick
  idle : tick < active.idleExpiryTick
  token : ∃ token, headerValues = [encodeHex token.bytes] ∧ active.tokenDigest = P.token token
  capabilities : ∀ set, required = some set → set.values ⊆ active.authority.grantedCapabilities.values

theorem checkSession_eq_ok {headerValues : List (List UInt8)} {required : Option CapabilitySet}
    {session : Option ActiveSession} {active : ActiveSession}
    (h : checkSession P policy headerValues required session = .ok active) :
    session = some active ∧ (∃ token, headerValues = [encodeHex token.bytes] ∧ active.tokenDigest = P.token token) ∧
      ∀ set, required = some set → set.values ⊆ active.authority.grantedCapabilities.values := by
  simp only [checkSession, bind_eq_ok, orReject_eq_ok, reject_eq_ok, exists_const, pure, Except.pure,
    Except.ok.injEq] at h
  obtain ⟨_, hsession, hfields, hgranted, rfl⟩ := h
  simp only [or_eq_false_iff, bne_eq_false_iff_eq, not_eq_false'] at hfields
  obtain ⟨⟨⟨⟨⟨⟨⟨⟨hcanonical, hlength⟩, htoken⟩, -⟩, -⟩, -⟩, -⟩, -⟩, -⟩ := hfields
  obtain ⟨header, rfl⟩ := List.length_eq_one_iff.mp hlength
  refine ⟨hsession, ⟨_, ?_, htoken⟩, ?_⟩
  · exact congrArg (fun value => [value]) (decodeHex32_canonical (Prod.ext rfl hcanonical))
  · rintro set rfl capability hcapability
    simp only [any_some, not_eq_false', List.all_eq_true] at hgranted
    simpa [CapabilitySet.contains] using hgranted capability hcapability

variable (headerValues : List (List UInt8)) (required : Option CapabilitySet)

theorem checkSession_fails (session : Option ActiveSession) :
    FailsWith (checkSession P policy headerValues required session) (· ≠ .controlUnavailable) := by
  refine failsWith_bind (failsWith_orReject (by simp)) fun active => ?_
  refine failsWith_bind (failsWith_reject (by simp)) fun _ => ?_
  exact failsWith_bind (failsWith_reject (by simp)) fun _ => failsWith_ok _

/-- A failed authentication clears both slots, or keeps the challenge and drops at most the session. -/
def Unauthenticated (s : AuthState) (e : OperatorAuthError) (s' : AuthState) : Prop :=
  (e = .controlUnavailable ∧ s' = .clear) ∨
    (e ≠ .controlUnavailable ∧ s'.pending = s.pending ∧ (s'.session = s.session ∨ s'.session = none))

theorem expireSession_meets {tick : Nat} {α : Type} {f : Unit → AuthM α} {ok : α → AuthState → Prop}
    {err : OperatorAuthError → AuthState → Prop} (hclear : err .controlUnavailable .clear)
    (hexpired : Meets (f ()) ⟨s.pending, none⟩ ok err)
    (hkept : (∀ active, s.session = some active → tick < active.absoluteExpiryTick ∧ tick < active.idleExpiryTick) →
      Meets (f ()) s ok err) : Meets (expireSession policy E tick >>= f) s ok err := by
  rw [meets_bind]
  unfold Meets expireSession
  cases hsession : s.session with
  | none => exact hkept (by simp [hsession])
  | some active =>
    simp only
    split_ifs with hover
    · cases haudit : appendAudit E (expiredIntent policy active.authority) with
      | true =>
        simp only [auditOrClear, haudit, if_true]
        exact hexpired
      | false =>
        simp only [auditOrClear, haudit]
        exact hclear
    · refine hkept fun active' hactive' => ?_
      rw [hsession] at hactive'
      cases hactive'
      omega

theorem authenticateLocked_meets :
    Meets (authenticateLocked P policy E headerValues required) s
      (fun answer s' => ∃ active tick, s.session = some active ∧ Presents P active E headerValues required tick ∧
        answer = (active.authority, min (tick + sessionIdleTtlSeconds * 1000) active.absoluteExpiryTick) ∧ s' = s)
      (Unauthenticated s) := by
  have hclear : Unauthenticated s .controlUnavailable .clear := .inl ⟨rfl, rfl⟩
  refine meets_orClear_bind hclear fun tick htick => ?_
  refine expireSession_meets hclear ?_ fun hkept => ?_
  · rw [meets_bind, meets_current, meets_bind, meets_lift]
    refine ⟨fun active hactive => ?_, fun e he => .inr ⟨checkSession_fails _ _ _ e he, rfl, .inr rfl⟩⟩
    obtain ⟨hnone, -⟩ := checkSession_eq_ok hactive
    cases hnone
  · rw [meets_bind, meets_current, meets_bind, meets_lift]
    refine ⟨fun active hactive => ?_, fun e he => .inr ⟨checkSession_fails _ _ _ e he, rfl, .inl rfl⟩⟩
    obtain ⟨hsession, htoken, hgranted⟩ := checkSession_eq_ok hactive
    obtain ⟨habsolute, hidle⟩ := hkept active hsession
    refine meets_orClear_bind hclear fun deadline hdeadline => ?_
    exact ⟨active, tick, hsession, ⟨htick, habsolute, hidle, htoken, hgranted⟩,
      by rw [checkedAdd_eq_some hdeadline], rfl⟩

section Callbacks
variable {T F : Type}

/-- What an authorized call that fails leaves. -/
def CallRefused (s : AuthState) (presents : Prop) (e : AuthorizedCallError F) (s' : AuthState) : Prop :=
  match e with
  | .auth error => Unauthenticated s error s'
  | .callback _ => presents ∧ s' = s

theorem authorizeInner_meets (callback : AuthorizedSession → Except F T) :
    Meets (authorizeInner P policy E headerValues required callback) s
      (fun _ s' => ∃ active tick, s.session = some active ∧ Presents P active E headerValues required tick ∧
        s' = ⟨s.pending, some { active with
          idleExpiryTick := min (tick + sessionIdleTtlSeconds * 1000) active.absoluteExpiryTick }⟩)
      (CallRefused s (∃ active tick, s.session = some active ∧ Presents P active E headerValues required tick)) := by
  rw [authorizeInner, meets_bind, meets_mapError]
  refine (authenticateLocked_meets headerValues required).mono ?_ fun e s' h => h
  rintro ⟨authority, idleTick⟩ s' ⟨active, tick, hsession, hpresents, heq, rfl⟩
  obtain ⟨rfl, rfl⟩ := Prod.mk.inj heq
  rw [meets_bind, meets_lift]
  refine ⟨fun result _ => ?_, fun e he => ?_⟩
  · refine ⟨active, tick, hsession, hpresents, ?_⟩
    simp [refresh, hsession]
  · cases hcallback : callback active.authority with
    | ok result =>
      rw [hcallback] at he
      cases he
    | error error =>
      rw [hcallback] at he
      cases he
      exact ⟨⟨active, tick, hsession, hpresents⟩, rfl⟩

/-- The check of the required set is made twice: a set is always canonical. -/
theorem authorizeWith_eq (required : CapabilitySet) (callback : AuthorizedSession → Except F T) :
    authorizeWith P policy E headerValues required callback =
      authorizeInner P policy E headerValues (some required) callback := by
  rw [authorizeWith, required.canonical]
  rfl

theorem revokeWith_meets (durableRevoke : AuthorizedSession → Except F T) :
    Meets (revokeWith P policy E headerValues durableRevoke) s
      (fun _ s' => (∃ active tick, s.session = some active ∧ Presents P active E headerValues none tick) ∧
        s' = ⟨s.pending, none⟩)
      (fun e s' => match e with
        | .auth error => Unauthenticated s error s'
        | .callback _ => (∃ active tick, s.session = some active ∧ Presents P active E headerValues none tick) ∧
          s' = .clear) := by
  rw [revokeWith, meets_bind, meets_mapError]
  refine (authenticateLocked_meets headerValues none).mono ?_ fun e s' h => h
  rintro ⟨authority, idleTick⟩ s' ⟨active, tick, hsession, hpresents, heq, rfl⟩
  obtain ⟨rfl, rfl⟩ := Prod.mk.inj heq
  cases hrevoke : durableRevoke active.authority with
  | ok | error =>
    simp only [hrevoke]
    exact ⟨⟨active, tick, hsession, hpresents⟩, rfl⟩

end Callbacks

theorem invalidateForShutdown_meets :
    Meets (invalidateForShutdown policy E) s (fun _ s' => s' = .clear) (fun _ s' => s' = .clear) :=
  meets_auditOrClear_bind rfl fun _ => rfl

/-! Histories -/

/-- A call of the authority's interface; callbacks return a `T` or fail with an `F`. -/
inductive Call (T F : Type) where
  | issueChallenge (request : ChallengeIssueRequest)
  | submitAttestation (attestation : SessionAttestation)
  | consumeFailedChallenge (challengeId : Uuid)
  | exchange (request : SessionExchangeRequest)
  | authorizeWith (headerValues : List (List UInt8)) (required : CapabilitySet)
      (callback : AuthorizedSession → Except F T)
  | authorizeAnyWith (headerValues : List (List UInt8)) (callback : AuthorizedSession → Except F T)
  | revokeWith (headerValues : List (List UInt8)) (durableRevoke : AuthorizedSession → Except F T)
  | invalidateForShutdown

inductive Answer (T F : Type) where
  | challenge (result : Except OperatorAuthError ChallengeIssueResponse)
  | done (result : Except OperatorAuthError Unit)
  | session (result : Except OperatorAuthError SessionExchangeResponse)
  | called (result : Except (AuthorizedCallError F) T)
  deriving DecidableEq

structure Entry (T F : Type) where
  call : Call T F
  environment : CallEnvironment
  answer : Answer T F

section Histories
variable {T F : Type}

def perform (P : AuthPrimitives) (policy : AuthPolicy) (E : CallEnvironment) (call : Call T F) (s : AuthState) :
    Answer T F × AuthState :=
  match call with
  | .issueChallenge request => (issueChallenge P policy E request s).map .challenge id
  | .submitAttestation attestation => (submitAttestation P policy E attestation s).map .done id
  | .consumeFailedChallenge challengeId => (consumeFailedChallenge challengeId s).map .done id
  | .exchange request => (exchange P policy E request s).map .session id
  | .authorizeWith headerValues required callback =>
    (authorizeWith P policy E headerValues required callback s).map .called id
  | .authorizeAnyWith headerValues callback => (authorizeAnyWith P policy E headerValues callback s).map .called id
  | .revokeWith headerValues durableRevoke => (revokeWith P policy E headerValues durableRevoke s).map .called id
  | .invalidateForShutdown => (invalidateForShutdown policy E s).map .done id

/-- The authority reaches this state through these calls, oldest first, and gives these answers. -/
inductive Reaches (P : AuthPrimitives) (policy : AuthPolicy) : List (Entry T F) → AuthState → Prop
  | start : Reaches P policy [] .clear
  | call {history : List (Entry T F)} {s : AuthState} (call : Call T F) (E : CallEnvironment) :
      Reaches P policy history s →
      Reaches P policy (history ++ [⟨call, E, (perform P policy E call s).1⟩]) (perform P policy E call s).2

def Call.isExchange : Call T F → Bool
  | .exchange _ => true
  | _ => false

/-- The headers and the capabilities that an authorized call presents and requires. -/
def Call.authorizes : Call T F → Option (List (List UInt8) × Option CapabilitySet)
  | .authorizeWith headerValues required _ => some (headerValues, some required)
  | .authorizeAnyWith headerValues _ => some (headerValues, none)
  | _ => none

/-- The authority's own error. -/
def Answer.authError : Answer T F → Option OperatorAuthError
  | .challenge (.error e) | .done (.error e) | .session (.error e) | .called (.error (.auth e)) => some e
  | _ => none

/-- What a call can do to the two slots, with the answers that go with it. -/
inductive Performed (P : AuthPrimitives) (policy : AuthPolicy) (E : CallEnvironment) (s : AuthState) :
    Call T F → Answer T F → AuthState → Prop
  | issued {request response tick} (issues : Issues P policy request E response.challenge tick) :
      Performed P policy E s (.issueChallenge request) (.challenge (.ok response))
        ⟨some ⟨response.challenge, tick + challengeTtlSeconds * 1000, none⟩, s.session⟩
  | attested {attestation held} (pending : s.pending = some held)
      (attests : Attests P policy attestation E held.challenge held.expiryTick) :
      Performed P policy E s (.submitAttestation attestation) (.done (.ok ()))
        ⟨some { held with attestation := some attestation }, s.session⟩
  | consumed {challengeId} :
      Performed P policy E s (.consumeFailedChallenge challengeId) (.done (.ok ())) ⟨none, s.session⟩
  | exchanged {request response held tick authorityDigest replaced} (pending : s.pending = some held)
      (attested : held.attestation.isSome = true) (clock : E.monotonicMillis = some tick)
      (exchanges : Exchanges P policy request E held.challenge held.expiryTick response replaced) :
      Performed P policy E s (.exchange request) (.session (.ok response))
        ⟨none, some (exchanged P policy response authorityDigest tick)⟩
  | succeeded {call : Call T F} {headerValues required result active tick}
      (authorizes : call.authorizes = some (headerValues, required))
      (session : s.session = some active) (presents : Presents P active E headerValues required tick) :
      Performed P policy E s call (.called (.ok result)) ⟨s.pending, some { active with
        idleExpiryTick := min (tick + sessionIdleTtlSeconds * 1000) active.absoluteExpiryTick }⟩
  | failed {call : Call T F} {headerValues required error active tick}
      (authorizes : call.authorizes = some (headerValues, required))
      (session : s.session = some active) (presents : Presents P active E headerValues required tick) :
      Performed P policy E s call (.called (.error (.callback error))) s
  | revoked {headerValues durableRevoke result active tick} (session : s.session = some active)
      (presents : Presents P active E headerValues none tick) :
      Performed P policy E s (.revokeWith headerValues durableRevoke) (.called (.ok result)) ⟨s.pending, none⟩
  | unrevoked {headerValues durableRevoke error active tick} (session : s.session = some active)
      (presents : Presents P active E headerValues none tick) :
      Performed P policy E s (.revokeWith headerValues durableRevoke) (.called (.error (.callback error))) .clear
  | shut {result} : Performed P policy E s .invalidateForShutdown (.done result) .clear
  | refused {call : Call T F} {answer : Answer T F} {e s'} (error : answer.authError = some e)
      (going : call ≠ .invalidateForShutdown)
      (cleared : e = .controlUnavailable → s' = .clear) (session : s'.session = s.session ∨ s'.session = none)
      (pending : s'.pending = s.pending ∧ call.isExchange = false ∨ s'.pending = none) :
      Performed P policy E s call answer s'

section Performing
variable {call : Call T F} {answer : Answer T F} {e : OperatorAuthError} {s' : AuthState}

section
variable (herror : answer.authError = some e) (hopen : call ≠ .invalidateForShutdown) (hcall : call.isExchange = false)
include herror hopen hcall

theorem performed_of_refused (h : Refused s e s') : Performed P policy E s call answer s' := by
  rcases h with ⟨rfl, rfl⟩ | ⟨he, hsession, hpending⟩
  · exact .refused herror hopen (fun _ => rfl) (.inr rfl) (.inr rfl)
  · exact .refused herror hopen (absurd · he) (.inl hsession) (hpending.imp_left fun h => ⟨h, hcall⟩)

theorem performed_of_unauthenticated (h : Unauthenticated s e s') : Performed P policy E s call answer s' := by
  rcases h with ⟨rfl, rfl⟩ | ⟨he, hpending, hsession⟩
  · exact .refused herror hopen (fun _ => rfl) (.inr rfl) (.inr rfl)
  · exact .refused herror hopen (absurd · he) hsession (.inl ⟨hpending, hcall⟩)

end

theorem performed_authorize {callback : AuthorizedSession → Except F T}
    (hcall : call.authorizes = some (headerValues, required)) (hquiet : call.isExchange = false)
    (hopen : call ≠ .invalidateForShutdown) :
    Performed P policy E s call (.called (authorizeInner P policy E headerValues required callback s).1)
      (authorizeInner P policy E headerValues required callback s).2 := by
  refine (authorizeInner_meets headerValues required callback).elim
    (Q := fun result s' => Performed P policy E s call (.called result) s') ?_ ?_
  · rintro result s' ⟨active, tick, hsession, hpresents, rfl⟩
    exact .succeeded hcall hsession hpresents
  · rintro (e | e) s' herror
    · exact performed_of_unauthenticated rfl hopen hquiet herror
    · obtain ⟨⟨active, tick, hsession, hpresents⟩, rfl⟩ := herror
      exact .failed hcall hsession hpresents

theorem perform_performed (call : Call T F) :
    Performed P policy E s call (perform P policy E call s).1 (perform P policy E call s).2 := by
  cases call with
  | issueChallenge request =>
    refine (issueChallenge_meets request).elim (Q := fun result s' => Performed P policy E s _ (.challenge result) s')
      ?_ fun e s' herror => performed_of_refused rfl nofun rfl herror
    rintro response s' ⟨tick, hissues, rfl⟩
    exact .issued hissues
  | submitAttestation attestation =>
    refine (submitAttestation_meets attestation).elim (Q := fun result s' => Performed P policy E s _ (.done result) s')
      ?_ fun e s' herror => performed_of_refused rfl nofun rfl herror
    rintro - s' ⟨held, hheld, hattests, rfl⟩
    exact .attested hheld hattests
  | consumeFailedChallenge challengeId =>
    refine (consumeFailedChallenge_meets challengeId).elim
      (Q := fun result s' => Performed P policy E s _ (.done result) s')
      ?_ fun e s' herror => performed_of_refused rfl nofun rfl herror
    rintro - s' rfl
    exact .consumed
  | exchange request =>
    refine (exchange_meets request).elim (Q := fun result s' => Performed P policy E s _ (.session result) s') ?_ ?_
    · rintro response s' ⟨held, tick, authorityDigest, hheld, hattested, htick, hexchanges, rfl⟩
      exact .exchanged hheld hattested htick hexchanges
    · rintro e s' (⟨rfl, rfl⟩ | ⟨he, rfl⟩)
      · exact .refused rfl nofun (fun _ => rfl) (.inr rfl) (.inr rfl)
      · exact .refused rfl nofun (absurd · he) (.inl rfl) (.inr rfl)
  | authorizeWith headerValues required callback =>
    simp only [perform, authorizeWith_eq]
    exact performed_authorize headerValues (some required) rfl rfl nofun
  | authorizeAnyWith headerValues callback => exact performed_authorize headerValues none rfl rfl nofun
  | revokeWith headerValues durableRevoke =>
    refine (revokeWith_meets headerValues durableRevoke).elim
      (Q := fun result s' => Performed P policy E s _ (.called result) s') ?_ ?_
    · rintro result s' ⟨⟨active, tick, hsession, hpresents⟩, rfl⟩
      exact .revoked hsession hpresents
    · rintro (e | e) s' herror
      · exact performed_of_unauthenticated rfl nofun rfl herror
      · obtain ⟨⟨active, tick, hsession, hpresents⟩, rfl⟩ := herror
        exact .unrevoked hsession hpresents
  | invalidateForShutdown =>
    refine invalidateForShutdown_meets.elim (Q := fun result s' => Performed P policy E s _ (.done result) s') ?_ ?_
    all_goals
      rintro - s' rfl
      exact .shut

end Performing

end Histories
end ProofPlatform.Auth
