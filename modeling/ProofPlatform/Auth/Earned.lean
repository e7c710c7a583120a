import ProofPlatform.Auth.Histories

/-! Every session goes back to one challenge that the human signed, and both to an audit event. -/
namespace ProofPlatform.Auth
open Kernel Operator

variable {T F : Type} (P : AuthPrimitives) (policy : AuthPolicy)

variable (history : List (Entry T F))

/-- No call after place `i` and before place `j` is an exchange. -/
def NoExchange (i j : Nat) : Prop :=
  ∀ l entry, i < l → l < j → history[l]? = some entry → entry.call.isExchange = false

/-- The call at place `i` issued the challenge, at this tick. -/
def IssuedAt (i : Nat) (challenge : SessionChallenge) (tick : Nat) : Prop :=
  ∃ request E response, history[i]? = some ⟨.issueChallenge request, E, .challenge (.ok response)⟩ ∧
    response.challenge = challenge ∧ Issues P policy request E challenge tick

/-- The call at place `k` attested the challenge. -/
def AttestedAt (k : Nat) (challenge : SessionChallenge) (expiryTick : Nat) : Prop :=
  ∃ attestation E, history[k]? = some ⟨.submitAttestation attestation, E, .done (.ok ())⟩ ∧
    Attests P policy attestation E challenge expiryTick

/-- The call at place `j` is an exchange answered with this session. -/
def SessionAt (j : Nat) (request : SessionExchangeRequest) (E : CallEnvironment)
    (response : SessionExchangeResponse) : Prop :=
  history[j]? = some ⟨.exchange request, E, .session (.ok response)⟩

/-- The session given at place `j` was earned by the challenge issued at `i`, which the human attested in between, with
no other exchange tried meanwhile. -/
def EarnedFrom (i j : Nat) (response : SessionExchangeResponse) : Prop :=
  ∃ k challenge tick request E replaced, i < k ∧ k < j ∧ IssuedAt P policy history i challenge tick ∧
    AttestedAt P policy history k challenge (tick + challengeTtlSeconds * 1000) ∧
      SessionAt history j request E response ∧
    Exchanges P policy request E challenge (tick + challengeTtlSeconds * 1000) response replaced ∧
      NoExchange history i j

/-- The active session is the one given at place `j`. -/
def IsSession (active : ActiveSession) (response : SessionExchangeResponse) : Prop :=
  (∃ authorityDigest, active.authority = newSession policy response.sessionId response.grantedCapabilities
    response.issuedAt response.absoluteExpiresAt authorityDigest) ∧
  active.tokenDigest = P.token response.sessionToken

/-- Both slots, and every session given so far, are accounted for in the history. -/
structure Accounted (s : AuthState) : Prop where
  pending : ∀ held, s.pending = some held → ∃ i tick, IssuedAt P policy history i held.challenge tick ∧
    held.expiryTick = tick + challengeTtlSeconds * 1000 ∧
    (held.attestation.isSome = true → ∃ k, i < k ∧ AttestedAt P policy history k held.challenge held.expiryTick) ∧
    NoExchange history i history.length
  sessions : ∀ j request E response, SessionAt history j request E response →
    ∃ i, EarnedFrom P policy history i j response
  active : ∀ active, s.session = some active → ∃ j request E response, SessionAt history j request E response ∧
    IsSession P policy active response ∧
    ∀ l request' E' response', j < l → ¬ SessionAt history l request' E' response'

variable {P policy} {history : List (Entry T F)} {entry : Entry T F} {s s' : AuthState} {i j : Nat} {e : Entry T F}

theorem place_lt (h : history[i]? = some e) : i < history.length := (List.getElem?_eq_some_iff.mp h).1

theorem place_append (h : history[i]? = some e) : (history ++ [entry])[i]? = some e := by
  rw [List.getElem?_append_left (place_lt h)]
  exact h

theorem place_of_append (h : (history ++ [entry])[i]? = some e) :
    history[i]? = some e ∨ (i = history.length ∧ e = entry) := by
  rcases Nat.lt_or_ge i history.length with hlt | hge
  · rw [List.getElem?_append_left hlt] at h
    exact .inl h
  · rw [List.getElem?_append_right hge] at h
    have hzero := (List.getElem?_eq_some_iff.mp h).1
    have hi : i = history.length := by
      simp at hzero
      omega
    subst hi
    simp at h
    exact .inr ⟨rfl, h.symm⟩

variable {E : CallEnvironment} {tick : Nat} {challenge : SessionChallenge}

theorem IssuedAt.append (h : IssuedAt P policy history i challenge tick) :
    IssuedAt P policy (history ++ [entry]) i challenge tick := by
  obtain ⟨request, E, response, hplace, hissues⟩ := h
  exact ⟨request, E, response, place_append hplace, hissues⟩

theorem AttestedAt.append (h : AttestedAt P policy history i challenge tick) :
    AttestedAt P policy (history ++ [entry]) i challenge tick := by
  obtain ⟨attestation, E, hplace, hattests⟩ := h
  exact ⟨attestation, E, place_append hplace, hattests⟩

theorem NoExchange.append (h : NoExchange history i history.length) : NoExchange
    (history ++ [entry]) i history.length := by
  intro l e hil hlj hplace
  rcases place_of_append hplace with hplace | ⟨rfl, rfl⟩
  · exact h l e hil hlj hplace
  · omega

theorem NoExchange.append_of_lt (h : NoExchange history i j) (hj : j < history.length) :
    NoExchange (history ++ [entry]) i j := by
  intro l e hil hlj hplace
  rcases place_of_append hplace with hplace | ⟨rfl, rfl⟩
  · exact h l e hil hlj hplace
  · omega

theorem NoExchange.append_quiet (h : NoExchange history i history.length) (hentry : entry.call.isExchange = false) :
    NoExchange (history ++ [entry]) i (history ++ [entry]).length := by
  intro l e hil hlj hplace
  rcases place_of_append hplace with hplace | ⟨rfl, rfl⟩
  · exact h l e hil (place_lt hplace) hplace
  · exact hentry

variable {response : SessionExchangeResponse}

theorem EarnedFrom.append (h : EarnedFrom P policy history i j response) :
    EarnedFrom P policy (history ++ [entry]) i j response := by
  obtain ⟨k, challenge, tick, request, E, replaced, hik, hkj, hissued, hattested, hsession, hexchanges, hfree⟩ := h
  exact ⟨k, challenge, tick, request, E, replaced, hik, hkj, hissued.append, hattested.append, place_append hsession,
    hexchanges, hfree.append_of_lt (place_lt hsession)⟩

/-- The call gave no session. -/
@[simp] def Entry.Sessionless (entry : Entry T F) : Prop :=
  ∀ request E response, entry ≠ ⟨.exchange request, E, .session (.ok response)⟩

namespace Accounted
variable (h : Accounted P policy history s)
include h

theorem sessions_append (hentry : entry.Sessionless) :
    ∀ j request E response, SessionAt (history ++ [entry]) j request E response →
      ∃ i, EarnedFrom P policy (history ++ [entry]) i j response := by
  intro j request E response hplace
  rcases place_of_append hplace with hplace | ⟨-, heq⟩
  · obtain ⟨i, hearned⟩ := h.sessions j request E response hplace
    exact ⟨i, hearned.append⟩
  · exact absurd heq.symm (hentry request E response)

section
variable (hentry : entry.Sessionless) (hsession : ∀ active', s'.session = some active' →
  ∃ active, s.session = some active ∧ active'.authority = active.authority ∧ active'.tokenDigest = active.tokenDigest)
include hentry hsession

theorem active_append :
    ∀ active, s'.session = some active → ∃ j request E response, SessionAt (history ++ [entry]) j request E response ∧
      IsSession P policy active response ∧
      ∀ l request' E' response', j < l → ¬ SessionAt (history ++ [entry]) l request' E' response' := by
  intro active' hactive'
  obtain ⟨active, hactive, hauthority, htoken⟩ := hsession active' hactive'
  obtain ⟨j, request, E, response, hplace, ⟨hbinding, hdigest⟩, hlast⟩ := h.active active hactive
  refine ⟨j, request, E, response, place_append hplace, ⟨hauthority ▸ hbinding, htoken.trans hdigest⟩, ?_⟩
  intro l request' E' response' hjl hlater
  rcases place_of_append hlater with hlater | ⟨-, heq⟩
  · exact hlast l request' E' response' hjl hlater
  · exact hentry request' E' response' heq.symm

theorem quiet (hpending : ∀ held, s'.pending = some held → s.pending = some held ∧ entry.call.isExchange = false) :
    Accounted P policy (history ++ [entry]) s' := by
  refine ⟨?_, h.sessions_append hentry, h.active_append hentry hsession⟩
  intro held hheld
  obtain ⟨hold, hcall⟩ := hpending held hheld
  obtain ⟨i, tick, hissued, hexpiry, hattested, hfree⟩ := h.pending held hold
  refine ⟨i, tick, hissued.append, hexpiry, fun hsome => ?_, hfree.append_quiet hcall⟩
  obtain ⟨k, hik, hplace⟩ := hattested hsome
  exact ⟨k, hik, hplace.append⟩

end

theorem issued {request : ChallengeIssueRequest}
    {response : ChallengeIssueResponse} (hissues : Issues P policy request E response.challenge tick) :
    Accounted P policy (history ++ [⟨.issueChallenge request, E, .challenge (.ok response)⟩])
      ⟨some ⟨response.challenge, tick + challengeTtlSeconds * 1000, none⟩, s.session⟩ := by
  refine ⟨?_, h.sessions_append (by simp), h.active_append (by simp) fun active hactive => ⟨active, hactive, rfl, rfl⟩⟩
  rintro held ⟨⟩
  refine ⟨history.length, tick, ⟨request, E, response, List.getElem?_concat_length, rfl, hissues⟩, rfl, by simp, ?_⟩
  intro l e hl hlt hplace
  simp at hlt
  omega

theorem attested {attestation : SessionAttestation} {held : PendingChallenge} (hheld : s.pending = some held)
    (hattests : Attests P policy attestation E held.challenge held.expiryTick) :
    Accounted P policy (history ++ [⟨.submitAttestation attestation, E, .done (.ok ())⟩])
      ⟨some { held with attestation := some attestation }, s.session⟩ := by
  refine ⟨?_, h.sessions_append (by simp), h.active_append (by simp) fun active hactive => ⟨active, hactive, rfl, rfl⟩⟩
  rintro held' ⟨⟩
  obtain ⟨i, tick, hissued, hexpiry, -, hfree⟩ := h.pending held hheld
  have hi : i < history.length := by
    obtain ⟨_, _, _, hplace, -⟩ := hissued
    exact place_lt hplace
  exact ⟨i, tick, hissued.append, hexpiry, fun _ => ⟨history.length, hi, attestation, E, List.getElem?_concat_length,
    hattests⟩, hfree.append_quiet rfl⟩

theorem exchanged {request : SessionExchangeRequest} {held : PendingChallenge} {authorityDigest : ControlDigest}
    {replaced : Option Uuid} (hheld : s.pending = some held) (hattested : held.attestation.isSome = true)
    (hexchanges : Exchanges P policy request E held.challenge held.expiryTick response replaced) :
    Accounted P policy (history ++ [⟨.exchange request, E, .session (.ok response)⟩])
      ⟨none, some (Auth.exchanged P policy response authorityDigest tick)⟩ := by
  obtain ⟨i, issuedTick, hissued, hexpiry, hattestation, hfree⟩ := h.pending held hheld
  obtain ⟨k, hik, hplace⟩ := hattestation hattested
  have hk : k < history.length := by
    obtain ⟨_, _, hat, -⟩ := hplace
    exact place_lt hat
  refine ⟨by rintro held ⟨⟩, ?_, ?_⟩
  · intro j request' E' response' hsession
    rcases place_of_append hsession with hsession | ⟨rfl, heq⟩
    · obtain ⟨i', hearned⟩ := h.sessions j request' E' response' hsession
      exact ⟨i', hearned.append⟩
    · cases heq
      rw [hexpiry] at hplace hexchanges
      exact ⟨i, k, held.challenge, issuedTick, request, E, replaced, hik, hk, hissued.append, hplace.append,
        List.getElem?_concat_length, hexchanges, hfree.append⟩
  · rintro active ⟨⟩
    refine ⟨history.length, request, E, response, List.getElem?_concat_length, ⟨⟨authorityDigest, rfl⟩, rfl⟩, ?_⟩
    intro l request' E' response' hl hsession
    have hbound := place_lt hsession
    simp at hbound
    omega

end Accounted

variable {call : Call T F}

theorem Call.isExchange_of_authorizes {presented : List (List UInt8) × Option CapabilitySet}
    (h : call.authorizes = some presented) : call.isExchange = false := by
  cases call with
  | exchange => cases h
  | _ => rfl

/-- Every call keeps both slots and all sessions accounted for. -/
theorem Performed.accounted {answer : Answer T F} (hdone : Performed P policy E s call answer s')
    (h : Accounted P policy history s) : Accounted P policy (history ++ [⟨call, E, answer⟩]) s' := by
  cases hdone with
  | issued issues => exact h.issued issues
  | attested pending attests => exact h.attested pending attests
  | consumed => exact h.quiet (by simp) (fun active hactive => ⟨active, hactive, rfl, rfl⟩) (by rintro held ⟨⟩)
  | exchanged pending attested _ exchanges => exact h.exchanged pending attested exchanges
  | succeeded authorizes session _ =>
    refine h.quiet (by simp) ?_ fun held hheld => ⟨hheld, Call.isExchange_of_authorizes authorizes⟩
    rintro active' ⟨⟩
    exact ⟨_, session, rfl, rfl⟩
  | failed authorizes =>
    exact h.quiet (by simp) (fun active hactive => ⟨active, hactive, rfl, rfl⟩) fun held hheld =>
      ⟨hheld, Call.isExchange_of_authorizes authorizes⟩
  | revoked => exact h.quiet (by simp) (by rintro active ⟨⟩) fun held hheld => ⟨hheld, rfl⟩
  | unrevoked | shut => exact h.quiet (by simp) (by rintro active ⟨⟩) (by rintro held ⟨⟩)
  | refused error _ _ session pending =>
    refine h.quiet (by rintro request E response ⟨⟩; cases error) (fun active hactive => ?_) fun held hheld => ?_
    · rcases session with hsame | hnone
      · exact ⟨active, hsame ▸ hactive, rfl, rfl⟩
      · cases hnone.symm.trans hactive
    · rcases pending with ⟨hsame, hcall⟩ | hnone
      · exact ⟨hsame ▸ hheld, hcall⟩
      · cases hnone.symm.trans hheld

theorem accounted_reaches (h : Reaches P policy history s) : Accounted P policy history s := by
  induction h with
  | start => exact ⟨by rintro held ⟨⟩, by simp [SessionAt], by rintro active ⟨⟩⟩
  | call call E _ ih => exact (perform_performed call).accounted ih

theorem earned_once {j' : Nat} {response' : SessionExchangeResponse}
    (h : EarnedFrom P policy history i j response) (h' : EarnedFrom P policy history i j' response') : j = j' := by
  have hcross {j j' : Nat} {response response' : SessionExchangeResponse} (h : EarnedFrom P policy history i j response)
      (h' : EarnedFrom P policy history i j' response') : ¬ j < j' := by
    obtain ⟨k, _, _, request, E, _, hik, hkj, -, -, hsession, -, -⟩ := h
    obtain ⟨_, _, _, _, _, _, -, -, -, -, -, -, hfree⟩ := h'
    intro hlt
    have hcall := hfree j _ (hik.trans hkj) hlt hsession
    cases hcall
  rcases Nat.lt_trichotomy j j' with hlt | heq | hgt
  · exact absurd hlt (hcross h h')
  · exact heq
  · exact absurd hgt (hcross h' h)

/-- Over every history of calls, with any clock, entropy and audit answers: each session given was earned by a
challenge issued here and signed by the human, each challenge earns at most one session, the session in place is the
last one given and the only one honoured, and all of them are on the audit record. -/
theorem sessions_earned_and_unique (P : AuthPrimitives) (policy : AuthPolicy) (history : List (Entry T F))
    (s : AuthState) (hreaches : Reaches P policy history s) :
    (∀ j request E response, SessionAt history j request E response → ∃ i, EarnedFrom P policy history i j response) ∧
    (∀ i j j' response response', EarnedFrom P policy history i j response →
      EarnedFrom P policy history i j' response' → j = j') ∧
    (∀ active, s.session = some active → ∃ j request E response, SessionAt history j request E response ∧
      IsSession P policy active response ∧
      ∀ l request' E' response', j < l → ¬ SessionAt history l request' E' response') ∧
    (∀ E E' headerValues headerValues' required required' answer answer' t t',
      authenticateLocked P policy E headerValues required s = (.ok answer, t) →
      authenticateLocked P policy E' headerValues' required' s = (.ok answer', t') → answer.1 = answer'.1) ∧
    (∀ held, s.pending = some held → ∃ i tick, IssuedAt P policy history i held.challenge tick) := by
  have hall := accounted_reaches hreaches
  refine ⟨hall.sessions, fun i j j' response response' => earned_once, hall.active, ?_, ?_⟩
  · intro E E' headerValues headerValues' required required' answer answer' t t' hanswer hanswer'
    obtain ⟨active, _, hactive, -, rfl, -⟩ := (authenticateLocked_meets headerValues required).of_ok hanswer
    obtain ⟨active', _, hactive', -, rfl, -⟩ := (authenticateLocked_meets headerValues' required').of_ok hanswer'
    rw [hactive] at hactive'
    cases hactive'
    rfl
  · intro held hheld
    obtain ⟨i, tick, hissued, -⟩ := hall.pending held hheld
    exact ⟨i, tick, hissued⟩

section Fixtures

/-- A value of thirty-two bytes that ends in this one. -/
def bytesEndingIn (last : UInt8) : Bytes32 := ⟨List.replicate 31 0 ++ [last], rfl⟩

def runRead : CapabilitySet := ⟨[.runRead], rfl⟩

def humanPolicy : AuthPolicy :=
  ⟨Uuid.v7 1, ⟨5⟩, Uuid.v7 2, Uuid.v7 3, 6, ⟨8⟩, 1, 1, "http://127.0.0.1:8080", runRead, runRead,
    ⟨[.approvalDecide, .approvalRead, .auditRead, .runCancel, .runRead, .runResume], rfl⟩⟩

/-- The base64 text of sixty-four zeros. -/
def zeroSignature : String := String.ofList (List.replicate 86 'A')

/-- The libraries, on the one challenge and the one session below. A token is its own digest. -/
def sessionPrimitives : AuthPrimitives where
  canonicalChallenge _ := some "challenge"
  canonicalBinding _ := some "binding"
  clientNonce _ := ⟨7⟩
  publicKey _ := ⟨8⟩
  signedBytes _ := ⟨9⟩
  authority _ := ⟨10⟩
  token := id
  sha256 _ := [126, 72, 238, 53, 143]
  decodeBase64 text := if text = zeroSignature then some (List.replicate 64 0) else none
  encodeBase64 _ := zeroSignature
  verify key _ signature := key == 6 && signature == List.replicate 64 0
  latest := 8210266876799999999999

/-- An audit store that appends what it is asked to. -/
def auditEcho (request : ControlAuditAppendRequest) : Option ControlAuditAppendResult :=
  some ⟨"proof.operator.control-audit-append-result/v1", request.event (Uuid.v7 9) 0⟩

/-- A call at this tick, in milliseconds from the epoch by both clocks. -/
def callAt (tick : Nat) (id : Uuid) (random : Bytes32) : CallEnvironment where
  trustedUtcNow := some (tick * 10 ^ 6)
  monotonicMillis := some tick
  newUuidV7 := some id
  fillRandom := some random
  appendAuthorityEvent := auditEcho

def issueRequest : ChallengeIssueRequest where
  schema := "proof.operator.session.challenge-issue-request/v1"
  clientNonceDigest := ⟨7⟩
  requestedCapabilities := ⟨[.auditRead, .runRead], rfl⟩

def signedChallenge : SessionChallenge :=
  newChallenge humanPolicy issueRequest runRead (Uuid.v7 4) (bytesEndingIn 11) 0 (120 * 10 ^ 9)

def signedAttestation : SessionAttestation where
  schema := "proof.operator.session.attestation/v1"
  challenge := signedChallenge
  signatureAlgorithm := "ed25519"
  signature := zeroSignature
  signedBytesDigest := ⟨9⟩

def exchangeRequest : SessionExchangeRequest where
  schema := "proof.operator.session.exchange-request/v1"
  challengeId := Uuid.v7 4
  clientNonce := "0000000000000000000000000000000000000000000000000000000000000007"

def exchangeResponse : SessionExchangeResponse :=
  ⟨"proof.operator.session.exchange-response/v1", Uuid.v7 5, bytesEndingIn 13, Uuid.v7 1, Uuid.v7 2, Uuid.v7 3, 1, 1,
    runRead, 10 ^ 9, 901 * 10 ^ 9, 301 * 10 ^ 9⟩

/-- A challenge is issued, signed and exchanged. -/
def signedHistory : List (Entry Unit Unit) :=
  [⟨.issueChallenge issueRequest, callAt 0 (Uuid.v7 4) (bytesEndingIn 11), .challenge (.ok
      ⟨"proof.operator.session.challenge-issue-response/v1", signedChallenge, encodeHex [126, 72, 238, 53, 143]⟩)⟩,
    ⟨.submitAttestation signedAttestation, callAt 500 (Uuid.v7 4) (bytesEndingIn 11), .done (.ok ())⟩,
    ⟨.exchange exchangeRequest, callAt 1000 (Uuid.v7 5) (bytesEndingIn 13), .session (.ok exchangeResponse)⟩]

def signedSession : ActiveSession :=
  exchanged sessionPrimitives humanPolicy exchangeResponse ⟨10⟩ 1000

theorem reaches_call {answer : Answer T F} (h : Reaches P policy history s)
    (hperform : perform P policy E call s = (answer, s')) : Reaches P policy (history ++ [⟨call, E, answer⟩]) s' := by
  have hnext := Reaches.call call E h
  rw [hperform] at hnext
  exact hnext

theorem signed_reaches : Reaches sessionPrimitives humanPolicy signedHistory ⟨none, some signedSession⟩ := by
  have hissue : perform sessionPrimitives humanPolicy (callAt 0 (Uuid.v7 4) (bytesEndingIn 11))
      (.issueChallenge issueRequest : Call Unit Unit) .clear = (.challenge (.ok
        ⟨"proof.operator.session.challenge-issue-response/v1", signedChallenge, encodeHex [126, 72, 238, 53, 143]⟩),
        ⟨some ⟨signedChallenge, 120000, none⟩, none⟩) := by decide +kernel
  have hsubmit : perform sessionPrimitives humanPolicy (callAt 500 (Uuid.v7 4) (bytesEndingIn 11))
      (.submitAttestation signedAttestation : Call Unit Unit) ⟨some ⟨signedChallenge, 120000, none⟩, none⟩ =
        (.done (.ok ()), ⟨some ⟨signedChallenge, 120000, some signedAttestation⟩, none⟩) := by decide +kernel
  have hexchange : perform sessionPrimitives humanPolicy (callAt 1000 (Uuid.v7 5) (bytesEndingIn 13))
      (.exchange exchangeRequest : Call Unit Unit) ⟨some ⟨signedChallenge, 120000, some signedAttestation⟩, none⟩ =
        (.session (.ok exchangeResponse), ⟨none, some signedSession⟩) := by decide +kernel
  exact reaches_call (reaches_call (reaches_call .start hissue) hsubmit) hexchange

/-- The session of the history above was earned by the challenge of its first call. -/
theorem sessions_earned_and_unique_signed :
    Reaches sessionPrimitives humanPolicy signedHistory ⟨none, some signedSession⟩ ∧
      (∃ i, EarnedFrom sessionPrimitives humanPolicy signedHistory i 2 exchangeResponse) ∧
      ∃ j request E response, SessionAt signedHistory j request E response ∧
        IsSession sessionPrimitives humanPolicy signedSession response := by
  obtain ⟨hsessions, -, hactive, -, -⟩ := sessions_earned_and_unique sessionPrimitives humanPolicy signedHistory
    ⟨none, some signedSession⟩ signed_reaches
  obtain ⟨j, request, E, response, hplace, hsession, -⟩ := hactive signedSession rfl
  exact ⟨signed_reaches, hsessions 2 _ _ _ rfl, j, request, E, response, hplace, hsession⟩

end Fixtures
end ProofPlatform.Auth
