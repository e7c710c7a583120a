import ProofPlatform.Auth.Earned

/-! Which session is live is read off the history: the last one given, unless a later call ended it or came past one of
its deadlines. A callback runs for it only. -/
namespace ProofPlatform.Auth
open Kernel Operator List
open Option

variable {T F : Type}

/-- A session that was given, and when a callback last succeeded under it. -/
structure LiveSession where
  token : Bytes32
  granted : CapabilitySet
  issuedTick : Nat
  activeTick : Nat

/-- A clock that shows this tick is past a deadline of the session. -/
def LiveSession.over (live : LiveSession) (tick : Option Nat) : Bool :=
  tick.any fun tick => decide (live.issuedTick + sessionAbsoluteTtlSeconds * 1000 ≤ tick ∨
    live.activeTick + sessionIdleTtlSeconds * 1000 ≤ tick)

namespace Answer

def unavailable : Answer T F → Bool
  | .challenge (.error .controlUnavailable) => true
  | .done (.error .controlUnavailable) => true
  | .session (.error .controlUnavailable) => true
  | .called (.error (.auth .controlUnavailable)) => true
  | _ => false

/-- The callback was called, and succeeded. -/
def succeeded : Answer T F → Bool
  | .called (.ok _) => true
  | _ => false

/-- The callback was called. -/
def ran : Answer T F → Bool
  | .called (.ok _) => true
  | .called (.error (.callback _)) => true
  | _ => false

end Answer

namespace Entry

def tick (entry : Entry T F) : Option Nat := entry.environment.monotonicMillis

/-- The call cleared the session, revoked it, or shut the authority down. -/
def ends (entry : Entry T F) : Bool :=
  entry.answer.unavailable ||
    match entry.call with
    | .invalidateForShutdown => true
    | .revokeWith _ _ => entry.answer.ran
    | _ => false

end Entry

/-- The live session after one more call. -/
def observe (live : Option LiveSession) (entry : Entry T F) : Option LiveSession :=
  match entry.answer, entry.tick with
  | .session (.ok response), some tick => some ⟨response.sessionToken, response.grantedCapabilities, tick, tick⟩
  | _, _ =>
    if entry.ends then none
    else (live.filter fun live => !live.over entry.tick).map fun live =>
      if entry.answer.succeeded then { live with activeTick := entry.tick.getD live.activeTick } else live

def liveSession (history : List (Entry T F)) : Option LiveSession := history.foldl observe none

/-- The ticks of the calls, oldest first. -/
def ticks (history : List (Entry T F)) : List Nat := history.filterMap Entry.tick

/-- The session in place is the live one, with its deadlines. -/
structure Matches (P : AuthPrimitives) (active : ActiveSession) (live : LiveSession) : Prop where
  token : active.tokenDigest = P.token live.token
  granted : active.authority.grantedCapabilities = live.granted
  absolute : active.absoluteExpiryTick = live.issuedTick + sessionAbsoluteTtlSeconds * 1000
  idle : active.idleExpiryTick =
    min (live.activeTick + sessionIdleTtlSeconds * 1000) (live.issuedTick + sessionAbsoluteTtlSeconds * 1000)

/-- The session in place is the live one, or past its deadlines, as the next authorized call finds. -/
def Tracks (P : AuthPrimitives) (history : List (Entry T F)) (s : AuthState) : Prop :=
  ∀ active, s.session = some active → (∃ live, liveSession history = some live ∧ Matches P active live) ∨
    ∃ tick ∈ ticks history, active.absoluteExpiryTick ≤ tick ∨ active.idleExpiryTick ≤ tick

variable {P : AuthPrimitives} {policy : AuthPolicy} {history : List (Entry T F)} {entry : Entry T F} {s s' : AuthState}

theorem liveSession_append : liveSession (history ++ [entry]) = observe (liveSession history) entry := by
  simp [liveSession, foldl_append]

variable {tick : Nat} {headerValues : List (List UInt8)} {required : Option CapabilitySet} {E : CallEnvironment}
  {active : ActiveSession}

theorem mem_ticks_append (h : tick ∈ ticks history) : tick ∈ ticks (history ++ [entry]) := by
  rw [ticks, filterMap_append]
  exact mem_append_left _ h

theorem tick_mem_ticks (h : entry.tick = some tick) : tick ∈ ticks (history ++ [entry]) := by
  rw [ticks, filterMap_append]
  exact mem_append_right _ (by simp [h])

theorem ticks_le (hmonotone : (ticks (history ++ [entry])).Pairwise (· ≤ ·)) (h : entry.tick = some tick) :
    ∀ earlier ∈ ticks history, earlier ≤ tick := by
  rw [ticks, filterMap_append] at hmonotone
  intro earlier hearlier
  exact (pairwise_append.mp hmonotone).2.2 earlier hearlier tick (by simp [h])

theorem observe_of_no_session {live : Option LiveSession} (h : ∀ response, entry.answer ≠ .session (.ok response)) :
    observe live entry = if entry.ends then none
      else (live.filter fun live => !live.over entry.tick).map fun live =>
        if entry.answer.succeeded then { live with activeTick := entry.tick.getD live.activeTick } else live := by
  unfold observe
  split
  · rename_i response tick hanswer _
    exact absurd hanswer (h response)
  · rfl

theorem Matches.over_of_not_lt {live : LiveSession} (h : Matches P active live)
    (hover : live.over (some tick) = true) : active.absoluteExpiryTick ≤ tick ∨ active.idleExpiryTick ≤ tick := by
  unfold LiveSession.over at hover
  rw [any_some] at hover
  rw [h.absolute, h.idle]
  exact (of_decide_eq_true hover).imp_right (Nat.min_le_left _ _).trans

/-- Without a new session or a callback that succeeds, the session is untouched or gone. -/
theorem Tracks.quiet (h : Tracks P history s) (hanswer : ∀ response, entry.answer ≠ .session (.ok response))
    (hends : entry.ends = false) (hsucceeded : entry.answer.succeeded = false)
    (hsession : ∀ active, s'.session = some active → s.session = some active) : Tracks P (history ++ [entry]) s' := by
  intro active hactive
  rw [liveSession_append, observe_of_no_session hanswer, hends, hsucceeded]
  rcases h active (hsession active hactive) with ⟨live, hlive, hmatches⟩ | ⟨tick, htick, hover⟩
  · cases hover : live.over entry.tick with
    | false =>
      refine .inl ⟨live, ?_, hmatches⟩
      simp [hlive, hover]
    | true =>
      cases htick : entry.tick with
      | none => simp [LiveSession.over, htick] at hover
      | some tick =>
        rw [htick] at hover
        exact .inr ⟨tick, tick_mem_ticks htick, hmatches.over_of_not_lt hover⟩
  · exact .inr ⟨tick, mem_ticks_append htick, hover⟩

theorem tracks_none (h : s'.session = none) : Tracks P history s' := by
  intro active hactive
  rw [h] at hactive
  cases hactive

section
variable (h : Tracks P history s) (hmonotone : (ticks (history ++ [entry])).Pairwise (· ≤ ·))
  (hactive : s.session = some active) (hpresents : Presents P active entry.environment headerValues required tick)
include h hmonotone hactive hpresents

theorem Tracks.live : ∃ live, liveSession history = some live ∧ Matches P active live := by
  rcases h active hactive with hlive | ⟨earlier, hearlier, hover⟩
  · exact hlive
  · have hle := ticks_le hmonotone hpresents.clock earlier hearlier
    have habsolute := hpresents.absolute
    have hidle := hpresents.idle
    omega

/-- A callback that succeeds moves the idle deadline, and no other. -/
theorem Tracks.succeeded (hsucceeded : entry.answer.succeeded = true) (hends : entry.ends = false)
    (hanswer : ∀ response, entry.answer ≠ .session (.ok response)) {pending : Option PendingChallenge} :
    Tracks P (history ++ [entry]) ⟨pending, some { active with
      idleExpiryTick := min (tick + sessionIdleTtlSeconds * 1000) active.absoluteExpiryTick }⟩ := by
  obtain ⟨live, hlive, hmatches⟩ := h.live hmonotone hactive hpresents
  have htick : entry.tick = some tick := hpresents.clock
  have hover : live.over (some tick) = false := by
    by_contra hover
    have hpast := hmatches.over_of_not_lt (by simpa using hover)
    have habsolute := hpresents.absolute
    have hidle := hpresents.idle
    omega
  rintro active' ⟨⟩
  refine .inl ⟨{ live with activeTick := tick }, ?_, hmatches.token, hmatches.granted, hmatches.absolute, ?_⟩
  · rw [liveSession_append, observe_of_no_session hanswer, hends, hsucceeded, htick]
    simp [hlive, hover]
  · simp [hmatches.absolute]

end

variable {response : SessionExchangeResponse}

theorem tracks_exchanged {request : SessionExchangeRequest}
    {authorityDigest : ControlDigest} (htick : E.monotonicMillis = some tick) :
    Tracks P (history ++ [⟨.exchange request, E, .session (.ok response)⟩])
      ⟨none, some (exchanged P policy response authorityDigest tick)⟩ := by
  rintro active ⟨⟩
  refine .inl ⟨⟨response.sessionToken, response.grantedCapabilities, tick, tick⟩, ?_, rfl, rfl, rfl, ?_⟩
  · rw [liveSession_append]
    simp [observe, Entry.tick, htick]
  · simp only [exchanged, sessionIdleTtlSeconds, sessionAbsoluteTtlSeconds]
    omega

variable {call : Call T F} {answer : Answer T F}

theorem ends_of_authorizes {presented : List (List UInt8) × Option CapabilitySet}
    (h : call.authorizes = some presented) : (⟨call, E, answer⟩ : Entry T F).ends = answer.unavailable := by
  cases call with
  | authorizeWith | authorizeAnyWith => exact Bool.or_false _
  | _ => cases h

/-- A call refused while the authority is available gives no session and ends none. -/
theorem quiet_of_authError {e : OperatorAuthError} (h : answer.authError = some e) (he : e ≠ .controlUnavailable) :
    answer.unavailable = false ∧ answer.ran = false ∧ answer.succeeded = false ∧
      ∀ response, answer ≠ .session (.ok response) := by
  unfold Answer.authError at h
  split at h <;> cases h
  all_goals cases e <;> first | exact ⟨rfl, rfl, rfl, nofun⟩ | exact absurd rfl he

theorem Performed.tracks (hdone : Performed P policy E s call answer s') (h : Tracks P history s)
    (hmonotone : (ticks (history ++ [⟨call, E, answer⟩])).Pairwise (· ≤ ·)) :
    Tracks P (history ++ [⟨call, E, answer⟩]) s' := by
  cases hdone with
  | issued | attested | consumed => exact h.quiet (by simp) rfl rfl fun active hactive => hactive
  | exchanged _ _ clock => exact tracks_exchanged clock
  | succeeded authorizes session presents =>
    exact h.succeeded hmonotone session presents rfl (ends_of_authorizes authorizes) (by simp)
  | failed authorizes => exact h.quiet (by simp) (ends_of_authorizes authorizes) rfl fun active hactive => hactive
  | revoked | unrevoked | shut => exact tracks_none rfl
  | @refused _ _ e _ error going cleared session =>
    by_cases he : e = .controlUnavailable
    · rw [cleared he]
      exact tracks_none rfl
    obtain ⟨havailable, hran, hsucceeded, hanswer⟩ := quiet_of_authError error he
    rcases session with hsame | hnone
    · refine h.quiet hanswer ?_ hsucceeded fun active hactive => hsame ▸ hactive
      cases call <;> simp_all [Entry.ends]
    · exact tracks_none hnone

theorem tracks_reaches (h : Reaches P policy history s) (hmonotone : (ticks history).Pairwise (· ≤ ·)) :
    Tracks P history s := by
  induction h with
  | start => exact tracks_none rfl
  | call call E _ ih =>
    refine (perform_performed call).tracks (ih ?_) hmonotone
    rw [ticks, filterMap_append] at hmonotone
    exact (pairwise_append.mp hmonotone).1

/-- The headers a call presents, and the capabilities it requires. -/
def Call.presented : Call T F → Option (List (List UInt8) × Option CapabilitySet)
  | .authorizeWith headerValues required _ => some (headerValues, some required)
  | .authorizeAnyWith headerValues _ => some (headerValues, none)
  | .revokeWith headerValues _ => some (headerValues, none)
  | _ => none

theorem presented_of_authorizes {presented : List (List UInt8) × Option CapabilitySet}
    (h : call.authorizes = some presented) : call.presented = some presented := by
  cases call with
  | authorizeWith | authorizeAnyWith => exact h
  | _ => cases h

/-- A callback runs only for the session in place; when it fails, the session is as it was or gone. -/
theorem Performed.presents (hdone : Performed P policy E s call answer s')
    (hran : answer.ran = true) : ∃ headerValues required, call.presented = some (headerValues, required) ∧
      (∃ active tick, s.session = some active ∧ Presents P active E headerValues required tick) ∧
      (answer.succeeded = false → s' = s ∨ s' = .clear) := by
  cases hdone with
  | succeeded authorizes session presents =>
    exact ⟨_, _, presented_of_authorizes authorizes, ⟨_, _, session, presents⟩, by rintro ⟨⟩⟩
  | failed authorizes session presents =>
    exact ⟨_, _, presented_of_authorizes authorizes, ⟨_, _, session, presents⟩, fun _ => .inl rfl⟩
  | revoked session presents => exact ⟨_, none, rfl, ⟨_, _, session, presents⟩, by rintro ⟨⟩⟩
  | unrevoked session presents => exact ⟨_, none, rfl, ⟨_, _, session, presents⟩, fun _ => .inr rfl⟩
  | issued | attested | consumed | exchanged | shut => cases hran
  | refused error =>
    unfold Answer.ran at hran
    split at hran <;> first | cases error | cases hran

section Origin

/-- A call that gives a session or whose callback succeeds has read the clock. -/
def Entry.Timed (entry : Entry T F) : Prop :=
  (∃ response, entry.answer = .session (.ok response)) ∨ entry.answer.succeeded = true → ∃ tick, entry.tick = some tick

theorem succeeded_ran (h : answer.succeeded = true) : answer.ran = true := by
  unfold Answer.succeeded at h
  split at h
  · rfl
  · cases h

theorem Performed.timed (hdone : Performed P policy E s call answer s') :
    (⟨call, E, answer⟩ : Entry T F).Timed := by
  rintro (⟨response, rfl⟩ | hsucceeded)
  · cases hdone with
    | exchanged _ _ clock => exact ⟨_, clock⟩
    | refused error => cases error
  · obtain ⟨_, _, -, ⟨active, tick, -, hpresents⟩, -⟩ := hdone.presents (succeeded_ran hsucceeded)
    exact ⟨tick, hpresents.clock⟩

theorem timed_reaches (h : Reaches P policy history s) : ∀ entry ∈ history, entry.Timed := by
  induction h with
  | start => simp
  | call call E _ ih =>
    intro entry hentry
    rcases mem_append.mp hentry with hold | hnew
    · exact ih entry hold
    · rw [mem_singleton.mp hnew]
      exact (perform_performed call).timed

/-- The session was given at place `j`, as the last one, and no call ended it since. -/
def GivenAt (history : List (Entry T F)) (j : Nat) (given : Entry T F) (response : SessionExchangeResponse) : Prop :=
  history[j]? = some given ∧ given.answer = .session (.ok response) ∧
    ∀ l later, j < l → history[l]? = some later → later.ends = false ∧
      ∀ response', later.answer ≠ .session (.ok response')

/-- Call `k` gave the session, given at `j`, or is the last one since whose callback succeeded. -/
def ActiveAt (history : List (Entry T F)) (j k : Nat) (last : Entry T F) : Prop :=
  j ≤ k ∧ history[k]? = some last ∧ (k = j ∨ last.answer.succeeded = true) ∧
    ∀ l later, k < l → history[l]? = some later → later.answer.succeeded = false

/-- Where the live session comes from. -/
def Origin (history : List (Entry T F)) (live : LiveSession) : Prop :=
  ∃ j given response k last, GivenAt history j given response ∧ given.tick = some live.issuedTick ∧
    response.sessionToken = live.token ∧ response.grantedCapabilities = live.granted ∧ ActiveAt history j k last ∧
    last.tick = some live.activeTick

theorem GivenAt.append {j : Nat} {given : Entry T F} (h : GivenAt history j given response) (hends : entry.ends = false)
    (hanswer : ∀ response', entry.answer ≠ .session (.ok response')) :
    GivenAt (history ++ [entry]) j given response := by
  obtain ⟨hplace, hgiven, hsince⟩ := h
  refine ⟨place_append hplace, hgiven, fun l later hl hlater => ?_⟩
  rcases place_of_append hlater with hlater | ⟨-, rfl⟩
  · exact hsince l later hl hlater
  · exact ⟨hends, hanswer⟩

theorem ActiveAt.append {j k : Nat} {last : Entry T F} (h : ActiveAt history j k last)
    (hsucceeded : entry.answer.succeeded = false) : ActiveAt (history ++ [entry]) j k last := by
  obtain ⟨hjk, hplace, hwhich, hsince⟩ := h
  refine ⟨hjk, place_append hplace, hwhich, fun l later hl hlater => ?_⟩
  rcases place_of_append hlater with hlater | ⟨-, rfl⟩
  · exact hsince l later hl hlater
  · exact hsucceeded

theorem no_later {l : Nat} {later : Entry T F} (hl : history.length < l) : (history ++ [entry])[l]? ≠ some later := by
  intro hlater
  have hbound := place_lt hlater
  simp at hbound
  omega

theorem liveSession_origin (htimed : ∀ entry ∈ history, entry.Timed) :
    ∀ live, liveSession history = some live → Origin history live := by
  induction history using List.reverseRecOn with
  | nil => rintro live ⟨⟩
  | append_singleton history entry ih =>
    intro live hlive
    have hentry := htimed entry (mem_append_right _ mem_cons_self)
    have hlast : (history ++ [entry])[history.length]? = some entry := List.getElem?_concat_length
    rw [liveSession_append] at hlive
    by_cases hanswer : ∃ response, entry.answer = .session (.ok response)
    · -- The session is given by this call.
      obtain ⟨tick, htick⟩ := hentry (.inl hanswer)
      obtain ⟨response, hresponse⟩ := hanswer
      simp only [observe, hresponse, htick, some.injEq] at hlive
      subst hlive
      exact ⟨history.length, entry, response, history.length, entry,
        ⟨hlast, hresponse, fun l later hl hlater => absurd hlater (no_later hl)⟩, htick, rfl, rfl,
        ⟨le_refl _, hlast, .inl rfl, fun l later hl hlater => absurd hlater (no_later hl)⟩, htick⟩
    · have hnone (response : SessionExchangeResponse) : entry.answer ≠ .session (.ok response) :=
        fun heq => hanswer ⟨response, heq⟩
      rw [observe_of_no_session hnone] at hlive
      split at hlive
      · cases hlive
      · rename_i hends
        have hends : entry.ends = false := by simpa using hends
        obtain ⟨before, hbefore, rfl⟩ := map_eq_some_iff.mp hlive
        obtain ⟨hbefore, -⟩ := filter_eq_some_iff.mp hbefore
        obtain ⟨j, given, response, k, last, hgiven, hissued, htoken, hgranted, hactive, hactiveTick⟩ :=
          ih (fun e he => htimed e (mem_append_left _ he)) before hbefore
        have hj : j < history.length := place_lt hgiven.1
        cases hsucceeded : entry.answer.succeeded with
        | false =>
          exact ⟨j, given, response, k, last, hgiven.append hends hnone, hissued, htoken, hgranted,
            hactive.append hsucceeded, hactiveTick⟩
        | true =>
          obtain ⟨tick, htick⟩ := hentry (.inr hsucceeded)
          exact ⟨j, given, response, history.length, entry, hgiven.append hends hnone, hissued, htoken, hgranted,
            ⟨hj.le, hlast, .inr hsucceeded, fun l later hl hlater => absurd hlater (no_later hl)⟩, by simp [htick]⟩

end Origin

/-- The call presents exactly one header, the text of the token last given; nothing has ended that session
since, and the clock is before its absolute deadline, and before the idle limit after the last call whose
callback succeeded; and what the call requires was granted. -/
def Honoured (history : List (Entry T F)) (call : Call T F) (E : CallEnvironment) : Prop :=
  ∃ headerValues required tick j given response k last issuedTick activeTick,
    call.presented = some (headerValues, required) ∧ E.monotonicMillis = some tick ∧
    GivenAt history j given response ∧ given.tick = some issuedTick ∧
    headerValues = [encodeHex response.sessionToken.bytes] ∧
    tick < issuedTick + sessionAbsoluteTtlSeconds * 1000 ∧
    ActiveAt history j k last ∧ last.tick = some activeTick ∧ tick < activeTick + sessionIdleTtlSeconds * 1000 ∧
    ∀ set, required = some set → set.values ⊆ response.grantedCapabilities.values

/-- Over every history with a clock that does not go back, a callback runs only for the live session; one that fails
leaves the session as it was, or cleared. The digest of tokens is taken to tell them apart. -/
theorem only_live_session_honoured (P : AuthPrimitives) (policy : AuthPolicy)
    (htoken : ∀ token token', P.token token = P.token token' → token = token') (history : List (Entry T F))
    (s : AuthState) (hreaches : Reaches P policy history s) (call : Call T F) (E : CallEnvironment)
    (hmonotone : (ticks (history ++ [⟨call, E, (perform P policy E call s).1⟩])).Pairwise (· ≤ ·))
    (hran : (perform P policy E call s).1.ran = true) :
    Honoured history call E ∧ ((perform P policy E call s).1.succeeded = false →
      (perform P policy E call s).2 = s ∨ (perform P policy E call s).2 = .clear) := by
  obtain ⟨headerValues, required, hpresented, ⟨active, tick, hactive, hpresents⟩, hfailed⟩ :=
    (perform_performed call).presents hran
  refine ⟨?_, hfailed⟩
  have htracks : Tracks P history s := by
    refine tracks_reaches hreaches ?_
    rw [ticks, filterMap_append] at hmonotone
    exact (pairwise_append.mp hmonotone).1
  obtain ⟨live, hlive, hmatches⟩ := htracks.live hmonotone hactive hpresents
  obtain ⟨j, given, response, k, last, hgiven, hissued, hlivetoken, hgranted, hlast, hactiveTick⟩ :=
    liveSession_origin (timed_reaches hreaches) live hlive
  obtain ⟨token, hheader, hdigest⟩ := hpresents.token
  have hsame : token = response.sessionToken := by
    rw [hlivetoken]
    exact htoken token live.token (hdigest.symm.trans hmatches.token)
  have habsolute := hpresents.absolute
  have hidle := hpresents.idle
  rw [hmatches.absolute] at habsolute
  rw [hmatches.idle, lt_min_iff] at hidle
  refine ⟨headerValues, required, tick, j, given, response, k, last, live.issuedTick, live.activeTick, hpresented,
    hpresents.clock, hgiven, hissued, ?_, habsolute, hlast, hactiveTick, hidle.1, ?_⟩
  · rw [hheader, hsame]
  · intro set hset
    rw [hgranted, ← hmatches.granted]
    exact hpresents.capabilities set hset

/-- A protected call under the session of the signed history, one second later. -/
def readCall : Call Unit Unit := .authorizeWith [encodeHex (bytesEndingIn 13).bytes] runRead fun _ => .ok ()

theorem only_live_session_honoured_read :
    (perform sessionPrimitives humanPolicy (callAt 2000 (Uuid.v7 6) (bytesEndingIn 0)) readCall
      ⟨none, some signedSession⟩).1 = .called (.ok ()) ∧
    Honoured signedHistory readCall (callAt 2000 (Uuid.v7 6) (bytesEndingIn 0)) := by
  have hanswer : (perform sessionPrimitives humanPolicy (callAt 2000 (Uuid.v7 6) (bytesEndingIn 0)) readCall
      ⟨none, some signedSession⟩).1 = .called (.ok ()) := by decide +kernel
  refine ⟨hanswer, ?_⟩
  refine (only_live_session_honoured sessionPrimitives humanPolicy (fun _ _ h => h) signedHistory
    ⟨none, some signedSession⟩ signed_reaches readCall _ ?_ ?_).1
  · simp [ticks, signedHistory, Entry.tick, callAt]
  · rw [hanswer]
    rfl

end ProofPlatform.Auth
