import ProofPlatform.Kernel.Identity
import ProofPlatform.Library.History
import ProofPlatform.Library.Table

/-! The rate limits of the operator router. The clock is read before the lock is taken, so a bucket may be ahead of a
reading. -/
namespace ProofPlatform.Control
open Kernel Library Table

def rateScale : Nat := 60000

def maxProtectedBuckets : Nat := 30

structure TokenBucket where
  capacityUnits : Nat
  units : Nat
  refillPerMinute : Nat
  lastTick : Nat

namespace TokenBucket

def new (capacity refillPerMinute tick : Nat) : TokenBucket :=
  ⟨capacity * rateScale, capacity * rateScale, refillPerMinute, tick⟩

/-- Whether a request is admitted, unless its tick lies before the last one, and the bucket after it. -/
def consume (bucket : TokenBucket) (tick : Nat) : Option Bool × TokenBucket :=
  if tick < bucket.lastTick then (none, bucket)
  else
    let units := min (bucket.units + (tick - bucket.lastTick) * bucket.refillPerMinute) bucket.capacityUnits
    if units < rateScale then (some false, { bucket with units, lastTick := tick })
    else (some true, { bucket with units := units - rateScale, lastTick := tick })

theorem consume_eq_none {bucket : TokenBucket} {tick : Nat} :
    (bucket.consume tick).1 = none ↔ tick < bucket.lastTick := by
  unfold consume
  split
  · simpa
  · dsimp only
    split <;> simpa using ‹¬ tick < bucket.lastTick›

end TokenBucket

structure SessionBucket where
  sessionId : Uuid
  bucket : TokenBucket
  lastAccess : Nat

structure RateState where
  challenge : Option TokenBucket
  exchange : Option TokenBucket
  protectedBuckets : List SessionBucket
  accessSequence : Nat

inductive PublicRate where
  | challenge
  | exchange

/-- What a request is counted against: a public rate, or its session. -/
inductive Charge where
  | anyone (rate : PublicRate)
  | session (sessionId : Uuid)

namespace RateState
variable (rates : RateState)

/-- Count a request that has read this tick; an error is no answer. -/
def consumePublicRate (rate : PublicRate) (tick : Nat) : Option Bool × RateState :=
  match rate with
  | .challenge =>
    let charged := (rates.challenge.getD (.new 5 5 tick)).consume tick
    (charged.1, { rates with challenge := some charged.2 })
  | .exchange =>
    let charged := (rates.exchange.getD (.new 10 10 tick)).consume tick
    (charged.1, { rates with exchange := some charged.2 })

/-- The buckets with room for the session: if they are full, the least recently used other one goes. -/
def makeRoom (buckets : List SessionBucket) (sessionId : Uuid) : Option (List SessionBucket) :=
  if (lookup SessionBucket.sessionId buckets sessionId).isNone && decide (maxProtectedBuckets ≤ buckets.length) then
    (latest (fun a b => decide (b.lastAccess < a.lastAccess ∨ b.lastAccess = a.lastAccess ∧ b.sessionId ≤ a.sessionId))
      (buckets.filter fun row => row.sessionId != sessionId)).map fun evicted =>
        buckets.filter fun row => row.sessionId != evicted.sessionId
  else some buckets

def consumeProtectedRate (sessionId : Uuid) (tick : Nat) : Option Bool × RateState :=
  if 2 ^ 64 ≤ rates.accessSequence + 1 then (none, rates)
  else
    let rates := { rates with accessSequence := rates.accessSequence + 1 }
    match makeRoom rates.protectedBuckets sessionId with
    | none => (none, rates)
    | some buckets =>
      let session := (lookup SessionBucket.sessionId buckets sessionId).getD
        ⟨sessionId, .new 120 120 tick, rates.accessSequence⟩
      let charged := session.bucket.consume tick
      let next := { session with bucket := charged.2, lastAccess := rates.accessSequence }
      (charged.1, { rates with protectedBuckets := put SessionBucket.sessionId next buckets })

def consumeRate (tick : Nat) : Charge → Option Bool × RateState
  | .anyone rate => rates.consumePublicRate rate tick
  | .session sessionId => rates.consumeProtectedRate sessionId tick

/-- The bucket that a request is counted in, if it has one already. -/
def bucketOf : Charge → Option TokenBucket
  | .anyone .challenge => rates.challenge
  | .anyone .exchange => rates.exchange
  | .session sessionId =>
    (lookup SessionBucket.sessionId rates.protectedBuckets sessionId).map SessionBucket.bucket

variable {rates} {tick : Nat}

theorem consume_getD {bucket : Option TokenBucket} {capacity refill : Nat} :
    ((bucket.getD (.new capacity refill tick)).consume tick).1 = none ↔ ∃ found ∈ bucket, tick < found.lastTick := by
  cases bucket <;> simp [TokenBucket.consume_eq_none, TokenBucket.new]

/-- Room is always made, and the session's own bucket stays. -/
theorem makeRoom_spec (buckets : List SessionBucket) (sessionId : Uuid) :
    ∃ kept, makeRoom buckets sessionId = some kept ∧
    lookup SessionBucket.sessionId kept sessionId = lookup SessionBucket.sessionId buckets sessionId := by
  unfold makeRoom
  split
  · rename_i hfull
    simp only [Bool.and_eq_true, Option.isNone_iff_eq_none, decide_eq_true_eq] at hfull
    obtain ⟨hnone, hlength⟩ := hfull
    have hothers := lookup_eq_none.mp hnone
    have hall : buckets.filter (fun row => row.sessionId != sessionId) = buckets :=
      List.filter_eq_self.mpr fun row hrow => bne_iff_ne.mpr (hothers row hrow)
    rw [hall]
    cases hlatest : latest _ buckets with
    | none =>
      rw [latest_eq_none hlatest] at hlength
      cases hlength
    | some evicted =>
      refine ⟨_, rfl, ?_⟩
      rw [hnone, lookup_eq_none]
      exact fun row hrow => hothers row (List.mem_of_mem_filter hrow)
  · exact ⟨buckets, rfl, rfl⟩

/-- A request is answered with an error only if its bucket is ahead of its reading. -/
theorem consumeRate_eq_none {charge : Charge} (hroom : rates.accessSequence + 1 < 2 ^ 64) :
    (rates.consumeRate tick charge).1 = none ↔ ∃ bucket ∈ rates.bucketOf charge, tick < bucket.lastTick := by
  cases charge with
  | anyone rate => cases rate <;> exact consume_getD
  | session sessionId =>
    obtain ⟨kept, hkept, hlookup⟩ := makeRoom_spec rates.protectedBuckets sessionId
    simp only [consumeRate, consumeProtectedRate, if_neg (Nat.not_le.mpr hroom), hkept, hlookup, bucketOf]
    cases lookup SessionBucket.sessionId rates.protectedBuckets sessionId <;>
      simp [TokenBucket.consume_eq_none, TokenBucket.new]

theorem consumeRate_accessSequence {charge : Charge} :
    (rates.consumeRate tick charge).2.accessSequence ≤ rates.accessSequence + 1 := by
  cases charge with
  | anyone rate => cases rate <;> exact Nat.le_succ _
  | session sessionId =>
    simp only [consumeRate, consumeProtectedRate]
    split
    · exact Nat.le_succ _
    · split <;> exact le_rfl

end RateState

/-! ### Concurrent requests -/

/-- How far a request has come with its accounting. -/
inductive Stage where
  | waiting
  | holds (tick : Nat)
  | served
  deriving DecidableEq

structure RouterState (ι : Type) where
  clock : Nat
  stages : ι → Stage
  rates : RateState
  fatalShutdown : Bool

inductive Event (ι : Type) where
  | elapse (millis : Nat)
  | read (request : ι)
  | update (request : ι)

namespace RouterState
variable {ι : Type} [DecidableEq ι] (charges : ι → Charge)

def start (clock : Nat) : RouterState ι := ⟨clock, fun _ => .waiting, ⟨none, none, [], 0⟩, false⟩

/-- A request reads the clock once, and later is counted under the lock with what it read. -/
def step (s : RouterState ι) : Event ι → RouterState ι
  | .elapse millis => { s with clock := s.clock + millis }
  | .read request =>
    match s.stages request with
    | .waiting => { s with stages := Function.update s.stages request (.holds s.clock) }
    | _ => s
  | .update request =>
    match s.stages request with
    | .holds tick =>
      let counted := s.rates.consumeRate tick (charges request)
      { s with
        stages := Function.update s.stages request .served
        rates := counted.2
        fatalShutdown := s.fatalShutdown || counted.1.isNone }
    | _ => s

/-- The bucket that the request is about to be counted in is not ahead of its reading. -/
def InOrder (s : RouterState ι) : Event ι → Prop
  | .update request => ∀ tick, s.stages request = .holds tick →
      ∀ bucket ∈ s.rates.bucketOf (charges request), bucket.lastTick ≤ tick
  | _ => True

def AllInOrder : List (Event ι) → RouterState ι → Prop
  | [], _ => True
  | event :: events, s => s.InOrder charges event ∧ AllInOrder events (s.step charges event)

variable [Fintype ι] {charges} {s : RouterState ι}

def servedCount (s : RouterState ι) : Nat := (Finset.univ.filter fun request => s.stages request = .served).card

/-- Accesses are numbered by requests that were served. -/
def Numbered (s : RouterState ι) : Prop := s.rates.accessSequence ≤ s.servedCount

theorem servedCount_serve {request : ι} {rates : RateState} {fatalShutdown : Bool} (h : s.stages request ≠ .served) :
    servedCount { s with stages := Function.update s.stages request .served, rates, fatalShutdown } =
      s.servedCount + 1 := by
  have hserved : (Finset.univ.filter fun other => Function.update s.stages request .served other = .served) =
      insert request (Finset.univ.filter fun other => s.stages other = .served) := by
    ext other
    by_cases hother : other = request <;> simp [hother]
  simp only [servedCount, hserved]
  exact Finset.card_insert_of_notMem (by simp [h])

omit [DecidableEq ι] in
theorem servedCount_lt {request : ι} (h : s.stages request ≠ .served) : s.servedCount < Fintype.card ι :=
  Finset.card_lt_univ_of_notMem (x := request) (by simp [h])

theorem Numbered.step (h : s.Numbered) (event : Event ι) : (s.step charges event).Numbered := by
  unfold RouterState.step
  split
  · exact h
  · rename_i request
    split
    · have hkept : (Finset.univ.filter fun other =>
          Function.update s.stages request (.holds s.clock) other = .served) =
          Finset.univ.filter fun other => s.stages other = .served := by
        ext other
        by_cases hother : other = request <;> simp_all
      simpa only [Numbered, servedCount, hkept] using h
    · exact h
  · rename_i request
    split
    · rename_i tick hstage
      rw [Numbered, servedCount_serve (by simp [hstage])]
      exact RateState.consumeRate_accessSequence.trans (Nat.succ_le_succ h)
    · exact h

/-- A step of fewer than `2 ^ 64` requests shuts the router down exactly if it is out of order. -/
theorem step_fatal (hcard : Fintype.card ι < 2 ^ 64) (h : s.Numbered) (event : Event ι) :
    (s.step charges event).fatalShutdown = false ↔ s.fatalShutdown = false ∧ s.InOrder charges event := by
  cases event with
  | elapse millis => simp [step, InOrder]
  | read request =>
    simp only [step, InOrder, and_true]
    split <;> rfl
  | update request =>
    simp only [step, InOrder]
    split
    · rename_i tick hstage
      have hwaits : s.stages request ≠ .served := by simp [hstage]
      have hserved := servedCount_lt hwaits
      have hroom : s.rates.accessSequence + 1 < 2 ^ 64 := (Nat.succ_le_succ h).trans_lt (by omega)
      have herror : (s.rates.consumeRate tick (charges request)).1 ≠ none ↔
          ∀ bucket ∈ s.rates.bucketOf (charges request), bucket.lastTick ≤ tick := by
        simp [RateState.consumeRate_eq_none hroom]
      simp only [hstage, Stage.holds.injEq, forall_eq', ← herror, Bool.or_eq_false_iff, Option.isNone_eq_false_iff,
        Option.isSome_iff_ne_none]
    · rename_i hother
      exact ⟨fun hfatal => ⟨hfatal, fun tick htick => (hother tick htick).elim⟩, And.left⟩

theorem run_fatal (hcard : Fintype.card ι < 2 ^ 64) (h : s.Numbered) (events : List (Event ι)) :
    (History.run (step charges) events s).fatalShutdown = false ↔
      s.fatalShutdown = false ∧ AllInOrder charges events s := by
  induction events generalizing s with
  | nil => simp [AllInOrder]
  | cons event events ih =>
    rw [History.run_cons, ih (h.step event), step_fatal hcard h, AllInOrder, and_assoc]

end RouterState

/-- Rate accounting shuts the router down exactly in the runs in which a request finds its bucket ahead of its
reading. -/
theorem rates_fatal_iff (ι : Type) [DecidableEq ι] [Fintype ι] (hcard : Fintype.card ι < 2 ^ 64) (charges : ι → Charge)
    (clock : Nat) (events : List (Event ι)) :
    (History.run (RouterState.step charges) events (.start clock)).fatalShutdown = false ↔
      RouterState.AllInOrder charges events (.start clock) := by
  rw [RouterState.run_fatal hcard (Nat.zero_le _)]
  simp [RouterState.start]

theorem rates_fatal_iff_sequential :
    (History.run (RouterState.step fun _ : Fin 2 => Charge.anyone .challenge)
      [.read 0, .update 0, .elapse 1, .read 1, .update 1] (.start 0)).fatalShutdown = false := by
  refine (rates_fatal_iff (Fin 2) (by simp) (fun _ => .anyone .challenge) 0 _).mpr ?_
  simp [RouterState.AllInOrder, RouterState.InOrder, RouterState.step, RouterState.start, RateState.consumeRate,
    RateState.consumePublicRate, RateState.bucketOf, TokenBucket.consume, TokenBucket.new, rateScale]

/-- The second request overtakes the first between its reading and its update. -/
theorem overtaken_request_fatal :
    (History.run (RouterState.step fun _ : Fin 2 => Charge.anyone .challenge)
      [.read 0, .elapse 1, .read 1, .update 1, .update 0] (.start 0)).fatalShutdown = true := by
  decide

/-! ### Admissions over time -/

deriving instance DecidableEq for PublicRate, Charge

def PublicRate.quota : PublicRate → Nat
  | .challenge => 5
  | .exchange => 10

namespace TokenBucket
variable (quota start stop tick : Nat)

/-- The units that a bucket can give out from `start` to `stop`, if it may be full at the start. -/
def fullAllowance : Nat := quota * rateScale + quota * (stop - start)

/-- The units that a bucket can still give out in that time. -/
def allowance (bucket : TokenBucket) : Nat :=
  if stop < bucket.lastTick then 0
  else min (bucket.units + quota * (stop - bucket.lastTick)) (fullAllowance quota start stop)

def Holds (bucket : TokenBucket) : Prop :=
  ∃ units ≤ quota * rateScale, ∃ tick, bucket = ⟨quota * rateScale, units, quota, tick⟩

/-- An admission is paid for out of the allowance. -/
theorem Holds.consume {quota : Nat} {bucket : TokenBucket} (h : bucket.Holds quota) :
    (bucket.consume tick).2.Holds quota ∧
      (if (bucket.consume tick).1 = some true ∧ start ≤ tick ∧ tick ≤ stop then rateScale else 0) +
        (bucket.consume tick).2.allowance quota start stop ≤ bucket.allowance quota start stop := by
  obtain ⟨units, hunits, last, rfl⟩ := h
  unfold TokenBucket.consume Holds allowance fullAllowance
  generalize rateScale = scale at *
  dsimp only
  by_cases hlate : tick < last
  · simp [hlate, hunits]
  have hsplit (h : tick ≤ stop) : quota * (stop - last) = quota * (stop - tick) + (tick - last) * quota := by
    rw [Nat.mul_comm _ quota, ← Nat.mul_add]
    congr 1
    omega
  have hmono (h : start ≤ tick) : quota * (stop - tick) ≤ quota * (stop - start) := Nat.mul_le_mul_left _ (by omega)
  rw [if_neg hlate]
  by_cases hlow : min (units + (tick - last) * quota) (quota * scale) < scale
  · simp only [if_pos hlow, Option.some.injEq, Bool.false_eq_true, false_and, if_false]
    refine ⟨⟨_, by omega, _, rfl⟩, ?_⟩
    split_ifs <;> omega
  · simp only [if_neg hlow, true_and]
    refine ⟨⟨_, by omega, _, rfl⟩, ?_⟩
    split_ifs <;> omega

end TokenBucket

namespace RateState
variable (rate : PublicRate) (start stop tick : Nat)

/-- How many of the checks, in order, are admitted against the rate from `start` to `stop`. -/
def admissions (rates : RateState) : List (Charge × Nat) → Nat
  | [] => 0
  | (charge, tick) :: checks =>
    let counted := rates.consumeRate tick charge
    (if charge = .anyone rate ∧ counted.1 = some true ∧ start ≤ tick ∧ tick ≤ stop then 1 else 0) +
      admissions counted.2 checks

def Holds (rates : RateState) : Prop := ∀ bucket ∈ rates.bucketOf (.anyone rate), bucket.Holds rate.quota

def allowance (rates : RateState) : Nat := ((rates.bucketOf (.anyone rate)).map
  (TokenBucket.allowance rate.quota start stop)).getD (TokenBucket.fullAllowance rate.quota start stop)

variable {rate} {rates : RateState}

theorem Holds.consumeRate (charge : Charge) (h : rates.Holds rate) : (rates.consumeRate tick charge).2.Holds rate ∧
    (if charge = .anyone rate ∧ (rates.consumeRate tick charge).1 = some true ∧ start ≤ tick ∧ tick ≤ stop then
      rateScale else 0) + (rates.consumeRate tick charge).2.allowance rate start stop ≤
      rates.allowance rate start stop := by
  by_cases hcharge : charge = .anyone rate
  · subst hcharge
    let bucket := (rates.bucketOf (.anyone rate)).getD (.new rate.quota rate.quota tick)
    have hcounted : (rates.consumeRate tick (.anyone rate)).1 = (bucket.consume tick).1 ∧
        (rates.consumeRate tick (.anyone rate)).2.bucketOf (.anyone rate) = some (bucket.consume tick).2 := by
      cases rate <;> exact ⟨rfl, rfl⟩
    have hbucket : bucket.Holds rate.quota ∧
        bucket.allowance rate.quota start stop ≤ rates.allowance rate start stop := by
      unfold bucket allowance
      cases hfound : rates.bucketOf (.anyone rate) with
      | some found => exact ⟨h found hfound, le_rfl⟩
      | none =>
        refine ⟨⟨_, le_rfl, tick, rfl⟩, ?_⟩
        dsimp only [TokenBucket.allowance, Option.map_none, Option.getD_none]
        split_ifs <;> omega
    obtain ⟨hholds, hpaid⟩ := hbucket.1.consume start stop tick
    refine ⟨?_, le_trans ?_ (hpaid.trans hbucket.2)⟩
    · simpa [Holds, hcounted.2] using hholds
    · simp [allowance, hcounted]
  -- A request that is counted elsewhere leaves the bucket alone.
  · have hsame : (rates.consumeRate tick charge).2.bucketOf (.anyone rate) = rates.bucketOf (.anyone rate) := by
      cases charge with
      | anyone other => cases other <;> cases rate <;> first | rfl | exact absurd rfl hcharge
      | session sessionId =>
        simp only [RateState.consumeRate, consumeProtectedRate]
        split <;> [skip; split] <;> cases rate <;> rfl
    unfold Holds allowance
    rw [hsame]
    exact ⟨h, by simp [hcharge]⟩

theorem admissions_paid (checks : List (Charge × Nat)) (h : rates.Holds rate) :
    admissions rate start stop rates checks * rateScale ≤ rates.allowance rate start stop := by
  induction checks generalizing rates with
  | nil => simp [admissions]
  | cons check checks ih =>
    obtain ⟨hholds, hpaid⟩ := h.consumeRate start stop check.2 check.1
    rw [admissions, Nat.add_mul, ite_mul, Nat.one_mul, Nat.zero_mul]
    exact (Nat.add_le_add_left (ih hholds) _).trans hpaid

end RateState

/-- In no `length` milliseconds are more requests admitted against a public rate than its quota and what is refilled.
-/
theorem public_admissions_bounded (rate : PublicRate) (checks : List (Charge × Nat)) (start length : Nat) :
    RateState.admissions rate start (start + length) ⟨none, none, [], 0⟩ checks ≤
      rate.quota + rate.quota * length / 60000 := by
  have hempty : RateState.bucketOf ⟨none, none, [], 0⟩ (.anyone rate) = none := by cases rate <;> rfl
  have hholds : RateState.Holds rate ⟨none, none, [], 0⟩ := by simp [RateState.Holds, hempty]
  have hpaid := RateState.admissions_paid start (start + length) checks hholds
  simp only [RateState.allowance, hempty, Option.map_none, Option.getD_none, TokenBucket.fullAllowance, rateScale,
    Nat.add_sub_cancel_left] at hpaid
  omega

end ProofPlatform.Control
