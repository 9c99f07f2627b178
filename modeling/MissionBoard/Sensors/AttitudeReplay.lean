import MissionBoard.Library.Run
import MissionBoard.Sensors.AttitudeEstimator

/-!
Owns `AttitudeEstimator` of `sensors/attitude_estimator.cpp` in exact arithmetic, and what it integrates: the
trapezoids between the samples after the liftoff, whichever of them come from the history and whichever
from `update`.

The samples are doubles, as the code has them; sums and products of their values are not rounded, and what is
not finite stays so.
-/

namespace MissionBoard.Sensors

/-- The value of a double that is finite -/
def exactly : Double → Option ℚ
  | .finite value => some value
  | _ => none

/-- `AttitudeState` -/
structure ExactAttitudeState where
  rollEstimateLiftoffRelativeUnwrappedRad : ℚ := 0
  rollRateRadS : ℚ := 0
  timestampUs : ℕ := 0
  interpolatedSampleCount : UInt32 := 0
  dataLossEventCount : UInt32 := 0
  fifoFullEventCount : UInt32 := 0
  invalidReason : AttitudeInvalidReason := .historyUnavailable
  valid : Bool := false
deriving DecidableEq

/-- `AttitudeEstimator`; the rate of the seed need not be finite. -/
structure ExactAttitudeEstimator where
  state : ExactAttitudeState := {}
  biasRadS : ℚ := 0
  previousRateRadS : Option ℚ := some 0
  previousTimestampUs : ℕ := 0
  timestampEpoch : UInt32 := 0
  seeded : Bool := false
deriving DecidableEq

namespace ExactAttitudeEstimator

/-- `invalidate` -/
def invalidate (estimator : ExactAttitudeEstimator) (reason : AttitudeInvalidReason) :
    ExactAttitudeEstimator :=
  { estimator with state.valid := false, state.invalidReason := reason }

/-- The end of `accept`, for an increment of the angle -/
def integrate (estimator : ExactAttitudeEstimator) (sample : GyroSample) (rate : ℚ) :
    Option ℚ → Bool × ExactAttitudeEstimator
  | none => (false, estimator.invalidate .numericError)
  | some increment =>
      (true,
        { estimator with
          state.rollEstimateLiftoffRelativeUnwrappedRad :=
            estimator.state.rollEstimateLiftoffRelativeUnwrappedRad + increment
          state.rollRateRadS := rate
          state.timestampUs := sample.timestampUs
          previousTimestampUs := sample.timestampUs
          previousRateRadS := some rate })

/-- `accept`, with `fifo_full` counted -/
def acceptCounted (estimator : ExactAttitudeEstimator) (sample : GyroSample) :
    Bool × ExactAttitudeEstimator :=
  if sample.formatFault then (false, estimator.invalidate .fifoFormatFault)
  else
    match sample.valid, exactly sample.rollRateRadS with
    | false, _ | _, none => (false, estimator.invalidate .sampleInvalid)
    | true, some raw =>
        if sample.saturated then (false, estimator.invalidate .saturated)
        else if sample.timestampEpoch ≠ estimator.timestampEpoch then
          (false, estimator.invalidate .timestampEpochChanged)
        else if sample.timestampUs ≤ estimator.previousTimestampUs then
          (false, estimator.invalidate .timestampInvalid)
        else
          let deltaUs := sample.timestampUs - estimator.previousTimestampUs
          let rate := raw - estimator.biasRadS
          if nearPeriod deltaUs 1 && sample.lostPackets = 0 then
            estimator.integrate sample rate
              (estimator.previousRateRadS.map fun previous =>
                1 / 2 * (previous + rate) * deltaUs * (1 / 1000000))
          else if nearPeriod deltaUs 2 && sample.lostPackets ≤ 1 then
            { estimator with
              state.interpolatedSampleCount := estimator.state.interpolatedSampleCount + 1
              state.dataLossEventCount := estimator.state.dataLossEventCount + 1 }.integrate sample
                rate (estimator.previousRateRadS.map fun previous => (previous + rate) * (1 / 1000))
          else
            let counted :=
              if sample.lostPackets ≠ 0 then
                { estimator with
                  state.dataLossEventCount := estimator.state.dataLossEventCount + 1 }
              else estimator
            (false, counted.invalidate
              (if sample.lostPackets > 1 then .excessDataLoss else .timestampInvalid))

/-- `accept` -/
def accept (estimator : ExactAttitudeEstimator) (sample : GyroSample) :
    Bool × ExactAttitudeEstimator :=
  if sample.fifoFull then
    { estimator with
      state.fifoFullEventCount := estimator.state.fifoFullEventCount + 1 }.acceptCounted sample
  else estimator.acceptCounted sample

/-- `update` -/
def update (estimator : ExactAttitudeEstimator) (sample : GyroSample) :
    Bool × ExactAttitudeEstimator :=
  if !estimator.state.valid || !estimator.seeded then (false, estimator) else estimator.accept sample

/-- `invalidateForReset` -/
def invalidateForReset (estimator : ExactAttitudeEstimator) : ExactAttitudeEstimator :=
  estimator.invalidate .resetInvalidated

/-- The second loop of `beginFlight` -/
def replay (liftoffTimeUs : ℕ) (estimator : ExactAttitudeEstimator) :
    List GyroSample → Bool × ExactAttitudeEstimator
  | [] => (estimator.state.valid, estimator)
  | sample :: rest =>
      if sample.timestampUs > liftoffTimeUs then
        match estimator.accept sample with
        | (true, next) => replay liftoffTimeUs next rest
        | (false, next) => (false, next)
      else replay liftoffTimeUs estimator rest

/-- The estimator at the liftoff -/
def atLiftoff (seed : GyroSample) (liftoffTimeUs : ℕ) (bias : ℚ) : ExactAttitudeEstimator where
  state := { valid := true, invalidReason := .none, timestampUs := liftoffTimeUs }
  biasRadS := bias
  previousTimestampUs := liftoffTimeUs
  previousRateRadS := (exactly seed.rollRateRadS).map (· - bias)
  timestampEpoch := seed.timestampEpoch
  seeded := true

/-- `beginFlight`, which forgets what the estimator was -/
def beginFlight (history : GyroHistoryRing) (liftoffTimeUs : ℕ) (gyroBiasRadS : Double) :
    Bool × ExactAttitudeEstimator :=
  match exactly gyroBiasRadS with
  | none => (false, ({} : ExactAttitudeEstimator).invalidate .numericError)
  | some bias =>
      match AttitudeEstimator.seedOf liftoffTimeUs history.chronological with
      | none =>
          (false, { biasRadS := bias : ExactAttitudeEstimator }.invalidate .historyUnavailable)
      | some seed =>
          replay liftoffTimeUs (atLiftoff seed liftoffTimeUs bias) history.chronological

/-! ### What a sample adds -/

/-- A rate at a time -/
structure RatePoint where
  timestampUs : ℕ
  rateRadS : ℚ

/-- The trapezoid between two points in microseconds: over the time between them, or over two nominal
periods where it is not one period -/
def trapezoid (earlier later : RatePoint) : ℚ :=
  let deltaUs := later.timestampUs - earlier.timestampUs
  (earlier.rateRadS + later.rateRadS) / 2 *
    (if nearPeriod deltaUs 1 then (deltaUs : ℚ) else 2 * 1000)

theorem trapezoid_of_once {earlier later : RatePoint}
    (once : nearPeriod (later.timestampUs - earlier.timestampUs) 1 = true) :
    trapezoid earlier later = (earlier.rateRadS + later.rateRadS) / 2 *
      ((later.timestampUs - earlier.timestampUs : ℕ) : ℚ) := by
  rw [trapezoid, if_pos once]

/-- Two periods are not one. -/
theorem trapezoid_of_twice {earlier later : RatePoint}
    (twice : nearPeriod (later.timestampUs - earlier.timestampUs) 2 = true) :
    trapezoid earlier later = (earlier.rateRadS + later.rateRadS) / 2 * (2 * 1000) := by
  have long : ¬ nearPeriod (later.timestampUs - earlier.timestampUs) 1 = true := by
    simp only [nearPeriod, Bool.and_eq_true, decide_eq_true_eq] at twice ⊢
    omega
  rw [trapezoid, if_neg long]

/-- The point of a sample, with the bias taken off -/
def pointOf (bias : ℚ) (sample : GyroSample) : RatePoint where
  timestampUs := sample.timestampUs
  rateRadS := (exactly sample.rollRateRadS).getD 0 - bias

/-- The sample is integrated: the trapezoid from the point before it is added, and it is the point before
the next. -/
structure Integrates (estimator : ExactAttitudeEstimator) (sample : GyroSample)
    (next : ExactAttitudeEstimator) : Prop where
  later : estimator.previousTimestampUs < sample.timestampUs
  estimate : ∃ previous, estimator.previousRateRadS = some previous ∧
    next.state.rollEstimateLiftoffRelativeUnwrappedRad =
      estimator.state.rollEstimateLiftoffRelativeUnwrappedRad +
        trapezoid ⟨estimator.previousTimestampUs, previous⟩ (pointOf estimator.biasRadS sample) / 1000000
  bias : next.biasRadS = estimator.biasRadS
  last : next.previousTimestampUs = sample.timestampUs
  rate : next.previousRateRadS = some (pointOf estimator.biasRadS sample).rateRadS
  valid : next.state.valid = estimator.state.valid
  seeded : next.seeded = estimator.seeded

/-- The sample is refused. -/
structure Refuses (estimator next : ExactAttitudeEstimator) : Prop where
  invalid : next.state.valid = false
  estimate : next.state.rollEstimateLiftoffRelativeUnwrappedRad =
    estimator.state.rollEstimateLiftoffRelativeUnwrappedRad

/-- The end of `accept` integrates the trapezoid, unless the rate before is not finite. -/
theorem integrate_cases {estimator : ExactAttitudeEstimator} {sample : GyroSample} {rate : ℚ}
    (later : estimator.previousTimestampUs < sample.timestampUs)
    (point : (pointOf estimator.biasRadS sample).rateRadS = rate) {area : ℚ → ℚ}
    (areas : ∀ previous, area previous =
      trapezoid ⟨estimator.previousTimestampUs, previous⟩ (pointOf estimator.biasRadS sample) /
        1000000) :
    let result := estimator.integrate sample rate (estimator.previousRateRadS.map area)
    (result.1 = true ∧ Integrates estimator sample result.2) ∨
      (result.1 = false ∧ Refuses estimator result.2) := by
  cases known : estimator.previousRateRadS with
  | none => exact .inr ⟨rfl, rfl, rfl⟩
  | some previous =>
      refine .inl ⟨rfl, later, ⟨previous, known, ?_⟩, rfl, rfl, ?_, rfl, rfl⟩
      · rw [← areas]
        rfl
      · rw [point]
        rfl

/-- A sample that is not refused is integrated. -/
theorem acceptCounted_cases (estimator : ExactAttitudeEstimator) (sample : GyroSample) :
    ((estimator.acceptCounted sample).1 = true ∧
        Integrates estimator sample (estimator.acceptCounted sample).2) ∨
      ((estimator.acceptCounted sample).1 = false ∧
        Refuses estimator (estimator.acceptCounted sample).2) := by
  unfold acceptCounted
  split
  · exact .inr ⟨rfl, rfl, rfl⟩
  split
  · exact .inr ⟨rfl, rfl, rfl⟩
  · exact .inr ⟨rfl, rfl, rfl⟩
  rename_i raw valid finite
  split
  · exact .inr ⟨rfl, rfl, rfl⟩
  split
  · exact .inr ⟨rfl, rfl, rfl⟩
  split
  · exact .inr ⟨rfl, rfl, rfl⟩
  rename_i early
  have later := Nat.not_le.mp early
  have rate : (pointOf estimator.biasRadS sample).rateRadS = raw - estimator.biasRadS := by
    rw [pointOf, finite]
    rfl
  dsimp only
  split
  · rename_i once
    rw [Bool.and_eq_true] at once
    refine integrate_cases later rate fun previous => ?_
    rw [trapezoid_of_once once.1, rate]
    show _ = _ / 2 * ((sample.timestampUs - estimator.previousTimestampUs : ℕ) : ℚ) / _
    ring
  split
  · rename_i twice
    rw [Bool.and_eq_true] at twice
    have counted := @integrate_cases
      { estimator with
        state.interpolatedSampleCount := estimator.state.interpolatedSampleCount + 1
        state.dataLossEventCount := estimator.state.dataLossEventCount + 1 } sample _ later rate
      (fun previous => (previous + (raw - estimator.biasRadS)) * (1 / 1000)) fun previous => by
        rw [trapezoid_of_twice twice.1, rate]
        ring
    exact counted.imp
      (fun taken => ⟨taken.1, taken.2.later, taken.2.estimate, taken.2.bias, taken.2.last,
        taken.2.rate, taken.2.valid, taken.2.seeded⟩)
      fun refused => ⟨refused.1, refused.2.invalid, refused.2.estimate⟩
  · refine .inr ⟨rfl, rfl, ?_⟩
    split <;> rfl

theorem accept_cases (estimator : ExactAttitudeEstimator) (sample : GyroSample) :
    ((estimator.accept sample).1 = true ∧ Integrates estimator sample (estimator.accept sample).2) ∨
      ((estimator.accept sample).1 = false ∧ Refuses estimator (estimator.accept sample).2) := by
  unfold accept
  split
  · exact (acceptCounted_cases _ sample).imp
      (fun taken => ⟨taken.1, taken.2.later, taken.2.estimate, taken.2.bias, taken.2.last,
        taken.2.rate, taken.2.valid, taken.2.seeded⟩)
      fun refused => ⟨refused.1, refused.2.invalid, refused.2.estimate⟩
  · exact acceptCounted_cases estimator sample

/-! ### What a sequence of samples adds -/

/-- The trapezoids between successive points, from one point on -/
def trapezoids (first : RatePoint) (points : List RatePoint) : ℚ :=
  (((first :: points).zip points).map fun pair => trapezoid pair.1 pair.2).sum

theorem trapezoids_cons (first next : RatePoint) (points : List RatePoint) :
    trapezoids first (next :: points) = trapezoid first next + trapezoids next points := rfl

/-- The calls of `update`, one after the other, and whether all have returned true -/
def updates (estimator : ExactAttitudeEstimator) : List GyroSample → Bool × ExactAttitudeEstimator
  | [] => (true, estimator)
  | sample :: rest =>
      let updated := estimator.update sample
      let last := updates updated.2 rest
      (updated.1 && last.1, last.2)

theorem updates_append (estimator : ExactAttitudeEstimator) (first second : List GyroSample) :
    estimator.updates (first ++ second) =
      ((estimator.updates first).1 && ((estimator.updates first).2.updates second).1,
        ((estimator.updates first).2.updates second).2) := by
  induction first generalizing estimator with
  | nil => simp [updates]
  | cons sample rest inductionHypothesis =>
      simp only [List.cons_append, updates, inductionHypothesis, Bool.and_assoc]

/-- An invalid estimator refuses all samples and stays as it is. -/
theorem updates_of_invalid {estimator : ExactAttitudeEstimator}
    (invalid : estimator.state.valid = false) (samples : List GyroSample) :
    (estimator.updates samples).2 = estimator ∧
      ((estimator.updates samples).1 = true → samples = []) := by
  induction samples with
  | nil => exact ⟨rfl, fun _ => rfl⟩
  | cons sample rest inductionHypothesis =>
      have refused : estimator.update sample = (false, estimator) := by
        rw [update, invalid]
        rfl
      simp only [updates, refused]
      exact ⟨inductionHypothesis.1, nofun⟩

/-- The estimator can take samples after the liftoff. -/
structure Flying (liftoffTimeUs : ℕ) (estimator : ExactAttitudeEstimator) : Prop where
  valid : estimator.state.valid = true
  seeded : estimator.seeded = true
  begun : liftoffTimeUs ≤ estimator.previousTimestampUs

theorem Flying.update_eq {liftoffTimeUs : ℕ} {estimator : ExactAttitudeEstimator}
    (flying : Flying liftoffTimeUs estimator) (sample : GyroSample) :
    estimator.update sample = estimator.accept sample := by
  rw [update, flying.valid, flying.seeded]
  rfl

theorem Flying.next {liftoffTimeUs : ℕ} {estimator next : ExactAttitudeEstimator}
    (flying : Flying liftoffTimeUs estimator) {sample : GyroSample}
    (taken : Integrates estimator sample next) : Flying liftoffTimeUs next := by
  refine ⟨taken.valid.trans flying.valid, taken.seeded.trans flying.seeded, ?_⟩
  rw [taken.last]
  exact flying.begun.trans taken.later.le

/-- Samples that are all taken are all later than the liftoff, and their trapezoids are added. -/
theorem Flying.updates_taken {liftoffTimeUs : ℕ} {estimator : ExactAttitudeEstimator}
    (flying : Flying liftoffTimeUs estimator) {samples : List GyroSample}
    (taken : (estimator.updates samples).1 = true) :
    (∀ sample ∈ samples, liftoffTimeUs < sample.timestampUs) ∧
      ∀ rate, (∀ previous, estimator.previousRateRadS = some previous → previous = rate) →
        (estimator.updates samples).2.state.rollEstimateLiftoffRelativeUnwrappedRad =
          estimator.state.rollEstimateLiftoffRelativeUnwrappedRad +
            trapezoids ⟨estimator.previousTimestampUs, rate⟩
              (samples.map (pointOf estimator.biasRadS)) / 1000000 := by
  induction samples generalizing estimator with
  | nil =>
      refine ⟨nofun, fun rate _ => ?_⟩
      simp [updates, trapezoids]
  | cons sample rest inductionHypothesis =>
      simp only [updates, flying.update_eq, Bool.and_eq_true] at taken ⊢
      rcases accept_cases estimator sample with ⟨-, integrated⟩ | ⟨refused, -⟩
      · obtain ⟨later, sums⟩ := inductionHypothesis (flying.next integrated) taken.2
        refine ⟨?_, fun rate known => ?_⟩
        · intro other within
          rcases List.mem_cons.mp within with rfl | further
          · exact flying.begun.trans_lt integrated.later
          · exact later other further
        · obtain ⟨previous, rated, added⟩ := integrated.estimate
          obtain rfl := known previous rated
          have sum := sums (pointOf estimator.biasRadS sample).rateRadS fun following same =>
            Option.some.inj (same.symm.trans integrated.rate)
          rw [sum, added, integrated.last, integrated.bias, List.map_cons, trapezoids_cons]
          have point : (⟨sample.timestampUs, (pointOf estimator.biasRadS sample).rateRadS⟩ :
              RatePoint) = pointOf estimator.biasRadS sample := rfl
          rw [point]
          ring
      · rw [refused] at taken
        exact absurd taken.1 Bool.false_ne_true

/-! ### The history and the updates -/

/-- Later than the liftoff -/
def isLater (liftoffTimeUs : ℕ) (sample : GyroSample) : Bool := liftoffTimeUs < sample.timestampUs

/-- The loop over the history does what `update` does with its samples after the liftoff. -/
theorem Flying.replay_eq {liftoffTimeUs : ℕ} {estimator : ExactAttitudeEstimator}
    (flying : Flying liftoffTimeUs estimator) (samples : List GyroSample) :
    replay liftoffTimeUs estimator samples =
      estimator.updates (samples.filter (isLater liftoffTimeUs)) := by
  induction samples generalizing estimator with
  | nil =>
      rw [replay, flying.valid]
      rfl
  | cons sample rest inductionHypothesis =>
      by_cases later : liftoffTimeUs < sample.timestampUs
      · have kept : (sample :: rest).filter (isLater liftoffTimeUs) =
            sample :: rest.filter (isLater liftoffTimeUs) :=
          List.filter_cons_of_pos (by simpa [isLater] using later)
        rw [kept, replay, if_pos later, updates, flying.update_eq]
        have judged := accept_cases estimator sample
        obtain ⟨result, accepts⟩ : ∃ result, estimator.accept sample = result := ⟨_, rfl⟩
        rw [accepts] at judged ⊢
        obtain ⟨ok, next⟩ := result
        rcases judged with ⟨rfl, integrated⟩ | ⟨rfl, refused⟩
        · exact inductionHypothesis (flying.next integrated)
        · dsimp only
          rw [(updates_of_invalid refused.invalid _).1, Bool.false_and]
      · have skipped : (sample :: rest).filter (isLater liftoffTimeUs) =
            rest.filter (isLater liftoffTimeUs) :=
          List.filter_cons_of_neg (by simpa [isLater] using later)
        rw [skipped, replay, if_neg later]
        exact inductionHypothesis flying

/-- A sample that can be the seed -/
def isSeed (liftoffTimeUs : ℕ) (sample : GyroSample) : Bool :=
  sample.timestampUs ≤ liftoffTimeUs && sample.valid && !sample.saturated && !sample.formatFault

/-- The seed is the last of its kind. -/
theorem seedOf_eq_getLast (liftoffTimeUs : ℕ) (samples : List GyroSample) :
    AttitudeEstimator.seedOf liftoffTimeUs samples =
      (samples.filter (isSeed liftoffTimeUs)).getLast? := by
  induction samples using List.reverseRecOn with
  | nil => rfl
  | append_singleton samples sample inductionHypothesis =>
      rw [AttitudeEstimator.seedOf] at inductionHypothesis ⊢
      rw [List.foldl_concat, inductionHypothesis, List.filter_append]
      split
      · rename_i seeds
        have kept : [sample].filter (isSeed liftoffTimeUs) = [sample] :=
          List.filter_cons_of_pos seeds
        rw [kept, List.getLast?_concat]
      · rename_i other
        have dropped : [sample].filter (isSeed liftoffTimeUs) = [] :=
          List.filter_cons_of_neg other
        rw [dropped, List.append_nil]

/-- A flight whose history holds some samples and that is updated with more: whether all was accepted, and
the estimator after it -/
def flown (history : GyroHistoryRing) (liftoffTimeUs : ℕ) (gyroBiasRadS : Double)
    (live : List GyroSample) : Bool × ExactAttitudeEstimator :=
  let begun := beginFlight history liftoffTimeUs gyroBiasRadS
  let last := begun.2.updates live
  (begun.1 && last.1, last.2)

theorem flying_atLiftoff (seed : GyroSample) (liftoffTimeUs : ℕ) (bias : ℚ) :
    Flying liftoffTimeUs (atLiftoff seed liftoffTimeUs bias) :=
  ⟨rfl, rfl, le_rfl⟩

/-- A flight that has a seed takes the samples of the history after the liftoff, and then the others. -/
theorem flown_of_seed {history : GyroHistoryRing} {liftoffTimeUs : ℕ} {gyroBiasRadS : Double}
    {bias : ℚ} (finite : exactly gyroBiasRadS = some bias) {seed : GyroSample}
    (seeds : AttitudeEstimator.seedOf liftoffTimeUs history.chronological = some seed)
    (live : List GyroSample) :
    flown history liftoffTimeUs gyroBiasRadS live =
      (atLiftoff seed liftoffTimeUs bias).updates
        (history.chronological.filter (isLater liftoffTimeUs) ++ live) := by
  have begun : beginFlight history liftoffTimeUs gyroBiasRadS =
      (atLiftoff seed liftoffTimeUs bias).updates
        (history.chronological.filter (isLater liftoffTimeUs)) := by
    rw [beginFlight, finite, seeds]
    exact (flying_atLiftoff seed liftoffTimeUs bias).replay_eq _
  rw [flown, begun, updates_append]

/-- A flight that is all accepted has a seed, and its updates come after the liftoff. -/
theorem begun_of_accepted {history : GyroHistoryRing} {liftoffTimeUs : ℕ} {gyroBiasRadS : Double}
    {live : List GyroSample} (accepted : (flown history liftoffTimeUs gyroBiasRadS live).1 = true) :
    (∀ sample ∈ live, liftoffTimeUs < sample.timestampUs) ∧
      ∃ bias seed, exactly gyroBiasRadS = some bias ∧
        AttitudeEstimator.seedOf liftoffTimeUs history.chronological = some seed := by
  cases finite : exactly gyroBiasRadS with
  | none =>
      rw [flown, beginFlight, finite] at accepted
      cases accepted
  | some bias =>
      cases seeds : AttitudeEstimator.seedOf liftoffTimeUs history.chronological with
      | none =>
          rw [flown, beginFlight, finite, seeds] at accepted
          cases accepted
      | some seed =>
          rw [flown_of_seed finite seeds] at accepted
          have later := ((flying_atLiftoff seed liftoffTimeUs bias).updates_taken accepted).1
          exact ⟨fun sample within => later sample (List.mem_append_right _ within), bias, seed, rfl, rfl⟩

/-- Updates after the liftoff do not change which samples begin the flight. -/
theorem seeds_append {liftoffTimeUs : ℕ} {live : List GyroSample}
    (after : ∀ sample ∈ live, liftoffTimeUs < sample.timestampUs) (samples : List GyroSample) :
    (samples ++ live).filter (isSeed liftoffTimeUs) = samples.filter (isSeed liftoffTimeUs) ∧
      (samples ++ live).filter (isLater liftoffTimeUs) =
        samples.filter (isLater liftoffTimeUs) ++ live := by
  have kept : live.filter (isLater liftoffTimeUs) = live :=
    List.filter_eq_self.mpr fun sample within => decide_eq_true (after sample within)
  have unseeding : live.filter (isSeed liftoffTimeUs) = [] :=
    List.filter_eq_nil_iff.mpr fun sample within => by
      simp [isSeed, Nat.not_le.mpr (after sample within)]
  rw [List.filter_append, List.filter_append, kept, unseeding, List.append_nil]
  exact ⟨rfl, rfl⟩

/-- A flight whose updates come after the liftoff depends on the samples alone. -/
theorem flown_of_later {history : GyroHistoryRing} {liftoffTimeUs : ℕ} {gyroBiasRadS : Double}
    {live : List GyroSample} (after : ∀ sample ∈ live, liftoffTimeUs < sample.timestampUs) {bias : ℚ}
    (finite : exactly gyroBiasRadS = some bias) {seed : GyroSample}
    (seeds : ((history.chronological ++ live).filter (isSeed liftoffTimeUs)).getLast? = some seed) :
    flown history liftoffTimeUs gyroBiasRadS live =
      (atLiftoff seed liftoffTimeUs bias).updates
        ((history.chronological ++ live).filter (isLater liftoffTimeUs)) := by
  obtain ⟨seeding, later⟩ := seeds_append after history.chronological
  rw [seeding, ← seedOf_eq_getLast] at seeds
  rw [later, flown_of_seed finite seeds]

/-! ### Once invalid -/

/-- A call that is no `beginFlight` -/
inductive Call where
  | update (sample : GyroSample)
  | invalidateForReset

def call (estimator : ExactAttitudeEstimator) : Call → ExactAttitudeEstimator
  | .update sample => (estimator.update sample).2
  | .invalidateForReset => estimator.invalidateForReset

/-- A call after which the estimator is invalid has left the estimate as it was. -/
theorem estimate_of_invalid {estimator : ExactAttitudeEstimator} {label : Call}
    (invalid : (estimator.call label).state.valid = false) :
    (estimator.call label).state.rollEstimateLiftoffRelativeUnwrappedRad =
      estimator.state.rollEstimateLiftoffRelativeUnwrappedRad := by
  cases label with
  | invalidateForReset => rfl
  | update sample =>
      simp only [call, update] at invalid ⊢
      split
      · rfl
      · rename_i live
        rw [if_neg live] at invalid
        simp only [Bool.or_eq_true, Bool.not_eq_true', not_or, Bool.not_eq_false] at live
        rcases accept_cases estimator sample with ⟨-, integrated⟩ | ⟨-, refused⟩
        · rw [integrated.valid, live.1] at invalid
          cases invalid
        · exact refused.estimate

/-- An invalid estimator stays invalid. -/
theorem invalid_call {estimator : ExactAttitudeEstimator} (invalid : estimator.state.valid = false)
    (label : Call) : (estimator.call label).state.valid = false := by
  cases label with
  | invalidateForReset => rfl
  | update sample =>
      rw [call, update, invalid]
      exact invalid

/-- An invalid estimator stays so through all calls until the next `beginFlight`, and keeps its
estimate. -/
theorem invalid_after {estimator : ExactAttitudeEstimator} (invalid : estimator.state.valid = false)
    (calls : List Call) :
    (Run.after call estimator calls).state.valid = false ∧
      (Run.after call estimator calls).state.rollEstimateLiftoffRelativeUnwrappedRad =
        estimator.state.rollEstimateLiftoffRelativeUnwrappedRad := by
  induction calls using List.reverseRecOn with
  | nil => exact ⟨invalid, rfl⟩
  | append_singleton calls last inductionHypothesis =>
      rw [Run.after_concat]
      have still := invalid_call inductionHypothesis.1 last
      exact ⟨still, (estimate_of_invalid still).trans inductionHypothesis.2⟩

/-! ### The whole -/

/-- The ring after some pushes -/
def recording (pushed : List GyroSample) : GyroHistoryRing := pushed.foldl GyroHistoryRing.push {}

/-- What the ring keeps of them -/
def recorded (pushed : List GyroSample) : List GyroSample := pushed.drop (pushed.length - kCapacity)

theorem chronological_recording (pushed : List GyroSample) :
    (recording pushed).chronological = recorded pushed :=
  GyroHistoryRing.chronological_eq (GyroHistoryRing.recalls_foldl pushed)

/-- A flight that is all accepted is begun at the seed of the whole sequence, and takes what comes after the
liftoff. -/
theorem flown_of_accepted {pushed live : List GyroSample} {liftoffTimeUs : ℕ} {gyroBiasRadS : Double}
    (accepted : (flown (recording pushed) liftoffTimeUs gyroBiasRadS live).1 = true) :
    ∃ bias seed, exactly gyroBiasRadS = some bias ∧
      ((recorded pushed ++ live).filter (isSeed liftoffTimeUs)).getLast? = some seed ∧
      flown (recording pushed) liftoffTimeUs gyroBiasRadS live =
        (atLiftoff seed liftoffTimeUs bias).updates
          ((recorded pushed ++ live).filter (isLater liftoffTimeUs)) := by
  obtain ⟨after, bias, seed, finite, seeds⟩ := begun_of_accepted accepted
  have whole : ((recorded pushed ++ live).filter (isSeed liftoffTimeUs)).getLast? = some seed := by
    rw [(seeds_append after _).1, ← seedOf_eq_getLast, ← chronological_recording]
    exact seeds
  refine ⟨bias, seed, finite, whole, ?_⟩
  rw [← chronological_recording] at whole ⊢
  exact flown_of_later after finite whole

/-- The rate of the seed is the one that the estimator has at the liftoff. -/
theorem rate_atLiftoff (seed : GyroSample) (liftoffTimeUs : ℕ) (bias : ℚ) {previous : ℚ}
    (known : (atLiftoff seed liftoffTimeUs bias).previousRateRadS = some previous) :
    previous = (pointOf bias seed).rateRadS := by
  obtain ⟨raw, finite, rfl⟩ := Option.map_eq_some_iff.mp known
  rw [pointOf, finite]
  rfl

/-- In exact arithmetic: when a history and the updates after it are accepted, the estimate is the sum of the
trapezoids over the samples after the liftoff, from the last valid sample up to the liftoff, whose rate holds
until the liftoff; another history and other updates that make the same sequence are accepted exactly when
those updates come after the liftoff, and leave the same estimator; and an estimator that a call leaves invalid
keeps its estimate, and stays so until the next `beginFlight`. -/
theorem replay_equivalence :
    (∀ pushed live liftoffTimeUs gyroBiasRadS,
        (flown (recording pushed) liftoffTimeUs gyroBiasRadS live).1 = true →
        ∃ bias seed, exactly gyroBiasRadS = some bias ∧
          ((recorded pushed ++ live).filter (isSeed liftoffTimeUs)).getLast? = some seed ∧
          (flown (recording pushed) liftoffTimeUs gyroBiasRadS
              live).2.state.rollEstimateLiftoffRelativeUnwrappedRad =
            trapezoids ⟨liftoffTimeUs, (pointOf bias seed).rateRadS⟩
              (((recorded pushed ++ live).filter (isLater liftoffTimeUs)).map (pointOf bias)) /
                1000000) ∧
      (∀ pushed live others rest liftoffTimeUs gyroBiasRadS,
        recorded pushed ++ live = recorded others ++ rest →
        (flown (recording pushed) liftoffTimeUs gyroBiasRadS live).1 = true →
        ((flown (recording others) liftoffTimeUs gyroBiasRadS rest).1 = true ↔
            ∀ sample ∈ rest, liftoffTimeUs < sample.timestampUs) ∧
          ((flown (recording others) liftoffTimeUs gyroBiasRadS rest).1 = true →
            flown (recording others) liftoffTimeUs gyroBiasRadS rest =
              flown (recording pushed) liftoffTimeUs gyroBiasRadS live)) ∧
      (∀ (estimator : ExactAttitudeEstimator) (label : Call),
        (estimator.call label).state.valid = false →
        (estimator.call label).state.rollEstimateLiftoffRelativeUnwrappedRad =
          estimator.state.rollEstimateLiftoffRelativeUnwrappedRad) ∧
      ∀ estimator : ExactAttitudeEstimator, estimator.state.valid = false → ∀ calls : List Call,
        (Run.after call estimator calls).state.valid = false ∧
          (Run.after call estimator calls).state.rollEstimateLiftoffRelativeUnwrappedRad =
            estimator.state.rollEstimateLiftoffRelativeUnwrappedRad := by
  refine ⟨?_, ?_, fun _ _ => estimate_of_invalid, fun _ invalid => invalid_after invalid⟩
  · intro pushed live liftoffTimeUs gyroBiasRadS accepted
    obtain ⟨bias, seed, finite, seeds, taken⟩ := flown_of_accepted accepted
    refine ⟨bias, seed, finite, seeds, ?_⟩
    rw [taken] at accepted ⊢
    have sums := ((flying_atLiftoff seed liftoffTimeUs bias).updates_taken accepted).2
      (pointOf bias seed).rateRadS fun previous => rate_atLiftoff seed liftoffTimeUs bias
    exact sums.trans (zero_add _)
  · intro pushed live others rest liftoffTimeUs gyroBiasRadS same accepted
    obtain ⟨bias, seed, finite, seeds, taken⟩ := flown_of_accepted accepted
    have equal : (∀ sample ∈ rest, liftoffTimeUs < sample.timestampUs) →
        flown (recording others) liftoffTimeUs gyroBiasRadS rest =
          flown (recording pushed) liftoffTimeUs gyroBiasRadS live := by
      intro after
      rw [same, ← chronological_recording] at seeds taken
      exact (flown_of_later after finite seeds).trans taken.symm
    refine ⟨⟨fun also => (begun_of_accepted also).1, fun after => ?_⟩, fun also => ?_⟩
    · rw [equal after]
      exact accepted
    · exact equal (begun_of_accepted also).1

/-- A turn at 1 rad/s in the history, and 2 ms of which one sample was lost after it -/
example :
    let turning (timestampUs : ℕ) (lostPackets : UInt16) : GyroSample :=
      { timestampUs, rollRateRadS := .finite 1, lostPackets, valid := true }
    let flight := flown (recording [turning 1000 0, turning 2000 0]) 1000 .zero [turning 4000 1]
    flight.1 = true ∧ flight.2.state.rollEstimateLiftoffRelativeUnwrappedRad = 3 / 1000 := by
  decide +kernel

end ExactAttitudeEstimator

end MissionBoard.Sensors
