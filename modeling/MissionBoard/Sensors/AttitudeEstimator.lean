import MissionBoard.Library.RingBuffer
import MissionBoard.Numeric.DoubleArithmetic

/-!
Owns `GyroHistoryRing` and `AttitudeEstimator` of `sensors/attitude_estimator.cpp`: the last 1200
samples of the gyro, and the roll angle since the liftoff that is integrated from them.
-/

namespace MissionBoard.Sensors

/-- `GyroSample` -/
structure GyroSample where
  timestampUs : ℕ := 0
  rollRateRadS : Double := .zero
  timestampEpoch : UInt32 := 0
  lostPackets : UInt16 := 0
  valid : Bool := false
  saturated : Bool := false
  fifoFull : Bool := false
  formatFault : Bool := false
deriving DecidableEq

/-- `GyroHistoryRing::kCapacity` -/
def kCapacity : ℕ := 1200

/-- `GyroHistoryRing` -/
structure GyroHistoryRing where
  samples : ℕ → GyroSample := fun _ => {}
  head : ℕ := 0
  count : ℕ := 0

namespace GyroHistoryRing

/-- `push` -/
def push (ring : GyroHistoryRing) (sample : GyroSample) : GyroHistoryRing where
  samples := Function.update ring.samples ring.head sample
  head := (ring.head + 1) % kCapacity
  count := if ring.count < kCapacity then ring.count + 1 else ring.count

/-- `at` -/
def sampleAt (ring : GyroHistoryRing) (chronologicalIndex : ℕ) : GyroSample :=
  let oldest :=
    if ring.count = kCapacity then ring.head else (ring.head + kCapacity - ring.count) % kCapacity
  ring.samples ((oldest + chronologicalIndex) % kCapacity)

/-- The samples in the order in which a loop over `at` reads them -/
def chronological (ring : GyroHistoryRing) : List GyroSample :=
  (List.range ring.count).map ring.sampleAt

end GyroHistoryRing

namespace GyroHistoryRing

/-- The ring holds the last of the samples that were pushed. -/
structure Recalls (ring : GyroHistoryRing) (pushed : List GyroSample) : Prop where
  head : ring.head = pushed.length % kCapacity
  count : ring.count = min pushed.length kCapacity
  holds : RingBuffer.Holds ring.samples kCapacity (pushed.length - kCapacity) pushed

theorem recalls_push {ring : GyroHistoryRing} {pushed : List GyroSample}
    (recalls : ring.Recalls pushed) (sample : GyroSample) :
    (ring.push sample).Recalls (pushed ++ [sample]) := by
  obtain ⟨head, count, holds⟩ := recalls
  have longer : (pushed ++ [sample]).length = pushed.length + 1 := by
    rw [List.length_append, List.length_singleton]
  constructor
  · rw [longer]
    simp only [push, head, kCapacity]
    omega
  · rw [longer]
    simp only [push, count, kCapacity]
    split <;> omega
  · rw [longer]
    have given : RingBuffer.Holds ring.samples kCapacity (pushed.length + 1 - kCapacity) pushed :=
      holds.consume (Nat.sub_le_sub_right (Nat.le_succ _) _)
    have room : pushed.length < pushed.length + 1 - kCapacity + kCapacity := by omega
    have stored := given.store room sample
    rw [← head] at stored
    refine stored.publish ?_
    rw [← head]
    exact Function.update_self _ _ _

theorem recalls_foldl (pushed : List GyroSample) :
    (pushed.foldl push {}).Recalls pushed := by
  induction pushed using List.reverseRecOn with
  | nil => exact ⟨rfl, rfl, RingBuffer.holds_nil⟩
  | append_singleton pushed sample inductionHypothesis =>
      rw [List.foldl_append]
      exact recalls_push inductionHypothesis sample

/-- A loop over the ring reads the last 1200 samples in the order in which they came. -/
theorem chronological_eq {ring : GyroHistoryRing} {pushed : List GyroSample}
    (recalls : ring.Recalls pushed) :
    ring.chronological = pushed.drop (pushed.length - kCapacity) := by
  obtain ⟨head, count, holds⟩ := recalls
  have length : ring.chronological.length =
      (pushed.drop (pushed.length - kCapacity)).length := by
    rw [chronological, List.length_map, List.length_range, List.length_drop, count]
    omega
  apply List.ext_getElem length
  intro index below within
  have bound : index < min pushed.length kCapacity := by
    rw [chronological, List.length_map, List.length_range, count] at below
    exact below
  have inside : pushed.length - kCapacity + index < pushed.length := by omega
  have slot := holds (pushed.length - kCapacity + index) inside (Nat.le_add_right _ _)
  rw [List.getElem_drop, ← slot]
  simp only [chronological, List.getElem_map, List.getElem_range, sampleAt, head, count]
  have place : ((if min pushed.length kCapacity = kCapacity then pushed.length % kCapacity
      else (pushed.length % kCapacity + kCapacity - min pushed.length kCapacity) % kCapacity) +
        index) % kCapacity = (pushed.length - kCapacity + index) % kCapacity := by
    by_cases full : min pushed.length kCapacity = kCapacity
    · rw [if_pos full]
      simp only [kCapacity] at full bound ⊢
      omega
    · rw [if_neg full]
      simp only [kCapacity] at full bound ⊢
      omega
  rw [place]

end GyroHistoryRing

/-- `AttitudeInvalidReason` -/
inductive AttitudeInvalidReason where
  | none
  | historyUnavailable
  | sampleInvalid
  | saturated
  | fifoFormatFault
  | excessDataLoss
  | timestampInvalid
  | timestampEpochChanged
  | numericError
  | resetInvalidated
deriving DecidableEq

/-- `AttitudeState` -/
structure AttitudeState where
  rollEstimateLiftoffRelativeUnwrappedRad : Double := .zero
  rollRateRadS : Double := .zero
  timestampUs : ℕ := 0
  interpolatedSampleCount : UInt32 := 0
  dataLossEventCount : UInt32 := 0
  fifoFullEventCount : UInt32 := 0
  invalidReason : AttitudeInvalidReason := .historyUnavailable
  valid : Bool := false
deriving DecidableEq

/-- `AttitudeEstimator` -/
structure AttitudeEstimator where
  state : AttitudeState := {}
  biasRadS : Double := .zero
  previousRateRadS : Double := .zero
  previousTimestampUs : ℕ := 0
  timestampEpoch : UInt32 := 0
  seeded : Bool := false
deriving DecidableEq

/-- `nearPeriod` -/
def nearPeriod (deltaUs periods : ℕ) : Bool :=
  periods * 1000 - 250 ≤ deltaUs && deltaUs ≤ periods * 1000 + 250

namespace AttitudeEstimator

/-- `invalidate` -/
def invalidate (estimator : AttitudeEstimator) (reason : AttitudeInvalidReason) :
    AttitudeEstimator :=
  { estimator with state.valid := false, state.invalidReason := reason }

/-- The end of `accept`, for an increment of the angle -/
def integrate (estimator : AttitudeEstimator) (sample : GyroSample) (rate increment : Double) :
    Bool × AttitudeEstimator :=
  if !increment.isFinite then (false, estimator.invalidate .numericError)
  else
    (true,
      { estimator with
        state.rollEstimateLiftoffRelativeUnwrappedRad :=
          estimator.state.rollEstimateLiftoffRelativeUnwrappedRad.add increment
        state.rollRateRadS := rate
        state.timestampUs := sample.timestampUs
        previousTimestampUs := sample.timestampUs
        previousRateRadS := rate })

/-- `accept`, with `fifo_full` counted -/
def acceptCounted (estimator : AttitudeEstimator) (sample : GyroSample) : Bool × AttitudeEstimator :=
  if sample.formatFault then (false, estimator.invalidate .fifoFormatFault)
  else if !sample.valid || !sample.rollRateRadS.isFinite then
    (false, estimator.invalidate .sampleInvalid)
  else if sample.saturated then (false, estimator.invalidate .saturated)
  else if sample.timestampEpoch ≠ estimator.timestampEpoch then
    (false, estimator.invalidate .timestampEpochChanged)
  else if sample.timestampUs ≤ estimator.previousTimestampUs then
    (false, estimator.invalidate .timestampInvalid)
  else
    let deltaUs := sample.timestampUs - estimator.previousTimestampUs
    let rate := sample.rollRateRadS.sub estimator.biasRadS
    if nearPeriod deltaUs 1 && sample.lostPackets = 0 then
      estimator.integrate sample rate
        ((((Double.finite (1 / 2)).mul (estimator.previousRateRadS.add rate)).mul
          (Double.rounded deltaUs)).mul (Double.rounded (1 / 1000000)))
    else if nearPeriod deltaUs 2 && sample.lostPackets ≤ 1 then
      { estimator with
        state.interpolatedSampleCount := estimator.state.interpolatedSampleCount + 1
        state.dataLossEventCount := estimator.state.dataLossEventCount + 1 }.integrate sample rate
        ((estimator.previousRateRadS.add rate).mul (Double.rounded (1 / 1000)))
    else
      let counted :=
        if sample.lostPackets ≠ 0 then
          { estimator with state.dataLossEventCount := estimator.state.dataLossEventCount + 1 }
        else estimator
      (false, counted.invalidate
        (if sample.lostPackets > 1 then .excessDataLoss else .timestampInvalid))

/-- `accept` -/
def accept (estimator : AttitudeEstimator) (sample : GyroSample) : Bool × AttitudeEstimator :=
  if sample.fifoFull then
    { estimator with
      state.fifoFullEventCount := estimator.state.fifoFullEventCount + 1 }.acceptCounted sample
  else estimator.acceptCounted sample

/-- `update` -/
def update (estimator : AttitudeEstimator) (sample : GyroSample) : Bool × AttitudeEstimator :=
  if !estimator.state.valid || !estimator.seeded then (false, estimator)
  else estimator.accept sample

/-- `invalidateForReset` -/
def invalidateForReset (estimator : AttitudeEstimator) : AttitudeEstimator :=
  estimator.invalidate .resetInvalidated

/-- The first loop of `beginFlight` -/
def seedOf (liftoffTimeUs : ℕ) (samples : List GyroSample) : Option GyroSample :=
  samples.foldl
    (fun seed sample =>
      if sample.timestampUs ≤ liftoffTimeUs && sample.valid && !sample.saturated &&
          !sample.formatFault then
        some sample
      else seed)
    none

/-- The second loop of `beginFlight` -/
def replay (liftoffTimeUs : ℕ) (estimator : AttitudeEstimator) :
    List GyroSample → Bool × AttitudeEstimator
  | [] => (estimator.state.valid, estimator)
  | sample :: rest =>
      if sample.timestampUs > liftoffTimeUs then
        match estimator.accept sample with
        | (true, next) => replay liftoffTimeUs next rest
        | (false, next) => (false, next)
      else replay liftoffTimeUs estimator rest

/-- The estimator at the liftoff -/
def atLiftoff (seed : GyroSample) (liftoffTimeUs : ℕ) (gyroBiasRadS : Double) :
    AttitudeEstimator where
  state := { valid := true, invalidReason := .none, timestampUs := liftoffTimeUs }
  biasRadS := gyroBiasRadS
  previousTimestampUs := liftoffTimeUs
  previousRateRadS := seed.rollRateRadS.sub gyroBiasRadS
  timestampEpoch := seed.timestampEpoch
  seeded := true

/-- `beginFlight`, which forgets what the estimator was -/
def beginFlight (history : GyroHistoryRing) (liftoffTimeUs : ℕ) (gyroBiasRadS : Double) :
    Bool × AttitudeEstimator :=
  if !gyroBiasRadS.isFinite then (false, ({} : AttitudeEstimator).invalidate .numericError)
  else
    match seedOf liftoffTimeUs history.chronological with
    | none =>
        (false, { biasRadS := gyroBiasRadS : AttitudeEstimator }.invalidate .historyUnavailable)
    | some seed =>
        replay liftoffTimeUs (atLiftoff seed liftoffTimeUs gyroBiasRadS) history.chronological

/-! ### A steady stream -/

/-- What the bias and the rates of a gyro never exceed; they come from a `float`. -/
def rateLimit : ℚ := 2 ^ 1000

/-- A sample that is valid, not saturated, of this epoch and without a loss before it -/
structure Usable (epoch : UInt32) (sample : GyroSample) : Prop where
  valid : sample.valid = true
  saturated : sample.saturated = false
  formatFault : sample.formatFault = false
  lost : sample.lostPackets = 0
  epoch : sample.timestampEpoch = epoch
  rate : sample.rollRateRadS.Within rateLimit

/-- Two successive samples are between 750 and 1250 us apart. -/
def Spaced (earlier later : GyroSample) : Prop :=
  earlier.timestampUs + 750 ≤ later.timestampUs ∧ later.timestampUs ≤ earlier.timestampUs + 1250

/-- The estimator is valid, and a sample of this time was the last. -/
structure Follows (estimator : AttitudeEstimator) (epoch : UInt32) (timestampUs : ℕ) : Prop where
  valid : estimator.state.valid = true
  seeded : estimator.seeded = true
  epoch : estimator.timestampEpoch = epoch
  last : estimator.previousTimestampUs = timestampUs
  bias : estimator.biasRadS.Within rateLimit
  rate : estimator.previousRateRadS.Within (4 * rateLimit)

theorem one_le_rateLimit : 1 ≤ rateLimit := one_le_pow₀ one_le_two

theorem rateLimit_finite {factor : ℚ} (small : factor < 2 ^ 24) : factor * rateLimit < Double.overflow := by
  have split : Double.overflow = 2 ^ 24 * rateLimit := by
    rw [rateLimit, ← pow_add, Double.overflow]
  rw [split]
  exact mul_lt_mul_of_pos_right small (zero_lt_one.trans_le one_le_rateLimit)

theorem within_rate {rate bias : Double} (small : rate.Within rateLimit)
    (little : bias.Within rateLimit) : (rate.sub bias).Within (4 * rateLimit) := by
  have one := one_le_rateLimit
  have finite := @rateLimit_finite 4 (by norm_num)
  exact (Double.within_sub small little (by linarith) (by linarith)).mono (by linarith)

/-- The trapezoid between two rates stays finite. -/
theorem isFinite_increment {first second : Double} {deltaUs : ℕ}
    (small : first.Within (4 * rateLimit)) (little : second.Within (4 * rateLimit))
    (short : deltaUs ≤ 1250) :
    ((((Double.finite (1 / 2)).mul (first.add second)).mul (Double.rounded deltaUs)).mul
      (Double.rounded (1 / 1000000))).isFinite = true := by
  have one := one_le_rateLimit
  have finite := @rateLimit_finite 640000 (by norm_num)
  have large : 5000 < Double.overflow := by linarith
  have half : (Double.finite (1 / 2)).Within 1 := ⟨1 / 2, rfl, by norm_num [abs_of_pos]⟩
  have sum : (first.add second).Within (16 * rateLimit) :=
    (Double.within_add small little (by linarith) (by linarith)).mono (by linarith)
  have mean : ((Double.finite (1 / 2)).mul (first.add second)).Within (32 * rateLimit) :=
    (Double.within_mul half sum (by linarith) (by linarith)).mono (by linarith)
  have delta : (Double.rounded deltaUs).Within 2500 := by
    have length : |(deltaUs : ℚ)| ≤ 1250 := by
      rw [abs_of_nonneg (Nat.cast_nonneg _)]
      exact_mod_cast short
    exact (Double.within_rounded length (by norm_num) (by linarith)).mono (by norm_num)
  have area := Double.within_mul mean delta (by linarith) (by linarith)
  have micro : (Double.rounded (1 / 1000000)).Within 2 := by
    have tiny : |(1 / 1000000 : ℚ)| ≤ 1 := by
      rw [abs_of_pos (by norm_num)]
      norm_num
    exact (Double.within_rounded tiny le_rfl (by linarith)).mono (by norm_num)
  exact Double.isFinite_of_within (Double.within_mul area micro (by linarith) (by linarith))

/-- A usable sample one period after the last is accepted. -/
theorem follows_accept {estimator : AttitudeEstimator} {sample : GyroSample} {epoch : UInt32}
    {last : ℕ} (follows : estimator.Follows epoch last) (usable : Usable epoch sample)
    (early : last + 750 ≤ sample.timestampUs) (late : sample.timestampUs ≤ last + 1250) :
    (estimator.accept sample).1 = true ∧
      (estimator.accept sample).2.Follows epoch sample.timestampUs := by
  have counted : ∀ {estimator : AttitudeEstimator}, estimator.Follows epoch last →
      (estimator.acceptCounted sample).1 = true ∧
        (estimator.acceptCounted sample).2.Follows epoch sample.timestampUs := by
    intro estimator follows
    obtain ⟨valid, saturated, fault, lost, sameEpoch, rate⟩ := usable
    obtain ⟨still, seeded, ofEpoch, atLast, bias, previous⟩ := follows
    have finiteRate := Double.isFinite_of_within rate
    have next := within_rate rate bias
    have period : nearPeriod (sample.timestampUs - estimator.previousTimestampUs) 1 = true := by
      rw [atLast]
      simp only [nearPeriod, Bool.and_eq_true, decide_eq_true_eq]
      omega
    have finite := isFinite_increment previous next
      (show sample.timestampUs - estimator.previousTimestampUs ≤ 1250 by omega)
    have later : ¬ sample.timestampUs ≤ estimator.previousTimestampUs := by omega
    have same : ¬ sample.timestampEpoch ≠ estimator.timestampEpoch :=
      not_not_intro (sameEpoch.trans ofEpoch.symm)
    simp only [acceptCounted, fault, valid, finiteRate, saturated, period, lost, integrate, finite,
      if_neg later, if_neg same]
    exact ⟨rfl, still, seeded, ofEpoch, rfl, bias, next⟩
  unfold accept
  split
  · obtain ⟨valid, seeded, ofEpoch, atLast, bias, rate⟩ := follows
    exact counted ⟨valid, seeded, ofEpoch, atLast, bias, rate⟩
  · exact counted follows

/-- A sample that comes too early for one period after the last is not. -/
theorem refuses_early {estimator : AttitudeEstimator} {sample : GyroSample} {epoch : UInt32}
    {last : ℕ} (follows : estimator.Follows epoch last) (early : sample.timestampUs < last + 750) :
    (estimator.accept sample).1 = false ∧ (estimator.accept sample).2.state.valid = false := by
  have counted : ∀ {estimator : AttitudeEstimator}, estimator.previousTimestampUs = last →
      (estimator.acceptCounted sample).1 = false ∧
        (estimator.acceptCounted sample).2.state.valid = false := by
    intro estimator atLast
    have once : nearPeriod (sample.timestampUs - estimator.previousTimestampUs) 1 = false := by
      rw [atLast]
      simp only [nearPeriod, Bool.and_eq_false_iff, decide_eq_false_iff_not]
      omega
    have twice : nearPeriod (sample.timestampUs - estimator.previousTimestampUs) 2 = false := by
      rw [atLast]
      simp only [nearPeriod, Bool.and_eq_false_iff, decide_eq_false_iff_not]
      omega
    unfold acceptCounted
    dsimp only
    rw [once, twice]
    repeat' split
    all_goals first
      | exact ⟨rfl, rfl⟩
      | exact absurd ‹_› (by simp)
  unfold accept
  split
  · exact counted follows.last
  · exact counted follows.last

/-- The estimator after more samples -/
def updated (estimator : AttitudeEstimator) (samples : List GyroSample) : AttitudeEstimator :=
  samples.foldl (fun estimator sample => (estimator.update sample).2) estimator

theorem updated_of_invalid {estimator : AttitudeEstimator} (invalid : estimator.state.valid = false)
    (samples : List GyroSample) : estimator.updated samples = estimator := by
  induction samples with
  | nil => rfl
  | cons sample rest inductionHypothesis =>
      have still : (estimator.update sample).2 = estimator := by
        rw [update, invalid]
        rfl
      rw [updated, List.foldl_cons, still]
      exact inductionHypothesis

/-- What both loops of the samples after the liftoff do with a steady stream: `replay` and
`update` accept all of it. -/
theorem follows_stream {estimator : AttitudeEstimator} {epoch : UInt32} {last : ℕ}
    (follows : estimator.Follows epoch last) {samples : List GyroSample}
    (usable : ∀ sample ∈ samples, Usable epoch sample)
    (first : ∀ sample ∈ samples.head?,
      last + 750 ≤ sample.timestampUs ∧ sample.timestampUs ≤ last + 1250)
    (spaced : samples.IsChain Spaced) :
    (estimator.updated samples).state.valid = true ∧
      ∀ liftoffTimeUs, (∀ sample ∈ samples, liftoffTimeUs < sample.timestampUs) →
        replay liftoffTimeUs estimator samples = (true, estimator.updated samples) := by
  induction samples generalizing estimator last with
  | nil => exact ⟨follows.valid, fun _ _ => by rw [replay, follows.valid]; rfl⟩
  | cons sample rest inductionHypothesis =>
      obtain ⟨early, late⟩ := first sample rfl
      obtain ⟨accepted, next⟩ := follows_accept follows
        (usable sample (List.mem_cons_self ..)) early late
      have taken : (estimator.update sample).2 = (estimator.accept sample).2 := by
        rw [update, follows.valid, follows.seeded]
        rfl
      obtain ⟨valid, replays⟩ := inductionHypothesis next
        (fun other within => usable other (List.mem_cons_of_mem _ within))
        (fun other within => spaced.rel_head? within) spaced.tail
      rw [updated, List.foldl_cons, taken]
      refine ⟨valid, fun liftoffTimeUs after => ?_⟩
      have same := replays liftoffTimeUs
        fun other within => after other (List.mem_cons_of_mem _ within)
      obtain ⟨result, estimated⟩ : ∃ result, estimator.accept sample = result := ⟨_, rfl⟩
      rw [estimated] at accepted same ⊢
      obtain ⟨ok, advanced⟩ := result
      obtain rfl : ok = true := accepted
      rw [replay, if_pos (after sample (List.mem_cons_self ..)), estimated]
      exact same

theorem updated_append (estimator : AttitudeEstimator) (first second : List GyroSample) :
    estimator.updated (first ++ second) = (estimator.updated first).updated second :=
  List.foldl_append

/-! ### The flight begins -/

theorem replay_of_old {liftoffTimeUs : ℕ} (estimator : AttitudeEstimator) {old : List GyroSample}
    (before : ∀ sample ∈ old, sample.timestampUs ≤ liftoffTimeUs) (rest : List GyroSample) :
    replay liftoffTimeUs estimator (old ++ rest) = replay liftoffTimeUs estimator rest := by
  induction old with
  | nil => rfl
  | cons sample old inductionHypothesis =>
      have past := before sample (List.mem_cons_self ..)
      rw [List.cons_append, replay, if_neg (Nat.not_lt.mpr past)]
      exact inductionHypothesis fun other within => before other (List.mem_cons_of_mem _ within)

/-- The last usable sample up to the liftoff is the seed. -/
theorem seedOf_eq {liftoffTimeUs : ℕ} {epoch : UInt32} (old : List GyroSample) {seed : GyroSample}
    (usable : Usable epoch seed) (recorded : seed.timestampUs ≤ liftoffTimeUs)
    {after : List GyroSample} (flying : ∀ sample ∈ after, liftoffTimeUs < sample.timestampUs) :
    seedOf liftoffTimeUs (old ++ seed :: after) = some seed := by
  have kept : ∀ {found : Option GyroSample} {rest : List GyroSample},
      (∀ sample ∈ rest, liftoffTimeUs < sample.timestampUs) →
        rest.foldl
          (fun seed sample =>
            if sample.timestampUs ≤ liftoffTimeUs && sample.valid && !sample.saturated &&
                !sample.formatFault then
              some sample
            else seed) found = found := by
    intro found rest flying
    induction rest with
    | nil => rfl
    | cons sample rest inductionHypothesis =>
        have later := flying sample (List.mem_cons_self ..)
        rw [List.foldl_cons, decide_eq_false (Nat.not_le.mpr later)]
        exact inductionHypothesis fun other within => flying other (List.mem_cons_of_mem _ within)
  rw [seedOf, List.foldl_append, List.foldl_cons, kept flying]
  simp [recorded, usable.valid, usable.saturated, usable.formatFault]

theorem beginFlight_eq {before after : List GyroSample} {seed : GyroSample} {epoch : UInt32}
    {liftoffTimeUs : ℕ} {gyroBiasRadS : Double}
    (usable : Usable epoch seed) (spaced : (before ++ seed :: after).IsChain Spaced)
    (recorded : seed.timestampUs ≤ liftoffTimeUs)
    (flying : ∀ sample ∈ after, liftoffTimeUs < sample.timestampUs)
    (kept : after.length < kCapacity) (finite : gyroBiasRadS.isFinite = true) :
    beginFlight ((before ++ seed :: after).foldl GyroHistoryRing.push {}) liftoffTimeUs gyroBiasRadS =
      replay liftoffTimeUs (atLiftoff seed liftoffTimeUs gyroBiasRadS) after := by
  have ordered : ∀ sample ∈ before, sample.timestampUs ≤ liftoffTimeUs := by
    intro sample within
    have chain : (before ++ seed :: after).IsChain
        fun earlier later => earlier.timestampUs < later.timestampUs :=
      spaced.imp fun _ _ close => by
        have early := close.1
        omega
    have pairs := (List.isChain_iff_pairwise (R := fun earlier later : GyroSample =>
      earlier.timestampUs < later.timestampUs)).mp chain
    have earlier := (List.pairwise_append.mp pairs).2.2 sample within seed (List.mem_cons_self ..)
    omega
  have read : ((before ++ seed :: after).foldl GyroHistoryRing.push {}).chronological =
      before.drop ((before ++ seed :: after).length - kCapacity) ++ seed :: after := by
    rw [GyroHistoryRing.chronological_eq (GyroHistoryRing.recalls_foldl _),
      List.drop_append_of_le_length]
    rw [List.length_append, List.length_cons]
    omega
  have past : ∀ sample ∈ before.drop ((before ++ seed :: after).length - kCapacity),
      sample.timestampUs ≤ liftoffTimeUs :=
    fun sample within => ordered sample (List.mem_of_mem_drop within)
  have seeded := seedOf_eq (before.drop ((before ++ seed :: after).length - kCapacity)) usable
    recorded flying
  have skipped := replay_of_old (atLiftoff seed liftoffTimeUs gyroBiasRadS) past (seed :: after)
  rw [replay, if_neg (Nat.not_lt.mpr recorded)] at skipped
  simp only [beginFlight, finite, read, seeded, skipped, Bool.not_true, Bool.false_eq_true, if_false]

/-- The roll reference survives the liftoff exactly when the first sample after it is at least
750 us away from it, or there is none. -/
theorem survives_liftoff_iff {before after later : List GyroSample} {seed : GyroSample}
    {epoch : UInt32} {liftoffTimeUs : ℕ} {gyroBiasRadS : Double}
    (usable : ∀ sample ∈ before ++ seed :: (after ++ later), Usable epoch sample)
    (spaced : (before ++ seed :: (after ++ later)).IsChain Spaced)
    (recorded : seed.timestampUs ≤ liftoffTimeUs)
    (flying : ∀ sample ∈ after ++ later, liftoffTimeUs < sample.timestampUs)
    (kept : after.length < kCapacity) (bias : gyroBiasRadS.Within rateLimit) :
    ((beginFlight ((before ++ seed :: after).foldl GyroHistoryRing.push {}) liftoffTimeUs
          gyroBiasRadS).1 = true ∧
        ∀ updates, updates <+: later →
          ((beginFlight ((before ++ seed :: after).foldl GyroHistoryRing.push {}) liftoffTimeUs
            gyroBiasRadS).2.updated updates).state.valid = true) ↔
      ∀ next ∈ (after ++ later).head?, liftoffTimeUs + 750 ≤ next.timestampUs := by
  have tail : (seed :: (after ++ later)).IsChain Spaced := (List.isChain_append.mp spaced).2.1
  have ring : (before ++ seed :: after).IsChain Spaced := by
    have longer : before ++ seed :: (after ++ later) = (before ++ seed :: after) ++ later := by
      simp
    rw [longer] at spaced
    exact (List.isChain_append.mp spaced).1
  have seeded : Usable epoch seed := usable seed (by simp)
  rw [beginFlight_eq seeded ring recorded
    (fun sample within => flying sample (List.mem_append_left _ within)) kept
    (Double.isFinite_of_within bias)]
  obtain ⟨estimator, begun⟩ : ∃ estimator, atLiftoff seed liftoffTimeUs gyroBiasRadS = estimator :=
    ⟨_, rfl⟩
  have follows : estimator.Follows epoch liftoffTimeUs := by
    rw [← begun]
    exact ⟨rfl, rfl, seeded.epoch, rfl, bias, within_rate seeded.rate bias⟩
  rw [begun]
  constructor
  · intro ⟨began, valid⟩ next within
    by_contra early
    obtain ⟨refused, invalid⟩ := refuses_early follows (Nat.not_le.mp early)
    cases after with
    | nil =>
        obtain ⟨rest, rfl⟩ : ∃ rest, later = next :: rest := List.head?_eq_some_iff.mp within
        have first := valid [next] (List.prefix_iff_exists_append_eq.mpr ⟨rest, rfl⟩)
        rw [replay, updated, List.foldl_cons, List.foldl_nil, update, follows.valid,
          follows.seeded] at first
        exact absurd (invalid.symm.trans first) Bool.false_ne_true
    | cons sample after =>
        obtain rfl : sample = next := Option.some.inj within
        obtain ⟨result, estimated⟩ : ∃ result, estimator.accept sample = result := ⟨_, rfl⟩
        rw [replay, if_pos (flying sample (by simp)), estimated] at began
        rw [estimated] at refused
        obtain ⟨ok, advanced⟩ := result
        obtain rfl : ok = false := refused
        cases began
  · intro late
    have whole : ∀ updates, updates <+: later →
        (estimator.updated (after ++ updates)).state.valid = true ∧
          ∀ liftoffTimeUs, (∀ sample ∈ after ++ updates, liftoffTimeUs < sample.timestampUs) →
            replay liftoffTimeUs estimator (after ++ updates) =
              (true, estimator.updated (after ++ updates)) := by
      intro updates within
      have part : after ++ updates <+: after ++ later := (List.prefix_append_right_inj after).mpr within
      have steady : (seed :: (after ++ updates)).IsChain Spaced :=
        tail.infix ((List.cons_prefix_cons.mpr ⟨rfl, part⟩).isInfix)
      refine follows_stream follows
        (fun sample inside => usable sample (by
          have inside := part.subset inside
          simp only [List.mem_append, List.mem_cons] at inside ⊢
          exact Or.inr (Or.inr inside))) ?_ steady.tail
      intro sample first
      have close := steady.rel_head? first
      have same : sample ∈ (after ++ later).head? := by
        obtain ⟨rest, more⟩ := part
        rw [← more, List.head?_append, first]
        rfl
      exact ⟨late sample same, close.2.trans (Nat.add_le_add_right recorded _)⟩
    have empty := (whole [] List.nil_prefix).2 liftoffTimeUs
    rw [List.append_nil] at empty
    rw [empty fun sample within => flying sample (List.mem_append_left _ within)]
    refine ⟨rfl, fun updates within => ?_⟩
    rw [← updated_append]
    exact (whole updates within).1

/-- A sample of a gyro at rest -/
def restingSample (timestampUs : ℕ) : GyroSample :=
  { timestampUs, timestampEpoch := 4, valid := true }

theorem usable_restingSample (timestampUs : ℕ) : Usable 4 (restingSample timestampUs) :=
  ⟨rfl, rfl, rfl, rfl, rfl, 0, rfl, by rw [abs_zero]; exact zero_le_one.trans one_le_rateLimit⟩

theorem survives_liftoff_iff_onSample :
    ((beginFlight (([] ++ [restingSample 1000]).foldl GyroHistoryRing.push {}) 1000 .zero).1 = true ∧
        ∀ updates, updates <+: [restingSample 2000] →
          ((beginFlight (([] ++ [restingSample 1000]).foldl GyroHistoryRing.push {}) 1000
            .zero).2.updated updates).state.valid = true) ↔
      ∀ next ∈ ([] ++ [restingSample 2000]).head?, 1000 + 750 ≤ next.timestampUs :=
  @survives_liftoff_iff [] [] _ _ 4 _ _
    (by
      intro sample within
      simp only [List.nil_append, List.mem_cons, List.not_mem_nil, or_false] at within
      rcases within with rfl | rfl <;> exact usable_restingSample _)
    (show [restingSample 1000, restingSample 2000].IsChain Spaced by
      simp [Spaced, restingSample])
    le_rfl
    (by
      intro sample within
      simp only [List.nil_append, List.mem_cons, List.not_mem_nil, or_false] at within
      subst within
      decide)
    (by decide) ⟨0, rfl, by rw [abs_zero]; exact zero_le_one.trans one_le_rateLimit⟩

/-- A liftoff half way between two samples of a steady stream ends the estimate. -/
theorem invalid_between_samples :
    (∀ sample ∈ [restingSample 1000, restingSample 2000], Usable 4 sample) ∧
      [restingSample 1000, restingSample 2000].IsChain Spaced ∧
      (beginFlight ([restingSample 1000].foldl GyroHistoryRing.push {}) 1500 .zero).1 = true ∧
      ((beginFlight ([restingSample 1000].foldl GyroHistoryRing.push {}) 1500 .zero).2.updated
        [restingSample 2000]).state.valid = false := by
  refine ⟨?_, ?_, by decide +kernel, by decide +kernel⟩
  · intro sample within
    simp only [List.mem_cons, List.not_mem_nil, or_false] at within
    rcases within with rfl | rfl <;> exact usable_restingSample _
  · simp [Spaced, restingSample]

end AttitudeEstimator

end MissionBoard.Sensors
