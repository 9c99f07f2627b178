import MissionBoard.Characterization.CommandJournal

/-!
Owns `ProfilePlan` of `characterization/profile_plan.cpp`, the polarity of
`characterization/characterization_config.hpp`, and the command that `ProfileRunner` derives for an
epoch of an episode.

The polarity is a constant of the build, -1, 0 or 1, and a parameter here.
-/

namespace MissionBoard.Characterization

/-! ### The plan -/

/-- `ProfileEpisode`; `include_in_identification_fit` is read by none. -/
structure ProfileEpisode where
  phase : ProfilePhase := .idle
  branch : ApproachBranch := .none
  episodeIndex : UInt32 := 0
  durationEpochs : UInt32 := 0
  commandLimitPermille : Int16 := 0
deriving DecidableEq

/-- `kInitialMotionCommandPermille` -/
def kInitialMotionCommandPermille : Int16 := 300

/-- `kBroadbandCommandPermille` -/
def kBroadbandCommandPermille : Int16 := 250

/-- `kPolarityCheckCommandPermille` -/
def kPolarityCheckCommandPermille : Int16 := 200

/-- `makeCommonEpisodes` -/
def commonEpisodes : List ProfileEpisode :=
  let motion := kInitialMotionCommandPermille
  let broadband := kBroadbandCommandPermille
  let polarity := kPolarityCheckCommandPermille
  [⟨.stationaryBaseline, .none, 1, 1000, 0⟩,
    ⟨.zeroApproach, .fromPositive, 2, 18000, motion⟩,
    ⟨.zeroApproach, .fromNegative, 3, 18000, motion⟩,
    ⟨.polarityCheck, .none, 4, 800, polarity⟩,
    ⟨.breakawaySweep, .none, 5, 3600, motion⟩,
    ⟨.sustainedMotionSweep, .none, 6, 2880, motion⟩,
    ⟨.boundedPulseGrid, .none, 7, 4000, motion⟩,
    ⟨.coast, .none, 8, 2200, motion⟩,
    ⟨.shortBrake, .none, 9, 2000, motion⟩,
    ⟨.positiveToNegative, .none, 10, 800, broadband⟩,
    ⟨.negativeToPositive, .none, 11, 800, broadband⟩,
    ⟨.boundedPrbs, .none, 12, 4000, broadband⟩,
    ⟨.bandLimitedNoise, .none, 13, 4000, broadband⟩,
    ⟨.chirp, .none, 14, 4000, broadband⟩,
    ⟨.recenter, .none, 15, 5000, motion⟩,
    ⟨.stationaryBaseline, .none, 16, 1000, 0⟩]

/-- `zeroReferenceKind` -/
def zeroReferenceKind (stage : AssemblyStage) : ZeroReferenceKind :=
  if stage = .m0 then .m0 else .common

/-- `valid`; every `EncoderRate` is supported. -/
def planValid (stage : AssemblyStage) (fixedSeed : UInt32) : Bool :=
  isKnownStage stage && fixedSeed != 0

/-- The loop of `resolveEpisode`, from this offset on -/
def resolveFrom (epochIndex : UInt32) :
    UInt32 → List ProfileEpisode → Option (ProfileEpisode × UInt32)
  | _, [] => none
  | offset, candidate :: rest =>
      if epochIndex < offset + candidate.durationEpochs then some (candidate, epochIndex - offset)
      else resolveFrom epochIndex (offset + candidate.durationEpochs) rest

/-- `resolveEpisode`: the episode of an epoch, and the number of the epoch in it -/
def resolveEpisode (runKind : RunKind) (epochs epochIndex : UInt32) : ProfileEpisode × UInt32 :=
  if runKind = .full then
    (resolveFrom epochIndex 0 commonEpisodes).getD (commonEpisodes.getLastD {}, 0)
  else (⟨.stationaryBaseline, .none, 1, epochs, 0⟩, epochIndex)

/-! ### Commands -/

/-- `commandForFinError` -/
def commandForFinError (finErrorMillideg : ℤ) (magnitudePermille : Int16) (commandToFinSign : ℤ) :
    Int16 :=
  if magnitudePermille ≤ 0 ∨ magnitudePermille > kMaximumCommandPermille ∨
      (commandToFinSign ≠ -1 ∧ commandToFinSign ≠ 1) then
    0
  else Int16.ofInt (finErrorMillideg.sign * commandToFinSign * magnitudePermille.toInt)

/-- `driveCommand` -/
def driveCommand (command : Int16) : MotorCommandRequest :=
  if command > 0 then ⟨command, .driveIn2⟩
  else if command < 0 then ⟨command, .driveIn1⟩
  else .toCoast

/-- `finDirectionCommand` -/
def finDirectionCommand (commandToFinSign finDirection : ℤ) (magnitude : Int16) :
    MotorCommandRequest :=
  if magnitude ≤ 0 ∨ (finDirection ≠ -1 ∧ finDirection ≠ 1) then .toCoast
  else driveCommand (commandForFinError finDirection magnitude commandToFinSign)

/-- `kApproachKpPermillePerDeg` -/
def kApproachKpPermillePerDeg : ℤ := 500

/-- `kApproachKdPermillePerDegPerS` -/
def kApproachKdPermillePerDegPerS : ℤ := 25

/-- `kApproachMinimumActivePermille` -/
def kApproachMinimumActivePermille : ℤ := 160

/-- `kApproachMaximumPermille` -/
def kApproachMaximumPermille : ℤ := 300

/-- `kApproachPulseRegionMilliDeg` -/
def kApproachPulseRegionMilliDeg : ℤ := 250

/-- `kApproachPulsePeriodEpochs` -/
def kApproachPulsePeriodEpochs : UInt32 := 20

/-- `kApproachPulseOnEpochs` -/
def kApproachPulseOnEpochs : UInt32 := 8

/-- `kApproachDeadbandMilliDeg` -/
def kApproachDeadbandMilliDeg : ℤ := 20

/-- `std::clamp` -/
def clamp (value low high : ℤ) : ℤ := max low (min value high)

/-- `positionApproachCommand` -/
def positionApproachCommand (commandToFinSign : ℤ) (errorMillideg finRateMillidegS : Int32)
    (localEpoch : UInt32) (requestedLimit : Int16) : MotorCommandRequest :=
  let absoluteError := |errorMillideg.toInt|
  let direction := if errorMillideg > 0 then 1 else -1
  let rateTowardTarget := direction * finRateMillidegS.toInt
  let proportional := (absoluteError * kApproachKpPermillePerDeg).tdiv 1000
  let damping :=
    if rateTowardTarget > 0 then (rateTowardTarget * kApproachKdPermillePerDegPerS).tdiv 1000 else 0
  let limit := clamp requestedLimit.toInt kApproachMinimumActivePermille kApproachMaximumPermille
  let undamped := max 1 (proportional - damping)
  let magnitude := Int16.ofInt (clamp undamped kApproachMinimumActivePermille limit)
  if absoluteError ≤ kApproachDeadbandMilliDeg then .toCoast
  else if damping ≥ proportional ∧ rateTowardTarget > 0 then .toCoast
  else if absoluteError ≤ kApproachPulseRegionMilliDeg ∧
      localEpoch % kApproachPulsePeriodEpochs ≥ kApproachPulseOnEpochs then
    .toCoast
  else finDirectionCommand commandToFinSign direction magnitude

/-- The next `pseudo_random_state_` of `BoundedPrbs` -/
def shiftedState (state : UInt32) : UInt32 := (state >>> 1) ^^^ (0x80200003 &&& (0 - (state &&& 1)))

/-- The next `pseudo_random_state_` of `BandLimitedNoise` -/
def congruentState (state : UInt32) : UInt32 := state * 1664525 + 1013904223

/-- A phase that repeats two pulses of opposite sign: the ends of the first pulse, of the pause and of
the second pulse -/
def twoPulses (phase firstEnd pauseEnd secondEnd : UInt32) (magnitude : Int16) :
    MotorCommandRequest :=
  if phase < firstEnd then driveCommand magnitude
  else if phase < pauseEnd then .toCoast
  else if phase < secondEnd then driveCommand (-magnitude)
  else .toCoast

/-- `BreakawaySweep` -/
def breakawayCommand (localEpoch : UInt32) (limit : Int16) : MotorCommandRequest :=
  match [100, 125, 150, 175, 200, 225, 250, 275, 300][(localEpoch / 400).toNat]? with
  | none => .toCoast
  | some level => twoPulses (localEpoch % 400) 80 200 280 (min level limit)

/-- `SustainedMotionSweep` -/
def sustainedCommand (localEpoch : UInt32) (limit : Int16) : MotorCommandRequest :=
  match [300, 275, 250, 225, 200, 175, 150, 125, 100][(localEpoch / 320).toNat]? with
  | none => .toCoast
  | some level =>
      let test : Int16 := min level limit
      let phase := localEpoch % 320
      if phase < 60 then driveCommand limit
      else if phase < 140 then driveCommand test
      else if phase < 160 then .toCoast
      else if phase < 220 then driveCommand (-limit)
      else if phase < 300 then driveCommand (-test)
      else .toCoast

/-- `BoundedPulseGrid` -/
def pulseGridCommand (localEpoch : UInt32) (limit : Int16) : MotorCommandRequest :=
  match [100, 150, 200, 250, 300][(localEpoch / 800).toNat]? with
  | none => .toCoast
  | some level => twoPulses (localEpoch % 400) 60 200 260 (min level limit)

/-- `ShortBrake` -/
def shortBrakeCommand (localEpoch : UInt32) (limit : Int16) : MotorCommandRequest :=
  if localEpoch < 100 then driveCommand limit
  else if localEpoch < 350 then ⟨0, .brake⟩
  else if localEpoch < 1000 then .toCoast
  else if localEpoch < 1100 then driveCommand (-limit)
  else if localEpoch < 1350 then ⟨0, .brake⟩
  else .toCoast

/-- `Chirp` -/
def chirpCommand (localEpoch durationEpochs : UInt32) (limit : Int16) : MotorCommandRequest :=
  let halfPeriod := max 10 (100 - 90 * localEpoch / durationEpochs)
  driveCommand (if (localEpoch / halfPeriod) &&& 1 = 0 then limit else -limit)

/-- `value` of `BandLimitedNoise` -/
def noiseCommand (state : UInt32) (limit : Int16) : Int16 :=
  let span := UInt32.ofNat (2 * limit.toInt + 1).toNat
  Int16.ofInt ((state % span).toNat - limit.toInt)

/-- `commandForEpisode`: the request, and `pseudo_random_state_` after it -/
def commandForEpisode (commandToFinSign : ℤ) (episode : ProfileEpisode) (localEpoch : UInt32)
    (finAngleMillideg : Int32) (pseudoRandomState : UInt32) : MotorCommandRequest × UInt32 :=
  let limit := episode.commandLimitPermille
  match episode.phase with
  | .stationaryBaseline => (.toCoast, pseudoRandomState)
  | .polarityCheck => (twoPulses localEpoch 100 400 500 limit, pseudoRandomState)
  | .breakawaySweep => (breakawayCommand localEpoch limit, pseudoRandomState)
  | .sustainedMotionSweep => (sustainedCommand localEpoch limit, pseudoRandomState)
  | .boundedPulseGrid => (pulseGridCommand localEpoch limit, pseudoRandomState)
  | .coast => (twoPulses localEpoch 100 1100 1200 limit, pseudoRandomState)
  | .shortBrake => (shortBrakeCommand localEpoch limit, pseudoRandomState)
  | .positiveToNegative => (twoPulses localEpoch 100 100 200 limit, pseudoRandomState)
  | .negativeToPositive => (twoPulses localEpoch 100 100 200 (-limit), pseudoRandomState)
  | .boundedPrbs =>
      let state := if localEpoch % 20 = 0 then shiftedState pseudoRandomState else pseudoRandomState
      (driveCommand (if state &&& 1 ≠ 0 then limit else -limit), state)
  | .bandLimitedNoise =>
      let state :=
        if localEpoch % 50 = 0 then congruentState pseudoRandomState else pseudoRandomState
      (driveCommand (noiseCommand state limit), state)
  | .chirp => (chirpCommand localEpoch episode.durationEpochs limit, pseudoRandomState)
  | .recenter =>
      (positionApproachCommand commandToFinSign (-finAngleMillideg) 0 localEpoch limit,
        pseudoRandomState)
  | .zeroApproach => (.toCoast, pseudoRandomState)
  | .idle => (.toCoast, pseudoRandomState)

end MissionBoard.Characterization
