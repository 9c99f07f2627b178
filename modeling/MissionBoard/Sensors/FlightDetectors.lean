import MissionBoard.Library.SampleStreak
import MissionBoard.Mission.MissionState
import MissionBoard.Numeric.Double

/-!
Owns the detectors of `sensors/flight_detectors.cpp` and the logic of
`sensors/air_data_flight_logic.cpp` that runs two of them for one flight epoch.

A detector averages a ring of samples and counts the averages that pass. The averages
are floating-point arithmetic, so the tests on them are a parameter; what a sample is
besides its value is left to the caller.
-/

namespace MissionBoard.Sensors

open Protocol

/-- `sample.acceleration_g` -/
structure Acceleration where
  x : Double
  y : Double
  z : Double
deriving DecidableEq

namespace Acceleration

def isFinite (acceleration : Acceleration) : Bool :=
  acceleration.x.isFinite && acceleration.y.isFinite && acceleration.z.isFinite

end Acceleration

/-- The tests on the averages of full rings, the slots in their order. -/
structure DetectionTests where
  /-- `x * x + y * y + z * z > 4.0` -/
  accelerates : List Acceleration → Bool
  /-- `previous_mean_ - current >= 0.05` -/
  falls : List Double → List Double → Bool
  /-- `current > previous_mean_` -/
  rises : List Double → List Double → Bool

/-- `ImuLiftoffDetector` -/
structure ImuLiftoffDetector (α : Type) where
  ring : SampleRing 20 α := {}
  streak : Streak 50 α := .empty

namespace ImuLiftoffDetector

variable {α : Type}

/-- `update`: a sample that cannot be used ends the streak and leaves the ring. -/
def update (accelerates : List α → Bool) (detector : ImuLiftoffDetector α) (sample : α)
    (usable : Bool) : Bool × ImuLiftoffDetector α :=
  if !usable then (false, { detector with streak := .empty })
  else
    let ring := detector.ring.push sample
    if !ring.full then (false, { detector with ring := ring })
    else
      let streak := if accelerates ring.samples then detector.streak.extend ring.samples else .empty
      (streak.fires, { ring := ring, streak := streak })

/-- Every sample the detector holds, or its streak rests on, has the property. -/
def All (property : α → Prop) (detector : ImuLiftoffDetector α) : Prop :=
  detector.ring.All property ∧ detector.streak.All property

end ImuLiftoffDetector

/-- The state of `LpsLiftoffDetector` and of `PressureApexDetector`: the average before is
kept as the ring it was taken from. -/
structure PressureDetector (needed : ℕ) (α : Type) where
  ring : SampleRing 5 α := {}
  previous : Option (List α) := none
  streak : Streak needed α := .empty

/-- Every sample the detector holds, or its streak rests on, has the property. -/
structure PressureDetector.All {needed : ℕ} {α : Type} (property : α → Prop)
    (detector : PressureDetector needed α) : Prop where
  ring : detector.ring.All property
  previous : ∀ window ∈ detector.previous, ∀ sample ∈ window, property sample
  streak : detector.streak.All property

/-- `LpsLiftoffDetector` -/
abbrev LpsLiftoffDetector (α : Type) := PressureDetector 5 α

/-- `LpsLiftoffDetector::update`: a pressure that cannot be used resets the detector. -/
def LpsLiftoffDetector.update {α : Type} (falls : List α → List α → Bool)
    (detector : LpsLiftoffDetector α) (sample : α) (usable : Bool) :
    Bool × LpsLiftoffDetector α :=
  if !usable then (false, {})
  else
    let ring := detector.ring.push sample
    if !ring.full then (false, { detector with ring := ring })
    else
      let streak :=
        match detector.previous with
        | some previous =>
            if falls previous ring.samples then
              detector.streak.extend (previous ++ ring.samples)
            else .empty
        | none => detector.streak
      (streak.fires, { ring := ring, previous := some ring.samples, streak := streak })

/-- `PressureApexDetector` -/
abbrev PressureApexDetector (α : Type) := PressureDetector 25 α

/-- `10'000'000` of `PressureApexDetector::update` -/
def kApexSearchStartUs : UInt64 := 10000000

/-- `PressureApexDetector::update`: pressures are not compared before ten seconds. -/
def PressureApexDetector.update {α : Type} (rises : List α → List α → Bool)
    (detector : PressureApexDetector α) (sample : α) (usable : Bool) (elapsedUs : UInt64) :
    Bool × PressureApexDetector α :=
  if !usable then (false, {})
  else
    let ring := detector.ring.push sample
    if !ring.full then (false, { detector with ring := ring })
    else
      let streak :=
        match detector.previous with
        | some previous =>
            if kApexSearchStartUs ≤ elapsedUs ∧ rises previous ring.samples then
              detector.streak.extend (previous ++ ring.samples)
            else .empty
        | none => .empty
      (streak.fires, { ring := ring, previous := some ring.samples, streak := streak })

/-- `AirDataFlightEvent` -/
structure AirDataFlightEvent where
  flightEpoch : UInt32 := 0
  lpsLiftoffDetected : Bool := false
  pressureApexDetected : Bool := false
deriving DecidableEq

/-- `AirDataFlightLogic` -/
structure AirDataFlightLogic (α : Type) where
  liftoffDetector : LpsLiftoffDetector α := {}
  apexDetector : PressureApexDetector α := {}
  flightEpoch : UInt32 := 0

namespace AirDataFlightLogic

variable {α : Type}

/-- `reset` -/
def reset (flightEpoch : UInt32) : AirDataFlightLogic α := { flightEpoch := flightEpoch }

/-- The logic an update works on: a new epoch, or command receive, starts afresh. -/
def begun (logic : AirDataFlightLogic α) (flightEpoch : UInt32) (state : MissionState) :
    AirDataFlightLogic α :=
  if flightEpoch ≠ logic.flightEpoch ∨ state = .commandReceive then reset flightEpoch else logic

/-- `update`. Each detector runs in its own states and is reset in the others. -/
def update (falls rises : List α → List α → Bool) (logic : AirDataFlightLogic α)
    (flightEpoch : UInt32) (state : MissionState) (elapsedUs : UInt64) (pressure : α)
    (usable : Bool) : AirDataFlightEvent × AirDataFlightLogic α :=
  let begun := logic.begun flightEpoch state
  let liftoff :=
    if state = .liftoffDetection then begun.liftoffDetector.update falls pressure usable
    else (false, {})
  let apexState := state == .engineBurn || state == .control
  let apex := begun.apexDetector.update rises pressure (usable && apexState) elapsedUs
  ({ flightEpoch := flightEpoch
     lpsLiftoffDetected := liftoff.1
     pressureApexDetected := apex.1 },
    { begun with liftoffDetector := liftoff.2, apexDetector := apex.2 })

end AirDataFlightLogic

section Property

variable {α : Type} {property : α → Prop} {sample : α}

namespace ImuLiftoffDetector

theorem all_empty : All property ({} : ImuLiftoffDetector α) :=
  ⟨SampleRing.all_empty, Streak.all_empty⟩

/-- What holds of every sample given to the detector holds of all it keeps. -/
theorem All.update {detector : ImuLiftoffDetector α} (all : detector.All property)
    (holds : property sample) (accelerates : List α → Bool) (usable : Bool) :
    (detector.update accelerates sample usable).2.All property := by
  unfold ImuLiftoffDetector.update
  dsimp only
  have pushed := all.1.push holds
  split
  · exact ⟨all.1, Streak.all_empty⟩
  · split
    · exact ⟨pushed, all.2⟩
    · split
      · exact ⟨pushed, all.2.extend pushed⟩
      · exact ⟨pushed, Streak.all_empty⟩

end ImuLiftoffDetector

namespace LpsLiftoffDetector

theorem all_empty {needed : ℕ} : ({} : PressureDetector needed α).All property :=
  ⟨SampleRing.all_empty, nofun, Streak.all_empty⟩

theorem all_update {detector : LpsLiftoffDetector α} (all : detector.All property)
    (holds : property sample) (falls : List α → List α → Bool) (usable : Bool) :
    (detector.update falls sample usable).2.All property := by
  have pushed := all.ring.push holds
  have latest : ∀ window ∈ some (detector.ring.push sample).samples,
      ∀ kept ∈ window, property kept := by
    rintro window ⟨⟩
    exact pushed
  unfold LpsLiftoffDetector.update
  dsimp only
  split
  · exact all_empty
  · split
    · exact ⟨pushed, all.previous, all.streak⟩
    · refine ⟨pushed, latest, ?_⟩
      cases earlier : detector.previous with
      | none => exact all.streak
      | some previous =>
          dsimp only
          split
          · apply all.streak.extend
            intro kept within
            rcases List.mem_append.mp within with before | now
            · exact all.previous previous earlier kept before
            · exact pushed kept now
          · exact Streak.all_empty

end LpsLiftoffDetector

namespace AirDataFlightLogic

variable {logic : AirDataFlightLogic α}

theorem begun_flightEpoch (flightEpoch : UInt32) (state : MissionState) :
    (logic.begun flightEpoch state).flightEpoch = flightEpoch := by
  unfold begun
  split
  · rfl
  · rename_i kept
    exact (not_not.mp (not_or.mp kept).1).symm

/-- When the detectors have run for another epoch, nothing of it is left. -/
theorem all_begun {flightEpoch : UInt32} {state : MissionState}
    (all : logic.flightEpoch = flightEpoch → logic.liftoffDetector.All property) :
    (logic.begun flightEpoch state).liftoffDetector.All property := by
  unfold begun
  split
  · exact LpsLiftoffDetector.all_empty
  · rename_i kept
    exact all (not_not.mp (not_or.mp kept).1).symm

end AirDataFlightLogic

end Property

end MissionBoard.Sensors
