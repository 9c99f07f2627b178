import Mathlib.Algebra.BigOperators.Group.List.Basic
import Mathlib.Algebra.Field.Basic
import MissionBoard.Sensors.FlightDetectors

/-!
Owns what the detectors of `sensors/flight_detectors.cpp` and the events of
`sensors/air_data_flight_logic.cpp` say about the samples that were received, in exact arithmetic: over any
field with an order, without rounding.

A history has its latest entry first, so that `back` entries ago is `back` places into it.
-/

namespace MissionBoard.Sensors

open Protocol

variable {K : Type} [Field K]

/-- `mean`, of a full array of `size` samples -/
def mean (size : ℕ) (samples : List K) : K := samples.sum / size

/-- The order of the slots does not matter. -/
theorem mean_perm {size : ℕ} {samples others : List K} (perm : samples.Perm others) :
    mean size samples = mean size others := by
  rw [mean, mean, perm.sum_eq]

/-- The `count` samples that end `back` samples ago -/
def window {α : Type} (count : ℕ) (samples : List α) (back : ℕ) : List α :=
  (samples.drop back).take count

/-- A call of a detector -/
inductive DetectorCall (α : Type) where
  | update (sample : α) (usable : Bool)
  | reset

/-- The samples since the last call that was no update with a usable sample, the latest first -/
def recent {α : Type} : List (DetectorCall α) → List α
  | .update sample true :: earlier => sample :: recent earlier
  | _ => []

/-! ### The pressure detectors -/

variable [LinearOrder K]

/-- `previous_mean_ - current >= 0.05` -/
def falls (previous current : List K) : Bool := decide (1 / 20 ≤ mean 5 previous - mean 5 current)

/-- `current > previous_mean_` -/
def rises (previous current : List K) : Bool := decide (mean 5 previous < mean 5 current)

theorem falls_perm {previous current before now : List K} (earlier : previous.Perm before)
    (later : current.Perm now) : falls previous current = falls before now := by
  rw [falls, falls, mean_perm earlier, mean_perm later]

theorem rises_perm {previous current before now : List K} (earlier : previous.Perm before)
    (later : current.Perm now) : rises previous current = rises before now := by
  rw [rises, rises, mean_perm earlier, mean_perm later]

/-- The mean `back` updates ago dropped by at least 0.05 from the mean before it. -/
def Dropped (samples : List K) (back : ℕ) : Prop :=
  back + 6 ≤ samples.length ∧
    1 / 20 ≤ mean 5 (window 5 samples (back + 1)) - mean 5 (window 5 samples back)

/-- A pressure with the time of its update -/
structure TimedPressure (K : Type) where
  pressure : K
  elapsedUs : UInt64

/-- The update `back` updates ago came after ten seconds and raised the mean. -/
def Raised (samples : List (TimedPressure K)) (back : ℕ) : Prop :=
  back + 6 ≤ samples.length ∧
    (∀ sample ∈ samples[back]?, kApexSearchStartUs ≤ sample.elapsedUs) ∧
    mean 5 (window 5 (samples.map (·.pressure)) (back + 1)) <
      mean 5 (window 5 (samples.map (·.pressure)) back)

namespace PressureDetector

variable {needed : ℕ} {α : Type}

/-- The detector has seen the samples, the latest first, and counts the updates that passed. -/
structure Follows (detector : PressureDetector needed α) (samples : List α) (passed : ℕ → Prop) :
    Prop where
  ring : detector.ring.Holds samples
  previous : detector.previous = if 5 ≤ samples.length then some detector.ring.samples else none
  streak : detector.streak.Counts passed

theorem follows_empty {passed : ℕ → Prop} (fails : ¬ passed 0) :
    ({} : PressureDetector needed α).Follows [] passed :=
  ⟨SampleRing.holds_empty, rfl, Streak.counts_empty fails⟩

end PressureDetector

namespace LpsLiftoffDetector

/-- What a call returns, and the detector after it -/
def call (detector : LpsLiftoffDetector K) : DetectorCall K → Bool × LpsLiftoffDetector K
  | .update sample usable => detector.update falls sample usable
  | .reset => (false, {})

/-- What the calls return last, and the detector after them -/
def after : List (DetectorCall K) → Bool × LpsLiftoffDetector K
  | [] => (false, {})
  | latest :: earlier => call (after earlier).2 latest

theorem dropped_cons (sample : K) (samples : List K) (back : ℕ) :
    Dropped (sample :: samples) (back + 1) ↔ Dropped samples back := by
  simp [Dropped, window]

/-- The latest update dropped when the test passes on the means before and after it. -/
theorem dropped_latest (sample : K) (samples : List K) :
    Dropped (sample :: samples) 0 ↔
      5 ≤ samples.length ∧ falls (samples.take 5) ((sample :: samples).take 5) = true := by
  simp [Dropped, window, falls]

/-- An update with a usable sample -/
theorem follows_update {detector : LpsLiftoffDetector K} {samples : List K}
    (follows : detector.Follows samples (Dropped samples)) (sample : K) :
    (detector.update falls sample true).2.Follows (sample :: samples) (Dropped (sample :: samples)) ∧
      ((detector.update falls sample true).1 = true ↔
        ∀ back < 5, Dropped (sample :: samples) back) := by
  have pushed := follows.ring.push (by decide) sample
  have latest := dropped_latest sample samples
  have shifts := dropped_cons sample samples
  have compared : falls detector.ring.samples (detector.ring.push sample).samples =
      falls (samples.take 5) ((sample :: samples).take 5) :=
    falls_perm follows.ring.perm pushed.perm
  unfold LpsLiftoffDetector.update
  dsimp only
  rw [if_neg (by decide)]
  by_cases full : 5 ≤ (sample :: samples).length
  · rw [if_neg (by simp [pushed.full_iff.mpr full])]
    have judged : ∀ streak : Streak 5 K, streak.Counts (Dropped (sample :: samples)) →
        PressureDetector.Follows
            { ring := detector.ring.push sample
              previous := some (detector.ring.push sample).samples
              streak } (sample :: samples) (Dropped (sample :: samples)) ∧
          (streak.fires = true ↔ ∀ back < 5, Dropped (sample :: samples) back) :=
      fun streak counts => ⟨⟨pushed, (if_pos full).symm, counts⟩, counts.fires_iff⟩
    apply judged
    rw [follows.previous]
    by_cases before : 5 ≤ samples.length
    · rw [if_pos before]
      dsimp only
      split
      · rename_i falling
        exact follows.streak.extend _ (latest.mpr ⟨before, compared ▸ falling⟩) shifts
      · rename_i level
        refine Streak.counts_empty fun drops => level ?_
        rw [compared]
        exact (latest.mp drops).2
    · rw [if_neg before]
      exact follows.streak.unjudged (fun drops => by have := drops.1; omega)
        fun drops => before (latest.mp drops).1
  · have short : ¬ 5 ≤ samples.length := fun long => full (by simp; omega)
    have unjudged : ¬ Dropped (sample :: samples) 0 := fun drops => short (latest.mp drops).1
    have room : ¬ (detector.ring.push sample).full = true := fun filled => full (pushed.full_iff.mp filled)
    rw [if_pos (by simp [room])]
    refine ⟨⟨pushed, ?_, follows.streak.unjudged (fun drops => ?_) unjudged⟩, ?_⟩
    · rw [if_neg full]
      exact follows.previous.trans (if_neg short)
    · have long := drops.1
      omega
    · exact iff_of_false Bool.false_ne_true fun all => unjudged (all 0 (by decide))

theorem dropped_nil (back : ℕ) : ¬ Dropped ([] : List K) back := by
  simp [Dropped]

/-- A detector that was reset -/
theorem follows_fresh :
    PressureDetector.Follows ({} : LpsLiftoffDetector K) [] (Dropped ([] : List K)) ∧
      (false = true ↔ ∀ back < 5, Dropped ([] : List K) back) :=
  ⟨PressureDetector.follows_empty (dropped_nil 0),
    iff_of_false Bool.false_ne_true fun all => dropped_nil 0 (all 0 (by decide))⟩

/-- What the detector keeps and returns after any calls -/
theorem follows_after (calls : List (DetectorCall K)) :
    (after calls).2.Follows (recent calls) (Dropped (recent calls)) ∧
      ((after calls).1 = true ↔ ∀ back < 5, Dropped (recent calls) back) := by
  induction calls with
  | nil => exact follows_fresh
  | cons call earlier inductionHypothesis =>
      match call with
      | .reset => exact follows_fresh
      | .update sample false => exact follows_fresh
      | .update sample true => exact follows_update inductionHypothesis.1 sample

end LpsLiftoffDetector

namespace PressureApexDetector

/-- What a call returns, and the detector after it -/
def call (detector : PressureApexDetector K) :
    DetectorCall (TimedPressure K) → Bool × PressureApexDetector K
  | .update sample usable => detector.update rises sample.pressure usable sample.elapsedUs
  | .reset => (false, {})

/-- What the calls return last, and the detector after them -/
def after : List (DetectorCall (TimedPressure K)) → Bool × PressureApexDetector K
  | [] => (false, {})
  | latest :: earlier => call (after earlier).2 latest

theorem raised_cons (sample : TimedPressure K) (samples : List (TimedPressure K)) (back : ℕ) :
    Raised (sample :: samples) (back + 1) ↔ Raised samples back := by
  simp [Raised, window]

theorem raised_nil (back : ℕ) : ¬ Raised ([] : List (TimedPressure K)) back := by
  simp [Raised]

/-- The latest update raised the mean when it came after ten seconds and the test passes. -/
theorem raised_latest (sample : TimedPressure K) (samples : List (TimedPressure K)) :
    Raised (sample :: samples) 0 ↔
      5 ≤ samples.length ∧ kApexSearchStartUs ≤ sample.elapsedUs ∧
        rises ((samples.map (·.pressure)).take 5)
          ((sample.pressure :: samples.map (·.pressure)).take 5) = true := by
  rw [rises, decide_eq_true_eq]
  simp [Raised, window]

/-- The detector has seen the pressures of the samples, and counts those that raised the mean. -/
def Tracks (detector : PressureApexDetector K) (samples : List (TimedPressure K)) : Prop :=
  PressureDetector.Follows detector (samples.map (·.pressure)) (Raised samples)

/-- An update with a usable sample -/
theorem tracks_update {detector : PressureApexDetector K} {samples : List (TimedPressure K)}
    (tracks : Tracks detector samples) (sample : TimedPressure K) :
    Tracks (detector.update rises sample.pressure true sample.elapsedUs).2 (sample :: samples) ∧
      ((detector.update rises sample.pressure true sample.elapsedUs).1 = true ↔
        ∀ back < 25, Raised (sample :: samples) back) := by
  have pushed := tracks.ring.push (by decide) sample.pressure
  have latest := raised_latest sample samples
  have shifts := raised_cons sample samples
  have compared : rises detector.ring.samples (detector.ring.push sample.pressure).samples =
      rises ((samples.map (·.pressure)).take 5)
        ((sample.pressure :: samples.map (·.pressure)).take 5) :=
    rises_perm tracks.ring.perm pushed.perm
  have sizes : (samples.map (·.pressure)).length = samples.length := List.length_map _
  have previous := tracks.previous
  rw [sizes] at previous
  unfold PressureApexDetector.update
  dsimp only
  rw [if_neg (by decide)]
  by_cases full : 5 ≤ (sample :: samples).length
  · have filled := pushed.full_iff.mpr (by simpa using full)
    rw [if_neg (by simp [filled])]
    have judged : ∀ streak : Streak 25 K, streak.Counts (Raised (sample :: samples)) →
        Tracks
            { ring := detector.ring.push sample.pressure
              previous := some (detector.ring.push sample.pressure).samples
              streak } (sample :: samples) ∧
          (streak.fires = true ↔ ∀ back < 25, Raised (sample :: samples) back) :=
      fun streak counts =>
        ⟨⟨pushed, (if_pos (by simpa using full)).symm, counts⟩, counts.fires_iff⟩
    apply judged
    rw [previous]
    by_cases before : 5 ≤ samples.length
    · rw [if_pos before]
      dsimp only
      split
      · rename_i rising
        exact tracks.streak.extend _ (latest.mpr ⟨before, rising.1, compared ▸ rising.2⟩) shifts
      · rename_i level
        refine Streak.counts_empty fun raises => level ?_
        rw [compared]
        exact (latest.mp raises).2
    · rw [if_neg before]
      exact Streak.counts_empty fun raises => before (latest.mp raises).1
  · have short : ¬ 5 ≤ samples.length := fun long => full (by simp; omega)
    have unjudged : ¬ Raised (sample :: samples) 0 := fun raises => short (latest.mp raises).1
    have room : ¬ (detector.ring.push sample.pressure).full = true := fun filled =>
      full (by simpa using pushed.full_iff.mp filled)
    rw [if_pos (by simp [room])]
    refine ⟨⟨pushed, ?_, tracks.streak.unjudged (fun raises => ?_) unjudged⟩, ?_⟩
    · rw [if_neg (by simpa using full)]
      exact previous.trans (if_neg short)
    · have long := raises.1
      omega
    · exact iff_of_false Bool.false_ne_true fun all => unjudged (all 0 (by decide))

/-- A detector that was reset -/
theorem tracks_fresh : Tracks ({} : PressureApexDetector K) [] ∧
    (false = true ↔ ∀ back < 25, Raised ([] : List (TimedPressure K)) back) :=
  ⟨PressureDetector.follows_empty (raised_nil 0),
    iff_of_false Bool.false_ne_true fun all => raised_nil 0 (all 0 (by decide))⟩

/-- What the detector keeps and returns after any calls -/
theorem tracks_after (calls : List (DetectorCall (TimedPressure K))) :
    Tracks (after calls).2 (recent calls) ∧
      ((after calls).1 = true ↔ ∀ back < 25, Raised (recent calls) back) := by
  induction calls with
  | nil => exact tracks_fresh
  | cons call earlier inductionHypothesis =>
      match call with
      | .reset => exact tracks_fresh
      | .update sample false => exact tracks_fresh
      | .update sample true => exact tracks_update inductionHypothesis.1 sample

end PressureApexDetector

/-! ### The acceleration detector -/

/-- `ax_g`, `ay_g` and `az_g` -/
structure AccelerationVector (K : Type) where
  x : K
  y : K
  z : K

/-- `x * x + y * y + z * z` of the means of full rings -/
def squaredMean (samples : List (AccelerationVector K)) : K :=
  let x : K := mean 20 (samples.map (·.x))
  let y : K := mean 20 (samples.map (·.y))
  let z : K := mean 20 (samples.map (·.z))
  x * x + y * y + z * z

/-- `x * x + y * y + z * z > 4.0` -/
def accelerates (samples : List (AccelerationVector K)) : Bool := decide (4 < squaredMean samples)

theorem accelerates_perm {samples others : List (AccelerationVector K)}
    (perm : samples.Perm others) : accelerates samples = accelerates others := by
  unfold accelerates squaredMean
  rw [mean_perm (perm.map fun sample => sample.x), mean_perm (perm.map fun sample => sample.y),
    mean_perm (perm.map fun sample => sample.z)]

namespace ImuLiftoffDetector

/-- The usable samples since the last reset, the latest first -/
def held {α : Type} : List (DetectorCall α) → List α
  | .update sample true :: earlier => sample :: held earlier
  | .update _ false :: earlier => held earlier
  | _ => []

/-- The latest call was an update with a usable sample, and the last 20 usable samples have a mean above
2 g. -/
def Accelerated : List (DetectorCall (AccelerationVector K)) → Prop
  | .update sample true :: earlier =>
      20 ≤ (sample :: held earlier).length ∧
        4 < squaredMean ((sample :: held earlier).take 20)
  | _ => False

/-- What a call returns, and the detector after it -/
def call (detector : ImuLiftoffDetector (AccelerationVector K)) :
    DetectorCall (AccelerationVector K) → Bool × ImuLiftoffDetector (AccelerationVector K)
  | .update sample usable => detector.update accelerates sample usable
  | .reset => (false, {})

/-- What the calls return last, and the detector after them -/
def after :
    List (DetectorCall (AccelerationVector K)) → Bool × ImuLiftoffDetector (AccelerationVector K)
  | [] => (false, {})
  | latest :: earlier => call (after earlier).2 latest

/-- The detector has seen the calls, and counts those that accelerated. -/
structure Follows (detector : ImuLiftoffDetector (AccelerationVector K))
    (calls : List (DetectorCall (AccelerationVector K))) : Prop where
  ring : detector.ring.Holds (held calls)
  streak : detector.streak.Counts fun back => Accelerated (calls.drop back)

theorem full_of_accelerated {calls : List (DetectorCall (AccelerationVector K))}
    (accelerated : Accelerated calls) : 20 ≤ (held calls).length := by
  match calls with
  | .update sample true :: earlier => exact accelerated.1

/-- A call that does not accelerate is no detection. -/
theorem not_all {calls : List (DetectorCall (AccelerationVector K))} (fails : ¬ Accelerated calls) :
    false = true ↔ ∀ back < 50, Accelerated (calls.drop back) :=
  iff_of_false Bool.false_ne_true fun all => fails (all 0 (by decide))

/-- An update with a usable sample -/
theorem follows_update {detector : ImuLiftoffDetector (AccelerationVector K)}
    {earlier : List (DetectorCall (AccelerationVector K))} (follows : detector.Follows earlier)
    (sample : AccelerationVector K) :
    (detector.update accelerates sample true).2.Follows (.update sample true :: earlier) ∧
      ((detector.update accelerates sample true).1 = true ↔
        ∀ back < 50, Accelerated ((DetectorCall.update sample true :: earlier).drop back)) := by
  have pushed := follows.ring.push (by decide) sample
  have compared : accelerates (detector.ring.push sample).samples = true ↔
      4 < squaredMean ((sample :: held earlier).take 20) := by
    rw [accelerates_perm pushed.perm]
    exact decide_eq_true_iff
  unfold ImuLiftoffDetector.update
  dsimp only
  rw [if_neg (by decide)]
  by_cases full : 20 ≤ (sample :: held earlier).length
  · rw [if_neg (by simp [pushed.full_iff.mpr full])]
    have judged : ∀ streak : Streak 50 (AccelerationVector K),
        (streak.Counts fun back =>
          Accelerated ((DetectorCall.update sample true :: earlier).drop back)) →
        Follows { ring := detector.ring.push sample, streak } (.update sample true :: earlier) ∧
          (streak.fires = true ↔
            ∀ back < 50, Accelerated ((DetectorCall.update sample true :: earlier).drop back)) :=
      fun streak counts => ⟨⟨pushed, counts⟩, counts.fires_iff⟩
    apply judged
    split
    · rename_i accelerating
      exact follows.streak.extend _ ⟨full, compared.mp accelerating⟩ fun back => Iff.rfl
    · rename_i slow
      exact Streak.counts_empty fun accelerated => slow (compared.mpr accelerated.2)
  · have room : ¬ (detector.ring.push sample).full = true := fun filled =>
      full (pushed.full_iff.mp filled)
    have unjudged : ¬ Accelerated (DetectorCall.update sample true :: earlier) :=
      fun accelerated => full accelerated.1
    rw [if_pos (by simp [room])]
    refine ⟨⟨pushed, follows.streak.unjudged (fun accelerated => full ?_) unjudged⟩, not_all unjudged⟩
    exact (full_of_accelerated accelerated).trans (Nat.le_succ _)

/-- What the detector keeps and returns after any calls -/
theorem follows_after (calls : List (DetectorCall (AccelerationVector K))) :
    (after calls).2.Follows calls ∧
      ((after calls).1 = true ↔ ∀ back < 50, Accelerated (calls.drop back)) := by
  induction calls with
  | nil => exact ⟨⟨SampleRing.holds_empty, Streak.counts_empty id⟩, not_all id⟩
  | cons call earlier inductionHypothesis =>
      match call with
      | .reset => exact ⟨⟨SampleRing.holds_empty, Streak.counts_empty id⟩, not_all id⟩
      | .update sample false =>
          exact ⟨⟨inductionHypothesis.1.ring, Streak.counts_empty id⟩, not_all id⟩
      | .update sample true => exact follows_update inductionHypothesis.1 sample

end ImuLiftoffDetector

/-! ### The logic of a flight epoch -/

/-- What `AirDataFlightLogic::update` is called with -/
structure AirDataUpdate (K : Type) where
  flightEpoch : UInt32
  state : MissionState
  elapsedUs : UInt64
  pressure : K
  usable : Bool

/-- Which detector a state belongs to -/
inductive DetectionPhase where
  | liftoff
  | apex
  | others
deriving DecidableEq

def DetectionPhase.of : MissionState → DetectionPhase
  | .liftoffDetection => .liftoff
  | .engineBurn | .control => .apex
  | _ => .others

namespace AirDataUpdate

/-- Neither the flight epoch nor the phase has changed, and neither update is in command receive. -/
def Continues (update earlier : AirDataUpdate K) : Prop :=
  update.flightEpoch = earlier.flightEpoch ∧ update.state ≠ .commandReceive ∧
    earlier.state ≠ .commandReceive ∧
    DetectionPhase.of update.state = DetectionPhase.of earlier.state

instance (update earlier : AirDataUpdate K) : Decidable (update.Continues earlier) :=
  inferInstanceAs (Decidable (_ ∧ _))

/-- The updates since the last change of the flight epoch or the phase, or command receive -/
def segment : List (AirDataUpdate K) → List (AirDataUpdate K)
  | update :: earlier :: history =>
      if update.Continues earlier then update :: segment (earlier :: history) else [update]
  | history => history

theorem segment_cons {α : Type} (update : AirDataUpdate α) (earlier : List (AirDataUpdate α)) :
    ∃ rest, segment (update :: earlier) = update :: rest := by
  cases earlier with
  | nil => exact ⟨[], rfl⟩
  | cons before history =>
      rw [segment]
      split
      · exact ⟨_, rfl⟩
      · exact ⟨[], rfl⟩

/-- A segment is one segment. -/
theorem segment_segment {α : Type} (history : List (AirDataUpdate α)) :
    segment (segment history) = segment history := by
  induction history with
  | nil => rfl
  | cons update earlier inductionHypothesis =>
      cases earlier with
      | nil => rfl
      | cons before history =>
          obtain ⟨rest, starts⟩ := segment_cons before history
          rw [segment]
          split
          · rename_i continues
            rw [starts] at inductionHypothesis ⊢
            rw [segment, if_pos continues, inductionHypothesis]
          · rfl

/-- The call that the liftoff detector gets -/
def liftoffCall (update : AirDataUpdate K) : DetectorCall K :=
  if update.state = .liftoffDetection then .update update.pressure update.usable else .reset

/-- The call that the apex detector gets -/
def apexCall (update : AirDataUpdate K) : DetectorCall (TimedPressure K) :=
  .update ⟨update.pressure, update.elapsedUs⟩
    (update.usable && (update.state == .engineBurn || update.state == .control))

end AirDataUpdate

namespace AirDataFlightLogic

/-- An update, as the calls that the detectors get -/
theorem update_eq (logic : AirDataFlightLogic K) (update : AirDataUpdate K) :
    let begun := logic.begun update.flightEpoch update.state
    let liftoff := LpsLiftoffDetector.call begun.liftoffDetector update.liftoffCall
    let apex := PressureApexDetector.call begun.apexDetector update.apexCall
    logic.update falls rises update.flightEpoch update.state update.elapsedUs update.pressure
        update.usable =
      ({ flightEpoch := update.flightEpoch
         lpsLiftoffDetected := liftoff.1
         pressureApexDetected := apex.1 },
        { liftoffDetector := liftoff.2
          apexDetector := apex.2
          flightEpoch := update.flightEpoch }) := by
  have epoch : (logic.begun update.flightEpoch update.state).flightEpoch = update.flightEpoch :=
    begun_flightEpoch _ _
  have liftoff : ∀ detector : LpsLiftoffDetector K,
      LpsLiftoffDetector.call detector update.liftoffCall =
        if update.state = .liftoffDetection then detector.update falls update.pressure update.usable
        else (false, {}) := by
    intro detector
    unfold AirDataUpdate.liftoffCall
    split <;> rfl
  dsimp only
  rw [liftoff]
  unfold AirDataFlightLogic.update
  dsimp only
  rw [epoch]
  rfl

/-- The liftoff detector starts afresh after an update of another phase. -/
theorem call_of_not_liftoff (detector : LpsLiftoffDetector K) {update : AirDataUpdate K}
    (elsewhere : DetectionPhase.of update.state ≠ .liftoff) :
    LpsLiftoffDetector.call detector update.liftoffCall = (false, {}) := by
  have state : update.state ≠ .liftoffDetection := by
    intro same
    rw [same] at elsewhere
    exact elsewhere rfl
  rw [AirDataUpdate.liftoffCall, if_neg state, LpsLiftoffDetector.call]

/-- The apex detector starts afresh after an update of another phase. -/
theorem call_of_not_apex (detector : PressureApexDetector K) {update : AirDataUpdate K}
    (elsewhere : DetectionPhase.of update.state ≠ .apex) :
    PressureApexDetector.call detector update.apexCall = (false, {}) := by
  have state : (update.state == .engineBurn || update.state == .control) = false := by
    revert elsewhere
    cases update.state <;> decide
  rw [AirDataUpdate.apexCall, state, Bool.and_false]
  rfl

/-- An update whose detector has seen nothing -/
theorem update_afresh {logic : AirDataFlightLogic K} {update : AirDataUpdate K}
    (liftoff : DetectionPhase.of update.state = .liftoff →
      (logic.begun update.flightEpoch update.state).liftoffDetector = {})
    (apex : DetectionPhase.of update.state = .apex →
      (logic.begun update.flightEpoch update.state).apexDetector = {}) :
    logic.update falls rises update.flightEpoch update.state update.elapsedUs update.pressure
        update.usable =
      ({ flightEpoch := update.flightEpoch
         lpsLiftoffDetected := (LpsLiftoffDetector.after [update.liftoffCall]).1
         pressureApexDetected := (PressureApexDetector.after [update.apexCall]).1 },
        { liftoffDetector := (LpsLiftoffDetector.after [update.liftoffCall]).2
          apexDetector := (PressureApexDetector.after [update.apexCall]).2
          flightEpoch := update.flightEpoch }) := by
  have first : LpsLiftoffDetector.call (logic.begun update.flightEpoch update.state).liftoffDetector
      update.liftoffCall = LpsLiftoffDetector.after [update.liftoffCall] := by
    by_cases phase : DetectionPhase.of update.state = .liftoff
    · rw [liftoff phase]
      rfl
    · rw [call_of_not_liftoff _ phase]
      exact (call_of_not_liftoff _ phase).symm
  have second : PressureApexDetector.call (logic.begun update.flightEpoch update.state).apexDetector
      update.apexCall = PressureApexDetector.after [update.apexCall] := by
    by_cases phase : DetectionPhase.of update.state = .apex
    · rw [apex phase]
      rfl
    · rw [call_of_not_apex _ phase]
      exact (call_of_not_apex _ phase).symm
  rw [update_eq, first, second]

/-- What the updates return last, and the logic after them -/
def after : List (AirDataUpdate K) → AirDataFlightEvent × AirDataFlightLogic K
  | [] => ({}, {})
  | latest :: earlier =>
      (after earlier).2.update falls rises latest.flightEpoch latest.state latest.elapsedUs
        latest.pressure latest.usable

/-- The detectors see the updates of the segment alone. -/
theorem after_cons (update : AirDataUpdate K) (earlier : List (AirDataUpdate K)) :
    let updates := AirDataUpdate.segment (update :: earlier)
    let liftoff := LpsLiftoffDetector.after (updates.map (·.liftoffCall))
    let apex := PressureApexDetector.after (updates.map (·.apexCall))
    after (update :: earlier) =
      ({ flightEpoch := update.flightEpoch
         lpsLiftoffDetected := liftoff.1
         pressureApexDetected := apex.1 },
        { liftoffDetector := liftoff.2
          apexDetector := apex.2
          flightEpoch := update.flightEpoch }) := by
  induction earlier generalizing update with
  | nil =>
      have begun : (({} : AirDataFlightLogic K).begun update.flightEpoch update.state) =
          { flightEpoch := update.flightEpoch } := by
        unfold AirDataFlightLogic.begun
        split
        · rfl
        · rename_i same
          rw [not_not.mp (not_or.mp same).1]
      exact update_afresh (fun _ => congrArg AirDataFlightLogic.liftoffDetector begun)
        fun _ => congrArg AirDataFlightLogic.apexDetector begun
  | cons before history inductionHypothesis =>
      have known := inductionHypothesis before
      obtain ⟨rest, starts⟩ := AirDataUpdate.segment_cons before history
      by_cases continues : update.Continues before
      · have kept : (after (before :: history)).2.begun update.flightEpoch update.state =
            (after (before :: history)).2 := by
          refine if_neg (not_or.mpr ⟨not_not.mpr ?_, continues.2.1⟩)
          rw [known]
          exact continues.1
        rw [after, update_eq, kept, known, AirDataUpdate.segment, if_pos continues]
        rfl
      · have single : AirDataUpdate.segment (update :: before :: history) = [update] := by
          rw [AirDataUpdate.segment, if_neg continues]
        have changes : update.flightEpoch = (after (before :: history)).2.flightEpoch →
            update.state ≠ .commandReceive → DetectionPhase.of update.state ≠ .others →
            DetectionPhase.of before.state ≠ DetectionPhase.of update.state := by
          intro epoch state phase same
          rw [known] at epoch
          refine continues ⟨epoch, state, ?_, same.symm⟩
          intro received
          rw [received] at same
          exact phase same.symm
        rw [single]
        apply update_afresh
        · intro phase
          unfold AirDataFlightLogic.begun
          split
          · rfl
          · rename_i stays
            have other := changes (not_not.mp (not_or.mp stays).1) (not_or.mp stays).2
              (by rw [phase]; decide)
            rw [known, starts]
            exact congrArg Prod.snd (call_of_not_liftoff _ (phase ▸ other))
        · intro phase
          unfold AirDataFlightLogic.begun
          split
          · rfl
          · rename_i stays
            have other := changes (not_not.mp (not_or.mp stays).1) (not_or.mp stays).2
              (by rw [phase]; decide)
            rw [known, starts]
            exact congrArg Prod.snd (call_of_not_apex _ (phase ▸ other))

/-- The events depend on the updates of the segment alone. -/
theorem event_of_segment (history : List (AirDataUpdate K)) :
    (after history).1 = (after (AirDataUpdate.segment history)).1 := by
  induction history with
  | nil => rfl
  | cons update earlier _ =>
      have whole := after_cons update earlier
      have again := AirDataUpdate.segment_segment (update :: earlier)
      obtain ⟨rest, starts⟩ := AirDataUpdate.segment_cons update earlier
      have part := after_cons update rest
      rw [starts] at whole again ⊢
      rw [again] at part
      rw [whole, part]

end AirDataFlightLogic

/-- In exact arithmetic, over every history: each detector returns true exactly when its latest updates all
passed, and the events of the logic depend only on the updates since the flight epoch or the phase has
changed or a command receive update came. -/
theorem detectors_meet_specification :
    (∀ calls : List (DetectorCall K),
        (LpsLiftoffDetector.after calls).1 = true ↔ ∀ back < 5, Dropped (recent calls) back) ∧
      (∀ calls : List (DetectorCall (TimedPressure K)),
        (PressureApexDetector.after calls).1 = true ↔ ∀ back < 25, Raised (recent calls) back) ∧
      (∀ calls : List (DetectorCall (AccelerationVector K)),
        (ImuLiftoffDetector.after calls).1 = true ↔
          ∀ back < 50, ImuLiftoffDetector.Accelerated (calls.drop back)) ∧
      ∀ history : List (AirDataUpdate K),
        (AirDataFlightLogic.after history).1 =
          (AirDataFlightLogic.after (AirDataUpdate.segment history)).1 :=
  ⟨fun calls => (LpsLiftoffDetector.follows_after calls).2,
    fun calls => (PressureApexDetector.tracks_after calls).2,
    fun calls => (ImuLiftoffDetector.follows_after calls).2, AirDataFlightLogic.event_of_segment⟩

end MissionBoard.Sensors
