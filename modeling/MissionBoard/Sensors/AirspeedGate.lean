import MissionBoard.Library.Hysteresis
import MissionBoard.Library.Run
import MissionBoard.Numeric.DoubleArithmetic

/-!
Owns `AirspeedGate` of `sensors/sensor_health.cpp`, and that its two counters and its flag say of
the samples since the last break what a switch with hysteresis says of them.
-/

namespace MissionBoard.Sensors

/-- `AirspeedGate::kEntrySamples` -/
def kEntrySamples : ℕ := 50

/-- `AirspeedGate::kStopSamples` -/
def kStopSamples : ℕ := 20

/-- `AirspeedGate` -/
structure AirspeedGate where
  entryCount : ℕ := 0
  stopCount : ℕ := 0
  aboveThreshold : Bool := false
deriving DecidableEq

/-- A call of the gate -/
inductive GateCall where
  | update (available : Bool) (airspeedMps : Double)
  | reset
deriving DecidableEq

namespace AirspeedGate

/-- `update` -/
def update (gate : AirspeedGate) (available : Bool) (airspeedMps : Double) : Bool × AirspeedGate :=
  if !available || !airspeedMps.isFinite then
    (false, { entryCount := 0, stopCount := kStopSamples, aboveThreshold := false })
  else if Double.lt (.finite 60) airspeedMps then
    let entryCount := min kEntrySamples (gate.entryCount + 1)
    let aboveThreshold := if kEntrySamples ≤ entryCount then true else gate.aboveThreshold
    (aboveThreshold,
      { entryCount := entryCount, stopCount := 0, aboveThreshold := aboveThreshold })
  else
    let stopCount := min kStopSamples (gate.stopCount + 1)
    let aboveThreshold := if kStopSamples ≤ stopCount then false else gate.aboveThreshold
    (aboveThreshold,
      { entryCount := 0, stopCount := stopCount, aboveThreshold := aboveThreshold })

/-- `reset` -/
def reset (_gate : AirspeedGate) : AirspeedGate := {}

def call (gate : AirspeedGate) : GateCall → AirspeedGate
  | .update available airspeedMps => (gate.update available airspeedMps).2
  | .reset => gate.reset

end AirspeedGate

/-! ### The samples since the last break -/

/-- A sample that the gate can use -/
def GateCall.usable : GateCall → Bool
  | .update available airspeedMps => available && airspeedMps.isFinite
  | .reset => false

/-- A sample above 60 m/s -/
def GateCall.fast : GateCall → Bool
  | .update _ airspeedMps => Double.lt (.finite 60) airspeedMps
  | .reset => false

/-- The samples since the last one that could not be used or the last reset, the latest first -/
def GateCall.recent (calls : List GateCall) : List GateCall := calls.reverse.takeWhile usable

namespace AirspeedGate

open Hysteresis

/-- What the counters and the flag say of the samples since the last break -/
structure Follows (gate : AirspeedGate) (recent : List GateCall) : Prop where
  entry : gate.entryCount = min kEntrySamples (latest GateCall.fast recent)
  stop : gate.aboveThreshold = true →
    gate.stopCount = min kStopSamples (latest (fun sample => !sample.fast) recent)
  above : gate.aboveThreshold = true ↔ On GateCall.fast kEntrySamples kStopSamples recent

variable {gate : AirspeedGate} {recent : List GateCall} {available : Bool} {airspeedMps : Double}

/-- Nothing is known after a break. -/
theorem follows_nil (entry : gate.entryCount = 0) (below : gate.aboveThreshold = false) :
    gate.Follows [] := by
  refine ⟨entry, fun above => ?_, fun above => ?_, fun opened => ?_⟩
  · rw [below] at above
    cases above
  · rw [below] at above
    cases above
  · exact absurd opened (not_on_nil (by decide))

theorem not_broken (usable : (GateCall.update available airspeedMps).usable = true) :
    ¬ (!available || !airspeedMps.isFinite) = true := by
  rw [← Bool.not_and, show (available && airspeedMps.isFinite) = true from usable]
  exact Bool.false_ne_true

theorem Follows.update_fast (follows : gate.Follows recent)
    (usable : (GateCall.update available airspeedMps).usable = true)
    (fast : (GateCall.update available airspeedMps).fast = true) :
    (gate.update available airspeedMps).2.Follows (.update available airspeedMps :: recent) := by
  have counted := @latest_cons_of_pos _ GateCall.fast recent _ fast
  have above60 : Double.lt (.finite 60) airspeedMps = true := fast
  have entry := follows.entry
  unfold update
  rw [if_neg (not_broken usable), if_pos above60]
  refine ⟨?_, fun _ => ?_, ?_⟩
  · show min kEntrySamples (gate.entryCount + 1) = _
    rw [counted, entry]
    omega
  · rw [latest_cons_of_neg (by rw [fast]; exact Bool.false_ne_true)]
    rfl
  · rw [on_cons_of_high (by decide) fast, ← follows.above, counted]
    show (if kEntrySamples ≤ min kEntrySamples (gate.entryCount + 1) then true
      else gate.aboveThreshold) = true ↔ _
    by_cases complete : kEntrySamples ≤ latest GateCall.fast recent + 1
    · rw [if_pos (by omega)]
      exact iff_of_true rfl (Or.inl complete)
    · rw [if_neg (by omega)]
      exact (or_iff_right complete).symm

theorem Follows.update_slow (follows : gate.Follows recent)
    (usable : (GateCall.update available airspeedMps).usable = true)
    (slow : ¬ (GateCall.update available airspeedMps).fast = true) :
    (gate.update available airspeedMps).2.Follows (.update available airspeedMps :: recent) := by
  have low : (!(GateCall.update available airspeedMps).fast) = true := by
    rw [Bool.eq_false_iff.mpr slow]
    rfl
  have counted := @latest_cons_of_pos _ (fun sample : GateCall => !sample.fast) recent _ low
  have within60 : ¬ Double.lt (.finite 60) airspeedMps = true := slow
  have stop := follows.stop
  unfold update
  rw [if_neg (not_broken usable), if_neg within60]
  refine ⟨?_, fun above => ?_, ?_⟩
  · rw [latest_cons_of_neg slow]
    rfl
  · show min kStopSamples (gate.stopCount + 1) = _
    change (if kStopSamples ≤ min kStopSamples (gate.stopCount + 1) then false
      else gate.aboveThreshold) = true at above
    split at above
    · cases above
    · rw [counted, stop above]
      omega
  · rw [on_cons_of_low (by decide) slow, ← follows.above, counted]
    show (if kStopSamples ≤ min kStopSamples (gate.stopCount + 1) then false
      else gate.aboveThreshold) = true ↔ _
    cases above : gate.aboveThreshold with
    | false => simp
    | true =>
        rw [stop above]
        split
        · exact iff_of_false Bool.false_ne_true fun both => by
            have short := both.2
            omega
        · exact iff_of_true rfl ⟨rfl, by omega⟩

/-- Every call leaves the gate with what the samples since the last break say. -/
theorem follows_after (calls : List GateCall) :
    (Run.after call {} calls).Follows (GateCall.recent calls) := by
  induction calls using List.reverseRecOn with
  | nil => exact follows_nil rfl rfl
  | append_singleton calls last inductionHypothesis =>
      rw [Run.after_concat, GateCall.recent, List.reverse_append, List.reverse_singleton,
        List.singleton_append]
      by_cases usable : last.usable = true
      · rw [List.takeWhile_cons_of_pos usable]
        cases last with
        | reset => cases usable
        | update available airspeedMps =>
            by_cases fast : (GateCall.update available airspeedMps).fast = true
            · exact inductionHypothesis.update_fast usable fast
            · exact inductionHypothesis.update_slow usable fast
      · rw [List.takeWhile_cons_of_neg usable]
        cases last with
        | reset => exact follows_nil rfl rfl
        | update available airspeedMps =>
            have broken : (!available || !airspeedMps.isFinite) = true := by
              rw [← Bool.not_and]
              exact Bool.not_eq_true' _ ▸ Bool.eq_false_iff.mpr usable
            simp only [call, update]
            rw [if_pos broken]
            exact follows_nil rfl rfl

/-- After every update, the gate is above the threshold when the sample can be used and, since the
last break, a run of fast samples was completed that no run of slow ones has followed. -/
theorem aboveThreshold_iff (calls : List GateCall) (available : Bool) (airspeedMps : Double) :
    (Run.after call {} (calls ++ [.update available airspeedMps])).aboveThreshold =
        ((Run.after call {} calls).update available airspeedMps).1 ∧
      ((Run.after call {} (calls ++ [.update available airspeedMps])).aboveThreshold = true ↔
        available = true ∧ airspeedMps.isFinite = true ∧
          On GateCall.fast kEntrySamples kStopSamples
            (GateCall.recent (calls ++ [.update available airspeedMps]))) := by
  have follows := follows_after (calls ++ [.update available airspeedMps])
  constructor
  · rw [Run.after_concat]
    simp only [call, update]
    split_ifs <;> rfl
  · rw [follows.above, ← and_assoc, iff_and_self, ← Bool.and_eq_true]
    intro opened
    by_contra broken
    have unusable : ¬ (GateCall.update available airspeedMps).usable = true := broken
    rw [GateCall.recent, List.reverse_append, List.reverse_singleton, List.singleton_append,
      List.takeWhile_cons_of_neg unusable] at opened
    exact not_on_nil (by decide) opened

end AirspeedGate

end MissionBoard.Sensors
