import Mathlib.Algebra.BigOperators.Group.List.Basic
import MissionBoard.Library.RingBuffer
import MissionBoard.Library.Run
import MissionBoard.Numeric.Double

/-!
Owns `DifferentialPressureConditioner` of `sensors/airspeed_estimator.cpp` in exact arithmetic: the
zero that it takes from the first samples, and the moving average of the samples after them.

What it should return is stated over the calls themselves, the latest first. The running sum agrees
with that because the slots of the window hold the latest accepted samples.
-/

namespace MissionBoard.Sensors

/-- `ConditionedDifferentialPressure` -/
structure ConditionedDifferentialPressure where
  pressurePa : ℚ := 0
  zeroValid : Bool := false
  valid : Bool := false
  negativeBeyondTolerance : Bool := false
deriving DecidableEq

/-- `DifferentialPressureConditioner::kMaximumMovingAverageSamples` -/
def kMaximumMovingAverageSamples : ℕ := 32

/-- `DifferentialPressureConditioner` -/
structure DifferentialPressureConditioner where
  requiredZeroSamples : UInt16
  movingAverageSamples : ℕ
  negativeTolerancePa : Double
  zeroSumPa : ℚ := 0
  zeroOffsetPa : ℚ := 0
  zeroCount : UInt16 := 0
  zeroValid : Bool := false
  window : ℕ → ℚ := fun _ => 0
  windowHead : ℕ := 0
  windowCount : ℕ := 0
  windowSumPa : ℚ := 0

/-- A call of the conditioner -/
inductive ConditionerCall where
  | updateZero (differentialPressurePa : Double) (calibrationAllowed : Bool)
  | update (differentialPressurePa : Double)
  | reset
deriving DecidableEq

namespace DifferentialPressureConditioner

/-- The constructor -/
def configured (zeroCalibrationSamples : UInt16) (movingAverageSamples : UInt8)
    (negativeTolerancePa : Double) : DifferentialPressureConditioner where
  requiredZeroSamples := zeroCalibrationSamples
  movingAverageSamples := min movingAverageSamples.toNat kMaximumMovingAverageSamples
  negativeTolerancePa := negativeTolerancePa

/-- What `reset` and the end of the calibration do to the window -/
def clearWindow (conditioner : DifferentialPressureConditioner) : DifferentialPressureConditioner :=
  { conditioner with window := fun _ => 0, windowHead := 0, windowCount := 0, windowSumPa := 0 }

/-- `reset` -/
def reset (conditioner : DifferentialPressureConditioner) : DifferentialPressureConditioner :=
  { conditioner with
    zeroSumPa := 0, zeroOffsetPa := 0, zeroCount := 0, zeroValid := false }.clearWindow

/-- `updateZero` -/
def updateZero (conditioner : DifferentialPressureConditioner) (differentialPressurePa : Double)
    (calibrationAllowed : Bool) : Bool × DifferentialPressureConditioner :=
  match differentialPressurePa with
  | .infinite _ | .nan => (conditioner.zeroValid, conditioner)
  | .finite pressure =>
      if conditioner.zeroValid || !calibrationAllowed || conditioner.requiredZeroSamples == 0 then
        (conditioner.zeroValid, conditioner)
      else
        let zeroSumPa := conditioner.zeroSumPa + pressure
        let zeroCount := conditioner.zeroCount + 1
        if zeroCount < conditioner.requiredZeroSamples then
          (false, { conditioner with zeroSumPa := zeroSumPa, zeroCount := zeroCount })
        else
          (true,
            { conditioner with
              zeroSumPa := zeroSumPa
              zeroCount := zeroCount
              zeroOffsetPa := zeroSumPa / zeroCount.toNat
              zeroValid := true }.clearWindow)

/-- The end of `update`, for an accepted sample -/
def accept (conditioner : DifferentialPressureConditioner) (corrected : ℚ) :
    ConditionedDifferentialPressure × DifferentialPressureConditioner :=
  let full := conditioner.windowCount = conditioner.movingAverageSamples
  let kept :=
    if full then conditioner.windowSumPa - conditioner.window conditioner.windowHead
    else conditioner.windowSumPa
  let windowCount := if full then conditioner.windowCount else conditioner.windowCount + 1
  let windowSumPa := kept + corrected
  ({ pressurePa := windowSumPa / windowCount, zeroValid := conditioner.zeroValid, valid := true },
    { conditioner with
      window := Function.update conditioner.window conditioner.windowHead corrected
      windowHead := (conditioner.windowHead + 1) % conditioner.movingAverageSamples
      windowCount := windowCount
      windowSumPa := windowSumPa })

/-- `update` -/
def update (conditioner : DifferentialPressureConditioner) (differentialPressurePa : Double) :
    ConditionedDifferentialPressure × DifferentialPressureConditioner :=
  match differentialPressurePa, conditioner.negativeTolerancePa with
  | .finite pressure, .finite tolerance =>
      if !conditioner.zeroValid || conditioner.movingAverageSamples == 0 || tolerance < 0 then
        ({ zeroValid := conditioner.zeroValid }, conditioner)
      else
        let corrected := pressure - conditioner.zeroOffsetPa
        if corrected < -tolerance then
          ({ zeroValid := conditioner.zeroValid, negativeBeyondTolerance := true }, conditioner)
        else conditioner.accept (max 0 corrected)
  | _, _ => ({ zeroValid := conditioner.zeroValid }, conditioner)

def call (conditioner : DifferentialPressureConditioner) :
    ConditionerCall → DifferentialPressureConditioner
  | .updateZero differentialPressurePa calibrationAllowed =>
      (conditioner.updateZero differentialPressurePa calibrationAllowed).2
  | .update differentialPressurePa => (conditioner.update differentialPressurePa).2
  | .reset => conditioner.reset

end DifferentialPressureConditioner

/-! ### What the calls say -/

namespace ConditionerCall

/-- The mean of some samples -/
def mean (samples : List ℚ) : ℚ := samples.sum / samples.length

/-- The finite samples with the calibration allowed since the last reset, the latest first -/
def zeroSamples : List ConditionerCall → List ℚ
  | [] => []
  | .updateZero (.finite pressure) true :: history => pressure :: zeroSamples history
  | .updateZero _ _ :: history => zeroSamples history
  | .update _ :: history => zeroSamples history
  | .reset :: _ => []

/-- The zero: the mean of the first samples, once there are as many as are required -/
def zero (required : ℕ) (history : List ConditionerCall) : Option ℚ :=
  if required ≤ (zeroSamples history).length then
    some (mean ((zeroSamples history).reverse.take required))
  else none

/-- What an accepted sample counts as: corrected by the zero, and not below 0 -/
def corrected (tolerance offset : ℚ) : Double → Option ℚ
  | .finite pressure =>
      if pressure - offset < -tolerance then none else some (max 0 (pressure - offset))
  | .infinite _ | .nan => none

/-- The accepted samples since the zero became valid, the latest first -/
def accepted (required : ℕ) (tolerance : ℚ) : List ConditionerCall → List ℚ
  | [] => []
  | .updateZero _ _ :: history => accepted required tolerance history
  | .update pressure :: history =>
      ((zero required history).bind (corrected tolerance · pressure)).toList ++
        accepted required tolerance history
  | .reset :: _ => []

variable {required : ℕ} {tolerance offset : ℚ} {history : List ConditionerCall}

/-- No sample is lost before the next reset. -/
theorem zeroSamples_cons {call : ConditionerCall} (goesOn : call ≠ .reset) :
    ∃ more, zeroSamples (call :: history) = more ++ zeroSamples history := by
  cases call with
  | updateZero pressure allowed =>
      cases pressure with
      | finite pressure =>
          cases allowed with
          | true => exact ⟨[pressure], rfl⟩
          | false => exact ⟨[], rfl⟩
      | infinite negative => exact ⟨[], rfl⟩
      | nan => exact ⟨[], rfl⟩
  | update pressure => exact ⟨[], rfl⟩
  | reset => exact absurd rfl goesOn

/-- The zero stays until the next reset. -/
theorem zero_cons_of_some {call : ConditionerCall} (goesOn : call ≠ .reset)
    (known : zero required history = some offset) :
    zero required (call :: history) = some offset := by
  obtain ⟨more, longer⟩ := @zeroSamples_cons history call goesOn
  unfold zero at known ⊢
  split at known
  · rename_i enough
    rw [longer, if_pos (by rw [List.length_append]; omega), List.reverse_append,
      List.take_append_of_le_length (by rw [List.length_reverse]; exact enough)]
    exact known
  · cases known

/-- No sample is accepted before there is a zero. -/
theorem accepted_of_none (unknown : zero required history = none) :
    accepted required tolerance history = [] := by
  induction history with
  | nil => rfl
  | cons call history inductionHypothesis =>
      cases call with
      | reset => rfl
      | updateZero pressure allowed =>
          apply inductionHypothesis
          cases before : zero required history with
          | none => rfl
          | some offset =>
              have after := @zero_cons_of_some _ _ _ (.updateZero pressure allowed) (by simp) before
              rw [after] at unknown
              cases unknown
      | update pressure =>
          have before : zero required history = none := unknown
          show ((zero required history).bind (corrected tolerance · pressure)).toList ++
            accepted required tolerance history = []
          rw [before, inductionHypothesis before]
          rfl

end ConditionerCall

namespace DifferentialPressureConditioner

open ConditionerCall

variable {conditioner : DifferentialPressureConditioner} {history : List ConditionerCall}
  {required : UInt16} {average : ℕ} {tolerance : ℚ}

/-- The slots of the window hold the latest of the accepted samples, and their sum is at hand. -/
structure Windows (conditioner : DifferentialPressureConditioner) (average : ℕ)
    (accepted : List ℚ) : Prop where
  head : conditioner.windowHead = accepted.length % average
  count : conditioner.windowCount = min accepted.length average
  sum : conditioner.windowSumPa = (accepted.drop (accepted.length - average)).sum
  slots : RingBuffer.Holds conditioner.window average (accepted.length - average) accepted

theorem windows_clearWindow : conditioner.clearWindow.Windows average [] :=
  ⟨(Nat.zero_mod average).symm, (Nat.zero_min average).symm,
    by rw [List.drop_nil, List.sum_nil]; rfl, RingBuffer.holds_nil⟩

/-- The slot at the head holds the oldest sample of a full window. -/
theorem Windows.oldest {accepted : List ℚ} (windows : conditioner.Windows average accepted)
    (positive : 0 < average) (full : average ≤ accepted.length) :
    ∃ oldest, conditioner.window conditioner.windowHead = oldest ∧
      accepted.drop (accepted.length - average) =
        oldest :: accepted.drop (accepted.length + 1 - average) := by
  have inside : accepted.length - average < accepted.length := by omega
  refine ⟨accepted[accepted.length - average], ?_, ?_⟩
  · rw [windows.head, Nat.mod_eq_sub_mod full]
    exact windows.slots _ inside le_rfl
  · rw [List.drop_eq_getElem_cons inside, Nat.sub_add_comm full]

theorem Windows.accept {accepted : List ℚ} (windows : conditioner.Windows average accepted)
    (same : conditioner.movingAverageSamples = average) (positive : 0 < average) (corrected : ℚ) :
    (conditioner.accept corrected).2.Windows average (accepted ++ [corrected]) ∧
      (conditioner.accept corrected).1.pressurePa =
        mean ((accepted ++ [corrected]).drop (accepted.length + 1 - average)) := by
  have grown : (accepted ++ [corrected]).length = accepted.length + 1 := by
    rw [List.length_append, List.length_singleton]
  have count : (conditioner.accept corrected).2.windowCount = min (accepted.length + 1) average := by
    show (if conditioner.windowCount = conditioner.movingAverageSamples then conditioner.windowCount
      else conditioner.windowCount + 1) = _
    rw [same, windows.count]
    split <;> omega
  have sum : (conditioner.accept corrected).2.windowSumPa =
      ((accepted ++ [corrected]).drop (accepted.length + 1 - average)).sum := by
    show (if conditioner.windowCount = conditioner.movingAverageSamples then
        conditioner.windowSumPa - conditioner.window conditioner.windowHead
      else conditioner.windowSumPa) + corrected = _
    rw [same, windows.count, windows.sum, List.drop_append_of_le_length (by omega),
      List.sum_append, List.sum_singleton]
    by_cases full : average ≤ accepted.length
    · obtain ⟨oldest, held, split⟩ := windows.oldest positive full
      rw [if_pos (by omega), held, split, List.sum_cons, add_sub_cancel_left]
    · rw [if_neg (by omega), Nat.sub_eq_zero_of_le (by omega : accepted.length ≤ average),
        Nat.sub_eq_zero_of_le (by omega : accepted.length + 1 ≤ average)]
  refine ⟨⟨?_, ?_, ?_, ?_⟩, ?_⟩
  · show (conditioner.windowHead + 1) % conditioner.movingAverageSamples = _
    rw [same, windows.head, grown, Nat.mod_add_mod]
  · rw [count, grown]
  · rw [sum, grown]
  · rw [grown]
    have later := windows.slots.consume (by omega : accepted.length - average ≤
      accepted.length + 1 - average)
    have stored := later.store (by omega) corrected
    show RingBuffer.Holds (Function.update conditioner.window conditioner.windowHead corrected) _ _ _
    rw [windows.head]
    exact stored.publish (Function.update_self ..)
  · show (conditioner.accept corrected).2.windowSumPa / (conditioner.accept corrected).2.windowCount =
      _
    rw [sum, count, mean, List.length_drop, grown]
    congr 2
    omega

theorem mean_reverse (samples : List ℚ) : mean samples.reverse = mean samples := by
  rw [mean, mean, List.sum_reverse, List.length_reverse]

/-! ### One call -/

/-- What the conditioner knows of the zero -/
structure Zeroes (conditioner : DifferentialPressureConditioner) (required : UInt16)
    (history : List ConditionerCall) : Prop where
  short : conditioner.zeroValid = false → conditioner.zeroCount < required
  count : conditioner.zeroValid = false →
    conditioner.zeroCount.toNat = (zeroSamples history).length
  sum : conditioner.zeroValid = false → conditioner.zeroSumPa = (zeroSamples history).sum
  known : conditioner.zeroValid = true →
    zero required.toNat history = some conditioner.zeroOffsetPa

/-- What the conditioner says of the calls -/
structure Follows (conditioner : DifferentialPressureConditioner) (required : UInt16) (average : ℕ)
    (tolerance : ℚ) (history : List ConditionerCall) : Prop where
  requires : conditioner.requiredZeroSamples = required
  averages : conditioner.movingAverageSamples = average
  tolerates : conditioner.negativeTolerancePa = .finite tolerance
  zeroes : conditioner.Zeroes required history
  windows : conditioner.Windows average (accepted required.toNat tolerance history).reverse

theorem Zeroes.zero_eq (zeroes : conditioner.Zeroes required history) :
    zero required.toNat history =
      if conditioner.zeroValid then some conditioner.zeroOffsetPa else none := by
  cases valid : conditioner.zeroValid with
  | true => exact zeroes.known valid
  | false =>
      have short := UInt16.lt_iff_toNat_lt.mp (zeroes.short valid)
      rw [zeroes.count valid] at short
      exact if_neg (by omega)

theorem zeroes_reset (positive : 0 < required) :
    conditioner.reset.Zeroes required (.reset :: history) :=
  ⟨fun _ => positive, fun _ => rfl, fun _ => rfl, fun valid => absurd valid Bool.false_ne_true⟩

/-- A call that adds no sample to the zero, on a conditioner that does not change -/
theorem Zeroes.unchanged {call : ConditionerCall} (zeroes : conditioner.Zeroes required history)
    (goesOn : call ≠ .reset)
    (same : conditioner.zeroValid = false → zeroSamples (call :: history) = zeroSamples history) :
    conditioner.Zeroes required (call :: history) where
  short := zeroes.short
  count invalid := by rw [same invalid]; exact zeroes.count invalid
  sum invalid := by rw [same invalid]; exact zeroes.sum invalid
  known valid := zero_cons_of_some goesOn (zeroes.known valid)

theorem Follows.updateZero (follows : conditioner.Follows required average tolerance history)
    (pressure : Double) (allowed : Bool) :
    (conditioner.updateZero pressure allowed).2.Follows required average tolerance
      (.updateZero pressure allowed :: history) := by
  have zeroes := follows.zeroes
  have stays : ∀ same : conditioner.zeroValid = false →
        zeroSamples (.updateZero pressure allowed :: history) = zeroSamples history,
      conditioner.Follows required average tolerance (.updateZero pressure allowed :: history) :=
    fun same => ⟨follows.requires, follows.averages, follows.tolerates,
      zeroes.unchanged (by simp) same, follows.windows⟩
  cases pressure with
  | infinite negative => exact stays fun _ => rfl
  | nan => exact stays fun _ => rfl
  | finite pressure =>
      unfold DifferentialPressureConditioner.updateZero
      dsimp only
      split
      · rename_i closed
        apply stays
        intro invalid
        cases allowed with
        | false => rfl
        | true =>
            have positive : required ≠ 0 := by
              rintro rfl
              exact absurd (zeroes.short invalid) (UInt16.not_lt.mpr (UInt16.zero_le))
            simp [invalid, follows.requires, positive] at closed
      · rename_i opened
        simp only [Bool.or_eq_true, Bool.not_eq_true', beq_iff_eq, not_or,
          Bool.not_eq_true, Bool.not_eq_false] at opened
        obtain ⟨⟨invalid, rfl⟩, -⟩ := opened
        have short := UInt16.lt_iff_toNat_lt.mp (zeroes.short invalid)
        have count := zeroes.count invalid
        have sum := zeroes.sum invalid
        have counted : (conditioner.zeroCount + 1).toNat = (zeroSamples history).length + 1 := by
          have width := required.toNat_lt
          rw [UInt16.toNat_add, ← count]
          exact Nat.mod_eq_of_lt (by show conditioner.zeroCount.toNat + 1 < _; omega)
        have unaccepted : accepted required.toNat tolerance history = [] := by
          apply accepted_of_none
          rw [zeroes.zero_eq, invalid]
          rfl
        have windows := follows.windows
        have same : accepted required.toNat tolerance (.updateZero (.finite pressure) true :: history) =
            [] := unaccepted
        rw [follows.requires]
        split
        · rename_i early
          refine ⟨rfl, follows.averages, follows.tolerates, ⟨fun _ => early, fun _ => counted,
            fun _ => ?_, fun valid => absurd (invalid.symm.trans valid) Bool.false_ne_true⟩, ?_⟩
          · show conditioner.zeroSumPa + pressure = pressure + (zeroSamples history).sum
            rw [sum, add_comm]
          · rw [same, ← unaccepted]
            exact ⟨windows.head, windows.count, windows.sum, windows.slots⟩
        · rename_i last
          rw [UInt16.lt_iff_toNat_lt, counted] at last
          have exactly : required.toNat =
              (zeroSamples (.updateZero (.finite pressure) true :: history)).length := by
            show _ = (zeroSamples history).length + 1
            omega
          refine ⟨rfl, follows.averages, follows.tolerates, ⟨(absurd ·.symm Bool.false_ne_true),
            (absurd ·.symm Bool.false_ne_true), (absurd ·.symm Bool.false_ne_true),
            fun _ => ?_⟩, ?_⟩
          · rw [zero, if_pos (by omega), List.take_of_length_le
              (by rw [List.length_reverse]; omega), mean, List.sum_reverse, List.length_reverse]
            show some ((pressure + (zeroSamples history).sum) / _) =
              some ((conditioner.zeroSumPa + pressure) / _)
            rw [counted, sum, add_comm]
            rfl
          · rw [same]
            exact windows_clearWindow

/-- What the conditioner makes of a sample -/
theorem Follows.accepted_eq (follows : conditioner.Follows required average tolerance history)
    (pressure : Double) :
    accepted required.toNat tolerance (.update pressure :: history) =
      (if conditioner.zeroValid then
        (corrected tolerance conditioner.zeroOffsetPa pressure).toList else []) ++
        accepted required.toNat tolerance history := by
  show ((zero required.toNat history).bind (corrected tolerance · pressure)).toList ++ _ = _
  rw [follows.zeroes.zero_eq]
  cases conditioner.zeroValid <;> rfl

/-- A sample that is rejected leaves the conditioner as it was. -/
theorem Follows.update_of_rejected (follows : conditioner.Follows required average tolerance history)
    (pressure : Double)
    (rejected : conditioner.zeroValid = true →
      corrected tolerance conditioner.zeroOffsetPa pressure = none) :
    (conditioner.update pressure).1.valid = false ∧ (conditioner.update pressure).2 = conditioner := by
  cases pressure with
  | infinite negative => exact ⟨rfl, rfl⟩
  | nan => exact ⟨rfl, rfl⟩
  | finite pressure =>
      unfold DifferentialPressureConditioner.update
      rw [follows.tolerates]
      dsimp only
      split
      · exact ⟨rfl, rfl⟩
      · rename_i opened
        have valid : conditioner.zeroValid = true := by
          by_contra invalid
          simp [invalid] at opened
        have below := rejected valid
        simp only [corrected] at below
        split at below
        · rename_i beyond
          rw [if_pos beyond]
          exact ⟨rfl, rfl⟩
        · cases below

theorem Follows.update_of_accepted (follows : conditioner.Follows required average tolerance history)
    (tolerated : 0 ≤ tolerance) (positive : 0 < average) {pressure : Double} {value : ℚ}
    (valid : conditioner.zeroValid = true)
    (takes : corrected tolerance conditioner.zeroOffsetPa pressure = some value) :
    conditioner.update pressure = conditioner.accept value := by
  cases pressure with
  | infinite negative => cases takes
  | nan => cases takes
  | finite pressure =>
      unfold DifferentialPressureConditioner.update
      rw [follows.tolerates]
      have averages := follows.averages
      have used : ¬ (!conditioner.zeroValid || conditioner.movingAverageSamples == 0 ||
          decide (tolerance < 0)) = true := by
        simp [valid, averages, positive.ne', tolerated]
      simp only [corrected] at takes
      split at takes
      · cases takes
      · rename_i within
        dsimp only
        rw [if_neg used, if_neg within, Option.some.inj takes]

theorem Follows.update (follows : conditioner.Follows required average tolerance history)
    (tolerated : 0 ≤ tolerance) (positive : 0 < average) (pressure : Double) :
    (conditioner.update pressure).2.Follows required average tolerance
        (.update pressure :: history) ∧
      ((conditioner.update pressure).1.valid = true →
        (conditioner.update pressure).1.pressurePa =
          mean ((accepted required.toNat tolerance (.update pressure :: history)).take average)) := by
  have zeroes := follows.zeroes
  have going : conditioner.Zeroes required (.update pressure :: history) :=
    zeroes.unchanged (by simp) fun _ => rfl
  have more := follows.accepted_eq pressure
  by_cases rejected : conditioner.zeroValid = true →
      corrected tolerance conditioner.zeroOffsetPa pressure = none
  · obtain ⟨refused, same⟩ := follows.update_of_rejected pressure rejected
    have none : accepted required.toNat tolerance (.update pressure :: history) =
        accepted required.toNat tolerance history := by
      rw [more]
      cases valid : conditioner.zeroValid with
      | false => rfl
      | true => rw [rejected valid]; rfl
    refine ⟨?_, fun valid => absurd (refused.symm.trans valid) Bool.false_ne_true⟩
    rw [same]
    exact ⟨follows.requires, follows.averages, follows.tolerates, going, none ▸ follows.windows⟩
  · push Not at rejected
    obtain ⟨valid, takes⟩ := rejected
    obtain ⟨value, takes⟩ := Option.ne_none_iff_exists'.mp takes
    have stepped := follows.update_of_accepted tolerated positive valid takes
    have longer : (accepted required.toNat tolerance (.update pressure :: history)).reverse =
        (accepted required.toNat tolerance history).reverse ++ [value] := by
      rw [more, valid, if_pos rfl, takes, Option.toList_some, List.singleton_append,
        List.reverse_cons]
    obtain ⟨windows, average_eq⟩ := follows.windows.accept follows.averages positive value
    rw [stepped]
    refine ⟨⟨follows.requires, follows.averages, follows.tolerates,
      ⟨going.short, going.count, going.sum, going.known⟩, ?_⟩, fun _ => ?_⟩
    · rw [longer]
      exact windows
    · have length := congrArg List.length longer
      rw [List.length_append, List.length_singleton, List.length_reverse] at length
      rw [average_eq, ← longer, ← length, ← List.reverse_take, mean_reverse]

/-- What is rejected: any sample before there is a zero, and then what `corrected` refuses -/
theorem Follows.rejects_iff (follows : conditioner.Follows required average tolerance history)
    (pressure : Double) :
    (zero required.toNat history).bind (corrected tolerance · pressure) = none ↔
      (conditioner.zeroValid = true →
        corrected tolerance conditioner.zeroOffsetPa pressure = none) := by
  rw [follows.zeroes.zero_eq]
  cases conditioner.zeroValid <;> simp

/-- No call but a reset changes a zero that is valid. -/
theorem zero_call (valid : conditioner.zeroValid = true) {next : ConditionerCall}
    (goesOn : next ≠ .reset) :
    (conditioner.call next).zeroValid = true ∧
      (conditioner.call next).zeroOffsetPa = conditioner.zeroOffsetPa := by
  cases next with
  | reset => exact absurd rfl goesOn
  | updateZero pressure allowed =>
      have same : (conditioner.updateZero pressure allowed).2 = conditioner := by
        cases pressure with
        | finite pressure =>
            unfold DifferentialPressureConditioner.updateZero
            simp only [valid, Bool.true_or, if_true]
        | infinite negative => rfl
        | nan => rfl
      show (conditioner.updateZero pressure allowed).2.zeroValid = true ∧ _
      rw [same]
      exact ⟨valid, congrArg zeroOffsetPa same⟩
  | update pressure =>
      show (conditioner.update pressure).2.zeroValid = true ∧
        (conditioner.update pressure).2.zeroOffsetPa = _
      unfold DifferentialPressureConditioner.update
      split
      · dsimp only
        split_ifs
        · exact ⟨valid, rfl⟩
        · exact ⟨valid, rfl⟩
        · exact ⟨valid, rfl⟩
      · exact ⟨valid, rfl⟩

theorem zero_after (valid : conditioner.zeroValid = true) {later : List ConditionerCall}
    (steady : .reset ∉ later) :
    (Run.after call conditioner later).zeroValid = true ∧
      (Run.after call conditioner later).zeroOffsetPa = conditioner.zeroOffsetPa := by
  induction later generalizing conditioner with
  | nil => exact ⟨valid, rfl⟩
  | cons next later inductionHypothesis =>
      rw [List.mem_cons, not_or] at steady
      obtain ⟨kept, same⟩ := zero_call valid (Ne.symm steady.1)
      rw [Run.after_cons, ← same]
      exact inductionHypothesis kept steady.2

/-- A reset takes everything back. -/
theorem Follows.reset (follows : conditioner.Follows required average tolerance history)
    (positive : 0 < required) :
    conditioner.reset.Follows required average tolerance (.reset :: history) :=
  ⟨follows.requires, follows.averages, follows.tolerates, zeroes_reset positive,
    windows_clearWindow⟩

/-! ### Every sequence of calls -/

section

variable {zeroCalibrationSamples : UInt16} {movingAverageSamples : UInt8}
  (zeroPositive : 0 < zeroCalibrationSamples) (averagePositive : 0 < movingAverageSamples)
  (tolerated : 0 ≤ tolerance)

include zeroPositive averagePositive tolerated

theorem follows_after (calls : List ConditionerCall) :
    (Run.after call (configured zeroCalibrationSamples movingAverageSamples (.finite tolerance))
      calls).Follows zeroCalibrationSamples
        (min movingAverageSamples.toNat kMaximumMovingAverageSamples) tolerance calls.reverse := by
  have positive : 0 < min movingAverageSamples.toNat kMaximumMovingAverageSamples :=
    lt_min (UInt8.lt_iff_toNat_lt.mp averagePositive) (by decide)
  induction calls using List.reverseRecOn with
  | nil =>
      exact ⟨rfl, rfl, rfl, ⟨fun _ => zeroPositive, fun _ => rfl, fun _ => rfl,
        fun valid => absurd valid Bool.false_ne_true⟩, @windows_clearWindow (configured _ _ _) _⟩
  | append_singleton calls last inductionHypothesis =>
      rw [Run.after_concat, List.reverse_append, List.reverse_singleton, List.singleton_append]
      cases last with
      | updateZero pressure allowed => exact inductionHypothesis.updateZero pressure allowed
      | update pressure => exact (inductionHypothesis.update tolerated positive pressure).1
      | reset => exact inductionHypothesis.reset zeroPositive

/-- The zero is the mean of the first samples and stays until the next reset; every output is the
mean of the latest accepted samples; and a rejected sample is as if it had not occurred. -/
theorem conditions_samples (calls : List ConditionerCall) :
    let first := configured zeroCalibrationSamples movingAverageSamples (.finite tolerance)
    let conditioner := Run.after call first calls
    let offset := zero zeroCalibrationSamples.toNat calls.reverse
    (if conditioner.zeroValid then some conditioner.zeroOffsetPa else none) = offset ∧
      (∀ later, .reset ∉ later → conditioner.zeroValid = true →
        (Run.after call conditioner later).zeroValid = true ∧
          (Run.after call conditioner later).zeroOffsetPa = conditioner.zeroOffsetPa) ∧
      (∀ pressure, (conditioner.update pressure).1.valid = true ↔
        (offset.bind (corrected tolerance · pressure)).isSome = true) ∧
      (∀ pressure, (conditioner.update pressure).1.valid = true →
        (conditioner.update pressure).1.pressurePa =
          mean ((accepted zeroCalibrationSamples.toNat tolerance
            (.update pressure :: calls.reverse)).take
              (min movingAverageSamples.toNat kMaximumMovingAverageSamples))) ∧
      ∀ pressure, offset.bind (corrected tolerance · pressure) = none →
        ∀ later, Run.after call first (calls ++ .update pressure :: later) =
          Run.after call first (calls ++ later) := by
  intro first conditioner offset
  have positive : 0 < min movingAverageSamples.toNat kMaximumMovingAverageSamples :=
    lt_min (UInt8.lt_iff_toNat_lt.mp averagePositive) (by decide)
  have follows := follows_after zeroPositive averagePositive tolerated calls
  have known : (if conditioner.zeroValid then some conditioner.zeroOffsetPa else none) = offset :=
    follows.zeroes.zero_eq.symm
  refine ⟨known, fun later steady valid => ?_, fun pressure => ?_,
    fun pressure => (follows.update tolerated positive pressure).2, fun pressure rejected later => ?_⟩
  · exact zero_after valid steady
  · rw [Option.isSome_iff_ne_none, Ne, follows.rejects_iff]
    constructor
    · intro valid rejected
      have refused := (follows.update_of_rejected pressure rejected).1
      exact Bool.false_ne_true (refused.symm.trans valid)
    · intro takes
      push Not at takes
      obtain ⟨valid, takes⟩ := takes
      obtain ⟨value, takes⟩ := Option.ne_none_iff_exists'.mp takes
      rw [follows.update_of_accepted tolerated positive valid takes]
      rfl
  · have same := (follows.update_of_rejected pressure ((follows.rejects_iff pressure).mp rejected)).2
    rw [Run.after_append, Run.after_append, Run.after_cons]
    exact congrArg (Run.after call · later) same

end

/-- A zero of 3 Pa from four samples, and a sample of 5 Pa after it -/
def calibrated : List ConditionerCall :=
  [.updateZero (.finite 2) true, .updateZero (.finite 4) true, .updateZero (.finite 2) true,
    .updateZero (.finite 4) true, .update (.finite 5)]

theorem conditions_samples_calibrated :
    ((Run.after call (configured 4 2 (.finite 1)) calibrated).update (.finite 7)).1.pressurePa = 3 :=
  have averages := (@conditions_samples 1 4 2 (by decide) (by decide) (by decide)
    calibrated).2.2.2.1
  (averages (.finite 7) (by decide +kernel)).trans (by decide +kernel)

end DifferentialPressureConditioner

end MissionBoard.Sensors
