import MissionBoard.Numeric.Double

/-!
Owns the fin overtravel guard of `control/fin_overtravel_guard.cpp`: the latch and
the two facts about the latest sample, with the operations that set and clear them.
The three atomics are one value here; a call is one step.
-/

namespace MissionBoard.Control

/-- `board::kFinOvertravelFaultLimitRad`, the double nearest to 0.34906585039886590. -/
def kFinOvertravelFaultLimitRad : ℚ := 6288211335136391 / 2 ^ 54

/-- The guard's atomics, in `finOvertravelStatus` order. -/
structure FinOvertravelGuard where
  faultLatched : Bool := false
  sampleValid : Bool := false
  insideFaultLimit : Bool := false
deriving DecidableEq

/-- `usable_sample` of `observeFinOvertravel`. -/
def usableSample (angleRad : Double) (validSample : Bool) : Bool :=
  validSample && angleRad.isFinite

/-- `inside` of `observeFinOvertravel`. -/
def insideLimit (angleRad : Double) (validSample : Bool) : Bool :=
  usableSample angleRad validSample && angleRad.absLe kFinOvertravelFaultLimitRad

namespace FinOvertravelGuard

/-- `observeFinOvertravel` -/
def observe (guard : FinOvertravelGuard) (angleRad : Double) (validSample : Bool) :
    FinOvertravelGuard where
  faultLatched :=
    guard.faultLatched ||
      (usableSample angleRad validSample && !insideLimit angleRad validSample)
  sampleValid := usableSample angleRad validSample
  insideFaultLimit := insideLimit angleRad validSample

/-- `clearFinOvertravelIfRecoverable`: the guard after the call, and its result. -/
def clearIfRecoverable (guard : FinOvertravelGuard) : Bool × FinOvertravelGuard :=
  if !guard.faultLatched then (true, guard)
  else if !guard.sampleValid || !guard.insideFaultLimit then (false, guard)
  else (true, { guard with faultLatched := false })

/-- `clearFinOvertravelFault` -/
def clearFault (guard : FinOvertravelGuard) : FinOvertravelGuard :=
  { guard with faultLatched := false }

/-- The guard after `clearFinOvertravelIfRecoverable`, whose callers drop the result. -/
def recovered (guard : FinOvertravelGuard) : FinOvertravelGuard := guard.clearIfRecoverable.2

/-- Recovery clears the latch exactly when the stored sample is usable and inside. -/
theorem recovered_eq (guard : FinOvertravelGuard) :
    guard.recovered =
      { guard with
        faultLatched :=
          guard.faultLatched && !(guard.sampleValid && guard.insideFaultLimit) } := by
  obtain ⟨faultLatched, sampleValid, insideFaultLimit⟩ := guard
  cases faultLatched <;> cases sampleValid <;> cases insideFaultLimit <;> rfl

@[simp] theorem recovered_sampleValid (guard : FinOvertravelGuard) :
    guard.recovered.sampleValid = guard.sampleValid := by
  rw [recovered_eq]

@[simp] theorem recovered_insideFaultLimit (guard : FinOvertravelGuard) :
    guard.recovered.insideFaultLimit = guard.insideFaultLimit := by
  rw [recovered_eq]

/-- A latch that recovery removes was held over a usable sample inside the limit. -/
theorem sample_of_recovered {guard : FinOvertravelGuard} (latched : guard.faultLatched = true)
    (cleared : guard.recovered.faultLatched = false) :
    guard.sampleValid = true ∧ guard.insideFaultLimit = true := by
  rw [recovered_eq] at cleared
  simpa [latched] using cleared

/-- Recovery never sets the latch. -/
theorem faultLatched_of_recovered {guard : FinOvertravelGuard}
    (latched : guard.recovered.faultLatched = true) : guard.faultLatched = true := by
  rw [recovered_eq] at latched
  simp only [Bool.and_eq_true] at latched
  exact latched.1

end FinOvertravelGuard

end MissionBoard.Control
