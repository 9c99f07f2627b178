import Mathlib.Data.List.Induction
import MissionBoard.Characterization.CharacterizationTypes
import MissionBoard.Library.Run

/-!
Owns `ZeroApproachPlan` and `ZeroApproachController` of `characterization/zero_approach.cpp`: the
targets on the way to zero, how long each one is held, and what ends the approach.

The source compares in 64 bits what it measures in 32, so that no comparison can overflow; integers
stand for both.
-/

namespace MissionBoard.Characterization

/-- `kApproachStepMilliDeg` -/
def kApproachStepMilliDeg : ℤ := 100

/-- `ZeroApproachPlan::kTargetCount` -/
def kTargetCount : ℕ := 11

/-- `kOvershootMarginMilliDeg` -/
def kOvershootMarginMilliDeg : ℤ := 50

/-- `ApproachUpdate` -/
inductive ApproachUpdate where
  | holding
  | targetAdvanced
  | complete
  | overshootAbort
  | monotonicityAbort
  | configurationAbort
  | timeoutAbort
deriving DecidableEq

/-- `sign` of `makeTargets` -/
def ApproachBranch.sign : ApproachBranch → ℤ
  | .fromPositive => 1
  | .fromNegative => -1
  | .none => 0

/-- `makeTargets` -/
def makeTargets (branch : ApproachBranch) : List ℤ :=
  (List.range kTargetCount).map fun index =>
    branch.sign * ((kTargetCount - 1 - index : ℕ) : ℤ) * kApproachStepMilliDeg

/-- `ZeroApproachPlan` -/
structure ZeroApproachPlan where
  branch : ApproachBranch
  targets : List ℤ
  index : ℕ := 0
  toleranceMilliDeg : ℤ
  rateToleranceMilliDegS : ℤ
  requiredDwellSamples : ℕ
  dwellSamples : ℕ := 0
  monotonicToleranceMilliDeg : ℤ
  lastMeasuredMilliDeg : ℤ := 0
  haveLastMeasured : Bool := false
  approachToZeroStarted : Bool := false
  complete : Bool := false
  valid : Bool
deriving DecidableEq

/-- The arguments of `ZeroApproachPlan::update` -/
structure Measurement where
  measuredMilliDeg : ℤ
  rateMilliDegS : ℤ
deriving DecidableEq

namespace ZeroApproachPlan

/-- The constructor -/
def configured (branch : ApproachBranch) (toleranceMilliDeg rateToleranceMilliDegS : ℤ)
    (dwellSamples : ℕ) (monotonicToleranceMilliDeg : ℤ) : ZeroApproachPlan where
  branch := branch
  targets := makeTargets branch
  toleranceMilliDeg := toleranceMilliDeg
  rateToleranceMilliDegS := rateToleranceMilliDegS
  requiredDwellSamples := dwellSamples
  monotonicToleranceMilliDeg := monotonicToleranceMilliDeg
  valid :=
    (branch == .fromPositive || branch == .fromNegative) && 0 ≤ toleranceMilliDeg &&
      0 ≤ rateToleranceMilliDegS && dwellSamples != 0 && 0 ≤ monotonicToleranceMilliDeg

/-- `targetMilliDeg` -/
def targetMilliDeg (plan : ZeroApproachPlan) : ℤ := plan.targets.getD plan.index 0

/-- The measurement has gone past zero. -/
def overshoots (plan : ZeroApproachPlan) (measuredMilliDeg : ℤ) : Bool :=
  (plan.branch == .fromPositive && measuredMilliDeg < -kOvershootMarginMilliDeg) ||
    (plan.branch == .fromNegative && measuredMilliDeg > kOvershootMarginMilliDeg)

/-- `reversed` -/
def reversed (plan : ZeroApproachPlan) (measuredMilliDeg : ℤ) : Bool :=
  (plan.branch == .fromPositive &&
      measuredMilliDeg > plan.lastMeasuredMilliDeg + plan.monotonicToleranceMilliDeg) ||
    (plan.branch == .fromNegative &&
      measuredMilliDeg < plan.lastMeasuredMilliDeg - plan.monotonicToleranceMilliDeg)

/-- `angle_settled && rate_settled`, for one of the targets -/
def settledAt (plan : ZeroApproachPlan) (index : ℕ) (sample : Measurement) : Bool :=
  let angleDelta := sample.measuredMilliDeg - plan.targets.getD index 0
  (-plan.toleranceMilliDeg ≤ angleDelta && angleDelta ≤ plan.toleranceMilliDeg) &&
    (-plan.rateToleranceMilliDegS ≤ sample.rateMilliDegS &&
      sample.rateMilliDegS ≤ plan.rateToleranceMilliDegS)

/-- The end of `update`, for a measurement that is settled -/
def dwell (plan : ZeroApproachPlan) : ApproachUpdate × ZeroApproachPlan :=
  let dwellSamples :=
    if plan.dwellSamples < plan.requiredDwellSamples then plan.dwellSamples + 1
    else plan.dwellSamples
  if dwellSamples < plan.requiredDwellSamples then
    (.holding, { plan with dwellSamples := dwellSamples })
  else if plan.index + 1 ≥ plan.targets.length then
    (.complete, { plan with dwellSamples := 0, complete := true })
  else
    (.targetAdvanced,
      { plan with
        dwellSamples := 0
        index := plan.index + 1
        approachToZeroStarted := if plan.index + 1 = 1 then true else plan.approachToZeroStarted })

/-- The measurement is remembered. -/
def measured (plan : ZeroApproachPlan) (sample : Measurement) : ZeroApproachPlan :=
  { plan with lastMeasuredMilliDeg := sample.measuredMilliDeg, haveLastMeasured := true }

/-- `ZeroApproachPlan::update` -/
def update (plan : ZeroApproachPlan) (sample : Measurement) : ApproachUpdate × ZeroApproachPlan :=
  if !plan.valid then (.configurationAbort, plan)
  else if plan.complete then (.complete, plan)
  else if plan.overshoots sample.measuredMilliDeg then
    (.overshootAbort, { plan with dwellSamples := 0 })
  else if plan.approachToZeroStarted && plan.haveLastMeasured &&
      plan.reversed sample.measuredMilliDeg then
    (.monotonicityAbort, { plan with dwellSamples := 0 })
  else
    let measured := plan.measured sample
    if !measured.settledAt measured.index sample then
      (.holding, { measured with dwellSamples := 0 })
    else measured.dwell

def feed (plan : ZeroApproachPlan) (sample : Measurement) : ZeroApproachPlan :=
  (plan.update sample).2

end ZeroApproachPlan

/-- `ZeroApproachController` -/
structure ZeroApproachController where
  plan : ZeroApproachPlan
  timeoutUs : UInt64
  startedAtUs : UInt64 := 0
  started : Bool := false
deriving DecidableEq

namespace ZeroApproachController

/-- `reset` -/
def reset (controller : ZeroApproachController) (startedAtUs : UInt64) : ZeroApproachController :=
  { controller with startedAtUs := startedAtUs, started := true }

/-- The first measurement starts the time. -/
def running (controller : ZeroApproachController) (nowUs : UInt64) : ZeroApproachController :=
  if !controller.started then controller.reset nowUs else controller

/-- The time is over, or the clock went back. -/
def expired (controller : ZeroApproachController) (nowUs : UInt64) : Bool :=
  nowUs < controller.startedAtUs || nowUs - controller.startedAtUs > controller.timeoutUs

/-- `ZeroApproachController::update` -/
def update (controller : ZeroApproachController) (sample : Measurement) (nowUs : UInt64) :
    ApproachUpdate × ZeroApproachController :=
  let running := controller.running nowUs
  if running.expired nowUs then (.timeoutAbort, running)
  else
    let updated := running.plan.update sample
    (updated.1, { running with plan := updated.2 })

def feed (controller : ZeroApproachController) (sample : Measurement × UInt64) :
    ZeroApproachController :=
  (controller.update sample.1 sample.2).2

end ZeroApproachController

/-! ### The exits of an update -/

namespace ZeroApproachPlan

variable {plan : ZeroApproachPlan} {sample : Measurement}

/-- A measurement that is neither past zero nor back from it -/
structure Onward (plan : ZeroApproachPlan) (sample : Measurement) : Prop where
  valid : plan.valid = true
  incomplete : plan.complete = false
  before : plan.overshoots sample.measuredMilliDeg = false
  onward : plan.approachToZeroStarted = true → plan.haveLastMeasured = true →
    plan.reversed sample.measuredMilliDeg = false

/-- What an update can do: one constructor for each exit of the source. -/
inductive Exits (plan : ZeroApproachPlan) (sample : Measurement) :
    ApproachUpdate × ZeroApproachPlan → Prop where
  | invalid (refused : plan.valid = false) : Exits plan sample (.configurationAbort, plan)
  | done (finished : plan.complete = true) : Exits plan sample (.complete, plan)
  | overshoots (incomplete : plan.complete = false) :
      Exits plan sample (.overshootAbort, { plan with dwellSamples := 0 })
  | reverses (incomplete : plan.complete = false) :
      Exits plan sample (.monotonicityAbort, { plan with dwellSamples := 0 })
  | unsettled (onward : plan.Onward sample) :
      Exits plan sample (.holding, { plan.measured sample with dwellSamples := 0 })
  | counts (onward : plan.Onward sample) (settled : plan.settledAt plan.index sample = true)
      (short : plan.dwellSamples + 1 < plan.requiredDwellSamples) :
      Exits plan sample
        (.holding, { plan.measured sample with dwellSamples := plan.dwellSamples + 1 })
  | completes (onward : plan.Onward sample) (settled : plan.settledAt plan.index sample = true)
      (enough : plan.requiredDwellSamples ≤ plan.dwellSamples + 1)
      (last : plan.targets.length ≤ plan.index + 1) :
      Exits plan sample
        (.complete, { plan.measured sample with dwellSamples := 0, complete := true })
  | advances (onward : plan.Onward sample) (settled : plan.settledAt plan.index sample = true)
      (enough : plan.requiredDwellSamples ≤ plan.dwellSamples + 1)
      (more : plan.index + 1 < plan.targets.length) :
      Exits plan sample
        (.targetAdvanced,
          { plan.measured sample with
            dwellSamples := 0
            index := plan.index + 1
            approachToZeroStarted :=
              if plan.index + 1 = 1 then true else plan.approachToZeroStarted })

theorem exits_update (plan : ZeroApproachPlan) (sample : Measurement) :
    plan.Exits sample (plan.update sample) := by
  unfold update
  split_ifs with invalid finished before back
  · exact .invalid (by simpa using invalid)
  · exact .done finished
  · exact .overshoots (Bool.eq_false_iff.mpr finished)
  · exact .reverses (Bool.eq_false_iff.mpr finished)
  have onward : plan.Onward sample :=
    ⟨by simpa using invalid, Bool.eq_false_iff.mpr finished, Bool.eq_false_iff.mpr before,
      fun started known => by simpa [started, known] using back⟩
  dsimp only
  by_cases settled : plan.settledAt plan.index sample = true
  · have dwells : (!(plan.measured sample).settledAt (plan.measured sample).index sample) = false := by
      rw [Bool.not_eq_false']
      exact settled
    rw [if_neg (by rw [dwells]; exact Bool.false_ne_true)]
    by_cases short : plan.dwellSamples + 1 < plan.requiredDwellSamples
    · have counted : (if plan.dwellSamples < plan.requiredDwellSamples then plan.dwellSamples + 1
          else plan.dwellSamples) = plan.dwellSamples + 1 := if_pos (by omega)
      have dwelt : (plan.measured sample).dwell = (.holding,
          { plan.measured sample with dwellSamples := plan.dwellSamples + 1 }) := by
        unfold dwell measured
        dsimp only
        rw [counted, if_pos short]
      rw [dwelt]
      exact .counts onward settled short
    · have full : ¬ (if plan.dwellSamples < plan.requiredDwellSamples then plan.dwellSamples + 1
          else plan.dwellSamples) < plan.requiredDwellSamples := by
        split <;> omega
      by_cases last : plan.targets.length ≤ plan.index + 1
      · have dwelt : (plan.measured sample).dwell = (.complete,
            { plan.measured sample with dwellSamples := 0, complete := true }) := by
          unfold dwell measured
          dsimp only
          rw [if_neg full, if_pos last]
        rw [dwelt]
        exact .completes onward settled (by omega) last
      · have dwelt : (plan.measured sample).dwell = (.targetAdvanced,
            { plan.measured sample with
              dwellSamples := 0
              index := plan.index + 1
              approachToZeroStarted :=
                if plan.index + 1 = 1 then true else plan.approachToZeroStarted }) := by
          unfold dwell measured
          dsimp only
          rw [if_neg full, if_neg last]
        rw [dwelt]
        exact .advances onward settled (by omega) (by omega)
  · have away : (!(plan.measured sample).settledAt (plan.measured sample).index sample) = true := by
      rw [Bool.not_eq_true']
      exact Bool.eq_false_iff.mpr settled
    rw [if_pos away]
    exact .unsettled onward

/-! ### What the measurements say -/

/-- The first targets were held one after another, each for so many measurements in a row. -/
def Dwelt (settled : ℕ → Measurement → Bool) (required : ℕ) : ℕ → List Measurement → Prop
  | 0, _ => True
  | count + 1, history => ∃ before held after, history = before ++ held ++ after ∧
      Dwelt settled required count before ∧ held.length = required ∧
      ∀ sample ∈ held, settled count sample = true

theorem Dwelt.append {settled : ℕ → Measurement → Bool} {required count : ℕ}
    {history : List Measurement} (dwelt : Dwelt settled required count history)
    (more : List Measurement) : Dwelt settled required count (history ++ more) := by
  cases count with
  | zero => trivial
  | succ count =>
      obtain ⟨before, held, after, rfl, rest⟩ := dwelt
      exact ⟨before, held, after ++ more, (List.append_assoc _ _ _), rest⟩

/-- The update aborts neither for an overshoot nor for a reversal. -/
def accepts (plan : ZeroApproachPlan) (sample : Measurement) : Bool :=
  (plan.update sample).1 != .overshootAbort && (plan.update sample).1 != .monotonicityAbort

/-- The measurements of a run that are accepted -/
def accepted : ZeroApproachPlan → List Measurement → List Measurement
  | _, [] => []
  | plan, sample :: rest =>
      (if plan.accepts sample then [sample] else []) ++ accepted (plan.feed sample) rest

theorem accepted_concat (start : ZeroApproachPlan) (history : List Measurement)
    (sample : Measurement) :
    start.accepted (history ++ [sample]) = start.accepted history ++
      if (Run.after feed start history).accepts sample then [sample] else [] := by
  induction history generalizing start with
  | nil =>
      show (if start.accepts sample then [sample] else []) ++ [] = _
      rw [List.append_nil]
      rfl
  | cons first rest inductionHypothesis =>
      rw [List.cons_append, accepted, inductionHypothesis, accepted, List.append_assoc]
      rfl

/-- What no update changes -/
def settings (plan : ZeroApproachPlan) : ZeroApproachPlan :=
  { plan with
    index := 0, dwellSamples := 0, lastMeasuredMilliDeg := 0, haveLastMeasured := false,
    approachToZeroStarted := false, complete := false }

theorem settings_feed (plan : ZeroApproachPlan) (sample : Measurement) :
    (plan.feed sample).settings = plan.settings := by
  have exits := plan.exits_update sample
  unfold feed
  generalize plan.update sample = result at exits ⊢
  cases exits <;> rfl

/-- What a plan that started so says of the measurements -/
structure Follows (start plan : ZeroApproachPlan) (history : List Measurement) : Prop where
  settings : plan.settings = start.settings
  inside : plan.index < start.targets.length
  short : plan.valid = true → plan.dwellSamples < start.requiredDwellSamples
  holding : plan.valid = true → plan.complete = false → ∃ before held, history = before ++ held ∧
    Dwelt start.settledAt start.requiredDwellSamples plan.index before ∧
    held.length = plan.dwellSamples ∧ ∀ sample ∈ held, start.settledAt plan.index sample = true
  finished : plan.complete = true →
    Dwelt start.settledAt start.requiredDwellSamples start.targets.length history
  begun : plan.approachToZeroStarted = true ↔ 1 ≤ plan.index
  known : 1 ≤ plan.index → plan.valid = true ∧ plan.haveLastMeasured = true
  previous : plan.valid = true → plan.complete = false → plan.haveLastMeasured = true →
    ∃ last, (start.accepted history).getLast? = some last ∧
      last.measuredMilliDeg = plan.lastMeasuredMilliDeg

variable {start : ZeroApproachPlan} {history : List Measurement}

theorem settledAt_eq (same : plan.settings = start.settings) : plan.settledAt = start.settledAt :=
  congrArg (fun settings => settings.settledAt) same

theorem required_eq (same : plan.settings = start.settings) :
    plan.requiredDwellSamples = start.requiredDwellSamples :=
  congrArg (fun settings => settings.requiredDwellSamples) same

theorem targets_eq (same : plan.settings = start.settings) : plan.targets = start.targets :=
  congrArg (fun settings => settings.targets) same

/-- A measurement at which nothing is held starts the dwell again. -/
theorem Follows.restarts (follows : Follows start plan history) (valid : plan.valid = true)
    (incomplete : plan.complete = false) (sample : Measurement) :
    ∃ before held, history ++ [sample] = before ++ held ∧
      Dwelt start.settledAt start.requiredDwellSamples plan.index before ∧
      held.length = 0 ∧ ∀ sample ∈ held, start.settledAt plan.index sample = true := by
  obtain ⟨before, held, rfl, dwelt, -⟩ := follows.holding valid incomplete
  refine ⟨before ++ held ++ [sample], [], (List.append_nil _).symm, ?_, rfl,
    fun _ within => absurd within List.not_mem_nil⟩
  rw [List.append_assoc]
  exact dwelt.append _

/-- An accepted measurement is the last one accepted. -/
theorem last_accepted {outcome : ApproachUpdate} {next : ZeroApproachPlan}
    (updated : (Run.after feed start history).update sample = (outcome, next))
    (accepts : outcome ≠ .overshootAbort ∧ outcome ≠ .monotonicityAbort) :
    (start.accepted (history ++ [sample])).getLast? = some sample := by
  have taken : (Run.after feed start history).accepts sample = true := by
    unfold ZeroApproachPlan.accepts
    rw [updated]
    simp [accepts.1, accepts.2]
  rw [accepted_concat, if_pos taken, List.getLast?_concat]

theorem same_accepted {outcome : ApproachUpdate} {next : ZeroApproachPlan}
    (updated : (Run.after feed start history).update sample = (outcome, next))
    (aborts : outcome = .overshootAbort ∨ outcome = .monotonicityAbort) :
    start.accepted (history ++ [sample]) = start.accepted history := by
  have refused : (Run.after feed start history).accepts sample = false := by
    unfold ZeroApproachPlan.accepts
    rw [updated]
    rcases aborts with rfl | rfl <;> rfl
  rw [accepted_concat, if_neg (by rw [refused]; exact Bool.false_ne_true), List.append_nil]

/-- An abort takes back the dwell and nothing else. -/
theorem Follows.aborted (follows : Follows start plan history) (incomplete : plan.complete = false)
    (same : start.accepted (history ++ [sample]) = start.accepted history) :
    Follows start { plan with dwellSamples := 0 } (history ++ [sample]) where
  settings := follows.settings
  inside := follows.inside
  short valid := Nat.zero_lt_of_lt (follows.short valid)
  holding valid _ := follows.restarts valid incomplete sample
  finished done := absurd (incomplete.symm.trans done) Bool.false_ne_true
  begun := follows.begun
  known := follows.known
  previous valid open_ known := by
    rw [same]
    exact follows.previous valid open_ known

/-- A measurement that is remembered, with another dwell -/
theorem Follows.remembered (follows : Follows start plan history) (onward : plan.Onward sample)
    (last : (start.accepted (history ++ [sample])).getLast? = some sample) {dwellSamples : ℕ}
    (short : dwellSamples < start.requiredDwellSamples)
    (holding : ∃ before held, history ++ [sample] = before ++ held ∧
      Dwelt start.settledAt start.requiredDwellSamples plan.index before ∧
      held.length = dwellSamples ∧ ∀ sample ∈ held, start.settledAt plan.index sample = true) :
    Follows start { plan.measured sample with dwellSamples := dwellSamples }
      (history ++ [sample]) where
  settings := follows.settings
  inside := follows.inside
  short _ := short
  holding _ _ := holding
  finished done := absurd (onward.incomplete.symm.trans done) Bool.false_ne_true
  begun := follows.begun
  known _ := ⟨onward.valid, rfl⟩
  previous _ _ _ := ⟨sample, last, rfl⟩

/-- One more measurement that is settled is held. -/
theorem Follows.holds (follows : Follows start plan history) (onward : plan.Onward sample)
    (settled : plan.settledAt plan.index sample = true) :
    ∃ before held, history ++ [sample] = before ++ held ∧
      Dwelt start.settledAt start.requiredDwellSamples plan.index before ∧
      held.length = plan.dwellSamples + 1 ∧
      ∀ sample ∈ held, start.settledAt plan.index sample = true := by
  obtain ⟨before, held, rfl, dwelt, length, all⟩ :=
    follows.holding onward.valid onward.incomplete
  refine ⟨before, held ++ [sample], List.append_assoc _ _ _, dwelt, ?_, fun each within => ?_⟩
  · rw [List.length_append, List.length_singleton, length]
  · rcases List.mem_append.mp within with early | new
    · exact all each early
    · rw [List.mem_singleton.mp new, ← settledAt_eq follows.settings]
      exact settled

/-- A dwell that is long enough counts for its target. -/
theorem Follows.dwells (follows : Follows start plan history) (onward : plan.Onward sample)
    (settled : plan.settledAt plan.index sample = true)
    (enough : plan.requiredDwellSamples ≤ plan.dwellSamples + 1) :
    Dwelt start.settledAt start.requiredDwellSamples (plan.index + 1) (history ++ [sample]) := by
  obtain ⟨before, held, parts, dwelt, length, all⟩ := follows.holds onward settled
  have short := follows.short onward.valid
  have required := required_eq follows.settings
  exact ⟨before, held, [], by rw [List.append_nil, parts], dwelt, by omega, all⟩

theorem Follows.feed (follows : Follows start (Run.after feed start history) history)
    (sample : Measurement) :
    Follows start ((Run.after ZeroApproachPlan.feed start history).feed sample)
      (history ++ [sample]) := by
  obtain ⟨plan, reached⟩ : ∃ plan, Run.after ZeroApproachPlan.feed start history = plan := ⟨_, rfl⟩
  have exits := plan.exits_update sample
  have settings := (settings_feed plan sample).trans (reached ▸ follows.settings)
  have last := @last_accepted sample start history
  have same := @same_accepted sample start history
  rw [reached] at follows last same ⊢
  have settledAt := settledAt_eq follows.settings
  have required := required_eq follows.settings
  have targets := targets_eq follows.settings
  unfold ZeroApproachPlan.feed at settings ⊢
  generalize updated : plan.update sample = result at exits settings last same ⊢
  cases exits with
  | invalid refused =>
      have never : plan.valid = true → False := fun valid =>
        absurd (refused.symm.trans valid) Bool.false_ne_true
      exact ⟨settings, follows.inside, fun valid => (never valid).elim,
        fun valid => (never valid).elim, fun done => (follows.finished done).append _, follows.begun,
        follows.known, fun valid => (never valid).elim⟩
  | done finished =>
      have never : plan.complete = false → False := fun open_ =>
        absurd (open_.symm.trans finished) Bool.false_ne_true
      exact ⟨settings, follows.inside, follows.short, fun _ open_ => (never open_).elim,
        fun done => (follows.finished done).append _, follows.begun, follows.known,
        fun _ open_ => (never open_).elim⟩
  | overshoots incomplete => exact follows.aborted incomplete (same rfl (Or.inl rfl))
  | reverses incomplete => exact follows.aborted incomplete (same rfl (Or.inr rfl))
  | unsettled onward =>
      exact follows.remembered onward (last rfl (by decide))
        (Nat.zero_lt_of_lt (follows.short onward.valid))
        (follows.restarts onward.valid onward.incomplete sample)
  | counts onward settled short =>
      exact follows.remembered onward (last rfl (by decide)) (required ▸ short)
        (follows.holds onward settled)
  | completes onward settled enough ends =>
      have dwelt := follows.dwells onward settled enough
      have inside := follows.inside
      rw [targets] at ends
      rw [show plan.index + 1 = start.targets.length by omega] at dwelt
      exact ⟨settings, inside, fun valid => Nat.zero_lt_of_lt (follows.short valid),
        fun _ open_ => absurd open_.symm Bool.false_ne_true, fun _ => dwelt, follows.begun,
        fun _ => ⟨onward.valid, rfl⟩, fun _ open_ => absurd open_.symm Bool.false_ne_true⟩
  | advances onward settled enough more =>
      have dwelt := follows.dwells onward settled enough
      refine ⟨settings, targets ▸ more, fun valid => Nat.zero_lt_of_lt (follows.short valid),
        fun _ _ => ⟨history ++ [sample], [], (List.append_nil _).symm, dwelt, rfl,
          fun _ within => absurd within List.not_mem_nil⟩,
        fun done => absurd (onward.incomplete.symm.trans done) Bool.false_ne_true, ?_,
        fun _ => ⟨onward.valid, rfl⟩, fun _ _ _ => ⟨sample, last rfl (by decide), rfl⟩⟩
      have begun := follows.begun
      show (if plan.index + 1 = 1 then true else plan.approachToZeroStarted) = true ↔
        1 ≤ plan.index + 1
      split
      · exact iff_of_true rfl (by omega)
      · exact iff_of_true (begun.mpr (by omega)) (by omega)

/-! ### Every sequence of measurements -/

theorem follows_configured (branch : ApproachBranch) (tolerance rateTolerance : ℤ) (dwellSamples : ℕ)
    (monotonicTolerance : ℤ) :
    Follows (configured branch tolerance rateTolerance dwellSamples monotonicTolerance)
      (configured branch tolerance rateTolerance dwellSamples monotonicTolerance) [] where
  settings := rfl
  inside := by simp [configured, makeTargets, kTargetCount]
  short valid := by
    simp only [configured, Bool.and_eq_true, bne_iff_ne] at valid
    exact Nat.pos_of_ne_zero valid.1.2
  holding _ _ := ⟨[], [], rfl, trivial, rfl, fun _ within => absurd within List.not_mem_nil⟩
  finished done := absurd done Bool.false_ne_true
  begun := iff_of_false Bool.false_ne_true (Nat.not_succ_le_zero 0)
  known started := absurd started (Nat.not_succ_le_zero 0)
  previous _ _ known := absurd known Bool.false_ne_true

theorem Follows.after (follows : Follows start start []) (history : List Measurement) :
    Follows start (Run.after ZeroApproachPlan.feed start history) history := by
  induction history using List.reverseRecOn with
  | nil => exact follows
  | append_singleton history last inductionHypothesis =>
      rw [Run.after_concat]
      exact inductionHypothesis.feed last

/-- An update moves the target on by one at most. -/
theorem index_feed (plan : ZeroApproachPlan) (sample : Measurement) :
    plan.index ≤ (plan.feed sample).index ∧ (plan.feed sample).index ≤ plan.index + 1 := by
  have exits := plan.exits_update sample
  unfold ZeroApproachPlan.feed
  generalize plan.update sample = result at exits ⊢
  cases exits
  case advances => exact ⟨Nat.le_succ _, le_rfl⟩
  all_goals exact ⟨le_rfl, Nat.le_succ _⟩

theorem complete_of_update (complete : (plan.update sample).1 = .complete) :
    (plan.feed sample).complete = true := by
  have exits := plan.exits_update sample
  unfold ZeroApproachPlan.feed
  generalize plan.update sample = result at exits complete ⊢
  cases exits
  case done finished => exact finished
  case completes => rfl
  all_goals cases complete

theorem length_makeTargets (branch : ApproachBranch) : (makeTargets branch).length = kTargetCount := by
  rw [makeTargets, List.length_map, List.length_range]

/-- It completes after every target. -/
theorem Follows.dwelt_of_complete (begins : Follows start start []) (history : List Measurement)
    (complete : ((Run.after ZeroApproachPlan.feed start history).update sample).1 = .complete) :
    Dwelt start.settledAt start.requiredDwellSamples start.targets.length
      (history ++ [sample]) :=
  ((begins.after history).feed sample).finished (complete_of_update complete)

/-- What is accepted on the way to zero does not go back. -/
theorem onward_of_accepts (valid : plan.valid = true) (incomplete : plan.complete = false)
    (accepts : plan.accepts sample = true) : plan.Onward sample := by
  have exits := plan.exits_update sample
  unfold ZeroApproachPlan.accepts at accepts
  generalize plan.update sample = result at exits accepts
  cases exits
  case invalid refused => exact absurd (refused.symm.trans valid) Bool.false_ne_true
  case done finished => exact absurd (incomplete.symm.trans finished) Bool.false_ne_true
  case overshoots => exact absurd accepts Bool.false_ne_true
  case reverses => exact absurd accepts Bool.false_ne_true
  all_goals assumption

/-- It completes after every target in order was held for its dwell; the target moves on by one at
most; and from the start of the approach until it completes, nothing accepted goes back from what
was accepted before by more than the tolerance. -/
theorem completes_by_the_book (branch : ApproachBranch) (tolerance rateTolerance : ℤ)
    (dwellSamples : ℕ) (monotonicTolerance : ℤ) (history : List Measurement)
    (sample : Measurement) :
    let start := configured branch tolerance rateTolerance dwellSamples monotonicTolerance
    let plan := Run.after feed start history
    ((plan.update sample).1 = .complete →
        Dwelt start.settledAt dwellSamples kTargetCount (history ++ [sample])) ∧
      (plan.index ≤ (plan.feed sample).index ∧ (plan.feed sample).index ≤ plan.index + 1) ∧
      (plan.approachToZeroStarted = true → plan.complete = false → plan.accepts sample = true →
        ∃ previous, (start.accepted history).getLast? = some previous ∧
          (branch = .fromPositive →
            sample.measuredMilliDeg ≤ previous.measuredMilliDeg + monotonicTolerance) ∧
          (branch = .fromNegative →
            previous.measuredMilliDeg - monotonicTolerance ≤ sample.measuredMilliDeg)) := by
  intro start plan
  have begins : Follows start start [] :=
    follows_configured branch tolerance rateTolerance dwellSamples monotonicTolerance
  have follows : Follows start plan history := begins.after history
  refine ⟨fun complete => ?_, index_feed plan sample, fun started incomplete accepts => ?_⟩
  · rw [← length_makeTargets branch]
    exact begins.dwelt_of_complete history complete
  · obtain ⟨valid, known⟩ := follows.known (follows.begun.mp started)
    obtain ⟨previous, last, same⟩ := follows.previous valid incomplete known
    have onward := (onward_of_accepts valid incomplete accepts).onward started known
    have branch_eq : plan.branch = branch := congrArg (fun settings => settings.branch) follows.settings
    have tolerance_eq : plan.monotonicToleranceMilliDeg = monotonicTolerance :=
      congrArg (fun settings => settings.monotonicToleranceMilliDeg) follows.settings
    rw [reversed, branch_eq, tolerance_eq, ← same, Bool.or_eq_false_iff] at onward
    refine ⟨previous, last, ?_, ?_⟩
    · rintro rfl
      exact not_lt.mp (of_decide_eq_false onward.1)
    · rintro rfl
      exact not_lt.mp (of_decide_eq_false onward.2)

end ZeroApproachPlan

/-! ### Within the time -/

namespace ZeroApproachController

/-- The measurements that reach the plan -/
def inTime : ZeroApproachController → List (Measurement × UInt64) → List Measurement
  | _, [] => []
  | controller, sample :: rest =>
      (if (controller.running sample.2).expired sample.2 then [] else [sample.1]) ++
        inTime (controller.feed sample) rest

@[simp] theorem plan_running (controller : ZeroApproachController) (nowUs : UInt64) :
    (controller.running nowUs).plan = controller.plan := by
  unfold running
  split <;> rfl

theorem plan_feed (controller : ZeroApproachController) (sample : Measurement × UInt64) :
    (controller.feed sample).plan = Run.after ZeroApproachPlan.feed controller.plan
      (if (controller.running sample.2).expired sample.2 then [] else [sample.1]) := by
  unfold feed update
  dsimp only
  by_cases expired : (controller.running sample.2).expired sample.2 = true
  · rw [if_pos expired, if_pos expired, plan_running, Run.after_nil]
  · rw [if_neg expired, if_neg expired, plan_running]
    rfl

/-- The plan has seen what came in time. -/
theorem plan_after (controller : ZeroApproachController)
    (history : List (Measurement × UInt64)) :
    (Run.after feed controller history).plan =
      Run.after ZeroApproachPlan.feed controller.plan (controller.inTime history) := by
  induction history generalizing controller with
  | nil => rfl
  | cons sample rest inductionHypothesis =>
      rw [Run.after_cons, inductionHypothesis, plan_feed, inTime, Run.after_append]

/-- A controller completes by the book too: what expired does not count for any target. -/
theorem completes_in_time (branch : ApproachBranch) (tolerance rateTolerance : ℤ)
    (dwellSamples : ℕ) (monotonicTolerance : ℤ) (timeoutUs : UInt64)
    (history : List (Measurement × UInt64)) (sample : Measurement) (nowUs : UInt64) :
    let start := ZeroApproachPlan.configured branch tolerance rateTolerance dwellSamples
      monotonicTolerance
    let controller : ZeroApproachController := { plan := start, timeoutUs := timeoutUs }
    ((Run.after feed controller history).update sample nowUs).1 = .complete →
      ZeroApproachPlan.Dwelt start.settledAt dwellSamples kTargetCount
        (controller.inTime history ++ [sample]) := by
  intro start controller complete
  unfold update at complete
  dsimp only at complete
  split at complete
  · cases complete
  · rw [plan_running, plan_after] at complete
    have begins : ZeroApproachPlan.Follows start start [] :=
      ZeroApproachPlan.follows_configured branch tolerance rateTolerance dwellSamples
        monotonicTolerance
    rw [← ZeroApproachPlan.length_makeTargets branch]
    exact begins.dwelt_of_complete (controller.inTime history) complete

end ZeroApproachController

end MissionBoard.Characterization
