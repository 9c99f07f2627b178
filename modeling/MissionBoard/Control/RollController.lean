import Mathlib
import MissionBoard.Control.ControlPipeline
import MissionBoard.Library.PiecewiseLinear

/-!
Owns `RollController::compute` of `control/control_pipeline.cpp` in exact arithmetic: the torque
that the gain schedule asks for, from the state of the roll and the airspeed.

The entries of the schedule are finite values here; the inputs of a call are doubles.
-/

namespace MissionBoard.Control

/-- `RollState` -/
structure RollState where
  rollDeviationUnwrappedRad : Double
  finRad : Double
  rollRateRadS : Double
  finRateRadS : Double
deriving DecidableEq

/-- `GainPoint` -/
structure GainPoint where
  airspeedMps : ℚ := 0
  gain : Fin 4 → ℚ := fun _ => 0

/-- `RollGainSchedule` -/
structure RollGainSchedule where
  points : Vector GainPoint 7
  configured : Bool

/-- `TorqueRequest` -/
structure TorqueRequest where
  outputTorqueNm : ℚ := 0
  saturated : Bool := false
  valid : Bool := false
deriving DecidableEq

/-- `RollControlAuthority` -/
inductive RollControlAuthority where
  | gentle
  | highAuthority
deriving DecidableEq

/-- `RollVerificationMode` -/
inductive RollVerificationMode where
  | closedLoop
  | matchedControlOff
deriving DecidableEq

/-- The part of `ControlAuthorityLimits` that the roll control uses -/
structure ControlAuthorityLimits where
  rollControlGentleLimitNm : Double
  rollControlHighAuthorityLimitNm : Double
deriving DecidableEq

/-- `kRequiredSpeeds` -/
def kRequiredSpeeds : List ℚ := [60, 80, 100, 120, 140, 160, 180]

/-- `values`, when `finiteState` holds -/
def RollState.values (state : RollState) : Option (Fin 4 → ℚ) :=
  match state.rollDeviationUnwrappedRad, state.finRad, state.rollRateRadS, state.finRateRadS with
  | .finite roll, .finite fin, .finite rollRate, .finite finRate =>
      some fun index => [roll, fin, rollRate, finRate].getD index.val 0
  | _, _, _, _ => none

/-- `output_limit_nm` -/
def ControlAuthorityLimits.outputLimitNm (limits : ControlAuthorityLimits) :
    RollControlAuthority → Double
  | .gentle => limits.rollControlGentleLimitNm
  | .highAuthority => limits.rollControlHighAuthorityLimitNm

namespace RollGainSchedule

/-- The loop that looks for the first point not below the speed, from the points that are left -/
def advance (limitedSpeed : ℚ) : List GainPoint → ℕ → ℕ
  | [], high => high
  | point :: rest, high =>
      if point.airspeedMps < limitedSpeed then advance limitedSpeed rest (high + 1) else high

/-- `high`, after the loop -/
def highIndex (schedule : RollGainSchedule) (limitedSpeed : ℚ) : ℕ :=
  min (advance limitedSpeed (schedule.points.toList.drop 1) 1) (7 - 1)

/-- `low` -/
def lowIndex (schedule : RollGainSchedule) (limitedSpeed : ℚ) : ℕ :=
  if schedule.highIndex limitedSpeed = 0 then 0 else schedule.highIndex limitedSpeed - 1

def pointAt (schedule : RollGainSchedule) (index : ℕ) : GainPoint :=
  schedule.points.toList.getD index {}

/-- `torque`, from the two points next to the speed -/
def torqueBetween (left right : GainPoint) (values : Fin 4 → ℚ) (limitedSpeed : ℚ) : ℚ :=
  let denominator := right.airspeedMps - left.airspeedMps
  let fraction :=
    if denominator > 0 then (limitedSpeed - left.airspeedMps) / denominator else 0
  (List.finRange 4).foldl
    (fun torque index =>
      torque - (left.gain index + fraction * (right.gain index - left.gain index)) * values index) 0

end RollGainSchedule

/-- `RollController::compute` -/
def RollGainSchedule.compute (schedule : RollGainSchedule) (state : RollState) (airspeedMps : Double)
    (authority : RollControlAuthority) (limits : ControlAuthorityLimits)
    (verificationMode : RollVerificationMode) : TorqueRequest :=
  match state.values, airspeedMps, limits.outputLimitNm authority with
  | some values, .finite speed, .finite limit =>
      if !schedule.configured || limit ≤ 0 then {}
      else if schedule.points.toList.map (·.airspeedMps) ≠ kRequiredSpeeds then {}
      else
        let limitedSpeed := max 60 (min 180 speed)
        let left := schedule.pointAt (schedule.lowIndex limitedSpeed)
        let right := schedule.pointAt (schedule.highIndex limitedSpeed)
        if right.airspeedMps < left.airspeedMps ∨ left.airspeedMps < 60 ∨ right.airspeedMps > 180 then
          {}
        else
          let torque := torqueBetween left right values limitedSpeed
          if verificationMode = .matchedControlOff then
            { outputTorqueNm := 0, saturated := false, valid := true }
          else
            let clamped := clampMagnitude torque limit false
            { outputTorqueNm := clamped.1, saturated := clamped.2, valid := true }
  | _, _, _ => {}

/-! ### The interpolated gains -/

/-- The table of one gain -/
def RollGainSchedule.knots (schedule : RollGainSchedule) (index : Fin 4) : List (ℚ × ℚ) :=
  schedule.points.toList.map fun point => (point.airspeedMps, point.gain index)

/-- The gain at an airspeed: the interpolation of the table -/
def RollGainSchedule.gainAt (schedule : RollGainSchedule) (index : Fin 4) (airspeedMps : ℚ) : ℚ :=
  PiecewiseLinear.eval (schedule.knots index) airspeedMps

namespace RollGainSchedule

/-- A schedule with the seven speeds that are required -/
structure Scheduled (schedule : RollGainSchedule) : Prop where
  configured : schedule.configured = true
  speeds : schedule.points.toList.map (·.airspeedMps) = kRequiredSpeeds

variable {schedule : RollGainSchedule} {speed : ℚ}

/-- The loop stops between two neighbouring points. -/
theorem advance_between {left : GainPoint} {rest : List GainPoint} (high : ℕ)
    (above : left.airspeedMps ≤ speed) (below : ∃ point ∈ rest, speed ≤ point.airspeedMps) :
    ∃ front lower upper back, left :: rest = front ++ lower :: upper :: back ∧
      advance speed rest high = high + front.length ∧
      lower.airspeedMps ≤ speed ∧ speed ≤ upper.airspeedMps := by
  induction rest generalizing left high with
  | nil =>
      obtain ⟨point, within, -⟩ := below
      exact absurd within List.not_mem_nil
  | cons next rest inductionHypothesis =>
      by_cases lower : next.airspeedMps < speed
      · obtain ⟨point, within, reached⟩ := below
        have later : point ∈ rest := by
          rcases List.mem_cons.mp within with rfl | later
          · exact absurd reached lower.not_ge
          · exact later
        obtain ⟨front, left', right', back, parts, index, rest_⟩ :=
          inductionHypothesis (high + 1) lower.le ⟨point, later, reached⟩
        refine ⟨left :: front, left', right', back, congrArg (left :: ·) parts, ?_, rest_⟩
        rw [advance, if_pos lower, index, List.length_cons]
        omega
      · exact ⟨[], left, next, rest, rfl, if_neg lower, above, not_lt.mp lower⟩

/-- The points are in the order of their speeds. -/
theorem Scheduled.sorted (scheduled : schedule.Scheduled) (index : Fin 4) :
    (schedule.knots index).Pairwise fun first second => first.1 < second.1 := by
  have order : kRequiredSpeeds.Pairwise (· < ·) := by decide +kernel
  rw [← scheduled.speeds, List.pairwise_map] at order
  exact List.pairwise_map.mpr order

/-- The two points that are chosen are neighbours, with the speed between them. -/
theorem Scheduled.between (scheduled : schedule.Scheduled) (slowest : 60 ≤ speed)
    (fastest : speed ≤ 180) :
    ∃ front lower upper back, schedule.points.toList = front ++ lower :: upper :: back ∧
      schedule.highIndex speed = front.length + 1 ∧
      lower.airspeedMps ≤ speed ∧ speed ≤ upper.airspeedMps := by
  have speeds := scheduled.speeds
  have length := schedule.points.length_toList
  cases points : schedule.points.toList with
  | nil =>
      rw [points] at length
      cases length
  | cons first rest =>
      rw [points, List.map_cons] at speeds
      obtain ⟨begins, follows⟩ := List.cons.inj speeds
      have last : (180 : ℚ) ∈ rest.map (·.airspeedMps) := by
        rw [follows]
        decide +kernel
      obtain ⟨final, within, top⟩ := List.mem_map.mp last
      obtain ⟨front, lower, upper, back, parts, index, above, below⟩ :=
        @advance_between speed first rest 1 (begins.trans_le slowest)
          ⟨final, within, fastest.trans_eq top.symm⟩
      refine ⟨front, lower, upper, back, parts, ?_, above, below⟩
      rw [points, parts, List.length_append, List.length_cons, List.length_cons] at length
      rw [highIndex, points, List.drop_succ_cons, List.drop_zero, index]
      omega

theorem pointAt_of_parts {front back : List GainPoint} {point : GainPoint}
    (parts : schedule.points.toList = front ++ point :: back) :
    schedule.pointAt front.length = point := by
  rw [pointAt, parts, List.getD_eq_getElem?_getD, List.getElem?_append_right le_rfl, Nat.sub_self]
  rfl

/-- Between the two points, the torque is that of the interpolated gains. -/
theorem torqueBetween_eq {left right : GainPoint} (apart : left.airspeedMps < right.airspeedMps)
    (values : Fin 4 → ℚ) :
    torqueBetween left right values speed =
      -∑ index, PiecewiseLinear.line (left.airspeedMps, left.gain index)
        (right.airspeedMps, right.gain index) speed * values index := by
  unfold torqueBetween PiecewiseLinear.line
  dsimp only
  rw [if_pos (sub_pos.mpr apart), Fin.sum_univ_four]
  rw [show List.finRange 4 = [0, 1, 2, 3] from rfl]
  simp only [List.foldl_cons, List.foldl_nil]
  ring

/-- Minus the dot product of the state with the interpolated gains -/
def feedback (schedule : RollGainSchedule) (values : Fin 4 → ℚ) (speed : ℚ) : ℚ :=
  -∑ index, schedule.gainAt index (max 60 (min 180 speed)) * values index

/-- What `compute` makes of inputs that are finite -/
theorem Scheduled.compute_eq (scheduled : schedule.Scheduled) {state : RollState}
    {authority : RollControlAuthority} {limits : ControlAuthorityLimits} {values : Fin 4 → ℚ}
    {limit : ℚ} (known : state.values = some values)
    (bound : limits.outputLimitNm authority = .finite limit) (positive : 0 < limit)
    (mode : RollVerificationMode) :
    schedule.compute state (.finite speed) authority limits mode =
      if mode = .matchedControlOff then { valid := true }
      else
        { outputTorqueNm := (clampMagnitude (schedule.feedback values speed) limit false).1
          saturated := (clampMagnitude (schedule.feedback values speed) limit false).2
          valid := true } := by
  obtain ⟨front, lower, upper, back, parts, high, above, below⟩ :=
    @Scheduled.between schedule (max 60 (min 180 speed)) scheduled (le_max_left _ _)
      (max_le (by norm_num) (min_le_left _ _))
  have low : schedule.lowIndex (max 60 (min 180 speed)) = front.length := by
    rw [lowIndex, high, if_neg (Nat.succ_ne_zero _), Nat.add_sub_cancel]
  have left : schedule.pointAt front.length = lower := pointAt_of_parts parts
  have right : schedule.pointAt (front.length + 1) = upper := by
    have longer : schedule.points.toList = (front ++ [lower]) ++ upper :: back := by
      rw [parts, List.append_assoc, List.singleton_append]
    rw [← pointAt_of_parts longer, List.length_append, List.length_singleton]
  have members : ∀ point ∈ schedule.points.toList,
      60 ≤ point.airspeedMps ∧ point.airspeedMps ≤ 180 := by
    intro point within
    have speeds : ∀ speed ∈ kRequiredSpeeds, 60 ≤ speed ∧ speed ≤ 180 := by decide +kernel
    exact speeds _ (scheduled.speeds ▸ List.mem_map_of_mem within)
  have knots : ∀ index, schedule.knots index =
      front.map (fun point => (point.airspeedMps, point.gain index)) ++
        (lower.airspeedMps, lower.gain index) :: (upper.airspeedMps, upper.gain index) ::
          back.map fun point => (point.airspeedMps, point.gain index) := by
    intro index
    rw [RollGainSchedule.knots, parts, List.map_append, List.map_cons, List.map_cons]
  have apart : lower.airspeedMps < upper.airspeedMps := by
    have order := scheduled.sorted 0
    rw [knots, List.pairwise_append] at order
    exact (List.pairwise_cons.mp order.2.1).1 _ List.mem_cons_self
  have torque : torqueBetween lower upper values (max 60 (min 180 speed)) =
      schedule.feedback values speed := by
    rw [torqueBetween_eq apart, feedback]
    congr 1
    apply Finset.sum_congr rfl
    intro index _
    have order := scheduled.sorted index
    rw [knots] at order
    rw [gainAt, knots, PiecewiseLinear.eval_of_segment order above below]
  have inTable : ¬ (upper.airspeedMps < lower.airspeedMps ∨ lower.airspeedMps < 60 ∨
      upper.airspeedMps > 180) := by
    have first := members lower (by simp [parts])
    have second := members upper (by simp [parts])
    rw [not_or, not_or]
    exact ⟨apart.not_gt, first.1.not_gt, second.2.not_gt⟩
  unfold compute
  rw [known, bound]
  dsimp only
  rw [if_neg (by simp [scheduled.configured, positive]), if_neg (not_not.mpr scheduled.speeds), low,
    high, left, right, if_neg inTable, torque]

/-- In either mode, a request is valid when the state, the airspeed and the limit are finite and the
limit is above 0. -/
theorem Scheduled.compute_valid_iff (scheduled : schedule.Scheduled) {state : RollState}
    {airspeed : Double} {authority : RollControlAuthority} {limits : ControlAuthorityLimits}
    (mode : RollVerificationMode) :
    (schedule.compute state airspeed authority limits mode).valid = true ↔
      state.values.isSome = true ∧ airspeed.isFinite = true ∧
        ∃ limit, limits.outputLimitNm authority = .finite limit ∧ 0 < limit := by
  cases known : state.values with
  | none =>
      unfold compute
      rw [known]
      exact iff_of_false Bool.false_ne_true fun all => Bool.false_ne_true all.1
  | some values =>
      cases airspeed with
      | infinite negative =>
          unfold compute
          rw [known]
          exact iff_of_false Bool.false_ne_true fun all => Bool.false_ne_true all.2.1
      | nan =>
          unfold compute
          rw [known]
          exact iff_of_false Bool.false_ne_true fun all => Bool.false_ne_true all.2.1
      | finite speed =>
          cases bound : limits.outputLimitNm authority with
          | infinite negative =>
              unfold compute
              rw [known, bound]
              refine iff_of_false Bool.false_ne_true fun all => ?_
              obtain ⟨limit, same, -⟩ := all.2.2
              cases same
          | nan =>
              unfold compute
              rw [known, bound]
              refine iff_of_false Bool.false_ne_true fun all => ?_
              obtain ⟨limit, same, -⟩ := all.2.2
              cases same
          | finite limit =>
              by_cases positive : 0 < limit
              · rw [scheduled.compute_eq known bound positive]
                refine iff_of_true ?_ ⟨rfl, rfl, limit, rfl, positive⟩
                split <;> rfl
              · unfold compute
                rw [known, bound]
                dsimp only
                rw [if_pos (by simp [not_lt.mp positive])]
                refine iff_of_false Bool.false_ne_true fun all => ?_
                obtain ⟨limit', same, above⟩ := all.2.2
                rw [Double.finite.inj same] at positive
                exact positive above

/-- The request is the clamp of the feedback of the interpolated gains, which fit together and are
those of the table at its speeds; the search stays in the table; and without control the same inputs
ask for no torque. -/
theorem Scheduled.request_of_schedule (scheduled : schedule.Scheduled) :
    (∀ index, Continuous (schedule.gainAt index) ∧
      (∀ point ∈ schedule.points.toList,
        schedule.gainAt index point.airspeedMps = point.gain index) ∧
      ∀ front lower upper back, schedule.points.toList = front ++ lower :: upper :: back →
        ∀ speed, lower.airspeedMps ≤ speed → speed ≤ upper.airspeedMps →
          schedule.gainAt index speed = PiecewiseLinear.line (lower.airspeedMps, lower.gain index)
            (upper.airspeedMps, upper.gain index) speed) ∧
      (∀ speed, schedule.lowIndex speed < 7 ∧ schedule.highIndex speed < 7) ∧
      (∀ state airspeed authority limits,
        (schedule.compute state airspeed authority limits .matchedControlOff).valid =
            (schedule.compute state airspeed authority limits .closedLoop).valid ∧
          (schedule.compute state airspeed authority limits .matchedControlOff).outputTorqueNm =
            0) ∧
      ∀ (state : RollState) (values : Fin 4 → ℚ) (speed : ℚ) (authority : RollControlAuthority)
        (limits : ControlAuthorityLimits) (limit : ℚ), state.values = some values →
        limits.outputLimitNm authority = .finite limit → 0 < limit →
        (schedule.compute state (.finite speed) authority limits .closedLoop).valid = true ∧
          (schedule.compute state (.finite speed) authority limits .closedLoop).outputTorqueNm =
            max (-limit) (min limit (schedule.feedback values speed)) ∧
          ((schedule.compute state (.finite speed) authority limits .closedLoop).saturated = true ↔
            (schedule.compute state (.finite speed) authority limits .closedLoop).outputTorqueNm ≠
              schedule.feedback values speed) := by
  refine ⟨fun index => ⟨PiecewiseLinear.continuous_eval (scheduled.sorted index),
    fun point within => ?_, fun front lower upper back parts speed above below => ?_⟩,
    fun speed => ?_, fun state airspeed authority limits => ⟨?_, ?_⟩,
    fun state values speed authority limits limit known bound positive => ?_⟩
  · obtain ⟨front, back, parts⟩ := List.append_of_mem within
    have order := scheduled.sorted index
    rw [knots, parts, List.map_append, List.map_cons] at order
    rw [gainAt, knots, parts, List.map_append, List.map_cons]
    exact PiecewiseLinear.eval_knot order
  · have order := scheduled.sorted index
    rw [knots, parts, List.map_append, List.map_cons, List.map_cons] at order
    rw [gainAt, knots, parts, List.map_append, List.map_cons, List.map_cons]
    exact PiecewiseLinear.eval_of_segment order above below
  · unfold lowIndex highIndex
    split <;> omega
  · rw [Bool.eq_iff_iff, scheduled.compute_valid_iff, scheduled.compute_valid_iff]
  · unfold compute
    split
    · dsimp only
      split_ifs
      all_goals first
        | rfl
        | contradiction
    · rfl
  · rw [scheduled.compute_eq known bound positive, if_neg (by simp)]
    refine ⟨rfl, ?_, ?_⟩
    · exact clampMagnitude_eq positive
    · rw [saturated_clampMagnitude_iff positive, or_iff_right Bool.false_ne_true]

/-- A schedule whose gains grow with the speed -/
def risingSchedule : RollGainSchedule where
  points := Vector.ofFn fun place => { airspeedMps := 60 + 20 * place.val, gain := fun _ => place.val }
  configured := true

/-- Half way between the first two speeds, half of the second gain -/
theorem request_of_schedule_rising :
    (risingSchedule.compute ⟨.finite 1, .finite 0, .finite 0, .finite 0⟩ (.finite 70) .gentle
      ⟨.finite 1, .finite 3⟩ .closedLoop).outputTorqueNm = -1 / 2 := by
  have request := (@Scheduled.request_of_schedule risingSchedule
    ⟨rfl, by decide +kernel⟩).2.2.2 ⟨.finite 1, .finite 0, .finite 0, .finite 0⟩ _ 70 .gentle
      ⟨.finite 1, .finite 3⟩ 1 rfl rfl (by decide)
  rw [request.2.1]
  decide +kernel

end RollGainSchedule

end MissionBoard.Control
