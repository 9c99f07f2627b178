import MissionBoard.Actuators.ProductionMotor

/-!
Owns the exclusion of the two inputs: as long as nobody brakes, one of them at most is driven at any moment
of any run, and its count keeps to the duty of the build.
-/

namespace MissionBoard.Actuators

open Characterization (espOk)

/-! ### Never both channels -/

/-- One channel at most is high, and neither higher than this. -/
def Single (limit : ℕ) (levels : ℕ × ℕ) : Prop :=
  (levels.1 = 0 ∨ levels.2 = 0) ∧ levels.1 ≤ limit ∧ levels.2 ≤ limit

namespace Outputs

variable {answers : ℕ → Int32} {outputs : Outputs} {limit : ℕ}

/-- So it is, and so it has been at every moment. -/
structure Guarded (limit : ℕ) (outputs : Outputs) : Prop where
  now : Single limit outputs.levels
  past : ∀ moment ∈ outputs.moments, Single limit moment

theorem Eased.single {before after : Outputs} (eased : Eased before after)
    (single : Single limit before.levels) : Single limit after.levels := by
  obtain ⟨one, small, smallToo⟩ := single
  have first : after.in1.level = before.in1.level ∨ after.in1.level = 0 := eased .in1
  have second : after.in2.level = before.in2.level ∨ after.in2.level = 0 := eased .in2
  unfold levels Single at *
  dsimp only at *
  omega

theorem single_of_low {active inactive : Channel} (apart : active ≠ inactive)
    (low : (outputs.channel inactive).level = 0) (small : (outputs.channel active).level ≤ limit) :
    Single limit outputs.levels := by
  unfold levels Single
  cases active <;> cases inactive
  · exact absurd rfl apart
  · exact ⟨Or.inr low, small, low.trans_le (Nat.zero_le _)⟩
  · exact ⟨Or.inl low, low.trans_le (Nat.zero_le _), small⟩
  · exact absurd rfl apart

theorem Guarded.call (guarded : Guarded limit outputs) {pinCall : PinCall}
    (next : Single limit (outputs.call answers pinCall).2.levels) :
    Guarded limit (outputs.call answers pinCall).2 := by
  refine ⟨next, ?_⟩
  intro moment within
  rcases List.mem_append.mp within with before | after
  · exact guarded.past moment before
  · rw [List.mem_singleton.mp after]
    exact next

theorem Guarded.eased (guarded : Guarded limit outputs) {pinCall : PinCall}
    (eased : Eased outputs (outputs.call answers pinCall).2) :
    Guarded limit (outputs.call answers pinCall).2 :=
  guarded.call (eased.single guarded.now)

theorem Guarded.all (guarded : Guarded limit outputs) {pinCalls : List PinCall}
    (calm : ∀ pinCall ∈ pinCalls, pinCall.calm = true) :
    Guarded limit (outputs.all answers pinCalls).2 := by
  induction pinCalls generalizing outputs with
  | nil => exact guarded
  | cons pinCall rest inductionHypothesis =>
      apply inductionHypothesis
      · exact guarded.eased (eased_call_calm (calm pinCall List.mem_cons_self))
      · exact fun other within => calm other (List.mem_cons_of_mem _ within)

/-- What comes of driving one channel -/
structure Driven (outputs : Outputs) (active inactive : Channel) (count : ℕ)
    (result : Int32 × Outputs) : Prop where
  ok : result.1 = espOk → (result.2.channel active).level = count ∧
    (result.2.channel inactive).level = 0
  failed : result.1 ≠ espOk → Eased outputs result.2
  guarded : ∀ limit, count ≤ limit → Guarded limit outputs → Guarded limit result.2

/-- The other channel is low before the one is driven. -/
theorem driven (active inactive : Channel) (apart : active ≠ inactive) (count : ℕ) :
    Driven outputs active inactive count
      (outputs.whileOk answers (Motor.driveCalls active inactive count)) := by
  have broken : ∀ {before : Outputs} {pinCall : PinCall}, Eased outputs before →
      Eased before (before.call answers pinCall).2 →
      (∀ limit, count ≤ limit → Guarded limit outputs → Guarded limit before) →
      (before.call answers pinCall).1 ≠ espOk →
      Driven outputs active inactive count (before.call answers pinCall) := by
    intro before pinCall early late kept failed
    exact ⟨fun ok => absurd ok failed, fun _ => early.trans late, fun limit small guarded =>
      (kept limit small guarded).eased late⟩
  unfold Motor.driveCalls
  -- the inactive channel is told to be low
  have eased1 := @eased_call_calm answers outputs (.setDuty inactive 0) rfl
  by_cases ok1 : (outputs.call answers (.setDuty inactive 0)).1 = espOk
  swap
  · rw [whileOk_failed _ ok1]
    exact broken (Eased.refl _) eased1 (fun _ _ guarded => guarded) ok1
  rw [whileOk_ok _ ok1]
  have duty1 := congrArg LedcChannel.duty (call_ok ok1 inactive)
  have kept1 : ∀ limit, count ≤ limit → Guarded limit outputs →
      Guarded limit (outputs.call answers (.setDuty inactive 0)).2 :=
    fun limit _ guarded => guarded.eased eased1
  generalize (outputs.call answers (.setDuty inactive 0)).2 = first at *
  simp only [perform, channel_withChannel] at duty1
  have eased2 := @eased_call answers first (.updateDuty inactive) (by
    rintro channel ⟨⟩
    exact duty1)
  by_cases ok2 : (first.call answers (.updateDuty inactive)).1 = espOk
  swap
  · rw [whileOk_failed _ ok2]
    exact broken eased1 eased2 kept1 ok2
  rw [whileOk_ok _ ok2]
  have low2 := congrArg LedcChannel.level (call_ok ok2 inactive)
  have kept2 : ∀ limit, count ≤ limit → Guarded limit outputs →
      Guarded limit (first.call answers (.updateDuty inactive)).2 :=
    fun limit small guarded => (kept1 limit small guarded).eased eased2
  have early2 := eased1.trans eased2
  generalize (first.call answers (.updateDuty inactive)).2 = second at *
  simp only [perform, channel_withChannel, duty1] at low2
  -- then the active channel is told its count
  have eased3 := @eased_call_calm answers second (.setDuty active count) rfl
  by_cases ok3 : (second.call answers (.setDuty active count)).1 = espOk
  swap
  · rw [whileOk_failed _ ok3]
    exact broken early2 eased3 kept2 ok3
  rw [whileOk_ok _ ok3]
  have duty3 := congrArg LedcChannel.duty (call_ok ok3 active)
  have low3 := eased3.low low2
  have kept3 : ∀ limit, count ≤ limit → Guarded limit outputs →
      Guarded limit (second.call answers (.setDuty active count)).2 :=
    fun limit small guarded => (kept2 limit small guarded).eased eased3
  have early3 := early2.trans eased3
  generalize (second.call answers (.setDuty active count)).2 = third at *
  simp only [perform, channel_withChannel] at duty3
  by_cases ok4 : (third.call answers (.updateDuty active)).1 = espOk
  · rw [whileOk_ok _ ok4]
    have level4 := congrArg LedcChannel.level (call_ok ok4 active)
    have low4 := congrArg LedcChannel.level (call_ok ok4 inactive)
    simp only [perform, channel_withChannel, channel_withChannel_of_ne apart.symm, duty3,
      low3] at level4 low4
    refine ⟨fun _ => ⟨level4, low4⟩, fun failed => absurd rfl failed, ?_⟩
    intro limit small guarded
    exact (kept3 limit small guarded).call (single_of_low apart low4 (level4.trans_le small))
  · rw [whileOk_failed _ ok4]
    have eased4 : Eased third (third.call answers (.updateDuty active)).2 := fun channel =>
      Or.inl (congrArg LedcChannel.level (call_failed ok4 channel))
    exact broken early3 eased4 kept3 ok4

end Outputs

/-! ### The count of a duty -/

/-- The highest count of a build -/
def maximumCount : Build → ℕ
  | .flight => 1023
  | .characterization => 358

theorem dutyCount_le {value : ℚ} {limit : ℕ} (positive : 0 ≤ value) (small : value ≤ 1)
    (near : value * 1023 + 3 / 4 ≤ limit + 1) : dutyCount (.finite value) ≤ limit := by
  have bounded : |value * 1023| < 2 ^ 10 := by
    rw [abs_of_nonneg (by positivity)]
    norm_num
    linarith
  obtain ⟨result, found, close⟩ := Double.rounded_near (value * 1023) 10 bounded (by omega) (by omega)
  have tiny : (2 : ℚ) ^ (((10 : ℕ) : ℤ) - 53) / 2 ≤ 1 / 8 := by norm_num
  have above := (abs_le.mp (close.trans tiny)).2
  have clamped : dutyCount (.finite value) =
      (Double.lround (fun _ => 0) (.finite result)).toNat := by
    have product : Double.mul (.finite value) (.finite (kMaximumDutyCount : ℕ)) =
        .finite result := by
      show Double.rounded (value * ((1023 : ℕ) : ℚ)) = _
      push_cast
      exact found
    unfold dutyCount
    simp only [Double.lt, Double.zero, decide_eq_true_eq, not_lt.mpr positive, not_lt.mpr small,
      if_false, product]
  have nearest : Double.nearestAway result ≤ limit := by
    unfold Double.nearestAway
    split_ifs with sign
    · have below : result + 1 / 2 < (limit : ℚ) + 1 := by linarith
      have lower := Int.floor_le (result + 1 / 2)
      have whole : ((⌊result + 1 / 2⌋ : ℤ) : ℚ) < ((limit + 1 : ℤ) : ℚ) := by
        push_cast
        linarith
      have strict : ⌊result + 1 / 2⌋ < (limit + 1 : ℤ) := by exact_mod_cast whole
      omega
    · have below : ⌈result - 1 / 2⌉ ≤ (0 : ℤ) := by
        rw [Int.ceil_le]
        push_cast
        linarith
      omega
  rw [clamped]
  show (if Double.IsLong _ then Double.nearestAway result else 0).toNat ≤ limit
  split_ifs
  · omega
  · exact Nat.zero_le _

theorem maximumDuty_finite (build : Build) :
    ∃ value, kProductionMotorMaximumDuty build = .finite value ∧ 0 ≤ value ∧ value ≤ 1 ∧
      value * 1023 + 3 / 4 ≤ maximumCount build + 1 := by
  cases build with
  | flight => exact ⟨1, rfl, by norm_num, by norm_num, by norm_num [maximumCount]⟩
  | characterization =>
      obtain ⟨value, found, close⟩ := Double.rounded_near (35 / 100) 1 (by norm_num [abs_of_pos])
        (by omega) (by omega)
      have tiny : (2 : ℚ) ^ (((1 : ℕ) : ℤ) - 53) / 2 ≤ 1 / 100000 := by norm_num
      have around := abs_le.mp (close.trans tiny)
      refine ⟨value, found, ?_, ?_, ?_⟩
      · linarith [around.1]
      · linarith [around.2]
      · show value * 1023 + 3 / 4 ≤ ((358 : ℕ) : ℚ) + 1
        push_cast
        linarith [around.2]

/-- What `apply` hands to `setChannelDuty` is no more than the highest count. -/
theorem dutyCount_limited (build : Build) {duty : Double} (finite : duty.isFinite = true)
    (positive : duty.lt .zero = false) (small : Double.lt (.finite 1) duty = false) :
    dutyCount (if (kProductionMotorMaximumDuty build).lt duty then kProductionMotorMaximumDuty build
      else duty) ≤ maximumCount build := by
  obtain ⟨maximum, same, above, below, near⟩ := maximumDuty_finite build
  rw [same]
  cases duty with
  | finite value =>
      have nonneg : 0 ≤ value := not_lt.mp (of_decide_eq_false positive)
      have le : value ≤ 1 := not_lt.mp (of_decide_eq_false small)
      by_cases limited : Double.lt (.finite maximum) (.finite value) = true
      · rw [if_pos limited]
        exact dutyCount_le above below near
      · rw [if_neg limited]
        have under : value ≤ maximum := by
          by_contra beyond
          exact limited (decide_eq_true (not_le.mp beyond))
        exact dutyCount_le nonneg le (by linarith)
  | infinite negative => cases finite
  | nan => cases finite

/-! ### A call of the driver -/

namespace Motor

variable {build : Build} {answers : ℕ → Int32} {motor : Motor} {limit : ℕ}

open Outputs

theorem calm_coastCalls : ∀ pinCall ∈ motor.coastCalls, pinCall.calm = true := by
  unfold coastCalls
  cases motor.driver.timerConfigured <;> cases motor.driver.in1Configured <;>
    cases motor.driver.in2Configured <;> decide

/-- `coast` finds nothing to do. -/
def Skips (build : Build) (motor : Motor) : Prop :=
  build = .characterization ∧ motor.driver.initialized ∧ motor.driver.coastKnown

instance : Decidable (motor.Skips build) := inferInstanceAs (Decidable (_ ∧ _))

theorem coast_skipped (skips : motor.Skips build) : motor.coast build answers = (espOk, motor) :=
  if_pos skips

theorem coast_done (does : ¬motor.Skips build) : motor.coast build answers =
    ((motor.outputs.all answers motor.coastCalls).1,
      { driver :=
          { motor.driver with
            coastKnown := decide ((motor.outputs.all answers motor.coastCalls).1 = espOk) }
        outputs := (motor.outputs.all answers motor.coastCalls).2 }) := if_neg does

theorem eased_coast : Eased motor.outputs (motor.coast build answers).2.outputs := by
  by_cases skips : motor.Skips build
  · rw [coast_skipped skips]
    exact Eased.refl _
  · rw [coast_done skips]
    exact eased_all calm_coastCalls

theorem guarded_coast (guarded : Guarded limit motor.outputs) :
    Guarded limit (motor.coast build answers).2.outputs := by
  by_cases skips : motor.Skips build
  · rw [coast_skipped skips]
    exact guarded
  · rw [coast_done skips]
    exact guarded.all calm_coastCalls

theorem guarded_settle (guarded : Guarded limit motor.outputs) (result : Int32) :
    Guarded limit (motor.settle build answers result).2.outputs := by
  unfold settle
  split_ifs
  · exact guarded
  · exact guarded_coast guarded

theorem guarded_apply (guarded : Guarded (maximumCount build) motor.outputs)
    (command : MotorCommand) :
    Guarded (maximumCount build) (motor.apply build answers command).2.outputs := by
  unfold apply
  split_ifs with refused
  · exact guarded_coast guarded
  · simp only [not_or, Bool.not_eq_true, Bool.not_eq_false] at refused
    obtain ⟨-, -, -, finite, positive, small⟩ := refused
    have count := dutyCount_limited build finite positive small
    unfold setChannelDuty
    apply guarded_settle
    cases command.positiveIn1
    · exact (driven .in2 .in1 (by decide) _).guarded _ count guarded
    · exact (driven .in1 .in2 (by decide) _).guarded _ count guarded

theorem guarded_initializeDriver (guarded : Guarded limit motor.outputs) (safeOutputs : Bool) :
    Guarded limit (motor.initializeDriver build answers safeOutputs).2.outputs := by
  have first := @Guarded.eased answers _ limit guarded .timerConfig (eased_call_calm rfl)
  have second := @Guarded.eased answers _ limit first (.channelConfig .in1) (eased_call_calm rfl)
  have third := @Guarded.eased answers _ limit second (.channelConfig .in2) (eased_call_calm rfl)
  unfold initializeDriver
  dsimp only
  split_ifs
  · exact guarded
  · exact guarded_coast first
  · exact guarded_coast second
  · exact guarded_coast third
  · exact guarded_coast third
  · exact guarded_coast third
  · exact guarded

theorem guarded_step (guarded : Guarded (maximumCount build) motor.outputs) {call : MotorCall}
    (unbraked : call ≠ .brake) : Guarded (maximumCount build) (motor.step build answers call).outputs := by
  cases call with
  | initializeDriver safeOutputs => exact guarded_initializeDriver guarded safeOutputs
  | apply command => exact guarded_apply guarded command
  | brake => exact absurd rfl unbraked
  | coast => exact guarded_coast guarded

/-- As long as nobody brakes, one input at most is driven at any moment, and no higher than the build allows,
whatever is asked of the driver and whatever the peripheral answers. -/
theorem drives_one (build : Build) (answers : ℕ → Int32) {calls : List MotorCall}
    (unbraked : ∀ call ∈ calls, call ≠ .brake) :
    ∀ moment ∈ (Run.after (step build answers) {} calls).outputs.moments,
      (moment.1 = 0 ∨ moment.2 = 0) ∧ moment.1 ≤ maximumCount build ∧
        moment.2 ≤ maximumCount build := by
  have preserved : ∀ (motor : Motor) (call : MotorCall),
      Guarded (maximumCount build) motor.outputs → call ≠ .brake →
        Guarded (maximumCount build) (motor.step build answers call).outputs :=
    fun _ _ guarded unbraked => guarded_step guarded unbraked
  have start : Guarded (maximumCount build) ({} : Motor).outputs :=
    ⟨⟨Or.inl rfl, Nat.zero_le _, Nat.zero_le _⟩, fun _ within => absurd within List.not_mem_nil⟩
  have along : ∀ (motor : Motor) (calls : List MotorCall), (∀ call ∈ calls, call ≠ .brake) →
      Run.Along (step build answers) (fun _ call => call ≠ .brake) motor calls := by
    intro motor calls
    induction calls generalizing motor with
    | nil => exact fun _ => trivial
    | cons call rest inductionHypothesis =>
        intro unbraked
        exact ⟨unbraked call List.mem_cons_self, inductionHypothesis _ fun other within =>
          unbraked other (List.mem_cons_of_mem _ within)⟩
  exact (Run.invariant_after preserved start (along {} calls unbraked)).past

/-- The tenth call of the peripheral fails. -/
def tenthFails (call : ℕ) : Int32 := if call = 9 then -1 else 0

theorem drives_one_turning : (Run.after (step .characterization tenthFails) {}
    [.initializeDriver true, .apply ⟨.finite (1 / 4), true, false, true⟩,
      .apply ⟨.finite (1 / 2), false, false, true⟩]).outputs.moments.all (fun moment =>
        decide ((moment.1 = 0 ∨ moment.2 = 0) ∧ moment.1 ≤ 358 ∧ moment.2 ≤ 358)) = true := by
  apply List.all_eq_true.mpr
  intro moment within
  exact decide_eq_true (drives_one .characterization tenthFails (by simp) moment within)

end Motor

end MissionBoard.Actuators
