import Mathlib.Data.List.Infix
import Mathlib.LinearAlgebra.Lagrange
import Mathlib.Tactic.FieldSimp
import Mathlib.Tactic.FinCases
import Mathlib.Tactic.Linarith
import MissionBoard.Library.Run
import MissionBoard.Numeric.Double

/-!
Owns `QuadraticN3FinVelocityEstimator` of `control/control_pipeline.cpp` in exact arithmetic: the
rate of the fin at the newest of three samples, and that it is the derivative of the quadratic
through them.
-/

namespace MissionBoard.Control

open Polynomial

/-- `QuadraticN3FinVelocityEstimator::Point` -/
structure FinPoint where
  timestampUs : UInt64
  angleRad : ℚ
deriving DecidableEq

/-- The arguments of a call of `update` -/
structure FinSample where
  timestampUs : UInt64
  angleRad : Double
deriving DecidableEq

/-- `QuadraticN3FinVelocityEstimator`: the points that it has, the newest last -/
structure QuadraticN3FinVelocityEstimator where
  points : List FinPoint := []
deriving DecidableEq

/-- `static_cast<int64_t>` -/
def signed (timestampUs : UInt64) : ℤ := timestampUs.toBitVec.toInt

/-- The time of a point after another one, in seconds -/
def FinPoint.secondsAfter (point newest : FinPoint) : ℚ :=
  ((signed point.timestampUs - signed newest.timestampUs : ℤ) : ℚ) * (1 / 1000000)

/-- The end of `update`, for three points -/
def quadraticRate (first second third : FinPoint) : Option ℚ :=
  let t0 := first.secondsAfter third
  let t1 := second.secondsAfter third
  if t0 = 0 ∨ t1 = 0 ∨ t0 = t1 then none
  else
    let derivativeL0 := -t1 / (t0 * (t0 - t1))
    let derivativeL1 := -t0 / (t1 * (t1 - t0))
    let derivativeL2 := -(t0 + t1) / (t0 * t1)
    some (first.angleRad * derivativeL0 + second.angleRad * derivativeL1 +
      third.angleRad * derivativeL2)

namespace QuadraticN3FinVelocityEstimator

/-- The samples that make `update` reset -/
def breaks (estimator : QuadraticN3FinVelocityEstimator) (sample : FinSample) : Bool :=
  !sample.angleRad.isFinite ||
    estimator.points.getLast?.any fun newest => decide (sample.timestampUs ≤ newest.timestampUs)

/-- The points after a sample that does not reset -/
def extended (estimator : QuadraticN3FinVelocityEstimator) (point : FinPoint) : List FinPoint :=
  if estimator.points.length < 3 then estimator.points ++ [point]
  else estimator.points.drop 1 ++ [point]

/-- The rate, once there are three points -/
def rateOf : List FinPoint → Option ℚ
  | [first, second, third] => quadraticRate first second third
  | _ => none

/-- `update` -/
def update (estimator : QuadraticN3FinVelocityEstimator) (sample : FinSample) :
    Option ℚ × QuadraticN3FinVelocityEstimator :=
  if estimator.breaks sample then (none, {})
  else
    match sample.angleRad with
    | .infinite _ | .nan => (none, {})
    | .finite angleRad =>
        let points := estimator.extended ⟨sample.timestampUs, angleRad⟩
        (rateOf points, ⟨points⟩)

def feed (estimator : QuadraticN3FinVelocityEstimator) (sample : FinSample) :
    QuadraticN3FinVelocityEstimator := (estimator.update sample).2

end QuadraticN3FinVelocityEstimator

/-! ### The quadratic -/

/-- The time of a point, in seconds -/
def FinPoint.seconds (point : FinPoint) : ℚ := point.timestampUs.toNat / 1000000

theorem signed_of_lt {timestampUs : UInt64} (bounded : timestampUs.toNat < 2 ^ 63) :
    signed timestampUs = timestampUs.toNat := by
  apply BitVec.toInt_eq_toNat_of_lt
  show 2 * timestampUs.toNat < 2 ^ 64
  omega

variable {first second third point newest : FinPoint}

theorem secondsAfter_eq (bounded : point.timestampUs.toNat < 2 ^ 63)
    (bounded' : newest.timestampUs.toNat < 2 ^ 63) :
    point.secondsAfter newest = point.seconds - newest.seconds := by
  rw [FinPoint.secondsAfter, signed_of_lt bounded, signed_of_lt bounded', FinPoint.seconds,
    FinPoint.seconds]
  push_cast
  ring

/-- A polynomial of degree below 3 goes through the three points. -/
structure Fits (first second third : FinPoint) (quadratic : ℚ[X]) : Prop where
  degree : quadratic.degree < 3
  first : quadratic.eval first.seconds = first.angleRad
  second : quadratic.eval second.seconds = second.angleRad
  third : quadratic.eval third.seconds = third.angleRad

/-- Three points in the order of time, before the signed timestamps end -/
structure InOrder (first second third : FinPoint) : Prop where
  early : first.timestampUs < second.timestampUs
  late : second.timestampUs < third.timestampUs
  bounded : third.timestampUs.toNat < 2 ^ 63

theorem seconds_lt (before : point.timestampUs < newest.timestampUs) :
    point.seconds < newest.seconds := by
  have earlier : (point.timestampUs.toNat : ℚ) < newest.timestampUs.toNat :=
    Nat.cast_lt.mpr (UInt64.lt_iff_toNat_lt.mp before)
  unfold FinPoint.seconds
  linarith

/-- There is one such polynomial. -/
theorem InOrder.existsUnique_fits (order : InOrder first second third) :
    ∃! quadratic, Fits first second third quadratic := by
  have early := seconds_lt order.early
  have late := seconds_lt order.late
  have apart : Set.InjOn ![first.seconds, second.seconds, third.seconds]
      (Finset.univ : Finset (Fin 3)) := by
    intro left _ right _ same
    fin_cases left <;> fin_cases right <;> simp at same ⊢ <;> linarith
  have same : ∀ quadratic : ℚ[X], Fits first second third quadratic ↔
      quadratic = Lagrange.interpolate Finset.univ ![first.seconds, second.seconds, third.seconds]
        ![first.angleRad, second.angleRad, third.angleRad] := by
    intro quadratic
    rw [← Lagrange.eq_interpolate_iff _ apart]
    constructor
    · intro fits
      refine ⟨fits.degree, fun index _ => ?_⟩
      fin_cases index
      · exact fits.first
      · exact fits.second
      · exact fits.third
    · rintro ⟨degree, through⟩
      exact ⟨degree, through 0 (Finset.mem_univ 0), through 1 (Finset.mem_univ 1),
        through 2 (Finset.mem_univ 2)⟩
  exact ⟨_, (same _).mpr rfl, fun other fits => (same other).mp fits⟩

/-- A polynomial of degree below 3, and its derivative, in their coefficients -/
theorem eval_of_degree_lt {quadratic : ℚ[X]} (degree : quadratic.degree < 3) (place : ℚ) :
    quadratic.eval place = quadratic.coeff 0 + quadratic.coeff 1 * place +
        quadratic.coeff 2 * place ^ 2 ∧
      quadratic.derivative.eval place = quadratic.coeff 1 + 2 * quadratic.coeff 2 * place := by
  have parts : quadratic = C (quadratic.coeff 0) + C (quadratic.coeff 1) * X +
      C (quadratic.coeff 2) * X ^ 2 := by
    have small : quadratic.natDegree < 3 := by
      by_cases zero : quadratic = 0
      · rw [zero, natDegree_zero]
        decide
      · exact (natDegree_lt_iff_degree_lt zero).mpr degree
    have sum := quadratic.as_sum_range_C_mul_X_pow' small
    rwa [Finset.sum_range_succ, Finset.sum_range_succ, Finset.sum_range_one, pow_zero, mul_one,
      pow_one] at sum
  constructor
  · conv_lhs => rw [parts]
    simp
  · conv_lhs => rw [parts]
    simp
    ring

/-- The weights of the source give the derivative. -/
theorem weights_eq {s0 s1 s2 a b c : ℚ} (early : s0 < s1) (late : s1 < s2) :
    (a + b * s0 + c * s0 ^ 2) * (-(s1 - s2) / ((s0 - s2) * (s0 - s2 - (s1 - s2)))) +
        (a + b * s1 + c * s1 ^ 2) * (-(s0 - s2) / ((s1 - s2) * (s1 - s2 - (s0 - s2)))) +
      (a + b * s2 + c * s2 ^ 2) * (-(s0 - s2 + (s1 - s2)) / ((s0 - s2) * (s1 - s2))) =
      b + 2 * c * s2 := by
  have first : s0 - s2 ≠ 0 := (sub_neg.mpr (early.trans late)).ne
  have second : s1 - s2 ≠ 0 := (sub_neg.mpr late).ne
  have between : s0 - s1 ≠ 0 := (sub_neg.mpr early).ne
  rw [sub_sub_sub_cancel_right, sub_sub_sub_cancel_right, ← neg_sub s0 s1]
  field_simp
  ring

/-- The rate is its derivative at the newest point, and no denominator is 0. -/
theorem InOrder.quadraticRate_eq (order : InOrder first second third) {quadratic : ℚ[X]}
    (fits : Fits first second third quadratic) :
    quadraticRate first second third = some (quadratic.derivative.eval third.seconds) := by
  have early := seconds_lt order.early
  have late := seconds_lt order.late
  have bounded : second.timestampUs.toNat < 2 ^ 63 :=
    (UInt64.lt_iff_toNat_lt.mp order.late).trans order.bounded
  have bounded' : first.timestampUs.toNat < 2 ^ 63 :=
    (UInt64.lt_iff_toNat_lt.mp order.early).trans bounded
  unfold quadraticRate
  rw [secondsAfter_eq bounded' order.bounded, secondsAfter_eq bounded order.bounded]
  dsimp only
  rw [if_neg, ← fits.first, ← fits.second, ← fits.third, (eval_of_degree_lt fits.degree _).1,
    (eval_of_degree_lt fits.degree _).1, (eval_of_degree_lt fits.degree _).1,
    (eval_of_degree_lt fits.degree _).2]
  · exact congrArg some (weights_eq early late)
  · rw [not_or, not_or]
    exact ⟨(sub_neg.mpr (early.trans late)).ne, (sub_neg.mpr late).ne,
      fun same => early.ne (sub_left_inj.mp same)⟩

/-- What the source divides by -/
def denominators (first second third : FinPoint) : List ℚ :=
  let t0 := first.secondsAfter third
  let t1 := second.secondsAfter third
  [t0 * (t0 - t1), t1 * (t1 - t0), t0 * t1]

theorem denominators_ne_zero (reports : (quadraticRate first second third).isSome = true) :
    0 ∉ denominators first second third := by
  unfold quadraticRate at reports
  dsimp only at reports
  split at reports
  · cases reports
  · rename_i apart
    rw [not_or, not_or] at apart
    obtain ⟨begins, goesOn, differs⟩ := apart
    unfold denominators
    simp [begins, goesOn, sub_eq_zero, differs, Ne.symm differs]

/-! ### The window -/

/-- The sample of a point -/
def FinPoint.sample (point : FinPoint) : FinSample := ⟨point.timestampUs, .finite point.angleRad⟩

namespace QuadraticN3FinVelocityEstimator

/-- The estimator has the latest samples, in the order of time. -/
structure Holds (estimator : QuadraticN3FinVelocityEstimator) (history : List FinSample) : Prop where
  latest : estimator.points.map FinPoint.sample <:+ history
  short : estimator.points.length ≤ 3
  sorted : estimator.points.Pairwise fun first second => first.timestampUs < second.timestampUs

variable {estimator : QuadraticN3FinVelocityEstimator} {history : List FinSample}
  {sample : FinSample}

theorem holds_empty : Holds {} history := ⟨List.nil_suffix, by decide, List.Pairwise.nil⟩

/-- What `update` does: it resets, or it takes the sample as its newest point. -/
theorem update_cases (estimator : QuadraticN3FinVelocityEstimator) (sample : FinSample) :
    (estimator.breaks sample = true ∧ estimator.update sample = (none, {})) ∨
      (estimator.breaks sample = false ∧ ∃ point : FinPoint, sample = point.sample ∧
        (∀ newest, estimator.points.getLast? = some newest →
          newest.timestampUs < point.timestampUs) ∧
        estimator.update sample =
          (rateOf (estimator.extended point), ⟨estimator.extended point⟩)) := by
  cases broken : estimator.breaks sample with
  | true => exact Or.inl ⟨rfl, if_pos broken⟩
  | false =>
      obtain ⟨timestampUs, angleRad⟩ := sample
      have kept := broken
      rw [breaks, Bool.or_eq_false_iff] at kept
      cases angleRad with
      | infinite negative => exact absurd kept.1.symm Bool.false_ne_true
      | nan => exact absurd kept.1.symm Bool.false_ne_true
      | finite angleRad =>
          refine Or.inr ⟨rfl, ⟨timestampUs, angleRad⟩, rfl, fun newest last => ?_, ?_⟩
          · have later := kept.2
            rw [last, Option.any_some, decide_eq_false_iff_not, UInt64.not_le] at later
            exact later
          · unfold update
            rw [if_neg (by rw [broken]; exact Bool.false_ne_true)]

/-- The new point is the last, after the latest of those before. -/
theorem extended_eq (estimator : QuadraticN3FinVelocityEstimator) (point : FinPoint) :
    ∃ kept, estimator.extended point = kept ++ [point] ∧ kept <:+ estimator.points ∧
      (estimator.points.length ≤ 3 → kept.length = min 2 estimator.points.length) := by
  unfold extended
  split
  · exact ⟨_, rfl, List.suffix_rfl, fun _ => by omega⟩
  · exact ⟨_, rfl, List.drop_suffix _ _, fun _ => by rw [List.length_drop]; omega⟩

/-- A newer point goes to the end of the window. -/
theorem Holds.extended (holds : estimator.Holds history) {point : FinPoint}
    (newer : ∀ newest, estimator.points.getLast? = some newest →
      newest.timestampUs < point.timestampUs) :
    Holds ⟨estimator.extended point⟩ (history ++ [point.sample]) := by
  obtain ⟨kept, same, latest, short⟩ := estimator.extended_eq point
  have short := short holds.short
  have sorted := holds.sorted
  rw [same]
  refine ⟨?_, by rw [List.length_append, List.length_singleton]; omega, ?_⟩
  · obtain ⟨earlier, parts⟩ := (latest.map FinPoint.sample).trans holds.latest
    refine ⟨earlier, ?_⟩
    rw [List.map_append, List.map_singleton, ← List.append_assoc, parts]
  · refine List.pairwise_append.mpr ⟨sorted.sublist latest.sublist, List.pairwise_singleton _ _,
      fun first within second last => ?_⟩
    rw [List.mem_singleton.mp last]
    have member := latest.mem within
    rcases List.eq_nil_or_concat estimator.points with none | ⟨front, newest, parts⟩
    · rw [none] at member
      exact absurd member List.not_mem_nil
    · rw [List.concat_eq_append] at parts
      have before := newer newest (by rw [parts, List.getLast?_concat])
      rw [parts] at member sorted
      rcases List.mem_append.mp member with early | end_
      · exact UInt64.lt_trans ((List.pairwise_append.mp sorted).2.2 first early newest
          (List.mem_singleton_self newest)) before
      · rw [List.mem_singleton.mp end_]
        exact before

theorem Holds.feed (holds : estimator.Holds history) (sample : FinSample) :
    (estimator.feed sample).Holds (history ++ [sample]) := by
  rcases update_cases estimator sample with ⟨-, same⟩ | ⟨-, point, rfl, newer, same⟩
  · rw [QuadraticN3FinVelocityEstimator.feed, same]
    exact holds_empty
  · rw [QuadraticN3FinVelocityEstimator.feed, same]
    exact holds.extended newer

theorem holds_after (samples : List FinSample) :
    (Run.after feed {} samples).Holds samples := by
  induction samples using List.reverseRecOn with
  | nil => exact holds_empty
  | append_singleton samples last inductionHypothesis =>
      rw [Run.after_concat]
      exact inductionHypothesis.feed last

/-- A rate rests on the three latest samples, which come in the order of time. -/
theorem Holds.reports (holds : estimator.Holds history)
    (reports : (estimator.update sample).1.isSome = true) :
    ∃ earlier first second third, history ++ [sample] =
        earlier ++ [first, second, third].map FinPoint.sample ∧
      first.timestampUs < second.timestampUs ∧ second.timestampUs < third.timestampUs ∧
      (estimator.update sample).1 = quadraticRate first second third := by
  rcases update_cases estimator sample with ⟨-, same⟩ | ⟨-, point, rfl, newer, same⟩
  · rw [same] at reports
    cases reports
  · rw [same] at reports ⊢
    have next := holds.extended newer
    dsimp only at reports ⊢
    unfold rateOf at reports
    split at reports
    · rename_i first second third parts
      obtain ⟨earlier, latest⟩ := next.latest
      have sorted := next.sorted
      simp only [parts] at latest sorted
      rw [List.pairwise_cons, List.pairwise_cons] at sorted
      refine ⟨earlier, first, second, third, latest.symm, sorted.1 second (by simp),
        sorted.2.1 third (by simp), ?_⟩
      rw [parts]
      rfl
    · cases reports

/-! ### Samples in the order of time -/

/-- Finite samples with strictly increasing timestamps -/
structure Increasing (samples : List FinSample) : Prop where
  later : samples.Pairwise fun first second => first.timestampUs < second.timestampUs
  finite : ∀ sample ∈ samples, sample.angleRad.isFinite = true

/-- Among such samples none resets the estimator, so it has the latest three of them. -/
theorem length_after {samples : List FinSample} (increasing : Increasing samples) :
    (Run.after feed {} samples).points.length = min 3 samples.length := by
  induction samples using List.reverseRecOn with
  | nil => rfl
  | append_singleton samples last inductionHypothesis =>
      obtain ⟨before, -, apart⟩ := List.pairwise_append.mp increasing.later
      have length := inductionHypothesis
        ⟨before, fun sample within => increasing.finite sample (List.mem_append_left _ within)⟩
      have holds := holds_after samples
      rw [Run.after_concat, feed, List.length_append, List.length_singleton]
      rcases update_cases (Run.after feed {} samples) last with ⟨broken, -⟩ | ⟨-, point, rfl, -, same⟩
      · exfalso
        have finite := increasing.finite last (List.mem_append_right _ (List.mem_singleton_self last))
        rw [breaks, finite, Bool.not_true, Bool.false_or, Option.any_eq_true] at broken
        obtain ⟨newest, has, early⟩ := broken
        have within : newest.sample ∈ samples :=
          holds.latest.mem (List.mem_map_of_mem (List.mem_of_getLast? has))
        have order := apart _ within last (List.mem_singleton_self last)
        exact absurd (of_decide_eq_true early) (UInt64.not_le.mpr order)
      · obtain ⟨kept, parts, -, short⟩ := extended_eq (Run.after feed {} samples) point
        have short := short holds.short
        rw [same]
        show (QuadraticN3FinVelocityEstimator.extended _ point).length = _
        rw [parts, List.length_append, List.length_singleton]
        omega

/-- From the third of such samples on, there is a rate. -/
theorem reports_after {samples : List FinSample} {sample : FinSample}
    (increasing : Increasing (samples ++ [sample])) (long : 2 ≤ samples.length)
    (bounded : sample.timestampUs.toNat < 2 ^ 63) :
    ((Run.after feed {} samples).update sample).1.isSome = true := by
  have next := length_after increasing
  have holds := holds_after (samples ++ [sample])
  rw [Run.after_concat, feed] at next holds
  rw [List.length_append, List.length_singleton] at next
  rcases update_cases (Run.after feed {} samples) sample with ⟨-, same⟩ | ⟨-, point, rfl, -, same⟩
  · rw [same, List.length_nil] at next
    omega
  · rw [same] at next holds ⊢
    have whole : ((Run.after feed {} samples).extended point).length = min 3 (samples.length + 1) :=
      next
    obtain ⟨first, second, third, three⟩ := List.length_eq_three.mp
      (by omega : ((Run.after feed {} samples).extended point).length = 3)
    dsimp only
    rw [three]
    have sorted := holds.sorted
    simp only [three] at sorted
    have last : third = point := by
      obtain ⟨kept, parts, -⟩ := extended_eq (Run.after feed {} samples) point
      have ends := congrArg List.getLast? (three.symm.trans parts)
      rw [List.getLast?_concat] at ends
      exact Option.some.inj ends
    rw [List.pairwise_cons, List.pairwise_cons] at sorted
    have order : InOrder first second third :=
      ⟨sorted.1 second (by simp), sorted.2.1 third (by simp), last ▸ bounded⟩
    obtain ⟨quadratic, fits, -⟩ := order.existsUnique_fits
    show (quadraticRate first second third).isSome = true
    rw [order.quadraticRate_eq fits]
    rfl

/-- Every rate is the derivative, at the newest sample, of the one quadratic through the three
latest samples; it divides by nothing that is 0; samples in the order of time have a rate from the
third on; and after a sample that resets the estimator, a rate takes three more samples in the order
of time. -/
theorem estimates_quadratics :
    (∀ (samples : List FinSample) (sample : FinSample) (rate : ℚ),
        (∀ fed ∈ samples ++ [sample], fed.timestampUs.toNat < 2 ^ 63) →
        ((Run.after feed {} samples).update sample).1 = some rate →
        ∃ earlier first second third, samples ++ [sample] =
            earlier ++ [first, second, third].map FinPoint.sample ∧
          ∃ quadratic : ℚ[X], Fits first second third quadratic ∧
            (∀ other, Fits first second third other → other = quadratic) ∧
            rate = quadratic.derivative.eval third.seconds) ∧
      (∀ first second third, (quadraticRate first second third).isSome = true →
        0 ∉ denominators first second third) ∧
      (∀ (samples : List FinSample) (sample : FinSample), Increasing (samples ++ [sample]) →
        sample.timestampUs.toNat < 2 ^ 63 → 2 ≤ samples.length →
        ((Run.after feed {} samples).update sample).1.isSome = true) ∧
      ∀ (before later : List FinSample) (reset sample : FinSample),
        (Run.after feed {} before).breaks reset = true →
        ((Run.after feed {} (before ++ reset :: later)).update sample).1.isSome = true →
        ∃ earlier first second third, later ++ [sample] =
            earlier ++ [first, second, third].map FinPoint.sample ∧
          first.timestampUs < second.timestampUs ∧ second.timestampUs < third.timestampUs := by
  refine ⟨fun samples sample rate bounded reported => ?_, fun _ _ _ => denominators_ne_zero,
    fun samples sample increasing bounded long => reports_after increasing long bounded,
    fun before later reset sample broken reported => ?_⟩
  · obtain ⟨earlier, first, second, third, latest, early, late, same⟩ :=
      (holds_after samples).reports (Option.isSome_iff_exists.mpr ⟨rate, reported⟩)
    have order : InOrder first second third := by
      refine ⟨early, late, bounded third.sample ?_⟩
      rw [latest]
      exact List.mem_append_right _ (List.mem_map_of_mem (by simp))
    obtain ⟨quadratic, fits, only⟩ := order.existsUnique_fits
    rw [reported, order.quadraticRate_eq fits] at same
    exact ⟨earlier, first, second, third, latest, quadratic, fits, only, Option.some.inj same⟩
  · have empty : (Run.after feed {} before).feed reset = {} := by
      rcases update_cases (Run.after feed {} before) reset with ⟨-, same⟩ | ⟨kept, -⟩
      · rw [feed, same]
      · rw [broken] at kept
        cases kept
    rw [Run.after_append, Run.after_cons, empty] at reported
    obtain ⟨earlier, first, second, third, latest, early, late, -⟩ :=
      (holds_after later).reports reported
    exact ⟨earlier, first, second, third, latest, early, late⟩

/-- A timestamp below the one before it does not reset an estimator that has just been reset: only
two more samples come before the rate. -/
theorem two_samples_after_decrease :
    ¬ ∀ (before later : List FinSample) (previous decreased sample : FinSample),
      decreased.timestampUs ≤ previous.timestampUs →
      ((Run.after feed {} (before ++ previous :: decreased :: later)).update sample).1.isSome =
        true →
      ∃ earlier first second third, later ++ [sample] =
          earlier ++ [first, second, third].map FinPoint.sample ∧
        first.timestampUs < second.timestampUs ∧ second.timestampUs < third.timestampUs := by
  intro all
  obtain ⟨earlier, first, second, third, three, -⟩ := all [⟨10, .finite 0⟩] [⟨4, .finite 0⟩]
    ⟨5, .finite 0⟩ ⟨3, .finite 0⟩ ⟨6, .finite 0⟩ (by decide) (by decide +kernel)
  have length := congrArg List.length three
  simp only [List.length_append, List.length_map, List.length_cons, List.length_nil] at length
  omega

end QuadraticN3FinVelocityEstimator

end MissionBoard.Control
