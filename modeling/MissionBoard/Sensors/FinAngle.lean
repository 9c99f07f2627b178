import MissionBoard.Library.Run
import MissionBoard.Numeric.DoubleArithmetic

/-!
Owns the fin angle of `missionRealtimeTask` in exact arithmetic: the unwrapping of the encoder's readings,
over its failures, and the zero that `set_fin_zero` takes; and when the angle is that of the fin.

A reading is the true angle less its whole turns.
-/

namespace MissionBoard.Sensors

/-! ### The angle of the task -/

/-- `kPi` of the task -/
def kPi : ℚ := 3.141592653589793

/-- `kTwoPi` -/
def kTwoPi : ℚ := 2 * kPi

/-- What the encoder reads of an angle -/
def wrapped (angle : ℚ) : ℚ := angle - ⌊angle / kTwoPi⌋ * kTwoPi

/-- What the task keeps of the encoder -/
structure FinAngle where
  encoderReady : Bool := false
  finAngleAvailable : Bool := false
  finZeroAvailable : Bool := false
  previousWrappedFinRad : ℚ := 0
  unwrappedFinRad : ℚ := 0
  finZeroReferenceRad : ℚ := 0
  finAngleRad : ℚ := 0

namespace FinAngle

variable (fin : FinAngle)

/-- `delta` of two readings, by the shorter way round -/
def shorter (delta : ℚ) : ℚ :=
  if kPi < delta then delta - kTwoPi else if delta < -kPi then delta + kTwoPi else delta

/-- `unwrapped_fin_rad` after a reading -/
def unwrap (reading : ℚ) : ℚ :=
  if ¬fin.finAngleAvailable then
    if fin.finZeroAvailable then
      reading + Double.nearestAway ((fin.unwrappedFinRad - reading) / kTwoPi) * kTwoPi
    else reading
  else fin.unwrappedFinRad + shorter (reading - fin.previousWrappedFinRad)

/-- A valid reading -/
def read (reading : ℚ) : FinAngle :=
  { fin with
    encoderReady := true
    finAngleAvailable := true
    previousWrappedFinRad := reading
    unwrappedFinRad := fin.unwrap reading
    finAngleRad :=
      if fin.finZeroAvailable then fin.unwrap reading - fin.finZeroReferenceRad
      else fin.finAngleRad }

/-- A reading that fails -/
def fail : FinAngle := { fin with encoderReady := false, finAngleAvailable := false }

/-- An iteration without the encoder, which may be found again -/
def absent (reconnected : Bool) : FinAngle :=
  if reconnected then { fin with encoderReady := true, finAngleAvailable := false }
  else { fin with encoderReady := false }

/-- `set_fin_zero`, when it is not refused -/
def setFinZero : FinAngle :=
  { fin with
    finZeroReferenceRad := fin.unwrappedFinRad
    finZeroAvailable := true
    finAngleRad := 0 }

/-- `set_fin_zero` finds the encoder ready and an angle. -/
def zeroTaken : Bool := fin.encoderReady && fin.finAngleAvailable

end FinAngle

/-! ### The task with the fin -/

/-- The task, the true angle at the last reading, and at the last zero -/
structure FinObservation where
  fin : FinAngle := {}
  angle : ℚ := 0
  zero : ℚ := 0

inductive FinEvent where
  | read (angle : ℚ)
  | fail
  | absent (reconnected : Bool)
  | setFinZero

namespace FinObservation

def step (observation : FinObservation) : FinEvent → FinObservation
  | .read angle => { observation with fin := observation.fin.read (wrapped angle), angle }
  | .fail => { observation with fin := observation.fin.fail }
  | .absent reconnected => { observation with fin := observation.fin.absent reconnected }
  | .setFinZero =>
      if observation.fin.zeroTaken then
        { observation with fin := observation.fin.setFinZero, zero := observation.angle }
      else observation

end FinObservation

/-! ### Turns -/

theorem kTwoPi_pos : 0 < kTwoPi := by
  unfold kTwoPi kPi
  norm_num

theorem wrapped_turns (angle : ℚ) : ∃ turns : ℤ, wrapped angle = angle + turns * kTwoPi := by
  refine ⟨-⌊angle / kTwoPi⌋, ?_⟩
  unfold wrapped
  push_cast
  ring

theorem wrapped_range (angle : ℚ) : 0 ≤ wrapped angle ∧ wrapped angle < kTwoPi := by
  have positive := kTwoPi_pos
  have below := Int.floor_le (angle / kTwoPi)
  have above := Int.lt_floor_add_one (angle / kTwoPi)
  rw [le_div_iff₀ positive] at below
  rw [div_lt_iff₀ positive] at above
  unfold wrapped
  constructor <;> linarith

theorem nearestAway_of_near {value : ℚ} {whole : ℤ} (near : |value - whole| < 1 / 2) :
    Double.nearestAway value = whole := by
  obtain ⟨low, high⟩ := abs_lt.mp near
  unfold Double.nearestAway
  split_ifs
  · rw [Int.floor_eq_iff]
    constructor <;> linarith
  · rw [Int.ceil_eq_iff]
    constructor <;> linarith

/-- The shorter way is the difference but for whole turns, and no more than half a turn. -/
theorem shorter_turns {delta : ℚ} (low : -kTwoPi < delta) (high : delta < kTwoPi) :
    (∃ turns : ℤ, FinAngle.shorter delta = delta + turns * kTwoPi) ∧
      |FinAngle.shorter delta| ≤ kPi := by
  have whole : kTwoPi = 2 * kPi := rfl
  have positive := kTwoPi_pos
  unfold FinAngle.shorter
  split_ifs with above below
  · refine ⟨⟨-1, by push_cast; ring⟩, abs_le.mpr ⟨?_, ?_⟩⟩ <;> linarith
  · refine ⟨⟨1, by push_cast; ring⟩, abs_le.mpr ⟨?_, ?_⟩⟩ <;> linarith
  · refine ⟨⟨0, by push_cast; ring⟩, abs_le.mpr ⟨?_, ?_⟩⟩ <;> linarith

/-- Two angles that differ by whole turns and by less than one are the same. -/
theorem eq_of_turns {first second : ℚ} {turns : ℤ} (differ : first = second + turns * kTwoPi)
    (near : |first - second| < kTwoPi) : first = second := by
  have positive := kTwoPi_pos
  have small : |(turns : ℚ)| * kTwoPi < 1 * kTwoPi := by
    rw [differ, add_sub_cancel_left, abs_mul, abs_of_pos positive] at near
    linarith
  have none : |turns| < 1 := by
    have cast := lt_of_mul_lt_mul_right small positive.le
    exact_mod_cast cast
  rw [Int.abs_lt_one_iff] at none
  rw [differ, none]
  simp

/-- An angle that is found again is given the turns that bring it nearest to the last one. -/
theorem refound_turns (before angle : ℚ) (turns : ℤ) :
    ∃ next : ℤ, wrapped angle +
        Double.nearestAway ((before + turns * kTwoPi - wrapped angle) / kTwoPi) * kTwoPi =
          angle + next * kTwoPi ∧ (|angle - before| < kPi → next = turns) := by
  have positive := kTwoPi_pos
  have half : kTwoPi = 2 * kPi := rfl
  obtain ⟨read, reads⟩ := wrapped_turns angle
  refine ⟨read + Double.nearestAway ((before + turns * kTwoPi - wrapped angle) / kTwoPi), ?_, ?_⟩
  · rw [reads]
    push_cast
    ring
  · intro small
    have quotient : (before + turns * kTwoPi - wrapped angle) / kTwoPi - ((turns - read : ℤ) : ℚ) =
        (before - angle) / kTwoPi := by
      rw [reads]
      push_cast
      field_simp
      ring
    have near : |(before + turns * kTwoPi - wrapped angle) / kTwoPi - ((turns - read : ℤ) : ℚ)| <
        1 / 2 := by
      rw [quotient, abs_div, abs_of_pos positive, div_lt_iff₀ positive, abs_sub_comm]
      linarith
    rw [nearestAway_of_near near]
    ring

/-- An angle that is followed goes on from the last one by the shorter way. -/
theorem followed_turns (before angle : ℚ) (turns : ℤ) :
    ∃ next : ℤ, before + turns * kTwoPi + FinAngle.shorter (wrapped angle - wrapped before) =
        angle + next * kTwoPi ∧ (|angle - before| < kPi → next = turns) := by
  have positive := kTwoPi_pos
  have half : kTwoPi = 2 * kPi := rfl
  obtain ⟨read, reads⟩ := wrapped_turns angle
  obtain ⟨last, lasts⟩ := wrapped_turns before
  obtain ⟨lowLast, highLast⟩ := wrapped_range before
  obtain ⟨low, high⟩ := wrapped_range angle
  have above : -kTwoPi < wrapped angle - wrapped before := by linarith
  have below : wrapped angle - wrapped before < kTwoPi := by linarith
  obtain ⟨⟨more, moved⟩, least⟩ := shorter_turns above below
  refine ⟨turns + read - last + more, ?_, ?_⟩
  · rw [moved, reads, lasts]
    push_cast
    ring
  · intro small
    -- the two ways are less than a turn apart, so they are the same
    have same : FinAngle.shorter (wrapped angle - wrapped before) = angle - before := by
      apply @eq_of_turns _ _ (read - last + more)
      · rw [moved, reads, lasts]
        push_cast
        ring
      · calc |FinAngle.shorter (wrapped angle - wrapped before) - (angle - before)|
            ≤ |FinAngle.shorter (wrapped angle - wrapped before)| + |angle - before| := abs_sub _ _
          _ < kTwoPi := by linarith
    rw [moved, reads, lasts] at same
    have none : ((read - last + more : ℤ) : ℚ) * kTwoPi = 0 := by
      push_cast
      linarith
    have zero : ((read - last + more : ℤ) : ℚ) = 0 :=
      (mul_eq_zero.mp none).resolve_right positive.ne'
    have whole : read - last + more = 0 := by exact_mod_cast zero
    omega

/-! ### The fin and its angle -/

namespace FinObservation

variable {observation : FinObservation}

/-- What the task has counted is the true angle but for these whole turns, and what it took as zero the
angle at that time but for its own. -/
structure Counts (observation : FinObservation) (turns zeroTurns : ℤ) : Prop where
  last : observation.fin.finAngleAvailable = true →
    observation.fin.previousWrappedFinRad = wrapped observation.angle
  counted : observation.fin.finAngleAvailable = true ∨ observation.fin.finZeroAvailable = true →
    observation.fin.unwrappedFinRad = observation.angle + turns * kTwoPi
  angle : observation.fin.finZeroAvailable = true →
    observation.fin.finAngleRad =
      observation.fin.unwrappedFinRad - observation.fin.finZeroReferenceRad
  reference : observation.fin.finZeroAvailable = true →
    observation.fin.finZeroReferenceRad = observation.zero + zeroTurns * kTwoPi

/-- A reading that the task counts on from the one before moves the fin by less than half a turn. -/
def SmallMove (observation : FinObservation) (event : FinEvent) : Prop :=
  ∀ angle, event = .read angle →
    observation.fin.finAngleAvailable = true ∨ observation.fin.finZeroAvailable = true →
      |angle - observation.angle| < kPi

/-- A reading after others is counted on from the last angle by the turns it has. -/
theorem unwrap_turns {turns zeroTurns : ℤ} (counts : Counts observation turns zeroTurns) (angle : ℚ)
    (counting : observation.fin.finAngleAvailable = true ∨
      observation.fin.finZeroAvailable = true) :
    ∃ next : ℤ, observation.fin.unwrap (wrapped angle) = angle + next * kTwoPi ∧
      (|angle - observation.angle| < kPi → next = turns) := by
  unfold FinAngle.unwrap
  rw [counts.counted counting]
  cases available : observation.fin.finAngleAvailable
  · have zero : observation.fin.finZeroAvailable = true := by
      rw [available] at counting
      exact counting.resolve_left Bool.false_ne_true
    rw [if_pos Bool.false_ne_true, if_pos zero]
    exact refound_turns observation.angle angle turns
  · rw [if_neg (not_not.mpr rfl), counts.last available]
    exact followed_turns observation.angle angle turns

theorem Counts.read {turns zeroTurns : ℤ} (counts : Counts observation turns zeroTurns)
    (angle : ℚ) : ∃ next : ℤ, Counts (observation.step (.read angle)) next zeroTurns ∧
      (SmallMove observation (.read angle) → observation.fin.finZeroAvailable = true →
        next = turns) := by
  have kept : ∀ {next : ℤ}, observation.fin.unwrap (wrapped angle) = angle + next * kTwoPi →
      Counts (observation.step (.read angle)) next zeroTurns := by
    intro next is
    refine ⟨fun _ => rfl, fun _ => is, ?_, counts.reference⟩
    intro zeroed
    exact if_pos zeroed
  by_cases counting : observation.fin.finAngleAvailable = true ∨
      observation.fin.finZeroAvailable = true
  · obtain ⟨next, is, same⟩ := unwrap_turns counts angle counting
    exact ⟨next, kept is, fun small _ => same (small angle rfl counting)⟩
  · obtain ⟨next, is⟩ := wrapped_turns angle
    rw [not_or] at counting
    refine ⟨next, kept ?_, fun _ zeroed => absurd zeroed counting.2⟩
    unfold FinAngle.unwrap
    rw [if_pos counting.1, if_neg counting.2]
    exact is

/-- Without a reading the angle stays, whether it can be counted on or not. -/
theorem Counts.stay {turns zeroTurns : ℤ} (counts : Counts observation turns zeroTurns)
    {encoderReady available : Bool} (fewer : available = true → observation.fin.finAngleAvailable = true) :
    Counts { observation with
      fin := { observation.fin with encoderReady, finAngleAvailable := available } } turns zeroTurns where
  last known := counts.last (fewer known)
  counted known := counts.counted (known.imp_left fewer)
  angle := counts.angle
  reference := counts.reference

/-- What one event does to the turns: without a reading none is gained, and with a small move neither. -/
theorem Counts.step {turns zeroTurns : ℤ} (counts : Counts observation turns zeroTurns)
    (event : FinEvent) : ∃ next zeroNext : ℤ, Counts (observation.step event) next zeroNext ∧
      (SmallMove observation event →
        (observation.fin.finZeroAvailable = true → turns = zeroTurns) →
          (observation.step event).fin.finZeroAvailable = true → next = zeroNext) := by
  cases event with
  | read angle =>
      obtain ⟨next, kept, same⟩ := counts.read angle
      exact ⟨next, zeroTurns, kept, fun small tracked zeroed =>
        (same small zeroed).trans (tracked zeroed)⟩
  | fail => exact ⟨turns, zeroTurns, counts.stay (fun known => absurd known Bool.false_ne_true),
      fun _ tracked => tracked⟩
  | absent reconnected =>
      cases reconnected
      · exact ⟨turns, zeroTurns, counts.stay (fun known => known), fun _ tracked => tracked⟩
      · exact ⟨turns, zeroTurns, counts.stay (fun known => absurd known Bool.false_ne_true),
          fun _ tracked => tracked⟩
  | setFinZero =>
      by_cases taken : observation.fin.zeroTaken = true
      · have available : observation.fin.finAngleAvailable = true := by
          unfold FinAngle.zeroTaken at taken
          exact (Bool.and_eq_true _ _ ▸ taken).2
        have before := counts.counted (Or.inl available)
        refine ⟨turns, turns, ?_, fun _ _ _ => rfl⟩
        unfold FinObservation.step
        rw [if_pos taken]
        exact ⟨counts.last, fun _ => before, fun _ => (sub_self _).symm, fun _ => before⟩
      · refine ⟨turns, zeroTurns, ?_, ?_⟩
        · unfold FinObservation.step
          rw [if_neg taken]
          exact counts
        · unfold FinObservation.step
          rw [if_neg taken]
          exact fun _ tracked => tracked

theorem Counts.after {start : FinObservation} {turns zeroTurns : ℤ}
    (counts : Counts start turns zeroTurns) (events : List FinEvent) :
    ∃ next zeroNext : ℤ, Counts (Run.after FinObservation.step start events) next zeroNext ∧
      (Run.Along FinObservation.step SmallMove start events →
        (start.fin.finZeroAvailable = true → turns = zeroTurns) →
          (Run.after FinObservation.step start events).fin.finZeroAvailable = true →
            next = zeroNext) := by
  induction events generalizing start turns zeroTurns with
  | nil => exact ⟨turns, zeroTurns, counts, fun _ tracked => tracked⟩
  | cons event rest inductionHypothesis =>
      obtain ⟨first, zeroFirst, moved, same⟩ := counts.step event
      obtain ⟨next, zeroNext, kept, later⟩ := inductionHypothesis moved
      refine ⟨next, zeroNext, kept, ?_⟩
      intro along tracked
      exact later along.2 (same along.1 tracked)

theorem counts_start : Counts {} 0 0 where
  last known := absurd known Bool.false_ne_true
  counted known := absurd (known.elim id id) Bool.false_ne_true
  angle known := absurd known Bool.false_ne_true
  reference known := absurd known Bool.false_ne_true

/-- The fin angle of the task is the way of the fin since the zero was taken, but for whole turns, in every
run of readings, failures, reconnections and zeros; and exactly that as long as the fin moves by less than
half a turn between two readings, whatever fails in between. -/
theorem fin_angle_tracks {events : List FinEvent}
    (zeroed : (Run.after FinObservation.step {} events).fin.finZeroAvailable = true) :
    (∃ turns : ℤ, (Run.after FinObservation.step {} events).fin.finAngleRad =
      (Run.after FinObservation.step {} events).angle -
        (Run.after FinObservation.step {} events).zero + turns * kTwoPi) ∧
    (Run.Along FinObservation.step SmallMove {} events →
      (Run.after FinObservation.step {} events).fin.finAngleRad =
        (Run.after FinObservation.step {} events).angle -
          (Run.after FinObservation.step {} events).zero) := by
  obtain ⟨turns, zeroTurns, counts, tracked⟩ := counts_start.after events
  have angle := counts.angle zeroed
  have counted := counts.counted (Or.inr zeroed)
  have reference := counts.reference zeroed
  constructor
  · refine ⟨turns - zeroTurns, ?_⟩
    rw [angle, counted, reference]
    push_cast
    ring
  · intro moves
    have same : turns = zeroTurns := tracked moves (fun _ => rfl) zeroed
    rw [angle, counted, reference, same]
    ring

/-- The encoder fails while the fin passes a whole turn. -/
def throughFailure : List FinEvent := [.read 6, .setFinZero, .fail, .absent true, .read 8]

theorem fin_angle_tracks_failing :
    (Run.after FinObservation.step {} throughFailure).fin.finAngleRad = 8 - 6 := by
  have moves : Run.Along FinObservation.step SmallMove {} throughFailure := by
    refine ⟨?_, ?_, ?_, ?_, ?_, trivial⟩
    · rintro angle - counting
      exact absurd counting (by decide)
    · exact fun angle reads => by cases reads
    · exact fun angle reads => by cases reads
    · exact fun angle reads => by cases reads
    · rintro angle ⟨⟩ -
      show |(8 : ℚ) - 6| < kPi
      norm_num [kPi]
  exact (@fin_angle_tracks throughFailure rfl).2 moves

end FinObservation

end MissionBoard.Sensors
