import Mathlib.Order.Basic
import Mathlib.Data.UInt

/-!
Owns the elapsed-time clock that two observers of one 64-bit microsecond counter
keep: whether it runs, the counter value it was started at, and the time that had
already elapsed then. A reading is modular 64-bit arithmetic; the lemmas say when
it is the exact elapsed time and when two clocks read alike.
-/

/-- A clock over a 64-bit counter. -/
structure ElapsedClock where
  running : Bool
  origin : UInt64
  offset : UInt64
deriving DecidableEq

namespace ElapsedClock

/-- The elapsed time at counter value `now`; zero before the origin. -/
def reading (clock : ElapsedClock) (now : UInt64) : UInt64 :=
  if clock.running ∧ clock.origin ≤ now then clock.offset + now - clock.origin else 0

theorem reading_stopped {clock : ElapsedClock} (stopped : clock.running = false) (now : UInt64) :
    clock.reading now = 0 := by
  simp [reading, stopped]

theorem reading_running {clock : ElapsedClock} {now : UInt64} (running : clock.running = true)
    (started : clock.origin ≤ now) : clock.reading now = clock.offset + now - clock.origin :=
  if_pos ⟨running, started⟩

/-- At its origin a running clock reads its offset. -/
theorem reading_origin {clock : ElapsedClock} (running : clock.running = true) :
    clock.reading clock.origin = clock.offset := by
  rw [reading_running running (UInt64.le_refl _), UInt64.add_sub_cancel]

/-- Without 64-bit overflow the reading is the offset plus the counter's advance. -/
theorem toNat_reading {clock : ElapsedClock} {now : UInt64} (running : clock.running = true)
    (started : clock.origin ≤ now)
    (fits : clock.offset.toNat + (now.toNat - clock.origin.toNat) < 2 ^ 64) :
    (clock.reading now).toNat = clock.offset.toNat + (now.toNat - clock.origin.toNat) := by
  have originLe : clock.origin.toNat ≤ now.toNat := UInt64.le_iff_toNat_le.mp started
  have originLt := clock.origin.toNat_lt
  rw [reading_running running started, UInt64.toNat_sub, UInt64.toNat_add]
  omega

/-- Without 64-bit overflow no reading exceeds the offset and the counter together. -/
theorem toNat_reading_le (clock : ElapsedClock) {now : UInt64}
    (fits : clock.offset.toNat + now.toNat < 2 ^ 64) :
    (clock.reading now).toNat ≤ clock.offset.toNat + now.toNat := by
  by_cases runs : clock.running = true ∧ clock.origin ≤ now
  · rw [toNat_reading runs.1 runs.2 (by omega)]
    omega
  · rw [reading, if_neg runs]
    exact Nat.zero_le _

/-- Without 64-bit overflow a clock never runs backwards. -/
theorem reading_mono (clock : ElapsedClock) {earlier later : UInt64} (order : earlier ≤ later)
    (fits : clock.offset.toNat + later.toNat < 2 ^ 64) :
    clock.reading earlier ≤ clock.reading later := by
  have advances : earlier.toNat ≤ later.toNat := UInt64.le_iff_toNat_le.mp order
  by_cases runs : clock.running = true ∧ clock.origin ≤ earlier
  · rw [UInt64.le_iff_toNat_le, toNat_reading runs.1 runs.2 (by omega),
      toNat_reading runs.1 (UInt64.le_trans runs.2 order) (by omega)]
    omega
  · rw [reading, if_neg runs]
    exact UInt64.zero_le

/-- Two running clocks of one origin read alike at every time exactly when they
carry the same offset. -/
theorem reading_eq_iff_offset {left right : ElapsedClock} (leftRuns : left.running = true)
    (rightRuns : right.running = true) (origin : left.origin = right.origin) :
    (∀ now, left.reading now = right.reading now) ↔ left.offset = right.offset := by
  constructor
  · intro same
    have atOrigin := same left.origin
    rwa [reading_origin leftRuns, origin, reading_origin rightRuns] at atOrigin
  · intro offset now
    simp [reading, leftRuns, rightRuns, origin, offset]

end ElapsedClock
