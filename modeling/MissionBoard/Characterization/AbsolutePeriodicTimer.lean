import MissionBoard.Characterization.ProfileRunner

/-!
Owns `AbsolutePeriodicTimer`: how `start` sets the counter of the GPTimer to the clock, when the alarms of a
started timer come, and what the callback is told of the time since its alarm.

The counter counts microseconds and is reloaded by its alarm. What the calls of the driver answer and when they
take effect are inputs.
-/

namespace MissionBoard.Characterization

/-- `ESP_FAIL` -/
def espFail : Int32 := -1

/-! ### The counter to the clock -/

/-- What an attempt of `synchronizeToEspTimer` reads and is answered -/
structure SyncAttempt where
  setTime : ℤ
  setResult : Int32 := espOk
  before : ℤ
  rawCount : ℕ
  readResult : Int32 := espOk
  after : ℤ

namespace SyncAttempt

/-- `kMaximumSyncBracketUs` -/
def kMaximumSyncBracketUs : ℤ := 50

/-- `kMaximumClockOffsetUs` -/
def kMaximumClockOffsetUs : ℤ := 25

/-- `kMaximumAttempts` -/
def kMaximumAttempts : ℕ := 8

variable (attempt : SyncAttempt)

/-- What the attempt returns, when it is not made again -/
def judge : Option Int32 :=
  if attempt.setTime < 0 then some espFail
  else if attempt.setResult ≠ espOk then some attempt.setResult
  else if attempt.before < 0 then some espFail
  else if attempt.readResult ≠ espOk then some attempt.readResult
  else if attempt.after < attempt.before then none
  else
    let bracket := attempt.after - attempt.before
    if kMaximumSyncBracketUs < bracket then none
    else
      let midpoint := attempt.before + bracket / 2
      let offset :=
        if attempt.rawCount ≤ midpoint then midpoint - attempt.rawCount
        else attempt.rawCount - midpoint
      if offset ≤ kMaximumClockOffsetUs then some espOk else none

/-- `synchronizeToEspTimer` from an attempt on, with how many are made when it returns -/
def synchronizeFrom (attempts : ℕ → SyncAttempt) (made : ℕ) : ℕ → Int32 × ℕ
  | 0 => (espErrTimeout, made)
  | left + 1 =>
      match (attempts made).judge with
      | some result => (result, made + 1)
      | none => synchronizeFrom attempts (made + 1) left

/-- `synchronizeToEspTimer` -/
def synchronizeToEspTimer (attempts : ℕ → SyncAttempt) : Int32 × ℕ :=
  synchronizeFrom attempts 0 kMaximumAttempts

/-- The counter is set and read at these times, and counts the microseconds between them. -/
structure Counts (setAt readAt : ℤ) : Prop where
  called : attempt.setTime ≤ setAt
  set : setAt ≤ attempt.before
  asked : attempt.before ≤ readAt
  read : readAt ≤ attempt.after
  raw : attempt.rawCount = attempt.setTime + (readAt - setAt)

variable {attempt}

/-- An attempt that is taken leaves the counter behind the clock by no more than the offset and half the
bracket. -/
theorem lag_of_judge {setAt readAt : ℤ} (counts : attempt.Counts setAt readAt)
    (taken : attempt.judge = some espOk) :
    0 ≤ attempt.setTime ∧ setAt - attempt.setTime ≤ 50 := by
  obtain ⟨called, set, asked, read, raw⟩ := counts
  unfold judge kMaximumSyncBracketUs kMaximumClockOffsetUs at taken
  split_ifs at taken with past refused early unread backward
  · exact absurd (Option.some.inj taken) (by decide)
  · exact absurd (Option.some.inj taken) refused
  · exact absurd (Option.some.inj taken) (by decide)
  · exact absurd (Option.some.inj taken) unread
  · dsimp only at taken
    split_ifs at taken with wide behind near near
    -- the reading lies in the bracket, and the counter never before the clock
    · constructor <;> omega
    · constructor <;> omega

/-- The bound is reached, at twice the offset that is asked for. -/
theorem lag_reached : ∃ (attempt : SyncAttempt) (setAt readAt : ℤ), attempt.Counts setAt readAt ∧
    attempt.judge = some espOk ∧ setAt - attempt.setTime = 50 := by
  refine ⟨{ setTime := 100, before := 150, rawCount := 150, after := 200 }, 150, 200, ?_, ?_, ?_⟩
  · constructor <;> decide
  · decide
  · decide

/-- The last attempt is the one that was taken. -/
theorem taken_of_synchronizeFrom {attempts : ℕ → SyncAttempt} {made left : ℕ}
    (ok : (synchronizeFrom attempts made left).1 = espOk) :
    ∃ last, (synchronizeFrom attempts made left).2 = last + 1 ∧
      (attempts last).judge = some espOk := by
  induction left generalizing made with
  | zero => exact absurd ok (by decide : espErrTimeout ≠ espOk)
  | succ left inductionHypothesis =>
      unfold synchronizeFrom at ok ⊢
      cases judged : (attempts made).judge with
      | some result =>
          rw [judged] at ok
          have same : result = espOk := ok
          exact ⟨made, rfl, same ▸ judged⟩
      | none =>
          rw [judged] at ok
          exact inductionHypothesis ok

end SyncAttempt

/-! ### The alarms -/

/-- The counter of the GPTimer, with its alarm and what the alarm reloads -/
structure AlarmCounter where
  count : ℕ
  alarmCount : ℕ
  reloadCount : ℕ

namespace AlarmCounter

/-- The next microsecond brings the alarm. -/
def Fires (counter : AlarmCounter) : Prop := counter.count + 1 = counter.alarmCount

instance (counter : AlarmCounter) : Decidable counter.Fires :=
  inferInstanceAs (Decidable (_ = _))

/-- A microsecond -/
def tick (counter : AlarmCounter) : AlarmCounter :=
  { counter with count := if counter.Fires then counter.reloadCount else counter.count + 1 }

/-- The counter after so many microseconds -/
def ticked (counter : AlarmCounter) : ℕ → AlarmCounter
  | 0 => counter
  | elapsed + 1 => (counter.ticked elapsed).tick

/-- The counter, against what it would be without its reloads -/
structure Reloaded (start : AlarmCounter) (period elapsed reloads : ℕ) (counter : AlarmCounter) : Prop where
  alarm : counter.alarmCount = start.alarmCount
  reload : counter.reloadCount = start.reloadCount
  below : counter.count < start.alarmCount
  counted : counter.count + reloads * period = start.count + elapsed
  reloaded : reloads = 0 ∨ start.reloadCount ≤ counter.count

variable {start : AlarmCounter} {period : ℕ}

theorem reloaded_ticked (positive : 0 < period)
    (reload : start.reloadCount + period = start.alarmCount) (ahead : start.count < start.alarmCount)
    (elapsed : ℕ) : ∃ reloads, Reloaded start period elapsed reloads (start.ticked elapsed) := by
  induction elapsed with
  | zero => exact ⟨0, rfl, rfl, ahead, by rw [Nat.zero_mul]; rfl, Or.inl rfl⟩
  | succ elapsed inductionHypothesis =>
      obtain ⟨reloads, alarm, same, below, counted, reloaded⟩ := inductionHypothesis
      unfold ticked tick
      by_cases fires : (start.ticked elapsed).Fires
      · rw [if_pos fires]
        unfold Fires at fires
        refine ⟨reloads + 1, alarm, same, ?_, ?_, Or.inr same.ge⟩
        · show (start.ticked elapsed).reloadCount < start.alarmCount
          omega
        · show (start.ticked elapsed).reloadCount + (reloads + 1) * period = _
          rw [Nat.succ_mul]
          omega
      · rw [if_neg fires]
        unfold Fires at fires
        refine ⟨reloads, alarm, same, ?_, ?_, ?_⟩
        · show (start.ticked elapsed).count + 1 < start.alarmCount
          omega
        · show (start.ticked elapsed).count + 1 + reloads * period = _
          omega
        · exact reloaded.imp_right fun past => past.trans (Nat.le_succ _)

/-- The alarms come one period after the other, from the time on at which the counter reaches the first. -/
theorem fires_ticked (positive : 0 < period)
    (reload : start.reloadCount + period = start.alarmCount) (ahead : start.count < start.alarmCount)
    (elapsed : ℕ) : (start.ticked elapsed).Fires ↔
      ∃ alarms, start.count + elapsed + 1 = start.alarmCount + alarms * period := by
  obtain ⟨reloads, alarm, -, below, counted, reloaded⟩ := reloaded_ticked positive reload ahead elapsed
  unfold Fires
  rw [alarm]
  constructor
  · intro fires
    exact ⟨reloads, by omega⟩
  · rintro ⟨alarms, reached⟩
    rcases Nat.lt_trichotomy alarms reloads with fewer | same | more
    · -- the counter has been reloaded since that alarm
      have periods : (alarms + 1) * period ≤ reloads * period := Nat.mul_le_mul_right _ fewer
      rw [Nat.succ_mul] at periods
      rcases reloaded with none | past
      · omega
      · omega
    · subst same
      omega
    · have periods : (reloads + 1) * period ≤ alarms * period := Nat.mul_le_mul_right _ more
      rw [Nat.succ_mul] at periods
      omega

/-- Until the next alarm the counter tells the time since the last one. -/
theorem count_after_alarm (reload : start.reloadCount + period = start.alarmCount)
    {elapsed : ℕ} (fires : (start.ticked elapsed).Fires)
    (alarm : (start.ticked elapsed).alarmCount = start.alarmCount)
    (same : (start.ticked elapsed).reloadCount = start.reloadCount) {late : ℕ} (soon : late < period) :
    (start.ticked (elapsed + 1 + late)).count = start.reloadCount + late ∧
      (start.ticked (elapsed + 1 + late)).alarmCount = start.alarmCount := by
  induction late with
  | zero =>
      show (start.ticked elapsed).tick.count = _ ∧ (start.ticked elapsed).tick.alarmCount = _
      unfold tick
      rw [if_pos fires]
      exact ⟨same, alarm⟩
  | succ late inductionHypothesis =>
      obtain ⟨count, kept⟩ := inductionHypothesis (Nat.lt_of_succ_lt soon)
      show (start.ticked (elapsed + 1 + late)).tick.count = _ ∧
        (start.ticked (elapsed + 1 + late)).tick.alarmCount = _
      have waits : ¬(start.ticked (elapsed + 1 + late)).Fires := by
        unfold Fires
        omega
      unfold tick
      rw [if_neg waits]
      exact ⟨congrArg (· + 1) count, kept⟩

end AlarmCounter

/-! ### The timer -/

/-- What `start` is given, reads and is answered -/
structure TimerStart where
  firstAlarmUs : ℕ
  periodUs : ℕ
  current : ℤ
  alarmResult : Int32 := espOk
  startResult : Int32 := espOk
  attempts : ℕ → SyncAttempt
  synchronizedNow : ℤ
  stopResult : Int32 := espOk

/-- What the synchronization comes to, and the clock read after it -/
def TimerStart.synchronized (input : TimerStart) : Int32 :=
  let result := (SyncAttempt.synchronizeToEspTimer input.attempts).1
  if result ≠ espOk then result
  else if input.synchronizedNow < 0 ∨ input.firstAlarmUs ≤ input.synchronizedNow then espErrTimeout
  else espOk

/-- `AbsolutePeriodicTimer`, with what the GPTimer has been told -/
structure AbsolutePeriodicTimer where
  /-- `timer_` is there. -/
  initialized : Bool := false
  enabled : Bool := false
  running : Bool := false
  periodUs : ℕ := 0
  /-- `alarm_count` and `reload_count` -/
  alarm : Option (ℕ × ℕ) := none
  counting : Bool := false
deriving DecidableEq

namespace AbsolutePeriodicTimer

/-- `start` -/
def start (timer : AbsolutePeriodicTimer) (input : TimerStart) : Int32 × AbsolutePeriodicTimer :=
  if !timer.initialized || !timer.enabled || timer.running then (espErrInvalidState, timer)
  else if input.periodUs = 0 ∨ input.firstAlarmUs ≤ input.periodUs then (espErrInvalidArg, timer)
  else if input.current < 0 ∨ input.firstAlarmUs ≤ input.current then (espErrInvalidArg, timer)
  else if input.alarmResult ≠ espOk then (input.alarmResult, timer)
  else
    let armed :=
      { timer with alarm := some (input.firstAlarmUs, input.firstAlarmUs - input.periodUs) }
    if input.startResult ≠ espOk then (input.startResult, { armed with periodUs := 0 })
    else
      let started := { armed with periodUs := input.periodUs, running := true, counting := true }
      if input.synchronized ≠ espOk then
        (if input.stopResult = espOk then input.synchronized else input.stopResult,
          { started with running := false, periodUs := 0, counting := input.stopResult ≠ espOk })
      else (espOk, started)

/-- `initialize` -/
def initializeTimer (timer : AbsolutePeriodicTimer) (callbackGiven callbackKnown : Bool)
    (newResult registerResult enableResult : Int32) : Int32 × AbsolutePeriodicTimer :=
  if ¬callbackGiven then (espErrInvalidArg, timer)
  else if timer.initialized then (if callbackKnown then espOk else espErrInvalidState, timer)
  else if newResult ≠ espOk then (newResult, timer)
  else if registerResult ≠ espOk then (registerResult, timer)
  else if enableResult ≠ espOk then (enableResult, timer)
  else (espOk, { timer with initialized := true, enabled := true })

/-- `stop` -/
def stop (timer : AbsolutePeriodicTimer) (stopResult alarmResult : Int32) :
    Int32 × AbsolutePeriodicTimer :=
  if !timer.initialized || !timer.enabled then (espOk, timer)
  else
    let result := if timer.running then stopResult else espOk
    let stopped :=
      { timer with
        running := false
        periodUs := 0
        counting := timer.counting && !(timer.running && stopResult = espOk)
        alarm := if alarmResult = espOk then none else timer.alarm }
    (if result = espOk then alarmResult else result, stopped)

/-- A call, with what the driver answers -/
inductive TimerCall where
  | initializeTimer (callbackGiven callbackKnown : Bool) (newResult registerResult enableResult : Int32)
  | start (input : TimerStart)
  | stop (stopResult alarmResult : Int32)

def step (timer : AbsolutePeriodicTimer) : TimerCall → AbsolutePeriodicTimer
  | .initializeTimer given known newResult registerResult enableResult =>
      (timer.initializeTimer given known newResult registerResult enableResult).2
  | .start input => (timer.start input).2
  | .stop stopResult alarmResult => (timer.stop stopResult alarmResult).2

/-- `gptimer_stop` does not fail. -/
def Stops (_ : AbsolutePeriodicTimer) : TimerCall → Prop
  | .initializeTimer .. => True
  | .start input => input.stopResult = espOk
  | .stop stopResult _ => stopResult = espOk

theorem counting_step {timer : AbsolutePeriodicTimer} (same : timer.counting = timer.running)
    {call : TimerCall} (stops : timer.Stops call) :
    (timer.step call).counting = (timer.step call).running := by
  cases call with
  | initializeTimer given known newResult registerResult enableResult =>
      unfold step initializeTimer
      dsimp only
      split_ifs <;> exact same
  | start input =>
      unfold step start
      dsimp only
      split_ifs with unready wrong past refused unstarted failed stopped
      · exact same
      · exact same
      · exact same
      · exact same
      · exact same
      · simp [stopped]
      · exact absurd stops stopped
      · rfl
  | stop stopResult alarmResult =>
      have ok : stopResult = espOk := stops
      show (timer.stop stopResult alarmResult).2.counting =
        (timer.stop stopResult alarmResult).2.running
      unfold stop
      by_cases unready : (!timer.initialized || !timer.enabled) = true
      · rw [if_pos unready]
        exact same
      · rw [if_neg unready]
        show (timer.counting && !(timer.running && decide (stopResult = espOk))) = false
        rw [same, ok]
        cases timer.running <;> rfl

/-- The GPTimer counts exactly while the timer says that it runs, as long as it can be stopped. -/
theorem counts_while_running {calls : List TimerCall} (stops : Run.Along step Stops {} calls) :
    (Run.after step {} calls).counting = (Run.after step {} calls).running :=
  @Run.invariant_after _ _ step Stops (fun timer => timer.counting = timer.running)
    (fun _ _ same stops => counting_step same stops) {} rfl calls stops

/-- `count_value` as `alarmCallback` hands it on -/
def alarmCallback (periodUs alarmValue countValue : ℕ) : ℕ :=
  if periodUs = 0 ∨ alarmValue < periodUs then countValue
  else
    let reloadValue := alarmValue - periodUs
    let latenessUs :=
      if alarmValue ≤ countValue then countValue - alarmValue
      else if reloadValue ≤ countValue then countValue - reloadValue
      else 0
    if 2 ^ 64 - 1 - alarmValue < latenessUs then 2 ^ 64 - 1 else alarmValue + latenessUs

/-- Whether the count is captured before or after the reload, the callback is told the time since the alarm. -/
theorem alarmCallback_late {periodUs alarmValue late : ℕ} (positive : 0 < periodUs)
    (longer : periodUs < alarmValue) (soon : late < periodUs) (fits : alarmValue + late < 2 ^ 64) :
    alarmCallback periodUs alarmValue (alarmValue + late) = alarmValue + late ∧
      alarmCallback periodUs alarmValue (alarmValue - periodUs + late) = alarmValue + late := by
  unfold alarmCallback
  dsimp only
  constructor
  · split_ifs <;> omega
  · split_ifs <;> omega

theorem start_ok {timer : AbsolutePeriodicTimer} {input : TimerStart}
    (ok : (timer.start input).1 = espOk) :
    0 < input.periodUs ∧ input.periodUs < input.firstAlarmUs ∧
      (SyncAttempt.synchronizeToEspTimer input.attempts).1 = espOk ∧
      input.synchronizedNow < input.firstAlarmUs := by
  have done : input.synchronized = espOk ∧ 0 < input.periodUs ∧
      input.periodUs < input.firstAlarmUs := by
    unfold start at ok
    dsimp only at ok
    split_ifs at ok with unready wrong past refused unstarted failed stopped
    · exact absurd ok (by decide : espErrInvalidState ≠ espOk)
    · exact absurd ok (by decide : espErrInvalidArg ≠ espOk)
    · exact absurd ok (by decide : espErrInvalidArg ≠ espOk)
    · exact absurd ok refused
    · exact absurd ok unstarted
    · exact absurd ok failed
    · exact absurd ok stopped
    · refine ⟨not_not.mp failed, ?_⟩
      omega
  obtain ⟨synchronized, positive, longer⟩ := done
  unfold TimerStart.synchronized at synchronized
  dsimp only at synchronized
  split_ifs at synchronized with unsynchronized missed
  · exact absurd synchronized unsynchronized
  · exact absurd synchronized (by decide : espErrTimeout ≠ espOk)
  · exact ⟨positive, longer, not_not.mp unsynchronized, by omega⟩

end AbsolutePeriodicTimer

/-! ### A started timer -/

namespace TimerStart

/-- The attempt that is taken has set and read the counter at these times, and the clock goes on. -/
structure Clocked (input : TimerStart) (setAt readAt : ℕ → ℤ) : Prop where
  counts : ∀ attempt, (input.attempts attempt).judge = some espOk →
    (input.attempts attempt).Counts (setAt attempt) (readAt attempt)
  later : ∀ attempt, (input.attempts attempt).judge = some espOk →
    (input.attempts attempt).after ≤ input.synchronizedNow

/-- The counter as an attempt sets it -/
def counter (input : TimerStart) (attempt : ℕ) : AlarmCounter where
  count := (input.attempts attempt).setTime.toNat
  alarmCount := input.firstAlarmUs
  reloadCount := input.firstAlarmUs - input.periodUs

/-- An attempt that is taken -/
def promptAttempt : SyncAttempt := { setTime := 100, before := 110, rawCount := 110, after := 120 }

/-- A start at the first attempt, with alarms every 200 microseconds -/
def promptStart : TimerStart where
  firstAlarmUs := 1000
  periodUs := 200
  current := 90
  attempts _ := promptAttempt
  synchronizedNow := 130

end TimerStart

end MissionBoard.Characterization
