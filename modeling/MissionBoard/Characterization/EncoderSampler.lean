import MissionBoard.Characterization.CommandJournal

/-!
Owns `EncoderSampler` of `characterization/encoder_sampler.cpp`: the task that reads the encoder when
the timer wakes it, and `begin` and `stop`, which another task calls.

A step is one access to what the two tasks and the timer's interrupt share: the flags, the notification
value of the task, the semaphore, the queue. What the encoder, the clock and the timer answer comes with
the step. `begin` and `stop` are called by one task, one after the other. The errors that they return and
the timing diagnostics are left out.
-/

namespace MissionBoard.Characterization

/-! ### A wake-up -/

/-- `periodUs` -/
def periodUs : EncoderRate → UInt64
  | .hz1000 => 1000
  | .hz2000 => 500
  | .hz5000 => 200

/-- `firstTriggerOffsetUs` -/
def firstTriggerOffsetUs (rate : EncoderRate) : UInt64 := if rate = .hz1000 then 500 else 0

/-- `AS5047D::ErrorFlags` -/
structure EncoderErrorFlags where
  parityError : Bool := false
  invalidCommand : Bool := false
  framingError : Bool := false

/-- `AS5047D::Status` -/
structure EncoderStatus where
  magneticTooLow : Bool := false
  magneticTooHigh : Bool := false
  cordicOverflow : Bool := false
  offsetCompensationFinished : Bool := false
  agc : UInt8 := 0
  magnitude : UInt16 := 0

namespace EncoderStatus

variable (status : EncoderStatus)

/-- `statusResponseAllZero` -/
def responseAllZero : Bool :=
  !status.magneticTooLow && !status.magneticTooHigh && !status.cordicOverflow &&
    !status.offsetCompensationFinished && status.agc == 0 && status.magnitude == 0

/-- `statusFaulted` -/
def faulted : Bool :=
  status.magneticTooLow || status.magneticTooHigh || status.cordicOverflow || status.responseAllZero

/-- `statusFlags` -/
def flags (errors : EncoderErrorFlags) : UInt16 :=
  let flag (condition : Bool) (value : UInt16) := if condition then value else 0
  flag errors.parityError 0x01 ||| flag errors.invalidCommand 0x02 |||
    flag errors.framingError 0x04 ||| flag status.magneticTooLow 0x08 |||
    flag status.magneticTooHigh 0x10 ||| flag status.cordicOverflow 0x20 |||
    flag status.offsetCompensationFinished 0x40

end EncoderStatus

/-- What the encoder and the clock answer while a sample is read -/
structure ReadOutcome where
  readResult : Int32
  hostTimestampUs : UInt64
  angleRaw : UInt16
  valid : Bool
  /-- `max(esp_timer_get_time(), 0)` after the read -/
  readUs : UInt64
  lastErrors : EncoderErrorFlags
  statusResult : Int32
  status : EncoderStatus

/-- What the task of the sampler keeps for itself -/
structure SamplerData where
  firstSampleUs : UInt64 := 0
  periodUs : UInt64 := 0
  nextScheduledUs : UInt64 := 0
  lastSampledSlot : UInt64 := 0
  haveSampledSlot : Bool := false
  generation : UInt64 := 0
  samplesPerEpoch : UInt8 := 0
  epochZeroUs : UInt64 := 0
  startupStatus : EncoderStatus := {}
  pipelineRunning : Bool := false
  firstError : Int32 := espOk
  statistics : SamplerStatistics := {}

/-- `ESP_ERR_INVALID_SIZE` -/
def espErrInvalidSize : Int32 := 0x104

/-- `ESP_ERR_NO_MEM` -/
def espErrNoMem : Int32 := 0x101

/-- `ESP_ERR_INVALID_CRC` -/
def espErrInvalidCrc : Int32 := 0x109

/-- What the task does after it has looked at the time -/
inductive WakeDecision where
  | early
  | sameSlot
  | invalidSize
  | due
deriving DecidableEq

namespace SamplerData

variable (data : SamplerData)

/-- `rememberFirst`, without the notification of another task -/
def rememberFirst (error : Int32) : SamplerData :=
  if error = espOk ∨ data.firstError ≠ espOk then data
  else
    { data with
      firstError := error
      statistics := { data.statistics with firstError := error } }

/-- `(now_us - first_sample_us_) / period_us_` -/
def idealSlot (nowUs : UInt64) : UInt64 := (nowUs - data.firstSampleUs) / data.periodUs

/-- `trigger_coalesced_or_missed += ...` -/
def countMissed (missed : UInt64) : SamplerData :=
  { data with
    statistics :=
      { data.statistics with
        triggerCoalescedOrMissed := data.statistics.triggerCoalescedOrMissed + missed } }

/-- `std::max(elapsed_missed, notification_missed)` -/
def missedBy (notifications : UInt32) (idealSlot : UInt64) : UInt64 :=
  let elapsedMissed :=
    if data.haveSampledSlot then idealSlot - data.lastSampledSlot - 1 else idealSlot
  let notificationMissed : UInt64 := if notifications > 1 then notifications.toUInt64 - 1 else 0
  max elapsedMissed notificationMissed

/-- The part of the loop between the two looks at `running_` -/
def wake (notifications : UInt32) (nowUs : UInt64) : WakeDecision × SamplerData :=
  let idealSlot := data.idealSlot nowUs
  let missed := data.missedBy notifications idealSlot
  if nowUs < data.firstSampleUs then (.early, data)
  else if data.haveSampledSlot ∧ idealSlot ≤ data.lastSampledSlot then
    (.sameSlot, data.countMissed notifications.toUInt64)
  else
    let marked :=
      { data.countMissed missed with
        lastSampledSlot := idealSlot
        haveSampledSlot := true }
    if idealSlot > (0xFFFFFFFFFFFFFFFF - data.firstSampleUs) / data.periodUs then
      (.invalidSize, marked.rememberFirst espErrInvalidSize)
    else
      (.due, { marked with nextScheduledUs := data.firstSampleUs + idealSlot * data.periodUs })

/-- `++statistics_.encoder_transport_errors` -/
def countTransportError : SamplerData :=
  { data with
    statistics :=
      { data.statistics with
        encoderTransportErrors := data.statistics.encoderTransportErrors + 1 } }

/-- `++statistics_.encoder_status_faults` -/
def countStatusFault : SamplerData :=
  { data with
    statistics :=
      { data.statistics with encoderStatusFaults := data.statistics.encoderStatusFaults + 1 } }

/-- `++statistics_.invalid_samples` -/
def countInvalid : SamplerData :=
  { data with
    statistics := { data.statistics with invalidSamples := data.statistics.invalidSamples + 1 } }

/-- `++statistics_.raw_queue_overflows` -/
def countOverflow : SamplerData :=
  { data with
    statistics :=
      { data.statistics with rawQueueOverflows := data.statistics.rawQueueOverflows + 1 } }

/-- What a failed read does to the statistics and the errors -/
def readFailed (outcome : ReadOutcome) : SamplerData :=
  let stopped :=
    { data with pipelineRunning := false }.countTransportError.rememberFirst outcome.readResult
  let asked :=
    if outcome.statusResult ≠ espOk then
      stopped.countTransportError.rememberFirst outcome.statusResult
    else stopped
  if outcome.status.faulted then asked.countStatusFault.rememberFirst espErrInvalidState else asked

/-- The sample that is read -/
def sampleOf (outcome : ReadOutcome) : RawEncoderSample :=
  let failed := outcome.readResult ≠ espOk
  let errors : EncoderErrorFlags :=
    if failed then
      { outcome.lastErrors with
        parityError :=
          outcome.lastErrors.parityError || outcome.readResult == espErrInvalidCrc }
    else {}
  let status : EncoderStatus :=
    if failed then outcome.status
    else { offsetCompensationFinished := data.startupStatus.offsetCompensationFinished }
  { generation := data.generation + 1
    scheduledTimestampUs := data.nextScheduledUs
    captureTimestampUs :=
      if outcome.hostTimestampUs ≠ 0 then outcome.hostTimestampUs else outcome.readUs
    angleRaw := outcome.angleRaw
    diagnosticFlags := status.flags errors
    readResultCode := outcome.readResult
    valid := outcome.readResult == espOk && outcome.valid }

/-- The rest of the data after a read -/
def afterRead (outcome : ReadOutcome) : SamplerData :=
  let numbered := { data with generation := data.generation + 1 }
  let checked := if outcome.readResult ≠ espOk then numbered.readFailed outcome else numbered
  if (data.sampleOf outcome).valid then checked else checked.countInvalid

/-- A full queue -/
def overflowed : SamplerData := data.countOverflow.rememberFirst espErrNoMem

end SamplerData

/-- What `begin` resets, when it takes the arguments: only 1 kHz is acquired, and the first sample is a
time. -/
def beginData (rate : EncoderRate) (epochZeroUs : UInt64) : Option SamplerData :=
  let offset := firstTriggerOffsetUs rate
  let period := periodUs rate
  if rate ≠ .hz1000 then none
  else if offset = 0 ∨ offset ≥ period ∨ epochZeroUs > 0xFFFFFFFFFFFFFFFF - offset then none
  else
    some
      { firstSampleUs := epochZeroUs + offset
        periodUs := period
        nextScheduledUs := epochZeroUs + offset - period
        samplesPerEpoch := expectedSamplesPerEpoch rate
        epochZeroUs }

/-! ### The tasks -/

/-- Where the task of the sampler stands, before its next access to what is shared -/
inductive SamplerPoint where
  | taking
  | checking (notifications : UInt32)
  | deciding (notifications : UInt32)
  | refusing
  | rechecking
  | reading
  | failing (sample : RawEncoderSample)
  | pushing (sample : RawEncoderSample)
  | overflowing
  | finishing
  | exchanging
  | draining
  | giving
deriving DecidableEq

/-- Where the task that calls `begin` and `stop` stands: outside, in one of the steps of `begin`, or in
one of `stop` -/
inductive SamplerControl where
  | idle
  | opening
  | creatingTask
  | creatingAck
  | clearing
  | initializingTimer
  | starting
  | startingTimer
  | notStarted
  | stopping
  | stoppingTimer
  | drainingAck
  | requesting
  | notifying
  | awaiting
  | closing
deriving DecidableEq

/-- `EncoderSampler`. `notified` is the notification value of its task, `interrupting` says that the
interrupt has found the sampler running and has not notified the task yet. -/
structure EncoderSampler where
  running : Bool := false
  stopWaiting : Bool := false
  stopAck : Bool := false
  notified : ℕ := 0
  taskCreated : Bool := false
  ackCreated : Bool := false
  queue : List RawEncoderSample := []
  data : SamplerData := {}
  point : SamplerPoint := .taking
  control : SamplerControl := .idle
  interrupting : Bool := false

/-- What a step of the sampler's task finds -/
structure TaskInput where
  /-- `max(esp_timer_get_time(), 0)` -/
  nowUs : UInt64
  outcome : ReadOutcome

inductive SamplerStep where
  | begins (rate : EncoderRate) (epochZeroUs : UInt64)
  | stops
  | control (ok : Bool)
  | task (input : TaskInput)
  | alarm
  | notify
  | pop

/-- The queue holds one sample less than it has places. -/
def kQueueSamples : ℕ := 127

namespace EncoderSampler

variable (sampler : EncoderSampler)

/-- The task's next step: `taskLoop` and `acknowledgeStop` -/
def taskStep (input : TaskInput) : EncoderSampler :=
  match sampler.point with
  | .taking =>
      if sampler.notified = 0 then sampler
      else { sampler with notified := 0, point := .checking (UInt32.ofNat sampler.notified) }
  | .checking notifications =>
      if !sampler.running ∨ notifications = 0 then { sampler with point := .exchanging }
      else { sampler with point := .deciding notifications }
  | .deciding notifications =>
      let woken := sampler.data.wake notifications input.nowUs
      { sampler with
        data := woken.2
        point :=
          match woken.1 with
          | .due => .rechecking
          | .invalidSize => .refusing
          | .early | .sameSlot => .taking }
  | .refusing => { sampler with running := false, point := .taking }
  | .rechecking => { sampler with point := if sampler.running then .reading else .exchanging }
  | .reading =>
      let sample := sampler.data.sampleOf input.outcome
      { sampler with
        data := sampler.data.afterRead input.outcome
        point :=
          if input.outcome.readResult ≠ espOk then .failing sample else .pushing sample }
  | .failing sample => { sampler with running := false, point := .pushing sample }
  | .pushing sample =>
      if sampler.queue.length < kQueueSamples then
        { sampler with queue := sampler.queue ++ [sample], point := .finishing }
      else { sampler with data := sampler.data.overflowed, point := .overflowing }
  | .overflowing => { sampler with running := false, point := .finishing }
  | .finishing => { sampler with point := if sampler.running then .taking else .exchanging }
  | .exchanging =>
      if sampler.stopWaiting then { sampler with stopWaiting := false, point := .draining }
      else { sampler with point := .taking }
  | .draining =>
      if sampler.notified = 0 then { sampler with point := .giving }
      else { sampler with notified := 0 }
  | .giving => { sampler with stopAck := true, point := .taking }

/-- The next step of `begin` or of `stop`; `ok` is what the devices, the timer and the creation of the task
and the semaphore answer. -/
def controlStep (ok : Bool) : EncoderSampler :=
  match sampler.control with
  | .idle => sampler
  | .opening =>
      if ok then
        { sampler with
          data := { sampler.data with pipelineRunning := true }
          control := .creatingTask }
      else { sampler with control := .idle }
  | .creatingTask =>
      if sampler.taskCreated then { sampler with control := .creatingAck }
      else if ok then { sampler with taskCreated := true, control := .creatingAck }
      else { sampler with control := .stopping }
  | .creatingAck =>
      if sampler.ackCreated then { sampler with control := .clearing }
      else if ok then { sampler with ackCreated := true, control := .clearing }
      else { sampler with control := .stopping }
  | .clearing => { sampler with notified := 0, control := .initializingTimer }
  | .initializingTimer => { sampler with control := if ok then .starting else .stopping }
  | .starting => { sampler with running := true, control := .startingTimer }
  | .startingTimer => { sampler with control := if ok then .idle else .notStarted }
  | .notStarted => { sampler with running := false, control := .stopping }
  | .stopping => { sampler with running := false, control := .stoppingTimer }
  | .stoppingTimer =>
      { sampler with
        control := if sampler.taskCreated && sampler.ackCreated then .drainingAck else .closing }
  | .drainingAck =>
      if sampler.stopAck then { sampler with stopAck := false }
      else { sampler with control := .requesting }
  | .requesting => { sampler with stopWaiting := true, control := .notifying }
  | .notifying => { sampler with notified := sampler.notified + 1, control := .awaiting }
  | .awaiting =>
      if sampler.stopAck then { sampler with stopAck := false, control := .closing } else sampler
  | .closing =>
      { sampler with
        data := { sampler.data with pipelineRunning := false }
        control := .idle }

/-- `begin`, up to its first call of a device -/
def begins (rate : EncoderRate) (epochZeroUs : UInt64) : EncoderSampler :=
  if sampler.running then sampler
  else
    match beginData rate epochZeroUs with
    | none => sampler
    | some data => { sampler with data, queue := [], control := .opening }

/-- One step of one of the tasks, or of the timer's interrupt -/
def step (sampler : EncoderSampler) : SamplerStep → EncoderSampler
  | .begins rate epochZeroUs =>
      if sampler.control = .idle then sampler.begins rate epochZeroUs else sampler
  | .stops => if sampler.control = .idle then { sampler with control := .stopping } else sampler
  | .control ok => sampler.controlStep ok
  | .task input => if sampler.taskCreated then sampler.taskStep input else sampler
  | .alarm =>
      if sampler.running ∧ sampler.taskCreated then { sampler with interrupting := true }
      else sampler
  | .notify =>
      if sampler.interrupting then
        { sampler with interrupting := false, notified := sampler.notified + 1 }
      else sampler
  | .pop => { sampler with queue := sampler.queue.tail }

end EncoderSampler

end MissionBoard.Characterization
