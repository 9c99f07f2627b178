import MissionBoard.Characterization.EncoderSampler
import MissionBoard.Characterization.FixedEpochAssembler
import MissionBoard.Characterization.PositionGuard
import MissionBoard.Characterization.ProfilePlan
import MissionBoard.Characterization.ZeroApproach

/-!
Owns `ProfileRunner::run` of `characterization/profile_runner.cpp`: the start of a run, the loop over
the epochs, stage by stage, and the shutdown with its footer.

What the components around the runner answer is a world: at each moment the clock, the flags, and what
a call made then returns. Every read and every call has a moment of its own, in their order. The file
name, which never reaches the size of its buffer, the counters that are only printed and the calls of
the campaign are left out. On the target `validateRecord` finds no error: the writer checks a record
before it encodes it.
-/

namespace MissionBoard.Characterization

/-- `ESP_ERR_NOT_SUPPORTED` -/
def espErrNotSupported : Int32 := 0x106

/-- `ESP_ERR_TIMEOUT` -/
def espErrTimeout : Int32 := 0x107

/-- `ESP_ERR_INVALID_RESPONSE` -/
def espErrInvalidResponse : Int32 := 0x108

/-- `kRunStartLeadUs` -/
def kRunStartLeadUs : UInt64 := 1500000

/-- `kMinimumPostHeaderLeadUs` -/
def kMinimumPostHeaderLeadUs : UInt64 := 100000

/-- `kPredictedStoppingRateDivisor` -/
def kPredictedStoppingRateDivisor : Int32 := 50

/-! ### The world -/

/-- `ConsumerTick` -/
structure ConsumerTick where
  epochIndex : UInt32 := 0
  alarmLatenessUs : UInt32 := 0

/-- What there is to observe at a moment -/
structure Moment where
  /-- `esp_timer_get_time()` -/
  espTimerUs : Int64
  /-- What a call of the motor, the timer, the sampler or the writer returns -/
  result : Int32
  /-- `writer_.firstError()` -/
  writerFirstError : Int32
  /-- `sampler_.firstError()` -/
  samplerFirstError : Int32
  /-- `stop_requested_` -/
  stopRequested : Bool
  /-- `consumer_tick_queue_overflow_` -/
  tickQueueOverflow : Bool
  /-- What `xQueueReceive` takes from the tick queue -/
  tick : Option ConsumerTick
  /-- `uxQueueMessagesWaiting` of that queue -/
  ticksWaiting : UInt32
  /-- What `sampler_.pop` yields -/
  sample : Option RawEncoderSample
  /-- `sampler_.statistics()` -/
  samplerStatistics : SamplerStatistics
  /-- `writer_.writerQueueOverflows()` -/
  writerQueueOverflows : UInt64

/-- `nowUs` -/
def Moment.nowUs (moment : Moment) : UInt64 := (max moment.espTimerUs 0).toUInt64

abbrev World := ℕ → Moment

/-- The arguments of `run`, what it reads of the campaign and of the runner before the loop, and the
polarity of the build -/
structure RunSetup where
  encoderRate : EncoderRate
  runKind : RunKind
  epochs : UInt32
  stage : AssemblyStage
  profileSeed : UInt32
  /-- The zero reference of the stage, when it is valid -/
  zeroRaw : Option UInt16
  commandToFinSign : ℤ

namespace RunSetup

variable (setup : RunSetup)

def full : Bool := setup.runKind == .full

/-- `guard` -/
def guard : PositionGuardConfig := { commandToFinSign := setup.commandToFinSign }

/-- `resolveEpisode` -/
def episodeOf (epochIndex : UInt32) : ProfileEpisode × UInt32 :=
  resolveEpisode setup.runKind setup.epochs epochIndex

end RunSetup

/-- `EpochCommandState`; its times are only printed. -/
structure EpochCommandState where
  evidence : CommandEvidence := {}
  guardState : GuardState := .allow

/-- The members of the runner, the variables of `run`, and the records whose `enqueue` returned
`ESP_OK`. `moment` is that of the next read or call. -/
structure RunState where
  moment : ℕ := 0
  journal : CommandJournal
  firstError : Int32 := espOk
  lastAbortReason : AbortReason := .none
  pseudoRandomState : UInt32 := 1
  epochZeroUs : UInt64 := 0
  zeroRaw : UInt16 := 0
  assembler : FixedEpochAssembler := {}
  positive : ZeroApproachController :=
    { plan := .configured .fromPositive 20 100 50 50, timeoutUs := 18000000 }
  negative : ZeroApproachController :=
    { plan := .configured .fromNegative 20 100 50 50, timeoutUs := 18000000 }
  positiveStarted : Bool := false
  negativeStarted : Bool := false
  haveAngle : Bool := false
  finAngle : Int32 := 0
  finRate : Int32 := 0
  sequence : UInt64 := 0
  qualificationValid : UInt32 := 0
  qualificationTotal : UInt32 := 0
  qualificationStop : Bool := false
  runtimeDeadlineMisses : UInt64 := 0
  currentCommandState : EpochCommandState := {}
  records : List LogRecord := []

/-- The variables of an iteration that the later stages use -/
structure EpochWork where
  epoch : UInt32
  episode : ProfileEpisode
  localEpoch : UInt32
  targetFinAngle : ℤ
  epochCommand : CommandEvidence
  guardState : GuardState

/-- What is known of the release of an epoch -/
structure EpochRelease where
  releaseUs : UInt64
  deadlineMissed : Bool

/-- Where `run` stands -/
inductive RunnerAt where
  /-- It is called. -/
  | called
  /-- The consumer timer is started, and epoch zero has not begun. -/
  | starting
  /-- At the head of the loop -/
  | entering (epoch : UInt32)
  /-- In the loop that waits for the tick of the epoch -/
  | waiting (work : EpochWork)
  /-- In the loop that takes the samples of the epoch -/
  | draining (work : EpochWork) (release : EpochRelease)
  /-- After the loop -/
  | closing
  /-- It has returned, with the footer of the file that it closed. -/
  | returned (result : Int32) (footer : Option LogFooter)

/-- A run: where it stands and its state -/
structure Runner where
  stage : RunnerAt := .called
  run : RunState

namespace RunState

variable (world : World) (setup : RunSetup) (run : RunState)

/-! ### Reads and calls -/

/-- `nowUs()` -/
def now : UInt64 := (world run.moment).nowUs

/-- So many reads and calls later -/
def later (count : ℕ) : RunState := { run with moment := run.moment + count }

def withAssembler (assembler : FixedEpochAssembler) : RunState := { run with assembler }

/-- What the callback of the journal answers, `motorApply` with the motor behind it -/
def motorAnswer : ℕ → MotorApplyAnswer := fun invocation =>
  let asked := world (run.moment + (invocation - run.journal.context.length))
  ⟨asked.result, asked.nowUs⟩

/-- `journal_.disarm` -/
def disarmAt (nowUs : UInt64) : Int32 × RunState :=
  let (result, journal) := run.journal.disarm (run.motorAnswer world) nowUs
  (result, { run.later 1 with journal })

/-- `journal_.disarm(nowUs())` -/
def disarm : Int32 × RunState := (run.later 1).disarmAt world (run.now world)

/-- `journal_.apply`, which may call the motor twice -/
def apply (request : MotorCommandRequest) (nowUs : UInt64) : Int32 × RunState :=
  let (result, journal) := run.journal.apply (run.motorAnswer world) request nowUs
  (result, { run.later 2 with journal })

/-- `journal_.rejectAndCoast` -/
def rejectAndCoast (request : MotorCommandRequest) (cause : Int32) (nowUs : UInt64) :
    Int32 × RunState :=
  let (result, journal) := run.journal.rejectAndCoast (run.motorAnswer world) request cause nowUs
  (result, { run.later 1 with journal })

/-- `journal_.apply({0, MotorMode::Coast}, nowUs())` -/
def applyCoast : Int32 × RunState := (run.later 1).apply world .toCoast (run.now world)

/-- `stopForFatal` -/
def stopForFatal (cause : Int32) (reason : AbortReason) (timestampUs : UInt64) : RunState :=
  let cause := if cause = espOk then espErrInvalidResponse else cause
  let stopped :=
    { run.later 1 with
      journal := (run.journal.stopForError (run.motorAnswer world) cause timestampUs).2 }
  if run.firstError = espOk then { stopped with firstError := cause, lastAbortReason := reason }
  else stopped

/-- `stopForFatal(cause, reason, nowUs())` -/
def stopNow (cause : Int32) (reason : AbortReason) : RunState :=
  (run.later 1).stopForFatal world cause reason (run.now world)

/-- `stopForQualification` -/
def stopForQualification : RunState := ({ run with qualificationStop := true }.disarm world).2

/-- `stopForLatchedFailure` -/
def stopForLatchedFailure : Bool × RunState :=
  let writerError := (world run.moment).writerFirstError
  let samplerError := (world (run.moment + 1)).samplerFirstError
  if writerError ≠ espOk then (true, (run.later 1).stopNow world writerError .writerError)
  else if samplerError = espOk then (false, run.later 2)
  else if !setup.full then (true, (run.later 2).stopForQualification world)
  else (true, (run.later 2).stopNow world samplerError .samplerError)

/-! ### Approaches -/

/-- What `approachForEpisode` returns -/
def approachOf (episode : ProfileEpisode) : Option ZeroApproachController :=
  if episode.phase ≠ .zeroApproach then none
  else
    match episode.branch with
    | .fromPositive => some run.positive
    | .fromNegative => some run.negative
    | .none => none

/-- What is behind the pointer is changed. -/
def setApproach (branch : ApproachBranch) (controller : ZeroApproachController) : RunState :=
  match branch with
  | .fromPositive => { run with positive := controller }
  | .fromNegative => { run with negative := controller }
  | .none => run

/-- What `approachForEpisode(episode, true)` does -/
def startApproach (episode : ProfileEpisode) : RunState :=
  if episode.phase ≠ .zeroApproach then run
  else
    match episode.branch with
    | .fromPositive =>
        if run.positiveStarted then run
        else
          { run.later 1 with
            positive := run.positive.reset (run.now world)
            positiveStarted := true }
    | .fromNegative =>
        if run.negativeStarted then run
        else
          { run.later 1 with
            negative := run.negative.reset (run.now world)
            negativeStarted := true }
    | .none => run

/-- `epoch_start` -/
def epochStart (epoch : UInt32) : UInt64 := run.epochZeroUs + epoch.toUInt64 * kEpochDurationUs

/-- `epoch_end` -/
def epochEnd (epoch : UInt32) : UInt64 := run.epochStart epoch + kEpochDurationUs

/-! ### The tick of an epoch -/

/-- The loop turns once more, is left for the shutdown, or has its tick. -/
inductive Awaited where
  | again
  | stopped
  | tick (tick : ConsumerTick)

/-- One turn of the loop that waits -/
def awaitTick : Awaited × RunState :=
  if (world run.moment).tickQueueOverflow then
    let missed := { run.later 1 with runtimeDeadlineMisses := run.runtimeDeadlineMisses + 1 }
    (.stopped, missed.stopNow world espErrTimeout .deadline)
  else
    match (world (run.moment + 1)).tick with
    | some tick => (.tick tick, run.later 2)
    | none =>
        let (stopped, looked) := (run.later 2).stopForLatchedFailure world setup
        if stopped then (.stopped, looked)
        else if (world looked.moment).stopRequested then
          (.stopped, (looked.later 1).stopNow world espErrInvalidState .stopRequested)
        else (.again, looked.later 1)

/-- `one_epoch_catchup_allowed`; `consumer_tick_backlog` counts the tick that was taken. -/
def catchUpAllowed (epoch : UInt32) (tick : ConsumerTick) (backlog : UInt32) (overflow : Bool)
    (releaseUs : UInt64) : Bool :=
  tick.epochIndex == epoch && !overflow && backlog ≤ 2 &&
    tick.alarmLatenessUs.toUInt64 < kEpochDurationUs &&
    releaseUs < run.epochEnd epoch + 2 * kEpochDurationUs

/-- What `consumer_schedule_invalid` asks of a release that is not late -/
def scheduleInvalid (epoch : UInt32) (tick : ConsumerTick) (backlog : UInt32) (overflow : Bool)
    (releaseUs : UInt64) : Bool :=
  tick.epochIndex != epoch || overflow || backlog > 2 ||
    tick.alarmLatenessUs.toUInt64 ≥ kEpochDurationUs || releaseUs < run.epochEnd epoch

/-- The stop request, judged when the tick is there -/
def checkStop (releaseUs : UInt64) : RunState :=
  if (world run.moment).stopRequested ∧ run.lastAbortReason = .none then
    (run.later 1).stopForFatal world espErrInvalidState .stopRequested releaseUs
  else run.later 1

/-- The release stops the run, late or out of order. -/
def lateRelease (epoch : UInt32) (tick : ConsumerTick) (backlog : UInt32) (overflow : Bool)
    (releaseUs : UInt64) : Bool :=
  if releaseUs > run.epochEnd epoch + kConsumerDeadlineBudgetUs then
    !run.catchUpAllowed epoch tick backlog overflow releaseUs
  else run.scheduleInvalid epoch tick backlog overflow releaseUs

/-- The run misses its deadline. -/
def missDeadline (late : Bool) (releaseUs : UInt64) : RunState :=
  if late then
    { run with runtimeDeadlineMisses := run.runtimeDeadlineMisses + 1 }.stopForFatal world
      espErrTimeout .deadline releaseUs
  else run

/-- The error of the writer, judged when the tick is there -/
def checkWriter (releaseUs : UInt64) : RunState :=
  if (world run.moment).writerFirstError ≠ espOk then
    (run.later 2).stopForFatal world (world (run.moment + 1)).writerFirstError .writerError releaseUs
  else run.later 1

/-- From the tick to the samples, with nothing when the loop is left -/
def release (epoch : UInt32) (tick : ConsumerTick) : Option EpochRelease × RunState :=
  let (stopped, looked) := run.stopForLatchedFailure world setup
  if stopped then (none, looked)
  else
    let releaseUs := looked.now world
    let backlog := 1 + (world (looked.moment + 1)).ticksWaiting
    let overflow := (world (looked.moment + 2)).tickQueueOverflow
    let asked := (looked.later 3).checkStop world releaseUs
    if asked.lastAbortReason = .stopRequested ∧ releaseUs < run.epochEnd epoch then (none, asked)
    else
      let late := run.lateRelease epoch tick backlog overflow releaseUs
      let judged := asked.missDeadline world late releaseUs
      let failed := (world judged.moment).writerFirstError ≠ espOk
      let checked := judged.checkWriter world releaseUs
      if failed ∧ releaseUs < run.epochEnd epoch then (none, checked)
      else
        (some ⟨releaseUs, releaseUs > run.epochEnd epoch + kConsumerDeadlineBudgetUs⟩, checked)

/-- One sample is taken from the queue of the sampler, and `false` when the loop ends. -/
def drainSample : Bool × RunState :=
  match (world run.moment).sample with
  | none => (false, run.later 1)
  | some raw =>
      let (added, assembler) := run.assembler.add raw
      let taken := (run.later 1).withAssembler assembler
      if added = .bucketCollision then
        (false,
          if setup.full then taken.stopNow world espErrNoMem .queueFull
          else taken.stopForQualification world)
      else (true, taken)

/-! ### The angle of an epoch -/

/-- `measured_rate` -/
def measuredRate (angle : Int32) : ℤ :=
  if run.haveAngle then (angle - run.finAngle).toInt * 1000 else 0

/-- An epoch without an angle that may be so: the first one, when no sample of it is invalid -/
def startupEpoch (block : EncoderEpochBlock) : Bool :=
  hasFlag block.flags EpochStartup && block.epochIndex == 0 && block.invalidSampleCount == 0

/-- The angle of a block, and `guard_state` -/
def measure (block : EncoderEpochBlock) (guardState : GuardState) : GuardState × RunState :=
  if hasFlag block.flags EpochAggregateValid then
    match finAngleMilliDegreesFromUnwrappedQ16 block.meanUnwrappedCountsQ16 run.zeroRaw with
    | none => (.abort, run.stopNow world espErrInvalidSize .positionGuard)
    | some angle =>
        let rate := run.measuredRate angle
        let moved := { run with finAngle := angle }
        if rate < -2 ^ 31 ∨ rate > 2 ^ 31 - 1 then
          (.abort, moved.stopNow world espErrInvalidSize .positionGuard)
        else (guardState, { moved with finRate := Int32.ofInt rate, haveAngle := true })
  else if setup.full ∧ run.firstError = espOk ∧ !startupEpoch block then
    (guardState, run.stopNow world espErrInvalidResponse .encoderInvalid)
  else (guardState, run)

/-- The error of the sampler, judged after the angle -/
def checkSampler : RunState :=
  if (world run.moment).samplerFirstError ≠ espOk then
    if setup.full then
      (run.later 2).stopNow world (world (run.moment + 1)).samplerFirstError .samplerError
    else (run.later 1).stopForQualification world
  else run.later 1

/-- What an update of the approach stops the run for -/
def stopForUpdate : ApproachUpdate → RunState
  | .overshootAbort => run.stopNow world espErrInvalidResponse .overshoot
  | .timeoutAbort => run.stopNow world espErrTimeout .timeout
  | .monotonicityAbort => run.stopNow world espErrInvalidState .validationError
  | .configurationAbort => run.stopNow world espErrInvalidState .validationError
  | .holding => run
  | .targetAdvanced => run
  | .complete => run

/-- The approach of the episode is fed with the angle. -/
def feedApproach (episode : ProfileEpisode) (releaseUs : UInt64) : RunState :=
  match run.approachOf episode with
  | none => run
  | some controller =>
      if run.haveAngle ∧ run.lastAbortReason = .none then
        let (update, next) := controller.update ⟨run.finAngle.toInt, run.finRate.toInt⟩ releaseUs
        (run.setApproach episode.branch next).stopForUpdate world update
      else run

/-- The approach of the episode must be complete in its last epoch. -/
def checkApproach (episode : ProfileEpisode) (localEpoch : UInt32) : RunState :=
  match run.approachOf episode with
  | none => run
  | some controller =>
      if localEpoch + 1 ≥ episode.durationEpochs ∧ !controller.plan.complete ∧
          run.firstError = espOk then
        run.stopNow world espErrTimeout .timeout
      else run

/-- The block of an epoch as it is recorded -/
def recordedBlock (release : EpochRelease) (block : EncoderEpochBlock) : EncoderEpochBlock :=
  if release.deadlineMissed then { block with flags := block.flags &&& ~~~EpochDeadline } else block

/-- From the block of the epoch to the command of the next one -/
def settle (work : EpochWork) (release : EpochRelease) (block : EncoderEpochBlock) :
    GuardState × RunState :=
  let (guardState, measured) := run.measure world setup block work.guardState
  let fed := (measured.checkSampler world setup).feedApproach world work.episode release.releaseUs
  (guardState, fed.checkApproach world work.episode work.localEpoch)

/-! ### The command of the next epoch -/

/-- The request of the next epoch, before the guard -/
def nextRequest (nextEpoch : UInt32) : MotorCommandRequest × RunState :=
  let (episode, localEpoch) := setup.episodeOf nextEpoch
  let (request, pseudoRandomState) :=
    commandForEpisode setup.commandToFinSign episode localEpoch run.finAngle run.pseudoRandomState
  let started := { run with pseudoRandomState }.startApproach world episode
  match started.approachOf episode with
  | none => (request, started)
  | some controller =>
      let error := controller.plan.targetMilliDeg - run.finAngle.toInt
      if controller.plan.complete then (request, started)
      else if error > 2 ^ 31 - 1 ∨ error < -2 ^ 31 then (.toCoast, started)
      else
        (positionApproachCommand setup.commandToFinSign (Int32.ofInt error) run.finRate localEpoch
          episode.commandLimitPermille, started)

/-- The input of the guard -/
def guardInput (request : MotorCommandRequest) : PositionGuardInput where
  finAngleMillideg := run.finAngle
  predictedStoppingDeltaMillideg := run.finRate / kPredictedStoppingRateDivisor
  requested := request
  encoderValid := true
  consumerDeadlineMet := true

/-- What is asked before the request is applied: the request that is permitted, or what the run is
stopped for. -/
def preapply (stopRequested : Bool) (request : MotorCommandRequest) :
    Except (Int32 × AbortReason) (MotorCommandRequest × GuardState) :=
  let decision := PositionGuard.evaluate setup.guard (run.guardInput request)
  if stopRequested then .error (espErrInvalidState, .stopRequested)
  else if setup.full ∧ !run.haveAngle ∧ request.commandPermille ≠ 0 then
    .error (espErrInvalidResponse, .encoderInvalid)
  else if !run.haveAngle then .ok (request, .allow)
  else if decision.action = .abort then .error (espErrInvalidState, .positionGuard)
  else .ok (decision.permitted, decision.action)

/-- `next_apply_hard_deadline` -/
def hardDeadline (nextEpoch : UInt32) : UInt64 := run.epochEnd nextEpoch + kEpochDurationUs

/-- The request is applied, or rejected when its time is over. -/
def applyInTime (nextEpoch : UInt32) (request : MotorCommandRequest) : Bool × Int32 × RunState :=
  let startedUs := run.now world
  if !run.journal.requestAlreadyApplied request ∧ startedUs ≥ run.hardDeadline nextEpoch then
    let missed := { run.later 1 with runtimeDeadlineMisses := run.runtimeDeadlineMisses + 1 }
    (true, missed.rejectAndCoast world request espErrTimeout startedUs)
  else (false, (run.later 1).apply world request startedUs)

/-- A command that is complete only after its hard deadline is counted. -/
def countOverrun (overran : Bool) : RunState :=
  if overran then { run with runtimeDeadlineMisses := run.runtimeDeadlineMisses + 1 } else run

/-- The request is applied, and its evidence becomes that of the next epoch unless it was applied after
the end of it. -/
def issue (nextEpoch : UInt32) (request : MotorCommandRequest) (guardState : GuardState) :
    Option EpochCommandState × RunState :=
  let before := run.journal.snapshot (run.now world)
  let (missed, result, applied) := (run.later 1).applyInTime world nextEpoch request
  let evidence := applied.journal.snapshot (applied.now world)
  let changed := evidence.commandGeneration != before.commandGeneration
  let overran := !missed && changed && evidence.commandApplyTimestampUs ≥ run.hardDeadline nextEpoch
  let counted := (applied.later 1).countOverrun overran
  if missed || overran then (none, counted.stopNow world espErrTimeout .deadline)
  else if result ≠ espOk then (none, counted.stopNow world result .motorApplyError)
  else if changed && evidence.commandApplyTimestampUs ≥ run.epochEnd nextEpoch then
    (some { run.currentCommandState with evidence := before }, counted)
  else (some ⟨evidence, guardState⟩, counted)

/-- The command of the next epoch, when there is one: `next_command_state`, with nothing when it is not
valid -/
def nextCommand (epoch : UInt32) : Option EpochCommandState × RunState :=
  if epoch + 1 < setup.epochs ∧ run.firstError = espOk ∧ !run.qualificationStop then
    let (request, requested) := run.nextRequest world setup (epoch + 1)
    let asked := requested.later 1
    match asked.preapply setup (world requested.moment).stopRequested request with
    | .error (error, reason) => (none, asked.stopNow world error reason)
    | .ok (permitted, guardState) => asked.issue world (epoch + 1) permitted guardState
  else (none, run)

/-! ### The record of an epoch -/

/-- `power_evidence` -/
def powerEvidence : PowerEvidence := { readResult := espErrNotSupported }

/-- The evidence of an epoch with the time of its record -/
def recordedCommand (evidence : CommandEvidence) (nowUs : UInt64) : CommandEvidence :=
  { evidence with loggerSnapshotTimestampUs := max nowUs evidence.commandApplyTimestampUs }

/-- `record` -/
def record (work : EpochWork) (block : EncoderEpochBlock) (guardState : GuardState)
    (command : CommandEvidence) : LogRecord where
  sequence := run.sequence
  stage := setup.stage
  encoderRate := setup.encoderRate
  profilePhase := work.episode.phase
  approachBranch := work.episode.branch
  zeroReferenceKind := zeroReferenceKind setup.stage
  runKind := setup.runKind
  qualification := if setup.full then 1 else 0
  episodeIndex := work.episode.episodeIndex
  targetFinAngleMillideg := Int32.ofInt work.targetFinAngle
  finAngleMillideg := run.finAngle
  finRateMillidegS := run.finRate
  guardState
  abortReason := run.lastAbortReason
  firstError := run.firstError
  command
  power := powerEvidence
  encoder := block

/-- The journal is disarmed after an error. -/
def disarmStopped : RunState :=
  if (run.firstError ≠ espOk ∨ run.qualificationStop) ∧ run.journal.armed then (run.disarm world).2
  else run

/-- A record is handed to the writer. -/
def enqueue (record : LogRecord) : RunState :=
  let result := (world run.moment).result
  let called := run.later 1
  if result ≠ espOk then
    called.stopNow world result (if result = espErrNoMem then .queueFull else .writerError)
  else
    let valid := hasFlag record.encoder.flags EpochAggregateValid
    { called with
      qualificationTotal := run.qualificationTotal + 1
      qualificationValid := run.qualificationValid + if valid then 1 else 0
      records := run.records ++ [record] }

/-- The error of the writer, judged after a record -/
def checkWriterNow : RunState :=
  if (world run.moment).writerFirstError ≠ espOk then
    (run.later 2).stopNow world (world (run.moment + 1)).writerFirstError .writerError
  else run.later 1

/-- The record of an epoch is made and handed to the writer. -/
def log (work : EpochWork) (block : EncoderEpochBlock) (guardState : GuardState) : RunState :=
  let command := recordedCommand work.epochCommand (run.now world)
  let disarmed := (run.later 1).disarmStopped world
  let record := disarmed.record setup work block guardState command
  ({ disarmed with sequence := disarmed.sequence + 1 }.enqueue world record).checkWriterNow world

/-! ### The shutdown -/

/-- `rememberOperation` -/
def rememberOperation (operation first : Int32) : Int32 :=
  if first = espOk ∧ operation ≠ espOk then operation else first

/-- `wire_shutdown_mask` and `shutdown_prefix_intact` -/
structure ShutdownMarks where
  mask : UInt32 := 0
  intact : Bool := true

/-- `markShutdown`, but for `first_error` -/
def ShutdownMarks.mark (marks : ShutdownMarks) (operation : Int32) : ShutdownMarks :=
  if marks.intact ∧ operation = espOk then { marks with mask := marks.mask <<< 1 ||| 1 }
  else { marks with intact := false }

/-- `unsupportedReason` -/
def unsupportedReason (statistics : SamplerStatistics) : UnsupportedReason :=
  if statistics.triggerCoalescedOrMissed ≠ 0 then .triggerCoalesced
  else if statistics.preEpochSamples ≠ 0 ∨ statistics.lateAfterRelease ≠ 0 ∨
      statistics.steadyStateIncompleteEpochs ≠ 0 then
    .incompleteEpoch
  else if statistics.invalidSamples ≠ 0 ∨ statistics.encoderTransportErrors ≠ 0 then .invalidRead
  else if statistics.rawQueueOverflows ≠ 0 ∨ statistics.writerQueueOverflows ≠ 0 ∨
      statistics.bucketCollisions ≠ 0 then
    .queueOverflow
  else if statistics.encoderStatusFaults ≠ 0 then .sensorHealth
  else .none

/-- What the footer says of the samples: the counts of the sampler, and those of the assembler -/
def closingStatistics (sampled : SamplerStatistics) (writerQueueOverflows : UInt64) :
    SamplerStatistics :=
  let assembled := run.assembler.statistics
  { sampled with
    preEpochSamples := assembled.preEpochSamples
    repeatedSamples := assembled.repeatedSamples
    skippedSamples := assembled.skippedSamples
    invalidSamples := assembled.invalidSamples
    lateAfterRelease := assembled.lateAfterRelease
    startupIncompleteEpochs := assembled.startupIncompleteEpochs
    steadyStateIncompleteEpochs := assembled.steadyStateIncompleteEpochs
    consumerDeadlineMisses := run.runtimeDeadlineMisses
    writerQueueOverflows
    vbusInvalidSamples := 0 }

/-- `abortReasonForAcquisition` -/
def abortReasonForAcquisition : UnsupportedReason → AbortReason
  | .deadlineMiss => .deadline
  | .queueOverflow => .queueFull
  | .incompleteEpoch => .encoderInvalid
  | .triggerCoalesced => .samplerError
  | .invalidRead => .samplerError
  | .sensorHealth => .samplerError
  | .writerFailure => .writerError
  | .none => .validationError
  | .operatorMarkedUnsupported => .validationError

/-- The samples are judged; `diagnostic` is what `sampler_.stop` returned. -/
def judge (reason : UnsupportedReason) (diagnostic : Int32) : RunState :=
  let judged :=
    if setup.full ∧ reason ≠ .none ∧ run.firstError = espOk then
      { run with
        firstError := if diagnostic = espOk then espErrInvalidResponse else diagnostic
        lastAbortReason := abortReasonForAcquisition reason }
    else if !setup.full ∧ reason = .none ∧ diagnostic ≠ espOk ∧ run.firstError = espOk then
      { run with firstError := diagnostic, lastAbortReason := .samplerError }
    else run
  if judged.qualificationStop ∧ reason = .none ∧ judged.firstError = espOk then
    { judged with firstError := espErrInvalidResponse, lastAbortReason := .validationError }
  else judged

/-- `footer`, as `close` is called with it -/
def footer (firstError : Int32) (reason : UnsupportedReason) (statistics : SamplerStatistics)
    (shutdownMask : UInt32) : LogFooter :=
  let unsupported := if setup.full then .none else reason
  let supported := firstError == espOk && unsupported == .none
  let completion : CompletionCode :=
    if firstError ≠ espOk then .aborted else if supported then .normal else .unsupported
  { completion
    rateSupported := supported
    unsupportedReason := if completion = .unsupported then unsupported else .none
    statistics := { statistics with firstError }
    qualificationValidEpochs := if setup.runKind = .rateCheck then run.qualificationValid else 0
    qualificationTotalEpochs := if setup.runKind = .rateCheck then run.qualificationTotal else 0
    shutdownStepMask := shutdownMask }

/-- An operation of the shutdown: `markShutdown` -/
def mark (marks : ShutdownMarks) (operation : Int32) : ShutdownMarks × RunState :=
  (marks.mark operation, { run with firstError := rememberOperation operation run.firstError })

/-- The motor is stopped: `Coast` and `Disarm`. -/
def stopMotor : ShutdownMarks × RunState :=
  let (coastResult, coasted) := run.applyCoast world
  let (marks, coasted) := coasted.mark {} coastResult
  let (disarmResult, disarmed) := coasted.disarm world
  disarmed.mark marks disarmResult

/-- From the end of the loop to the end of `run`: what it returns and the footer -/
def shutDown : Int32 × LogFooter × RunState :=
  let (marks, stopped) := run.stopMotor world
  let at' (index : ℕ) := world (stopped.moment + index)
  let diagnostic := (at' 1).result
  let cleanup := rememberOperation (at' 2).result (at' 0).result
  let (marks, cleaned) := stopped.mark marks cleanup
  let (marks, drained) := cleaned.mark marks espOk
  let statistics := drained.closingStatistics (at' 3).samplerStatistics (at' 4).writerQueueOverflows
  let reason := unsupportedReason statistics
  let judged := drained.judge setup reason diagnostic
  let synced := (at' 5).result
  let (marks, flushed) := judged.mark marks synced
  let marks := if synced = espOk then marks.mark espOk else marks
  let footer := flushed.footer setup flushed.firstError reason statistics marks.mask
  let result := rememberOperation (at' 6).result flushed.firstError
  (result, footer, { flushed.later 7 with firstError := result })

/-! ### The start -/

/-- `consumer_timer_.start`, with the time before it, what its driver returns, and the time after -/
def timerStart (firstAlarmUs periodUs : UInt64) (currentUs : Int64) (driver : Int32)
    (synchronizedUs : Int64) : Int32 :=
  if periodUs = 0 ∨ firstAlarmUs ≤ periodUs then espErrInvalidArg
  else if currentUs < 0 ∨ firstAlarmUs ≤ currentUs.toUInt64 then espErrInvalidArg
  else if driver ≠ espOk then driver
  else if synchronizedUs < 0 ∨ firstAlarmUs ≤ synchronizedUs.toUInt64 then espErrTimeout
  else espOk

/-- `startConsumerTimer`, up to the wait for epoch zero; its first result is that of the queue and of
`consumer_timer_.initialize`. -/
def startConsumerTimer : Int32 × RunState :=
  let prepared := (world run.moment).result
  if run.epochZeroUs > 0xFFFFFFFFFFFFFFFF - kEpochDurationUs then (espErrInvalidState, run)
  else if prepared ≠ espOk then (prepared, run.later 1)
  else
    (timerStart (run.epochZeroUs + kEpochDurationUs) kEpochDurationUs
        (world (run.moment + 1)).espTimerUs (world (run.moment + 2)).result
        (world (run.moment + 3)).espTimerUs,
      run.later 4)

/-- The variables of `run` before the loop -/
def opened (epochZeroUs : UInt64) (zeroRaw : UInt16) : RunState where
  moment := run.moment
  journal := run.journal
  pseudoRandomState := setup.profileSeed
  epochZeroUs
  zeroRaw
  assembler :=
    { rate := setup.encoderRate, deadlineBudgetUs := kConsumerDeadlineBudgetUs.toUInt32
      : FixedEpochAssembler }.resetFrom epochZeroUs zeroRaw

/-- `run` returns before the loop. With a file that is open, it is closed with this footer. -/
def refused (error : Int32) (fileOpen : Bool) : Runner where
  stage := .returned error (if fileOpen then some { statistics := { firstError := error } } else none)
  run

/-- The motor is stopped before `run` returns. -/
def coastAndDisarm : RunState := ((run.applyCoast world).2.disarm world).2

/-- The evidence of the first command is that of the first epoch. -/
def takeEvidence : RunState :=
  { run.later 1 with currentCommandState := { evidence := run.journal.snapshot (run.now world) } }

/-- The first command of a run that is opened, and the start of the timer -/
def launch : Runner :=
  let (coastResult, coasted) := run.applyCoast world
  if coastResult ≠ espOk then (coasted.disarm world).2.refused coastResult true
  else
    let (timerResult, timed) := (coasted.takeEvidence world).startConsumerTimer world
    if timerResult ≠ espOk then (timed.coastAndDisarm world).refused timerResult true
    else ⟨.starting, timed⟩

/-- From the call of `run` to the wait for epoch zero -/
def start : Runner :=
  match setup.zeroRaw with
  | none => run.refused espErrInvalidState false
  | some zeroRaw =>
      let prepared := (world run.moment).result
      let epochZeroUs := (world (run.moment + 1)).nowUs + kRunStartLeadUs
      let openedFile := (world (run.moment + 2)).result
      let readyUs := (world (run.moment + 3)).nowUs
      let sampling := (world (run.moment + 4)).result
      if setup.epochs = 0 then run.refused espErrInvalidState false
      else if !planValid setup.stage setup.profileSeed then run.refused espErrInvalidArg false
      else if prepared ≠ espOk then ((run.later 1).disarm world).2.refused prepared false
      else if openedFile ≠ espOk then ((run.later 3).disarm world).2.refused openedFile false
      else if readyUs + kMinimumPostHeaderLeadUs ≥ epochZeroUs then
        ((run.later 4).disarm world).2.refused espErrTimeout true
      else if sampling ≠ espOk then ((run.later 5).coastAndDisarm world).refused sampling true
      else ((run.later 5).opened setup epochZeroUs zeroRaw).launch world

end RunState

namespace Runner

open RunState

variable (world : World) (setup : RunSetup)

/-- From the head of the loop to the loop that waits for the tick -/
def enter (epoch : UInt32) (run : RunState) : Runner :=
  if epoch ≥ setup.epochs then ⟨.closing, run⟩
  else
    let (stopped, looked) := run.stopForLatchedFailure world setup
    if stopped then ⟨.closing, looked⟩
    else
      let (episode, localEpoch) := setup.episodeOf epoch
      let started := looked.startApproach world episode
      let targetFinAngle :=
        (started.approachOf episode).elim 0 fun approach => approach.plan.targetMilliDeg
      ⟨.waiting
          { epoch, episode, localEpoch, targetFinAngle
            epochCommand := started.currentCommandState.evidence
            guardState := started.currentCommandState.guardState },
        started⟩

/-- One turn of the loop that waits, and the release when the tick is there -/
def await (work : EpochWork) (run : RunState) : Runner :=
  match run.awaitTick world setup with
  | (.again, next) => ⟨.waiting work, next⟩
  | (.stopped, next) => ⟨.closing, next⟩
  | (.tick tick, next) =>
      match next.release world setup work.epoch tick with
      | (none, left) => ⟨.closing, left⟩
      | (some release, released) => ⟨.draining work release, released⟩

/-- The end of an iteration: the record is written, and the next epoch begins with its command. -/
def close (work : EpochWork) (block : EncoderEpochBlock) (guardState : GuardState)
    (next : Option EpochCommandState) (run : RunState) : Runner :=
  let logged := run.log world setup work block guardState
  if logged.firstError ≠ espOk ∨ logged.qualificationStop then ⟨.closing, logged⟩
  else if work.epoch + 1 < setup.epochs then
    match next with
    | none => ⟨.closing, logged.stopNow world espErrInvalidState .validationError⟩
    | some state => ⟨.entering (work.epoch + 1), { logged with currentCommandState := state }⟩
  else ⟨.entering (work.epoch + 1), logged⟩

/-- The iteration from the release of the assembler on -/
def finish (work : EpochWork) (release : EpochRelease) (run : RunState) : Runner :=
  let (released, assembler) := run.assembler.release work.epoch.toUInt64 release.releaseUs
  match released with
  | none =>
      ⟨.closing, (run.withAssembler assembler).stopNow world espErrInvalidSize .validationError⟩
  | some block =>
      let recorded := recordedBlock release block
      let (guardState, settled) :=
        (run.withAssembler assembler).settle world setup work release recorded
      let (next, issued) := settled.nextCommand world setup work.epoch
      close world setup work recorded guardState next issued

/-- One turn of the loop that takes the samples, and the rest of the iteration when it ends -/
def drain (work : EpochWork) (release : EpochRelease) (run : RunState) : Runner :=
  match run.drainSample world setup with
  | (true, next) => ⟨.draining work release, next⟩
  | (false, next) => finish world setup work release next

/-- What the runner does next -/
def step (runner : Runner) : Runner :=
  match runner.stage with
  | .called => runner.run.start world setup
  | .starting =>
      if runner.run.now world < runner.run.epochZeroUs then ⟨.starting, runner.run.later 1⟩
      else ⟨.entering 0, runner.run.later 1⟩
  | .entering epoch => enter world setup epoch runner.run
  | .waiting work => await world setup work runner.run
  | .draining work release => drain world setup work release runner.run
  | .closing =>
      let (result, footer, run) := runner.run.shutDown world setup
      ⟨.returned result (some footer), run⟩
  | .returned _ _ => runner

/-- The runner after so many steps of a run that is called with this journal -/
def after (journal : CommandJournal) : ℕ → Runner
  | 0 => { run := { journal } }
  | count + 1 => step world setup (after journal count)

end Runner

end MissionBoard.Characterization
