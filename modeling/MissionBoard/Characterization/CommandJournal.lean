import MissionBoard.Characterization.CharacterizationTypes

/-!
Owns `CommandJournal` of `characterization/command_journal.cpp`: the requests that are applied to the
motor, and the evidence that is kept of the last one.

The callback is the code of another component. What it answers is a parameter: for each invocation,
counted from the first, its result and its completion time. The context of the callback is kept as the
list of the requests that it was handed.
-/

namespace MissionBoard.Characterization

/-- `ESP_OK` -/
def espOk : Int32 := 0

/-- `ESP_ERR_INVALID_ARG` -/
def espErrInvalidArg : Int32 := 0x102

/-- `ESP_ERR_INVALID_STATE` -/
def espErrInvalidState : Int32 := 0x103

/-- `MotorCommandRequest` -/
structure MotorCommandRequest where
  commandPermille : Int16 := 0
  mode : MotorMode := .coast
deriving DecidableEq

/-- `MotorCommandApplied` -/
structure MotorCommandApplied where
  appliedCommandPermille : Int16 := 0
  appliedMode : MotorMode := .coast
  resultCode : Int32 := espOk
  commandApplyTimestampUs : UInt64 := 0
deriving DecidableEq

/-- What the callback answers: its result, and `completed_at_us` -/
structure MotorApplyAnswer where
  result : Int32
  completedAtUs : UInt64

/-- An invocation of the callback, with the journal's `armed_` at that time -/
structure HandedRequest where
  request : MotorCommandRequest
  armed : Bool
  result : Int32
deriving DecidableEq

/-- `CommandJournal`; `bound` is `callback_ != nullptr`, `context` what the callback was handed. -/
structure CommandJournal where
  bound : Bool := false
  context : List HandedRequest := []
  nextGeneration : UInt64 := 1
  current : CommandEvidence := {}
  currentApplied : MotorCommandApplied := {}
  armed : Bool := false

namespace MotorCommandRequest

variable (request : MotorCommandRequest)

/-- `{0, MotorMode::Coast}` -/
def toCoast : MotorCommandRequest := {}

/-- `valid_request` -/
def valid : Bool :=
  motorModeMatchesCommand request.commandPermille request.mode &&
    request.commandPermille.toInt.natAbs ≤ kMaximumCommandPermille.toInt.toNat

/-- `needs_arm`: the request drives the motor or brakes it. -/
def needsArm : Bool := request.commandPermille != 0 || request.mode == .brake

end MotorCommandRequest

namespace CommandJournal

variable (answer : ℕ → MotorApplyAnswer) (journal : CommandJournal)

/-- `callback_(context_, request, completed_at_us)`, and its trace in `current_applied_` -/
def callback (request : MotorCommandRequest) : Int32 × CommandJournal :=
  let answered := answer journal.context.length
  (answered.result,
    { journal with
      context := journal.context ++ [⟨request, journal.armed, answered.result⟩]
      currentApplied :=
        { appliedCommandPermille := request.commandPermille
          appliedMode := request.mode
          resultCode := answered.result
          commandApplyTimestampUs := answered.completedAtUs } })

/-- `arm` -/
def arm : Int32 × CommandJournal :=
  if journal.armed || !journal.bound then (espErrInvalidState, journal)
  else (espOk, { journal with armed := true })

/-- `applyCoast` -/
def applyCoast (nowUs : UInt64) : Int32 × CommandJournal :=
  if !journal.bound then
    (espErrInvalidState,
      { journal with
        currentApplied :=
          { resultCode := espErrInvalidState
            commandApplyTimestampUs := nowUs } })
  else journal.callback answer .toCoast

/-- `disarm` -/
def disarm (nowUs : UInt64) : Int32 × CommandJournal :=
  let (result, coasted) := journal.applyCoast answer nowUs
  (result, { coasted with armed := false })

/-- `stopForError` -/
def stopForError (cause : Int32) (nowUs : UInt64) : Int32 × CommandJournal :=
  if cause = espOk then (espErrInvalidArg, journal) else (cause, (journal.disarm answer nowUs).2)

/-- `requestAlreadyApplied` -/
def requestAlreadyApplied (request : MotorCommandRequest) : Bool :=
  journal.current.commandGeneration != 0 && journal.current.applyResultCode == espOk &&
    journal.currentApplied.resultCode == espOk &&
    journal.current.requestedCommandPermille == request.commandPermille &&
    journal.current.requestedMotorMode == request.mode &&
    journal.current.appliedCommandPermille == request.commandPermille &&
    journal.current.appliedMotorMode == request.mode &&
    journal.currentApplied.appliedCommandPermille == request.commandPermille &&
    journal.currentApplied.appliedMode == request.mode

/-- `apply` leaves the output as it is. -/
def skips (request : MotorCommandRequest) : Bool :=
  request.valid && (!request.needsArm || journal.armed) && journal.bound &&
    journal.requestAlreadyApplied request

/-- The part of `apply` that hands the request to the callback, or says why it does not -/
def handRequest (request : MotorCommandRequest) : Int32 × CommandJournal :=
  if !request.valid then (espErrInvalidArg, journal)
  else if request.needsArm && !journal.armed then (espErrInvalidState, journal)
  else if !journal.bound then (espErrInvalidState, journal)
  else journal.callback answer request

/-- The evidence of a request: `current_ = {}` and what is known before the output is safe -/
def openEvidence (request : MotorCommandRequest) (nowUs : UInt64) : CommandJournal :=
  { journal with
    nextGeneration := journal.nextGeneration + 1
    current :=
      { commandGeneration := journal.nextGeneration
        requestedCommandPermille := request.commandPermille
        requestedMotorMode := request.mode
        loggerSnapshotTimestampUs := nowUs } }

/-- What the evidence says of the output and of the result -/
def closeEvidence (result : Int32) : CommandJournal :=
  { journal with
    current :=
      { journal.current with
        appliedCommandPermille := journal.currentApplied.appliedCommandPermille
        appliedMotorMode := journal.currentApplied.appliedMode
        applyResultCode := result
        commandApplyTimestampUs := journal.currentApplied.commandApplyTimestampUs } }

/-- `apply` -/
def apply (request : MotorCommandRequest) (nowUs : UInt64) : Int32 × CommandJournal :=
  if journal.skips request then (espOk, journal)
  else
    let (result, handed) := journal.handRequest answer request
    let opened := handed.openEvidence request nowUs
    if result ≠ espOk then (result, (opened.disarm answer nowUs).2.closeEvidence result)
    else (result, opened.closeEvidence result)

/-- `rejectAndCoast` takes the request up. -/
def rejects (request : MotorCommandRequest) (cause : Int32) : Bool := cause != espOk && request.valid

/-- `rejectAndCoast` -/
def rejectAndCoast (request : MotorCommandRequest) (cause : Int32) (nowUs : UInt64) :
    Int32 × CommandJournal :=
  if !rejects request cause then (espErrInvalidArg, journal)
  else (cause, ((journal.openEvidence request nowUs).disarm answer nowUs).2.closeEvidence cause)

/-- `snapshot` -/
def snapshot (loggerSnapshotUs : UInt64) : CommandEvidence :=
  { journal.current with loggerSnapshotTimestampUs := loggerSnapshotUs }

end CommandJournal

end MissionBoard.Characterization
