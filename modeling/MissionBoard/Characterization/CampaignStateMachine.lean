import MissionBoard.Characterization.LogFormatV5

/-!
Owns `CampaignStateMachine` of `characterization/campaign_state_machine.cpp`: the stages of a
measurement session, the runs that each must complete, and the handoff that carries a session over
the power cycle before its last stage.

A value of an enumeration is one of its enumerators, so that `rateIndex` always finds a slot.
-/

namespace MissionBoard.Characterization

/-- `CampaignState` -/
inductive CampaignState where
  | idle
  | awaitingStageConfirmation
  | ready
  | running
  | awaitingM0Handoff
  | powerCycleRequired
  | awaitingM0Confirmation
  | completed
  | faulted
deriving DecidableEq

/-- `ResetKind` -/
inductive ResetKind where
  | powerOn
  | software
  | watchdog
  | panic
  | brownout
  | deepSleep
  | unknown
deriving DecidableEq

/-- `CampaignStatus` -/
inductive CampaignStatus where
  | ok
  | invalidState
  | invalidArgument
  | wrongStage
  | wrongRateOrder
  | mandatoryRateUnsupported
  | powerCycleRequired
  | invalidHandoff
  | queueFull
  | snapshotInvalid
  | coldPowerCycleNotProven
  | finRemovalConfirmationRequired
  | sessionIdMismatch
  | rateNotQualified
deriving DecidableEq

/-- `RunOutcome` -/
inductive RunOutcome where
  | accepted
  | failed
  | unsupported
deriving DecidableEq

/-- `RateResult` -/
inductive RateResult where
  | pending
  | accepted
  | unsupported
deriving DecidableEq

/-- `SessionId` -/
abbrev SessionId := Vector UInt8 32

/-- `M0Handoff` -/
structure M0Handoff where
  schemaVersion : UInt32 := kSchemaVersion.toUInt32
  sessionId : SessionId := Vector.replicate 32 0
  profileSeed : UInt32 := 0
  completedStageMask : UInt8 := 0
  expectedStage : AssemblyStage := .m0
  checksum : UInt32 := 0
deriving DecidableEq

/-- `stageBit` -/
def stageBit : AssemblyStage → UInt8
  | .none => 0
  | .fv => 1
  | .fhPositive => 2
  | .fhNegative => 4
  | .m0 => 8

/-- `hashByte` -/
def hashByte (hash : UInt32) (value : UInt8) : UInt32 := (hash ^^^ value.toUInt32) * 16777619

/-- `hashU32` -/
def hashU32 (hash value : UInt32) : UInt32 :=
  let shifts : List UInt32 := [0, 8, 16, 24]
  shifts.foldl (fun hash shift => hashByte hash (value >>> shift).toUInt8) hash

/-- `computeHandoffChecksum` -/
def computeHandoffChecksum (handoff : M0Handoff) : UInt32 :=
  let hash := hashU32 2166136261 handoff.schemaVersion
  let hash := handoff.sessionId.toList.foldl hashByte hash
  let hash := hashU32 hash handoff.profileSeed
  let hash := hashByte hash handoff.completedStageMask
  hashByte hash (ByteEnum.toByte handoff.expectedStage)

/-- `validateHandoff` -/
def validateHandoff (handoff : M0Handoff) : Bool :=
  let required := stageBit .fv ||| stageBit .fhPositive ||| stageBit .fhNegative
  if handoff.schemaVersion ≠ kSchemaVersion.toUInt32 ∨ !validSessionId handoff.sessionId ∨
      handoff.profileSeed = 0 ∨ handoff.expectedStage ≠ .m0 ∨
      handoff.completedStageMask &&& required ≠ required then
    false
  else handoff.checksum = computeHandoffChecksum { handoff with checksum := 0 }

/-- The results after `resetStageRuns`: 2 kHz and 5 kHz are unsupported from the start. -/
def initialRateResults : EncoderRate → RateResult
  | .hz1000 => .pending
  | .hz2000 | .hz5000 => .unsupported

/-- `CampaignStateMachine` -/
structure CampaignStateMachine where
  sessionId : SessionId := Vector.replicate 32 0
  state : CampaignState := .idle
  stage : AssemblyStage := .none
  activeRate : EncoderRate := .hz1000
  activeRunKind : RunKind := .none
  profileSeed : UInt32 := 0
  completedStageMask : UInt8 := 0
  rateResults : EncoderRate → RateResult := fun _ => .pending
  fullCompleted : EncoderRate → Bool := fun _ => false

namespace CampaignStateMachine

/-- `resetStageRuns` -/
def resetStageRuns (machine : CampaignStateMachine) : CampaignStateMachine :=
  { machine with
    rateResults := initialRateResults
    fullCompleted := fun _ => false
    activeRunKind := .none }

/-- `startNewSession` -/
def startNewSession (machine : CampaignStateMachine) (sessionId : SessionId) (profileSeed : UInt32) :
    CampaignStatus × CampaignStateMachine :=
  if machine.state ≠ .idle then (.invalidState, machine)
  else if !validSessionId sessionId ∨ profileSeed = 0 then (.invalidArgument, machine)
  else
    (.ok,
      { { machine with
          sessionId, profileSeed
          completedStageMask := 0
          stage := .fv }.resetStageRuns with
        state := .awaitingStageConfirmation })

/-- `confirmStage` -/
def confirmStage (machine : CampaignStateMachine) (stage : AssemblyStage) :
    CampaignStatus × CampaignStateMachine :=
  if machine.state ≠ .awaitingStageConfirmation then (.invalidState, machine)
  else if stage ≠ machine.stage ∨ stage = .m0 then
    (if stage = .m0 then .finRemovalConfirmationRequired else .wrongStage, machine)
  else (.ok, { machine with state := .ready })

/-- `beginRun` -/
def beginRun (machine : CampaignStateMachine) (rate : EncoderRate) (kind : RunKind) :
    CampaignStatus × CampaignStateMachine :=
  let run := { machine with activeRate := rate, activeRunKind := kind, state := .running }
  if machine.state ≠ .ready then (.invalidState, machine)
  else if kind ≠ .rateCheck ∧ kind ≠ .full then (.invalidArgument, machine)
  else if rate ≠ .hz1000 then if kind = .full then (.rateNotQualified, machine) else (.ok, run)
  else if kind = .rateCheck ∧ machine.rateResults rate ≠ .pending then (.wrongRateOrder, machine)
  else if kind = .full ∧ machine.rateResults rate ≠ .accepted then (.rateNotQualified, machine)
  else (.ok, run)

/-- The end of `finishRun` -/
def endRun (machine : CampaignStateMachine) : CampaignStateMachine :=
  { machine with activeRunKind := .none, state := .ready }

/-- `finishRun` -/
def finishRun (machine : CampaignStateMachine) (outcome : RunOutcome) (reason : UnsupportedReason) :
    CampaignStatus × CampaignStateMachine :=
  let result value :=
    { machine with rateResults := Function.update machine.rateResults machine.activeRate value }
  if machine.state ≠ .running then (.invalidState, machine)
  else
    match machine.activeRunKind, outcome with
    | .rateCheck, .accepted => (.ok, (result .accepted).endRun)
    | .rateCheck, .unsupported =>
        if machine.activeRate = .hz1000 then (.mandatoryRateUnsupported, machine.endRun)
        else if reason = .none then (.invalidArgument, machine)
        else (.ok, (result .unsupported).endRun)
    | .full, .accepted =>
        (.ok,
          { machine with
            fullCompleted := Function.update machine.fullCompleted machine.activeRate true }.endRun)
    | _, _ => (.ok, machine.endRun)

/-- `allRateChecksResolved` -/
def allRateChecksResolved (machine : CampaignStateMachine) : Bool :=
  machine.rateResults .hz1000 ≠ .pending

/-- `completeStage` -/
def completeStage (machine : CampaignStateMachine) : CampaignStatus × CampaignStateMachine :=
  if machine.state ≠ .ready ∨ !machine.allRateChecksResolved ∨ !machine.fullCompleted .hz1000 then
    (.invalidState, machine)
  else
    let machine :=
      { machine with completedStageMask := machine.completedStageMask ||| stageBit machine.stage }
    match machine.stage with
    | .fv =>
        (.ok, { { machine with stage := .fhPositive }.resetStageRuns with
          state := .awaitingStageConfirmation })
    | .fhPositive =>
        (.ok, { { machine with stage := .fhNegative }.resetStageRuns with
          state := .awaitingStageConfirmation })
    | .fhNegative => (.ok, { machine with state := .awaitingM0Handoff })
    | .m0 => (.ok, { machine with state := .completed })
    | .none => (.wrongStage, machine)

/-- The handoff of the session -/
def handoff (machine : CampaignStateMachine) : M0Handoff :=
  let handoff : M0Handoff :=
    { sessionId := machine.sessionId
      profileSeed := machine.profileSeed
      completedStageMask := machine.completedStageMask }
  { handoff with checksum := computeHandoffChecksum handoff }

/-- `prepareM0`; when it returns `Ok`, it has written `handoff`. -/
def prepareM0 (machine : CampaignStateMachine) : CampaignStatus × CampaignStateMachine :=
  if machine.state ≠ .awaitingM0Handoff ∨ machine.stage ≠ .fhNegative then (.invalidState, machine)
  else (.ok, { machine with state := .powerCycleRequired })

/-- `resumeM0`, with a handoff -/
def resumeM0 (machine : CampaignStateMachine) (handoff : M0Handoff) (resetKind : ResetKind)
    (rtcCookieSurvived : Bool) : CampaignStatus × CampaignStateMachine :=
  if machine.state ≠ .idle then (.invalidState, machine)
  else if !validateHandoff handoff then (.invalidHandoff, machine)
  else if resetKind ≠ .powerOn then (.powerCycleRequired, machine)
  else if rtcCookieSurvived then (.coldPowerCycleNotProven, machine)
  else
    (.ok,
      { { machine with
          sessionId := handoff.sessionId
          profileSeed := handoff.profileSeed
          completedStageMask := handoff.completedStageMask
          stage := .m0 }.resetStageRuns with
        state := .awaitingM0Confirmation })

/-- `resumeM0`, with the confirmation of the operator -/
def confirmM0 (machine : CampaignStateMachine) (confirmedSessionId : SessionId)
    (literalFinRemoved : Option String) : CampaignStatus × CampaignStateMachine :=
  if machine.state ≠ .awaitingM0Confirmation then (.invalidState, machine)
  else if confirmedSessionId ≠ machine.sessionId then (.sessionIdMismatch, machine)
  else if literalFinRemoved ≠ some "FIN_REMOVED" then (.finRemovalConfirmationRequired, machine)
  else (.ok, { machine with state := .ready })

/-- `fault` -/
def fault (machine : CampaignStateMachine) : CampaignStateMachine :=
  { machine with state := .faulted }

/-- `isKnownStage(stage_)` and the state -/
def canArmMotor (machine : CampaignStateMachine) : Bool :=
  machine.state = .ready && isKnownStage machine.stage

end CampaignStateMachine

end MissionBoard.Characterization
