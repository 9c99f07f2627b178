import MissionBoard.Runtime.FinOutput
import MissionBoard.Runtime.TelemetryForm

/-!
Owns what the ground reads of the fin: a mission status frame, on its way from the iteration of
`missionRealtimeTask` that wrote it through the status queue and `canTask` to its decoder, and the bridge that
the iteration left.
-/

namespace MissionBoard.Runtime

open Actuators Protocol Mission
open Characterization (espOk)

/-! ### The frame of a status -/

/-- A mission status frame has of a status all that it shows of one. -/
structure Carries (status : RuntimeStatus) (message : MissionStatusTelemetry) : Prop where
  state : message.state = status.state
  flightStatus : message.flightStatus = status.flightStatus
  configFlags : message.configFlags = status.configFlags
  finMode : message.finMode = status.finMode
  paraMode : message.paraMode = status.paraMode

/-- `canTask` in a turn: the status it has seen, and its mission status frames, which were there before or
carry that status -/
structure Relays (earlier : List TelemetryFrame) (status : RuntimeStatus) (task : CanTask) : Prop where
  latest : task.latest = status
  packed : ∀ message, ⟨.missionStatusTelemetry, message⟩ ∈ task.packed →
    ⟨.missionStatusTelemetry, message⟩ ∈ earlier ∨ Carries status message

namespace Relays

variable {earlier : List TelemetryFrame} {status : RuntimeStatus} {task : CanTask}

/-- A task that keeps its status and its messages -/
theorem of_eq {next : CanTask} (relays : Relays earlier status task)
    (latest : next.latest = task.latest) (packed : next.packed = task.packed) :
    Relays earlier status next where
  latest := latest.trans relays.latest
  packed := packed ▸ relays.packed

/-- A message of another type -/
theorem pack (relays : Relays earlier status task) (id : CanId) (message : UInt8 → TelemetryFrame)
    (other : ∀ sequence, (message sequence).type ≠ .missionStatusTelemetry) :
    Relays earlier status (task.pack id message) where
  latest := relays.latest
  packed := by
    intro carried within
    rcases List.mem_append.mp within with before | last
    · exact relays.packed carried before
    · have same := List.mem_singleton.mp last
      exact absurd (congrArg TelemetryFrame.type same).symm (other _)

theorem sendRecovery (input : CanInput) :
    Relays task.packed status { task.sendRecovery input with latest := status } where
  latest := rfl
  packed := by
    intro carried within
    rcases List.mem_append.mp within with before | data
    · rcases List.mem_append.mp before with packed | answer
      · exact Or.inl packed
      · obtain ⟨message, -, same⟩ := Option.mem_map.mp (Option.mem_toList.mp answer)
        cases congrArg TelemetryFrame.type same
    · obtain ⟨message, -, same⟩ := Option.mem_map.mp (Option.mem_toList.mp data)
      cases congrArg TelemetryFrame.type same

theorem packKinematics (relays : Relays earlier status task) :
    Relays earlier status task.packKinematics :=
  relays.pack _ _ fun _ same => CanMessageType.noConfusion same

theorem packControl (relays : Relays earlier status task) :
    Relays earlier status task.packControl := by
  unfold CanTask.packControl
  split
  · exact relays.pack _ _ fun _ same => CanMessageType.noConfusion same
  · exact relays

theorem packDescent (relays : Relays earlier status task) (input : CanInput) :
    Relays earlier status (task.packDescent input) := by
  unfold CanTask.packDescent
  split
  · exact relays.pack _ _ fun _ same => CanMessageType.noConfusion same
  · exact relays

theorem packAirspeed (relays : Relays earlier status task) :
    Relays earlier status task.packAirspeed := by
  unfold CanTask.packAirspeed
  split
  · exact relays.pack _ _ fun _ same => CanMessageType.noConfusion same
  · exact relays

theorem sendFast (relays : Relays earlier status task) (input : CanInput) :
    Relays earlier status (task.sendFast input) := by
  unfold CanTask.sendFast
  split
  · apply packAirspeed
    apply packDescent
    apply packControl
    apply packKinematics
    exact relays.of_eq rfl rfl
  · exact relays

theorem sendLps (relays : Relays earlier status task) (input : CanInput) :
    Relays earlier status (task.sendLps input) := by
  unfold CanTask.sendLps
  split
  · have timed : Relays earlier status { task with lastLps := input.now } := relays.of_eq rfl rfl
    dsimp only
    split
    · exact timed.pack _ _ fun _ same => CanMessageType.noConfusion same
    · exact timed
  · exact relays

theorem sendControlRoll (relays : Relays earlier status task) (input : CanInput) :
    Relays earlier status (task.sendControlRoll input) := by
  unfold CanTask.sendControlRoll
  dsimp only
  split
  · have timed : Relays earlier status { task with lastControlRoll := input.now } :=
      relays.of_eq rfl rfl
    -- What the task remembers of a frame that was sent is none of this.
    have remembered : ∀ message, (∀ sequence, (message sequence).type ≠ .missionStatusTelemetry) →
        ∀ captured signature, Relays earlier status
          { ({ task with lastControlRoll := input.now }.pack .controlRollTelemetryV2 message) with
            lastControlRollCaptureEventSequence := captured
            lastControlRollStatusSignature := signature } :=
      fun message other _ _ => (timed.pack _ message other).of_eq rfl rfl
    split
    · exact remembered _ (fun _ same => CanMessageType.noConfusion same) _ _
    · exact timed.pack _ _ fun _ same => CanMessageType.noConfusion same
  · exact relays

/-- The one place where a status goes into its frame -/
theorem packMissionStatus (relays : Relays earlier status task) (input : CanInput) :
    Relays earlier status (task.packMissionStatus input) where
  latest := relays.latest
  packed := by
    intro carried within
    rcases List.mem_append.mp within with before | last
    · exact relays.packed carried before
    · cases List.mem_singleton.mp last
      rw [relays.latest]
      exact Or.inr ⟨rfl, rfl, rfl, rfl, rfl⟩

theorem packPowerTime (relays : Relays earlier status task) (input : CanInput) :
    Relays earlier status (task.packPowerTime input) := by
  unfold CanTask.packPowerTime
  exact relays.pack _ _ fun _ same => CanMessageType.noConfusion same

theorem packTilt (relays : Relays earlier status task) (input : CanInput) :
    Relays earlier status (task.packTilt input) := by
  unfold CanTask.packTilt
  split
  · exact relays.pack _ _ fun _ same => CanMessageType.noConfusion same
  · exact relays

theorem sendStatus (relays : Relays earlier status task) (input : CanInput) :
    Relays earlier status (task.sendStatus input) := by
  unfold CanTask.sendStatus
  split
  · apply packTilt
    apply packPowerTime
    apply packMissionStatus
    exact relays.of_eq rfl rfl
  · exact relays

/-- A turn adds no mission status frame but of the status that it sees. -/
theorem turn (task : CanTask) (status : RuntimeStatus) (input : CanInput) :
    Relays task.packed status (task.turn status input) := by
  apply sendStatus
  apply sendControlRoll
  apply sendLps
  apply sendFast
  exact sendRecovery input

end Relays

/-- A frame that is decoded as a mission status is one, and was packed with the message that is read. -/
theorem TelemetryFrame.InBand.eq_missionStatus {telemetry : TelemetryFrame}
    (inBand : telemetry.InBand) {old message : MissionStatusTelemetry}
    (decoded : CanMessageType.decode .missionStatusTelemetry telemetry.frame old =
      (.none, message)) : telemetry = ⟨.missionStatusTelemetry, message⟩ := by
  have accepted : (missionStatusTelemetry.decode telemetry.frame old).1 = .none :=
    congrArg Prod.fst decoded
  obtain ⟨valid, -, -⟩ := Layout.of_decode accepted
  obtain ⟨identified, -⟩ := Layout.of_validate valid
  obtain ⟨type, payload⟩ := telemetry
  obtain ⟨range, -⟩ := inBand
  cases type with
  | missionStatusTelemetry =>
      have returned := (CanMessageType.codec_exact .missionStatusTelemetry).1 payload old trivial
      have same : payload = message := congrArg Prod.snd (returned.symm.trans decoded)
      rw [same]
  | emergencyStop identifier =>
      rcases range with rfl | rfl
      · cases identified
      · cases identified
  | _ => cases identified
/-! ### The tasks with the motor -/

/-- `status` as an iteration writes it after its output -/
def FinOutput.written (output : FinOutput) (input : OutputInput) : StatusInput :=
  { input.status with
    motorOutputCoasting := output.coasting
    motorOutputBraking := output.braking }

/-- The motor with the tasks that bring its state to the ground -/
structure FinBoard where
  output : FinOutput
  board : TelemetryBoard

/-- A turn of one of the tasks -/
inductive FinLabel where
  | readLps (nowUs : UInt64) (read : LpsRead)
  | readSsc (nowUs : UInt64) (read : SscRead)
  | resetZero
  | realtime (input : OutputInput)
  | can (input : CanInput)

/-- What an iteration of `missionRealtimeTask` reads, when the turn is one -/
def FinLabel.iteration : FinLabel → List OutputInput
  | .realtime input => [input]
  | _ => []

namespace FinBoard

variable (unspecified : Double → ℤ) (answers : ℕ → Int32)

/-- The turn of the telemetry -/
def telemetryLabel (fin : FinBoard) : FinLabel → TelemetryLabel
  | .readLps nowUs read => .readLps nowUs read
  | .readSsc nowUs read => .readSsc nowUs read
  | .resetZero => .resetZero
  | .realtime input => .realtime ((fin.output.iterate answers input).written input)
  | .can input => .can input

def step (fin : FinBoard) (label : FinLabel) : FinBoard where
  output :=
    match label with
    | .realtime input => fin.output.iterate answers input
    | _ => fin.output
  board := fin.board.step unspecified (fin.telemetryLabel answers label)

/-- The tasks have been created, and the motor driver has been initialized. -/
def boot (safeOutputs : Bool) (lastStatus lastFast lastControlRoll lastLps : UInt32) : FinBoard where
  output := FinOutput.start answers safeOutputs
  board := .boot false lastStatus lastFast lastControlRoll lastLps

/-- What the iterations of these turns read -/
def iterations (labels : List FinLabel) : List OutputInput := labels.flatMap FinLabel.iteration

/-! ### Every run of the tasks -/

variable {unspecified answers}
variable {safeOutputs : Bool} {lastStatus lastFast lastControlRoll lastLps : UInt32}

/-- What the iterations until now leave: the motor, and in the status queue the status of the last one, or the
one of the start -/
structure Written (answers : ℕ → Int32) (safeOutputs : Bool) (inputs : List OutputInput)
    (fin : FinBoard) : Prop where
  output : fin.output = FinOutput.reached answers safeOutputs inputs
  started : inputs = [] → fin.board.statusQueue = {}
  last : ∀ before input, inputs = before ++ [input] →
    fin.board.statusQueue.state = input.status.missionSnapshot.state ∧
      fin.board.statusQueue.finMode = ((FinOutput.reached answers safeOutputs before).iterate answers
        input).reportedMode input

theorem Written.realtime {inputs : List OutputInput} {fin : FinBoard}
    (written : Written answers safeOutputs inputs fin) (input : OutputInput) :
    Written answers safeOutputs (inputs ++ [input])
      (fin.step unspecified answers (.realtime input)) where
  output := by
    have iterated : (fin.step unspecified answers (.realtime input)).output =
        fin.output.iterate answers input := rfl
    rw [iterated, written.output]
    exact (Run.after_concat _ _ _ _).symm
  started := fun none => absurd none (List.append_ne_nil_of_right_ne_nil _ (List.cons_ne_nil _ _))
  last := by
    intro before other same
    obtain ⟨rfl, sameInput⟩ := List.append_inj' same rfl
    cases sameInput
    rw [← written.output]
    exact ⟨rfl, rfl⟩

/-- The other turns leave the motor and the status queue. -/
theorem Written.stay {inputs : List OutputInput} {fin : FinBoard}
    (written : Written answers safeOutputs inputs fin) {label : FinLabel}
    (output : (fin.step unspecified answers label).output = fin.output)
    (status : (fin.step unspecified answers label).board.statusQueue = fin.board.statusQueue) :
    Written answers safeOutputs (inputs ++ []) (fin.step unspecified answers label) := by
  rw [List.append_nil]
  refine ⟨output.trans written.output, fun none => status.trans (written.started none), ?_⟩
  rw [status]
  exact written.last

theorem Written.step {inputs : List OutputInput} {fin : FinBoard}
    (written : Written answers safeOutputs inputs fin) (label : FinLabel) :
    Written answers safeOutputs (inputs ++ label.iteration)
      (fin.step unspecified answers label) := by
  cases label with
  | realtime input => exact written.realtime input
  | readLps nowUs read => exact written.stay rfl rfl
  | readSsc nowUs read => exact written.stay rfl rfl
  | resetZero => exact written.stay rfl rfl
  | can input => exact written.stay rfl rfl

theorem written_after (labels : List FinLabel) :
    Written answers safeOutputs (iterations labels) (Run.after (step unspecified answers)
      (boot answers safeOutputs lastStatus lastFast lastControlRoll lastLps) labels) := by
  induction labels using List.reverseRecOn with
  | nil =>
      refine ⟨rfl, fun _ => rfl, fun before input same => ?_⟩
      exact absurd same.symm (List.append_ne_nil_of_right_ne_nil _ (List.cons_ne_nil _ _))
  | append_singleton labels label written =>
      rw [Run.after_concat, iterations, List.flatMap_append, List.flatMap_singleton]
      exact written.step label

/-- A mission status frame carries the status that was in the queue when it was packed. -/
theorem packed_at {message : MissionStatusTelemetry} {labels : List FinLabel}
    (packed : ⟨.missionStatusTelemetry, message⟩ ∈ (Run.after (step unspecified answers)
      (boot answers safeOutputs lastStatus lastFast lastControlRoll lastLps)
      labels).board.can.packed) :
    ∃ earlier input later, labels = earlier ++ FinLabel.can input :: later ∧
      Carries (Run.after (step unspecified answers)
        (boot answers safeOutputs lastStatus lastFast lastControlRoll lastLps)
        earlier).board.statusQueue message := by
  induction labels using List.reverseRecOn with
  | nil => exact absurd packed List.not_mem_nil
  | append_singleton labels label inductionHypothesis =>
      rw [Run.after_concat] at packed
      -- Only a turn of `canTask` packs; any other frame was there before.
      have before : ⟨.missionStatusTelemetry, message⟩ ∈ (Run.after (step unspecified answers)
          (boot answers safeOutputs lastStatus lastFast lastControlRoll lastLps)
          labels).board.can.packed →
          ∃ earlier input later, labels ++ [label] = earlier ++ FinLabel.can input :: later ∧
            Carries (Run.after (step unspecified answers)
              (boot answers safeOutputs lastStatus lastFast lastControlRoll lastLps)
              earlier).board.statusQueue message := by
        intro within
        obtain ⟨earlier, input, later, split, carries⟩ := inductionHypothesis within
        refine ⟨earlier, input, later ++ [label], ?_, carries⟩
        rw [split, List.append_assoc, List.cons_append]
      cases label with
      | can input =>
          rcases (Relays.turn _ _ input).packed message packed with earlier | carries
          · exact before earlier
          · exact ⟨labels, input, [], rfl, carries⟩
      | readLps nowUs read => exact before packed
      | readSsc nowUs read => exact before packed
      | resetZero => exact before packed
      | realtime input => exact before packed

theorem telemetrySound_after (labels : List FinLabel) :
    TelemetrySound (Run.after (step unspecified answers)
      (boot answers safeOutputs lastStatus lastFast lastControlRoll lastLps) labels).board := by
  have preserved : ∀ (fin : FinBoard) (label : FinLabel), TelemetrySound fin.board → True →
      TelemetrySound (fin.step unspecified answers label).board :=
    fun _ _ sound _ => sound.step _
  exact @Run.invariant_after _ _ _ _ (fun fin : FinBoard => TelemetrySound fin.board) preserved _
    (telemetrySound_boot false _ _ _ _) _ (Run.along_of_forall (fun _ _ => trivial) _ labels)

/-- An iteration that holds the fin, and then a turn of `canTask` -/
def heldRun : List FinLabel := [.realtime FinOutput.heldInput, .can { now := 100 }]

/-- The frames of that turn -/
def heldFrames : List TelemetryFrame :=
  (Run.after (step (fun _ => 0) fun _ => 0) (boot (fun _ => 0) true 0 0 0 0) heldRun).board.can.packed

theorem heldFrames_sent : 4 < heldFrames.length := by decide +kernel

/-- The mission status of that turn -/
def heldMessage : MissionStatusTelemetry where
  flightStatus := 0x0C00
  configFlags := 0x80
  finMode := .zeroHold
  paraMode := .poweredOff
  parachuteAngleRaw := 255

end FinBoard

end MissionBoard.Runtime
