import MissionBoard.Runtime.FlightRun

/-!
Owns the way of an emergency frame to its effect: `canTask`, which sends it to
`emergency_queue` or leaves it in a latch when the queue is full, and the block at the top
of `missionRealtimeTask` that takes both.

The block works on the command pipeline. Between any two of its points the other tasks may
take any step of theirs, and while `missionRealtimeTask` is elsewhere it may take any step
of its own.
-/

namespace MissionBoard.Runtime

open Protocol Control Mission

/-- `EmergencyEnvelope` -/
structure EmergencyEnvelope where
  transactionId : UInt8 := 0
  liftoffDetection : Bool := false
deriving DecidableEq

/-- `EmergencyLatch`: the transaction signalled last, until it is taken. -/
structure EmergencyLatch where
  pending : Option UInt8 := none
deriving DecidableEq

namespace EmergencyLatch

/-- `signal`; a transaction that still pends is replaced. -/
def signal (_ : EmergencyLatch) (transactionId : UInt8) : EmergencyLatch := ⟨some transactionId⟩

/-- What `missionRealtimeTask` makes of a pending latch. -/
def envelopes (latch : EmergencyLatch) (liftoffDetection : Bool) : List EmergencyEnvelope :=
  (latch.pending.map fun transactionId => ⟨transactionId, liftoffDetection⟩).toList

theorem mem_envelopes_signal {latch : EmergencyLatch} {transactionId : UInt8}
    {liftoffDetection : Bool} {envelope : EmergencyEnvelope} :
    envelope ∈ (latch.signal transactionId).envelopes liftoffDetection ↔
      envelope = ⟨transactionId, liftoffDetection⟩ := by
  simp [signal, envelopes]

theorem mem_envelopes_of_pending {latch : EmergencyLatch} {transactionId : UInt8}
    (pending : latch.pending = some transactionId) {liftoffDetection : Bool}
    {envelope : EmergencyEnvelope} :
    envelope ∈ latch.envelopes liftoffDetection ↔
      envelope = ⟨transactionId, liftoffDetection⟩ := by
  simp [envelopes, pending]

theorem envelopes_empty (liftoffDetection : Bool) :
    ({} : EmergencyLatch).envelopes liftoffDetection = [] := rfl

theorem liftoffDetection_of_mem_envelopes {latch : EmergencyLatch} {liftoffDetection : Bool}
    {envelope : EmergencyEnvelope} (within : envelope ∈ latch.envelopes liftoffDetection) :
    envelope.liftoffDetection = liftoffDetection := by
  obtain ⟨transactionId, -, rfl⟩ := Option.map_eq_some_iff.mp (Option.mem_toList.mp within)
  rfl

end EmergencyLatch

/-- Where `missionRealtimeTask` stands with respect to its emergency block. -/
inductive EmergencyPhase where
  /-- In the rest of its iteration. -/
  | elsewhere
  /-- Before `emergency_queue` is read. -/
  | receiving
  /-- Before the mutexes are tried. -/
  | holding (envelope : EmergencyEnvelope)
  /-- Before the effects of an accepted actuator emergency stop. -/
  | applying (decision : EmergencyDecision)
  /-- Before `liftoff_emergency_latch` is taken. -/
  | takingLiftoff
  /-- Before what the latch held goes to the queue. -/
  | restoringLiftoff (transactionId : UInt8)
  /-- Before `actuator_emergency_latch` is taken. -/
  | takingActuator
  /-- Before what the latch held goes to the queue. -/
  | restoringActuator (transactionId : UInt8)
  /-- Before the outputs are stopped for the latch. -/
  | stopping
deriving DecidableEq

namespace EmergencyPhase

/-- The envelope in the hands of `missionRealtimeTask`. -/
def inHand : EmergencyPhase → List EmergencyEnvelope
  | .holding envelope => [envelope]
  | .restoringLiftoff transactionId => [⟨transactionId, true⟩]
  | .restoringActuator transactionId => [⟨transactionId, false⟩]
  | _ => []

/-- The block is bound to stop the outputs. -/
def boundToStop : EmergencyPhase → Bool
  | .applying _ | .restoringActuator _ | .stopping => true
  | _ => false

end EmergencyPhase

/-- What the log keeps. -/
inductive StopEvent where
  /-- A frame of an actuator emergency stop with a transaction arrives in command receive. -/
  | arrived
  /-- `actuator_output_inhibited` is set and the motor coasts; an accepted stop also frees
  the fin. -/
  | stopped (state : MissionState) (finFreed : Bool)
  /-- The machine leaves command receive. -/
  | left
deriving DecidableEq

/-- The pipeline with the two queues of an emergency in front of it. -/
structure EmergencyFrames where
  pipeline : CommandPipeline
  phase : EmergencyPhase := .elsewhere
  emergencyQueue : BoundedQueue EmergencyEnvelope 16 := .empty
  actuatorLatch : EmergencyLatch := {}
  liftoffLatch : EmergencyLatch := {}
  /-- The envelope `canTask` could not send and has not signalled yet. -/
  overflowing : Option EmergencyEnvelope := none
  log : List StopEvent := []

/-- A step that concerns emergencies, or any step of another part of the pipeline. -/
inductive FrameLabel where
  | frame (envelope : EmergencyEnvelope) (takesExecutor : Bool := true)
  | signal
  | emergency (takesExecutor takesState : Bool)
  | task (label : CommandLabel)
deriving DecidableEq

/-- The step belongs to the emergency block, which has its own labels. -/
def RealtimeStep.isEmergency : RealtimeStep → Bool
  | .actuatorEmergency _ _ | .signalEmergency | .liftoffEmergency _ _ => true
  | _ => false

namespace EmergencyFrames

/-- The mission state. -/
def state (frames : EmergencyFrames) : MissionState := frames.pipeline.machine.snapshot.state

/-- The log with one more event. -/
def record (frames : EmergencyFrames) (event : StopEvent) : EmergencyFrames :=
  { frames with log := frames.log ++ [event] }

/-! ### `canTask` -/

/-- The result of a frame without a transaction. -/
def refusal (frames : EmergencyFrames) (envelope : EmergencyEnvelope) (takesExecutor : Bool) :
    CommandResult :=
  if envelope.liftoffDetection then
    CommandExecutor.liftoffEmergencyResult envelope.transactionId false
  else if takesExecutor then
    (frames.pipeline.executor.actuatorEmergency envelope.transactionId .unknown).1.result
  else
    { transactionId := envelope.transactionId
      command := CommandCode.actuatorEmergencyResult.raw
      phase := .rejected
      reason := .busy
      detail := 0 }

/-- The send of `latchPhysicalEmergency`. -/
def sendFrame (frames : EmergencyFrames) (envelope : EmergencyEnvelope) : EmergencyFrames :=
  match frames.emergencyQueue.sendToFront envelope with
  | some queue => { frames with emergencyQueue := queue }
  | none => { frames with overflowing := some envelope }

/-- A frame. While the task still signals a latch it decodes none. -/
def takeFrame (frames : EmergencyFrames) (envelope : EmergencyEnvelope) (takesExecutor : Bool) :
    EmergencyFrames :=
  if frames.overflowing.isSome then frames
  else if envelope.transactionId = 0 then
    { frames with
      pipeline :=
        frames.pipeline.record (.emergencyAnswered (frames.refusal envelope takesExecutor)) }
  else
    let sent := frames.sendFrame envelope
    if envelope.liftoffDetection = false ∧ frames.state = .commandReceive then
      sent.record .arrived
    else sent

/-- The signal of `latchPhysicalEmergency`. -/
def signalLatch (frames : EmergencyFrames) : EmergencyFrames :=
  match frames.overflowing with
  | none => frames
  | some envelope =>
      if envelope.liftoffDetection then
        { frames with
          overflowing := none
          liftoffLatch := frames.liftoffLatch.signal envelope.transactionId }
      else
        { frames with
          overflowing := none
          actuatorLatch := frames.actuatorLatch.signal envelope.transactionId }

/-! ### The emergency block -/

/-- The outputs stop. -/
def stop (frames : EmergencyFrames) (stopped : CommandPipeline) (finFreed : Bool) :
    EmergencyFrames :=
  { frames with pipeline := stopped }.record (.stopped frames.state finFreed)

/-- The answer to an envelope once both mutexes are taken. -/
def answer (frames : EmergencyFrames) (envelope : EmergencyEnvelope) : EmergencyFrames :=
  if envelope.liftoffDetection then
    { frames with
      pipeline := frames.pipeline.liftoffEmergency envelope.transactionId true
      phase := .receiving }
  else
    let decided := frames.pipeline.decideEmergency envelope.transactionId true
    { frames with
      pipeline := decided
      phase :=
        match decided.realtime.applying with
        | some decision => .applying decision
        | none => .receiving }

/-- One step of the emergency block. -/
def stepEmergency (frames : EmergencyFrames) (takesExecutor takesState : Bool) :
    EmergencyFrames :=
  match frames.phase with
  | .elsewhere => { frames with phase := .receiving }
  | .receiving =>
      match frames.emergencyQueue.receive with
      | none => { frames with phase := .takingLiftoff }
      | some (envelope, rest) =>
          { frames with emergencyQueue := rest, phase := .holding envelope }
  | .holding envelope =>
      if takesExecutor && takesState then frames.answer envelope
      else
        { frames with
          emergencyQueue := frames.emergencyQueue.offerFront envelope
          phase := .takingLiftoff }
  | .applying decision =>
      { frames.stop (frames.pipeline.applyEmergency decision) true with phase := .receiving }
  | .takingLiftoff =>
      match frames.liftoffLatch.pending with
      | none => { frames with phase := .takingActuator }
      | some transactionId =>
          { frames with liftoffLatch := {}, phase := .restoringLiftoff transactionId }
  | .restoringLiftoff transactionId =>
      match frames.emergencyQueue.sendToFront ⟨transactionId, true⟩ with
      | some queue => { frames with emergencyQueue := queue, phase := .takingActuator }
      | none =>
          { frames with
            liftoffLatch := frames.liftoffLatch.signal transactionId
            phase := .takingActuator }
  | .takingActuator =>
      match frames.actuatorLatch.pending with
      | none => { frames with phase := .elsewhere }
      | some transactionId =>
          { frames with actuatorLatch := {}, phase := .restoringActuator transactionId }
  | .restoringActuator transactionId =>
      match frames.emergencyQueue.sendToFront ⟨transactionId, false⟩ with
      | some queue => { frames with emergencyQueue := queue, phase := .stopping }
      | none =>
          { frames with
            actuatorLatch := frames.actuatorLatch.signal transactionId
            phase := .stopping }
  | .stopping => { frames.stop frames.pipeline.signalEmergency false with phase := .elsewhere }

/-! ### The interleaving -/

/-- A step of the pipeline, and whether the machine leaves command receive by it. -/
def perform (frames : EmergencyFrames) (label : CommandLabel) : EmergencyFrames :=
  let next := { frames with pipeline := frames.pipeline.step label }
  if frames.state = .commandReceive ∧ next.state ≠ .commandReceive then next.record .left
  else next

/-- The step may be taken where `missionRealtimeTask` stands. -/
def admits (frames : EmergencyFrames) : CommandLabel → Bool
  | .applyEmergency => false
  | .realtime step => decide (frames.phase = .elsewhere) && !step.isEmergency
  | _ => true

/-- One step. -/
def step (frames : EmergencyFrames) : FrameLabel → EmergencyFrames
  | .frame envelope takesExecutor => frames.takeFrame envelope takesExecutor
  | .signal => frames.signalLatch
  | .emergency takesExecutor takesState => frames.stepEmergency takesExecutor takesState
  | .task label => if frames.admits label then frames.perform label else frames

/-! ### What is under way -/

/-- Every envelope between its frame and its answer. -/
def underWay (frames : EmergencyFrames) : List EmergencyEnvelope :=
  frames.emergencyQueue.items ++ frames.overflowing.toList ++ frames.phase.inHand ++
    frames.liftoffLatch.envelopes true ++ frames.actuatorLatch.envelopes false

theorem mem_underWay {frames : EmergencyFrames} {envelope : EmergencyEnvelope} :
    envelope ∈ frames.underWay ↔
      envelope ∈ frames.emergencyQueue.items ∨ envelope ∈ frames.overflowing.toList ∨
        envelope ∈ frames.phase.inHand ∨ envelope ∈ frames.liftoffLatch.envelopes true ∨
          envelope ∈ frames.actuatorLatch.envelopes false := by
  simp [underWay]

@[simp] theorem sendFrame_state (frames : EmergencyFrames) (envelope : EmergencyEnvelope) :
    (frames.sendFrame envelope).state = frames.state := by
  unfold sendFrame; split <;> rfl

@[simp] theorem sendFrame_log (frames : EmergencyFrames) (envelope : EmergencyEnvelope) :
    (frames.sendFrame envelope).log = frames.log := by
  unfold sendFrame; split <;> rfl

@[simp] theorem sendFrame_phase (frames : EmergencyFrames) (envelope : EmergencyEnvelope) :
    (frames.sendFrame envelope).phase = frames.phase := by
  unfold sendFrame; split <;> rfl

/-- A frame that `canTask` is free to take is under way, in the queue or in its hands. -/
theorem mem_underWay_sendFrame {frames : EmergencyFrames} (idle : frames.overflowing = none)
    (envelope other : EmergencyEnvelope) :
    other ∈ (frames.sendFrame envelope).underWay ↔
      other = envelope ∨ other ∈ frames.underWay := by
  unfold sendFrame
  rw [mem_underWay, mem_underWay, idle]
  split
  · rename_i queue sent
    rw [BoundedQueue.items_sendToFront sent]
    simp [or_assoc]
  · simp
    tauto

@[simp] theorem signalLatch_state (frames : EmergencyFrames) :
    frames.signalLatch.state = frames.state := by
  unfold signalLatch
  split
  · rfl
  · split <;> rfl

@[simp] theorem signalLatch_log (frames : EmergencyFrames) :
    frames.signalLatch.log = frames.log := by
  unfold signalLatch
  split
  · rfl
  · split <;> rfl

@[simp] theorem signalLatch_phase (frames : EmergencyFrames) :
    frames.signalLatch.phase = frames.phase := by
  unfold signalLatch
  split
  · rfl
  · split <;> rfl

/-- A latch takes the envelope over, and may lose the one it has held. -/
theorem mem_underWay_of_signalLatch {frames : EmergencyFrames} {envelope : EmergencyEnvelope}
    (within : envelope ∈ frames.signalLatch.underWay) : envelope ∈ frames.underWay := by
  unfold signalLatch at within
  split at within
  · exact within
  · rename_i taken overflows
    obtain ⟨transactionId, liftoff⟩ := taken
    rw [mem_underWay] at within ⊢
    rw [overflows, Option.toList_some, List.mem_singleton]
    cases liftoff with
    | true =>
        rw [if_pos rfl, EmergencyLatch.mem_envelopes_signal] at within
        dsimp only [Option.toList_none] at within
        tauto
    | false =>
        rw [if_neg nofun, EmergencyLatch.mem_envelopes_signal] at within
        dsimp only [Option.toList_none] at within
        tauto

/-- A stop that a latch loses is replaced by the one it takes over. -/
theorem stop_mem_underWay_signalLatch {frames : EmergencyFrames}
    (stops : ∃ envelope ∈ frames.underWay, envelope.liftoffDetection = false) :
    ∃ envelope ∈ frames.signalLatch.underWay, envelope.liftoffDetection = false := by
  unfold signalLatch
  split
  · exact stops
  · rename_i taken overflows
    obtain ⟨envelope, within, stop⟩ := stops
    obtain ⟨transactionId, liftoff⟩ := taken
    rw [mem_underWay, overflows] at within
    cases liftoff with
    | true =>
        refine ⟨envelope, mem_underWay.mpr ?_, stop⟩
        rw [if_pos rfl]
        rcases within with queued | taken | inHand | latched | pending
        · exact Or.inl queued
        · rw [Option.toList_some, List.mem_singleton] at taken
          rw [taken] at stop
          contradiction
        · exact Or.inr (Or.inr (Or.inl inHand))
        · rw [EmergencyLatch.liftoffDetection_of_mem_envelopes latched] at stop
          contradiction
        · exact Or.inr (Or.inr (Or.inr (Or.inr pending)))
    | false =>
        refine ⟨⟨transactionId, false⟩, mem_underWay.mpr ?_, rfl⟩
        rw [if_neg nofun, EmergencyLatch.mem_envelopes_signal]
        exact Or.inr (Or.inr (Or.inr (Or.inr rfl)))

end EmergencyFrames

end MissionBoard.Runtime
