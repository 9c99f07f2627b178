import MissionBoard.Characterization.EncoderSampler
import MissionBoard.Library.FairSchedule
import MissionBoard.Library.Run

/-!
Owns the handshake of `stop` with the sampler's task: over every order of the steps of the two tasks and
the timer's interrupt, the acknowledgement is given, the task does not read while the encoder is closed,
and it pushes no sample between an acknowledgement and the next start.

The request for an acknowledgement is always in one place: in `stop_waiting_`, with the task that has taken
it, or in the semaphore.
-/

namespace MissionBoard.Characterization

/-! ### The places of the tasks -/

namespace SamplerControl

/-- `stop` has asked for the acknowledgement and has not taken it. -/
def waits : SamplerControl → Bool
  | .notifying | .awaiting => true
  | _ => false

/-- `running_` is false here: it was when `begin` came in, or `stop` has cleared it. -/
def rests : SamplerControl → Bool
  | .idle | .startingTimer | .notStarted | .stopping => false
  | _ => true

/-- Where the control can stand before the task and its semaphore exist -/
def precedesTask : SamplerControl → Bool
  | .idle | .opening | .creatingTask | .creatingAck | .stopping | .stoppingTimer | .closing => true
  | _ => false

end SamplerControl

namespace SamplerPoint

/-- The task acknowledges a stop that it has taken. -/
def acknowledges : SamplerPoint → Bool
  | .draining | .giving => true
  | _ => false

/-- The task is outside a turn, or has not looked at `running_` in it. -/
def quiet : SamplerPoint → Bool
  | .taking | .checking _ | .exchanging | .draining | .giving => true
  | .deciding _ | .refusing | .rechecking | .reading | .failing _ | .pushing _ | .overflowing
  | .finishing => false

/-- The task looks at `running_` or at `stop_waiting_` before it waits for a notification again. -/
def looks : SamplerPoint → Bool
  | .checking _ | .rechecking | .reading | .failing _ | .pushing _ | .overflowing | .finishing
  | .exchanging => true
  | .taking | .deciding _ | .refusing | .draining | .giving => false

end SamplerPoint

namespace EncoderSampler

/-- How many acknowledgements are asked for, being given, or given -/
def outstanding (sampler : EncoderSampler) : ℕ :=
  sampler.stopWaiting.toNat + sampler.point.acknowledges.toNat + sampler.stopAck.toNat

/-- The handshake; `acknowledged` says that an acknowledgement was given and the sampler has not been
started since. -/
structure Handshake (sampler : EncoderSampler) (acknowledged : Bool) : Prop where
  created : (sampler.taskCreated && sampler.ackCreated) = false →
    sampler.control.precedesTask = true ∧ sampler.running = false ∧ sampler.point = .taking ∧
      sampler.notified = 0 ∧ sampler.interrupting = false
  tasked : sampler.control = .creatingAck → sampler.taskCreated = true
  rests : sampler.control.rests = true → sampler.running = false
  token : sampler.outstanding = sampler.control.waits.toNat
  quiet : acknowledged = true → sampler.running = false ∧ sampler.point.quiet = true
  given : sampler.stopAck = true → acknowledged = true
  closing : sampler.control = .closing → sampler.ackCreated = true → sampler.taskCreated = true →
    acknowledged = true
  noticed : sampler.control = .awaiting → sampler.stopWaiting = true →
    0 < sampler.notified ∨ sampler.point.looks = true

end EncoderSampler

/-- What has happened of interest -/
inductive SamplerEvent where
  | begun
  | entered
  | pushed (sample : RawEncoderSample)
  | acknowledged

/-- An acknowledgement was given since the last start. -/
def acknowledgedAfter (acknowledged : Bool) : Option SamplerEvent → Bool
  | some .acknowledged => true
  | some .begun => false
  | _ => acknowledged

namespace EncoderSampler

/-- The event of a step -/
def eventOf (sampler : EncoderSampler) : SamplerStep → Option SamplerEvent
  | .control _ =>
      match sampler.control with
      | .starting => some .begun
      | _ => none
  | .task _ =>
      if sampler.taskCreated then
        match sampler.point with
        | .rechecking => if sampler.running then some .entered else none
        | .pushing sample =>
            if sampler.queue.length < kQueueSamples then some (.pushed sample) else none
        | .giving => some .acknowledged
        | _ => none
      else none
  | _ => none

variable {sampler : EncoderSampler} {acknowledged : Bool} {data : SamplerData}
  {queue : List RawEncoderSample}

/-- The other task may go on where nothing is asked for and nothing is closed. -/
theorem Handshake.goTo (handshake : Handshake sampler acknowledged) {control : SamplerControl}
    (precedes : (sampler.taskCreated && sampler.ackCreated) = false → control.precedesTask = true)
    (tasked : control = .creatingAck → sampler.taskCreated = true)
    (rests : control.rests = true → sampler.running = false)
    (waits : control.waits = sampler.control.waits)
    (closing : control = .closing → sampler.ackCreated = true → sampler.taskCreated = true →
      acknowledged = true)
    (noticed : control = .awaiting → sampler.stopWaiting = true →
      0 < sampler.notified ∨ sampler.point.looks = true) :
    Handshake { sampler with data, queue, control } acknowledged := by
  refine ⟨?_, tasked, rests, ?_, handshake.quiet, handshake.given, closing, noticed⟩
  · intro missing
    exact ⟨precedes missing, (handshake.created missing).2⟩
  · show sampler.outstanding = control.waits.toNat
    rw [waits]
    exact handshake.token

/-- Stopping is always safe. -/
theorem Handshake.clear (handshake : Handshake sampler acknowledged) :
    Handshake { sampler with running := false } acknowledged := by
  refine ⟨?_, handshake.tasked, fun _ => rfl, handshake.token, ?_, handshake.given, handshake.closing,
    handshake.noticed⟩
  · intro missing
    obtain ⟨precedes, -, rest⟩ := handshake.created missing
    exact ⟨precedes, rfl, rest⟩
  · intro acked
    exact ⟨rfl, (handshake.quiet acked).2⟩

/-- The steps of `begin` and `stop` where nothing is asked for -/
theorem Handshake.passes (handshake : Handshake sampler acknowledged) {control : SamplerControl}
    (precedes : (sampler.taskCreated && sampler.ackCreated) = false → control.precedesTask = true)
    (tasked : control = .creatingAck → sampler.taskCreated = true)
    (rests : control.rests = true → sampler.running = false)
    (waits : control.waits = false) (waited : sampler.control.waits = false)
    (closing : control = .closing → (sampler.taskCreated && sampler.ackCreated) = false) :
    Handshake { sampler with data, queue, control } acknowledged := by
  apply handshake.goTo precedes tasked rests (waits.trans waited.symm)
  · intro closes acked hasTask
    simp [acked, hasTask] at closing
    exact absurd closes closing
  · intro awaits
    simp [awaits, SamplerControl.waits] at waits

/-- To `stopping`, from where nothing is asked for -/
theorem Handshake.fails (handshake : Handshake sampler acknowledged)
    (waited : sampler.control.waits = false) :
    Handshake { sampler with control := .stopping } acknowledged := by
  apply handshake.passes <;> simp [SamplerControl.waits, SamplerControl.precedesTask,
    SamplerControl.rests]
  exact waited

/-- Both the task and its semaphore exist wherever a step needs one of them. -/
theorem Handshake.both (handshake : Handshake sampler acknowledged)
    (late : sampler.control.precedesTask = false) :
    (sampler.taskCreated && sampler.ackCreated) = true := by
  by_contra missing
  have precedes := (handshake.created (by simpa using missing)).1
  simp [late] at precedes

/-- Where nothing is asked for, nothing is under way. -/
theorem Handshake.unasked (handshake : Handshake sampler acknowledged)
    (waits : sampler.control.waits = false) :
    sampler.stopWaiting = false ∧ sampler.point.acknowledges = false ∧ sampler.stopAck = false := by
  have token := handshake.token
  simp only [outstanding, waits, Bool.toNat_false, Nat.add_eq_zero_iff, Bool.toNat_eq_zero] at token
  exact ⟨token.1.1, token.1.2, token.2⟩

/-- An acknowledgement in the semaphore is the only one. -/
theorem Handshake.answered (handshake : Handshake sampler acknowledged)
    (acked : sampler.stopAck = true) :
    sampler.stopWaiting = false ∧ sampler.point.acknowledges = false := by
  have token := handshake.token
  have most := Bool.toNat_le sampler.control.waits
  simp only [outstanding, acked, Bool.toNat_true] at token
  have none : sampler.stopWaiting.toNat = 0 ∧ sampler.point.acknowledges.toNat = 0 := by omega
  simpa using none

/-- The task that acknowledges has taken the only request, and the sampler is stopped. -/
theorem Handshake.answering (handshake : Handshake sampler acknowledged)
    (acknowledges : sampler.point.acknowledges = true) :
    sampler.stopWaiting = false ∧ sampler.stopAck = false ∧ sampler.running = false := by
  have token := handshake.token
  have most := Bool.toNat_le sampler.control.waits
  simp only [outstanding, acknowledges, Bool.toNat_true] at token
  have none : sampler.stopWaiting.toNat = 0 ∧ sampler.stopAck.toNat = 0 := by omega
  have waits : sampler.control.waits = true := by
    by_contra idle
    rw [Bool.not_eq_true] at idle
    simp [idle] at token
  have rests : sampler.control.rests = true := by
    cases stands : sampler.control <;> simp_all [SamplerControl.waits, SamplerControl.rests]
  simp only [Bool.toNat_eq_zero] at none
  exact ⟨none.1, none.2, handshake.rests rests⟩

theorem Handshake.controlStep (handshake : Handshake sampler acknowledged) (ok : Bool) :
    Handshake (sampler.controlStep ok)
      (acknowledgedAfter acknowledged (sampler.eventOf (.control ok))) := by
  have created := handshake.created
  have rests := handshake.rests
  have token := handshake.token
  have fails := handshake.fails
  have both := handshake.both
  have unasked := handshake.unasked
  cases stands : sampler.control
  all_goals
    rw [stands] at created rests token fails both unasked
    simp only [EncoderSampler.controlStep, eventOf, stands, acknowledgedAfter]
  case idle => exact handshake
  case opening =>
    split
    · apply handshake.passes <;> simp [stands, SamplerControl.waits, SamplerControl.precedesTask,
        rests rfl]
    · apply handshake.passes <;> simp [stands, SamplerControl.waits, SamplerControl.precedesTask,
        SamplerControl.rests]
  case creatingTask =>
    split
    · rename_i hasTask
      apply handshake.passes <;> simp [stands, hasTask, SamplerControl.waits,
        SamplerControl.precedesTask, rests rfl]
    · rename_i missing
      split
      · have fresh := (created (by simp [missing])).2
        exact ⟨fun _ => ⟨rfl, fresh⟩, fun _ => rfl, fun _ => rests rfl, token, handshake.quiet,
          handshake.given, nofun, nofun⟩
      · exact fails rfl
  case creatingAck =>
    have hasTask := handshake.tasked stands
    split
    · rename_i acked
      apply handshake.passes <;> simp [stands, hasTask, acked, SamplerControl.waits, rests rfl]
    · split
      · exact ⟨by simp [hasTask], nofun, fun _ => rests rfl, token, handshake.quiet,
          handshake.given, nofun, nofun⟩
      · exact fails rfl
  case clearing =>
    exact ⟨by simp [both rfl], nofun, fun _ => rests rfl, token, handshake.quiet, handshake.given,
      nofun, nofun⟩
  case initializingTimer =>
    split
    · apply handshake.passes <;> simp [stands, both rfl, SamplerControl.waits, rests rfl]
    · exact fails rfl
  case starting =>
    exact ⟨by simp [both rfl], nofun, nofun, token, nofun, by simp [unasked rfl], nofun, nofun⟩
  case startingTimer =>
    split
    · apply handshake.passes <;> simp [stands, SamplerControl.waits, SamplerControl.precedesTask,
        SamplerControl.rests]
    · apply handshake.passes <;> simp [stands, both rfl, SamplerControl.waits, SamplerControl.rests]
  case notStarted => exact (fails rfl).clear
  case stopping =>
    apply handshake.clear.passes <;> simp [stands, SamplerControl.waits, SamplerControl.precedesTask]
  case stoppingTimer =>
    split
    · rename_i ready
      apply handshake.passes <;> simp [stands, ready, SamplerControl.waits, rests rfl]
    · rename_i missing
      apply handshake.passes <;> simp [stands, missing, SamplerControl.waits,
        SamplerControl.precedesTask, rests rfl]
  case drainingAck =>
    rw [if_neg (by simp [unasked rfl])]
    apply handshake.passes <;> simp [stands, both rfl, SamplerControl.waits, rests rfl]
  case requesting =>
    refine ⟨by simp [both rfl], nofun, fun _ => rests rfl, ?_, handshake.quiet, handshake.given,
      nofun, nofun⟩
    simp [outstanding, unasked rfl, SamplerControl.waits]
  case notifying =>
    exact ⟨by simp [both rfl], nofun, fun _ => rests rfl, token, handshake.quiet, handshake.given,
      nofun, fun _ _ => .inl (Nat.succ_pos _)⟩
  case awaiting =>
    split
    · rename_i acked
      refine ⟨by simp [both rfl], nofun, fun _ => rests rfl, ?_, handshake.quiet, nofun,
        fun _ _ _ => handshake.given acked, nofun⟩
      simp [outstanding, handshake.answered acked, SamplerControl.waits]
    · exact handshake
  case closing =>
    apply handshake.passes <;> simp [stands, SamplerControl.waits, SamplerControl.precedesTask,
      SamplerControl.rests]

/-- A task that is not waiting for a notification exists, with its semaphore. -/
theorem Handshake.awake (handshake : Handshake sampler acknowledged)
    (busy : sampler.point ≠ .taking) : (sampler.taskCreated && sampler.ackCreated) = true := by
  by_contra missing
  exact busy (handshake.created (by simpa using missing)).2.2.1

/-- The task may go on where it neither takes nor gives an acknowledgement. -/
theorem Handshake.movesTo (handshake : Handshake sampler acknowledged) {point : SamplerPoint}
    (busy : sampler.point ≠ .taking) (acknowledges : point.acknowledges = sampler.point.acknowledges)
    (quiet : acknowledged = true → point.quiet = true)
    (noticed : sampler.control = .awaiting → sampler.stopWaiting = true →
      0 < sampler.notified ∨ point.looks = true) :
    Handshake { sampler with data, queue, point } acknowledged := by
  refine ⟨by simp [handshake.awake busy], handshake.tasked, handshake.rests, ?_,
    fun acked => ⟨(handshake.quiet acked).1, quiet acked⟩, handshake.given, handshake.closing, noticed⟩
  show sampler.stopWaiting.toNat + point.acknowledges.toNat + _ = _
  rw [acknowledges]
  exact handshake.token

/-- Inside a turn nothing is acknowledged. -/
theorem Handshake.unacknowledged (handshake : Handshake sampler acknowledged)
    (busy : sampler.point.quiet = false) : acknowledged = false := by
  by_contra acked
  have quiet := (handshake.quiet (by simpa using acked)).2
  simp [busy] at quiet

/-- Inside a turn the task may go on to where it looks, if it would have looked before. -/
theorem Handshake.turnsTo (handshake : Handshake sampler acknowledged) {point : SamplerPoint}
    (busy : sampler.point.quiet = false) (acknowledges : point.acknowledges = false)
    (looks : sampler.point.looks = true → point.looks = true) :
    Handshake { sampler with data, queue, point } acknowledged := by
  apply handshake.movesTo
  · intro takes
    simp [takes, SamplerPoint.quiet] at busy
  · rw [acknowledges]
    cases stands : sampler.point <;> simp_all [SamplerPoint.quiet, SamplerPoint.acknowledges]
  · intro acked
    simp [handshake.unacknowledged busy] at acked
  · intro awaits asked
    exact (handshake.noticed awaits asked).imp_right looks

theorem Handshake.taskStep (handshake : Handshake sampler acknowledged)
    (hasTask : sampler.taskCreated = true) (input : TaskInput) :
    Handshake (sampler.taskStep input)
      (acknowledgedAfter acknowledged (sampler.eventOf (.task input))) := by
  have awake := handshake.awake
  have noticed := handshake.noticed
  have unacknowledged := handshake.unacknowledged
  have answering := handshake.answering
  have token := handshake.token
  cases stands : sampler.point
  all_goals
    rw [stands] at awake unacknowledged noticed answering
    simp only [EncoderSampler.taskStep, eventOf, stands, if_pos hasTask]
  case taking =>
    split
    · exact handshake
    · rename_i woken
      have both : (sampler.taskCreated && sampler.ackCreated) = true := by
        by_contra missing
        exact woken (handshake.created (by simpa using missing)).2.2.2.1
      refine ⟨by simp [both], handshake.tasked, handshake.rests, ?_, ?_, handshake.given,
        handshake.closing, fun _ _ => .inr rfl⟩
      · simpa [outstanding, stands, SamplerPoint.acknowledges] using token
      · exact fun acked => ⟨(handshake.quiet acked).1, rfl⟩
  case checking notifications =>
    split
    · apply handshake.movesTo <;> simp [stands, SamplerPoint.acknowledges, SamplerPoint.quiet,
        SamplerPoint.looks]
    · rename_i goes
      have running : sampler.running = true := by simp_all
      apply handshake.movesTo
      · simp [stands]
      · simp [stands, SamplerPoint.acknowledges]
      · intro acked
        simp [(handshake.quiet acked).1] at running
      · intro awaits
        have rests := handshake.rests (by simp [awaits, SamplerControl.rests])
        simp [rests] at running
  case deciding notifications =>
    apply handshake.turnsTo
    · simp [stands, SamplerPoint.quiet]
    · split <;> rfl
    · simp [stands, SamplerPoint.looks]
  case refusing =>
    apply handshake.clear.turnsTo <;> simp [stands, SamplerPoint.quiet, SamplerPoint.looks,
      SamplerPoint.acknowledges]
  case rechecking =>
    split
    all_goals
      apply handshake.turnsTo <;> simp [stands, SamplerPoint.quiet, SamplerPoint.looks,
        SamplerPoint.acknowledges]
  case reading =>
    apply handshake.turnsTo
    · simp [stands, SamplerPoint.quiet]
    · split <;> rfl
    · intro; split <;> rfl
  case failing sample =>
    apply handshake.clear.turnsTo <;> simp [stands, SamplerPoint.quiet, SamplerPoint.looks,
      SamplerPoint.acknowledges]
  case pushing sample =>
    split
    all_goals
      apply handshake.turnsTo <;> simp [stands, SamplerPoint.quiet, SamplerPoint.looks,
        SamplerPoint.acknowledges]
  case overflowing =>
    apply handshake.clear.turnsTo <;> simp [stands, SamplerPoint.quiet, SamplerPoint.looks,
      SamplerPoint.acknowledges]
  case finishing =>
    split
    · rename_i running
      apply handshake.movesTo
      · simp [stands]
      · simp [stands, SamplerPoint.acknowledges]
      · exact fun _ => rfl
      · intro awaits
        have rests := handshake.rests (by simp [awaits, SamplerControl.rests])
        simp [rests] at running
    · apply handshake.turnsTo <;> simp [stands, SamplerPoint.quiet, SamplerPoint.looks,
        SamplerPoint.acknowledges]
  case exchanging =>
    split
    · rename_i asked
      refine ⟨by simp [awake nofun], handshake.tasked, handshake.rests, ?_,
        fun acked => ⟨(handshake.quiet acked).1, rfl⟩, handshake.given, handshake.closing, nofun⟩
      rw [← token]
      simp [outstanding, stands, asked, SamplerPoint.acknowledges]
    · rename_i unasked
      apply handshake.movesTo <;> simp [stands, unasked, SamplerPoint.acknowledges,
        SamplerPoint.quiet]
  case draining =>
    have alone := answering rfl
    split
    · apply handshake.movesTo <;> simp [stands, alone, SamplerPoint.acknowledges,
        SamplerPoint.quiet]
    · refine ⟨by simp [awake nofun], handshake.tasked, handshake.rests, ?_,
        fun acked => ⟨(handshake.quiet acked).1, rfl⟩, handshake.given, handshake.closing,
        by simp [alone]⟩
      rw [← token]
      simp [outstanding, stands]
  case giving =>
    have alone := answering rfl
    refine ⟨by simp [awake nofun], handshake.tasked, handshake.rests, ?_, fun _ => ⟨alone.2.2, rfl⟩,
      fun _ => rfl, fun _ _ _ => rfl, by simp [alone]⟩
    rw [← token]
    simp [outstanding, stands, alone, SamplerPoint.acknowledges]

/-- A step of the sampler's task, of `begin` or `stop`, or of the interrupt, keeps the handshake. -/
theorem Handshake.step (handshake : Handshake sampler acknowledged) (step : SamplerStep) :
    Handshake (sampler.step step) (acknowledgedAfter acknowledged (sampler.eventOf step)) := by
  cases step with
  | begins rate epochZeroUs =>
      simp only [EncoderSampler.step, EncoderSampler.begins, eventOf, acknowledgedAfter]
      split
      · rename_i idle
        split
        · exact handshake
        · rename_i stopped
          split
          · exact handshake
          · apply handshake.passes <;> simp [idle, stopped, SamplerControl.waits,
              SamplerControl.precedesTask]
      · exact handshake
  | stops =>
      simp only [EncoderSampler.step, eventOf, acknowledgedAfter]
      split
      · rename_i idle
        exact handshake.fails (by rw [idle]; rfl)
      · exact handshake
  | control ok => exact handshake.controlStep ok
  | task input =>
      by_cases hasTask : sampler.taskCreated = true
      · simpa only [EncoderSampler.step, if_pos hasTask] using handshake.taskStep hasTask input
      · simpa only [EncoderSampler.step, eventOf, if_neg hasTask, acknowledgedAfter] using handshake
  | alarm =>
      simp only [EncoderSampler.step, eventOf, acknowledgedAfter]
      split
      · rename_i fires
        refine ⟨?_, handshake.tasked, handshake.rests, handshake.token, handshake.quiet,
          handshake.given, handshake.closing, handshake.noticed⟩
        intro missing
        simp [(handshake.created missing).2.1] at fires
      · exact handshake
  | notify =>
      simp only [EncoderSampler.step, eventOf, acknowledgedAfter]
      split
      · rename_i interrupting
        refine ⟨?_, handshake.tasked, handshake.rests, handshake.token, handshake.quiet,
          handshake.given, handshake.closing, fun _ _ => .inl (Nat.succ_pos _)⟩
        intro missing
        simp [(handshake.created missing).2.2.2.2] at interrupting
      · exact handshake
  | pop =>
      exact ⟨handshake.created, handshake.tasked, handshake.rests, handshake.token, handshake.quiet,
        handshake.given, handshake.closing, handshake.noticed⟩

/-- Before anything has happened -/
theorem Handshake.fresh : Handshake ({} : EncoderSampler) false :=
  ⟨fun _ => ⟨rfl, rfl, rfl, rfl, rfl⟩, nofun, nofun, rfl, nofun, nofun, nofun, nofun⟩

/-- Only a push lengthens the queue. -/
theorem pushed_of_longer {step : SamplerStep}
    (longer : sampler.queue.length < (sampler.step step).queue.length) :
    ∃ sample, sampler.eventOf step = some (.pushed sample) ∧
      (sampler.step step).queue = sampler.queue ++ [sample] := by
  cases step with
  | begins rate epochZeroUs =>
      simp only [EncoderSampler.step, EncoderSampler.begins] at longer
      split at longer
      · split at longer
        · exact absurd longer (lt_irrefl _)
        · split at longer <;> simp at longer
      · exact absurd longer (lt_irrefl _)
  | stops =>
      simp only [EncoderSampler.step] at longer
      split at longer <;> exact absurd longer (lt_irrefl _)
  | control ok =>
      have same : (sampler.step (.control ok)).queue = sampler.queue := by
        simp only [EncoderSampler.step, EncoderSampler.controlStep]
        repeat' split
        all_goals rfl
      simp [same] at longer
  | task input =>
      by_cases hasTask : sampler.taskCreated = true
      · simp only [EncoderSampler.step, eventOf, if_pos hasTask] at longer ⊢
        cases stands : sampler.point
        case pushing sample =>
          by_cases room : sampler.queue.length < kQueueSamples
          · simp [EncoderSampler.taskStep, stands, room]
          · simp [EncoderSampler.taskStep, stands, room] at longer
        all_goals
          simp only [EncoderSampler.taskStep, stands] at longer
          first
          | exact absurd longer (lt_irrefl _)
          | (split at longer <;> exact absurd longer (lt_irrefl _))
      · simp [EncoderSampler.step, hasTask] at longer
  | alarm =>
      simp only [EncoderSampler.step] at longer
      split at longer <;> exact absurd longer (lt_irrefl _)
  | notify =>
      simp only [EncoderSampler.step] at longer
      split at longer <;> exact absurd longer (lt_irrefl _)
  | pop =>
      simp only [EncoderSampler.step, List.length_tail] at longer
      omega

/-- The task reads and pushes in a turn only. -/
theorem busy_of_event {step : SamplerStep} {event : SamplerEvent}
    (happens : sampler.eventOf step = some event)
    (works : event = .entered ∨ ∃ sample, event = .pushed sample) :
    sampler.point.quiet = false := by
  cases step with
  | control ok =>
      simp only [eventOf] at happens
      split at happens
      · cases happens
        simp at works
      · cases happens
  | task input =>
      simp only [eventOf] at happens
      split at happens
      · split at happens
        · rename_i stands
          rw [stands]
          rfl
        · rename_i stands
          rw [stands]
          rfl
        · cases happens
          simp at works
        · cases happens
      · cases happens
  | _ => cases happens

end EncoderSampler

/-! ### Runs -/

/-- A sampler, with what has happened of interest -/
structure SamplerRun where
  sampler : EncoderSampler := {}
  events : List SamplerEvent := []

namespace SamplerRun

def step (run : SamplerRun) (step : SamplerStep) : SamplerRun where
  sampler := run.sampler.step step
  events := run.events ++ (run.sampler.eventOf step).toList

/-- An acknowledgement was given, and the sampler has not been started since. -/
def acknowledgedIn (events : List SamplerEvent) : Bool :=
  events.foldl (fun acknowledged event => acknowledgedAfter acknowledged (some event)) false

/-- Nothing is read and no sample is pushed after an acknowledgement until the next start. -/
def Silent (before : List SamplerEvent) : SamplerEvent → Prop
  | .entered | .pushed _ => acknowledgedIn before = false
  | _ => True

structure Sound (run : SamplerRun) : Prop where
  handshake : run.sampler.Handshake (acknowledgedIn run.events)
  silent : Trace.Throughout Silent run.events

theorem sound_step {run : SamplerRun} (sound : run.Sound) (label : SamplerStep) :
    (run.step label).Sound := by
  have kept := sound.handshake.step label
  unfold SamplerRun.step
  cases happens : run.sampler.eventOf label with
  | none =>
      rw [happens] at kept
      simp only [Option.toList_none, List.append_nil]
      exact ⟨kept, sound.silent⟩
  | some event =>
      rw [happens] at kept
      simp only [Option.toList_some]
      refine ⟨?_, Trace.throughout_concat sound.silent ?_⟩
      · rw [acknowledgedIn, List.foldl_concat]
        exact kept
      · have unacknowledged := fun works =>
          sound.handshake.unacknowledged (EncoderSampler.busy_of_event happens works)
        cases event with
        | entered => exact unacknowledged (.inl rfl)
        | pushed sample => exact unacknowledged (.inr ⟨sample, rfl⟩)
        | _ => trivial

/-- Every run that starts before the first `begin` is sound. -/
theorem sound_after (labels : List SamplerStep) : (Run.after step {} labels).Sound := by
  have fresh : Sound {} := ⟨EncoderSampler.Handshake.fresh, Trace.throughout_nil _⟩
  have along : Run.Along step (fun _ _ => True) {} labels :=
    Run.along_of_forall (fun _ _ => trivial) _ labels
  exact @Run.invariant_after _ _ step _ Sound (fun _ label sound _ => sound_step sound label) _ fresh
    _ along

end SamplerRun

/-! ### `stop` comes to an end -/

namespace SamplerControl

/-- How far `stop` has to go before it closes the encoder -/
def stopRank : SamplerControl → ℕ
  | .stopping => 6
  | .stoppingTimer => 5
  | .drainingAck => 4
  | .requesting => 3
  | .notifying => 2
  | .awaiting => 1
  | _ => 0

end SamplerControl

namespace SamplerPoint

/-- How far the task has to go before it has acknowledged, while `running_` is false -/
def answerRank : SamplerPoint → ℕ
  | .reading => 8
  | .deciding _ | .failing _ => 7
  | .refusing | .pushing _ => 6
  | .taking | .overflowing => 5
  | .checking _ | .rechecking | .finishing => 4
  | .exchanging => 3
  | .draining => 2
  | .giving => 1

end SamplerPoint

/-- Whose turn a step is -/
inductive SamplerParty where
  | control
  | task

namespace SamplerParty

def turn : SamplerParty → SamplerStep → Prop
  | .control, step => ∃ ok, step = .control ok
  | .task, step => ∃ input, step = .task input

theorem not_turn {party : SamplerParty} {step : SamplerStep} (control : ∀ ok, step ≠ .control ok)
    (task : ∀ input, step ≠ .task input) : ¬ party.turn step := by
  cases party with
  | control => exact fun ⟨ok, same⟩ => control ok same
  | task => exact fun ⟨input, same⟩ => task input same

end SamplerParty

namespace EncoderSampler

/-- What is still to be drained: the notifications that are there, and the one that the interrupt owes -/
def disturbance (sampler : EncoderSampler) : ℕ :=
  (if sampler.notified = 0 then 0 else 1) + if sampler.interrupting then 2 else 0

/-- What is left of `stop` -/
def remaining (sampler : EncoderSampler) : ℕ :=
  12 * sampler.control.stopRank +
    if sampler.control = .awaiting then
      (if sampler.stopAck then 0 else sampler.point.answerRank) + sampler.disturbance
    else 0

/-- Who brings `stop` on -/
def helper (sampler : EncoderSampler) : SamplerParty :=
  if sampler.control = .awaiting ∧ sampler.stopAck = false then .task else .control

variable {sampler : EncoderSampler} {acknowledged : Bool}

theorem disturbance_le (sampler : EncoderSampler) : sampler.disturbance ≤ 3 := by
  unfold disturbance
  split <;> split <;> omega

theorem answerRank_le (point : SamplerPoint) : point.answerRank ≤ 8 := by
  cases point <;> simp [SamplerPoint.answerRank]

/-- A step of `stop` that need not wait brings it nearer to its end. -/
theorem remaining_controlStep (handshake : Handshake sampler acknowledged)
    (stops : 0 < sampler.control.stopRank)
    (answered : sampler.control = .awaiting → sampler.stopAck = true) (ok : Bool) :
    (sampler.controlStep ok).remaining < sampler.remaining ∧
      (0 < (sampler.controlStep ok).control.stopRank ∨
        (sampler.controlStep ok).control = .closing) := by
  have unasked := handshake.unasked
  cases stands : sampler.control
  all_goals rw [stands] at stops answered unasked
  case stopping | requesting =>
    simp [remaining, EncoderSampler.controlStep, stands, SamplerControl.stopRank]
  case stoppingTimer =>
    simp only [remaining, EncoderSampler.controlStep, stands]
    split <;> simp [SamplerControl.stopRank]
  case drainingAck =>
    simp [remaining, EncoderSampler.controlStep, stands, SamplerControl.stopRank, unasked rfl]
  case notifying =>
    have least := answerRank_le sampler.point
    have most := disturbance_le { sampler with notified := sampler.notified + 1, control := .awaiting }
    refine ⟨?_, .inl (by simp [EncoderSampler.controlStep, stands, SamplerControl.stopRank])⟩
    simp only [remaining, EncoderSampler.controlStep, stands, SamplerControl.stopRank, reduceCtorEq,
      if_true, if_false]
    split <;> omega
  case awaiting =>
    simp [remaining, EncoderSampler.controlStep, stands, SamplerControl.stopRank, answered rfl]
  all_goals exact absurd stops (lt_irrefl 0)

/-- While `stop` waits for the acknowledgement, the task's step brings it nearer. -/
theorem remaining_taskStep (handshake : Handshake sampler acknowledged)
    (waits : sampler.control = .awaiting) (unanswered : sampler.stopAck = false)
    (input : TaskInput) : (sampler.taskStep input).remaining < sampler.remaining := by
  have stopped : sampler.running = false := handshake.rests (by rw [waits]; rfl)
  have token := handshake.token
  have noticed := handshake.noticed waits
  simp only [outstanding, waits, unanswered, SamplerControl.waits] at token
  cases stands : sampler.point
  all_goals
    rw [stands] at token noticed
    simp only [SamplerPoint.acknowledges, SamplerPoint.looks] at token noticed
    simp only [remaining, EncoderSampler.taskStep, stands, waits, unanswered, stopped, disturbance]
  case taking =>
    have asked : sampler.stopWaiting = true := by
      cases asks : sampler.stopWaiting <;> simp [asks] at token ⊢
    have woken : sampler.notified ≠ 0 := by
      have either := noticed asked
      simp at either
      omega
    simp only [if_neg woken]
    simp [SamplerPoint.answerRank]
    omega
  case deciding notifications =>
    generalize (sampler.data.wake notifications input.nowUs).1 = decision
    cases decision <;> simp [SamplerPoint.answerRank]
  case reading =>
    by_cases failed : input.outcome.readResult = espOk <;> simp [failed, SamplerPoint.answerRank]
  case pushing sample =>
    split <;> simp [SamplerPoint.answerRank]
  case exchanging =>
    have asked : sampler.stopWaiting = true := by
      cases asks : sampler.stopWaiting <;> simp [asks] at token ⊢
    simp [asked, SamplerPoint.answerRank]
  case draining =>
    split
    · simp [SamplerPoint.answerRank]
    · simp [SamplerPoint.answerRank]
  all_goals simp [SamplerPoint.answerRank]

/-- What the task leaves alone -/
theorem taskStep_frame (sampler : EncoderSampler) (input : TaskInput) :
    (sampler.taskStep input).control = sampler.control ∧
      (sampler.taskStep input).interrupting = sampler.interrupting ∧
      ((sampler.taskStep input).notified = 0 ∨
        (sampler.taskStep input).notified = sampler.notified) ∧
      (sampler.stopAck = true → (sampler.taskStep input).stopAck = true) := by
  unfold EncoderSampler.taskStep
  split
  all_goals try split
  all_goals simp

/-- Once `stop` is answered, the task's step is no hindrance. -/
theorem answered_taskStep (waits : sampler.control = .awaiting) (answered : sampler.stopAck = true)
    (input : TaskInput) : (sampler.taskStep input).remaining ≤ sampler.remaining := by
  obtain ⟨control, interrupting, notified, kept⟩ := taskStep_frame sampler input
  simp only [remaining, disturbance, control, waits, interrupting, answered, kept answered]
  rcases notified with drained | same
  · simp [drained]
  · simp [same]

/-- The interrupt is over once it has notified the task. -/
theorem remaining_notify (interrupting : sampler.interrupting = true) :
    (sampler.step .notify).remaining ≤ sampler.remaining := by
  simp only [EncoderSampler.step, interrupting, if_true, remaining, disturbance]
  split <;> simp

/-- Outside the wait only the place of `stop` counts. -/
theorem remaining_of_elsewhere (elsewhere : sampler.control ≠ .awaiting) :
    sampler.remaining = 12 * sampler.control.stopRank ∧ sampler.helper = .control := by
  simp [remaining, helper, elsewhere]

/-- A step of another party that does not hinder `stop` -/
theorem advances_of_le {next : EncoderSampler} {step : SamplerStep}
    (stops : 0 < sampler.control.stopRank) (control : next.control = sampler.control)
    (remaining : next.remaining ≤ sampler.remaining) (helper : next.helper = sampler.helper)
    (other : ¬ sampler.helper.turn step) :
    (0 < next.control.stopRank ∨ next.control = .closing) ∧
      (next.remaining < sampler.remaining ∨
        (next.remaining = sampler.remaining ∧ next.helper = sampler.helper ∧
          ¬ sampler.helper.turn step)) := by
  rw [control]
  exact ⟨.inl stops, remaining.lt_or_eq.imp_right fun same => ⟨same, helper, other⟩⟩

/-- While `stop` is under way, a step brings it nearer to its end, or leaves it as it is and is no turn of
who brings it on. -/
theorem Handshake.advances (handshake : Handshake sampler acknowledged)
    (stops : 0 < sampler.control.stopRank) (step : SamplerStep) :
    (0 < (sampler.step step).control.stopRank ∨ (sampler.step step).control = .closing) ∧
      ((sampler.step step).remaining < sampler.remaining ∨
        ((sampler.step step).remaining = sampler.remaining ∧
          (sampler.step step).helper = sampler.helper ∧ ¬ sampler.helper.turn step)) := by
  have busy : sampler.control ≠ .idle := by
    intro idle
    rw [idle] at stops
    exact absurd stops (lt_irrefl 0)
  cases step with
  | begins rate epochZeroUs =>
      have stays : sampler.step (.begins rate epochZeroUs) = sampler := if_neg busy
      rw [stays]
      exact advances_of_le stops rfl le_rfl rfl (SamplerParty.not_turn (fun _ => SamplerStep.noConfusion) fun _ => SamplerStep.noConfusion)
  | stops =>
      have stays : sampler.step .stops = sampler := if_neg busy
      rw [stays]
      exact advances_of_le stops rfl le_rfl rfl (SamplerParty.not_turn (fun _ => SamplerStep.noConfusion) fun _ => SamplerStep.noConfusion)
  | control ok =>
      by_cases waits : sampler.control = .awaiting ∧ sampler.stopAck = false
      · have stays : sampler.step (.control ok) = sampler := by
          simp [EncoderSampler.step, EncoderSampler.controlStep, waits]
        rw [stays]
        refine advances_of_le stops rfl le_rfl rfl ?_
        simp [helper, waits, SamplerParty.turn]
      · have answered : sampler.control = .awaiting → sampler.stopAck = true := by
          intro awaits
          simpa [awaits] using waits
        obtain ⟨lower, still⟩ := remaining_controlStep handshake stops answered ok
        exact ⟨still, .inl lower⟩
  | task input =>
      obtain ⟨control, -, -, kept⟩ := taskStep_frame sampler input
      by_cases waits : sampler.control = .awaiting
      · have hasTask : sampler.taskCreated = true := by
          have both := handshake.both (by rw [waits]; rfl)
          simp_all
        simp only [EncoderSampler.step, if_pos hasTask]
        cases answers : sampler.stopAck with
        | false =>
            refine ⟨.inl (control ▸ stops), .inl (remaining_taskStep handshake waits answers input)⟩
        | true =>
            apply advances_of_le stops control (answered_taskStep waits answers input)
            · simp [helper, control, waits, answers, kept answers]
            · simp [helper, waits, answers, SamplerParty.turn]
      · have mine := remaining_of_elsewhere waits
        have other : ¬ sampler.helper.turn (.task input) := by simp [mine.2, SamplerParty.turn]
        simp only [EncoderSampler.step]
        split
        · have its := @remaining_of_elsewhere (sampler.taskStep input) (control ▸ waits)
          refine advances_of_le stops control ?_ (its.2.trans mine.2.symm) other
          rw [its.1, mine.1, control]
        · exact advances_of_le stops rfl le_rfl rfl other
  | alarm =>
      have other : ¬ sampler.helper.turn .alarm := SamplerParty.not_turn (fun _ => SamplerStep.noConfusion) fun _ => SamplerStep.noConfusion
      simp only [EncoderSampler.step]
      split
      · rename_i fires
        have elsewhere : sampler.control ≠ .awaiting := by
          intro waits
          have rests := handshake.rests (by rw [waits]; rfl)
          simp [rests] at fires
        refine advances_of_le stops rfl ?_ rfl other
        simp [remaining, elsewhere]
      · exact advances_of_le stops rfl le_rfl rfl other
  | notify =>
      have other : ¬ sampler.helper.turn .notify := SamplerParty.not_turn (fun _ => SamplerStep.noConfusion) fun _ => SamplerStep.noConfusion
      by_cases interrupting : sampler.interrupting = true
      · have notifies : sampler.step .notify =
            { sampler with interrupting := false, notified := sampler.notified + 1 } :=
          if_pos interrupting
        have nearer := remaining_notify interrupting
        rw [notifies] at nearer ⊢
        exact advances_of_le stops rfl nearer rfl other
      · have stays : sampler.step .notify = sampler := if_neg interrupting
        rw [stays]
        exact advances_of_le stops rfl le_rfl rfl other
  | pop =>
      exact advances_of_le stops rfl le_rfl rfl (SamplerParty.not_turn (fun _ => SamplerStep.noConfusion) fun _ => SamplerStep.noConfusion)

end EncoderSampler

namespace SamplerRun

open FairSchedule (stateAt Often)

/-- If both tasks have their turns, `stop` comes to close the encoder. -/
theorem stop_closes {sampler : EncoderSampler} {acknowledged : Bool}
    (handshake : sampler.Handshake acknowledged) (stops : 0 < sampler.control.stopRank)
    {schedule : ℕ → SamplerStep} (fair : ∀ party : SamplerParty, Often party.turn schedule) :
    ∃ moment, (stateAt EncoderSampler.step sampler schedule moment).control = .closing := by
  obtain ⟨moment, -, closes⟩ := @FairSchedule.reaches _ _ _ _ EncoderSampler.step sampler schedule
    _ _ (fun state => (∃ acknowledged, state.Handshake acknowledged) ∧
      (0 < state.control.stopRank ∨ state.control = .closing))
    (fun state => state.control = .closing) EncoderSampler.remaining EncoderSampler.helper
    SamplerParty.turn fair
    (fun moment under => by
      obtain ⟨⟨acknowledged, handshake⟩, stops | closes⟩ := under
      · obtain ⟨still, nearer⟩ := handshake.advances stops (schedule moment)
        exact .inr ⟨⟨⟨_, handshake.step (schedule moment)⟩, still⟩, nearer⟩
      · exact .inl closes)
    0 ⟨⟨acknowledged, handshake⟩, .inl stops⟩
  exact ⟨moment, closes⟩

/-- In every run: `stop` never waits for an acknowledgement that nobody will give, and it gets to close
the encoder if both tasks have their turns; while it closes the encoder, the task is outside a turn; and
after an acknowledgement the task neither starts to read nor pushes until the sampler is started. Every
sample that comes into the queue is logged as pushed. -/
theorem stop_acknowledged (labels : List SamplerStep) :
    let run := Run.after step {} labels
    let sampler := run.sampler
    (sampler.control = .awaiting → sampler.stopWaiting = false → sampler.stopAck = false →
        sampler.point.acknowledges = true) ∧
      (∀ schedule : ℕ → SamplerStep, (∀ party : SamplerParty, Often party.turn schedule) →
        0 < sampler.control.stopRank →
        ∃ moment, (stateAt EncoderSampler.step sampler schedule moment).control = .closing) ∧
      (sampler.control = .closing → sampler.point.quiet = true) ∧
      Trace.Throughout Silent run.events ∧
      ∀ label, sampler.queue.length < (sampler.step label).queue.length →
        ∃ sample, (run.step label).events = run.events ++ [.pushed sample] := by
  have sound := sound_after labels
  have handshake := sound.handshake
  intro run sampler
  refine ⟨?_, ?_, ?_, sound.silent, ?_⟩
  · intro waits taken empty
    have token := handshake.token
    change sampler.outstanding = sampler.control.waits.toNat at token
    rw [EncoderSampler.outstanding, waits, taken, empty] at token
    simpa [SamplerControl.waits] using token
  · exact fun schedule fair stops => stop_closes handshake stops fair
  · intro closes
    by_cases both : (sampler.taskCreated && sampler.ackCreated) = true
    · have exist := Bool.and_eq_true_iff.mp both
      exact (handshake.quiet (handshake.closing closes exist.2 exist.1)).2
    · have waits : sampler.point = .taking := (handshake.created (by simpa using both)).2.2.1
      rw [waits]
      rfl
  · intro label longer
    obtain ⟨sample, pushes, -⟩ := EncoderSampler.pushed_of_longer longer
    refine ⟨sample, ?_⟩
    show run.events ++ (sampler.eventOf label).toList = _
    rw [pushes]
    rfl

end SamplerRun

end MissionBoard.Characterization
