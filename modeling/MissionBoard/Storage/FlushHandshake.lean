import MissionBoard.Storage.SdFlightLog

/-!
Owns the liveness of a flush of `SdFlightLog`: when the task that requested it, and that
waits without a timeout, can be left waiting.
-/

namespace MissionBoard.Storage.SdFlightLog

/-- The task waits for an acknowledgement that nobody is going to give. -/
structure Hangs (log : SdFlightLog) : Prop where
  waits : ∃ purpose, log.producer = .awaiting purpose
  requested : log.flushRequested = false
  given : log.flushAck = false
  acknowledging : log.writer ≠ .acknowledging
  serving : log.writer.serving = false

/-- The task drains old acknowledgements. -/
def drains (log : SdFlightLog) : Bool :=
  match log.producer with
  | .draining _ => true
  | _ => false

/-- The writer gives no acknowledgement while the task still drains old ones. -/
def acknowledgesLate (log : SdFlightLog) : StagingStep → Prop
  | .writer _ => log.writer = .acknowledging → log.drains = false
  | _ => True

instance (log : SdFlightLog) : DecidablePred log.acknowledgesLate
  | .writer _ => inferInstanceAs (Decidable (_ → _))
  | .append _ | .flush | .read _ _ | .close | .producer _ => .isTrue trivial

/-! ### A task that hangs -/

/-- Nothing that happens wakes the task. -/
theorem Hangs.step {log : SdFlightLog} (hangs : log.Hangs) (label : StagingStep) :
    (log.step label).Hangs := by
  obtain ⟨purpose, stands⟩ := hangs.waits
  have busy : log.producer ≠ .idle := by
    rw [stands]
    nofun
  cases label with
  | append | flush | read | close =>
      unfold SdFlightLog.step
      dsimp only
      rw [if_neg busy]
      exact hangs
  | producer answer =>
      have same : log.producerStep answer = log := by
        unfold producerStep
        rw [stands]
        dsimp only
        rw [if_neg (by rw [hangs.given]; decide)]
      show (log.producerStep answer).Hangs
      rw [same]
      exact hangs
  | writer answer =>
      show (log.writerStep answer).Hangs
      rcases log.writerStep_request answer with kept | clears | acknowledges
      · refine ⟨⟨purpose, ?_⟩, ?_, ?_, kept.after, ?_⟩
        · rw [(log.writerStep_only answer).producer, stands]
        · rw [kept.requested, hangs.requested]
        · rw [kept.acknowledged, hangs.given]
        · by_contra serves
          rcases kept.serves (by simpa using serves) with before | flag
          · rw [hangs.serving] at before
            cases before
          · rw [hangs.requested] at flag
            cases flag
      · have serves := hangs.serving
        rw [clears] at serves
        cases serves
      · exact absurd acknowledges hangs.acknowledging

theorem Hangs.after {log : SdFlightLog} (hangs : log.Hangs) (labels : List StagingStep) :
    (Run.after SdFlightLog.step log labels).Hangs :=
  Run.invariant_after (fun _ label hangs _ => hangs.step label) hangs
    (Run.along_of_forall (fun _ _ => trivial) log labels)

theorem draining_of_drains {log : SdFlightLog} (drains : log.drains = true) :
    ∃ purpose, log.producer = .draining purpose := by
  cases stands : log.producer with
  | draining purpose => exact ⟨purpose, rfl⟩
  | _ =>
      rw [SdFlightLog.drains, stands] at drains
      cases drains

/-- An acknowledgement that comes too early is drained, and the task hangs. -/
theorem hangs_of_early {log : SdFlightLog} (handshake : log.Handshake) {label : StagingStep}
    (early : ¬ log.acknowledgesLate label) (answer : IoAnswer) :
    (Run.after step (log.step label) [.producer answer, .producer answer]).Hangs := by
  cases label with
  | append | flush | read | close | producer => exact absurd trivial early
  | writer last =>
      obtain ⟨acknowledges, drains⟩ := Classical.not_imp.mp early
      have few := handshake.few
      obtain ⟨purpose, stands⟩ := draining_of_drains (by simpa using drains)
      have requested : log.flushRequested = false := by
        cases flag : log.flushRequested with
        | false => rfl
        | true =>
            simp only [outstanding, acknowledges, stands, flag, Producer.requesting, if_true,
              Bool.toNat_true] at few
            omega
      have given : log.step (.writer last) =
          { log with flushAck := true, writer := .checkingStop } :=
        writerStep_acknowledging acknowledges last
      have drained : (log.step (.writer last)).step (.producer answer) =
          { log with flushAck := false, writer := .checkingStop } := by
        rw [given]
        exact @producerStep_drains { log with flushAck := true, writer := .checkingStop } purpose
          stands rfl answer
      have waits : { log with flushAck := false, writer := .checkingStop }.producerStep answer =
          { log with
            flushAck := false, writer := .checkingStop, producer := .awaiting purpose } :=
        @producerStep_awaits { log with flushAck := false, writer := .checkingStop } purpose stands
          rfl answer
      rw [Run.after_cons, Run.after_cons, Run.after_nil, drained]
      show (SdFlightLog.producerStep _ answer).Hangs
      rw [waits]
      exact ⟨⟨purpose, rfl⟩, requested, rfl, Writer.noConfusion, rfl⟩

/-! ### A task that does not -/

/-- The request of the waiting task is on its way, and no acknowledgement came too early. -/
structure Answered (log : SdFlightLog) : Prop where
  handshake : log.Handshake
  exactly : log.outstanding = log.producer.requesting.toNat
  fresh : log.drains = true → log.flushAck = false

theorem Answered.not_hangs {log : SdFlightLog} (answered : log.Answered) : ¬ log.Hangs := by
  rintro ⟨⟨purpose, stands⟩, requested, given, acknowledging, -⟩
  have exactly := answered.exactly
  rw [outstanding, requested, given, if_neg acknowledging, stands] at exactly
  cases exactly

theorem Answered.of_keeps {log next : SdFlightLog} (answered : log.Answered)
    (keeps : KeepsFlags log next) (fresh : next.drains = true → log.drains = true) :
    next.Answered := by
  refine ⟨answered.handshake.of_keeps keeps, ?_, fun drains => ?_⟩
  · have exactly := answered.exactly
    unfold outstanding at exactly ⊢
    rw [keeps.requested, keeps.acknowledged, keeps.writer, keeps.requesting]
    exact exactly
  · rw [keeps.acknowledged]
    exact answered.fresh (fresh drains)

theorem Answered.writerStep {log : SdFlightLog} (answered : log.Answered) {answer : IoAnswer}
    (late : log.acknowledgesLate (.writer answer)) : (log.writerStep answer).Answered := by
  have handshake := answered.handshake.writerStep answer
  have exactly := answered.exactly
  have producer := (log.writerStep_only answer).producer
  have drains : (log.writerStep answer).drains = log.drains := by
    unfold SdFlightLog.drains
    rw [producer]
  rcases log.writerStep_request answer with kept | clears | acknowledges
  · refine ⟨handshake, ?_, fun drained => ?_⟩
    · unfold outstanding at exactly ⊢
      rw [producer, kept.requested, kept.acknowledged, if_neg kept.after, ← exactly,
        if_neg kept.before]
    · rw [kept.acknowledged]
      exact answered.fresh (drains ▸ drained)
  · have requested : log.flushRequested = true :=
      answered.handshake.served (by rw [clears]; rfl)
    rw [writerStep_clearing clears] at handshake ⊢
    refine ⟨handshake, ?_, answered.fresh⟩
    unfold outstanding at exactly ⊢
    rw [requested, clears] at exactly
    simpa using exactly
  · rw [writerStep_acknowledging acknowledges] at handshake ⊢
    have most : log.producer.requesting.toNat ≤ 1 := Bool.toNat_le _
    refine ⟨handshake, ?_, fun drained => ?_⟩
    · have few := handshake.few
      unfold outstanding at exactly few ⊢
      rw [if_pos acknowledges] at exactly
      simp only [reduceCtorEq, if_false, Bool.toNat_true] at few ⊢
      omega
    · have notDrained := late acknowledges
      rw [show log.drains = true from drained] at notDrained
      cases notDrained

theorem Answered.requestWriterFlush {log : SdFlightLog} (answered : log.Answered)
    (waits : log.producer.requesting = false) (purpose : FlushFor) :
    (log.requestWriterFlush purpose).Answered := by
  obtain ⟨requested, given, stands, -⟩ := answered.handshake.quiet waits
  have handshake := answered.handshake.requestWriterFlush waits purpose
  unfold SdFlightLog.requestWriterFlush at handshake ⊢
  rw [if_neg (by rw [requested]; decide)] at handshake ⊢
  refine ⟨handshake, ?_, fun _ => given⟩
  simp [outstanding, given, stands, Producer.requesting]

theorem flushed_drains (log : SdFlightLog) (purpose : FlushFor) (result : EspErr) :
    (log.flushed purpose result).drains = false := by
  unfold flushed
  repeat' split
  all_goals rfl

theorem append_drains {log : SdFlightLog} (record : SerializedRecord) :
    (log.append record).drains = false := by
  unfold append
  repeat' split
  all_goals rfl

theorem Answered.producerStep {log : SdFlightLog} (answered : log.Answered) (answer : IoAnswer) :
    (log.producerStep answer).Answered := by
  have handshake := answered.handshake.producerStep answer
  have exactly := answered.exactly
  cases stands : log.producer with
  | draining purpose =>
      have fresh : log.flushAck = false := answered.fresh (by rw [SdFlightLog.drains, stands])
      rw [producerStep_awaits stands fresh]
      exact answered.of_keeps ⟨rfl, rfl, rfl, by rw [stands]; rfl⟩ nofun
  | awaiting purpose =>
      unfold SdFlightLog.producerStep at handshake ⊢
      rw [stands] at handshake ⊢
      dsimp only at handshake ⊢
      split
      · rename_i given
        rw [if_pos given] at handshake
        refine ⟨handshake, ?_, nofun⟩
        exact Nat.le_zero.mp handshake.few
      · exact answered
  | _ =>
      have waits : log.producer.requesting = false := by rw [stands]; rfl
      have drains : log.drains = false := by rw [SdFlightLog.drains, stands]
      unfold SdFlightLog.producerStep
      rw [stands]
      dsimp only
      repeat' split
      all_goals first
        | exact answered
        | exact answered.of_keeps (flushed_keeps waits _ _) (by rw [flushed_drains]; nofun)
        | exact answered.of_keeps ⟨rfl, rfl, rfl, waits.symm⟩ nofun

theorem Answered.step {log : SdFlightLog} (answered : log.Answered) {label : StagingStep}
    (late : log.acknowledgesLate label) : (log.step label).Answered := by
  cases label with
  | append record =>
      unfold SdFlightLog.step
      dsimp only
      split
      · rename_i stands
        exact answered.of_keeps (append_keeps (requesting_of_idle stands) record)
          (by rw [append_drains]; nofun)
      · exact answered
  | flush | read offset requested | close =>
      unfold SdFlightLog.step
      dsimp only
      split
      · rename_i stands
        exact answered.requestWriterFlush (requesting_of_idle stands) _
      · exact answered
  | producer answer => exact answered.producerStep answer
  | writer answer => exact answered.writerStep late

theorem prepared_answered (capacity : ℕ) (stage : ℕ → SerializedRecord) :
    (prepared capacity stage).Answered :=
  ⟨prepared_handshake capacity stage, rfl, nofun⟩

/-- In a run in which the writer never gives the acknowledgement while the task still drains
old ones, no flush hangs. A step that breaks this leads to a flush that hangs for ever,
whatever happens then. -/
theorem flush_returns {capacity : ℕ} {stage : ℕ → SerializedRecord} {labels : List StagingStep}
    (late : Run.Along step acknowledgesLate (prepared capacity stage) labels) :
    ¬ (Run.after step (prepared capacity stage) labels).Hangs ∧
      ∀ label, ¬ (Run.after step (prepared capacity stage) labels).acknowledgesLate label →
        ∃ more, ∀ rest, (Run.after step (prepared capacity stage)
          (labels ++ label :: more ++ rest)).Hangs := by
  have answered : (Run.after step (prepared capacity stage) labels).Answered :=
    Run.invariant_after (fun _ _ answered late => answered.step late)
      (prepared_answered capacity stage) late
  refine ⟨answered.not_hangs, fun label early => ?_⟩
  have hangs := hangs_of_early answered.handshake early (.succeeds 0)
  refine ⟨[.producer (.succeeds 0), .producer (.succeeds 0)], fun rest => ?_⟩
  rw [Run.after_append, Run.after_append, Run.after_cons]
  exact hangs.after rest

/-- One flush, which the writer finds when it wakes by itself, and acknowledges once the task
waits -/
def flushedInTime : List StagingStep :=
  .flush :: List.replicate 6 (.writer (.succeeds 0)) ++
    [.producer (.succeeds 0), .writer (.succeeds 0), .writer (.succeeds 0)]

theorem flush_returns_inTime :
    ¬ (Run.after step (prepared kWriteBatchRecords fun _ => emptyRecord) flushedInTime).Hangs :=
  (flush_returns (by decide)).1

/-- The writer acknowledges the flush before the task has drained old acknowledgements. -/
theorem hangs_of_flush :
    ∃ labels, (Run.after step (prepared kWriteBatchRecords fun _ => emptyRecord) labels).Hangs :=
  ⟨.flush :: List.replicate 8 (.writer (.succeeds 0)) ++
      List.replicate 2 (.producer (.succeeds 0)),
    ⟨.flush, rfl⟩, rfl, rfl, nofun, rfl⟩

end MissionBoard.Storage.SdFlightLog
