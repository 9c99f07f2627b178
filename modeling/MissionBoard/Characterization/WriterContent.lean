import MissionBoard.Characterization.WriterIndices

/-!
Owns what the two rings of `LogWriterV5` hold: the records that `enqueue` accepted, in their
order, as far as each task has taken them on.
-/

namespace MissionBoard.Characterization

open Storage (IoAnswer)

/-- What `stageEncodedRecord` puts into PSRAM for a record -/
def stagedOf (record : LogRecord) : Option StagedRecord :=
  (encodeRecord record).map fun bytes => ⟨record.sequence, bytes⟩

/-- The record whose index is loaded is already staged, but not yet taken from the ring. -/
def Stager.ahead : Stager → ℕ
  | .consuming _ _ => 1
  | _ => 0

/-- What the stage task has in its hands is what it has read. -/
def StagerHolds (accepted : List LogRecord) (psramStage : ℕ → StagedRecord) : Stager → Prop
  | .encoded _ readIndex record | .roomed _ readIndex record _ =>
      accepted[readIndex]?.bind stagedOf = some record
  | .staged _ readIndex writeIndex =>
      accepted[readIndex]?.bind stagedOf = some (psramStage (writeIndex % kPsramStagingCapacity))
  | _ => True

namespace LogWriter

/-- The rings hold the accepted records, and what was staged of them. -/
structure Passing (writer : LogWriter) (staged : List StagedRecord) : Prop where
  counted : writer.ingressWriteIndex = writer.accepted.length
  ring : RingBuffer.Holds writer.ingressRing kQueueDepth writer.ingressReadIndex writer.accepted
  stored : ∀ record, writer.caller = .stored record →
    writer.ingressRing (writer.ingressWriteIndex % kQueueDepth) = record
  stages : staged.map some <+: writer.accepted.map stagedOf
  count : staged.length = writer.psramWriteIndex
  ahead : writer.psramWriteIndex = writer.ingressReadIndex + writer.stager.ahead
  psram : RingBuffer.Holds writer.psramStage kPsramStagingCapacity writer.psramReadIndex staged
  holds : StagerHolds writer.accepted writer.psramStage writer.stager

/-- The next staged record is what the stage task has read. -/
theorem stages_concat {accepted : List LogRecord} {staged : List StagedRecord} {record : StagedRecord}
    (stages : staged.map some <+: accepted.map stagedOf)
    (next : accepted[staged.length]?.bind stagedOf = some record) :
    (staged ++ [record]).map some <+: accepted.map stagedOf := by
  have short : staged.length < accepted.length := by
    by_contra long
    rw [List.getElem?_eq_none (Nat.not_lt.mp long)] at next
    cases next
  have within : staged.length < (accepted.map stagedOf).length := by
    rw [List.length_map]
    exact short
  rw [List.getElem?_eq_getElem short, Option.bind_some] at next
  have whole := List.prefix_iff_eq_take.mp stages
  rw [List.length_map] at whole
  rw [List.map_append, List.map_singleton, whole, ← next]
  have longer := List.take_append_getElem within
  rw [List.getElem_map] at longer
  rw [longer]
  exact List.take_prefix _ _

theorem accepted_finishEnqueue (writer : LogWriter) (record : LogRecord) (result : WriterError) :
    (writer.finishEnqueue record result).accepted =
      writer.accepted ++ if result = .ok then [record] else [] := by
  unfold accepted finishEnqueue
  dsimp only
  rw [List.filter_append, List.map_append]
  by_cases ok : result = .ok <;> simp [ok]

theorem accepted_of_enqueued {writer next : LogWriter} (same : next.enqueued = writer.enqueued) :
    next.accepted = writer.accepted := by
  unfold accepted
  rw [same]

theorem passing_stagerStep {writer : LogWriter} {staged : List StagedRecord} (rings : writer.Rings)
    (passing : writer.Passing staged) : ∃ more, writer.stagerStep.Passing (staged ++ more) := by
  obtain ⟨counted, ring, stored, stages, count, ahead, psram, holds⟩ := passing
  have loaded := rings.stager
  obtain ⟨next, stepped⟩ : ∃ next, writer.stagerStep = next := ⟨_, rfl⟩
  rw [stepped]
  cases pc : writer.stager with
  | taking count' readIndex =>
      rw [pc] at loaded ahead
      obtain ⟨rfl, below⟩ := loaded
      refine ⟨[], ?_⟩
      rw [List.append_nil]
      simp only [stagerStep, pc, refuseRecord] at stepped
      split at stepped
      · subst stepped
        exact ⟨counted, ring, stored, stages, count, ahead, psram, trivial⟩
      · split at stepped
        · subst stepped
          exact ⟨counted, ring, stored, stages, count, ahead, psram, trivial⟩
        · rename_i bytes encoded
          subst stepped
          refine ⟨counted, ring, stored, stages, count, ahead, psram, ?_⟩
          have within : writer.ingressReadIndex < writer.accepted.length := by omega
          have slot := ring writer.ingressReadIndex within le_rfl
          show writer.accepted[writer.ingressReadIndex]?.bind stagedOf = some _
          rw [List.getElem?_eq_getElem within, Option.bind_some, ← slot, stagedOf, encoded]
          rfl
  | encoded count' readIndex record =>
      rw [pc] at holds ahead
      refine ⟨[], ?_⟩
      rw [List.append_nil]
      simp only [stagerStep, pc] at stepped
      split at stepped
      · subst stepped
        exact ⟨counted, ring, stored, stages, count, ahead, psram, trivial⟩
      · subst stepped
        exact ⟨counted, ring, stored, stages, count, ahead, psram, holds⟩
  | roomed count' readIndex record writeIndex =>
      rw [pc] at holds loaded ahead
      obtain ⟨-, -, rfl, room⟩ := loaded
      refine ⟨[], ?_⟩
      rw [List.append_nil]
      simp only [stagerStep, pc] at stepped
      subst stepped
      rw [← count] at room
      have kept := psram.store room record
      rw [count] at kept
      refine ⟨counted, ring, stored, stages, count, ahead, kept, ?_⟩
      have filled : Function.update writer.psramStage
          (writer.psramWriteIndex % kPsramStagingCapacity) record
          (writer.psramWriteIndex % kPsramStagingCapacity) = record := Function.update_self _ _ _
      exact holds.trans (congrArg some filled.symm)
  | staged count' readIndex writeIndex =>
      rw [pc] at holds loaded ahead
      obtain ⟨rfl, -, rfl, -⟩ := loaded
      simp only [stagerStep, pc] at stepped
      subst stepped
      have same : writer.ingressReadIndex = staged.length := by
        rw [count, ahead]
        rfl
      have next : writer.accepted[staged.length]?.bind stagedOf =
          some (writer.psramStage (writer.psramWriteIndex % kPsramStagingCapacity)) := by
        rw [← same]
        exact holds
      refine ⟨[writer.psramStage (writer.psramWriteIndex % kPsramStagingCapacity)],
        counted, ring, stored, stages_concat stages next, ?_, ?_, ?_, trivial⟩
      · rw [List.length_append, count]
        rfl
      · rw [ahead]
        rfl
      · exact psram.publish (by rw [count])
  | consuming count' readIndex =>
      rw [pc] at loaded ahead
      obtain ⟨rfl, -⟩ := loaded
      refine ⟨[], ?_⟩
      rw [List.append_nil]
      simp only [stagerStep, pc] at stepped
      subst stepped
      exact ⟨counted, ring.consume (Nat.le_succ _), stored, stages, count, ahead, psram, trivial⟩
  | clearing | sending | awaiting =>
      rw [pc] at ahead holds
      refine ⟨[], ?_⟩
      rw [List.append_nil]
      simp only [stagerStep, pc] at stepped
      split at stepped
      all_goals
        subst stepped
        exact ⟨counted, ring, stored, stages, count, by first | exact ahead | (rw [pc]; exact ahead),
          psram, by first | exact trivial | (rw [pc]; exact trivial)⟩
  | polling | polled | batch | loaded | receiving | finishing =>
      rw [pc] at ahead
      refine ⟨[], ?_⟩
      rw [List.append_nil]
      simp only [stagerStep, pc] at stepped
      repeat' split at stepped
      all_goals
        subst stepped
        exact ⟨counted, ring, stored, stages, count, ahead, psram, trivial⟩

theorem passing_sdStep {writer : LogWriter} {staged : List StagedRecord} (rings : writer.Rings)
    (passing : writer.Passing staged) (answer : IoAnswer) :
    (writer.sdStep answer).Passing staged := by
  have only := sdStep_only writer answer
  obtain ⟨-, later, -⟩ := sdLoaded_sdStep rings answer
  have accepted := accepted_of_enqueued only.enqueued
  constructor
  · rw [only.ingressWriteIndex, accepted]
    exact passing.counted
  · rw [only.ingressRing, only.ingressReadIndex, accepted]
    exact passing.ring
  · rw [only.caller, only.ingressRing, only.ingressWriteIndex]
    exact passing.stored
  · rw [accepted]
    exact passing.stages
  · rw [only.psramWriteIndex]
    exact passing.count
  · rw [only.psramWriteIndex, only.ingressReadIndex, only.stager]
    exact passing.ahead
  · rw [only.psramStage]
    exact passing.psram.consume later
  · rw [accepted, only.psramStage, only.stager]
    exact passing.holds

/-- A record that is accepted later does not change what the stage task has read. -/
theorem stagerHolds_concat {accepted : List LogRecord} {psramStage : ℕ → StagedRecord}
    {stager : Stager} (holds : StagerHolds accepted psramStage stager) (record : LogRecord) :
    StagerHolds (accepted ++ [record]) psramStage stager := by
  have kept : ∀ {index : ℕ} {staged : StagedRecord},
      accepted[index]?.bind stagedOf = some staged →
        (accepted ++ [record])[index]?.bind stagedOf = some staged := by
    intro index staged read
    have below : index < accepted.length := by
      by_contra long
      rw [List.getElem?_eq_none (Nat.not_lt.mp long)] at read
      cases read
    rw [List.getElem?_append_left below]
    exact read
  cases stager with
  | encoded | roomed | staged => exact kept holds
  | _ => trivial

/-- A step that leaves the rings, the indices and the accepted records alone. -/
theorem Passing.of_same {writer next : LogWriter} {staged : List StagedRecord}
    (passing : writer.Passing staged) (accepted : next.accepted = writer.accepted)
    (ingressRing : next.ingressRing = writer.ingressRing)
    (ingressWrite : next.ingressWriteIndex = writer.ingressWriteIndex)
    (ingressRead : next.ingressReadIndex = writer.ingressReadIndex)
    (psramStage : next.psramStage = writer.psramStage)
    (psramWrite : next.psramWriteIndex = writer.psramWriteIndex)
    (psramRead : next.psramReadIndex = writer.psramReadIndex)
    (stager : next.stager = writer.stager)
    (apart : ∀ record, next.caller ≠ .stored record) : next.Passing staged := by
  constructor
  · rw [ingressWrite, accepted]
    exact passing.counted
  · rw [ingressRing, ingressRead, accepted]
    exact passing.ring
  · exact fun record storing => absurd storing (apart record)
  · rw [accepted]
    exact passing.stages
  · rw [psramWrite]
    exact passing.count
  · rw [psramWrite, ingressRead, stager]
    exact passing.ahead
  · rw [psramStage, psramRead]
    exact passing.psram
  · rw [accepted, psramStage, stager]
    exact passing.holds

theorem passing_callerStep {writer : LogWriter} {staged : List StagedRecord} (rings : writer.Rings)
    (passing : writer.Passing staged) (closed : writer.caller.opening = false) :
    writer.callerStep.Passing staged := by
  have only := callerStep_only writer closed
  have room := rings.caller
  obtain ⟨next, stepped⟩ : ∃ next, writer.callerStep = next := ⟨_, rfl⟩
  rw [stepped]
  cases pc : writer.caller with
  | roomed record =>
      obtain ⟨counted, ring, stored, stages, count, ahead, psram, holds⟩ := passing
      rw [pc] at room
      simp only [callerStep, pc] at stepped
      subst stepped
      have free : writer.accepted.length < writer.ingressReadIndex + kQueueDepth := by
        rw [← counted]
        exact room
      have kept := ring.store free record
      rw [← counted] at kept
      refine ⟨counted, kept, ?_, stages, count, ahead, psram, holds⟩
      intro other storing
      obtain rfl := Caller.stored.inj storing
      exact Function.update_self _ _ _
  | stored record =>
      obtain ⟨counted, ring, stored, stages, count, ahead, psram, holds⟩ := passing
      have filled := stored record pc
      rw [counted] at filled
      simp only [callerStep, pc] at stepped
      have accepted : next.accepted = writer.accepted ++ [record] := by
        rw [← stepped]
        exact accepted_finishEnqueue _ record .ok
      subst stepped
      constructor
      · rw [accepted, List.length_append]
        exact congrArg (· + 1) counted
      · rw [accepted]
        exact ring.publish filled
      · exact fun other storing => Caller.noConfusion storing
      · rw [accepted, List.map_append]
        exact stages.trans (List.prefix_append _ _)
      · exact count
      · exact ahead
      · exact psram
      · rw [accepted]
        exact stagerHolds_concat holds record
  | checked record =>
      simp only [callerStep, pc] at stepped
      split at stepped
      · subst stepped
        refine passing.of_same ?_ rfl rfl rfl rfl rfl rfl rfl fun _ => Caller.noConfusion
        rw [accepted_finishEnqueue, if_neg (by decide), List.append_nil]
        rfl
      · subst stepped
        exact passing.of_same rfl rfl rfl rfl rfl rfl rfl rfl fun _ => Caller.noConfusion
  | idle =>
      simp only [callerStep, pc] at stepped
      subst stepped
      exact passing
  | draining | sending =>
      simp only [callerStep, pc] at stepped
      split at stepped
      all_goals
        subst stepped
        refine passing.of_same rfl rfl rfl rfl rfl rfl rfl rfl fun _ storing => ?_
      all_goals first
        | exact Caller.noConfusion storing
        | exact Caller.noConfusion (pc.symm.trans storing)
  | awaiting request =>
      simp only [callerStep, pc] at stepped
      split at stepped
      · subst stepped
        cases request <;>
          exact passing.of_same rfl rfl rfl rfl rfl rfl rfl rfl fun _ => Caller.noConfusion
      · subst stepped
        exact passing
  | resetting | restarting =>
      rw [pc] at closed
      cases closed

/-- Nothing is accepted yet. -/
theorem passing_restart {writer : LogWriter} {image : HeaderBytes} (opening : writer.Opening)
    (pc : writer.caller = .restarting (.run image)) : (writer.restart (.run image)).Passing [] := by
  obtain ⟨reset, stager, -⟩ := opening
  rw [pc] at reset
  obtain ⟨ingressWrite, ingressRead, psramWrite, psramRead⟩ := reset
  constructor
  · exact ingressWrite
  · exact RingBuffer.holds_nil
  · exact fun _ storing => Caller.noConfusion storing
  · exact List.nil_prefix
  · exact psramWrite.symm
  · show writer.psramWriteIndex = writer.ingressReadIndex + writer.stager.ahead
    cases place : writer.stager with
    | consuming =>
        rw [place] at stager
        cases stager
    | _ => rw [psramWrite, ingressRead]; rfl
  · exact RingBuffer.holds_nil
  · show StagerHolds [] writer.psramStage writer.stager
    cases place : writer.stager with
    | encoded | roomed | staged =>
        rw [place] at stager
        cases stager
    | _ => trivial

end LogWriter

end MissionBoard.Characterization
