import MissionBoard.Characterization.EncoderSampler
import MissionBoard.Library.Run

/-!
Owns the accounts of the slots that the sampler takes a sample in: which slots these are, how the samples
are numbered, and that no slot is passed over that `trigger_coalesced_or_missed` does not count.

A run is a list of wake-ups after `begin`, each with the notifications that it finds and the time. It
keeps the exact number that the counter stands for: the counter has 64 bits and may wrap around.
-/

namespace MissionBoard.Characterization

/-- A wake-up of the task: what it finds, and whether another task has cleared `running_` before its first
or its second look -/
structure WakeUp where
  notifications : UInt32
  nowUs : UInt64
  stopsBefore : Bool := false
  stopsInside : Bool := false
  outcome : ReadOutcome
  /-- The queue takes the sample. -/
  queued : Bool := true

/-- A sample, with the slot and the time of its wake-up -/
structure TakenSample where
  slot : UInt64
  wokenUs : UInt64
  sample : RawEncoderSample

/-- The sampler after `begin`, its samples, and what the counter has been increased by -/
structure SlotRun where
  data : SamplerData
  running : Bool := true
  samples : List TakenSample := []
  missed : ℕ := 0

/-- `trigger_coalesced_or_missed` -/
abbrev SamplerData.triggerCoalescedOrMissed (data : SamplerData) : UInt64 :=
  data.statistics.triggerCoalescedOrMissed

namespace SlotRun

/-- One turn of the loop -/
def step (run : SlotRun) (wakeUp : WakeUp) : SlotRun :=
  if !run.running ∨ wakeUp.stopsBefore ∨ wakeUp.notifications = 0 then
    { run with running := run.running && !wakeUp.stopsBefore }
  else
    let woken := run.data.wake wakeUp.notifications wakeUp.nowUs
    let counted :=
      { run with
        data := woken.2
        missed := run.missed +
          (woken.2.triggerCoalescedOrMissed - run.data.triggerCoalescedOrMissed).toNat }
    match woken.1 with
    | .early | .sameSlot => counted
    | .invalidSize => { counted with running := false }
    | .due =>
        if wakeUp.stopsInside then { counted with running := false }
        else
          let read := woken.2.afterRead wakeUp.outcome
          { counted with
            data := if wakeUp.queued then read else read.overflowed
            running := wakeUp.outcome.readResult == espOk && wakeUp.queued
            samples := run.samples ++
              [⟨woken.2.lastSampledSlot, wakeUp.nowUs, woken.2.sampleOf wakeUp.outcome⟩] }

/-- The run after these wake-ups -/
def after (data : SamplerData) (wakeUps : List WakeUp) : SlotRun :=
  Run.after step { data } wakeUps

end SlotRun

/-! ### What a turn does to the data -/

/-- The part of the data that the accounts are about -/
structure SamplerData.SameSlots (data next : SamplerData) : Prop where
  first : next.firstSampleUs = data.firstSampleUs
  period : next.periodUs = data.periodUs
  last : next.lastSampledSlot = data.lastSampledSlot
  sampled : next.haveSampledSlot = data.haveSampledSlot
  counter : next.triggerCoalescedOrMissed = data.triggerCoalescedOrMissed
  generation : next.generation = data.generation

namespace SamplerData

variable {data next : SamplerData}

theorem SameSlots.trans {last : SamplerData} (first : SameSlots data next)
    (second : SameSlots next last) : SameSlots data last :=
  ⟨second.first.trans first.first, second.period.trans first.period, second.last.trans first.last,
    second.sampled.trans first.sampled, second.counter.trans first.counter,
    second.generation.trans first.generation⟩

theorem sameSlots_rememberFirst (error : Int32) : SameSlots data (data.rememberFirst error) := by
  unfold rememberFirst
  split <;> exact ⟨rfl, rfl, rfl, rfl, rfl, rfl⟩

/-- Errors are remembered and counted beside the slots. -/
theorem SameSlots.noted (same : SameSlots data next) (error : Int32) :
    SameSlots data (next.rememberFirst error) :=
  same.trans (sameSlots_rememberFirst error)

theorem SameSlots.transportError (same : SameSlots data next) :
    SameSlots data next.countTransportError :=
  ⟨same.first, same.period, same.last, same.sampled, same.counter, same.generation⟩

theorem SameSlots.statusFault (same : SameSlots data next) : SameSlots data next.countStatusFault :=
  ⟨same.first, same.period, same.last, same.sampled, same.counter, same.generation⟩

theorem SameSlots.invalid (same : SameSlots data next) : SameSlots data next.countInvalid :=
  ⟨same.first, same.period, same.last, same.sampled, same.counter, same.generation⟩

theorem sameSlots_overflowed : SameSlots data data.overflowed := by
  have counted : SameSlots data data.countOverflow := ⟨rfl, rfl, rfl, rfl, rfl, rfl⟩
  exact counted.noted espErrNoMem

theorem sameSlots_readFailed (outcome : ReadOutcome) :
    SameSlots data (data.readFailed outcome) := by
  have halted : SameSlots data { data with pipelineRunning := false } :=
    ⟨rfl, rfl, rfl, rfl, rfl, rfl⟩
  have stopped := halted.transportError.noted outcome.readResult
  have asked := stopped.transportError.noted outcome.statusResult
  unfold readFailed
  dsimp only
  split
  · apply SameSlots.noted
    apply SameSlots.statusFault
    split
    · exact asked
    · exact stopped
  · split
    · exact asked
    · exact stopped

/-- A read changes the generation, and nothing else that the slots depend on. -/
theorem sameSlots_afterRead (outcome : ReadOutcome) :
    SameSlots { data with generation := data.generation + 1 } (data.afterRead outcome) := by
  have checked : SameSlots { data with generation := data.generation + 1 }
      (if outcome.readResult ≠ espOk then
        { data with generation := data.generation + 1 }.readFailed outcome
      else { data with generation := data.generation + 1 }) := by
    split
    · exact sameSlots_readFailed outcome
    · exact ⟨rfl, rfl, rfl, rfl, rfl, rfl⟩
  unfold afterRead
  dsimp only
  split
  · exact checked
  · exact checked.invalid

/-! ### The wake-ups -/

/-- What a wake-up finds: it comes too early, finds its slot sampled, or is due in a later slot. There
is always a time for the slot. -/
inductive WakeCase (data : SamplerData) (notifications : UInt32) (nowUs : UInt64) : Prop where
  | early (same : data.wake notifications nowUs = (.early, data))
  | sameSlot (same : data.wake notifications nowUs =
      (.sameSlot, data.countMissed notifications.toUInt64))
  | due (begun : data.firstSampleUs ≤ nowUs)
      (later : data.haveSampledSlot = true → data.lastSampledSlot < data.idealSlot nowUs)
      (same : data.wake notifications nowUs =
        (.due,
          { data.countMissed (data.missedBy notifications (data.idealSlot nowUs)) with
            lastSampledSlot := data.idealSlot nowUs
            haveSampledSlot := true
            nextScheduledUs := data.firstSampleUs + data.idealSlot nowUs * data.periodUs }))

theorem wake_cases (notifications : UInt32) (nowUs : UInt64) :
    WakeCase data notifications nowUs := by
  obtain ⟨woken, same⟩ : ∃ woken, data.wake notifications nowUs = woken := ⟨_, rfl⟩
  unfold wake at same
  dsimp only at same
  split at same
  · rename_i early
    exact .early (by unfold wake; exact if_pos early)
  · rename_i begun
    split at same
    · rename_i sampled
      exact .sameSlot (by unfold wake; dsimp only; rw [if_neg begun, if_pos sampled])
    · rename_i fresh
      have room : ¬data.idealSlot nowUs >
          (0xFFFFFFFFFFFFFFFF - data.firstSampleUs) / data.periodUs := by
        have top : data.firstSampleUs ≤ 0xFFFFFFFFFFFFFFFF :=
          UInt64.le_iff_toNat_le.mpr (Nat.le_pred_of_lt data.firstSampleUs.toNat_lt)
        rw [gt_iff_lt, UInt64.not_lt, UInt64.le_iff_toNat_le]
        unfold idealSlot
        rw [UInt64.toNat_div, UInt64.toNat_div, UInt64.toNat_sub_of_le _ _ (UInt64.not_lt.mp begun),
          UInt64.toNat_sub_of_le _ _ top]
        exact Nat.div_le_div_right
          (Nat.sub_le_sub_right (Nat.le_pred_of_lt nowUs.toNat_lt) _)
      refine .due (UInt64.not_lt.mp begun) ?_
        (by unfold wake; dsimp only; rw [if_neg begun, if_neg fresh, if_neg room])
      intro sampled
      rw [not_and] at fresh
      exact UInt64.not_le.mp (fresh sampled)

end SamplerData

/-! ### The accounts -/

namespace SlotRun

variable {run : SlotRun} {firstSampleUs : UInt64}

/-- The slots that a sample was taken in -/
def slots (run : SlotRun) : List ℕ := run.samples.map (·.slot.toNat)

/-- The sample belongs to the slot that contains the time of its wake-up. -/
structure TakenSample.InSlot (firstSampleUs : UInt64) (taken : TakenSample) : Prop where
  scheduled : taken.sample.scheduledTimestampUs.toNat = firstSampleUs.toNat + taken.slot.toNat * 1000
  begun : taken.sample.scheduledTimestampUs.toNat ≤ taken.wokenUs.toNat
  before : taken.wokenUs.toNat < taken.sample.scheduledTimestampUs.toNat + 1000

/-- The accounts: the samples lie in their slots, later ones in later slots, and are numbered from one on;
the counter counts every slot that is passed over, and nothing is passed over while it counts nothing. -/
structure Accounted (firstSampleUs : UInt64) (run : SlotRun) : Prop where
  inSlot : ∀ taken ∈ run.samples, TakenSample.InSlot firstSampleUs taken
  increasing : run.slots.Pairwise (· < ·)
  generations : run.samples.map (·.sample.generation.toNat) =
    (List.range run.samples.length).map (· + 1)
  counter : run.data.triggerCoalescedOrMissed = UInt64.ofNat run.missed
  skipped : ∀ last ∈ run.slots.getLast?, last + 1 ≤ run.samples.length + run.missed
  gapless : run.missed = 0 → run.slots = List.range run.samples.length

/-- What a turn relies on besides: the task knows the slot of its last sample, as long as it runs. -/
structure Ledger (firstSampleUs : UInt64) (run : SlotRun) : Prop where
  accounted : Accounted firstSampleUs run
  first : run.data.firstSampleUs = firstSampleUs
  period : run.data.periodUs = 1000
  generation : run.data.generation.toNat = run.samples.length
  marked : run.running = true →
    run.slots.getLast? =
      if run.data.haveSampledSlot then some run.data.lastSampledSlot.toNat else none

/-- A turn that takes no sample may count slots, and may end the run. -/
theorem Ledger.count (ledger : Ledger firstSampleUs run) {next : SlotRun}
    (samples : next.samples = run.samples) (first : next.data.firstSampleUs = run.data.firstSampleUs)
    (period : next.data.periodUs = run.data.periodUs)
    (generation : next.data.generation = run.data.generation)
    (more : ∃ missed : UInt64,
      next.data.triggerCoalescedOrMissed = run.data.triggerCoalescedOrMissed + missed ∧
        next.missed = run.missed + missed.toNat)
    (marked : next.running = true → run.running = true ∧
      next.data.haveSampledSlot = run.data.haveSampledSlot ∧
        next.data.lastSampledSlot = run.data.lastSampledSlot) : Ledger firstSampleUs next := by
  obtain ⟨missed, counter, total⟩ := more
  have slots : next.slots = run.slots :=
    congrArg (List.map fun taken : TakenSample => taken.slot.toNat) samples
  refine ⟨⟨?_, ?_, ?_, ?_, ?_, ?_⟩, first.trans ledger.first, period.trans ledger.period, ?_, ?_⟩
  · rw [samples]
    exact ledger.accounted.inSlot
  · rw [slots]
    exact ledger.accounted.increasing
  · rw [samples]
    exact ledger.accounted.generations
  · rw [counter, ledger.accounted.counter, total, UInt64.ofNat_add, UInt64.ofNat_toNat]
  · rw [slots, samples, total]
    intro last same
    exact (ledger.accounted.skipped last same).trans (by omega)
  · rw [slots, samples, total]
    intro nothing
    exact ledger.accounted.gapless (by omega)
  · rw [generation, samples]
    exact ledger.generation
  · intro still
    obtain ⟨runs, sampled, last⟩ := marked still
    rw [slots, sampled, last]
    exact ledger.marked runs

/-- The slot of a due wake-up, as a number -/
theorem due_slot (ledger : Ledger firstSampleUs run) {nowUs : UInt64}
    (begun : run.data.firstSampleUs ≤ nowUs) :
    (run.data.idealSlot nowUs).toNat = (nowUs.toNat - firstSampleUs.toNat) / 1000 ∧
      (run.data.firstSampleUs + run.data.idealSlot nowUs * run.data.periodUs).toNat =
        firstSampleUs.toNat + (run.data.idealSlot nowUs).toNat * 1000 := by
  rw [ledger.first] at begun ⊢
  rw [ledger.period]
  have thousand : (1000 : UInt64).toNat = 1000 := rfl
  have below := UInt64.le_iff_toNat_le.mp begun
  have top := nowUs.toNat_lt
  have slot : (run.data.idealSlot nowUs).toNat = (nowUs.toNat - firstSampleUs.toNat) / 1000 := by
    unfold SamplerData.idealSlot
    rw [ledger.first, ledger.period, UInt64.toNat_div, UInt64.toNat_sub_of_le _ _ begun, thousand]
  refine ⟨slot, ?_⟩
  rw [UInt64.toNat_add, UInt64.toNat_mul, thousand, Nat.mod_eq_of_lt (by omega : _ * _ < _),
    Nat.mod_eq_of_lt (by omega)]

/-- Of the slots since the last sample at least the passed ones are counted. -/
theorem passed_le_missedBy (data : SamplerData) (notifications : UInt32) (idealSlot : UInt64) :
    (if data.haveSampledSlot then idealSlot - data.lastSampledSlot - 1 else idealSlot).toNat ≤
      (data.missedBy notifications idealSlot).toNat := by
  unfold SamplerData.missedBy
  dsimp only
  rw [← UInt64.le_iff_toNat_le]
  generalize (if data.haveSampledSlot = true then idealSlot - data.lastSampledSlot - 1
    else idealSlot) = elapsed
  generalize (if notifications > 1 then notifications.toUInt64 - 1 else 0) = notified
  show elapsed ≤ if elapsed ≤ notified then notified else elapsed
  split
  · assumption
  · exact UInt64.le_refl elapsed

/-- Increasing slots below a number are at most as many. -/
theorem length_le_of_increasing {slots : List ℕ} (increasing : slots.Pairwise (· < ·)) {bound : ℕ}
    (below : ∀ slot ∈ slots, slot < bound) : slots.length ≤ bound := by
  have distinct : slots.Nodup := increasing.imp Nat.ne_of_lt
  rw [← List.toFinset_card_of_nodup distinct, ← Finset.card_range bound]
  apply Finset.card_le_card
  intro slot within
  exact Finset.mem_range.mpr (below slot (List.mem_toFinset.mp within))

/-- The last of increasing slots is the greatest. -/
theorem le_last_of_increasing {slots : List ℕ} (increasing : slots.Pairwise (· < ·)) {last : ℕ}
    (ends : slots.getLast? = some last) : ∀ slot ∈ slots, slot ≤ last := by
  obtain ⟨earlier, rfl⟩ := List.getLast?_eq_some_iff.mp ends
  intro slot within
  rw [List.mem_append, List.mem_singleton] at within
  cases within with
  | inl before =>
      have order := (List.pairwise_append.mp increasing).2.2
      exact Nat.le_of_lt (order slot before last (List.mem_singleton_self last))
  | inr same => exact Nat.le_of_eq same

/-- What a due wake-up knows of the slots before: they are smaller, and of those passed over since the
last one none is missing from the count. -/
theorem Ledger.before_due (ledger : Ledger firstSampleUs run) (runs : run.running = true)
    {notifications : UInt32} {idealSlot : UInt64}
    (later : run.data.haveSampledSlot = true → run.data.lastSampledSlot < idealSlot) :
    (∀ slot ∈ run.slots, slot < idealSlot.toNat) ∧
      idealSlot.toNat ≤ run.samples.length + run.missed +
        (run.data.missedBy notifications idealSlot).toNat ∧
      (run.missed + (run.data.missedBy notifications idealSlot).toNat = 0 →
        idealSlot.toNat = run.samples.length) := by
  have marked := ledger.marked runs
  have passed := passed_le_missedBy run.data notifications idealSlot
  have length : run.slots.length = run.samples.length := List.length_map _
  cases sampled : run.data.haveSampledSlot with
  | false =>
      rw [sampled, if_neg nofun] at marked passed
      have none : run.slots = [] := List.getLast?_eq_none_iff.mp marked
      rw [none] at length
      refine ⟨?_, by omega, fun zero => ?_⟩
      · rw [none]
        exact fun slot within => absurd within List.not_mem_nil
      · rw [← length]
        exact Nat.le_zero.mp (passed.trans (by omega))
  | true =>
      have after := UInt64.lt_iff_toNat_lt.mp (later sampled)
      rw [sampled, if_pos rfl] at marked passed
      have difference : (idealSlot - run.data.lastSampledSlot - 1).toNat =
          idealSlot.toNat - run.data.lastSampledSlot.toNat - 1 := by
        have gap : (idealSlot - run.data.lastSampledSlot).toNat =
            idealSlot.toNat - run.data.lastSampledSlot.toNat :=
          UInt64.toNat_sub_of_le _ _ (UInt64.le_of_lt (later sampled))
        rw [UInt64.toNat_sub_of_le _ _ ?_, gap]
        · rfl
        · rw [UInt64.le_iff_toNat_le, gap]
          exact Nat.sub_pos_of_lt after
      rw [difference] at passed
      have enough := ledger.accounted.skipped _ (Option.mem_def.mpr marked)
      refine ⟨?_, by omega, fun zero => ?_⟩
      · intro slot within
        exact Nat.lt_of_le_of_lt (le_last_of_increasing ledger.accounted.increasing marked slot within)
          after
      · have whole := ledger.accounted.gapless (by omega)
        rw [whole, List.getLast?_range] at marked
        split at marked
        · cases marked
        · have last := Option.some.inj marked
          omega

/-- A due wake-up takes a sample in a later slot. -/
theorem Ledger.take (ledger : Ledger firstSampleUs run) (runs : run.running = true)
    {wakeUp : WakeUp} (begun : run.data.firstSampleUs ≤ wakeUp.nowUs)
    (later : run.data.haveSampledSlot = true →
      run.data.lastSampledSlot < run.data.idealSlot wakeUp.nowUs)
    {data next : SamplerData}
    (woken : data =
      { run.data.countMissed
          (run.data.missedBy wakeUp.notifications (run.data.idealSlot wakeUp.nowUs)) with
        lastSampledSlot := run.data.idealSlot wakeUp.nowUs
        haveSampledSlot := true
        nextScheduledUs := run.data.firstSampleUs +
          run.data.idealSlot wakeUp.nowUs * run.data.periodUs })
    (read : SamplerData.SameSlots { data with generation := data.generation + 1 } next)
    (running : Bool) {missed : ℕ}
    (counted : missed = run.missed +
      (run.data.missedBy wakeUp.notifications (run.data.idealSlot wakeUp.nowUs)).toNat) :
    Ledger firstSampleUs
      { data := next
        running
        missed
        samples := run.samples ++
          [⟨data.lastSampledSlot, wakeUp.nowUs, data.sampleOf wakeUp.outcome⟩] } := by
  obtain ⟨slot, scheduled⟩ := due_slot ledger begun
  obtain ⟨below, enough, gapless⟩ :=
    @Ledger.before_due run firstSampleUs ledger runs wakeUp.notifications _ later
  have length : run.slots.length = run.samples.length := List.length_map _
  have few : run.samples.length ≤ (run.data.idealSlot wakeUp.nowUs).toNat :=
    length ▸ length_le_of_increasing ledger.accounted.increasing below
  have top := wakeUp.nowUs.toNat_lt
  have number : (data.generation + 1).toNat = run.samples.length + 1 := by
    have same : data.generation.toNat = run.samples.length := by
      rw [woken]
      exact ledger.generation
    rw [UInt64.toNat_add, same]
    exact Nat.mod_eq_of_lt (by
      have one : (1 : UInt64).toNat = 1 := rfl
      omega)
  have slots : List.map (fun taken : TakenSample => taken.slot.toNat) (run.samples ++
      [⟨data.lastSampledSlot, wakeUp.nowUs, data.sampleOf wakeUp.outcome⟩]) =
        run.slots ++ [(run.data.idealSlot wakeUp.nowUs).toNat] := by
    rw [List.map_append, woken]
    rfl
  have from_first : firstSampleUs.toNat ≤ wakeUp.nowUs.toNat := by
    rw [← ledger.first]
    exact UInt64.le_iff_toNat_le.mp begun
  refine ⟨⟨?_, ?_, ?_, ?_, ?_, ?_⟩, ?_, ?_, ?_, ?_⟩
  · intro taken within
    rw [List.mem_append, List.mem_singleton] at within
    cases within with
    | inl earlier => exact ledger.accounted.inSlot taken earlier
    | inr same =>
        have time : taken.sample.scheduledTimestampUs.toNat =
            firstSampleUs.toNat + (run.data.idealSlot wakeUp.nowUs).toNat * 1000 := by
          rw [same, woken]
          exact scheduled
        have position : taken.slot = run.data.idealSlot wakeUp.nowUs := by rw [same, woken]
        have wokenUs : taken.wokenUs = wakeUp.nowUs := by rw [same]
        constructor
        · rw [time, position]
        · rw [time, wokenUs]
          omega
        · rw [time, wokenUs]
          omega
  · show (List.map _ _).Pairwise _
    rw [slots, List.pairwise_append]
    refine ⟨ledger.accounted.increasing, List.pairwise_singleton _ _, ?_⟩
    intro earlier within last same
    rw [List.mem_singleton.mp same]
    exact below earlier within
  · have numbered : (data.sampleOf wakeUp.outcome).generation.toNat = run.samples.length + 1 :=
      number
    rw [List.map_append, ledger.accounted.generations, List.map_singleton, numbered,
      List.length_append, List.length_singleton, List.range_succ, List.map_append,
      List.map_singleton]
  · rw [read.counter, counted, UInt64.ofNat_add, UInt64.ofNat_toNat, ← ledger.accounted.counter,
      woken]
    rfl
  · intro last same
    have ends : last = (run.data.idealSlot wakeUp.nowUs).toNat := by
      have found : (List.map (fun taken : TakenSample => taken.slot.toNat) _).getLast? = some last :=
        same
      rw [slots, List.getLast?_concat] at found
      exact (Option.some.inj found).symm
    rw [ends, List.length_append, List.length_singleton]
    show _ ≤ run.samples.length + 1 + missed
    omega
  · intro nothing
    have zero : run.missed +
        (run.data.missedBy wakeUp.notifications (run.data.idealSlot wakeUp.nowUs)).toNat = 0 :=
      counted.symm.trans nothing
    show List.map _ _ = _
    rw [slots, gapless zero, List.length_append, List.length_singleton, List.range_succ,
      ledger.accounted.gapless (by omega)]
  · rw [read.first, woken]
    exact ledger.first
  · rw [read.period, woken]
    exact ledger.period
  · rw [read.generation, List.length_append, List.length_singleton]
    exact number
  · intro _
    show (List.map _ _).getLast? = _
    rw [slots, List.getLast?_concat, read.sampled, read.last, woken]
    rfl

/-- Whatever a turn does, the ledger is kept. -/
theorem Ledger.step (ledger : Ledger firstSampleUs run) (wakeUp : WakeUp) :
    Ledger firstSampleUs (run.step wakeUp) := by
  unfold SlotRun.step
  split
  · refine ledger.count rfl rfl rfl rfl ⟨0, ?_, rfl⟩ ?_
    · exact (UInt64.add_zero _).symm
    · intro still
      exact ⟨(Bool.and_eq_true_iff.mp still).1, rfl, rfl⟩
  · rename_i looks
    have runs : run.running = true := by
      by_contra stopped
      exact looks (Or.inl (by simpa using stopped))
    have difference : ∀ missed : UInt64,
        run.data.triggerCoalescedOrMissed + missed - run.data.triggerCoalescedOrMissed = missed := by
      intro missed
      rw [UInt64.add_comm, UInt64.add_sub_cancel]
    dsimp only
    cases run.data.wake_cases wakeUp.notifications wakeUp.nowUs with
    | early same =>
        rw [same]
        refine ledger.count rfl rfl rfl rfl ⟨0, ?_, ?_⟩ fun _ => ⟨runs, rfl, rfl⟩
        · exact (UInt64.add_zero _).symm
        · dsimp only
          rw [UInt64.sub_self]
    | sameSlot same =>
        rw [same]
        refine ledger.count rfl rfl rfl rfl ⟨wakeUp.notifications.toUInt64, rfl, ?_⟩
          fun _ => ⟨runs, rfl, rfl⟩
        exact congrArg (run.missed + ·.toNat) (difference wakeUp.notifications.toUInt64)
    | due begun later same =>
        rw [same]
        dsimp only
        have added := congrArg (run.missed + ·.toNat) (difference
          (run.data.missedBy wakeUp.notifications (run.data.idealSlot wakeUp.nowUs)))
        split
        · refine ledger.count rfl rfl rfl rfl ⟨_, rfl, added⟩ ?_
          exact fun still => absurd still nofun
        · refine ledger.take runs begun later rfl ?_ _ added
          split
          · exact SamplerData.sameSlots_afterRead _
          · exact (SamplerData.sameSlots_afterRead _).trans SamplerData.sameSlots_overflowed

theorem ledger_begun {rate : EncoderRate} {epochZeroUs : UInt64} {data : SamplerData}
    (began : beginData rate epochZeroUs = some data) : Ledger data.firstSampleUs { data } := by
  unfold beginData at began
  dsimp only at began
  split at began
  · cases began
  · rename_i only
    rw [Decidable.not_not] at only
    subst only
    split at began
    · cases began
    · rw [← Option.some.inj began]
      refine ⟨⟨?_, List.Pairwise.nil, rfl, rfl, ?_, fun _ => rfl⟩, rfl, rfl, rfl, fun _ => rfl⟩
      · exact fun taken within => absurd within List.not_mem_nil
      · exact fun last same => absurd same nofun

theorem ledger_after {rate : EncoderRate} {epochZeroUs : UInt64} {data : SamplerData}
    (began : beginData rate epochZeroUs = some data) (wakeUps : List WakeUp) :
    Ledger data.firstSampleUs (after data wakeUps) := by
  have preserved : ∀ (run : SlotRun) (wakeUp : WakeUp), Ledger data.firstSampleUs run → True →
      Ledger data.firstSampleUs (run.step wakeUp) := fun _ wakeUp ledger _ => ledger.step wakeUp
  exact Run.invariant_after preserved (ledger_begun began)
    (Run.along_of_forall (fun _ _ => trivial) _ wakeUps)

/-- The times for which the samples were scheduled -/
def schedule (run : SlotRun) : List ℕ :=
  run.samples.map (·.sample.scheduledTimestampUs.toNat)

/-- Later slots are scheduled later. -/
theorem Accounted.schedule_increasing (accounted : Accounted firstSampleUs run) :
    run.schedule.Pairwise (· < ·) := by
  have increasing := accounted.increasing
  unfold slots at increasing
  unfold schedule
  rw [List.pairwise_map] at increasing ⊢
  apply increasing.imp_of_mem
  intro first second firstWithin secondWithin later
  rw [(accounted.inSlot first firstWithin).scheduled, (accounted.inSlot second secondWithin).scheduled]
  omega

/-- After `begin` the slots are accounted for, whatever wakes the task. As long as the exact count is
below 2^64 the counter is that count: then it bounds the slots passed over, and when it is zero none is. -/
theorem slots_accounted {rate : EncoderRate} {epochZeroUs : UInt64} {data : SamplerData}
    (began : beginData rate epochZeroUs = some data) (wakeUps : List WakeUp) :
    Accounted data.firstSampleUs (after data wakeUps) ∧
      (after data wakeUps).schedule.Pairwise (· < ·) ∧
      ((after data wakeUps).missed < 2 ^ 64 →
        (∀ last ∈ (after data wakeUps).slots.getLast?,
            last + 1 - (after data wakeUps).samples.length ≤
              (after data wakeUps).data.triggerCoalescedOrMissed.toNat) ∧
          ((after data wakeUps).data.triggerCoalescedOrMissed = 0 →
            (after data wakeUps).slots = List.range (after data wakeUps).samples.length)) := by
  have accounted := (ledger_after began wakeUps).accounted
  refine ⟨accounted, accounted.schedule_increasing, ?_⟩
  intro small
  have exactly : (after data wakeUps).data.triggerCoalescedOrMissed.toNat =
      (after data wakeUps).missed := by
    rw [accounted.counter, UInt64.toNat_ofNat']
    exact Nat.mod_eq_of_lt small
  constructor
  · intro last same
    have enough := accounted.skipped last same
    omega
  · intro zero
    apply accounted.gapless
    rw [← exactly, zero]
    rfl

/-! ### The turns of the task -/

/-- What a turn of the sampler's task leaves behind, when nothing else touches the sampler meanwhile -/
def turnOf (sampler : EncoderSampler) (notifications : UInt32) (input : TaskInput) : SlotRun :=
  SlotRun.step
    { data := sampler.data
      running := sampler.running }
    { notifications
      nowUs := input.nowUs
      outcome := input.outcome
      queued := sampler.queue.length < kQueueSamples }

/-- A turn of a run is what the steps of the task do, from the notifications that it has taken to its next
look for notifications or for a stop. -/
theorem taskSteps_eq_turn {sampler : EncoderSampler} {notifications : UInt32}
    (stands : sampler.point = .checking notifications) (input : TaskInput) :
    ∃ number,
      ((fun sampler => sampler.taskStep input)^[number] sampler).point ∈
          [SamplerPoint.taking, .exchanging] ∧
        ((fun sampler => sampler.taskStep input)^[number] sampler).data =
          (turnOf sampler notifications input).data ∧
        ((fun sampler => sampler.taskStep input)^[number] sampler).running =
          (turnOf sampler notifications input).running := by
  obtain ⟨running, stopWaiting, stopAck, notified, taskCreated, ackCreated, queue, data, point, control,
    interrupting⟩ := sampler
  dsimp only at stands
  subst stands
  unfold turnOf SlotRun.step
  dsimp only
  by_cases rests : running = false ∨ notifications = 0
  · refine ⟨1, ?_⟩
    rw [if_pos (rests.imp (fun stopped => by rw [stopped]; rfl) Or.inr)]
    simp [EncoderSampler.taskStep, rests]
  · obtain ⟨runs, notified⟩ := not_or.mp rests
    obtain rfl : running = true := by simpa using runs
    rw [if_neg (by simpa using notified)]
    obtain ⟨decision, woken, same⟩ : ∃ decision woken,
        data.wake notifications input.nowUs = (decision, woken) := ⟨_, _, rfl⟩
    rw [same]
    cases decision with
    | early => exact ⟨2, by simp [EncoderSampler.taskStep, notified, same]⟩
    | sameSlot => exact ⟨2, by simp [EncoderSampler.taskStep, notified, same]⟩
    | invalidSize => exact ⟨3, by simp [EncoderSampler.taskStep, notified, same]⟩
    | due =>
        by_cases read : input.outcome.readResult = espOk
        · by_cases room : queue.length < kQueueSamples
          · exact ⟨6, by simp [EncoderSampler.taskStep, notified, same, read, room]⟩
          · exact ⟨7, by simp [EncoderSampler.taskStep, notified, same, read, room]⟩
        · by_cases room : queue.length < kQueueSamples
          · exact ⟨7, by simp [EncoderSampler.taskStep, notified, same, read, room]⟩
          · exact ⟨8, by simp [EncoderSampler.taskStep, notified, same, read, room]⟩

/-! ### A run whose counter wraps around -/

/-- A read that succeeds -/
def goodRead : ReadOutcome where
  readResult := espOk
  hostTimestampUs := 0
  angleRaw := 0
  valid := true
  readUs := 0
  lastErrors := {}
  statusResult := espOk
  status := {}

theorem slots_accounted_once :
    ∃ data, beginData .hz1000 0 = some data ∧
      (after data [{ notifications := 1, nowUs := 500, outcome := goodRead }]).slots = [0] ∧
      Accounted data.firstSampleUs
        (after data [{ notifications := 1, nowUs := 500, outcome := goodRead }]) :=
  ⟨_, rfl, by decide +kernel, (@slots_accounted .hz1000 0 _ rfl _).1⟩

/-- Wake-ups in a slot that is sampled only count their notifications. -/
theorem after_sameSlot {wakeUp : WakeUp} (runs : run.running = true)
    (looks : wakeUp.stopsBefore = false) (notified : wakeUp.notifications ≠ 0)
    (begun : ¬wakeUp.nowUs < run.data.firstSampleUs) (sampled : run.data.haveSampledSlot = true)
    (there : run.data.idealSlot wakeUp.nowUs ≤ run.data.lastSampledSlot) (number : ℕ) :
    (Run.after step run (List.replicate number wakeUp)).data =
        run.data.countMissed (UInt64.ofNat number * wakeUp.notifications.toUInt64) ∧
      (Run.after step run (List.replicate number wakeUp)).running = true ∧
      (Run.after step run (List.replicate number wakeUp)).samples = run.samples := by
  induction number with
  | zero =>
      refine ⟨?_, runs, rfl⟩
      rw [List.replicate_zero, Run.after_nil, show UInt64.ofNat 0 = 0 from rfl, UInt64.zero_mul]
      unfold SamplerData.countMissed
      rw [UInt64.add_zero]
  | succ number inductionHypothesis =>
      obtain ⟨data, running, samples⟩ := inductionHypothesis
      rw [List.replicate_succ', Run.after_concat]
      generalize Run.after step run (List.replicate number wakeUp) = before at data running samples ⊢
      have woken : before.data.wake wakeUp.notifications wakeUp.nowUs =
          (.sameSlot, before.data.countMissed wakeUp.notifications.toUInt64) := by
        rw [data]
        unfold SamplerData.wake
        dsimp only
        exact (if_neg begun).trans (if_pos ⟨sampled, there⟩)
      have looked : ¬((!before.running) = true ∨ wakeUp.stopsBefore = true ∨
          wakeUp.notifications = 0) := by
        rw [running, looks]
        simpa using notified
      unfold SlotRun.step
      rw [if_neg looked, woken]
      refine ⟨?_, running, samples⟩
      dsimp only
      rw [data]
      unfold SamplerData.countMissed
      dsimp only
      rw [UInt64.add_assoc, UInt64.ofNat_add, UInt64.add_mul, UInt64.ofNat_one, UInt64.one_mul]

/-- What `begin` starts with at time 0 -/
def begunAtZero : SamplerData where
  firstSampleUs := 500
  periodUs := 1000
  nextScheduledUs := 500 - 1000
  samplesPerEpoch := 1

/-- One wake-up, in the second slot -/
def secondSlotFirst : SlotRun :=
  SlotRun.step { data := begunAtZero } { notifications := 1, nowUs := 1500, outcome := goodRead }

/-- 2^32 + 1 more wake-ups in that slot, each with 2^32 - 1 notifications -/
def crowdedWakeUps : List WakeUp :=
  List.replicate (2 ^ 32 + 1)
    { notifications := 0xFFFFFFFF, nowUs := 1500, outcome := goodRead }

/-- Then the counter is zero although the first slot was passed over. -/
theorem counter_wraps :
    beginData .hz1000 0 = some begunAtZero ∧
      (after begunAtZero ({ notifications := 1, nowUs := 1500, outcome := goodRead } ::
        crowdedWakeUps)).data.triggerCoalescedOrMissed = 0 ∧
      (after begunAtZero ({ notifications := 1, nowUs := 1500, outcome := goodRead } ::
        crowdedWakeUps)).slots = [1] := by
  have crowded := @after_sameSlot secondSlotFirst
    { notifications := 0xFFFFFFFF, nowUs := 1500, outcome := goodRead } (by decide +kernel) rfl
    (by decide) (by decide +kernel) (by decide +kernel) (by decide +kernel)
  have zero : secondSlotFirst.data.triggerCoalescedOrMissed +
      UInt64.ofNat (2 ^ 32 + 1) * (0xFFFFFFFF : UInt32).toUInt64 = 0 := by
    decide +kernel
  have single : secondSlotFirst.slots = [1] := by decide +kernel
  unfold after crowdedWakeUps
  generalize 2 ^ 32 + 1 = number at zero ⊢
  obtain ⟨data, -, samples⟩ := crowded number
  refine ⟨rfl, ?_, ?_⟩
  · rw [Run.after_cons, ← zero]
    exact congrArg SamplerData.triggerCoalescedOrMissed data
  · rw [Run.after_cons, ← single]
    exact congrArg (List.map fun taken : TakenSample => taken.slot.toNat) samples

end SlotRun

end MissionBoard.Characterization
