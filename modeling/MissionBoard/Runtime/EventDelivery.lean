import MissionBoard.Runtime.EventChannel
import Mathlib.Data.List.Basic

/-!
Owns the delivery of mission events within a flight epoch: a flag that was raised stays
in `event_queue`, in the overflow latch or in the pending event until a MissionEvent
with it has been written, and the MissionEvent that carries the failure flag carries
the detail of the failure of the epoch.

The failure flag is in one place at a time, because `latchDeploymentFailure` raises it
once in an epoch; so the one overflow cell for its detail suffices.
-/

namespace MissionBoard.Runtime.EventChannel

open Protocol

/-! ### Flags -/

theorem carries_or (first second : UInt16) (flag : MissionEventFlag) :
    carries (first ||| second) flag = (carries first flag || carries second flag) := by
  have parts : (first ||| second) &&& eventFlag flag =
      first &&& eventFlag flag ||| second &&& eventFlag flag := by
    rw [← UInt16.toNat_inj]
    simp only [UInt16.toNat_and, UInt16.toNat_or, Nat.and_or_distrib_right]
  unfold carries
  rw [parts]
  simp [UInt16.or_eq_zero_iff]

@[simp] theorem carries_zero (flag : MissionEventFlag) : carries 0 flag = false := by
  simp [carries]

/-- The flag waits in the queue, in the latch or in the pending event. -/
def Holds (channel : EventChannel) (flag : MissionEventFlag) : Prop :=
  (∃ event ∈ channel.queue.items, carries event.flags flag = true) ∨
    carries channel.overflowLatch flag = true ∨
      (channel.eventPending = true ∧ carries channel.pendingEvent.flags flag = true)

/-- A record takes charge of the flags that were raised. -/
def takesFlag : EventRecord → MissionEventFlag → Prop
  | .raised flags, flag => carries flags flag = true
  | _, _ => False

/-- A record releases the flags that were written. -/
def releasesFlag : EventRecord → MissionEventFlag → Prop
  | .written event, flag => carries event.flags flag = true
  | _, _ => False

/-- Every raised flag is contained in a later written MissionEvent or still waits. -/
def FlagsKept (channel : EventChannel) : Prop :=
  Trace.Custody takesFlag releasesFlag channel.Holds channel.log

theorem callStep_flagsKept {channel : EventChannel} (kept : channel.FlagsKept) (index : ℕ)
    (call : EventCall) : (channel.callStep index call).FlagsKept := by
  unfold callStep
  cases call.stage with
  | send =>
      cases sent : channel.queue.send call.event with
      | some queue =>
          have items := BoundedQueue.items_send sent
          refine Trace.Custody.concat kept (fun flag holds => Or.inr ?_) (fun flag taken => ?_)
          · rcases holds with ⟨event, queued, carried⟩ | others
            · exact Or.inl ⟨event, items ▸ List.mem_append_left _ queued, carried⟩
            · exact Or.inr others
          · exact Or.inl ⟨call.event,
              items ▸ List.mem_append_right _ (List.mem_singleton_self _), taken⟩
      | none => exact kept
  | storeDetail => exact kept
  | raiseFlags =>
      refine Trace.Custody.concat kept (fun flag holds => Or.inr ?_) (fun flag taken => ?_)
      · rcases holds with queued | latched | pending
        · exact Or.inl queued
        · refine Or.inr (Or.inl ?_)
          rw [carries_or, latched, Bool.true_or]
        · exact Or.inr (Or.inr pending)
      · refine Or.inr (Or.inl ?_)
        have raised : carries call.event.flags flag = true := taken
        rw [carries_or, raised, Bool.or_true]

theorem drainStep_flagsKept {channel : EventChannel} (kept : channel.FlagsKept)
    (written : Bool) : (channel.drainStep written).FlagsKept := by
  unfold drainStep
  cases channel.stage with
  | receive =>
      cases received : channel.queue.receive with
      | some front =>
          obtain ⟨event, queue⟩ := front
          have items := BoundedQueue.items_receive received
          refine Trace.Custody.mono kept (fun flag holds => ?_)
          rcases holds with ⟨other, queued, carried⟩ | latched | ⟨-, carried⟩
          · rcases List.mem_cons.mp (items ▸ queued) with rfl | later
            · refine Or.inr (Or.inr ⟨rfl, ?_⟩)
              show carries (channel.pendingEvent.flags ||| other.flags) flag = true
              rw [carries_or, carried, Bool.or_true]
            · exact Or.inl ⟨other, later, carried⟩
          · exact Or.inr (Or.inl latched)
          · refine Or.inr (Or.inr ⟨rfl, ?_⟩)
            show carries (channel.pendingEvent.flags ||| event.flags) flag = true
            rw [carries_or, carried, Bool.true_or]
      | none => exact kept
  | takeOverflow =>
      by_cases quiet : channel.overflowLatch = 0
      · rw [if_pos quiet]
        exact kept
      · rw [if_neg quiet]
        refine Trace.Custody.mono kept (fun flag holds => ?_)
        rcases holds with queued | latched | ⟨-, carried⟩
        · exact Or.inl queued
        · refine Or.inr (Or.inr ⟨rfl, ?_⟩)
          rw [carries_or, latched, Bool.or_true]
        · refine Or.inr (Or.inr ⟨rfl, ?_⟩)
          rw [carries_or, carried, Bool.true_or]
  | takeDetail => exact kept
  | write =>
      by_cases succeeds : (channel.eventPending && written) = true
      · simp only [succeeds, if_true]
        refine Trace.Custody.concat kept (fun flag holds => ?_) (fun flag taken => nomatch taken)
        rcases holds with queued | latched | ⟨-, carried⟩
        · exact Or.inr (Or.inl queued)
        · exact Or.inr (Or.inr (Or.inl latched))
        · exact Or.inl carried
      · simp only [succeeds]
        exact kept

theorem step_flagsKept {channel : EventChannel} (kept : channel.FlagsKept)
    (label : ChannelStep) : (channel.step label).FlagsKept := by
  cases label with
  | enqueueEvent event => exact kept
  | latchDeploymentFailure failure =>
      unfold step
      cases channel.deploymentFailure with
      | some earlier => exact kept
      | none =>
          exact Trace.Custody.concat kept (fun flag holds => Or.inr holds)
            (fun flag taken => nomatch taken)
  | call index =>
      cases found : channel.calls[index]? with
      | some call =>
          simp only [step, found]
          exact callStep_flagsKept kept index call
      | none =>
          simp only [step, found]
          exact kept
  | canTask written => exact drainStep_flagsKept kept written

/-! ### The failure flag -/

/-- The failure flag is set. -/
def failing (flags : UInt16) : Bool := carries flags .parachuteDeploymentFailure

/-- In how many places the failure flag is set -/
def failureCount (channel : EventChannel) : ℕ :=
  channel.calls.countP (fun call => failing call.event.flags) +
    channel.queue.items.countP (fun event => failing event.flags) +
    (failing channel.overflowLatch).toNat + (failing channel.pendingEvent.flags).toNat

/-- The detail is that of the failure of this epoch. -/
def FailureDetail (channel : EventChannel) (detail : UInt16) : Prop :=
  ∃ failure, channel.deploymentFailure = some failure ∧ detail = failure.code

/-- Where the detail of a pending failure is: `canTask` takes it from the overflow cell
after the flags. -/
def pendingDetail (channel : EventChannel) : UInt16 :=
  if channel.stage = .takeDetail then channel.failureOverflowDetail
  else channel.pendingEvent.detail

/-- The failure flag is in one place at most, with the detail of the failure beside it. -/
structure FailureTracked (channel : EventChannel) : Prop where
  single : channel.failureCount ≤ 1
  recorded : ∀ failure, .failed failure ∈ channel.log ↔ channel.deploymentFailure = some failure
  called : ∀ call ∈ channel.calls, failing call.event.flags = true →
    channel.FailureDetail call.event.detail ∧
      (call.stage = .raiseFlags → channel.FailureDetail channel.failureOverflowDetail)
  storing : ∀ call ∈ channel.calls, call.stage = .storeDetail → failing call.event.flags = true
  queued : ∀ event ∈ channel.queue.items, failing event.flags = true →
    channel.FailureDetail event.detail
  latched : failing channel.overflowLatch = true →
    channel.FailureDetail channel.failureOverflowDetail
  pending : failing channel.pendingEvent.flags = true → channel.FailureDetail channel.pendingDetail
  taking : channel.stage = .takeDetail → failing channel.pendingEvent.flags = true

/-- A list around the element at an index -/
private theorem exists_around {α : Type} {items : List α} {index : ℕ} {item : α}
    (found : items[index]? = some item) :
    ∃ before after, items = before ++ item :: after ∧
      items.eraseIdx index = before ++ after ∧
        ∀ other, items.set index other = before ++ other :: after := by
  obtain ⟨within, rfl⟩ := List.getElem?_eq_some_iff.mp found
  refine ⟨items.take index, items.drop (index + 1), ?_, List.eraseIdx_eq_take_drop_succ _ _,
    fun other => List.set_eq_take_append_cons_drop.trans (if_pos within)⟩
  rw [List.cons_getElem_drop_succ, List.take_append_drop]

private theorem mem_around {α : Type} {before after : List α} {old new item : α}
    (within : item ∈ before ++ new :: after) : item = new ∨ item ∈ before ++ old :: after := by
  simp only [List.mem_append, List.mem_cons] at within ⊢
  tauto

theorem callStep_failureTracked {channel : EventChannel} (tracked : channel.FailureTracked)
    {index : ℕ} {call : EventCall} (found : channel.calls[index]? = some call) :
    (channel.callStep index call).FailureTracked := by
  obtain ⟨before, after, around, erased, replaced⟩ := exists_around found
  have mine : call ∈ channel.calls := around ▸ List.mem_append_right _ List.mem_cons_self
  have others : ∀ other ∈ before ++ after, other ∈ channel.calls := by
    intro other within
    rw [around]
    simp only [List.mem_append, List.mem_cons] at within ⊢
    tauto
  obtain ⟨single, recorded, called, storing, queued, latched, pending, taking⟩ := tracked
  have counted : channel.failureCount =
      before.countP (fun call => failing call.event.flags) +
        after.countP (fun call => failing call.event.flags) + (failing call.event.flags).toNat +
        channel.queue.items.countP (fun event => failing event.flags) +
        (failing channel.overflowLatch).toNat + (failing channel.pendingEvent.flags).toNat := by
    unfold failureCount
    rw [around, List.countP_append, List.countP_cons]
    cases failing call.event.flags <;> simp [add_assoc]
  have unrecorded : ∀ failure, .failed failure ∈ channel.log ++ [.raised call.event.flags] ↔
      channel.deploymentFailure = some failure := by
    intro failure
    simp [recorded]
  unfold callStep
  cases stage : call.stage with
  | send =>
      cases sent : channel.queue.send call.event with
      | some queue =>
          have items := BoundedQueue.items_send sent
          dsimp only
          refine ⟨?_, unrecorded, ?_, ?_, ?_, latched, pending, taking⟩
          · unfold failureCount
            rw [erased, items, List.countP_append, List.countP_append, List.countP_singleton]
            cases failed : failing call.event.flags <;> simp [failed] at counted ⊢ <;> omega
          · intro other within
            exact called other (others other (erased ▸ within))
          · intro other within
            exact storing other (others other (erased ▸ within))
          · intro event within failed
            rcases List.mem_append.mp (items ▸ within) with earlier | last
            · exact queued event earlier failed
            · obtain rfl := List.mem_singleton.mp last
              exact (called call mine failed).1
      | none =>
          dsimp only
          refine ⟨?_, recorded, ?_, ?_, queued, latched, pending, taking⟩
          · unfold failureCount
            rw [replaced, List.countP_append, List.countP_cons]
            cases failed : failing call.event.flags <;> simp [failed] at counted ⊢ <;> omega
          · intro other within failed
            rw [replaced] at within
            rcases @mem_around _ _ _ call _ _ within with rfl | known
            · refine ⟨(called call mine failed).1, fun raises => ?_⟩
              have carried : carries call.event.flags .parachuteDeploymentFailure = true := failed
              simp [carried] at raises
            · exact called other (around ▸ known) failed
          · intro other within stores
            rw [replaced] at within
            rcases @mem_around _ _ _ call _ _ within with rfl | known
            · by_contra sound
              have quiet : ¬ carries call.event.flags .parachuteDeploymentFailure = true := sound
              simp [quiet] at stores
            · exact storing other (around ▸ known) stores
  | storeDetail =>
      have failed : failing call.event.flags = true := storing call mine stage
      have detail := (called call mine failed).1
      dsimp only
      refine ⟨?_, recorded, ?_, ?_, queued, fun _ => detail, ?_, taking⟩
      · unfold failureCount
        rw [replaced, List.countP_append, List.countP_cons]
        simp [failed] at counted ⊢
        omega
      · intro other within otherFailed
        rw [replaced] at within
        rcases @mem_around _ _ _ call _ _ within with rfl | known
        · exact ⟨detail, fun _ => detail⟩
        · exact ⟨(called other (around ▸ known) otherFailed).1, fun _ => detail⟩
      · intro other within stores
        rw [replaced] at within
        rcases @mem_around _ _ _ call _ _ within with rfl | known
        · cases stores
        · exact storing other (around ▸ known) stores
      · intro pendingFailed
        have known := pending pendingFailed
        unfold pendingDetail at known ⊢
        by_cases takes : channel.stage = .takeDetail
        · rw [if_pos takes]
          exact detail
        · rw [if_neg takes] at known ⊢
          exact known
  | raiseFlags =>
      dsimp only
      refine ⟨?_, unrecorded, ?_, ?_, queued, ?_, pending, taking⟩
      · unfold failureCount
        rw [erased, List.countP_append]
        have latch : failing (channel.overflowLatch ||| call.event.flags) =
            (failing channel.overflowLatch || failing call.event.flags) := carries_or _ _ _
        rw [latch]
        cases failed : failing call.event.flags <;>
          cases overflows : failing channel.overflowLatch <;>
            simp [failed, overflows] at counted ⊢ <;> omega
      · intro other within
        exact called other (others other (erased ▸ within))
      · intro other within
        exact storing other (others other (erased ▸ within))
      · intro failed
        have either : failing channel.overflowLatch = true ∨ failing call.event.flags = true := by
          have both := carries_or channel.overflowLatch call.event.flags
            .parachuteDeploymentFailure
          exact (Bool.or_eq_true _ _).mp (both.symm.trans failed)
        rcases either with overflows | mineFailed
        · exact latched overflows
        · exact (called call mine mineFailed).2 stage

/-- A flag that is in one place is in no other. -/
private theorem elsewhere_of_pending {channel : EventChannel} (tracked : channel.FailureTracked)
    (failed : failing channel.pendingEvent.flags = true) :
    (∀ call ∈ channel.calls, failing call.event.flags = false) ∧
      failing channel.overflowLatch = false := by
  have single := tracked.single
  unfold failureCount at single
  rw [failed] at single
  have calls : channel.calls.countP (fun call => failing call.event.flags) = 0 := by
    simp only [Bool.toNat_true] at single
    omega
  refine ⟨fun call within => ?_, ?_⟩
  · exact Bool.eq_false_iff.mpr (List.countP_eq_zero.mp calls call within)
  · by_contra latched
    rw [Bool.not_eq_false] at latched
    rw [latched] at single
    simp only [Bool.toNat_true] at single
    omega

private theorem failing_zero : failing 0 = false := carries_zero _

private theorem failing_or (first second : UInt16) :
    failing (first ||| second) = (failing first || failing second) := carries_or first second _

private theorem toNat_or_le (first second : Bool) :
    (first || second).toNat ≤ first.toNat + second.toNat := by
  cases first <;> cases second <;> decide

/-- Merging a received event moves its flag and, with it, its detail. -/
private theorem merged_failureTracked {channel : EventChannel} (tracked : channel.FailureTracked)
    (stage : channel.stage = .receive) {event : EventRequest} {queue : BoundedQueue EventRequest 16}
    (received : channel.queue.receive = some (event, queue)) :
    FailureTracked { channel with
      queue
      pendingEvent := merge channel.pendingEvent event
      eventPending := true
      stage := .receive } := by
  have items := BoundedQueue.items_receive received
  have mine : event ∈ channel.queue.items := items ▸ List.mem_cons_self
  have notTaking : channel.stage ≠ .takeDetail := by
    rw [stage]
    decide
  have flags : failing (merge channel.pendingEvent event).flags =
      (failing channel.pendingEvent.flags || failing event.flags) := failing_or _ _
  obtain ⟨single, recorded, called, storing, queued, latched, pending, taking⟩ := tracked
  refine ⟨?_, recorded, called, storing, ?_, latched, ?_, nofun⟩
  · have head : (if failing event.flags = true then 1 else 0) = (failing event.flags).toNat := by
      cases failing event.flags <;> rfl
    have merged := toNat_or_le (failing channel.pendingEvent.flags) (failing event.flags)
    unfold failureCount at single ⊢
    rw [items, List.countP_cons, head] at single
    rw [flags]
    dsimp only
    omega
  · intro other within
    exact queued other (items ▸ List.mem_cons_of_mem _ within)
  · intro failed
    rw [flags, Bool.or_eq_true] at failed
    unfold pendingDetail at pending
    rw [if_neg notTaking] at pending
    show FailureDetail channel (merge channel.pendingEvent event).detail
    by_cases carried : failing event.flags = true
    · have detail : (merge channel.pendingEvent event).detail = event.detail := by
        have flag : carries event.flags .parachuteDeploymentFailure = true := carried
        simp [merge, flag]
      rw [detail]
      exact queued event mine carried
    · have waiting : failing channel.pendingEvent.flags = true := failed.resolve_right carried
      have detail : (merge channel.pendingEvent event).detail = channel.pendingEvent.detail := by
        have flag : carries event.flags .parachuteDeploymentFailure = false :=
          Bool.eq_false_iff.mpr carried
        have held : carries channel.pendingEvent.flags .parachuteDeploymentFailure = true := waiting
        simp [merge, flag, held]
      rw [detail]
      exact pending waiting

theorem drainStep_failureTracked {channel : EventChannel} (tracked : channel.FailureTracked)
    (written : Bool) : (channel.drainStep written).FailureTracked := by
  unfold drainStep
  cases stage : channel.stage with
  | receive =>
      cases received : channel.queue.receive with
      | some front => exact merged_failureTracked tracked stage received
      | none =>
          dsimp only
          obtain ⟨single, recorded, called, storing, queued, latched, pending, taking⟩ := tracked
          refine ⟨single, recorded, called, storing, queued, latched, ?_, nofun⟩
          intro failed
          have known := pending failed
          unfold pendingDetail at known
          rwa [if_neg (by rw [stage]; decide)] at known
  | takeOverflow =>
      have notTaking : channel.stage ≠ .takeDetail := by
        rw [stage]
        decide
      obtain ⟨single, recorded, called, storing, queued, latched, pending, taking⟩ := tracked
      unfold pendingDetail at pending
      rw [if_neg notTaking] at pending
      by_cases quiet : channel.overflowLatch = 0
      · dsimp only
        rw [if_pos quiet]
        exact ⟨single, recorded, called, storing, queued, latched, pending, nofun⟩
      · dsimp only
        rw [if_neg quiet]
        have flags : failing (channel.pendingEvent.flags ||| channel.overflowLatch) =
            (failing channel.pendingEvent.flags || failing channel.overflowLatch) :=
          failing_or _ _
        have merged := toNat_or_le (failing channel.pendingEvent.flags)
          (failing channel.overflowLatch)
        refine ⟨?_, recorded, called, storing, queued, fun failed => ?_, ?_, ?_⟩
        · unfold failureCount at single ⊢
          dsimp only
          rw [flags, failing_zero]
          simp only [Bool.toNat_false]
          omega
        · exact absurd failed (by rw [failing_zero]; decide)
        · intro failed
          unfold pendingDetail
          dsimp only
          rw [flags, Bool.or_eq_true] at failed
          by_cases overflows : carries channel.overflowLatch .parachuteDeploymentFailure = true
          · rw [if_pos overflows, if_pos rfl]
            exact latched overflows
          · rw [if_neg overflows, if_neg (by decide)]
            exact pending (failed.resolve_right overflows)
        · intro takes
          dsimp only at takes ⊢
          by_cases overflows : carries channel.overflowLatch .parachuteDeploymentFailure = true
          · rw [flags, show failing channel.overflowLatch = true from overflows, Bool.or_true]
          · rw [if_neg overflows] at takes
            cases takes
  | takeDetail =>
      dsimp only
      have failed := tracked.taking stage
      obtain ⟨noCall, noLatch⟩ := elsewhere_of_pending tracked failed
      obtain ⟨single, recorded, called, storing, queued, latched, pending, taking⟩ := tracked
      refine ⟨single, recorded, ?_, storing, queued, ?_, ?_, nofun⟩
      · intro call within callFails
        exact absurd (noCall call within) (by rw [callFails]; decide)
      · intro latchFails
        have overflows : failing channel.overflowLatch = true := latchFails
        exact absurd noLatch (by rw [overflows]; decide)
      · intro _
        have known := pending failed
        unfold pendingDetail at known
        rwa [if_pos stage] at known
  | write =>
      have notTaking : channel.stage ≠ .takeDetail := by
        rw [stage]
        decide
      obtain ⟨single, recorded, called, storing, queued, latched, pending, taking⟩ := tracked
      unfold pendingDetail at pending
      rw [if_neg notTaking] at pending
      dsimp only
      by_cases succeeds : (channel.eventPending && written) = true
      · rw [if_pos succeeds]
        refine ⟨?_, ?_, called, storing, queued, latched, fun failed => ?_, nofun⟩
        · unfold failureCount at single ⊢
          dsimp only
          rw [failing_zero]
          simp only [Bool.toNat_false]
          omega
        · intro failure
          simp [recorded]
        · exact absurd failed (by rw [failing_zero]; decide)
      · rw [if_neg succeeds]
        exact ⟨single, recorded, called, storing, queued, latched, pending, nofun⟩

/-- Before a failure is latched the failure flag is nowhere. -/
private theorem failureCount_of_unraised {channel : EventChannel} (tracked : channel.FailureTracked)
    (unraised : channel.deploymentFailure = none) : channel.failureCount = 0 := by
  have nothing : ∀ detail, ¬ channel.FailureDetail detail := by
    rintro detail ⟨failure, raised, -⟩
    rw [unraised] at raised
    cases raised
  have calls : channel.calls.countP (fun call => failing call.event.flags) = 0 :=
    List.countP_eq_zero.mpr fun call within failed =>
      nothing _ (tracked.called call within failed).1
  have items : channel.queue.items.countP (fun event => failing event.flags) = 0 :=
    List.countP_eq_zero.mpr fun event within failed =>
      nothing _ (tracked.queued event within failed)
  have latch : failing channel.overflowLatch = false :=
    Bool.eq_false_iff.mpr fun failed => nothing _ (tracked.latched failed)
  have pending : failing channel.pendingEvent.flags = false :=
    Bool.eq_false_iff.mpr fun failed => nothing _ (tracked.pending failed)
  unfold failureCount
  rw [calls, items, latch, pending]
  rfl

theorem step_failureTracked {channel : EventChannel} (tracked : channel.FailureTracked)
    (label : ChannelStep) : (channel.step label).FailureTracked := by
  cases label with
  | enqueueEvent event =>
      have ordinary : failing event.val.flags = false := event.property
      obtain ⟨single, recorded, called, storing, queued, latched, pending, taking⟩ := tracked
      refine ⟨?_, recorded, ?_, ?_, queued, latched, pending, taking⟩
      · unfold failureCount at single ⊢
        simp only [step, List.countP_append, List.countP_singleton, ordinary]
        simpa using single
      · intro call within failed
        rcases List.mem_append.mp within with known | new
        · exact called call known failed
        · obtain rfl := List.mem_singleton.mp new
          exact absurd failed (by rw [ordinary]; decide)
      · intro call within stores
        rcases List.mem_append.mp within with known | new
        · exact storing call known stores
        · obtain rfl := List.mem_singleton.mp new
          cases stores
  | latchDeploymentFailure failure =>
      cases raised : channel.deploymentFailure with
      | some earlier =>
          simp only [step, raised]
          exact tracked
      | none =>
          have count := failureCount_of_unraised tracked raised
          have nothing : ∀ detail, ¬ channel.FailureDetail detail := by
            rintro detail ⟨other, known, -⟩
            rw [raised] at known
            cases known
          obtain ⟨single, recorded, called, storing, queued, latched, pending, taking⟩ := tracked
          simp only [step, raised]
          refine ⟨?_, ?_, ?_, ?_, ?_, ?_, ?_, taking⟩
          · unfold failureCount at count ⊢
            simp only [List.countP_append, List.countP_singleton]
            have one : failing (failureEvent failure).flags = true :=
              (by decide : failing (eventFlag .parachuteDeploymentFailure) = true)
            simp only [one, if_true]
            omega
          · intro other
            have unrecorded : .failed other ∉ channel.log := by
              rw [recorded, raised]
              nofun
            simp [unrecorded, eq_comm]
          · intro call within failed
            rcases List.mem_append.mp within with known | new
            · exact absurd (called call known failed).1 (nothing _)
            · obtain rfl := List.mem_singleton.mp new
              exact ⟨⟨failure, rfl, rfl⟩, nofun⟩
          · intro call within stores
            rcases List.mem_append.mp within with known | new
            · exact storing call known stores
            · obtain rfl := List.mem_singleton.mp new
              cases stores
          · intro event within failed
            exact absurd (queued event within failed) (nothing _)
          · intro failed
            exact absurd (latched failed) (nothing _)
          · intro failed
            exact absurd (pending failed) (nothing _)
  | call index =>
      cases found : channel.calls[index]? with
      | some call =>
          simp only [step, found]
          exact callStep_failureTracked tracked found
      | none =>
          simp only [step, found]
          exact tracked
  | canTask written => exact drainStep_failureTracked tracked written

/-! ### Within one flight epoch -/

/-- A channel as a flight epoch begins: the two failure cells have been reset, and no
failure flag of an earlier epoch is on its way. Other events may be anywhere. -/
structure BeginsEpoch (channel : EventChannel) : Prop where
  unraised : channel.deploymentFailure = none
  noFailure : channel.failureCount = 0
  notStoring : ∀ call ∈ channel.calls, call.stage ≠ .storeDetail
  notTaking : channel.stage ≠ .takeDetail
  unlogged : channel.log = []

theorem BeginsEpoch.failureTracked {channel : EventChannel} (begins : channel.BeginsEpoch) :
    channel.FailureTracked := by
  have count := begins.noFailure
  unfold failureCount at count
  have calls : channel.calls.countP (fun call => failing call.event.flags) = 0 := by omega
  have items : channel.queue.items.countP (fun event => failing event.flags) = 0 := by omega
  have latch : failing channel.overflowLatch = false := by
    cases failed : failing channel.overflowLatch
    · rfl
    · simp [failed] at count
  have pending : failing channel.pendingEvent.flags = false := by
    cases failed : failing channel.pendingEvent.flags
    · rfl
    · simp [failed] at count
  refine ⟨by rw [begins.noFailure]; exact Nat.zero_le 1, ?_, ?_, ?_, ?_, ?_, ?_, ?_⟩
  · intro failure
    rw [begins.unlogged, begins.unraised]
    simp
  · intro call within failed
    exact absurd failed (List.countP_eq_zero.mp calls call within)
  · intro call within stores
    exact absurd stores (begins.notStoring call within)
  · intro event within failed
    exact absurd failed (List.countP_eq_zero.mp items event within)
  · intro failed
    exact absurd failed (by rw [latch]; decide)
  · intro failed
    exact absurd failed (by rw [pending]; decide)
  · intro takes
    exact absurd takes begins.notTaking

/-- A MissionEvent with the failure flag tells the detail of a failure latched before it. -/
def tellsFailure (before : List EventRecord) : EventRecord → Prop
  | .written event => failing event.flags = true →
      ∃ failure, .failed failure ∈ before ∧ event.detail = failure.code
  | _ => True

theorem step_tellsFailure {channel : EventChannel} (tracked : channel.FailureTracked)
    (tells : Trace.Throughout tellsFailure channel.log) (label : ChannelStep) :
    Trace.Throughout tellsFailure (channel.step label).log := by
  cases label with
  | enqueueEvent event => exact tells
  | latchDeploymentFailure failure =>
      cases raised : channel.deploymentFailure with
      | some earlier =>
          simp only [step, raised]
          exact tells
      | none =>
          simp only [step, raised]
          exact Trace.throughout_concat tells trivial
  | call index =>
      cases found : channel.calls[index]? with
      | none =>
          simp only [step, found]
          exact tells
      | some call =>
          simp only [step, found]
          unfold callStep
          cases call.stage with
          | send =>
              cases channel.queue.send call.event with
              | some queue => exact Trace.throughout_concat tells trivial
              | none => exact tells
          | storeDetail => exact tells
          | raiseFlags => exact Trace.throughout_concat tells trivial
  | canTask written =>
      simp only [step]
      unfold drainStep
      cases stage : channel.stage with
      | receive =>
          cases channel.queue.receive with
          | some front => exact tells
          | none => exact tells
      | takeOverflow =>
          dsimp only
          split
          · exact tells
          · exact tells
      | takeDetail => exact tells
      | write =>
          dsimp only
          by_cases succeeds : (channel.eventPending && written) = true
          · rw [if_pos succeeds]
            refine Trace.throughout_concat tells (fun failed => ?_)
            obtain ⟨failure, raised, detail⟩ := tracked.pending failed
            refine ⟨failure, (tracked.recorded failure).mpr raised, ?_⟩
            unfold pendingDetail at detail
            rwa [if_neg (by rw [stage]; decide)] at detail
          · rw [if_neg succeeds]
            exact tells

/-- **No flag is lost.** Within a flight epoch, whatever calls of `enqueueEvent`, steps of
`canTask` and failing writes interleave: a raised flag is contained in a later written
MissionEvent or still waits in `event_queue`, in the overflow latch or in the pending
event; a written MissionEvent with the failure flag carries the detail of a failure
latched before it; and the epoch has one failure only. -/
theorem events_delivered {channel : EventChannel} (begins : channel.BeginsEpoch)
    (labels : List ChannelStep) :
    let final := Run.after step channel labels
    final.FlagsKept ∧ Trace.Throughout tellsFailure final.log ∧
      ∀ failure other, .failed failure ∈ final.log → .failed other ∈ final.log →
        failure = other := by
  have preserved : ∀ (state : EventChannel) (label : ChannelStep),
      (state.FlagsKept ∧ state.FailureTracked ∧ Trace.Throughout tellsFailure state.log) → True →
      ((state.step label).FlagsKept ∧ (state.step label).FailureTracked ∧
        Trace.Throughout tellsFailure (state.step label).log) :=
    fun state label ⟨kept, tracked, tells⟩ _ =>
      ⟨step_flagsKept kept label, step_failureTracked tracked label,
        step_tellsFailure tracked tells label⟩
  have initially : channel.FlagsKept ∧ channel.FailureTracked ∧
      Trace.Throughout tellsFailure channel.log := by
    refine ⟨?_, begins.failureTracked, ?_⟩
    · unfold FlagsKept
      rw [begins.unlogged]
      exact Trace.custody_nil _ _ _
    · rw [begins.unlogged]
      exact Trace.throughout_nil _
  obtain ⟨kept, tracked, tells⟩ := Run.invariant_after preserved initially
    (Run.along_of_forall (fun _ _ => trivial) channel labels)
  refine ⟨kept, tells, ?_⟩
  intro failure other recorded alsoRecorded
  have same := (tracked.recorded failure).mp recorded
  rw [(tracked.recorded other).mp alsoRecorded] at same
  exact (Option.some.inj same).symm

/-- A failure that finds `event_queue` full, and a first write that fails -/
def overflowedFailure : List ChannelStep :=
  let fill : List ChannelStep :=
    (List.replicate 16 [.enqueueEvent ⟨{ flags := eventFlag .canRecovery }, rfl⟩, .call 0]).flatten
  fill ++ [.latchDeploymentFailure .motionTimeout, .call 0, .call 0, .call 0] ++
    List.replicate 20 (.canTask false) ++ List.replicate 3 (.canTask true)

theorem events_delivered_overflowedFailure :
    let final := Run.after step {} overflowedFailure
    .written ⟨0, 0x8800, .commandReceive, 0, 5⟩ ∈ final.log ∧ final.FlagsKept ∧
      Trace.Throughout tellsFailure final.log :=
  have delivered := @events_delivered {} ⟨rfl, by decide, by decide, by decide, rfl⟩ overflowedFailure
  ⟨by decide +kernel, delivered.1, delivered.2.1⟩

end MissionBoard.Runtime.EventChannel
