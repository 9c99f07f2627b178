import MissionBoard.Mission.MissionState

/-!
Owns `safetyTask` of `runtime/production_runtime.cpp`: its local variables, one
iteration of its loop, and what the iteration does outside the task. The loop
reads the mission snapshot only when it gets the state mutex at once.
-/

namespace MissionBoard.Runtime

open Protocol Mission

/-- `PowerRequest` -/
structure PowerRequest where
  auxiliary5v : Bool := false
  parachutePower : Bool := false
  cutoff : Bool := false
  updateAuxiliary5v : Bool := true
  updateParachutePower : Bool := true
deriving DecidableEq

/-- `ParaRequest::Kind` -/
inductive ParaRequestKind where
  | open
  | hold
  | powerOff
deriving DecidableEq

/-- `ParaRequest` -/
structure ParaRequest where
  kind : ParaRequestKind := .powerOff
  flightEpoch : UInt32 := 0
  safetyAuthorized : Bool := false
deriving DecidableEq

/-- What an iteration does outside the task's own variables. -/
inductive SafetyEffect where
  | setAux5v (on : Bool)
  | setTrackedParaPower (on : Bool)
  | storeRecoveryPowerSafe (safe : Bool)
  | storeStsReady (ready : Bool)
  | storeParaModePoweredOff
  | sendPara (request : ParaRequest) (toFront : Bool)
  | sendRecoveryEnter
deriving DecidableEq

/-- The local variables of `safetyTask`. -/
structure SafetyTask where
  cutoffLatched : Bool := false
  trackedEpoch : UInt32 := 0
  liftoffValid : Bool := false
  liftoffTimeUs : UInt64 := 0
  elapsedOffsetUs : UInt64 := 0
  deploymentRequested : Bool := false
  recoveryEntryQueued : Bool := false
  trackedState : MissionState := .commandReceive
deriving DecidableEq

/-- What an iteration reads besides the mission snapshot: the flags and queues of
other tasks, the timer, and whether each call it makes succeeds. -/
structure SafetyInput where
  recoveryRequested : Bool := false
  aux5vSafe : Bool := true
  paraPowerSafe : Bool := true
  powerRequests : List PowerRequest := []
  takesMutex : Bool := true
  nowUs : UInt64 := 0
  pressureDeploymentEpoch : UInt32 := 0
  paraQueueAccepts : Bool := true
  recoveryQueueAccepts : Bool := true
deriving DecidableEq

/-- The power shutdown that a latched cutoff performs. -/
def powerOffEffects : List SafetyEffect :=
  [.setAux5v false, .setTrackedParaPower false, .storeStsReady false, .storeParaModePoweredOff]

/-- The recovery block: power is switched off while recovery is requested. -/
def recoveryEffects (input : SafetyInput) : List SafetyEffect :=
  if input.recoveryRequested then
    [.setAux5v false, .setTrackedParaPower false,
      .storeRecoveryPowerSafe (input.aux5vSafe && input.paraPowerSafe)] ++
    if input.paraPowerSafe then [.storeStsReady false, .storeParaModePoweredOff] else []
  else []

namespace SafetyTask

/-- One request of `power_queue`. -/
def drainRequest (state : SafetyTask × List SafetyEffect) (request : PowerRequest) :
    SafetyTask × List SafetyEffect :=
  let task := { state.1 with cutoffLatched := state.1.cutoffLatched || request.cutoff }
  (task, state.2 ++
    if task.cutoffLatched then powerOffEffects
    else
      (if request.updateAuxiliary5v then [.setAux5v request.auxiliary5v] else []) ++
        if request.updateParachutePower then [.setTrackedParaPower request.parachutePower] else [])

/-- The loop that empties `power_queue`. -/
def drainPower (task : SafetyTask) (requests : List PowerRequest) :
    SafetyTask × List SafetyEffect :=
  requests.foldl drainRequest (task, [])

/-- The `elapsed_offset_us` the task takes from a snapshot whose liftoff it adopts. -/
def adoptedOffset (snapshot : MissionSnapshot) : UInt64 :=
  if snapshot.resetInvalidated then snapshot.elapsedUs else 0

/-- The block under `state_mutex`. -/
def observe (task : SafetyTask) (snapshot : MissionSnapshot) : SafetyTask :=
  let seen := { task with trackedState := snapshot.state }
  let adopted : SafetyTask :=
    if snapshot.flightEpoch ≠ task.trackedEpoch then
      { seen with
        trackedEpoch := snapshot.flightEpoch
        recoveryEntryQueued := false
        cutoffLatched := snapshot.deploymentPowerCutoffLatched
        liftoffValid := snapshot.liftoffTimeValid
        liftoffTimeUs := snapshot.liftoffTimeUs
        elapsedOffsetUs := adoptedOffset snapshot
        deploymentRequested := snapshot.deploymentStarted }
    else if snapshot.liftoffTimeValid ∧ task.liftoffValid = false then
      { seen with
        liftoffValid := true
        liftoffTimeUs := snapshot.liftoffTimeUs
        elapsedOffsetUs := adoptedOffset snapshot }
    else seen
  { adopted with
    deploymentRequested := adopted.deploymentRequested || snapshot.deploymentStarted }

/-- The `elapsed_us` of an iteration. -/
def elapsedAt (task : SafetyTask) (nowUs : UInt64) : UInt64 :=
  if task.liftoffValid ∧ task.liftoffTimeUs ≤ nowUs then
    task.elapsedOffsetUs + nowUs - task.liftoffTimeUs
  else 0

/-- The deployment block: the pressure request from 10 s, the deadline from 17 s. -/
def requestDeployment (task : SafetyTask) (input : SafetyInput) (elapsedUs : UInt64) :
    SafetyTask × List SafetyEffect :=
  if task.deploymentRequested = false ∧
      ((input.pressureDeploymentEpoch = task.trackedEpoch ∧ 10000000 ≤ elapsedUs) ∨
        17000000 ≤ elapsedUs) then
    ({ task with deploymentRequested := input.paraQueueAccepts },
      [.sendPara { kind := .open, flightEpoch := task.trackedEpoch, safetyAuthorized := true } true])
  else (task, [])

/-- The absolute power cutoff from 25 s. -/
def latchCutoff (task : SafetyTask) (nowUs elapsedUs : UInt64) : SafetyTask × List SafetyEffect :=
  if task.cutoffLatched = false ∧ task.liftoffValid ∧ task.liftoffTimeUs ≤ nowUs ∧
      25000000 ≤ elapsedUs then
    ({ task with cutoffLatched := true },
      powerOffEffects ++
        [.sendPara { kind := .powerOff, flightEpoch := task.trackedEpoch, safetyAuthorized := true }
          false])
  else (task, [])

/-- The automatic recovery entry from 120 s. -/
def queueRecovery (task : SafetyTask) (input : SafetyInput) (elapsedUs : UInt64) :
    SafetyTask × List SafetyEffect :=
  if task.recoveryEntryQueued = false ∧ task.trackedState = .descent ∧ task.cutoffLatched ∧
      task.liftoffValid ∧ 120000000 ≤ elapsedUs then
    ({ task with recoveryEntryQueued := input.recoveryQueueAccepts }, [.sendRecoveryEnter])
  else (task, [])

/-- The task when the iteration reads the timer. -/
def observed (task : SafetyTask) (snapshot : MissionSnapshot) (input : SafetyInput) : SafetyTask :=
  let drained := (task.drainPower input.powerRequests).1
  if input.takesMutex then drained.observe snapshot else drained

/-- What follows the observation: the deadlines, in order. -/
def act (task : SafetyTask) (input : SafetyInput) : SafetyTask × List SafetyEffect :=
  let elapsedUs := task.elapsedAt input.nowUs
  let requested := task.requestDeployment input elapsedUs
  let latched := requested.1.latchCutoff input.nowUs elapsedUs
  let queued := latched.1.queueRecovery input elapsedUs
  (queued.1, requested.2 ++ latched.2 ++ queued.2)

/-- One iteration: the variables it leaves and what it does, in order. -/
def iterate (task : SafetyTask) (snapshot : MissionSnapshot) (input : SafetyInput) :
    SafetyTask × List SafetyEffect :=
  let observed := task.observed snapshot input
  let elapsedUs := observed.elapsedAt input.nowUs
  let requested := observed.requestDeployment input elapsedUs
  let latched := requested.1.latchCutoff input.nowUs elapsedUs
  let queued := latched.1.queueRecovery input elapsedUs
  (queued.1, recoveryEffects input ++ (task.drainPower input.powerRequests).2 ++ requested.2 ++
    latched.2 ++ queued.2)

/-- An iteration observes and then acts. -/
theorem iterate_eq_act (task : SafetyTask) (snapshot : MissionSnapshot) (input : SafetyInput) :
    task.iterate snapshot input =
      (((task.observed snapshot input).act input).1,
        recoveryEffects input ++ (task.drainPower input.powerRequests).2 ++
          ((task.observed snapshot input).act input).2) := by
  simp only [iterate, act, List.append_assoc]

/-! ### The clock of the task -/

/-- The flight clock the task keeps for itself. -/
def clock (task : SafetyTask) : ElapsedClock where
  running := task.liftoffValid
  origin := task.liftoffTimeUs
  offset := task.elapsedOffsetUs

/-- The epoch the task tracks, with its clock. -/
def tracking (task : SafetyTask) : UInt32 × ElapsedClock := (task.trackedEpoch, task.clock)

theorem elapsedAt_eq_reading (task : SafetyTask) (nowUs : UInt64) :
    task.elapsedAt nowUs = task.clock.reading nowUs := rfl

/-- Equal tracking reads alike. -/
theorem elapsedAt_of_tracking {left right : SafetyTask} (same : left.tracking = right.tracking)
    (nowUs : UInt64) : left.elapsedAt nowUs = right.elapsedAt nowUs := by
  have clocks : left.clock = right.clock := congrArg Prod.snd same
  rw [elapsedAt_eq_reading, elapsedAt_eq_reading, clocks]

/-- Equal tracking agrees on all it consists of. -/
theorem fields_of_tracking {left right : SafetyTask} (same : left.tracking = right.tracking) :
    left.trackedEpoch = right.trackedEpoch ∧ left.liftoffValid = right.liftoffValid ∧
      left.liftoffTimeUs = right.liftoffTimeUs ∧ left.elapsedOffsetUs = right.elapsedOffsetUs :=
  ⟨congrArg Prod.fst same, congrArg (fun tracking => tracking.2.running) same,
    congrArg (fun tracking => tracking.2.origin) same,
    congrArg (fun tracking => tracking.2.offset) same⟩

theorem foldl_drainRequest_tracking (requests : List PowerRequest)
    (state : SafetyTask × List SafetyEffect) :
    (requests.foldl drainRequest state).1.tracking = state.1.tracking := by
  induction requests generalizing state with
  | nil => rfl
  | cons request rest inductionHypothesis =>
      rw [List.foldl_cons, inductionHypothesis]
      rfl

/-- The power requests do not touch the clock. -/
theorem drainPower_tracking (task : SafetyTask) (requests : List PowerRequest) :
    (task.drainPower requests).1.tracking = task.tracking :=
  foldl_drainRequest_tracking requests (task, [])

theorem requestDeployment_tracking (task : SafetyTask) (input : SafetyInput)
    (elapsedUs : UInt64) :
    (task.requestDeployment input elapsedUs).1.tracking = task.tracking := by
  unfold requestDeployment
  split <;> rfl

theorem latchCutoff_tracking (task : SafetyTask) (nowUs elapsedUs : UInt64) :
    (task.latchCutoff nowUs elapsedUs).1.tracking = task.tracking := by
  unfold latchCutoff
  split <;> rfl

theorem queueRecovery_tracking (task : SafetyTask) (input : SafetyInput) (elapsedUs : UInt64) :
    (task.queueRecovery input elapsedUs).1.tracking = task.tracking := by
  unfold queueRecovery
  split <;> rfl

/-- Only the observation moves the clock. -/
theorem iterate_tracking (task : SafetyTask) (snapshot : MissionSnapshot) (input : SafetyInput) :
    (task.iterate snapshot input).1.tracking = (task.observed snapshot input).tracking := by
  unfold iterate
  dsimp only
  rw [queueRecovery_tracking, latchCutoff_tracking, requestDeployment_tracking]

/-- The observation takes over the snapshot's liftoff. -/
def Adopts (task : SafetyTask) (snapshot : MissionSnapshot) : Prop :=
  snapshot.liftoffTimeValid = true ∧
    (snapshot.flightEpoch ≠ task.trackedEpoch ∨ task.liftoffValid = false)

instance (task : SafetyTask) (snapshot : MissionSnapshot) : Decidable (task.Adopts snapshot) :=
  inferInstanceAs (Decidable (_ ∧ _))

/-- An adopted liftoff brings its time and the snapshot's offset. -/
theorem observe_of_adopts {task : SafetyTask} {snapshot : MissionSnapshot}
    (adopts : task.Adopts snapshot) :
    (task.observe snapshot).tracking =
      (snapshot.flightEpoch, ⟨true, snapshot.liftoffTimeUs, adoptedOffset snapshot⟩) := by
  obtain ⟨lifted, moves⟩ := adopts
  unfold observe
  dsimp only
  by_cases same : snapshot.flightEpoch = task.trackedEpoch
  · have unlifted := moves.resolve_left (not_not.mpr same)
    rw [if_neg (not_not.mpr same), if_pos ⟨lifted, unlifted⟩, same]
    rfl
  · rw [if_pos same, ← lifted]
    rfl

/-- Otherwise the clock is stopped or left alone. -/
theorem observe_of_not_adopts {task : SafetyTask} {snapshot : MissionSnapshot}
    (keeps : ¬ task.Adopts snapshot) :
    (task.observe snapshot).liftoffValid = false ∨
      (task.observe snapshot).tracking = task.tracking := by
  unfold Adopts at keeps
  unfold observe
  dsimp only
  by_cases same : snapshot.flightEpoch = task.trackedEpoch
  · rw [if_neg (not_not.mpr same), if_neg]
    · exact Or.inr rfl
    · rintro ⟨lifted, unlifted⟩
      exact keeps ⟨lifted, Or.inr unlifted⟩
  · rw [if_pos same]
    left
    exact Bool.eq_false_of_not_eq_true fun lifted => keeps ⟨lifted, Or.inl same⟩

/-- Adoption depends on the tracked epoch and the clock alone. -/
theorem adopts_congr {left right : SafetyTask} (same : left.tracking = right.tracking)
    (snapshot : MissionSnapshot) : left.Adopts snapshot ↔ right.Adopts snapshot := by
  have epoch : left.trackedEpoch = right.trackedEpoch := congrArg Prod.fst same
  have valid : left.liftoffValid = right.liftoffValid :=
    congrArg (fun tracking => tracking.2.running) same
  unfold Adopts
  rw [epoch, valid]

theorem observed_of_adopts {task : SafetyTask} {snapshot : MissionSnapshot} {input : SafetyInput}
    (takes : input.takesMutex = true) (adopts : task.Adopts snapshot) :
    (task.observed snapshot input).tracking =
      (snapshot.flightEpoch, ⟨true, snapshot.liftoffTimeUs, adoptedOffset snapshot⟩) := by
  unfold observed
  rw [if_pos takes]
  exact observe_of_adopts ((adopts_congr (drainPower_tracking task _) snapshot).mpr adopts)

theorem observed_of_not_adopts {task : SafetyTask} {snapshot : MissionSnapshot}
    {input : SafetyInput} (keeps : ¬ (input.takesMutex = true ∧ task.Adopts snapshot)) :
    (task.observed snapshot input).liftoffValid = false ∨
      (task.observed snapshot input).tracking = task.tracking := by
  have drained := drainPower_tracking task input.powerRequests
  unfold observed
  dsimp only
  split
  · next takes =>
    rw [← drained]
    apply observe_of_not_adopts
    rw [adopts_congr drained snapshot]
    exact fun adopts => keeps ⟨takes, adopts⟩
  · exact Or.inr drained

/-- A liftoff that is tracked already is not taken over again. -/
theorem observed_of_tracks {task : SafetyTask} {snapshot : MissionSnapshot}
    (valid : task.liftoffValid = true) (same : snapshot.flightEpoch = task.trackedEpoch)
    (input : SafetyInput) : (task.observed snapshot input).tracking = task.tracking := by
  have drained := drainPower_tracking task input.powerRequests
  unfold observed
  dsimp only
  generalize (task.drainPower input.powerRequests).1 = power at drained ⊢
  have epoch : power.trackedEpoch = task.trackedEpoch := congrArg Prod.fst drained
  have running : power.liftoffValid = true :=
    (congrArg (fun tracking => tracking.2.running) drained).trans valid
  split
  · rw [← drained]
    unfold observe
    dsimp only
    rw [if_neg (not_not.mpr (same.trans epoch.symm)), if_neg (by simp [running])]
    rfl
  · exact drained

/-- The deadlines do not touch the clock. -/
theorem act_tracking (task : SafetyTask) (input : SafetyInput) :
    (task.act input).1.tracking = task.tracking := by
  unfold act
  dsimp only
  rw [queueRecovery_tracking, latchCutoff_tracking, requestDeployment_tracking]

/-! ### The open request -/

private theorem foldl_drainRequest_deploymentRequested (requests : List PowerRequest)
    (state : SafetyTask × List SafetyEffect) :
    (requests.foldl drainRequest state).1.deploymentRequested = state.1.deploymentRequested := by
  induction requests generalizing state with
  | nil => rfl
  | cons request rest inductionHypothesis =>
      rw [List.foldl_cons, inductionHypothesis]
      rfl

/-- A request on record after an observation was reported by the snapshot, or was on record
before for the same epoch. -/
theorem deploymentRequested_observed {task : SafetyTask} {snapshot : MissionSnapshot}
    {input : SafetyInput} (requested : (task.observed snapshot input).deploymentRequested = true) :
    (input.takesMutex = true ∧ snapshot.deploymentStarted = true) ∨
      (task.deploymentRequested = true ∧
        ¬ (input.takesMutex = true ∧ snapshot.flightEpoch ≠ task.trackedEpoch) ∧
          (task.observed snapshot input).trackedEpoch = task.trackedEpoch) := by
  have drained := drainPower_tracking task input.powerRequests
  have kept : (task.drainPower input.powerRequests).1.deploymentRequested =
      task.deploymentRequested :=
    foldl_drainRequest_deploymentRequested input.powerRequests (task, [])
  unfold observed at requested ⊢
  dsimp only at requested ⊢
  generalize (task.drainPower input.powerRequests).1 = power at drained kept requested ⊢
  have epoch : power.trackedEpoch = task.trackedEpoch := congrArg Prod.fst drained
  by_cases takes : input.takesMutex = true
  · rw [if_pos takes] at requested ⊢
    by_cases started : snapshot.deploymentStarted = true
    · exact Or.inl ⟨takes, started⟩
    · right
      unfold observe at requested ⊢
      dsimp only at requested ⊢
      rw [Bool.eq_false_of_not_eq_true started, Bool.or_false] at requested
      by_cases same : snapshot.flightEpoch = power.trackedEpoch
      · rw [if_neg (not_not.mpr same)] at requested ⊢
        refine ⟨?_, fun turns => turns.2 (same.trans epoch), ?_⟩
        · rw [← kept, ← requested]
          split <;> rfl
        · rw [← epoch]
          split <;> rfl
      · rw [if_pos same] at requested
        exact absurd requested Bool.false_ne_true
  · rw [if_neg takes] at requested ⊢
    exact Or.inr ⟨kept ▸ requested, fun turns => takes turns.1, epoch⟩

/-- The deadline of an iteration has passed: 17 s, or 10 s with the published epoch. -/
def DeadlinePassed (task : SafetyTask) (input : SafetyInput) : Prop :=
  (input.pressureDeploymentEpoch = task.trackedEpoch ∧
      10000000 ≤ task.elapsedAt input.nowUs) ∨
    17000000 ≤ task.elapsedAt input.nowUs

/-- A passed deadline is one of a running clock. -/
theorem DeadlinePassed.liftoffValid {task : SafetyTask} {input : SafetyInput}
    (passed : task.DeadlinePassed input) : task.liftoffValid = true := by
  by_contra stopped
  have zero : task.elapsedAt input.nowUs = 0 := if_neg fun runs => stopped runs.1
  unfold DeadlinePassed at passed
  rw [zero] at passed
  rcases passed with ⟨-, early⟩ | late
  · exact absurd early (by decide)
  · exact absurd late (by decide)

end SafetyTask

/-- The epoch an effect asks to open in. -/
def SafetyEffect.openingEpoch : SafetyEffect → Option UInt32
  | .sendPara request _ => if request.kind = .open then some request.flightEpoch else none
  | _ => none

namespace SafetyTask

private theorem openingEpoch_latchCutoff (task : SafetyTask) (nowUs elapsedUs : UInt64) :
    (task.latchCutoff nowUs elapsedUs).2.filterMap SafetyEffect.openingEpoch = [] ∧
      (task.latchCutoff nowUs elapsedUs).1.deploymentRequested = task.deploymentRequested := by
  unfold latchCutoff
  split <;> exact ⟨rfl, rfl⟩

private theorem openingEpoch_queueRecovery (task : SafetyTask) (input : SafetyInput)
    (elapsedUs : UInt64) :
    (task.queueRecovery input elapsedUs).2.filterMap SafetyEffect.openingEpoch = [] ∧
      (task.queueRecovery input elapsedUs).1.deploymentRequested = task.deploymentRequested := by
  unfold queueRecovery
  split <;> exact ⟨rfl, rfl⟩

/-- An iteration asks to open in the tracked epoch and in no other, once the deadline has
passed and while no request is on record. -/
theorem mem_openings_act {task : SafetyTask} {input : SafetyInput} {flightEpoch : UInt32} :
    flightEpoch ∈ (task.act input).2.filterMap SafetyEffect.openingEpoch ↔
      flightEpoch = task.trackedEpoch ∧ task.deploymentRequested = false ∧
        task.DeadlinePassed input := by
  unfold act
  dsimp only
  rw [List.filterMap_append, List.filterMap_append, (openingEpoch_latchCutoff _ _ _).1,
    (openingEpoch_queueRecovery _ _ _).1, List.append_nil, List.append_nil]
  unfold requestDeployment
  split
  · next requests =>
    exact ⟨fun within => ⟨List.mem_singleton.mp within, requests⟩,
      fun asks => List.mem_singleton.mpr asks.1⟩
  · next waits => exact iff_of_false List.not_mem_nil fun asks => waits asks.2

/-- A request on record after the deadlines was there before, or was sent and accepted. -/
theorem deploymentRequested_act {task : SafetyTask} {input : SafetyInput}
    (requested : (task.act input).1.deploymentRequested = true) :
    task.deploymentRequested = true ∨
      (input.paraQueueAccepts = true ∧ task.deploymentRequested = false ∧
        task.DeadlinePassed input) := by
  unfold act at requested
  dsimp only at requested
  rw [(openingEpoch_queueRecovery _ _ _).2, (openingEpoch_latchCutoff _ _ _).2] at requested
  unfold requestDeployment at requested
  split at requested
  · next requests => exact Or.inr ⟨requested, requests⟩
  · exact Or.inl requested

/-! ### The deadlines -/

private theorem sendPara_notMem_recoveryEffects (input : SafetyInput) (request : ParaRequest)
    (toFront : Bool) : .sendPara request toFront ∉ recoveryEffects input := by
  unfold recoveryEffects
  split
  · split <;> simp
  · simp

private theorem sendPara_notMem_drainRequest {state : SafetyTask × List SafetyEffect}
    {request : ParaRequest} {toFront : Bool} (absent : .sendPara request toFront ∉ state.2)
    (power : PowerRequest) : .sendPara request toFront ∉ (drainRequest state power).2 := by
  unfold drainRequest
  dsimp only
  rw [List.mem_append, not_or]
  refine ⟨absent, ?_⟩
  split
  · simp [powerOffEffects]
  · split <;> split <;> simp

/-- The power requests send nothing to the parachute. -/
private theorem sendPara_notMem_drainPower (task : SafetyTask) (requests : List PowerRequest)
    (request : ParaRequest) (toFront : Bool) :
    .sendPara request toFront ∉ (task.drainPower requests).2 := by
  have run : ∀ state : SafetyTask × List SafetyEffect, .sendPara request toFront ∉ state.2 →
      .sendPara request toFront ∉ (requests.foldl drainRequest state).2 := by
    induction requests with
    | nil => exact fun _ absent => absent
    | cons power rest inductionHypothesis =>
        intro state absent
        exact inductionHypothesis _ (sendPara_notMem_drainRequest absent power)
  exact run (task, []) List.not_mem_nil

/-- An iteration asks for deployment exactly when it has not done so in the epoch
and a deadline of its own clock has passed. -/
theorem sendOpen_mem_iterate (task : SafetyTask) (snapshot : MissionSnapshot)
    (input : SafetyInput) :
    (∃ epoch, .sendPara { kind := .open, flightEpoch := epoch, safetyAuthorized := true } true ∈
        (task.iterate snapshot input).2) ↔
      (task.observed snapshot input).deploymentRequested = false ∧
        ((input.pressureDeploymentEpoch = (task.observed snapshot input).trackedEpoch ∧
            10000000 ≤ (task.observed snapshot input).elapsedAt input.nowUs) ∨
          17000000 ≤ (task.observed snapshot input).elapsedAt input.nowUs) := by
  unfold iterate
  dsimp only
  generalize task.observed snapshot input = observed
  generalize observed.elapsedAt input.nowUs = elapsedUs
  simp only [List.mem_append, sendPara_notMem_recoveryEffects, sendPara_notMem_drainPower,
    false_or]
  have latched : ∀ (other : SafetyTask) epoch,
      .sendPara { kind := .open, flightEpoch := epoch, safetyAuthorized := true } true ∉
        (other.latchCutoff input.nowUs elapsedUs).2 := by
    intro other epoch
    unfold latchCutoff
    split <;> simp [powerOffEffects]
  have queued : ∀ (other : SafetyTask) epoch,
      .sendPara { kind := .open, flightEpoch := epoch, safetyAuthorized := true } true ∉
        (other.queueRecovery input elapsedUs).2 := by
    intro other epoch
    unfold queueRecovery
    split <;> simp
  simp only [latched, queued, or_false]
  unfold requestDeployment
  split
  · next requests => exact iff_of_true ⟨_, List.mem_singleton_self _⟩ requests
  · next waits => exact iff_of_false (fun sends => absurd sends.choose_spec List.not_mem_nil) waits

/-- An iteration leaves the cutoff latched exactly when it found it so or its own
clock has passed 25 s. -/
theorem cutoffLatched_iterate (task : SafetyTask) (snapshot : MissionSnapshot)
    (input : SafetyInput) :
    (task.iterate snapshot input).1.cutoffLatched = true ↔
      (task.observed snapshot input).cutoffLatched = true ∨
        25000000 ≤ (task.observed snapshot input).elapsedAt input.nowUs := by
  unfold iterate
  dsimp only
  generalize task.observed snapshot input = observed
  have running : 25000000 ≤ observed.elapsedAt input.nowUs →
      observed.liftoffValid = true ∧ observed.liftoffTimeUs ≤ input.nowUs := by
    intro late
    by_contra stopped
    rw [show observed.elapsedAt input.nowUs = 0 from if_neg stopped] at late
    exact absurd late (by decide)
  generalize observed.elapsedAt input.nowUs = elapsedUs at running ⊢
  have requested : (observed.requestDeployment input elapsedUs).1.cutoffLatched =
        observed.cutoffLatched ∧
      (observed.requestDeployment input elapsedUs).1.liftoffValid = observed.liftoffValid ∧
      (observed.requestDeployment input elapsedUs).1.liftoffTimeUs = observed.liftoffTimeUs := by
    unfold requestDeployment
    split <;> exact ⟨rfl, rfl, rfl⟩
  have queued : ∀ other : SafetyTask,
      (other.queueRecovery input elapsedUs).1.cutoffLatched = other.cutoffLatched := by
    intro other
    unfold queueRecovery
    split <;> rfl
  rw [queued]
  unfold latchCutoff
  rw [requested.1, requested.2.1, requested.2.2]
  split
  · next latches => exact iff_of_true rfl (Or.inr latches.2.2.2)
  · next holds =>
    rw [requested.1]
    refine ⟨Or.inl, fun either => ?_⟩
    rcases either with latched | late
    · exact latched
    · by_contra unlatched
      obtain ⟨valid, started⟩ := running late
      exact holds ⟨Bool.eq_false_of_not_eq_true unlatched, valid, started, late⟩

end SafetyTask

end MissionBoard.Runtime
