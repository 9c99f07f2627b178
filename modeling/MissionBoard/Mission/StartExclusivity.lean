import MissionBoard.Library.Run
import MissionBoard.Mission.CommandTable

/-!
Owns the exclusion between a pending start and the preparation commands. A start
is accepted only over an idle table. In the other order only parachute commands
ask whether the sequence domain is busy, so a fin, calibration or storage command
slips past a pending start whenever its own device is ready.
-/

namespace MissionBoard.Mission

open Protocol Control

/-- A call of the executor with its arguments and the guard it finds. -/
inductive ExecutorCall where
  | begin (guard : FinOvertravelGuard) (request : GenericCommandRequest) (context : CommandContext)
  | finish (guard : FinOvertravelGuard) (transactionId : UInt8) (phase : CommandPhase)
      (reason : CommandReason) (detail : UInt32)
  | actuatorEmergency (transactionId : UInt8) (state : MissionState)

/-- The kind of a start transaction. -/
def startKind (entry : Entry) : Prop := isStart (codeOf entry.request) = true

instance (entry : Entry) : Decidable (startKind entry) := inferInstanceAs (Decidable (_ = _))

/-- The domains a start excludes. -/
def isPreparation (domain : CommandDomain) : Bool :=
  domain == .fin || domain == .parachute || domain == .calibration || domain == .storage

/-- The kind of a preparation transaction. -/
def preparationKind (entry : Entry) : Prop := isPreparation entry.domain = true

instance (entry : Entry) : Decidable (preparationKind entry) :=
  inferInstanceAs (Decidable (_ = _))

namespace CommandExecutor

/-- The executor a call leaves. -/
def step (executor : CommandExecutor) : ExecutorCall → CommandExecutor
  | .begin guard request context => (executor.begin guard request context).2.1
  | .finish guard transactionId phase reason detail =>
      (executor.finish guard transactionId phase reason detail).2.1
  | .actuatorEmergency transactionId state => (executor.actuatorEmergency transactionId state).2

/-- No pending start coexists with a pending preparation. -/
def ExclusiveStart (executor : CommandExecutor) : Prop :=
  ¬ (executor.Pending startKind ∧ executor.Pending preparationKind)

/-- A fin, calibration or storage command that `begin` accepts while a start is
pending: fresh, well formed, sent in command receive, and wanting nothing but the
check of the sequence domain. -/
structure SlipsPastStart (executor : CommandExecutor) (guard : FinOvertravelGuard)
    (request : GenericCommandRequest) (context : CommandContext) : Prop where
  starting : executor.Pending startKind
  nonzero : request.transactionId ≠ 0
  fresh : executor.find request.transactionId = none
  arguments : argumentsValid request (codeOf request) = true
  receiving : context.state = .commandReceive
  supported :
    ((codeOf request = .finFree ∨ codeOf request = .setFinZero ∨
        (codeOf request = .finMoveRelative ∧ guard.recovered.faultLatched = false)) ∧
      context.finAvailable = true ∧ context.finSafeCommandsSupported = true) ∨
    (codeOf request = .runPreflightCalibration ∧ context.calibrationSupported = true ∧
      context.motorTestBusy = false) ∨
    (codeOf request = .exportFlashLog ∧ context.storageExportSupported = true)

theorem tableInvariant_step {executor : CommandExecutor} (table : TableInvariant executor)
    (call : ExecutorCall) : TableInvariant (executor.step call) := by
  cases call with
  | begin guard request context => exact tableInvariant_begin table guard request context
  | finish guard transactionId phase reason detail =>
      exact tableInvariant_finish table guard transactionId phase reason detail
  | actuatorEmergency transactionId state =>
      exact tableInvariant_actuatorEmergency table transactionId state

/-! ### Which commands a domain holds -/

private theorem code_of_domainFor {code : CommandCode} {domain : CommandDomain}
    (files : domainFor code = domain) :
    (domain = .fin → code = .finFree ∨ code = .setFinZero ∨ code = .startFinZeroHold ∨
      code = .finMoveRelative) ∧
    (domain = .calibration → code = .runPreflightCalibration) ∧
    (domain = .storage → code = .exportFlashLog) := by
  subst files
  unfold domainFor
  split_ifs with sequence fin parachute calibration storage recovery
  · exact ⟨nofun, nofun, nofun⟩
  · refine ⟨fun _ => ?_, nofun, nofun⟩
    simpa using fin
  · exact ⟨nofun, nofun, nofun⟩
  · exact ⟨nofun, fun _ => calibration, nofun⟩
  · exact ⟨nofun, nofun, fun _ => storage⟩
  · exact ⟨nofun, nofun, nofun⟩
  · exact ⟨nofun, nofun, nofun⟩

private theorem domainFor_of_isStart {code : CommandCode} (start : isStart code = true) :
    domainFor code = .sequence := by
  unfold isStart at start
  rw [Bool.or_eq_true, beq_iff_eq, beq_iff_eq] at start
  rcases start with rfl | rfl <;> decide

/-! ### Both orders of arrival -/

section Arrival

variable {executor : CommandExecutor} {guard : FinOvertravelGuard} {request : GenericCommandRequest}
  {context : CommandContext}

/-- An idle domain has no pending transaction. -/
private theorem idle_of_not_pending {domain : CommandDomain}
    (none : ¬ executor.Pending fun entry => entry.domain = domain) :
    executor.busy domain = false := by
  by_contra busy
  exact none (busy_iff_pending.mp (Bool.eq_true_of_not_eq_false busy))

/-- A start is admitted only while nothing at all is pending. -/
theorem not_pending_of_start_admitted (start : isStart (codeOf request) = true)
    (admits : executor.rejection guard request context = .none) (kind : Entry → Prop) :
    ¬ executor.Pending kind := by
  rintro ⟨slot, valid, pending, -⟩
  have check := admitted_iff.mp admits
    (isStart (codeOf request) && executor.cachedCount != 0 && executor.anyPending, .busy)
    (by simp [rejectionChecks])
  have cached : executor.cachedCount ≠ 0 := by
    intro empty
    have unused := List.countP_eq_zero.mp empty slot (List.mem_finRange slot)
    exact unused valid
  have any : executor.anyPending = true :=
    List.any_eq_true.mpr ⟨slot, List.mem_finRange slot, pending⟩
  simp [start, cached, any] at check

/-- While a start is pending every preparation domain is idle. -/
private theorem idle_of_exclusive (exclusive : executor.ExclusiveStart)
    (starting : executor.Pending startKind) {domain : CommandDomain}
    (preparation : isPreparation domain = true) : executor.busy domain = false := by
  apply idle_of_not_pending
  rintro ⟨slot, valid, pending, rfl⟩
  exact exclusive ⟨starting, slot, valid, pending, preparation⟩

/-- What the chain reads off the code of a preparation command other than a
parachute one. -/
private theorem preparation_code {code : CommandCode}
    (preparation : code ∈ [.finFree, .setFinZero, .finMoveRelative, .runPreflightCalibration,
      .exportFlashLog]) :
    commandKnown code = true ∧ unsupportedParachuteCommand code = false ∧
      stateValid code .commandReceive = true ∧ (code == .enterRecovery) = false ∧
      isStart code = false := by
  simp only [List.mem_cons, List.not_mem_nil, or_false] at preparation
  rcases preparation with rfl | rfl | rfl | rfl | rfl <;> decide

/-- The defect's condition admits the command. -/
theorem SlipsPastStart.admitted (slips : SlipsPastStart executor guard request context)
    (exclusive : executor.ExclusiveStart) :
    executor.rejection (guardAtBegin guard context) request context = .none ∧
      isPreparation (domainFor (codeOf request)) = true := by
  obtain ⟨starting, -, -, arguments, receiving, supported⟩ := slips
  have fin : executor.busy .fin = false := idle_of_exclusive exclusive starting rfl
  have parachute : executor.busy .parachute = false := idle_of_exclusive exclusive starting rfl
  have calibration : executor.busy .calibration = false :=
    idle_of_exclusive exclusive starting rfl
  have storage : executor.busy .storage = false := idle_of_exclusive exclusive starting rfl
  have recovered : guardAtBegin guard context = guard.recovered := if_pos receiving
  have listed : codeOf request ∈ [CommandCode.finFree, .setFinZero, .finMoveRelative,
      .runPreflightCalibration, .exportFlashLog] := by
    simp only [List.mem_cons, List.not_mem_nil, or_false]
    rcases supported with ⟨code | code | ⟨code, -⟩, -, -⟩ | ⟨code, -, -⟩ | ⟨code, -⟩ <;>
      simp [code]
  obtain ⟨known, supportedCode, sent, notRecovery, notStart⟩ := preparation_code listed
  rw [admitted_iff, recovered]
  unfold rejectionChecks
  rcases supported with ⟨code, available, safe⟩ | ⟨code, able, still⟩ | ⟨code, able⟩
  · have files : domainFor (codeOf request) = .fin := by
      rcases code with code | code | ⟨code, -⟩ <;> rw [code] <;> decide
    have passes : (guard.recovered.faultLatched && blockedByFinOvertravel (codeOf request)) =
        false := by
      rcases code with code | code | ⟨-, clear⟩
      · rw [code]
        exact Bool.and_false _
      · rw [code]
        exact Bool.and_false _
      · rw [clear]
        rfl
    refine ⟨?_, by rw [files]; rfl⟩
    simp [known, supportedCode, arguments, receiving, sent, passes, notRecovery, notStart, files,
      available, safe, fin, calibration]
  · have files : domainFor (codeOf request) = .calibration := by
      rw [code]
      decide
    have passes : blockedByFinOvertravel (codeOf request) = false := by
      rw [code]
      decide
    refine ⟨?_, by rw [files]; rfl⟩
    simp [known, supportedCode, arguments, receiving, sent, passes, notRecovery, notStart, files,
      able, still, fin, parachute, calibration]
  · have files : domainFor (codeOf request) = .storage := by
      rw [code]
      decide
    have passes : blockedByFinOvertravel (codeOf request) = false := by
      rw [code]
      decide
    refine ⟨?_, by rw [files]; rfl⟩
    simp [known, supportedCode, arguments, receiving, sent, passes, notRecovery, notStart, files,
      able, storage]

/-- A preparation command admitted while a start is pending meets the defect's condition. -/
theorem slips_of_admitted (starting : executor.Pending startKind)
    (nonzero : request.transactionId ≠ 0) (fresh : executor.find request.transactionId = none)
    (admits : executor.rejection (guardAtBegin guard context) request context = .none)
    (preparation : isPreparation (domainFor (codeOf request)) = true)
    (filed : ∀ slot, (executor.entries slot).valid = true →
      (executor.entries slot).domain = domainFor (codeOf (executor.entries slot).request)) :
    SlipsPastStart executor guard request context := by
  have sequenceBusy : executor.busy .sequence = true := by
    obtain ⟨slot, valid, pending, start⟩ := starting
    refine busy_iff_pending.mpr ⟨slot, valid, pending, ?_⟩
    exact (filed slot valid).trans (domainFor_of_isStart start)
  have checks := admitted_iff.mp admits
  have known := checks (!commandKnown (codeOf request), .notSupported) (by simp [rejectionChecks])
  have arguments := checks (!argumentsValid request (codeOf request), .invalidArgument)
    (by simp [rejectionChecks])
  have sent := checks (!stateValid (codeOf request) context.state, .invalidState)
    (by simp [rejectionChecks])
  have passes := checks ((guardAtBegin guard context).faultLatched &&
    blockedByFinOvertravel (codeOf request), .safetyInterlock) (by simp [rejectionChecks])
  have excluded := checks (domainFor (codeOf request) == .parachute && executor.busy .sequence,
    .busy) (by simp [rejectionChecks])
  have available := checks ((domainFor (codeOf request) == .fin && !context.finAvailable) ||
    (domainFor (codeOf request) == .parachute && !context.parachuteAvailable), .deviceUnavailable)
    (by simp [rejectionChecks])
  have safe := checks (domainFor (codeOf request) == .fin && !context.finSafeCommandsSupported,
    .notSupported) (by simp [rejectionChecks])
  have able := checks
    ((domainFor (codeOf request) == .calibration && !context.calibrationSupported) ||
      (domainFor (codeOf request) == .storage && !context.storageExportSupported), .notSupported)
    (by simp [rejectionChecks])
  have still := checks (domainFor (codeOf request) == .calibration &&
    (executor.busy .fin || executor.busy .parachute || context.motorTestBusy), .busy)
    (by simp [rejectionChecks])
  dsimp only at known arguments sent passes excluded available safe able still
  rw [Bool.not_eq_false'] at known arguments sent
  obtain ⟨ofFin, ofCalibration, ofStorage⟩ := @code_of_domainFor (codeOf request) _ rfl
  generalize domainFor (codeOf request) = domain at *
  cases domain with
  | sequence => cases preparation
  | recovery => cases preparation
  | parachute =>
      rw [sequenceBusy] at excluded
      cases excluded
  | fin =>
      have code := ofFin rfl
      have receiving : context.state = .commandReceive := by
        rcases code with code | code | code | code <;>
          simpa [code, stateValid] using sent
      have clear : codeOf request = .finMoveRelative → guard.recovered.faultLatched = false := by
        intro moves
        have recovered : guardAtBegin guard context = guard.recovered := if_pos receiving
        rw [recovered, moves] at passes
        simpa [blockedByFinOvertravel] using passes
      refine ⟨starting, nonzero, fresh, arguments, receiving, Or.inl ⟨?_, ?_, ?_⟩⟩
      · rcases code with code | code | code | code
        · exact Or.inl code
        · exact Or.inr (Or.inl code)
        · rw [code] at known
          exact absurd known (by decide)
        · exact Or.inr (Or.inr ⟨code, clear code⟩)
      · simpa using available
      · simpa using safe
  | calibration =>
      have code := ofCalibration rfl
      have receiving : context.state = .commandReceive := by simpa [code, stateValid] using sent
      refine ⟨starting, nonzero, fresh, arguments, receiving, Or.inr (Or.inl ⟨code, ?_, ?_⟩)⟩
      · simpa using able
      · have idle : executor.busy .fin = false ∧ executor.busy .parachute = false ∧
            context.motorTestBusy = false := by
          simpa [and_assoc] using still
        exact idle.2.2
  | storage =>
      have code := ofStorage rfl
      have receiving : context.state = .commandReceive := by simpa [code, stateValid] using sent
      refine ⟨starting, nonzero, fresh, arguments, receiving, Or.inr (Or.inr ⟨code, ?_⟩)⟩
      simpa using able

end Arrival

/-! ### Whole runs -/

/-- The call does not slip past a pending start. -/
def RespectsStart (executor : CommandExecutor) (call : ExecutorCall) : Prop :=
  ∀ guard request context, call = .begin guard request context →
    ¬ SlipsPastStart executor guard request context

/-- An accepted command keeps the exclusion exactly when it does not slip past a
pending start. -/
private theorem exclusive_accepted_iff {executor : CommandExecutor}
    (table : TableInvariant executor) (exclusive : executor.ExclusiveStart)
    {guard : FinOvertravelGuard} {request : GenericCommandRequest} {context : CommandContext}
    (nonzero : request.transactionId ≠ 0) (fresh : executor.find request.transactionId = none)
    (admits : executor.rejection (guardAtBegin guard context) request context = .none)
    (result : CommandResult) :
    (executor.remember request result true (domainFor (codeOf request))).ExclusiveStart ↔
      ¬ SlipsPastStart executor guard request context := by
  unfold ExclusiveStart
  rw [pending_remember table, pending_remember table]
  constructor
  · intro kept slips
    have preparation := (slips.admitted exclusive).2
    exact kept ⟨Or.inr slips.starting, Or.inl ⟨rfl, preparation⟩⟩
  · rintro respects ⟨start | starting, preparation | preparing⟩
    · -- one command cannot be both: a start files under the sequence domain
      have files : domainFor (codeOf request) = .sequence := domainFor_of_isStart start.2
      have prepares : isPreparation (domainFor (codeOf request)) = true := preparation.2
      rw [files] at prepares
      cases prepares
    · exact not_pending_of_start_admitted start.2 admits preparationKind preparing
    · exact respects (slips_of_admitted starting nonzero fresh admits preparation.2 table.filed)
    · exact exclusive ⟨starting, preparing⟩

/-- One call keeps the exclusion exactly when it does not slip past a pending start. -/
theorem exclusiveStart_step_iff {executor : CommandExecutor} (table : TableInvariant executor)
    (exclusive : executor.ExclusiveStart) (call : ExecutorCall) :
    (executor.step call).ExclusiveStart ↔ executor.RespectsStart call := by
  cases call with
  | finish guard transactionId phase reason detail =>
      have respects : executor.RespectsStart
          (.finish guard transactionId phase reason detail) := by
        rintro _ _ _ ⟨⟩
      refine iff_of_true ?_ respects
      show (executor.finish guard transactionId phase reason detail).2.1.ExclusiveStart
      rintro ⟨starting, preparing⟩
      exact exclusive ⟨pending_of_finish starting, pending_of_finish preparing⟩
  | actuatorEmergency transactionId state =>
      have respects : executor.RespectsStart (.actuatorEmergency transactionId state) := by
        rintro _ _ _ ⟨⟩
      refine iff_of_true ?_ respects
      show (executor.actuatorEmergency transactionId state).2.ExclusiveStart
      rintro ⟨starting, preparing⟩
      exact exclusive
        ⟨pending_of_actuatorEmergency starting, pending_of_actuatorEmergency preparing⟩
  | begin guard request context =>
      have respects : executor.RespectsStart (.begin guard request context) ↔
          ¬ SlipsPastStart executor guard request context := by
        constructor
        · intro all
          exact all guard request context rfl
        · rintro one _ _ _ ⟨⟩
          exact one
      rw [respects]
      show (executor.begin guard request context).2.1.ExclusiveStart ↔ _
      have outcome := executor.beginOutcome guard request context
      generalize begun : executor.begin guard request context = next at outcome
      cases outcome with
      | answered refuses =>
          refine iff_of_true exclusive fun slips => ?_
          have admits := (slips.admitted exclusive).1
          unfold begin at begun
          rw [if_neg slips.nonzero, slips.fresh] at begun
          dsimp only at begun
          rw [if_neg (not_not.mpr admits)] at begun
          have executes := congrArg (fun next => next.1.execute) begun
          rw [← executes] at refuses
          cases refuses
      | rejected nonzero fresh rejects =>
          refine iff_of_true ?_ fun slips => rejects (slips.admitted exclusive).1
          unfold ExclusiveStart
          rw [pending_remember table, pending_remember table]
          rintro ⟨starting, preparing⟩
          exact exclusive ⟨starting.resolve_left nofun, preparing.resolve_left nofun⟩
      | accepted nonzero fresh admits =>
          exact exclusive_accepted_iff table exclusive nonzero fresh admits _

/-- Start exclusivity. Over every run from the empty table, no pending start ever
coexists with a pending fin, parachute, calibration or storage transaction exactly
when no fin, calibration or storage command arrives ready while a start is pending. -/
theorem start_exclusive_iff (calls : List ExecutorCall) :
    (∀ initial, initial <+: calls →
        ((Run.after step {} initial : CommandExecutor)).ExclusiveStart) ↔
      Run.Along step RespectsStart {} calls := by
  have exact : ∀ executor call, (TableInvariant executor ∧ executor.ExclusiveStart) →
      ((TableInvariant (step executor call) ∧ (step executor call).ExclusiveStart) ↔
        executor.RespectsStart call) := by
    rintro executor call ⟨table, exclusive⟩
    rw [exclusiveStart_step_iff table exclusive]
    exact ⟨And.right, fun respects => ⟨tableInvariant_step table call, respects⟩⟩
  have initially : TableInvariant ({} : CommandExecutor) ∧
      ({} : CommandExecutor).ExclusiveStart := by
    refine ⟨tableInvariant_initial, ?_⟩
    rintro ⟨⟨slot, valid, -⟩, -⟩
    cases valid
  rw [Run.along_iff_invariant exact initially]
  constructor
  · intro always initial within
    refine ⟨?_, always initial within⟩
    obtain ⟨rest, rfl⟩ := within
    have preserved : ∀ executor call, TableInvariant executor → True →
        TableInvariant (step executor call) :=
      fun executor call table _ => tableInvariant_step table call
    exact Run.invariant_after preserved tableInvariant_initial
      (Run.along_of_forall (fun _ _ => trivial) _ initial)
  · intro always initial within
    exact (always initial within).2

/-- A fin command sent after an accepted start is accepted as well. -/
theorem start_not_exclusive :
    ¬ ∀ calls, (Run.after step {} calls : CommandExecutor).ExclusiveStart := by
  intro always
  have exclusive := always [.begin {} (plainRequest 1 .startSequence) readyContext,
    .begin {} (plainRequest 2 .finFree) readyContext]
  apply exclusive
  constructor
  · exact ⟨0, by decide +kernel, by decide +kernel, by decide +kernel⟩
  · exact ⟨1, by decide +kernel, by decide +kernel, by decide +kernel⟩

end CommandExecutor

end MissionBoard.Mission
