import MissionBoard.Characterization.CampaignOrdering
import MissionBoard.Library.ByteLayout

/-!
Owns how `characterization_main.cpp` keeps the M0 handoff: its bytes in NVS, the calls that load,
persist and erase it, and the worker that executes the requests of the console, one call of NVS
after the other.

A call of NVS succeeds and is durable, or fails without effect; a namespace that is not there is
created when it is opened for writing. A reset of any kind, and a loss of power, may come before any
step: it is the boot that follows. The runner is seen as the calls of `beginRun` and `finishRun`
that it makes.
-/

namespace MissionBoard.Characterization

open ByteLayout

/-- `kPersistedHandoffBytes` -/
def kPersistedHandoffBytes : ℕ := 46

/-- What `encodeHandoff` writes, each value at its offset -/
def handoffFields (handoff : M0Handoff) : List Field :=
  [⟨0, .word32 handoff.schemaVersion⟩, ⟨4, .text handoff.sessionId.toList⟩,
    ⟨36, .word32 handoff.profileSeed⟩, ⟨40, .byte handoff.completedStageMask⟩,
    ⟨41, .byte (ByteEnum.toByte handoff.expectedStage)⟩, ⟨42, .word32 handoff.checksum⟩]

/-- `encodeHandoff` -/
def encodeHandoff (handoff : M0Handoff) : List UInt8 :=
  ((Image.ofFields (handoffFields handoff)).toVector kPersistedHandoffBytes).toList

/-- The handoff that `decodeHandoff` reads -/
def readHandoff (image : Image) : M0Handoff where
  schemaVersion := image.getU32 0
  sessionId := image.getVector 4 32
  profileSeed := image.getU32 36
  completedStageMask := image 40
  expectedStage := ByteEnum.ofByte (image 41)
  checksum := image.getU32 42

/-- `decodeHandoff`, with nothing where it returns false; a stage that names no enumerator fails
`validateHandoff`. -/
def decodeHandoff (bytes : List UInt8) : Option M0Handoff :=
  let image := Image.ofBytes bytes
  if ByteEnum.valid AssemblyStage (image 41) && validateHandoff (readHandoff image) then
    some (readHandoff image)
  else none

/-- The values of `esp_err_t` that the worker sees -/
inductive WorkError where
  | ok
  | invalidArg
  | invalidState
  | invalidSize
  | invalidResponse
  /-- A call of NVS has failed. -/
  | nvs
  /-- `runner_.disarm` has failed. -/
  | motor
deriving DecidableEq

/-- The namespace of the handoff in NVS, and the bytes under its key -/
structure Nvs where
  namespaced : Bool := false
  handoff : Option (List UInt8) := none
deriving DecidableEq

/-- Which of the calls of `loadHandoff` fail -/
structure LoadAnswers where
  openFails : Bool := false
  sizeFails : Bool := false
  readFails : Bool := false
deriving DecidableEq

/-- `loadHandoff`: its result, `present`, and the handoff -/
def loadHandoff (nvs : Nvs) (answers : LoadAnswers) : WorkError × Bool × Option M0Handoff :=
  if answers.openFails then (.nvs, false, none)
  else if !nvs.namespaced then (.ok, false, none)
  else if answers.sizeFails then (.nvs, false, none)
  else
    match nvs.handoff with
    | none => (.ok, false, none)
    | some bytes =>
        if bytes.length ≠ kPersistedHandoffBytes then (.invalidSize, false, none)
        else if answers.readFails then (.nvs, false, none)
        else
          match decodeHandoff bytes with
          | some handoff => (.ok, true, some handoff)
          | none => (.invalidResponse, true, none)

/-- Where the worker stands in `execute` -/
inductive Worker where
  | idle
  /-- `persistHandoff` -/
  | persistOpening (handoff : M0Handoff)
  | persistSetting (handoff : M0Handoff)
  | persistCommitting
  /-- `eraseHandoff`, before the transition of M0 or after it -/
  | eraseOpening (completes : Bool)
  | eraseErasing (completes : Bool)
  | eraseCommitting (completes : Bool)
deriving DecidableEq

/-- A call that the runner makes -/
inductive RunnerCall where
  | beginRun (rate : EncoderRate) (kind : RunKind)
  | finishRun (outcome : RunOutcome) (reason : UnsupportedReason)
deriving DecidableEq

def RunnerCall.toCall : RunnerCall → CampaignCall
  | .beginRun rate kind => .beginRun rate kind
  | .finishRun outcome reason => .finishRun outcome reason

/-- The machine after the calls of the runner -/
def CampaignStateMachine.afterRunner (machine : CampaignStateMachine) (calls : List RunnerCall) :
    CampaignStateMachine :=
  calls.foldl (fun campaign call => (campaign.call call.toCall).2) machine

/-- `WorkRequest`; `CaptureZero`, `RateCheck`, `Arm`, `Disarm` and `RunFull` are what the runner does
then, and the other two say whether `runner_.disarm` succeeds. -/
inductive WorkRequest where
  | none
  | newSession (sessionId : SessionId) (value : UInt32)
  | confirmStage (stage : AssemblyStage)
  | runner (calls : List RunnerCall)
  | completeStage (disarms : Bool)
  | prepareM0 (disarms : Bool)
  | resumeM0 (sessionId : SessionId) (literal : String)
deriving DecidableEq

/-- `CharacterizationRuntime`, as far as the handoff is concerned -/
structure CharacterizationRuntime where
  campaign : CampaignStateMachine := {}
  handoffPresent : Bool := false
  handoffResult : WorkError := .ok
  bootResumeStatus : CampaignStatus := .ok
  worker : Worker := .idle
  /-- `last_result_` -/
  operationResult : WorkError := .ok
  campaignStatus : CampaignStatus := .ok
  /-- What `loadHandoff` returned at boot, which the code does not keep, nor what follows -/
  loadResult : WorkError := .ok
  /-- Which handoff was resumed, as the number of its `prepareM0` -/
  resumed : ℕ := 0

/-- The board: NVS, the runtime when it is on, and what the code does not keep -/
structure Board where
  nvs : Nvs := {}
  runtime : Option CharacterizationRuntime := none
  /-- The handoffs that `prepareM0` has written, in their order -/
  prepared : List M0Handoff := []
  /-- The number of the `prepareM0` whose handoff stands in NVS -/
  origin : ℕ := 0
  /-- The numbers of the handoffs whose M0 stage has reached `Completed` -/
  completed : List ℕ := []

/-- A boot, a request, or the answer of NVS that the worker waits for -/
inductive BoardStep where
  | boot (resetKind : ResetKind) (rtcCookieSurvived initFails : Bool) (answers : LoadAnswers)
  | request (request : WorkRequest)
  | nvs (succeeds : Bool)
deriving DecidableEq

namespace CharacterizationRuntime

/-- The request is done. -/
def done (runtime : CharacterizationRuntime) (operationResult : WorkError)
    (campaignStatus : CampaignStatus) : CharacterizationRuntime :=
  { runtime with worker := .idle, operationResult, campaignStatus }

/-- `configureBoot`, with what `loadHandoff` has found -/
def configureBoot (load : WorkError × Bool × Option M0Handoff) (resetKind : ResetKind)
    (rtcCookieSurvived : Bool) (origin : ℕ) : CharacterizationRuntime :=
  let runtime : CharacterizationRuntime :=
    { handoffPresent := load.2.1, handoffResult := load.1, loadResult := load.1, resumed := origin }
  match load with
  | (.ok, true, some handoff) =>
      let resumed := runtime.campaign.resumeM0 handoff resetKind rtcCookieSurvived
      { runtime with campaign := resumed.2, bootResumeStatus := resumed.1 }
  | _ => runtime

end CharacterizationRuntime

namespace Board

/-- The runtime goes on with this campaign; a stage M0 that reaches `Completed` is noted. -/
def proceed (board : Board) (runtime : CharacterizationRuntime) (campaign : CampaignStateMachine) :
    Board :=
  { board with
    runtime := some { runtime with campaign }
    completed :=
      if campaign.state = .completed ∧ runtime.campaign.state ≠ .completed then
        board.completed ++ [runtime.resumed]
      else board.completed }

/-- A request that is one call of the campaign -/
def campaignCall (board : Board) (runtime : CharacterizationRuntime) (call : CampaignCall) : Board :=
  board.proceed (runtime.done .ok (runtime.campaign.call call).1) (runtime.campaign.call call).2

/-- The request ends with this error. -/
def fail (board : Board) (runtime : CharacterizationRuntime) (error : WorkError) : Board :=
  { board with runtime := some (runtime.done error .ok) }

/-- `execute`, up to its first call of NVS -/
def execute (board : Board) (runtime : CharacterizationRuntime) : WorkRequest → Board
  | .none => board.fail runtime .invalidArg
  | .newSession sessionId value =>
      if runtime.handoffPresent ∨ runtime.handoffResult ≠ .ok then board.fail runtime .invalidState
      else board.campaignCall runtime (.startNewSession sessionId value)
  | .confirmStage stage => board.campaignCall runtime (.confirmStage stage)
  | .runner calls =>
      board.proceed (runtime.done .ok .ok) (runtime.campaign.afterRunner calls)
  | .completeStage disarms =>
      if !disarms then board.fail runtime .motor
      else if runtime.campaign.state = .completed then
        if runtime.handoffPresent then
          { board with runtime := some { runtime with worker := .eraseOpening false } }
        else { board with runtime := some (runtime.done .ok .invalidState) }
      else if runtime.campaign.stage = .m0 then
        if runtime.campaign.state ≠ .ready ∨ !runtime.campaign.fullCompleted .hz1000 ∨
            runtime.campaign.rateResults .hz1000 = .pending ∨
            runtime.campaign.rateResults .hz2000 = .pending ∨
            runtime.campaign.rateResults .hz5000 = .pending then
          { board with runtime := some (runtime.done .ok .invalidState) }
        else if runtime.handoffPresent then
          -- The handoff is erased before the transition.
          { board with runtime := some { runtime with worker := .eraseOpening true } }
        else board.campaignCall runtime .completeStage
      else board.campaignCall runtime .completeStage
  | .prepareM0 disarms =>
      if !disarms then board.fail runtime .motor
      else
        let handoff := runtime.campaign.handoff
        let prepared := runtime.campaign.prepareM0
        if prepared.1 ≠ .ok then { board with runtime := some (runtime.done .ok prepared.1) }
        else
          let runtime := { runtime with campaign := prepared.2 }
          let board := { board with prepared := board.prepared ++ [handoff] }
          if !validateHandoff handoff then
            { board with
              runtime := some ({ runtime with
                handoffResult := .invalidArg
                campaign := runtime.campaign.fault }.done .invalidArg .ok) }
          else { board with runtime := some { runtime with worker := .persistOpening handoff } }
  | .resumeM0 sessionId literal =>
      board.campaignCall runtime (.confirmM0 sessionId (some literal))

/-- `persistHandoff` has failed. -/
def persistFails (board : Board) (runtime : CharacterizationRuntime) : Board :=
  { board with
    runtime := some ({ runtime with
      handoffResult := .nvs
      campaign := runtime.campaign.fault }.done .nvs .ok) }

/-- `eraseHandoff` has failed. -/
def eraseFails (board : Board) (runtime : CharacterizationRuntime) : Board :=
  { board with runtime := some ({ runtime with handoffResult := .nvs }.done .nvs .ok) }

/-- The next call of NVS that the worker makes, and what follows it -/
def nvsStep (board : Board) (runtime : CharacterizationRuntime) (succeeds : Bool) : Board :=
  match runtime.worker with
  | .idle => board
  | .persistOpening handoff =>
      if !succeeds then board.persistFails runtime
      else
        { board with
          nvs.namespaced := true
          runtime := some { runtime with worker := .persistSetting handoff } }
  | .persistSetting handoff =>
      if !succeeds then board.persistFails runtime
      else
        { board with
          nvs.handoff := some (encodeHandoff handoff)
          origin := board.prepared.length - 1
          runtime := some { runtime with worker := .persistCommitting } }
  | .persistCommitting =>
      if !succeeds then board.persistFails runtime
      else
        { board with
          runtime := some ({ runtime with
            handoffPresent := true
            handoffResult := .ok
            bootResumeStatus := .powerCycleRequired }.done .ok .ok) }
  | .eraseOpening completes =>
      if !succeeds then board.eraseFails runtime
      else
        { board with
          nvs.namespaced := true
          runtime := some { runtime with worker := .eraseErasing completes } }
  | .eraseErasing completes =>
      -- A key that is not there is no error.
      if !succeeds then board.eraseFails runtime
      else
        { board with
          nvs.handoff := none
          runtime := some { runtime with worker := .eraseCommitting completes } }
  | .eraseCommitting completes =>
      if !succeeds then board.eraseFails runtime
      else
        let runtime := { runtime with handoffPresent := false, handoffResult := .ok }
        if completes then board.campaignCall runtime .completeStage
        else { board with runtime := some (runtime.done .ok .ok) }

/-- One step; a request is executed when the worker has none, and a boot forgets what was in RAM. -/
def step (board : Board) : BoardStep → Board
  | .boot resetKind rtcCookieSurvived initFails answers =>
      { board with
        runtime :=
          if initFails then none
          else
            some (.configureBoot (loadHandoff board.nvs answers) resetKind rtcCookieSurvived
              board.origin) }
  | .request request =>
      match board.runtime with
      | some runtime => if runtime.worker = .idle then board.execute runtime request else board
      | none => board
  | .nvs succeeds =>
      match board.runtime with
      | some runtime => board.nvsStep runtime succeeds
      | none => board

end Board

/-! ### The bytes of a handoff -/

theorem pairwise_apart_handoffFields (handoff : M0Handoff) :
    (handoffFields handoff).Pairwise Image.Apart :=
  Image.pairwise_apart_of_extents
    [(0, 4), (4, 36), (36, 40), (40, 41), (41, 42), (42, 46)]
    (by simp [handoffFields, Field.stop, Value.bytes, LittleEndian.bytes32]) (by decide)

theorem length_encodeHandoff (handoff : M0Handoff) :
    (encodeHandoff handoff).length = kPersistedHandoffBytes :=
  Vector.length_toList

theorem stop_le_of_mem_handoffFields {handoff : M0Handoff} {field : Field}
    (written : field ∈ handoffFields handoff) : field.stop ≤ kPersistedHandoffBytes := by
  simp only [handoffFields, List.mem_cons, List.not_mem_nil, or_false] at written
  rcases written with rfl | rfl | rfl | rfl | rfl | rfl <;>
    simp [Field.stop, Value.bytes, LittleEndian.bytes32, kPersistedHandoffBytes]

/-- Each value stands at its offset. -/
theorem readLike_encodeHandoff {handoff : M0Handoff} {field : Field}
    (written : field ∈ handoffFields handoff) :
    (Image.ofBytes (encodeHandoff handoff)).readLike field.offset field.value = field.value := by
  apply Image.readLike_of_slice
  unfold encodeHandoff
  rw [Image.slice_ofBytes_toVector _ (stop_le_of_mem_handoffFields written)]
  exact Image.slice_ofFields (pairwise_apart_handoffFields handoff) written

theorem readHandoff_encodeHandoff (handoff : M0Handoff) :
    readHandoff (Image.ofBytes (encodeHandoff handoff)) = handoff := by
  have stands := fun field written => @readLike_encodeHandoff handoff field written
  simp only [handoffFields, List.forall_mem_cons, Image.readLike] at stands
  obtain ⟨schema, session, seed, mask, stage, checksum, -⟩ := stands
  unfold readHandoff
  rw [Value.word32.inj schema, Value.word32.inj seed, Value.byte.inj mask, Value.byte.inj stage,
    Value.word32.inj checksum, ByteEnum.ofByte_toByte,
    Image.getVector_eq (Value.text.inj session)]

/-- A valid handoff is read back as it was written. -/
theorem decodeHandoff_encodeHandoff {handoff : M0Handoff} (valid : validateHandoff handoff = true) :
    decodeHandoff (encodeHandoff handoff) = some handoff := by
  have stage := @readLike_encodeHandoff handoff
    ⟨41, .byte (ByteEnum.toByte handoff.expectedStage)⟩ (by simp [handoffFields])
  unfold decodeHandoff
  dsimp only
  rw [readHandoff_encodeHandoff, valid, Value.byte.inj stage, ByteEnum.valid_toByte]
  rfl

end MissionBoard.Characterization
