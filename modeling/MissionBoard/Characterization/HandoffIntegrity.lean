import MissionBoard.Characterization.HandoffStore
import MissionBoard.Library.InjectiveFold

/-!
Owns the integrity of the M0 handoff: what `prepareM0` writes passes `validateHandoff`, and no
handoff that passes is one byte away from another.

The checksum is a fold over the bytes of the other fields, and its step forgets nothing; so a
change of one of these bytes changes the checksum, and a change of the stored checksum nothing else.
The bytes are those of the stored image, field by field; there every byte of the stage is possible.
-/

namespace MissionBoard.Characterization

open ByteLayout LittleEndian

/-! ### The checksum as a fold over bytes -/

theorem faithful_hashByte : InjectiveFold.Faithful hashByte :=
  InjectiveFold.faithful_mix (show (16777619 : UInt32) * 899433627 = 1 by decide)

theorem hashU32_eq (hash value : UInt32) : hashU32 hash value = (bytes32 value).foldl hashByte hash := by
  simp [hashU32, bytes32]

/-- The bytes that the checksum covers -/
def M0Handoff.hashedBytes (handoff : M0Handoff) : List UInt8 :=
  bytes32 handoff.schemaVersion ++ handoff.sessionId.toList ++ bytes32 handoff.profileSeed ++
    [handoff.completedStageMask, ByteEnum.toByte handoff.expectedStage]

theorem computeHandoffChecksum_eq (handoff : M0Handoff) :
    computeHandoffChecksum handoff = handoff.hashedBytes.foldl hashByte 2166136261 := by
  simp only [computeHandoffChecksum, M0Handoff.hashedBytes, hashU32_eq, List.foldl_append,
    List.foldl_cons, List.foldl_nil]

/-! ### What is accepted is sealed -/

/-- The last four bytes are the checksum of those before them. -/
def Sealed (bytes : List UInt8) : Prop :=
  bytes.drop 42 = bytes32 ((bytes.take 42).foldl hashByte 2166136261)

/-- The bytes that the checksum covers stand at the head of the image. -/
theorem hashedBytes_readHandoff {bytes : List UInt8} (long : bytes.length = kPersistedHandoffBytes)
    (stage : ByteEnum.valid AssemblyStage (Image.ofBytes bytes 41) = true) :
    (readHandoff (Image.ofBytes bytes)).hashedBytes = bytes.take 42 := by
  unfold kPersistedHandoffBytes at long
  have head : (Image.ofBytes bytes).slice 0 (4 + 32 + 4 + 2) = bytes.take 42 := by
    rw [Image.slice_ofBytes (by omega)]
    rfl
  rw [← head, Image.slice_add, Image.slice_add, Image.slice_add]
  simp only [M0Handoff.hashedBytes, readHandoff, Image.bytes32_getU32, Image.toList_getVector,
    ByteEnum.toByte_ofByte _ stage]
  rfl

/-- An image that is decoded is sealed. -/
theorem sealed_of_decode {bytes : List UInt8} {handoff : M0Handoff}
    (long : bytes.length = kPersistedHandoffBytes) (decoded : decodeHandoff bytes = some handoff) :
    Sealed bytes := by
  unfold decodeHandoff at decoded
  dsimp only at decoded
  split at decoded
  · rename_i accepted
    obtain ⟨stage, valid⟩ := Bool.and_eq_true_iff.mp accepted
    have checksum : (Image.ofBytes bytes).getU32 42 =
        computeHandoffChecksum (readHandoff (Image.ofBytes bytes)) := by
      unfold validateHandoff at valid
      dsimp only at valid
      split at valid
      · cases valid
      · exact of_decide_eq_true valid
    rw [computeHandoffChecksum_eq, hashedBytes_readHandoff long stage] at checksum
    unfold kPersistedHandoffBytes at long
    unfold Sealed
    rw [← checksum, Image.bytes32_getU32, Image.slice_ofBytes (by omega)]
    exact (List.take_of_length_le (by rw [List.length_drop]; omega)).symm
  · cases decoded

/-- Two sealed images of one length do not differ in one byte. -/
theorem Sealed.not_set {bytes : List UInt8} (isSealed : Sealed bytes) {index : ℕ} {byte : UInt8}
    (within : index < bytes.length) (other : bytes[index]? ≠ some byte) :
    ¬Sealed (bytes.set index byte) := by
  intro still
  unfold Sealed at isSealed still
  by_cases covered : index < 42
  · rw [List.drop_set_of_lt covered, isSealed, List.take_set] at still
    have folds := Image.bytes32_injective still
    apply faithful_hashByte.foldl_set_ne 2166136261 _ _ folds.symm
    · rw [List.length_take]
      omega
    · rwa [List.getElem?_take_of_lt covered]
  · have head : (bytes.set index byte).take 42 = bytes.take 42 :=
      List.take_set_of_le (Nat.le_of_not_lt covered)
    rw [head, ← isSealed] at still
    have same : bytes.set index byte = bytes := by
      rw [← List.take_append_drop 42 (bytes.set index byte), head, still, List.take_append_drop]
    apply other
    rw [← same, List.getElem?_set_self within]

/-! ### What a campaign carries to its handoff -/

/-- The bits of the stages that precede a stage with fin -/
def AssemblyStage.bitsBefore (stage : AssemblyStage) : UInt8 :=
  (stage.before.map stageBit).foldl (· ||| ·) 0

/-- The mask has a bit for each stage that precedes, and stays so with one stage more. -/
theorem bitsBefore_next (mask : UInt8) {stage next : AssemblyStage}
    (order : (stage = .fv ∧ next = .fhPositive) ∨ (stage = .fhPositive ∧ next = .fhNegative))
    (held : mask &&& stage.bitsBefore = stage.bitsBefore) :
    (mask ||| stageBit stage) &&& next.bitsBefore = next.bitsBefore := by
  have first : ∀ mask : UInt8, (mask ||| 1) &&& 1 = 1 := ByteEnum.forall_byte (by decide +kernel)
  have second : ∀ mask : UInt8, mask &&& 1 = 1 → (mask ||| 2) &&& 3 = 3 :=
    ByteEnum.forall_byte (by decide +kernel)
  rcases order with ⟨rfl, rfl⟩ | ⟨rfl, rfl⟩
  · exact first mask
  · exact second mask held

/-- What the session of a machine has, as far as its handoff needs it -/
structure Carries (machine : CampaignStateMachine) : Prop where
  known : machine.state.inStage = true → machine.stage ≠ .none
  awaiting : machine.state = .awaitingM0Confirmation → machine.stage = .m0
  identity : machine.state.inStage = true ∨ machine.state = .awaitingM0Handoff →
    machine.stage ≠ .m0 → validSessionId machine.sessionId = true ∧ machine.profileSeed ≠ 0
  mask : machine.state.inStage = true → machine.stage ≠ .m0 →
    machine.completedStageMask &&& machine.stage.bitsBefore = machine.stage.bitsBefore
  handed : machine.state = .awaitingM0Handoff →
    machine.stage ≠ .m0 ∧ machine.completedStageMask &&& 7 = 7

/-- Outside a stage and before no handoff there is nothing to keep. -/
theorem carries_outside {machine : CampaignStateMachine} (stage : machine.state.inStage = false)
    (awaiting : machine.state = .awaitingM0Confirmation → machine.stage = .m0)
    (handoff : machine.state ≠ .awaitingM0Handoff) : Carries machine := by
  constructor
  · intro inStage
    rw [stage] at inStage
    cases inStage
  · exact awaiting
  · rintro (inStage | handed) _
    · rw [stage] at inStage
      cases inStage
    · exact absurd handed handoff
  · intro inStage
    rw [stage] at inStage
    cases inStage
  · intro handed
    exact absurd handed handoff

/-- A machine that stays in its stage keeps what the session has. -/
theorem Carries.stay {machine next : CampaignStateMachine} (carries : Carries machine)
    (before : machine.state.inStage = true) (after : next.state.inStage = true)
    (stage : next.stage = machine.stage) (session : next.sessionId = machine.sessionId)
    (seed : next.profileSeed = machine.profileSeed)
    (mask : next.completedStageMask = machine.completedStageMask) : Carries next := by
  constructor
  · intro _
    rw [stage]
    exact carries.known before
  · intro awaiting
    rw [awaiting] at after
    cases after
  · intro _ finned
    rw [stage] at finned
    rw [session, seed]
    exact carries.identity (Or.inl before) finned
  · intro _ finned
    rw [stage] at finned
    rw [mask, stage]
    exact carries.mask before finned
  · intro handed
    rw [handed] at after
    cases after

theorem Carries.transition {machine next : CampaignStateMachine} {call : CampaignCall}
    {status : CampaignStatus} (carries : Carries machine)
    (transition : machine.Transition call status next) : Carries next := by
  cases transition with
  | rejected refused => exact carries
  | notCounted reason state kind rate =>
      exact carries.stay (by rw [state]; rfl) rfl rfl rfl rfl rfl
  | started state valid seeded =>
      have nothing : (0 : UInt8) &&& AssemblyStage.fv.bitsBefore = AssemblyStage.fv.bitsBefore := by
        decide
      exact ⟨fun _ => nofun, nofun, fun _ _ => ⟨valid, seeded⟩, fun _ _ => nothing, nofun⟩
  | confirmed state finned => exact carries.stay (by rw [state]; rfl) rfl rfl rfl rfl rfl
  | begun state qualified => exact carries.stay (by rw [state]; rfl) rfl rfl rfl rfl rfl
  | counted state kind => exact carries.stay (by rw [state]; rfl) rfl rfl rfl rfl rfl
  | unsupported state rate => exact carries.stay (by rw [state]; rfl) rfl rfl rfl rfl rfl
  | finished state kind => exact carries.stay (by rw [state]; rfl) rfl rfl rfl rfl rfl
  | ended state => exact carries.stay (by rw [state]; rfl) rfl rfl rfl rfl rfl
  | passed state full order =>
      have finned : machine.stage ≠ .m0 := by
        rcases order with ⟨same, -⟩ | ⟨same, -⟩ <;> rw [same] <;> exact nofun
      have inStage : machine.state.inStage = true := by
        rw [state]
        rfl
      refine ⟨fun _ => ?_, nofun, fun _ _ => carries.identity (Or.inl inStage) finned,
        fun _ _ => bitsBefore_next _ order (carries.mask inStage finned), nofun⟩
      rcases order with ⟨-, same⟩ | ⟨-, same⟩ <;> rw [same] <;> exact nofun
  | left state full order =>
      have inStage : machine.state.inStage = true := by
        rw [state]
        rfl
      rcases order with ⟨stage, rfl⟩ | ⟨stage, rfl⟩
      · have finned : machine.stage ≠ .m0 := by
          rw [stage]
          exact nofun
        have held := carries.mask inStage finned
        have third : ∀ mask : UInt8, mask &&& 3 = 3 → (mask ||| 4) &&& 7 = 7 :=
          ByteEnum.forall_byte (by decide +kernel)
        refine ⟨nofun, nofun, fun _ _ => carries.identity (Or.inl inStage) finned, nofun,
          fun _ => ⟨finned, ?_⟩⟩
        rw [stage] at held ⊢
        exact third _ held
      · exact carries_outside rfl nofun nofun
  | prepared state stage => exact carries_outside rfl nofun nofun
  | resumed state valid => exact carries_outside rfl (fun _ => rfl) nofun
  | removed state =>
      have m0 := carries.awaiting state
      refine ⟨fun _ => ?_, nofun, fun _ finned => absurd m0 finned, fun _ finned => absurd m0 finned,
        nofun⟩
      show machine.stage ≠ .none
      rw [m0]
      exact nofun
  | faulted => exact carries_outside rfl nofun nofun

theorem Campaign.carries_step (campaign : Campaign) (label : CampaignStep)
    (carries : Carries campaign.machine) (_ : True) : Carries (campaign.step label).machine := by
  cases label with
  | reboot => exact carries_outside rfl nofun nofun
  | call call =>
      have known : campaign.machine.state = .ready → campaign.machine.stage ≠ .none :=
        fun ready => carries.known (by rw [ready]; rfl)
      exact carries.transition (CampaignStateMachine.transition_call known call)

/-- A machine that awaits its handoff writes one that is valid. -/
theorem Carries.validateHandoff {machine : CampaignStateMachine} (carries : Carries machine)
    (state : machine.state = .awaitingM0Handoff) : validateHandoff machine.handoff = true := by
  obtain ⟨finned, mask⟩ := carries.handed state
  obtain ⟨session, seeded⟩ := carries.identity (Or.inr state) finned
  unfold Characterization.validateHandoff
  dsimp only
  rw [if_neg]
  · exact decide_eq_true rfl
  · rintro (schema | unnamed | seedless | stage | unfinished)
    · exact schema rfl
    · rw [show machine.handoff.sessionId = machine.sessionId from rfl, session] at unnamed
      cases unnamed
    · exact seeded seedless
    · exact stage rfl
    · exact unfinished mask

/-! ### Integrity -/

/-- Every handoff that `prepareM0` writes passes `validateHandoff`; and a handoff that passes, one byte
of whose image is changed, does not pass any more, whether the stage then names an enumerator or not. -/
theorem handoff_integrity :
    (∀ labels : List CampaignStep,
      let machine := (Run.after Campaign.step {} labels).machine
      machine.prepareM0.1 = .ok → validateHandoff machine.handoff = true) ∧
    ∀ handoff : M0Handoff, validateHandoff handoff = true →
      ∀ (index : ℕ) (byte : UInt8), index < kPersistedHandoffBytes →
        (encodeHandoff handoff)[index]? ≠ some byte →
        decodeHandoff ((encodeHandoff handoff).set index byte) = none ∧
          ∀ changed : M0Handoff, encodeHandoff changed = (encodeHandoff handoff).set index byte →
            validateHandoff changed = false := by
  constructor
  · intro labels machine prepared
    have initially : Carries {} := carries_outside rfl nofun nofun
    have carries : Carries machine :=
      Run.invariant_after Campaign.carries_step initially
        (Run.along_of_forall (fun _ _ => trivial) _ labels)
    apply carries.validateHandoff
    by_contra other
    unfold CampaignStateMachine.prepareM0 at prepared
    rw [if_pos (Or.inl other)] at prepared
    cases prepared
  · intro handoff valid index byte within other
    have long := length_encodeHandoff handoff
    have isSealed := sealed_of_decode long (decodeHandoff_encodeHandoff valid)
    have broken := isSealed.not_set (long ▸ within) other
    have none : decodeHandoff ((encodeHandoff handoff).set index byte) = none := by
      cases decoded : decodeHandoff ((encodeHandoff handoff).set index byte) with
      | none => rfl
      | some found =>
          exact absurd (sealed_of_decode (by rw [List.length_set, long]) decoded) broken
    refine ⟨none, fun changed same => ?_⟩
    rw [← Bool.not_eq_true]
    intro still
    rw [← same, decodeHandoff_encodeHandoff still] at none
    cases none

/-- The handoff that three stages have written, and the same with another letter in its session -/
theorem handoff_integrity_written :
    validateHandoff writtenHandoff = true ∧
      decodeHandoff ((encodeHandoff writtenHandoff).set 4 0x7A) = none :=
  have prepared : (Run.after Campaign.step {} finnedStages.dropLast).machine.prepareM0.1 = .ok := by
    decide +kernel
  have written : (Run.after Campaign.step {} finnedStages.dropLast).machine.handoff =
      writtenHandoff := by
    decide +kernel
  have valid := written ▸ handoff_integrity.1 finnedStages.dropLast prepared
  have other : (encodeHandoff writtenHandoff)[4]? ≠ some 0x7A := by decide +kernel
  ⟨valid, (handoff_integrity.2 writtenHandoff valid 4 0x7A (by decide) other).1⟩

end MissionBoard.Characterization
