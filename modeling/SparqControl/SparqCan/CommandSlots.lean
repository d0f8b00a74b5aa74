/-
# SparqControl.SparqCan.CommandSlots — from a slot of the control block to the frame of its joint.

A slot has five fields. `update_Control_params` copies three of them into the motor that stands at the
place of the slot's joint: the position, clamped, and the two gains. `vel` and `ffTorque` are read from
shared memory and stored nowhere, so the motor goes on sending what they were at the start: zero.

`slots_applied_iff` says when the frames nevertheless carry the whole slots: when every slot's velocity
and torque encode like zero, and when every motor stands at its own place of the deque, or the slot of
the place says the same as its own. `main` puts every motor at its own place (`mainOrder_place`).
-/
import SparqControl.SparqCan.MotorProcess

namespace SparqControl.SparqCan

open SparqControl.Lib.Trace SparqControl.Lib.Quantize

section Slots

variable {K : Type} [Field K] [LinearOrder K]

/-- What a slot asks of a motor with the given offset: the position is cut to two turns either way and
counted from the offset, the other fields are the slot's own. -/
def slotCommand (mPi : MPi K) (posOffset : K) (slot : ControlParam K) : ControlWord → K
  | .pos => stdClamp slot.pos (-(4.0 * mPi.val)) (4.0 * mPi.val) - posOffset
  | .vel => slot.vel
  | .Kp => slot.Kp
  | .Kd => slot.Kd
  | .ffTorque => slot.ffTorque

/-- The velocity and the torque of a slot are zero, as far as their codes can tell. -/
def ControlParam.HoldsStill (c : MotorConstants K) (slot : ControlParam K) : Prop :=
  (0 ≤ slot.vel ∧ slot.vel < c.codeStep .vel) ∧
    (0 ≤ slot.ffTorque ∧ slot.ffTorque < c.codeStep .ffTorque)

variable [IsStrictOrderedRing K] [FloorRing K] (mPi : MPi K)

/-- The encoding of a whole slot: each field clamped to the range of an RS02 and cut to its grid. -/
def slotCode (posOffset : K) (slot : ControlParam K) (w : ControlWord) : ℤ :=
  ((motorConstants mPi .RS02).fieldGrid w).encodeFloor
    ((motorConstants mPi .RS02).clampCommand w (slotCommand mPi posOffset slot w))

/-- **The slots are fully applied.** The next frame of every joint's motor goes to the joint's id and
carries the codes of the joint's whole slot. -/
def SlotsApplied (order : List Joint) (mc : MotorCon K) (ctrlBuf : ControlSnapshot K) : Prop :=
  ∀ j : Joint, ∃ m, (mc.vec .RS02)[order.idxOf j]? = some m ∧
    targetId (m.writeUpdatedOperationFrame mPi) = j.canId.toUInt32 ∧
    ∀ w, (frameWord (m.writeUpdatedOperationFrame mPi) w : ℤ) =
      slotCode mPi m.posOffset (ctrlBuf j.shmMotorIndex) w

/-- The slot that is copied to the place of a joint's motor says what the joint's own slot says, in
the three fields that are copied. -/
def PlaceAgrees (order : List Joint) (mc : MotorCon K) (ctrlBuf : ControlSnapshot K) (j : Joint) :
    Prop :=
  ∀ (j' : Joint) m, j'.controlVectorIndex = order.idxOf j → (mc.vec .RS02)[order.idxOf j]? = some m →
    ∀ w, w = .pos ∨ w.isGain = true →
      slotCode mPi m.posOffset (ctrlBuf j'.shmMotorIndex) w =
        slotCode mPi m.posOffset (ctrlBuf j.shmMotorIndex) w

/-! ## One motor -/

/-- The middle code of a signed field is the code of the commands from zero up to a step. -/
theorem middle_code_iff (c : MotorConstants K) {w : ControlWord} (hw : w.isGain = false) (x : K) :
    (c.fieldGrid w).encodeFloor (c.clampCommand w x) = 0x7FFF ↔ 0 ≤ x ∧ x < c.codeStep w := by
  have hscale := c.scale_pos w
  have hlow : c.lowest w = -c.scale w := by rw [MotorConstants.lowest, hw, if_neg Bool.false_ne_true]
  have hstep : c.codeStep w = c.scale w / (0x7FFF : ℕ) := by
    rw [MotorConstants.codeStep, hw, if_neg Bool.false_ne_true]
  have hmid : (c.fieldGrid w).decode ((0x7FFF : ℕ) : ℤ) = 0 := by
    rw [← c.decodeCode_eq]
    exact c.decodeCode_middle hw
  have hnext : (c.fieldGrid w).decode ((0x8000 : ℕ) : ℤ) = c.codeStep w := by
    rw [← c.decodeCode_eq, MotorConstants.decodeCode, hw, if_neg Bool.false_ne_true, hstep]
    push_cast
    ring
  have hsmall : c.codeStep w < c.scale w := by
    rw [hstep]
    exact div_lt_self hscale (by norm_num)
  show (c.fieldGrid w).encodeFloor _ = ((0x7FFF : ℕ) : ℤ) ↔ _
  rw [Grid.encodeFloor_eq_iff, show ((0x7FFF : ℕ) : ℤ) + 1 = ((0x8000 : ℕ) : ℤ) by norm_num, hmid,
    hnext, MotorConstants.clampCommand, hlow]
  -- both bounds lie inside the range, so clamping does not move a command across them
  constructor
  · rintro ⟨h0, h1⟩
    rw [max_lt_iff, min_lt_iff] at h1
    rw [le_max_iff, le_min_iff] at h0
    refine ⟨?_, h1.2.resolve_right (not_lt.mpr hsmall.le)⟩
    rcases h0 with h0 | h0
    · linarith
    · exact h0.1
  · rintro ⟨h0, h1⟩
    exact ⟨le_max_of_le_right (le_min h0 hscale.le),
      max_lt (by linarith) (min_lt_of_left_lt h1)⟩

/-- A signed field that was told nothing carries the code of zero. -/
theorem operationCode_of_zero {m : RobstrideMotor K .RS02} {w : ControlWord} (hw : w.isGain = false)
    (hcmd : m.command w = 0) : m.operationCode mPi w = 0x7FFF := by
  rw [RobstrideMotor.operationCode_eq, hcmd]
  apply (middle_code_iff _ hw 0).mpr
  refine ⟨le_rfl, ?_⟩
  rw [MotorConstants.codeStep, hw, if_neg Bool.false_ne_true]
  exact div_pos (MotorConstants.scale_pos _ w) (by norm_num)

/-- A slot holds still exactly when its velocity and torque have the code of zero. -/
theorem holdsStill_iff_codes (posOffset : K) (slot : ControlParam K) :
    slot.HoldsStill (motorConstants mPi .RS02) ↔
      slotCode mPi posOffset slot .vel = 0x7FFF ∧ slotCode mPi posOffset slot .ffTorque = 0x7FFF := by
  unfold slotCode
  rw [middle_code_iff _ rfl, middle_code_iff _ rfl]
  rfl

/-- **One motor after a pass.** It was told nothing about velocity and torque before, and is told
nothing now. -/
theorem frame_applied_iff {j : Joint} {m : RobstrideMotor K .RS02} (hid : m.canId = j.canId)
    (hvel : m.controlParam.vel = 0) (hff : m.controlParam.ffTorque = 0)
    (slot slot' : ControlParam K) :
    (targetId ((applySlot mPi slot' m).writeUpdatedOperationFrame mPi) = j.canId.toUInt32 ∧
      ∀ w, (frameWord ((applySlot mPi slot' m).writeUpdatedOperationFrame mPi) w : ℤ) =
        slotCode mPi m.posOffset slot w) ↔
    slot.HoldsStill (motorConstants mPi .RS02) ∧
      ∀ w, w = .pos ∨ w.isGain = true →
        slotCode mPi m.posOffset slot' w = slotCode mPi m.posOffset slot w := by
  have hid256 : (applySlot mPi slot' m).canId.toUInt32 < 256 := by
    show m.canId.toUInt32 < 256
    rw [hid]
    exact j.canId_lt
  have htarget : targetId ((applySlot mPi slot' m).writeUpdatedOperationFrame mPi) =
      j.canId.toUInt32 := by
    rw [← hid]
    exact (operationFrame_read _ (UInt32.lt_iff_toNat_lt.mp hid256)).2.2.1
  -- the copied fields
  have hcopied : ∀ w, w = .pos ∨ w.isGain = true →
      (applySlot mPi slot' m).operationCode mPi w = slotCode mPi m.posOffset slot' w := by
    intro w hw
    rw [RobstrideMotor.operationCode_eq]
    cases w with
    | pos => rfl
    | Kp => rfl
    | Kd => rfl
    | vel => rcases hw with hw | hw <;> cases hw
    | ffTorque => rcases hw with hw | hw <;> cases hw
  -- the fields that are not: they hold the code of zero
  have hvelCode := operationCode_of_zero mPi (m := applySlot mPi slot' m) (w := .vel) rfl hvel
  have hffCode := operationCode_of_zero mPi (m := applySlot mPi slot' m) (w := .ffTorque) rfl hff
  rw [and_iff_right htarget, holdsStill_iff_codes mPi m.posOffset]
  constructor
  · intro hall
    have hcode : ∀ w,
        (applySlot mPi slot' m).operationCode mPi w = slotCode mPi m.posOffset slot w := by
      intro w
      rw [← RobstrideMotor.frameWord_write mPi _ hid256]
      exact hall w
    refine ⟨⟨?_, ?_⟩, ?_⟩
    · rw [← hcode, hvelCode]
    · rw [← hcode, hffCode]
    · intro w hw
      rw [← hcode, hcopied w hw]
  · rintro ⟨⟨hv, ht⟩, hagree⟩ w
    rw [RobstrideMotor.frameWord_write mPi _ hid256]
    show _ = slotCode mPi m.posOffset slot w
    cases w with
    | pos => rw [hcopied .pos (Or.inl rfl), hagree .pos (Or.inl rfl)]
    | Kp => rw [hcopied .Kp (Or.inr rfl), hagree .Kp (Or.inr rfl)]
    | Kd => rw [hcopied .Kd (Or.inr rfl), hagree .Kd (Or.inr rfl)]
    | vel => rw [hvelCode, hv]
    | ffTorque => rw [hffCode, ht]

/-! ## All motors, in any order, after any run -/

variable {maxId : ℕ} (h : RxHandler maxId)

/-- In a run, the motor of a joint has the joint's id and was never told a velocity or a torque. -/
theorem motor_of_run {order : List Joint} {j : Joint} (hj : j ∈ order) (es : List (SparqEvent K)) :
    ∃ m, ((final (sparqStep mPi h) (sparqStart mPi order) es).mc.vec .RS02)[order.idxOf j]? = some m ∧
      m.canId = j.canId ∧ m.controlParam.vel = 0 ∧ m.controlParam.ffTorque = 0 := by
  obtain ⟨m, hm, hsteady⟩ := steady_final mPi h (sparqStart mPi order) es (motor?_sparQ mPi hj)
  exact ⟨m, hm, hsteady.canId, hsteady.vel, hsteady.ffTorque⟩

/-- Every place of twelve is the place of a joint. -/
theorem exists_place {n : ℕ} (hn : n < 12) : ∃ j : Joint, j.controlVectorIndex = n := by
  have hall : ∀ n < 12, ∃ j ∈ Joint.all, j.controlVectorIndex = n := by decide
  obtain ⟨j, -, hj⟩ := hall n hn
  exact ⟨j, hj⟩

/-- One joint after a run and a pass. -/
theorem joint_applied_iff {order : List Joint} {j j' : Joint} (hj : j ∈ order)
    (hplace : j'.controlVectorIndex = order.idxOf j) (es : List (SparqEvent K))
    (ctrlBuf : ControlSnapshot K) :
    (∃ m, ((updateControlParams mPi (final (sparqStep mPi h) (sparqStart mPi order) es).mc
        ctrlBuf).vec .RS02)[order.idxOf j]? = some m ∧
      targetId (m.writeUpdatedOperationFrame mPi) = j.canId.toUInt32 ∧
      ∀ w, (frameWord (m.writeUpdatedOperationFrame mPi) w : ℤ) =
        slotCode mPi m.posOffset (ctrlBuf j.shmMotorIndex) w) ↔
    (ctrlBuf j.shmMotorIndex).HoldsStill (motorConstants mPi .RS02) ∧
      PlaceAgrees mPi order (final (sparqStep mPi h) (sparqStart mPi order) es).mc ctrlBuf j := by
  obtain ⟨m, hm, hid, hvel, hff⟩ := motor_of_run mPi h hj es
  have hpass := getElem?_updateControlParams mPi
    (final (sparqStep mPi h) (sparqStart mPi order) es).mc ctrlBuf j'
  rw [hplace, hm, Option.map_some] at hpass
  have hiff := frame_applied_iff mPi hid hvel hff (ctrlBuf j.shmMotorIndex)
    (ctrlBuf j'.shmMotorIndex)
  constructor
  · rintro ⟨m', hm', hframe⟩
    obtain rfl : applySlot mPi (ctrlBuf j'.shmMotorIndex) m = m' :=
      Option.some.inj (hpass.symm.trans hm')
    obtain ⟨hstill, hagree⟩ := hiff.mp hframe
    refine ⟨hstill, ?_⟩
    intro k m'' hk hm'' w hw
    obtain rfl : m = m'' := Option.some.inj (hm.symm.trans hm'')
    obtain rfl : k = j' := Joint.controlVectorIndex_inj (hk.trans hplace.symm)
    exact hagree w hw
  · rintro ⟨hstill, hagree⟩
    exact ⟨_, hpass, hiff.mpr ⟨hstill, hagree j' m hplace hm⟩⟩

/-- **When the slots are fully applied.** The motors were added in any order, and the threads did
anything before the pass: the frames carry the whole slots exactly when no slot asks for a velocity or
a torque that its code can show, and every place gets what its motor's own slot says. -/
theorem slots_applied_iff {order : List Joint} (horder : order.Perm Joint.all)
    (es : List (SparqEvent K)) (ctrlBuf : ControlSnapshot K) :
    SlotsApplied mPi order
        (updateControlParams mPi (final (sparqStep mPi h) (sparqStart mPi order) es).mc ctrlBuf)
        ctrlBuf ↔
      (∀ j : Joint, (ctrlBuf j.shmMotorIndex).HoldsStill (motorConstants mPi .RS02)) ∧
        ∀ j : Joint,
          PlaceAgrees mPi order (final (sparqStep mPi h) (sparqStart mPi order) es).mc ctrlBuf j := by
  have hjoint : ∀ j : Joint, ∃ j' : Joint, j'.controlVectorIndex = order.idxOf j := by
    intro j
    apply exists_place
    have hlen : order.length = 12 := horder.length_eq
    rw [← hlen]
    exact List.idxOf_lt_length_of_mem (horder.mem_iff.mpr j.mem_all)
  rw [← forall_and]
  apply forall_congr'
  intro j
  obtain ⟨j', hj'⟩ := hjoint j
  exact joint_applied_iff mPi h (horder.mem_iff.mpr j.mem_all) hj' es ctrlBuf

end Slots

/-- Twelve slots that ask for a position only. -/
def poseSlots : ControlSnapshot ℚ := fun _ => ⟨1, 0, 20, 1, 0⟩

/-- A pose is applied in full by the process `main` starts. -/
theorem slots_applied_pose :
    SlotsApplied MPi.double Joint.mainOrder
      (updateControlParams MPi.double
        (final (sparqStep MPi.double (RxHandler.new maxID
            (sparQ (MPi.double : MPi ℚ) Joint.mainOrder)))
          (sparqStart MPi.double Joint.mainOrder) []).mc poseSlots) poseSlots := by
  refine (slots_applied_iff MPi.double _ (by decide) [] poseSlots).mpr ⟨?_, ?_⟩
  · intro j
    norm_num [poseSlots, ControlParam.HoldsStill, MotorConstants.codeStep, ControlWord.isGain,
      MotorConstants.scale, motorConstants, RobstrideMotorType.velScale, RobstrideMotorType.tqScale]
  · intro j j' m hplace _ w _
    rfl

/-- Twelve slots that ask for one radian per second. -/
def movingSlots : ControlSnapshot ℚ := fun _ => ⟨0, 1, 0, 0, 0⟩

/-- The velocity of a slot does not reach the bus. -/
theorem velocity_not_applied :
    ¬ SlotsApplied MPi.double Joint.mainOrder
      (updateControlParams MPi.double (sparQ MPi.double Joint.mainOrder) movingSlots)
      movingSlots := by
  intro happlied
  have hj := happlied ⟨.leftFront, .hipRoll⟩
  have hstill := ((joint_applied_iff MPi.double (RxHandler.empty : RxHandler maxID) (by decide)
    (mainOrder_place ⟨.leftFront, .hipRoll⟩).symm [] movingSlots).mp hj).1.1.2
  norm_num [movingSlots, MotorConstants.codeStep, ControlWord.isGain, MotorConstants.scale,
    motorConstants, RobstrideMotorType.velScale] at hstill

end SparqControl.SparqCan
