/-
# SparqControl.SparqCan.RobstrideMotor — one Robstride motor: scales, cells and operation frames.

A motor object holds the commands the shared-memory thread stores, the feedback the receive loop
stores, and the offset between the encoder's zero and the joint's zero that `calibrate` finds. Its
one recurring output is the operation frame: four big-endian words and, in the extended id, a fifth.
Each word is a command clamped to the motor's range and TRUNCATED onto a uniform grid, so the codec is
`Lib.Quantize.Grid.encodeFloor` five times: signed fields have 65534 steps between `-scale` and
`scale`, gains 65535 steps between zero and `scale`.

Arithmetic is exact, in any ordered field with a floor.
-/
import Mathlib.Tactic.NormNum.OfScientific
import SparqControl.Hal.CanFrame
import SparqControl.Lib.Packed
import SparqControl.Lib.Quantize
import SparqControl.SparqCan.ControlStruct

namespace SparqControl.SparqCan

open SparqControl.Hal
open SparqControl.Lib.Quantize SparqControl.Lib.Packed

/-! ## Scales -/

/-- `RobstrideMotor_type`. -/
inductive RobstrideMotorType where
  | RS00 | RS01 | RS02 | RS03 | RS04 | RS05 | RS06 | EL05
  deriving DecidableEq

/-- A value of `M_PI`. The source's is the double nearest to π (`MPi.double`); nothing below depends
on which positive number stands for it. -/
structure MPi (K : Type) [Field K] [LinearOrder K] where
  val : K
  pos : 0 < val

/-- `MotorConstants` of one motor type. The `INV_` constants are the quotients they are defined as. -/
structure MotorConstants (K : Type) [Field K] [LinearOrder K] where
  posScale : K
  velScale : K
  kpScale : K
  kdScale : K
  tqScale : K
  posScale_pos : 0 < posScale
  velScale_pos : 0 < velScale
  kpScale_pos : 0 < kpScale
  kdScale_pos : 0 < kdScale
  tqScale_pos : 0 < tqScale

section Constants

variable {K : Type} [Field K] [LinearOrder K] [IsStrictOrderedRing K]

namespace RobstrideMotorType

/-- `VEL_SCALE`. -/
def velScale : RobstrideMotorType → K
  | RS00 => 33.0
  | RS01 => 44.0
  | RS02 => 44.0
  | RS03 => 20.0
  | RS04 => 15.0
  | RS05 => 50.0
  | RS06 => 50.0
  | EL05 => 50.0

/-- `KP_SCALE`. -/
def kpScale : RobstrideMotorType → K
  | RS03 => 5000.0
  | RS04 => 5000.0
  | RS06 => 5000.0
  | _ => 500.0

/-- `KD_SCALE`. -/
def kdScale : RobstrideMotorType → K
  | RS03 => 100.0
  | RS04 => 100.0
  | RS06 => 100.0
  | _ => 5.0

/-- `TQ_SCALE`. -/
def tqScale : RobstrideMotorType → K
  | RS00 => 14.0
  | RS01 => 17.0
  | RS02 => 17.0
  | RS03 => 60.0
  | RS04 => 120.0
  | RS05 => 5.5
  | RS06 => 36.0
  | EL05 => 6.0

theorem velScale_pos (t : RobstrideMotorType) : 0 < (velScale t : K) := by
  cases t <;> norm_num [velScale]

theorem kpScale_pos (t : RobstrideMotorType) : 0 < (kpScale t : K) := by
  cases t <;> norm_num [kpScale]

theorem kdScale_pos (t : RobstrideMotorType) : 0 < (kdScale t : K) := by
  cases t <;> norm_num [kdScale]

theorem tqScale_pos (t : RobstrideMotorType) : 0 < (tqScale t : K) := by
  cases t <;> norm_num [tqScale]

end RobstrideMotorType

theorem MPi.double_pos : (0 : K) < mathPi := by
  norm_num [mathPi]

/-- The source's `M_PI`. -/
def MPi.double : MPi K := ⟨mathPi, MPi.double_pos⟩

theorem MPi.posScale_pos (mPi : MPi K) : 0 < 4.0 * mPi.val := by
  have := mPi.pos
  norm_num
  linarith

theorem MPi.turn_pos (mPi : MPi K) : 0 < 2.0 * mPi.val := by
  have := mPi.pos
  norm_num
  linarith

/-- `MotorConstants<T>`. `POS_SCALE` is `4 * M_PI` for every type. -/
def motorConstants (mPi : MPi K) (t : RobstrideMotorType) : MotorConstants K where
  posScale := 4.0 * mPi.val
  velScale := t.velScale
  kpScale := t.kpScale
  kdScale := t.kdScale
  tqScale := t.tqScale
  posScale_pos := mPi.posScale_pos
  velScale_pos := t.velScale_pos
  kpScale_pos := t.kpScale_pos
  kdScale_pos := t.kdScale_pos
  tqScale_pos := t.tqScale_pos

end Constants

/-! ## The motor object -/

/-- `RobstrideMotor<t>`. `Motor_Control_param` and `Motor_Feedback_Param` are the two shared records
with atomic cells; both start at zero, as `pos_offset` does. -/
structure RobstrideMotor (K : Type) (t : RobstrideMotorType) where
  canInterface : ℕ
  canId : Int32
  posOffsetMech : K
  controlParam : ControlParam K
  feedbackParam : FeedbackParam K
  posOffset : K
  calibrated : Bool

section Motor

variable {K : Type} [Field K] [LinearOrder K] {t : RobstrideMotorType}

/-- The constructor. -/
def RobstrideMotor.make (canInterface : ℕ) (canId : Int32) (posOffsetMech : K) :
    RobstrideMotor K t where
  canInterface := canInterface
  canId := canId
  posOffsetMech := posOffsetMech
  controlParam := ⟨0, 0, 0, 0, 0⟩
  feedbackParam := ⟨0, 0, 0, 0⟩
  posOffset := 0
  calibrated := false

variable [IsStrictOrderedRing K] (mPi : MPi K)

/-- `write_FB`: the normalised readings of a status frame, in the motor's units. -/
def RobstrideMotor.writeFB (m : RobstrideMotor K t) (pos vel torqRaw temp : K) :
    RobstrideMotor K t :=
  let c := motorConstants mPi t
  { m with feedbackParam := ⟨pos * c.posScale, vel * c.velScale, torqRaw * c.tqScale, temp⟩ }

variable [FloorRing K]

/-- `calibrate`: whole turns are taken off the feedback, then the mechanical offset. -/
def RobstrideMotor.calibrate (m : RobstrideMotor K t) (expected : K) : RobstrideMotor K t :=
  let diff := m.feedbackParam.pos - expected
  { m with
    posOffset := -(roundHalfAway (diff / (2.0 * mPi.val)) : K) * (2.0 * mPi.val) - m.posOffsetMech
    calibrated := true }

end Motor

/-! ## Operation frames -/

/-- `CAN_EFF_FLAG`. -/
def canEffFlag : UInt32 := 0x80000000

/-- `COMM_OPERATION_CONTROL`. -/
def commOperationControl : UInt32 := 1

/-- `pack_u16_be`. -/
def packU16Be (val : UInt16) : List UInt8 := [((val >>> 8) &&& 0xFF).toUInt8, (val &&& 0xFF).toUInt8]

/-- `send_frame`: the record written to the motor's interface. -/
def sendFrame (canId : UInt32) (data : List UInt8) : LinuxCanFrame where
  canId := canId ||| canEffFlag
  canDlc := UInt8.ofNat data.length
  data := ljust8 data

/-- What `write_operation_frame` and `write_updated_operation_frame` do with their five words. -/
def operationFrame (canId : Int32) (word : ControlWord → UInt16) : LinuxCanFrame :=
  sendFrame
    ((commOperationControl <<< 24) ||| ((0xffff &&& (word .ffTorque).toUInt32) <<< 8) |||
      canId.toUInt32)
    (packU16Be (word .pos) ++ packU16Be (word .vel) ++ packU16Be (word .Kp) ++ packU16Be (word .Kd))

section Encode

variable {K : Type} [Field K] [LinearOrder K] [FloorRing K]

/-- The conversion of a double to an integer type, before it is cut to the type's width. -/
def truncate (x : K) : ℤ := if 0 ≤ x then ⌊x⌋ else ⌈x⌉

/-- `std::clamp`. -/
def stdClamp (v lo hi : K) : K := if v < lo then lo else if hi < v then hi else v

/-- `(x * INV_SCALE + 1.0) * 0x7FFF`, truncated. -/
def signedCode (scale x : K) : ℤ := truncate ((x * (1.0 / scale) + 1.0) * (0x7FFF : ℕ))

/-- `x * INV_SCALE * 0xFFFF`, truncated. -/
def gainCode (scale x : K) : ℤ := truncate (x * (1.0 / scale) * (0xFFFF : ℕ))

variable [IsStrictOrderedRing K] (mPi : MPi K) {t : RobstrideMotorType}

/-- `write_operation_frame`: velocity and torque are the constant `0x7FFF`. -/
def RobstrideMotor.writeOperationFrame (m : RobstrideMotor K t) (pos kpVal kdVal : K) :
    LinuxCanFrame :=
  let c := motorConstants mPi t
  operationFrame m.canId fun
    | .pos => UInt16.ofInt (signedCode c.posScale (max (-c.posScale) (min c.posScale pos)))
    | .vel => 0x7FFF
    | .Kp => UInt16.ofInt (gainCode c.kpScale (max 0 (min c.kpScale kpVal)))
    | .Kd => UInt16.ofInt (gainCode c.kdScale (max 0 (min c.kdScale kdVal)))
    | .ffTorque => 0x7FFF

/-- The five integers `write_updated_operation_frame` converts to `uint16_t`. -/
def RobstrideMotor.operationCode (m : RobstrideMotor K t) : ControlWord → ℤ :=
  let c := motorConstants mPi t
  fun
    | .pos =>
        signedCode c.posScale (stdClamp (m.controlParam.pos - m.posOffset) (-c.posScale) c.posScale)
    | .vel => signedCode c.velScale (stdClamp m.controlParam.vel (-c.velScale) c.velScale)
    | .Kp => gainCode c.kpScale (max 0 (min c.kpScale m.controlParam.Kp))
    | .Kd => gainCode c.kdScale (max 0 (min c.kdScale m.controlParam.Kd))
    | .ffTorque => signedCode c.tqScale (stdClamp m.controlParam.ffTorque (-c.tqScale) c.tqScale)

/-- `write_updated_operation_frame`. -/
def RobstrideMotor.writeUpdatedOperationFrame (m : RobstrideMotor K t) : LinuxCanFrame :=
  operationFrame m.canId fun w => UInt16.ofInt (m.operationCode mPi w)

end Encode

/-! ## Reading an operation frame -/

/-- `(data[i] << 8) | data[i + 1]`. -/
def readU16Be (data : Vector UInt8 8) (i : ℕ) : UInt16 :=
  ((data.toList.getD i 0).toUInt16 <<< 8) ||| (data.toList.getD (i + 1) 0).toUInt16

/-- The five words of an operation frame: four in the data, the torque in bits 8 to 23 of the id. -/
def frameWord (frame : LinuxCanFrame) : ControlWord → ℕ
  | .pos => (readU16Be frame.data 0).toNat
  | .vel => (readU16Be frame.data 2).toNat
  | .Kp => (readU16Be frame.data 4).toNat
  | .Kd => (readU16Be frame.data 6).toNat
  | .ffTorque => ((frame.canId >>> 8) &&& 0xffff).toNat

/-- The communication type: bits 24 to 28 of the id. -/
def commType (frame : LinuxCanFrame) : UInt32 := (frame.canId >>> 24) &&& 0x1F

/-- The target of an operation frame: the low byte of the id. -/
def targetId (frame : LinuxCanFrame) : UInt32 := frame.canId &&& 0xFF

/-- The frame has a 29-bit id. -/
def isExtended (frame : LinuxCanFrame) : Bool := frame.canId &&& canEffFlag != 0

theorem word_packU16Be (a : UInt16) :
    (((a >>> 8) &&& 0xFF).toUInt8.toUInt16 <<< 8) ||| (a &&& 0xFF).toUInt8.toUInt16 = a := by
  have ha := a.toNat_lt
  have hFF : (0xFF : UInt16).toNat = 2 ^ 8 - 1 := rfl
  have h8 : (8 : UInt16).toNat % 16 = 8 := rfl
  apply UInt16.toNat_inj.mp
  rw [toNat_word16]
  simp only [UInt16.toNat_toUInt8, UInt16.toNat_and, UInt16.toNat_shiftRight, hFF, h8,
    Nat.and_two_pow_sub_one_eq_mod, Nat.shiftRight_eq_div_pow]
  omega

theorem or_and_flag (x flag : UInt32) : (x ||| flag) &&& flag = flag := by
  apply UInt32.toNat_inj.mp
  rw [UInt32.toNat_and, UInt32.toNat_or]
  apply Nat.eq_of_testBit_eq
  intro i
  rw [Nat.testBit_and, Nat.testBit_or]
  cases x.toNat.testBit i <;> cases flag.toNat.testBit i <;> rfl

section Frame

variable {canId : Int32} (word : ControlWord → UInt16)

/-- The id of an operation frame, as a sum of its fields. -/
theorem toNat_operationFrame_canId (hid : canId.toUInt32.toNat < 256) :
    (operationFrame canId word).canId.toNat =
      2 ^ 31 + 2 ^ 24 + (word .ffTorque).toNat * 2 ^ 8 + canId.toUInt32.toNat := by
  have ht := (word .ffTorque).toNat_lt
  have hone : (commOperationControl <<< 24).toNat = 1 <<< 24 := rfl
  have h8 : (8 : UInt32).toNat % 32 = 8 := rfl
  have hmask : (0xffff &&& (word .ffTorque).toUInt32).toNat = (word .ffTorque).toNat := by
    have hffff : (0xffff : UInt32).toNat = 2 ^ 16 - 1 := rfl
    rw [UInt32.toNat_and, UInt16.toNat_toUInt32, hffff, Nat.and_comm,
      Nat.and_two_pow_sub_one_eq_mod]
    omega
  have heff : canEffFlag.toNat = 1 <<< 31 := rfl
  -- each field lies below the shift of the next one
  have hlow : (word .ffTorque).toNat <<< 8 ||| canId.toUInt32.toNat =
      (word .ffTorque).toNat * 2 ^ 8 + canId.toUInt32.toNat := shiftLeft_or _ 8 hid
  have hmid : 1 <<< 24 ||| ((word .ffTorque).toNat * 2 ^ 8 + canId.toUInt32.toNat) =
      1 * 2 ^ 24 + ((word .ffTorque).toNat * 2 ^ 8 + canId.toUInt32.toNat) :=
    shiftLeft_or 1 24 (by omega)
  have htop : 1 <<< 31 ||| (1 * 2 ^ 24 + ((word .ffTorque).toNat * 2 ^ 8 + canId.toUInt32.toNat)) =
      1 * 2 ^ 31 + (1 * 2 ^ 24 + ((word .ffTorque).toNat * 2 ^ 8 + canId.toUInt32.toNat)) :=
    shiftLeft_or 1 31 (by omega)
  show (commOperationControl <<< 24 ||| (0xffff &&& (word .ffTorque).toUInt32) <<< 8 |||
    canId.toUInt32 ||| canEffFlag).toNat = _
  rw [UInt32.toNat_or, UInt32.toNat_or, UInt32.toNat_or, hone, UInt32.toNat_shiftLeft, hmask, h8,
    heff, Nat.mod_eq_of_lt (by rw [Nat.shiftLeft_eq]; omega), Nat.or_comm _ (1 <<< 31),
    Nat.or_assoc, hlow, hmid, htop]
  omega

/-- **What a frame says can be read off it**: type 1, the motor's id, and the five words. -/
theorem operationFrame_read (hid : canId.toUInt32.toNat < 256) :
    isExtended (operationFrame canId word) = true ∧
    commType (operationFrame canId word) = 1 ∧
    targetId (operationFrame canId word) = canId.toUInt32 ∧
    ∀ w, frameWord (operationFrame canId word) w = (word w).toNat := by
  have hcan := toNat_operationFrame_canId word hid
  have ht := (word .ffTorque).toNat_lt
  refine ⟨?_, ?_, ?_, ?_⟩
  · show (_ ||| canEffFlag) &&& canEffFlag != 0
    rw [or_and_flag]
    rfl
  · have h1F : (0x1F : UInt32).toNat = 2 ^ 5 - 1 := rfl
    have h24 : (24 : UInt32).toNat % 32 = 24 := rfl
    apply UInt32.toNat_inj.mp
    show (((operationFrame canId word).canId >>> 24) &&& 0x1F).toNat = 1
    rw [UInt32.toNat_and, UInt32.toNat_shiftRight, hcan, h1F, h24, Nat.and_two_pow_sub_one_eq_mod,
      Nat.shiftRight_eq_div_pow]
    omega
  · have hFF : (0xFF : UInt32).toNat = 2 ^ 8 - 1 := rfl
    apply UInt32.toNat_inj.mp
    show ((operationFrame canId word).canId &&& 0xFF).toNat = _
    rw [UInt32.toNat_and, hcan, hFF, Nat.and_two_pow_sub_one_eq_mod]
    omega
  · intro w
    cases w with
    | pos => exact congrArg UInt16.toNat (word_packU16Be (word .pos))
    | vel => exact congrArg UInt16.toNat (word_packU16Be (word .vel))
    | Kp => exact congrArg UInt16.toNat (word_packU16Be (word .Kp))
    | Kd => exact congrArg UInt16.toNat (word_packU16Be (word .Kd))
    | ffTorque =>
        have hffff : (0xffff : UInt32).toNat = 2 ^ 16 - 1 := rfl
        have h8 : (8 : UInt32).toNat % 32 = 8 := rfl
        show (((operationFrame canId word).canId >>> 8) &&& 0xffff).toNat = _
        rw [UInt32.toNat_and, UInt32.toNat_shiftRight, hcan, hffff, h8,
          Nat.and_two_pow_sub_one_eq_mod, Nat.shiftRight_eq_div_pow]
        omega

end Frame

/-! ## The five grids -/

/-- The two gains have no sign. -/
def ControlWord.isGain : ControlWord → Bool
  | .Kp | .Kd => true
  | _ => false

section Grids

variable {K : Type} [Field K] [LinearOrder K]

/-- The upper end of a field's range. -/
def MotorConstants.scale (c : MotorConstants K) : ControlWord → K
  | .pos => c.posScale
  | .vel => c.velScale
  | .Kp => c.kpScale
  | .Kd => c.kdScale
  | .ffTorque => c.tqScale

/-- The lower end of a field's range. -/
def MotorConstants.lowest (c : MotorConstants K) (w : ControlWord) : K :=
  if w.isGain then 0 else -c.scale w

/-- The number of steps of a field. -/
def ControlWord.levels (w : ControlWord) : ℕ := if w.isGain then 65535 else 65534

/-- The inverse scaling: `code / 65535 * scale` for a gain, `(code / 32767 - 1) * scale` else. -/
def MotorConstants.decodeCode (c : MotorConstants K) (w : ControlWord) (code : ℕ) : K :=
  if w.isGain then code / (0xFFFF : ℕ) * c.scale w else (code / (0x7FFF : ℕ) - 1) * c.scale w

/-- One step of a field. -/
def MotorConstants.codeStep (c : MotorConstants K) (w : ControlWord) : K :=
  if w.isGain then c.scale w / (0xFFFF : ℕ) else c.scale w / (0x7FFF : ℕ)

theorem MotorConstants.scale_pos (c : MotorConstants K) (w : ControlWord) : 0 < c.scale w := by
  cases w with
  | pos => exact c.posScale_pos
  | vel => exact c.velScale_pos
  | Kp => exact c.kpScale_pos
  | Kd => exact c.kdScale_pos
  | ffTorque => exact c.tqScale_pos

theorem ControlWord.levels_pos (w : ControlWord) : 0 < w.levels := by
  unfold ControlWord.levels
  split <;> decide

variable [IsStrictOrderedRing K]

theorem MotorConstants.lowest_lt_scale (c : MotorConstants K) (w : ControlWord) :
    c.lowest w < c.scale w := by
  have hpos := c.scale_pos w
  unfold MotorConstants.lowest
  split
  · exact hpos
  · linarith

/-- The grid of a field. -/
def MotorConstants.fieldGrid (c : MotorConstants K) (w : ControlWord) : Grid K :=
  Grid.between (c.lowest w) (c.scale w) w.levels (c.lowest_lt_scale w) w.levels_pos

theorem MotorConstants.decodeCode_eq (c : MotorConstants K) (w : ControlWord) (code : ℕ) :
    c.decodeCode w code = (c.fieldGrid w).decode code := by
  simp only [MotorConstants.decodeCode, MotorConstants.fieldGrid, Grid.decode, Grid.between,
    MotorConstants.lowest, ControlWord.levels]
  split
  · push_cast
    ring
  · push_cast
    ring

theorem MotorConstants.codeStep_eq (c : MotorConstants K) (w : ControlWord) :
    c.codeStep w = (c.fieldGrid w).span / (c.fieldGrid w).levels := by
  simp only [MotorConstants.codeStep, MotorConstants.fieldGrid, Grid.between,
    MotorConstants.lowest, ControlWord.levels]
  split
  · rw [sub_zero]
  · push_cast
    ring

/-! ## The command path -/

variable {t : RobstrideMotorType}

/-- The command of a field. A position is commanded in joint coordinates. -/
def RobstrideMotor.command (m : RobstrideMotor K t) : ControlWord → K
  | .pos => m.controlParam.pos - m.posOffset
  | .vel => m.controlParam.vel
  | .Kp => m.controlParam.Kp
  | .Kd => m.controlParam.Kd
  | .ffTorque => m.controlParam.ffTorque

/-- A command cut to the range of its field. -/
def MotorConstants.clampCommand (c : MotorConstants K) (w : ControlWord) (x : K) : K :=
  max (c.lowest w) (min x (c.scale w))

theorem stdClamp_eq {v lo hi : K} (h : lo ≤ hi) : stdClamp v lo hi = max lo (min v hi) := by
  unfold stdClamp
  split
  · rw [min_eq_left (by linarith), max_eq_left (by linarith)]
  · split
    · rw [min_eq_right (by linarith), max_eq_right h]
    · rw [min_eq_left (by linarith), max_eq_right (by linarith)]

theorem MotorConstants.clampCommand_mem (c : MotorConstants K) (w : ControlWord) (x : K) :
    (c.fieldGrid w).lo ≤ c.clampCommand w x ∧
      c.clampCommand w x ≤ (c.fieldGrid w).lo + (c.fieldGrid w).span := by
  have hle := (c.lowest_lt_scale w).le
  show c.lowest w ≤ _ ∧ _ ≤ c.lowest w + (c.scale w - c.lowest w)
  rw [add_sub_cancel]
  exact ⟨le_max_left _ _, max_le hle (min_le_right _ _)⟩

variable [FloorRing K]

omit [IsStrictOrderedRing K] in
theorem truncate_of_nonneg {x : K} (hx : 0 ≤ x) : truncate x = ⌊x⌋ := if_pos hx

/-- Both conversions count steps on the grid and drop the rest. -/
theorem MotorConstants.signedCode_eq (c : MotorConstants K) {w : ControlWord}
    (hw : w.isGain = false) {x : K} (hx : (c.fieldGrid w).lo ≤ x) :
    signedCode (c.scale w) x = (c.fieldGrid w).encodeFloor x := by
  have hs := (c.scale_pos w).ne'
  have hpos : (x * (1.0 / c.scale w) + 1.0) * (0x7FFF : ℕ) = (c.fieldGrid w).position x := by
    simp only [MotorConstants.fieldGrid, Grid.position, Grid.between, MotorConstants.lowest,
      ControlWord.levels, hw, Bool.false_eq_true, if_false]
    push_cast
    norm_num
    field_simp
    ring
  rw [signedCode, hpos, truncate_of_nonneg ((c.fieldGrid w).position_nonneg hx)]
  rfl

theorem MotorConstants.gainCode_eq (c : MotorConstants K) {w : ControlWord}
    (hw : w.isGain = true) {x : K} (hx : (c.fieldGrid w).lo ≤ x) :
    gainCode (c.scale w) x = (c.fieldGrid w).encodeFloor x := by
  have hs := (c.scale_pos w).ne'
  have hpos : x * (1.0 / c.scale w) * (0xFFFF : ℕ) = (c.fieldGrid w).position x := by
    simp only [MotorConstants.fieldGrid, Grid.position, Grid.between, MotorConstants.lowest,
      ControlWord.levels, hw, if_true]
    push_cast
    norm_num
    field_simp
  rw [gainCode, hpos, truncate_of_nonneg ((c.fieldGrid w).position_nonneg hx)]
  rfl

variable (mPi : MPi K)

/-- **Every code is the truncated grid position of the clamped command.** -/
theorem RobstrideMotor.operationCode_eq (m : RobstrideMotor K t) (w : ControlWord) :
    m.operationCode mPi w = ((motorConstants mPi t).fieldGrid w).encodeFloor
      ((motorConstants mPi t).clampCommand w (m.command w)) := by
  generalize hc : motorConstants mPi t = c
  have hmem := fun w x => (c.clampCommand_mem w x).1
  have hsigned : ∀ w, w.isGain = false → ∀ x,
      signedCode (c.scale w) (stdClamp x (-c.scale w) (c.scale w)) =
        (c.fieldGrid w).encodeFloor (c.clampCommand w x) := by
    intro w hw x
    have hlow : c.lowest w = -c.scale w := by simp [MotorConstants.lowest, hw]
    rw [stdClamp_eq (by have := c.scale_pos w; linarith), ← hlow]
    exact c.signedCode_eq hw (hmem w x)
  have hgain : ∀ w, w.isGain = true → ∀ x,
      gainCode (c.scale w) (max 0 (min (c.scale w) x)) =
        (c.fieldGrid w).encodeFloor (c.clampCommand w x) := by
    intro w hw x
    have hlow : c.lowest w = 0 := by simp [MotorConstants.lowest, hw]
    rw [min_comm, ← hlow]
    exact c.gainCode_eq hw (hmem w x)
  unfold RobstrideMotor.operationCode
  rw [hc]
  cases w with
  | pos => exact hsigned .pos rfl _
  | vel => exact hsigned .vel rfl _
  | Kp => exact hgain .Kp rfl _
  | Kd => exact hgain .Kd rfl _
  | ffTorque => exact hsigned .ffTorque rfl _

theorem RobstrideMotor.operationCode_mem (m : RobstrideMotor K t) (w : ControlWord) :
    0 ≤ m.operationCode mPi w ∧ m.operationCode mPi w < 2 ^ 16 := by
  obtain ⟨hlo, hhi⟩ := (motorConstants mPi t).clampCommand_mem w (m.command w)
  obtain ⟨h0, h1⟩ := ((motorConstants mPi t).fieldGrid w).encodeFloor_mem hlo hhi
  have hlev : ((motorConstants mPi t).fieldGrid w).levels < 2 ^ 16 := by
    show w.levels < 2 ^ 16
    unfold ControlWord.levels
    split <;> decide
  rw [m.operationCode_eq]
  omega

theorem toNat_ofInt_u16 {n : ℤ} (h0 : 0 ≤ n) (h1 : n < 2 ^ 16) : ((UInt16.ofInt n).toNat : ℤ) = n := by
  rw [UInt16.ofInt, UInt16.toNat_ofNat', Int.emod_eq_of_lt h0 (by omega)]
  omega

/-- The words on the bus are the codes: none of them wraps around. -/
theorem RobstrideMotor.frameWord_write (m : RobstrideMotor K t)
    (hid : m.canId.toUInt32 < 256) (w : ControlWord) :
    (frameWord (m.writeUpdatedOperationFrame mPi) w : ℤ) = m.operationCode mPi w := by
  obtain ⟨h0, h1⟩ := m.operationCode_mem mPi w
  unfold RobstrideMotor.writeUpdatedOperationFrame
  rw [(operationFrame_read _ (UInt32.lt_iff_toNat_lt.mp hid)).2.2.2 w]
  exact toNat_ofInt_u16 h0 h1

/-- The position word does not depend on the id. -/
theorem RobstrideMotor.frameWord_pos (m : RobstrideMotor K t) :
    (frameWord (m.writeUpdatedOperationFrame mPi) .pos : ℤ) = m.operationCode mPi .pos := by
  obtain ⟨h0, h1⟩ := m.operationCode_mem mPi .pos
  have hword : frameWord (m.writeUpdatedOperationFrame mPi) .pos =
      (UInt16.ofInt (m.operationCode mPi .pos)).toNat := congrArg UInt16.toNat (word_packU16Be _)
  rw [hword]
  exact toNat_ofInt_u16 h0 h1

/-- A command that is a decoded code gets that code back, or the last code if it lies above it. -/
theorem RobstrideMotor.operationCode_of_decodeCode (m : RobstrideMotor K t) {w : ControlWord}
    {code : ℕ} (hcmd : m.command w = (motorConstants mPi t).decodeCode w code) :
    m.operationCode mPi w = min (code : ℤ) w.levels := by
  generalize hc : motorConstants mPi t = c at hcmd
  have htop : (c.fieldGrid w).lo + (c.fieldGrid w).span = c.scale w := by
    show c.lowest w + (c.scale w - c.lowest w) = _
    ring
  have hclamp : c.clampCommand w (c.decodeCode w code) =
      (c.fieldGrid w).decode (max 0 (min (code : ℤ) w.levels)) := by
    rw [c.decodeCode_eq, MotorConstants.clampCommand, ← htop]
    exact (c.fieldGrid w).clamp_decode code
  rw [m.operationCode_eq, hc, hcmd, hclamp, Grid.encodeFloor_decode]
  omega

omit [IsStrictOrderedRing K] in
theorem MotorConstants.decodeCode_middle (c : MotorConstants K) {w : ControlWord}
    (hw : w.isGain = false) : c.decodeCode w 0x7FFF = 0 := by
  have h : ((0x7FFF : ℕ) : K) ≠ 0 := by norm_num
  rw [MotorConstants.decodeCode, hw, if_neg Bool.false_ne_true, div_self h, sub_self, zero_mul]

/-- **The operation frame codec.** Whatever the motor's commands are: the five codes fit their words;
a word decodes to a value at most the clamped command and less than a step below it; codes are
monotone in their commands; zero is the middle code of a signed field and decodes to exactly zero; a
decoded signed code encodes to itself up to 65534; and the id gives back the type, the torque word
and the motor. -/
theorem operation_frame_codec (m : RobstrideMotor K t) (hid : m.canId.toUInt32 < 256) :
    (∀ w, 0 ≤ m.operationCode mPi w ∧ m.operationCode mPi w < 2 ^ 16 ∧
      (frameWord (m.writeUpdatedOperationFrame mPi) w : ℤ) = m.operationCode mPi w) ∧
    (∀ w,
      (motorConstants mPi t).decodeCode w (frameWord (m.writeUpdatedOperationFrame mPi) w) ≤
        (motorConstants mPi t).clampCommand w (m.command w) ∧
      (motorConstants mPi t).clampCommand w (m.command w) <
        (motorConstants mPi t).decodeCode w (frameWord (m.writeUpdatedOperationFrame mPi) w) +
          (motorConstants mPi t).codeStep w) ∧
    (∀ w (m' : RobstrideMotor K t), m'.canId = m.canId → m.command w ≤ m'.command w →
      frameWord (m.writeUpdatedOperationFrame mPi) w ≤
        frameWord (m'.writeUpdatedOperationFrame mPi) w) ∧
    (∀ w, w.isGain = false →
      (m.command w = 0 → frameWord (m.writeUpdatedOperationFrame mPi) w = 0x7FFF) ∧
      (motorConstants mPi t).decodeCode w 0x7FFF = 0) ∧
    (∀ w, w.isGain = false → ∀ code ≤ 65534,
      m.command w = (motorConstants mPi t).decodeCode w code →
      frameWord (m.writeUpdatedOperationFrame mPi) w = code) ∧
    isExtended (m.writeUpdatedOperationFrame mPi) = true ∧
    commType (m.writeUpdatedOperationFrame mPi) = 1 ∧
    targetId (m.writeUpdatedOperationFrame mPi) = m.canId.toUInt32 := by
  have hlevels : ∀ {w : ControlWord}, w.isGain = false → w.levels = 65534 := by
    intro w hw
    rw [ControlWord.levels, hw, if_neg Bool.false_ne_true]
  refine ⟨?_, ?_, ?_, ?_, ?_, ?_⟩
  · intro w
    obtain ⟨h0, h1⟩ := m.operationCode_mem mPi w
    exact ⟨h0, h1, m.frameWord_write mPi hid w⟩
  · intro w
    have hword := m.frameWord_write mPi hid w
    have hdec : (motorConstants mPi t).decodeCode w
        (frameWord (m.writeUpdatedOperationFrame mPi) w) =
          ((motorConstants mPi t).fieldGrid w).decode (m.operationCode mPi w) := by
      rw [MotorConstants.decodeCode_eq, hword]
    rw [hdec, m.operationCode_eq, MotorConstants.codeStep_eq]
    exact ⟨Grid.decode_encodeFloor_le _ _, Grid.lt_decode_encodeFloor_add _ _⟩
  · intro w m' hcan hle
    have h := m.frameWord_write mPi hid w
    have h' := m'.frameWord_write mPi (by rwa [hcan]) w
    have hclamp : (motorConstants mPi t).clampCommand w (m.command w) ≤
        (motorConstants mPi t).clampCommand w (m'.command w) :=
      max_le_max le_rfl (min_le_min hle le_rfl)
    have hmono := ((motorConstants mPi t).fieldGrid w).encodeFloor_mono hclamp
    rw [← m.operationCode_eq, ← m'.operationCode_eq] at hmono
    omega
  · intro w hw
    have hmid := (motorConstants mPi t).decodeCode_middle hw
    refine ⟨fun hzero => ?_, hmid⟩
    have hword := m.frameWord_write mPi hid w
    rw [m.operationCode_of_decodeCode mPi (hzero.trans hmid.symm), hlevels hw] at hword
    omega
  · intro w hw code hcode hcmd
    have hword := m.frameWord_write mPi hid w
    rw [m.operationCode_of_decodeCode mPi hcmd, hlevels hw] at hword
    omega
  · obtain ⟨heff, htype, htarget, -⟩ :=
      operationFrame_read (fun w => UInt16.ofInt (m.operationCode mPi w))
        (UInt32.lt_iff_toNat_lt.mp hid)
    exact ⟨heff, htype, htarget⟩

/-- A calibrated motor that was told 1 rad at minus 2 rad/s and more torque than it has. -/
def commandedMotor : RobstrideMotor ℚ .RS02 := ⟨0, 7, 0, ⟨1, -2, 30, 1, 20⟩, ⟨0, 0, 0, 0⟩, 1 / 4, true⟩

/-- Its frame: three quarters of a radian on the motor's own scale, the velocity, and all the torque
there is, each less than a step below. -/
theorem operation_frame_codec_commanded :
    (∀ w x, (w, x) ∈ [(ControlWord.pos, (3 / 4 : ℚ)), (.vel, -2), (.Kp, 30), (.Kd, 1), (.ffTorque, 17)] →
      (motorConstants MPi.double .RS02).decodeCode w
          (frameWord (commandedMotor.writeUpdatedOperationFrame MPi.double) w) ≤ x ∧
        x < (motorConstants MPi.double .RS02).decodeCode w
            (frameWord (commandedMotor.writeUpdatedOperationFrame MPi.double) w) +
          (motorConstants MPi.double .RS02).codeStep w) ∧
    targetId (commandedMotor.writeUpdatedOperationFrame MPi.double) = 7 := by
  obtain ⟨-, hdecode, -, -, -, -, -, htarget⟩ :=
    operation_frame_codec MPi.double commandedMotor (by decide)
  refine ⟨fun w x hw => ?_, htarget⟩
  have hclamp : (motorConstants MPi.double .RS02).clampCommand w (commandedMotor.command w) = x := by
    simp only [List.mem_cons, List.not_mem_nil, or_false, Prod.mk.injEq] at hw
    rcases hw with ⟨rfl, rfl⟩ | ⟨rfl, rfl⟩ | ⟨rfl, rfl⟩ | ⟨rfl, rfl⟩ | ⟨rfl, rfl⟩ <;>
      decide +kernel
  exact hclamp ▸ hdecode w

end Grids

end SparqControl.SparqCan
