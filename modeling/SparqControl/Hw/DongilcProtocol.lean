/-
# SparqControl.Hw.DongilcProtocol — the host side of the SPG actuator protocol.

The frames of `SPGActuatorProtocol`: the one-byte commands, the MIT control payload with its five
fields packed at 16, 12, 12, 8 and 8 bits across nibble boundaries, the set-zero payload, and the
decoders of everything the actuator sends back. Arithmetic is exact in an ordered field `K`;
`float_to_uint` keeps its three ways of failing (out of range, zero span, NaN).
-/
import SparqControl.Hal.ActuatorDriver
import SparqControl.Lib.Packed

namespace SparqControl.Hw

open SparqControl.Hal
open SparqControl.Lib.Packed (Layout)
open SparqControl.Lib.Quantize

/-! ## Opcodes and utilities -/

def cmdMitControl : UInt8 := 0xC0
def cmdMitEnter : UInt8 := 0xC1
def cmdMitExit : UInt8 := 0xC2
def cmdMitSetZero : UInt8 := 0xC3
def cmdReadMitParams : UInt8 := 0xC4
def cmdReadEncoderData : UInt8 := 0x90
def cmdWriteCurrentPosAsZero : UInt8 := 0x19
def cmdWriteEncoderOffset : UInt8 := 0x91
def cmdClearErrorFlag : UInt8 := 0x9B

/-- `ENC_MOD`. -/
def encMod : ℕ := 16384

/-- `ENC_HALF`. -/
def encHalf : ℕ := encMod / 2

/-- `wrap_u14`. -/
def wrapU14 (x : ℕ) : ℕ := x % encMod

section Numeric

variable {K : Type} [Field K] [LinearOrder K]

/-- `math.radians`. -/
def radians (x : K) : K := x * (mathPi / 180.0)

/-- `signed_u14_count_to_rad`. -/
def signedU14CountToRad (cnt : ℕ) : K :=
  let value : ℤ := wrapU14 cnt
  (if value ≥ encHalf then value - encMod else value) * (2.0 * mathPi / encMod)

/-- `require_range`. NaN is neither below nor above, so it passes. -/
def requireRange (x : PyFloat K) (lo hi : K) (field : String) : Except PyError Unit :=
  if x.ltFin lo || x.gtFin hi then .error (.valueError (field ++ " out of range")) else .ok ()

/-- What a range check lets through: the finite values of the range, and NaN. -/
theorem requireRange_eq_ok_iff {x : PyFloat K} {lo hi : K} {field : String} {r : Unit} :
    requireRange x lo hi field = .ok r ↔ x = .nan ∨ ∃ y, x = .fin y ∧ lo ≤ y ∧ y ≤ hi := by
  unfold requireRange
  cases x with
  | fin y => simp [PyFloat.ltFin, PyFloat.gtFin]
  | inf negative => cases negative <;> simp [PyFloat.ltFin, PyFloat.gtFin]
  | nan => simp [PyFloat.ltFin, PyFloat.gtFin]

variable [FloorRing K]

/-- `float_to_uint`. -/
def floatToUint (x : PyFloat K) (xMin xMax : K) (bits : ℕ) : Except PyError ℤ := do
  requireRange x xMin xMax "MIT field"
  let span := xMax - xMin
  let maxInt : ℕ := (1 <<< bits) - 1
  let scaled ← ((x.subFin xMin).mulFin maxInt).divFin span
  scaled.roundHalfAwayFromZero

/-- A value `float_to_uint` takes passes the check of the same range under any field name. -/
theorem requireRange_of_floatToUint {x : PyFloat K} {lo hi : K} {bits : ℕ} {u : ℤ}
    (hu : floatToUint x lo hi bits = .ok u) (field : String) :
    requireRange x lo hi field = .ok () := by
  obtain ⟨r, hr, -⟩ := bind_eq_ok_iff.mp hu
  rw [requireRange_eq_ok_iff] at hr ⊢
  exact hr

end Numeric

/-! ## The protocol object -/

/-- `SPGMITConfig` of the host, with its default ranges. -/
structure SPGMITConfig (K : Type) [Field K] where
  pMax : K := 12.5
  vMax : K := 45.0
  kpMax : K := 500.0
  kdMax : K := 5.0
  tauMax : K := 33.0
  feedbackPositionMax : K := 12.56

/-- `SPGActuatorProtocol`. The constructor refuses a gear ratio that is not positive. -/
structure SPGActuatorProtocol (K : Type) [Field K] [LinearOrder K] where
  commandId : ℤ
  feedbackId : ℤ
  mitConfig : SPGMITConfig K
  gearRatio : K
  feedbackSpeedIsMotorSide : Bool
  exposeSingleTurnPosition : Bool
  iqCountToAmp : Option K
  torqueConstantNmPerA : Option K
  gearEfficiency : K
  gearRatio_pos : 0 < gearRatio

/-- The mode labels the decoder attaches to acknowledgements. -/
inductive AckMode where
  | mitEnterAck
  | mitExitAck
  | mitSetZeroAck
  | clearErrorAck
  | writeCurrentPosAsZeroAck
  | writeEncoderOffsetAck
  | mitParams
  deriving DecidableEq, Repr

namespace SPGActuatorProtocol

/-! ## Encoders -/

/-- A command that is only its opcode: `bytes([opcode, 0, 0, 0, 0, 0, 0, 0])`. -/
def opcodePayload (opcode : UInt8) : List UInt8 := [opcode, 0, 0, 0, 0, 0, 0, 0]

section Encode

variable {K : Type} [Field K] [LinearOrder K]

/-- `encode_enable_frame`. -/
def encodeEnableFrame (p : SPGActuatorProtocol K) : CANFrame :=
  ⟨p.commandId, opcodePayload cmdMitEnter⟩

/-- `encode_disable_frame`. -/
def encodeDisableFrame (p : SPGActuatorProtocol K) : CANFrame :=
  ⟨p.commandId, opcodePayload cmdMitExit⟩

theorem encodeEnableFrame_eq (p : SPGActuatorProtocol K) :
    p.encodeEnableFrame = ⟨p.commandId, [0xC1, 0, 0, 0, 0, 0, 0, 0]⟩ := rfl

theorem encodeDisableFrame_eq (p : SPGActuatorProtocol K) :
    p.encodeDisableFrame = ⟨p.commandId, [0xC2, 0, 0, 0, 0, 0, 0, 0]⟩ := rfl

/-- `encode_clear_fault_frame`. -/
def encodeClearFaultFrame (p : SPGActuatorProtocol K) : CANFrame :=
  ⟨p.commandId, opcodePayload cmdClearErrorFlag⟩

/-- The eight bytes of an MIT control command from its five codes. `x & 0xFF` of an unbounded
integer is `UInt8.ofInt x`. -/
def mitControlBytes (pU vU kpU kdU tU : ℤ) : List UInt8 :=
  [cmdMitControl,
    UInt8.ofInt (pU >>> (8 : ℕ)),
    UInt8.ofInt pU,
    UInt8.ofInt (vU >>> (4 : ℕ)),
    ((UInt8.ofInt vU &&& 0x0F) <<< 4) ||| (UInt8.ofInt (kpU >>> (8 : ℕ)) &&& 0x0F),
    UInt8.ofInt kpU,
    UInt8.ofInt kdU,
    UInt8.ofInt tU]

variable [FloorRing K]

/-- `_pack_mit_payload`. Every field is checked under its own name before any of them is encoded. -/
def packMitPayload (cfg : SPGMITConfig K) (positionRad velocityRadS kp kd torqueFfNm : PyFloat K) :
    Except PyError (List UInt8) := do
  requireRange positionRad (-cfg.pMax) cfg.pMax "position_rad"
  requireRange velocityRadS (-cfg.vMax) cfg.vMax "velocity_rad_s"
  requireRange kp 0 cfg.kpMax "kp"
  requireRange kd 0 cfg.kdMax "kd"
  requireRange torqueFfNm (-cfg.tauMax) cfg.tauMax "torque_ff_nm"
  let pU ← floatToUint positionRad (-cfg.pMax) cfg.pMax 16
  let vU ← floatToUint velocityRadS (-cfg.vMax) cfg.vMax 12
  let kpU ← floatToUint kp 0 cfg.kpMax 12
  let kdU ← floatToUint kd 0 cfg.kdMax 8
  let tU ← floatToUint torqueFfNm (-cfg.tauMax) cfg.tauMax 8
  return mitControlBytes pU vU kpU kdU tU

/-- What `packMitPayload` accepts and returns, field by field. -/
theorem packMitPayload_eq_ok_iff {cfg : SPGMITConfig K} {p v kp kd t : PyFloat K}
    {payload : List UInt8} :
    packMitPayload cfg p v kp kd t = .ok payload ↔
      ∃ pU vU kpU kdU tU,
        floatToUint p (-cfg.pMax) cfg.pMax 16 = .ok pU ∧
        floatToUint v (-cfg.vMax) cfg.vMax 12 = .ok vU ∧
        floatToUint kp 0 cfg.kpMax 12 = .ok kpU ∧
        floatToUint kd 0 cfg.kdMax 8 = .ok kdU ∧
        floatToUint t (-cfg.tauMax) cfg.tauMax 8 = .ok tU ∧
        payload = mitControlBytes pU vU kpU kdU tU := by
  constructor
  · intro h
    unfold packMitPayload at h
    simp only [bind_eq_ok_iff] at h
    obtain ⟨-, -, -, -, -, -, -, -, -, -, pU, hp, vU, hv, kpU, hkp, kdU, hkd, tU, ht, hout⟩ := h
    exact ⟨pU, vU, kpU, kdU, tU, hp, hv, hkp, hkd, ht, (Except.ok.inj hout).symm⟩
  · rintro ⟨pU, vU, kpU, kdU, tU, hp, hv, hkp, hkd, ht, rfl⟩
    unfold packMitPayload
    simp only [bind_eq_ok_iff]
    exact ⟨(), requireRange_of_floatToUint hp _, (), requireRange_of_floatToUint hv _,
      (), requireRange_of_floatToUint hkp _, (), requireRange_of_floatToUint hkd _,
      (), requireRange_of_floatToUint ht _, pU, hp, vU, hv, kpU, hkp, kdU, hkd, tU, ht, rfl⟩

/-- `encode_impedance_command_frame`. -/
def encodeImpedanceCommandFrame (p : SPGActuatorProtocol K)
    (positionRad velocityRadS kp kd torqueFfNm : PyFloat K) : Except PyError CANFrame :=
  (packMitPayload p.mitConfig positionRad velocityRadS kp kd torqueFfNm).map
    fun payload => ⟨p.commandId, payload⟩

/-- `_pack_mit_set_zero_payload`: 0.01 degree per count, little-endian in bytes 6 and 7. -/
def packMitSetZeroPayload (offsetDeg : K) : Except PyError (List UInt8) := do
  let offsetRaw ← (PyFloat.fin (offsetDeg * 100.0)).roundHalfAwayFromZero
  if -32768 ≤ offsetRaw ∧ offsetRaw ≤ 32767 then
    return [cmdMitSetZero, 0, 0, 0, 0, 0] ++ Layout.int16.toBytes (Int16.ofInt offsetRaw)
  else throw (.valueError "offset_deg is out of int16 range for 0.01 deg/LSB encoding")

/-- `encode_zero_position_frame`, which is `encode_mit_set_zero_frame`. -/
def encodeZeroPositionFrame (p : SPGActuatorProtocol K) (offsetDeg : K) :
    Except PyError CANFrame :=
  (packMitSetZeroPayload offsetDeg).map fun payload => ⟨p.commandId, payload⟩

end Encode

/-! ## Decoders -/

/-- `struct.unpack("<h", payload8[at:at + 2])`. -/
def readI16 (payload8 : List UInt8) (pos : ℕ) : ℤ := (Layout.int16.ofBytes (payload8.drop pos)).toInt

/-- `struct.unpack("<H", payload8[at:at + 2])`. -/
def readU16 (payload8 : List UInt8) (pos : ℕ) : ℕ := (Layout.uint16.ofBytes (payload8.drop pos)).toNat

/-- `struct.unpack("b", payload8[1:2])`. -/
def readTempC (payload8 : List UInt8) : ℤ := (payload8.getD 1 0).toInt8.toInt

/-- `_ack_enabled_hint`. -/
def ackEnabledHint (cmd : UInt8) : Option Bool :=
  if cmd = cmdMitEnter then some true
  else if cmd = cmdMitExit ∨ cmd = cmdClearErrorFlag then some false
  else none

/-- `_ack_mode`. -/
def ackMode (cmd : UInt8) : Option AckMode :=
  if cmd = cmdMitEnter then some .mitEnterAck
  else if cmd = cmdMitExit then some .mitExitAck
  else if cmd = cmdMitSetZero then some .mitSetZeroAck
  else if cmd = cmdClearErrorFlag then some .clearErrorAck
  else if cmd = cmdWriteCurrentPosAsZero then some .writeCurrentPosAsZeroAck
  else if cmd = cmdWriteEncoderOffset then some .writeEncoderOffsetAck
  else none

section Decode

variable {K : Type} [Field K] [LinearOrder K]

/-- `_decode_mit_status`. -/
def decodeMitStatus (p : SPGActuatorProtocol K) (payload8 : List UInt8) (now : K) :
    ActuatorState K AckMode :=
  let speed : K := radians (readI16 payload8 4 : K)
  let positionOutputRad : K := readI16 payload8 6 / 32767.0 * p.mitConfig.feedbackPositionMax
  let currentA := p.iqCountToAmp.map fun scale => (readI16 payload8 2 : K) * scale
  { positionRad := if p.exposeSingleTurnPosition then some positionOutputRad else none
    velocityRadS := some (if p.feedbackSpeedIsMotorSide then speed / p.gearRatio else speed)
    torqueNm := do
      let c ← currentA
      let kt ← p.torqueConstantNmPerA
      return c * kt * p.gearRatio * p.gearEfficiency
    currentA := currentA
    temperatureC := some (readTempC payload8 : K)
    lastFeedbackT := now }

/-- `_decode_encoder_data`. -/
def decodeEncoderData (p : SPGActuatorProtocol K) (payload8 : List UInt8) (now : K) :
    ActuatorState K AckMode :=
  { positionRad :=
      if p.exposeSingleTurnPosition then
        some (signedU14CountToRad (wrapU14 (readU16 payload8 2)) / p.gearRatio)
      else none
    temperatureC := some (readTempC payload8 : K)
    lastFeedbackT := now }

/-- `_decode_ack_like_frame`. -/
def decodeAckLikeFrame (payload8 : List UInt8) (now : K) : ActuatorState K AckMode :=
  let cmd := payload8.getD 0 0
  { isEnabled := ackEnabledHint cmd
    mode := ackMode cmd
    faultCode := if cmd = cmdClearErrorFlag then some ((payload8.getD 1 0).toNat : ℤ) else none
    lastFeedbackT := now }

/-- The opcodes `decode_frame` treats as acknowledgements. -/
def isAckLike (cmd : UInt8) : Bool :=
  cmd == cmdMitEnter || cmd == cmdMitExit || cmd == cmdWriteCurrentPosAsZero ||
    cmd == cmdWriteEncoderOffset || cmd == cmdMitSetZero || cmd == cmdClearErrorFlag

/-- `decode_frame`. -/
def decodeFrame (p : SPGActuatorProtocol K) (frame : CANFrame) (now : K) :
    Except PyError (Option (ActuatorState K AckMode)) :=
  if frame.canId ≠ p.feedbackId then .ok none
  else if frame.data.length ≠ 8 then
    .error (.valueError "SPG feedback payload must be 8 bytes")
  else
    let cmd := frame.data.getD 0 0
    if cmd = cmdMitControl then .ok (some (p.decodeMitStatus frame.data now))
    else if cmd = cmdReadEncoderData then .ok (some (p.decodeEncoderData frame.data now))
    else if cmd = cmdReadMitParams then
      .ok (some { mode := some .mitParams, lastFeedbackT := now })
    else if isAckLike cmd then .ok (some (decodeAckLikeFrame frame.data now))
    else .ok none

end Decode

end SPGActuatorProtocol

end SparqControl.Hw
