/-
# SparqControl.Sim.SpgFirmware — the simulated SPG actuator firmware and the bridge's torque law.

`SPGFirmware` is the state machine behind one CAN id: MIT control, enter, exit, set-zero and
clear-error frames change it, `make_feedback_frames` drains its acknowledgements and answers a
control frame with one status frame. The bridge takes the command a frame produced, latches it, and
computes the joint torque from it (`computeLogicalTorqueCommand`).

The firmware has a `fault_` flag that every handler reads and none ever sets; `Reachable` and
`Reachable.fault_eq_false` record that.
-/
import SparqControl.Hal.CanFrame
import SparqControl.Lib.Packed

namespace SparqControl.Sim

open SparqControl.Hal
open SparqControl.Lib.Packed (Layout)
open SparqControl.Lib.Quantize

/-- `SPGMITConfig` of the firmware, with the default member values of the source. -/
structure SPGMITConfig (K : Type) [Field K] where
  pMaxRad : K := 12.5
  vMaxRadS : K := 45.0
  kpMax : K := 500.0
  kdMax : K := 5.0
  tauMaxNm : K := 33.0
  feedbackPositionMaxRad : K := 12.56
  iqFullScaleCount : K := 2048.0
  setZeroHoldS : K := 0.02

/-- `ActuatorControlMode`. -/
inductive ActuatorControlMode where
  | disabled
  | zeroTorque
  | torque
  | damping
  | impedance
  deriving DecidableEq, Repr

/-- `ActuatorCommand`, with the default member values of the source. -/
structure ActuatorCommand (K : Type) [Field K] where
  mode : ActuatorControlMode := .disabled
  positionRad : K := 0
  velocityRadS : K := 0
  torqueNm : K := 0
  kp : K := 0
  kd : K := 0
  lastUpdateTime : K := -1
  valid : Bool := false
  enabled : Bool := false

/-- The members of `ActuatorFeedbackSample` the SPG firmware reads. -/
structure ActuatorFeedbackSample (K : Type) where
  positionRad : K
  velocityRadS : K
  torqueNm : K
  temperatureC : K

/-- `DecodedMITCommand`. -/
structure DecodedMITCommand (K : Type) where
  pDesRad : K
  vDesRadS : K
  kp : K
  kd : K
  tauFfNm : K

/-! ## Byte helpers of the firmware base class -/

/-- `has_dlc_at_least`. -/
def hasDlcAtLeast (frame : CanFrame) (requiredDlc : UInt8) : Bool :=
  requiredDlc ≤ frame.dlc && frame.dlc ≤ 8

/-- `read_i16_le`. -/
def readI16Le (frame : CanFrame) (offset : ℕ) : Int16 :=
  Layout.int16.ofBytes (frame.data.toList.drop offset)

/-- `frame.data[0]`. -/
def opcode (frame : CanFrame) : UInt8 := frame.data[0]

/-- `make_empty_frame` filled with the given payload. -/
def makeFrame (canId : UInt32) (data : Vector UInt8 8) : CanFrame := ⟨canId, 8, data⟩

section Numeric

variable {K : Type} [Field K] [LinearOrder K]

/-- `clamp_value` and `std::clamp`. -/
def clampValue (value lo hi : K) : K := max lo (min value hi)

variable [FloorRing K]

/-- `saturate_to_i16`: `std::round`, then clamp to the range of `int16_t`. -/
def saturateToI16 (value : K) : Int16 :=
  Int16.ofInt (max (-32768) (min (roundHalfAway value) 32767))

end Numeric

/-- `static_cast<int>` of a rounded double. Out of the range of `int` the language leaves the result
open; the conversion instruction of x86-64 answers `INT_MIN` for every such value. -/
def castInt (value : ℤ) : ℤ :=
  if -2147483648 ≤ value ∧ value ≤ 2147483647 then value else -2147483648

/-! ## The firmware -/

/-- `SPGFirmware`. -/
structure SPGFirmware (K : Type) [Field K] where
  canId : UInt32
  config : SPGMITConfig K
  enabled : Bool := false
  fault : Bool := false
  faultCode : ℤ := 0
  hasPendingCommand : Bool := false
  pendingCommand : ActuatorCommand K := {}
  pendingTxFrames : List CanFrame := []
  mitStatusResponsePending : Bool := false
  mitZeroReferenceRad : K := 0
  zeroCapturePending : Bool := false
  requestedZeroOffsetRad : K := 0
  ignoreControlUntilTime : K := -1

namespace SPGFirmware

section Decode

variable {K : Type} [Field K]

/-- `uint_to_float`. -/
def uintToFloat (x : ℕ) (xMin xMax : K) (bits : ℕ) : K :=
  let maxInt : ℕ := (1 <<< bits) - 1
  let span := xMax - xMin
  x * span / maxInt + xMin

/-- The five unsigned codes of an MIT control frame, as the firmware cuts them out of the bytes. -/
def mitCodes (data : Vector UInt8 8) : UInt16 × UInt16 × UInt16 × UInt8 × UInt8 :=
  ((data[1].toUInt16 <<< 8) ||| data[2].toUInt16,
    (data[3].toUInt16 <<< 4) ||| ((data[4] >>> 4) &&& 0x0F).toUInt16,
    ((data[4] &&& 0x0F).toUInt16 <<< 8) ||| data[5].toUInt16,
    data[6],
    data[7])

/-- `decode_mit_control_frame`. -/
def decodeMitControlFrame (config : SPGMITConfig K) (frame : CanFrame) : DecodedMITCommand K :=
  let (pUint, vUint, kpUint, kdUint, tauUint) := mitCodes frame.data
  { pDesRad := uintToFloat pUint.toNat (-config.pMaxRad) config.pMaxRad 16
    vDesRadS := uintToFloat vUint.toNat (-config.vMaxRadS) config.vMaxRadS 12
    kp := uintToFloat kpUint.toNat 0 config.kpMax 12
    kd := uintToFloat kdUint.toNat 0 config.kdMax 8
    tauFfNm := uintToFloat tauUint.toNat (-config.tauMaxNm) config.tauMaxNm 8 }

end Decode

/-! ## Acknowledgements and feedback -/

def kCmdMITControl : UInt8 := 0xC0
def kCmdMITEnter : UInt8 := 0xC1
def kCmdMITExit : UInt8 := 0xC2
def kCmdMITSetZero : UInt8 := 0xC3
def kCmdClearError : UInt8 := 0x9B

section Firmware

variable {K : Type} [Field K]

/-- `make_ack_frame`. -/
def makeAckFrame (fw : SPGFirmware K) (opcode : UInt8) : CanFrame :=
  makeFrame fw.canId #v[opcode, 0, 0, 0, 0, 0, 0, 0]

/-- `make_set_zero_ack_frame`. -/
def makeSetZeroAckFrame (fw : SPGFirmware K) (offsetCount : Int16) : CanFrame :=
  makeFrame fw.canId #v[kCmdMITSetZero, 0, 0, 0, 0, 0, offsetCount.toUInt16.toUInt8,
    (offsetCount.toUInt16 >>> 8).toUInt8]

/-- `make_clear_error_ack_frame`. -/
def makeClearErrorAckFrame (fw : SPGFirmware K) : CanFrame :=
  makeFrame fw.canId #v[kCmdClearError, UInt8.ofInt fw.faultCode, 0, 0, 0, 0, 0, 0]

/-- `push_pending_tx`: at most 32 frames wait; the oldest makes room. -/
def pushPendingTx (fw : SPGFirmware K) (frame : CanFrame) : SPGFirmware K :=
  { fw with
    pendingTxFrames :=
      (if fw.pendingTxFrames.length ≥ 32 then fw.pendingTxFrames.tail else fw.pendingTxFrames) ++
        [frame] }

/-- `position_physical_to_mit_rad`. -/
def positionPhysicalToMitRad (fw : SPGFirmware K) (physical : K) : K :=
  physical - fw.mitZeroReferenceRad

/-- `position_mit_to_physical_rad`. -/
def positionMitToPhysicalRad (fw : SPGFirmware K) (mit : K) : K := mit + fw.mitZeroReferenceRad

/-- `update_zero_reference_if_needed`. -/
def updateZeroReferenceIfNeeded (fw : SPGFirmware K) (sample : ActuatorFeedbackSample K) :
    SPGFirmware K :=
  if fw.zeroCapturePending then
    { fw with
      mitZeroReferenceRad := sample.positionRad - fw.requestedZeroOffsetRad
      zeroCapturePending := false }
  else fw

/-- `reset`. -/
def reset (fw : SPGFirmware K) (simTime : K) : SPGFirmware K :=
  { canId := fw.canId, config := fw.config, ignoreControlUntilTime := simTime }

/-- `consume_pending_command`. -/
def consumePendingCommand (fw : SPGFirmware K) : SPGFirmware K × Option (ActuatorCommand K) :=
  if fw.hasPendingCommand then ({ fw with hasPendingCommand := false }, some fw.pendingCommand)
  else (fw, none)

/-! ## Frame handlers -/

/-- `handle_enter_motor_mode`. -/
def handleEnterMotorMode (fw : SPGFirmware K) (simTime : K) : SPGFirmware K :=
  let fw :=
    { fw with
      enabled := true
      pendingCommand :=
        { mode := .zeroTorque, lastUpdateTime := simTime, valid := true, enabled := true }
      hasPendingCommand := true }
  fw.pushPendingTx (fw.makeAckFrame kCmdMITEnter)

/-- `handle_exit_motor_mode`. -/
def handleExitMotorMode (fw : SPGFirmware K) (simTime : K) : SPGFirmware K :=
  let fw :=
    { fw with
      enabled := false
      pendingCommand :=
        { mode := .disabled, lastUpdateTime := simTime, valid := true, enabled := false }
      hasPendingCommand := true }
  fw.pushPendingTx (fw.makeAckFrame kCmdMITExit)

/-- `handle_clear_error`. -/
def handleClearError (fw : SPGFirmware K) (simTime : K) : SPGFirmware K :=
  let fw :=
    { fw with
      fault := false
      faultCode := 0
      enabled := false
      pendingCommand :=
        { mode := .disabled, lastUpdateTime := simTime, valid := true, enabled := false }
      hasPendingCommand := true }
  fw.pushPendingTx fw.makeClearErrorAckFrame

/-- `handle_set_zero_position`: the reference moves at the next sample, and control frames are
ignored until the hold ends. -/
def handleSetZeroPosition (fw : SPGFirmware K) (frame : CanFrame) (simTime : K) : SPGFirmware K :=
  if hasDlcAtLeast frame 8 then
    let offsetCount := readI16Le frame 6
    let fw :=
      { fw with
        requestedZeroOffsetRad := (offsetCount.toInt : K) * 0.01 * (mathPi / 180.0)
        zeroCapturePending := true
        ignoreControlUntilTime := simTime + fw.config.setZeroHoldS }
    fw.pushPendingTx (fw.makeSetZeroAckFrame offsetCount)
  else fw

variable [LinearOrder K]

/-- The set-zero hold: control frames are dropped while it lasts. -/
def inSetZeroHold (fw : SPGFirmware K) (simTime : K) : Bool :=
  0 ≤ fw.ignoreControlUntilTime && simTime < fw.ignoreControlUntilTime

/-- `handle_mit_control`. -/
def handleMitControl (fw : SPGFirmware K) (frame : CanFrame) (simTime : K) : SPGFirmware K :=
  if !hasDlcAtLeast frame 8 then fw
  else if fw.inSetZeroHold simTime then fw
  else if !fw.enabled || fw.fault then fw
  else
    let decoded := decodeMitControlFrame fw.config frame
    { fw with
      pendingCommand :=
        { mode := .impedance
          positionRad := fw.positionMitToPhysicalRad decoded.pDesRad
          velocityRadS := decoded.vDesRadS
          torqueNm := decoded.tauFfNm
          kp := decoded.kp
          kd := decoded.kd
          lastUpdateTime := simTime
          valid := true
          enabled := true }
      hasPendingCommand := true
      mitStatusResponsePending := true }

/-- `accepts`. -/
def accepts (fw : SPGFirmware K) (frame : CanFrame) : Bool := frame.canId == fw.canId

/-- `on_can_frame`. -/
def onCanFrame (fw : SPGFirmware K) (frame : CanFrame) (simTime : K) : SPGFirmware K :=
  if !fw.accepts frame || !hasDlcAtLeast frame 1 then fw
  else if frame.data[0] = kCmdMITControl then fw.handleMitControl frame simTime
  else if frame.data[0] = kCmdMITEnter then fw.handleEnterMotorMode simTime
  else if frame.data[0] = kCmdMITExit then fw.handleExitMotorMode simTime
  else if frame.data[0] = kCmdMITSetZero then fw.handleSetZeroPosition frame simTime
  else if frame.data[0] = kCmdClearError then fw.handleClearError simTime
  else fw

variable [FloorRing K]

/-- `make_mit_status_frame`. The temperature is converted to `int` before it is clamped; the other
fields are clamped as doubles. -/
def makeMitStatusFrame (fw : SPGFirmware K) (sample : ActuatorFeedbackSample K) : CanFrame :=
  let temperatureI8 : ℤ := max (-128) (min (castInt (roundHalfAway sample.temperatureC)) 127)
  let iqCount := saturateToI16 (sample.torqueNm / fw.config.tauMaxNm * fw.config.iqFullScaleCount)
  let speedDps := saturateToI16 (sample.velocityRadS * (180.0 / mathPi))
  let pClamped := clampValue (fw.positionPhysicalToMitRad sample.positionRad)
    (-fw.config.feedbackPositionMaxRad) fw.config.feedbackPositionMaxRad
  let pI16 := saturateToI16 (pClamped / fw.config.feedbackPositionMaxRad * 32767.0)
  makeFrame fw.canId #v[kCmdMITControl, UInt8.ofInt temperatureI8,
    iqCount.toUInt16.toUInt8, (iqCount.toUInt16 >>> 8).toUInt8,
    speedDps.toUInt16.toUInt8, (speedDps.toUInt16 >>> 8).toUInt8,
    pI16.toUInt16.toUInt8, (pI16.toUInt16 >>> 8).toUInt8]

/-- `make_feedback_frames`: pending acknowledgements in order, then at most one status frame. -/
def makeFeedbackFrames (fw : SPGFirmware K) (sample : ActuatorFeedbackSample K) :
    SPGFirmware K × List CanFrame :=
  let fw := fw.updateZeroReferenceIfNeeded sample
  let status := if fw.mitStatusResponsePending then [fw.makeMitStatusFrame sample] else []
  ({ fw with pendingTxFrames := [], mitStatusResponsePending := false },
    fw.pendingTxFrames ++ status)

end Firmware

/-! ## Reachable firmware states -/

section Reachable

variable {K : Type} [Field K] [LinearOrder K] [FloorRing K]

/-- The states a firmware object can be in: constructed, then any sequence of resets, frames,
command pick-ups and feedback passes. -/
inductive Reachable : SPGFirmware K → Prop
  | construct (canId : UInt32) (config : SPGMITConfig K) :
      Reachable { canId := canId, config := config }
  | reset {fw : SPGFirmware K} (simTime : K) : Reachable fw → Reachable (fw.reset simTime)
  | onCanFrame {fw : SPGFirmware K} (frame : CanFrame) (simTime : K) :
      Reachable fw → Reachable (fw.onCanFrame frame simTime)
  | consumePendingCommand {fw : SPGFirmware K} :
      Reachable fw → Reachable fw.consumePendingCommand.1
  | makeFeedbackFrames {fw : SPGFirmware K} (sample : ActuatorFeedbackSample K) :
      Reachable fw → Reachable (fw.makeFeedbackFrames sample).1

omit [FloorRing K] in
/-- A frame never raises the fault flag, and never brings a fault code with it. -/
theorem onCanFrame_fault (fw : SPGFirmware K) (frame : CanFrame) (simTime : K)
    (hf : fw.fault = false ∧ fw.faultCode = 0) :
    (fw.onCanFrame frame simTime).fault = false ∧
      (fw.onCanFrame frame simTime).faultCode = 0 := by
  unfold onCanFrame handleMitControl handleSetZeroPosition
  split_ifs <;>
    simp [hf, handleEnterMotorMode, handleExitMotorMode, handleClearError, pushPendingTx]

/-- No reachable firmware state has a fault. -/
theorem Reachable.fault_eq_false {fw : SPGFirmware K} (h : Reachable fw) :
    fw.fault = false ∧ fw.faultCode = 0 := by
  induction h with
  | construct canId config => exact ⟨rfl, rfl⟩
  | reset simTime _ ih => exact ⟨rfl, rfl⟩
  | onCanFrame frame simTime _ ih => exact onCanFrame_fault _ frame simTime ih
  | consumePendingCommand _ ih =>
      unfold SPGFirmware.consumePendingCommand
      split <;> exact ih
  | makeFeedbackFrames sample _ ih =>
      simp only [SPGFirmware.makeFeedbackFrames, updateZeroReferenceIfNeeded]
      split <;> exact ih

end Reachable

end SPGFirmware

/-! ## The bridge -/

section Bridge

variable {K : Type} [Field K]

/-- `compute_logical_torque_command`. -/
def computeLogicalTorqueCommand (command : ActuatorCommand K) (qLogical dqLogical : K) : K :=
  if !command.valid || !command.enabled then 0
  else match command.mode with
    | .disabled => 0
    | .zeroTorque => 0
    | .torque => command.torqueNm
    | .damping => command.torqueNm + command.kd * (command.velocityRadS - dqLogical)
    | .impedance =>
        command.kp * (command.positionRad - qLogical) +
          command.kd * (command.velocityRadS - dqLogical) + command.torqueNm

variable [LinearOrder K]

/-- `VirtualActuatorDevice::on_frame`: the firmware handles the frame, and the command it produced,
if any, replaces the latched one. -/
def deviceOnFrame (fw : SPGFirmware K) (latched : ActuatorCommand K) (frame : CanFrame)
    (simTime : K) : SPGFirmware K × ActuatorCommand K :=
  if fw.accepts frame then
    let (fw', command) := (fw.onCanFrame frame simTime).consumePendingCommand
    (fw', command.getD latched)
  else (fw, latched)

end Bridge

end SparqControl.Sim
