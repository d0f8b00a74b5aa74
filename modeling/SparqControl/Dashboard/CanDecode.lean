/-
# SparqControl.Dashboard.CanDecode — from a record on the socket to the values of a frame.

The dashboard's raw socket yields kernel records. `parse_can_frame` cuts one into id, length, data and
flags; the decoders read an IMU or SPG payload of eight bytes. A scale of zero makes a decoder raise
`ZeroDivisionError`, which no caller catches, while the `ValueError` of a wrong length is caught and
logged. `math.sqrt` is a parameter, `sqrt`.

The decoders do not know WHO sent a frame: an MIT control command of the host and an SPG status share
id, opcode and length.
-/
import SparqControl.Dashboard.CommandService

namespace SparqControl.Dashboard

open SparqControl.Hal
open SparqControl.Hw (cmdMitControl cmdMitEnter cmdMitExit cmdMitSetZero cmdClearErrorFlag)
open SparqControl.Hw.SPGActuatorProtocol (readI16 readTempC)

/-! ## Records -/

def canEffFlag : UInt32 := 0x80000000
def canRtrFlag : UInt32 := 0x40000000
def canErrFlag : UInt32 := 0x20000000
def canEffMask : UInt32 := 0x1FFFFFFF

/-- `ParsedFrame`. The data are cut to the length, so the two agree. -/
structure ParsedFrame where
  canId : ℤ
  dlc : ℕ
  data : List UInt8
  isEff : Bool := false
  isRtr : Bool := false
  isErr : Bool := false
  length_data : data.length = dlc

/-- The identifier `parse_can_frame` keeps of the id word. -/
def maskedId (word : UInt32) : UInt32 :=
  word &&& (if word &&& canEffFlag ≠ 0 then canEffMask else 0x7FF)

/-- `parse_can_frame`. -/
def parseCanFrame (r : LinuxCanFrame) : Except PyError ParsedFrame :=
  if h : r.canDlc.toNat > 8 then .error (.valueError "Invalid classical CAN DLC")
  else .ok {
    canId := (maskedId r.canId).toNat
    dlc := r.canDlc.toNat
    data := r.data.toList.take r.canDlc.toNat
    isEff := r.canId &&& canEffFlag ≠ 0
    isRtr := r.canId &&& canRtrFlag ≠ 0
    isErr := r.canId &&& canErrFlag ≠ 0
    length_data := by
      rw [List.length_take, Vector.length_toList]
      omega }

/-- A masked standard id is kept as it is. -/
theorem maskedId_sff (x : UInt32) : maskedId (x &&& 0x7FF) = x &&& 0x7FF := by
  have hflag : (x &&& 0x7FF) &&& canEffFlag = 0 := by
    rw [UInt32.and_assoc]
    exact UInt32.and_zero
  unfold maskedId
  rw [if_neg (not_not.mpr hflag), UInt32.and_assoc]
  rfl

/-! ## Bus load -/

section BusLoad

variable {K : Type} [Field K] [LinearOrder K] [FloorRing K]

/-- `estimate_classical_can_bits` with the intermission, as every caller wants it. -/
def estimateClassicalCanBits (dlc : ℕ) (isEff isRtr : Bool) (stuffFactor : K) : ℤ :=
  let dlc := min dlc 8
  let dataBits := if isRtr then 0 else 8 * dlc
  let baseBits := (if isEff then 67 else 47) + dataBits
  max 0 ⌈(baseBits : K) * stuffFactor⌉

/-- The direction of a recorded frame. -/
inductive Direction where
  | rx
  | tx
  deriving DecidableEq, Repr

/-- `BusLoadWindow`, less the figures `snapshot` derives from it. -/
structure BusLoadWindow (K : Type) where
  windowS : K
  bitrate : K
  events : List (K × ℤ × Direction) := []

/-- `BusLoadWindow.prune`. -/
def BusLoadWindow.prune (w : BusLoadWindow K) (now : K) : BusLoadWindow K :=
  { w with events := w.events.dropWhile fun e => e.1 < now - w.windowS }

/-- `BusLoadWindow.add`. -/
def BusLoadWindow.add (w : BusLoadWindow K) (timestamp : K) (bits : ℤ) (direction : Direction) :
    BusLoadWindow K :=
  BusLoadWindow.prune { w with events := w.events ++ [(timestamp, max 0 bits, direction)] } timestamp

end BusLoad

/-! ## Payloads -/

section Decoders

variable {K : Type} [Field K] [LinearOrder K]

/-- `x / y` on floats, which raises for a zero divisor. -/
def pyDiv (x y : K) : Except PyError K :=
  if y = 0 then .error .zeroDivisionError else .ok (x / y)

theorem pyDiv_of_ne_zero {x y : K} (hy : y ≠ 0) : pyDiv x y = .ok (x / y) := if_neg hy

theorem pyDiv_zero (x : K) : pyDiv x 0 = .error .zeroDivisionError := if_pos rfl

/-- `normalize_quat_xyzw`. -/
def normalizeQuatXyzw (sqrt : K → K) (q : K × K × K × K) : K × K × K × K :=
  let (qx, qy, qz, qw) := q
  let n := sqrt (qx * qx + qy * qy + qz * qz + qw * qw)
  if n < 1e-12 then (0, 0, 0, 1) else (qx / n, qy / n, qz / n, qw / n)

/-- `projected_gravity_from_xyzw`. -/
def projectedGravityFromXyzw (q : K × K × K × K) : K × K × K :=
  let (qx, qy, qz, qw) := q
  let (vx, vy, vz) : K × K × K := (0, 0, -1)
  let tx := 2.0 * (qy * vz - qz * vy)
  let ty := 2.0 * (qz * vx - qx * vz)
  let tz := 2.0 * (qx * vy - qy * vx)
  let vpx := vx - qw * tx + (qy * tz - qz * ty)
  let vpy := vy - qw * ty + (qz * tx - qx * tz)
  let vpz := vz - qw * tz + (qx * ty - qy * tx)
  (vpy, vpx, vpz)

/-- `decode_e2box_quat`: the quaternion, scalar last, and the gravity it projects to. -/
def decodeE2boxQuat (sqrt : K → K) (data : List UInt8) (quatScale : K) (normalize : Bool) :
    Except PyError ((K × K × K × K) × (K × K × K)) := do
  if data.length ≠ 8 then
    throw (.valueError "E2Box quaternion frame requires 8 bytes")
  let qz ← pyDiv (readI16 data 0 : K) quatScale
  let qy ← pyDiv (readI16 data 2 : K) quatScale
  let qx ← pyDiv (readI16 data 4 : K) quatScale
  let qw ← pyDiv (readI16 data 6 : K) quatScale
  let raw := (-qx, qy, qz, qw)
  let quat := if normalize then normalizeQuatXyzw sqrt raw else raw
  return (quat, projectedGravityFromXyzw quat)

/-- `decode_e2box_gyro`. -/
def decodeE2boxGyro (data : List UInt8) (gyroScale : K) : Except PyError (K × K × K) := do
  if data.length ≠ 8 then
    throw (.valueError "E2Box gyro frame requires 8 bytes")
  let gx ← pyDiv (readI16 data 0 : K) gyroScale
  let gy ← pyDiv (readI16 data 2 : K) gyroScale
  let gz ← pyDiv (readI16 data 4 : K) gyroScale
  let toRad := fun x : K => x * mathPi / 180.0
  return (toRad gy, toRad gx, toRad gz)

/-- The dictionary `decode_spg_status` returns. -/
structure SpgStatus (K : Type) where
  temperatureC : ℤ
  iqCount : ℤ
  iqAApprox : K
  speedDps : ℤ
  positionRad : K

/-- `decode_spg_status`. -/
def decodeSpgStatus (data : List UInt8)
    (feedbackPositionMaxRad iqFullScaleCount iqFullScaleCurrentA : K) :
    Except PyError (SpgStatus K) := do
  if data.length ≠ 8 then
    throw (.valueError "SPG status frame requires 8 bytes")
  let iqCount := readI16 data 2
  let iq ← pyDiv (iqCount : K) iqFullScaleCount
  return {
    temperatureC := readTempC data
    iqCount := iqCount
    iqAApprox := iq * iqFullScaleCurrentA
    speedDps := readI16 data 4
    -- signed feedback position, not a 14-bit encoder count
    positionRad := (readI16 data 6 : K) / 32767.0 * feedbackPositionMaxRad }

/-! On eight bytes a decoder returns, unless its scale is zero. -/

theorem decodeE2boxQuat_cases (sqrt : K → K) {data : List UInt8} (h : data.length = 8)
    (quatScale : K) (normalize : Bool) :
    (quatScale ≠ 0 ∧ ∃ v, decodeE2boxQuat sqrt data quatScale normalize = .ok v) ∨
      (quatScale = 0 ∧
        decodeE2boxQuat sqrt data quatScale normalize = .error .zeroDivisionError) := by
  unfold decodeE2boxQuat
  rw [if_neg (not_not.mpr h)]
  by_cases hscale : quatScale = 0
  · refine Or.inr ⟨hscale, ?_⟩
    simp only [hscale, pyDiv_zero]
    rfl
  · refine Or.inl ⟨hscale, ?_⟩
    simp only [pyDiv_of_ne_zero hscale]
    exact ⟨_, rfl⟩

theorem decodeE2boxGyro_cases {data : List UInt8} (h : data.length = 8) (gyroScale : K) :
    (gyroScale ≠ 0 ∧ ∃ v, decodeE2boxGyro data gyroScale = .ok v) ∨
      (gyroScale = 0 ∧ decodeE2boxGyro data gyroScale = .error .zeroDivisionError) := by
  unfold decodeE2boxGyro
  rw [if_neg (not_not.mpr h)]
  by_cases hscale : gyroScale = 0
  · refine Or.inr ⟨hscale, ?_⟩
    simp only [hscale, pyDiv_zero]
    rfl
  · refine Or.inl ⟨hscale, ?_⟩
    simp only [pyDiv_of_ne_zero hscale]
    exact ⟨_, rfl⟩

theorem decodeSpgStatus_cases {data : List UInt8} (h : data.length = 8)
    (feedbackPositionMaxRad iqFullScaleCount iqFullScaleCurrentA : K) :
    (iqFullScaleCount ≠ 0 ∧ ∃ d, decodeSpgStatus data feedbackPositionMaxRad iqFullScaleCount
        iqFullScaleCurrentA = .ok d) ∨
      (iqFullScaleCount = 0 ∧ decodeSpgStatus data feedbackPositionMaxRad iqFullScaleCount
        iqFullScaleCurrentA = .error .zeroDivisionError) := by
  unfold decodeSpgStatus
  rw [if_neg (not_not.mpr h)]
  by_cases hscale : iqFullScaleCount = 0
  · refine Or.inr ⟨hscale, ?_⟩
    simp only [hscale, pyDiv_zero]
    rfl
  · refine Or.inl ⟨hscale, ?_⟩
    simp only [pyDiv_of_ne_zero hscale]
    exact ⟨_, rfl⟩

end Decoders

/-- `spg_opcode_name`. -/
def spgOpcodeName (opcode : UInt8) : String :=
  if opcode = cmdMitControl then "MIT_STATUS"
  else if opcode = cmdMitEnter then "MIT_ENTER_ACK"
  else if opcode = cmdMitExit then "MIT_EXIT_ACK"
  else if opcode = cmdMitSetZero then "MIT_SET_ZERO_ACK"
  else if opcode = cmdClearErrorFlag then "CLEAR_ERROR_ACK"
  else "OP_" ++ formatHex 2 opcode.toNat

end SparqControl.Dashboard
