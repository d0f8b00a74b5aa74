/-
# SparqControl.Hw.E2boxProtocol — the host side of the E2Box IMU protocol.

A quaternion frame holds four 16-bit words, z first and x with its sign flipped; a gyro frame three,
with x and y exchanged. `decode_frame` undoes both and, if it is told to, normalises the quaternion;
the projected gravity is computed from what is published. Arithmetic is exact; `math.sqrt` is a
parameter, `sqrt`.

`E2BoxIMUProtocol` does not override the two hooks of `IMUProtocolBase`, so the driver cannot tell
which stream a frame belongs to that does not decode.
-/
import SparqControl.Hal.ImuDriver
import SparqControl.Hw.DongilcProtocol

namespace SparqControl.Hw

open SparqControl.Hal
open SparqControl.Hw.SPGActuatorProtocol (readI16)

/-- `E2BoxIMUProtocol`. -/
structure E2BoxIMUProtocol (K : Type) where
  requestId : ℤ
  quatId : ℤ
  gyroId : ℤ
  cmdGetQuat : ℤ
  cmdGetGyro : ℤ
  cmdGetAll : ℤ
  quatScale : K
  gyroScale : K
  normalizeQuat : Bool

section Quaternion

variable {K : Type} [Field K]

/-- `_projected_gravity_from_xyzw`. -/
def projectedGravityFromXyzw (q : K × K × K × K) : K × K × K :=
  let (qx, qy, qz, qw) := q
  let (vx, vy, vz) : K × K × K := (0, 0, -1)
  let tx := 2.0 * (qy * vz - qz * vy)
  let ty := 2.0 * (qz * vx - qx * vz)
  let tz := 2.0 * (qx * vy - qy * vx)
  let vpx := vx - qw * tx + (qy * tz - qz * ty)
  let vpy := vy - qw * ty + (qz * tx - qx * tz)
  let vpz := vz - qw * tz + (qx * ty - qy * tx)
  (vpy, vpx, vpz)

/-- `_normalize_quat`. -/
def normalizeQuat [LinearOrder K] (sqrt : K → K) (q : K × K × K × K) : K × K × K × K :=
  let (qx, qy, qz, qw) := q
  let n := sqrt (qx * qx + qy * qy + qz * qz + qw * qw)
  if n < 1e-12 then (0, 0, 0, 1) else (qx / n, qy / n, qz / n, qw / n)

end Quaternion

namespace E2BoxIMUProtocol

section Requests

variable {K : Type} (p : E2BoxIMUProtocol K)

/-- A request is the command byte alone; `bytes` refuses a command that is not one. -/
def encodeRequest (cmd : ℤ) : Except PyError CANFrame :=
  if 0 ≤ cmd ∧ cmd ≤ 255 then .ok ⟨p.requestId, [UInt8.ofInt cmd]⟩
  else .error (.valueError "bytes must be in range(0, 256)")

/-- `encode_request_all`. -/
def encodeRequestAll : Except PyError CANFrame := p.encodeRequest p.cmdGetAll

end Requests

variable {K : Type} [Field K] [LinearOrder K] (p : E2BoxIMUProtocol K)

/-- The quaternion of an eight-byte payload: four words over the scale, x negated, normalised if the
protocol is told to. -/
def quatOfPayload (sqrt : K → K) (data : List UInt8) : K × K × K × K :=
  let qz := (readI16 data 0 : K) / p.quatScale
  let qy := (readI16 data 2 : K) / p.quatScale
  let qx := (readI16 data 4 : K) / p.quatScale
  let qw := (readI16 data 6 : K) / p.quatScale
  let quatXyzw := (-qx, qy, qz, qw)
  if p.normalizeQuat then Hw.normalizeQuat sqrt quatXyzw else quatXyzw

/-- `_decode_quat`. The first of its divisions raises when the scale is zero. -/
def decodeQuat (sqrt : K → K) (data : List UInt8) (now : K) : Except PyError (RobotPoseState K) :=
  if data.length ≠ 8 then .error (.valueError "Quaternion payload must be 8 bytes")
  else if p.quatScale = 0 then .error .zeroDivisionError
  else
    let quatXyzw := p.quatOfPayload sqrt data
    .ok { quatXyzw := some quatXyzw
          projectedGravityB := some (projectedGravityFromXyzw quatXyzw)
          lastQuatT := now
          lastGyroT := 0 }

/-- The angular velocity of an eight-byte payload, x and y exchanged. -/
def gyroOfPayload (data : List UInt8) : K × K × K :=
  let gx := (readI16 data 0 : K) / p.gyroScale * mathPi / 180.0
  let gy := (readI16 data 2 : K) / p.gyroScale * mathPi / 180.0
  let gz := (readI16 data 4 : K) / p.gyroScale * mathPi / 180.0
  (gy, gx, gz)

/-- `_decode_gyro`. -/
def decodeGyro (data : List UInt8) (now : K) : Except PyError (RobotPoseState K) :=
  if data.length ≠ 8 then .error (.valueError "Gyro payload must be 8 bytes")
  else if p.gyroScale = 0 then .error .zeroDivisionError
  else
    .ok { angularVelocityRadS := some (p.gyroOfPayload data)
          lastQuatT := 0
          lastGyroT := now }

/-- `decode_frame`. -/
def decodeFrame (sqrt : K → K) (frame : CANFrame) (now : K) :
    Except PyError (Option (RobotPoseState K)) :=
  if frame.canId = p.quatId then (p.decodeQuat sqrt frame.data now).map some
  else if frame.canId = p.gyroId then (p.decodeGyro frame.data now).map some
  else .ok none

/-- The protocol object the driver is given. It has the hooks of the base class. -/
def protocol (sqrt : K → K) : IMUProtocolBase K where
  rxCanIds := [p.quatId, p.gyroId]
  decodeFrame := p.decodeFrame sqrt

end E2BoxIMUProtocol

end SparqControl.Hw
