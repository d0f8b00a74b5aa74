/-
# SparqControl.Sim.E2BoxImuFirmware — the simulated IMU firmware.

A stateless responder: a request frame names quaternion, gyro or both, and is answered from the sample
at hand. The payload has the axis swaps and signs the host decoder undoes. `std::sqrt` is the only
function that leaves the field of the sample; it is a parameter, `sqrt`.
-/
import SparqControl.Sim.SpgFirmware

namespace SparqControl.Sim

open SparqControl.Hal

/-- `E2BoxImuFirmwareConfig`, with the default member values of the source. -/
structure E2BoxImuFirmwareConfig (K : Type) [Field K] where
  requestId : UInt32 := 0x221
  quatId : UInt32 := 0x2A1
  gyroId : UInt32 := 0x321
  cmdGetQuat : UInt8 := 0x01
  cmdGetGyro : UInt8 := 0x02
  cmdGetAll : UInt8 := 0x03
  quatScale : K := 10000.0
  gyroScale : K := 100.0
  normalizeQuat : Bool := true

/-- `ImuSample`: a quaternion, scalar last, and an angular velocity. -/
structure ImuSample (K : Type) where
  qx : K
  qy : K
  qz : K
  qw : K
  gx : K
  gy : K
  gz : K

namespace E2BoxImuFirmware

variable {K : Type} [Field K]

/-- `accepts`. -/
def accepts (config : E2BoxImuFirmwareConfig K) (frame : CanFrame) : Bool :=
  frame.canId == config.requestId

variable [LinearOrder K]

/-- `normalize_quat_xyzw`. -/
def normalizeQuatXyzw (sqrt : K → K) (s : ImuSample K) : ImuSample K :=
  let n := sqrt (s.qx * s.qx + s.qy * s.qy + s.qz * s.qz + s.qw * s.qw)
  if n < 1e-12 then { s with qx := 0, qy := 0, qz := 0, qw := 1 }
  else { s with qx := s.qx / n, qy := s.qy / n, qz := s.qz / n, qw := s.qw / n }

/-- Four 16-bit words in a row, each written by `write_i16_le`. -/
def makeWordsFrame (canId : UInt32) (w0 w1 w2 w3 : Int16) : CanFrame :=
  makeFrame canId #v[w0.toUInt16.toUInt8, (w0.toUInt16 >>> 8).toUInt8,
    w1.toUInt16.toUInt8, (w1.toUInt16 >>> 8).toUInt8,
    w2.toUInt16.toUInt8, (w2.toUInt16 >>> 8).toUInt8,
    w3.toUInt16.toUInt8, (w3.toUInt16 >>> 8).toUInt8]

variable [FloorRing K]

/-- `make_quat_frame`. -/
def makeQuatFrame (sqrt : K → K) (config : E2BoxImuFirmwareConfig K) (sample : ImuSample K) :
    CanFrame :=
  let s := if config.normalizeQuat then normalizeQuatXyzw sqrt sample else sample
  makeWordsFrame config.quatId (saturateToI16 (s.qz * config.quatScale))
    (saturateToI16 (s.qy * config.quatScale)) (saturateToI16 (-s.qx * config.quatScale))
    (saturateToI16 (s.qw * config.quatScale))

/-- `make_gyro_frame`. -/
def makeGyroFrame (config : E2BoxImuFirmwareConfig K) (sample : ImuSample K) : CanFrame :=
  makeWordsFrame config.gyroId
    (saturateToI16 (sample.gy * (180.0 / mathPi) * config.gyroScale))
    (saturateToI16 (sample.gx * (180.0 / mathPi) * config.gyroScale))
    (saturateToI16 (sample.gz * (180.0 / mathPi) * config.gyroScale)) 0

/-- `on_can_frame`. A frame of length zero is not answered. -/
def onCanFrame (sqrt : K → K) (config : E2BoxImuFirmwareConfig K) (frame : CanFrame)
    (sample : ImuSample K) : List CanFrame :=
  if !accepts config frame || frame.dlc < 1 then []
  else if frame.data.get 0 = config.cmdGetQuat then [makeQuatFrame sqrt config sample]
  else if frame.data.get 0 = config.cmdGetGyro then [makeGyroFrame config sample]
  else if frame.data.get 0 = config.cmdGetAll then
    [makeQuatFrame sqrt config sample, makeGyroFrame config sample]
  else []

end E2BoxImuFirmware

end SparqControl.Sim
