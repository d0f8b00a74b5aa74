/-
# SparqControl.Hal.ImuDriver — the product-independent IMU driver.

`IMUDriver` merges the quaternion and gyro frames of one sensor into one pose and keeps a freshness
monitor for EACH of the two streams. A protocol is what it decodes, the ids it listens to, and two
hooks that say which stream a frame belongs to; the base class answers `False` in both, and a frame
that neither hook claims is charged to both monitors when it does not decode.
-/
import SparqControl.Hal.ActuatorDriver

namespace SparqControl.Hal

/-- `RobotPoseState`: a quaternion, scalar last, an angular velocity and a gravity direction, as far as
they are known. -/
structure RobotPoseState (K : Type) where
  quatXyzw : Option (K × K × K × K) := none
  angularVelocityRadS : Option (K × K × K) := none
  projectedGravityB : Option (K × K × K) := none
  lastQuatT : K
  lastGyroT : K

/-- `IMUProtocolBase`, with the answers of its two hooks unless a protocol overrides them. -/
structure IMUProtocolBase (K : Type) where
  rxCanIds : List ℤ
  decodeFrame : CANFrame → K → Except PyError (Option (RobotPoseState K))
  isQuatFrame : CANFrame → Bool := fun _ => false
  isGyroFrame : CANFrame → Bool := fun _ => false

/-- The mutable part of `IMUDriver`. -/
structure IMUDriver (K : Type) where
  quatComm : FreshnessStatus K
  gyroComm : FreshnessStatus K
  state : RobotPoseState K

namespace IMUDriver

variable {K : Type}

/-- A freshly constructed driver. -/
def init [Field K] : IMUDriver K where
  quatComm := { lastRxT := 0, lastFaultT := 0 }
  gyroComm := { lastRxT := 0, lastFaultT := 0 }
  state := { lastQuatT := 0, lastGyroT := 0 }

/-- The quaternion half of `_merge_state`. -/
def mergeQuat (d : IMUDriver K) (s : RobotPoseState K) : IMUDriver K :=
  match s.quatXyzw with
  | none => d
  | some q =>
      { d with
        state := { d.state with
          quatXyzw := some q
          projectedGravityB := s.projectedGravityB
          lastQuatT := s.lastQuatT }
        quatComm := d.quatComm.markRx s.lastQuatT }

/-- The gyro half of `_merge_state`. -/
def mergeGyro (d : IMUDriver K) (s : RobotPoseState K) : IMUDriver K :=
  match s.angularVelocityRadS with
  | none => d
  | some w =>
      { d with
        state := { d.state with
          angularVelocityRadS := some w
          lastGyroT := s.lastGyroT }
        gyroComm := d.gyroComm.markRx s.lastGyroT }

/-- `_merge_state`. -/
def mergeState (d : IMUDriver K) (s : RobotPoseState K) : IMUDriver K := (d.mergeQuat s).mergeGyro s

/-- `_mark_decode_error`: the stream a hook claims the frame for, and both when no hook does. -/
def markDecodeError (protocol : IMUProtocolBase K) (d : IMUDriver K) (frame : CANFrame) (now : K) :
    IMUDriver K :=
  if protocol.isQuatFrame frame then { d with quatComm := d.quatComm.markDecodeError now }
  else if protocol.isGyroFrame frame then { d with gyroComm := d.gyroComm.markDecodeError now }
  else if frame.canId ∈ protocol.rxCanIds then
    { d with
      quatComm := d.quatComm.markDecodeError now
      gyroComm := d.gyroComm.markDecodeError now }
  else d

/-- `on_frame`. -/
def onFrame (protocol : IMUProtocolBase K) (d : IMUDriver K) (frame : CANFrame) (now : K) :
    IMUDriver K :=
  match protocol.decodeFrame frame now with
  | .error _ => d.markDecodeError protocol frame now
  | .ok none => d
  | .ok (some s) => d.mergeState s

/-- `update_fault_flags`; each monitor reads the clock for itself. -/
def updateFaultFlags [Field K] [LinearOrder K] (quatTimeout gyroTimeout : K) (d : IMUDriver K)
    (quatNow gyroNow : K) : IMUDriver K :=
  { d with
    quatComm := d.quatComm.updateFaultFlags quatTimeout quatNow
    gyroComm := d.gyroComm.updateFaultFlags gyroTimeout gyroNow }

end IMUDriver

end SparqControl.Hal
