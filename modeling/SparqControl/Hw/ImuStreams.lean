/-
# SparqControl.Hw.ImuStreams — do the two streams of the IMU interfere?

The driver keeps quaternion and gyro apart: separate fields, separate freshness monitors. What one
stream's reader sees should then be computable from that stream's frames alone. It is, as long as
every frame DECODES. A frame that does not is charged to both monitors, because the protocol leaves
the hooks of the base class as they are; so one malformed gyro frame makes the quaternion monitor
count a decode error it never had.

`imu_streams_iff` is the exact account, as a purge: a stream's view after all frames is its view after
its own frames exactly when no frame of the other stream failed to decode.
-/
import SparqControl.Hw.E2boxProtocol
import SparqControl.Lib.Trace

namespace SparqControl.Hw

open SparqControl.Hal
open SparqControl.Lib.Trace

/-- What happens to the driver: a frame arrives, or the fault flags are updated. -/
inductive ImuEvent (K : Type) where
  | frame (frame : CANFrame) (now : K)
  | updateFaultFlags (quatNow gyroNow : K)

/-- The events a reader of one id can know of: its own frames, and the updates. -/
def ImuEvent.ofStream {K : Type} (canId : ℤ) : ImuEvent K → Bool
  | frame f _ => f.canId == canId
  | updateFaultFlags _ _ => true

/-- What a reader of the quaternion sees. -/
structure QuatView (K : Type) where
  quatXyzw : Option (K × K × K × K)
  projectedGravityB : Option (K × K × K)
  lastQuatT : K
  comm : FreshnessStatus K

/-- What a reader of the gyro sees. -/
structure GyroView (K : Type) where
  angularVelocityRadS : Option (K × K × K)
  lastGyroT : K
  comm : FreshnessStatus K

/-- The quaternion half of a driver. -/
def quatView {K : Type} (d : IMUDriver K) : QuatView K :=
  ⟨d.state.quatXyzw, d.state.projectedGravityB, d.state.lastQuatT, d.quatComm⟩

/-- The gyro half of a driver. -/
def gyroView {K : Type} (d : IMUDriver K) : GyroView K :=
  ⟨d.state.angularVelocityRadS, d.state.lastGyroT, d.gyroComm⟩

namespace E2BoxIMUProtocol

variable {K : Type} [Field K] [LinearOrder K] (p : E2BoxIMUProtocol K) (sqrt : K → K)

/-- A frame on one of the two ids that does not decode: it is not eight bytes long, or the scale of its
stream is zero. -/
def failsOn (canId : ℤ) (scale : K) : ImuEvent K → Bool
  | .frame f _ => f.canId == canId && (f.data.length != 8 || scale == 0)
  | .updateFaultFlags _ _ => false

/-- A quaternion frame that does not decode. -/
def quatFails : ImuEvent K → Bool := failsOn p.quatId p.quatScale

/-- A gyro frame that does not decode. -/
def gyroFails : ImuEvent K → Bool := failsOn p.gyroId p.gyroScale

variable (quatTimeout gyroTimeout : K)

/-- One event. -/
def imuStep (d : IMUDriver K) : ImuEvent K → IMUDriver K × Unit
  | .frame f now => (d.onFrame (p.protocol sqrt) f now, ())
  | .updateFaultFlags quatNow gyroNow =>
      (d.updateFaultFlags quatTimeout gyroTimeout quatNow gyroNow, ())

/-- A driver after any events. -/
def afterEvents (events : List (ImuEvent K)) : IMUDriver K :=
  final (p.imuStep sqrt quatTimeout gyroTimeout) .init events

/-! ## One frame -/

/-- A frame on one of the two ids that does not decode is counted by BOTH monitors: no hook claims it. -/
theorem markDecodeError_eq (d : IMUDriver K) {f : CANFrame} (now : K)
    (hid : f.canId = p.quatId ∨ f.canId = p.gyroId) :
    d.markDecodeError (p.protocol sqrt) f now =
      { d with
        quatComm := d.quatComm.markDecodeError now
        gyroComm := d.gyroComm.markDecodeError now } := by
  show (if f.canId ∈ [p.quatId, p.gyroId] then _ else _) = _
  rw [if_pos (by simpa using hid)]

/-- A frame on the quaternion id. -/
theorem onFrame_quat (d : IMUDriver K) {f : CANFrame} (now : K) (hquat : f.canId = p.quatId) :
    (p.quatFails (.frame f now) = false ∧
      d.onFrame (p.protocol sqrt) f now = d.mergeQuat
        { quatXyzw := some (p.quatOfPayload sqrt f.data)
          projectedGravityB := some (projectedGravityFromXyzw (p.quatOfPayload sqrt f.data))
          lastQuatT := now
          lastGyroT := 0 }) ∨
    (p.quatFails (.frame f now) = true ∧
      d.onFrame (p.protocol sqrt) f now = d.markDecodeError (p.protocol sqrt) f now) := by
  have hdecode : (p.protocol sqrt).decodeFrame f now = (p.decodeQuat sqrt f.data now).map some :=
    if_pos hquat
  unfold IMUDriver.onFrame
  rw [hdecode, decodeQuat]
  by_cases hlen : f.data.length = 8
  · by_cases hscale : p.quatScale = 0
    · rw [if_neg (not_not.mpr hlen), if_pos hscale]
      exact Or.inr ⟨by simp [quatFails, failsOn, hquat, hscale], rfl⟩
    · rw [if_neg (not_not.mpr hlen), if_neg hscale]
      exact Or.inl ⟨by simp [quatFails, failsOn, hlen, hscale], rfl⟩
  · rw [if_pos hlen]
    exact Or.inr ⟨by simp [quatFails, failsOn, hquat, hlen], rfl⟩

/-- A frame on the gyro id. -/
theorem onFrame_gyro (d : IMUDriver K) {f : CANFrame} (now : K) (hquat : f.canId ≠ p.quatId)
    (hgyro : f.canId = p.gyroId) :
    (p.gyroFails (.frame f now) = false ∧
      d.onFrame (p.protocol sqrt) f now = d.mergeGyro
        { angularVelocityRadS := some (p.gyroOfPayload f.data), lastQuatT := 0, lastGyroT := now }) ∨
    (p.gyroFails (.frame f now) = true ∧
      d.onFrame (p.protocol sqrt) f now = d.markDecodeError (p.protocol sqrt) f now) := by
  have hdecode : (p.protocol sqrt).decodeFrame f now = (p.decodeGyro f.data now).map some := by
    show (if _ then _ else _) = _
    rw [if_neg hquat, if_pos hgyro]
  unfold IMUDriver.onFrame
  rw [hdecode, decodeGyro]
  by_cases hlen : f.data.length = 8
  · by_cases hscale : p.gyroScale = 0
    · rw [if_neg (not_not.mpr hlen), if_pos hscale]
      exact Or.inr ⟨by simp [gyroFails, failsOn, hgyro, hscale], rfl⟩
    · rw [if_neg (not_not.mpr hlen), if_neg hscale]
      exact Or.inl ⟨by simp [gyroFails, failsOn, hlen, hscale], rfl⟩
  · rw [if_pos hlen]
    exact Or.inr ⟨by simp [gyroFails, failsOn, hgyro, hlen], rfl⟩

/-- **What a frame does.** A quaternion frame moves the quaternion half, a gyro frame the gyro half, a
frame on either id that does not decode BOTH monitors, and any other frame nothing. -/
theorem onFrame_cases (d : IMUDriver K) (f : CANFrame) (now : K) :
    (f.canId = p.quatId ∧ p.quatFails (.frame f now) = false ∧
      d.onFrame (p.protocol sqrt) f now = d.mergeQuat
        { quatXyzw := some (p.quatOfPayload sqrt f.data)
          projectedGravityB := some (projectedGravityFromXyzw (p.quatOfPayload sqrt f.data))
          lastQuatT := now
          lastGyroT := 0 }) ∨
    (f.canId ≠ p.quatId ∧ f.canId = p.gyroId ∧ p.gyroFails (.frame f now) = false ∧
      d.onFrame (p.protocol sqrt) f now = d.mergeGyro
        { angularVelocityRadS := some (p.gyroOfPayload f.data), lastQuatT := 0, lastGyroT := now }) ∨
    ((p.quatFails (.frame f now) = true ∨
        (f.canId ≠ p.quatId ∧ p.gyroFails (.frame f now) = true)) ∧
      d.onFrame (p.protocol sqrt) f now =
        { d with
          quatComm := d.quatComm.markDecodeError now
          gyroComm := d.gyroComm.markDecodeError now }) ∨
    (f.canId ≠ p.quatId ∧ f.canId ≠ p.gyroId ∧ d.onFrame (p.protocol sqrt) f now = d) := by
  by_cases hquat : f.canId = p.quatId
  · rcases p.onFrame_quat sqrt d now hquat with ⟨hok, hstep⟩ | ⟨hfail, hstep⟩
    · exact Or.inl ⟨hquat, hok, hstep⟩
    · rw [p.markDecodeError_eq sqrt d now (Or.inl hquat)] at hstep
      exact Or.inr (Or.inr (Or.inl ⟨Or.inl hfail, hstep⟩))
  by_cases hgyro : f.canId = p.gyroId
  · rcases p.onFrame_gyro sqrt d now hquat hgyro with ⟨hok, hstep⟩ | ⟨hfail, hstep⟩
    · exact Or.inr (Or.inl ⟨hquat, hgyro, hok, hstep⟩)
    · rw [p.markDecodeError_eq sqrt d now (Or.inr hgyro)] at hstep
      exact Or.inr (Or.inr (Or.inl ⟨Or.inr ⟨hquat, hfail⟩, hstep⟩))
  · have hnone : (p.protocol sqrt).decodeFrame f now = .ok none := by
      show (if _ then _ else _) = _
      rw [if_neg hquat, if_neg hgyro]
    refine Or.inr (Or.inr (Or.inr ⟨hquat, hgyro, ?_⟩))
    unfold IMUDriver.onFrame
    rw [hnone]

/-- A frame belongs to one id, so it cannot fail as the other stream's. -/
theorem failsOn_of_ne {canId canId' : ℤ} (hids : canId ≠ canId') (scale : K) {f : CANFrame} (now : K)
    (hid : f.canId = canId) : failsOn canId' scale (.frame f now) = false := by
  simp [failsOn, hid, hids]

/-- A frame that fails on one id is not of the other stream. -/
theorem ofStream_of_failsOn {canId canId' : ℤ} (hids : canId ≠ canId') {scale : K} {e : ImuEvent K}
    (hfail : failsOn canId' scale e = true) : e.ofStream canId = false := by
  cases e with
  | updateFaultFlags quatNow gyroNow => cases hfail
  | frame f now =>
      have hid : f.canId = canId' := by
        simp only [failsOn, Bool.and_eq_true, beq_iff_eq] at hfail
        exact hfail.1
      simp [ImuEvent.ofStream, hid, hids.symm]

/-! ## One stream -/

/-- One event as the quaternion half sees it: a frame on either id that does not decode is its own decode
error. -/
def quatNext (v : QuatView K) : ImuEvent K → QuatView K
  | .frame f now =>
      if p.quatFails (.frame f now) || p.gyroFails (.frame f now) then
        { v with comm := v.comm.markDecodeError now }
      else if f.canId = p.quatId then
        { quatXyzw := some (p.quatOfPayload sqrt f.data)
          projectedGravityB := some (projectedGravityFromXyzw (p.quatOfPayload sqrt f.data))
          lastQuatT := now
          comm := v.comm.markRx now }
      else v
  | .updateFaultFlags quatNow _ =>
      { v with comm := v.comm.updateFaultFlags quatTimeout quatNow }

/-- One event as the gyro half sees it. -/
def gyroNext (v : GyroView K) : ImuEvent K → GyroView K
  | .frame f now =>
      if p.quatFails (.frame f now) || p.gyroFails (.frame f now) then
        { v with comm := v.comm.markDecodeError now }
      else if f.canId = p.gyroId then
        { angularVelocityRadS := some (p.gyroOfPayload f.data)
          lastGyroT := now
          comm := v.comm.markRx now }
      else v
  | .updateFaultFlags _ gyroNow =>
      { v with comm := v.comm.updateFaultFlags gyroTimeout gyroNow }

/-- **Each half moves on its own**: what an event does to it depends on that half and the event. -/
theorem view_step (hne : p.quatId ≠ p.gyroId) (d : IMUDriver K) (e : ImuEvent K) :
    quatView (p.imuStep sqrt quatTimeout gyroTimeout d e).1 =
      p.quatNext sqrt quatTimeout (quatView d) e ∧
    gyroView (p.imuStep sqrt quatTimeout gyroTimeout d e).1 =
      p.gyroNext gyroTimeout (gyroView d) e := by
  cases e with
  | updateFaultFlags quatNow gyroNow => exact ⟨rfl, rfl⟩
  | frame f now =>
      simp only [imuStep, quatNext, gyroNext]
      rcases p.onFrame_cases sqrt d f now with
        ⟨hid, hok, hd⟩ | ⟨hids, hid, hok, hd⟩ | ⟨hfail, hd⟩ | ⟨hquat, hgyro, hd⟩
      · have hother : p.gyroFails (.frame f now) = false := failsOn_of_ne hne _ _ hid
        have hids : f.canId ≠ p.gyroId := hid ▸ hne
        simp only [hd, hok, hother, Bool.or_false, Bool.false_eq_true, if_false, if_pos hid, hids]
        exact ⟨rfl, rfl⟩
      · have hother : p.quatFails (.frame f now) = false := failsOn_of_ne hne.symm _ _ hid
        simp only [hd, hok, hother, Bool.or_false, Bool.false_eq_true, if_false, if_pos hid, hids]
        exact ⟨rfl, rfl⟩
      · have hfails : (p.quatFails (.frame f now) || p.gyroFails (.frame f now)) = true := by
          rcases hfail with hfail | ⟨-, hfail⟩ <;> simp [hfail]
        rw [hd, if_pos hfails, if_pos hfails]
        exact ⟨rfl, rfl⟩
      · have hno : (p.quatFails (.frame f now) || p.gyroFails (.frame f now)) = false := by
          simp [quatFails, gyroFails, failsOn, hquat, hgyro]
        simp only [hd, hno, Bool.false_eq_true, if_false, hquat, hgyro, and_self]

theorem decodeErrorCount_updateFaultFlags (s : FreshnessStatus K) (timeout now : K) :
    (s.updateFaultFlags timeout now).decodeErrorCount = s.decodeErrorCount := by
  simp only [FreshnessStatus.updateFaultFlags]
  split <;> rfl

/-- Each monitor counts every frame that does not decode, whichever stream it belongs to. -/
theorem decodeErrorCount_next (v : QuatView K) (w : GyroView K) (e : ImuEvent K) :
    (p.quatNext sqrt quatTimeout v e).comm.decodeErrorCount =
      v.comm.decodeErrorCount + (if p.quatFails e || p.gyroFails e then 1 else 0) ∧
    (p.gyroNext gyroTimeout w e).comm.decodeErrorCount =
      w.comm.decodeErrorCount + (if p.quatFails e || p.gyroFails e then 1 else 0) := by
  cases e with
  | updateFaultFlags quatNow gyroNow =>
      exact ⟨decodeErrorCount_updateFaultFlags _ _ _, decodeErrorCount_updateFaultFlags _ _ _⟩
  | frame f now =>
      simp only [quatNext, gyroNext]
      cases p.quatFails (.frame f now) || p.gyroFails (.frame f now) with
      | true => exact ⟨rfl, rfl⟩
      | false =>
          simp only [Bool.false_eq_true, if_false]
          constructor <;> split <;> rfl

/-! ## Any events -/

/-- The decode errors either monitor shows are the frames on either id that did not decode. -/
theorem decodeErrorCount_afterEvents (hne : p.quatId ≠ p.gyroId) (events : List (ImuEvent K)) :
    (p.afterEvents sqrt quatTimeout gyroTimeout events).quatComm.decodeErrorCount =
      events.countP (fun e => p.quatFails e || p.gyroFails e) ∧
    (p.afterEvents sqrt quatTimeout gyroTimeout events).gyroComm.decodeErrorCount =
      events.countP (fun e => p.quatFails e || p.gyroFails e) := by
  have hquat : ∀ d e, (p.imuStep sqrt quatTimeout gyroTimeout d e).1.quatComm.decodeErrorCount =
      d.quatComm.decodeErrorCount + (if p.quatFails e || p.gyroFails e then 1 else 0) := by
    intro d e
    have hview := congrArg QuatView.comm (p.view_step sqrt quatTimeout gyroTimeout hne d e).1
    have hcomm : (p.imuStep sqrt quatTimeout gyroTimeout d e).1.quatComm = _ := hview
    rw [hcomm]
    exact (p.decodeErrorCount_next sqrt quatTimeout gyroTimeout _ (gyroView d) e).1
  have hgyro : ∀ d e, (p.imuStep sqrt quatTimeout gyroTimeout d e).1.gyroComm.decodeErrorCount =
      d.gyroComm.decodeErrorCount + (if p.quatFails e || p.gyroFails e then 1 else 0) := by
    intro d e
    have hview := congrArg GyroView.comm (p.view_step sqrt quatTimeout gyroTimeout hne d e).2
    have hcomm : (p.imuStep sqrt quatTimeout gyroTimeout d e).1.gyroComm = _ := hview
    rw [hcomm]
    exact (p.decodeErrorCount_next sqrt quatTimeout gyroTimeout (quatView d) _ e).2
  unfold afterEvents
  rw [final_count (f := fun d : IMUDriver K => d.quatComm.decodeErrorCount) hquat,
    final_count (f := fun d : IMUDriver K => d.gyroComm.decodeErrorCount) hgyro]
  exact ⟨Nat.zero_add _, Nat.zero_add _⟩

omit [Field K] [LinearOrder K] in
/-- Where a count does not change when some events are dropped, none of those was counted. -/
theorem not_counted_of_filter {counted keep : ImuEvent K → Bool} {events : List (ImuEvent K)}
    (h : events.countP counted = (events.filter keep).countP counted) :
    ∀ e ∈ events, keep e = false → counted e = false := by
  have hsplit := List.countP_eq_countP_filter_add events counted keep
  have hdropped : (events.filter fun e => !keep e).countP counted = 0 := by omega
  intro e he hkeep
  have hmem : e ∈ events.filter fun e => !keep e := List.mem_filter.mpr ⟨he, by simp [hkeep]⟩
  simpa using List.countP_eq_zero.mp hdropped e hmem

/-- A frame that is not the stream's own and decodes, or is nobody's, leaves the half alone. -/
theorem next_foreign {e : ImuEvent K} :
    (e.ofStream p.quatId = false → p.gyroFails e = false →
      ∀ v, p.quatNext sqrt quatTimeout v e = v) ∧
    (e.ofStream p.gyroId = false → p.quatFails e = false →
      ∀ w, p.gyroNext gyroTimeout w e = w) := by
  cases e with
  | updateFaultFlags quatNow gyroNow =>
      constructor <;> intro h <;> cases h
  | frame f now =>
      constructor
      · intro hforeign hok v
        have hid : f.canId ≠ p.quatId := by simpa [ImuEvent.ofStream] using hforeign
        have hquat : p.quatFails (.frame f now) = false := failsOn_of_ne hid _ _ rfl
        simp only [quatNext, hok, hquat, Bool.or_false, Bool.false_eq_true, if_false, hid]
      · intro hforeign hok w
        have hid : f.canId ≠ p.gyroId := by simpa [ImuEvent.ofStream] using hforeign
        have hgyro : p.gyroFails (.frame f now) = false := failsOn_of_ne hid _ _ rfl
        simp only [gyroNext, hok, hgyro, Bool.or_false, Bool.false_eq_true, if_false, hid]

/-- **The two streams.** For distinct ids and any events, in any order: the quaternion half after all of
them is the quaternion half after its own frames exactly when every gyro frame decoded, and the gyro
half is that after its own frames exactly when every quaternion frame decoded. -/
theorem imu_streams_iff (hne : p.quatId ≠ p.gyroId) (events : List (ImuEvent K)) :
    (quatView (p.afterEvents sqrt quatTimeout gyroTimeout events) =
        quatView (p.afterEvents sqrt quatTimeout gyroTimeout
          (events.filter (ImuEvent.ofStream p.quatId))) ↔
      ∀ e ∈ events, p.gyroFails e = false) ∧
    (gyroView (p.afterEvents sqrt quatTimeout gyroTimeout events) =
        gyroView (p.afterEvents sqrt quatTimeout gyroTimeout
          (events.filter (ImuEvent.ofStream p.gyroId))) ↔
      ∀ e ∈ events, p.quatFails e = false) := by
  refine ⟨⟨fun hview e he => ?_, fun hok => ?_⟩, ⟨fun hview e he => ?_, fun hok => ?_⟩⟩
  · have hcount := congrArg (fun v : QuatView K => v.comm.decodeErrorCount) hview
    simp only [quatView, (p.decodeErrorCount_afterEvents sqrt quatTimeout gyroTimeout hne _).1]
      at hcount
    by_contra hfail
    have hfail' : p.gyroFails e = true := by simpa using hfail
    have := not_counted_of_filter hcount e he (ofStream_of_failsOn hne hfail')
    simp [hfail'] at this
  · refine final_purge (C := fun e => p.gyroFails e = false) ?_ ?_ _ events hok
    · intro d d' e _ hview
      rw [(p.view_step sqrt quatTimeout gyroTimeout hne d e).1,
        (p.view_step sqrt quatTimeout gyroTimeout hne d' e).1, hview]
    · intro d e hforeign hdecodes
      rw [(p.view_step sqrt quatTimeout gyroTimeout hne d e).1]
      exact (p.next_foreign sqrt quatTimeout gyroTimeout).1 hforeign hdecodes _
  · have hcount := congrArg (fun v : GyroView K => v.comm.decodeErrorCount) hview
    simp only [gyroView, (p.decodeErrorCount_afterEvents sqrt quatTimeout gyroTimeout hne _).2]
      at hcount
    by_contra hfail
    have hfail' : p.quatFails e = true := by simpa using hfail
    have := not_counted_of_filter hcount e he (ofStream_of_failsOn hne.symm hfail')
    simp [hfail'] at this
  · refine final_purge (C := fun e => p.quatFails e = false) ?_ ?_ _ events hok
    · intro d d' e _ hview
      rw [(p.view_step sqrt quatTimeout gyroTimeout hne d e).2,
        (p.view_step sqrt quatTimeout gyroTimeout hne d' e).2, hview]
    · intro d e hforeign hdecodes
      rw [(p.view_step sqrt quatTimeout gyroTimeout hne d e).2]
      exact (p.next_foreign sqrt quatTimeout gyroTimeout).2 hforeign hdecodes _

/-- The protocol object of the platform configuration. -/
def platformImu : E2BoxIMUProtocol ℚ where
  requestId := 0x221
  quatId := 0x2A1
  gyroId := 0x321
  cmdGetQuat := 1
  cmdGetGyro := 2
  cmdGetAll := 3
  quatScale := 10000.0
  gyroScale := 100.0
  normalizeQuat := true

/-- A quaternion frame and a gyro frame, both well formed: the gyro frame does not show in the
quaternion half. -/
theorem imu_streams_well_formed :
    quatView (platformImu.afterEvents id 1 1
        [.frame ⟨0x2A1, [0, 0, 0, 0, 0, 0, 0x10, 0x27]⟩ 1,
          .frame ⟨0x321, [0, 0, 0, 0, 0, 0, 0, 0]⟩ 2]) =
      quatView (platformImu.afterEvents id 1 1
        [.frame ⟨0x2A1, [0, 0, 0, 0, 0, 0, 0x10, 0x27]⟩ 1]) :=
  (imu_streams_iff platformImu id 1 1 (by decide)
    [.frame ⟨0x2A1, [0, 0, 0, 0, 0, 0, 0x10, 0x27]⟩ 1,
      .frame ⟨0x321, [0, 0, 0, 0, 0, 0, 0, 0]⟩ 2]).1.mpr (by decide +kernel)

/-- One gyro frame of seven bytes: the quaternion monitor counts a decode error, though no quaternion
frame ever came. -/
theorem imu_streams_interfere :
    quatView (platformImu.afterEvents id 1 1 [.frame ⟨0x321, [0, 0, 0, 0, 0, 0, 0]⟩ 1]) ≠
      quatView (platformImu.afterEvents id 1 1
        ([.frame ⟨0x321, [0, 0, 0, 0, 0, 0, 0]⟩ 1].filter (ImuEvent.ofStream platformImu.quatId))) := by
  intro hview
  have hcount := congrArg (fun v : QuatView ℚ => v.comm.decodeErrorCount) hview
  revert hcount
  decide +kernel

end E2BoxIMUProtocol

end SparqControl.Hw
