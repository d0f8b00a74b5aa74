/-
# SparqControl.Link.ImuCodec — IMU frames, firmware encoder against host decoder.

The firmware writes z, y, minus x, w and, for the gyro, y, x, z; the host reads them back in the same
mirrored order. What is left of a sample is the ROUNDING of each word: half a count, once the value is
inside the range of a word, and the clamp outside it. A normalised quaternion stays inside as long as
the scale does.
-/
import SparqControl.Hw.E2boxProtocol
import SparqControl.Lib.UnitQuat
import SparqControl.Link.MitCodec
import SparqControl.Link.StatusCodec
import SparqControl.Sim.E2BoxImuFirmware

namespace SparqControl.Link

open SparqControl.Hal SparqControl.Hw SparqControl.Sim
open SparqControl.Hw.SPGActuatorProtocol (readI16)
open SparqControl.Lib.Packed (Layout)
open SparqControl.Lib.UnitQuat

/-! ## The byte level -/

/-- The four words of a frame of the firmware, read back by the host. -/
theorem simToHost_makeWordsFrame (id : UInt32) (w0 w1 w2 w3 : Int16) :
    ∃ data, simToHost (E2BoxImuFirmware.makeWordsFrame id w0 w1 w2 w3) =
        ⟨((id &&& 0x7FF).toNat : ℤ), data⟩ ∧ data.length = 8 ∧
      readI16 data 0 = w0.toInt ∧ readI16 data 2 = w1.toInt ∧ readI16 data 4 = w2.toInt ∧
      readI16 data 6 = w3.toInt := by
  refine ⟨_, simToHost_makeFrame _ _ _ _ _ _ _ _ _, rfl, ?_, ?_, ?_, ?_⟩
  · exact congrArg Int16.toInt (ofBytes_i16 w0 _)
  · exact congrArg Int16.toInt (ofBytes_i16 w1 _)
  · exact congrArg Int16.toInt (ofBytes_i16 w2 _)
  · exact congrArg Int16.toInt (ofBytes_i16 w3 _)

/-! ## One component -/

section Components

variable {K : Type} [Field K] [LinearOrder K] [IsStrictOrderedRing K] [FloorRing K]

/-- A component of a unit quaternion loses at most half a count. -/
theorem abs_quat_word_sub_le {scale u : K} (hscale : 0 < scale) (htop : scale ≤ 32767) (hu : |u| ≤ 1) :
    |((saturateToI16 (u * scale)).toInt : K) / scale - u| ≤ 1 / (2 * scale) := by
  have hin : |u * scale| ≤ 32767.0 := by
    rw [abs_mul, abs_of_pos hscale]
    calc |u| * scale ≤ 1 * scale := mul_le_mul_of_nonneg_right hu hscale.le
      _ ≤ 32767.0 := by rw [one_mul]; exact htop.trans (by norm_num)
  have hbound := abs_mul_sub_mul_le (abs_saturateToI16_sub_le_of_mem hin) (1 / scale)
  rw [abs_of_pos (one_div_pos.mpr hscale)] at hbound
  have hback : u * scale * (1 / scale) = u := by
    field_simp
  rw [hback, mul_one_div] at hbound
  refine hbound.trans (le_of_eq ?_)
  rw [div_div, mul_comm scale]

/-- The x component travels negated. -/
theorem abs_negated_quat_word_sub_le {scale u : K} (hscale : 0 < scale) (htop : scale ≤ 32767)
    (hu : |u| ≤ 1) :
    |-(((saturateToI16 (-u * scale)).toInt : K) / scale) - u| ≤ 1 / (2 * scale) := by
  have hbound := abs_quat_word_sub_le (u := -u) hscale htop (by rwa [abs_neg])
  rwa [← neg_add', abs_neg, ← sub_neg_eq_add]

/-- A rate loses at most half a count of its clamped value. -/
theorem abs_gyro_word_sub_le {scale : K} (hscale : 0 < scale) (g : K) :
    |((saturateToI16 (g * (180.0 / mathPi) * scale)).toInt : K) / scale * mathPi / 180.0 -
      clampValue g (radians (-32768.0 / scale)) (radians (32767.0 / scale))| ≤
      radians (0.5 / scale) := by
  have hpi : (0 : K) < mathPi := mathPi_pos
  have hunit : (0 : K) < mathPi / 180.0 / scale :=
    div_pos (div_pos hpi (by norm_num)) hscale
  have hbound := abs_mul_sub_mul_le (abs_saturateToI16_sub_le (g * (180.0 / mathPi) * scale))
    (mathPi / 180.0 / scale)
  have hback : g * (180.0 / mathPi) * scale * (mathPi / 180.0 / scale) = g := by
    field_simp
  have hrad : ∀ c : K, c * (mathPi / 180.0 / scale) = radians (c / scale) := by
    intro c
    rw [radians, mul_div_assoc', div_mul_eq_mul_div]
  have hcount : ∀ c : K, c / scale * mathPi / 180.0 = radians (c / scale) := by
    intro c
    rw [radians, mul_div_assoc]
  have hhalf : mathPi / 180.0 / scale / 2 = radians (0.5 / scale) := by
    rw [← hrad]
    generalize (mathPi / 180.0 / scale : K) = unit
    norm_num
    ring
  rw [clampValue_mul hunit.le, hback, abs_of_pos hunit, hrad, hrad, hrad, hhalf] at hbound
  rwa [hcount]

end Components

/-! ## A whole answer -/

/-- Host and firmware of one IMU: the host listens to what the bus leaves of the firmware's two ids, and
the scales are equal and positive. -/
structure MatchedImu {K : Type} [Field K] [LinearOrder K] (host : E2BoxIMUProtocol K)
    (fw : E2BoxImuFirmwareConfig K) : Prop where
  quatId : host.quatId = ((fw.quatId &&& 0x7FF).toNat : ℤ)
  gyroId : host.gyroId = ((fw.gyroId &&& 0x7FF).toNat : ℤ)
  ids_ne : host.quatId ≠ host.gyroId
  quatScale : host.quatScale = fw.quatScale
  gyroScale : host.gyroScale = fw.gyroScale
  quatScale_pos : 0 < fw.quatScale
  gyroScale_pos : 0 < fw.gyroScale

/-- A request for everything: the request id, a command byte, and a command that means this and neither
of the other two. -/
structure IsGetAll {K : Type} [Field K] (fw : E2BoxImuFirmwareConfig K) (request : CanFrame) : Prop where
  canId : request.canId = fw.requestId
  dlc : 1 ≤ request.dlc
  command : opcode request = fw.cmdGetAll
  ne_quat : fw.cmdGetAll ≠ fw.cmdGetQuat
  ne_gyro : fw.cmdGetAll ≠ fw.cmdGetGyro

/-- The host's own request, for a firmware with the same request id and command, is one. -/
theorem isGetAll_encodeRequestAll {K : Type} [Field K] {host : E2BoxIMUProtocol K}
    {fw : E2BoxImuFirmwareConfig K} {f : CANFrame} {request : CanFrame}
    (hid : host.requestId = fw.requestId.toNat) (hstd : fw.requestId.toNat ≤ 0x7FF)
    (hcmd : host.cmdGetAll = fw.cmdGetAll.toNat) (hquat : fw.cmdGetAll ≠ fw.cmdGetQuat)
    (hgyro : fw.cmdGetAll ≠ fw.cmdGetGyro) (hf : host.encodeRequestAll = .ok f)
    (hsim : hostToSim f = .ok request) : IsGetAll fw request := by
  have hlt := fw.cmdGetAll.toNat_lt
  have hframe : f = ⟨fw.requestId.toNat, [fw.cmdGetAll]⟩ := by
    unfold E2BoxIMUProtocol.encodeRequestAll E2BoxIMUProtocol.encodeRequest at hf
    rw [hcmd, hid, if_pos ⟨Int.natCast_nonneg _, by omega⟩] at hf
    rw [← Except.ok.inj hf, ofInt_natCast, UInt8.ofNat_toNat]
  have hcanId : (request.canId.toNat : ℤ) = fw.requestId.toNat := by
    rw [hostToSim_canId hsim, hframe, sffId]
    exact Int.emod_eq_of_lt (Int.natCast_nonneg _) (by simp only [canSffMask]; omega)
  obtain ⟨r, hr, rfl⟩ := map_eq_ok_iff.mp hsim
  obtain ⟨hdlc, -, hdata⟩ := socketSendFrame_fields hr
  rw [hframe] at hdlc hdata
  exact
    { canId := UInt32.toNat_inj.mp (by exact_mod_cast hcanId)
      dlc := by
        rw [fromLinuxCanFrame, UInt8.le_iff_toNat_le, hdlc]
        exact Nat.le_refl 1
      command := by
        simp [opcode, fromLinuxCanFrame, hdlc, hdata]
      ne_quat := hquat
      ne_gyro := hgyro }

section Answer

variable {K : Type} [Field K] [LinearOrder K] [FloorRing K]

/-- A request for everything is answered with both frames. -/
theorem onCanFrame_getAll (sqrt : K → K) {fw : E2BoxImuFirmwareConfig K} {request : CanFrame}
    (h : IsGetAll fw request) (sample : ImuSample K) :
    E2BoxImuFirmware.onCanFrame sqrt fw request sample =
      [E2BoxImuFirmware.makeQuatFrame sqrt fw sample, E2BoxImuFirmware.makeGyroFrame fw sample] := by
  have hcommand : request.data.get 0 = fw.cmdGetAll := h.command
  have haccept : (!E2BoxImuFirmware.accepts fw request || decide (request.dlc < 1)) = false := by
    rw [Bool.or_eq_false_iff]
    refine ⟨?_, decide_eq_false (UInt8.not_lt.mpr h.dlc)⟩
    simp [E2BoxImuFirmware.accepts, h.canId]
  unfold E2BoxImuFirmware.onCanFrame
  rw [haccept, hcommand, if_neg Bool.false_ne_true, if_neg h.ne_quat, if_neg h.ne_gyro, if_pos rfl]

/-- What the host makes of a quaternion frame of the firmware, normalisation on the host off. -/
theorem decodeFrame_makeQuatFrame (sqrt : K → K) {host : E2BoxIMUProtocol K}
    {fw : E2BoxImuFirmwareConfig K} (h : MatchedImu host fw) (hoff : host.normalizeQuat = false)
    (sample : ImuSample K) (now : K) :
    ∃ s, host.decodeFrame sqrt (simToHost (E2BoxImuFirmware.makeQuatFrame sqrt fw sample)) now =
        .ok (some s) ∧
      ∀ u, u = (if fw.normalizeQuat then E2BoxImuFirmware.normalizeQuatXyzw sqrt sample else sample) →
        s.quatXyzw = some
          (-(((saturateToI16 (-u.qx * fw.quatScale)).toInt : K) / fw.quatScale),
            ((saturateToI16 (u.qy * fw.quatScale)).toInt : K) / fw.quatScale,
            ((saturateToI16 (u.qz * fw.quatScale)).toInt : K) / fw.quatScale,
            ((saturateToI16 (u.qw * fw.quatScale)).toInt : K) / fw.quatScale) := by
  set u := if fw.normalizeQuat then E2BoxImuFirmware.normalizeQuatXyzw sqrt sample else sample with hu
  obtain ⟨data, hframe, hlen, hz, hy, hx, hw⟩ := simToHost_makeWordsFrame fw.quatId
    (saturateToI16 (u.qz * fw.quatScale)) (saturateToI16 (u.qy * fw.quatScale))
    (saturateToI16 (-u.qx * fw.quatScale)) (saturateToI16 (u.qw * fw.quatScale))
  have hsend : simToHost (E2BoxImuFirmware.makeQuatFrame sqrt fw sample) = ⟨host.quatId, data⟩ := by
    rw [h.quatId]
    exact hframe
  have hscale : host.quatScale ≠ 0 := h.quatScale ▸ h.quatScale_pos.ne'
  rw [hsend, E2BoxIMUProtocol.decodeFrame, if_pos rfl, E2BoxIMUProtocol.decodeQuat,
    if_neg (not_not.mpr hlen), if_neg hscale]
  refine ⟨_, rfl, ?_⟩
  rintro _ rfl
  simp only [E2BoxIMUProtocol.quatOfPayload, hoff, Bool.false_eq_true, if_false, hz, hy, hx, hw,
    h.quatScale]

/-- What the host makes of a gyro frame of the firmware. -/
theorem decodeFrame_makeGyroFrame (sqrt : K → K) {host : E2BoxIMUProtocol K}
    {fw : E2BoxImuFirmwareConfig K} (h : MatchedImu host fw) (sample : ImuSample K) (now : K) :
    ∃ s, host.decodeFrame sqrt (simToHost (E2BoxImuFirmware.makeGyroFrame fw sample)) now =
        .ok (some s) ∧
      s.angularVelocityRadS = some
        (((saturateToI16 (sample.gx * (180.0 / mathPi) * fw.gyroScale)).toInt : K) / fw.gyroScale *
            mathPi / 180.0,
          ((saturateToI16 (sample.gy * (180.0 / mathPi) * fw.gyroScale)).toInt : K) / fw.gyroScale *
            mathPi / 180.0,
          ((saturateToI16 (sample.gz * (180.0 / mathPi) * fw.gyroScale)).toInt : K) / fw.gyroScale *
            mathPi / 180.0) := by
  obtain ⟨data, hframe, hlen, hy, hx, hz, -⟩ := simToHost_makeWordsFrame fw.gyroId
    (saturateToI16 (sample.gy * (180.0 / mathPi) * fw.gyroScale))
    (saturateToI16 (sample.gx * (180.0 / mathPi) * fw.gyroScale))
    (saturateToI16 (sample.gz * (180.0 / mathPi) * fw.gyroScale)) 0
  have hsend : simToHost (E2BoxImuFirmware.makeGyroFrame fw sample) = ⟨host.gyroId, data⟩ := by
    rw [h.gyroId]
    exact hframe
  have hscale : host.gyroScale ≠ 0 := h.gyroScale ▸ h.gyroScale_pos.ne'
  rw [hsend, E2BoxIMUProtocol.decodeFrame, if_neg h.ids_ne.symm, if_pos rfl,
    E2BoxIMUProtocol.decodeGyro, if_neg (not_not.mpr hlen), if_neg hscale]
  refine ⟨_, rfl, ?_⟩
  simp only [E2BoxIMUProtocol.gyroOfPayload, hy, hx, hz, h.gyroScale]

end Answer

section Normalized

variable {K : Type} [Field K] [LinearOrder K] (sqrt : K → K) (s : ImuSample K)

/-- The quaternion of a sample, normalised; the identity when its norm is too small to divide by. -/
def normalizedSample : K × K × K × K := safeNormalize sqrt 1e-12 (s.qx, s.qy, s.qz, s.qw)

/-- The firmware's normalisation is this one. -/
theorem normalizeQuatXyzw_eq :
    let u := E2BoxImuFirmware.normalizeQuatXyzw sqrt s
    (u.qx, u.qy, u.qz, u.qw) = normalizedSample sqrt s := by
  by_cases hsmall : sqrt (normSq (s.qx, s.qy, s.qz, s.qw)) < 1e-12
  · have hfw : E2BoxImuFirmware.normalizeQuatXyzw sqrt s = { s with qx := 0, qy := 0, qz := 0, qw := 1 } :=
      if_pos hsmall
    rw [hfw, normalizedSample, safeNormalize, if_pos hsmall]
  · have hfw : E2BoxImuFirmware.normalizeQuatXyzw sqrt s = _ := if_neg hsmall
    rw [hfw, normalizedSample, safeNormalize, if_neg hsmall]
    rfl

end Normalized

/-- **IMU frames, there and back.** The firmware answers a request for everything with a quaternion and
a gyro frame, and the host decodes both. With normalisation in the firmware and a scale that fits a
word, each component of the quaternion is within half a count of the normalised sample; each rate, in
the sample's own axis order, is within half a count of its value clamped to the range of a word. -/
theorem imu_round_trip (host : E2BoxIMUProtocol ℝ) (fw : E2BoxImuFirmwareConfig ℝ)
    (h : MatchedImu host fw) (hoff : host.normalizeQuat = false) (request : CanFrame)
    (hrequest : IsGetAll fw request) (sample : ImuSample ℝ) (now : ℝ) :
    ∃ quatFrame gyroFrame quatState gyroState,
      E2BoxImuFirmware.onCanFrame Real.sqrt fw request sample = [quatFrame, gyroFrame] ∧
      host.decodeFrame Real.sqrt (simToHost quatFrame) now = .ok (some quatState) ∧
      host.decodeFrame Real.sqrt (simToHost gyroFrame) now = .ok (some gyroState) ∧
      (fw.normalizeQuat = true → fw.quatScale ≤ 32767 →
        ∃ x y z w, quatState.quatXyzw = some (x, y, z, w) ∧
          |x - (normalizedSample Real.sqrt sample).1| ≤ 1 / (2 * fw.quatScale) ∧
          |y - (normalizedSample Real.sqrt sample).2.1| ≤ 1 / (2 * fw.quatScale) ∧
          |z - (normalizedSample Real.sqrt sample).2.2.1| ≤ 1 / (2 * fw.quatScale) ∧
          |w - (normalizedSample Real.sqrt sample).2.2.2| ≤ 1 / (2 * fw.quatScale)) ∧
      ∃ gx gy gz, gyroState.angularVelocityRadS = some (gx, gy, gz) ∧
        |gx - clampValue sample.gx (radians (-32768.0 / fw.gyroScale))
            (radians (32767.0 / fw.gyroScale))| ≤ radians (0.5 / fw.gyroScale) ∧
        |gy - clampValue sample.gy (radians (-32768.0 / fw.gyroScale))
            (radians (32767.0 / fw.gyroScale))| ≤ radians (0.5 / fw.gyroScale) ∧
        |gz - clampValue sample.gz (radians (-32768.0 / fw.gyroScale))
            (radians (32767.0 / fw.gyroScale))| ≤ radians (0.5 / fw.gyroScale) := by
  obtain ⟨quatState, hquat, hvalue⟩ := decodeFrame_makeQuatFrame Real.sqrt h hoff sample now
  obtain ⟨gyroState, hgyro, hrates⟩ := decodeFrame_makeGyroFrame Real.sqrt h sample now
  refine ⟨_, _, quatState, gyroState, onCanFrame_getAll Real.sqrt hrequest sample, hquat, hgyro, ?_,
    _, _, _, hrates, abs_gyro_word_sub_le h.gyroScale_pos _, abs_gyro_word_sub_le h.gyroScale_pos _,
    abs_gyro_word_sub_le h.gyroScale_pos _⟩
  intro hon htop
  rw [if_pos hon] at hvalue
  have hunit := normalizeQuatXyzw_eq Real.sqrt sample
  have hvalue' := hvalue _ rfl
  generalize E2BoxImuFirmware.normalizeQuatXyzw Real.sqrt sample = u at hunit hvalue'
  have hnorm : normSq (normalizedSample Real.sqrt sample) = 1 :=
    normSq_safeNormalize isSquareRoot_real (by norm_num) _
  obtain ⟨hx, hy, hz, hw⟩ := abs_le_one_of_unit hnorm
  simp only [← hunit] at hx hy hz hw ⊢
  exact ⟨_, _, _, _, hvalue', abs_negated_quat_word_sub_le h.quatScale_pos htop hx,
    abs_quat_word_sub_le h.quatScale_pos htop hy, abs_quat_word_sub_le h.quatScale_pos htop hz,
    abs_quat_word_sub_le h.quatScale_pos htop hw⟩

/-- The configured IMU, turned about its y axis and spinning about z faster than a word can tell, asked
by its host. -/
theorem imu_round_trip_turned :
    ∃ f request quatFrame gyroFrame quatState gyroState,
      (⟨0x221, 0x2A1, 0x321, 1, 2, 3, 10000.0, 100.0, false⟩ : E2BoxIMUProtocol ℝ).encodeRequestAll =
        .ok f ∧
      hostToSim f = .ok request ∧
      E2BoxImuFirmware.onCanFrame Real.sqrt {} request ⟨0, 3, 0, 4, 1 / 2, -1, 9⟩ =
        [quatFrame, gyroFrame] ∧
      (⟨0x221, 0x2A1, 0x321, 1, 2, 3, 10000.0, 100.0, false⟩ : E2BoxIMUProtocol ℝ).decodeFrame Real.sqrt
        (simToHost quatFrame) 1 = .ok (some quatState) ∧
      (⟨0x221, 0x2A1, 0x321, 1, 2, 3, 10000.0, 100.0, false⟩ : E2BoxIMUProtocol ℝ).decodeFrame Real.sqrt
        (simToHost gyroFrame) 1 = .ok (some gyroState) ∧
      (∃ x y z w, quatState.quatXyzw = some (x, y, z, w) ∧ |y - 0.6| ≤ 1 / (2 * 10000.0) ∧
        |w - 0.8| ≤ 1 / (2 * 10000.0)) ∧
      ∃ gx gy gz, gyroState.angularVelocityRadS = some (gx, gy, gz) ∧
        |gx - 1 / 2| ≤ radians (0.5 / 100.0) ∧ |gz - radians (32767.0 / 100.0)| ≤ radians (0.5 / 100.0) := by
  have hasked : (⟨0x221, 0x2A1, 0x321, 1, 2, 3, 10000.0, 100.0, false⟩ :
      E2BoxIMUProtocol ℝ).encodeRequestAll = .ok ⟨0x221, [3]⟩ := rfl
  have hrequest : IsGetAll ({} : E2BoxImuFirmwareConfig ℝ) _ :=
    isGetAll_encodeRequestAll rfl (by decide) rfl (by decide) (by decide) hasked rfl
  have hunit : normalizedSample Real.sqrt ⟨0, 3, 0, 4, 1 / 2, -1, 9⟩ = (0, 0.6, 0, 0.8) := by
    have hroot : Real.sqrt (normSq (0, 3, 0, 4)) = 5 := by
      rw [show normSq ((0, 3, 0, 4) : ℝ × ℝ × ℝ × ℝ) = 5 ^ 2 by norm_num [normSq]]
      exact Real.sqrt_sq (by norm_num)
    rw [normalizedSample, safeNormalize, hroot, if_neg (by norm_num), unitize, hroot]
    norm_num
  obtain ⟨quatFrame, gyroFrame, quatState, gyroState, hanswer, hquat, hgyro, hvalue, gx, gy, gz, hrates,
      hgx, -, hgz⟩ :=
    imu_round_trip ⟨0x221, 0x2A1, 0x321, 1, 2, 3, 10000.0, 100.0, false⟩ {}
      ⟨rfl, rfl, by decide, rfl, rfl, by norm_num, by norm_num⟩ rfl _ hrequest
      ⟨0, 3, 0, 4, 1 / 2, -1, 9⟩ 1
  obtain ⟨x, y, z, w, hxyzw, -, hy, -, hw⟩ := hvalue rfl (by norm_num)
  rw [hunit] at hy hw
  have hinside : clampValue (1 / 2 : ℝ) (radians (-32768.0 / 100.0)) (radians (32767.0 / 100.0)) =
      1 / 2 := by
    norm_num [clampValue, radians, mathPi]
  have habove : clampValue (9 : ℝ) (radians (-32768.0 / 100.0)) (radians (32767.0 / 100.0)) =
      radians (32767.0 / 100.0) := by
    norm_num [clampValue, radians, mathPi]
  rw [hinside] at hgx
  rw [habove] at hgz
  exact ⟨_, _, quatFrame, gyroFrame, quatState, gyroState, hasked, rfl, hanswer, hquat, hgyro,
    ⟨x, y, z, w, hxyzw, hy, hw⟩, gx, gy, gz, hrates, hgx, hgz⟩

end SparqControl.Link
