/-
# SparqControl.Link.StatusCodec — MIT status frames, firmware encoder against host decoder.

The way back of `Link.MitCodec`: `make_mit_status_frame` scales, rounds and saturates four signed
fields and splits them into bytes; `_decode_mit_status` puts them together under scales of its own.
Three fields are saturated as doubles and lose at most half a count at any sample. The temperature is
converted to `int` BEFORE it is clamped, so the top half count of the `int` range is out of reach
(`status_round_trip_iff`).
-/
import Mathlib.Tactic.NormNum.OfScientific
import SparqControl.Hw.DongilcProtocol
import SparqControl.Sim.SpgFirmware

namespace SparqControl.Link

open SparqControl.Hal SparqControl.Hw SparqControl.Sim
open SparqControl.Lib.Packed (Layout)
open SparqControl.Lib.Quantize

/-! ## The byte level -/

/-- What the host makes of the eight bytes the firmware sends. -/
theorem simToHost_makeFrame (id : UInt32) (b0 b1 b2 b3 b4 b5 b6 b7 : UInt8) :
    simToHost (makeFrame id #v[b0, b1, b2, b3, b4, b5, b6, b7]) =
      ⟨((id &&& 0x7FF).toNat : ℤ), [b0, b1, b2, b3, b4, b5, b6, b7]⟩ := by
  have hmask : id &&& 0x7FF &&& 0x7FF = id &&& 0x7FF := by
    rw [UInt32.and_assoc]
    rfl
  simp only [simToHost, socketRecvFrame, toLinuxCanFrame, makeFrame, hmask]
  rfl

/-- `write_i16_le` writes the bytes `struct` reads as a signed little-endian word. -/
theorem ofBytes_i16 (x : Int16) (rest : List UInt8) :
    Layout.int16.ofBytes (x.toUInt16.toUInt8 :: (x.toUInt16 >>> 8).toUInt8 :: rest) = x := by
  have hbytes : x.toUInt16.toUInt8 :: (x.toUInt16 >>> 8).toUInt8 :: rest =
      Layout.int16.toBytes x ++ rest := by
    show _ = UInt8.ofNat x.toUInt16.toNat :: UInt8.ofNat (x.toUInt16.toNat / 256) :: rest
    refine List.cons_eq_cons.mpr ⟨?_, List.cons_eq_cons.mpr ⟨?_, rfl⟩⟩
    · apply UInt8.toNat_inj.mp
      rw [UInt16.toNat_toUInt8, UInt8.toNat_ofNat']
    · apply UInt8.toNat_inj.mp
      rw [UInt16.toNat_toUInt8, UInt8.toNat_ofNat', UInt16.toNat_shiftRight]
      simp [Nat.shiftRight_eq_div_pow]
  rw [hbytes, Layout.ofBytes_toBytes_append]

/-- A byte that holds an `int8_t` reads back as one. -/
theorem toInt8_ofInt {t : ℤ} (hlo : -128 ≤ t) (hhi : t ≤ 127) : (UInt8.ofInt t).toInt8.toInt = t := by
  have hnat : (UInt8.ofInt t).toNat = (t % 256).toNat := by
    rw [UInt8.ofInt, UInt8.toNat_ofNat']
    omega
  show (UInt8.ofInt t).toBitVec.toInt = t
  rw [BitVec.toInt_eq_toNat_bmod, UInt8.toNat_toBitVec, hnat, Int.bmod_def]
  omega

/-! ## The four fields -/

section Fields

variable {K : Type} [Field K] [LinearOrder K] [IsStrictOrderedRing K] [FloorRing K]

omit [FloorRing K] in
theorem mathPi_pos : (0 : K) < mathPi := by
  unfold mathPi
  positivity

/-- **Saturation.** The word is within half a count of the value clamped to its range. -/
theorem abs_saturateToI16_sub_le (x : K) :
    |((saturateToI16 x).toInt : K) - clampValue x (-32768.0) 32767.0| ≤ 1 / 2 := by
  have hbound := abs_clamp_roundHalfAway_sub_le x (-32768) 32767
  have hword : (saturateToI16 x).toInt = max (-32768) (min (roundHalfAway x) 32767) :=
    Int16.toInt_ofInt_of_le (by omega) (by omega)
  rw [hword, clampValue]
  have hlo : ((-32768 : ℤ) : K) = -32768.0 := by norm_num
  have hhi : ((32767 : ℤ) : K) = 32767.0 := by norm_num
  rwa [hlo, hhi] at hbound

/-- A value of the range is not clamped. -/
theorem abs_saturateToI16_sub_le_of_mem {x : K} (hx : |x| ≤ 32767.0) :
    |((saturateToI16 x).toInt : K) - x| ≤ 1 / 2 := by
  have hbound := abs_saturateToI16_sub_le x
  obtain ⟨hlo, hhi⟩ := abs_le.mp hx
  have hlo' : (-32768.0 : K) ≤ x := by
    refine le_trans ?_ hlo
    norm_num
  rwa [clampValue, min_eq_left hhi, max_eq_right hlo'] at hbound

omit [FloorRing K] in
/-- Scaling a count and its clamped value by the same factor. -/
theorem abs_mul_sub_mul_le {count value : K} (h : |count - value| ≤ 1 / 2) (scale : K) :
    |count * scale - value * scale| ≤ |scale| / 2 := by
  rw [← sub_mul, abs_mul]
  calc |count - value| * |scale| ≤ 1 / 2 * |scale| := by gcongr
    _ = |scale| / 2 := by ring

omit [FloorRing K] in
/-- Clamping in counts and clamping in units agree. -/
theorem clampValue_mul {scale : K} (h : 0 ≤ scale) (x lo hi : K) :
    clampValue x lo hi * scale = clampValue (x * scale) (lo * scale) (hi * scale) := by
  rw [clampValue, clampValue, max_mul_of_nonneg _ _ h, min_mul_of_nonneg _ _ h]

/-- The speed field: whole degrees per second, read back in radians. -/
theorem abs_speed_sub_le (v : K) :
    |radians ((saturateToI16 (v * (180.0 / mathPi))).toInt : K) -
      clampValue v (radians (-32768.0)) (radians 32767.0)| ≤ radians 0.5 := by
  have hpi : (mathPi : K) ≠ 0 := mathPi_pos.ne'
  have hscale : (0 : K) < mathPi / 180.0 := div_pos mathPi_pos (by norm_num)
  have hback : v * (180.0 / mathPi) * (mathPi / 180.0) = v := by
    field_simp
  have hbound := abs_mul_sub_mul_le (abs_saturateToI16_sub_le (v * (180.0 / mathPi)))
    (mathPi / 180.0)
  rw [clampValue_mul hscale.le, hback, abs_of_pos hscale] at hbound
  refine le_trans hbound (le_of_eq ?_)
  rw [radians]
  norm_num
  ring

omit [FloorRing K] in
theorem abs_clampValue_le {a : K} (ha : 0 ≤ a) (q : K) : |clampValue q (-a) a| ≤ a := by
  rw [clampValue, abs_le]
  exact ⟨le_max_left _ _, max_le (by linarith) (min_le_right _ _)⟩

/-- The position field: clamped to the feedback range, one part in 32767 of it. -/
theorem abs_position_sub_le {a : K} (ha : 0 < a) (q : K) :
    |((saturateToI16 (clampValue q (-a) a / a * 32767.0)).toInt : K) / 32767.0 * a -
      clampValue q (-a) a| ≤ a / (2.0 * 32767.0) := by
  have hn : (0 : K) < 32767.0 := by norm_num
  have hrange := abs_clampValue_le ha.le q
  have hbound := abs_saturateToI16_sub_le_of_mem (x := clampValue q (-a) a / a * 32767.0)
  generalize (32767.0 : K) = n at hn hbound ⊢
  generalize clampValue q (-a) a = p at hrange hbound ⊢
  have hmem : |p / a * n| ≤ n := by
    rw [abs_mul, abs_div, abs_of_pos ha, abs_of_pos hn]
    exact mul_le_of_le_one_left hn.le ((div_le_one ha).mpr hrange)
  have hscaled := abs_mul_sub_mul_le (hbound hmem) (a / n)
  have hback : p / a * n * (a / n) = p := by field_simp
  rw [hback, abs_of_pos (div_pos ha hn)] at hscaled
  rw [div_mul_eq_mul_div, mul_div_assoc]
  refine le_trans hscaled (le_of_eq ?_)
  have htwo : (2.0 : K) = 2 := by norm_num
  rw [htwo, div_div, mul_comm n]

/-- The temperature field holds the clamped rounding exactly when the rounding is an `int`. -/
theorem castInt_clamp_iff {x : K} (hx : |x| < 2147483648) :
    max (-128) (min (castInt (roundHalfAway x)) 127) = max (-128) (min (roundHalfAway x) 127) ↔
      x < 2147483648 - 1 / 2 := by
  have hlo : -2147483648 ≤ roundHalfAway x := by
    apply le_roundHalfAway
    push_cast
    exact (abs_lt.mp hx).1.le
  unfold castInt
  constructor
  · intro h
    by_contra hge
    have hbig : 2147483647 < roundHalfAway x := by
      apply lt_roundHalfAway (by omega)
      push_cast
      linarith [not_lt.mp hge]
    rw [if_neg (by omega)] at h
    omega
  · intro h
    have hle : roundHalfAway x ≤ 2147483647 := by
      apply roundHalfAway_le_of_lt
      push_cast
      linarith
    rw [if_pos ⟨hlo, hle⟩]

end Fields

/-! ## The status of a sample -/

/-- Host and firmware of one actuator agree on its scales, and the host shows positions. -/
structure StatusLink {K : Type} [Field K] [LinearOrder K] (host : SPGActuatorProtocol K)
    (fw : SPGFirmware K) (iqFullScaleCurrent : K) : Prop where
  feedback_id : host.feedbackId = ((fw.canId &&& 0x7FF).toNat : ℤ)
  position_eq : host.mitConfig.feedbackPositionMax = fw.config.feedbackPositionMaxRad
  position_pos : 0 < fw.config.feedbackPositionMaxRad
  tau_eq : host.mitConfig.tauMax = fw.config.tauMaxNm
  tau_pos : 0 < fw.config.tauMaxNm
  iq_pos : 0 < fw.config.iqFullScaleCount
  scale_eq : host.iqCountToAmp = some (iqFullScaleCurrent / fw.config.iqFullScaleCount)
  gear_eq : host.gearRatio = 1
  exposed : host.exposeSingleTurnPosition = true

section Status

variable {K : Type} [Field K] [LinearOrder K] [FloorRing K]

/-- What the host has to know about a sample: position and speed to half a count of their fields
after clamping, the current to half a count of the clamped torque, the clamped rounded temperature. -/
structure StatusKnown (fw : SPGFirmware K) (iqFullScaleCurrent : K)
    (sample : ActuatorFeedbackSample K) (state : ActuatorState K AckMode) : Prop where
  position : ∃ q, state.positionRad = some q ∧
    |q - clampValue (fw.positionPhysicalToMitRad sample.positionRad)
        (-fw.config.feedbackPositionMaxRad) fw.config.feedbackPositionMaxRad| ≤
      fw.config.feedbackPositionMaxRad / (2.0 * 32767.0)
  velocity : ∃ v, state.velocityRadS = some v ∧
    |v - clampValue sample.velocityRadS (radians (-32768.0)) (radians 32767.0)| ≤ radians 0.5
  current : ∃ i, state.currentA = some i ∧
    |i - clampValue (sample.torqueNm / fw.config.tauMaxNm * fw.config.iqFullScaleCount) (-32768.0)
          32767.0 * (iqFullScaleCurrent / fw.config.iqFullScaleCount)| ≤
      |iqFullScaleCurrent / fw.config.iqFullScaleCount| / 2.0
  temperature : state.temperatureC =
    some ((max (-128) (min (roundHalfAway sample.temperatureC) 127) : ℤ) : K)

/-- The firmware's status frame of a sample, decoded by the host, tells all of it. -/
def StatusRoundTrip (host : SPGActuatorProtocol K) (fw : SPGFirmware K) (iqFullScaleCurrent : K)
    (sample : ActuatorFeedbackSample K) (now : K) : Prop :=
  ∃ state, host.decodeFrame (simToHost (fw.makeMitStatusFrame sample)) now = .ok (some state) ∧
    StatusKnown fw iqFullScaleCurrent sample state

/-- What the host decodes from the firmware's status frame. -/
theorem decodeFrame_makeMitStatusFrame {host : SPGActuatorProtocol K} {fw : SPGFirmware K}
    (hid : host.feedbackId = ((fw.canId &&& 0x7FF).toNat : ℤ)) (sample : ActuatorFeedbackSample K)
    (now : K) :
    ∃ state, host.decodeFrame (simToHost (fw.makeMitStatusFrame sample)) now = .ok (some state) ∧
      state.positionRad =
        (if host.exposeSingleTurnPosition then
          some (((saturateToI16 (clampValue (fw.positionPhysicalToMitRad sample.positionRad)
            (-fw.config.feedbackPositionMaxRad) fw.config.feedbackPositionMaxRad /
              fw.config.feedbackPositionMaxRad * 32767.0)).toInt : K) / 32767.0 *
            host.mitConfig.feedbackPositionMax)
        else none) ∧
      state.velocityRadS =
        some (if host.feedbackSpeedIsMotorSide then
          radians ((saturateToI16 (sample.velocityRadS * (180.0 / mathPi))).toInt : K) /
            host.gearRatio
        else radians ((saturateToI16 (sample.velocityRadS * (180.0 / mathPi))).toInt : K)) ∧
      state.currentA = host.iqCountToAmp.map (fun scale =>
        ((saturateToI16 (sample.torqueNm / fw.config.tauMaxNm *
          fw.config.iqFullScaleCount)).toInt : K) * scale) ∧
      state.temperatureC =
        some ((max (-128) (min (castInt (roundHalfAway sample.temperatureC)) 127) : ℤ) : K) := by
  have htemp := toInt8_ofInt
    (t := max (-128) (min (castInt (roundHalfAway sample.temperatureC)) 127))
    (by omega) (by omega)
  refine ⟨host.decodeMitStatus (simToHost (fw.makeMitStatusFrame sample)).data now, ?_, ?_⟩
  · rw [SPGFirmware.makeMitStatusFrame, simToHost_makeFrame, SPGActuatorProtocol.decodeFrame,
      if_neg (by simp [hid]), if_neg (by simp)]
    exact if_pos rfl
  · rw [SPGFirmware.makeMitStatusFrame, simToHost_makeFrame]
    simp only [SPGActuatorProtocol.decodeMitStatus, SPGActuatorProtocol.readI16,
      SPGActuatorProtocol.readTempC, List.drop_succ_cons, List.drop_zero, ofBytes_i16,
      List.getD_cons_succ, List.getD_cons_zero, htemp, and_self]

variable [IsStrictOrderedRing K]

/-- **Status round trip.** For every sample whose temperature is below 2^31 in magnitude, the host
learns all four fields exactly when the temperature does not round up to 2^31. -/
theorem status_round_trip_iff {host : SPGActuatorProtocol K} {fw : SPGFirmware K}
    {iqFullScaleCurrent : K} (h : StatusLink host fw iqFullScaleCurrent)
    (sample : ActuatorFeedbackSample K) (htemp : |sample.temperatureC| < 2147483648) (now : K) :
    StatusRoundTrip host fw iqFullScaleCurrent sample now ↔
      sample.temperatureC < 2147483648 - 1 / 2 := by
  obtain ⟨state, hdecode, hpos, hvel, hcur, htmp⟩ :=
    decodeFrame_makeMitStatusFrame h.feedback_id sample now
  constructor
  · rintro ⟨state', hdecode', hknown⟩
    rw [hdecode] at hdecode'
    obtain rfl : state = state' := Option.some.inj (Except.ok.inj hdecode')
    have heq := htmp.symm.trans hknown.temperature
    exact (castInt_clamp_iff htemp).mp (Int.cast_injective (Option.some.inj heq))
  · intro hlt
    rw [if_pos h.exposed, h.position_eq] at hpos
    rw [h.gear_eq, div_one, ite_self] at hvel
    rw [h.scale_eq, Option.map_some] at hcur
    refine ⟨state, hdecode, ⟨_, hpos, ?_⟩, ⟨_, hvel, ?_⟩, ⟨_, hcur, ?_⟩, ?_⟩
    · exact abs_position_sub_le h.position_pos _
    · exact abs_speed_sub_le sample.velocityRadS
    · refine le_trans (abs_mul_sub_mul_le (abs_saturateToI16_sub_le _) _) (le_of_eq ?_)
      norm_num
    · rw [htmp, (castInt_clamp_iff htemp).mpr hlt]

end Status

/-- A motor of the robot: command and feedback at id 0x101. -/
private def statusHost : SPGActuatorProtocol ℚ where
  commandId := 0x101
  feedbackId := 0x101
  mitConfig := {}
  gearRatio := 1
  feedbackSpeedIsMotorSide := false
  exposeSingleTurnPosition := true
  iqCountToAmp := some (33 / 2048)
  torqueConstantNmPerA := none
  gearEfficiency := 1
  gearRatio_pos := by norm_num

/-- Its simulated firmware, with the reference moved by a set-zero. -/
private def statusFirmware : SPGFirmware ℚ :=
  { canId := 0x101, config := {}, mitZeroReferenceRad := 1 / 4 }

private theorem statusLink : StatusLink statusHost statusFirmware 33 := by
  refine ⟨rfl, ?_, ?_, ?_, ?_, ?_, ?_, rfl, rfl⟩ <;> norm_num [statusHost, statusFirmware]

/-- A moving warm joint whose position and torque are out of their fields' ranges. -/
theorem status_round_trip_warm :
    StatusRoundTrip statusHost statusFirmware 33 ⟨20, -3, 600, 61 / 2⟩ 0 :=
  (status_round_trip_iff statusLink ⟨20, -3, 600, 61 / 2⟩ (by norm_num [abs_lt]) 0).mpr
    (by norm_num)

/-- **The cast comes before the clamp.** A temperature that rounds to 2^31 is reported as -128. -/
theorem hot_status_reads_cold :
    |(4294967295 / 2 : ℚ)| < 2147483648 ∧
      ¬ StatusRoundTrip statusHost statusFirmware 33 ⟨0, 0, 0, 4294967295 / 2⟩ 0 := by
  have hhot : |(4294967295 / 2 : ℚ)| < 2147483648 := by norm_num [abs_lt]
  refine ⟨hhot, ?_⟩
  rintro ⟨state, hdecode, hknown⟩
  obtain ⟨state', hdecode', -, -, -, htmp⟩ :=
    decodeFrame_makeMitStatusFrame statusLink.feedback_id ⟨0, 0, 0, 4294967295 / 2⟩ 0
  rw [hdecode] at hdecode'
  obtain rfl : state = state' := Option.some.inj (Except.ok.inj hdecode')
  have heq := htmp.symm.trans hknown.temperature
  have hlt := (castInt_clamp_iff hhot).mp (Int.cast_injective (Option.some.inj heq))
  norm_num at hlt

end SparqControl.Link
