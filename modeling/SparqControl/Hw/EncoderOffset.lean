/-
# SparqControl.Hw.EncoderOffset — writing the encoder offset that makes a position read as an angle.

`encode_set_current_position_as_rad_frame` computes the 14-bit offset that turns the raw reading into
the wanted angle, and the actuator echoes the payload back as its acknowledgement. The arithmetic is
MODULAR at both ends: the raw reading may have any high bits, the angle any sign and any number of
turns, and an angle just below a full turn rounds to 16384, which is count zero again.

The circle constant is a parameter: `Real.pi` in exact arithmetic, `mathPi` for the double.
-/
import SparqControl.Hw.DongilcProtocol
import Mathlib.Analysis.SpecialFunctions.Trigonometric.Basic

namespace SparqControl.Hw

open SparqControl.Hal
open SparqControl.Lib.Packed (Layout)
open SparqControl.Lib.Quantize

/-! ## Counts and angles -/

/-- `wrap_u14` on an unbounded integer: `x & 0x3FFF` is the residue modulo 2 ^ 14, of a negative `x`
too. -/
def wrapU14Int (x : ℤ) : ℤ := x % encMod

section Numeric

variable {K : Type} [Field K] [LinearOrder K]

/-- `u14_count_to_rad`. -/
def u14CountToRad (pi : K) (cnt : ℤ) : K := (wrapU14Int cnt : K) * (2.0 * pi / encMod)

variable [FloorRing K]

/-- `rad_to_u14_count`. The outer `%` takes the rounding that reaches `ENC_MOD` back to zero. -/
def radToU14Count (pi rad : K) : ℤ :=
  let radWrapped := floorMod rad (2.0 * pi)
  roundHalfAway (radWrapped / (2.0 * pi) * encMod) % encMod

end Numeric

namespace SPGActuatorProtocol

/-! ## The frames -/

section Frames

variable {K : Type} [Field K] [LinearOrder K]

/-- `encode_write_encoder_offset_frame`. `offset & 0xFF` of an unbounded integer is `UInt8.ofInt`. -/
def encodeWriteEncoderOffsetFrame (p : SPGActuatorProtocol K) (offsetU16 : ℤ) : CANFrame :=
  let offsetU16 := offsetU16 % 0x10000
  ⟨p.commandId,
    [cmdWriteEncoderOffset, 0, 0, 0, 0, 0, UInt8.ofInt offsetU16, UInt8.ofInt (offsetU16 >>> (8 : ℕ))]⟩

/-- `encode_set_current_position_as_rad_frame`. -/
def encodeSetCurrentPositionAsRadFrame [FloorRing K] (p : SPGActuatorProtocol K) (pi : K)
    (originalU16 : ℤ) (desiredRad : K) : CANFrame :=
  let originalCnt := wrapU14Int originalU16
  let desiredCnt := radToU14Count pi desiredRad
  let offsetCnt := (desiredCnt - originalCnt) % encMod
  p.encodeWriteEncoderOffsetFrame offsetCnt

/-- The `raw` dictionary of an acknowledgement. -/
structure AckRaw (K : Type) where
  cmd : UInt8
  offsetI16 : Option ℤ := none
  offsetDeg : Option K := none
  offsetRad : Option K := none
  encoderOffsetU16 : Option ℕ := none
  encoderOffsetRadMotor : Option K := none
  faultCodeAfterClear : Option ℤ := none

/-- The entries of `raw` that `_decode_ack_like_frame` fills in for each opcode. -/
def ackRaw (pi : K) (payload8 : List UInt8) : AckRaw K :=
  let cmd := payload8.getD 0 0
  if cmd = cmdMitSetZero then
    let offsetI16 := readI16 payload8 6
    let offsetDeg : K := (offsetI16 : K) * 0.01
    { cmd, offsetI16 := some offsetI16, offsetDeg := some offsetDeg
      offsetRad := some (offsetDeg * (pi / 180.0)) }
  else if cmd = cmdWriteCurrentPosAsZero ∨ cmd = cmdWriteEncoderOffset then
    let offsetU16 := readU16 payload8 6
    { cmd, encoderOffsetU16 := some offsetU16
      encoderOffsetRadMotor := some (u14CountToRad pi (offsetU16 : ℤ)) }
  else if cmd = cmdClearErrorFlag then
    { cmd, faultCodeAfterClear := some ((payload8.getD 1 0).toNat : ℤ) }
  else { cmd }

/-- `_decode_ack_like_frame` with its length check and the `raw` dictionary of the state. -/
def decodeAckLikeFrameRaw (pi : K) (payload8 : List UInt8) (now : K) :
    Except PyError (ActuatorState K AckMode × AckRaw K) :=
  if payload8.length ≠ 8 then .error (.valueError "SPG ACK payload must be 8 bytes")
  else .ok (decodeAckLikeFrame payload8 now, ackRaw pi payload8)

end Frames

/-! ## Sixteen bits in bytes 6 and 7 -/

section Bytes

variable {K : Type} [Field K] [LinearOrder K]

/-- A payload whose bytes 6 and 7 are the low and the high byte of a 16-bit number reads as it. -/
theorem readU16_split (b0 b1 b2 b3 b4 b5 : UInt8) {n : ℕ} (hn : n < 0x10000) :
    readU16 [b0, b1, b2, b3, b4, b5, UInt8.ofNat (n % 256), UInt8.ofNat (n / 256)] 6 = n := by
  have hlo : (UInt8.ofNat (n % 256)).toNat = n % 256 := by
    rw [UInt8.toNat_ofNat']
    omega
  have hhi : (UInt8.ofNat (n / 256)).toNat = n / 256 := by
    rw [UInt8.toNat_ofNat']
    omega
  show (UInt16.ofNat ((UInt8.ofNat (n % 256)).toNat +
    256 * ((UInt8.ofNat (n / 256)).toNat + 256 * 0))).toNat = n
  rw [hlo, hhi, UInt16.toNat_ofNat']
  omega

/-- A 16-bit offset stands little-endian in bytes 6 and 7. -/
theorem encodeWriteEncoderOffsetFrame_eq (p : SPGActuatorProtocol K) {n : ℕ} (hn : n < 0x10000) :
    p.encodeWriteEncoderOffsetFrame n = ⟨p.commandId,
      [0x91, 0, 0, 0, 0, 0, UInt8.ofNat (n % 256), UInt8.ofNat (n / 256)]⟩ := by
  have hmask : (n : ℤ) % 0x10000 = n := Int.emod_eq_of_lt (by omega) (by omega)
  have hlow : UInt8.ofInt (n : ℤ) = UInt8.ofNat (n % 256) := by
    apply UInt8.toNat_inj.mp
    rw [UInt8.ofInt, UInt8.toNat_ofNat', UInt8.toNat_ofNat']
    omega
  have hhigh : UInt8.ofInt ((n : ℤ) >>> (8 : ℕ)) = UInt8.ofNat (n / 256) := by
    have hshift : (n : ℤ) >>> (8 : ℕ) = ((n / 256 : ℕ) : ℤ) := by
      rw [Int.shiftRight_eq_div_pow]
      norm_num
    rw [hshift]
    apply UInt8.toNat_inj.mp
    rw [UInt8.ofInt, UInt8.toNat_ofNat', UInt8.toNat_ofNat']
    omega
  unfold encodeWriteEncoderOffsetFrame
  simp only [hmask, hlow, hhigh]
  rfl

omit [LinearOrder K] in
/-- Decoding a payload whose opcode is that of the offset write returns the number of its bytes 6
and 7. -/
theorem ackRaw_writeEncoderOffset (pi : K) {n : ℕ} (hn : n < 0x10000) :
    (ackRaw pi [0x91, 0, 0, 0, 0, 0, UInt8.ofNat (n % 256), UInt8.ofNat (n / 256)]).encoderOffsetU16 =
      some n := by
  have hread := readU16_split 0x91 0 0 0 0 0 hn
  have hcmd : ([0x91, 0, 0, 0, 0, 0, UInt8.ofNat (n % 256), UInt8.ofNat (n / 256)] : List UInt8).getD
      0 0 = 0x91 := rfl
  unfold ackRaw
  simp only [hcmd, hread]
  rw [if_neg (by decide), if_pos (by decide)]

/-- `decode_frame` hands a frame with the opcode of the offset write to the acknowledgement
decoder. -/
theorem decodeFrame_writeEncoderOffset (p : SPGActuatorProtocol K) (data : List UInt8)
    (hlen : data.length = 8) (hcmd : data.getD 0 0 = 0x91) (now : K) :
    p.decodeFrame ⟨p.feedbackId, data⟩ now = .ok (some (decodeAckLikeFrame data now)) := by
  unfold decodeFrame
  rw [if_neg (not_not.mpr rfl), if_neg (not_not.mpr hlen)]
  simp only [hcmd]
  rfl

end Bytes

/-! ## The offset -/

section Offset

variable {K : Type} [Field K] [LinearOrder K] [IsStrictOrderedRing K] [FloorRing K]

/-- The encoder as a dial of `ENC_MOD` counts. -/
def encoderDial (pi : K) (hpi : 0 < pi) : Dial K where
  turn := 2.0 * pi
  counts := encMod
  turn_pos := mul_pos (by norm_num) hpi
  counts_pos := by decide

theorem radToU14Count_eq (pi rad : K) (hpi : 0 < pi) :
    radToU14Count pi rad = (encoderDial pi hpi).encode rad := rfl

theorem u14CountToRad_eq (pi : K) (hpi : 0 < pi) (cnt : ℤ) :
    u14CountToRad pi cnt = (encoderDial pi hpi).decode cnt := rfl

/-- Adding the residue of a difference to the subtrahend gives the minuend, whatever the high bits
of the subtrahend. -/
theorem add_offset_emod (original desired : ℤ) (h0 : 0 ≤ desired) (h1 : desired < encMod) :
    (original + (desired - wrapU14Int original) % encMod) % encMod = desired := by
  unfold wrapU14Int
  have hmod : (encMod : ℤ) = 16384 := rfl
  rw [hmod] at h1 ⊢
  omega

/-- **The encoder offset is modular**, for any circle constant. The offset of the frame is a 14-bit
number, stands little-endian in bytes 6 and 7, takes the reading to the count of the angle, which is
within half a count of it up to whole turns, and comes back from the acknowledgement. -/
theorem encodeSetCurrentPosition_of_pos (p : SPGActuatorProtocol K) (pi : K) (hpi : 0 < pi)
    (originalU16 : ℤ) (desiredRad now : K) :
    ∃ o : ℕ, o < 16384 ∧
      p.encodeSetCurrentPositionAsRadFrame pi originalU16 desiredRad =
        ⟨p.commandId, [0x91, 0, 0, 0, 0, 0, UInt8.ofNat (o % 256), UInt8.ofNat (o / 256)]⟩ ∧
      (originalU16 + o) % 16384 = radToU14Count pi desiredRad ∧
      (∃ turns : ℤ, |u14CountToRad pi (originalU16 + o) - (desiredRad + 2.0 * pi * turns)| ≤
        2.0 * pi / 16384 / 2) ∧
      ∃ state raw,
        p.decodeFrame ⟨p.feedbackId,
          (p.encodeSetCurrentPositionAsRadFrame pi originalU16 desiredRad).data⟩ now =
            .ok (some state) ∧
        decodeAckLikeFrameRaw pi
          (p.encodeSetCurrentPositionAsRadFrame pi originalU16 desiredRad).data now =
            .ok (state, raw) ∧
        raw.encoderOffsetU16 = some o := by
  have hmod : (encMod : ℤ) = 16384 := rfl
  obtain ⟨hd0, hd1⟩ := (encoderDial pi hpi).encode_mem desiredRad
  rw [← radToU14Count_eq] at hd0 hd1
  set desired := radToU14Count pi desiredRad with hdesired
  set z : ℤ := (desired - wrapU14Int originalU16) % encMod with hz
  have hz0 : 0 ≤ z := Int.emod_nonneg _ (by decide)
  have hz1 : z < 16384 := Int.emod_lt_of_pos _ (by decide)
  obtain ⟨o, ho⟩ := Int.eq_ofNat_of_zero_le hz0
  have ho1 : o < 16384 := by omega
  have hframe : p.encodeSetCurrentPositionAsRadFrame pi originalU16 desiredRad =
      ⟨p.commandId, [0x91, 0, 0, 0, 0, 0, UInt8.ofNat (o % 256), UInt8.ofNat (o / 256)]⟩ := by
    have h := p.encodeWriteEncoderOffsetFrame_eq (n := o) (by omega)
    rw [← ho] at h
    exact h
  have hsum : (originalU16 + o) % 16384 = desired := by
    have h := add_offset_emod originalU16 desired hd0 hd1
    rw [← hz, ho, hmod] at h
    exact h
  refine ⟨o, ho1, hframe, hsum, ?_, ?_⟩
  · have h := (encoderDial pi hpi).abs_decode_sub_le (u := originalU16 + o) (x := desiredRad) hsum
    rw [← u14CountToRad_eq] at h
    exact h
  · rw [hframe]
    refine ⟨_, _, p.decodeFrame_writeEncoderOffset _ rfl rfl now, rfl, ?_⟩
    exact ackRaw_writeEncoderOffset pi (by omega)

/-- Less than half a count below a full turn: the rounding reaches 16384, which is count zero. -/
example : radToU14Count (355 / 113 : ℚ) (-1 / 10000) = 0 := by decide +kernel

end Offset

/-- **Writing an encoder offset, in exact real arithmetic.** For every raw reading and every angle,
the offset of the frame is below 16384 and little-endian in bytes 6 and 7, it takes the reading to the
count of the angle, the angle of that count is within half an encoder count of the wanted one modulo
full turns, and the actuator's acknowledgement with the same payload decodes to the same offset. -/
theorem encodeSetCurrentPositionAsRadFrame_spec (p : SPGActuatorProtocol ℝ) (originalU16 : ℤ)
    (desiredRad now : ℝ) :
    ∃ o : ℕ, o < 16384 ∧
      p.encodeSetCurrentPositionAsRadFrame Real.pi originalU16 desiredRad =
        ⟨p.commandId, [0x91, 0, 0, 0, 0, 0, UInt8.ofNat (o % 256), UInt8.ofNat (o / 256)]⟩ ∧
      (originalU16 + o) % 16384 = radToU14Count Real.pi desiredRad ∧
      (∃ turns : ℤ, |u14CountToRad Real.pi (originalU16 + o) - (desiredRad + 2 * Real.pi * turns)| ≤
        (2 * Real.pi / 16384) / 2) ∧
      ∃ state raw,
        p.decodeFrame ⟨p.feedbackId,
          (p.encodeSetCurrentPositionAsRadFrame Real.pi originalU16 desiredRad).data⟩ now =
            .ok (some state) ∧
        decodeAckLikeFrameRaw Real.pi
          (p.encodeSetCurrentPositionAsRadFrame Real.pi originalU16 desiredRad).data now =
            .ok (state, raw) ∧
        raw.encoderOffsetU16 = some o := by
  have htwo : (2.0 : ℝ) = 2 := by norm_num
  have h := p.encodeSetCurrentPosition_of_pos Real.pi Real.pi_pos originalU16 desiredRad now
  rw [htwo] at h
  exact h

end SPGActuatorProtocol

end SparqControl.Hw
