/-
# SparqControl.Link.MitCodec — MIT control frames, host encoder against firmware decoder.

Two independent programs share one 56-bit layout: `packMitPayload` writes it, `mitCodes` cuts it
apart. The bit level is settled first, with no arithmetic on values: the firmware reads back exactly
the five codes the host wrote, and every byte string that starts with the control opcode is written
by exactly one tuple of codes. On top of it each field is one uniform quantiser
(`Lib.Quantize.Grid`), so both round trips of the library apply field by field.
-/
import Mathlib.Tactic.IntervalCases
import Mathlib.Tactic.NormNum.OfScientific
import SparqControl.Hw.DongilcProtocol
import SparqControl.Sim.SpgFirmware

namespace SparqControl.Link

open SparqControl.Hal SparqControl.Hw SparqControl.Sim
open SparqControl.Hw.SPGActuatorProtocol
open SparqControl.Lib.Quantize
open SparqControl.Lib.Packed (shiftLeft_or toNat_word16)

/-! ## The bit level -/

theorem ofInt_natCast (n : ℕ) : UInt8.ofInt (n : ℤ) = UInt8.ofNat n := by
  apply UInt8.toNat_inj.mp
  rw [UInt8.ofInt, UInt8.toNat_ofNat', UInt8.toNat_ofNat']
  have : ((n : ℤ) % 2 ^ 8).toNat = n % 2 ^ 8 := by norm_cast
  rw [this, Nat.mod_mod]

theorem shiftRight_natCast (n k : ℕ) : (n : ℤ) >>> k = ((n >>> k : ℕ) : ℤ) := rfl

theorem and_0F (n : ℕ) : n &&& 15 = n % 16 := Nat.and_two_pow_sub_one_eq_mod n 4

/-- The two nibbles of byte 4. -/
theorem toNat_nibbles (a b : UInt8) :
    (((a &&& 0x0F) <<< 4) ||| (b &&& 0x0F)).toNat = a.toNat % 16 * 16 + b.toNat % 16 := by
  have h0F : (0x0F : UInt8).toNat = 15 := rfl
  have h4 : (4 : UInt8).toNat % 8 = 4 := rfl
  rw [UInt8.toNat_or, UInt8.toNat_shiftLeft, UInt8.toNat_and, UInt8.toNat_and, h0F, h4, and_0F,
    and_0F, Nat.mod_eq_of_lt (by rw [Nat.shiftLeft_eq]; omega)]
  exact shiftLeft_or _ 4 (by omega)

theorem toNat_velocity (a b : UInt8) :
    ((a.toUInt16 <<< 4) ||| ((b >>> 4) &&& 0x0F).toUInt16).toNat = a.toNat * 16 + b.toNat / 16 := by
  have ha := a.toNat_lt
  have hb := b.toNat_lt
  have h4 : (4 : UInt16).toNat % 16 = 4 := rfl
  have h4' : (4 : UInt8).toNat % 8 = 4 := rfl
  have h0F : (0x0F : UInt8).toNat = 15 := rfl
  rw [UInt16.toNat_or, UInt16.toNat_shiftLeft, UInt8.toNat_toUInt16, UInt8.toNat_toUInt16,
    UInt8.toNat_and, UInt8.toNat_shiftRight, h4, h4', h0F, and_0F, Nat.shiftRight_eq_div_pow,
    Nat.mod_eq_of_lt (by rw [Nat.shiftLeft_eq]; omega), Nat.mod_eq_of_lt (by omega)]
  exact shiftLeft_or _ 4 (by omega)

theorem toNat_gain (a b : UInt8) :
    (((a &&& 0x0F).toUInt16 <<< 8) ||| b.toUInt16).toNat = a.toNat % 16 * 256 + b.toNat := by
  have h0F : (0x0F : UInt8).toNat = 15 := rfl
  rw [toNat_word16, UInt8.toNat_and, h0F, and_0F]

/-- Eight bytes, byte by byte. -/
theorem exists_bytes (d : Vector UInt8 8) :
    ∃ b0 b1 b2 b3 b4 b5 b6 b7, d = #v[b0, b1, b2, b3, b4, b5, b6, b7] := by
  refine ⟨d[0], d[1], d[2], d[3], d[4], d[5], d[6], d[7], Vector.ext fun i hi => ?_⟩
  interval_cases i <;> rfl

/-- The codes the firmware cuts out of eight bytes, as arithmetic on the bytes. -/
theorem mitCodes_toNat (b0 b1 b2 b3 b4 b5 b6 b7 : UInt8) :
    let codes := SPGFirmware.mitCodes #v[b0, b1, b2, b3, b4, b5, b6, b7]
    codes.1.toNat = b1.toNat * 256 + b2.toNat ∧
    codes.2.1.toNat = b3.toNat * 16 + b4.toNat / 16 ∧
    codes.2.2.1.toNat = b4.toNat % 16 * 256 + b5.toNat ∧
    codes.2.2.2.1.toNat = b6.toNat ∧ codes.2.2.2.2.toNat = b7.toNat :=
  ⟨toNat_word16 _ _, toNat_velocity _ _, toNat_gain _ _, rfl, rfl⟩

/-- The host's bytes for codes given as naturals. -/
theorem mitControlBytes_natCast (p v kp kd t : ℕ) :
    mitControlBytes p v kp kd t =
      [cmdMitControl, UInt8.ofNat (p >>> 8), UInt8.ofNat p, UInt8.ofNat (v >>> 4),
        ((UInt8.ofNat v &&& 0x0F) <<< 4) ||| (UInt8.ofNat (kp >>> 8) &&& 0x0F),
        UInt8.ofNat kp, UInt8.ofNat kd, UInt8.ofNat t] := by
  simp only [mitControlBytes, shiftRight_natCast, ofInt_natCast]

/-- **No leakage**: the firmware reads back exactly the five codes the host wrote. -/
theorem mitCodes_mitControlBytes {p v kp kd t : ℕ} (hp : p < 2 ^ 16) (hv : v < 2 ^ 12)
    (hkp : kp < 2 ^ 12) (hkd : kd < 2 ^ 8) (ht : t < 2 ^ 8) {d : Vector UInt8 8}
    (hd : d = ljust8 (mitControlBytes p v kp kd t)) :
    (SPGFirmware.mitCodes d).1.toNat = p ∧ (SPGFirmware.mitCodes d).2.1.toNat = v ∧
      (SPGFirmware.mitCodes d).2.2.1.toNat = kp ∧ (SPGFirmware.mitCodes d).2.2.2.1.toNat = kd ∧
      (SPGFirmware.mitCodes d).2.2.2.2.toNat = t := by
  rw [mitControlBytes_natCast] at hd
  obtain ⟨h1, h2, h3, h4, h5⟩ := mitCodes_toNat cmdMitControl (UInt8.ofNat (p >>> 8)) (UInt8.ofNat p)
    (UInt8.ofNat (v >>> 4))
    (((UInt8.ofNat v &&& 0x0F) <<< 4) ||| (UInt8.ofNat (kp >>> 8) &&& 0x0F)) (UInt8.ofNat kp)
    (UInt8.ofNat kd) (UInt8.ofNat t)
  subst hd
  rw [ljust8_eight, h1, h2, h3, h4, h5]
  -- what is left is division and remainder by powers of two
  simp only [toNat_nibbles, UInt8.toNat_ofNat', Nat.shiftRight_eq_div_pow]
  omega

/-- The two 12-bit codes fit in twelve bits. -/
theorem mitCodes_lt (d : Vector UInt8 8) :
    (SPGFirmware.mitCodes d).2.1.toNat < 2 ^ 12 ∧ (SPGFirmware.mitCodes d).2.2.1.toNat < 2 ^ 12 := by
  obtain ⟨b0, b1, b2, b3, b4, b5, b6, b7, rfl⟩ := exists_bytes d
  obtain ⟨-, h2, h3, -, -⟩ := mitCodes_toNat b0 b1 b2 b3 b4 b5 b6 b7
  have l3 := b3.toNat_lt
  have l4 := b4.toNat_lt
  have l5 := b5.toNat_lt
  rw [h2, h3]
  omega

/-- Every payload that starts with the control opcode is written by the codes cut out of it. -/
theorem mitControlBytes_mitCodes {d : Vector UInt8 8}
    (h0 : d.toList.head? = some cmdMitControl) :
    mitControlBytes (SPGFirmware.mitCodes d).1.toNat (SPGFirmware.mitCodes d).2.1.toNat
      (SPGFirmware.mitCodes d).2.2.1.toNat (SPGFirmware.mitCodes d).2.2.2.1.toNat
      (SPGFirmware.mitCodes d).2.2.2.2.toNat = d.toList := by
  obtain ⟨b0, b1, b2, b3, b4, b5, b6, b7, rfl⟩ := exists_bytes d
  obtain ⟨h1, h2, h3, h4, h5⟩ := mitCodes_toNat b0 b1 b2 b3 b4 b5 b6 b7
  have hb0 : b0 = cmdMitControl := Option.some.inj h0
  have hlist : #v[b0, b1, b2, b3, b4, b5, b6, b7].toList = [b0, b1, b2, b3, b4, b5, b6, b7] := rfl
  rw [mitControlBytes_natCast, h1, h2, h3, h4, h5, hlist, hb0]
  have l1 := b1.toNat_lt
  have l2 := b2.toNat_lt
  have l3 := b3.toNat_lt
  have l4 := b4.toNat_lt
  have l5 := b5.toNat_lt
  simp only [List.cons.injEq, true_and, and_true]
  refine ⟨?_, ?_, ?_, ?_, ?_, UInt8.ofNat_toNat, UInt8.ofNat_toNat⟩ <;>
    apply UInt8.toNat_inj.mp <;>
    simp only [toNat_nibbles, UInt8.toNat_ofNat', Nat.shiftRight_eq_div_pow] <;>
    omega

/-! ## One field -/

section Field

variable {K : Type} [Field K] [LinearOrder K] [IsStrictOrderedRing K] [FloorRing K]

theorem levels_pos {bits : ℕ} (hb : 0 < bits) : 0 < (1 <<< bits) - 1 := by
  rw [Nat.shiftLeft_eq, Nat.one_mul]
  have := Nat.one_lt_two_pow hb.ne'
  omega

/-- The quantiser of a field with range `[lo, hi]` and `bits` bits. -/
def fieldGrid (lo hi : K) (bits : ℕ) (h : lo < hi) (hb : 0 < bits) : Grid K :=
  Grid.between lo hi ((1 <<< bits) - 1) h (levels_pos hb)

/-- `float_to_uint` on a non-empty range: it accepts exactly the finite values of the range, and
returns the code of the nearest grid point. -/
theorem floatToUint_eq_ok_iff {x : PyFloat K} {lo hi : K} {bits : ℕ} {u : ℤ} (h : lo < hi)
    (hb : 0 < bits) :
    floatToUint x lo hi bits = .ok u ↔
      ∃ y, x = .fin y ∧ lo ≤ y ∧ y ≤ hi ∧ u = (fieldGrid lo hi bits h hb).encode y := by
  have hspan : hi - lo ≠ 0 := (sub_pos.mpr h).ne'
  unfold floatToUint
  cases hr : requireRange x lo hi "MIT field" with
  | error e =>
      constructor
      · intro hu
        cases hu
      · rintro ⟨y, rfl, hlo, hhi, -⟩
        have hok : requireRange (.fin y) lo hi "MIT field" = .ok () :=
          requireRange_eq_ok_iff.mpr (Or.inr ⟨y, rfl, hlo, hhi⟩)
        rw [hr] at hok
        cases hok
  | ok r =>
      rcases requireRange_eq_ok_iff.mp hr with rfl | ⟨y, rfl, hlo, hhi⟩
      · -- NaN passes the range check and is stopped by the conversion to an integer
        simp [PyFloat.subFin, PyFloat.mulFin, PyFloat.divFin, hspan, bind, Except.bind,
          PyFloat.roundHalfAwayFromZero]
      · simp only [PyFloat.subFin, PyFloat.mulFin, PyFloat.divFin, hspan, bind, Except.bind,
          if_false, PyFloat.roundHalfAwayFromZero_fin, Except.ok.injEq, PyFloat.fin.injEq]
        constructor
        · rintro rfl
          exact ⟨y, rfl, hlo, hhi, rfl⟩
        · rintro ⟨z, rfl, -, -, rfl⟩
          rfl

omit [FloorRing K] in
theorem fieldGrid_levels {lo hi : K} {bits : ℕ} (h : lo < hi) (hb : 0 < bits) :
    (fieldGrid lo hi bits h hb).levels = 2 ^ bits - 1 := by
  simp [fieldGrid, Grid.between, Nat.shiftLeft_eq]

omit [FloorRing K] in
theorem fieldGrid_top {lo hi : K} {bits : ℕ} (h : lo < hi) (hb : 0 < bits) :
    (fieldGrid lo hi bits h hb).lo + (fieldGrid lo hi bits h hb).span = hi := by
  simp [fieldGrid, Grid.between]

/-- The code of an accepted value fits in its bits. -/
theorem fieldGrid_encode_lt {lo hi y : K} {bits : ℕ} (h : lo < hi) (hb : 0 < bits) (hlo : lo ≤ y)
    (hhi : y ≤ hi) :
    ∃ n : ℕ, (fieldGrid lo hi bits h hb).encode y = n ∧ n < 2 ^ bits := by
  obtain ⟨h0, h1⟩ := (fieldGrid lo hi bits h hb).encode_mem (x := y) hlo
    (hhi.trans_eq (fieldGrid_top h hb).symm)
  obtain ⟨n, hn⟩ := Int.eq_ofNat_of_zero_le h0
  refine ⟨n, hn, ?_⟩
  rw [hn, fieldGrid_levels] at h1
  have := Nat.one_le_two_pow (n := bits)
  omega

omit [FloorRing K] in
/-- The firmware's scaling is the decoder of the same grid. -/
theorem uintToFloat_eq_decode {lo hi : K} {bits : ℕ} (h : lo < hi) (hb : 0 < bits) (n : ℕ) :
    SPGFirmware.uintToFloat n lo hi bits = (fieldGrid lo hi bits h hb).decode n := by
  simp [SPGFirmware.uintToFloat, fieldGrid, Grid.between, Grid.decode]

/-- One field, value → code → value: at most half a quantisation step is lost. -/
theorem abs_uintToFloat_encode_sub_le {lo hi : K} {bits n : ℕ} (h : lo < hi) (hb : 0 < bits) (y : K)
    (hn : (fieldGrid lo hi bits h hb).encode y = n) :
    |SPGFirmware.uintToFloat n lo hi bits - y| ≤ (hi - lo) / (2 * (2 ^ bits - 1)) := by
  have hlev : (((fieldGrid lo hi bits h hb).levels : ℕ) : K) = 2 ^ bits - 1 := by
    rw [fieldGrid_levels, Nat.cast_sub Nat.one_le_two_pow]
    push_cast
    rfl
  have key := (fieldGrid lo hi bits h hb).abs_decode_encode_sub_le y
  rw [hn, hlev] at key
  rw [uintToFloat_eq_decode h hb]
  exact key

/-- One field, code → value → code: the host re-encodes a decoded value to the same code. -/
theorem floatToUint_uintToFloat {lo hi : K} {bits n : ℕ} (h : lo < hi) (hb : 0 < bits)
    (hn : n < 2 ^ bits) :
    floatToUint (.fin (SPGFirmware.uintToFloat n lo hi bits)) lo hi bits = .ok n := by
  have hlev := fieldGrid_levels (K := K) h hb
  obtain ⟨hlo, hhi⟩ := (fieldGrid lo hi bits h hb).decode_mem (u := n) (by omega) (by omega)
  rw [floatToUint_eq_ok_iff h hb, uintToFloat_eq_decode h hb]
  exact ⟨_, rfl, hlo, hhi.trans_eq (fieldGrid_top h hb),
    ((fieldGrid lo hi bits h hb).encode_decode n).symm⟩

end Field

/-! ## The whole frame -/

section Frame

variable {K : Type} [Field K] [LinearOrder K]

/-- Host and firmware are configured with the same five ranges, all positive. -/
structure MatchedRanges (host : Hw.SPGMITConfig K) (fw : Sim.SPGMITConfig K) : Prop where
  p_eq : fw.pMaxRad = host.pMax
  v_eq : fw.vMaxRadS = host.vMax
  kp_eq : fw.kpMax = host.kpMax
  kd_eq : fw.kdMax = host.kdMax
  tau_eq : fw.tauMaxNm = host.tauMax
  p_pos : 0 < host.pMax
  v_pos : 0 < host.vMax
  kp_pos : 0 < host.kpMax
  kd_pos : 0 < host.kdMax
  tau_pos : 0 < host.tauMax

variable [FloorRing K] [IsStrictOrderedRing K]

/-- One field of an accepted command: its value is finite, its code fits, and the firmware's value
for that code is within half a quantisation step. -/
theorem floatToUint_field {x : PyFloat K} {lo hi : K} {bits : ℕ} {u : ℤ} (h : lo < hi)
    (hb : 0 < bits) (hu : floatToUint x lo hi bits = .ok u) :
    ∃ y, x = .fin y ∧ ∃ n : ℕ, u = n ∧ n < 2 ^ bits ∧
      |SPGFirmware.uintToFloat n lo hi bits - y| ≤ (hi - lo) / (2 * (2 ^ bits - 1)) := by
  obtain ⟨y, rfl, hlo, hhi, rfl⟩ := (floatToUint_eq_ok_iff h hb).mp hu
  obtain ⟨n, hn, hlt⟩ := fieldGrid_encode_lt h hb hlo hhi
  exact ⟨y, rfl, n, hn, hlt, abs_uintToFloat_encode_sub_le h hb y hn⟩

omit [LinearOrder K] [FloorRing K] [IsStrictOrderedRing K] [Field K] in
theorem eq_ljust8_of_toList {d : Vector UInt8 8} {payload : List UInt8} (h : d.toList = payload) :
    d = ljust8 payload := by
  subst h
  apply Vector.ext
  intro i hi
  rw [getElem_ljust8, List.getD_eq_getElem?_getD, List.getElem?_eq_getElem (by simpa using hi)]
  simp

omit [LinearOrder K] [FloorRing K] [IsStrictOrderedRing K] in
/-- What the firmware decodes from packed codes, field by field. -/
theorem decode_mitControlBytes {fw : Sim.SPGMITConfig K} {frame : CanFrame} {p v kp kd t : ℕ}
    (hp : p < 2 ^ 16) (hv : v < 2 ^ 12) (hkp : kp < 2 ^ 12) (hkd : kd < 2 ^ 8) (ht : t < 2 ^ 8)
    (hframe : frame.data = ljust8 (mitControlBytes p v kp kd t)) :
    SPGFirmware.decodeMitControlFrame fw frame =
      { pDesRad := SPGFirmware.uintToFloat p (-fw.pMaxRad) fw.pMaxRad 16
        vDesRadS := SPGFirmware.uintToFloat v (-fw.vMaxRadS) fw.vMaxRadS 12
        kp := SPGFirmware.uintToFloat kp 0 fw.kpMax 12
        kd := SPGFirmware.uintToFloat kd 0 fw.kdMax 8
        tauFfNm := SPGFirmware.uintToFloat t (-fw.tauMaxNm) fw.tauMaxNm 8 } := by
  obtain ⟨c1, c2, c3, c4, c5⟩ := mitCodes_mitControlBytes hp hv hkp hkd ht hframe
  simp only [SPGFirmware.decodeMitControlFrame, c1, c2, c3, c4, c5]

/-- **The codec law.** Host to firmware: an accepted command is eight bytes, the firmware cuts out
of them the code of each field alone, and decodes each field within half a quantisation step.
Firmware to host: packing what the firmware decoded from any control payload gives that payload. -/
theorem mit_control_round_trip {host : Hw.SPGMITConfig K} {fw : Sim.SPGMITConfig K}
    (h : MatchedRanges host fw) :
    (∀ (p v kp kd t : PyFloat K) (payload : List UInt8),
      packMitPayload host p v kp kd t = .ok payload →
        payload.length = 8 ∧ (∀ b ∈ payload, b.toNat ≤ 255) ∧
        ∀ frame : CanFrame, frame.data.toList = payload →
          let codes := SPGFirmware.mitCodes frame.data
          let decoded := SPGFirmware.decodeMitControlFrame fw frame
          (floatToUint p (-host.pMax) host.pMax 16 = .ok codes.1.toNat ∧
            floatToUint v (-host.vMax) host.vMax 12 = .ok codes.2.1.toNat ∧
            floatToUint kp 0 host.kpMax 12 = .ok codes.2.2.1.toNat ∧
            floatToUint kd 0 host.kdMax 8 = .ok codes.2.2.2.1.toNat ∧
            floatToUint t (-host.tauMax) host.tauMax 8 = .ok codes.2.2.2.2.toNat) ∧
          (∃ y, p = .fin y ∧
            |decoded.pDesRad - y| ≤ (host.pMax - -host.pMax) / (2 * (2 ^ 16 - 1))) ∧
          (∃ y, v = .fin y ∧
            |decoded.vDesRadS - y| ≤ (host.vMax - -host.vMax) / (2 * (2 ^ 12 - 1))) ∧
          (∃ y, kp = .fin y ∧ |decoded.kp - y| ≤ (host.kpMax - 0) / (2 * (2 ^ 12 - 1))) ∧
          (∃ y, kd = .fin y ∧ |decoded.kd - y| ≤ (host.kdMax - 0) / (2 * (2 ^ 8 - 1))) ∧
          (∃ y, t = .fin y ∧
            |decoded.tauFfNm - y| ≤ (host.tauMax - -host.tauMax) / (2 * (2 ^ 8 - 1)))) ∧
    (∀ frame : CanFrame, frame.data.toList.head? = some 0xC0 →
      let decoded := SPGFirmware.decodeMitControlFrame fw frame
      packMitPayload host (.fin decoded.pDesRad) (.fin decoded.vDesRadS) (.fin decoded.kp)
        (.fin decoded.kd) (.fin decoded.tauFfNm) = .ok frame.data.toList) := by
  have rp : -host.pMax < host.pMax := neg_lt_self h.p_pos
  have rv : -host.vMax < host.vMax := neg_lt_self h.v_pos
  have rt : -host.tauMax < host.tauMax := neg_lt_self h.tau_pos
  refine ⟨?_, ?_⟩
  · intro p v kp kd t payload hok
    obtain ⟨pU, vU, kpU, kdU, tU, hp, hv, hkp, hkd, ht, rfl⟩ := packMitPayload_eq_ok_iff.mp hok
    refine ⟨rfl, fun b _ => Nat.le_of_lt_succ b.toNat_lt, ?_⟩
    intro frame hframe
    obtain ⟨yp, rfl, np, rfl, lp, ep⟩ := floatToUint_field rp (by norm_num) hp
    obtain ⟨yv, rfl, nv, rfl, lv, ev⟩ := floatToUint_field rv (by norm_num) hv
    obtain ⟨ykp, rfl, nkp, rfl, lkp, ekp⟩ := floatToUint_field h.kp_pos (by norm_num) hkp
    obtain ⟨ykd, rfl, nkd, rfl, lkd, ekd⟩ := floatToUint_field h.kd_pos (by norm_num) hkd
    obtain ⟨yt, rfl, nt, rfl, lt, et⟩ := floatToUint_field rt (by norm_num) ht
    have hdata := eq_ljust8_of_toList hframe
    obtain ⟨c1, c2, c3, c4, c5⟩ := mitCodes_mitControlBytes lp lv lkp lkd lt hdata
    simp only [decode_mitControlBytes lp lv lkp lkd lt hdata, h.p_eq, h.v_eq, h.kp_eq, h.kd_eq,
      h.tau_eq, c1, c2, c3, c4, c5]
    exact ⟨⟨hp, hv, hkp, hkd, ht⟩, ⟨yp, rfl, ep⟩, ⟨yv, rfl, ev⟩, ⟨ykp, rfl, ekp⟩, ⟨ykd, rfl, ekd⟩,
      ⟨yt, rfl, et⟩⟩
  · intro frame h0
    obtain ⟨hv, hkp⟩ := mitCodes_lt frame.data
    rw [packMitPayload_eq_ok_iff]
    refine ⟨_, _, _, _, _, ?_, ?_, ?_, ?_, ?_, (mitControlBytes_mitCodes h0).symm⟩
    all_goals
      simp only [SPGFirmware.decodeMitControlFrame, h.p_eq, h.v_eq, h.kp_eq, h.kd_eq, h.tau_eq]
    · exact floatToUint_uintToFloat rp (by norm_num) (UInt16.toNat_lt _)
    · exact floatToUint_uintToFloat rv (by norm_num) hv
    · exact floatToUint_uintToFloat h.kp_pos (by norm_num) hkp
    · exact floatToUint_uintToFloat h.kd_pos (by norm_num) (UInt8.toNat_lt _)
    · exact floatToUint_uintToFloat rt (by norm_num) (UInt8.toNat_lt _)

end Frame

/-- The default ranges of the two programs agree. -/
theorem matchedRanges_default : MatchedRanges ({} : Hw.SPGMITConfig ℚ) ({} : Sim.SPGMITConfig ℚ) := by
  constructor <;> norm_num

/-- At the default ranges, a command with every field off the grid is accepted and packed, and what
the firmware decodes from those bytes packs to the same bytes. -/
theorem mit_control_round_trip_default :
    packMitPayload ({} : Hw.SPGMITConfig ℚ) (.fin 1) (.fin (-3)) (.fin 20) (.fin (1 / 2)) (.fin 7) =
      .ok [0xC0, 0x8A, 0x3D, 0x77, 0x70, 0xA4, 0x1A, 0x9B] ∧
    let decoded := SPGFirmware.decodeMitControlFrame ({} : Sim.SPGMITConfig ℚ)
      ⟨0x101, 8, #v[0xC0, 0x8A, 0x3D, 0x77, 0x70, 0xA4, 0x1A, 0x9B]⟩
    packMitPayload ({} : Hw.SPGMITConfig ℚ) (.fin decoded.pDesRad) (.fin decoded.vDesRadS)
      (.fin decoded.kp) (.fin decoded.kd) (.fin decoded.tauFfNm) =
      .ok [0xC0, 0x8A, 0x3D, 0x77, 0x70, 0xA4, 0x1A, 0x9B] :=
  ⟨by decide +kernel, (mit_control_round_trip matchedRanges_default).2 _ rfl⟩

end SparqControl.Link
