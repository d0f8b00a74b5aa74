/-
# SparqControl.Hw.FloatRange — the MIT encoder over ranges that are any floats.

`DongilcProtocol` encodes against ranges that are numbers. A configuration document gives floats, and
nothing between the document and the encoder looks at them, so the encoder is modelled once more with
ranges that may be zero, negative, infinite or NaN, and with the overflow of its one product.

The specs say exactly which ranges each kind of field survives: `floatToUint_zero_symmetric` for the
zeros of position, velocity and torque, `floatToUint_zero_gain` for the zero of `kp`,
`floatToUint_gain` for `kd`. `packMitPayload_ofFinite` is the link down: over ranges that are numbers
of moderate size this is the encoder of `DongilcProtocol`.
-/
import SparqControl.Hal.FloatArith
import SparqControl.Hw.DongilcProtocol

namespace SparqControl.Hw.FloatRange

open SparqControl.Hal SparqControl.Hw
open SparqControl.Lib.Quantize

variable {K : Type} [Field K] [LinearOrder K]

/-- `require_range`. -/
def requireRange (x lo hi : PyFloat K) (field : String) : Except PyError Unit :=
  if x.lt lo || hi.lt x then .error (.valueError (field ++ " out of range")) else .ok ()

/-- `SPGMITConfig` with the floats of a document. -/
structure SPGMITConfig (K : Type) where
  pMax : PyFloat K
  vMax : PyFloat K
  kpMax : PyFloat K
  kdMax : PyFloat K
  tauMax : PyFloat K

/-- The largest code of a field. -/
def maxInt (bits : ℕ) : ℕ := (1 <<< bits) - 1

/-- An infinite numerator never gives a number. -/
theorem div_inf_ne_fin (negative : Bool) (span : PyFloat K) (y : K) :
    (PyFloat.inf negative).div span ≠ .ok (.fin y) := by
  cases span with
  | fin c =>
      simp only [PyFloat.div]
      split <;> simp
  | inf b => simp [PyFloat.div]
  | nan => simp [PyFloat.div]

theorem nan_div_ne_fin (span : PyFloat K) (y : K) : PyFloat.nan.div span ≠ .ok (.fin y) := by
  cases span with
  | fin c =>
      simp only [PyFloat.div]
      split <;> simp
  | inf b => simp [PyFloat.div]
  | nan => simp [PyFloat.div]

theorem div_nan_ne_fin (x : PyFloat K) (y : K) : x.div .nan ≠ .ok (.fin y) := by
  cases x <;> simp [PyFloat.div]

variable [FloorRing K]

/-- `float_to_uint`. -/
def floatToUint (x lo hi : PyFloat K) (bits : ℕ) : Except PyError ℤ := do
  requireRange x lo hi "MIT field"
  let span := hi.sub lo
  let scaled ← ((x.sub lo).mulPos (maxInt bits)).div span
  scaled.roundHalfAwayFromZero

/-- `_pack_mit_payload`. -/
def packMitPayload (cfg : SPGMITConfig K) (positionRad velocityRadS kp kd torqueFfNm : PyFloat K) :
    Except PyError (List UInt8) := do
  requireRange positionRad cfg.pMax.neg cfg.pMax "position_rad"
  requireRange velocityRadS cfg.vMax.neg cfg.vMax "velocity_rad_s"
  requireRange kp (.fin 0) cfg.kpMax "kp"
  requireRange kd (.fin 0) cfg.kdMax "kd"
  requireRange torqueFfNm cfg.tauMax.neg cfg.tauMax "torque_ff_nm"
  let pU ← floatToUint positionRad cfg.pMax.neg cfg.pMax 16
  let vU ← floatToUint velocityRadS cfg.vMax.neg cfg.vMax 12
  let kpU ← floatToUint kp (.fin 0) cfg.kpMax 12
  let kdU ← floatToUint kd (.fin 0) cfg.kdMax 8
  let tU ← floatToUint torqueFfNm cfg.tauMax.neg cfg.tauMax 8
  return SPGActuatorProtocol.mitControlBytes pU vU kpU kdU tU

/-! ## What the encoder accepts -/

/-- A value `float_to_uint` takes passes the check of the same range under any field name. -/
theorem requireRange_of_floatToUint {x lo hi : PyFloat K} {bits : ℕ} {u : ℤ}
    (hu : floatToUint x lo hi bits = .ok u) (field : String) :
    requireRange x lo hi field = .ok () := by
  obtain ⟨r, hr, -⟩ := bind_eq_ok_iff.mp hu
  unfold requireRange at hr ⊢
  split at hr
  · cases hr
  · rename_i h
    rw [if_neg h]

/-- A payload is packed exactly when each of the five fields can be encoded. -/
theorem packMitPayload_isOk_iff {cfg : SPGMITConfig K} {p v kp kd t : PyFloat K} :
    (∃ payload, packMitPayload cfg p v kp kd t = .ok payload) ↔
      (∃ u, floatToUint p cfg.pMax.neg cfg.pMax 16 = .ok u) ∧
      (∃ u, floatToUint v cfg.vMax.neg cfg.vMax 12 = .ok u) ∧
      (∃ u, floatToUint kp (.fin 0) cfg.kpMax 12 = .ok u) ∧
      (∃ u, floatToUint kd (.fin 0) cfg.kdMax 8 = .ok u) ∧
      ∃ u, floatToUint t cfg.tauMax.neg cfg.tauMax 8 = .ok u := by
  constructor
  · rintro ⟨payload, h⟩
    unfold packMitPayload at h
    simp only [bind_eq_ok_iff] at h
    obtain ⟨-, -, -, -, -, -, -, -, -, -, pU, hp, vU, hv, kpU, hkp, kdU, hkd, tU, ht, -⟩ := h
    exact ⟨⟨pU, hp⟩, ⟨vU, hv⟩, ⟨kpU, hkp⟩, ⟨kdU, hkd⟩, ⟨tU, ht⟩⟩
  · rintro ⟨⟨pU, hp⟩, ⟨vU, hv⟩, ⟨kpU, hkp⟩, ⟨kdU, hkd⟩, ⟨tU, ht⟩⟩
    refine ⟨SPGActuatorProtocol.mitControlBytes pU vU kpU kdU tU, ?_⟩
    unfold packMitPayload
    simp only [bind_eq_ok_iff]
    exact ⟨(), requireRange_of_floatToUint hp _, (), requireRange_of_floatToUint hv _,
      (), requireRange_of_floatToUint hkp _, (), requireRange_of_floatToUint hkd _,
      (), requireRange_of_floatToUint ht _, pU, hp, vU, hv, kpU, hkp, kdU, hkd, tU, ht, rfl⟩

/-- Encoding succeeds exactly when the value is in range, the division is allowed and the quotient is
a number. -/
theorem floatToUint_isOk_iff {x lo hi : PyFloat K} {bits : ℕ} :
    (∃ u, floatToUint x lo hi bits = .ok u) ↔
      x.lt lo = false ∧ hi.lt x = false ∧
        ∃ y, ((x.sub lo).mulPos (maxInt bits)).div (hi.sub lo) = .ok (.fin y) := by
  unfold floatToUint requireRange
  constructor
  · rintro ⟨u, h⟩
    simp only [bind_eq_ok_iff] at h
    obtain ⟨r, hr, q, hq, hround⟩ := h
    split at hr
    · cases hr
    · rename_i hrange
      simp only [Bool.or_eq_true, not_or, Bool.not_eq_true] at hrange
      refine ⟨hrange.1, hrange.2, ?_⟩
      cases q with
      | fin y => exact ⟨y, hq⟩
      | inf negative => cases hround
      | nan => cases hround
  · rintro ⟨hlo, hhi, y, hy⟩
    refine ⟨roundHalfAway y, ?_⟩
    simp only [bind_eq_ok_iff]
    exact ⟨(), by simp [hlo, hhi], .fin y, hy, rfl⟩

/-! ## The fields of a damping frame -/

section Fields

variable [IsStrictOrderedRing K] {bits : ℕ}

/-- The numerator of a nonnegative number: a number, or infinite when the product overflows. -/
theorem mulPos_ofExact {k : K} (hk : 0 ≤ k) (hone : 1 ≤ maxInt bits) :
    (PyFloat.ofExact k).mulPos (maxInt bits) =
      if k * maxInt bits < overflowBound then .fin (k * maxInt bits) else .inf false := by
  have hone' : (1 : K) ≤ maxInt bits := by exact_mod_cast hone
  have hle : k ≤ k * maxInt bits := le_mul_of_one_le_right hk hone'
  rw [PyFloat.ofExact_of_nonneg hk]
  split
  · rw [PyFloat.mulPos, PyFloat.ofExact_of_nonneg (by positivity)]
  · rename_i hover
    rw [if_neg (by linarith)]
    rfl

/-- **Zero in a symmetric range** is encoded exactly when the bound is a positive number whose product
with the largest code does not overflow. -/
theorem floatToUint_zero_symmetric {p : PyFloat K} (htwo : 2 ≤ maxInt bits)
    (hsmall : maxInt bits < overflowBound) :
    (∃ u, floatToUint (.fin 0) p.neg p bits = .ok u) ↔
      ∃ x, p = .fin x ∧ 0 < x ∧ x * maxInt bits < overflowBound := by
  rw [floatToUint_isOk_iff]
  cases p with
  | nan =>
      constructor
      · rintro ⟨-, -, y, hy⟩
        exact absurd hy (div_nan_ne_fin _ y)
      · rintro ⟨x, hx, -⟩
        cases hx
  | inf negative =>
      constructor
      · rintro ⟨hlo, hhi, y, hy⟩
        cases negative with
        | true => simp [PyFloat.neg, PyFloat.lt] at hlo
        | false => simp [PyFloat.neg, PyFloat.sub, PyFloat.mulPos, PyFloat.div] at hy
      · rintro ⟨x, hx, -⟩
        cases hx
  | fin x =>
      have hpos : (0 : K) < overflowBound := PyFloat.overflowBound_pos
      have htwo' : (2 : K) ≤ maxInt bits := by exact_mod_cast htwo
      have hsmall' : (maxInt bits : K) < overflowBound := by exact_mod_cast hsmall
      simp only [PyFloat.neg_fin, PyFloat.lt, PyFloat.sub, decide_eq_false_iff_not, not_lt,
        PyFloat.fin.injEq, exists_eq_left']
      have hzero : (0 : K) - -x = x := by ring
      have hspan : x - -x = x + x := by ring
      rw [hzero, hspan]
      constructor
      · rintro ⟨-, hx, y, hy⟩
        rcases hx.eq_or_lt with rfl | hx
        · simp [PyFloat.mulPos, PyFloat.div] at hy
        · refine ⟨hx, ?_⟩
          by_contra hover
          rw [mulPos_ofExact hx.le (by omega), if_neg hover] at hy
          exact div_inf_ne_fin _ _ y hy
      · rintro ⟨hx, hover⟩
        have hsum : x + x < overflowBound := by nlinarith
        have hquot : x * maxInt bits / (x + x) = maxInt bits / 2 := by
          field_simp
          ring
        refine ⟨by linarith, hx.le, maxInt bits / 2, ?_⟩
        rw [mulPos_ofExact hx.le (by omega), if_pos hover, PyFloat.ofExact_of_nonneg (by positivity),
          if_pos hsum, PyFloat.div, if_neg (by positivity), hquot, PyFloat.ofExact_of_nonneg (by positivity),
          if_pos (by linarith)]

/-- **Zero as a gain** is encoded exactly when the bound is positive: a number, or infinity. -/
theorem floatToUint_zero_gain {hi : PyFloat K} :
    (∃ u, floatToUint (.fin 0) (.fin 0) hi bits = .ok u) ↔
      hi = .inf false ∨ ∃ x, hi = .fin x ∧ 0 < x := by
  rw [floatToUint_isOk_iff]
  cases hi with
  | nan => simp [PyFloat.sub, PyFloat.lt, PyFloat.mulPos, PyFloat.div]
  | inf negative =>
      cases negative <;> simp [PyFloat.sub, PyFloat.lt, PyFloat.mulPos, PyFloat.div]
  | fin x =>
      simp only [PyFloat.lt, PyFloat.sub, sub_zero, PyFloat.ofExact_zero, PyFloat.mulPos, zero_mul,
        lt_irrefl, decide_false, decide_eq_false_iff_not, not_lt, true_and, reduceCtorEq, false_or,
        PyFloat.fin.injEq, exists_eq_left']
      constructor
      · rintro ⟨hx, y, hy⟩
        rcases hx.eq_or_lt with rfl | hx
        · simp [PyFloat.div] at hy
        · exact hx
      · intro hx
        refine ⟨hx.le, 0, ?_⟩
        rw [PyFloat.ofExact_of_nonneg hx.le]
        split
        · simp [PyFloat.div, hx.ne']
        · rfl

/-- **A gain** is encoded exactly when it is a nonnegative number whose product with the largest code
does not overflow, and the bound is positive and not below it. -/
theorem floatToUint_gain {x hi : PyFloat K} (hone : 1 ≤ maxInt bits)
    (hsmall : maxInt bits < overflowBound) :
    (∃ u, floatToUint x (.fin 0) hi bits = .ok u) ↔
      ∃ k, x = .fin k ∧ 0 ≤ k ∧ k * maxInt bits < overflowBound ∧
        (hi = .inf false ∨ ∃ m, hi = .fin m ∧ 0 < m ∧ k ≤ m) := by
  rw [floatToUint_isOk_iff]
  cases x with
  | nan =>
      constructor
      · rintro ⟨-, -, y, hy⟩
        exact absurd hy (nan_div_ne_fin _ y)
      · rintro ⟨k, hk, -⟩
        cases hk
  | inf negative =>
      constructor
      · rintro ⟨hlo, -, y, hy⟩
        cases negative with
        | true => simp [PyFloat.lt] at hlo
        | false => exact absurd hy (div_inf_ne_fin _ _ y)
      · rintro ⟨k, hk, -⟩
        cases hk
  | fin k =>
      have hsmall' : (maxInt bits : K) < overflowBound := by exact_mod_cast hsmall
      simp only [PyFloat.lt, PyFloat.sub, sub_zero, decide_eq_false_iff_not, not_lt,
        PyFloat.fin.injEq, exists_eq_left']
      constructor
      · rintro ⟨hk, hhi, y, hy⟩
        rw [mulPos_ofExact hk hone] at hy
        have hover : k * maxInt bits < overflowBound := by
          by_contra hover
          rw [if_neg hover] at hy
          exact div_inf_ne_fin _ _ y hy
        refine ⟨hk, hover, ?_⟩
        cases hi with
        | nan => exact absurd hy (div_nan_ne_fin _ y)
        | inf negative =>
            cases negative with
            | true => simp at hhi
            | false => exact Or.inl rfl
        | fin m =>
            simp only [decide_eq_false_iff_not, not_lt] at hhi
            refine Or.inr ⟨m, rfl, ?_, hhi⟩
            rcases (hk.trans hhi).eq_or_lt with rfl | hm
            · simp [PyFloat.div] at hy
            · exact hm
      · rintro ⟨hk, hover, hhi⟩
        rw [mulPos_ofExact hk hone, if_pos hover]
        rcases hhi with rfl | ⟨m, rfl, hm, hkm⟩
        · exact ⟨hk, rfl, 0, rfl⟩
        · refine ⟨hk, by simpa [PyFloat.lt] using hkm, ?_⟩
          simp only [sub_zero]
          rw [PyFloat.ofExact_of_nonneg hm.le]
          split
          · -- the quotient is at most the largest code
            have hquot : k * maxInt bits / m ≤ maxInt bits := by
              rw [div_le_iff₀ hm, mul_comm (maxInt bits : K) m]
              exact mul_le_mul_of_nonneg_right hkm (by positivity)
            refine ⟨k * maxInt bits / m, ?_⟩
            rw [PyFloat.div, if_neg hm.ne', PyFloat.ofExact_of_nonneg (by positivity),
              if_pos (by linarith)]
          · exact ⟨0, rfl⟩

/-! ## Ranges that are numbers -/

/-- The ranges of `DongilcProtocol` as floats. -/
def SPGMITConfig.ofFinite (cfg : Hw.SPGMITConfig K) : SPGMITConfig K where
  pMax := .fin cfg.pMax
  vMax := .fin cfg.vMax
  kpMax := .fin cfg.kpMax
  kdMax := .fin cfg.kdMax
  tauMax := .fin cfg.tauMax

omit [Field K] [FloorRing K] [IsStrictOrderedRing K] in
theorem requireRange_ofFinite (x : PyFloat K) (lo hi : K) (field : String) :
    requireRange x (.fin lo) (.fin hi) field = Hw.requireRange x lo hi field := by
  rw [requireRange, Hw.requireRange, PyFloat.lt_fin, PyFloat.fin_lt]

/-- A range that is two numbers whose width times the largest code does not overflow encodes exactly:
every result on the way is a number. -/
theorem floatToUint_ofFinite {lo hi : K} (hone : 1 ≤ maxInt bits)
    (hcode : maxInt bits < overflowBound) (hmoderate : |hi - lo| * maxInt bits < overflowBound)
    (x : PyFloat K) : floatToUint x (.fin lo) (.fin hi) bits = Hw.floatToUint x lo hi bits := by
  have hone' : (1 : K) ≤ maxInt bits := by exact_mod_cast hone
  have hcode' : (maxInt bits : K) < overflowBound := by exact_mod_cast hcode
  have hspan : PyFloat.ofExact (hi - lo) = .fin (hi - lo) :=
    PyFloat.ofExact_of_abs_lt
      (lt_of_le_of_lt (le_mul_of_one_le_right (abs_nonneg _) hone') hmoderate)
  unfold floatToUint Hw.floatToUint
  rw [requireRange_ofFinite]
  cases hrange : Hw.requireRange x lo hi "MIT field" with
  | error e => rfl
  | ok u =>
      -- from here on both sides divide and round; only the division differs
      refine congrArg (· >>= PyFloat.roundHalfAwayFromZero) ?_
      show ((x.sub (.fin lo)).mulPos (maxInt bits)).div (PyFloat.ofExact (hi - lo)) =
        ((x.subFin lo).mulFin (maxInt bits)).divFin (hi - lo)
      rw [hspan]
      rcases requireRange_eq_ok_iff.mp hrange with rfl | ⟨y, rfl, hlo, hhi⟩
      · -- NaN passes the check and comes out of the division as NaN
        rfl
      · have hsub : 0 ≤ y - lo := sub_nonneg.mpr hlo
        have hle : y - lo ≤ |hi - lo| := (sub_le_sub_right hhi lo).trans (le_abs_self _)
        have hprod : (y - lo) * maxInt bits < overflowBound :=
          lt_of_le_of_lt (mul_le_mul_of_nonneg_right hle (by positivity)) hmoderate
        rw [PyFloat.sub, mulPos_ofExact hsub hone, if_pos hprod]
        simp only [PyFloat.subFin, PyFloat.mulFin, PyFloat.div, PyFloat.divFin]
        by_cases hzero : hi - lo = 0
        · rw [if_pos hzero, if_pos hzero]
        · have hpos : 0 < hi - lo :=
            lt_of_le_of_ne (sub_nonneg.mpr (hlo.trans hhi)) (Ne.symm hzero)
          have hquot : (y - lo) * maxInt bits / (hi - lo) ≤ maxInt bits := by
            rw [div_le_iff₀ hpos, mul_comm (maxInt bits : K)]
            exact mul_le_mul_of_nonneg_right (sub_le_sub_right hhi lo) (by positivity)
          rw [if_neg hzero, if_neg hzero, PyFloat.ofExact_of_nonneg (by positivity),
            if_pos (by linarith)]

/-- Twice each bound times the largest code stays within a double. -/
structure Moderate (cfg : Hw.SPGMITConfig K) : Prop where
  pMax : |cfg.pMax + cfg.pMax| * maxInt 16 < overflowBound
  vMax : |cfg.vMax + cfg.vMax| * maxInt 12 < overflowBound
  kpMax : |cfg.kpMax| * maxInt 12 < overflowBound
  kdMax : |cfg.kdMax| * maxInt 8 < overflowBound
  tauMax : |cfg.tauMax + cfg.tauMax| * maxInt 8 < overflowBound

theorem maxInt_lt_overflowBound (hbits : bits ≤ 16) : maxInt bits < overflowBound := by
  have hpow : (1 <<< bits) ≤ 2 ^ 16 := by
    rw [Nat.one_shiftLeft]
    exact Nat.pow_le_pow_right (by norm_num) hbits
  have hlarge := le_overflowBound
  unfold maxInt
  omega

/-- **The link to the encoder over numbers.** -/
theorem packMitPayload_ofFinite {cfg : Hw.SPGMITConfig K} (hcfg : Moderate cfg)
    (p v kp kd t : PyFloat K) :
    packMitPayload (.ofFinite cfg) p v kp kd t =
      SPGActuatorProtocol.packMitPayload cfg p v kp kd t := by
  have hsymm : ∀ x : K, x - -x = x + x := fun x => by ring
  have hp : floatToUint p (.fin (-cfg.pMax)) (.fin cfg.pMax) 16 =
      Hw.floatToUint p (-cfg.pMax) cfg.pMax 16 :=
    floatToUint_ofFinite (by decide) (maxInt_lt_overflowBound le_rfl)
      (by rw [hsymm]; exact hcfg.pMax) p
  have hv : floatToUint v (.fin (-cfg.vMax)) (.fin cfg.vMax) 12 =
      Hw.floatToUint v (-cfg.vMax) cfg.vMax 12 :=
    floatToUint_ofFinite (by decide) (maxInt_lt_overflowBound (by norm_num))
      (by rw [hsymm]; exact hcfg.vMax) v
  have hkp : floatToUint kp (.fin 0) (.fin cfg.kpMax) 12 = Hw.floatToUint kp 0 cfg.kpMax 12 :=
    floatToUint_ofFinite (by decide) (maxInt_lt_overflowBound (by norm_num))
      (by rw [sub_zero]; exact hcfg.kpMax) kp
  have hkd : floatToUint kd (.fin 0) (.fin cfg.kdMax) 8 = Hw.floatToUint kd 0 cfg.kdMax 8 :=
    floatToUint_ofFinite (by decide) (maxInt_lt_overflowBound (by norm_num))
      (by rw [sub_zero]; exact hcfg.kdMax) kd
  have ht : floatToUint t (.fin (-cfg.tauMax)) (.fin cfg.tauMax) 8 =
      Hw.floatToUint t (-cfg.tauMax) cfg.tauMax 8 :=
    floatToUint_ofFinite (by decide) (maxInt_lt_overflowBound (by norm_num))
      (by rw [hsymm]; exact hcfg.tauMax) t
  simp only [packMitPayload, SPGActuatorProtocol.packMitPayload, SPGMITConfig.ofFinite,
    PyFloat.neg_fin, requireRange_ofFinite, hp, hv, hkp, hkd, ht]

end Fields

end SparqControl.Hw.FloatRange
