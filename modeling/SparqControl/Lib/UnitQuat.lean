/-
# SparqControl.Lib.UnitQuat — quaternions as four numbers, normalised.

A quaternion is written scalar last, `(x, y, z, w)`. `unitize` divides it by its norm, with the square
root a parameter: any function that `IsSquareRoot` accepts. What this module is for is the direction
`down`, the third row of the rotation matrix negated: where a body with this orientation sees gravity.
It is quadratic in the quaternion, so a quaternion and its negative agree on it, and it is a unit vector
because the quaternion is one.
-/
import Mathlib.Algebra.Order.Field.Basic
import Mathlib.Analysis.Real.Sqrt
import Mathlib.Tactic.FieldSimp
import Mathlib.Tactic.LinearCombination

namespace SparqControl.Lib.UnitQuat

variable {K : Type*} [Field K] [LinearOrder K] [IsStrictOrderedRing K]

/-! ## Square roots -/

/-- A function that is the square root where there is one. -/
structure IsSquareRoot (sqrt : K → K) : Prop where
  nonneg : ∀ {x : K}, 0 ≤ x → 0 ≤ sqrt x
  mul_self : ∀ {x : K}, 0 ≤ x → sqrt x * sqrt x = x

theorem isSquareRoot_real : IsSquareRoot Real.sqrt where
  nonneg := fun _ => Real.sqrt_nonneg _
  mul_self := fun hx => Real.mul_self_sqrt hx

namespace IsSquareRoot

variable {sqrt : K → K} (h : IsSquareRoot sqrt)

include h

/-- A nonnegative number is the root of its square. -/
theorem eq_of_mul_self {x y : K} (hy : 0 ≤ y) (hxy : y * y = x) : sqrt x = y := by
  have hx : 0 ≤ x := hxy ▸ mul_nonneg hy hy
  have hsq : sqrt x * sqrt x = y * y := (h.mul_self hx).trans hxy.symm
  exact (mul_self_inj (h.nonneg hx) hy).mp hsq

theorem pos_iff {x : K} (hx : 0 ≤ x) : 0 < sqrt x ↔ 0 < x := by
  constructor
  · intro hpos
    rw [← h.mul_self hx]
    exact mul_pos hpos hpos
  · intro hpos
    refine lt_of_le_of_ne (h.nonneg hx) fun h0 => hpos.ne' ?_
    rw [← h.mul_self hx, ← h0, mul_zero]

theorem eq_zero_iff {x : K} (hx : 0 ≤ x) : sqrt x = 0 ↔ x = 0 := by
  constructor
  · intro h0
    rw [← h.mul_self hx, h0, mul_zero]
  · rintro rfl
    exact h.eq_of_mul_self (le_refl 0) (mul_zero 0)

end IsSquareRoot

/-! ## Norms -/

/-- The squared norm. -/
def normSq (q : K × K × K × K) : K := q.1 * q.1 + q.2.1 * q.2.1 + q.2.2.1 * q.2.2.1 + q.2.2.2 * q.2.2.2

theorem normSq_nonneg (q : K × K × K × K) : 0 ≤ normSq q := by
  have hx := mul_self_nonneg q.1
  have hy := mul_self_nonneg q.2.1
  have hz := mul_self_nonneg q.2.2.1
  have hw := mul_self_nonneg q.2.2.2
  unfold normSq
  linarith

/-- Only zero has norm zero. -/
theorem normSq_eq_zero_iff (q : K × K × K × K) : normSq q = 0 ↔ q = (0, 0, 0, 0) := by
  obtain ⟨x, y, z, w⟩ := q
  constructor
  · intro h0
    have hx := mul_self_nonneg x
    have hy := mul_self_nonneg y
    have hz := mul_self_nonneg z
    have hw := mul_self_nonneg w
    simp only [normSq] at h0
    have h1 : x * x = 0 := by linarith
    have h2 : y * y = 0 := by linarith
    have h3 : z * z = 0 := by linarith
    have h4 : w * w = 0 := by linarith
    rw [mul_self_eq_zero.mp h1, mul_self_eq_zero.mp h2, mul_self_eq_zero.mp h3,
      mul_self_eq_zero.mp h4]
  · intro h0
    rw [h0]
    simp [normSq]

/-- Dividing by the norm. -/
def unitize (sqrt : K → K) (q : K × K × K × K) : K × K × K × K :=
  let n := sqrt (normSq q)
  (q.1 / n, q.2.1 / n, q.2.2.1 / n, q.2.2.2 / n)

section Normalize

variable {sqrt : K → K} (h : IsSquareRoot sqrt)

include h

/-- **A normalised quaternion is a unit.** -/
theorem normSq_unitize {q : K × K × K × K} (hq : 0 < normSq q) : normSq (unitize sqrt q) = 1 := by
  have hn : sqrt (normSq q) ≠ 0 := ((h.pos_iff hq.le).mpr hq).ne'
  have hsq : sqrt (normSq q) * sqrt (normSq q) = normSq q := h.mul_self hq.le
  simp only [unitize]
  generalize sqrt (normSq q) = n at hn hsq
  unfold normSq at hsq ⊢
  field_simp
  linear_combination -hsq

/-- A unit is its own normalisation. -/
theorem unitize_of_unit {q : K × K × K × K} (hq : normSq q = 1) : unitize sqrt q = q := by
  have hn : sqrt (normSq q) = 1 := h.eq_of_mul_self zero_le_one (by rw [hq, one_mul])
  simp only [unitize, hn, div_one]

/-- Scaling by a positive factor does not show after the normalisation. -/
theorem unitize_smul {c : K} (hc : 0 < c) (q : K × K × K × K) :
    unitize sqrt (c * q.1, c * q.2.1, c * q.2.2.1, c * q.2.2.2) = unitize sqrt q := by
  have hnorm : sqrt (normSq (c * q.1, c * q.2.1, c * q.2.2.1, c * q.2.2.2)) = c * sqrt (normSq q) := by
    refine h.eq_of_mul_self (mul_nonneg hc.le (h.nonneg (normSq_nonneg q))) ?_
    have hsq := h.mul_self (normSq_nonneg q)
    have hscale : normSq (c * q.1, c * q.2.1, c * q.2.2.1, c * q.2.2.2) = c * c * normSq q := by
      simp only [normSq]
      ring
    rw [hscale]
    linear_combination c * c * hsq
  simp only [unitize, hnorm, mul_div_mul_left _ _ hc.ne']

end Normalize

/-- Dividing by the norm unless it is below a threshold; then the identity. -/
def safeNormalize (sqrt : K → K) (eps : K) (q : K × K × K × K) : K × K × K × K :=
  if sqrt (normSq q) < eps then (0, 0, 0, 1) else unitize sqrt q

/-- It is a unit in either case. -/
theorem normSq_safeNormalize {sqrt : K → K} (h : IsSquareRoot sqrt) {eps : K} (heps : 0 < eps)
    (q : K × K × K × K) : normSq (safeNormalize sqrt eps q) = 1 := by
  unfold safeNormalize
  split
  · simp [normSq]
  · rename_i hbig
    have hpos : 0 < sqrt (normSq q) := lt_of_lt_of_le heps (not_lt.mp hbig)
    exact normSq_unitize h ((h.pos_iff (normSq_nonneg q)).mp hpos)

/-- No component of a unit exceeds one. -/
theorem abs_le_one_of_unit {q : K × K × K × K} (hq : normSq q = 1) :
    |q.1| ≤ 1 ∧ |q.2.1| ≤ 1 ∧ |q.2.2.1| ≤ 1 ∧ |q.2.2.2| ≤ 1 := by
  have hx := mul_self_nonneg q.1
  have hy := mul_self_nonneg q.2.1
  have hz := mul_self_nonneg q.2.2.1
  have hw := mul_self_nonneg q.2.2.2
  have hle : ∀ {a : K}, a * a ≤ 1 → |a| ≤ 1 := fun ha => abs_le_one_iff_mul_self_le_one.mpr ha
  unfold normSq at hq
  exact ⟨hle (by linarith), hle (by linarith), hle (by linarith), hle (by linarith)⟩

/-! ## The direction of gravity -/

/-- Where a frame with orientation `q` sees the direction `(0, 0, -1)`. -/
def down (q : K × K × K × K) : K × K × K :=
  let (x, y, z, w) := q
  (-(2.0 * (x * z - y * w)), -(2.0 * (y * z + x * w)), -(1 - 2.0 * (x * x + y * y)))

/-- The squared length of a direction. -/
def lengthSq (v : K × K × K) : K := v.1 * v.1 + v.2.1 * v.2.1 + v.2.2 * v.2.2

omit [LinearOrder K] [IsStrictOrderedRing K] in
/-- A quaternion and its negative have one orientation. -/
theorem down_neg (q : K × K × K × K) : down (-q.1, -q.2.1, -q.2.2.1, -q.2.2.2) = down q := by
  obtain ⟨x, y, z, w⟩ := q
  simp only [down, neg_mul_neg]

/-- **A unit quaternion sees gravity as a unit vector.** The defect of the length is a multiple of the
defect of the norm. -/
theorem lengthSq_down {q : K × K × K × K} (hq : normSq q = 1) : lengthSq (down q) = 1 := by
  obtain ⟨x, y, z, w⟩ := q
  have htwo : (2.0 : K) = 2 := by norm_num
  simp only [normSq, lengthSq, down, htwo] at hq ⊢
  linear_combination 4 * (x * x + y * y) * hq

end SparqControl.Lib.UnitQuat
