/-
# SparqControl.Hal.FloatArith — arithmetic between floats that may be infinite or NaN.

`PyValue` computes with a float on the left and a number on the right, which is enough as long as
every range is a number. A range read from a configuration document is any float, so both sides may
be infinite or NaN here. Results are exact except that a result of a double's range or more becomes an
infinity: OVERFLOW is part of the model, rounding is not.
-/
import Mathlib.Tactic.NormNum
import Mathlib.Tactic.Positivity
import SparqControl.Hal.PyValue

namespace SparqControl.Hal

/-- The least magnitude that rounds to an infinity: `2 ^ 1024 - 2 ^ 970`, halfway between the largest
double and the next power of two. -/
@[irreducible]
def overflowBound : ℕ := (2 ^ 54 - 1) * 2 ^ 970

theorem le_overflowBound : 2 ^ 54 - 1 ≤ overflowBound := by
  unfold overflowBound
  exact Nat.le_mul_of_pos_right _ (by positivity)

namespace PyFloat

variable {K : Type*} [Field K] [LinearOrder K]

/-- The float a finite result becomes. -/
def ofExact (x : K) : PyFloat K :=
  if x ≤ -(overflowBound : K) then inf true
  else if (overflowBound : K) ≤ x then inf false
  else fin x

/-- `x < y`; every comparison with NaN is false. -/
def lt {K : Type*} [LinearOrder K] : PyFloat K → PyFloat K → Bool
  | fin x, fin y => x < y
  | fin _, inf negative => !negative
  | inf negative, fin _ => negative
  | inf a, inf b => a && !b
  | _, _ => false

/-- `x <= y`. -/
def le {K : Type*} [LinearOrder K] : PyFloat K → PyFloat K → Bool
  | fin x, fin y => x ≤ y
  | fin _, inf negative => !negative
  | inf negative, fin _ => negative
  | inf a, inf b => a || !b
  | _, _ => false

/-- `-x`. -/
def neg {K : Type*} [Field K] : PyFloat K → PyFloat K
  | fin x => fin (-x)
  | inf negative => inf (!negative)
  | nan => nan

/-- `x - y`. -/
def sub : PyFloat K → PyFloat K → PyFloat K
  | fin x, fin y => ofExact (x - y)
  | fin _, inf negative => inf (!negative)
  | inf negative, fin _ => inf negative
  | inf a, inf b => if a = b then nan else inf a
  | _, _ => nan

/-- `x * n` for a positive integer `n`. -/
def mulPos (n : ℕ) : PyFloat K → PyFloat K
  | fin x => ofExact (x * n)
  | inf negative => inf negative
  | nan => nan

/-- `x / y`; division by zero raises, whatever the numerator. -/
def div : PyFloat K → PyFloat K → Except PyError (PyFloat K)
  | x, fin c =>
    if c = 0 then .error .zeroDivisionError
    else match x with
      | fin y => .ok (ofExact (y / c))
      | inf negative => .ok (inf (negative ^^ decide (c < 0)))
      | nan => .ok nan
  | fin _, inf _ => .ok (fin 0)
  | _, _ => .ok nan

@[simp] theorem neg_fin {K : Type*} [Field K] (x : K) : (fin x).neg = fin (-x) := rfl

/-- Comparing with a number is the comparison of `PyValue`. -/
theorem lt_fin {K : Type*} [LinearOrder K] (x : PyFloat K) (c : K) :
    x.lt (fin c) = x.ltFin c := by
  cases x <;> rfl

theorem fin_lt {K : Type*} [LinearOrder K] (x : PyFloat K) (c : K) :
    (fin c).lt x = x.gtFin c := by
  cases x <;> rfl

/-! ## When a result is a number -/

variable [IsStrictOrderedRing K]

theorem overflowBound_pos : (0 : K) < overflowBound :=
  Nat.cast_pos.mpr (Nat.lt_of_lt_of_le (by norm_num) le_overflowBound)

/-- A result within range is itself. -/
theorem ofExact_of_abs_lt {x : K} (hx : |x| < overflowBound) : ofExact x = fin x := by
  obtain ⟨hlo, hhi⟩ := abs_lt.mp hx
  rw [ofExact, if_neg (not_le.mpr hlo), if_neg (not_le.mpr hhi)]

theorem ofExact_of_le {x : K} (hx : (overflowBound : K) ≤ x) : ofExact x = inf false := by
  have hpos : (0 : K) < overflowBound := overflowBound_pos
  rw [ofExact, if_neg (not_le.mpr (by linarith)), if_pos hx]

@[simp] theorem ofExact_zero : ofExact (0 : K) = fin 0 :=
  ofExact_of_abs_lt (by rw [abs_zero]; exact overflowBound_pos)

/-- A nonnegative result is a number or positive infinity, according to its size. -/
theorem ofExact_of_nonneg {x : K} (hx : 0 ≤ x) :
    ofExact x = if x < overflowBound then fin x else inf false := by
  split
  · exact ofExact_of_abs_lt (by rwa [abs_of_nonneg hx])
  · exact ofExact_of_le (not_lt.mp ‹_›)

end PyFloat

end SparqControl.Hal
