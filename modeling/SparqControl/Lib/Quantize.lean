/-
# SparqControl.Lib.Quantize — rounding to the nearest integer and uniform quantisers.

`roundHalfAway` is the rounding of C's `round`: nearest integer, ties away from zero;
`roundHalfEven` takes the even integer on a tie. A `Grid` is a uniform quantiser: an interval
`[lo, lo + span]` cut into `levels` equal steps, so `levels + 1` codes. Both round trips are exact
statements in any ordered field with a floor:

* value → code → value loses at most HALF A STEP (`abs_decode_encode_sub_le`), and
* code → value → code is the identity (`encode_decode`).

`encodeFloor` rounds down instead: the value is at or above the point of its code and less than a
step above it, and the second round trip is still the identity.

One section is about symmetric intervals `[-a, a]` with an ODD number of steps, the usual case
`levels = 2 ^ bits - 1`: zero lies halfway between two codes, so no code decodes to zero and the one
that encodes it decodes to half a step (`between_decode_encode_zero`).

A `Dial` is the CYCLIC quantiser: one full turn cut into `counts` steps, codes taken modulo `counts`.
It loses at most half a step modulo whole turns (`Dial.abs_decode_sub_le`).
-/
import Mathlib.Algebra.Order.Floor.Ring
import Mathlib.Algebra.Order.Group.MinMax
import Mathlib.Algebra.Order.Archimedean.Basic
import Mathlib.Tactic.Linarith
import Mathlib.Tactic.FieldSimp
import Mathlib.Tactic.Positivity
import Mathlib.Tactic.Ring

namespace SparqControl.Lib.Quantize

variable {K : Type*} [Field K] [LinearOrder K] [IsStrictOrderedRing K] [FloorRing K]

/-! ## Nearest integer, ties away from zero -/

/-- Nearest integer, ties away from zero. -/
def roundHalfAway (x : K) : ℤ :=
  if 0 ≤ x then ⌊x + 1 / 2⌋ else ⌈x - 1 / 2⌉

theorem abs_roundHalfAway_sub_le (x : K) : |(roundHalfAway x : K) - x| ≤ 1 / 2 := by
  unfold roundHalfAway
  rw [abs_le]
  split
  · have h1 := Int.floor_le (x + 1 / 2)
    have h2 := Int.lt_floor_add_one (x + 1 / 2)
    constructor <;> linarith
  · have h1 := Int.le_ceil (x - 1 / 2)
    have h2 := Int.ceil_lt_add_one (x - 1 / 2)
    constructor <;> linarith

/-- An integer within less than half of `x` is the rounding of `x`. -/
theorem roundHalfAway_eq_of_abs_lt {x : K} {n : ℤ} (h : |(n : K) - x| < 1 / 2) :
    roundHalfAway x = n := by
  have hr := abs_roundHalfAway_sub_le x
  rw [abs_lt] at h
  rw [abs_le] at hr
  -- two integers less than one apart are equal
  have h1 : ((roundHalfAway x - n : ℤ) : K) < 1 := by push_cast; linarith
  have h2 : (-1 : K) < ((roundHalfAway x - n : ℤ) : K) := by push_cast; linarith
  have h1' : roundHalfAway x - n < 1 := by exact_mod_cast h1
  have h2' : -1 < roundHalfAway x - n := by exact_mod_cast h2
  omega

@[simp] theorem roundHalfAway_intCast (n : ℤ) : roundHalfAway (n : K) = n :=
  roundHalfAway_eq_of_abs_lt (by simp)

theorem roundHalfAway_nonneg {x : K} (hx : 0 ≤ x) : 0 ≤ roundHalfAway x := by
  rw [roundHalfAway, if_pos hx]
  exact Int.floor_nonneg.mpr (by linarith)

theorem le_roundHalfAway {x : K} {n : ℤ} (hx : (n : K) ≤ x) : n ≤ roundHalfAway x := by
  have hr := (abs_le.mp (abs_roundHalfAway_sub_le x)).1
  have h1 : ((n - 1 : ℤ) : K) < (roundHalfAway x : K) := by push_cast; linarith
  have h2 : n - 1 < roundHalfAway x := by exact_mod_cast h1
  omega

/-- Values below an integer and a half round to it or lower. -/
theorem roundHalfAway_le_of_lt {x : K} {n : ℤ} (hx : x < (n : K) + 1 / 2) : roundHalfAway x ≤ n := by
  have hr := (abs_le.mp (abs_roundHalfAway_sub_le x)).2
  have h1 : (roundHalfAway x : K) < ((n + 1 : ℤ) : K) := by push_cast; linarith
  have h2 : roundHalfAway x < n + 1 := by exact_mod_cast h1
  omega

theorem roundHalfAway_le {x : K} {n : ℤ} (hx : x ≤ n) : roundHalfAway x ≤ n :=
  roundHalfAway_le_of_lt (by linarith)

/-- Values of at least an integer and a half round above it. -/
theorem lt_roundHalfAway {x : K} {n : ℤ} (hn : 0 ≤ n) (hx : (n : K) + 1 / 2 ≤ x) :
    n < roundHalfAway x := by
  have h0 : (0 : K) ≤ n := by exact_mod_cast hn
  rw [roundHalfAway, if_pos (by linarith), Int.lt_iff_add_one_le, Int.le_floor]
  push_cast
  linarith

/-- **Rounding, then clamping to an integer range**, is within half of clamping alone. -/
theorem abs_clamp_roundHalfAway_sub_le (x : K) (lo hi : ℤ) :
    |((max lo (min (roundHalfAway x) hi) : ℤ) : K) - max (lo : K) (min x hi)| ≤ 1 / 2 := by
  push_cast
  calc |max (lo : K) (min (roundHalfAway x : K) hi) - max (lo : K) (min x hi)|
      ≤ max |(lo : K) - lo| |min (roundHalfAway x : K) hi - min x hi| :=
        abs_max_sub_max_le_max _ _ _ _
    _ ≤ |min (roundHalfAway x : K) hi - min x hi| := by simp
    _ ≤ max |(roundHalfAway x : K) - x| |(hi : K) - hi| := abs_min_sub_min_le_max _ _ _ _
    _ ≤ 1 / 2 := by
        rw [sub_self, abs_zero, max_eq_left (abs_nonneg _)]
        exact abs_roundHalfAway_sub_le x

/-- The tie itself: a non-negative integer and a half rounds up. -/
theorem roundHalfAway_natCast_add_half (m : ℕ) : roundHalfAway ((m : K) + 1 / 2) = m + 1 := by
  have h0 : (0 : K) ≤ (m : K) + 1 / 2 := by positivity
  rw [roundHalfAway, if_pos h0, show (m : K) + 1 / 2 + 1 / 2 = ((m + 1 : ℤ) : K) by push_cast; ring]
  exact Int.floor_intCast _

/-! ## Nearest integer, ties to even -/

/-- Nearest integer, ties to the even one. -/
def roundHalfEven (x : K) : ℤ :=
  if Int.fract x < 1 / 2 ∨ (Int.fract x = 1 / 2 ∧ Even ⌊x⌋) then ⌊x⌋ else ⌊x⌋ + 1

/-- Rounding a nonnegative number away from zero, by its fractional part. -/
theorem roundHalfAway_of_nonneg {x : K} (hx : 0 ≤ x) :
    roundHalfAway x = if Int.fract x < 1 / 2 then ⌊x⌋ else ⌊x⌋ + 1 := by
  have hsum := Int.floor_add_fract x
  have hlt := Int.fract_lt_one x
  have h0 := Int.fract_nonneg x
  rw [roundHalfAway, if_pos hx]
  split
  · rw [Int.floor_eq_iff]
    constructor <;> linarith
  · rw [Int.floor_eq_iff]
    push_cast
    constructor <;> linarith

/-- **Where the two roundings part**: only on a tie above an even integer, which one of them rounds
down and the other one up. -/
theorem roundHalfEven_eq_roundHalfAway_iff {x : K} (hx : 0 ≤ x) :
    roundHalfEven x = roundHalfAway x ↔ ¬ ∃ k : ℤ, x = 2 * k + 1 / 2 := by
  have htie : (∃ k : ℤ, x = 2 * k + 1 / 2) ↔ Int.fract x = 1 / 2 ∧ Even ⌊x⌋ := by
    constructor
    · rintro ⟨k, rfl⟩
      have hfloor : ⌊(2 * k + 1 / 2 : K)⌋ = 2 * k := by
        rw [Int.floor_eq_iff]
        push_cast
        constructor <;> linarith
      refine ⟨?_, hfloor ▸ even_two_mul k⟩
      rw [Int.fract, hfloor]
      push_cast
      ring
    · rintro ⟨hfract, k, hk⟩
      refine ⟨k, ?_⟩
      rw [← Int.floor_add_fract x, hfract, hk]
      push_cast
      ring
  rw [htie, roundHalfAway_of_nonneg hx]
  unfold roundHalfEven
  by_cases hlt : Int.fract x < 1 / 2
  · rw [if_pos (Or.inl hlt), if_pos hlt]
    exact iff_of_true rfl fun h => hlt.ne h.1
  · by_cases heven : Int.fract x = 1 / 2 ∧ Even ⌊x⌋
    · rw [if_pos (Or.inr heven), if_neg hlt]
      exact iff_of_false (by omega) (not_not.mpr heven)
    · rw [if_neg (not_or.mpr ⟨hlt, heven⟩), if_neg hlt]
      exact iff_of_true rfl heven

/-- A value of an integer interval rounds into the interval, ties to even too. -/
theorem roundHalfEven_mem {x : K} {n : ℤ} (hx : 0 ≤ x) (hn : x ≤ n) :
    0 ≤ roundHalfEven x ∧ roundHalfEven x ≤ n := by
  have hfloor : 0 ≤ ⌊x⌋ := Int.floor_nonneg.mpr hx
  have hle : ⌊x⌋ ≤ n := by exact_mod_cast (Int.floor_le x).trans hn
  unfold roundHalfEven
  split
  · exact ⟨hfloor, hle⟩
  · -- rounding up from the top of the interval would need a fractional part there
    rename_i hup
    have hpos : 0 < Int.fract x :=
      lt_of_lt_of_le (by norm_num) (not_lt.mp fun h => hup (Or.inl h))
    have hlt : ⌊x⌋ < n := by
      have hsum := Int.floor_add_fract x
      have : ((⌊x⌋ : ℤ) : K) < n := by linarith
      exact_mod_cast this
    exact ⟨by omega, hlt⟩

/-! ## Uniform quantisers -/

/-- A uniform quantiser on `[lo, lo + span]` with `levels` steps. The positivity of the interval and
of the step count are part of the object. -/
structure Grid (K : Type*) [Field K] [LinearOrder K] where
  lo : K
  span : K
  levels : ℕ
  span_pos : 0 < span
  levels_pos : 0 < levels

namespace Grid

/-- The position of `x` on the grid, counted in steps from `lo`. -/
def position (g : Grid K) (x : K) : K := (x - g.lo) * g.levels / g.span

/-- The code of the grid point nearest to `x`. -/
def encode (g : Grid K) (x : K) : ℤ := roundHalfAway (g.position x)

/-- The grid point of a code. -/
def decode (g : Grid K) (u : ℤ) : K := u * g.span / g.levels + g.lo

variable (g : Grid K)

omit [FloorRing K] in
theorem levels_cast_pos : (0 : K) < g.levels := Nat.cast_pos.mpr g.levels_pos

omit [FloorRing K] in
/-- Decoding and taking the position are inverse affine maps. -/
theorem position_decode (u : ℤ) : g.position (g.decode u) = u := by
  have hs := g.span_pos.ne'
  have hl := g.levels_cast_pos.ne'
  unfold position decode
  field_simp
  ring

omit [FloorRing K] in
theorem decode_sub (u : ℤ) (x : K) :
    g.decode u - x = ((u : K) - g.position x) * (g.span / g.levels) := by
  have hs := g.span_pos.ne'
  have hl := g.levels_cast_pos.ne'
  unfold position decode
  field_simp
  ring

/-- **Value → code → value**: at most half a step is lost. -/
theorem abs_decode_encode_sub_le (x : K) :
    |g.decode (g.encode x) - x| ≤ g.span / (2 * g.levels) := by
  have hstep : 0 < g.span / g.levels := div_pos g.span_pos g.levels_cast_pos
  rw [decode_sub, abs_mul, abs_of_pos hstep]
  calc |(g.encode x : K) - g.position x| * (g.span / g.levels)
      ≤ 1 / 2 * (g.span / g.levels) := by
        gcongr
        exact abs_roundHalfAway_sub_le _
    _ = g.span / (2 * g.levels) := by
        have hl := g.levels_cast_pos.ne'
        field_simp

/-- **Code → value → code** is the identity. -/
theorem encode_decode (u : ℤ) : g.encode (g.decode u) = u := by
  rw [encode, position_decode, roundHalfAway_intCast]

omit [FloorRing K] in
theorem position_nonneg {x : K} (hx : g.lo ≤ x) : 0 ≤ g.position x := by
  have h1 := sub_nonneg.mpr hx
  have h2 := g.levels_cast_pos.le
  have h3 := g.span_pos.le
  exact div_nonneg (mul_nonneg h1 h2) h3

omit [FloorRing K] in
theorem position_le {x : K} (hx : x ≤ g.lo + g.span) : g.position x ≤ g.levels := by
  rw [position, div_le_iff₀ g.span_pos, mul_comm]
  exact mul_le_mul_of_nonneg_left (by linarith) g.levels_cast_pos.le

/-- Values of the interval get codes `0 … levels`. -/
theorem encode_mem {x : K} (hlo : g.lo ≤ x) (hhi : x ≤ g.lo + g.span) :
    0 ≤ g.encode x ∧ g.encode x ≤ g.levels :=
  ⟨roundHalfAway_nonneg (g.position_nonneg hlo),
    roundHalfAway_le (by simpa using g.position_le hhi)⟩

/-- Codes `0 … levels` decode into the interval. -/
theorem decode_mem {u : ℤ} (h0 : 0 ≤ u) (hu : u ≤ g.levels) :
    g.lo ≤ g.decode u ∧ g.decode u ≤ g.lo + g.span := by
  have hl := g.levels_cast_pos
  have h0' : (0 : K) ≤ u := by exact_mod_cast h0
  have hu' : (u : K) ≤ g.levels := by exact_mod_cast hu
  have h1 : 0 ≤ (u : K) * g.span / g.levels := div_nonneg (mul_nonneg h0' g.span_pos.le) hl.le
  have h2 : (u : K) * g.span / g.levels ≤ g.span := by
    rw [div_le_iff₀ hl, mul_comm g.span]
    exact mul_le_mul_of_nonneg_right hu' g.span_pos.le
  constructor <;> unfold decode <;> linarith

omit [FloorRing K] in
theorem decode_le_decode {u v : ℤ} (huv : u ≤ v) : g.decode u ≤ g.decode v := by
  have hcast : (u : K) ≤ v := by exact_mod_cast huv
  unfold decode
  have := div_le_div_of_nonneg_right (mul_le_mul_of_nonneg_right hcast g.span_pos.le)
    g.levels_cast_pos.le
  linarith

omit [FloorRing K] in
/-- Clamping a decoded code to the interval is decoding the clamped code. -/
theorem clamp_decode (u : ℤ) :
    max g.lo (min (g.decode u) (g.lo + g.span)) = g.decode (max 0 (min u g.levels)) := by
  have hlo : g.decode 0 = g.lo := by simp [decode]
  have hhi : g.decode g.levels = g.lo + g.span := by
    have hl := g.levels_cast_pos.ne'
    rw [decode, Int.cast_natCast, mul_div_cancel_left₀ _ hl, add_comm]
  have hmono : Monotone g.decode := fun u v huv => g.decode_le_decode huv
  rw [hmono.map_max, hmono.map_min, hlo, hhi]

/-! ## Rounding down -/

/-- The code of the last grid point at or below `x`. -/
def encodeFloor (g : Grid K) (x : K) : ℤ := ⌊g.position x⌋

/-- A value is never below the point of its code. -/
theorem decode_encodeFloor_le (x : K) : g.decode (g.encodeFloor x) ≤ x := by
  have hstep : 0 < g.span / g.levels := div_pos g.span_pos g.levels_cast_pos
  have hfloor : (g.encodeFloor x : K) - g.position x ≤ 0 := sub_nonpos.mpr (Int.floor_le _)
  have hdiff := g.decode_sub (g.encodeFloor x) x
  have := mul_nonpos_of_nonpos_of_nonneg hfloor hstep.le
  linarith

/-- A value is less than a step above the point of its code. -/
theorem lt_decode_encodeFloor_add (x : K) :
    x < g.decode (g.encodeFloor x) + g.span / g.levels := by
  have hstep : 0 < g.span / g.levels := div_pos g.span_pos g.levels_cast_pos
  have hfloor : -1 < (g.encodeFloor x : K) - g.position x := by
    have := Int.lt_floor_add_one (g.position x)
    unfold encodeFloor
    linarith
  have hdiff := g.decode_sub (g.encodeFloor x) x
  have := mul_lt_mul_of_pos_right hfloor hstep
  linarith

omit [FloorRing K] in
/-- Comparing with a grid point is comparing positions with its code. -/
theorem decode_le_iff (u : ℤ) (x : K) : g.decode u ≤ x ↔ (u : K) ≤ g.position x := by
  have hstep : 0 < g.span / g.levels := div_pos g.span_pos g.levels_cast_pos
  rw [← sub_nonpos, g.decode_sub]
  constructor
  · intro hle
    by_contra hlt
    have := mul_pos (sub_pos.mpr (not_le.mp hlt)) hstep
    linarith
  · intro hle
    exact mul_nonpos_of_nonpos_of_nonneg (sub_nonpos.mpr hle) hstep.le

/-- The values of a code are those from its point up to the next one. -/
theorem encodeFloor_eq_iff {x : K} {u : ℤ} :
    g.encodeFloor x = u ↔ g.decode u ≤ x ∧ x < g.decode (u + 1) := by
  rw [encodeFloor, Int.floor_eq_iff, g.decode_le_iff, ← not_le, ← not_le, g.decode_le_iff]
  push_cast
  rfl

omit [FloorRing K] in
theorem position_mono {x y : K} (h : x ≤ y) : g.position x ≤ g.position y := by
  have h1 : x - g.lo ≤ y - g.lo := by linarith
  unfold position
  exact div_le_div_of_nonneg_right (mul_le_mul_of_nonneg_right h1 g.levels_cast_pos.le)
    g.span_pos.le

theorem encodeFloor_mono {x y : K} (h : x ≤ y) : g.encodeFloor x ≤ g.encodeFloor y :=
  Int.floor_le_floor (g.position_mono h)

/-- **Code → value → code** is the identity when rounding down, too. -/
theorem encodeFloor_decode (u : ℤ) : g.encodeFloor (g.decode u) = u := by
  rw [encodeFloor, position_decode, Int.floor_intCast]

theorem encodeFloor_mem {x : K} (hlo : g.lo ≤ x) (hhi : x ≤ g.lo + g.span) :
    0 ≤ g.encodeFloor x ∧ g.encodeFloor x ≤ g.levels := by
  constructor
  · exact Int.floor_nonneg.mpr (g.position_nonneg hlo)
  · have h := Int.floor_le_floor (g.position_le hhi)
    rwa [Int.floor_natCast] at h

/-! ## Grids between two bounds -/

/-- The grid on `[lo, hi]`. -/
def between (lo hi : K) (levels : ℕ) (h : lo < hi) (hl : 0 < levels) : Grid K where
  lo := lo
  span := hi - lo
  levels := levels
  span_pos := sub_pos.mpr h
  levels_pos := hl

/-- Where the grid starts at zero, zero is a grid point. -/
theorem between_encode_zero {a : K} {levels : ℕ} (ha : 0 < a) (hl : 0 < levels) :
    (between 0 a levels ha hl).encode 0 = 0 := by
  have h : (between 0 a levels ha hl).position 0 = ((0 : ℤ) : K) := by
    simp [position, between]
  rw [encode, h, roundHalfAway_intCast]

/-- **Zero is not a grid point of a symmetric grid with an odd number of steps.** It sits on the tie
between the two middle codes, the upper one is taken, and that one decodes to half a step. -/
theorem between_decode_encode_zero {a : K} {levels : ℕ} (m : ℕ) (hm : levels = 2 * m + 1)
    (ha : -a < a) (hl : 0 < levels) :
    (between (-a) a levels ha hl).decode ((between (-a) a levels ha hl).encode 0) = a / levels := by
  subst hm
  have h2a : a - -a ≠ 0 := (sub_pos.mpr ha).ne'
  have hpos : (between (-a) a (2 * m + 1) ha hl).position 0 = (m : K) + 1 / 2 := by
    simp only [position, between]
    rw [div_eq_iff h2a]
    push_cast
    ring
  have hlev : ((2 * m + 1 : ℕ) : K) ≠ 0 := Nat.cast_ne_zero.mpr (Nat.succ_ne_zero _)
  rw [encode, hpos, roundHalfAway_natCast_add_half]
  simp only [decode, between]
  push_cast at hlev ⊢
  field_simp
  ring

end Grid

/-! ## Dials -/

/-- `x` reduced to `[0, period)` for a positive period: the remainder of the division rounded down. -/
def floorMod (x period : K) : K := x - period * ⌊x / period⌋

/-- A full turn cut into `counts` equal steps. -/
structure Dial (K : Type*) [Field K] [LinearOrder K] where
  turn : K
  counts : ℕ
  turn_pos : 0 < turn
  counts_pos : 0 < counts

namespace Dial

/-- The code of an angle: the nearest count of the reduced angle, where a full turn is code zero. -/
def encode (d : Dial K) (x : K) : ℤ := roundHalfAway (floorMod x d.turn / d.turn * d.counts) % d.counts

/-- The angle of a code, of any integer. -/
def decode (d : Dial K) (u : ℤ) : K := ((u % d.counts : ℤ) : K) * (d.turn / d.counts)

variable (d : Dial K)

omit [IsStrictOrderedRing K] in
theorem encode_mem (x : K) : 0 ≤ d.encode x ∧ d.encode x < d.counts := by
  have hpos : (0 : ℤ) < d.counts := by exact_mod_cast d.counts_pos
  exact ⟨Int.emod_nonneg _ hpos.ne', Int.emod_lt_of_pos _ hpos⟩

omit [IsStrictOrderedRing K] [FloorRing K] in
/-- Codes a multiple of the counts apart decode to angles whole turns apart. -/
theorem decode_eq_sub (hcast : (d.counts : K) ≠ 0) (u : ℤ) :
    d.decode u = (u : K) * (d.turn / d.counts) - d.turn * ((u / d.counts : ℤ) : K) := by
  have hu : ((u % d.counts : ℤ) : K) = (u : K) - (d.counts : K) * ((u / d.counts : ℤ) : K) := by
    have h := Int.emod_add_mul_ediv u d.counts
    have hK : ((u % d.counts : ℤ) : K) + (d.counts : K) * ((u / d.counts : ℤ) : K) = u := by
      exact_mod_cast congrArg (Int.cast (R := K)) h
    rw [← hK, add_sub_cancel_right]
  rw [decode, hu, sub_mul]
  congr 1
  field_simp

/-- **Angle → code → angle**: a code equal to the angle's modulo the counts is an angle at most half
a step away, up to whole turns. -/
theorem abs_decode_sub_le {u : ℤ} {x : K} (hu : u % d.counts = d.encode x) :
    ∃ turns : ℤ, |d.decode u - (x + d.turn * turns)| ≤ d.turn / d.counts / 2 := by
  have hcounts : (0 : K) < d.counts := Nat.cast_pos.mpr d.counts_pos
  have hstep : 0 < d.turn / d.counts := div_pos d.turn_pos hcounts
  set pos : K := floorMod x d.turn / d.turn * d.counts with hpos
  set r : ℤ := roundHalfAway pos with hr
  -- the code is the rounded position less whole turns
  have hdecode : d.decode u = (r : K) * (d.turn / d.counts) - d.turn * ((r / d.counts : ℤ) : K) := by
    rw [← d.decode_eq_sub hcounts.ne']
    unfold decode
    rw [hu, encode]
  -- and the position is the angle less whole turns
  have hangle : pos * (d.turn / d.counts) = x - d.turn * (⌊x / d.turn⌋ : K) := by
    have hturn := d.turn_pos.ne'
    rw [hpos, floorMod]
    field_simp
  refine ⟨-⌊x / d.turn⌋ - r / d.counts, ?_⟩
  have hdiff : d.decode u - (x + d.turn * ((-⌊x / d.turn⌋ - r / d.counts : ℤ) : K)) =
      ((r : K) - pos) * (d.turn / d.counts) := by
    rw [hdecode, sub_mul, hangle]
    push_cast
    ring
  rw [hdiff, abs_mul, abs_of_pos hstep]
  calc |(r : K) - pos| * (d.turn / d.counts)
      ≤ 1 / 2 * (d.turn / d.counts) := by
        gcongr
        exact abs_roundHalfAway_sub_le pos
    _ = d.turn / d.counts / 2 := by ring

end Dial

end SparqControl.Lib.Quantize
