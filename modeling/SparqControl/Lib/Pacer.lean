/-
# SparqControl.Lib.Pacer — a loop that keeps a period against a clock it does not control.

Each round waits for its slot, works, and moves the slot on by one period. A round that ends after the
next slot has already passed gives that slot up: the schedule restarts one period after the round's end,
so NO round is made up for. What the clock does in between is given by delays that are not negative; a
round's readings are computed from them, so a clock that runs backwards or a wait that ends early cannot
be written down.

* `count_window_le` — no stretch of `m` periods meets more than `m + 1` rounds, whatever the delays;
* `start_of_no_overrun` — while no round overruns its slot, the slots are exactly one period apart, so a
  round is late by its own delays only.
-/
import Mathlib.Algebra.Order.Group.Defs
import Mathlib.Algebra.Order.Monoid.Unbundled.Pow
import Mathlib.Data.List.Basic
import Mathlib.Tactic.Abel

namespace SparqControl.Lib.Pacer

variable {K : Type*} [AddCommGroup K] [LinearOrder K] [IsOrderedAddMonoid K]

/-! ## Rounds -/

/-- How long a round takes to look at the clock, to get going once its wait is over, and to work. -/
structure Delays (K : Type*) [Zero K] [LE K] where
  ready : K
  late : K
  work : K
  ready_nonneg : 0 ≤ ready
  late_nonneg : 0 ≤ late
  work_nonneg : 0 ≤ work

/-- The next slot and what the clock shows. -/
structure Schedule (K : Type*) where
  next : K
  clock : K

/-- When the work of a round starts and ends. -/
structure Round (K : Type*) where
  start : K
  finish : K

/-- The round the delays lead to: it waits only if its slot is still ahead. -/
def Schedule.round (p : Schedule K) (d : Delays K) : Round K :=
  let now := p.clock + d.ready
  let start := (if now < p.next then now + (p.next - now) else now) + d.late
  ⟨start, start + d.work⟩

/-- The slot after a round: one period on, or one period after the round when that has passed. -/
def Schedule.advance (period : K) (p : Schedule K) (d : Delays K) : Schedule K :=
  let finish := (p.round d).finish
  let next := p.next + period
  ⟨if next < finish then finish + period else next, finish⟩

/-- The rounds of a loop. -/
def rounds (period : K) : Schedule K → List (Delays K) → List (Round K)
  | _, [] => []
  | p, d :: ds => p.round d :: rounds period (p.advance period d) ds

/-- The loop after its rounds. -/
def stateAfter (period : K) (p : Schedule K) (ds : List (Delays K)) : Schedule K :=
  ds.foldl (Schedule.advance period) p

/-! ## One round -/

omit [IsOrderedAddMonoid K] in
theorem start_round (p : Schedule K) (d : Delays K) :
    (p.round d).start = max (p.clock + d.ready) p.next + d.late := by
  unfold Schedule.round
  dsimp only
  split
  · rename_i hahead
    rw [add_sub_cancel, max_eq_right hahead.le]
  · rename_i hpast
    rw [max_eq_left (not_lt.mp hpast)]

theorem next_le_start (p : Schedule K) (d : Delays K) : p.next ≤ (p.round d).start := by
  rw [start_round]
  exact le_add_of_le_of_nonneg (le_max_right ..) d.late_nonneg

section Advance

variable {period : K}

theorem next_add_le_advance (hperiod : 0 ≤ period) (p : Schedule K) (d : Delays K) :
    p.next + period ≤ (p.advance period d).next := by
  unfold Schedule.advance
  dsimp only
  split
  · rename_i hpast
    exact hpast.le.trans (le_add_of_nonneg_right hperiod)
  · exact le_rfl

/-- The slot after a round is never before its end. -/
theorem finish_le_advance (hperiod : 0 ≤ period) (p : Schedule K) (d : Delays K) :
    (p.round d).finish ≤ (p.advance period d).next := by
  unfold Schedule.advance
  dsimp only
  split
  · exact le_add_of_nonneg_right hperiod
  · rename_i hahead
    exact not_lt.mp hahead

omit [IsOrderedAddMonoid K] in
/-- A round that ends by the next slot leaves the schedule as it was. -/
theorem advance_next_of_le {p : Schedule K} {d : Delays K}
    (h : (p.round d).finish ≤ p.next + period) : (p.advance period d).next = p.next + period := by
  unfold Schedule.advance
  dsimp only
  rw [if_neg (not_lt.mpr h)]

/-! ## Runs -/

/-- The rounds from a slot on are at least a period apart from it, each. -/
theorem le_start_of_getElem? (hperiod : 0 ≤ period) {p : Schedule K} {ds : List (Delays K)} {k : ℕ}
    {r : Round K} (h : (rounds period p ds)[k]? = some r) : p.next + k • period ≤ r.start := by
  induction ds generalizing p k with
  | nil => cases h
  | cons d ds ih =>
      rw [rounds] at h
      cases k with
      | zero =>
          rw [List.getElem?_cons_zero] at h
          cases h
          rw [zero_nsmul, add_zero]
          exact next_le_start p d
      | succ k =>
          rw [List.getElem?_cons_succ] at h
          calc p.next + (k + 1) • period
              = p.next + period + k • period := by rw [succ_nsmul]; abel
            _ ≤ (p.advance period d).next + k • period :=
                add_le_add (next_add_le_advance hperiod p d) le_rfl
            _ ≤ r.start := ih h

/-- Fewer than `m` periods after its slot a loop has started at most `m` rounds. -/
theorem count_before_le (hperiod : 0 ≤ period) (p : Schedule K) (ds : List (Delays K)) (m : ℕ) :
    ((rounds period p ds).filter fun r => r.start < p.next + m • period).length ≤ m := by
  have hrest : ((rounds period p ds).drop m).filter (fun r => r.start < p.next + m • period) = [] := by
    rw [List.filter_eq_nil_iff]
    intro r hr
    obtain ⟨k, hk⟩ := List.mem_iff_getElem?.mp hr
    rw [List.getElem?_drop] at hk
    have hstart := le_start_of_getElem? hperiod hk
    rw [decide_eq_true_iff, not_lt]
    exact (add_le_add le_rfl (nsmul_le_nsmul_left hperiod (Nat.le_add_right m k))).trans hstart
  calc ((rounds period p ds).filter fun r => r.start < p.next + m • period).length
      = (((rounds period p ds).take m).filter fun r => r.start < p.next + m • period).length := by
        nth_rewrite 1 [← List.take_append_drop m (rounds period p ds)]
        rw [List.filter_append, hrest, List.append_nil]
    _ ≤ ((rounds period p ds).take m).length := List.length_filter_le ..
    _ ≤ m := List.length_take_le ..

/-- **No bursts.** A stretch of `m` periods, wherever it begins, meets at most `m + 1` rounds: one that was
still under way, or the first to start, and one more for each period. -/
theorem count_window_le (hperiod : 0 ≤ period) (p : Schedule K) (ds : List (Delays K)) (a : K) (m : ℕ) :
    ((rounds period p ds).filter fun r => a ≤ r.finish ∧ r.start < a + m • period).length ≤ m + 1 := by
  -- skip to the first round that reaches into the stretch; from its end on the slots count
  induction ds generalizing p with
  | nil => exact Nat.zero_le _
  | cons d ds ih =>
      rw [rounds, List.filter_cons]
      by_cases hin : a ≤ (p.round d).finish
      · have hnext : a ≤ (p.advance period d).next :=
          hin.trans (finish_le_advance hperiod p d)
        have htail : ((rounds period (p.advance period d) ds).filter
            fun r => a ≤ r.finish ∧ r.start < a + m • period).length ≤ m := by
          refine le_trans ?_ (count_before_le hperiod (p.advance period d) ds m)
          refine (List.monotone_filter_right _ fun r hr => ?_).length_le
          rw [decide_eq_true_iff] at hr ⊢
          exact hr.2.trans_le (add_le_add hnext le_rfl)
        split
        · rw [List.length_cons]
          exact Nat.succ_le_succ htail
        · exact Nat.le_succ_of_le htail
      · rw [if_neg fun hcount => hin (decide_eq_true_iff.mp hcount).1]
        exact ih _

omit [IsOrderedAddMonoid K] in
/-- **No drift.** While every round ends by the slot after its own, the slots are exactly a period
apart. -/
theorem next_stateAfter {p : Schedule K} {ds : List (Delays K)}
    (h : ∀ j r, (rounds period p ds)[j]? = some r → r.finish ≤ p.next + (j + 1) • period) :
    (stateAfter period p ds).next = p.next + ds.length • period := by
  induction ds generalizing p with
  | nil => rw [stateAfter, List.foldl_nil, List.length_nil, zero_nsmul, add_zero]
  | cons d ds ih =>
      have hfirst : (p.advance period d).next = p.next + period := by
        refine advance_next_of_le ?_
        have h0 := h 0 (p.round d) rfl
        rwa [zero_add, one_nsmul] at h0
      have hshift : ∀ n : ℕ, p.next + period + n • period = p.next + (n + 1) • period := by
        intro n
        rw [succ_nsmul]
        abel
      rw [stateAfter, List.foldl_cons, ← stateAfter, ih, hfirst, List.length_cons, hshift]
      intro j r hr
      rw [hfirst, hshift]
      exact h (j + 1) r hr

omit [IsOrderedAddMonoid K] in
theorem rounds_take (p : Schedule K) (ds : List (Delays K)) (k : ℕ) :
    rounds period p (ds.take k) = (rounds period p ds).take k := by
  induction ds generalizing p k with
  | nil => simp only [List.take_nil, rounds]
  | cons d ds ih =>
      cases k with
      | zero => rfl
      | succ k => simp only [List.take_succ_cons, rounds, ih]

omit [IsOrderedAddMonoid K] in
/-- A round is the one its delays lead to from where the rounds before it left the loop. -/
theorem getElem?_rounds (p : Schedule K) (ds : List (Delays K)) (k : ℕ) :
    (rounds period p ds)[k]? = ds[k]?.map (stateAfter period p (ds.take k)).round := by
  induction ds generalizing p k with
  | nil => rfl
  | cons d ds ih =>
      cases k with
      | zero => rfl
      | succ k =>
          rw [rounds, List.getElem?_cons_succ, List.getElem?_cons_succ, List.take_succ_cons, ih]
          rfl

omit [IsOrderedAddMonoid K] in
/-- The clock shows the end of the last round. -/
theorem clock_stateAfter (p : Schedule K) (ds : List (Delays K)) :
    (stateAfter period p ds).clock = ((rounds period p ds).getLast?.map Round.finish).getD p.clock := by
  induction ds generalizing p with
  | nil => rfl
  | cons d ds ih =>
      rw [stateAfter, List.foldl_cons, ← stateAfter, ih, rounds, List.getLast?_cons]
      cases (rounds period (p.advance period d) ds).getLast? <;> rfl

omit [IsOrderedAddMonoid K] in
/-- A round none of whose predecessors overran starts at its own slot, or as soon as it looked at the
clock, plus what it took to get going. -/
theorem start_of_no_overrun {p : Schedule K} {ds : List (Delays K)} {k : ℕ} {d : Delays K}
    {r : Round K} (hd : ds[k]? = some d) (hr : (rounds period p ds)[k]? = some r)
    (h : ∀ j r', j < k → (rounds period p ds)[j]? = some r' →
      r'.finish ≤ p.next + (j + 1) • period) :
    r.start = max ((((rounds period p ds).take k).getLast?.map Round.finish).getD p.clock + d.ready)
      (p.next + k • period) + d.late := by
  have hlen : k < ds.length := (List.getElem?_eq_some_iff.mp hd).1
  rw [getElem?_rounds, hd] at hr
  cases hr
  rw [start_round, clock_stateAfter, next_stateAfter, rounds_take, List.length_take,
    Nat.min_eq_left hlen.le]
  intro j r' hr'
  rw [rounds_take, List.getElem?_take] at hr'
  split at hr'
  · exact h j r' (by assumption) hr'
  · cases hr'

end Advance

end SparqControl.Lib.Pacer
