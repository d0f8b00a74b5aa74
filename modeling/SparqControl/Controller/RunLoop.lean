/-
# SparqControl.Controller.RunLoop — the loop of `run`, and what it can put on the bus.

`run` ticks once a control period until `_running` is cleared or a tick raises. A tick that takes longer
than a period is not made up for. The loop is the one of `Lib.Pacer` with `tick` as its work; the clock
readings and the length of the sleep come from outside, as delays that are not negative.

Each mode sends a bounded number of frames, so the loop has a bound of its own: however the ticks are
delayed and whatever the operator and the policy ask for, a stretch of `m` control periods sees at most
`m + 1` ticks, one that was begun before it included, each with one IMU request and at most as many
actuator frames as there are actuators or places in the policy's command (`frames_in_window_le`).
-/
import SparqControl.Controller.Tick
import SparqControl.Lib.Pacer
import Mathlib.Algebra.Order.BigOperators.Group.List
import Mathlib.Data.List.Perm.Subperm

namespace SparqControl.Controller

open SparqControl.Hal SparqControl.Hw SparqControl.Shm
open SparqControl.Lib (Dict)
open SparqControl.Lib.Pacer

section RunLoop

variable {K : Type} [Field K] [LinearOrder K] [IsStrictOrderedRing K] [FloorRing K]

/-! ## The loop -/

/-- What one pass of the loop meets: its delays, a stop request seen by the loop's test or after the
sleep, and what the tick finds. -/
structure LoopPass (K : Type) [Field K] [LinearOrder K] where
  delays : Delays K
  stopRequested : Bool
  input : TickInput K

/-- A tick the loop made, and the controller it left. -/
structure LoopTick (K : Type) [Field K] [LinearOrder K] where
  round : Round K
  outcome : TickOutcome
  after : ControllerState K

/-- `control_period_s`. -/
def controlPeriodS (controlHz : K) : K := 1 / controlHz

/-- The passes of `run` from a schedule on. An exception of the tick leaves the loop. -/
def loopFrom (cfg : RobotControllerConfig K) (controlPeriod : K) :
    Schedule K → ControllerState K → List (LoopPass K) → List (LoopTick K)
  | _, _, [] => []
  | schedule, s, pass :: passes =>
      if pass.stopRequested then []
      else
        let (s', outcome) := tick cfg s pass.input
        ⟨schedule.round pass.delays, outcome, s'⟩ ::
          match outcome.raised with
          | some _ => []
          | none => loopFrom cfg controlPeriod (schedule.advance controlPeriod pass.delays) s' passes

/-- `run`, entered when the clock shows `entered`: the first slot is that very moment. -/
def runLoop (cfg : RobotControllerConfig K) (controlHz entered : K) (s : ControllerState K)
    (passes : List (LoopPass K)) : List (LoopTick K) :=
  loopFrom cfg (controlPeriodS controlHz) ⟨entered, entered⟩ s passes

/-- Everything a tick put on the bus. -/
def TickOutcome.frames (outcome : TickOutcome) : List CANFrame :=
  outcome.imuFrames ++ outcome.actuatorFrames

/-- The rounds of the loop are the first ones of the pacer's. -/
theorem rounds_loopFrom (cfg : RobotControllerConfig K) (period : K) (schedule : Schedule K)
    (s : ControllerState K) (passes : List (LoopPass K)) :
    (loopFrom cfg period schedule s passes).map LoopTick.round <+:
      rounds period schedule (passes.map LoopPass.delays) := by
  induction passes generalizing schedule s with
  | nil => exact List.prefix_rfl
  | cons pass passes ih =>
      rw [loopFrom, List.map_cons, rounds]
      split
      · exact List.nil_prefix
      · dsimp only
        rw [List.map_cons, List.prefix_cons_inj]
        split
        · exact List.nil_prefix
        · exact ih _ _

/-- Every tick of the loop is a tick from some state on some input. -/
theorem exists_tick_of_mem {cfg : RobotControllerConfig K} {period : K} {schedule : Schedule K}
    {s : ControllerState K} {passes : List (LoopPass K)} {t : LoopTick K}
    (h : t ∈ loopFrom cfg period schedule s passes) :
    ∃ s' input, t.outcome = (tick cfg s' input).2 := by
  induction passes generalizing schedule s with
  | nil => cases h
  | cons pass passes ih =>
      rw [loopFrom] at h
      split at h
      · cases h
      · dsimp only at h
        rcases List.mem_cons.mp h with rfl | h
        · exact ⟨s, pass.input, rfl⟩
        · split at h
          · cases h
          · exact ih h

/-! ## What one tick puts on the bus -/

theorem length_sendEach_le (daemonAccepts : List CANFrame → CANFrame → Bool) (earlier : List CANFrame)
    (requests : List (Except PyError CANFrame)) :
    (sendEach daemonAccepts earlier requests).1.length ≤ requests.length := by
  induction requests generalizing earlier with
  | nil => exact Nat.le_refl 0
  | cons r rest ih =>
      rcases sendEach_cons daemonAccepts earlier r rest with ⟨e, hstop⟩ | ⟨f, -, hsent⟩
      · rw [hstop]
        exact Nat.zero_le _
      · rw [hsent]
        exact Nat.succ_le_succ (ih _)

omit [LinearOrder K] [IsStrictOrderedRing K] [FloorRing K] in
theorem length_imuRequests_le (cfg : RobotControllerConfig K) : (imuRequests cfg).length ≤ 1 := by
  unfold imuRequests
  split
  · split <;> exact Nat.le_refl 1
  · exact Nat.zero_le 1

omit [FloorRing K] in
/-- Distinct ids, looked up among the actuators, find at most all of them. -/
theorem length_filterMap_get?_le (cfg : RobotControllerConfig K) {ids : List ℤ} (hids : ids.Nodup)
    {β : Type} (f : ℤ → SPGActuatorProtocol K → β) :
    (ids.filterMap fun canId => (cfg.actuators.get? canId).map (f canId)).length ≤
      cfg.actuators.keys.length := by
  -- an id that finds an actuator is a key; distinct keys are no more than there are
  have hlen : (ids.filterMap fun canId => (cfg.actuators.get? canId).map (f canId)).length ≤
      (ids.filter fun canId => (cfg.actuators.get? canId).isSome).length := by
    clear hids
    induction ids with
    | nil => exact Nat.le_refl 0
    | cons id ids ih =>
        rw [List.filterMap_cons, List.filter_cons]
        cases hget : cfg.actuators.get? id with
        | none => exact ih
        | some actuator => exact Nat.succ_le_succ ih
  refine hlen.trans (List.Subperm.length_le (List.subperm_of_subset (hids.filter _) ?_))
  intro canId hmem
  have hsome := (List.mem_filter.mp hmem).2
  unfold RobotControllerConfig.actuators at hsome ⊢
  rw [Dict.get?_tabulate] at hsome
  rw [Dict.mem_keys_tabulate]
  by_contra hnot
  rw [if_neg hnot] at hsome
  cases hsome

/-- What a mode sends fits the actuators, or the places of the policy's command. -/
theorem length_sendForMode_le (cfg : RobotControllerConfig K) (env : TickEnv K)
    (earlier : List CANFrame) (s : ControllerState K) (op : OperatorCommandC) :
    (sendForMode cfg env earlier s op).2.1.length ≤
      max cfg.actuators.keys.length maxControlTargets := by
  have hall : ∀ (source : OutputSource) (encode : SPGActuatorProtocol K → CANFrame),
      (sendToAll cfg env earlier s source encode).2.1.length ≤ cfg.actuators.keys.length := by
    intro source encode
    refine (length_sendEach_le ..).trans (Nat.le_of_eq ?_)
    rw [List.length_map, List.length_map, Dict.values, Dict.keys, List.length_map, List.length_map]
  unfold sendForMode
  split
  · exact (hall _ _).trans (Nat.le_max_left ..)
  · exact (hall _ _).trans (Nat.le_max_left ..)
  · exact (hall _ _).trans (Nat.le_max_left ..)
  · unfold sendZeroSetAll
    split
    · exact Nat.zero_le _
    · refine ((length_sendEach_le ..).trans (length_filterMap_get?_le cfg ?_ _)).trans
        (Nat.le_max_left ..)
      split <;> exact Dict.sortedKeys_nodup _
  · exact ((length_sendEach_le ..).trans
      (length_filterMap_get?_le cfg (Dict.sortedKeys_nodup _) _)).trans (Nat.le_max_left ..)
  · -- the policy may name one actuator twice: only the array bounds it
    refine ((length_sendEach_le ..).trans ?_).trans (Nat.le_max_right _ maxControlTargets)
    rw [List.length_map]
    refine (List.length_filterMap_le ..).trans ((List.length_take_le ..).trans ?_)
    exact Nat.min_le_right ..

theorem length_frames_tick_le (cfg : RobotControllerConfig K) (s : ControllerState K)
    (input : TickInput K) :
    (tick cfg s input).2.frames.length ≤ 1 + max cfg.actuators.keys.length maxControlTargets := by
  have himu : (tick cfg s input).2.imuFrames.length ≤ 1 := by
    rw [tick_imuFrames]
    exact (length_sendEach_le ..).trans (length_imuRequests_le cfg)
  have hactuators : (tick cfg s input).2.actuatorFrames.length ≤
      max cfg.actuators.keys.length maxControlTargets := by
    cases hreads : readsSlot cfg input with
    | false =>
        rw [(tick_of_not_readsSlot hreads).2.1]
        exact Nat.zero_le _
    | true =>
        rw [tick_of_readsSlot hreads]
        exact length_sendForMode_le ..
  rw [TickOutcome.frames, List.length_append]
  exact Nat.add_le_add himu hactuators

/-! ## What the loop puts on the bus -/

/-- The ticks of the loop that are under way at some time in `[a, a + m · period)`. -/
def ticksInWindow (controlHz a : K) (m : ℕ) (ticks : List (LoopTick K)) : List (LoopTick K) :=
  ticks.filter fun t => a ≤ t.round.finish ∧ t.round.start < a + m • controlPeriodS controlHz

/-- The loop has as few ticks in a stretch as its pacer. -/
theorem length_ticksInWindow_le (cfg : RobotControllerConfig K) {controlHz : K} (hhz : 0 < controlHz)
    (entered : K) (s : ControllerState K) (passes : List (LoopPass K)) (a : K) (m : ℕ) :
    (ticksInWindow controlHz a m (runLoop cfg controlHz entered s passes)).length ≤ m + 1 := by
  have hperiod : 0 ≤ controlPeriodS controlHz := (one_div_pos.mpr hhz).le
  have hcount := count_window_le hperiod ⟨entered, entered⟩ (passes.map LoopPass.delays) a m
  have hfront := rounds_loopFrom cfg (controlPeriodS controlHz) ⟨entered, entered⟩ s passes
  refine le_trans ?_ hcount
  refine le_trans (Nat.le_of_eq ?_) (hfront.sublist.filter _).length_le
  rw [List.filter_map, List.length_map]
  rfl

/-- What the clock showed when the last of the ticks was over. -/
def clockAfter (entered : K) (ticks : List (LoopTick K)) : K :=
  (ticks.getLast?.map fun t => t.round.finish).getD entered

/-- A tick starts at its own slot when no tick before it overran. -/
theorem start_runLoop {cfg : RobotControllerConfig K} {controlHz entered : K} {s : ControllerState K}
    {passes : List (LoopPass K)} {k : ℕ} {t : LoopTick K} {pass : LoopPass K}
    (ht : (runLoop cfg controlHz entered s passes)[k]? = some t) (hpass : passes[k]? = some pass)
    (h : ∀ j t', j < k → (runLoop cfg controlHz entered s passes)[j]? = some t' →
      t'.round.finish ≤ entered + (j + 1) • controlPeriodS controlHz) :
    t.round.start = max (clockAfter entered ((runLoop cfg controlHz entered s passes).take k) +
      pass.delays.ready) (entered + k • controlPeriodS controlHz) + pass.delays.late := by
  have hfront := rounds_loopFrom cfg (controlPeriodS controlHz) ⟨entered, entered⟩ s passes
  change (runLoop cfg controlHz entered s passes).map LoopTick.round <+: _ at hfront
  have hlen : k < (runLoop cfg controlHz entered s passes).length :=
    (List.getElem?_eq_some_iff.mp ht).1
  obtain ⟨rest, hrest⟩ := hfront
  -- up to the tick the loop's rounds and the pacer's are the same ones
  have hsame : ∀ j ≤ k, (rounds (controlPeriodS controlHz) ⟨entered, entered⟩
      (passes.map LoopPass.delays))[j]? =
        (runLoop cfg controlHz entered s passes)[j]?.map LoopTick.round := by
    intro j hj
    rw [← List.getElem?_map, ← hrest]
    exact List.getElem?_append_left (by rw [List.length_map]; omega)
  have htake : (rounds (controlPeriodS controlHz) ⟨entered, entered⟩
      (passes.map LoopPass.delays)).take k =
        ((runLoop cfg controlHz entered s passes).take k).map LoopTick.round := by
    rw [List.map_take, ← hrest, List.take_append_of_le_length (by rw [List.length_map]; omega)]
  have hdelays : (passes.map LoopPass.delays)[k]? = some pass.delays := by
    rw [List.getElem?_map, hpass]
    rfl
  have hround : (rounds (controlPeriodS controlHz) ⟨entered, entered⟩
      (passes.map LoopPass.delays))[k]? = some t.round := by
    rw [hsame k le_rfl, ht]
    rfl
  rw [start_of_no_overrun hdelays hround ?_, htake, List.getLast?_map, Option.map_map]
  · rfl
  · intro j r' hj hr'
    rw [hsame j hj.le, Option.map_eq_some_iff] at hr'
    obtain ⟨t', ht', rfl⟩ := hr'
    exact h j t' hj ht'

/-- **The loop never floods the bus, and keeps its schedule while it can.** -/
theorem frames_in_window_le (cfg : RobotControllerConfig K) {controlHz : K} (hhz : 0 < controlHz)
    (entered : K) (s : ControllerState K) (passes : List (LoopPass K)) :
    (∀ (a : K) (m : ℕ),
      ((ticksInWindow controlHz a m (runLoop cfg controlHz entered s passes)).flatMap
          fun t => t.outcome.frames).length ≤
        (m + 1) * (1 + max cfg.actuators.keys.length maxControlTargets)) ∧
      (∀ (k : ℕ) (t : LoopTick K) (pass : LoopPass K),
        (runLoop cfg controlHz entered s passes)[k]? = some t → passes[k]? = some pass →
        (∀ j t', j < k → (runLoop cfg controlHz entered s passes)[j]? = some t' →
          t'.round.finish ≤ entered + (j + 1) • controlPeriodS controlHz) →
        t.round.start = max (clockAfter entered ((runLoop cfg controlHz entered s passes).take k) +
          pass.delays.ready) (entered + k • controlPeriodS controlHz) + pass.delays.late) := by
  refine ⟨fun a m => ?_, fun k t pass ht hpass h => start_runLoop ht hpass h⟩
  have hcount := length_ticksInWindow_le cfg hhz entered s passes a m
  rw [List.length_flatMap]
  refine le_trans (List.sum_le_card_nsmul _
    (1 + max cfg.actuators.keys.length maxControlTargets) ?_) ?_
  · intro n hn
    obtain ⟨t, ht, rfl⟩ := List.mem_map.mp hn
    obtain ⟨s', input, hout⟩ := exists_tick_of_mem (List.mem_filter.mp ht).1
    rw [hout]
    exact length_frames_tick_le cfg s' input
  · rw [List.length_map, nsmul_eq_mul, Nat.cast_id]
    exact Nat.mul_le_mul_right _ hcount

end RunLoop

/-- A pass that waits for its slot and works for five periods of a 500 Hz loop. -/
def slowPass : LoopPass ℚ where
  delays := ⟨0, 0, 1 / 100, by norm_num, by norm_num, by norm_num⟩
  stopRequested := false
  input := tickOn 0 5 .disable

/-- Ten periods from the middle of the first tick on. -/
theorem frames_in_window_le_500 :
    (0 : ℚ) < 500 ∧
      ((ticksInWindow 500 (1 / 200) 10 (runLoop twoActuatorConfig 500 0 freshController
          (List.replicate 20 slowPass))).flatMap fun t => t.outcome.frames).length ≤
        (10 + 1) * (1 + max twoActuatorConfig.actuators.keys.length maxControlTargets) :=
  have hhz : (0 : ℚ) < 500 := by norm_num
  ⟨hhz, (frames_in_window_le twoActuatorConfig hhz 0 freshController
    (List.replicate 20 slowPass)).1 (1 / 200) 10⟩

end SparqControl.Controller
