/-
# SparqControl.Controller.Arming — what stands between DISABLED and NORMAL.

A controller that reached NORMAL was ARMED: it consumed ENABLE, stayed in ENABLING for the whole
dwell while it sent enable frames, and left ENABLING for DAMPING. The law rests on three rows of the
table and on no path enumeration: only an early DAMPING command or the end of the dwell leads into
{DAMPING, NORMAL}, only ENABLE leads into ENABLING, and the enter time is the clock value of the tick
that entered. The two "latest change" positions of the run are the ENABLE tick and the tick that left
ENABLING.

The state machine takes a DAMPING command in DISABLED, in ZERO_SETTING and before the dwell is over,
and RUN asks only for DAMPING. `EarlyDamping` is that step; the law holds of every run without it.
-/
import SparqControl.Controller.Tick

namespace SparqControl.Controller

open SparqControl.Hal SparqControl.Hw SparqControl.Shm
open SparqControl.Lib.Trace
open ControllerStateMachine (nextMode)

/-! ## The rows that lead to NORMAL -/

/-- The modes RUN leads to, and the one it starts from. -/
def ControllerMode.driven (mode : ControllerMode) : Bool :=
  mode == .damping || mode == .normal

/-- Entering {DAMPING, NORMAL} takes a DAMPING command or the end of the dwell. -/
theorem nextMode_driven {mode : ControllerMode} {code : OperatorCommandCode} {dwellOver : Bool}
    (hmode : mode.driven = false) (h : (nextMode mode code dwellOver).driven = true) :
    nextMode mode code dwellOver = .damping ∧
      ((mode = .enabling ∧ dwellOver = true) ∨
        (code = .damping ∧ (mode = .disabled ∨ mode = .zeroSetting ∨
          (mode = .enabling ∧ dwellOver = false)))) := by
  cases mode <;> cases code <;> cases dwellOver <;> simp_all [nextMode, ControllerMode.driven]

/-- Entering ENABLING takes an ENABLE command. -/
theorem nextMode_enabling {mode : ControllerMode} {code : OperatorCommandCode} {dwellOver : Bool}
    (hmode : mode ≠ .enabling) (h : nextMode mode code dwellOver = .enabling) : code = .enable := by
  cases mode <;> cases code <;> cases dwellOver <;> simp_all [nextMode]

section Arming

variable {K : Type} [Field K] [LinearOrder K] [IsStrictOrderedRing K] [FloorRing K]

/-- The tick consumed a DAMPING command that skips the enable dwell or what is left of it. -/
def EarlyDamping (cfg : RobotControllerConfig K) (e : TickEntry K) : Prop :=
  consumed cfg e = some .damping ∧
    (e.before.stateMachine.mode = .disabled ∨ e.before.stateMachine.mode = .zeroSetting ∨
      (e.before.stateMachine.mode = .enabling ∧ dwellOver e.before e.input = false))

/-- A tick that enters {DAMPING, NORMAL} is an early DAMPING command, or leaves ENABLING for DAMPING at
the end of the dwell. -/
theorem tick_enters_driven {cfg : RobotControllerConfig K} {s : ControllerState K}
    {input : TickInput K} (hbefore : s.stateMachine.mode.driven = false)
    (hafter : (tick cfg s input).1.stateMachine.mode.driven = true)
    (hearly : ¬ EarlyDamping cfg (entry (tick cfg) s input)) :
    (tick cfg s input).1.stateMachine.mode = .damping ∧ s.stateMachine.mode = .enabling ∧
      dwellOver s input = true := by
  have hchange : s.stateMachine.mode ≠ (tick cfg s input).1.stateMachine.mode := by
    intro h
    rw [← h, hbefore] at hafter
    cases hafter
  obtain ⟨hnext, -⟩ := tick_mode_change hchange
  rw [hnext] at hafter ⊢
  obtain ⟨hdamping, hend | ⟨hcode, hcut⟩⟩ := nextMode_driven hbefore hafter
  · exact ⟨hdamping, hend⟩
  · exact absurd ⟨consumedCode_of_getD (by decide) hcode, hcut⟩ hearly

/-- A tick that ends in ENABLING without an exception sends every configured actuator one enable
frame, and no other frame. -/
theorem tick_sends_enable {cfg : RobotControllerConfig K} {s : ControllerState K}
    {input : TickInput K} (hmode : (tick cfg s input).1.stateMachine.mode = .enabling)
    (hraised : (tick cfg s input).2.raised = none) (canId : ℤ) :
    framesTo canId (tick cfg s input).2.actuatorFrames =
      if canId ∈ cfg.canIds then [⟨canId, [0xC1, 0, 0, 0, 0, 0, 0, 0]⟩] else [] := by
  have hsend : ∀ (env : TickEnv K) earlier (s' : ControllerState K) op,
      s'.stateMachine.mode = (tick cfg s input).1.stateMachine.mode →
        sendForMode cfg env earlier s' op = sendEnableAll cfg env earlier s' := by
    intro env earlier s' op hs'
    unfold sendForMode
    rw [hs', hmode]
  exact tick_framesTo SPGActuatorProtocol.encodeEnableFrame_eq hsend hraised canId

/-- A run that is in ENABLING at `n` and did not start there consumed ENABLE at some `i ≤ n`, has
stayed in ENABLING since, and its enter time is the clock value of that tick. -/
theorem enabling_since_enable {cfg : RobotControllerConfig K} {s : ControllerState K}
    {inputs : List (TickInput K)} {n : ℕ} {en : TickEntry K}
    (hs : s.stateMachine.mode ≠ .enabling) (hn : (run cfg s inputs)[n]? = some en)
    (hmode : modeAfter en = .enabling) :
    ∃ i ei, i ≤ n ∧ (run cfg s inputs)[i]? = some ei ∧ consumed cfg ei = some .enable ∧
      (∀ k ek, i ≤ k → k ≤ n → (run cfg s inputs)[k]? = some ek → modeAfter ek = .enabling) ∧
      en.after.stateMachine.modeEnterTime = ei.input.now := by
  have hsame : ∀ (t : ControllerState K) (input : TickInput K),
      t.stateMachine.mode = (tick cfg t input).1.stateMachine.mode →
        t.stateMachine.modeEnterTime = (tick cfg t input).1.stateMachine.modeEnterTime :=
    fun t input h => (tick_modeEnterTime_of_same h.symm).symm
  have hstamp : ∀ (t : ControllerState K) (input : TickInput K),
      t.stateMachine.mode ≠ (tick cfg t input).1.stateMachine.mode →
        some input.now = some (tick cfg t input).1.stateMachine.modeEnterTime :=
    fun t input h => congrArg some (tick_mode_change h).2.symm
  rcases trace_stamp hsame hstamp hn with ⟨i, ei, hin, hi, hchange, hkeep, htime⟩ | ⟨hnever, -⟩
  · have hstay : ∀ k ek, i ≤ k → k ≤ n → (run cfg s inputs)[k]? = some ek →
        modeAfter ek = .enabling := by
      intro k ek hik hk hek
      rw [← hmode]
      exact (trace_unchanged (f := fun t : ControllerState K => t.stateMachine.mode) hek hk hn
        fun l el hl hln hel => hkeep l el (by omega) hln hel).symm
    have henter : ei.after.stateMachine.mode = .enabling := hstay i ei (Nat.le_refl _) hin hi
    refine ⟨i, ei, hin, hi, ?_, hstay, (Option.some.inj htime).symm⟩
    rw [after_eq _ hi] at hchange henter
    refine consumedCode_of_getD (by decide)
      (nextMode_enabling ?_ ((tick_mode_change hchange).1.symm.trans henter))
    intro hb
    exact hchange (hb.trans henter.symm)
  · have hstart : en.after.stateMachine.mode = s.stateMachine.mode :=
      trace_unchanged_start (f := fun t : ControllerState K => t.stateMachine.mode) hn hnever
    exact absurd (hstart.symm.trans hmode) hs

/-- The dwell is fixed for a whole run. -/
theorem run_enableDurationS {cfg : RobotControllerConfig K} {s : ControllerState K}
    {inputs : List (TickInput K)} {e : TickEntry K} (he : e ∈ run cfg s inputs) :
    e.before.stateMachine.enableDurationS = s.stateMachine.enableDurationS := by
  have hstep : ∀ (t : ControllerState K) (input : TickInput K),
      t.stateMachine.enableDurationS = s.stateMachine.enableDurationS →
        (tick cfg t input).1.stateMachine.enableDurationS = s.stateMachine.enableDurationS :=
    fun t input ht => (tick_enableDurationS cfg t input).trans ht
  exact (trace_invariant hstep rfl inputs e he).1

/-- The run was armed before position `n`: it consumed ENABLE at `i`, ticks `i` to `j` were in
ENABLING and sent every configured actuator its enable frame (unless a send raised), tick `j + 1`
left for DAMPING at least the dwell after tick `i`, and no tick from `i` to `n` was in DISABLED,
ESTOP or ZERO_SETTING. -/
def ArmedBefore (cfg : RobotControllerConfig K) (enableDurationS : K)
    (tr : List (TickEntry K)) (n : ℕ) : Prop :=
  ∃ i j ei ed, i ≤ j ∧ j + 1 ≤ n ∧ tr[i]? = some ei ∧ tr[j + 1]? = some ed ∧
    consumed cfg ei = some .enable ∧
    (∀ k ek, i ≤ k → k ≤ j → tr[k]? = some ek →
      modeAfter ek = .enabling ∧ (ek.out.raised = none → ∀ canId,
        framesTo canId ek.out.actuatorFrames =
          if canId ∈ cfg.canIds then [⟨canId, [0xC1, 0, 0, 0, 0, 0, 0, 0]⟩] else [])) ∧
    modeAfter ed = .damping ∧ enableDurationS ≤ ed.input.now - ei.input.now ∧
    ∀ k ek, i ≤ k → k ≤ n → tr[k]? = some ek →
      modeAfter ek ≠ .disabled ∧ modeAfter ek ≠ .estop ∧ modeAfter ek ≠ .zeroSetting

/-- **The arming law**, for runs in which no DAMPING command cuts the dwell short: a run from
DISABLED that is in NORMAL was armed before. -/
theorem armed_of_normal (cfg : RobotControllerConfig K) (s : ControllerState K)
    (inputs : List (TickInput K)) (hs : s.stateMachine.mode = .disabled)
    (hcond : ∀ e ∈ run cfg s inputs, ¬ EarlyDamping cfg e) {n : ℕ} {en : TickEntry K}
    (hn : (run cfg s inputs)[n]? = some en) (hnormal : modeAfter en = .normal) :
    ArmedBefore cfg s.stateMachine.enableDurationS (run cfg s inputs) n := by
  have hdrivenNow : en.after.stateMachine.mode.driven = true := by
    rw [show en.after.stateMachine.mode = .normal from hnormal]
    rfl
  -- the tick that entered {DAMPING, NORMAL} for the last time
  obtain ⟨m, em, hmn, hm, hchange, hdriven⟩ := trace_latest_change (s := s)
    (f := fun t : ControllerState K => t.stateMachine.mode.driven) hn
    (by rw [hdrivenNow, hs]; decide)
  have hafter : em.after.stateMachine.mode.driven = true :=
    (hdriven m em (Nat.le_refl _) hmn hm).trans hdrivenNow
  have hbefore : em.before.stateMachine.mode.driven = false := by
    rw [hafter] at hchange
    exact Bool.eq_false_of_not_eq_true hchange
  have hmem : em ∈ run cfg s inputs := List.mem_of_getElem? hm
  -- without an early DAMPING command it left ENABLING at the end of the dwell
  obtain ⟨hdamping, henabling, hdwell⟩ := @tick_enters_driven K _ _ _ _ cfg em.before em.input hbefore
    (by rw [← after_eq _ hm]; exact hafter) (by rw [← eq_entry_of_mem _ hmem]; exact hcond em hmem)
  obtain ⟨j, rfl⟩ : ∃ j, m = j + 1 := by
    cases m with
    | zero => rw [before_zero hm, hs] at henabling; cases henabling
    | succ j => exact ⟨j, rfl⟩
  obtain ⟨ej, hj, hshared⟩ := exists_previous hm
  obtain ⟨i, ei, hij, hi, henable, hstay, htime⟩ := enabling_since_enable
    (by rw [hs]; decide) hj (show modeAfter ej = .enabling by rw [modeAfter, ← hshared]; exact henabling)
  refine ⟨i, j, ei, em, hij, hmn, hi, hm, henable, ?_, ?_, ?_, ?_⟩
  · intro k ek hik hkj hek
    have hmk := hstay k ek hik hkj hek
    refine ⟨hmk, ?_⟩
    rw [modeAfter, after_eq _ hek] at hmk
    rw [out_eq _ hek]
    exact tick_sends_enable hmk
  · rw [modeAfter, after_eq _ hm]
    exact hdamping
  · -- the enter time tick `j + 1` reads is the clock value of the ENABLE tick
    have hd := of_decide_eq_true hdwell
    rw [run_enableDurationS hmem, hshared, htime] at hd
    exact hd
  · intro k ek hik hkn hek
    rcases Nat.lt_or_ge j k with hjk | hkj
    · have hdr := (hdriven k ek hjk hkn hek).trans hdrivenNow
      refine ⟨?_, ?_, ?_⟩ <;> intro hk <;> rw [modeAfter] at hk <;> rw [hk] at hdr <;> cases hdr
    · rw [hstay k ek hik hkj hek]
      decide

end Arming

/-- DAMPING in DISABLED, then RUN: the second tick is in NORMAL, no ENABLE was ever consumed and no
actuator was sent an enable frame. -/
theorem damping_run_reaches_normal :
    let tr := run twoActuatorConfig freshController [tickOn 1 1 .damping, tickOn 2 2 .run]
    tr[1]?.map modeAfter = some .normal ∧
      ¬ ArmedBefore twoActuatorConfig freshController.stateMachine.enableDurationS tr 1 := by
  intro tr
  refine ⟨by decide +kernel, ?_⟩
  rintro ⟨i, j, ei, ed, hij, hj, hi, -, henable, -⟩
  obtain rfl : i = 0 := by omega
  obtain rfl : entry (tick twoActuatorConfig) freshController (tickOn 1 1 .damping) = ei :=
    Option.some.inj hi
  have hdamping : consumed twoActuatorConfig
      (entry (tick twoActuatorConfig) freshController (tickOn 1 1 .damping)) = some .damping := by
    decide +kernel
  rw [hdamping] at henable
  cases henable

/-- ENABLE, a tick before and one after the end of the dwell, RUN: armed, then NORMAL. -/
theorem armed_of_normal_enable_run :
    let inputs := [tickOn 1 1 .enable, tickOn 2 1 .enable, tickOn 3 1 .enable, tickOn 4 2 .run]
    (run twoActuatorConfig freshController inputs).map modeAfter =
      [.enabling, .enabling, .damping, .normal] ∧
    ArmedBefore twoActuatorConfig 2 (run twoActuatorConfig freshController inputs) 3 := by
  intro inputs
  have hmodes : (run twoActuatorConfig freshController inputs).map modeAfter =
      [.enabling, .enabling, .damping, .normal] := by decide +kernel
  have hcodes : ∀ e ∈ run twoActuatorConfig freshController inputs,
      consumed twoActuatorConfig e ≠ some .damping := by decide +kernel
  refine ⟨hmodes, ?_⟩
  exact armed_of_normal twoActuatorConfig freshController inputs rfl
    (fun e he hearly => hcodes e he hearly.1) (show _ = some _ from rfl) (by decide +kernel)

end SparqControl.Controller
