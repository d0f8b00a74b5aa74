/-
# SparqControl.Controller.EstopLatch — a consumed ESTOP holds until a RESET_FAULT is consumed.

The latch lives in one row of the transition table: from ESTOP every code except RESET_FAULT leads
back to ESTOP, whatever the slot held, and a tick that reads no slot leaves the mode alone. The run
statement is the latch rule of `Lib.Trace` applied to that row; what each tick of the latch puts on
the bus follows from the mode it ends in.
-/
import SparqControl.Controller.Tick

namespace SparqControl.Controller

open SparqControl.Hal SparqControl.Hw SparqControl.Shm
open SparqControl.Lib.Trace
open ControllerStateMachine (nextMode)

/-! ## The ESTOP row of the table -/

theorem nextMode_estop_code (mode : ControllerMode) (dwellOver : Bool) :
    nextMode mode .estop dwellOver = .estop := by
  cases mode <;> rfl

theorem nextMode_estop_ne_reset {code : OperatorCommandCode} (h : code ≠ .resetFault)
    (dwellOver : Bool) : nextMode .estop code dwellOver = .estop := by
  cases code <;> first | rfl | exact absurd rfl h

/-- Only an ESTOP code leads into ESTOP. -/
theorem nextMode_eq_estop {mode : ControllerMode} {code : OperatorCommandCode} {dwellOver : Bool}
    (hmode : mode ≠ .estop) (h : nextMode mode code dwellOver = .estop) : code = .estop := by
  cases mode <;> cases code <;> cases dwellOver <;> simp_all [nextMode]

section Latch

variable {K : Type} [Field K] [LinearOrder K] [IsStrictOrderedRing K] [FloorRing K]

/-- A tick that consumes ESTOP ends in ESTOP. -/
theorem tick_enters_estop {cfg : RobotControllerConfig K} {s : ControllerState K}
    {input : TickInput K} (h : consumedCode cfg s input = some .estop) :
    (tick cfg s input).1.stateMachine.mode = .estop := by
  rw [tick_mode_of_consumedCode h, nextMode_estop_code]

/-- A tick in ESTOP that does not consume RESET_FAULT stays in ESTOP. -/
theorem tick_keeps_estop {cfg : RobotControllerConfig K} {s : ControllerState K}
    {input : TickInput K} (hmode : s.stateMachine.mode = .estop)
    (h : consumedCode cfg s input ≠ some .resetFault) :
    (tick cfg s input).1.stateMachine.mode = .estop := by
  rw [tick_mode, hmode]
  split
  · refine nextMode_estop_ne_reset ?_ _
    intro hcode
    cases hc : consumedCode cfg s input with
    | none => rw [hc] at hcode; cases hcode
    | some code =>
        rw [hc, Option.getD_some] at hcode
        exact h (by rw [hc, hcode])
  · rfl

/-- A tick that ends in ESTOP or DISABLED with its sends accepted: one disable frame to every
configured actuator, and no other frame. -/
theorem tick_sends_disable {cfg : RobotControllerConfig K} {s : ControllerState K}
    {input : TickInput K}
    (hmode : (tick cfg s input).1.stateMachine.mode = .estop ∨
      (tick cfg s input).1.stateMachine.mode = .disabled)
    (hacc : SendsAccepted cfg input) :
    (tick cfg s input).2.raised = none ∧
      ∀ canId, framesTo canId (tick cfg s input).2.actuatorFrames =
        if canId ∈ cfg.canIds then [⟨canId, [0xC2, 0, 0, 0, 0, 0, 0, 0]⟩] else [] := by
  have hsend : ∀ (env : TickEnv K) earlier (s' : ControllerState K) op,
      s'.stateMachine.mode = (tick cfg s input).1.stateMachine.mode →
        sendForMode cfg env earlier s' op = sendDisableAll cfg env earlier s' := by
    intro env earlier s' op hs'
    unfold sendForMode
    rcases hmode with hm | hm <;> rw [hs', hm]
  have hraised := tick_not_raised SPGActuatorProtocol.encodeDisableFrame_eq hsend hacc
  exact ⟨hraised, tick_framesTo SPGActuatorProtocol.encodeDisableFrame_eq hsend hraised⟩

/-- The latch over a run: ESTOP after tick `i`, no RESET_FAULT consumed since, ESTOP after tick
`n`. -/
theorem estop_holds {cfg : RobotControllerConfig K} {s : ControllerState K}
    {inputs : List (TickInput K)} {i n : ℕ} {ei en : TickEntry K}
    (hi : (run cfg s inputs)[i]? = some ei) (hestop : modeAfter ei = .estop)
    (hin : i ≤ n) (hn : (run cfg s inputs)[n]? = some en)
    (hkeep : ∀ k ek, i < k → k ≤ n → (run cfg s inputs)[k]? = some ek →
      consumed cfg ek ≠ some .resetFault) :
    modeAfter en = .estop :=
  trace_latch (Q := fun t : ControllerState K => t.stateMachine.mode = .estop)
    (fun _ _ ht hc => tick_keeps_estop ht hc) hi hestop hin hn hkeep

/-- **The latch.** From the tick that consumed ESTOP up to the first later one that consumes
RESET_FAULT every tick ends in ESTOP, the one that consumes RESET_FAULT ends in DISABLED, and all of
them, when their sends are accepted, send every configured actuator one disable frame and send
nothing else to any id. -/
theorem estop_latch (cfg : RobotControllerConfig K) (s : ControllerState K)
    (inputs : List (TickInput K)) {i j : ℕ} {ei ej : TickEntry K}
    (hi : (run cfg s inputs)[i]? = some ei) (hestop : consumed cfg ei = some .estop)
    (hij : i ≤ j) (hj : (run cfg s inputs)[j]? = some ej)
    (hkeep : ∀ k ek, i < k → k < j → (run cfg s inputs)[k]? = some ek →
      consumed cfg ek ≠ some .resetFault) :
    (modeAfter ej =
      if i < j ∧ consumed cfg ej = some .resetFault then .disabled else .estop) ∧
    (SendsAccepted cfg ej.input →
      ej.out.raised = none ∧ ∀ canId, framesTo canId ej.out.actuatorFrames =
        if canId ∈ cfg.canIds then [⟨canId, [0xC2, 0, 0, 0, 0, 0, 0, 0]⟩] else []) := by
  have hstart : modeAfter ei = .estop := by
    rw [modeAfter, after_eq _ hi]
    exact tick_enters_estop hestop
  have hmode : modeAfter ej =
      if i < j ∧ consumed cfg ej = some .resetFault then .disabled else .estop := by
    split
    · -- the entry before `j` is still in the latch, and `j` leaves it
      rename_i hlast
      obtain ⟨hlt, hreset⟩ := hlast
      obtain ⟨j, rfl⟩ : ∃ j', j = j' + 1 := ⟨j - 1, by omega⟩
      obtain ⟨e', he', hshared⟩ := exists_previous hj
      have hheld : ej.before.stateMachine.mode = .estop := by
        rw [hshared]
        exact estop_holds hi hstart (by omega) he' fun k ek hk hkj => hkeep k ek hk (by omega)
      rw [modeAfter, after_eq _ hj, tick_mode_of_consumedCode hreset, hheld]
      rfl
    · -- nothing up to and including `j` ends the latch
      rename_i hlast
      refine estop_holds hi hstart hij hj fun k ek hk hkj hek => ?_
      rcases Nat.lt_or_eq_of_le hkj with hlt | rfl
      · exact hkeep k ek hk hlt hek
      · obtain rfl : ek = ej := Option.some.inj (hek.symm.trans hj)
        exact fun hc => hlast ⟨hk, hc⟩
  refine ⟨hmode, fun hacc => ?_⟩
  have hor : (tick cfg ej.before ej.input).1.stateMachine.mode = .estop ∨
      (tick cfg ej.before ej.input).1.stateMachine.mode = .disabled := by
    rw [← after_eq _ hj]
    show modeAfter ej = .estop ∨ modeAfter ej = .disabled
    rw [hmode]
    split
    · exact Or.inr rfl
    · exact Or.inl rfl
  rw [out_eq _ hj]
  exact tick_sends_disable hor hacc

end Latch

/-- ESTOP, then ENABLE, then RESET_FAULT: the middle tick stays in ESTOP, the last one leaves it, and
both send each of the two actuators one disable frame. -/
theorem estop_latch_enable_reset :
    let r := run twoActuatorConfig freshController
      [tickOn 1 1 .estop, tickOn 2 2 .enable, tickOn 3 3 .resetFault]
    r.map (consumed twoActuatorConfig) = [some .estop, some .enable, some .resetFault] ∧
    r[1]?.map modeAfter = some .estop ∧ r[2]?.map modeAfter = some .disabled ∧
    r[2]?.map (fun e => framesTo 0x102 e.out.actuatorFrames) =
      some [⟨0x102, [0xC2, 0, 0, 0, 0, 0, 0, 0]⟩] := by
  intro r
  have hcodes : r.map (consumed twoActuatorConfig) =
      [some .estop, some .enable, some .resetFault] := by decide +kernel
  have latch1 := estop_latch twoActuatorConfig freshController _ (i := 0) (j := 1)
    (show r[0]? = some _ from rfl) (by decide +kernel) (by decide) (show r[1]? = some _ from rfl)
    (fun k ek hk hk1 _ => by omega)
  have latch2 := estop_latch twoActuatorConfig freshController _ (i := 0) (j := 2)
    (show r[0]? = some _ from rfl) (by decide +kernel) (by decide) (show r[2]? = some _ from rfl)
    (fun k ek hk hk2 hek => by
      obtain rfl : k = 1 := by omega
      rw [← Option.some.inj (show r[1]? = some ek from hek)]
      decide +kernel)
  refine ⟨hcodes, congrArg some ?_, congrArg some ?_, congrArg some ?_⟩
  · rw [latch1.1]
    decide +kernel
  · rw [latch2.1]
    decide +kernel
  · exact (latch2.2 (sendsAccepted_tickOn 3 3 .resetFault)).2 0x102

end SparqControl.Controller
