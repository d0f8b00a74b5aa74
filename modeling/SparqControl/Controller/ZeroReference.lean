/-
# SparqControl.Controller.ZeroReference — which ticks move a zero reference.

Of everything a tick can send, only the ZERO_SETTING branch sends set-zero frames: the other branches
send frames with other opcodes, and an IMU request is one byte long. So a set-zero frame says that the
tick ended in ZERO_SETTING, and the table says how a tick gets there: it consumed ZERO_SET outside
ESTOP, or it was in ZERO_SETTING and consumed RUN, which no branch of the state machine handles there.
-/
import SparqControl.Controller.ZeroSet

namespace SparqControl.Controller

open SparqControl.Hal SparqControl.Hw SparqControl.Shm
open SparqControl.Lib.Trace
open ControllerStateMachine (nextMode)

/-! ## Opcodes by branch -/

/-- A set-zero frame: eight bytes, opcode 0xC3. -/
def SetZeroFrame (f : CANFrame) : Prop := f.data.head? = some 0xC3 ∧ f.data.length = 8

instance (f : CANFrame) : Decidable (SetZeroFrame f) := inferInstanceAs (Decidable (_ ∧ _))

/-- How a tick gets to ZERO_SETTING. -/
theorem nextMode_zeroSetting {mode : ControllerMode} {code : OperatorCommandCode}
    {dwellOver : Bool} (h : nextMode mode code dwellOver = .zeroSetting) :
    (code = .zeroSet ∧ mode ≠ .estop) ∨ (mode = .zeroSetting ∧ code = .run) := by
  cases mode <;> cases code <;> cases dwellOver <;> simp_all [nextMode]

section Opcodes

variable {K : Type} [Field K] [LinearOrder K] [IsStrictOrderedRing K] [FloorRing K]

omit [IsStrictOrderedRing K] in
/-- An impedance command is a control frame. -/
theorem head_of_impedance {p : SPGActuatorProtocol K} {q dq kp kd tau : PyFloat K} {f : CANFrame}
    (h : p.encodeImpedanceCommandFrame q dq kp kd tau = .ok f) : f.data.head? = some 0xC0 := by
  obtain ⟨payload, hpayload, rfl⟩ := map_eq_ok_iff.mp h
  obtain ⟨pU, vU, kpU, kdU, tU, -, -, -, -, -, rfl⟩ :=
    SPGActuatorProtocol.packMitPayload_eq_ok_iff.mp hpayload
  rfl

omit [FloorRing K] in
theorem data_of_mem_sendToAll {cfg : RobotControllerConfig K} {env : TickEnv K}
    {earlier : List CANFrame} {s : ControllerState K} {source : OutputSource}
    {encode : SPGActuatorProtocol K → CANFrame} {payload : List UInt8}
    (hencode : ∀ p, encode p = ⟨p.commandId, payload⟩) {f : CANFrame}
    (hf : f ∈ (sendToAll cfg env earlier s source encode).2.1) : f.data = payload := by
  obtain ⟨g, hg, hgf⟩ := List.mem_map.mp (mem_of_mem_sendEach hf)
  cases hgf
  obtain ⟨p, -, rfl⟩ := List.mem_map.mp hg
  rw [hencode]

/-- Outside ZERO_SETTING no branch sends a set-zero frame. -/
theorem mode_of_setZeroFrame {cfg : RobotControllerConfig K} {env : TickEnv K}
    {earlier : List CANFrame} {s : ControllerState K} {op : OperatorCommandC} {f : CANFrame}
    (hf : f ∈ (sendForMode cfg env earlier s op).2.1) (hz : SetZeroFrame f) :
    s.stateMachine.mode = .zeroSetting := by
  have hdisable : f ∈ (sendDisableAll cfg env earlier s).2.1 → False := by
    intro h
    have hdata := data_of_mem_sendToAll SPGActuatorProtocol.encodeDisableFrame_eq h
    rw [SetZeroFrame, hdata] at hz
    exact absurd hz (by decide)
  unfold sendForMode at hf
  -- every other branch has its own opcode
  cases hmode : s.stateMachine.mode with
  | zeroSetting => rfl
  | estop => rw [hmode] at hf; exact (hdisable hf).elim
  | disabled => rw [hmode] at hf; exact (hdisable hf).elim
  | enabling =>
      rw [hmode] at hf
      have hdata := data_of_mem_sendToAll SPGActuatorProtocol.encodeEnableFrame_eq hf
      rw [SetZeroFrame, hdata] at hz
      exact absurd hz (by decide)
  | damping =>
      rw [hmode] at hf
      obtain ⟨id, -, hid⟩ := List.mem_filterMap.mp (mem_of_mem_sendEach hf)
      obtain ⟨a, -, ha⟩ := Option.map_eq_some_iff.mp hid
      rw [SetZeroFrame, head_of_impedance ha] at hz
      exact absurd hz.1 (by decide)
  | normal =>
      rw [hmode] at hf
      obtain ⟨⟨t, a⟩, -, ha⟩ := List.mem_map.mp (mem_of_mem_sendEach hf)
      rw [SetZeroFrame, head_of_impedance ha] at hz
      exact absurd hz.1 (by decide)

omit [LinearOrder K] [IsStrictOrderedRing K] [FloorRing K] in
/-- The IMU request is no set-zero frame. -/
theorem not_setZeroFrame_imu {cfg : RobotControllerConfig K} {input : TickInput K} {f : CANFrame}
    (hf : f ∈ sentImuFrames cfg input) : ¬ SetZeroFrame f := by
  have hreq := mem_of_mem_sendEach hf
  unfold imuRequests at hreq
  split at hreq
  · split at hreq
    · obtain rfl : f = ⟨cfg.imuRequestId, [UInt8.ofInt cfg.imuCmdGetAll]⟩ := by simpa using hreq
      rintro ⟨-, hlen⟩
      simp at hlen
    · simp at hreq
  · simp at hreq

/-- **One tick.** A tick that sends a set-zero frame consumed ZERO_SET and addressed the receiver,
unless it consumed RUN in ZERO_SETTING. -/
theorem tick_setZeroFrame {cfg : RobotControllerConfig K} {s : ControllerState K}
    {input : TickInput K} {f : CANFrame}
    (hf : f ∈ (tick cfg s input).2.imuFrames ++ (tick cfg s input).2.actuatorFrames)
    (hz : SetZeroFrame f)
    (hrun : ¬ (consumedCode cfg s input = some .run ∧ s.stateMachine.mode = .zeroSetting)) :
    consumedCode cfg s input = some .zeroSet ∧ f.canId ∈ cfg.canIds ∧
      Addressed input.operatorShm.readRelaxed f.canId := by
  cases hreads : readsSlot cfg input with
  | false =>
      -- the tick ended at its IMU request
      obtain ⟨-, hnone, -⟩ := tick_of_not_readsSlot (s := s) hreads
      rw [hnone, List.append_nil] at hf
      exact absurd hz (not_setZeroFrame_imu (tick_imuFrames cfg s input ▸ hf))
  | true =>
      have himu : f ∉ (tick cfg s input).2.imuFrames := fun h =>
        not_setZeroFrame_imu (tick_imuFrames cfg s input ▸ h) hz
      have hact : f ∈ (tick cfg s input).2.actuatorFrames :=
        (List.mem_append.mp hf).resolve_left himu
      obtain ⟨s', hsm, hframes, -⟩ := tick_out_of_readsSlot (s := s) hreads
      rw [hframes] at hact
      have hmode := mode_of_setZeroFrame hact hz
      -- the frame is kept twice: once to find the mode, once to read the branch it came from
      have hsend := hact
      unfold sendForMode at hsend
      rw [hmode] at hsend
      rw [hsm, tick_mode, if_pos hreads] at hmode
      rcases nextMode_zeroSetting hmode with ⟨hcode, -⟩ | ⟨hzs, hcode⟩
      · have hconsumed := consumedCode_of_getD (by decide) hcode
        rw [op_of_consumedCode hconsumed] at hsend
        exact ⟨hconsumed, addressed_of_mem_sendZeroSetAll hsend⟩
      · exact absurd ⟨consumedCode_of_getD (by decide) hcode, hzs⟩ hrun

/-- A tick that consumes a well-formed ZERO_SET outside ESTOP with its sends accepted: one set-zero
frame to every configured actuator it addresses, and nothing else. -/
theorem tick_zeroSet_framesTo {cfg : RobotControllerConfig K} {s : ControllerState K}
    {input : TickInput K} (hcode : consumedCode cfg s input = some .zeroSet)
    (hmode : s.stateMachine.mode ≠ .estop)
    (hwf : WellFormedTargets input.operatorShm.readRelaxed) (hacc : SendsAccepted cfg input)
    (canId : ℤ) :
    framesTo canId (tick cfg s input).2.actuatorFrames =
      if canId ∈ cfg.canIds ∧ Addressed input.operatorShm.readRelaxed canId then
        [⟨canId, setZeroPayload (offsetFor input.operatorShm.readRelaxed canId)⟩] else [] := by
  obtain ⟨s', hsm, hframes, -⟩ := tick_out_of_readsSlot (s := s) hacc.1
  have hzs : s'.stateMachine.mode = .zeroSetting := by
    rw [hsm, tick_mode_of_consumedCode hcode]
    revert hmode
    cases s.stateMachine.mode <;> simp [nextMode]
  unfold sendForMode at hframes
  rw [hzs, op_of_consumedCode hcode] at hframes
  rw [hframes]
  exact (sendZeroSetAll_framesTo hwf hacc.2).2 canId

/-- The command's target list names an id, or is empty. -/
def Listed (c : OperatorCommandC) (canId : ℤ) : Prop :=
  zeroTargetList c = [] ∨ canId ∈ (zeroTargetList c).map Prod.fst

/-- The list is more than fillers: it is empty, or it names an id other than 0. -/
def NamesSomebody (c : OperatorCommandC) : Prop :=
  zeroTargetList c = [] ∨ ∃ t ∈ zeroTargetList c, t.1 ≠ 0

omit [Field K] [LinearOrder K] [IsStrictOrderedRing K] [FloorRing K] in
/-- An addressed id is listed, unless the list is nothing but fillers. -/
theorem listed_of_addressed {c : OperatorCommandC} {canId : ℤ} (h : Addressed c canId)
    (hnames : NamesSomebody c) : Listed c canId := by
  rcases h with hnone | hmem
  · left
    rcases hnames with hempty | ⟨t, ht, hne⟩
    · exact hempty
    · exact absurd (decide_eq_true hne) (List.filter_eq_nil_iff.mp hnone t ht)
  · obtain ⟨t, ht, rfl⟩ := List.mem_map.mp hmem
    exact Or.inr (List.mem_map_of_mem (List.mem_filter.mp ht).1)

omit [Field K] [LinearOrder K] [IsStrictOrderedRing K] [FloorRing K] in
/-- A listed id other than 0 is addressed. -/
theorem addressed_of_listed {c : OperatorCommandC} {canId : ℤ} (h : Listed c canId) (hne : canId ≠ 0) :
    Addressed c canId := by
  rcases h with hempty | hmem
  · left
    rw [namedTargets, hempty]
    rfl
  · obtain ⟨t, ht, rfl⟩ := List.mem_map.mp hmem
    exact Or.inr (List.mem_map_of_mem (List.mem_filter.mpr ⟨ht, decide_eq_true hne⟩))

/-- A tick that does not end in ZERO_SETTING sends no set-zero frame. -/
theorem not_setZeroFrame_of_mode {cfg : RobotControllerConfig K} {s : ControllerState K}
    {input : TickInput K} (hmode : (tick cfg s input).1.stateMachine.mode ≠ .zeroSetting) {f : CANFrame}
    (hf : f ∈ (tick cfg s input).2.imuFrames ++ (tick cfg s input).2.actuatorFrames) :
    ¬ SetZeroFrame f := by
  intro hz
  rcases List.mem_append.mp hf with himu | hact
  · exact not_setZeroFrame_imu (tick_imuFrames cfg s input ▸ himu) hz
  · cases hreads : readsSlot cfg input with
    | false =>
        rw [(tick_of_not_readsSlot (s := s) hreads).2.1] at hact
        cases hact
    | true =>
        obtain ⟨s', hsm, hframes, -⟩ := tick_out_of_readsSlot (s := s) hreads
        rw [hframes] at hact
        exact hmode (hsm ▸ mode_of_setZeroFrame hact hz)

/-- **Zero references move on command.** In every tick of every run but one that consumes RUN in
ZERO_SETTING, a set-zero frame is sent only if the tick consumed ZERO_SET, and only to a configured
actuator the command addresses: one on its list, or any if the list is empty (a list of nothing but the
filler id 0 apart). A well-formed ZERO_SET that is consumed outside ESTOP, its sends accepted, sends every
configured actuator exactly one set-zero frame or none, as it addresses it or not, and it addresses every
id it lists, the filler apart. A ZERO_SET consumed in ESTOP leaves the mode and sends none. -/
theorem zero_reference_on_command (cfg : RobotControllerConfig K) (s : ControllerState K)
    (inputs : List (TickInput K)) (e : TickEntry K) (he : e ∈ run cfg s inputs)
    (hrun : ¬ (consumed cfg e = some .run ∧ e.before.stateMachine.mode = .zeroSetting)) :
    let c := e.input.operatorShm.readRelaxed
    let frames := e.out.imuFrames ++ e.out.actuatorFrames
    (∀ f ∈ frames, SetZeroFrame f →
      consumed cfg e = some .zeroSet ∧ f.canId ∈ cfg.canIds ∧ Addressed c f.canId ∧
        (NamesSomebody c → Listed c f.canId)) ∧
    (consumed cfg e = some .zeroSet → e.before.stateMachine.mode ≠ .estop →
      WellFormedTargets c → SendsAccepted cfg e.input → ∀ canId ∈ cfg.canIds,
        (framesTo canId frames).countP (fun f => decide (SetZeroFrame f)) =
            (if Addressed c canId then 1 else 0) ∧
          (Listed c canId → canId ≠ 0 → Addressed c canId)) ∧
    (consumed cfg e = some .zeroSet → e.before.stateMachine.mode = .estop →
      modeAfter e = .estop ∧ ∀ f ∈ frames, ¬ SetZeroFrame f) := by
  have hentry : e = entry (tick cfg) e.before e.input := eq_entry_of_mem (tick cfg) he
  have hout : e.out = (tick cfg e.before e.input).2 := congrArg Entry.out hentry
  have hafter : e.after = (tick cfg e.before e.input).1 := congrArg Entry.after hentry
  intro c frames
  simp only [frames, hout]
  refine ⟨fun f hf hz => ?_, fun hcode hmode hwf hacc canId hid => ⟨?_, addressed_of_listed⟩,
    fun hcode hmode => ?_⟩
  · obtain ⟨hcode, hid, haddr⟩ := tick_setZeroFrame hf hz hrun
    exact ⟨hcode, hid, haddr, listed_of_addressed haddr⟩
  · have hact := tick_zeroSet_framesTo hcode hmode hwf hacc canId
    have himu : (framesTo canId (tick cfg e.before e.input).2.imuFrames).countP
        (fun f => decide (SetZeroFrame f)) = 0 := by
      rw [List.countP_eq_zero]
      intro f hf
      have hmem := (List.mem_filter.mp hf).1
      rw [tick_imuFrames] at hmem
      simpa using not_setZeroFrame_imu hmem
    rw [framesTo, List.filter_append, List.countP_append]
    rw [framesTo] at himu hact
    rw [himu, hact]
    by_cases haddr : Addressed c canId
    · rw [if_pos ⟨hid, haddr⟩, if_pos haddr]
      rfl
    · rw [if_neg fun h => haddr h.2, if_neg haddr]
      rfl
  · have hestop : (tick cfg e.before e.input).1.stateMachine.mode = .estop := by
      rw [tick_mode_of_consumedCode hcode, hmode]
      rfl
    refine ⟨?_, fun f hf => not_setZeroFrame_of_mode (by rw [hestop]; decide) hf⟩
    rw [modeAfter, hafter, hestop]

end Opcodes

/-- ZERO_SET consumed in ESTOP sends no set-zero frame though its empty list addresses every
actuator; and RUN consumed in ZERO_SETTING sends set-zero frames though no ZERO_SET was consumed. -/
theorem zero_reference_exceptions :
    let latched := run twoActuatorConfig freshController [tickOn 1 1 .estop, tickOn 2 2 .zeroSet]
    let rerun := run twoActuatorConfig freshController [tickOn 1 1 .zeroSet, tickOn 2 2 .run]
    latched[1]?.map (consumed twoActuatorConfig) = some (some .zeroSet) ∧
    latched[1]?.map (fun e => zeroTargetList e.input.operatorShm.readRelaxed) = some [] ∧
    latched[1]?.map (fun e => e.out.actuatorFrames.map fun f => f.data.head?) =
      some [some 0xC2, some 0xC2] ∧
    rerun[1]?.map (consumed twoActuatorConfig) = some (some .run) ∧
    rerun[1]?.map (fun e => e.out.actuatorFrames.map fun f => decide (SetZeroFrame f)) =
      some [true, true] := by
  decide +kernel

/-- A ZERO_SET of the filler and the first joint, consumed in DISABLED: one set-zero frame to the first
joint, none to the second. -/
theorem zero_reference_on_command_listed :
    let shm := OperatorCommandShm.zeroed.write
      (OperatorCommandShm.builtCommand 1 OperatorCommandCode.zeroSet.value 0 [(0, 5), (0x101, 7)])
    let e := entry (tick twoActuatorConfig) freshController ⟨quietEnv 1, shm⟩
    consumed twoActuatorConfig e = some .zeroSet ∧
    (framesTo 0x101 (e.out.imuFrames ++ e.out.actuatorFrames)).countP
      (fun f => decide (SetZeroFrame f)) = 1 ∧
    (framesTo 0x102 (e.out.imuFrames ++ e.out.actuatorFrames)).countP
      (fun f => decide (SetZeroFrame f)) = 0 := by
  intro shm e
  have hcode : consumed twoActuatorConfig e = some .zeroSet := by decide +kernel
  have hcount := (zero_reference_on_command twoActuatorConfig freshController [⟨quietEnv 1, shm⟩] e
    List.mem_cons_self (by rw [hcode]; simp)).2.1 hcode (by decide) (Or.inr (by decide +kernel))
    ⟨rfl, (sendsAccepted_tickOn 1 1 .zeroSet).2⟩
  refine ⟨hcode, ?_, ?_⟩
  · rw [(hcount 0x101 (by decide)).1]
    decide +kernel
  · rw [(hcount 0x102 (by decide)).1]
    decide +kernel

end SparqControl.Controller
