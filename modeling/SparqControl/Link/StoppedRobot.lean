/-
# SparqControl.Link.StoppedRobot — from a stopped controller to motors without torque.

The controller sends its frames into a wire that keeps their order; the simulator takes them from there,
queues them, processes them in its own time and turns the latched commands into control values. Others may
put frames on the wire too. A stop is not felt at once: what was sent before it still has to go by.

`stopped_robot_torqueless` is the account over every interleaving: once everything up to the disable
frames of a stopped tick has been processed, and as long as the controller stays in ESTOP or DISABLED, a
motor gets a nonzero control value only if somebody else has sent it a control frame since.
-/
import Mathlib.Tactic.IntervalCases
import SparqControl.Controller.EstopLatch
import SparqControl.Sim.MujocoCanBridge

namespace SparqControl.Link

open SparqControl.Controller SparqControl.Hal SparqControl.Hw SparqControl.Sim
open SparqControl.Lib.Trace

/-! ## The robot -/

/-- What the simulation does with its bridge. Frames come to it over the wire alone. -/
inductive SimEvent (K : Type) where
  | popDeviceFrame
  | updateStateBuffer (model : MjModel K) (data : MjData K)
  | processHostFrames (simTime : K)
  | publishDeviceFeedback
  | applyCommandsToMujoco (model : MjModel K) (data : MjData K)

def SimEvent.toBridge {K : Type} : SimEvent K → BridgeEvent K
  | .popDeviceFrame => .popDeviceFrame
  | .updateStateBuffer model data => .updateStateBuffer model data
  | .processHostFrames simTime => .processHostFrames simTime
  | .publishDeviceFeedback => .publishDeviceFeedback
  | .applyCommandsToMujoco model data => .applyCommandsToMujoco model data

/-- The controller, the frames on their way, and the bridge of the simulator. -/
structure Robot (K : Type) [Field K] [LinearOrder K] where
  controller : ControllerState K
  wire : List CanFrame
  bridge : MujocoCanBridge K

/-- What happens next: a tick, a frame of another sender, the arrival of a frame, or something in the
simulation. -/
inductive RobotEvent (K : Type) where
  | tick (input : TickInput K)
  | foreign (frame : CanFrame)
  | deliver
  | sim (event : SimEvent K)

/-- The frames of a tick as the simulator will see them. -/
def wireFrames (outcome : TickOutcome) : List CanFrame :=
  (outcome.imuFrames ++ outcome.actuatorFrames).filterMap fun f => (hostToSim f).toOption

section System

variable {K : Type} [Field K] [LinearOrder K] [IsStrictOrderedRing K] [FloorRing K]

/-- One event. The output is the data `apply_commands_to_mujoco` leaves. -/
def robotStep (sqrt : K → K) (cfg : RobotControllerConfig K) (s : Robot K) :
    RobotEvent K → Robot K × Option (MjData K)
  | .tick input =>
      let (controller, outcome) := tick cfg s.controller input
      ({ s with controller := controller, wire := s.wire ++ wireFrames outcome }, none)
  | .foreign frame => ({ s with wire := s.wire ++ [frame] }, none)
  | .deliver =>
      match s.wire with
      | [] => (s, none)
      | frame :: rest =>
          ({ s with wire := rest, bridge := (bridgeStep sqrt s.bridge (.pushHostFrame frame)).1 }, none)
  | .sim event =>
      let (bridge, out) := bridgeStep sqrt s.bridge event.toBridge
      ({ s with bridge := bridge }, out)

/-- One recorded event. -/
abbrev RobotEntry (K : Type) [Field K] [LinearOrder K] :=
  Entry (Robot K) (RobotEvent K) (Option (MjData K))

/-- The frames an event puts on the wire. -/
def sentBy (cfg : RobotControllerConfig K) (e : RobotEntry K) : List CanFrame :=
  match e.input with
  | .tick input => wireFrames (tick cfg e.before.controller input).2
  | .foreign frame => [frame]
  | _ => []

/-- What an event is for the bridge. -/
def bridgeEvents (e : RobotEntry K) : List (BridgeEvent K) :=
  match e.input with
  | .deliver => (e.before.wire.take 1).map .pushHostFrame
  | .sim event => [event.toBridge]
  | _ => []

/-- The frames the simulator has processed, in order and with their times. -/
def processedIn (sqrt : K → K) (b : MujocoCanBridge K) (past : List (RobotEntry K)) :
    List (CanFrame × K) :=
  framesProcessed (trace (bridgeStep sqrt) b (past.flatMap bridgeEvents))

/-- The frames that were sent. -/
def sentIn (cfg : RobotControllerConfig K) (past : List (RobotEntry K)) : List CanFrame :=
  past.flatMap (sentBy cfg)

end System

/-! ## Nothing is lost, nothing overtakes -/

section Order

variable {K : Type} [Field K] [LinearOrder K] [FloorRing K]

/-- The frame a bridge event pushes. -/
def pushedFrame : BridgeEvent K → Option CanFrame
  | .pushHostFrame frame => some frame
  | _ => none

theorem processLoop_hostToDevice (sqrt : K → K) (simTime : K) (rounds : ℕ) (b : MujocoCanBridge K) :
    (b.processLoop sqrt simTime rounds).hostToDevice = b.hostToDevice.drop rounds := by
  induction rounds generalizing b with
  | zero => rfl
  | succ rounds ih =>
      unfold MujocoCanBridge.processLoop
      cases hqueue : b.hostToDevice with
      | nil => exact hqueue
      | cons frame rest =>
          show (MujocoCanBridge.processLoop _ _ _ _).hostToDevice = _
          rw [ih, processFrame_hostToDevice, List.drop_succ_cons]

/-- One event: what was queued or is pushed gets processed or stays queued. -/
theorem bridgeStep_queue (sqrt : K → K) (b : MujocoCanBridge K) (event : BridgeEvent K) :
    (eventFrames b event).map Prod.fst ++ (bridgeStep sqrt b event).1.hostToDevice =
      b.hostToDevice ++ (pushedFrame event).toList := by
  cases event with
  | processHostFrames simTime =>
      have hfst : ∀ l : List CanFrame, (l.map fun frame => (frame, simTime)).map Prod.fst = l := by
        intro l
        rw [List.map_map]
        exact List.map_id l
      show List.map Prod.fst _ ++ (b.processLoop sqrt simTime kMaxFramesPerStep).hostToDevice =
        b.hostToDevice ++ []
      rw [processLoop_hostToDevice, eventFrames, hfst, List.take_append_drop, List.append_nil]
  | pushHostFrame frame => rfl
  | popDeviceFrame => exact (List.append_nil _).symm
  | updateStateBuffer => exact (List.append_nil _).symm
  | publishDeviceFeedback => exact (List.append_nil _).symm
  | applyCommandsToMujoco => exact (List.append_nil _).symm

/-- **The queue of the bridge**: what was pushed has been processed or is still queued, in order. -/
theorem processed_append_queue (sqrt : K → K) (b : MujocoCanBridge K) (events : List (BridgeEvent K)) :
    (framesProcessed (trace (bridgeStep sqrt) b events)).map Prod.fst ++
        (final (bridgeStep sqrt) b events).hostToDevice =
      b.hostToDevice ++ events.filterMap pushedFrame := by
  induction events using List.reverseRecOn with
  | nil => simp [trace, framesProcessed]
  | append_singleton events event ih =>
      have hlast : [event].filterMap pushedFrame = (pushedFrame event).toList := by
        cases hpush : pushedFrame event <;> simp [hpush]
      have hframes : framesProcessed (trace (bridgeStep sqrt) b (events ++ [event])) =
          framesProcessed (trace (bridgeStep sqrt) b events) ++
            eventFrames (final (bridgeStep sqrt) b events) event := by
        rw [trace_concat, framesProcessed, List.flatMap_append, List.flatMap_singleton]
        rfl
      rw [hframes, final_concat, List.map_append, List.append_assoc, bridgeStep_queue,
        ← List.append_assoc, ih, List.filterMap_append, hlast, List.append_assoc]

end Order

/-! ## The robot over a run -/

section Run

variable {K : Type} [Field K] [LinearOrder K] [IsStrictOrderedRing K] [FloorRing K]

/-- What holds of a run so far: the bridge went through its own events, and what was sent has reached it
or is on the wire. -/
structure InOrder (sqrt : K → K) (cfg : RobotControllerConfig K) (b : MujocoCanBridge K)
    (past : List (RobotEntry K)) (s : Robot K) : Prop where
  bridge : s.bridge = final (bridgeStep sqrt) b (past.flatMap bridgeEvents)
  wire : (past.flatMap bridgeEvents).filterMap pushedFrame ++ s.wire = sentIn cfg past

theorem InOrder.step {sqrt : K → K} {cfg : RobotControllerConfig K} {b : MujocoCanBridge K}
    {past : List (RobotEntry K)} {s : Robot K} (h : InOrder sqrt cfg b past s) (event : RobotEvent K) :
    InOrder sqrt cfg b (past ++ [entry (robotStep sqrt cfg) s event])
      (robotStep sqrt cfg s event).1 := by
  obtain ⟨hbridge, hwire⟩ := h
  have hsent : ∀ e : RobotEntry K, sentIn cfg (past ++ [e]) = sentIn cfg past ++ sentBy cfg e := by
    intro e
    simp [sentIn]
  have hevents : ∀ e : RobotEntry K, (past ++ [e]).flatMap bridgeEvents =
      past.flatMap bridgeEvents ++ bridgeEvents e := by
    intro e
    simp
  constructor
  · rw [hevents, final_append, ← hbridge]
    cases event with
    | tick input => rfl
    | foreign frame => rfl
    | deliver =>
        simp only [robotStep]
        cases hw : s.wire with
        | nil => simp [bridgeEvents, hw, final]
        | cons frame rest => simp [bridgeEvents, hw, final]
    | sim event => rfl
  · rw [hevents, hsent, List.filterMap_append, List.append_assoc, ← hwire]
    cases event with
    | tick input => simp [bridgeEvents, sentBy, robotStep]
    | foreign frame => simp [bridgeEvents, sentBy, robotStep]
    | deliver =>
        simp only [robotStep]
        cases hw : s.wire with
        | nil => simp [bridgeEvents, sentBy, hw]
        | cons frame rest => simp [bridgeEvents, sentBy, hw, pushedFrame]
    | sim event => cases event <;> simp [bridgeEvents, sentBy, robotStep, SimEvent.toBridge, pushedFrame]

/-- What was processed is the front of what was sent. -/
theorem InOrder.sent_eq {sqrt : K → K} {cfg : RobotControllerConfig K} {b : MujocoCanBridge K}
    {past : List (RobotEntry K)} {s : Robot K} (h : InOrder sqrt cfg b past s)
    (hempty : b.hostToDevice = []) :
    (processedIn sqrt b past).map Prod.fst ++ (s.bridge.hostToDevice ++ s.wire) = sentIn cfg past := by
  have hqueue := processed_append_queue sqrt b (past.flatMap bridgeEvents)
  rw [hempty, List.nil_append, ← h.bridge] at hqueue
  rw [← h.wire, ← hqueue, List.append_assoc]
  rfl

end Run

/-! ## A torque needs ENTER and a control frame -/

section Torque

variable {K : Type} [Field K] [LinearOrder K] [FloorRing K]

/-- A nonzero control value of the bridge after some events. -/
theorem mayTorque_of_ctrl (sqrt : K → K) {bindings : List (ActuatorBinding K)}
    (hb : DistinctBindings bindings) (imus : List (E2BoxImuFirmwareConfig K)) (model₀ : MjModel K)
    (data₀ : MjData K) (events : List (BridgeEvent K)) {i : ℕ} {binding : ActuatorBinding K}
    (hi : bindings[i]? = some binding) {model : MjModel K} {data : MjData K} {v : K}
    (hzero : RangesContainZero model) (hrange : inRange binding.ctrlAdr model.nu = true)
    (hv : ((final (bridgeStep sqrt) (resetModel bindings imus model₀ data₀) events
      ).applyCommandsToMujoco model data).ctrl[binding.ctrlAdr.toNat]? = some v) (hne : v ≠ 0) :
    MayTorque binding.canId binding.spgMitConfig.setZeroHoldS data₀.time
      (framesProcessed (trace (bridgeStep sqrt) (resetModel bindings imus model₀ data₀) events)) := by
  have htracks := tracks_run sqrt hb.ids imus model₀ data₀ events
  have hinStep := inStep_run binding.canId binding.spgMitConfig data₀.time
    (deviceOps binding (trace (bridgeStep sqrt) (resetModel bindings imus model₀ data₀) events))
  rw [processed_deviceOps] at hinStep
  generalize final (bridgeStep sqrt) (resetModel bindings imus model₀ data₀) events = b at htracks hv
  obtain ⟨-, hslot, -⟩ := htracks.at_index i binding hi
  have hctrl := applyFrom_at b model data hrange bindings 0 i data.ctrl hb.ctrls hi
  rw [Nat.zero_add, ← htracks.bindings_eq] at hctrl
  obtain ⟨_, -, hvalue⟩ := Option.map_eq_some_iff.mp (hctrl.symm.trans hv)
  exact hinStep.torque (canTorque_of_ctrlValue hzero hslot (hvalue ▸ hne))

omit [FloorRing K] in
/-- A motor that may torque obeys a control frame that came after every frame that disarms it. -/
theorem exists_control_after {canId : UInt32} {hold start : K} {h : List (CanFrame × K)}
    (hmay : MayTorque canId hold start h) {d : ℕ} {x : CanFrame × K} (hd : h[d]? = some x)
    (hdisarm : isDisarm canId x.1 = true) :
    ∃ j y, d < j ∧ h[j]? = some y ∧ isControl canId y.1 = true := by
  obtain ⟨i, j, y, ⟨-, hsince⟩, hij, hj, hcontrol, -⟩ := hmay
  refine ⟨j, y, ?_, hj, hcontrol⟩
  by_contra hle
  have hfalse := hsince d x (by omega) hd
  rw [hdisarm] at hfalse
  cases hfalse

end Torque

/-! ## A stopped tick -/

section Stopped

variable {K : Type} [Field K] [LinearOrder K] [IsStrictOrderedRing K] [FloorRing K]
  {cfg : RobotControllerConfig K} {s : ControllerState K} {input : TickInput K}

/-- The controller is in one of the two modes without torque. -/
def IsStopped (s : ControllerState K) : Prop :=
  s.stateMachine.mode = .estop ∨ s.stateMachine.mode = .disabled

omit [Field K] [LinearOrder K] [IsStrictOrderedRing K] [FloorRing K] in
/-- Length and opcode of a frame as it arrives. -/
theorem arrival {f : CANFrame} {g : CanFrame} (h : (hostToSim f).toOption = some g) :
    g.dlc.toNat = f.data.length ∧ (0 < f.data.length → opcode g = f.data.getD 0 0) := by
  unfold hostToSim at h
  cases hsent : socketSendFrame f with
  | error e =>
      rw [hsent] at h
      cases h
  | ok r =>
      rw [hsent] at h
      obtain rfl := Option.some.inj h
      obtain ⟨hdlc, -, hdata⟩ := socketSendFrame_fields hsent
      refine ⟨hdlc, fun hpos => ?_⟩
      have hcut : 0 < min r.canDlc.toNat 8 := by
        rw [hdlc]
        omega
      simp only [opcode, fromLinuxCanFrame, Vector.getElem_ofFn, if_pos hcut, hdata, ljust8]
      rfl

/-- What a stopped tick sends to the actuators. -/
theorem eq_disable_of_stopped (hstopped : IsStopped (tick cfg s input).1) {f : CANFrame}
    (hf : f ∈ (tick cfg s input).2.actuatorFrames) :
    ∃ p : SPGActuatorProtocol K, f = p.encodeDisableFrame := by
  cases hreads : readsSlot cfg input with
  | false =>
      rw [(tick_of_not_readsSlot hreads).2.1] at hf
      cases hf
  | true =>
      obtain ⟨s', hsm, hframes, -⟩ := tick_out_of_readsSlot (s := s) hreads
      have hsend : ∀ op, sendForMode cfg input.toTickEnv (sentImuFrames cfg input) s' op =
          sendDisableAll cfg input.toTickEnv (sentImuFrames cfg input) s' := by
        intro op
        unfold sendForMode
        rcases hstopped with hmode | hmode <;> rw [hsm, hmode]
      rw [hframes, hsend] at hf
      obtain ⟨f', hf', heq⟩ := List.mem_map.mp (mem_of_mem_sendEach hf)
      obtain ⟨p, -, rfl⟩ := List.mem_map.mp hf'
      exact ⟨p, (Except.ok.inj heq).symm⟩

/-- A stopped tick sends disable frames and IMU requests, and no control frame to anybody. -/
theorem not_isControl_of_stopped (hstopped : IsStopped (tick cfg s input).1) (canId : UInt32)
    {frame : CanFrame} (hframe : frame ∈ wireFrames (tick cfg s input).2) :
    isControl canId frame = false := by
  obtain ⟨f, hf, hraw⟩ := List.mem_filterMap.mp hframe
  obtain ⟨hdlc, hcode⟩ := arrival hraw
  simp only [isControl, isCommand, Bool.and_eq_false_iff]
  rcases List.mem_append.mp hf with himu | hact
  · -- an IMU request is one byte long
    have hlength : f.data.length = 1 := by
      rw [tick_imuFrames] at himu
      have hrequest := mem_of_mem_sendEach himu
      unfold imuRequests at hrequest
      split at hrequest
      · split at hrequest
        · cases List.mem_singleton.mp hrequest
          rfl
        · cases List.mem_singleton.mp hrequest
      · cases hrequest
    left
    right
    have hshort : ¬ (8 : UInt8) ≤ frame.dlc := by
      rw [UInt8.le_iff_toNat_le, hdlc, hlength]
      decide
    simp [hasDlcAtLeast, hshort]
  · right
    obtain ⟨p, rfl⟩ := eq_disable_of_stopped hstopped hact
    rw [hcode (Nat.zero_lt_succ 7)]
    rfl

/-- A stopped tick whose sends are accepted sends every actuator a frame that disarms it. -/
theorem exists_disarm_of_stopped (hstopped : IsStopped (tick cfg s input).1)
    (hacc : SendsAccepted cfg input) {canId : UInt32} (hcanId : (canId.toNat : ℤ) ∈ cfg.canIds) :
    ∃ frame ∈ wireFrames (tick cfg s input).2, isDisarm canId frame = true := by
  obtain ⟨-, hframes⟩ := tick_sends_disable hstopped hacc
  have hmem : (⟨canId.toNat, [0xC2, 0, 0, 0, 0, 0, 0, 0]⟩ : CANFrame) ∈
      (tick cfg s input).2.actuatorFrames := by
    have hto := hframes canId.toNat
    rw [if_pos hcanId] at hto
    have hself : (⟨canId.toNat, [0xC2, 0, 0, 0, 0, 0, 0, 0]⟩ : CANFrame) ∈
        framesTo canId.toNat (tick cfg s input).2.actuatorFrames := by
      rw [hto]
      exact List.mem_singleton_self _
    exact List.mem_of_mem_filter hself
  obtain ⟨hid0, hid⟩ := standard_of_sendFrame
    (hacc.2 ⟨canId.toNat, [0xC2, 0, 0, 0, 0, 0, 0, 0]⟩ hcanId [])
  have hraw : hostToSim ⟨canId.toNat, [0xC2, 0, 0, 0, 0, 0, 0, 0]⟩ =
      .ok ⟨UInt32.ofInt canId.toNat, 8, ljust8 [0xC2, 0, 0, 0, 0, 0, 0, 0]⟩ :=
    hostToSim_eight hid0 hid rfl
  refine ⟨⟨UInt32.ofInt canId.toNat, 8, ljust8 [0xC2, 0, 0, 0, 0, 0, 0, 0]⟩, ?_, ?_⟩
  · refine List.mem_filterMap.mpr ⟨_, List.mem_append_right _ hmem, ?_⟩
    rw [hraw]
    rfl
  · have hsame : UInt32.ofInt (canId.toNat : ℤ) = canId := by
      apply UInt32.toNat_inj.mp
      exact toNat_ofInt_natCast canId.toNat_lt
    rw [hsame]
    simp only [isDisarm, isCommand, beq_self_eq_true, Bool.true_and]
    rfl

end Stopped

/-! ## Whole runs -/

section Whole

variable {K : Type} [Field K] [LinearOrder K] [IsStrictOrderedRing K] [FloorRing K]

/-- A robot whose simulator was just reset, with an empty wire. -/
def Robot.start (controller : ControllerState K) (bindings : List (ActuatorBinding K))
    (imus : List (E2BoxImuFirmwareConfig K)) (model : MjModel K) (data : MjData K) : Robot K where
  controller := controller
  wire := []
  bridge := resetModel bindings imus model data

omit [Field K] [LinearOrder K] [IsStrictOrderedRing K] [FloorRing K] in
/-- The front of a list cut at one of its places. -/
theorem exists_cut {α : Type} {l : List α} {m n : ℕ} {x : α} (hmn : m < n) (hm : l[m]? = some x) :
    ∃ later, l.take n = l.take m ++ x :: later ∧
      ∀ y ∈ later, ∃ k, m < k ∧ k < n ∧ l[k]? = some y := by
  refine ⟨(l.take n).drop (m + 1), ?_, fun y hy => ?_⟩
  · have htail : (l.take n).drop m = x :: (l.take n).drop (m + 1) := by
      rw [List.drop_eq_getElem?_toList_append, List.getElem?_take_of_lt hmn, hm]
      rfl
    have hfront : (l.take n).take m = l.take m := by
      rw [List.take_take, min_eq_left hmn.le]
    rw [← hfront, ← htail, List.take_append_drop]
  · obtain ⟨j, hj⟩ := List.mem_iff_getElem?.mp hy
    rw [List.getElem?_drop, List.getElem?_take] at hj
    split at hj
    · exact ⟨m + 1 + j, by omega, by assumption, hj⟩
    · cases hj

/-- The heart of it: what was processed is the front of what was sent, a frame that disarms the motor is
part of it, and after that one nobody but another sender sends the motor a control frame. -/
theorem exists_foreign_control {cfg : RobotControllerConfig K} {earlier later : List (RobotEntry K)}
    {em : RobotEntry K} {frames : List (CanFrame × K)} {pending : List CanFrame}
    (hsent : frames.map Prod.fst ++ pending = sentIn cfg (earlier ++ em :: later))
    (hdrained : (sentIn cfg earlier).length + (sentBy cfg em).length ≤ frames.length)
    {canId : UInt32} {hold start : K} (hmay : MayTorque canId hold start frames)
    (hdisarm : ∃ f ∈ sentBy cfg em, isDisarm canId f = true)
    (hem : ∀ f ∈ sentBy cfg em, isControl canId f = false)
    (hlater : ∀ e ∈ later, ∀ input, e.input = .tick input → ∀ f ∈ sentBy cfg e,
      isControl canId f = false) :
    ∃ e ∈ later, ∃ frame, e.input = .foreign frame ∧ isControl canId frame = true := by
  have hsplit : sentIn cfg (earlier ++ em :: later) =
      sentIn cfg earlier ++ (sentBy cfg em ++ sentIn cfg later) := by
    simp [sentIn]
  rw [hsplit] at hsent
  -- what was processed stands where it was sent
  have hplace : ∀ {j : ℕ} {y : CanFrame × K}, frames[j]? = some y →
      (sentIn cfg earlier ++ (sentBy cfg em ++ sentIn cfg later))[j]? = some y.1 := by
    intro j y hj
    have hlt : j < (frames.map Prod.fst).length := by
      rw [List.length_map]
      exact (List.getElem?_eq_some_iff.mp hj).1
    rw [← hsent, List.getElem?_append_left hlt, List.getElem?_map, hj]
    rfl
  obtain ⟨f, hf, hfdisarm⟩ := hdisarm
  obtain ⟨a, ha⟩ := List.mem_iff_getElem?.mp hf
  have halt : a < (sentBy cfg em).length := (List.getElem?_eq_some_iff.mp ha).1
  obtain ⟨x, hx⟩ : ∃ x, frames[(sentIn cfg earlier).length + a]? = some x :=
    ⟨_, List.getElem?_eq_getElem (by omega)⟩
  have hxf : x.1 = f := by
    have hxplace := hplace hx
    rw [List.getElem?_append_right (by omega), Nat.add_sub_cancel_left,
      List.getElem?_append_left halt, ha] at hxplace
    exact (Option.some.inj hxplace).symm
  obtain ⟨j, y, hdj, hj, hcontrol⟩ := exists_control_after hmay hx (hxf ▸ hfdisarm)
  have hyplace := hplace hj
  rw [List.getElem?_append_right (by omega)] at hyplace
  rcases List.mem_append.mp (List.mem_of_getElem? hyplace) with hmem | hmem
  · rw [hem y.1 hmem] at hcontrol
    cases hcontrol
  · obtain ⟨e, he, hye⟩ := List.mem_flatMap.mp hmem
    cases hinput : e.input with
    | tick input =>
        rw [hlater e he input hinput y.1 hye] at hcontrol
        cases hcontrol
    | foreign frame =>
        simp only [sentBy, hinput, List.mem_singleton] at hye
        exact ⟨e, he, frame, hinput, hye ▸ hcontrol⟩
    | deliver => simp only [sentBy, hinput, List.not_mem_nil] at hye
    | sim event => simp only [sentBy, hinput, List.not_mem_nil] at hye

/-- **A stopped robot has no torque.** The tick at `m` is stopped and its sends are accepted, every later
tick up to `n` is stopped, and the simulator has processed everything that was sent up to that tick. Then
a nonzero control value at `n` for a configured motor means that another sender sent it a control frame
since. -/
theorem stopped_robot_torqueless (sqrt : K → K) (cfg : RobotControllerConfig K)
    {bindings : List (ActuatorBinding K)} (hb : DistinctBindings bindings)
    (imus : List (E2BoxImuFirmwareConfig K)) (model₀ : MjModel K) (data₀ : MjData K)
    (controller : ControllerState K) (events : List (RobotEvent K)) :
    let tr := trace (robotStep sqrt cfg) (.start controller bindings imus model₀ data₀) events
    ∀ (m n : ℕ) (em en : RobotEntry K) (input : TickInput K) (model : MjModel K)
      (data data' : MjData K) (i : ℕ) (binding : ActuatorBinding K) (v : K),
    m < n → tr[m]? = some em → tr[n]? = some en →
    em.input = .tick input → IsStopped em.after.controller → SendsAccepted cfg input →
    (∀ (k : ℕ) (ek : RobotEntry K) (later : TickInput K), m < k → k < n → tr[k]? = some ek →
      ek.input = .tick later → IsStopped ek.after.controller) →
    (sentIn cfg (tr.take (m + 1))).length ≤
      (processedIn sqrt (resetModel bindings imus model₀ data₀) (tr.take n)).length →
    en.input = .sim (.applyCommandsToMujoco model data) → en.out = some data' →
    RangesContainZero model → bindings[i]? = some binding → (binding.canId.toNat : ℤ) ∈ cfg.canIds →
    inRange binding.ctrlAdr model.nu = true → data'.ctrl[binding.ctrlAdr.toNat]? = some v → v ≠ 0 →
    ∃ (k : ℕ) (ek : RobotEntry K) (frame : CanFrame), m < k ∧ k < n ∧ tr[k]? = some ek ∧
      ek.input = .foreign frame ∧ isControl binding.canId frame = true := by
  intro tr m n em en input model data data' i binding v hmn hm hn htick hstopped hacc hstay hdrained
    happly hout hzero hi hid hrange hv hne
  have horder : InOrder sqrt cfg (resetModel bindings imus model₀ data₀) (tr.take n) en.before :=
    trace_history_before ⟨rfl, rfl⟩ (fun past s event h => h.step event) hn
  have hsent := horder.sent_eq rfl
  obtain ⟨later, hcut, hlater⟩ := exists_cut hmn hm
  have hstoppedTick : ∀ (k : ℕ) (ek : RobotEntry K) (input : TickInput K), tr[k]? = some ek →
      ek.input = .tick input → IsStopped ek.after.controller →
      IsStopped (tick cfg ek.before.controller input).1 := by
    intro k ek input hk hinput hstopped
    rw [after_eq _ hk, hinput] at hstopped
    exact hstopped
  have hmay : MayTorque binding.canId binding.spgMitConfig.setZeroHoldS data₀.time
      (processedIn sqrt (resetModel bindings imus model₀ data₀) (tr.take n)) := by
    rw [out_eq _ hn, happly] at hout
    obtain rfl := Option.some.inj hout
    have hctrl : (en.before.bridge.applyCommandsToMujoco model data).ctrl[binding.ctrlAdr.toNat]? =
        some v := hv
    rw [horder.bridge] at hctrl
    exact mayTorque_of_ctrl sqrt hb imus model₀ data₀ _ hi hzero hrange hctrl hne
  have hupto : (sentIn cfg (tr.take (m + 1))).length =
      (sentIn cfg (tr.take m)).length + (sentBy cfg em).length := by
    rw [trace_take_succ _ hm, sentIn, List.flatMap_append, List.length_append, List.flatMap_singleton]
    rfl
  rw [hupto] at hdrained
  generalize processedIn sqrt (resetModel bindings imus model₀ data₀) (tr.take n) = frames
    at hsent hdrained hmay
  rw [hcut] at hsent
  have hafter := hstoppedTick m em input hm htick hstopped
  have hsentBy : sentBy cfg em = wireFrames (tick cfg em.before.controller input).2 := by
    simp only [sentBy, htick]
  obtain ⟨e, he, frame, hforeign, hcontrol⟩ := exists_foreign_control hsent hdrained hmay
    (hsentBy ▸ exists_disarm_of_stopped hafter hacc hid)
    (fun f hf => not_isControl_of_stopped hafter _ (hsentBy ▸ hf)) fun e he later hlaterTick f hf => by
      obtain ⟨k, hmk, hkn, hk⟩ := hlater e he
      have hlaterStopped := hstoppedTick k e later hk hlaterTick (hstay k e later hmk hkn hk hlaterTick)
      refine not_isControl_of_stopped hlaterStopped _ ?_
      simpa only [sentBy, hlaterTick] using hf
  obtain ⟨k, hmk, hkn, hk⟩ := hlater e he
  exact ⟨k, e, frame, hmk, hkn, hk, hforeign, hcontrol⟩

end Whole

/-! ## Two motors -/

/-- The simulator's side of the two-actuator robot. -/
def twoMotorBindings : List (ActuatorBinding ℚ) :=
  [{ canId := 0x101, ctrlAdr := 0, actuatorId := 0, qposAdr := 0, qvelAdr := 0 },
    { canId := 0x102, ctrlAdr := 1, actuatorId := 1, qposAdr := 1, qvelAdr := 1 }]

def twoMotorModel : MjModel ℚ := ⟨2, 2, 2, [false, false], []⟩

def twoMotorData : MjData ℚ := ⟨0, [0, 0], [0, 0], [0, 0], [0, 0], (1, 0, 0, 0), (0, 0, 0)⟩

/-- A full-scale control frame for the first motor. -/
def fullTorque : CanFrame := ⟨0x101, 8, ljust8 [0xC0, 0xFF, 0xFF, 0x80, 0x0F, 0xFF, 0, 0x80]⟩

/-- The controller stops, its two frames arrive and are processed, and then another sender enters the
first motor and drives it. -/
def overriddenRun : List (RobotEvent ℚ) :=
  [.tick (tickOn 1 1 .estop), .deliver, .deliver, .sim (.processHostFrames 1),
    .foreign ⟨0x101, 8, ljust8 [0xC1]⟩, .foreign fullTorque, .deliver, .deliver,
    .sim (.processHostFrames 2), .sim (.applyCommandsToMujoco twoMotorModel twoMotorData)]

theorem distinct_twoMotorBindings : DistinctBindings twoMotorBindings := by
  refine ⟨by decide, fun binding hmem => ?_, by decide⟩
  simp only [twoMotorBindings, List.mem_cons, List.not_mem_nil, or_false] at hmem
  rcases hmem with rfl | rfl <;> decide

/-- The torque of the first motor is the other sender's. -/
theorem stopped_robot_overridden :
    let tr := trace (robotStep id twoActuatorConfig)
      (.start freshController twoMotorBindings [] twoMotorModel twoMotorData) overriddenRun
    (tr[9]?.bind fun e => e.out.map MjData.ctrl) = some [531261 / 85, 0] ∧
      ∃ (k : ℕ) (ek : RobotEntry ℚ) (frame : CanFrame), 0 < k ∧ k < 9 ∧ tr[k]? = some ek ∧
        ek.input = .foreign frame ∧ isControl 0x101 frame = true := by
  intro tr
  have hctrl : (tr[9]?.bind fun e => e.out.map MjData.ctrl) = some [531261 / 85, 0] := by
    decide +kernel
  refine ⟨hctrl, ?_⟩
  obtain ⟨en, hen, hout⟩ := Option.bind_eq_some_iff.mp hctrl
  obtain ⟨data', hdata, hlist⟩ := Option.map_eq_some_iff.mp hout
  have hinput : en.input = .sim (.applyCommandsToMujoco twoMotorModel twoMotorData) :=
    Option.some.inj ((input_at _ hen).symm.trans rfl)
  obtain ⟨em, hem, hemInput⟩ := entry_at (robotStep id twoActuatorConfig)
    (.start freshController twoMotorBindings [] twoMotorModel twoMotorData) (n := 0)
    (show overriddenRun[0]? = some (.tick (tickOn 1 1 .estop)) from rfl)
  have hstopped : IsStopped em.after.controller := by
    left
    have hmode : (tr[0]?.map fun e => e.after.controller.stateMachine.mode) = some .estop := by
      decide +kernel
    rw [hem] at hmode
    exact Option.some.inj hmode
  have hranges : RangesContainZero twoMotorModel := by
    intro adr hlimited
    match adr with
    | 0 => cases hlimited
    | 1 => cases hlimited
    | adr + 2 => cases hlimited
  refine stopped_robot_torqueless id twoActuatorConfig distinct_twoMotorBindings [] twoMotorModel
    twoMotorData freshController overriddenRun 0 9 em en (tickOn 1 1 .estop) twoMotorModel twoMotorData
    data' 0 _ (531261 / 85) (by decide) hem hen hemInput hstopped (sendsAccepted_tickOn 1 1 .estop) ?_
    (by decide +kernel) hinput hdata hranges rfl (by decide) (by decide) ?_ (by decide +kernel)
  · -- no other tick is made
    intro k ek later hk hkn hek hlater
    have hat := input_at _ hek
    rw [hlater] at hat
    interval_cases k <;> cases hat
  · rw [hlist]
    rfl

end SparqControl.Link
