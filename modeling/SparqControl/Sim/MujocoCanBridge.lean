/-
# SparqControl.Sim.MujocoCanBridge — the simulated CAN bus with all its motors.

The bridge owns two frame queues, one virtual device per actuator binding, the IMUs and a buffer with
one latched command per actuator. A simulation step drains the host queue (4096 frames at most), turns
the latched commands into control values, and publishes feedback.

With pairwise distinct ids the bridge is a family of independent devices: every run of the bridge,
seen at one index, is the run of `Sim.SpgDevice` on the frames and samples of that run
(`tracks_run`). The per-device results then speak about the whole simulator (`bridge_torque_gated`).
-/
import Mathlib.Data.List.Nodup
import SparqControl.Sim.E2BoxImuFirmware
import SparqControl.Sim.SpgDevice

namespace SparqControl.Sim

open SparqControl.Hal
open SparqControl.Lib.Slots
open SparqControl.Lib.Trace

/-! ## Data -/

/-- The members of `ActuatorBinding` the bridge computes with. -/
structure ActuatorBinding (K : Type) [Field K] where
  canId : UInt32
  actuatorId : ℤ := -1
  qposAdr : ℤ := -1
  qvelAdr : ℤ := -1
  ctrlAdr : ℤ := -1
  sign : K := 1
  offsetRad : K := 0
  spgMitConfig : SPGMITConfig K := {}

/-- The members of `mjModel` the bridge reads. -/
structure MjModel (K : Type) where
  nq : ℕ
  nv : ℕ
  nu : ℕ
  actuatorCtrllimited : List Bool
  actuatorCtrlrange : List (K × K)

/-- The members of `mjData` the bridge reads and writes; `quat` and `gyro` are the sensor readings of
the base. -/
structure MjData (K : Type) where
  time : K
  qpos : List K
  qvel : List K
  ctrl : List K
  actuatorForce : List K
  quatWxyz : K × K × K × K
  gyroXyz : K × K × K

/-- `StateBuffer`. -/
structure StateBuffer (K : Type) where
  simTime : K
  nq : ℕ
  nv : ℕ
  nu : ℕ
  qpos : List K
  qvel : List K
  ctrl : List K
  actuatorForce : List K
  baseQuatWxyz : K × K × K × K
  baseGyroXyz : K × K × K

/-- `VirtualActuatorDevice`. -/
structure VirtualActuatorDevice (K : Type) [Field K] where
  bindingIndex : ℕ
  binding : ActuatorBinding K
  firmware : SPGFirmware K

/-- `MujocoCanBridge`, initialised. -/
structure MujocoCanBridge (K : Type) [Field K] where
  hostToDevice : List CanFrame := []
  deviceToHost : List CanFrame := []
  actuatorCommands : List (ActuatorCommand K)
  actuatorBindings : List (ActuatorBinding K)
  actuators : List (VirtualActuatorDevice K)
  imus : List (E2BoxImuFirmwareConfig K)
  state : StateBuffer K

/-- A C++ index into a vector of the given size. -/
def inRange (adr : ℤ) (size : ℕ) : Bool := 0 ≤ adr && adr < size

section Operations

variable {K : Type} [Field K]

/-- `update_state_buffer`. -/
def makeStateBuffer (model : MjModel K) (data : MjData K) : StateBuffer K where
  simTime := data.time
  nq := model.nq
  nv := model.nv
  nu := model.nu
  qpos := data.qpos
  qvel := data.qvel
  ctrl := data.ctrl
  actuatorForce := data.actuatorForce
  baseQuatWxyz := data.quatWxyz
  baseGyroXyz := data.gyroXyz

/-- `make_feedback_sample`: what the device of a binding measures. Telemetry it has no model for is
constant. -/
def makeFeedbackSample (binding : ActuatorBinding K) (state : StateBuffer K) :
    ActuatorFeedbackSample K where
  positionRad :=
    if inRange binding.qposAdr state.qpos.length then
      binding.sign * (state.qpos.getD binding.qposAdr.toNat 0 - binding.offsetRad)
    else 0
  velocityRadS :=
    if inRange binding.qvelAdr state.qvel.length then
      binding.sign * state.qvel.getD binding.qvelAdr.toNat 0
    else 0
  torqueNm :=
    if inRange binding.actuatorId state.actuatorForce.length then
      binding.sign * state.actuatorForce.getD binding.actuatorId.toNat 0
    else 0
  temperatureC := 30.0

/-- `build_default_devices` and the reset of each device. -/
def makeDevice (simTime : K) (index : ℕ) (binding : ActuatorBinding K) : VirtualActuatorDevice K where
  bindingIndex := index
  binding := binding
  firmware := SPGFirmware.reset { canId := binding.canId, config := binding.spgMitConfig } simTime

/-- `reset_model`, from the bindings and IMUs its configuration gives. -/
def resetModel (bindings : List (ActuatorBinding K)) (imus : List (E2BoxImuFirmwareConfig K))
    (model : MjModel K) (data : MjData K) : MujocoCanBridge K where
  actuatorCommands := List.replicate bindings.length {}
  actuatorBindings := bindings
  actuators := bindings.mapIdx (makeDevice data.time)
  imus := imus
  state := makeStateBuffer model data

variable [LinearOrder K]

/-- `VirtualActuatorDevice::on_frame`: the firmware handles the frame, and the command it made, if any,
goes into the buffer at the device's index. -/
def VirtualActuatorDevice.onFrame (dev : VirtualActuatorDevice K) (frame : CanFrame)
    (commands : List (ActuatorCommand K)) (simTime : K) :
    VirtualActuatorDevice K × List (ActuatorCommand K) :=
  if dev.firmware.accepts frame then
    match (dev.firmware.onCanFrame frame simTime).consumePendingCommand with
    | (firmware, some command) =>
        ({ dev with firmware := firmware }, commands.set dev.bindingIndex command)
    | (firmware, none) => ({ dev with firmware := firmware }, commands)
  else (dev, commands)

variable [FloorRing K]

/-- `make_imu_sample`. -/
def MujocoCanBridge.makeImuSample (b : MujocoCanBridge K) : ImuSample K where
  qx := b.state.baseQuatWxyz.2.1
  qy := b.state.baseQuatWxyz.2.2.1
  qz := b.state.baseQuatWxyz.2.2.2
  qw := b.state.baseQuatWxyz.1
  gx := b.state.baseGyroXyz.1
  gy := b.state.baseGyroXyz.2.1
  gz := b.state.baseGyroXyz.2.2

/-- One round of `process_host_frames`: the first actuator that accepts the frame takes it, else the
first IMU that does. -/
def MujocoCanBridge.processFrame (sqrt : K → K) (b : MujocoCanBridge K) (frame : CanFrame)
    (simTime : K) : MujocoCanBridge K :=
  match b.actuators.findIdx? fun dev => dev.firmware.accepts frame with
  | some i =>
      match b.actuators[i]? with
      | some dev =>
          let (dev', commands) := dev.onFrame frame b.actuatorCommands simTime
          { b with actuators := b.actuators.set i dev', actuatorCommands := commands }
      | none => b
  | none =>
      match b.imus.find? fun imu => E2BoxImuFirmware.accepts imu frame with
      | some imu =>
          { b with
            deviceToHost :=
              b.deviceToHost ++ E2BoxImuFirmware.onCanFrame sqrt imu frame b.makeImuSample }
      | none => b

/-- `kMaxFramesPerStep`. -/
def kMaxFramesPerStep : ℕ := 4096

/-- The loop of `process_host_frames`, with the rounds it has left. -/
def MujocoCanBridge.processLoop (sqrt : K → K) (simTime : K) :
    ℕ → MujocoCanBridge K → MujocoCanBridge K
  | 0, b => b
  | rounds + 1, b =>
      match b.hostToDevice with
      | [] => b
      | frame :: rest =>
          processLoop sqrt simTime rounds
            ({ b with hostToDevice := rest }.processFrame sqrt frame simTime)

/-- `process_host_frames`. -/
def MujocoCanBridge.processHostFrames (sqrt : K → K) (b : MujocoCanBridge K) (simTime : K) :
    MujocoCanBridge K :=
  b.processLoop sqrt simTime kMaxFramesPerStep

/-- `publish_device_feedback`. -/
def MujocoCanBridge.publishDeviceFeedback (b : MujocoCanBridge K) : MujocoCanBridge K :=
  { b with
    actuators := b.actuators.map fun dev =>
      { dev with
        firmware := (dev.firmware.makeFeedbackFrames (makeFeedbackSample dev.binding b.state)).1 }
    deviceToHost := b.deviceToHost ++ b.actuators.flatMap fun dev =>
      (dev.firmware.makeFeedbackFrames (makeFeedbackSample dev.binding b.state)).2 }

/-- `clamp_ctrl_if_needed`. -/
def clampCtrlIfNeeded (model : MjModel K) (ctrlAdr : ℕ) (ctrl : K) : K :=
  if model.actuatorCtrllimited.getD ctrlAdr false then
    let range := model.actuatorCtrlrange.getD ctrlAdr (0, 0)
    clampValue ctrl range.1 range.2
  else ctrl

/-- `get_logical_position`. -/
def getLogicalPosition (binding : ActuatorBinding K) (state : StateBuffer K) (data : MjData K) : K :=
  if inRange binding.qposAdr state.nq then
    binding.sign * (data.qpos.getD binding.qposAdr.toNat 0 - binding.offsetRad)
  else 0

/-- `get_logical_velocity`. -/
def getLogicalVelocity (binding : ActuatorBinding K) (state : StateBuffer K) (data : MjData K) : K :=
  if inRange binding.qvelAdr state.nv then
    binding.sign * data.qvel.getD binding.qvelAdr.toNat 0
  else 0

/-- The control value `apply_commands_to_mujoco` computes for one binding. -/
def MujocoCanBridge.ctrlValue (b : MujocoCanBridge K) (model : MjModel K) (data : MjData K)
    (index : ℕ) (binding : ActuatorBinding K) : K :=
  let tauLogical :=
    match b.actuatorCommands[index]? with
    | some command =>
        if command.valid && command.enabled then
          computeLogicalTorqueCommand command (getLogicalPosition binding b.state data)
            (getLogicalVelocity binding b.state data)
        else 0
    | none => 0
  clampCtrlIfNeeded model binding.ctrlAdr.toNat (binding.sign * tauLogical)

/-- The loop of `apply_commands_to_mujoco` over the bindings from an index on. -/
def MujocoCanBridge.applyFrom (b : MujocoCanBridge K) (model : MjModel K) (data : MjData K) :
    ℕ → List (ActuatorBinding K) → List K → List K
  | _, [], ctrl => ctrl
  | index, binding :: rest, ctrl =>
      applyFrom b model data (index + 1) rest
        (if inRange binding.ctrlAdr model.nu then
          ctrl.set binding.ctrlAdr.toNat (b.ctrlValue model data index binding)
        else ctrl)

/-- `apply_commands_to_mujoco`. -/
def MujocoCanBridge.applyCommandsToMujoco (b : MujocoCanBridge K) (model : MjModel K)
    (data : MjData K) : MjData K :=
  { data with ctrl := b.applyFrom model data 0 b.actuatorBindings data.ctrl }

/-! ## Runs -/

end Operations

/-- What is done to an initialised bridge. `before_step` and `after_step` are sequences of these. -/
inductive BridgeEvent (K : Type) where
  | pushHostFrame (frame : CanFrame)
  | popDeviceFrame
  | updateStateBuffer (model : MjModel K) (data : MjData K)
  | processHostFrames (simTime : K)
  | publishDeviceFeedback
  | applyCommandsToMujoco (model : MjModel K) (data : MjData K)

section Runs

variable {K : Type} [Field K] [LinearOrder K] [FloorRing K]

/-- One event. The output is the data `apply_commands_to_mujoco` leaves. -/
def bridgeStep (sqrt : K → K) (b : MujocoCanBridge K) :
    BridgeEvent K → MujocoCanBridge K × Option (MjData K)
  | .pushHostFrame frame => ({ b with hostToDevice := b.hostToDevice ++ [frame] }, none)
  | .popDeviceFrame => ({ b with deviceToHost := b.deviceToHost.tail }, none)
  | .updateStateBuffer model data => ({ b with state := makeStateBuffer model data }, none)
  | .processHostFrames simTime => (b.processHostFrames sqrt simTime, none)
  | .publishDeviceFeedback => (b.publishDeviceFeedback, none)
  | .applyCommandsToMujoco model data => (b, some (b.applyCommandsToMujoco model data))

/-- One recorded event. -/
abbrev BridgeEntry (K : Type) [Field K] :=
  Entry (MujocoCanBridge K) (BridgeEvent K) (Option (MjData K))

/-- The frames an event processes, with their time. -/
def eventFrames (b : MujocoCanBridge K) : BridgeEvent K → List (CanFrame × K)
  | .processHostFrames simTime =>
      (b.hostToDevice.take kMaxFramesPerStep).map fun frame => (frame, simTime)
  | _ => []

/-- The frames a recorded run processed, in order. -/
def framesProcessed (tr : List (BridgeEntry K)) : List (CanFrame × K) :=
  tr.flatMap fun e => eventFrames e.before e.input

/-- What an event is for the device of one binding. -/
def eventOps (binding : ActuatorBinding K) (b : MujocoCanBridge K) : BridgeEvent K → List (DeviceOp K)
  | .processHostFrames simTime =>
      (b.hostToDevice.take kMaxFramesPerStep).map fun frame => .frame frame simTime
  | .publishDeviceFeedback => [.feedback (makeFeedbackSample binding b.state)]
  | _ => []

/-- What a recorded run is for the device of one binding. -/
def deviceOps (binding : ActuatorBinding K) (tr : List (BridgeEntry K)) : List (DeviceOp K) :=
  tr.flatMap fun e => eventOps binding e.before e.input

/-! ## The bridge as a family of devices -/

/-- The bindings of a well-formed configuration: pairwise distinct nonzero ids and pairwise distinct
actuators. -/
structure DistinctBindings (bindings : List (ActuatorBinding K)) : Prop where
  ids : (bindings.map ActuatorBinding.canId).Nodup
  nonzero : ∀ binding ∈ bindings, binding.canId ≠ 0
  ctrls : (bindings.map ActuatorBinding.ctrlAdr).Nodup

/-- At every index, firmware object and buffered command are those of the device there. -/
structure Tracks (bindings : List (ActuatorBinding K)) (devices : ActuatorBinding K → SpgDevice K)
    (b : MujocoCanBridge K) : Prop where
  bindings_eq : b.actuatorBindings = bindings
  length_eq : b.actuators.length = bindings.length
  at_index : ∀ (i : ℕ) (binding : ActuatorBinding K), bindings[i]? = some binding →
    b.actuators[i]? = some ⟨i, binding, (devices binding).firmware⟩ ∧
    b.actuatorCommands[i]? = some (devices binding).latched ∧
    (devices binding).firmware.canId = binding.canId

omit [LinearOrder K] [FloorRing K] in
theorem tracks_reset (bindings : List (ActuatorBinding K)) (imus : List (E2BoxImuFirmwareConfig K))
    (model : MjModel K) (data : MjData K) :
    Tracks bindings (fun binding => deviceReset binding.canId binding.spgMitConfig data.time)
      (resetModel bindings imus model data) := by
  refine ⟨rfl, by simp [resetModel], fun i binding hi => ⟨?_, ?_, rfl⟩⟩
  · simp [resetModel, hi, makeDevice, deviceReset]
  · have hlt : i < bindings.length := (List.getElem?_eq_some_iff.mp hi).1
    simp [resetModel, hlt, deviceReset]

omit [FloorRing K] in
/-- A device that does not accept a frame does not see it. -/
theorem deviceOnFrame_of_ne {fw : SPGFirmware K} {frame : CanFrame} (h : frame.canId ≠ fw.canId)
    (latched : ActuatorCommand K) (simTime : K) :
    deviceOnFrame fw latched frame simTime = (fw, latched) := by
  rw [deviceOnFrame, if_neg]
  simpa [SPGFirmware.accepts] using h

omit [FloorRing K] in
/-- The buffer slot of the device that takes a frame. -/
theorem onFrame_eq {i : ℕ} {binding : ActuatorBinding K} {fw : SPGFirmware K} {frame : CanFrame}
    {commands : List (ActuatorCommand K)} {latched : ActuatorCommand K}
    (hacc : fw.accepts frame = true) (hslot : commands[i]? = some latched) (simTime : K) :
    VirtualActuatorDevice.onFrame ⟨i, binding, fw⟩ frame commands simTime =
      (⟨i, binding, (deviceOnFrame fw latched frame simTime).1⟩,
        commands.set i (deviceOnFrame fw latched frame simTime).2) := by
  have hkeep : commands.set i latched = commands := by
    obtain ⟨hlt, rfl⟩ := List.getElem?_eq_some_iff.mp hslot
    exact List.set_getElem_self hlt
  rw [VirtualActuatorDevice.onFrame, if_pos hacc, deviceOnFrame, if_pos hacc,
    SPGFirmware.consumePendingCommand]
  split_ifs
  · rfl
  · simp [hkeep]

/-- **One frame** reaches the device with its id, and no other. -/
theorem Tracks.processFrame {bindings : List (ActuatorBinding K)}
    {devices : ActuatorBinding K → SpgDevice K} {b : MujocoCanBridge K} (h : Tracks bindings devices b)
    (hids : (bindings.map ActuatorBinding.canId).Nodup) (sqrt : K → K) (frame : CanFrame)
    (simTime : K) :
    Tracks bindings (fun binding => (deviceStep (devices binding) (.frame frame simTime)).1)
      (b.processFrame sqrt frame simTime) := by
  -- a device of another id stays as it is
  have hother : ∀ (binding : ActuatorBinding K), frame.canId ≠ (devices binding).firmware.canId →
      (deviceStep (devices binding) (.frame frame simTime)).1 = devices binding := by
    intro binding hne
    simp only [deviceStep, deviceOnFrame_of_ne hne]
  unfold MujocoCanBridge.processFrame
  cases hfind : b.actuators.findIdx? fun dev => dev.firmware.accepts frame with
  | none =>
      have hall : ∀ (i : ℕ) (binding : ActuatorBinding K), bindings[i]? = some binding →
          (deviceStep (devices binding) (.frame frame simTime)).1 = devices binding := by
        intro i binding hi
        refine hother binding fun heq => ?_
        have hmem := List.mem_of_getElem? (h.at_index i binding hi).1
        have hnone := List.findIdx?_eq_none_iff.mp hfind _ hmem
        simp [SPGFirmware.accepts, heq] at hnone
      have hsame : Tracks bindings
          (fun binding => (deviceStep (devices binding) (.frame frame simTime)).1) b := by
        refine ⟨h.bindings_eq, h.length_eq, fun i binding hi => ?_⟩
        rw [hall i binding hi]
        exact h.at_index i binding hi
      dsimp only
      split
      · exact ⟨hsame.bindings_eq, hsame.length_eq, hsame.at_index⟩
      · exact hsame
  | some j =>
      obtain ⟨hlt, hacc, -⟩ := List.findIdx?_eq_some_iff_getElem.mp hfind
      obtain ⟨owner, howner⟩ : ∃ x, bindings[j]? = some x :=
        ⟨_, List.getElem?_eq_getElem (h.length_eq ▸ hlt)⟩
      obtain ⟨hdev, hslot, hid⟩ := h.at_index j owner howner
      rw [(List.getElem?_eq_some_iff.mp hdev).2] at hacc
      have hframe : frame.canId = owner.canId := by
        rw [← hid]
        simpa [SPGFirmware.accepts] using hacc
      have hslotLt : j < b.actuatorCommands.length := (List.getElem?_eq_some_iff.mp hslot).1
      simp only [hdev, onFrame_eq hacc hslot]
      refine ⟨h.bindings_eq, by simpa using h.length_eq, fun i binding hi => ?_⟩
      by_cases hij : j = i
      · subst hij
        obtain rfl : owner = binding := Option.some.inj (howner.symm.trans hi)
        refine ⟨?_, ?_, ?_⟩
        · rw [List.getElem?_set_self hlt]
          rfl
        · rw [List.getElem?_set_self hslotLt]
          rfl
        · exact (deviceStep_identity _ _).1.trans hid
      · have hne : frame.canId ≠ (devices binding).firmware.canId := by
          rw [hframe, (h.at_index i binding hi).2.2]
          intro heq
          have hj : (bindings.map ActuatorBinding.canId)[j]? = some owner.canId := by simp [howner]
          have hi' : (bindings.map ActuatorBinding.canId)[i]? = some owner.canId := by simp [hi, heq]
          exact hij ((List.getElem?_inj (by simpa using h.length_eq ▸ hlt) hids).mp (hj.trans hi'.symm))
        rw [hother binding hne, List.getElem?_set_ne hij, List.getElem?_set_ne hij]
        exact h.at_index i binding hi

theorem processFrame_hostToDevice (sqrt : K → K) (b : MujocoCanBridge K) (frame : CanFrame)
    (simTime : K) : (b.processFrame sqrt frame simTime).hostToDevice = b.hostToDevice := by
  unfold MujocoCanBridge.processFrame
  split
  · split <;> rfl
  · split <;> rfl

/-- **A run of the loop**: every device sees the frames at the head of the queue. -/
theorem Tracks.processLoop {bindings : List (ActuatorBinding K)}
    (hids : (bindings.map ActuatorBinding.canId).Nodup) (sqrt : K → K) (simTime : K) (rounds : ℕ)
    {devices : ActuatorBinding K → SpgDevice K} {b : MujocoCanBridge K}
    (h : Tracks bindings devices b) :
    Tracks bindings (fun binding => final deviceStep (devices binding)
      ((b.hostToDevice.take rounds).map fun frame => .frame frame simTime))
      (b.processLoop sqrt simTime rounds) := by
  induction rounds generalizing b devices with
  | zero => exact h
  | succ rounds ih =>
      unfold MujocoCanBridge.processLoop
      cases hqueue : b.hostToDevice with
      | nil => exact h
      | cons frame rest =>
          have hpop : Tracks bindings devices { b with hostToDevice := rest } :=
            ⟨h.bindings_eq, h.length_eq, h.at_index⟩
          have hrest := ih (hpop.processFrame hids sqrt frame simTime)
          rw [processFrame_hostToDevice] at hrest
          exact hrest

/-- **One event** of the bridge is, at every index, the operations of the device there. -/
theorem Tracks.step {bindings : List (ActuatorBinding K)}
    (hids : (bindings.map ActuatorBinding.canId).Nodup) (sqrt : K → K)
    {devices : ActuatorBinding K → SpgDevice K} {b : MujocoCanBridge K}
    (h : Tracks bindings devices b) (ev : BridgeEvent K) :
    Tracks bindings (fun binding => final deviceStep (devices binding) (eventOps binding b ev))
      (bridgeStep sqrt b ev).1 := by
  cases ev with
  | pushHostFrame frame => exact ⟨h.bindings_eq, h.length_eq, h.at_index⟩
  | popDeviceFrame => exact ⟨h.bindings_eq, h.length_eq, h.at_index⟩
  | updateStateBuffer model data => exact ⟨h.bindings_eq, h.length_eq, h.at_index⟩
  | processHostFrames simTime => exact h.processLoop hids sqrt simTime kMaxFramesPerStep
  | publishDeviceFeedback =>
      refine ⟨h.bindings_eq, by simpa [bridgeStep, MujocoCanBridge.publishDeviceFeedback] using
        h.length_eq, fun i binding hi => ?_⟩
      obtain ⟨hdev, hslot, hid⟩ := h.at_index i binding hi
      refine ⟨?_, hslot, (deviceStep_identity _ _).1.trans hid⟩
      simp only [bridgeStep, MujocoCanBridge.publishDeviceFeedback, List.getElem?_map, hdev,
        Option.map_some]
      rfl
  | applyCommandsToMujoco model data => exact h

/-- **Every run of the bridge** is, at every index, a run of the device there. -/
theorem tracks_run (sqrt : K → K) {bindings : List (ActuatorBinding K)}
    (hids : (bindings.map ActuatorBinding.canId).Nodup) (imus : List (E2BoxImuFirmwareConfig K))
    (model : MjModel K) (data : MjData K) (events : List (BridgeEvent K)) :
    Tracks bindings
      (fun binding => final deviceStep (deviceReset binding.canId binding.spgMitConfig data.time)
        (deviceOps binding (trace (bridgeStep sqrt) (resetModel bindings imus model data) events)))
      (final (bridgeStep sqrt) (resetModel bindings imus model data) events) := by
  refine trace_history_all (bridgeStep sqrt)
    (P := fun tr b => Tracks bindings (fun binding => final deviceStep
      (deviceReset binding.canId binding.spgMitConfig data.time) (deviceOps binding tr)) b)
    (tracks_reset bindings imus model data) (fun tr b ev h => ?_) events
  have hstep := h.step hids sqrt ev
  simp only [← final_append] at hstep
  simpa [deviceOps] using hstep

/-- The frames a device sees in a run are the frames the bridge processed. -/
theorem processed_deviceOps (binding : ActuatorBinding K) (d : SpgDevice K)
    (tr : List (BridgeEntry K)) :
    processed (trace deviceStep d (deviceOps binding tr)) = framesProcessed tr := by
  have hops : ∀ (d : SpgDevice K) (ops : List (DeviceOp K)),
      processed (trace deviceStep d ops) = ops.filterMap DeviceOp.frame? := by
    intro d ops
    induction ops generalizing d with
    | nil => rfl
    | cons op ops ih =>
        rw [trace, processed, List.filterMap_cons, List.filterMap_cons]
        cases op with
        | frame f simTime => exact congrArg _ (ih _)
        | feedback sample => exact ih _
  have hevent : ∀ (b : MujocoCanBridge K) (ev : BridgeEvent K),
      (eventOps binding b ev).filterMap DeviceOp.frame? = eventFrames b ev := by
    intro b ev
    cases ev with
    | processHostFrames simTime => exact List.filterMap_map.trans (congrFun List.filterMap_eq_map' _)
    | pushHostFrame _ => rfl
    | popDeviceFrame => rfl
    | updateStateBuffer _ _ => rfl
    | publishDeviceFeedback => rfl
    | applyCommandsToMujoco _ _ => rfl
  rw [hops, deviceOps, framesProcessed, List.filterMap_flatMap]
  exact congrArg (fun f => List.flatMap f tr) (funext fun e => hevent e.before e.input)

/-! ## Control values -/

omit [LinearOrder K] [FloorRing K] in
theorem toNat_ne_of_inRange {a c : ℤ} {n : ℕ} (ha : inRange a n = true) (hc : inRange c n = true)
    (hne : a ≠ c) : a.toNat ≠ c.toNat := by
  simp only [inRange, Bool.and_eq_true, decide_eq_true_eq] at ha hc
  omega

omit [FloorRing K] in
/-- The loop writes no control value but those of its bindings. -/
theorem applyFrom_other (b : MujocoCanBridge K) (model : MjModel K) (data : MjData K) {adr : ℤ}
    (hadr : inRange adr model.nu = true) (bindings : List (ActuatorBinding K)) :
    ∀ (start : ℕ) (ctrl : List K), adr ∉ bindings.map ActuatorBinding.ctrlAdr →
      (b.applyFrom model data start bindings ctrl)[adr.toNat]? = ctrl[adr.toNat]? := by
  induction bindings with
  | nil => intro start ctrl _; rfl
  | cons binding rest ih =>
      intro start ctrl hnot
      rw [List.map_cons, List.mem_cons, not_or] at hnot
      rw [MujocoCanBridge.applyFrom, ih _ _ hnot.2]
      split
      · rename_i hrange
        exact List.getElem?_set_ne (toNat_ne_of_inRange hrange hadr (Ne.symm hnot.1))
      · rfl

omit [FloorRing K] in
/-- The control value of a binding, where the actuators are distinct. -/
theorem applyFrom_at (b : MujocoCanBridge K) (model : MjModel K) (data : MjData K)
    {binding : ActuatorBinding K} (hrange : inRange binding.ctrlAdr model.nu = true)
    (bindings : List (ActuatorBinding K)) :
    ∀ (start i : ℕ) (ctrl : List K), (bindings.map ActuatorBinding.ctrlAdr).Nodup →
      bindings[i]? = some binding →
      (b.applyFrom model data start bindings ctrl)[binding.ctrlAdr.toNat]? =
        ctrl[binding.ctrlAdr.toNat]?.map fun _ => b.ctrlValue model data (start + i) binding := by
  induction bindings with
  | nil => intro start i ctrl _ hi; cases hi
  | cons first rest ih =>
      intro start i ctrl hnodup hi
      obtain ⟨hnot, hrest⟩ := List.nodup_cons.mp hnodup
      rw [MujocoCanBridge.applyFrom]
      cases i with
      | zero =>
          cases hi
          rw [applyFrom_other b model data hrange rest _ _ hnot, if_pos hrange, List.getElem?_set,
            if_pos rfl]
          split
          · rename_i hlt
            rw [List.getElem?_eq_getElem hlt]
            rfl
          · rename_i hlt
            rw [List.getElem?_eq_none (not_lt.mp hlt)]
            rfl
      | succ i =>
          rw [ih _ i _ hrest hi, Nat.add_right_comm, Nat.add_assoc]
          split
          · rename_i hfirst
            have hne : first.ctrlAdr ≠ binding.ctrlAdr := fun heq =>
              hnot (heq ▸ List.mem_map_of_mem (List.mem_of_getElem? hi))
            rw [List.getElem?_set_ne (toNat_ne_of_inRange hfirst hrange hne)]
          · rfl

/-- The control ranges of a model contain zero. -/
def RangesContainZero (model : MjModel K) : Prop :=
  ∀ adr : ℕ, model.actuatorCtrllimited.getD adr false = true →
    (model.actuatorCtrlrange.getD adr (0, 0)).1 ≤ 0 ∧
      0 ≤ (model.actuatorCtrlrange.getD adr (0, 0)).2

omit [FloorRing K] in
theorem clampCtrlIfNeeded_zero {model : MjModel K} (h : RangesContainZero model) (adr : ℕ) :
    clampCtrlIfNeeded model adr 0 = 0 := by
  unfold clampCtrlIfNeeded
  split
  · rename_i hlimited
    obtain ⟨hlo, hhi⟩ := h adr hlimited
    simp only [clampValue, min_eq_left hhi, max_eq_right hlo]
  · rfl

omit [FloorRing K] in
/-- A nonzero control value comes from a latched command that can torque. -/
theorem canTorque_of_ctrlValue {b : MujocoCanBridge K} {model : MjModel K} {data : MjData K}
    {index : ℕ} {binding : ActuatorBinding K} {command : ActuatorCommand K}
    (hzero : RangesContainZero model) (hslot : b.actuatorCommands[index]? = some command)
    (h : b.ctrlValue model data index binding ≠ 0) : CanTorque command := by
  by_contra hnot
  refine h ?_
  unfold MujocoCanBridge.ctrlValue
  have htau : (if command.valid && command.enabled then
      computeLogicalTorqueCommand command (getLogicalPosition binding b.state data)
        (getLogicalVelocity binding b.state data) else 0) = 0 := by
    split
    · exact not_not.mp fun hne => hnot (canTorque_of_ne_zero hne)
    · rfl
  simp only [hslot, htau, mul_zero]
  exact clampCtrlIfNeeded_zero hzero _

/-! ## Virtual motors -/

/-- **Virtual motors torque only after ENTER and control.** After `reset_model` with distinct ids and
actuators, whatever frames arrive and whatever is done in whatever order, for every actuator: firmware
and latched command agree on the enable flag after every `process_host_frames`; a nonzero control
value is written for it only if ENTER and then a control frame outside the hold were processed since
the reset and the latest EXIT or CLEAR_ERROR; and no frame with another id changes its latched
command. -/
theorem bridge_torque_gated (sqrt : K → K) {bindings : List (ActuatorBinding K)}
    (hb : DistinctBindings bindings) (imus : List (E2BoxImuFirmwareConfig K)) (model₀ : MjModel K)
    (data₀ : MjData K) (events : List (BridgeEvent K)) {i : ℕ} {binding : ActuatorBinding K}
    (hi : bindings[i]? = some binding) :
    let tr := trace (bridgeStep sqrt) (resetModel bindings imus model₀ data₀) events
    (∀ (n : ℕ) (e : BridgeEntry K) (simTime : K), tr[n]? = some e →
      e.input = .processHostFrames simTime →
      ∃ (dev : VirtualActuatorDevice K) (command : ActuatorCommand K),
        e.after.actuators[i]? = some dev ∧ e.after.actuatorCommands[i]? = some command ∧
        command.enabled = dev.firmware.enabled) ∧
    (∀ (n : ℕ) (e : BridgeEntry K) (model : MjModel K) (data data' : MjData K) (v : K),
      tr[n]? = some e → e.input = .applyCommandsToMujoco model data → e.out = some data' →
      RangesContainZero model → inRange binding.ctrlAdr model.nu = true →
      data'.ctrl[binding.ctrlAdr.toNat]? = some v → v ≠ 0 →
      MayTorque binding.canId binding.spgMitConfig.setZeroHoldS data₀.time
        (framesProcessed (tr.take n))) ∧
    (∀ (n : ℕ) (e : BridgeEntry K) (simTime : K) (k : ℕ) (frame : CanFrame), tr[n]? = some e →
      e.input = .processHostFrames simTime → e.before.hostToDevice[k]? = some frame →
      frame.canId ≠ binding.canId →
      (e.before.processLoop sqrt simTime (k + 1)).actuatorCommands[i]? =
        (e.before.processLoop sqrt simTime k).actuatorCommands[i]?) := by
  intro tr
  -- the bridge after `n` events, seen at index `i`
  have htracks : ∀ n, Tracks bindings
      (fun binding => final deviceStep (deviceReset binding.canId binding.spgMitConfig data₀.time)
        (deviceOps binding (tr.take n)))
      (final (bridgeStep sqrt) (resetModel bindings imus model₀ data₀) (events.take n)) := by
    intro n
    have hrun := tracks_run sqrt hb.ids imus model₀ data₀ (events.take n)
    rwa [trace_take] at hrun
  have hinStep : ∀ n, InStep binding.canId binding.spgMitConfig data₀.time
      (framesProcessed (tr.take n))
      (final deviceStep (deviceReset binding.canId binding.spgMitConfig data₀.time)
        (deviceOps binding (tr.take n))) := by
    intro n
    have hrun := inStep_run binding.canId binding.spgMitConfig data₀.time
      (deviceOps binding (tr.take n))
    rwa [processed_deviceOps] at hrun
  refine ⟨fun n e simTime he hev => ?_, fun n e model data data' v he hev hout hzero hrange hv hne => ?_,
    fun n e simTime k frame he hev hk hframe => ?_⟩
  · have hafter := htracks (n + 1)
    rw [final_take_succ (bridgeStep sqrt) he] at hafter
    obtain ⟨hdev, hslot, -⟩ := hafter.at_index i binding hi
    exact ⟨_, _, hdev, hslot, (hinStep (n + 1)).enabled⟩
  · have hbefore := htracks n
    rw [← before_eq_final (bridgeStep sqrt) he] at hbefore
    obtain ⟨-, hslot, -⟩ := hbefore.at_index i binding hi
    have hdata : data' = e.before.applyCommandsToMujoco model data := by
      rw [out_eq (bridgeStep sqrt) he, hev] at hout
      exact (Option.some.inj hout).symm
    rw [hdata] at hv
    have hctrl := applyFrom_at e.before model data hrange bindings 0 i data.ctrl hb.ctrls hi
    rw [Nat.zero_add, ← hbefore.bindings_eq] at hctrl
    have hvalue : v = e.before.ctrlValue model data i binding := by
      have hv' := hctrl.symm.trans hv
      rw [Option.map_eq_some_iff] at hv'
      obtain ⟨_, -, heq⟩ := hv'
      exact heq.symm
    exact (hinStep n).torque (canTorque_of_ctrlValue hzero hslot (hvalue ▸ hne))
  · have hbefore := htracks n
    rw [← before_eq_final (bridgeStep sqrt) he] at hbefore
    have hnow := (hbefore.processLoop hb.ids sqrt simTime k).at_index i binding hi
    have hnext := (hbefore.processLoop hb.ids sqrt simTime (k + 1)).at_index i binding hi
    rw [hnow.2.1, hnext.2.1, List.take_add_one, hk, Option.toList_some, List.map_append,
      List.map_singleton, final_concat]
    refine congrArg (fun d : SpgDevice K => some d.latched) ?_
    simp only [deviceStep]
    rw [deviceOnFrame_of_ne]
    rw [hnow.2.2]
    exact hframe

end Runs

/-- Exact on the squares of rationals. -/
private def bridgeSqrt (x : ℚ) : ℚ := Nat.sqrt x.num.toNat / Nat.sqrt x.den

/-- Two motors. -/
private def twoBindings : List (ActuatorBinding ℚ) :=
  [{ canId := 0x101, ctrlAdr := 0, actuatorId := 0, qposAdr := 0, qvelAdr := 0 },
    { canId := 0x102, ctrlAdr := 1, actuatorId := 1, qposAdr := 1, qvelAdr := 1, sign := -1 }]

private def twoModel : MjModel ℚ := ⟨2, 2, 2, [true, true], [(-33, 33), (-33, 33)]⟩

private def twoData : MjData ℚ := ⟨0, [0, 0], [0, 0], [0, 0], [0, 0], (1, 0, 0, 0), (0, 0, 0)⟩

/-- ENTER and a control frame for the first motor, then a step of the simulation. -/
private def enteredEvents : List (BridgeEvent ℚ) :=
  [.pushHostFrame ⟨0x101, 8, ljust8 [0xC1]⟩,
    .pushHostFrame ⟨0x101, 8, ljust8 [0xC0, 0xFF, 0xFF, 0x80, 0x0F, 0xFF, 0, 0x80]⟩,
    .processHostFrames 1, .applyCommandsToMujoco twoModel twoData]

private theorem distinct_twoBindings : DistinctBindings twoBindings := by
  refine ⟨by decide, fun binding hmem => ?_, by decide⟩
  simp only [twoBindings, List.mem_cons, List.not_mem_nil, or_false] at hmem
  rcases hmem with rfl | rfl <;> decide

private theorem ranges_twoModel : RangesContainZero twoModel := by
  intro adr hlimited
  match adr with
  | 0 => exact ⟨by decide +kernel, by decide +kernel⟩
  | 1 => exact ⟨by decide +kernel, by decide +kernel⟩
  | n + 2 => cases hlimited

/-- The first motor gets the upper end of its control range, and was entered for it. -/
theorem bridge_torque_gated_entered :
    let tr := trace (bridgeStep bridgeSqrt) (resetModel twoBindings [] twoModel twoData) enteredEvents
    (tr[3]?.bind fun e => e.out.map MjData.ctrl) = some [33, 0] ∧
      MayTorque 0x101 ({} : SPGMITConfig ℚ).setZeroHoldS 0 (framesProcessed (tr.take 3)) := by
  intro tr
  have hctrl : (tr[3]?.bind fun e => e.out.map MjData.ctrl) = some [33, 0] := by decide +kernel
  refine ⟨hctrl, ?_⟩
  obtain ⟨e, he, hout⟩ := Option.bind_eq_some_iff.mp hctrl
  obtain ⟨data', hdata, hlist⟩ := Option.map_eq_some_iff.mp hout
  have hinput : e.input = .applyCommandsToMujoco twoModel twoData := by
    rw [getElem?_trace] at he
    exact congrArg Entry.input (Option.some.inj he).symm
  exact (bridge_torque_gated bridgeSqrt distinct_twoBindings [] twoModel twoData enteredEvents
    (i := 0) rfl).2.1 3 e twoModel twoData data' 33 he hinput hdata ranges_twoModel (by decide)
    (by rw [hlist]; rfl) (by norm_num)

end SparqControl.Sim
