/-
# SparqControl.Controller.LoadedController — the controller a loaded configuration gives.

`RobotController` models the tick over ranges, a gain and a dwell that are numbers. A document can make
each of them ANY float, and the constructor looks at two of its values only: the current scale must
not be zero or negative, and the dwell must not be negative. The tick is modelled here once more for
what the constructor lets through; only the encoder and the dwell differ.

`tick_ofFinite` is the link down: over moderate numbers this tick is `RobotController`'s.
-/
import SparqControl.Config.RobotControllerConfig
import SparqControl.Controller.Tick
import SparqControl.Hw.FloatRange

namespace SparqControl.Controller

open SparqControl.Hal SparqControl.Hw SparqControl.Shm
open SparqControl.Lib.Trace

/-! ## Construction -/

/-- `RobotController` as constructed, as far as a tick reads it. -/
structure LoadedController (K : Type) where
  canIds : List ℤ
  mitConfig : FloatRange.SPGMITConfig K
  velocityDampingKd : PyFloat K
  enableDurationS : PyFloat K
  imuEnabled : Bool
  imuRequestAllEachTick : Bool
  imuRequestId : ℤ
  imuCmdGetAll : ℤ

namespace LoadedController

section Construct

variable {K : Type} [Field K] [LinearOrder K]

/-- The constructor of `RobotController`. The actuators are those of `robot_spec_from_platform`. -/
def construct (config : Config.RobotControllerConfig K) : Except PyError (LoadedController K) := do
  let spg := config.platform.spgMit
  let range := config.can.mitProtocolRange
  if spg.iqFullScaleCount.le (.fin 0) then
    throw (.valueError "spg_mit.iq_full_scale_count must be positive")
  let _iqCountToAmp ← spg.iqFullScaleCurrentA.div spg.iqFullScaleCount
  if config.enableDurationS.lt (.fin 0) then
    throw (.valueError "enable_duration_s must be >= 0")
  return {
    canIds := config.platform.enabledActuators.map Config.PlatformActuatorConfig.canId
    mitConfig := ⟨range.positionRad, range.velocityRadS, range.kp, range.kd, range.torqueFfNm⟩
    velocityDampingKd := config.safety.velocityDampingKd
    enableDurationS := config.enableDurationS
    imuEnabled := config.can.imu.enabled
    imuRequestAllEachTick := config.can.imu.requestAllEachTick
    imuRequestId := config.platform.imu.requestId
    imuCmdGetAll := config.platform.imu.cmdGetAll }

/-- The controller of `RobotController` with the same actuators and IMU. It builds the frames that
carry no range; its own ranges and gain are the defaults and are not read. -/
def plain (c : LoadedController K) : RobotControllerConfig K where
  canIds := c.canIds
  mitProtocolRange := {}
  iqCountToAmp := 0
  velocityDampingKd := 0
  imuEnabled := c.imuEnabled
  imuRequestAllEachTick := c.imuRequestAllEachTick
  imuRequestId := c.imuRequestId
  imuCmdGetAll := c.imuCmdGetAll

/-- The dwell as a number, when it is one. -/
def dwellNumber (dwell : PyFloat K) : { d : K // 0 ≤ d } :=
  match dwell with
  | .fin d => if h : 0 ≤ d then ⟨d, h⟩ else ⟨0, le_rfl⟩
  | _ => ⟨0, le_rfl⟩

/-- The controller's state as constructed at a clock reading. A dwell that is not a number stays with
the controller; the state machine's own is then not read. -/
def initial (c : LoadedController K) (monotonic : K) : ControllerState K where
  stateMachine :=
    { enableDurationS := (dwellNumber c.enableDurationS).val
      modeEnterTime := monotonic
      enableDuration_nonneg := (dwellNumber c.enableDurationS).property }

/-! ## The tick -/

/-- `now - mode_enter_time >= enable_duration_s`. -/
def dwellOver (c : LoadedController K) (sm : ControllerStateMachine K) (now : K) : Bool :=
  c.enableDurationS.le (.fin (now - sm.modeEnterTime))

/-- `ControllerStateMachine.update` with a dwell that is any float. -/
def update (c : LoadedController K) (sm : ControllerStateMachine K)
    (command : Option OperatorCommandC) (now : K) : ControllerStateMachine K :=
  sm.enter (ControllerStateMachine.nextMode sm.mode (ControllerStateMachine.commandCode command)
    (c.dwellOver sm now)) now

end Construct

section Tick

variable {K : Type} [Field K] [LinearOrder K] [IsStrictOrderedRing K] [FloorRing K]
  (c : LoadedController K) (env : TickEnv K) (earlier : List CANFrame) (s : ControllerState K)

/-- `encode_impedance_command_frame` of the actuator with the id. -/
def encodeImpedanceCommandFrame (canId : ℤ) (positionRad velocityRadS kp kd torqueFfNm : PyFloat K) :
    Except PyError CANFrame :=
  (FloatRange.packMitPayload c.mitConfig positionRad velocityRadS kp kd torqueFfNm).map
    fun payload => ⟨canId, payload⟩

/-- `_send_damping_all`. -/
def sendDampingAll : ControllerState K × List CANFrame × Option PyError :=
  let kd := c.velocityDampingKd
  (recordOutputCommand s .damping (c.plain.actuators.sortedKeys.map fun canId =>
      ⟨canId, .fin 0, .fin 0, .fin 0, kd, .fin 0⟩),
    sendEach env.daemonAccepts earlier (c.plain.actuators.sortedKeys.map fun canId =>
      c.encodeImpedanceCommandFrame canId (.fin 0) (.fin 0) (.fin 0) kd (.fin 0)))

/-- `_send_policy_command`. -/
def sendPolicyCommand (cmd : ControlCommandC K) :
    ControllerState K × List CANFrame × Option PyError :=
  let n := min cmd.numTargets.toNat maxControlTargets
  let selected : List (CommandTargetSnapshot K) :=
    (cmd.targets.toList.take n).filterMap fun target =>
      (c.plain.actuators.get? target.canId.toNat).map fun _ =>
        ⟨target.canId.toNat, target.q, target.dq, target.kp, target.kd, target.tau⟩
  let result := sendEach env.daemonAccepts earlier (selected.map fun t =>
    c.encodeImpedanceCommandFrame t.canId t.pTargetRad t.vTargetRadS t.kp t.kd t.tauTargetNm)
  (if result.2.isNone then recordOutputCommand s .policy selected else s, result)

/-- The frames the mode asks for. -/
def sendForMode (op : OperatorCommandC) : ControllerState K × List CANFrame × Option PyError :=
  match s.stateMachine.mode with
  | .estop => sendDisableAll c.plain env earlier s
  | .disabled => sendDisableAll c.plain env earlier s
  | .enabling => sendEnableAll c.plain env earlier s
  | .zeroSetting => sendZeroSetAll c.plain env earlier s (some op)
  | .damping => c.sendDampingAll env earlier s
  | .normal => c.sendPolicyCommand env earlier s env.controlCmd

/-- `tick`. -/
def tick (input : TickInput K) : ControllerState K × TickOutcome :=
  let (imuFrames, imuRaised) := sendEach input.daemonAccepts [] (imuRequests c.plain)
  match imuRaised with
  | some e => (s, { imuFrames := imuFrames, raised := some e })
  | none =>
      let (s, op) := consumeOperatorCommand s input.operatorShm.readRelaxed
      let s := { s with stateMachine := c.update s.stateMachine (some op) input.now }
      let (s, frames, raised) := c.sendForMode input.toTickEnv imuFrames s op
      (s, { imuFrames := imuFrames, actuatorFrames := frames, raised := raised })

/-- A recorded run of ticks from the constructed controller. -/
def run (monotonic : K) (inputs : List (TickInput K)) : List (TickEntry K) :=
  trace c.tick (c.initial monotonic) inputs

end Tick

/-! ## What a tick does -/

section Cases

variable {K : Type} [Field K] [LinearOrder K] [IsStrictOrderedRing K] [FloorRing K]
  {c : LoadedController K} {s : ControllerState K} {input : TickInput K}

/-- The controller right after the state machine was updated, before anything is sent. -/
def updated (c : LoadedController K) (s : ControllerState K) (input : TickInput K) :
    ControllerState K :=
  let consumed := consumeOperatorCommand s input.operatorShm.readRelaxed
  { consumed.1 with
    stateMachine := c.update consumed.1.stateMachine (some consumed.2) input.now }

/-- A tick that does not read the slot keeps its state and raises. -/
theorem tick_of_not_readsSlot (h : readsSlot c.plain input = false) :
    (c.tick s input).1 = s ∧ (c.tick s input).2.raised ≠ none := by
  unfold readsSlot at h
  unfold tick
  generalize sendEach input.daemonAccepts [] (imuRequests c.plain) = r at h
  obtain ⟨sent, raised⟩ := r
  cases raised with
  | none => cases h
  | some e => exact ⟨rfl, Option.some_ne_none e⟩

/-- A tick that reads the slot updates the mode and sends what it asks for. -/
theorem tick_of_readsSlot (h : readsSlot c.plain input = true) :
    c.tick s input =
      let out := c.sendForMode input.toTickEnv (sentImuFrames c.plain input) (c.updated s input)
        (consumeOperatorCommand s input.operatorShm.readRelaxed).2
      (out.1, ⟨sentImuFrames c.plain input, out.2.1, out.2.2⟩) := by
  unfold readsSlot at h
  unfold tick sentImuFrames
  generalize sendEach input.daemonAccepts [] (imuRequests c.plain) = r at h
  obtain ⟨sent, raised⟩ := r
  cases raised with
  | none => rfl
  | some e => cases h

/-- Sending never touches the state machine. -/
theorem sendForMode_stateMachine (env : TickEnv K) (earlier : List CANFrame) (op : OperatorCommandC) :
    (c.sendForMode env earlier s op).1.stateMachine = s.stateMachine := by
  unfold sendForMode
  cases s.stateMachine.mode with
  | disabled => rfl
  | enabling => rfl
  | normal =>
      simp only [sendPolicyCommand]
      split <;> rfl
  | damping => rfl
  | zeroSetting =>
      simp only [sendZeroSetAll]
      split <;> rfl
  | estop => rfl

/-- The mode after a tick that reads the slot is the one its frames were sent for. -/
theorem tick_mode (h : readsSlot c.plain input = true) :
    (c.tick s input).1.stateMachine.mode = (c.updated s input).stateMachine.mode := by
  rw [tick_of_readsSlot h]
  exact congrArg ControllerStateMachine.mode (sendForMode_stateMachine ..)

end Cases

/-! ## Over moderate numbers -/

section Finite

variable {K : Type} [Field K] [LinearOrder K] [IsStrictOrderedRing K]

/-- The controller of `RobotController` with a dwell, as one that was loaded. -/
def ofFinite (cfg : RobotControllerConfig K) (dwell : K) : LoadedController K where
  canIds := cfg.canIds
  mitConfig := .ofFinite cfg.mitProtocolRange
  velocityDampingKd := .fin cfg.velocityDampingKd
  enableDurationS := .fin dwell
  imuEnabled := cfg.imuEnabled
  imuRequestAllEachTick := cfg.imuRequestAllEachTick
  imuRequestId := cfg.imuRequestId
  imuCmdGetAll := cfg.imuCmdGetAll

variable {cfg : RobotControllerConfig K} {dwell : K}

theorem keys_ofFinite : (ofFinite cfg dwell).plain.actuators.keys = cfg.actuators.keys :=
  Lib.Dict.keys_tabulate_congr _ _ _

theorem get?_actuators (cfg : RobotControllerConfig K) (canId : ℤ) :
    cfg.actuators.get? canId = if canId ∈ cfg.canIds then some (cfg.spgProtocol canId) else none :=
  Lib.Dict.get?_tabulate cfg.canIds cfg.spgProtocol canId

theorem get?_ofFinite (canId : ℤ) :
    (ofFinite cfg dwell).plain.actuators.get? canId =
      if canId ∈ cfg.canIds then some ((ofFinite cfg dwell).plain.spgProtocol canId) else none :=
  get?_actuators _ canId

omit [IsStrictOrderedRing K] in
/-- The state machine of the loaded controller is the one of `RobotController`. -/
theorem update_ofFinite (sm : ControllerStateMachine K) (hdwell : sm.enableDurationS = dwell)
    (command : Option OperatorCommandC) (now : K) :
    (ofFinite cfg dwell).update sm command now = sm.update command now := by
  rw [ControllerStateMachine.update_eq_enter, hdwell]
  rfl

theorem sendToAll_ofFinite {encode : SPGActuatorProtocol K → CANFrame} {payload : List UInt8}
    (hencode : ∀ p, encode p = ⟨p.commandId, payload⟩) (env : TickEnv K) (earlier : List CANFrame)
    (s : ControllerState K) (source : OutputSource) :
    sendToAll (ofFinite cfg dwell).plain env earlier s source encode =
      sendToAll cfg env earlier s source encode := by
  rw [sendToAll, sendToAll, values_map_encode _ hencode, values_map_encode _ hencode, keys_ofFinite]

variable [FloorRing K]

theorem encodeImpedanceCommandFrame_ofFinite (hcfg : FloatRange.Moderate cfg.mitProtocolRange)
    (canId : ℤ) (p v kp kd t : PyFloat K) :
    (ofFinite cfg dwell).encodeImpedanceCommandFrame canId p v kp kd t =
      (cfg.spgProtocol canId).encodeImpedanceCommandFrame p v kp kd t := by
  show (FloatRange.packMitPayload (.ofFinite cfg.mitProtocolRange) p v kp kd t).map _ = _
  rw [FloatRange.packMitPayload_ofFinite hcfg]
  rfl

theorem sendZeroSetAll_ofFinite (env : TickEnv K) (earlier : List CANFrame) (s : ControllerState K)
    (command : Option OperatorCommandC) :
    sendZeroSetAll (ofFinite cfg dwell).plain env earlier s command =
      sendZeroSetAll cfg env earlier s command := by
  have hsorted : (ofFinite cfg dwell).plain.actuators.sortedKeys = cfg.actuators.sortedKeys :=
    congrArg (List.insertionSort (· ≤ ·)) keys_ofFinite
  unfold sendZeroSetAll
  split
  · rfl
  · rename_i offsets _
    -- a set-zero frame has the id of its actuator and a payload of the offset alone
    have hframe : ∀ canId : ℤ,
        ((ofFinite cfg dwell).plain.actuators.get? canId).map (fun actuator =>
          actuator.encodeZeroPositionFrame (((offsets.get? canId).getD 0 : ℤ) * 0.01)) =
        (cfg.actuators.get? canId).map fun actuator =>
          actuator.encodeZeroPositionFrame (((offsets.get? canId).getD 0 : ℤ) * 0.01) := by
      intro canId
      rw [get?_ofFinite, get?_actuators]
      split <;> rfl
    simp only [hsorted, hframe]

theorem sendDampingAll_ofFinite (hcfg : FloatRange.Moderate cfg.mitProtocolRange) (env : TickEnv K)
    (earlier : List CANFrame) (s : ControllerState K) :
    (ofFinite cfg dwell).sendDampingAll env earlier s =
      Controller.sendDampingAll cfg env earlier s := by
  have hsorted : (ofFinite cfg dwell).plain.actuators.sortedKeys = cfg.actuators.sortedKeys :=
    congrArg (List.insertionSort (· ≤ ·)) keys_ofFinite
  have hkd : (ofFinite cfg dwell).velocityDampingKd = .fin cfg.velocityDampingKd := rfl
  simp only [sendDampingAll, Controller.sendDampingAll, hsorted, hkd,
    encodeImpedanceCommandFrame_ofFinite hcfg]
  congr 2
  rw [← List.filterMap_eq_map]
  apply List.filterMap_congr
  intro canId hcanId
  have hmem : canId ∈ cfg.canIds :=
    (mem_keys_actuators cfg canId).mp ((Lib.Dict.mem_sortedKeys _ canId).mp hcanId)
  rw [get?_actuators, if_pos hmem]
  rfl

theorem sendPolicyCommand_ofFinite (hcfg : FloatRange.Moderate cfg.mitProtocolRange)
    (env : TickEnv K) (earlier : List CANFrame) (s : ControllerState K) (cmd : ControlCommandC K) :
    (ofFinite cfg dwell).sendPolicyCommand env earlier s cmd =
      Controller.sendPolicyCommand cfg env earlier s cmd := by
  -- the loaded controller selects the targets, the other one targets with their actuators
  have hselected : ∀ targets : List (ControlTargetC K),
      (targets.filterMap fun target =>
        ((ofFinite cfg dwell).plain.actuators.get? target.canId.toNat).map fun _ =>
          (⟨target.canId.toNat, target.q, target.dq, target.kp, target.kd, target.tau⟩ :
            CommandTargetSnapshot K)).map (fun t => (t, cfg.spgProtocol t.canId)) =
      targets.filterMap fun target =>
        (cfg.actuators.get? target.canId.toNat).map fun actuator =>
          (⟨target.canId.toNat, target.q, target.dq, target.kp, target.kd, target.tau⟩, actuator) := by
    intro targets
    rw [List.map_filterMap]
    apply List.filterMap_congr
    intro target _
    rw [get?_ofFinite, get?_actuators]
    split <;> rfl
  simp only [sendPolicyCommand, Controller.sendPolicyCommand, ← hselected, List.map_map,
    encodeImpedanceCommandFrame_ofFinite hcfg, Function.comp_def, List.map_id']

/-- **The link to `RobotController`.** Over moderate numbers the two ticks are one. -/
theorem tick_ofFinite (hcfg : FloatRange.Moderate cfg.mitProtocolRange) (s : ControllerState K)
    (hdwell : s.stateMachine.enableDurationS = dwell) (input : TickInput K) :
    (ofFinite cfg dwell).tick s input = Controller.tick cfg s input := by
  have hsend : ∀ (env : TickEnv K) (earlier : List CANFrame) (s : ControllerState K)
      (op : OperatorCommandC), (ofFinite cfg dwell).sendForMode env earlier s op =
        Controller.sendForMode cfg env earlier s op := by
    intro env earlier s op
    unfold sendForMode Controller.sendForMode
    cases s.stateMachine.mode with
    | disabled => exact sendToAll_ofFinite SPGActuatorProtocol.encodeDisableFrame_eq ..
    | enabling => exact sendToAll_ofFinite SPGActuatorProtocol.encodeEnableFrame_eq ..
    | normal => exact sendPolicyCommand_ofFinite hcfg ..
    | damping => exact sendDampingAll_ofFinite hcfg ..
    | zeroSetting => exact sendZeroSetAll_ofFinite ..
    | estop => exact sendToAll_ofFinite SPGActuatorProtocol.encodeDisableFrame_eq ..
  have hsm : (consumeOperatorCommand s input.operatorShm.readRelaxed).1.stateMachine.enableDurationS =
      dwell := by
    rw [(consumeOperatorCommand_spec s _).1, hdwell]
  have himu : imuRequests (ofFinite cfg dwell).plain = imuRequests cfg := rfl
  unfold tick Controller.tick
  rw [himu]
  generalize sendEach input.daemonAccepts [] (imuRequests cfg) = r
  obtain ⟨sent, raised⟩ := r
  cases raised with
  | some e => rfl
  | none => simp only [hsend, update_ofFinite _ hsm]

/-- So are the runs from the constructed controller. -/
theorem run_ofFinite (hcfg : FloatRange.Moderate cfg.mitProtocolRange) (hdwell : 0 ≤ dwell)
    (monotonic : K) (inputs : List (TickInput K)) :
    (ofFinite cfg dwell).run monotonic inputs =
      Controller.run cfg ((ofFinite cfg dwell).initial monotonic) inputs := by
  have hrun : ∀ s : ControllerState K, s.stateMachine.enableDurationS = dwell →
      trace (ofFinite cfg dwell).tick s inputs = trace (Controller.tick cfg) s inputs := by
    -- every tick keeps the dwell, so the induction is for all states that have it
    induction inputs with
    | nil => exact fun s _ => rfl
    | cons input inputs ih =>
        intro s hs
        have htick := tick_ofFinite hcfg s hs input
        have hnext := ih (Controller.tick cfg s input).1 ((tick_enableDurationS ..).trans hs)
        simp only [trace, entry, htick, hnext]
  refine hrun _ ?_
  show (dwellNumber (.fin dwell)).val = dwell
  rw [dwellNumber, dif_pos hdwell]

end Finite

end LoadedController

end SparqControl.Controller
