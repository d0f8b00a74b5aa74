/-
# SparqControl.Config.RobotControllerConfig — the controller document.

`load_robot_controller_config` reads the controller document, the platform document it names and the
process list it names, and puts them together. Every key must be there and have the right kind; that
is all. The numeric checks are in `_validate_config`, and its call is commented out:
`loadRobotControllerConfig` does not make it, and `validateConfig` stands beside it.

`loadRobotControllerConfig_spec` says what a loaded configuration is in terms of the documents, as far
as a tick reads it.
-/
import SparqControl.Config.PlatformConfig

namespace SparqControl.Config

open SparqControl.Hal

/-! ## The data -/

structure ProcessConfig where
  name : String
  command : List String
  startOrder : ℤ
  stopOrder : ℤ
  newTerminal : Bool
  terminalCommand : List String
  workingDir : String
  env : List (String × String)

structure HardwareSafetyConfig where
  allowRealCan : Bool
  requireManualArm : Bool
  requireEstop : Bool
  allowEnableOnStart : Bool
  allowedCanInterfaces : List String

structure SafetyPolicyConfig (K : Type) where
  velocityDampingKd : PyFloat K
  dampingTimeoutS : PyFloat K
  commandLossAction : String
  feedbackStaleAction : String

structure RobotControllerCoreConfig (K : Type) where
  name : String
  controlHz : PyFloat K
  shutdownTimeoutS : PyFloat K

/-- `RobotStateShmConfig`. -/
structure StateShmConfig (K : Type) where
  name : String
  sizeBytes : ℤ
  publishHz : PyFloat K

structure ShmConfig (K : Type) where
  cleanupStaleOnStart : Bool
  unlinkOnShutdown : Bool
  mitCommandName : String
  mitCommandTargetCount : ℕ
  auxCommand : StateShmConfig K
  operatorCommandName : String
  operatorCommandSizeBytes : ℤ
  controlState : StateShmConfig K
  dashboardState : StateShmConfig K

structure CANDaemonConfig (K : Type) where
  rxTimeoutS : PyFloat K
  txTimeoutS : PyFloat K
  joinTimeoutS : PyFloat K
  maxTxQueueSize : ℤ
  sendBlock : Bool
  sendTimeoutS : Option (PyFloat K)
  ipcSocketPath : String
  connectTimeoutS : PyFloat K

structure MotorConfig where
  canIds : List ℤ
  enterOnStart : Bool
  exitOnShutdown : Bool
  setZeroOnStart : Bool

structure ImuConfig (K : Type) where
  enabled : Bool
  requestAllOnStart : Bool
  requestAllEachTick : Bool
  startupRequestCount : ℤ
  startupRequestDelayS : PyFloat K

structure MitProtocolRangeConfig (K : Type) where
  positionRad : PyFloat K
  velocityRadS : PyFloat K
  kp : PyFloat K
  kd : PyFloat K
  torqueFfNm : PyFloat K
  feedbackPositionRad : PyFloat K

structure CanConfig (K : Type) where
  interface : String
  commandTimeoutS : PyFloat K
  bringupDelayS : PyFloat K
  daemon : CANDaemonConfig K
  motors : MotorConfig
  imu : ImuConfig K
  mitProtocolRange : MitProtocolRangeConfig K

structure RobotControllerConfig (K : Type) where
  platform : PlatformConfig K
  runtimeMode : String
  hardware : HardwareSafetyConfig
  safety : SafetyPolicyConfig K
  enableDurationS : PyFloat K
  robotController : RobotControllerCoreConfig K
  shm : ShmConfig K
  can : CanConfig K
  processes : List ProcessConfig

/-! ## The loader -/

section Load

variable {K : Type} [Field K] [LinearOrder K] [FloorRing K] (conv : Conversions K)

/-- `_process_config`. -/
def processConfig (index : ℕ) (item : Yaml K) : Except LoadError ProcessConfig := do
  let path := s!"processes[{index}]"
  let some entries := item.entries? | throw (.config s!"Config key must be a mapping: {path}")
  let command ← requireList entries "command" path
  if command.isEmpty then throw (.config s!"Config key must not be empty: {path}.command")
  let envRaw ← requireMapping entries "env" path
  return {
    name := ← requireStr conv entries "name" path
    command := command.map (pyStr conv)
    startOrder := ← requireInt conv entries "start_order" path
    stopOrder := ← requireInt conv entries "stop_order" path
    newTerminal := ← requireBool entries "new_terminal" path
    terminalCommand := (← requireList entries "terminal_command" path).map (pyStr conv)
    workingDir := ← requireStr conv entries "working_dir" path
    env := envRaw.map fun (key, value) => (pyStr conv key, pyStr conv value) }

/-- `_load_processes` on the document at the path. -/
def loadProcesses (path : String) (doc : Yaml K) : Except LoadError (List ProcessConfig) := do
  let raw ← asMapping path doc
  let items ← requireList raw "processes" path
  (items.zipIdx).mapM fun (item, index) => processConfig conv index item

/-- What the loader sees of the file system: the document behind a path, and the path a text stands
for when it is given in the document at another path. -/
structure Files (K : Type) where
  read : String → Except LoadError (Yaml K)
  resolve : String → String → String

/-- `resolve_config_path`. -/
def resolveConfigPath (files : Files K) (basePath value path : String) : Except LoadError String :=
  if value = "" then .error (.config s!"Config key must not be empty: {path}")
  else .ok (files.resolve basePath value)

def hardwareConfig (raw : Mapping K) : Except LoadError HardwareSafetyConfig := do
  return {
    allowRealCan := ← requireBool raw "allow_real_can" "hardware"
    requireManualArm := ← requireBool raw "require_manual_arm" "hardware"
    requireEstop := ← requireBool raw "require_estop" "hardware"
    allowEnableOnStart := ← requireBool raw "allow_enable_on_start" "hardware"
    allowedCanInterfaces :=
      (← requireList raw "allowed_can_interfaces" "hardware").map (pyStr conv) }

def safetyConfig (raw : Mapping K) : Except LoadError (SafetyPolicyConfig K) := do
  return {
    velocityDampingKd := ← requireFloat conv raw "velocity_damping_kd" "safety"
    dampingTimeoutS := ← requireFloat conv raw "damping_timeout_s" "safety"
    commandLossAction := ← requireStr conv raw "command_loss_action" "safety"
    feedbackStaleAction := ← requireStr conv raw "feedback_stale_action" "safety" }

def coreConfig (raw : Mapping K) : Except LoadError (RobotControllerCoreConfig K) := do
  return {
    name := ← requireStr conv raw "name" "robot_controller"
    controlHz := ← requireFloat conv raw "control_hz" "robot_controller"
    shutdownTimeoutS := ← requireFloat conv raw "shutdown_timeout_s" "robot_controller" }

def stateShmConfig (name : String) (raw : Mapping K) (path : String) :
    Except LoadError (StateShmConfig K) := do
  return {
    name := name
    sizeBytes := ← requireInt conv raw "size_bytes" path
    publishHz := ← requireFloat conv raw "publish_hz" path }

/-- The `shm` section, with the segment names and the target count of the platform. -/
def shmConfig (platform : PlatformConfig K) (shm auxCommand operatorCommand controlState
    dashboardState : Mapping K) : Except LoadError (ShmConfig K) := do
  return {
    cleanupStaleOnStart := ← requireBool shm "cleanup_stale_on_start" "shm"
    unlinkOnShutdown := ← requireBool shm "unlink_on_shutdown" "shm"
    mitCommandName := platform.shm.mitCommand
    mitCommandTargetCount := platform.enabledActuators.length
    auxCommand := ← stateShmConfig conv platform.shm.auxCommand auxCommand "shm.aux_command"
    operatorCommandName := platform.shm.operatorCommand
    operatorCommandSizeBytes := ← requireInt conv operatorCommand "size_bytes" "shm.operator_command"
    controlState := ← stateShmConfig conv platform.shm.controlState controlState "shm.control_state"
    dashboardState :=
      ← stateShmConfig conv platform.shm.dashboardState dashboardState "shm.dashboard_state" }

def daemonConfig (platform : PlatformConfig K) (raw : Mapping K) :
    Except LoadError (CANDaemonConfig K) := do
  return {
    rxTimeoutS := ← requireFloat conv raw "rx_timeout_s" "can.daemon"
    txTimeoutS := ← requireFloat conv raw "tx_timeout_s" "can.daemon"
    joinTimeoutS := ← requireFloat conv raw "join_timeout_s" "can.daemon"
    maxTxQueueSize := ← requireInt conv raw "max_tx_queue_size" "can.daemon"
    sendBlock := ← requireBool raw "send_block" "can.daemon"
    sendTimeoutS := ← optionalFloatOrNone conv raw "send_timeout_s" "can.daemon"
    ipcSocketPath := platform.can.daemonSocket
    connectTimeoutS := ← requireFloat conv raw "connect_timeout_s" "can.daemon" }

def motorConfig (platform : PlatformConfig K) (raw : Mapping K) : Except LoadError MotorConfig := do
  return {
    canIds := platform.enabledActuators.map PlatformActuatorConfig.canId
    enterOnStart := ← requireBool raw "enter_on_start" "can.motors"
    exitOnShutdown := ← requireBool raw "exit_on_shutdown" "can.motors"
    setZeroOnStart := ← requireBool raw "set_zero_on_start" "can.motors" }

def imuConfig (raw : Mapping K) : Except LoadError (ImuConfig K) := do
  return {
    enabled := ← requireBool raw "enabled" "can.imu"
    requestAllOnStart := ← requireBool raw "request_all_on_start" "can.imu"
    requestAllEachTick := ← requireBool raw "request_all_each_tick" "can.imu"
    startupRequestCount := ← requireInt conv raw "startup_request_count" "can.imu"
    startupRequestDelayS := ← requireFloat conv raw "startup_request_delay_s" "can.imu" }

/-- The ranges of the MIT protocol are those of the platform. -/
def mitProtocolRange (spg : PlatformSpgMitConfig K) : MitProtocolRangeConfig K where
  positionRad := spg.pMaxRad
  velocityRadS := spg.vMaxRadS
  kp := spg.kpMax
  kd := spg.kdMax
  torqueFfNm := spg.tauMaxNm
  feedbackPositionRad := spg.feedbackPositionMaxRad

def canConfig (platform : PlatformConfig K) (can daemon motors imu : Mapping K) :
    Except LoadError (CanConfig K) := do
  return {
    interface := platform.can.interface
    commandTimeoutS := ← requireFloat conv can "command_timeout_s" "can"
    bringupDelayS := ← requireFloat conv can "bringup_delay_s" "can"
    daemon := ← daemonConfig conv platform daemon
    motors := ← motorConfig platform motors
    imu := ← imuConfig conv imu
    mitProtocolRange := mitProtocolRange platform.spgMit }

/-- The mappings `load_robot_controller_config` takes out of the controller document. -/
structure Sections (K : Type) where
  runtime : Mapping K
  hardware : Mapping K
  safety : Mapping K
  stateMachine : Mapping K
  robotController : Mapping K
  shm : Mapping K
  auxCommand : Mapping K
  operatorCommand : Mapping K
  controlState : Mapping K
  dashboardState : Mapping K
  can : Mapping K
  daemon : Mapping K
  motors : Mapping K
  imu : Mapping K

/-- The second step of `load_robot_controller_config`: every section must be there. -/
def readSections (raw : Mapping K) : Except LoadError (Sections K) := do
  let runtime ← requireMapping raw "runtime" "<root>"
  let hardware ← requireMapping raw "hardware" "<root>"
  let safety ← requireMapping raw "safety" "<root>"
  let stateMachine ← requireMapping raw "state_machine" "<root>"
  let robotController ← requireMapping raw "robot_controller" "<root>"
  let shm ← requireMapping raw "shm" "<root>"
  let auxCommand ← requireMapping shm "aux_command" "shm"
  let operatorCommand ← requireMapping shm "operator_command" "shm"
  let controlState ← requireMapping shm "control_state" "shm"
  let dashboardState ← requireMapping shm "dashboard_state" "shm"
  let can ← requireMapping raw "can" "<root>"
  let daemon ← requireMapping can "daemon" "can"
  let motors ← requireMapping can "motors" "can"
  let imu ← requireMapping can "imu" "can"
  return ⟨runtime, hardware, safety, stateMachine, robotController, shm, auxCommand, operatorCommand,
    controlState, dashboardState, can, daemon, motors, imu⟩

/-- The last step of `load_robot_controller_config`: the fields, in the order they are read. -/
def buildConfig (platform : PlatformConfig K) (processes : List ProcessConfig) (raw : Sections K) :
    Except LoadError (RobotControllerConfig K) := do
  return {
    platform := platform
    runtimeMode := ← requireStr conv raw.runtime "mode" "runtime"
    hardware := ← hardwareConfig conv raw.hardware
    safety := ← safetyConfig conv raw.safety
    enableDurationS := ← requireFloat conv raw.stateMachine "enable_duration_s" "state_machine"
    robotController := ← coreConfig conv raw.robotController
    shm := ← shmConfig conv platform raw.shm raw.auxCommand raw.operatorCommand raw.controlState
      raw.dashboardState
    can := ← canConfig conv platform raw.can raw.daemon raw.motors raw.imu
    processes := processes }

/-- `load_robot_controller_config`. -/
def loadRobotControllerConfig (files : Files K) (path : String) :
    Except LoadError (RobotControllerConfig K) := do
  let raw ← asMapping path (← files.read path)
  let platformPath ← resolveConfigPath files path
    (← requireStr conv raw "platform_config" "<root>") "platform_config"
  let platform ← loadPlatformConfig conv platformPath (← files.read platformPath)
  let sections ← readSections raw
  let processesPath ← resolveConfigPath files path
    (← requireStr conv raw "processes_config" "<root>") "processes_config"
  let processes ← loadProcesses conv processesPath (← files.read processesPath)
  -- the call of `_validate_config` that would stand here is commented out
  buildConfig conv platform processes sections

/-! ## The validation that is not called -/

/-- One check of `_validate_config`: what refuses the configuration, and the text of the
`ConfigError`. -/
structure Check where
  refuses : Bool
  text : String

/-- The checks of `_validate_config` up to the processes, in its order. -/
def validationChecks (c : RobotControllerConfig K) : List Check :=
  let range := c.can.mitProtocolRange
  let zero : PyFloat K := .fin 0
  [Check.mk (c.runtimeMode ∉ ["simulation", "hardware"])
      "runtime.mode must be 'simulation' or 'hardware'",
    Check.mk (c.hardware.allowedCanInterfaces.isEmpty)
      "hardware.allowed_can_interfaces must not be empty",
    Check.mk (c.safety.velocityDampingKd.lt zero) "safety.velocity_damping_kd must be >= 0",
    Check.mk (c.safety.dampingTimeoutS.le zero) "safety.damping_timeout_s must be > 0",
    Check.mk (c.safety.commandLossAction ∉ ["damping", "disable", "fault"])
      "safety.command_loss_action must be damping, disable, or fault",
    Check.mk (c.safety.feedbackStaleAction ∉ ["damping", "disable", "fault"])
      "safety.feedback_stale_action must be damping, disable, or fault",
    Check.mk (c.robotController.controlHz.le zero) "robot_controller.control_hz must be > 0",
    Check.mk (c.robotController.shutdownTimeoutS.lt zero)
      "robot_controller.shutdown_timeout_s must be >= 0",
    Check.mk (c.enableDurationS.lt zero) "state_machine.enable_duration_s must be >= 0",
    Check.mk (c.shm.mitCommandTargetCount ≤ 0) "shm.mit_command.target_count must be > 0",
    Check.mk (c.shm.controlState.sizeBytes < 4096) "shm.control_state.size_bytes must be >= 4096",
    Check.mk (c.shm.controlState.publishHz.le zero) "shm.control_state.publish_hz must be > 0",
    Check.mk (c.shm.auxCommand.sizeBytes < 4096) "shm.aux_command.size_bytes must be >= 4096",
    Check.mk (c.shm.auxCommand.publishHz.le zero) "shm.aux_command.publish_hz must be > 0",
    Check.mk (c.shm.operatorCommandSizeBytes < 4096)
      "shm.operator_command.size_bytes must be >= 4096",
    Check.mk (c.shm.dashboardState.sizeBytes < 4096)
      "shm.dashboard_state.size_bytes must be >= 4096",
    Check.mk (c.shm.dashboardState.publishHz.le zero) "shm.dashboard_state.publish_hz must be > 0",
    Check.mk (¬ [c.shm.mitCommandName, c.shm.auxCommand.name, c.shm.operatorCommandName,
        c.shm.controlState.name, c.shm.dashboardState.name].Nodup)
      "shm segment names must be unique",
    Check.mk (c.can.commandTimeoutS.le zero) "can.command_timeout_s must be > 0",
    Check.mk (c.can.bringupDelayS.lt zero) "can.bringup_delay_s must be >= 0",
    Check.mk (c.can.daemon.rxTimeoutS.lt zero) "can.daemon.rx_timeout_s must be >= 0",
    Check.mk (c.can.daemon.txTimeoutS.lt zero) "can.daemon.tx_timeout_s must be >= 0",
    Check.mk (c.can.daemon.joinTimeoutS.lt zero) "can.daemon.join_timeout_s must be >= 0",
    Check.mk (c.can.daemon.maxTxQueueSize ≤ 0) "can.daemon.max_tx_queue_size must be > 0",
    Check.mk (c.can.daemon.sendTimeoutS.any (PyFloat.lt · zero))
      "can.daemon.send_timeout_s must be null or >= 0",
    Check.mk (c.can.daemon.ipcSocketPath = "") "can.daemon.ipc_socket_path must not be empty",
    Check.mk (c.can.daemon.connectTimeoutS.le zero) "can.daemon.connect_timeout_s must be > 0",
    Check.mk (c.can.motors.canIds.isEmpty) "can.motors.can_ids must not be empty",
    Check.mk (¬ c.can.motors.canIds.Nodup) "can.motors.can_ids must not contain duplicates",
    Check.mk (c.shm.mitCommandTargetCount ≠ c.can.motors.canIds.length)
      "shm.mit_command.target_count must match len(can.motors.can_ids)",
    Check.mk (c.can.imu.startupRequestCount < 0) "can.imu.startup_request_count must be >= 0",
    Check.mk (c.can.imu.startupRequestDelayS.lt zero)
      "can.imu.startup_request_delay_s must be >= 0",
    Check.mk (range.positionRad.le zero) "can.mit_protocol_range.position_rad must be > 0",
    Check.mk (range.velocityRadS.le zero) "can.mit_protocol_range.velocity_rad_s must be > 0",
    -- zero passes, and the encoder divides by it
    Check.mk (range.kp.lt zero) "can.mit_protocol_range.kp must be >= 0",
    Check.mk (range.kd.lt (.fin 0.5))
      "can.mit_protocol_range.kd must be >= 0.5 for shutdown damping",
    Check.mk (range.torqueFfNm.le zero) "can.mit_protocol_range.torque_ff_nm must be > 0",
    Check.mk (range.feedbackPositionRad.le zero)
      "can.mit_protocol_range.feedback_position_rad must be > 0",
    Check.mk (range.kd.lt c.safety.velocityDampingKd)
      "safety.velocity_damping_kd must be <= can.mit_protocol_range.kd",
    Check.mk (¬ (c.processes.map ProcessConfig.name).Nodup)
      "processes must not contain duplicate names",
    Check.mk ("can_daemon" ∉ c.processes.map ProcessConfig.name)
      "processes must include a 'can_daemon' subprocess"]

/-- The checks of `_validate_config` on each process. -/
def processChecks (p : ProcessConfig) : List Check :=
  [Check.mk (p.workingDir = "") s!"process {p.name} working_dir must not be empty",
    Check.mk (p.newTerminal && p.terminalCommand.isEmpty)
      s!"process {p.name} terminal_command must not be empty when new_terminal is true"]

/-- `_validate_config`: the first check that refuses decides. -/
def validateConfig (c : RobotControllerConfig K) : Except LoadError Unit :=
  match (validationChecks c ++ c.processes.flatMap processChecks).find? Check.refuses with
  | some check => .error (.config check.text)
  | none => .ok ()

omit [FloorRing K] in
/-- A validated configuration passes every check of the list. -/
theorem refuses_eq_false_of_validated {c : RobotControllerConfig K} (h : validateConfig c = .ok ())
    {check : Check} (hcheck : check ∈ validationChecks c) : check.refuses = false := by
  unfold validateConfig at h
  split at h
  · cases h
  · rename_i hnone
    rw [List.find?_eq_none] at hnone
    exact Bool.eq_false_iff.mpr (hnone check (List.mem_append_left _ hcheck))

omit [FloorRing K] in
/-- It passes the check that would refuse it with a given text. -/
theorem refuses_of_text {c : RobotControllerConfig K} (h : validateConfig c = .ok ()) (text : String)
    {check : Check} (hcheck : (validationChecks c).find? (·.text = text) = some check) :
    check.refuses = false :=
  refuses_eq_false_of_validated h (List.mem_of_find?_eq_some hcheck)

/-- What `_validate_config` would say about the ranges and the damping gain. -/
structure ValidatedRanges (c : RobotControllerConfig K) : Prop where
  dampingNonneg : c.safety.velocityDampingKd.lt (.fin 0) = false
  position : c.can.mitProtocolRange.positionRad.le (.fin 0) = false
  velocity : c.can.mitProtocolRange.velocityRadS.le (.fin 0) = false
  kp : c.can.mitProtocolRange.kp.lt (.fin 0) = false
  torque : c.can.mitProtocolRange.torqueFfNm.le (.fin 0) = false
  dampingWithin : c.can.mitProtocolRange.kd.lt c.safety.velocityDampingKd = false
  kd : c.can.mitProtocolRange.kd.lt (.fin 0.5) = false

omit [FloorRing K] in
theorem validatedRanges {c : RobotControllerConfig K} (h : validateConfig c = .ok ()) :
    ValidatedRanges c := by
  constructor
  · exact refuses_of_text h "safety.velocity_damping_kd must be >= 0" rfl
  · exact refuses_of_text h "can.mit_protocol_range.position_rad must be > 0" rfl
  · exact refuses_of_text h "can.mit_protocol_range.velocity_rad_s must be > 0" rfl
  · exact refuses_of_text h "can.mit_protocol_range.kp must be >= 0" rfl
  · exact refuses_of_text h "can.mit_protocol_range.torque_ff_nm must be > 0" rfl
  · exact refuses_of_text h "safety.velocity_damping_kd must be <= can.mit_protocol_range.kd" rfl
  · exact refuses_of_text h "can.mit_protocol_range.kd must be >= 0.5 for shutdown damping" rfl

/-! ## What a loaded configuration says about its documents -/

/-- The controller document and the platform document it names. -/
structure DocumentPair (files : Files K) (path : String) (doc platformDoc : Yaml K) : Prop where
  controller : files.read path = .ok doc
  platform : ∃ value, doc.valueAt ["platform_config"] = some value ∧
    files.read (files.resolve path (pyStr conv value)) = .ok platformDoc

/-- The configuration has the values of the documents, as far as a tick reads it. -/
structure LoadedFrom (doc platformDoc : Yaml K) (c : RobotControllerConfig K) : Prop where
  platform : PlatformFrom conv platformDoc c.platform
  mitProtocolRange : c.can.mitProtocolRange = mitProtocolRange c.platform.spgMit
  velocityDampingKd :
    floatAt conv doc ["safety", "velocity_damping_kd"] = some c.safety.velocityDampingKd
  imuEnabled : boolAt doc ["can", "imu", "enabled"] = some c.can.imu.enabled
  imuRequestAllEachTick :
    boolAt doc ["can", "imu", "request_all_each_tick"] = some c.can.imu.requestAllEachTick

variable {conv}

theorem canConfig_spec {platform : PlatformConfig K} {can daemon motors imu : Mapping K}
    {c : CanConfig K} (h : canConfig conv platform can daemon motors imu = .ok c) :
    c.mitProtocolRange = mitProtocolRange platform.spgMit ∧
    boolAt (.map imu) ["enabled"] = some c.imu.enabled ∧
    boolAt (.map imu) ["request_all_each_tick"] = some c.imu.requestAllEachTick := by
  simp only [canConfig, bind_eq_ok_iff] at h
  obtain ⟨timeout, -, delay, -, daemonCfg, -, motorCfg, -, imuCfg, himu, h⟩ := h
  cases h
  simp only [imuConfig, bind_eq_ok_iff] at himu
  obtain ⟨enabled, henabled, onStart, -, eachTick, heach, count, -, delay, -, himu⟩ := himu
  cases himu
  exact ⟨rfl, boolAt_of_requireBool henabled, boolAt_of_requireBool heach⟩

omit [Field K] [LinearOrder K] [FloorRing K] in
theorem readSections_spec {raw : Mapping K} {sections : Sections K}
    (h : readSections raw = .ok sections) :
    lookup raw "safety" = some (.map sections.safety) ∧
    lookup raw "can" = some (.map sections.can) ∧
    lookup sections.can "imu" = some (.map sections.imu) := by
  simp only [readSections, bind_eq_ok_iff] at h
  obtain ⟨runtime, -, hardware, -, safety, hsafety, stateMachine, -, core, -, shm, -, aux, -, operator,
    -, control, -, dashboard, -, can, hcan, daemon, -, motors, -, imu, himu, h⟩ := h
  cases h
  rw [requireMapping_eq_ok_iff] at hsafety hcan himu
  exact ⟨hsafety, hcan, himu⟩

theorem buildConfig_spec {platform : PlatformConfig K} {processes : List ProcessConfig}
    {raw : Sections K} {c : RobotControllerConfig K}
    (h : buildConfig conv platform processes raw = .ok c) :
    c.platform = platform ∧
    floatAt conv (.map raw.safety) ["velocity_damping_kd"] = some c.safety.velocityDampingKd ∧
    c.can.mitProtocolRange = mitProtocolRange platform.spgMit ∧
    boolAt (.map raw.imu) ["enabled"] = some c.can.imu.enabled ∧
    boolAt (.map raw.imu) ["request_all_each_tick"] = some c.can.imu.requestAllEachTick := by
  simp only [buildConfig, bind_eq_ok_iff] at h
  obtain ⟨mode, -, hardware, -, safety, hsafety, dwell, -, core, -, shm, -, can, hcan, h⟩ := h
  cases h
  simp only [safetyConfig, bind_eq_ok_iff] at hsafety
  obtain ⟨kd, hkd, timeout, -, loss, -, stale, -, hsafety⟩ := hsafety
  cases hsafety
  exact ⟨rfl, floatAt_of_requireFloat hkd, canConfig_spec hcan⟩

/-- **A loaded configuration is the documents' values.** -/
theorem loadRobotControllerConfig_spec {files : Files K} {path : String} {doc platformDoc : Yaml K}
    {c : RobotControllerConfig K} (hdocs : DocumentPair conv files path doc platformDoc)
    (h : loadRobotControllerConfig conv files path = .ok c) : LoadedFrom conv doc platformDoc c := by
  obtain ⟨hdoc, value, hvalue, hplatformDoc⟩ := hdocs
  simp only [loadRobotControllerConfig, bind_eq_ok_iff] at h
  obtain ⟨doc', hdoc', raw, hraw, platformText, htext, platformPath, hpath, platformDoc',
    hplatformDoc', platform, hplatform, sections, hsections, processesText, -, processesPath, -,
    processesDoc, -, processes, -, hbuild⟩ := h
  obtain rfl : doc = doc' := Except.ok.inj (hdoc.symm.trans hdoc')
  obtain rfl := asMapping_eq_ok_iff.mp hraw
  -- the platform document is the one behind the text of the controller document
  rw [Yaml.valueAt_singleton] at hvalue
  obtain ⟨value', hvalue', hstr⟩ := bind_eq_ok_iff.mp htext
  obtain rfl : value = value' :=
    Option.some.inj (hvalue.symm.trans (requireKey_eq_ok_iff.mp hvalue'))
  cases hstr
  unfold resolveConfigPath at hpath
  split at hpath
  · cases hpath
  cases hpath
  obtain rfl : platformDoc = platformDoc' := Except.ok.inj (hplatformDoc.symm.trans hplatformDoc')
  obtain ⟨hsafety, hcan, himu⟩ := readSections_spec hsections
  obtain ⟨rfl, hkd, hrange, henabled, heach⟩ := buildConfig_spec hbuild
  refine ⟨loadPlatformConfig_spec hplatform, hrange, ?_, ?_, ?_⟩
  · rw [floatAt_section hsafety]
    exact hkd
  · rw [boolAt_section hcan, boolAt_section himu]
    exact henabled
  · rw [boolAt_section hcan, boolAt_section himu]
    exact heach

end Load

end SparqControl.Config
