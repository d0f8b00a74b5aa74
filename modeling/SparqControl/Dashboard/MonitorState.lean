/-
# SparqControl.Dashboard.MonitorState — what the dashboard knows about the bus.

`mark_rx` files one parsed frame four times: under its id (`raw_frames`), under its node, in the IMU
state and in the state of the motor with that id. The last two decode the payload. Nothing in the
frame says who sent it, and `mark_rx` does not ask.

The account of `_update_motor` is `markRx_shows`: after a frame the four readings of a configured
motor are those the frame carries (`carriedReadings`), or what they were. `markRx_isOk_iff` says when
there is a state after a frame at all.
-/
import SparqControl.Dashboard.CanDecode
import SparqControl.Lib.Dict

namespace SparqControl.Dashboard

open SparqControl.Hal
open SparqControl.Hw (cmdMitControl cmdMitEnter cmdMitExit cmdMitSetZero cmdClearErrorFlag)
open SparqControl.Hw.SPGActuatorProtocol (readI16)
open SparqControl.Lib (Dict)

/-! ## The state -/

/-- `RawFrameState`. -/
structure RawFrameState (K : Type) [Zero K] where
  canId : ℤ
  count : ℕ := 0
  lastT : K := 0
  lastDlc : ℕ := 0
  lastData : List UInt8 := []

/-- `NodeState`. -/
structure NodeState (K : Type) [Zero K] where
  key : String
  name : String
  canId : ℤ
  role : String
  timeoutS : K
  heartbeatWindowS : K
  rxCount : ℕ := 0
  lastT : K := 0
  lastData : List UInt8 := []
  timestamps : List K := []

/-- `E2BoxState`. -/
structure E2BoxState (K : Type) [Field K] where
  reqCount : ℕ := 0
  quatCount : ℕ := 0
  gyroCount : ℕ := 0
  quatLastT : K := 0
  gyroLastT : K := 0
  quatXyzw : K × K × K × K := (0, 0, 0, 1)
  projectedGravityB : K × K × K := (0, 0, -1)
  angularVelocityRadS : K × K × K := (0, 0, 0)

/-- `SPGMotorState`. -/
structure SPGMotorState (K : Type) [Zero K] where
  canId : ℤ
  name : String := ""
  rxCount : ℕ := 0
  lastT : K := 0
  lastKind : String := "never"
  enabledHint : Option Bool := none
  temperatureC : Option ℤ := none
  iqAApprox : Option K := none
  speedDps : Option ℤ := none
  positionRad : Option K := none
  zeroOffsetCount : Option ℤ := none
  rawData : List UInt8 := []

/-- `CanChannelState`, as far as a received frame changes or reads it. -/
structure CanChannelState (K : Type) where
  iface : String
  stuffFactor : K
  totalRx : ℕ := 0
  busLoad : BusLoadWindow K

/-- An entry of `actuator_configs`. -/
structure ActuatorConfig where
  canId : ℤ
  name : String

/-- The constructor arguments of `MonitorState` a received frame depends on. `__post_init__` refuses
an empty channel list. -/
structure MonitorConfig (K : Type) where
  heartbeatWindowS : K
  nodeTimeoutS : K
  feedbackPositionMaxRad : K
  iqFullScaleCount : K
  iqFullScaleCurrentA : K
  imuRequestId : ℤ
  imuQuatId : ℤ
  imuGyroId : ℤ
  imuQuatScale : K
  imuGyroScale : K
  imuNormalizeQuat : Bool
  canChannels : List (CanChannelState K)
  actuators : List ActuatorConfig
  channels_ne_nil : canChannels ≠ []

/-- The mutable part of `MonitorState`. -/
structure MonitorState (K : Type) [Field K] where
  canChannels : List (CanChannelState K)
  rawFrames : Dict ℤ (RawFrameState K) := Dict.empty
  nodes : Dict String (NodeState K) := Dict.empty
  imu : E2BoxState K := {}
  motors : Dict ℤ (SPGMotorState K) := Dict.empty

section Config

variable {K : Type}

/-- `_normalize_actuator_configs`. -/
def MonitorConfig.actuatorConfigs (config : MonitorConfig K) : List ActuatorConfig :=
  config.actuators.mergeSort fun a b => a.canId ≤ b.canId

/-- `actuator_config_for_can_id`. -/
def MonitorConfig.actuatorConfigForCanId (config : MonitorConfig K) (canId : ℤ) :
    Option ActuatorConfig :=
  config.actuatorConfigs.find? fun a => a.canId = canId

theorem MonitorConfig.mem_actuatorConfigs (config : MonitorConfig K) (a : ActuatorConfig) :
    a ∈ config.actuatorConfigs ↔ a ∈ config.actuators :=
  List.mem_mergeSort

/-- An id is found exactly when an actuator has it. -/
theorem MonitorConfig.actuatorConfigForCanId_isSome {config : MonitorConfig K} {canId : ℤ} :
    (config.actuatorConfigForCanId canId).isSome ↔ ∃ a ∈ config.actuators, a.canId = canId := by
  rw [MonitorConfig.actuatorConfigForCanId, List.find?_isSome]
  simp only [config.mem_actuatorConfigs, decide_eq_true_eq]

/-- The id of a configured actuator is found. -/
theorem MonitorConfig.exists_actuatorConfigForCanId {config : MonitorConfig K} {a : ActuatorConfig}
    (ha : a ∈ config.actuators) : ∃ b, config.actuatorConfigForCanId a.canId = some b := by
  apply Option.isSome_iff_exists.mp
  exact MonitorConfig.actuatorConfigForCanId_isSome.mpr ⟨a, ha, rfl⟩

end Config

/-! ## Nodes, channels and raw frames -/

section MarkRx

variable {K : Type} [Field K] [LinearOrder K]

/-- `NodeState.mark_rx`, with the `prune` it ends in. -/
def NodeState.markRx (node : NodeState K) (now : K) (data : List UInt8) : NodeState K :=
  { node with
    rxCount := node.rxCount + 1
    lastT := now
    lastData := data
    timestamps := (node.timestamps ++ [now]).dropWhile fun t => t < now - node.heartbeatWindowS }

/-- `_ensure_node`. -/
def ensureNode (config : MonitorConfig K) (s : MonitorState K) (key name : String) (canId : ℤ)
    (role : String) : MonitorState K × NodeState K :=
  match s.nodes.get? key with
  | some node => (s, node)
  | none =>
      let node : NodeState K :=
        { key := key, name := name, canId := canId, role := role, timeoutS := config.nodeTimeoutS
          heartbeatWindowS := config.heartbeatWindowS }
      ({ s with nodes := s.nodes.insert key node }, node)

/-- `_node_for_can_id`: the first node with the id, or a new raw one. -/
def nodeForCanId (config : MonitorConfig K) (s : MonitorState K) (canId : ℤ) :
    MonitorState K × NodeState K :=
  match s.nodes.values.find? fun node => node.canId = canId with
  | some node => (s, node)
  | none => ensureNode config s ("can_" ++ formatHex 3 canId) ("CAN " ++ formatHex 3 canId) canId "Raw"

/-- `_node_for_can_id(frame.can_id).mark_rx(now, frame.data)`. -/
def markNode (config : MonitorConfig K) (s : MonitorState K) (frame : ParsedFrame) (now : K) :
    MonitorState K :=
  let (s, node) := nodeForCanId config s frame.canId
  { s with nodes := s.nodes.insert node.key (node.markRx now frame.data) }

/-- `_update_raw_frame`. -/
def updateRawFrame (s : MonitorState K) (frame : ParsedFrame) (now : K) : MonitorState K :=
  let raw := (s.rawFrames.get? frame.canId).getD { canId := frame.canId }
  { s with
    rawFrames := s.rawFrames.insert frame.canId
      { raw with
        count := raw.count + 1
        lastT := now
        lastDlc := frame.dlc
        lastData := frame.data } }

/-! ## The IMU -/

/-- `_update_imu`. A `ValueError` of a decoder is logged, any other exception passes through. -/
def updateImu (sqrt : K → K) (config : MonitorConfig K) (s : MonitorState K) (frame : ParsedFrame)
    (now : K) : Except PyError (MonitorState K) :=
  if frame.canId = config.imuRequestId then
    .ok { s with imu := { s.imu with reqCount := s.imu.reqCount + 1 } }
  else if frame.canId = config.imuQuatId ∧ frame.dlc = 8 then
    match decodeE2boxQuat sqrt frame.data config.imuQuatScale config.imuNormalizeQuat with
    | .ok (quat, gravity) =>
        .ok { s with
          imu := { s.imu with
            quatCount := s.imu.quatCount + 1
            quatLastT := now
            quatXyzw := quat
            projectedGravityB := gravity } }
    | .error (.valueError _) => .ok s
    | .error e => .error e
  else if frame.canId = config.imuGyroId ∧ frame.dlc = 8 then
    match decodeE2boxGyro frame.data config.imuGyroScale with
    | .ok gyro =>
        .ok { s with
          imu := { s.imu with
            gyroCount := s.imu.gyroCount + 1
            gyroLastT := now
            angularVelocityRadS := gyro } }
    | .error (.valueError _) => .ok s
    | .error e => .error e
  else .ok s

/-! ## The motors -/

/-- What `_update_motor` does to the entry of the motor, the decoded values apart. -/
def SPGMotorState.heard (motor : SPGMotorState K) (frame : ParsedFrame) (now : K) :
    SPGMotorState K :=
  { motor with
    rxCount := motor.rxCount + 1
    lastT := now
    rawData := frame.data
    lastKind := if frame.dlc < 1 then "empty" else spgOpcodeName (frame.data.getD 0 0) }

/-- The part of `_update_motor` after the entry is found. -/
def SPGMotorState.update (config : MonitorConfig K) (motor : SPGMotorState K) (frame : ParsedFrame)
    (now : K) : Except PyError (SPGMotorState K) :=
  let motor := motor.heard frame now
  let opcode := frame.data.getD 0 0
  if frame.dlc < 1 then .ok motor
  else if opcode = cmdMitControl ∧ frame.dlc = 8 then
    match decodeSpgStatus frame.data config.feedbackPositionMaxRad config.iqFullScaleCount
      config.iqFullScaleCurrentA with
    | .ok decoded =>
        .ok { motor with
          temperatureC := some decoded.temperatureC
          iqAApprox := some decoded.iqAApprox
          speedDps := some decoded.speedDps
          positionRad := some decoded.positionRad }
    | .error (.valueError _) => .ok motor
    | .error e => .error e
  else if opcode = cmdMitEnter then .ok { motor with enabledHint := some true }
  else if opcode = cmdMitExit ∨ opcode = cmdClearErrorFlag then
    .ok { motor with enabledHint := some false }
  else if opcode = cmdMitSetZero ∧ frame.dlc = 8 then
    .ok { motor with zeroOffsetCount := some (readI16 frame.data 6) }
  else .ok motor

/-- `_update_motor`. -/
def updateMotor (config : MonitorConfig K) (s : MonitorState K) (frame : ParsedFrame) (now : K) :
    Except PyError (MonitorState K) :=
  match config.actuatorConfigForCanId frame.canId with
  | none => .ok s
  | some actuator => do
      let motor := (s.motors.get? frame.canId).getD { canId := frame.canId, name := actuator.name }
      let motor ← motor.update config frame now
      return { s with motors := s.motors.insert frame.canId motor }

variable [FloorRing K]

/-- `CanChannelState.mark_rx`. -/
def CanChannelState.markRx (channel : CanChannelState K) (frame : ParsedFrame) (now : K) :
    CanChannelState K :=
  { channel with
    totalRx := channel.totalRx + 1
    busLoad := channel.busLoad.add now
      (estimateClassicalCanBits frame.dlc frame.isEff frame.isRtr channel.stuffFactor) .rx }

/-- `mark_rx` for the channel at a position of `can_channels`. -/
def markRx (sqrt : K → K) (config : MonitorConfig K) (channel : Option ℕ) (s : MonitorState K)
    (frame : ParsedFrame) (now : K) : Except PyError (MonitorState K) := do
  let s :=
    match channel with
    | some i => { s with canChannels := s.canChannels.modify i fun c => c.markRx frame now }
    | none => s
  let s := updateRawFrame s frame now
  let s := markNode config s frame now
  let s ← updateImu sqrt config s frame now
  updateMotor config s frame now

/-! ## The start -/

/-- The loop body of `ensure_known_nodes`. -/
def ensureActuator (config : MonitorConfig K) (s : MonitorState K) (a : ActuatorConfig) :
    MonitorState K :=
  let s := (ensureNode config s ("can_" ++ formatHex 3 a.canId) a.name a.canId "Actuator").1
  match s.motors.get? a.canId with
  | some _ => s
  | none => { s with motors := s.motors.insert a.canId { canId := a.canId, name := a.name } }

/-- The part of `ensure_known_nodes` before the loop. -/
def ensureImuNodes (config : MonitorConfig K) (s : MonitorState K) : MonitorState K :=
  let s := (ensureNode config s "imu_req" "E2Box command" config.imuRequestId "IMU").1
  let s := (ensureNode config s "imu_quat" "E2Box quaternion" config.imuQuatId "IMU").1
  (ensureNode config s "imu_gyro" "E2Box gyro" config.imuGyroId "IMU").1

/-- `ensure_known_nodes`. -/
def ensureKnownNodes (config : MonitorConfig K) (s : MonitorState K) : MonitorState K :=
  config.actuatorConfigs.foldl (ensureActuator config) (ensureImuNodes config s)

/-- A constructed `MonitorState`. -/
def monitorInit (config : MonitorConfig K) : MonitorState K :=
  ensureKnownNodes config { canChannels := config.canChannels }

end MarkRx

/-! ## What a frame does to the readings -/

/-- The four values the dashboard shows of a motor. -/
structure Readings (K : Type) where
  temperatureC : ℤ
  iqAApprox : K
  speedDps : ℤ
  positionRad : K

/-- The motor shows these readings; `none` is a motor that shows nothing yet. -/
structure SPGMotorState.Shows {K : Type} [Zero K] (motor : SPGMotorState K)
    (r : Option (Readings K)) : Prop where
  temperatureC : motor.temperatureC = r.map Readings.temperatureC
  iqAApprox : motor.iqAApprox = r.map Readings.iqAApprox
  speedDps : motor.speedDps = r.map Readings.speedDps
  positionRad : motor.positionRad = r.map Readings.positionRad

/-- A motor shows one thing. -/
theorem SPGMotorState.Shows.unique {K : Type} [Zero K] {motor : SPGMotorState K}
    {r r' : Option (Readings K)} (h : motor.Shows r) (h' : motor.Shows r') : r = r' := by
  have ht := h.temperatureC.symm.trans h'.temperatureC
  have hi := h.iqAApprox.symm.trans h'.iqAApprox
  have hs := h.speedDps.symm.trans h'.speedDps
  have hp := h.positionRad.symm.trans h'.positionRad
  cases r with
  | none =>
      cases r' with
      | none => rfl
      | some v' => cases ht
  | some v =>
      cases r' with
      | none => cases ht
      | some v' =>
          obtain ⟨t, i, sp, p⟩ := v
          obtain ⟨t', i', sp', p'⟩ := v'
          simp only [Option.map_some, Option.some.injEq] at ht hi hs hp
          rw [ht, hi, hs, hp]

section Readings

variable {K : Type} [Field K] [LinearOrder K]

/-- The readings of a status payload; `none` when the decoder raises. -/
def statusReadings (config : MonitorConfig K) (data : List UInt8) : Option (Readings K) :=
  match decodeSpgStatus data config.feedbackPositionMaxRad config.iqFullScaleCount
    config.iqFullScaleCurrentA with
  | .ok d => some ⟨d.temperatureC, d.iqAApprox, d.speedDps, d.positionRad⟩
  | .error _ => none

/-- The readings a frame carries for the motor with an id: eight bytes with the MIT control opcode,
whoever sent them. -/
def carriedReadings (config : MonitorConfig K) (canId : ℤ) (frame : ParsedFrame) :
    Option (Readings K) :=
  if frame.canId = canId ∧ frame.dlc = 8 ∧ frame.data.getD 0 0 = cmdMitControl then
    statusReadings config frame.data
  else none

/-- The entry of the motor is replaced by what the frame makes of it, readings included. -/
theorem SPGMotorState.Shows.update {config : MonitorConfig K} {motor motor' : SPGMotorState K}
    {r : Option (Readings K)} (h : motor.Shows r) {frame : ParsedFrame} {now : K}
    (hupdate : motor.update config frame now = .ok motor') :
    motor'.Shows (carriedReadings config frame.canId frame <|> r) := by
  obtain ⟨ht, hi, hs, hp⟩ := h
  unfold SPGMotorState.update at hupdate
  simp only at hupdate
  by_cases hstatus : frame.data.getD 0 0 = cmdMitControl ∧ frame.dlc = 8
  · rw [if_neg (by omega), if_pos hstatus] at hupdate
    rw [carriedReadings, if_pos ⟨rfl, hstatus.2, hstatus.1⟩, statusReadings]
    split at hupdate
    · rename_i decoded hdecoded
      cases hupdate
      rw [hdecoded]
      exact ⟨rfl, rfl, rfl, rfl⟩
    · rename_i text hdecoded
      cases hupdate
      rw [hdecoded]
      exact ⟨ht, hi, hs, hp⟩
    · cases hupdate
  · -- every other branch leaves the four fields alone
    rw [carriedReadings, if_neg (fun hc => hstatus ⟨hc.2.2, hc.2.1⟩)]
    rw [if_neg hstatus] at hupdate
    split_ifs at hupdate <;> cases hupdate <;> exact ⟨ht, hi, hs, hp⟩

omit [LinearOrder K] in
theorem ensureNode_motors (config : MonitorConfig K) (s : MonitorState K) (key name : String)
    (canId : ℤ) (role : String) :
    (ensureNode config s key name canId role).1.motors = s.motors := by
  unfold ensureNode
  split <;> rfl

theorem markNode_motors (config : MonitorConfig K) (s : MonitorState K) (frame : ParsedFrame)
    (now : K) : (markNode config s frame now).motors = s.motors := by
  show (nodeForCanId config s frame.canId).1.motors = s.motors
  unfold nodeForCanId
  split
  · rfl
  · exact ensureNode_motors config s _ _ _ _

theorem updateImu_motors {sqrt : K → K} {config : MonitorConfig K} {s s' : MonitorState K}
    {frame : ParsedFrame} {now : K} (h : updateImu sqrt config s frame now = .ok s') :
    s'.motors = s.motors := by
  unfold updateImu at h
  split_ifs at h
  · cases h
    rfl
  · split at h
    · cases h
      rfl
    · cases h
      rfl
    · cases h
  · split at h
    · cases h
      rfl
    · cases h
      rfl
    · cases h
  · cases h
    rfl

/-- `_update_motor` on the motor of a configured actuator. -/
theorem updateMotor_shows {config : MonitorConfig K} {a : ActuatorConfig} (ha : a ∈ config.actuators)
    {s s' : MonitorState K} {frame : ParsedFrame} {now : K}
    (h : updateMotor config s frame now = .ok s') {motor : SPGMotorState K}
    (hmotor : s.motors.get? a.canId = some motor) {r : Option (Readings K)} (hr : motor.Shows r) :
    ∃ motor', s'.motors.get? a.canId = some motor' ∧
      motor'.Shows (carriedReadings config a.canId frame <|> r) := by
  unfold updateMotor at h
  by_cases hid : frame.canId = a.canId
  · obtain ⟨b, hb⟩ := MonitorConfig.exists_actuatorConfigForCanId ha
    rw [hid, hb] at h
    simp only [hmotor, Option.getD_some, bind_eq_ok_iff] at h
    obtain ⟨motor', hupdate, hs'⟩ := h
    cases hs'
    refine ⟨motor', ?_, ?_⟩
    · rw [Dict.get?_insert, if_pos rfl]
    · rw [← hid]
      exact hr.update hupdate
  · -- a frame under another id touches another entry
    rw [carriedReadings, if_neg (fun hc => hid hc.1)]
    cases hb : config.actuatorConfigForCanId frame.canId with
    | none =>
        rw [hb] at h
        cases h
        exact ⟨motor, hmotor, hr⟩
    | some b =>
        rw [hb] at h
        simp only [bind_eq_ok_iff] at h
        obtain ⟨motor', -, hs'⟩ := h
        cases hs'
        refine ⟨motor, ?_, hr⟩
        rw [Dict.get?_insert, if_neg (Ne.symm hid)]
        exact hmotor

/-! ## At the start -/

omit [LinearOrder K] in
theorem ensureActuator_get? (config : MonitorConfig K) (s : MonitorState K) (a : ActuatorConfig)
    (canId : ℤ) :
    (ensureActuator config s a).motors.get? canId =
      (s.motors.get? canId <|>
        if canId = a.canId then some { canId := a.canId, name := a.name } else none) := by
  unfold ensureActuator
  simp only [ensureNode_motors]
  split
  · rename_i m hm
    rw [ensureNode_motors]
    split
    · rename_i hid
      rw [hid, hm]
      rfl
    · simp
  · rename_i hnone
    rw [Dict.get?_insert]
    split
    · rename_i hid
      rw [hid, hnone]
      rfl
    · simp

omit [LinearOrder K] in
/-- The constructor's loop: every listed actuator gets a motor, and no motor shows a reading. -/
theorem foldl_ensureActuator (config : MonitorConfig K) (s : MonitorState K)
    (hs : ∀ canId motor, s.motors.get? canId = some motor → motor.Shows none)
    (as : List ActuatorConfig) :
    (∀ canId motor, (as.foldl (ensureActuator config) s).motors.get? canId = some motor →
      motor.Shows none) ∧
      ∀ a ∈ as, ((as.foldl (ensureActuator config) s).motors.get? a.canId).isSome := by
  induction as using List.reverseRecOn with
  | nil => exact ⟨hs, fun a ha => (List.not_mem_nil ha).elim⟩
  | append_singleton as b ih =>
      obtain ⟨hblank, hlisted⟩ := ih
      rw [List.foldl_concat]
      refine ⟨fun canId motor hmotor => ?_, fun a ha => ?_⟩
      · rw [ensureActuator_get?] at hmotor
        cases hold : (as.foldl (ensureActuator config) s).motors.get? canId with
        | some old =>
            rw [hold] at hmotor
            cases hmotor
            exact hblank canId motor hold
        | none =>
            rw [hold] at hmotor
            change (if canId = b.canId then _ else _) = _ at hmotor
            split at hmotor
            · cases hmotor
              exact ⟨rfl, rfl, rfl, rfl⟩
            · cases hmotor
      · rw [ensureActuator_get?]
        rcases List.mem_append.mp ha with ha | ha
        · obtain ⟨motor, hmotor⟩ := Option.isSome_iff_exists.mp (hlisted a ha)
          rw [hmotor]
          rfl
        · rw [List.mem_singleton.mp ha, if_pos rfl]
          cases (as.foldl (ensureActuator config) s).motors.get? b.canId <;> rfl

omit [LinearOrder K] in
/-- At the start every configured motor exists and shows nothing. -/
theorem monitorInit_shows {config : MonitorConfig K} {a : ActuatorConfig}
    (ha : a ∈ config.actuators) :
    ∃ motor, (monitorInit config).motors.get? a.canId = some motor ∧ motor.Shows none := by
  have hstart : ∀ canId motor,
      (ensureImuNodes config { canChannels := config.canChannels }).motors.get? canId = some motor →
        motor.Shows none := by
    intro canId motor h
    simp only [ensureImuNodes, ensureNode_motors] at h
    cases h
  obtain ⟨hblank, hlisted⟩ := foldl_ensureActuator config _ hstart config.actuatorConfigs
  obtain ⟨motor, hmotor⟩ :=
    Option.isSome_iff_exists.mp (hlisted a ((config.mem_actuatorConfigs a).mpr ha))
  exact ⟨motor, hmotor, hblank a.canId motor hmotor⟩

/-! ## When there is no state after a frame -/

/-- The frame makes an IMU decoder divide by a scale that is zero. -/
def ImuDividesByZero (config : MonitorConfig K) (frame : ParsedFrame) : Prop :=
  frame.canId ≠ config.imuRequestId ∧ frame.dlc = 8 ∧
    ((frame.canId = config.imuQuatId ∧ config.imuQuatScale = 0) ∨
      (frame.canId ≠ config.imuQuatId ∧ frame.canId = config.imuGyroId ∧ config.imuGyroScale = 0))

/-- The frame makes the SPG decoder divide by a scale that is zero. -/
def MotorDividesByZero (config : MonitorConfig K) (frame : ParsedFrame) : Prop :=
  (∃ a ∈ config.actuators, a.canId = frame.canId) ∧ frame.dlc = 8 ∧
    frame.data.getD 0 0 = cmdMitControl ∧ config.iqFullScaleCount = 0

theorem updateImu_isOk_iff (sqrt : K → K) (config : MonitorConfig K) (s : MonitorState K)
    (frame : ParsedFrame) (now : K) :
    (∃ s', updateImu sqrt config s frame now = .ok s') ↔ ¬ ImuDividesByZero config frame := by
  have hlen : frame.dlc = 8 → frame.data.length = 8 := fun h => frame.length_data.trans h
  unfold updateImu ImuDividesByZero
  split_ifs with hreq hquat hgyro
  · exact iff_of_true ⟨_, rfl⟩ fun h => h.1 hreq
  · rcases decodeE2boxQuat_cases sqrt (hlen hquat.2) config.imuQuatScale config.imuNormalizeQuat with
      ⟨hscale, v, hv⟩ | ⟨hscale, hv⟩
    · rw [hv]
      refine iff_of_true ⟨_, rfl⟩ ?_
      rintro ⟨-, -, ⟨-, h0⟩ | ⟨hne, -⟩⟩
      · exact hscale h0
      · exact hne hquat.1
    · rw [hv]
      refine iff_of_false ?_ (not_not.mpr ⟨hreq, hquat.2, Or.inl ⟨hquat.1, hscale⟩⟩)
      rintro ⟨s', hs'⟩
      cases hs'
  · have hne : frame.canId ≠ config.imuQuatId := fun h => hquat ⟨h, hgyro.2⟩
    rcases decodeE2boxGyro_cases (hlen hgyro.2) config.imuGyroScale with
      ⟨hscale, v, hv⟩ | ⟨hscale, hv⟩
    · rw [hv]
      refine iff_of_true ⟨_, rfl⟩ ?_
      rintro ⟨-, -, ⟨heq, -⟩ | ⟨-, -, h0⟩⟩
      · exact hne heq
      · exact hscale h0
    · rw [hv]
      refine iff_of_false ?_ (not_not.mpr ⟨hreq, hgyro.2, Or.inr ⟨hne, hgyro.1, hscale⟩⟩)
      rintro ⟨s', hs'⟩
      cases hs'
  · refine iff_of_true ⟨_, rfl⟩ ?_
    rintro ⟨-, hdlc, ⟨heq, -⟩ | ⟨-, heq, -⟩⟩
    · exact hquat ⟨heq, hdlc⟩
    · exact hgyro ⟨heq, hdlc⟩

theorem SPGMotorState.update_isOk_iff (config : MonitorConfig K) (motor : SPGMotorState K)
    (frame : ParsedFrame) (now : K) :
    (∃ motor', motor.update config frame now = .ok motor') ↔
      ¬ (frame.dlc = 8 ∧ frame.data.getD 0 0 = cmdMitControl ∧ config.iqFullScaleCount = 0) := by
  unfold SPGMotorState.update
  simp only
  by_cases hstatus : frame.data.getD 0 0 = cmdMitControl ∧ frame.dlc = 8
  · rw [if_neg (by omega), if_pos hstatus]
    rcases decodeSpgStatus_cases (frame.length_data.trans hstatus.2) config.feedbackPositionMaxRad
      config.iqFullScaleCount config.iqFullScaleCurrentA with ⟨hscale, d, hd⟩ | ⟨hscale, hd⟩
    · rw [hd]
      exact iff_of_true ⟨_, rfl⟩ fun h => hscale h.2.2
    · rw [hd]
      refine iff_of_false ?_ (not_not.mpr ⟨hstatus.2, hstatus.1, hscale⟩)
      rintro ⟨motor', h⟩
      cases h
  · refine iff_of_true ?_ fun h => hstatus ⟨h.2.1, h.1⟩
    rw [if_neg hstatus]
    split_ifs <;> exact ⟨_, rfl⟩

theorem updateMotor_isOk_iff (config : MonitorConfig K) (s : MonitorState K) (frame : ParsedFrame)
    (now : K) :
    (∃ s', updateMotor config s frame now = .ok s') ↔ ¬ MotorDividesByZero config frame := by
  unfold updateMotor MotorDividesByZero
  rw [← MonitorConfig.actuatorConfigForCanId_isSome]
  cases config.actuatorConfigForCanId frame.canId with
  | none => simp
  | some a =>
      simp only [Option.isSome_some, true_and, bind_eq_ok_iff]
      rw [← SPGMotorState.update_isOk_iff config _ frame now]
      constructor
      · rintro ⟨s', motor', h, -⟩
        exact ⟨motor', h⟩
      · rintro ⟨motor', h⟩
        exact ⟨_, motor', h, rfl⟩

/-! ## One frame -/

variable [FloorRing K]

/-- **Step.** After a frame a configured motor shows what the frame carries for it, or what it
showed. -/
theorem markRx_shows {sqrt : K → K} {config : MonitorConfig K} {channel : Option ℕ}
    {a : ActuatorConfig} (ha : a ∈ config.actuators) {s s' : MonitorState K} {frame : ParsedFrame}
    {now : K} (h : markRx sqrt config channel s frame now = .ok s') {motor : SPGMotorState K}
    (hmotor : s.motors.get? a.canId = some motor) {r : Option (Readings K)} (hr : motor.Shows r) :
    ∃ motor', s'.motors.get? a.canId = some motor' ∧
      motor'.Shows (carriedReadings config a.canId frame <|> r) := by
  unfold markRx at h
  simp only [bind_eq_ok_iff] at h
  obtain ⟨s1, himu, hmotors⟩ := h
  refine updateMotor_shows ha hmotors ?_ hr
  rw [updateImu_motors himu, markNode_motors]
  cases channel <;> exact hmotor

/-- There is a state after a frame exactly when no decoder divides by zero. -/
theorem markRx_isOk_iff (sqrt : K → K) (config : MonitorConfig K) (channel : Option ℕ)
    (s : MonitorState K) (frame : ParsedFrame) (now : K) :
    (∃ s', markRx sqrt config channel s frame now = .ok s') ↔
      ¬ ImuDividesByZero config frame ∧ ¬ MotorDividesByZero config frame := by
  unfold markRx
  simp only [bind_eq_ok_iff]
  constructor
  · rintro ⟨s', s1, himu, hmotor⟩
    exact ⟨(updateImu_isOk_iff sqrt config _ frame now).mp ⟨s1, himu⟩,
      (updateMotor_isOk_iff config s1 frame now).mp ⟨s', hmotor⟩⟩
  · rintro ⟨himu, hmotor⟩
    obtain ⟨s1, hs1⟩ := (updateImu_isOk_iff sqrt config _ frame now).mpr himu
    obtain ⟨s', hs'⟩ := (updateMotor_isOk_iff config s1 frame now).mpr hmotor
    exact ⟨s', s1, hs1, hs'⟩

end Readings

end SparqControl.Dashboard
