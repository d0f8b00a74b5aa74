/-
# SparqControl.Config.PlatformConfig — the platform document.

`load_platform_config` reads the robot, the CAN and shared-memory names, the IMU, the MIT ranges of
the SPG actuators and the list of actuators. It refuses a document without a key it needs, two
actuators with one name or one CAN id, and a platform with no enabled actuator. It compares no number
with a bound: `parseActuators_spec` says that an accepted actuator list is the document's list, entry
by entry, whatever its ids.
-/
import SparqControl.Config.Yaml

namespace SparqControl.Config

open SparqControl.Hal

/-! ## The data -/

structure PlatformRobotAssetConfig where
  modelPath : String
  policyConfigDir : String
  pdConfigPath : String

structure PlatformCanConfig where
  interface : String
  bitrate : ℤ
  daemonSocket : String

structure PlatformShmConfig where
  mitCommand : String
  auxCommand : String
  operatorCommand : String
  controlState : String
  dashboardState : String

structure PlatformImuConfig (K : Type) where
  type : String
  requestId : ℤ
  quatId : ℤ
  gyroId : ℤ
  cmdGetQuat : ℤ
  cmdGetGyro : ℤ
  cmdGetAll : ℤ
  quatScale : PyFloat K
  gyroScale : PyFloat K
  normalizeQuat : Bool

structure PlatformSpgMitConfig (K : Type) where
  pMaxRad : PyFloat K
  vMaxRadS : PyFloat K
  kpMax : PyFloat K
  kdMax : PyFloat K
  tauMaxNm : PyFloat K
  feedbackPositionMaxRad : PyFloat K
  iqFullScaleCount : PyFloat K
  iqFullScaleCurrentA : PyFloat K

structure PlatformActuatorConfig (K : Type) where
  name : String
  enabled : Bool
  canId : ℤ
  mujocoJoint : String
  mujocoActuator : String
  sign : PyFloat K
  offsetRad : PyFloat K

structure PlatformConfig (K : Type) where
  robotName : String
  robots : List (String × PlatformRobotAssetConfig)
  can : PlatformCanConfig
  shm : PlatformShmConfig
  imu : PlatformImuConfig K
  spgMit : PlatformSpgMitConfig K
  actuators : List (PlatformActuatorConfig K)

/-- `enabled_actuators`. -/
def PlatformConfig.enabledActuators {K : Type} (c : PlatformConfig K) :
    List (PlatformActuatorConfig K) :=
  c.actuators.filter PlatformActuatorConfig.enabled

/-! ## The parsers -/

section Parse

variable {K : Type} (conv : Conversions K)

/-- One entry of `parse_robot_assets`. -/
def parseRobotAsset (name : String) (item : Yaml K) : Except LoadError PlatformRobotAssetConfig := do
  let some entries := item.entries?
    | throw (.config s!"Config key must be a mapping: robots.{name}")
  return {
    modelPath := pyStr conv (← requireKey entries "model_path" s!"robots.{name}")
    policyConfigDir := pyStr conv (← requireKey entries "policy_config_dir" s!"robots.{name}")
    pdConfigPath := pyStr conv (← requireKey entries "pd_config_path" s!"robots.{name}") }

/-- `parse_robot_assets`. -/
def parseRobotAssets (raw : Mapping K) :
    Except LoadError (List (String × PlatformRobotAssetConfig)) := do
  let robots ← raw.mapM fun (key, item) => do
    let name := pyStr conv key
    return (name, ← parseRobotAsset conv name item)
  if robots.isEmpty then throw (.config "robots must not be empty")
  return robots

variable [Field K] [LinearOrder K] [FloorRing K]

/-- One round of the loop of `parse_actuators`: the entry at `index`, after the names and ids of the
entries before it. -/
def parseActuator (index : ℕ) (seenNames : List String) (seenCanIds : List ℤ) (item : Yaml K) :
    Except LoadError (PlatformActuatorConfig K) := do
  let path := s!"actuators[{index}]"
  let some entries := item.entries? | throw (.config s!"Config key must be a mapping: {path}")
  let name ← requireStr conv entries "name" path
  let canId ← requireParsedInt conv entries "can_id" path
  if name ∈ seenNames then throw (.config s!"Duplicate actuator name: {name}")
  if canId ∈ seenCanIds then throw (.config "Duplicate actuator CAN ID")
  return {
    name := name
    enabled := pyBool (← requireKey entries "enabled" path)
    canId := canId
    mujocoJoint := ← requireStr conv entries "mujoco_joint" path
    mujocoActuator := ← requireStr conv entries "mujoco_actuator" path
    sign := ← requireFloat conv entries "sign" path
    offsetRad := ← requireFloat conv entries "offset_rad" path }

/-- The loop of `parse_actuators` from an index on. -/
def parseActuatorsFrom : ℕ → List String → List ℤ → List (Yaml K) →
    Except LoadError (List (PlatformActuatorConfig K))
  | _, _, _, [] => .ok []
  | index, seenNames, seenCanIds, item :: items => do
      let actuator ← parseActuator conv index seenNames seenCanIds item
      let rest ← parseActuatorsFrom (index + 1) (actuator.name :: seenNames)
        (actuator.canId :: seenCanIds) items
      return actuator :: rest

/-- `parse_actuators`. -/
def parseActuators (raw : List (Yaml K)) : Except LoadError (List (PlatformActuatorConfig K)) := do
  let actuators ← parseActuatorsFrom conv 0 [] [] raw
  if actuators.isEmpty then throw (.config "actuators must not be empty")
  if !actuators.any PlatformActuatorConfig.enabled then
    throw (.config "at least one actuator must be enabled")
  return actuators

def parseCan (raw : Mapping K) : Except LoadError PlatformCanConfig := do
  return {
    interface := ← requireStr conv raw "interface" "can"
    bitrate := ← requireInt conv raw "bitrate" "can"
    daemonSocket := ← requireStr conv raw "daemon_socket" "can" }

def parseShm (raw : Mapping K) : Except LoadError PlatformShmConfig := do
  return {
    mitCommand := ← requireStr conv raw "mit_command" "shm"
    auxCommand := ← requireStr conv raw "aux_command" "shm"
    operatorCommand := ← requireStr conv raw "operator_command" "shm"
    controlState := ← requireStr conv raw "control_state" "shm"
    dashboardState := ← requireStr conv raw "dashboard_state" "shm" }

def parseImu (raw : Mapping K) : Except LoadError (PlatformImuConfig K) := do
  return {
    type := ← requireStr conv raw "type" "imu"
    requestId := ← requireParsedInt conv raw "request_id" "imu"
    quatId := ← requireParsedInt conv raw "quat_id" "imu"
    gyroId := ← requireParsedInt conv raw "gyro_id" "imu"
    cmdGetQuat := ← requireParsedInt conv raw "cmd_get_quat" "imu"
    cmdGetGyro := ← requireParsedInt conv raw "cmd_get_gyro" "imu"
    cmdGetAll := ← requireParsedInt conv raw "cmd_get_all" "imu"
    quatScale := ← requireFloat conv raw "quat_scale" "imu"
    gyroScale := ← requireFloat conv raw "gyro_scale" "imu"
    normalizeQuat := pyBool (← requireKey raw "normalize_quat" "imu") }

def parseSpgMit (raw : Mapping K) : Except LoadError (PlatformSpgMitConfig K) := do
  return {
    pMaxRad := ← requireFloat conv raw "p_max_rad" "spg_mit"
    vMaxRadS := ← requireFloat conv raw "v_max_rad_s" "spg_mit"
    kpMax := ← requireFloat conv raw "kp_max" "spg_mit"
    kdMax := ← requireFloat conv raw "kd_max" "spg_mit"
    tauMaxNm := ← requireFloat conv raw "tau_max_nm" "spg_mit"
    feedbackPositionMaxRad := ← requireFloat conv raw "feedback_position_max_rad" "spg_mit"
    iqFullScaleCount := ← requireFloat conv raw "iq_full_scale_count" "spg_mit"
    iqFullScaleCurrentA := ← requireFloat conv raw "iq_full_scale_current_a" "spg_mit" }

/-- `load_platform_config` on the document at the path. -/
def loadPlatformConfig (path : String) (doc : Yaml K) : Except LoadError (PlatformConfig K) := do
  let raw ← asMapping path doc
  let robotRaw ← requireMapping raw "robot" "<root>"
  let canRaw ← requireMapping raw "can" "<root>"
  let shmRaw ← requireMapping raw "shm" "<root>"
  let imuRaw ← requireMapping raw "imu" "<root>"
  let spgRaw ← requireMapping raw "spg_mit" "<root>"
  let robotName ← requireStr conv robotRaw "name" "robot"
  let robots ← parseRobotAssets conv (← requireMapping raw "robots" "<root>")
  let can ← parseCan conv canRaw
  let shm ← parseShm conv shmRaw
  let imu ← parseImu conv imuRaw
  let spgMit ← parseSpgMit conv spgRaw
  let actuators ← parseActuators conv (← requireList raw "actuators" "<root>")
  if robotName ∉ robots.map Prod.fst then
    throw (.config s!"robot.name has no robots entry: {robotName}")
  return ⟨robotName, robots, can, shm, imu, spgMit, actuators⟩

/-! ## What an accepted platform says about its document -/

/-- The entries under `actuators`. -/
def listedActuators (doc : Yaml K) : List (Yaml K) :=
  ((doc.valueAt ["actuators"]).bind Yaml.items?).getD []

/-- The entry has a truthy `enabled`. -/
def isEnabled (item : Yaml K) : Bool := ((item.valueAt ["enabled"]).map pyBool).getD false

/-- The ids of the enabled actuators of a platform document, in its order. -/
def enabledCanIds (doc : Yaml K) : List ℤ :=
  ((listedActuators doc).filter isEnabled).filterMap (intAt conv · ["can_id"])

/-- The actuator has the id and the switch its entry gives. -/
structure ReadFrom (item : Yaml K) (a : PlatformActuatorConfig K) : Prop where
  canId : intAt conv item ["can_id"] = some a.canId
  enabled : isEnabled item = a.enabled

variable {conv}

theorem parseActuator_spec {index : ℕ} {seenNames : List String} {seenCanIds : List ℤ}
    {item : Yaml K} {a : PlatformActuatorConfig K}
    (h : parseActuator conv index seenNames seenCanIds item = .ok a) : ReadFrom conv item a := by
  unfold parseActuator at h
  cases item with
  | map entries =>
      simp only [Yaml.entries?, bind_eq_ok_iff] at h
      obtain ⟨name, -, canId, hcanId, h⟩ := h
      split at h
      · cases h
      split at h
      · cases h
      simp only [bind_eq_ok_iff] at h
      obtain ⟨enabled, henabled, joint, -, actuator, -, sign, -, offset, -, h⟩ := h
      cases h
      refine ⟨intAt_of_requireParsedInt hcanId, ?_⟩
      rw [isEnabled, Yaml.valueAt_singleton, requireKey_eq_ok_iff.mp henabled]
      rfl
  | _ => cases h

/-- The loop of `parse_actuators` reads every entry, whatever it saw before. -/
theorem parseActuatorsFrom_spec {items : List (Yaml K)} {index : ℕ} {seenNames : List String}
    {seenCanIds : List ℤ} {actuators : List (PlatformActuatorConfig K)}
    (h : parseActuatorsFrom conv index seenNames seenCanIds items = .ok actuators) :
    List.Forall₂ (ReadFrom conv) items actuators := by
  induction items generalizing index seenNames seenCanIds actuators with
  | nil =>
      cases h
      exact List.Forall₂.nil
  | cons item items ih =>
      simp only [parseActuatorsFrom, bind_eq_ok_iff] at h
      obtain ⟨a, ha, rest, hrest, h⟩ := h
      cases h
      exact List.Forall₂.cons (parseActuator_spec ha) (ih hrest)

/-- **The actuators are the document's**, entry by entry, and one of them is enabled; no id was
compared with a bound. -/
theorem parseActuators_spec {items : List (Yaml K)} {actuators : List (PlatformActuatorConfig K)}
    (h : parseActuators conv items = .ok actuators) :
    List.Forall₂ (ReadFrom conv) items actuators ∧
      actuators.any PlatformActuatorConfig.enabled = true := by
  unfold parseActuators at h
  rw [bind_eq_ok_iff] at h
  obtain ⟨read, hread, h⟩ := h
  cases hempty : read.isEmpty <;> cases hany : read.any PlatformActuatorConfig.enabled <;>
    simp only [hempty, hany] at h <;> cases h
  exact ⟨parseActuatorsFrom_spec hread, hany⟩

/-- The enabled actuators have the ids of the enabled entries. -/
theorem canIds_of_readFrom {items : List (Yaml K)} {actuators : List (PlatformActuatorConfig K)}
    (h : List.Forall₂ (ReadFrom conv) items actuators) :
    (items.filter isEnabled).filterMap (intAt conv · ["can_id"]) =
      (actuators.filter PlatformActuatorConfig.enabled).map PlatformActuatorConfig.canId := by
  induction h with
  | nil => rfl
  | cons hread _ ih =>
      rename_i item a items actuators
      rw [List.filter_cons, List.filter_cons, hread.enabled]
      split
      · rw [List.filterMap_cons, hread.canId, List.map_cons, ih]
      · exact ih

/-- What the loader of the platform keeps of its document, as far as a tick reads it. -/
structure PlatformFrom (conv : Conversions K) (doc : Yaml K) (c : PlatformConfig K) : Prop where
  canIds : c.enabledActuators.map PlatformActuatorConfig.canId = enabledCanIds conv doc
  anyEnabled : c.enabledActuators ≠ []
  requestId : intAt conv doc ["imu", "request_id"] = some c.imu.requestId
  cmdGetAll : intAt conv doc ["imu", "cmd_get_all"] = some c.imu.cmdGetAll
  pMaxRad : floatAt conv doc ["spg_mit", "p_max_rad"] = some c.spgMit.pMaxRad
  vMaxRadS : floatAt conv doc ["spg_mit", "v_max_rad_s"] = some c.spgMit.vMaxRadS
  kpMax : floatAt conv doc ["spg_mit", "kp_max"] = some c.spgMit.kpMax
  kdMax : floatAt conv doc ["spg_mit", "kd_max"] = some c.spgMit.kdMax
  tauMaxNm : floatAt conv doc ["spg_mit", "tau_max_nm"] = some c.spgMit.tauMaxNm

theorem loadPlatformConfig_spec {path : String} {doc : Yaml K} {c : PlatformConfig K}
    (h : loadPlatformConfig conv path doc = .ok c) : PlatformFrom conv doc c := by
  unfold loadPlatformConfig at h
  simp only [bind_eq_ok_iff] at h
  obtain ⟨raw, hraw, robotRaw, -, canRaw, -, shmRaw, -, imuRaw, himuRaw, spgRaw, hspgRaw, robotName,
    -, robotsRaw, -, robots, -, can, -, shm, -, imu, himu, spgMit, hspg, items, hitems, actuators,
    hactuators, h⟩ := h
  split at h
  · cases h
  cases h
  obtain rfl := asMapping_eq_ok_iff.mp hraw
  rw [requireMapping_eq_ok_iff] at himuRaw hspgRaw
  rw [requireList_eq_ok_iff] at hitems
  simp only [parseImu, bind_eq_ok_iff] at himu
  obtain ⟨type, -, requestId, hrequestId, quatId, -, gyroId, -, getQuat, -, getGyro, -, getAll,
    hgetAll, quatScale, -, gyroScale, -, normalize, -, himu⟩ := himu
  cases himu
  simp only [parseSpgMit, bind_eq_ok_iff] at hspg
  obtain ⟨pMax, hp, vMax, hv, kpMax, hkp, kdMax, hkd, tauMax, ht, feedback, -, count, -, current, -,
    hspg⟩ := hspg
  cases hspg
  have hlisted : listedActuators (.map raw) = items := by
    rw [listedActuators, Yaml.valueAt_singleton, hitems]
    rfl
  obtain ⟨hread, hany⟩ := parseActuators_spec hactuators
  refine ⟨?_, ?_, ?_, ?_, ?_, ?_, ?_, ?_, ?_⟩
  · rw [enabledCanIds, hlisted]
    exact (canIds_of_readFrom hread).symm
  · obtain ⟨a, ha, henabled⟩ := List.any_eq_true.mp hany
    exact List.ne_nil_of_mem (List.mem_filter.mpr ⟨ha, henabled⟩)
  · rw [intAt_section himuRaw]
    exact intAt_of_requireParsedInt hrequestId
  · rw [intAt_section himuRaw]
    exact intAt_of_requireParsedInt hgetAll
  · rw [floatAt_section hspgRaw]
    exact floatAt_of_requireFloat hp
  · rw [floatAt_section hspgRaw]
    exact floatAt_of_requireFloat hv
  · rw [floatAt_section hspgRaw]
    exact floatAt_of_requireFloat hkp
  · rw [floatAt_section hspgRaw]
    exact floatAt_of_requireFloat hkd
  · rw [floatAt_section hspgRaw]
    exact floatAt_of_requireFloat ht

end Parse

end SparqControl.Config
