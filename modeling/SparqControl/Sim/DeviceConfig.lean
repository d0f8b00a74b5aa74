/-
# SparqControl.Sim.DeviceConfig — from the platform document to the simulator's actuator bindings.

The simulator reads the same platform document as the host, with another library: where the host gets
the RESOLVED VALUE of a scalar, the simulator gets its TEXT and converts it when it asks for a type. A
`Node` carries both. What the library makes of a text as a boolean or a floating-point number is a
parameter (`CppConversions`); CAN ids go through `std::stoul`, which is modelled.

`load_bridge_device_config` reads every entry, `build_default_actuator_bindings` makes a binding of every
entry, and of an entry that is not enabled it makes an exception.
-/
import SparqControl.Config.Yaml
import SparqControl.Sim.MujocoCanBridge

namespace SparqControl.Sim

open SparqControl.Config (Yaml)
open SparqControl.Hal

/-! ## The document -/

/-- A node of a YAML document, aliases expanded. A scalar has its text, which the simulator keeps, and
the value the host's loader resolves it to. -/
inductive Node (K : Type) where
  | null
  | scalar (text : String) (value : Yaml K)
  | seq (items : List (Node K))
  | map (entries : List (Node K × Node K))

namespace Node

variable {K : Type}

mutual

/-- What `yaml.safe_load` makes of a node. A later entry of a mapping overrides an earlier one with the
same key, so the host's view lists them from the last. Merge keys (`<<`), which the host's reader expands
and the simulator's does not, are left out: a node here is one without them. -/
def load : Node K → Yaml K
  | .null => .null
  | .scalar _ value => value
  | .seq items => .seq (loadItems items)
  | .map entries => .map (loadEntries entries).reverse

def loadItems : List (Node K) → List (Yaml K)
  | [] => []
  | item :: items => item.load :: loadItems items

def loadEntries : List (Node K × Node K) → List (Yaml K × Yaml K)
  | [] => []
  | (key, value) :: entries => (key.load, value.load) :: loadEntries entries

end

theorem loadItems_eq_map (items : List (Node K)) : loadItems items = items.map load := by
  induction items with
  | nil => rfl
  | cons item items ih => rw [loadItems, ih, List.map_cons]

def isKey (key : String) : Node K → Bool
  | .scalar text _ => text = key
  | _ => false

/-- `node[key]`: the first entry whose key has this text; only a mapping has entries. -/
def get? (node : Node K) (key : String) : Option (Node K) :=
  match node with
  | .map entries => (entries.find? fun e => e.1.isKey key).map Prod.snd
  | _ => none

end Node

/-! ## Numbers in text -/

/-- `isspace` in the C locale. -/
def isCSpace (c : Char) : Bool :=
  c = ' ' || c = '\t' || c = '\n' || c = '\x0b' || c = '\x0c' || c = '\r'

/-- The value of a digit in any base up to 36. -/
def digitValue (c : Char) : Option ℕ :=
  if '0' ≤ c ∧ c ≤ '9' then some (c.toNat - '0'.toNat)
  else if 'a' ≤ c ∧ c ≤ 'z' then some (c.toNat - 'a'.toNat + 10)
  else if 'A' ≤ c ∧ c ≤ 'Z' then some (c.toNat - 'A'.toNat + 10)
  else none

/-- The digits of a base at the front of a text. -/
def digitPrefixOf (base : ℕ) : List Char → List ℕ
  | [] => []
  | c :: cs =>
      match digitValue c with
      | some d => if d < base then d :: digitPrefixOf base cs else []
      | none => []

/-- Base 0: the prefix of the text names the base, and `0x` counts only in front of a digit. -/
def baseOf : List Char → ℕ × List Char
  | '0' :: x :: d :: cs =>
      if (x = 'x' ∨ x = 'X') ∧ (digitValue d).any (· < 16) then (16, d :: cs)
      else (8, '0' :: x :: d :: cs)
  | '0' :: cs => (8, '0' :: cs)
  | cs => (10, cs)

/-- The number at the front of a text, if there is one. -/
def magnitude (cs : List Char) : Option ℕ :=
  let (base, body) := baseOf cs
  match digitPrefixOf base body with
  | [] => none
  | digits => some (digits.foldl (fun n d => base * n + d) 0)

/-- The range of `unsigned long`. -/
def ulongRange : ℕ := 2 ^ 64

/-- `std::stoul(text, nullptr, 0)`: leading white space, a sign, and the longest number; what follows it
is ignored, and a minus wraps around. No number and one out of range are exceptions. -/
def stoul (text : String) : Option ℕ :=
  match text.toList.dropWhile isCSpace with
  | '-' :: cs =>
      (magnitude cs).bind fun n => if n < ulongRange then some ((ulongRange - n) % ulongRange) else none
  | '+' :: cs => (magnitude cs).bind fun n => if n < ulongRange then some n else none
  | cs => (magnitude cs).bind fun n => if n < ulongRange then some n else none

example : stoul "0x1F" = some 31 ∧ stoul " 12 # id" = some 12 ∧ stoul "0o17" = some 0 ∧
    stoul "-1" = some (2 ^ 64 - 1) ∧ stoul "true" = none := by decide

/-! ## The readers -/

/-- What the YAML library makes of the text of a scalar, and of a null read as text. -/
structure CppConversions (K : Type) where
  asBool : String → Option Bool
  asDouble : String → Option K
  nullText : Option String

section Readers

variable {K : Type} (cpp : CppConversions K)

/-- `node.as<bool>()`. -/
def asBool : Node K → Option Bool
  | .scalar text _ => cpp.asBool text
  | _ => none

/-- `node.as<double>()`. -/
def asDouble : Node K → Option K
  | .scalar text _ => cpp.asDouble text
  | _ => none

/-- `node.as<std::string>()`. -/
def asString : Node K → Option String
  | .scalar text _ => some text
  | .null => cpp.nullText
  | _ => none

/-- `yaml_require` with one of the conversions. The error is the text of the `std::runtime_error`. -/
def yamlRequire {α : Type} (as : Node K → Option α) (node : Node K) (key : String) : Except String α :=
  match node.get? key with
  | none => .error ("Missing required YAML key: " ++ key)
  | some value =>
      match as value with
      | some a => .ok a
      | none => .error ("Invalid YAML value for key '" ++ key ++ "'")

/-- `yaml_require_u32`. The cast keeps the low 32 bits. -/
def yamlRequireU32 (node : Node K) (key : String) : Except String UInt32 :=
  match node.get? key with
  | none => .error ("Missing required YAML key: " ++ key)
  | some (.scalar text _) =>
      match stoul text with
      | some n => .ok (UInt32.ofNat n)
      | none => .error ("Invalid uint32 YAML value for key '" ++ key ++ "'")
  | some _ => .error ("YAML key must be scalar uint32: " ++ key)

end Readers

/-! ## The device configuration -/

/-- `ActuatorDeviceConfig`. -/
structure ActuatorDeviceConfig (K : Type) [Field K] where
  enabled : Bool
  logicalName : String
  mujocoJointName : String
  mujocoActuatorName : String
  canId : UInt32
  sign : K
  offsetRad : K
  spgMitConfig : SPGMITConfig K

/-- `ImuDeviceConfig`. -/
structure ImuDeviceConfig (K : Type) [Field K] where
  enabled : Bool
  type : String
  e2boxConfig : E2BoxImuFirmwareConfig K

/-- `DeviceConfig`. -/
structure DeviceConfig (K : Type) [Field K] where
  actuators : List (ActuatorDeviceConfig K)
  imus : List (ImuDeviceConfig K)

section Load

variable {K : Type} [Field K] (cpp : CppConversions K)

/-- One round of the loop of `load_bridge_device_config`. -/
def loadActuatorConfig (spgDefaults : SPGMITConfig K) (node : Node K) :
    Except String (ActuatorDeviceConfig K) := do
  return {
    enabled := ← yamlRequire (asBool cpp) node "enabled"
    logicalName := ← yamlRequire (asString cpp) node "name"
    mujocoJointName := ← yamlRequire (asString cpp) node "mujoco_joint"
    mujocoActuatorName := ← yamlRequire (asString cpp) node "mujoco_actuator"
    canId := ← yamlRequireU32 node "can_id"
    sign := ← yamlRequire (asDouble cpp) node "sign"
    offsetRad := ← yamlRequire (asDouble cpp) node "offset_rad"
    spgMitConfig := spgDefaults }

/-- The IMU part of `load_bridge_device_config`. -/
def loadImuConfig (imuDefaults : E2BoxImuFirmwareConfig K) (platform : Node K) :
    Except String (ImuDeviceConfig K) :=
  match platform.get? "imu" with
  | some (.map entries) => do
      return {
        enabled := true
        type := ← yamlRequire (asString cpp) (.map entries) "type"
        e2boxConfig := imuDefaults }
  | _ => .error "platform.imu must be a mapping"

/-- `load_bridge_device_config`. -/
def loadBridgeDeviceConfig (platform : Node K) (spgDefaults : SPGMITConfig K)
    (imuDefaults : E2BoxImuFirmwareConfig K) : Except String (DeviceConfig K) :=
  match platform.get? "actuators" with
  | some (.seq (item :: items)) => do
      let actuators ← (item :: items).mapM (loadActuatorConfig cpp spgDefaults)
      let imu ← loadImuConfig cpp imuDefaults platform
      return ⟨actuators, [imu]⟩
  | _ => .error "platform.actuators must be a non-empty sequence"

end Load

/-! ## The bindings -/

/-- `mjtTrn`, as far as the bridge tells its values apart. -/
inductive TrnType where
  | joint
  | jointInParent
  | other
  deriving DecidableEq, Repr

structure MjJoint where
  name : String
  isHinge : Bool
  qposAdr : ℤ
  dofAdr : ℤ

structure MjActuator where
  name : String
  trnType : TrnType
  trnId : ℤ

/-- The members of `mjModel` that the bindings are made from. -/
structure MjNames where
  joints : List MjJoint
  actuators : List MjActuator

/-- An index, or -1. -/
def idOf (i : Option ℕ) : ℤ :=
  match i with
  | some i => i
  | none => -1

/-- `mj_name2id` of a joint. -/
def MjNames.jointId (m : MjNames) (name : String) : ℤ := idOf (m.joints.findIdx? (·.name = name))

/-- `mj_name2id` of an actuator. -/
def MjNames.actuatorId (m : MjNames) (name : String) : ℤ := idOf (m.actuators.findIdx? (·.name = name))

def TrnType.drivesJoint (t : TrnType) : Bool := t = .joint || t = .jointInParent

/-- `find_actuator_id_for_joint`. -/
def findActuatorIdForJoint (m : MjNames) (jointId : ℤ) : ℤ :=
  if jointId < 0 ∨ jointId ≥ m.joints.length then -1
  else idOf (m.actuators.findIdx? fun a => a.trnType.drivesJoint && decide (a.trnId = jointId))

section Bind

variable {K : Type} [Field K]

/-- The id of a named object, or -1 where the configuration names none. -/
def namedId (kind : String) (id : String → ℤ) (name : String) : Except String ℤ :=
  if name = "" then .ok (-1)
  else if id name < 0 then .error ("[MujocoCanBridge] " ++ kind ++ " not found: " ++ name)
  else .ok (id name)

/-- The actuator of a joint, where the configuration names only the joint. -/
def actuatorOfJoint (m : MjNames) (config : ActuatorDeviceConfig K) (actuatorId jointId : ℤ) :
    Except String ℤ :=
  if actuatorId < 0 ∧ jointId ≥ 0 then
    if findActuatorIdForJoint m jointId < 0 then
      .error ("[MujocoCanBridge] no joint actuator found for joint: " ++ config.mujocoJointName)
    else .ok (findActuatorIdForJoint m jointId)
  else .ok actuatorId

/-- The joint of an actuator, where the configuration names only the actuator. -/
def jointOfActuator (m : MjNames) (config : ActuatorDeviceConfig K) (actuatorId jointId : ℤ) :
    Except String ℤ :=
  if actuatorId ≥ 0 ∧ jointId < 0 then
    match m.actuators[actuatorId.toNat]? with
    | some a =>
        if a.trnType.drivesJoint then .ok a.trnId
        else .error ("[MujocoCanBridge] actuator is not a joint actuator: " ++ config.mujocoActuatorName)
    | none => .ok jointId
  else .ok jointId

/-- The binding of an actuator and a joint that were found. -/
def bindJoint (m : MjNames) (config : ActuatorDeviceConfig K) (actuatorId jointId : ℤ) :
    Except String (ActuatorBinding K) :=
  if actuatorId < 0 ∨ jointId < 0 then
    .error "[MujocoCanBridge] actuator config needs 'mujoco_actuator' or 'mujoco_joint'"
  else
    match m.joints[jointId.toNat]? with
    | none => .error "[MujocoCanBridge] joint ID is out of range"
    | some joint =>
        if joint.isHinge then
          .ok {
            canId := config.canId
            actuatorId := actuatorId
            ctrlAdr := actuatorId
            qposAdr := joint.qposAdr
            qvelAdr := joint.dofAdr
            sign := config.sign
            offsetRad := config.offsetRad
            spgMitConfig := config.spgMitConfig }
        else
          .error ("[MujocoCanBridge] only hinge joints are supported for MIT actuator binding: " ++
            config.mujocoJointName)

/-- `build_actuator_binding_from_config`, where `none` is its `false`. -/
def buildActuatorBindingFromConfig (m : MjNames) (config : ActuatorDeviceConfig K) :
    Except String (Option (ActuatorBinding K)) :=
  if config.enabled = false then .ok none
  else if config.canId = 0 then .error "[MujocoCanBridge] actuator config requires nonzero can_id"
  else do
    let actuatorId ← namedId "actuator" m.actuatorId config.mujocoActuatorName
    let jointId ← namedId "joint" m.jointId config.mujocoJointName
    let actuatorId ← actuatorOfJoint m config actuatorId jointId
    let jointId ← jointOfActuator m config actuatorId jointId
    let binding ← bindJoint m config actuatorId jointId
    return some binding

/-- One round of the loop of `build_default_actuator_bindings`. -/
def bindActuator (m : MjNames) (config : ActuatorDeviceConfig K) : Except String (ActuatorBinding K) := do
  match ← buildActuatorBindingFromConfig m config with
  | some binding => return binding
  | none => throw "[MujocoCanBridge] enabled actuator config did not produce a binding"

/-- `build_default_actuator_bindings`. -/
def buildDefaultActuatorBindings (m : MjNames) (deviceConfig : DeviceConfig K) :
    Except String (List (ActuatorBinding K)) :=
  if deviceConfig.actuators.isEmpty then
    .error "[MujocoCanBridge] no actuator CAN mappings configured"
  else do
    let bindings ← deviceConfig.actuators.mapM (bindActuator m)
    if bindings.isEmpty then
      throw "[MujocoCanBridge] no enabled actuator CAN mappings configured"
    return bindings

/-- The two steps of the simulator's start: the device configuration, and the bindings. -/
def actuatorBindings (cpp : CppConversions K) (m : MjNames) (platform : Node K)
    (spgDefaults : SPGMITConfig K) (imuDefaults : E2BoxImuFirmwareConfig K) :
    Except String (List (ActuatorBinding K)) := do
  let deviceConfig ← loadBridgeDeviceConfig cpp platform spgDefaults imuDefaults
  buildDefaultActuatorBindings m deviceConfig

/-! ## When a binding is made -/

/-- The model has what a configuration names: a hinge joint of that name with the named actuator, or
with one that drives it; or, where no joint is named, an actuator that drives a hinge joint. -/
def MjNames.Contains (m : MjNames) (jointName actuatorName : String) : Prop :=
  (jointName ≠ "" ∧
    (∃ (i : ℕ) (joint : MjJoint), m.jointId jointName = i ∧ m.joints[i]? = some joint ∧
      joint.isHinge = true) ∧
    (actuatorName ≠ "" → 0 ≤ m.actuatorId actuatorName) ∧
    (actuatorName = "" → 0 ≤ findActuatorIdForJoint m (m.jointId jointName))) ∨
  (jointName = "" ∧ actuatorName ≠ "" ∧
    ∃ (i j : ℕ) (actuator : MjActuator) (joint : MjJoint), m.actuatorId actuatorName = i ∧
      m.actuators[i]? = some actuator ∧ actuator.trnType.drivesJoint = true ∧ actuator.trnId = j ∧
      m.joints[j]? = some joint ∧ joint.isHinge = true)

variable {m : MjNames} {config : ActuatorDeviceConfig K}

theorem bindJoint_eq_ok {actuatorId jointId : ℤ} {binding : ActuatorBinding K}
    (h : bindJoint m config actuatorId jointId = .ok binding) : binding.canId = config.canId := by
  unfold bindJoint at h
  split at h
  · cases h
  split at h
  · cases h
  split at h
  · cases h
    rfl
  · cases h

theorem exists_bindJoint (config : ActuatorDeviceConfig K) {actuatorId : ℤ} {j : ℕ} {joint : MjJoint}
    (hactuator : 0 ≤ actuatorId)
    (hjoint : m.joints[j]? = some joint) (hhinge : joint.isHinge = true) :
    ∃ binding, bindJoint m config actuatorId j = .ok binding := by
  unfold bindJoint
  rw [if_neg (by omega)]
  simp only [Int.toNat_natCast, hjoint, hhinge, if_true]
  exact ⟨_, rfl⟩

/-- Only an enabled configuration gets a binding, and the binding has its id. -/
theorem bindActuator_eq_ok {binding : ActuatorBinding K} (h : bindActuator m config = .ok binding) :
    config.enabled = true ∧ binding.canId = config.canId := by
  unfold bindActuator buildActuatorBindingFromConfig at h
  split at h
  · cases h
  · rename_i henabled
    rw [Bool.not_eq_false] at henabled
    refine ⟨henabled, ?_⟩
    split at h
    · cases h
    · simp only [bind_eq_ok_iff] at h
      obtain ⟨made, ⟨_, _, _, _, _, _, _, _, b, hb, hmade⟩, h⟩ := h
      cases hmade
      cases h
      exact bindJoint_eq_ok hb

/-- An enabled configuration with an id gets a binding where the model has what it names. -/
theorem exists_bindActuator (config : ActuatorDeviceConfig K) (henabled : config.enabled = true)
    (hid : config.canId ≠ 0)
    (hmodel : m.Contains config.mujocoJointName config.mujocoActuatorName) :
    ∃ binding, bindActuator m config = .ok binding := by
  obtain ⟨binding, hbinding⟩ :
      ∃ binding, buildActuatorBindingFromConfig m config = .ok (some binding) := by
    unfold buildActuatorBindingFromConfig
    rw [if_neg (by simp [henabled]), if_neg hid]
    rcases hmodel with ⟨hjoint, ⟨j, joint, hj, hget, hhinge⟩, hnamed, hdriven⟩ |
      ⟨hjoint, hactuator, i, j, actuator, joint, hi, hget, hdrives, htrn, hgetj, hhinge⟩
    · have hfound : namedId "joint" m.jointId config.mujocoJointName = .ok (j : ℤ) := by
        rw [namedId, if_neg hjoint, hj, if_neg (by omega)]
      by_cases hactuator : config.mujocoActuatorName = ""
      · -- the actuator is found through the joint
        have hdriver := hdriven hactuator
        rw [hj] at hdriver
        obtain ⟨binding, hbinding⟩ := exists_bindJoint config hdriver hget hhinge
        refine ⟨binding, ?_⟩
        simp only [bind_eq_ok_iff]
        refine ⟨-1, ?_, j, hfound, findActuatorIdForJoint m j, ?_, j, ?_, binding, hbinding, rfl⟩
        · rw [namedId, if_pos hactuator]
        · rw [actuatorOfJoint, if_pos (by omega), if_neg (by omega)]
        · rw [jointOfActuator, if_neg (by omega)]
      · have hid := hnamed hactuator
        obtain ⟨binding, hbinding⟩ := exists_bindJoint config hid hget hhinge
        refine ⟨binding, ?_⟩
        simp only [bind_eq_ok_iff]
        refine ⟨m.actuatorId config.mujocoActuatorName, ?_, j, hfound,
          m.actuatorId config.mujocoActuatorName, ?_, j, ?_, binding, hbinding, rfl⟩
        · rw [namedId, if_neg hactuator, if_neg (by omega)]
        · rw [actuatorOfJoint, if_neg (by omega)]
        · rw [jointOfActuator, if_neg (by omega)]
    · -- the joint is found through the actuator
      obtain ⟨binding, hbinding⟩ := exists_bindJoint config (Int.natCast_nonneg i) hgetj hhinge
      refine ⟨binding, ?_⟩
      simp only [bind_eq_ok_iff]
      refine ⟨i, ?_, -1, ?_, i, ?_, j, ?_, binding, hbinding, rfl⟩
      · rw [namedId, if_neg hactuator, hi, if_neg (by omega)]
      · rw [namedId, if_pos hjoint]
      · rw [actuatorOfJoint, if_neg (by omega)]
      · rw [jointOfActuator, if_pos (by omega), Int.toNat_natCast, hget]
        simp only [hdrives, if_true, htrn]
  unfold bindActuator
  rw [hbinding]
  exact ⟨binding, rfl⟩

end Bind

end SparqControl.Sim
