/-
# SparqControl.Telemetry.RobotState — the robot state in shared memory, written and read back.

A snapshot says `None` for what is not known. The record in shared memory has no such value, and three
stand-ins are used for it: zero together with the test "was there any feedback" for the five
measurements, minus one for the fault code, the enabled flag and the age, and twelve slots for any
number of actuators. What a reader gets back is the snapshot when the stand-ins can be told from
values, and nothing else: `actuator_readBack_iff` says for one actuator when that is.
-/
import SparqControl.Controller.RobotController

namespace SparqControl.Telemetry

open SparqControl.Hal SparqControl.Controller

/-- `MAX_ROBOT_STATE_ACTUATORS`. -/
abbrev maxRobotStateActuators : ℕ := 12

/-! ## Snapshots -/

/-- `ActuatorSnapshot`. -/
@[ext]
structure ActuatorSnapshot (K : Type) where
  canId : ℤ
  positionRad : Option K
  velocityRadS : Option K
  torqueNm : Option K
  currentA : Option K
  temperatureC : Option K
  faultCode : Option ℤ
  isEnabled : Option Bool
  lastFeedbackT : K
  ageS : Option K
  online : Bool
  stale : Bool

/-- `ImuSnapshot`. -/
structure ImuSnapshot (K : Type) where
  quatXyzw : Option (Vector K 4)
  projectedGravityB : Option (Vector K 3)
  angularVelocityRadS : Option (Vector K 3)
  lastQuatT : K
  lastGyroT : K
  quatOnline : Bool
  gyroOnline : Bool
  quatStale : Bool
  gyroStale : Bool

/-- `CommandOutputSnapshot`. -/
structure CommandOutputSnapshot (K : Type) where
  source : OutputSource
  timestampMonotonic : K
  targets : List (CommandTargetSnapshot K)

/-- `RobotSnapshot`. -/
structure RobotSnapshot (K : Type) where
  mode : ControllerMode
  timestampMonotonic : K
  timestampUnix : K
  actuators : List (ActuatorSnapshot K)
  imu : ImuSnapshot K
  commandOutput : CommandOutputSnapshot K

/-! ## The record -/

/-- `ActuatorStateC`, numbers in exact arithmetic. -/
structure ActuatorStateC (K : Type) where
  canId : UInt32
  positionRad : K
  velocityRadS : K
  torqueNm : K
  currentA : K
  temperatureC : K
  faultCode : Int32
  isEnabled : Int32
  lastFeedbackT : K
  ageS : K
  online : UInt8
  stale : UInt8

/-- `ImuStateC`. -/
structure ImuStateC (K : Type) where
  quatXyzw : Vector K 4
  projectedGravityB : Vector K 3
  angularVelocityRadS : Vector K 3
  lastQuatT : K
  lastGyroT : K
  quatOnline : UInt8
  gyroOnline : UInt8
  quatStale : UInt8
  gyroStale : UInt8

/-- `CommandTargetStateC`. -/
structure CommandTargetStateC (K : Type) where
  canId : UInt32
  pTargetRad : K
  vTargetRadS : K
  kp : K
  kd : K
  tauTargetNm : K

/-- `CommandOutputStateC`. -/
structure CommandOutputStateC (K : Type) where
  timestampMonotonic : K
  source : UInt32
  targetCount : UInt32
  targets : Vector (CommandTargetStateC K) maxRobotStateActuators

/-- `RobotStateC`, less its own write time. -/
structure RobotStateC (K : Type) where
  timestampMonotonic : K
  timestampUnix : K
  controllerMode : UInt32
  actuatorCount : UInt32
  imu : ImuStateC K
  actuators : Vector (ActuatorStateC K) maxRobotStateActuators
  commandOutput : CommandOutputStateC K

/-! ## Writing -/

/-- `int(mode)`. -/
def modeValue : ControllerMode → ℕ
  | .disabled => 0
  | .enabling => 1
  | .normal => 2
  | .damping => 3
  | .zeroSetting => 4
  | .estop => 5

/-- The name of a mode. -/
def modeText : ControllerMode → String
  | .disabled => "DISABLED"
  | .enabling => "ENABLING"
  | .normal => "NORMAL"
  | .damping => "DAMPING"
  | .zeroSetting => "ZERO_SETTING"
  | .estop => "ESTOP"

/-- The text `_record_output_command` is called with. -/
def sourceText : OutputSource → String
  | .none => "NONE"
  | .disable => "DISABLE"
  | .enable => "ENABLE"
  | .zeroSet => "ZERO_SET"
  | .damping => "DAMPING"
  | .policy => "POLICY"

/-- `COMMAND_OUTPUT_SOURCE_NAMES`. -/
def commandOutputSourceNames : List (ℕ × String) :=
  [(0, "NONE"), (1, "ENABLE"), (2, "DISABLE"), (3, "ZERO_SET"), (4, "DAMPING"), (5, "POLICY")]

/-- `COMMAND_OUTPUT_SOURCE_VALUES.get(name, 0)`. -/
def commandOutputSourceValue (name : String) : ℕ :=
  ((commandOutputSourceNames.find? fun p => p.2 = name).map Prod.fst).getD 0

/-- `int(bool(...))` in a byte. -/
def flagByte (b : Bool) : UInt8 := if b then 1 else 0

/-- An array of records as `RobotStateC()` constructs it, filled from the front. -/
def slots {α : Type} (zero : α) (items : List α) : Vector α maxRobotStateActuators :=
  Vector.ofFn fun i => items.getD i zero

section Write

variable {K : Type} [Field K] [LinearOrder K]

/-- `_float_or_zero`. -/
def floatOrZero : Option (PyFloat K) → K
  | some (.fin x) => x
  | some (.inf _) => 0
  | some .nan => 0
  | none => 0

/-- One pass of the loop over the actuators. -/
def ActuatorStateC.ofSnapshot (item : ActuatorSnapshot K) : ActuatorStateC K where
  canId := UInt32.ofInt item.canId
  positionRad := floatOrZero (item.positionRad.map .fin)
  velocityRadS := floatOrZero (item.velocityRadS.map .fin)
  torqueNm := floatOrZero (item.torqueNm.map .fin)
  currentA := floatOrZero (item.currentA.map .fin)
  temperatureC := floatOrZero (item.temperatureC.map .fin)
  faultCode := Int32.ofInt (item.faultCode.getD (-1))
  isEnabled := Int32.ofInt ((item.isEnabled.map fun enabled => if enabled then 1 else 0).getD (-1))
  lastFeedbackT := item.lastFeedbackT
  ageS := item.ageS.getD (-1)
  online := flagByte item.online
  stale := flagByte item.stale

/-- One pass of the loop over the targets. -/
def CommandTargetStateC.ofSnapshot (item : CommandTargetSnapshot K) : CommandTargetStateC K where
  canId := UInt32.ofInt item.canId
  pTargetRad := floatOrZero (some item.pTargetRad)
  vTargetRadS := floatOrZero (some item.vTargetRadS)
  kp := floatOrZero (some item.kp)
  kd := floatOrZero (some item.kd)
  tauTargetNm := floatOrZero (some item.tauTargetNm)

/-- `_fill_array` on the arrays of the IMU; what is not known gets a fallback. -/
def ImuStateC.ofSnapshot (imu : ImuSnapshot K) : ImuStateC K where
  quatXyzw := imu.quatXyzw.getD #v[0, 0, 0, 1]
  projectedGravityB := imu.projectedGravityB.getD #v[0, 0, -1]
  angularVelocityRadS := imu.angularVelocityRadS.getD #v[0, 0, 0]
  lastQuatT := imu.lastQuatT
  lastGyroT := imu.lastGyroT
  quatOnline := flagByte imu.quatOnline
  gyroOnline := flagByte imu.gyroOnline
  quatStale := flagByte imu.quatStale
  gyroStale := flagByte imu.gyroStale

/-- `snapshot_to_cstruct`. -/
def snapshotToCstruct (snapshot : RobotSnapshot K) : RobotStateC K where
  timestampMonotonic := snapshot.timestampMonotonic
  timestampUnix := snapshot.timestampUnix
  controllerMode := UInt32.ofNat (modeValue snapshot.mode)
  actuatorCount := UInt32.ofNat (min snapshot.actuators.length maxRobotStateActuators)
  imu := .ofSnapshot snapshot.imu
  actuators := slots ⟨0, 0, 0, 0, 0, 0, 0, 0, 0, 0, 0, 0⟩
    ((snapshot.actuators.take maxRobotStateActuators).map .ofSnapshot)
  commandOutput :=
    { timestampMonotonic := snapshot.commandOutput.timestampMonotonic
      source := UInt32.ofNat (commandOutputSourceValue (sourceText snapshot.commandOutput.source))
      targetCount :=
        UInt32.ofNat (min snapshot.commandOutput.targets.length maxRobotStateActuators)
      targets := slots ⟨0, 0, 0, 0, 0, 0⟩
        ((snapshot.commandOutput.targets.take maxRobotStateActuators).map .ofSnapshot) }

end Write

/-! ## Reading -/

/-- `_mode_name`. -/
def modeName : ℕ → String
  | 0 => "DISABLED"
  | 1 => "ENABLING"
  | 2 => "NORMAL"
  | 3 => "DAMPING"
  | 4 => "ZERO_SETTING"
  | 5 => "ESTOP"
  | value => "MODE_" ++ toString value

/-- `COMMAND_OUTPUT_SOURCE_NAMES.get(value, f"SOURCE_{value}")`. -/
def commandOutputSourceName (value : ℕ) : String :=
  ((commandOutputSourceNames.find? fun p => p.1 = value).map Prod.snd).getD
    ("SOURCE_" ++ toString value)

/-- `f"0x{can_id:X}"`. -/
def formatHex (n : ℕ) : String := "0x" ++ String.ofList ((Nat.toDigits 16 n).map Char.toUpper)

/-- The dictionary of one target. -/
structure CommandTargetDict (K : Type) where
  canId : String
  pTargetRad : K
  vTargetRadS : K
  kp : K
  kd : K
  tauTargetNm : K

/-- The dictionary of the command output. -/
structure CommandOutputDict (K : Type) where
  status : String
  source : String
  timestampMonotonic : K
  ageS : Option K
  targetCount : ℕ
  targets : List (CommandTargetDict K)

/-- The dictionary of the IMU. -/
structure ImuDict (K : Type) where
  quatXyzw : List K
  projectedGravityB : List K
  angularVelocityRadS : List K
  lastQuatT : K
  lastGyroT : K
  quatOnline : Bool
  gyroOnline : Bool
  quatStale : Bool
  gyroStale : Bool

/-- What `robot_state_to_dict` returns. The dictionary of an actuator has the keys of
`ActuatorSnapshot`. -/
structure RobotStateDict (K : Type) where
  timestampMonotonic : K
  timestampUnix : K
  controllerState : String
  imu : ImuDict K
  actuators : List (ActuatorSnapshot K)
  commandOutput : CommandOutputDict K

section Read

variable {K : Type} [Field K] [LinearOrder K]

/-- `None if x < 0 else x`. -/
def noneIfNegative {α : Type} [Zero α] [LT α] [DecidableLT α] (x : α) : Option α :=
  if x < 0 then none else some x

/-- `_actuator_to_dict`. -/
def actuatorToDict (item : ActuatorStateC K) : ActuatorSnapshot K :=
  let hasFeedback := decide (0 < item.lastFeedbackT)
  { canId := item.canId.toNat
    positionRad := if hasFeedback then some item.positionRad else none
    velocityRadS := if hasFeedback then some item.velocityRadS else none
    torqueNm := if hasFeedback then some item.torqueNm else none
    currentA := if hasFeedback then some item.currentA else none
    temperatureC := if hasFeedback then some item.temperatureC else none
    faultCode := noneIfNegative item.faultCode.toInt
    isEnabled := (noneIfNegative item.isEnabled.toInt).map fun x => decide (x ≠ 0)
    lastFeedbackT := item.lastFeedbackT
    ageS := noneIfNegative item.ageS
    online := item.online ≠ 0
    stale := item.stale ≠ 0 }

/-- `_command_target_to_dict`. -/
def commandTargetToDict (item : CommandTargetStateC K) : CommandTargetDict K :=
  ⟨formatHex item.canId.toNat, item.pTargetRad, item.vTargetRadS, item.kp, item.kd,
    item.tauTargetNm⟩

/-- `_command_output_to_dict`, read at time `now`. -/
def commandOutputToDict (now : K) (item : CommandOutputStateC K) : CommandOutputDict K :=
  let targetCount := min item.targetCount.toNat maxRobotStateActuators
  let waiting := decide (item.timestampMonotonic ≤ 0)
  { status := if waiting then "waiting" else "online"
    source := commandOutputSourceName item.source.toNat
    timestampMonotonic := item.timestampMonotonic
    ageS := if waiting then none else some (max 0 (now - item.timestampMonotonic))
    targetCount := targetCount
    targets := (item.targets.toList.take targetCount).map commandTargetToDict }

/-- `robot_state_to_dict`, read at time `now`. -/
def robotStateToDict (now : K) (state : RobotStateC K) : RobotStateDict K where
  timestampMonotonic := state.timestampMonotonic
  timestampUnix := state.timestampUnix
  controllerState := modeName state.controllerMode.toNat
  imu :=
    { quatXyzw := state.imu.quatXyzw.toList
      projectedGravityB := state.imu.projectedGravityB.toList
      angularVelocityRadS := state.imu.angularVelocityRadS.toList
      lastQuatT := state.imu.lastQuatT
      lastGyroT := state.imu.lastGyroT
      quatOnline := state.imu.quatOnline ≠ 0
      gyroOnline := state.imu.gyroOnline ≠ 0
      quatStale := state.imu.quatStale ≠ 0
      gyroStale := state.imu.gyroStale ≠ 0 }
  actuators :=
    (state.actuators.toList.take (min state.actuatorCount.toNat maxRobotStateActuators)).map
      actuatorToDict
  commandOutput := commandOutputToDict now state.commandOutput

end Read

/-! ## Reading back what was written -/

theorem modeName_modeValue (mode : ControllerMode) :
    modeName (UInt32.ofNat (modeValue mode)).toNat = modeText mode := by
  cases mode <;> rfl

theorem commandOutputSourceName_value (source : OutputSource) :
    commandOutputSourceName (UInt32.ofNat (commandOutputSourceValue (sourceText source))).toNat =
      sourceText source := by
  cases source <;> rfl

theorem flagByte_ne_zero (b : Bool) : decide (flagByte b ≠ 0) = b := by
  cases b <;> rfl

/-- The filled slots are the items. -/
theorem take_slots {α : Type} (zero : α) {items : List α}
    (h : items.length ≤ maxRobotStateActuators) :
    (slots zero items).toList.take items.length = items := by
  apply List.ext_getElem
  · simp [slots, h]
  · intro i hi hi'
    simp [slots, hi']

theorem toNat_count (n : ℕ) :
    min (UInt32.ofNat (min n maxRobotStateActuators)).toNat maxRobotStateActuators =
      min n maxRobotStateActuators := by
  have hle : min n maxRobotStateActuators ≤ maxRobotStateActuators := Nat.min_le_right _ _
  have hlt : min n maxRobotStateActuators < 2 ^ 32 := Nat.lt_of_le_of_lt hle (by decide)
  rw [UInt32.toNat_ofNat_of_lt' hlt]
  exact Nat.min_eq_left hle

/-- An array of records read back: the first twelve items. -/
theorem readBack_slots {α β γ : Type} (zero : β) (write : α → β) (read : β → γ) (items : List α) :
    ((slots zero ((items.take maxRobotStateActuators).map write)).toList.take
      (min (UInt32.ofNat (min items.length maxRobotStateActuators)).toNat
        maxRobotStateActuators)).map read =
      (items.take maxRobotStateActuators).map fun a => read (write a) := by
  have hlen : ((items.take maxRobotStateActuators).map write).length =
      min items.length maxRobotStateActuators := by
    rw [List.length_map, List.length_take, Nat.min_comm]
  rw [toNat_count, ← hlen, take_slots zero (by omega), List.map_map]
  rfl

section ReadBack

variable {K : Type} [Field K] [LinearOrder K]

theorem actuators_readBack (now : K) (snapshot : RobotSnapshot K) :
    (robotStateToDict now (snapshotToCstruct snapshot)).actuators =
      (snapshot.actuators.take maxRobotStateActuators).map
        fun item => actuatorToDict (.ofSnapshot item) :=
  readBack_slots _ _ _ _

theorem targets_readBack (now : K) (snapshot : RobotSnapshot K) :
    (robotStateToDict now (snapshotToCstruct snapshot)).commandOutput.targets =
      (snapshot.commandOutput.targets.take maxRobotStateActuators).map
        fun item => commandTargetToDict (.ofSnapshot item) :=
  readBack_slots _ _ _ _

omit [Field K] [LinearOrder K] in
/-- An id survives the 32-bit field exactly when it fits. -/
theorem toNat_ofInt_eq_iff (canId : ℤ) :
    ((UInt32.ofInt canId).toNat : ℤ) = canId ↔ 0 ≤ canId ∧ canId < 2 ^ 32 := by
  have hmod : ((UInt32.ofInt canId).toNat : ℤ) = canId % 2 ^ 32 := by
    rw [UInt32.ofInt, UInt32.toNat_ofNat']
    omega
  rw [hmod]
  omega

/-- The five measurements of an actuator. -/
def ActuatorSnapshot.measurements (a : ActuatorSnapshot K) : List (Option K) :=
  [a.positionRad, a.velocityRadS, a.torqueNm, a.currentA, a.temperatureC]

/-- One measurement read back: zero stands for `None` once there is feedback, `None` for anything
before. -/
theorem measurement_readBack_iff {x : Option K} {lastFeedbackT : K} :
    (if decide (0 < lastFeedbackT) then some (floatOrZero (x.map .fin)) else none) = x ↔
      (0 < lastFeedbackT ↔ x.isSome = true) := by
  by_cases hfeedback : 0 < lastFeedbackT
  · cases x <;> simp [hfeedback, floatOrZero]
  · cases x <;> simp [hfeedback]

variable [IsStrictOrderedRing K]

/-- **One actuator read back** is the actuator exactly when its id fits and all five measurements are
known, or none is, as there was feedback or not. Fault codes and ages are never negative. -/
theorem actuator_readBack_iff {a : ActuatorSnapshot K}
    (hfault : ∀ code, a.faultCode = some code → 0 ≤ code ∧ code < 2 ^ 31)
    (hage : ∀ age, a.ageS = some age → 0 ≤ age) :
    actuatorToDict (.ofSnapshot a) = a ↔
      (0 ≤ a.canId ∧ a.canId < 2 ^ 32) ∧
        ∀ x ∈ a.measurements, (0 < a.lastFeedbackT ↔ x.isSome = true) := by
  have hid := toNat_ofInt_eq_iff a.canId
  have hfault' : noneIfNegative (Int32.ofInt (a.faultCode.getD (-1))).toInt = a.faultCode := by
    cases hcode : a.faultCode with
    | none => rfl
    | some code =>
        obtain ⟨h0, h1⟩ := hfault code hcode
        rw [Option.getD_some, Int32.toInt_ofInt_of_le (by omega) (by omega)]
        exact if_neg (not_lt.mpr h0)
  have henabled : (noneIfNegative (Int32.ofInt
      ((a.isEnabled.map fun enabled => if enabled then 1 else 0).getD (-1))).toInt).map
        (fun x => decide (x ≠ 0)) = a.isEnabled := by
    cases a.isEnabled with
    | none => rfl
    | some enabled => cases enabled <;> rfl
  have hage' : noneIfNegative (a.ageS.getD (-1)) = a.ageS := by
    cases hsome : a.ageS with
    | none => exact if_pos (by norm_num)
    | some age => exact if_neg (not_lt.mpr (hage age hsome))
  unfold actuatorToDict ActuatorStateC.ofSnapshot ActuatorSnapshot.measurements
  rw [ActuatorSnapshot.ext_iff]
  simp only [hfault', henabled, hage', hid, flagByte_ne_zero, measurement_readBack_iff, and_true,
    List.forall_mem_cons, List.not_mem_nil, IsEmpty.forall_iff, implies_true]

end ReadBack

end SparqControl.Telemetry
