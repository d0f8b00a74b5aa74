/-
# SparqControl.Link.PlatformActuators — one actuator list, read by the host and by the simulator.

The host keeps the entries that are enabled; the simulator makes a binding of every entry and THROWS at
one that is not enabled. So the two agree on the ids exactly when every entry is enabled and is written
so that both readers take it for the same (`bindings_agree_iff`); a single disabled actuator, which the
host's parser and its list of enabled actuators are made for, stops the simulator
(`disabled_actuator_refused`).
-/
import SparqControl.Config.RobotControllerConfig
import SparqControl.Sim.DeviceConfig

namespace SparqControl.Link

open SparqControl.Config SparqControl.Hal SparqControl.Sim

variable {K : Type} [Field K] [LinearOrder K] [FloorRing K]

/-! ## Entries both readers take for the same -/

/-- An entry that is enabled for both readers, has one CAN id for both, and whose other keys the
simulator can read. -/
structure ReadAlike (cpp : CppConversions K) (item : Node K) (a : PlatformActuatorConfig K) : Prop where
  hostEnabled : a.enabled = true
  simEnabled : yamlRequire (asBool cpp) item "enabled" = .ok true
  name : ∃ text, yamlRequire (asString cpp) item "name" = .ok text
  joint : ∃ text, yamlRequire (asString cpp) item "mujoco_joint" = .ok text
  actuator : ∃ text, yamlRequire (asString cpp) item "mujoco_actuator" = .ok text
  canId : ∃ id, yamlRequireU32 item "can_id" = .ok id ∧ (id.toNat : ℤ) = a.canId
  sign : ∃ x, yamlRequire (asDouble cpp) item "sign" = .ok x
  offsetRad : ∃ x, yamlRequire (asDouble cpp) item "offset_rad" = .ok x

/-- The IMU section is a mapping with a type the simulator can read. -/
def ReadableImu (cpp : CppConversions K) (platform : Node K) : Prop :=
  ∃ entries text, platform.get? "imu" = some (.map entries) ∧
    yamlRequire (asString cpp) (.map entries) "type" = .ok text

variable {cpp : CppConversions K} {m : MjNames}

omit [LinearOrder K] [FloorRing K] in
theorem loadImuConfig_isOk_iff (imuDefaults : E2BoxImuFirmwareConfig K) {platform : Node K} :
    (∃ imu, loadImuConfig cpp imuDefaults platform = .ok imu) ↔ ReadableImu cpp platform := by
  unfold loadImuConfig ReadableImu
  split
  · rename_i entries hget
    constructor
    · rintro ⟨imu, himu⟩
      obtain ⟨text, htext, -⟩ := bind_eq_ok_iff.mp himu
      exact ⟨entries, text, hget, htext⟩
    · rintro ⟨entries', text, hget', htext⟩
      rw [hget] at hget'
      cases hget'
      exact ⟨_, bind_eq_ok_iff.mpr ⟨text, htext, rfl⟩⟩
  · rename_i hnot
    constructor
    · rintro ⟨imu, himu⟩
      cases himu
    · rintro ⟨entries, text, hget, -⟩
      exact absurd hget (hnot entries)

omit [LinearOrder K] [FloorRing K] in
/-- What the simulator reads of an entry, key by key. -/
theorem loadActuatorConfig_eq_ok_iff {spgDefaults : SPGMITConfig K} {item : Node K}
    {config : ActuatorDeviceConfig K} :
    loadActuatorConfig cpp spgDefaults item = .ok config ↔
      yamlRequire (asBool cpp) item "enabled" = .ok config.enabled ∧
      yamlRequire (asString cpp) item "name" = .ok config.logicalName ∧
      yamlRequire (asString cpp) item "mujoco_joint" = .ok config.mujocoJointName ∧
      yamlRequire (asString cpp) item "mujoco_actuator" = .ok config.mujocoActuatorName ∧
      yamlRequireU32 item "can_id" = .ok config.canId ∧
      yamlRequire (asDouble cpp) item "sign" = .ok config.sign ∧
      yamlRequire (asDouble cpp) item "offset_rad" = .ok config.offsetRad ∧
      config.spgMitConfig = spgDefaults := by
  unfold loadActuatorConfig
  simp only [bind_eq_ok_iff]
  constructor
  · rintro ⟨enabled, h1, name, h2, joint, h3, actuator, h4, id, h5, sign, h6, offset, h7, h⟩
    cases h
    exact ⟨h1, h2, h3, h4, h5, h6, h7, rfl⟩
  · rintro ⟨h1, h2, h3, h4, h5, h6, h7, rfl⟩
    exact ⟨_, h1, _, h2, _, h3, _, h4, _, h5, _, h6, _, h7, rfl⟩

/-! ## The whole list -/

/-- The id of a binding as an integer. -/
def boundId (b : ActuatorBinding K) : ℤ := b.canId.toNat

omit [LinearOrder K] [FloorRing K] in
/-- Entries that were bound under the ids of actuators that are all enabled are read alike. -/
theorem readAlike_of_bound {spgDefaults : SPGMITConfig K} {items : List (Node K)}
    {configs : List (ActuatorDeviceConfig K)} {bindings : List (ActuatorBinding K)}
    {actuators : List (PlatformActuatorConfig K)}
    (hload : List.Forall₂ (fun item c => loadActuatorConfig cpp spgDefaults item = .ok c) items configs)
    (hbind : List.Forall₂ (fun c b => bindActuator m c = .ok b) configs bindings)
    (henabled : ∀ a ∈ actuators, a.enabled = true)
    (hids : bindings.map boundId = actuators.map PlatformActuatorConfig.canId) :
    List.Forall₂ (ReadAlike cpp) items actuators := by
  induction hload generalizing bindings actuators with
  | nil =>
      cases hbind
      cases actuators with
      | nil => exact .nil
      | cons a actuators => cases hids
  | cons hitem _ ih =>
      cases hbind with
      | cons hb hbind =>
          cases actuators with
          | nil => cases hids
          | cons a actuators =>
              rw [List.map_cons, List.map_cons, List.cons.injEq] at hids
              obtain ⟨hid, hids⟩ := hids
              obtain ⟨hon, hbid⟩ := bindActuator_eq_ok hb
              obtain ⟨h1, h2, h3, h4, h5, h6, h7, -⟩ := loadActuatorConfig_eq_ok_iff.mp hitem
              refine .cons ?_ (ih hbind (fun a' ha' => henabled a' (List.mem_cons_of_mem _ ha')) hids)
              rw [hon] at h1
              refine ⟨henabled a List.mem_cons_self, h1, ⟨_, h2⟩, ⟨_, h3⟩, ⟨_, h4⟩, ⟨_, h5, ?_⟩, ⟨_, h6⟩,
                ⟨_, h7⟩⟩
              rw [← hid, boundId, hbid]

omit [LinearOrder K] [FloorRing K] in
/-- Entries that are read alike are bound, under the ids the host has for them. -/
theorem exists_bindings {items : List (Node K)} {actuators : List (PlatformActuatorConfig K)}
    (spgDefaults : SPGMITConfig K) (h : List.Forall₂ (ReadAlike cpp) items actuators)
    (hnonzero : ∀ a ∈ actuators, a.canId ≠ 0)
    (hmodel : ∀ item ∈ items, ∀ joint actuator,
      yamlRequire (asString cpp) item "mujoco_joint" = .ok joint →
      yamlRequire (asString cpp) item "mujoco_actuator" = .ok actuator → m.Contains joint actuator) :
    ∃ configs bindings,
      List.Forall₂ (fun item c => loadActuatorConfig cpp spgDefaults item = .ok c) items configs ∧
      List.Forall₂ (fun c b => bindActuator m c = .ok b) configs bindings ∧
      bindings.map boundId = actuators.map PlatformActuatorConfig.canId := by
  induction h with
  | nil => exact ⟨[], [], .nil, .nil, rfl⟩
  | @cons item a items actuators halike _ ih =>
      obtain ⟨configs, bindings, hload, hbind, hids⟩ :=
        ih (fun a' ha' => hnonzero a' (List.mem_cons_of_mem _ ha'))
          (fun item' hitem' => hmodel item' (List.mem_cons_of_mem _ hitem'))
      obtain ⟨name, hname⟩ := halike.name
      obtain ⟨joint, hjoint⟩ := halike.joint
      obtain ⟨actuator, hactuator⟩ := halike.actuator
      obtain ⟨id, hid, hcanId⟩ := halike.canId
      obtain ⟨sign, hsign⟩ := halike.sign
      obtain ⟨offset, hoffset⟩ := halike.offsetRad
      have hitem : loadActuatorConfig cpp spgDefaults item =
          .ok ⟨true, name, joint, actuator, id, sign, offset, spgDefaults⟩ :=
        loadActuatorConfig_eq_ok_iff.mpr
          ⟨halike.simEnabled, hname, hjoint, hactuator, hid, hsign, hoffset, rfl⟩
      have hne : id ≠ 0 := by
        rintro rfl
        exact hnonzero a List.mem_cons_self hcanId.symm
      obtain ⟨b, hb⟩ := exists_bindActuator (m := m)
        ⟨true, name, joint, actuator, id, sign, offset, spgDefaults⟩ rfl hne
        (hmodel item List.mem_cons_self joint actuator hjoint hactuator)
      refine ⟨_ :: configs, b :: bindings, .cons hitem hload, .cons hb hbind, ?_⟩
      rw [List.map_cons, List.map_cons, hids, boundId, (bindActuator_eq_ok hb).2, hcanId]

omit [Field K] [LinearOrder K] [FloorRing K] in
theorem enabled_of_readAlike {items : List (Node K)} {actuators : List (PlatformActuatorConfig K)}
    (h : List.Forall₂ (ReadAlike cpp) items actuators) : ∀ a ∈ actuators, a.enabled = true := by
  induction h with
  | nil => exact fun a ha => nomatch ha
  | cons halike _ ih =>
      intro a ha
      rcases List.mem_cons.mp ha with rfl | ha
      · exact halike.hostEnabled
      · exact ih a ha

omit [LinearOrder K] [FloorRing K] in
/-- What the simulator's start makes of a document with a non-empty actuator list. -/
theorem actuatorBindings_eq_ok_iff {platform : Node K} {items : List (Node K)}
    (hitems : platform.get? "actuators" = some (.seq items)) (hne : items ≠ [])
    {spgDefaults : SPGMITConfig K} {imuDefaults : E2BoxImuFirmwareConfig K}
    {bindings : List (ActuatorBinding K)} :
    actuatorBindings cpp m platform spgDefaults imuDefaults = .ok bindings ↔
      ReadableImu cpp platform ∧ ∃ configs,
        List.Forall₂ (fun item c => loadActuatorConfig cpp spgDefaults item = .ok c) items configs ∧
        List.Forall₂ (fun c b => bindActuator m c = .ok b) configs bindings := by
  obtain ⟨item, rest, rfl⟩ := List.exists_cons_of_ne_nil hne
  rw [← loadImuConfig_isOk_iff imuDefaults]
  unfold actuatorBindings loadBridgeDeviceConfig buildDefaultActuatorBindings
  rw [hitems]
  constructor
  · intro h
    obtain ⟨deviceConfig, hconfig, h⟩ := bind_eq_ok_iff.mp h
    obtain ⟨configs, hconfigs, hconfig⟩ := bind_eq_ok_iff.mp hconfig
    obtain ⟨imu, himu, hconfig⟩ := bind_eq_ok_iff.mp hconfig
    cases hconfig
    split at h
    · cases h
    obtain ⟨bound, hbound, h⟩ := bind_eq_ok_iff.mp h
    split at h
    · cases h
    cases h
    exact ⟨⟨imu, himu⟩, configs, mapM_eq_ok_iff.mp hconfigs, mapM_eq_ok_iff.mp hbound⟩
  · rintro ⟨⟨imu, himu⟩, configs, hconfigs, hbound⟩
    have hlen := hconfigs.length_eq
    have hlen' := hbound.length_eq
    rw [List.length_cons] at hlen
    have hsome : ¬ configs.isEmpty = true := by
      rw [List.isEmpty_iff_length_eq_zero]
      omega
    have hsome' : ¬ bindings.isEmpty = true := by
      rw [List.isEmpty_iff_length_eq_zero]
      omega
    refine bind_eq_ok_iff.mpr ⟨⟨configs, [imu]⟩, ?_, ?_⟩
    · exact bind_eq_ok_iff.mpr ⟨configs, mapM_eq_ok_iff.mpr hconfigs,
        bind_eq_ok_iff.mpr ⟨imu, himu, rfl⟩⟩
    · rw [if_neg hsome]
      refine bind_eq_ok_iff.mpr ⟨bindings, mapM_eq_ok_iff.mpr hbound, ?_⟩
      rw [if_neg hsome']
      rfl

/-- **The two readers of the actuator list.** For every list the host accepts, with non-zero ids and a
model that has what the entries name: the simulator starts with one binding for each enabled actuator, in
the order and under the ids of the host's `can_ids`, exactly when every entry is enabled and read alike by
both, and the IMU section can be read. -/
theorem bindings_agree_iff (cpp : CppConversions K) (conv : Conversions K) (m : MjNames)
    (platform : Node K) (items : List (Node K))
    (hitems : platform.get? "actuators" = some (.seq items)) (c : PlatformConfig K)
    (haccepted : parseActuators conv (Node.loadItems items) = .ok c.actuators)
    (raw : Mapping K) (motors : MotorConfig) (hmotors : motorConfig c raw = .ok motors)
    (hnonzero : ∀ a ∈ c.actuators, a.canId ≠ 0)
    (hmodel : ∀ item ∈ items, ∀ joint actuator,
      yamlRequire (asString cpp) item "mujoco_joint" = .ok joint →
      yamlRequire (asString cpp) item "mujoco_actuator" = .ok actuator → m.Contains joint actuator)
    (spgDefaults : SPGMITConfig K) (imuDefaults : E2BoxImuFirmwareConfig K) :
    (∃ bindings, actuatorBindings cpp m platform spgDefaults imuDefaults = .ok bindings ∧
        bindings.map boundId = motors.canIds) ↔
      ReadableImu cpp platform ∧ List.Forall₂ (ReadAlike cpp) items c.actuators := by
  have hread := (parseActuators_spec haccepted).1
  have hlen : items.length = c.actuators.length := by
    rw [← hread.length_eq, Node.loadItems_eq_map, List.length_map]
  have hne : items ≠ [] := by
    obtain ⟨a, ha, -⟩ := List.any_eq_true.mp (parseActuators_spec haccepted).2
    rw [← List.length_pos_iff, hlen]
    exact List.length_pos_of_mem ha
  have hids : motors.canIds = c.enabledActuators.map PlatformActuatorConfig.canId := by
    unfold motorConfig at hmotors
    simp only [bind_eq_ok_iff] at hmotors
    obtain ⟨_, -, _, -, _, -, hmotors⟩ := hmotors
    cases hmotors
    rfl
  simp only [actuatorBindings_eq_ok_iff hitems hne]
  constructor
  · rintro ⟨bindings, ⟨himu, configs, hload, hbind⟩, hagree⟩
    refine ⟨himu, ?_⟩
    -- as many bindings as entries leave no entry disabled
    have hcount : c.enabledActuators.length = c.actuators.length := by
      have h := congrArg List.length hagree
      rw [hids, List.length_map, List.length_map] at h
      rw [← h, ← hbind.length_eq, ← hload.length_eq, hlen]
    have hall : ∀ a ∈ c.actuators, a.enabled = true := List.length_filter_eq_length_iff.mp hcount
    have hfilter : c.enabledActuators = c.actuators := List.filter_eq_self.mpr hall
    rw [hids, hfilter] at hagree
    exact readAlike_of_bound hload hbind hall hagree
  · rintro ⟨himu, halike⟩
    obtain ⟨configs, bindings, hload, hbind, hagree⟩ :=
      exists_bindings spgDefaults halike hnonzero hmodel
    refine ⟨bindings, ⟨himu, configs, hload, hbind⟩, ?_⟩
    have hfilter : c.enabledActuators = c.actuators :=
      List.filter_eq_self.mpr (enabled_of_readAlike halike)
    rw [hids, hfilter]
    exact hagree

/-! ## Two legs -/

section Sample

/-- A plain scalar that both readers take for text. -/
def text (s : String) : Node ℚ := .scalar s (.str s)

/-- An entry of the actuator list as the repository writes it. -/
def legEntry (name : String) (enabled : Bool) (canIdText : String) (canId : ℤ) : Node ℚ :=
  .map [(text "name", text name),
    (text "enabled", .scalar (if enabled then "true" else "false") (.bool enabled)),
    (text "can_id", .scalar canIdText (.int canId)),
    (text "mujoco_joint", text name),
    (text "mujoco_actuator", text (name ++ "_motor")),
    (text "sign", .scalar "1.0" (.float (.fin 1))),
    (text "offset_rad", .scalar "0.0" (.float (.fin 0)))]

/-- Two legs, the second one with a switch. -/
def legs (second : Bool) : List (Node ℚ) :=
  [legEntry "FL_HR" true "0x1" 1, legEntry "FL_HP" second "0x02" 2]

def legPlatform (second : Bool) : Node ℚ :=
  .map [(text "actuators", .seq (legs second)), (text "imu", .map [(text "type", text "e2box")])]

def legModel : MjNames where
  joints := [⟨"FL_HR", true, 7, 6⟩, ⟨"FL_HP", true, 8, 7⟩]
  actuators := [⟨"FL_HR_motor", .joint, 0⟩, ⟨"FL_HP_motor", .joint, 1⟩]

/-- What the YAML library makes of the texts of the legs. -/
def legCpp : CppConversions ℚ where
  asBool := fun s => if s = "true" then some true else if s = "false" then some false else none
  asDouble := fun s => if s = "1.0" then some 1 else if s = "0.0" then some 0 else none
  nullText := some "null"

/-- The conversions of text into numbers, none of which the legs need. -/
def legConversions : Conversions ℚ where
  intOfStr := fun _ => .error (.valueError "invalid literal for int()")
  intOfStrAnyBase := fun _ => .error (.valueError "invalid literal for int()")
  floatOfStr := fun _ => .error (.valueError "could not convert string to float")
  strOf := fun _ => ""

/-- The legs as the host keeps them. -/
def legActuators (second : Bool) : List (PlatformActuatorConfig ℚ) :=
  [⟨"FL_HR", true, 1, "FL_HR", "FL_HR_motor", .fin 1, .fin 0⟩,
    ⟨"FL_HP", second, 2, "FL_HP", "FL_HP_motor", .fin 1, .fin 0⟩]

theorem parse_legs (second : Bool) :
    parseActuators legConversions (Node.loadItems (legs second)) = .ok (legActuators second) := by
  cases second <;> rfl

theorem legModel_contains (second : Bool) : ∀ item ∈ legs second, ∀ joint actuator,
    yamlRequire (asString legCpp) item "mujoco_joint" = .ok joint →
    yamlRequire (asString legCpp) item "mujoco_actuator" = .ok actuator →
    legModel.Contains joint actuator := by
  intro item hitem joint actuator hjoint hactuator
  rcases List.mem_cons.mp hitem with rfl | hitem
  · cases hjoint
    cases hactuator
    exact Or.inl ⟨by decide, ⟨0, _, rfl, rfl, rfl⟩, fun _ => by decide, fun h => absurd h (by decide)⟩
  · obtain rfl := List.mem_singleton.mp hitem
    cases hjoint
    cases hactuator
    exact Or.inl ⟨by decide, ⟨1, _, rfl, rfl, rfl⟩, fun _ => by decide, fun h => absurd h (by decide)⟩

/-- The host's configuration with the legs. -/
def legConfig (second : Bool) : PlatformConfig ℚ where
  robotName := "SPARQ"
  robots := []
  can := ⟨"vcan0", 1000000, "/tmp/qhrr_can_daemon.sock"⟩
  shm := ⟨"qhrr_mit_command", "qhrr_aux_command", "qhrr_operator_command", "qhrr_control_state",
    "qhrr_dashboard_state"⟩
  imu := ⟨"e2box", 0x221, 0x2A1, 0x321, 1, 2, 3, .fin 10000, .fin 100, true⟩
  spgMit := ⟨.fin 12.5, .fin 45, .fin 500, .fin 5, .fin 33, .fin 12.56, .fin 2048, .fin 33⟩
  actuators := legActuators second

/-- The section `can.motors`. -/
def motorSection : Mapping ℚ :=
  [(.str "enter_on_start", .bool true), (.str "exit_on_shutdown", .bool true),
    (.str "set_zero_on_start", .bool false)]

/-- With both legs enabled the two readers agree. -/
theorem bindings_agree_both_legs :
    ∃ bindings, actuatorBindings legCpp legModel (legPlatform true) {} {} = .ok bindings ∧
      bindings.map boundId = [1, 2] := by
  refine (bindings_agree_iff legCpp legConversions legModel (legPlatform true) (legs true) rfl
    (legConfig true) (parse_legs true) motorSection ⟨[1, 2], true, true, false⟩ rfl ?_
    (legModel_contains true) {} {}).mpr ⟨?_, ?_⟩
  · decide
  · exact ⟨_, "e2box", rfl, rfl⟩
  · refine .cons ?_ (.cons ?_ .nil)
    · exact ⟨rfl, rfl, ⟨_, rfl⟩, ⟨_, rfl⟩, ⟨_, rfl⟩, ⟨_, rfl, rfl⟩, ⟨_, rfl⟩, ⟨_, rfl⟩⟩
    · exact ⟨rfl, rfl, ⟨_, rfl⟩, ⟨_, rfl⟩, ⟨_, rfl⟩, ⟨_, rfl, rfl⟩, ⟨_, rfl⟩, ⟨_, rfl⟩⟩

/-- With the second leg disabled the host goes on with the first one, and the simulator does not
start. -/
theorem disabled_actuator_refused :
    parseActuators legConversions (Node.loadItems (legs false)) = .ok (legConfig false).actuators ∧
      motorConfig (legConfig false) motorSection = .ok ⟨[1], true, true, false⟩ ∧
      (∀ a ∈ (legConfig false).actuators, a.canId ≠ 0) ∧
      (∀ item ∈ legs false, ∀ joint actuator,
        yamlRequire (asString legCpp) item "mujoco_joint" = .ok joint →
        yamlRequire (asString legCpp) item "mujoco_actuator" = .ok actuator →
        legModel.Contains joint actuator) ∧
      actuatorBindings legCpp legModel (legPlatform false) {} {} =
        .error "[MujocoCanBridge] enabled actuator config did not produce a binding" := by
  refine ⟨parse_legs false, rfl, ?_, legModel_contains false, rfl⟩
  decide

end Sample

end SparqControl.Link
