/-
# SparqControl.Controller.SafetyOutputs — which documents keep the safety outputs executable.

A tick in DISABLED, ESTOP, ENABLING or DAMPING is what makes the robot safe, so it must not raise. With
a CAN client that takes every well-formed frame it raises only where a frame cannot be made or has no
standard id, and everything that decides this is in the two documents: `SafeDocuments`.

* `tick_executable` — ONE tick of a safe controller in a safety mode ends without an exception and
  every configured actuator gets its frame; `executable_of_safe` says it of every run;
* `safe_of_executable` — the other way: two single ticks from the start are enough to see whatever is
  missing;
* `safe_iff_safeDocuments` — what "safe" means in the documents, key by key;
* `safe_iff_leftOpen` — what the validation that is not called would leave open.

Nothing between the documents and the encoders excludes the rest: the loader checks kinds, not values.
-/
import SparqControl.Controller.LoadedController

namespace SparqControl.Controller

open SparqControl.Hal SparqControl.Hw SparqControl.Shm
open SparqControl.Lib.Trace

/-! ## Sending to a client that takes every well-formed frame -/

/-- A standard 11-bit CAN id. -/
def IsStandardId (canId : ℤ) : Prop := 0 ≤ canId ∧ canId ≤ canSffMask

/-- The client takes every frame with a standard id and at most eight bytes. -/
def AcceptsWellFormed (daemonAccepts : List CANFrame → CANFrame → Bool) : Prop :=
  ∀ earlier frame, IsStandardId frame.canId → frame.data.length ≤ 8 →
    daemonAccepts earlier frame = true

/-- The request is a frame such a client takes. -/
def Sendable (request : Except PyError CANFrame) : Prop :=
  ∃ frame, request = .ok frame ∧ IsStandardId frame.canId ∧ frame.data.length ≤ 8

theorem sendFrame_of_wellFormed {daemonAccepts : List CANFrame → CANFrame → Bool}
    (hacc : AcceptsWellFormed daemonAccepts) {frame : CANFrame} (hid : IsStandardId frame.canId)
    (hlen : frame.data.length ≤ 8) (earlier : List CANFrame) :
    sendFrame daemonAccepts earlier frame = .ok () := by
  have hnot : ¬ (frame.canId < 0 ∨ frame.canId > canSffMask) := by
    rintro (hlt | hgt)
    · exact absurd hlt (not_lt.mpr hid.1)
    · exact absurd hgt (not_lt.mpr hid.2)
  rw [sendFrame, if_neg hnot, if_pos (hacc earlier frame hid hlen)]

/-- A loop of sendable requests ends without an exception and sends all of them. -/
theorem sendEach_of_sendable {daemonAccepts : List CANFrame → CANFrame → Bool}
    (hacc : AcceptsWellFormed daemonAccepts) {requests : List (Except PyError CANFrame)}
    (hreq : ∀ r ∈ requests, Sendable r) (earlier : List CANFrame) :
    (sendEach daemonAccepts earlier requests).2 = none ∧
      ∀ frame, .ok frame ∈ requests → frame ∈ (sendEach daemonAccepts earlier requests).1 := by
  induction requests generalizing earlier with
  | nil => exact ⟨rfl, fun frame hframe => absurd hframe List.not_mem_nil⟩
  | cons r rest ih =>
      obtain ⟨frame, rfl, hid, hlen⟩ := hreq r List.mem_cons_self
      obtain ⟨hnone, hall⟩ := ih (fun r' hr' => hreq r' (List.mem_cons_of_mem _ hr'))
        (earlier ++ [frame])
      simp only [sendEach, sendFrame_of_wellFormed hacc hid hlen]
      refine ⟨hnone, fun frame' hframe' => ?_⟩
      rcases List.mem_cons.mp hframe' with heq | hframe'
      · rw [Except.ok.inj heq]
        exact List.mem_cons_self
      · exact List.mem_cons_of_mem _ (hall frame' hframe')

/-- A loop that ends without an exception had a frame with a standard id at every request. -/
theorem standard_of_not_raised {daemonAccepts : List CANFrame → CANFrame → Bool}
    {requests : List (Except PyError CANFrame)} {earlier : List CANFrame}
    (h : (sendEach daemonAccepts earlier requests).2 = none) :
    ∀ r ∈ requests, ∃ frame, r = .ok frame ∧ IsStandardId frame.canId := by
  induction requests generalizing earlier with
  | nil => exact fun r hr => absurd hr List.not_mem_nil
  | cons r rest ih =>
      cases r with
      | error e => cases h
      | ok frame =>
          simp only [sendEach] at h
          cases hs : sendFrame daemonAccepts earlier frame with
          | error e =>
              rw [hs] at h
              cases h
          | ok u =>
              rw [hs] at h
              intro r hr
              rcases List.mem_cons.mp hr with rfl | hr
              · exact ⟨frame, rfl, standard_of_sendFrame hs⟩
              · exact ih h r hr

namespace LoadedController

/-! ## Safe controllers -/

/-- The modes whose frames make the robot safe. -/
def safetyModes : List ControllerMode := [.disabled, .estop, .enabling, .damping]

variable {K : Type} [Field K] [LinearOrder K] [FloorRing K]

/-- Everything a tick in a safety mode sends can be made and has a standard id. -/
structure Safe (c : LoadedController K) : Prop where
  canIds : ∀ id ∈ c.canIds, IsStandardId id
  damping : ∃ payload, FloatRange.packMitPayload c.mitConfig (.fin 0) (.fin 0) (.fin 0)
    c.velocityDampingKd (.fin 0) = .ok payload
  imu : c.imuEnabled = true → c.imuRequestAllEachTick = true →
    IsStandardId c.imuRequestId ∧ 0 ≤ c.imuCmdGetAll ∧ c.imuCmdGetAll ≤ 255

/-- A packed payload has eight bytes. -/
theorem length_packMitPayload {cfg : FloatRange.SPGMITConfig K} {p v kp kd t : PyFloat K}
    {payload : List UInt8} (h : FloatRange.packMitPayload cfg p v kp kd t = .ok payload) :
    payload.length = 8 := by
  simp only [FloatRange.packMitPayload, bind_eq_ok_iff] at h
  obtain ⟨-, -, -, -, -, -, -, -, -, -, pU, -, vU, -, kpU, -, kdU, -, tU, -, h⟩ := h
  cases h
  rfl

/-- The IMU request of a safe controller goes through. -/
theorem readsSlot_of_safe {c : LoadedController K} (hc : c.Safe) {input : TickInput K}
    (hacc : AcceptsWellFormed input.daemonAccepts) : readsSlot c.plain input = true := by
  have hreq : ∀ r ∈ imuRequests c.plain, Sendable r := by
    intro r hr
    unfold imuRequests at hr
    split at hr
    · rename_i hon
      obtain ⟨henabled, heach⟩ := Bool.and_eq_true_iff.mp hon
      obtain ⟨hid, hcmd⟩ := hc.imu henabled heach
      change 0 ≤ c.plain.imuCmdGetAll ∧ c.plain.imuCmdGetAll ≤ 255 at hcmd
      rw [if_pos hcmd, List.mem_singleton] at hr
      rw [hr]
      exact ⟨_, rfl, hid, by simp⟩
    · exact absurd hr List.not_mem_nil
  rw [readsSlot, (sendEach_of_sendable hacc hreq []).1]
  rfl

variable [IsStrictOrderedRing K]

/-- No tick of the run in a safety mode raises, and each of them reaches every configured actuator. -/
def SafetyOutputsExecutable (c : LoadedController K) : Prop :=
  ∀ (monotonic : K) (inputs : List (TickInput K)),
    (∀ input ∈ inputs, AcceptsWellFormed input.daemonAccepts) →
    ∀ e ∈ c.run monotonic inputs, modeAfter e ∈ safetyModes →
      e.out.raised = none ∧ ∀ id ∈ c.canIds, ∃ frame ∈ e.out.actuatorFrames, frame.canId = id

variable {c : LoadedController K}

/-- One fixed frame to every actuator of a safe controller. -/
theorem sendToAll_executable (hc : c.Safe) {env : TickEnv K}
    (hacc : AcceptsWellFormed env.daemonAccepts) {encode : SPGActuatorProtocol K → CANFrame}
    {payload : List UInt8} (hencode : ∀ p, encode p = ⟨p.commandId, payload⟩)
    (hlen : payload.length ≤ 8) (earlier : List CANFrame) (s : ControllerState K)
    (source : OutputSource) :
    (sendToAll c.plain env earlier s source encode).2.2 = none ∧
      ∀ id ∈ c.canIds, ∃ frame ∈ (sendToAll c.plain env earlier s source encode).2.1,
        frame.canId = id := by
  have hframes : (c.plain.actuators.values.map encode).map Except.ok =
      (c.plain.actuators.keys.map fun id => (⟨id, payload⟩ : CANFrame)).map
        (Except.ok : CANFrame → Except PyError CANFrame) := by
    rw [values_map_encode c.plain hencode]
  have hreq : ∀ r ∈ (c.plain.actuators.keys.map fun id => (⟨id, payload⟩ : CANFrame)).map
      (Except.ok : CANFrame → Except PyError CANFrame), Sendable r := by
    intro r hr
    obtain ⟨frame, hframe, rfl⟩ := List.mem_map.mp hr
    obtain ⟨id, hid, rfl⟩ := List.mem_map.mp hframe
    exact ⟨_, rfl, hc.canIds id ((mem_keys_actuators c.plain id).mp hid), hlen⟩
  obtain ⟨hnone, hall⟩ := sendEach_of_sendable hacc hreq earlier
  simp only [sendToAll, hframes]
  refine ⟨hnone, fun id hid => ⟨⟨id, payload⟩, hall _ ?_, rfl⟩⟩
  exact List.mem_map_of_mem
    (List.mem_map_of_mem ((mem_keys_actuators c.plain id).mpr hid))

/-- The damping frames of a safe controller. -/
theorem sendDampingAll_executable (hc : c.Safe) {env : TickEnv K}
    (hacc : AcceptsWellFormed env.daemonAccepts) (earlier : List CANFrame) (s : ControllerState K) :
    (c.sendDampingAll env earlier s).2.2 = none ∧
      ∀ id ∈ c.canIds, ∃ frame ∈ (c.sendDampingAll env earlier s).2.1, frame.canId = id := by
  obtain ⟨payload, hpayload⟩ := hc.damping
  have hmem : ∀ id, id ∈ c.plain.actuators.sortedKeys ↔ id ∈ c.canIds := fun id =>
    (Lib.Dict.mem_sortedKeys _ id).trans (mem_keys_actuators c.plain id)
  have hencode : ∀ id, c.encodeImpedanceCommandFrame id (.fin 0) (.fin 0) (.fin 0)
      c.velocityDampingKd (.fin 0) = .ok ⟨id, payload⟩ := by
    intro id
    rw [encodeImpedanceCommandFrame, hpayload]
    rfl
  simp only [sendDampingAll, hencode]
  have hreq : ∀ r ∈ c.plain.actuators.sortedKeys.map fun id =>
      (Except.ok ⟨id, payload⟩ : Except PyError CANFrame), Sendable r := by
    intro r hr
    obtain ⟨id, hid, rfl⟩ := List.mem_map.mp hr
    exact ⟨_, rfl, hc.canIds id ((hmem id).mp hid), (length_packMitPayload hpayload).le⟩
  obtain ⟨hnone, hall⟩ := sendEach_of_sendable hacc hreq earlier
  refine ⟨hnone, fun id hid => ⟨⟨id, payload⟩, hall _ ?_, rfl⟩⟩
  exact List.mem_map_of_mem ((hmem id).mpr hid)

/-- **One tick.** A safe controller's tick in a safety mode ends without an exception and reaches
every configured actuator. -/
theorem tick_executable (hc : c.Safe) {input : TickInput K}
    (hacc : AcceptsWellFormed input.daemonAccepts) (s : ControllerState K)
    (hmode : (c.tick s input).1.stateMachine.mode ∈ safetyModes) :
    (c.tick s input).2.raised = none ∧
      ∀ id ∈ c.canIds, ∃ frame ∈ (c.tick s input).2.actuatorFrames, frame.canId = id := by
  have hreads := readsSlot_of_safe hc hacc
  rw [tick_mode hreads] at hmode
  rw [tick_of_readsSlot hreads]
  unfold sendForMode
  simp only [safetyModes, List.mem_cons, List.not_mem_nil, or_false] at hmode
  rcases hmode with hmode | hmode | hmode | hmode <;> simp only [hmode]
  · exact sendToAll_executable hc hacc SPGActuatorProtocol.encodeDisableFrame_eq (by simp) _ _ _
  · exact sendToAll_executable hc hacc SPGActuatorProtocol.encodeDisableFrame_eq (by simp) _ _ _
  · exact sendToAll_executable hc hacc SPGActuatorProtocol.encodeEnableFrame_eq (by simp) _ _ _
  · exact sendDampingAll_executable hc hacc _ _

/-- Every run of a safe controller. -/
theorem executable_of_safe (hc : c.Safe) : c.SafetyOutputsExecutable := by
  intro monotonic inputs hacc e he hmode
  have hentry := eq_entry_of_mem c.tick he
  have hinput := hacc e.input (input_mem_of_mem c.tick he)
  rw [hentry] at hmode ⊢
  exact tick_executable hc hinput e.before hmode

/-! ## What two ticks show -/

/-- A tick that finds `code` in the slot and a client that takes everything. -/
def probe (code : OperatorCommandCode) : TickInput K where
  now := 0
  controlCmd := ⟨0, 0, Vector.replicate _ ⟨0, .fin 0, .fin 0, .fin 0, .fin 0, .fin 0⟩⟩
  daemonAccepts := fun _ _ => true
  operatorShm := OperatorCommandShm.zeroed.write
    (OperatorCommandShm.builtCommand 1 code.value 0 [])

omit [LinearOrder K] [FloorRing K] [IsStrictOrderedRing K] in
theorem acceptsWellFormed_probe (code : OperatorCommandCode) :
    AcceptsWellFormed (probe (K := K) code).daemonAccepts :=
  fun _ _ _ _ => rfl

omit [FloorRing K] [IsStrictOrderedRing K] in
/-- The first tick on a probe updates the fresh state machine with the probe's code. -/
theorem updated_initial_probe (c : LoadedController K) (monotonic : K) (code : OperatorCommandCode) :
    ∃ passed, (c.updated (c.initial monotonic) (probe code)).stateMachine.mode =
      ControllerStateMachine.nextMode .disabled code passed := by
  have hread : (probe (K := K) code).operatorShm.readRelaxed =
      OperatorCommandShm.builtCommand 1 code.value 0 [] := OperatorCommandShm.readRelaxed_write _ _
  have hcode : (OperatorCommandShm.builtCommand 1 code.value 0 []).code? = some code := by
    cases code <;> rfl
  obtain ⟨hsm, hfresh, -, -⟩ := consumeOperatorCommand_spec (c.initial monotonic)
    (probe (K := K) code).operatorShm.readRelaxed
  have hgetD : (freshCode (c.initial monotonic) (probe (K := K) code).operatorShm.readRelaxed).getD
      .none = code := by
    rw [hread, freshCode, hcode]
    cases code <;> rfl
  simp only [updated, update, ControllerStateMachine.enter_mode]
  rw [hsm, hfresh, hgetD]
  exact ⟨_, rfl⟩

/-- A safety mode the first tick ends in on a probe: the tick does not raise, reads the slot and sends
for that mode. -/
theorem probe_not_raised (h : c.SafetyOutputsExecutable) (code : OperatorCommandCode)
    (mode : ControllerMode) (hmode : mode ∈ safetyModes)
    (hnext : ∀ passed, ControllerStateMachine.nextMode .disabled code passed = mode) :
    readsSlot c.plain (probe code) = true ∧
      ∃ s : ControllerState K, s.stateMachine.mode = mode ∧ ∃ op,
        (c.sendForMode (probe code).toTickEnv (sentImuFrames c.plain (probe code)) s op).2.2 =
          none := by
  have htick := h 0 [probe code] (fun input hinput => by
    rw [List.mem_singleton.mp hinput]
    exact acceptsWellFormed_probe code) _ List.mem_cons_self
  obtain ⟨passed, hupdated⟩ := updated_initial_probe c 0 code
  rw [hnext] at hupdated
  cases hreads : readsSlot c.plain (probe (K := K) code) with
  | false =>
      -- the request raised before the slot was read, in the mode the controller started in
      obtain ⟨hsame, hraised⟩ := tick_of_not_readsSlot (s := c.initial 0) hreads
      refine absurd (htick ?_).1 hraised
      show (c.tick (c.initial 0) (probe code)).1.stateMachine.mode ∈ safetyModes
      rw [hsame]
      exact List.mem_cons_self
  | true =>
      have hnone : (c.tick (c.initial 0) (probe code)).2.raised = none := by
        refine (htick ?_).1
        show (c.tick (c.initial 0) (probe code)).1.stateMachine.mode ∈ safetyModes
        rw [tick_mode hreads, hupdated]
        exact hmode
      rw [tick_of_readsSlot hreads] at hnone
      exact ⟨rfl, _, hupdated, _, hnone⟩

/-- **What a run shows.** A controller with an actuator whose safety outputs are executable is safe:
the tick without a command shows the ids and the IMU request, the tick on DAMPING the payload. -/
theorem safe_of_executable (hne : c.canIds ≠ []) (h : c.SafetyOutputsExecutable) : c.Safe := by
  obtain ⟨hreads, s, hs, op, hdisable⟩ :=
    probe_not_raised h .none .disabled List.mem_cons_self (fun passed => by cases passed <;> rfl)
  obtain ⟨-, s', hs', op', hdamping⟩ :=
    probe_not_raised h .damping .damping (by decide) (fun passed => by cases passed <;> rfl)
  simp only [sendForMode, hs] at hdisable
  simp only [sendForMode, hs'] at hdamping
  refine ⟨fun id hid => ?_, ?_, fun henabled heach => ?_⟩
  · have hmem : (.ok ⟨id, SPGActuatorProtocol.opcodePayload cmdMitExit⟩ : Except PyError CANFrame) ∈
        (c.plain.actuators.values.map SPGActuatorProtocol.encodeDisableFrame).map .ok := by
      rw [values_map_encode c.plain SPGActuatorProtocol.encodeDisableFrame_eq]
      exact List.mem_map_of_mem
        (List.mem_map_of_mem ((mem_keys_actuators c.plain id).mpr hid))
    obtain ⟨frame, hframe, hstandard⟩ := standard_of_not_raised hdisable _ hmem
    cases hframe
    exact hstandard
  · obtain ⟨id, hid⟩ := List.exists_mem_of_ne_nil _ hne
    have hkey : id ∈ c.plain.actuators.sortedKeys :=
      (Lib.Dict.mem_sortedKeys _ id).mpr ((mem_keys_actuators c.plain id).mpr hid)
    obtain ⟨frame, hframe, -⟩ := standard_of_not_raised hdamping _ (List.mem_map_of_mem hkey)
    obtain ⟨payload, hpayload, -⟩ := map_eq_ok_iff.mp hframe
    exact ⟨payload, hpayload⟩
  · have hnone : (sendEach (probe (K := K) .none).daemonAccepts [] (imuRequests c.plain)).2 =
        none := by
      rw [readsSlot] at hreads
      exact Option.isNone_iff_eq_none.mp hreads
    have himu := standard_of_not_raised hnone
    have hon : (c.plain.imuEnabled && c.plain.imuRequestAllEachTick) = true :=
      Bool.and_eq_true_iff.mpr ⟨henabled, heach⟩
    rw [imuRequests, if_pos hon] at himu
    split at himu
    · rename_i hcmd
      obtain ⟨frame, hframe, hstandard⟩ := himu _ List.mem_cons_self
      cases hframe
      exact ⟨hstandard, hcmd⟩
    · obtain ⟨frame, hframe, -⟩ := himu _ List.mem_cons_self
      cases hframe

/-! ## The documents -/

omit [FloorRing K] [IsStrictOrderedRing K] in
/-- What a constructed controller takes from its configuration. -/
theorem construct_spec {config : Config.RobotControllerConfig K}
    (h : construct config = .ok c) :
    c.canIds = config.platform.enabledActuators.map Config.PlatformActuatorConfig.canId ∧
    c.mitConfig = ⟨config.can.mitProtocolRange.positionRad, config.can.mitProtocolRange.velocityRadS,
      config.can.mitProtocolRange.kp, config.can.mitProtocolRange.kd,
      config.can.mitProtocolRange.torqueFfNm⟩ ∧
    c.velocityDampingKd = config.safety.velocityDampingKd ∧
    c.imuEnabled = config.can.imu.enabled ∧
    c.imuRequestAllEachTick = config.can.imu.requestAllEachTick ∧
    c.imuRequestId = config.platform.imu.requestId ∧
    c.imuCmdGetAll = config.platform.imu.cmdGetAll := by
  unfold construct at h
  cases hcount : config.platform.spgMit.iqFullScaleCount.le (.fin 0) <;>
    cases hdwell : config.enableDurationS.lt (.fin 0) <;>
    simp only [hcount, hdwell] at h
  · obtain ⟨ratio, -, h⟩ := bind_eq_ok_iff.mp h
    cases h
    exact ⟨rfl, rfl, rfl, rfl, rfl, rfl, rfl⟩
  · obtain ⟨ratio, -, h⟩ := bind_eq_ok_iff.mp h
    cases h
  · cases h
  · cases h

omit [IsStrictOrderedRing K] in
/-- A controller that was loaded and constructed has an actuator. -/
theorem canIds_ne_nil {conv : Config.Conversions K} {doc platformDoc : Config.Yaml K}
    {config : Config.RobotControllerConfig K}
    (hload : Config.LoadedFrom conv doc platformDoc config) (h : construct config = .ok c) :
    c.canIds ≠ [] := by
  rw [(construct_spec h).1]
  exact fun hnil => hload.platform.anyEnabled (List.map_eq_nil_iff.mp hnil)

omit [FloorRing K] [IsStrictOrderedRing K] in
/-- The constructor looks at two values only. -/
theorem construct_isOk {config : Config.RobotControllerConfig K}
    (hcount : config.platform.spgMit.iqFullScaleCount.le (.fin 0) = false)
    (hdwell : config.enableDurationS.lt (.fin 0) = false) :
    ∃ c, construct config = .ok c := by
  obtain ⟨ratio, hratio⟩ : ∃ ratio, config.platform.spgMit.iqFullScaleCurrentA.div
      config.platform.spgMit.iqFullScaleCount = .ok ratio := by
    cases hscale : config.platform.spgMit.iqFullScaleCount with
    | fin n =>
        rw [hscale] at hcount
        have hn : 0 < n := by simpa [PyFloat.le] using hcount
        simp only [PyFloat.div, if_neg hn.ne']
        split <;> exact ⟨_, rfl⟩
    | inf negative =>
        cases config.platform.spgMit.iqFullScaleCurrentA <;> exact ⟨_, rfl⟩
    | nan =>
        cases config.platform.spgMit.iqFullScaleCurrentA <;> exact ⟨_, rfl⟩
  unfold construct
  simp only [hcount, hdwell, hratio]
  exact ⟨_, rfl⟩

end LoadedController

open FloatRange (maxInt)

section Documents

variable {K : Type} [Field K] [LinearOrder K] [FloorRing K]

/-- A bound within which zero can be encoded: a positive number whose product with the largest code of
the field is still a double. -/
def SafeSpan (bits : ℕ) (bound : Option (PyFloat K)) : Prop :=
  ∃ x, bound = some (.fin x) ∧ 0 < x ∧ x * maxInt bits < overflowBound

/-- The documents keep the safety outputs executable. -/
structure SafeDocuments (conv : Config.Conversions K) (doc platformDoc : Config.Yaml K) : Prop where
  canIds : ∀ id ∈ Config.enabledCanIds conv platformDoc, IsStandardId id
  pMax : SafeSpan 16 (Config.floatAt conv platformDoc ["spg_mit", "p_max_rad"])
  vMax : SafeSpan 12 (Config.floatAt conv platformDoc ["spg_mit", "v_max_rad_s"])
  tauMax : SafeSpan 8 (Config.floatAt conv platformDoc ["spg_mit", "tau_max_nm"])
  kpMax : Config.floatAt conv platformDoc ["spg_mit", "kp_max"] = some (.inf false) ∨
    ∃ x, Config.floatAt conv platformDoc ["spg_mit", "kp_max"] = some (.fin x) ∧ 0 < x
  damping : ∃ k, Config.floatAt conv doc ["safety", "velocity_damping_kd"] = some (.fin k) ∧ 0 ≤ k ∧
    k * maxInt 8 < overflowBound ∧
    (Config.floatAt conv platformDoc ["spg_mit", "kd_max"] = some (.inf false) ∨
      ∃ x, Config.floatAt conv platformDoc ["spg_mit", "kd_max"] = some (.fin x) ∧ 0 < x ∧ k ≤ x)
  imu : Config.boolAt doc ["can", "imu", "enabled"] = some true →
    Config.boolAt doc ["can", "imu", "request_all_each_tick"] = some true →
    (∃ id, Config.intAt conv platformDoc ["imu", "request_id"] = some id ∧ IsStandardId id) ∧
    ∃ cmd, Config.intAt conv platformDoc ["imu", "cmd_get_all"] = some cmd ∧ 0 ≤ cmd ∧ cmd ≤ 255

variable [IsStrictOrderedRing K]

/-- A damping payload can be packed exactly within the documents' conditions on the ranges. -/
theorem damping_isOk_iff (range : FloatRange.SPGMITConfig K) (kd : PyFloat K) :
    (∃ payload, FloatRange.packMitPayload range (.fin 0) (.fin 0) (.fin 0) kd (.fin 0) =
      .ok payload) ↔
      SafeSpan 16 (some range.pMax) ∧ SafeSpan 12 (some range.vMax) ∧
      (range.kpMax = .inf false ∨ ∃ x, range.kpMax = .fin x ∧ 0 < x) ∧
      (∃ k, kd = .fin k ∧ 0 ≤ k ∧ k * maxInt 8 < overflowBound ∧
        (range.kdMax = .inf false ∨ ∃ x, range.kdMax = .fin x ∧ 0 < x ∧ k ≤ x)) ∧
      SafeSpan 8 (some range.tauMax) := by
  rw [FloatRange.packMitPayload_isOk_iff,
    FloatRange.floatToUint_zero_symmetric (by decide) (FloatRange.maxInt_lt_overflowBound le_rfl),
    FloatRange.floatToUint_zero_symmetric (by decide)
      (FloatRange.maxInt_lt_overflowBound (by norm_num)),
    FloatRange.floatToUint_zero_gain,
    FloatRange.floatToUint_gain (by decide) (FloatRange.maxInt_lt_overflowBound (by norm_num)),
    FloatRange.floatToUint_zero_symmetric (by decide)
      (FloatRange.maxInt_lt_overflowBound (by norm_num))]
  simp only [SafeSpan, Option.some.injEq]

/-! ## What validation would leave open -/

/-- A bound is a number whose product with the largest code is still a double. -/
def Moderate (bits : ℕ) (bound : PyFloat K) : Prop :=
  ∃ x, bound = .fin x ∧ x * maxInt bits < overflowBound

/-- What `_validate_config` does not look at, or lets through. -/
structure LeftOpen (config : Config.RobotControllerConfig K) (c : LoadedController K) : Prop where
  canIds : ∀ id ∈ c.canIds, IsStandardId id
  position : Moderate 16 config.can.mitProtocolRange.positionRad
  velocity : Moderate 12 config.can.mitProtocolRange.velocityRadS
  torque : Moderate 8 config.can.mitProtocolRange.torqueFfNm
  kp : config.can.mitProtocolRange.kp ≠ .fin 0 ∧ config.can.mitProtocolRange.kp ≠ .nan
  kd : config.can.mitProtocolRange.kd ≠ .nan
  damping : Moderate 8 config.safety.velocityDampingKd
  imu : c.imuEnabled = true → c.imuRequestAllEachTick = true →
    IsStandardId c.imuRequestId ∧ 0 ≤ c.imuCmdGetAll ∧ c.imuCmdGetAll ≤ 255

omit [FloorRing K] [IsStrictOrderedRing K] in
theorem safeSpan_iff_moderate {bits : ℕ} {bound : PyFloat K} (hpos : bound.le (.fin 0) = false) :
    SafeSpan bits (some bound) ↔ Moderate bits bound := by
  constructor
  · rintro ⟨x, hx, -, hmoderate⟩
    exact ⟨x, Option.some.inj hx, hmoderate⟩
  · rintro ⟨x, rfl, hmoderate⟩
    exact ⟨x, rfl, by simpa [PyFloat.le] using hpos, hmoderate⟩

omit [FloorRing K] [IsStrictOrderedRing K] in
/-- A gain bound that is not negative lets zero through unless it is zero or NaN. -/
theorem positive_iff_of_nonneg {bound : PyFloat K} (hnonneg : bound.lt (.fin 0) = false) :
    (bound = .inf false ∨ ∃ x, bound = .fin x ∧ 0 < x) ↔ bound ≠ .fin 0 ∧ bound ≠ .nan := by
  cases bound with
  | fin x =>
      have hx : 0 ≤ x := by simpa [PyFloat.lt] using hnonneg
      simp [lt_iff_le_and_ne, hx, eq_comm]
  | inf negative =>
      have hpos : negative = false := hnonneg
      simp [hpos]
  | nan => simp

omit [FloorRing K] in
/-- A gain that is not negative and not above its bound, and a bound of at least one half. -/
theorem gain_iff_of_validated {gain bound : PyFloat K} (hnonneg : gain.lt (.fin 0) = false)
    (hwithin : bound.lt gain = false) (hhalf : bound.lt (.fin 0.5) = false) :
    (∃ k, gain = .fin k ∧ 0 ≤ k ∧ k * maxInt 8 < overflowBound ∧
      (bound = .inf false ∨ ∃ x, bound = .fin x ∧ 0 < x ∧ k ≤ x)) ↔
      bound ≠ .nan ∧ Moderate 8 gain := by
  constructor
  · rintro ⟨k, hk, -, hmoderate, hbound⟩
    refine ⟨?_, k, hk, hmoderate⟩
    rcases hbound with hbound | ⟨x, hbound, -⟩ <;> simp [hbound]
  · rintro ⟨hnan, k, rfl, hmoderate⟩
    refine ⟨k, rfl, by simpa [PyFloat.lt] using hnonneg, hmoderate, ?_⟩
    cases bound with
    | fin x =>
        have hx : (0.5 : K) ≤ x := by simpa [PyFloat.lt] using hhalf
        have hpos : (0 : K) < 0.5 := by norm_num
        exact Or.inr ⟨x, rfl, hpos.trans_le hx, by simpa [PyFloat.lt] using hwithin⟩
    | inf negative =>
        have hpos : negative = false := hwithin
        exact Or.inl (by rw [hpos])
    | nan => exact absurd rfl hnan

/-- With `_validate_config` in force the controller would be safe exactly when what the validation
leaves open is in order: among the rest a `kp_max` of zero and every id. -/
theorem safe_iff_leftOpen {config : Config.RobotControllerConfig K} {c : LoadedController K}
    (hvalid : Config.validateConfig config = .ok ())
    (hconstruct : LoadedController.construct config = .ok c) : c.Safe ↔ LeftOpen config c := by
  obtain ⟨-, hrange, hkd, -⟩ := LoadedController.construct_spec hconstruct
  have h := Config.validatedRanges hvalid
  have hpack := damping_isOk_iff c.mitConfig c.velocityDampingKd
  simp only [hrange, hkd, safeSpan_iff_moderate h.position, safeSpan_iff_moderate h.velocity,
    safeSpan_iff_moderate h.torque, positive_iff_of_nonneg h.kp,
    gain_iff_of_validated h.dampingNonneg h.dampingWithin h.kd] at hpack
  constructor
  · rintro ⟨hids, hdamping, himu⟩
    obtain ⟨hp, hv, hkp, ⟨hkdMax, hk⟩, ht⟩ := hpack.mp (by rw [← hkd, ← hrange]; exact hdamping)
    exact ⟨hids, hp, hv, ht, hkp, hkdMax, hk, himu⟩
  · rintro ⟨hids, hp, hv, ht, hkp, hkdMax, hk, himu⟩
    refine ⟨hids, ?_, himu⟩
    rw [hrange, hkd]
    exact hpack.mpr ⟨hp, hv, hkp, ⟨hkdMax, hk⟩, ht⟩

/-! ## The documents decide -/

/-- **Safe, in the documents.** The controller constructed from a loaded configuration is safe exactly
when its documents are. -/
theorem safe_iff_safeDocuments {conv : Config.Conversions K} {doc platformDoc : Config.Yaml K}
    {config : Config.RobotControllerConfig K} {c : LoadedController K}
    (hload : Config.LoadedFrom conv doc platformDoc config)
    (hconstruct : LoadedController.construct config = .ok c) :
    c.Safe ↔ SafeDocuments conv doc platformDoc := by
  obtain ⟨hids, hrange, hkd, henabled, heach, hrequest, hcmd⟩ :=
    LoadedController.construct_spec hconstruct
  have hdamping := damping_isOk_iff c.mitConfig c.velocityDampingKd
  rw [hload.mitProtocolRange] at hrange
  rw [hrange, hkd] at hdamping
  simp only [Config.mitProtocolRange] at hdamping hrange
  constructor
  · intro hc
    obtain ⟨hp, hv, hkp, hk, ht⟩ := hdamping.mp (by rw [← hkd, ← hrange]; exact hc.damping)
    refine ⟨?_, ?_, ?_, ?_, ?_, ?_, ?_⟩
    · rw [← hload.platform.canIds, ← hids]
      exact hc.canIds
    · rw [hload.platform.pMaxRad]
      exact hp
    · rw [hload.platform.vMaxRadS]
      exact hv
    · rw [hload.platform.tauMaxNm]
      exact ht
    · rw [hload.platform.kpMax]
      simpa only [Option.some.injEq] using hkp
    · rw [hload.velocityDampingKd, hload.platform.kdMax]
      simpa only [Option.some.injEq] using hk
    · intro hon htick
      rw [hload.imuEnabled, Option.some.injEq] at hon
      rw [hload.imuRequestAllEachTick, Option.some.injEq] at htick
      obtain ⟨hid, hbyte⟩ := hc.imu (henabled.trans hon) (heach.trans htick)
      exact ⟨⟨_, hload.platform.requestId, hrequest ▸ hid⟩,
        ⟨_, hload.platform.cmdGetAll, hcmd ▸ hbyte⟩⟩
  · intro hdocs
    refine ⟨?_, ?_, ?_⟩
    · rw [hids, hload.platform.canIds]
      exact hdocs.canIds
    · rw [hrange, hkd]
      refine hdamping.mpr ⟨?_, ?_, ?_, ?_, ?_⟩
      · rw [← hload.platform.pMaxRad]
        exact hdocs.pMax
      · rw [← hload.platform.vMaxRadS]
        exact hdocs.vMax
      · have hkp := hdocs.kpMax
        rw [hload.platform.kpMax] at hkp
        simpa only [Option.some.injEq] using hkp
      · have hk := hdocs.damping
        rw [hload.velocityDampingKd, hload.platform.kdMax] at hk
        simpa only [Option.some.injEq] using hk
      · rw [← hload.platform.tauMaxNm]
        exact hdocs.tauMax
    · intro hon htick
      obtain ⟨⟨id, hid, hstandard⟩, byte, hbyte, hrange'⟩ := hdocs.imu
        (by rw [hload.imuEnabled, ← henabled, hon])
        (by rw [hload.imuRequestAllEachTick, ← heach, htick])
      rw [hload.platform.requestId, Option.some.injEq] at hid
      rw [hload.platform.cmdGetAll, Option.some.injEq] at hbyte
      rw [hrequest, hcmd, hid, hbyte]
      exact ⟨hstandard, hrange'⟩

/-- **Safety outputs.** A controller constructed from a loaded configuration keeps its safety outputs
executable in every run exactly when the two documents are safe. -/
theorem executable_iff_safeDocuments {conv : Config.Conversions K} {files : Config.Files K}
    {path : String} {doc platformDoc : Config.Yaml K} {config : Config.RobotControllerConfig K}
    {c : LoadedController K} (hdocs : Config.DocumentPair conv files path doc platformDoc)
    (hload : Config.loadRobotControllerConfig conv files path = .ok config)
    (hconstruct : LoadedController.construct config = .ok c) :
    c.SafetyOutputsExecutable ↔ SafeDocuments conv doc platformDoc := by
  have hfrom := Config.loadRobotControllerConfig_spec hdocs hload
  have hne : c.canIds ≠ [] := LoadedController.canIds_ne_nil hfrom hconstruct
  rw [← safe_iff_safeDocuments hfrom hconstruct]
  exact ⟨LoadedController.safe_of_executable hne, LoadedController.executable_of_safe⟩

end Documents

/-! ## The repository's documents -/

section Sample

open SparqControl.Config (Yaml)

/-- A mapping with text keys. -/
def mapping (fields : List (String × Yaml ℚ)) : Yaml ℚ :=
  .map (fields.map fun field => (.str field.1, field.2))

def number (x : ℚ) : Yaml ℚ := .float (.fin x)

def actuatorEntry (name : String) (canId : ℤ) : Yaml ℚ :=
  mapping [("name", .str name), ("enabled", .bool true), ("can_id", .int canId),
    ("mujoco_joint", .str name), ("mujoco_actuator", .str (name ++ "_motor")), ("sign", number 1),
    ("offset_rad", number 0)]

/-- `platform.yaml` with its first two actuators and a given `kp_max`. -/
def samplePlatform (kpMax : ℚ) : Yaml ℚ :=
  mapping [
    ("robot", mapping [("name", .str "SPARQ")]),
    ("robots", mapping [("SPARQ", mapping [
      ("model_path", .str "third_party/mujoco/model/SPARQ/sparq_environment.xml"),
      ("policy_config_dir", .str "config/policy_config/SPARQ"),
      ("pd_config_path", .str "config/policy_config/SPARQ/SPARQ/pd_config.yaml")])]),
    ("can", mapping [("interface", .str "vcan0"), ("bitrate", .int 1000000),
      ("daemon_socket", .str "/tmp/qhrr_can_daemon.sock")]),
    ("shm", mapping [("mit_command", .str "qhrr_mit_command"),
      ("aux_command", .str "qhrr_aux_command"), ("operator_command", .str "qhrr_operator_command"),
      ("control_state", .str "qhrr_control_state"),
      ("dashboard_state", .str "qhrr_dashboard_state")]),
    ("imu", mapping [("type", .str "e2box"), ("request_id", .int 0x221), ("quat_id", .int 0x2A1),
      ("gyro_id", .int 0x321), ("cmd_get_quat", .int 1), ("cmd_get_gyro", .int 2),
      ("cmd_get_all", .int 3), ("quat_scale", number 10000), ("gyro_scale", number 100),
      ("normalize_quat", .bool true)]),
    ("spg_mit", mapping [("p_max_rad", number 12.5), ("v_max_rad_s", number 45),
      ("kp_max", number kpMax), ("kd_max", number 5), ("tau_max_nm", number 33),
      ("feedback_position_max_rad", number 12.56), ("iq_full_scale_count", number 2048),
      ("iq_full_scale_current_a", number 33)]),
    ("actuators", .seq [actuatorEntry "FL_HR" 0x1, actuatorEntry "FL_HP" 0x2])]

/-- `robot_controller.yaml`. -/
def sampleController : Yaml ℚ :=
  mapping [
    ("platform_config", .str "platform.yaml"),
    ("processes_config", .str "processes.yaml"),
    ("runtime", mapping [("mode", .str "simulation")]),
    ("hardware", mapping [("allow_real_can", .bool true), ("require_manual_arm", .bool true),
      ("require_estop", .bool true), ("allow_enable_on_start", .bool false),
      ("allowed_can_interfaces", .seq [.str "vcan0", .str "can0"])]),
    ("safety", mapping [("velocity_damping_kd", number 0.5), ("damping_timeout_s", number 1),
      ("command_loss_action", .str "damping"), ("feedback_stale_action", .str "fault")]),
    ("state_machine", mapping [("enable_duration_s", number 0.5)]),
    ("robot_controller", mapping [("name", .str "qhrr_robot_controller"),
      ("control_hz", number 500), ("shutdown_timeout_s", number 2)]),
    ("shm", mapping [("cleanup_stale_on_start", .bool true), ("unlink_on_shutdown", .bool true),
      ("aux_command", mapping [("size_bytes", .int 4096), ("publish_hz", number 100)]),
      ("operator_command", mapping [("size_bytes", .int 4096)]),
      ("control_state", mapping [("size_bytes", .int 16384), ("publish_hz", number 500)]),
      ("dashboard_state", mapping [("size_bytes", .int 65536), ("publish_hz", number 10)])]),
    ("can", mapping [("command_timeout_s", number 0.05), ("bringup_delay_s", number 0.1),
      ("daemon", mapping [("rx_timeout_s", number 0.001), ("tx_timeout_s", number 0.001),
        ("join_timeout_s", number 1), ("max_tx_queue_size", .int 4096), ("send_block", .bool false),
        ("send_timeout_s", .null), ("connect_timeout_s", number 5)]),
      ("motors", mapping [("enter_on_start", .bool false), ("exit_on_shutdown", .bool true),
        ("set_zero_on_start", .bool false)]),
      ("imu", mapping [("enabled", .bool true), ("request_all_on_start", .bool true),
        ("request_all_each_tick", .bool true), ("startup_request_count", .int 3),
        ("startup_request_delay_s", number 0.01)])])]

/-- The sample documents and an empty process list, read by name. -/
def sampleFiles (kpMax : ℚ) : Config.Files ℚ where
  read := fun path =>
    if path = "robot_controller.yaml" then .ok sampleController
    else if path = "platform.yaml" then .ok (samplePlatform kpMax)
    else if path = "processes.yaml" then .ok (mapping [("processes", .seq [])])
    else .error .osError
  resolve := fun _ value => value

/-- The conversions of text, none of which the sample documents need. -/
def sampleConversions : Config.Conversions ℚ where
  intOfStr := fun _ => .error (.valueError "invalid literal for int()")
  intOfStrAnyBase := fun _ => .error (.valueError "invalid literal for int()")
  floatOfStr := fun _ => .error (.valueError "could not convert string to float")
  strOf := fun _ => ""

theorem sample_documents (kpMax : ℚ) :
    Config.DocumentPair sampleConversions (sampleFiles kpMax) "robot_controller.yaml"
      sampleController (samplePlatform kpMax) :=
  ⟨rfl, _, rfl, rfl⟩

/-- The sample documents load, whatever `kp_max` is, and the controller can be constructed. -/
theorem sample_loads (kpMax : ℚ) : ∃ config c,
    Config.loadRobotControllerConfig sampleConversions (sampleFiles kpMax) "robot_controller.yaml" =
      .ok config ∧ LoadedController.construct config = .ok c := by
  obtain ⟨config, hload, hcount, hdwell⟩ : ∃ config,
      Config.loadRobotControllerConfig sampleConversions (sampleFiles kpMax)
        "robot_controller.yaml" = .ok config ∧
      config.platform.spgMit.iqFullScaleCount = .fin 2048 ∧
      config.enableDurationS = .fin 0.5 := ⟨_, rfl, rfl, rfl⟩
  have hc : ∃ c, LoadedController.construct config = .ok c :=
    LoadedController.construct_isOk (by rw [hcount]; decide) (by rw [hdwell]; decide +kernel)
  obtain ⟨c, hc⟩ := hc
  exact ⟨config, c, hload, hc⟩

/-- Numbers of everyday size do not overflow. -/
theorem lt_overflowBound_of_le {x : ℚ} (hx : x ≤ 2 ^ 53) : x < (overflowBound : ℚ) := by
  calc x ≤ 2 ^ 53 := hx
    _ < ((2 ^ 54 - 1 : ℕ) : ℚ) := by norm_num
    _ ≤ overflowBound := Nat.cast_le.mpr le_overflowBound

/-- The documents are safe as the repository has them. -/
theorem sample_safe : SafeDocuments sampleConversions sampleController (samplePlatform 500) where
  canIds := by
    intro id hid
    have hids : Config.enabledCanIds sampleConversions (samplePlatform 500) = [1, 2] := rfl
    rw [hids, List.mem_cons, List.mem_singleton] at hid
    rcases hid with rfl | rfl <;> exact ⟨by decide, by decide⟩
  pMax := ⟨12.5, rfl, by norm_num, lt_overflowBound_of_le (by norm_num [maxInt, Nat.one_shiftLeft])⟩
  vMax := ⟨45, rfl, by norm_num, lt_overflowBound_of_le (by norm_num [maxInt, Nat.one_shiftLeft])⟩
  tauMax := ⟨33, rfl, by norm_num, lt_overflowBound_of_le (by norm_num [maxInt, Nat.one_shiftLeft])⟩
  kpMax := Or.inr ⟨500, rfl, by norm_num⟩
  damping := ⟨0.5, rfl, by norm_num, lt_overflowBound_of_le (by norm_num [maxInt, Nat.one_shiftLeft]),
    Or.inr ⟨5, rfl, by norm_num, by norm_num⟩⟩
  imu := fun _ _ => ⟨⟨0x221, rfl, by decide, by decide⟩, ⟨3, rfl, by decide, by decide⟩⟩

theorem executable_sample : ∃ config c,
    Config.loadRobotControllerConfig sampleConversions (sampleFiles 500) "robot_controller.yaml" =
      .ok config ∧ LoadedController.construct config = .ok c ∧ c.SafetyOutputsExecutable := by
  obtain ⟨config, c, hload, hconstruct⟩ := sample_loads 500
  exact ⟨config, c, hload, hconstruct,
    (executable_iff_safeDocuments (sample_documents 500) hload hconstruct).mpr sample_safe⟩

/-- With `kp_max: 0.0` the documents load and the controller is constructed, and a tick on DAMPING
divides by zero. -/
theorem zero_kpMax_loads : ¬ ∀ (conv : Config.Conversions ℚ) (files : Config.Files ℚ) (path : String)
    (config : Config.RobotControllerConfig ℚ) (c : LoadedController ℚ),
    Config.loadRobotControllerConfig conv files path = .ok config →
    LoadedController.construct config = .ok c → c.SafetyOutputsExecutable := by
  intro h
  obtain ⟨config, c, hload, hconstruct⟩ := sample_loads 0
  have hfrom := Config.loadRobotControllerConfig_spec (sample_documents 0) hload
  have hexec := h _ _ _ config c hload hconstruct
  have hne : c.canIds ≠ [] := LoadedController.canIds_ne_nil hfrom hconstruct
  have hsafe := (safe_iff_safeDocuments hfrom hconstruct).mp
    (LoadedController.safe_of_executable hne hexec)
  have hkp : Config.floatAt sampleConversions (samplePlatform 0) ["spg_mit", "kp_max"] =
      some (.fin 0) := rfl
  rcases hsafe.kpMax with hinf | ⟨x, hx, hpos⟩
  · rw [hkp] at hinf
    cases hinf
  · rw [hkp] at hx
    cases hx
    exact absurd hpos (lt_irrefl 0)

end Sample

end SparqControl.Controller
