/-
# SparqControl.Controller.Tick — what one tick does, and runs of ticks.

The case lemma of the control step is `tick_stateMachine`: a tick that does not get past its IMU
request does nothing, every other one enters the mode the transition table gives for the code it
consumed. Invariants over runs are proved from it and from `tick_lastConsumed`, never by unfolding
`tick`. What goes on the bus is stated by address: `framesTo canId` is what one actuator gets.
-/
import SparqControl.Controller.RobotController
import SparqControl.Lib.Trace

namespace SparqControl.Controller

open SparqControl.Hal SparqControl.Hw SparqControl.Shm
open SparqControl.Lib.Trace

section Tick

variable {K : Type} [Field K] [LinearOrder K] [IsStrictOrderedRing K] [FloorRing K]

/-! ## What a tick does -/

/-- The IMU request went through, so the tick reads the operator slot. -/
def readsSlot (cfg : RobotControllerConfig K) (input : TickInput K) : Bool :=
  (sendEach input.daemonAccepts [] (imuRequests cfg)).2.isNone

/-- The operator code a tick consumes. -/
def consumedCode (cfg : RobotControllerConfig K) (s : ControllerState K) (input : TickInput K) :
    Option OperatorCommandCode :=
  if readsSlot cfg input then freshCode s input.operatorShm.readRelaxed else none

/-- The IMU frames of a tick. -/
def sentImuFrames (cfg : RobotControllerConfig K) (input : TickInput K) : List CANFrame :=
  (sendEach input.daemonAccepts [] (imuRequests cfg)).1

/-- The controller right after the state machine was updated, before anything is sent. -/
def updated (s : ControllerState K) (input : TickInput K) : ControllerState K :=
  let consumed := consumeOperatorCommand s input.operatorShm.readRelaxed
  { consumed.1 with stateMachine := consumed.1.stateMachine.update (some consumed.2) input.now }

/-- A tick that does not read the slot changes nothing. -/
theorem tick_of_not_readsSlot {cfg : RobotControllerConfig K} {s : ControllerState K}
    {input : TickInput K} (h : readsSlot cfg input = false) :
    (tick cfg s input).1 = s ∧ (tick cfg s input).2.actuatorFrames = [] ∧
      (tick cfg s input).2.raised ≠ none := by
  unfold readsSlot at h
  unfold tick
  generalize sendEach input.daemonAccepts [] (imuRequests cfg) = r at h
  obtain ⟨sent, raised⟩ := r
  cases raised with
  | none => cases h
  | some e => exact ⟨rfl, rfl, Option.some_ne_none e⟩

/-- A tick that reads the slot consumes, updates, and sends what the new mode asks for. -/
theorem tick_of_readsSlot {cfg : RobotControllerConfig K} {s : ControllerState K}
    {input : TickInput K} (h : readsSlot cfg input = true) :
    tick cfg s input =
      let out := sendForMode cfg input.toTickEnv (sentImuFrames cfg input) (updated s input)
        (consumeOperatorCommand s input.operatorShm.readRelaxed).2
      (out.1, ⟨sentImuFrames cfg input, out.2.1, out.2.2⟩) := by
  unfold readsSlot at h
  unfold tick sentImuFrames
  generalize sendEach input.daemonAccepts [] (imuRequests cfg) = r at h
  obtain ⟨sent, raised⟩ := r
  cases raised with
  | none => rfl
  | some e => cases h

/-- The IMU frames of a tick are those its request put out. -/
theorem tick_imuFrames (cfg : RobotControllerConfig K) (s : ControllerState K)
    (input : TickInput K) : (tick cfg s input).2.imuFrames = sentImuFrames cfg input := by
  unfold tick sentImuFrames
  generalize sendEach input.daemonAccepts [] (imuRequests cfg) = r
  obtain ⟨sent, raised⟩ := r
  cases raised <;> rfl

omit [IsStrictOrderedRing K] [FloorRing K] in
/-- A consumed command is the slot's own record. -/
theorem op_of_consumedCode {cfg : RobotControllerConfig K} {s : ControllerState K}
    {input : TickInput K} {code : OperatorCommandCode} (h : consumedCode cfg s input = some code) :
    (consumeOperatorCommand s input.operatorShm.readRelaxed).2 = input.operatorShm.readRelaxed := by
  refine (consumeOperatorCommand_spec s input.operatorShm.readRelaxed).2.2.2 ?_
  unfold consumedCode at h
  split at h
  · rw [h]
    rfl
  · cases h

/-- Sending never touches the state machine or the deduplication. -/
theorem sendForMode_state (cfg : RobotControllerConfig K) (env : TickEnv K)
    (earlier : List CANFrame) (s : ControllerState K) (op : OperatorCommandC) :
    (sendForMode cfg env earlier s op).1.stateMachine = s.stateMachine ∧
    (sendForMode cfg env earlier s op).1.lastConsumedOperatorTimestampNs =
      s.lastConsumedOperatorTimestampNs := by
  unfold sendForMode
  cases s.stateMachine.mode with
  | disabled => exact ⟨rfl, rfl⟩
  | enabling => exact ⟨rfl, rfl⟩
  | normal =>
      simp only [sendPolicyCommand]
      split <;> exact ⟨rfl, rfl⟩
  | damping => exact ⟨rfl, rfl⟩
  | zeroSetting =>
      simp only [sendZeroSetAll]
      split <;> exact ⟨rfl, rfl⟩
  | estop => exact ⟨rfl, rfl⟩

/-- The enable dwell is over at this tick. -/
def dwellOver (s : ControllerState K) (input : TickInput K) : Bool :=
  decide (s.stateMachine.enableDurationS ≤ input.now - s.stateMachine.modeEnterTime)

omit [IsStrictOrderedRing K] [FloorRing K] in
theorem updated_stateMachine (s : ControllerState K) (input : TickInput K) :
    (updated s input).stateMachine =
      s.stateMachine.enter (ControllerStateMachine.nextMode s.stateMachine.mode
        ((freshCode s input.operatorShm.readRelaxed).getD .none) (dwellOver s input)) input.now := by
  obtain ⟨hsm, hcode, -, -⟩ := consumeOperatorCommand_spec s input.operatorShm.readRelaxed
  simp only [updated]
  rw [hsm, ControllerStateMachine.update_eq_enter, hcode]
  rfl

/-- **One tick of the state machine.** Without the slot nothing happens; with it, the mode of the
table is entered at the tick's clock value. -/
theorem tick_stateMachine (cfg : RobotControllerConfig K) (s : ControllerState K)
    (input : TickInput K) :
    (tick cfg s input).1.stateMachine =
      if readsSlot cfg input then
        s.stateMachine.enter (ControllerStateMachine.nextMode s.stateMachine.mode
          ((consumedCode cfg s input).getD .none) (dwellOver s input)) input.now
      else s.stateMachine := by
  unfold consumedCode
  cases h : readsSlot cfg input with
  | false => rw [(tick_of_not_readsSlot h).1]; rfl
  | true =>
      rw [tick_of_readsSlot h]
      simp only [if_true]
      rw [(sendForMode_state ..).1, updated_stateMachine]

theorem tick_mode (cfg : RobotControllerConfig K) (s : ControllerState K) (input : TickInput K) :
    (tick cfg s input).1.stateMachine.mode =
      if readsSlot cfg input then
        ControllerStateMachine.nextMode s.stateMachine.mode ((consumedCode cfg s input).getD .none)
          (dwellOver s input)
      else s.stateMachine.mode := by
  rw [tick_stateMachine]
  split
  · rw [ControllerStateMachine.enter_mode]
  · rfl

omit [IsStrictOrderedRing K] [FloorRing K] in
/-- A tick that consumes a code has read the slot. -/
theorem readsSlot_of_consumedCode {cfg : RobotControllerConfig K} {s : ControllerState K}
    {input : TickInput K} {code : OperatorCommandCode} (h : consumedCode cfg s input = some code) :
    readsSlot cfg input = true := by
  unfold consumedCode at h
  split at h
  · assumption
  · cases h

/-- The mode after a tick that consumed a code. -/
theorem tick_mode_of_consumedCode {cfg : RobotControllerConfig K} {s : ControllerState K}
    {input : TickInput K} {code : OperatorCommandCode} (h : consumedCode cfg s input = some code) :
    (tick cfg s input).1.stateMachine.mode =
      ControllerStateMachine.nextMode s.stateMachine.mode code (dwellOver s input) := by
  rw [tick_mode, if_pos (readsSlot_of_consumedCode h), h]
  rfl

/-- A tick that changes the mode reads the slot and takes a step of the table. -/
theorem tick_mode_change {cfg : RobotControllerConfig K} {s : ControllerState K}
    {input : TickInput K} (h : s.stateMachine.mode ≠ (tick cfg s input).1.stateMachine.mode) :
    (tick cfg s input).1.stateMachine.mode =
      ControllerStateMachine.nextMode s.stateMachine.mode
        ((consumedCode cfg s input).getD .none) (dwellOver s input) ∧
    (tick cfg s input).1.stateMachine.modeEnterTime = input.now := by
  rw [tick_mode] at h
  rw [tick_mode, tick_stateMachine]
  -- a tick that reads no slot changes nothing, so only the other branch is left
  split
  · rename_i hreads
    rw [if_pos hreads] at h
    exact ⟨rfl, by rw [ControllerStateMachine.enter_modeEnterTime, if_neg h]⟩
  · rename_i hreads
    rw [if_neg hreads] at h
    exact absurd rfl h

/-- A tick that does not change the mode does not move the enter time. -/
theorem tick_modeEnterTime_of_same {cfg : RobotControllerConfig K} {s : ControllerState K}
    {input : TickInput K} (h : (tick cfg s input).1.stateMachine.mode = s.stateMachine.mode) :
    (tick cfg s input).1.stateMachine.modeEnterTime = s.stateMachine.modeEnterTime := by
  rw [tick_mode] at h
  rw [tick_stateMachine]
  split
  · rename_i hreads
    rw [if_pos hreads] at h
    rw [ControllerStateMachine.enter_modeEnterTime, if_pos h.symm]
  · rfl

@[simp] theorem tick_enableDurationS (cfg : RobotControllerConfig K) (s : ControllerState K)
    (input : TickInput K) :
    (tick cfg s input).1.stateMachine.enableDurationS = s.stateMachine.enableDurationS := by
  rw [tick_stateMachine]
  split
  · rw [ControllerStateMachine.enter_enableDurationS]
  · rfl

omit [IsStrictOrderedRing K] [FloorRing K] in
/-- A code that is not `NONE` after the default was consumed. -/
theorem consumedCode_of_getD {cfg : RobotControllerConfig K} {s : ControllerState K}
    {input : TickInput K} {code : OperatorCommandCode} (hcode : code ≠ .none)
    (h : (consumedCode cfg s input).getD .none = code) : consumedCode cfg s input = some code := by
  cases hc : consumedCode cfg s input with
  | none => rw [hc] at h; exact absurd h.symm hcode
  | some c => rw [hc] at h; exact congrArg some h

/-- A tick remembers the timestamp of the command it consumed, and of no other. -/
theorem tick_lastConsumed (cfg : RobotControllerConfig K) (s : ControllerState K)
    (input : TickInput K) :
    (tick cfg s input).1.lastConsumedOperatorTimestampNs =
      if (consumedCode cfg s input).isSome then some input.operatorShm.readRelaxed.timestampNs
      else s.lastConsumedOperatorTimestampNs := by
  unfold consumedCode
  cases h : readsSlot cfg input with
  | false => rw [(tick_of_not_readsSlot h).1]; rfl
  | true =>
      obtain ⟨-, -, hts, -⟩ := consumeOperatorCommand_spec s input.operatorShm.readRelaxed
      rw [tick_of_readsSlot h]
      simp only [if_true]
      rw [(sendForMode_state ..).2, ← hts]
      rfl

/-- The frames of a tick that reads the slot are those of the mode it ends in. -/
theorem tick_out_of_readsSlot {cfg : RobotControllerConfig K} {s : ControllerState K}
    {input : TickInput K} (h : readsSlot cfg input = true) :
    ∃ s' : ControllerState K, s'.stateMachine = (tick cfg s input).1.stateMachine ∧
      (tick cfg s input).2.actuatorFrames =
        (sendForMode cfg input.toTickEnv (sentImuFrames cfg input) s'
          (consumeOperatorCommand s input.operatorShm.readRelaxed).2).2.1 ∧
      (tick cfg s input).2.raised =
        (sendForMode cfg input.toTickEnv (sentImuFrames cfg input) s'
          (consumeOperatorCommand s input.operatorShm.readRelaxed).2).2.2 := by
  refine ⟨updated s input, ?_, ?_, ?_⟩
  · rw [tick_of_readsSlot h]
    exact (sendForMode_state ..).1.symm
  · rw [tick_of_readsSlot h]
  · rw [tick_of_readsSlot h]

/-! ## Runs of ticks -/

/-- One recorded tick. -/
abbrev TickEntry (K : Type) [Field K] [LinearOrder K] :=
  Entry (ControllerState K) (TickInput K) TickOutcome

/-- A recorded run of ticks, each with its own slot content, clock value and environment. -/
def run (cfg : RobotControllerConfig K) (s : ControllerState K) (inputs : List (TickInput K)) :
    List (TickEntry K) :=
  trace (tick cfg) s inputs

/-- The operator code a recorded tick consumed. -/
def consumed (cfg : RobotControllerConfig K) (e : TickEntry K) : Option OperatorCommandCode :=
  consumedCode cfg e.before e.input

/-- The mode a recorded tick ended in. -/
def modeAfter (e : TickEntry K) : ControllerMode := e.after.stateMachine.mode

/-- The CAN sends of a tick are accepted: its IMU request, if it makes one, and every frame to a
configured actuator. -/
def SendsAccepted (cfg : RobotControllerConfig K) (input : TickInput K) : Prop :=
  readsSlot cfg input = true ∧
    ∀ f : CANFrame, f.canId ∈ cfg.canIds → ∀ earlier,
      sendFrame input.daemonAccepts earlier f = .ok ()

end Tick

/-! ## Frames by address -/

/-- The frames addressed to one id. -/
def framesTo (canId : ℤ) (frames : List CANFrame) : List CANFrame :=
  frames.filter fun f => f.canId = canId

/-- One frame for each of several distinct ids: each id gets its own, once. -/
theorem framesTo_map {ids : List ℤ} (hids : ids.Nodup) (payload : ℤ → List UInt8) (canId : ℤ) :
    framesTo canId (ids.map fun k => ⟨k, payload k⟩) =
      if canId ∈ ids then [⟨canId, payload canId⟩] else [] := by
  have hfilter : ids.filter (fun k => k = canId) = List.replicate (ids.count canId) canId :=
    List.filter_eq canId
  rw [framesTo, List.filter_map]
  -- the filter on frames is the filter on their ids
  show List.map _ (ids.filter fun k => k = canId) = _
  rw [hfilter, hids.count]
  split <;> simp

section ToAll

variable {K : Type} [Field K] [LinearOrder K] [IsStrictOrderedRing K]

theorem mem_keys_actuators (cfg : RobotControllerConfig K) (canId : ℤ) :
    canId ∈ cfg.actuators.keys ↔ canId ∈ cfg.canIds :=
  Lib.Dict.mem_keys_tabulate cfg.canIds cfg.spgProtocol canId

/-- A fixed payload to every actuator, as a list over the configured ids. -/
theorem values_map_encode (cfg : RobotControllerConfig K)
    {encode : SPGActuatorProtocol K → CANFrame} {payload : List UInt8}
    (hencode : ∀ p, encode p = ⟨p.commandId, payload⟩) :
    cfg.actuators.values.map encode = cfg.actuators.keys.map fun id => ⟨id, payload⟩ := by
  rw [RobotControllerConfig.actuators, Lib.Dict.values_tabulate, List.map_map]
  apply List.map_congr_left
  intro id _
  exact hencode _

/-- `_send_disable_all` and `_send_enable_all` without an exception: one frame each, no other. -/
theorem sendToAll_framesTo {cfg : RobotControllerConfig K} {env : TickEnv K}
    {earlier : List CANFrame} {s : ControllerState K} {source : OutputSource}
    {encode : SPGActuatorProtocol K → CANFrame} {payload : List UInt8}
    (hencode : ∀ p, encode p = ⟨p.commandId, payload⟩)
    (h : (sendToAll cfg env earlier s source encode).2.2 = none) (canId : ℤ) :
    framesTo canId (sendToAll cfg env earlier s source encode).2.1 =
      if canId ∈ cfg.canIds then [⟨canId, payload⟩] else [] := by
  have hsent := sendEach_eq_of_not_raised h
  show framesTo canId (sendEach env.daemonAccepts earlier _).1 = _
  rw [hsent, values_map_encode cfg hencode, framesTo_map cfg.actuators.keys_nodup fun _ => payload]
  simp only [mem_keys_actuators]

/-- When the frames to configured actuators are accepted, the loop ends without an exception. -/
theorem sendToAll_not_raised {cfg : RobotControllerConfig K} {env : TickEnv K}
    {earlier : List CANFrame} {s : ControllerState K} {source : OutputSource}
    {encode : SPGActuatorProtocol K → CANFrame} {payload : List UInt8}
    (hencode : ∀ p, encode p = ⟨p.commandId, payload⟩)
    (hacc : ∀ f : CANFrame, f.canId ∈ cfg.canIds → ∀ before,
      sendFrame env.daemonAccepts before f = .ok ()) :
    (sendToAll cfg env earlier s source encode).2.2 = none := by
  have hall : ∀ f ∈ cfg.actuators.values.map encode, ∀ before,
      sendFrame env.daemonAccepts before f = .ok () := by
    intro f hf before
    rw [values_map_encode cfg hencode] at hf
    obtain ⟨id, hid, rfl⟩ := List.mem_map.mp hf
    exact hacc _ ((mem_keys_actuators cfg id).mp hid) before
  show (sendEach env.daemonAccepts earlier _).2 = none
  rw [sendEach_accepted hall]

/-- A loop over ids that makes a frame for each configured one and passes over the others. -/
theorem requests_eq (cfg : RobotControllerConfig K) (ids : List ℤ)
    {encode : ℤ → SPGActuatorProtocol K → Except PyError CANFrame} {payload : ℤ → List UInt8}
    (h : ∀ id, encode id (cfg.spgProtocol id) = .ok ⟨id, payload id⟩) :
    (ids.filterMap fun canId => (cfg.actuators.get? canId).map (encode canId)) =
      ((ids.filter fun id => id ∈ cfg.canIds).map fun id =>
        (⟨id, payload id⟩ : CANFrame)).map .ok := by
  induction ids with
  | nil => rfl
  | cons id rest ih =>
      have hget : cfg.actuators.get? id =
          if id ∈ cfg.canIds then some (cfg.spgProtocol id) else none :=
        Lib.Dict.get?_tabulate cfg.canIds cfg.spgProtocol id
      by_cases hid : id ∈ cfg.canIds
      · rw [if_pos hid] at hget
        simp only [List.filterMap_cons, hget, Option.map_some, h, ih, hid, decide_true,
          List.filter_cons_of_pos, List.map_cons]
      · rw [if_neg hid] at hget
        simp only [List.filterMap_cons, hget, Option.map_none, ih, hid, decide_false,
          Bool.false_eq_true, not_false_eq_true, List.filter_cons_of_neg]

omit [LinearOrder K] [IsStrictOrderedRing K] in
/-- Such a loop over distinct ids, when its sends are accepted: one frame to every configured id it
goes through, and nothing else. -/
theorem sendEach_framesTo {cfg : RobotControllerConfig K} {env : TickEnv K}
    {earlier : List CANFrame} {ids : List ℤ} (hids : ids.Nodup) (payload : ℤ → List UInt8)
    (hacc : ∀ f : CANFrame, f.canId ∈ cfg.canIds → ∀ before,
      sendFrame env.daemonAccepts before f = .ok ()) (canId : ℤ) :
    (sendEach env.daemonAccepts earlier (((ids.filter fun id => id ∈ cfg.canIds).map fun id =>
      (⟨id, payload id⟩ : CANFrame)).map .ok)).2 = none ∧
    framesTo canId (sendEach env.daemonAccepts earlier
      (((ids.filter fun id => id ∈ cfg.canIds).map fun id =>
        (⟨id, payload id⟩ : CANFrame)).map .ok)).1 =
      if canId ∈ ids ∧ canId ∈ cfg.canIds then [⟨canId, payload canId⟩] else [] := by
  rw [sendEach_accepted]
  · refine ⟨rfl, ?_⟩
    rw [framesTo_map (hids.filter _)]
    simp only [List.mem_filter, decide_eq_true_eq]
  · intro f hf before
    obtain ⟨id, hid, rfl⟩ := List.mem_map.mp hf
    exact hacc _ (of_decide_eq_true (List.mem_filter.mp hid).2) before

end ToAll

section TickToAll

variable {K : Type} [Field K] [LinearOrder K] [IsStrictOrderedRing K] [FloorRing K]
  {cfg : RobotControllerConfig K} {s : ControllerState K} {input : TickInput K}
  {source : OutputSource} {encode : SPGActuatorProtocol K → CANFrame} {payload : List UInt8}

/-- A tick that ends without an exception in a mode that sends one fixed frame to all: every
configured actuator gets it once, and no other id gets anything. -/
theorem tick_framesTo (hencode : ∀ p, encode p = ⟨p.commandId, payload⟩)
    (hsend : ∀ (env : TickEnv K) earlier (s' : ControllerState K) op,
      s'.stateMachine.mode = (tick cfg s input).1.stateMachine.mode →
        sendForMode cfg env earlier s' op = sendToAll cfg env earlier s' source encode)
    (hraised : (tick cfg s input).2.raised = none) (canId : ℤ) :
    framesTo canId (tick cfg s input).2.actuatorFrames =
      if canId ∈ cfg.canIds then [⟨canId, payload⟩] else [] := by
  -- a tick that did not read the slot would have raised
  have hreads : readsSlot cfg input = true := by
    cases h : readsSlot cfg input with
    | true => rfl
    | false => exact absurd hraised (tick_of_not_readsSlot h).2.2
  obtain ⟨s', hsm, hframes, hraised'⟩ := tick_out_of_readsSlot (s := s) hreads
  rw [hsend _ _ _ _ (by rw [hsm])] at hframes hraised'
  rw [hframes]
  exact sendToAll_framesTo hencode (hraised'.symm.trans hraised) canId

/-- Such a tick ends without an exception when its sends are accepted. -/
theorem tick_not_raised (hencode : ∀ p, encode p = ⟨p.commandId, payload⟩)
    (hsend : ∀ (env : TickEnv K) earlier (s' : ControllerState K) op,
      s'.stateMachine.mode = (tick cfg s input).1.stateMachine.mode →
        sendForMode cfg env earlier s' op = sendToAll cfg env earlier s' source encode)
    (hacc : SendsAccepted cfg input) : (tick cfg s input).2.raised = none := by
  obtain ⟨s', hsm, -, hraised⟩ := tick_out_of_readsSlot (s := s) hacc.1
  rw [hsend _ _ _ _ (by rw [hsm])] at hraised
  exact hraised.trans (sendToAll_not_raised hencode hacc.2)

end TickToAll

/-! ## A two-actuator robot -/

/-- A robot with two actuators, the default ranges and no IMU request. -/
def twoActuatorConfig : RobotControllerConfig ℚ where
  canIds := [0x101, 0x102]
  mitProtocolRange := {}
  iqCountToAmp := 33 / 2048
  velocityDampingKd := 1 / 2
  imuEnabled := false
  imuRequestAllEachTick := false
  imuRequestId := 0x200
  imuCmdGetAll := 1

/-- A controller as constructed, with an enable dwell of two seconds. -/
def freshController : ControllerState ℚ where
  stateMachine := { enableDurationS := 2, enableDuration_nonneg := by norm_num }

/-- A tick environment in which the policy wrote nothing and the daemon takes every frame. -/
def quietEnv (now : ℚ) : TickEnv ℚ where
  now := now
  controlCmd := ⟨0, 0, Vector.replicate _ ⟨0, .fin 0, .fin 0, .fin 0, .fin 0, .fin 0⟩⟩
  daemonAccepts := fun _ _ => true

/-- A tick at `now` that finds `code` in the slot with the given timestamp. -/
def tickOn (now : ℚ) (timeNs : ℤ) (code : OperatorCommandCode) : TickInput ℚ where
  toTickEnv := quietEnv now
  operatorShm := OperatorCommandShm.zeroed.write
    (OperatorCommandShm.builtCommand timeNs code.value 0 [])

theorem sendsAccepted_tickOn (now : ℚ) (timeNs : ℤ) (code : OperatorCommandCode) :
    SendsAccepted twoActuatorConfig (tickOn now timeNs code) := by
  refine ⟨rfl, fun f hf earlier => ?_⟩
  simp only [twoActuatorConfig, List.mem_cons, List.not_mem_nil, or_false] at hf
  have hmask : (canSffMask : ℤ) = 2047 := rfl
  rw [sendFrame, if_neg (by omega)]
  rfl

end SparqControl.Controller
