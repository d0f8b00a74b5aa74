/-
# SparqControl.Controller.RobotController — one control tick, from mailbox to CAN frames.

`tick` is the whole control step: request the IMU, read the operator slot, drop a command that was
already consumed, update the state machine, and send what the resulting mode asks for. A send can
raise; a loop of sends then stops where it stands and the exception leaves the tick, so a tick
returns the frames it got out AND the exception it ended with.

The state kept here is what later ticks read back: the state machine, the two timestamps of the
command deduplication and the recorded output. Telemetry is built from it after the sends and does
not feed back, so it is not part of the tick.
-/
import SparqControl.Controller.StateMachine
import SparqControl.Hal.ProcessTransport
import SparqControl.Hw.DongilcProtocol
import SparqControl.Lib.Dict

namespace SparqControl.Controller

open SparqControl.Hal SparqControl.Hw SparqControl.Shm
open SparqControl.Lib (Dict)

/-! ## Configuration -/

/-- The part of `RobotControllerConfig` and of the robot specification a tick reads. -/
structure RobotControllerConfig (K : Type) [Field K] where
  canIds : List ℤ
  mitProtocolRange : Hw.SPGMITConfig K
  iqCountToAmp : K
  velocityDampingKd : K
  imuEnabled : Bool
  imuRequestAllEachTick : Bool
  imuRequestId : ℤ
  imuCmdGetAll : ℤ

section Config

variable {K : Type} [Field K] [LinearOrder K] [IsStrictOrderedRing K]

/-- The protocol object of one actuator, as `create_spg_actuator_driver` builds it: command and
feedback share the id. -/
def RobotControllerConfig.spgProtocol (cfg : RobotControllerConfig K) (canId : ℤ) :
    SPGActuatorProtocol K where
  commandId := canId
  feedbackId := canId
  mitConfig := cfg.mitProtocolRange
  gearRatio := 1
  feedbackSpeedIsMotorSide := true
  exposeSingleTurnPosition := true
  iqCountToAmp := some cfg.iqCountToAmp
  torqueConstantNmPerA := none
  gearEfficiency := 1
  gearRatio_pos := one_pos

/-- `_create_actuator_drivers`. -/
def RobotControllerConfig.actuators (cfg : RobotControllerConfig K) :
    Dict ℤ (SPGActuatorProtocol K) :=
  Dict.tabulate cfg.canIds cfg.spgProtocol

end Config

/-! ## The control command -/

/-- `MAX_CONTROL_TARGETS`. -/
abbrev maxControlTargets : ℕ := 12

/-- `ControlTargetC`. -/
structure ControlTargetC (K : Type) where
  canId : UInt32
  q : PyFloat K
  dq : PyFloat K
  kp : PyFloat K
  kd : PyFloat K
  tau : PyFloat K

/-- `ControlCommandC`. -/
structure ControlCommandC (K : Type) where
  timestampNs : UInt64
  numTargets : UInt32
  targets : Vector (ControlTargetC K) maxControlTargets

/-- `CommandTargetSnapshot`. -/
structure CommandTargetSnapshot (K : Type) where
  canId : ℤ
  pTargetRad : PyFloat K
  vTargetRadS : PyFloat K
  kp : PyFloat K
  kd : PyFloat K
  tauTargetNm : PyFloat K

/-- The output sources `_record_output_command` is called with. -/
inductive OutputSource where
  | none
  | disable
  | enable
  | zeroSet
  | damping
  | policy
  deriving DecidableEq, Repr

/-! ## Controller state, tick input, tick outcome -/

/-- The part of `RobotController` that one tick leaves for the next. -/
structure ControllerState (K : Type) [Field K] [LinearOrder K] where
  stateMachine : ControllerStateMachine K
  lastConsumedOperatorTimestampNs : Option UInt64 := none
  lastIgnoredOperatorTimestampNs : Option UInt64 := none
  lastOutputSource : OutputSource := .none
  lastOutputTargets : List (CommandTargetSnapshot K) := []

/-- What a tick finds outside the operator slot: the clock, the policy's command, and the CAN
daemon's answer to each frame, which may depend on the frames it took earlier in the tick. -/
structure TickEnv (K : Type) where
  now : K
  controlCmd : ControlCommandC K
  daemonAccepts : List CANFrame → CANFrame → Bool

/-- What a tick finds: its environment and the operator slot. -/
structure TickInput (K : Type) extends TickEnv K where
  operatorShm : OperatorCommandShm

/-- What a tick put on the bus, and how it ended. -/
structure TickOutcome where
  imuFrames : List CANFrame := []
  actuatorFrames : List CANFrame := []
  raised : Option PyError := none

/-! ## Sending -/

/-- A loop of "make a frame, send it": it stops at the first exception of either. -/
def sendEach (daemonAccepts : List CANFrame → CANFrame → Bool) :
    List CANFrame → List (Except PyError CANFrame) → List CANFrame × Option PyError
  | _, [] => ([], none)
  | _, .error e :: _ => ([], some e)
  | earlier, .ok frame :: rest =>
      match sendFrame daemonAccepts earlier frame with
      | .error e => ([], some e)
      | .ok () =>
          let (sent, raised) := sendEach daemonAccepts (earlier ++ [frame]) rest
          (frame :: sent, raised)

/-- What the loop does with its first request: it ends there, or sends the frame and goes on. -/
theorem sendEach_cons (daemonAccepts : List CANFrame → CANFrame → Bool) (earlier : List CANFrame)
    (request : Except PyError CANFrame) (rest : List (Except PyError CANFrame)) :
    (∃ e, sendEach daemonAccepts earlier (request :: rest) = ([], some e)) ∨
      ∃ frame, request = .ok frame ∧ sendEach daemonAccepts earlier (request :: rest) =
        (frame :: (sendEach daemonAccepts (earlier ++ [frame]) rest).1,
          (sendEach daemonAccepts (earlier ++ [frame]) rest).2) := by
  cases request with
  | error e => exact Or.inl ⟨e, rfl⟩
  | ok frame =>
      rw [sendEach]
      cases sendFrame daemonAccepts earlier frame with
      | error e => exact Or.inl ⟨e, rfl⟩
      | ok u => exact Or.inr ⟨frame, rfl, rfl⟩

/-- What is sent was asked for. -/
theorem mem_of_mem_sendEach {daemonAccepts : List CANFrame → CANFrame → Bool}
    {requests : List (Except PyError CANFrame)} {earlier : List CANFrame} {frame : CANFrame}
    (h : frame ∈ (sendEach daemonAccepts earlier requests).1) : .ok frame ∈ requests := by
  -- the accepted frames grow along the loop, so the induction is for all of them
  induction requests generalizing earlier with
  | nil => simp [sendEach] at h
  | cons r rest ih =>
      rcases sendEach_cons daemonAccepts earlier r rest with ⟨e, hstop⟩ | ⟨f, rfl, hsent⟩
      · rw [hstop] at h
        cases h
      · rw [hsent] at h
        rcases List.mem_cons.mp h with rfl | h
        · exact List.mem_cons_self
        · exact List.mem_cons_of_mem _ (ih h)

/-- A loop that ends without an exception sent every frame it asked for, in order. -/
theorem sendEach_eq_of_not_raised {daemonAccepts : List CANFrame → CANFrame → Bool}
    {frames earlier : List CANFrame}
    (h : (sendEach daemonAccepts earlier (frames.map .ok)).2 = none) :
    (sendEach daemonAccepts earlier (frames.map .ok)).1 = frames := by
  induction frames generalizing earlier with
  | nil => rfl
  | cons f rest ih =>
      rw [List.map_cons] at h ⊢
      rcases sendEach_cons daemonAccepts earlier (.ok f) (rest.map .ok) with
        ⟨e, hstop⟩ | ⟨f', hf, hsent⟩
      · rw [hstop] at h
        cases h
      · cases hf
        rw [hsent] at h ⊢
        rw [ih h]

/-- A loop that ends without an exception was asked for frames only. -/
theorem ok_of_not_raised {daemonAccepts : List CANFrame → CANFrame → Bool}
    {requests : List (Except PyError CANFrame)} {earlier : List CANFrame}
    (h : (sendEach daemonAccepts earlier requests).2 = none) :
    ∀ r ∈ requests, ∃ frame, r = .ok frame := by
  induction requests generalizing earlier with
  | nil => simp
  | cons r rest ih =>
      rcases sendEach_cons daemonAccepts earlier r rest with ⟨e, hstop⟩ | ⟨f, rfl, hsent⟩
      · rw [hstop] at h
        cases h
      · rw [hsent] at h
        intro r hr
        rcases List.mem_cons.mp hr with rfl | hr
        · exact ⟨f, rfl⟩
        · exact ih h r hr

/-- Frames that are all accepted are all sent. -/
theorem sendEach_accepted {daemonAccepts : List CANFrame → CANFrame → Bool}
    {frames earlier : List CANFrame}
    (h : ∀ f ∈ frames, ∀ before, sendFrame daemonAccepts before f = .ok ()) :
    sendEach daemonAccepts earlier (frames.map .ok) = (frames, none) := by
  induction frames generalizing earlier with
  | nil => rfl
  | cons f rest ih =>
      simp only [List.map_cons, sendEach, h f List.mem_cons_self]
      rw [ih fun g hg => h g (List.mem_cons_of_mem _ hg)]

/-- A request the loop gets past, asked first. -/
def passes (daemonAccepts : List CANFrame → CANFrame → Bool) : Except PyError CANFrame → Bool
  | .error _ => false
  | .ok frame => (sendFrame daemonAccepts [] frame).isOk

/-- **Where a loop stops.** When each frame is answered the same way whatever went before it, the loop
sends the frames up to the first request that does not go through, and raises there. -/
theorem sendEach_eq_takeWhile {daemonAccepts : List CANFrame → CANFrame → Bool}
    {requests : List (Except PyError CANFrame)}
    (h : ∀ f, .ok f ∈ requests → ∀ before,
      sendFrame daemonAccepts before f = sendFrame daemonAccepts [] f) (earlier : List CANFrame) :
    (sendEach daemonAccepts earlier requests).1 =
        (requests.takeWhile (passes daemonAccepts)).filterMap Except.toOption ∧
      ((sendEach daemonAccepts earlier requests).2 = none ↔
        ∀ r ∈ requests, passes daemonAccepts r = true) := by
  induction requests generalizing earlier with
  | nil => simp [sendEach]
  | cons r rest ih =>
      cases r with
      | error e => simp [sendEach, passes]
      | ok f =>
          obtain ⟨ihsent, ihraised⟩ := ih (fun g hg => h g (List.mem_cons_of_mem _ hg)) (earlier ++ [f])
          have hanswer := h f List.mem_cons_self earlier
          cases hs : sendFrame daemonAccepts [] f with
          | error e =>
              rw [hs] at hanswer
              simp [sendEach, passes, hanswer, hs, Except.isOk, Except.toBool]
          | ok u =>
              rw [hs] at hanswer
              simp [sendEach, passes, hanswer, hs, Except.isOk, Except.toBool, Except.toOption,
                ihsent, ihraised]

/-! ## Command deduplication -/

section Consume

variable {K : Type} [Field K] [LinearOrder K]

/-- The empty command a held one is replaced with. -/
def releasedCommand (timestampNs : UInt64) : OperatorCommandC :=
  { timestampNs := timestampNs, command := UInt32.ofNat OperatorCommandCode.none.value }

@[simp] theorem releasedCommand_code? (timestampNs : UInt64) :
    (releasedCommand timestampNs).code? = some .none := rfl

/-- `_consume_operator_command`: the state it leaves and the command the tick goes on with. A
command that carries the timestamp consumed last is replaced by an empty one. -/
def consumeOperatorCommand (s : ControllerState K) (command : OperatorCommandC) :
    ControllerState K × OperatorCommandC :=
  match command.code? with
  -- an unknown number is passed on as it stands and is no command to the state machine either
  | none => (s, command)
  | some .none => (s, command)
  | some _ =>
      if some command.timestampNs = s.lastConsumedOperatorTimestampNs then
        ({ s with lastIgnoredOperatorTimestampNs := some command.timestampNs },
          releasedCommand command.timestampNs)
      else
        ({ s with
            lastConsumedOperatorTimestampNs := some command.timestampNs
            lastIgnoredOperatorTimestampNs := none }, command)

/-- The code a tick consumes from the slot: a member other than `NONE` whose timestamp is not the
one consumed last. -/
def freshCode (s : ControllerState K) (command : OperatorCommandC) : Option OperatorCommandCode :=
  match command.code? with
  | none => none
  | some .none => none
  | some code =>
      if some command.timestampNs = s.lastConsumedOperatorTimestampNs then none else some code

theorem freshCode_eq_some_iff {s : ControllerState K} {command : OperatorCommandC}
    {code : OperatorCommandCode} :
    freshCode s command = some code ↔
      command.code? = some code ∧ code ≠ .none ∧
        some command.timestampNs ≠ s.lastConsumedOperatorTimestampNs := by
  unfold freshCode
  cases hc : command.code? with
  | none => simp
  | some c =>
      by_cases hts : some command.timestampNs = s.lastConsumedOperatorTimestampNs <;>
        cases c <;> simp [hts] <;> rintro rfl <;> decide

/-- What consuming does, in terms of `freshCode`. -/
theorem consumeOperatorCommand_spec (s : ControllerState K) (command : OperatorCommandC) :
    (consumeOperatorCommand s command).1.stateMachine = s.stateMachine ∧
    ControllerStateMachine.commandCode (some (consumeOperatorCommand s command).2) =
      (freshCode s command).getD .none ∧
    (consumeOperatorCommand s command).1.lastConsumedOperatorTimestampNs =
      (if (freshCode s command).isSome then some command.timestampNs
        else s.lastConsumedOperatorTimestampNs) ∧
    ((freshCode s command).isSome → (consumeOperatorCommand s command).2 = command) := by
  unfold consumeOperatorCommand freshCode
  cases hc : command.code? with
  | none => simp [ControllerStateMachine.commandCode, hc]
  | some code =>
      by_cases hts : some command.timestampNs = s.lastConsumedOperatorTimestampNs <;>
        cases code <;> simp [hts, hc, ControllerStateMachine.commandCode]

end Consume

/-! ## What each mode sends -/

section Send

variable {K : Type} [Field K] [LinearOrder K]

/-- `_record_output_command`. -/
def recordOutputCommand (s : ControllerState K) (source : OutputSource)
    (targets : List (CommandTargetSnapshot K)) : ControllerState K :=
  { s with lastOutputSource := source, lastOutputTargets := targets }

/-- `_zero_set_offsets_by_can_id`. Entries with id 0 are passed over. -/
def zeroSetOffsetsByCanId (command : Option OperatorCommandC) : Except PyError (Dict ℤ ℤ) :=
  match command with
  | none => .ok Dict.empty
  | some c =>
      let count := c.zeroTargetCount.toNat
      -- a plain command has no targets; its magic is not looked at
      if count = 0 then .ok Dict.empty
      else if c.zeroTargetMagic ≠ operatorZeroTargetMagic then
        .error (.runtimeError "Malformed ZERO_SET operator command: invalid zero target magic")
      else if count > operatorZeroTargetCapacity then
        .error (.runtimeError "Malformed ZERO_SET operator command: target count exceeds capacity")
      else
        .ok (Dict.ofList (((c.zeroTargets.toList.take count).filter fun t => t.canId ≠ 0).map
          fun t => ((t.canId.toNat : ℤ), t.offsetCount.toInt)))

variable [IsStrictOrderedRing K] (cfg : RobotControllerConfig K) (env : TickEnv K)
  (earlier : List CANFrame) (s : ControllerState K)

/-- One fixed frame to every actuator, in the order the actuators were configured. -/
def sendToAll (source : OutputSource) (encode : SPGActuatorProtocol K → CANFrame) :
    ControllerState K × List CANFrame × Option PyError :=
  (recordOutputCommand s source [],
    sendEach env.daemonAccepts earlier ((cfg.actuators.values.map encode).map .ok))

/-- `_send_disable_all`. -/
def sendDisableAll : ControllerState K × List CANFrame × Option PyError :=
  sendToAll cfg env earlier s .disable SPGActuatorProtocol.encodeDisableFrame

/-- `_send_enable_all`. -/
def sendEnableAll : ControllerState K × List CANFrame × Option PyError :=
  sendToAll cfg env earlier s .enable SPGActuatorProtocol.encodeEnableFrame

variable [FloorRing K]

/-- `_send_zero_set_all`: the listed actuators, or all of them when no offset is listed; an id that
is not configured is skipped. -/
def sendZeroSetAll (command : Option OperatorCommandC) :
    ControllerState K × List CANFrame × Option PyError :=
  match zeroSetOffsetsByCanId command with
  | .error e => (s, [], some e)
  | .ok offsets =>
      -- an empty dictionary means every actuator, also when only id 0 was listed
      let targetCanIds :=
        if offsets.keys.isEmpty then cfg.actuators.sortedKeys else offsets.sortedKeys
      (recordOutputCommand s .zeroSet [],
        sendEach env.daemonAccepts earlier (targetCanIds.filterMap fun canId =>
          (cfg.actuators.get? canId).map fun actuator =>
            actuator.encodeZeroPositionFrame (((offsets.get? canId).getD 0 : ℤ) * 0.01)))

/-- `_send_damping_all`. -/
def sendDampingAll : ControllerState K × List CANFrame × Option PyError :=
  let kd : PyFloat K := .fin cfg.velocityDampingKd
  (recordOutputCommand s .damping (cfg.actuators.sortedKeys.map fun canId =>
      ⟨canId, .fin 0, .fin 0, .fin 0, kd, .fin 0⟩),
    sendEach env.daemonAccepts earlier (cfg.actuators.sortedKeys.filterMap fun canId =>
      (cfg.actuators.get? canId).map fun actuator =>
        actuator.encodeImpedanceCommandFrame (.fin 0) (.fin 0) (.fin 0) kd (.fin 0)))

/-- `_send_policy_command`: targets with an unknown id are passed over; the output is recorded only
when every send went through. -/
def sendPolicyCommand (cmd : ControlCommandC K) :
    ControllerState K × List CANFrame × Option PyError :=
  -- the count is the writer's word; the array has twelve places
  let n := min cmd.numTargets.toNat maxControlTargets
  let selected : List (CommandTargetSnapshot K × SPGActuatorProtocol K) :=
    (cmd.targets.toList.take n).filterMap fun target =>
      (cfg.actuators.get? target.canId.toNat).map fun actuator =>
        (⟨target.canId.toNat, target.q, target.dq, target.kp, target.kd, target.tau⟩, actuator)
  let result := sendEach env.daemonAccepts earlier (selected.map fun (t, actuator) =>
    actuator.encodeImpedanceCommandFrame t.pTargetRad t.vTargetRadS t.kp t.kd t.tauTargetNm)
  (if result.2.isNone then recordOutputCommand s .policy (selected.map Prod.fst) else s, result)

end Send

/-! ## The tick -/

section Tick

variable {K : Type} [Field K] [LinearOrder K] [IsStrictOrderedRing K] [FloorRing K]

/-- The IMU request of a tick: `bytes([cmd])` refuses a value that is not a byte. -/
def imuRequests (cfg : RobotControllerConfig K) : List (Except PyError CANFrame) :=
  if cfg.imuEnabled && cfg.imuRequestAllEachTick then
    if 0 ≤ cfg.imuCmdGetAll ∧ cfg.imuCmdGetAll ≤ 255 then
      [.ok ⟨cfg.imuRequestId, [UInt8.ofInt cfg.imuCmdGetAll]⟩]
    else [.error (.valueError "bytes must be in range(0, 256)")]
  else []

/-- The frames the mode asks for. -/
def sendForMode (cfg : RobotControllerConfig K) (env : TickEnv K) (earlier : List CANFrame)
    (s : ControllerState K) (op : OperatorCommandC) :
    ControllerState K × List CANFrame × Option PyError :=
  match s.stateMachine.mode with
  | .estop => sendDisableAll cfg env earlier s
  | .disabled => sendDisableAll cfg env earlier s
  | .enabling => sendEnableAll cfg env earlier s
  | .zeroSetting => sendZeroSetAll cfg env earlier s (some op)
  | .damping => sendDampingAll cfg env earlier s
  | .normal => sendPolicyCommand cfg env earlier s env.controlCmd

/-- `tick`. An exception of the IMU request leaves the slot unread. -/
def tick (cfg : RobotControllerConfig K) (s : ControllerState K) (input : TickInput K) :
    ControllerState K × TickOutcome :=
  let (imuFrames, imuRaised) := sendEach input.daemonAccepts [] (imuRequests cfg)
  match imuRaised with
  | some e => (s, { imuFrames := imuFrames, raised := some e })
  | none =>
      -- the mode is updated before anything is sent, so the frames are those of the new mode
      let (s, op) := consumeOperatorCommand s input.operatorShm.readRelaxed
      let s := { s with stateMachine := s.stateMachine.update (some op) input.now }
      let (s, frames, raised) := sendForMode cfg input.toTickEnv imuFrames s op
      (s, { imuFrames := imuFrames, actuatorFrames := frames, raised := raised })

end Tick

end SparqControl.Controller
