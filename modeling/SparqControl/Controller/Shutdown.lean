/-
# SparqControl.Controller.Shutdown — what one failure costs on the way to the safe state.

Two loops lead to the safe state: the disable frames, sent by every tick in DISABLED and ESTOP and once
more by `shutdown`, and the stops of the child processes. Both are left at the first exception.
`shutdown` catches the one of the disable frames and not the one of the stops, so a stop that raises
leaves the CAN transport and the SHM segments open and the state at SHUTTING_DOWN.

`safe_state_iff` says when nothing is missed: no actuator whose send goes through is configured behind
one whose send raises, and no stop raises.
-/
import SparqControl.Controller.Tick
import SparqControl.Lib.Loop

namespace SparqControl.Controller

open SparqControl.Hal SparqControl.Hw SparqControl.Shm
open SparqControl.Lib (Dict)
open SparqControl.Lib.Loop

/-! ## The runtime -/

/-- `RobotControllerState`. -/
inductive RobotControllerState where
  | created | initShm | startCanDaemon | bringupImu | startChildProcesses | running | shuttingDown
  | stopped | error
  deriving DecidableEq

/-- What `_close_runtime` closes before the transport and the segments. -/
inductive RuntimeItem where
  | shmStatePublisher | dashboardPublisher | controlCmdShm | operatorCmdShm
  deriving DecidableEq

/-- The fields of `ProcessConfig` that `stop_all` reads. -/
structure StoppedProcess where
  name : String
  stopOrder : ℤ

/-- What `shutdown` reads of the configuration. -/
structure ShutdownConfig (K : Type) [Field K] where
  controller : RobotControllerConfig K
  processes : List StoppedProcess
  /-- `_segment_names`. -/
  segmentNames : List String
  unlinkOnShutdown : Bool

/-- What `shutdown` changes. `canConnected` is `client is not None`; `openItems` are the items that are
not `None` and not closed; `segments` are the manager's own handles, `linked` the names that exist. -/
structure RuntimeState (K : Type) [Field K] [LinearOrder K] where
  controller : ControllerState K
  controllerState : RobotControllerState
  isRunning : Bool
  canConnected : Bool
  openItems : List RuntimeItem
  segments : List String
  linked : List String

/-- What a call of `shutdown` did on the way: the disable frames the client took, the processes whose
stop was tried, whether the last state was published, and the process whose stop raised. -/
structure ShutdownReport where
  disableFrames : List CANFrame := []
  stopAttempts : List String := []
  published : Bool := false
  raised : Option String := none

section Shutdown

variable {K : Type} [Field K] [LinearOrder K]

/-- `process_configs`. -/
def ShutdownConfig.processConfigs (cfg : ShutdownConfig K) : Dict String StoppedProcess :=
  Dict.ofList (cfg.processes.map fun c => (c.name, c))

/-- The names in the order `stop_all` stops them. -/
def ShutdownConfig.stopNames (cfg : ShutdownConfig K) : List String :=
  (cfg.processConfigs.entries.insertionSort fun a b => a.2.stopOrder ≤ b.2.stopOrder).map Prod.fst

/-- `_close_runtime`. -/
def closeRuntime (s : RuntimeState K) : RuntimeState K :=
  { s with openItems := [], canConnected := false, segments := [] }

/-- `ShmManager.unlink_all`: a name that does not exist is passed over. -/
def unlinkAll (cfg : ShutdownConfig K) (s : RuntimeState K) : RuntimeState K :=
  { s with linked := s.linked.filter fun name => name ∉ cfg.segmentNames }

variable [IsStrictOrderedRing K]

/-- `shutdown`. -/
def shutdown (cfg : ShutdownConfig K) (env : TickEnv K) (stopRaises : String → Bool)
    (s : RuntimeState K) : RuntimeState K × ShutdownReport :=
  if s.controllerState = .stopped then (s, {})
  else
    -- an exception of the disable loop is logged here and goes no further
    let sent := if s.canConnected then sendDisableAll cfg.controller env [] s.controller
      else (s.controller, [], none)
    let s := { s with
      controller := sent.1
      isRunning := false
      controllerState := .shuttingDown }
    match attempts stopRaises cfg.stopNames with
    | (tried, some name) =>
        (s, { disableFrames := sent.2.1, stopAttempts := tried, raised := some name })
    | (tried, none) =>
        let s := closeRuntime s
        let s := if cfg.unlinkOnShutdown then unlinkAll cfg s else s
        ({ s with controllerState := .stopped },
          { disableFrames := sent.2.1, stopAttempts := tried, published := true })

end Shutdown

/-! ## What must not be missed -/

/-- A client whose sends raise for some ids and no others. -/
def answersBy (raises : ℤ → Bool) : List CANFrame → CANFrame → Bool := fun _ frame =>
  !raises frame.canId

/-- The disable frame of an id. -/
def disableFrame (canId : ℤ) : CANFrame :=
  ⟨canId, SPGActuatorProtocol.opcodePayload cmdMitExit⟩

/-- Sending the disable frame of an id does not raise. -/
def disableGoes (raises : ℤ → Bool) (canId : ℤ) : Bool :=
  passes (answersBy raises) (.ok (disableFrame canId))

section Missed

variable {K : Type} [Field K] [LinearOrder K] [IsStrictOrderedRing K]

/-- The disable frame of every actuator whose own send does not raise is among the frames. -/
def DisablesOthers (cfg : RobotControllerConfig K) (raises : ℤ → Bool) (frames : List CANFrame) :
    Prop :=
  ∀ canId ∈ cfg.canIds, disableGoes raises canId = true → disableFrame canId ∈ frames

/-- No actuator whose send goes through is configured behind one whose send raises. -/
def NoneBehindFailure (cfg : RobotControllerConfig K) (raises : ℤ → Bool) : Prop :=
  cfg.actuators.keys.Pairwise fun canId later =>
    disableGoes raises later = true → disableGoes raises canId = true

/-- **A complete shutdown**: the other actuators are told, every stop is tried, transport and segments
are closed (and unlinked if so configured), and the state is STOPPED. -/
structure ShutdownComplete (cfg : ShutdownConfig K) (raises : ℤ → Bool) (s : RuntimeState K)
    (result : RuntimeState K × ShutdownReport) : Prop where
  /-- Without a client there is nobody to hand a frame to. -/
  disabled : s.canConnected = true →
    DisablesOthers cfg.controller raises result.2.disableFrames
  stopped : ∀ c ∈ cfg.processes, c.name ∈ result.2.stopAttempts
  canClosed : result.1.canConnected = false
  shmClosed : result.1.openItems = [] ∧ result.1.segments = []
  unlinked : cfg.unlinkOnShutdown = true → ∀ name ∈ cfg.segmentNames, name ∉ result.1.linked
  state : result.1.controllerState = .stopped

/-- **The disable loop** reaches everybody else exactly when nobody stands behind a failure. -/
theorem disablesOthers_iff {cfg : RobotControllerConfig K} {raises : ℤ → Bool} {env : TickEnv K}
    (henv : env.daemonAccepts = answersBy raises) (earlier : List CANFrame) (s : ControllerState K) :
    DisablesOthers cfg raises (sendDisableAll cfg env earlier s).2.1 ↔ NoneBehindFailure cfg raises := by
  have hframes : cfg.actuators.values.map SPGActuatorProtocol.encodeDisableFrame =
      cfg.actuators.keys.map disableFrame :=
    values_map_encode cfg SPGActuatorProtocol.encodeDisableFrame_eq
  -- the client's answer depends on the id alone
  have hanswer : ∀ f : CANFrame,
      Except.ok f ∈ ((cfg.actuators.keys.map disableFrame).map .ok : List (Except PyError CANFrame)) →
      ∀ before, sendFrame env.daemonAccepts before f = sendFrame env.daemonAccepts [] f := by
    intro f _ before
    rw [henv]
    rfl
  have hsent : (sendDisableAll cfg env earlier s).2.1 =
      (cfg.actuators.keys.takeWhile (disableGoes raises)).map disableFrame := by
    show (sendEach env.daemonAccepts earlier
      ((cfg.actuators.values.map SPGActuatorProtocol.encodeDisableFrame).map .ok)).1 = _
    rw [hframes, (sendEach_eq_takeWhile hanswer earlier).1, henv, List.map_map, List.takeWhile_map,
      List.filterMap_map, ← List.filterMap_eq_map]
    rfl
  have hmem : ∀ canId, disableFrame canId ∈ (sendDisableAll cfg env earlier s).2.1 ↔
      canId ∈ cfg.actuators.keys.takeWhile (disableGoes raises) := by
    intro canId
    rw [hsent]
    exact List.mem_map_of_injective fun a b hab => congrArg CANFrame.canId hab
  unfold DisablesOthers NoneBehindFailure
  rw [← forall_mem_takeWhile_iff cfg.actuators.keys_nodup]
  simp only [hmem, mem_keys_actuators]

omit [LinearOrder K] [IsStrictOrderedRing K] in
/-- `stop_all` stops every configured process. -/
theorem mem_stopNames (cfg : ShutdownConfig K) (name : String) :
    name ∈ cfg.stopNames ↔ ∃ c ∈ cfg.processes, c.name = name := by
  have hsorted := (List.perm_insertionSort (fun a b : String × StoppedProcess =>
    a.2.stopOrder ≤ b.2.stopOrder) cfg.processConfigs.entries).map Prod.fst
  unfold ShutdownConfig.stopNames
  rw [hsorted.mem_iff]
  show name ∈ cfg.processConfigs.keys ↔ _
  rw [ShutdownConfig.processConfigs, Dict.mem_keys_ofList, List.map_map]
  exact List.mem_map

omit [LinearOrder K] [IsStrictOrderedRing K] in
/-- The loop of `stop_all` gets through exactly when no stop raises. -/
theorem stops_eq_none_iff (cfg : ShutdownConfig K) (stopRaises : String → Bool) :
    (attempts stopRaises cfg.stopNames).2 = none ↔
      ∀ c ∈ cfg.processes, stopRaises c.name = false := by
  rw [attempts_eq_none_iff]
  constructor
  · intro hall c hc
    exact hall c.name ((mem_stopNames cfg _).mpr ⟨c, hc, rfl⟩)
  · intro hall name hname
    obtain ⟨c, hc, rfl⟩ := (mem_stopNames cfg name).mp hname
    exact hall c hc

/-- What `shutdown` hands to a connected client, whatever the stops do. -/
theorem shutdown_disableFrames {cfg : ShutdownConfig K} {env : TickEnv K}
    {stopRaises : String → Bool} {s : RuntimeState K} (hs : s.controllerState ≠ .stopped)
    (hcan : s.canConnected = true) :
    (shutdown cfg env stopRaises s).2.disableFrames =
      (sendDisableAll cfg.controller env [] s.controller).2.1 := by
  unfold shutdown
  rw [if_neg hs, hcan]
  cases attempts stopRaises cfg.stopNames with
  | mk tried raised => cases raised <;> rfl

/-- **The stops and what comes after them** go through exactly when none raises. -/
theorem shutdownComplete_iff {cfg : ShutdownConfig K} {raises : ℤ → Bool} {env : TickEnv K}
    (henv : env.daemonAccepts = answersBy raises) {stopRaises : String → Bool} {s : RuntimeState K}
    (hs : s.controllerState ≠ .stopped) :
    ShutdownComplete cfg raises s (shutdown cfg env stopRaises s) ↔
      (s.canConnected = true → NoneBehindFailure cfg.controller raises) ∧
        ∀ c ∈ cfg.processes, stopRaises c.name = false := by
  rw [← stops_eq_none_iff]
  constructor
  · intro hcomplete
    constructor
    · intro hcan
      have hdisabled := hcomplete.disabled hcan
      rw [shutdown_disableFrames hs hcan] at hdisabled
      exact (disablesOthers_iff henv [] s.controller).mp hdisabled
    · -- a stop that raised would have left the state at SHUTTING_DOWN
      by_contra hraised
      have hstate := hcomplete.state
      unfold shutdown at hstate
      rw [if_neg hs] at hstate
      cases hloop : attempts stopRaises cfg.stopNames with
      | mk tried raised =>
          cases raised with
          | none => exact hraised (by rw [hloop])
          | some name =>
              rw [hloop] at hstate
              cases hstate
  · rintro ⟨hdisable, hnone⟩
    have htried := attempts_fst hnone
    have hloop : attempts stopRaises cfg.stopNames = (cfg.stopNames, none) :=
      Prod.ext htried hnone
    refine ⟨?_, ?_, ?_, ?_, ?_, ?_⟩
    · intro hcan
      rw [shutdown_disableFrames hs hcan]
      exact (disablesOthers_iff henv [] s.controller).mpr (hdisable hcan)
    · intro c hc
      simp only [shutdown, if_neg hs, hloop]
      exact (mem_stopNames cfg _).mpr ⟨c, hc, rfl⟩
    · simp only [shutdown, if_neg hs, hloop]
      cases cfg.unlinkOnShutdown <;> rfl
    · simp only [shutdown, if_neg hs, hloop]
      cases cfg.unlinkOnShutdown <;> exact ⟨rfl, rfl⟩
    · intro hunlink name hname
      simp only [shutdown, if_neg hs, hloop, hunlink, if_true, unlinkAll]
      intro hmem
      exact of_decide_eq_true (List.mem_filter.mp hmem).2 hname
    · simp only [shutdown, if_neg hs, hloop]

variable [FloorRing K]

end Missed

/-! ## Two actuators and two processes -/

/-- The two-actuator robot with its daemon and its task controller. -/
def twoProcessConfig : ShutdownConfig ℚ where
  controller := twoActuatorConfig
  processes := [⟨"can_daemon", 100⟩, ⟨"task_controller", 10⟩]
  segmentNames := ["qhrr_mit_command", "qhrr_operator_command"]
  unlinkOnShutdown := true

/-- The runtime while the controller runs. -/
def runningRuntime : RuntimeState ℚ where
  controller := freshController
  controllerState := .running
  isRunning := true
  canConnected := true
  openItems := [.shmStatePublisher, .dashboardPublisher, .controlCmdShm, .operatorCmdShm]
  segments := ["qhrr_mit_command", "qhrr_operator_command"]
  linked := ["qhrr_mit_command", "qhrr_operator_command"]

/-- A tick environment whose sends to one id raise. -/
def failingEnv (canId : ℤ) : TickEnv ℚ :=
  { quietEnv 1 with daemonAccepts := answersBy (· == canId) }

/-- A tick without a command in it. -/
def failingTick (canId : ℤ) : TickInput ℚ where
  toTickEnv := failingEnv canId
  operatorShm := OperatorCommandShm.zeroed

end SparqControl.Controller
