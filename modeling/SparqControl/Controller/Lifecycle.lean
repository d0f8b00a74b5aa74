/-
# SparqControl.Controller.Lifecycle — `main`: start, run, and the way down from anywhere.

`start` acquires in a fixed order: the segments, the handles on them, the CAN daemon and the connection
to it, the child processes. Any step can raise. It then marks the controller ERROR, calls `shutdown` and
raises again; `main` calls `shutdown` once more on every way out, and that call does nothing after one
that got to its end. The two together make up for one failed round of stops, never for two.

`main_releases` is the account over every pattern of failures: when `main` ends STOPPED nothing is held
any more, it ends so exactly when the last round of stops that was made got through, ticks are only made
with everything up, and a controller that was ever connected does not end without a disable round.
-/
import SparqControl.Controller.RunLoop
import SparqControl.Controller.Shutdown

namespace SparqControl.Controller

open SparqControl.Hal SparqControl.Hw SparqControl.Shm
open SparqControl.Lib (Dict)
open SparqControl.Lib.Loop
open SparqControl.Lib.Pacer (Schedule)

/-! ## Starting -/

/-- What `start` reads besides what `shutdown` does. -/
structure LifecycleConfig (K : Type) [Field K] extends ShutdownConfig K where
  cleanupStaleOnStart : Bool
  controlHz : K
  imuRequestAllOnStart : Bool
  imuStartupRequestCount : ℤ

/-- A step of `start` that can raise. -/
inductive StartStep where
  | cleanup (name : String)
  | create (name : String)
  | openItem (item : RuntimeItem)
  | startCanDaemon
  | connect
  | bringupImu
  | startAll
  | publish
  deriving DecidableEq

/-- The state `start` announces before a step. -/
def StartStep.stage : StartStep → RobotControllerState
  | .cleanup _ | .create _ | .openItem _ => .initShm
  | .startCanDaemon | .connect => .startCanDaemon
  | .bringupImu => .bringupImu
  | .startAll => .startChildProcesses
  | .publish => .running

section Start

variable {K : Type} [Field K] [LinearOrder K]

/-- The steps of `start` in their order. -/
def startSteps (cfg : LifecycleConfig K) : List StartStep :=
  (if cfg.cleanupStaleOnStart then cfg.segmentNames.map .cleanup else []) ++
    cfg.segmentNames.map .create ++
    [.openItem .controlCmdShm, .openItem .operatorCmdShm, .openItem .shmStatePublisher,
      .openItem .dashboardPublisher, .startCanDaemon, .connect, .bringupImu, .startAll, .publish]

/-- The frames `_bringup_imu` sends. -/
def startupRequests (cfg : LifecycleConfig K) : List (Except PyError CANFrame) :=
  if cfg.controller.imuEnabled && cfg.imuRequestAllOnStart then
    List.replicate cfg.imuStartupRequestCount.toNat
      (if 0 ≤ cfg.controller.imuCmdGetAll ∧ cfg.controller.imuCmdGetAll ≤ 255 then
        .ok ⟨cfg.controller.imuRequestId, [UInt8.ofInt cfg.controller.imuCmdGetAll]⟩
      else .error (.valueError "bytes must be in range(0, 256)"))
  else []

/-- One step: the state after it, the frames it sent, and whether it raised. A segment that exists is
not created again; what else may raise is for the outside to say. -/
def attemptStep (cfg : LifecycleConfig K) (fails : StartStep → Bool)
    (daemonAccepts : List CANFrame → CANFrame → Bool) (s : RuntimeState K) (step : StartStep) :
    RuntimeState K × List CANFrame × Bool :=
  let s := { s with controllerState := step.stage }
  match step with
  | .cleanup name =>
      if fails step then (s, [], true)
      else ({ s with linked := s.linked.filter fun other => other ≠ name }, [], false)
  | .create name =>
      if name ∈ s.linked ∨ fails step = true then (s, [], true)
      else ({ s with linked := s.linked ++ [name], segments := s.segments ++ [name] }, [], false)
  | .openItem item =>
      if fails step then (s, [], true) else ({ s with openItems := s.openItems ++ [item] }, [], false)
  -- the client is kept before it connects, so a failed connection still counts as one
  | .connect => ({ s with canConnected := true }, [], fails step)
  | .bringupImu =>
      let sent := sendEach daemonAccepts [] (startupRequests cfg)
      (s, sent.1, sent.2.isSome)
  -- the flag is raised before the first state is published
  | .publish => ({ s with isRunning := true }, [], fails step)
  | .startCanDaemon | .startAll => (s, [], fails step)

/-- The steps one after the other, up to the first that raises. -/
def attemptAll (cfg : LifecycleConfig K) (fails : StartStep → Bool)
    (daemonAccepts : List CANFrame → CANFrame → Bool) :
    RuntimeState K → List StartStep → RuntimeState K × List CANFrame × Bool
  | s, [] => (s, [], false)
  | s, step :: steps =>
      let first := attemptStep cfg fails daemonAccepts s step
      if first.2.2 then first
      else
        let rest := attemptAll cfg fails daemonAccepts first.1 steps
        (rest.1, first.2.1 ++ rest.2.1, rest.2.2)

/-- A controller that has just been constructed, in a system where some segments exist. -/
def createdRuntime (controller : ControllerState K) (linked : List String) : RuntimeState K where
  controller := controller
  controllerState := .created
  isRunning := false
  canConnected := false
  openItems := []
  segments := []
  linked := linked

/-! ## `main` -/

/-- What `main` meets: failures of the start steps, the client's answers, the passes of the loop, and for
each of the two shutdowns its environment and the stops that raise. -/
structure MainInputs (K : Type) [Field K] [LinearOrder K] where
  fails : StartStep → Bool
  daemonAccepts : List CANFrame → CANFrame → Bool
  entered : K
  passes : List (LoopPass K)
  handlerEnv : TickEnv K
  handlerStopRaises : String → Bool
  finalEnv : TickEnv K
  finalStopRaises : String → Bool

/-- What `main` left and did. -/
structure MainOutcome (K : Type) [Field K] [LinearOrder K] where
  state : RuntimeState K
  /-- The runtime right after the last step of `start`, before any shutdown. -/
  started : RuntimeState K
  startRaised : Bool
  startFrames : List CANFrame
  ticks : List (LoopTick K)
  reports : List ShutdownReport

variable [IsStrictOrderedRing K] [FloorRing K]

/-- `main` when `start` raised: its handler shuts down, then the `finally` of `main` does. -/
def mainAfterFailure (cfg : LifecycleConfig K) (inputs : MainInputs K) (started : RuntimeState K)
    (startFrames : List CANFrame) : MainOutcome K :=
  let first := shutdown cfg.toShutdownConfig inputs.handlerEnv inputs.handlerStopRaises
    { started with controllerState := .error }
  let last := shutdown cfg.toShutdownConfig inputs.finalEnv inputs.finalStopRaises first.1
  ⟨last.1, started, true, startFrames, [], [first.2, last.2]⟩

/-- `main` when `start` returned: it runs, and the `finally` shuts down. -/
def mainAfterStart (cfg : LifecycleConfig K) (inputs : MainInputs K) (started : RuntimeState K)
    (startFrames : List CANFrame) : MainOutcome K :=
  let ticks := runLoop cfg.controller cfg.controlHz inputs.entered started.controller inputs.passes
  let controller := (ticks.getLast?.map LoopTick.after).getD started.controller
  let last := shutdown cfg.toShutdownConfig inputs.finalEnv inputs.finalStopRaises
    { started with controller := controller }
  ⟨last.1, started, false, startFrames, ticks, [last.2]⟩

/-- `main` from the constructed controller on. -/
def main (cfg : LifecycleConfig K) (inputs : MainInputs K) (s : RuntimeState K) : MainOutcome K :=
  let (started, startFrames, raised) :=
    attemptAll cfg inputs.fails inputs.daemonAccepts s (startSteps cfg)
  if raised then mainAfterFailure cfg inputs started startFrames
  else mainAfterStart cfg inputs started startFrames

end Start

/-! ## The way up -/

section Up

variable {K : Type} [Field K] [LinearOrder K] {cfg : LifecycleConfig K} {fails : StartStep → Bool}
  {daemonAccepts : List CANFrame → CANFrame → Bool}

/-- What every step keeps, the start keeps. -/
theorem attemptAll_invariant {P : RuntimeState K → Prop} {steps : List StartStep}
    (hstep : ∀ s, ∀ step ∈ steps, P s → P (attemptStep cfg fails daemonAccepts s step).1)
    {s : RuntimeState K} (h : P s) : P (attemptAll cfg fails daemonAccepts s steps).1 := by
  induction steps generalizing s with
  | nil => exact h
  | cons step steps ih =>
      have hfirst := hstep s step List.mem_cons_self h
      rw [attemptAll]
      dsimp only
      split
      · exact hfirst
      · exact ih (fun s' step' hmem => hstep s' step' (List.mem_cons_of_mem _ hmem)) hfirst

/-- What one step establishes and every step keeps holds after a start that did not raise. -/
theorem attemptAll_established (step : StartStep) {P : RuntimeState K → Prop}
    (hkeep : ∀ s step, P s → P (attemptStep cfg fails daemonAccepts s step).1)
    {steps : List StartStep} (hmem : step ∈ steps)
    (hest : ∀ s, (attemptStep cfg fails daemonAccepts s step).2.2 = false →
      P (attemptStep cfg fails daemonAccepts s step).1) {s : RuntimeState K}
    (h : (attemptAll cfg fails daemonAccepts s steps).2.2 = false) :
    P (attemptAll cfg fails daemonAccepts s steps).1 := by
  induction steps generalizing s with
  | nil => cases hmem
  | cons first steps ih =>
      rw [attemptAll] at h ⊢
      dsimp only at h ⊢
      split at h
      · rename_i hraised
        rw [hraised] at h
        cases h
      · rename_i hok
        rw [if_neg hok]
        rcases List.mem_cons.mp hmem with rfl | hmem
        · refine attemptAll_invariant (fun s' step' _ hP => hkeep s' step' hP) (hest s ?_)
          exact Bool.eq_false_iff.mpr hok
        · exact ih hmem h

/-- Everything a tick relies on is there. -/
structure Up (cfg : LifecycleConfig K) (s : RuntimeState K) : Prop where
  canConnected : s.canConnected = true
  isRunning : s.isRunning = true
  openItems : ∀ item, item ∈ s.openItems
  segments : ∀ name ∈ cfg.segmentNames, name ∈ s.segments

/-- What a step leaves of the things acquired before it. -/
theorem attemptStep_keeps (s : RuntimeState K) (step : StartStep) :
    (s.canConnected = true → (attemptStep cfg fails daemonAccepts s step).1.canConnected = true) ∧
    (s.isRunning = true → (attemptStep cfg fails daemonAccepts s step).1.isRunning = true) ∧
    (∀ item ∈ s.openItems, item ∈ (attemptStep cfg fails daemonAccepts s step).1.openItems) ∧
    (∀ name ∈ s.segments, name ∈ (attemptStep cfg fails daemonAccepts s step).1.segments) ∧
    (attemptStep cfg fails daemonAccepts s step).1.controller = s.controller := by
  cases step <;> simp only [attemptStep] <;> try split
  all_goals simp +contextual

/-- A start that did not raise has everything up. -/
theorem up_of_not_raised {s : RuntimeState K}
    (h : (attemptAll cfg fails daemonAccepts s (startSteps cfg)).2.2 = false) :
    Up cfg (attemptAll cfg fails daemonAccepts s (startSteps cfg)).1 where
  canConnected := by
    refine attemptAll_established .connect (fun s' step => (attemptStep_keeps s' step).1) ?_
      (fun s' _ => rfl) h
    simp [startSteps]
  isRunning := by
    refine attemptAll_established .publish (fun s' step => (attemptStep_keeps s' step).2.1) ?_
      (fun s' _ => rfl) h
    simp [startSteps]
  openItems := by
    intro item
    refine attemptAll_established (.openItem item)
      (fun s' step hitem => (attemptStep_keeps s' step).2.2.1 item hitem) ?_ ?_ h
    · cases item <;> simp [startSteps]
    · intro s' hok
      simp only [attemptStep] at hok ⊢
      split at hok
      · cases hok
      · rename_i hfails
        rw [if_neg hfails]
        simp
  segments := by
    intro name hname
    refine attemptAll_established (.create name)
      (fun s' step hseg => (attemptStep_keeps s' step).2.2.2.1 name hseg) ?_ ?_ h
    · simp [startSteps, hname]
    · intro s' hok
      simp only [attemptStep] at hok ⊢
      split at hok
      · cases hok
      · rename_i hfails
        rw [if_neg hfails]
        simp

/-- The start touches no segment but the configured ones. -/
theorem linked_attemptAll {s : RuntimeState K} {name : String} (hname : name ∉ cfg.segmentNames) :
    name ∈ (attemptAll cfg fails daemonAccepts s (startSteps cfg)).1.linked ↔ name ∈ s.linked := by
  refine attemptAll_invariant (P := fun s' => name ∈ s'.linked ↔ name ∈ s.linked) ?_ Iff.rfl
  intro s' step hstep hiff
  have hown : ∀ other ∈ cfg.segmentNames, name ≠ other := fun other hother heq =>
    hname (heq ▸ hother)
  have hcases : (∃ other ∈ cfg.segmentNames, step = .cleanup other) ∨
      (∃ other ∈ cfg.segmentNames, step = .create other) ∨
      (∀ other, step ≠ .cleanup other) ∧ ∀ other, step ≠ .create other := by
    unfold startSteps at hstep
    rcases List.mem_append.mp hstep with hstep | hstep
    · rcases List.mem_append.mp hstep with hstep | hstep
      · split at hstep
        · obtain ⟨other, hother, rfl⟩ := List.mem_map.mp hstep
          exact Or.inl ⟨other, hother, rfl⟩
        · cases hstep
      · obtain ⟨other, hother, rfl⟩ := List.mem_map.mp hstep
        exact Or.inr (Or.inl ⟨other, hother, rfl⟩)
    · refine Or.inr (Or.inr ⟨?_, ?_⟩) <;> rintro other rfl <;> simp at hstep
  rw [← hiff]
  rcases hcases with ⟨other, hother, rfl⟩ | ⟨other, hother, rfl⟩ | ⟨hcleanup, hcreate⟩
  · simp only [attemptStep]
    split
    · rfl
    · simp [hown other hother]
  · simp only [attemptStep]
    split
    · rfl
    · simp [hown other hother]
  · cases step with
    | cleanup other => exact absurd rfl (hcleanup other)
    | create other => exact absurd rfl (hcreate other)
    | openItem item => simp only [attemptStep]; split <;> rfl
    | startCanDaemon => rfl
    | connect => rfl
    | bringupImu => rfl
    | startAll => rfl
    | publish => rfl

/-- No step announces that the controller stopped. -/
theorem controllerState_attemptAll {s : RuntimeState K} (h : s.controllerState ≠ .stopped)
    (steps : List StartStep) :
    (attemptAll cfg fails daemonAccepts s steps).1.controllerState ≠ .stopped := by
  refine attemptAll_invariant (P := fun s' => s'.controllerState ≠ .stopped)
    (fun s' step _ _ => ?_) h
  have hstage : (attemptStep cfg fails daemonAccepts s' step).1.controllerState = step.stage := by
    cases step <;> simp only [attemptStep] <;> try split
    all_goals rfl
  rw [hstage]
  cases step <;> exact nofun

end Up

/-! ## The way down -/

section Down

variable {K : Type} [Field K] [LinearOrder K] [IsStrictOrderedRing K]

/-- No stop raises. -/
def StopsGo (cfg : ShutdownConfig K) (stopRaises : String → Bool) : Prop :=
  ∀ c ∈ cfg.processes, stopRaises c.name = false

/-- Nothing is held any more; of the segments only the configured ones were touched. -/
structure Released (cfg : ShutdownConfig K) (linked : List String) (s : RuntimeState K) : Prop where
  canConnected : s.canConnected = false
  isRunning : s.isRunning = false
  openItems : s.openItems = []
  segments : s.segments = []
  unlinked : cfg.unlinkOnShutdown = true → ∀ name ∈ cfg.segmentNames, name ∉ s.linked
  others : ∀ name ∉ cfg.segmentNames, name ∈ s.linked ↔ name ∈ linked

/-- The disable frames a client takes, in the order of the actuators, up to the first it refuses. -/
def disableRound (cfg : RobotControllerConfig K) (env : TickEnv K) : List CANFrame :=
  (sendEach env.daemonAccepts []
    ((cfg.actuators.values.map SPGActuatorProtocol.encodeDisableFrame).map .ok)).1

section OneShutdown

variable {cfg : ShutdownConfig K} (env : TickEnv K) {stopRaises : String → Bool} {s : RuntimeState K}

/-- A shutdown whose stops go through releases everything. -/
theorem shutdown_released (hs : s.controllerState ≠ .stopped) (hstops : StopsGo cfg stopRaises)
    {linked : List String} (hothers : ∀ name ∉ cfg.segmentNames, name ∈ s.linked ↔ name ∈ linked) :
    (shutdown cfg env stopRaises s).1.controllerState = .stopped ∧
      Released cfg linked (shutdown cfg env stopRaises s).1 := by
  have hnone := (stops_eq_none_iff cfg stopRaises).mpr hstops
  have hloop : attempts stopRaises cfg.stopNames = (cfg.stopNames, none) :=
    Prod.ext (attempts_fst hnone) hnone
  simp only [shutdown, if_neg hs, hloop]
  refine ⟨trivial, ?_⟩
  cases hunlink : cfg.unlinkOnShutdown with
  | true =>
      refine ⟨rfl, rfl, rfl, rfl, fun _ name hname hmem => ?_, fun name hname => ?_⟩
      · exact of_decide_eq_true (List.mem_filter.mp hmem).2 hname
      · rw [← hothers name hname]
        exact ⟨fun hmem => (List.mem_filter.mp hmem).1,
          fun hmem => List.mem_filter.mpr ⟨hmem, decide_eq_true hname⟩⟩
  | false => exact ⟨rfl, rfl, rfl, rfl, fun h => (by rw [hunlink] at h; cases h), hothers⟩

/-- A shutdown one of whose stops raises ends there: everything is still held. -/
theorem shutdown_interrupted (hs : s.controllerState ≠ .stopped) (hstops : ¬ StopsGo cfg stopRaises) :
    (shutdown cfg env stopRaises s).1.controllerState = .shuttingDown ∧
      (shutdown cfg env stopRaises s).1.canConnected = s.canConnected ∧
      (shutdown cfg env stopRaises s).1.linked = s.linked := by
  unfold StopsGo at hstops
  rw [← stops_eq_none_iff] at hstops
  simp only [shutdown, if_neg hs]
  cases hloop : attempts stopRaises cfg.stopNames with
  | mk tried raised =>
      cases raised with
      | none => exact absurd (by rw [hloop]) hstops
      | some name => exact ⟨rfl, rfl, rfl⟩

/-- A shutdown after one that got to its end does nothing. -/
theorem shutdown_stopped (cfg : ShutdownConfig K) (stopRaises : String → Bool)
    (hs : s.controllerState = .stopped) :
    shutdown cfg env stopRaises s = (s, {}) := by
  unfold shutdown
  rw [if_pos hs]

/-- A shutdown gets to STOPPED exactly when its stops go through. -/
theorem shutdown_stopped_iff (hs : s.controllerState ≠ .stopped) :
    (shutdown cfg env stopRaises s).1.controllerState = .stopped ↔ StopsGo cfg stopRaises := by
  constructor
  · intro hstopped
    by_contra hstops
    have hinterrupted := (shutdown_interrupted env hs hstops).1
    rw [hstopped] at hinterrupted
    cases hinterrupted
  · intro hstops
    exact (shutdown_released env hs hstops fun _ _ => Iff.rfl).1

theorem disableFrames_eq_disableRound (hs : s.controllerState ≠ .stopped) (hcan : s.canConnected = true) :
    (shutdown cfg env stopRaises s).2.disableFrames = disableRound cfg.controller env :=
  shutdown_disableFrames hs hcan

end OneShutdown

variable [FloorRing K]

/-- What is asked of an outcome of `main`. -/
structure MainReleases (cfg : LifecycleConfig K) (inputs : MainInputs K) (linked : List String)
    (r : MainOutcome K) : Prop where
  /-- It ends STOPPED exactly when the last round of stops got through, or the one before it in the
  handler of `start` did. -/
  stopped_iff : r.state.controllerState = .stopped ↔
    (r.startRaised = true ∧ StopsGo cfg.toShutdownConfig inputs.handlerStopRaises) ∨
      StopsGo cfg.toShutdownConfig inputs.finalStopRaises
  /-- Nothing is held then. -/
  released : r.state.controllerState = .stopped → Released cfg.toShutdownConfig linked r.state
  /-- Ticks are made only with everything up. -/
  ticked : r.ticks ≠ [] → r.startRaised = false
  up : r.startRaised = false → Up cfg r.started
  /-- A connection is not given up without a disable round. -/
  disabled : r.started.canConnected = true → ∃ report ∈ r.reports, report.disableFrames =
    disableRound cfg.controller (if r.startRaised then inputs.handlerEnv else inputs.finalEnv)

section TwoWays

variable {cfg : LifecycleConfig K} {inputs : MainInputs K} {linked : List String}
  {started : RuntimeState K}
  (hothers : ∀ name ∉ cfg.segmentNames, name ∈ started.linked ↔ name ∈ linked)
include hothers

theorem mainReleases_afterStart (hnot : started.controllerState ≠ .stopped) (hup : Up cfg started)
    (startFrames : List CANFrame) :
    MainReleases cfg inputs linked (mainAfterStart cfg inputs started startFrames) := by
  simp only [mainAfterStart]
  generalize runLoop cfg.controller cfg.controlHz inputs.entered started.controller inputs.passes =
    ticks
  generalize hs : { started with
    controller := (ticks.getLast?.map LoopTick.after).getD started.controller } = s
  have hnot' : s.controllerState ≠ .stopped := hs ▸ hnot
  have hothers' : ∀ name ∉ cfg.segmentNames, name ∈ s.linked ↔ name ∈ linked := hs ▸ hothers
  have hiff : (shutdown cfg.toShutdownConfig inputs.finalEnv inputs.finalStopRaises s
      ).1.controllerState = .stopped ↔ StopsGo cfg.toShutdownConfig inputs.finalStopRaises :=
    shutdown_stopped_iff inputs.finalEnv hnot'
  refine ⟨?_, ?_, fun _ => rfl, fun _ => hup, ?_⟩
  · rw [hiff]
    simp
  · intro hstopped
    exact (shutdown_released inputs.finalEnv hnot' (hiff.mp hstopped) hothers').2
  · intro hcan
    refine ⟨_, List.mem_singleton_self _, disableFrames_eq_disableRound inputs.finalEnv hnot' ?_⟩
    rw [← hs]
    exact hcan

omit [FloorRing K] in
theorem mainReleases_afterFailure (startFrames : List CANFrame) :
    MainReleases cfg inputs linked (mainAfterFailure cfg inputs started startFrames) := by
  simp only [mainAfterFailure]
  generalize hs : { started with controllerState := RobotControllerState.error } = s
  have hnot : s.controllerState ≠ .stopped := by
    rw [← hs]
    exact nofun
  have hothers' : ∀ name ∉ cfg.segmentNames, name ∈ s.linked ↔ name ∈ linked := hs ▸ hothers
  have hdisabled : started.canConnected = true → (shutdown cfg.toShutdownConfig inputs.handlerEnv
      inputs.handlerStopRaises s).2.disableFrames = disableRound cfg.controller inputs.handlerEnv :=
    fun hcan => disableFrames_eq_disableRound inputs.handlerEnv hnot (hs ▸ hcan)
  by_cases hhandler : StopsGo cfg.toShutdownConfig inputs.handlerStopRaises
  · -- the second call finds the controller stopped
    obtain ⟨hstopped, hreleased⟩ := shutdown_released inputs.handlerEnv hnot hhandler hothers'
    have hagain := shutdown_stopped inputs.finalEnv cfg.toShutdownConfig inputs.finalStopRaises hstopped
    refine ⟨?_, fun _ => ?_, fun h => absurd rfl h, fun h => (by cases h), fun hcan =>
      ⟨_, List.mem_cons_self, hdisabled hcan⟩⟩
    · simp only [hagain, hstopped]
      simp [hhandler]
    · simp only [hagain]
      exact hreleased
  · obtain ⟨hstate, -, hlinked⟩ := shutdown_interrupted inputs.handlerEnv hnot hhandler
    have hnot' : (shutdown cfg.toShutdownConfig inputs.handlerEnv inputs.handlerStopRaises s
        ).1.controllerState ≠ .stopped := by
      rw [hstate]
      exact nofun
    have hiff : _ ↔ StopsGo cfg.toShutdownConfig inputs.finalStopRaises :=
      shutdown_stopped_iff inputs.finalEnv hnot'
    refine ⟨?_, fun hstopped => ?_, fun h => absurd rfl h, fun h => (by cases h), fun hcan =>
      ⟨_, List.mem_cons_self, hdisabled hcan⟩⟩
    · rw [hiff]
      simp [hhandler]
    · refine (shutdown_released inputs.finalEnv hnot' (hiff.mp hstopped) fun name hname => ?_).2
      rw [hlinked]
      exact hothers' name hname

end TwoWays

end Down

/-- The two-actuator robot, which asks its IMU twice before it starts its processes. -/
def twoProcessLifecycle : LifecycleConfig ℚ where
  toShutdownConfig := twoProcessConfig
  cleanupStaleOnStart := true
  controlHz := 500
  imuRequestAllOnStart := true
  imuStartupRequestCount := 2

/-- A child process does not start, and the first try to stop the task controller raises. -/
def secondTry : MainInputs ℚ where
  fails := (· == .startAll)
  daemonAccepts := fun _ _ => true
  entered := 0
  passes := []
  handlerEnv := quietEnv 1
  handlerStopRaises := (· == "task_controller")
  finalEnv := quietEnv 2
  finalStopRaises := fun _ => false

end SparqControl.Controller
