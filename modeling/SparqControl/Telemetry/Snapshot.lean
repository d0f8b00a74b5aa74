/-
# SparqControl.Telemetry.Snapshot — what a reader of the robot state is told.

The controller's life as far as telemetry sees it: frames reach the drivers, ticks change mode and
recorded output, and at any time `_make_snapshot` puts both together for the shared memory.

`telemetry_faithful_iff` compares the snapshot with what is read back. Mode, output source, flags and
targets always survive; the actuators do not. More than twelve are cut off. And no protocol object has
a torque constant, so the torque is never known: from the first feedback frame on, of whatever kind, a
reader is told a torque of zero, and, after an acknowledgement, a position of zero too.
-/
import SparqControl.Controller.PolicyDispatch
import SparqControl.Telemetry.RobotState

namespace SparqControl.Telemetry

open SparqControl.Hal SparqControl.Hw SparqControl.Controller
open SparqControl.Lib (Dict)
open SparqControl.Lib.Trace

/-! ## The controller, as telemetry sees it -/

/-- The controller and the drivers, by id. -/
structure TelemetryState (K : Type) [Field K] [LinearOrder K] where
  controller : ControllerState K
  drivers : ℤ → ActuatorDriver K AckMode

/-- A frame that gets past the echo filter, or a tick. -/
inductive TelemetryEvent (K : Type) where
  | frame (frame : CANFrame) (now : K)
  | tick (input : TickInput K)

/-- What `_make_snapshot` finds besides the controller and its drivers: the clocks, the time of the
last recorded output, the drivers' timeout and the IMU. -/
structure SnapshotInputs (K : Type) where
  now : K
  unix : K
  lastOutputT : K
  feedbackTimeout : K
  imu : ImuSnapshot K

section System

variable {K : Type} [Field K] [LinearOrder K]

/-- A controller that has just been constructed. -/
def telemetryStart (stateMachine : ControllerStateMachine K) : TelemetryState K :=
  ⟨{ stateMachine := stateMachine }, fun _ => ActuatorDriver.init⟩

variable [IsStrictOrderedRing K] (cfg : RobotControllerConfig K)

/-- `_make_snapshot`. The freshness flags are recomputed from the last reception at every call. -/
def makeSnapshot (i : SnapshotInputs K) (s : TelemetryState K) : RobotSnapshot K where
  mode := s.controller.stateMachine.mode
  timestampMonotonic := i.now
  timestampUnix := i.unix
  actuators := cfg.actuators.sortedKeys.map fun canId =>
    let state := (s.drivers canId).state
    let comm := (s.drivers canId).comm.updateFaultFlags i.feedbackTimeout i.now
    { canId := canId
      positionRad := state.positionRad
      velocityRadS := state.velocityRadS
      torqueNm := state.torqueNm
      currentA := state.currentA
      temperatureC := state.temperatureC
      faultCode := state.faultCode
      isEnabled := state.isEnabled
      lastFeedbackT := state.lastFeedbackT
      ageS := if state.lastFeedbackT ≤ 0 then none else some (max 0 (i.now - state.lastFeedbackT))
      online := comm.isOnline
      stale := comm.isStale }
  imu := i.imu
  commandOutput :=
    ⟨s.controller.lastOutputSource, i.lastOutputT, s.controller.lastOutputTargets⟩

/-- `driver.on_frame` of the actuator a frame is registered for. -/
def onActuatorFrame (drivers : ℤ → ActuatorDriver K AckMode) (frame : CANFrame) (now : K) :
    ℤ → ActuatorDriver K AckMode :=
  if frame.canId ∈ cfg.canIds then
    Function.update drivers frame.canId
      ((drivers frame.canId).onFrame (cfg.spgProtocol frame.canId).decodeFrame frame now)
  else drivers

variable [FloorRing K]

/-- One event. -/
def telemetryStep (s : TelemetryState K) : TelemetryEvent K → TelemetryState K × Unit
  | .frame frame now => ({ s with drivers := onActuatorFrame cfg s.drivers frame now }, ())
  | .tick input => ({ s with controller := (tick cfg s.controller input).1 }, ())

end System

/-! ## What a reader should be told -/

section Faithful

variable {K : Type}

/-- The dictionary of a target says what the target says. -/
structure TargetFaithful (t : CommandTargetSnapshot K) (d : CommandTargetDict K) : Prop where
  id_nonneg : 0 ≤ t.canId
  canId : d.canId = formatHex t.canId.toNat
  position : t.pTargetRad = .fin d.pTargetRad
  velocity : t.vTargetRadS = .fin d.vTargetRadS
  kp : t.kp = .fin d.kp
  kd : t.kd = .fin d.kd
  torque : t.tauTargetNm = .fin d.tauTargetNm

/-- **Telemetry invents nothing.** Mode, output source and times are those of the snapshot; the
actuators are its actuators, every `None` and every value of them; the targets are its targets. -/
structure TelemetryFaithful (s : RobotSnapshot K) (d : RobotStateDict K) : Prop where
  mode : d.controllerState = modeText s.mode
  source : d.commandOutput.source = sourceText s.commandOutput.source
  times : d.timestampMonotonic = s.timestampMonotonic ∧ d.timestampUnix = s.timestampUnix ∧
    d.commandOutput.timestampMonotonic = s.commandOutput.timestampMonotonic
  actuators : d.actuators = s.actuators
  targets : List.Forall₂ TargetFaithful s.commandOutput.targets d.commandOutput.targets
  imuFlags : d.imu.quatOnline = s.imu.quatOnline ∧ d.imu.gyroOnline = s.imu.gyroOnline ∧
    d.imu.quatStale = s.imu.quatStale ∧ d.imu.gyroStale = s.imu.gyroStale

/-- The time of an event, if it is feedback for an actuator: eight bytes with an opcode the decoder
knows. -/
def feedbackTime? (canId : ℤ) : TelemetryEvent K → Option K
  | .frame frame now =>
      let cmd := frame.data.getD 0 0
      if frame.canId = canId ∧ frame.data.length = 8 ∧
        (cmd = cmdMitControl ∨ cmd = cmdReadEncoderData ∨ cmd = cmdReadMitParams ∨
          SPGActuatorProtocol.isAckLike cmd = true) then some now else none
  | .tick _ => none

end Faithful

/-! ## The drivers -/

section Drivers

variable {K : Type} [Field K] [LinearOrder K] [IsStrictOrderedRing K] (cfg : RobotControllerConfig K)

/-- A decoded state as telemetry needs it: stamped with the time, without a torque, with a fault code
that is a byte. -/
structure Stamped (now : K) (s : ActuatorState K AckMode) : Prop where
  time : s.lastFeedbackT = now
  torque : s.torqueNm = none
  fault : ∀ code, s.faultCode = some code → 0 ≤ code ∧ code < 2 ^ 31

omit [Field K] [LinearOrder K] [IsStrictOrderedRing K] in
theorem stamped_ack (payload8 : List UInt8) (now : K) :
    Stamped now (SPGActuatorProtocol.decodeAckLikeFrame payload8 now) where
  time := rfl
  torque := rfl
  fault := by
    intro code hcode
    have hbyte := (payload8.getD 1 0).toNat_lt
    simp only [SPGActuatorProtocol.decodeAckLikeFrame] at hcode
    split at hcode
    · obtain rfl := Option.some.inj hcode
      omega
    · cases hcode

/-- What the decoder of an actuator makes of a frame: feedback exactly of its own eight-byte frames
with a known opcode. -/
theorem decodeFrame_spec (canId : ℤ) (frame : CANFrame) (now : K) :
    (feedbackTime? canId (.frame frame now) = none ∧
      ∀ s, (cfg.spgProtocol canId).decodeFrame frame now ≠ .ok (some s)) ∨
    (feedbackTime? canId (.frame frame now) = some now ∧
      ∃ s, (cfg.spgProtocol canId).decodeFrame frame now = .ok (some s) ∧ Stamped now s) := by
  have hnone : ∀ code : ℤ, (none : Option ℤ) = some code → 0 ≤ code ∧ code < 2 ^ 31 := by
    intro code hcode
    cases hcode
  have hid : (cfg.spgProtocol canId).feedbackId = canId := rfl
  unfold SPGActuatorProtocol.decodeFrame feedbackTime?
  rw [hid]
  by_cases h1 : frame.canId = canId
  · by_cases h2 : frame.data.length = 8
    · simp only [h1, h2, ne_eq, not_true_eq_false, if_false, true_and]
      by_cases hmit : frame.data.getD 0 0 = cmdMitControl
      · exact Or.inr ⟨if_pos (Or.inl hmit), _, if_pos hmit, rfl, rfl, hnone⟩
      · by_cases henc : frame.data.getD 0 0 = cmdReadEncoderData
        · rw [if_neg hmit, if_pos henc]
          exact Or.inr ⟨if_pos (Or.inr (Or.inl henc)), _, rfl, rfl, rfl, hnone⟩
        · by_cases hpar : frame.data.getD 0 0 = cmdReadMitParams
          · rw [if_neg hmit, if_neg henc, if_pos hpar]
            exact Or.inr ⟨if_pos (Or.inr (Or.inr (Or.inl hpar))), _, rfl, rfl, rfl, hnone⟩
          · by_cases hack : SPGActuatorProtocol.isAckLike (frame.data.getD 0 0) = true
            · rw [if_neg hmit, if_neg henc, if_neg hpar, if_pos hack]
              exact Or.inr ⟨if_pos (Or.inr (Or.inr (Or.inr hack))), _, rfl, stamped_ack _ _⟩
            · rw [if_neg hmit, if_neg henc, if_neg hpar, if_neg hack]
              refine Or.inl ⟨if_neg ?_, fun s => by simp⟩
              rintro (h | h | h | h)
              · exact hmit h
              · exact henc h
              · exact hpar h
              · exact hack h
    · exact Or.inl ⟨by simp [h2], fun s => by simp [h1, h2]⟩
  · exact Or.inl ⟨by simp [h1], fun s => by simp [h1]⟩

/-- One frame, seen from one driver: its state stays, or is merged with what the frame says. -/
theorem onActuatorFrame_cases (drivers : ℤ → ActuatorDriver K AckMode) {canId : ℤ}
    (hid : canId ∈ cfg.canIds) (frame : CANFrame) (now : K) :
    (feedbackTime? canId (.frame frame now) = none ∧
      (onActuatorFrame cfg drivers frame now canId).state = (drivers canId).state) ∨
    (feedbackTime? canId (.frame frame now) = some now ∧
      ∃ s, onActuatorFrame cfg drivers frame now canId = (drivers canId).mergeState s now ∧
        Stamped now s) := by
  by_cases hframe : frame.canId = canId
  · have hdriver : onActuatorFrame cfg drivers frame now canId =
        (drivers canId).onFrame (cfg.spgProtocol canId).decodeFrame frame now := by
      unfold onActuatorFrame
      rw [hframe, if_pos hid, Function.update_self]
    rw [hdriver]
    unfold ActuatorDriver.onFrame
    rcases decodeFrame_spec cfg canId frame now with ⟨htime, hnot⟩ | ⟨htime, s, hs, hstamped⟩
    · refine Or.inl ⟨htime, ?_⟩
      cases hdecode : (cfg.spgProtocol canId).decodeFrame frame now with
      | error e => rfl
      | ok r =>
          cases r with
          | none => rfl
          | some s => exact absurd hdecode (hnot s)
    · rw [hs]
      exact Or.inr ⟨htime, s, rfl, hstamped⟩
  · refine Or.inl ⟨if_neg fun h => hframe h.1, ?_⟩
    unfold onActuatorFrame
    split
    · rw [Function.update_of_ne fun h => hframe h.symm]
    · rfl

variable [FloorRing K] (stateMachine : ControllerStateMachine K)

/-- The state of a driver after a run. -/
def driverAfter (es : List (TelemetryEvent K)) (canId : ℤ) : ActuatorState K AckMode :=
  ((final (telemetryStep cfg) (telemetryStart stateMachine) es).drivers canId).state

/-- **No torque, ever**, and fault codes are bytes. -/
theorem driver_sound {canId : ℤ} (hid : canId ∈ cfg.canIds) (es : List (TelemetryEvent K)) :
    (driverAfter cfg stateMachine es canId).torqueNm = none ∧
      ∀ code, (driverAfter cfg stateMachine es canId).faultCode = some code →
        0 ≤ code ∧ code < 2 ^ 31 := by
  refine final_invariant (P := fun s : TelemetryState K => (s.drivers canId).state.torqueNm = none ∧
    ∀ code, (s.drivers canId).state.faultCode = some code → 0 ≤ code ∧ code < 2 ^ 31) ?_ ?_ es
  · rintro s e ⟨htorque, hfault⟩
    cases e with
    | tick input => exact ⟨htorque, hfault⟩
    | frame frame now =>
        simp only [telemetryStep]
        rcases onActuatorFrame_cases cfg s.drivers hid frame now with
          ⟨-, hsame⟩ | ⟨-, s', hmerge, hstamped⟩
        · rw [hsame]
          exact ⟨htorque, hfault⟩
        · rw [hmerge]
          constructor
          · show (s'.torqueNm <|> (s.drivers canId).state.torqueNm) = none
            rw [hstamped.torque, htorque]
            rfl
          · intro code hcode
            have hcode' : (s'.faultCode <|> (s.drivers canId).state.faultCode) = some code := hcode
            cases hnew : s'.faultCode with
            | none =>
                rw [hnew] at hcode'
                exact hfault code hcode'
            | some code' =>
                rw [hnew] at hcode'
                obtain rfl := Option.some.inj hcode'
                exact hstamped.fault _ hnew
  · refine ⟨rfl, ?_⟩
    intro code hcode
    cases hcode

/-- **The last feedback time** is that of the latest feedback frame. -/
theorem driver_lastFeedbackT {canId : ℤ} (hid : canId ∈ cfg.canIds) {es : List (TelemetryEvent K)}
    (htimes : ∀ frame now, .frame frame now ∈ es → 0 < now) :
    (driverAfter cfg stateMachine es canId).lastFeedbackT =
      (latest (feedbackTime? canId) es).getD 0 := by
  refine final_latest (P := fun _ : TelemetryState K => True)
    (C := fun e => ∀ frame now, e = .frame frame now → 0 < now) (fun _ _ _ _ => trivial)
    (f := fun s : TelemetryState K => (s.drivers canId).state.lastFeedbackT) ?_ trivial es ?_
  · intro s e _ htime
    cases e with
    | tick input => rfl
    | frame frame now =>
        simp only [telemetryStep]
        rcases onActuatorFrame_cases cfg s.drivers hid frame now with
          ⟨hnone, hsame⟩ | ⟨hsome, s', hmerge, hstamped⟩
        · rw [hnone, hsame]
          rfl
        · rw [hsome, hmerge]
          show (if 0 < s'.lastFeedbackT then s'.lastFeedbackT else _) = now
          rw [hstamped.time, if_pos (htime frame now rfl)]
  · intro e he frame now heq
    exact htimes frame now (heq ▸ he)

/-- A driver that heard nothing knows nothing. -/
theorem driver_unheard {canId : ℤ} (hid : canId ∈ cfg.canIds) {es : List (TelemetryEvent K)}
    (hnone : ∀ e ∈ es, feedbackTime? canId e = none) :
    driverAfter cfg stateMachine es canId = { lastFeedbackT := 0 } := by
  refine final_invariant_of (P := fun s : TelemetryState K =>
    (s.drivers canId).state = { lastFeedbackT := 0 })
    (C := fun e => feedbackTime? canId e = none) ?_ rfl es hnone
  intro s e hs hnone
  cases e with
  | tick input => exact hs
  | frame frame now =>
      simp only [telemetryStep]
      rcases onActuatorFrame_cases cfg s.drivers hid frame now with ⟨-, hsame⟩ | ⟨hsome, -⟩
      · rw [hsame, hs]
      · rw [hnone] at hsome
        cases hsome

end Drivers

/-! ## The recorded output -/

section Output

variable {K : Type} [Field K] [LinearOrder K] [IsStrictOrderedRing K] (cfg : RobotControllerConfig K)

/-- Recorded targets as telemetry needs them: of configured actuators, with finite values, and no more
than the policy's twelve or the configured actuators. -/
structure TargetsRecorded (targets : List (CommandTargetSnapshot K)) : Prop where
  length_le : targets.length ≤ max maxControlTargets cfg.actuators.keys.length
  configured : ∀ t ∈ targets, t.canId ∈ cfg.canIds
  finite : ∀ t ∈ targets, ∃ p v kp kd tau : K,
    t = ⟨t.canId, .fin p, .fin v, .fin kp, .fin kd, .fin tau⟩

theorem targetsRecorded_nil : TargetsRecorded cfg [] where
  length_le := Nat.zero_le _
  configured := by simp
  finite := by simp

theorem targetsRecorded_damping :
    TargetsRecorded cfg (cfg.actuators.sortedKeys.map fun canId =>
      ⟨canId, .fin 0, .fin 0, .fin 0, .fin cfg.velocityDampingKd, .fin 0⟩) where
  length_le := by
    rw [List.length_map, Dict.sortedKeys, List.length_insertionSort]
    exact le_max_right _ _
  configured := by
    intro t ht
    obtain ⟨canId, hid, rfl⟩ := List.mem_map.mp ht
    exact (mem_keys_actuators cfg canId).mp ((Dict.mem_sortedKeys _ _).mp hid)
  finite := by
    intro t ht
    obtain ⟨canId, -, rfl⟩ := List.mem_map.mp ht
    exact ⟨0, 0, 0, cfg.velocityDampingKd, 0, rfl⟩

variable [FloorRing K]

/-- The policy's targets are recorded once every one of them was encoded. -/
theorem targetsRecorded_policy {cmd : ControlCommandC K}
    (hok : ∀ x ∈ policySelection cfg cmd, ∃ frame, policyFrame x = .ok frame) :
    TargetsRecorded cfg ((policySelection cfg cmd).map Prod.fst) where
  length_le := by
    have htake : (cmd.targets.toList.take (min cmd.numTargets.toNat maxControlTargets)).length ≤
        maxControlTargets := by
      rw [List.length_take]
      omega
    rw [List.length_map]
    exact ((List.length_filterMap_le _ _).trans htake).trans (le_max_left _ _)
  configured := by
    intro t ht
    obtain ⟨x, hx, rfl⟩ := List.mem_map.mp ht
    obtain ⟨hid, -, hcan⟩ := mem_policySelection cfg hx
    rwa [hcan]
  finite := by
    intro t ht
    obtain ⟨x, hx, rfl⟩ := List.mem_map.mp ht
    obtain ⟨⟨-, p, hp, -⟩, ⟨-, v, hv, -⟩, ⟨-, kp, hkp, -⟩, ⟨-, kd, hkd, -⟩, ⟨-, tau, htau, -⟩⟩ :=
      (policyFrame_ok_iff x).mp (hok x hx)
    refine ⟨p, v, kp, kd, tau, ?_⟩
    rw [← hp, ← hv, ← hkp, ← hkd, ← htau]

/-- One tick keeps the record sound. -/
theorem TargetsRecorded.tick {s : ControllerState K} (h : TargetsRecorded cfg s.lastOutputTargets)
    (input : TickInput K) : TargetsRecorded cfg (tick cfg s input).1.lastOutputTargets := by
  cases hreads : readsSlot cfg input with
  | false =>
      rw [(tick_of_not_readsSlot hreads).1]
      exact h
  | true =>
      rw [tick_of_readsSlot hreads]
      have hupdated : TargetsRecorded cfg (updated s input).lastOutputTargets := by
        unfold updated consumeOperatorCommand
        dsimp only
        split
        · exact h
        · exact h
        · split <;> exact h
      simp only [sendForMode]
      cases (updated s input).stateMachine.mode with
      | disabled => exact targetsRecorded_nil cfg
      | enabling => exact targetsRecorded_nil cfg
      | estop => exact targetsRecorded_nil cfg
      | damping => exact targetsRecorded_damping cfg
      | zeroSetting =>
          simp only [sendZeroSetAll]
          split
          · exact hupdated
          · exact targetsRecorded_nil cfg
      | normal =>
          simp only [sendPolicyCommand]
          split
          · rename_i hraised
            apply targetsRecorded_policy cfg
            intro x hx
            exact ok_of_not_raised (Option.isNone_iff_eq_none.mp hraised) _ (List.mem_map_of_mem hx)
          · exact hupdated

/-- The record over a whole run. -/
theorem targetsRecorded_run (stateMachine : ControllerStateMachine K)
    (es : List (TelemetryEvent K)) :
    TargetsRecorded cfg
      (final (telemetryStep cfg) (telemetryStart stateMachine) es).controller.lastOutputTargets := by
  refine final_invariant (P := fun s : TelemetryState K =>
    TargetsRecorded cfg s.controller.lastOutputTargets) ?_ (targetsRecorded_nil cfg) es
  intro s e hs
  cases e with
  | frame frame now => exact hs
  | tick input => exact hs.tick cfg input

end Output

/-! ## The law -/

section Law

variable {K : Type} [Field K] [LinearOrder K] [IsStrictOrderedRing K]

omit [LinearOrder K] [IsStrictOrderedRing K] in
/-- A recorded target is read back as it was, if its id fits. -/
theorem target_readBack {t : CommandTargetSnapshot K}
    (hfinite : ∃ p v kp kd tau : K, t = ⟨t.canId, .fin p, .fin v, .fin kp, .fin kd, .fin tau⟩)
    (hid : 0 ≤ t.canId ∧ t.canId < 2 ^ 32) :
    TargetFaithful t (commandTargetToDict (.ofSnapshot t)) := by
  obtain ⟨p, v, kp, kd, tau, ht⟩ := hfinite
  have hcan : (UInt32.ofInt t.canId).toNat = t.canId.toNat := by
    have := (toNat_ofInt_eq_iff t.canId).mpr hid
    omega
  refine ⟨hid.1, ?_, ?_, ?_, ?_, ?_, ?_⟩
  · exact congrArg formatHex hcan
  all_goals rw [ht]; rfl

variable [FloorRing K] (cfg : RobotControllerConfig K) (stateMachine : ControllerStateMachine K)

/-- The snapshot after a run. -/
def snapshotAfter (es : List (TelemetryEvent K)) (i : SnapshotInputs K) : RobotSnapshot K :=
  makeSnapshot cfg i (final (telemetryStep cfg) (telemetryStart stateMachine) es)

/-- A driver whose feedback time is not positive has heard nothing. -/
theorem unheard_of_lastFeedbackT {canId : ℤ} (hid : canId ∈ cfg.canIds)
    {es : List (TelemetryEvent K)} (htimes : ∀ frame now, .frame frame now ∈ es → 0 < now)
    (hnever : ¬ 0 < (driverAfter cfg stateMachine es canId).lastFeedbackT) :
    ∀ e ∈ es, feedbackTime? canId e = none := by
  rw [← latest_eq_none_iff]
  by_contra hsome
  obtain ⟨now, hnow⟩ := Option.ne_none_iff_exists'.mp hsome
  obtain ⟨e, he, htime⟩ := mem_of_latest hnow
  apply hnever
  rw [driver_lastFeedbackT cfg stateMachine hid htimes, hnow]
  cases e with
  | tick input => cases htime
  | frame frame now' =>
      have hsame : now' = now := by
        simp only [feedbackTime?] at htime
        split at htime
        · exact Option.some.inj htime
        · cases htime
      exact hsame ▸ htimes frame now' he

/-- A snapshot has one entry for each configured actuator. -/
theorem length_actuators_snapshotAfter (es : List (TelemetryEvent K)) (i : SnapshotInputs K) :
    (snapshotAfter cfg stateMachine es i).actuators.length = cfg.actuators.keys.length := by
  show (cfg.actuators.sortedKeys.map _).length = _
  rw [List.length_map, Dict.sortedKeys, List.length_insertionSort]

theorem exists_actuator_snapshotAfter_iff (es : List (TelemetryEvent K)) (i : SnapshotInputs K)
    (canId : ℤ) :
    (∃ a ∈ (snapshotAfter cfg stateMachine es i).actuators, a.canId = canId) ↔
      canId ∈ cfg.canIds := by
  rw [← mem_keys_actuators, ← Dict.mem_sortedKeys]
  constructor
  · rintro ⟨a, ha, rfl⟩
    obtain ⟨canId, hid, rfl⟩ := List.mem_map.mp ha
    exact hid
  · intro hid
    exact ⟨_, List.mem_map_of_mem hid, rfl⟩

/-- **One actuator of a snapshot** is read back as it was exactly when its id fits and it has heard no
feedback yet. -/
theorem actuator_faithful_iff {es : List (TelemetryEvent K)}
    (htimes : ∀ frame now, .frame frame now ∈ es → 0 < now) (i : SnapshotInputs K) {canId : ℤ}
    (hid : canId ∈ cfg.canIds) {a : ActuatorSnapshot K}
    (ha : a ∈ (snapshotAfter cfg stateMachine es i).actuators) (hcan : a.canId = canId) :
    actuatorToDict (.ofSnapshot a) = a ↔
      (0 ≤ canId ∧ canId < 2 ^ 32) ∧ ∀ e ∈ es, feedbackTime? canId e = none := by
  obtain ⟨canId', -, rfl⟩ := List.mem_map.mp ha
  obtain rfl : canId' = canId := hcan
  obtain ⟨htorque, hfault⟩ := driver_sound cfg stateMachine hid es
  rw [actuator_readBack_iff hfault]
  · apply and_congr_right
    intro _
    constructor
    · intro hmeasured
      -- the torque is not known, so there was no feedback
      have hnever := (hmeasured none (by
        rw [ActuatorSnapshot.measurements]
        simp only [List.mem_cons]
        exact Or.inr (Or.inr (Or.inl htorque.symm)))).not.mpr (by simp)
      exact unheard_of_lastFeedbackT cfg stateMachine hid htimes hnever
    · intro hnone x hx
      have hstate := driver_unheard cfg stateMachine hid hnone
      unfold driverAfter at hstate
      simp only [ActuatorSnapshot.measurements, hstate, List.mem_cons, List.not_mem_nil, or_false,
        or_self] at hx
      simp only [hstate, hx, lt_irrefl, Option.isSome_none, Bool.false_eq_true]
  · intro age hage
    simp only at hage
    split at hage
    · cases hage
    · obtain rfl := Option.some.inj hage
      exact le_max_left _ _

/-- **When telemetry invents nothing**: when at most twelve actuators are configured, their ids fit,
and none of them has heard feedback yet. -/
theorem telemetry_faithful_iff {es : List (TelemetryEvent K)}
    (htimes : ∀ frame now, .frame frame now ∈ es → 0 < now) (i : SnapshotInputs K) (now : K) :
    TelemetryFaithful (snapshotAfter cfg stateMachine es i)
        (robotStateToDict now (snapshotToCstruct (snapshotAfter cfg stateMachine es i))) ↔
      cfg.actuators.keys.length ≤ maxRobotStateActuators ∧
        ∀ canId ∈ cfg.canIds, (0 ≤ canId ∧ canId < 2 ^ 32) ∧
          ∀ e ∈ es, feedbackTime? canId e = none := by
  have hcount := length_actuators_snapshotAfter cfg stateMachine es i
  have hids := exists_actuator_snapshotAfter_iff cfg stateMachine es i
  have hback := actuators_readBack now (snapshotAfter cfg stateMachine es i)
  constructor
  · intro hfaithful
    have hlist := hback.symm.trans hfaithful.actuators
    have hle : cfg.actuators.keys.length ≤ maxRobotStateActuators := by
      have hlen := congrArg List.length hlist
      rw [List.length_map, List.length_take, hcount] at hlen
      omega
    refine ⟨hle, ?_⟩
    intro canId hid
    obtain ⟨a, ha, hcan⟩ := (hids canId).mpr hid
    rw [List.take_of_length_le (hcount ▸ hle)] at hlist
    have hself := List.map_inj_left.mp (hlist.trans (List.map_id _).symm) a ha
    exact (actuator_faithful_iff cfg stateMachine htimes i hid ha hcan).mp hself
  · rintro ⟨hle, hall⟩
    have hrecorded := targetsRecorded_run cfg stateMachine es
    refine ⟨modeName_modeValue _, commandOutputSourceName_value _, ⟨rfl, rfl, rfl⟩, ?_, ?_,
      flagByte_ne_zero _, flagByte_ne_zero _, flagByte_ne_zero _, flagByte_ne_zero _⟩
    · rw [hback, List.take_of_length_le (hcount ▸ hle)]
      refine (List.map_inj_left.mpr ?_).trans (List.map_id _)
      intro a ha
      have hid := (hids a.canId).mp ⟨a, ha, rfl⟩
      exact (actuator_faithful_iff cfg stateMachine htimes i hid ha rfl).mpr (hall a.canId hid)
    · have hlen : (snapshotAfter cfg stateMachine es i).commandOutput.targets.length ≤
          maxRobotStateActuators := hrecorded.length_le.trans (max_le le_rfl hle)
      rw [targets_readBack, List.take_of_length_le hlen, List.forall₂_map_right_iff,
        List.forall₂_same]
      intro t ht
      exact target_readBack (hrecorded.finite t ht) (hall t.canId (hrecorded.configured t ht)).1

end Law

/-- A snapshot taken at two seconds, nothing known of the IMU. -/
def earlyInputs : SnapshotInputs ℚ :=
  ⟨2, 2, 0, 1 / 10, ⟨none, none, none, 0, 0, false, false, true, true⟩⟩

/-- A frame that is too short is not feedback: nothing is known, and nothing is told. -/
theorem telemetry_faithful_short :
    TelemetryFaithful
      (snapshotAfter twoActuatorConfig freshController.stateMachine [.frame ⟨0x101, [0xC0]⟩ 1]
        earlyInputs)
      (robotStateToDict 3 (snapshotToCstruct (snapshotAfter twoActuatorConfig
        freshController.stateMachine [.frame ⟨0x101, [0xC0]⟩ 1] earlyInputs))) := by
  refine (telemetry_faithful_iff twoActuatorConfig freshController.stateMachine ?_ earlyInputs
    3).mpr ⟨by decide, ?_⟩
  · intro frame now hmem
    obtain ⟨-, rfl⟩ : frame = ⟨0x101, [0xC0]⟩ ∧ now = 1 := by simpa using hmem
    norm_num
  · intro canId hid
    simp only [twoActuatorConfig, List.mem_cons, List.not_mem_nil, or_false] at hid
    refine ⟨by omega, ?_⟩
    intro e he
    obtain rfl := List.mem_singleton.mp he
    simp [feedbackTime?]

/-- An acknowledgement says nothing about the position; the reader is told zero. -/
theorem ack_tells_position :
    ¬ TelemetryFaithful
      (snapshotAfter twoActuatorConfig freshController.stateMachine
        [.frame ⟨0x101, [0xC1, 0, 0, 0, 0, 0, 0, 0]⟩ 1] earlyInputs)
      (robotStateToDict 3 (snapshotToCstruct (snapshotAfter twoActuatorConfig
        freshController.stateMachine [.frame ⟨0x101, [0xC1, 0, 0, 0, 0, 0, 0, 0]⟩ 1]
        earlyInputs))) := by
  intro hfaithful
  have hpositions := congrArg (List.map ActuatorSnapshot.positionRad) hfaithful.actuators
  exact absurd hpositions (by decide +kernel)

end SparqControl.Telemetry
