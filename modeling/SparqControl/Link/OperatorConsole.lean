/-
# SparqControl.Link.OperatorConsole — the dashboard and the controller, joined by two segments.

The controller publishes its state after a tick, at most once a publish period; the dashboard reads it,
holds it for unavailable once it is older than the stale timeout, and asks it before it lets an operator
enable a motor or move a zero reference. The operator's commands go the other way, through the one slot
the controller polls. NOBODY ELSE writes that slot, and the state machine itself takes a ZERO_SET in
every mode but ESTOP, so that a zero reference moves only in NORMAL rests on the dashboard's gate alone.

What the gate is worth across every interleaving is `Shown`: the state it went by was really the
controller's, was at most the stale timeout old, and was not followed by a finished tick a publish period
or more later. `dashboard_frames_follow_controller` says it of the frames the dashboard sends itself,
`zero_sets_follow_controller` of those the controller sends on its behalf.
-/
import SparqControl.Controller.ZeroReference
import SparqControl.Dashboard.CommandService
import SparqControl.Telemetry.Snapshot

namespace SparqControl.Link

open SparqControl.Hal SparqControl.Hw SparqControl.Shm SparqControl.Controller SparqControl.Telemetry
open SparqControl.Dashboard (twoActuatorDashboard lockedService PyUnicode ServiceConfig CommandService ClientOutcome Call CallEnv
  CallOutput CallError AliasedRaw callStep requireControllerState controllerSafetyState
  controllerSafetyReason normalizeStateName enableBlockStates GateRespected gateRespected_entry
  EnableForbidden)
open SparqControl.Lib.Trace

/-! ## The state channel -/

/-- What both clocks show. -/
structure Clock (K : Type) where
  monotonic : K
  unix : K

/-- The control-state segment and the publisher's memory of its last write. A segment that was never
written has a zero `timestamp_ns` and reads as nothing. -/
structure StateChannel (K : Type) where
  shm : Option (RobotStateC K)
  lastPublishT : K

/-- What `publish` did: it wrote the snapshot, or found its last write too recent. -/
inductive PublishResult (K : Type) where
  | wrote (now : K) (snapshot : RobotSnapshot K)
  | skipped (now : K)

section Channel

variable {K : Type} [Field K] [LinearOrder K]

/-- `ShmStatePublisher.publish`. -/
def publish (publishPeriodS : K) (channel : StateChannel K) (now : K) (force : Bool)
    (snapshot : RobotSnapshot K) : StateChannel K × PublishResult K :=
  if !force && decide (now - channel.lastPublishT < publishPeriodS) then (channel, .skipped now)
  else (⟨some (snapshotToCstruct snapshot), now⟩, .wrote now snapshot)

/-- The statuses `_read_channel` reports of a segment that is open and holds the one known schema. -/
inductive ChannelStatus where
  | waiting
  | stale
  | online
  deriving DecidableEq

/-- `_channel_result`. -/
structure ChannelResult (K : Type) where
  status : ChannelStatus
  payload : Option (RobotStateDict K)
  ageS : Option K

/-- `_read_channel`. -/
def readChannel (staleTimeoutS : K) (clock : Clock K) (channel : StateChannel K) : ChannelResult K :=
  match channel.shm with
  | none => ⟨.waiting, none, none⟩
  | some state =>
      let robotState := robotStateToDict clock.monotonic state
      let ageS := max 0 (clock.unix - robotState.timestampUnix)
      ⟨if ageS > staleTimeoutS then .stale else .online, some robotState, some ageS⟩

/-- The part of `_controller_snapshot` the command service goes by. -/
structure ControllerSnapshot where
  status : ChannelStatus
  safetyState : Option String
  safetyReason : Option String

/-- `_controller_snapshot`. The record has neither a `safety_state` nor a `safety_reason`, so the
controller state stands for the first and nothing for the second. -/
def controllerSnapshot (r : ChannelResult K) : ControllerSnapshot where
  status := r.status
  safetyState := r.payload.map RobotStateDict.controllerState
  safetyReason := none

/-- `current_controller_snapshot`. -/
def currentControllerSnapshot (staleTimeoutS : K) (clock : Clock K) (channel : StateChannel K) :
    Option ControllerSnapshot :=
  let controller := controllerSnapshot (readChannel staleTimeoutS clock channel)
  if controller.status ≠ .online then none else some controller

/-- `current_controller_safety_state`. -/
def currentControllerSafetyState (staleTimeoutS : K) (clock : Clock K) (channel : StateChannel K) :
    Option String :=
  (currentControllerSnapshot staleTimeoutS clock channel).bind ControllerSnapshot.safetyState

/-- `current_controller_safety_reason`. -/
def currentControllerSafetyReason (staleTimeoutS : K) (clock : Clock K) (channel : StateChannel K) :
    Option String :=
  (currentControllerSnapshot staleTimeoutS clock channel).bind ControllerSnapshot.safetyReason

/-- A state is reported exactly from a record that is young enough, and it is the record's mode. -/
theorem currentControllerSafetyState_eq_some {staleTimeoutS : K} {clock : Clock K}
    {channel : StateChannel K} {name : String}
    (h : currentControllerSafetyState staleTimeoutS clock channel = some name) :
    ∃ state, channel.shm = some state ∧ name = modeName state.controllerMode.toNat ∧
      clock.unix - state.timestampUnix ≤ staleTimeoutS := by
  unfold currentControllerSafetyState currentControllerSnapshot readChannel controllerSnapshot at h
  cases hshm : channel.shm with
  | none =>
      rw [hshm] at h
      cases h
  | some state =>
      rw [hshm] at h
      dsimp only at h
      split at h
      · cases h
      · rename_i hage
        exact ⟨state, rfl, (Option.some.inj h).symm, (le_max_right _ _).trans (not_lt.mp hage)⟩

end Channel

/-! ## The operator's endpoints -/

/-- The flags `OperatorCommandShmWriter.publish` takes. -/
structure OperatorFlags where
  arm : Bool := false
  clearFault : Bool := false
  estop : Bool := false
  damping : Bool := false
  zeroSet : Bool := false
  disable : Bool := false
  run : Bool := false

/-- The code `OperatorCommandShmWriter.publish` sends: the first flag in ITS order wins, and an enable
comes before an emergency stop. -/
def OperatorFlags.code (flags : OperatorFlags) : OperatorCommandCode :=
  if flags.arm then .enable
  else if flags.run then .run
  else if flags.clearFault then .resetFault
  else if flags.estop then .estop
  else if flags.damping then .damping
  else if flags.zeroSet then .zeroSet
  else if flags.disable then .disable
  else .none

/-- `OperatorCommandShmWriter.publish`. -/
def writerPublish (shm : OperatorCommandShm) (timeNs : ℤ) (flags : OperatorFlags) :
    OperatorCommandShm × Except PyError UInt64 :=
  match flags.code with
  | .zeroSet => shm.publishZeroSet timeNs []
  | code => shm.publish timeNs code.value 0

/-- The operator endpoints that take no arguments. -/
inductive OperatorButton where
  | faultClear
  | arm
  | run
  | damping
  | estop
  deriving DecidableEq

/-- The one flag an endpoint sets. -/
def OperatorButton.flags : OperatorButton → OperatorFlags
  | .faultClear => { clearFault := true }
  | .arm => { arm := true }
  | .run => { run := true }
  | .damping => { damping := true }
  | .estop => { estop := true }

/-- Why a zero-set request failed: the gate, or a value. -/
inductive ZeroSetError where
  | command (error : CallError)
  | value (error : PyError)

section Endpoints

variable {K : Type}

/-- The checks `publish_operator_zero_set` makes on one target. -/
def zeroTargetError (c : ServiceConfig K) (target : ℤ × ℤ) : Option PyError :=
  if c.actuatorConfigForCanId target.1 = none then
    some (.valueError ("Unknown actuator CAN ID 0x" ++ Dashboard.formatHex 3 target.1))
  else if -32768 ≤ target.2 ∧ target.2 ≤ 32767 then none
  else some (.valueError ("MIT zero offset_count out of int16 range: " ++ toString target.2))

/-- `publish_operator_zero_set`. -/
def publishOperatorZeroSet (c : ServiceConfig K) (env : CallEnv) (shm : OperatorCommandShm)
    (timeNs : ℤ) (targets : List (ℤ × ℤ)) : OperatorCommandShm × Except ZeroSetError UInt64 :=
  match requireControllerState .ascii c env "Operator zero set" ["NORMAL"] with
  | .error error => (shm, .error (.command error))
  | .ok () =>
      match targets.findSome? (zeroTargetError c) with
      | some error => (shm, .error (.value error))
      | none =>
          let (shm, result) := shm.publishZeroSet timeNs targets
          (shm, result.mapError .value)

end Endpoints

/-! ## The joined system -/

/-- What both sides are configured with. -/
structure ConsoleConfig (K : Type) [Field K] where
  controller : RobotControllerConfig K
  service : ServiceConfig K
  publishPeriodS : K
  staleTimeoutS : K

/-- The controller with its drivers, the two segments, and the dashboard's command service. -/
structure Console (K : Type) [Field K] [LinearOrder K] where
  telemetry : TelemetryState K
  operatorShm : OperatorCommandShm
  channel : StateChannel K
  service : CommandService

/-- One event: a frame for a driver, a tick with the publication after it, a publication that is forced
(when the controller starts and when it shuts down), and the dashboard's endpoints. -/
inductive ConsoleEvent (K : Type) where
  | frame (frame : CANFrame) (now : K)
  | tick (env : TickEnv K) (inputs : SnapshotInputs K) (publishNow : K)
  | forcePublish (inputs : SnapshotInputs K) (publishNow : K)
  | call (request : Call) (clock : Clock K) (connect send : ClientOutcome)
  | button (button : OperatorButton) (timeNs : ℤ)
  | zeroSet (targets : List (ℤ × ℤ)) (timeNs : ℤ) (clock : Clock K)

/-- What an event did. A tick that raises ends before it publishes. -/
inductive ConsoleOut (K : Type) where
  | received
  | ticked (outcome : TickOutcome) (publication : Option (PublishResult K))
  | forced (publication : PublishResult K)
  | called (output : CallOutput)
  | pressed (result : Except PyError UInt64)
  | zeroSet (result : Except ZeroSetError UInt64)

/-- The publication an event came to. -/
def ConsoleOut.publication? {K : Type} : ConsoleOut K → Option (PublishResult K)
  | .ticked _ publication => publication
  | .forced publication => some publication
  | _ => none

section System

variable {K : Type} [Field K] [LinearOrder K] [IsStrictOrderedRing K] [FloorRing K]
  (cfg : ConsoleConfig K)

/-- What a call of the command service is answered with: its providers read the channel. -/
def Console.callEnv (w : Console K) (clock : Clock K) (connect send : ClientOutcome) : CallEnv where
  safetyState := currentControllerSafetyState cfg.staleTimeoutS clock w.channel
  safetyReason := currentControllerSafetyReason cfg.staleTimeoutS clock w.channel
  connect := connect
  send := send

/-- One event. -/
def consoleStep (w : Console K) : ConsoleEvent K → Console K × ConsoleOut K
  | .frame frame now =>
      ({ w with telemetry := (telemetryStep cfg.controller w.telemetry (.frame frame now)).1 }, .received)
  | .tick env inputs publishNow =>
      let (controller, outcome) := tick cfg.controller w.telemetry.controller ⟨env, w.operatorShm⟩
      let telemetry := { w.telemetry with controller := controller }
      match outcome.raised with
      | some _ => ({ w with telemetry := telemetry }, .ticked outcome none)
      | none =>
          let (channel, result) := publish cfg.publishPeriodS w.channel publishNow false
            (makeSnapshot cfg.controller inputs telemetry)
          ({ w with telemetry := telemetry, channel := channel }, .ticked outcome (some result))
  | .forcePublish inputs publishNow =>
      let (channel, result) := publish cfg.publishPeriodS w.channel publishNow true
        (makeSnapshot cfg.controller inputs w.telemetry)
      ({ w with channel := channel }, .forced result)
  | .call request clock connect send =>
      let (service, output) :=
        callStep .ascii cfg.service w.service (request, w.callEnv cfg clock connect send)
      ({ w with service := service }, .called output)
  | .button button timeNs =>
      let (shm, result) := writerPublish w.operatorShm timeNs button.flags
      ({ w with operatorShm := shm }, .pressed result)
  | .zeroSet targets timeNs clock =>
      let (shm, result) := publishOperatorZeroSet cfg.service (w.callEnv cfg clock .ok .ok)
        w.operatorShm timeNs targets
      ({ w with operatorShm := shm }, .zeroSet result)

/-- Before the first event: the segments are created and cleared, the service is as it was built. -/
def consoleStart (stateMachine : ControllerStateMachine K) (shm : OperatorCommandShm)
    (service : CommandService) : Console K :=
  ⟨telemetryStart stateMachine, shm.clear, ⟨none, 0⟩, service⟩

/-- One recorded event. -/
abbrev ConsoleEntry (K : Type) [Field K] [LinearOrder K] :=
  Entry (Console K) (ConsoleEvent K) (ConsoleOut K)

/-- A recorded interleaving. -/
def consoleRun (w : Console K) (events : List (ConsoleEvent K)) : List (ConsoleEntry K) :=
  trace (consoleStep cfg) w events

/-- The mode the controller is in. -/
def Console.mode (w : Console K) : ControllerMode := w.telemetry.controller.stateMachine.mode

end System

/-! ## What the dashboard was shown -/

section Shown

variable {K : Type} [Field K] [LinearOrder K] [IsStrictOrderedRing K] [FloorRing K]
  {cfg : ConsoleConfig K}

omit [IsStrictOrderedRing K] [FloorRing K] in
theorem publish_cases (publishPeriodS : K) (channel : StateChannel K) (now : K) (force : Bool)
    (snapshot : RobotSnapshot K) :
    publish publishPeriodS channel now force snapshot =
        (⟨some (snapshotToCstruct snapshot), now⟩, .wrote now snapshot) ∨
      publish publishPeriodS channel now force snapshot = (channel, .skipped now) ∧
        now - channel.lastPublishT < publishPeriodS := by
  unfold publish
  split
  · rename_i hrecent
    rw [Bool.and_eq_true, decide_eq_true_iff] at hrecent
    exact Or.inr ⟨rfl, hrecent.2⟩
  · exact Or.inl rfl

/-- An event wrote the segment. -/
def Wrote (e : ConsoleEntry K) (now : K) (snapshot : RobotSnapshot K) : Prop :=
  e.out.publication? = some (.wrote now snapshot)

/-- **One event of the channel.** It writes a snapshot of the mode the controller is then in, or leaves
the segment alone, and skips a publication only within a period of the last write. -/
theorem channel_consoleStep (cfg : ConsoleConfig K) (w : Console K) (ev : ConsoleEvent K) :
    (∃ now snapshot, Wrote (entry (consoleStep cfg) w ev) now snapshot ∧
      (consoleStep cfg w ev).1.channel = ⟨some (snapshotToCstruct snapshot), now⟩ ∧
      snapshot.mode = (consoleStep cfg w ev).1.mode) ∨
    (∀ now snapshot, ¬ Wrote (entry (consoleStep cfg) w ev) now snapshot) ∧
      (consoleStep cfg w ev).1.channel = w.channel ∧
      ∀ now, (consoleStep cfg w ev).2.publication? = some (.skipped now) →
        now - w.channel.lastPublishT < cfg.publishPeriodS := by
  unfold Wrote
  rw [entry_out]
  -- events that publish nothing
  have hquiet : (consoleStep cfg w ev).2.publication? = none →
      (consoleStep cfg w ev).1.channel = w.channel →
      (∀ now snapshot, (consoleStep cfg w ev).2.publication? ≠ some (.wrote now snapshot)) ∧
        (consoleStep cfg w ev).1.channel = w.channel ∧
        ∀ now, (consoleStep cfg w ev).2.publication? = some (.skipped now) →
          now - w.channel.lastPublishT < cfg.publishPeriodS := by
    intro hnone hchannel
    rw [hnone]
    refine ⟨fun now snapshot h => ?_, hchannel, fun now h => ?_⟩
    · cases h
    · cases h
  cases ev with
  | frame frame now => exact Or.inr (hquiet rfl rfl)
  | tick env inputs publishNow =>
      rw [consoleStep] at hquiet ⊢
      generalize tick cfg.controller w.telemetry.controller ⟨env, w.operatorShm⟩ = ticked at hquiet ⊢
      obtain ⟨controller, outcome⟩ := ticked
      dsimp only at hquiet ⊢
      cases hraised : outcome.raised with
      | some error =>
          rw [hraised] at hquiet
          exact Or.inr (hquiet rfl rfl)
      | none =>
          clear hquiet
          dsimp only
          have hmode : (makeSnapshot cfg.controller inputs
              { w.telemetry with controller := controller }).mode = controller.stateMachine.mode := rfl
          generalize makeSnapshot cfg.controller inputs
            { w.telemetry with controller := controller } = snapshot at hmode ⊢
          rcases publish_cases cfg.publishPeriodS w.channel publishNow false snapshot with
            hwrote | ⟨hskip, hrecent⟩
          · rw [hwrote]
            exact Or.inl ⟨publishNow, snapshot, rfl, rfl, hmode⟩
          · rw [hskip]
            refine Or.inr ⟨fun now snapshot' hwrote => ?_, rfl, fun now hnow => ?_⟩
            · have hne : some (PublishResult.skipped publishNow) = some (.wrote now snapshot') := hwrote
              cases Option.some.inj hne
            · obtain rfl := PublishResult.skipped.inj (Option.some.inj hnow)
              exact hrecent
  | forcePublish inputs publishNow =>
      clear hquiet
      rw [consoleStep]
      have hmode : (makeSnapshot cfg.controller inputs w.telemetry).mode = w.mode := rfl
      generalize makeSnapshot cfg.controller inputs w.telemetry = snapshot at hmode ⊢
      have hwrote : publish cfg.publishPeriodS w.channel publishNow true snapshot =
          (⟨some (snapshotToCstruct snapshot), publishNow⟩, .wrote publishNow snapshot) := by
        unfold publish
        rw [Bool.not_true, Bool.false_and, if_neg Bool.false_ne_true]
      rw [hwrote]
      exact Or.inl ⟨publishNow, snapshot, rfl, rfl, hmode⟩
  | call request clock connect send =>
      rw [consoleStep] at hquiet ⊢
      cases callStep .ascii cfg.service w.service (request, w.callEnv cfg clock connect send)
      exact Or.inr (hquiet rfl rfl)
  | button button timeNs =>
      rw [consoleStep] at hquiet ⊢
      cases writerPublish w.operatorShm timeNs button.flags
      exact Or.inr (hquiet rfl rfl)
  | zeroSet targets timeNs clock =>
      rw [consoleStep] at hquiet ⊢
      cases publishOperatorZeroSet cfg.service (w.callEnv cfg clock .ok .ok) w.operatorShm timeNs
        targets
      exact Or.inr (hquiet rfl rfl)

/-- An event that writes leaves its snapshot in the segment. -/
theorem channel_of_wrote {w : Console K} {ev : ConsoleEvent K} {now : K} {snapshot : RobotSnapshot K}
    (hwrote : Wrote (entry (consoleStep cfg) w ev) now snapshot) :
    (consoleStep cfg w ev).1.channel = ⟨some (snapshotToCstruct snapshot), now⟩ ∧
      snapshot.mode = (consoleStep cfg w ev).1.mode := by
  rcases channel_consoleStep cfg w ev with ⟨now', snapshot', hwrote', hchannel, hmode⟩ | ⟨hnone, -⟩
  · cases Option.some.inj (hwrote.symm.trans hwrote')
    exact ⟨hchannel, hmode⟩
  · exact absurd hwrote (hnone now snapshot)

/-- An event that writes nothing leaves the channel as it was. -/
theorem channel_of_not_wrote {w : Console K} {ev : ConsoleEvent K}
    (hnot : ∀ now snapshot, ¬ Wrote (entry (consoleStep cfg) w ev) now snapshot) :
    (consoleStep cfg w ev).1.channel = w.channel ∧
      ∀ t, (consoleStep cfg w ev).2.publication? = some (.skipped t) →
        t - w.channel.lastPublishT < cfg.publishPeriodS := by
  rcases channel_consoleStep cfg w ev with ⟨now, snapshot, hwrote, -⟩ | ⟨-, hsame⟩
  · exact absurd hwrote (hnot now snapshot)
  · exact hsame

variable (cfg) in
/-- **What an endpoint goes by** at position `n`: the latest write of the segment, made in the mode the
controller was in, at most the stale timeout old, with no finished tick since that came a publish period
or more after it. -/
def Shown (run : List (ConsoleEntry K)) (n : ℕ) (unix : K) (mode : ControllerMode) : Prop :=
  ∃ m em now snapshot, m < n ∧ run[m]? = some em ∧ Wrote em now snapshot ∧ em.after.mode = mode ∧
    unix - snapshot.timestampUnix ≤ cfg.staleTimeoutS ∧
    ∀ k ek, m < k → k < n → run[k]? = some ek →
      (∀ now' snapshot', ¬ Wrote ek now' snapshot') ∧
      ∀ t, ek.out.publication? = some (.skipped t) → t < now + cfg.publishPeriodS

/-- A state that is reported was shown. -/
theorem shown_of_reported {stateMachine : ControllerStateMachine K} {shm : OperatorCommandShm}
    {service : CommandService} {events : List (ConsoleEvent K)} {n : ℕ} {e : ConsoleEntry K}
    (he : (consoleRun cfg (consoleStart stateMachine shm service) events)[n]? = some e)
    {clock : Clock K} {name : String}
    (h : currentControllerSafetyState cfg.staleTimeoutS clock e.before.channel = some name) :
    ∃ mode, name = modeText mode ∧
      Shown cfg (consoleRun cfg (consoleStart stateMachine shm service) events) n clock.unix mode := by
  obtain ⟨state, hstate, rfl, hage⟩ := currentControllerSafetyState_eq_some h
  have hwhole : ∀ {k ek}, (consoleRun cfg (consoleStart stateMachine shm service) events)[k]? = some ek →
      ek = entry (consoleStep cfg) ek.before ek.input :=
    fun hek => eq_entry_of_mem _ (List.mem_of_getElem? hek)
  cases n with
  | zero =>
      rw [before_zero he] at hstate
      cases hstate
  | succ l =>
      obtain ⟨el, hel, hbefore⟩ := exists_previous he
      rw [hbefore] at hstate
      rcases trace_latest (fun e => ∃ now snapshot, Wrote e now snapshot) hel with
        ⟨m, em, hm, hem, ⟨now, snapshot, hwrote⟩, hnot⟩ | hnot
      · have hwritten : em.after.channel = ⟨some (snapshotToCstruct snapshot), now⟩ ∧
            snapshot.mode = em.after.mode := by
          have hm' := hwhole hem
          rw [hm'] at hwrote ⊢
          exact channel_of_wrote hwrote
        -- nothing was written since, so the channel is the one the latest write left
        have hlatch : ∀ {k ek}, m < k → k ≤ l + 1 →
            (consoleRun cfg (consoleStart stateMachine shm service) events)[k]? = some ek →
            ek.before.channel = em.after.channel := by
          intro k ek hmk hkl hek
          refine trace_latch_before (Q := fun w : Console K => w.channel = em.after.channel)
            (C := fun e => ∀ now snapshot, ¬ Wrote e now snapshot) ?_ hem rfl hmk hek ?_
          · intro w ev hw hnone
            rw [(channel_of_not_wrote hnone).1, hw]
          · intro j ej hmj hjk hej now' snapshot' hwrote'
            exact hnot j ej hmj (by omega) hej ⟨now', snapshot', hwrote'⟩
        have hlast := hlatch (by omega) le_rfl he
        rw [← hbefore, hlast, hwritten.1] at hstate
        cases hstate
        refine ⟨snapshot.mode, modeName_modeValue snapshot.mode, m, em, now, snapshot, by omega, hem,
          hwrote, hwritten.2.symm, hage, fun k ek hmk hkl hek => ?_⟩
        have hnone : ∀ now' snapshot', ¬ Wrote ek now' snapshot' := fun now' snapshot' hwrote' =>
          hnot k ek hmk (by omega) hek ⟨now', snapshot', hwrote'⟩
        refine ⟨hnone, fun t ht => ?_⟩
        have hk' := hwhole hek
        rw [hk'] at hnone ht
        have hrecent := (channel_of_not_wrote hnone).2 t ht
        rw [hlatch hmk hkl.le hek, hwritten.1] at hrecent
        exact sub_lt_iff_lt_add'.mp hrecent
      · -- no event wrote the segment: it is still the cleared one
        have hstart : el.after.channel = ⟨none, 0⟩ := by
          refine trace_unchanged_start (f := Console.channel) hel fun k ek hk hek => ?_
          have hnone : ∀ now' snapshot', ¬ Wrote ek now' snapshot' := fun now' snapshot' hwrote' =>
            hnot k ek hk hek ⟨now', snapshot', hwrote'⟩
          have hk' := hwhole hek
          rw [hk'] at hnone ⊢
          exact (channel_of_not_wrote hnone).1.symm
        rw [hstart] at hstate
        cases hstate

end Shown

/-! ## The gate -/

/-- The names of the modes are normal as they stand. -/
theorem normalizeStateName_modeText (mode : ControllerMode) :
    normalizeStateName .ascii (some (modeText mode)) = some (modeText mode) := by
  cases mode <;> decide +kernel

theorem modeText_injective {a b : ControllerMode} (h : modeText a = modeText b) : a = b := by
  cases a <;> cases b <;> first | rfl | exact absurd h (by decide)

section Gate

variable {K : Type} [Field K] [LinearOrder K] [IsStrictOrderedRing K] [FloorRing K]
  {cfg : ConsoleConfig K} {stateMachine : ControllerStateMachine K} {shm : OperatorCommandShm}
  {service : CommandService} {events : List (ConsoleEvent K)}

/-- What the gates compare: the name of a mode that was shown. -/
theorem shown_of_safetyState {n : ℕ} {e : ConsoleEntry K}
    (he : (consoleRun cfg (consoleStart stateMachine shm service) events)[n]? = some e)
    {clock : Clock K} {connect send : ClientOutcome} {name : String}
    (h : controllerSafetyState .ascii cfg.service (e.before.callEnv cfg clock connect send) =
      some name) :
    ∃ mode, name = modeText mode ∧
      Shown cfg (consoleRun cfg (consoleStart stateMachine shm service) events) n clock.unix mode := by
  unfold controllerSafetyState at h
  split at h
  · cases hreported : currentControllerSafetyState cfg.staleTimeoutS clock e.before.channel with
    | none =>
        rw [Console.callEnv, hreported] at h
        cases h
    | some reported =>
        obtain ⟨mode, rfl, hshown⟩ := shown_of_reported he hreported
        rw [Console.callEnv, hreported, normalizeStateName_modeText] at h
        exact ⟨mode, (Option.some.inj h).symm, hshown⟩
  · cases h

/-- **Frames of the command service.** A motor enable was handed over for an actuator only after a mode
was shown that allows it, a set-zero frame only after NORMAL was shown. -/
theorem dashboard_frames_follow_controller (hprovider : cfg.service.hasStateProvider = true) {n : ℕ} {e : ConsoleEntry K}
    (he : (consoleRun cfg (consoleStart stateMachine shm service) events)[n]? = some e)
    {request : Call} {clock : Clock K} {connect send : ClientOutcome} {output : CallOutput}
    (hinput : e.input = .call request clock connect send) (hout : e.out = .called output)
    (hrequest : ¬ AliasedRaw cfg.service request) {f : CANFrame} (hf : output.handed = some f)
    (hseen : cfg.service.Configured (sffId f.canId)) :
    (f.data.head? = some 0xC1 → ∃ mode, mode ≠ .disabled ∧ mode ≠ .estop ∧
      Shown cfg (consoleRun cfg (consoleStart stateMachine shm service) events) n clock.unix mode) ∧
    (f.data.head? = some 0xC3 →
      Shown cfg (consoleRun cfg (consoleStart stateMachine shm service) events) n clock.unix .normal) := by
  have hgate : GateRespected .ascii cfg.service (entry (callStep .ascii cfg.service)
      e.before.service (request, e.before.callEnv cfg clock connect send)) :=
    gateRespected_entry hprovider e.before.service hrequest
  have houtput : (callStep .ascii cfg.service e.before.service
      (request, e.before.callEnv cfg clock connect send)).2 = output := by
    have hstep := out_eq _ he
    rw [hinput, hout, consoleStep] at hstep
    exact (ConsoleOut.called.inj hstep).symm
  have hhanded : (entry (callStep .ascii cfg.service) e.before.service
      (request, e.before.callEnv cfg clock connect send)).out.handed = some f := by
    rw [entry_out, houtput, hf]
  constructor
  · intro hopcode
    have hallowed := hgate.enter f hhanded hopcode hseen
    rw [entry_input] at hallowed
    cases hstate : controllerSafetyState .ascii cfg.service
        (e.before.callEnv cfg clock connect send) with
    | none => exact absurd (Or.inl hstate) hallowed
    | some name =>
        obtain ⟨mode, rfl, hshown⟩ := shown_of_safetyState he hstate
        have hblocked : ∀ blocked : ControllerMode, modeText blocked ∈ enableBlockStates →
            mode ≠ blocked := by
          rintro blocked hmem rfl
          exact hallowed (Or.inr (Or.inl ⟨_, hmem, hstate⟩))
        exact ⟨mode, hblocked .disabled (by decide), hblocked .estop (by decide), hshown⟩
  · intro hopcode
    obtain ⟨mode, hname, hshown⟩ := shown_of_safetyState he (hgate.zero f hhanded hopcode hseen)
    obtain rfl : ControllerMode.normal = mode := modeText_injective hname
    exact hshown

end Gate

/-! ## The slot -/

section Endpoint

variable {K : Type}

open OperatorCommandShm (AcceptedTargets builtCommand)

/-- A granted request passed the gate, and its targets are in the slot. -/
theorem publishOperatorZeroSet_ok {c : ServiceConfig K} {env : CallEnv} {shm shm' : OperatorCommandShm}
    {timeNs : ℤ} {targets : List (ℤ × ℤ)} {stamp : UInt64}
    (h : publishOperatorZeroSet c env shm timeNs targets = (shm', .ok stamp)) :
    controllerSafetyState .ascii c env = some "NORMAL" ∧ AcceptedTargets targets ∧
      shm'.readRelaxed = builtCommand timeNs OperatorCommandCode.zeroSet.value 0 targets := by
  unfold publishOperatorZeroSet at h
  cases hgate : requireControllerState .ascii c env "Operator zero set" ["NORMAL"] with
  | error error =>
      rw [hgate] at h
      cases h
  | ok u =>
      rw [hgate] at h
      dsimp only at h
      have hnormal : controllerSafetyState .ascii c env = some "NORMAL" := by
        unfold requireControllerState at hgate
        split at hgate
        · cases hgate
        · rename_i name hname
          split at hgate
          · rename_i hmem
            rw [hname, List.mem_singleton.mp hmem]
          · cases hgate
      split at h
      · cases h
      · by_cases haccepted : AcceptedTargets targets
        · rw [OperatorCommandShm.publishZeroSet_accepted _ _ haccepted] at h
          cases h
          exact ⟨hnormal, haccepted, OperatorCommandShm.readRelaxed_write _ _⟩
        · obtain ⟨e, he⟩ := OperatorCommandShm.publishZeroSet_rejected shm timeNs haccepted
          rw [he] at h
          cases h

/-- A request that is not granted leaves the slot as it was. -/
theorem publishOperatorZeroSet_error {c : ServiceConfig K} {env : CallEnv}
    {shm shm' : OperatorCommandShm} {timeNs : ℤ} {targets : List (ℤ × ℤ)} {error : ZeroSetError}
    (h : publishOperatorZeroSet c env shm timeNs targets = (shm', .error error)) : shm' = shm := by
  unfold publishOperatorZeroSet at h
  split at h
  · cases h
    rfl
  · split at h
    · cases h
      rfl
    · by_cases haccepted : AcceptedTargets targets
      · rw [OperatorCommandShm.publishZeroSet_accepted _ _ haccepted] at h
        cases h
      · obtain ⟨e, he⟩ := OperatorCommandShm.publishZeroSet_rejected shm timeNs haccepted
        rw [he] at h
        cases h
        rfl

theorem code?_builtCommand (timeNs : ℤ) (code : OperatorCommandCode) (targets : List (ℤ × ℤ)) :
    (builtCommand timeNs code.value 0 targets).code? = some code := by
  cases code <;> rfl

/-- No button writes a zero set. -/
theorem code?_button (shm : OperatorCommandShm) (timeNs : ℤ) (button : OperatorButton) :
    (writerPublish shm timeNs button.flags).1.readRelaxed.code? ≠ some .zeroSet := by
  have hcode : ∀ code : OperatorCommandCode, code ≠ .zeroSet →
      (shm.publish timeNs code.value 0).1.readRelaxed.code? ≠ some .zeroSet := by
    intro code hne
    rw [OperatorCommandShm.publish_eq, OperatorCommandShm.readRelaxed_write, code?_builtCommand]
    exact fun h => hne (Option.some.inj h)
  unfold writerPublish
  cases button <;> exact hcode _ (by decide)

end Endpoint

section Slot

variable {K : Type} [Field K] [LinearOrder K] [IsStrictOrderedRing K] [FloorRing K]

open OperatorCommandShm (AcceptedTargets builtCommand)

/-- The record of the operator slot. -/
def Console.slot (w : Console K) : OperatorCommandC := w.operatorShm.readRelaxed

/-- An event is a zero-set request that was granted. -/
def Granted (e : ConsoleEntry K) (targets : List (ℤ × ℤ)) (timeNs : ℤ) (clock : Clock K) : Prop :=
  e.input = .zeroSet targets timeNs clock ∧ ∃ stamp, e.out = .zeroSet (.ok stamp)

/-- **One event of the slot.** It is a granted request, or it leaves no new zero set there. -/
theorem slot_consoleStep (cfg : ConsoleConfig K) (w : Console K) (ev : ConsoleEvent K) :
    (∃ targets timeNs clock, Granted (entry (consoleStep cfg) w ev) targets timeNs clock ∧
      controllerSafetyState .ascii cfg.service (w.callEnv cfg clock .ok .ok) = some "NORMAL" ∧
      AcceptedTargets targets ∧ (consoleStep cfg w ev).1.slot =
        builtCommand timeNs OperatorCommandCode.zeroSet.value 0 targets) ∨
    (∀ targets timeNs clock, ¬ Granted (entry (consoleStep cfg) w ev) targets timeNs clock) ∧
      ((consoleStep cfg w ev).1.slot.code? ≠ some .zeroSet ∨
        (consoleStep cfg w ev).1.slot = w.slot) := by
  have hother : (∀ targets timeNs clock, ev ≠ .zeroSet targets timeNs clock) →
      ∀ targets timeNs clock, ¬ Granted (entry (consoleStep cfg) w ev) targets timeNs clock :=
    fun hev targets timeNs clock hgranted => hev targets timeNs clock hgranted.1
  cases ev with
  | frame frame now => exact Or.inr ⟨hother nofun, Or.inr rfl⟩
  | tick env inputs publishNow =>
      refine Or.inr ⟨hother nofun, Or.inr ?_⟩
      rw [consoleStep]
      generalize tick cfg.controller w.telemetry.controller ⟨env, w.operatorShm⟩ = ticked
      obtain ⟨controller, outcome⟩ := ticked
      dsimp only
      cases outcome.raised <;> rfl
  | forcePublish inputs publishNow => exact Or.inr ⟨hother nofun, Or.inr rfl⟩
  | call request clock connect send =>
      refine Or.inr ⟨hother nofun, Or.inr ?_⟩
      rw [consoleStep]
      cases callStep .ascii cfg.service w.service (request, w.callEnv cfg clock connect send)
      rfl
  | button button timeNs =>
      refine Or.inr ⟨hother nofun, Or.inl ?_⟩
      exact code?_button w.operatorShm timeNs button
  | zeroSet targets timeNs clock =>
      cases hresult : publishOperatorZeroSet cfg.service (w.callEnv cfg clock .ok .ok) w.operatorShm
          timeNs targets with
      | mk shm' result =>
          have hstep : consoleStep cfg w (.zeroSet targets timeNs clock) =
              ({ w with operatorShm := shm' }, .zeroSet result) := by
            rw [consoleStep, hresult]
          cases result with
          | ok stamp =>
              obtain ⟨hnormal, haccepted, hslot⟩ := publishOperatorZeroSet_ok hresult
              refine Or.inl ⟨targets, timeNs, clock, ⟨rfl, stamp, ?_⟩, hnormal, haccepted, ?_⟩
              · rw [entry_out, hstep]
              · rw [hstep]
                exact hslot
          | error error =>
              refine Or.inr ⟨?_, Or.inr ?_⟩
              · rintro targets' timeNs' clock' ⟨-, stamp, hout⟩
                rw [entry_out, hstep] at hout
                cases ConsoleOut.zeroSet.inj hout
              · rw [hstep, Console.slot, Console.slot, publishOperatorZeroSet_error hresult]

/-- One event of the mode: a tick takes a step of the table, nothing else moves it. -/
theorem mode_consoleStep (cfg : ConsoleConfig K) (w : Console K) (ev : ConsoleEvent K) :
    (∃ env inputs publishNow, ev = .tick env inputs publishNow ∧ (consoleStep cfg w ev).1.mode =
      (tick cfg.controller w.telemetry.controller ⟨env, w.operatorShm⟩).1.stateMachine.mode) ∨
    (consoleStep cfg w ev).1.mode = w.mode := by
  cases ev with
  | frame frame now => exact Or.inr rfl
  | tick env inputs publishNow =>
      refine Or.inl ⟨env, inputs, publishNow, rfl, ?_⟩
      rw [consoleStep]
      generalize tick cfg.controller w.telemetry.controller ⟨env, w.operatorShm⟩ = ticked
      obtain ⟨controller, outcome⟩ := ticked
      dsimp only
      cases outcome.raised <;> rfl
  | forcePublish inputs publishNow => exact Or.inr rfl
  | call request clock connect send => exact Or.inr rfl
  | button button timeNs => exact Or.inr rfl
  | zeroSet targets timeNs clock => exact Or.inr rfl

/-- A granted request of the past that passed the gate. -/
def GrantedInNormal (cfg : ConsoleConfig K) (past : List (ConsoleEntry K)) (targets : List (ℤ × ℤ))
    (timeNs : ℤ) : Prop :=
  ∃ (p : ℕ) (ep : ConsoleEntry K) (clock : Clock K), past[p]? = some ep ∧
    Granted ep targets timeNs clock ∧
    controllerSafetyState .ascii cfg.service (ep.before.callEnv cfg clock .ok .ok) = some "NORMAL"

/-- Where zero sets come from: one that is in the slot is a granted request's, and the controller is in
ZERO_SETTING only after one. -/
structure ZeroOrigin (cfg : ConsoleConfig K) (past : List (ConsoleEntry K)) (w : Console K) : Prop where
  slot : w.slot.code? = some .zeroSet → ∃ targets timeNs, AcceptedTargets targets ∧
    w.slot = builtCommand timeNs OperatorCommandCode.zeroSet.value 0 targets ∧
    GrantedInNormal cfg past targets timeNs
  mode : w.mode = .zeroSetting → ∃ targets timeNs, GrantedInNormal cfg past targets timeNs

omit [IsStrictOrderedRing K] [FloorRing K] in
theorem GrantedInNormal.concat {cfg : ConsoleConfig K} {past : List (ConsoleEntry K)}
    {targets : List (ℤ × ℤ)} {timeNs : ℤ} (h : GrantedInNormal cfg past targets timeNs)
    (e : ConsoleEntry K) : GrantedInNormal cfg (past ++ [e]) targets timeNs := by
  obtain ⟨p, ep, clock, hp, hgranted⟩ := h
  exact ⟨p, ep, clock, (List.getElem?_append_left (List.getElem?_eq_some_iff.mp hp).1).trans hp,
    hgranted⟩

omit [IsStrictOrderedRing K] [FloorRing K] in
/-- A consumed code is the slot's. -/
theorem slot_code_of_consumedCode {cfg : ConsoleConfig K} {w : Console K} {env : TickEnv K}
    {code : OperatorCommandCode}
    (h : consumedCode cfg.controller w.telemetry.controller ⟨env, w.operatorShm⟩ = some code) :
    w.slot.code? = some code := by
  unfold consumedCode at h
  split at h
  · exact (freshCode_eq_some_iff.mp h).1
  · cases h

/-- One event keeps the account. -/
theorem ZeroOrigin.step {cfg : ConsoleConfig K} {past : List (ConsoleEntry K)} {w : Console K}
    (h : ZeroOrigin cfg past w) (ev : ConsoleEvent K) :
    ZeroOrigin cfg (past ++ [entry (consoleStep cfg) w ev]) (consoleStep cfg w ev).1 where
  slot := by
    intro hcode
    rcases slot_consoleStep cfg w ev with
      ⟨targets, timeNs, clock, hgranted, hnormal, haccepted, hslot⟩ | ⟨-, hnot | hsame⟩
    · refine ⟨targets, timeNs, haccepted, hslot, past.length, _, clock, ?_, hgranted, hnormal⟩
      exact List.getElem?_concat_length
    · exact absurd hcode hnot
    · rw [hsame] at hcode ⊢
      obtain ⟨targets, timeNs, haccepted, hslot, hgranted⟩ := h.slot hcode
      exact ⟨targets, timeNs, haccepted, hslot, hgranted.concat _⟩
  mode := by
    intro hmode
    have hpast : (∃ targets timeNs, GrantedInNormal cfg past targets timeNs) →
        ∃ targets timeNs, GrantedInNormal cfg (past ++ [entry (consoleStep cfg) w ev]) targets timeNs :=
      fun ⟨targets, timeNs, hgranted⟩ => ⟨targets, timeNs, hgranted.concat _⟩
    rcases mode_consoleStep cfg w ev with ⟨env, inputs, publishNow, rfl, htick⟩ | hsame
    · rw [htick, tick_mode] at hmode
      split at hmode
      · rcases nextMode_zeroSetting hmode with ⟨hcode, -⟩ | ⟨hzero, -⟩
        · have hconsumed := consumedCode_of_getD (by decide) hcode
          obtain ⟨targets, timeNs, -, -, hgranted⟩ := h.slot (slot_code_of_consumedCode hconsumed)
          exact hpast ⟨targets, timeNs, hgranted⟩
        · exact hpast (h.mode hzero)
      · exact hpast (h.mode hmode)
    · exact hpast (h.mode (hsame ▸ hmode))

variable {cfg : ConsoleConfig K} {stateMachine : ControllerStateMachine K} {shm : OperatorCommandShm}
  {service : CommandService} {events : List (ConsoleEvent K)}

theorem zeroOrigin_at (hstart : stateMachine.mode = .disabled) {n : ℕ} {e : ConsoleEntry K}
    (he : (consoleRun cfg (consoleStart stateMachine shm service) events)[n]? = some e) :
    ZeroOrigin cfg ((consoleRun cfg (consoleStart stateMachine shm service) events).take n)
      e.before := by
  refine trace_history_before (P := ZeroOrigin cfg) ⟨?_, ?_⟩ (fun tr w ev h => h.step ev) he
  · intro hcode
    rw [Console.slot, consoleStart, OperatorCommandShm.readRelaxed_clear] at hcode
    cases hcode
  · intro hmode
    exact absurd (hstart.symm.trans hmode) (by decide)

/-- A granted request of the past of position `n`, with what it went by. -/
theorem shown_of_grantedInNormal {n : ℕ} {targets : List (ℤ × ℤ)} {timeNs : ℤ}
    (h : GrantedInNormal cfg
      ((consoleRun cfg (consoleStart stateMachine shm service) events).take n) targets timeNs) :
    ∃ p ep clock, p < n ∧
      (consoleRun cfg (consoleStart stateMachine shm service) events)[p]? = some ep ∧
      Granted ep targets timeNs clock ∧
      Shown cfg (consoleRun cfg (consoleStart stateMachine shm service) events) p clock.unix
        .normal := by
  obtain ⟨p, ep, clock, hp, hgranted, hnormal⟩ := h
  rw [List.getElem?_take] at hp
  split at hp
  · rename_i hpn
    obtain ⟨mode, hname, hshown⟩ := shown_of_safetyState hp hnormal
    obtain rfl : ControllerMode.normal = mode := modeText_injective hname
    exact ⟨p, ep, clock, hpn, hp, hgranted, hshown⟩
  · cases hp

variable (cfg) in
/-- The tick consumed RUN in ZERO_SETTING, and so sends the zero set of a command without targets. -/
def RerunsZeroSet (e : ConsoleEntry K) : Prop :=
  ∃ env inputs publishNow, e.input = .tick env inputs publishNow ∧
    consumedCode cfg.controller e.before.telemetry.controller ⟨env, e.before.operatorShm⟩ =
      some .run ∧ e.before.mode = .zeroSetting

/-- **Set-zero frames of the controller.** Each goes back to a request the dashboard granted after
NORMAL was shown; and unless the tick reran the zero set, that request is the one in the slot and its
targets name the receiver, or name nobody. -/
theorem zero_sets_follow_controller (hstart : stateMachine.mode = .disabled) {n : ℕ} {e : ConsoleEntry K}
    (he : (consoleRun cfg (consoleStart stateMachine shm service) events)[n]? = some e)
    {outcome : TickOutcome} {publication : Option (PublishResult K)}
    (hout : e.out = .ticked outcome publication) {f : CANFrame}
    (hf : f ∈ outcome.imuFrames ++ outcome.actuatorFrames) (hz : SetZeroFrame f) :
    ∃ p ep targets timeNs clock, p < n ∧
      (consoleRun cfg (consoleStart stateMachine shm service) events)[p]? = some ep ∧
      Granted ep targets timeNs clock ∧
      Shown cfg (consoleRun cfg (consoleStart stateMachine shm service) events) p clock.unix .normal ∧
      (RerunsZeroSet cfg e ∨
        e.before.slot = builtCommand timeNs OperatorCommandCode.zeroSet.value 0 targets ∧
        (f.canId ∈ targets.map Prod.fst ∨ ∀ t ∈ targets, t.1 = 0)) := by
  have horigin := zeroOrigin_at hstart he
  have hstep := out_eq _ he
  rw [hout] at hstep
  cases hinput : e.input with
  | tick env inputs publishNow =>
      rw [hinput, consoleStep] at hstep
      have houtcome : outcome =
          (tick cfg.controller e.before.telemetry.controller ⟨env, e.before.operatorShm⟩).2 := by
        generalize tick cfg.controller e.before.telemetry.controller ⟨env, e.before.operatorShm⟩ =
          ticked at hstep
        obtain ⟨controller, outcome'⟩ := ticked
        dsimp only at hstep
        cases hraised : outcome'.raised with
        | some error =>
            rw [hraised] at hstep
            exact (ConsoleOut.ticked.inj hstep).1
        | none =>
            rw [hraised] at hstep
            exact (ConsoleOut.ticked.inj hstep).1
      rw [houtcome] at hf
      by_cases hrerun : consumedCode cfg.controller e.before.telemetry.controller
          ⟨env, e.before.operatorShm⟩ = some .run ∧ e.before.mode = .zeroSetting
      · obtain ⟨targets, timeNs, hgranted⟩ := horigin.mode hrerun.2
        obtain ⟨p, ep, clock, hp, hep, hgrant, hshown⟩ := shown_of_grantedInNormal hgranted
        exact ⟨p, ep, targets, timeNs, clock, hp, hep, hgrant, hshown,
          Or.inl ⟨env, inputs, publishNow, hinput, hrerun⟩⟩
      · obtain ⟨hcode, -, haddressed⟩ := tick_setZeroFrame hf hz hrerun
        obtain ⟨targets, timeNs, haccepted, hslot, hgranted⟩ :=
          horigin.slot (slot_code_of_consumedCode hcode)
        obtain ⟨p, ep, clock, hp, hep, hgrant, hshown⟩ := shown_of_grantedInNormal hgranted
        refine ⟨p, ep, targets, timeNs, clock, hp, hep, hgrant, hshown, Or.inr ⟨hslot, ?_⟩⟩
        change Addressed e.before.slot f.canId at haddressed
        rw [hslot, Addressed, namedTargets, zeroTargetList_builtCommand haccepted] at haddressed
        rcases haddressed with hnobody | hnamed
        · rw [List.filter_eq_nil_iff] at hnobody
          exact Or.inr fun t ht => not_not.mp fun hne => hnobody t ht (decide_eq_true hne)
        · obtain ⟨t, ht, hid⟩ := List.mem_map.mp hnamed
          exact Or.inl (List.mem_map.mpr ⟨t, (List.mem_filter.mp ht).1, hid⟩)
  | frame frame now => rw [hinput] at hstep; cases hstep
  | forcePublish inputs publishNow => rw [hinput] at hstep; cases hstep
  | call request clock connect send => rw [hinput] at hstep; cases hstep
  | button button timeNs => rw [hinput] at hstep; cases hstep
  | zeroSet targets timeNs clock => rw [hinput] at hstep; cases hstep

end Slot

/-! ## Two runs -/

/-- Two actuators, a state published every ten milliseconds and trusted for one second. -/
def twoActuatorConsole : ConsoleConfig ℚ := ⟨twoActuatorConfig, twoActuatorDashboard, 1 / 100, 1⟩

/-- A tick that finds nothing but the slot. -/
def quietTick (now : ℚ) : ConsoleEvent ℚ :=
  .tick (quietEnv now)
    ⟨now, 1000 + now, 0, 1 / 10, ⟨none, none, none, 0, 0, false, false, true, true⟩⟩ now

/-- Armed, through the enable dwell, and running: the controller ends in NORMAL. -/
def armedThen (events : List (ConsoleEvent ℚ)) : List (ConsoleEntry ℚ) :=
  consoleRun twoActuatorConsole
    (consoleStart freshController.stateMachine OperatorCommandShm.zeroed lockedService)
    ([.button .arm 1, quietTick 1, quietTick 3, .button .run 2, quietTick 4] ++ events)

/-- The frame an event handed to the CAN client. -/
def ConsoleOut.handed? {K : Type} : ConsoleOut K → Option CANFrame
  | .called output => output.handed
  | _ => none

/-- The operator unlocks transmission and enables the hip: NORMAL had been shown. -/
theorem dashboard_enable_in_normal :
    ∃ mode, mode ≠ .disabled ∧ mode ≠ .estop ∧
      Shown twoActuatorConsole (armedThen [.call .unlockTx ⟨4, 1004⟩ .ok .ok,
        .call (.motorEnter 0x101) ⟨4, 1004⟩ .ok .ok]) 6 1004 mode := by
  have hrun : (armedThen [.call .unlockTx ⟨4, 1004⟩ .ok .ok,
      .call (.motorEnter 0x101) ⟨4, 1004⟩ .ok .ok])[6]?.map (fun e => e.out.handed?) =
        some (some ⟨0x101, [0xC1, 0, 0, 0, 0, 0, 0, 0]⟩) := by decide +kernel
  obtain ⟨e, he, hhanded⟩ := Option.map_eq_some_iff.mp hrun
  have hinput : e.input = .call (.motorEnter 0x101) ⟨4, 1004⟩ .ok .ok :=
    (Option.some.inj (input_at _ he)).symm
  cases hout : e.out with
  | called output =>
      rw [hout] at hhanded
      refine (dashboard_frames_follow_controller rfl he hinput hout ?_ hhanded (by decide +kernel)).1 rfl
      rintro ⟨canId, data, hraw, -⟩
      cases hraw
  | received => rw [hout] at hhanded; cases hhanded
  | ticked outcome publication => rw [hout] at hhanded; cases hhanded
  | forced publication => rw [hout] at hhanded; cases hhanded
  | pressed result => rw [hout] at hhanded; cases hhanded
  | zeroSet result => rw [hout] at hhanded; cases hhanded

/-- The frames of the tick an event was. -/
def ConsoleOut.tickFrames? {K : Type} : ConsoleOut K → Option (List CANFrame)
  | .ticked outcome _ => some (outcome.imuFrames ++ outcome.actuatorFrames)
  | _ => none

/-- The operator moves the zero of the knee: the frame goes back to that request. -/
theorem knee_zeroed_in_normal :
    ∃ p ep targets timeNs clock, p < 6 ∧
      (armedThen [.zeroSet [(0x102, 5)] 3 ⟨4, 1004⟩, quietTick 5])[p]? = some ep ∧
      Granted ep targets timeNs clock ∧
      Shown twoActuatorConsole (armedThen [.zeroSet [(0x102, 5)] 3 ⟨4, 1004⟩, quietTick 5]) p clock.unix
        .normal := by
  have hrun : (armedThen [.zeroSet [(0x102, 5)] 3 ⟨4, 1004⟩, quietTick 5])[6]?.map
      (fun e => e.out.tickFrames?) = some (some [⟨0x102, [0xC3, 0, 0, 0, 0, 0, 5, 0]⟩]) := by
    decide +kernel
  obtain ⟨e, he, hframes⟩ := Option.map_eq_some_iff.mp hrun
  have hmem : ∀ outcome publication, e.out = .ticked outcome publication →
      (⟨0x102, [0xC3, 0, 0, 0, 0, 0, 5, 0]⟩ : CANFrame) ∈
        outcome.imuFrames ++ outcome.actuatorFrames := by
    intro outcome publication hout
    rw [hout] at hframes
    rw [Option.some.inj hframes]
    exact List.mem_singleton_self _
  cases hout : e.out with
  | ticked outcome publication =>
      obtain ⟨p, ep, targets, timeNs, clock, hp, hep, hgranted, hshown, -⟩ :=
        zero_sets_follow_controller rfl he hout (hmem _ _ hout) (by decide)
      exact ⟨p, ep, targets, timeNs, clock, hp, hep, hgranted, hshown⟩
  | received => rw [hout] at hframes; cases hframes
  | called output => rw [hout] at hframes; cases hframes
  | forced publication => rw [hout] at hframes; cases hframes
  | pressed result => rw [hout] at hframes; cases hframes
  | zeroSet result => rw [hout] at hframes; cases hframes

end SparqControl.Link
