/-
# SparqControl.TaskController.TaskLoop — the loop that turns network outputs into joint targets.

A pass of `main` reads the control state and the operator's buttons, runs the policy, and writes a
position target for every configured motor: the default angle plus, while the enable button is held, the
scaled action of that joint. Clip, scale, index permutation, gate and offset stand one after the other
with a change of joint order in between; `task_run_spec` says what comes out of them in every run, with
any network.

A pass that raises ends the loop. Which passes do is settled by `Ready`.
-/
import SparqControl.Controller.CommandLoss
import SparqControl.TaskController.PolicyRunner

namespace SparqControl.TaskController

open SparqControl.Controller (ControlTarget ControlTargetC ControlCommandC writeTargets maxControlTargets)
open SparqControl.Hal
open SparqControl.Lib (Dict)
open SparqControl.Lib.Broadcast
open SparqControl.Lib.Trace
open SparqControl.Telemetry

/-! ## What a pass reads -/

/-- `AuxCommandC`, less its write time. -/
structure AuxCommandC (K : Type) where
  linVelTarget : Vector K 3
  angVelTarget : Vector K 3
  buttonMask : UInt32

/-- `BUTTON_FIELDS`. -/
def buttonFields : List String :=
  ["a_button", "b_button", "x_button", "y_button", "lb_button", "rb_button", "back_button",
    "start_button", "guide_button", "l3_button", "r3_button"]

/-- `mask_to_buttons`. -/
def maskToButtons (mask : UInt32) : List (String × Bool) :=
  buttonFields.zipIdx.map fun x => (x.1, mask.toNat.testBit x.2)

/-- The enable button: `bool(buttons.get("a_button", False))`. -/
def aButton (mask : UInt32) : Bool := ((maskToButtons mask).lookup "a_button").getD false

/-- What `main` takes from the configuration. -/
structure TaskConfig (K : Type) where
  robotName : String
  canIds : List ℤ
  kp : K
  kd : K

/-- What one pass finds: the control state with its write time, the operator's command, the network, and
the time of writing. -/
structure TaskInput (K : Type) where
  controlTimestampNs : UInt64
  controlState : RobotStateC K
  auxState : AuxCommandC K
  session : List K → List K
  timeNs : UInt64

/-- The task controller between two passes. -/
structure TaskState (K : Type) where
  policy : OnnxPolicy K
  controlShm : ControlCommandC K
  raised : Option TaskError

/-- A completed call of `compute_action`: what the network returned, the enable button, and the command
that was written, if the pass came to its end. -/
structure Called (K : Type) where
  output : List K
  mode : Bool
  command : Option (ControlCommandC K)

section Pass

variable {K : Type}

/-- The dictionary of the reported actuators; a later record replaces an earlier one. -/
def actuators (state : RobotStateC K) : Dict ℤ (ActuatorStateC K) :=
  Dict.ofList ((state.actuators.toList.take state.actuatorCount.toNat).map fun item =>
    ((item.canId.toNat : ℤ), item))

/-- One reading of every configured motor. -/
def readings (canIds : List ℤ) (state : RobotStateC K) (field : ActuatorStateC K → K) :
    Except TaskError (List K) :=
  canIds.mapM fun canId => orRaise .keyError (((actuators state).get? canId).map field)

variable [Field K] [LinearOrder K]

/-- A pass up to `compute_action`: the policy with its inputs, and the measured positions. -/
def prepare (sqrt : K → K) (cfg : TaskConfig K) (p : OnnxPolicy K) (t : TaskInput K) :
    Except TaskError (OnnxPolicy K × List K) := do
  let dofPos ← readings cfg.canIds t.controlState (·.positionRad)
  let dofVel ← readings cfg.canIds t.controlState (·.velocityRadS)
  let gyro := t.controlState.imu.angularVelocityRadS.toList
  let p ← p.setState sqrt dofPos dofVel (policyQuat t.controlState.imu)
    (gyro.getD 0 0, gyro.getD 1 0, gyro.getD 2 0)
  let linVel := t.auxState.linVelTarget.toList
  let angVelCmd := t.auxState.angVelTarget.toList
  return (p.setCommands (linVel.getD 0 0) (linVel.getD 1 0) (angVelCmd.getD 2 0)
    (aButton t.auxState.buttonMask), dofPos)

/-- `q_target`. -/
def qTarget (cfg : TaskConfig K) (config : PolicyConfig K) (scaled dofPos : List K) (mode : Bool) :
    Except TaskError (List K) :=
  orRaise shapeError (broadcastWith (· + ·) (scaled.map (· * modeValue mode))
    (actionOffset config cfg.robotName dofPos mode))

/-- The target of one motor. -/
def controlTarget (cfg : TaskConfig K) (qTarget : List K) (motor : ℤ × ℕ) :
    Except TaskError (ControlTarget K) := do
  let q ← orRaise .indexError qTarget[motor.2]?
  return ⟨motor.1, .fin q, .fin 0, .fin cfg.kp, .fin cfg.kd, .fin 0⟩

/-- A pass after `compute_action`: the command that is written. -/
def publish (cfg : TaskConfig K) (config : PolicyConfig K) (scaled dofPos : List K) (mode : Bool)
    (timeNs : UInt64) : Except TaskError (ControlCommandC K) := do
  let q ← qTarget cfg config scaled dofPos mode
  let targets ← cfg.canIds.zipIdx.mapM (controlTarget cfg q)
  (writeTargets targets timeNs).mapError .raised

/-- One pass of the loop. A control state never written is skipped; an exception ends the loop. -/
def taskStep (sqrt : K → K) (cfg : TaskConfig K) (s : TaskState K) (t : TaskInput K) :
    TaskState K × Option (Called K) :=
  if s.raised.isSome ∨ t.controlTimestampNs = 0 then (s, none)
  else
    match prepare sqrt cfg s.policy t with
    | .error e => ({ s with raised := some e }, none)
    | .ok (p, dofPos) =>
        match p.computeAction t.session with
        | .error e => ({ s with raised := some e }, none)
        | .ok (p', scaled) =>
            let output := p.networkOutput t.session
            let mode := aButton t.auxState.buttonMask
            match publish cfg p'.config scaled dofPos mode t.timeNs with
            | .error e => ({ s with policy := p', raised := some e }, some ⟨output, mode, none⟩)
            | .ok command =>
                ({ s with policy := p', controlShm := command }, some ⟨output, mode, some command⟩)

/-- A task controller before its first pass. -/
def TaskState.start (p : OnnxPolicy K) : TaskState K := ⟨p, ControlCommandC.zeroed, none⟩

end Pass

/-! ## One pass -/

section Lemmas

variable {K : Type} [Field K] [LinearOrder K] {sqrt : K → K} {cfg : TaskConfig K}
  {config : PolicyConfig K} {p p' : OnnxPolicy K} {t : TaskInput K}

/-- What the reading half of a pass keeps of a policy. -/
structure Keeps (p p' : OnnxPolicy K) : Prop where
  config : p'.config = p.config
  defaultJointAngle : p'.defaultJointAngle = p.defaultJointAngle
  scaledActions : p'.scaledActions = p.scaledActions
  lastActions : p'.lastActions = p.lastActions
  lastLastActions : p'.lastLastActions = p.lastLastActions
  lastLastLastActions : p'.lastLastLastActions = p.lastLastLastActions

omit [Field K] [LinearOrder K] in
theorem Keeps.sized (h : Keeps p p') (hp : p.Sized config) : p'.Sized config where
  config_eq := h.config.trans hp.config_eq
  scaledActions := by rw [h.scaledActions, hp.scaledActions]
  defaultJointAngle := by rw [h.defaultJointAngle, hp.defaultJointAngle]

theorem prepare_eq_ok {dofPos : List K} (h : prepare sqrt cfg p t = .ok (p', dofPos)) :
    Keeps p p' ∧ dofPos.length = cfg.canIds.length := by
  unfold prepare at h
  obtain ⟨pos, hpos, h⟩ := bind_eq_ok_iff.mp h
  obtain ⟨vel, -, h⟩ := bind_eq_ok_iff.mp h
  obtain ⟨q, hq, h⟩ := bind_eq_ok_iff.mp h
  obtain ⟨_, _, _, _, rfl⟩ := OnnxPolicy.setState_eq_ok hq
  cases h
  exact ⟨⟨rfl, rfl, rfl, rfl, rfl, rfl⟩, length_of_mapM hpos⟩

omit [LinearOrder K] in
/-- The command written for joint `k`: the scaled action under the gate, plus the default angle. -/
theorem publish_eq_ok {scaled dofPos : List K} {mode : Bool} {timeNs : UInt64}
    {command : ControlCommandC K} (h : publish cfg config scaled dofPos mode timeNs = .ok command)
    (hpos : dofPos.length = cfg.canIds.length) {k : ℕ} {canId : ℤ} {x d : K}
    (hid : cfg.canIds[k]? = some canId) (hx : scaled[k]? = some x)
    (hd : config.defaultJointAngle[k]? = some d) :
    ∃ hk : k < maxControlTargets,
      command.targets[k] = ⟨UInt32.ofInt canId, .fin (x * modeValue mode + d), .fin 0, .fin cfg.kp,
        .fin cfg.kd, .fin 0⟩ := by
  unfold publish at h
  obtain ⟨q, hq, h⟩ := bind_eq_ok_iff.mp h
  obtain ⟨targets, htargets, h⟩ := bind_eq_ok_iff.mp h
  have hklt : k < cfg.canIds.length := (List.getElem?_eq_some_iff.mp hid).1
  -- the offset is the default angle, whatever the robot
  have hoffset : (actionOffset config cfg.robotName dofPos mode)[k]? = some d := by
    unfold actionOffset
    simp only [ite_self]
    rw [List.getElem?_take_of_lt (by rw [hpos]; exact hklt)]
    exact hd
  have hgate : (scaled.map (· * modeValue mode))[k]? = some (x * modeValue mode) := by
    rw [List.getElem?_map, hx, Option.map_some]
  have hqk : q[k]? = some (x * modeValue mode + d) :=
    getElem?_broadcastWith (orRaise_eq_ok_iff.mp hq) hgate hoffset
  have hzip : cfg.canIds.zipIdx[k]? = some (canId, k) := by
    rw [List.getElem?_zipIdx, hid]
    simp
  obtain ⟨target, htarget, hmake⟩ := getElem?_of_mapM htargets hzip
  have htarget' : target = ⟨canId, .fin (x * modeValue mode + d), .fin 0, .fin cfg.kp, .fin cfg.kd,
      .fin 0⟩ := by
    unfold controlTarget at hmake
    simp only [hqk] at hmake
    exact (Except.ok.inj hmake).symm
  unfold writeTargets at h
  split at h
  · cases h
  · rename_i hmax
    cases h
    have hlt : k < targets.length := (List.getElem?_eq_some_iff.mp htarget).1
    refine ⟨by omega, ?_⟩
    simp only [Vector.getElem_ofFn]
    rw [htarget, htarget']

/-- What a pass does: it makes no call and keeps the policy, or it completes one, with the effect of the
network's output on the policy, and with the command that follows from it. -/
theorem taskStep_cases (sqrt : K → K) (cfg : TaskConfig K) (hw : config.WellIndexed)
    {s : TaskState K} (hp : s.policy.Sized config)
    (hsession : ∀ observation, config.numJoint ≤ (t.session observation).length) :
    ((taskStep sqrt cfg s t).2 = none ∧ (taskStep sqrt cfg s t).1.policy = s.policy) ∨
    ∃ (p : OnnxPolicy K) (dofPos scaled : List K), Keeps s.policy p ∧
      dofPos.length = cfg.canIds.length ∧
      (taskStep sqrt cfg s t).1.policy = p.afterCall (p.networkOutput t.session) scaled ∧
      scaled.length = config.numJoint ∧
      config.numJoint ≤ (p.networkOutput t.session).length ∧
      (∀ (k : ℕ) (i : ℤ), config.outputIndices[k]? = some i → scaled[k]? =
        (index (OnnxPolicy.clipped config (p.networkOutput t.session)) i).map (· * config.actionScale)) ∧
      (taskStep sqrt cfg s t).2 = some ⟨p.networkOutput t.session, aButton t.auxState.buttonMask,
        (publish cfg config scaled dofPos (aButton t.auxState.buttonMask) t.timeNs).toOption⟩ := by
  unfold taskStep
  split
  · exact Or.inl ⟨rfl, rfl⟩
  cases hprepare : prepare sqrt cfg s.policy t with
  | error e => exact Or.inl ⟨rfl, rfl⟩
  | ok prepared =>
      obtain ⟨p, dofPos⟩ := prepared
      obtain ⟨hkeeps, hpos⟩ := prepare_eq_ok hprepare
      have hsized := hkeeps.sized hp
      rcases OnnxPolicy.computeAction_spec hw hsized hsession with
        ⟨-, e, he⟩ | ⟨scaled, hcompute, hlen, hslen, hvalues⟩
      · left
        simp only [he]
        exact ⟨trivial, trivial⟩
      · refine Or.inr ⟨p, dofPos, scaled, hkeeps, hpos, ?_⟩
        simp only [hcompute, OnnxPolicy.afterCall_config, hsized.config_eq]
        refine ⟨?_, hslen, hlen, hvalues, ?_⟩
        · cases publish cfg config scaled dofPos (aButton t.auxState.buttonMask) t.timeNs with
          | error e => rfl
          | ok command => rfl
        · cases publish cfg config scaled dofPos (aButton t.auxState.buttonMask) t.timeNs with
          | error e => rfl
          | ok command => rfl

end Lemmas

/-! ## Whole runs -/

section Runs

variable {K : Type} [Field K] [LinearOrder K]

/-- The calls of a recorded run. -/
def calls (past : List (Entry (TaskState K) (TaskInput K) (Option (Called K)))) : List (Called K) :=
  past.filterMap (·.out)

/-- The clipped action of the call `k` places before the latest one; zero where there was none. -/
def actionAt (config : PolicyConfig K) (made : List (Called K)) (k : ℕ) : List K :=
  match nthLatest made k with
  | some call => OnnxPolicy.clipped config call.output
  | none => List.replicate config.numJoint 0

/-- **The history registers** are the last three actions. -/
structure History (config : PolicyConfig K) (made : List (Called K)) (p : OnnxPolicy K) : Prop where
  lastActions : p.lastActions = actionAt config made 0
  lastLastActions : p.lastLastActions = actionAt config made 1
  lastLastLastActions : p.lastLastLastActions = actionAt config made 2

/-- **The targets of a command**: joint `k` is sent to its default angle plus, while the enable button
is held, the scaled action at its output index, and so no further from it than the scaled clip. -/
def TargetsExact (cfg : TaskConfig K) (config : PolicyConfig K) (call : Called K) : Prop :=
  ∀ command, call.command = some command → ∀ (k : ℕ) (canId : ℤ) (d : K),
    cfg.canIds[k]? = some canId → config.defaultJointAngle[k]? = some d →
    ∃ (hk : k < maxControlTargets) (src : ℤ) (a q : K),
      config.outputIndices[k]? = some src ∧
      index (OnnxPolicy.clipped config call.output) src = some a ∧
      command.targets[k].canId = UInt32.ofInt canId ∧
      command.targets[k].q = .fin q ∧
      q = d + (if call.mode then config.actionScale * a else 0) ∧
      |q - d| ≤ config.actionClip * |config.actionScale|

variable {sqrt : K → K} {cfg : TaskConfig K} {config : PolicyConfig K}

theorem History.init {p : OnnxPolicy K} (h : OnnxPolicy.init config = .ok p) : History config [] p := by
  obtain ⟨defaults, -, h⟩ := bind_eq_ok_iff.mp h
  split at h
  · cases h
  · cases h
    exact ⟨rfl, rfl, rfl⟩

theorem actionAt_concat_zero (made : List (Called K)) (call : Called K) :
    actionAt config (made ++ [call]) 0 = OnnxPolicy.clipped config call.output := by
  unfold actionAt
  rw [nthLatest_concat_zero]

theorem actionAt_concat_succ (made : List (Called K)) (call : Called K) (k : ℕ) :
    actionAt config (made ++ [call]) (k + 1) = actionAt config made k := by
  unfold actionAt
  rw [nthLatest_concat_succ]

/-- A completed call shifts the registers. -/
theorem History.afterCall {made : List (Called K)} {p p' : OnnxPolicy K} (h : History config made p)
    (hp : p'.Sized config) (hkeeps : Keeps p p') (call : Called K) (scaled : List K) :
    History config (made ++ [call]) (p'.afterCall call.output scaled) where
  lastActions := by
    rw [actionAt_concat_zero, ← hp.config_eq]
    rfl
  lastLastActions := by
    rw [actionAt_concat_succ, ← h.lastActions, ← hkeeps.lastActions]
    rfl
  lastLastLastActions := by
    rw [actionAt_concat_succ, ← h.lastLastActions, ← hkeeps.lastLastActions]
    rfl

/-- The command of a call that published its scaled actions is exact. -/
theorem targetsExact_of_publish [IsStrictOrderedRing K] (hw : config.WellIndexed)
    (hmotors : config.numJoint = cfg.canIds.length) {output scaled dofPos : List K} {mode : Bool}
    {timeNs : UInt64} (hpos : dofPos.length = cfg.canIds.length)
    (hlen : config.numJoint ≤ output.length)
    (hvalues : ∀ (k : ℕ) (i : ℤ), config.outputIndices[k]? = some i → scaled[k]? =
      (index (OnnxPolicy.clipped config output) i).map (· * config.actionScale)) :
    TargetsExact cfg config ⟨output, mode, (publish cfg config scaled dofPos mode timeNs).toOption⟩ := by
  intro command hcommand k canId d hid hd
  have hpublish : publish cfg config scaled dofPos mode timeNs = .ok command := by
    cases hresult : publish cfg config scaled dofPos mode timeNs with
    | error e =>
        rw [hresult] at hcommand
        cases hcommand
    | ok c =>
        rw [hresult] at hcommand
        cases hcommand
        rfl
  -- joint `k` has an output index, and it lies in the action
  have hk : k < config.outputIndices.length := by
    rw [hw.output_length, hmotors]
    exact (List.getElem?_eq_some_iff.mp hid).1
  obtain ⟨src, hsrc⟩ : ∃ src, config.outputIndices[k]? = some src := ⟨_, List.getElem?_eq_getElem hk⟩
  obtain ⟨a, ha, hindex⟩ := exists_index_of_inRange (l := OnnxPolicy.clipped config output) (i := src)
    (by
      rw [OnnxPolicy.length_clipped hlen]
      exact hw.output_range src (List.mem_of_getElem? hsrc))
  have hbound : |a| ≤ config.actionClip := by
    obtain ⟨x, -, rfl⟩ := List.mem_map.mp ha
    exact OnnxPolicy.abs_npClip_le hw.clip_nonneg x
  have hscaled : scaled[k]? = some (a * config.actionScale) := by
    rw [hvalues k src hsrc, hindex, Option.map_some]
  obtain ⟨hmax, htarget⟩ := publish_eq_ok hpublish hpos hid hscaled hd
  refine ⟨hmax, src, a, a * config.actionScale * modeValue mode + d, hsrc, hindex, ?_, ?_, ?_, ?_⟩
  · rw [htarget]
  · rw [htarget]
  · cases mode with
    | true =>
        simp only [modeValue, if_true]
        ring
    | false => simp [modeValue]
  · rw [add_sub_cancel_right, abs_mul, abs_mul]
    have hmode : |(modeValue mode : K)| ≤ 1 := by
      cases mode <;> simp [modeValue]
    calc |a| * |config.actionScale| * |(modeValue mode : K)|
        ≤ |a| * |config.actionScale| * 1 := by gcongr
      _ = |a| * |config.actionScale| := mul_one _
      _ ≤ config.actionClip * |config.actionScale| := by gcongr

/-- What holds of a run so far. -/
structure RunInvariant (cfg : TaskConfig K) (config : PolicyConfig K)
    (past : List (Entry (TaskState K) (TaskInput K) (Option (Called K)))) (s : TaskState K) : Prop where
  sized : s.policy.Sized config
  history : History config (calls past) s.policy
  targets : ∀ call ∈ calls past, TargetsExact cfg config call

/-- **One pass.** -/
theorem RunInvariant.step [IsStrictOrderedRing K] (hw : config.WellIndexed)
    (hmotors : config.numJoint = cfg.canIds.length)
    {past : List (Entry (TaskState K) (TaskInput K) (Option (Called K)))} {s : TaskState K}
    (h : RunInvariant cfg config past s) (t : TaskInput K)
    (hsession : ∀ observation, config.numJoint ≤ (t.session observation).length) :
    RunInvariant cfg config (past ++ [entry (taskStep sqrt cfg) s t]) (taskStep sqrt cfg s t).1 := by
  have hcalls : calls (past ++ [entry (taskStep sqrt cfg) s t]) =
      calls past ++ ((taskStep sqrt cfg s t).2).toList := by
    unfold calls
    rw [filterMap_concat, entry_out]
  rcases taskStep_cases sqrt cfg hw h.sized hsession with
    ⟨hout, hpolicy⟩ | ⟨p, dofPos, scaled, hkeeps, hpos, hpolicy, hslen, hlen, hvalues, hout⟩
  · rw [hout, Option.toList_none, List.append_nil] at hcalls
    refine ⟨?_, ?_, ?_⟩
    · rw [hpolicy]
      exact h.sized
    · rw [hcalls, hpolicy]
      exact h.history
    · rw [hcalls]
      exact h.targets
  · rw [hout, Option.toList_some] at hcalls
    have hp := hkeeps.sized h.sized
    refine ⟨?_, ?_, ?_⟩
    · rw [hpolicy]
      exact hp.afterCall hslen
    · rw [hcalls, hpolicy]
      exact h.history.afterCall hp hkeeps _ scaled
    · rw [hcalls]
      intro call hcall
      rcases List.mem_append.mp hcall with hold | hnew
      · exact h.targets call hold
      · obtain rfl := List.mem_singleton.mp hnew
        exact targetsExact_of_publish hw hmotors hpos hlen hvalues

/-- Default angles for every joint, and no more joints than a command has places, and only components
the observation knows. -/
structure Complete (config : PolicyConfig K) : Prop where
  defaults : config.numJoint ≤ config.defaultJointAngle.length
  joints : config.numJoint ≤ maxControlTargets
  components : ∀ text ∈ config.obsComponents, ∃ c, ObsComponent.ofText text = some c

/-- What a pass needs of its inputs: a control state that was written and reports every configured
motor, and a quaternion with a norm. -/
structure Ready (sqrt : K → K) (cfg : TaskConfig K) (t : TaskInput K) : Prop where
  written : t.controlTimestampNs ≠ 0
  reported : ∀ canId ∈ cfg.canIds, ∃ item, (actuators t.controlState).get? canId = some item
  quaternion : ∃ g, quatToProjectedGravity sqrt (policyQuat t.controlState.imu) = .ok g

omit [Field K] [LinearOrder K] in
theorem exists_readings {state : RobotStateC K}
    (h : ∀ canId ∈ cfg.canIds, ∃ item, (actuators state).get? canId = some item)
    (field : ActuatorStateC K → K) :
    ∃ r, readings cfg.canIds state field = .ok r ∧ r.length = cfg.canIds.length := by
  obtain ⟨r, hr⟩ : ∃ r, readings cfg.canIds state field = .ok r := by
    apply exists_mapM
    intro canId hcanId
    obtain ⟨item, hitem⟩ := h canId hcanId
    rw [hitem]
    exact ⟨field item, rfl⟩
  exact ⟨r, hr, length_of_mapM hr⟩

theorem exists_prepare (hw : config.WellIndexed) (hmotors : config.numJoint = cfg.canIds.length)
    {p : OnnxPolicy K} (hp : p.Sized config) {t : TaskInput K} (h : Ready sqrt cfg t) :
    ∃ p' dofPos, prepare sqrt cfg p t = .ok (p', dofPos) := by
  obtain ⟨pos, hpos, hposlen⟩ := exists_readings h.reported (·.positionRad)
  obtain ⟨vel, hvel, hvellen⟩ := exists_readings h.reported (·.velocityRadS)
  obtain ⟨p', hp'⟩ := OnnxPolicy.exists_setState hw hp
    (t.controlState.imu.angularVelocityRadS.toList.getD 0 0,
      t.controlState.imu.angularVelocityRadS.toList.getD 1 0,
      t.controlState.imu.angularVelocityRadS.toList.getD 2 0)
    (hposlen.trans hmotors.symm) (hvellen.trans hmotors.symm) h.quaternion
  unfold prepare
  simp only [bind_eq_ok_iff]
  exact ⟨_, _, pos, hpos, vel, hvel, p', hp', rfl⟩

theorem exists_observation {p : OnnxPolicy K} (hp : p.config = config) (hc : Complete config) :
    ∃ observation, p.observation = .ok observation := by
  obtain ⟨values, hvalues⟩ : ∃ values, p.config.obsComponents.mapM p.observe = .ok values := by
    apply exists_mapM
    intro text htext
    rw [hp] at htext
    obtain ⟨c, hcomponent⟩ := hc.components text htext
    unfold OnnxPolicy.observe
    rw [hcomponent]
    exact ⟨_, rfl⟩
  exact ⟨values.flatten, bind_eq_ok_iff.mpr ⟨values, hvalues, rfl⟩⟩

omit [LinearOrder K] in
theorem exists_publish (hmotors : config.numJoint = cfg.canIds.length) (hc : Complete config)
    {scaled dofPos : List K} (hscaled : scaled.length = config.numJoint)
    (hpos : dofPos.length = cfg.canIds.length) (mode : Bool) (timeNs : UInt64) :
    ∃ command, publish cfg config scaled dofPos mode timeNs = .ok command := by
  have hoffset : (actionOffset config cfg.robotName dofPos mode).length = config.numJoint := by
    unfold actionOffset
    simp only [ite_self]
    rw [List.length_take, hpos, ← hmotors, min_eq_left hc.defaults]
  obtain ⟨q, hq, hqlen⟩ : ∃ q, qTarget cfg config scaled dofPos mode = .ok q ∧
      q.length = config.numJoint := by
    refine ⟨_, orRaise_eq_ok_iff.mpr (broadcastWith_of_length ?_), ?_⟩
    · rw [List.length_map, hscaled, hoffset]
    · rw [List.length_zipWith, List.length_map, hscaled, hoffset, min_self]
  obtain ⟨targets, htargets⟩ : ∃ targets, cfg.canIds.zipIdx.mapM (controlTarget cfg q) = .ok targets := by
    apply exists_mapM
    rintro ⟨canId, k⟩ hmem
    have hk : k < q.length := by
      rw [hqlen, hmotors]
      exact (List.getElem?_eq_some_iff.mp (List.mem_zipIdx_iff_getElem?.mp hmem)).1
    refine ⟨_, bind_eq_ok_iff.mpr ⟨_, orRaise_eq_ok_iff.mpr (List.getElem?_eq_getElem hk), rfl⟩⟩
  have hfits : ¬ targets.length > maxControlTargets := by
    rw [length_of_mapM htargets, List.length_zipIdx, ← hmotors]
    exact not_lt.mpr hc.joints
  obtain ⟨command, hwrite⟩ : ∃ command, writeTargets targets timeNs = .ok command := by
    unfold writeTargets
    rw [if_neg hfits]
    exact ⟨_, rfl⟩
  refine ⟨command, bind_eq_ok_iff.mpr ⟨q, hq, bind_eq_ok_iff.mpr ⟨targets, htargets, ?_⟩⟩⟩
  rw [hwrite]
  rfl

/-- **A pass that finds what it needs writes a command**, and the loop goes on. -/
theorem exists_command (hw : config.WellIndexed) (hmotors : config.numJoint = cfg.canIds.length)
    (hc : Complete config) {s : TaskState K} (hp : s.policy.Sized config) (hraised : s.raised = none)
    {t : TaskInput K} (h : Ready sqrt cfg t)
    (hsession : ∀ observation, config.numJoint ≤ (t.session observation).length) :
    ∃ call command, (taskStep sqrt cfg s t).2 = some call ∧ call.command = some command ∧
      (taskStep sqrt cfg s t).1.controlShm = command ∧ (taskStep sqrt cfg s t).1.raised = none := by
  obtain ⟨p, dofPos, hprepare⟩ := exists_prepare hw hmotors hp h
  obtain ⟨hkeeps, hpos⟩ := prepare_eq_ok hprepare
  have hsized := hkeeps.sized hp
  obtain ⟨observation, hobs⟩ := exists_observation hsized.config_eq hc
  rcases OnnxPolicy.computeAction_spec hw hsized hsession with
    ⟨⟨e, he⟩, -⟩ | ⟨scaled, hcompute, -, hslen, -⟩
  · rw [hobs] at he
    cases he
  · obtain ⟨command, hcommand⟩ := exists_publish hmotors hc hslen hpos
      (aButton t.auxState.buttonMask) t.timeNs
    unfold taskStep
    rw [if_neg (by simp [hraised, h.written])]
    simp only [hprepare, hcompute, OnnxPolicy.afterCall_config, hsized.config_eq, hcommand]
    exact ⟨_, command, rfl, rfl, rfl, hraised⟩

/-- **Every run of the task controller, with any network.** After any passes the three history registers
are the clipped actions of the latest, second latest and third latest call, zero where there was none;
every written command sends each joint to its default angle plus, while the enable button is held, the
scaled clipped action at its output index; and a pass that finds what it needs writes one. -/
theorem task_run_spec [IsStrictOrderedRing K] (sqrt : K → K) (cfg : TaskConfig K)
    (config : PolicyConfig K) (hmotors : config.numJoint = cfg.canIds.length)
    (hw : config.WellIndexed) (p : OnnxPolicy K) (hp : OnnxPolicy.init config = .ok p)
    (inputs : List (TaskInput K))
    (hsession : ∀ t ∈ inputs, ∀ observation, config.numJoint ≤ (t.session observation).length) :
    let past := trace (taskStep sqrt cfg) (TaskState.start p) inputs
    let s := final (taskStep sqrt cfg) (TaskState.start p) inputs
    s.policy.lastActions = actionAt config (calls past) 0 ∧
    s.policy.lastLastActions = actionAt config (calls past) 1 ∧
    s.policy.lastLastLastActions = actionAt config (calls past) 2 ∧
    (∀ call ∈ calls past, TargetsExact cfg config call) ∧
    ∀ e ∈ past, e.before.raised = none → Complete config → Ready sqrt cfg e.input →
      ∃ call command, e.out = some call ∧ call.command = some command ∧
        e.after.controlShm = command ∧ e.after.raised = none := by
  have hlong : ∀ e ∈ trace (taskStep sqrt cfg) (TaskState.start p) inputs,
      ∀ observation, config.numJoint ≤ (e.input.session observation).length :=
    fun e he => hsession _ (input_mem_of_mem _ he)
  have hstart : RunInvariant cfg config [] (TaskState.start p) :=
    ⟨.init hw hp, .init hp, fun call hcall => nomatch hcall⟩
  have hrun : RunInvariant cfg config (trace (taskStep sqrt cfg) (TaskState.start p) inputs)
      (final (taskStep sqrt cfg) (TaskState.start p) inputs) :=
    trace_history (C := fun e => ∀ observation, config.numJoint ≤ (e.input.session observation).length)
      hstart (fun past s t h ht => h.step hw hmotors t ht) inputs hlong
  refine ⟨hrun.history.1, hrun.history.2, hrun.history.3, hrun.targets, ?_⟩
  intro e he hraised hc hready
  obtain ⟨n, hn⟩ := List.mem_iff_getElem?.mp he
  have hbefore : RunInvariant cfg config ((trace (taskStep sqrt cfg) (TaskState.start p) inputs).take n)
      e.before := by
    rw [before_eq_final _ hn]
    exact trace_history_take
      (C := fun e => ∀ observation, config.numJoint ≤ (e.input.session observation).length)
      hstart (fun past s t h ht => h.step hw hmotors t ht) inputs n
      (fun e' he' => hlong e' (List.mem_of_mem_take he'))
  have hentry := eq_entry_of_mem _ he
  rw [hentry]
  exact exists_command hw hmotors hc hbefore.sized hraised hready (hlong e he)

end Runs

/-! ## Two joints -/

/-- Two joints whose actions are exchanged on the way to the robot. -/
def twoJoints : PolicyConfig ℚ where
  numJoint := 2
  actionScale := 1 / 2
  actionClip := 1
  obsType := 0
  inputIndices := [1, 0]
  outputIndices := [1, 0]
  defaultJointAngle := [3, 4]
  obsComponents := ["dof_pos", "last_last_actions"]
  obsScales := Dict.empty

def twoMotors : TaskConfig ℚ := ⟨"SPARQ", [1, 2], 20, 1⟩

def reportedMotor (canId : UInt32) : ActuatorStateC ℚ :=
  ⟨canId, 0, 0, 0, 0, 0, 0, 1, 0, 0, 1, 0⟩

/-- A robot that reports twelve motors and stands upright. -/
def uprightState : RobotStateC ℚ where
  timestampMonotonic := 1
  timestampUnix := 1
  controllerMode := 2
  actuatorCount := 12
  imu := ⟨#v[0, 0, 0, 1], #v[0, 0, -1], #v[0, 0, 0], 1, 1, 1, 1, 0, 0⟩
  actuators := #v[reportedMotor 1, reportedMotor 2, reportedMotor 3, reportedMotor 4, reportedMotor 5,
    reportedMotor 6, reportedMotor 7, reportedMotor 8, reportedMotor 9, reportedMotor 10,
    reportedMotor 11, reportedMotor 12]
  commandOutput := ⟨1, 0, 0, Vector.replicate _ ⟨0, 0, 0, 0, 0, 0⟩⟩

/-- A pass with the enable button held and a network that returns a fixed vector. -/
def heldPass (output : List ℚ) : TaskInput ℚ where
  controlTimestampNs := 1
  controlState := uprightState
  auxState := ⟨#v[0, 0, 0], #v[0, 0, 0], 1⟩
  session := fun _ => output
  timeNs := 1

theorem twoJoints_wellIndexed : twoJoints.WellIndexed where
  input_length := rfl
  output_length := rfl
  input_range := by decide
  output_range := by decide
  clip_nonneg := by decide +kernel

/-- A new policy for the two joints. -/
def twoJointsPolicy : OnnxPolicy ℚ where
  config := twoJoints
  defaultJointAngle := [4, 3]
  dofPos := [0, 0]
  dofVel := [0, 0]
  deltaDofPos := [0, 0]
  actions := [0, 0]
  scaledActions := [0, 0]
  lastActions := [0, 0]
  lastLastActions := [0, 0]
  lastLastLastActions := [0, 0]
  baseAngVel := (0, 0, 0)
  projectedGravity := (0, 0, -1)
  commands := (0, 0, 0)
  mode := false
  cnt := 0

/-- Two passes, the first output beyond the clip. -/
def twoPasses : List (TaskInput ℚ) := [heldPass [5, -1 / 2], heldPass [1 / 4, 1 / 8, 9]]

/-- Both passes write; the registers are the second output and the first one clipped, and the zeros the
policy started with. -/
theorem task_run_spec_twoJoints :
    let past := trace (taskStep id twoMotors) (TaskState.start twoJointsPolicy) twoPasses
    let s := final (taskStep id twoMotors) (TaskState.start twoJointsPolicy) twoPasses
    (calls past).length = 2 ∧ s.policy.lastActions = [1 / 4, 1 / 8] ∧
    s.policy.lastLastActions = [1, -1 / 2] ∧ s.policy.lastLastLastActions = [0, 0] ∧
    ∀ call ∈ calls past, TargetsExact twoMotors twoJoints call := by
  have hsession : ∀ t ∈ twoPasses, ∀ observation,
      twoJoints.numJoint ≤ (t.session observation).length := by
    intro t ht observation
    rcases List.mem_cons.mp ht with rfl | ht
    · exact Nat.le_refl 2
    · obtain rfl := List.mem_singleton.mp ht
      exact Nat.le_succ 2
  have hrun := task_run_spec id twoMotors twoJoints rfl twoJoints_wellIndexed twoJointsPolicy rfl
    twoPasses hsession
  refine ⟨by decide +kernel, hrun.1.trans ?_, hrun.2.1.trans ?_, hrun.2.2.1.trans ?_, hrun.2.2.2.1⟩
  · decide +kernel
  · decide +kernel
  · decide +kernel

end SparqControl.TaskController
