/-
# SparqControl.TaskController.PolicyRunner — the policy around the network.

`OnnxPolicy` turns the robot state into an observation, runs the network, and keeps the last three
actions, because the observation may contain them. The network is a function of the observation, chosen
anew for every call; everything around it is modelled, with the three ways the array code fails: an
index outside a list, shapes that do not match, an observation component nobody knows.

The order of the assignments in `compute_action` is the point: each history register takes its neighbour
BEFORE the neighbour is overwritten, so the registers are the last actions counted from the end
(`History`).
-/
import SparqControl.Lib.Broadcast
import SparqControl.Lib.Dict
import SparqControl.Telemetry.PolicyGravity

namespace SparqControl.TaskController

open SparqControl.Hal
open SparqControl.Lib (Dict)
open SparqControl.Lib.Broadcast
open SparqControl.Telemetry (quatToProjectedGravity)

/-- What the task controller's code may raise. -/
inductive TaskError where
  | indexError
  | keyError
  | raised (e : PyError)
  deriving DecidableEq, Repr

/-- The text of a failed broadcast. -/
def shapeError : TaskError := .raised (.valueError "could not broadcast input array")

/-- A missing result, raised. -/
def orRaise {α : Type} (e : TaskError) : Option α → Except TaskError α
  | some a => .ok a
  | none => .error e

theorem orRaise_eq_ok_iff {α : Type} {e : TaskError} {o : Option α} {a : α} :
    orRaise e o = .ok a ↔ o = some a := by
  cases o <;> simp [orRaise]

/-- The components `_observation` knows. -/
inductive ObsComponent where
  | baseAngVel
  | projectedGravity
  | linVelXCommands
  | linVelYCommands
  | angVelZCommands
  | dofPos
  | deltaDofPos
  | dofVel
  | actions
  | lastActions
  | lastLastActions
  | lastLastLastActions
  | alpha
  | beta
  | mode
  deriving DecidableEq, Repr

/-- The component a configuration text names. -/
def ObsComponent.ofText (component : String) : Option ObsComponent :=
  if component = "base_ang_vel_" then some .baseAngVel
  else if component = "projected_gravity" then some .projectedGravity
  else if component = "lin_vel_x_commands_" then some .linVelXCommands
  else if component = "lin_vel_y_commands_" then some .linVelYCommands
  else if component = "ang_vel_z_commands_" then some .angVelZCommands
  else if component = "dof_pos" then some .dofPos
  else if component = "delta_dof_pos" then some .deltaDofPos
  else if component = "dof_vel" then some .dofVel
  else if component = "actions" then some .actions
  else if component = "last_actions" then some .lastActions
  else if component = "last_last_actions" then some .lastLastActions
  else if component = "last_last_last_actions" then some .lastLastLastActions
  else if component = "alpha" then some .alpha
  else if component = "beta" then some .beta
  else if component = "mode" then some .mode
  else none

/-- What `OnnxPolicy` reads of `runner_config.yaml` and `obs_config.yaml`. The index lists are those of
the configured `joint_idx_style`. -/
structure PolicyConfig (K : Type) where
  numJoint : ℕ
  actionScale : K
  actionClip : K
  obsType : ℤ
  inputIndices : List ℤ
  outputIndices : List ℤ
  defaultJointAngle : List K
  obsComponents : List String
  obsScales : Dict String K

/-- `OnnxPolicy`, less its session. -/
structure OnnxPolicy (K : Type) where
  config : PolicyConfig K
  defaultJointAngle : List K
  dofPos : List K
  dofVel : List K
  deltaDofPos : List K
  actions : List K
  scaledActions : List K
  lastActions : List K
  lastLastActions : List K
  lastLastLastActions : List K
  baseAngVel : K × K × K
  projectedGravity : K × K × K
  commands : K × K × K
  mode : Bool
  cnt : ℕ

section Runner

variable {K : Type} [Field K] [LinearOrder K]

/-- `np.clip`. -/
def npClip (lo hi x : K) : K := min (max x lo) hi

/-- `float(mode)`. -/
def modeValue (mode : Bool) : K := if mode then 1 else 0

/-- The array a list of indices picks. -/
def pick (l : List K) (indices : List ℤ) : Except TaskError (List K) :=
  indices.mapM fun i => orRaise .indexError (index l i)

/-- `action_offset`. Both branches return the default angles. -/
def actionOffset (config : PolicyConfig K) (robotName : String) (q : List K) (_mode : Bool) : List K :=
  let defaults := config.defaultJointAngle.take q.length
  if robotName = "qhrr" ∨ robotName = "qhrr1" then defaults else defaults

namespace OnnxPolicy

/-- `OnnxPolicy.__init__`, after the configuration was read. -/
def init (config : PolicyConfig K) : Except TaskError (OnnxPolicy K) := do
  let defaults ← pick config.defaultJointAngle config.inputIndices
  let zeros := List.replicate config.numJoint 0
  if config.obsComponents.isEmpty then
    throw (.raised (.runtimeError "No observation components specified"))
  return {
    config := config
    defaultJointAngle := defaults
    dofPos := zeros
    dofVel := zeros
    deltaDofPos := zeros
    actions := zeros
    scaledActions := zeros
    lastActions := zeros
    lastLastActions := zeros
    lastLastLastActions := zeros
    baseAngVel := (0, 0, 0)
    projectedGravity := (0, 0, -1)
    commands := (0, 0, 0)
    mode := false
    cnt := 0 }

/-- What `set_state` assigns to `delta_dof_pos`. -/
def deltaDofPosOf (p : OnnxPolicy K) (dofPos : List K) : Except TaskError (List K) :=
  if p.config.obsType = 1 then .ok dofPos
  else do
    let difference ← orRaise shapeError (broadcastWith (· - ·) dofPos p.defaultJointAngle)
    orRaise shapeError (broadcastTo p.config.numJoint difference)

/-- `set_state`. -/
def setState (sqrt : K → K) (p : OnnxPolicy K) (dofPos dofVel : List K) (quatWxyz : K × K × K × K)
    (angVel : K × K × K) : Except TaskError (OnnxPolicy K) := do
  let picked ← pick dofPos p.config.inputIndices
  let pos ← orRaise shapeError (broadcastTo p.config.numJoint picked)
  let picked ← pick dofVel p.config.inputIndices
  let vel ← orRaise shapeError (broadcastTo p.config.numJoint picked)
  let delta ← p.deltaDofPosOf pos
  let gravity ← (quatToProjectedGravity sqrt quatWxyz).mapError .raised
  return { p with
    dofPos := pos
    dofVel := vel
    deltaDofPos := delta
    projectedGravity := gravity
    baseAngVel := angVel }

/-- `set_commands`. -/
def setCommands (p : OnnxPolicy K) (linX linY yaw : K) (mode : Bool) : OnnxPolicy K :=
  { p with commands := (linX, linY, yaw), mode := mode }

/-- The values of a component before they are scaled. -/
def component (p : OnnxPolicy K) : ObsComponent → List K
  | .baseAngVel => [p.baseAngVel.1, p.baseAngVel.2.1, p.baseAngVel.2.2]
  | .projectedGravity => [p.projectedGravity.1, p.projectedGravity.2.1, p.projectedGravity.2.2]
  | .linVelXCommands => [p.commands.1]
  | .linVelYCommands => [p.commands.2.1]
  | .angVelZCommands => [p.commands.2.2]
  | .dofPos => p.dofPos
  | .deltaDofPos => p.deltaDofPos
  | .dofVel => p.dofVel
  | .actions => p.actions
  | .lastActions => p.lastActions
  | .lastLastActions => p.lastLastActions
  | .lastLastLastActions => p.lastLastLastActions
  | .alpha => [max 0 (min 1 (-p.projectedGravity.2.2))]
  | .beta => [max 0 (min 1 (-p.projectedGravity.1)) * modeValue p.mode]
  | .mode => [modeValue p.mode]

/-- One round of the loop of `_observation`. -/
def observe (p : OnnxPolicy K) (text : String) : Except TaskError (List K) :=
  match ObsComponent.ofText text with
  | some c => .ok ((p.component c).map (· * (p.config.obsScales.get? text).getD 1))
  | none => .error (.raised (.runtimeError ("unsupported observation component: " ++ text)))

/-- `_observation`. -/
def observation (p : OnnxPolicy K) : Except TaskError (List K) := do
  return (← p.config.obsComponents.mapM p.observe).flatten

/-- The first half of `compute_action`: the call is counted, and the network runs on the observation. -/
def runSession (p : OnnxPolicy K) (session : List K → List K) :
    Except TaskError (OnnxPolicy K × List K) := do
  let p := { p with cnt := p.cnt + 1 }
  let observation ← p.observation
  return (p, session observation)

/-- `self.scaled_actions[out_index] = scaled_original[src_index]`. -/
def store (scaledOriginal scaled : List K) (src : ℤ × ℕ) : Except TaskError (List K) := do
  let value ← orRaise .indexError (index scaledOriginal src.1)
  if src.2 < scaled.length then return scaled.set src.2 value else throw .indexError

/-- The loop that puts the scaled actions into the robot's joint order. -/
def reorder (scaledOriginal scaledActions : List K) (outputIndices : List ℤ) :
    Except TaskError (List K) :=
  outputIndices.zipIdx.foldlM (store scaledOriginal) scaledActions

/-- The clipped action of a network output. -/
def clipped (config : PolicyConfig K) (output : List K) : List K :=
  (output.take config.numJoint).map (npClip (-config.actionClip) config.actionClip)

/-- The second half of `compute_action`: the output becomes the action, the history moves on, and the
scaled action is returned in the robot's joint order. -/
def applyOutput (p : OnnxPolicy K) (output : List K) : Except TaskError (OnnxPolicy K × List K) := do
  let actions ← orRaise shapeError (broadcastTo p.config.numJoint (clipped p.config output))
  let p := { p with actions := actions }
  let scaledOriginal := p.actions.map (· * p.config.actionScale)
  let scaled ← reorder scaledOriginal p.scaledActions p.config.outputIndices
  let p := { p with scaledActions := scaled }
  let p := { p with lastLastLastActions := p.lastLastActions }
  let p := { p with lastLastActions := p.lastActions }
  let p := { p with lastActions := p.actions }
  return (p, p.scaledActions)

/-- `compute_action`. -/
def computeAction (p : OnnxPolicy K) (session : List K → List K) :
    Except TaskError (OnnxPolicy K × List K) := do
  let (p, output) ← p.runSession session
  p.applyOutput output

/-- What the network returned in a call. -/
def networkOutput (p : OnnxPolicy K) (session : List K → List K) : List K :=
  match p.observation with
  | .ok observation => session observation
  | .error _ => []

end OnnxPolicy

/-! ## The reordering loop -/

namespace OnnxPolicy

omit [Field K] [LinearOrder K] in
/-- The loop from any place on: the places before it stay, and place `j + k` gets the value its index
names. -/
theorem foldlM_reorder (scaledOriginal : List K) (indices : List ℤ) (j : ℕ) (scaled : List K)
    (hlen : scaled.length = j + indices.length)
    (hrange : ∀ i ∈ indices, InRange scaledOriginal.length i) :
    ∃ r : List K, (indices.zipIdx j).foldlM (store scaledOriginal) scaled = .ok r ∧
      r.length = scaled.length ∧ (∀ k : ℕ, k < j → r[k]? = scaled[k]?) ∧
      ∀ (k : ℕ) (i : ℤ), indices[k]? = some i → r[j + k]? = index scaledOriginal i := by
  induction indices generalizing j scaled with
  | nil => exact ⟨scaled, rfl, rfl, fun _ _ => rfl, fun k i h => by simp at h⟩
  | cons i indices ih =>
      obtain ⟨value, -, hvalue⟩ := exists_index_of_inRange (hrange i List.mem_cons_self)
      have hj : j < scaled.length := by
        rw [hlen, List.length_cons]
        omega
      obtain ⟨r, hr, hrlen, hbefore, hafter⟩ := ih (j + 1) (scaled.set j value)
        (by rw [List.length_set, hlen, List.length_cons]; omega)
        (fun i' hi' => hrange i' (List.mem_cons_of_mem _ hi'))
      refine ⟨r, ?_, ?_, ?_, ?_⟩
      · have hstore : store scaledOriginal scaled (i, j) = .ok (scaled.set j value) := by
          unfold store
          rw [hvalue]
          exact if_pos hj
        rw [List.zipIdx_cons, List.foldlM_cons, hstore]
        exact hr
      · rw [hrlen, List.length_set]
      · intro k hk
        rw [hbefore k (by omega), List.getElem?_set_ne (by omega)]
      · intro k i' hi'
        cases k with
        | zero =>
            obtain rfl : i = i' := by simpa using hi'
            rw [Nat.add_zero, hbefore j (by omega), List.getElem?_set_self hj, hvalue]
        | succ k =>
            rw [show j + (k + 1) = j + 1 + k by omega]
            exact hafter k i' (by simpa using hi')

omit [Field K] [LinearOrder K] in
theorem reorder_spec (scaledOriginal : List K) {scaledActions : List K} {outputIndices : List ℤ}
    (hlen : outputIndices.length = scaledActions.length)
    (hrange : ∀ i ∈ outputIndices, InRange scaledOriginal.length i) :
    ∃ r : List K, reorder scaledOriginal scaledActions outputIndices = .ok r ∧
      r.length = scaledActions.length ∧
      ∀ (k : ℕ) (i : ℤ), outputIndices[k]? = some i → r[k]? = index scaledOriginal i := by
  obtain ⟨r, hr, hrlen, -, hvalues⟩ := foldlM_reorder scaledOriginal outputIndices 0 scaledActions
    (by omega) hrange
  refine ⟨r, hr, hrlen, ?_⟩
  intro k i hi
  have h := hvalues k i hi
  rwa [Nat.zero_add] at h

end OnnxPolicy

/-! ## One call -/

/-- Index lists of the right length and range, and a clip that is a bound. -/
structure PolicyConfig.WellIndexed (config : PolicyConfig K) : Prop where
  input_length : config.inputIndices.length = config.numJoint
  output_length : config.outputIndices.length = config.numJoint
  input_range : ∀ i ∈ config.inputIndices, InRange config.numJoint i
  output_range : ∀ i ∈ config.outputIndices, InRange config.numJoint i
  clip_nonneg : 0 ≤ config.actionClip

omit [Field K] [LinearOrder K] in
theorem exists_pick (l : List K) (indices : List ℤ) (h : ∀ i ∈ indices, InRange l.length i) :
    ∃ r, pick l indices = .ok r := by
  apply exists_mapM
  intro i hi
  obtain ⟨a, -, ha⟩ := exists_index_of_inRange (h i hi)
  exact ⟨a, orRaise_eq_ok_iff.mpr ha⟩

namespace OnnxPolicy

variable {config : PolicyConfig K} {p p' : OnnxPolicy K}

/-- The arrays of a policy that its code indexes have one place per joint. -/
structure Sized (config : PolicyConfig K) (p : OnnxPolicy K) : Prop where
  config_eq : p.config = config
  scaledActions : p.scaledActions.length = config.numJoint
  defaultJointAngle : p.defaultJointAngle.length = config.numJoint

theorem Sized.init (hw : config.WellIndexed) (h : OnnxPolicy.init config = .ok p) : Sized config p := by
  obtain ⟨defaults, hdefaults, h⟩ := bind_eq_ok_iff.mp h
  have hlen := length_of_mapM hdefaults
  split at h
  · cases h
  · cases h
    exact ⟨rfl, List.length_replicate, hlen.trans hw.input_length⟩

/-- What `set_state` leaves: everything but the readings is as before. -/
theorem setState_eq_ok {sqrt : K → K} {dofPos dofVel : List K} {quat : K × K × K × K}
    {angVel : K × K × K} (h : p.setState sqrt dofPos dofVel quat angVel = .ok p') :
    ∃ pos vel delta gravity, p' = { p with
      dofPos := pos, dofVel := vel, deltaDofPos := delta, projectedGravity := gravity,
      baseAngVel := angVel } := by
  unfold setState at h
  obtain ⟨_, -, h⟩ := bind_eq_ok_iff.mp h
  obtain ⟨pos, -, h⟩ := bind_eq_ok_iff.mp h
  obtain ⟨_, -, h⟩ := bind_eq_ok_iff.mp h
  obtain ⟨vel, -, h⟩ := bind_eq_ok_iff.mp h
  obtain ⟨delta, -, h⟩ := bind_eq_ok_iff.mp h
  obtain ⟨gravity, -, h⟩ := bind_eq_ok_iff.mp h
  cases h
  exact ⟨pos, vel, delta, gravity, rfl⟩

/-- `set_state` returns when there is a reading for every motor and the quaternion has a norm. -/
theorem exists_setState (hw : config.WellIndexed) (hp : Sized config p) {sqrt : K → K}
    {dofPos dofVel : List K} {quat : K × K × K × K} (angVel : K × K × K)
    (hpos : dofPos.length = config.numJoint) (hvel : dofVel.length = config.numJoint)
    (hquat : ∃ g, quatToProjectedGravity sqrt quat = .ok g) :
    ∃ p', p.setState sqrt dofPos dofVel quat angVel = .ok p' := by
  obtain ⟨g, hg⟩ := hquat
  obtain ⟨pos, hpick⟩ := exists_pick dofPos config.inputIndices
    (by rw [hpos]; exact hw.input_range)
  obtain ⟨vel, hpick'⟩ := exists_pick dofVel config.inputIndices
    (by rw [hvel]; exact hw.input_range)
  have hlen : pos.length = config.numJoint := (length_of_mapM hpick).trans hw.input_length
  have hlen' : vel.length = config.numJoint := (length_of_mapM hpick').trans hw.input_length
  obtain ⟨delta, hdelta⟩ : ∃ delta, p.deltaDofPosOf pos = .ok delta := by
    have hdiff : broadcastWith (· - ·) pos p.defaultJointAngle =
        some (List.zipWith (· - ·) pos p.defaultJointAngle) :=
      broadcastWith_of_length (hlen.trans hp.defaultJointAngle.symm)
    have hdifflen : (List.zipWith (· - ·) pos p.defaultJointAngle).length = config.numJoint := by
      rw [List.length_zipWith, hlen, hp.defaultJointAngle, min_self]
    unfold deltaDofPosOf
    rw [hp.config_eq]
    split
    · exact ⟨pos, rfl⟩
    · rw [hdiff]
      exact ⟨_, orRaise_eq_ok_iff.mpr (broadcastTo_of_length hdifflen)⟩
  have hstore : orRaise shapeError (broadcastTo config.numJoint pos) = .ok pos :=
    orRaise_eq_ok_iff.mpr (broadcastTo_of_length hlen)
  have hstore' : orRaise shapeError (broadcastTo config.numJoint vel) = .ok vel :=
    orRaise_eq_ok_iff.mpr (broadcastTo_of_length hlen')
  have hgravity : (quatToProjectedGravity sqrt quat).mapError TaskError.raised = .ok g := by
    rw [hg]
    rfl
  unfold setState
  simp only [hp.config_eq, bind_eq_ok_iff]
  exact ⟨_, pos, hpick, pos, hstore, vel, hpick', vel, hstore', delta, hdelta, g, hgravity, rfl⟩

/-- An action after clipping is within the clip. -/
theorem abs_npClip_le [IsStrictOrderedRing K] {c : K} (hc : 0 ≤ c) (x : K) : |npClip (-c) c x| ≤ c := by
  have hle : -c ≤ c := by linarith
  rw [abs_le]
  exact ⟨le_min (le_max_right x (-c)) hle, min_le_right _ _⟩

theorem length_clipped {output : List K} (h : config.numJoint ≤ output.length) :
    (clipped config output).length = config.numJoint := by
  rw [clipped, List.length_map, List.length_take, min_eq_left h]

/-- **What an output does**: it is clipped into the action, the history moves on by one, and joint `k`
gets the scaled action at its output index. -/
theorem applyOutput_spec (hw : config.WellIndexed) (hp : Sized config p) {output : List K}
    (hlen : config.numJoint ≤ output.length) :
    ∃ scaled : List K, p.applyOutput output = .ok ({ p with
        actions := clipped config output
        scaledActions := scaled
        lastLastLastActions := p.lastLastActions
        lastLastActions := p.lastActions
        lastActions := clipped config output }, scaled) ∧
      scaled.length = config.numJoint ∧
      ∀ (k : ℕ) (i : ℤ), config.outputIndices[k]? = some i →
        scaled[k]? = (index (clipped config output) i).map (· * config.actionScale) := by
  have hclip := length_clipped hlen
  have hlens : config.outputIndices.length = p.scaledActions.length := by
    rw [hw.output_length, hp.scaledActions]
  obtain ⟨scaled, hscaled, hslen, hvalues⟩ := reorder_spec
    ((clipped config output).map (· * config.actionScale)) hlens
    (by rw [List.length_map, hclip]; exact hw.output_range)
  refine ⟨scaled, ?_, hslen.trans hp.scaledActions, ?_⟩
  · unfold applyOutput
    simp only [hp.config_eq, bind_eq_ok_iff]
    exact ⟨_, orRaise_eq_ok_iff.mpr (broadcastTo_of_length hclip), scaled, hscaled, rfl⟩
  · intro k i hi
    rw [hvalues k i hi, index_map]

/-- A policy after a completed call. -/
def afterCall (p : OnnxPolicy K) (output scaled : List K) : OnnxPolicy K :=
  { p with
    cnt := p.cnt + 1
    actions := clipped p.config output
    scaledActions := scaled
    lastLastLastActions := p.lastLastActions
    lastLastActions := p.lastActions
    lastActions := clipped p.config output }

@[simp] theorem afterCall_config (p : OnnxPolicy K) (output scaled : List K) :
    (p.afterCall output scaled).config = p.config := rfl

/-- **`compute_action`**: an observation that cannot be built is raised; otherwise the call completes
with the effect of the network's output. -/
theorem computeAction_spec (hw : config.WellIndexed) (hp : Sized config p) {session : List K → List K}
    (hsession : ∀ observation, config.numJoint ≤ (session observation).length) :
    ((∃ e, p.observation = .error e) ∧ ∃ e, p.computeAction session = .error e) ∨
    ∃ scaled : List K,
      p.computeAction session = .ok (p.afterCall (p.networkOutput session) scaled, scaled) ∧
      config.numJoint ≤ (p.networkOutput session).length ∧ scaled.length = config.numJoint ∧
      ∀ (k : ℕ) (i : ℤ), config.outputIndices[k]? = some i → scaled[k]? =
        (index (clipped config (p.networkOutput session)) i).map (· * config.actionScale) := by
  obtain rfl := hp.config_eq
  have hcounted : { p with cnt := p.cnt + 1 }.observation = p.observation := rfl
  unfold computeAction runSession
  simp only [hcounted]
  cases hobs : p.observation with
  | error e => exact Or.inl ⟨⟨e, rfl⟩, e, rfl⟩
  | ok observation =>
      have houtput : p.networkOutput session = session observation := by
        unfold networkOutput
        rw [hobs]
      have hlen : p.config.numJoint ≤ (p.networkOutput session).length := by
        rw [houtput]
        exact hsession observation
      have hsized : Sized p.config { p with cnt := p.cnt + 1 } := ⟨rfl, hp.2, hp.3⟩
      obtain ⟨scaled, happly, hslen, hvalues⟩ := applyOutput_spec hw hsized hlen
      refine Or.inr ⟨scaled, ?_, hlen, hslen, hvalues⟩
      rw [houtput] at happly ⊢
      exact happly

theorem Sized.afterCall (hp : Sized config p) {output scaled : List K}
    (hlen : scaled.length = config.numJoint) : Sized config (p.afterCall output scaled) :=
  ⟨hp.config_eq, hlen, hp.defaultJointAngle⟩

end OnnxPolicy

end Runner

end SparqControl.TaskController
