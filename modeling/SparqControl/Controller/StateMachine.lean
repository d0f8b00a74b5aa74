/-
# SparqControl.Controller.StateMachine — the six controller modes and their transitions.

`ControllerStateMachine.update` is a chain of early returns; its ORDER is its meaning. The chain is
modelled as it stands, and then read once and for all as a table: `nextMode` gives the mode after an
update from the mode before it, the command code and whether the enable dwell is over, and
`update_eq_enter` says that `update` enters exactly that mode. Everything later is derived from the
table, never from the chain.
-/
import SparqControl.Shm.OperatorCommand

namespace SparqControl.Controller

open SparqControl.Hal SparqControl.Shm

/-- `ControllerMode`. -/
inductive ControllerMode where
  | disabled
  | enabling
  | normal
  | damping
  | zeroSetting
  | estop
  deriving DecidableEq, Repr

/-- `ControllerStateMachine`. `__post_init__` refuses a negative dwell. -/
structure ControllerStateMachine (K : Type) [Field K] [LinearOrder K] where
  enableDurationS : K
  mode : ControllerMode := .disabled
  modeEnterTime : K := 0
  enableDuration_nonneg : 0 ≤ enableDurationS

namespace ControllerStateMachine

variable {K : Type} [Field K] [LinearOrder K]

/-- The constructor, with the clock reading it takes when no enter time is given. -/
def create (enableDurationS monotonic : K) : Except PyError (ControllerStateMachine K) :=
  if h : enableDurationS < 0 then .error (.valueError "enable_duration_s must be >= 0")
  else .ok
    { enableDurationS := enableDurationS
      modeEnterTime := monotonic
      enableDuration_nonneg := not_lt.mp h }

/-- `enter`. -/
def enter (sm : ControllerStateMachine K) (mode : ControllerMode) (now : K) :
    ControllerStateMachine K :=
  if sm.mode = mode then sm else { sm with mode := mode, modeEnterTime := now }

/-- The code `update` acts on: no command and an unknown number both count as `NONE`. -/
def commandCode (command : Option OperatorCommandC) : OperatorCommandCode :=
  match command with
  | none => .none
  | some c => c.code?.getD .none

/-- `update`, branch by branch. -/
def update (sm : ControllerStateMachine K) (command : Option OperatorCommandC) (now : K) :
    ControllerStateMachine K :=
  let code := commandCode command
  if code = .estop then sm.enter .estop now
  -- the latch: nothing below is looked at in ESTOP
  else if sm.mode = .estop then
    if code = .resetFault then sm.enter .disabled now else sm
  else if code = .disable then sm.enter .disabled now
  else if code = .enable ∧ (sm.mode = .disabled ∨ sm.mode = .zeroSetting) then
    sm.enter .enabling now
  -- ENABLE while ENABLING falls through to the dwell check; in the other modes it is ignored
  else if code = .enable ∧ sm.mode ≠ .enabling then sm
  else if code = .run ∧ sm.mode = .damping then sm.enter .normal now
  else if code = .run ∧ sm.mode = .normal then sm
  -- DAMPING and ZERO_SET are taken in every mode that is left
  else if code = .damping then sm.enter .damping now
  else if code = .zeroSet then sm.enter .zeroSetting now
  else if code = .resetFault then sm.enter .disabled now
  else if sm.mode = .zeroSetting ∧ code = .none then sm.enter .disabled now
  else if sm.mode = .enabling then
    if now - sm.modeEnterTime ≥ sm.enableDurationS then sm.enter .damping now else sm
  else sm

/-! ## The transition table -/

/-- The mode after an update. `dwellOver` says that the enable dwell has passed. -/
def nextMode (mode : ControllerMode) (code : OperatorCommandCode) (dwellOver : Bool) :
    ControllerMode :=
  match mode, code, dwellOver with
  | _, .estop, _ => .estop
  | .estop, .resetFault, _ => .disabled
  | .estop, _, _ => .estop
  | _, .disable, _ => .disabled
  | _, .resetFault, _ => .disabled
  | _, .damping, _ => .damping
  | _, .zeroSet, _ => .zeroSetting
  | .disabled, .enable, _ => .enabling
  | .zeroSetting, .enable, _ => .enabling
  | .zeroSetting, .none, _ => .disabled
  | .damping, .run, _ => .normal
  | .enabling, _, true => .damping
  | m, _, _ => m

@[simp] theorem enter_mode (sm : ControllerStateMachine K) (mode : ControllerMode) (now : K) :
    (sm.enter mode now).mode = mode := by
  unfold enter
  split
  · assumption
  · rfl

@[simp] theorem enter_enableDurationS (sm : ControllerStateMachine K) (mode : ControllerMode)
    (now : K) : (sm.enter mode now).enableDurationS = sm.enableDurationS := by
  unfold enter
  split <;> rfl

theorem enter_modeEnterTime (sm : ControllerStateMachine K) (mode : ControllerMode) (now : K) :
    (sm.enter mode now).modeEnterTime = if sm.mode = mode then sm.modeEnterTime else now := by
  unfold enter
  split <;> rfl

/-- `update` enters the mode of the table, and does nothing else. -/
theorem update_eq_enter (sm : ControllerStateMachine K) (command : Option OperatorCommandC)
    (now : K) :
    sm.update command now =
      sm.enter (nextMode sm.mode (commandCode command)
        (decide (sm.enableDurationS ≤ now - sm.modeEnterTime))) now := by
  unfold update
  -- six modes, eight codes, the dwell: both sides compute
  obtain ⟨duration, mode, enterTime, hd⟩ := sm
  generalize commandCode command = code
  by_cases hdwell : duration ≤ now - enterTime <;> cases mode <;> cases code <;>
    simp [nextMode, enter, hdwell]

end ControllerStateMachine

end SparqControl.Controller
