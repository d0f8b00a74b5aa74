/-
# SparqControl.Dashboard.CommandService — the dashboard's way onto the CAN bus.

Every frame the dashboard sends passes `send_raw`, which asks two gates before it asks for the
transmit lock: a motor enable is refused while the controller is not in a state that allows it, a zero
set is refused unless the controller is in NORMAL. Both gates look the WHOLE integer id up among the
configured actuators, while a receiver on the bus keeps its low eleven bits. An id that is unknown as
an integer and an actuator's once masked (`AliasedId`) passes both gates unchecked.

`raw_gate_runs` is the account over call sequences: the gates hold in every run in which no raw frame
with a gated opcode has an aliased id, and every such frame breaks them in some run.
-/
import Mathlib.Data.List.Infix
import SparqControl.Hw.DongilcProtocol
import SparqControl.Lib.Trace

namespace SparqControl.Dashboard

open SparqControl.Hal
open SparqControl.Hw (cmdMitEnter cmdMitExit cmdMitSetZero)
open SparqControl.Hw.SPGActuatorProtocol (mitControlBytes)
open SparqControl.Lib.Packed (Layout)
open SparqControl.Lib.Trace

/-! ## State names -/

/-- The Unicode functions of Python's `str` that the service calls. -/
structure PyUnicode where
  strip : String → String
  upper : String → String
  isalnum : Char → Bool

/-- These functions on ASCII text. -/
def PyUnicode.ascii : PyUnicode where
  strip s :=
    let front := s.toList.dropWhile Char.isWhitespace
    String.ofList (front.reverse.dropWhile Char.isWhitespace).reverse
  upper s := String.ofList (s.toList.map Char.toUpper)
  isalnum c := c.isAlphanum

/-- `ENABLE_BLOCK_STATES`. -/
def enableBlockStates : List String :=
  ["CREATED", "DISABLED", "DISARMED", "FAULT_LATCHED", "ESTOP", "SHUTTING_DOWN", "STOPPED"]

/-- `ZERO_SET_ALLOWED_STATES`. -/
def zeroSetAllowedStates : List String := ["NORMAL"]

/-- `normalize_state_name`. -/
def normalizeStateName (py : PyUnicode) (value : Option String) : Option String := do
  let value ← value
  let normalized := (py.upper (py.strip value)).toList.map fun c => if py.isalnum c then c else '_'
  let parts := (normalized.splitOn '_').filter fun part => !part.isEmpty
  let joined := ['_'].intercalate parts
  if joined.isEmpty then none else some (String.ofList joined)

/-- `is_operator_estop_damping`. -/
def isOperatorEstopDamping (py : PyUnicode) (stateName reason : Option String) : Bool :=
  stateName = some "DAMPING" && "E-STOP".toList <:+: (py.upper (reason.getD "")).toList

/-! ## Replies -/

/-- `f"{i:0{width}X}"`. -/
def formatHex (width : ℕ) (i : ℤ) : String :=
  let sign := if i < 0 then ['-'] else []
  let digits := (Nat.toDigits 16 i.natAbs).map Char.toUpper
  String.ofList (sign ++ List.replicate (width - sign.length - digits.length) '0' ++ digits)

/-- The dictionary `format_tx_result` returns. -/
structure TxResult where
  canId : String
  data : String
  sentBytes : ℕ
  deriving DecidableEq, Repr

/-- `CAN_FRAME_SIZE`. -/
def canFrameSize : ℕ := 16

/-- `format_tx_result`. -/
def formatTxResult (canId : ℤ) (data : List UInt8) (sentBytes : ℕ) : TxResult where
  canId := "0x" ++ formatHex 3 canId
  data := " ".intercalate (data.map fun b => formatHex 2 b.toNat)
  sentBytes := sentBytes

/-- What a call raises: a `CommandError`, an exception of the encoder, or one of the CAN client that
is neither an `OSError` nor a `RuntimeError` and is not caught. -/
inductive CallError where
  | commandError (text : String)
  | encoder (error : PyError)
  | client
  deriving DecidableEq, Repr

/-! ## The encoder of the MIT hold -/

section Encoder

variable {K : Type} [Field K] [LinearOrder K]

/-- `require_range` of the dashboard. -/
def requireRange (value : PyFloat K) (lo hi : K) (field : String) : Except PyError Unit :=
  if value.ltFin lo || value.gtFin hi then
    .error (.valueError ("MIT " ++ field ++ " out of range"))
  else .ok ()

variable [FloorRing K]

/-- `float_to_uint` of the dashboard, which rounds with Python's `round`. -/
def floatToUint (value : PyFloat K) (valueMin valueMax : K) (bits : ℕ) : Except PyError ℤ := do
  requireRange value valueMin valueMax "field"
  let span := valueMax - valueMin
  let maxInt : ℕ := (1 <<< bits) - 1
  let scaled ← ((value.subFin valueMin).mulFin maxInt).divFin span
  scaled.pyRound

/-- `pack_mit_payload`. -/
def packMitPayload (qRad qdRadS kp kd tauFfNm : PyFloat K) (pMax vMax kpMax kdMax tauMax : K) :
    Except PyError (List UInt8) := do
  requireRange qRad (-pMax) pMax "q_rad"
  requireRange qdRadS (-vMax) vMax "qd_rad_s"
  requireRange kp 0 kpMax "kp"
  requireRange kd 0 kdMax "kd"
  requireRange tauFfNm (-tauMax) tauMax "tau_ff_nm"
  let pU ← floatToUint qRad (-pMax) pMax 16
  let vU ← floatToUint qdRadS (-vMax) vMax 12
  let kpU ← floatToUint kp 0 kpMax 12
  let kdU ← floatToUint kd 0 kdMax 8
  let tU ← floatToUint tauFfNm (-tauMax) tauMax 8
  return mitControlBytes pU vU kpU kdU tU

/-- A packed hold is a control frame, whatever its fields. -/
theorem head_packMitPayload {qRad qdRadS kp kd tauFfNm : PyFloat K} {pMax vMax kpMax kdMax tauMax : K}
    {payload : List UInt8}
    (h : packMitPayload qRad qdRadS kp kd tauFfNm pMax vMax kpMax kdMax tauMax = .ok payload) :
    payload.head? = some 0xC0 := by
  unfold packMitPayload at h
  simp only [bind_eq_ok_iff] at h
  obtain ⟨-, -, -, -, -, -, -, -, -, -, pU, -, vU, -, kpU, -, kdU, -, tU, -, hpayload⟩ := h
  cases hpayload
  rfl

end Encoder

/-! ## The service -/

/-- What the service is built with: the part of `MonitorState` that never changes, and which of the
two providers it was given. -/
structure ServiceConfig (K : Type) where
  actuatorConfigs : List (ℤ × String)
  allowActuatorCommands : Bool
  mitPMaxRad : K
  mitVMaxRadS : K
  mitKpMax : K
  mitKdMax : K
  mitTauMaxNm : K
  hasStateProvider : Bool
  hasReasonProvider : Bool

/-- What changes: the transmit lock, the connection flag and the last socket error. -/
structure CommandService where
  txEnabled : Bool
  connected : Bool
  socketError : Option String
  deriving DecidableEq, Repr

/-- What a method of the CAN client does: return, raise an `OSError` or a `RuntimeError`, or raise
anything else. -/
inductive ClientOutcome where
  | ok
  | failed (text : String)
  | escaped
  deriving DecidableEq, Repr

/-- What the outside answers during one call. -/
structure CallEnv where
  safetyState : Option String
  safetyReason : Option String
  connect : ClientOutcome
  send : ClientOutcome

/-- A call of the service. -/
inductive Call where
  | sendRaw (canId : ℤ) (data : List UInt8)
  | motorEnter (canId : ℤ)
  | motorExit (canId : ℤ)
  | motorZero (canId offsetCount : ℤ)
  | motorMitHold (canId : ℤ)
  | lockTx
  | unlockTx
  deriving DecidableEq, Repr

/-- What a call leaves outside: the frame handed to the CAN client, if any, and the reply. -/
structure CallOutput where
  handed : Option CANFrame
  reply : Except CallError (Option TxResult)

/-- A call that stops before the CAN client. -/
def CallOutput.refused (error : CallError) : CallOutput := ⟨none, .error error⟩

section Service

variable {K : Type} (py : PyUnicode) (c : ServiceConfig K)

/-- `actuator_config_for_can_id`. -/
def ServiceConfig.actuatorConfigForCanId (canId : ℤ) : Option (ℤ × String) :=
  c.actuatorConfigs.find? fun actuator => actuator.1 = canId

/-- `controller_safety_state`. -/
def controllerSafetyState (env : CallEnv) : Option String :=
  if c.hasStateProvider then normalizeStateName py env.safetyState else none

/-- `controller_safety_reason`. -/
def controllerSafetyReason (env : CallEnv) : Option String :=
  if c.hasReasonProvider then env.safetyReason else none

/-- `require_controller_state`. -/
def requireControllerState (env : CallEnv) (actionName : String) (allowedStates : List String) :
    Except CallError Unit :=
  match controllerSafetyState py c env with
  | none =>
      .error (.commandError
        (actionName ++ " is blocked because controller safety state is unavailable"))
  | some stateName =>
      if stateName ∈ allowedStates then .ok ()
      else .error (.commandError
        (actionName ++ " is blocked while controller safety state is " ++ stateName ++
          "; required: " ++ ", ".intercalate allowedStates))

/-- `reject_motor_enable_when_blocked`. -/
def rejectMotorEnableWhenBlocked (env : CallEnv) (canId : ℤ) (data : List UInt8) :
    Except CallError Unit :=
  if data.head? ≠ some cmdMitEnter then .ok ()
  -- the id is looked up as the integer it is, not as the eleven bits a receiver keeps
  else if c.actuatorConfigForCanId canId = none then .ok ()
  else
    let stateName := controllerSafetyState py c env
    if c.hasStateProvider ∧ stateName = none then
      .error (.commandError
        "Motor enable is blocked because controller safety state is unavailable")
    else if stateName.any (· ∈ enableBlockStates) then
      .error (.commandError
        ("Motor enable is blocked while controller safety state is " ++ stateName.getD ""))
    else if isOperatorEstopDamping py stateName (controllerSafetyReason c env) then
      .error (.commandError "Motor enable is blocked while controller is in operator E-stop damping")
    else .ok ()

/-- `reject_motor_zero_when_not_normal`. -/
def rejectMotorZeroWhenNotNormal (env : CallEnv) (canId : ℤ) (data : List UInt8) :
    Except CallError Unit :=
  if data.head? ≠ some cmdMitSetZero then .ok ()
  else if c.actuatorConfigForCanId canId = none then .ok ()
  else requireControllerState py c env "Motor zero set" zeroSetAllowedStates

/-- `require_tx`. -/
def requireTx (s : CommandService) (env : CallEnv) : CommandService × Except CallError Unit :=
  if !s.txEnabled then (s, .error (.commandError "TX is locked"))
  else if s.connected then (s, .ok ())
  else
    match env.connect with
    | .ok => ({ s with connected := true }, .ok ())
    | .failed text =>
        ({ s with socketError := some text },
          .error (.commandError ("CAN daemon is not connected: " ++ text)))
    | .escaped => (s, .error .client)

/-- The frame is handed to the CAN client, and the client's answer is recorded. -/
def handOver (s : CommandService) (env : CallEnv) (frame : CANFrame) : CommandService × CallOutput :=
  match env.send with
  | .ok =>
      ({ s with socketError := none },
        ⟨some frame, .ok (some (formatTxResult frame.canId frame.data canFrameSize))⟩)
  -- the next call connects again
  | .failed text =>
      ({ s with connected := false, socketError := some text },
        ⟨some frame, .error (.commandError text)⟩)
  | .escaped => (s, ⟨some frame, .error .client⟩)

/-- `send_raw`. -/
def sendRaw (s : CommandService) (env : CallEnv) (canId : ℤ) (data : List UInt8) :
    CommandService × CallOutput :=
  -- both gates are asked before the lock, so a gate's text hides "TX is locked"
  match rejectMotorEnableWhenBlocked py c env canId data with
  | .error error => (s, .refused error)
  | .ok () =>
      match rejectMotorZeroWhenNotNormal py c env canId data with
      | .error error => (s, .refused error)
      | .ok () =>
          match requireTx s env with
          | (s, .error error) => (s, .refused error)
          | (s, .ok ()) => handOver s env ⟨canId, data⟩

/-- `send_motor_command`. -/
def sendMotorCommand (s : CommandService) (env : CallEnv) (canId : ℤ) (opcode : UInt8)
    (suffix : List UInt8) : CommandService × CallOutput :=
  if !c.allowActuatorCommands then
    (s, .refused (.commandError "Actuator commands are disabled by config"))
  else if c.actuatorConfigForCanId canId = none then
    (s, .refused (.commandError ("Unknown actuator CAN ID 0x" ++ formatHex 3 canId)))
  else if suffix.length > 7 then
    (s, .refused (.commandError
      ("Actuator command suffix too long: " ++ toString suffix.length ++ "/7 bytes")))
  else
    sendRaw py c s env canId (opcode :: (List.replicate (7 - suffix.length) 0 ++ suffix))

/-- `motor_zero`. -/
def motorZero (s : CommandService) (env : CallEnv) (canId offsetCount : ℤ) :
    CommandService × CallOutput :=
  if -32768 ≤ offsetCount ∧ offsetCount ≤ 32767 then
    sendMotorCommand py c s env canId cmdMitSetZero (Layout.int16.toBytes (Int16.ofInt offsetCount))
  else
    (s, .refused (.commandError
      ("MIT zero offset_count out of int16 range: " ++ toString offsetCount)))

variable [Field K] [LinearOrder K] [FloorRing K]

/-- `motor_mit_hold`: no configured id is asked for, and the gain is a fixed one half. -/
def motorMitHold (s : CommandService) (env : CallEnv) (canId : ℤ) : CommandService × CallOutput :=
  if !c.allowActuatorCommands then
    (s, .refused (.commandError "Actuator commands are disabled by config"))
  else
    match packMitPayload (.fin 0) (.fin 0) (.fin 0) (.fin 0.5) (.fin 0)
        c.mitPMaxRad c.mitVMaxRadS c.mitKpMax c.mitKdMax c.mitTauMaxNm with
    | .error error => (s, .refused (.encoder error))
    | .ok payload => sendRaw py c s env canId payload

/-- One call. -/
def callStep (s : CommandService) (call : Call × CallEnv) : CommandService × CallOutput :=
  match call.1 with
  | .sendRaw canId data => sendRaw py c s call.2 canId data
  | .motorEnter canId => sendMotorCommand py c s call.2 canId cmdMitEnter []
  | .motorExit canId => sendMotorCommand py c s call.2 canId cmdMitExit []
  | .motorZero canId offsetCount => motorZero py c s call.2 canId offsetCount
  | .motorMitHold canId => motorMitHold py c s call.2 canId
  | .lockTx => ({ s with txEnabled := false }, ⟨none, .ok none⟩)
  | .unlockTx => ({ s with txEnabled := true }, ⟨none, .ok none⟩)

/-- One recorded call. -/
abbrev CallEntry := Entry CommandService (Call × CallEnv) CallOutput

/-- A recorded sequence of calls. -/
def serviceRun (s : CommandService) (calls : List (Call × CallEnv)) : List CallEntry :=
  trace (callStep py c) s calls

end Service

/-! ## What the gates promise -/

section Gates

variable {K : Type} (py : PyUnicode) (c : ServiceConfig K)

/-- The id is one of the configured actuators'. -/
def ServiceConfig.Configured (canId : ℤ) : Prop := canId ∈ c.actuatorConfigs.map Prod.fst

instance (canId : ℤ) : Decidable (c.Configured canId) :=
  inferInstanceAs (Decidable (canId ∈ c.actuatorConfigs.map Prod.fst))

theorem actuatorConfigForCanId_eq_none_iff (canId : ℤ) :
    c.actuatorConfigForCanId canId = none ↔ ¬ c.Configured canId := by
  simp only [ServiceConfig.actuatorConfigForCanId, List.find?_eq_none, decide_eq_true_eq,
    ServiceConfig.Configured, List.mem_map, not_exists, not_and]

/-- The controller states in which no motor may be enabled: unknown, one of the blocking states, or
damping after an operator E-stop. -/
def EnableForbidden (stateName reason : Option String) : Prop :=
  stateName = none ∨ (∃ name ∈ enableBlockStates, stateName = some name) ∨
    isOperatorEstopDamping py stateName reason = true

/-- What one call must keep: nothing is handed over while transmission is locked, and no frame that a
receiver takes for an actuator's enables a motor or sets its zero against the controller's state. -/
structure GateRespected (e : CallEntry) : Prop where
  locked : e.before.txEnabled = false → e.out.handed = none
  enter : ∀ f, e.out.handed = some f → f.data.head? = some 0xC1 → c.Configured (sffId f.canId) →
    ¬ EnableForbidden py (controllerSafetyState py c e.input.2) (controllerSafetyReason c e.input.2)
  zero : ∀ f, e.out.handed = some f → f.data.head? = some 0xC3 → c.Configured (sffId f.canId) →
    controllerSafetyState py c e.input.2 = some "NORMAL"

/-- An id the gates do not know that every receiver takes for an actuator's. -/
def AliasedId (canId : ℤ) : Prop := ¬ c.Configured canId ∧ c.Configured (sffId canId)

/-- A raw frame with an opcode one of the gates is about. -/
def GatedPayload (data : List UInt8) : Prop :=
  data.head? = some cmdMitEnter ∨ data.head? = some cmdMitSetZero

/-- A raw frame with a gated opcode and an aliased id. -/
def AliasedRaw (call : Call) : Prop :=
  ∃ canId data, call = .sendRaw canId data ∧ GatedPayload data ∧ AliasedId c canId

/-! ## What one call hands over -/

variable {py c}

/-- A frame of a known id that passed the enable gate enables no motor against the controller. -/
theorem enable_allowed {env : CallEnv} {canId : ℤ} {data : List UInt8}
    (hprovider : c.hasStateProvider = true) (hknown : c.Configured canId)
    (hopcode : data.head? = some cmdMitEnter)
    (hgate : rejectMotorEnableWhenBlocked py c env canId data = .ok ()) :
    ¬ EnableForbidden py (controllerSafetyState py c env) (controllerSafetyReason c env) := by
  have hfound : c.actuatorConfigForCanId canId ≠ none := fun hnone =>
    (actuatorConfigForCanId_eq_none_iff c canId).mp hnone hknown
  unfold rejectMotorEnableWhenBlocked at hgate
  rw [if_neg (not_not.mpr hopcode), if_neg hfound] at hgate
  simp only at hgate
  split_ifs at hgate with hnone hblocked hdamping
  rintro (hstate | ⟨name, hname, hstate⟩ | hestop)
  · exact hnone ⟨hprovider, hstate⟩
  · rw [hstate, Option.any_some, decide_eq_true_eq] at hblocked
    exact hblocked hname
  · exact hdamping hestop

/-- A frame of a known id that passed the zero gate passed it in NORMAL. -/
theorem zero_allowed {env : CallEnv} {canId : ℤ} {data : List UInt8}
    (hknown : c.Configured canId) (hopcode : data.head? = some cmdMitSetZero)
    (hgate : rejectMotorZeroWhenNotNormal py c env canId data = .ok ()) :
    controllerSafetyState py c env = some "NORMAL" := by
  have hfound : c.actuatorConfigForCanId canId ≠ none := fun hnone =>
    (actuatorConfigForCanId_eq_none_iff c canId).mp hnone hknown
  unfold rejectMotorZeroWhenNotNormal requireControllerState at hgate
  rw [if_neg (not_not.mpr hopcode), if_neg hfound] at hgate
  cases hstate : controllerSafetyState py c env with
  | none =>
      rw [hstate] at hgate
      cases hgate
  | some name =>
      rw [hstate] at hgate
      simp only at hgate
      split_ifs at hgate with hname
      rw [List.mem_singleton.mp hname]

/-- Both gates let a frame of an unknown id through. -/
theorem gates_of_not_configured (py : PyUnicode) (env : CallEnv) {canId : ℤ} (data : List UInt8)
    (hunknown : ¬ c.Configured canId) :
    rejectMotorEnableWhenBlocked py c env canId data = .ok () ∧
      rejectMotorZeroWhenNotNormal py c env canId data = .ok () := by
  have hnone := (actuatorConfigForCanId_eq_none_iff c canId).mpr hunknown
  constructor
  · unfold rejectMotorEnableWhenBlocked
    split_ifs <;> rfl
  · unfold rejectMotorZeroWhenNotNormal
    split_ifs <;> rfl

/-- `require_tx` returns only when transmission is unlocked. -/
theorem txEnabled_of_requireTx {s s' : CommandService} {env : CallEnv}
    (h : requireTx s env = (s', .ok ())) : s.txEnabled = true := by
  unfold requireTx at h
  split at h
  · cases h
  · rename_i hlocked
    simpa using hlocked

theorem handOver_handed (s : CommandService) (env : CallEnv) (frame : CANFrame) :
    (handOver s env frame).2.handed = some frame := by
  unfold handOver
  cases env.send <;> rfl

/-- What `send_raw` hands over is its own frame, past both gates and the lock. -/
theorem sendRaw_handed {s : CommandService} {env : CallEnv} {canId : ℤ} {data : List UInt8}
    {f : CANFrame} (h : (sendRaw py c s env canId data).2.handed = some f) :
    f = ⟨canId, data⟩ ∧ s.txEnabled = true ∧
      rejectMotorEnableWhenBlocked py c env canId data = .ok () ∧
      rejectMotorZeroWhenNotNormal py c env canId data = .ok () := by
  unfold sendRaw at h
  cases henable : rejectMotorEnableWhenBlocked py c env canId data with
  | error error =>
      rw [henable] at h
      cases h
  | ok =>
      rw [henable] at h
      cases hzero : rejectMotorZeroWhenNotNormal py c env canId data with
      | error error =>
          rw [hzero] at h
          cases h
      | ok =>
          rw [hzero] at h
          cases htx : requireTx s env with
          | mk s' result =>
              rw [htx] at h
              cases result with
              | error error => cases h
              | ok =>
                  simp only [handOver_handed, Option.some.injEq] at h
                  exact ⟨h.symm, txEnabled_of_requireTx htx, rfl, rfl⟩

/-- What a motor command hands over goes to a configured actuator, through `send_raw`. -/
theorem sendMotorCommand_handed {s : CommandService} {env : CallEnv} {canId : ℤ} {opcode : UInt8}
    {suffix : List UInt8} {f : CANFrame}
    (h : (sendMotorCommand py c s env canId opcode suffix).2.handed = some f) :
    c.Configured canId ∧ ∃ data, (sendRaw py c s env canId data).2.handed = some f := by
  unfold sendMotorCommand at h
  split_ifs at h with hallow hunknown hlong
  · cases h
  · cases h
  · cases h
  · refine ⟨?_, _, h⟩
    by_contra hnot
    exact hunknown ((actuatorConfigForCanId_eq_none_iff c canId).mpr hnot)

variable [Field K] [LinearOrder K] [FloorRing K]

/-- What a call hands over passed the lock and both gates, and is a raw frame, a frame for a
configured actuator, or a control frame. -/
theorem callStep_handed {s : CommandService} {call : Call × CallEnv} {f : CANFrame}
    (h : (callStep py c s call).2.handed = some f) :
    (s.txEnabled = true ∧ rejectMotorEnableWhenBlocked py c call.2 f.canId f.data = .ok () ∧
      rejectMotorZeroWhenNotNormal py c call.2 f.canId f.data = .ok ()) ∧
    (call.1 = .sendRaw f.canId f.data ∨ c.Configured f.canId ∨ f.data.head? = some 0xC0) := by
  have hraw : ∀ {canId data}, (sendRaw py c s call.2 canId data).2.handed = some f →
      (s.txEnabled = true ∧ rejectMotorEnableWhenBlocked py c call.2 f.canId f.data = .ok () ∧
        rejectMotorZeroWhenNotNormal py c call.2 f.canId f.data = .ok ()) ∧
      f.canId = canId ∧ f.data = data := by
    intro canId data hhanded
    obtain ⟨rfl, hgates⟩ := sendRaw_handed hhanded
    exact ⟨hgates, rfl, rfl⟩
  have hmotor : ∀ {canId opcode suffix},
      (sendMotorCommand py c s call.2 canId opcode suffix).2.handed = some f →
      (s.txEnabled = true ∧ rejectMotorEnableWhenBlocked py c call.2 f.canId f.data = .ok () ∧
        rejectMotorZeroWhenNotNormal py c call.2 f.canId f.data = .ok ()) ∧
      c.Configured f.canId := by
    intro canId opcode suffix hhanded
    obtain ⟨hknown, data, hsent⟩ := sendMotorCommand_handed hhanded
    obtain ⟨hgates, hid, -⟩ := hraw hsent
    exact ⟨hgates, hid ▸ hknown⟩
  obtain ⟨request, env⟩ := call
  cases request with
  | sendRaw canId data =>
      obtain ⟨hgates, rfl, rfl⟩ := hraw h
      exact ⟨hgates, Or.inl rfl⟩
  | motorEnter canId => exact (hmotor h).imp_right fun hknown => Or.inr (Or.inl hknown)
  | motorExit canId => exact (hmotor h).imp_right fun hknown => Or.inr (Or.inl hknown)
  | motorZero canId offsetCount =>
      simp only [callStep, motorZero] at h
      split_ifs at h
      · exact (hmotor h).imp_right fun hknown => Or.inr (Or.inl hknown)
      · cases h
  | motorMitHold canId =>
      simp only [callStep, motorMitHold] at h
      split_ifs at h
      · cases h
      · split at h
        · cases h
        · rename_i payload hpayload
          obtain ⟨hgates, -, hdata⟩ := hraw h
          exact ⟨hgates, Or.inr (Or.inr (hdata ▸ head_packMitPayload hpayload))⟩
  | lockTx => cases h
  | unlockTx => cases h

/-! ## Call sequences -/

/-- One call that is not an aliased raw frame respects the gates. -/
theorem gateRespected_entry (hprovider : c.hasStateProvider = true) (s : CommandService)
    {call : Call × CallEnv} (hcall : ¬ AliasedRaw c call.1) :
    GateRespected py c (entry (callStep py c) s call) := by
  -- the opcode is gated, so the frame is no control frame, and its id is known as it stands
  have hknown : ∀ f, (callStep py c s call).2.handed = some f → GatedPayload f.data →
      c.Configured (sffId f.canId) → c.Configured f.canId := by
    intro f hf hgated hseen
    rcases (callStep_handed hf).2 with hraw | hconfigured | hcontrol
    · by_contra hunknown
      exact hcall ⟨f.canId, f.data, hraw, hgated, hunknown, hseen⟩
    · exact hconfigured
    · rcases hgated with hopcode | hopcode <;> rw [hcontrol] at hopcode <;>
        exact absurd hopcode (by decide)
  refine ⟨fun hlocked => ?_, fun f hf hopcode hseen => ?_, fun f hf hopcode hseen => ?_⟩
  · rw [entry_out, Option.eq_none_iff_forall_ne_some]
    intro f hf
    have htx := (callStep_handed hf).1.1
    rw [entry_before, htx] at hlocked
    cases hlocked
  · exact enable_allowed hprovider (hknown f hf (Or.inl hopcode) hseen) hopcode
      (callStep_handed hf).1.2.1
  · exact zero_allowed (hknown f hf (Or.inr hopcode) hseen) hopcode (callStep_handed hf).1.2.2

/-- An aliased raw frame is handed over as soon as transmission is unlocked and the daemon answers,
whatever the controller's state. -/
theorem aliased_handed {s : CommandService} {env : CallEnv} {canId : ℤ} {data : List UInt8}
    (hunknown : ¬ c.Configured canId) (htx : s.txEnabled = true) (hconnect : env.connect = .ok) :
    (callStep py c s (.sendRaw canId data, env)).2.handed = some ⟨canId, data⟩ := by
  obtain ⟨henable, hzero⟩ := gates_of_not_configured py env data hunknown
  have hready : ∃ s', requireTx s env = (s', .ok ()) := by
    unfold requireTx
    rw [htx, hconnect]
    cases s.connected with
    | true => exact ⟨s, rfl⟩
    | false => exact ⟨_, rfl⟩
  obtain ⟨s', hs'⟩ := hready
  simp only [callStep, sendRaw, henable, hzero, hs', handOver_handed]

/-- **The raw gate over call sequences.** With a state provider: in every sequence of calls without an
aliased raw frame, every call respects the gates; and every aliased raw frame breaks them, in the
sequence that unlocks transmission and sends it while the controller's state is unavailable. -/
theorem raw_gate_runs (hprovider : c.hasStateProvider = true) :
    (∀ (s : CommandService) (calls : List (Call × CallEnv)),
      (∀ call ∈ calls, ¬ AliasedRaw c call.1) →
      ∀ e ∈ serviceRun py c s calls, GateRespected py c e) ∧
    ∀ (request : Call), AliasedRaw c request → ∀ (s : CommandService) (env : CallEnv),
      env.safetyState = none → env.connect = .ok →
      ∃ e ∈ serviceRun py c s [(.unlockTx, env), (request, env)], ¬ GateRespected py c e := by
  constructor
  · intro s calls hcalls e he
    rw [eq_entry_of_mem _ he]
    exact gateRespected_entry hprovider e.before (hcalls e.input (input_mem_of_mem _ he))
  · rintro request ⟨canId, data, rfl, hgated, hunknown, hseen⟩ s env hstate hconnect
    refine ⟨_, List.mem_cons_of_mem _ List.mem_cons_self, fun hrespected => ?_⟩
    have hhanded := @aliased_handed K py c _ _ _ { s with txEnabled := true } env canId data hunknown
      rfl hconnect
    have hunavailable : controllerSafetyState py c env = none := by
      rw [controllerSafetyState, if_pos hprovider, hstate]
      rfl
    rcases hgated with hopcode | hopcode
    · exact hrespected.enter _ hhanded hopcode hseen (Or.inl hunavailable)
    · have hnormal := hrespected.zero _ hhanded hopcode hseen
      rw [entry_input, hunavailable] at hnormal
      cases hnormal

end Gates

/-! ## Two sequences -/

/-- A dashboard with two actuators that may command them and sees the controller. -/
def twoActuatorDashboard : ServiceConfig ℚ where
  actuatorConfigs := [(0x101, "hip"), (0x102, "knee")]
  allowActuatorCommands := true
  mitPMaxRad := 25 / 2
  mitVMaxRadS := 45
  mitKpMax := 500
  mitKdMax := 5
  mitTauMaxNm := 33
  hasStateProvider := true
  hasReasonProvider := true

/-- A call during which the controller reports a state and the daemon answers. -/
def reporting (state : String) : CallEnv := ⟨some state, none, .ok, .ok⟩

/-- The service as the application builds it: locked, not connected. -/
def lockedService : CommandService := ⟨false, false, none⟩

/-- Unlock, then a raw motor enable to the given id while the controller reports the given state. -/
def rawEnableRun (canId : ℤ) (state : String) : List CallEntry :=
  serviceRun .ascii twoActuatorDashboard lockedService
    [(.unlockTx, reporting state), (.sendRaw canId [0xC1, 0, 0, 0, 0, 0, 0, 0], reporting state)]

/-- The id 0x901 is no actuator's, and its low eleven bits are the hip's: during an E-stop the raw
enable goes out. -/
theorem aliased_enable_in_estop :
    ¬ ∀ e ∈ rawEnableRun 0x901 "estop", GateRespected .ascii twoActuatorDashboard e := by
  intro h
  have hrespected := h _ (List.mem_cons_of_mem _ List.mem_cons_self)
  refine hrespected.enter ⟨0x901, [0xC1, 0, 0, 0, 0, 0, 0, 0]⟩ (by decide +kernel) rfl
    (by decide +kernel) (Or.inr (Or.inl ⟨"ESTOP", by decide, by decide +kernel⟩))

/-- Under its own id the hip is enabled in NORMAL, and that sequence respects the gates. -/
theorem raw_gate_runs_normal :
    (rawEnableRun 0x101 "normal").filterMap (·.out.handed) =
      [⟨0x101, [0xC1, 0, 0, 0, 0, 0, 0, 0]⟩] ∧
    ∀ e ∈ rawEnableRun 0x101 "normal", GateRespected .ascii twoActuatorDashboard e := by
  refine ⟨by decide +kernel, (raw_gate_runs rfl).1 lockedService _ ?_⟩
  rintro call hcall ⟨canId, data, hrequest, -, hunknown, -⟩
  rcases List.mem_cons.mp hcall with rfl | hcall
  · cases hrequest
  · obtain rfl := List.mem_singleton.mp hcall
    cases hrequest
    exact hunknown (by decide +kernel)

end SparqControl.Dashboard
