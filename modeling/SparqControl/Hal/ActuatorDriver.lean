/-
# SparqControl.Hal.ActuatorDriver — the product-independent actuator driver.

`ActuatorDriver` keeps the latest value of every feedback field and the freshness bookkeeping of
`BestEffortCommManager`. It knows a protocol only through its `decode_frame`, so the decoder is a
parameter here: `none` for a frame that is not feedback, an exception for a malformed one, and
otherwise a state in which the fields the frame does not carry are `none`.
-/
import SparqControl.Hal.CanFrame

namespace SparqControl.Hal

/-- `ActuatorState`, generic in the number type and in the protocol's mode labels. -/
structure ActuatorState (K μ : Type*) where
  positionRad : Option K := none
  velocityRadS : Option K := none
  torqueNm : Option K := none
  currentA : Option K := none
  temperatureC : Option K := none
  voltageV : Option K := none
  faultCode : Option ℤ := none
  isEnabled : Option Bool := none
  mode : Option μ := none
  lastFeedbackT : K

/-- `FreshnessStatus`. -/
structure FreshnessStatus (K : Type*) where
  isOnline : Bool := false
  isStale : Bool := true
  rxCount : ℕ := 0
  timeoutCount : ℕ := 0
  decodeErrorCount : ℕ := 0
  lastRxT : K
  lastFaultT : K

section Freshness

variable {K : Type*}

/-- `BestEffortCommManager.mark_rx`. -/
def FreshnessStatus.markRx (s : FreshnessStatus K) (rxTime : K) : FreshnessStatus K :=
  { s with rxCount := s.rxCount + 1, lastRxT := rxTime, isStale := false, isOnline := true }

/-- `BestEffortCommManager.mark_decode_error`. -/
def FreshnessStatus.markDecodeError (s : FreshnessStatus K) (now : K) : FreshnessStatus K :=
  { s with decodeErrorCount := s.decodeErrorCount + 1, lastFaultT := now }

variable [Field K] [LinearOrder K]

/-- `BestEffortCommManager.update_fault_flags`: stale without a reception, or when the last one is older
than the timeout. Only the change from fresh to stale is counted. -/
def FreshnessStatus.updateFaultFlags (s : FreshnessStatus K) (timeout now : K) : FreshnessStatus K :=
  let stale := decide (s.lastRxT ≤ 0) || decide (timeout < now - s.lastRxT)
  let s' := { s with isStale := stale, isOnline := !stale }
  if stale && !s.isStale then { s' with timeoutCount := s.timeoutCount + 1, lastFaultT := now } else s'

end Freshness

/-- The mutable part of `ActuatorDriver`. -/
structure ActuatorDriver (K μ : Type*) where
  state : ActuatorState K μ
  comm : FreshnessStatus K

namespace ActuatorDriver

variable {K μ : Type*} [Field K] [LinearOrder K]

/-- A freshly constructed driver: nothing known, nothing received. -/
def init : ActuatorDriver K μ where
  state := { lastFeedbackT := 0 }
  comm := { lastRxT := 0, lastFaultT := 0 }

/-- `_merge_state`: every field the new state carries replaces the old one. -/
def mergeState (d : ActuatorDriver K μ) (s : ActuatorState K μ) (now : K) :
    ActuatorDriver K μ where
  state :=
    { positionRad := s.positionRad <|> d.state.positionRad
      velocityRadS := s.velocityRadS <|> d.state.velocityRadS
      torqueNm := s.torqueNm <|> d.state.torqueNm
      currentA := s.currentA <|> d.state.currentA
      temperatureC := s.temperatureC <|> d.state.temperatureC
      voltageV := s.voltageV <|> d.state.voltageV
      faultCode := s.faultCode <|> d.state.faultCode
      isEnabled := s.isEnabled <|> d.state.isEnabled
      mode := s.mode <|> d.state.mode
      lastFeedbackT := if 0 < s.lastFeedbackT then s.lastFeedbackT else d.state.lastFeedbackT }
  comm := d.comm.markRx (if 0 < s.lastFeedbackT then s.lastFeedbackT else now)

/-- `on_frame`: a decoder exception is counted and swallowed, a foreign frame is ignored, a feedback
frame is merged. -/
def onFrame (decode : CANFrame → K → Except PyError (Option (ActuatorState K μ)))
    (d : ActuatorDriver K μ) (frame : CANFrame) (now : K) : ActuatorDriver K μ :=
  match decode frame now with
  | .error _ => { d with comm := d.comm.markDecodeError now }
  | .ok none => d
  | .ok (some s) => d.mergeState s now

/-- What one received frame does to `is_enabled`: the decoded value if there is one, else nothing. -/
theorem onFrame_isEnabled (decode : CANFrame → K → Except PyError (Option (ActuatorState K μ)))
    (d : ActuatorDriver K μ) (frame : CANFrame) (now : K) :
    (d.onFrame decode frame now).state.isEnabled =
      match decode frame now with
      | .ok (some s) => s.isEnabled <|> d.state.isEnabled
      | _ => d.state.isEnabled := by
  unfold onFrame
  cases decode frame now with
  | error e => rfl
  | ok r => cases r <;> rfl

end ActuatorDriver

end SparqControl.Hal
