/-
# SparqControl.Hw.ActuatorFeedback — what an SPG driver knows after any frames.

Nine kinds of frames carry different parts of an actuator's state, and `ActuatorDriver` merges each
part on its own. Read from the end, the merge is a FOLD OF THE LATEST VALUES: whatever frames came in,
in whatever order, a field is what the latest frame that decodes and carries it said.

`on_frame` is also given with its exceptions (`onFrameExcept`): the decoder's are caught at the call,
and nothing behind it raises, so a run of frames always comes to its end (`runFrames_eq_ok`).
-/
import SparqControl.Hw.DongilcProtocol
import SparqControl.Lib.Trace

namespace SparqControl.Hw

open SparqControl.Hal
open SparqControl.Lib.Trace

variable {K : Type} [Field K] [LinearOrder K]

/-! ## The driver with its exceptions -/

section Driver

variable {μ : Type}

/-- `on_frame`, exceptions included. Only the decoder stands inside the `try`. -/
def onFrameExcept (decode : CANFrame → K → Except PyError (Option (ActuatorState K μ)))
    (d : ActuatorDriver K μ) (frame : CANFrame) (now : K) : Except PyError (ActuatorDriver K μ) := do
  let decoded ← tryCatch (some <$> decode frame now) fun _ => pure none
  match decoded with
  | none => return { d with comm := d.comm.markDecodeError now }
  | some none => return d
  | some (some s) => return d.mergeState s now

theorem onFrameExcept_eq_ok (decode : CANFrame → K → Except PyError (Option (ActuatorState K μ)))
    (d : ActuatorDriver K μ) (frame : CANFrame) (now : K) :
    onFrameExcept decode d frame now = .ok (d.onFrame decode frame now) := by
  unfold onFrameExcept ActuatorDriver.onFrame
  cases decode frame now with
  | error e => rfl
  | ok r => cases r <;> rfl

end Driver

namespace SPGActuatorProtocol

variable (p : SPGActuatorProtocol K)

/-- A freshly constructed driver fed with frames, each at its time. -/
def runFrames (frames : List (CANFrame × K)) : Except PyError (ActuatorDriver K AckMode) :=
  frames.foldlM (fun d x => onFrameExcept p.decodeFrame d x.1 x.2) .init

/-- The driver step of one received frame. -/
def frameStep (d : ActuatorDriver K AckMode) (x : CANFrame × K) : ActuatorDriver K AckMode × Unit :=
  (d.onFrame p.decodeFrame x.1 x.2, ())

/-- The state a frame decodes to, if it decodes to one. -/
def decoded (x : CANFrame × K) : Option (ActuatorState K AckMode) :=
  match p.decodeFrame x.1 x.2 with
  | .ok (some s) => some s
  | _ => none

/-- The value of a field a frame carries. -/
def carried {α : Type} (field : ActuatorState K AckMode → Option α) (x : CANFrame × K) : Option α :=
  (p.decoded x).bind field

/-- The opcodes the decoder knows. -/
def knownOpcodes : List UInt8 :=
  [cmdMitControl, cmdReadEncoderData, cmdReadMitParams, cmdMitEnter, cmdMitExit,
    cmdWriteCurrentPosAsZero, cmdWriteEncoderOffset, cmdMitSetZero, cmdClearErrorFlag]

/-! ## One frame -/

/-- What the decoder makes of a frame: nothing of a foreign one, an exception of a wrong length,
nothing of an unknown opcode, and otherwise a state stamped with the time. -/
theorem decodeFrame_cases (frame : CANFrame) (now : K) :
    (frame.canId ≠ p.feedbackId ∧ p.decodeFrame frame now = .ok none) ∨
    (frame.canId = p.feedbackId ∧ frame.data.length ≠ 8 ∧
      ∃ e, p.decodeFrame frame now = .error e) ∨
    (frame.canId = p.feedbackId ∧ frame.data.length = 8 ∧ frame.data.getD 0 0 ∉ knownOpcodes ∧
      p.decodeFrame frame now = .ok none) ∨
    (frame.canId = p.feedbackId ∧ frame.data.length = 8 ∧ frame.data.getD 0 0 ∈ knownOpcodes ∧
      ∃ s, p.decodeFrame frame now = .ok (some s) ∧ s.lastFeedbackT = now) := by
  unfold decodeFrame
  by_cases hid : frame.canId = p.feedbackId
  · by_cases hlen : frame.data.length = 8
    · rw [if_neg (not_not.mpr hid), if_neg (not_not.mpr hlen)]
      simp only [knownOpcodes, List.mem_cons, List.not_mem_nil, or_false]
      generalize frame.data.getD 0 0 = cmd
      by_cases hmit : cmd = cmdMitControl
      · exact Or.inr (Or.inr (Or.inr ⟨hid, hlen, Or.inl hmit, _, if_pos hmit, rfl⟩))
      by_cases henc : cmd = cmdReadEncoderData
      · rw [if_neg hmit, if_pos henc]
        exact Or.inr (Or.inr (Or.inr ⟨hid, hlen, Or.inr (Or.inl henc), _, rfl, rfl⟩))
      by_cases hpar : cmd = cmdReadMitParams
      · rw [if_neg hmit, if_neg henc, if_pos hpar]
        exact Or.inr (Or.inr (Or.inr ⟨hid, hlen, Or.inr (Or.inr (Or.inl hpar)), _, rfl, rfl⟩))
      -- the six acknowledgements are decoded alike
      have hack : isAckLike cmd = true ↔ cmd = cmdMitEnter ∨ cmd = cmdMitExit ∨
          cmd = cmdWriteCurrentPosAsZero ∨ cmd = cmdWriteEncoderOffset ∨ cmd = cmdMitSetZero ∨
          cmd = cmdClearErrorFlag := by
        simp only [isAckLike, Bool.or_eq_true, beq_iff_eq, or_assoc]
      rw [if_neg hmit, if_neg henc, if_neg hpar, ← hack]
      by_cases hlike : isAckLike cmd = true
      · rw [if_pos hlike]
        exact Or.inr (Or.inr (Or.inr ⟨hid, hlen, Or.inr (Or.inr (Or.inr hlike)), _, rfl, rfl⟩))
      · rw [if_neg hlike]
        refine Or.inr (Or.inr (Or.inl ⟨hid, hlen, ?_, rfl⟩))
        rintro (h | h | h | h)
        · exact hmit h
        · exact henc h
        · exact hpar h
        · exact hlike h
    · rw [if_neg (not_not.mpr hid), if_pos hlen]
      exact Or.inr (Or.inl ⟨hid, hlen, _, rfl⟩)
  · exact Or.inl ⟨hid, if_pos hid⟩

/-- A decoded state carries the time it was received at. -/
theorem lastFeedbackT_of_decoded {x : CANFrame × K} {s : ActuatorState K AckMode}
    (hs : p.decoded x = some s) : s.lastFeedbackT = x.2 := by
  unfold decoded at hs
  rcases p.decodeFrame_cases x.1 x.2 with ⟨-, h⟩ | ⟨-, -, e, h⟩ | ⟨-, -, -, h⟩ | ⟨-, -, -, s', h, htime⟩
  · rw [h] at hs
    cases hs
  · rw [h] at hs
    cases hs
  · rw [h] at hs
    cases hs
  · rw [h] at hs
    obtain rfl := Option.some.inj hs
    exact htime

/-- What one frame does to the driver: it merges the decoded state, or it leaves the state and the
receptions alone. -/
theorem onFrame_cases (d : ActuatorDriver K AckMode) (x : CANFrame × K) :
    (p.decoded x = none ∧ (d.onFrame p.decodeFrame x.1 x.2).state = d.state ∧
      (d.onFrame p.decodeFrame x.1 x.2).comm.rxCount = d.comm.rxCount ∧
      (d.onFrame p.decodeFrame x.1 x.2).comm.lastRxT = d.comm.lastRxT) ∨
    ∃ s, p.decoded x = some s ∧ d.onFrame p.decodeFrame x.1 x.2 = d.mergeState s x.2 := by
  unfold decoded ActuatorDriver.onFrame
  cases p.decodeFrame x.1 x.2 with
  | error e => exact Or.inl ⟨rfl, rfl, rfl, rfl⟩
  | ok r =>
      cases r with
      | none => exact Or.inl ⟨rfl, rfl, rfl, rfl⟩
      | some s => exact Or.inr ⟨s, rfl, rfl⟩

/-- A frame of the wrong length on the driver's id is counted as a decode error, and nothing else
happens. -/
theorem onFrameExcept_malformed (d : ActuatorDriver K AckMode) {frame : CANFrame} (now : K)
    (hid : frame.canId = p.feedbackId) (hlen : frame.data.length ≠ 8) :
    onFrameExcept p.decodeFrame d frame now =
      .ok { d with comm := { d.comm with
        decodeErrorCount := d.comm.decodeErrorCount + 1, lastFaultT := now } } := by
  rw [onFrameExcept_eq_ok, ActuatorDriver.onFrame, decodeFrame, if_neg (not_not.mpr hid), if_pos hlen]
  rfl

/-- A frame on another id, or with an opcode the decoder does not know, changes nothing. -/
theorem onFrameExcept_ignored (d : ActuatorDriver K AckMode) {frame : CANFrame} (now : K)
    (h : frame.canId ≠ p.feedbackId ∨
      (frame.data.length = 8 ∧ frame.data.getD 0 0 ∉ knownOpcodes)) :
    onFrameExcept p.decodeFrame d frame now = .ok d := by
  have hnone : p.decodeFrame frame now = .ok none := by
    rcases p.decodeFrame_cases frame now with
      ⟨-, hd⟩ | ⟨hid, hlen, -⟩ | ⟨-, -, -, hd⟩ | ⟨hid, hlen, hop, -⟩
    · exact hd
    · rcases h with h | h
      · exact absurd hid h
      · exact absurd h.1 hlen
    · exact hd
    · rcases h with h | h
      · exact absurd hid h
      · exact absurd hop h.2
  rw [onFrameExcept_eq_ok, ActuatorDriver.onFrame, hnone]

/-! ## Any frames -/

theorem runFrames_eq_ok (frames : List (CANFrame × K)) :
    p.runFrames frames = .ok (final p.frameStep .init frames) := by
  have hfold : ∀ d : ActuatorDriver K AckMode,
      frames.foldlM (fun d x => onFrameExcept p.decodeFrame d x.1 x.2) d =
        .ok (final p.frameStep d frames) := by
    induction frames with
    | nil => intro d; rfl
    | cons x frames ih =>
        intro d
        rw [List.foldlM_cons, onFrameExcept_eq_ok]
        exact ih _
  exact hfold .init

/-- A field that a fresh driver does not have and a merge takes from the new state, if it is there, is
after any frames what the latest frame that carries it said. -/
theorem field_latest {α : Type} {field : ActuatorState K AckMode → Option α}
    (hinit : field (ActuatorDriver.init (K := K)).state = none)
    (hfield : ∀ (d : ActuatorDriver K AckMode) s now,
      field (d.mergeState s now).state = (field s <|> field d.state))
    (frames : List (CANFrame × K)) :
    field (final p.frameStep .init frames).state = latest (p.carried field) frames := by
  have hstep : ∀ d x, field (p.frameStep d x).1.state = (p.carried field x <|> field d.state) := by
    intro d x
    simp only [frameStep, carried]
    rcases p.onFrame_cases d x with ⟨hnone, hstate, -⟩ | ⟨s, hs, hmerge⟩
    · rw [hnone, hstate]
      rfl
    · rw [hs, hmerge, hfield]
      rfl
  rw [final_latest_or (f := fun d : ActuatorDriver K AckMode => field d.state) hstep, hinit]
  cases latest (p.carried field) frames <;> rfl

/-- The time of a frame that decodes to a state. -/
def feedbackT (x : CANFrame × K) : Option K := (p.decoded x).map fun _ => x.2

/-- A time that a fresh driver has at zero, a merge sets to the time of its frame and no other frame
moves is the time of the latest frame that decodes to a state. -/
theorem time_latest (time : ActuatorDriver K AckMode → K) (hinit : time .init = 0)
    (hmerge : ∀ (d : ActuatorDriver K AckMode) (s : ActuatorState K AckMode) (now : K), 0 < now →
      s.lastFeedbackT = now → time (d.mergeState s now) = now)
    (hkeep : ∀ d d' : ActuatorDriver K AckMode, d'.state = d.state →
      d'.comm.lastRxT = d.comm.lastRxT → time d' = time d)
    {frames : List (CANFrame × K)} (htimes : ∀ x ∈ frames, 0 < x.2) :
    time (final p.frameStep .init frames) = (latest p.feedbackT frames).getD 0 := by
  rw [← hinit]
  refine final_latest (P := fun _ => True) (C := fun x : CANFrame × K => 0 < x.2)
    (fun _ _ _ _ => trivial) ?_ trivial frames htimes
  intro d x _ hx
  simp only [frameStep, feedbackT]
  rcases p.onFrame_cases d x with ⟨hnone, hstate, -, hrx⟩ | ⟨s, hs, hstep⟩
  · rw [hnone]
    exact hkeep _ _ hstate hrx
  · rw [hs, hstep]
    exact hmerge d s x.2 hx (p.lastFeedbackT_of_decoded hs)

/-- The receptions are the frames that decode to a state. -/
theorem rxCount_eq (frames : List (CANFrame × K)) :
    (final p.frameStep .init frames).comm.rxCount =
      frames.countP fun x => (p.decoded x).isSome := by
  have hstep : ∀ d x, (p.frameStep d x).1.comm.rxCount =
      d.comm.rxCount + if (p.decoded x).isSome then 1 else 0 := by
    intro d x
    simp only [frameStep]
    rcases p.onFrame_cases d x with ⟨hnone, -, hrx, -⟩ | ⟨s, hs, hmerge⟩
    · rw [hnone, hrx]
      rfl
    · rw [hs, hmerge]
      rfl
  rw [final_count (f := fun d : ActuatorDriver K AckMode => d.comm.rxCount) hstep]
  exact Nat.zero_add _

/-- What a driver that received `frames` knows: the latest value of every field, and when and how often
it received anything. -/
structure LatestValues (frames : List (CANFrame × K)) (d : ActuatorDriver K AckMode) : Prop where
  position : d.state.positionRad = latest (p.carried (·.positionRad)) frames
  velocity : d.state.velocityRadS = latest (p.carried (·.velocityRadS)) frames
  torque : d.state.torqueNm = latest (p.carried (·.torqueNm)) frames
  current : d.state.currentA = latest (p.carried (·.currentA)) frames
  temperature : d.state.temperatureC = latest (p.carried (·.temperatureC)) frames
  faultCode : d.state.faultCode = latest (p.carried (·.faultCode)) frames
  isEnabled : d.state.isEnabled = latest (p.carried (·.isEnabled)) frames
  mode : d.state.mode = latest (p.carried (·.mode)) frames
  lastFeedbackT : d.state.lastFeedbackT = (latest p.feedbackT frames).getD 0
  lastRxT : d.comm.lastRxT = (latest p.feedbackT frames).getD 0
  rxCount : d.comm.rxCount = frames.countP fun x => (p.decoded x).isSome

/-- **The driver state is a fold of the latest values.** For every sequence of frames at positive times
no call raises, every field is what the latest frame that carries it said, and the receptions are
those of the frames that decode to a state. From the state reached, a frame of the wrong length
changes the decode errors and the fault time only, a foreign frame or an unknown opcode nothing. -/
theorem driver_latest_values (frames : List (CANFrame × K)) (htimes : ∀ x ∈ frames, 0 < x.2) :
    ∃ d, p.runFrames frames = .ok d ∧ p.LatestValues frames d ∧
      ∀ (frame : CANFrame) (now : K),
        (frame.canId = p.feedbackId → frame.data.length ≠ 8 →
          onFrameExcept p.decodeFrame d frame now =
            .ok { d with comm := { d.comm with
              decodeErrorCount := d.comm.decodeErrorCount + 1, lastFaultT := now } }) ∧
        (frame.canId ≠ p.feedbackId ∨
            (frame.data.length = 8 ∧ frame.data.getD 0 0 ∉ knownOpcodes) →
          onFrameExcept p.decodeFrame d frame now = .ok d) := by
  refine ⟨_, p.runFrames_eq_ok frames, ?_, fun frame now =>
    ⟨p.onFrameExcept_malformed _ now, p.onFrameExcept_ignored _ now⟩⟩
  exact
    { position := p.field_latest rfl (fun _ _ _ => rfl) frames
      velocity := p.field_latest rfl (fun _ _ _ => rfl) frames
      torque := p.field_latest rfl (fun _ _ _ => rfl) frames
      current := p.field_latest rfl (fun _ _ _ => rfl) frames
      temperature := p.field_latest rfl (fun _ _ _ => rfl) frames
      faultCode := p.field_latest rfl (fun _ _ _ => rfl) frames
      isEnabled := p.field_latest rfl (fun _ _ _ => rfl) frames
      mode := p.field_latest rfl (fun _ _ _ => rfl) frames
      lastFeedbackT := by
        refine p.time_latest (fun d => d.state.lastFeedbackT) rfl ?_ ?_ htimes
        · intro d s now hnow hs
          show (if 0 < s.lastFeedbackT then s.lastFeedbackT else _) = now
          rw [hs, if_pos hnow]
        · intro d d' hstate _
          rw [hstate]
      lastRxT := by
        refine p.time_latest (fun d => d.comm.lastRxT) rfl ?_ ?_ htimes
        · intro d s now hnow hs
          show (if 0 < s.lastFeedbackT then s.lastFeedbackT else now) = now
          rw [hs, if_pos hnow]
        · intro d d' _ hrx
          exact hrx
      rxCount := p.rxCount_eq frames }

/-- An actuator with id 1 and a gear of nine to one. -/
def hipProtocol : SPGActuatorProtocol ℚ where
  commandId := 1
  feedbackId := 1
  mitConfig := {}
  gearRatio := 9
  feedbackSpeedIsMotorSide := false
  exposeSingleTurnPosition := true
  iqCountToAmp := none
  torqueConstantNmPerA := none
  gearEfficiency := 1
  gearRatio_pos := by norm_num

/-- An enable acknowledgement, a frame that is too short and a foreign frame: the driver is enabled and
has one reception. -/
theorem driver_latest_values_enabled :
    ∃ d, hipProtocol.runFrames
        [(⟨1, [0xC1, 0, 0, 0, 0, 0, 0, 0]⟩, 1), (⟨1, [0xC2]⟩, 2), (⟨7, []⟩, 3)] = .ok d ∧
      d.state.isEnabled = some true ∧ d.comm.lastRxT = 1 ∧ d.comm.rxCount = 1 := by
  obtain ⟨d, hrun, hvalues, -⟩ := driver_latest_values hipProtocol
    [(⟨1, [0xC1, 0, 0, 0, 0, 0, 0, 0]⟩, 1), (⟨1, [0xC2]⟩, 2), (⟨7, []⟩, 3)]
    (by simp)
  exact ⟨d, hrun, hvalues.isEnabled.trans (by decide), hvalues.lastRxT.trans (by decide),
    hvalues.rxCount.trans (by decide)⟩

end SPGActuatorProtocol

end SparqControl.Hw
