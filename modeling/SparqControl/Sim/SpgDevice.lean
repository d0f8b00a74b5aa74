/-
# SparqControl.Sim.SpgDevice — one simulated motor over whole runs.

A virtual actuator is a firmware object and the command the bridge latched from it. It takes frames,
of any id, length and content, and makes feedback for samples; nothing else changes it. `frameEffect`
says once what a frame can do, and `InStep`, the invariant of every run (`inStep_run`), is read off it:

* the latched command and the firmware agree on the enable flag (`enabled`);
* the set-zero hold ends where the latest set-zero frame, or the reset, put its end (`hold`);
* a latched command that can produce torque was preceded by an ENTER and, after it, by a control frame
  outside the hold, with no EXIT or CLEAR_ERROR since the ENTER (`torque`).
-/
import SparqControl.Lib.Slots
import SparqControl.Lib.Trace
import SparqControl.Sim.SpgFirmware

namespace SparqControl.Sim

open SparqControl.Hal
open SparqControl.Lib.Slots
open SparqControl.Lib.Trace

/-! ## Kinds of frames -/

/-- A frame of the given id and opcode that is long enough for its handler. -/
def isCommand (canId : UInt32) (required code : UInt8) (frame : CanFrame) : Bool :=
  frame.canId == canId && hasDlcAtLeast frame required && opcode frame == code

/-- An eight-byte MIT control frame. -/
def isControl (canId : UInt32) (frame : CanFrame) : Bool :=
  isCommand canId 8 SPGFirmware.kCmdMITControl frame

/-- An ENTER frame. -/
def isEnter (canId : UInt32) (frame : CanFrame) : Bool :=
  isCommand canId 1 SPGFirmware.kCmdMITEnter frame

/-- An eight-byte set-zero frame. -/
def isSetZero (canId : UInt32) (frame : CanFrame) : Bool :=
  isCommand canId 8 SPGFirmware.kCmdMITSetZero frame

/-- An EXIT or CLEAR_ERROR frame. -/
def isDisarm (canId : UInt32) (frame : CanFrame) : Bool :=
  isCommand canId 1 SPGFirmware.kCmdMITExit frame ||
    isCommand canId 1 SPGFirmware.kCmdClearError frame

section Effect

variable {K : Type} [Field K] [LinearOrder K]

/-- The firmware takes a control frame: it is one, the hold is over, the motor is entered and has no
fault. -/
def controlAccepted (fw : SPGFirmware K) (frame : CanFrame) (simTime : K) : Bool :=
  isControl fw.canId frame && !fw.inSetZeroHold simTime && fw.enabled && !fw.fault

/-- What a frame does to the firmware, one case for each kind of frame. -/
inductive FrameEffect (fw : SPGFirmware K) (frame : CanFrame) (simTime : K) :
    SPGFirmware K → Prop
  | control (h : controlAccepted fw frame simTime = true) :
      FrameEffect fw frame simTime
        { fw with
          pendingCommand :=
            { mode := .impedance
              positionRad := fw.positionMitToPhysicalRad
                (SPGFirmware.decodeMitControlFrame fw.config frame).pDesRad
              velocityRadS := (SPGFirmware.decodeMitControlFrame fw.config frame).vDesRadS
              torqueNm := (SPGFirmware.decodeMitControlFrame fw.config frame).tauFfNm
              kp := (SPGFirmware.decodeMitControlFrame fw.config frame).kp
              kd := (SPGFirmware.decodeMitControlFrame fw.config frame).kd
              lastUpdateTime := simTime
              valid := true
              enabled := true }
          hasPendingCommand := true
          mitStatusResponsePending := true }
  | enter (h : isEnter fw.canId frame = true) :
      FrameEffect fw frame simTime (fw.handleEnterMotorMode simTime)
  | exit (h : isDisarm fw.canId frame = true) :
      FrameEffect fw frame simTime (fw.handleExitMotorMode simTime)
  | clear (h : isDisarm fw.canId frame = true) :
      FrameEffect fw frame simTime (fw.handleClearError simTime)
  | setZero (h : isSetZero fw.canId frame = true) :
      FrameEffect fw frame simTime (fw.handleSetZeroPosition frame simTime)
  | ignored (hcontrol : controlAccepted fw frame simTime = false)
      (henter : isEnter fw.canId frame = false) (hdisarm : isDisarm fw.canId frame = false)
      (hzero : isSetZero fw.canId frame = false) : FrameEffect fw frame simTime fw

/-- A frame that is long enough for eight bytes is long enough for one. -/
theorem hasDlcAtLeast_one {frame : CanFrame} (h : hasDlcAtLeast frame 8 = true) :
    hasDlcAtLeast frame 1 = true := by
  simp only [hasDlcAtLeast, Bool.and_eq_true, decide_eq_true_eq, UInt8.le_iff_toNat_le] at h ⊢
  have h8 : (8 : UInt8).toNat = 8 := rfl
  have h1 : (1 : UInt8).toNat = 1 := rfl
  omega

omit [LinearOrder K] in
/-- A frame for another id, or without an opcode, is no command. -/
theorem isCommand_eq_false {fw : SPGFirmware K} {frame : CanFrame} {required : UInt8}
    (h : (!fw.accepts frame || !hasDlcAtLeast frame 1) = true) (hreq : required = 1 ∨ required = 8)
    (code : UInt8) : isCommand fw.canId required code frame = false := by
  rw [isCommand, Bool.and_eq_false_iff, Bool.and_eq_false_iff]
  rcases Bool.or_eq_true_iff.mp h with hid | hdlc
  · exact Or.inl (Or.inl (by simpa [SPGFirmware.accepts] using hid))
  · refine Or.inl (Or.inr ?_)
    rcases hreq with rfl | rfl
    · simpa using hdlc
    · by_contra hlong
      rw [hasDlcAtLeast_one (Bool.of_not_eq_false hlong)] at hdlc
      cases hdlc

/-- **What a frame can do.** -/
theorem frameEffect (fw : SPGFirmware K) (frame : CanFrame) (simTime : K) :
    FrameEffect fw frame simTime (fw.onCanFrame frame simTime) := by
  have hcode : frame.data[0] = opcode frame := rfl
  unfold SPGFirmware.onCanFrame
  rw [hcode]
  split_ifs with hbase hcontrol henter hexit hzero hclear
  · exact .ignored
      (by rw [controlAccepted, isControl, isCommand_eq_false hbase (Or.inr rfl)]; rfl)
      (isCommand_eq_false hbase (Or.inl rfl) _)
      (by rw [isDisarm, isCommand_eq_false hbase (Or.inl rfl), isCommand_eq_false hbase (Or.inl rfl)]
          rfl)
      (isCommand_eq_false hbase (Or.inr rfl) _)
  all_goals
    obtain ⟨hid, hdlc⟩ : fw.accepts frame = true ∧ hasDlcAtLeast frame 1 = true := by
      simpa using hbase
    rw [SPGFirmware.accepts] at hid
  · -- a control frame is taken or dropped by one of its three guards
    have hother : isEnter fw.canId frame = false ∧ isDisarm fw.canId frame = false ∧
        isSetZero fw.canId frame = false := by
      simp [isEnter, isDisarm, isSetZero, isCommand, hcontrol, SPGFirmware.kCmdMITControl,
        SPGFirmware.kCmdMITEnter, SPGFirmware.kCmdMITExit, SPGFirmware.kCmdClearError,
        SPGFirmware.kCmdMITSetZero]
    unfold SPGFirmware.handleMitControl
    split_ifs with hshort hhold hoff
    · refine .ignored ?_ hother.1 hother.2.1 hother.2.2
      rw [Bool.not_eq_true'] at hshort
      simp [controlAccepted, isControl, isCommand, hshort]
    · refine .ignored ?_ hother.1 hother.2.1 hother.2.2
      simp [controlAccepted, hhold]
    · refine .ignored ?_ hother.1 hother.2.1 hother.2.2
      rw [controlAccepted, Bool.and_assoc, Bool.and_eq_false_iff]
      refine Or.inr ?_
      rcases Bool.or_eq_true_iff.mp hoff with hdisabled | hfault
      · rw [Bool.not_eq_true'] at hdisabled
        rw [hdisabled]
        rfl
      · rw [hfault, Bool.not_true, Bool.and_false]
    · refine .control ?_
      simp only [Bool.not_eq_true', Bool.not_eq_false] at hshort
      simp only [Bool.or_eq_true, Bool.not_eq_true', not_or, Bool.not_eq_false,
        Bool.not_eq_true] at hoff hhold
      simp [controlAccepted, isControl, isCommand, hid, hshort, hcontrol, hhold, hoff.1, hoff.2]
  · exact .enter (by simp [isEnter, isCommand, hid, hdlc, henter])
  · exact .exit (by simp [isDisarm, isCommand, hid, hdlc, hexit])
  · by_cases hlong : hasDlcAtLeast frame 8 = true
    · exact .setZero (by simp [isSetZero, isCommand, hid, hlong, hzero])
    · rw [SPGFirmware.handleSetZeroPosition, if_neg hlong]
      refine .ignored ?_ ?_ ?_ ?_
      all_goals
        simp [controlAccepted, isControl, isEnter, isDisarm, isSetZero, isCommand, hzero, hlong,
          SPGFirmware.kCmdMITControl, SPGFirmware.kCmdMITEnter, SPGFirmware.kCmdMITExit,
          SPGFirmware.kCmdClearError, SPGFirmware.kCmdMITSetZero]
  · exact .clear (by simp [isDisarm, isCommand, hid, hdlc, hclear])
  · refine .ignored ?_ ?_ ?_ ?_
    all_goals
      simp [controlAccepted, isControl, isEnter, isDisarm, isSetZero, isCommand, hcontrol, henter,
        hexit, hzero, hclear]

end Effect

/-! ## The device -/

/-- A virtual actuator: its firmware and the command the bridge holds for it. -/
structure SpgDevice (K : Type) [Field K] where
  firmware : SPGFirmware K
  latched : ActuatorCommand K := {}

/-- What happens to a virtual actuator between two resets. -/
inductive DeviceOp (K : Type) where
  | frame (frame : CanFrame) (simTime : K)
  | feedback (sample : ActuatorFeedbackSample K)

/-- The frame an operation brings, with its time. -/
def DeviceOp.frame? {K : Type} : DeviceOp K → Option (CanFrame × K)
  | frame f simTime => some (f, simTime)
  | feedback _ => none

section Device

variable {K : Type} [Field K] [LinearOrder K] [FloorRing K]

/-- One operation. The output is what the device sends. -/
def deviceStep (d : SpgDevice K) : DeviceOp K → SpgDevice K × List CanFrame
  | .frame frame simTime =>
      let (firmware, latched) := deviceOnFrame d.firmware d.latched frame simTime
      ({ firmware := firmware, latched := latched }, [])
  | .feedback sample =>
      let (firmware, frames) := d.firmware.makeFeedbackFrames sample
      ({ d with firmware := firmware }, frames)

/-- One recorded operation. -/
abbrev DeviceEntry (K : Type) [Field K] := Entry (SpgDevice K) (DeviceOp K) (List CanFrame)

/-- A device right after `reset_model`. -/
def deviceReset (canId : UInt32) (config : SPGMITConfig K) (simTime : K) : SpgDevice K :=
  { firmware := SPGFirmware.reset { canId := canId, config := config } simTime }

/-- The frames a recorded run brought, in order. -/
def processed (tr : List (DeviceEntry K)) : List (CanFrame × K) := tr.filterMap (·.input.frame?)

/-! ## Armed by ENTER and a control frame -/

/-- When the set-zero hold ends: the latest set-zero frame started it, or the reset did. -/
def holdUntil (canId : UInt32) (hold start : K) (h : List (CanFrame × K)) : K :=
  match (h.filter fun x => isSetZero canId x.1).getLast? with
  | some x => x.2 + hold
  | none => start

/-- A time within the hold. -/
def InHold (canId : UInt32) (hold start : K) (h : List (CanFrame × K)) (simTime : K) : Prop :=
  0 ≤ holdUntil canId hold start h ∧ simTime < holdUntil canId hold start h

/-- An ENTER frame at a position, and neither EXIT nor CLEAR_ERROR after it. -/
def EnteredAt (canId : UInt32) (h : List (CanFrame × K)) (i : ℕ) : Prop :=
  (∃ x : CanFrame × K, h[i]? = some x ∧ isEnter canId x.1 = true) ∧
    ∀ (k : ℕ) (x : CanFrame × K), i < k → h[k]? = some x → isDisarm canId x.1 = false

/-- Since the reset and the latest EXIT or CLEAR_ERROR, an ENTER was processed and after it a control
frame outside the hold. -/
def MayTorque (canId : UInt32) (hold start : K) (h : List (CanFrame × K)) : Prop :=
  ∃ (i j : ℕ) (x : CanFrame × K), EnteredAt canId h i ∧ i < j ∧ h[j]? = some x ∧
    isControl canId x.1 = true ∧ ¬ InHold canId hold start (h.take j) x.2

/-- A command with which the bridge may compute a torque. -/
def CanTorque (c : ActuatorCommand K) : Prop :=
  c.valid = true ∧ c.enabled = true ∧ c.mode ≠ .disabled ∧ c.mode ≠ .zeroTorque

omit [LinearOrder K] [FloorRing K] in
theorem canTorque_of_ne_zero {c : ActuatorCommand K} {q dq : K}
    (h : computeLogicalTorqueCommand c q dq ≠ 0) : CanTorque c := by
  unfold computeLogicalTorqueCommand at h
  split at h
  · exact absurd rfl h
  · rename_i hon
    simp only [Bool.or_eq_true, Bool.not_eq_true', not_or, Bool.not_eq_false] at hon
    refine ⟨hon.1, hon.2, fun hmode => ?_, fun hmode => ?_⟩
    · simp [hmode] at h
    · simp [hmode] at h

omit [Field K] [LinearOrder K] [FloorRing K] in
/-- One more frame that does not disarm. -/
theorem EnteredAt.concat {canId : UInt32} {h : List (CanFrame × K)} {i : ℕ}
    (hent : EnteredAt canId h i) {x : CanFrame × K} (hx : isDisarm canId x.1 = false) :
    EnteredAt canId (h ++ [x]) i := by
  obtain ⟨⟨y, hy, henter⟩, hsince⟩ := hent
  have hlt : i < h.length := (List.getElem?_eq_some_iff.mp hy).1
  refine ⟨⟨y, (List.getElem?_append_left hlt).trans hy, henter⟩, fun k z hk hz => ?_⟩
  rcases getElem?_concat_cases hz with ⟨-, rfl⟩ | hold
  · exact hx
  · exact hsince k z hk hold

omit [FloorRing K] in
theorem MayTorque.concat {canId : UInt32} {hold start : K} {h : List (CanFrame × K)}
    (hmay : MayTorque canId hold start h) {x : CanFrame × K} (hx : isDisarm canId x.1 = false) :
    MayTorque canId hold start (h ++ [x]) := by
  obtain ⟨i, j, y, hent, hij, hy, hcontrol, hhold⟩ := hmay
  have hlt : j < h.length := (List.getElem?_eq_some_iff.mp hy).1
  refine ⟨i, j, y, hent.concat hx, hij, (List.getElem?_append_left hlt).trans hy, hcontrol, ?_⟩
  rwa [List.take_append_of_le_length (Nat.le_of_lt hlt)]

omit [LinearOrder K] [FloorRing K] in
theorem holdUntil_concat (canId : UInt32) (hold start : K) (h : List (CanFrame × K))
    (x : CanFrame × K) :
    holdUntil canId hold start (h ++ [x]) =
      if isSetZero canId x.1 then x.2 + hold else holdUntil canId hold start h := by
  unfold holdUntil
  by_cases hx : isSetZero canId x.1 = true
  · simp [List.filter_append, hx]
  · simp [List.filter_append, hx]

omit [LinearOrder K] [FloorRing K] in
theorem clearPending_eq {fw : SPGFirmware K} (h : fw.hasPendingCommand = false) :
    { fw with hasPendingCommand := false } = fw := by
  rw [← h]

omit [FloorRing K] in
theorem onCanFrame_of_not_accepts {fw : SPGFirmware K} {frame : CanFrame}
    (h : ¬ fw.accepts frame = true) (simTime : K) : fw.onCanFrame frame simTime = fw := by
  unfold SPGFirmware.onCanFrame
  exact if_pos (by simp [h])

omit [FloorRing K] in
/-- Handing a command over changes the firmware in nothing else. -/
theorem deviceOnFrame_firmware (fw : SPGFirmware K) (latched : ActuatorCommand K) (frame : CanFrame)
    (simTime : K) : ∃ pending, (deviceOnFrame fw latched frame simTime).1 =
      { fw.onCanFrame frame simTime with hasPendingCommand := pending } := by
  by_cases hid : fw.accepts frame = true
  · rw [deviceOnFrame, if_pos hid, SPGFirmware.consumePendingCommand]
    split_ifs
    · exact ⟨false, rfl⟩
    · exact ⟨(fw.onCanFrame frame simTime).hasPendingCommand, rfl⟩
  · rw [deviceOnFrame, if_neg hid, onCanFrame_of_not_accepts hid]
    exact ⟨fw.hasPendingCommand, rfl⟩

/-- A device keeps its id and its configuration. -/
theorem deviceStep_identity (d : SpgDevice K) (op : DeviceOp K) :
    (deviceStep d op).1.firmware.canId = d.firmware.canId ∧
      (deviceStep d op).1.firmware.config = d.firmware.config := by
  cases op with
  | frame f simTime =>
      have hframe : (d.firmware.onCanFrame f simTime).canId = d.firmware.canId ∧
          (d.firmware.onCanFrame f simTime).config = d.firmware.config := by
        have heffect := frameEffect d.firmware f simTime
        generalize d.firmware.onCanFrame f simTime = fw' at heffect
        cases heffect with
        | control _ => exact ⟨rfl, rfl⟩
        | enter _ => exact ⟨rfl, rfl⟩
        | exit _ => exact ⟨rfl, rfl⟩
        | clear _ => exact ⟨rfl, rfl⟩
        | setZero _ =>
            unfold SPGFirmware.handleSetZeroPosition
            split <;> exact ⟨rfl, rfl⟩
        | ignored _ _ _ _ => exact ⟨rfl, rfl⟩
      obtain ⟨pending, hfw⟩ := deviceOnFrame_firmware d.firmware d.latched f simTime
      show (deviceOnFrame d.firmware d.latched f simTime).1.canId = _ ∧
        (deviceOnFrame d.firmware d.latched f simTime).1.config = _
      rw [hfw]
      exact hframe
  | feedback sample =>
      simp only [deviceStep, SPGFirmware.makeFeedbackFrames,
        SPGFirmware.updateZeroReferenceIfNeeded]
      split <;> exact ⟨rfl, rfl⟩

omit [FloorRing K] in
/-- A device that has handed over its last command: a frame is handled and its command, if it made
one, is latched. -/
theorem deviceOnFrame_eq {fw : SPGFirmware K} (hnone : fw.hasPendingCommand = false)
    (latched : ActuatorCommand K) (frame : CanFrame) (simTime : K) :
    deviceOnFrame fw latched frame simTime =
      ({ fw.onCanFrame frame simTime with hasPendingCommand := false },
        if (fw.onCanFrame frame simTime).hasPendingCommand then
          (fw.onCanFrame frame simTime).pendingCommand
        else latched) := by
  by_cases hid : fw.accepts frame = true
  · rw [deviceOnFrame, if_pos hid, SPGFirmware.consumePendingCommand]
    by_cases hpend : (fw.onCanFrame frame simTime).hasPendingCommand = true
    · rw [if_pos hpend, if_pos hpend]
      rfl
    · rw [if_neg hpend, if_neg hpend, clearPending_eq (Bool.not_eq_true _ ▸ hpend)]
      rfl
  · rw [deviceOnFrame, if_neg hid, onCanFrame_of_not_accepts hid, clearPending_eq hnone, hnone]
    rfl

omit [FloorRing K] in
/-- An accepted control frame latches its decoded command, at the physical position. -/
theorem latched_of_controlAccepted {fw : SPGFirmware K} {frame : CanFrame} {simTime : K}
    (h : controlAccepted fw frame simTime = true) (latched : ActuatorCommand K) :
    (deviceOnFrame fw latched frame simTime).2 =
      let decoded := SPGFirmware.decodeMitControlFrame fw.config frame
      { mode := .impedance
        positionRad := fw.positionMitToPhysicalRad decoded.pDesRad
        velocityRadS := decoded.vDesRadS
        torqueNm := decoded.tauFfNm
        kp := decoded.kp
        kd := decoded.kd
        lastUpdateTime := simTime
        valid := true
        enabled := true } := by
  simp only [controlAccepted, isControl, isCommand, Bool.and_eq_true, Bool.not_eq_true',
    beq_iff_eq] at h
  obtain ⟨⟨⟨⟨⟨hid, hlong⟩, hcode⟩, hhold⟩, henabled⟩, hfault⟩ := h
  have hdata : frame.data[0] = SPGFirmware.kCmdMITControl := hcode
  simp [deviceOnFrame, SPGFirmware.accepts, hid, SPGFirmware.onCanFrame, hasDlcAtLeast_one hlong,
    hdata, SPGFirmware.handleMitControl, hlong, hhold, henabled, hfault,
    SPGFirmware.consumePendingCommand]

/-- What ties firmware, latched command and the frames since the reset together. -/
structure InStep (canId : UInt32) (config : SPGMITConfig K) (start : K) (h : List (CanFrame × K))
    (d : SpgDevice K) : Prop where
  canId_eq : d.firmware.canId = canId
  config_eq : d.firmware.config = config
  handed_over : d.firmware.hasPendingCommand = false
  no_fault : d.firmware.fault = false
  hold : d.firmware.ignoreControlUntilTime = holdUntil canId config.setZeroHoldS start h
  enabled : d.latched.enabled = d.firmware.enabled
  entered : d.firmware.enabled = true → ∃ i, EnteredAt canId h i
  torque : CanTorque d.latched → MayTorque canId config.setZeroHoldS start h

omit [FloorRing K] in
theorem inStep_reset (canId : UInt32) (config : SPGMITConfig K) (start : K) :
    InStep canId config start [] (deviceReset canId config start) := by
  refine ⟨rfl, rfl, rfl, rfl, rfl, rfl, fun h => ?_, fun h => ?_⟩
  · cases h
  · exact absurd rfl h.2.2.1

/-- Making feedback moves neither flag, command nor hold. -/
theorem InStep.feedback {canId : UInt32} {config : SPGMITConfig K} {start : K}
    {h : List (CanFrame × K)} {d : SpgDevice K} (hd : InStep canId config start h d)
    (sample : ActuatorFeedbackSample K) :
    InStep canId config start h (deviceStep d (.feedback sample)).1 := by
  obtain ⟨h1, h2, h3, h4, h5, h6, h7, h8⟩ := hd
  simp only [deviceStep, SPGFirmware.makeFeedbackFrames, SPGFirmware.updateZeroReferenceIfNeeded]
  split
  · exact ⟨h1, h2, h3, h4, h5, h6, h7, h8⟩
  · exact ⟨h1, h2, h3, h4, h5, h6, h7, h8⟩

/-- A frame of one kind is not of another. -/
theorem isDisarm_eq_false {canId : UInt32} {frame : CanFrame} {required code : UInt8}
    (h : isCommand canId required code frame = true) (hexit : code ≠ SPGFirmware.kCmdMITExit)
    (hclear : code ≠ SPGFirmware.kCmdClearError) : isDisarm canId frame = false := by
  simp only [isCommand, Bool.and_eq_true, beq_iff_eq] at h
  simp [isDisarm, isCommand, h.2, hexit, hclear]

theorem isSetZero_eq_false {canId : UInt32} {frame : CanFrame} {required code : UInt8}
    (h : isCommand canId required code frame = true) (hzero : code ≠ SPGFirmware.kCmdMITSetZero) :
    isSetZero canId frame = false := by
  simp only [isCommand, Bool.and_eq_true, beq_iff_eq] at h
  simp [isSetZero, isCommand, h.2, hzero]

theorem isSetZero_of_isDisarm {canId : UInt32} {frame : CanFrame}
    (h : isDisarm canId frame = true) : isSetZero canId frame = false := by
  rcases Bool.or_eq_true_iff.mp h with hexit | hclear
  · exact isSetZero_eq_false hexit (by decide)
  · exact isSetZero_eq_false hclear (by decide)

/-- **Every frame keeps flag, command and history in step.** -/
theorem InStep.frame {canId : UInt32} {config : SPGMITConfig K} {start : K}
    {h : List (CanFrame × K)} {d : SpgDevice K} (hd : InStep canId config start h d)
    (frame : CanFrame) (simTime : K) :
    InStep canId config start (h ++ [(frame, simTime)]) (deviceStep d (.frame frame simTime)).1 := by
  have hstep : (deviceStep d (.frame frame simTime)).1 =
      ⟨(deviceOnFrame d.firmware d.latched frame simTime).1,
        (deviceOnFrame d.firmware d.latched frame simTime).2⟩ := rfl
  rw [hstep, deviceOnFrame_eq hd.handed_over]
  have heffect := frameEffect d.firmware frame simTime
  generalize d.firmware.onCanFrame frame simTime = fw at heffect
  have hsetHold := holdUntil_concat canId config.setZeroHoldS start h (frame, simTime)
  cases heffect with
  | control hacc =>
      simp only [controlAccepted, Bool.and_eq_true, Bool.not_eq_true', hd.canId_eq] at hacc
      obtain ⟨⟨⟨hcontrol, hhold⟩, henabled⟩, -⟩ := hacc
      have hquiet : isDisarm canId frame = false := isDisarm_eq_false hcontrol (by decide) (by decide)
      rw [isSetZero_eq_false hcontrol (by decide)] at hsetHold
      obtain ⟨i, hent⟩ := hd.entered henabled
      have hlt : i < h.length := by
        obtain ⟨⟨x, hx, -⟩, -⟩ := hent
        exact (List.getElem?_eq_some_iff.mp hx).1
      refine ⟨hd.canId_eq, hd.config_eq, rfl, hd.no_fault, hd.hold.trans hsetHold.symm,
        henabled.symm, fun _ => ⟨i, hent.concat hquiet⟩, fun _ => ?_⟩
      refine ⟨i, h.length, (frame, simTime), hent.concat hquiet, hlt, List.getElem?_concat_length,
        hcontrol, ?_⟩
      rw [List.take_left' rfl, InHold, ← hd.hold]
      simpa [SPGFirmware.inSetZeroHold] using hhold
  | enter henter =>
      rw [hd.canId_eq] at henter
      rw [isSetZero_eq_false henter (by decide)] at hsetHold
      refine ⟨hd.canId_eq, hd.config_eq, rfl, hd.no_fault, hd.hold.trans hsetHold.symm, rfl,
        fun _ => ⟨h.length, ⟨⟨_, List.getElem?_concat_length, henter⟩, fun k x hk hx => ?_⟩⟩,
        fun htorque => absurd rfl htorque.2.2.2⟩
      have hlen := (List.getElem?_eq_some_iff.mp hx).1
      rw [List.length_append, List.length_singleton] at hlen
      omega
  | exit hexit =>
      rw [hd.canId_eq] at hexit
      rw [isSetZero_of_isDisarm hexit] at hsetHold
      exact ⟨hd.canId_eq, hd.config_eq, rfl, hd.no_fault, hd.hold.trans hsetHold.symm, rfl,
        fun hon => (by cases hon), fun htorque => absurd rfl htorque.2.2.1⟩
  | clear hclear =>
      rw [hd.canId_eq] at hclear
      rw [isSetZero_of_isDisarm hclear] at hsetHold
      exact ⟨hd.canId_eq, hd.config_eq, rfl, rfl, hd.hold.trans hsetHold.symm, rfl,
        fun hon => (by cases hon), fun htorque => absurd rfl htorque.2.2.1⟩
  | setZero hzero =>
      have hlong : hasDlcAtLeast frame 8 = true := by
        simp only [isSetZero, isCommand, Bool.and_eq_true] at hzero
        exact hzero.1.2
      rw [hd.canId_eq] at hzero
      have hquiet : isDisarm canId frame = false := isDisarm_eq_false hzero (by decide) (by decide)
      rw [if_pos hzero] at hsetHold
      rw [SPGFirmware.handleSetZeroPosition, if_pos hlong]
      refine ⟨hd.canId_eq, hd.config_eq, rfl, hd.no_fault, ?_, ?_, fun hon => ?_, fun htorque => ?_⟩
      · rw [hsetHold, ← hd.config_eq]
        rfl
      · simp only [SPGFirmware.pushPendingTx, hd.handed_over]
        exact hd.enabled
      · obtain ⟨i, hent⟩ := hd.entered hon
        exact ⟨i, hent.concat hquiet⟩
      · simp only [SPGFirmware.pushPendingTx, hd.handed_over] at htorque
        exact (hd.torque htorque).concat hquiet
  | ignored _ _ hquiet hzero =>
      rw [hd.canId_eq] at hquiet hzero
      rw [hzero] at hsetHold
      rw [hd.handed_over]
      refine ⟨hd.canId_eq, hd.config_eq, rfl, hd.no_fault, hd.hold.trans hsetHold.symm, hd.enabled,
        fun hon => ?_, fun htorque => (hd.torque htorque).concat hquiet⟩
      obtain ⟨i, hent⟩ := hd.entered hon
      exact ⟨i, hent.concat hquiet⟩

/-- **Every run from a reset keeps them in step.** -/
theorem inStep_run (canId : UInt32) (config : SPGMITConfig K) (start : K) (ops : List (DeviceOp K)) :
    InStep canId config start (processed (trace deviceStep (deviceReset canId config start) ops))
      (final deviceStep (deviceReset canId config start) ops) := by
  refine trace_history_all deviceStep
    (P := fun tr d => InStep canId config start (processed tr) d) (inStep_reset canId config start)
    (fun tr d op hd => ?_) ops
  rw [processed, filterMap_concat]
  cases op with
  | frame f simTime => exact hd.frame f simTime
  | feedback sample =>
      rw [show (entry deviceStep d (.feedback sample)).input.frame? = none from rfl,
        Option.toList_none, List.append_nil]
      exact hd.feedback sample

end Device

end SparqControl.Sim
