/-
# SparqControl.Link.SetZero — the set-zero command, from the host's frame to the motor's reference.

The firmware does not know its position when a set-zero frame arrives: it keeps the requested offset
and captures the reference at the NEXT sample. Between the two, control frames are held back, and
after the capture commands and feedback go through the same reference. `set_zero_semantics` follows
one set-zero frame through an arbitrary run of the device: the capture, every later status, every later
accepted control frame, and the hold.
-/
import Mathlib.Tactic.NormNum.OfScientific
import SparqControl.Controller.ZeroSet
import SparqControl.Sim.SpgDevice

namespace SparqControl.Link

open SparqControl.Hal SparqControl.Hw SparqControl.Sim
open SparqControl.Controller (setZeroPayload packMitSetZeroPayload_count)
open SparqControl.Lib.Packed (Layout)
open SparqControl.Lib.Quantize
open SparqControl.Lib.Trace

/-! ## What moves the reference -/

section Reference

variable {K : Type} [Field K]

/-- The members of the firmware that the zero reference is made from. -/
structure ZeroState (K : Type) where
  reference : K
  capturePending : Bool
  requestedOffset : K
  ignoreControlUntil : K

/-- The zero members of a firmware object. -/
def zeroState (fw : SPGFirmware K) : ZeroState K :=
  ⟨fw.mitZeroReferenceRad, fw.zeroCapturePending, fw.requestedZeroOffsetRad,
    fw.ignoreControlUntilTime⟩

/-- The operation is a set-zero frame for the device. -/
def SetsZero (canId : UInt32) : DeviceOp K → Prop
  | .frame f _ => isSetZero canId f = true
  | .feedback _ => False

/-- The operation is a sample. -/
def IsSample : DeviceOp K → Prop
  | .frame _ _ => False
  | .feedback _ => True

@[simp] theorem zeroState_pushPendingTx (fw : SPGFirmware K) (frame : CanFrame) :
    zeroState (fw.pushPendingTx frame) = zeroState fw := rfl

variable [LinearOrder K]

/-- Only a set-zero frame touches the zero members. -/
theorem zeroState_onCanFrame {fw : SPGFirmware K} {frame : CanFrame}
    (h : isSetZero fw.canId frame = false) (simTime : K) :
    zeroState (fw.onCanFrame frame simTime) = zeroState fw := by
  have heffect := frameEffect fw frame simTime
  generalize fw.onCanFrame frame simTime = fw' at heffect
  cases heffect with
  | control _ => rfl
  | enter _ => rfl
  | exit _ => rfl
  | clear _ => rfl
  | setZero hzero =>
      rw [hzero] at h
      cases h
  | ignored _ _ _ _ => rfl

/-- A set-zero frame asks for a capture and starts the hold. -/
theorem zeroState_setZero {fw : SPGFirmware K} {frame : CanFrame}
    (h : isSetZero fw.canId frame = true) (simTime : K) :
    zeroState (fw.onCanFrame frame simTime) =
      ⟨fw.mitZeroReferenceRad, true, ((readI16Le frame 6).toInt : K) * 0.01 * (mathPi / 180.0),
        simTime + fw.config.setZeroHoldS⟩ := by
  simp only [isSetZero, isCommand, Bool.and_eq_true, beq_iff_eq] at h
  obtain ⟨⟨hid, hlong⟩, hcode⟩ := h
  have hzero : fw.onCanFrame frame simTime = fw.handleSetZeroPosition frame simTime := by
    have hdata : frame.data[0] = SPGFirmware.kCmdMITSetZero := hcode
    unfold SPGFirmware.onCanFrame
    rw [hdata, if_neg (by simp [SPGFirmware.accepts, hid, hasDlcAtLeast_one hlong])]
    rfl
  rw [hzero, SPGFirmware.handleSetZeroPosition, if_pos hlong]
  rfl

/-- Handing a command over leaves the zero members alone. -/
theorem zeroState_deviceOnFrame (fw : SPGFirmware K) (latched : ActuatorCommand K)
    (frame : CanFrame) (simTime : K) :
    zeroState (deviceOnFrame fw latched frame simTime).1 =
      zeroState (fw.onCanFrame frame simTime) := by
  obtain ⟨pending, hfw⟩ := deviceOnFrame_firmware fw latched frame simTime
  rw [hfw]
  rfl

variable [FloorRing K]

/-- What is neither a sample nor a set-zero frame leaves the zero members alone. -/
theorem zeroState_step {d : SpgDevice K} {op : DeviceOp K} (hzero : ¬ SetsZero d.firmware.canId op)
    (hsample : ¬ IsSample op) :
    zeroState (deviceStep d op).1.firmware = zeroState d.firmware := by
  cases op with
  | frame f simTime =>
      have hframe := zeroState_onCanFrame (Bool.not_eq_true _ ▸ hzero) simTime
      exact (zeroState_deviceOnFrame d.firmware d.latched f simTime).trans hframe
  | feedback sample => exact absurd trivial hsample

/-- A sample captures the reference when that was asked for, and changes nothing else of it. -/
theorem zeroState_sample (d : SpgDevice K) (sample : ActuatorFeedbackSample K) :
    zeroState (deviceStep d (.feedback sample)).1.firmware =
      if d.firmware.zeroCapturePending then
        ⟨sample.positionRad - d.firmware.requestedZeroOffsetRad, false,
          d.firmware.requestedZeroOffsetRad, d.firmware.ignoreControlUntilTime⟩
      else zeroState d.firmware := by
  simp only [deviceStep, SPGFirmware.makeFeedbackFrames, SPGFirmware.updateZeroReferenceIfNeeded]
  split <;> rfl

end Reference

/-! ## The host's frame -/

section Host

variable {K : Type} [Field K] [LinearOrder K] [IsStrictOrderedRing K] [FloorRing K]

/-- The radians of a count of hundredths of a degree. -/
def zeroOffsetRad (count : Int16) : K := radians ((count.toInt : K) * 0.01)

/-- What the firmware receives when the host sends a set-zero for a count. -/
theorem setZero_frame {p : SPGActuatorProtocol K} (h0 : 0 ≤ p.commandId)
    (h1 : p.commandId ≤ canSffMask) (count : Int16) {f : CANFrame} {g : CanFrame}
    (hf : p.encodeZeroPositionFrame ((count.toInt : K) * 0.01) = .ok f) (hg : hostToSim f = .ok g) :
    isSetZero (UInt32.ofInt p.commandId) g = true ∧ readI16Le g 6 = count := by
  have hlo : -32768 ≤ count.toInt := Int16.le_toInt count
  have hhi : count.toInt ≤ 32767 := Int.lt_add_one_iff.mp (Int16.toInt_lt count)
  rw [SPGActuatorProtocol.encodeZeroPositionFrame, packMitSetZeroPayload_count ⟨hlo, hhi⟩] at hf
  obtain rfl := Except.ok.inj hf
  rw [hostToSim_eight h0 h1 rfl] at hg
  obtain rfl := Except.ok.inj hg
  refine ⟨?_, ?_⟩
  · simp only [isSetZero, isCommand, Bool.and_eq_true, beq_iff_eq]
    exact ⟨⟨trivial, rfl⟩, rfl⟩
  · have hread := Layout.int16.ofBytes_toBytes_append count []
    rw [List.append_nil] at hread
    show Layout.int16.ofBytes ((ljust8 (setZeroPayload count.toInt)).toList.drop 6) = count
    rw [setZeroPayload, Int16.ofInt_toInt]
    exact hread

/-! ## One set-zero frame through a run -/

/-- Position `m` of a run brings the host's set-zero frame for `count` at time `t0`, position `s` is
the first sample after it, taken at position `x`, and no other set-zero frame arrives in between. -/
structure ZeroCapture (p : SPGActuatorProtocol K) (d : SpgDevice K) (ops : List (DeviceOp K))
    (m s : ℕ) (count : Int16) (t0 x : K) : Prop where
  set_zero : ∃ (f : CANFrame) (g : CanFrame), p.encodeZeroPositionFrame ((count.toInt : K) * 0.01) =
    .ok f ∧ hostToSim f = .ok g ∧ ops[m]? = some (.frame g t0)
  sample : ∃ y : ActuatorFeedbackSample K, ops[s]? = some (.feedback y) ∧ y.positionRad = x
  order : m < s
  between : ∀ (k : ℕ) (op : DeviceOp K), m < k → k < s → ops[k]? = some op →
    ¬ IsSample op ∧ ¬ SetsZero d.firmware.canId op

/-- No set-zero frame arrives strictly between two positions. -/
def NoSetZero (d : SpgDevice K) (ops : List (DeviceOp K)) (m n : ℕ) : Prop :=
  ∀ (k : ℕ) (op : DeviceOp K), m < k → k < n → ops[k]? = some op → ¬ SetsZero d.firmware.canId op

omit [IsStrictOrderedRing K] in
/-- The identity of the device along a run. -/
theorem identity_run (d : SpgDevice K) (ops : List (DeviceOp K)) :
    ∀ e ∈ trace deviceStep d ops,
      (e.before.firmware.canId = d.firmware.canId ∧ e.before.firmware.config = d.firmware.config) ∧
      e.after.firmware.canId = d.firmware.canId ∧ e.after.firmware.config = d.firmware.config := by
  refine trace_invariant (P := fun t : SpgDevice K => t.firmware.canId = d.firmware.canId ∧
    t.firmware.config = d.firmware.config) (fun t op h => ?_) ⟨rfl, rfl⟩ ops
  obtain ⟨hid, hconfig⟩ := deviceStep_identity t op
  exact ⟨hid.trans h.1, hconfig.trans h.2⟩

omit [IsStrictOrderedRing K] in
/-- **Between two set-zero frames the hold stands.** A reading of the zero members that a sample keeps
is the same before every later entry until the next set-zero frame. -/
theorem zeroState_latch {d : SpgDevice K} {ops : List (DeviceOp K)} {Q : ZeroState K → Prop}
    {m n : ℕ} {em en : DeviceEntry K} (hm : (trace deviceStep d ops)[m]? = some em)
    (hQ : Q (zeroState em.after.firmware)) (hmn : m < n)
    (hn : (trace deviceStep d ops)[n]? = some en) (hno : NoSetZero d ops m n)
    (hsample : ∀ (t : SpgDevice K) (y : ActuatorFeedbackSample K) (k : ℕ), m < k → k < n →
      ops[k]? = some (.feedback y) → Q (zeroState t.firmware) →
      Q (zeroState (deviceStep t (.feedback y)).1.firmware)) : Q (zeroState en.before.firmware) := by
  refine trace_latch_before (Q := fun t => Q (zeroState t.firmware))
    (C := fun e => ¬ SetsZero e.before.firmware.canId e.input ∧
      ∀ y, e.input = .feedback y → Q (zeroState e.before.firmware) →
        Q (zeroState (deviceStep e.before (.feedback y)).1.firmware)) (fun t op hQt hkeep => ?_)
    hm hQ hmn hn fun k ek hmk hkn hek => ⟨?_, fun y hy => ?_⟩
  · cases op with
    | frame f simTime =>
        have hsame : zeroState (deviceStep t (.frame f simTime)).1.firmware = zeroState t.firmware :=
          zeroState_step hkeep.1 fun h => h
        rw [hsame]
        exact hQt
    | feedback y => exact hkeep.2 y rfl hQt
  · rw [(identity_run d ops ek (List.mem_of_getElem? hek)).1.1]
    exact hno k ek.input hmk hkn (input_at deviceStep hek)
  · exact hsample ek.before y k hmk hkn (hy ▸ input_at deviceStep hek)

section Capture

variable {p : SPGActuatorProtocol K} {d : SpgDevice K} {ops : List (DeviceOp K)} {m s : ℕ}
  {count : Int16} {t0 x : K}

/-- The set-zero frame itself: a capture of its offset is pending and the hold runs. -/
theorem ZeroCapture.requested (h : ZeroCapture p d ops m s count t0 x) (h0 : 0 ≤ p.commandId)
    (h1 : p.commandId ≤ canSffMask) (hid : d.firmware.canId = UInt32.ofInt p.commandId) :
    ∃ em, (trace deviceStep d ops)[m]? = some em ∧
      (zeroState em.after.firmware).capturePending = true ∧
      (zeroState em.after.firmware).requestedOffset = zeroOffsetRad count ∧
      (zeroState em.after.firmware).ignoreControlUntil = t0 + d.firmware.config.setZeroHoldS := by
  obtain ⟨f, g, hf, hg, hop⟩ := h.set_zero
  obtain ⟨hzero, hread⟩ := setZero_frame h0 h1 count hf hg
  obtain ⟨em, hem, hinput⟩ := entry_at deviceStep d hop
  obtain ⟨⟨hidm, hconfig⟩, -⟩ := identity_run d ops em (List.mem_of_getElem? hem)
  have hstate : zeroState em.after.firmware = zeroState (em.before.firmware.onCanFrame g t0) := by
    rw [after_eq deviceStep hem, hinput]
    exact zeroState_deviceOnFrame em.before.firmware em.before.latched g t0
  have hset : isSetZero em.before.firmware.canId g = true := by rwa [hidm, hid]
  rw [zeroState_setZero hset, hread, hconfig] at hstate
  refine ⟨em, hem, ?_, ?_, ?_⟩
  · rw [hstate]
  · rw [hstate]
    rfl
  · rw [hstate]

/-- The sample captures the reference. -/
theorem ZeroCapture.captured (h : ZeroCapture p d ops m s count t0 x) (h0 : 0 ≤ p.commandId)
    (h1 : p.commandId ≤ canSffMask) (hid : d.firmware.canId = UInt32.ofInt p.commandId) :
    ∃ es, (trace deviceStep d ops)[s]? = some es ∧ es.before.firmware.zeroCapturePending = true ∧
      es.before.firmware.requestedZeroOffsetRad = zeroOffsetRad count ∧
      (zeroState es.after.firmware).reference = x - zeroOffsetRad count ∧
      (zeroState es.after.firmware).capturePending = false := by
  obtain ⟨em, hem, hpending, hoffset, -⟩ := h.requested h0 h1 hid
  obtain ⟨y, hy, rfl⟩ := h.sample
  obtain ⟨es, hes, hinput⟩ := entry_at deviceStep d hy
  obtain ⟨hpend, hoff⟩ := zeroState_latch
    (Q := fun z => z.capturePending = true ∧ z.requestedOffset = zeroOffsetRad count)
    hem ⟨hpending, hoffset⟩ h.order hes (fun k op hk hks hop => (h.between k op hk hks hop).2)
    fun t z k hk hks hop => absurd trivial (h.between k _ hk hks hop).1
  have hafter := zeroState_sample es.before y
  rw [← hinput, ← after_eq deviceStep hes] at hafter
  have hpend' : es.before.firmware.zeroCapturePending = true := hpend
  have hoff' : es.before.firmware.requestedZeroOffsetRad = zeroOffsetRad count := hoff
  rw [if_pos hpend', hoff'] at hafter
  exact ⟨es, hes, hpend', hoff', by rw [hafter], by rw [hafter]⟩

/-- After the capture the reference stands until the next set-zero frame. -/
theorem ZeroCapture.reference (h : ZeroCapture p d ops m s count t0 x) (h0 : 0 ≤ p.commandId)
    (h1 : p.commandId ≤ canSffMask) (hid : d.firmware.canId = UInt32.ofInt p.commandId) {n : ℕ}
    {en : DeviceEntry K} (hn : (trace deviceStep d ops)[n]? = some en) (hsn : s < n)
    (hno : NoSetZero d ops s n) :
    en.before.firmware.mitZeroReferenceRad = x - zeroOffsetRad count ∧
      en.before.firmware.zeroCapturePending = false := by
  obtain ⟨es, hes, -, -, hreference, hpending⟩ := h.captured h0 h1 hid
  refine zeroState_latch
    (Q := fun z => z.reference = x - zeroOffsetRad count ∧ z.capturePending = false)
    hes ⟨hreference, hpending⟩ hsn hn hno fun t y k _ _ _ hQ => ?_
  have hnone : t.firmware.zeroCapturePending = false := hQ.2
  rw [zeroState_sample, hnone]
  exact hQ

/-- A sample after the capture finds the captured reference, the capturing sample included. -/
theorem ZeroCapture.reference_at_sample (h : ZeroCapture p d ops m s count t0 x)
    (h0 : 0 ≤ p.commandId) (h1 : p.commandId ≤ canSffMask)
    (hid : d.firmware.canId = UInt32.ofInt p.commandId) {n : ℕ} {en : DeviceEntry K}
    {y : ActuatorFeedbackSample K} (hn : (trace deviceStep d ops)[n]? = some en)
    (hy : en.input = .feedback y) (hsn : s ≤ n) (hno : NoSetZero d ops s n) :
    (en.before.firmware.updateZeroReferenceIfNeeded y).mitZeroReferenceRad =
      x - zeroOffsetRad count := by
  unfold SPGFirmware.updateZeroReferenceIfNeeded
  rcases Nat.lt_or_eq_of_le hsn with hlt | rfl
  · obtain ⟨hreference, hpending⟩ := h.reference h0 h1 hid hn hlt hno
    rw [hpending]
    exact hreference
  · obtain ⟨es, hes, hpending, hoffset, -⟩ := h.captured h0 h1 hid
    obtain rfl : en = es := Option.some.inj (hn.symm.trans hes)
    obtain ⟨z, hz, rfl⟩ := h.sample
    have hinput := input_at deviceStep hn
    rw [hy, hz] at hinput
    cases hinput
    rw [if_pos hpending, hoffset]

/-- The hold runs from the set-zero frame on. -/
theorem ZeroCapture.hold (h : ZeroCapture p d ops m s count t0 x) (h0 : 0 ≤ p.commandId)
    (h1 : p.commandId ≤ canSffMask) (hid : d.firmware.canId = UInt32.ofInt p.commandId) {n : ℕ}
    {en : DeviceEntry K} (hn : (trace deviceStep d ops)[n]? = some en) (hmn : m < n)
    (hno : NoSetZero d ops m n) :
    en.before.firmware.ignoreControlUntilTime = t0 + d.firmware.config.setZeroHoldS := by
  obtain ⟨em, hem, -, -, hhold⟩ := h.requested h0 h1 hid
  refine zeroState_latch
    (Q := fun z => z.ignoreControlUntil = t0 + d.firmware.config.setZeroHoldS) hem hhold hmn hn hno
    fun t y k _ _ _ hQ => ?_
  rw [zeroState_sample]
  split
  · exact hQ
  · exact hQ

/-- **Set-zero.** Follow one set-zero frame of the host through any run of a device in any state. Up
to the next set-zero frame: every status reports the displacement from the captured position plus the
requested offset; every accepted control frame latches the physical position of that same frame of
reference, so commanding the reported position asks for no displacement; and control frames within
the hold are ignored. Simulation time starts at zero (the firmware reads a negative end of the hold as
"no hold"). -/
theorem set_zero_semantics (h0 : 0 ≤ p.commandId) (h1 : p.commandId ≤ canSffMask)
    (hid : d.firmware.canId = UInt32.ofInt p.commandId)
    (hpositive : 0 < d.firmware.config.setZeroHoldS) (ht0 : 0 ≤ t0)
    (h : ZeroCapture p d ops m s count t0 x) :
    (∀ (n : ℕ) (en : DeviceEntry K) (y : ActuatorFeedbackSample K),
      (trace deviceStep d ops)[n]? = some en → en.input = .feedback y → s ≤ n →
      NoSetZero d ops s n →
      ∃ fw : SPGFirmware K, fw.canId = d.firmware.canId ∧ fw.config = d.firmware.config ∧
        fw.positionPhysicalToMitRad y.positionRad = y.positionRad - x + zeroOffsetRad count ∧
        en.out = en.before.firmware.pendingTxFrames ++
          if en.before.firmware.mitStatusResponsePending then [fw.makeMitStatusFrame y] else []) ∧
    (∀ (n : ℕ) (en : DeviceEntry K) (f : CanFrame) (simTime : K),
      (trace deviceStep d ops)[n]? = some en → en.input = .frame f simTime → s < n →
      NoSetZero d ops s n → controlAccepted en.before.firmware f simTime = true →
      en.after.latched.mode = .impedance ∧ en.after.latched.enabled = true ∧
      en.after.latched.positionRad =
        (SPGFirmware.decodeMitControlFrame d.firmware.config f).pDesRad + x - zeroOffsetRad count ∧
      ∀ x', (SPGFirmware.decodeMitControlFrame d.firmware.config f).pDesRad =
        x' - x + zeroOffsetRad count → en.after.latched.positionRad = x') ∧
    (∀ (n : ℕ) (en : DeviceEntry K) (f : CanFrame) (simTime : K),
      (trace deviceStep d ops)[n]? = some en → en.input = .frame f simTime → m < n →
      NoSetZero d ops m n → opcode f = SPGFirmware.kCmdMITControl →
      simTime < t0 + d.firmware.config.setZeroHoldS →
      en.before.firmware.onCanFrame f simTime = en.before.firmware) := by
  refine ⟨fun n en y hn hy hsn hno => ?_, fun n en f simTime hn hf hsn hno hacc => ?_,
    fun n en f simTime hn hf hmn hno hcode hlt => ?_⟩
  · obtain ⟨⟨hidn, hconfign⟩, -⟩ := identity_run d ops en (List.mem_of_getElem? hn)
    refine ⟨en.before.firmware.updateZeroReferenceIfNeeded y, ?_, ?_, ?_, ?_⟩
    · rw [← hidn]
      unfold SPGFirmware.updateZeroReferenceIfNeeded
      split <;> rfl
    · rw [← hconfign]
      unfold SPGFirmware.updateZeroReferenceIfNeeded
      split <;> rfl
    · rw [SPGFirmware.positionPhysicalToMitRad, h.reference_at_sample h0 h1 hid hn hy hsn hno]
      ring
    · rw [out_eq deviceStep hn, hy]
      simp only [deviceStep, SPGFirmware.makeFeedbackFrames]
      unfold SPGFirmware.updateZeroReferenceIfNeeded
      split <;> rfl
  · obtain ⟨⟨-, hconfign⟩, -⟩ := identity_run d ops en (List.mem_of_getElem? hn)
    have hreference := (h.reference h0 h1 hid hn hsn hno).1
    have hlatched := latched_of_controlAccepted hacc en.before.latched
    have hafter : en.after.latched =
        (deviceOnFrame en.before.firmware en.before.latched f simTime).2 := by
      rw [after_eq deviceStep hn, hf]
      rfl
    rw [hlatched, hconfign] at hafter
    have hposition : en.after.latched.positionRad =
        (SPGFirmware.decodeMitControlFrame d.firmware.config f).pDesRad + x -
          zeroOffsetRad count := by
      rw [hafter]
      show SPGFirmware.positionMitToPhysicalRad _ _ = _
      rw [SPGFirmware.positionMitToPhysicalRad, hreference]
      ring
    refine ⟨by rw [hafter], by rw [hafter], hposition, fun x' hx' => ?_⟩
    rw [hposition, hx']
    ring
  · have hhold := h.hold h0 h1 hid hn hmn hno
    have hin : en.before.firmware.inSetZeroHold simTime = true := by
      simp only [SPGFirmware.inSetZeroHold, hhold, Bool.and_eq_true, decide_eq_true_eq]
      exact ⟨by linarith, hlt⟩
    have hdata : f.data[0] = SPGFirmware.kCmdMITControl := hcode
    unfold SPGFirmware.onCanFrame
    rw [hdata, if_pos (rfl : SPGFirmware.kCmdMITControl = SPGFirmware.kCmdMITControl),
      SPGFirmware.handleMitControl, if_pos hin, ite_self, ite_self]

end Capture

end Host

/-- A motor at id 0x101. -/
private def zeroProtocol : SPGActuatorProtocol ℚ := Controller.twoActuatorConfig.spgProtocol 0x101

/-- Its device, entered. -/
private def zeroDevice : SpgDevice ℚ :=
  { firmware := { canId := 0x101, config := {}, enabled := true } }

/-- Set-zero to 30 degrees, a sample at 2 rad, a control frame after the hold, a second sample. -/
private def zeroOps : List (DeviceOp ℚ) :=
  [.frame ⟨0x101, 8, #v[0xC3, 0, 0, 0, 0, 0, 0xB8, 0x0B]⟩ 1, .feedback ⟨2, 0, 0, 30⟩,
    .frame ⟨0x101, 8, #v[0xC0, 0x80, 0, 0x80, 0, 0, 0, 0x80]⟩ 2, .feedback ⟨5 / 2, 0, 0, 30⟩]

private theorem zeroCapture_ops : ZeroCapture zeroProtocol zeroDevice zeroOps 0 1 3000 1 2 where
  set_zero := ⟨⟨0x101, [0xC3, 0, 0, 0, 0, 0, 0xB8, 0x0B]⟩, _, by decide +kernel,
    by decide +kernel, rfl⟩
  sample := ⟨_, rfl, rfl⟩
  order := by omega
  between := fun k op hk hks => by omega

/-- The status of the second sample, half a radian on, reports 30 degrees and half a radian. -/
theorem set_zero_semantics_thirty :
    ∃ fw : SPGFirmware ℚ, fw.positionPhysicalToMitRad (5 / 2) = 5 / 2 - 2 + zeroOffsetRad 3000 ∧
      ((trace deviceStep zeroDevice zeroOps)[3]?.map Entry.out) =
        some [fw.makeMitStatusFrame ⟨5 / 2, 0, 0, 30⟩] := by
  have hpositive : 0 < zeroDevice.firmware.config.setZeroHoldS := by norm_num [zeroDevice]
  have hno : NoSetZero zeroDevice zeroOps 1 3 := by
    intro k op hk hks hop
    obtain rfl : k = 2 := by omega
    cases hop
    exact Bool.noConfusion
  obtain ⟨fw, -, -, hposition, hout⟩ := (set_zero_semantics (by decide) (by decide) rfl hpositive
    (by norm_num) zeroCapture_ops).1 3 _ ⟨5 / 2, 0, 0, 30⟩ rfl rfl (by omega) hno
  have hacks : (final deviceStep zeroDevice (zeroOps.take 3)).firmware.pendingTxFrames = [] := by
    decide +kernel
  have hstatus : (final deviceStep zeroDevice (zeroOps.take 3)).firmware.mitStatusResponsePending =
    true := by decide +kernel
  refine ⟨fw, hposition, congrArg some (hout.trans ?_)⟩
  show (final deviceStep zeroDevice (zeroOps.take 3)).firmware.pendingTxFrames ++
    (if (final deviceStep zeroDevice (zeroOps.take 3)).firmware.mitStatusResponsePending then
      [fw.makeMitStatusFrame ⟨5 / 2, 0, 0, 30⟩] else []) = _
  rw [hacks, hstatus]
  rfl

end SparqControl.Link
