/-
# SparqControl.SparqCan.Feedback — which frames reach which motor.

Two laws of the receive path of the process `main` starts.

`feedback_delivered_iff`: every motor holds the decoding of the latest frame that carries its id, and
a frame for one motor changes no other, EXCEPT for the right rear knee: its id is `0x33 = 51 = MaxID`,
the table rejects it, and its feedback stays at zero whatever it sends.

`genuine_runs`: the loops look at the error bits and the motor byte of the id, never at the
extended-id flag or the communication type. A run in which every frame is a status frame, or carries
neither error bits nor the byte of a registered motor, changes feedback and ends the loop for the
right reasons only; each other frame breaks this in some run.
-/
import SparqControl.SparqCan.MotorProcess

namespace SparqControl.SparqCan

open SparqControl.Hal
open SparqControl.Lib.Trace

/-- The joint whose id the table has no place for. -/
def rightRearKnee : Joint := ⟨.rightRear, .kneePitch⟩

section Table

variable {K : Type} [Field K] [LinearOrder K] (mPi : MPi K)

/-- The table `CAN_Comm_thread` builds. -/
def mainHandler : RxHandler maxID := RxHandler.new maxID (sparQ mPi Joint.mainOrder)

/-- The address of a joint's motor. -/
def Joint.ref (j : Joint) : MotorRef := ⟨.RS02, Joint.mainOrder.idxOf j⟩

theorem Joint.mem_mainOrder (j : Joint) : j ∈ Joint.mainOrder := by
  have hall : ∀ j ∈ Joint.all, j ∈ Joint.mainOrder := by decide
  exact hall j j.mem_all

theorem Joint.ref_inj {j j' : Joint} (h : j.ref = j'.ref) : j = j' := by
  have hidx : Joint.mainOrder.idxOf j = Joint.mainOrder.idxOf j' := congrArg MotorRef.index h
  exact (List.idxOf_inj j.mem_mainOrder).mp hidx

/-- Every motor of the process is a joint's. -/
theorem exists_joint_of_motor? {r : MotorRef} {m : RobstrideMotor K r.type}
    (hm : (sparQ mPi Joint.mainOrder).motor? r = some m) :
    ∃ j : Joint, r = j.ref ∧ m.canId = j.canId := by
  obtain ⟨t, i⟩ := r
  cases t with
  | RS02 =>
      have hm' : (Joint.mainOrder.map (Joint.motor mPi))[i]? = some m := hm
      rw [List.getElem?_map] at hm'
      obtain ⟨j, hj, rfl⟩ := Option.map_eq_some_iff.mp hm'
      obtain ⟨hlt, hget⟩ := List.getElem?_eq_some_iff.mp hj
      have hnodup : Joint.mainOrder.Nodup := by decide
      refine ⟨j, ?_, rfl⟩
      rw [Joint.ref, ← hget, hnodup.idxOf_getElem]
  | RS00 => cases hm
  | RS01 => cases hm
  | RS03 => cases hm
  | RS04 => cases hm
  | RS05 => cases hm
  | RS06 => cases hm
  | EL05 => cases hm

theorem canId?_ref (j : Joint) : (sparQ mPi Joint.mainOrder).canId? j.ref = some j.canId := by
  have hm := motor?_sparQ mPi j.mem_mainOrder
  unfold MotorCon.canId?
  rw [show (sparQ mPi Joint.mainOrder).motor? j.ref = some (j.motor mPi) from hm]
  rfl

theorem exists_joint_of_canId? {r : MotorRef} {id : Int32}
    (hid : (sparQ mPi Joint.mainOrder).canId? r = some id) :
    ∃ j : Joint, r = j.ref ∧ id = j.canId := by
  obtain ⟨m, hm, rfl⟩ := Option.map_eq_some_iff.mp hid
  obtain ⟨j, hr, hcan⟩ := exists_joint_of_motor? mPi hm
  exact ⟨j, hr, hcan⟩

theorem distinctIds_main : (sparQ mPi Joint.mainOrder).DistinctIds := by
  intro r r' id hr hr'
  obtain ⟨j, rfl, rfl⟩ := exists_joint_of_canId? mPi hr
  obtain ⟨j', rfl, hid⟩ := exists_joint_of_canId? mPi hr'
  rw [Joint.canId_inj hid]

/-- All joints but one have a place in the table. -/
theorem Joint.canId_toNat (j : Joint) :
    j.canId.toInt = j.canId.toUInt32.toNat ∧
      (j.canId.toUInt32.toNat < maxID ↔ j ≠ rightRearKnee) := by
  have hall : ∀ j ∈ Joint.all, j.canId.toInt = j.canId.toUInt32.toNat ∧
      (j.canId.toUInt32.toNat < maxID ↔ j ≠ rightRearKnee) := by decide
  exact hall j j.mem_all

/-- **Where a frame goes.** To the joint whose id it carries, unless that is the right rear knee. -/
theorem target_main_iff {f : LinuxCanFrame} {r : MotorRef} :
    (mainHandler mPi).target (motorIdOf f).toNat = some r ↔
      ∃ j : Joint, j ≠ rightRearKnee ∧ r = j.ref ∧ motorIdOf f = j.canId.toUInt32 := by
  unfold mainHandler
  rw [RxHandler.target_new_iff (distinctIds_main mPi)]
  constructor
  · rintro ⟨hlt, id, hr, hid⟩
    obtain ⟨j, rfl, rfl⟩ := exists_joint_of_canId? mPi hr
    rw [j.canId_toNat.1] at hid
    have hnat : (motorIdOf f).toNat = j.canId.toUInt32.toNat := by exact_mod_cast hid.symm
    refine ⟨j, j.canId_toNat.2.mp (hnat ▸ hlt), rfl, UInt32.toNat_inj.mp hnat⟩
  · rintro ⟨j, hj, rfl, hid⟩
    rw [hid]
    exact ⟨j.canId_toNat.2.mpr hj, j.canId, canId?_ref mPi j, j.canId_toNat.1⟩

theorem target_ref_iff {f : LinuxCanFrame} {j : Joint} :
    (mainHandler mPi).target (motorIdOf f).toNat = some j.ref ↔
      j ≠ rightRearKnee ∧ motorIdOf f = j.canId.toUInt32 := by
  rw [target_main_iff]
  constructor
  · rintro ⟨j', hj', href, hid⟩
    rw [Joint.ref_inj href]
    exact ⟨hj', hid⟩
  · rintro ⟨hj, hid⟩
    exact ⟨j, hj, rfl, hid⟩

end Table

/-! ## Delivery -/

/-- The motor of a joint. -/
def MotorCon.joint? {K : Type} (mc : MotorCon K) (j : Joint) : Option (RobstrideMotor K .RS02) :=
  mc.motor? j.ref

section Delivery

variable {K : Type} [Field K] [LinearOrder K] (mPi : MPi K)

theorem joint?_sparQ (j : Joint) :
    (sparQ mPi Joint.mainOrder).joint? j = some (j.motor mPi) :=
  motor?_sparQ mPi j.mem_mainOrder

variable [IsStrictOrderedRing K]

/-- A received frame as a step of the motors. -/
def deliverStep (mc : MotorCon K) (f : LinuxCanFrame) : MotorCon K × Unit :=
  ((mainHandler mPi).deliver mPi mc f, ())

/-- The motors after a sequence of frames. -/
def delivered (frames : List LinuxCanFrame) : MotorCon K :=
  final (deliverStep mPi) (sparQ mPi Joint.mainOrder) frames

/-- The latest frame that carries a joint's id. -/
def latestFrame (j : Joint) (frames : List LinuxCanFrame) : Option LinuxCanFrame :=
  latest (fun f => if motorIdOf f = j.canId.toUInt32 then some f else none) frames

/-- Feedback of a motor that has sent nothing. -/
def noFeedback : FeedbackParam K := ⟨0, 0, 0, 0⟩

/-- **Feedback reaches the right motor.** Every motor holds the decoding of the latest frame with its
id, zeros without one; a frame with another id leaves it alone. -/
def FeedbackDelivered (frames : List LinuxCanFrame) : Prop :=
  (∀ j : Joint, ((delivered mPi frames).joint? j).map RobstrideMotor.feedbackParam =
    some (((latestFrame j frames).map (decodeStatus mPi .RS02)).getD noFeedback)) ∧
  ∀ n f (j : Joint), frames[n]? = some f → motorIdOf f ≠ j.canId.toUInt32 →
    (delivered mPi (frames.take (n + 1))).joint? j = (delivered mPi (frames.take n)).joint? j

/-- A status frame that says zero in every field. -/
def SaysZero (f : LinuxCanFrame) : Prop :=
  readU16Be f.data 0 = 0x7FFF ∧ readU16Be f.data 2 = 0x7FFF ∧ readU16Be f.data 4 = 0x7FFF ∧
    readU16Be f.data 6 = 0

theorem decodeStatus_eq_zero_iff {t : RobstrideMotorType} {f : LinuxCanFrame} :
    decodeStatus mPi t f = noFeedback ↔ SaysZero f := by
  have hcode : ∀ (raw : UInt16) {scale : K}, 0 < scale →
      (((raw.toNat : K) / (32767 : ℕ) - 1) * scale = 0 ↔ raw = 0x7FFF) := by
    intro raw scale hscale
    rw [mul_eq_zero, or_iff_left hscale.ne', sub_eq_zero, div_eq_one_iff_eq (by norm_num),
      Nat.cast_inj]
    constructor
    · intro hraw
      exact UInt16.toNat_inj.mp hraw
    · rintro rfl
      rfl
  have htemp : ∀ raw : UInt16, ((raw.toNat : K) * 0.1 = 0 ↔ raw = 0) := by
    intro raw
    rw [mul_eq_zero, or_iff_left (by norm_num), Nat.cast_eq_zero]
    constructor
    · intro hraw
      exact UInt16.toNat_inj.mp hraw
    · rintro rfl
      rfl
  unfold decodeStatus noFeedback SaysZero
  rw [FeedbackParam.mk.injEq, hcode _ (motorConstants mPi t).posScale_pos,
    hcode _ (motorConstants mPi t).velScale_pos, hcode _ (motorConstants mPi t).tqScale_pos, htemp]

/-- **One delivery, joint by joint.** -/
theorem joint?_deliver (mc : MotorCon K) (f : LinuxCanFrame) (j : Joint) :
    ((mainHandler mPi).deliver mPi mc f).joint? j = (mc.joint? j).map fun m =>
      if j ≠ rightRearKnee ∧ motorIdOf f = j.canId.toUInt32 then
        { m with feedbackParam := decodeStatus mPi .RS02 f }
      else m := by
  unfold MotorCon.joint?
  rw [RxHandler.motor?_deliver]
  simp only [target_ref_iff]
  rfl

/-- The right rear knee hears nothing. -/
theorem delivered_rightRearKnee (frames : List LinuxCanFrame) :
    (delivered mPi frames).joint? rightRearKnee = some (rightRearKnee.motor mPi) := by
  refine final_invariant (P := fun mc : MotorCon K =>
    mc.joint? rightRearKnee = some (rightRearKnee.motor mPi)) ?_ ?_ frames
  · intro mc f hmc
    show ((mainHandler mPi).deliver mPi mc f).joint? rightRearKnee = _
    rw [joint?_deliver, hmc, Option.map_some, if_neg fun hne => hne.1 rfl]
  · exact joint?_sparQ mPi rightRearKnee

/-- Every other motor holds the decoding of the latest frame with its id. -/
theorem feedback_delivered {j : Joint} (hj : j ≠ rightRearKnee) (frames : List LinuxCanFrame) :
    ((delivered mPi frames).joint? j).map RobstrideMotor.feedbackParam =
      some (((latestFrame j frames).map (decodeStatus mPi .RS02)).getD noFeedback) := by
  -- a motor that is there stays there, and takes what a frame with its id says
  have hthere : ∀ (mc : MotorCon K) (f : LinuxCanFrame), (∃ m, mc.joint? j = some m) → True →
      ∃ m, (deliverStep mPi mc f).1.joint? j = some m := by
    rintro mc f ⟨m, hm⟩ -
    exact ⟨_, by rw [deliverStep, joint?_deliver, hm, Option.map_some]⟩
  have htakes : ∀ (mc : MotorCon K) (f : LinuxCanFrame), (∃ m, mc.joint? j = some m) → True →
      ((deliverStep mPi mc f).1.joint? j).map RobstrideMotor.feedbackParam =
        (((if motorIdOf f = j.canId.toUInt32 then some f else none).map fun f =>
          some (decodeStatus mPi .RS02 f)).getD ((mc.joint? j).map RobstrideMotor.feedbackParam)) := by
    rintro mc f ⟨m, hm⟩ -
    rw [deliverStep, joint?_deliver, hm]
    by_cases hid : motorIdOf f = j.canId.toUInt32
    · simp [hj, hid]
    · simp [hid]
  have hlatest := final_latest hthere
    (f := fun mc : MotorCon K => (mc.joint? j).map RobstrideMotor.feedbackParam) htakes
    ⟨_, joint?_sparQ mPi j⟩ frames fun _ _ => trivial
  rw [latest_map, joint?_sparQ] at hlatest
  show ((final (deliverStep mPi) (sparQ mPi Joint.mainOrder) frames).joint? j).map _ = _
  rw [hlatest, latestFrame]
  cases latest _ frames <;> rfl

/-- **Exactly when feedback reaches the right motor**: when the right rear knee sent nothing, or last
said zero. -/
theorem feedback_delivered_iff (frames : List LinuxCanFrame) :
    FeedbackDelivered mPi frames ↔
      ∀ f, latestFrame rightRearKnee frames = some f → SaysZero f := by
  have hknee : ((delivered mPi frames).joint? rightRearKnee).map RobstrideMotor.feedbackParam =
      some noFeedback := by
    rw [delivered_rightRearKnee]
    rfl
  constructor
  · rintro ⟨hall, -⟩ f hf
    have h := hall rightRearKnee
    rw [hknee, hf] at h
    exact (decodeStatus_eq_zero_iff mPi).mp (Option.some.inj h).symm
  · intro hzero
    constructor
    · intro j
      by_cases hj : j = rightRearKnee
      · subst hj
        rw [hknee]
        cases hf : latestFrame rightRearKnee frames with
        | none => rfl
        | some f => exact congrArg some ((decodeStatus_eq_zero_iff mPi).mpr (hzero f hf)).symm
      · exact feedback_delivered mPi hj frames
    · intro n f j hn hne
      have htake : frames.take (n + 1) = frames.take n ++ [f] := by
        rw [List.take_add_one, hn]
        rfl
      unfold delivered
      rw [htake, final_concat]
      show ((mainHandler mPi).deliver mPi _ f).joint? j = _
      rw [joint?_deliver]
      simp [hne]

/-- The right rear knee at its lower stop, as a status frame. -/
def kneeStatus : LinuxCanFrame := ⟨0x82003300, 8, ljust8 [0, 0, 0x7F, 0xFF, 0x7F, 0xFF, 0, 250]⟩

end Delivery

/-- A status of the left front hip reaches its motor. -/
theorem feedback_delivered_hip :
    FeedbackDelivered (MPi.double : MPi ℚ) [⟨0x82000100, 8, ljust8 [0, 0, 0x7F, 0xFF]⟩] := by
  apply (feedback_delivered_iff (MPi.double : MPi ℚ) _).mpr
  intro f hf
  have hnone : latestFrame rightRearKnee [⟨0x82000100, 8, ljust8 [0, 0, 0x7F, 0xFF]⟩] = none := by
    decide
  rw [hnone] at hf
  cases hf

/-- What the right rear knee says is lost. -/
theorem knee_feedback_lost : ¬ FeedbackDelivered (MPi.double : MPi ℚ) [kneeStatus] := by
  rintro ⟨hall, -⟩
  have h := hall rightRearKnee
  rw [delivered_rightRearKnee] at h
  have hlatest : latestFrame rightRearKnee [kneeStatus] = some kneeStatus := by decide
  rw [hlatest] at h
  have hzero := (decodeStatus_eq_zero_iff MPi.double).mp (Option.some.inj h).symm
  exact absurd hzero.1 (by decide)

/-! ## Genuine frames -/

/-- A status frame of the motors' protocol: extended id, communication type 2. -/
def isStatus (f : LinuxCanFrame) : Bool := isExtended f && commType f == 2

/-- The frame's motor byte leads to a motor. -/
def RxHandler.Registered {maxId : ℕ} (h : RxHandler maxId) (f : LinuxCanFrame) : Prop :=
  (h.target (motorIdOf f).toNat).isSome = true

/-- **Only genuine frames count**, at one step: feedback changes on a status frame without error bits
only, the thread ends on a status frame of a registered motor with error bits only. -/
def OnlyGenuine {K : Type} {maxId : ℕ} (h : RxHandler maxId)
    (e : Entry (SparqState K) (SparqEvent K) (List LinuxCanFrame)) : Prop :=
  ∀ f, e.input = .frame f →
    (∀ r, (e.after.mc.motor? r).map RobstrideMotor.feedbackParam ≠
        (e.before.mc.motor? r).map RobstrideMotor.feedbackParam →
      isStatus f = true ∧ errorBits f = 0) ∧
    (e.after.phase ≠ e.before.phase →
      isStatus f = true ∧ errorBits f ≠ 0 ∧ h.Registered f)

/-- A frame the loops cannot take for something else: a status frame whose error bits, if any, are a
registered motor's, or a frame with neither error bits nor the byte of a registered motor. -/
def RxHandler.Unmistakable {maxId : ℕ} (h : RxHandler maxId) (f : LinuxCanFrame) : Prop :=
  (isStatus f = true ∧ (errorBits f = 0 ∨ h.Registered f)) ∨ (errorBits f = 0 ∧ ¬ h.Registered f)

section Genuine

variable {K : Type} [Field K] [LinearOrder K] [IsStrictOrderedRing K] (mPi : MPi K)
  {maxId : ℕ} (h : RxHandler maxId)

/-- Only error bits in the control loop change the phase on a frame. -/
theorem receive_phase {s : SparqState K} {f : LinuxCanFrame}
    (hphase : (receive mPi h s f).phase ≠ s.phase) : s.phase = .control ∧ errorBits f ≠ 0 := by
  have herr : (parseRxFrame f : StatusReading K).errSt = errorBits f := rfl
  unfold receive at hphase
  rw [herr] at hphase
  cases hp : s.phase with
  | draining => simp [hp] at hphase
  | calibrating =>
      by_cases h0 : errorBits f = 0
      · simp [hp, h0] at hphase
      · simp [hp, h0] at hphase
  | control =>
      by_cases h0 : errorBits f = 0
      · simp [hp, h0] at hphase
      · exact ⟨rfl, h0⟩
  | ended => simp [hp] at hphase

variable [FloorRing K]

/-- An unmistakable frame is taken for what it is, in every state. -/
theorem onlyGenuine_of_unmistakable (s : SparqState K) (e : SparqEvent K)
    (he : ∀ f, e = .frame f → h.Unmistakable f) : OnlyGenuine h (entry (sparqStep mPi h) s e) := by
  intro f hf
  have hclean := he f hf
  simp only [entry_input] at hf
  subst hf
  constructor
  · intro r hchanged
    have hstep : (receive mPi h s f).mc ≠ s.mc := by
      intro hsame
      apply hchanged
      show ((receive mPi h s f).mc.motor? r).map _ = _
      rw [hsame]
      rfl
    obtain ⟨h0, -, hmc⟩ := (receive_mc mPi h s f).resolve_left hstep
    -- feedback changes at the target only, so the frame leads to a motor
    have htarget : h.Registered f := by
      by_contra hnot
      apply hchanged
      have hnone : h.target (motorIdOf f).toNat ≠ some r := by
        intro hsome
        exact hnot (by rw [RxHandler.Registered, hsome]; rfl)
      show ((receive mPi h s f).mc.motor? r).map _ = (s.mc.motor? r).map _
      rw [hmc, h.motor?_deliver]
      simp [hnone]
    refine ⟨?_, h0⟩
    rcases hclean with ⟨hstatus, -⟩ | ⟨-, hnot⟩
    · exact hstatus
    · exact absurd htarget hnot
  · intro hphase
    obtain ⟨-, herr⟩ := receive_phase mPi h hphase
    rcases hclean with ⟨hstatus, h0 | hreg⟩ | ⟨h0, -⟩
    · exact absurd h0 herr
    · exact ⟨hstatus, herr, hreg⟩
    · exact absurd h0 herr

end Genuine

/-! ## Frames that are taken for something else -/

/-- The id of an error-free status frame of a joint's motor. -/
def Joint.statusId (j : Joint) : UInt32 := (0x82000000 : UInt32) ||| (j.canId.toUInt32 <<< 8)

/-- A status frame of a joint's motor with the given position code. -/
def positionStatus (j : Joint) (code : UInt16) : LinuxCanFrame :=
  ⟨j.statusId, 8, ljust8 (packU16Be code)⟩

theorem positionStatus_read (j : Joint) (code : UInt16) :
    isStatus (positionStatus j code) = true ∧ errorBits (positionStatus j code) = 0 ∧
      motorIdOf (positionStatus j code) = j.canId.toUInt32 ∧
      readU16Be (positionStatus j code).data 0 = code := by
  have hall : ∀ j ∈ Joint.all, isStatus ⟨j.statusId, 8, ljust8 []⟩ = true ∧
      errorBits ⟨j.statusId, 8, ljust8 []⟩ = 0 ∧
      motorIdOf ⟨j.statusId, 8, ljust8 []⟩ = j.canId.toUInt32 := by decide
  -- the three readings look at the id only
  obtain ⟨hstatus, herr, hid⟩ := hall j j.mem_all
  exact ⟨hstatus, herr, hid, word_packU16Be code⟩

section Mistaken

variable {K : Type} [Field K] [LinearOrder K] [IsStrictOrderedRing K] (mPi : MPi K)

theorem receive_calibrating {maxId : ℕ} (h : RxHandler maxId) {s : SparqState K} {f : LinuxCanFrame}
    (hphase : s.phase = .calibrating) (h0 : errorBits f = 0) :
    receive mPi h s f = { s with mc := h.deliver mPi s.mc f } := by
  have herr : (parseRxFrame f : StatusReading K).errSt = 0 := h0
  unfold receive
  rw [hphase]
  exact if_pos herr

theorem receive_control_error {maxId : ℕ} (h : RxHandler maxId) {s : SparqState K}
    {f : LinuxCanFrame} (hphase : s.phase = .control) (h0 : errorBits f ≠ 0) :
    receive mPi h s f = { s with phase := .ended } := by
  have herr : (parseRxFrame f : StatusReading K).errSt ≠ 0 := h0
  unfold receive
  rw [hphase]
  exact if_pos herr

/-- Different position codes are different positions. -/
theorem decodeStatus_pos_inj {t : RobstrideMotorType} {f g : LinuxCanFrame}
    (heq : decodeStatus mPi t f = decodeStatus mPi t g) :
    readU16Be f.data 0 = readU16Be g.data 0 := by
  have hpos := congrArg FeedbackParam.pos heq
  have hscale := (motorConstants mPi t).posScale_pos.ne'
  have h32767 : ((32767 : ℕ) : K) ≠ 0 := by norm_num
  simp only [decodeStatus] at hpos
  have hnat := (div_left_inj' h32767).mp (sub_left_inj.mp (mul_right_cancel₀ hscale hpos))
  exact UInt16.toNat_inj.mp (Nat.cast_injective hnat)

variable [FloorRing K]

omit [FloorRing K] in
/-- What a frame with a joint's id leaves in its feedback. -/
theorem feedbackParam_deliver {j : Joint} (hj : j ≠ rightRearKnee) {mc : MotorCon K}
    (hm : ∃ m, mc.joint? j = some m) {f : LinuxCanFrame} (hid : motorIdOf f = j.canId.toUInt32) :
    (((mainHandler mPi).deliver mPi mc f).joint? j).map RobstrideMotor.feedbackParam =
      some (decodeStatus mPi .RS02 f) := by
  obtain ⟨m, hm⟩ := hm
  rw [joint?_deliver, hm, Option.map_some, if_pos ⟨hj, hid⟩]
  rfl

/-- A frame without error bits that is no status frame and leads to a joint's motor changes its
feedback, once the motor was told another position. -/
theorem foreign_frame_mistaken {f : LinuxCanFrame} (h0 : errorBits f = 0) (hforeign : isStatus f ≠ true)
    {j : Joint} (hj : j ≠ rightRearKnee) (hid : motorIdOf f = j.canId.toUInt32) {code : UInt16}
    (hcode : code ≠ readU16Be f.data 0) :
    ¬ OnlyGenuine (mainHandler mPi) (entry (sparqStep mPi (mainHandler mPi))
      (final (sparqStep mPi (mainHandler mPi)) (sparqStart mPi Joint.mainOrder)
        [.zeroGain, .frame (positionStatus j code)]) (.frame f)) := by
  obtain ⟨-, herr, hid', hpos⟩ := positionStatus_read j code
  have hfirst : final (sparqStep mPi (mainHandler mPi)) (sparqStart mPi Joint.mainOrder)
      [.zeroGain, .frame (positionStatus j code)] =
      ⟨(mainHandler mPi).deliver mPi (sparQ mPi Joint.mainOrder) (positionStatus j code),
        .calibrating⟩ :=
    receive_calibrating mPi (mainHandler mPi)
      (s := ⟨sparQ mPi Joint.mainOrder, .calibrating⟩) rfl herr
  have hbefore := feedbackParam_deliver mPi hj ⟨_, joint?_sparQ mPi j⟩ hid'
  obtain ⟨m, hm, -⟩ := Option.map_eq_some_iff.mp hbefore
  have hafter := feedbackParam_deliver mPi hj ⟨m, hm⟩ hid
  intro hgenuine
  rw [hfirst] at hgenuine
  have hchanged : ((receive mPi (mainHandler mPi) ⟨(mainHandler mPi).deliver mPi
        (sparQ mPi Joint.mainOrder) (positionStatus j code), .calibrating⟩ f).mc.joint? j).map
        RobstrideMotor.feedbackParam ≠
      (((mainHandler mPi).deliver mPi (sparQ mPi Joint.mainOrder)
        (positionStatus j code)).joint? j).map RobstrideMotor.feedbackParam := by
    rw [receive_calibrating mPi (mainHandler mPi) rfl h0, hafter, hbefore]
    intro heq
    have hsame := decodeStatus_pos_inj mPi (Option.some.inj heq)
    rw [hpos] at hsame
    exact hcode hsame.symm
  exact hforeign ((hgenuine f rfl).1 j.ref hchanged).1

/-- A frame with error bits ends the control loop; only a status frame of a registered motor may. -/
theorem error_frame_mistaken {f : LinuxCanFrame} (h0 : errorBits f ≠ 0)
    (hforeign : ¬ (isStatus f = true ∧ (mainHandler mPi).Registered f)) :
    ¬ OnlyGenuine (mainHandler mPi) (entry (sparqStep mPi (mainHandler mPi))
      (final (sparqStep mPi (mainHandler mPi)) (sparqStart mPi Joint.mainOrder)
        [.zeroGain, .calibrate]) (.frame f)) := by
  intro hgenuine
  have hended := receive_control_error mPi (mainHandler mPi) (f := f)
    (s := final (sparqStep mPi (mainHandler mPi)) (sparqStart mPi Joint.mainOrder)
      [.zeroGain, .calibrate]) rfl h0
  have hphase : (receive mPi (mainHandler mPi) (final (sparqStep mPi (mainHandler mPi))
      (sparqStart mPi Joint.mainOrder) [.zeroGain, .calibrate]) f).phase ≠ .control := by
    rw [hended]
    intro hcontrol
    cases hcontrol
  obtain ⟨hstatus, -, hreg⟩ := (hgenuine f rfl).2 hphase
  exact hforeign ⟨hstatus, hreg⟩

/-- **Every mistakable frame is mistaken in some state** that unmistakable frames lead to. -/
theorem mistaken_in_run {f : LinuxCanFrame} (hf : ¬ (mainHandler mPi).Unmistakable f) :
    ∃ es : List (SparqEvent K), (∀ g, .frame g ∈ es → (mainHandler mPi).Unmistakable g) ∧
      ¬ OnlyGenuine (mainHandler mPi) (entry (sparqStep mPi (mainHandler mPi))
        (final (sparqStep mPi (mainHandler mPi)) (sparqStart mPi Joint.mainOrder) es)
        (.frame f)) := by
  by_cases h0 : errorBits f = 0
  · have hreg : (mainHandler mPi).Registered f := by
      by_contra hnot
      exact hf (Or.inr ⟨h0, hnot⟩)
    have hforeign : isStatus f ≠ true := fun hs => hf (Or.inl ⟨hs, Or.inl h0⟩)
    obtain ⟨r, hr⟩ := Option.isSome_iff_exists.mp hreg
    obtain ⟨j, hj, rfl, hid⟩ := (target_main_iff mPi).mp hr
    obtain ⟨code, hcode⟩ : ∃ code : UInt16, code ≠ readU16Be f.data 0 := by
      by_cases hzero : readU16Be f.data 0 = 0
      · exact ⟨1, by rw [hzero]; decide⟩
      · exact ⟨0, Ne.symm hzero⟩
    obtain ⟨hstatus, herr, -, -⟩ := positionStatus_read j code
    refine ⟨[.zeroGain, .frame (positionStatus j code)], ?_,
      foreign_frame_mistaken mPi h0 hforeign hj hid hcode⟩
    intro g hg
    have hg' : g = positionStatus j code := by
      simpa using hg
    rw [hg']
    exact Or.inl ⟨hstatus, Or.inl herr⟩
  · refine ⟨[.zeroGain, .calibrate], ?_, error_frame_mistaken mPi h0 ?_⟩
    · intro g hg
      simp at hg
    · rintro ⟨hstatus, hreg⟩
      exact hf (Or.inl ⟨hstatus, Or.inr hreg⟩)

/-- **Runs of genuine frames.** As long as every frame is unmistakable, feedback changes and the
control loop ends for genuine frames only; and no frame can be let off: each mistakable one is taken
for a status frame in some state such a run reaches. -/
theorem genuine_runs :
    (∀ es : List (SparqEvent K), (∀ f, .frame f ∈ es → (mainHandler mPi).Unmistakable f) →
      ∀ e ∈ trace (sparqStep mPi (mainHandler mPi)) (sparqStart mPi Joint.mainOrder) es,
        OnlyGenuine (mainHandler mPi) e) ∧
    ∀ f, ¬ (mainHandler mPi).Unmistakable f →
      ∃ es : List (SparqEvent K), (∀ g, .frame g ∈ es → (mainHandler mPi).Unmistakable g) ∧
        ¬ OnlyGenuine (mainHandler mPi) (entry (sparqStep mPi (mainHandler mPi))
          (final (sparqStep mPi (mainHandler mPi)) (sparqStart mPi Joint.mainOrder) es)
          (.frame f)) := by
  constructor
  · intro es hes e he
    rw [eq_entry_of_mem _ he]
    apply onlyGenuine_of_unmistakable
    intro f hf
    exact hes f (hf ▸ input_mem_of_mem _ he)
  · intro f hf
    exact mistaken_in_run mPi hf

end Mistaken

/-- A run with one status frame. -/
theorem genuine_runs_status :
    (mainHandler (MPi.double : MPi ℚ)).Unmistakable (positionStatus ⟨.leftFront, .hipRoll⟩ 0) ∧
      ∀ e ∈ trace (sparqStep (MPi.double : MPi ℚ) (mainHandler (MPi.double : MPi ℚ)))
        (sparqStart (MPi.double : MPi ℚ) Joint.mainOrder)
        [.zeroGain, .frame (positionStatus ⟨.leftFront, .hipRoll⟩ 0), .calibrate],
        OnlyGenuine (mainHandler (MPi.double : MPi ℚ)) e := by
  have hstatus : (mainHandler (MPi.double : MPi ℚ)).Unmistakable
      (positionStatus ⟨.leftFront, .hipRoll⟩ 0) := by
    obtain ⟨hstatus, herr, -, -⟩ := positionStatus_read ⟨.leftFront, .hipRoll⟩ 0
    exact Or.inl ⟨hstatus, Or.inl herr⟩
  refine ⟨hstatus, (genuine_runs (MPi.double : MPi ℚ)).1 _ ?_⟩
  intro f hf
  have hf' : f = positionStatus ⟨.leftFront, .hipRoll⟩ 0 := by
    simpa using hf
  rw [hf']
  exact hstatus

/-- A frame with the standard id `0x100` and eight zero bytes. -/
def standardFrame : LinuxCanFrame := ⟨0x100, 8, ljust8 []⟩

/-- It is taken for the left front hip roll at its lower stop. -/
theorem standard_frame_taken :
    ¬ OnlyGenuine (mainHandler (MPi.double : MPi ℚ)) (entry
      (sparqStep (MPi.double : MPi ℚ) (mainHandler (MPi.double : MPi ℚ)))
      (final (sparqStep (MPi.double : MPi ℚ) (mainHandler (MPi.double : MPi ℚ)))
        (sparqStart (MPi.double : MPi ℚ) Joint.mainOrder) [.zeroGain]) (.frame standardFrame)) := by
  intro hgenuine
  have hchanged : ((receive (MPi.double : MPi ℚ) (mainHandler (MPi.double : MPi ℚ))
        ⟨sparQ (MPi.double : MPi ℚ) Joint.mainOrder, .calibrating⟩ standardFrame).mc.joint?
          ⟨.leftFront, .hipRoll⟩).map RobstrideMotor.feedbackParam ≠
      ((sparQ (MPi.double : MPi ℚ) Joint.mainOrder).joint? ⟨.leftFront, .hipRoll⟩).map
        RobstrideMotor.feedbackParam := by
    rw [receive_calibrating (MPi.double : MPi ℚ) _ rfl (by decide), joint?_deliver, joint?_sparQ,
      Option.map_some, if_pos (by decide)]
    intro heq
    have hzero := (decodeStatus_eq_zero_iff (MPi.double : MPi ℚ)).mp (Option.some.inj heq)
    exact absurd hzero.1 (by decide)
  exact absurd ((hgenuine standardFrame rfl).1 (Joint.ref ⟨.leftFront, .hipRoll⟩) hchanged).1
    (by decide)

end SparqControl.SparqCan
