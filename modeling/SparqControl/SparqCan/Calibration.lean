/-
# SparqControl.SparqCan.Calibration — what the calibration pass counts its turns from.

`calibrate` takes the whole turns off the position it finds in the feedback cell, then the mechanical
offset. Given a real reading this is bumpless (`bumpless_calibration`): the reported position lies
within half a turn of the mechanical zero, and commanding the reported position sends the motor its own
position code.

The pass does not ask where the reading came from. The cells start at zero, silence and error frames
leave them there, and every motor is marked calibrated and sent operation frames all the same.
`real_feedback_iff` says when the outcome is nevertheless right: when every motor, the right rear knee
included, sent an error-free status frame in the interval and that frame's turns are those of the cell.
-/
import SparqControl.SparqCan.Feedback

namespace SparqControl.SparqCan

open SparqControl.Hal
open SparqControl.Lib.Trace SparqControl.Lib.Quantize

/-! ## One motor -/

section Motor

variable {K : Type} [Field K] [LinearOrder K] [IsStrictOrderedRing K] (mPi : MPi K)
  {t : RobstrideMotorType}

/-- A motor after `parse_Rx_frame` and `write_FB` of a frame. -/
def RobstrideMotor.hear (m : RobstrideMotor K t) (f : LinuxCanFrame) : RobstrideMotor K t :=
  let reading : StatusReading K := parseRxFrame f
  m.writeFB mPi reading.pos reading.vel reading.torq reading.temp

theorem RobstrideMotor.hear_eq (m : RobstrideMotor K t) (f : LinuxCanFrame) :
    m.hear mPi f = { m with feedbackParam := decodeStatus mPi t f } := by
  simp only [RobstrideMotor.hear, RobstrideMotor.writeFB, parseRxFrame, normalised_eq, decodeStatus]

variable [FloorRing K]

/-- The whole turns of a position, to the nearest. -/
def turns (pos : K) : ℤ := roundHalfAway (pos / (2.0 * mPi.val))

omit [IsStrictOrderedRing K] in
theorem RobstrideMotor.posOffset_calibrate (m : RobstrideMotor K t) :
    (m.calibrate mPi 0).posOffset =
      -(turns mPi m.feedbackParam.pos : K) * (2.0 * mPi.val) - m.posOffsetMech := by
  unfold RobstrideMotor.calibrate turns
  rw [sub_zero]

/-- Without its turns, a position is within half a turn of zero. -/
theorem abs_sub_turns_le (pos : K) : |pos - turns mPi pos * (2.0 * mPi.val)| ≤ mPi.val := by
  have hturn := mPi.turn_pos
  have hhalf : (1 / 2 : K) * (2.0 * mPi.val) = mPi.val := by
    norm_num
    ring
  calc |pos - turns mPi pos * (2.0 * mPi.val)|
      = |((turns mPi pos : K) - pos / (2.0 * mPi.val)) * (2.0 * mPi.val)| := by
        rw [sub_mul, div_mul_cancel₀ _ hturn.ne', abs_sub_comm]
    _ = |(turns mPi pos : K) - pos / (2.0 * mPi.val)| * (2.0 * mPi.val) := by
        rw [abs_mul, abs_of_pos hturn]
    _ ≤ 1 / 2 * (2.0 * mPi.val) :=
        mul_le_mul_of_nonneg_right (abs_roundHalfAway_sub_le _) hturn.le
    _ = mPi.val := hhalf

/-- Offsets with the same mechanical part agree exactly when their turns do. -/
theorem offset_eq_iff {a b : ℤ} (mech : K) :
    -(a : K) * (2.0 * mPi.val) - mech = -(b : K) * (2.0 * mPi.val) - mech ↔ a = b := by
  have hturn := mPi.turn_pos.ne'
  rw [sub_left_inj, mul_left_inj' hturn, neg_inj, Int.cast_inj]

omit [FloorRing K] in
/-- A command within two turns either way is stored as it is. -/
theorem stdClamp_of_abs_le {x hi : K} (h : |x| ≤ hi) : stdClamp x (-hi) hi = x := by
  obtain ⟨hlo, hhi⟩ := abs_le.mp h
  rw [stdClamp, if_neg (not_lt.mpr hlo), if_neg (not_lt.mpr hhi)]

/-- **Bumpless calibration.** After a motor was heard and calibrated, its reported position is within
half a turn of the mechanical zero and differs from reading less mechanical offset by whole turns; and
whatever it says later, commanding the reported position, if the command range holds it, sends the
motor its own position code, or 65534 for the code above it. -/
theorem bumpless_calibration (m : RobstrideMotor K .RS02) (f : LinuxCanFrame) :
    |(reported ((m.hear mPi f).calibrate mPi 0)).pos - -m.posOffsetMech| ≤ mPi.val ∧
    (∃ k : ℤ, (reported ((m.hear mPi f).calibrate mPi 0)).pos =
      (m.hear mPi f).feedbackParam.pos - m.posOffsetMech + k * (2.0 * mPi.val)) ∧
    ∀ (f' : LinuxCanFrame) (slot : ControlParam K),
      slot.pos = (reported (((m.hear mPi f).calibrate mPi 0).hear mPi f')).pos →
      |slot.pos| ≤ 4.0 * mPi.val →
      frameWord ((applySlot mPi slot
        (((m.hear mPi f).calibrate mPi 0).hear mPi f')).writeUpdatedOperationFrame mPi) .pos =
          min (readU16Be f'.data 0).toNat 65534 := by
  have hreported : (reported ((m.hear mPi f).calibrate mPi 0)).pos =
      (m.hear mPi f).feedbackParam.pos -
        turns mPi (m.hear mPi f).feedbackParam.pos * (2.0 * mPi.val) - m.posOffsetMech := by
    show (m.hear mPi f).feedbackParam.pos + ((m.hear mPi f).calibrate mPi 0).posOffset = _
    rw [RobstrideMotor.posOffset_calibrate]
    show _ + (-_ * _ - m.posOffsetMech) = _
    rw [neg_mul, ← add_sub_assoc, ← sub_eq_add_neg]
  refine ⟨?_, ⟨-turns mPi (m.hear mPi f).feedbackParam.pos, ?_⟩, ?_⟩
  · rw [hreported, sub_neg_eq_add, sub_add_cancel]
    exact abs_sub_turns_le mPi _
  · rw [hreported, Int.cast_neg, neg_mul, ← sub_eq_add_neg, sub_right_comm]
  · intro f' slot hslot hrange
    generalize hm' : ((m.hear mPi f).calibrate mPi 0).hear mPi f' = m' at hslot ⊢
    have hraw : m'.feedbackParam.pos =
        (motorConstants mPi .RS02).decodeCode .pos (readU16Be f'.data 0).toNat := by
      rw [← hm', RobstrideMotor.hear_eq]
      rfl
    -- the clamp keeps the command, and the offset cancels
    have hcmd : (applySlot mPi slot m').command .pos =
        (motorConstants mPi .RS02).decodeCode .pos (readU16Be f'.data 0).toNat := by
      show stdClamp slot.pos _ _ - m'.posOffset = _
      rw [stdClamp_of_abs_le hrange, hslot, ← hraw]
      exact add_sub_cancel_right _ _
    have hword := (applySlot mPi slot m').frameWord_pos mPi
    rw [RobstrideMotor.operationCode_of_decodeCode mPi _ hcmd] at hword
    have hlevels : ControlWord.levels .pos = 65534 := rfl
    rw [hlevels] at hword
    omega

end Motor

/-- The highest position code, from the left front hip roll. -/
def topStatus : LinuxCanFrame := positionStatus ⟨.leftFront, .hipRoll⟩ 0xFFFF

/-- A motor calibrated on the highest code and heard again. -/
def topMotor : RobstrideMotor ℚ .RS02 :=
  (((RobstrideMotor.make 0 1 0 : RobstrideMotor ℚ .RS02).hear (MPi.double : MPi ℚ)
    topStatus).calibrate (MPi.double : MPi ℚ) 0).hear (MPi.double : MPi ℚ) topStatus

/-- Told to hold its position, it is sent the last code but one. -/
theorem bumpless_calibration_top :
    frameWord ((applySlot (MPi.double : MPi ℚ) ⟨(reported topMotor).pos, 0, 0, 0, 0⟩
      topMotor).writeUpdatedOperationFrame (MPi.double : MPi ℚ)) .pos = 65534 := by
  obtain ⟨hnear, -, hhold⟩ := bumpless_calibration (MPi.double : MPi ℚ)
    (RobstrideMotor.make 0 1 0 : RobstrideMotor ℚ .RS02) topStatus
  have hrange : |(reported topMotor).pos| ≤ 4.0 * (MPi.double : MPi ℚ).val := by
    have hpi := (MPi.double : MPi ℚ).pos
    have hnear' : |(reported topMotor).pos - -0| ≤ (MPi.double : MPi ℚ).val := hnear
    rw [neg_zero, sub_zero] at hnear'
    refine hnear'.trans ?_
    norm_num
    linarith
  have hword := hhold topStatus ⟨(reported topMotor).pos, 0, 0, 0, 0⟩ rfl hrange
  have hcode : min (readU16Be topStatus.data 0).toNat 65534 = 65534 := by decide
  exact hword.trans hcode

/-! ## The interval before the calibration -/

/-- The frame of an event, if it is an error-free status frame of a joint's motor. -/
def cleanStatus? {K : Type} (j : Joint) : SparqEvent K → Option LinuxCanFrame
  | .frame f =>
      if isStatus f = true ∧ errorBits f = 0 ∧ motorIdOf f = j.canId.toUInt32 then some f else none
  | _ => none

/-- The frame of an event, if the receive loop passes it on to a joint's motor: no error bits, the
joint's id byte, and an id the table has a place for. -/
def passedOn? {K : Type} (j : Joint) : SparqEvent K → Option LinuxCanFrame
  | .frame f =>
      if errorBits f = 0 ∧ j ≠ rightRearKnee ∧ motorIdOf f = j.canId.toUInt32 then some f else none
  | _ => none

section Interval

variable {K : Type} [Field K] [LinearOrder K] [IsStrictOrderedRing K] [FloorRing K] (mPi : MPi K)

/-- The offset of a joint's motor is what `calibrate` computes from the joint's last error-free status
frame among the events. -/
def CalibratedFrom (received : List (SparqEvent K)) (j : Joint) (m : RobstrideMotor K .RS02) : Prop :=
  ∃ f, latest (cleanStatus? j) received = some f ∧
    m.posOffset = ((m.hear mPi f).calibrate mPi 0).posOffset

/-- **Calibration uses real feedback only**, as a state shows it: a motor is marked calibrated, and is
sent a frame by whatever step comes next, only with an offset from its own feedback. -/
def RealFeedbackOnly (received : List (SparqEvent K)) (s : SparqState K) : Prop :=
  ∀ (j : Joint) m, s.mc.joint? j = some m →
    (m.calibrated = true → CalibratedFrom mPi received j m) ∧
    ∀ e, ∀ g ∈ (sparqStep mPi (mainHandler mPi) s e).2, targetId g = j.canId.toUInt32 →
      CalibratedFrom mPi received j m

/-- The position the calibration finds in a joint's feedback cell. -/
def heldPos (received : List (SparqEvent K)) (j : Joint) : K :=
  (((latest (passedOn? j) received).map (decodeStatus mPi .RS02)).getD noFeedback).pos

/-- A joint's turns are known: it sent an error-free status frame, and the last one says as many turns
as its feedback cell. -/
def TurnsKnown (received : List (SparqEvent K)) (j : Joint) : Prop :=
  ∃ f, latest (cleanStatus? j) received = some f ∧
    turns mPi (decodeStatus mPi .RS02 f).pos = turns mPi (heldPos mPi received j)

/-! ### Steps, seen from one joint -/

omit [IsStrictOrderedRing K] [FloorRing K] in
/-- A pass of the other thread tells the motor its slot, nothing else. -/
theorem joint?_updateControlParams (mc : MotorCon K) (ctrlBuf : ControlSnapshot K) (j : Joint) :
    (updateControlParams mPi mc ctrlBuf).joint? j =
      (mc.joint? j).map (applySlot mPi (ctrlBuf j.shmMotorIndex)) := by
  have hplace := getElem?_updateControlParams mPi mc ctrlBuf j
  rw [← mainOrder_place] at hplace
  exact hplace

/-- While the sockets are emptied nothing is heard. -/
theorem step_draining {s : SparqState K} {e : SparqEvent K} {j : Joint}
    {m : RobstrideMotor K .RS02} (hphase : s.phase = .draining) (he : e ≠ .zeroGain)
    (hm : s.mc.joint? j = some m) :
    (sparqStep mPi (mainHandler mPi) s e).1.phase = .draining ∧
      ∃ m', (sparqStep mPi (mainHandler mPi) s e).1.mc.joint? j = some m' ∧
        m'.feedbackParam = m.feedbackParam := by
  cases e with
  | zeroGain => exact absurd rfl he
  | frame f =>
      have hstep : (sparqStep mPi (mainHandler mPi) s (.frame f)).1 = s := by
        show receive mPi (mainHandler mPi) s f = s
        rw [receive, hphase]
      rw [hstep]
      exact ⟨hphase, m, hm, rfl⟩
  | update ctrlBuf =>
      refine ⟨hphase, applySlot mPi (ctrlBuf j.shmMotorIndex) m, ?_, rfl⟩
      show (updateControlParams mPi s.mc ctrlBuf).joint? j = _
      rw [joint?_updateControlParams, hm, Option.map_some]
  | calibrate => simp [sparqStep, hphase, hm]
  | write => simp [sparqStep, hphase, hm]
  | stop => simp [sparqStep, hphase, hm]

/-- Until the calibration, a motor hears the frames that are passed on to it. -/
theorem step_receiving {s : SparqState K} {e : SparqEvent K} {j : Joint}
    {m : RobstrideMotor K .RS02} (hphase : s.phase = .calibrating) (he : e ≠ .calibrate)
    (hm : s.mc.joint? j = some m) :
    (sparqStep mPi (mainHandler mPi) s e).1.phase = .calibrating ∧
      ∃ m', (sparqStep mPi (mainHandler mPi) s e).1.mc.joint? j = some m' ∧
        m'.feedbackParam = ((passedOn? j e).map (decodeStatus mPi .RS02)).getD m.feedbackParam := by
  cases e with
  | calibrate => exact absurd rfl he
  | frame f =>
      have hstep : (sparqStep mPi (mainHandler mPi) s (.frame f)).1 =
          receive mPi (mainHandler mPi) s f := rfl
      by_cases h0 : errorBits f = 0
      · rw [hstep, receive_calibrating mPi _ hphase h0]
        refine ⟨hphase, _, by rw [joint?_deliver, hm, Option.map_some], ?_⟩
        by_cases hpass : j ≠ rightRearKnee ∧ motorIdOf f = j.canId.toUInt32
        · simp [passedOn?, h0, hpass]
        · simp only [passedOn?, h0, hpass, true_and, if_false, Option.map_none, Option.getD_none]
      · have herr : (parseRxFrame f : StatusReading K).errSt ≠ 0 := h0
        have hreceive : receive mPi (mainHandler mPi) s f = s := by
          unfold receive
          rw [hphase]
          exact if_neg herr
        rw [hstep, hreceive]
        exact ⟨hphase, m, hm, by simp [passedOn?, h0]⟩
  | update ctrlBuf =>
      refine ⟨hphase, applySlot mPi (ctrlBuf j.shmMotorIndex) m, ?_, rfl⟩
      show (updateControlParams mPi s.mc ctrlBuf).joint? j = _
      rw [joint?_updateControlParams, hm, Option.map_some]
  | zeroGain => simp [sparqStep, hphase, hm, passedOn?]
  | write => simp [sparqStep, hphase, hm, passedOn?]
  | stop => simp [sparqStep, hphase, hm, passedOn?]

/-- After the calibration, offset and mark stay. -/
theorem step_calibrated {s : SparqState K} (e : SparqEvent K) {j : Joint}
    {m : RobstrideMotor K .RS02} (hphase : s.phase = .control ∨ s.phase = .ended)
    (hm : s.mc.joint? j = some m) :
    ((sparqStep mPi (mainHandler mPi) s e).1.phase = .control ∨
        (sparqStep mPi (mainHandler mPi) s e).1.phase = .ended) ∧
      ∃ m', (sparqStep mPi (mainHandler mPi) s e).1.mc.joint? j = some m' ∧
        m'.posOffset = m.posOffset ∧ m'.calibrated = m.calibrated ∧
        m'.posOffsetMech = m.posOffsetMech := by
  have hsame : m.posOffset = m.posOffset ∧ m.calibrated = m.calibrated ∧
      m.posOffsetMech = m.posOffsetMech := ⟨rfl, rfl, rfl⟩
  cases e with
  | frame f =>
      have hstep : (sparqStep mPi (mainHandler mPi) s (.frame f)).1 =
          receive mPi (mainHandler mPi) s f := rfl
      rw [hstep]
      constructor
      · by_cases hkeep : (receive mPi (mainHandler mPi) s f).phase = s.phase
        · rw [hkeep]
          exact hphase
        · obtain ⟨hcontrol, herr⟩ := receive_phase mPi _ hkeep
          rw [receive_control_error mPi _ hcontrol herr]
          exact Or.inr rfl
      · rcases receive_mc mPi (mainHandler mPi) s f with hmc | ⟨-, -, hmc⟩
        · exact ⟨m, by rw [hmc, hm], hsame⟩
        · refine ⟨_, by rw [hmc, joint?_deliver, hm, Option.map_some], ?_⟩
          split <;> exact hsame
  | update ctrlBuf =>
      refine ⟨hphase, applySlot mPi (ctrlBuf j.shmMotorIndex) m, ?_, hsame⟩
      show (updateControlParams mPi s.mc ctrlBuf).joint? j = _
      rw [joint?_updateControlParams, hm, Option.map_some]
  | zeroGain => rcases hphase with hp | hp <;> simp [sparqStep, hp, hm]
  | calibrate => rcases hphase with hp | hp <;> simp [sparqStep, hp, hm]
  | write => rcases hphase with hp | hp <;> simp [sparqStep, hp, hm]
  | stop => rcases hphase with hp | hp <;> simp [sparqStep, hp, hm]

/-! ### Runs -/

/-- A run up to the calibration and on: emptying the sockets, the first zero-gain frames, the events of
the interval, the calibration, anything. -/
def calibrationRun (pre received post : List (SparqEvent K)) : List (SparqEvent K) :=
  pre ++ [.zeroGain] ++ received ++ [.calibrate] ++ post

/-- Emptying the sockets ends where it began, as far as feedback goes. -/
theorem drained_run {pre : List (SparqEvent K)} (hpre : .zeroGain ∉ pre) (j : Joint) :
    (final (sparqStep mPi (mainHandler mPi)) (sparqStart mPi Joint.mainOrder) pre).phase = .draining ∧
      ∃ m, (final (sparqStep mPi (mainHandler mPi)) (sparqStart mPi Joint.mainOrder) pre).mc.joint? j =
        some m ∧ m.feedbackParam = noFeedback := by
  refine final_invariant_of (C := fun e => e ≠ .zeroGain) (P := fun s : SparqState K =>
    s.phase = .draining ∧ ∃ m, s.mc.joint? j = some m ∧ m.feedbackParam = noFeedback) ?_ ?_ pre ?_
  · rintro s e ⟨hphase, m, hm, hzero⟩ he
    obtain ⟨hphase', m', hm', hsame⟩ := step_draining mPi hphase he hm
    exact ⟨hphase', m', hm', hsame.trans hzero⟩
  · exact ⟨rfl, j.motor mPi, joint?_sparQ mPi j, rfl⟩
  · intro e he heq
    exact hpre (heq ▸ he)

/-- What a motor's cell holds when the interval is over. -/
theorem received_run {s : SparqState K} {received : List (SparqEvent K)} {j : Joint}
    {m : RobstrideMotor K .RS02} (hphase : s.phase = .calibrating)
    (hm : s.mc.joint? j = some m) (hzero : m.feedbackParam = noFeedback)
    (hreceived : .calibrate ∉ received) :
    (final (sparqStep mPi (mainHandler mPi)) s received).phase = .calibrating ∧
      ∃ m', (final (sparqStep mPi (mainHandler mPi)) s received).mc.joint? j = some m' ∧
        m'.feedbackParam.pos = heldPos mPi received j := by
  have hkind : ∀ e ∈ received, e ≠ .calibrate := by
    intro e he heq
    exact hreceived (heq ▸ he)
  have hstep : ∀ (s : SparqState K) e, (s.phase = .calibrating ∧ ∃ m, s.mc.joint? j = some m) →
      e ≠ .calibrate → (sparqStep mPi (mainHandler mPi) s e).1.phase = .calibrating ∧
        ∃ m, (sparqStep mPi (mainHandler mPi) s e).1.mc.joint? j = some m := by
    rintro s e ⟨hphase, m, hm⟩ he
    obtain ⟨hphase', m', hm', -⟩ := step_receiving mPi hphase he hm
    exact ⟨hphase', m', hm'⟩
  have hhears : ∀ (s : SparqState K) e, (s.phase = .calibrating ∧ ∃ m, s.mc.joint? j = some m) →
      e ≠ .calibrate →
      ((sparqStep mPi (mainHandler mPi) s e).1.mc.joint? j).map RobstrideMotor.feedbackParam =
        (((passedOn? j e).map fun f => some (decodeStatus mPi .RS02 f)).getD
          ((s.mc.joint? j).map RobstrideMotor.feedbackParam)) := by
    rintro s e ⟨hphase, m, hm⟩ he
    obtain ⟨-, m', hm', hfeedback⟩ := step_receiving mPi hphase he hm
    rw [hm', hm, Option.map_some, Option.map_some, hfeedback]
    cases passedOn? j e <;> rfl
  obtain ⟨hphase', m', hm'⟩ := final_invariant_of hstep ⟨hphase, m, hm⟩ received hkind
  have hlatest := final_latest hstep
    (f := fun s : SparqState K => (s.mc.joint? j).map RobstrideMotor.feedbackParam) hhears
    ⟨hphase, m, hm⟩ received hkind
  rw [latest_map, hm, hm', Option.map_some, Option.map_some, hzero] at hlatest
  refine ⟨hphase', m', hm', ?_⟩
  unfold heldPos
  cases hlast : latest (passedOn? j) received with
  | none =>
      rw [hlast] at hlatest
      exact congrArg FeedbackParam.pos (Option.some.inj hlatest)
  | some f =>
      rw [hlast] at hlatest
      exact congrArg FeedbackParam.pos (Option.some.inj hlatest)

/-- Nothing after the calibration touches offset and mark. -/
theorem settled_run {s : SparqState K} {j : Joint} {m : RobstrideMotor K .RS02}
    (hphase : s.phase = .control ∨ s.phase = .ended) (hm : s.mc.joint? j = some m)
    (post : List (SparqEvent K)) :
    ∃ m', (final (sparqStep mPi (mainHandler mPi)) s post).mc.joint? j = some m' ∧
      m'.posOffset = m.posOffset ∧ m'.calibrated = m.calibrated ∧
      m'.posOffsetMech = m.posOffsetMech := by
  refine (final_invariant (P := fun s : SparqState K => (s.phase = .control ∨ s.phase = .ended) ∧
    ∃ m', s.mc.joint? j = some m' ∧ m'.posOffset = m.posOffset ∧ m'.calibrated = m.calibrated ∧
      m'.posOffsetMech = m.posOffsetMech) ?_ ⟨hphase, m, hm, rfl, rfl, rfl⟩ post).2
  rintro s e ⟨hphase, m', hm', hoffset, hmark, hmech⟩
  obtain ⟨hphase', m'', hm'', hoffset', hmark', hmech'⟩ := step_calibrated mPi e hphase hm'
  exact ⟨hphase', m'', hm'', hoffset'.trans hoffset, hmark'.trans hmark, hmech'.trans hmech⟩

/-- **What the calibration leaves behind**, whatever happens later: every motor is marked, and its
offset counts the turns of the position its cell held. -/
theorem calibrated_run {pre received : List (SparqEvent K)} (hpre : .zeroGain ∉ pre)
    (hreceived : .calibrate ∉ received) (post : List (SparqEvent K)) (j : Joint) :
    ∃ m, (final (sparqStep mPi (mainHandler mPi)) (sparqStart mPi Joint.mainOrder)
        (calibrationRun pre received post)).mc.joint? j = some m ∧
      m.calibrated = true ∧
      m.posOffset =
        -(turns mPi (heldPos mPi received j) : K) * (2.0 * mPi.val) - m.posOffsetMech := by
  have hrun : final (sparqStep mPi (mainHandler mPi)) (sparqStart mPi Joint.mainOrder)
      (calibrationRun pre received post) =
      final (sparqStep mPi (mainHandler mPi)) (sparqStep mPi (mainHandler mPi)
        (final (sparqStep mPi (mainHandler mPi)) (sparqStep mPi (mainHandler mPi)
          (final (sparqStep mPi (mainHandler mPi)) (sparqStart mPi Joint.mainOrder) pre)
          .zeroGain).1 received) .calibrate).1 post := by
    rw [calibrationRun, final_append, final_concat, final_append, final_concat]
  rw [hrun]
  obtain ⟨hdraining, m₁, hm₁, hzero⟩ := drained_run mPi hpre j
  generalize final (sparqStep mPi (mainHandler mPi)) (sparqStart mPi Joint.mainOrder) pre = s₁
    at hdraining hm₁ ⊢
  have hfirst : (sparqStep mPi (mainHandler mPi) s₁ .zeroGain).1 =
      { s₁ with phase := .calibrating } := by simp [sparqStep, hdraining]
  rw [hfirst]
  obtain ⟨hcalibrating, m₂, hm₂, hheld⟩ :=
    received_run mPi (s := { s₁ with phase := .calibrating }) rfl hm₁ hzero hreceived
  generalize final (sparqStep mPi (mainHandler mPi)) { s₁ with phase := .calibrating } received = s₂
    at hcalibrating hm₂ ⊢
  have hpass : (sparqStep mPi (mainHandler mPi) s₂ .calibrate).1 =
      ⟨s₂.mc.mapAll fun _ m => m.calibrate mPi 0, .control⟩ := by simp [sparqStep, hcalibrating]
  have hm₃ : (s₂.mc.mapAll fun _ m => m.calibrate mPi 0).joint? j = some (m₂.calibrate mPi 0) := by
    have hm₂' : s₂.mc.motor? j.ref = some m₂ := hm₂
    rw [MotorCon.joint?, MotorCon.motor?_mapAll, hm₂']
    rfl
  rw [hpass]
  obtain ⟨m, hm, hoffset, hmark, hmech⟩ := settled_run mPi
    (s := ⟨s₂.mc.mapAll fun _ m => m.calibrate mPi 0, .control⟩) (Or.inl rfl) hm₃ post
  refine ⟨m, hm, hmark, ?_⟩
  rw [hoffset, RobstrideMotor.posOffset_calibrate, hheld, hmech]
  rfl

/-- **When calibration used real feedback only**: when every joint's turns were known. -/
theorem real_feedback_iff {pre received : List (SparqEvent K)} (hpre : .zeroGain ∉ pre)
    (hreceived : .calibrate ∉ received) (post : List (SparqEvent K)) :
    RealFeedbackOnly mPi received (final (sparqStep mPi (mainHandler mPi))
        (sparqStart mPi Joint.mainOrder) (calibrationRun pre received post)) ↔
      ∀ j, TurnsKnown mPi received j := by
  have hcalibrated := calibrated_run mPi hpre hreceived post
  generalize final (sparqStep mPi (mainHandler mPi)) (sparqStart mPi Joint.mainOrder)
    (calibrationRun pre received post) = s at hcalibrated ⊢
  -- the offset is that of a frame when the turns are
  have hturns : ∀ j m, s.mc.joint? j = some m →
      (CalibratedFrom mPi received j m ↔ TurnsKnown mPi received j) := by
    intro j m hm
    obtain ⟨m', hm', -, hoffset⟩ := hcalibrated j
    obtain rfl : m = m' := Option.some.inj (hm.symm.trans hm')
    unfold CalibratedFrom TurnsKnown
    apply exists_congr
    intro f
    apply and_congr_right
    intro _
    rw [hoffset, RobstrideMotor.posOffset_calibrate, RobstrideMotor.hear_eq, offset_eq_iff]
    exact eq_comm
  constructor
  · intro hreal j
    obtain ⟨m, hm, hmark, -⟩ := hcalibrated j
    exact (hturns j m hm).mp ((hreal j m hm).1 hmark)
  · intro hknown j m hm
    have hfrom := (hturns j m hm).mpr (hknown j)
    exact ⟨fun _ => hfrom, fun _ _ _ _ => hfrom⟩

end Interval

/-- Where the robot happens to stand: the hips turned a little, the knees a whole turn off but for the
right rear one. -/
def restCode (j : Joint) : UInt16 :=
  if j = rightRearKnee then 0x87CF
  else
    match j.kind with
    | .hipRoll => 0x85DB
    | .hipPitch => 0x7447
    | .kneePitch => 0x3FFF

/-- Twelve motors that all report their positions. -/
def restStatuses : List (SparqEvent ℚ) :=
  Joint.all.map fun j => .frame (positionStatus j (restCode j))

theorem latest_restStatuses (j : Joint) :
    latest (cleanStatus? j) restStatuses = some (positionStatus j (restCode j)) ∧
      latest (passedOn? j) restStatuses =
        if j = rightRearKnee then none else some (positionStatus j (restCode j)) := by
  have hall : ∀ j ∈ Joint.all,
      latest (cleanStatus? j) restStatuses = some (positionStatus j (restCode j)) ∧
        latest (passedOn? j) restStatuses =
          if j = rightRearKnee then none else some (positionStatus j (restCode j)) := by decide
  exact hall j j.mem_all

/-- When they do, and the knee that is not heard is within half a turn, the calibration is right. -/
theorem real_feedback_at_rest :
    RealFeedbackOnly (MPi.double : MPi ℚ) restStatuses
      (final (sparqStep (MPi.double : MPi ℚ) (mainHandler (MPi.double : MPi ℚ)))
        (sparqStart (MPi.double : MPi ℚ) Joint.mainOrder) (calibrationRun [] restStatuses [])) := by
  refine (real_feedback_iff (MPi.double : MPi ℚ) (by simp) (by simp [restStatuses]) []).mpr ?_
  intro j
  obtain ⟨hclean, hpassed⟩ := latest_restStatuses j
  refine ⟨positionStatus j (restCode j), hclean, ?_⟩
  unfold heldPos
  rw [hpassed]
  split
  · rename_i hknee
    subst hknee
    decide +kernel
  · rfl

/-- Silent motors are calibrated too. -/
theorem silent_motor_calibrated :
    ¬ RealFeedbackOnly (MPi.double : MPi ℚ) []
      (final (sparqStep (MPi.double : MPi ℚ) (mainHandler (MPi.double : MPi ℚ)))
        (sparqStart (MPi.double : MPi ℚ) Joint.mainOrder) (calibrationRun [] [] [])) := by
  intro hreal
  have hnil : ∀ e : SparqEvent ℚ, e ∉ ([] : List (SparqEvent ℚ)) := fun _ => List.not_mem_nil
  obtain ⟨m, hm, hmark, -⟩ := calibrated_run (MPi.double : MPi ℚ) (hnil .zeroGain)
    (hnil .calibrate) [] ⟨.leftFront, .hipRoll⟩
  obtain ⟨f, hnone, -⟩ := (hreal ⟨.leftFront, .hipRoll⟩ m hm).1 hmark
  cases hnone

end SparqControl.SparqCan
