/-
# SparqControl.SparqCan.MotorProcess — the twelve motors and the two threads that share them.

`main` builds twelve RS02 motors and starts `CAN_Comm_thread` and `update_Control_params` on them.
Three index spaces meet here and are linked by hand-written lines only: the slot of a joint in shared
memory, the place of its motor in the deque, and its CAN id.

A run interleaves the steps of both threads: the receive loops take one frame at a time, one to empty
the sockets, one until the calibration, one until the end; every pass of the control loop ends with
one operation frame for each motor; a pass of the other thread copies one snapshot of the control block
into the motors.
`Steady` is what no step of any thread touches, `vel` and `ffTorque` among it.
-/
import SparqControl.SparqCan.RxHandler

namespace SparqControl.SparqCan

open SparqControl.Hal
open SparqControl.Lib.Trace SparqControl.Lib.Slots

/-! ## Joints -/

inductive Leg where
  | leftFront | leftRear | rightFront | rightRear
  deriving DecidableEq

inductive JointKind where
  | hipRoll | hipPitch | kneePitch
  deriving DecidableEq

/-- The twelve names of `SPARQ_config.h`. -/
structure Joint where
  leg : Leg
  kind : JointKind
  deriving DecidableEq

/-- `MaxID`. -/
abbrev maxID : ℕ := 51

/-- `MOTOR_NUM`. -/
abbrev motorNum : ℕ := 12

namespace Joint

/-- The joints in the order of the configuration file, which the copying lines follow. -/
def all : List Joint :=
  [⟨.leftFront, .hipRoll⟩, ⟨.leftFront, .hipPitch⟩, ⟨.leftFront, .kneePitch⟩,
    ⟨.leftRear, .hipRoll⟩, ⟨.leftRear, .hipPitch⟩, ⟨.leftRear, .kneePitch⟩,
    ⟨.rightFront, .hipRoll⟩, ⟨.rightFront, .hipPitch⟩, ⟨.rightFront, .kneePitch⟩,
    ⟨.rightRear, .hipRoll⟩, ⟨.rightRear, .hipPitch⟩, ⟨.rightRear, .kneePitch⟩]

/-- `CAN_ID_*`. -/
def canId : Joint → Int32
  | ⟨.leftFront, .hipRoll⟩ => 0x01
  | ⟨.leftFront, .hipPitch⟩ => 0x02
  | ⟨.leftFront, .kneePitch⟩ => 0x03
  | ⟨.leftRear, .hipRoll⟩ => 0x11
  | ⟨.leftRear, .hipPitch⟩ => 0x12
  | ⟨.leftRear, .kneePitch⟩ => 0x13
  | ⟨.rightFront, .hipRoll⟩ => 0x21
  | ⟨.rightFront, .hipPitch⟩ => 0x22
  | ⟨.rightFront, .kneePitch⟩ => 0x23
  | ⟨.rightRear, .hipRoll⟩ => 0x31
  | ⟨.rightRear, .hipPitch⟩ => 0x32
  | ⟨.rightRear, .kneePitch⟩ => 0x33

/-- `SHM_MOTOR_INDEX_*`. -/
def shmMotorIndex : Joint → Fin motorNum
  | ⟨.leftFront, .hipRoll⟩ => 0
  | ⟨.leftFront, .hipPitch⟩ => 1
  | ⟨.leftFront, .kneePitch⟩ => 2
  | ⟨.leftRear, .hipRoll⟩ => 3
  | ⟨.leftRear, .hipPitch⟩ => 4
  | ⟨.leftRear, .kneePitch⟩ => 5
  | ⟨.rightFront, .hipRoll⟩ => 6
  | ⟨.rightFront, .hipPitch⟩ => 7
  | ⟨.rightFront, .kneePitch⟩ => 8
  | ⟨.rightRear, .hipRoll⟩ => 9
  | ⟨.rightRear, .hipPitch⟩ => 10
  | ⟨.rightRear, .kneePitch⟩ => 11

/-- `CONTROL_VECTOR_INDEX_*`. -/
def controlVectorIndex : Joint → ℕ
  | ⟨.leftFront, .hipRoll⟩ => 0
  | ⟨.leftFront, .hipPitch⟩ => 4
  | ⟨.leftFront, .kneePitch⟩ => 8
  | ⟨.leftRear, .hipRoll⟩ => 1
  | ⟨.leftRear, .hipPitch⟩ => 5
  | ⟨.leftRear, .kneePitch⟩ => 9
  | ⟨.rightFront, .hipRoll⟩ => 2
  | ⟨.rightFront, .hipPitch⟩ => 6
  | ⟨.rightFront, .kneePitch⟩ => 10
  | ⟨.rightRear, .hipRoll⟩ => 3
  | ⟨.rightRear, .hipPitch⟩ => 7
  | ⟨.rightRear, .kneePitch⟩ => 11

/-- The interface of a leg: `s1` to `s4`. -/
def canInterface (j : Joint) : ℕ :=
  match j.leg with
  | .leftFront => 0
  | .leftRear => 1
  | .rightFront => 2
  | .rightRear => 3

/-- The order in which `main` adds the motors. -/
def mainOrder : List Joint :=
  [⟨.leftFront, .hipRoll⟩, ⟨.leftRear, .hipRoll⟩, ⟨.rightFront, .hipRoll⟩, ⟨.rightRear, .hipRoll⟩,
    ⟨.leftFront, .hipPitch⟩, ⟨.leftRear, .hipPitch⟩, ⟨.rightFront, .hipPitch⟩,
    ⟨.rightRear, .hipPitch⟩,
    ⟨.leftFront, .kneePitch⟩, ⟨.leftRear, .kneePitch⟩, ⟨.rightFront, .kneePitch⟩,
    ⟨.rightRear, .kneePitch⟩]

section Offsets

variable {K : Type} [Field K] [LinearOrder K]

/-- The mechanical offsets of `main`, in degrees. -/
def mechDegrees : Joint → K
  | ⟨.leftFront, .hipRoll⟩ => 40.0
  | ⟨.leftRear, .hipRoll⟩ => -40.0
  | ⟨.rightFront, .hipRoll⟩ => -40.0
  | ⟨.rightRear, .hipRoll⟩ => 40.0
  | ⟨.leftFront, .hipPitch⟩ => 100.0
  | ⟨.leftRear, .hipPitch⟩ => -60.0
  | ⟨.rightFront, .hipPitch⟩ => -100.0
  | ⟨.rightRear, .hipPitch⟩ => 20.0
  | ⟨.leftFront, .kneePitch⟩ => -147.947
  | ⟨.leftRear, .kneePitch⟩ => -147.947
  | ⟨.rightFront, .kneePitch⟩ => 147.947
  | ⟨.rightRear, .kneePitch⟩ => 147.947

/-- `emplace_back` of one joint. -/
def motor (mPi : MPi K) (j : Joint) : RobstrideMotor K .RS02 :=
  RobstrideMotor.make j.canInterface j.canId (j.mechDegrees * mPi.val / 180.0)

end Offsets

theorem mem_all (j : Joint) : j ∈ all := by
  obtain ⟨leg, kind⟩ := j
  cases leg <;> cases kind <;> decide

theorem canId_inj {j j' : Joint} (h : j.canId = j'.canId) : j = j' := by
  have hall : ∀ j ∈ all, ∀ j' ∈ all, j.canId = j'.canId → j = j' := by decide
  exact hall j j.mem_all j' j'.mem_all h

theorem canId_lt (j : Joint) : j.canId.toUInt32 < 256 := by
  have hall : ∀ j ∈ all, j.canId.toUInt32 < 256 := by decide
  exact hall j j.mem_all

theorem nodup_controlVectorIndex : (all.map controlVectorIndex).Nodup := by decide

theorem controlVectorIndex_inj {j j' : Joint} (h : j.controlVectorIndex = j'.controlVectorIndex) :
    j = j' :=
  List.inj_on_of_nodup_map nodup_controlVectorIndex j.mem_all j'.mem_all h

end Joint

/-- `main` puts every motor at the place its name says. -/
theorem mainOrder_place (j : Joint) : Joint.mainOrder.idxOf j = j.controlVectorIndex := by
  have hall : ∀ j ∈ Joint.all, Joint.mainOrder.idxOf j = j.controlVectorIndex := by decide
  exact hall j j.mem_all

/-! ## The shared motors -/

section Process

variable {K : Type} [Field K] [LinearOrder K] [IsStrictOrderedRing K] (mPi : MPi K)

/-- `SparQ` after its motors were added in the given order. -/
def sparQ (order : List Joint) : MotorCon K where
  vec
    | .RS02 => order.map (Joint.motor mPi)
    | _ => []

/-- One snapshot of the control block, as `try_read_ctrl` delivers it. -/
abbrev ControlSnapshot (K : Type) := Fin motorNum → ControlParam K

/-- `control_param.pos.store(std::clamp(..., -4 * M_PI, 4 * M_PI))`. -/
def storePos (slot : ControlParam K) (m : RobstrideMotor K .RS02) : RobstrideMotor K .RS02 :=
  { m with controlParam :=
      { m.controlParam with pos := stdClamp slot.pos (-(4.0 * mPi.val)) (4.0 * mPi.val) } }

/-- `control_param.Kp.store`. -/
def storeKp (slot : ControlParam K) (m : RobstrideMotor K .RS02) : RobstrideMotor K .RS02 :=
  { m with controlParam := { m.controlParam with Kp := slot.Kp } }

/-- `control_param.Kd.store`. -/
def storeKd (slot : ControlParam K) (m : RobstrideMotor K .RS02) : RobstrideMotor K .RS02 :=
  { m with controlParam := { m.controlParam with Kd := slot.Kd } }

/-- Twelve lines of the same kind: one store for each joint, from its slot to its place. -/
def storeEach (store : ControlParam K → RobstrideMotor K .RS02 → RobstrideMotor K .RS02)
    (ctrlBuf : ControlSnapshot K) (vec : List (RobstrideMotor K .RS02)) :
    List (RobstrideMotor K .RS02) :=
  Joint.all.foldl
    (fun vec j => vec.modify j.controlVectorIndex (store (ctrlBuf j.shmMotorIndex))) vec

/-- One pass of `update_Control_params` up to the feedback: positions, then `Kp`, then `Kd`. -/
def updateControlParams (mc : MotorCon K) (ctrlBuf : ControlSnapshot K) : MotorCon K where
  vec := Function.update mc.vec .RS02
    (storeEach storeKd ctrlBuf (storeEach storeKp ctrlBuf
      (storeEach (storePos mPi) ctrlBuf (mc.vec .RS02))))

/-- The feedback of one motor as the pass reports it: in joint coordinates. -/
def reported (m : RobstrideMotor K .RS02) : FeedbackParam K :=
  { m.feedbackParam with pos := m.feedbackParam.pos + m.posOffset }

/-! ## The threads -/

/-- Where `CAN_Comm_thread` stands: emptying the sockets, in the receive loop before the calibration,
in `while (running)`, or returned. -/
inductive CommPhase where
  | draining | calibrating | control | ended
  deriving DecidableEq

structure SparqState (K : Type) where
  mc : MotorCon K
  phase : CommPhase

/-- One step of one of the threads. -/
inductive SparqEvent (K : Type) where
  /-- `readframe` delivered a frame. -/
  | frame (frame : LinuxCanFrame)
  /-- The sockets are empty: `write_operation_frame(0, 0, 0)` to every motor. -/
  | zeroGain
  /-- No frame is left in the receive loop before the calibration. -/
  | calibrate
  /-- No frame is left in a pass of the control loop. -/
  | write
  /-- A pass of `update_Control_params` on one snapshot. -/
  | update (ctrlBuf : ControlSnapshot K)
  /-- `running` was found false. -/
  | stop

variable {maxId : ℕ} (h : RxHandler maxId)

/-- What the receive loop at work does with a frame. Error bits make the frame skipped before the
calibration and end the thread after it. -/
def receive (s : SparqState K) (f : LinuxCanFrame) : SparqState K :=
  match s.phase with
  | .draining => s
  | .calibrating =>
      if (parseRxFrame f : StatusReading K).errSt = 0 then { s with mc := h.deliver mPi s.mc f }
      else s
  | .control =>
      if (parseRxFrame f : StatusReading K).errSt ≠ 0 then { s with phase := .ended }
      else { s with mc := h.deliver mPi s.mc f }
  | .ended => s

variable [FloorRing K]

/-- One step and the frames it sends. -/
def sparqStep (s : SparqState K) : SparqEvent K → SparqState K × List LinuxCanFrame
  | .frame f => (receive mPi h s f, [])
  | .zeroGain =>
      match s.phase with
      | .draining =>
          ({ s with phase := .calibrating }, s.mc.sendAll fun _ m => m.writeOperationFrame mPi 0 0 0)
      | _ => (s, [])
  | .calibrate =>
      match s.phase with
      | .calibrating => (⟨s.mc.mapAll fun _ m => m.calibrate mPi 0, .control⟩, [])
      | _ => (s, [])
  | .write =>
      match s.phase with
      | .control => (s, s.mc.sendAll fun _ m => m.writeUpdatedOperationFrame mPi)
      | _ => (s, [])
  | .update ctrlBuf => ({ s with mc := updateControlParams mPi s.mc ctrlBuf }, [])
  | .stop =>
      match s.phase with
      | .control => ({ s with phase := .ended }, [])
      | _ => (s, [])

/-- The process when `main` has started the threads. -/
def sparqStart (order : List Joint) : SparqState K := ⟨sparQ mPi order, .draining⟩

end Process

/-! ## What no step touches -/

section Steps

variable {K : Type} {t : RobstrideMotorType}

/-- The cells of a motor that nothing stores to once it was added. -/
structure Steady (m m' : RobstrideMotor K t) : Prop where
  canInterface : m'.canInterface = m.canInterface
  canId : m'.canId = m.canId
  posOffsetMech : m'.posOffsetMech = m.posOffsetMech
  vel : m'.controlParam.vel = m.controlParam.vel
  ffTorque : m'.controlParam.ffTorque = m.controlParam.ffTorque

theorem Steady.refl (m : RobstrideMotor K t) : Steady m m := ⟨rfl, rfl, rfl, rfl, rfl⟩

theorem Steady.trans {m m' m'' : RobstrideMotor K t} (h : Steady m m') (h' : Steady m' m'') :
    Steady m m'' where
  canInterface := h'.canInterface.trans h.canInterface
  canId := h'.canId.trans h.canId
  posOffsetMech := h'.posOffsetMech.trans h.posOffsetMech
  vel := h'.vel.trans h.vel
  ffTorque := h'.ffTorque.trans h.ffTorque

variable [Field K] [LinearOrder K] (mPi : MPi K)

/-- The motor of a joint when it was added. -/
theorem motor?_sparQ {order : List Joint} {j : Joint} (hj : j ∈ order) :
    (sparQ mPi order).motor? ⟨.RS02, order.idxOf j⟩ = some (j.motor mPi) := by
  show (order.map (Joint.motor mPi))[order.idxOf j]? = _
  rw [List.getElem?_map, List.getElem?_eq_getElem (List.idxOf_lt_length_of_mem hj),
    List.getElem_idxOf]
  rfl

/-- What a pass of `update_Control_params` leaves in a motor. -/
def applySlot (slot : ControlParam K) (m : RobstrideMotor K .RS02) : RobstrideMotor K .RS02 :=
  { m with controlParam :=
      { m.controlParam with
        pos := stdClamp slot.pos (-(4.0 * mPi.val)) (4.0 * mPi.val)
        Kp := slot.Kp
        Kd := slot.Kd } }

theorem vec_updateControlParams (mc : MotorCon K) (ctrlBuf : ControlSnapshot K) :
    (updateControlParams mPi mc ctrlBuf).vec .RS02 =
      storeEach storeKd ctrlBuf (storeEach storeKp ctrlBuf
        (storeEach (storePos mPi) ctrlBuf (mc.vec .RS02))) := by
  simp only [updateControlParams, Function.update_self]

/-- **A pass, place by place.** The motor at the place of a joint takes the joint's slot. -/
theorem getElem?_updateControlParams (mc : MotorCon K) (ctrlBuf : ControlSnapshot K) (j : Joint) :
    ((updateControlParams mPi mc ctrlBuf).vec .RS02)[j.controlVectorIndex]? =
      ((mc.vec .RS02)[j.controlVectorIndex]?).map (applySlot mPi (ctrlBuf j.shmMotorIndex)) := by
  have hstore : ∀ store vec, (storeEach store ctrlBuf vec)[j.controlVectorIndex]? =
      (vec[j.controlVectorIndex]?).map (store (ctrlBuf j.shmMotorIndex)) := by
    intro store vec
    exact getElem?_foldl_modify Joint.controlVectorIndex
      (fun j => store (ctrlBuf j.shmMotorIndex)) Joint.all vec Joint.nodup_controlVectorIndex j.mem_all
  rw [vec_updateControlParams, hstore, hstore, hstore, Option.map_map, Option.map_map]
  rfl

/-- A pass, seen from any motor. -/
theorem motor?_updateControlParams (mc : MotorCon K) (ctrlBuf : ControlSnapshot K) (r : MotorRef) :
    (updateControlParams mPi mc ctrlBuf).motor? r = mc.motor? r ∨
      ∃ j : Joint, r = ⟨.RS02, j.controlVectorIndex⟩ := by
  obtain ⟨t, i⟩ := r
  by_cases ht : t = .RS02
  · subst ht
    by_cases hj : ∃ j : Joint, i = j.controlVectorIndex
    · obtain ⟨j, rfl⟩ := hj
      exact Or.inr ⟨j, rfl⟩
    · -- a place beyond the twelve is never stored to
      have hnot : i ∉ Joint.all.map Joint.controlVectorIndex := by
        intro hmem
        obtain ⟨j, -, hj'⟩ := List.mem_map.mp hmem
        exact hj ⟨j, hj'.symm⟩
      have hstore : ∀ store (vec : List (RobstrideMotor K .RS02)),
          (storeEach store ctrlBuf vec)[i]? = vec[i]? := by
        intro store vec
        exact getElem?_foldl_modify_of_notMem Joint.controlVectorIndex
          (fun j => store (ctrlBuf j.shmMotorIndex)) Joint.all vec hnot
      apply Or.inl
      show ((updateControlParams mPi mc ctrlBuf).vec .RS02)[i]? = (mc.vec .RS02)[i]?
      rw [vec_updateControlParams, hstore, hstore, hstore]
  · apply Or.inl
    have hvec : (updateControlParams mPi mc ctrlBuf).vec t = mc.vec t := Function.update_of_ne ht _ _
    show ((updateControlParams mPi mc ctrlBuf).vec t)[i]? = (mc.vec t)[i]?
    rw [hvec]

variable [IsStrictOrderedRing K] {maxId : ℕ} (h : RxHandler maxId)

/-- Receiving changes the motors only by delivering a frame without error bits. -/
theorem receive_mc (s : SparqState K) (f : LinuxCanFrame) :
    (receive mPi h s f).mc = s.mc ∨
      (errorBits f = 0 ∧ (s.phase = .calibrating ∨ s.phase = .control) ∧
        (receive mPi h s f).mc = h.deliver mPi s.mc f) := by
  have herr : (parseRxFrame f : StatusReading K).errSt = errorBits f := rfl
  unfold receive
  rw [herr]
  cases hphase : s.phase with
  | draining => exact Or.inl rfl
  | calibrating =>
      by_cases h0 : errorBits f = 0
      · simp [h0]
      · simp [h0]
  | control =>
      by_cases h0 : errorBits f = 0
      · simp [h0]
      · simp [h0]
  | ended => exact Or.inl rfl

variable [FloorRing K]

/-- **No step of either thread touches the steady cells.** -/
theorem steady_step (s : SparqState K) (e : SparqEvent K) {r : MotorRef}
    {m : RobstrideMotor K r.type} (hm : s.mc.motor? r = some m) :
    ∃ m', (sparqStep mPi h s e).1.mc.motor? r = some m' ∧ Steady m m' := by
  have hsame : s.mc.motor? r = some m ∧ Steady m m := ⟨hm, Steady.refl m⟩
  cases e with
  | frame f =>
      rcases receive_mc mPi h s f with hmc | ⟨-, -, hmc⟩
      · exact ⟨m, by rw [sparqStep, hmc, hm], Steady.refl m⟩
      · have hdel := h.motor?_deliver mPi s.mc f r
        rw [hm, Option.map_some] at hdel
        refine ⟨_, by rw [sparqStep, hmc, hdel], ?_⟩
        split
        · exact ⟨rfl, rfl, rfl, rfl, rfl⟩
        · exact Steady.refl m
  | zeroGain =>
      unfold sparqStep
      cases s.phase <;> exact ⟨m, hsame⟩
  | calibrate =>
      unfold sparqStep
      cases s.phase with
      | calibrating =>
          refine ⟨m.calibrate mPi 0, ?_, ⟨rfl, rfl, rfl, rfl, rfl⟩⟩
          show (s.mc.mapAll _).motor? r = _
          rw [MotorCon.motor?_mapAll, hm]
          rfl
      | draining => exact ⟨m, hsame⟩
      | control => exact ⟨m, hsame⟩
      | ended => exact ⟨m, hsame⟩
  | write =>
      unfold sparqStep
      cases s.phase <;> exact ⟨m, hsame⟩
  | update ctrlBuf =>
      rcases motor?_updateControlParams mPi s.mc ctrlBuf r with heq | ⟨j, rfl⟩
      · exact ⟨m, by rw [sparqStep, heq, hm], Steady.refl m⟩
      · refine ⟨applySlot mPi (ctrlBuf j.shmMotorIndex) m, ?_, ⟨rfl, rfl, rfl, rfl, rfl⟩⟩
        have hget := getElem?_updateControlParams mPi s.mc ctrlBuf j
        have hm' : (s.mc.vec .RS02)[j.controlVectorIndex]? = some m := hm
        rw [hm'] at hget
        exact hget
  | stop =>
      unfold sparqStep
      cases s.phase <;> exact ⟨m, hsame⟩

/-- The steady cells over a whole run. -/
theorem steady_final (s : SparqState K) (es : List (SparqEvent K)) {r : MotorRef}
    {m : RobstrideMotor K r.type} (hm : s.mc.motor? r = some m) :
    ∃ m', (final (sparqStep mPi h) s es).mc.motor? r = some m' ∧ Steady m m' := by
  refine final_invariant (P := fun s' : SparqState K => ∃ m', s'.mc.motor? r = some m' ∧ Steady m m') ?_
    ⟨m, hm, Steady.refl m⟩ es
  rintro s' e ⟨m', hm', hsteady⟩
  obtain ⟨m'', hm'', hsteady'⟩ := steady_step mPi h s' e hm'
  exact ⟨m'', hm'', hsteady.trans hsteady'⟩

end Steps

end SparqControl.SparqCan
