/-
# SparqControl.SparqCan.RxHandler — from a received frame to the feedback of one motor.

`Rx_handler<MaxID>` is a jump table: constructed once from the motors of `Motor_con`, it sends the
readings of a status frame to the motor whose id the frame carries. Ids outside `0 … MaxID - 1` are
rejected in silence at both ends, when a motor is registered and when a frame is delivered.

`target_new_iff` says what the table is worth: with distinct ids, an id leads to a motor exactly when
the motor has that id AND the id is below `MaxID`. The parser looks at the id bits only; flags and
communication type are not its business, so `parseRxFrame` is total on every frame there is.
-/
import SparqControl.Lib.Slots
import SparqControl.Lib.Trace
import SparqControl.SparqCan.RobstrideMotor

namespace SparqControl.SparqCan

open SparqControl.Hal
open SparqControl.Lib.Slots

/-! ## The motors of the process -/

/-- The order of the deques in the tuple, which every loop over the motors follows. -/
def RobstrideMotorType.all : List RobstrideMotorType :=
  [.RS00, .RS01, .RS02, .RS03, .RS04, .RS05, .RS06, .EL05]

theorem RobstrideMotorType.mem_all (t : RobstrideMotorType) : t ∈ RobstrideMotorType.all := by
  cases t <;> decide

/-- `Motor_con`: one deque for each motor type. -/
structure MotorCon (K : Type) where
  vec : (t : RobstrideMotorType) → List (RobstrideMotor K t)

/-- The address of a motor: its deque and its place there. -/
structure MotorRef where
  type : RobstrideMotorType
  index : ℕ
  deriving DecidableEq

namespace MotorCon

variable {K : Type}

/-- The motor at an address. -/
def motor? (mc : MotorCon K) (r : MotorRef) : Option (RobstrideMotor K r.type) :=
  (mc.vec r.type)[r.index]?

/-- Writing through an address. -/
def modify (mc : MotorCon K) (r : MotorRef)
    (f : RobstrideMotor K r.type → RobstrideMotor K r.type) : MotorCon K where
  vec := Function.update mc.vec r.type ((mc.vec r.type).modify r.index f)

/-- `std::apply` of a loop that changes every motor. -/
def mapAll (mc : MotorCon K) (f : (t : RobstrideMotorType) → RobstrideMotor K t → RobstrideMotor K t) :
    MotorCon K where
  vec t := (mc.vec t).map (f t)

/-- `std::apply` of a loop that sends one frame for every motor. -/
def sendAll (mc : MotorCon K) (f : (t : RobstrideMotorType) → RobstrideMotor K t → LinuxCanFrame) :
    List LinuxCanFrame :=
  RobstrideMotorType.all.flatMap fun t => (mc.vec t).map (f t)

@[simp] theorem motor?_modify_self (mc : MotorCon K) (r : MotorRef)
    (f : RobstrideMotor K r.type → RobstrideMotor K r.type) :
    (mc.modify r f).motor? r = (mc.motor? r).map f := by
  show (Function.update mc.vec r.type ((mc.vec r.type).modify r.index f) r.type)[r.index]? = _
  rw [Function.update_self, List.getElem?_modify]
  simp [motor?]

theorem motor?_modify_of_ne (mc : MotorCon K) {r r' : MotorRef} (h : r' ≠ r)
    (f : RobstrideMotor K r.type → RobstrideMotor K r.type) :
    (mc.modify r f).motor? r' = mc.motor? r' := by
  obtain ⟨t, i⟩ := r
  obtain ⟨t', i'⟩ := r'
  by_cases ht : t' = t
  · subst ht
    have hi : i ≠ i' := by
      rintro rfl
      exact h rfl
    show (Function.update mc.vec t' ((mc.vec t').modify i f) t')[i']? = _
    rw [Function.update_self, List.getElem?_modify]
    simp [hi, motor?]
  · show (Function.update mc.vec t ((mc.vec t).modify i f) t')[i']? = _
    rw [Function.update_of_ne ht]
    rfl

@[simp] theorem motor?_mapAll (mc : MotorCon K) (r : MotorRef)
    (f : (t : RobstrideMotorType) → RobstrideMotor K t → RobstrideMotor K t) :
    (mc.mapAll f).motor? r = (mc.motor? r).map (f r.type) :=
  List.getElem?_map

/-- The id of the motor at an address. -/
def canId? (mc : MotorCon K) (r : MotorRef) : Option Int32 := (mc.motor? r).map RobstrideMotor.canId

/-- No two motors have the same id. -/
def DistinctIds (mc : MotorCon K) : Prop :=
  ∀ r r' id, mc.canId? r = some id → mc.canId? r' = some id → r = r'

end MotorCon

/-! ## The jump table -/

/-- `Rx_handler<MaxID>`. `jump_table[id]` is the write through the motor's type and
`Motor_object[id]` its address; they are set together. -/
structure RxHandler (maxId : ℕ) where
  entry : ℕ → Option MotorRef

namespace RxHandler

variable {maxId : ℕ} {K : Type}

/-- The tables before registration: all null. -/
def empty : RxHandler maxId := ⟨fun _ => none⟩

/-- The id has a place in the tables. -/
def inRange (maxId : ℕ) (id : ℤ) : Bool := decide (0 ≤ id) && decide (id < maxId)

/-- The body of the loop in `register_vector`. -/
def registerMotor (h : RxHandler maxId) (id : ℤ) (r : MotorRef) : RxHandler maxId :=
  if inRange maxId id then ⟨Function.update h.entry id.toNat (some r)⟩ else h

/-- `register_vector`. -/
def registerVector (h : RxHandler maxId) (t : RobstrideMotorType) (vec : List (RobstrideMotor K t)) :
    RxHandler maxId :=
  vec.zipIdx.foldl (fun h m => h.registerMotor m.1.canId.toInt ⟨t, m.2⟩) h

/-- The constructor, with `init_helper`. -/
def new (maxId : ℕ) (mc : MotorCon K) : RxHandler maxId :=
  RobstrideMotorType.all.foldl (fun h t => h.registerVector t (mc.vec t)) empty

/-- The motor `Write_Fb` finds for an id. -/
def target (h : RxHandler maxId) (id : ℕ) : Option MotorRef :=
  if inRange maxId id then h.entry id else none

/-- The registrations of a constructor call, in order. -/
def registrations (mc : MotorCon K) : List (ℤ × MotorRef) :=
  RobstrideMotorType.all.flatMap fun t => (mc.vec t).zipIdx.map fun m => (m.1.canId.toInt, ⟨t, m.2⟩)

theorem mem_registrations {mc : MotorCon K} {id : ℤ} {r : MotorRef} :
    (id, r) ∈ registrations mc ↔ ∃ canId, mc.canId? r = some canId ∧ canId.toInt = id := by
  unfold registrations
  rw [List.mem_flatMap]
  constructor
  · rintro ⟨t, -, hmem⟩
    obtain ⟨⟨m, i⟩, hm, heq⟩ := List.mem_map.mp hmem
    cases heq
    have hget : (mc.vec t)[i]? = some m := List.mk_mem_zipIdx_iff_getElem?.mp hm
    exact ⟨m.canId, congrArg (Option.map RobstrideMotor.canId) hget, rfl⟩
  · rintro ⟨canId, hid, rfl⟩
    obtain ⟨m, hm, rfl⟩ := Option.map_eq_some_iff.mp hid
    refine ⟨r.type, r.type.mem_all, List.mem_map.mpr ⟨(m, r.index), ?_, rfl⟩⟩
    exact List.mk_mem_zipIdx_iff_getElem?.mpr hm

/-- The registrations that get into the table: those with an id in range. -/
def tableWrites (maxId : ℕ) (mc : MotorCon K) : List (ℕ × Option MotorRef) :=
  ((registrations mc).filter fun w => inRange maxId w.1).map fun w => (w.1.toNat, some w.2)

theorem mem_tableWrites {mc : MotorCon K} {id : ℕ} {v : Option MotorRef} :
    (id, v) ∈ tableWrites maxId mc ↔
      id < maxId ∧ ∃ r canId, v = some r ∧ mc.canId? r = some canId ∧ canId.toInt = id := by
  unfold tableWrites
  rw [List.mem_map]
  constructor
  · rintro ⟨⟨id', r⟩, hmem, heq⟩
    obtain ⟨hreg, hin⟩ := List.mem_filter.mp hmem
    obtain ⟨canId, hr, hid⟩ := mem_registrations.mp hreg
    have hbounds : 0 ≤ id' ∧ id' < maxId := by
      simpa [inRange] using hin
    cases heq
    refine ⟨by omega, r, canId, rfl, hr, ?_⟩
    omega
  · rintro ⟨hlt, r, canId, rfl, hr, hid⟩
    refine ⟨((id : ℤ), r), List.mem_filter.mpr ⟨mem_registrations.mpr ⟨canId, hr, hid⟩, ?_⟩, rfl⟩
    simpa [inRange] using hlt

theorem entry_foldl (ws : List (ℤ × MotorRef)) :
    ∀ h : RxHandler maxId, (ws.foldl (fun h w => h.registerMotor w.1 w.2) h).entry =
      writes h.entry ((ws.filter fun w => inRange maxId w.1).map fun w => (w.1.toNat, some w.2)) := by
  induction ws with
  | nil => intro h; rfl
  | cons w ws ih =>
      intro h
      rw [List.foldl_cons, ih, registerMotor]
      by_cases hw : inRange maxId w.1 = true
      · have hfilter : (w :: ws).filter (fun w => inRange maxId w.1) =
            w :: ws.filter (fun w => inRange maxId w.1) := List.filter_cons_of_pos hw
        rw [if_pos hw, hfilter]
        rfl
      · have hfilter : (w :: ws).filter (fun w => inRange maxId w.1) =
            ws.filter (fun w => inRange maxId w.1) := List.filter_cons_of_neg hw
        rw [if_neg hw, hfilter]

/-- The constructor fills the table with these writes. -/
theorem entry_new (mc : MotorCon K) :
    (new maxId mc).entry = writes (fun _ => none) (tableWrites maxId mc) := by
  have hfold : new maxId mc = (registrations mc).foldl
      (fun (h : RxHandler maxId) w => h.registerMotor w.1 w.2) empty := by
    unfold new registrations registerVector
    rw [List.foldl_flatMap]
    simp only [List.foldl_map]
  rw [hfold, entry_foldl]
  rfl

/-- **What the table is worth.** With distinct ids, an id leads to the motor that has it, if it is
below `MaxID`, and nowhere else. -/
theorem target_new_iff {mc : MotorCon K} (hdistinct : mc.DistinctIds) {id : ℕ} {r : MotorRef} :
    (new maxId mc).target id = some r ↔
      id < maxId ∧ ∃ canId, mc.canId? r = some canId ∧ canId.toInt = id := by
  have hrange : inRange maxId (id : ℤ) = true ↔ id < maxId := by
    simp [inRange]
  -- all writes to the entry of an id come from the one motor with that id
  have hentry : ∀ {r : MotorRef}, (id, some r) ∈ tableWrites maxId mc →
      (new maxId mc).entry id = some r := by
    intro r hmem
    rw [entry_new]
    apply writes_of_mem _ _ hmem
    rintro ⟨id', v⟩ hw rfl
    obtain ⟨-, r', canId', rfl, hr', hid'⟩ := mem_tableWrites.mp hw
    obtain ⟨-, r'', canId, heq, hr, hid⟩ := mem_tableWrites.mp hmem
    cases heq
    have hcan : canId' = canId := Int32.toInt_inj.mp (hid'.trans hid.symm)
    subst hcan
    rw [hdistinct r' r canId' hr' hr]
  unfold target
  constructor
  · intro h
    split at h
    · rename_i hin
      by_cases hwritten : ∃ v, (id, v) ∈ tableWrites maxId mc
      · obtain ⟨v, hv⟩ := hwritten
        obtain ⟨hlt, r', canId, rfl, hr, hid⟩ := mem_tableWrites.mp hv
        rw [hentry hv] at h
        cases h
        exact ⟨hlt, canId, hr, hid⟩
      · rw [entry_new, writes_of_notMem _ _ (by
          rintro ⟨id', v⟩ hw rfl
          exact hwritten ⟨v, hw⟩)] at h
        cases h
    · cases h
  · rintro ⟨hlt, canId, hr, hid⟩
    rw [if_pos (hrange.mpr hlt)]
    exact hentry (mem_tableWrites.mpr ⟨hlt, r, canId, rfl, hr, hid⟩)

end RxHandler

/-! ## Status frames -/

/-- What `parse_Rx_frame` returns. -/
structure StatusReading (K : Type) where
  motorId : UInt32
  errSt : UInt32
  pos : K
  vel : K
  torq : K
  temp : K

/-- Bits 8 to 15 of the id. -/
def motorIdOf (frame : LinuxCanFrame) : UInt32 := (frame.canId >>> 8) &&& 0xff

/-- Bits 16 to 21 of the id. -/
def errorBits (frame : LinuxCanFrame) : UInt32 := (frame.canId >>> 16) &&& 0x3f

section Receive

variable {K : Type} [Field K]

/-- `raw * CAN_DATA_ZERO_SCALE - 1`. -/
def normalised (raw : UInt16) : K := (raw.toNat : K) * (1.0 / (32767 : ℕ)) - 1.0

/-- `parse_Rx_frame`. -/
def parseRxFrame (frame : LinuxCanFrame) : StatusReading K where
  motorId := motorIdOf frame
  errSt := errorBits frame
  pos := normalised (readU16Be frame.data 0)
  vel := normalised (readU16Be frame.data 2)
  torq := normalised (readU16Be frame.data 4)
  temp := ((readU16Be frame.data 6).toNat : K) * 0.1

variable [LinearOrder K] [IsStrictOrderedRing K] (mPi : MPi K) {maxId : ℕ}

/-- `Write_Fb`, on the readings of a frame. -/
def RxHandler.writeFb (h : RxHandler maxId) (mc : MotorCon K) (reading : StatusReading K) :
    MotorCon K :=
  match h.target reading.motorId.toNat with
  | none => mc
  | some r =>
      mc.modify r fun m => m.writeFB mPi reading.pos reading.vel reading.torq reading.temp

/-- A received frame, parsed and delivered. -/
def RxHandler.deliver (h : RxHandler maxId) (mc : MotorCon K) (frame : LinuxCanFrame) : MotorCon K :=
  h.writeFb mPi mc (parseRxFrame frame)

/-! ## What a delivery changes -/

/-- The readings of a frame in the units of a motor type: codes over 32767 less one, times the scale;
the temperature in tenths. -/
def decodeStatus (t : RobstrideMotorType) (frame : LinuxCanFrame) : FeedbackParam K where
  pos := ((readU16Be frame.data 0).toNat / (32767 : ℕ) - 1) * (motorConstants mPi t).posScale
  vel := ((readU16Be frame.data 2).toNat / (32767 : ℕ) - 1) * (motorConstants mPi t).velScale
  torque := ((readU16Be frame.data 4).toNat / (32767 : ℕ) - 1) * (motorConstants mPi t).tqScale
  temp := (readU16Be frame.data 6).toNat * 0.1

theorem normalised_eq (raw : UInt16) : (normalised raw : K) = raw.toNat / (32767 : ℕ) - 1 := by
  unfold normalised
  norm_num
  ring

/-- **A delivery, motor by motor.** The target of the frame's id takes the decoded readings; no other
motor changes. -/
theorem RxHandler.motor?_deliver (h : RxHandler maxId) (mc : MotorCon K) (frame : LinuxCanFrame)
    (r : MotorRef) :
    (h.deliver mPi mc frame).motor? r =
      (mc.motor? r).map fun m =>
        if h.target (motorIdOf frame).toNat = some r then
          { m with feedbackParam := decodeStatus mPi r.type frame }
        else m := by
  unfold RxHandler.deliver RxHandler.writeFb
  show (match h.target (motorIdOf frame).toNat with
    | none => mc
    | some r' => mc.modify r' fun m => m.writeFB mPi _ _ _ _).motor? r = _
  cases htarget : h.target (motorIdOf frame).toNat with
  | none => simp
  | some r' =>
      by_cases hr : r = r'
      · subst hr
        rw [MotorCon.motor?_modify_self]
        congr 1
        funext m
        rw [if_pos rfl]
        simp only [RobstrideMotor.writeFB, parseRxFrame, normalised_eq, decodeStatus]
      · have hne : ¬ (some r' = some r) := by
          intro heq
          exact hr (Option.some.inj heq).symm
        rw [MotorCon.motor?_modify_of_ne _ hr]
        simp [hne]

end Receive

end SparqControl.SparqCan
