/-
# SparqControl.Shm.OperatorCommand — the operator's command record and its shared-memory slot.

The segment is ONE record that every writer overwrites and the controller polls. Its bytes are
modelled: `write` replaces the first `OPERATOR_COMMAND_SIZE` of them, `read_relaxed` decodes them
with the packed layout of `OperatorCommandC`, so that what a reader sees is derived from what a
writer wrote. Assignment to a ctypes member keeps the low bits and never raises; the range checks on
zero targets are the only errors.
-/
import SparqControl.Hal.PyValue
import SparqControl.Lib.Packed

namespace SparqControl.Shm

open SparqControl.Hal
open SparqControl.Lib.Packed (Layout leNat)

/-! ## The record -/

/-- `OperatorCommandCode`. -/
inductive OperatorCommandCode where
  | none
  | enable
  | disable
  | damping
  | zeroSet
  | estop
  | resetFault
  | run
  deriving DecidableEq, Repr

namespace OperatorCommandCode

/-- The integer value of a member. -/
def value : OperatorCommandCode → ℕ
  | none => 0
  | enable => 1
  | disable => 2
  | damping => 3
  | zeroSet => 4
  | estop => 5
  | resetFault => 6
  | run => 7

/-- `OperatorCommandCode(n)`; no member has a value above seven. -/
def ofValue? : ℕ → Option OperatorCommandCode
  | 0 => some none
  | 1 => some enable
  | 2 => some disable
  | 3 => some damping
  | 4 => some zeroSet
  | 5 => some estop
  | 6 => some resetFault
  | 7 => some run
  | _ => Option.none

end OperatorCommandCode

/-- `OPERATOR_ZERO_TARGET_CAPACITY`. -/
abbrev operatorZeroTargetCapacity : ℕ := 12

/-- `OPERATOR_ZERO_TARGET_MAGIC`. -/
def operatorZeroTargetMagic : UInt32 := 0x5A45524F

/-- `OperatorZeroTargetC`. -/
structure OperatorZeroTargetC where
  canId : UInt32 := 0
  offsetCount : Int16 := 0
  reserved : UInt16 := 0
  deriving DecidableEq, Repr

/-- `OperatorCommandC`; a fresh one is all zero. -/
structure OperatorCommandC where
  timestampNs : UInt64 := 0
  command : UInt32 := 0
  targetMask : UInt32 := 0
  zeroTargetCount : UInt32 := 0
  zeroTargetMagic : UInt32 := 0
  zeroTargets : Vector OperatorZeroTargetC operatorZeroTargetCapacity := Vector.replicate _ {}
  deriving DecidableEq

/-- The code of a command, `none` when its number is not a member. -/
def OperatorCommandC.code? (c : OperatorCommandC) : Option OperatorCommandCode :=
  OperatorCommandCode.ofValue? c.command.toNat

/-- The packed layout of one zero target. -/
def zeroTargetLayout : Layout OperatorZeroTargetC :=
  (Layout.uint32.pair (Layout.int16.pair Layout.uint16)).iso
    (fun p => ⟨p.1, p.2.1, p.2.2⟩)
    (fun t => (t.canId, t.offsetCount, t.reserved))
    fun _ => rfl

/-- The packed layout of the whole record. -/
def operatorCommandLayout : Layout OperatorCommandC :=
  (Layout.uint64.pair (Layout.uint32.pair (Layout.uint32.pair (Layout.uint32.pair
      (Layout.uint32.pair (Layout.array operatorZeroTargetCapacity zeroTargetLayout)))))).iso
    (fun p => ⟨p.1, p.2.1, p.2.2.1, p.2.2.2.1, p.2.2.2.2.1, p.2.2.2.2.2⟩)
    (fun c => (c.timestampNs, c.command, c.targetMask, c.zeroTargetCount, c.zeroTargetMagic,
      c.zeroTargets))
    fun _ => rfl

/-- `OPERATOR_COMMAND_SIZE`. -/
def operatorCommandSize : ℕ := operatorCommandLayout.width

example : operatorCommandSize = 120 := rfl

/-! ## The segment -/

/-- `OperatorCommandShm`: a segment that is large enough for one record, which the constructor
checks. -/
structure OperatorCommandShm where
  buf : List UInt8
  large_enough : operatorCommandSize ≤ buf.length

namespace OperatorCommandShm

/-- `clear`. -/
def clear (s : OperatorCommandShm) : OperatorCommandShm where
  buf := List.replicate s.buf.length 0
  large_enough := by rw [List.length_replicate]; exact s.large_enough

/-- `create`: a new segment of the requested size, cleared. -/
def create (size : Option ℤ) : Except PyError OperatorCommandShm :=
  let requestedSize := size.getD operatorCommandSize
  if h : requestedSize < operatorCommandSize then
    .error (.valueError "OperatorCommandShm size is too small")
  else .ok
    { buf := List.replicate requestedSize.toNat 0
      large_enough := by rw [List.length_replicate]; omega }

/-- A new segment of the default size. -/
def zeroed : OperatorCommandShm where
  buf := List.replicate operatorCommandSize 0
  large_enough := by rw [List.length_replicate]

/-- `read_relaxed`. -/
def readRelaxed (s : OperatorCommandShm) : OperatorCommandC :=
  operatorCommandLayout.ofBytes (s.buf.take operatorCommandSize)

/-- `write`. -/
def write (s : OperatorCommandShm) (command : OperatorCommandC) : OperatorCommandShm where
  buf := operatorCommandLayout.toBytes command ++ s.buf.drop operatorCommandSize
  large_enough := by
    rw [List.length_append, Layout.length_toBytes]
    exact Nat.le_add_right _ _

/-- What is written is what is read. -/
@[simp] theorem readRelaxed_write (s : OperatorCommandShm) (command : OperatorCommandC) :
    (s.write command).readRelaxed = command := by
  have htake : (s.write command).buf.take operatorCommandSize =
      operatorCommandLayout.toBytes command :=
    List.take_left' (operatorCommandLayout.length_toBytes command)
  rw [readRelaxed, htake]
  have h := operatorCommandLayout.ofBytes_toBytes_append command []
  rwa [List.append_nil] at h

/-- A cleared segment reads as the empty command. -/
@[simp] theorem readRelaxed_clear (s : OperatorCommandShm) : s.clear.readRelaxed = {} := by
  have htake : s.clear.buf.take operatorCommandSize = List.replicate operatorCommandSize 0 := by
    rw [clear, List.take_replicate, Nat.min_eq_left s.large_enough]
  rw [readRelaxed, htake]
  decide +kernel

/-! ## Building a command -/

/-- The check `_build_command` makes on one zero target. -/
def checkZeroTarget (t : ℤ × ℤ) : Except PyError Unit :=
  if ¬ (0 ≤ t.1 ∧ t.1 ≤ 0x1FFFFFFF) then .error (.valueError "CAN ID out of range")
  else if ¬ (-32768 ≤ t.2 ∧ t.2 ≤ 32767) then
    .error (.valueError "MIT zero offset_count out of int16 range")
  else .ok ()

/-- The loop of `_build_command` over the targets: each is checked, then stored at its index. -/
def fillZeroTargets : List (ℤ × ℤ) → ℕ →
    Vector OperatorZeroTargetC operatorZeroTargetCapacity →
    Except PyError (Vector OperatorZeroTargetC operatorZeroTargetCapacity)
  | [], _, v => .ok v
  | t :: rest, index, v => do
      -- the check of a later target comes after the earlier ones are stored
      checkZeroTarget t
      let stored : OperatorZeroTargetC :=
        { canId := UInt32.ofInt t.1, offsetCount := Int16.ofInt t.2 }
      fillZeroTargets rest (index + 1) (v.setIfInBounds index stored)

/-- `_build_command` with the clock reading it takes. -/
def buildCommand (timeNs code targetMask : ℤ) (zeroTargets : List (ℤ × ℤ)) :
    Except PyError OperatorCommandC := do
  if zeroTargets.length > operatorZeroTargetCapacity then
    throw (.valueError "zero_set target count exceeds capacity")
  let filled ← fillZeroTargets zeroTargets 0 (Vector.replicate _ {})
  return {
    timestampNs := UInt64.ofInt timeNs
    command := UInt32.ofInt code
    targetMask := UInt32.ofInt targetMask
    zeroTargetCount := UInt32.ofNat zeroTargets.length
    zeroTargetMagic := if zeroTargets.isEmpty then 0 else operatorZeroTargetMagic
    zeroTargets := filled }

/-- Write a built command; a failed build leaves the segment as it was. -/
def publishBuilt (s : OperatorCommandShm) (built : Except PyError OperatorCommandC) :
    OperatorCommandShm × Except PyError UInt64 :=
  match built with
  | .ok command => (s.write command, .ok command.timestampNs)
  | .error e => (s, .error e)

/-- `publish`. -/
def publish (s : OperatorCommandShm) (timeNs code targetMask : ℤ) :
    OperatorCommandShm × Except PyError UInt64 :=
  s.publishBuilt (buildCommand timeNs code targetMask [])

/-- `publish_zero_set`. -/
def publishZeroSet (s : OperatorCommandShm) (timeNs : ℤ) (targets : List (ℤ × ℤ)) :
    OperatorCommandShm × Except PyError UInt64 :=
  s.publishBuilt (buildCommand timeNs OperatorCommandCode.zeroSet.value 0 targets)

/-! ## What is accepted, and what is stored -/

/-- A target list `publish_zero_set` accepts. -/
def AcceptedTargets (targets : List (ℤ × ℤ)) : Prop :=
  targets.length ≤ operatorZeroTargetCapacity ∧
    ∀ t ∈ targets, (0 ≤ t.1 ∧ t.1 ≤ 0x1FFFFFFF) ∧ (-32768 ≤ t.2 ∧ t.2 ≤ 32767)

instance (targets : List (ℤ × ℤ)) : Decidable (AcceptedTargets targets) :=
  inferInstanceAs (Decidable (_ ∧ _))

theorem checkZeroTarget_eq_ok_iff {t : ℤ × ℤ} {r : Unit} :
    checkZeroTarget t = .ok r ↔
      (0 ≤ t.1 ∧ t.1 ≤ 0x1FFFFFFF) ∧ (-32768 ≤ t.2 ∧ t.2 ≤ 32767) := by
  unfold checkZeroTarget
  by_cases h1 : 0 ≤ t.1 ∧ t.1 ≤ 0x1FFFFFFF
  · by_cases h2 : -32768 ≤ t.2 ∧ t.2 ≤ 32767 <;> simp [h1, h2]
  · simp [h1]

/-- The loop succeeds exactly when every target passes its check; it stores the targets from `index`
on and touches nothing else. -/
theorem fillZeroTargets_eq_ok_iff (targets : List (ℤ × ℤ)) (index : ℕ)
    (v w : Vector OperatorZeroTargetC operatorZeroTargetCapacity) :
    fillZeroTargets targets index v = .ok w ↔
      (∀ t ∈ targets, (0 ≤ t.1 ∧ t.1 ≤ 0x1FFFFFFF) ∧ (-32768 ≤ t.2 ∧ t.2 ≤ 32767)) ∧
      ∀ i (hi : i < operatorZeroTargetCapacity), w[i] =
        if index ≤ i then
          match targets[i - index]? with
          | some t => { canId := UInt32.ofInt t.1, offsetCount := Int16.ofInt t.2 }
          | none => v[i]
        else v[i] := by
  induction targets generalizing index v with
  | nil =>
      simp only [fillZeroTargets, Except.ok.injEq, List.not_mem_nil, false_implies, implies_true,
        true_and, List.getElem?_nil, ite_self]
      constructor
      · rintro rfl i hi
        rfl
      · intro h
        exact Vector.ext fun i hi => (h i hi).symm
  | cons t rest ih =>
      simp only [fillZeroTargets, bind_eq_ok_iff, checkZeroTarget_eq_ok_iff, ih,
        List.forall_mem_cons, and_assoc, exists_and_left, exists_const]
      refine and_congr_right fun _ => and_congr_right fun _ => and_congr_right fun _ =>
        and_congr_right fun _ => and_congr_right fun _ => forall_congr' fun i =>
        forall_congr' fun hi => ?_
      -- below, at and above the place just stored
      rw [Vector.getElem_setIfInBounds]
      rcases Nat.lt_trichotomy i index with hlt | rfl | hgt
      · rw [if_neg (by omega), if_neg (by omega), if_neg (by omega)]
      · rw [if_neg (by omega), if_pos rfl, if_pos (Nat.le_refl _), Nat.sub_self]
        rfl
      · rw [if_pos (by omega), if_neg (by omega), if_pos (by omega)]
        obtain ⟨k, hk⟩ : ∃ k, i - index = k + 1 := ⟨i - index - 1, by omega⟩
        rw [hk, List.getElem?_cons_succ, show i - (index + 1) = k by omega]

/-- The target block of an accepted list: the targets in order, the rest zero. -/
def storedTargets (targets : List (ℤ × ℤ)) : Vector OperatorZeroTargetC operatorZeroTargetCapacity :=
  Vector.ofFn fun i : Fin operatorZeroTargetCapacity =>
    match targets[i.val]? with
    | some t => { canId := UInt32.ofInt t.1, offsetCount := Int16.ofInt t.2 }
    | none => {}

/-- The record `_build_command` returns on an accepted list. -/
def builtCommand (timeNs code targetMask : ℤ) (targets : List (ℤ × ℤ)) : OperatorCommandC where
  timestampNs := UInt64.ofInt timeNs
  command := UInt32.ofInt code
  targetMask := UInt32.ofInt targetMask
  zeroTargetCount := UInt32.ofNat targets.length
  zeroTargetMagic := if targets.isEmpty then 0 else operatorZeroTargetMagic
  zeroTargets := storedTargets targets

/-- `_build_command` succeeds exactly on accepted targets. -/
theorem buildCommand_eq_ok_iff {timeNs code targetMask : ℤ} {targets : List (ℤ × ℤ)}
    {c : OperatorCommandC} :
    buildCommand timeNs code targetMask targets = .ok c ↔
      AcceptedTargets targets ∧ c = builtCommand timeNs code targetMask targets := by
  unfold buildCommand AcceptedTargets
  by_cases hlen : targets.length > operatorZeroTargetCapacity
  · simp [hlen, throw, throwThe, MonadExceptOf.throw, bind, Except.bind, not_le.mpr hlen]
  · have hfill : ∀ w, fillZeroTargets targets 0 (Vector.replicate _ {}) = .ok w ↔
        (∀ t ∈ targets, (0 ≤ t.1 ∧ t.1 ≤ 0x1FFFFFFF) ∧ (-32768 ≤ t.2 ∧ t.2 ≤ 32767)) ∧
          w = storedTargets targets := by
      intro w
      rw [fillZeroTargets_eq_ok_iff]
      refine and_congr_right fun _ => ⟨fun h => Vector.ext fun i hi => ?_, ?_⟩
      · simpa [storedTargets] using h i hi
      · rintro rfl i hi
        simp [storedTargets]
    rw [if_neg hlen]
    simp only [bind_eq_ok_iff, hfill]
    constructor
    · rintro ⟨w, ⟨hall, rfl⟩, hc⟩
      exact ⟨⟨not_lt.mp hlen, hall⟩, (Except.ok.inj hc).symm⟩
    · rintro ⟨⟨-, hall⟩, rfl⟩
      exact ⟨_, ⟨hall, rfl⟩, rfl⟩

/-- `publish` never fails: it overwrites the record. -/
theorem publish_eq (s : OperatorCommandShm) (timeNs code targetMask : ℤ) :
    s.publish timeNs code targetMask =
      (s.write (builtCommand timeNs code targetMask []), .ok (UInt64.ofInt timeNs)) := by
  have h : buildCommand timeNs code targetMask [] = .ok (builtCommand timeNs code targetMask []) :=
    buildCommand_eq_ok_iff.mpr ⟨⟨Nat.zero_le _, by simp⟩, rfl⟩
  rw [publish, h]
  rfl

/-- `publish_zero_set` on an accepted list overwrites the record. -/
theorem publishZeroSet_accepted (s : OperatorCommandShm) (timeNs : ℤ) {targets : List (ℤ × ℤ)}
    (h : AcceptedTargets targets) :
    s.publishZeroSet timeNs targets =
      (s.write (builtCommand timeNs OperatorCommandCode.zeroSet.value 0 targets),
        .ok (UInt64.ofInt timeNs)) := by
  rw [publishZeroSet, buildCommand_eq_ok_iff.mpr ⟨h, rfl⟩]
  rfl

/-- `publish_zero_set` on any other list raises and leaves the segment as it was. -/
theorem publishZeroSet_rejected (s : OperatorCommandShm) (timeNs : ℤ) {targets : List (ℤ × ℤ)}
    (h : ¬ AcceptedTargets targets) :
    ∃ e, s.publishZeroSet timeNs targets = (s, .error e) := by
  rw [publishZeroSet]
  cases hb : buildCommand timeNs OperatorCommandCode.zeroSet.value 0 targets with
  | error e => exact ⟨e, rfl⟩
  | ok c => exact absurd (buildCommand_eq_ok_iff.mp hb).1 h

end OperatorCommandShm

end SparqControl.Shm
