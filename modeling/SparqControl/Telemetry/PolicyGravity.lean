/-
# SparqControl.Telemetry.PolicyGravity — from a quaternion frame to the policy's idea of down.

The host decodes a quaternion, publishes it with the gravity direction it computes from it, and the
policy process, on the other side of the shared memory, computes the direction once more: a rotation
matrix on the reordered quaternion, which it normalises itself. Both formulas are `down` of
`Lib.UnitQuat`, the host's with x and y exchanged.

The policy DIVIDES BY THE NORM and does not look at it. With normalisation on, whatever the payload, a
unit reaches it (`normalizeQuat` falls back to the identity); with normalisation off an all-zero
payload is published as the zero quaternion, and the division raises. `policy_gravity_iff` says that
nothing else does.
-/
import Mathlib.Data.Matrix.Mul
import Mathlib.LinearAlgebra.Matrix.Notation
import SparqControl.Hw.ImuStreams
import SparqControl.Lib.UnitQuat
import SparqControl.Telemetry.RobotState

namespace SparqControl.Telemetry

open SparqControl.Hal SparqControl.Hw
open SparqControl.Hw.SPGActuatorProtocol (readI16)
open SparqControl.Lib.Packed (Layout leNat)
open SparqControl.Lib.Trace
open SparqControl.Lib.UnitQuat

/-! ## The policy -/

section Policy

variable {K : Type} [Field K] [DecidableEq K]

/-- The rotation matrix of `_quat_to_projected_gravity`, of a unit quaternion. -/
def rotation (w x y z : K) : Matrix (Fin 3) (Fin 3) K :=
  !![1 - 2.0 * (y * y + z * z), 2.0 * (x * y - z * w), 2.0 * (x * z + y * w);
     2.0 * (x * y + z * w), 1 - 2.0 * (x * x + z * z), 2.0 * (y * z - x * w);
     2.0 * (x * z - y * w), 2.0 * (y * z + x * w), 1 - 2.0 * (x * x + y * y)]

/-- `_quat_to_projected_gravity`. The division by a norm of zero raises. -/
def quatToProjectedGravity (sqrt : K → K) (quatWxyz : K × K × K × K) : Except PyError (K × K × K) :=
  let (w, x, y, z) := quatWxyz
  let norm := sqrt (w * w + x * x + y * y + z * z)
  if norm = 0 then .error .zeroDivisionError
  else
    let pg := (rotation (w / norm) (x / norm) (y / norm) (z / norm)).transpose.mulVec ![0, 0, -1]
    .ok (pg 0, pg 1, pg 2)

/-- The quaternion the policy process takes out of the control state, scalar first. -/
def policyQuat (imu : ImuStateC K) : K × K × K × K :=
  let quatXyzw := imu.quatXyzw.toList
  (quatXyzw.getD 3 0, quatXyzw.getD 0 0, quatXyzw.getD 1 0, quatXyzw.getD 2 0)

/-- The IMU part of `_make_snapshot`, right after the fault flags were updated. -/
def imuSnapshot (d : IMUDriver K) : ImuSnapshot K where
  quatXyzw := d.state.quatXyzw.map fun q => #v[q.1, q.2.1, q.2.2.1, q.2.2.2]
  projectedGravityB := d.state.projectedGravityB.map fun v => #v[v.1, v.2.1, v.2.2]
  angularVelocityRadS := d.state.angularVelocityRadS.map fun v => #v[v.1, v.2.1, v.2.2]
  lastQuatT := d.state.lastQuatT
  lastGyroT := d.state.lastGyroT
  quatOnline := d.quatComm.isOnline
  gyroOnline := d.gyroComm.isOnline
  quatStale := d.quatComm.isStale
  gyroStale := d.gyroComm.isStale

/-- The gravity the policy computes from what the controller publishes of a driver. -/
def policyGravity (sqrt : K → K) (d : IMUDriver K) : Except PyError (K × K × K) :=
  quatToProjectedGravity sqrt (policyQuat (ImuStateC.ofSnapshot (imuSnapshot d)))

end Policy

/-! ## One formula -/

section Formula

variable {K : Type} [Field K] [LinearOrder K] [IsStrictOrderedRing K]

/-- **The policy's matrix is `down`** of the normalised quaternion, where there is a norm. -/
theorem quatToProjectedGravity_eq (sqrt : K → K) (x y z w : K) :
    quatToProjectedGravity sqrt (w, x, y, z) =
      if sqrt (normSq (x, y, z, w)) = 0 then .error .zeroDivisionError
      else .ok (down (unitize sqrt (x, y, z, w))) := by
  have hnorm : w * w + x * x + y * y + z * z = normSq (x, y, z, w) := by
    simp only [normSq]
    ring
  have htwo : (2.0 : K) = 2 := by norm_num
  simp only [quatToProjectedGravity, hnorm, unitize]
  split
  · rfl
  · simp only [rotation, down, htwo, Matrix.mulVec, dotProduct, Fin.sum_univ_three,
      Matrix.transpose_apply]
    simp

/-- The host's cross products are `down` with x and y exchanged. -/
theorem projectedGravityFromXyzw_eq (q : K × K × K × K) :
    projectedGravityFromXyzw q = ((down q).2.1, (down q).1, (down q).2.2) := by
  obtain ⟨x, y, z, w⟩ := q
  have htwo : (2.0 : K) = 2 := by norm_num
  simp only [projectedGravityFromXyzw, down, htwo, Prod.mk.injEq]
  refine ⟨?_, ?_, ?_⟩ <;> ring

/-- The host's normalisation always gives a unit. -/
theorem normSq_normalizeQuat {sqrt : K → K} (h : IsSquareRoot sqrt) (q : K × K × K × K) :
    normSq (Hw.normalizeQuat sqrt q) = 1 := by
  have heq : Hw.normalizeQuat sqrt q = safeNormalize sqrt 1e-12 q := rfl
  rw [heq]
  exact normSq_safeNormalize h (by norm_num) q

/-- The policy on a quaternion that is not zero: a unit vector. -/
theorem quatToProjectedGravity_of_pos {sqrt : K → K} (h : IsSquareRoot sqrt) {x y z w : K}
    (hq : 0 < normSq (x, y, z, w)) :
    quatToProjectedGravity sqrt (w, x, y, z) = .ok (down (unitize sqrt (x, y, z, w))) ∧
      lengthSq (down (unitize sqrt (x, y, z, w))) = 1 := by
  have hnorm : sqrt (normSq (x, y, z, w)) ≠ 0 := ((h.pos_iff hq.le).mpr hq).ne'
  exact ⟨by rw [quatToProjectedGravity_eq, if_neg hnorm], lengthSq_down (normSq_unitize h hq)⟩

/-- **The policy raises on the zero quaternion, and on no other.** -/
theorem quatToProjectedGravity_isOk_iff {sqrt : K → K} (h : IsSquareRoot sqrt) (x y z w : K) :
    (∃ g, quatToProjectedGravity sqrt (w, x, y, z) = .ok g ∧ lengthSq g = 1) ↔
      (x, y, z, w) ≠ (0, 0, 0, 0) := by
  rw [ne_eq, ← normSq_eq_zero_iff]
  constructor
  · rintro ⟨g, hg, -⟩ h0
    rw [quatToProjectedGravity_eq, if_pos ((h.eq_zero_iff (normSq_nonneg _)).mpr h0)] at hg
    cases hg
  · intro h0
    exact ⟨_, quatToProjectedGravity_of_pos h (lt_of_le_of_ne (normSq_nonneg _) (Ne.symm h0))⟩

/-- Negating the quaternion does not change the policy's vector. -/
theorem quatToProjectedGravity_neg (sqrt : K → K) (x y z w : K) :
    quatToProjectedGravity sqrt (-w, -x, -y, -z) = quatToProjectedGravity sqrt (w, x, y, z) := by
  have hnorm : normSq (-x, -y, -z, -w) = normSq (x, y, z, w) := by
    simp only [normSq, neg_mul_neg]
  have hneg : unitize sqrt (-x, -y, -z, -w) =
      (-(unitize sqrt (x, y, z, w)).1, -(unitize sqrt (x, y, z, w)).2.1,
        -(unitize sqrt (x, y, z, w)).2.2.1, -(unitize sqrt (x, y, z, w)).2.2.2) := by
    simp only [unitize, hnorm, neg_div]
  rw [quatToProjectedGravity_eq, quatToProjectedGravity_eq, hnorm, hneg, down_neg]

/-- Nor does scaling it by a positive factor. -/
theorem quatToProjectedGravity_smul {sqrt : K → K} (h : IsSquareRoot sqrt) {c : K} (hc : 0 < c)
    (x y z w : K) :
    quatToProjectedGravity sqrt (c * w, c * x, c * y, c * z) =
      quatToProjectedGravity sqrt (w, x, y, z) := by
  have hnormalize := unitize_smul h hc (x, y, z, w)
  simp only at hnormalize
  have hzero : sqrt (normSq (c * x, c * y, c * z, c * w)) = 0 ↔ sqrt (normSq (x, y, z, w)) = 0 := by
    rw [h.eq_zero_iff (normSq_nonneg _), h.eq_zero_iff (normSq_nonneg _), normSq_eq_zero_iff,
      normSq_eq_zero_iff]
    simp [hc.ne']
  rw [quatToProjectedGravity_eq, quatToProjectedGravity_eq, hnormalize]
  simp only [hzero]

/-! ## The published quaternion -/

omit [IsStrictOrderedRing K] in
theorem policyGravity_of_some (sqrt : K → K) {d : IMUDriver K} {x y z w : K}
    (hq : d.state.quatXyzw = some (x, y, z, w)) :
    policyGravity sqrt d = quatToProjectedGravity sqrt (w, x, y, z) := by
  simp [policyGravity, policyQuat, ImuStateC.ofSnapshot, imuSnapshot, hq]

omit [IsStrictOrderedRing K] in
/-- Before the first frame the identity is published. -/
theorem policyGravity_of_none (sqrt : K → K) {d : IMUDriver K} (hq : d.state.quatXyzw = none) :
    policyGravity sqrt d = quatToProjectedGravity sqrt (1, 0, 0, 0) := by
  simp [policyGravity, policyQuat, ImuStateC.ofSnapshot, imuSnapshot, hq]

variable (p : E2BoxIMUProtocol K) (sqrt : K → K) (quatTimeout gyroTimeout : K)

/-- The quaternion an event carries. -/
def quatCarried : ImuEvent K → Option (K × K × K × K)
  | .frame f now =>
      if f.canId = p.quatId ∧ p.quatFails (.frame f now) = false then
        some (p.quatOfPayload sqrt f.data)
      else none
  | .updateFaultFlags _ _ => none

omit [IsStrictOrderedRing K] in
/-- The driver's quaternion is the one of the latest frame that decodes. -/
theorem quatXyzw_afterEvents (events : List (ImuEvent K)) :
    (p.afterEvents sqrt quatTimeout gyroTimeout events).state.quatXyzw =
      latest (quatCarried p sqrt) events := by
  have hstep : ∀ d e, (p.imuStep sqrt quatTimeout gyroTimeout d e).1.state.quatXyzw =
      (quatCarried p sqrt e <|> d.state.quatXyzw) := by
    intro d e
    cases e with
    | updateFaultFlags quatNow gyroNow => rfl
    | frame f now =>
        simp only [E2BoxIMUProtocol.imuStep, quatCarried]
        rcases p.onFrame_cases sqrt d f now with
          ⟨hid, hok, hd⟩ | ⟨hid, -, -, hd⟩ | ⟨hfail, hd⟩ | ⟨hid, -, hd⟩
        · rw [hd, if_pos ⟨hid, hok⟩]
          rfl
        · rw [hd, if_neg fun h => hid h.1]
          rfl
        · rw [hd, if_neg]
          · rfl
          · rintro ⟨hid, hok⟩
            rcases hfail with hfail | ⟨hids, -⟩
            · rw [hok] at hfail
              cases hfail
            · exact hids hid
        · rw [hd, if_neg fun h => hid h.1]
          rfl
  unfold E2BoxIMUProtocol.afterEvents
  rw [final_latest_or (f := fun d : IMUDriver K => d.state.quatXyzw) hstep]
  cases latest (quatCarried p sqrt) events <;> rfl

/-- With normalisation on every payload is published as a unit. -/
theorem normSq_quatOfPayload (h : IsSquareRoot sqrt) (hon : p.normalizeQuat = true)
    (data : List UInt8) : normSq (p.quatOfPayload sqrt data) = 1 := by
  simp only [E2BoxIMUProtocol.quatOfPayload, hon, if_true]
  exact normSq_normalizeQuat h _

/-- With normalisation off only the all-zero payload is published as the zero quaternion. -/
theorem quatOfPayload_eq_zero_iff (hoff : p.normalizeQuat = false) (hscale : p.quatScale ≠ 0)
    {data : List UInt8} (hlen : data.length = 8) :
    p.quatOfPayload sqrt data = (0, 0, 0, 0) ↔ data = List.replicate 8 0 := by
  have hdata : ∃ b0 b1 b2 b3 b4 b5 b6 b7, data = [b0, b1, b2, b3, b4, b5, b6, b7] := by
    match data, hlen with
    | [b0, b1, b2, b3, b4, b5, b6, b7], _ => exact ⟨b0, b1, b2, b3, b4, b5, b6, b7, rfl⟩
  obtain ⟨b0, b1, b2, b3, b4, b5, b6, b7, rfl⟩ := hdata
  simp only [E2BoxIMUProtocol.quatOfPayload, hoff, Bool.false_eq_true, if_false, Prod.mk.injEq,
    neg_eq_zero, div_eq_zero_iff, hscale, or_false, Int.cast_eq_zero, readI16, List.drop_zero,
    List.drop_succ_cons, Layout.toInt_int16_ofBytes_eq_zero_iff, List.replicate, List.cons.injEq,
    and_true]
  tauto

/-- The policy computes a unit vector from what is published of a driver. -/
def GravityOk (d : IMUDriver K) : Prop := ∃ g, policyGravity sqrt d = .ok g ∧ lengthSq g = 1

/-- **What is published decides.** The policy computes a unit vector exactly when the driver's quaternion
is not the zero quaternion. -/
theorem gravityOk_iff (h : IsSquareRoot sqrt) (d : IMUDriver K) :
    GravityOk sqrt d ↔ d.state.quatXyzw ≠ some (0, 0, 0, 0) := by
  unfold GravityOk
  cases hq : d.state.quatXyzw with
  | none =>
      rw [policyGravity_of_none sqrt hq, quatToProjectedGravity_isOk_iff h]
      simp
  | some q =>
      obtain ⟨x, y, z, w⟩ := q
      rw [policyGravity_of_some sqrt hq, quatToProjectedGravity_isOk_iff h]
      simp

/-- An event that publishes the zero quaternion is an all-zero payload with normalisation off. -/
theorem quatCarried_eq_zero_iff (h : IsSquareRoot sqrt) (hscale : p.quatScale ≠ 0) (e : ImuEvent K) :
    quatCarried p sqrt e = some (0, 0, 0, 0) ↔
      p.normalizeQuat = false ∧ ∃ f now, e = .frame f now ∧ f.canId = p.quatId ∧
        f.data = List.replicate 8 0 := by
  cases e with
  | updateFaultFlags quatNow gyroNow => simp [quatCarried]
  | frame f now =>
      have hfails : p.quatFails (.frame f now) = false ↔ f.canId = p.quatId → f.data.length = 8 := by
        simp [E2BoxIMUProtocol.quatFails, E2BoxIMUProtocol.failsOn, hscale]
      simp only [quatCarried, hfails, ImuEvent.frame.injEq]
      constructor
      · intro hcarried
        split at hcarried
        · rename_i hframe
          have hlen := hframe.2 hframe.1
          have hzero := Option.some.inj hcarried
          cases hnorm : p.normalizeQuat with
          | true =>
              have hunit := normSq_quatOfPayload p sqrt h hnorm f.data
              rw [hzero] at hunit
              simp [normSq] at hunit
          | false =>
              exact ⟨rfl, f, now, ⟨rfl, rfl⟩, hframe.1,
                (quatOfPayload_eq_zero_iff p sqrt hnorm hscale hlen).mp hzero⟩
        · cases hcarried
      · rintro ⟨hoff, f', now', ⟨rfl, rfl⟩, hid, hdata⟩
        have hlen : f.data.length = 8 := by rw [hdata]; rfl
        rw [if_pos ⟨hid, fun _ => hlen⟩, (quatOfPayload_eq_zero_iff p sqrt hoff hscale hlen).mpr hdata]

end Formula

/-! ## The policy never sees a zero quaternion -/

/-- **Which IMU input stops the policy.** For every sequence of frames on any ids and a positive scale,
the policy computes a unit vector from whatever was published on the way exactly when the quaternion is
normalised or no frame on the quaternion id is all zeros. -/
theorem policy_gravity_iff (p : E2BoxIMUProtocol ℝ) (hscale : 0 < p.quatScale)
    (quatTimeout gyroTimeout : ℝ) (events : List (ImuEvent ℝ)) :
    (∀ n, GravityOk Real.sqrt (p.afterEvents Real.sqrt quatTimeout gyroTimeout (events.take n))) ↔
      p.normalizeQuat = true ∨ ∀ f now, .frame f now ∈ events → f.canId = p.quatId →
        f.data ≠ List.replicate 8 0 := by
  simp only [gravityOk_iff Real.sqrt isSquareRoot_real, quatXyzw_afterEvents]
  constructor
  · intro hok
    cases hnorm : p.normalizeQuat with
    | true => exact Or.inl rfl
    | false =>
        refine Or.inr fun f now hmem hid hdata => ?_
        -- the state right after the all-zero frame is published as zero
        obtain ⟨n, hn⟩ := List.mem_iff_getElem?.mp hmem
        refine hok (n + 1) ?_
        rw [List.take_add_one, hn, Option.toList_some, latest_concat,
          (quatCarried_eq_zero_iff p Real.sqrt isSquareRoot_real hscale.ne' _).mpr
            ⟨hnorm, f, now, rfl, hid, hdata⟩]
        rfl
  · intro hcond n hzero
    obtain ⟨e, he, hcarried⟩ := mem_of_latest hzero
    obtain ⟨hoff, f, now, rfl, hid, hdata⟩ :=
      (quatCarried_eq_zero_iff p Real.sqrt isSquareRoot_real hscale.ne' _).mp hcarried
    rcases hcond with hon | hcond
    · rw [hoff] at hon
      cases hon
    · exact hcond f now (List.mem_of_mem_take he) hid hdata

/-- The configured IMU normalises, so an all-zero frame does not stop the policy. -/
theorem policy_gravity_normalized :
    GravityOk Real.sqrt ((⟨0x221, 0x2A1, 0x321, 1, 2, 3, 10000.0, 100.0, true⟩ :
      E2BoxIMUProtocol ℝ).afterEvents Real.sqrt 1 1
        ([.frame ⟨0x2A1, [0, 0, 0, 0, 0, 0, 0, 0]⟩ 1].take 1)) :=
  (policy_gravity_iff ⟨0x221, 0x2A1, 0x321, 1, 2, 3, 10000.0, 100.0, true⟩ (by norm_num) 1 1
    [.frame ⟨0x2A1, [0, 0, 0, 0, 0, 0, 0, 0]⟩ 1]).mpr (Or.inl rfl) 1

/-- With normalisation off, one all-zero quaternion frame makes the policy divide by zero. -/
theorem policy_gravity_zero_payload :
    policyGravity Real.sqrt ((⟨0x221, 0x2A1, 0x321, 1, 2, 3, 10000.0, 100.0, false⟩ :
      E2BoxIMUProtocol ℝ).afterEvents Real.sqrt 1 1
        [.frame ⟨0x2A1, [0, 0, 0, 0, 0, 0, 0, 0]⟩ 1]) = .error .zeroDivisionError := by
  have hquat : ((⟨0x221, 0x2A1, 0x321, 1, 2, 3, 10000.0, 100.0, false⟩ :
      E2BoxIMUProtocol ℝ).afterEvents Real.sqrt 1 1
        [.frame ⟨0x2A1, [0, 0, 0, 0, 0, 0, 0, 0]⟩ 1]).state.quatXyzw = some (0, 0, 0, 0) := by
    have hcarried := (quatCarried_eq_zero_iff
      (⟨0x221, 0x2A1, 0x321, 1, 2, 3, 10000.0, 100.0, false⟩ : E2BoxIMUProtocol ℝ) Real.sqrt
      isSquareRoot_real (by norm_num) (.frame ⟨0x2A1, [0, 0, 0, 0, 0, 0, 0, 0]⟩ 1)).mpr
      ⟨rfl, _, _, rfl, rfl, rfl⟩
    rw [quatXyzw_afterEvents, ← List.nil_append [ImuEvent.frame _ _], latest_concat, hcarried]
    rfl
  rw [policyGravity_of_some Real.sqrt hquat, quatToProjectedGravity_eq, if_pos]
  simp [normSq]

/-! ## Host and policy agree -/

/-- What eight bytes on the quaternion id do to the driver. -/
theorem onFrame_quat (p : E2BoxIMUProtocol ℝ) (hscale : 0 < p.quatScale) (d : IMUDriver ℝ)
    {data : List UInt8} (hlen : data.length = 8) (now : ℝ) :
    d.onFrame (p.protocol Real.sqrt) ⟨p.quatId, data⟩ now = d.mergeQuat
      { quatXyzw := some (p.quatOfPayload Real.sqrt data)
        projectedGravityB := some (projectedGravityFromXyzw (p.quatOfPayload Real.sqrt data))
        lastQuatT := now
        lastGyroT := 0 } := by
  have hdecode : (p.protocol Real.sqrt).decodeFrame ⟨p.quatId, data⟩ now =
      (p.decodeQuat Real.sqrt data now).map some := if_pos rfl
  unfold IMUDriver.onFrame
  rw [hdecode, E2BoxIMUProtocol.decodeQuat, if_neg (not_not.mpr hlen), if_neg hscale.ne']
  rfl

/-- **Projected gravity is consistent.** With normalisation on, whatever eight bytes arrive on the
quaternion id and whatever the driver knew before: the host publishes a unit vector, and it is the
vector the policy computes from the published quaternion with x and y exchanged. The policy's vector
does not change when a quaternion is negated or scaled by a positive factor. -/
theorem projected_gravity_consistent (p : E2BoxIMUProtocol ℝ) (hscale : 0 < p.quatScale)
    (hon : p.normalizeQuat = true) :
    (∀ (d : IMUDriver ℝ) (data : List UInt8) (now : ℝ), data.length = 8 →
      ∃ gx gy gz, policyGravity Real.sqrt (d.onFrame (p.protocol Real.sqrt) ⟨p.quatId, data⟩ now) =
          .ok (gx, gy, gz) ∧
        (d.onFrame (p.protocol Real.sqrt) ⟨p.quatId, data⟩ now).state.projectedGravityB =
          some (gy, gx, gz) ∧
        (ImuStateC.ofSnapshot (imuSnapshot (d.onFrame (p.protocol Real.sqrt) ⟨p.quatId, data⟩
          now))).projectedGravityB = #v[gy, gx, gz] ∧
        gx * gx + gy * gy + gz * gz = 1) ∧
    (∀ x y z w : ℝ, quatToProjectedGravity Real.sqrt (-w, -x, -y, -z) =
      quatToProjectedGravity Real.sqrt (w, x, y, z)) ∧
    ∀ c x y z w : ℝ, 0 < c → quatToProjectedGravity Real.sqrt (c * w, c * x, c * y, c * z) =
      quatToProjectedGravity Real.sqrt (w, x, y, z) := by
  refine ⟨?_, quatToProjectedGravity_neg Real.sqrt, fun c x y z w hc =>
    quatToProjectedGravity_smul isSquareRoot_real hc x y z w⟩
  intro d data now hlen
  have hunit := normSq_quatOfPayload p Real.sqrt isSquareRoot_real hon data
  rw [onFrame_quat p hscale d hlen, projectedGravityFromXyzw_eq]
  generalize p.quatOfPayload Real.sqrt data = q at hunit ⊢
  obtain ⟨x, y, z, w⟩ := q
  have hpos : 0 < normSq (x, y, z, w) := by
    rw [hunit]
    exact one_pos
  obtain ⟨hpolicy, hlength⟩ := quatToProjectedGravity_of_pos isSquareRoot_real hpos
  rw [unitize_of_unit isSquareRoot_real hunit] at hpolicy hlength
  refine ⟨(down (x, y, z, w)).1, (down (x, y, z, w)).2.1, (down (x, y, z, w)).2.2, ?_, rfl, rfl,
    hlength⟩
  rw [policyGravity_of_some Real.sqrt rfl, hpolicy]

/-- A robot turned about its y axis by the angle whose half has sine 0.6: gravity points forward and
down. -/
theorem projected_gravity_consistent_tilted :
    policyGravity Real.sqrt (IMUDriver.init.onFrame
        ((⟨0x221, 0x2A1, 0x321, 1, 2, 3, 10000.0, 100.0, true⟩ : E2BoxIMUProtocol ℝ).protocol Real.sqrt)
        ⟨0x2A1, [0, 0, 112, 23, 0, 0, 64, 31]⟩ 1) = .ok (0.96, 0, -0.28) ∧
      (IMUDriver.init.onFrame
        ((⟨0x221, 0x2A1, 0x321, 1, 2, 3, 10000.0, 100.0, true⟩ : E2BoxIMUProtocol ℝ).protocol Real.sqrt)
        ⟨0x2A1, [0, 0, 112, 23, 0, 0, 64, 31]⟩ 1).state.projectedGravityB = some (0, 0.96, -0.28) := by
  have hscale : (0 : ℝ) < 10000.0 := by norm_num
  obtain ⟨hall, -⟩ := projected_gravity_consistent
    ⟨0x221, 0x2A1, 0x321, 1, 2, 3, 10000.0, 100.0, true⟩ hscale rfl
  obtain ⟨gx, gy, gz, hpolicy, hhost, -, -⟩ :=
    hall IMUDriver.init [0, 0, 112, 23, 0, 0, 64, 31] 1 rfl
  have hquat : (⟨0x221, 0x2A1, 0x321, 1, 2, 3, 10000.0, 100.0, true⟩ : E2BoxIMUProtocol ℝ).quatOfPayload
      Real.sqrt [0, 0, 112, 23, 0, 0, 64, 31] = (0, 0.6, 0, 0.8) := by
    have h0 : SPGActuatorProtocol.readI16 [0, 0, 112, 23, 0, 0, 64, 31] 0 = 0 := by decide
    have h2 : SPGActuatorProtocol.readI16 [0, 0, 112, 23, 0, 0, 64, 31] 2 = 6000 := by decide
    have h4 : SPGActuatorProtocol.readI16 [0, 0, 112, 23, 0, 0, 64, 31] 4 = 0 := by decide
    have h6 : SPGActuatorProtocol.readI16 [0, 0, 112, 23, 0, 0, 64, 31] 6 = 8000 := by decide
    norm_num [E2BoxIMUProtocol.quatOfPayload, h0, h2, h4, h6, normalizeQuat]
  have hvalue : some (gy, gx, gz) = some (projectedGravityFromXyzw (0, 0.6, 0, 0.8)) := by
    rw [← hhost, ← hquat]
    exact congrArg (fun d : IMUDriver ℝ => d.state.projectedGravityB) (onFrame_quat _ hscale _ rfl 1)
  have hdown : projectedGravityFromXyzw ((0, 0.6, 0, 0.8) : ℝ × ℝ × ℝ × ℝ) = (0, 0.96, -0.28) := by
    norm_num [projectedGravityFromXyzw]
  rw [hdown] at hvalue
  cases hvalue
  exact ⟨hpolicy, hhost⟩

end SparqControl.Telemetry
