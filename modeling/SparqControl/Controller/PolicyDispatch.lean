/-
# SparqControl.Controller.PolicyDispatch — what a policy command leaves on the bus and in the record.

`_send_policy_command` encodes and sends target by target, and records the output after the loop. A
target the encoder refuses therefore stops the loop between two frames: the targets before it have
been commanded, those after it have not, and the record still shows the previous output.

`dispatch_atomic_iff` says for which commands this cannot happen: every selected target can be encoded,
or the first one cannot.
-/
import SparqControl.Controller.Tick

namespace SparqControl.Controller

open SparqControl.Hal SparqControl.Hw
open SparqControl.Lib (Dict)

/-! ## What the encoder takes -/

section Encodable

variable {K : Type} [Field K] [LinearOrder K]

/-- A finite value of a range that is more than a point. -/
def Fits (x : PyFloat K) (lo hi : K) : Prop := lo ≠ hi ∧ ∃ y, x = .fin y ∧ lo ≤ y ∧ y ≤ hi

/-- Every field of a target fits its range. -/
structure CommandTargetSnapshot.Encodable (ranges : SPGMITConfig K) (t : CommandTargetSnapshot K) :
    Prop where
  position : Fits t.pTargetRad (-ranges.pMax) ranges.pMax
  velocity : Fits t.vTargetRadS (-ranges.vMax) ranges.vMax
  kp : Fits t.kp 0 ranges.kpMax
  kd : Fits t.kd 0 ranges.kdMax
  torque : Fits t.tauTargetNm (-ranges.tauMax) ranges.tauMax

variable [FloorRing K]

/-- One field: infinities are out of range, NaN cannot be rounded, a range of one point divides by
zero. -/
theorem floatToUint_ok_iff_fits {x : PyFloat K} {lo hi : K} (bits : ℕ) :
    (∃ u, floatToUint x lo hi bits = .ok u) ↔ Fits x lo hi := by
  have hrange : (∃ r, requireRange x lo hi "MIT field" = .ok r) ↔
      x = .nan ∨ ∃ y, x = .fin y ∧ lo ≤ y ∧ y ≤ hi := by
    simp only [requireRange_eq_ok_iff, exists_const]
  constructor
  · rintro ⟨u, hu⟩
    obtain ⟨r, hr, hcode⟩ := bind_eq_ok_iff.mp hu
    obtain ⟨scaled, hdiv, hround⟩ := bind_eq_ok_iff.mp hcode
    have hspan : hi - lo ≠ 0 := by
      intro hzero
      simp [PyFloat.divFin, hzero] at hdiv
    have hne : lo ≠ hi := fun heq => hspan (sub_eq_zero.mpr heq.symm)
    rcases hrange.mp ⟨r, hr⟩ with rfl | hfin
    · simp only [PyFloat.divFin, hspan, if_false, PyFloat.subFin, PyFloat.mulFin,
        Except.ok.injEq] at hdiv
      rw [← hdiv] at hround
      cases hround
    · exact ⟨hne, hfin⟩
  · rintro ⟨hne, y, rfl, hlo, hhi⟩
    have hspan : hi - lo ≠ 0 := sub_ne_zero.mpr hne.symm
    refine ⟨_, bind_eq_ok_iff.mpr ⟨(), requireRange_eq_ok_iff.mpr (Or.inr ⟨y, rfl, hlo, hhi⟩),
      bind_eq_ok_iff.mpr ⟨_, if_neg hspan, rfl⟩⟩⟩

/-- The frame of one selected target. -/
def policyFrame (x : CommandTargetSnapshot K × SPGActuatorProtocol K) : Except PyError CANFrame :=
  x.2.encodeImpedanceCommandFrame x.1.pTargetRad x.1.vTargetRadS x.1.kp x.1.kd x.1.tauTargetNm

/-- **A target is encoded exactly when its five fields fit.** -/
theorem policyFrame_ok_iff (x : CommandTargetSnapshot K × SPGActuatorProtocol K) :
    (∃ frame, policyFrame x = .ok frame) ↔ x.1.Encodable x.2.mitConfig := by
  have hpayload : (∃ frame, policyFrame x = .ok frame) ↔
      ∃ payload, SPGActuatorProtocol.packMitPayload x.2.mitConfig x.1.pTargetRad x.1.vTargetRadS
        x.1.kp x.1.kd x.1.tauTargetNm = .ok payload := by
    simp only [policyFrame, SPGActuatorProtocol.encodeImpedanceCommandFrame, map_eq_ok_iff]
    constructor
    · rintro ⟨-, payload, hpack, -⟩
      exact ⟨payload, hpack⟩
    · rintro ⟨payload, hpack⟩
      exact ⟨_, payload, hpack, rfl⟩
  rw [hpayload]
  simp only [SPGActuatorProtocol.packMitPayload_eq_ok_iff]
  constructor
  · rintro ⟨-, pU, vU, kpU, kdU, tU, hp, hv, hkp, hkd, ht, -⟩
    exact ⟨(floatToUint_ok_iff_fits _).mp ⟨pU, hp⟩, (floatToUint_ok_iff_fits _).mp ⟨vU, hv⟩,
      (floatToUint_ok_iff_fits _).mp ⟨kpU, hkp⟩, (floatToUint_ok_iff_fits _).mp ⟨kdU, hkd⟩,
      (floatToUint_ok_iff_fits _).mp ⟨tU, ht⟩⟩
  · rintro ⟨hp, hv, hkp, hkd, ht⟩
    obtain ⟨pU, hpU⟩ := (floatToUint_ok_iff_fits 16).mpr hp
    obtain ⟨vU, hvU⟩ := (floatToUint_ok_iff_fits 12).mpr hv
    obtain ⟨kpU, hkpU⟩ := (floatToUint_ok_iff_fits 12).mpr hkp
    obtain ⟨kdU, hkdU⟩ := (floatToUint_ok_iff_fits 8).mpr hkd
    obtain ⟨tU, htU⟩ := (floatToUint_ok_iff_fits 8).mpr ht
    exact ⟨_, pU, vU, kpU, kdU, tU, hpU, hvU, hkpU, hkdU, htU, rfl⟩

theorem canId_policyFrame {x : CommandTargetSnapshot K × SPGActuatorProtocol K} {frame : CANFrame}
    (h : policyFrame x = .ok frame) : frame.canId = x.2.commandId := by
  obtain ⟨payload, -, rfl⟩ := map_eq_ok_iff.mp h
  rfl

end Encodable

/-! ## The dispatch -/

section Dispatch

variable {K : Type} [Field K] [LinearOrder K] [IsStrictOrderedRing K] (cfg : RobotControllerConfig K)

/-- The targets a command selects: the first `min(num_targets, 12)` whose id is configured, in order. -/
def policySelection (cmd : ControlCommandC K) :
    List (CommandTargetSnapshot K × SPGActuatorProtocol K) :=
  (cmd.targets.toList.take (min cmd.numTargets.toNat maxControlTargets)).filterMap fun target =>
    (cfg.actuators.get? target.canId.toNat).map fun actuator =>
      (⟨target.canId.toNat, target.q, target.dq, target.kp, target.kd, target.tau⟩, actuator)

theorem mem_policySelection {cmd : ControlCommandC K}
    {x : CommandTargetSnapshot K × SPGActuatorProtocol K} (hx : x ∈ policySelection cfg cmd) :
    x.2.commandId ∈ cfg.canIds ∧ x.2.mitConfig = cfg.mitProtocolRange ∧
      x.1.canId = x.2.commandId := by
  obtain ⟨target, -, htarget⟩ := List.mem_filterMap.mp hx
  obtain ⟨actuator, hget, rfl⟩ := Option.map_eq_some_iff.mp htarget
  rw [RobotControllerConfig.actuators, Dict.get?_tabulate] at hget
  split at hget
  · rename_i hmem
    obtain rfl := Option.some.inj hget
    exact ⟨hmem, rfl, rfl⟩
  · cases hget

variable [FloorRing K]

/-- **All or nothing, recorded truthfully.** One frame for each selected target, in order, and exactly
these targets recorded; or an exception, no frame, and the record as it was. -/
def DispatchAtomic (cmd : ControlCommandC K) (s : ControllerState K)
    (outcome : ControllerState K × List CANFrame × Option PyError) : Prop :=
  (outcome.2.2 = none ∧ (policySelection cfg cmd).map policyFrame = outcome.2.1.map .ok ∧
    outcome.1 = recordOutputCommand s .policy ((policySelection cfg cmd).map Prod.fst)) ∨
  (outcome.2.2 ≠ none ∧ outcome.2.1 = [] ∧ outcome.1 = s)

/-- A client that accepts every frame to a configured actuator. -/
def AcceptsAll (daemonAccepts : List CANFrame → CANFrame → Bool) : Prop :=
  ∀ canId ∈ cfg.canIds, ∀ before payload, sendFrame daemonAccepts before ⟨canId, payload⟩ = .ok ()

variable {cfg}

/-- With such a client a request goes through exactly when the target can be encoded. -/
theorem passes_policyFrame_iff {daemonAccepts : List CANFrame → CANFrame → Bool}
    (hclient : AcceptsAll cfg daemonAccepts) {cmd : ControlCommandC K}
    {x : CommandTargetSnapshot K × SPGActuatorProtocol K} (hx : x ∈ policySelection cfg cmd) :
    passes daemonAccepts (policyFrame x) = true ↔ x.1.Encodable cfg.mitProtocolRange := by
  obtain ⟨hid, hranges, -⟩ := mem_policySelection cfg hx
  rw [← hranges, ← policyFrame_ok_iff]
  cases hframe : policyFrame x with
  | error e => simp [passes]
  | ok frame =>
      have hsend : sendFrame daemonAccepts [] frame = .ok () := by
        have hcan := canId_policyFrame hframe
        exact hclient frame.canId (hcan ▸ hid) [] frame.data
      simp [passes, hsend, Except.isOk, Except.toBool]

/-- Requests that all go through are frames. -/
theorem map_ok_of_passes {daemonAccepts : List CANFrame → CANFrame → Bool}
    {requests : List (Except PyError CANFrame)}
    (h : ∀ r ∈ requests, passes daemonAccepts r = true) :
    requests = (requests.filterMap Except.toOption).map .ok := by
  induction requests with
  | nil => rfl
  | cons r rest ih =>
      have ih' := ih fun r' hr' => h r' (List.mem_cons_of_mem _ hr')
      cases r with
      | error e => simp [passes] at h
      | ok f =>
          show _ = Except.ok f :: (rest.filterMap Except.toOption).map Except.ok
          rw [← ih']

/-- An accepting client answers a policy frame the same way whatever was sent before. -/
theorem sendFrame_policyFrame {daemonAccepts : List CANFrame → CANFrame → Bool}
    (hclient : AcceptsAll cfg daemonAccepts) {cmd : ControlCommandC K} {f : CANFrame}
    (hf : .ok f ∈ (policySelection cfg cmd).map policyFrame) (before : List CANFrame) :
    sendFrame daemonAccepts before f = sendFrame daemonAccepts [] f := by
  obtain ⟨x, hx, hframe⟩ := List.mem_map.mp hf
  have hid := (mem_policySelection cfg hx).1
  rw [← canId_policyFrame hframe] at hid
  exact (hclient _ hid before f.data).trans (hclient _ hid [] f.data).symm

/-- `_send_policy_command` is the loop over the selection, and a record if it got through. -/
theorem sendPolicyCommand_eq (env : TickEnv K) (earlier : List CANFrame) (s : ControllerState K)
    (cmd : ControlCommandC K) :
    sendPolicyCommand cfg env earlier s cmd =
      (if (sendEach env.daemonAccepts earlier ((policySelection cfg cmd).map policyFrame)).2.isNone
        then recordOutputCommand s .policy ((policySelection cfg cmd).map Prod.fst) else s,
        sendEach env.daemonAccepts earlier ((policySelection cfg cmd).map policyFrame)) := rfl

/-- **When policy dispatch is all or nothing**: when every selected target can be encoded, or the first
one cannot. -/
theorem dispatch_atomic_iff {env : TickEnv K} (hclient : AcceptsAll cfg env.daemonAccepts)
    (earlier : List CANFrame) (s : ControllerState K) (cmd : ControlCommandC K) :
    DispatchAtomic cfg cmd s (sendPolicyCommand cfg env earlier s cmd) ↔
      (∀ x ∈ policySelection cfg cmd, x.1.Encodable cfg.mitProtocolRange) ∨
        ∃ x, (policySelection cfg cmd).head? = some x ∧ ¬ x.1.Encodable cfg.mitProtocolRange := by
  obtain ⟨hsent, hraised⟩ := sendEach_eq_takeWhile (fun f hf => sendFrame_policyFrame hclient hf) earlier
  have hpasses : ∀ x ∈ policySelection cfg cmd, (passes env.daemonAccepts (policyFrame x) = true ↔
      x.1.Encodable cfg.mitProtocolRange) := fun x hx => passes_policyFrame_iff hclient hx
  unfold DispatchAtomic
  rw [sendPolicyCommand_eq]
  generalize policySelection cfg cmd = selected at hsent hraised hpasses ⊢
  constructor
  · rintro (⟨hnone, -, -⟩ | ⟨hsome, hempty, -⟩)
    · apply Or.inl
      intro x hx
      exact (hpasses x hx).mp (hraised.mp hnone _ (List.mem_map_of_mem hx))
    · -- nothing was sent, so the loop stopped at the first target
      apply Or.inr
      cases selected with
      | nil => exact absurd rfl hsome
      | cons x rest =>
          refine ⟨x, rfl, fun hencodable => ?_⟩
          have hpass := (hpasses x List.mem_cons_self).mpr hencodable
          have hempty' : (sendEach env.daemonAccepts earlier
              ((x :: rest).map policyFrame)).1 = [] := hempty
          rw [hsent, List.map_cons, List.takeWhile_cons_of_pos hpass] at hempty'
          cases hframe : policyFrame x with
          | error e => simp [hframe, passes] at hpass
          | ok frame => simp [hframe, Except.toOption] at hempty'
  · rintro (hall | ⟨x, hhead, hnot⟩)
    · have hpass : ∀ r ∈ selected.map policyFrame, passes env.daemonAccepts r = true := by
        intro r hr
        obtain ⟨x, hx, rfl⟩ := List.mem_map.mp hr
        exact (hpasses x hx).mpr (hall x hx)
      have hnone := hraised.mpr hpass
      refine Or.inl ⟨hnone, ?_, by simp only [hnone, Option.isNone_none, if_true]⟩
      show selected.map policyFrame = (sendEach env.daemonAccepts earlier _).1.map .ok
      rw [hsent, List.takeWhile_eq_self_iff.mpr hpass]
      exact map_ok_of_passes hpass
    · obtain ⟨rest, rfl⟩ : ∃ rest, selected = x :: rest := by
        cases selected with
        | nil => cases hhead
        | cons y rest => exact ⟨rest, by rw [Option.some.inj hhead]⟩
      have hstop : ¬ passes env.daemonAccepts (policyFrame x) = true :=
        fun hpass => hnot ((hpasses x List.mem_cons_self).mp hpass)
      have hsome : (sendEach env.daemonAccepts earlier ((x :: rest).map policyFrame)).2 ≠ none :=
        fun hnone => hstop (hraised.mp hnone _ List.mem_cons_self)
      refine Or.inr ⟨hsome, ?_, ?_⟩
      · show (sendEach env.daemonAccepts earlier ((x :: rest).map policyFrame)).1 = []
        rw [hsent, List.map_cons, List.takeWhile_cons_of_neg hstop]
        rfl
      · exact if_neg fun hnone => hsome (Option.isNone_iff_eq_none.mp hnone)

end Dispatch

/-- A command to both actuators; the second one's torque is open. -/
def twoTargets (tau : PyFloat ℚ) : ControlCommandC ℚ where
  timestampNs := 1
  numTargets := 2
  targets := ((Vector.replicate _ ⟨0, .fin 0, .fin 0, .fin 0, .fin 0, .fin 0⟩).set 0
    ⟨0x101, .fin 1, .fin 0, .fin 20, .fin 1, .fin 0⟩).set 1
    ⟨0x102, .fin 1, .fin 0, .fin 20, .fin 1, tau⟩

theorem acceptsAll_quietEnv (now : ℚ) :
    AcceptsAll twoActuatorConfig (quietEnv now).daemonAccepts := by
  intro canId hid before payload
  simp only [twoActuatorConfig, List.mem_cons, List.not_mem_nil, or_false] at hid
  have hmask : (canSffMask : ℤ) = 2047 := rfl
  have hstandard : ¬ (canId < 0 ∨ canId > canSffMask) := by omega
  exact if_neg hstandard

/-- Both targets in range: all of it. -/
theorem dispatch_atomic_two :
    DispatchAtomic twoActuatorConfig (twoTargets (.fin 0)) freshController
      (sendPolicyCommand twoActuatorConfig (quietEnv 1) [] freshController (twoTargets (.fin 0))) := by
  refine (dispatch_atomic_iff (acceptsAll_quietEnv 1) [] freshController _).mpr (Or.inl ?_)
  intro x hx
  have htargets : (policySelection twoActuatorConfig (twoTargets (.fin 0))).map Prod.fst =
      [⟨0x101, .fin 1, .fin 0, .fin 20, .fin 1, .fin 0⟩,
        ⟨0x102, .fin 1, .fin 0, .fin 20, .fin 1, .fin 0⟩] := rfl
  have hmem := List.mem_map_of_mem (f := Prod.fst) hx
  rw [htargets, List.mem_pair] at hmem
  have hencodable : ∀ canId : ℤ, CommandTargetSnapshot.Encodable twoActuatorConfig.mitProtocolRange
      ⟨canId, .fin 1, .fin 0, .fin 20, .fin 1, .fin 0⟩ := by
    intro canId
    constructor <;> refine ⟨?_, _, rfl, ?_, ?_⟩ <;> norm_num [twoActuatorConfig]
  rcases hmem with heq | heq
  · rw [heq]
    exact hencodable _
  · rw [heq]
    exact hencodable _

/-- The second target's torque is NaN: the first actuator is commanded, nothing is recorded. -/
theorem nan_stops_halfway :
    ¬ DispatchAtomic twoActuatorConfig (twoTargets .nan) freshController
      (sendPolicyCommand twoActuatorConfig (quietEnv 1) [] freshController (twoTargets .nan)) := by
  have hout : (sendPolicyCommand twoActuatorConfig (quietEnv 1) [] freshController
      (twoTargets .nan)).2 =
      ([⟨0x101, [0xC0, 0x8A, 0x3D, 0x80, 0x00, 0xA4, 0x33, 0x80]⟩],
        some (.valueError "cannot convert float NaN to integer")) := by decide +kernel
  rintro (⟨hnone, -, -⟩ | ⟨-, hempty, -⟩)
  · rw [hout] at hnone
    cases hnone
  · rw [hout] at hempty
    cases hempty

end SparqControl.Controller
