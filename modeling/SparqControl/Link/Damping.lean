/-
# SparqControl.Link.Damping — the damping command from the controller to the joint torque.

`_send_damping_all` asks for zero position, zero velocity, zero stiffness, a gain and zero torque. On
the wire a symmetric field has an odd number of steps, so ZERO IS NOT A CODE: it sits on a tie, the
host rounds up, and the firmware decodes half a step. The stiffness field starts at zero and keeps
its zero, so the position never enters; what the joint feels is a damper around the velocity
`v_max / 4095` plus the constant torque `tau_max / 255`. That law is proved here, and with it exactly
where the damper is passive.
-/
import Mathlib.Tactic.Linarith
import Mathlib.Tactic.Positivity
import SparqControl.Controller.Tick
import SparqControl.Link.MitCodec
import SparqControl.Sim.SpgDevice

namespace SparqControl.Link

open SparqControl.Hal SparqControl.Hw SparqControl.Sim SparqControl.Controller
open SparqControl.Hw.SPGActuatorProtocol
open SparqControl.Lib.Quantize

variable {K : Type} [Field K] [LinearOrder K] [IsStrictOrderedRing K] [FloorRing K]

/-! ## Zero on the wire -/

/-- The zero of a symmetric field: the host has a code for it, which the firmware decodes to half a
step above zero. -/
theorem zero_symmetric (bits m : ℕ) {a : K} (ha : 0 < a) (hb : 0 < bits)
    (hm : (1 <<< bits) - 1 = 2 * m + 1) :
    ∃ n : ℕ, n < 2 ^ bits ∧ floatToUint (.fin 0) (-a) a bits = .ok n ∧
      SPGFirmware.uintToFloat n (-a) a bits = a / ((2 * m + 1 : ℕ) : K) := by
  have hlt : -a < a := neg_lt_self ha
  obtain ⟨n, hn, hbound⟩ := fieldGrid_encode_lt hlt hb (neg_nonpos.mpr ha.le) ha.le
  refine ⟨n, hbound, ?_, ?_⟩
  · rw [floatToUint_eq_ok_iff hlt hb]
    exact ⟨0, rfl, neg_nonpos.mpr ha.le, ha.le, hn.symm⟩
  · rw [uintToFloat_eq_decode hlt hb, ← hn, ← hm]
    exact Grid.between_decode_encode_zero m hm hlt (levels_pos hb)

/-- The zero of a field that starts at zero is a code, and decodes to zero. -/
theorem zero_unsigned (bits : ℕ) {a : K} (ha : 0 < a) (hb : 0 < bits) :
    floatToUint (.fin 0) 0 a bits = .ok (0 : ℕ) ∧ SPGFirmware.uintToFloat 0 0 a bits = 0 := by
  refine ⟨?_, by simp [SPGFirmware.uintToFloat]⟩
  rw [floatToUint_eq_ok_iff ha hb]
  exact ⟨0, rfl, le_rfl, ha.le, (Grid.between_encode_zero ha (levels_pos hb)).symm⟩

/-- The damping payload, and what the firmware decodes from it. -/
theorem damping_payload {host : Hw.SPGMITConfig K} {fw : Sim.SPGMITConfig K}
    (h : MatchedRanges host fw) {kd : K} (hkd0 : 0 ≤ kd) (hkd1 : kd ≤ host.kdMax) :
    ∃ (payload : List UInt8) (kdU : ℕ),
      packMitPayload host (.fin 0) (.fin 0) (.fin 0) (.fin kd) (.fin 0) = .ok payload ∧
      payload.length = 8 ∧ payload.head? = some 0xC0 ∧
      floatToUint (.fin kd) 0 host.kdMax 8 = .ok kdU ∧
      ∀ frame : CanFrame, frame.data = ljust8 payload →
        SPGFirmware.decodeMitControlFrame fw frame =
          { pDesRad := host.pMax / 65535
            vDesRadS := host.vMax / 4095
            kp := 0
            kd := kdU * host.kdMax / 255
            tauFfNm := host.tauMax / 255 } := by
  obtain ⟨pU, lp, hp, dp⟩ := zero_symmetric 16 32767 h.p_pos (by norm_num) rfl
  obtain ⟨vU, lv, hv, dv⟩ := zero_symmetric 12 2047 h.v_pos (by norm_num) rfl
  obtain ⟨tU, lt, ht, dt⟩ := zero_symmetric 8 127 h.tau_pos (by norm_num) rfl
  obtain ⟨hkp, dkp⟩ := zero_unsigned 12 h.kp_pos (by norm_num)
  have h8 : 0 < 8 := by norm_num
  obtain ⟨kdU, hkdU, lkd⟩ := fieldGrid_encode_lt h.kd_pos h8 hkd0 hkd1
  have hkd : floatToUint (.fin kd) 0 host.kdMax 8 = .ok kdU := by
    rw [floatToUint_eq_ok_iff h.kd_pos h8]
    exact ⟨kd, rfl, hkd0, hkd1, hkdU.symm⟩
  refine ⟨_, kdU, packMitPayload_eq_ok_iff.mpr ⟨pU, vU, _, kdU, tU, hp, hv, hkp, hkd, ht, rfl⟩,
    rfl, rfl, hkd, ?_⟩
  intro frame hframe
  rw [decode_mitControlBytes lp lv (by norm_num) lkd lt hframe, h.p_eq, h.v_eq, h.kp_eq, h.kd_eq,
    h.tau_eq, dp, dv, dt, dkp]
  simp [SPGFirmware.uintToFloat]

/-! ## From the controller to the device -/

/-- `_send_damping_all` with its sends accepted: one damping frame to every configured actuator. -/
theorem sendDampingAll_framesTo {cfg : RobotControllerConfig K} {payload : List UInt8}
    (hpayload : packMitPayload cfg.mitProtocolRange (.fin 0) (.fin 0) (.fin 0)
      (.fin cfg.velocityDampingKd) (.fin 0) = .ok payload)
    (env : TickEnv K) (earlier : List CANFrame) (s : ControllerState K)
    (hacc : ∀ f : CANFrame, f.canId ∈ cfg.canIds → ∀ before,
      sendFrame env.daemonAccepts before f = .ok ()) {canId : ℤ} (hid : canId ∈ cfg.canIds) :
    framesTo canId (sendDampingAll cfg env earlier s).2.1 = [⟨canId, payload⟩] := by
  have hframe : ∀ id, (cfg.spgProtocol id).encodeImpedanceCommandFrame (.fin 0) (.fin 0) (.fin 0)
      (.fin cfg.velocityDampingKd) (.fin 0) = .ok ⟨id, payload⟩ := by
    intro id
    exact map_eq_ok_iff.mpr ⟨payload, hpayload, rfl⟩
  have hrequests := @requests_eq K _ _ _ cfg cfg.actuators.sortedKeys
    (fun _ actuator => actuator.encodeImpedanceCommandFrame (.fin 0) (.fin 0) (.fin 0)
      (.fin cfg.velocityDampingKd) (.fin 0)) (fun _ => payload) hframe
  show framesTo canId (sendEach env.daemonAccepts earlier _).1 = _
  rw [hrequests, (sendEach_framesTo (Lib.Dict.sortedKeys_nodup _) (fun _ => payload) hacc canId).2,
    if_pos ⟨(Lib.Dict.mem_sortedKeys _ _).mpr ((mem_keys_actuators cfg canId).mpr hid), hid⟩]

omit [IsStrictOrderedRing K] [FloorRing K] in
/-- An enabled device outside the hold latches the decoded command of a control frame. -/
theorem deviceOnFrame_control {fw : SPGFirmware K} {latched : ActuatorCommand K} {frame : CanFrame}
    {simTime : K} (haccepts : frame.canId = fw.canId) (hdlc : frame.dlc = 8)
    (hop : frame.data.toList.head? = some SPGFirmware.kCmdMITControl) (henabled : fw.enabled = true)
    (hfault : fw.fault = false) (hhold : fw.inSetZeroHold simTime = false) :
    (deviceOnFrame fw latched frame simTime).2 =
      let decoded := SPGFirmware.decodeMitControlFrame fw.config frame
      { mode := .impedance
        positionRad := fw.positionMitToPhysicalRad decoded.pDesRad
        velocityRadS := decoded.vDesRadS
        torqueNm := decoded.tauFfNm
        kp := decoded.kp
        kd := decoded.kd
        lastUpdateTime := simTime
        valid := true
        enabled := true } := by
  have hlong : hasDlcAtLeast frame 8 = true := by
    rw [hasDlcAtLeast, hdlc]
    rfl
  have hcode : opcode frame = SPGFirmware.kCmdMITControl := by
    rw [List.head?_eq_getElem?] at hop
    show frame.data[0] = SPGFirmware.kCmdMITControl
    simpa using hop
  apply latched_of_controlAccepted
  simp [controlAccepted, isControl, isCommand, haccepts, hlong, hcode, hhold, henabled, hfault]

omit [FloorRing K] in
/-- A damper with a constant push `bias > 0` is passive exactly at the velocities that oppose the
push or outweigh it. -/
theorem passive_iff {bias gain dq : K} (hbias : 0 < bias) (hgain : 0 ≤ gain) :
    (bias - gain * dq) * dq ≤ 0 ↔ dq ≤ 0 ∨ bias ≤ gain * dq := by
  constructor
  · intro h
    rcases le_or_gt dq 0 with hdq | hdq
    · exact Or.inl hdq
    · refine Or.inr ?_
      by_contra hlt
      exact absurd (mul_pos (sub_pos.mpr (not_le.mp hlt)) hdq) (not_lt.mpr h)
  · rintro (hdq | hle)
    · have hpush : 0 ≤ bias - gain * dq := by nlinarith
      exact mul_nonpos_of_nonneg_of_nonpos hpush hdq
    · have hpos : 0 ≤ dq := by
        by_contra hneg
        nlinarith [not_le.mp hneg]
      exact mul_nonpos_of_nonpos_of_nonneg (sub_nonpos.mpr hle) hpos

/-- **The damping law, end to end.** The frame `_send_damping_all` builds for an actuator, carried to
an enabled firmware outside the set-zero hold, makes the bridge compute the torque
`bias - gain * dq`: `gain` is the damping gain as the 8-bit field carries it, and `bias`, always
positive, is what the half steps of the zero velocity and the zero torque come to. It is passive
exactly where `dq ≤ 0` or the damping outweighs the bias. -/
theorem damping_torque (cfg : RobotControllerConfig K) (env : TickEnv K) (earlier : List CANFrame)
    (s : ControllerState K)
    (hacc : ∀ f : CANFrame, f.canId ∈ cfg.canIds → ∀ before,
      sendFrame env.daemonAccepts before f = .ok ())
    {fw : SPGFirmware K} (hreach : SPGFirmware.Reachable fw) (latched : ActuatorCommand K)
    (simTime : K) {canId : ℤ} (hid : canId ∈ cfg.canIds) (hfw : fw.canId = UInt32.ofInt canId)
    (hranges : MatchedRanges cfg.mitProtocolRange fw.config) (hkd0 : 0 ≤ cfg.velocityDampingKd)
    (hkd1 : cfg.velocityDampingKd ≤ cfg.mitProtocolRange.kdMax) (henabled : fw.enabled = true)
    (hhold : fw.inSetZeroHold simTime = false) :
    ∃ (f : CANFrame) (frame : CanFrame) (kdU : ℕ),
      framesTo canId (sendDampingAll cfg env earlier s).2.1 = [f] ∧ hostToSim f = .ok frame ∧
      floatToUint (.fin cfg.velocityDampingKd) 0 cfg.mitProtocolRange.kdMax 8 = .ok kdU ∧
      ∀ q dq : K,
        let torque := computeLogicalTorqueCommand (deviceOnFrame fw latched frame simTime).2 q dq
        let gain := kdU * cfg.mitProtocolRange.kdMax / 255
        let bias := gain * (cfg.mitProtocolRange.vMax / 4095) + cfg.mitProtocolRange.tauMax / 255
        torque = bias - gain * dq ∧ 0 < bias ∧
          (torque * dq ≤ 0 ↔ dq ≤ 0 ∨ bias ≤ gain * dq) := by
  obtain ⟨payload, kdU, hpayload, hlen, hhead, hkdU, hdecode⟩ :=
    damping_payload hranges hkd0 hkd1
  obtain ⟨hid0, hid1⟩ := standard_of_sendFrame (hacc ⟨canId, payload⟩ hid [])
  refine ⟨⟨canId, payload⟩, ⟨UInt32.ofInt canId, 8, ljust8 payload⟩, kdU,
    sendDampingAll_framesTo hpayload env earlier s hacc hid, hostToSim_eight hid0 hid1 hlen, hkdU,
    ?_⟩
  intro q dq torque gain bias
  have hop : (ljust8 payload).toList.head? = some SPGFirmware.kCmdMITControl := by
    cases payload with
    | nil => cases hhead
    | cons b rest => exact hhead
  have htorque : torque = bias - gain * dq := by
    have hcmd := @deviceOnFrame_control K _ _ fw latched ⟨UInt32.ofInt canId, 8, ljust8 payload⟩
      simTime hfw.symm rfl hop henabled hreach.fault_eq_false.1 hhold
    rw [hdecode _ rfl] at hcmd
    simp only [torque, hcmd, computeLogicalTorqueCommand, bias, gain, Bool.not_true, Bool.or_self,
      Bool.false_eq_true, if_false]
    ring
  have hkdpos := hranges.kd_pos
  have hgain : 0 ≤ gain := by positivity
  have hbias : 0 < bias := by
    have hv := hranges.v_pos
    have ht := hranges.tau_pos
    positivity
  exact ⟨htorque, hbias, by rw [htorque]; exact passive_iff hbias hgain⟩

/-! ## A damper that drives -/

/-- A firmware with the default ranges that was entered through its enter frame. -/
def enteredFirmware : SPGFirmware ℚ :=
  SPGFirmware.onCanFrame { canId := 0x101, config := {} }
    (makeFrame 0x101 #v[0xC1, 0, 0, 0, 0, 0, 0, 0]) 0

theorem reachable_enteredFirmware : SPGFirmware.Reachable enteredFirmware :=
  (SPGFirmware.Reachable.construct 0x101 {}).onCanFrame _ 0

/-- With the default ranges and a gain of 1/2, a joint that turns slowly in the positive direction is
driven, and a joint at rest is pushed. -/
theorem damping_drives_slow_joint :
    let frame : CanFrame := ⟨0x101, 8, #v[0xC0, 0x80, 0x00, 0x80, 0x00, 0x00, 0x1A, 0x80]⟩
    let torque := computeLogicalTorqueCommand (deviceOnFrame enteredFirmware {} frame 1).2
    (framesTo 0x101 (sendDampingAll twoActuatorConfig (quietEnv 0) [] freshController).2.1).map
      hostToSim = [.ok frame] ∧
    enteredFirmware.enabled = true ∧ enteredFirmware.inSetZeroHold 1 = false ∧
    0 < torque 0 (1 / 100) * (1 / 100) ∧ torque 0 0 ≠ 0 := by
  decide +kernel

/-- At ten radians per second the same damper opposes the motion. -/
theorem damping_torque_fast_joint :
    ∃ (f : CANFrame) (frame : CanFrame),
      framesTo 0x101 (sendDampingAll twoActuatorConfig (quietEnv 0) [] freshController).2.1 = [f] ∧
      hostToSim f = .ok frame ∧
      computeLogicalTorqueCommand (deviceOnFrame enteredFirmware {} frame 1).2 3 10 * 10 ≤ 0 := by
  obtain ⟨f, frame, kdU, hf, hframe, hkdU, hlaw⟩ :=
    damping_torque twoActuatorConfig (quietEnv 0) [] freshController
      (fun f hf before => (sendsAccepted_tickOn 0 0 .none).2 f hf before)
      reachable_enteredFirmware {} 1 (show (0x101 : ℤ) ∈ twoActuatorConfig.canIds by decide) rfl
      matchedRanges_default (by decide +kernel) (by decide +kernel) rfl (by decide +kernel)
  have h26 : floatToUint (.fin twoActuatorConfig.velocityDampingKd) 0
      twoActuatorConfig.mitProtocolRange.kdMax 8 = .ok 26 := by decide +kernel
  obtain rfl : kdU = 26 := by
    rw [h26] at hkdU
    exact_mod_cast (Except.ok.inj hkdU).symm
  refine ⟨f, frame, hf, hframe, (hlaw 3 10).2.2.mpr (Or.inr ?_)⟩
  decide +kernel

end SparqControl.Link
