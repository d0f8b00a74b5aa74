/-
# SparqControl.Dashboard.MotorReadings — where the readings on the dashboard come from.

One CAN interface: the controller's commands, the acknowledgements and statuses of the SPG firmwares,
and the dashboard's raw socket, which SocketCAN hands the commands as well. A command and a status of
one actuator share id and length, and an MIT control command (damping or policy) shares the status's
opcode too. The controller drops what it sent itself (`is_recent_tx_echo`); `socketcan_loop` does not.

The exact account is `motor_readings_iff`: over every interleaving, the readings are those of the
latest status after every frame if and only if no frame stops the loop and every MIT control command
happens to repeat the latest status. Without MIT control commands they always are
(`readings_true_of_no_control`).
-/
import SparqControl.Dashboard.MonitorState
import SparqControl.Link.EnableAck

namespace SparqControl.Dashboard

open SparqControl.Hal SparqControl.Hw SparqControl.Sim
open SparqControl.Link (HostCommand encodeHostCommand)
open SparqControl.Lib.Trace

/-! ## The bus -/

/-- A frame on the interface, with its sender. -/
inductive WireFrame where
  | host (record : LinuxCanFrame)
  | firmware (frame : CanFrame)

/-- What every socket on the interface receives. -/
def WireFrame.record : WireFrame → LinuxCanFrame
  | host r => r
  | firmware f => toLinuxCanFrame f

/-- A firmware and the frames it has yet to process. -/
structure BusDevice (K : Type) [Field K] where
  inbox : List CanFrame := []
  firmware : SPGFirmware K

/-- One atomic event on the interface. -/
inductive BusEvent (K : Type) where
  | hostSend (actuator : ℕ) (command : HostCommand K)
  | firmwareProcess (device : ℕ) (simTime : K)
  | firmwareFeedback (device : ℕ) (sample : ActuatorFeedbackSample K)

section Bus

variable {K : Type} [Field K] [LinearOrder K] [FloorRing K]

/-- The record of a command on the interface. An exception leaves nothing there. -/
def commandRecord (p : SPGActuatorProtocol K) (command : HostCommand K) :
    Except PyError LinuxCanFrame := do
  socketSendFrame (← encodeHostCommand p command)

/-- One event. The output is what appears on the interface. -/
def busStep (protocols : List (SPGActuatorProtocol K)) (devices : List (BusDevice K)) :
    BusEvent K → List (BusDevice K) × List WireFrame
  | .hostSend actuator command =>
      match protocols[actuator]? with
      | none => (devices, [])
      | some p =>
          match commandRecord p command with
          | .error _ => (devices, [])
          | .ok r =>
              (devices.map fun d => { d with inbox := d.inbox ++ [fromLinuxCanFrame r] }, [.host r])
  | .firmwareProcess device simTime =>
      (devices.modify device fun d =>
        match d.inbox with
        | [] => d
        | frame :: rest => { inbox := rest, firmware := d.firmware.onCanFrame frame simTime }, [])
  | .firmwareFeedback device sample =>
      match devices[device]? with
      | none => (devices, [])
      | some d =>
          let (firmware, frames) := d.firmware.makeFeedbackFrames sample
          (devices.set device { d with firmware := firmware }, frames.map .firmware)

/-- Everything that appears on the interface in a run, in order. -/
def busWire (protocols : List (SPGActuatorProtocol K)) (devices : List (BusDevice K))
    (events : List (BusEvent K)) : List WireFrame :=
  (trace (busStep protocols) devices events).flatMap Entry.out

/-! ## The dashboard's end -/

/-- One turn of the inner loop of `socketcan_loop`. -/
def receiveRecord (sqrt : K → K) (config : MonitorConfig K) (channel : ℕ) (s : MonitorState K)
    (r : LinuxCanFrame) (now : K) : Except PyError (MonitorState K) := do
  markRx sqrt config (some channel) s (← parseCanFrame r) now

/-- `socketcan_loop` over the records of its socket. The clock shows `clock n` when the record at
position `n` is marked; an exception ends the loop. -/
def socketcanLoop (sqrt : K → K) (config : MonitorConfig K) (channel : ℕ) (clock : ℕ → K)
    (records : List LinuxCanFrame) : Except PyError (MonitorState K) :=
  records.zipIdx.foldlM (fun s r => receiveRecord sqrt config channel s r.1 (clock r.2))
    (monitorInit config)

/-- The readings a record carries for the motor with an id. -/
def recordReadings (config : MonitorConfig K) (canId : ℤ) (r : LinuxCanFrame) :
    Option (Readings K) :=
  match parseCanFrame r with
  | .ok frame => carriedReadings config canId frame
  | .error _ => none

/-- The record ends the loop: it does not parse, or a decoder divides by a scale that is zero. -/
def StopsLoop (config : MonitorConfig K) (r : LinuxCanFrame) : Prop :=
  match parseCanFrame r with
  | .ok frame => ImuDividesByZero config frame ∨ MotorDividesByZero config frame
  | .error _ => True

/-- The status of the motor with an id in what a firmware sent. -/
def firmwareStatus (config : MonitorConfig K) (canId : ℤ) : WireFrame → Option (Readings K)
  | .host _ => none
  | .firmware f =>
      if ((f.canId &&& 0x7FF).toNat : ℤ) = canId ∧ 8 ≤ f.dlc ∧ opcode f = SPGFirmware.kCmdMITControl
      then statusReadings config f.data.toList
      else none

/-- Every configured motor shows the latest status its firmware emitted. -/
def MotorReadingsTrue (config : MonitorConfig K) (s : MonitorState K) (wire : List WireFrame) :
    Prop :=
  ∀ a ∈ config.actuators, ∃ motor, s.motors.get? a.canId = some motor ∧
    motor.Shows (latest (firmwareStatus config a.canId) wire)

/-! ## What the loop leaves -/

theorem socketcanLoop_concat (sqrt : K → K) (config : MonitorConfig K) (channel : ℕ) (clock : ℕ → K)
    (records : List LinuxCanFrame) (r : LinuxCanFrame) :
    socketcanLoop sqrt config channel clock (records ++ [r]) =
      socketcanLoop sqrt config channel clock records >>= fun s =>
        receiveRecord sqrt config channel s r (clock records.length) := by
  unfold socketcanLoop
  rw [List.zipIdx_append, List.foldlM_append]
  simp

/-- A record is marked exactly when it does not end the loop. -/
theorem receiveRecord_isOk_iff (sqrt : K → K) (config : MonitorConfig K) (channel : ℕ)
    (s : MonitorState K) (r : LinuxCanFrame) (now : K) :
    (∃ s', receiveRecord sqrt config channel s r now = .ok s') ↔ ¬ StopsLoop config r := by
  unfold receiveRecord StopsLoop
  cases parseCanFrame r with
  | error e =>
      refine iff_of_false ?_ (not_not.mpr trivial)
      rintro ⟨s', h⟩
      cases h
  | ok frame =>
      rw [not_or]
      exact markRx_isOk_iff sqrt config (some channel) s frame now

/-- The loop gets through exactly the records none of which ends it. -/
theorem socketcanLoop_isOk_iff (sqrt : K → K) (config : MonitorConfig K) (channel : ℕ)
    (clock : ℕ → K) (records : List LinuxCanFrame) :
    (∃ s, socketcanLoop sqrt config channel clock records = .ok s) ↔
      ∀ r ∈ records, ¬ StopsLoop config r := by
  induction records using List.reverseRecOn with
  | nil => exact iff_of_true ⟨_, rfl⟩ fun r hr => (List.not_mem_nil hr).elim
  | append_singleton records r ih =>
      simp only [socketcanLoop_concat, bind_eq_ok_iff]
      constructor
      · rintro ⟨s', s, hs, hs'⟩ r' hr'
        rcases List.mem_append.mp hr' with hr' | hr'
        · exact ih.mp ⟨s, hs⟩ r' hr'
        · rw [List.mem_singleton.mp hr']
          exact (receiveRecord_isOk_iff sqrt config channel s r _).mp ⟨s', hs'⟩
      · intro h
        obtain ⟨s, hs⟩ := ih.mpr fun r' hr' => h r' (List.mem_append_left _ hr')
        obtain ⟨s', hs'⟩ := (receiveRecord_isOk_iff sqrt config channel s r _).mpr
          (h r (List.mem_append_right _ (List.mem_singleton_self r)))
        exact ⟨s', s, hs, hs'⟩

/-- **Run.** After any records a configured motor shows the latest readings one of them carried. -/
theorem socketcanLoop_shows {sqrt : K → K} {config : MonitorConfig K} {channel : ℕ} {clock : ℕ → K}
    {a : ActuatorConfig} (ha : a ∈ config.actuators) {records : List LinuxCanFrame}
    {s : MonitorState K} (h : socketcanLoop sqrt config channel clock records = .ok s) :
    ∃ motor, s.motors.get? a.canId = some motor ∧
      motor.Shows (latest (recordReadings config a.canId) records) := by
  induction records using List.reverseRecOn generalizing s with
  | nil =>
      cases h
      exact monitorInit_shows ha
  | append_singleton records r ih =>
      simp only [socketcanLoop_concat, receiveRecord, bind_eq_ok_iff] at h
      obtain ⟨s1, hs1, frame, hframe, hmark⟩ := h
      obtain ⟨motor, hmotor, hshows⟩ := ih hs1
      rw [latest_concat, recordReadings, hframe]
      exact markRx_shows ha hmark hmotor hshows

/-- A frame of eight bytes reaches the sockets whole. -/
theorem toLinuxCanFrame_eight {f : CanFrame} (h : 8 ≤ f.dlc) :
    toLinuxCanFrame f = ⟨f.canId &&& 0x7FF, 8, f.data⟩ := by
  have hdlc : min f.dlc.toNat 8 = 8 := Nat.min_eq_right (UInt8.le_iff_toNat_le.mp h)
  have hmin : min f.dlc 8 = 8 := by
    show (if f.dlc ≤ 8 then f.dlc else 8) = 8
    split
    · rename_i hle
      exact UInt8.le_antisymm hle h
    · rfl
  unfold toLinuxCanFrame
  rw [hmin, hdlc]
  congr 1
  apply Vector.ext
  intro i hi
  simp

omit [FloorRing K] in
/-- The readings of a record in terms of its own fields. -/
theorem recordReadings_eq (config : MonitorConfig K) (canId : ℤ) (r : LinuxCanFrame) :
    recordReadings config canId r =
      if ((maskedId r.canId).toNat : ℤ) = canId ∧ r.canDlc = 8 ∧
          r.data.toList.getD 0 0 = cmdMitControl then
        statusReadings config r.data.toList
      else none := by
  obtain ⟨word, dlc, data⟩ := r
  unfold recordReadings parseCanFrame
  by_cases hdlc : dlc = 8
  · subst hdlc
    have htake : data.toList.take 8 = data.toList := List.take_of_length_le (by simp)
    rw [dif_neg (by simp)]
    simp only [carriedReadings, UInt8.reduceToNat, htake, true_and]
  · have hne : dlc.toNat ≠ 8 := fun h => hdlc (UInt8.toNat_inj.mp h)
    rw [if_neg (fun h => hdlc h.2.1)]
    by_cases hlong : dlc.toNat > 8
    · rw [dif_pos hlong]
    · rw [dif_neg hlong]
      exact if_neg fun h => hne h.2.1

omit [FloorRing K] in
/-- The latest readings of the records are those of the frames. -/
theorem latest_map_record (config : MonitorConfig K) (canId : ℤ) (wire : List WireFrame) :
    latest (recordReadings config canId) (wire.map WireFrame.record) =
      latest (fun w => recordReadings config canId w.record) wire := by
  rw [latest, latest, List.filterMap_map]
  rfl

omit [FloorRing K] in
/-- What the dashboard decodes of a firmware's frame is the status in it. -/
theorem recordReadings_firmware (config : MonitorConfig K) (canId : ℤ) (f : CanFrame) :
    recordReadings config canId (WireFrame.firmware f).record =
      firmwareStatus config canId (.firmware f) := by
  rw [recordReadings_eq, WireFrame.record, firmwareStatus]
  by_cases hdlc : 8 ≤ f.dlc
  · have hhead : f.data.toList.getD 0 0 = opcode f := by
      simp [opcode, List.getD_eq_getElem?_getD]
    simp only [toLinuxCanFrame_eight hdlc, maskedId_sff, hdlc, true_and, hhead]
    rfl
  · have hne : min f.dlc 8 ≠ 8 := by
      show (if f.dlc ≤ 8 then f.dlc else 8) ≠ 8
      rw [if_pos (UInt8.le_of_lt (UInt8.not_le.mp hdlc))]
      intro h
      exact hdlc (by rw [h]; exact UInt8.le_refl 8)
    rw [if_neg (fun h => hne h.2.1), if_neg (fun h => hdlc h.2.1)]

omit [FloorRing K] in
/-- A firmware's frame carries its status; the status in a host's frame is not one. -/
theorem firmwareStatus_eq_or_none (config : MonitorConfig K) (canId : ℤ) (w : WireFrame) :
    firmwareStatus config canId w = recordReadings config canId w.record ∨
      firmwareStatus config canId w = none := by
  cases w with
  | host r => exact Or.inr rfl
  | firmware f => exact Or.inl (recordReadings_firmware config canId f).symm

/-! ## Whose readings they are -/

/-- The loop gets through and the readings are the motors' own, after every frame. -/
def DashboardTrue (sqrt : K → K) (config : MonitorConfig K) (channel : ℕ) (clock : ℕ → K)
    (wire : List WireFrame) : Prop :=
  ∀ n, ∃ s, socketcanLoop sqrt config channel clock ((wire.take n).map WireFrame.record) = .ok s ∧
    MotorReadingsTrue config s (wire.take n)

/-- The host's frame at position `n` carries readings for a configured motor only if they are those of
its latest status. -/
def RepeatsStatus (config : MonitorConfig K) (wire : List WireFrame) : Prop :=
  ∀ n r, wire[n]? = some (.host r) → ∀ a ∈ config.actuators, ∀ v,
    recordReadings config a.canId r = some v →
      latest (firmwareStatus config a.canId) (wire.take n) = some v

theorem dashboardTrue_iff (sqrt : K → K) (config : MonitorConfig K) (channel : ℕ) (clock : ℕ → K)
    (wire : List WireFrame) :
    DashboardTrue sqrt config channel clock wire ↔
      (∀ w ∈ wire, ¬ StopsLoop config w.record) ∧ RepeatsStatus config wire := by
  have hok : (∀ w ∈ wire, ¬ StopsLoop config w.record) → ∀ n,
      ∃ s, socketcanLoop sqrt config channel clock ((wire.take n).map WireFrame.record) = .ok s := by
    intro h n
    apply (socketcanLoop_isOk_iff sqrt config channel clock _).mpr
    intro r hr
    obtain ⟨w, hw, rfl⟩ := List.mem_map.mp hr
    exact h w (List.mem_of_mem_take hw)
  have hlatest := fun canId => latest_eq_latest_iff (firmwareStatus_eq_or_none config canId) wire
  constructor
  · intro h
    refine ⟨fun w hw => ?_, fun n r hr a ha v hv => ?_⟩
    · obtain ⟨s, hs, -⟩ := h wire.length
      rw [List.take_length] at hs
      exact (socketcanLoop_isOk_iff sqrt config channel clock _).mp ⟨s, hs⟩ _
        (List.mem_map_of_mem hw)
    · refine (hlatest a.canId).mp (fun m => ?_) n _ v hr rfl hv
      obtain ⟨s, hs, htrue⟩ := h m
      obtain ⟨motor, hmotor, hshows⟩ := htrue a ha
      obtain ⟨motor', hmotor', hshows'⟩ := socketcanLoop_shows ha hs
      obtain rfl : motor = motor' := Option.some.inj (hmotor.symm.trans hmotor')
      rw [latest_map_record] at hshows'
      exact hshows'.unique hshows
  · rintro ⟨hstop, hrepeat⟩ n
    obtain ⟨s, hs⟩ := hok hstop n
    refine ⟨s, hs, fun a ha => ?_⟩
    obtain ⟨motor, hmotor, hshows⟩ := socketcanLoop_shows ha hs
    refine ⟨motor, hmotor, ?_⟩
    have heq := (hlatest a.canId).mpr ?_ n
    · rw [latest_map_record, heq] at hshows
      exact hshows
    · intro m w v hw hnone hv
      cases w with
      | host r => exact hrepeat m r hw a ha v hv
      | firmware f =>
          rw [recordReadings_firmware, hnone] at hv
          cases hv

/-! ## Which frames of the host carry readings -/

omit [LinearOrder K] [FloorRing K] in
/-- An MIT control command, as damping and policy send it. -/
def IsMitControl : HostCommand K → Prop
  | .mitControl _ _ _ _ _ => True
  | _ => False

/-- The opcode of a command that is not an MIT control command. -/
theorem opcode_of_not_control {p : SPGActuatorProtocol K} {command : HostCommand K} {f : CANFrame}
    (h : encodeHostCommand p command = .ok f) (hcontrol : ¬ IsMitControl command) :
    f.data.getD 0 0 ≠ cmdMitControl := by
  cases command with
  | enable =>
      cases h
      show cmdMitEnter ≠ cmdMitControl
      decide
  | disable =>
      cases h
      show cmdMitExit ≠ cmdMitControl
      decide
  | clearFault =>
      cases h
      show cmdClearErrorFlag ≠ cmdMitControl
      decide
  | mitControl _ _ _ _ _ => exact absurd trivial hcontrol
  | setZero offsetDeg =>
      obtain ⟨payload, hpayload, rfl⟩ := map_eq_ok_iff.mp h
      simp only [SPGActuatorProtocol.packMitSetZeroPayload, bind_eq_ok_iff] at hpayload
      obtain ⟨offsetRaw, -, hpayload⟩ := hpayload
      split at hpayload
      · cases hpayload
        show cmdMitSetZero ≠ cmdMitControl
        decide
      · cases hpayload

/-- What a command leaves on the interface carries readings only if it is an MIT control command. -/
theorem recordReadings_of_not_control {p : SPGActuatorProtocol K} {command : HostCommand K}
    {r : LinuxCanFrame} (h : commandRecord p command = .ok r) (hcontrol : ¬ IsMitControl command)
    (config : MonitorConfig K) (canId : ℤ) : recordReadings config canId r = none := by
  obtain ⟨f, hf, hr⟩ := bind_eq_ok_iff.mp h
  obtain ⟨-, -, hdata⟩ := socketSendFrame_fields hr
  rw [recordReadings_eq, if_neg]
  rintro ⟨-, -, hop⟩
  apply opcode_of_not_control hf hcontrol
  rw [← hop]
  simp [hdata]

/-- A frame of the host on the interface is the record of a command of the run. -/
theorem command_of_mem_busWire {protocols : List (SPGActuatorProtocol K)}
    {devices : List (BusDevice K)} {events : List (BusEvent K)} {r : LinuxCanFrame}
    (h : WireFrame.host r ∈ busWire protocols devices events) :
    ∃ actuator command p, .hostSend actuator command ∈ events ∧ commandRecord p command = .ok r := by
  obtain ⟨e, he, hr⟩ := List.mem_flatMap.mp h
  have hinput := input_mem_of_mem (busStep protocols) he
  rw [eq_entry_of_mem (busStep protocols) he, entry_out] at hr
  generalize e.input = ev at hr hinput
  cases ev with
  | hostSend actuator command =>
      simp only [busStep] at hr
      split at hr
      · cases hr
      · rename_i p hp
        split at hr
        · cases hr
        · rename_i r' hrecord
          cases List.mem_singleton.mp hr
          exact ⟨actuator, command, p, hinput, hrecord⟩
  | firmwareProcess device simTime => cases hr
  | firmwareFeedback device sample =>
      simp only [busStep] at hr
      split at hr
      · cases hr
      · obtain ⟨f, -, hf⟩ := List.mem_map.mp hr
        cases hf

/-- Everything on the interface parses. -/
theorem parseCanFrame_wire {protocols : List (SPGActuatorProtocol K)} {devices : List (BusDevice K)}
    {events : List (BusEvent K)} {w : WireFrame} (h : w ∈ busWire protocols devices events) :
    ∃ frame, parseCanFrame w.record = .ok frame := by
  have hle : w.record.canDlc.toNat ≤ 8 := by
    cases w with
    | host r =>
        obtain ⟨-, command, p, -, hrecord⟩ := command_of_mem_busWire h
        obtain ⟨f, -, hr⟩ := bind_eq_ok_iff.mp hrecord
        obtain ⟨hdlc, hlen, -⟩ := socketSendFrame_fields hr
        show r.canDlc.toNat ≤ 8
        omega
    | firmware f =>
        show (if f.dlc ≤ 8 then f.dlc else 8).toNat ≤ 8
        split
        · rename_i hdlc
          exact UInt8.le_iff_toNat_le.mp hdlc
        · decide
  unfold parseCanFrame
  rw [dif_neg (Nat.not_lt.mpr hle)]
  exact ⟨_, rfl⟩

/-- Without MIT control commands the readings are the motors' own in every run. -/
theorem readings_true_of_no_control (sqrt : K → K) {config : MonitorConfig K}
    (hquat : config.imuQuatScale ≠ 0) (hgyro : config.imuGyroScale ≠ 0)
    (hiq : config.iqFullScaleCount ≠ 0) (channel : ℕ) (clock : ℕ → K)
    (protocols : List (SPGActuatorProtocol K)) (devices : List (BusDevice K))
    {events : List (BusEvent K)}
    (hcontrol : ∀ actuator command, .hostSend actuator command ∈ events → ¬ IsMitControl command) :
    DashboardTrue sqrt config channel clock (busWire protocols devices events) := by
  rw [dashboardTrue_iff]
  constructor
  · intro w hw
    obtain ⟨frame, hframe⟩ := parseCanFrame_wire hw
    unfold StopsLoop
    rw [hframe]
    rintro (⟨-, -, ⟨-, h0⟩ | ⟨-, -, h0⟩⟩ | ⟨-, -, -, h0⟩)
    · exact hquat h0
    · exact hgyro h0
    · exact hiq h0
  · intro n r hr a _ v hv
    obtain ⟨actuator, command, p, hsend, hrecord⟩ := command_of_mem_busWire (List.mem_of_getElem? hr)
    rw [recordReadings_of_not_control hrecord (hcontrol actuator command hsend)] at hv
    cases hv

/-- **The readings' origin.** In every run of the bus the dashboard shows, after every frame, exactly
what the firmwares reported if and only if no frame ends the loop and every command that looks like a
status repeats the latest status of its motor. -/
theorem motor_readings_iff (sqrt : K → K) (config : MonitorConfig K) (channel : ℕ) (clock : ℕ → K)
    (protocols : List (SPGActuatorProtocol K)) (devices : List (BusDevice K))
    (events : List (BusEvent K)) :
    DashboardTrue sqrt config channel clock (busWire protocols devices events) ↔
      (∀ w ∈ busWire protocols devices events, ¬ StopsLoop config w.record) ∧
        RepeatsStatus config (busWire protocols devices events) :=
  dashboardTrue_iff sqrt config channel clock _

end Bus

/-! ## A damping command on an idle bus -/

/-- A dashboard with one motor, scaled as the platform file has it. -/
def hipMonitor : MonitorConfig ℚ where
  heartbeatWindowS := 1
  nodeTimeoutS := 0.25
  feedbackPositionMaxRad := 12.56
  iqFullScaleCount := 2048
  iqFullScaleCurrentA := 33
  imuRequestId := 0x221
  imuQuatId := 0x2A1
  imuGyroId := 0x321
  imuQuatScale := 10000
  imuGyroScale := 100
  imuNormalizeQuat := true
  canChannels := [{ iface := "vcan0", stuffFactor := 1.15, busLoad := ⟨1, 1000000, []⟩ }]
  actuators := [⟨0x101, "FL_HR"⟩]
  channels_ne_nil := List.cons_ne_nil _ _

/-- The controller sends one damping command. -/
def dampingEvents : List (BusEvent ℚ) :=
  [.hostSend 0 (.mitControl (.fin 0) (.fin 0) (.fin 0) (.fin (1 / 2)) (.fin 0))]

/-- That command on the interface. -/
def dampingRecord : LinuxCanFrame := ⟨0x101, 8, #v[0xC0, 0x80, 0, 0x80, 0, 0, 0x1A, 0x80]⟩

theorem busWire_dampingEvents :
    busWire [Link.hipLink.protocol] [{ firmware := { canId := 0x101, config := {} } }]
      dampingEvents = [.host dampingRecord] := by
  have hrecord : commandRecord Link.hipLink.protocol
      (.mitControl (.fin 0) (.fin 0) (.fin 0) (.fin (1 / 2)) (.fin 0)) = .ok dampingRecord := by
    decide +kernel
  simp only [busWire, trace, entry, dampingEvents, busStep, List.getElem?_cons_zero, hrecord]
  rfl

/-- One damping command before any status: the motor shows its bytes as temperature, current, speed
and position. -/
theorem damping_shown_as_readings :
    ¬ DashboardTrue id hipMonitor 0 (fun n => n)
      (busWire [Link.hipLink.protocol] [{ firmware := { canId := 0x101, config := {} } }]
        dampingEvents) := by
  rw [busWire_dampingEvents, dashboardTrue_iff]
  rintro ⟨-, hrepeat⟩
  have hcarried : ∃ v, recordReadings hipMonitor 0x101 dampingRecord = some v := by
    rw [recordReadings_eq, if_pos (by decide)]
    exact ⟨_, rfl⟩
  obtain ⟨v, hv⟩ := hcarried
  have hmem : (⟨0x101, "FL_HR"⟩ : ActuatorConfig) ∈ hipMonitor.actuators := List.mem_cons_self
  cases hrepeat 0 dampingRecord rfl _ hmem v hv

end SparqControl.Dashboard
