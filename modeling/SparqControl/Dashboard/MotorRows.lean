/-
# SparqControl.Dashboard.MotorRows — what the age of a motor row means.

`_update_motor` stamps a motor when a frame under its id is heard. `_update_motor_tx_hint` stamps it, with
the same clock and in the same field, when the dashboard itself SENDS it an enter, exit or set-zero frame.
A row is therefore online for `node_timeout_s` after a click, whether or not there is a motor
(`motor_row_exact`, `motor_row_unheard`); only `rx_count` is about the motor.
-/
import SparqControl.Dashboard.NodeRows

namespace SparqControl.Dashboard

open SparqControl.Hal
open SparqControl.Hw (cmdMitEnter cmdMitExit cmdMitSetZero)
open SparqControl.Lib (Dict)
open SparqControl.Lib.Trace

section Motors

variable {K : Type} [Field K] [LinearOrder K]

/-- The opcodes `_update_motor_tx_hint` reacts to. -/
def isHinted (opcode : UInt8) : Bool :=
  opcode = cmdMitEnter || opcode = cmdMitExit || opcode = cmdMitSetZero

/-- When an event stamps the motor with an id: a frame was heard under it, or a hinted one was sent. -/
def touches (canId : ℤ) : MonitorEvent K → Option K
  | .rx _ frame now => if frame.canId = canId then some now else none
  | .tx dest data now => if dest = canId ∧ data ≠ [] ∧ isHinted (data.getD 0 0) then some now else none
  | .page _ => none

/-- What holds of the motor with an id. -/
structure MotorFollows (canId : ℤ) (past : List (MonitorEvent K)) (motor : SPGMotorState K) : Prop where
  rxCount : motor.rxCount = (arrivals canId past).length
  lastT : motor.lastT = (latest (touches canId) past).getD 0

/-- What holds of the motors: each knows its id, and the configured one is there. -/
structure MotorsFollow (canId : ℤ) (past : List (MonitorEvent K)) (motors : Dict ℤ (SPGMotorState K)) :
    Prop where
  keyed : motors.Keyed SPGMotorState.canId
  follows : ∃ motor, motors.get? canId = some motor ∧ MotorFollows canId past motor

/-! ## One event -/

/-- Whatever a frame decodes to, it is counted and stamped. -/
theorem SPGMotorState.update_stamp {config : MonitorConfig K} {motor motor' : SPGMotorState K}
    {frame : ParsedFrame} {now : K} (h : motor.update config frame now = .ok motor') :
    motor'.canId = motor.canId ∧ motor'.rxCount = motor.rxCount + 1 ∧ motor'.lastT = now := by
  unfold SPGMotorState.update at h
  simp only at h
  split_ifs at h
  · cases h
    exact ⟨rfl, rfl, rfl⟩
  · split at h
    · cases h
      exact ⟨rfl, rfl, rfl⟩
    · cases h
      exact ⟨rfl, rfl, rfl⟩
    · cases h
  all_goals
    cases h
    exact ⟨rfl, rfl, rfl⟩

omit [LinearOrder K] in
/-- A sent frame stamps the motor if its opcode is one of the three, and never counts. -/
theorem SPGMotorState.txHint_stamp (motor : SPGMotorState K) (data : List UInt8) (now : K) :
    (motor.txHint data now).canId = motor.canId ∧ (motor.txHint data now).rxCount = motor.rxCount ∧
      (motor.txHint data now).lastT = if isHinted (data.getD 0 0) then now else motor.lastT := by
  unfold SPGMotorState.txHint isHinted
  simp only
  split_ifs <;> simp_all

omit [Field K] [LinearOrder K] in
theorem time_of_touches {canId : ℤ} {event : MonitorEvent K} {t : K} (h : touches canId event = some t) :
    t = event.time := by
  cases event with
  | rx channel frame now => exact (Option.ite_none_right_eq_some.mp h).2 |> Option.some.inj |> Eq.symm
  | tx dest data now => exact (Option.ite_none_right_eq_some.mp h).2 |> Option.some.inj |> Eq.symm
  | page now => cases h

omit [LinearOrder K] in
/-- An event that changes the entry of one motor. -/
theorem MotorsFollow.insert {canId k : ℤ} {past : List (MonitorEvent K)}
    {motors : Dict ℤ (SPGMotorState K)} (h : MotorsFollow canId past motors) {event : MonitorEvent K}
    {motor' : SPGMotorState K} (hkey : motor'.canId = k)
    (hown : k = canId → ∀ motor, motors.get? canId = some motor → MotorFollows canId past motor →
      MotorFollows canId (past ++ [event]) motor')
    (hother : k ≠ canId → arrival canId event = none ∧ touches canId event = none) :
    MotorsFollow canId (past ++ [event]) (motors.insert k motor') := by
  obtain ⟨motor, hget, hfollows⟩ := h.follows
  refine ⟨h.keyed.insert hkey, ?_⟩
  by_cases hk : k = canId
  · refine ⟨motor', ?_, hown hk motor hget hfollows⟩
    rw [Dict.get?_insert, if_pos hk.symm]
  · obtain ⟨harrival, htouches⟩ := hother hk
    refine ⟨motor, ?_, ?_, ?_⟩
    · rw [Dict.get?_insert, if_neg (Ne.symm hk), hget]
    · rw [arrivals_concat_none harrival]
      exact hfollows.rxCount
    · rw [latest_concat, htouches]
      exact hfollows.lastT

omit [LinearOrder K] in
/-- An event that touches no motor with the id. -/
theorem MotorsFollow.skip {canId : ℤ} {past : List (MonitorEvent K)}
    {motors : Dict ℤ (SPGMotorState K)} (h : MotorsFollow canId past motors) {event : MonitorEvent K}
    (harrival : arrival canId event = none) (htouches : touches canId event = none) :
    MotorsFollow canId (past ++ [event]) motors := by
  obtain ⟨motor, hget, hfollows⟩ := h.follows
  refine ⟨h.keyed, motor, hget, ?_, ?_⟩
  · rw [arrivals_concat_none harrival]
    exact hfollows.rxCount
  · rw [latest_concat, htouches]
    exact hfollows.lastT

omit [LinearOrder K] in
/-- The motor that is found under an id, or made for it, has the id. -/
theorem MotorsFollow.canId_getD {canId : ℤ} {past : List (MonitorEvent K)}
    {motors : Dict ℤ (SPGMotorState K)} (h : MotorsFollow canId past motors) (k : ℤ) (name : String) :
    ((motors.get? k).getD { canId := k, name := name }).canId = k := by
  cases hget : motors.get? k with
  | none => rfl
  | some motor => exact h.keyed _ (Dict.mem_of_get? hget)

omit [LinearOrder K] in
/-- What a sent frame does to the motors. -/
theorem motors_updateMotorTxHint (config : MonitorConfig K) (s : MonitorState K) (canId : ℤ)
    (data : List UInt8) (now : K) :
    ((data = [] ∨ config.actuatorConfigForCanId canId = none) ∧
        (updateMotorTxHint config s canId data now).motors = s.motors) ∨
      ∃ actuator : ActuatorConfig, data ≠ [] ∧ (updateMotorTxHint config s canId data now).motors =
        s.motors.insert canId
          (((s.motors.get? canId).getD { canId := canId, name := actuator.name }).txHint data now) := by
  cases data with
  | nil => exact .inl ⟨.inl rfl, rfl⟩
  | cons byte data =>
      cases hconfig : config.actuatorConfigForCanId canId with
      | none =>
          left
          refine ⟨.inr rfl, ?_⟩
          simp only [updateMotorTxHint, hconfig]
      | some actuator =>
          right
          refine ⟨actuator, List.cons_ne_nil byte data, ?_⟩
          simp only [updateMotorTxHint, hconfig]

variable [FloorRing K]

/-- What `mark_rx` does to the motors, once the IMU decoder has not raised. -/
theorem motors_markRxLeaves (sqrt : K → K) {config : MonitorConfig K} (channel : Option ℕ)
    (s : MonitorState K) {frame : ParsedFrame} (now : K) (himu : ¬ ImuDividesByZero config frame) :
    (config.actuatorConfigForCanId frame.canId = none ∧
        (markRxLeaves sqrt config channel s frame now).motors = s.motors) ∨
      ∃ actuator motor', config.actuatorConfigForCanId frame.canId = some actuator ∧
        (markRxLeaves sqrt config channel s frame now).motors = s.motors.insert frame.canId motor' ∧
        let motor := (s.motors.get? frame.canId).getD { canId := frame.canId, name := actuator.name }
        motor'.canId = motor.canId ∧ motor'.rxCount = motor.rxCount + 1 ∧ motor'.lastT = now := by
  have hfiled : (fileFrame config channel s frame now).motors = s.motors := by
    unfold fileFrame
    rw [markNode_motors]
    cases channel <;> rfl
  obtain ⟨s₂, hs₂⟩ := (updateImu_isOk_iff sqrt config (fileFrame config channel s frame now) frame now).mpr
    himu
  have hmotors : s₂.motors = s.motors := (updateImu_motors hs₂).trans hfiled
  unfold markRxLeaves
  simp only [hs₂]
  cases hconfig : config.actuatorConfigForCanId frame.canId with
  | none =>
      left
      refine ⟨rfl, ?_⟩
      simp only [updateMotor, hconfig]
      exact hmotors
  | some actuator =>
      right
      refine ⟨actuator, ?_⟩
      simp only [updateMotor, hconfig, hmotors]
      generalize hmotor : (s.motors.get? frame.canId).getD
        { canId := frame.canId, name := actuator.name } = motor
      cases hupdate : motor.update config frame now with
      | ok motor' => exact ⟨motor', trivial, rfl, SPGMotorState.update_stamp hupdate⟩
      | error e =>
          refine ⟨motor.heard frame now, trivial, ?_, rfl, rfl, rfl⟩
          rw [← hmotor]
          rfl

variable {config : MonitorConfig K} {a : ActuatorConfig} {past : List (MonitorEvent K)}

/-- The scales of the IMU decoders, which raise for zero. -/
def ImuScalesNonzero (config : MonitorConfig K) : Prop :=
  config.imuQuatScale ≠ 0 ∧ config.imuGyroScale ≠ 0

/-- A frame that was heard. -/
theorem MotorsFollow.markRx (sqrt : K → K) (ha : a ∈ config.actuators) (hscales : ImuScalesNonzero config)
    {s : MonitorState K} (h : MotorsFollow a.canId past s.motors) (channel : Option ℕ) (frame : ParsedFrame)
    (now : K) :
    MotorsFollow a.canId (past ++ [.rx channel frame now])
      (markRxLeaves sqrt config channel s frame now).motors := by
  obtain ⟨b, hb⟩ := MonitorConfig.exists_actuatorConfigForCanId ha
  have himu : ¬ ImuDividesByZero config frame := by
    rintro ⟨-, -, ⟨-, hzero⟩ | ⟨-, -, hzero⟩⟩
    · exact hscales.1 hzero
    · exact hscales.2 hzero
  rcases motors_markRxLeaves sqrt channel s now himu with
    ⟨hnone, hsame⟩ | ⟨actuator, motor', -, hinsert, hid, hcount, hstamp⟩
  · -- a frame under no configured id
    have hne : frame.canId ≠ a.canId := by
      intro heq
      rw [heq, hb] at hnone
      cases hnone
    rw [hsame]
    exact h.skip (if_neg hne) (if_neg hne)
  · rw [hinsert]
    refine h.insert (hid.trans (h.canId_getD frame.canId actuator.name)) (fun hk motor hget hfollows => ?_)
      fun hk => ⟨if_neg hk, if_neg hk⟩
    rw [hk, hget, Option.getD_some] at hcount
    have harrival : arrival a.canId (.rx channel frame now) = some (now, frame.data) := if_pos hk
    have htouches : touches a.canId (.rx channel frame now) = some now := if_pos hk
    refine ⟨?_, ?_⟩
    · rw [hcount, hfollows.rxCount, arrivals_concat_some harrival, List.length_append]
      rfl
    · rw [hstamp, latest_concat, htouches]
      rfl

/-- A frame that was sent. -/
theorem MotorsFollow.markTx (ha : a ∈ config.actuators) {m : Monitor K}
    (h : MotorsFollow a.canId past m.state.motors) (dest : ℤ) (data : List UInt8) (now : K) :
    MotorsFollow a.canId (past ++ [.tx dest data now]) (m.markTx config dest data now).state.motors := by
  obtain ⟨b, hb⟩ := MonitorConfig.exists_actuatorConfigForCanId ha
  have harrival : arrival a.canId (.tx dest data now) = none := rfl
  unfold Monitor.markTx
  simp only
  generalize hs : (if dest = config.imuRequestId then _ else _ : MonitorState K) = s
  have hmotors : s.motors = m.state.motors := by
    rw [← hs]
    split <;> rfl
  rw [← hmotors] at h
  rcases motors_updateMotorTxHint config s dest data now with ⟨hnot, hsame⟩ | ⟨actuator, hdata, hinsert⟩
  · -- an empty frame, or one for no configured id
    have htouches : ¬ (dest = a.canId ∧ data ≠ [] ∧ isHinted (data.getD 0 0)) := by
      rintro ⟨heq, hdata, -⟩
      rcases hnot with hnil | hnone
      · exact hdata hnil
      · rw [heq, hb] at hnone
        cases hnone
    rw [hsame]
    exact h.skip harrival (if_neg htouches)
  · rw [hinsert]
    obtain ⟨hid, hcount, hstamp⟩ := SPGMotorState.txHint_stamp
      ((s.motors.get? dest).getD { canId := dest, name := actuator.name }) data now
    refine h.insert (hid.trans (h.canId_getD dest actuator.name)) (fun hk motor hget hfollows => ?_)
      fun hk => ⟨rfl, if_neg fun hc => hk hc.1⟩
    subst hk
    rw [hget, Option.getD_some] at hcount hstamp ⊢
    refine ⟨?_, ?_⟩
    · rw [hcount, arrivals_concat_none harrival]
      exact hfollows.rxCount
    · by_cases hhint : isHinted (data.getD 0 0) = true
      · have htouches : touches a.canId (.tx a.canId data now) = some now :=
          if_pos ⟨rfl, hdata, hhint⟩
        rw [hstamp, if_pos hhint, latest_concat, htouches]
        rfl
      · have htouches : touches a.canId (.tx a.canId data now) = none :=
          if_neg fun hc => hhint hc.2.2
        rw [hstamp, if_neg hhint, latest_concat, htouches]
        exact hfollows.lastT

/-- **Step.** -/
theorem MotorsFollow.step (sqrt : K → K) (ha : a ∈ config.actuators) (hscales : ImuScalesNonzero config)
    {m : Monitor K} (h : MotorsFollow a.canId past m.state.motors) (event : MonitorEvent K) :
    MotorsFollow a.canId (past ++ [event]) (monitorStep sqrt config m event).1.state.motors := by
  cases event with
  | rx channel frame now => exact h.markRx sqrt ha hscales channel frame now
  | tx dest data now => exact h.markTx ha dest data now
  | page now => exact h.skip rfl rfl

omit [LinearOrder K] [FloorRing K] in
/-- The motors of a dashboard that was just started. -/
theorem motorsFollow_start (ha : a ∈ config.actuators) :
    MotorsFollow a.canId [] (monitorInit config).motors := by
  have hactuators : ∀ (as : List ActuatorConfig) (s : MonitorState K),
      s.motors.Keyed SPGMotorState.canId ∧ (∀ motor ∈ s.motors.values, motor.rxCount = 0 ∧ motor.lastT = 0) →
        (as.foldl (ensureActuator config) s).motors.Keyed SPGMotorState.canId ∧
          ∀ motor ∈ (as.foldl (ensureActuator config) s).motors.values,
            motor.rxCount = 0 ∧ motor.lastT = 0 := by
    intro as
    induction as with
    | nil => exact fun s hs => hs
    | cons b as ih =>
        intro s hs
        rw [List.foldl_cons]
        apply ih
        unfold ensureActuator
        simp only [ensureNode_motors]
        split
        · rw [ensureNode_motors]
          exact hs
        · rename_i hnone
          refine ⟨hs.1.insert rfl, fun motor hmotor => ?_⟩
          rw [Dict.values_insert_of_not_mem ((Dict.get?_eq_none_iff _ _).mp hnone)] at hmotor
          rcases List.mem_append.mp hmotor with hmotor | hmotor
          · exact hs.2 motor hmotor
          · rw [List.mem_singleton.mp hmotor]
            exact ⟨rfl, rfl⟩
  have hstart : (ensureImuNodes config { canChannels := config.canChannels }).motors = Dict.empty := by
    simp only [ensureImuNodes, ensureNode_motors]
  obtain ⟨hkeyed, hsilent⟩ := hactuators config.actuatorConfigs _ <| by
    rw [hstart]
    exact ⟨fun e he => (List.not_mem_nil he).elim, fun motor hmotor => (List.not_mem_nil hmotor).elim⟩
  obtain ⟨motor, hget, -⟩ := monitorInit_shows ha
  obtain ⟨hcount, hlast⟩ := hsilent motor (List.mem_map.mpr ⟨_, Dict.mem_of_get? hget, rfl⟩)
  exact ⟨hkeyed, motor, hget, hcount, hlast⟩

/-- The motors over a run. -/
theorem motorsFollow_final (sqrt : K → K) (ha : a ∈ config.actuators) (hscales : ImuScalesNonzero config) :
    MotorsFollow a.canId past (final (monitorStep sqrt config) (.start config) past).state.motors := by
  induction past using List.reverseRecOn with
  | nil => exact motorsFollow_start ha
  | append_singleton past event ih =>
      rw [final_concat]
      exact ih.step sqrt ha hscales event

/-! ## The row -/

/-- **A motor on the page.** A configured motor has one row. It counts the frames heard under the id of the
motor, and its age is that of the last of them or of the last enter, exit or set-zero frame the dashboard
sent to it, whichever came later; the row is in timeout when that age is above `node_timeout_s`. -/
theorem motor_row_exact (sqrt : K → K) (config : MonitorConfig K) (hscales : ImuScalesNonzero config)
    (a : ActuatorConfig) (ha : a ∈ config.actuators) (past : List (MonitorEvent K)) (now : K)
    (hpositive : ∀ event ∈ past, 0 < event.time) :
    let page := ((final (monitorStep sqrt config) (.start config) past).snapshot config now).2
    ∃ row, page.motors.filter (fun other => other.canId = hexId a.canId) = [row] ∧
      row.rxCount = (arrivals a.canId past).length ∧
      row.ageS = (latest (touches a.canId) past).map (fun t => now - t) ∧
      row.status =
        match latest (touches a.canId) past with
        | none => .never
        | some t => if now - t > config.nodeTimeoutS then .timeout else .online := by
  intro page
  obtain ⟨hkeyed, motor, hget, hcount, hlast⟩ := @motorsFollow_final K _ _ _ config a past sqrt ha hscales
  have hentry := Dict.mem_of_get? hget
  have hid : motor.canId = a.canId := hkeyed _ hentry
  have hmem : motor ∈ (final (monitorStep sqrt config) (.start config) past).state.motors.values :=
    List.mem_map.mpr ⟨_, hentry, rfl⟩
  have hage : ageOf now motor.lastT = (latest (touches a.canId) past).map fun t => now - t := by
    have hzero : (0.0 : K) = 0 := by norm_num
    rw [hlast, ageOf, hzero]
    cases htouched : latest (touches a.canId) past with
    | none => exact if_pos le_rfl
    | some t =>
        obtain ⟨event, hevent, ht⟩ := mem_of_latest htouched
        have hpos : 0 < t := time_of_touches ht ▸ hpositive event hevent
        exact if_neg (not_le.mpr hpos)
  refine ⟨motor.row config now, ?_, hcount, hage, ?_⟩
  · have hids : (page.motors.map MotorRow.canId).Nodup := by
      have hsorted := (List.mergeSort_perm (final (monitorStep sqrt config) (.start config)
        past).state.motors.values fun a b => decide (a.canId ≤ b.canId)).map SPGMotorState.canId
      have hnodup := hsorted.nodup_iff.mpr (hkeyed.map_values ▸ Dict.keys_nodup _)
      have hhex := hnodup.map hexId_injective
      rw [List.map_map] at hhex
      show (List.map MotorRow.canId (List.map (SPGMotorState.row config · now) _)).Nodup
      rw [List.map_map]
      exact hhex
    have hrow : motor.row config now ∈ page.motors :=
      List.mem_map.mpr ⟨motor, List.mem_mergeSort.mpr hmem, rfl⟩
    rw [← hid]
    exact Dict.filter_eq_singleton hids hrow
  · show presenceOf config.nodeTimeoutS (ageOf now motor.lastT) = _
    rw [hage]
    cases latest (touches a.canId) past <;> rfl

end Motors

/-- The operator has sent an enter frame 0.1 s ago, and no motor has ever answered. -/
theorem motor_row_unheard :
    ∃ row ∈ ((final (monitorStep id twoChannelMonitor) (.start twoChannelMonitor)
        [.tx 0x101 [0xC1, 0, 0, 0, 0, 0, 0, 0] 1]).snapshot twoChannelMonitor (11 / 10)).2.motors,
      row.canId = "0x101" ∧ row.rxCount = 0 ∧ row.status = .online := by
  obtain ⟨row, hrow, hcount, -, hstatus⟩ := motor_row_exact id twoChannelMonitor
    (by unfold ImuScalesNonzero; decide +kernel) ⟨0x101, "FL_HR"⟩ List.mem_cons_self
    [.tx 0x101 [0xC1, 0, 0, 0, 0, 0, 0, 0] 1] (11 / 10) (by decide +kernel)
  obtain ⟨hmem, hid⟩ := List.mem_filter.mp (hrow ▸ List.mem_singleton_self row)
  refine ⟨row, hmem, (of_decide_eq_true hid).trans (by decide), hcount, ?_⟩
  rw [hstatus]
  decide +kernel

end SparqControl.Dashboard
