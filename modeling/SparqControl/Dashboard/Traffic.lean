/-
# SparqControl.Dashboard.Traffic — the rows of the dashboard page against the traffic.

The dashboard files every frame it hears and every frame it sends, and a page is a snapshot of what was
filed. The files forget: a channel keeps the frames of `bus_window_s`, a node the arrivals of
`heartbeat_window_s`, and both are cut only when a frame comes in or a page is made. What a page shows
does not depend on when they were cut: the figures of a channel are those of its frames in the last
`bus_window_s` (`channel_row_exact`).
-/
import SparqControl.Dashboard.MonitorState
import SparqControl.Lib.Trace
import SparqControl.Lib.Window

namespace SparqControl.Dashboard

open SparqControl.Hal
open SparqControl.Hw (cmdMitEnter cmdMitExit cmdMitSetZero)
open SparqControl.Hw.SPGActuatorProtocol (readI16)
open SparqControl.Lib (Dict)
open SparqControl.Lib.Trace
open SparqControl.Lib.Window (LiveUpTo liveUpTo_nil)

/-! ## Frames that are sent -/

/-- The `MonitorState` of a dashboard that sends: `mark_tx` counts on the primary channel only. -/
structure Monitor (K : Type) [Field K] where
  state : MonitorState K
  totalTx : ℕ := 0

section Model

variable {K : Type} [Field K] [LinearOrder K]

/-- The part of `_update_motor_tx_hint` after the entry is found. -/
def SPGMotorState.txHint (motor : SPGMotorState K) (data : List UInt8) (now : K) : SPGMotorState K :=
  let opcode := data.getD 0 0
  if opcode = cmdMitEnter then
    { motor with
      lastT := now
      rawData := data.take 8
      lastKind := "MIT_ENTER_SENT"
      enabledHint := some true }
  else if opcode = cmdMitExit then
    { motor with
      lastT := now
      rawData := data.take 8
      lastKind := "MIT_EXIT_SENT"
      enabledHint := some false }
  else if opcode = cmdMitSetZero then
    { motor with
      lastT := now
      rawData := data.take 8
      lastKind := "MIT_SET_ZERO_SENT"
      zeroOffsetCount := if data.length ≥ 8 then some (readI16 data 6) else motor.zeroOffsetCount }
  else motor

/-- `_update_motor_tx_hint`. -/
def updateMotorTxHint (config : MonitorConfig K) (s : MonitorState K) (canId : ℤ) (data : List UInt8)
    (now : K) : MonitorState K :=
  match data, config.actuatorConfigForCanId canId with
  | [], _ => s
  | _, none => s
  | data, some actuator =>
      let motor := (s.motors.get? canId).getD { canId := canId, name := actuator.name }
      { s with motors := s.motors.insert canId (motor.txHint data now) }

/-! ## Pages -/

/-- What `BusLoadWindow.snapshot` returns. -/
structure BusLoad (K : Type) where
  rxFrames : ℕ
  txFrames : ℕ
  rxRate : K
  txRate : K
  rxBits : ℤ
  txBits : ℤ
  estimatedBps : K
  estimatedKbps : K
  loadPercent : K
  bitrate : K
  windowS : K

/-- The counters of the loop in `BusLoadWindow.snapshot`. -/
structure BusCounters where
  rxFrames : ℕ := 0
  txFrames : ℕ := 0
  rxBits : ℤ := 0
  txBits : ℤ := 0

/-- The loop body of `BusLoadWindow.snapshot`. -/
def BusCounters.count (n : BusCounters) (e : K × ℤ × Direction) : BusCounters :=
  match e.2.2 with
  | .rx => { n with rxFrames := n.rxFrames + 1, rxBits := n.rxBits + e.2.1 }
  | .tx => { n with txFrames := n.txFrames + 1, txBits := n.txBits + e.2.1 }

/-- `BusLoadWindow.snapshot`: the pruned window and the figures. -/
def BusLoadWindow.snapshot (w : BusLoadWindow K) (now : K) : BusLoadWindow K × BusLoad K :=
  let w := w.prune now
  let n : BusCounters := w.events.foldl BusCounters.count {}
  let duration := max w.windowS 1e-9
  let estimatedBps := ((n.rxBits + n.txBits : ℤ) : K) / duration
  (w,
    { rxFrames := n.rxFrames
      txFrames := n.txFrames
      rxRate := n.rxFrames / duration
      txRate := n.txFrames / duration
      rxBits := n.rxBits
      txBits := n.txBits
      estimatedBps := estimatedBps
      estimatedKbps := estimatedBps / 1000.0
      loadPercent := estimatedBps / max w.bitrate 1e-9 * 100.0
      bitrate := w.bitrate
      windowS := w.windowS })

/-- What a row says about a sender. -/
inductive Presence where
  | never
  | timeout
  | online
  deriving DecidableEq, Repr

/-- What `CanChannelState.snapshot` returns, the texts of the socket apart. -/
structure ChannelRow (K : Type) where
  iface : String
  totalRx : ℕ
  totalTx : ℕ
  load : BusLoad K

/-- What `NodeState.snapshot` returns. -/
structure NodeRow (K : Type) where
  key : String
  name : String
  canId : String
  role : String
  heartbeatHz : K
  lastSeenS : Option K
  timeoutS : K
  status : Presence
  rxCount : ℕ
  lastData : String

/-- An item of `_recent_frames`. -/
structure RecentFrame (K : Type) where
  canId : String
  dlc : ℕ
  data : String
  count : ℕ
  ageS : Option K

/-- What `_motor_snapshot` returns, the polling flag apart. -/
structure MotorRow (K : Type) where
  name : String
  canId : String
  rxCount : ℕ
  ageS : Option K
  status : Presence
  lastKind : String
  enabledHint : Option Bool
  temperatureC : Option ℤ
  iqAApprox : Option K
  speedDps : Option ℤ
  positionRad : Option K
  zeroOffsetCount : Option ℤ
  raw : String

/-- What `_imu_snapshot` returns. -/
structure ImuRow (K : Type) where
  reqCount : ℕ
  quatCount : ℕ
  gyroCount : ℕ
  quatXyzw : K × K × K × K
  projectedGravityB : K × K × K
  angularVelocityRadS : K × K × K
  quatAgeS : Option K
  gyroAgeS : Option K

/-- What `MonitorState.snapshot` returns: what depends on the traffic. -/
structure Page (K : Type) where
  time : K
  canChannels : List (ChannelRow K)
  nodes : List (NodeRow K)
  imu : ImuRow K
  motors : List (MotorRow K)
  recentFrames : List (RecentFrame K)

/-- `hex_id`. -/
def hexId (canId : ℤ) : String := "0x" ++ formatHex 3 canId

/-- `hex_data`. -/
def hexData (data : List UInt8) : String := " ".intercalate (data.map fun b => formatHex 2 b.toNat)

/-- `None if t <= 0.0 else now - t`. -/
def ageOf (now t : K) : Option K := if t ≤ 0.0 then none else some (now - t)

/-- `"timeout" if age_s > timeout_s else "online"`, and `"never"` without an age. -/
def presenceOf (timeoutS : K) : Option K → Presence
  | none => .never
  | some ageS => if ageS > timeoutS then .timeout else .online

/-- `NodeState.prune`. -/
def NodeState.prune (node : NodeState K) (now : K) : NodeState K :=
  { node with timestamps := node.timestamps.dropWhile fun t => t < now - node.heartbeatWindowS }

/-- `heartbeat_hz`, of the kept arrivals. -/
def heartbeatHz (timestamps : List K) : K :=
  match timestamps.head?, timestamps.getLast? with
  | some first, some last =>
      if timestamps.length < 2 then 0.0
      else
        let durationS := last - first
        if durationS ≤ 1e-9 then 0.0 else ((timestamps.length - 1 : ℕ) : K) / durationS
  | _, _ => 0.0

/-- The row of `NodeState.snapshot`, once the arrivals are pruned. -/
def NodeState.row (node : NodeState K) (now : K) : NodeRow K :=
  let ageS := (ageOf now node.lastT).map (max 0.0)
  { key := node.key
    name := node.name
    canId := hexId node.canId
    role := node.role
    heartbeatHz := heartbeatHz node.timestamps
    lastSeenS := ageS
    timeoutS := node.timeoutS
    status := presenceOf node.timeoutS ageS
    rxCount := node.rxCount
    lastData := hexData node.lastData }

/-- `_imu_snapshot`. -/
def E2BoxState.row (imu : E2BoxState K) (now : K) : ImuRow K where
  reqCount := imu.reqCount
  quatCount := imu.quatCount
  gyroCount := imu.gyroCount
  quatXyzw := imu.quatXyzw
  projectedGravityB := imu.projectedGravityB
  angularVelocityRadS := imu.angularVelocityRadS
  quatAgeS := ageOf now imu.quatLastT
  gyroAgeS := ageOf now imu.gyroLastT

/-- `_motor_snapshot`. -/
def SPGMotorState.row (config : MonitorConfig K) (motor : SPGMotorState K) (now : K) : MotorRow K where
  name := motor.name
  canId := hexId motor.canId
  rxCount := motor.rxCount
  ageS := ageOf now motor.lastT
  status := presenceOf config.nodeTimeoutS (ageOf now motor.lastT)
  lastKind := motor.lastKind
  enabledHint := motor.enabledHint
  temperatureC := motor.temperatureC
  iqAApprox := motor.iqAApprox
  speedDps := motor.speedDps
  positionRad := motor.positionRad
  zeroOffsetCount := motor.zeroOffsetCount
  raw := hexData motor.rawData

/-- An item of `_recent_frames`. -/
def RawFrameState.row (raw : RawFrameState K) (now : K) : RecentFrame K where
  canId := hexId raw.canId
  dlc := raw.lastDlc
  data := hexData raw.lastData
  count := raw.count
  ageS := ageOf now raw.lastT

/-- `_recent_frames`. -/
def recentFrames (s : MonitorState K) (now : K) : List (RecentFrame K) :=
  ((s.rawFrames.values.mergeSort fun a b => b.lastT ≤ a.lastT).take 24).map fun raw => raw.row now

/-- What a page does to the state: every window and every node is pruned. -/
def pruneAll (s : MonitorState K) (now : K) : MonitorState K :=
  { s with
    canChannels := s.canChannels.map fun c => { c with busLoad := c.busLoad.prune now }
    nodes := s.nodes.mapValues fun node => node.prune now }

/-- `CanChannelState.snapshot`, for the channel at a position of `can_channels`. -/
def CanChannelState.row (channel : CanChannelState K) (totalTx : ℕ) (now : K) : ChannelRow K where
  iface := channel.iface
  totalRx := channel.totalRx
  totalTx := totalTx
  load := (channel.busLoad.snapshot now).2

/-- `MonitorState.snapshot`. -/
def Monitor.snapshot (config : MonitorConfig K) (m : Monitor K) (now : K) : Monitor K × Page K :=
  let s := pruneAll m.state now
  ({ m with state := s },
    { time := now
      canChannels := m.state.canChannels.mapIdx fun i c => c.row (if i = 0 then m.totalTx else 0) now
      nodes := (s.nodes.values.mergeSort fun a b => a.canId ≤ b.canId).map fun node => node.row now
      imu := s.imu.row now
      motors := (s.motors.values.mergeSort fun a b => a.canId ≤ b.canId).map fun motor =>
        motor.row config now
      recentFrames := recentFrames s now })

variable [FloorRing K]

/-- `CanChannelState.mark_tx`, the counter apart. -/
def CanChannelState.markTx (channel : CanChannelState K) (data : List UInt8) (now : K) :
    CanChannelState K :=
  { channel with
    busLoad := channel.busLoad.add now
      (estimateClassicalCanBits data.length false false channel.stuffFactor) .tx }

/-- `mark_tx`. -/
def Monitor.markTx (config : MonitorConfig K) (m : Monitor K) (canId : ℤ) (data : List UInt8)
    (now : K) : Monitor K :=
  let s := m.state
  let s := { s with canChannels := s.canChannels.modify 0 fun c => c.markTx data now }
  let s :=
    if canId = config.imuRequestId then
      { s with imu := { s.imu with reqCount := s.imu.reqCount + 1 } }
    else s
  { state := updateMotorTxHint config s canId data now, totalTx := m.totalTx + 1 }

/-- The part of `mark_rx` that cannot raise. -/
def fileFrame (config : MonitorConfig K) (channel : Option ℕ) (s : MonitorState K)
    (frame : ParsedFrame) (now : K) : MonitorState K :=
  let s :=
    match channel with
    | some i => { s with canChannels := s.canChannels.modify i fun c => c.markRx frame now }
    | none => s
  markNode config (updateRawFrame s frame now) frame now

/-- What `mark_rx` leaves, also where a decoder raises in it. -/
def markRxLeaves (sqrt : K → K) (config : MonitorConfig K) (channel : Option ℕ) (s : MonitorState K)
    (frame : ParsedFrame) (now : K) : MonitorState K :=
  let s := fileFrame config channel s frame now
  match updateImu sqrt config s frame now with
  | .error _ => s
  | .ok s =>
      match updateMotor config s frame now, config.actuatorConfigForCanId frame.canId with
      | .ok s, _ => s
      | .error _, none => s
      | .error _, some actuator =>
          let motor := (s.motors.get? frame.canId).getD { canId := frame.canId, name := actuator.name }
          { s with motors := s.motors.insert frame.canId (motor.heard frame now) }

/-- What happens to the monitor: a frame is heard on a channel, a frame was sent, a page is made. -/
inductive MonitorEvent (K : Type) where
  | rx (channel : Option ℕ) (frame : ParsedFrame) (now : K)
  | tx (canId : ℤ) (data : List UInt8) (now : K)
  | page (now : K)

/-- The time an event reads from the clock. -/
def MonitorEvent.time : MonitorEvent K → K
  | .rx _ _ now => now
  | .tx _ _ now => now
  | .page now => now

/-- One event. -/
def monitorStep (sqrt : K → K) (config : MonitorConfig K) (m : Monitor K) :
    MonitorEvent K → Monitor K × Option (Page K)
  | .rx channel frame now =>
      ({ m with state := markRxLeaves sqrt config channel m.state frame now }, none)
  | .tx canId data now => (m.markTx config canId data now, none)
  | .page now =>
      let (m, page) := m.snapshot config now
      (m, some page)

/-- A dashboard that was just started. -/
def Monitor.start (config : MonitorConfig K) : Monitor K where
  state := monitorInit config

end Model

/-! ## What the decoders leave alone -/

section Frame

variable {K : Type} [Field K] [LinearOrder K]

theorem updateImu_eq {sqrt : K → K} {config : MonitorConfig K} {s s' : MonitorState K}
    {frame : ParsedFrame} {now : K} (h : updateImu sqrt config s frame now = .ok s') :
    ∃ imu, s' = { s with imu := imu } := by
  unfold updateImu at h
  split_ifs at h
  · exact ⟨_, (Except.ok.inj h).symm⟩
  · split at h
    · exact ⟨_, (Except.ok.inj h).symm⟩
    · exact ⟨_, (Except.ok.inj h).symm⟩
    · cases h
  · split at h
    · exact ⟨_, (Except.ok.inj h).symm⟩
    · exact ⟨_, (Except.ok.inj h).symm⟩
    · cases h
  · exact ⟨_, (Except.ok.inj h).symm⟩

theorem updateMotor_eq {config : MonitorConfig K} {s s' : MonitorState K} {frame : ParsedFrame}
    {now : K} (h : updateMotor config s frame now = .ok s') :
    ∃ motors, s' = { s with motors := motors } := by
  unfold updateMotor at h
  split at h
  · exact ⟨_, (Except.ok.inj h).symm⟩
  · simp only [bind_eq_ok_iff] at h
    obtain ⟨motor, -, hs'⟩ := h
    exact ⟨_, (Except.ok.inj hs').symm⟩

theorem markNode_eq (config : MonitorConfig K) (s : MonitorState K) (frame : ParsedFrame) (now : K) :
    ∃ nodes, markNode config s frame now = { s with nodes := nodes } := by
  have hfound : ∃ nodes, (nodeForCanId config s frame.canId).1 = { s with nodes := nodes } := by
    unfold nodeForCanId ensureNode
    split
    · exact ⟨_, rfl⟩
    · split <;> exact ⟨_, rfl⟩
  obtain ⟨nodes, hnodes⟩ := hfound
  unfold markNode
  simp only [hnodes]
  exact ⟨_, rfl⟩

omit [LinearOrder K] in
theorem updateMotorTxHint_eq (config : MonitorConfig K) (s : MonitorState K) (canId : ℤ)
    (data : List UInt8) (now : K) :
    ∃ motors, updateMotorTxHint config s canId data now = { s with motors := motors } := by
  unfold updateMotorTxHint
  split <;> exact ⟨_, rfl⟩

omit [LinearOrder K] in
/-- A started dashboard has nodes and motors, and has heard nothing. -/
theorem monitorInit_eq (config : MonitorConfig K) :
    ∃ nodes motors, monitorInit config =
      { canChannels := config.canChannels, nodes := nodes, motors := motors } := by
  have hnode : ∀ (s : MonitorState K) (key name : String) (canId : ℤ) (role : String),
      ∃ nodes, (ensureNode config s key name canId role).1 = { s with nodes := nodes } := by
    intro s key name canId role
    unfold ensureNode
    split <;> exact ⟨_, rfl⟩
  have hactuators : ∀ (as : List ActuatorConfig) (s : MonitorState K),
      ∃ nodes motors, as.foldl (ensureActuator config) s = { s with nodes := nodes, motors := motors } := by
    intro as
    induction as with
    | nil => exact fun s => ⟨s.nodes, s.motors, rfl⟩
    | cons a as ih =>
        intro s
        obtain ⟨nodes, hnodes⟩ := hnode s ("can_" ++ formatHex 3 a.canId) a.name a.canId "Actuator"
        obtain ⟨nodes', motors', hrest⟩ := ih (ensureActuator config s a)
        refine ⟨nodes', motors', ?_⟩
        rw [List.foldl_cons, hrest]
        unfold ensureActuator
        simp only [hnodes]
        split <;> rfl
  obtain ⟨nodes₁, h₁⟩ := hnode { canChannels := config.canChannels } "imu_req" "E2Box command"
    config.imuRequestId "IMU"
  obtain ⟨nodes₂, h₂⟩ := hnode { canChannels := config.canChannels, nodes := nodes₁ } "imu_quat"
    "E2Box quaternion" config.imuQuatId "IMU"
  obtain ⟨nodes₃, h₃⟩ := hnode { canChannels := config.canChannels, nodes := nodes₂ } "imu_gyro"
    "E2Box gyro" config.imuGyroId "IMU"
  obtain ⟨nodes, motors, hall⟩ := hactuators config.actuatorConfigs
    { canChannels := config.canChannels, nodes := nodes₃ }
  refine ⟨nodes, motors, ?_⟩
  rw [monitorInit, ensureKnownNodes, ensureImuNodes, h₁]
  simp only [h₂, h₃]
  exact hall

variable [FloorRing K]

/-- Channels, nodes and raw frames are filed before a decoder runs. -/
theorem markRxLeaves_eq (sqrt : K → K) (config : MonitorConfig K) (channel : Option ℕ)
    (s : MonitorState K) (frame : ParsedFrame) (now : K) :
    ∃ imu motors, markRxLeaves sqrt config channel s frame now =
      { fileFrame config channel s frame now with imu := imu, motors := motors } := by
  unfold markRxLeaves
  simp only
  generalize fileFrame config channel s frame now = s₁
  cases himu : updateImu sqrt config s₁ frame now with
  | error e => exact ⟨s₁.imu, s₁.motors, rfl⟩
  | ok s₂ =>
      obtain ⟨imu, rfl⟩ := updateImu_eq himu
      refine ⟨imu, ?_⟩
      simp only
      split
      · rename_i s₃ _ hmotor
        exact updateMotor_eq hmotor
      · exact ⟨_, rfl⟩
      · exact ⟨_, rfl⟩

/-- A frame is filed on its own channel. -/
theorem canChannels_fileFrame (config : MonitorConfig K) (channel : Option ℕ) (s : MonitorState K)
    (frame : ParsedFrame) (now : K) (i : ℕ) :
    (fileFrame config channel s frame now).canChannels[i]? =
      s.canChannels[i]?.map fun c => if channel = some i then c.markRx frame now else c := by
  have hmark : ∀ s₁ : MonitorState K,
      (markNode config (updateRawFrame s₁ frame now) frame now).canChannels = s₁.canChannels := by
    intro s₁
    obtain ⟨nodes, hnodes⟩ := markNode_eq config (updateRawFrame s₁ frame now) frame now
    rw [hnodes]
    rfl
  cases channel with
  | none =>
      rw [fileFrame, hmark]
      simp
  | some j =>
      rw [fileFrame, hmark]
      simp only [List.getElem?_modify, Option.some.injEq]
      rfl

/-- A sent frame is filed on the primary channel, and it is no arrival. -/
theorem markTx_eq (config : MonitorConfig K) (m : Monitor K) (canId : ℤ) (data : List UInt8) (now : K) :
    ∃ imu motors, (m.markTx config canId data now).state =
      { m.state with
        canChannels := m.state.canChannels.modify 0 fun c => c.markTx data now
        imu := imu
        motors := motors } := by
  unfold Monitor.markTx
  simp only
  split
  · obtain ⟨motors, hmotors⟩ := updateMotorTxHint_eq config _ canId data now
    exact ⟨_, motors, hmotors⟩
  · obtain ⟨motors, hmotors⟩ := updateMotorTxHint_eq config _ canId data now
    exact ⟨_, motors, hmotors⟩

end Frame

/-! ## The clock -/

section Clock

variable {K : Type} [LinearOrder K]

/-- The clock read by the events never goes back, and `now` is not before any of them. -/
def ClockUpTo (past : List (MonitorEvent K)) (now : K) : Prop :=
  (past.map MonitorEvent.time ++ [now]).Pairwise (· ≤ ·)

theorem ClockUpTo.le {past : List (MonitorEvent K)} {now : K} (h : ClockUpTo past now)
    {event : MonitorEvent K} (hevent : event ∈ past) : event.time ≤ now :=
  (List.pairwise_append.mp h).2.2 _ (List.mem_map_of_mem hevent) now (List.mem_singleton_self now)

theorem ClockUpTo.init {past : List (MonitorEvent K)} {event : MonitorEvent K} {now : K}
    (h : ClockUpTo (past ++ [event]) now) : ClockUpTo past event.time := by
  have hfront := (List.pairwise_append.mp h).1
  rwa [List.map_append] at hfront

/-- What is recorded with its time is recorded in the order of time. -/
theorem ClockUpTo.recorded {α : Type} {past : List (MonitorEvent K)} {now : K}
    (h : ClockUpTo past now) (record : MonitorEvent K → Option α) (stamp : α → K)
    (hrecord : ∀ event x, record event = some x → stamp x = event.time) :
    (past.filterMap record).Pairwise fun x y => stamp x ≤ stamp y := by
  have hpast : past.Pairwise fun e f => e.time ≤ f.time :=
    List.pairwise_map.mp (List.pairwise_append.mp h).1
  refine List.pairwise_filterMap.mpr (hpast.imp fun {e f} hef x hx y hy => ?_)
  rw [hrecord e x hx, hrecord f y hy]
  exact hef

end Clock

/-! ## Channels -/

section Channels

variable {K : Type} [Field K] [LinearOrder K] [FloorRing K]

/-- What an event does to the channel at position `i`. -/
def channelStep (i : ℕ) (c : CanChannelState K) : MonitorEvent K → CanChannelState K
  | .rx channel frame now => if channel = some i then c.markRx frame now else c
  | .tx _ data now => if i = 0 then c.markTx data now else c
  | .page now => { c with busLoad := c.busLoad.prune now }

theorem canChannels_monitorStep (sqrt : K → K) (config : MonitorConfig K) (m : Monitor K)
    (event : MonitorEvent K) (i : ℕ) :
    (monitorStep sqrt config m event).1.state.canChannels[i]? =
      m.state.canChannels[i]?.map fun c => channelStep i c event := by
  cases event with
  | rx channel frame now =>
      obtain ⟨imu, motors, hleaves⟩ := markRxLeaves_eq sqrt config channel m.state frame now
      show (markRxLeaves sqrt config channel m.state frame now).canChannels[i]? = _
      rw [hleaves]
      exact canChannels_fileFrame config channel m.state frame now i
  | tx canId data now =>
      obtain ⟨imu, motors, hstate⟩ := markTx_eq config m canId data now
      show (m.markTx config canId data now).state.canChannels[i]? = _
      rw [hstate]
      simp only [channelStep, List.getElem?_modify, eq_comm]
      rfl
  | page now => exact List.getElem?_map

theorem canChannels_final (sqrt : K → K) (config : MonitorConfig K) (past : List (MonitorEvent K))
    (i : ℕ) :
    (final (monitorStep sqrt config) (.start config) past).state.canChannels[i]? =
      config.canChannels[i]?.map (past.foldl (channelStep i)) := by
  induction past using List.reverseRecOn with
  | nil =>
      obtain ⟨nodes, motors, hstart⟩ := monitorInit_eq config
      simp [final, Monitor.start, hstart]
  | append_singleton past event ih =>
      rw [final_concat, canChannels_monitorStep, ih, Option.map_map]
      congr 1
      funext c
      exact (List.foldl_concat ..).symm

/-- What the window of the channel at position `i` records of an event. -/
def recordedOn (i : ℕ) (c : CanChannelState K) : MonitorEvent K → Option (K × ℤ × Direction)
  | .rx channel frame now =>
      if channel = some i then
        some (now, estimateClassicalCanBits frame.dlc frame.isEff frame.isRtr c.stuffFactor, .rx)
      else none
  | .tx _ data now =>
      if i = 0 then some (now, estimateClassicalCanBits data.length false false c.stuffFactor, .tx)
      else none
  | .page _ => none

/-- The event is a frame heard on the channel at position `i`. -/
def isRxOn (i : ℕ) : MonitorEvent K → Bool
  | .rx channel _ _ => channel = some i
  | _ => false

def isTx : MonitorEvent K → Bool
  | .tx _ _ _ => true
  | _ => false

/-- A channel as it is built: nothing counted, nothing recorded. -/
structure CanChannelState.Fresh (c : CanChannelState K) : Prop where
  totalRx : c.totalRx = 0
  events : c.busLoad.events = []

theorem time_of_recordedOn {i : ℕ} {c : CanChannelState K} {event : MonitorEvent K}
    {x : K × ℤ × Direction} (h : recordedOn i c event = some x) : x.1 = event.time := by
  cases event with
  | rx channel frame now =>
      simp only [recordedOn, Option.ite_none_right_eq_some, Option.some.injEq] at h
      rw [← h.2]
      rfl
  | tx canId data now =>
      simp only [recordedOn, Option.ite_none_right_eq_some, Option.some.injEq] at h
      rw [← h.2]
      rfl
  | page now => cases h

/-- What holds of a channel that started as `c`. -/
structure ChannelFollows (i : ℕ) (c : CanChannelState K) (past : List (MonitorEvent K)) (now : K)
    (c' : CanChannelState K) : Prop where
  iface : c'.iface = c.iface
  stuffFactor : c'.stuffFactor = c.stuffFactor
  windowS : c'.busLoad.windowS = c.busLoad.windowS
  bitrate : c'.busLoad.bitrate = c.busLoad.bitrate
  totalRx : c'.totalRx = past.countP (isRxOn i)
  events : LiveUpTo Prod.fst (now - c.busLoad.windowS) (past.filterMap (recordedOn i c))
    c'.busLoad.events

theorem max_estimateClassicalCanBits (dlc : ℕ) (isEff isRtr : Bool) (stuffFactor : K) :
    max 0 (estimateClassicalCanBits dlc isEff isRtr stuffFactor) =
      estimateClassicalCanBits dlc isEff isRtr stuffFactor :=
  max_eq_right (le_max_left _ _)

variable [IsStrictOrderedRing K] {i : ℕ} {c c' : CanChannelState K} {past : List (MonitorEvent K)}
  {event : MonitorEvent K} {now : K}

/-- A channel that records the event. -/
theorem ChannelFollows.record (h : ChannelFollows i c past event.time c')
    (hclock : ClockUpTo (past ++ [event]) now) {bits : ℤ} {direction : Direction}
    (hrecord : recordedOn i c event = some (event.time, bits, direction)) (hbits : max 0 bits = bits)
    {totalRx : ℕ} (htotal : totalRx = (past ++ [event]).countP (isRxOn i)) :
    ChannelFollows i c (past ++ [event]) now
      { c' with totalRx := totalRx, busLoad := c'.busLoad.add event.time bits direction } := by
  refine ⟨h.iface, h.stuffFactor, h.windowS, h.bitrate, htotal, ?_⟩
  have hsorted := hclock.recorded (recordedOn i c) Prod.fst fun e x => time_of_recordedOn
  rw [List.filterMap_append, List.filterMap_cons_some hrecord, List.filterMap_nil] at hsorted ⊢
  have hpush := h.events.push hsorted
  rw [← h.windowS] at hpush
  have hlater : event.time - c.busLoad.windowS ≤ now - c.busLoad.windowS :=
    sub_le_sub_right (hclock.le (List.mem_append_right _ (List.mem_singleton_self event))) _
  refine LiveUpTo.mono ?_ hlater
  show LiveUpTo _ _ _ ((c'.busLoad.events ++ [(event.time, max 0 bits, direction)]).dropWhile _)
  rw [hbits, ← h.windowS]
  exact hpush

/-- A channel that does not record the event, whether its window is pruned or not. -/
theorem ChannelFollows.skip (h : ChannelFollows i c past event.time c')
    (hclock : ClockUpTo (past ++ [event]) now) (hrecord : recordedOn i c event = none)
    (hrx : isRxOn i event = false) :
    ChannelFollows i c (past ++ [event]) now c' ∧
      ChannelFollows i c (past ++ [event]) now { c' with busLoad := c'.busLoad.prune event.time } := by
  have hlater : event.time - c.busLoad.windowS ≤ now - c.busLoad.windowS :=
    sub_le_sub_right (hclock.le (List.mem_append_right _ (List.mem_singleton_self event))) _
  have hcount : (past ++ [event]).countP (isRxOn i) = past.countP (isRxOn i) := by
    rw [List.countP_append, List.countP_singleton, hrx]
    rfl
  have hitems : (past ++ [event]).filterMap (recordedOn i c) = past.filterMap (recordedOn i c) := by
    rw [List.filterMap_append, List.filterMap_cons_none hrecord, List.filterMap_nil, List.append_nil]
  have hsorted := hclock.recorded (recordedOn i c) Prod.fst fun e x => time_of_recordedOn
  rw [hitems] at hsorted
  have hpruned := h.events.prune hsorted
  rw [← h.windowS] at hpruned
  refine ⟨⟨h.iface, h.stuffFactor, h.windowS, h.bitrate, ?_, ?_⟩,
    ⟨h.iface, h.stuffFactor, h.windowS, h.bitrate, ?_, ?_⟩⟩
  · rw [hcount, h.totalRx]
  · rw [hitems]
    exact h.events.mono hlater
  · rw [hcount, h.totalRx]
  · rw [hitems]
    refine ⟨event.time - c.busLoad.windowS, hlater, ?_⟩
    rw [← h.windowS]
    exact hpruned

/-- **Step.** -/
theorem ChannelFollows.step (h : ChannelFollows i c past event.time c')
    (hclock : ClockUpTo (past ++ [event]) now) :
    ChannelFollows i c (past ++ [event]) now (channelStep i c' event) := by
  have hcount : (past ++ [event]).countP (isRxOn i) =
      c'.totalRx + if isRxOn i event then 1 else 0 := by
    rw [List.countP_append, List.countP_singleton, h.totalRx]
  cases event with
  | rx channel frame t =>
      simp only [channelStep]
      split
      · rename_i hchannel
        have hrx : isRxOn i (.rx channel frame t) = true := decide_eq_true hchannel
        rw [hrx] at hcount
        have hmarked := h.record hclock (if_pos hchannel) (max_estimateClassicalCanBits _ _ _ _)
          hcount.symm
        rw [← h.stuffFactor] at hmarked
        exact hmarked
      · rename_i hchannel
        exact (h.skip hclock (if_neg hchannel) (decide_eq_false hchannel)).1
  | tx canId data t =>
      simp only [channelStep]
      split
      · rename_i hprimary
        have hmarked := h.record hclock (if_pos hprimary) (max_estimateClassicalCanBits _ _ _ _)
          hcount.symm
        rw [← h.stuffFactor] at hmarked
        exact hmarked
      · rename_i hprimary
        exact (h.skip hclock (if_neg hprimary) rfl).1
  | page t => exact (h.skip hclock rfl rfl).2

/-- A channel over a run. -/
theorem channelFollows_foldl (hfresh : c.Fresh) (hclock : ClockUpTo past now) :
    ChannelFollows i c past now (past.foldl (channelStep i) c) := by
  induction past using List.reverseRecOn generalizing now with
  | nil =>
      refine ⟨rfl, rfl, rfl, rfl, hfresh.totalRx, ?_⟩
      rw [List.foldl_nil, hfresh.events]
      exact liveUpTo_nil
  | append_singleton past event ih =>
      rw [List.foldl_concat]
      exact (ih hclock.init).step hclock

omit [IsStrictOrderedRing K] in
theorem totalTx_monitorStep (sqrt : K → K) (config : MonitorConfig K) (m : Monitor K)
    (event : MonitorEvent K) :
    (monitorStep sqrt config m event).1.totalTx = m.totalTx + if isTx event then 1 else 0 := by
  cases event <;> rfl

/-! ### The row of a channel -/

/-- The frames of a direction, and the bits they take. -/
def framesOf (direction : Direction) (frames : List (K × ℤ × Direction)) : List (K × ℤ × Direction) :=
  frames.filter fun e => e.2.2 = direction

def bitsOf (direction : Direction) (frames : List (K × ℤ × Direction)) : ℤ :=
  ((framesOf direction frames).map fun e => e.2.1).sum

omit [Field K] [LinearOrder K] [FloorRing K] [IsStrictOrderedRing K] in
/-- The loop of `BusLoadWindow.snapshot` counts. -/
theorem foldl_count (frames : List (K × ℤ × Direction)) :
    frames.foldl BusCounters.count {} =
      { rxFrames := (framesOf .rx frames).length
        txFrames := (framesOf .tx frames).length
        rxBits := bitsOf .rx frames
        txBits := bitsOf .tx frames } := by
  induction frames using List.reverseRecOn with
  | nil => rfl
  | append_singleton frames e ih =>
      obtain ⟨t, bits, direction⟩ := e
      rw [List.foldl_concat, ih]
      cases direction <;> simp [BusCounters.count, bitsOf, framesOf]

/-- A row that shows these frames, with the rates and the load they mean. -/
structure BusLoad.Shows (load : BusLoad K) (w : BusLoadWindow K) (frames : List (K × ℤ × Direction)) :
    Prop where
  rxFrames : load.rxFrames = (framesOf .rx frames).length
  txFrames : load.txFrames = (framesOf .tx frames).length
  rxBits : load.rxBits = bitsOf .rx frames
  txBits : load.txBits = bitsOf .tx frames
  rxRate : load.rxRate = (framesOf .rx frames).length / max w.windowS 1e-9
  txRate : load.txRate = (framesOf .tx frames).length / max w.windowS 1e-9
  estimatedBps : load.estimatedBps =
    ((bitsOf .rx frames + bitsOf .tx frames : ℤ) : K) / max w.windowS 1e-9
  estimatedKbps : load.estimatedKbps = load.estimatedBps / 1000.0
  loadPercent : load.loadPercent = load.estimatedBps / max w.bitrate 1e-9 * 100.0

/-- **A channel on the page.** Whenever the page is made, and however often it was made before, the row
of a channel counts every frame ever heard (and, on the primary one, sent) on it, and its load is that of
exactly the frames of the last `bus_window_s`. -/
theorem channel_row_exact (sqrt : K → K) (config : MonitorConfig K) (past : List (MonitorEvent K))
    (now : K) (hclock : ClockUpTo past now) (i : ℕ) (c : CanChannelState K)
    (hc : config.canChannels[i]? = some c) (hfresh : c.Fresh) :
    ∃ row, ((final (monitorStep sqrt config) (.start config) past).snapshot config now).2.canChannels[i]? =
        some row ∧
      row.iface = c.iface ∧ row.totalRx = past.countP (isRxOn i) ∧
      row.totalTx = (if i = 0 then past.countP isTx else 0) ∧
      row.load.Shows c.busLoad
        ((past.filterMap (recordedOn i c)).filter fun e => now - c.busLoad.windowS ≤ e.1) := by
  have hchannel : (final (monitorStep sqrt config) (.start config) past).state.canChannels[i]? =
      some (past.foldl (channelStep i) c) := by
    rw [canChannels_final, hc]
    rfl
  have hfollows : ChannelFollows i c past now (past.foldl (channelStep i) c) :=
    channelFollows_foldl hfresh hclock
  have htx := final_count (f := Monitor.totalTx) (totalTx_monitorStep sqrt config) (.start config) past
  rw [show (Monitor.start config).totalTx = 0 from rfl, Nat.zero_add] at htx
  generalize final (monitorStep sqrt config) (.start config) past = m at hchannel htx ⊢
  generalize past.foldl (channelStep i) c = c' at hchannel hfollows
  refine ⟨c'.row (if i = 0 then m.totalTx else 0) now, ?_, hfollows.iface, hfollows.totalRx, ?_, ?_⟩
  · show (m.state.canChannels.mapIdx _)[i]? = _
    rw [List.getElem?_mapIdx, hchannel]
    rfl
  · rw [← htx]
    rfl
  · -- what is left in the window is what the page counts
    have hkept : (c'.busLoad.prune now).events =
        (past.filterMap (recordedOn i c)).filter fun e => now - c.busLoad.windowS ≤ e.1 := by
      have hpruned := hfollows.events.prune
        (hclock.recorded (recordedOn i c) Prod.fst fun e x => time_of_recordedOn)
      rw [← hfollows.windowS] at hpruned ⊢
      simp only [← decide_not, not_lt] at hpruned
      exact hpruned
    have hcounters := foldl_count (c'.busLoad.prune now).events
    rw [hkept] at hcounters
    have hload : ((c'.busLoad.snapshot now).2).Shows c'.busLoad
        ((past.filterMap (recordedOn i c)).filter fun e => now - c.busLoad.windowS ≤ e.1) := by
      simp only [BusLoadWindow.snapshot, hkept, hcounters]
      exact ⟨rfl, rfl, rfl, rfl, rfl, rfl, rfl, rfl, rfl⟩
    obtain ⟨h1, h2, h3, h4, h5, h6, h7, h8, h9⟩ := hload
    rw [hfollows.windowS] at h5 h6 h7
    rw [hfollows.bitrate] at h9
    exact ⟨h1, h2, h3, h4, h5, h6, h7, h8, h9⟩

end Channels

/-! ### Two channels -/

/-- A dashboard that listens to two channels. -/
def twoChannelMonitor : MonitorConfig ℚ where
  heartbeatWindowS := 1
  nodeTimeoutS := 1 / 4
  feedbackPositionMaxRad := 314 / 25
  iqFullScaleCount := 2048
  iqFullScaleCurrentA := 33
  imuRequestId := 0x221
  imuQuatId := 0x2A1
  imuGyroId := 0x321
  imuQuatScale := 10000
  imuGyroScale := 100
  imuNormalizeQuat := true
  canChannels :=
    [{ iface := "vcan0", stuffFactor := 23 / 20, busLoad := ⟨1, 1000000, []⟩ },
      { iface := "vcan1", stuffFactor := 23 / 20, busLoad := ⟨1, 1000000, []⟩ }]
  actuators := [⟨0x101, "FL_HR"⟩]
  channels_ne_nil := List.cons_ne_nil _ _

/-- The acknowledgement of an enter frame. -/
def enterAck : ParsedFrame := ⟨0x101, 8, [0xC1, 0, 0, 0, 0, 0, 0, 0], false, false, false, rfl⟩

/-- Three frames are heard, one on the second channel, and one is sent; a page is made in between. -/
def twoChannelPast : List (MonitorEvent ℚ) :=
  [.rx (some 0) enterAck 1, .tx 0x101 [0xC1, 0, 0, 0, 0, 0, 0, 0] (3 / 2), .page (8 / 5),
    .rx (some 1) enterAck 2, .rx (some 0) enterAck (9 / 4)]

/-- At 2.4 s the first frame has left the window of the first channel. -/
theorem channel_row_exact_two :
    ∃ row, ((final (monitorStep id twoChannelMonitor) (.start twoChannelMonitor) twoChannelPast).snapshot
        twoChannelMonitor (12 / 5)).2.canChannels[0]? = some row ∧
      row.totalRx = 2 ∧ row.totalTx = 1 ∧ row.load.rxFrames = 1 ∧ row.load.txFrames = 1 ∧
      row.load.rxBits + row.load.txBits = 256 := by
  have hclock : ClockUpTo twoChannelPast (12 / 5) := by
    unfold ClockUpTo
    decide +kernel
  obtain ⟨row, hrow, -, hrx, htx, hload⟩ := channel_row_exact id twoChannelMonitor twoChannelPast (12 / 5)
    hclock 0 _ rfl ⟨rfl, rfl⟩
  have hcounts : twoChannelPast.countP (isRxOn 0) = 2 ∧ twoChannelPast.countP isTx = 1 := by decide
  refine ⟨row, hrow, hrx.trans hcounts.1, htx.trans hcounts.2, ?_, ?_, ?_⟩
  · rw [hload.rxFrames]
    decide +kernel
  · rw [hload.txFrames]
    decide +kernel
  · rw [hload.rxBits, hload.txBits]
    decide +kernel

end SparqControl.Dashboard
