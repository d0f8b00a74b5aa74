/-
# SparqControl.Link.EnableAck — the enable state the host believes in.

Host and firmware joined by two order-preserving channels. The host sends commands, the firmware
processes them and emits acknowledgements, the host's callback passes what is not an echo of its own
sends to the driver. Commands and acknowledgements share id and format: an ENTER acknowledgement is
byte for byte the enable command, an EXIT acknowledgement the disable command, and a CLEAR_ERROR
acknowledgement of a firmware without a fault the clear-fault command. So within the echo window the
filter drops the very acknowledgement the host waits for.

The exact account is `agreement_iff`: over every run, the driver agrees with the acknowledgements
delivered to it if and only if none of them arrives while an identical frame was sent recently, unless
it says what the driver holds already.
-/
import SparqControl.Hal.ProcessTransport
import SparqControl.Hw.DongilcProtocol
import SparqControl.Lib.Trace
import SparqControl.Sim.SpgFirmware

namespace SparqControl.Link

open SparqControl.Hal SparqControl.Hw SparqControl.Sim
open SparqControl.Lib.Trace
open SparqControl.Hw.SPGActuatorProtocol (ackEnabledHint isAckLike)

/-! ## The system -/

/-- The two ends of one link: command and feedback share a standard id. -/
structure EnableLink (K : Type) [Field K] [LinearOrder K] where
  protocol : SPGActuatorProtocol K
  ids_eq : protocol.feedbackId = protocol.commandId
  standard : 0 ≤ protocol.commandId ∧ protocol.commandId ≤ canSffMask

/-- Host, firmware and the frames in flight between them. -/
structure LinkState (K : Type) [Field K] where
  clock : K
  transport : CANProcessTransport K
  driver : ActuatorDriver K AckMode
  toFirmware : List CanFrame
  firmware : SPGFirmware K
  toHost : List CANFrame

/-- What the host can send. -/
inductive HostCommand (K : Type) where
  | enable
  | disable
  | setZero (offsetDeg : K)
  | clearFault
  | mitControl (positionRad velocityRadS kp kd torqueFfNm : PyFloat K)

/-- One atomic event of the system. -/
inductive LinkEvent (K : Type) where
  | hostSend (command : HostCommand K) (accepted : Bool)
  | firmwareProcess (simTime : K)
  | firmwareFeedback (sample : ActuatorFeedbackSample K)
  | deliver
  | advance (now : K)

section System

variable {K : Type} [Field K] [LinearOrder K] [FloorRing K]

/-- The frame of a host command. -/
def encodeHostCommand (p : SPGActuatorProtocol K) : HostCommand K → Except PyError CANFrame
  | .enable => .ok p.encodeEnableFrame
  | .disable => .ok p.encodeDisableFrame
  | .setZero offsetDeg => p.encodeZeroPositionFrame offsetDeg
  | .clearFault => .ok p.encodeClearFaultFrame
  | .mitControl positionRad velocityRadS kp kd torqueFfNm =>
      p.encodeImpedanceCommandFrame positionRad velocityRadS kp kd torqueFfNm

/-- The host sends: what the daemon takes is remembered and travels to the firmware. -/
def hostSend (l : EnableLink K) (s : LinkState K) (command : HostCommand K) (accepted : Bool) :
    Except PyError (LinkState K) := do
  let frame ← encodeHostCommand l.protocol command
  -- remembered only after the daemon took it
  let transport ← s.transport.send accepted frame s.clock
  let received ← hostToSim frame
  return { s with transport := transport, toFirmware := s.toFirmware ++ [received] }

/-- `_on_actuator_frame`: a recent echo is dropped, anything else goes to the driver. -/
def onActuatorFrame (p : SPGActuatorProtocol K) (s : LinkState K) (frame : CANFrame) :
    LinkState K :=
  let (transport, echo) := s.transport.isRecentTxEcho frame s.clock
  if echo then { s with transport := transport }
  else
    { s with
      transport := transport
      driver := s.driver.onFrame p.decodeFrame frame s.clock }

/-- One event. The output is the frame delivered to the host callback, if any. -/
def linkStep (l : EnableLink K) (s : LinkState K) : LinkEvent K → LinkState K × Option CANFrame
  | .hostSend command accepted =>
      match hostSend l s command accepted with
      | .ok s' => (s', none)
      | .error _ => (s, none)
  | .firmwareProcess simTime =>
      match s.toFirmware with
      | [] => (s, none)
      | frame :: rest =>
          ({ s with toFirmware := rest, firmware := s.firmware.onCanFrame frame simTime }, none)
  | .firmwareFeedback sample =>
      let (firmware, frames) := s.firmware.makeFeedbackFrames sample
      ({ s with firmware := firmware, toHost := s.toHost ++ frames.map simToHost }, none)
  | .deliver =>
      match s.toHost with
      | [] => (s, none)
      -- the frame counts as delivered whether or not the filter drops it
      | frame :: rest => (onActuatorFrame l.protocol { s with toHost := rest } frame, some frame)
  | .advance now => ({ s with clock := max s.clock now }, none)

/-- Both ends as constructed, nothing in flight. -/
def linkInit (l : EnableLink K) (config : Sim.SPGMITConfig K) (clock : K) : LinkState K where
  clock := clock
  transport := {}
  driver := ActuatorDriver.init
  toFirmware := []
  firmware := { canId := UInt32.ofInt l.protocol.commandId, config := config }
  toHost := []

/-- One recorded event. -/
abbrev LinkEntry (K : Type) [Field K] := Entry (LinkState K) (LinkEvent K) (Option CANFrame)

/-- A recorded run of the system. -/
def linkRun (l : EnableLink K) (s : LinkState K) (events : List (LinkEvent K)) :
    List (LinkEntry K) :=
  trace (linkStep l) s events

/-! ## What the firmware emits -/

/-- The shape of the frames a firmware emits: its own id, eight bytes. -/
def OwnFrame (id : UInt32) (f : CanFrame) : Prop := f.canId = id ∧ f.dlc = 8

omit [LinearOrder K] [FloorRing K] in
theorem ownFrame_push {fw : SPGFirmware K} {f : CanFrame}
    (h : ∀ g ∈ fw.pendingTxFrames, OwnFrame fw.canId g) (hf : OwnFrame fw.canId f) :
    ∀ g ∈ (fw.pushPendingTx f).pendingTxFrames, OwnFrame fw.canId g := by
  intro g hg
  rcases List.mem_append.mp hg with hg | hg
  · split at hg
    · exact h g (List.mem_of_mem_tail hg)
    · exact h g hg
  · rw [List.mem_singleton.mp hg]
    exact hf

omit [FloorRing K] in
/-- Processing a frame keeps the id and the shape of what waits to be sent. -/
theorem onCanFrame_ownFrame {fw : SPGFirmware K} (frame : CanFrame) (simTime : K)
    (h : ∀ g ∈ fw.pendingTxFrames, OwnFrame fw.canId g) :
    (fw.onCanFrame frame simTime).canId = fw.canId ∧
      ∀ g ∈ (fw.onCanFrame frame simTime).pendingTxFrames, OwnFrame fw.canId g := by
  unfold SPGFirmware.onCanFrame SPGFirmware.handleMitControl SPGFirmware.handleSetZeroPosition
  split_ifs
  all_goals first
    | exact ⟨rfl, h⟩
    | exact ⟨rfl, ownFrame_push h ⟨rfl, rfl⟩⟩

/-- A feedback pass empties the queue and emits frames of the same shape. -/
theorem makeFeedbackFrames_ownFrame {fw : SPGFirmware K} (sample : ActuatorFeedbackSample K)
    (h : ∀ g ∈ fw.pendingTxFrames, OwnFrame fw.canId g) :
    (fw.makeFeedbackFrames sample).1.canId = fw.canId ∧
      (fw.makeFeedbackFrames sample).1.pendingTxFrames = [] ∧
      ∀ g ∈ (fw.makeFeedbackFrames sample).2, OwnFrame fw.canId g := by
  have hid : (fw.updateZeroReferenceIfNeeded sample).canId = fw.canId ∧
      (fw.updateZeroReferenceIfNeeded sample).pendingTxFrames = fw.pendingTxFrames := by
    unfold SPGFirmware.updateZeroReferenceIfNeeded
    split <;> exact ⟨rfl, rfl⟩
  refine ⟨hid.1, rfl, fun g hg => ?_⟩
  rcases List.mem_append.mp hg with hg | hg
  · rw [hid.2] at hg
    exact h g hg
  · split at hg
    · rw [List.mem_singleton.mp hg]
      exact ⟨hid.1, rfl⟩
    · cases hg

/-- What holds in every state of the system: both queues behind the firmware carry its own eight-byte
frames. -/
structure LinkInv (l : EnableLink K) (s : LinkState K) : Prop where
  firmware_id : s.firmware.canId = UInt32.ofInt l.protocol.commandId
  pending_own : ∀ g ∈ s.firmware.pendingTxFrames, OwnFrame s.firmware.canId g
  toHost_own : ∀ f ∈ s.toHost, f.canId = l.protocol.commandId ∧ f.data.length = 8

omit [FloorRing K] in
/-- An own frame reaches the host with the link's id and eight bytes. -/
theorem simToHost_own {l : EnableLink K} {g : CanFrame}
    (h : OwnFrame (UInt32.ofInt l.protocol.commandId) g) :
    (simToHost g).canId = l.protocol.commandId ∧ (simToHost g).data.length = 8 := by
  obtain ⟨hid, hdlc⟩ := h
  obtain ⟨h0, h1⟩ := l.standard
  have hmask : (canSffMask : ℤ) = 2047 := rfl
  obtain ⟨n, hn⟩ := Int.eq_ofNat_of_zero_le h0
  constructor
  · simp only [simToHost, socketRecvFrame, toLinuxCanFrame, hid, hn, toNat_and_sff,
      toNat_ofInt_natCast (show n < 2 ^ 32 by omega)]
    omega
  · simp only [simToHost, socketRecvFrame, toLinuxCanFrame, hdlc]
    rfl

/-- Every event keeps the invariant. -/
theorem linkInv_step (l : EnableLink K) (s : LinkState K) (ev : LinkEvent K) (h : LinkInv l s) :
    LinkInv l (linkStep l s ev).1 := by
  obtain ⟨hid, hpending, htoHost⟩ := h
  cases ev with
  | hostSend command accepted =>
      simp only [linkStep]
      cases hsend : hostSend l s command accepted with
      | error e => exact ⟨hid, hpending, htoHost⟩
      | ok s' =>
          simp only [hostSend, bind_eq_ok_iff] at hsend
          obtain ⟨f, -, t, -, g, -, hs'⟩ := hsend
          cases hs'
          exact ⟨hid, hpending, htoHost⟩
  | firmwareProcess simTime =>
      simp only [linkStep]
      cases s.toFirmware with
      | nil => exact ⟨hid, hpending, htoHost⟩
      | cons frame rest =>
          obtain ⟨hid', hown⟩ := onCanFrame_ownFrame frame simTime hpending
          refine ⟨hid'.trans hid, fun g hg => ?_, htoHost⟩
          rw [hid']
          exact hown g hg
  | firmwareFeedback sample =>
      obtain ⟨hid', hempty, hown⟩ := makeFeedbackFrames_ownFrame sample hpending
      refine ⟨hid'.trans hid, fun g hg => ?_, fun f hf => ?_⟩
      · simp only [linkStep, hempty] at hg
        cases hg
      · rcases List.mem_append.mp hf with hf | hf
        · exact htoHost f hf
        · obtain ⟨g, hg, rfl⟩ := List.mem_map.mp hf
          refine simToHost_own ?_
          rw [← hid]
          exact hown g hg
  | deliver =>
      simp only [linkStep]
      cases hq : s.toHost with
      | nil => exact ⟨hid, hpending, htoHost⟩
      | cons frame rest =>
          have hrest : ∀ f ∈ rest, f.canId = l.protocol.commandId ∧ f.data.length = 8 := by
            intro f hf
            exact htoHost f (by rw [hq]; exact List.mem_cons_of_mem _ hf)
          simp only [onActuatorFrame]
          split <;> exact ⟨hid, hpending, hrest⟩
  | advance now => exact ⟨hid, hpending, htoHost⟩

omit [FloorRing K] in
theorem linkInv_init (l : EnableLink K) (config : Sim.SPGMITConfig K) (clock : K) :
    LinkInv l (linkInit l config clock) :=
  ⟨rfl, fun _ hg => (List.not_mem_nil hg).elim, fun _ hf => (List.not_mem_nil hf).elim⟩

/-! ## What a delivery does -/

/-- The enabled hint a frame carries: `some` for ENTER, EXIT and CLEAR_ERROR acknowledgements. -/
def enabledHint (f : CANFrame) : Option Bool := ackEnabledHint (f.data.getD 0 0)

/-- Only acknowledgement opcodes carry a hint. -/
theorem ackEnabledHint_of_not_ackLike {cmd : UInt8} (h : isAckLike cmd = false) :
    ackEnabledHint cmd = none := by
  unfold ackEnabledHint
  split
  · rename_i hc
    rw [hc] at h
    exact absurd h (by decide)
  · split
    · rename_i hc
      rcases hc with hc | hc <;> rw [hc] at h <;> exact absurd h (by decide)
    · rfl

omit [FloorRing K] in
/-- The driver takes the hint of a link frame, and keeps what it holds when there is none. -/
theorem onFrame_enabledHint {p : SPGActuatorProtocol K} {d : ActuatorDriver K AckMode}
    {f : CANFrame} (hid : f.canId = p.feedbackId) (hlen : f.data.length = 8) (now : K) :
    (d.onFrame p.decodeFrame f now).state.isEnabled =
      (enabledHint f <|> d.state.isEnabled) := by
  rw [ActuatorDriver.onFrame_isEnabled, enabledHint]
  unfold SPGActuatorProtocol.decodeFrame
  rw [if_neg (not_not.mpr hid), if_neg (not_not.mpr hlen)]
  simp only
  split_ifs with h1 h2 h3 h4
  · rw [h1]; rfl
  · rw [h2]; rfl
  · rw [h3]; rfl
  · rfl
  · rw [ackEnabledHint_of_not_ackLike (Bool.eq_false_of_not_eq_true h4)]; rfl

/-- The frame is dropped as an echo of a recent send. -/
def droppedAsEcho (s : LinkState K) (f : CANFrame) : Bool :=
  (s.transport.isRecentTxEcho f s.clock).2

omit [FloorRing K] in
/-- The callback on a link frame: an echo changes nothing, anything else brings its hint. -/
theorem onActuatorFrame_isEnabled {p : SPGActuatorProtocol K} {s : LinkState K} {f : CANFrame}
    {rest : List CANFrame} (hid : f.canId = p.feedbackId) (hlen : f.data.length = 8) :
    (onActuatorFrame p { s with toHost := rest } f).driver.state.isEnabled =
      if droppedAsEcho s f then s.driver.state.isEnabled
      else (enabledHint f <|> s.driver.state.isEnabled) := by
  have hecho : (s.transport.isRecentTxEcho f s.clock).2 = droppedAsEcho s f := rfl
  simp only [onActuatorFrame, hecho]
  cases droppedAsEcho s f with
  | true => rfl
  | false => exact onFrame_enabledHint hid hlen s.clock

/-- Every delivered frame has the link's id and eight bytes, and its effect on `is_enabled` is
decided by the echo filter and its hint; an event that delivers nothing has no effect. -/
theorem linkStep_isEnabled {l : EnableLink K} {s : LinkState K} (h : LinkInv l s)
    (ev : LinkEvent K) :
    (linkStep l s ev).1.driver.state.isEnabled =
      match (linkStep l s ev).2 with
      | none => s.driver.state.isEnabled
      | some f =>
          if droppedAsEcho s f then s.driver.state.isEnabled
          else (enabledHint f <|> s.driver.state.isEnabled) := by
  cases ev with
  | hostSend command accepted =>
      simp only [linkStep]
      cases hsend : hostSend l s command accepted with
      | error e => rfl
      | ok s' =>
          simp only [hostSend, bind_eq_ok_iff] at hsend
          obtain ⟨f, -, t, -, g, -, hs'⟩ := hsend
          cases hs'
          rfl
  | firmwareProcess simTime =>
      simp only [linkStep]
      cases s.toFirmware <;> rfl
  | firmwareFeedback sample => rfl
  | deliver =>
      simp only [linkStep]
      cases hq : s.toHost with
      | nil => rfl
      | cons frame rest =>
          obtain ⟨hid, hlen⟩ := h.toHost_own frame (by rw [hq]; exact List.mem_cons_self)
          exact onActuatorFrame_isEnabled (hid.trans l.ids_eq.symm) hlen
  | advance now => rfl

/-! ## Agreement -/

/-- The hints of the acknowledgements delivered in a recorded run, in order. -/
def deliveredHints (tr : List (LinkEntry K)) : List Bool :=
  tr.filterMap fun e => e.out.bind enabledHint

/-- The driver's `is_enabled` is the hint of the latest delivered acknowledgement. -/
def Agrees (tr : List (LinkEntry K)) (s : LinkState K) : Prop :=
  ∀ h, (deliveredHints tr).getLast? = some h → s.driver.state.isEnabled = some h

/-- The delivered acknowledgement of this event, if any, is no recent echo, or tells the driver what
it holds already. -/
def AckSurvives (e : LinkEntry K) : Prop :=
  ∀ f, e.out = some f → ∀ h, enabledHint f = some h →
    droppedAsEcho e.before f = false ∨ e.before.driver.state.isEnabled = some h

omit [LinearOrder K] [FloorRing K] in
theorem deliveredHints_concat (tr : List (LinkEntry K)) (e : LinkEntry K) :
    deliveredHints (tr ++ [e]) = deliveredHints tr ++ (e.out.bind enabledHint).toList :=
  filterMap_concat _ tr e

/-- One event: agreement is carried over exactly when the event's acknowledgement survives. -/
theorem agrees_step {l : EnableLink K} {tr : List (LinkEntry K)} {s : LinkState K}
    (hinv : LinkInv l s) (h : Agrees tr s) (ev : LinkEvent K)
    (hsurvives : AckSurvives (entry (linkStep l) s ev)) :
    Agrees (tr ++ [entry (linkStep l) s ev]) (linkStep l s ev).1 := by
  intro hint hlast
  rw [deliveredHints_concat] at hlast
  rw [linkStep_isEnabled hinv]
  simp only [entry_out] at hlast
  cases hout : (linkStep l s ev).2 with
  | none =>
      -- nothing delivered: neither the hints nor the driver move
      rw [hout] at hlast
      exact h hint (by simpa using hlast)
  | some f =>
      rw [hout, Option.bind_some] at hlast
      cases hf : enabledHint f with
      | none =>
          rw [hf, Option.toList_none, List.append_nil] at hlast
          simp only [hf]
          split
          · exact h hint hlast
          · exact h hint hlast
      | some b =>
          -- this is the latest hint; dropped, it must be what the driver holds
          obtain rfl : b = hint := by simpa [hf] using hlast
          simp only [hf]
          split
          · rename_i hecho
            rcases hsurvives f hout b hf with hno | hsame
            · exact absurd hecho (by rw [show droppedAsEcho s f = false from hno]; decide)
            · exact hsame
          · rfl

/-- Over every run, the driver agrees with the delivered acknowledgements if and only if every one of
them survives the echo filter or tells the driver nothing new. -/
theorem agrees_iff_survives (l : EnableLink K) (config : Sim.SPGMITConfig K) (clock : K)
    (events : List (LinkEvent K)) :
    (∀ (n : ℕ) (e : LinkEntry K), (linkRun l (linkInit l config clock) events)[n]? = some e →
      e.out.isSome → Agrees ((linkRun l (linkInit l config clock) events).take (n + 1)) e.after) ↔
    ∀ e ∈ linkRun l (linkInit l config clock) events, AckSurvives e := by
  have hinv : ∀ e ∈ linkRun l (linkInit l config clock) events, LinkInv l e.before := fun e he =>
    (trace_invariant (linkInv_step l) (linkInv_init l config clock) events e he).1
  constructor
  · -- agreement right after a dropped acknowledgement forces its hint to be held already
    intro hagree e he f hout h hf
    obtain ⟨n, hn⟩ := List.mem_iff_getElem?.mp he
    have htake := trace_take_succ _ hn
    have hlast : (deliveredHints ((linkRun l (linkInit l config clock) events).take (n + 1))).getLast?
        = some h := by
      rw [linkRun, htake, deliveredHints_concat, hout, Option.bind_some, hf]
      exact List.getLast?_concat
    have henabled := hagree n e hn (by rw [hout]; rfl) h hlast
    rw [after_eq _ hn, linkStep_isEnabled (hinv e he), ← out_eq _ hn, hout] at henabled
    cases hecho : droppedAsEcho e.before f with
    | false => exact Or.inl rfl
    | true =>
        simp only [hecho, if_true] at henabled
        exact Or.inr henabled
  · intro hall n e hn _
    have hhistory := trace_history_at (C := AckSurvives)
      (P := fun past s => Agrees past s ∧ LinkInv l s)
      ⟨fun h hh => absurd hh (by simp [deliveredHints]), linkInv_init l config clock⟩
      (fun past s ev hP hC => ⟨agrees_step hP.2 hP.1 ev hC, linkInv_step l s ev hP.2⟩) hn
      fun k ek _ hek => hall ek (List.mem_of_getElem? hek)
    exact hhistory.1

/-! ## What the filter drops -/

/-- What an event put on the bus, as the transport remembers it. -/
def sentFrame (l : EnableLink K) (e : LinkEntry K) : Option (RecentTx K) :=
  match e.input with
  | .hostSend command accepted =>
      match encodeHostCommand l.protocol command, hostSend l e.before command accepted with
      | .ok frame, .ok _ => some ⟨e.before.clock, frame.canId, frame.data⟩
      | _, _ => none
  | _ => none

/-- Everything the host has sent, in order. -/
def sentFrames (l : EnableLink K) (past : List (LinkEntry K)) : List (RecentTx K) :=
  past.filterMap (sentFrame l)

/-- One of the last 512 sends, no more than 0.25 s old, had the id and the bytes of this frame. -/
def SentRecently (l : EnableLink K) (past : List (LinkEntry K)) (now : K) (f : CANFrame) : Prop :=
  ∃ x ∈ (sentFrames l past).rtake CANProcessTransport.recentTxCapacity,
    now - x.time ≤ CANProcessTransport.txEchoRejectWindowS ∧ x.canId = f.canId ∧ x.data = f.data

theorem sentFrames_concat (l : EnableLink K) (past : List (LinkEntry K)) (e : LinkEntry K) :
    sentFrames l (past ++ [e]) = sentFrames l past ++ (sentFrame l e).toList :=
  filterMap_concat _ past e

variable [IsStrictOrderedRing K]

/-- Every event keeps the transport's memory in step with what was sent. -/
theorem remembers_step (l : EnableLink K) (past : List (LinkEntry K)) (s : LinkState K)
    (ev : LinkEvent K) (h : s.transport.Remembers (sentFrames l past) s.clock) :
    (linkStep l s ev).1.transport.Remembers (sentFrames l (past ++ [entry (linkStep l) s ev]))
      (linkStep l s ev).1.clock := by
  rw [sentFrames_concat]
  cases ev with
  | hostSend command accepted =>
      simp only [linkStep, sentFrame, entry_input, entry_before]
      cases hsend : hostSend l s command accepted with
      | error e =>
          simp only
          cases encodeHostCommand l.protocol command <;> simpa using h
      | ok s' =>
          simp only [hostSend, bind_eq_ok_iff] at hsend
          obtain ⟨f, hf, t, ht, g, -, hs'⟩ := hsend
          cases hs'
          obtain rfl := CANProcessTransport.eq_of_send_eq_ok ht
          simp only [hf, Option.toList_some]
          exact h.remember f
  | firmwareProcess simTime =>
      simp only [linkStep, sentFrame, entry_input, Option.toList_none, List.append_nil]
      cases s.toFirmware <;> exact h
  | firmwareFeedback sample => simpa [linkStep, sentFrame] using h
  | deliver =>
      simp only [linkStep, sentFrame, entry_input, Option.toList_none, List.append_nil]
      cases s.toHost with
      | nil => exact h
      | cons frame rest =>
          simp only [onActuatorFrame]
          split <;> exact h.prune
  | advance now =>
      simp only [linkStep, sentFrame, entry_input, Option.toList_none, List.append_nil]
      exact h.later (le_max_left _ _)

/-- At every position of a run, the filter drops exactly the frames that were sent recently. -/
theorem droppedAsEcho_iff {l : EnableLink K} {config : Sim.SPGMITConfig K} {clock : K}
    {events : List (LinkEvent K)} {n : ℕ} {e : LinkEntry K}
    (hn : (linkRun l (linkInit l config clock) events)[n]? = some e) (f : CANFrame) :
    droppedAsEcho e.before f = true ↔
      SentRecently l ((linkRun l (linkInit l config clock) events).take n) e.before.clock f := by
  have hremembers := trace_history_before
    (P := fun past s => s.transport.Remembers (sentFrames l past) s.clock)
    (CANProcessTransport.remembers_nil clock) (fun past s ev => remembers_step l past s ev) hn
  exact hremembers.isRecentTxEcho_iff f

/-- **Enable agreement, exactly.** Over every run of the link from its initial state: after every
delivered frame the driver's `is_enabled` is the hint of the latest acknowledgement delivered, if and
only if every acknowledgement that is delivered while an identical frame was sent recently tells the
driver what it holds already. -/
theorem agreement_iff (l : EnableLink K) (config : Sim.SPGMITConfig K) (clock : K)
    (events : List (LinkEvent K)) :
    let tr := linkRun l (linkInit l config clock) events
    (∀ (n : ℕ) (e : LinkEntry K), tr[n]? = some e → e.out.isSome →
      Agrees (tr.take (n + 1)) e.after) ↔
    ∀ (n : ℕ) (e : LinkEntry K) (f : CANFrame) (h : Bool), tr[n]? = some e → e.out = some f →
      enabledHint f = some h → SentRecently l (tr.take n) e.before.clock f →
      e.before.driver.state.isEnabled = some h := by
  intro tr
  refine (agrees_iff_survives l config clock events).trans ⟨?_, ?_⟩
  · intro hall n e f h hn hout hf hrecent
    rcases hall e (List.mem_of_getElem? hn) f hout h hf with hecho | hsame
    · rw [(droppedAsEcho_iff hn f).mpr hrecent] at hecho
      cases hecho
    · exact hsame
  · intro hall e he f hout h hf
    obtain ⟨n, hn⟩ := List.mem_iff_getElem?.mp he
    cases hecho : droppedAsEcho e.before f with
    | false => exact Or.inl rfl
    | true => exact Or.inr (hall n e f h hn hout hf ((droppedAsEcho_iff hn f).mp hecho))

end System

/-! ## One enable -/

/-- A link with the default ranges. -/
def hipLink : EnableLink ℚ where
  protocol :=
    { commandId := 0x101
      feedbackId := 0x101
      mitConfig := {}
      gearRatio := 9
      feedbackSpeedIsMotorSide := false
      exposeSingleTurnPosition := false
      iqCountToAmp := none
      torqueConstantNmPerA := none
      gearEfficiency := 1
      gearRatio_pos := by decide }
  ids_eq := rfl
  standard := by decide

/-- A joint at rest. -/
def restSample : ActuatorFeedbackSample ℚ :=
  { positionRad := 0, velocityRadS := 0, torqueNm := 0, temperatureC := 25 }

/-- One enable command, its acknowledgement delivered at time `now`. -/
def enableRun (now : ℚ) : List (LinkEntry ℚ) :=
  linkRun hipLink (linkInit hipLink {} 0)
    [.hostSend .enable true, .firmwareProcess 0, .firmwareFeedback restSample, .advance now, .deliver]

/-- The acknowledgement of an enable that comes back at once is thrown away: the firmware is enabled
and has said so, the driver knows nothing. -/
theorem enable_ack_dropped :
    ¬ ∀ (n : ℕ) (e : LinkEntry ℚ), (enableRun 0)[n]? = some e → e.out.isSome →
      Agrees ((enableRun 0).take (n + 1)) e.after := by
  intro h
  have hdropped := h 4 _ rfl rfl true (by decide +kernel)
  exact absurd hdropped (by decide +kernel)

/-- Half a second later the same acknowledgement gets through, and the driver agrees. -/
theorem agreement_iff_late :
    deliveredHints (enableRun (1 / 2)) = [true] ∧
    ∀ (n : ℕ) (e : LinkEntry ℚ), (enableRun (1 / 2))[n]? = some e → e.out.isSome →
      Agrees ((enableRun (1 / 2)).take (n + 1)) e.after := by
  have hquiet : ∀ k < 4, ((enableRun (1 / 2))[k]?.bind (·.out)) = none := by decide +kernel
  have hclock : ((enableRun (1 / 2))[4]?.map (·.before.clock)) = some (1 / 2) := by decide +kernel
  have hsent : (sentFrames hipLink ((enableRun (1 / 2)).take 4)).map (·.time) = [0] := by
    decide +kernel
  refine ⟨by decide +kernel,
    (agreement_iff hipLink {} 0 _).mpr fun n e f h hn hout _ hrecent => ?_⟩
  obtain ⟨x, hx, hage, -⟩ := hrecent
  change (enableRun (1 / 2))[n]? = some e at hn
  rcases lt_trichotomy n 4 with hlt | rfl | hgt
  · have hout' := hquiet n hlt
    rw [hn, Option.bind_some, hout] at hout'
    cases hout'
  · rw [hn, Option.map_some] at hclock
    have htime : x.time ∈ [(0 : ℚ)] := by
      rw [← hsent]
      exact List.mem_map_of_mem (List.mem_of_mem_drop hx)
    rw [Option.some.inj hclock, List.mem_singleton.mp htime] at hage
    exact absurd hage (by decide +kernel)
  · have hnone : (enableRun (1 / 2))[n]? = none := List.getElem?_eq_none hgt
    rw [hn] at hnone
    cases hnone

end SparqControl.Link
