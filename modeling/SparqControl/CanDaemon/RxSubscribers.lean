/-
# SparqControl.CanDaemon.RxSubscribers — from the bus to the clients of the CAN daemon.

The daemon's receive thread publishes each frame to a SNAPSHOT of the subscriber set. A client enters
the set in its own handler thread, after that thread has written the handshake acknowledgement; the
client's `connect()` returns once it has read that acknowledgement and started its receive loop. So
there is a window in which `connect()` has returned and the client is not in the set, and a frame
whose snapshot is taken in it is lost to the client.

Every thread is its own program counter again: the daemon's receive thread, one handler thread and
one client for each connection. Socket streams are lists, written at the end and read at the front.
Connections are only opened here; the transmit role has no part in reception.
-/
import SparqControl.Hal.CanFrame
import SparqControl.Lib.Slots
import SparqControl.Lib.Trace

namespace SparqControl.CanDaemon

open SparqControl.Hal
open SparqControl.Lib.Slots
open SparqControl.Lib.Trace

/-! ## The threads -/

/-- Where the daemon's receive thread stands: waiting for the bus, holding a frame whose subscribers
are not read yet, or sending it to the sockets of its snapshot. -/
inductive RxPhase where
  | idle
  | received (frame : CANFrame)
  | publishing (frame : CANFrame) (remaining : List ℕ)
  deriving DecidableEq

/-- Where a connection's `_handle_client` thread stands. -/
inductive HandlerPhase where
  | readingHello
  | acknowledged
  | subscribed
  deriving DecidableEq

/-- Where a client stands in `connect()`. -/
inductive ClientPhase where
  | readingAck
  | ackRead
  | rxRunning
  | connected
  deriving DecidableEq

/-- A line the daemon writes to a client. -/
inductive StreamLine where
  | helloAck
  | rx (frame : CANFrame)
  deriving DecidableEq

/-- One receive connection: its handler thread, its client, and the lines between them. -/
structure RxConnection where
  handler : HandlerPhase := .readingHello
  client : ClientPhase := .readingAck
  stream : List StreamLine := []
  deriving DecidableEq

/-- The receive side of the daemon with all its connections. -/
structure RxDaemon where
  rxThread : RxPhase := .idle
  subscribers : List ℕ := []
  connections : List RxConnection := []

/-- One step of one of the threads. -/
inductive RxEvent where
  | open
  | writeAck (conn : ℕ)
  | subscribe (conn : ℕ)
  | readAck (conn : ℕ)
  | startRxThread (conn : ℕ)
  | returnConnect (conn : ℕ)
  | readLine (conn : ℕ)
  | receive (frame : CANFrame)
  | snapshot
  | sendTo (conn : ℕ)
  deriving DecidableEq

/-- What a step shows. -/
inductive RxOut where
  | none
  | received (frame : CANFrame)
  | published (frame : CANFrame)
  | connected (conn : ℕ)
  | dispatched (conn : ℕ) (frame : CANFrame)
  deriving DecidableEq

namespace RxDaemon

/-- The daemon with one connection changed. -/
def setConn (d : RxDaemon) (conn : ℕ) (c : RxConnection) : RxDaemon :=
  { d with connections := d.connections.set conn c }

/-- `_write_json_line(file_obj, {"type": "hello_ack", "ok": True})`. -/
def writeAck (d : RxDaemon) (conn : ℕ) (c : RxConnection) : RxDaemon :=
  if c.handler = .readingHello then
    d.setConn conn { c with handler := .acknowledged, stream := c.stream ++ [.helloAck] }
  else d

/-- `RxSubscribers.add`. The subscribers are a set. -/
def subscribe (d : RxDaemon) (conn : ℕ) (c : RxConnection) : RxDaemon :=
  if c.handler = .acknowledged then
    { d.setConn conn { c with handler := .subscribed } with subscribers := conn :: d.subscribers }
  else d

/-- The client reads the acknowledgement in `_connect_role`. -/
def readAck (d : RxDaemon) (conn : ℕ) (c : RxConnection) : RxDaemon :=
  match c.client, c.stream with
  | .readingAck, .helloAck :: rest => d.setConn conn { c with client := .ackRead, stream := rest }
  | _, _ => d

/-- `self._rx_thread.start()`. -/
def startRxThread (d : RxDaemon) (conn : ℕ) (c : RxConnection) : RxDaemon :=
  if c.client = .ackRead then d.setConn conn { c with client := .rxRunning } else d

/-- `connect()` returns. -/
def returnConnect (d : RxDaemon) (conn : ℕ) (c : RxConnection) : RxDaemon × RxOut :=
  if c.client = .rxRunning then (d.setConn conn { c with client := .connected }, .connected conn)
  else (d, .none)

/-- One round of the client's `_rx_loop`; lines of another type are skipped. -/
def readLine (d : RxDaemon) (conn : ℕ) (c : RxConnection) : RxDaemon × RxOut :=
  if c.client = .rxRunning ∨ c.client = .connected then
    match c.stream with
    | [] => (d, .none)
    | .helloAck :: rest => (d.setConn conn { c with stream := rest }, .none)
    | .rx frame :: rest => (d.setConn conn { c with stream := rest }, .dispatched conn frame)
  else (d, .none)

/-- `sock.sendall(payload)` to one socket of the snapshot. The set gives them in no fixed order. -/
def sendTo (d : RxDaemon) (conn : ℕ) (c : RxConnection) : RxDaemon :=
  match d.rxThread with
  | .publishing frame remaining =>
      if conn ∈ remaining then
        { d.setConn conn { c with stream := c.stream ++ [.rx frame] } with
          rxThread := .publishing frame (remaining.erase conn) }
      else d
  | _ => d

/-- A step of a connection's handler or client, if the connection exists. -/
def onConn (d : RxDaemon) (conn : ℕ) (f : RxConnection → RxDaemon × RxOut) : RxDaemon × RxOut :=
  match d.connections[conn]? with
  | some c => f c
  | none => (d, .none)

/-- One step of one of the threads. The receive thread goes back to the bus once its snapshot is
served. -/
def step (d : RxDaemon) : RxEvent → RxDaemon × RxOut
  | .open => ({ d with connections := d.connections ++ [{}] }, .none)
  | .writeAck conn => d.onConn conn fun c => (d.writeAck conn c, .none)
  | .subscribe conn => d.onConn conn fun c => (d.subscribe conn c, .none)
  | .readAck conn => d.onConn conn fun c => (d.readAck conn c, .none)
  | .startRxThread conn => d.onConn conn fun c => (d.startRxThread conn c, .none)
  | .returnConnect conn => d.onConn conn (d.returnConnect conn)
  | .readLine conn => d.onConn conn (d.readLine conn)
  | .receive frame =>
      match d.rxThread with
      | .idle | .publishing _ [] => ({ d with rxThread := .received frame }, .received frame)
      | _ => (d, .none)
  | .snapshot =>
      match d.rxThread with
      | .received frame =>
          ({ d with rxThread := .publishing frame d.subscribers }, .published frame)
      | _ => (d, .none)
  | .sendTo conn => d.onConn conn fun c => (d.sendTo conn c, .none)

/-! ## Frames on their way -/

/-- The sockets the receive thread still has to serve. -/
def remaining (d : RxDaemon) : List ℕ :=
  match d.rxThread with
  | .publishing _ remaining => remaining
  | _ => []

/-- The frame whose subscribers are not read yet. -/
def pending (d : RxDaemon) : List CANFrame :=
  match d.rxThread with
  | .received frame => [frame]
  | _ => []

/-- The frame the receive thread will still write to a connection that is in its snapshot. -/
def unsent (d : RxDaemon) (conn : ℕ) : List CANFrame :=
  match d.rxThread with
  | .idle => []
  | .received frame => [frame]
  | .publishing frame remaining => if conn ∈ remaining then [frame] else []

/-- The lines written to a connection and not read. -/
def streamOf (d : RxDaemon) (conn : ℕ) : List StreamLine :=
  (d.connections[conn]?.map RxConnection.stream).getD []

end RxDaemon

/-- The frames among the lines of a stream. -/
def rxFrames (stream : List StreamLine) : List CANFrame :=
  stream.filterMap fun
    | .rx frame => some frame
    | .helloAck => none

@[simp] theorem rxFrames_append (l r : List StreamLine) :
    rxFrames (l ++ r) = rxFrames l ++ rxFrames r := List.filterMap_append

@[simp] theorem rxFrames_nil : rxFrames [] = [] := rfl
@[simp] theorem rxFrames_helloAck (rest : List StreamLine) :
    rxFrames (.helloAck :: rest) = rxFrames rest := rfl
@[simp] theorem rxFrames_rx (frame : CANFrame) (rest : List StreamLine) :
    rxFrames (.rx frame :: rest) = frame :: rxFrames rest := rfl

namespace RxDaemon

/-- The frames between the bus and a client's dispatcher. -/
def onWay (d : RxDaemon) (conn : ℕ) : List CANFrame := rxFrames (d.streamOf conn) ++ d.unsent conn

/-- The subscriber set is the set of connections whose handler has added itself; a snapshot is part
of it; nothing is written to a connection before that. -/
structure WellFormed (d : RxDaemon) : Prop where
  mem_iff : ∀ conn, conn ∈ d.subscribers ↔
    ∃ c : RxConnection, d.connections[conn]? = some c ∧ c.handler = .subscribed
  nodup : d.subscribers.Nodup
  remaining_subset : ∀ conn ∈ d.remaining, conn ∈ d.subscribers
  remaining_nodup : d.remaining.Nodup
  silent : ∀ (conn : ℕ) (c : RxConnection), d.connections[conn]? = some c → c.handler ≠ .subscribed →
    rxFrames c.stream = []
  fresh : ∀ (conn : ℕ) (c : RxConnection), d.connections[conn]? = some c → c.handler = .readingHello →
    c.stream = [] ∧ c.client = .readingAck

theorem wellFormed_empty : WellFormed {} := by
  refine ⟨fun conn => ?_, List.nodup_nil, fun conn h => ?_, List.nodup_nil, fun conn c h => ?_,
    fun conn c h => ?_⟩
  · simp
  · cases h
  · cases h
  · cases h

/-- A connection changes without entering or leaving the subscribers. -/
theorem WellFormed.setConn {d : RxDaemon} (h : WellFormed d) {conn : ℕ} {c : RxConnection}
    (hc : d.connections[conn]? = some c) (c' : RxConnection)
    (hsub : c'.handler = .subscribed ↔ c.handler = .subscribed)
    (hsilent : c'.handler ≠ .subscribed → rxFrames c'.stream = [])
    (hfresh : c'.handler = .readingHello → c'.stream = [] ∧ c'.client = .readingAck) :
    WellFormed (d.setConn conn c') := by
  have hlt : conn < d.connections.length := (List.getElem?_eq_some_iff.mp hc).1
  refine ⟨fun j => ?_, h.nodup, h.remaining_subset, h.remaining_nodup, fun j x hx hne => ?_,
    fun j x hx hread => ?_⟩
  · show j ∈ d.subscribers ↔ _
    rw [h.mem_iff j]
    by_cases hj : conn = j
    · subst hj
      have hnew : (d.setConn conn c').connections[conn]? = some c' := by simp [RxDaemon.setConn, hlt]
      simp only [hnew, hc, Option.some.injEq, exists_eq_left', hsub]
    · simp [RxDaemon.setConn, List.getElem?_set_ne hj]
  · rcases getElem?_set_cases hx with ⟨-, rfl⟩ | ⟨-, hold⟩
    · exact hsilent hne
    · exact h.silent j x hold hne
  · rcases getElem?_set_cases hx with ⟨-, rfl⟩ | ⟨-, hold⟩
    · exact hfresh hread
    · exact h.fresh j x hold hread

/-- A connection that is past its hello is past it for good. -/
theorem WellFormed.client {d : RxDaemon} (h : WellFormed d) {conn : ℕ} {c : RxConnection}
    (hc : d.connections[conn]? = some c) (hclient : c.client ≠ .readingAck) :
    c.handler ≠ .readingHello :=
  fun hread => hclient (h.fresh conn c hc hread).2

theorem WellFormed.writeAck {d : RxDaemon} (h : WellFormed d) {conn : ℕ} {c : RxConnection}
    (hc : d.connections[conn]? = some c) : WellFormed (d.writeAck conn c) := by
  unfold RxDaemon.writeAck
  split
  · rename_i hread
    have hstream := (h.fresh conn c hc hread).1
    exact h.setConn hc _ (by simp [hread]) (by simp [hstream]) (by simp)
  · exact h

theorem WellFormed.subscribe {d : RxDaemon} (h : WellFormed d) {conn : ℕ} {c : RxConnection}
    (hc : d.connections[conn]? = some c) : WellFormed (d.subscribe conn c) := by
  unfold RxDaemon.subscribe
  split
  · rename_i hack
    have hlt : conn < d.connections.length := (List.getElem?_eq_some_iff.mp hc).1
    have hnew : conn ∉ d.subscribers := by
      rw [h.mem_iff]
      rintro ⟨x, hx, hsub⟩
      rw [Option.some.inj (hc.symm.trans hx), hsub] at hack
      cases hack
    refine ⟨fun j => ?_, List.nodup_cons.mpr ⟨hnew, h.nodup⟩,
      fun j hj => List.mem_cons_of_mem _ (h.remaining_subset j hj), h.remaining_nodup,
      fun j x hx hne => ?_, fun j x hx hread => ?_⟩
    · rw [List.mem_cons, h.mem_iff j]
      by_cases hj : conn = j
      · subst hj
        simp [RxDaemon.setConn, hlt]
      · simp [RxDaemon.setConn, List.getElem?_set_ne hj, Ne.symm hj]
    · rcases getElem?_set_cases hx with ⟨-, rfl⟩ | ⟨-, hold⟩
      · exact absurd rfl hne
      · exact h.silent j x hold hne
    · rcases getElem?_set_cases hx with ⟨-, rfl⟩ | ⟨-, hold⟩
      · cases hread
      · exact h.fresh j x hold hread
  · exact h

theorem WellFormed.sendTo {d : RxDaemon} (h : WellFormed d) {conn : ℕ} {c : RxConnection}
    (hc : d.connections[conn]? = some c) : WellFormed (d.sendTo conn c) := by
  unfold RxDaemon.sendTo
  split
  · rename_i frame remaining hthread
    split
    · rename_i hmem
      have hrem : d.remaining = remaining := by simp [RxDaemon.remaining, hthread]
      have hsub : c.handler = .subscribed := by
        obtain ⟨x, hx, hsub⟩ := (h.mem_iff conn).mp (h.remaining_subset conn (hrem ▸ hmem))
        rwa [Option.some.inj (hc.symm.trans hx)]
      have hset := h.setConn hc { c with stream := c.stream ++ [.rx frame] } Iff.rfl
        (fun hne => absurd hsub hne) (fun hread => by rw [hsub] at hread; cases hread)
      refine ⟨hset.mem_iff, hset.nodup, fun j hj => ?_, ?_, hset.silent, hset.fresh⟩
      · exact h.remaining_subset j (hrem ▸ List.mem_of_mem_erase hj)
      · exact (hrem ▸ h.remaining_nodup).erase conn
    · exact h
  · exact h

/-- What holds of a step of every connection there is, and of doing nothing, holds of a step of a
numbered one. -/
theorem onConn_elim {P : RxDaemon × RxOut → Prop} {d : RxDaemon} {conn : ℕ}
    {f : RxConnection → RxDaemon × RxOut} (hnone : P (d, .none))
    (hsome : ∀ c, d.connections[conn]? = some c → P (f c)) : P (d.onConn conn f) := by
  unfold onConn
  split
  · rename_i c hc
    exact hsome c hc
  · exact hnone

theorem WellFormed.readAck {d : RxDaemon} (h : WellFormed d) {conn : ℕ} {c : RxConnection}
    (hc : d.connections[conn]? = some c) : WellFormed (d.readAck conn c) := by
  unfold RxDaemon.readAck
  split
  · rename_i rest hclient hstream
    refine h.setConn hc _ Iff.rfl (fun hne => ?_) fun hread => ?_
    · have hsilent := h.silent conn c hc hne
      rwa [hstream, rxFrames_helloAck] at hsilent
    · rw [(h.fresh conn c hc hread).1] at hstream
      cases hstream
  · exact h

/-- A client that is past the handshake takes a line off its stream or moves on. -/
theorem WellFormed.setClient {d : RxDaemon} (h : WellFormed d) {conn : ℕ} {c : RxConnection}
    (hc : d.connections[conn]? = some c) (hclient : c.client ≠ .readingAck) (next : ClientPhase)
    {stream : List StreamLine} (hstream : rxFrames c.stream = [] → rxFrames stream = []) :
    WellFormed (d.setConn conn { c with client := next, stream := stream }) :=
  h.setConn hc _ Iff.rfl (fun hne => hstream (h.silent conn c hc hne))
    fun hread => (h.client hc hclient hread).elim

theorem WellFormed.readLine {d : RxDaemon} (h : WellFormed d) {conn : ℕ} {c : RxConnection}
    (hc : d.connections[conn]? = some c) : WellFormed (d.readLine conn c).1 := by
  unfold RxDaemon.readLine
  split
  · rename_i hclient
    have hpast : c.client ≠ .readingAck := by rcases hclient with h | h <;> simp [h]
    split
    · exact h
    · rename_i rest hstream
      exact h.setClient hc hpast c.client fun hsilent => by rwa [hstream] at hsilent
    · rename_i frame rest hstream
      exact h.setClient hc hpast c.client fun hsilent => by rw [hstream] at hsilent; cases hsilent
  · exact h

/-- **Every step keeps the subscriber set and the handshakes in order.** -/
theorem WellFormed.step {d : RxDaemon} (h : WellFormed d) (ev : RxEvent) :
    WellFormed (d.step ev).1 := by
  cases ev with
  | «open» =>
      have hold : ∀ (j : ℕ) (c : RxConnection), (d.connections ++ [({} : RxConnection)])[j]? = some c →
          c = {} ∨ d.connections[j]? = some c := by
        intro j c hc
        rcases getElem?_concat_cases hc with ⟨-, hnew⟩ | hold
        · exact Or.inl hnew.symm
        · exact Or.inr hold
      refine ⟨fun j => ?_, h.nodup, h.remaining_subset, h.remaining_nodup, fun j c hc hne => ?_,
        fun j c hc hread => ?_⟩
      · show j ∈ d.subscribers ↔ _
        rw [h.mem_iff j]
        constructor
        · rintro ⟨c, hc, hsub⟩
          have hlt : j < d.connections.length := (List.getElem?_eq_some_iff.mp hc).1
          exact ⟨c, (List.getElem?_append_left hlt).trans hc, hsub⟩
        · rintro ⟨c, hc, hsub⟩
          rcases hold j c hc with rfl | hc
          · cases hsub
          · exact ⟨c, hc, hsub⟩
      · rcases hold j c hc with rfl | hc
        · rfl
        · exact h.silent j c hc hne
      · rcases hold j c hc with rfl | hc
        · exact ⟨rfl, rfl⟩
        · exact h.fresh j c hc hread
  | writeAck conn => exact onConn_elim (P := fun r => WellFormed r.1) h fun c hc => h.writeAck hc
  | subscribe conn => exact onConn_elim (P := fun r => WellFormed r.1) h fun c hc => h.subscribe hc
  | readAck conn => exact onConn_elim (P := fun r => WellFormed r.1) h fun c hc => h.readAck hc
  | startRxThread conn =>
      refine onConn_elim (P := fun r => WellFormed r.1) h fun c hc => ?_
      simp only [startRxThread]
      split
      · rename_i hclient
        exact h.setClient hc (by simp [hclient]) .rxRunning fun hsilent => hsilent
      · exact h
  | returnConnect conn =>
      refine onConn_elim (P := fun r => WellFormed r.1) h fun c hc => ?_
      simp only [returnConnect]
      split
      · rename_i hclient
        exact h.setClient hc (by simp [hclient]) .connected fun hsilent => hsilent
      · exact h
  | readLine conn => exact onConn_elim (P := fun r => WellFormed r.1) h fun c hc => h.readLine hc
  | receive frame =>
      have hreceived : WellFormed { d with rxThread := .received frame } :=
        ⟨h.mem_iff, h.nodup, fun j hj => (List.not_mem_nil hj).elim, List.nodup_nil, h.silent, h.fresh⟩
      simp only [RxDaemon.step]
      split
      · exact hreceived
      · exact hreceived
      · exact h
  | snapshot =>
      simp only [RxDaemon.step]
      split
      · exact ⟨h.mem_iff, h.nodup, fun j hj => hj, h.nodup, h.silent, h.fresh⟩
      · exact h
  | sendTo conn => exact onConn_elim (P := fun r => WellFormed r.1) h fun c hc => h.sendTo hc

end RxDaemon

/-! ## What one step does to the frames of a connection -/

/-- The frame a step took from the bus. -/
def RxOut.received? : RxOut → Option CANFrame
  | received frame => some frame
  | _ => Option.none

/-- The frame whose subscribers a step read. -/
def RxOut.published? : RxOut → Option CANFrame
  | published frame => some frame
  | _ => Option.none

/-- The frame a step dispatched in the client of a connection. -/
def RxOut.dispatchedBy? (conn : ℕ) : RxOut → Option CANFrame
  | dispatched j frame => if j = conn then some frame else Option.none
  | _ => Option.none

namespace RxDaemon

/-- What a step does to the frames of one connection: a subscribed one neither loses nor doubles nor
reorders any; one that is not subscribed gets none, and when it subscribes, the frame whose snapshot
is still to come is the one it will get. -/
structure Serves (conn : ℕ) (d : RxDaemon) (result : RxDaemon × RxOut) : Prop where
  pending : d.pending ++ result.2.received?.toList = result.2.published?.toList ++ result.1.pending
  subscribed : conn ∈ d.subscribers → conn ∈ result.1.subscribers ∧
    d.onWay conn ++ result.2.received?.toList =
      (result.2.dispatchedBy? conn).toList ++ result.1.onWay conn
  silent : conn ∉ d.subscribers → result.2.dispatchedBy? conn = none
  subscribes : conn ∉ d.subscribers → conn ∈ result.1.subscribers →
    result.2 = .none ∧ result.1.onWay conn = d.pending ∧ result.1.pending = d.pending

theorem Serves.refl (conn : ℕ) (d : RxDaemon) : Serves conn d (d, .none) :=
  ⟨by simp [RxOut.received?, RxOut.published?],
    fun h => ⟨h, by simp [RxOut.received?, RxOut.dispatchedBy?]⟩, fun _ => rfl,
    fun h h' => absurd h' h⟩

theorem streamOf_setConn {d : RxDaemon} {j : ℕ} {c c' : RxConnection}
    (hc : d.connections[j]? = some c) (conn : ℕ) :
    (d.setConn j c').streamOf conn = if j = conn then c'.stream else d.streamOf conn := by
  have hlt : j < d.connections.length := (List.getElem?_eq_some_iff.mp hc).1
  by_cases hj : j = conn
  · subst hj
    simp [streamOf, setConn, hlt]
  · simp [streamOf, setConn, List.getElem?_set_ne hj, hj]

/-- A connection changes its own part: it dispatches what its stream loses. -/
theorem serves_setConn {d : RxDaemon} {j : ℕ} {c c' : RxConnection} {out : RxOut}
    (hc : d.connections[j]? = some c) (hrec : out.received? = none) (hpub : out.published? = none)
    (hflow : rxFrames c.stream = (out.dispatchedBy? j).toList ++ rxFrames c'.stream)
    (hother : ∀ i, j ≠ i → out.dispatchedBy? i = none)
    (hsilent : j ∉ d.subscribers → out.dispatchedBy? j = none) (conn : ℕ) :
    Serves conn d (d.setConn j c', out) := by
  refine ⟨by simp [hrec, hpub]; rfl, fun hmem => ⟨hmem, ?_⟩, fun hmem => ?_,
    fun hmem hmem' => absurd hmem' hmem⟩
  · by_cases hj : j = conn
    · subst hj
      have hstream : d.streamOf j = c.stream := by simp [streamOf, hc]
      simp only [onWay, streamOf_setConn hc, if_true, hstream, hflow, hrec, Option.toList_none,
        List.append_nil, List.append_assoc]
      rfl
    · simp only [onWay, streamOf_setConn hc, if_neg hj, hrec, hother conn hj, Option.toList_none,
        List.append_nil, List.nil_append]
      rfl
  · by_cases hj : j = conn
    · exact hj ▸ hsilent (hj ▸ hmem)
    · exact hother conn hj

/-- A connection changes its own part and shows nothing. -/
theorem serves_setConn_none {d : RxDaemon} {j : ℕ} {c : RxConnection}
    (hc : d.connections[j]? = some c) (c' : RxConnection)
    (hflow : rxFrames c.stream = rxFrames c'.stream) (conn : ℕ) :
    Serves conn d (d.setConn j c', .none) :=
  serves_setConn hc rfl rfl (by simpa [RxOut.dispatchedBy?] using hflow) (fun _ _ => rfl)
    (fun _ => rfl) conn

/-- A connection that is not subscribed has the frame at hand before it and nothing else. -/
theorem WellFormed.onWay_of_not_mem {d : RxDaemon} (h : WellFormed d) {conn : ℕ}
    (hmem : conn ∉ d.subscribers) : d.onWay conn = d.pending := by
  have hstream : rxFrames (d.streamOf conn) = [] := by
    unfold streamOf
    cases hc : d.connections[conn]? with
    | none => rfl
    | some c =>
        refine h.silent conn c hc fun hsub => hmem ?_
        exact (h.mem_iff conn).mpr ⟨c, hc, hsub⟩
  have hrem : conn ∉ d.remaining := fun hr => hmem (h.remaining_subset conn hr)
  unfold remaining at hrem
  rw [onWay, hstream, List.nil_append]
  unfold unsent pending
  cases hthread : d.rxThread with
  | idle => rfl
  | received frame => rfl
  | publishing frame rem =>
      rw [hthread] at hrem
      simp only [if_neg hrem]

theorem subscribe_serves {d : RxDaemon} (h : WellFormed d) {j : ℕ} {c : RxConnection}
    (hc : d.connections[j]? = some c) (conn : ℕ) : Serves conn d (d.subscribe j c, .none) := by
  unfold subscribe
  split
  · rename_i hack
    have hset := serves_setConn_none hc { c with handler := .subscribed } rfl conn
    refine ⟨hset.pending, fun hmem => ⟨List.mem_cons_of_mem _ hmem, (hset.subscribed hmem).2⟩,
      hset.silent, fun hmem hmem' => ⟨rfl, ?_, rfl⟩⟩
    have hj : conn = j := (List.mem_cons.mp hmem').resolve_right hmem
    subst hj
    have hstream : d.streamOf conn = c.stream := by simp [streamOf, hc]
    rw [← h.onWay_of_not_mem hmem]
    show rxFrames ((d.setConn conn { c with handler := .subscribed }).streamOf conn) ++
      d.unsent conn = _
    rw [streamOf_setConn hc, if_pos rfl, onWay, hstream]
  · exact .refl conn d

theorem sendTo_serves {d : RxDaemon} (h : WellFormed d) {j : ℕ} {c : RxConnection}
    (hc : d.connections[j]? = some c) (conn : ℕ) : Serves conn d (d.sendTo j c, .none) := by
  unfold sendTo
  split
  · rename_i frame rem hthread
    have hnodup : rem.Nodup := by
      have := h.remaining_nodup
      rwa [remaining, hthread] at this
    split
    · rename_i hmem
      refine ⟨by simp [pending, hthread, RxOut.received?, RxOut.published?],
        fun hsub => ⟨hsub, ?_⟩, fun _ => rfl, fun hsub hsub' => absurd hsub' hsub⟩
      simp only [RxOut.received?, RxOut.dispatchedBy?, Option.toList_none, List.append_nil,
        List.nil_append]
      show rxFrames (d.streamOf conn) ++ d.unsent conn =
        rxFrames ((d.setConn j { c with stream := c.stream ++ [.rx frame] }).streamOf conn) ++ _
      rw [streamOf_setConn hc]
      by_cases hj : j = conn
      · subst hj
        -- the frame moves from the thread's hands to the stream
        have hstream : d.streamOf j = c.stream := by simp [streamOf, hc]
        simp [unsent, hthread, hmem, hstream, hnodup.not_mem_erase]
      · simp [unsent, hthread, hj, List.mem_erase_of_ne (Ne.symm hj)]
    · exact .refl conn d
  · exact .refl conn d

theorem readLine_serves {d : RxDaemon} (h : WellFormed d) {j : ℕ} {c : RxConnection}
    (hc : d.connections[j]? = some c) (conn : ℕ) : Serves conn d (d.readLine j c) := by
  unfold readLine
  split
  · split
    · exact .refl conn d
    · rename_i rest hstream
      exact serves_setConn_none hc _ (by simp [hstream]) conn
    · rename_i frame rest hstream
      refine serves_setConn hc rfl rfl ?_ (fun i hi => ?_) (fun hsub => ?_) conn
      · simp [hstream, RxOut.dispatchedBy?]
      · simp [RxOut.dispatchedBy?, hi]
      · -- a connection that is not subscribed has no frame to read
        have hne : c.handler ≠ .subscribed := fun hsub' => hsub ((h.mem_iff j).mpr ⟨c, hc, hsub'⟩)
        have hsilent := h.silent j c hc hne
        rw [hstream] at hsilent
        cases hsilent
  · exact .refl conn d

/-- **One step**, whatever moves. -/
theorem step_serves {d : RxDaemon} (h : WellFormed d) (ev : RxEvent) (conn : ℕ) :
    Serves conn d (d.step ev) := by
  cases ev with
  | «open» =>
      refine ⟨by simp [RxDaemon.step, pending, RxOut.received?, RxOut.published?],
        fun hmem => ⟨hmem, ?_⟩, fun _ => rfl, fun hmem hmem' => absurd hmem' hmem⟩
      obtain ⟨c, hc, -⟩ := (h.mem_iff conn).mp hmem
      have hlt : conn < d.connections.length := (List.getElem?_eq_some_iff.mp hc).1
      simp [RxDaemon.step, onWay, streamOf, unsent, RxOut.received?, RxOut.dispatchedBy?,
        List.getElem?_append_left hlt]
  | writeAck j =>
      refine onConn_elim (.refl conn d) fun c hc => ?_
      simp only [writeAck]
      split
      · exact serves_setConn_none hc _ (by simp) conn
      · exact .refl conn d
  | subscribe j => exact onConn_elim (.refl conn d) fun c hc => subscribe_serves h hc conn
  | readAck j =>
      refine onConn_elim (.refl conn d) fun c hc => ?_
      simp only [readAck]
      split
      · rename_i rest hclient hstream
        exact serves_setConn_none hc _ (by simp [hstream]) conn
      · exact .refl conn d
  | startRxThread j =>
      refine onConn_elim (.refl conn d) fun c hc => ?_
      simp only [startRxThread]
      split
      · exact serves_setConn_none hc { c with client := .rxRunning } rfl conn
      · exact .refl conn d
  | returnConnect j =>
      refine onConn_elim (.refl conn d) fun c hc => ?_
      simp only [returnConnect]
      split
      · exact serves_setConn hc rfl rfl rfl (fun _ _ => rfl) (fun _ => rfl) conn
      · exact .refl conn d
  | readLine j => exact onConn_elim (.refl conn d) fun c hc => readLine_serves h hc conn
  | receive frame =>
      simp only [RxDaemon.step]
      split
      · rename_i hthread
        refine ⟨by simp [pending, hthread, RxOut.received?, RxOut.published?],
          fun hmem => ⟨hmem, ?_⟩, fun _ => rfl, fun hmem hmem' => absurd hmem' hmem⟩
        simp [onWay, streamOf, unsent, hthread, RxOut.received?, RxOut.dispatchedBy?]
      · rename_i f hthread
        refine ⟨by simp [pending, hthread, RxOut.received?, RxOut.published?],
          fun hmem => ⟨hmem, ?_⟩, fun _ => rfl, fun hmem hmem' => absurd hmem' hmem⟩
        simp [onWay, streamOf, unsent, hthread, RxOut.received?, RxOut.dispatchedBy?]
      · exact .refl conn d
  | snapshot =>
      simp only [RxDaemon.step]
      split
      · rename_i frame hthread
        refine ⟨by simp [pending, hthread, RxOut.received?, RxOut.published?],
          fun hmem => ⟨hmem, ?_⟩, fun _ => rfl, fun hmem hmem' => absurd hmem' hmem⟩
        simp [onWay, streamOf, unsent, hthread, hmem, RxOut.received?, RxOut.dispatchedBy?]
      · exact .refl conn d
  | sendTo j => exact onConn_elim (.refl conn d) fun c hc => sendTo_serves h hc conn

end RxDaemon

/-! ## Runs -/

/-- One recorded step of the receive side. -/
abbrev RxEntry := Entry RxDaemon RxEvent RxOut

/-- A recorded run of the receive side from its start. -/
def rxRun (events : List RxEvent) : List RxEntry := trace RxDaemon.step {} events

/-- The frames the daemon took from the bus. -/
def receivedFrames (tr : List RxEntry) : List CANFrame := tr.filterMap (·.out.received?)

/-- The frames whose subscribers were read. -/
def publishedFrames (tr : List RxEntry) : List CANFrame := tr.filterMap (·.out.published?)

/-- The frames the client of a connection dispatched. -/
def dispatchedFrames (conn : ℕ) (tr : List RxEntry) : List CANFrame :=
  tr.filterMap (·.out.dispatchedBy? conn)

/-- Every frame the bus delivers after `connect()` returned in the client finds the client among the
subscribers when its snapshot is taken. -/
def RegisteredInTime (conn : ℕ) (tr : List RxEntry) : Prop :=
  ∀ (p q r : ℕ) (ep eq er : RxEntry) (f g : CANFrame), tr[p]? = some ep → ep.out = .connected conn →
    tr[q]? = some eq → eq.out = .received f → tr[r]? = some er → er.out = .published g →
    p < q → q < r → conn ∈ er.before.subscribers

/-- At least this many frames were received before `connect()` returned in the client. -/
def ReceivedBefore (conn : ℕ) (tr : List RxEntry) (k : ℕ) : Prop :=
  ∀ (p : ℕ) (ep : RxEntry), tr[p]? = some ep → ep.out = .connected conn →
    k ≤ (receivedFrames (tr.take p)).length

theorem receivedFrames_concat (tr : List RxEntry) (e : RxEntry) :
    receivedFrames (tr ++ [e]) = receivedFrames tr ++ e.out.received?.toList :=
  filterMap_concat _ tr e

theorem publishedFrames_concat (tr : List RxEntry) (e : RxEntry) :
    publishedFrames (tr ++ [e]) = publishedFrames tr ++ e.out.published?.toList :=
  filterMap_concat _ tr e

theorem dispatchedFrames_concat (conn : ℕ) (tr : List RxEntry) (e : RxEntry) :
    dispatchedFrames conn (tr ++ [e]) =
      dispatchedFrames conn tr ++ (e.out.dispatchedBy? conn).toList :=
  filterMap_concat _ tr e

/-- Registration in time is a property of every shorter run too. -/
theorem RegisteredInTime.of_concat {conn : ℕ} {tr : List RxEntry} {e : RxEntry}
    (h : RegisteredInTime conn (tr ++ [e])) : RegisteredInTime conn tr := by
  have hget : ∀ (n : ℕ) (x : RxEntry), tr[n]? = some x → (tr ++ [e])[n]? = some x := by
    intro n x hx
    rw [List.getElem?_append_left (List.getElem?_eq_some_iff.mp hx).1]
    exact hx
  intro p q r ep eq er f g hp hconn hq hrec hr hpub hpq hqr
  exact h p q r ep eq er f g (hget p ep hp) hconn (hget q eq hq) hrec (hget r er hr) hpub hpq hqr

/-- One more step that publishes nothing the client is not registered for. -/
theorem RegisteredInTime.concat {conn : ℕ} {tr : List RxEntry} {e : RxEntry}
    (h : RegisteredInTime conn tr)
    (he : ∀ g, e.out = .published g → conn ∈ e.before.subscribers) :
    RegisteredInTime conn (tr ++ [e]) := by
  intro p q r ep eq er f g hp hconn hq hrec hr hpub hpq hqr
  rcases getElem?_concat_cases hr with ⟨-, rfl⟩ | hold
  · exact he g hpub
  · have hlt : r < tr.length := (List.getElem?_eq_some_iff.mp hold).1
    rw [List.getElem?_append_left (by omega)] at hp hq
    exact h p q r ep eq er f g hp hconn hq hrec hold hpub hpq hqr

/-- One more step keeps a bound that the frames received so far satisfy. -/
theorem ReceivedBefore.concat {conn k : ℕ} {tr : List RxEntry} (h : ReceivedBefore conn tr k)
    (hk : k ≤ (receivedFrames tr).length) (e : RxEntry) : ReceivedBefore conn (tr ++ [e]) k := by
  intro p ep hp hconn
  rcases getElem?_concat_cases hp with ⟨rfl, -⟩ | hold
  · rwa [List.take_left']
    rfl
  · have hlt : p < tr.length := (List.getElem?_eq_some_iff.mp hold).1
    rw [List.take_append_of_le_length (Nat.le_of_lt hlt)]
    exact h p ep hold hconn

/-- What the record of a run says about the frames of one connection. -/
structure Follows (conn : ℕ) (tr : List RxEntry) (d : RxDaemon) : Prop where
  wellFormed : d.WellFormed
  pending : receivedFrames tr = publishedFrames tr ++ d.pending
  silent : conn ∉ d.subscribers → dispatchedFrames conn tr = []
  waiting : RegisteredInTime conn tr → conn ∉ d.subscribers →
    ReceivedBefore conn tr (publishedFrames tr).length
  served : RegisteredInTime conn tr → conn ∈ d.subscribers →
    ∃ k ≤ (receivedFrames tr).length, ReceivedBefore conn tr k ∧
      dispatchedFrames conn tr ++ d.onWay conn = (receivedFrames tr).drop k

theorem follows_empty (conn : ℕ) : Follows conn [] {} := by
  refine ⟨RxDaemon.wellFormed_empty, rfl, fun _ => rfl, fun _ _ p ep hp => ?_, fun _ h => ?_⟩
  · cases hp
  · cases h

/-- A snapshot that misses the client of an unregistered connection is of a frame that was received
before its `connect()` returned. -/
theorem receivedBefore_published {conn : ℕ} {tr : List RxEntry} {e : RxEntry} {g : CANFrame}
    (hreg : RegisteredInTime conn (tr ++ [e])) (hout : e.out = .published g)
    (hmem : conn ∉ e.before.subscribers) : ReceivedBefore conn tr (receivedFrames tr).length := by
  intro p ep hp hconn
  -- nothing was received after position `p`
  have hnone : receivedFrames (tr.drop (p + 1)) = [] := by
    rw [receivedFrames, List.filterMap_eq_nil_iff]
    intro x hx
    obtain ⟨n, hn⟩ := List.mem_iff_getElem?.mp hx
    rw [List.getElem?_drop] at hn
    cases hrec : x.out.received? with
    | none => rfl
    | some f =>
        have hlt : p + 1 + n < tr.length := (List.getElem?_eq_some_iff.mp hn).1
        have hxout : x.out = .received f := by
          cases hx' : x.out <;> rw [hx'] at hrec <;> cases hrec
          rfl
        refine absurd (hreg p (p + 1 + n) tr.length ep x e f g ?_ hconn ?_ hxout ?_ hout
          (by omega) hlt) hmem
        · rw [List.getElem?_append_left (by omega)]
          exact hp
        · rw [List.getElem?_append_left hlt]
          exact hn
        · exact List.getElem?_concat_length
  have hsplit : tr = tr.take p ++ ep :: tr.drop (p + 1) := by
    rw [← List.getElem?_eq_some_iff.mp hp |>.2, List.getElem_cons_drop, List.take_append_drop]
  have hep : ep.out.received? = none := by rw [hconn]; rfl
  conv_lhs => rw [hsplit]
  simp only [receivedFrames, List.filterMap_append, List.filterMap_cons, hep]
  rw [receivedFrames] at hnone
  rw [hnone, List.append_nil]

theorem follows_step (conn : ℕ) (tr : List RxEntry) (d : RxDaemon) (ev : RxEvent)
    (h : Follows conn tr d) :
    Follows conn (tr ++ [entry RxDaemon.step d ev]) (d.step ev).1 := by
  have hserves := RxDaemon.step_serves h.wellFormed ev conn
  have hpending : receivedFrames (tr ++ [entry RxDaemon.step d ev]) =
      publishedFrames (tr ++ [entry RxDaemon.step d ev]) ++ (d.step ev).1.pending := by
    rw [receivedFrames_concat, publishedFrames_concat, h.pending, entry_out, List.append_assoc,
      hserves.pending, List.append_assoc]
  have hpublished : (publishedFrames tr).length ≤ (receivedFrames tr).length := by
    rw [h.pending, List.length_append]
    omega
  refine ⟨h.wellFormed.step ev, hpending, fun hmem => ?_, fun hreg hmem => ?_, fun hreg hmem => ?_⟩
  · have hold : conn ∉ d.subscribers := fun hold => hmem (hserves.subscribed hold).1
    rw [dispatchedFrames_concat, h.silent hold, entry_out, hserves.silent hold]
    rfl
  · have hold : conn ∉ d.subscribers := fun hold => hmem (hserves.subscribed hold).1
    cases hpub : (d.step ev).2.published? with
    | none =>
        have hsame : publishedFrames (tr ++ [entry RxDaemon.step d ev]) = publishedFrames tr := by
          rw [publishedFrames_concat, entry_out, hpub, Option.toList_none, List.append_nil]
        rw [hsame]
        exact (h.waiting hreg.of_concat hold).concat hpublished _
    | some g =>
        have hout : (d.step ev).2 = .published g := by
          cases hx : (d.step ev).2 <;> rw [hx] at hpub <;> cases hpub
          rfl
        -- the frame published now was received before, so all of them were
        have hsame : receivedFrames (tr ++ [entry RxDaemon.step d ev]) = receivedFrames tr := by
          rw [receivedFrames_concat, entry_out, hout]
          exact List.append_nil _
        have hle : (publishedFrames (tr ++ [entry RxDaemon.step d ev])).length ≤
            (receivedFrames tr).length := by
          rw [← hsame, hpending, List.length_append]
          omega
        have hall := (receivedBefore_published hreg hout hold).concat (Nat.le_refl _)
          (entry RxDaemon.step d ev)
        exact fun p ep hp hconn => hle.trans (hall p ep hp hconn)
  · by_cases hold : conn ∈ d.subscribers
    · obtain ⟨k, hk, hbefore, hflow⟩ := h.served hreg.of_concat hold
      refine ⟨k, ?_, hbefore.concat hk _, ?_⟩
      · rw [receivedFrames_concat, List.length_append]
        omega
      · rw [dispatchedFrames_concat, receivedFrames_concat, entry_out, List.append_assoc,
          ← (hserves.subscribed hold).2, ← List.append_assoc, hflow,
          List.drop_append_of_le_length hk]
    · obtain ⟨hout, honWay, -⟩ := hserves.subscribes hold hmem
      have hsame : receivedFrames (tr ++ [entry RxDaemon.step d ev]) = receivedFrames tr := by
        rw [receivedFrames_concat, entry_out, hout]
        exact List.append_nil _
      refine ⟨(publishedFrames tr).length, hsame ▸ hpublished,
        (h.waiting hreg.of_concat hold).concat hpublished _, ?_⟩
      rw [dispatchedFrames_concat, h.silent hold, entry_out, hserves.silent hold, honWay, hsame,
        h.pending, List.drop_left]
      rfl

/-- The frames of a client that registers in time: dispatched or on their way, from a frame on that
was received before its `connect()` returned. -/
theorem Follows.on_way {conn : ℕ} {tr : List RxEntry} {d : RxDaemon} (h : Follows conn tr d)
    (hreg : RegisteredInTime conn tr) :
    ∃ k, ReceivedBefore conn tr k ∧
      dispatchedFrames conn tr ++ d.onWay conn = (receivedFrames tr).drop k := by
  by_cases hmem : conn ∈ d.subscribers
  · obtain ⟨k, -, hbefore, hflow⟩ := h.served hreg hmem
    exact ⟨k, hbefore, hflow⟩
  · refine ⟨_, h.waiting hreg hmem, ?_⟩
    rw [h.silent hmem, h.wellFormed.onWay_of_not_mem hmem, h.pending, List.drop_left, List.nil_append]

theorem follows_take (conn : ℕ) (events : List RxEvent) (n : ℕ) :
    Follows conn ((rxRun events).take n) (final RxDaemon.step {} (events.take n)) :=
  trace_history_take (C := fun _ => True) (follows_empty conn)
    (fun tr d ev h _ => follows_step conn tr d ev h) events n fun _ _ => trivial

/-! ## Catching up -/

/-- What the daemon and a connected client do by themselves until the client has seen everything: the
handler adds the client, the frame at hand is published and written to it, the client reads. -/
def catchUp (conn lines : ℕ) : List RxEvent :=
  [.subscribe conn, .snapshot, .sendTo conn] ++ List.replicate lines (.readLine conn)

/-- A registered client stays registered, and every later snapshot finds it. -/
theorem follows_registered (conn : ℕ) {tr : List RxEntry} {d : RxDaemon} (h : Follows conn tr d)
    (hreg : RegisteredInTime conn tr) (hmem : conn ∈ d.subscribers) (more : List RxEvent) :
    Follows conn (tr ++ trace RxDaemon.step d more) (final RxDaemon.step d more) ∧
      RegisteredInTime conn (tr ++ trace RxDaemon.step d more) ∧
      conn ∈ (final RxDaemon.step d more).subscribers := by
  induction more generalizing tr d with
  | nil => exact ⟨by simpa [trace] using h, by simpa [trace] using hreg, hmem⟩
  | cons ev rest ih =>
      have hrest := ih (follows_step conn tr d ev h) (hreg.concat fun _ _ => hmem)
        ((RxDaemon.step_serves h.wellFormed ev conn).subscribed hmem).1
      rw [List.append_assoc] at hrest
      exact hrest

/-- A connected client that reads on empties its stream, and nothing else moves. -/
theorem final_readLine {conn : ℕ} {c : RxConnection} (hclient : c.client = .connected) (n : ℕ) :
    ∀ {d : RxDaemon}, d.connections[conn]? = some c →
      (final RxDaemon.step d (List.replicate n (.readLine conn))).streamOf conn = c.stream.drop n ∧
      (final RxDaemon.step d (List.replicate n (.readLine conn))).rxThread = d.rxThread := by
  induction n generalizing c with
  | zero =>
      intro d hc
      exact ⟨by simp [RxDaemon.streamOf, hc], rfl⟩
  | succ n ih =>
      intro d hc
      have hlt : conn < d.connections.length := (List.getElem?_eq_some_iff.mp hc).1
      have hstep : ∃ d', (d.step (.readLine conn)).1 = d' ∧
          d'.connections[conn]? = some { c with stream := c.stream.drop 1 } ∧
          d'.rxThread = d.rxThread := by
        refine ⟨_, rfl, ?_⟩
        simp only [RxDaemon.step, RxDaemon.onConn, hc, RxDaemon.readLine, hclient, or_true, if_true]
        cases hstream : c.stream with
        | nil =>
            obtain ⟨handler, client, stream⟩ := c
            cases hstream
            cases hclient
            exact ⟨hc, rfl⟩
        | cons line rest => cases line <;> exact ⟨by simp [RxDaemon.setConn, hlt], rfl⟩
      obtain ⟨d', hd', hc', hthread⟩ := hstep
      have hrest := ih (c := { c with stream := c.stream.drop 1 }) hclient hc'
      rw [List.replicate_succ, ← List.singleton_append, final_append]
      show (final RxDaemon.step (d.step (.readLine conn)).1 _).streamOf conn = _ ∧
        (final RxDaemon.step (d.step (.readLine conn)).1 _).rxThread = _
      rw [hd']
      refine ⟨?_, hrest.2.trans hthread⟩
      rw [hrest.1, List.drop_drop, Nat.add_comm]

/-- `connect()` has returned in the client of a connection. -/
def RxDaemon.Connected (d : RxDaemon) (conn : ℕ) : Prop :=
  ∃ c : RxConnection, d.connections[conn]? = some c ∧ c.client = .connected

theorem RxDaemon.Connected.setConn {d : RxDaemon} {conn j : ℕ} {c c' : RxConnection}
    (h : d.Connected conn) (hc : d.connections[j]? = some c)
    (hkeep : c.client = .connected → c'.client = .connected) : (d.setConn j c').Connected conn := by
  obtain ⟨x, hx, hclient⟩ := h
  have hlt : j < d.connections.length := (List.getElem?_eq_some_iff.mp hc).1
  by_cases hj : j = conn
  · subst hj
    rw [Option.some.inj (hx.symm.trans hc)] at hclient
    exact ⟨c', by simp [RxDaemon.setConn, hlt], hkeep hclient⟩
  · exact ⟨x, by simp [RxDaemon.setConn, List.getElem?_set_ne hj, hx], hclient⟩

/-- A connected client stays connected. -/
theorem RxDaemon.Connected.step {d : RxDaemon} {conn : ℕ} (h : d.Connected conn) (ev : RxEvent) :
    (d.step ev).1.Connected conn := by
  cases ev with
  | «open» =>
      obtain ⟨x, hx, hclient⟩ := h
      have hlt : conn < d.connections.length := (List.getElem?_eq_some_iff.mp hx).1
      exact ⟨x, (List.getElem?_append_left hlt).trans hx, hclient⟩
  | writeAck j =>
      refine onConn_elim (P := fun r => r.1.Connected conn) h fun c hc => ?_
      simp only [writeAck]
      split
      · exact h.setConn hc fun hconn => hconn
      · exact h
  | subscribe j =>
      refine onConn_elim (P := fun r => r.1.Connected conn) h fun c hc => ?_
      simp only [subscribe]
      split
      · exact h.setConn hc fun hconn => hconn
      · exact h
  | readAck j =>
      refine onConn_elim (P := fun r => r.1.Connected conn) h fun c hc => ?_
      simp only [readAck]
      split
      · rename_i hclient _
        exact h.setConn hc fun hconn => by rw [hclient] at hconn; cases hconn
      · exact h
  | startRxThread j =>
      refine onConn_elim (P := fun r => r.1.Connected conn) h fun c hc => ?_
      simp only [startRxThread]
      split
      · rename_i hclient
        exact h.setConn hc fun hconn => by rw [hclient] at hconn; cases hconn
      · exact h
  | returnConnect j =>
      refine onConn_elim (P := fun r => r.1.Connected conn) h fun c hc => ?_
      simp only [returnConnect]
      split
      · exact h.setConn hc fun _ => rfl
      · exact h
  | readLine j =>
      refine onConn_elim (P := fun r => r.1.Connected conn) h fun c hc => ?_
      simp only [readLine]
      split
      · split
        · exact h
        · exact h.setConn hc fun hconn => hconn
        · exact h.setConn hc fun hconn => hconn
      · exact h
  | receive frame =>
      simp only [RxDaemon.step]
      split <;> exact h
  | snapshot =>
      simp only [RxDaemon.step]
      split <;> exact h
  | sendTo j =>
      refine onConn_elim (P := fun r => r.1.Connected conn) h fun c hc => ?_
      simp only [sendTo]
      split
      · split
        · exact h.setConn hc fun hconn => hconn
        · exact h
      · exact h

/-- A step that shows a return from `connect()` leaves the client connected. -/
theorem RxDaemon.connected_of_out {d : RxDaemon} {conn : ℕ} {ev : RxEvent}
    (h : (d.step ev).2 = .connected conn) : (d.step ev).1.Connected conn := by
  -- a step of a connection that shows nothing is not this one
  have hquiet : ∀ (j : ℕ) (f : RxConnection → RxDaemon),
      (d.onConn j fun c => (f c, .none)).2 ≠ .connected conn := fun j f =>
    onConn_elim (P := fun r => r.2 ≠ .connected conn) (by simp) fun c _ => by simp
  cases ev with
  | «open» => cases h
  | writeAck j => exact absurd h (hquiet j _)
  | subscribe j => exact absurd h (hquiet j _)
  | readAck j => exact absurd h (hquiet j _)
  | startRxThread j => exact absurd h (hquiet j _)
  | returnConnect j =>
      simp only [RxDaemon.step, onConn, returnConnect] at h ⊢
      split at h
      · rename_i c hc
        split at h
        · have hlt : j < d.connections.length := (List.getElem?_eq_some_iff.mp hc).1
          cases h
          refine ⟨{ c with client := .connected }, ?_, rfl⟩
          simp_all [setConn]
        · cases h
      · cases h
  | readLine j =>
      refine absurd h (onConn_elim (P := fun r => r.2 ≠ .connected conn) (by simp) fun c _ => ?_)
      simp only [readLine]
      split
      · split <;> simp
      · simp
  | receive frame =>
      simp only [RxDaemon.step] at h
      split at h <;> cases h
  | snapshot =>
      simp only [RxDaemon.step] at h
      split at h <;> cases h
  | sendTo j => exact absurd h (hquiet j _)

/-- Once `connect()` has returned in a client, it is connected for the rest of the run. -/
theorem connected_final {events : List RxEvent} {conn p : ℕ} {ep : RxEntry}
    (hp : (rxRun events)[p]? = some ep) (hout : ep.out = .connected conn) :
    (final RxDaemon.step {} events).Connected conn := by
  refine trace_history_all RxDaemon.step
    (P := fun tr d => ∀ (p : ℕ) (ep : RxEntry), tr[p]? = some ep → ep.out = .connected conn →
      d.Connected conn) (fun p ep hp => by cases hp) (fun tr d ev hP p ep hp hout => ?_) events
    p ep hp hout
  rcases getElem?_concat_cases hp with ⟨-, rfl⟩ | hold
  · exact RxDaemon.connected_of_out hout
  · exact (hP p ep hold hout).step ev

/-! ## Nothing is missed -/

/-- **What clients rely on.** From the return of `connect()` on, what the client dispatched and what
is on its way to it is at every moment the bus traffic from some frame on that was received before
that return; and the daemon and the client need no help to get it all dispatched. -/
structure MissesNothing (conn : ℕ) (events : List RxEvent) : Prop where
  on_way : ∀ (p n : ℕ) (ep : RxEntry), (rxRun events)[p]? = some ep → ep.out = .connected conn →
    p < n → n ≤ events.length → ∃ k ≤ (receivedFrames ((rxRun events).take p)).length,
      dispatchedFrames conn ((rxRun events).take n) ++
          (final RxDaemon.step {} (events.take n)).onWay conn =
        (receivedFrames ((rxRun events).take n)).drop k
  catches_up : ∀ (p : ℕ) (ep : RxEntry), (rxRun events)[p]? = some ep → ep.out = .connected conn →
    ∃ lines k : ℕ, k ≤ (receivedFrames ((rxRun events).take p)).length ∧
      dispatchedFrames conn (rxRun (events ++ catchUp conn lines)) =
        (receivedFrames (rxRun events)).drop k

/-- Registration in time up to a position. -/
theorem RegisteredInTime.take {conn : ℕ} {tr : List RxEntry} (h : RegisteredInTime conn tr) (n : ℕ) :
    RegisteredInTime conn (tr.take n) := by
  have hget : ∀ (i : ℕ) (x : RxEntry), (tr.take n)[i]? = some x → tr[i]? = some x := by
    intro i x hx
    rw [List.getElem?_take] at hx
    split at hx
    · exact hx
    · cases hx
  intro p q r ep eq er f g hp hconn hq hrec hr hpub hpq hqr
  exact h p q r ep eq er f g (hget p ep hp) hconn (hget q eq hq) hrec (hget r er hr) hpub hpq hqr

/-- A frame received after a position makes the received frames more. -/
theorem receivedFrames_lt {tr : List RxEntry} {p q r : ℕ} {eq : RxEntry} {f : CANFrame}
    (hq : tr[q]? = some eq) (hrec : eq.out = .received f) (hpq : p ≤ q) (hqr : q < r) :
    (receivedFrames (tr.take p)).length < (receivedFrames (tr.take r)).length := by
  have hgrow : ∀ {a b : ℕ}, a ≤ b →
      (receivedFrames (tr.take a)).length ≤ (receivedFrames (tr.take b)).length := fun hab =>
    ((List.take_prefix_take_left hab).filterMap _).length_le
  have hnext : (receivedFrames (tr.take (q + 1))).length =
      (receivedFrames (tr.take q)).length + 1 := by
    rw [List.take_add_one, hq, Option.toList_some, receivedFrames_concat, hrec]
    exact List.length_append
  have hfront := hgrow hpq
  have hback := hgrow (show q + 1 ≤ r from hqr)
  omega

/-- A snapshot leaves no frame whose snapshot is to come. -/
theorem RxDaemon.pending_of_published {d : RxDaemon} {ev : RxEvent} {g : CANFrame}
    (h : d.WellFormed) (hout : (d.step ev).2 = .published g) : (d.step ev).1.pending = [] := by
  have hflow := (RxDaemon.step_serves h ev 0).pending
  rw [hout] at hflow
  have hle : d.pending.length ≤ 1 := by
    unfold RxDaemon.pending
    split <;> simp
  have hlen := congrArg List.length hflow
  simp only [RxOut.received?, RxOut.published?, Option.toList_none, Option.toList_some,
    List.length_append, List.length_nil, List.length_singleton] at hlen
  exact List.length_eq_zero_iff.mp (by omega)

/-- **Registration in time is necessary.** A snapshot that misses a connected client loses the
frame. -/
theorem registered_of_on_way {conn : ℕ} {events : List RxEvent} (h : MissesNothing conn events) :
    RegisteredInTime conn (rxRun events) := by
  intro p q r ep eq er f g hp hconn hq hrec hr hpub hpq hqr
  by_contra hmem
  have hlen : r < events.length := by
    have hr' := hr
    rw [rxRun, getElem?_trace, Option.map_eq_some_iff] at hr'
    obtain ⟨ev, hev, -⟩ := hr'
    exact (List.getElem?_eq_some_iff.mp hev).1
  obtain ⟨k, hk, hflow⟩ := h.on_way p (r + 1) ep hp hconn (by omega) hlen
  have hbefore := follows_take conn events r
  have hafter := follows_take conn events (r + 1)
  have hstate := final_take_succ RxDaemon.step hr
  have hout := out_eq RxDaemon.step hr
  rw [← before_eq_final RxDaemon.step hr] at hbefore
  rw [hstate, after_eq RxDaemon.step hr] at hflow hafter
  rw [hpub] at hout
  -- the step only took the snapshot
  have hstill : conn ∉ (er.before.step er.input).1.subscribers := by
    intro hnew
    have hquiet := ((RxDaemon.step_serves hbefore.wellFormed er.input conn).subscribes hmem hnew).1
    rw [hquiet] at hout
    cases hout
  rw [hafter.silent hstill, hafter.wellFormed.onWay_of_not_mem hstill,
    RxDaemon.pending_of_published hbefore.wellFormed hout.symm] at hflow
  have hall : (receivedFrames ((rxRun events).take (r + 1))).length ≤ k :=
    List.drop_eq_nil_iff.mp hflow.symm
  have hmore := receivedFrames_lt hq hrec (Nat.le_of_lt hpq) (show q < r + 1 by omega)
  omega

/-- A connected client is subscribed once its handler had its turn. -/
theorem RxDaemon.mem_subscribe {d : RxDaemon} (h : d.WellFormed) {conn : ℕ}
    (hconn : d.Connected conn) : conn ∈ (d.step (.subscribe conn)).1.subscribers := by
  obtain ⟨c, hc, hclient⟩ := hconn
  have hpast : c.handler ≠ .readingHello := h.client hc (by simp [hclient])
  simp only [RxDaemon.step, RxDaemon.onConn, hc, RxDaemon.subscribe]
  split
  · exact List.mem_cons_self
  · rename_i hack
    refine (h.mem_iff conn).mpr ⟨c, hc, ?_⟩
    cases hhandler : c.handler with
    | readingHello => exact absurd hhandler hpast
    | acknowledged => exact absurd hhandler hack
    | subscribed => rfl

/-- After a snapshot and its write to a connection, the receive thread owes that connection
nothing. -/
theorem RxDaemon.unsent_sendTo {d : RxDaemon} (h : d.WellFormed) {conn : ℕ}
    (hconn : d.Connected conn) :
    (((d.step .snapshot).1.step (.sendTo conn)).1).unsent conn = [] := by
  have hsnap : ∀ f, (d.step .snapshot).1.rxThread ≠ .received f := by
    intro f
    simp only [RxDaemon.step]
    split
    · simp
    · rename_i hnot
      exact hnot f
  obtain ⟨c, hc, -⟩ := hconn.step .snapshot
  have hnodup := (h.step .snapshot).remaining_nodup
  generalize (d.step .snapshot).1 = d' at hsnap hc hnodup
  simp only [RxDaemon.step, RxDaemon.onConn, hc, RxDaemon.sendTo]
  unfold RxDaemon.unsent
  cases hthread : d'.rxThread with
  | idle => simp [hthread]
  | received f => exact absurd hthread (hsnap f)
  | publishing f rem =>
      rw [RxDaemon.remaining, hthread] at hnodup
      by_cases hmem : conn ∈ rem
      · simp [hmem, hnodup.not_mem_erase]
      · simp [hmem, hthread]

/-- Only reception receives. -/
theorem RxDaemon.received?_eq_none {d : RxDaemon} {ev : RxEvent} (h : ∀ f, ev ≠ .receive f) :
    (d.step ev).2.received? = none := by
  have hquiet : ∀ (j : ℕ) (f : RxConnection → RxDaemon),
      (d.onConn j fun c => (f c, .none)).2.received? = none := fun j f =>
    onConn_elim (P := fun r => r.2.received? = none) rfl fun c _ => rfl
  cases ev with
  | «open» => rfl
  | writeAck j => exact hquiet j _
  | subscribe j => exact hquiet j _
  | readAck j => exact hquiet j _
  | startRxThread j => exact hquiet j _
  | returnConnect j =>
      refine onConn_elim (P := fun r => r.2.received? = none) rfl fun c _ => ?_
      simp only [returnConnect]
      split <;> rfl
  | readLine j =>
      refine onConn_elim (P := fun r => r.2.received? = none) rfl fun c _ => ?_
      simp only [readLine]
      split
      · split <;> rfl
      · rfl
  | receive f => exact absurd rfl (h f)
  | snapshot =>
      simp only [RxDaemon.step]
      split <;> rfl
  | sendTo j => exact hquiet j _

/-- Catching up takes nothing from the bus. -/
theorem receivedFrames_catchUp (d : RxDaemon) (conn lines : ℕ) :
    receivedFrames (trace RxDaemon.step d (catchUp conn lines)) = [] := by
  rw [receivedFrames, List.filterMap_eq_nil_iff]
  intro e he
  rw [eq_entry_of_mem RxDaemon.step he, entry_out]
  refine RxDaemon.received?_eq_none fun f hf => ?_
  have hmem := input_mem_of_mem RxDaemon.step he
  rw [hf] at hmem
  simp [catchUp] at hmem

/-- After enough rounds of a connected client's loop nothing is left on its way. -/
theorem onWay_catchUp {d : RxDaemon} (h : d.WellFormed) {conn : ℕ} (hconn : d.Connected conn) :
    ∃ lines, (final RxDaemon.step d (catchUp conn lines)).onWay conn = [] := by
  have hsub := h.step (.subscribe conn)
  have hconnSub := hconn.step (.subscribe conn)
  have hunsent := RxDaemon.unsent_sendTo hsub hconnSub
  obtain ⟨c, hc, hclient⟩ := (hconnSub.step .snapshot).step (.sendTo conn)
  obtain ⟨hstream, hthread⟩ := final_readLine hclient c.stream.length hc
  refine ⟨c.stream.length, ?_⟩
  have hthree : final RxDaemon.step d [.subscribe conn, .snapshot, .sendTo conn] =
      (((d.step (.subscribe conn)).1.step .snapshot).1.step (.sendTo conn)).1 := rfl
  rw [catchUp, final_append, hthree, RxDaemon.onWay, hstream, List.drop_length, rxFrames_nil,
    List.nil_append]
  rw [RxDaemon.unsent] at hunsent ⊢
  rw [hthread]
  exact hunsent

/-- **Registration in time is enough.** -/
theorem missesNothing_of_registered {conn : ℕ} {events : List RxEvent}
    (hreg : RegisteredInTime conn (rxRun events)) : MissesNothing conn events := by
  refine ⟨fun p n ep hp hconn hpn _ => ?_, fun p ep hp hconn => ?_⟩
  · obtain ⟨k, hbefore, hflow⟩ := (follows_take conn events n).on_way (hreg.take n)
    refine ⟨k, ?_, hflow⟩
    have hk := hbefore p ep ((List.getElem?_take_of_lt hpn).trans hp) hconn
    rwa [List.take_take, Nat.min_eq_left (Nat.le_of_lt hpn)] at hk
  · have hfollows : Follows conn (rxRun events) (final RxDaemon.step {} events) := by
      have htake := follows_take conn events events.length
      rwa [rxRun, ← trace_take, List.take_length] at htake
    have hconnected := connected_final hp hconn
    obtain ⟨lines, hempty⟩ := onWay_catchUp hfollows.wellFormed hconnected
    have hsubscribed := follows_step conn _ _ (.subscribe conn) hfollows
    have hregSub := hreg.concat (e := entry RxDaemon.step (final RxDaemon.step {} events)
      (.subscribe conn)) fun g hg => by
        have hserves := RxDaemon.mem_subscribe hfollows.wellFormed hconnected
        by_contra hmem
        have hquiet := ((RxDaemon.step_serves hfollows.wellFormed (.subscribe conn) conn).subscribes
          hmem hserves).1
        rw [entry_out, hquiet] at hg
        cases hg
    obtain ⟨hend, hregEnd, -⟩ := follows_registered conn hsubscribed hregSub
      (RxDaemon.mem_subscribe hfollows.wellFormed hconnected)
      ([.snapshot, .sendTo conn] ++ List.replicate lines (.readLine conn))
    rw [List.append_assoc] at hend hregEnd
    have hrun : rxRun (events ++ catchUp conn lines) = rxRun events ++
        trace RxDaemon.step (final RxDaemon.step {} events) (catchUp conn lines) :=
      trace_append RxDaemon.step {} events _
    have hend' : Follows conn (rxRun (events ++ catchUp conn lines))
        (final RxDaemon.step (final RxDaemon.step {} events) (catchUp conn lines)) := hrun ▸ hend
    have hregEnd' : RegisteredInTime conn (rxRun (events ++ catchUp conn lines)) := hrun ▸ hregEnd
    obtain ⟨k, hbefore, hflow⟩ := hend'.on_way hregEnd'
    rw [hempty, List.append_nil] at hflow
    have hlt : p < (rxRun events).length := (List.getElem?_eq_some_iff.mp hp).1
    refine ⟨lines, k, ?_, ?_⟩
    · have hk := hbefore p ep (by rw [hrun, List.getElem?_append_left hlt]; exact hp) hconn
      rwa [hrun, List.take_append_of_le_length (Nat.le_of_lt hlt)] at hk
    · rw [hflow, hrun, receivedFrames, List.filterMap_append]
      rw [show List.filterMap _ (trace RxDaemon.step _ (catchUp conn lines)) = [] from
        receivedFrames_catchUp _ conn lines, List.append_nil]
      rfl

/-- **Frames after `connect()`.** Whatever the threads and clients do in whatever order: a client
misses none of the frames received after its `connect()` returned exactly when the handler thread
added it to the subscribers before the snapshot of each of them. -/
theorem missesNothing_iff_registered (conn : ℕ) (events : List RxEvent) :
    MissesNothing conn events ↔ RegisteredInTime conn (rxRun events) :=
  ⟨registered_of_on_way, missesNothing_of_registered⟩

/-- A frame some motor sends. -/
private def lostFrame : CANFrame where
  canId := 0x201
  data := [1, 2, 3]

/-- The client's `connect()` has returned, the bus delivers a frame, and only then the handler thread
gets to add the client. -/
private def lateRegistration : List RxEvent :=
  [.open, .writeAck 0, .readAck 0, .startRxThread 0, .returnConnect 0, .receive lostFrame, .snapshot,
    .subscribe 0]

/-- **The acknowledgement is written before the registration.** The client is connected, the frame
is received after that, and no step is left that would bring it to the client. -/
theorem late_registration_misses : ¬ MissesNothing 0 lateRegistration := by
  intro h
  have hreg := registered_of_on_way h
  have hmem := hreg 4 5 6 _ _ _ lostFrame lostFrame rfl rfl rfl rfl rfl rfl (by omega) (by omega)
  cases hmem

end SparqControl.CanDaemon
