/-
# SparqControl.CanDaemon.RxStream — the receive connection, byte by byte.

`RxSubscribers` moves whole lines. Here one receive connection is taken down to its bytes: the handler
acknowledges and subscribes, the daemon writes a line for each frame it publishes from then on, the
bytes arrive in pieces of any size, and the client takes a line off the stream once its newline is
there. The first line it takes decides `_connect_role`, all later ones go through `_rx_loop`.

A write can fail with part of its line out. The daemon then drops the subscriber, and what is left of
the line stays the LAST THING ON THE STREAM: no frame follows it, and the client reads it only when the
handler has closed the connection. Such a piece is no JSON document unless it lacks the newline alone,
for a document that starts with a brace ends with one.

`Stage` is the invariant: some of the whole lines are taken and the others are on the wire, or the
connection is closed and read to its end. `rx_stream_exact` reads from it that what the client
dispatches is what was published, and that a line ends its thread only after a failed write.
-/
import SparqControl.CanDaemon.TxExchange

namespace SparqControl.CanDaemon

open SparqControl.Hal
open SparqControl.Lib.Json
open SparqControl.Lib.Trace

variable {F : Type} (py : Interpreter F)

/-- A line of the stream as the message it is. -/
def StreamLine.message : StreamLine → Value F
  | .helloAck => helloAckMessage
  | .rx frame => rxMessage frame

theorem StreamLine.plain_message (line : StreamLine) : (line.message : Value F).Plain := by
  cases line with
  | helloAck => exact plain_helloAckMessage
  | rx frame => exact plain_rxMessage frame

/-- The bytes of some lines. -/
def streamBytes (lines : List StreamLine) : List UInt8 :=
  lines.flatMap fun line => writeJsonLine py line.message

/-- One round of `_rx_loop`: an exception that ends the thread, a line of another type, or a frame to
dispatch. -/
def rxRound (line : List UInt8) : Option (Option CANFrame) :=
  match parseLine py line with
  | some (.obj members) =>
      if !hasText (.obj members : Value F) "type" "rx" then some none
      else (frameOf py (.obj members)).map some
  | _ => none

/-- What `sendall` put on the stream before it raised: a line without its end. It raises only while
bytes are left to send, so the newline is never out. -/
def cutLine (frame : CANFrame) (count : ℕ) : List UInt8 :=
  (writeJsonLine py (rxMessage frame)).dropLast.take count

/-- Where the client stands: inside `_connect_role`, inside `_rx_loop`, out of them after an `OSError`,
or ended by another exception. -/
inductive RxClient where
  | readingAck
  | running
  | ended
  | failed
  deriving DecidableEq

/-- One receive connection: whether its hello was answered, whether it is among the subscribers, whether
its handler has closed it, and the bytes on it. -/
structure RxLink where
  acknowledged : Bool := false
  subscribed : Bool := false
  closed : Bool := false
  wire : Wire := {}
  client : RxClient := .readingAck
  deriving DecidableEq

/-- One step of the handler, the daemon, the wire or the client. -/
inductive RxLinkEvent where
  | subscribe
  | publish (frame : CANFrame)
  | publishFails (frame : CANFrame) (count : ℕ)
  | leave
  | carry (count : ℕ)
  | read
  deriving DecidableEq

/-- What a step shows. -/
inductive RxLinkOut where
  | none
  | published (frame : CANFrame)
  | cut (frame : CANFrame)
  | connected
  | dispatched (frame : CANFrame)
  | ended
  | failed
  deriving DecidableEq

namespace RxLink

/-- The handler acknowledges and adds the socket to the subscribers. Its write is the first on the
connection and waits for room: it raises only where the client is gone, and then nobody reads. -/
def subscribe (d : RxLink) : RxLink × RxLinkOut :=
  if d.acknowledged || d.closed then (d, .none)
  else
    ({ d with
        acknowledged := true
        subscribed := true
        wire := d.wire.write (writeJsonLine py helloAckMessage) }, .none)

/-- `RxSubscribers.publish`, as far as this connection is a subscriber. -/
def publish (d : RxLink) (frame : CANFrame) : RxLink × RxLinkOut :=
  if d.subscribed then
    ({ d with wire := d.wire.write (writeJsonLine py (rxMessage frame)) }, .published frame)
  else (d, .none)

/-- `RxSubscribers.publish` where `sendall` raises, as it does when a slow client leaves no room for
0.2 s. The subscriber is removed. `sock.close()` leaves the connection open, for the handler's file
still holds it. -/
def publishFails (d : RxLink) (frame : CANFrame) (count : ℕ) : RxLink × RxLinkOut :=
  if d.subscribed then
    ({ d with subscribed := false, wire := d.wire.write (cutLine py frame count) }, .cut frame)
  else (d, .none)

/-- The handler leaves `_handle_client`, whatever the reason. -/
def leave (d : RxLink) : RxLink × RxLinkOut := ({ d with subscribed := false, closed := true }, .none)

/-- What the client does with a line, by where it stands. An empty one is the end of the stream. -/
def take (d : RxLink) (line : List UInt8) : RxLink × RxLinkOut :=
  match d.client with
  | .readingAck =>
      match connectRole "rx" ⟨true, true, lineOf py line⟩ with
      | .ok () => ({ d with client := .running }, .connected)
      | .error (.osError _) => ({ d with client := .ended }, .ended)
      | .error _ => ({ d with client := .failed }, .failed)
  | .running =>
      if line = [] then ({ d with client := .ended }, .ended)
      else
        match rxRound py line with
        | none => ({ d with client := .failed }, .failed)
        | some none => (d, .none)
        | some (some frame) => (d, .dispatched frame)
  | .ended | .failed => (d, .none)

/-- The client takes one line, once it is whole, or what is left at the end of the stream. -/
def read (d : RxLink) : RxLink × RxLinkOut :=
  if newline ∈ d.wire.arrived ∨ (d.closed ∧ d.wire.sent = []) then
    let (line, rest) := readline d.wire.arrived
    take py { d with wire := { d.wire with arrived := rest } } line
  else (d, .none)

/-- One step of the connection. -/
def step (d : RxLink) : RxLinkEvent → RxLink × RxLinkOut
  | .subscribe => d.subscribe py
  | .publish frame => d.publish py frame
  | .publishFails frame count => d.publishFails py frame count
  | .leave => d.leave
  | .carry count => ({ d with wire := d.wire.carry count }, .none)
  | .read => d.read py

end RxLink

/-- A run of the connection. -/
def rxLinkRun (events : List RxLinkEvent) : List (Entry RxLink RxLinkEvent RxLinkOut) :=
  trace (RxLink.step py) {} events

/-- The frame a step published. -/
def RxLinkOut.published? : RxLinkOut → Option CANFrame
  | .published frame => some frame
  | _ => Option.none

/-- The frame whose write a step cut short. -/
def RxLinkOut.cut? : RxLinkOut → Option CANFrame
  | .cut frame => some frame
  | _ => Option.none

/-- The frame a step dispatched. -/
def RxLinkOut.dispatched? : RxLinkOut → Option CANFrame
  | .dispatched frame => some frame
  | _ => Option.none

/-- The frames published to the connection. -/
def linkPublished (tr : List (Entry RxLink RxLinkEvent RxLinkOut)) : List CANFrame :=
  tr.filterMap (·.out.published?)

/-- The frames whose write to the connection was cut short. -/
def linkCut (tr : List (Entry RxLink RxLinkEvent RxLinkOut)) : List CANFrame :=
  tr.filterMap (·.out.cut?)

/-- The frames its client dispatched. -/
def linkDispatched (tr : List (Entry RxLink RxLinkEvent RxLinkOut)) : List CANFrame :=
  tr.filterMap (·.out.dispatched?)

theorem linkPublished_concat (tr : List (Entry RxLink RxLinkEvent RxLinkOut))
    (e : Entry RxLink RxLinkEvent RxLinkOut) :
    linkPublished (tr ++ [e]) = linkPublished tr ++ e.out.published?.toList :=
  filterMap_concat _ tr e

theorem linkCut_concat (tr : List (Entry RxLink RxLinkEvent RxLinkOut))
    (e : Entry RxLink RxLinkEvent RxLinkOut) :
    linkCut (tr ++ [e]) = linkCut tr ++ e.out.cut?.toList :=
  filterMap_concat _ tr e

theorem linkDispatched_concat (tr : List (Entry RxLink RxLinkEvent RxLinkOut))
    (e : Entry RxLink RxLinkEvent RxLinkOut) :
    linkDispatched (tr ++ [e]) = linkDispatched tr ++ e.out.dispatched?.toList :=
  filterMap_concat _ tr e

/-! ## What a line does to the client -/

theorem rxRound_of_parseLine {line : List UInt8} {frame : CANFrame}
    (h : parseLine py line = some (rxMessage frame)) : rxRound py line = some (some frame) := by
  have htype := hasText_rxMessage (F := F) frame
  have hframe := frameOf_rxMessage py frame
  unfold rxMessage at h htype hframe
  simp [rxRound, h, htype, hframe]

theorem rxRound_rxMessage (frame : CANFrame) :
    rxRound py (writeJsonLine py (rxMessage frame)) = some (some frame) :=
  rxRound_of_parseLine py (parseLine_writeJsonLine py (plain_rxMessage frame))

theorem connectRole_helloAck :
    connectRole "rx" ⟨true, true, lineOf py (writeJsonLine py helloAckMessage)⟩ = .ok () := by
  have hparse := parseLine_writeJsonLine py (plain_helloAckMessage (F := F))
  have hline : lineOf py (writeJsonLine py helloAckMessage) =
      .object { type := some "hello_ack", ok := true, error := none } := by
    rw [lineOf, if_neg (writeJsonLine_ne_nil py _), hparse]
    simp [helloAckMessage, messageOf, Value.get?, member, text, truthy, textString_ofString]
  rw [hline]
  rfl

/-! ## What a line that was cut does -/

theorem hexText_lt {data : List UInt8} : ∀ p ∈ hexText data, p.val < 125 := by
  have hdigit : ∀ d < 16, (codePoint (hexDigit d)).val < 125 := by decide
  intro p hp
  obtain ⟨b, -, hp⟩ := List.mem_flatMap.mp hp
  have hb := b.toNat_lt
  rcases List.mem_pair.mp hp with rfl | rfl
  · exact hdigit _ (by omega)
  · exact hdigit _ (by omega)

/-- The only closing brace of a line is the last character of its document. -/
theorem dumps_rxMessage (frame : CANFrame) : ∃ inner : List Char,
    dumps py.repr (rxMessage frame) = '{' :: (inner ++ ['}']) ∧ '}' ∉ inner := by
  have hconst : ∀ s : String, (∀ c ∈ s.toList, c.toNat < 125) →
      '}' ∉ dumpString (Text.ofString s) := by
    intro s hs
    refine brace_notMem_dumpString fun p hp => ?_
    obtain ⟨c, hc, rfl⟩ := List.mem_map.mp hp
    rw [val_codePoint]
    exact hs c hc
  have htype := hconst "type" (by simp)
  have hrx := hconst "rx" (by simp)
  have hid := hconst "can_id" (by simp)
  have hdata := hconst "data" (by simp)
  refine ⟨dumpString (Text.ofString "type") ++ ':' :: (dumpString (Text.ofString "rx") ++
    ',' :: (dumpString (Text.ofString "can_id") ++ ':' :: (intText frame.canId ++
    ',' :: (dumpString (Text.ofString "data") ++ ':' :: dumpString (hexText frame.data))))), ?_, ?_⟩
  · simp only [rxMessage, member, text, dumps, dumpMembers, List.append_assoc, List.cons_append]
  · simp [htype, hrx, hid, hdata, brace_notMem_intText, brace_notMem_dumpString hexText_lt]

/-- What is left of a line whose write was cut: some first characters of its document. -/
theorem cutLine_eq (frame : CANFrame) (count : ℕ) :
    cutLine py frame count = encodeUtf8 ((dumps py.repr (rxMessage frame)).take count) := by
  rw [cutLine, writeJsonLine, List.dropLast_concat,
    encodeUtf8_take (printable_dumps py.repr _ (plain_rxMessage frame))]

theorem newline_notMem_cutLine (frame : CANFrame) (count : ℕ) : newline ∉ cutLine py frame count := by
  intro hmem
  rw [cutLine, writeJsonLine, List.dropLast_concat] at hmem
  exact newline_notMem_dumps py (plain_rxMessage frame) (List.mem_of_mem_take hmem)

/-- **A line that was cut** is nothing, or no document, or it lacks its newline alone. -/
theorem rxRound_cutLine (frame : CANFrame) (count : ℕ) :
    cutLine py frame count = [] ∨ rxRound py (cutLine py frame count) = none ∨
      rxRound py (cutLine py frame count) = some (some frame) := by
  obtain ⟨inner, hdump, hinner⟩ := dumps_rxMessage py frame
  have hparse : parseLine py (cutLine py frame count) =
      loads py.readFloat ((dumps py.repr (rxMessage frame)).take count) := by
    rw [parseLine, cutLine_eq, decodeUtf8_encodeUtf8, Option.bind_some]
  cases count with
  | zero => exact Or.inl rfl
  | succ count =>
      rcases Nat.lt_or_ge inner.length count with hwhole | hshort
      · -- the document is whole
        refine Or.inr (Or.inr (rxRound_of_parseLine py ?_))
        have hdoc : loads py.readFloat (dumps py.repr (rxMessage frame) ++ []) =
            some (rxMessage frame) :=
          loads_dumps py.repr py.readFloat (plain_rxMessage frame)
            fun _ h => absurd h List.not_mem_nil
        rw [hparse, List.take_of_length_le, ← List.append_nil (dumps _ _), hdoc]
        rw [hdump, List.length_cons, List.length_append, List.length_singleton]
        omega
      · -- its closing brace is missing
        refine Or.inr (Or.inl ?_)
        rw [hdump, List.take_succ_cons, List.take_append_of_le_length hshort] at hparse
        cases hloads : loads py.readFloat ('{' :: inner.take count) with
        | none => rw [rxRound, hparse, hloads]
        | some v => exact absurd (List.mem_of_mem_take (brace_mem_of_loads hloads)) hinner

/-! ## The stream is read exactly -/

/-- The lines written to a connection. -/
def writtenLines (acknowledged : Bool) (published : List CANFrame) : List StreamLine :=
  if acknowledged then .helloAck :: published.map .rx else []

/-- Where the client stands after a number of lines. -/
def clientAfter : ℕ → RxClient
  | 0 => .readingAck
  | _ + 1 => .running

/-- The bytes behind the last whole line: none, or those of the line that was cut. -/
inductive CutTail : List CANFrame → List UInt8 → Prop
  | whole : CutTail [] []
  | cut (frame : CANFrame) (count : ℕ) : CutTail [frame] (cutLine py frame count)

/-- How far the client is, by the frames published, cut and dispatched so far: some of the whole lines
are taken and the bytes of the others and of a cut line are on the wire, or the connection is closed
and nothing is left on it. -/
inductive Stage (published cut dispatched : List CANFrame) (d : RxLink) : Prop
  | reading (n : ℕ) (tail : List UInt8)
      (taken : n ≤ (writtenLines d.acknowledged published).length) (client : d.client = clientAfter n)
      (bytes : d.wire.bytes = streamBytes py ((writtenLines d.acknowledged published).drop n) ++ tail)
      (behind : CutTail py cut tail)
      (frames : dispatched = rxFrames ((writtenLines d.acknowledged published).take n))
  | drained (closed : d.closed = true) (client : d.client ≠ .readingAck) (bytes : d.wire.bytes = [])
      (frames : dispatched = published ∨ dispatched = published ++ cut)
      (failed : d.client = .failed → cut ≠ [])

/-- Everything that happened to the connection so far. -/
structure Reads (tr : List (Entry RxLink RxLinkEvent RxLinkOut)) (d : RxLink) : Prop where
  stage : Stage py (linkPublished tr) (linkCut tr) (linkDispatched tr) d
  current : d.subscribed = true → d.acknowledged = true ∧ d.closed = false ∧ linkCut tr = []
  silent : d.acknowledged = false → linkPublished tr = [] ∧ linkCut tr = []
  once : (linkCut tr).length ≤ 1
  alive : linkCut tr = [] → ∀ e ∈ tr, e.out ≠ .failed

theorem reads_start : Reads py [] {} :=
  ⟨.reading 0 [] (Nat.zero_le _) rfl rfl .whole rfl, nofun, fun _ => ⟨rfl, rfl⟩, Nat.zero_le _,
    fun _ _ h => absurd h List.not_mem_nil⟩

theorem streamBytes_append (l r : List StreamLine) :
    streamBytes py (l ++ r) = streamBytes py l ++ streamBytes py r := List.flatMap_append

theorem streamBytes_cons (line : StreamLine) (rest : List StreamLine) :
    streamBytes py (line :: rest) = writeJsonLine py line.message ++ streamBytes py rest := rfl

theorem CutTail.newline_notMem {cut : List CANFrame} {tail : List UInt8} (h : CutTail py cut tail) :
    newline ∉ tail := by
  cases h with
  | whole => exact List.not_mem_nil
  | cut frame count => exact newline_notMem_cutLine py frame count

/-- If a newline has arrived, the first line is there. -/
theorem arrived_first_line {w : Wire} {lines : List StreamLine} {tail : List UInt8}
    (h : w.bytes = streamBytes py lines ++ tail) (htail : newline ∉ tail)
    (hmem : newline ∈ w.arrived) :
    ∃ line rest left, lines = line :: rest ∧ w.arrived = writeJsonLine py line.message ++ left ∧
      left ++ w.sent = streamBytes py rest ++ tail := by
  cases lines with
  | nil =>
      refine absurd ?_ htail
      rw [show tail = w.arrived ++ w.sent from h.symm]
      exact List.mem_append_left _ hmem
  | cons line rest =>
      rw [Wire.bytes, streamBytes_cons, List.append_assoc] at h
      rcases List.append_eq_append_iff.mp h with ⟨missing, hline, hsent⟩ | ⟨left, harrived, hrest⟩
      · -- a newline that arrived is the last byte of the line
        obtain ⟨harrived, hmissing⟩ := Wire.arrived_of_newline py
          (w := { sent := missing, arrived := w.arrived }) line.plain_message hline.symm hmem
        rw [show missing = [] from hmissing, List.nil_append] at hsent
        exact ⟨line, rest, [], rfl, by rw [List.append_nil]; exact harrived, hsent⟩
      · exact ⟨line, rest, left, rfl, harrived, hrest.symm⟩

/-- If none has arrived and nothing is to come, only the bytes behind the whole lines are left. -/
theorem arrived_no_line {w : Wire} {lines : List StreamLine} {tail : List UInt8}
    (h : w.bytes = streamBytes py lines ++ tail) (hsent : w.sent = [])
    (hmem : newline ∉ w.arrived) : lines = [] ∧ w.arrived = tail := by
  have harrived : w.arrived = streamBytes py lines ++ tail := by
    rw [← h, Wire.bytes, hsent, List.append_nil]
  cases lines with
  | nil => exact ⟨rfl, harrived⟩
  | cons line rest =>
      refine absurd ?_ hmem
      rw [harrived, streamBytes_cons]
      exact List.mem_append_left _ (List.mem_append_left _ (newline_mem_writeJsonLine py _))

theorem readline_of_notMem {bytes : List UInt8} (h : newline ∉ bytes) :
    readline bytes = (bytes, []) := by
  induction bytes with
  | nil => rfl
  | cons b bytes ih =>
      have hb : b ≠ newline := fun hb => h (hb ▸ List.mem_cons_self)
      rw [readline, if_neg hb, ih fun hmem => h (List.mem_cons_of_mem _ hmem)]

theorem RxLink.read_eq_take {d : RxLink} {line : StreamLine} {left : List UInt8}
    (harrived : d.wire.arrived = writeJsonLine py line.message ++ left) :
    d.read py = take py { d with wire := { d.wire with arrived := left } }
      (writeJsonLine py line.message) := by
  have hmem : newline ∈ d.wire.arrived := by
    rw [harrived]
    exact List.mem_append_left _ (newline_mem_writeJsonLine py _)
  rw [RxLink.read, if_pos (Or.inl hmem)]
  simp only [harrived, readline_writeJsonLine py line.plain_message]

/-- At the end of the stream the client takes what is left. -/
theorem RxLink.read_at_end {d : RxLink} (hclosed : d.closed = true) (hsent : d.wire.sent = [])
    (hmem : newline ∉ d.wire.arrived) : d.read py = take py { d with wire := {} } d.wire.arrived := by
  rw [RxLink.read, if_pos (Or.inr ⟨hclosed, hsent⟩)]
  simp only [readline_of_notMem hmem, hsent]

theorem RxLink.take_helloAck {d : RxLink} (hclient : d.client = .readingAck) :
    d.take py (writeJsonLine py StreamLine.helloAck.message) =
      ({ d with client := .running }, .connected) := by
  simp only [RxLink.take, hclient, StreamLine.message, connectRole_helloAck]

theorem RxLink.take_rx {d : RxLink} {frame : CANFrame} (hclient : d.client = .running) :
    d.take py (writeJsonLine py (StreamLine.rx frame).message) = (d, .dispatched frame) := by
  simp only [RxLink.take, hclient, StreamLine.message, if_neg (writeJsonLine_ne_nil py _),
    rxRound_rxMessage]

/-- The end of the stream ends the client's thread, and no other way than by an `OSError`. -/
theorem RxLink.take_nil (d : RxLink) :
    (d.client = .readingAck ∨ d.client = .running) ∧
        d.take py [] = ({ d with client := .ended }, .ended) ∨
      (d.client = .ended ∨ d.client = .failed) ∧ d.take py [] = (d, .none) := by
  unfold RxLink.take
  cases hclient : d.client with
  | readingAck => exact Or.inl ⟨Or.inl rfl, rfl⟩
  | running => exact Or.inl ⟨Or.inr rfl, rfl⟩
  | ended => exact Or.inr ⟨Or.inl rfl, rfl⟩
  | failed => exact Or.inr ⟨Or.inr rfl, rfl⟩

/-- Whatever the client makes of a line, the stream and the daemon's side stay as they are. -/
structure RxLink.Untouched (d : RxLink) (r : RxLink × RxLinkOut) : Prop where
  acknowledged : r.1.acknowledged = d.acknowledged
  subscribed : r.1.subscribed = d.subscribed
  closed : r.1.closed = d.closed
  wire : r.1.wire = d.wire
  published : r.2.published? = none
  cut : r.2.cut? = none

theorem RxLink.take_untouched (d : RxLink) (line : List UInt8) : d.Untouched (d.take py line) := by
  unfold RxLink.take
  split
  · split <;> exact ⟨rfl, rfl, rfl, rfl, rfl, rfl⟩
  · split
    · exact ⟨rfl, rfl, rfl, rfl, rfl, rfl⟩
    · split <;> exact ⟨rfl, rfl, rfl, rfl, rfl, rfl⟩
  · exact ⟨rfl, rfl, rfl, rfl, rfl, rfl⟩
  · exact ⟨rfl, rfl, rfl, rfl, rfl, rfl⟩

/-- A read takes bytes off the stream and nothing else. -/
theorem RxLink.read_untouched (d : RxLink) :
    ∃ w, ({ d with wire := w } : RxLink).Untouched (d.read py) := by
  unfold RxLink.read
  split
  · exact ⟨_, RxLink.take_untouched py _ _⟩
  · exact ⟨d.wire, rfl, rfl, rfl, rfl, rfl, rfl⟩

/-- One more step, from what it shows and the state it leaves. -/
theorem Reads.concat {tr : List (Entry RxLink RxLinkEvent RxLinkOut)} {d d' : RxLink}
    (h : Reads py tr d) {e : Entry RxLink RxLinkEvent RxLinkOut} {out : RxLinkOut} (hout : e.out = out)
    (stage : Stage py (linkPublished tr ++ out.published?.toList) (linkCut tr ++ out.cut?.toList)
      (linkDispatched tr ++ out.dispatched?.toList) d')
    (current : d'.subscribed = true →
      d'.acknowledged = true ∧ d'.closed = false ∧ linkCut tr ++ out.cut?.toList = [])
    (silent : d'.acknowledged = false →
      linkPublished tr ++ out.published?.toList = [] ∧ linkCut tr ++ out.cut?.toList = [])
    (once : (linkCut tr ++ out.cut?.toList).length ≤ 1)
    (alive : linkCut tr ++ out.cut?.toList = [] → out ≠ .failed) : Reads py (tr ++ [e]) d' := by
  subst hout
  refine ⟨?_, ?_, ?_, ?_, ?_⟩
  · rwa [linkPublished_concat, linkCut_concat, linkDispatched_concat]
  · rwa [linkCut_concat]
  · rwa [linkPublished_concat, linkCut_concat]
  · rwa [linkCut_concat]
  · rw [linkCut_concat]
    intro hcut e' he'
    rcases List.mem_append.mp he' with he' | he'
    · exact h.alive (List.append_eq_nil_iff.mp hcut).1 e' he'
    · rw [List.mem_singleton.mp he']
      exact alive hcut

/-- A stage depends on no more of the state than this. -/
theorem Stage.same {P C D : List CANFrame} {d d' : RxLink} (h : Stage py P C D d)
    (hack : d'.acknowledged = d.acknowledged) (hclosed : d.closed = true → d'.closed = true)
    (hclient : d'.client = d.client) (hwire : d'.wire.bytes = d.wire.bytes) : Stage py P C D d' := by
  cases h with
  | reading n tail taken client bytes behind frames =>
      rw [← hack] at taken bytes frames
      exact .reading n tail taken (hclient.trans client) (hwire.trans bytes) behind frames
  | drained closed client bytes frames failed =>
      exact .drained (hclosed closed) (hclient ▸ client) (hwire.trans bytes) frames (hclient ▸ failed)

/-- A step that shows nothing and moves no line. -/
theorem Reads.quiet {tr : List (Entry RxLink RxLinkEvent RxLinkOut)} {d d' : RxLink}
    (h : Reads py tr d) {e : Entry RxLink RxLinkEvent RxLinkOut} (hout : e.out = .none)
    (hack : d'.acknowledged = d.acknowledged)
    (hsub : d'.subscribed = true → d.subscribed = true ∧ d'.closed = d.closed)
    (hclosed : d.closed = true → d'.closed = true) (hclient : d'.client = d.client)
    (hwire : d'.wire.bytes = d.wire.bytes) : Reads py (tr ++ [e]) d' := by
  refine h.concat py hout ?_ ?_ ?_ ?_ (fun _ => nofun)
  · simpa [RxLinkOut.published?, RxLinkOut.cut?, RxLinkOut.dispatched?] using
      h.stage.same py hack hclosed hclient hwire
  · intro hnew
    obtain ⟨hold, hsame⟩ := hsub hnew
    simpa [hack, hsame, RxLinkOut.cut?] using h.current hold
  · simpa [hack, RxLinkOut.published?, RxLinkOut.cut?] using h.silent
  · simpa [RxLinkOut.cut?] using h.once

/-- A step that changes nothing. -/
theorem Reads.idle {tr : List (Entry RxLink RxLinkEvent RxLinkOut)} {d : RxLink} (h : Reads py tr d)
    {ev : RxLinkEvent} (hsame : d.step py ev = (d, .none)) :
    Reads py (tr ++ [entry (RxLink.step py) d ev]) (d.step py ev).1 := by
  rw [hsame]
  exact h.quiet py (by rw [entry_out, hsame]) rfl (fun hsub => ⟨hsub, rfl⟩) id rfl rfl

/-- A subscriber reads lines of an open connection, none of which was cut. -/
theorem Reads.of_subscribed {tr : List (Entry RxLink RxLinkEvent RxLinkOut)} {d : RxLink}
    (h : Reads py tr d) (hopen : d.closed = false) (hcut : linkCut tr = []) :
    ∃ n, n ≤ (writtenLines d.acknowledged (linkPublished tr)).length ∧ d.client = clientAfter n ∧
      d.wire.bytes = streamBytes py ((writtenLines d.acknowledged (linkPublished tr)).drop n) ∧
      linkDispatched tr = rxFrames ((writtenLines d.acknowledged (linkPublished tr)).take n) := by
  cases h.stage with
  | reading n tail taken client bytes behind frames =>
      rw [hcut] at behind
      cases behind
      exact ⟨n, taken, client, bytes.trans (List.append_nil _), frames⟩
  | drained closed client bytes frames failed =>
      rw [hopen] at closed
      cases closed

theorem Reads.subscribe {tr : List (Entry RxLink RxLinkEvent RxLinkOut)} {d : RxLink}
    (h : Reads py tr d) :
    Reads py (tr ++ [entry (RxLink.step py) d .subscribe]) (d.step py .subscribe).1 := by
  cases hguard : d.acknowledged || d.closed with
  | true => exact h.idle py (by simp only [RxLink.step, RxLink.subscribe, hguard, if_true])
  | false =>
      obtain ⟨hack, hopen⟩ := Bool.or_eq_false_iff.mp hguard
      obtain ⟨hnone, hcut⟩ := h.silent hack
      obtain ⟨n, taken, client, bytes, frames⟩ := h.of_subscribed py hopen hcut
      rw [hack, hnone] at taken bytes frames
      obtain rfl : n = 0 := Nat.le_zero.mp taken
      have hstep : d.step py .subscribe =
          ({ d with
              acknowledged := true
              subscribed := true
              wire := d.wire.write (writeJsonLine py helloAckMessage) }, .none) := by
        simp only [RxLink.step, RxLink.subscribe, hguard]
        rfl
      have hbytes : (d.step py .subscribe).1.wire.bytes =
          streamBytes py ((writtenLines true []).drop 0) ++ [] := by
        rw [hstep, Wire.bytes_write, bytes]
        simp [writtenLines, streamBytes, StreamLine.message]
      have hout : (entry (RxLink.step py) d .subscribe).out = .none := by rw [entry_out, hstep]
      refine h.concat py hout ?_ ?_ ?_ ?_ (fun _ => nofun)
      · rw [hcut, hnone, frames]
        refine .reading 0 [] (Nat.zero_le _) ?_ ?_ .whole rfl
        · rw [hstep]
          exact client
        · rw [hbytes, hstep]
          rfl
      · intro _
        rw [hcut, hstep]
        exact ⟨rfl, hopen, rfl⟩
      · intro _
        rw [hcut, hnone]
        exact ⟨rfl, rfl⟩
      · rw [hcut]
        exact Nat.zero_le _

theorem Reads.publish {tr : List (Entry RxLink RxLinkEvent RxLinkOut)} {d : RxLink}
    (h : Reads py tr d) (frame : CANFrame) :
    Reads py (tr ++ [entry (RxLink.step py) d (.publish frame)]) (d.step py (.publish frame)).1 := by
  cases hsub : d.subscribed with
  | false => exact h.idle py (by simp only [RxLink.step, RxLink.publish, hsub]; rfl)
  | true =>
      obtain ⟨hack, hopen, hcut⟩ := h.current hsub
      obtain ⟨n, taken, client, bytes, frames⟩ := h.of_subscribed py hopen hcut
      have hstep : d.step py (.publish frame) =
          ({ d with wire := d.wire.write (writeJsonLine py (rxMessage frame)) },
            .published frame) := by
        simp only [RxLink.step, RxLink.publish, hsub, if_true]
      have hlines : writtenLines d.acknowledged (linkPublished tr ++ [frame]) =
          writtenLines d.acknowledged (linkPublished tr) ++ [.rx frame] := by
        simp [writtenLines, hack]
      have hout : (entry (RxLink.step py) d (.publish frame)).out = .published frame := by
        rw [entry_out, hstep]
      refine h.concat py hout ?_ ?_ ?_ ?_ (fun _ => nofun)
      · rw [hstep, hcut]
        refine .reading n [] ?_ client ?_ .whole ?_
        · show n ≤ (writtenLines d.acknowledged (linkPublished tr ++ [frame])).length
          rw [hlines, List.length_append]
          omega
        · show (d.wire.write _).bytes =
            streamBytes py ((writtenLines d.acknowledged (linkPublished tr ++ [frame])).drop n) ++ []
          rw [hlines, List.drop_append_of_le_length taken, streamBytes_append, Wire.bytes_write, bytes]
          simp [streamBytes, StreamLine.message]
        · show linkDispatched tr ++ [] =
            rxFrames ((writtenLines d.acknowledged (linkPublished tr ++ [frame])).take n)
          rw [hlines, List.take_append_of_le_length taken, List.append_nil, frames]
      · intro _
        rw [hcut, hstep]
        exact ⟨hack, hopen, rfl⟩
      · intro hnot
        rw [hstep] at hnot
        exact absurd (hack.symm.trans hnot) (by decide)
      · rw [hcut]
        exact Nat.zero_le _

/-- The write that fails: a line without its end, and none after it. -/
theorem Reads.publishFails {tr : List (Entry RxLink RxLinkEvent RxLinkOut)} {d : RxLink}
    (h : Reads py tr d) (frame : CANFrame) (count : ℕ) :
    Reads py (tr ++ [entry (RxLink.step py) d (.publishFails frame count)])
      (d.step py (.publishFails frame count)).1 := by
  cases hsub : d.subscribed with
  | false => exact h.idle py (by simp only [RxLink.step, RxLink.publishFails, hsub]; rfl)
  | true =>
      obtain ⟨hack, hopen, hcut⟩ := h.current hsub
      obtain ⟨n, taken, client, bytes, frames⟩ := h.of_subscribed py hopen hcut
      have hstep : d.step py (.publishFails frame count) =
          ({ d with subscribed := false, wire := d.wire.write (cutLine py frame count) },
            .cut frame) := by
        simp only [RxLink.step, RxLink.publishFails, hsub, if_true]
      have hout : (entry (RxLink.step py) d (.publishFails frame count)).out = .cut frame := by
        rw [entry_out, hstep]
      refine h.concat py hout ?_ ?_ ?_ ?_ (fun _ => nofun)
      · rw [hstep, hcut]
        refine .reading n (cutLine py frame count) ?_ client ?_ (.cut frame count) ?_
        · rwa [show (RxLinkOut.cut frame).published?.toList = [] from rfl, List.append_nil]
        · rw [show (RxLinkOut.cut frame).published?.toList = [] from rfl, List.append_nil,
            Wire.bytes_write, bytes]
        · rwa [show (RxLinkOut.cut frame).published?.toList = [] from rfl, List.append_nil,
            show (RxLinkOut.cut frame).dispatched?.toList = [] from rfl, List.append_nil]
      · intro hstill
        rw [hstep] at hstill
        cases hstill
      · intro hnot
        rw [hstep] at hnot
        exact absurd (hack.symm.trans hnot) (by decide)
      · rw [hcut]
        exact le_rfl

/-- The line at a place of the stream: the acknowledgement first, then frames. -/
theorem written_line {acknowledged : Bool} {published : List CANFrame} {n : ℕ} {line : StreamLine}
    (h : (writtenLines acknowledged published)[n]? = some line) :
    n = 0 ∧ line = .helloAck ∨ 0 < n ∧ ∃ frame, line = .rx frame := by
  cases acknowledged with
  | false => exact absurd h (by simp [writtenLines])
  | true =>
      cases n with
      | zero => exact Or.inl ⟨rfl, (Option.some.inj h).symm⟩
      | succ n =>
          have hmap : (published.map StreamLine.rx)[n]? = some line := h
          rw [List.getElem?_map, Option.map_eq_some_iff] at hmap
          obtain ⟨frame, -, hframe⟩ := hmap
          exact Or.inr ⟨Nat.succ_pos n, frame, hframe.symm⟩

theorem rxFrames_map_rx (published : List CANFrame) :
    rxFrames (published.map StreamLine.rx) = published := by
  induction published with
  | nil => rfl
  | cons frame published ih => rw [List.map_cons, rxFrames_rx, ih]

/-- The frames of all lines are those published, if nothing is published before the acknowledgement. -/
theorem rxFrames_writtenLines {acknowledged : Bool} {published : List CANFrame}
    (h : acknowledged = false → published = []) :
    rxFrames (writtenLines acknowledged published) = published := by
  cases acknowledged with
  | false => exact (h rfl).symm
  | true => exact rxFrames_map_rx published

theorem clientAfter_of_pos {n : ℕ} (h : 0 < n) : clientAfter n = .running := by
  cases n with
  | zero => exact absurd h (Nat.lt_irrefl 0)
  | succ n => rfl

theorem clientAfter_alive (n : ℕ) : clientAfter n ≠ .ended ∧ clientAfter n ≠ .failed := by
  cases n with
  | zero => exact ⟨nofun, nofun⟩
  | succ n => exact ⟨nofun, nofun⟩

/-- What the client does at the end of the stream, with nothing left on it. -/
theorem Stage.end_of_stream {P C D : List CANFrame} {d : RxLink} (hclosed : d.closed = true)
    (hwire : d.wire.bytes = []) (hframes : D = P ∨ D = P ++ C)
    (hfailed : d.client = .failed → C ≠ []) :
    Stage py P C (D ++ (d.take py []).2.dispatched?.toList) (d.take py []).1 ∧
      (C = [] → (d.take py []).2 ≠ .failed) := by
  rcases RxLink.take_nil py d with ⟨-, htake⟩ | ⟨hclient, htake⟩
  · rw [htake]
    exact ⟨.drained hclosed nofun hwire (by simpa [RxLinkOut.dispatched?] using hframes) nofun,
      fun _ => nofun⟩
  · rw [htake]
    refine ⟨.drained hclosed ?_ hwire (by simpa [RxLinkOut.dispatched?] using hframes) hfailed,
      fun _ => nofun⟩
    rcases hclient with h | h
    · rw [h]
      exact nofun
    · rw [h]
      exact nofun

/-- The client takes the next whole line. -/
theorem Stage.read_line {P C D : List CANFrame} {d : RxLink} {n : ℕ} {tail : List UInt8}
    (hclient : d.client = clientAfter n)
    (hbytes : d.wire.bytes = streamBytes py ((writtenLines d.acknowledged P).drop n) ++ tail)
    (htail : CutTail py C tail) (hframes : D = rxFrames ((writtenLines d.acknowledged P).take n))
    (hmem : newline ∈ d.wire.arrived) :
    Stage py P C (D ++ (d.read py).2.dispatched?.toList) (d.read py).1 ∧ (d.read py).2 ≠ .failed := by
  obtain ⟨line, rest, left, hdrop, harrived, hleft⟩ :=
    arrived_first_line py hbytes (htail.newline_notMem py) hmem
  have hline : (writtenLines d.acknowledged P)[n]? = some line := by
    rw [← List.head?_drop, hdrop]
    rfl
  have hrest : (writtenLines d.acknowledged P).drop (n + 1) = rest := by
    rw [← List.tail_drop, hdrop]
    rfl
  have htake : (writtenLines d.acknowledged P).take (n + 1) =
      (writtenLines d.acknowledged P).take n ++ [line] := by
    rw [List.take_add_one, hline]
    rfl
  have hlt := (List.getElem?_eq_some_iff.mp hline).1
  rcases written_line hline with ⟨rfl, rfl⟩ | ⟨hpos, frame, rfl⟩
  · have hread : d.read py = _ :=
      (RxLink.read_eq_take py harrived).trans (RxLink.take_helloAck py hclient)
    rw [hread]
    refine ⟨.reading 1 tail hlt rfl ?_ htail ?_, nofun⟩
    · exact hleft.trans (by rw [hrest])
    · rw [htake, rxFrames_append, hframes]
      rfl
  · rw [clientAfter_of_pos hpos] at hclient
    have hread : d.read py = _ := (RxLink.read_eq_take py harrived).trans (RxLink.take_rx py hclient)
    rw [hread]
    refine ⟨.reading (n + 1) tail hlt hclient ?_ htail ?_, nofun⟩
    · exact hleft.trans (by rw [hrest])
    · rw [htake, rxFrames_append, hframes]
      rfl

/-- The client reads to the end of a closed connection: nothing is left, or a line that was cut. -/
theorem Stage.read_end {P C D : List CANFrame} {d : RxLink} {n : ℕ} {tail : List UInt8}
    (hsilent : d.acknowledged = false → P = [] ∧ C = []) (hclient : d.client = clientAfter n)
    (hbytes : d.wire.bytes = streamBytes py ((writtenLines d.acknowledged P).drop n) ++ tail)
    (htail : CutTail py C tail) (hframes : D = rxFrames ((writtenLines d.acknowledged P).take n))
    (hclosed : d.closed = true) (hsent : d.wire.sent = []) (hmem : newline ∉ d.wire.arrived) :
    Stage py P C (D ++ (d.read py).2.dispatched?.toList) (d.read py).1 ∧
      (C = [] → (d.read py).2 ≠ .failed) := by
  obtain ⟨hdrop, harrived⟩ := arrived_no_line py hbytes hsent hmem
  have hall : D = P := by
    rw [hframes, List.take_of_length_le (List.drop_eq_nil_iff.mp hdrop)]
    exact rxFrames_writtenLines fun hack => (hsilent hack).1
  have halive : d.client ≠ .failed := hclient ▸ (clientAfter_alive n).2
  have hover := Stage.end_of_stream py (d := { d with wire := {} }) hclosed rfl (Or.inl hall)
    (C := C) fun hfailed => absurd hfailed halive
  rw [RxLink.read_at_end py hclosed hsent hmem, harrived]
  cases htail with
  | whole => exact hover
  | cut frame count =>
      by_cases hnil : cutLine py frame count = []
      · rwa [hnil]
      have hpos : 0 < n := by
        cases hack : d.acknowledged with
        | false => exact absurd (hsilent hack).2 (List.cons_ne_nil _ _)
        | true =>
            have hlen := List.drop_eq_nil_iff.mp hdrop
            rw [hack, writtenLines, if_pos rfl, List.length_cons] at hlen
            omega
      rw [clientAfter_of_pos hpos] at hclient
      have hround : ({ d with wire := {} } : RxLink).take py (cutLine py frame count) =
          match rxRound py (cutLine py frame count) with
          | none => ({ d with wire := {}, client := .failed }, .failed)
          | some none => ({ d with wire := {} }, .none)
          | some (some frame) => ({ d with wire := {} }, .dispatched frame) := by
        simp only [RxLink.take, hclient, if_neg hnil]
      rcases (rxRound_cutLine py frame count).resolve_left hnil with hnone | hsome
      · rw [hround, hnone]
        refine ⟨.drained hclosed nofun rfl (Or.inl ?_) fun _ => List.cons_ne_nil _ _,
          fun h => absurd h (List.cons_ne_nil _ _)⟩
        exact (List.append_nil _).trans hall
      · rw [hround, hsome]
        refine ⟨.drained hclosed ?_ rfl (Or.inr (congrArg (· ++ [frame]) hall)) ?_, fun _ => nofun⟩
        · rw [show ({ d with wire := {} } : RxLink).client = .running from hclient]
          exact nofun
        · exact fun hfailed => absurd hfailed halive

/-- **One step of the client.** -/
theorem Stage.read {P C D : List CANFrame} {d : RxLink} (h : Stage py P C D d)
    (hsilent : d.acknowledged = false → P = [] ∧ C = []) :
    Stage py P C (D ++ (d.read py).2.dispatched?.toList) (d.read py).1 ∧
      (C = [] → (d.read py).2 ≠ .failed) := by
  by_cases hready : newline ∈ d.wire.arrived ∨ (d.closed ∧ d.wire.sent = [])
  · cases h with
    | reading n tail taken client bytes behind frames =>
        by_cases hmem : newline ∈ d.wire.arrived
        · obtain ⟨hstage, halive⟩ := Stage.read_line py client bytes behind frames hmem
          exact ⟨hstage, fun _ => halive⟩
        · obtain ⟨hclosed, hsent⟩ := hready.resolve_left hmem
          exact Stage.read_end py hsilent client bytes behind frames hclosed hsent hmem
    | drained closed client bytes frames failed =>
        obtain ⟨harrived, hsent⟩ := List.append_eq_nil_iff.mp bytes
        rw [RxLink.read_at_end py closed hsent (by simp [harrived]), harrived]
        exact Stage.end_of_stream py closed rfl frames failed
  · have hsame : d.read py = (d, .none) := by
      rw [RxLink.read, if_neg hready]
    rw [hsame]
    exact ⟨by simpa [RxLinkOut.dispatched?] using h, fun _ => nofun⟩

theorem Reads.read {tr : List (Entry RxLink RxLinkEvent RxLinkOut)} {d : RxLink}
    (h : Reads py tr d) :
    Reads py (tr ++ [entry (RxLink.step py) d .read]) (d.step py .read).1 := by
  obtain ⟨hstage, halive⟩ := h.stage.read py h.silent
  obtain ⟨w, hsame⟩ := RxLink.read_untouched py d
  have hout : (entry (RxLink.step py) d .read).out = (d.read py).2 := rfl
  have hcut : linkCut tr ++ (d.read py).2.cut?.toList = linkCut tr := by
    rw [hsame.cut]
    exact List.append_nil _
  have hpublished : linkPublished tr ++ (d.read py).2.published?.toList = linkPublished tr := by
    rw [hsame.published]
    exact List.append_nil _
  refine h.concat py hout ?_ ?_ ?_ ?_ ?_
  · rw [hcut, hpublished]
    exact hstage
  · rw [hcut]
    intro hsub
    obtain ⟨hack, hopen, hnone⟩ := h.current (hsame.subscribed.symm.trans hsub)
    exact ⟨hsame.acknowledged.trans hack, hsame.closed.trans hopen, hnone⟩
  · rw [hcut, hpublished]
    exact fun hack => h.silent (hsame.acknowledged.symm.trans hack)
  · rw [hcut]
    exact h.once
  · rw [hcut]
    exact halive

theorem Reads.step {tr : List (Entry RxLink RxLinkEvent RxLinkOut)} {d : RxLink} (h : Reads py tr d)
    (ev : RxLinkEvent) : Reads py (tr ++ [entry (RxLink.step py) d ev]) (d.step py ev).1 := by
  cases ev with
  | subscribe => exact h.subscribe py
  | publish frame => exact h.publish py frame
  | publishFails frame count => exact h.publishFails py frame count
  | leave => exact h.quiet py rfl rfl nofun (fun _ => rfl) rfl rfl
  | carry count =>
      exact h.quiet py rfl rfl (fun hsub => ⟨hsub, rfl⟩) id rfl (Wire.bytes_carry d.wire count)
  | read => exact h.read py

theorem reads_run (events : List RxLinkEvent) :
    Reads py (rxLinkRun py events) (final (RxLink.step py) {} events) :=
  trace_history_all (RxLink.step py) (reads_start py) (fun _ _ ev h => h.step py ev) events

/-! ## The client catches up -/

/-- Once all bytes are there, one read for each whole line leaves what is behind them. -/
theorem RxLink.final_reads (lines : List StreamLine) (tail : List UInt8) : ∀ {d : RxLink},
    d.wire = { sent := [], arrived := streamBytes py lines ++ tail } →
    (final (RxLink.step py) d (List.replicate lines.length .read)).wire =
      { sent := [], arrived := tail } := by
  induction lines with
  | nil => exact fun h => h
  | cons line rest ih =>
      intro d h
      have harrived : d.wire.arrived =
          writeJsonLine py line.message ++ (streamBytes py rest ++ tail) := by
        rw [h, streamBytes_cons, List.append_assoc]
      have hwire : (d.read py).1.wire = { sent := [], arrived := streamBytes py rest ++ tail } := by
        rw [RxLink.read_eq_take py harrived, (RxLink.take_untouched py _ _).wire, h]
      exact ih hwire

theorem streamBytes_eq_nil {lines : List StreamLine} (h : newline ∉ streamBytes py lines) :
    lines = [] := by
  cases lines with
  | nil => rfl
  | cons line rest =>
      exact absurd (List.mem_append_left _ (newline_mem_writeJsonLine py _)) h

/-- Arrivals and reads publish nothing and cut nothing. -/
theorem linkRun_reads (events : List RxLinkEvent) {more : List RxLinkEvent}
    (h : ∀ ev ∈ more, ev = .read ∨ ∃ count, ev = .carry count) :
    linkPublished (rxLinkRun py (events ++ more)) = linkPublished (rxLinkRun py events) ∧
      linkCut (rxLinkRun py (events ++ more)) = linkCut (rxLinkRun py events) := by
  have hquiet : ∀ e ∈ trace (RxLink.step py) (final (RxLink.step py) {} events) more,
      e.out.published? = none ∧ e.out.cut? = none := by
    intro e he
    rw [eq_entry_of_mem (RxLink.step py) he]
    rcases h _ (input_mem_of_mem (RxLink.step py) he) with hread | ⟨count, hcarry⟩
    · obtain ⟨w, hsame⟩ := RxLink.read_untouched py e.before
      rw [hread]
      exact ⟨hsame.published, hsame.cut⟩
    · rw [hcarry]
      exact ⟨rfl, rfl⟩
  rw [rxLinkRun, trace_append, linkPublished, linkCut, List.filterMap_append, List.filterMap_append,
    List.filterMap_eq_nil_iff.mpr fun e he => (hquiet e he).1,
    List.filterMap_eq_nil_iff.mpr fun e he => (hquiet e he).2, List.append_nil, List.append_nil]
  exact ⟨rfl, rfl⟩

/-- With nothing but a cut line on the wire, every frame published is dispatched. -/
theorem Reads.dispatched_of_no_line {tr : List (Entry RxLink RxLinkEvent RxLinkOut)} {d : RxLink}
    (h : Reads py tr d) (hmem : newline ∉ d.wire.bytes) :
    linkDispatched tr = linkPublished tr ∨
      linkDispatched tr = linkPublished tr ++ linkCut tr := by
  cases h.stage with
  | reading n tail taken client bytes behind frames =>
      rw [bytes] at hmem
      have hdone := streamBytes_eq_nil py fun hin => hmem (List.mem_append_left _ hin)
      rw [frames, List.take_of_length_le (List.drop_eq_nil_iff.mp hdone)]
      exact Or.inl (rxFrames_writtenLines fun hack => (h.silent hack).1)
  | drained closed client bytes frames failed => exact frames

/-- Some more arrivals and reads leave no whole line on the wire. -/
theorem Reads.drain {tr : List (Entry RxLink RxLinkEvent RxLinkOut)} {d : RxLink}
    (h : Reads py tr d) :
    ∃ more, (∀ ev ∈ more, ev = .read ∨ ∃ count, ev = .carry count) ∧
      newline ∉ (final (RxLink.step py) d more).wire.bytes := by
  cases h.stage with
  | reading n tail taken client bytes behind frames =>
      let lines := (writtenLines d.acknowledged (linkPublished tr)).drop n
      refine ⟨.carry d.wire.sent.length :: List.replicate lines.length .read, fun ev hev => ?_, ?_⟩
      · rcases List.mem_cons.mp hev with rfl | hev
        · exact Or.inr ⟨_, rfl⟩
        · exact Or.inl (List.eq_of_mem_replicate hev)
      · have hcarry : (d.step py (.carry d.wire.sent.length)).1.wire =
            { sent := [], arrived := streamBytes py lines ++ tail } := by
          show d.wire.carry d.wire.sent.length = _
          rw [Wire.carry_all, bytes]
        have hend := RxLink.final_reads py lines tail hcarry
        show newline ∉ Wire.bytes (final (RxLink.step py) _ (List.replicate lines.length .read)).wire
        rw [hend, Wire.bytes, List.append_nil]
        exact behind.newline_notMem py
  | drained closed client bytes frames failed =>
      refine ⟨[], fun ev hev => absurd hev List.not_mem_nil, ?_⟩
      rw [show final (RxLink.step py) d [] = d from rfl, bytes]
      exact List.not_mem_nil

/-- What was dispatched so far is the start of what was published, and of a cut frame behind it. -/
theorem Reads.dispatched_prefix {tr : List (Entry RxLink RxLinkEvent RxLinkOut)} {d : RxLink}
    (h : Reads py tr d) : linkDispatched tr <+: linkPublished tr ++ linkCut tr := by
  cases h.stage with
  | reading n tail taken client bytes behind frames =>
      have hsplit := rxFrames_writtenLines fun hack => (h.silent hack).1
      rw [← List.take_append_drop n (writtenLines _ _), rxFrames_append, ← frames] at hsplit
      exact List.IsPrefix.trans ⟨_, hsplit⟩ (List.prefix_append _ _)
  | drained closed client bytes frames failed =>
      rcases frames with h | h
      · rw [h]
        exact List.prefix_append _ _
      · rw [h]

/-- A client that is out of its loop has read a closed connection to its end. -/
theorem Reads.of_out {tr : List (Entry RxLink RxLinkEvent RxLinkOut)} {d : RxLink} (h : Reads py tr d)
    (hout : d.client = .ended ∨ d.client = .failed) :
    d.closed = true ∧ linkPublished tr <+: linkDispatched tr := by
  cases h.stage with
  | reading n tail taken client bytes behind frames =>
      rw [client] at hout
      rcases hout with hout | hout
      · exact absurd hout (clientAfter_alive n).1
      · exact absurd hout (clientAfter_alive n).2
  | drained closed client bytes frames failed =>
      refine ⟨closed, ?_⟩
      rcases frames with h | h
      · rw [h]
      · rw [h]
        exact List.prefix_append _ _

theorem Reads.not_failed {tr : List (Entry RxLink RxLinkEvent RxLinkOut)} {d : RxLink}
    (h : Reads py tr d) (hcut : linkCut tr = []) : d.client ≠ .failed := by
  cases h.stage with
  | reading n tail taken client bytes behind frames =>
      rw [client]
      exact (clientAfter_alive n).2
  | drained closed client bytes frames failed => exact fun hfailed => failed hfailed hcut

/-- **The receive stream is read exactly.** Over every interleaving of the subscription, the daemon's
writes, whole or cut short, the handler's leaving, the bytes arriving in pieces of any size and the
client's reads: the client dispatches what was published, in order and from the first frame on, and
behind it at most the frame of the one write that failed. Only what is left of that write can end its
thread with an error. The thread is over only once the handler has closed the connection, and every
frame published was dispatched by then; and the client can always catch up. -/
theorem rx_stream_exact (events : List RxLinkEvent) :
    linkDispatched (rxLinkRun py events) <+:
        linkPublished (rxLinkRun py events) ++ linkCut (rxLinkRun py events) ∧
      (linkCut (rxLinkRun py events)).length ≤ 1 ∧
      (linkCut (rxLinkRun py events) = [] →
        (final (RxLink.step py) {} events).client ≠ .failed ∧
          ∀ e ∈ rxLinkRun py events, e.out ≠ .failed) ∧
      ((final (RxLink.step py) {} events).client = .ended ∨
          (final (RxLink.step py) {} events).client = .failed →
        (final (RxLink.step py) {} events).closed = true ∧
          linkPublished (rxLinkRun py events) <+: linkDispatched (rxLinkRun py events)) ∧
      ∃ more, (∀ ev ∈ more, ev = .read ∨ ∃ count, ev = .carry count) ∧
        (linkDispatched (rxLinkRun py (events ++ more)) = linkPublished (rxLinkRun py events) ∨
          linkDispatched (rxLinkRun py (events ++ more)) =
            linkPublished (rxLinkRun py events) ++ linkCut (rxLinkRun py events)) := by
  have h := reads_run py events
  refine ⟨h.dispatched_prefix py, h.once, fun hcut => ⟨h.not_failed py hcut, h.alive hcut⟩,
    h.of_out py, ?_⟩
  obtain ⟨more, hmore, hdrained⟩ := h.drain py
  obtain ⟨hpublished, hcut⟩ := linkRun_reads py events hmore
  refine ⟨more, hmore, ?_⟩
  rw [← hpublished, ← hcut]
  refine (reads_run py (events ++ more)).dispatched_of_no_line py ?_
  rwa [final_append]

end SparqControl.CanDaemon
