/-
# SparqControl.CanDaemon.TxExchange — requests and answers on the transmit connection.

Any number of threads share one client, and with it one connection to the daemon. A `send` writes its
request and reads one line, and it holds `_tx_lock` over both; the daemon's handler reads a line,
submits the frame and writes one line. Nothing on the wire says which request an answer belongs to:
that they never get out of step rests on the lock alone.

The bytes travel in pieces of any size. A reader sees a line only once its newline has arrived. One
event is one step of a thread, of the wire or of the handler, and the handler may hang up at any time.

`Phase` is the invariant: nothing is on the wires, or one request is, or one answer is.
`exchange_in_step` reads from it that the `k`-th answer is returned to the `k`-th request.
-/
import SparqControl.CanDaemon.JsonLines
import SparqControl.Lib.Trace

namespace SparqControl.CanDaemon

open SparqControl.Hal
open SparqControl.Lib.Json
open SparqControl.Lib.Slots
open SparqControl.Lib.Trace

variable {F : Type} (py : Interpreter F)

/-! ## The two ends -/

/-- What `CANDaemon.send` comes to in the handler. -/
inductive SendOutcome where
  | accepted
  | full
  | raised (text : String)
  deriving DecidableEq, Repr

/-- The answer to a frame that was submitted. -/
def SendOutcome.answer : SendOutcome → Value F
  | .accepted => txResult true none
  | .full => txResult false none
  | .raised e => txResult false (some e)

/-- One round of `_handle_tx_client` on the line it read: the frame it submits, if any, and its answer.
A line that is no JSON object ends the handler. -/
def handleTxLine (line : List UInt8) (outcome : SendOutcome) : Option (Option CANFrame × Value F) :=
  match parseLine py line with
  | some (.obj members) =>
      if !hasText (.obj members : Value F) "type" "tx" then
        some (none, txResult false (some "expected tx"))
      else
        match frameOf py (.obj members) with
        | none => some (none, txResult false (some (py.errorText (.obj members))))
        | some frame => some (some frame, outcome.answer)
  | _ => none

/-- The rest of `CANProcessClient.send`, once the line of the answer is there. -/
def sendReply (line : Line) : Except ClientError Unit := do
  let response ← readJsonLine line
  if response.type ≠ some "tx_result" then
    throw (.other (.runtimeError "Unexpected CAN daemon response"))
  if response.ok = false then
    throw (.other (.runtimeError (response.error.getD "CAN daemon TX failed")))

/-- What a `send` whose frame the daemon answered so returns or raises. -/
def SendOutcome.result : SendOutcome → Except ClientError Unit
  | .accepted => .ok ()
  | .full => .error (.other (.runtimeError "CAN daemon TX failed"))
  | .raised e => .error (.other (.runtimeError (if e = "" then "CAN daemon TX failed" else e)))

/-- A `send` that finds the connection closed when it reads. -/
def connectionClosed : Except ClientError Unit := .error (.osError "CAN daemon socket closed")

/-- A `send` that finds it closed when it writes. -/
def brokenPipe : Except ClientError Unit := .error (.osError "Broken pipe")

/-- `sendReply` is what `CANProcessClient.send` does after its request was written. -/
theorem send_eq_sendReply {c : CANProcessClient} (hopen : c.txFile = .opened) {io : TxIo}
    (hwrites : io.writes = true) : c.send io = sendReply io.line := by
  simp [CANProcessClient.send, hopen, hwrites, sendReply]

theorem handleTxLine_txRequest (frame : CANFrame) (outcome : SendOutcome) :
    handleTxLine py (writeJsonLine py (txRequest frame)) outcome =
      some (some frame, outcome.answer) := by
  have hparse := parseLine_writeJsonLine py (plain_txRequest frame)
  have htype := hasText_txRequest (F := F) frame
  have hframe := frameOf_txRequest py frame
  unfold txRequest at hparse htype hframe
  simp [handleTxLine, txRequest, hparse, htype, hframe]

theorem SendOutcome.plain_answer (outcome : SendOutcome) : (outcome.answer : Value F).Plain := by
  cases outcome with
  | accepted => exact plain_txResult _ _
  | full => exact plain_txResult _ _
  | raised e => exact plain_txResult _ _

theorem writeJsonLine_ne_nil (message : Value F) : writeJsonLine py message ≠ [] := by
  simp [writeJsonLine]

theorem lineOf_txResult (ok : Bool) (error : Option String) :
    lineOf py (writeJsonLine py (txResult ok error)) =
      .object { type := some "tx_result", ok := ok, error := error.filter (· ≠ "") } := by
  have hparse := parseLine_writeJsonLine py (plain_txResult ok error)
  have hmessage := messageOf_txResult py ok error
  rw [lineOf, if_neg (writeJsonLine_ne_nil py _), hparse]
  exact congrArg Line.object hmessage

/-- **The answer is read as it was meant.** -/
theorem sendReply_answer (outcome : SendOutcome) :
    sendReply (lineOf py (writeJsonLine py outcome.answer)) = outcome.result := by
  cases outcome with
  | accepted =>
      rw [SendOutcome.answer, lineOf_txResult]
      rfl
  | full =>
      rw [SendOutcome.answer, lineOf_txResult]
      rfl
  | raised e =>
      rw [SendOutcome.answer, lineOf_txResult]
      by_cases he : e = ""
      · subst he
        rfl
      · simp [sendReply, readJsonLine, SendOutcome.result, Option.filter_some, he, bind, Except.bind,
          throw, throwThe, MonadExceptOf.throw]

/-! ## The connection -/

/-- One direction of the connection: bytes on their way, and bytes that have arrived and were not
read. -/
structure Wire where
  sent : List UInt8 := []
  arrived : List UInt8 := []
  deriving DecidableEq

/-- All bytes of a wire in their order. -/
def Wire.bytes (w : Wire) : List UInt8 := w.arrived ++ w.sent

/-- Write to a wire. -/
def Wire.write (w : Wire) (bytes : List UInt8) : Wire := { w with sent := w.sent ++ bytes }

/-- Some of the bytes arrive. -/
def Wire.carry (w : Wire) (count : ℕ) : Wire :=
  { sent := w.sent.drop count, arrived := w.arrived ++ w.sent.take count }

/-- The transmit connection: the thread inside `_tx_lock`, the two wires, and whether the handler is
still there. -/
structure TxLink where
  holder : Option ℕ := none
  up : Wire := {}
  down : Wire := {}
  served : Bool := true
  deriving DecidableEq

/-- One step: a thread takes the lock and writes, or its write fails; bytes arrive; the handler serves a
line; the handler is gone; the thread inside the lock reads its line. -/
inductive LinkEvent where
  | send (thread : ℕ) (frame : CANFrame)
  | sendFails (thread : ℕ) (frame : CANFrame)
  | carryUp (count : ℕ)
  | serve (outcome : SendOutcome)
  | carryDown (count : ℕ)
  | hangUp
  | receive
  deriving DecidableEq

/-- What a step shows. -/
inductive LinkOut where
  | none
  | requested (thread : ℕ) (frame : CANFrame)
  | refused (thread : ℕ) (frame : CANFrame)
  | submitted (frame : CANFrame) (outcome : SendOutcome)
  | returned (thread : ℕ) (result : Except ClientError Unit)

namespace TxLink

/-- `_write_json_line` under the lock. A thread that finds it taken waits. -/
def send (d : TxLink) (thread : ℕ) (frame : CANFrame) : TxLink × LinkOut :=
  match d.holder with
  | some _ => (d, .none)
  | none =>
      ({ d with holder := some thread, up := d.up.write (writeJsonLine py (txRequest frame)) },
        .requested thread frame)

/-- `_write_json_line` where it raises, as it does once the handler has closed its end. The lock is
given back. -/
def sendFails (d : TxLink) (thread : ℕ) (frame : CANFrame) : TxLink × LinkOut :=
  if d.holder = none ∧ d.served = false then (d, .refused thread frame) else (d, .none)

/-- One round of the handler, once a whole line is there. An exception ends it. -/
def serve (d : TxLink) (outcome : SendOutcome) : TxLink × LinkOut :=
  if d.served ∧ newline ∈ d.up.arrived then
    let (line, rest) := readline d.up.arrived
    match handleTxLine py line outcome with
    | none => ({ d with up := { d.up with arrived := rest }, served := false }, .none)
    | some (frame?, answer) =>
        let d := { d with
          up := { d.up with arrived := rest }
          down := d.down.write (writeJsonLine py answer) }
        match frame? with
        | none => (d, .none)
        | some frame => (d, .submitted frame outcome)
  else (d, .none)

/-- `_read_json_line` under the lock: a whole line, or the end of the stream. -/
def receive (d : TxLink) : TxLink × LinkOut :=
  match d.holder with
  | none => (d, .none)
  | some thread =>
      if newline ∈ d.down.arrived ∨ (!d.served ∧ d.down.sent = []) then
        let (line, rest) := readline d.down.arrived
        ({ d with holder := none, down := { d.down with arrived := rest } },
          .returned thread (sendReply (lineOf py line)))
      else (d, .none)

/-- One step of the connection. -/
def step (d : TxLink) : LinkEvent → TxLink × LinkOut
  | .send thread frame => d.send py thread frame
  | .sendFails thread frame => d.sendFails thread frame
  | .carryUp count => ({ d with up := d.up.carry count }, .none)
  | .serve outcome => d.serve py outcome
  | .carryDown count => ({ d with down := d.down.carry count }, .none)
  | .hangUp => ({ d with served := false }, .none)
  | .receive => d.receive py

end TxLink

/-- A run of the connection, from nothing on its wires. -/
def linkRun (events : List LinkEvent) : List (Entry TxLink LinkEvent LinkOut) :=
  trace (TxLink.step py) {} events

/-- The requests of a run. -/
def requests (tr : List (Entry TxLink LinkEvent LinkOut)) : List (ℕ × CANFrame) :=
  tr.filterMap fun e => match e.out with
    | .requested thread frame | .refused thread frame => some (thread, frame)
    | _ => none

/-- The frames submitted to the daemon in a run, with what became of them. -/
def submissions (tr : List (Entry TxLink LinkEvent LinkOut)) : List (CANFrame × SendOutcome) :=
  tr.filterMap fun e => match e.out with
    | .submitted frame outcome => some (frame, outcome)
    | _ => none

/-- The calls that ended in a run, with what they returned or raised. -/
def returns (tr : List (Entry TxLink LinkEvent LinkOut)) : List (ℕ × Except ClientError Unit) :=
  tr.filterMap fun e => match e.out with
    | .returned thread result => some (thread, result)
    | .refused thread _ => some (thread, brokenPipe)
    | _ => none

/-! ## One exchange at a time -/

@[simp] theorem Wire.bytes_carry (w : Wire) (count : ℕ) : (w.carry count).bytes = w.bytes := by
  simp [Wire.bytes, Wire.carry]

@[simp] theorem Wire.bytes_write (w : Wire) (bytes : List UInt8) :
    (w.write bytes).bytes = w.bytes ++ bytes := by
  simp [Wire.bytes, Wire.write]

/-- A wire whose bytes are one line has nothing on its way once the newline has arrived. -/
theorem Wire.arrived_of_newline {w : Wire} {message : Value F} (hplain : message.Plain)
    (h : w.bytes = writeJsonLine py message) (hmem : newline ∈ w.arrived) :
    w.arrived = writeJsonLine py message ∧ w.sent = [] := by
  have hempty : w.sent = [] := by
    by_contra hne
    -- otherwise what arrived is part of the document, which has no newline
    obtain ⟨front, last, hlast⟩ := (List.eq_nil_or_concat' w.sent).resolve_left hne
    rw [Wire.bytes, hlast, ← List.append_assoc, writeJsonLine] at h
    have hbody := (List.append_inj' h rfl).1
    exact newline_notMem_dumps py hplain (hbody ▸ List.mem_append_left _ hmem)
  rw [Wire.bytes, hempty, List.append_nil] at h
  exact ⟨h, hempty⟩

theorem newline_mem_writeJsonLine (message : Value F) : newline ∈ writeJsonLine py message :=
  List.mem_append_right _ List.mem_cons_self

/-- Where the exchange stands, by the requests, the submissions and the number of returns so far:
nobody is inside the lock, a request is on its way, or its answer is. -/
inductive Phase (R : List (ℕ × CANFrame)) (S : List (CANFrame × SendOutcome)) (n : ℕ) (d : TxLink) :
    Prop
  | idle (holder : d.holder = none) (up : d.served = true → d.up.bytes = [])
      (down : d.down.bytes = []) (ended : n = R.length) (count : S.length ≤ n)
      (current : d.served = true → S.length = n)
  | waiting (past : List (ℕ × CANFrame)) (thread : ℕ) (frame : CANFrame)
      (last : R = past ++ [(thread, frame)]) (holder : d.holder = some thread)
      (up : d.served = true → d.up.bytes = writeJsonLine py (txRequest frame)) (down : d.down.bytes = [])
      (ended : n = past.length) (count : S.length ≤ n) (current : d.served = true → S.length = n)
  | answered (past : List (ℕ × CANFrame)) (served : List (CANFrame × SendOutcome)) (thread : ℕ)
      (frame : CANFrame) (outcome : SendOutcome) (last : R = past ++ [(thread, frame)])
      (submitted : S = served ++ [(frame, outcome)]) (holder : d.holder = some thread)
      (up : d.served = true → d.up.bytes = []) (down : d.down.bytes = writeJsonLine py outcome.answer)
      (ended : n = past.length) (count : served.length = n)

/-- What the `k`-th request is due: the outcome of the `k`-th submission, or an `OSError` if there was
none. -/
def Due (result : Except ClientError Unit) : Option (CANFrame × SendOutcome) → Prop
  | some (_, outcome) => result = outcome.result
  | none => result = connectionClosed ∨ result = brokenPipe

/-- Everything that happened so far is in step. -/
structure InStep (tr : List (Entry TxLink LinkEvent LinkOut)) (d : TxLink) : Prop where
  phase : Phase py (requests tr) (submissions tr) (returns tr).length d
  submitted : (submissions tr).map Prod.fst <+: (requests tr).map Prod.snd
  returned : ∀ (k thread : ℕ) (result : Except ClientError Unit), (returns tr)[k]? = some (thread, result) →
    ∃ frame, (requests tr)[k]? = some (thread, frame) ∧ Due result (submissions tr)[k]?

/-- A step that shows nothing and keeps the phase. -/
theorem InStep.quiet {tr : List (Entry TxLink LinkEvent LinkOut)} {d : TxLink} (h : InStep py tr d)
    {e : Entry TxLink LinkEvent LinkOut} (hout : e.out = .none) {d' : TxLink}
    (hphase : ∀ {R S n}, Phase py R S n d → Phase py R S n d') : InStep py (tr ++ [e]) d' := by
  have hrequests : requests (tr ++ [e]) = requests tr := by
    simp [requests, hout]
  have hsubmissions : submissions (tr ++ [e]) = submissions tr := by
    simp [submissions, hout]
  have hreturns : returns (tr ++ [e]) = returns tr := by
    simp [returns, hout]
  obtain ⟨phase, submitted, returned⟩ := h
  refine ⟨?_, ?_, ?_⟩
  · rw [hrequests, hsubmissions, hreturns]
    exact hphase phase
  · rwa [hrequests, hsubmissions]
  · rwa [hrequests, hsubmissions, hreturns]

theorem inStep_start : InStep py [] {} :=
  ⟨.idle rfl (fun _ => rfl) rfl rfl le_rfl fun _ => rfl, List.nil_prefix, fun _ _ _ h => by simp [returns] at h⟩

/-- Bytes that arrive change no phase. -/
theorem Phase.carry {R : List (ℕ × CANFrame)} {S : List (CANFrame × SendOutcome)} {n : ℕ}
    {d d' : TxLink} (h : Phase py R S n d) (hholder : d'.holder = d.holder)
    (hserved : d'.served = true → d.served = true) (hup : d'.up.bytes = d.up.bytes)
    (hdown : d'.down.bytes = d.down.bytes) : Phase py R S n d' := by
  cases h with
  | idle holder up down ended count current =>
      exact .idle (hholder.trans holder) (fun h => hup.trans (up (hserved h))) (hdown.trans down)
        ended count fun h => current (hserved h)
  | waiting past thread frame last holder up down ended count current =>
      exact .waiting past thread frame last (hholder.trans holder)
        (fun h => hup.trans (up (hserved h))) (hdown.trans down) ended count
        fun h => current (hserved h)
  | answered past served thread frame outcome last submitted holder up down ended count =>
      exact .answered past served thread frame outcome last submitted (hholder.trans holder)
        (fun h => hup.trans (up (hserved h))) (hdown.trans down) ended count

/-- A further request leaves the calls that ended with the requests they had. -/
theorem InStep.returned_requested {tr : List (Entry TxLink LinkEvent LinkOut)} {d : TxLink}
    (h : InStep py tr d) (request : ℕ × CANFrame) {k thread : ℕ} {result : Except ClientError Unit}
    (hk : (returns tr)[k]? = some (thread, result)) :
    ∃ frame, (requests tr ++ [request])[k]? = some (thread, frame) ∧ Due result (submissions tr)[k]? := by
  obtain ⟨frame, hrequest, hdue⟩ := h.returned k thread result hk
  obtain ⟨hlt, -⟩ := List.getElem?_eq_some_iff.mp hrequest
  exact ⟨frame, by rwa [List.getElem?_append_left hlt], hdue⟩

/-- A request, made while nobody is inside the lock. -/
theorem InStep.send {tr : List (Entry TxLink LinkEvent LinkOut)} {d : TxLink} (h : InStep py tr d)
    (thread : ℕ) (frame : CANFrame) :
    InStep py (tr ++ [entry (TxLink.step py) d (.send thread frame)])
      (d.step py (.send thread frame)).1 := by
  cases hholder : d.holder with
  | some t =>
      have hsame : d.step py (.send thread frame) = (d, .none) := by
        simp [TxLink.step, TxLink.send, hholder]
      rw [hsame]
      exact h.quiet py (by rw [entry_out, hsame]) id
  | none =>
      have hstep : d.step py (.send thread frame) =
          ({ d with
              holder := some thread
              up := d.up.write (writeJsonLine py (txRequest frame)) }, .requested thread frame) := by
        simp [TxLink.step, TxLink.send, hholder]
      have hrequests : requests (tr ++ [entry (TxLink.step py) d (.send thread frame)]) =
          requests tr ++ [(thread, frame)] := by
        simp [requests, hstep]
      have hsubmissions : submissions (tr ++ [entry (TxLink.step py) d (.send thread frame)]) =
          submissions tr := by
        simp [submissions, hstep]
      have hreturns : returns (tr ++ [entry (TxLink.step py) d (.send thread frame)]) =
          returns tr := by
        simp [returns, hstep]
      refine ⟨?_, ?_, ?_⟩
      · rw [hrequests, hsubmissions, hreturns, hstep]
        cases h.phase with
        | idle _ up down ended count current =>
            exact .waiting _ thread frame rfl rfl (fun h => by simp [up h]) down ended count current
        | waiting past t f last holder => exact absurd (hholder.symm.trans holder) (by simp)
        | answered past served t f outcome last submitted holder =>
            exact absurd (hholder.symm.trans holder) (by simp)
      · rw [hrequests, hsubmissions, List.map_append]
        exact h.submitted.trans (List.prefix_append _ _)
      · intro k t result hk
        rw [hreturns] at hk
        rw [hrequests, hsubmissions]
        exact h.returned_requested py (thread, frame) hk

/-- A call of which nothing goes out ends as it begins. -/
theorem InStep.sendFails {tr : List (Entry TxLink LinkEvent LinkOut)} {d : TxLink}
    (h : InStep py tr d) (thread : ℕ) (frame : CANFrame) :
    InStep py (tr ++ [entry (TxLink.step py) d (.sendFails thread frame)])
      (d.step py (.sendFails thread frame)).1 := by
  by_cases hgone : d.holder = none ∧ d.served = false
  · have hstep : d.step py (.sendFails thread frame) = (d, .refused thread frame) := by
      simp only [TxLink.step, TxLink.sendFails, if_pos hgone]
    have hrequests : requests (tr ++ [entry (TxLink.step py) d (.sendFails thread frame)]) =
        requests tr ++ [(thread, frame)] := by
      simp [requests, hstep]
    have hsubmissions : submissions (tr ++ [entry (TxLink.step py) d (.sendFails thread frame)]) =
        submissions tr := by
      simp [submissions, hstep]
    have hreturns : returns (tr ++ [entry (TxLink.step py) d (.sendFails thread frame)]) =
        returns tr ++ [(thread, brokenPipe)] := by
      simp [returns, hstep]
    obtain ⟨hholder, hserved⟩ := hgone
    have hnot : ¬ d.served = true := by simp [hserved]
    cases h.phase with
    | waiting past t f last holder => exact absurd (hholder.symm.trans holder) (by simp)
    | answered past served t f outcome last submitted holder =>
        exact absurd (hholder.symm.trans holder) (by simp)
    | idle _ up down ended count current =>
        refine ⟨?_, ?_, ?_⟩
        · rw [hrequests, hsubmissions, hreturns, hstep]
          refine .idle hholder up down ?_ ?_ fun hserved => absurd hserved hnot
          · rw [List.length_append, List.length_append, ended]
            rfl
          · rw [List.length_append]
            omega
        · rw [hrequests, hsubmissions, List.map_append]
          exact h.submitted.trans (List.prefix_append _ _)
        · intro k t result hk
          rw [hrequests, hsubmissions]
          rw [hreturns] at hk
          rcases getElem?_concat_cases hk with ⟨rfl, heq⟩ | hold
          · cases heq
            refine ⟨frame, by rw [ended, List.getElem?_concat_length], ?_⟩
            rw [List.getElem?_eq_none count]
            exact Or.inr rfl
          · exact h.returned_requested py (thread, frame) hold
  · have hsame : d.step py (.sendFails thread frame) = (d, .none) := by
      simp only [TxLink.step, TxLink.sendFails, if_neg hgone]
    rw [hsame]
    exact h.quiet py (by rw [entry_out, hsame]) id

theorem Wire.arrived_of_bytes {w : Wire} (h : w.bytes = []) : w.arrived = [] ∧ w.sent = [] :=
  List.append_eq_nil_iff.mp h

theorem readline_line {message : Value F} (h : message.Plain) :
    readline (writeJsonLine py message) = (writeJsonLine py message, []) := by
  have hread := readline_writeJsonLine py h []
  rwa [List.append_nil] at hread

/-- The handler finds a whole line only when a request is on its way, and it submits that frame. -/
theorem InStep.serve {tr : List (Entry TxLink LinkEvent LinkOut)} {d : TxLink} (h : InStep py tr d)
    (outcome : SendOutcome) :
    InStep py (tr ++ [entry (TxLink.step py) d (.serve outcome)]) (d.step py (.serve outcome)).1 := by
  by_cases hready : d.served = true ∧ newline ∈ d.up.arrived
  · obtain ⟨hphase, hsubmitted, hreturned⟩ := h
    cases hphase with
    | idle _ up =>
        rw [(Wire.arrived_of_bytes (up hready.1)).1] at hready
        exact absurd hready.2 List.not_mem_nil
    | answered past served thread frame outcome last submitted holder up =>
        rw [(Wire.arrived_of_bytes (up hready.1)).1] at hready
        exact absurd hready.2 List.not_mem_nil
    | waiting past thread frame last holder up down ended count current =>
        obtain ⟨harrived, hsent⟩ := Wire.arrived_of_newline py (plain_txRequest frame)
          (up hready.1) hready.2
        have hstep : d.step py (.serve outcome) =
            ({ d with
                up := { d.up with arrived := [] }
                down := d.down.write (writeJsonLine py outcome.answer) },
              .submitted frame outcome) := by
          show d.serve py outcome = _
          rw [TxLink.serve, if_pos hready]
          simp only [harrived, readline_line py (plain_txRequest frame), handleTxLine_txRequest]
        have hrequests : requests (tr ++ [entry (TxLink.step py) d (.serve outcome)]) =
            requests tr := by
          simp [requests, hstep]
        have hsubmissions : submissions (tr ++ [entry (TxLink.step py) d (.serve outcome)]) =
            submissions tr ++ [(frame, outcome)] := by
          simp [submissions, hstep]
        have hreturns : returns (tr ++ [entry (TxLink.step py) d (.serve outcome)]) =
            returns tr := by
          simp [returns, hstep]
        have hlen := current hready.1
        refine ⟨?_, ?_, ?_⟩
        · rw [hrequests, hsubmissions, hreturns, hstep]
          exact .answered past _ thread frame outcome last rfl holder
            (fun _ => by simp [Wire.bytes, hsent]) (by simp [down]) ended hlen
        · rw [hrequests, hsubmissions, last, List.map_append, List.map_append]
          rw [last, List.map_append] at hsubmitted
          -- as many frames were submitted as there are earlier requests
          have hsame : (submissions tr).map Prod.fst = past.map Prod.snd := by
            have htake := List.prefix_iff_eq_take.mp hsubmitted
            rw [htake, List.length_map, hlen, ended, ← List.length_map (f := Prod.snd),
              List.take_left]
          rw [hsame]
          exact List.prefix_rfl
        · intro k t result hk
          rw [hreturns] at hk
          obtain ⟨hlt, -⟩ := List.getElem?_eq_some_iff.mp hk
          rw [hrequests, hsubmissions, List.getElem?_append_left (by omega)]
          exact hreturned k t result hk
  · have hsame : d.step py (.serve outcome) = (d, .none) := by
      simp only [TxLink.step, TxLink.serve, if_neg hready]
    rw [hsame]
    exact h.quiet py (by rw [entry_out, hsame]) id

/-- The call of the last request ends with what it is due. -/
theorem InStep.ends {tr : List (Entry TxLink LinkEvent LinkOut)} {d : TxLink} (h : InStep py tr d)
    {past : List (ℕ × CANFrame)} {thread : ℕ} {frame : CANFrame}
    (last : requests tr = past ++ [(thread, frame)]) (ended : (returns tr).length = past.length)
    {e : Entry TxLink LinkEvent LinkOut} {result : Except ClientError Unit}
    (hout : e.out = .returned thread result) (hdue : Due result (submissions tr)[past.length]?)
    {d' : TxLink} (hphase : Phase py (requests tr) (submissions tr) ((returns tr).length + 1) d') :
    InStep py (tr ++ [e]) d' := by
  have hrequests : requests (tr ++ [e]) = requests tr := by simp [requests, hout]
  have hsubmissions : submissions (tr ++ [e]) = submissions tr := by simp [submissions, hout]
  have hreturns : returns (tr ++ [e]) = returns tr ++ [(thread, result)] := by simp [returns, hout]
  refine ⟨?_, ?_, ?_⟩
  · rwa [hrequests, hsubmissions, hreturns, List.length_append, List.length_singleton]
  · rw [hrequests, hsubmissions]
    exact h.submitted
  · intro k t r hk
    rw [hrequests, hsubmissions]
    rw [hreturns] at hk
    rcases getElem?_concat_cases hk with ⟨rfl, heq⟩ | hold
    · cases heq
      rw [ended]
      exact ⟨frame, by rw [last, List.getElem?_concat_length], hdue⟩
    · exact h.returned k t r hold

/-- The thread inside the lock reads its answer, or finds the connection closed. -/
theorem InStep.receive {tr : List (Entry TxLink LinkEvent LinkOut)} {d : TxLink}
    (h : InStep py tr d) :
    InStep py (tr ++ [entry (TxLink.step py) d .receive]) (d.step py .receive).1 := by
  by_cases hready : newline ∈ d.down.arrived ∨ ((!d.served) = true ∧ d.down.sent = [])
  · cases h.phase with
    | idle holder =>
        have hsame : d.step py .receive = (d, .none) := by
          simp [TxLink.step, TxLink.receive, holder]
        rw [hsame]
        exact h.quiet py (by rw [entry_out, hsame]) id
    | waiting past thread frame last holder up down ended count current =>
        -- no answer is on its way, so the end of the stream was read
        obtain ⟨harrived, hsent⟩ := Wire.arrived_of_bytes down
        have hclosed : (!d.served) = true := by
          rcases hready with hmem | ⟨hclosed, -⟩
          · rw [harrived] at hmem
            exact absurd hmem List.not_mem_nil
          · exact hclosed
        have hstep : d.step py .receive =
            ({ d with holder := none, down := { d.down with arrived := [] } },
              .returned thread connectionClosed) := by
          simp only [TxLink.step, TxLink.receive, holder, if_pos hready]
          simp only [harrived]
          rfl
        have hnot : ¬ d.served = true := by simpa using hclosed
        refine h.ends py last ended (by rw [entry_out, hstep]) ?_ ?_
        · rw [List.getElem?_eq_none (by omega)]
          exact Or.inl rfl
        · rw [hstep]
          refine .idle rfl (fun h => absurd h hnot) (by simp [Wire.bytes, hsent]) ?_ (by omega)
            fun h => absurd h hnot
          rw [last, List.length_append, ended, List.length_singleton]
    | answered past served thread frame outcome last submitted holder up down ended count =>
        have hwhole : d.down.arrived = writeJsonLine py outcome.answer ∧ d.down.sent = [] := by
          rcases hready with hmem | ⟨-, hsent⟩
          · exact Wire.arrived_of_newline py outcome.plain_answer down hmem
          · rw [Wire.bytes, hsent, List.append_nil] at down
            exact ⟨down, hsent⟩
        have hstep : d.step py .receive =
            ({ d with holder := none, down := { d.down with arrived := [] } },
              .returned thread outcome.result) := by
          simp only [TxLink.step, TxLink.receive, holder, if_pos hready]
          simp only [hwhole.1, readline_line py outcome.plain_answer, sendReply_answer]
        refine h.ends py last ended (by rw [entry_out, hstep]) ?_ ?_
        · rw [submitted, ← ended, ← count, List.getElem?_concat_length]
          rfl
        · rw [hstep]
          refine .idle rfl up (by simp [Wire.bytes, hwhole.2]) ?_ ?_ fun _ => ?_
          · rw [last, List.length_append, ended, List.length_singleton]
          · rw [submitted, List.length_append, count, List.length_singleton]
          · rw [submitted, List.length_append, count, List.length_singleton]
  · have hsame : d.step py .receive = (d, .none) := by
      simp only [TxLink.step, TxLink.receive, if_neg hready]
      cases d.holder with
      | none => rfl
      | some thread => rfl
    rw [hsame]
    exact h.quiet py (by rw [entry_out, hsame]) id

theorem InStep.step {tr : List (Entry TxLink LinkEvent LinkOut)} {d : TxLink} (h : InStep py tr d)
    (ev : LinkEvent) : InStep py (tr ++ [entry (TxLink.step py) d ev]) (d.step py ev).1 := by
  cases ev with
  | send thread frame => exact h.send py thread frame
  | sendFails thread frame => exact h.sendFails py thread frame
  | carryUp count => exact h.quiet py rfl fun hp => hp.carry py rfl id (by simp [TxLink.step]) rfl
  | serve outcome => exact h.serve py outcome
  | carryDown count => exact h.quiet py rfl fun hp => hp.carry py rfl id rfl (by simp [TxLink.step])
  | hangUp => exact h.quiet py rfl fun hp => hp.carry py rfl (fun h => nomatch h) rfl rfl
  | receive => exact h.receive py

theorem inStep_run (events : List LinkEvent) :
    InStep py (linkRun py events) (final (TxLink.step py) {} events) :=
  trace_history_all (TxLink.step py) (inStep_start py) (fun _ _ ev h => h.step py ev) events

theorem Wire.carry_all (w : Wire) : w.carry w.sent.length = { sent := [], arrived := w.bytes } := by
  simp [Wire.carry, Wire.bytes]

/-- A thread that can read leaves the lock. -/
theorem TxLink.holder_receive {d : TxLink}
    (h : newline ∈ d.down.arrived ∨ ((!d.served) = true ∧ d.down.sent = [])) :
    (d.step py .receive).1.holder = none := by
  cases hholder : d.holder with
  | none => simp [TxLink.step, TxLink.receive, hholder]
  | some thread => simp only [TxLink.step, TxLink.receive, hholder, if_pos h]

/-- From any state in step, the wires and the handler can bring the open call to its end. -/
theorem InStep.finishes {tr : List (Entry TxLink LinkEvent LinkOut)} {d : TxLink}
    (h : InStep py tr d) :
    ∃ more, (∀ thread frame, .send thread frame ∉ more ∧ .sendFails thread frame ∉ more) ∧
      (final (TxLink.step py) d more).holder = none := by
  cases h.phase with
  | idle holder => exact ⟨[], by simp, holder⟩
  | answered past served thread frame outcome last submitted holder up down =>
      refine ⟨[.carryDown d.down.sent.length, .receive], by simp, ?_⟩
      refine TxLink.holder_receive py (Or.inl ?_)
      show newline ∈ (d.down.carry d.down.sent.length).arrived
      rw [Wire.carry_all, down]
      exact newline_mem_writeJsonLine py _
  | waiting past thread frame last holder up down =>
      by_cases hserved : d.served = true
      · have harrived := up hserved
        let answer : List UInt8 := writeJsonLine py SendOutcome.accepted.answer
        refine ⟨[.carryUp d.up.sent.length, .serve .accepted, .carryDown answer.length, .receive],
          by simp, ?_⟩
        -- the request arrives whole, is served, and the answer arrives whole
        have hserve : final (TxLink.step py) d [.carryUp d.up.sent.length, .serve .accepted] =
            { d with up := {}, down := d.down.write answer } := by
          show (TxLink.serve py { d with up := d.up.carry d.up.sent.length } .accepted).1 = _
          rw [Wire.carry_all, harrived, TxLink.serve,
            if_pos ⟨hserved, newline_mem_writeJsonLine py _⟩]
          simp only [readline_line py (plain_txRequest frame), handleTxLine_txRequest]
          rfl
        have hmore : ([.carryUp d.up.sent.length, .serve .accepted, .carryDown answer.length,
            .receive] : List LinkEvent) =
            [.carryUp d.up.sent.length, .serve .accepted] ++ [.carryDown answer.length, .receive] := rfl
        rw [hmore, final_append, hserve]
        refine TxLink.holder_receive py (Or.inl ?_)
        obtain ⟨-, hsent⟩ := Wire.arrived_of_bytes down
        simp only [TxLink.step, Wire.carry, Wire.write, hsent, List.nil_append, List.take_length]
        exact List.mem_append_right _ (newline_mem_writeJsonLine py _)
      · refine ⟨[.receive], by simp, TxLink.holder_receive py (Or.inr ⟨?_, ?_⟩)⟩
        · simpa using hserved
        · exact (Wire.arrived_of_bytes down).2

/-- **No call hangs on a lost answer.** However a run went, the wires and the handler can go on, with
no new request, until every request has returned. -/
theorem exchange_completes (events : List LinkEvent) :
    ∃ more, (∀ thread frame, .send thread frame ∉ more ∧ .sendFails thread frame ∉ more) ∧
      (returns (linkRun py (events ++ more))).length =
        (requests (linkRun py (events ++ more))).length := by
  obtain ⟨more, hmore, hholder⟩ := (inStep_run py events).finishes py
  refine ⟨more, hmore, ?_⟩
  have hphase := (inStep_run py (events ++ more)).phase
  rw [final_append] at hphase
  cases hphase with
  | idle _ _ _ ended => exact ended
  | waiting past thread frame last holder => exact absurd (hholder.symm.trans holder) (by simp)
  | answered past served thread frame outcome last submitted holder =>
      exact absurd (hholder.symm.trans holder) (by simp)

end SparqControl.CanDaemon
