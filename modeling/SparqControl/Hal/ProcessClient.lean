/-
# SparqControl.Hal.ProcessClient — the client of the CAN daemon and what its sockets may do to it.

The client holds two connections to the daemon, one to transmit and one to receive, each a socket and a
buffered file over it. Every operation on them may fail. `connect` retries until a deadline, and it
retries on `OSError` ONLY: a refused role or a garbled answer leaves it at once, with whatever was open
at that point still open. `close` gives the four objects back in turn and stops at the first that
raises.

A thread of the client reads the receive connection, and it holds the lock of the file WHILE IT WAITS
for a line. `close` sets the stop event, closes the transmit file and then needs that lock: with nothing
coming in it does not return.

The outcomes of the operations are inputs here. `connect_spec` says for which of them a connect
returns, `close_spec` for which a close does, `send_ok_iff` for which a send does.
-/
import SparqControl.Hal.CanFrame

namespace SparqControl.Hal

/-- How a client call ends that does not return: it raises an `OSError` or anything else, or it waits for
a lock that nobody gives back. -/
inductive ClientError where
  | osError (text : String)
  | other (error : PyError)
  | blocked
  deriving DecidableEq, Repr

/-- A decoded answer, as far as the client looks at it: its `type`, whether its `ok` is true, and its
`error` if that is. -/
structure Message where
  type : Option String
  ok : Bool
  error : Option String
  deriving DecidableEq, Repr

/-- What reading one line from the daemon may come to. -/
inductive Line where
  | readFails
  | closed
  | undecodable
  | notAnObject
  | object (message : Message)
  deriving DecidableEq, Repr

/-- `_read_json_line`. -/
def readJsonLine : Line → Except ClientError Message
  | .readFails => .error (.osError "read failed")
  | .closed => .error (.osError "CAN daemon socket closed")
  | .undecodable => .error (.other (.valueError "Expecting value"))
  | .notAnObject => .error (.other (.runtimeError "CAN daemon message must be a JSON object"))
  | .object message => .ok message

/-- How the operations of one `_connect_role` go: the socket and its file, the hello, the answer. -/
structure RoleIo where
  opens : Bool
  writes : Bool
  line : Line

/-- `_connect_role`. What it opened is not kept when it raises. -/
def connectRole (role : String) (io : RoleIo) : Except ClientError Unit := do
  if !io.opens then throw (.osError "connect failed")
  if !io.writes then throw (.osError "write failed")
  let response ← readJsonLine io.line
  if response.type ≠ some "hello_ack" ∨ response.ok = false then
    throw (.other (.runtimeError ("CAN daemon rejected role " ++ role)))

/-- A reference the client keeps: `None`, an open object, or one that was closed and is still there. -/
inductive Handle where
  | absent
  | opened
  | closed
  deriving DecidableEq, Repr

/-- Closing this object raises. Only an open one can. -/
def Handle.breaks (h : Handle) (fails : Bool) : Bool := h == .opened && fails

/-- What is left of a reference after `close()` returned. -/
def Handle.close : Handle → Handle
  | .absent => .absent
  | _ => .closed

/-- Where the receive thread is: not started or joined, inside `_rx_loop`, or out of it. -/
inductive RxThread where
  | absent
  | reading
  | ended
  deriving DecidableEq, Repr

/-- The thread once the stop event is set and its read is over. -/
def RxThread.stopped : RxThread → RxThread
  | .absent => .absent
  | _ => .ended

/-- Which `close()` would raise on an open object, and whether the receive thread lets go of its file: it
is not in `readline`, or a line or the end of the stream brings it out. -/
structure CloseIo where
  txFile : Bool := false
  rxFile : Bool := false
  txSock : Bool := false
  rxSock : Bool := false
  readerLeaves : Bool := false

/-- How one round of the connect loop goes, and the `close()` in it if it comes to that. -/
structure Attempt where
  tx : RoleIo
  rx : RoleIo
  closing : CloseIo := {}

/-- `CANProcessClient`. -/
structure CANProcessClient where
  rxEnabled : Bool := true
  rxThread : RxThread := .absent
  stopEvent : Bool := false
  txSock : Handle := .absent
  rxSock : Handle := .absent
  txFile : Handle := .absent
  rxFile : Handle := .absent
  registeredIds : List ℤ := []
  deriving DecidableEq

namespace CANProcessClient

/-- The text of a `close()` that raises. -/
def closeFailed : ClientError := .osError "close failed"

/-- The receive thread sits in `readline` on its open file, and goes on sitting there. -/
def readerHolds (c : CANProcessClient) (io : CloseIo) : Bool :=
  c.rxFile == .opened && c.rxThread == .reading && !io.readerLeaves

/-- `CANProcessClient.close`: a file is forgotten once it is closed, the sockets only at the end. The
receive file cannot be closed while the receive thread waits for a line. -/
def close (c : CANProcessClient) (io : CloseIo) : CANProcessClient × Except ClientError Unit :=
  let c := { c with stopEvent := true }
  if c.txFile.breaks io.txFile then ({ c with txFile := .closed }, .error closeFailed)
  else
    let c := { c with txFile := .absent }
    if c.readerHolds io then (c, .error .blocked)
    else
      let c := { c with rxThread := c.rxThread.stopped }
      if c.rxFile.breaks io.rxFile then ({ c with rxFile := .closed }, .error closeFailed)
      else
        let c := { c with rxFile := .absent }
        if c.txSock.breaks io.txSock then ({ c with txSock := .closed }, .error closeFailed)
        else if c.rxSock.breaks io.rxSock then
          ({ c with txSock := c.txSock.close, rxSock := .closed }, .error closeFailed)
        else
          ({ c with txSock := .absent, rxSock := .absent, rxThread := .absent, stopEvent := false },
            .ok ())

/-- One round of `_rx_loop` on a line: an error of the line ends the thread, so does an `rx` message that
makes no frame, and so does the stop event after it. -/
def receive (c : CANProcessClient) (line : Line) (makesFrame : Bool) : CANProcessClient :=
  if c.rxThread = .reading then
    match readJsonLine line with
    | .error _ => { c with rxThread := .ended }
    | .ok message =>
        if message.type = some "rx" ∧ makesFrame = false then { c with rxThread := .ended }
        else if c.stopEvent then { c with rxThread := .ended }
        else c
  else c

/-- The `try` body of `connect`. -/
def attempt (c : CANProcessClient) (a : Attempt) : CANProcessClient × Except ClientError Unit :=
  match connectRole "tx" a.tx with
  | .error e => (c, .error e)
  | .ok () =>
      let c := { c with txSock := .opened, txFile := .opened }
      if c.rxEnabled then
        match connectRole "rx" a.rx with
        | .error e => (c, .error e)
        | .ok () => ({ c with rxSock := .opened, rxFile := .opened, rxThread := .reading }, .ok ())
      else (c, .ok ())

/-- What a round of the connect loop comes to: `return`, `raise`, or the deadline check. -/
inductive Round where
  | connected
  | raised (error : ClientError)
  | refused (text : String)

/-- One round of the connect loop: only an `OSError` is caught, and the `close()` it is answered with may
raise in its turn. -/
def round (c : CANProcessClient) (a : Attempt) : CANProcessClient × Round :=
  match c.attempt a with
  | (c, .ok ()) => (c, .connected)
  | (c, .error (.other e)) => (c, .raised (.other e))
  | (c, .error .blocked) => (c, .raised .blocked)
  | (c, .error (.osError text)) =>
      match c.close a.closing with
      | (c, .ok ()) => (c, .refused text)
      | (c, .error e) => (c, .raised e)

/-- `CANProcessClient.connect`: the rounds before the deadline, and the one that ends after it. -/
def connect (c : CANProcessClient) : List Attempt → Attempt → CANProcessClient × Except ClientError Unit
  | [], last =>
      match c.round last with
      | (c, .connected) => (c, .ok ())
      | (c, .raised e) => (c, .error e)
      | (c, .refused text) => (c, .error (.osError text))
  | a :: rest, last =>
      match c.round a with
      | (c, .connected) => (c, .ok ())
      | (c, .raised e) => (c, .error e)
      | (c, .refused _) => connect c rest last

/-- `register_callback`, as far as the ids go. -/
def registerCallback (c : CANProcessClient) (canId : ℤ) : CANProcessClient :=
  { c with registeredIds := if canId ∈ c.registeredIds then c.registeredIds else c.registeredIds ++ [canId] }

end CANProcessClient

/-- One exchange over the transmit channel: whether the request is written, what the answer reads as, and
whether the daemon took the frame. The daemon's `tx_result` says which. -/
structure TxIo where
  writes : Bool
  line : Line
  accepted : Bool
  honest : ∀ m, line = .object m → m.type = some "tx_result" → m.ok = accepted

namespace CANProcessClient

/-- `CANProcessClient.send`. -/
def send (c : CANProcessClient) (io : TxIo) : Except ClientError Unit :=
  match c.txFile with
  | .absent => .error (.other (.runtimeError "CAN daemon client is not connected"))
  | .closed => .error (.other (.valueError "write to closed file"))
  | .opened => do
      if !io.writes then throw (.osError "write failed")
      let response ← readJsonLine io.line
      if response.type ≠ some "tx_result" then
        throw (.other (.runtimeError "Unexpected CAN daemon response"))
      if response.ok = false then
        throw (.other (.runtimeError (response.error.getD "CAN daemon TX failed")))

/-! ## What the calls do -/

/-- No `close()` raises on what the client has open, and the receive thread is not in the way. -/
def ClosesClean (c : CANProcessClient) (io : CloseIo) : Prop :=
  c.txFile.breaks io.txFile = false ∧ c.readerHolds io = false ∧ c.rxFile.breaks io.rxFile = false ∧
    c.txSock.breaks io.txSock = false ∧ c.rxSock.breaks io.rxSock = false

/-- Nothing is held, and no thread is there. -/
def Idle (c : CANProcessClient) : Prop :=
  c.txFile = .absent ∧ c.rxFile = .absent ∧ c.txSock = .absent ∧ c.rxSock = .absent ∧
    c.rxThread = .absent ∧ c.stopEvent = false

/-- The client with nothing held. -/
def idled (c : CANProcessClient) : CANProcessClient :=
  { c with
    txFile := .absent
    rxFile := .absent
    txSock := .absent
    rxSock := .absent
    rxThread := .absent
    stopEvent := false }

theorem close_of_closesClean {c : CANProcessClient} {io : CloseIo} (h : c.ClosesClean io) :
    c.close io = (c.idled, .ok ()) := by
  obtain ⟨h₁, h₂, h₃, h₄, h₅⟩ := h
  unfold readerHolds at h₂
  simp only [close, readerHolds, h₁, h₂, h₃, h₄, h₅, Bool.false_eq_true, if_false]
  rfl

/-- **A close** returns exactly when no open object raises and the receive thread lets go, and it never
leaves the transmit file open. -/
theorem close_spec (c : CANProcessClient) (io : CloseIo) :
    ((c.close io).2 = .ok () ↔ c.ClosesClean io) ∧ (c.close io).1.txFile ≠ .opened := by
  by_cases h₁ : c.txFile.breaks io.txFile = true
  · simp [close, ClosesClean, h₁]
  by_cases h₂ : c.readerHolds io = true
  · have hholds := h₂
    unfold readerHolds at hholds
    simp [close, ClosesClean, readerHolds, h₁, hholds]
  have hfree := h₂
  unfold readerHolds at hfree
  by_cases h₃ : c.rxFile.breaks io.rxFile = true
  · simp [close, ClosesClean, readerHolds, h₁, hfree, h₃]
  by_cases h₄ : c.txSock.breaks io.txSock = true
  · simp [close, ClosesClean, readerHolds, h₁, hfree, h₃, h₄]
  by_cases h₅ : c.rxSock.breaks io.rxSock = true
  · simp [close, ClosesClean, readerHolds, h₁, hfree, h₃, h₄, h₅]
  · have hclean : c.ClosesClean io := by
      simp only [Bool.not_eq_true] at h₁ h₂ h₃ h₄ h₅
      exact ⟨h₁, h₂, h₃, h₄, h₅⟩
    rw [close_of_closesClean hclean]
    exact ⟨⟨fun _ => hclean, fun _ => rfl⟩, by simp [idled]⟩

/-- The receive thread does not touch the transmit file. -/
theorem txFile_receive (c : CANProcessClient) (line : Line) (makesFrame : Bool) :
    (c.receive line makesFrame).txFile = c.txFile := by
  unfold receive
  split
  · split
    · rfl
    · split_ifs <;> rfl
  · rfl

end CANProcessClient

/-- A role whose hello the daemon acknowledged. -/
def RoleIo.Acked (role : String) (io : RoleIo) : Prop := connectRole role io = .ok ()

/-- A role that ended in an `OSError`. -/
def RoleIo.Failed (role : String) (io : RoleIo) : Prop :=
  ∃ text, connectRole role io = .error (.osError text)

/-- Both roles are acknowledged. -/
def Attempt.Connects (a : Attempt) : Prop := a.tx.Acked "tx" ∧ a.rx.Acked "rx"

/-- A role ends in an `OSError`, and what was open by then is closed without another. -/
def Attempt.Refused (a : Attempt) : Prop :=
  a.tx.Failed "tx" ∨
    a.tx.Acked "tx" ∧ a.rx.Failed "rx" ∧ a.closing.txFile = false ∧ a.closing.txSock = false

/-- The rounds lead to a connection: some refused ones, and one that connects. -/
def Reaches : List Attempt → Attempt → Prop
  | [], last => last.Connects
  | a :: rest, last => a.Connects ∨ a.Refused ∧ Reaches rest last

namespace CANProcessClient

variable {c : CANProcessClient}

theorem eq_idled_of_idle (h : c.Idle) : c.idled = c := by
  obtain ⟨rx, thread, stop, ts, rs, tf, rf, ids⟩ := c
  obtain ⟨h₁, h₂, h₃, h₄, h₅, h₆⟩ := h
  cases h₁
  cases h₂
  cases h₃
  cases h₄
  cases h₅
  cases h₆
  rfl

/-- The client between its two roles. -/
def txOpened (c : CANProcessClient) : CANProcessClient := { c with txSock := .opened, txFile := .opened }

theorem attempt_of_tx_error {a : Attempt} {e : ClientError} (htx : connectRole "tx" a.tx = .error e) :
    c.attempt a = (c, .error e) := by
  simp only [attempt, htx]

theorem attempt_of_rx_error {a : Attempt} {e : ClientError} (hrx : c.rxEnabled = true)
    (htx : a.tx.Acked "tx") (he : connectRole "rx" a.rx = .error e) :
    c.attempt a = (c.txOpened, .error e) := by
  have htx' : connectRole "tx" a.tx = .ok () := htx
  simp only [attempt, txOpened, htx', hrx, he, if_true]

/-- An idle client has nothing that can fail to close. -/
theorem closesClean_of_idle (hidle : c.Idle) (io : CloseIo) : c.ClosesClean io := by
  obtain ⟨h₁, h₂, h₃, h₄, -⟩ := hidle
  simp [ClosesClean, Handle.breaks, readerHolds, h₁, h₂, h₃, h₄]

/-- Between the roles the transmit file and socket can. -/
theorem closesClean_txOpened_iff (hidle : c.Idle) (io : CloseIo) :
    c.txOpened.ClosesClean io ↔ io.txFile = false ∧ io.txSock = false := by
  obtain ⟨-, h₂, -, h₄, -⟩ := hidle
  simp [ClosesClean, Handle.breaks, readerHolds, txOpened, h₂, h₄]

theorem idled_txOpened (hidle : c.Idle) : c.txOpened.idled = c := eq_idled_of_idle hidle

theorem round_of_connects (hrx : c.rxEnabled = true) {a : Attempt} (h : a.Connects) :
    ∃ c', c.round a = (c', .connected) ∧ c'.txFile = .opened := by
  have htx : connectRole "tx" a.tx = .ok () := h.1
  have hrole : connectRole "rx" a.rx = .ok () := h.2
  refine ⟨{ c.txOpened with rxSock := .opened, rxFile := .opened, rxThread := .reading }, ?_, rfl⟩
  simp only [round, attempt, txOpened, htx, hrole, hrx, if_true]

/-- A refused round leaves the client as it found it. -/
theorem round_of_refused (hidle : c.Idle) (hrx : c.rxEnabled = true) {a : Attempt} (h : a.Refused) :
    ∃ text, c.round a = (c, .refused text) := by
  rcases h with ⟨text, htx⟩ | ⟨htx, ⟨text, he⟩, hfile, hsock⟩
  · refine ⟨text, ?_⟩
    simp only [round, attempt_of_tx_error htx, close_of_closesClean (closesClean_of_idle hidle _),
      eq_idled_of_idle hidle]
  · have hclean := (closesClean_txOpened_iff hidle a.closing).mpr ⟨hfile, hsock⟩
    refine ⟨text, ?_⟩
    simp only [round, attempt_of_rx_error hrx htx he, close_of_closesClean hclean, idled_txOpened hidle]

/-- A round that neither connects nor is refused raises. -/
theorem round_of_neither (hidle : c.Idle) (hrx : c.rxEnabled = true) {a : Attempt}
    (hconnects : ¬ a.Connects) (hrefused : ¬ a.Refused) :
    ∃ c' e, c.round a = (c', .raised e) := by
  cases htx : connectRole "tx" a.tx with
  | error e =>
      cases e with
      | osError text => exact absurd (Or.inl ⟨text, htx⟩) hrefused
      | other err => exact ⟨c, .other err, by simp only [round, attempt_of_tx_error htx]⟩
      | blocked => exact ⟨c, .blocked, by simp only [round, attempt_of_tx_error htx]⟩
  | ok u =>
      cases he : connectRole "rx" a.rx with
      | ok u' => exact absurd ⟨htx, he⟩ hconnects
      | error e =>
          cases e with
          | other err =>
              exact ⟨c.txOpened, .other err, by simp only [round, attempt_of_rx_error hrx htx he]⟩
          | blocked => exact ⟨c.txOpened, .blocked, by simp only [round, attempt_of_rx_error hrx htx he]⟩
          | osError text =>
              -- the transmit side was open and would not close
              have hdirty : ¬ c.txOpened.ClosesClean a.closing := by
                rw [closesClean_txOpened_iff hidle]
                exact fun h => hrefused (Or.inr ⟨htx, ⟨text, he⟩, h⟩)
              rw [← (close_spec c.txOpened a.closing).1] at hdirty
              cases hclose : c.txOpened.close a.closing with
              | mk c' result =>
                  cases result with
                  | ok u' => exact absurd (congrArg Prod.snd hclose) hdirty
                  | error e => exact ⟨c', e, by simp only [round, attempt_of_rx_error hrx htx he, hclose]⟩

/-- **A connect** returns exactly when its rounds lead to a connection, and then the transmit file is
open. -/
theorem connect_spec (hidle : c.Idle) (hrx : c.rxEnabled = true) (rest : List Attempt) (last : Attempt) :
    (Reaches rest last ∧ ∃ c', c.connect rest last = (c', .ok ()) ∧ c'.txFile = .opened) ∨
    (¬ Reaches rest last ∧ ∃ c' e, c.connect rest last = (c', .error e)) := by
  induction rest with
  | nil =>
      by_cases hconnects : last.Connects
      · obtain ⟨c', hround, hfile⟩ := round_of_connects hrx hconnects
        exact Or.inl ⟨hconnects, c', by simp only [connect, hround], hfile⟩
      · refine Or.inr ⟨hconnects, ?_⟩
        by_cases hrefused : last.Refused
        · obtain ⟨text, hround⟩ := round_of_refused hidle hrx hrefused
          exact ⟨c, .osError text, by simp only [connect, hround]⟩
        · obtain ⟨c', e, hround⟩ := round_of_neither hidle hrx hconnects hrefused
          exact ⟨c', e, by simp only [connect, hround]⟩
  | cons a rest ih =>
      by_cases hconnects : a.Connects
      · obtain ⟨c', hround, hfile⟩ := round_of_connects hrx hconnects
        exact Or.inl ⟨Or.inl hconnects, c', by simp only [connect, hround], hfile⟩
      by_cases hrefused : a.Refused
      · obtain ⟨text, hround⟩ := round_of_refused hidle hrx hrefused
        have hnext : c.connect (a :: rest) last = c.connect rest last := by simp only [connect, hround]
        have hreaches : Reaches (a :: rest) last ↔ Reaches rest last := by
          simp only [Reaches, hconnects, hrefused, false_or, true_and]
        rw [hnext, hreaches]
        exact ih
      · obtain ⟨c', e, hround⟩ := round_of_neither hidle hrx hconnects hrefused
        refine Or.inr ⟨?_, c', e, by simp only [connect, hround]⟩
        rintro (h | ⟨h, -⟩)
        · exact hconnects h
        · exact hrefused h

end CANProcessClient

/-- The daemon's verdict came back. -/
def TxIo.Answered (io : TxIo) : Prop :=
  io.writes = true ∧ ∃ m, io.line = .object m ∧ m.type = some "tx_result"

/-- **A send** over an open channel returns exactly when the daemon took the frame and said so. -/
theorem CANProcessClient.send_ok_iff {c : CANProcessClient} (h : c.txFile = .opened) (io : TxIo) :
    c.send io = .ok () ↔ io.Answered ∧ io.accepted = true := by
  obtain ⟨writes, line, accepted, honest⟩ := io
  unfold send TxIo.Answered
  rw [h]
  cases writes with
  | false => simp [bind, Except.bind, throw, throwThe, MonadExceptOf.throw]
  | true =>
      cases line with
      | object m =>
          by_cases htype : m.type = some "tx_result"
          · have hok := honest m rfl htype
            cases hm : m.ok with
            | false =>
                rw [hm] at hok
                simp [readJsonLine, htype, hm, ← hok, bind, Except.bind, throw, throwThe,
                  MonadExceptOf.throw]
            | true =>
                rw [hm] at hok
                simp [readJsonLine, htype, hm, ← hok, bind, Except.bind, pure, Except.pure]
          · simp [readJsonLine, htype, bind, Except.bind, throw, throwThe, MonadExceptOf.throw]
      | readFails => simp [readJsonLine, bind, Except.bind]
      | closed => simp [readJsonLine, bind, Except.bind]
      | undecodable => simp [readJsonLine, bind, Except.bind]
      | notAnObject => simp [readJsonLine, bind, Except.bind]

end SparqControl.Hal
