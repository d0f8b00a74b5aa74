/-
# SparqControl.Hal.TransportConnection — what the transport says about its connection.

The transport counts as connected when it HAS a client, and it takes the client before the client has
connected. A connect that raises therefore leaves it "connected" over a client with nothing open: the
next connect returns at once, and every send raises until somebody closes the transport. A close that
raises leaves it so as well, and so does one on a silent bus, which WAITS for the receive thread with the
transmit file already closed. And a frame is remembered only when the daemon's answer came back: one the
daemon took and whose answer was lost is sent and forgotten.

A run is any sequence of the four calls with any outcomes of the operations under them, and of lines the
receive thread reads in between. Calls behind one that does not return are those of other threads.
`transport_truthful_iff` says which runs keep the three promises.
-/
import SparqControl.Hal.EchoFilter
import SparqControl.Hal.ProcessClient

namespace SparqControl.Hal

open SparqControl.Lib.Trace

/-- `CANProcessTransport`: the memory of the echo filter, and the client. -/
structure Transport (K : Type) extends CANProcessTransport K where
  client : Option CANProcessClient := none

/-- The rounds a connect goes through, should it have to. -/
structure ConnectIo where
  retried : List Attempt := []
  last : Attempt

/-- The rounds lead to a connection. -/
def ConnectIo.Reaches (io : ConnectIo) : Prop := Hal.Reaches io.retried io.last

/-- A frame the transport lets through to the daemon. -/
def CANFrame.Standard (frame : CANFrame) : Prop := ¬ (frame.canId < 0 ∨ frame.canId > canSffMask)

instance (frame : CANFrame) : Decidable frame.Standard := inferInstanceAs (Decidable (¬ _))

/-- The calls on a transport, each with the outcomes of the operations it may come to, and a line for the
receive thread. -/
inductive TransportCall (K : Type) where
  | connect (io : ConnectIo)
  | close (io : CloseIo)
  | registerCallback (canId : ℤ)
  | sendFrame (frame : CANFrame) (io : ConnectIo) (exchange : TxIo) (now : K)
  | received (line : Line) (makesFrame : Bool)

namespace Transport

variable {K : Type}

/-- `CANProcessTransport.is_connected`. -/
def isConnected (t : Transport K) : Bool := t.client.isSome

/-- `CANProcessTransport.connect`. The client is taken before it connects. -/
def connect (t : Transport K) (io : ConnectIo) : Transport K × Except ClientError Unit :=
  match t.client with
  | some _ => (t, .ok ())
  | none =>
      let (c, result) := CANProcessClient.connect {} io.retried io.last
      ({ t with client := some c }, result)

/-- `CANProcessTransport.close`. -/
def close (t : Transport K) (io : CloseIo) : Transport K × Except ClientError Unit :=
  match t.client with
  | none => (t, .ok ())
  | some c =>
      match c.close io with
      | (c, .error e) => ({ t with client := some c }, .error e)
      | (_, .ok ()) => ({ t with client := none }, .ok ())

/-- `CANProcessTransport.register_callback`. -/
def registerCallback (t : Transport K) (canId : ℤ) : Transport K × Except ClientError Unit :=
  match t.client with
  | none =>
      (t, .error (.other (.runtimeError
        "CAN process transport must be connected before callback registration")))
  | some c => ({ t with client := some (c.registerCallback canId) }, .ok ())

/-- `CANProcessTransport.send_frame`. -/
def sendFrame (t : Transport K) (frame : CANFrame) (io : ConnectIo) (exchange : TxIo) (now : K) :
    Transport K × Except ClientError Unit :=
  if frame.Standard then
    match t.connect io with
    | (t, .error e) => (t, .error e)
    | (t, .ok ()) =>
        match t.client with
        | none => (t, .error (.other (.runtimeError "assert self.client is not None")))
        | some c =>
            match c.send exchange with
            | .error e => (t, .error e)
            | .ok () =>
                ({ t with toCANProcessTransport := t.toCANProcessTransport.rememberTxFrame frame now },
                  .ok ())
  else (t, .error (.other (.valueError "Only standard 11-bit CAN IDs are supported")))

/-- The receive thread of the client reads a line. -/
def received (t : Transport K) (line : Line) (makesFrame : Bool) : Transport K :=
  { t with client := t.client.map fun c => c.receive line makesFrame }

/-- One call. -/
def step (t : Transport K) : TransportCall K → Transport K × Except ClientError Unit
  | .connect io => t.connect io
  | .close io => t.close io
  | .registerCallback canId => t.registerCallback canId
  | .sendFrame frame io exchange now => t.sendFrame frame io exchange now
  | .received line makesFrame => (t.received line makesFrame, .ok ())

/-- The client holds an open transmit channel. -/
def HoldsOpenTx (t : Transport K) : Prop := ∃ c, t.client = some c ∧ c.txFile = .opened

/-- The daemon takes the frame of this call: it is offered one, over an open channel, and accepts. -/
def Taken (t : Transport K) : TransportCall K → Prop
  | .sendFrame frame io exchange _ =>
      frame.Standard ∧ (t.connect io).2 = .ok () ∧ (t.connect io).1.HoldsOpenTx ∧
        exchange.accepted = true
  | _ => False

end Transport

/-- The connect a call makes first, if it makes one. -/
def TransportCall.connectIo? {K : Type} : TransportCall K → Option ConnectIo
  | .connect io => some io
  | .sendFrame frame io _ _ => if frame.Standard then some io else none
  | _ => none

/-- One recorded call. -/
abbrev TransportEntry (K : Type) : Type :=
  Entry (Transport K) (TransportCall K) (Except ClientError Unit)

/-- The three promises about one call of a run. -/
structure Truthful {K : Type} (e : TransportEntry K) : Prop where
  /-- Connected means an open transmit channel. -/
  connected : e.after.isConnected = true ↔ e.after.HoldsOpenTx
  /-- A connect that raises leaves the transport as it was, to connect again later. -/
  restored : ∀ io, e.input.connectIo? = some io → ∀ err, (e.before.connect io).2 = .error err →
    e.after = e.before ∧ e.after.isConnected = false
  /-- A frame is remembered exactly when the daemon takes it. -/
  remembered : ∀ frame io exchange now, e.input = .sendFrame frame io exchange now →
    (e.out = .ok () ∧ e.after.toCANProcessTransport =
      e.before.toCANProcessTransport.rememberTxFrame frame now ↔ e.before.Taken e.input)
  /-- Nothing else is. -/
  kept : ¬ e.before.Taken e.input → e.after.toCANProcessTransport = e.before.toCANProcessTransport

namespace Transport

variable {K : Type}

/-- What the operations under a call must not do: fail a connect that has to be made, fail to close what
is open or keep the close waiting for the receive thread, lose the answer to a frame the daemon took. -/
def Spared (t : Transport K) : TransportCall K → Prop
  | .connect io => t.client = none → io.Reaches
  | .close io => ∀ c, t.client = some c → c.ClosesClean io
  | .registerCallback _ => True
  | .sendFrame frame io exchange _ =>
      frame.Standard → (t.client = none → io.Reaches) ∧ (exchange.accepted = true → exchange.Answered)
  | .received _ _ => True

/-- A client that is there has its transmit file open. -/
def Sound (t : Transport K) : Prop := ∀ c, t.client = some c → c.txFile = .opened

/-! ## One call -/

variable {t : Transport K}

theorem sound_fresh : ({} : Transport K).Sound := by
  intro c hc
  cases hc

theorem isConnected_iff_of_sound (h : t.Sound) : t.isConnected = true ↔ t.HoldsOpenTx := by
  unfold isConnected HoldsOpenTx
  constructor
  · intro hsome
    obtain ⟨c, hc⟩ := Option.isSome_iff_exists.mp hsome
    exact ⟨c, hc, h c hc⟩
  · rintro ⟨c, hc, -⟩
    rw [hc]
    rfl

/-- **What a connect does**: nothing with a client there, else it takes one, and returns when the rounds
lead to a connection. -/
theorem connect_cases (t : Transport K) (io : ConnectIo) :
    ((∃ c, t.client = some c) ∧ t.connect io = (t, .ok ())) ∨
    (t.client = none ∧ io.Reaches ∧
      ∃ c, t.connect io = ({ t with client := some c }, .ok ()) ∧ c.txFile = .opened) ∨
    (t.client = none ∧ ¬ io.Reaches ∧
      ∃ c e, t.connect io = ({ t with client := some c }, .error e)) := by
  cases hclient : t.client with
  | some c => exact Or.inl ⟨⟨c, rfl⟩, by simp only [connect, hclient]⟩
  | none =>
      have hidle : CANProcessClient.Idle {} := ⟨rfl, rfl, rfl, rfl, rfl, rfl⟩
      rcases CANProcessClient.connect_spec hidle rfl io.retried io.last with
        ⟨hreaches, c, hc, hfile⟩ | ⟨hreaches, c, e, hc⟩
      · exact Or.inr (Or.inl ⟨rfl, hreaches, c, by simp only [connect, hclient, hc], hfile⟩)
      · exact Or.inr (Or.inr ⟨rfl, hreaches, c, e, by simp only [connect, hclient, hc]⟩)

/-- A connect whose rounds lead to a connection, or that has a client already, returns with an open
channel and the memory as it was. -/
theorem connect_of_reaches (h : t.Sound) {io : ConnectIo} (hio : t.client = none → io.Reaches) :
    ∃ t' c, t.connect io = (t', .ok ()) ∧ t'.toCANProcessTransport = t.toCANProcessTransport ∧
      t'.client = some c ∧ c.txFile = .opened := by
  rcases t.connect_cases io with ⟨⟨c, hc⟩, hconnect⟩ | ⟨-, -, c, hconnect, hfile⟩ | ⟨hnone, hnot, -⟩
  · exact ⟨t, c, hconnect, rfl, hc, h c hc⟩
  · exact ⟨_, c, hconnect, rfl, rfl, hfile⟩
  · exact absurd (hio hnone) hnot

/-- A connect whose rounds lead nowhere raises, with a client taken. -/
theorem connect_of_not_reaches {io : ConnectIo} (hio : ¬ (t.client = none → io.Reaches)) :
    ∃ c e, t.connect io = ({ t with client := some c }, .error e) := by
  obtain ⟨hnone, hnot⟩ := Classical.not_imp.mp hio
  rcases t.connect_cases io with ⟨⟨c, hc⟩, -⟩ | ⟨-, hreaches, -⟩ | ⟨-, -, hraises⟩
  · rw [hnone] at hc
    cases hc
  · exact absurd hreaches hnot
  · exact hraises

/-- **A send** that is offered to the daemon over an open channel. -/
theorem sendFrame_offered {frame : CANFrame} (hframe : frame.Standard) {io : ConnectIo}
    {t' : Transport K} {c : CANProcessClient} (hconnect : t.connect io = (t', .ok ()))
    (hclient : t'.client = some c) (hfile : c.txFile = .opened) (exchange : TxIo) (now : K) :
    (exchange.Answered ∧ exchange.accepted = true ∧ t.sendFrame frame io exchange now =
      ({ t' with toCANProcessTransport := t'.toCANProcessTransport.rememberTxFrame frame now }, .ok ())) ∨
    (¬ (exchange.Answered ∧ exchange.accepted = true) ∧
      ∃ e, t.sendFrame frame io exchange now = (t', .error e)) := by
  cases hsend : c.send exchange with
  | ok u =>
      obtain ⟨hanswered, haccepted⟩ := (c.send_ok_iff hfile exchange).mp hsend
      refine Or.inl ⟨hanswered, haccepted, ?_⟩
      simp only [sendFrame, hframe, hconnect, hclient, hsend, if_true]
  | error e =>
      refine Or.inr ⟨?_, e, ?_⟩
      · rw [← c.send_ok_iff hfile exchange, hsend]
        exact fun h => by cases h
      · simp only [sendFrame, hframe, hconnect, hclient, hsend, if_true]

theorem sound_of_client {c : CANProcessClient} (hclient : t.client = some c) (hfile : c.txFile = .opened) :
    t.Sound := by
  intro c' hc'
  cases hclient.symm.trans hc'
  exact hfile

/-! ### Calls that are spared -/

/-- A call keeps the promises, and leaves a sound transport for the next. -/
def Keeps (t : Transport K) (call : TransportCall K) : Prop :=
  Truthful (entry step t call) ∧ (t.step call).1.Sound

/-- A call with which the daemon takes no frame keeps the promises when it leaves a sound transport with
its memory as it was, and its connect, if it makes one, returns. -/
theorem keeps_of_not_taken {call : TransportCall K} {t' : Transport K} {out : Except ClientError Unit}
    (hstep : t.step call = (t', out)) (hsound : t'.Sound)
    (hmemory : t'.toCANProcessTransport = t.toCANProcessTransport)
    (hconnect : ∀ io, call.connectIo? = some io → ∀ err, (t.connect io).2 ≠ .error err)
    (htaken : ¬ t.Taken call)
    (hout : ∀ frame io exchange now, call = .sendFrame frame io exchange now → out ≠ .ok ()) :
    t.Keeps call := by
  have hafter : (t.step call).1 = t' := congrArg Prod.fst hstep
  refine ⟨⟨?_, ?_, ?_, ?_⟩, by rw [hafter]; exact hsound⟩
  · rw [entry_after, hafter]
    exact isConnected_iff_of_sound hsound
  · intro io hio err herr
    exact absurd herr (hconnect io hio err)
  · intro frame io exchange now hcall
    refine ⟨fun hremembered => ?_, fun h => absurd h htaken⟩
    rw [entry_out, hstep] at hremembered
    exact absurd hremembered.1 (hout frame io exchange now hcall)
  · intro _
    rw [entry_after, hafter]
    exact hmemory

theorem connect_keeps (h : t.Sound) {io : ConnectIo} (hspared : t.Spared (.connect io)) :
    t.Keeps (.connect io) := by
  obtain ⟨t', c, hconnect, hmemory, hclient, hfile⟩ := connect_of_reaches h hspared
  refine keeps_of_not_taken hconnect (sound_of_client hclient hfile) hmemory ?_ id (by simp)
  intro io' hio' err herr
  cases hio'
  rw [hconnect] at herr
  cases herr

theorem close_keeps (h : t.Sound) {io : CloseIo} (hspared : t.Spared (.close io)) :
    t.Keeps (.close io) := by
  have hquiet : ∀ io', (TransportCall.close io : TransportCall K).connectIo? = some io' →
      ∀ err, (t.connect io').2 ≠ .error err := by simp [TransportCall.connectIo?]
  cases hclient : t.client with
  | none =>
      have hstep : t.step (.close io) = (t, .ok ()) := by simp only [step, close, hclient]
      exact keeps_of_not_taken hstep h rfl hquiet id (by simp)
  | some c =>
      have hstep : t.step (.close io) = ({ t with client := none }, .ok ()) := by
        simp only [step, close, hclient, CANProcessClient.close_of_closesClean (hspared c hclient)]
      refine keeps_of_not_taken hstep ?_ rfl hquiet id (by simp)
      intro c' hc'
      cases hc'

theorem registerCallback_keeps (h : t.Sound) (canId : ℤ) : t.Keeps (.registerCallback canId) := by
  have hquiet : ∀ io', (TransportCall.registerCallback canId : TransportCall K).connectIo? = some io' →
      ∀ err, (t.connect io').2 ≠ .error err := by simp [TransportCall.connectIo?]
  cases hclient : t.client with
  | none =>
      have hstep : t.step (.registerCallback canId) = (t, .error (.other (.runtimeError
          "CAN process transport must be connected before callback registration"))) := by
        simp only [step, registerCallback, hclient]
      exact keeps_of_not_taken hstep h rfl hquiet id (by simp)
  | some c =>
      have hstep : t.step (.registerCallback canId) =
          ({ t with client := some (c.registerCallback canId) }, .ok ()) := by
        simp only [step, registerCallback, hclient]
      exact keeps_of_not_taken hstep (sound_of_client rfl (h c hclient)) rfl hquiet id (by simp)

theorem received_keeps (h : t.Sound) (line : Line) (makesFrame : Bool) :
    t.Keeps (.received line makesFrame) := by
  have hquiet : ∀ io', (TransportCall.received line makesFrame : TransportCall K).connectIo? = some io' →
      ∀ err, (t.connect io').2 ≠ .error err := by simp [TransportCall.connectIo?]
  have hstep : t.step (.received line makesFrame) = (t.received line makesFrame, .ok ()) := rfl
  refine keeps_of_not_taken hstep ?_ rfl hquiet id (by simp)
  intro c hc
  obtain ⟨c₀, hc₀, rfl⟩ := Option.map_eq_some_iff.mp hc
  rw [c₀.txFile_receive]
  exact h c₀ hc₀

/-- The daemon is offered the frame once the connect has returned. -/
theorem taken_iff {frame : CANFrame} (hframe : frame.Standard) {io : ConnectIo} {t' : Transport K}
    {c : CANProcessClient} (hconnect : t.connect io = (t', .ok ())) (hclient : t'.client = some c)
    (hfile : c.txFile = .opened) (exchange : TxIo) (now : K) :
    t.Taken (.sendFrame frame io exchange now) ↔ exchange.accepted = true := by
  simp only [Taken, hconnect, hframe, true_and]
  exact and_iff_right ⟨c, hclient, hfile⟩

/-- A refused id goes nowhere. -/
theorem sendFrame_keeps_of_not_standard (h : t.Sound) {frame : CANFrame} (hframe : ¬ frame.Standard)
    (io : ConnectIo) (exchange : TxIo) (now : K) : t.Keeps (.sendFrame frame io exchange now) := by
  have hstep : t.step (.sendFrame frame io exchange now) =
      (t, .error (.other (.valueError "Only standard 11-bit CAN IDs are supported"))) := by
    simp only [step, sendFrame, hframe, if_false]
  refine keeps_of_not_taken hstep h rfl ?_ (fun htaken => hframe htaken.1) (by simp)
  simp [TransportCall.connectIo?, hframe]

theorem sendFrame_keeps (h : t.Sound) {frame : CANFrame} {io : ConnectIo} {exchange : TxIo} {now : K}
    (hspared : t.Spared (.sendFrame frame io exchange now)) :
    t.Keeps (.sendFrame frame io exchange now) := by
  by_cases hframe : frame.Standard
  swap
  · exact sendFrame_keeps_of_not_standard h hframe io exchange now
  obtain ⟨hio, hanswer⟩ := hspared hframe
  obtain ⟨t', c, hconnect, hmemory, hclient, hfile⟩ := connect_of_reaches h hio
  have htaken := taken_iff hframe hconnect hclient hfile exchange now
  have hreturns : ∀ io', (TransportCall.sendFrame frame io exchange now).connectIo? = some io' →
      ∀ err, (t.connect io').2 ≠ .error err := by
    intro io' hio' err herr
    simp only [TransportCall.connectIo?, hframe, if_true, Option.some_inj] at hio'
    rw [← hio', hconnect] at herr
    cases herr
  rcases sendFrame_offered hframe hconnect hclient hfile exchange now with
    ⟨-, haccepted, hsend⟩ | ⟨hnot, e, hsend⟩
  · have hstep : t.step (.sendFrame frame io exchange now) = _ := hsend
    have hsound : (t.step (.sendFrame frame io exchange now)).1.Sound := by
      rw [hstep]
      exact sound_of_client hclient hfile
    refine ⟨⟨isConnected_iff_of_sound hsound, ?_, ?_, ?_⟩, hsound⟩
    · intro io' hio' err herr
      exact absurd herr (hreturns io' hio' err)
    · intro frame' io' exchange' now' hcall
      cases hcall
      rw [entry_out, entry_after, entry_before, entry_input, hstep, htaken, hmemory]
      simp [haccepted]
    · intro hlost
      exact absurd (htaken.mpr haccepted) hlost
  · refine keeps_of_not_taken hsend (sound_of_client hclient hfile) hmemory hreturns ?_ (by simp)
    rw [htaken]
    exact fun haccepted => hnot ⟨hanswer haccepted, haccepted⟩

/-! ### Calls that are not -/

/-- A connect that raises leaves a client behind: the transport is not as it was, and does not connect
again. -/
theorem not_truthful_of_connect_error {call : TransportCall K} {io : ConnectIo} {c : CANProcessClient}
    {e : ClientError} (hcall : call.connectIo? = some io)
    (hconnect : t.connect io = ({ t with client := some c }, .error e))
    (hafter : (t.step call).1 = { t with client := some c }) : ¬ Truthful (entry step t call) := by
  intro htruthful
  have hlost := (htruthful.restored io hcall e (congrArg Prod.snd hconnect)).2
  rw [entry_after, hafter] at hlost
  cases hlost

theorem connect_breaks {io : ConnectIo} (hspared : ¬ t.Spared (.connect io)) :
    ¬ Truthful (entry step t (.connect io)) := by
  obtain ⟨c, e, hconnect⟩ := connect_of_not_reaches hspared
  refine not_truthful_of_connect_error rfl hconnect ?_
  exact congrArg Prod.fst hconnect

/-- A close that does not return keeps the client, with its transmit file closed or gone. -/
theorem close_breaks {io : CloseIo} (hspared : ¬ t.Spared (.close io)) :
    ¬ Truthful (entry step t (.close io)) := by
  intro htruthful
  simp only [Spared, not_forall] at hspared
  obtain ⟨c, hclient, hdirty⟩ := hspared
  obtain ⟨hok, hfile⟩ := c.close_spec io
  cases hclose : c.close io with
  | mk c' result =>
      rw [hclose] at hok hfile
      cases result with
      | ok u => exact absurd (hok.mp rfl) hdirty
      | error e =>
          have hafter : (entry step t (.close io)).after = { t with client := some c' } := by
            simp only [entry_after, step, close, hclient, hclose]
          have hopen := htruthful.connected.mp (by rw [hafter]; rfl)
          rw [hafter] at hopen
          obtain ⟨c'', hc'', hfile''⟩ := hopen
          cases hc''
          exact absurd hfile'' hfile

theorem sendFrame_breaks (h : t.Sound) {frame : CANFrame} {io : ConnectIo} {exchange : TxIo} {now : K}
    (hspared : ¬ t.Spared (.sendFrame frame io exchange now)) :
    ¬ Truthful (entry step t (.sendFrame frame io exchange now)) := by
  obtain ⟨hframe, hfails⟩ := Classical.not_imp.mp hspared
  by_cases hio : t.client = none → io.Reaches
  · -- the daemon took the frame, and the call raised for want of an answer
    obtain ⟨haccepted, hlost⟩ := Classical.not_imp.mp fun hanswer => hfails ⟨hio, hanswer⟩
    obtain ⟨t', c, hconnect, -, hclient, hfile⟩ := connect_of_reaches h hio
    have htaken := taken_iff hframe hconnect hclient hfile exchange now
    rcases sendFrame_offered hframe hconnect hclient hfile exchange now with
      ⟨hanswered, -⟩ | ⟨-, e, hsend⟩
    · exact absurd hanswered hlost
    · intro htruthful
      have hstep : t.step (.sendFrame frame io exchange now) = (t', .error e) := hsend
      have hremembered := (htruthful.remembered frame io exchange now rfl).mpr (htaken.mpr haccepted)
      rw [entry_out, hstep] at hremembered
      cases hremembered.1
  · obtain ⟨c, e, hconnect⟩ := connect_of_not_reaches hio
    refine not_truthful_of_connect_error ?_ hconnect ?_
    · simp only [TransportCall.connectIo?, hframe, if_true]
    · simp only [step, sendFrame, hframe, hconnect, if_true]

/-! ## Whole runs -/

theorem keeps_of_spared (h : t.Sound) {call : TransportCall K} (hspared : t.Spared call) :
    t.Keeps call := by
  cases call with
  | connect io => exact connect_keeps h hspared
  | close io => exact close_keeps h hspared
  | registerCallback canId => exact registerCallback_keeps h canId
  | sendFrame frame io exchange now => exact sendFrame_keeps h hspared
  | received line makesFrame => exact received_keeps h line makesFrame

/-- **What one call must be spared to keep the promises.** -/
theorem truthful_iff_spared (h : t.Sound) (call : TransportCall K) :
    Truthful (entry step t call) ↔ t.Spared call := by
  constructor
  · intro htruthful
    by_contra hspared
    cases call with
    | connect io => exact connect_breaks hspared htruthful
    | close io => exact close_breaks hspared htruthful
    | registerCallback canId => exact hspared trivial
    | sendFrame frame io exchange now => exact sendFrame_breaks h hspared htruthful
    | received line makesFrame => exact hspared trivial
  · intro hspared
    exact (keeps_of_spared h hspared).1

/-- **Which runs the transport is truthful in**: those in which every connect that has to be made leads to
a connection, everything open closes and no close is kept waiting by the receive thread, and no answer to
a frame the daemon took is lost. -/
theorem transport_truthful_iff (calls : List (TransportCall K)) :
    (∀ e ∈ trace step {} calls, Truthful e) ↔ ∀ e ∈ trace step {} calls, e.before.Spared e.input := by
  refine trace_forall_iff (P := Sound) ?_ ?_ sound_fresh calls
  · intro t call h
    exact truthful_iff_spared h call
  · intro t call h hspared
    exact (keeps_of_spared h hspared).2

/-- A send that is spared moves the memory as the echo filter's own send does: the daemon's verdict is
all it depends on. -/
theorem sendFrame_memory [Field K] [LinearOrder K] (h : t.Sound) {frame : CANFrame} {io : ConnectIo}
    {exchange : TxIo} {now : K} (hspared : t.Spared (.sendFrame frame io exchange now)) :
    (t.step (.sendFrame frame io exchange now)).1.toCANProcessTransport =
      (t.toCANProcessTransport.echoStep ⟨now, .sendFrame exchange.accepted frame⟩).1 := by
  have htruthful := (sendFrame_keeps h hspared).1
  by_cases hframe : frame.Standard
  · obtain ⟨t', c, hconnect, -, hclient, hfile⟩ := connect_of_reaches h (hspared hframe).1
    have htaken := taken_iff hframe hconnect hclient hfile exchange now
    cases haccepted : exchange.accepted with
    | true =>
        have hremembered := (htruthful.remembered frame io exchange now rfl).mpr (htaken.mpr haccepted)
        rw [entry_after, entry_before] at hremembered
        rw [hremembered.2]
        simp only [CANProcessTransport.echoStep, CANProcessTransport.send, Hal.sendFrame, if_neg hframe,
          if_true, Except.map]
    | false =>
        have hkept := htruthful.kept (by rw [entry_before, entry_input, htaken, haccepted]; simp)
        rw [entry_after, entry_before] at hkept
        rw [hkept]
        simp [CANProcessTransport.echoStep, CANProcessTransport.send, Hal.sendFrame, if_neg hframe,
          Except.map]
  · have hkept := htruthful.kept fun htaken => hframe htaken.1
    rw [entry_after, entry_before] at hkept
    rw [hkept]
    simp only [CANProcessTransport.echoStep, CANProcessTransport.send, Hal.sendFrame,
      if_pos (not_not.mp hframe), Except.map]

/-- The echo filter's view of a call. -/
def echoEvent? : TransportCall K → Option (CANProcessTransport.EchoEvent K)
  | .sendFrame frame _ exchange now => some ⟨now, .sendFrame exchange.accepted frame⟩
  | _ => none

/-- **The memory of a whole run** that is spared is the echo filter's over the sends of the run. -/
theorem memory_of_spared [Field K] [LinearOrder K] (calls : List (TransportCall K))
    (hspared : ∀ e ∈ trace step {} calls, e.before.Spared e.input) :
    (final step {} calls).Sound ∧ (final step {} calls).toCANProcessTransport =
      final CANProcessTransport.echoStep {} (calls.filterMap echoEvent?) := by
  induction calls using List.reverseRecOn with
  | nil => exact ⟨sound_fresh, rfl⟩
  | append_singleton calls call ih =>
      rw [trace_concat] at hspared
      obtain ⟨hsound, hmemory⟩ := ih fun e he => hspared e (List.mem_append_left _ he)
      have hcall := hspared _ (List.mem_append_right _ List.mem_cons_self)
      obtain ⟨htruthful, hnext⟩ := keeps_of_spared hsound hcall
      rw [final_concat, List.filterMap_append, final_append]
      refine ⟨hnext, ?_⟩
      cases call with
      | sendFrame frame io exchange now =>
          rw [sendFrame_memory hsound hcall, hmemory]
          rfl
      | connect io => exact (htruthful.kept id).trans hmemory
      | close io => exact (htruthful.kept id).trans hmemory
      | registerCallback canId => exact (htruthful.kept id).trans hmemory
      | received line makesFrame => exact (htruthful.kept id).trans hmemory

/-- A daemon that acknowledges both roles. -/
def acked : ConnectIo where
  last := ⟨⟨true, true, .object ⟨some "hello_ack", true, none⟩⟩,
    ⟨true, true, .object ⟨some "hello_ack", true, none⟩⟩, {}⟩

/-- A daemon that takes the frame and says so. -/
def taken : TxIo where
  writes := true
  line := .object ⟨some "tx_result", true, none⟩
  accepted := true
  honest := by
    intro m hm _
    cases hm
    rfl

/-- A send on a fresh transport, a frame from the bus, and a close during which the bus is not silent. -/
theorem transport_truthful_send_close :
    ∀ e ∈ trace step ({} : Transport ℚ) [.sendFrame ⟨0x101, [1]⟩ acked taken 0,
        .received (.object ⟨some "rx", false, none⟩) true, .close { readerLeaves := true }],
      Truthful e := by
  refine (transport_truthful_iff _).mpr ?_
  intro e he
  simp only [trace, List.mem_cons, List.not_mem_nil, or_false] at he
  rcases he with rfl | rfl | rfl
  · intro _
    exact ⟨fun _ => ⟨rfl, rfl⟩, fun _ => ⟨rfl, _, rfl, rfl⟩⟩
  · trivial
  · intro c _
    simp [CANProcessClient.ClosesClean, Handle.breaks, CANProcessClient.readerHolds]

/-- A daemon that is not there: the socket does not connect, and the deadline has passed. -/
def unreachable : ConnectIo where
  last := ⟨⟨false, false, .closed⟩, ⟨false, false, .closed⟩, {}⟩

/-- After a connect that raised the transport says it is connected, a second connect returns at once, and
a send raises over a client that was never connected. And a close on a silent bus does not return, and
leaves the transport connected over a client without a transmit file. -/
theorem transport_untruthful_after_timeout :
    ¬ (∀ e ∈ trace step ({} : Transport ℚ) [.connect unreachable], Truthful e) ∧
      (trace step ({} : Transport ℚ)
        [.connect unreachable, .connect acked, .sendFrame ⟨0x101, []⟩ acked taken 0]).map
          (fun e => (e.out, e.after.isConnected)) =
        [(.error (.osError "connect failed"), true), (.ok (), true),
          (.error (.other (.runtimeError "CAN daemon client is not connected")), true)] ∧
      (trace step ({} : Transport ℚ) [.connect acked, .close {}]).map
          (fun e => (e.out, e.after.isConnected, e.after.client.map CANProcessClient.txFile)) =
        [(.ok (), true, some .opened), (.error .blocked, true, some .absent)] := by
  refine ⟨?_, rfl, rfl⟩
  intro h
  have hlost := ((h _ List.mem_cons_self).restored unreachable rfl _ rfl).2
  cases hlost

end Transport

end SparqControl.Hal
