/-
# SparqControl.CanDaemon.TxLoop — the transmit side of the CAN daemon.

`CANDaemon.send` only queues a frame; the transmit thread takes frames off the queue and hands them
to the bus, and it tests the stop flag BEFORE each dequeue. A `stop()` sets the flag, waits for the
thread and forgets it. The model has every thread of the source as its own program counter: any
number of clients that send, any number of `start()` and `stop()` calls in progress, and every
transmit thread ever started. One event is one step of one of them.

The count that carries the proofs is `committed`: frames handed over, the frame in the thread's
hands, and the one a thread that is already past its test will still take. No step ever lowers it,
and when the thread has exited it is the number of frames handed over.
-/
import SparqControl.Hal.CanFrame
import SparqControl.Lib.Slots
import SparqControl.Lib.Trace

namespace SparqControl.CanDaemon

open SparqControl.Hal
open SparqControl.Lib.Slots
open SparqControl.Lib.Trace

/-! ## The daemon and its threads -/

/-- Where a transmit thread stands in `_tx_loop`. -/
inductive TxPhase where
  /-- at the loop test, `while not self._stop_event.is_set()` -/
  | check
  /-- inside `self._tx_queue.get(timeout=...)` -/
  | get
  /-- holding a frame, about to call `self.can_bus.send_frame(frame)` -/
  | send (frame : CANFrame)
  | exited
  deriving DecidableEq

/-- Where a `stop()` call that found the daemon started stands. -/
inductive StopPhase where
  /-- the flag is set, the thread reference not read yet -/
  | joining
  /-- inside `join` on the thread it read -/
  | waiting (thread : ℕ)
  /-- about to take the lock again and forget the threads -/
  | closing
  | returned
  deriving DecidableEq

/-- `CANDaemon`, its transmit threads in the order they were started, and the `stop()` calls in the
order they got past the first lock. -/
structure CANDaemon where
  stopEvent : Bool := false
  started : Bool := false
  txThread : Option ℕ := none
  txThreads : List TxPhase := []
  txQueue : List CANFrame := []
  stopCalls : List StopPhase := []

/-- One step of one of the threads. -/
inductive DaemonEvent where
  | send (frame : CANFrame)
  | start
  | stop
  | stopStep (call : ℕ)
  | txStep (thread : ℕ)
  deriving DecidableEq

/-- What a step did that somebody outside the daemon can see. -/
inductive DaemonOut where
  | none
  | accepted (frame : CANFrame)
  | rejected (frame : CANFrame)
  | transmitted (frame : CANFrame)
  | threadsStarted
  | stopBegan (call : ℕ)
  | stopNotStarted
  | stopReturned (call : ℕ)
  deriving DecidableEq

namespace CANDaemon

/-- `queue.Queue(maxsize=max_tx_queue_size)` has no room left. A size that is not positive means no
bound. -/
def full (maxTxQueueSize : ℤ) (d : CANDaemon) : Bool :=
  0 < maxTxQueueSize && maxTxQueueSize ≤ d.txQueue.length

/-- `send`: `True` once the frame is queued. A blocking put is this step at the moment it ends. -/
def send (maxTxQueueSize : ℤ) (d : CANDaemon) (frame : CANFrame) : CANDaemon × DaemonOut :=
  if d.full maxTxQueueSize then (d, .rejected frame)
  else ({ d with txQueue := d.txQueue ++ [frame] }, .accepted frame)

/-- `start`, which runs under the lock. -/
def start (d : CANDaemon) : CANDaemon × DaemonOut :=
  if d.started then (d, .none)
  else
    ({ d with
        stopEvent := false
        txThread := some d.txThreads.length
        txThreads := d.txThreads ++ [.check]
        started := true }, .threadsStarted)

/-- The first locked block of `stop`. -/
def stop (d : CANDaemon) : CANDaemon × DaemonOut :=
  if d.started then
    ({ d with stopEvent := true, stopCalls := d.stopCalls ++ [.joining] },
      .stopBegan d.stopCalls.length)
  else (d, .stopNotStarted)

/-- One step of a `stop()` call after its first locked block. A join that is not over does not
move. -/
def stopStep (d : CANDaemon) (call : ℕ) : CANDaemon × DaemonOut :=
  match d.stopCalls[call]? with
  | some .joining =>
      let next := match d.txThread with
        | none => StopPhase.closing
        | some t => .waiting t
      ({ d with stopCalls := d.stopCalls.set call next }, .none)
  | some (.waiting t) =>
      if d.txThreads[t]? = some .exited then
        ({ d with stopCalls := d.stopCalls.set call .closing }, .none)
      else (d, .none)
  | some .closing =>
      ({ d with
          started := false
          txThread := none
          stopCalls := d.stopCalls.set call .returned }, .stopReturned call)
  | _ => (d, .none)

/-- One step of `_tx_loop`. A `get` on an empty queue ends by its timeout. -/
def txStep (d : CANDaemon) (thread : ℕ) : CANDaemon × DaemonOut :=
  match d.txThreads[thread]? with
  | some .check =>
      let next := if d.stopEvent then TxPhase.exited else .get
      ({ d with txThreads := d.txThreads.set thread next }, .none)
  | some .get =>
      match d.txQueue with
      | [] => ({ d with txThreads := d.txThreads.set thread .check }, .none)
      | frame :: rest =>
          ({ d with txThreads := d.txThreads.set thread (.send frame), txQueue := rest }, .none)
  | some (.send frame) =>
      ({ d with txThreads := d.txThreads.set thread .check }, .transmitted frame)
  | _ => (d, .none)

/-- One step of one of the daemon's threads. -/
def step (maxTxQueueSize : ℤ) (d : CANDaemon) : DaemonEvent → CANDaemon × DaemonOut
  | .send frame => d.send maxTxQueueSize frame
  | .start => d.start
  | .stop => d.stop
  | .stopStep call => d.stopStep call
  | .txStep thread => d.txStep thread

end CANDaemon

/-! ## Runs -/

/-- One recorded step of the daemon. -/
abbrev DaemonEntry := Entry CANDaemon DaemonEvent DaemonOut

/-- A recorded run of a newly constructed daemon. -/
def daemonRun (maxTxQueueSize : ℤ) (events : List DaemonEvent) : List DaemonEntry :=
  trace (CANDaemon.step maxTxQueueSize) {} events

/-- The frame a step accepted. -/
def DaemonOut.accepted? : DaemonOut → Option CANFrame
  | accepted frame => some frame
  | _ => Option.none

/-- The frame a step handed to the bus. -/
def DaemonOut.transmitted? : DaemonOut → Option CANFrame
  | transmitted frame => some frame
  | _ => Option.none

/-- The frames `send` returned `True` for, in the order of acceptance. -/
def acceptedFrames (tr : List DaemonEntry) : List CANFrame := tr.filterMap (·.out.accepted?)

/-- The frames handed to `can_bus.send_frame`, in the order of the calls. -/
def transmittedFrames (tr : List DaemonEntry) : List CANFrame := tr.filterMap (·.out.transmitted?)

/-- A `stop()` call begins at this step, whether or not it finds the daemon started. -/
def beginsStop (e : DaemonEntry) : Prop :=
  e.out = .stopNotStarted ∨ ∃ call, e.out = .stopBegan call

/-- **What clients rely on.** Frames reach the bus once each and in the order of acceptance; a
`stop()` returns, and a later `start()` begins, only when every frame accepted before that `stop()`
began has been handed over. -/
structure Delivers (tr : List DaemonEntry) : Prop where
  in_order : ∀ n, transmittedFrames (tr.take n) <+: acceptedFrames (tr.take n)
  before_return : ∀ b r eb er call, tr[b]? = some eb → eb.out = .stopBegan call →
    tr[r]? = some er → er.out = .stopReturned call →
    acceptedFrames (tr.take b) <+: transmittedFrames (tr.take r)
  before_return_not_started : ∀ b eb, tr[b]? = some eb → eb.out = .stopNotStarted →
    acceptedFrames (tr.take b) <+: transmittedFrames (tr.take b)
  before_restart : ∀ b t eb et, tr[b]? = some eb → beginsStop eb → b < t → tr[t]? = some et →
    et.out = .threadsStarted → acceptedFrames (tr.take b) <+: transmittedFrames (tr.take t)

/-! ## One live thread -/

namespace CANDaemon

/-- Where the thread the daemon knows stands; with no thread, nothing is left to run. -/
def current (d : CANDaemon) : TxPhase := (d.txThread.bind (d.txThreads[·]?)).getD .exited

/-- The frame the transmit thread holds. -/
def inFlight (d : CANDaemon) : List CANFrame :=
  match d.current with
  | .send frame => [frame]
  | _ => []

/-- The frames a thread that is past its test will still take. -/
def promised (d : CANDaemon) : ℕ :=
  match d.current with
  | .get => min 1 d.txQueue.length
  | _ => 0

/-- A `stop()` call that has begun and not returned. -/
def stopInProgress (d : CANDaemon) : Prop :=
  ∃ phase ∈ d.stopCalls, phase ≠ .returned

instance (d : CANDaemon) : Decidable d.stopInProgress :=
  inferInstanceAs (Decidable (∃ phase ∈ d.stopCalls, phase ≠ .returned))

/-- At most one transmit thread is alive, it is the one the daemon knows, and a `stop()` call that is
done waiting finds none. -/
structure OneThread (d : CANDaemon) : Prop where
  live : ∀ t phase, d.txThreads[t]? = some phase → phase ≠ .exited → d.txThread = some t
  stopped : d.started = false → d.txThread = none
  waiting : ∀ (call t : ℕ), d.stopCalls[call]? = some (.waiting t) →
    d.txThread = some t ∨ d.txThread = none
  closing : ∀ call : ℕ, d.stopCalls[call]? = some .closing → d.current = .exited

theorem current_of_none {d : CANDaemon} (h : d.txThread = none) : d.current = .exited := by
  simp [current, h]

theorem current_of_some {d : CANDaemon} {t : ℕ} {phase : TxPhase} (h : d.txThread = some t)
    (ht : d.txThreads[t]? = some phase) : d.current = phase := by
  simp [current, h, ht]

/-- The known thread in another phase. -/
theorem current_set {d : CANDaemon} {t : ℕ} {phase : TxPhase} (h : d.txThread = some t)
    (ht : d.txThreads[t]? = some phase) (next : TxPhase) (queue : List CANFrame) :
    ({ d with txThreads := d.txThreads.set t next, txQueue := queue } : CANDaemon).current =
      next := by
  have hlt : t < d.txThreads.length := (List.getElem?_eq_some_iff.mp ht).1
  simp [current, h, hlt]

/-- A live thread moves: it is the known one, and no `stop()` call is done waiting for it. -/
theorem OneThread.move {d : CANDaemon} (h : OneThread d) {t : ℕ} {phase : TxPhase}
    (ht : d.txThreads[t]? = some phase) (hlive : phase ≠ .exited) (next : TxPhase)
    (queue : List CANFrame) :
    OneThread { d with txThreads := d.txThreads.set t next, txQueue := queue } := by
  have hthread := h.live t phase ht hlive
  refine ⟨fun t' phase' ht' hlive' => ?_, h.stopped, h.waiting, fun call hcall => ?_⟩
  · by_cases heq : t = t'
    · exact heq ▸ hthread
    · rw [List.getElem?_set_ne heq] at ht'
      exact h.live t' phase' ht' hlive'
  · have hexited := h.closing call hcall
    rw [current_of_some hthread ht] at hexited
    exact absurd hexited hlive

/-! ## What one step keeps -/

/-- What a step does to the frames: none is lost or doubled between the queue, the thread's hands and
the bus, their order stays, and the frames committed to the bus do not become fewer. -/
structure Conserves (d : CANDaemon) (result : CANDaemon × DaemonOut) : Prop where
  oneThread : OneThread result.1
  flow : d.inFlight ++ d.txQueue ++ result.2.accepted?.toList =
    result.2.transmitted?.toList ++ (result.1.inFlight ++ result.1.txQueue)
  committed : d.inFlight.length + d.promised ≤
    result.2.transmitted?.toList.length + result.1.inFlight.length + result.1.promised

/-- A step that shows nothing and leaves queue and thread alone. -/
theorem Conserves.of_same {d d' : CANDaemon} {out : DaemonOut} (h : OneThread d')
    (hcurrent : d'.current = d.current) (hqueue : d'.txQueue = d.txQueue)
    (hacc : out.accepted? = none) (htx : out.transmitted? = none) : Conserves d (d', out) := by
  refine ⟨h, ?_, ?_⟩
  · simp [inFlight, hcurrent, hqueue, hacc, htx]
  · simp [inFlight, promised, hcurrent, hqueue, htx]

theorem send_conserves {d : CANDaemon} (h : OneThread d) (maxTxQueueSize : ℤ) (frame : CANFrame) :
    Conserves d (d.send maxTxQueueSize frame) := by
  unfold send
  split
  · exact .of_same h rfl rfl rfl rfl
  · have hcurrent : ({ d with txQueue := d.txQueue ++ [frame] } : CANDaemon).current = d.current :=
      rfl
    refine ⟨⟨h.live, h.stopped, h.waiting, h.closing⟩, ?_, ?_⟩
    · simp [inFlight, hcurrent, DaemonOut.accepted?, DaemonOut.transmitted?]
    · simp only [inFlight, promised, hcurrent, DaemonOut.transmitted?]
      cases d.current <;> simp

theorem start_conserves {d : CANDaemon} (h : OneThread d)
    (hquiet : d.started = false → ¬ d.stopInProgress) : Conserves d d.start := by
  unfold start
  cases hstarted : d.started with
  | true => exact .of_same h rfl rfl rfl rfl
  | false =>
      have hnone := h.stopped hstarted
      have hbusy := hquiet hstarted
      have hcurrent : d.start.1.current = .check := by
        simp [start, hstarted, current]
      simp only [start, hstarted, Bool.false_eq_true, if_false] at hcurrent
      simp only [Bool.false_eq_true, if_false]
      refine ⟨⟨fun t phase ht hlive => ?_, fun hs => (Bool.noConfusion hs),
        fun call t hcall => ?_, fun call hcall => ?_⟩, ?_, ?_⟩
      · -- every older thread has exited, so a live one is the new one
        rcases Nat.lt_trichotomy t d.txThreads.length with hlt | rfl | hgt
        · rw [List.getElem?_append_left hlt] at ht
          have hthread := h.live t phase ht hlive
          rw [hnone] at hthread
          cases hthread
        · rfl
        · rw [List.getElem?_eq_none (by simp; omega)] at ht
          cases ht
      · exact absurd ⟨_, List.mem_of_getElem? hcall, by simp⟩ hbusy
      · exact absurd ⟨_, List.mem_of_getElem? hcall, by simp⟩ hbusy
      · simp [inFlight, hcurrent, current_of_none hnone, DaemonOut.accepted?,
          DaemonOut.transmitted?]
      · simp [inFlight, promised, hcurrent, current_of_none hnone]

theorem stop_conserves {d : CANDaemon} (h : OneThread d) : Conserves d d.stop := by
  unfold stop
  split
  · -- the new call is still joining, so it says nothing about the thread
    refine .of_same ⟨h.live, h.stopped, fun call t hcall => ?_, fun call hcall => ?_⟩ rfl rfl rfl rfl
    · rcases getElem?_concat_cases hcall with ⟨-, hnew⟩ | hold
      · cases hnew
      · exact h.waiting call t hold
    · rcases getElem?_concat_cases hcall with ⟨-, hnew⟩ | hold
      · cases hnew
      · exact h.closing call hold
  · exact .of_same h rfl rfl rfl rfl

/-- A call moves on and nothing else changes: what the other calls know stays true. -/
theorem OneThread.setCall {d : CANDaemon} (h : OneThread d) {call : ℕ} {next : StopPhase}
    (hwait : ∀ t, next = .waiting t → d.txThread = some t ∨ d.txThread = none)
    (hclose : next = .closing → d.current = .exited) :
    OneThread { d with stopCalls := d.stopCalls.set call next } := by
  refine ⟨h.live, h.stopped, fun call' t hcall' => ?_, fun call' hcall' => ?_⟩
  · rcases getElem?_set_cases hcall' with ⟨-, hnew⟩ | ⟨-, hold⟩
    · exact hwait t hnew
    · exact h.waiting call' t hold
  · rcases getElem?_set_cases hcall' with ⟨-, hnew⟩ | ⟨-, hold⟩
    · exact hclose hnew
    · exact h.closing call' hold

theorem stopStep_conserves {d : CANDaemon} (h : OneThread d) (call : ℕ) :
    Conserves d (d.stopStep call) := by
  unfold stopStep
  split
  · -- the call reads which thread to wait for
    refine .of_same (h.setCall (fun t ht => ?_) fun hclose => ?_) rfl rfl rfl rfl
    · split at ht
      · cases ht
      · rename_i t' hthread
        cases ht
        exact Or.inl hthread
    · split at hclose
      · rename_i hthread
        exact current_of_none hthread
      · cases hclose
  · rename_i t hcall
    split
    · rename_i hexited
      refine .of_same (h.setCall (fun t ht => (StopPhase.noConfusion ht)) fun _ => ?_) rfl rfl rfl rfl
      -- the thread it waited for is the known one or none is known
      rcases h.waiting call t hcall with hthread | hthread
      · exact current_of_some hthread hexited
      · exact current_of_none hthread
    · exact .of_same h rfl rfl rfl rfl
  · rename_i hcall
    have hexited := h.closing call hcall
    refine .of_same ⟨fun t phase ht hlive => ?_, fun _ => rfl, fun call' t hcall' => Or.inr rfl,
      fun call' hcall' => rfl⟩ hexited.symm rfl rfl rfl
    have hcurrent := current_of_some (h.live t phase ht hlive) ht
    exact absurd (hcurrent.symm.trans hexited) hlive
  · exact .of_same h rfl rfl rfl rfl

theorem txStep_conserves {d : CANDaemon} (h : OneThread d) (t : ℕ) : Conserves d (d.txStep t) := by
  unfold txStep
  split
  · rename_i ht
    have hcurrent := current_of_some (h.live t _ ht (by simp)) ht
    have hnext := current_set (h.live t _ ht (by simp)) ht
      (if d.stopEvent then .exited else .get) d.txQueue
    refine ⟨h.move ht (by simp) _ _, ?_, ?_⟩
    · simp only [inFlight, hcurrent, hnext]
      cases d.stopEvent <;> simp [DaemonOut.accepted?, DaemonOut.transmitted?]
    · simp [inFlight, promised, hcurrent]
  · rename_i ht
    have hthread := h.live t _ ht (by simp)
    have hcurrent := current_of_some hthread ht
    split
    · rename_i hqueue
      have hnext := current_set hthread ht .check d.txQueue
      refine ⟨h.move ht (by simp) _ _, ?_, ?_⟩
      · simp [inFlight, hcurrent, hnext, DaemonOut.accepted?, DaemonOut.transmitted?]
      · simp [inFlight, promised, hcurrent, hqueue]
    · rename_i frame rest hqueue
      have hnext := current_set hthread ht (.send frame) rest
      refine ⟨h.move ht (by simp) _ _, ?_, ?_⟩
      · simp [inFlight, hcurrent, hnext, hqueue, DaemonOut.accepted?, DaemonOut.transmitted?]
      · simp [inFlight, promised, hcurrent, hnext]
  · rename_i frame ht
    have hthread := h.live t _ ht (by simp)
    have hcurrent := current_of_some hthread ht
    have hnext := current_set hthread ht .check d.txQueue
    refine ⟨h.move ht (by simp) _ _, ?_, ?_⟩
    · simp [inFlight, hcurrent, hnext, DaemonOut.accepted?, DaemonOut.transmitted?]
    · simp [inFlight, promised, hcurrent, hnext, DaemonOut.transmitted?]
  · exact .of_same h rfl rfl rfl rfl

/-- **One step.** Whatever moves, the frames are conserved, provided a `start()` that takes effect
finds no `stop()` call in progress. -/
theorem step_conserves {d : CANDaemon} (h : OneThread d) (maxTxQueueSize : ℤ) (ev : DaemonEvent)
    (hquiet : ev = .start → d.started = false → ¬ d.stopInProgress) :
    Conserves d (d.step maxTxQueueSize ev) := by
  cases ev with
  | send frame => exact send_conserves h maxTxQueueSize frame
  | start => exact start_conserves h (hquiet rfl)
  | stop => exact stop_conserves h
  | stopStep call => exact stopStep_conserves h call
  | txStep t => exact txStep_conserves h t

/-! ## Which step showed what -/

/-- What a step that shows this found, and which event it was. -/
def Found (d : CANDaemon) (ev : DaemonEvent) : DaemonOut → Prop
  | .stopBegan call => ev = .stop ∧ call = d.stopCalls.length
  | .stopNotStarted => ev = .stop ∧ d.started = false
  | .stopReturned call => d.stopCalls[call]? = some .closing
  | .threadsStarted => d.started = false
  | _ => True

theorem step_found (maxTxQueueSize : ℤ) (d : CANDaemon) (ev : DaemonEvent) :
    Found d ev (d.step maxTxQueueSize ev).2 := by
  cases ev with
  | send frame =>
      simp only [step, send]
      split <;> trivial
  | start =>
      simp only [step, start]
      cases hstarted : d.started with
      | true => trivial
      | false => exact hstarted
  | stop =>
      simp only [step, stop]
      cases hstarted : d.started with
      | true => exact ⟨rfl, rfl⟩
      | false => exact ⟨rfl, hstarted⟩
  | stopStep call =>
      simp only [step, stopStep]
      split
      · trivial
      · split <;> trivial
      · assumption
      · trivial
  | txStep t =>
      simp only [step, txStep]
      split
      · trivial
      · split <;> trivial
      · trivial
      · trivial

/-- No step forgets a `stop()` call. -/
theorem step_stopCalls_length (maxTxQueueSize : ℤ) (d : CANDaemon) (ev : DaemonEvent) :
    d.stopCalls.length ≤ (d.step maxTxQueueSize ev).1.stopCalls.length := by
  cases ev with
  | send frame =>
      simp only [step, send]
      split <;> exact Nat.le_refl _
  | start =>
      simp only [step, start]
      split <;> exact Nat.le_refl _
  | stop =>
      simp only [step, stop]
      split
      · simp
      · exact Nat.le_refl _
  | stopStep call =>
      simp only [step, stopStep]
      split
      · simp
      · split <;> simp
      · simp
      · exact Nat.le_refl _
  | txStep t =>
      simp only [step, txStep]
      split
      · exact Nat.le_refl _
      · split <;> exact Nat.le_refl _
      · exact Nat.le_refl _
      · exact Nat.le_refl _

end CANDaemon

/-! ## Runs whose stops are quiet -/

/-- A step that leaves clients nothing to lose: a `stop()` begins when the queue holds nothing beyond
the one frame a thread inside `get` is about to take, and a `start()` takes effect only when no
`stop()` call is in progress. -/
structure QuietStep (e : DaemonEntry) : Prop where
  stop : e.input = .stop → e.before.txQueue.length ≤ e.before.promised
  start : e.input = .start → e.before.started = false → ¬ e.before.stopInProgress

instance (e : DaemonEntry) : Decidable (QuietStep e) :=
  decidable_of_iff ((e.input = .stop → e.before.txQueue.length ≤ e.before.promised) ∧
      (e.input = .start → e.before.started = false → ¬ e.before.stopInProgress))
    ⟨fun h => ⟨h.1, h.2⟩, fun h => ⟨h.stop, h.start⟩⟩

/-- What the record of a run says about the daemon it leads to. -/
structure Accounts (past : List DaemonEntry) (d : CANDaemon) : Prop where
  oneThread : d.OneThread
  flow : acceptedFrames past = transmittedFrames past ++ (d.inFlight ++ d.txQueue)

/-- The number of frames handed over or bound to be, whatever happens next. -/
def committed (past : List DaemonEntry) (d : CANDaemon) : ℕ :=
  (transmittedFrames past).length + d.inFlight.length + d.promised

theorem acceptedFrames_concat (past : List DaemonEntry) (e : DaemonEntry) :
    acceptedFrames (past ++ [e]) = acceptedFrames past ++ e.out.accepted?.toList :=
  filterMap_concat _ past e

theorem transmittedFrames_concat (past : List DaemonEntry) (e : DaemonEntry) :
    transmittedFrames (past ++ [e]) = transmittedFrames past ++ e.out.transmitted?.toList :=
  filterMap_concat _ past e

theorem accounts_step (maxTxQueueSize : ℤ) (past : List DaemonEntry) (d : CANDaemon)
    (ev : DaemonEvent) (h : Accounts past d)
    (hquiet : QuietStep (entry (CANDaemon.step maxTxQueueSize) d ev)) :
    Accounts (past ++ [entry (CANDaemon.step maxTxQueueSize) d ev])
      (d.step maxTxQueueSize ev).1 := by
  have hstep := CANDaemon.step_conserves h.oneThread maxTxQueueSize ev hquiet.start
  refine ⟨hstep.oneThread, ?_⟩
  rw [acceptedFrames_concat, transmittedFrames_concat, h.flow, entry_out, List.append_assoc,
    hstep.flow, List.append_assoc]

section Run

variable {maxTxQueueSize : ℤ} {events : List DaemonEvent}
  (hquiet : ∀ e ∈ daemonRun maxTxQueueSize events, QuietStep e)
include hquiet

theorem accounts_take (n : ℕ) :
    Accounts ((daemonRun maxTxQueueSize events).take n)
      (final (CANDaemon.step maxTxQueueSize) {} (events.take n)) := by
  refine trace_history_take ⟨⟨fun t phase ht => ?_, fun _ => rfl, fun call t hcall => ?_,
    fun call hcall => rfl⟩, rfl⟩ (accounts_step maxTxQueueSize) events n
    fun e he => hquiet e (List.mem_of_mem_take he)
  · cases ht
  · cases hcall

theorem accounts_before {n : ℕ} {e : DaemonEntry}
    (he : (daemonRun maxTxQueueSize events)[n]? = some e) :
    Accounts ((daemonRun maxTxQueueSize events).take n) e.before := by
  rw [before_eq_final _ he]
  exact accounts_take hquiet n

/-- Along a quiet run the committed frames never become fewer. -/
theorem committed_le {a b : ℕ} {ea eb : DaemonEntry}
    (ha : (daemonRun maxTxQueueSize events)[a]? = some ea) (hab : a ≤ b)
    (hb : (daemonRun maxTxQueueSize events)[b]? = some eb) :
    committed ((daemonRun maxTxQueueSize events).take a) ea.before ≤
      committed ((daemonRun maxTxQueueSize events).take b) eb.before := by
  refine trace_monotone (m := committed) (fun k ek hek => ?_) ha hab hb
  have hstep := CANDaemon.step_conserves (accounts_before hquiet hek).oneThread maxTxQueueSize
    ek.input (hquiet ek (List.mem_of_getElem? hek)).start
  have hcommitted := hstep.committed
  rw [trace_take_succ _ hek, committed, committed, transmittedFrames_concat, List.length_append,
    out_eq _ hek, after_eq _ hek]
  omega

/-- When no thread is left, every frame accepted before an earlier `stop()` began is on the bus. -/
theorem caught_up {b t : ℕ} {eb et : DaemonEntry}
    (hb : (daemonRun maxTxQueueSize events)[b]? = some eb) (hstop : eb.input = .stop) (hbt : b ≤ t)
    (ht : (daemonRun maxTxQueueSize events)[t]? = some et) (hexited : et.before.current = .exited) :
    acceptedFrames ((daemonRun maxTxQueueSize events).take b) <+:
      transmittedFrames ((daemonRun maxTxQueueSize events).take t) := by
  have hacc : acceptedFrames ((daemonRun maxTxQueueSize events).take b) <+:
      acceptedFrames ((daemonRun maxTxQueueSize events).take t) :=
    (List.take_prefix_take_left hbt).filterMap _
  have htx : transmittedFrames ((daemonRun maxTxQueueSize events).take t) <+:
      acceptedFrames ((daemonRun maxTxQueueSize events).take t) := by
    rw [(accounts_before hquiet ht).flow]
    exact List.prefix_append _ _
  refine List.prefix_of_prefix_length_le hacc htx ?_
  have hcommitted := committed_le hquiet hb hbt ht
  have hquietStop := (hquiet eb (List.mem_of_getElem? hb)).stop hstop
  have hempty : et.before.inFlight = [] ∧ et.before.promised = 0 := by
    simp [CANDaemon.inFlight, CANDaemon.promised, hexited]
  simp only [committed, hempty.1, hempty.2, List.length_nil] at hcommitted
  rw [(accounts_before hquiet hb).flow, List.length_append, List.length_append]
  omega

end Run

/-- **Accepted frames are transmitted.** In every run of client sends, transmit threads, `start()`
and `stop()` calls whose steps are all quiet, accepted frames reach the bus once each, in order, and
before every `stop()` that began after their acceptance returns. -/
theorem quiet_run_delivers (maxTxQueueSize : ℤ) (events : List DaemonEvent)
    (hquiet : ∀ e ∈ daemonRun maxTxQueueSize events, QuietStep e) :
    Delivers (daemonRun maxTxQueueSize events) := by
  have hfound : ∀ (n : ℕ) (e : DaemonEntry), (daemonRun maxTxQueueSize events)[n]? = some e →
      CANDaemon.Found e.before e.input e.out := by
    intro n e he
    rw [out_eq _ he]
    exact CANDaemon.step_found maxTxQueueSize e.before e.input
  refine ⟨fun n => ?_, fun b r eb er call hb hbegan hr hreturned => ?_, fun b eb hb hout => ?_,
    fun b t eb et hb hbegin hbt ht hout => ?_⟩
  · rw [(accounts_take hquiet n).flow]
    exact List.prefix_append _ _
  · have hbeganAt := hfound b eb hb
    have hclosing := hfound r er hr
    rw [hbegan] at hbeganAt
    rw [hreturned] at hclosing
    -- a call that returns is older than the calls that begin later
    have hbr : b ≤ r := by
      by_contra hlt
      have hgrow := trace_monotone (m := fun _ d => d.stopCalls.length)
        (fun k ek hek => by
          rw [after_eq _ hek]
          exact CANDaemon.step_stopCalls_length maxTxQueueSize ek.before ek.input) hr
        (Nat.le_of_not_le hlt) hb
      have hcall : call < er.before.stopCalls.length := (List.getElem?_eq_some_iff.mp hclosing).1
      have hnew : call = eb.before.stopCalls.length := hbeganAt.2
      omega
    exact caught_up hquiet hb hbeganAt.1 hbr hr
      ((accounts_before hquiet hr).oneThread.closing call hclosing)
  · have hfoundAt := hfound b eb hb
    rw [hout] at hfoundAt
    exact caught_up hquiet hb hfoundAt.1 (Nat.le_refl b) hb
      (CANDaemon.current_of_none ((accounts_before hquiet hb).oneThread.stopped hfoundAt.2))
  · have hstopped := hfound t et ht
    rw [hout] at hstopped
    have hstop : eb.input = .stop := by
      have hfoundAt := hfound b eb hb
      rcases hbegin with h | ⟨call, h⟩
      · rw [h] at hfoundAt
        exact hfoundAt.1
      · rw [h] at hfoundAt
        exact hfoundAt.1
    exact caught_up hquiet hb hstop (Nat.le_of_lt hbt) ht
      (CANDaemon.current_of_none ((accounts_before hquiet ht).oneThread.stopped hstopped))

/-! ## A disable frame at shutdown -/

/-- The disable frame of the actuator `0x101`. -/
def disableFrame : CANFrame := ⟨0x101, [0xC2, 0, 0, 0, 0, 0, 0, 0]⟩

/-- The frame is accepted, the transmit thread comes round to its test only after the `stop()`: the
call returns and the frame is still queued. -/
def lostAtShutdown : List DaemonEvent :=
  [.start, .send disableFrame, .stop, .txStep 0, .stopStep 0, .stopStep 0, .stopStep 0]

/-- The same frame, taken by the thread before the `stop()`. -/
def sentBeforeShutdown : List DaemonEvent :=
  [.start, .txStep 0, .send disableFrame, .txStep 0, .stop, .txStep 0, .txStep 0, .stopStep 0,
    .stopStep 0, .stopStep 0]

theorem shutdown_loses_disable : ¬ Delivers (daemonRun 4096 lostAtShutdown) := by
  intro h
  have hlost := h.before_return 2 6 _ _ 0 rfl rfl rfl rfl
  exact absurd hlost (by decide)

theorem quiet_run_delivers_disable :
    transmittedFrames (daemonRun 4096 sentBeforeShutdown) = [disableFrame] ∧
      Delivers (daemonRun 4096 sentBeforeShutdown) :=
  ⟨by decide, quiet_run_delivers 4096 sentBeforeShutdown (by decide)⟩

end SparqControl.CanDaemon
