/-
# SparqControl.Hal.EchoFilter — the echo filter over any sends and queries.

The transport drops a received frame that equals one it sent in the last quarter of a second. Its
memory is pruned from the front by queries and pushed out at the front by sends, and it holds 512
entries: a host that sends more than that inside the window forgets frames the window still covers, and
takes their echoes for answers.

A run is any sequence of sends and queries at non-decreasing times. `echo_exact_iff` says which runs the
filter answers exactly, `noneEvicted_of_rate` that a send rate the queue can hold is enough.
-/
import SparqControl.Hal.ProcessTransport
import SparqControl.Lib.Trace

namespace SparqControl.Hal.CANProcessTransport

open SparqControl.Lib.Trace
open SparqControl.Lib.Window

/-- The two calls the filter is about. A send comes with the daemon's verdict on the frame. -/
inductive EchoCall
  | sendFrame (accepted : Bool) (frame : CANFrame)
  | isRecentTxEcho (frame : CANFrame)

/-- A call and what `time.monotonic()` reads in it. -/
structure EchoEvent (K : Type) where
  now : K
  call : EchoCall

variable {K : Type}

/-- What a call sent: the entry of a frame that went through. -/
def EchoEvent.sent? (e : EchoEvent K) : Option (RecentTx K) :=
  match e.call with
  | .sendFrame accepted frame =>
      match Hal.sendFrame (fun _ _ => accepted) [] frame with
      | .ok _ => some ⟨e.now, frame.canId, frame.data⟩
      | .error _ => none
  | .isRecentTxEcho _ => none

/-- The frames the calls sent, oldest first. -/
def sentFrames (events : List (EchoEvent K)) : List (RecentTx K) := events.filterMap EchoEvent.sent?

/-- A remembered send is of this frame. -/
def SameFrame (frame : CANFrame) (x : RecentTx K) : Prop := x.canId = frame.canId ∧ x.data = frame.data

variable [Field K] [LinearOrder K]

/-- One call: a send that raises leaves the memory alone, a query prunes it and answers. -/
def echoStep (t : CANProcessTransport K) (e : EchoEvent K) : CANProcessTransport K × Option Bool :=
  match e.call with
  | .sendFrame accepted frame =>
      match t.send accepted frame e.now with
      | .ok t' => (t', none)
      | .error _ => (t, none)
  | .isRecentTxEcho frame =>
      let (t', answer) := t.isRecentTxEcho frame e.now
      (t', some answer)

/-- A send of the frame that the window still covers. -/
def InWindow (now : K) (frame : CANFrame) (x : RecentTx K) : Prop :=
  now - x.time ≤ txEchoRejectWindowS ∧ SameFrame frame x

/-- Every query answers `True` exactly when the frame was sent at most the window before it. -/
def EchoExact (events : List (EchoEvent K)) : Prop :=
  ∀ n e now frame, (trace echoStep {} events)[n]? = some e → e.input = ⟨now, .isRecentTxEcho frame⟩ →
    (e.out = some true ↔ ∃ x ∈ sentFrames (events.take n), InWindow now frame x)

/-- At every query, fewer than 512 frames were sent after the latest send of its frame, if the window
still covers that one. -/
def NoneEvicted (events : List (EchoEvent K)) : Prop :=
  ∀ n now frame, events[n]? = some ⟨now, .isRecentTxEcho frame⟩ →
    ∀ pre x post, sentFrames (events.take n) = pre ++ x :: post → InWindow now frame x →
      (∀ y ∈ post, ¬ InWindow now frame y) → post.length < recentTxCapacity

/-! ## The memory along a run -/

/-- A call adds what it sent to what is remembered. -/
theorem Remembers.echoStep {sent : List (RecentTx K)} {t : CANProcessTransport K} {e : EchoEvent K}
    (h : Remembers sent e.now t) : Remembers (sent ++ e.sent?.toList) e.now (echoStep t e).1 := by
  obtain ⟨now, call⟩ := e
  cases call with
  | sendFrame accepted frame =>
      cases hsend : Hal.sendFrame (fun _ _ => accepted) [] frame with
      | ok u =>
          simp only [EchoEvent.sent?, CANProcessTransport.echoStep, send, hsend, Except.map,
            Option.toList_some]
          exact h.remember frame
      | error err =>
          simp only [EchoEvent.sent?, CANProcessTransport.echoStep, send, hsend, Except.map,
            Option.toList_none, List.append_nil]
          exact h
  | isRecentTxEcho frame =>
      simp only [EchoEvent.sent?, Option.toList_none, List.append_nil]
      exact h.prune

variable [IsStrictOrderedRing K]

/-- **The memory after any calls** is that of the frames they sent. -/
theorem remembers_final {events : List (EchoEvent K)} {now : K}
    (hordered : events.Pairwise fun a b => a.now ≤ b.now) (hpast : ∀ e ∈ events, e.now ≤ now) :
    Remembers (sentFrames events) now (final echoStep {} events) := by
  induction events using List.reverseRecOn generalizing now with
  | nil => exact remembers_nil now
  | append_singleton events e ih =>
      obtain ⟨hbefore, -, hlast⟩ := List.pairwise_append.mp hordered
      have hremembers := ih hbefore fun e' he' => hlast e' he' e List.mem_cons_self
      have hsent : sentFrames (events ++ [e]) = sentFrames events ++ e.sent?.toList := by
        simp only [sentFrames, List.filterMap_append, List.filterMap_cons, List.filterMap_nil]
        cases e.sent? <;> rfl
      rw [final_concat, hsent]
      exact hremembers.echoStep.later (hpast e (List.mem_append_right _ List.mem_cons_self))

/-- The memory a call finds is that of the frames sent before it. -/
theorem remembers_take {events : List (EchoEvent K)}
    (hordered : events.Pairwise fun a b => a.now ≤ b.now) {n : ℕ} {e : EchoEvent K}
    (he : events[n]? = some e) :
    Remembers (sentFrames (events.take n)) e.now (final echoStep {} (events.take n)) := by
  obtain ⟨hn, hget⟩ := List.getElem?_eq_some_iff.mp he
  have hsplit := hordered
  rw [← List.take_append_drop n events, List.pairwise_append] at hsplit
  refine remembers_final hsplit.1 fun e' he' => hsplit.2.2 e' he' e ?_
  rw [List.drop_eq_getElem_cons hn, hget]
  exact List.mem_cons_self

/-- One query is answered from the last 512 sends of the run so far. -/
theorem echo_answer_iff {events : List (EchoEvent K)}
    (hordered : events.Pairwise fun a b => a.now ≤ b.now) {n : ℕ}
    {e : Entry (CANProcessTransport K) (EchoEvent K) (Option Bool)} {now : K} {frame : CANFrame}
    (he : (trace echoStep {} events)[n]? = some e) (hquery : e.input = ⟨now, .isRecentTxEcho frame⟩) :
    e.out = some true ↔
      ∃ x ∈ (sentFrames (events.take n)).rtake recentTxCapacity, InWindow now frame x := by
  have hevent : events[n]? = some ⟨now, .isRecentTxEcho frame⟩ := by
    rw [input_at echoStep he, hquery]
  have hremembers := remembers_take hordered hevent
  rw [← before_eq_final echoStep he] at hremembers
  have hout : e.out = some (e.before.isRecentTxEcho frame now).2 := by
    rw [out_eq echoStep he, hquery]
    rfl
  rw [hout, Option.some_inj]
  exact hremembers.isRecentTxEcho_iff frame

/-- One query is answered exactly when fewer than 512 sends followed the latest one of its frame. -/
theorem echo_answer_exact_iff {events : List (EchoEvent K)}
    (hordered : events.Pairwise fun a b => a.now ≤ b.now) {n : ℕ}
    {e : Entry (CANProcessTransport K) (EchoEvent K) (Option Bool)} {now : K} {frame : CANFrame}
    (he : (trace echoStep {} events)[n]? = some e) (hquery : e.input = ⟨now, .isRecentTxEcho frame⟩) :
    (e.out = some true ↔ ∃ x ∈ sentFrames (events.take n), InWindow now frame x) ↔
      ∀ pre x post, sentFrames (events.take n) = pre ++ x :: post → InWindow now frame x →
        (∀ y ∈ post, ¬ InWindow now frame y) → post.length < recentTxCapacity := by
  rw [echo_answer_iff hordered he hquery]
  exact rtake_answers_iff

/-- **Which runs the filter answers exactly**: those in which no query asks for a frame the window
covers and 512 later sends have pushed out. -/
theorem echo_exact_iff (events : List (EchoEvent K))
    (hordered : events.Pairwise fun a b => a.now ≤ b.now) :
    EchoExact events ↔ NoneEvicted events := by
  constructor
  · intro hexact n now frame hevent
    obtain ⟨e, he, hinput⟩ := entry_at echoStep {} hevent
    exact (echo_answer_exact_iff hordered he hinput).mp (hexact n e now frame he hinput)
  · intro hkept n e now frame he hinput
    have hevent : events[n]? = some ⟨now, .isRecentTxEcho frame⟩ := by
      rw [input_at echoStep he, hinput]
    exact (echo_answer_exact_iff hordered he hinput).mpr (hkept n now frame hevent)

/-- A rate the queue can hold: where no query's window covers more than 512 sends, none is pushed out. -/
theorem noneEvicted_of_rate {events : List (EchoEvent K)}
    (hordered : events.Pairwise fun a b => a.now ≤ b.now)
    (hrate : ∀ n e, events[n]? = some e →
      ((sentFrames (events.take n)).filter fun x => !expiredAt e.now x).length ≤ recentTxCapacity) :
    NoneEvicted events := by
  intro n now frame hevent pre x post hsent hx _
  have htimes := (remembers_take hordered hevent).ordered
  rw [hsent] at htimes
  -- the sends after one the window covers are covered as well
  have hlive : ∀ y ∈ x :: post, (!expiredAt now y) = true := by
    intro y hy
    have hxy : x.time ≤ y.time := by
      rcases List.mem_cons.mp hy with rfl | hy
      · exact le_rfl
      · exact (List.pairwise_cons.mp (List.pairwise_append.mp htimes).2.1).1 y hy
    simpa [expiredAt] using (sub_le_sub_left hxy now).trans hx.1
  have hcount := hrate n _ hevent
  rw [hsent, List.filter_append, List.filter_eq_self.mpr hlive, List.length_append,
    List.length_cons] at hcount
  omega

/-- Four sends, one of which the daemon refuses, and then the bus brings all of their frames. -/
def severalSends : List (EchoEvent ℚ) :=
  [⟨0, .sendFrame true ⟨0x101, [0xC1]⟩⟩, ⟨0.2, .sendFrame true ⟨0x102, [0xC1]⟩⟩,
    ⟨0.9, .sendFrame true ⟨0x101, [0xC2]⟩⟩, ⟨0.95, .sendFrame false ⟨0x103, [0xC1]⟩⟩,
    ⟨1, .isRecentTxEcho ⟨0x101, [0xC1]⟩⟩, ⟨1, .isRecentTxEcho ⟨0x101, [0xC2]⟩⟩,
    ⟨1, .isRecentTxEcho ⟨0x103, [0xC1]⟩⟩]

/-- The first send is too old, the third is recent, and the fourth was none. -/
theorem echo_exact_several_sends :
    EchoExact severalSends ∧
      (trace echoStep {} severalSends).map (fun e => e.out) =
        [none, none, none, none, some false, some true, some false] := by
  have hordered : severalSends.Pairwise fun a b => a.now ≤ b.now := by decide +kernel
  refine ⟨(echo_exact_iff _ hordered).mpr (noneEvicted_of_rate hordered ?_), by decide +kernel⟩
  intro n e _
  refine (List.length_filter_le _ _).trans ((List.length_filterMap_le _ _).trans ?_)
  exact (List.length_take_le' _ _).trans (by decide)

/-- A burst that fills the queue: one frame, 512 others at the same instant, and a query for the
first. -/
def burst : List (EchoEvent ℚ) :=
  ⟨0, .sendFrame true ⟨0x101, []⟩⟩ ::
    (List.replicate 512 ⟨0, .sendFrame true ⟨0x102, []⟩⟩ ++ [⟨0, .isRecentTxEcho ⟨0x101, []⟩⟩])

/-- The filter denies the echo of a frame that was sent at the very time of the query. -/
theorem echo_evicted_in_window : ¬ EchoExact burst := by
  have hordered : burst.Pairwise fun a b => a.now ≤ b.now := by
    have hzero : ∀ e ∈ burst, e.now = 0 := by
      intro e he
      simp only [burst, List.mem_cons, List.mem_append, List.mem_replicate, List.not_mem_nil,
        or_false] at he
      rcases he with rfl | ⟨-, rfl⟩ | rfl <;> rfl
    refine List.pairwise_iff_forall_sublist.mpr fun {a b} hab => ?_
    rw [hzero a (hab.subset (by simp)), hzero b (hab.subset (by simp))]
  have hlen : (List.replicate 512 (⟨0, .sendFrame true ⟨0x102, []⟩⟩ : EchoEvent ℚ)).length = 512 :=
    List.length_replicate
  have hevent : burst[513]? = some ⟨0, .isRecentTxEcho ⟨0x101, []⟩⟩ := by
    rw [burst, List.getElem?_cons_succ, List.getElem?_append_right hlen.le, hlen]
    rfl
  have hsent : sentFrames (burst.take 513) =
      [] ++ ⟨0, 0x101, []⟩ :: List.replicate 512 (⟨0, 0x102, []⟩ : RecentTx ℚ) := by
    have htake : burst.take 513 = ⟨0, .sendFrame true ⟨0x101, []⟩⟩ ::
        List.replicate 512 ⟨0, .sendFrame true ⟨0x102, []⟩⟩ := by
      rw [burst, List.take_succ_cons, List.take_left' hlen]
    rw [htake, sentFrames, List.filterMap_cons, List.filterMap_replicate]
    rfl
  intro hexact
  obtain ⟨e, he, hinput⟩ := entry_at echoStep {} hevent
  have hlost := (echo_answer_exact_iff hordered he hinput).mp (hexact _ _ _ _ he hinput) _ _ _ hsent
    ⟨by norm_num [txEchoRejectWindowS], rfl, rfl⟩
  rw [List.length_replicate] at hlost
  refine absurd (hlost fun y hy hmatch => ?_) (by decide)
  rw [List.eq_of_mem_replicate hy] at hmatch
  exact absurd hmatch.2.1 (by decide)

end SparqControl.Hal.CANProcessTransport
