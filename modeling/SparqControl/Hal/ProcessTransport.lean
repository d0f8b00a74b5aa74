/-
# SparqControl.Hal.ProcessTransport — the host's CAN transport and its echo filter.

SocketCAN loops a host's own frames back to it, so the transport remembers what it sent and the
receive callback throws away a frame that equals one of the last quarter of a second. The memory is a
bounded queue of time, id and bytes; the filter compares id and bytes and nothing else.

`isRecentTxEcho_iff` says what the filter answers in terms of what was sent, whenever it was asked
before.
-/
import Mathlib.Algebra.Order.Field.Basic
import SparqControl.Hal.CanFrame
import SparqControl.Lib.Window

namespace SparqControl.Hal

open SparqControl.Lib.Window

/-- `CANProcessTransport.send_frame` up to the daemon's answer, which may depend on the frames the
daemon took earlier. -/
def sendFrame (daemonAccepts : List CANFrame → CANFrame → Bool) (earlier : List CANFrame)
    (frame : CANFrame) : Except PyError Unit :=
  if frame.canId < 0 ∨ frame.canId > canSffMask then
    .error (.valueError "Only standard 11-bit CAN IDs are supported")
  else if daemonAccepts earlier frame then .ok ()
  else .error (.runtimeError "CAN daemon TX failed")

/-- An accepted frame has a standard id. -/
theorem standard_of_sendFrame {daemonAccepts : List CANFrame → CANFrame → Bool}
    {earlier : List CANFrame} {f : CANFrame} (h : sendFrame daemonAccepts earlier f = .ok ()) :
    0 ≤ f.canId ∧ f.canId ≤ canSffMask := by
  unfold sendFrame at h
  split at h
  · cases h
  · rename_i hid
    exact ⟨not_lt.mp fun hlt => hid (Or.inl hlt), not_lt.mp fun hlt => hid (Or.inr hlt)⟩

/-- One remembered send: when, to which id, which bytes. -/
structure RecentTx (K : Type) where
  time : K
  canId : ℤ
  data : List UInt8

/-- The part of `CANProcessTransport` the echo filter uses. -/
structure CANProcessTransport (K : Type) where
  recentTxFrames : List (RecentTx K) := []

namespace CANProcessTransport

/-- The `maxlen` of `recent_tx_frames`. -/
def recentTxCapacity : ℕ := 512

variable {K : Type}

/-- `remember_tx_frame`: the oldest entry makes room in a full queue. -/
def rememberTxFrame (t : CANProcessTransport K) (frame : CANFrame) (now : K) :
    CANProcessTransport K where
  recentTxFrames := push recentTxCapacity t.recentTxFrames ⟨now, frame.canId, frame.data⟩

/-- `send_frame`: a frame the daemon took is remembered. -/
def send (t : CANProcessTransport K) (accepted : Bool) (frame : CANFrame) (now : K) :
    Except PyError (CANProcessTransport K) :=
  (sendFrame (fun _ _ => accepted) [] frame).map fun _ => t.rememberTxFrame frame now

/-- A send that went through is remembered, and nothing else changes. -/
theorem eq_of_send_eq_ok {t t' : CANProcessTransport K} {accepted : Bool} {frame : CANFrame} {now : K}
    (h : t.send accepted frame now = .ok t') : t' = t.rememberTxFrame frame now := by
  unfold send at h
  cases hsend : sendFrame (fun _ _ => accepted) [] frame with
  | error e =>
      rw [hsend] at h
      cases h
  | ok u =>
      rw [hsend] at h
      exact (Except.ok.inj h).symm

variable [Field K] [LinearOrder K]

/-- `TX_ECHO_REJECT_WINDOW_S`. -/
def txEchoRejectWindowS : K := 0.25

/-- A send that has left the echo window. -/
def expiredAt (now : K) (e : RecentTx K) : Bool := now - e.time > txEchoRejectWindowS

/-- The entries that are left once the expired ones are taken off the front of the queue. -/
def prune (t : CANProcessTransport K) (now : K) : CANProcessTransport K where
  recentTxFrames := t.recentTxFrames.dropWhile (expiredAt now)

/-- `is_recent_tx_echo`: the pruned transport and the answer. -/
def isRecentTxEcho (t : CANProcessTransport K) (frame : CANFrame) (now : K) :
    CANProcessTransport K × Bool :=
  let t := t.prune now
  (t, t.recentTxFrames.any fun e => e.canId == frame.canId && e.data == frame.data)

/-! ## What the filter remembers -/

/-- The transport's memory after the sends `sent`, at time `now`. -/
structure Remembers (sent : List (RecentTx K)) (now : K) (t : CANProcessTransport K) : Prop where
  holds : Holds recentTxCapacity (expiredAt now) sent t.recentTxFrames
  ordered : sent.Pairwise fun x y => x.time ≤ y.time
  past : ∀ x ∈ sent, x.time ≤ now

theorem remembers_nil (now : K) : Remembers [] now {} :=
  ⟨holds_nil, List.Pairwise.nil, fun _ hx => (List.not_mem_nil hx).elim⟩

theorem Remembers.remember {sent : List (RecentTx K)} {now : K} {t : CANProcessTransport K}
    (h : Remembers sent now t) (frame : CANFrame) :
    Remembers (sent ++ [⟨now, frame.canId, frame.data⟩]) now (t.rememberTxFrame frame now) := by
  refine ⟨?_, List.pairwise_append.mpr ⟨h.ordered, List.pairwise_singleton _ _, ?_⟩, ?_⟩
  · simp only [rememberTxFrame]
    exact h.holds.push _
  · intro x hx y hy
    rw [List.mem_singleton.mp hy]
    exact h.past x hx
  · intro x hx
    rcases List.mem_append.mp hx with hx | hx
    · exact h.past x hx
    · rw [List.mem_singleton.mp hx]

theorem Remembers.prune {sent : List (RecentTx K)} {now : K} {t : CANProcessTransport K}
    (h : Remembers sent now t) : Remembers sent now (t.prune now) :=
  ⟨h.holds.prune, h.ordered, h.past⟩

variable [IsStrictOrderedRing K]

/-- Time passes: what has left the window stays out of it. -/
theorem Remembers.later {sent : List (RecentTx K)} {now now' : K} {t : CANProcessTransport K}
    (h : Remembers sent now t) (hle : now ≤ now') : Remembers sent now' t := by
  refine ⟨h.holds.mono fun x hx => ?_, h.ordered, fun x hx => (h.past x hx).trans hle⟩
  have hexpired : txEchoRejectWindowS < now - x.time := of_decide_eq_true hx
  exact decide_eq_true (hexpired.trans_le (sub_le_sub_right hle _))

/-- **The echo filter.** A frame is taken for an echo exactly when one of the last 512 sends, no
older than the window, had its id and bytes. -/
theorem Remembers.isRecentTxEcho_iff {sent : List (RecentTx K)} {now : K}
    {t : CANProcessTransport K} (h : Remembers sent now t) (frame : CANFrame) :
    (t.isRecentTxEcho frame now).2 = true ↔
      ∃ x ∈ sent.rtake recentTxCapacity, now - x.time ≤ txEchoRejectWindowS ∧
        x.canId = frame.canId ∧ x.data = frame.data := by
  have hexpiry : sent.Pairwise fun x y => expiredAt now y = true → expiredAt now x = true := by
    refine h.ordered.imp fun {x y} hxy hy => ?_
    have hexpired : txEchoRejectWindowS < now - y.time := of_decide_eq_true hy
    exact decide_eq_true (hexpired.trans_le (sub_le_sub_left hxy _))
  have hlive : ∀ x : RecentTx K,
      (!expiredAt now x) = true ↔ now - x.time ≤ txEchoRejectWindowS := by
    intro x
    simp [expiredAt]
  simp only [isRecentTxEcho, CANProcessTransport.prune, h.holds.prune_eq_filter hexpiry,
    List.any_eq_true, List.mem_filter, hlive, Bool.and_eq_true, beq_iff_eq, and_assoc]

end CANProcessTransport

end SparqControl.Hal
