/-
# SparqControl.SparqCan.ControlStruct — the two seqlock blocks of the motor process.

`Control_Struct` is the shared segment between the upper controller and `sparq_can`: a control block
the controller writes with `write_ctrl` and the motor process reads with `try_read_ctrl`, and a
feedback block that goes the other way with `write_fb` and `try_read_fb`. All four are the same
seqlock over a 32-bit counter: a write is a counter increment, a `memcpy`, a counter increment; a
read attempt is a counter load (an odd one ends it), a `memcpy`, a second load that must agree.

Both blocks live in one structure here, and one run interleaves the steps of both writers and of all
readers of both. `control_reads_in_order` is the law of the segment: the reads of either block are
whole versions of it and never go back.
-/
import SparqControl.Lib.Seqlock

namespace SparqControl.SparqCan

open SparqControl.Lib.Trace SparqControl.Lib

/-! ## The records -/

/-- `Control_param`: five doubles. -/
structure ControlParam (K : Type*) where
  pos : K
  vel : K
  Kp : K
  Kd : K
  ffTorque : K
  deriving DecidableEq

/-- `Feedback_Param`: four floats. -/
structure FeedbackParam (K : Type*) where
  pos : K
  vel : K
  torque : K
  temp : K
  deriving DecidableEq

inductive ControlWord where
  | pos | vel | Kp | Kd | ffTorque
  deriving DecidableEq

inductive FeedbackWord where
  | pos | vel | torque | temp
  deriving DecidableEq

instance : Fintype ControlWord where
  elems := {.pos, .vel, .Kp, .Kd, .ffTorque}
  complete w := by cases w <;> decide

instance : Fintype FeedbackWord where
  elems := {.pos, .vel, .torque, .temp}
  complete w := by cases w <;> decide

section Layouts

variable (K : Type*)

/-- The words of one `Control_param`. -/
def controlLayout : Seqlock.Layout (ControlParam K) ControlWord K where
  read p
    | .pos => p.pos
    | .vel => p.vel
    | .Kp => p.Kp
    | .Kd => p.Kd
    | .ffTorque => p.ffTorque
  put p w v :=
    match w with
    | .pos => { p with pos := v }
    | .vel => { p with vel := v }
    | .Kp => { p with Kp := v }
    | .Kd => { p with Kd := v }
    | .ffTorque => { p with ffTorque := v }
  read_put p i v j := by cases i <;> cases j <;> rfl
  ext p q h := by
    rcases p with ⟨pos, vel, Kp, Kd, ffTorque⟩
    rcases q with ⟨pos', vel', Kp', Kd', ffTorque'⟩
    simp only [ControlParam.mk.injEq]
    exact ⟨h .pos, h .vel, h .Kp, h .Kd, h .ffTorque⟩

/-- The words of one `Feedback_Param`. -/
def feedbackLayout : Seqlock.Layout (FeedbackParam K) FeedbackWord K where
  read p
    | .pos => p.pos
    | .vel => p.vel
    | .torque => p.torque
    | .temp => p.temp
  put p w v :=
    match w with
    | .pos => { p with pos := v }
    | .vel => { p with vel := v }
    | .torque => { p with torque := v }
    | .temp => { p with temp := v }
  read_put p i v j := by cases i <;> cases j <;> rfl
  ext p q h := by
    rcases p with ⟨pos, vel, torque, temp⟩
    rcases q with ⟨pos', vel', torque', temp'⟩
    simp only [FeedbackParam.mk.injEq]
    exact ⟨h .pos, h .vel, h .torque, h .temp⟩

end Layouts

/-! ## The segment -/

/-- `std::atomic<uint32_t>` turns over after `2 * seqHalf` increments. -/
def seqHalf : ℕ := 2 ^ 31

section Segment

variable (n : ℕ) (D F ρ : Type*)

/-- `ctrl` and `fb` of `Control_Struct`, for `n` motors, with the threads at work on them. -/
structure ControlStruct where
  ctrl : Seqlock.Block (Fin n → ControlParam D) (Fin n × ControlWord) ρ
  fb : Seqlock.Block (Fin n → FeedbackParam F) (Fin n × FeedbackWord) ρ

/-- One step of one thread: of `write_ctrl` or `try_read_ctrl` on the control block, of `write_fb` or
`try_read_fb` on the feedback block. -/
inductive ControlAccess where
  | ctrl (a : Seqlock.Access (Fin n → ControlParam D) (Fin n × ControlWord) ρ)
  | fb (a : Seqlock.Access (Fin n → FeedbackParam F) (Fin n × FeedbackWord) ρ)

/-- What a step makes known about each block. -/
structure ControlEvent where
  ctrl : Seqlock.Event (Fin n → ControlParam D) ρ
  fb : Seqlock.Event (Fin n → FeedbackParam F) ρ

variable {n D F ρ} [DecidableEq ρ]

/-- The control block a step works on; a step on the other block is `elsewhere`. -/
def ControlAccess.onCtrl : ControlAccess n D F ρ →
    Seqlock.Access (Fin n → ControlParam D) (Fin n × ControlWord) ρ
  | .ctrl a => a
  | .fb _ => .elsewhere

def ControlAccess.onFb : ControlAccess n D F ρ →
    Seqlock.Access (Fin n → FeedbackParam F) (Fin n × FeedbackWord) ρ
  | .ctrl _ => .elsewhere
  | .fb a => a

/-- One step on the segment: the block it is about moves, the other stays. -/
def accessStep (s : ControlStruct n D F ρ) :
    ControlAccess n D F ρ → ControlStruct n D F ρ × ControlEvent n D F ρ
  | .ctrl a =>
      let r := Seqlock.step seqHalf ((controlLayout D).array n) s.ctrl a
      ({ s with ctrl := r.1 }, ⟨r.2, .silent⟩)
  | .fb a =>
      let r := Seqlock.step seqHalf ((feedbackLayout F).array n) s.fb a
      ({ s with fb := r.1 }, ⟨.silent, r.2⟩)

variable [Zero D] [Zero F]

/-- `Control_param()`: every field starts at `0`. -/
def zeroControl (n : ℕ) (D : Type*) [Zero D] : Fin n → ControlParam D := fun _ => ⟨0, 0, 0, 0, 0⟩

def zeroFeedback (n : ℕ) (F : Type*) [Zero F] : Fin n → FeedbackParam F := fun _ => ⟨0, 0, 0, 0⟩

/-- `new (ptr) Control_Struct()`. -/
def ControlStruct.fresh (n : ℕ) (D F ρ : Type*) [Zero D] [Zero F] : ControlStruct n D F ρ where
  ctrl := Seqlock.Block.fresh _ _ _ (zeroControl n D)
  fb := Seqlock.Block.fresh _ _ _ (zeroFeedback n F)

/-- What a run over a fresh segment makes known. -/
def controlEvents (as : List (ControlAccess n D F ρ)) : List (ControlEvent n D F ρ) :=
  (trace accessStep (ControlStruct.fresh n D F ρ) as).map Entry.out

/-- The control block of a run is the run of the control block. -/
theorem controlEvents_ctrl (as : List (ControlAccess n D F ρ)) :
    (controlEvents as).map ControlEvent.ctrl =
      Seqlock.events seqHalf ((controlLayout D).array n)
        (Seqlock.Block.fresh _ _ _ (zeroControl n D)) (as.map ControlAccess.onCtrl) := by
  rw [controlEvents, List.map_map]
  refine map_out_trace accessStep ControlStruct.ctrl ControlAccess.onCtrl ControlEvent.ctrl ?_ _ as
  intro s a
  cases a with
  | ctrl a => rfl
  | fb a => rfl

theorem controlEvents_fb (as : List (ControlAccess n D F ρ)) :
    (controlEvents as).map ControlEvent.fb =
      Seqlock.events seqHalf ((feedbackLayout F).array n)
        (Seqlock.Block.fresh _ _ _ (zeroFeedback n F)) (as.map ControlAccess.onFb) := by
  rw [controlEvents, List.map_map]
  refine map_out_trace accessStep ControlStruct.fb ControlAccess.onFb ControlEvent.fb ?_ _ as
  intro s a
  cases a with
  | ctrl a => rfl
  | fb a => rfl

/-- **Reads of the segment are whole and in order.** In every interleaving of the steps of the two
writers and of any number of readers, a `try_read_ctrl` that returns true while fewer than `2 ^ 31`
writes were begun during it has filled its whole destination with the array of one completed
`write_ctrl`, or with the zero block, and later reads return no older version; likewise for
`try_read_fb` and `write_fb`. -/
theorem control_reads_in_order (as : List (ControlAccess n D F ρ)) :
    Seqlock.ReadsInOrder (2 ^ 31) (zeroControl n D) ((controlEvents as).map ControlEvent.ctrl) ∧
      Seqlock.ReadsInOrder (2 ^ 31) (zeroFeedback n F)
        ((controlEvents as).map ControlEvent.fb) := by
  rw [controlEvents_ctrl, controlEvents_fb, ← seqHalf]
  exact ⟨Seqlock.readsInOrder _, Seqlock.readsInOrder _⟩

end Segment

end SparqControl.SparqCan
