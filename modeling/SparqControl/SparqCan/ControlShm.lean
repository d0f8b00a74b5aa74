/-
# SparqControl.SparqCan.ControlShm — opening and closing the shared segment.

`Control_Shm` wraps one System V key. `open_shm` tries an exclusive create, falls back to the
existing segment, attaches, runs the constructor if it created the segment, and increments
`refcount`. `close_shm` decrements it, detaches, and removes the key if it was the last. Every one of
these is a step of its own here, so any number of processes may be anywhere in between.

Two of the gaps are windows. Between the creator's `shmget` and its placement-new another process can
get, attach and count itself in, and the constructor then wipes the count and the blocks. Between the
last closer's decrement and its `IPC_RMID` another process can count itself in, and the key is then
removed under it. `attachment_law` says that nothing else goes wrong: in every run in which no process
counts itself in inside one of the windows, the count is exact, no used block is re-initialised, and
all holders share one segment.
-/
import Mathlib.Algebra.BigOperators.Group.Finset.Basic
import Mathlib.Algebra.GroupWithZero.Nat
import Mathlib.Data.Fintype.Basic
import SparqControl.SparqCan.ControlStruct

namespace SparqControl.SparqCan

open SparqControl.Lib.Trace

/-- Where one process stands in `open_shm` or `close_shm`. -/
inductive Phase where
  | closed
  | refused                              -- the exclusive create failed
  | got (id : ℕ) (creator : Bool)        -- an id from `shmget`
  | attached (id : ℕ) (creator : Bool)   -- `creator` while the placement-new is still to come
  | opened (id : ℕ)                      -- counted in
  | dropped (id : ℕ) (last : Bool)       -- counted out, `last` if it took the count from 1
  | detached (id : ℕ)                    -- the last one, about to remove the key
  | failed                               -- `exit(EXIT_FAILURE)`
  deriving DecidableEq

namespace Phase

/-- The segment a phase is about. -/
def segment? : Phase → Option ℕ
  | .got id _ | .attached id _ | .opened id | .dropped id _ | .detached id => some id
  | .closed | .refused | .failed => none

/-- The process has the segment mapped. -/
def Maps (id : ℕ) : Phase → Bool
  | .attached i _ | .opened i | .dropped i _ => i = id
  | _ => false

/-- The creator of the segment, before its placement-new. -/
def Building (id : ℕ) (ph : Phase) : Prop := ph = .got id true ∨ ph = .attached id true

/-- The last closer of the segment, before its `IPC_RMID`. -/
def Leaving (id : ℕ) (ph : Phase) : Prop := ph = .dropped id true ∨ ph = .detached id

instance (id : ℕ) (ph : Phase) : Decidable (ph.Leaving id) :=
  inferInstanceAs (Decidable (ph = .dropped id true ∨ ph = .detached id))

end Phase

section Model

variable (n : ℕ) (D F π : Type*)

/-- One segment: the shared structure, and whether its constructor has run. -/
structure Segment where
  refcount : ℤ
  blocks : ControlStruct n D F π
  constructed : Bool

/-- The key, the segments it has ever named, and the processes. -/
structure ShmState where
  key : Option ℕ
  next : ℕ
  segment : ℕ → Segment n D F π
  phase : π → Phase

/-- One step of one process. -/
inductive ShmAction where
  | shmgetExcl (p : π)
  | shmget (p : π)
  | shmat (p : π)
  | construct (p : π)
  | fetchAdd (p : π)
  | access (p : π) (a : ControlAccess n D F π)
  | fetchSub (p : π)
  | shmdt (p : π)
  | rmid (p : π)

inductive ShmEvent where
  | constructed (p : π) (id : ℕ)
  | accessed (p : π) (id : ℕ)
  | removed (p : π) (id : ℕ)
  | none

variable {n D F π} [DecidableEq π] [Fintype π] [Zero D] [Zero F]

/-- A new segment is filled with zero bytes: the all-zero structure, not yet constructed. -/
def Segment.zeroed : Segment n D F π where
  refcount := 0
  blocks := ControlStruct.fresh n D F π
  constructed := false

/-- What `new (ptr) Control_Struct()` leaves. -/
def Segment.built : Segment n D F π where
  refcount := 0
  blocks := ControlStruct.fresh n D F π
  constructed := true

/-- The key unused, nobody in `open_shm`. -/
def ShmState.start : ShmState n D F π where
  key := none
  next := 0
  segment := fun _ => Segment.zeroed
  phase := fun _ => .closed

/-- Move one process. -/
def ShmState.to (s : ShmState n D F π) (p : π) (ph : Phase) : ShmState n D F π :=
  { s with phase := Function.update s.phase p ph }

def ShmState.setSegment (s : ShmState n D F π) (id : ℕ) (seg : Segment n D F π) :
    ShmState n D F π :=
  { s with segment := Function.update s.segment id seg }

/-- `fetch_add` and `fetch_sub` on a segment's count. -/
def ShmState.count (s : ShmState n D F π) (id : ℕ) (d : ℤ) : ShmState n D F π :=
  s.setSegment id { s.segment id with refcount := (s.segment id).refcount + d }

/-- A removed segment lives on until the last process detaches. -/
def ShmState.Exists (s : ShmState n D F π) (id : ℕ) : Prop :=
  s.key = some id ∨ ∃ q, (s.phase q).Maps id

instance (s : ShmState n D F π) (id : ℕ) : Decidable (s.Exists id) :=
  inferInstanceAs (Decidable (s.key = some id ∨ ∃ q, (s.phase q).Maps id))

/-- One step. A step its process is not at does nothing. -/
def shmStep (s : ShmState n D F π) :
    ShmAction n D F π → ShmState n D F π × ShmEvent π
  | .shmgetExcl p =>
      match s.phase p with
      | .closed =>
          match s.key with
          | some _ => (s.to p .refused, .none)
          | none =>
              ({ (s.to p (.got s.next true)).setSegment s.next Segment.zeroed with
                  key := some s.next
                  next := s.next + 1 }, .none)
      | _ => (s, .none)
  | .shmget p =>
      match s.phase p with
      | .refused =>
          match s.key with
          | some id => (s.to p (.got id false), .none)
          | none => (s.to p .failed, .none)
      | _ => (s, .none)
  | .shmat p =>
      match s.phase p with
      | .got id creator =>
          if s.Exists id then (s.to p (.attached id creator), .none) else (s.to p .failed, .none)
      | _ => (s, .none)
  | .construct p =>
      match s.phase p with
      | .attached id true =>
          ((s.to p (.attached id false)).setSegment id Segment.built, .constructed p id)
      | _ => (s, .none)
  | .fetchAdd p =>
      match s.phase p with
      | .attached id false =>
          ((s.to p (.opened id)).count id 1, .none)
      | _ => (s, .none)
  | .access p a =>
      match s.phase p with
      | .opened id =>
          let seg := s.segment id
          (s.setSegment id { seg with blocks := (accessStep seg.blocks a).1 }, .accessed p id)
      | _ => (s, .none)
  | .fetchSub p =>
      match s.phase p with
      | .opened id =>
          ((s.to p (.dropped id ((s.segment id).refcount = 1))).count id (-1), .none)
      | _ => (s, .none)
  | .shmdt p =>
      match s.phase p with
      | .dropped id true => (s.to p (.detached id), .none)
      | .dropped _ false => (s.to p .closed, .none)
      | _ => (s, .none)
  | .rmid p =>
      match s.phase p with
      | .detached id =>
          if s.key = some id then ({ s.to p .closed with key := none }, .removed p id)
          else (s.to p .closed, .none)
      | _ => (s, .none)

end Model

/-! ## The law -/

section Law

variable {n : ℕ} {D F π : Type*} [Fintype π]

/-- The processes counted in on a segment. -/
def ShmState.holders (s : ShmState n D F π) (id : ℕ) : Finset π :=
  Finset.univ.filter fun q => s.phase q = .opened id

/-- `refcount` is the number of processes counted in. -/
def Counted (s : ShmState n D F π) : Prop :=
  ∀ id, (s.segment id).refcount = (s.holders id).card

/-- All holders of the key share one segment. -/
def Shared (s : ShmState n D F π) : Prop :=
  ∀ p q i j, s.phase p = .opened i → s.phase q = .opened j → i = j

/-- What attachment counting is for, over a recorded run. -/
structure AttachmentLaw
    (tr : List (Entry (ShmState n D F π) (ShmAction n D F π) (ShmEvent π))) : Prop where
  counted : ∀ e ∈ tr, Counted e.before ∧ Counted e.after
  shared : ∀ e ∈ tr, Shared e.before ∧ Shared e.after
  /-- The blocks of a segment are not initialised again once a process has used them. -/
  intact : ∀ (i j : ℕ) (p q : π) (id : ℕ), i < j →
    tr[i]?.map Entry.out = some (.accessed q id) →
    tr[j]?.map Entry.out ≠ some (.constructed p id)
  /-- The key is removed only when no process has it open. -/
  removal : ∀ e ∈ tr, ∀ p id, e.out = .removed p id → ∀ q j, e.before.phase q ≠ .opened j

/-- **Outside the windows.** A process counts itself in only on a segment whose constructor has run,
that the key still names, and that no last closer is leaving. -/
def Orderly (s : ShmState n D F π) : ShmAction n D F π → Prop
  | .fetchAdd p => ∀ id, s.phase p = .attached id false →
      (s.segment id).constructed ∧ s.key = some id ∧ ∀ q, ¬ (s.phase q).Leaving id
  | _ => True

/-! ## The invariant of orderly runs -/

structure ShmInv (s : ShmState n D F π) : Prop where
  counted : Counted s
  /-- A holder's segment is constructed, named by the key, and nobody is about to remove it. -/
  live : ∀ q id, s.phase q = .opened id →
    s.key = some id ∧ (s.segment id).constructed ∧ ∀ r, ¬ (s.phase r).Leaving id
  /-- A segment being built is not constructed, and has one builder. -/
  builder : ∀ q id, (s.phase q).Building id →
    (s.segment id).constructed = false ∧ ∀ r, (s.phase r).Building id → r = q
  /-- Ids are handed out in order. -/
  key_lt : ∀ id, s.key = some id → id < s.next
  segment_lt : ∀ q id, (s.phase q).segment? = some id → id < s.next

theorem ShmInv.shared {s : ShmState n D F π} (h : ShmInv s) : Shared s := by
  intro p q i j hp hq
  have hi := (h.live p i hp).1
  have hj := (h.live q j hq).1
  exact Option.some.inj (hi.symm.trans hj)

theorem ShmInv.start [Zero D] [Zero F] : ShmInv (ShmState.start : ShmState n D F π) where
  counted id := by simp [ShmState.start, Segment.zeroed, ShmState.holders]
  live q id hq := by simp [ShmState.start] at hq
  builder q id hq := by simp [ShmState.start, Phase.Building] at hq
  key_lt id hid := by simp [ShmState.start] at hid
  segment_lt q id hid := by simp [ShmState.start, Phase.segment?] at hid

end Law

/-! ## Frame lemmas -/

section Frame

variable {n : ℕ} {D F π : Type*} {s : ShmState n D F π} {p : π}

@[simp] theorem setSegment_key (id : ℕ) (g : Segment n D F π) :
    (s.setSegment id g).key = s.key := rfl
@[simp] theorem setSegment_next (id : ℕ) (g : Segment n D F π) :
    (s.setSegment id g).next = s.next := rfl
@[simp] theorem setSegment_phase (id : ℕ) (g : Segment n D F π) :
    (s.setSegment id g).phase = s.phase := rfl
@[simp] theorem setSegment_segment_self (id : ℕ) (g : Segment n D F π) :
    (s.setSegment id g).segment id = g := Function.update_self ..

theorem setSegment_segment_of_ne {id j : ℕ} (h : j ≠ id) (g : Segment n D F π) :
    (s.setSegment id g).segment j = s.segment j := Function.update_of_ne h ..

/-- After a segment was rewritten, any segment is the new one or what it was. -/
theorem setSegment_cases (id : ℕ) (g : Segment n D F π) (j : ℕ) :
    (j = id ∧ (s.setSegment id g).segment j = g) ∨
      (j ≠ id ∧ (s.setSegment id g).segment j = s.segment j) := by
  by_cases hj : j = id
  · exact Or.inl ⟨hj, by rw [hj]; exact setSegment_segment_self id g⟩
  · exact Or.inr ⟨hj, setSegment_segment_of_ne hj g⟩

@[simp] theorem count_key (id : ℕ) (d : ℤ) : (s.count id d).key = s.key := rfl
@[simp] theorem count_next (id : ℕ) (d : ℤ) : (s.count id d).next = s.next := rfl
@[simp] theorem count_phase (id : ℕ) (d : ℤ) : (s.count id d).phase = s.phase := rfl

@[simp] theorem count_constructed (id : ℕ) (d : ℤ) (j : ℕ) :
    ((s.count id d).segment j).constructed = (s.segment j).constructed := by
  rcases setSegment_cases (s := s) id
    { s.segment id with refcount := (s.segment id).refcount + d } j with ⟨rfl, hj⟩ | ⟨-, hj⟩
  · rw [ShmState.count, hj]
  · rw [ShmState.count, hj]

theorem count_refcount_self (id : ℕ) (d : ℤ) :
    ((s.count id d).segment id).refcount = (s.segment id).refcount + d := by
  rw [ShmState.count, setSegment_segment_self]

theorem count_refcount_of_ne {id j : ℕ} (hj : j ≠ id) (d : ℤ) :
    ((s.count id d).segment j).refcount = (s.segment j).refcount := by
  rw [ShmState.count, setSegment_segment_of_ne hj]

variable [DecidableEq π]

@[simp] theorem to_phase_self (ph : Phase) : (s.to p ph).phase p = ph := Function.update_self ..

@[simp] theorem to_key (ph : Phase) : (s.to p ph).key = s.key := rfl
@[simp] theorem to_next (ph : Phase) : (s.to p ph).next = s.next := rfl
@[simp] theorem to_segment (ph : Phase) : (s.to p ph).segment = s.segment := rfl
/-- After a move a process is where it was, or is the one that moved. -/
theorem to_phase_cases (ph : Phase) (q : π) :
    (q = p ∧ (s.to p ph).phase q = ph) ∨ (q ≠ p ∧ (s.to p ph).phase q = s.phase q) := by
  by_cases hq : q = p
  · exact Or.inl ⟨hq, by rw [hq, to_phase_self]⟩
  · exact Or.inr ⟨hq, Function.update_of_ne hq ..⟩

/-- What a moved process was before it moved, and nobody else moved. -/
theorem of_to {P : Phase → Prop} {ph : Phase} (hph : P ph → P (s.phase p)) {r : π}
    (hr : P ((s.to p ph).phase r)) : P (s.phase r) := by
  rcases to_phase_cases (s := s) (p := p) ph r with ⟨rfl, hrp⟩ | ⟨-, hrp⟩
  · rw [hrp] at hr
    exact hph hr
  · rwa [hrp] at hr

variable [Fintype π]

/-- A move that neither makes nor unmakes a holder. -/
theorem holders_to (ph : Phase) {id : ℕ} (hp : s.phase p ≠ .opened id) (hph : ph ≠ .opened id) :
    (s.to p ph).holders id = s.holders id := by
  ext q
  simp only [ShmState.holders, Finset.mem_filter, Finset.mem_univ, true_and]
  rcases to_phase_cases (s := s) (p := p) ph q with ⟨rfl, hq⟩ | ⟨-, hq⟩
  · simp only [hq, hp, hph]
  · rw [hq]

theorem holders_to_opened {id : ℕ} (hp : s.phase p ≠ .opened id) :
    ((s.to p (.opened id)).holders id).card = (s.holders id).card + 1 := by
  have hmem : p ∉ s.holders id := by simpa [ShmState.holders] using hp
  rw [← Finset.card_insert_of_notMem hmem]
  congr 1
  ext q
  simp only [ShmState.holders, Finset.mem_insert, Finset.mem_filter, Finset.mem_univ, true_and]
  rcases to_phase_cases (s := s) (p := p) (.opened id) q with ⟨rfl, hq⟩ | ⟨hne, hq⟩
  · simp
  · simp [hq, hne]

theorem holders_of_opened (ph : Phase) {id : ℕ} (hp : s.phase p = .opened id)
    (hph : ph ≠ .opened id) :
    ((s.to p ph).holders id).card + 1 = (s.holders id).card := by
  have hmem : p ∉ (s.to p ph).holders id := by
    intro hmem
    have := (Finset.mem_filter.mp hmem).2
    exact hph ((to_phase_self ph).symm.trans this)
  rw [← Finset.card_insert_of_notMem hmem]
  congr 1
  ext q
  simp only [ShmState.holders, Finset.mem_insert, Finset.mem_filter, Finset.mem_univ, true_and]
  rcases to_phase_cases (s := s) (p := p) ph q with ⟨rfl, hq⟩ | ⟨hne, hq⟩
  · simp [hp]
  · simp [hq, hne]

end Frame

/-! ## One step keeps it -/

section Steps

variable {n : ℕ} {D F π : Type*} [Fintype π] {s : ShmState n D F π} {p : π}

/-- The last closer removes a key nobody holds. -/
theorem ShmInv.nobody_holds (h : ShmInv s) {id : ℕ} (hp : s.phase p = .detached id)
    (hkey : s.key = some id) (q : π) (j : ℕ) : s.phase q ≠ .opened j := by
  intro hq
  obtain ⟨hkey', -, hnone⟩ := h.live q j hq
  obtain rfl : id = j := Option.some.inj (hkey.symm.trans hkey')
  exact hnone p (Or.inr hp)

/-- Rewriting a segment with the count of its holders, without un-constructing it. -/
theorem ShmInv.setSegment (h : ShmInv s) (id : ℕ) (g : Segment n D F π)
    (hcount : g.refcount = (s.segment id).refcount)
    (hbuilt : g.constructed = (s.segment id).constructed) : ShmInv (s.setSegment id g) where
  counted j := by
    rcases setSegment_cases (s := s) id g j with ⟨rfl, hj⟩ | ⟨-, hj⟩
    · rw [hj, hcount]
      exact h.counted j
    · rw [hj]
      exact h.counted j
  live q j hq := by
    obtain ⟨hkey, hcons, hnone⟩ := h.live q j hq
    refine ⟨hkey, ?_, hnone⟩
    rcases setSegment_cases (s := s) id g j with ⟨rfl, hj⟩ | ⟨-, hj⟩
    · rwa [hj, hbuilt]
    · rwa [hj]
  builder q j hq := by
    obtain ⟨hnot, huniq⟩ := h.builder q j hq
    refine ⟨?_, huniq⟩
    rcases setSegment_cases (s := s) id g j with ⟨rfl, hj⟩ | ⟨-, hj⟩
    · rwa [hj, hbuilt]
    · rwa [hj]
  key_lt := h.key_lt
  segment_lt := h.segment_lt

variable [DecidableEq π]

/-- A move inside `open_shm` or `close_shm` that touches neither the count nor the key. -/
theorem ShmInv.to (h : ShmInv s) (ph : Phase) (hopened : ∀ id, s.phase p ≠ .opened id)
    (hopen : ∀ id, ph ≠ .opened id) (hbuild : ∀ id, ph.Building id → (s.phase p).Building id)
    (hleave : ∀ id, ph.Leaving id → (s.phase p).Leaving id)
    (hid : ∀ id, ph.segment? = some id → id < s.next) : ShmInv (s.to p ph) where
  counted id := by
    rw [holders_to ph (hopened id) (hopen id), to_segment]
    exact h.counted id
  live q id hq := by
    have hold : s.phase q = .opened id :=
      of_to (P := (· = .opened id)) (fun hph => absurd hph (hopen id)) hq
    obtain ⟨hkey, hbuilt, hnone⟩ := h.live q id hold
    exact ⟨hkey, hbuilt, fun r hr => hnone r (of_to (hleave id) hr)⟩
  builder q id hq := by
    obtain ⟨hnot, huniq⟩ := h.builder q id (of_to (hbuild id) hq)
    exact ⟨hnot, fun r hr => huniq r (of_to (hbuild id) hr)⟩
  key_lt := h.key_lt
  segment_lt q id hq := by
    rcases to_phase_cases (s := s) (p := p) ph q with ⟨-, hqp⟩ | ⟨-, hqp⟩
    · rw [hqp] at hq
      exact hid id hq
    · rw [hqp] at hq
      exact h.segment_lt q id hq

theorem ShmInv.create [Zero D] [Zero F] (h : ShmInv s) (p : π) (hkey : s.key = none) :
    ShmInv { (s.to p (.got s.next true)).setSegment s.next Segment.zeroed with
      key := some s.next
      next := s.next + 1 } := by
  -- the key was free, so nobody holds anything; the new id is in nobody's hands
  have hfree : ∀ q id, s.phase q ≠ .opened id := by
    intro q id hq
    rw [(h.live q id hq).1] at hkey
    cases hkey
  have hnew : ∀ q ph, s.phase q = ph → ph.segment? ≠ some s.next := by
    rintro q _ rfl hq
    exact Nat.lt_irrefl _ (h.segment_lt q _ hq)
  have hbuild : ∀ q id, ((s.to p (.got s.next true)).phase q).Building id →
      (q = p ∧ id = s.next) ∨ (q ≠ p ∧ id ≠ s.next ∧ (s.phase q).Building id) := by
    intro q id hq
    rcases to_phase_cases (s := s) (p := p) (.got s.next true) q with ⟨rfl, hqp⟩ | ⟨hne, hqp⟩
    · rw [hqp] at hq
      rcases hq with hq | hq
      · exact Or.inl ⟨rfl, by cases hq; rfl⟩
      · cases hq
    · rw [hqp] at hq
      refine Or.inr ⟨hne, ?_, hq⟩
      rintro rfl
      rcases hq with hq | hq
      · exact hnew q _ hq rfl
      · exact hnew q _ hq rfl
  constructor
  case counted =>
    intro id
    show (((s.to p (.got s.next true)).setSegment s.next Segment.zeroed).segment id).refcount =
      ((s.to p (.got s.next true)).holders id).card
    rw [holders_to _ (hfree p id) (by simp)]
    rcases setSegment_cases (s := s.to p (.got s.next true)) s.next Segment.zeroed id with
      ⟨rfl, hid⟩ | ⟨-, hid⟩
    · rw [hid]
      simp [Segment.zeroed, ShmState.holders, hfree]
    · rw [hid]
      exact h.counted id
  case live =>
    intro q id hq
    rcases to_phase_cases (s := s) (p := p) (.got s.next true) q with ⟨-, hqp⟩ | ⟨-, hqp⟩
    · exact absurd (hqp.symm.trans hq) (by simp)
    · exact absurd (hqp.symm.trans hq) (hfree q id)
  case builder =>
    intro q id hq
    rcases hbuild q id hq with ⟨rfl, rfl⟩ | ⟨hne, hid, hold⟩
    · refine ⟨?_, fun r hr => ?_⟩
      · show (((s.to q _).setSegment s.next Segment.zeroed).segment s.next).constructed = false
        rw [setSegment_segment_self]
        rfl
      · rcases hbuild r s.next hr with ⟨hrq, -⟩ | ⟨-, hne, -⟩
        · exact hrq
        · exact absurd rfl hne
    · obtain ⟨hnot, huniq⟩ := h.builder q id hold
      refine ⟨?_, fun r hr => ?_⟩
      · show (((s.to p _).setSegment s.next Segment.zeroed).segment id).constructed = false
        rw [setSegment_segment_of_ne hid]
        exact hnot
      · rcases hbuild r id hr with ⟨-, rfl⟩ | ⟨-, -, hold'⟩
        · exact absurd rfl hid
        · exact huniq r hold'
  case key_lt =>
    intro id hid
    cases hid
    exact Nat.lt_succ_self _
  case segment_lt =>
    intro q id hq
    show id < s.next + 1
    rcases to_phase_cases (s := s) (p := p) (.got s.next true) q with ⟨-, hqp⟩ | ⟨-, hqp⟩
    · have hseg : (Phase.got s.next true).segment? = some id := hqp ▸ hq
      cases hseg
      exact Nat.lt_succ_self _
    · have hseg : (s.phase q).segment? = some id := hqp ▸ hq
      exact Nat.lt_succ_of_lt (h.segment_lt q id hseg)

theorem ShmInv.construct [Zero D] [Zero F] (h : ShmInv s) {id : ℕ}
    (hp : s.phase p = .attached id true) :
    ShmInv ((s.to p (.attached id false)).setSegment id Segment.built) := by
  obtain ⟨hnot, huniq⟩ := h.builder p id (Or.inr hp)
  have hmoved : ShmInv (s.to p (.attached id false)) := by
    refine h.to _ (by simp [hp]) (by simp) (by simp [Phase.Building]) (by simp [Phase.Leaving]) ?_
    intro j hj
    exact h.segment_lt p j (by rw [hp]; exact hj)
  -- a holder's segment is constructed, so this one has none
  have hnone : ∀ q, s.phase q ≠ .opened id := by
    intro q hq
    rw [(h.live q id hq).2.1] at hnot
    cases hnot
  constructor
  case counted =>
    intro j
    rcases setSegment_cases (s := s.to p (.attached id false)) id Segment.built j with
      ⟨rfl, hj⟩ | ⟨-, hj⟩
    · rw [hj]
      show _ = (((s.to p (.attached j false)).holders j).card : ℤ)
      rw [holders_to _ (hnone p) (by simp)]
      simp [Segment.built, ShmState.holders, hnone]
    · rw [hj]
      exact hmoved.counted j
  case live =>
    intro q j hq
    obtain ⟨hkey, hcons, hleave⟩ := hmoved.live q j hq
    refine ⟨hkey, ?_, hleave⟩
    rcases setSegment_cases (s := s.to p (.attached id false)) id Segment.built j with
      ⟨-, hj⟩ | ⟨-, hj⟩
    · rw [hj]
      rfl
    · rw [hj]
      exact hcons
  case builder =>
    intro q j hq
    obtain ⟨hcons, hone⟩ := hmoved.builder q j hq
    have hne : j ≠ id := by
      rintro rfl
      rcases to_phase_cases (s := s) (p := p) (.attached j false) q with ⟨-, hqp⟩ | ⟨hqne, hqp⟩
      · rw [setSegment_phase, hqp] at hq
        simp [Phase.Building] at hq
      · rw [setSegment_phase, hqp] at hq
        exact hqne (huniq q hq)
    rw [setSegment_segment_of_ne hne]
    exact ⟨hcons, hone⟩
  case key_lt => exact hmoved.key_lt
  case segment_lt => exact hmoved.segment_lt

/-- A counted move of a process that builds nothing leaves the builders as they were. -/
theorem ShmInv.builder_count (h : ShmInv s) {ph : Phase} (hph : ∀ j, ¬ ph.Building j) (id : ℕ) (d : ℤ)
    (q : π) (j : ℕ) (hq : (((s.to p ph).count id d).phase q).Building j) :
    (((s.to p ph).count id d).segment j).constructed = false ∧
      ∀ r, (((s.to p ph).count id d).phase r).Building j → r = q := by
  have hback : ∀ r, ((s.to p ph).phase r).Building j → (s.phase r).Building j :=
    fun r => of_to fun hbuild => absurd hbuild (hph j)
  obtain ⟨hnot, huniq⟩ := h.builder q j (hback q hq)
  rw [count_constructed]
  exact ⟨hnot, fun r hr => huniq r (hback r hr)⟩

/-- A process that moves and keeps its segment. -/
theorem ShmInv.segment_lt_to (h : ShmInv s) {ph : Phase} (hph : ph.segment? = (s.phase p).segment?)
    (q : π) (j : ℕ) (hq : ((s.to p ph).phase q).segment? = some j) : j < s.next :=
  h.segment_lt q j (of_to (P := fun ph => ph.segment? = some j) (fun hj => hph ▸ hj) hq)

/-- Counting in outside the windows. -/
theorem ShmInv.fetchAdd (h : ShmInv s) {id : ℕ} (hp : s.phase p = .attached id false)
    (hbuilt : (s.segment id).constructed) (hkey : s.key = some id)
    (hnone : ∀ q, ¬ (s.phase q).Leaving id) : ShmInv ((s.to p (.opened id)).count id 1) := by
  constructor
  case counted =>
    intro j
    show _ = (((s.to p (.opened id)).holders j).card : ℤ)
    by_cases hj : j = id
    · subst hj
      rw [count_refcount_self, holders_to_opened (by simp [hp]), to_segment, h.counted j]
      push_cast
      rfl
    · rw [count_refcount_of_ne hj, holders_to _ (by simp [hp]) (by simpa using Ne.symm hj)]
      exact h.counted j
  case live =>
    intro q j hq
    rw [count_key, count_constructed, count_phase]
    have hleave : ∀ r, ((s.to p (.opened id)).phase r).Leaving j → (s.phase r).Leaving j :=
      fun r => of_to (by simp [Phase.Leaving])
    rcases to_phase_cases (s := s) (p := p) (.opened id) q with ⟨-, hqp⟩ | ⟨-, hqp⟩
    · cases hqp.symm.trans hq
      exact ⟨hkey, hbuilt, fun r hr => hnone r (hleave r hr)⟩
    · obtain ⟨hkey', hcons, hnone'⟩ := h.live q j (hqp.symm.trans hq)
      exact ⟨hkey', hcons, fun r hr => hnone' r (hleave r hr)⟩
  case builder => exact h.builder_count (by simp [Phase.Building]) id 1
  case key_lt => exact h.key_lt
  case segment_lt => exact h.segment_lt_to (by rw [hp]; rfl)

/-- Counting out: the last one out leaves nobody behind. -/
theorem ShmInv.fetchSub (h : ShmInv s) {id : ℕ} (hp : s.phase p = .opened id) :
    ShmInv ((s.to p (.dropped id ((s.segment id).refcount = 1))).count id (-1)) := by
  set last : Bool := decide ((s.segment id).refcount = 1) with hlast
  have hcard := holders_of_opened (.dropped id last) hp (by simp)
  constructor
  case counted =>
    intro j
    show _ = (((s.to p (.dropped id last)).holders j).card : ℤ)
    by_cases hj : j = id
    · subst hj
      rw [count_refcount_self, to_segment, h.counted j, ← hcard]
      push_cast
      omega
    · rw [count_refcount_of_ne hj, holders_to _ (by simpa [hp] using Ne.symm hj) (by simp)]
      exact h.counted j
  case live =>
    intro q j hq
    rw [count_key, count_constructed, count_phase]
    have hold : s.phase q = .opened j := of_to (P := (· = .opened j)) (by simp) hq
    obtain ⟨hkey, hcons, hnone⟩ := h.live q j hold
    refine ⟨hkey, hcons, fun r hr => ?_⟩
    rcases to_phase_cases (s := s) (p := p) (.dropped id last) r with ⟨-, hrp⟩ | ⟨-, hrp⟩
    · -- the one counted out is the last only if `q` is not there
      rw [hrp] at hr
      rcases hr with hr | hr
      · injection hr with hid hone
        subst hid
        rw [hlast, decide_eq_true_eq, h.counted id] at hone
        have hmem : q ∈ (s.to p (.dropped id last)).holders id :=
          Finset.mem_filter.mpr ⟨Finset.mem_univ q, hq⟩
        have hpos := Finset.card_pos.mpr ⟨q, hmem⟩
        omega
      · cases hr
    · rw [hrp] at hr
      exact hnone r hr
  case builder => exact h.builder_count (by simp [Phase.Building]) id (-1)
  case key_lt => exact h.key_lt
  case segment_lt => exact h.segment_lt_to (by rw [hp]; rfl)

theorem ShmInv.rmid (h : ShmInv s) {id : ℕ} (hp : s.phase p = .detached id)
    (hkey : s.key = some id) : ShmInv { s.to p .closed with key := none } := by
  have hmoved : ShmInv (s.to p .closed) :=
    h.to _ (by simp [hp]) (by simp) (by simp [Phase.Building]) (by simp [Phase.Leaving])
      (by simp [Phase.segment?])
  constructor
  case counted => exact hmoved.counted
  case live =>
    intro q j hq
    have hold : s.phase q = .opened j := of_to (P := (· = .opened j)) (by simp) hq
    exact absurd hold (h.nobody_holds hp hkey q j)
  case builder => exact hmoved.builder
  case key_lt =>
    intro j hj
    cases hj
  case segment_lt => exact hmoved.segment_lt

/-- **One step outside the windows keeps the invariant.** -/
theorem ShmInv.step [Zero D] [Zero F] (h : ShmInv s) {a : ShmAction n D F π} (ha : Orderly s a) :
    ShmInv (shmStep s a).1 := by
  unfold shmStep
  split
  case h_1 p =>
    split
    · split
      · refine h.to _ ?_ (by simp) (by simp [Phase.Building]) (by simp [Phase.Leaving]) ?_
        · simp [*]
        · simp [Phase.segment?]
      · exact h.create p ‹_›
    · exact h
  case h_2 p =>
    split
    · split
      · rename_i id hkey
        refine h.to _ ?_ (by simp) (by simp [Phase.Building]) (by simp [Phase.Leaving]) ?_
        · simp [*]
        · intro j hj
          cases hj
          exact h.key_lt id hkey
      · refine h.to _ ?_ (by simp) (by simp [Phase.Building]) (by simp [Phase.Leaving]) ?_
        · simp [*]
        · simp [Phase.segment?]
    · exact h
  case h_3 p =>
    split
    · rename_i id creator hp
      split
      · refine h.to _ (by simp [hp]) (by simp) ?_ (by simp [Phase.Leaving]) ?_
        · intro j hj
          rcases hj with hj | hj
          · cases hj
          · cases hj
            exact Or.inl hp
        · intro j hj
          exact h.segment_lt p j (by rw [hp]; exact hj)
      · refine h.to _ (by simp [hp]) (by simp) (by simp [Phase.Building])
          (by simp [Phase.Leaving]) (by simp [Phase.segment?])
    · exact h
  case h_4 p =>
    split
    · exact h.construct ‹_›
    · exact h
  case h_5 p =>
    split
    · rename_i id hp
      obtain ⟨hbuilt, hkey, hnone⟩ := ha id hp
      exact h.fetchAdd hp hbuilt hkey hnone
    · exact h
  case h_6 p a =>
    split
    · exact h.setSegment _ _ rfl rfl
    · exact h
  case h_7 p =>
    split
    · exact h.fetchSub ‹_›
    · exact h
  case h_8 p =>
    split
    · rename_i id hp
      refine h.to _ (by simp [hp]) (by simp) (by simp [Phase.Building]) ?_ ?_
      · intro j hj
        rcases hj with hj | hj
        · cases hj
        · cases hj
          exact Or.inl hp
      · intro j hj
        exact h.segment_lt p j (by rw [hp]; exact hj)
    · rename_i id hp
      exact h.to _ (by simp [hp]) (by simp) (by simp [Phase.Building]) (by simp [Phase.Leaving])
        (by simp [Phase.segment?])
    · exact h
  case h_9 p =>
    split
    · rename_i id hp
      split
      · exact h.rmid hp ‹_›
      · exact h.to _ (by simp [hp]) (by simp) (by simp [Phase.Building])
          (by simp [Phase.Leaving]) (by simp [Phase.segment?])
    · exact h

end Steps

/-! ## Whole runs -/

section Runs

variable {n : ℕ} {D F π : Type*} [Fintype π] [DecidableEq π] [Zero D] [Zero F]
  {s : ShmState n D F π} {a : ShmAction n D F π} {p : π} {id : ℕ}

/-- What a step that shows this found. -/
def Found (s : ShmState n D F π) : ShmEvent π → Prop
  | .constructed p id => s.phase p = .attached id true
  | .accessed p id => s.phase p = .opened id
  | .removed p id => s.phase p = .detached id ∧ s.key = some id
  | .none => True

theorem shmStep_found (s : ShmState n D F π) (a : ShmAction n D F π) : Found s (shmStep s a).2 := by
  unfold shmStep
  split
  case h_4 q =>
    split
    · assumption
    · trivial
  case h_6 q a =>
    split
    · assumption
    · trivial
  case h_9 q =>
    split
    · split
      · exact ⟨‹_›, ‹_›⟩
      · trivial
    · trivial
  -- no other step shows anything
  all_goals
    repeat' split
    all_goals trivial

/-- The constructor of the segment has run. -/
def ShmState.Built (s : ShmState n D F π) (id : ℕ) : Prop :=
  (s.segment id).constructed ∧ id < s.next

/-- A constructed segment stays constructed. -/
theorem ShmState.Built.step (h : s.Built id) (a : ShmAction n D F π) :
    (shmStep s a).1.Built id := by
  obtain ⟨hbuilt, hlt⟩ := h
  have hset : ∀ (t : ShmState n D F π) (j : ℕ) (g : Segment n D F π), t.segment = s.segment →
      (j = id → g.constructed) → ((t.setSegment j g).segment id).constructed := by
    intro t j g ht hg
    rcases setSegment_cases (s := t) j g id with ⟨rfl, hj⟩ | ⟨-, hj⟩
    · rw [hj]
      exact hg rfl
    · rw [hj, ht]
      exact hbuilt
  unfold shmStep
  split
  case h_1 p =>
    split
    · split
      · exact ⟨hbuilt, hlt⟩
      · exact ⟨hset _ _ _ rfl fun heq => absurd heq hlt.ne', Nat.lt_succ_of_lt hlt⟩
    · exact ⟨hbuilt, hlt⟩
  case h_4 p =>
    split
    · exact ⟨hset _ _ _ rfl fun _ => rfl, hlt⟩
    · exact ⟨hbuilt, hlt⟩
  case h_5 p =>
    split
    · exact ⟨by rw [count_constructed]; exact hbuilt, hlt⟩
    · exact ⟨hbuilt, hlt⟩
  case h_6 p a =>
    split
    · exact ⟨hset _ _ _ rfl fun heq => by subst heq; exact hbuilt, hlt⟩
    · exact ⟨hbuilt, hlt⟩
  case h_7 p =>
    split
    · exact ⟨by rw [count_constructed]; exact hbuilt, hlt⟩
    · exact ⟨hbuilt, hlt⟩
  all_goals
    repeat' split
    all_goals exact ⟨hbuilt, hlt⟩

/-- Past and state of an orderly run: the invariant, and every segment ever used is constructed. -/
theorem shm_history (as : List (ShmAction n D F π)) (k : ℕ)
    (horderly : ∀ e ∈ trace shmStep ShmState.start as, Orderly e.before e.input) :
    ShmInv (final shmStep ShmState.start (as.take k)) ∧
      ∀ e ∈ (trace shmStep ShmState.start as).take k, ∀ q id, e.out = .accessed q id →
        (final shmStep ShmState.start (as.take k)).Built id := by
  refine trace_history_take (P := fun tr t => ShmInv t ∧ ∀ e ∈ tr, ∀ q id,
      e.out = .accessed q id → t.Built id) (C := fun e => Orderly e.before e.input)
    ⟨ShmInv.start, by simp⟩ ?_ as k fun e he => horderly e (List.mem_of_mem_take he)
  rintro tr t a ⟨hinv, hpast⟩ ha
  refine ⟨hinv.step ha, fun e he q id hout => ?_⟩
  rcases List.mem_append.mp he with hold | hnew
  · exact (hpast e hold q id hout).step a
  · obtain rfl := List.mem_singleton.mp hnew
    have hopened : Found t (.accessed q id) := hout ▸ shmStep_found t a
    refine ShmState.Built.step ⟨(hinv.live q id hopened).2.1, ?_⟩ a
    exact hinv.segment_lt q id (by rw [hopened]; rfl)

/-- **The attachment law.** In every run in which no process counts itself in on a segment that its
creator has not constructed or its last closer is giving up, for any number of processes: the count
is exact in every state, all holders share one segment, no used block is initialised again, and the
key is removed only when nobody holds it. -/
theorem attachment_law (as : List (ShmAction n D F π))
    (horderly : ∀ e ∈ trace shmStep ShmState.start as, Orderly e.before e.input) :
    AttachmentLaw (trace shmStep ShmState.start as) := by
  have hinv := trace_invariant_of (C := fun e => Orderly e.before e.input)
    (fun s a (h : ShmInv s) ha => h.step ha) ShmInv.start as horderly
  constructor
  case counted => exact fun e he => ⟨(hinv e he).1.counted, (hinv e he).2.counted⟩
  case shared => exact fun e he => ⟨(hinv e he).1.shared, (hinv e he).2.shared⟩
  case intact =>
    intro i j p q id hij hi hj
    rw [Option.map_eq_some_iff] at hi hj
    obtain ⟨ei, hei, hused⟩ := hi
    obtain ⟨ej, hej, hcons⟩ := hj
    obtain ⟨hinvj, hpast⟩ := shm_history as j horderly
    have hmem : ei ∈ (trace shmStep ShmState.start as).take j := by
      refine List.mem_of_getElem? (i := i) ?_
      rw [List.getElem?_take_of_lt hij, hei]
    obtain ⟨hbuilt, -⟩ := hpast ei hmem q id hused
    rw [← before_eq_final _ hej] at hinvj hbuilt
    rw [out_eq _ hej] at hcons
    have hattached : Found ej.before (.constructed p id) := hcons ▸ shmStep_found ej.before ej.input
    rw [(hinvj.builder p id (Or.inr hattached)).1] at hbuilt
    cases hbuilt
  case removal =>
    intro e he p id hout q j
    rw [eq_entry_of_mem _ he] at hout
    have hfound : Found e.before (.removed p id) := hout ▸ shmStep_found e.before e.input
    obtain ⟨hp, hkey⟩ := hfound
    exact (hinv e he).1.nobody_holds hp hkey q j

end Runs

/-- One motor, two processes. -/
abbrev twoStart : ShmState 1 ℕ ℕ (Fin 2) := ShmState.start

/-- Two processes open the segment and close it, the last one removes the key, and the first comes back
to a new segment. -/
def openCloseReopen : List (ShmAction 1 ℕ ℕ (Fin 2)) :=
  [.shmgetExcl 0, .shmat 0, .construct 0, .fetchAdd 0, .shmgetExcl 1, .shmget 1, .shmat 1, .fetchAdd 1,
    .fetchSub 0, .shmdt 0, .fetchSub 1, .shmdt 1, .rmid 1,
    .shmgetExcl 0, .shmat 0, .construct 0, .fetchAdd 0]

theorem attachment_law_openCloseReopen :
    AttachmentLaw (trace shmStep twoStart openCloseReopen) ∧
      (trace shmStep twoStart openCloseReopen)[12]?.map Entry.out = some (.removed 1 0) ∧
      (final shmStep twoStart openCloseReopen).phase 0 = .opened 1 := by
  refine ⟨attachment_law openCloseReopen ?_, rfl, rfl⟩
  simp only [openCloseReopen, trace, List.forall_mem_cons]
  refine ⟨trivial, trivial, trivial, fun id hid => ?_, trivial, trivial, trivial, fun id hid => ?_,
    trivial, trivial, trivial, trivial, trivial, trivial, trivial, trivial, fun id hid => ?_, by simp⟩
  · cases (show Phase.attached 0 false = .attached id false from hid)
    exact ⟨rfl, rfl, by decide⟩
  · cases (show Phase.attached 0 false = .attached id false from hid)
    exact ⟨rfl, rfl, by decide⟩
  · cases (show Phase.attached 1 false = .attached id false from hid)
    exact ⟨rfl, rfl, by decide⟩

/-- The second process counts itself in before the creator's placement-new. -/
def openBeforeBuilt : List (ShmAction 1 ℕ ℕ (Fin 2)) :=
  [.shmgetExcl 0, .shmgetExcl 1, .shmget 1, .shmat 1, .fetchAdd 1, .shmat 0, .construct 0,
    .fetchAdd 0]

/-- The second process counts itself in between the last decrement and the removal. -/
def openBeforeRemoved : List (ShmAction 1 ℕ ℕ (Fin 2)) :=
  [.shmgetExcl 0, .shmat 0, .construct 0, .fetchAdd 0, .shmgetExcl 1, .shmget 1, .shmat 1,
    .fetchSub 0, .fetchAdd 1, .shmdt 0, .rmid 0]

/-- In the first window the constructor wipes a count: two processes hold the segment and `refcount`
is `1`. In the second the key is removed while a process holds it. -/
theorem attachment_windows :
    ¬ AttachmentLaw (trace shmStep twoStart openBeforeBuilt) ∧
      ¬ AttachmentLaw (trace shmStep twoStart openBeforeRemoved) := by
  constructor
  · intro h
    have hcount := (h.counted _ (List.mem_of_getElem? (i := 7) rfl)).2 0
    exact absurd hcount (by decide)
  · intro h
    exact h.removal _ (List.mem_of_getElem? (i := 10) rfl) 0 0 rfl 1 0 rfl

end SparqControl.SparqCan
