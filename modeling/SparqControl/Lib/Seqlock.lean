/-
# SparqControl.Lib.Seqlock — one writer, any number of readers, a version counter that wraps.

A block of shared memory holds a value and a counter. The writer makes the counter odd, copies its
value in one word at a time, and makes the counter even again. A reader loads the counter, gives up
when it is odd, copies the value out one word at a time, and keeps the copy only when the counter
still reads the same. No step here is larger than one counter access or one word, and a run is any
sequence of such steps, so the copies of the writer and of every reader overlap in every way.

The counter runs modulo `2 * half`, so a reader may be fooled by a whole turn of it; fewer than
`half` writes begun during one attempt rule that out. Under that bound `read_eq_latest` says what a
successful read returns: the value of the LATEST write completed when it returned.

Nothing here names a particular program.
-/
import Mathlib.Data.Fintype.Basic
import Mathlib.Data.Fintype.Prod
import SparqControl.Lib.Trace

namespace SparqControl.Lib.Seqlock

open SparqControl.Lib.Trace

/-! ## Values as words -/

/-- How a value of type `A` is laid out as words of type `α` addressed by `ι`. -/
structure Layout (A ι α : Type*) [DecidableEq ι] where
  read : A → ι → α
  put : A → ι → α → A
  read_put : ∀ a i v j, read (put a i v) j = if j = i then v else read a j
  ext : ∀ a b, (∀ i, read a i = read b i) → a = b

/-- An array of records is laid out as the words of its records. -/
def Layout.array {S φ α : Type*} [DecidableEq φ] (L : Layout S φ α) (n : ℕ) :
    Layout (Fin n → S) (Fin n × φ) α where
  read a i := L.read (a i.1) i.2
  put a i v := Function.update a i.1 (L.put (a i.1) i.2 v)
  read_put a i v j := by
    rcases i with ⟨i, f⟩
    rcases j with ⟨j, g⟩
    by_cases hij : j = i
    · subst hij
      simp [L.read_put]
    · simp [hij]
  ext a b h := by
    funext k
    exact L.ext _ _ fun f => h (k, f)

/-! ## The machine -/

/-- A write in progress: the value being written and the words still to copy. -/
structure Writing (A ι : Type*) where
  src : A
  left : Finset ι

/-- A read attempt in progress: the counter it loaded, its destination so far, the words still to
copy. -/
structure Reading (A ι : Type*) where
  s1 : ℕ
  dst : A
  left : Finset ι

/-- The block with its parties. Readers are named by `ρ`. -/
structure Block (A ι ρ : Type*) where
  seq : ℕ
  data : A
  writer : Option (Writing A ι)
  reader : ρ → Option (Reading A ι)

/-- A block nobody is using. -/
def Block.fresh (A ι ρ : Type*) (init : A) : Block A ι ρ where
  seq := 0
  data := init
  writer := none
  reader := fun _ => none

/-- The single steps of the writer and of the readers. `elsewhere` is a step of the system that does
not touch this block. -/
inductive Access (A ι ρ : Type*) where
  | writeBegin (src : A)
  | writeWord (i : ι)
  | writeEnd
  | readBegin (r : ρ) (dst : A)
  | readWord (r : ρ) (i : ι)
  | readEnd (r : ρ)
  | elsewhere

/-- What a step makes known: a write started or completed, an attempt started, an attempt returned
with its destination or returned empty-handed. -/
inductive Event (A ρ : Type*) where
  | writeStarted
  | wrote (src : A)
  | readStarted (r : ρ)
  | readOk (r : ρ) (dst : A)
  | readFailed (r : ρ)
  | silent

section Machine

variable {A ι α ρ : Type*} [DecidableEq ι] [Fintype ι] [DecidableEq ρ]

/-- The counter after one increment. -/
def bump (half seq : ℕ) : ℕ := (seq + 1) % (2 * half)

/-- One step. A step its party is not ready for (a word outside a copy, an end before the last word,
a second write by the writer) does nothing. -/
def step (half : ℕ) (L : Layout A ι α) (b : Block A ι ρ) : Access A ι ρ → Block A ι ρ × Event A ρ
  | .writeBegin src =>
      match b.writer with
      | some _ => (b, .silent)
      | none =>
          ({ b with seq := bump half b.seq, writer := some ⟨src, Finset.univ⟩ }, .writeStarted)
  | .writeWord i =>
      match b.writer with
      | none => (b, .silent)
      | some w =>
          if i ∈ w.left then
            ({ b with
                data := L.put b.data i (L.read w.src i)
                writer := some { w with left := w.left.erase i } }, .silent)
          else (b, .silent)
  | .writeEnd =>
      match b.writer with
      | none => (b, .silent)
      | some w =>
          if w.left = ∅ then
            ({ b with seq := bump half b.seq, writer := none }, .wrote w.src)
          else (b, .silent)
  | .readBegin r dst =>
      match b.reader r with
      | some _ => (b, .silent)
      | none =>
          if b.seq % 2 = 1 then (b, .readFailed r)
          else
            ({ b with reader := Function.update b.reader r (some ⟨b.seq, dst, Finset.univ⟩) },
              .readStarted r)
  | .readWord r i =>
      match b.reader r with
      | none => (b, .silent)
      | some c =>
          if i ∈ c.left then
            ({ b with
                reader := Function.update b.reader r (some
                  { c with dst := L.put c.dst i (L.read b.data i), left := c.left.erase i }) },
              .silent)
          else (b, .silent)
  | .readEnd r =>
      match b.reader r with
      | none => (b, .silent)
      | some c =>
          if c.left = ∅ then
            ({ b with reader := Function.update b.reader r none },
              if b.seq = c.s1 then .readOk r c.dst else .readFailed r)
          else (b, .silent)
  | .elsewhere => (b, .silent)

end Machine

/-! ## What a record of events says -/

section Events

variable {A ρ : Type*}

def Event.wrote? : Event A ρ → Option A
  | .wrote src => some src
  | _ => none

def Event.isStart : Event A ρ → Bool
  | .writeStarted => true
  | _ => false

/-- The values of the completed writes, oldest first. -/
def completed (os : List (Event A ρ)) : List A := os.filterMap Event.wrote?

/-- How many writes were begun. -/
def started (os : List (Event A ρ)) : ℕ := os.countP Event.isStart

/-- What the block held last: the latest completed write, or what it started with. -/
def latest (init : A) (os : List (Event A ρ)) : A := (completed os).getLastD init

/-- The attempt of reader `r` that is under way before position `n` began at `m`. -/
def AttemptFrom (os : List (Event A ρ)) (r : ρ) (m n : ℕ) : Prop :=
  m < n ∧ os[m]? = some (.readStarted r) ∧ ∀ k, m < k → k < n → os[k]? ≠ some (.readStarted r)

/-- Fewer than `half` writes are begun during the attempt that returns at `n`. -/
def FewWrites (half : ℕ) (os : List (Event A ρ)) (r : ρ) (n : ℕ) : Prop :=
  ∀ m, AttemptFrom os r m n → started ((os.take n).drop m) < half

/-- **No torn and no stale read.** There is one numbering of the positions of a run by versions of
the block (version `0` its starting value, version `k + 1` the value of the `k`-th completed write),
never falling, such that every read that returns while few writes were begun during it returns the
version of the position it returns at, of a write completed by then. -/
def ReadsInOrder (half : ℕ) (init : A) (os : List (Event A ρ)) : Prop :=
  ∃ version : ℕ → ℕ, Monotone version ∧
    ∀ r n dst, os[n]? = some (.readOk r dst) → FewWrites half os r n →
      (init :: completed (os.take n))[version n]? = some dst

theorem completed_concat (os : List (Event A ρ)) (o : Event A ρ) :
    completed (os ++ [o]) = completed os ++ o.wrote?.toList := by
  unfold completed
  rw [List.filterMap_append]
  cases h : o.wrote? <;> simp [h]

theorem started_concat (os : List (Event A ρ)) (o : Event A ρ) :
    started (os ++ [o]) = started os + if o.isStart then 1 else 0 := by
  unfold started
  rw [List.countP_append, List.countP_singleton]

theorem completed_take_length_le (os : List (Event A ρ)) {m n : ℕ} (h : m ≤ n) :
    (completed (os.take m)).length ≤ (completed (os.take n)).length :=
  ((List.take_sublist_take_left h).filterMap _).length_le

theorem started_take_le (os : List (Event A ρ)) (m : ℕ) : started (os.take m) ≤ started os :=
  (List.take_sublist m os).countP_le

/-- The latest version is the last of the versions. -/
theorem getElem?_completed_length (init : A) (os : List (Event A ρ)) :
    (init :: completed os)[(completed os).length]? = some (latest init os) := by
  have hlast : (init :: completed os).getLast? = some (latest init os) := by
    rw [List.getLast?_cons, latest, List.getLastD_eq_getLast?]
  rw [← hlast, List.getLast?_eq_getElem?, List.length_cons, Nat.add_sub_cancel]

end Events

/-! ## The invariant -/

section Invariant

variable {A ι α ρ : Type*} [DecidableEq ι]

/-- The writer's half: the counter counts the increments made, its parity tells whether a write is
under way, and a word differs from the latest completed write only once the current one copied it. -/
def WriterInv (half : ℕ) (L : Layout A ι α) (init : A) (os : List (Event A ρ))
    (b : Block A ι ρ) : Prop :=
  match b.writer with
  | none =>
      started os = (completed os).length ∧ b.seq = 2 * (completed os).length % (2 * half) ∧
        b.data = latest init os
  | some w =>
      started os = (completed os).length + 1 ∧
        b.seq = (2 * (completed os).length + 1) % (2 * half) ∧
        ∀ i, L.read b.data i = if i ∈ w.left then L.read (latest init os) i else L.read w.src i

/-- A reader's half: its attempt began while no write was under way, it holds the counter of that
moment, and as long as no write was begun since, what it copied is the latest completed write. -/
def ReadingInv (half : ℕ) (L : Layout A ι α) (init : A) (os : List (Event A ρ)) (r : ρ)
    (c : Reading A ι) : Prop :=
  ∃ m, AttemptFrom os r m os.length ∧
    started (os.take m) = (completed (os.take m)).length ∧
    c.s1 = 2 * (completed (os.take m)).length % (2 * half) ∧
    (started os = started (os.take m) →
      ∀ i, i ∉ c.left → L.read c.dst i = L.read (latest init os) i)

structure Inv (half : ℕ) (L : Layout A ι α) (init : A) (os : List (Event A ρ))
    (b : Block A ι ρ) : Prop where
  writer : WriterInv half L init os b
  reader : ∀ r c, b.reader r = some c → ReadingInv half L init os r c

variable {half : ℕ} {L : Layout A ι α} {init : A} {os : List (Event A ρ)} {b : Block A ι ρ}

/-- While an attempt still sees the number of writes it began with, no write is under way. -/
theorem WriterInv.data_eq_of_started (h : WriterInv half L init os b) {m : ℕ}
    (hm : started (os.take m) = (completed (os.take m)).length)
    (heq : started os = started (os.take m)) : b.data = latest init os := by
  have hle : (completed (os.take m)).length ≤ (completed os).length :=
    ((List.take_sublist m os).filterMap _).length_le
  unfold WriterInv at h
  split at h
  · exact h.2.2
  · exfalso
    have := h.1
    omega

/-- An even counter is that of a block no write is under way on. -/
theorem WriterInv.idle_of_even (h : WriterInv half L init os b) (heven : ¬ b.seq % 2 = 1) :
    started os = (completed os).length ∧ b.seq = 2 * (completed os).length % (2 * half) := by
  unfold WriterInv at h
  split at h
  · exact ⟨h.1, h.2.1⟩
  · exfalso
    refine heven ?_
    rw [h.2.1, Nat.mod_mul_right_mod]
    omega

theorem AttemptFrom.concat {r : ρ} {m : ℕ} {o : Event A ρ} (h : AttemptFrom os r m os.length)
    (ho : o ≠ .readStarted r) : AttemptFrom (os ++ [o]) r m (os ++ [o]).length := by
  obtain ⟨hm, hstart, hnot⟩ := h
  refine ⟨by simp; omega, by rw [List.getElem?_append_left hm, hstart], fun k hmk hk => ?_⟩
  rcases Nat.lt_or_ge k os.length with hlt | hge
  · rw [List.getElem?_append_left hlt]
    exact hnot k hmk hlt
  · obtain rfl : k = os.length := by simp at hk; omega
    simpa using ho

theorem AttemptFrom.take_concat {r : ρ} {m : ℕ} (h : AttemptFrom os r m os.length)
    (o : Event A ρ) : (os ++ [o]).take m = os.take m := by
  rw [List.take_append_of_le_length h.1.le]

/-- An attempt under way survives every event but the start of another by the same reader; a write
may complete only if one was under way. -/
theorem ReadingInv.concat {r : ρ} {c : Reading A ι} {o : Event A ρ}
    (h : ReadingInv half L init os r c) (ho : o ≠ .readStarted r)
    (hw : ∀ src, o = .wrote src → (completed os).length < started os) :
    ReadingInv half L init (os ++ [o]) r c := by
  obtain ⟨m, hfrom, hidle, hs1, hcopy⟩ := h
  refine ⟨m, hfrom.concat ho, ?_, ?_, ?_⟩
  · rwa [hfrom.take_concat]
  · rwa [hfrom.take_concat]
  · rw [hfrom.take_concat, started_concat]
    intro heq
    have hle := started_take_le os m
    have hsame : started os = started (os.take m) := by omega
    have hnone : o.wrote? = none := by
      cases o with
      | wrote src =>
          have hlt := hw src rfl
          have := ((List.take_sublist m os).filterMap Event.wrote?).length_le
          simp only [completed] at hidle hlt
          omega
      | _ => rfl
    have hlatest : latest init (os ++ [o]) = latest init os := by
      simp [latest, completed_concat, hnone]
    rw [hlatest]
    exact hcopy hsame

/-- An event that is neither the start nor the end of a write leaves the writer's half alone. -/
theorem WriterInv.concat {o : Event A ρ} {b' : Block A ι ρ} (h : WriterInv half L init os b)
    (hstart : o.isStart = false) (hwrote : o.wrote? = none) (hseq : b'.seq = b.seq)
    (hdata : b'.data = b.data) (hwriter : b'.writer = b.writer) :
    WriterInv half L init (os ++ [o]) b' := by
  simpa [WriterInv, hseq, hdata, hwriter, started_concat, completed_concat, latest, hstart,
    hwrote] using h

/-- An event of no write and no attempt's start leaves the whole invariant alone. -/
theorem Inv.concat {o : Event A ρ} (h : Inv half L init os b) (hstart : o.isStart = false)
    (hwrote : o.wrote? = none) (hread : ∀ r, o ≠ .readStarted r) :
    Inv half L init (os ++ [o]) b where
  writer := h.writer.concat hstart hwrote rfl rfl rfl
  reader r c hc := (h.reader r c hc).concat (hread r) fun src ho => by
    rw [ho] at hwrote
    cases hwrote

theorem Inv.fresh (half : ℕ) (L : Layout A ι α) (init : A) :
    Inv half L init ([] : List (Event A ρ)) (Block.fresh A ι ρ init) where
  writer := by simp [WriterInv, Block.fresh, started, completed, latest]
  reader r c hc := by cases hc

/-- **What a successful read returns.** With fewer than `half` writes begun during the attempt, the
counter that reads the same has not turned over: no write was begun at all, and the copy is the
latest completed write. -/
theorem Inv.dst_eq_latest (h : Inv half L init os b) {r : ρ} {c : Reading A ι}
    (hc : b.reader r = some c) (hleft : c.left = ∅) (hseq : b.seq = c.s1)
    (hfew : ∀ m, AttemptFrom os r m os.length → started (os.drop m) < half) :
    c.dst = latest init os := by
  obtain ⟨m, hfrom, hidle, hs1, hcopy⟩ := h.reader r c hc
  have hsplit : started os = started (os.take m) + started (os.drop m) := by
    unfold started
    rw [← List.countP_append, List.take_append_drop]
  have hlt := hfew m hfrom
  have heven : ¬ b.seq % 2 = 1 := by
    rw [hseq, hs1, Nat.mod_mul_right_mod]
    omega
  obtain ⟨hstarted, hcount⟩ := h.writer.idle_of_even heven
  have hturn : started os % half = started (os.take m) % half := by
    have hmod : 2 * (completed os).length % (2 * half) =
        2 * (completed (os.take m)).length % (2 * half) := by rw [← hcount, hseq, hs1]
    rw [Nat.mul_mod_mul_left, Nat.mul_mod_mul_left] at hmod
    rw [hstarted, hidle]
    omega
  have hsame : started os = started (os.take m) := by
    have hzero := Nat.sub_mod_eq_zero_of_mod_eq hturn
    rw [hsplit, Nat.add_sub_cancel_left, Nat.mod_eq_of_lt hlt] at hzero
    omega
  refine L.ext _ _ fun i => hcopy hsame i ?_
  rw [hleft]
  exact Finset.notMem_empty i

/-! ## One step -/

variable [Fintype ι] [DecidableEq ρ]

theorem Inv.writeBegin (h : Inv half L init os b) (src : A) :
    Inv half L init (os ++ [(step half L b (.writeBegin src)).2])
      (step half L b (.writeBegin src)).1 := by
  cases hw : b.writer with
  | some w =>
      simp only [step, hw]
      exact h.concat rfl rfl (by simp)
  | none =>
      simp only [step, hw]
      have hwriter := h.writer
      simp only [WriterInv, hw] at hwriter
      obtain ⟨hstarted, hseq, hdata⟩ := hwriter
      refine ⟨?_, fun r c hc => (h.reader r c hc).concat (by simp) (by simp)⟩
      simp only [WriterInv, started_concat, completed_concat, latest, Event.isStart, Event.wrote?,
        Option.toList_none, List.append_nil, if_true, Finset.mem_univ]
      refine ⟨by omega, ?_, fun i => by rw [hdata, latest]⟩
      rw [hseq, bump, Nat.mod_add_mod]

theorem Inv.writeWord (h : Inv half L init os b) (i : ι) :
    Inv half L init (os ++ [(step half L b (.writeWord i)).2])
      (step half L b (.writeWord i)).1 := by
  cases hw : b.writer with
  | none =>
      simp only [step, hw]
      exact h.concat rfl rfl (by simp)
  | some w =>
      simp only [step, hw]
      split
      case isFalse => exact h.concat rfl rfl (by simp)
      case isTrue hi =>
        have hwriter := h.writer
        simp only [WriterInv, hw] at hwriter
        obtain ⟨hstarted, hseq, hdata⟩ := hwriter
        refine ⟨?_, fun r c hc => (h.reader r c hc).concat (by simp) (by simp)⟩
        simp only [WriterInv, started_concat, completed_concat, latest, Event.isStart,
          Event.wrote?, Option.toList_none, List.append_nil]
        refine ⟨by simpa using hstarted, hseq, fun j => ?_⟩
        rw [L.read_put, hdata j]
        by_cases hji : j = i
        · simp [hji]
        · simp [hji, latest]

theorem Inv.writeEnd (h : Inv half L init os b) :
    Inv half L init (os ++ [(step half L b .writeEnd).2]) (step half L b .writeEnd).1 := by
  cases hw : b.writer with
  | none =>
      simp only [step, hw]
      exact h.concat rfl rfl (by simp)
  | some w =>
      simp only [step, hw]
      split
      case isFalse => exact h.concat rfl rfl (by simp)
      case isTrue hleft =>
        have hwriter := h.writer
        simp only [WriterInv, hw] at hwriter
        obtain ⟨hstarted, hseq, hdata⟩ := hwriter
        refine ⟨?_, fun r c hc => (h.reader r c hc).concat (by simp) fun _ _ => by omega⟩
        simp only [WriterInv, started_concat, completed_concat, latest, Event.isStart,
          Event.wrote?, Option.toList_some]
        refine ⟨by simpa using hstarted, ?_, ?_⟩
        · rw [hseq, bump, Nat.mod_add_mod]
          simp [Nat.mul_add]
        · -- every word has been copied, so the block holds the source
          refine L.ext _ _ fun i => ?_
          rw [hdata i, hleft]
          simp

theorem Inv.readBegin (h : Inv half L init os b) (r : ρ) (dst : A) :
    Inv half L init (os ++ [(step half L b (.readBegin r dst)).2])
      (step half L b (.readBegin r dst)).1 := by
  cases hr : b.reader r with
  | some c =>
      simp only [step, hr]
      exact h.concat rfl rfl (by simp)
  | none =>
      simp only [step, hr]
      split
      case isTrue => exact h.concat rfl rfl (by simp)
      case isFalse heven =>
        refine ⟨h.writer.concat rfl rfl rfl rfl rfl, fun r' c hc => ?_⟩
        by_cases hrr : r' = r
        · -- the attempt that begins here: nothing is copied yet
          subst hrr
          simp only [Function.update_self, Option.some.injEq] at hc
          subst hc
          obtain ⟨hidle, hseq⟩ := h.writer.idle_of_even heven
          refine ⟨os.length, ⟨by simp, by simp, fun k hk hk' => by simp at hk'; omega⟩, ?_, ?_, ?_⟩
          · simpa using hidle
          · simpa using hseq
          · simp
        · simp only [Function.update_of_ne hrr] at hc
          refine (h.reader r' c hc).concat ?_ (by simp)
          simpa using fun heq => hrr heq.symm

theorem Inv.readWord (h : Inv half L init os b) (r : ρ) (i : ι) :
    Inv half L init (os ++ [(step half L b (.readWord r i)).2])
      (step half L b (.readWord r i)).1 := by
  cases hr : b.reader r with
  | none =>
      simp only [step, hr]
      exact h.concat rfl rfl (by simp)
  | some c =>
      simp only [step, hr]
      split
      case isFalse => exact h.concat rfl rfl (by simp)
      case isTrue hi =>
        refine ⟨h.writer.concat rfl rfl rfl rfl rfl, fun r' c' hc => ?_⟩
        refine ReadingInv.concat ?_ (by simp) (by simp)
        by_cases hrr : r' = r
        · subst hrr
          simp only [Function.update_self, Option.some.injEq] at hc
          subst hc
          obtain ⟨m, hfrom, hidle, hs1, hcopy⟩ := h.reader r' c hr
          refine ⟨m, hfrom, hidle, hs1, fun heq j hj => ?_⟩
          show L.read (L.put c.dst i (L.read b.data i)) j = L.read (latest init os) j
          rw [L.read_put]
          split
          case isTrue hji => rw [hji, h.writer.data_eq_of_started hidle heq]
          case isFalse hji =>
            refine hcopy heq j fun hmem => hj ?_
            exact Finset.mem_erase.mpr ⟨hji, hmem⟩
        · simp only [Function.update_of_ne hrr] at hc
          exact h.reader r' c' hc

theorem Inv.readEnd (h : Inv half L init os b) (r : ρ) :
    Inv half L init (os ++ [(step half L b (.readEnd r)).2]) (step half L b (.readEnd r)).1 := by
  cases hr : b.reader r with
  | none =>
      simp only [step, hr]
      exact h.concat rfl rfl (by simp)
  | some c =>
      simp only [step, hr]
      split
      case isFalse => exact h.concat rfl rfl (by simp)
      case isTrue =>
        -- the event is a return either way: no write, no start of an attempt
        have hinv : ∀ o : Event A ρ, o.isStart = false → o.wrote? = none →
            (∀ r', o ≠ .readStarted r') → Inv half L init (os ++ [o])
              { b with reader := Function.update b.reader r none } := by
          intro o hstart hwrote hread
          refine ⟨h.writer.concat hstart hwrote rfl rfl rfl, fun r' c' hc => ?_⟩
          have hrr : r' ≠ r := by
            rintro rfl
            simp at hc
          simp only [Function.update_of_ne hrr] at hc
          exact (h.concat hstart hwrote hread).reader r' c' hc
        split
        · exact hinv _ rfl rfl (by simp)
        · exact hinv _ rfl rfl (by simp)

/-- **One step of any party keeps the invariant.** -/
theorem Inv.step (h : Inv half L init os b) (a : Access A ι ρ) :
    Inv half L init (os ++ [(step half L b a).2]) (step half L b a).1 := by
  cases a with
  | writeBegin src => exact h.writeBegin src
  | writeWord i => exact h.writeWord i
  | writeEnd => exact h.writeEnd
  | readBegin r dst => exact h.readBegin r dst
  | readWord r i => exact h.readWord r i
  | readEnd r => exact h.readEnd r
  | elsewhere => exact h.concat rfl rfl (by simp [Seqlock.step])

/-! ## Whole runs -/

/-- What a run makes known. -/
def events (half : ℕ) (L : Layout A ι α) (b : Block A ι ρ) (as : List (Access A ι ρ)) :
    List (Event A ρ) :=
  (trace (Seqlock.step half L) b as).map Entry.out

/-- A successful return is the step of an attempt that copied every word and found its counter. -/
theorem readOk_cases {a : Access A ι ρ} {r : ρ} {dst : A}
    (h : (Seqlock.step half L b a).2 = .readOk r dst) :
    ∃ c, b.reader r = some c ∧ c.left = ∅ ∧ b.seq = c.s1 ∧ c.dst = dst := by
  unfold Seqlock.step at h
  split at h
  case h_6 r' =>
    split at h
    · cases h
    · rename_i c hr
      split at h
      · rename_i hleft
        dsimp only at h
        split at h
        · rename_i hseq
          injection h with hr' hdst
          subst hr'
          exact ⟨c, hr, hleft, hseq, hdst⟩
        · cases h
      · cases h
  all_goals
    repeat' split at h
    all_goals cases h

theorem events_take (b : Block A ι ρ) (as : List (Access A ι ρ)) (n : ℕ) :
    (events half L b as).take n = ((trace (Seqlock.step half L) b as).take n).map Entry.out := by
  rw [events, List.map_take]

/-- The invariant at every position of every run. -/
theorem inv_before {as : List (Access A ι ρ)} {n : ℕ}
    {e : Entry (Block A ι ρ) (Access A ι ρ) (Event A ρ)}
    (he : (trace (Seqlock.step half L) (Block.fresh A ι ρ init) as)[n]? = some e) :
    Inv half L init ((events half L (Block.fresh A ι ρ init) as).take n) e.before := by
  rw [events_take]
  refine trace_history_before (P := fun tr t => Inv half L init (tr.map Entry.out) t)
    (Inv.fresh half L init) ?_ he
  intro tr t a hinv
  rw [List.map_append]
  exact hinv.step a

/-- A successful read returns the latest write completed when it returns. -/
theorem read_eq_latest {as : List (Access A ι ρ)} {n : ℕ} {r : ρ} {dst : A}
    (hn : (events half L (Block.fresh A ι ρ init) as)[n]? = some (.readOk r dst))
    (hfew : FewWrites half (events half L (Block.fresh A ι ρ init) as) r n) :
    dst = latest init ((events half L (Block.fresh A ι ρ init) as).take n) := by
  set os := events half L (Block.fresh A ι ρ init) as with hos
  have hlen : n < os.length := (List.getElem?_eq_some_iff.mp hn).1
  rw [hos, events, List.getElem?_map, Option.map_eq_some_iff] at hn
  obtain ⟨e, he, hout⟩ := hn
  rw [out_eq _ he] at hout
  obtain ⟨c, hc, hleft, hseq, rfl⟩ := readOk_cases hout
  refine (inv_before he).dst_eq_latest hc hleft hseq fun m hm => ?_
  rw [← hos] at hm ⊢
  refine hfew m ?_
  -- an attempt under way at the end of the record's front is one under way at `n`
  obtain ⟨hlt, hstart, hnot⟩ := hm
  have htake : ∀ k, k < n → (os.take n)[k]? = os[k]? := fun k hk => List.getElem?_take_of_lt hk
  rw [List.length_take, Nat.min_eq_left hlen.le] at hlt hnot
  refine ⟨hlt, by rw [← htake m hlt, hstart], fun k hmk hk => ?_⟩
  rw [← htake k hk]
  exact hnot k hmk hk

/-- **The seqlock law.** In every run of a block, however the steps of its writer and its readers
interleave, reads are in order. -/
theorem readsInOrder (as : List (Access A ι ρ)) :
    ReadsInOrder half init (events half L (Block.fresh A ι ρ init) as) := by
  set os := events half L (Block.fresh A ι ρ init) as with hos
  refine ⟨fun n => (completed (os.take n)).length, ?_, ?_⟩
  · intro m n hmn
    exact completed_take_length_le os hmn
  · intro r n dst hn hfew
    rw [getElem?_completed_length, read_eq_latest hn hfew]

end Invariant

end SparqControl.Lib.Seqlock
