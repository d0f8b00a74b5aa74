/-
# SparqControl.Lib.Trace — finite runs of a deterministic labelled machine.

A machine is a step function `step : σ → ι → σ × ο`: a state, an input, the next state and what the
step emitted. A run is RECORDED, one `Entry` per step, so that a property can speak about two steps
of the same run ("since", "until", "the latest step that …") by their positions.

Ten rules carry every temporal statement built on it:

* `trace_invariant` — what one step preserves, every entry of every run has;
* `trace_forall_iff` — what is equivalent at every entry an invariant covers is equivalent on runs;
* `trace_latch` — what one step preserves WHILE a side condition holds stays true between two
  positions of a run as long as no entry in between breaks the side condition;
* `trace_latest_change` — a reading that is not what it was at the start changed at some latest
  position and has kept its value since;
* `trace_stamp` — a value that is renewed exactly when a reading changes is the stamp of the latest
  change;
* `trace_history` — an invariant that relates the state to the whole recorded past is proved by one
  extension step;
* `final_latest` — a cell every input may overwrite holds the last value an input carried;
* `final_purge` — a view that some inputs do not move can be computed without them;
* `final_takeWhile` — a view that does not move any more after an input of some kind is decided by the
  inputs before the first such one;
* `trace_monotone` — a measure of past and state that no step lowers does not fall along a run.

Nothing here names a particular program.
-/
import Mathlib.Data.List.Basic
import Mathlib.Data.List.Induction

namespace SparqControl.Lib.Trace

variable {σ ι ο : Type*}

/-- One recorded step: the state it started in, the input it read, what it emitted, the state it
left behind. -/
structure Entry (σ ι ο : Type*) where
  before : σ
  input : ι
  out : ο
  after : σ

/-- The record of `step` run once from `s` on `i`. -/
def entry (step : σ → ι → σ × ο) (s : σ) (i : ι) : Entry σ ι ο where
  before := s
  input := i
  out := (step s i).2
  after := (step s i).1

/-- The state after a whole input word. -/
def final (step : σ → ι → σ × ο) (s : σ) (is : List ι) : σ :=
  is.foldl (fun t i => (step t i).1) s

/-- The recorded run of `step` from `s` over an input word. -/
def trace (step : σ → ι → σ × ο) : σ → List ι → List (Entry σ ι ο)
  | _, [] => []
  | s, i :: is => entry step s i :: trace step (step s i).1 is

section Shape

variable (step : σ → ι → σ × ο)

@[simp] theorem entry_before (s : σ) (i : ι) : (entry step s i).before = s := rfl
@[simp] theorem entry_input (s : σ) (i : ι) : (entry step s i).input = i := rfl
@[simp] theorem entry_out (s : σ) (i : ι) : (entry step s i).out = (step s i).2 := rfl
@[simp] theorem entry_after (s : σ) (i : ι) : (entry step s i).after = (step s i).1 := rfl

@[simp] theorem final_nil (s : σ) : final step s [] = s := rfl

theorem final_concat (s : σ) (is : List ι) (i : ι) :
    final step s (is ++ [i]) = (step (final step s is) i).1 := by
  simp [final]

theorem final_append (s : σ) (is js : List ι) :
    final step s (is ++ js) = final step (final step s is) js := by
  simp [final]

theorem trace_append (s : σ) (is js : List ι) :
    trace step s (is ++ js) = trace step s is ++ trace step (final step s is) js := by
  induction is generalizing s with
  | nil => rfl
  | cons i is ih =>
      simp only [List.cons_append, trace, ih]
      rfl

theorem trace_concat (s : σ) (is : List ι) (i : ι) :
    trace step s (is ++ [i]) = trace step s is ++ [entry step (final step s is) i] :=
  trace_append step s is [i]

/-- The `n`-th entry of a run is the step taken from the state the first `n` inputs lead to. -/
theorem getElem?_trace (s : σ) (is : List ι) (n : ℕ) :
    (trace step s is)[n]? = is[n]?.map (entry step (final step s (is.take n))) := by
  induction is generalizing s n with
  | nil => simp [trace]
  | cons j js ih =>
      cases n with
      | zero => simp [trace]
      | succ n =>
          simp only [trace, List.getElem?_cons_succ, ih, List.take_succ_cons]
          rfl

/-- The run of a shorter input word is the front of the run. -/
theorem trace_take (s : σ) (is : List ι) (n : ℕ) :
    trace step s (is.take n) = (trace step s is).take n := by
  induction is generalizing s n with
  | nil => simp [trace]
  | cons j js ih =>
      cases n with
      | zero => rfl
      | succ n => simp only [List.take_succ_cons, trace, ih]

/-- An entry starts from the state the inputs before it lead to. -/
theorem before_eq_final {s : σ} {is : List ι} {n : ℕ} {e : Entry σ ι ο}
    (he : (trace step s is)[n]? = some e) : e.before = final step s (is.take n) := by
  rw [getElem?_trace, Option.map_eq_some_iff] at he
  obtain ⟨i, -, rfl⟩ := he
  rfl

/-- An entry leaves the state the inputs up to its own lead to. -/
theorem final_take_succ {s : σ} {is : List ι} {n : ℕ} {e : Entry σ ι ο}
    (he : (trace step s is)[n]? = some e) : final step s (is.take (n + 1)) = e.after := by
  rw [getElem?_trace, Option.map_eq_some_iff] at he
  obtain ⟨i, hi, rfl⟩ := he
  rw [List.take_add_one, hi, Option.toList_some, final_concat, entry_after]

/-- Consecutive entries share a state: what one step leaves is what the next one starts from. -/
theorem before_succ_eq_after {s : σ} {is : List ι} {n : ℕ} {e e' : Entry σ ι ο}
    (he : (trace step s is)[n]? = some e) (he' : (trace step s is)[n + 1]? = some e') :
    e'.before = e.after := by
  rw [before_eq_final step he', final_take_succ step he]

/-- Every entry of a run is a genuine step of the machine. -/
theorem eq_entry_of_mem {s : σ} {is : List ι} {e : Entry σ ι ο} (he : e ∈ trace step s is) :
    e = entry step e.before e.input := by
  obtain ⟨n, hn⟩ := List.mem_iff_getElem?.mp he
  rw [getElem?_trace, Option.map_eq_some_iff] at hn
  obtain ⟨i, -, rfl⟩ := hn
  rfl

/-- The entry at a position read the input at that position. -/
theorem input_at {s : σ} {is : List ι} {n : ℕ} {e : Entry σ ι ο}
    (he : (trace step s is)[n]? = some e) : is[n]? = some e.input := by
  rw [getElem?_trace, Option.map_eq_some_iff] at he
  obtain ⟨i, hi, rfl⟩ := he
  exact hi

/-- Every input has its entry. -/
theorem entry_at (s : σ) {is : List ι} {n : ℕ} {i : ι} (hi : is[n]? = some i) :
    ∃ e, (trace step s is)[n]? = some e ∧ e.input = i := by
  refine ⟨entry step (final step s (is.take n)) i, ?_, rfl⟩
  rw [getElem?_trace, hi]
  rfl

theorem input_mem_of_mem {s : σ} {is : List ι} {e : Entry σ ι ο} (he : e ∈ trace step s is) :
    e.input ∈ is := by
  obtain ⟨n, hn⟩ := List.mem_iff_getElem?.mp he
  exact List.mem_of_getElem? (input_at step hn)

/-- What the entry at a position leaves is what the step from its state leaves. -/
theorem after_eq {s : σ} {is : List ι} {n : ℕ} {e : Entry σ ι ο}
    (he : (trace step s is)[n]? = some e) : e.after = (step e.before e.input).1 :=
  congrArg Entry.after (eq_entry_of_mem step (List.mem_of_getElem? he))

theorem out_eq {s : σ} {is : List ι} {n : ℕ} {e : Entry σ ι ο}
    (he : (trace step s is)[n]? = some e) : e.out = (step e.before e.input).2 :=
  congrArg Entry.out (eq_entry_of_mem step (List.mem_of_getElem? he))

/-- The last entry of a run that ends right after position `n`. -/
theorem trace_take_succ {s : σ} {is : List ι} {n : ℕ} {e : Entry σ ι ο}
    (he : (trace step s is)[n]? = some e) :
    (trace step s is).take (n + 1) = (trace step s is).take n ++ [e] := by
  rw [List.take_add_one, he]
  rfl

/-- **Projection.** A machine that simulates another one step for step emits what the other emits,
read through the simulation. -/
theorem map_out_trace {σ' ι' ο' : Type*} {step' : σ' → ι' → σ' × ο'} (f : σ → σ') (g : ι → ι')
    (h : ο → ο') (hcomm : ∀ s i, step' (f s) (g i) = (f (step s i).1, h (step s i).2))
    (s : σ) (is : List ι) :
    (trace step s is).map (fun e => h e.out) =
      (trace step' (f s) (is.map g)).map Entry.out := by
  induction is generalizing s with
  | nil => rfl
  | cons i is ih => simp only [trace, List.map_cons, ih, hcomm, entry_out]

/-- What a longer record emits: what the shorter one did, then what the last entry does. -/
theorem filterMap_concat {β : Type*} (f : Entry σ ι ο → Option β) (tr : List (Entry σ ι ο))
    (e : Entry σ ι ο) : (tr ++ [e]).filterMap f = tr.filterMap f ++ (f e).toList := by
  rw [List.filterMap_append]
  cases h : f e <;> simp [h]

end Shape

/-! ## The rules -/

section Rules

variable {step : σ → ι → σ × ο}

/-- **Invariant rule.** A predicate every step preserves that satisfies the side condition `C` holds
around every entry of every run whose entries satisfy it. -/
theorem trace_invariant_of {P : σ → Prop} {C : Entry σ ι ο → Prop}
    (hstep : ∀ s i, P s → C (entry step s i) → P (step s i).1) {s : σ} (h0 : P s)
    (is : List ι) (hC : ∀ e ∈ trace step s is, C e) :
    ∀ e ∈ trace step s is, P e.before ∧ P e.after := by
  induction is generalizing s with
  | nil => intro e he; simp [trace] at he
  | cons j js ih =>
      have hnext : P (step s j).1 := hstep s j h0 (hC _ List.mem_cons_self)
      intro e he
      rcases List.mem_cons.mp he with rfl | he
      · exact ⟨h0, hnext⟩
      · exact ih hnext (fun e' he' => hC e' (List.mem_cons_of_mem _ he')) e he

/-- The invariant rule with no side condition. -/
theorem trace_invariant {P : σ → Prop} (hstep : ∀ s i, P s → P (step s i).1)
    {s : σ} (h0 : P s) (is : List ι) :
    ∀ e ∈ trace step s is, P e.before ∧ P e.after :=
  trace_invariant_of (C := fun _ => True) (fun s i h _ => hstep s i h) h0 is fun _ _ => trivial

/-- **Exactness rule.** Two properties of an entry that agree wherever `P` holds, the second of which
keeps `P` going, agree on whole runs. -/
theorem trace_forall_iff {P : σ → Prop} {A C : Entry σ ι ο → Prop}
    (hiff : ∀ s i, P s → (A (entry step s i) ↔ C (entry step s i)))
    (hstep : ∀ s i, P s → C (entry step s i) → P (step s i).1) {s : σ} (h0 : P s) (is : List ι) :
    (∀ e ∈ trace step s is, A e) ↔ ∀ e ∈ trace step s is, C e := by
  have hlocal : ∀ e ∈ trace step s is, P e.before → (A e ↔ C e) := by
    intro e he hbefore
    rw [eq_entry_of_mem step he]
    exact hiff _ _ hbefore
  constructor
  · intro hA e he
    have hinv := trace_invariant_of (fun s i h hAi => hstep s i h ((hiff s i h).mp hAi)) h0 is hA
    exact (hlocal e he (hinv e he).1).mp (hA e he)
  · intro hC e he
    have hinv := trace_invariant_of hstep h0 is hC
    exact (hlocal e he (hinv e he).1).mpr (hC e he)

/-- **Latch rule.** `Q` is established at position `m` and every step that satisfies `C`
preserves it; then it still holds after position `n`, provided every entry in `(m, n]` satisfies
`C`. -/
theorem trace_latch {Q : σ → Prop} {C : Entry σ ι ο → Prop}
    (hstep : ∀ s i, Q s → C (entry step s i) → Q (step s i).1)
    {s : σ} {is : List ι} {m : ℕ} {em : Entry σ ι ο}
    (hm : (trace step s is)[m]? = some em) (hQ : Q em.after) :
    ∀ {n : ℕ} {en : Entry σ ι ο}, m ≤ n → (trace step s is)[n]? = some en →
      (∀ k ek, m < k → k ≤ n → (trace step s is)[k]? = some ek → C ek) → Q en.after := by
  intro n
  induction n with
  | zero =>
      intro en hmn hn _
      obtain rfl : m = 0 := by omega
      obtain rfl : em = en := Option.some.inj (hm.symm.trans hn)
      exact hQ
  | succ n ih =>
      intro en hmn hn hC
      rcases Nat.lt_or_eq_of_le hmn with hlt | rfl
      · -- the entry before `n + 1` exists and already carries `Q`
        have hlen : n + 1 < (trace step s is).length := (List.getElem?_eq_some_iff.mp hn).1
        have hprev : (trace step s is)[n]? = some (trace step s is)[n] :=
          List.getElem?_eq_getElem (by omega)
        have hQn := ih (by omega) hprev fun k ek hk hkn => hC k ek hk (by omega)
        have hmem : en ∈ trace step s is := List.mem_of_getElem? hn
        have hk : C (entry step en.before en.input) := by
          rw [← eq_entry_of_mem step hmem]
          exact hC (n + 1) en hlt (Nat.le_refl _) hn
        rw [eq_entry_of_mem step hmem, entry_after]
        refine hstep _ _ ?_ hk
        rw [before_succ_eq_after step hprev hn]
        exact hQn
      · obtain rfl : em = en := Option.some.inj (hm.symm.trans hn)
        exact hQ

/-- The entry before position `n + 1` of a run. -/
theorem exists_previous {s : σ} {is : List ι} {n : ℕ} {e : Entry σ ι ο}
    (he : (trace step s is)[n + 1]? = some e) :
    ∃ e', (trace step s is)[n]? = some e' ∧ e.before = e'.after := by
  have hlen : n + 1 < (trace step s is).length := (List.getElem?_eq_some_iff.mp he).1
  have hprev : (trace step s is)[n]? = some (trace step s is)[n] :=
    List.getElem?_eq_getElem (by omega)
  exact ⟨_, hprev, before_succ_eq_after step hprev he⟩

/-- The latch rule read before an entry: what position `m` established still holds when the entry at
a later `n` starts, provided every entry strictly between satisfies `C`. -/
theorem trace_latch_before {Q : σ → Prop} {C : Entry σ ι ο → Prop}
    (hstep : ∀ s i, Q s → C (entry step s i) → Q (step s i).1)
    {s : σ} {is : List ι} {m n : ℕ} {em en : Entry σ ι ο}
    (hm : (trace step s is)[m]? = some em) (hQ : Q em.after) (hmn : m < n)
    (hn : (trace step s is)[n]? = some en)
    (hC : ∀ k ek, m < k → k < n → (trace step s is)[k]? = some ek → C ek) : Q en.before := by
  obtain ⟨l, rfl⟩ : ∃ l, n = l + 1 := ⟨n - 1, by omega⟩
  obtain ⟨el, hel, hbefore⟩ := exists_previous hn
  rw [hbefore]
  exact trace_latch hstep hm hQ (by omega) hel fun k ek hmk hkl => hC k ek hmk (by omega)

theorem before_zero {s : σ} {is : List ι} {e : Entry σ ι ο}
    (he : (trace step s is)[0]? = some e) : e.before = s := by
  rw [getElem?_trace, Option.map_eq_some_iff] at he
  obtain ⟨i, -, rfl⟩ := he
  rfl

/-- A reading no entry in `(m, n]` changes has at `n` the value it had at `m`. -/
theorem trace_unchanged {α : Type*} {f : σ → α} {s : σ} {is : List ι} {m n : ℕ}
    {em en : Entry σ ι ο} (hm : (trace step s is)[m]? = some em) (hmn : m ≤ n)
    (hn : (trace step s is)[n]? = some en)
    (hsame : ∀ k ek, m < k → k ≤ n → (trace step s is)[k]? = some ek →
      f ek.before = f ek.after) : f en.after = f em.after := by
  refine trace_latch (Q := fun t => f t = f em.after) ?_ hm rfl hmn hn hsame
  intro t i ht hkeep
  exact hkeep.symm.trans ht

/-- A reading no entry up to `n` changes has at `n` its starting value. -/
theorem trace_unchanged_start {α : Type*} {f : σ → α} {s : σ} {is : List ι} {n : ℕ}
    {en : Entry σ ι ο} (hn : (trace step s is)[n]? = some en)
    (hsame : ∀ k ek, k ≤ n → (trace step s is)[k]? = some ek → f ek.before = f ek.after) :
    f en.after = f s := by
  have hlen : n < (trace step s is).length := (List.getElem?_eq_some_iff.mp hn).1
  have h0 : (trace step s is)[0]? = some (trace step s is)[0] :=
    List.getElem?_eq_getElem (by omega)
  rw [trace_unchanged h0 (Nat.zero_le n) hn fun k ek _ hk => hsame k ek hk,
    ← hsame 0 _ (Nat.zero_le n) h0, before_zero h0]

/-! ## Cells that keep the latest value -/

/-- The last value a list of inputs carries. -/
def latest {α : Type*} (value : ι → Option α) (is : List ι) : Option α :=
  (is.filterMap value).getLast?

@[simp] theorem latest_nil {α : Type*} (value : ι → Option α) : latest value [] = none := rfl

theorem latest_concat {α : Type*} (value : ι → Option α) (is : List ι) (i : ι) :
    latest value (is ++ [i]) = (value i <|> latest value is) := by
  unfold latest
  rw [List.filterMap_append]
  cases h : value i with
  | none => simp [h]
  | some v => simp [h]

theorem latest_eq_none_iff {α : Type*} {value : ι → Option α} {is : List ι} :
    latest value is = none ↔ ∀ i ∈ is, value i = none := by
  unfold latest
  rw [List.getLast?_eq_none_iff, List.filterMap_eq_nil_iff]

/-- A carried value comes from one of the inputs. -/
theorem mem_of_latest {α : Type*} {value : ι → Option α} {is : List ι} {v : α}
    (h : latest value is = some v) : ∃ i ∈ is, value i = some v :=
  List.mem_filterMap.mp (List.mem_of_getLast? h)

/-- A function of the latest value is the latest value of the function. -/
theorem latest_map {α β : Type*} (g : α → β) (value : ι → Option α) (is : List ι) :
    latest (fun i => (value i).map g) is = (latest value is).map g := by
  induction is using List.reverseRecOn with
  | nil => rfl
  | append_singleton is i ih =>
      rw [latest_concat, latest_concat, ih]
      cases value i <;> rfl

/-- `own` keeps some of the values of `value` and drops the others. The latest kept value is the latest
of all after every prefix exactly when each dropped value only repeats the latest kept one. -/
theorem latest_eq_latest_iff {α : Type*} {value own : ι → Option α}
    (hown : ∀ i, own i = value i ∨ own i = none) (is : List ι) :
    (∀ n, latest value (is.take n) = latest own (is.take n)) ↔
      ∀ n i v, is[n]? = some i → own i = none → value i = some v →
        latest own (is.take n) = some v := by
  have htake : ∀ {n i}, is[n]? = some i → is.take (n + 1) = is.take n ++ [i] := by
    intro n i hi
    rw [List.take_add_one, hi]
    rfl
  constructor
  · intro h n i v hi hnone hv
    have hnext := h (n + 1)
    rw [htake hi, latest_concat, latest_concat, hv, hnone] at hnext
    exact hnext.symm
  · intro h n
    induction n with
    | zero => rfl
    | succ n ih =>
        cases hi : is[n]? with
        | none =>
            rw [List.take_of_length_le (Nat.le_succ_of_le (List.getElem?_eq_none_iff.mp hi))]
            rwa [List.take_of_length_le (List.getElem?_eq_none_iff.mp hi)] at ih
        | some i =>
            rw [htake hi, latest_concat, latest_concat, ih]
            rcases hown i with heq | hnone
            · rw [heq]
            · cases hv : value i with
              | none => rw [hnone]
              | some v => rw [hnone, h n i v hi hnone hv]; rfl

/-- What every step on an input of some kind preserves, the end of every run on such inputs has. -/
theorem final_invariant_of {P : σ → Prop} {C : ι → Prop}
    (hstep : ∀ s i, P s → C i → P (step s i).1) {s : σ} (h0 : P s) (is : List ι)
    (hC : ∀ i ∈ is, C i) : P (final step s is) := by
  induction is using List.reverseRecOn with
  | nil => exact h0
  | append_singleton is i ih =>
      rw [final_concat]
      refine hstep _ i (ih fun i' hi' => hC i' ?_) (hC i ?_)
      · exact List.mem_append_left _ hi'
      · exact List.mem_append_right _ List.mem_cons_self

/-- What every step preserves, the end of every run has. -/
theorem final_invariant {P : σ → Prop} (hstep : ∀ s i, P s → P (step s i).1) {s : σ} (h0 : P s)
    (is : List ι) : P (final step s is) :=
  final_invariant_of (C := fun _ => True) (fun s i h _ => hstep s i h) h0 is fun _ _ => trivial

/-- **The latest value wins.** A reading that every step replaces by the value its input carries, if
it carries one, is at the end the last value carried. The steps may rely on an invariant and on the
kind of the inputs. -/
theorem final_latest {α : Type*} {P : σ → Prop} {C : ι → Prop}
    (hP : ∀ s i, P s → C i → P (step s i).1) {f : σ → α} {value : ι → Option α}
    (hstep : ∀ s i, P s → C i → f (step s i).1 = (value i).getD (f s)) {s : σ} (h0 : P s)
    (is : List ι) (hC : ∀ i ∈ is, C i) :
    f (final step s is) = (latest value is).getD (f s) := by
  induction is using List.reverseRecOn with
  | nil => rfl
  | append_singleton is i ih =>
      have hinit : ∀ i' ∈ is, C i' := fun i' hi' => hC i' (List.mem_append_left _ hi')
      have hlast : C i := hC i (List.mem_append_right _ List.mem_cons_self)
      rw [final_concat, hstep _ i (final_invariant_of hP h0 is hinit) hlast, ih hinit, latest_concat]
      cases value i <;> rfl

/-- The same for a cell that is empty until an input carries a value. -/
theorem final_latest_or {α : Type*} {f : σ → Option α} {value : ι → Option α}
    (hstep : ∀ s i, f (step s i).1 = (value i <|> f s)) (s : σ) (is : List ι) :
    f (final step s is) = (latest value is <|> f s) := by
  induction is using List.reverseRecOn with
  | nil => rfl
  | append_singleton is i ih =>
      rw [final_concat, hstep, ih, latest_concat]
      cases value i <;> rfl

/-- **Counting.** A counter every step raises by one exactly on the inputs of some kind counts them. -/
theorem final_count {f : σ → ℕ} {p : ι → Bool}
    (hstep : ∀ s i, f (step s i).1 = f s + if p i then 1 else 0) (s : σ) (is : List ι) :
    f (final step s is) = f s + is.countP p := by
  induction is using List.reverseRecOn with
  | nil => rfl
  | append_singleton is i ih =>
      rw [final_concat, hstep, ih, List.countP_append, List.countP_singleton, Nat.add_assoc]

/-- **Purge rule.** A view of the state that the kept inputs move in a way that depends on the view alone,
and that the dropped inputs do not move at all, is the same after a run and after its kept inputs. -/
theorem final_purge {α : Type*} {view : σ → α} {keep : ι → Bool} {C : ι → Prop}
    (hkeep : ∀ s s' i, keep i = true → view s = view s' → view (step s i).1 = view (step s' i).1)
    (hdrop : ∀ s i, keep i = false → C i → view (step s i).1 = view s)
    (s : σ) (is : List ι) (hC : ∀ i ∈ is, C i) :
    view (final step s is) = view (final step s (is.filter keep)) := by
  induction is using List.reverseRecOn with
  | nil => rfl
  | append_singleton is i ih =>
      have hinit := ih fun i' hi' => hC i' (List.mem_append_left _ hi')
      rw [List.filter_append, final_concat]
      cases hi : keep i with
      | true =>
          rw [List.filter_cons_of_pos hi, List.filter_nil, final_concat]
          exact hkeep _ _ i hi hinit
      | false =>
          rw [List.filter_cons_of_neg (by simp [hi]), List.filter_nil, List.append_nil,
            hdrop _ i hi (hC i (List.mem_append_right _ List.mem_cons_self)), hinit]

/-- **Ending rule.** Once an input of the ending kind has come, a view of the state stays as it is. Then it
is decided by the inputs before the first such one. -/
theorem final_takeWhile {α : Type*} {view : σ → α} {ended : σ → Prop} {ends : ι → Bool}
    (hend : ∀ s i, ends i = true → view (step s i).1 = view s ∧ ended (step s i).1)
    (hended : ∀ s i, ended s → view (step s i).1 = view s ∧ ended (step s i).1)
    (s : σ) (is : List ι) :
    view (final step s is) = view (final step s (is.takeWhile fun i => !ends i)) := by
  induction is generalizing s with
  | nil => rfl
  | cons i is ih =>
      cases hi : ends i with
      | false =>
          rw [List.takeWhile_cons_of_pos (by simp [hi])]
          exact ih (step s i).1
      | true =>
          rw [List.takeWhile_cons_of_neg (by simp [hi])]
          obtain ⟨hview, hdown⟩ := hend s i hi
          have hstill : view (final step (step s i).1 is) = view (step s i).1 ∧
              ended (final step (step s i).1 is) :=
            final_invariant (P := fun t => view t = view (step s i).1 ∧ ended t)
              (fun t j ht => ⟨(hended t j ht.2).1.trans ht.1, (hended t j ht.2).2⟩) ⟨rfl, hdown⟩ is
          exact hstill.1.trans hview

/-- Up to position `n`, either some entry is the latest with a property or none has it. -/
theorem trace_latest (C : Entry σ ι ο → Prop) {s : σ} {is : List ι} :
    ∀ {n : ℕ} {e : Entry σ ι ο}, (trace step s is)[n]? = some e →
      (∃ m em, m ≤ n ∧ (trace step s is)[m]? = some em ∧ C em ∧
        ∀ k ek, m < k → k ≤ n → (trace step s is)[k]? = some ek → ¬ C ek) ∨
      ∀ k ek, k ≤ n → (trace step s is)[k]? = some ek → ¬ C ek := by
  intro n
  induction n with
  | zero =>
      intro e he
      by_cases hC : C e
      · exact Or.inl ⟨0, e, Nat.le_refl _, he, hC, fun k ek hk hk0 => by omega⟩
      · refine Or.inr fun k ek hk hek => ?_
        obtain rfl : k = 0 := by omega
        rwa [Option.some.inj (hek.symm.trans he)]
  | succ n ih =>
      intro e he
      by_cases hC : C e
      · exact Or.inl ⟨n + 1, e, Nat.le_refl _, he, hC, fun k ek hk hk' => by omega⟩
      · -- the last entry does not have it, so the answer is that of the run up to `n`
        have hlast : ∀ k ek, k = n + 1 → (trace step s is)[k]? = some ek → ¬ C ek := by
          rintro k ek rfl hek
          rwa [Option.some.inj (hek.symm.trans he)]
        obtain ⟨e', he', -⟩ := exists_previous he
        rcases ih he' with ⟨m, em, hm, hem, hCm, hnot⟩ | hnot
        · refine Or.inl ⟨m, em, by omega, hem, hCm, fun k ek hk hk' hek => ?_⟩
          rcases Nat.lt_or_eq_of_le hk' with hlt | heq
          · exact hnot k ek hk (by omega) hek
          · exact hlast k ek heq hek
        · refine Or.inr fun k ek hk hek => ?_
          rcases Nat.lt_or_eq_of_le hk with hlt | heq
          · exact hnot k ek (by omega) hek
          · exact hlast k ek heq hek

/-- **Latest change.** A reading of the state that differs from its starting value at position `n`
changed last at some position `m ≤ n`, and has kept its value since. -/
theorem trace_latest_change {α : Type*} {f : σ → α} {s : σ} {is : List ι} {n : ℕ}
    {e : Entry σ ι ο} (he : (trace step s is)[n]? = some e) (hne : f e.after ≠ f s) :
    ∃ m em, m ≤ n ∧ (trace step s is)[m]? = some em ∧ f em.before ≠ f em.after ∧
      ∀ k ek, m ≤ k → k ≤ n → (trace step s is)[k]? = some ek → f ek.after = f e.after := by
  rcases trace_latest (fun e' => f e'.before ≠ f e'.after) he with
    ⟨m, em, hm, hem, hchange, hnot⟩ | hnot
  · refine ⟨m, em, hm, hem, hchange, fun k ek hmk hk hek => ?_⟩
    exact (trace_unchanged hek hk he fun l el hl hl' hel =>
      not_not.mp (hnot l el (by omega) hl' hel)).symm
  · exact absurd (trace_unchanged_start he fun k ek hk hek => not_not.mp (hnot k ek hk hek)) hne

/-- **Stamp.** `t` is the stamp of the reading `f`: it moves exactly when `f` does, to the stamp of
the input that moved it. Then at every position `t` is the stamp of the latest input that changed
`f`, or its starting value when none did. -/
theorem trace_stamp {α τ : Type*} {f : σ → α} {t : σ → τ} {stamp : ι → Option τ}
    (hsame : ∀ s i, f s = f (step s i).1 → t s = t (step s i).1)
    (hchange : ∀ s i, f s ≠ f (step s i).1 → stamp i = some (t (step s i).1))
    {s : σ} {is : List ι} {n : ℕ} {e : Entry σ ι ο} (he : (trace step s is)[n]? = some e) :
    (∃ m em, m ≤ n ∧ (trace step s is)[m]? = some em ∧ f em.before ≠ f em.after ∧
      (∀ k ek, m < k → k ≤ n → (trace step s is)[k]? = some ek → f ek.before = f ek.after) ∧
      stamp em.input = some (t e.after)) ∨
    ((∀ k ek, k ≤ n → (trace step s is)[k]? = some ek → f ek.before = f ek.after) ∧
      t e.after = t s) := by
  have hentry : ∀ k ek, (trace step s is)[k]? = some ek → ek = entry step ek.before ek.input :=
    fun k ek hek => eq_entry_of_mem step (List.mem_of_getElem? hek)
  have hstill : ∀ (k : ℕ) (ek : Entry σ ι ο), (trace step s is)[k]? = some ek →
      f ek.before = f ek.after → t ek.before = t ek.after := by
    intro k ek hek hf
    rw [hentry k ek hek] at hf ⊢
    exact hsame _ _ hf
  rcases trace_latest (fun e' => f e'.before ≠ f e'.after) he with
    ⟨m, em, hm, hem, hmoved, hnot⟩ | hnot
  · refine Or.inl ⟨m, em, hm, hem, hmoved, fun k ek hmk hk hek => not_not.mp (hnot k ek hmk hk hek),
      ?_⟩
    rw [trace_unchanged (f := t) hem hm he fun k ek hmk hk hek =>
      hstill k ek hek (not_not.mp (hnot k ek hmk hk hek))]
    rw [hentry m em hem] at hmoved ⊢
    exact hchange _ _ hmoved
  · refine Or.inr ⟨fun k ek hk hek => not_not.mp (hnot k ek hk hek), ?_⟩
    exact trace_unchanged_start he fun k ek hk hek => hstill k ek hek (not_not.mp (hnot k ek hk hek))

/-- **History rule.** A relation between the recorded past and the current state that one more step
extends holds of every run whose entries all satisfy the side condition `C`. -/
theorem trace_history {P : List (Entry σ ι ο) → σ → Prop} {C : Entry σ ι ο → Prop} {s : σ}
    (h0 : P [] s)
    (hstep : ∀ tr t i, P tr t → C (entry step t i) → P (tr ++ [entry step t i]) (step t i).1)
    (is : List ι) (hC : ∀ e ∈ trace step s is, C e) : P (trace step s is) (final step s is) := by
  -- from the end, so that the past of the last step is the whole shorter run
  induction is using List.reverseRecOn with
  | nil => exact h0
  | append_singleton js j ih =>
      rw [trace_concat] at hC ⊢
      rw [final_concat]
      refine hstep _ _ _ (ih fun e he => hC e ?_) (hC _ ?_)
      · exact List.mem_append_left _ he
      · exact List.mem_append_right _ (List.mem_singleton_self _)

/-- The history rule with no side condition. -/
theorem trace_history_all (step : σ → ι → σ × ο) {P : List (Entry σ ι ο) → σ → Prop} {s : σ}
    (h0 : P [] s) (hstep : ∀ tr t i, P tr t → P (tr ++ [entry step t i]) (step t i).1)
    (is : List ι) : P (trace step s is) (final step s is) :=
  trace_history (C := fun _ => True) h0 (fun tr t i h _ => hstep tr t i h) is fun _ _ => trivial

/-- The history rule read after the first `n` steps of a run. -/
theorem trace_history_take {P : List (Entry σ ι ο) → σ → Prop} {C : Entry σ ι ο → Prop} {s : σ}
    (h0 : P [] s)
    (hstep : ∀ tr t i, P tr t → C (entry step t i) → P (tr ++ [entry step t i]) (step t i).1)
    (is : List ι) (n : ℕ) (hC : ∀ e ∈ (trace step s is).take n, C e) :
    P ((trace step s is).take n) (final step s (is.take n)) := by
  rw [← trace_take] at hC ⊢
  exact trace_history h0 hstep (is.take n) hC

/-- The history rule read at one position of a run: the relation holds of the past up to and
including the entry at `n`, and the state that entry left. -/
theorem trace_history_at {P : List (Entry σ ι ο) → σ → Prop} {C : Entry σ ι ο → Prop} {s : σ}
    (h0 : P [] s)
    (hstep : ∀ tr t i, P tr t → C (entry step t i) → P (tr ++ [entry step t i]) (step t i).1)
    {is : List ι} {n : ℕ} {e : Entry σ ι ο} (he : (trace step s is)[n]? = some e)
    (hC : ∀ k ek, k ≤ n → (trace step s is)[k]? = some ek → C ek) :
    P ((trace step s is).take (n + 1)) e.after := by
  have hbefore := trace_history_take h0 hstep is n fun ek hek => by
    obtain ⟨k, hk⟩ := List.mem_iff_getElem?.mp hek
    rw [List.getElem?_take] at hk
    split at hk
    · exact hC k ek (by omega) hk
    · cases hk
  have hentry := eq_entry_of_mem step (List.mem_of_getElem? he)
  have hCn : C (entry step e.before e.input) := hentry ▸ hC n e (Nat.le_refl n) he
  rw [← before_eq_final step he] at hbefore
  rw [trace_take_succ step he, after_eq step he]
  nth_rewrite 1 [hentry]
  exact hstep _ _ _ hbefore hCn

/-- The unconditional history rule read before an entry: the relation holds of the past of the entry
at `n` and the state it starts from. -/
theorem trace_history_before {P : List (Entry σ ι ο) → σ → Prop} {s : σ} (h0 : P [] s)
    (hstep : ∀ tr t i, P tr t → P (tr ++ [entry step t i]) (step t i).1)
    {is : List ι} {n : ℕ} {e : Entry σ ι ο} (he : (trace step s is)[n]? = some e) :
    P ((trace step s is).take n) e.before := by
  rw [before_eq_final step he]
  exact trace_history_take (C := fun _ => True) h0 (fun tr t i hP _ => hstep tr t i hP) is n
    fun _ _ => trivial

/-- **Monotone rule.** A measure of the recorded past and the state that no step of a run lowers does
not fall between two positions of it. -/
theorem trace_monotone {m : List (Entry σ ι ο) → σ → ℕ} {s : σ} {is : List ι}
    (hstep : ∀ k ek, (trace step s is)[k]? = some ek →
      m ((trace step s is).take k) ek.before ≤ m ((trace step s is).take (k + 1)) ek.after)
    {a : ℕ} {ea : Entry σ ι ο} (ha : (trace step s is)[a]? = some ea) :
    ∀ {b : ℕ} {eb : Entry σ ι ο}, a ≤ b → (trace step s is)[b]? = some eb →
      m ((trace step s is).take a) ea.before ≤ m ((trace step s is).take b) eb.before := by
  intro b
  induction b with
  | zero =>
      intro eb hab hb
      obtain rfl : a = 0 := by omega
      obtain rfl : ea = eb := Option.some.inj (ha.symm.trans hb)
      exact Nat.le_refl _
  | succ b ih =>
      intro eb hab hb
      rcases Nat.lt_or_eq_of_le hab with hlt | rfl
      · obtain ⟨e', he', hbefore⟩ := exists_previous hb
        rw [hbefore]
        exact Nat.le_trans (ih (by omega) he') (hstep b e' he')
      · obtain rfl : ea = eb := Option.some.inj (ha.symm.trans hb)
        exact Nat.le_refl _

end Rules

end SparqControl.Lib.Trace
