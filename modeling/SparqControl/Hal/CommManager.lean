/-
# SparqControl.Hal.CommManager — the freshness monitor over any order of calls.

`BestEffortCommManager` keeps two flags, three counters and two times, and four calls move them in any
order. The stale flag is a CACHE: it says what the last update saw, and a reception clears it. Two facts
make the counters meaningful:

* a stale status does not become fresh by looking at it again later (`stale_stays`), because time
  only moves forward;
* so every fresh-to-stale transition uses up a reception: `timeout_count`, plus one while the status
  is fresh, never exceeds `rx_count` (`credit`).
-/
import Mathlib.Algebra.Order.Field.Basic
import SparqControl.Hal.ActuatorDriver
import SparqControl.Lib.Trace

namespace SparqControl.Hal

open SparqControl.Lib.Trace

/-- A call on the manager, with the time it reads. For `mark_rx` this is the reception time it is given,
or the clock when it is given none. -/
inductive CommCall (K : Type) where
  | markRx (rxTime : K)
  | markDecodeError (now : K)
  | updateFaultFlags (now : K)
  | isFresh (now : K)

namespace CommCall

variable {K : Type}

/-- The time of a call. -/
def time : CommCall K → K
  | markRx t | markDecodeError t | updateFaultFlags t | isFresh t => t

/-- The time of a reception. -/
def rxTime? : CommCall K → Option K
  | markRx t => some t
  | _ => none

/-- The time of an update; `is_fresh` updates, too. -/
def updateTime? : CommCall K → Option K
  | updateFaultFlags t | isFresh t => some t
  | _ => none

theorem time_of_rxTime? {c : CommCall K} {t : K} (h : c.rxTime? = some t) : c.time = t := by
  cases c with
  | markRx t' => exact Option.some.inj h
  | markDecodeError t' => cases h
  | updateFaultFlags t' => cases h
  | isFresh t' => cases h

end CommCall

namespace BestEffortCommManager

variable {K : Type} [Field K] [LinearOrder K]

/-- The status of a new manager. -/
def start : FreshnessStatus K := { lastRxT := 0, lastFaultT := 0 }

/-- One call and what it returns, if it returns something the caller reads. -/
def step (timeout : K) (s : FreshnessStatus K) : CommCall K → FreshnessStatus K × Option Bool
  | .markRx rxTime => (s.markRx rxTime, none)
  | .markDecodeError now => (s.markDecodeError now, none)
  | .updateFaultFlags now => (s.updateFaultFlags timeout now, none)
  | .isFresh now =>
      let status := s.updateFaultFlags timeout now
      (status, some (!status.isStale))

/-- One recorded call. -/
abbrev CallEntry (K : Type) : Type := Entry (FreshnessStatus K) (CommCall K) (Option Bool)

/-- An update that found the status fresh and left it stale. -/
def wentStale (e : CallEntry K) : Bool :=
  e.input.updateTime?.isSome && !e.before.isStale && e.after.isStale

variable (timeout : K)

/-! ## One call -/

/-- A stale verdict at a time: nothing was received, or the last reception is too old. -/
def StaleAt (s : FreshnessStatus K) (now : K) : Prop := s.lastRxT ≤ 0 ∨ timeout < now - s.lastRxT

@[simp] theorem updateFaultFlags_isStale (s : FreshnessStatus K) (now : K) :
    (s.updateFaultFlags timeout now).isStale = true ↔ StaleAt timeout s now := by
  have hflag : (s.updateFaultFlags timeout now).isStale =
      (decide (s.lastRxT ≤ 0) || decide (timeout < now - s.lastRxT)) := by
    unfold FreshnessStatus.updateFaultFlags
    simp only
    split <;> rfl
  rw [hflag, Bool.or_eq_true, decide_eq_true_eq, decide_eq_true_eq]
  rfl

/-- **What a call does**, to the flags, the receptions and the timeouts. -/
theorem step_cases (s : FreshnessStatus K) (c : CommCall K) :
    (∃ t, c = .markRx t ∧ (step timeout s c).1 = s.markRx t) ∨
    (∃ t, c = .markDecodeError t ∧ (step timeout s c).1 = s.markDecodeError t) ∨
    (∃ t, c.updateTime? = some t ∧ c.rxTime? = none ∧ c.time = t ∧
      (step timeout s c).1 = s.updateFaultFlags timeout t) := by
  cases c with
  | markRx t => exact Or.inl ⟨t, rfl, rfl⟩
  | markDecodeError t => exact Or.inr (Or.inl ⟨t, rfl, rfl⟩)
  | updateFaultFlags t => exact Or.inr (Or.inr ⟨t, rfl, rfl, rfl, rfl⟩)
  | isFresh t => exact Or.inr (Or.inr ⟨t, rfl, rfl, rfl, rfl⟩)

/-- What an update leaves alone, and the one thing it counts. -/
theorem updateFaultFlags_spec (s : FreshnessStatus K) (now : K) :
    (s.updateFaultFlags timeout now).isOnline = !(s.updateFaultFlags timeout now).isStale ∧
    (s.updateFaultFlags timeout now).rxCount = s.rxCount ∧
    (s.updateFaultFlags timeout now).lastRxT = s.lastRxT ∧
    (s.updateFaultFlags timeout now).timeoutCount = s.timeoutCount +
      if !s.isStale && (s.updateFaultFlags timeout now).isStale then 1 else 0 := by
  unfold FreshnessStatus.updateFaultFlags
  cases hstale : decide (s.lastRxT ≤ 0) || decide (timeout < now - s.lastRxT) <;>
    cases s.isStale <;> simp

/-- The two flags are kept opposite. -/
theorem step_isOnline (s : FreshnessStatus K) (c : CommCall K) (h : s.isOnline = !s.isStale) :
    (step timeout s c).1.isOnline = !(step timeout s c).1.isStale := by
  rcases step_cases timeout s c with ⟨t, -, hs⟩ | ⟨t, -, hs⟩ | ⟨t, -, -, -, hs⟩
  · rw [hs]
    rfl
  · rw [hs]
    exact h
  · rw [hs]
    exact (updateFaultFlags_spec timeout s t).1

/-- A reading of the status that only `mark_rx` moves. -/
theorem step_lastRxT (s : FreshnessStatus K) (c : CommCall K) :
    (step timeout s c).1.lastRxT = c.rxTime?.getD s.lastRxT := by
  rcases step_cases timeout s c with ⟨t, rfl, hs⟩ | ⟨t, rfl, hs⟩ | ⟨t, -, hrx, -, hs⟩
  · rw [hs]
    rfl
  · rw [hs]
    rfl
  · rw [hs, hrx]
    exact (updateFaultFlags_spec timeout s t).2.2.1

/-- Every call counts the transition it observed, and only updates observe one. -/
theorem step_timeoutCount (s : FreshnessStatus K) (c : CommCall K) :
    (step timeout s c).1.timeoutCount =
      s.timeoutCount + if wentStale (entry (step timeout) s c) then 1 else 0 := by
  rcases step_cases timeout s c with ⟨t, rfl, hs⟩ | ⟨t, rfl, hs⟩ | ⟨t, hupdate, -, -, hs⟩
  · rfl
  · rfl
  · simp only [wentStale, entry_input, entry_before, entry_after, hupdate, Option.isSome_some,
      Bool.true_and, hs]
    exact (updateFaultFlags_spec timeout s t).2.2.2

/-- The timeouts, and one more that the status may still count while it is fresh. -/
def credit (s : FreshnessStatus K) : ℕ := s.timeoutCount + if s.isStale then 0 else 1

omit [Field K] [LinearOrder K] in
theorem timeoutCount_le_credit (s : FreshnessStatus K) : s.timeoutCount ≤ credit s :=
  Nat.le_add_right _ _

omit [Field K] [LinearOrder K] in
theorem credit_le (s : FreshnessStatus K) : credit s ≤ s.timeoutCount + 1 := by
  unfold credit
  split <;> omega

/-- A call that is not a reception does not raise the credit, unless it makes a stale status fresh. -/
theorem credit_step_le {s : FreshnessStatus K} {c : CommCall K} (hrx : c.rxTime? = none)
    (hstays : s.isStale = true → (step timeout s c).1.isStale = true) :
    credit (step timeout s c).1 ≤ credit s ∧ (step timeout s c).1.rxCount = s.rxCount := by
  rcases step_cases timeout s c with ⟨t, rfl, hs⟩ | ⟨t, rfl, hs⟩ | ⟨t, -, -, -, hs⟩
  · cases hrx
  · exact ⟨Nat.le_refl _, rfl⟩
  · obtain ⟨-, hrxCount, -, hcount⟩ := updateFaultFlags_spec timeout s t
    rw [hs] at hstays ⊢
    refine ⟨?_, hrxCount⟩
    unfold credit
    rw [hcount]
    cases hold : s.isStale with
    | true =>
        rw [hstays hold]
        simp
    | false =>
        cases (s.updateFaultFlags timeout t).isStale <;> simp

omit [Field K] [LinearOrder K] in
/-- A reception raises the credit by one at most, and is counted. -/
theorem credit_markRx_le (s : FreshnessStatus K) (t : K) :
    credit (s.markRx t) ≤ credit s + 1 ∧ (s.markRx t).rxCount = s.rxCount + 1 := by
  refine ⟨?_, rfl⟩
  show s.timeoutCount + 1 ≤ credit s + 1
  have := timeoutCount_le_credit s
  omega

/-! ## Any calls -/

section Runs

variable [IsStrictOrderedRing K]

/-- **A stale flag is justified**, at any time no earlier than the calls so far. -/
theorem staleAt_of_isStale (calls : List (CommCall K)) {now : K} (hpast : ∀ c ∈ calls, c.time ≤ now)
    (hstale : (final (step timeout) start calls).isStale = true) :
    StaleAt timeout (final (step timeout) start calls) now := by
  induction calls using List.reverseRecOn with
  | nil => exact Or.inl (le_refl (0 : K))
  | append_singleton calls c ih =>
      have hpast' : ∀ c' ∈ calls, c'.time ≤ now := fun c' hc' =>
        hpast c' (List.mem_append_left _ hc')
      have hc : c.time ≤ now := hpast c (List.mem_append_right _ List.mem_cons_self)
      rw [final_concat] at hstale ⊢
      rcases step_cases timeout (final (step timeout) start calls) c with
        ⟨t, -, hs⟩ | ⟨t, -, hs⟩ | ⟨t, -, -, htime, hs⟩
      · rw [hs] at hstale
        cases hstale
      · rw [hs] at hstale ⊢
        exact ih hpast' hstale
      · rw [hs] at hstale ⊢
        have hlast := (updateFaultFlags_spec timeout (final (step timeout) start calls) t).2.2.1
        unfold StaleAt
        rw [hlast]
        rcases (updateFaultFlags_isStale timeout _ _).mp hstale with h0 | hold
        · exact Or.inl h0
        · exact Or.inr (hold.trans_le (sub_le_sub_right (htime ▸ hc) _))

/-- **Stale stays stale** until the next reception. -/
theorem stale_stays {calls : List (CommCall K)}
    (hmono : calls.Pairwise fun c c' => c.time ≤ c'.time) {n : ℕ}
    {e : CallEntry K}
    (he : (trace (step timeout) start calls)[n]? = some e) (hrx : e.input.rxTime? = none)
    (hstale : e.before.isStale = true) : e.after.isStale = true := by
  have hinput := input_at (step timeout) he
  have hpast : ∀ c ∈ calls.take n, c.time ≤ e.input.time := by
    intro c hc
    obtain ⟨k, hk⟩ := List.mem_iff_getElem?.mp hc
    rw [List.getElem?_take] at hk
    split at hk
    · obtain ⟨hklen, rfl⟩ := List.getElem?_eq_some_iff.mp hk
      obtain ⟨hnlen, hn⟩ := List.getElem?_eq_some_iff.mp hinput
      rw [← hn]
      exact List.pairwise_iff_getElem.mp hmono k n hklen hnlen (by assumption)
    · cases hk
  rw [before_eq_final (step timeout) he] at hstale
  have hjust := staleAt_of_isStale timeout (calls.take n) hpast hstale
  rw [← before_eq_final (step timeout) he] at hjust hstale
  rw [after_eq (step timeout) he]
  rcases step_cases timeout e.before e.input with ⟨t, ht, -⟩ | ⟨t, -, hs⟩ | ⟨t, -, -, htime, hs⟩
  · rw [ht] at hrx
    cases hrx
  · rw [hs]
    exact hstale
  · rw [hs, updateFaultFlags_isStale, ← htime]
    exact hjust

/-- The credit never exceeds the receptions. -/
theorem credit_le_rxCount {calls : List (CommCall K)}
    (hmono : calls.Pairwise fun c c' => c.time ≤ c'.time) :
    ∀ e ∈ trace (step timeout) start calls,
      credit e.before ≤ e.before.rxCount ∧ credit e.after ≤ e.after.rxCount := by
  refine trace_invariant_of (P := fun s : FreshnessStatus K => credit s ≤ s.rxCount)
    (C := fun e => e.input.rxTime? = none → e.before.isStale = true → e.after.isStale = true)
    ?_ (s := start) (Nat.le_refl 0) calls ?_
  · intro s c hs hstays
    simp only [entry_input, entry_before, entry_after] at hstays
    cases hrx : c.rxTime? with
    | none =>
        obtain ⟨hcredit, hcount⟩ := credit_step_le timeout hrx (hstays hrx)
        omega
    | some t =>
        rcases step_cases timeout s c with ⟨t', rfl, hstep⟩ | ⟨t', rfl, -⟩ | ⟨t', -, hnone, -⟩
        · obtain ⟨hcredit, hcount⟩ := credit_markRx_le s t'
          rw [hstep]
          omega
        · cases hrx
        · rw [hnone] at hrx
          cases hrx
  · intro e he hrx hstale
    obtain ⟨n, hn⟩ := List.mem_iff_getElem?.mp he
    exact stale_stays timeout hmono hn hrx hstale

/-- Between receptions the credit does not grow. -/
theorem credit_le_credit {calls : List (CommCall K)}
    (hmono : calls.Pairwise fun c c' => c.time ≤ c'.time) {m n : ℕ}
    {em en : CallEntry K} (hmn : m ≤ n)
    (hm : (trace (step timeout) start calls)[m]? = some em)
    (hn : (trace (step timeout) start calls)[n]? = some en)
    (hquiet : ∀ k ek, m < k → k ≤ n → (trace (step timeout) start calls)[k]? = some ek →
      ek.input.rxTime? = none) : credit en.after ≤ credit em.after := by
  refine trace_latch (Q := fun s => credit s ≤ credit em.after)
    (C := fun e => e.input.rxTime? = none ∧ (e.before.isStale = true → e.after.isStale = true))
    ?_ hm (Nat.le_refl _) hmn hn ?_
  · rintro s c hs ⟨hrx, hstays⟩
    exact Nat.le_trans (credit_step_le timeout hrx hstays).1 hs
  · intro k ek hmk hkn hk
    have hrx := hquiet k ek hmk hkn hk
    exact ⟨hrx, stale_stays timeout hmono hk hrx⟩

omit [IsStrictOrderedRing K] in
/-- The timeouts are the transitions observed so far. -/
theorem timeoutCount_eq {calls : List (CommCall K)} {n : ℕ}
    {e : CallEntry K}
    (he : (trace (step timeout) start calls)[n]? = some e) :
    e.after.timeoutCount = ((trace (step timeout) start calls).take (n + 1)).countP wentStale := by
  refine trace_history_at (C := fun _ => True)
    (P := fun past (s : FreshnessStatus K) => s.timeoutCount = past.countP wentStale) rfl ?_ he
    (fun _ _ _ _ => trivial)
  intro past s c hs _
  rw [step_timeoutCount, List.countP_append, List.countP_singleton, hs]

omit [IsStrictOrderedRing K] in
/-- An update leaves the verdict on the state it found. -/
theorem isStale_of_update {calls : List (CommCall K)} {n : ℕ} {e : CallEntry K} {now : K}
    (he : (trace (step timeout) start calls)[n]? = some e) (hupdate : e.input.updateTime? = some now) :
    e.after.isStale = true ↔ e.before.lastRxT ≤ 0 ∨ timeout < now - e.before.lastRxT := by
  rw [after_eq (step timeout) he]
  rcases step_cases timeout e.before e.input with ⟨t, ht, -⟩ | ⟨t, ht, -⟩ | ⟨t, ht, -, -, hs⟩
  · rw [ht] at hupdate
    cases hupdate
  · rw [ht] at hupdate
    cases hupdate
  · obtain rfl : t = now := Option.some.inj (ht.symm.trans hupdate)
    rw [hs, updateFaultFlags_isStale]
    rfl

omit [IsStrictOrderedRing K] in
/-- A call finds the time of the latest reception before it, zero when there was none. -/
theorem lastRxT_before {calls : List (CommCall K)} {n : ℕ} {e : CallEntry K}
    (he : (trace (step timeout) start calls)[n]? = some e) :
    e.before.lastRxT = (latest CommCall.rxTime? (calls.take n)).getD 0 := by
  rw [before_eq_final (step timeout) he]
  exact final_latest (P := fun _ => True) (C := fun _ => True) (fun _ _ _ _ => trivial)
    (f := FreshnessStatus.lastRxT) (fun s c _ _ => step_lastRxT timeout s c) trivial _ fun _ _ => trivial

/-- **Freshness bookkeeping.** Over every sequence of calls at positive times that do not go back: the
flags are opposite; right after an update the status is stale exactly when nothing was received before
it or the last reception is older than the timeout; the timeouts are the updates that saw a fresh
status become stale, at most as many as the receptions, and at most one between two receptions. -/
theorem freshness_bookkeeping (calls : List (CommCall K)) (hpos : ∀ c ∈ calls, 0 < c.time)
    (hmono : calls.Pairwise fun c c' => c.time ≤ c'.time) :
    (∀ e ∈ trace (step timeout) start calls,
      e.before.isOnline = !e.before.isStale ∧ e.after.isOnline = !e.after.isStale) ∧
    (∀ n e now, (trace (step timeout) start calls)[n]? = some e →
      e.input.updateTime? = some now →
      (e.after.isStale = true ↔ latest CommCall.rxTime? (calls.take n) = none ∨
        ∃ last, latest CommCall.rxTime? (calls.take n) = some last ∧ timeout < now - last)) ∧
    (∀ n e, (trace (step timeout) start calls)[n]? = some e →
      e.after.timeoutCount =
        ((trace (step timeout) start calls).take (n + 1)).countP wentStale ∧
      e.after.timeoutCount ≤ e.after.rxCount) ∧
    (∀ (m n : ℕ) (em en : CallEntry K), m ≤ n → (trace (step timeout) start calls)[m]? = some em →
      (trace (step timeout) start calls)[n]? = some en →
      (∀ k ek, m < k → k ≤ n → (trace (step timeout) start calls)[k]? = some ek →
        ek.input.rxTime? = none) →
      en.after.timeoutCount ≤ em.after.timeoutCount + 1) := by
  refine ⟨?_, ?_, ?_, ?_⟩
  · exact trace_invariant (step_isOnline timeout) rfl calls
  · intro n e now he hupdate
    rw [isStale_of_update timeout he hupdate, lastRxT_before timeout he]
    cases hrx : latest CommCall.rxTime? (calls.take n) with
    | none => exact iff_of_true (Or.inl (le_refl (0 : K))) (Or.inl rfl)
    | some last =>
        -- a reception time is positive, so the zero that means "never" is out of the question
        obtain ⟨c, hc, hct⟩ := mem_of_latest hrx
        have hlast : 0 < last := by
          rw [← CommCall.time_of_rxTime? hct]
          exact hpos c (List.mem_of_mem_take hc)
        simp [hlast.not_ge]
  · intro n e he
    refine ⟨timeoutCount_eq timeout he, ?_⟩
    exact (timeoutCount_le_credit _).trans
      (credit_le_rxCount timeout hmono e (List.mem_of_getElem? he)).2
  · intro m n em en hmn hm hn hquiet
    calc en.after.timeoutCount ≤ credit en.after := timeoutCount_le_credit _
      _ ≤ credit em.after := credit_le_credit timeout hmono hmn hm hn hquiet
      _ ≤ em.after.timeoutCount + 1 := credit_le _

end Runs

/-- One reception, then silence: with a timeout of one second the status is stale two seconds later,
and the second look does not count again. -/
theorem freshness_bookkeeping_silence :
    ∃ e e' : CallEntry ℚ,
      (trace (step (1 : ℚ)) start [.markRx 1, .updateFaultFlags 3, .isFresh 4])[0]? = some e ∧
      (trace (step (1 : ℚ)) start [.markRx 1, .updateFaultFlags 3, .isFresh 4])[2]? = some e' ∧
      e'.after.isStale = true ∧ e'.after.timeoutCount ≤ e'.after.rxCount ∧
      e'.after.timeoutCount ≤ e.after.timeoutCount + 1 := by
  obtain ⟨-, hstale, hcount, hbetween⟩ := freshness_bookkeeping (1 : ℚ)
    [.markRx 1, .updateFaultFlags 3, .isFresh 4] (by simp [CommCall.time])
    (by simp [CommCall.time]; norm_num)
  refine ⟨_, _, rfl, rfl, (hstale 2 _ 4 rfl rfl).mpr (Or.inr ⟨1, rfl, by norm_num⟩),
    (hcount 2 _ rfl).2, hbetween 0 2 _ _ (by norm_num) rfl rfl ?_⟩
  intro k ek hk0 hk2 hek
  obtain rfl | rfl : k = 1 ∨ k = 2 := by omega
  · cases hek
    rfl
  · cases hek
    rfl

end BestEffortCommManager

end SparqControl.Hal
