/-
# SparqControl.Hal.Transactions — waiting for responses while frames come in.

`TransactionManager` tells a caller when every expected CAN id has answered. Four kinds of calls meet in
it, each from any thread: a request is started (and replaces the one before it), a received frame is
marked, the request is cleared, and a caller waits on the request that is there when the wait begins.
`on_frame` merges a frame first and marks it afterwards, so a request can be started in between.

`wait_returns` says what every wait in every interleaving comes back with. True means that all expected
ids were marked after the request was started, before it was replaced or cleared and before the wait
ended; an empty request is only answered by some frame; False means that the time ran out.
-/
import Mathlib.Data.Finset.Basic
import Mathlib.Data.List.TakeWhile
import SparqControl.Hal.ActuatorDriver
import SparqControl.Lib.Trace

namespace SparqControl.Hal

open SparqControl.Lib.Trace

/-! ## The manager and its callers -/

/-- `PendingTransaction`. -/
structure PendingTransaction (K : Type) where
  expectedIds : Finset ℤ
  receivedIds : Finset ℤ
  createdT : K
  timeout : K
  event : Bool

/-- What an `ActuatorDriver` and its threads share. `transactions` are the objects made so far, oldest
first, and `pending` is the place of the one `_pending` refers to. `inFlight` is the id of a frame that is
merged and not yet marked; `waiting` are the waits under way, with the object each of them waits on, its
timeout and the time it began. -/
structure TransactionState (K μ : Type) where
  driver : ActuatorDriver K μ
  transactions : List (PendingTransaction K)
  pending : Option ℕ
  inFlight : Option ℤ
  waiting : ℕ → Option (ℕ × K × K)

/-- What a thread does next. `on_frame` is called by the receiving thread alone, in two parts. -/
inductive TransactionInput (K : Type) where
  | receive (frame : CANFrame) (now : K)
  | mark
  | start (expectedIds : Finset ℤ) (timeout now : K)
  | clear
  | waitBegin (thread : ℕ) (timeout : Option K) (now : K)
  | waitEnd (thread : ℕ) (now : K)

/-- What can be seen of a step. -/
inductive TransactionOut where
  | silent
  | merged (canId : ℤ)
  | marked (canId : ℤ)
  | returned (thread : ℕ) (result : Bool)
  deriving DecidableEq

/-- `mark_rx` on the object. -/
def PendingTransaction.markRx {K : Type} (tx : PendingTransaction K) (canId : ℤ) :
    PendingTransaction K :=
  let receivedIds := insert canId tx.receivedIds
  { tx with receivedIds := receivedIds, event := tx.event || decide (tx.expectedIds ⊆ receivedIds) }

section Step

variable {K μ : Type} [Field K] [LinearOrder K]

/-- `TransactionManager.mark_rx`. -/
def TransactionState.markRx (s : TransactionState K μ) (canId : ℤ) : TransactionState K μ :=
  match s.pending with
  | none => s
  | some j => { s with transactions := s.transactions.modify j fun tx => tx.markRx canId }

/-- `TransactionManager.wait` up to the lock: without a request it is over. -/
def TransactionState.beginWait (s : TransactionState K μ) (thread : ℕ) (timeout : Option K) (now : K) :
    TransactionState K μ × TransactionOut :=
  match s.pending.bind fun j => s.transactions[j]?.map fun tx => (j, tx) with
  | none => (s, .returned thread false)
  | some (j, tx) =>
      ({ s with waiting := Function.update s.waiting thread (some (j, timeout.getD tx.timeout, now)) },
        .silent)

/-- `event.wait`: it comes back when the event is set, and when the time is up. -/
def TransactionState.endWait (s : TransactionState K μ) (thread : ℕ) (now : K) :
    TransactionState K μ × TransactionOut :=
  match s.waiting thread with
  | none => (s, .silent)
  | some (j, timeout, begun) =>
      if (s.transactions[j]?.map PendingTransaction.event).getD false then
        ({ s with waiting := Function.update s.waiting thread none }, .returned thread true)
      else if timeout ≤ now - begun then
        ({ s with waiting := Function.update s.waiting thread none }, .returned thread false)
      else (s, .silent)

/-- One step of one thread. -/
def transactionStep (decode : CANFrame → K → Except PyError (Option (ActuatorState K μ)))
    (s : TransactionState K μ) : TransactionInput K → TransactionState K μ × TransactionOut
  | .receive frame now =>
      -- the receiving thread takes a frame when it is done with the one before it
      if s.inFlight.isSome then (s, .silent)
      else
        let s := { s with driver := s.driver.onFrame decode frame now }
        match decode frame now with
        | .ok (some _) => ({ s with inFlight := some frame.canId }, .merged frame.canId)
        | _ => (s, .silent)
  | .mark =>
      match s.inFlight with
      | none => (s, .silent)
      | some canId => ({ s.markRx canId with inFlight := none }, .marked canId)
  | .start expectedIds timeout now =>
      ({ s with
        transactions := s.transactions ++ [⟨expectedIds, ∅, now, timeout, false⟩]
        pending := some s.transactions.length }, .silent)
  | .clear => ({ s with pending := none }, .silent)
  | .waitBegin thread timeout now =>
      if (s.waiting thread).isSome then (s, .silent) else s.beginWait thread timeout now
  | .waitEnd thread now => s.endWait thread now

/-- A driver with no request. -/
def TransactionState.init (driver : ActuatorDriver K μ) : TransactionState K μ :=
  ⟨driver, [], none, none, fun _ => none⟩

end Step

/-! ## What the past says -/

/-- The object a request starts as. -/
def PendingTransaction.fresh {K : Type} (expectedIds : Finset ℤ) (timeout now : K) :
    PendingTransaction K :=
  ⟨expectedIds, ∅, now, timeout, false⟩

/-- The request a call starts. -/
def TransactionInput.request {K : Type} : TransactionInput K → Option (PendingTransaction K)
  | .start expectedIds timeout now => some (.fresh expectedIds timeout now)
  | _ => none

/-- A call that replaces the request or takes it away. -/
def TransactionInput.replaces {K : Type} : TransactionInput K → Bool
  | .start .. => true
  | .clear => true
  | _ => false

/-- The id a step marked. -/
def TransactionOut.markedId : TransactionOut → Option ℤ
  | .marked canId => some canId
  | _ => none

theorem TransactionInput.eq_start_of_request {K : Type} {i : TransactionInput K}
    {tx : PendingTransaction K} (h : i.request = some tx) :
    ∃ expectedIds timeout now, i = .start expectedIds timeout now ∧ tx = .fresh expectedIds timeout now := by
  cases i with
  | start expectedIds timeout now => exact ⟨expectedIds, timeout, now, rfl, (Option.some.inj h).symm⟩
  | _ => cases h

theorem TransactionOut.eq_marked_of_markedId {out : TransactionOut} {id : ℤ}
    (h : out.markedId = some id) : out = .marked id := by
  cases out with
  | marked id' => rw [Option.some.inj h]
  | _ => cases h

section Past

variable {K μ : Type}

/-- A recorded step. -/
abbrev Step (K μ : Type) := Entry (TransactionState K μ) (TransactionInput K) TransactionOut

/-- The ids marked for a request, given what happened after it was started. -/
def answered (since : List (Step K μ)) : List ℤ :=
  (since.takeWhile fun e => !e.input.replaces).filterMap fun e => e.out.markedId

/-- Nothing replaced the request. -/
def Standing (since : List (Step K μ)) : Prop := ∀ e ∈ since, e.input.replaces = false

theorem standing_concat_iff {since : List (Step K μ)} {e : Step K μ} :
    Standing (since ++ [e]) ↔ Standing since ∧ e.input.replaces = false := by
  simp [Standing, or_imp, forall_and]

theorem answered_concat_standing {since : List (Step K μ)} (h : Standing since) (e : Step K μ) :
    answered (since ++ [e]) =
      answered since ++ if e.input.replaces then [] else e.out.markedId.toList := by
  have hall : ∀ e' ∈ since, (!e'.input.replaces) = true := fun e' he' => by simp [h e' he']
  have hself : (since.takeWhile fun e => !e.input.replaces) = since :=
    List.takeWhile_eq_self_iff.mpr hall
  unfold answered
  rw [List.takeWhile_append_of_pos hall, hself, List.filterMap_append]
  cases hreplaces : e.input.replaces with
  | true => simp [hreplaces]
  | false => cases hid : e.out.markedId <;> simp [hreplaces, hid]

theorem answered_concat_replaced {since : List (Step K μ)} (h : ¬ Standing since) (e : Step K μ) :
    answered (since ++ [e]) = answered since := by
  unfold answered
  congr 1
  rw [List.takeWhile_append, if_neg]
  intro hlength
  have hself : (since.takeWhile fun e => !e.input.replaces) = since :=
    (List.takeWhile_sublist _).eq_of_length hlength
  refine h fun e' he' => ?_
  rw [← hself] at he'
  simpa using List.mem_takeWhile_imp he'

/-- A step of a longer past is the last one, or a step of the shorter past. -/
theorem concat_eq_append_cons {past earlier since : List (Step K μ)} {e e' : Step K μ}
    (h : past ++ [e] = earlier ++ e' :: since) :
    (since = [] ∧ e' = e ∧ earlier = past) ∨
      ∃ since', since = since' ++ [e] ∧ past = earlier ++ e' :: since' := by
  rcases List.eq_nil_or_concat since with rfl | ⟨since', last, rfl⟩
  · obtain ⟨hpast, hlast⟩ := List.append_inj' h rfl
    cases hlast
    exact Or.inl ⟨rfl, rfl, hpast.symm⟩
  · rw [List.concat_eq_append, ← List.cons_append, ← List.append_assoc] at h
    obtain ⟨hpast, hlast⟩ := List.append_inj' h rfl
    cases hlast
    exact Or.inr ⟨since', List.concat_eq_append .., hpast⟩

end Past

/-! ## One request -/

theorem timeout_foldl_markRx {K : Type} (tx : PendingTransaction K) (ids : List ℤ) :
    (ids.foldl PendingTransaction.markRx tx).timeout = tx.timeout := by
  induction ids generalizing tx with
  | nil => rfl
  | cons id ids ih => exact ih (tx.markRx id)

/-- **The event** of a request is set by the mark that completes it; without a mark it is not set. -/
theorem markRx_foldl {K : Type} (expectedIds : Finset ℤ) (timeout now : K) (ids : List ℤ) :
    (ids.foldl PendingTransaction.markRx (.fresh expectedIds timeout now)).expectedIds = expectedIds ∧
    (ids.foldl PendingTransaction.markRx (.fresh expectedIds timeout now)).receivedIds = ids.toFinset ∧
    ((ids.foldl PendingTransaction.markRx (.fresh expectedIds timeout now)).event = true ↔
      ids ≠ [] ∧ ∀ id ∈ expectedIds, id ∈ ids) := by
  induction ids using List.reverseRecOn with
  | nil => exact ⟨rfl, rfl, by simp [PendingTransaction.fresh]⟩
  | append_singleton ids id ih =>
      obtain ⟨hexpected, hreceived, hevent⟩ := ih
      rw [List.foldl_append, List.foldl_cons, List.foldl_nil]
      simp only [PendingTransaction.markRx]
      refine ⟨hexpected, ?_, ?_⟩
      · rw [hreceived]
        ext x
        simp
      · rw [Bool.or_eq_true, decide_eq_true_iff, hevent, hexpected, hreceived]
        constructor
        · rintro (⟨-, hall⟩ | hsub)
          · exact ⟨by simp, fun x hx => List.mem_append_left _ (hall x hx)⟩
          · refine ⟨by simp, fun x hx => ?_⟩
            have hmem := hsub hx
            rw [Finset.mem_insert, List.mem_toFinset] at hmem
            rcases hmem with rfl | hmem
            · simp
            · exact List.mem_append_left _ hmem
        · rintro ⟨-, hall⟩
          refine Or.inr fun x hx => ?_
          rw [Finset.mem_insert, List.mem_toFinset]
          rcases List.mem_append.mp (hall x hx) with hmem | hmem
          · exact Or.inr hmem
          · exact Or.inl (List.mem_singleton.mp hmem)

/-! ## One step -/

section OneStep

variable {K μ : Type} [Field K] [LinearOrder K]
  {decode : CANFrame → K → Except PyError (Option (ActuatorState K μ))}

/-- The feedback of a received frame goes into the driver's state. -/
def Merges (decode : CANFrame → K → Except PyError (Option (ActuatorState K μ))) (id : ℤ)
    (s : TransactionState K μ) (i : TransactionInput K) (s' : TransactionState K μ) : Prop :=
  ∃ frame now feedback, i = .receive frame now ∧ frame.canId = id ∧
    decode frame now = .ok (some feedback) ∧ s'.driver = s.driver.mergeState feedback now

variable (decode) in
/-- Everything a step can do. -/
inductive Effect (s : TransactionState K μ) :
    TransactionInput K → TransactionState K μ → TransactionOut → Prop
  /-- Nothing that another thread could tell, but for the driver. -/
  | quiet (i : TransactionInput K) (driver : ActuatorDriver K μ) (hrequest : i.request = none)
      (hreplaces : i.replaces = false) : Effect s i { s with driver := driver } .silent
  | merge (frame : CANFrame) (now : K) (feedback : ActuatorState K μ)
      (hdecode : decode frame now = .ok (some feedback)) :
      Effect s (.receive frame now)
        { s with driver := s.driver.mergeState feedback now, inFlight := some frame.canId }
        (.merged frame.canId)
  | mark (id : ℤ) (hflight : s.inFlight = some id) :
      Effect s .mark { s.markRx id with inFlight := none } (.marked id)
  | start (expectedIds : Finset ℤ) (timeout now : K) :
      Effect s (.start expectedIds timeout now)
        { s with
          transactions := s.transactions ++ [.fresh expectedIds timeout now]
          pending := some s.transactions.length } .silent
  | clear : Effect s .clear { s with pending := none } .silent
  | refused (thread : ℕ) (timeout : Option K) (now : K) (hidle : s.waiting thread = none)
      (hnone : ∀ j, s.pending = some j → s.transactions[j]? = none) :
      Effect s (.waitBegin thread timeout now) s (.returned thread false)
  | begun (thread : ℕ) (timeout : Option K) (now : K) (j : ℕ) (tx : PendingTransaction K)
      (hpending : s.pending = some j) (htx : s.transactions[j]? = some tx) :
      Effect s (.waitBegin thread timeout now)
        { s with waiting := Function.update s.waiting thread (some (j, timeout.getD tx.timeout, now)) }
        .silent
  | ended (thread : ℕ) (now : K) (j : ℕ) (timeout begun : K) (result : Bool)
      (hwaiting : s.waiting thread = some (j, timeout, begun))
      (hevent : (s.transactions[j]?.map PendingTransaction.event).getD false = result)
      (htime : result = false → timeout ≤ now - begun) :
      Effect s (.waitEnd thread now) { s with waiting := Function.update s.waiting thread none }
        (.returned thread result)

theorem effect_step (decode : CANFrame → K → Except PyError (Option (ActuatorState K μ)))
    (s : TransactionState K μ) (i : TransactionInput K) :
    Effect decode s i (transactionStep decode s i).1 (transactionStep decode s i).2 := by
  cases i with
  | start expectedIds timeout now => exact .start expectedIds timeout now
  | clear => exact .clear
  | receive frame now =>
      simp only [transactionStep]
      split
      · exact .quiet _ s.driver rfl rfl
      · split
        · rename_i feedback hdecode
          have hdriver : s.driver.onFrame decode frame now = s.driver.mergeState feedback now := by
            simp only [ActuatorDriver.onFrame, hdecode]
          rw [hdriver]
          exact .merge frame now feedback hdecode
        · exact .quiet _ _ rfl rfl
  | mark =>
      simp only [transactionStep]
      split
      · exact .quiet _ s.driver rfl rfl
      · rename_i id hflight
        exact .mark id hflight
  | waitBegin thread timeout now =>
      simp only [transactionStep]
      split
      · exact .quiet _ s.driver rfl rfl
      · rename_i hbusy
        unfold TransactionState.beginWait
        split
        · rename_i hnone
          refine .refused thread timeout now (by simpa using hbusy) fun j hj => ?_
          rw [hj] at hnone
          exact Option.map_eq_none_iff.mp hnone
        · rename_i j tx hsome
          obtain ⟨j', hpending, hmap⟩ := Option.bind_eq_some_iff.mp hsome
          obtain ⟨tx', htx, heq⟩ := Option.map_eq_some_iff.mp hmap
          cases heq
          exact .begun thread timeout now j tx hpending htx
  | waitEnd thread now =>
      simp only [transactionStep, TransactionState.endWait]
      split
      · exact .quiet _ s.driver rfl rfl
      · rename_i j timeout begun hwaiting
        split
        · rename_i hevent
          exact .ended thread now j timeout begun true hwaiting hevent nofun
        · rename_i hevent
          split
          · rename_i htime
            exact .ended thread now j timeout begun false hwaiting (Bool.eq_false_iff.mpr hevent)
              fun _ => htime
          · exact .quiet _ s.driver rfl rfl

/-- What a step does to the requests. -/
theorem Effect.requests {s s' : TransactionState K μ} {i : TransactionInput K} {out : TransactionOut}
    (h : Effect decode s i s' out) :
    (i.replaces = false ∧ i.request = none ∧ s'.pending = s.pending ∧
      s'.transactions = match out.markedId, s.pending with
        | some id, some j => s.transactions.modify j fun tx => tx.markRx id
        | _, _ => s.transactions) ∨
    (∃ tx, i.request = some tx ∧ i.replaces = true ∧ out.markedId = none ∧
      s'.pending = some s.transactions.length ∧ s'.transactions = s.transactions ++ [tx]) ∨
    (i = .clear ∧ out.markedId = none ∧ s'.pending = none ∧ s'.transactions = s.transactions) := by
  cases h with
  | quiet _ driver hrequest hreplaces => exact Or.inl ⟨hreplaces, hrequest, rfl, rfl⟩
  | merge => exact Or.inl ⟨rfl, rfl, rfl, rfl⟩
  | mark id =>
      refine Or.inl ⟨rfl, rfl, ?_⟩
      unfold TransactionState.markRx
      cases hpending : s.pending with
      | none => exact ⟨hpending, rfl⟩
      | some j => exact ⟨rfl, rfl⟩
  | start expectedIds timeout now => exact Or.inr (Or.inl ⟨_, rfl, rfl, rfl, rfl, rfl⟩)
  | clear => exact Or.inr (Or.inr ⟨rfl, rfl, rfl, rfl⟩)
  | refused => exact Or.inl ⟨rfl, rfl, rfl, rfl⟩
  | begun => exact Or.inl ⟨rfl, rfl, rfl, rfl⟩
  | ended => exact Or.inl ⟨rfl, rfl, rfl, rfl⟩

/-- A wait under way was so before, or has just begun on the request that stands. -/
theorem Effect.waiting {s s' : TransactionState K μ} {i : TransactionInput K} {out : TransactionOut}
    (h : Effect decode s i s' out) {thread j : ℕ} {timeout begun : K}
    (hwaiting : s'.waiting thread = some (j, timeout, begun)) :
    (s.waiting thread = some (j, timeout, begun) ∧ ∀ result, out ≠ .returned thread result) ∨
    ∃ callTimeout tx, i = .waitBegin thread callTimeout begun ∧ s.pending = some j ∧
      s.transactions[j]? = some tx ∧ timeout = callTimeout.getD tx.timeout := by
  cases h with
  | quiet => exact Or.inl ⟨hwaiting, fun _ => nofun⟩
  | merge => exact Or.inl ⟨hwaiting, fun _ => nofun⟩
  | mark id =>
      refine Or.inl ⟨?_, fun _ => nofun⟩
      unfold TransactionState.markRx at hwaiting
      split at hwaiting <;> exact hwaiting
  | start => exact Or.inl ⟨hwaiting, fun _ => nofun⟩
  | clear => exact Or.inl ⟨hwaiting, fun _ => nofun⟩
  | refused other _ _ hidle =>
      refine Or.inl ⟨hwaiting, fun result heq => ?_⟩
      cases heq
      rw [hidle] at hwaiting
      cases hwaiting
  | begun other callTimeout now j' tx hpending htx =>
      dsimp only at hwaiting
      by_cases hthread : thread = other
      · subst hthread
        rw [Function.update_self] at hwaiting
        cases hwaiting
        exact Or.inr ⟨callTimeout, tx, rfl, hpending, htx, rfl⟩
      · rw [Function.update_of_ne hthread] at hwaiting
        exact Or.inl ⟨hwaiting, fun _ => nofun⟩
  | ended other now j' timeout' begun' result =>
      dsimp only at hwaiting
      have hthread : thread ≠ other := by
        rintro rfl
        rw [Function.update_self] at hwaiting
        cases hwaiting
      rw [Function.update_of_ne hthread] at hwaiting
      refine Or.inl ⟨hwaiting, fun result' heq => ?_⟩
      cases heq
      exact hthread rfl

/-- A frame in flight was so before, or has just been merged; only a frame in flight is marked. -/
theorem Effect.inFlight {s s' : TransactionState K μ} {i : TransactionInput K} {out : TransactionOut}
    (h : Effect decode s i s' out) (id : ℤ) :
    (s'.inFlight = some id → s.inFlight = some id ∨ Merges decode id s i s') ∧
      (out = .marked id → s.inFlight = some id) := by
  cases h with
  | merge frame now feedback hdecode =>
      exact ⟨fun hid => Or.inr ⟨frame, now, feedback, rfl, Option.some.inj hid, hdecode, rfl⟩, nofun⟩
  | mark id' hflight =>
      refine ⟨nofun, fun hid => ?_⟩
      cases hid
      exact hflight
  | quiet => exact ⟨Or.inl, nofun⟩
  | start => exact ⟨Or.inl, nofun⟩
  | clear => exact ⟨Or.inl, nofun⟩
  | refused => exact ⟨Or.inl, nofun⟩
  | begun => exact ⟨Or.inl, nofun⟩
  | ended => exact ⟨Or.inl, nofun⟩

/-- What comes back from a wait. -/
theorem Effect.returned {s s' : TransactionState K μ} {i : TransactionInput K} {thread : ℕ}
    {result : Bool} (h : Effect decode s i s' (.returned thread result)) :
    (∃ timeout now, i = .waitBegin thread timeout now ∧ result = false ∧
      ∀ j, s.pending = some j → s.transactions[j]? = none) ∨
    ∃ now j timeout begun, i = .waitEnd thread now ∧ s.waiting thread = some (j, timeout, begun) ∧
      (s.transactions[j]?.map PendingTransaction.event).getD false = result ∧
      (result = false → timeout ≤ now - begun) := by
  cases h with
  | refused _ timeout now _ hnone => exact Or.inl ⟨timeout, now, rfl, rfl, hnone⟩
  | ended _ now j timeout begun _ hwaiting hevent htime =>
      exact Or.inr ⟨now, j, timeout, begun, rfl, hwaiting, hevent, htime⟩

end OneStep

/-! ## The ledger -/

section Runs

variable {K μ : Type} [Field K] [LinearOrder K]
  {decode : CANFrame → K → Except PyError (Option (ActuatorState K μ))}

variable (decode) in
/-- **The ledger**: what the recorded past says about the state. -/
structure Ledger (past : List (Step K μ)) (s : TransactionState K μ) : Prop where
  /-- The object of a request holds the marks made while it stood. -/
  request : ∀ earlier e since tx, past = earlier ++ e :: since → e.input.request = some tx →
    s.transactions[e.before.transactions.length]? =
        some ((answered since).foldl PendingTransaction.markRx tx) ∧
      (s.pending = some e.before.transactions.length ↔ Standing since)
  pending : ∀ j, s.pending = some j → ∃ earlier e since tx, past = earlier ++ e :: since ∧
    e.input.request = some tx ∧ e.before.transactions.length = j
  cleared : s.pending = none → ∀ earlier e since tx, past = earlier ++ e :: since →
    e.input.request = some tx → ∃ c ∈ since, c.input = .clear
  waiting : ∀ thread j timeout begun, s.waiting thread = some (j, timeout, begun) →
    ∃ earlier e between b rest tx callTimeout, past = earlier ++ e :: (between ++ b :: rest) ∧
      e.input.request = some tx ∧ e.before.transactions.length = j ∧ Standing between ∧
      b.input = .waitBegin thread callTimeout begun ∧ timeout = callTimeout.getD tx.timeout ∧
      ∀ e' ∈ rest, ∀ result, e'.out ≠ .returned thread result
  inFlight : ∀ id, s.inFlight = some id → ∃ m ∈ past, Merges decode id m.before m.input m.after
  marked : ∀ earlier e since id, past = earlier ++ e :: since → e.out = .marked id →
    ∃ m ∈ earlier, Merges decode id m.before m.input m.after

variable {past : List (Step K μ)} {e : Step K μ}

/-- One more step, for a request that was started before it. -/
theorem Ledger.request_concat (h : Ledger decode past e.before) (he : Effect decode e.before e.input e.after e.out)
    {earlier since : List (Step K μ)} {start : Step K μ} {tx : PendingTransaction K}
    (hpast : past = earlier ++ start :: since) (htx : start.input.request = some tx) :
    e.after.transactions[start.before.transactions.length]? =
        some ((answered (since ++ [e])).foldl PendingTransaction.markRx tx) ∧
      (e.after.pending = some start.before.transactions.length ↔ Standing (since ++ [e])) := by
  obtain ⟨hobject, hpending⟩ := h.request earlier start since tx hpast htx
  have hlt := (List.getElem?_eq_some_iff.mp hobject).1
  have hunmarked : e.out.markedId = none → answered (since ++ [e]) = answered since := by
    intro hnone
    by_cases hstanding : Standing since
    · rw [answered_concat_standing hstanding, hnone]
      simp
    · exact answered_concat_replaced hstanding e
  rw [standing_concat_iff, ← hpending]
  rcases he.requests with ⟨hreplaces, -, hsame, hobjects⟩ | ⟨new, -, hreplaces, hnone, hnew, hobjects⟩ |
    ⟨hclear, hnone, hnew, hobjects⟩
  · refine ⟨?_, by rw [hsame, hreplaces]; simp⟩
    rw [hobjects]
    cases hid : e.out.markedId with
    | none =>
        rw [hunmarked hid]
        exact hobject
    | some id =>
        by_cases hstanding : Standing since
        · rw [answered_concat_standing hstanding, hreplaces, hid, hpending.mpr hstanding]
          simp [hobject]
        · rw [answered_concat_replaced hstanding]
          -- the mark goes to another request, or to none
          cases hother : e.before.pending with
          | none => exact hobject
          | some j =>
              have hne : j ≠ start.before.transactions.length := by
                rintro rfl
                exact hstanding (hpending.mp hother)
              simp only [List.getElem?_modify, if_neg hne]
              rw [hobject]
              rfl
  · refine ⟨?_, ?_⟩
    · rw [hunmarked hnone, hobjects, List.getElem?_append_left hlt]
      exact hobject
    · have hne : some e.before.transactions.length ≠ some start.before.transactions.length :=
        fun hsome => Nat.ne_of_gt hlt (Option.some.inj hsome)
      rw [hnew, hreplaces]
      exact ⟨fun hsome => absurd hsome hne, fun hand => nomatch hand.2⟩
  · refine ⟨?_, ?_⟩
    · rw [hunmarked hnone, hobjects]
      exact hobject
    · rw [hnew, hclear]
      simp [TransactionInput.replaces]

/-- **One step.** -/
theorem Ledger.step (h : Ledger decode past e.before) (he : Effect decode e.before e.input e.after e.out) :
    Ledger decode (past ++ [e]) e.after where
  request := by
    intro earlier start since tx hpast htx
    rcases concat_eq_append_cons hpast with ⟨rfl, rfl, rfl⟩ | ⟨since', rfl, hpast'⟩
    · rcases he.requests with ⟨-, hnone, -⟩ | ⟨new, hnew, -, -, hpending, hobjects⟩ | ⟨hclear, -⟩
      · rw [hnone] at htx
        cases htx
      · obtain rfl := Option.some.inj (hnew.symm.trans htx)
        rw [hpending, hobjects]
        exact ⟨List.getElem?_concat_length, fun _ => List.forall_mem_nil _, fun _ => rfl⟩
      · rw [hclear] at htx
        cases htx
    · exact h.request_concat he hpast' htx
  pending := by
    intro j hj
    rcases he.requests with ⟨-, -, hsame, -⟩ | ⟨new, hnew, -, -, hpending, -⟩ | ⟨-, -, hnone, -⟩
    · obtain ⟨earlier, start, since, tx, rfl, htx, hlength⟩ := h.pending j (hsame ▸ hj)
      exact ⟨earlier, start, since ++ [e], tx, by simp, htx, hlength⟩
    · exact ⟨past, e, [], new, rfl, hnew, Option.some.inj (hpending.symm.trans hj)⟩
    · rw [hnone] at hj
      cases hj
  cleared := by
    intro hnone earlier start since tx hpast htx
    rcases concat_eq_append_cons hpast with ⟨rfl, rfl, rfl⟩ | ⟨since', rfl, hpast'⟩
    · rcases he.requests with ⟨-, hrequest, -⟩ | ⟨new, -, -, -, hpending, -⟩ | ⟨hclear, -⟩
      · rw [hrequest] at htx
        cases htx
      · rw [hpending] at hnone
        cases hnone
      · rw [hclear] at htx
        cases htx
    · rcases he.requests with ⟨-, -, hsame, -⟩ | ⟨new, -, -, -, hpending, -⟩ | ⟨hclear, -⟩
      · obtain ⟨c, hc, hclear⟩ := h.cleared (hsame ▸ hnone) earlier start since' tx hpast' htx
        exact ⟨c, List.mem_append_left _ hc, hclear⟩
      · rw [hpending] at hnone
        cases hnone
      · exact ⟨e, by simp, hclear⟩
  waiting := by
    intro thread j timeout begun hwaiting
    rcases he.waiting hwaiting with ⟨hbefore, hout⟩ | ⟨callTimeout, tx, hinput, hpending, htx, htimeout⟩
    · obtain ⟨earlier, start, between, b, rest, tx, callTimeout, rfl, hstart, hlength, hstanding, hb,
        htimeout, hrest⟩ := h.waiting thread j timeout begun hbefore
      refine ⟨earlier, start, between, b, rest ++ [e], tx, callTimeout, by simp, hstart, hlength,
        hstanding, hb, htimeout, fun e' he' => ?_⟩
      rcases List.mem_append.mp he' with he' | he'
      · exact hrest e' he'
      · rw [List.mem_singleton.mp he']
        exact hout
    · obtain ⟨earlier, start, since, tx₀, rfl, hstart, hlength⟩ := h.pending j hpending
      obtain ⟨hobject, hiff⟩ := h.request earlier start since tx₀ rfl hstart
      have hstanding : Standing since := hiff.mp (hlength ▸ hpending)
      have hsame : tx.timeout = tx₀.timeout := by
        rw [hlength, htx] at hobject
        rw [Option.some.inj hobject, timeout_foldl_markRx]
      exact ⟨earlier, start, since, e, [], tx₀, callTimeout, by simp, hstart, hlength, hstanding, hinput,
        by rw [htimeout, hsame], fun e' he' => absurd he' List.not_mem_nil⟩
  inFlight := by
    intro id hid
    rcases (he.inFlight id).1 hid with hbefore | hmerges
    · obtain ⟨m, hm, hmerged⟩ := h.inFlight id hbefore
      exact ⟨m, List.mem_append_left _ hm, hmerged⟩
    · exact ⟨e, by simp, hmerges⟩
  marked := by
    intro earlier m since id hpast hm
    rcases concat_eq_append_cons hpast with ⟨rfl, rfl, rfl⟩ | ⟨since', rfl, hpast'⟩
    · exact h.inFlight id ((he.inFlight id).2 hm)
    · exact h.marked earlier m since' id hpast' hm

theorem ledger_take (decode : CANFrame → K → Except PyError (Option (ActuatorState K μ)))
    (driver : ActuatorDriver K μ) {inputs : List (TransactionInput K)} {n : ℕ} {e : Step K μ}
    (he : (trace (transactionStep decode) (.init driver) inputs)[n]? = some e) :
    Ledger decode ((trace (transactionStep decode) (.init driver) inputs).take n) e.before := by
  have hinit : Ledger decode [] (TransactionState.init driver) := by
    have hnil : ∀ (earlier since : List (Step K μ)) (e : Step K μ), [] ≠ earlier ++ e :: since := by
      simp
    refine ⟨?_, nofun, ?_, nofun, nofun, ?_⟩
    · exact fun earlier e since tx hpast => absurd hpast (hnil earlier since e)
    · exact fun _ earlier e since tx hpast => absurd hpast (hnil earlier since e)
    · exact fun earlier e since id hpast => absurd hpast (hnil earlier since e)
  exact trace_history_before hinit
    (fun past s i h => Ledger.step (e := entry (transactionStep decode) s i) h (effect_step decode s i)) he

/-- A wait that found no request: whatever was started before had been cleared. -/
def NoRequest (past : List (Step K μ)) : Prop :=
  ∀ earlier e since tx, past = earlier ++ e :: since → e.input.request = some tx →
    ∃ c ∈ since, c.input = .clear

/-- A wait that came to its end: the past cut at the start of its request and where it began. -/
structure Wait (K μ : Type) where
  earlier : List (Step K μ)
  start : Step K μ
  between : List (Step K μ)
  begin : Step K μ
  rest : List (Step K μ)
  expectedIds : Finset ℤ
  requestTimeout : K
  created : K
  timeout : Option K
  begun : K

/-- The ids marked for the request of a wait. -/
def Wait.answered (w : Wait K μ) : List ℤ := Hal.answered (w.between ++ w.begin :: w.rest)

variable (decode) in
/-- What a wait with this result must have behind it. -/
structure Waited (past : List (Step K μ)) (thread : ℕ) (now : K) (result : Bool) (w : Wait K μ) : Prop where
  past_eq : past = w.earlier ++ w.start :: (w.between ++ w.begin :: w.rest)
  started : w.start.input = .start w.expectedIds w.requestTimeout w.created
  standing : Standing w.between
  begins : w.begin.input = .waitBegin thread w.timeout w.begun
  /-- The thread did not come back in between. -/
  still : ∀ e ∈ w.rest, ∀ result', e.out ≠ .returned thread result'
  /-- True is returned exactly when every expected id was marked for this request, and any id at all. -/
  result_iff : result = true ↔ w.answered ≠ [] ∧ ∀ id ∈ w.expectedIds, id ∈ w.answered
  /-- What was marked had been merged into the driver's state. -/
  merged : ∀ id ∈ w.answered, ∃ m ∈ past, Merges decode id m.before m.input m.after
  /-- False is returned only when the time is up. -/
  time : result = false → w.timeout.getD w.requestTimeout ≤ now - w.begun

omit [Field K] [LinearOrder K] in
/-- A marked id stands for a step of the past. -/
theorem exists_of_mem_answered {since : List (Step K μ)} {id : ℤ} (h : id ∈ answered since) :
    ∃ e ∈ since, e.out = .marked id := by
  obtain ⟨e, he, hid⟩ := List.mem_filterMap.mp h
  exact ⟨e, List.takeWhile_subset _ he, TransactionOut.eq_marked_of_markedId hid⟩

/-- **What a wait comes back with**, in every interleaving of callers and received frames. -/
theorem wait_returns (decode : CANFrame → K → Except PyError (Option (ActuatorState K μ)))
    (driver : ActuatorDriver K μ) (inputs : List (TransactionInput K)) (n : ℕ) (e : Step K μ)
    (thread : ℕ) (result : Bool)
    (he : (trace (transactionStep decode) (.init driver) inputs)[n]? = some e)
    (hout : e.out = .returned thread result) :
    let past := (trace (transactionStep decode) (.init driver) inputs).take n
    (∃ timeout now, e.input = .waitBegin thread timeout now ∧ result = false ∧ NoRequest past) ∨
    ∃ now w, e.input = .waitEnd thread now ∧ Waited decode past thread now result w := by
  intro past
  have hledger : Ledger decode past e.before := ledger_take decode driver he
  have heffect : Effect decode e.before e.input e.after (.returned thread result) := by
    have hstep := effect_step decode e.before e.input
    rwa [← after_eq _ he, ← out_eq _ he, hout] at hstep
  rcases heffect.returned with ⟨timeout, now, hinput, hfalse, hnone⟩ |
    ⟨now, j, timeout, begun, hinput, hwaiting, hevent, htime⟩
  · refine Or.inl ⟨timeout, now, hinput, hfalse, hledger.cleared ?_⟩
    -- a request that stands has an object
    cases hpending : e.before.pending with
    | none => rfl
    | some j =>
        obtain ⟨earlier, start, since, tx, hpast, hstart, hlength⟩ := hledger.pending j hpending
        obtain ⟨hobject, -⟩ := hledger.request earlier start since tx hpast hstart
        rw [hlength, hnone j hpending] at hobject
        cases hobject
  · obtain ⟨earlier, start, between, b, rest, tx, callTimeout, hpast, hstart, hlength, hstanding, hb,
      htimeout, hrest⟩ := hledger.waiting thread j timeout begun hwaiting
    obtain ⟨hobject, -⟩ := hledger.request earlier start _ tx hpast hstart
    obtain ⟨expectedIds, requestTimeout, created, hstarted, rfl⟩ :=
      TransactionInput.eq_start_of_request hstart
    refine Or.inr ⟨now, ⟨earlier, start, between, b, rest, expectedIds, requestTimeout, created,
      callTimeout, begun⟩, hinput, hpast, hstarted, hstanding, hb, hrest, ?_, ?_, ?_⟩
    · rw [← hlength, hobject] at hevent
      rw [← hevent]
      exact (markRx_foldl expectedIds requestTimeout created _).2.2
    · intro id hid
      obtain ⟨m, hm, hmarked⟩ := exists_of_mem_answered hid
      obtain ⟨front, back, hsplit⟩ := List.append_of_mem hm
      have hcut : past = (earlier ++ start :: front) ++ m :: back := by
        rw [hpast, hsplit]
        simp
      obtain ⟨m', hm', hmerged⟩ := hledger.marked _ m back id hcut hmarked
      refine ⟨m', ?_, hmerged⟩
      rw [hcut]
      exact List.mem_append_left _ hm'
    · intro hfalse
      exact htimeout ▸ htime hfalse

end Runs

/-- A frame of id 1 is merged, then a request for the ids 1 and 2 is started, and only then is that frame
marked. -/
def racedRun : List (TransactionInput ℚ) :=
  [.receive ⟨1, []⟩ 1, .start {1, 2} 1 1, .mark, .receive ⟨2, []⟩ 1, .waitBegin 7 none 1, .mark,
    .waitEnd 7 1]

/-- A decoder that takes every frame for feedback without readings. -/
def bareFeedback (_ : CANFrame) (now : ℚ) : Except PyError (Option (ActuatorState ℚ Unit)) :=
  .ok (some { lastFeedbackT := now })

/-- The frame from before the request counts for it. -/
theorem wait_returns_raced :
    ∃ (e : Step ℚ Unit) (now : ℚ) (w : Wait ℚ Unit),
      (trace (transactionStep bareFeedback) (.init .init) racedRun)[6]? = some e ∧
      e.out = .returned 7 true ∧
      Waited bareFeedback ((trace (transactionStep bareFeedback) (.init .init) racedRun).take 6) 7 now true w := by
  obtain ⟨e, he, -⟩ := entry_at (transactionStep bareFeedback) (.init .init) (n := 6)
    (show racedRun[6]? = some _ from rfl)
  have hout : e.out = .returned 7 true := by
    have hmap : ((trace (transactionStep bareFeedback) (.init .init) racedRun)[6]?.map Entry.out) =
        some (.returned 7 true) := by
      decide +kernel
    rw [he] at hmap
    exact Option.some.inj hmap
  rcases wait_returns bareFeedback .init racedRun 6 e 7 true he hout with
    ⟨-, -, -, hfalse, -⟩ | ⟨now, w, -, hwaited⟩
  · cases hfalse
  · exact ⟨e, now, w, he, hout, hwaited⟩

end SparqControl.Hal
