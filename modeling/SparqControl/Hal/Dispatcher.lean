/-
# SparqControl.Hal.Dispatcher — the callback registry of the CAN receivers.

`CANDispatcher` keeps one list of callbacks per CAN id and one of wildcards. Its calls come from
anywhere, the callbacks included: a dispatch takes its SNAPSHOT under the lock and runs the callbacks
outside it, so what they register, remove or clear while running is seen by the next dispatch only.

From outside the registry is one ordered list of registrations in force (`InForce`), and the dictionary
of lists groups it (`Represents`). A callback is a value with an equality of its own, as `list.remove`
uses it; nothing is assumed of that equality. What a callback does is an input (`Reaction`): any calls
on the dispatcher, any change of the rest of the program, and one of three ways to end.
-/
import SparqControl.Hal.CanFrame
import SparqControl.Lib.Multimap
import SparqControl.Lib.Trace
import Mathlib.Data.List.DropRight

namespace SparqControl.Hal

open SparqControl.Lib
open SparqControl.Lib.Multimap
open SparqControl.Lib.Trace

/-! ## The registry -/

/-- `CANDispatcher`, with callbacks of type `κ`. -/
structure CANDispatcher (κ : Type) where
  callbacksById : Dict ℤ (List κ)
  wildcardCallbacks : List κ

/-- `list.remove`: the list without its first element equal to `x`, or a `ValueError`. -/
def listRemove {κ : Type} [BEq κ] (l : List κ) (x : κ) : Except PyError (List κ) :=
  if l.any (· == x) then .ok (l.erase x) else .error (.valueError "list.remove(x): x not in list")

namespace CANDispatcher

variable {κ : Type}

/-- `__init__`. -/
def init : CANDispatcher κ := ⟨Dict.empty, []⟩

/-- `register`. The dictionary is a `defaultdict(list)`: a missing id gets an empty list first. -/
def register (d : CANDispatcher κ) (canId : ℤ) (callback : κ) : CANDispatcher κ :=
  { d with callbacksById :=
      d.callbacksById.insert canId ((d.callbacksById.get? canId).getD [] ++ [callback]) }

/-- `unregister`. The list is changed in place, and the id goes with its last callback. -/
def unregister [BEq κ] (d : CANDispatcher κ) (canId : ℤ) (callback : κ) : CANDispatcher κ :=
  match d.callbacksById.get? canId with
  | none => d
  | some callbacks =>
      match listRemove callbacks callback with
      | .error _ => d
      | .ok rest =>
          if rest.isEmpty then { d with callbacksById := d.callbacksById.erase canId }
          else { d with callbacksById := d.callbacksById.insert canId rest }

/-- `register_wildcard`. -/
def registerWildcard (d : CANDispatcher κ) (callback : κ) : CANDispatcher κ :=
  { d with wildcardCallbacks := d.wildcardCallbacks ++ [callback] }

/-- `unregister_wildcard`. -/
def unregisterWildcard [BEq κ] (d : CANDispatcher κ) (callback : κ) : CANDispatcher κ :=
  match listRemove d.wildcardCallbacks callback with
  | .error _ => d
  | .ok rest => { d with wildcardCallbacks := rest }

/-- `clear`. -/
def clear (_ : CANDispatcher κ) : CANDispatcher κ := ⟨Dict.empty, []⟩

/-- `registered_ids`. -/
def registeredIds (d : CANDispatcher κ) : List ℤ := d.callbacksById.keys

/-- What `dispatch` copies under the lock: the callbacks of the id, then the wildcards. -/
def snapshot (d : CANDispatcher κ) (canId : ℤ) : List κ × List κ :=
  ((d.callbacksById.get? canId).getD [], d.wildcardCallbacks)

/-- The calls that change the registry. -/
inductive Op (κ : Type) where
  | register (canId : ℤ) (callback : κ)
  | unregister (canId : ℤ) (callback : κ)
  | registerWildcard (callback : κ)
  | unregisterWildcard (callback : κ)
  | clear

/-- One call on the registry. -/
def apply [BEq κ] (d : CANDispatcher κ) : Op κ → CANDispatcher κ
  | .register canId callback => d.register canId callback
  | .unregister canId callback => d.unregister canId callback
  | .registerWildcard callback => d.registerWildcard callback
  | .unregisterWildcard callback => d.unregisterWildcard callback
  | .clear => d.clear

/-! ## Dispatch -/

/-- How a callback ends. `except Exception` takes an `Exception`, and lets every other
`BaseException` through: `SystemExit`, `KeyboardInterrupt`, `GeneratorExit`. -/
inductive Outcome where
  | returned
  | raisedException
  | raisedBaseException
  deriving DecidableEq, Repr

/-- What one run of a callback does: the rest of the program after it, the calls made on the
dispatcher meanwhile, in their order, and how it ended. -/
structure Reaction (σ κ : Type) where
  world : σ
  ops : List (Op κ)
  outcome : Outcome

/-- The program around the dispatcher: the registry, the calls made on it so far, and all else. -/
structure Session (σ κ : Type) where
  world : σ
  dispatcher : CANDispatcher κ
  performed : List (Op κ)

variable {σ : Type}

/-- A call on the registry, recorded. -/
def Session.perform [BEq κ] (s : Session σ κ) (op : Op κ) : Session σ κ :=
  { s with dispatcher := s.dispatcher.apply op, performed := s.performed ++ [op] }

/-- A dispatch under way: the callbacks called so far and how they ended, and `called_count`. -/
structure Progress (σ κ : Type) where
  session : Session σ κ
  calls : List (κ × Outcome)
  calledCount : ℕ

/-- The two loops of `dispatch`, which differ in the text they log. An error is a `BaseException`
that leaves the loop. -/
def runCallbacks [BEq κ] (react : κ → CANFrame → σ → CANDispatcher κ → Reaction σ κ)
    (frame : CANFrame) : List κ → Progress σ κ → Except (Progress σ κ) (Progress σ κ)
  | [], p => .ok p
  | callback :: rest, p =>
      let r := react callback frame p.session.world p.session.dispatcher
      let p' : Progress σ κ :=
        { p with
          session := r.ops.foldl Session.perform { p.session with world := r.world }
          calls := p.calls ++ [(callback, r.outcome)] }
      match r.outcome with
      | .returned => runCallbacks react frame rest { p' with calledCount := p.calledCount + 1 }
      | .raisedException => runCallbacks react frame rest p'
      | .raisedBaseException => .error p'

/-- `dispatch`. It returns the `calledCount` it ends with. -/
def dispatch [BEq κ] (react : κ → CANFrame → σ → CANDispatcher κ → Reaction σ κ)
    (s : Session σ κ) (frame : CANFrame) : Except (Progress σ κ) (Progress σ κ) := do
  let (callbacks, wildcards) := s.dispatcher.snapshot frame.canId
  let p ← runCallbacks react frame callbacks ⟨s, [], 0⟩
  runCallbacks react frame wildcards p

/-- What a client calls. -/
inductive Call (κ : Type) where
  | op (op : Op κ)
  | dispatch (frame : CANFrame)

/-- The session a dispatch leaves behind, however it ended. -/
def ended : Except (Progress σ κ) (Progress σ κ) → Session σ κ
  | .ok p => p.session
  | .error p => p.session

/-- One call of a client. A `BaseException` reaches the client with what was done so far. -/
def Session.step [BEq κ] (react : κ → CANFrame → σ → CANDispatcher κ → Reaction σ κ)
    (s : Session σ κ) : Call κ → Session σ κ
  | .op op => s.perform op
  | .dispatch frame => ended (CANDispatcher.dispatch react s frame)

/-- Any calls on a new dispatcher. -/
def Session.run [BEq κ] (react : κ → CANFrame → σ → CANDispatcher κ → Reaction σ κ) (world : σ)
    (history : List (Call κ)) : Session σ κ :=
  history.foldl (Session.step react) ⟨world, init, []⟩

/-! ## The registrations in force -/

/-- What the registry is for: the registrations in force, in the order they were made. -/
structure InForce (κ : Type) where
  byId : List (ℤ × κ)
  wildcards : List κ

/-- What a call does to the registrations in force. A removal takes the first match. -/
def InForce.apply [BEq κ] (regs : InForce κ) : Op κ → InForce κ
  | .register canId callback => { regs with byId := regs.byId ++ [(canId, callback)] }
  | .unregister canId callback => { regs with byId := removeFirst canId callback regs.byId }
  | .registerWildcard callback => { regs with wildcards := regs.wildcards ++ [callback] }
  | .unregisterWildcard callback => { regs with wildcards := regs.wildcards.erase callback }
  | .clear => ⟨[], []⟩

/-- The registrations in force after some calls on a new dispatcher. -/
def inForce [BEq κ] (ops : List (Op κ)) : InForce κ := ops.foldl InForce.apply ⟨[], []⟩

/-- The registrations a frame with this id is for: those of the id, then the wildcards. -/
def InForce.targets (regs : InForce κ) (canId : ℤ) : List κ := under canId regs.byId ++ regs.wildcards

/-- The registry holds the registrations in force. -/
structure Represents (d : CANDispatcher κ) (regs : InForce κ) : Prop where
  groups : Groups d.callbacksById regs.byId
  wildcards : d.wildcardCallbacks = regs.wildcards

section Registry

variable {d : CANDispatcher κ} {regs : InForce κ}

theorem represents_init : Represents (init : CANDispatcher κ) ⟨[], []⟩ := ⟨groups_empty, rfl⟩

variable [BEq κ]

/-- `list.remove` on a list: the first match is gone, or there was none. -/
theorem listRemove_cases (l : List κ) (x : κ) :
    (l.any (· == x) = true ∧ listRemove l x = .ok (l.erase x)) ∨
    (l.any (· == x) = false ∧ ∃ e, listRemove l x = .error e) := by
  unfold listRemove
  cases hany : l.any (· == x) with
  | true => exact Or.inl ⟨rfl, if_pos rfl⟩
  | false => exact Or.inr ⟨rfl, _, if_neg Bool.false_ne_true⟩

/-- A failed removal would have changed nothing. -/
theorem erase_of_any_eq_false {l : List κ} {x : κ} (h : l.any (· == x) = false) : l.erase x = l := by
  rw [List.erase_eq_eraseP', List.eraseP_of_forall_not]
  intro a ha hax
  rw [List.any_eq_false] at h
  exact h a ha hax

omit [BEq κ] in
theorem Represents.register (h : Represents d regs) (canId : ℤ) (callback : κ) :
    Represents (d.register canId callback)
      { regs with byId := regs.byId ++ [(canId, callback)] } := by
  have hself : under canId (regs.byId ++ [(canId, callback)]) = under canId regs.byId ++ [callback] := by
    rw [under_concat, if_pos rfl]
  refine ⟨?_, h.wildcards⟩
  unfold CANDispatcher.register
  simp only [h.groups.getD canId, ← hself]
  apply h.groups.insert
  · rw [hself]
    exact List.append_ne_nil_of_right_ne_nil _ (List.cons_ne_nil _ _)
  · intro j hj
    rw [under_concat, if_neg hj]

/-- A list that keeps nothing equal to the callback is left as it is, and so are the registrations. -/
theorem Represents.of_not_any (h : Represents d regs) {canId : ℤ} {callback : κ}
    (hany : (under canId regs.byId).any (· == callback) = false) :
    Represents d { regs with byId := removeFirst canId callback regs.byId } := by
  have hunder : ∀ j, under j (removeFirst canId callback regs.byId) = under j regs.byId := by
    intro j
    rw [under_removeFirst]
    split
    · rename_i hj
      rw [hj, erase_of_any_eq_false hany]
    · rfl
  refine ⟨?_, h.wildcards⟩
  intro j l
  rw [hunder j]
  exact h.groups j l

theorem Represents.unregister (h : Represents d regs) (canId : ℤ) (callback : κ) :
    Represents (d.unregister canId callback)
      { regs with byId := removeFirst canId callback regs.byId } := by
  have hself : under canId (removeFirst canId callback regs.byId) =
      (under canId regs.byId).erase callback := by
    rw [under_removeFirst, if_pos rfl]
  have hother : ∀ j, j ≠ canId →
      under j (removeFirst canId callback regs.byId) = under j regs.byId := by
    intro j hj
    rw [under_removeFirst, if_neg hj]
  have hgetD := h.groups.getD canId
  unfold CANDispatcher.unregister
  cases hget : d.callbacksById.get? canId with
  | none =>
      rw [hget] at hgetD
      apply h.of_not_any
      rw [← hgetD]
      rfl
  | some callbacks =>
      have hcallbacks : under canId regs.byId = callbacks := ((h.groups canId callbacks).mp hget).2
      rcases listRemove_cases callbacks callback with ⟨-, hremove⟩ | ⟨hany, e, hremove⟩
      · simp only [hremove]
        rw [← hcallbacks, ← hself]
        split
        · rename_i hempty
          exact ⟨h.groups.erase (List.isEmpty_iff.mp hempty) hother, h.wildcards⟩
        · rename_i hempty
          exact ⟨h.groups.insert (fun hnil => hempty (List.isEmpty_iff.mpr hnil)) hother, h.wildcards⟩
      · simp only [hremove]
        apply h.of_not_any
        rw [hcallbacks]
        exact hany

theorem Represents.unregisterWildcard (h : Represents d regs) (callback : κ) :
    Represents (d.unregisterWildcard callback)
      { regs with wildcards := regs.wildcards.erase callback } := by
  unfold CANDispatcher.unregisterWildcard
  rw [h.wildcards]
  rcases listRemove_cases regs.wildcards callback with ⟨-, hremove⟩ | ⟨hany, e, hremove⟩
  · simp only [hremove]
    exact ⟨h.groups, rfl⟩
  · simp only [hremove]
    exact ⟨h.groups, h.wildcards.trans (erase_of_any_eq_false hany).symm⟩

/-- **One call**: the registry and the registrations in force stay together. -/
theorem Represents.apply (h : Represents d regs) (op : Op κ) :
    Represents (d.apply op) (regs.apply op) := by
  cases op with
  | register canId callback => exact h.register canId callback
  | unregister canId callback => exact h.unregister canId callback
  | registerWildcard callback => exact ⟨h.groups, congrArg (· ++ [callback]) h.wildcards⟩
  | unregisterWildcard callback => exact h.unregisterWildcard callback
  | clear => exact represents_init

end Registry

/-! ## Registrations against unregistrations -/

/-- Whether a call removes a registration; `unregister` does not say so. -/
def removes [BEq κ] (d : CANDispatcher κ) : Op κ → Bool
  | .unregister canId callback => ((d.callbacksById.get? canId).getD []).any (· == callback)
  | .unregisterWildcard callback => d.wildcardCallbacks.any (· == callback)
  | _ => false

/-- A call on the registry, with whether it removed a registration. -/
def opStep [BEq κ] (d : CANDispatcher κ) (op : Op κ) : CANDispatcher κ × Bool :=
  (d.apply op, d.removes op)

/-- The record of some calls on a new dispatcher. -/
def recorded [BEq κ] (ops : List (Op κ)) : List (Entry (CANDispatcher κ) (Op κ) Bool) :=
  trace opStep init ops

def Op.isClear : Op κ → Bool
  | .clear => true
  | _ => false

def Op.registers (canId : ℤ) : Op κ → Bool
  | .register id _ => id = canId
  | _ => false

def Op.unregisters (canId : ℤ) : Op κ → Bool
  | .unregister id _ => id = canId
  | _ => false

/-- The calls after the last `clear`. -/
def sinceClear (past : List (Entry (CANDispatcher κ) (Op κ) Bool)) :
    List (Entry (CANDispatcher κ) (Op κ) Bool) :=
  past.rtakeWhile fun e => !e.input.isClear

/-- How often an id was registered. -/
def registrations (canId : ℤ) (past : List (Entry (CANDispatcher κ) (Op κ) Bool)) : ℕ :=
  past.countP fun e => e.input.registers canId

/-- How often an id was unregistered with success. -/
def unregistrations (canId : ℤ) (past : List (Entry (CANDispatcher κ) (Op κ) Bool)) : ℕ :=
  past.countP fun e => e.input.unregisters canId && e.out

section Counts

variable [BEq κ]

theorem inForce_concat (ops : List (Op κ)) (op : Op κ) :
    inForce (ops ++ [op]) = (inForce ops).apply op := by
  simp [inForce]

/-- **The registry over any calls** holds the registrations in force. -/
theorem represents_final (ops : List (Op κ)) : Represents (final opStep init ops) (inForce ops) := by
  induction ops using List.reverseRecOn with
  | nil => exact represents_init
  | append_singleton ops op ih =>
      rw [final_concat, inForce_concat]
      exact ih.apply op

/-- What one call adds to the two counts of an id. -/
theorem counts_concat (past : List (Entry (CANDispatcher κ) (Op κ) Bool)) (d : CANDispatcher κ)
    (canId : ℤ) {op : Op κ} (hclear : op.isClear = false) :
    registrations canId (sinceClear (past ++ [entry opStep d op])) =
        registrations canId (sinceClear past) + (if op.registers canId then 1 else 0) ∧
    unregistrations canId (sinceClear (past ++ [entry opStep d op])) =
        unregistrations canId (sinceClear past) +
          (if op.unregisters canId && d.removes op then 1 else 0) := by
  have hkeep : sinceClear (past ++ [entry opStep d op]) = sinceClear past ++ [entry opStep d op] :=
    List.rtakeWhile_concat_pos _ _ _ (by rw [entry_input, hclear]; rfl)
  rw [hkeep]
  constructor
  · rw [registrations, List.countP_append, List.countP_singleton]
    rfl
  · rw [unregistrations, List.countP_append, List.countP_singleton]
    rfl

/-- What one call other than `clear` does to the number of registrations in force of an id. -/
theorem length_under_apply {d : CANDispatcher κ} {regs : InForce κ} (h : Represents d regs)
    (canId : ℤ) {op : Op κ} (hclear : op.isClear = false) :
    (under canId (regs.apply op).byId).length +
        (if op.unregisters canId && d.removes op then 1 else 0) =
      (under canId regs.byId).length + (if op.registers canId then 1 else 0) := by
  cases op with
  | register id callback =>
      by_cases hid : canId = id
      · subst hid
        simp [InForce.apply, under_concat, Op.registers, Op.unregisters]
      · simp [InForce.apply, under_concat, Op.registers, Op.unregisters, hid, Ne.symm hid]
  | unregister id callback =>
      by_cases hid : canId = id
      · subst hid
        have hgetD := h.groups.getD canId
        simp only [InForce.apply, under_removeFirst, Op.registers, Op.unregisters, removes, hgetD,
          if_true, decide_true, Bool.true_and, List.erase_eq_eraseP', List.length_eraseP]
        cases hany : (under canId regs.byId).any (· == callback) with
        | true =>
            -- a match exists, so there is something to take away
            have hpos : 0 < (under canId regs.byId).length := by
              obtain ⟨a, ha, -⟩ := List.any_eq_true.mp hany
              exact List.length_pos_of_mem ha
            simp only [if_true, Bool.false_eq_true, if_false]
            omega
        | false => simp
      · simp [InForce.apply, under_removeFirst, Op.registers, Op.unregisters, hid, Ne.symm hid]
  | registerWildcard callback => rfl
  | unregisterWildcard callback => rfl
  | clear => cases hclear

/-- The registrations in force of an id are those made since the last `clear` and not taken back. -/
theorem length_under_add_unregistrations (ops : List (Op κ)) (canId : ℤ) :
    (under canId (inForce ops).byId).length + unregistrations canId (sinceClear (recorded ops)) =
      registrations canId (sinceClear (recorded ops)) := by
  induction ops using List.reverseRecOn with
  | nil => rfl
  | append_singleton ops op ih =>
      have hpast : recorded (ops ++ [op]) =
          recorded ops ++ [entry opStep (final opStep init ops) op] := trace_concat _ _ _ _
      rw [hpast, inForce_concat]
      cases hclear : op.isClear with
      | true =>
          have hdrop : sinceClear (recorded ops ++ [entry opStep (final opStep init ops) op]) = [] :=
            List.rtakeWhile_concat_neg _ _ _ (by simp [hclear])
          obtain rfl : op = .clear := by
            cases op with
            | clear => rfl
            | _ => cases hclear
          rw [hdrop]
          rfl
      | false =>
          obtain ⟨hreg, hunreg⟩ := counts_concat (recorded ops) (final opStep init ops) canId hclear
          have hlen := length_under_apply (represents_final ops) canId hclear
          rw [hreg, hunreg]
          omega

/-- **The registered ids**: those registered more often than successfully unregistered since the last
`clear`. -/
theorem mem_registeredIds_iff_counts (ops : List (Op κ)) (canId : ℤ) :
    canId ∈ (final opStep init ops).registeredIds ↔
      unregistrations canId (sinceClear (recorded ops)) <
        registrations canId (sinceClear (recorded ops)) := by
  have hlen := length_under_add_unregistrations ops canId
  rw [registeredIds, (represents_final ops).groups.mem_keys_iff, ← List.length_pos_iff]
  omega

end Counts

/-! ## What a dispatch delivers -/

/-- The loop over `targets` from `start` ended so: it called all of them, each once and in order, none
of which raised more than an `Exception`, and counted those that returned; or it called them up to one
that raised another `BaseException`, and ended there. -/
def Delivers (targets : List κ) (start : Progress σ κ) : Except (Progress σ κ) (Progress σ κ) → Prop
  | .ok p => ∃ new, p.calls = start.calls ++ new ∧ new.map Prod.fst = targets ∧
      (∀ c ∈ new, c.2 ≠ .raisedBaseException) ∧
      p.calledCount = start.calledCount + new.countP fun c => c.2 = .returned
  | .error p => ∃ new callback after, p.calls = start.calls ++ new ++ [(callback, .raisedBaseException)] ∧
      targets = new.map Prod.fst ++ callback :: after ∧ ∀ c ∈ new, c.2 ≠ .raisedBaseException

section Delivery

variable {start p : Progress σ κ}

/-- A call that raised no more than an `Exception`, in front of a loop that goes on after it. -/
theorem Delivers.cons {callback : κ} (outcome : Outcome) {rest : List κ}
    {r : Except (Progress σ κ) (Progress σ κ)} (hcalls : p.calls = start.calls ++ [(callback, outcome)])
    (houtcome : outcome ≠ .raisedBaseException)
    (hcount : p.calledCount = start.calledCount + if outcome = .returned then 1 else 0)
    (h : Delivers rest p r) : Delivers (callback :: rest) start r := by
  cases r with
  | ok q =>
      obtain ⟨new, hq, htargets, hbase, hqcount⟩ := h
      refine ⟨(callback, outcome) :: new, ?_, ?_, ?_, ?_⟩
      · rw [hq, hcalls, List.append_assoc, List.singleton_append]
      · rw [List.map_cons, htargets]
      · intro c hc
        rcases List.mem_cons.mp hc with rfl | hc
        · exact houtcome
        · exact hbase c hc
      · rw [hqcount, hcount, List.countP_cons]
        simp only [decide_eq_true_eq]
        omega
  | error q =>
      obtain ⟨new, last, after, hq, htargets, hbase⟩ := h
      refine ⟨(callback, outcome) :: new, last, after, ?_, ?_, ?_⟩
      · rw [hq, hcalls]
        simp only [List.append_assoc, List.singleton_append]
      · rw [List.map_cons, htargets, List.cons_append]
      · intro c hc
        rcases List.mem_cons.mp hc with rfl | hc
        · exact houtcome
        · exact hbase c hc

/-- Two loops in a row. -/
theorem Delivers.bind {first second : List κ} {r : Except (Progress σ κ) (Progress σ κ)}
    {next : Progress σ κ → Except (Progress σ κ) (Progress σ κ)} (h : Delivers first start r)
    (hnext : ∀ p, Delivers second p (next p)) : Delivers (first ++ second) start (r >>= next) := by
  cases r with
  | error p =>
      obtain ⟨new, callback, after, hp, htargets, hbase⟩ := h
      exact ⟨new, callback, after ++ second, hp, by rw [htargets]; simp, hbase⟩
  | ok p =>
      obtain ⟨new, hp, htargets, hbase, hcount⟩ := h
      show Delivers (first ++ second) start (next p)
      have hsecond := hnext p
      cases hq : next p with
      | ok q =>
          rw [hq] at hsecond
          obtain ⟨new', hq, htargets', hbase', hcount'⟩ := hsecond
          refine ⟨new ++ new', ?_, ?_, ?_, ?_⟩
          · rw [hq, hp, List.append_assoc]
          · rw [List.map_append, htargets, htargets']
          · intro c hc
            exact (List.mem_append.mp hc).elim (hbase c) (hbase' c)
          · rw [hcount', hcount, List.countP_append]
            omega
      | error q =>
          rw [hq] at hsecond
          obtain ⟨new', callback, after, hq, htargets', hbase'⟩ := hsecond
          refine ⟨new ++ new', callback, after, ?_, ?_, ?_⟩
          · rw [hq, hp]
            simp only [List.append_assoc]
          · rw [List.map_append, htargets', htargets, List.append_assoc]
          · intro c hc
            exact (List.mem_append.mp hc).elim (hbase c) (hbase' c)

variable [BEq κ] (react : κ → CANFrame → σ → CANDispatcher κ → Reaction σ κ) (frame : CANFrame)

/-- **One loop** delivers to the list it was given, whatever the callbacks do to the registry. -/
theorem runCallbacks_delivers (targets : List κ) (start : Progress σ κ) :
    Delivers targets start (runCallbacks react frame targets start) := by
  induction targets generalizing start with
  | nil => exact ⟨[], by simp, rfl, by simp, rfl⟩
  | cons callback rest ih =>
      unfold runCallbacks
      generalize react callback frame start.session.world start.session.dispatcher = r
      obtain ⟨world, ops, outcome⟩ := r
      cases outcome with
      | returned =>
          refine Delivers.cons .returned ?_ ?_ ?_ (ih _)
          · rfl
          · simp
          · rfl
      | raisedException =>
          refine Delivers.cons .raisedException ?_ ?_ ?_ (ih _)
          · rfl
          · simp
          · rfl
      | raisedBaseException => exact ⟨[], callback, rest, by simp, rfl, by simp⟩

theorem dispatch_delivers (s : Session σ κ) :
    Delivers ((s.dispatcher.snapshot frame.canId).1 ++ (s.dispatcher.snapshot frame.canId).2)
      ⟨s, [], 0⟩ (dispatch react s frame) :=
  (runCallbacks_delivers react frame _ _).bind fun p => runCallbacks_delivers react frame _ p

end Delivery

/-! ## Whole histories -/

section History

variable [BEq κ]

/-- The registry is what the recorded calls make of a new one. -/
def Session.Consistent (s : Session σ κ) : Prop := s.dispatcher = final opStep init s.performed

theorem Session.Consistent.perform {s : Session σ κ} (h : s.Consistent) (op : Op κ) :
    (s.perform op).Consistent := by
  unfold Session.Consistent Session.perform
  rw [final_concat, ← h]
  rfl

theorem Session.Consistent.performAll {s : Session σ κ} (h : s.Consistent) (ops : List (Op κ)) :
    (ops.foldl Session.perform s).Consistent := by
  induction ops generalizing s with
  | nil => exact h
  | cons op ops ih => exact ih (h.perform op)

variable (react : κ → CANFrame → σ → CANDispatcher κ → Reaction σ κ)

theorem runCallbacks_consistent (frame : CANFrame) (targets : List κ) (start : Progress σ κ)
    (h : start.session.Consistent) :
    (ended (runCallbacks react frame targets start)).Consistent := by
  induction targets generalizing start with
  | nil => exact h
  | cons callback rest ih =>
      unfold runCallbacks
      generalize react callback frame start.session.world start.session.dispatcher = r
      obtain ⟨world, ops, outcome⟩ := r
      have hnext : (ops.foldl Session.perform { start.session with world := world }).Consistent :=
        Session.Consistent.performAll (s := { start.session with world := world }) h ops
      cases outcome with
      | returned => exact ih _ hnext
      | raisedException => exact ih _ hnext
      | raisedBaseException => exact hnext

theorem dispatch_consistent {s : Session σ κ} (h : s.Consistent) (frame : CANFrame) :
    (ended (dispatch react s frame)).Consistent := by
  have hfirst := runCallbacks_consistent react frame (s.dispatcher.snapshot frame.canId).1 ⟨s, [], 0⟩ h
  unfold dispatch
  simp only
  cases hr : runCallbacks react frame (s.dispatcher.snapshot frame.canId).1 ⟨s, [], 0⟩ with
  | error p =>
      rw [hr] at hfirst
      exact hfirst
  | ok p =>
      rw [hr] at hfirst
      exact runCallbacks_consistent react frame _ p hfirst

theorem Session.Consistent.step {s : Session σ κ} (h : s.Consistent) (call : Call κ) :
    (s.step react call).Consistent := by
  cases call with
  | op op => exact h.perform op
  | dispatch frame => exact dispatch_consistent react h frame

theorem Session.run_consistent (world : σ) (history : List (Call κ)) :
    (Session.run react world history).Consistent := by
  unfold Session.run
  induction history using List.reverseRecOn with
  | nil => rfl
  | append_singleton history call ih =>
      rw [List.foldl_concat]
      exact ih.step react call

/-- **Every dispatch delivers exactly once.** After any calls of clients and callbacks, the registered
ids are those with more registrations than successful unregistrations since the last `clear`, and a
dispatch is a delivery to the registrations in force when it starts: those of the frame's id in their
order, then the wildcards in theirs. It returns how many of them did not raise; only a `BaseException`
that is no `Exception` ends it early. -/
theorem run_delivers (world : σ) (history : List (Call κ)) :
    let s := Session.run react world history
    s.dispatcher.registeredIds.Nodup ∧
    (∀ canId, canId ∈ s.dispatcher.registeredIds ↔
      unregistrations canId (sinceClear (recorded s.performed)) <
        registrations canId (sinceClear (recorded s.performed))) ∧
    ∀ frame, Delivers ((inForce s.performed).targets frame.canId) ⟨s, [], 0⟩ (dispatch react s frame) := by
  intro s
  have hs : s.dispatcher = final opStep init s.performed := Session.run_consistent react world history
  have hrep : Represents s.dispatcher (inForce s.performed) := by
    rw [hs]
    exact represents_final s.performed
  refine ⟨s.dispatcher.callbacksById.keys_nodup, ?_, ?_⟩
  · intro canId
    rw [hs]
    exact mem_registeredIds_iff_counts s.performed canId
  · intro frame
    have h := dispatch_delivers react frame s
    have htargets : (inForce s.performed).targets frame.canId =
        (s.dispatcher.snapshot frame.canId).1 ++ (s.dispatcher.snapshot frame.canId).2 := by
      unfold InForce.targets snapshot
      rw [hrep.groups.getD, hrep.wildcards]
    rw [htargets]
    exact h

end History

/-- A callback that leaves the program, and any other. -/
def exits (callback : ℕ) (_ : CANFrame) (_ : Unit) (_ : CANDispatcher ℕ) : Reaction Unit ℕ where
  world := ()
  ops := []
  outcome := if callback = 0 then .raisedBaseException else .returned

/-- **A callback that raises `SystemExit` is not isolated**: of two registrations for the frame's id the
second is never called, and the dispatch does not return. -/
theorem run_delivers_baseException :
    let s := Session.run exits () [.op (.register 5 0), .op (.register 5 1)]
    (inForce s.performed).targets 5 = [0, 1] ∧
    (∃ p, dispatch exits s ⟨5, []⟩ = .error p ∧ p.calls = [(0, .raisedBaseException)]) ∧
    ¬ ∃ p, dispatch exits s ⟨5, []⟩ = .ok p := by
  refine ⟨rfl, ⟨_, rfl, rfl⟩, ?_⟩
  rintro ⟨p, hp⟩
  cases hp

end CANDispatcher

end SparqControl.Hal
