/-
# SparqControl.Controller.Mailbox — operators and the controller around one slot.

The operators' writes and the controller's ticks interleave freely over one shared segment. A
publish overwrites the record, a tick polls it; nothing is queued and nothing is acknowledged. What
the deduplication by timestamp does guarantee is that a published command reaches the state machine
AT MOST ONCE and in publish order. What it cannot guarantee is that it reaches it at all: a command
that is overwritten before a tick reads the slot, or that carries the timestamp consumed last, is
gone.
-/
import SparqControl.Controller.EstopLatch

namespace SparqControl.Controller

open SparqControl.Hal SparqControl.Shm
open SparqControl.Lib.Trace
open ControllerStateMachine (nextMode commandCode)

/-! ## The world: segment and controller -/

/-- The shared segment and the controller that polls it. -/
structure World (K : Type) [Field K] [LinearOrder K] where
  shm : OperatorCommandShm
  controller : ControllerState K

namespace World

variable {K : Type} [Field K] [LinearOrder K]

/-- The mode the controller is in. -/
def mode (w : World K) : ControllerMode := w.controller.stateMachine.mode

/-- The clock value at which the controller entered its mode. -/
def modeEnterTime (w : World K) : K := w.controller.stateMachine.modeEnterTime

end World

/-- One atomic event: a publish of some writer, or a tick. -/
inductive WorldEvent (K : Type) where
  | publish (timeNs code targetMask : ℤ)
  | publishZeroSet (timeNs : ℤ) (targets : List (ℤ × ℤ))
  | tick (env : TickEnv K)

/-- What an event returns: the publish's result or the tick's outcome. -/
inductive WorldOut where
  | published (result : Except PyError UInt64)
  | ticked (outcome : TickOutcome)

namespace WorldEvent

variable {K : Type}

/-- The record a publish writes, if it writes one. -/
def written? : WorldEvent K → Option OperatorCommandC
  | publish timeNs code targetMask =>
      (OperatorCommandShm.buildCommand timeNs code targetMask []).toOption
  | publishZeroSet timeNs targets =>
      (OperatorCommandShm.buildCommand timeNs OperatorCommandCode.zeroSet.value 0 targets).toOption
  | tick _ => none

/-- The event writes a command with this code. -/
def Writes (ev : WorldEvent K) (code : OperatorCommandCode) : Prop :=
  ev.written?.bind OperatorCommandC.code? = some code

instance (ev : WorldEvent K) (code : OperatorCommandCode) : Decidable (ev.Writes code) :=
  inferInstanceAs (Decidable (_ = _))

/-- The clock value of a tick. -/
def now? : WorldEvent K → Option K
  | tick env => some env.now
  | _ => none

end WorldEvent

section World

variable {K : Type} [Field K] [LinearOrder K] [IsStrictOrderedRing K] [FloorRing K]

/-- One event of the world. -/
def worldStep (cfg : RobotControllerConfig K) (w : World K) :
    WorldEvent K → World K × WorldOut
  | .publish timeNs code targetMask =>
      let (shm, result) := w.shm.publish timeNs code targetMask
      ({ w with shm := shm }, .published result)
  | .publishZeroSet timeNs targets =>
      let (shm, result) := w.shm.publishZeroSet timeNs targets
      ({ w with shm := shm }, .published result)
  | .tick env =>
      let (controller, outcome) := tick cfg w.controller ⟨env, w.shm⟩
      ({ w with controller := controller }, .ticked outcome)

/-- One recorded event. -/
abbrev WorldEntry (K : Type) [Field K] [LinearOrder K] := Entry (World K) (WorldEvent K) WorldOut

/-- A recorded interleaving. -/
def worldRun (cfg : RobotControllerConfig K) (w : World K) (events : List (WorldEvent K)) :
    List (WorldEntry K) :=
  trace (worldStep cfg) w events

/-- The slot after an event holds what the event wrote, else what it held before. -/
theorem readRelaxed_worldStep (cfg : RobotControllerConfig K) (w : World K) (ev : WorldEvent K) :
    (worldStep cfg w ev).1.shm.readRelaxed = ev.written?.getD w.shm.readRelaxed := by
  cases ev with
  | publish timeNs code targetMask =>
      simp only [worldStep, WorldEvent.written?, OperatorCommandShm.publish]
      cases OperatorCommandShm.buildCommand timeNs code targetMask [] with
      | error e => rfl
      | ok c => exact OperatorCommandShm.readRelaxed_write w.shm c
  | publishZeroSet timeNs targets =>
      simp only [worldStep, WorldEvent.written?, OperatorCommandShm.publishZeroSet]
      cases OperatorCommandShm.buildCommand timeNs OperatorCommandCode.zeroSet.value 0 targets with
      | error e => rfl
      | ok c => exact OperatorCommandShm.readRelaxed_write w.shm c
  | tick env => rfl

/-- A publish does not touch the controller. -/
theorem controller_worldStep (cfg : RobotControllerConfig K) (w : World K) (ev : WorldEvent K) :
    (∃ env, ev = .tick env ∧
      (worldStep cfg w ev).1.controller = (tick cfg w.controller ⟨env, w.shm⟩).1) ∨
    (ev.now? = none ∧ (worldStep cfg w ev).1.controller = w.controller) := by
  cases ev with
  | publish timeNs code targetMask => exact Or.inr ⟨rfl, rfl⟩
  | publishZeroSet timeNs targets => exact Or.inr ⟨rfl, rfl⟩
  | tick env => exact Or.inl ⟨env, rfl, rfl⟩

/-! ## What reaches the state machine -/

/-- The command that reaches `update` at an event with a valid code other than `NONE`. -/
def reached (cfg : RobotControllerConfig K) (w : World K) : WorldEvent K → Option OperatorCommandC
  | .tick env =>
      if readsSlot cfg ⟨env, w.shm⟩ then
        let op := (consumeOperatorCommand w.controller w.shm.readRelaxed).2
        if commandCode (some op) = .none then none else some op
      else none
  | _ => none

omit [IsStrictOrderedRing K] [FloorRing K] in
/-- What reaches `update` is the slot's own record, exactly when the tick consumes its code. -/
theorem reached_tick (cfg : RobotControllerConfig K) (w : World K) (env : TickEnv K) :
    reached cfg w (.tick env) =
      if (consumedCode cfg w.controller ⟨env, w.shm⟩).isSome then some w.shm.readRelaxed
      else none := by
  obtain ⟨-, hcode, -, hsame⟩ := consumeOperatorCommand_spec w.controller w.shm.readRelaxed
  simp only [reached, consumedCode]
  by_cases hreads : readsSlot cfg ⟨env, w.shm⟩ = true
  · rw [if_pos hreads, if_pos hreads, hcode]
    cases hf : freshCode w.controller w.shm.readRelaxed with
    | none => rfl
    | some code =>
        rw [hsame (by rw [hf]; rfl)]
        exact if_neg (freshCode_eq_some_iff.mp hf).2.1
  · rw [if_neg hreads, if_neg hreads]
    rfl

omit [IsStrictOrderedRing K] [FloorRing K] in
/-- A tick that reaches `update` with nothing consumed nothing. -/
theorem consumedCode_of_not_reached {cfg : RobotControllerConfig K} {w : World K} {env : TickEnv K}
    (h : reached cfg w (.tick env) = none) : consumedCode cfg w.controller ⟨env, w.shm⟩ = none := by
  rw [reached_tick] at h
  cases hc : consumedCode cfg w.controller ⟨env, w.shm⟩ with
  | none => rfl
  | some code => rw [hc] at h; cases h

/-- Right after an event the slot is fresh only if the event wrote it, or it was fresh before and
the event did not let it reach `update`. -/
theorem isSome_freshCode_worldStep {cfg : RobotControllerConfig K} {w : World K}
    {ev : WorldEvent K}
    (h : (freshCode (worldStep cfg w ev).1.controller
      (worldStep cfg w ev).1.shm.readRelaxed).isSome) :
    ev.written?.isSome ∨
      (reached cfg w ev = none ∧ (freshCode w.controller w.shm.readRelaxed).isSome) := by
  obtain ⟨code, hcode⟩ := Option.isSome_iff_exists.mp h
  rw [readRelaxed_worldStep] at hcode
  cases hw : ev.written? with
  | some c => exact Or.inl rfl
  | none =>
      refine Or.inr ?_
      rw [hw, Option.getD_none, freshCode_eq_some_iff] at hcode
      obtain ⟨hvalid, hne, hts⟩ := hcode
      cases ev with
      | publish timeNs code' targetMask =>
          exact ⟨rfl, Option.isSome_iff_exists.mpr ⟨code, freshCode_eq_some_iff.mpr
            ⟨hvalid, hne, hts⟩⟩⟩
      | publishZeroSet timeNs targets =>
          exact ⟨rfl, Option.isSome_iff_exists.mpr ⟨code, freshCode_eq_some_iff.mpr
            ⟨hvalid, hne, hts⟩⟩⟩
      | tick env =>
          -- a tick that consumed would have left the slot's own timestamp behind
          have hlast := tick_lastConsumed cfg w.controller ⟨env, w.shm⟩
          rw [reached_tick]
          split
          · rename_i hsome
            rw [if_pos hsome] at hlast
            exact absurd hlast.symm hts
          · rename_i hsome
            rw [if_neg hsome] at hlast
            refine ⟨rfl, Option.isSome_iff_exists.mpr ⟨code, freshCode_eq_some_iff.mpr
              ⟨hvalid, hne, ?_⟩⟩⟩
            rw [← hlast]
            exact hts

/-- The commands published in a recorded run, in order. -/
def published (tr : List (WorldEntry K)) : List OperatorCommandC :=
  tr.filterMap fun e => e.input.written?

/-- The commands that reached the state machine in a recorded run, in order. -/
def reachedCommands (cfg : RobotControllerConfig K) (tr : List (WorldEntry K)) :
    List OperatorCommandC :=
  tr.filterMap fun e => reached cfg e.before e.input

omit [IsStrictOrderedRing K] [FloorRing K] in
theorem published_concat (tr : List (WorldEntry K)) (e : WorldEntry K) :
    published (tr ++ [e]) = published tr ++ e.input.written?.toList :=
  filterMap_concat _ tr e

omit [IsStrictOrderedRing K] [FloorRing K] in
theorem reachedCommands_concat (cfg : RobotControllerConfig K) (tr : List (WorldEntry K))
    (e : WorldEntry K) :
    reachedCommands cfg (tr ++ [e]) =
      reachedCommands cfg tr ++ (reached cfg e.before e.input).toList :=
  filterMap_concat _ tr e

omit [IsStrictOrderedRing K] [FloorRing K] in
/-- What reaches `update` was fresh in the slot, and its event wrote nothing. -/
theorem fresh_of_reached {cfg : RobotControllerConfig K} {w : World K} {ev : WorldEvent K}
    {c : OperatorCommandC} (h : reached cfg w ev = some c) :
    c = w.shm.readRelaxed ∧ (freshCode w.controller w.shm.readRelaxed).isSome ∧
      ev.written? = none := by
  cases ev with
  | publish timeNs code targetMask => cases h
  | publishZeroSet timeNs targets => cases h
  | tick env =>
      rw [reached_tick] at h
      split at h
      · rename_i hsome
        refine ⟨(Option.some.inj h).symm, ?_, rfl⟩
        unfold consumedCode at hsome
        split at hsome
        · exact hsome
        · cases hsome
      · cases h

/-- The mailbox invariant: what has reached the state machine is a subsequence of what was
published, and a slot that is still fresh holds the last publish, which has not reached it. -/
def MailboxInv (cfg : RobotControllerConfig K) (tr : List (WorldEntry K)) (w : World K) : Prop :=
  (reachedCommands cfg tr).Sublist (published tr) ∧
    ((freshCode w.controller w.shm.readRelaxed).isSome →
      ∃ ps, published tr = ps ++ [w.shm.readRelaxed] ∧ (reachedCommands cfg tr).Sublist ps)

theorem mailboxInv_step (cfg : RobotControllerConfig K) (tr : List (WorldEntry K)) (w : World K)
    (ev : WorldEvent K) (h : MailboxInv cfg tr w) :
    MailboxInv cfg (tr ++ [entry (worldStep cfg) w ev]) (worldStep cfg w ev).1 := by
  obtain ⟨hsub, hfresh⟩ := h
  unfold MailboxInv
  rw [published_concat, reachedCommands_concat, readRelaxed_worldStep]
  cases hr : reached cfg w ev with
  | some c =>
      -- the fresh slot is consumed, and is not fresh any more
      obtain ⟨rfl, hbefore, hnone⟩ := fresh_of_reached hr
      obtain ⟨ps, hps, hsub'⟩ := hfresh hbefore
      have hslot : (worldStep cfg w ev).1.shm.readRelaxed = w.shm.readRelaxed := by
        rw [readRelaxed_worldStep, hnone]
        rfl
      simp only [entry_before, entry_input, hr, hnone, Option.toList_some, Option.toList_none,
        List.append_nil, Option.getD_none]
      refine ⟨?_, fun hafter => ?_⟩
      · rw [hps]
        exact hsub'.append (List.Sublist.refl _)
      · rw [← hslot] at hafter
        rcases isSome_freshCode_worldStep hafter with hw | ⟨hnot, -⟩
        · rw [hnone] at hw; cases hw
        · rw [hr] at hnot; cases hnot
  | none =>
      -- nothing was consumed: the slot is fresh because the event wrote it, or still
      simp only [entry_before, entry_input, hr, Option.toList_none, List.append_nil]
      refine ⟨hsub.trans (List.sublist_append_left _ _), fun hafter => ?_⟩
      rw [← readRelaxed_worldStep cfg w ev] at hafter
      cases hw : ev.written? with
      | some c => exact ⟨published tr, rfl, hsub⟩
      | none =>
          rcases isSome_freshCode_worldStep hafter with hw' | ⟨-, hbefore⟩
          · rw [hw] at hw'; cases hw'
          · rw [Option.toList_none, List.append_nil, Option.getD_none]
            exact hfresh hbefore

/-- **At most once, in order.** From a cleared segment, what reaches the state machine is a
subsequence of what was published. -/
theorem reached_sublist_published (cfg : RobotControllerConfig K) (shm : OperatorCommandShm)
    (c0 : ControllerState K) (events : List (WorldEvent K)) :
    (reachedCommands cfg (worldRun cfg ⟨shm.clear, c0⟩ events)).Sublist
      (published (worldRun cfg ⟨shm.clear, c0⟩ events)) := by
  -- a cleared slot reads as NONE, which is never fresh
  have h0 : MailboxInv cfg [] ⟨shm.clear, c0⟩ := by
    refine ⟨List.Sublist.refl _, fun h => ?_⟩
    obtain ⟨code, hcode⟩ := Option.isSome_iff_exists.mp h
    rw [OperatorCommandShm.readRelaxed_clear, freshCode_eq_some_iff] at hcode
    exact absurd (Option.some.inj hcode.1).symm hcode.2.1
  exact (trace_history_all (worldStep cfg) h0 (mailboxInv_step cfg) events).1

/-! ## Mode changes -/

/-- An event that leaves the mode leaves the enter time. -/
theorem worldStep_modeEnterTime {cfg : RobotControllerConfig K} {w : World K} {ev : WorldEvent K}
    (h : w.mode = (worldStep cfg w ev).1.mode) :
    w.modeEnterTime = (worldStep cfg w ev).1.modeEnterTime := by
  unfold World.mode at h
  unfold World.modeEnterTime
  rcases controller_worldStep cfg w ev with ⟨env, -, hc⟩ | ⟨-, hc⟩
  · rw [hc] at h ⊢
    exact (tick_modeEnterTime_of_same h.symm).symm
  · rw [hc]

/-- An event that changes the mode is a tick, takes a step of the table and sets the enter time. -/
theorem worldStep_mode_change {cfg : RobotControllerConfig K} {w : World K} {ev : WorldEvent K}
    (h : w.mode ≠ (worldStep cfg w ev).1.mode) :
    ∃ env, ev = .tick env ∧ (worldStep cfg w ev).1.modeEnterTime = env.now ∧
      (worldStep cfg w ev).1.mode =
        nextMode w.mode ((consumedCode cfg w.controller ⟨env, w.shm⟩).getD .none)
          (dwellOver w.controller ⟨env, w.shm⟩) := by
  unfold World.mode at h
  unfold World.mode World.modeEnterTime
  rcases controller_worldStep cfg w ev with ⟨env, hev, hc⟩ | ⟨-, hc⟩
  · rw [hc] at h ⊢
    obtain ⟨hmode, htime⟩ := tick_mode_change h
    exact ⟨env, hev, htime, hmode⟩
  · rw [hc] at h
    exact absurd rfl h

/-- The stamp rule for the enter time. -/
theorem worldRun_stamp {cfg : RobotControllerConfig K} {w : World K}
    {events : List (WorldEvent K)} {n : ℕ} {en : WorldEntry K}
    (hn : (worldRun cfg w events)[n]? = some en) :
    (∃ m em, m ≤ n ∧ (worldRun cfg w events)[m]? = some em ∧ em.before.mode ≠ em.after.mode ∧
      (∀ k ek, m < k → k ≤ n → (worldRun cfg w events)[k]? = some ek →
        ek.before.mode = ek.after.mode) ∧
      em.input.now? = some en.after.modeEnterTime) ∨
    ((∀ k ek, k ≤ n → (worldRun cfg w events)[k]? = some ek → ek.before.mode = ek.after.mode) ∧
      en.after.modeEnterTime = w.modeEnterTime) := by
  refine trace_stamp (fun w ev h => worldStep_modeEnterTime h) (fun w ev h => ?_) hn
  obtain ⟨env, rfl, htime, -⟩ := worldStep_mode_change h
  rw [htime]
  rfl

/-- The only rows that leave a mode without a command. -/
theorem nextMode_none_change {mode : ControllerMode} {dwellOver : Bool}
    (h : mode ≠ nextMode mode .none dwellOver) :
    (mode = .zeroSetting ∧ nextMode mode .none dwellOver = .disabled) ∨
      (mode = .enabling ∧ dwellOver = true ∧ nextMode mode .none dwellOver = .damping) := by
  cases mode <;> cases dwellOver <;> simp_all [nextMode]

theorem worldRun_enableDurationS {cfg : RobotControllerConfig K} {w : World K}
    {events : List (WorldEvent K)} {e : WorldEntry K} (he : e ∈ worldRun cfg w events) :
    e.before.controller.stateMachine.enableDurationS =
      w.controller.stateMachine.enableDurationS := by
  have hstep : ∀ (v : World K) (ev : WorldEvent K),
      v.controller.stateMachine.enableDurationS = w.controller.stateMachine.enableDurationS →
        (worldStep cfg v ev).1.controller.stateMachine.enableDurationS =
          w.controller.stateMachine.enableDurationS := by
    intro v ev hv
    rcases controller_worldStep cfg v ev with ⟨env, -, hc⟩ | ⟨-, hc⟩
    · rw [hc, tick_enableDurationS, hv]
    · rw [hc, hv]
  exact (trace_invariant hstep rfl events e he).1

/-- A mode change no command explains: ZERO_SETTING to DISABLED, or ENABLING to DAMPING once the
dwell since the tick that entered ENABLING is over. -/
theorem unexplained_change {cfg : RobotControllerConfig K} {w : World K}
    {events : List (WorldEvent K)} {n : ℕ} {en : WorldEntry K} (hw : w.mode ≠ .enabling)
    (hn : (worldRun cfg w events)[n]? = some en) (hnone : reached cfg en.before en.input = none)
    (hchange : en.before.mode ≠ en.after.mode) :
    (en.before.mode = .zeroSetting ∧ en.after.mode = .disabled) ∨
    (en.before.mode = .enabling ∧ en.after.mode = .damping ∧
      ∃ m em tm tn, m < n ∧ (worldRun cfg w events)[m]? = some em ∧
        em.before.mode ≠ .enabling ∧ em.after.mode = .enabling ∧
        (∀ k ek, m < k → k < n → (worldRun cfg w events)[k]? = some ek →
          ek.after.mode = .enabling) ∧
        em.input.now? = some tm ∧ en.input.now? = some tn ∧
        w.controller.stateMachine.enableDurationS ≤ tn - tm) := by
  rw [after_eq _ hn] at hchange
  obtain ⟨env, hev, -, hmode⟩ := worldStep_mode_change hchange
  rw [hev] at hnone
  rw [consumedCode_of_not_reached hnone, Option.getD_none] at hmode
  rw [hmode] at hchange
  have hafter : en.after.mode = nextMode en.before.mode .none
      (dwellOver en.before.controller ⟨env, en.before.shm⟩) := by
    rw [after_eq _ hn, hmode]
  rcases nextMode_none_change hchange with ⟨hz, hd⟩ | ⟨hb, hdwell, hd⟩
  · exact Or.inl ⟨hz, hafter.trans hd⟩
  · refine Or.inr ⟨hb, hafter.trans hd, ?_⟩
    -- ENABLING was entered at an earlier event, whose clock value is still the enter time
    obtain ⟨n', rfl⟩ : ∃ n', n = n' + 1 := by
      cases n with
      | zero => rw [before_zero hn] at hb; exact absurd hb hw
      | succ n' => exact ⟨n', rfl⟩
    obtain ⟨e', he', hshared⟩ := exists_previous hn
    have hb' : e'.after.mode = .enabling := by rw [← hshared]; exact hb
    rcases worldRun_stamp he' with ⟨m, em, hm, hem, hmoved, hkeep, htime⟩ | ⟨hnever, -⟩
    · have hstay : ∀ k ek, m ≤ k → k ≤ n' → (worldRun cfg w events)[k]? = some ek →
          ek.after.mode = .enabling := by
        intro k ek hmk hk hek
        rw [← hb']
        exact (trace_unchanged (f := World.mode) hek hk he' fun l el hl hl' hel =>
          hkeep l el (by omega) hl' hel).symm
      have henter : em.after.mode = .enabling := hstay m em (Nat.le_refl _) hm hem
      refine ⟨m, em, e'.after.modeEnterTime, env.now, by omega, hem, ?_, henter,
        fun k ek hmk hk hek => hstay k ek (by omega) (by omega) hek, htime, by rw [hev]; rfl, ?_⟩
      · rw [henter] at hmoved
        exact hmoved
      · have hd' := of_decide_eq_true hdwell
        rw [worldRun_enableDurationS (List.mem_of_getElem? hn)] at hd'
        rw [← hshared]
        exact hd'
    · exact absurd (hb'.symm.trans (trace_unchanged_start (f := World.mode) he' hnever)).symm hw

/-- **One-shot commands and explained mode changes**, over every interleaving that starts from a
cleared segment and a controller that is DISABLED. What reaches the state machine is a
subsequence of what was published, each publish at most once; a mode change no command explains is
one of two; and the enter time is the clock value of the latest tick that changed the mode. -/
theorem one_shot_commands (cfg : RobotControllerConfig K) (shm : OperatorCommandShm)
    (c0 : ControllerState K) (events : List (WorldEvent K))
    (h0 : c0.stateMachine.mode = .disabled) :
    let tr := worldRun cfg ⟨shm.clear, c0⟩ events
    ((reachedCommands cfg tr).Sublist (published tr) ∧
      (((published tr).map (·.timestampNs)).Nodup →
        ((reachedCommands cfg tr).map (·.timestampNs)).Nodup)) ∧
    (∀ (n : ℕ) (en : WorldEntry K), tr[n]? = some en → reached cfg en.before en.input = none →
      en.before.mode ≠ en.after.mode →
        (en.before.mode = .zeroSetting ∧ en.after.mode = .disabled) ∨
        (en.before.mode = .enabling ∧ en.after.mode = .damping ∧
          ∃ (m : ℕ) (em : WorldEntry K) (tm tn : K), m < n ∧ tr[m]? = some em ∧
            em.before.mode ≠ .enabling ∧ em.after.mode = .enabling ∧
            (∀ (k : ℕ) (ek : WorldEntry K), m < k → k < n → tr[k]? = some ek →
              ek.after.mode = .enabling) ∧
            em.input.now? = some tm ∧ en.input.now? = some tn ∧
            c0.stateMachine.enableDurationS ≤ tn - tm)) ∧
    (∀ (n : ℕ) (en : WorldEntry K), tr[n]? = some en →
      (∃ (m : ℕ) (em : WorldEntry K), m ≤ n ∧ tr[m]? = some em ∧ em.before.mode ≠ em.after.mode ∧
        (∀ (k : ℕ) (ek : WorldEntry K), m < k → k ≤ n → tr[k]? = some ek →
          ek.before.mode = ek.after.mode) ∧
        em.input.now? = some en.after.modeEnterTime) ∨
      ((∀ (k : ℕ) (ek : WorldEntry K), k ≤ n → tr[k]? = some ek →
          ek.before.mode = ek.after.mode) ∧
        en.after.modeEnterTime = c0.stateMachine.modeEnterTime)) := by
  intro tr
  have hsub := reached_sublist_published cfg shm c0 events
  refine ⟨⟨hsub, fun hnodup => hnodup.sublist (hsub.map _)⟩, ?_, ?_⟩
  · intro n en hn hnone hchange
    refine unexplained_change ?_ hn hnone hchange
    rw [World.mode, h0]
    decide
  · intro n en hn
    exact worldRun_stamp hn

/-! ## ESTOP through the mailbox -/

/-- As long as no event writes RESET_FAULT, a slot that does not hold one keeps not holding one. -/
theorem slot_ne_reset_step {cfg : RobotControllerConfig K} {w : World K} {ev : WorldEvent K}
    (h : w.shm.readRelaxed.code? ≠ some .resetFault) (hev : ¬ ev.Writes .resetFault) :
    (worldStep cfg w ev).1.shm.readRelaxed.code? ≠ some .resetFault := by
  rw [readRelaxed_worldStep]
  cases hw : ev.written? with
  | none => exact h
  | some c => exact fun hc => hev (Option.bind_eq_some_iff.mpr ⟨c, hw, hc⟩)

/-- With no RESET_FAULT in the slot an event does not leave ESTOP. -/
theorem estop_step {cfg : RobotControllerConfig K} {w : World K} {ev : WorldEvent K}
    (hmode : w.mode = .estop) (hslot : w.shm.readRelaxed.code? ≠ some .resetFault) :
    (worldStep cfg w ev).1.mode = .estop := by
  unfold World.mode at hmode ⊢
  rcases controller_worldStep cfg w ev with ⟨env, -, hc⟩ | ⟨-, hc⟩
  · rw [hc]
    refine tick_keeps_estop hmode fun hreset => hslot ?_
    unfold consumedCode at hreset
    split at hreset
    · exact (freshCode_eq_some_iff.mp hreset).1
    · cases hreset
  · rw [hc, hmode]

/-- The tick finds an ESTOP in the slot that it has not consumed yet. -/
def ReadsFreshEstop (cfg : RobotControllerConfig K) (w : World K) (env : TickEnv K) : Prop :=
  readsSlot cfg ⟨env, w.shm⟩ = true ∧ w.shm.readRelaxed.code? = some .estop ∧
    some w.shm.readRelaxed.timestampNs ≠ w.controller.lastConsumedOperatorTimestampNs

/-- A tick ends in ESTOP exactly when it reads a fresh ESTOP or was in ESTOP and the slot does not
hold a fresh RESET_FAULT. -/
theorem tick_estop_iff {cfg : RobotControllerConfig K} {w : World K} {env : TickEnv K}
    (hslot : w.shm.readRelaxed.code? ≠ some .resetFault) :
    (worldStep cfg w (.tick env)).1.mode = .estop ↔
      w.mode = .estop ∨ ReadsFreshEstop cfg w env := by
  constructor
  · intro hafter
    by_cases hmode : w.mode = .estop
    · exact Or.inl hmode
    · refine Or.inr ?_
      have hchange : w.mode ≠ (worldStep cfg w (.tick env)).1.mode := by
        rw [hafter]
        exact hmode
      obtain ⟨env', henv, -, hnext⟩ := worldStep_mode_change hchange
      cases henv
      rw [hnext] at hafter
      have hcode := consumedCode_of_getD (by decide) (nextMode_eq_estop hmode hafter)
      have hreads := readsSlot_of_consumedCode hcode
      rw [consumedCode, if_pos hreads] at hcode
      obtain ⟨hvalid, -, hts⟩ := freshCode_eq_some_iff.mp hcode
      exact ⟨hreads, hvalid, hts⟩
  · rintro (hmode | ⟨hreads, hvalid, hts⟩)
    · exact estop_step hmode hslot
    · refine tick_enters_estop ?_
      rw [consumedCode, if_pos hreads]
      exact freshCode_eq_some_iff.mpr ⟨hvalid, by decide, hts⟩

/-- After an ESTOP published at `p`, with no RESET_FAULT published up to `n`, the controller is in ESTOP
from the tick `q` to `n` exactly when it was before `q`, or `q` finds an ESTOP it has not consumed. -/
theorem estop_from_tick_iff {cfg : RobotControllerConfig K} {w : World K} {events : List (WorldEvent K)}
    {p q n : ℕ} {ep eq : WorldEntry K} {env : TickEnv K}
    (hp : (worldRun cfg w events)[p]? = some ep) (hestop : ep.input.Writes .estop)
    (hpq : p < q) (hq : (worldRun cfg w events)[q]? = some eq) (htick : eq.input = .tick env)
    (hqn : q ≤ n)
    (hreset : ∀ k ek, p < k → k ≤ n → (worldRun cfg w events)[k]? = some ek →
      ¬ ek.input.Writes .resetFault) :
    (∀ k ek, q ≤ k → k ≤ n → (worldRun cfg w events)[k]? = some ek → ek.after.mode = .estop) ↔
      eq.before.mode = .estop ∨ ReadsFreshEstop cfg eq.before env := by
  -- from `p` on the slot never holds a RESET_FAULT
  have hslot : ∀ k ek, p ≤ k → k ≤ n → (worldRun cfg w events)[k]? = some ek →
      ek.after.shm.readRelaxed.code? ≠ some .resetFault := by
    intro k ek hpk hkn hek
    refine trace_latch (Q := fun v : World K => v.shm.readRelaxed.code? ≠ some .resetFault)
      (fun v ev hv hev => slot_ne_reset_step hv hev) hp ?_ hpk hek
      fun l el hl hlk hel => hreset l el hl (by omega) hel
    obtain ⟨c, hc, hcode⟩ := Option.bind_eq_some_iff.mp hestop
    rw [after_eq _ hp, readRelaxed_worldStep, hc, Option.getD_some, hcode]
    decide
  have hslotq : eq.before.shm.readRelaxed.code? ≠ some .resetFault := by
    obtain ⟨q', rfl⟩ : ∃ q', q = q' + 1 := ⟨q - 1, by omega⟩
    obtain ⟨e', he', hshared⟩ := exists_previous hq
    rw [hshared]
    exact hslot q' e' (by omega) (by omega) he'
  have hcatch : eq.after.mode = .estop ↔ eq.before.mode = .estop ∨
      ReadsFreshEstop cfg eq.before env := by
    rw [after_eq _ hq, htick]
    exact tick_estop_iff hslotq
  rw [← hcatch]
  constructor
  · intro hall
    exact hall q eq (Nat.le_refl _) hqn hq
  · -- once in ESTOP, the slot's lack of RESET_FAULT keeps it there
    intro hmode k ek hqk hkn hek
    have hQ := trace_latch
      (Q := fun v : World K => v.mode = .estop ∧ v.shm.readRelaxed.code? ≠ some .resetFault)
      (fun v ev hv hev => ⟨estop_step hv.1 hv.2, slot_ne_reset_step hv.2 hev⟩) hq
      ⟨hmode, hslot q eq (by omega) hqn hq⟩ hqk hek
      fun l el hl hlk hel => hreset l el (by omega) (by omega) hel
    exact hQ.1

/-- An event that does not read the slot: a publish, or a tick whose IMU request raised. -/
def ReadsNoSlot (cfg : RobotControllerConfig K) (e : WorldEntry K) : Prop :=
  ∀ env, e.input = .tick env → readsSlot cfg ⟨env, e.before.shm⟩ = false

theorem controller_of_readsNoSlot {cfg : RobotControllerConfig K} {w : World K} {ev : WorldEvent K}
    (h : ReadsNoSlot cfg (entry (worldStep cfg) w ev)) :
    (worldStep cfg w ev).1.controller = w.controller := by
  rcases controller_worldStep cfg w ev with ⟨env, hev, hc⟩ | ⟨-, hc⟩
  · rw [hc]
    exact (tick_of_not_readsSlot (h env hev)).1
  · exact hc

/-- The slot before `q` holds `c`: an event wrote it at `m`, and none after that wrote again. -/
def StandsIn (tr : List (WorldEntry K)) (m q : ℕ) (c : OperatorCommandC) : Prop :=
  m < q ∧ (∃ em, tr[m]? = some em ∧ em.input.written? = some c) ∧
    ∀ k ek, m < k → k < q → tr[k]? = some ek → ek.input.written? = none

theorem readRelaxed_of_standsIn {cfg : RobotControllerConfig K} {w : World K}
    {events : List (WorldEvent K)} {m q : ℕ} {eq : WorldEntry K} {c : OperatorCommandC}
    (h : StandsIn (worldRun cfg w events) m q c) (hq : (worldRun cfg w events)[q]? = some eq) :
    eq.before.shm.readRelaxed = c := by
  obtain ⟨hmq, ⟨em, hm, hwritten⟩, hlater⟩ := h
  refine trace_latch_before (Q := fun v : World K => v.shm.readRelaxed = c)
    (C := fun e : WorldEntry K => e.input.written? = none) (fun v ev hv hnone => ?_) hm ?_ hmq hq hlater
  · have hwrites : ev.written? = none := hnone
    rw [readRelaxed_worldStep, hwrites]
    exact hv
  · rw [after_eq _ hm, readRelaxed_worldStep, hwritten, Option.getD_some]

/-- Something was written before `q`, so something stands in the slot; the latest write is no earlier. -/
theorem exists_standsIn {cfg : RobotControllerConfig K} {w : World K} {events : List (WorldEvent K)}
    {p q : ℕ} {ep eq : WorldEntry K} (hp : (worldRun cfg w events)[p]? = some ep)
    (hwrites : ep.input.written?.isSome) (hpq : p < q) (hq : (worldRun cfg w events)[q]? = some eq) :
    ∃ m c, p ≤ m ∧ StandsIn (worldRun cfg w events) m q c := by
  obtain ⟨l, rfl⟩ : ∃ l, q = l + 1 := ⟨q - 1, by omega⟩
  obtain ⟨el, hel, -⟩ := exists_previous hq
  rcases trace_latest (fun e : WorldEntry K => e.input.written?.isSome = true) hel with
    ⟨m, em, hml, hm, hsome, hlater⟩ | hnone
  · obtain ⟨c, hc⟩ := Option.isSome_iff_exists.mp hsome
    refine ⟨m, c, ?_, by omega, ⟨em, hm, hc⟩, fun k ek hmk hkl hek => ?_⟩
    · by_contra hlt
      exact hlater p ep (by omega) (by omega) hp hwrites
    · exact Option.not_isSome_iff_eq_none.mp (hlater k ek hmk (by omega) hek)
  · exact absurd hwrites (hnone p ep (by omega) hp)

/-- **What becomes of a published ESTOP.** Let an ESTOP be published at `p`, let `q > p` be a tick,
and let no RESET_FAULT be published after `p` up to `n`. The controller is in ESTOP after every event
from `q` to `n` exactly when it was already in ESTOP before `q`, or `q` still finds in the slot an
ESTOP it has not consumed. If `q` is the first tick after `p` that reads the slot, that is a matter of
the publishes alone: the latest one before `q` is an ESTOP with another timestamp than the last
consumed. And so an ESTOP that is not overwritten and has such a timestamp is caught. -/
theorem published_estop_caught_iff (cfg : RobotControllerConfig K) (w : World K)
    (events : List (WorldEvent K)) {p q n : ℕ} {ep eq : WorldEntry K} {env : TickEnv K}
    (hp : (worldRun cfg w events)[p]? = some ep) (hestop : ep.input.Writes .estop)
    (hpq : p < q) (hq : (worldRun cfg w events)[q]? = some eq) (htick : eq.input = .tick env)
    (hqn : q ≤ n)
    (hreset : ∀ k ek, p < k → k ≤ n → (worldRun cfg w events)[k]? = some ek →
      ¬ ek.input.Writes .resetFault) :
    let tr := worldRun cfg w events
    let inEstop := ∀ k ek, q ≤ k → k ≤ n → tr[k]? = some ek → ek.after.mode = .estop
    let last := ep.before.controller.lastConsumedOperatorTimestampNs
    (inEstop ↔ eq.before.mode = .estop ∨ ReadsFreshEstop cfg eq.before env) ∧
    (readsSlot cfg ⟨env, eq.before.shm⟩ = true →
      (∀ k ek, p < k → k < q → tr[k]? = some ek → ReadsNoSlot cfg ek) →
      (inEstop ↔ ep.before.mode = .estop ∨ ∃ m c, p ≤ m ∧ StandsIn tr m q c ∧
        c.code? = some .estop ∧ some c.timestampNs ≠ last) ∧
      ∀ c, ep.input.written? = some c →
        (∀ k ek, p < k → k < q → tr[k]? = some ek → ek.input.written? = none) →
        some c.timestampNs ≠ last → inEstop) := by
  intro tr inEstop last
  have hcaught : inEstop ↔ eq.before.mode = .estop ∨ ReadsFreshEstop cfg eq.before env :=
    estop_from_tick_iff hp hestop hpq hq htick hqn hreset
  refine ⟨hcaught, fun hreads hfirst => ?_⟩
  obtain ⟨c₀, hc₀, hcode₀⟩ := Option.bind_eq_some_iff.mp hestop
  -- nothing between reads the slot, so the controller is still the one the publish found
  have hcontroller : eq.before.controller = ep.before.controller := by
    refine trace_latch_before (Q := fun v : World K => v.controller = ep.before.controller)
      (C := ReadsNoSlot cfg) (fun v ev hv hquiet => ?_) hp ?_ hpq hq hfirst
    · exact (controller_of_readsNoSlot hquiet).trans hv
    · rw [after_eq _ hp]
      rcases controller_worldStep cfg ep.before ep.input with ⟨env', hev, -⟩ | ⟨-, hc⟩
      · rw [hev] at hc₀
        cases hc₀
      · exact hc
  have hiff : inEstop ↔ ep.before.mode = .estop ∨ ∃ m c, p ≤ m ∧ StandsIn tr m q c ∧
      c.code? = some .estop ∧ some c.timestampNs ≠ last := by
    rw [hcaught, World.mode, hcontroller, ReadsFreshEstop, hcontroller]
    refine or_congr Iff.rfl ⟨?_, ?_⟩
    · rintro ⟨-, hvalid, hts⟩
      obtain ⟨m, c, hpm, hstands⟩ := exists_standsIn hp (by rw [hc₀]; rfl) hpq hq
      have hslot := readRelaxed_of_standsIn hstands hq
      exact ⟨m, c, hpm, hstands, hslot ▸ hvalid, hslot ▸ hts⟩
    · rintro ⟨m, c, -, hstands, hvalid, hts⟩
      rw [readRelaxed_of_standsIn hstands hq]
      exact ⟨hreads, hvalid, hts⟩
  refine ⟨hiff, fun c hc hkept hts => hiff.mpr (Or.inr ⟨p, c, le_rfl, ⟨hpq, ⟨ep, hp, hc⟩, hkept⟩, ?_, hts⟩)⟩
  rw [hc₀] at hc
  cases hc
  exact hcode₀

end World

/-- A publish of `code` by an operator. -/
def publishCode (timeNs : ℤ) (code : OperatorCommandCode) : WorldEvent ℚ :=
  .publish timeNs code.value 0

/-- ENABLE is published once and read by three ticks, then RUN: each reaches the state machine once,
and the change to DAMPING in between is explained by the dwell. -/
theorem one_shot_commands_enable_run :
    let events := [publishCode 1 .enable, .tick (quietEnv 1), .tick (quietEnv 2),
      .tick (quietEnv 3), publishCode 2 .run, .tick (quietEnv 4)]
    let tr := worldRun twoActuatorConfig ⟨OperatorCommandShm.zeroed.clear, freshController⟩ events
    tr.map (fun e => e.after.mode) =
      [.disabled, .enabling, .enabling, .damping, .damping, .normal] ∧
    (reachedCommands twoActuatorConfig tr).Sublist (published tr) := by
  intro events tr
  exact ⟨by decide +kernel,
    (one_shot_commands twoActuatorConfig OperatorCommandShm.zeroed freshController events rfl).1.1⟩

/-- An ESTOP that another operator overwrites before the next tick is lost. -/
theorem estop_overwritten :
    let tr := worldRun twoActuatorConfig ⟨OperatorCommandShm.zeroed, freshController⟩
      [publishCode 1 .estop, publishCode 2 .damping, .tick (quietEnv 1)]
    tr.map (fun e => decide (e.input.Writes .estop)) = [true, false, false] ∧
    tr.map (fun e => decide (e.input.Writes .resetFault)) = [false, false, false] ∧
    tr.map (fun e => e.after.mode) = [.disabled, .disabled, .damping] := by
  decide +kernel

/-- An ESTOP that nobody overwrites is caught by the next tick, and holds from there on. -/
theorem published_estop_caught :
    let tr := worldRun twoActuatorConfig ⟨OperatorCommandShm.zeroed, freshController⟩
      [publishCode 1 .estop, .tick (quietEnv 1), publishCode 2 .run, .tick (quietEnv 2)]
    ∀ k ek, 1 ≤ k → k ≤ 3 → tr[k]? = some ek → ek.after.mode = .estop := by
  intro tr
  refine ((published_estop_caught_iff twoActuatorConfig
    ⟨OperatorCommandShm.zeroed, freshController⟩ _ (p := 0) (q := 1) (n := 3)
    (show tr[0]? = some _ from rfl) (by decide +kernel) (by decide)
    (show tr[1]? = some _ from rfl) rfl (by decide) ?_).2 rfl ?_).2 _ rfl ?_ (by decide +kernel)
  · intro k ek hk hk3 hek
    have hall : ∀ e ∈ tr, ¬ e.input.Writes .resetFault := by decide +kernel
    exact hall ek (List.mem_of_getElem? hek)
  · intro k ek hk hk1
    omega
  · intro k ek hk hk1
    omega

end SparqControl.Controller
