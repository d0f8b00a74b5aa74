/-
# SparqControl.Controller.CommandLoss — how old a streamed policy command can be.

The policy process writes `ControlCommandShm` with the time of writing in it; a tick in NORMAL reads
the segment and streams what it finds. Nothing on the way looks at the time: neither the timeout
`can.command_timeout_s` nor the action `safety.command_loss_action` is read by a tick. What a NORMAL
tick streams is the command of the latest write, however old; so it streams as the timeout asks for
exactly when that write came at most the timeout before (`no_stale_stream`).

Writer and controller interleave freely. Their times are readings of one nanosecond clock.
-/
import SparqControl.Controller.Tick
import SparqControl.Lib.Slots

namespace SparqControl.Controller

open SparqControl.Hal SparqControl.Hw SparqControl.Shm
open SparqControl.Lib.Slots
open SparqControl.Lib.Trace

/-! ## The writer -/

/-- `ControlTarget`. -/
structure ControlTarget (K : Type) where
  canId : ℤ
  q : PyFloat K
  dq : PyFloat K
  kp : PyFloat K
  kd : PyFloat K
  tau : PyFloat K

/-- The values of `safety.command_loss_action` that `_validate_config` names. -/
inductive CommandLossAction where
  | damping
  | disable
  | fault
  deriving DecidableEq

/-- The configured reaction to a policy that stops writing. -/
structure CommandLossPolicy (K : Type) where
  commandTimeoutS : K
  commandLossAction : CommandLossAction

section World

variable {K : Type} [Field K]

/-- An array place no target was written to. -/
def ControlTargetC.zeroed : ControlTargetC K := ⟨0, .fin 0, .fin 0, .fin 0, .fin 0, .fin 0⟩

/-- A segment as created and cleared. -/
def ControlCommandC.zeroed : ControlCommandC K := ⟨0, 0, Vector.replicate _ ControlTargetC.zeroed⟩

/-- `write_targets`: the command with the time of writing. -/
def writeTargets (targets : List (ControlTarget K)) (timeNs : UInt64) :
    Except PyError (ControlCommandC K) :=
  if targets.length > maxControlTargets then .error (.valueError "too many control targets")
  else .ok
    { timestampNs := timeNs
      numTargets := UInt32.ofNat targets.length
      targets := Vector.ofFn fun i : Fin maxControlTargets =>
        match targets[i.val]? with
        | some t => ⟨UInt32.ofInt t.canId, t.q, t.dq, t.kp, t.kd, t.tau⟩
        | none => ControlTargetC.zeroed }

variable [LinearOrder K]

/-- The controller and the segment the policy writes. -/
structure PolicyWorld (K : Type) [Field K] [LinearOrder K] where
  controller : ControllerState K
  controlShm : ControlCommandC K := ControlCommandC.zeroed

/-- A write of the policy, or a tick of the controller with what it finds. -/
inductive PolicyEvent (K : Type) where
  | writeTargets (targets : List (ControlTarget K)) (timeNs : UInt64)
  | tick (operatorShm : OperatorCommandShm) (daemonAccepts : List CANFrame → CANFrame → Bool)
      (nowNs : UInt64)

/-- What a tick finds in the world. -/
def PolicyWorld.tickInput (w : PolicyWorld K) (operatorShm : OperatorCommandShm)
    (daemonAccepts : List CANFrame → CANFrame → Bool) (nowNs : UInt64) : TickInput K where
  now := (nowNs.toNat : K) / 1000000000.0
  controlCmd := w.controlShm
  daemonAccepts := daemonAccepts
  operatorShm := operatorShm

variable [IsStrictOrderedRing K] [FloorRing K]

/-- One event. A write that raises leaves the segment as it was. -/
def policyStep (cfg : RobotControllerConfig K) (w : PolicyWorld K) :
    PolicyEvent K → PolicyWorld K × Option TickOutcome
  | .writeTargets targets timeNs =>
      match writeTargets targets timeNs with
      | .ok command => ({ w with controlShm := command }, none)
      | .error _ => (w, none)
  | .tick operatorShm daemonAccepts nowNs =>
      let (s, out) := tick cfg w.controller (w.tickInput operatorShm daemonAccepts nowNs)
      ({ w with controller := s }, some out)

/-- One recorded event. -/
abbrev PolicyEntry (K : Type) [Field K] [LinearOrder K] :=
  Entry (PolicyWorld K) (PolicyEvent K) (Option TickOutcome)

/-! ## What command loss asks for -/

/-- A write that goes through. -/
def IsWrite : PolicyEvent K → Prop
  | .writeTargets targets _ => targets.length ≤ maxControlTargets
  | .tick _ _ _ => False

/-- The age of a timestamp is within the timeout. -/
def WithinTimeout (loss : CommandLossPolicy K) (timestampNs nowNs : UInt64) : Prop :=
  (nowNs.toNat : K) - timestampNs.toNat ≤ loss.commandTimeoutS * 1000000000.0

instance (loss : CommandLossPolicy K) (timestampNs nowNs : UInt64) :
    Decidable (WithinTimeout loss timestampNs nowNs) :=
  inferInstanceAs (Decidable (_ ≤ _))

/-- The recorded event is a tick in NORMAL with the given input: it read the slot, and its update of
the state machine gave NORMAL. -/
def NormalTick (cfg : RobotControllerConfig K) (e : PolicyEntry K) (operatorShm : OperatorCommandShm)
    (daemonAccepts : List CANFrame → CANFrame → Bool) (nowNs : UInt64) : Prop :=
  e.input = .tick operatorShm daemonAccepts nowNs ∧
    readsSlot cfg (e.before.tickInput operatorShm daemonAccepts nowNs) = true ∧
    (updated e.before.controller
      (e.before.tickInput operatorShm daemonAccepts nowNs)).stateMachine.mode = .normal

/-- What the configured action does at a tick: the loop of the sibling mode, with its record. A fault
latches ESTOP and disables. -/
def lossActionResult (cfg : RobotControllerConfig K) (loss : CommandLossPolicy K) (env : TickEnv K)
    (earlier : List CANFrame) (s : ControllerState K) :
    ControllerState K × List CANFrame × Option PyError :=
  match loss.commandLossAction with
  | .damping => sendDampingAll cfg env earlier s
  | .disable => sendDisableAll cfg env earlier s
  | .fault =>
      sendDisableAll cfg env earlier
        { s with stateMachine := s.stateMachine.enter .estop env.now }

/-- The latest write among the recorded events was made at `timeNs` and put `command` into the segment. -/
def LatestWrite (past : List (PolicyEntry K)) (timeNs : UInt64) (command : ControlCommandC K) : Prop :=
  ∃ (m : ℕ) (em : PolicyEntry K) (targets : List (ControlTarget K)), past[m]? = some em ∧
    em.input = .writeTargets targets timeNs ∧ writeTargets targets timeNs = .ok command ∧
    ∀ (k : ℕ) (ek : PolicyEntry K), m < k → past[k]? = some ek → ¬ IsWrite ek.input

/-- What a tick did to the controller and put on the bus, and how it ended. -/
def Did (e : PolicyEntry K) (result : ControllerState K × List CANFrame × Option PyError) : Prop :=
  ∃ out, e.out = some out ∧ (e.after.controller, out.actuatorFrames, out.raised) = result

/-- **No stale stream at a tick.** A NORMAL tick that comes at most the timeout after the latest write
streams the command of that write; one that finds no command, or an older one, does what the configured
action does, and so sends no policy frame. -/
def NoStaleStream (cfg : RobotControllerConfig K) (loss : CommandLossPolicy K)
    (past : List (PolicyEntry K)) (e : PolicyEntry K) : Prop :=
  ∀ operatorShm daemonAccepts nowNs, NormalTick cfg e operatorShm daemonAccepts nowNs →
    let input := e.before.tickInput operatorShm daemonAccepts nowNs
    let s := updated e.before.controller input
    (∃ timeNs command, LatestWrite past timeNs command ∧ WithinTimeout loss timeNs nowNs ∧
      Did e (sendPolicyCommand cfg input.toTickEnv (sentImuFrames cfg input) s command)) ∨
    (¬ (∃ timeNs command, LatestWrite past timeNs command ∧ WithinTimeout loss timeNs nowNs) ∧
      Did e (lossActionResult cfg loss input.toTickEnv (sentImuFrames cfg input) s))

/-- The latest write before a position came at most the timeout before the given time. -/
def RecentWrite (loss : CommandLossPolicy K) (events : List (PolicyEvent K)) (n : ℕ)
    (nowNs : UInt64) : Prop :=
  ∃ (m : ℕ) (targets : List (ControlTarget K)) (timeNs : UInt64), m < n ∧
    events[m]? = some (.writeTargets targets timeNs) ∧ targets.length ≤ maxControlTargets ∧
    (∀ (k : ℕ) (ev : PolicyEvent K), m < k → k < n → events[k]? = some ev → ¬ IsWrite ev) ∧
    WithinTimeout loss timeNs nowNs

/-! ## The segment holds the latest write -/

/-- What the record says about the segment: nothing was written yet, or it holds the command of the
latest write. -/
def HoldsLatest (tr : List (PolicyEntry K)) (w : PolicyWorld K) : Prop :=
  (∀ x ∈ tr, ¬ IsWrite x.input) ∨ LatestWrite tr w.controlShm.timestampNs w.controlShm

/-- An event that writes nothing leaves the segment alone. -/
theorem policyStep_controlShm {cfg : RobotControllerConfig K} {w : PolicyWorld K}
    {ev : PolicyEvent K} (h : ¬ IsWrite ev) : (policyStep cfg w ev).1.controlShm = w.controlShm := by
  cases ev with
  | writeTargets targets timeNs =>
      have hmany : targets.length > maxControlTargets := not_le.mp h
      simp only [policyStep, writeTargets, if_pos hmany]
  | tick operatorShm daemonAccepts nowNs => rfl

omit [LinearOrder K] [IsStrictOrderedRing K] [FloorRing K] in
theorem writeTargets_ok {targets : List (ControlTarget K)}
    (h : targets.length ≤ maxControlTargets) (timeNs : UInt64) :
    ∃ command, writeTargets targets timeNs = .ok command ∧ command.timestampNs = timeNs := by
  rw [writeTargets, if_neg (not_lt.mpr h)]
  exact ⟨_, rfl, rfl⟩

omit [LinearOrder K] [IsStrictOrderedRing K] [FloorRing K] in
theorem timestampNs_of_writeTargets {targets : List (ControlTarget K)} {timeNs : UInt64}
    {command : ControlCommandC K} (h : writeTargets targets timeNs = .ok command) :
    targets.length ≤ maxControlTargets ∧ command.timestampNs = timeNs := by
  unfold writeTargets at h
  split at h
  · cases h
  · rename_i hlen
    cases h
    exact ⟨not_lt.mp hlen, rfl⟩

theorem holdsLatest_step (cfg : RobotControllerConfig K) (tr : List (PolicyEntry K))
    (w : PolicyWorld K) (ev : PolicyEvent K) (h : HoldsLatest tr w) :
    HoldsLatest (tr ++ [entry (policyStep cfg) w ev]) (policyStep cfg w ev).1 := by
  by_cases hwrite : IsWrite ev
  · -- the new write is the latest
    cases ev with
    | tick operatorShm daemonAccepts nowNs => exact absurd hwrite not_false
    | writeTargets targets timeNs =>
        obtain ⟨command, hok, hstamp⟩ := writeTargets_ok (K := K) hwrite timeNs
        have hshm : (policyStep cfg w (.writeTargets targets timeNs)).1.controlShm = command := by
          simp only [policyStep, hok]
        refine Or.inr ⟨tr.length, _, targets, List.getElem?_concat_length, ?_, ?_, fun k x hk hx => ?_⟩
        · rw [hshm, hstamp]
          rfl
        · rw [hshm, hstamp, hok]
        · have hlen := (List.getElem?_eq_some_iff.mp hx).1
          rw [List.length_append, List.length_singleton] at hlen
          omega
  · rcases h with hnone | ⟨m, e, targets, he, hinput, hok, hlater⟩
    · refine Or.inl fun x hx => ?_
      rcases List.mem_append.mp hx with hold | hnew
      · exact hnone x hold
      · rw [List.mem_singleton.mp hnew]
        exact hwrite
    · have hlt : m < tr.length := (List.getElem?_eq_some_iff.mp he).1
      refine Or.inr ⟨m, e, targets, (List.getElem?_append_left hlt).trans he, ?_, ?_,
        fun k x hk hx => ?_⟩
      · rw [policyStep_controlShm hwrite]
        exact hinput
      · rw [policyStep_controlShm hwrite]
        exact hok
      · rcases getElem?_concat_cases hx with ⟨-, rfl⟩ | hold
        · exact hwrite
        · exact hlater k x hk hold

omit [IsStrictOrderedRing K] [FloorRing K] in
/-- There is one latest write. -/
theorem LatestWrite.unique {past : List (PolicyEntry K)} {timeNs timeNs' : UInt64}
    {command command' : ControlCommandC K} (h : LatestWrite past timeNs command)
    (h' : LatestWrite past timeNs' command') : timeNs = timeNs' ∧ command = command' := by
  obtain ⟨m, em, targets, hm, hinput, hok, hlater⟩ := h
  obtain ⟨m', em', targets', hm', hinput', hok', hlater'⟩ := h'
  have hwrite : IsWrite em.input := by
    rw [hinput]
    exact (timestampNs_of_writeTargets hok).1
  have hwrite' : IsWrite em'.input := by
    rw [hinput']
    exact (timestampNs_of_writeTargets hok').1
  obtain rfl : m = m' := by
    rcases Nat.lt_trichotomy m m' with hlt | heq | hlt
    · exact absurd hwrite' (hlater m' em' hlt hm')
    · exact heq
    · exact absurd hwrite (hlater' m em hlt hm)
  cases Option.some.inj (hm.symm.trans hm')
  cases hinput.symm.trans hinput'
  exact ⟨rfl, Except.ok.inj (hok.symm.trans hok')⟩

/-- The segment holds the command of the latest write. -/
theorem controlShm_of_latestWrite {cfg : RobotControllerConfig K} {s : ControllerState K}
    {events : List (PolicyEvent K)} {n : ℕ} {e : PolicyEntry K}
    (he : (trace (policyStep cfg) { controller := s } events)[n]? = some e) {timeNs : UInt64}
    {command : ControlCommandC K}
    (h : LatestWrite ((trace (policyStep cfg) { controller := s } events).take n) timeNs command) :
    e.before.controlShm = command ∧ e.before.controlShm.timestampNs = timeNs := by
  rcases trace_history_before (P := HoldsLatest) (Or.inl fun x hx => by cases hx)
    (holdsLatest_step cfg) he with hnone | hlatest
  · obtain ⟨m, em, targets, hm, hinput, hok, -⟩ := h
    refine absurd ?_ (hnone em (List.mem_of_getElem? hm))
    rw [hinput]
    exact (timestampNs_of_writeTargets hok).1
  · obtain ⟨hstamp, hcommand⟩ := hlatest.unique h
    exact ⟨hcommand, hstamp⟩

/-- **The latest write of the record is that of the events.** -/
theorem latestWrite_iff_recentWrite (cfg : RobotControllerConfig K) (loss : CommandLossPolicy K)
    (s : ControllerState K) (events : List (PolicyEvent K)) (n : ℕ) (nowNs : UInt64) :
    (∃ timeNs command,
      LatestWrite ((trace (policyStep cfg) { controller := s } events).take n) timeNs command ∧
        WithinTimeout loss timeNs nowNs) ↔ RecentWrite loss events n nowNs := by
  have hget : ∀ (k : ℕ) (x : PolicyEntry K),
      ((trace (policyStep cfg) { controller := s } events).take n)[k]? = some x →
      k < n ∧ events[k]? = some x.input := by
    intro k x hx
    rw [List.getElem?_take] at hx
    split at hx
    · exact ⟨‹_›, input_at (policyStep cfg) hx⟩
    · cases hx
  have hput : ∀ (k : ℕ) (ev : PolicyEvent K), k < n → events[k]? = some ev →
      ∃ x, ((trace (policyStep cfg) { controller := s } events).take n)[k]? = some x ∧
        x.input = ev := by
    intro k ev hk hev
    obtain ⟨x, hx, hinput⟩ := entry_at (policyStep cfg) { controller := s } hev
    exact ⟨x, (List.getElem?_take_of_lt hk).trans hx, hinput⟩
  constructor
  · rintro ⟨timeNs, command, ⟨m, em, targets, hm, hinput, hok, hlater⟩, hwithin⟩
    obtain ⟨hmn, hev⟩ := hget m em hm
    refine ⟨m, targets, timeNs, hmn, hev.trans (congrArg some hinput),
      (timestampNs_of_writeTargets hok).1, fun k ev hk hkn hevk => ?_, hwithin⟩
    obtain ⟨y, hy, rfl⟩ := hput k ev hkn hevk
    exact hlater k y hk hy
  · rintro ⟨m, targets, timeNs, hmn, hev, hlen, hlater, hwithin⟩
    obtain ⟨em, hm, hinput⟩ := hput m _ hmn hev
    obtain ⟨command, hok, -⟩ := writeTargets_ok (K := K) hlen timeNs
    refine ⟨timeNs, command, ⟨m, em, targets, hm, hinput, hok, fun k y hk hy => ?_⟩, hwithin⟩
    obtain ⟨hkn, hevk⟩ := hget k y hy
    exact hlater k y.input hk hkn hevk

/-! ## No stale stream -/

/-- The outcome of a NORMAL tick is that of `_send_policy_command` on the segment. -/
theorem normalTick_result {cfg : RobotControllerConfig K} {w : PolicyWorld K}
    {events : List (PolicyEvent K)} {n : ℕ} {e : PolicyEntry K}
    (he : (trace (policyStep cfg) w events)[n]? = some e) {operatorShm : OperatorCommandShm}
    {daemonAccepts : List CANFrame → CANFrame → Bool} {nowNs : UInt64}
    (hnormal : NormalTick cfg e operatorShm daemonAccepts nowNs) :
    Did e (sendPolicyCommand cfg (e.before.tickInput operatorShm daemonAccepts nowNs).toTickEnv
      (sentImuFrames cfg (e.before.tickInput operatorShm daemonAccepts nowNs))
      (updated e.before.controller (e.before.tickInput operatorShm daemonAccepts nowNs))
      e.before.controlShm) := by
  obtain ⟨hinput, hreads, hmode⟩ := hnormal
  have htick := tick_of_readsSlot (s := e.before.controller) hreads
  refine ⟨(tick cfg e.before.controller (e.before.tickInput operatorShm daemonAccepts nowNs)).2,
    (out_eq (policyStep cfg) he).trans (by rw [hinput]; rfl), ?_⟩
  have hafter : e.after.controller =
      (tick cfg e.before.controller (e.before.tickInput operatorShm daemonAccepts nowNs)).1 := by
    rw [after_eq (policyStep cfg) he, hinput]
    rfl
  rw [hafter, htick]
  simp only [sendForMode, hmode]
  rfl

/-- A policy tick that goes through is recorded as such, and none of the actions is. -/
theorem sendPolicyCommand_ne_lossAction {cfg : RobotControllerConfig K} {loss : CommandLossPolicy K}
    {env : TickEnv K} {earlier : List CANFrame} {s : ControllerState K} {cmd : ControlCommandC K}
    (h : (sendPolicyCommand cfg env earlier s cmd).2.2 = none) :
    sendPolicyCommand cfg env earlier s cmd ≠ lossActionResult cfg loss env earlier s := by
  have hpolicy : (sendPolicyCommand cfg env earlier s cmd).1.lastOutputSource = .policy := by
    simp only [sendPolicyCommand] at h ⊢
    rw [h]
    rfl
  intro heq
  rw [heq] at hpolicy
  unfold lossActionResult at hpolicy
  split at hpolicy <;> cases hpolicy

/-- A NORMAL tick at most the timeout after the latest write streams the command of that write. -/
theorem noStaleStream_of_recentWrite {cfg : RobotControllerConfig K} {loss : CommandLossPolicy K}
    {s : ControllerState K} {events : List (PolicyEvent K)} {n : ℕ} {e : PolicyEntry K}
    (he : (trace (policyStep cfg) { controller := s } events)[n]? = some e)
    (hrecent : ∀ operatorShm daemonAccepts nowNs, NormalTick cfg e operatorShm daemonAccepts nowNs →
      RecentWrite loss events n nowNs) :
    NoStaleStream cfg loss ((trace (policyStep cfg) { controller := s } events).take n) e := by
  intro operatorShm daemonAccepts nowNs hnormal
  obtain ⟨timeNs, command, hlatest, hwithin⟩ :=
    (latestWrite_iff_recentWrite cfg loss s events n nowNs).mpr (hrecent _ _ _ hnormal)
  have hdid := normalTick_result he hnormal
  rw [(controlShm_of_latestWrite he hlatest).1] at hdid
  exact Or.inl ⟨timeNs, command, hlatest, hwithin, hdid⟩

/-- A NORMAL tick that ends without an exception streams as it should only then. -/
theorem recentWrite_of_noStaleStream {cfg : RobotControllerConfig K} {loss : CommandLossPolicy K}
    {s : ControllerState K} {events : List (PolicyEvent K)} {n : ℕ} {e : PolicyEntry K}
    {operatorShm : OperatorCommandShm} {daemonAccepts : List CANFrame → CANFrame → Bool}
    {nowNs : UInt64} (he : (trace (policyStep cfg) { controller := s } events)[n]? = some e)
    (hnormal : NormalTick cfg e operatorShm daemonAccepts nowNs)
    (hquiet : ∃ out, e.out = some out ∧ out.raised = none)
    (hstream : NoStaleStream cfg loss
      ((trace (policyStep cfg) { controller := s } events).take n) e) :
    RecentWrite loss events n nowNs := by
  rcases hstream operatorShm daemonAccepts nowNs hnormal with
    ⟨timeNs, command, hlatest, hwithin, -⟩ | ⟨-, out', hout', haction⟩
  · exact (latestWrite_iff_recentWrite cfg loss s events n nowNs).mp ⟨timeNs, command, hlatest, hwithin⟩
  · -- the action leaves another record than the policy's stream, which is what the tick did
    obtain ⟨out, hout, hresult⟩ := normalTick_result he hnormal
    obtain ⟨out'', hout'', hraised⟩ := hquiet
    obtain rfl : out = out' := Option.some.inj (hout.symm.trans hout')
    obtain rfl : out = out'' := Option.some.inj (hout.symm.trans hout'')
    refine absurd (hresult.symm.trans haction) (sendPolicyCommand_ne_lossAction ?_)
    rw [← hresult]
    exact hraised

/-- **No stale policy stream, as far as the code goes.** In every run in which every NORMAL tick comes
at most the timeout after the latest write, every NORMAL tick streams the command of that write. And a
NORMAL tick that ends without an exception does what the timeout asks for only then. -/
theorem no_stale_stream (cfg : RobotControllerConfig K) (loss : CommandLossPolicy K)
    (s : ControllerState K) (events : List (PolicyEvent K)) :
    let tr := trace (policyStep cfg) { controller := s } events
    ((∀ (n : ℕ) (e : PolicyEntry K) operatorShm daemonAccepts nowNs, tr[n]? = some e →
        NormalTick cfg e operatorShm daemonAccepts nowNs → RecentWrite loss events n nowNs) →
      ∀ (n : ℕ) (e : PolicyEntry K), tr[n]? = some e → NoStaleStream cfg loss (tr.take n) e) ∧
    (∀ (n : ℕ) (e : PolicyEntry K) operatorShm daemonAccepts nowNs, tr[n]? = some e →
      NormalTick cfg e operatorShm daemonAccepts nowNs →
      (∃ out, e.out = some out ∧ out.raised = none) → NoStaleStream cfg loss (tr.take n) e →
      RecentWrite loss events n nowNs) := by
  intro tr
  exact ⟨fun hrecent n e he => noStaleStream_of_recentWrite he fun operatorShm daemonAccepts nowNs =>
      hrecent n e operatorShm daemonAccepts nowNs he,
    fun n e operatorShm daemonAccepts nowNs he hnormal hquiet hstream =>
      recentWrite_of_noStaleStream he hnormal hquiet hstream⟩

end World

/-- A policy that holds the first joint at 1 rad. -/
private def holdTarget : ControlTarget ℚ := ⟨0x101, .fin 1, .fin 0, .fin 20, .fin 1, .fin 0⟩

/-- The configuration of the repository: 50 ms, damping. -/
private def dampingOnLoss : CommandLossPolicy ℚ := ⟨1 / 20, .damping⟩

private def slotWith (timeNs : ℤ) (code : OperatorCommandCode) : OperatorCommandShm :=
  OperatorCommandShm.zeroed.write (OperatorCommandShm.builtCommand timeNs code.value 0 [])

private def policyTick (code : OperatorCommandCode) (nowNs : UInt64) : PolicyEvent ℚ :=
  .tick (slotWith nowNs.toNat code) (fun _ _ => true) nowNs

/-- The policy writes once at one second; the operator goes to NORMAL; ten seconds later the controller
still ticks. -/
private def deadWriter : List (PolicyEvent ℚ) :=
  [.writeTargets [holdTarget] 1000000000, policyTick .damping 1000000001, policyTick .run 1000000002,
    policyTick .none 11000000000]

/-- **The policy died ten seconds ago and its command is still streamed.** -/
theorem dead_writer_streamed :
    let tr := trace (policyStep twoActuatorConfig) { controller := freshController } deadWriter
    (tr[3]?.bind fun e => e.out.map TickOutcome.actuatorFrames) =
        some [⟨0x101, [0xC0, 0x8A, 0x3D, 0x80, 0x00, 0xA4, 0x33, 0x80]⟩] ∧
      ¬ ∀ (n : ℕ) (e : PolicyEntry ℚ), tr[n]? = some e →
        NoStaleStream twoActuatorConfig dampingOnLoss (tr.take n) e := by
  intro tr
  refine ⟨by decide +kernel, fun hall => ?_⟩
  have hmode : (updated (final (policyStep twoActuatorConfig) { controller := freshController }
      (deadWriter.take 3)).controller ((final (policyStep twoActuatorConfig)
        { controller := freshController } (deadWriter.take 3)).tickInput
        (slotWith 11000000000 .none) (fun _ _ => true) 11000000000)).stateMachine.mode = .normal := by
    decide +kernel
  have hquiet : (tr[3]?.bind fun e => e.out.map TickOutcome.raised) = some none := by decide +kernel
  obtain ⟨e, he, hout⟩ := Option.bind_eq_some_iff.mp hquiet
  obtain ⟨out, hsome, hraised⟩ := Option.map_eq_some_iff.mp hout
  have hnormal : NormalTick twoActuatorConfig e (slotWith 11000000000 .none) (fun _ _ => true)
      11000000000 := by
    have hentry := he
    rw [getElem?_trace] at hentry
    obtain rfl := Option.some.inj hentry
    exact ⟨rfl, rfl, hmode⟩
  obtain ⟨m, targets, timeNs, hm, hev, -, -, hwithin⟩ :=
    recentWrite_of_noStaleStream he hnormal ⟨out, hsome, hraised⟩ (hall 3 e he)
  -- the only write is the first event
  match m with
  | 0 =>
      cases hev
      exact absurd hwithin (by decide +kernel)
  | 1 => cases hev
  | 2 => cases hev
  | n + 3 => omega

/-- The policy wrote a millisecond before the only NORMAL tick. -/
private def liveWriter : List (PolicyEvent ℚ) :=
  [.writeTargets [holdTarget] 1000000000, policyTick .damping 1000000001, policyTick .run 1001000000]

/-- A live policy: its frame is streamed, and command loss is no matter. -/
theorem no_stale_stream_alive :
    let tr := trace (policyStep twoActuatorConfig) { controller := freshController } liveWriter
    (tr[2]?.bind fun e => e.out.map TickOutcome.actuatorFrames) =
        some [⟨0x101, [0xC0, 0x8A, 0x3D, 0x80, 0x00, 0xA4, 0x33, 0x80]⟩] ∧
      ∀ (n : ℕ) (e : PolicyEntry ℚ), tr[n]? = some e →
        NoStaleStream twoActuatorConfig dampingOnLoss (tr.take n) e := by
  intro tr
  refine ⟨by decide +kernel, (no_stale_stream twoActuatorConfig dampingOnLoss freshController
    liveWriter).1 fun n e operatorShm daemonAccepts nowNs he hnormal => ?_⟩
  have hlate : ∀ (now : UInt64), now = 1000000001 ∨ now = 1001000000 →
      WithinTimeout dampingOnLoss 1000000000 now := by
    rintro now (rfl | rfl) <;> decide +kernel
  have hev := input_at (policyStep twoActuatorConfig) he
  rw [hnormal.1] at hev
  match n with
  | 0 => cases hev
  | 1 =>
      refine ⟨0, [holdTarget], 1000000000, by omega, rfl, by decide, fun k ev hk hkn => by omega, ?_⟩
      cases hev
      exact hlate _ (Or.inl rfl)
  | 2 =>
      refine ⟨0, [holdTarget], 1000000000, by omega, rfl, by decide, fun k ev hk hkn hevk => ?_, ?_⟩
      · obtain rfl : k = 1 := by omega
        cases hevk
        exact not_false
      · cases hev
        exact hlate _ (Or.inr rfl)
  | n + 3 => cases hev

end SparqControl.Controller
