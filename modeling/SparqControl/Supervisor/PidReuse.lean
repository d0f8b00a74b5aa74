/-
# SparqControl.Supervisor.PidReuse — whom a supervisor takes for its child, and whom it signals.

A child is remembered twice: as a `Popen` handle, whose number stays taken until the handle was polled,
and as a NUMBER in a pidfile, which outlives the child, its supervisor and, in a call that has read it,
the file. Here processes, pidfiles, handles and calls are separate, every system call is a step of its
own, and between any two of them processes exit, are reaped, start and fork, under any free number, and
supervisors crash.

`is_alive` and `stop_by_name` never ask who has the number they read. `acts_on_own` says what that is
worth: in every run in which no number is given to a stranger while it is remembered, and in which no
liveness probe meets a zombie, an answer of True is about a live process of the name and signals go to
processes and groups of the name. `stranger_signalled` is the run in which a number is reused.
-/
import SparqControl.Supervisor.ProcessSupervisor
import SparqControl.Supervisor.ProcessTable

namespace SparqControl.Supervisor.PidReuse

open SparqControl.Lib SparqControl.Lib.Trace

/-! ## The data -/

/-- A thread of a supervisor, both by number. A supervisor that crashed may be started again under its
number. -/
abbrev Thread := ℕ × ℕ

/-- The configured processes of each supervisor. -/
abbrev Configs := ℕ → List ProcessConfig

/-- A `Popen` object. -/
structure Popen where
  serial : ℕ
  pid : ℕ
  name : String
  owner : ℕ
  deriving DecidableEq

/-- The text of a pidfile: a number, or something `int` refuses. -/
inductive PidText where
  | number (n : ℕ)
  | unreadable
  deriving DecidableEq

/-- Where a thread stands in `is_alive`. -/
inductive AlivePc where
  | poll | readPid
  | probe (pid : ℕ)

/-- Where a thread stands in `start_by_name`. -/
inductive StartPc where
  | enter
  | check (pc : AlivePc)
  | clear | unlink | launch

/-- Where a thread stands in `stop_by_name`: `managed` is `managed_pid`, `own` is `process`. The steps of
`_terminate_process_group` come with the signal it sends. -/
inductive StopPc where
  | enter
  | read (own : Option Popen)
  | termPid (managed : ℕ) (own : Option Popen)
  | pollOwn (managed : Option ℕ) (own : Option Popen)
  | getPgid (managed : Option ℕ) (own : Popen) (signum : Signal)
  | killGroup (managed : Option ℕ) (own : Popen) (signum : Signal) (pgid : ℕ)
  | sendSignal (managed : Option ℕ) (own : Popen) (signum : Signal)
  | killOwn (managed : Option ℕ) (own : Popen) (signum : Signal)
  | waitPid (managed : Option ℕ) (own : Option Popen)
  | recheck (managed : ℕ)
  | killPid (managed : ℕ)
  | waitKilledPid (managed : ℕ)
  | waitProcess (managed : Option ℕ) (own : Popen)
  | killManaged (managed : ℕ) (own : Popen)
  | waitKilled (own : Popen)
  | cleanup

inductive Call where
  | idle
  | isAlive (name : String) (pc : AlivePc)
  | start (name : String) (pc : StartPc)
  | stop (name : String) (pc : StopPc)

structure World where
  table : ProcessTable
  /-- Terminals that have not started their shell yet, by the name they were launched under. -/
  terminals : List String
  pidfile : String → Option PidText
  /-- The handles whose `returncode` is `None`. -/
  unreaped : List Popen
  processes : ℕ → String → Option Popen
  launches : ℕ
  call : Thread → Call

/-- What a step of a thread does not decide: an expired deadline or a `Popen` that fails, and the number
and the user of a process it launches. -/
structure Chance where
  late : Bool
  pid : ℕ
  permitted : Bool

/-- One step of the system. -/
inductive Action where
  | isAlive (t : Thread) (name : String)
  | startByName (t : Thread) (name : String)
  | stopByName (t : Thread) (name : String)
  | advance (t : Thread) (chance : Chance)
  | openShell (name : String) (pid : ℕ) (permitted : Bool)
  | writePidfile (pid : ℕ)
  | poll (h : Popen)
  | crash (supervisor : ℕ)
  | exit (pid : ℕ)
  | reap (pid : ℕ)
  | spawn (pid : ℕ) (permitted : Bool)
  | fork (parent pid : ℕ)
  | setGroup (pid pgid : ℕ)

inductive Target where
  | pid (p : ℕ)
  | group (g : ℕ)

inductive Report where
  | none
  | raised (e : SupervisorError)
  | permissionError
  | launched (pid : ℕ)
  | alive (name : String) (answer : Bool)
  | signalled (name : String) (signum : Signal) (target : Target) (receivers : List Process)

/-! ## The steps -/

namespace World

variable (w : World)

def goto (t : Thread) (c : Call) : World := { w with call := Function.update w.call t c }

def setPidfile (name : String) (text : Option PidText) : World :=
  { w with pidfile := Function.update w.pidfile name text }

def setTable (table : ProcessTable) : World := { w with table := table }

/-- `process.poll()`: reads the status of a zombie, which frees its number. The answer is whether
`returncode` is still `None`. -/
def poll (h : Popen) : World × Bool :=
  if h ∈ w.unreaped then
    match w.table.lookup h.pid with
    | some q =>
        if q.zombie then
          ({ w with table := w.table.reap h.pid, unreaped := w.unreaped.filter (· ≠ h) }, false)
        else (w, true)
    | none => ({ w with unreaped := w.unreaped.filter (· ≠ h) }, false)
  else (w, false)

end World

/-- `_read_pidfile`. -/
def readPidfile : Option PidText → Option ℕ
  | some (.number n) => if n > 1 then some n else none
  | _ => none

/-- The signal that was sent, if any. -/
def deliveryReport (name : String) (signum : Signal) (target : Target) :
    ProcessTable.Delivery → Report
  | .delivered receivers => .signalled name signum target receivers
  | _ => .none

section Steps

variable (cfg : Configs)

/-- `self._read_pidfile(self._pidfiles.get(name))`. -/
def World.managedPid (w : World) (s : ℕ) (name : String) : Option ℕ :=
  ((processConfigs (cfg s)).get? name).bind fun _ => readPidfile (w.pidfile name)

/-- One step inside `is_alive`: on to the next one, or the answer. -/
def aliveStep (w : World) (s : ℕ) (name : String) : AlivePc → World × (AlivePc ⊕ Bool)
  | .poll =>
      match w.processes s name with
      | some h => if (w.poll h).2 then ((w.poll h).1, .inr true) else ((w.poll h).1, .inl .readPid)
      | none => (w, .inl .readPid)
  | .readPid =>
      match w.managedPid cfg s name with
      | some p => (w, .inl (.probe p))
      | none => (w, .inr false)
  | .probe p => (w, .inr (w.table.pidIsRunning p))

/-- `self.processes[name] = subprocess.Popen(...)`. With a terminal the shell comes later. -/
def World.popen (w : World) (s : ℕ) (name : String) (terminal : Bool) (chance : Chance) : World :=
  let h : Popen := ⟨w.launches, chance.pid, name, s⟩
  { w with
    table := w.table.spawn chance.pid (some name) chance.permitted false
    terminals := if terminal then name :: w.terminals else w.terminals
    unreaped := h :: w.unreaped
    processes := Function.update w.processes s (Function.update (w.processes s) name (some h))
    launches := w.launches + 1 }

/-- One step inside `start_by_name`. -/
def startStep (w : World) (t : Thread) (name : String) (chance : Chance) : StartPc → World × Report
  | .enter =>
      if name = "" then (w.goto t .idle, .raised .emptyName)
      else
        match (processConfigs (cfg t.1)).get? name with
        | none => (w.goto t .idle, .raised (.unknownProcess name))
        | some _ => (w.goto t (.start name (.check .poll)), .none)
  | .check pc =>
      match aliveStep cfg w t.1 name pc with
      | (w', .inl pc') => (w'.goto t (.start name (.check pc')), .none)
      | (w', .inr true) => (w'.goto t .idle, .alive name true)
      | (w', .inr false) => (w'.goto t (.start name .clear), .alive name false)
  | .clear =>
      match (processConfigs (cfg t.1)).get? name with
      | none => (w.goto t .idle, .raised (.unknownProcess name))
      | some c =>
          if c.command = [] then (w.goto t .idle, .raised (.emptyCommand name))
          else
            match w.pidfile name with
            | some _ => (w.goto t (.start name .unlink), .none)
            | none => (w.goto t (.start name .launch), .none)
  | .unlink =>
      match w.pidfile name with
      | none => (w.goto t .idle, .raised .fileNotFound)
      | some _ => ((w.setPidfile name none).goto t (.start name .launch), .none)
  | .launch =>
      match (processConfigs (cfg t.1)).get? name with
      | none => (w.goto t .idle, .raised (.unknownProcess name))
      | some c =>
          if c.newTerminal ∧ c.terminalCommand = [] then
            (w.goto t .idle, .raised (.noTerminalCommand name))
          else if chance.late then (w.goto t .idle, .raised .popenFailed)
          else if w.table.Free chance.pid then
            ((w.popen t.1 name c.newTerminal chance).goto t .idle, .launched chance.pid)
          else (w, .none)

/-- Where `stop_by_name` goes on after `_terminate_process_group`. -/
def afterGroup (managed : Option ℕ) (own : Popen) : Signal → StopPc
  | .sigterm => .waitPid managed (some own)
  | .sigkill => .waitKilled own

/-- One step inside `stop_by_name`. A signal is reported; the exit it may cause is a step of its own. -/
def stopStep (w : World) (t : Thread) (name : String) (late : Bool) : StopPc → World × Report
  | .enter => (w.goto t (.stop name (.read (w.processes t.1 name))), .none)
  | .read own =>
      match w.managedPid cfg t.1 name, own with
      | none, none => (w.goto t .idle, .none)
      | some p, own => (w.goto t (.stop name (.termPid p own)), .none)
      | none, some h => (w.goto t (.stop name (.pollOwn none (some h))), .none)
  | .termPid p own =>
      (w.goto t (.stop name (.pollOwn (some p) own)),
        deliveryReport name .sigterm (.pid p) (w.table.kill p))
  | .pollOwn managed none => (w.goto t (.stop name (.waitPid managed none)), .none)
  | .pollOwn managed (some h) =>
      if (w.poll h).2 then ((w.poll h).1.goto t (.stop name (.getPgid managed h .sigterm)), .none)
      else ((w.poll h).1.goto t (.stop name (.waitPid managed (some h))), .none)
  | .getPgid managed h signum =>
      match w.table.lookup h.pid with
      | none => (w.goto t (.stop name (afterGroup managed h signum)), .none)
      | some q => (w.goto t (.stop name (.killGroup managed h signum q.group.id)), .none)
  | .killGroup managed h signum pgid =>
      match w.table.killpg pgid with
      | .notPermitted => (w.goto t (.stop name (.sendSignal managed h signum)), .none)
      | delivery =>
          (w.goto t (.stop name (afterGroup managed h signum)),
            deliveryReport name signum (.group pgid) delivery)
  | .sendSignal managed h signum =>
      -- `process.terminate()` and `process.kill()` poll before they signal
      if (w.poll h).2 then ((w.poll h).1.goto t (.stop name (.killOwn managed h signum)), .none)
      else ((w.poll h).1.goto t (.stop name (afterGroup managed h signum)), .none)
  | .killOwn managed h signum =>
      match w.table.kill h.pid with
      | .notPermitted =>
          match signum with
          | .sigterm => (w.goto t .idle, .permissionError)
          | .sigkill => (w.goto t (.stop name .cleanup), .permissionError)
      | delivery =>
          (w.goto t (.stop name (afterGroup managed h signum)),
            deliveryReport name signum (.pid h.pid) delivery)
  | .waitPid managed own =>
      if managed.any w.table.pidIsRunning ∧ ¬ late then (w, .none)
      else
        match own, managed with
        | some h, _ => (w.goto t (.stop name (.waitProcess managed h)), .none)
        | none, some p => (w.goto t (.stop name (.recheck p)), .none)
        | none, none => (w.goto t (.stop name .cleanup), .none)
  | .recheck p =>
      if w.table.pidIsRunning p then (w.goto t (.stop name (.killPid p)), .none)
      else (w.goto t (.stop name .cleanup), .none)
  | .killPid p =>
      (w.goto t (.stop name (.waitKilledPid p)),
        deliveryReport name .sigkill (.pid p) (w.table.kill p))
  | .waitKilledPid p =>
      if w.table.pidIsRunning p ∧ ¬ late then (w, .none) else (w.goto t (.stop name .cleanup), .none)
  | .waitProcess managed h =>
      if (w.poll h).2 then
        if late then
          match managed with
          | some p => ((w.poll h).1.goto t (.stop name (.killManaged p h)), .none)
          | none => ((w.poll h).1.goto t (.stop name (.getPgid none h .sigkill)), .none)
        else ((w.poll h).1, .none)
      else ((w.poll h).1.goto t (.stop name .cleanup), .none)
  | .killManaged p h =>
      (w.goto t (.stop name (.getPgid none h .sigkill)),
        deliveryReport name .sigkill (.pid p) (w.table.kill p))
  | .waitKilled h =>
      if (w.poll h).2 then
        if late then ((w.poll h).1.goto t (.stop name .cleanup), .raised .timeoutExpired)
        else ((w.poll h).1, .none)
      else ((w.poll h).1.goto t (.stop name .cleanup), .none)
  | .cleanup =>
      match (processConfigs (cfg t.1)).get? name with
      | none => (w.goto t .idle, .none)
      | some _ => ((w.setPidfile name none).goto t .idle, .none)

/-- A supervisor dies: its calls and its handles are gone, its children go to init, and the pidfiles
stay. -/
def World.crash (w : World) (s : ℕ) : World :=
  { w with
    unreaped := w.unreaped.filter (·.owner ≠ s)
    processes := Function.update w.processes s fun _ => none
    call := fun t => if t.1 = s then .idle else w.call t }

/-- A terminal starts its shell. -/
def World.openShell (w : World) (name : String) (p : ℕ) (permitted : Bool) : World :=
  if name ∈ w.terminals ∧ w.table.Free p then
    { w with
      table := w.table.spawn p (some name) permitted true
      terminals := w.terminals.erase name }
  else w

/-- A shell writes `$$` into the pidfile of its name. -/
def World.writePidfile (w : World) (p : ℕ) : World :=
  match w.table.lookup p with
  | some q =>
      match q.launchedAs with
      | some name =>
          if q.writer ∧ q.zombie = false then
            (w.setTable (w.table.wrote p)).setPidfile name (some (.number p))
          else w
      | none => w
  | none => w

/-- A parent other than a supervisor reads the status of a zombie. -/
def World.reap (w : World) (p : ℕ) : World :=
  match w.table.lookup p with
  | some q =>
      if q.zombie ∧ ∀ h ∈ w.unreaped, h.pid ≠ p then w.setTable (w.table.reap p) else w
  | none => w

/-- A call that begins, on a thread that is free. -/
def begin (w : World) (t : Thread) (c : Call) : World :=
  match w.call t with
  | .idle => w.goto t c
  | _ => w

/-- One step of the system. `start_all`, `stop_all`, `health` and `status` are calls one after the other
on one thread; `poll` stands for the one in `status` and for those of the `subprocess` module itself. -/
def step (w : World) : Action → World × Report
  | .isAlive t name => (begin w t (.isAlive name .poll), .none)
  | .startByName t name => (begin w t (.start name .enter), .none)
  | .stopByName t name => (begin w t (.stop name .enter), .none)
  | .advance t chance =>
      match w.call t with
      | .idle => (w, .none)
      | .isAlive name pc =>
          match aliveStep cfg w t.1 name pc with
          | (w', .inl pc') => (w'.goto t (.isAlive name pc'), .none)
          | (w', .inr answer) => (w'.goto t .idle, .alive name answer)
      | .start name pc => startStep cfg w t name chance pc
      | .stop name pc => stopStep cfg w t name chance.late pc
  | .openShell name p permitted => (w.openShell name p permitted, .none)
  | .writePidfile p => (w.writePidfile p, .none)
  | .poll h => ((w.poll h).1, .none)
  | .crash s => (w.crash s, .none)
  | .exit p => (w.setTable (w.table.exit p), .none)
  | .reap p => (w.reap p, .none)
  | .spawn p permitted => (w.setTable (w.table.spawn p none permitted false), .none)
  | .fork parent p => (w.setTable (w.table.fork parent p), .none)
  | .setGroup p g => (w.setTable (w.table.setGroup p g), .none)

end Steps

/-! ## What is remembered -/

def AlivePc.pids : AlivePc → List ℕ
  | .probe p => [p]
  | _ => []

def StartPc.pids : StartPc → List ℕ
  | .check pc => pc.pids
  | _ => []

/-- The numbers that `stop_by_name` may still signal without looking anywhere. A handle is polled
before its number is used, and counts from there to the signal. -/
def StopPc.pids : StopPc → List ℕ
  | .enter | .read _ | .waitKilledPid _ | .waitKilled _ | .cleanup => []
  | .termPid p _ | .recheck p | .killPid p => [p]
  | .pollOwn managed _ | .waitPid managed _ | .waitProcess managed _ => managed.toList
  | .sendSignal managed _ _ => managed.toList
  | .getPgid managed h _ | .killOwn managed h _ => h.pid :: managed.toList
  | .killGroup managed _ _ pgid => pgid :: managed.toList
  | .killManaged p h => [p, h.pid]

/-- The handle a stop works on. -/
def StopPc.own : StopPc → Option Popen
  | .read own | .termPid _ own | .pollOwn _ own | .waitPid _ own => own
  | .getPgid _ h _ | .killGroup _ h _ _ | .sendSignal _ h _ | .killOwn _ h _ => some h
  | .waitProcess _ h | .killManaged _ h | .waitKilled h => some h
  | _ => none

/-- A call for the name has the number in a local variable that it will use. -/
def Call.Holds (name : String) (p : ℕ) : Call → Prop
  | .idle => False
  | .isAlive x pc => x = name ∧ p ∈ pc.pids
  | .start x pc => x = name ∧ p ∈ pc.pids
  | .stop x pc => x = name ∧ p ∈ pc.pids

/-- A stop of the name is about to signal the group. -/
def Call.HoldsGroup (name : String) (g : ℕ) : Call → Prop
  | .stop x (.killGroup _ _ _ pgid) => x = name ∧ g = pgid
  | _ => False

/-- The handle of a stop is one of its name. -/
def Call.Named : Call → Prop
  | .stop name pc => ∀ h, pc.own = some h → h.name = name
  | _ => True

/-- The number is remembered for the name: in its pidfile, or by a call. -/
def World.Remembers (w : World) (name : String) (p : ℕ) : Prop :=
  readPidfile (w.pidfile name) = some p ∨ ∃ t, (w.call t).Holds name p

def World.RemembersGroup (w : World) (name : String) (g : ℕ) : Prop :=
  ∃ t, (w.call t).HoldsGroup name g

/-- A new process under the number is one of every name that remembers the number. -/
def World.Spares (w : World) (p : ℕ) (launchedAs : Option String) : Prop :=
  ∀ name, w.Remembers name p → launchedAs = some name

/-- No zombie has the number. -/
def World.NoZombie (w : World) (p : ℕ) : Prop := ∀ q ∈ w.table.processes, q.pid = p → q.zombie = false

/-- **No stranger under a remembered number.** A process gets a number only if whoever remembers the
number does so for the name the process is launched under; and the probe of `is_alive` does not meet a
process that has exited and was not reaped. -/
def Careful (w : World) : Action → Prop
  | .advance t chance =>
      match w.call t with
      | .start name .launch => w.Spares chance.pid (some name)
      | .start _ (.check pc) => ∀ p ∈ pc.pids, w.NoZombie p
      | .isAlive _ pc => ∀ p ∈ pc.pids, w.NoZombie p
      | _ => True
  | .openShell name p _ => w.Spares p (some name)
  | .spawn p _ => w.Spares p none
  | .fork _ p => w.Spares p none
  | _ => True

/-- An answer of True is about a live process of the name; a signal goes to processes, or to a group,
launched under the name. -/
def Report.Own (w : World) : Report → Prop
  | .alive name true => ∃ q ∈ w.table.processes, q.launchedAs = some name ∧ q.zombie = false
  | .signalled name _ (.pid _) receivers => ∀ q ∈ receivers, q.launchedAs = some name
  | .signalled name _ (.group _) receivers => ∀ q ∈ receivers, q.group.launchedAs = some name
  | _ => True

structure Inv (w : World) : Prop where
  pids : Registry.Sound Process.pid (fun name q => q.launchedAs = some name) w.Remembers
    w.table.registry
  groups : Registry.Sound (·.group.id) (fun name q => q.group.launchedAs = some name)
    w.RemembersGroup w.table.registry
  /-- The number of a handle that was not reaped is taken, by the process of the handle. -/
  handles : ∀ h ∈ w.unreaped, ∃ q ∈ w.table.processes, q.pid = h.pid ∧ q.launchedAs = some h.name
  distinct : ∀ h ∈ w.unreaped, ∀ h' ∈ w.unreaped, h.pid = h'.pid → h = h'
  known : ∀ s name h, w.processes s name = some h → h.name = name
  named : ∀ t, (w.call t).Named

/-! ## What each kind of change keeps -/

section Frame

variable {w : World}

theorem Call.holds_of_holdsGroup {name : String} {g : ℕ} {c : Call} (h : c.HoldsGroup name g) :
    c.Holds name g := by
  unfold Call.HoldsGroup at h
  split at h
  · obtain ⟨rfl, rfl⟩ := h
    exact ⟨rfl, List.mem_cons_self⟩
  · cases h

/-- What a call has in a variable is remembered. -/
theorem remembers_of_call {t : Thread} {c : Call} (hcall : w.call t = c) {name : String} {p : ℕ}
    (hp : c.Holds name p) : w.Remembers name p := by
  refine Or.inr ⟨t, ?_⟩
  rw [hcall]
  exact hp

theorem remembers_of_group {name : String} {g : ℕ} (h : w.RemembersGroup name g) :
    w.Remembers name g := by
  obtain ⟨t, ht⟩ := h
  exact remembers_of_call rfl (Call.holds_of_holdsGroup ht)

theorem goto_call_cases (t : Thread) (c : Call) (t' : Thread) :
    (w.goto t c).call t' = c ∨ (w.goto t c).call t' = w.call t' := by
  by_cases h : t' = t
  · exact Or.inl (by rw [h]; exact Function.update_self ..)
  · exact Or.inr (Function.update_of_ne h ..)

/-- A thread moves: what it now has in its variables must be of its name. -/
theorem Inv.goto (h : Inv w) (t : Thread) {c : Call}
    (hpids : ∀ name p, c.Holds name p → w.Remembers name p ∨
      ∀ q ∈ w.table.processes, q.pid = p → q.launchedAs = some name)
    (hgroups : ∀ name g, c.HoldsGroup name g → ∀ q ∈ w.table.processes, q.group.id = g →
      q.group.launchedAs = some name)
    (hnamed : c.Named) : Inv (w.goto t c) where
  pids := by
    refine h.pids.hold fun name p hp => ?_
    rcases hp with hfile | ⟨t', ht'⟩
    · exact Or.inl (Or.inl hfile)
    · rcases goto_call_cases (w := w) t c t' with hc | hc
      · rw [hc] at ht'
        exact hpids name p ht'
      · rw [hc] at ht'
        exact Or.inl (Or.inr ⟨t', ht'⟩)
  groups := by
    refine h.groups.hold fun name g hg => ?_
    obtain ⟨t', ht'⟩ := hg
    rcases goto_call_cases (w := w) t c t' with hc | hc
    · rw [hc] at ht'
      exact Or.inr (hgroups name g ht')
    · rw [hc] at ht'
      exact Or.inl ⟨t', ht'⟩
  handles := h.handles
  distinct := h.distinct
  known := h.known
  named t' := by
    rcases goto_call_cases (w := w) t c t' with hc | hc
    · rw [hc]
      exact hnamed
    · rw [hc]
      exact h.named t'

/-- The kernel changes the table: handles keep their processes, and strangers stay away from remembered
numbers. -/
theorem Inv.setTable (h : Inv w) {table : ProcessTable} {new : ℕ → Option String → Prop}
    (hchange : ProcessTable.Change w.table table new)
    (hkeeps : ∀ h ∈ w.unreaped, ProcessTable.Keeps w.table table h.pid)
    (hnew : ∀ p launchedAs, new p launchedAs → w.Spares p launchedAs) : Inv (w.setTable table) where
  pids := by
    refine h.pids.change fun x hx => ?_
    rcases hchange.pids x hx with ⟨a, ha, hpid, hname⟩ | hx'
    · exact Or.inl ⟨a, ha, hpid, fun name h => hname ▸ h⟩
    · exact Or.inr (hnew _ _ hx')
  groups := by
    refine h.groups.change fun x hx => ?_
    rcases hchange.groups x hx with ⟨a, ha, hgroup⟩ | hx'
    · exact Or.inl ⟨a, ha, by rw [hgroup], fun name h => hgroup ▸ h⟩
    · exact Or.inr fun name hg => hnew _ _ hx' name (remembers_of_group hg)
  handles x hx := hkeeps x hx x.name (h.handles x hx)
  distinct := h.distinct
  known := h.known
  named := h.named

/-- Handles are forgotten, or reaped. -/
theorem Inv.forget (h : Inv w) {unreaped : List Popen} (hsub : ∀ x ∈ unreaped, x ∈ w.unreaped) :
    Inv { w with unreaped := unreaped } where
  pids := h.pids
  groups := h.groups
  handles x hx := h.handles x (hsub x hx)
  distinct x hx x' hx' := h.distinct x (hsub x hx) x' (hsub x' hx')
  known := h.known
  named := h.named

/-- A zombie is reaped that no handle is waiting for. -/
theorem Inv.reapTable (h : Inv w) {p : ℕ} (hfree : ∀ x ∈ w.unreaped, x.pid ≠ p) :
    Inv (w.setTable (w.table.reap p)) :=
  h.setTable (ProcessTable.change_reap p fun _ _ => False)
    (fun x hx => ProcessTable.keeps_reap (hfree x hx)) fun _ _ hnew => hnew.elim

/-! ### Handles -/

/-- A poll that finds the process running changes nothing. -/
theorem poll_running {h : Popen} (hrun : (w.poll h).2 = true) :
    (w.poll h).1 = w ∧ h ∈ w.unreaped ∧
      ∃ q ∈ w.table.processes, q.pid = h.pid ∧ q.zombie = false := by
  unfold World.poll at hrun ⊢
  split at hrun
  · rename_i hmem
    rw [if_pos hmem]
    split at hrun
    · rename_i q hq
      split at hrun
      · cases hrun
      · rename_i hzombie
        obtain ⟨hq', hpid⟩ := ProcessTable.mem_of_lookup hq
        refine ⟨?_, hmem, q, hq', hpid, by simpa using hzombie⟩
        rw [if_neg hzombie]
    · cases hrun
  · cases hrun

/-- The process of a handle that polls as running is one of its name. -/
theorem Inv.launched_of_running (hinv : Inv w) {h : Popen} (hrun : (w.poll h).2 = true) :
    ∀ q ∈ w.table.processes, q.pid = h.pid → q.launchedAs = some h.name := by
  intro q hq hpid
  obtain ⟨a, ha, hpid', hname⟩ := hinv.handles h (poll_running hrun).2.1
  rw [w.table.registry.eq_of_key hq ha (hpid.trans hpid'.symm)]
  exact hname

theorem Inv.poll (hinv : Inv w) (h : Popen) : Inv (w.poll h).1 := by
  unfold World.poll
  split
  · rename_i hmem
    have hclosed : ∀ x ∈ w.unreaped.filter (· ≠ h), x ∈ w.unreaped ∧ x ≠ h := fun x hx => by
      rw [List.mem_filter, decide_eq_true_iff] at hx
      exact hx
    have hforget := hinv.forget fun x hx => (hclosed x hx).1
    split
    · split
      · -- the handles left have other numbers
        refine Inv.reapTable hforget fun x hx hpid => ?_
        exact (hclosed x hx).2 (hinv.distinct x (hclosed x hx).1 h hmem hpid)
      · exact hinv
    · exact hforget
  · exact hinv

@[simp] theorem poll_call (h : Popen) : (w.poll h).1.call = w.call := by
  unfold World.poll
  repeat' split
  all_goals rfl

@[simp] theorem poll_pidfile (h : Popen) : (w.poll h).1.pidfile = w.pidfile := by
  unfold World.poll
  repeat' split
  all_goals rfl

/-! ### Pidfiles -/

theorem setPidfile_cases {name name' : String} {text : Option PidText} {p : ℕ}
    (h : readPidfile ((w.setPidfile name text).pidfile name') = some p) :
    (name' = name ∧ readPidfile text = some p) ∨ readPidfile (w.pidfile name') = some p := by
  have hread : readPidfile (Function.update w.pidfile name text name') = some p := h
  by_cases hname : name' = name
  · subst hname
    rw [Function.update_self] at hread
    exact Or.inl ⟨rfl, hread⟩
  · rw [Function.update_of_ne hname] at hread
    exact Or.inr hread

theorem eq_number_of_readPidfile {text : Option PidText} {p : ℕ} (h : readPidfile text = some p) :
    text = some (.number p) := by
  unfold readPidfile at h
  split at h
  · split at h
    · cases h
      rfl
    · cases h
  · cases h

/-- A pidfile is written with the number of a process of its name, or deleted. -/
theorem Inv.setPidfile (h : Inv w) {name : String} {text : Option PidText}
    (htext : ∀ p, readPidfile text = some p →
      ∀ q ∈ w.table.processes, q.pid = p → q.launchedAs = some name) :
    Inv (w.setPidfile name text) where
  pids := by
    refine h.pids.hold fun name' p hp => ?_
    rcases hp with hfile | hcall
    · rcases setPidfile_cases hfile with ⟨rfl, hnew⟩ | hold
      · exact Or.inr (htext p hnew)
      · exact Or.inl (Or.inl hold)
    · exact Or.inl (Or.inr hcall)
  groups := h.groups
  handles := h.handles
  distinct := h.distinct
  known := h.known
  named := h.named

theorem Inv.unlink (h : Inv w) (name : String) : Inv (w.setPidfile name none) :=
  h.setPidfile fun _ hp => nomatch hp

theorem Inv.writePidfile (h : Inv w) (p : ℕ) : Inv (w.writePidfile p) := by
  unfold World.writePidfile
  split
  · rename_i q hq
    split
    · rename_i name hname
      split
      · obtain ⟨hmem, rfl⟩ := ProcessTable.mem_of_lookup hq
        have hwrote : Inv (w.setTable (w.table.wrote q.pid)) :=
          h.setTable (ProcessTable.change_wrote q.pid fun _ _ => False)
            (fun x _ => ProcessTable.keeps_wrote q.pid x.pid) fun _ _ hnew => hnew.elim
        refine hwrote.setPidfile fun p hp x hx hpid => ?_
        -- the text is the number of the shell itself
        have hp' : q.pid = p := by
          have htext := eq_number_of_readPidfile hp
          rw [Option.some.injEq, PidText.number.injEq] at htext
          exact htext
        rcases (ProcessTable.change_wrote q.pid fun _ _ => False).pids x hx with
          ⟨a, ha, hpid', hname'⟩ | hnew
        · rw [← hname', ← hname]
          rw [w.table.registry.eq_of_key ha hmem (hpid'.trans (hpid.trans hp'.symm))]
        · cases hnew
      · exact h
    · exact h
  · exact h

/-! ### Launches, crashes and what the kernel does -/

/-- A new process under a number that the names remembering it spare. -/
theorem Inv.spawn (h : Inv w) {p : ℕ} {launchedAs : Option String} (permitted writer : Bool)
    (hspares : w.Spares p launchedAs) :
    Inv (w.setTable (w.table.spawn p launchedAs permitted writer)) := by
  refine h.setTable (ProcessTable.change_spawn p launchedAs permitted writer)
    (fun x _ => ProcessTable.keeps_spawn p launchedAs permitted writer x.pid) ?_
  rintro p' launchedAs' ⟨rfl, rfl⟩
  exact hspares

/-- `Popen` returns a handle on the process it started. -/
theorem Inv.popen (h : Inv w) (s : ℕ) {name : String} (terminal : Bool) {chance : Chance}
    (hfree : w.table.Free chance.pid) (hspares : w.Spares chance.pid (some name)) :
    Inv (w.popen s name terminal chance) := by
  have htable := h.spawn chance.permitted false hspares
  -- the number was free, so no handle has it
  have hother : ∀ x ∈ w.unreaped, x.pid ≠ chance.pid := by
    intro x hx hpid
    obtain ⟨q, hq, hqpid, -⟩ := h.handles x hx
    exact (hfree q hq).1 (hqpid.trans hpid)
  constructor
  case pids => exact htable.pids
  case groups => exact htable.groups
  case handles =>
    intro x hx
    rcases List.mem_cons.mp hx with rfl | hx
    · exact ⟨_, ProcessTable.mem_spawn (some name) chance.permitted false hfree, rfl, rfl⟩
    · exact htable.handles x hx
  case distinct =>
    intro x hx y hy hpid
    rcases List.mem_cons.mp hx with rfl | hx <;> rcases List.mem_cons.mp hy with rfl | hy
    · rfl
    · exact absurd hpid.symm (hother y hy)
    · exact absurd hpid (hother x hx)
    · exact h.distinct x hx y hy hpid
  case known =>
    intro s' name' x hx
    have hx' : Function.update w.processes s (Function.update (w.processes s) name
        (some ⟨w.launches, chance.pid, name, s⟩)) s' name' = some x := hx
    by_cases hs : s' = s
    · subst hs
      rw [Function.update_self] at hx'
      by_cases hname : name' = name
      · subst hname
        rw [Function.update_self] at hx'
        cases hx'
        rfl
      · rw [Function.update_of_ne hname] at hx'
        exact h.known s' name' x hx'
    · rw [Function.update_of_ne hs] at hx'
      exact h.known s' name' x hx'
  case named => exact h.named

theorem Inv.openShell (h : Inv w) {name : String} {p : ℕ} (permitted : Bool)
    (hspares : w.Spares p (some name)) : Inv (w.openShell name p permitted) := by
  unfold World.openShell
  split
  · have htable := h.spawn permitted true hspares
    exact ⟨htable.pids, htable.groups, htable.handles, htable.distinct, htable.known, htable.named⟩
  · exact h

theorem Inv.crash (h : Inv w) (s : ℕ) : Inv (w.crash s) := by
  have hcall : ∀ t, (w.crash s).call t = .idle ∨ (w.crash s).call t = w.call t := by
    intro t
    by_cases hs : t.1 = s
    · exact Or.inl (if_pos hs)
    · exact Or.inr (if_neg hs)
  constructor
  case pids =>
    refine h.pids.hold fun name p hp => Or.inl ?_
    rcases hp with hfile | ⟨t, ht⟩
    · exact Or.inl hfile
    · rcases hcall t with hc | hc
      · rw [hc] at ht
        cases ht
      · rw [hc] at ht
        exact Or.inr ⟨t, ht⟩
  case groups =>
    refine h.groups.hold fun name g hg => Or.inl ?_
    obtain ⟨t, ht⟩ := hg
    rcases hcall t with hc | hc
    · rw [hc] at ht
      cases ht
    · rw [hc] at ht
      exact ⟨t, ht⟩
  case handles => exact fun x hx => h.handles x (List.mem_of_mem_filter hx)
  case distinct =>
    exact fun x hx y hy => h.distinct x (List.mem_of_mem_filter hx) y (List.mem_of_mem_filter hy)
  case known =>
    intro s' name x hx
    have hx' : Function.update w.processes s (fun _ => none) s' name = some x := hx
    by_cases hs : s' = s
    · subst hs
      rw [Function.update_self] at hx'
      cases hx'
    · rw [Function.update_of_ne hs] at hx'
      exact h.known s' name x hx'
  case named =>
    intro t
    rcases hcall t with hc | hc
    · rw [hc]
      trivial
    · rw [hc]
      exact h.named t

theorem Inv.reap (h : Inv w) (p : ℕ) : Inv (w.reap p) := by
  unfold World.reap
  split
  · split
    · rename_i hguard
      exact h.reapTable hguard.2
    · exact h
  · exact h

theorem Inv.exit (h : Inv w) (p : ℕ) : Inv (w.setTable (w.table.exit p)) :=
  h.setTable (ProcessTable.change_exit p fun _ _ => False)
    (fun x _ => ProcessTable.keeps_exit p x.pid) fun _ _ hnew => hnew.elim

theorem Inv.fork (h : Inv w) (parent : ℕ) {p : ℕ} (hspares : w.Spares p none) :
    Inv (w.setTable (w.table.fork parent p)) := by
  refine h.setTable (ProcessTable.change_fork p parent)
    (fun x _ => ProcessTable.keeps_fork p parent x.pid) ?_
  rintro p' launchedAs ⟨rfl, rfl⟩
  exact hspares

/-- A process that leaves its group for a new one has a number that nobody remembers: whoever did would
remember it for a launched process. -/
theorem Inv.setGroup (h : Inv w) (p g : ℕ) : Inv (w.setTable (w.table.setGroup p g)) := by
  refine h.setTable (ProcessTable.change_setGroup p g)
    (fun x _ => ProcessTable.keeps_setGroup p g x.pid) ?_
  rintro p' launchedAs ⟨rfl, a, ha, hpid, hnone⟩ name hname
  rw [← hnone]
  exact h.pids name p' hname a ha hpid

end Frame

/-! ## One step -/

section Step

variable {cfg : Configs} {w : World}

theorem Inv.goto_free (h : Inv w) (t : Thread) {c : Call} (hfree : ∀ name p, ¬ c.Holds name p)
    (hnamed : c.Named) : Inv (w.goto t c) :=
  h.goto t (fun name p hp => absurd hp (hfree name p))
    (fun name g hg => absurd (Call.holds_of_holdsGroup hg) (hfree name g)) hnamed

theorem Inv.idle (h : Inv w) (t : Thread) : Inv (w.goto t .idle) :=
  h.goto_free t (fun _ _ hp => hp) trivial

/-! ### `is_alive` -/

theorem Inv.aliveStep (h : Inv w) (cfg : Configs) (s : ℕ) (name : String) (pc : AlivePc) :
    Inv (aliveStep cfg w s name pc).1 := by
  cases pc with
  | poll =>
      simp only [PidReuse.aliveStep]
      split
      · split
        · exact h.poll _
        · exact h.poll _
      · exact h
  | readPid =>
      simp only [PidReuse.aliveStep]
      split
      · exact h
      · exact h
  | probe p => exact h

theorem aliveStep_pidfile (cfg : Configs) (w : World) (s : ℕ) (name : String) (pc : AlivePc) :
    (aliveStep cfg w s name pc).1.pidfile = w.pidfile := by
  cases pc with
  | poll =>
      simp only [aliveStep]
      split
      · split <;> simp
      · rfl
  | readPid =>
      simp only [aliveStep]
      split <;> rfl
  | probe p => rfl

/-- The number `is_alive` goes on with is the one in the pidfile. -/
theorem pids_of_aliveStep {s : ℕ} {name : String} {pc pc' : AlivePc}
    (h : (aliveStep cfg w s name pc).2 = .inl pc') :
    ∀ p ∈ pc'.pids, readPidfile (w.pidfile name) = some p := by
  cases pc with
  | poll =>
      simp only [aliveStep] at h
      split at h
      · split at h
        · cases h
        · cases h
          exact List.forall_mem_nil _
      · cases h
        exact List.forall_mem_nil _
  | readPid =>
      simp only [aliveStep] at h
      split at h
      · rename_i p hp
        cases h
        intro p' hp'
        rw [List.mem_singleton.mp hp']
        unfold World.managedPid at hp
        obtain ⟨_, -, hread⟩ := Option.bind_eq_some_iff.mp hp
        exact hread
      · cases h
  | probe p => cases h

/-- **An answer of True.** The handle polled as running, or the number that was read is that of a
process of the name. -/
theorem Inv.alive_of_true (h : Inv w) {s : ℕ} {name : String} {pc : AlivePc}
    (hheld : ∀ p ∈ pc.pids, w.Remembers name p) (hzombie : ∀ p ∈ pc.pids, w.NoZombie p)
    (htrue : (PidReuse.aliveStep cfg w s name pc).2 = .inr true) :
    ∃ q ∈ w.table.processes, q.launchedAs = some name ∧ q.zombie = false := by
  cases pc with
  | poll =>
      simp only [PidReuse.aliveStep] at htrue
      split at htrue
      · rename_i x hx
        split at htrue
        · rename_i hrun
          obtain ⟨-, -, q, hq, hpid, hlive⟩ := poll_running hrun
          refine ⟨q, hq, ?_, hlive⟩
          rw [h.launched_of_running hrun q hq hpid, h.known s name x hx]
        · cases htrue
      · cases htrue
  | readPid =>
      simp only [PidReuse.aliveStep] at htrue
      split at htrue
      · cases htrue
      · cases htrue
  | probe p =>
      have hrun : w.table.pidIsRunning p = true := Sum.inr.inj htrue
      obtain ⟨q, hq, hpid⟩ := ProcessTable.exists_of_pidIsRunning hrun
      exact ⟨q, hq, h.pids name p (hheld p List.mem_cons_self) q hq hpid,
        hzombie p List.mem_cons_self q hq hpid⟩

/-- A thread goes on in `is_alive`, or in the check of `start_by_name`. -/
theorem Inv.gotoAlive (h : Inv w) (t : Thread) {s : ℕ} {name : String} {pc pc' : AlivePc} {w' : World}
    (hstep : PidReuse.aliveStep cfg w s name pc = (w', .inl pc')) {c : Call}
    (hc : ∀ x p, c.Holds x p → x = name ∧ p ∈ pc'.pids) (hg : ∀ x g, ¬ c.HoldsGroup x g)
    (hnamed : c.Named) : Inv (w'.goto t c) := by
  have halive := h.aliveStep cfg s name pc
  have hfile := aliveStep_pidfile cfg w s name pc
  rw [hstep] at halive hfile
  refine halive.goto t ?_ (fun x g hx => absurd hx (hg x g)) hnamed
  intro x p hp
  obtain ⟨rfl, hp⟩ := hc x p hp
  refine Or.inl (Or.inl ?_)
  rw [show w'.pidfile = w.pidfile from hfile]
  exact pids_of_aliveStep (congrArg Prod.snd hstep) p hp

/-! ### `start_by_name` -/

theorem Inv.startStep (h : Inv w) {t : Thread} {name : String} {chance : Chance} {pc : StartPc}
    (hcall : w.call t = .start name pc) (hcareful : Careful w (.advance t chance)) :
    Inv (startStep cfg w t name chance pc).1 := by
  have hgo : ∀ pc' : StartPc, pc'.pids = [] → Inv (w.goto t (.start name pc')) := by
    intro pc' hnone
    refine h.goto_free t (fun x p hp => ?_) trivial
    obtain ⟨-, hp⟩ := hp
    rw [hnone] at hp
    cases hp
  cases pc with
  | enter =>
      simp only [PidReuse.startStep]
      split
      · exact h.idle t
      · split
        · exact h.idle t
        · exact hgo _ rfl
  | check pc =>
      have halive := h.aliveStep cfg t.1 name pc
      simp only [PidReuse.startStep]
      split
      · rename_i w' pc' heq
        exact h.gotoAlive t heq (fun x p hp => ⟨hp.1.symm, hp.2⟩) (fun _ _ hg => hg) trivial
      · rename_i w' heq
        rw [heq] at halive
        exact halive.idle t
      · rename_i w' heq
        rw [heq] at halive
        exact halive.goto_free t (fun _ _ hp => List.not_mem_nil hp.2) trivial
  | clear =>
      simp only [PidReuse.startStep]
      split
      · exact h.idle t
      · split
        · exact h.idle t
        · split
          · exact hgo _ rfl
          · exact hgo _ rfl
  | unlink =>
      simp only [PidReuse.startStep]
      split
      · exact h.idle t
      · exact (h.unlink name).goto_free t (fun _ _ hp => List.not_mem_nil hp.2) trivial
  | launch =>
      simp only [Careful, hcall] at hcareful
      simp only [PidReuse.startStep]
      split
      · exact h.idle t
      · split
        · exact h.idle t
        · split
          · exact h.idle t
          · split
            · rename_i hfree
              exact (h.popen t.1 _ hfree hcareful).idle t
            · exact h

/-! ### `stop_by_name` -/

/-- A stop goes on: each number it has is one that was remembered, or that of a process of the name. -/
theorem Inv.stopTo (h : Inv w) (t : Thread) {name : String} {pc : StopPc}
    (hpids : ∀ p ∈ pc.pids, w.Remembers name p ∨
      ∀ q ∈ w.table.processes, q.pid = p → q.launchedAs = some name)
    (hgroups : ∀ x g, (Call.stop name pc).HoldsGroup x g → ∀ q ∈ w.table.processes,
      q.group.id = g → q.group.launchedAs = some x)
    (hown : ∀ x, pc.own = some x → x.name = name) : Inv (w.goto t (.stop name pc)) := by
  refine h.goto t ?_ hgroups hown
  rintro x p ⟨rfl, hp⟩
  exact hpids p hp

theorem remembers_of_stop {t : Thread} {name : String} {pc : StopPc} (hcall : w.call t = .stop name pc)
    {p : ℕ} (hp : p ∈ pc.pids) : w.Remembers name p :=
  remembers_of_call hcall ⟨rfl, hp⟩

theorem Inv.name_of_own (h : Inv w) {t : Thread} {name : String} {pc : StopPc}
    (hcall : w.call t = .stop name pc) {x : Popen} (hx : pc.own = some x) : x.name = name := by
  have hnamed := h.named t
  rw [hcall] at hnamed
  exact hnamed x hx

/-- A stop goes on with numbers and a handle it already had. -/
theorem Inv.stopOn (h : Inv w) {t : Thread} {name : String} {pc pc' : StopPc}
    (hcall : w.call t = .stop name pc) (hpids : ∀ p ∈ pc'.pids, p ∈ pc.pids)
    (hgroups : ∀ x g, ¬ (Call.stop name pc').HoldsGroup x g)
    (hown : ∀ x, pc'.own = some x → pc.own = some x) : Inv (w.goto t (.stop name pc')) :=
  h.stopTo t (fun p hp => Or.inl (remembers_of_stop hcall (hpids p hp)))
    (fun x g hg => absurd hg (hgroups x g)) (fun _ hx => h.name_of_own hcall (hown _ hx))

theorem Inv.cleanup (h : Inv w) (t : Thread) (name : String) : Inv (w.goto t (.stop name .cleanup)) :=
  h.stopTo t (List.forall_mem_nil _) (fun _ _ hg => hg.elim) fun _ hx => nomatch hx

/-- After `_terminate_process_group` a stop has at most the number it read. -/
theorem Inv.afterGroup (h : Inv w) {t : Thread} {name : String} {pc : StopPc} {managed : Option ℕ}
    {x : Popen} (signum : Signal) (hcall : w.call t = .stop name pc)
    (hpids : ∀ p ∈ managed.toList, p ∈ pc.pids) (hown : pc.own = some x) :
    Inv (w.goto t (.stop name (afterGroup managed x signum))) := by
  cases signum with
  | sigterm => exact h.stopOn hcall hpids (fun _ _ hg => hg) fun _ hx => hown.trans hx
  | sigkill => exact h.stopOn hcall (List.forall_mem_nil _) (fun _ _ hg => hg) fun _ hx => hown.trans hx

/-- A stop whose handle polls as running may go on with the number of the handle. -/
theorem Inv.stopRunning (h : Inv w) {t : Thread} {name : String} {pc pc' : StopPc} {x : Popen}
    (hcall : w.call t = .stop name pc) (hown : pc.own = some x) (hrun : (w.poll x).2 = true)
    (hpids : ∀ p ∈ pc'.pids, p = x.pid ∨ p ∈ pc.pids)
    (hgroups : ∀ y g, ¬ (Call.stop name pc').HoldsGroup y g)
    (hown' : ∀ y, pc'.own = some y → pc.own = some y) :
    Inv ((w.poll x).1.goto t (.stop name pc')) := by
  rw [(poll_running hrun).1]
  refine h.stopTo t (fun p hp => ?_) (fun y g hg => absurd hg (hgroups y g))
    (fun y hy => h.name_of_own hcall (hown' y hy))
  rcases hpids p hp with rfl | hp
  · refine Or.inr fun q hq hpid => ?_
    rw [h.launched_of_running hrun q hq hpid, h.name_of_own hcall hown]
  · exact Or.inl (remembers_of_stop hcall hp)

/-- A stop that found the group of its handle: it is the group the process was launched with. -/
theorem Inv.stopGroup (h : Inv w) {t : Thread} {name : String} {managed : Option ℕ} {x : Popen}
    {signum : Signal} (hcall : w.call t = .stop name (.getPgid managed x signum)) {q : Process}
    (hq : w.table.lookup x.pid = some q) :
    Inv (w.goto t (.stop name (.killGroup managed x signum q.group.id))) := by
  obtain ⟨hmem, hpid⟩ := ProcessTable.mem_of_lookup hq
  have hname : q.launchedAs = some name :=
    h.pids name x.pid (remembers_of_stop hcall List.mem_cons_self) q hmem hpid
  have hgroup := q.leads name hname
  refine h.stopTo t (fun p hp => Or.inl (remembers_of_stop hcall ?_)) ?_
    (fun y hy => h.name_of_own hcall hy)
  · rcases List.mem_cons.mp hp with rfl | hp
    · rw [hgroup, hpid]
      exact List.mem_cons_self
    · exact List.mem_cons_of_mem _ hp
  · rintro y g ⟨rfl, rfl⟩ q' hq' hid
    rw [w.table.oneGroup q' hq' q hmem hid, hgroup]

theorem Inv.stopStep (h : Inv w) {t : Thread} {name : String} {pc : StopPc} (late : Bool)
    (hcall : w.call t = .stop name pc) : Inv (stopStep cfg w t name late pc).1 := by
  have hcall' : ∀ x, (w.poll x).1.call t = .stop name pc := fun x => by rw [poll_call, hcall]
  cases pc with
  | enter =>
      exact h.stopTo t (List.forall_mem_nil _) (fun _ _ hg => hg.elim) (h.known t.1 name)
  | read own =>
      simp only [PidReuse.stopStep]
      split
      · exact h.idle t
      · rename_i p hmanaged
        obtain ⟨_, -, hread⟩ := Option.bind_eq_some_iff.mp hmanaged
        refine h.stopTo t (fun p' hp' => ?_) (fun _ _ hg => hg.elim)
          (fun y hy => h.name_of_own hcall hy)
        rw [List.mem_singleton.mp hp']
        exact Or.inl (Or.inl hread)
      · exact h.stopOn hcall (List.forall_mem_nil _) (fun _ _ hg => hg) fun _ hx => hx
  | termPid p own => exact h.stopOn hcall (fun _ hp => hp) (fun _ _ hg => hg) fun _ hx => hx
  | pollOwn managed own =>
      cases own with
      | none => exact h.stopOn hcall (fun _ hp => hp) (fun _ _ hg => hg) fun _ hx => hx
      | some x =>
          simp only [PidReuse.stopStep]
          split
          · rename_i hrun
            exact h.stopRunning hcall rfl hrun (fun _ hp => List.mem_cons.mp hp) (fun _ _ hg => hg)
              fun _ hy => hy
          · exact (h.poll x).stopOn (hcall' x) (fun _ hp => hp) (fun _ _ hg => hg) fun _ hy => hy
  | getPgid managed x signum =>
      simp only [PidReuse.stopStep]
      split
      · exact h.afterGroup signum hcall (fun _ hp => List.mem_cons_of_mem _ hp) rfl
      · exact h.stopGroup hcall ‹_›
  | killGroup managed x signum pgid =>
      simp only [PidReuse.stopStep]
      split
      · exact h.stopOn hcall (fun _ hp => List.mem_cons_of_mem _ hp) (fun _ _ hg => hg)
          fun _ hy => hy
      · exact h.afterGroup signum hcall (fun _ hp => List.mem_cons_of_mem _ hp) rfl
  | sendSignal managed x signum =>
      simp only [PidReuse.stopStep]
      split
      · rename_i hrun
        exact h.stopRunning hcall rfl hrun (fun _ hp => List.mem_cons.mp hp) (fun _ _ hg => hg)
          fun _ hy => hy
      · exact (h.poll x).afterGroup signum (hcall' x) (fun _ hp => hp) rfl
  | killOwn managed x signum =>
      simp only [PidReuse.stopStep]
      split
      · split
        · exact h.idle t
        · exact h.cleanup t name
      · exact h.afterGroup signum hcall (fun _ hp => List.mem_cons_of_mem _ hp) rfl
  | waitPid managed own =>
      simp only [PidReuse.stopStep]
      split
      · exact h
      · split
        · exact h.stopOn hcall (fun _ hp => hp) (fun _ _ hg => hg) fun _ hy => hy
        · exact h.stopOn hcall (fun _ hp => hp) (fun _ _ hg => hg) fun _ hy => nomatch hy
        · exact h.cleanup t name
  | recheck p =>
      simp only [PidReuse.stopStep]
      split
      · exact h.stopOn hcall (fun _ hp => hp) (fun _ _ hg => hg) fun _ hy => hy
      · exact h.cleanup t name
  | killPid p =>
      exact h.stopOn hcall (List.forall_mem_nil _) (fun _ _ hg => hg) fun _ hy => nomatch hy
  | waitKilledPid p =>
      simp only [PidReuse.stopStep]
      split
      · exact h
      · exact h.cleanup t name
  | waitProcess managed x =>
      simp only [PidReuse.stopStep]
      split
      · rename_i hrun
        split
        · split
          · refine h.stopRunning hcall rfl hrun (fun p hp => ?_) (fun _ _ hg => hg) fun _ hy => hy
            rcases List.mem_cons.mp hp with rfl | hp
            · exact Or.inr List.mem_cons_self
            · exact Or.inl (List.mem_singleton.mp hp)
          · exact h.stopRunning hcall rfl hrun (fun p hp => List.mem_cons.mp hp) (fun _ _ hg => hg)
              fun _ hy => hy
        · exact h.poll x
      · exact (h.poll x).cleanup t name
  | killManaged p x =>
      exact h.stopOn hcall (fun _ hp => List.mem_cons_of_mem _ hp) (fun _ _ hg => hg) fun _ hy => hy
  | waitKilled x =>
      simp only [PidReuse.stopStep]
      split
      · split
        · exact (h.poll x).cleanup t name
        · exact h.poll x
      · exact (h.poll x).cleanup t name
  | cleanup =>
      simp only [PidReuse.stopStep]
      split
      · exact h.idle t
      · exact (h.unlink name).idle t

/-! ### The signals -/

theorem Inv.own_kill (h : Inv w) {name : String} {p : ℕ} (signum : Signal)
    (hp : w.Remembers name p) :
    (deliveryReport name signum (.pid p) (w.table.kill p)).Own w := by
  unfold deliveryReport
  split
  · rename_i receivers hkill
    intro q hq
    obtain ⟨hmem, hpid⟩ := ProcessTable.receivers_kill hkill q hq
    exact h.pids name p hp q hmem hpid
  · trivial

theorem Inv.own_killpg (h : Inv w) {name : String} {g : ℕ} (signum : Signal)
    (hg : w.RemembersGroup name g) :
    (deliveryReport name signum (.group g) (w.table.killpg g)).Own w := by
  unfold deliveryReport
  split
  · rename_i receivers hkill
    intro q hq
    obtain ⟨hmem, hid⟩ := ProcessTable.receivers_killpg hkill q hq
    exact h.groups name g hg q hmem hid
  · trivial

/-- Every signal of a stop goes to its name. -/
theorem Inv.own_stopStep (h : Inv w) {t : Thread} {name : String} {pc : StopPc} (late : Bool)
    (hcall : w.call t = .stop name pc) : (PidReuse.stopStep cfg w t name late pc).2.Own w := by
  have hheld : ∀ p ∈ pc.pids, w.Remembers name p := fun p => remembers_of_stop hcall
  cases pc with
  | termPid p own => exact h.own_kill .sigterm (hheld p List.mem_cons_self)
  | killPid p => exact h.own_kill .sigkill (hheld p List.mem_cons_self)
  | killManaged p x => exact h.own_kill .sigkill (hheld p List.mem_cons_self)
  | killGroup managed x signum pgid =>
      have hgroup : w.RemembersGroup name pgid := ⟨t, by rw [hcall]; exact ⟨rfl, rfl⟩⟩
      simp only [PidReuse.stopStep]
      split
      · trivial
      · exact h.own_killpg signum hgroup
  | killOwn managed x signum =>
      simp only [PidReuse.stopStep]
      split
      · cases signum <;> trivial
      · exact h.own_kill signum (hheld x.pid List.mem_cons_self)
  | enter => trivial
  | read own =>
      simp only [PidReuse.stopStep]
      split <;> trivial
  | pollOwn managed own =>
      cases own with
      | none => trivial
      | some x =>
          simp only [PidReuse.stopStep]
          split <;> trivial
  | getPgid managed x signum =>
      simp only [PidReuse.stopStep]
      split <;> trivial
  | sendSignal managed x signum =>
      simp only [PidReuse.stopStep]
      split <;> trivial
  | waitPid managed own =>
      simp only [PidReuse.stopStep]
      split
      · trivial
      · split <;> trivial
  | recheck p =>
      simp only [PidReuse.stopStep]
      split <;> trivial
  | waitKilledPid p =>
      simp only [PidReuse.stopStep]
      split <;> trivial
  | waitProcess managed x =>
      simp only [PidReuse.stopStep]
      split
      · split
        · split <;> trivial
        · trivial
      · trivial
  | waitKilled x =>
      simp only [PidReuse.stopStep]
      split
      · split <;> trivial
      · trivial
  | cleanup =>
      simp only [PidReuse.stopStep]
      split <;> trivial

/-- The check of a start answers as `is_alive` does, and nothing else in it answers or signals. -/
theorem Inv.own_startStep (h : Inv w) {t : Thread} {name : String} {chance : Chance} {pc : StartPc}
    (hcall : w.call t = .start name pc) (hcareful : Careful w (.advance t chance)) :
    (PidReuse.startStep cfg w t name chance pc).2.Own w := by
  cases pc with
  | check pc =>
      have hheld : ∀ p ∈ pc.pids, w.Remembers name p := fun p hp =>
        remembers_of_call hcall ⟨rfl, hp⟩
      simp only [Careful, hcall] at hcareful
      simp only [PidReuse.startStep]
      split
      · trivial
      · rename_i heq
        exact h.alive_of_true hheld hcareful (congrArg Prod.snd heq)
      · trivial
  | enter =>
      simp only [PidReuse.startStep]
      split
      · trivial
      · split <;> trivial
  | clear =>
      simp only [PidReuse.startStep]
      split
      · trivial
      · split
        · trivial
        · split <;> trivial
  | unlink =>
      simp only [PidReuse.startStep]
      split <;> trivial
  | launch =>
      simp only [PidReuse.startStep]
      split
      · trivial
      · split
        · trivial
        · split
          · trivial
          · split <;> trivial

/-- **One step without a stranger under a remembered number.** -/
theorem Inv.step (h : Inv w) (cfg : Configs) {a : Action} (hcareful : Careful w a) :
    Inv (step cfg w a).1 ∧ (step cfg w a).2.Own w := by
  have hbegin : ∀ t c, (∀ name p, ¬ c.Holds name p) → c.Named → Inv (begin w t c) := by
    intro t c hfree hnamed
    unfold begin
    split
    · exact h.goto_free t hfree hnamed
    · exact h
  cases a with
  | isAlive t name => exact ⟨hbegin t _ (fun _ _ hp => List.not_mem_nil hp.2) trivial, trivial⟩
  | startByName t name => exact ⟨hbegin t _ (fun _ _ hp => List.not_mem_nil hp.2) trivial, trivial⟩
  | stopByName t name =>
      exact ⟨hbegin t _ (fun _ _ hp => List.not_mem_nil hp.2) (fun _ hx => nomatch hx), trivial⟩
  | advance t chance =>
      simp only [PidReuse.step]
      split
      · exact ⟨h, trivial⟩
      · rename_i name pc hcall
        have halive := h.aliveStep cfg t.1 name pc
        have hheld : ∀ p ∈ pc.pids, w.Remembers name p := fun p hp =>
          remembers_of_call hcall ⟨rfl, hp⟩
        simp only [Careful, hcall] at hcareful
        split
        · rename_i heq
          exact ⟨h.gotoAlive t heq (fun x p hp => ⟨hp.1.symm, hp.2⟩) (fun _ _ hg => hg) trivial,
            trivial⟩
        · rename_i w' answer heq
          rw [heq] at halive
          refine ⟨halive.idle t, ?_⟩
          cases answer with
          | false => trivial
          | true => exact h.alive_of_true hheld hcareful (congrArg Prod.snd heq)
      · exact ⟨h.startStep ‹_› hcareful, h.own_startStep ‹_› hcareful⟩
      · exact ⟨h.stopStep chance.late ‹_›, h.own_stopStep chance.late ‹_›⟩
  | openShell name p permitted => exact ⟨h.openShell permitted hcareful, trivial⟩
  | writePidfile p => exact ⟨h.writePidfile p, trivial⟩
  | poll x => exact ⟨h.poll x, trivial⟩
  | crash s => exact ⟨h.crash s, trivial⟩
  | exit p => exact ⟨h.exit p, trivial⟩
  | reap p => exact ⟨h.reap p, trivial⟩
  | spawn p permitted => exact ⟨h.spawn permitted false hcareful, trivial⟩
  | fork parent p => exact ⟨h.fork parent hcareful, trivial⟩
  | setGroup p g => exact ⟨h.setGroup p g, trivial⟩

end Step

/-! ## Whole runs -/

/-- No process, no handle, nobody at work; a pidfile may be there that is no number. -/
def World.start (unreadable : String → Bool) : World where
  table := ProcessTable.empty
  terminals := []
  pidfile name := if unreadable name then some .unreadable else none
  unreaped := []
  processes := fun _ _ => none
  launches := 0
  call := fun _ => .idle

theorem Inv.start (unreadable : String → Bool) : Inv (World.start unreadable) where
  pids _ _ _ _ hq := nomatch hq
  groups _ _ _ _ hq := nomatch hq
  handles _ hx := nomatch hx
  distinct _ hx := nomatch hx
  known _ _ _ hx := nomatch hx
  named _ := trivial

/-- **Supervision acts on its own children.** However the calls of any number of supervisors and
threads interleave with exits, crashes, pidfile writes and new processes: in every run in which no number
goes to a stranger while it is remembered and no probe meets a zombie, `is_alive` says True only of a
live process of the name, and `stop_by_name` signals only processes and groups of the name. -/
theorem acts_on_own (cfg : Configs) (unreadable : String → Bool) (as : List Action)
    (hcareful : ∀ e ∈ trace (step cfg) (World.start unreadable) as, Careful e.before e.input) :
    ∀ e ∈ trace (step cfg) (World.start unreadable) as, e.out.Own e.before := by
  have hinv := trace_invariant_of (C := fun e => Careful e.before e.input)
    (fun w a (h : Inv w) ha => ((h.step cfg ha).1 : Inv (step cfg w a).1)) (Inv.start unreadable) as
    hcareful
  intro e he
  have hstep := ((hinv e he).1.step cfg (hcareful e he)).2
  rw [eq_entry_of_mem (step cfg) he]
  exact hstep

/-- `task_controller` as `processes.yaml` has it, for every supervisor. -/
def tasks : Configs := fun _ => taskController .controller

/-- A step whose chance does not matter. -/
def go (t : Thread) : Action := .advance t ⟨false, 0, true⟩

/-- Supervisor 0 starts the task controller: the terminal is 100, the shell in it is 101. -/
def launchRun : List Action :=
  [.startByName (0, 0) "task_controller", go (0, 0), go (0, 0), go (0, 0), go (0, 0),
    .advance (0, 0) ⟨false, 100, true⟩, .openShell "task_controller" 101 true, .writePidfile 101]

/-- Supervisor 1 stops it, as far as the first signal. -/
def stopRun : List Action :=
  [.stopByName (1, 0) "task_controller", go (1, 0), go (1, 0), go (1, 0)]

/-- The shell, after it wrote its pidfile. -/
def shell : Process := .leader 101 (some "task_controller") true false

/-- As long as one thread alone made calls, and has no number, every number may be given out. -/
theorem spares_of_writes {w : World} {p : ℕ} {launchedAs : Option String}
    (hfile : ∀ name, readPidfile (w.pidfile name) = none) (t : Thread)
    (hnone : ∀ name, ¬ (w.call t).Holds name p) (cs : List Call)
    (hcall : ∀ t', w.call t' = Slots.writes (fun _ => .idle) (cs.map fun c => (t, c)) t') :
    w.Spares p launchedAs := by
  rintro name (hread | ⟨t', ht'⟩)
  · rw [hfile name] at hread
    cases hread
  · by_cases ht : t' = t
    · rw [ht] at ht'
      exact absurd ht' (hnone name)
    · have hother : ∀ e ∈ cs.map (fun c => (t, c)), e.1 ≠ t' := by
        intro e he
        obtain ⟨c, -, rfl⟩ := List.mem_map.mp he
        exact fun heq => ht heq.symm
      rw [hcall t', Slots.writes_of_notMem _ _ hother] at ht'
      cases ht'

/-- In the run without reuse the signal reaches the shell. -/
theorem acts_on_own_shell :
    ∃ e ∈ trace (step tasks) (World.start fun _ => false) (launchRun ++ stopRun),
      e.out = .signalled "task_controller" .sigterm (.pid 101) [shell] ∧ e.out.Own e.before := by
  refine ⟨_, List.mem_of_getElem? (i := 11) rfl, rfl, ?_⟩
  refine acts_on_own tasks (fun _ => false) (launchRun ++ stopRun) ?_ _
    (List.mem_of_getElem? (i := 11) rfl)
  simp only [launchRun, stopRun, go, List.cons_append, List.nil_append, trace, List.forall_mem_cons]
  refine ⟨trivial, trivial, List.forall_mem_nil _, List.forall_mem_nil _, trivial, ?_, ?_, trivial,
    trivial, trivial, trivial, trivial, List.forall_mem_nil _⟩
  · exact spares_of_writes (fun _ => rfl) (0, 0) (fun _ hp => List.not_mem_nil hp.2)
      [.start "task_controller" .enter, .start "task_controller" (.check .poll),
        .start "task_controller" (.check .readPid), .start "task_controller" .clear,
        .start "task_controller" .launch] fun _ => rfl
  · exact spares_of_writes (fun _ => rfl) (0, 0) (fun _ hp => hp)
      [.start "task_controller" .enter, .start "task_controller" (.check .poll),
        .start "task_controller" (.check .readPid), .start "task_controller" .clear,
        .start "task_controller" .launch, .idle] fun _ => rfl

/-- Supervisor 0 dies, the shell exits and is reaped, and a stranger gets its number. -/
def reuseRun : List Action :=
  launchRun ++ [.crash 0, .exit 101, .reap 101, .exit 100, .reap 100, .spawn 101 true,
    .isAlive (1, 0) "task_controller", go (1, 0), go (1, 0), go (1, 0)] ++ stopRun

/-- The number of the shell is reused: supervisor 1 takes the stranger for the task controller, and
signals it. -/
theorem stranger_signalled :
    (∃ e ∈ trace (step tasks) (World.start fun _ => false) reuseRun,
      e.out = .alive "task_controller" true ∧
        e.before.table.processes = [.leader 101 none true false] ∧ ¬ e.out.Own e.before) ∧
    (∃ e ∈ trace (step tasks) (World.start fun _ => false) reuseRun,
      e.out = .signalled "task_controller" .sigterm (.pid 101) [.leader 101 none true false] ∧
        ¬ e.out.Own e.before) := by
  constructor
  · refine ⟨_, List.mem_of_getElem? (i := 17) rfl, rfl, rfl, ?_⟩
    rintro ⟨q, hq, hname, -⟩
    obtain rfl := List.mem_singleton.mp hq
    cases hname
  · refine ⟨_, List.mem_of_getElem? (i := 21) rfl, rfl, ?_⟩
    intro hown
    have hname := hown _ List.mem_cons_self
    cases hname

end SparqControl.Supervisor.PidReuse
