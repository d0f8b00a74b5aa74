/-
# SparqControl.Supervisor.ProcessSupervisor — two supervisors over one pid directory.

The controller and the dashboard each own a `ProcessSupervisor`. Both may start and stop a process by
name, from several threads, and they see each other's processes only through
`/tmp/qhrr_robot_controller_processes/<name>.pid`. That file is written by the launched shell itself,
some time after `Popen` returned, and only for processes with a terminal of their own; it is deleted
by `start_by_name` before a launch and by `stop_by_name` at its end.

Every file access, liveness probe and launch is a step of its own here, and so are the shell's write
and every exit. `at_most_one_alive` says what the check in `start_by_name` is worth: one live process
per name, in every run that stays out of three windows — two starts of one name at once, a start while
a live process is not in the pidfile yet (or never will be), a stop that deletes the pidfile of a
process that did not die.
-/
import SparqControl.Lib.Dict
import SparqControl.Lib.Slots
import SparqControl.Lib.Trace

namespace SparqControl.Supervisor

open SparqControl.Lib SparqControl.Lib.Trace SparqControl.Lib.Slots

/-! ## The data -/

inductive SupervisorId where
  | controller | dashboard
  deriving DecidableEq

/-- A thread of one of the two: the dashboard serves its requests from a pool. -/
abbrev Thread := SupervisorId × ℕ

/-- The fields of `ProcessConfig` that starting and stopping read. -/
structure ProcessConfig where
  name : String
  command : List String
  startOrder : ℤ
  newTerminal : Bool
  terminalCommand : List String

/-- The configured processes of each supervisor. -/
abbrev Configs := SupervisorId → List ProcessConfig

/-- `process_configs`. -/
def processConfigs (configs : List ProcessConfig) : Dict String ProcessConfig :=
  Dict.ofList (configs.map fun c => (c.name, c))

/-- A launched process: still unknown to the pid directory, named by it, or gone. -/
inductive Life where
  | launched | announced | exited
  deriving DecidableEq

/-- One `Popen`. With a terminal, the handle is the terminal's and the process is the shell in it;
without one they are the same process. -/
structure Instance where
  name : String
  terminal : Bool
  handleAlive : Bool
  life : Life
  deriving DecidableEq

/-- What a pidfile says: the pid of the `i`-th launched process, or nothing that is alive. -/
inductive PidText where
  | pid (i : ℕ)
  | stale
  deriving DecidableEq

/-- Where a thread stands in `start_by_name`. -/
inductive StartPc where
  | enter | poll | readPid
  | probe (i : ℕ)
  | clear | unlink | launch
  deriving DecidableEq

/-- Where a thread stands in `stop_by_name`, with the pid it read and its own handle. -/
inductive StopPc where
  | read
  | waitPid (managed own : Option ℕ)
  | waitProcess (managed : Option ℕ) (own : ℕ)
  | waitKilledPid (managed : ℕ)
  | waitKilled (own : ℕ)
  | cleanup
  deriving DecidableEq

/-- What a thread is doing; `rest` is what `start_all` still has to start. -/
inductive Call where
  | idle
  | start (name : String) (pc : StartPc) (rest : List String)
  | stop (name : String) (pc : StopPc)
  deriving DecidableEq

structure World where
  instances : List Instance
  pidfile : String → Option PidText
  processes : SupervisorId → String → Option ℕ
  call : Thread → Call

/-- One step of the system. `late` is what the caller does not decide: an expired deadline of a wait,
or a `Popen` that fails. -/
inductive Action where
  | startByName (t : Thread) (name : String)
  | startAll (t : Thread)
  | stopByName (t : Thread) (name : String)
  | advance (t : Thread) (late : Bool)
  | shellWrite (i : ℕ)
  | exit (i : ℕ)
  | handleExit (i : ℕ)

inductive SupervisorError where
  | emptyName
  | unknownProcess (name : String)
  | emptyCommand (name : String)
  | noTerminalCommand (name : String)
  | fileNotFound
  | popenFailed
  | timeoutExpired

inductive Signal where
  | sigterm | sigkill

/-- A signal goes to the pid of a process or to the group of a handle. -/
inductive Target where
  | pid (i : ℕ)
  | group (i : ℕ)

inductive Report where
  | raised (e : SupervisorError)
  | launched (i : ℕ)
  | signalled (signals : List (Target × Signal))
  | none

/-! ## The steps -/

section Steps

variable (cfg : Configs)

/-- `_pid_is_running`. -/
def World.running (w : World) (i : ℕ) : Bool := (w.instances[i]?).any fun p => p.life ≠ .exited

/-- `process is not None and process.poll() is None`. -/
def World.handleAlive (w : World) (own : Option ℕ) : Bool :=
  (own.bind fun i => w.instances[i]?).any Instance.handleAlive

/-- `_read_pidfile`. -/
def World.managedPid (w : World) (name : String) : Option ℕ :=
  match w.pidfile name with
  | some (.pid i) => some i
  | _ => none

def World.goto (w : World) (t : Thread) (c : Call) : World :=
  { w with call := Function.update w.call t c }

def World.setPidfile (w : World) (name : String) (text : Option PidText) : World :=
  { w with pidfile := Function.update w.pidfile name text }

def World.setInstance (w : World) (i : ℕ) (p : Instance) : World :=
  { w with instances := w.instances.set i p }

/-- `start_by_name` returned: `start_all` goes on with the next name. -/
def next (w : World) (t : Thread) : List String → World
  | [] => w.goto t .idle
  | name :: rest => w.goto t (.start name .enter rest)

/-- The names in the order `start_all` starts them. -/
def startOrder (s : SupervisorId) : List String :=
  ((processConfigs (cfg s)).values.insertionSort fun a b => a.startOrder ≤ b.startOrder).map
    ProcessConfig.name

/-- `self.processes[name] = subprocess.Popen(...)`. -/
def World.popen (w : World) (s : SupervisorId) (name : String) (terminal : Bool) : World :=
  { w with
    instances := w.instances ++ [⟨name, terminal, true, .launched⟩]
    processes := Function.update w.processes s
      (Function.update (w.processes s) name (some w.instances.length)) }

/-- One step inside `start_by_name`. -/
def startStep (w : World) (t : Thread) (name : String) (rest : List String) (late : Bool) :
    StartPc → World × Report
  | .enter =>
      if name = "" then (w.goto t .idle, .raised .emptyName)
      else
        match (processConfigs (cfg t.1)).get? name with
        | none => (w.goto t .idle, .raised (.unknownProcess name))
        | some _ => (w.goto t (.start name .poll rest), .none)
  | .poll =>
      if w.handleAlive (w.processes t.1 name) then (next w t rest, .none)
      else (w.goto t (.start name .readPid rest), .none)
  | .readPid =>
      match w.managedPid name with
      | some i => (w.goto t (.start name (.probe i) rest), .none)
      | none => (w.goto t (.start name .clear rest), .none)
  | .probe i =>
      if w.running i then (next w t rest, .none)
      else (w.goto t (.start name .clear rest), .none)
  | .clear =>
      match (processConfigs (cfg t.1)).get? name with
      | none => (w.goto t .idle, .raised (.unknownProcess name))
      | some c =>
          if c.command = [] then (w.goto t .idle, .raised (.emptyCommand name))
          else
            match w.pidfile name with
            | some _ => (w.goto t (.start name .unlink rest), .none)
            | none => (w.goto t (.start name .launch rest), .none)
  | .unlink =>
      match w.pidfile name with
      | none => (w.goto t .idle, .raised .fileNotFound)
      | some _ => ((w.setPidfile name none).goto t (.start name .launch rest), .none)
  | .launch =>
      match (processConfigs (cfg t.1)).get? name with
      | none => (w.goto t .idle, .raised (.unknownProcess name))
      | some c =>
          if c.newTerminal ∧ c.terminalCommand = [] then
            (w.goto t .idle, .raised (.noTerminalCommand name))
          else if late then (w.goto t .idle, .raised .popenFailed)
          else (next (w.popen t.1 name c.newTerminal) t rest, .launched w.instances.length)

/-- One step inside `stop_by_name`. A signal is reported; the exit it may cause is a step of its own. -/
def stopStep (w : World) (t : Thread) (name : String) (late : Bool) : StopPc → World × Report
  | .read =>
      let own := w.processes t.1 name
      -- `_pidfiles` has an entry for every configured name
      let managed := ((processConfigs (cfg t.1)).get? name).bind fun _ => w.managedPid name
      if own = none ∧ managed = none then (w.goto t .idle, .none)
      else
        (w.goto t (.stop name (.waitPid managed own)),
          .signalled (managed.toList.map (fun i => (.pid i, .sigterm)) ++
            (own.filter fun _ => w.handleAlive own).toList.map (fun i => (.group i, .sigterm))))
  | .waitPid managed own =>
      if managed.any w.running ∧ ¬ late then (w, .none)
      else
        match own with
        | some i => (w.goto t (.stop name (.waitProcess managed i)), .none)
        | none =>
            match managed.filter w.running with
            | some i =>
                (w.goto t (.stop name (.waitKilledPid i)), .signalled [(.pid i, .sigkill)])
            | none => (w.goto t (.stop name .cleanup), .none)
  | .waitProcess managed own =>
      if ¬ w.handleAlive (some own) then (w.goto t (.stop name .cleanup), .none)
      else if late then
        (w.goto t (.stop name (.waitKilled own)),
          .signalled (managed.toList.map (fun i => (.pid i, .sigkill)) ++ [(.group own, .sigkill)]))
      else (w, .none)
  | .waitKilledPid managed =>
      if w.running managed ∧ ¬ late then (w, .none) else (w.goto t (.stop name .cleanup), .none)
  | .waitKilled own =>
      if ¬ w.handleAlive (some own) then (w.goto t (.stop name .cleanup), .none)
      else if late then (w.goto t (.stop name .cleanup), .raised .timeoutExpired)
      else (w, .none)
  | .cleanup => ((w.setPidfile name none).goto t .idle, .none)

/-- One step of the system. -/
def step (w : World) : Action → World × Report
  | .startByName t name =>
      match w.call t with
      | .idle => (w.goto t (.start name .enter []), .none)
      | _ => (w, .none)
  | .startAll t =>
      match w.call t with
      | .idle => (next w t (startOrder cfg t.1), .none)
      | _ => (w, .none)
  | .stopByName t name =>
      match w.call t with
      | .idle => (w.goto t (.stop name .read), .none)
      | _ => (w, .none)
  | .advance t late =>
      match w.call t with
      | .idle => (w, .none)
      | .start name pc rest => startStep cfg w t name rest late pc
      | .stop name pc => stopStep cfg w t name late pc
  | .shellWrite i =>
      match w.instances[i]? with
      | some p =>
          if p.terminal ∧ p.life = .launched then
            ((w.setInstance i { p with life := .announced }).setPidfile p.name (some (.pid i)),
              .none)
          else (w, .none)
      | none => (w, .none)
  | .exit i =>
      match w.instances[i]? with
      | some p =>
          (w.setInstance i { p with life := .exited, handleAlive := p.terminal && p.handleAlive },
            .none)
      | none => (w, .none)
  | .handleExit i =>
      match w.instances[i]? with
      | some p =>
          if p.terminal then (w.setInstance i { p with handleAlive := false }, .none) else (w, .none)
      | none => (w, .none)

end Steps

/-! ## At most one -/

/-- The `i`-th launched process is alive, and runs under the name. -/
def World.Alive (w : World) (name : String) (i : ℕ) : Prop :=
  ∃ p, w.instances[i]? = some p ∧ p.name = name ∧ p.life ≠ .exited

/-- At most one process per name. -/
def AtMostOne (w : World) : Prop := ∀ name i j, w.Alive name i → w.Alive name j → i = j

/-- A start of the name that is past its first check. -/
def Call.Committed (name : String) : Call → Prop
  | .start x pc _ => x = name ∧ pc ≠ .enter ∧ pc ≠ .poll
  | _ => False

/-- **Outside the windows.** The check of a start is made only while no other start of the name is
past its own, and while every live process of the name has written its pidfile or is the caller's own
and its handle is alive; a stop deletes the pidfile only of a process that is gone. -/
def Careful (w : World) : Action → Prop
  | .advance t _ =>
      match w.call t with
      | .start name .poll _ =>
          (∀ t', t' ≠ t → ¬ (w.call t').Committed name) ∧
            ∀ (i : ℕ) (p : Instance), w.instances[i]? = some p → p.name = name →
              p.life = .launched →
              w.processes t.1 name = some i ∧ p.handleAlive
      | .stop name .cleanup => ∀ i, w.pidfile name = some (.pid i) → ¬ w.running i
      | _ => True
  | _ => True

/-- What a committed start knows, step by step. -/
def World.Clear (w : World) (name : String) : StartPc → Prop
  | .enter | .poll => True
  | .readPid => ∀ (i : ℕ) (p : Instance), w.instances[i]? = some p → p.name = name →
      p.life ≠ .launched
  | .probe j => ∀ (i : ℕ) (p : Instance), w.instances[i]? = some p → p.name = name →
      p.life ≠ .exited → i = j ∧ p.life = .announced
  | .clear | .unlink | .launch => ∀ i, ¬ w.Alive name i

structure Inv (w : World) : Prop where
  one : AtMostOne w
  /-- A process that has written its pidfile is the one the pidfile names. -/
  announced : ∀ (i : ℕ) (p : Instance), w.instances[i]? = some p → p.life = .announced →
    w.pidfile p.name = some (.pid i)
  clear : ∀ t name pc rest, w.call t = .start name pc rest → w.Clear name pc
  alone : ∀ t t' name, (w.call t).Committed name → (w.call t').Committed name → t = t'

/-! ## What each kind of change keeps -/

section Frame

variable {w : World}

@[simp] theorem goto_instances (t : Thread) (c : Call) : (w.goto t c).instances = w.instances := rfl
@[simp] theorem goto_pidfile (t : Thread) (c : Call) : (w.goto t c).pidfile = w.pidfile := rfl

theorem goto_call_cases (t : Thread) (c : Call) (t' : Thread) :
    (t' = t ∧ (w.goto t c).call t' = c) ∨ (t' ≠ t ∧ (w.goto t c).call t' = w.call t') := by
  by_cases h : t' = t
  · exact Or.inl ⟨h, by rw [h]; exact Function.update_self ..⟩
  · exact Or.inr ⟨h, Function.update_of_ne h ..⟩

theorem Inv.no_other (h : Inv w) {t : Thread} {name : String} (ht : (w.call t).Committed name) :
    ∀ t', t' ≠ t → ¬ (w.call t').Committed name :=
  fun t' hne ht' => hne (h.alone t' t name ht' ht)

/-- A thread moves: what it now knows must hold, and it must be the only one past the check. -/
theorem Inv.goto (h : Inv w) (t : Thread) (c : Call)
    (hclear : ∀ name pc rest, c = .start name pc rest → w.Clear name pc)
    (halone : ∀ name, c.Committed name → ∀ t', t' ≠ t → ¬ (w.call t').Committed name) :
    Inv (w.goto t c) where
  one := h.one
  announced := h.announced
  clear t' name pc rest hcall := by
    rcases goto_call_cases (w := w) t c t' with ⟨-, hc⟩ | ⟨-, hc⟩
    · exact hclear name pc rest (hc.symm.trans hcall)
    · exact h.clear t' name pc rest (hc.symm.trans hcall)
  alone t₁ t₂ name h₁ h₂ := by
    rcases goto_call_cases (w := w) t c t₁ with ⟨heq₁, hc₁⟩ | ⟨hne₁, hc₁⟩ <;>
      rcases goto_call_cases (w := w) t c t₂ with ⟨heq₂, hc₂⟩ | ⟨hne₂, hc₂⟩
    · rw [heq₁, heq₂]
    · rw [hc₁] at h₁
      rw [hc₂] at h₂
      exact absurd h₂ (halone name h₁ t₂ hne₂)
    · rw [hc₁] at h₁
      rw [hc₂] at h₂
      exact absurd h₁ (halone name h₂ t₁ hne₁)
    · rw [hc₁] at h₁
      rw [hc₂] at h₂
      exact h.alone t₁ t₂ name h₁ h₂

/-- A thread leaves `start_by_name`, or enters it. -/
theorem Inv.goto_uncommitted (h : Inv w) (t : Thread) {c : Call}
    (hc : ∀ name pc rest, c = .start name pc rest → pc = .enter ∨ pc = .poll) :
    Inv (w.goto t c) := by
  refine h.goto t c ?_ ?_
  · rintro name pc rest rfl
    rcases hc name pc rest rfl with rfl | rfl
    · trivial
    · trivial
  · intro name hcom
    cases c with
    | start x pc rest =>
        obtain ⟨-, henter, hpoll⟩ := hcom
        rcases hc x pc rest rfl with rfl | rfl
        · exact absurd rfl henter
        · exact absurd rfl hpoll
    | _ => cases hcom

theorem Inv.next (h : Inv w) (t : Thread) (rest : List String) : Inv (next w t rest) := by
  unfold Supervisor.next
  split
  · exact h.goto_uncommitted t (by simp)
  · refine h.goto_uncommitted t ?_
    rintro name pc rest hcall
    cases hcall
    exact Or.inl rfl

/-- A pidfile that names nobody alive is deleted. -/
theorem Inv.unlink (h : Inv w) {name : String}
    (hnone : ∀ (i : ℕ) (p : Instance), w.instances[i]? = some p → p.name = name →
      p.life ≠ .announced) : Inv (w.setPidfile name none) where
  one := h.one
  announced i p hp hlife := by
    have hne : p.name ≠ name := fun hname => hnone i p hp hname hlife
    show Function.update w.pidfile name none p.name = some (.pid i)
    rw [Function.update_of_ne hne]
    exact h.announced i p hp hlife
  clear := h.clear
  alone := h.alone

/-- What a start knows stays true as long as every live process of the name was there before, and was no
further in its life. -/
theorem World.Clear.mono {w' : World} {name : String} {pc : StartPc} (h : w.Clear name pc)
    (hback : pc ≠ .enter → pc ≠ .poll → ∀ (j : ℕ) (q : Instance), w'.instances[j]? = some q →
      q.name = name → q.life ≠ .exited → ∃ q₀, w.instances[j]? = some q₀ ∧ q₀.name = name ∧
        q₀.life ≠ .exited ∧ (q.life = .launched → q₀.life = .launched) ∧
        (q₀.life = .announced → q.life = .announced)) : w'.Clear name pc := by
  have halive : pc ≠ .enter → pc ≠ .poll → ∀ j, w'.Alive name j → w.Alive name j := by
    rintro henter hpoll j ⟨q, hq, hname, hne⟩
    obtain ⟨q₀, hq₀, hname₀, hne₀, -⟩ := hback henter hpoll j q hq hname hne
    exact ⟨q₀, hq₀, hname₀, hne₀⟩
  cases pc with
  | enter => trivial
  | poll => trivial
  | readPid =>
      intro j q hq hname hlaunched
      obtain ⟨q₀, hq₀, hname₀, -, hlaunched₀, -⟩ :=
        hback (by simp) (by simp) j q hq hname (by rw [hlaunched]; decide)
      exact h j q₀ hq₀ hname₀ (hlaunched₀ hlaunched)
  | probe k =>
      intro j q hq hname hne
      obtain ⟨q₀, hq₀, hname₀, hne₀, -, hann⟩ := hback (by simp) (by simp) j q hq hname hne
      obtain ⟨hj, hann₀⟩ := h j q₀ hq₀ hname₀ hne₀
      exact ⟨hj, hann hann₀⟩
  | clear => exact fun j hj => h j (halive (by simp) (by simp) j hj)
  | unlink => exact fun j hj => h j (halive (by simp) (by simp) j hj)
  | launch => exact fun j hj => h j (halive (by simp) (by simp) j hj)

/-- A process changes: it keeps its name, and its life, or it is gone. -/
theorem Inv.setInstance (h : Inv w) {i : ℕ} {p p' : Instance} (hp : w.instances[i]? = some p)
    (hname : p'.name = p.name) (hlife : p'.life = p.life ∨ p'.life = .exited) :
    Inv (w.setInstance i p') := by
  -- a process of the new world that is not gone was there with the same name and life
  have hback : ∀ (j : ℕ) (q : Instance), (w.setInstance i p').instances[j]? = some q →
      q.life ≠ .exited → ∃ q₀, w.instances[j]? = some q₀ ∧ q₀.name = q.name ∧ q₀.life = q.life := by
    intro j q hq hne
    rcases getElem?_set_cases hq with ⟨rfl, rfl⟩ | ⟨-, hold⟩
    · rcases hlife with hsame | hgone
      · exact ⟨p, hp, hname.symm, hsame.symm⟩
      · exact absurd hgone hne
    · exact ⟨q, hold, rfl, rfl⟩
  have halive : ∀ name j, (w.setInstance i p').Alive name j → w.Alive name j := by
    rintro name j ⟨q, hq, rfl, hne⟩
    obtain ⟨q₀, hq₀, hname₀, hlife₀⟩ := hback j q hq hne
    exact ⟨q₀, hq₀, hname₀, hlife₀ ▸ hne⟩
  constructor
  case one => exact fun name j k hj hk => h.one name j k (halive name j hj) (halive name k hk)
  case announced =>
    intro j q hq hann
    obtain ⟨q₀, hq₀, hname₀, hlife₀⟩ := hback j q hq (by rw [hann]; decide)
    rw [← hname₀]
    exact h.announced j q₀ hq₀ (hlife₀.trans hann)
  case clear =>
    intro t name pc rest hcall
    refine (h.clear t name pc rest hcall).mono fun _ _ j q hq hqname hne => ?_
    obtain ⟨q₀, hq₀, hname₀, hlife₀⟩ := hback j q hq hne
    refine ⟨q₀, hq₀, hname₀.trans hqname, hlife₀ ▸ hne, fun hl => hlife₀.trans hl, fun hl => ?_⟩
    exact hlife₀.symm.trans hl
  case alone => exact h.alone

/-- The shell writes its pidfile: it is the only live process of its name, and no start of the name
is past its check. -/
theorem Inv.shellWrite (h : Inv w) {i : ℕ} {p : Instance} (hp : w.instances[i]? = some p)
    (hlife : p.life = .launched) :
    Inv ((w.setInstance i { p with life := .announced }).setPidfile p.name (some (.pid i))) := by
  have halive : w.Alive p.name i := ⟨p, hp, rfl, by rw [hlife]; decide⟩
  have hback : ∀ (j : ℕ) (q : Instance),
      (w.instances.set i { p with life := .announced })[j]? = some q →
      (j = i ∧ q = { p with life := .announced }) ∨ w.instances[j]? = some q := by
    intro j q hq
    rcases getElem?_set_cases hq with ⟨rfl, rfl⟩ | ⟨-, hold⟩
    · exact Or.inl ⟨rfl, rfl⟩
    · exact Or.inr hold
  have halive' : ∀ name j, ((w.setInstance i { p with life := .announced }).setPidfile p.name
      (some (.pid i))).Alive name j → w.Alive name j := by
    rintro name j ⟨q, hq, rfl, hne⟩
    rcases hback j q hq with ⟨rfl, rfl⟩ | hold
    · exact halive
    · exact ⟨q, hold, rfl, hne⟩
  constructor
  case one => exact fun name j k hj hk => h.one name j k (halive' name j hj) (halive' name k hk)
  case announced =>
    intro j q hq hann
    show Function.update w.pidfile p.name (some (.pid i)) q.name = some (.pid j)
    rcases hback j q hq with ⟨rfl, rfl⟩ | hold
    · exact Function.update_self ..
    · by_cases hname : q.name = p.name
      · -- another announced process of the name would be a second live one
        obtain rfl : j = i := h.one p.name j i ⟨q, hold, hname, by rw [hann]; decide⟩ halive
        rw [hname]
        exact Function.update_self ..
      · rw [Function.update_of_ne hname]
        exact h.announced j q hold hann
  case clear =>
    intro t name pc rest hcall
    refine (h.clear t name pc rest hcall).mono fun _ _ j q hq hqname hne => ?_
    rcases hback j q hq with ⟨rfl, rfl⟩ | hq'
    · refine ⟨p, hp, hqname, by rw [hlife]; decide, fun hl => ?_, fun _ => rfl⟩
      cases hl
    · exact ⟨q, hq', hqname, hne, fun hl => hl, fun hl => hl⟩
  case alone => exact h.alone

/-- A launch while nobody of the name is alive and no start of it is past its check. -/
theorem Inv.popen (h : Inv w) (s : SupervisorId) {name : String} (terminal : Bool)
    (hnone : ∀ i, ¬ w.Alive name i) (hfree : ∀ t, ¬ (w.call t).Committed name) :
    Inv (w.popen s name terminal) := by
  have hback : ∀ (j : ℕ) (q : Instance), (w.popen s name terminal).instances[j]? = some q →
      (j = w.instances.length ∧ q = ⟨name, terminal, true, .launched⟩) ∨
        w.instances[j]? = some q := by
    intro j q hq
    rcases getElem?_concat_cases hq with ⟨hj, rfl⟩ | hold
    · exact Or.inl ⟨hj, rfl⟩
    · exact Or.inr hold
  have halive : ∀ x j, (w.popen s name terminal).Alive x j →
      (x = name ∧ j = w.instances.length) ∨ w.Alive x j := by
    rintro x j ⟨q, hq, rfl, hne⟩
    rcases hback j q hq with ⟨hj, rfl⟩ | hold
    · exact Or.inl ⟨rfl, hj⟩
    · exact Or.inr ⟨q, hold, rfl, hne⟩
  constructor
  case one =>
    intro x j k hj hk
    rcases halive x j hj with ⟨hxj, hj'⟩ | hj' <;> rcases halive x k hk with ⟨hxk, hk'⟩ | hk'
    · rw [hj', hk']
    · exact absurd (hxj ▸ hk') (hnone k)
    · exact absurd (hxk ▸ hj') (hnone j)
    · exact h.one x j k hj' hk'
  case announced =>
    intro j q hq hann
    rcases hback j q hq with ⟨-, rfl⟩ | hold
    · cases hann
    · exact h.announced j q hold hann
  case clear =>
    intro t x pc rest hcall
    refine (h.clear t x pc rest hcall).mono fun henter hpoll j q hq hqname hne => ?_
    -- a start past its check is of another name
    have hother : x ≠ name := by
      rintro rfl
      refine hfree t ?_
      have hcall' : w.call t = .start x pc rest := hcall
      rw [hcall']
      exact ⟨rfl, henter, hpoll⟩
    rcases hback j q hq with ⟨-, rfl⟩ | hq'
    · exact absurd hqname.symm hother
    · exact ⟨q, hq', hqname, hne, fun hl => hl, fun hl => hl⟩
  case alone => exact h.alone

theorem next_popen (s : SupervisorId) (name : String) (terminal : Bool) (t : Thread)
    (rest : List String) :
    next (w.popen s name terminal) t rest = (next w t rest).popen s name terminal := by
  cases rest with
  | nil => rfl
  | cons x rest => rfl

/-- After `start_by_name` returned its thread is past no check. -/
theorem next_uncommitted (t t' : Thread) (rest : List String) {name : String}
    (ht' : ((next w t rest).call t').Committed name) : t' ≠ t ∧ (w.call t').Committed name := by
  unfold next at ht'
  split at ht'
  · rcases goto_call_cases (w := w) t .idle t' with ⟨-, hc⟩ | ⟨hne, hc⟩
    · rw [hc] at ht'
      cases ht'
    · rw [hc] at ht'
      exact ⟨hne, ht'⟩
  · rename_i x rest
    rcases goto_call_cases (w := w) t (.start x .enter rest) t' with ⟨-, hc⟩ | ⟨hne, hc⟩
    · rw [hc] at ht'
      exact absurd rfl ht'.2.1
    · rw [hc] at ht'
      exact ⟨hne, ht'⟩

end Frame

/-! ## One step -/

section Step

variable {cfg : Configs} {w : World}

theorem running_of_alive {name : String} {i : ℕ} (h : w.Alive name i) : w.running i := by
  obtain ⟨p, hp, -, hne⟩ := h
  simp [World.running, hp, hne]

/-- A thread in `start_by_name` past its check goes on to `pc`. -/
theorem Inv.goOn (h : Inv w) {t : Thread} {name : String} {pc₀ pc : StartPc}
    {rest : List String} (hcall : w.call t = .start name pc₀ rest) (henter : pc₀ ≠ .enter)
    (hpoll : pc₀ ≠ .poll) (hclear : w.Clear name pc) : Inv (w.goto t (.start name pc rest)) := by
  refine h.goto t _ ?_ ?_
  · rintro x pc' rest' heq
    cases heq
    exact hclear
  · rintro x ⟨rfl, -, -⟩
    refine h.no_other ?_
    rw [hcall]
    exact ⟨rfl, henter, hpoll⟩

/-- `start` finds no live handle of its own. -/
theorem Inv.startPoll (h : Inv w) {t : Thread} {late : Bool} {name : String}
    {rest : List String} (hcall : w.call t = .start name .poll rest)
    (hcareful : Careful w (.advance t late)) :
    Inv (startStep cfg w t name rest late .poll).1 := by
  simp only [Careful, hcall] at hcareful
  obtain ⟨halone, hseen⟩ := hcareful
  simp only [Supervisor.startStep]
  split
  · exact h.next t rest
  · rename_i hdead
    refine h.goto t _ ?_ ?_
    · rintro x pc rest' heq
      cases heq
      -- a process without a pidfile would be the caller's, with a live handle
      intro i p hp hname hlaunched
      obtain ⟨hown, hhandle⟩ := hseen i p hp hname hlaunched
      exact hdead (by simp [World.handleAlive, hown, hp, hhandle])
    · rintro x ⟨rfl, -, -⟩
      exact halone

/-- `start` reads the pidfile: whatever lives under the name is announced there. -/
theorem Inv.startReadPid (h : Inv w) {t : Thread} {late : Bool} {name : String}
    {rest : List String} (hcall : w.call t = .start name .readPid rest) :
    Inv (startStep cfg w t name rest late .readPid).1 := by
  have hknow := h.clear t name .readPid rest hcall
  have hnamed : ∀ (i : ℕ) (p : Instance), w.instances[i]? = some p → p.name = name →
      p.life ≠ .exited → p.life = .announced ∧ w.managedPid name = some i := by
    intro i p hp hname hne
    have hann : p.life = .announced := by
      cases hl : p.life with
      | launched => exact absurd hl (hknow i p hp hname)
      | announced => rfl
      | exited => exact absurd hl hne
    refine ⟨hann, ?_⟩
    simp [World.managedPid, ← hname, h.announced i p hp hann]
  simp only [Supervisor.startStep]
  split
  · rename_i j hj
    refine h.goOn hcall (by simp) (by simp) fun i p hp hname hne => ?_
    obtain ⟨hann, hi⟩ := hnamed i p hp hname hne
    exact ⟨Option.some.inj (hi.symm.trans hj), hann⟩
  · rename_i hj
    refine h.goOn hcall (by simp) (by simp) ?_
    rintro i ⟨p, hp, hname, hne⟩
    rw [(hnamed i p hp hname hne).2] at hj
    cases hj

/-- `start` launches: nothing lives under the name and no other caller is committed. -/
theorem Inv.startLaunch (h : Inv w) {t : Thread} {late : Bool} {name : String}
    {rest : List String} (hcall : w.call t = .start name .launch rest) :
    Inv (startStep cfg w t name rest late .launch).1 := by
  have hidle : Inv (w.goto t .idle) := h.goto_uncommitted t (by simp)
  have hknow := h.clear t name .launch rest hcall
  simp only [Supervisor.startStep]
  split
  · exact hidle
  · split
    · exact hidle
    · split
      · exact hidle
      · rw [next_popen]
        refine (h.next t rest).popen t.1 _ ?_ ?_
        · have hinst : (Supervisor.next w t rest).instances = w.instances := by
            cases rest <;> rfl
          rintro i ⟨p, hp, hname, hne⟩
          rw [hinst] at hp
          exact hknow i ⟨p, hp, hname, hne⟩
        · intro t' ht'
          obtain ⟨hne, hcom⟩ := next_uncommitted t t' rest ht'
          refine h.no_other ?_ t' hne hcom
          rw [hcall]
          exact ⟨rfl, by simp, by simp⟩

theorem Inv.startStep (h : Inv w) {t : Thread} {late : Bool} {name : String} {pc : StartPc}
    {rest : List String} (hcall : w.call t = .start name pc rest)
    (hcareful : Careful w (.advance t late)) :
    Inv (startStep cfg w t name rest late pc).1 := by
  have hidle : Inv (w.goto t .idle) := h.goto_uncommitted t (by simp)
  have hknow := h.clear t name pc rest hcall
  cases pc with
  | enter =>
      simp only [Supervisor.startStep]
      split
      · exact hidle
      · split
        · exact hidle
        · refine h.goto_uncommitted t ?_
          rintro x pc rest heq
          cases heq
          exact Or.inr rfl
  | poll => exact h.startPoll hcall hcareful
  | readPid => exact h.startReadPid hcall
  | probe j =>
      simp only [Supervisor.startStep]
      split
      · exact h.next t rest
      · rename_i hdead
        refine h.goOn hcall (by simp) (by simp) ?_
        rintro i hi
        have hrun := running_of_alive hi
        obtain ⟨p, hp, hname, hne⟩ := hi
        rw [(hknow i p hp hname hne).1] at hrun
        exact hdead hrun
  | clear =>
      simp only [Supervisor.startStep]
      split
      · exact hidle
      · split
        · exact hidle
        · split
          · exact h.goOn hcall (by simp) (by simp) hknow
          · exact h.goOn hcall (by simp) (by simp) hknow
  | unlink =>
      simp only [Supervisor.startStep]
      split
      · exact hidle
      · refine Inv.goOn (h.unlink ?_) hcall (by simp) (by simp) hknow
        intro i p hp hname hann
        exact hknow i ⟨p, hp, hname, by rw [hann]; decide⟩
  | launch => exact h.startLaunch hcall

/-- A stop changes nothing but its own place until it deletes the pidfile. -/
theorem Inv.stopStep (h : Inv w) {t : Thread} {late : Bool} {name : String} {pc : StopPc}
    (hcall : w.call t = .stop name pc) (hcareful : Careful w (.advance t late)) :
    Inv (stopStep cfg w t name late pc).1 := by
  have hgo : ∀ pc', Inv (w.goto t (.stop name pc')) := fun pc' =>
    h.goto_uncommitted t (by simp)
  have hidle : Inv (w.goto t .idle) := h.goto_uncommitted t (by simp)
  cases pc with
  | read =>
      simp only [Supervisor.stopStep]
      split
      · exact hidle
      · exact hgo _
  | waitPid managed own =>
      simp only [Supervisor.stopStep]
      split
      · exact h
      · split
        · exact hgo _
        · split
          · exact hgo _
          · exact hgo _
  | waitProcess managed own =>
      simp only [Supervisor.stopStep]
      split
      · exact hgo _
      · split
        · exact hgo _
        · exact h
  | waitKilledPid managed =>
      simp only [Supervisor.stopStep]
      split
      · exact h
      · exact hgo _
  | waitKilled own =>
      simp only [Supervisor.stopStep]
      split
      · exact hgo _
      · split
        · exact hgo _
        · exact h
  | cleanup =>
      simp only [Careful, hcall] at hcareful
      refine Inv.goto_uncommitted (h.unlink ?_) t (by simp)
      intro i p hp hname hann
      refine hcareful i ?_ (running_of_alive ⟨p, hp, hname, by rw [hann]; decide⟩)
      rw [← hname]
      exact h.announced i p hp hann

/-- **One step outside the windows keeps the invariant.** -/
theorem Inv.step (h : Inv w) {a : Action} (ha : Careful w a) : Inv (step cfg w a).1 := by
  cases a with
  | startByName t name =>
      simp only [Supervisor.step]
      split
      · refine h.goto_uncommitted t ?_
        rintro x pc rest heq
        cases heq
        exact Or.inl rfl
      · exact h
  | startAll t =>
      simp only [Supervisor.step]
      split
      · exact h.next t _
      · exact h
  | stopByName t name =>
      simp only [Supervisor.step]
      split
      · exact h.goto_uncommitted t (by simp)
      · exact h
  | advance t late =>
      simp only [Supervisor.step]
      split
      · exact h
      · exact h.startStep ‹_› ha
      · exact h.stopStep ‹_› ha
  | shellWrite i =>
      simp only [Supervisor.step]
      split
      · split
        · rename_i hp hlife
          exact h.shellWrite hp hlife.2
        · exact h
      · exact h
  | exit i =>
      simp only [Supervisor.step]
      split
      · rename_i hp
        exact h.setInstance hp rfl (Or.inr rfl)
      · exact h
  | handleExit i =>
      simp only [Supervisor.step]
      split
      · rename_i hp
        split
        · exact h.setInstance hp rfl (Or.inl rfl)
        · exact h
      · exact h

end Step

/-! ## Whole runs -/

/-- Nothing launched, nobody at work; pidfiles left behind name nobody alive. -/
def World.start (stale : String → Bool) : World where
  instances := []
  pidfile name := if stale name then some .stale else none
  processes := fun _ _ => none
  call := fun _ => .idle

theorem Inv.start (stale : String → Bool) : Inv (World.start stale) where
  one name i j hi := by
    obtain ⟨p, hp, -⟩ := hi
    simp [World.start] at hp
  announced i p hp := by simp [World.start] at hp
  clear t name pc rest hcall := by cases hcall
  alone t t' name ht := by cases ht

/-- **One live process per name.** However the calls of the controller's and the dashboard's threads,
the shells' pidfile writes and the exits interleave, in every run outside the windows at most one
process launched under a name is alive at any time. -/
theorem at_most_one_alive (cfg : Configs) (stale : String → Bool) (as : List Action)
    (hcareful : ∀ e ∈ trace (step cfg) (World.start stale) as, Careful e.before e.input) :
    ∀ e ∈ trace (step cfg) (World.start stale) as, AtMostOne e.before ∧ AtMostOne e.after := by
  have hinv := trace_invariant_of (C := fun e => Careful e.before e.input)
    (fun w a (h : Inv w) ha => (h.step ha : Inv (step cfg w a).1)) (Inv.start stale) as hcareful
  intro e he
  exact ⟨(hinv e he).1.one, (hinv e he).2.one⟩

/-- `task_controller` as `processes.yaml` has it, for both supervisors. -/
def taskController : Configs := fun _ =>
  [{ name := "task_controller"
     command := ["python3", "-m", "robot_controller.subprocesses.task_controller.main"]
     startOrder := 30
     newTerminal := true
     terminalCommand := ["gnome-terminal", "--wait", "--"] }]

/-- One `start_by_name` on an empty pid directory, from its call to the launch. -/
def startTask (t : Thread) : List Action :=
  [.startByName t "task_controller", .advance t false, .advance t false, .advance t false,
    .advance t false, .advance t false]

/-- The controller starts it, its shell writes the pidfile, and the dashboard is told to start it too. -/
def startTaskTwice : List Action :=
  startTask (.controller, 0) ++
    [.shellWrite 0, .startByName (.dashboard, 0) "task_controller", .advance (.dashboard, 0) false,
      .advance (.dashboard, 0) false, .advance (.dashboard, 0) false, .advance (.dashboard, 0) false]

/-- The dashboard finds the pidfile, and what it names is alive: nothing is launched. -/
theorem at_most_one_alive_startTaskTwice :
    AtMostOne (final (step taskController) (World.start fun _ => false) startTaskTwice) ∧
      (final (step taskController) (World.start fun _ => false) startTaskTwice).call (.dashboard, 0) =
        .idle ∧
      (final (step taskController) (World.start fun _ => false) startTaskTwice).instances =
        [⟨"task_controller", true, true, .announced⟩] := by
  refine ⟨(at_most_one_alive taskController (fun _ => false) startTaskTwice ?_ _
    (List.mem_of_getElem? (i := 11) rfl)).2, rfl, rfl⟩
  simp only [startTaskTwice, startTask, List.cons_append, List.nil_append, trace, List.forall_mem_cons]
  refine ⟨trivial, trivial, ⟨fun t' hne hcom => ?_, fun i p hp => ?_⟩, trivial, trivial, trivial,
    trivial, trivial, trivial, ⟨fun t' hne hcom => ?_, fun i p hp _ hlaunched => ?_⟩, trivial, trivial,
    by simp⟩
  · -- nobody else is at work
    have hidle : Call.Committed "task_controller" (Function.update (Function.update
        (fun _ : Thread => Call.idle) (.controller, 0) (.start "task_controller" .enter []))
        (.controller, 0) (.start "task_controller" .poll []) t') := hcom
    rw [Function.update_of_ne hne, Function.update_of_ne hne] at hidle
    exact hidle
  · cases hp
  · -- the controller's thread is done, and nobody else is at work
    by_cases hcontroller : t' = (.controller, 0)
    · subst hcontroller
      exact hcom
    · have hidle : (final (step taskController) (World.start fun _ => false)
          (startTaskTwice.take 9)).call t' = .idle := by
        refine (Function.update_of_ne hne _ _).trans ((Function.update_of_ne hne _ _).trans ?_)
        iterate 6 refine (Function.update_of_ne hcontroller _ _).trans ?_
        rfl
      have hcom' : Call.Committed "task_controller" ((final (step taskController)
          (World.start fun _ => false) (startTaskTwice.take 9)).call t') := hcom
      rw [hidle] at hcom'
      exact hcom'
  · -- its process has written the pidfile
    cases i with
    | zero =>
        cases hp
        cases hlaunched
    | succ i => cases hp

/-- The dashboard starts `task_controller` after the controller did and before the shell wrote its
pidfile: its check sees nothing, and two task controllers are alive. -/
theorem start_before_pidfile :
    ¬ ∀ e ∈ trace (step taskController) (World.start fun _ => false)
        (startTask (.controller, 0) ++ startTask (.dashboard, 0)), AtMostOne e.after := by
  intro h
  have hone := h _ (List.mem_of_getElem? (i := 11) rfl) "task_controller" 0 1
    ⟨_, rfl, rfl, by decide⟩ ⟨_, rfl, rfl, by decide⟩
  cases hone

end SparqControl.Supervisor
