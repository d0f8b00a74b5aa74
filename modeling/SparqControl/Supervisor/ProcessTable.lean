/-
# SparqControl.Supervisor.ProcessTable — processes, groups and signals as the kernel has them.

A process that exits stays in the table as a zombie until its parent has read its status; only then is
its number free, and any new process may get it. The number of a group is that of the process that
created it, and stays taken while the group has a member.

A process or group that a supervisor launched carries the NAME it was launched under. The number does
not: a signal goes to whoever has the number when it is sent.
-/
import SparqControl.Lib.Registry

namespace SparqControl.Supervisor

open SparqControl.Lib

/-! ## The data -/

/-- A process group, with the name under which a supervisor launched it. -/
structure ProcessGroup where
  id : ℕ
  launchedAs : Option String
  deriving DecidableEq

/-- A process, with the name under which a supervisor launched it. A launched process leads a session of
its own (`start_new_session`, or that of its terminal), and a session leader cannot leave its group. -/
structure Process where
  pid : ℕ
  launchedAs : Option String
  group : ProcessGroup
  /-- The user of the supervisors may signal it. -/
  permitted : Bool
  /-- A shell that still has to write its pidfile. -/
  writer : Bool
  zombie : Bool
  leads : ∀ name, launchedAs = some name → group = ⟨pid, some name⟩

/-- Groups with one number are one group. -/
def OneGroup (processes : List Process) : Prop :=
  ∀ q ∈ processes, ∀ q' ∈ processes, q.group.id = q'.group.id → q.group = q'.group

theorem OneGroup.extend {processes processes' : List Process} (h : OneGroup processes) {G : ProcessGroup}
    (hG : ∀ q ∈ processes, q.group.id = G.id → q.group = G)
    (hnew : ∀ q ∈ processes', (∃ a ∈ processes, a.group = q.group) ∨ q.group = G) :
    OneGroup processes' := by
  intro q hq q' hq' hid
  rcases hnew q hq with ⟨a, ha, hag⟩ | hqG <;> rcases hnew q' hq' with ⟨a', ha', hag'⟩ | hqG'
  · rw [← hag, ← hag'] at hid ⊢
    exact h a ha a' ha' hid
  · rw [← hag, hqG'] at hid ⊢
    exact hG a ha hid
  · rw [hqG, ← hag'] at hid ⊢
    exact (hG a' ha' hid.symm).symm
  · rw [hqG, hqG']

/-- No new group. -/
theorem OneGroup.same {processes processes' : List Process} (h : OneGroup processes)
    (hold : ∀ q ∈ processes', ∃ a ∈ processes, a.group = q.group) : OneGroup processes' := by
  intro q hq q' hq' hid
  obtain ⟨a, ha, hag⟩ := hold q hq
  obtain ⟨a', ha', hag'⟩ := hold q' hq'
  rw [← hag, ← hag'] at hid ⊢
  exact h a ha a' ha' hid

structure ProcessTable where
  registry : Registry Process.pid
  oneGroup : OneGroup registry.entries

namespace ProcessTable

variable (t : ProcessTable)

def processes : List Process := t.registry.entries

def lookup (p : ℕ) : Option Process := t.registry.lookup p

def empty : ProcessTable := ⟨Registry.empty, fun _ hq => nomatch hq⟩

/-- The kernel gives out a number that no process and no group has. -/
def Free (p : ℕ) : Prop := ∀ q ∈ t.processes, q.pid ≠ p ∧ q.group.id ≠ p

instance (p : ℕ) : Decidable (t.Free p) := inferInstanceAs (Decidable (∀ q ∈ _, _))

/-! ## Signals -/

/-- What `kill` and `killpg` come to; the processes are those that get the signal. -/
inductive Delivery where
  | noSuchProcess
  | notPermitted
  | delivered (receivers : List Process)

/-- `os.kill(pid, signum)`. -/
def kill (p : ℕ) : Delivery :=
  match t.lookup p with
  | none => .noSuchProcess
  | some q => if q.permitted then .delivered [q] else .notPermitted

/-- `os.killpg(pgid, signum)`. -/
def killpg (g : ℕ) : Delivery :=
  match t.processes.filter (·.group.id = g) with
  | [] => .noSuchProcess
  | q :: members =>
      match (q :: members).filter Process.permitted with
      | [] => .notPermitted
      | receivers => .delivered receivers

/-- `_pid_is_running`: signal 0 finds a process, and being refused is finding one. -/
def pidIsRunning (p : ℕ) : Bool :=
  match t.kill p with
  | .noSuchProcess => false
  | .notPermitted => true
  | .delivered _ => true

/-! ## The life of a process -/

end ProcessTable

namespace Process

/-- A process that leads a new session. -/
def leader (p : ℕ) (name : Option String) (permitted writer : Bool) : Process where
  pid := p
  launchedAs := name
  group := ⟨p, name⟩
  permitted := permitted
  writer := writer
  zombie := false
  leads n h := by rw [h]

/-- What `fork` makes: a process that no supervisor launched, in the group of its parent. -/
def child (q : Process) (p : ℕ) : Process where
  pid := p
  launchedAs := none
  group := q.group
  permitted := q.permitted
  writer := false
  zombie := false
  leads _ h := nomatch h

/-- `setpgid`, which is refused to a session leader. -/
def regroup (G : ProcessGroup) (q : Process) : Process :=
  if h : q.launchedAs = none then { q with group := G, leads := fun n hn => by rw [h] at hn; cases hn }
  else q

def exited (q : Process) : Process := { q with zombie := true }

def wrote (q : Process) : Process := { q with writer := false }

theorem pid_regroup (G : ProcessGroup) (q : Process) : (q.regroup G).pid = q.pid := by
  unfold regroup
  split <;> rfl

theorem launchedAs_regroup (G : ProcessGroup) (q : Process) :
    (q.regroup G).launchedAs = q.launchedAs := by
  unfold regroup
  split <;> rfl

theorem group_regroup (G : ProcessGroup) (q : Process) :
    (q.regroup G).group = q.group ∨ (q.launchedAs = none ∧ (q.regroup G).group = G) := by
  unfold regroup
  split
  · exact Or.inr ⟨‹_›, rfl⟩
  · exact Or.inl rfl

end Process

namespace ProcessTable

variable (t : ProcessTable)

/-- A change of one process that keeps its number and its group. -/
def update (p : ℕ) (f : Process → Process) (hpid : ∀ q, (f q).pid = q.pid)
    (hgroup : ∀ q, (f q).group = q.group) : ProcessTable :=
  ⟨t.registry.modify p f hpid, t.oneGroup.same fun q hq => by
    rcases Registry.mem_modify_cases hpid hq with hq | ⟨a, ha, -, rfl⟩
    · exact ⟨q, hq, rfl⟩
    · exact ⟨a, ha, (hgroup a).symm⟩⟩

def exit (p : ℕ) : ProcessTable := t.update p Process.exited (fun _ => rfl) (fun _ => rfl)

/-- The shell has written its pidfile. -/
def wrote (p : ℕ) : ProcessTable := t.update p Process.wrote (fun _ => rfl) (fun _ => rfl)

/-- The status of a zombie was read. -/
def reap (p : ℕ) : ProcessTable :=
  ⟨t.registry.remove p, t.oneGroup.same fun q hq => ⟨q, (Registry.mem_remove.mp hq).1, rfl⟩⟩

/-- A new session under a free number. -/
def spawn (p : ℕ) (name : Option String) (permitted writer : Bool) : ProcessTable :=
  if h : t.Free p then
    ⟨t.registry.add (.leader p name permitted writer),
      t.oneGroup.extend (G := ⟨p, name⟩) (fun q hq hid => absurd hid (h q hq).2) fun q hq => by
        rcases Registry.mem_add_cases hq with rfl | hq
        · exact Or.inr rfl
        · exact Or.inl ⟨q, hq, rfl⟩⟩
  else t

/-- A live process forks, under a free number. -/
def fork (parent p : ℕ) : ProcessTable :=
  match h : t.lookup parent with
  | none => t
  | some q =>
      if q.zombie = false ∧ t.Free p then
        ⟨t.registry.add (q.child p), t.oneGroup.same fun x hx => by
          rcases Registry.mem_add_cases hx with rfl | hx
          · exact ⟨q, (Registry.mem_of_lookup h).1, rfl⟩
          · exact ⟨x, hx, rfl⟩⟩
      else t

/-- `setpgid(p, g)`: into a group that exists, or into a new one of its own. -/
def setGroup (p g : ℕ) : ProcessTable :=
  match h : t.processes.find? (·.group.id = g) with
  | some member =>
      ⟨t.registry.modify p (.regroup member.group) (Process.pid_regroup _),
        t.oneGroup.same fun q hq => by
        rcases Registry.mem_modify_cases (Process.pid_regroup _) hq with hq | ⟨a, ha, -, rfl⟩
        · exact ⟨q, hq, rfl⟩
        · rcases a.group_regroup member.group with hgroup | ⟨-, hgroup⟩
          · exact ⟨a, ha, hgroup.symm⟩
          · exact ⟨member, List.mem_of_find?_eq_some h, hgroup.symm⟩⟩
  | none =>
      if hg : g = p then
        ⟨t.registry.modify p (.regroup ⟨p, none⟩) (Process.pid_regroup _),
          t.oneGroup.extend (G := ⟨p, none⟩)
            (fun q hq hid => absurd (hid.trans hg.symm) (by simpa using List.find?_eq_none.mp h q hq))
            fun q hq => by
              rcases Registry.mem_modify_cases (Process.pid_regroup _) hq with hq | ⟨a, ha, -, rfl⟩
              · exact Or.inl ⟨q, hq, rfl⟩
              · rcases a.group_regroup ⟨p, none⟩ with hgroup | ⟨-, hgroup⟩
                · exact Or.inl ⟨a, ha, hgroup.symm⟩
                · exact Or.inr hgroup⟩
      else t

/-! ## What a step of the kernel can do -/

variable {t}

/-- Every process and every group of `t'` is one of `t`, as far as number and name go, or a new one. -/
structure Change (t t' : ProcessTable) (new : ℕ → Option String → Prop) : Prop where
  pids : ∀ x ∈ t'.processes,
    (∃ a ∈ t.processes, a.pid = x.pid ∧ a.launchedAs = x.launchedAs) ∨ new x.pid x.launchedAs
  groups : ∀ x ∈ t'.processes,
    (∃ a ∈ t.processes, a.group = x.group) ∨ new x.group.id x.group.launchedAs

/-- The process under the number is still there. -/
def Keeps (t t' : ProcessTable) (p : ℕ) : Prop :=
  ∀ name, (∃ a ∈ t.processes, a.pid = p ∧ a.launchedAs = some name) →
    ∃ x ∈ t'.processes, x.pid = p ∧ x.launchedAs = some name

theorem Change.refl (new : ℕ → Option String → Prop) : Change t t new where
  pids x hx := Or.inl ⟨x, hx, rfl, rfl⟩
  groups x hx := Or.inl ⟨x, hx, rfl⟩

theorem Keeps.refl (p : ℕ) : Keeps t t p := fun _ h => h

section Update

variable {p : ℕ} {f : Process → Process} {hpid : ∀ q, (f q).pid = q.pid}
  {hgroup : ∀ q, (f q).group = q.group}

theorem change_update (hlaunched : ∀ q, (f q).launchedAs = q.launchedAs)
    (new : ℕ → Option String → Prop) : Change t (t.update p f hpid hgroup) new where
  pids x hx := by
    rcases Registry.mem_modify_cases hpid hx with hx | ⟨a, ha, -, rfl⟩
    · exact Or.inl ⟨x, hx, rfl, rfl⟩
    · exact Or.inl ⟨a, ha, (hpid a).symm, (hlaunched a).symm⟩
  groups x hx := by
    rcases Registry.mem_modify_cases hpid hx with hx | ⟨a, ha, -, rfl⟩
    · exact Or.inl ⟨x, hx, rfl⟩
    · exact Or.inl ⟨a, ha, (hgroup a).symm⟩

theorem keeps_update (hlaunched : ∀ q, (f q).launchedAs = q.launchedAs) (p' : ℕ) :
    Keeps t (t.update p f hpid hgroup) p' := by
  rintro name ⟨a, ha, rfl, hname⟩
  rcases Registry.mem_modify_of_mem (k := p) hpid ha with hx | ⟨-, hx⟩
  · exact ⟨a, hx, rfl, hname⟩
  · exact ⟨f a, hx, hpid a, (hlaunched a).trans hname⟩

theorem change_exit (p : ℕ) (new : ℕ → Option String → Prop) : Change t (t.exit p) new :=
  change_update (f := Process.exited) (fun _ => rfl) new

theorem keeps_exit (p p' : ℕ) : Keeps t (t.exit p) p' :=
  keeps_update (f := Process.exited) (fun _ => rfl) p'

theorem change_wrote (p : ℕ) (new : ℕ → Option String → Prop) : Change t (t.wrote p) new :=
  change_update (f := Process.wrote) (fun _ => rfl) new

theorem keeps_wrote (p p' : ℕ) : Keeps t (t.wrote p) p' :=
  keeps_update (f := Process.wrote) (fun _ => rfl) p'

end Update

theorem change_reap (p : ℕ) (new : ℕ → Option String → Prop) : Change t (t.reap p) new where
  pids x hx := Or.inl ⟨x, (Registry.mem_remove.mp hx).1, rfl, rfl⟩
  groups x hx := Or.inl ⟨x, (Registry.mem_remove.mp hx).1, rfl⟩

theorem keeps_reap {p p' : ℕ} (hne : p' ≠ p) : Keeps t (t.reap p) p' := by
  rintro name ⟨a, ha, rfl, hname⟩
  exact ⟨a, Registry.mem_remove.mpr ⟨ha, hne⟩, rfl, hname⟩

section New

variable (p : ℕ) (name : Option String) (permitted writer : Bool)

theorem change_add {a : Process} (h : OneGroup (t.registry.add a).entries)
    {new : ℕ → Option String → Prop} (hpid : new a.pid a.launchedAs)
    (hgroup : (∃ b ∈ t.processes, b.group = a.group) ∨ new a.group.id a.group.launchedAs) :
    Change t ⟨t.registry.add a, h⟩ new where
  pids x hx := by
    rcases Registry.mem_add_cases hx with rfl | hx
    · exact Or.inr hpid
    · exact Or.inl ⟨x, hx, rfl, rfl⟩
  groups x hx := by
    rcases Registry.mem_add_cases hx with rfl | hx
    · exact hgroup
    · exact Or.inl ⟨x, hx, rfl⟩

theorem keeps_add {a : Process} (h : OneGroup (t.registry.add a).entries) (p' : ℕ) :
    Keeps t ⟨t.registry.add a, h⟩ p' := by
  rintro name' ⟨b, hb, hpid, hname⟩
  exact ⟨b, Registry.mem_add_of_mem hb, hpid, hname⟩

theorem change_spawn :
    Change t (t.spawn p name permitted writer) fun p' name' => p' = p ∧ name' = name := by
  unfold spawn
  split
  · exact change_add _ ⟨rfl, rfl⟩ (Or.inr ⟨rfl, rfl⟩)
  · exact Change.refl _

theorem keeps_spawn (p' : ℕ) : Keeps t (t.spawn p name permitted writer) p' := by
  unfold spawn
  split
  · exact keeps_add _ p'
  · exact Keeps.refl p'

theorem mem_spawn {p : ℕ} (h : t.Free p) :
    Process.leader p name permitted writer ∈ (t.spawn p name permitted writer).processes := by
  rw [spawn, dif_pos h]
  exact Registry.mem_add_self fun q hq => (h q hq).1

theorem change_fork (parent : ℕ) :
    Change t (t.fork parent p) fun p' name' => p' = p ∧ name' = none := by
  unfold fork
  split
  · exact Change.refl _
  · rename_i q hq
    split
    · exact change_add _ ⟨rfl, rfl⟩ (Or.inl ⟨q, (Registry.mem_of_lookup hq).1, rfl⟩)
    · exact Change.refl _

theorem keeps_fork (parent p' : ℕ) : Keeps t (t.fork parent p) p' := by
  unfold fork
  split
  · exact Keeps.refl p'
  · split
    · exact keeps_add _ p'
    · exact Keeps.refl p'

end New

section SetGroup

variable {p : ℕ} {G : ProcessGroup}

theorem regroup_cases {x : Process}
    (hx : x ∈ (t.registry.modify p (.regroup G) (Process.pid_regroup G)).entries) :
    ∃ a ∈ t.processes, a.pid = x.pid ∧ a.launchedAs = x.launchedAs ∧
      (a.group = x.group ∨ (a.pid = p ∧ a.launchedAs = none ∧ x.group = G)) := by
  rcases Registry.mem_modify_cases (Process.pid_regroup G) hx with hx | ⟨a, ha, hpid, rfl⟩
  · exact ⟨x, hx, rfl, rfl, Or.inl rfl⟩
  · refine ⟨a, ha, (a.pid_regroup G).symm, (a.launchedAs_regroup G).symm, ?_⟩
    rcases a.group_regroup G with hgroup | ⟨hnone, hgroup⟩
    · exact Or.inl hgroup.symm
    · exact Or.inr ⟨hpid, hnone, hgroup⟩

/-- A group that `setpgid` makes has the number of a process that no supervisor launched. -/
theorem change_setGroup (p g : ℕ) :
    Change t (t.setGroup p g) fun p' name =>
      name = none ∧ ∃ a ∈ t.processes, a.pid = p' ∧ a.launchedAs = none := by
  unfold setGroup
  split
  · rename_i member hmember
    constructor
    · intro x hx
      obtain ⟨a, ha, hpid, hname, -⟩ := regroup_cases hx
      exact Or.inl ⟨a, ha, hpid, hname⟩
    · intro x hx
      obtain ⟨a, ha, -, -, hgroup | ⟨-, -, hgroup⟩⟩ := regroup_cases hx
      · exact Or.inl ⟨a, ha, hgroup⟩
      · exact Or.inl ⟨member, List.mem_of_find?_eq_some hmember, hgroup.symm⟩
  · split
    · constructor
      · intro x hx
        obtain ⟨a, ha, hpid, hname, -⟩ := regroup_cases hx
        exact Or.inl ⟨a, ha, hpid, hname⟩
      · intro x hx
        obtain ⟨a, ha, -, -, hgroup | ⟨hpid, hnone, hgroup⟩⟩ := regroup_cases hx
        · exact Or.inl ⟨a, ha, hgroup⟩
        · rw [hgroup]
          exact Or.inr ⟨rfl, a, ha, hpid, hnone⟩
    · exact Change.refl _

theorem keeps_regroup (r : Registry Process.pid) (p' : ℕ) (name : String)
    (h : ∃ a ∈ r.entries, a.pid = p' ∧ a.launchedAs = some name) :
    ∃ x ∈ (r.modify p (.regroup G) (Process.pid_regroup G)).entries,
      x.pid = p' ∧ x.launchedAs = some name := by
  obtain ⟨a, ha, rfl, hname⟩ := h
  rcases Registry.mem_modify_of_mem (k := p) (Process.pid_regroup G) ha with hx | ⟨-, hx⟩
  · exact ⟨a, hx, rfl, hname⟩
  · exact ⟨_, hx, a.pid_regroup G, (a.launchedAs_regroup G).trans hname⟩

theorem keeps_setGroup (p g p' : ℕ) : Keeps t (t.setGroup p g) p' := by
  unfold setGroup
  split
  · exact keeps_regroup t.registry p'
  · split
    · exact keeps_regroup t.registry p'
    · exact Keeps.refl p'

end SetGroup

/-! ## Who gets a signal -/

theorem mem_of_lookup {p : ℕ} {q : Process} (h : t.lookup p = some q) : q ∈ t.processes ∧ q.pid = p :=
  Registry.mem_of_lookup h

theorem receivers_kill {p : ℕ} {receivers : List Process} (h : t.kill p = .delivered receivers) :
    ∀ q ∈ receivers, q ∈ t.processes ∧ q.pid = p := by
  unfold kill at h
  split at h
  · cases h
  · rename_i q hq
    split at h
    · cases h
      intro q' hq'
      rw [List.mem_singleton.mp hq']
      exact mem_of_lookup hq
    · cases h

theorem receivers_killpg {g : ℕ} {receivers : List Process} (h : t.killpg g = .delivered receivers) :
    ∀ q ∈ receivers, q ∈ t.processes ∧ q.group.id = g := by
  unfold killpg at h
  split at h
  · cases h
  · rename_i q members hmembers
    split at h
    · cases h
    · cases h
      intro q' hq'
      have hmem := List.mem_of_mem_filter hq'
      rw [← hmembers, List.mem_filter, decide_eq_true_iff] at hmem
      exact hmem

/-- A probe that finds something finds a process under the number. -/
theorem exists_of_pidIsRunning {p : ℕ} (h : t.pidIsRunning p = true) :
    ∃ q ∈ t.processes, q.pid = p := by
  cases hq : t.lookup p with
  | none =>
      rw [pidIsRunning, kill, hq] at h
      cases h
  | some q => exact ⟨q, mem_of_lookup hq⟩

end ProcessTable

end SparqControl.Supervisor
