/-
# SparqControl.TaskController.AuxReader — from the joystick to the inputs of the policy.

`aux_reader` reads eight-byte records from the joystick device, keeps the last value of every axis and
button, and writes three stick values and a button mask into the aux segment; the task controller reads
that segment in every pass. The two processes share nothing else, and neither looks at the other's time
stamps: a reader that is gone leaves its last command standing.

`commands_follow_joystick` is the account over every interleaving of the two: what the policy is
commanded in a pass is the latest event of each stick and button among the records that came before the
reader ended, clamped, with the deadband, and inverted.
-/
import SparqControl.Lib.Packed
import SparqControl.TaskController.TaskLoop

namespace SparqControl.TaskController

open SparqControl.Lib.Packed (Layout testBit_foldl_flags)
open SparqControl.Hal
open SparqControl.Lib.Trace

/-! ## The reader -/

/-- A record of `JS_EVENT_STRUCT`. -/
structure JsEvent where
  timestampMs : UInt32
  value : Int16
  eventType : UInt8
  number : UInt8
  deriving DecidableEq

/-- `JS_EVENT_STRUCT`, `"IhBB"`. -/
def jsEventStruct : Layout JsEvent :=
  (Layout.uint32.pair (Layout.int16.pair (Layout.uint8.pair Layout.uint8))).iso
    (fun x => ⟨x.1, x.2.1, x.2.2.1, x.2.2.2⟩)
    (fun e => (e.timestampMs, e.value, e.eventType, e.number)) fun _ => rfl

/-- `JS_EVENT_BUTTON`, `JS_EVENT_AXIS`, `JS_EVENT_INIT`. -/
def jsEventButton : UInt8 := 0x01
def jsEventAxis : UInt8 := 0x02
def jsEventInit : UInt8 := 0x80

/-- `event_type & ~JS_EVENT_INIT`. -/
def JsEvent.kind (e : JsEvent) : UInt8 := e.eventType &&& ~~~jsEventInit

/-- The velocity a stick is mapped to. -/
inductive AxisTarget where
  | lin | ang

/-- An entry of `mappings`. -/
structure AxisMapping (K : Type) where
  axis : Fin 32
  index : Fin 3
  scale : K
  invert : Bool
  deadband : K
  target : AxisTarget

section Reader

variable {K : Type} [Field K] [LinearOrder K]

/-- `_axis_value`. -/
def axisValue (value : ℤ) : K := max (-1.0) (min 1.0 ((value : K) / 32767.0))

/-- `_deadband`. -/
def deadband (value threshold : K) : K := if |value| < threshold then 0.0 else value

/-- `mappings`. -/
def axisMappings : List (AxisMapping K) :=
  [⟨⟨1, by decide⟩, ⟨0, by decide⟩, 1.0, true, 0.05, .lin⟩,
    ⟨⟨0, by decide⟩, ⟨1, by decide⟩, 1.0, true, 0.05, .lin⟩,
    ⟨⟨3, by decide⟩, ⟨2, by decide⟩, 1.0, true, 0.05, .ang⟩]

/-- One round of the loop of `_axis_targets`. -/
def applyMapping (axes : Vector K 32) (targets : Vector K 3 × Vector K 3) (m : AxisMapping K) :
    Vector K 3 × Vector K 3 :=
  let value := deadband (axes.get m.axis) m.deadband
  let value := if m.invert then -value else value
  match m.target with
  | .lin => (targets.1.set m.index (value * m.scale) m.index.isLt, targets.2)
  | .ang => (targets.1, targets.2.set m.index (value * m.scale) m.index.isLt)

/-- `_axis_targets`. -/
def axisTargets (axes : Vector K 32) : Vector K 3 × Vector K 3 :=
  axisMappings.foldl (applyMapping axes) (Vector.replicate 3 0, Vector.replicate 3 0)

/-- `_button_targets`. -/
def buttonTargets (buttons : Vector Bool 32) : List (String × Bool) :=
  buttonFields.zipIdx.map fun x => (x.1, buttons.toList.getD x.2 false)

/-- `buttons_to_mask`. -/
def buttonsToMask (buttons : List (String × Bool)) : ℕ :=
  buttonFields.zipIdx.foldl
    (fun mask x => if (buttons.lookup x.1).getD false then mask ||| 1 <<< x.2 else mask) 0

/-- `_publish`: the command it writes. -/
def auxCommand (axes : Vector K 32) (buttons : Vector Bool 32) : AuxCommandC K where
  linVelTarget := (axisTargets axes).1
  angVelTarget := (axisTargets axes).2
  buttonMask := UInt32.ofNat (buttonsToMask (buttonTargets buttons))

/-- The two lists of the reader and whether its loop still goes round. -/
structure AuxReader (K : Type) where
  axes : Vector K 32
  buttons : Vector Bool 32
  running : Bool

/-- What `os.read` comes back with. -/
inductive DeviceRead where
  | packet (bytes : List UInt8)
  | wouldBlock
  | osError

/-- A record that was unpacked: what it changes, and whether the command is published. -/
def AuxReader.onEvent (r : AuxReader K) (e : JsEvent) : AuxReader K × Bool :=
  if h : e.kind = jsEventAxis ∧ e.number.toNat < 32 then
    ({ r with axes := r.axes.set e.number.toNat (axisValue e.value.toInt) h.2 }, true)
  else if h : e.kind = jsEventButton ∧ e.number.toNat < 32 then
    ({ r with buttons := r.buttons.set e.number.toNat (decide (e.value.toInt ≠ 0)) h.2 }, true)
  else (r, false)

/-- One round of the loop. A short record and an error of the device are raised and end it. -/
def AuxReader.round (r : AuxReader K) : DeviceRead → AuxReader K × Bool
  | .packet bytes =>
      if bytes.length = jsEventStruct.width then r.onEvent (jsEventStruct.ofBytes bytes)
      else ({ r with running := false }, false)
  | .wouldBlock => (r, false)
  | .osError => ({ r with running := false }, false)

/-! ## The two processes -/

/-- What happens next: a round of the reader, a signal to it, or a pass of the task controller, whose
aux command is the one in the segment. -/
inductive DriveInput (K : Type) where
  | read (result : DeviceRead)
  | signal
  | pass (t : TaskInput K)

/-- The reader, the aux segment and the task controller. -/
structure DriveState (K : Type) where
  reader : AuxReader K
  auxShm : AuxCommandC K
  task : TaskState K

/-- One step of the two. -/
def driveStep (sqrt : K → K) (cfg : TaskConfig K) (s : DriveState K) :
    DriveInput K → DriveState K × Option (Called K)
  | .read result =>
      if s.reader.running then
        let (reader, published) := s.reader.round result
        ({ s with
          reader := reader
          auxShm := if published then auxCommand reader.axes reader.buttons else s.auxShm }, none)
      else (s, none)
  | .signal => ({ s with reader := { s.reader with running := false } }, none)
  | .pass t =>
      let (task, called) := taskStep sqrt cfg s.task { t with auxState := s.auxShm }
      ({ s with task := task }, called)

/-- A reader that has published its neutral command, and a task controller before its first pass. -/
def DriveState.start (p : OnnxPolicy K) : DriveState K where
  reader := ⟨Vector.replicate 32 0, Vector.replicate 32 false, true⟩
  auxShm := auxCommand (Vector.replicate 32 0) (Vector.replicate 32 false)
  task := TaskState.start p

end Reader

/-! ## What was heard -/

section Heard

variable {K : Type}

/-- The reader's loop ends here. -/
def DriveInput.ends : DriveInput K → Bool
  | .read (.packet bytes) => bytes.length ≠ 8
  | .read .wouldBlock => false
  | .read .osError => true
  | .signal => true
  | .pass _ => false

/-- The record that is read here. -/
def DriveInput.event : DriveInput K → Option JsEvent
  | .read (.packet bytes) => if bytes.length = 8 then some (jsEventStruct.ofBytes bytes) else none
  | _ => none

/-- The records that were read before the reader ended. -/
def heard (inputs : List (DriveInput K)) : List JsEvent :=
  (inputs.takeWhile fun i => !i.ends).filterMap DriveInput.event

/-- The value an event gives an axis, and the state it gives a button. -/
def JsEvent.axis (k : ℕ) (e : JsEvent) : Option ℤ :=
  if e.kind = jsEventAxis ∧ e.number.toNat = k then some e.value.toInt else none

def JsEvent.button (k : ℕ) (e : JsEvent) : Option Bool :=
  if e.kind = jsEventButton ∧ e.number.toNat = k then some (decide (e.value.toInt ≠ 0)) else none

/-- The state of a button after some events. -/
def pressed (events : List JsEvent) (k : ℕ) : Bool := (latest (JsEvent.button k) events).getD false

variable [Field K] [LinearOrder K]

/-- The value of an axis after some events. -/
def axisAfter (events : List JsEvent) (k : ℕ) : K := ((latest (JsEvent.axis k) events).map axisValue).getD 0

/-- What a stick commands after some events: its value with the deadband, inverted. -/
def stick (events : List JsEvent) (k : ℕ) : K := -deadband (axisAfter events k) 0.05

end Heard

/-! ## The command in the segment -/

section Command

variable {K : Type} [Field K] [LinearOrder K]

/-- Every field is found under its name, in the order of the bits. -/
theorem lookup_buttonTargets (buttons : Vector Bool 32) :
    buttonFields.map (fun name => ((buttonTargets buttons).lookup name).getD false) =
      (buttonTargets buttons).map Prod.snd := rfl

theorem lt_of_mem_buttonFields {x : String × ℕ} (hx : x ∈ buttonFields.zipIdx) : x.2 < 32 := by
  have hlt := (List.getElem?_eq_some_iff.mp (List.mem_zipIdx_iff_getElem?.mp hx)).1
  exact Nat.lt_trans hlt (by decide)

/-- **The mask round trip**: what `mask_to_buttons` reads out of the written mask are the buttons. -/
theorem maskToButtons_auxCommand (axes : Vector K 32) (buttons : Vector Bool 32) :
    maskToButtons (auxCommand axes buttons).buttonMask = buttonTargets buttons := by
  have hbit : ∀ k < 32, (auxCommand axes buttons).buttonMask.toNat.testBit k =
      (((buttonTargets buttons).map Prod.snd)[k]?).getD false := by
    intro k hk
    show (UInt32.ofNat (buttonsToMask (buttonTargets buttons))).toNat.testBit k = _
    rw [UInt32.toNat_ofNat', Nat.testBit_mod_two_pow, decide_eq_true hk, Bool.true_and, buttonsToMask,
      testBit_foldl_flags fun name => ((buttonTargets buttons).lookup name).getD false,
      ← List.getElem?_map, lookup_buttonTargets]
    simp
  unfold maskToButtons buttonTargets
  refine List.map_congr_left fun x hx => ?_
  rw [hbit x.2 (lt_of_mem_buttonFields hx), List.getElem?_map, buttonTargets, List.getElem?_map, List.getElem?_zipIdx,
    List.mem_zipIdx_iff_getElem?.mp hx]
  simp

/-- The enable button is button 0. -/
theorem aButton_auxCommand (axes : Vector K 32) (buttons : Vector Bool 32) :
    aButton (auxCommand axes buttons).buttonMask = buttons.get 0 := by
  unfold aButton
  rw [maskToButtons_auxCommand]
  show buttons.toList.getD 0 false = buttons.get 0
  simp [Vector.get]

/-- The three values the policy reads are the sticks 1, 0 and 3. -/
theorem axisTargets_eq [IsStrictOrderedRing K] (axes : Vector K 32) :
    (axisTargets axes).1.toList.getD 0 0 = -deadband (axes.get 1) 0.05 ∧
      (axisTargets axes).1.toList.getD 1 0 = -deadband (axes.get 0) 0.05 ∧
      (axisTargets axes).2.toList.getD 2 0 = -deadband (axes.get 3) 0.05 := by
  have hscale : (1.0 : K) = 1 := by norm_num
  refine ⟨?_, ?_, ?_⟩
  · show -deadband (axes.get 1) 0.05 * 1.0 = _
    rw [hscale, mul_one]
  · show -deadband (axes.get 0) 0.05 * 1.0 = _
    rw [hscale, mul_one]
  · show -deadband (axes.get 3) 0.05 * 1.0 = _
    rw [hscale, mul_one]

/-- A stick commands nothing or at least the deadband, and never more than full scale. -/
theorem abs_stick_le [IsStrictOrderedRing K] (events : List JsEvent) (k : ℕ) :
    |(stick events k : K)| ≤ 1 ∧ ((stick events k : K) = 0 ∨ 0.05 ≤ |(stick events k : K)|) := by
  have haxis : |(axisAfter events k : K)| ≤ 1 := by
    unfold axisAfter
    cases latest (JsEvent.axis k) events with
    | none => simp
    | some value =>
        have hone : (1.0 : K) = 1 := by norm_num
        simp only [Option.map_some, Option.getD_some, axisValue, hone]
        rw [abs_le]
        exact ⟨le_max_left _ _, max_le (by linarith) (min_le_left _ _)⟩
  unfold stick deadband
  rw [abs_neg]
  split
  · have hzero : (0.0 : K) = 0 := by norm_num
    rw [hzero]
    simp
  · rename_i hdead
    exact ⟨haxis, Or.inr (not_lt.mp hdead)⟩

end Command

/-! ## One step -/

section Step

variable {K : Type} [Field K] [LinearOrder K] {sqrt : K → K} {cfg : TaskConfig K}

/-- What a record does to the two lists. -/
theorem AuxReader.onEvent_spec (r : AuxReader K) (e : JsEvent) :
    (∀ k : Fin 32, (r.onEvent e).1.axes.get k = ((e.axis k).map axisValue).getD (r.axes.get k)) ∧
    (∀ k : Fin 32, (r.onEvent e).1.buttons.get k = (e.button k).getD (r.buttons.get k)) ∧
    (r.onEvent e).1.running = r.running ∧
    ((r.onEvent e).2 = false → (r.onEvent e).1 = r) := by
  unfold AuxReader.onEvent JsEvent.axis JsEvent.button
  have hset : ∀ {α : Type} (l : Vector α 32) (i : ℕ) (v : α) (h : i < 32) (k : Fin 32),
      (l.set i v h).get k = if i = k then v else l.get k := by
    intro α l i v h k
    exact Vector.getElem_set h k.isLt
  split
  · rename_i haxis
    have hbutton : ¬ e.kind = jsEventButton := by
      rw [haxis.1]
      decide
    refine ⟨fun k => ?_, fun k => ?_, rfl, nofun⟩
    · rw [hset]
      by_cases hk : e.number.toNat = k <;> simp [hk, haxis.1]
    · simp [hbutton]
  · rename_i haxis
    have hnone : ∀ k : Fin 32, ¬ (e.kind = jsEventAxis ∧ e.number.toNat = k) := fun k hk =>
      haxis ⟨hk.1, hk.2 ▸ k.isLt⟩
    split
    · rename_i hbutton
      refine ⟨fun k => ?_, fun k => ?_, rfl, nofun⟩
      · rw [if_neg (hnone k)]
        rfl
      · rw [hset]
        by_cases hk : e.number.toNat = k <;> simp [hk, hbutton.1]
    · rename_i hbutton
      refine ⟨fun k => ?_, fun k => ?_, rfl, fun _ => rfl⟩
      · rw [if_neg (hnone k)]
        rfl
      · have hnone : ¬ (e.kind = jsEventButton ∧ e.number.toNat = k) := fun hk =>
          hbutton ⟨hk.1, hk.2 ▸ k.isLt⟩
        rw [if_neg hnone]
        rfl

/-- A round that publishes nothing changes neither list. -/
theorem AuxReader.round_unpublished {r : AuxReader K} {result : DeviceRead}
    (h : (r.round result).2 = false) :
    (r.round result).1.axes = r.axes ∧ (r.round result).1.buttons = r.buttons := by
  cases result with
  | wouldBlock => exact ⟨rfl, rfl⟩
  | osError => exact ⟨rfl, rfl⟩
  | packet bytes =>
      simp only [AuxReader.round] at h ⊢
      split at h
      · rename_i hwidth
        rw [if_pos hwidth, (r.onEvent_spec (jsEventStruct.ofBytes bytes)).2.2.2 h]
        exact ⟨rfl, rfl⟩
      · rename_i hwidth
        rw [if_neg hwidth]
        exact ⟨rfl, rfl⟩

/-- The command in the segment is that of the reader's lists. -/
def InStep (s : DriveState K) : Prop := s.auxShm = auxCommand s.reader.axes s.reader.buttons

theorem InStep.step {s : DriveState K} (h : InStep s) (i : DriveInput K) :
    InStep (driveStep sqrt cfg s i).1 := by
  cases i with
  | signal => exact h
  | pass t => exact h
  | read result =>
      simp only [driveStep]
      split
      · cases hround : s.reader.round result with
        | mk reader published =>
            cases published with
            | true => exact rfl
            | false =>
                have hlists := AuxReader.round_unpublished (congrArg Prod.snd hround)
                rw [hround] at hlists
                show s.auxShm = auxCommand reader.axes reader.buttons
                rw [hlists.1, hlists.2]
                exact h
      · exact h

/-- What an input that does not end the reader does to its lists. -/
theorem driveStep_alive {s : DriveState K} {i : DriveInput K} (hrunning : s.reader.running = true)
    (hi : i.ends = false) :
    (driveStep sqrt cfg s i).1.reader.running = true ∧
    (∀ k : Fin 32, (driveStep sqrt cfg s i).1.reader.axes.get k =
      ((i.event.bind (JsEvent.axis k)).map axisValue).getD (s.reader.axes.get k)) ∧
    ∀ k : Fin 32, (driveStep sqrt cfg s i).1.reader.buttons.get k =
      (i.event.bind (JsEvent.button k)).getD (s.reader.buttons.get k) := by
  cases i with
  | signal => cases hi
  | pass t => exact ⟨hrunning, fun k => rfl, fun k => rfl⟩
  | read result =>
      simp only [driveStep, if_pos hrunning]
      cases result with
      | wouldBlock => exact ⟨hrunning, fun k => rfl, fun k => rfl⟩
      | osError => cases hi
      | packet bytes =>
          have hwidth : bytes.length = 8 := by
            simpa [DriveInput.ends] using hi
          obtain ⟨haxes, hbuttons, hkeeps, -⟩ := s.reader.onEvent_spec (jsEventStruct.ofBytes bytes)
          have hround : s.reader.round (.packet bytes) =
              s.reader.onEvent (jsEventStruct.ofBytes bytes) := if_pos hwidth
          have hevent : (DriveInput.read (.packet bytes) : DriveInput K).event =
              some (jsEventStruct.ofBytes bytes) := if_pos hwidth
          rw [hround, hevent]
          exact ⟨hkeeps.trans hrunning, haxes, hbuttons⟩

/-- An input that ends the reader leaves its lists, and nothing changes them after it. -/
theorem driveStep_ends (s : DriveState K) {i : DriveInput K} (hi : i.ends = true) :
    ((driveStep sqrt cfg s i).1.reader.axes, (driveStep sqrt cfg s i).1.reader.buttons) =
      (s.reader.axes, s.reader.buttons) ∧ (driveStep sqrt cfg s i).1.reader.running = false := by
  cases i with
  | signal => exact ⟨rfl, rfl⟩
  | pass t => cases hi
  | read result =>
      cases hrunning : s.reader.running with
      | false => simp [driveStep, hrunning]
      | true =>
          simp only [driveStep, if_pos hrunning]
          cases result with
          | wouldBlock => cases hi
          | osError => exact ⟨rfl, rfl⟩
          | packet bytes =>
              have hwidth : ¬ bytes.length = 8 := by
                simpa [DriveInput.ends] using hi
              have hround : s.reader.round (.packet bytes) =
                  ({ s.reader with running := false }, false) := if_neg hwidth
              rw [hround]
              exact ⟨rfl, rfl⟩

theorem driveStep_ended {s : DriveState K} (hs : s.reader.running = false) (i : DriveInput K) :
    ((driveStep sqrt cfg s i).1.reader.axes, (driveStep sqrt cfg s i).1.reader.buttons) =
      (s.reader.axes, s.reader.buttons) ∧ (driveStep sqrt cfg s i).1.reader.running = false := by
  cases i with
  | signal => exact ⟨rfl, rfl⟩
  | pass t => exact ⟨rfl, hs⟩
  | read result => simp [driveStep, hs]

/-- A network that returned was given an observation. -/
theorem observation_of_computeAction {p : OnnxPolicy K} {session : List K → List K}
    {result : OnnxPolicy K × List K} (h : p.computeAction session = .ok result) :
    ∃ observation, p.observation = .ok observation ∧ p.networkOutput session = session observation := by
  have hcounted : { p with cnt := p.cnt + 1 }.observation = p.observation := rfl
  unfold OnnxPolicy.networkOutput
  unfold OnnxPolicy.computeAction OnnxPolicy.runSession at h
  simp only [hcounted] at h
  cases hobs : p.observation with
  | error e =>
      rw [hobs] at h
      cases h
  | ok observation => exact ⟨observation, rfl, rfl⟩

/-- A completed call ran on the policy as the pass prepared it, which has the command of the pass. -/
theorem taskStep_commanded {s : TaskState K} {t : TaskInput K} {call : Called K}
    (h : (taskStep sqrt cfg s t).2 = some call) :
    ∃ (p : OnnxPolicy K) (dofPos : List K), prepare sqrt cfg s.policy t = .ok (p, dofPos) ∧
      p.commands = (t.auxState.linVelTarget.toList.getD 0 0,
        t.auxState.linVelTarget.toList.getD 1 0, t.auxState.angVelTarget.toList.getD 2 0) ∧
      p.mode = aButton t.auxState.buttonMask ∧ call.mode = p.mode ∧
      ∃ observation, p.observation = .ok observation ∧ call.output = t.session observation := by
  unfold taskStep at h
  split at h
  · cases h
  cases hprepare : prepare sqrt cfg s.policy t with
  | error e =>
      simp only [hprepare] at h
      cases h
  | ok prepared =>
      obtain ⟨p, dofPos⟩ := prepared
      have hp : p.commands = (t.auxState.linVelTarget.toList.getD 0 0,
          t.auxState.linVelTarget.toList.getD 1 0, t.auxState.angVelTarget.toList.getD 2 0) ∧
          p.mode = aButton t.auxState.buttonMask := by
        unfold prepare at hprepare
        obtain ⟨pos, -, hprepare⟩ := bind_eq_ok_iff.mp hprepare
        obtain ⟨vel, -, hprepare⟩ := bind_eq_ok_iff.mp hprepare
        obtain ⟨q, -, hprepare⟩ := bind_eq_ok_iff.mp hprepare
        cases hprepare
        exact ⟨rfl, rfl⟩
      simp only [hprepare] at h
      cases hcompute : p.computeAction t.session with
      | error e =>
          simp only [hcompute] at h
          cases h
      | ok result =>
          obtain ⟨observation, hobs, houtput⟩ := observation_of_computeAction hcompute
          simp only [hcompute] at h
          split at h <;> cases h <;>
            exact ⟨p, dofPos, rfl, hp.1, hp.2, hp.2.symm, observation, hobs, houtput⟩

end Step

/-! ## Whole runs -/

section Runs

variable {K : Type} [Field K] [LinearOrder K] {sqrt : K → K} {cfg : TaskConfig K}

omit [Field K] [LinearOrder K] in
/-- The latest value heard is the latest among the inputs before the end. -/
theorem latest_heard {α : Type} (value : JsEvent → Option α) (inputs : List (DriveInput K)) :
    latest (fun i : DriveInput K => i.event.bind value) (inputs.takeWhile fun i => !i.ends) =
      latest value (heard inputs) := by
  unfold latest heard
  rw [List.filterMap_filterMap]

/-- **The reader's lists** hold the latest value of every axis and button that was heard. -/
theorem reader_final (p : OnnxPolicy K) (inputs : List (DriveInput K)) (k : Fin 32) :
    (final (driveStep sqrt cfg) (DriveState.start p) inputs).reader.axes.get k =
        axisAfter (heard inputs) k ∧
      (final (driveStep sqrt cfg) (DriveState.start p) inputs).reader.buttons.get k =
        pressed (heard inputs) k := by
  let lists : DriveState K → Vector K 32 × Vector Bool 32 := fun s => (s.reader.axes, s.reader.buttons)
  have hview : lists (final (driveStep sqrt cfg) (DriveState.start p) inputs) =
      lists (final (driveStep sqrt cfg) (DriveState.start p) (inputs.takeWhile fun i => !i.ends)) :=
    final_takeWhile (fun s i hi => driveStep_ends s hi) (fun s i hs => driveStep_ended hs i)
      (DriveState.start p) inputs
  have halive : ∀ i ∈ inputs.takeWhile fun i => !i.ends, i.ends = false := by
    intro i hi
    simpa using List.mem_takeWhile_imp hi
  have hrunning : ∀ (s : DriveState K) (i : DriveInput K), s.reader.running = true → i.ends = false →
      (driveStep sqrt cfg s i).1.reader.running = true :=
    fun s i hs hi => (driveStep_alive hs hi).1
  have haxes := final_latest (f := fun s : DriveState K => s.reader.axes.get k) hrunning
    (fun s i hs hi => (driveStep_alive hs hi).2.1 k) (s := DriveState.start p) rfl _ halive
  have hbuttons := final_latest (f := fun s : DriveState K => s.reader.buttons.get k) hrunning
    (fun s i hs hi => (driveStep_alive hs hi).2.2 k) (s := DriveState.start p) rfl _ halive
  rw [latest_map, latest_heard] at haxes
  rw [latest_heard] at hbuttons
  have hzero : (DriveState.start p).reader.axes.get k = 0 := by
    simp [DriveState.start, Vector.get]
  have hup : (DriveState.start p).reader.buttons.get k = false := by
    simp [DriveState.start, Vector.get]
  rw [hzero] at haxes
  rw [hup] at hbuttons
  exact ⟨(congrArg (fun l => l.1.get k) hview).trans haxes,
    (congrArg (fun l => l.2.get k) hview).trans hbuttons⟩

/-- What a pass with a completed call was given, when these events had been heard. -/
structure Commanded (sqrt : K → K) (cfg : TaskConfig K) (s : DriveState K) (events : List JsEvent)
    (t : TaskInput K) (call : Called K) (p : OnnxPolicy K) : Prop where
  /-- The policy is the one the pass prepared with what stands in the segment. -/
  prepared : ∃ dofPos, prepare sqrt cfg s.task.policy { t with auxState := s.auxShm } = .ok (p, dofPos)
  /-- The network ran on the observation of this policy, and its output is gated by the enable button of
  this policy. -/
  output : ∃ observation, p.observation = .ok observation ∧ call.output = t.session observation
  mode : call.mode = p.mode
  commands : p.commands = (stick events 1, stick events 0, stick events 3)
  enabled : p.mode = pressed events 0
  /-- Every button stands in the segment under its name. -/
  buttons : maskToButtons s.auxShm.buttonMask =
    buttonFields.zipIdx.map fun x => (x.1, pressed events x.2)

/-- **The policy is commanded what the joystick said last**, in every interleaving of the two processes:
a call that completes runs the network on the policy as the pass prepared it, with the sticks and the
enable button as they stand after the records heard so far, and no stick commands more than full scale or
a value inside the deadband. -/
theorem commands_follow_joystick [IsStrictOrderedRing K] (sqrt : K → K) (cfg : TaskConfig K)
    (p : OnnxPolicy K) (inputs : List (DriveInput K)) (n : ℕ)
    (e : Entry (DriveState K) (DriveInput K) (Option (Called K))) (call : Called K)
    (he : (trace (driveStep sqrt cfg) (DriveState.start p) inputs)[n]? = some e)
    (hcall : e.out = some call) :
    ∃ t p', e.input = .pass t ∧ Commanded sqrt cfg e.before (heard (inputs.take n)) t call p' ∧
      ∀ c ∈ [p'.commands.1, p'.commands.2.1, p'.commands.2.2], |c| ≤ 1 ∧ (c = 0 ∨ 0.05 ≤ |c|) := by
  have hout := out_eq _ he
  rw [hcall] at hout
  have hstart : InStep (DriveState.start p) := rfl
  have hstep : InStep e.before := by
    rw [before_eq_final _ he]
    exact final_invariant (P := InStep) (fun s i h => h.step i) hstart (inputs.take n)
  have hlists : ∀ k : Fin 32, e.before.reader.axes.get k = axisAfter (heard (inputs.take n)) k ∧
      e.before.reader.buttons.get k = pressed (heard (inputs.take n)) k := by
    rw [before_eq_final _ he]
    exact reader_final p (inputs.take n)
  cases hinput : e.input with
  | signal =>
      rw [hinput] at hout
      cases hout
  | read result =>
      rw [hinput] at hout
      simp only [driveStep] at hout
      split at hout <;> cases hout
  | pass t =>
      rw [hinput] at hout
      obtain ⟨p', dofPos, hprepare, hcommands, hmode, hgate, houtput⟩ := taskStep_commanded hout.symm
      have hsegment : e.before.auxShm =
        auxCommand e.before.reader.axes e.before.reader.buttons := hstep
      obtain ⟨hforward, hside, hturn⟩ := axisTargets_eq e.before.reader.axes
      have hvalues : p'.commands = (stick (heard (inputs.take n)) 1, stick (heard (inputs.take n)) 0,
          stick (heard (inputs.take n)) 3) := by
        rw [hcommands]
        simp only [hsegment, auxCommand, hforward, hside, hturn, (hlists _).1]
        rfl
      refine ⟨t, p', rfl, ⟨⟨dofPos, hprepare⟩, houtput, hgate, hvalues, ?_, ?_⟩, ?_⟩
      · rw [hmode, hsegment, aButton_auxCommand, (hlists 0).2]
        rfl
      · rw [hsegment, maskToButtons_auxCommand]
        refine List.map_congr_left fun x hx => ?_
        have hbutton := (hlists ⟨x.2, lt_of_mem_buttonFields hx⟩).2
        rw [← hbutton]
        simp [Vector.get, lt_of_mem_buttonFields hx]
      · rw [hvalues]
        intro c hc
        simp only [List.mem_cons, List.not_mem_nil, or_false] at hc
        rcases hc with rfl | rfl | rfl <;> exact abs_stick_le _ _

end Runs

/-- The stick is pushed and the enable button pressed, then a record comes in short; what the stick does
after it is not read any more. -/
def pushedRun : List (DriveInput ℚ) :=
  [.read (.packet [0, 0, 0, 0, 0x01, 0x80, 2, 1]), .read (.packet [9, 0, 0, 0, 1, 0, 1, 0]),
    .read (.packet [1, 2, 3]), .read (.packet [20, 0, 0, 0, 0, 0, 2, 1]), .pass (heldPass [5, -1 / 2])]

/-- The pass is made with full speed ahead and the button held. -/
theorem commands_follow_joystick_pushed :
    ∃ (call : Called ℚ) (t : TaskInput ℚ) (p' : OnnxPolicy ℚ) (s : DriveState ℚ),
      ((trace (driveStep id twoMotors) (DriveState.start twoJointsPolicy) pushedRun)[4]?.bind
        Entry.out) = some call ∧ Commanded id twoMotors s (heard (pushedRun.take 4)) t call p' ∧
      p'.commands = (1, 0, 0) ∧ call.mode = true := by
  obtain ⟨e, he, -⟩ := entry_at (driveStep id twoMotors) (DriveState.start twoJointsPolicy)
    (n := 4) (show pushedRun[4]? = some _ from rfl)
  have hcalled : (((trace (driveStep id twoMotors) (DriveState.start twoJointsPolicy) pushedRun)[4]?.bind
      Entry.out).isSome) = true := by
    decide +kernel
  rw [he, Option.bind_some] at hcalled
  obtain ⟨call, hcall⟩ := Option.isSome_iff_exists.mp hcalled
  obtain ⟨t, p', -, hcommanded, -⟩ := commands_follow_joystick id twoMotors twoJointsPolicy pushedRun 4 e
    call he hcall
  have hstick : ((stick (heard (pushedRun.take 4)) 1 : ℚ), (stick (heard (pushedRun.take 4)) 0 : ℚ),
      (stick (heard (pushedRun.take 4)) 3 : ℚ)) = (1, 0, 0) := by
    decide +kernel
  have hheld : pressed (heard (pushedRun.take 4)) 0 = true := by
    decide +kernel
  refine ⟨call, t, p', e.before, ?_, hcommanded, hcommanded.commands.trans hstick, ?_⟩
  · rw [he, Option.bind_some, hcall]
  · rw [hcommanded.mode, hcommanded.enabled, hheld]

end SparqControl.TaskController
