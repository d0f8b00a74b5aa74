/-
# SparqControl.Config.Yaml — the values of a configuration document and how they are read.

`yaml.safe_load` gives a tree of scalars, lists and mappings. The loaders take it apart with
`require_key` and its relatives, which name the missing or ill-typed key by its PATH, and turn
scalars into numbers with `int`, `float`, `str` and `bool`. The conversions of the language that read
or write the text of a number are a parameter (`Conversions`), so nothing below depends on how a
numeral is spelled.

Floats are those of `PyFloat`: a document may hold `.inf` and `.nan`, and an integer too large for a
double makes `float` raise.
-/
import SparqControl.Hal.FloatArith

namespace SparqControl.Config

open SparqControl.Hal

/-- A value `yaml.safe_load` returns. Mappings keep the order of the document. `other` is an object
only `str` and `bool` can do something with (a date, a set, bytes). -/
inductive Yaml (K : Type) where
  | null
  | bool (b : Bool)
  | int (n : ℤ)
  | float (x : PyFloat K)
  | str (s : String)
  | seq (items : List (Yaml K))
  | map (entries : List (Yaml K × Yaml K))
  | other (text : String) (truthy : Bool)

/-- What loading a configuration may raise: `ConfigError` with its text, or an exception of a
conversion or of the file system. -/
inductive LoadError where
  | config (text : String)
  | typeError
  | valueError (text : String)
  | overflowError
  | osError
  deriving DecidableEq

abbrev Mapping (K : Type) := List (Yaml K × Yaml K)

/-- The conversions between text and numbers. -/
structure Conversions (K : Type) where
  intOfStr : String → Except LoadError ℤ
  intOfStrAnyBase : String → Except LoadError ℤ
  floatOfStr : String → Except LoadError (PyFloat K)
  strOf : Yaml K → String

section Require

variable {K : Type}

def Yaml.isKey (key : String) : Yaml K → Bool
  | .str s => s = key
  | _ => false

/-- `mapping.get(key)` for a text key. -/
def lookup (mapping : Mapping K) (key : String) : Option (Yaml K) :=
  (mapping.find? fun e => e.1.isKey key).map Prod.snd

/-- `require_key`. -/
def requireKey (mapping : Mapping K) (key path : String) : Except LoadError (Yaml K) :=
  match lookup mapping key with
  | none => .error (.config s!"Missing required config key: {path}.{key}")
  | some value => .ok value

/-- A required key whose value must be of one kind. -/
def requireAs {α : Type} (pick : Yaml K → Option α) (kind : String) (mapping : Mapping K)
    (key path : String) : Except LoadError α := do
  match pick (← requireKey mapping key path) with
  | some a => return a
  | none => throw (.config s!"Config key must be {kind}: {path}.{key}")

def Yaml.entries? : Yaml K → Option (Mapping K)
  | .map entries => some entries
  | _ => none

def Yaml.items? : Yaml K → Option (List (Yaml K))
  | .seq items => some items
  | _ => none

def Yaml.bool? : Yaml K → Option Bool
  | .bool b => some b
  | _ => none

/-- `require_mapping`. -/
def requireMapping : Mapping K → String → String → Except LoadError (Mapping K) :=
  requireAs Yaml.entries? "a mapping"

/-- `require_list`. -/
def requireList : Mapping K → String → String → Except LoadError (List (Yaml K)) :=
  requireAs Yaml.items? "a list"

/-- `_require_bool`. -/
def requireBool : Mapping K → String → String → Except LoadError Bool :=
  requireAs Yaml.bool? "a boolean"

/-- `load_yaml_mapping` on a document that was read. -/
def asMapping (path : String) : Yaml K → Except LoadError (Mapping K)
  | .map entries => .ok entries
  | _ => .error (.config s!"{path} must contain a YAML mapping")

/-- `str(value)`. -/
def pyStr (conv : Conversions K) : Yaml K → String
  | .str s => s
  | value => conv.strOf value

end Require

section Numbers

variable {K : Type} [Field K] [LinearOrder K]

/-- `bool(value)`. -/
def pyBool : Yaml K → Bool
  | .null => false
  | .bool b => b
  | .int n => n ≠ 0
  | .float x => x ≠ .fin 0
  | .str s => s ≠ ""
  | .seq items => !items.isEmpty
  | .map entries => !entries.isEmpty
  | .other _ truthy => truthy

/-- `float(value)`. -/
def pyFloat (conv : Conversions K) : Yaml K → Except LoadError (PyFloat K)
  | .bool b => .ok (.fin (if b then 1 else 0))
  | .int n => if n.natAbs < overflowBound then .ok (.fin n) else .error .overflowError
  | .float x => .ok x
  | .str s => conv.floatOfStr s
  | _ => .error .typeError

variable [FloorRing K]

/-- `int(value)` of a value that is not text: a float is cut at the point. -/
def pyIntOfNumber : Yaml K → Except LoadError ℤ
  | .bool b => .ok (if b then 1 else 0)
  | .int n => .ok n
  | .float (.fin x) => .ok (if 0 ≤ x then ⌊x⌋ else ⌈x⌉)
  | .float (.inf _) => .error .overflowError
  | .float .nan => .error (.valueError "cannot convert float NaN to integer")
  | _ => .error .typeError

/-- `int(value)`. -/
def pyInt (conv : Conversions K) : Yaml K → Except LoadError ℤ
  | .str s => conv.intOfStr s
  | value => pyIntOfNumber value

/-- `parse_int`: text is read with the base its prefix names. -/
def parseInt (conv : Conversions K) : Yaml K → Except LoadError ℤ
  | .str s => conv.intOfStrAnyBase s
  | value => pyIntOfNumber value

/-! ## Keys read as numbers and text -/

variable (conv : Conversions K) (mapping : Mapping K) (key path : String)

/-- `str(require_key(...))`. -/
def requireStr : Except LoadError String := do
  return pyStr conv (← requireKey mapping key path)

/-- `_require_float`. -/
def requireFloat : Except LoadError (PyFloat K) := do
  pyFloat conv (← requireKey mapping key path)

/-- `_require_int`. -/
def requireInt : Except LoadError ℤ := do
  pyInt conv (← requireKey mapping key path)

/-- `parse_int(require_key(...))`. -/
def requireParsedInt : Except LoadError ℤ := do
  parseInt conv (← requireKey mapping key path)

/-- `_optional_float_or_none`. -/
def optionalFloatOrNone : Except LoadError (Option (PyFloat K)) := do
  match ← requireKey mapping key path with
  | .null => return none
  | value => return some (← pyFloat conv value)

end Numbers

/-! ## What a successful read says about the document -/

section Specs

variable {K : Type}

/-- The value at a path of keys. -/
def Yaml.valueAt (doc : Yaml K) : List String → Option (Yaml K)
  | [] => some doc
  | key :: keys => (doc.entries?.bind (lookup · key)).bind (Yaml.valueAt · keys)

/-- The boolean at a path of keys. -/
def boolAt (doc : Yaml K) (keys : List String) : Option Bool := (doc.valueAt keys).bind Yaml.bool?

theorem Yaml.valueAt_map (entries : Mapping K) (key : String) (keys : List String) :
    (Yaml.map entries).valueAt (key :: keys) =
      (lookup entries key).bind (Yaml.valueAt · keys) := rfl

/-- A section of a document, read at a path. -/
theorem Yaml.valueAt_section {entries sect : Mapping K} {key : String}
    (h : lookup entries key = some (.map sect)) (keys : List String) :
    (Yaml.map entries).valueAt (key :: keys) = (Yaml.map sect).valueAt keys := by
  rw [Yaml.valueAt_map, h]
  rfl

theorem Yaml.valueAt_singleton (entries : Mapping K) (key : String) :
    (Yaml.map entries).valueAt [key] = lookup entries key := by
  rw [Yaml.valueAt_map]
  cases lookup entries key <;> rfl

theorem asMapping_eq_ok_iff {path : String} {doc : Yaml K} {entries : Mapping K} :
    asMapping path doc = .ok entries ↔ doc = .map entries := by
  cases doc <;> simp [asMapping]

theorem requireKey_eq_ok_iff {mapping : Mapping K} {key path : String} {value : Yaml K} :
    requireKey mapping key path = .ok value ↔ lookup mapping key = some value := by
  unfold requireKey
  split
  · rename_i h
    simp [h]
  · rename_i v h
    simp [h]

theorem requireAs_eq_ok_iff {α : Type} {pick : Yaml K → Option α} {kind : String}
    {mapping : Mapping K} {key path : String} {a : α} :
    requireAs pick kind mapping key path = .ok a ↔ (lookup mapping key).bind pick = some a := by
  unfold requireAs
  rw [bind_eq_ok_iff, Option.bind_eq_some_iff]
  constructor
  · rintro ⟨value, hvalue, h⟩
    refine ⟨value, requireKey_eq_ok_iff.mp hvalue, ?_⟩
    split at h
    · rename_i hpick
      cases h
      exact hpick
    · cases h
  · rintro ⟨value, hvalue, hpick⟩
    refine ⟨value, requireKey_eq_ok_iff.mpr hvalue, ?_⟩
    rw [hpick]
    rfl

theorem requireMapping_eq_ok_iff {mapping sect : Mapping K} {key path : String} :
    requireMapping mapping key path = .ok sect ↔ lookup mapping key = some (.map sect) := by
  rw [requireMapping, requireAs_eq_ok_iff, Option.bind_eq_some_iff]
  constructor
  · rintro ⟨value, hvalue, hpick⟩
    cases value with
    | map entries =>
        cases hpick
        exact hvalue
    | _ => cases hpick
  · intro h
    exact ⟨_, h, rfl⟩

theorem requireList_eq_ok_iff {mapping : Mapping K} {items : List (Yaml K)} {key path : String} :
    requireList mapping key path = .ok items ↔ lookup mapping key = some (.seq items) := by
  rw [requireList, requireAs_eq_ok_iff, Option.bind_eq_some_iff]
  constructor
  · rintro ⟨value, hvalue, hpick⟩
    cases value with
    | seq items =>
        cases hpick
        exact hvalue
    | _ => cases hpick
  · intro h
    exact ⟨_, h, rfl⟩

theorem boolAt_of_requireBool {mapping : Mapping K} {key path : String} {b : Bool}
    (h : requireBool mapping key path = .ok b) : boolAt (.map mapping) [key] = some b := by
  rw [boolAt, Yaml.valueAt_singleton]
  exact requireAs_eq_ok_iff.mp h

theorem boolAt_section {entries sect : Mapping K} {name : String}
    (h : lookup entries name = some (.map sect)) (keys : List String) :
    boolAt (.map entries) (name :: keys) = boolAt (.map sect) keys := by
  rw [boolAt, Yaml.valueAt_section h]
  rfl

/-- A read that turns the value of a key into something else, read off the document. -/
theorem bind_lookup_of_requireKey {α : Type} {read : Yaml K → Except LoadError α}
    {mapping : Mapping K} {key path : String} {a : α}
    (h : (requireKey mapping key path >>= read) = .ok a) :
    ((Yaml.map mapping).valueAt [key]).bind (fun value => (read value).toOption) = some a := by
  obtain ⟨value, hvalue, hread⟩ := bind_eq_ok_iff.mp h
  rw [Yaml.valueAt_singleton, requireKey_eq_ok_iff.mp hvalue, Option.bind_some, hread]
  rfl

end Specs

section NumberSpecs

variable {K : Type} [Field K] (conv : Conversions K)

/-- The float at a path of keys. -/
def floatAt (doc : Yaml K) (keys : List String) : Option (PyFloat K) :=
  (doc.valueAt keys).bind fun value => (pyFloat conv value).toOption

variable {conv}

theorem floatAt_of_requireFloat {mapping : Mapping K} {key path : String} {x : PyFloat K}
    (h : requireFloat conv mapping key path = .ok x) : floatAt conv (.map mapping) [key] = some x :=
  bind_lookup_of_requireKey h

/-- A float read inside a section, at its path in the document. -/
theorem floatAt_section {entries sect : Mapping K} {name : String}
    (h : lookup entries name = some (.map sect)) (keys : List String) :
    floatAt conv (.map entries) (name :: keys) = floatAt conv (.map sect) keys := by
  rw [floatAt, Yaml.valueAt_section h]
  rfl

variable (conv) [LinearOrder K] [FloorRing K]

/-- The integer at a path of keys, as `parse_int` reads it. -/
def intAt (doc : Yaml K) (keys : List String) : Option ℤ :=
  (doc.valueAt keys).bind fun value => (parseInt conv value).toOption

variable {conv}

theorem intAt_of_requireParsedInt {mapping : Mapping K} {key path : String} {n : ℤ}
    (h : requireParsedInt conv mapping key path = .ok n) : intAt conv (.map mapping) [key] = some n :=
  bind_lookup_of_requireKey h

theorem intAt_section {entries sect : Mapping K} {name : String}
    (h : lookup entries name = some (.map sect)) (keys : List String) :
    intAt conv (.map entries) (name :: keys) = intAt conv (.map sect) keys := by
  rw [intAt, Yaml.valueAt_section h]
  rfl

end NumberSpecs

end SparqControl.Config
