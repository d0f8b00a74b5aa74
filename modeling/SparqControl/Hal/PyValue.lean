/-
# SparqControl.Hal.PyValue — the exceptions and floats the host code computes with.

`PyError` is the exception a host function may raise, with the constant part of its message.
`PyFloat K` is a float in EXACT ARITHMETIC: a number of the ordered field `K`, an infinity, or NaN.
The two special values matter because the host's range checks are written `x < lo or x > hi`, which
NaN passes, so a NaN command is stopped later, by the conversion to an integer.
-/
import Mathlib.Algebra.Order.Floor.Ring
import Mathlib.Data.List.Forall2
import SparqControl.Lib.Quantize

namespace SparqControl.Hal

open SparqControl.Lib.Quantize

/-- A raised exception: its class and the constant part of its text. -/
inductive PyError where
  | valueError (text : String)
  | runtimeError (text : String)
  | structError (text : String)
  | zeroDivisionError
  | overflowError
  deriving DecidableEq, Repr

/-- A sequenced computation returns exactly when both halves do. -/
theorem bind_eq_ok_iff {ε α β : Type} {x : Except ε α} {f : α → Except ε β} {b : β} :
    (x >>= f) = .ok b ↔ ∃ a, x = .ok a ∧ f a = .ok b := by
  cases x with
  | error e => simp [bind, Except.bind]
  | ok a => simp [bind, Except.bind]

theorem map_eq_ok_iff {ε α β : Type} {x : Except ε α} {f : α → β} {b : β} :
    x.map f = .ok b ↔ ∃ a, x = .ok a ∧ f a = b := by
  cases x with
  | error e => simp [Except.map]
  | ok a => simp [Except.map]

/-- A list computed element by element. -/
theorem mapM_eq_ok_iff {ε α β : Type} {f : α → Except ε β} {l : List α} {r : List β} :
    l.mapM f = .ok r ↔ List.Forall₂ (fun a b => f a = .ok b) l r := by
  induction l generalizing r with
  | nil =>
      rw [List.forall₂_nil_left_iff, List.mapM_nil]
      exact ⟨fun h => (Except.ok.inj h).symm, fun h => congrArg Except.ok h.symm⟩
  | cons a l ih =>
      rw [List.mapM_cons, bind_eq_ok_iff, List.forall₂_cons_left_iff]
      constructor
      · rintro ⟨b, hb, h⟩
        obtain ⟨bs, hbs, h⟩ := bind_eq_ok_iff.mp h
        cases h
        exact ⟨b, bs, hb, ih.mp hbs, rfl⟩
      · rintro ⟨b, bs, hb, hbs, rfl⟩
        exact ⟨b, hb, bind_eq_ok_iff.mpr ⟨bs, ih.mpr hbs, rfl⟩⟩

theorem length_of_mapM {ε α β : Type} {f : α → Except ε β} {l : List α} {r : List β}
    (h : l.mapM f = .ok r) : r.length = l.length :=
  (mapM_eq_ok_iff.mp h).length_eq.symm

theorem exists_mapM {ε α β : Type} {f : α → Except ε β} {l : List α}
    (h : ∀ a ∈ l, ∃ b, f a = .ok b) : ∃ r, l.mapM f = .ok r := by
  induction l with
  | nil => exact ⟨[], rfl⟩
  | cons a l ih =>
      obtain ⟨b, hb⟩ := h a List.mem_cons_self
      obtain ⟨r, hr⟩ := ih fun a' ha' => h a' (List.mem_cons_of_mem _ ha')
      exact ⟨b :: r, mapM_eq_ok_iff.mpr (.cons hb (mapM_eq_ok_iff.mp hr))⟩

theorem getElem?_of_mapM {ε α β : Type} {f : α → Except ε β} {l : List α} {r : List β}
    (h : l.mapM f = .ok r) {k : ℕ} {a : α} (ha : l[k]? = some a) :
    ∃ b, r[k]? = some b ∧ f a = .ok b := by
  have hall := mapM_eq_ok_iff.mp h
  obtain ⟨hk, rfl⟩ := List.getElem?_eq_some_iff.mp ha
  have hk' : k < r.length := by rwa [length_of_mapM h]
  exact ⟨r[k], List.getElem?_eq_getElem hk', hall.get hk hk'⟩

/-- The double nearest to π, as the rational number it is: `math.pi` of the host and `kPi` of the
simulator. -/
def mathPi {K : Type*} [Field K] : K := 884279719003555 / 281474976710656

/-- A float in exact arithmetic. -/
inductive PyFloat (K : Type*) where
  | fin (x : K)
  | inf (negative : Bool)
  | nan
  deriving DecidableEq

namespace PyFloat

variable {K : Type*} [Field K] [LinearOrder K]

/-- `x < c` for a finite `c`; every comparison with NaN is false. -/
def ltFin : PyFloat K → K → Bool
  | fin x, c => x < c
  | inf negative, _ => negative
  | nan, _ => false

/-- `x > c` for a finite `c`. -/
def gtFin : PyFloat K → K → Bool
  | fin x, c => c < x
  | inf negative, _ => !negative
  | nan, _ => false

/-- `x - c` for a finite `c`. -/
def subFin : PyFloat K → K → PyFloat K
  | fin x, c => fin (x - c)
  | inf negative, _ => inf negative
  | nan, _ => nan

/-- `x * c` for a finite `c`. -/
def mulFin : PyFloat K → K → PyFloat K
  | fin x, c => fin (x * c)
  | inf negative, c => if c = 0 then nan else inf (negative ^^ decide (c < 0))
  | nan, _ => nan

/-- `x / c` for a finite `c`; float division by zero raises, whatever the numerator. -/
def divFin : PyFloat K → K → Except PyError (PyFloat K)
  | x, c =>
    if c = 0 then .error .zeroDivisionError
    else match x with
      | fin y => .ok (fin (y / c))
      | inf negative => .ok (inf (negative ^^ decide (c < 0)))
      | nan => .ok nan

/-- The host's `round_half_away_from_zero`: `floor(x + 0.5)` or `ceil(x - 0.5)`. NaN falls into the
second branch, where the conversion to an integer raises. -/
def roundHalfAwayFromZero [FloorRing K] : PyFloat K → Except PyError ℤ
  | fin x => .ok (roundHalfAway x)
  | inf _ => .error .overflowError
  | nan => .error (.valueError "cannot convert float NaN to integer")

/-- Python's `int(round(x))`: the nearest integer, ties to the even one. -/
def pyRound [FloorRing K] : PyFloat K → Except PyError ℤ
  | fin x => .ok (roundHalfEven x)
  | inf _ => .error .overflowError
  | nan => .error (.valueError "cannot convert float NaN to integer")

@[simp] theorem roundHalfAwayFromZero_fin [FloorRing K] (x : K) :
    roundHalfAwayFromZero (fin x) = .ok (roundHalfAway x) := rfl

end PyFloat

end SparqControl.Hal
