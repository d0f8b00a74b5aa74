/-
# SparqControl.Lib.Broadcast — one-dimensional arrays as an array library handles them.

Indices count from the end when they are negative, and shapes that differ are matched when one of them
is a single element: assigning into an array of length `n` (`broadcastTo`) and combining two arrays
element by element (`broadcastWith`). Where shapes do not match or an index lies outside, the operation
has no result.

The last section counts a stream from its end: `nthLatest`, and how a shift of registers follows it.
-/
import Mathlib.Data.Int.Notation
import Mathlib.Data.List.Basic

namespace SparqControl.Lib.Broadcast

variable {α β γ : Type*}

/-! ## Indices -/

/-- The element at an index, from the end if it is negative. -/
def index (l : List α) (i : ℤ) : Option α :=
  if 0 ≤ i then l[i.toNat]? else if 0 ≤ i + l.length then l[(i + l.length).toNat]? else none

/-- The index lies in the array. -/
def InRange (n : ℕ) (i : ℤ) : Prop := -(n : ℤ) ≤ i ∧ i < n

instance (n : ℕ) (i : ℤ) : Decidable (InRange n i) := inferInstanceAs (Decidable (_ ∧ _))

theorem exists_index_of_inRange {l : List α} {i : ℤ} (h : InRange l.length i) :
    ∃ a, a ∈ l ∧ index l i = some a := by
  obtain ⟨hlo, hhi⟩ := h
  unfold index
  by_cases h0 : 0 ≤ i
  · have hlt : i.toNat < l.length := by omega
    rw [if_pos h0]
    exact ⟨_, List.getElem_mem hlt, List.getElem?_eq_getElem hlt⟩
  · have hlt : (i + l.length).toNat < l.length := by omega
    rw [if_neg h0, if_pos (by omega)]
    exact ⟨_, List.getElem_mem hlt, List.getElem?_eq_getElem hlt⟩

theorem index_map (f : α → β) (l : List α) (i : ℤ) : index (l.map f) i = (index l i).map f := by
  unfold index
  rw [List.length_map]
  split
  · exact List.getElem?_map
  · split
    · exact List.getElem?_map
    · rfl

/-! ## Shapes -/

/-- What assigning `l` to all of an array of length `n` stores. -/
def broadcastTo (n : ℕ) (l : List α) : Option (List α) :=
  if l.length = n then some l
  else match l with
    | [a] => some (List.replicate n a)
    | _ => none

@[simp] theorem broadcastTo_length (l : List α) : broadcastTo l.length l = some l := if_pos rfl

theorem broadcastTo_of_length {n : ℕ} {l : List α} (h : l.length = n) : broadcastTo n l = some l :=
  if_pos h

/-- Two arrays combined element by element. -/
def broadcastWith (f : α → β → γ) (l : List α) (r : List β) : Option (List γ) :=
  if l.length = r.length then some (List.zipWith f l r)
  else match l, r with
    | _, [b] => some (l.map fun a => f a b)
    | [a], _ => some (r.map fun b => f a b)
    | _, _ => none

theorem broadcastWith_of_length {f : α → β → γ} {l : List α} {r : List β} (h : l.length = r.length) :
    broadcastWith f l r = some (List.zipWith f l r) := if_pos h

/-- Where both arrays have an element, the result has their combination. -/
theorem getElem?_broadcastWith {f : α → β → γ} {l : List α} {r : List β} {out : List γ}
    (h : broadcastWith f l r = some out) {k : ℕ} {a : α} {b : β} (ha : l[k]? = some a)
    (hb : r[k]? = some b) : out[k]? = some (f a b) := by
  unfold broadcastWith at h
  split at h
  · cases h
    rw [List.getElem?_zipWith, ha, hb]
  · split at h
    · -- a single element on the right is at index zero
      cases h
      cases k with
      | zero =>
          cases hb
          rw [List.getElem?_map, ha, Option.map_some]
      | succ k => cases hb
    · cases h
      cases k with
      | zero =>
          cases ha
          rw [List.getElem?_map, hb, Option.map_some]
      | succ k => cases ha
    · cases h

/-! ## Counting from the end -/

/-- The element `k` places before the last one. -/
def nthLatest (xs : List α) (k : ℕ) : Option α := xs.reverse[k]?

@[simp] theorem nthLatest_nil (k : ℕ) : nthLatest ([] : List α) k = none := by simp [nthLatest]

@[simp] theorem nthLatest_concat_zero (xs : List α) (x : α) : nthLatest (xs ++ [x]) 0 = some x := by
  simp [nthLatest]

@[simp] theorem nthLatest_concat_succ (xs : List α) (x : α) (k : ℕ) :
    nthLatest (xs ++ [x]) (k + 1) = nthLatest xs k := by
  simp [nthLatest]

end SparqControl.Lib.Broadcast
