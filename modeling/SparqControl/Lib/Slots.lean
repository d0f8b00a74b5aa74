/-
# SparqControl.Lib.Slots — a list as a table of numbered slots.

Threads, calls and processes are numbered in the order they appear, and each keeps its own slot of a
list. A slot of the table after one step is the slot that was written or an old one. A table filled
by a loop of writes holds, at a key that is written with one value only, that value.
-/
import Mathlib.Data.List.Basic
import Mathlib.Logic.Function.Basic

namespace SparqControl.Lib.Slots

variable {α : Type*} {l : List α} {a b : α} {i j : ℕ}

/-- A slot after one of them was written. -/
theorem getElem?_set_cases (h : (l.set i a)[j]? = some b) :
    (i = j ∧ a = b) ∨ (i ≠ j ∧ l[j]? = some b) := by
  by_cases hij : i = j
  · subst hij
    rw [List.getElem?_set_self'] at h
    obtain ⟨_, -, hab⟩ := Option.map_eq_some_iff.mp h
    exact Or.inl ⟨rfl, hab⟩
  · rw [List.getElem?_set_ne hij] at h
    exact Or.inr ⟨hij, h⟩

/-- A slot after a new one was opened. -/
theorem getElem?_concat_cases (h : (l ++ [a])[j]? = some b) :
    (j = l.length ∧ a = b) ∨ l[j]? = some b := by
  rcases Nat.lt_trichotomy j l.length with hlt | rfl | hgt
  · rw [List.getElem?_append_left hlt] at h
    exact Or.inr h
  · rw [List.getElem?_concat_length] at h
    exact Or.inl ⟨rfl, Option.some.inj h⟩
  · rw [List.getElem?_eq_none (by simp; omega)] at h
    cases h

section Writes

variable {κ β : Type*} [DecidableEq κ]

/-- The table after a list of writes. -/
def writes (table : κ → β) (ws : List (κ × β)) : κ → β :=
  ws.foldl (fun f w => Function.update f w.1 w.2) table

/-- A key that is not written keeps its value. -/
theorem writes_of_notMem {k : κ} (ws : List (κ × β)) :
    ∀ table : κ → β, (∀ w ∈ ws, w.1 ≠ k) → writes table ws k = table k := by
  induction ws with
  | nil => intro table _; rfl
  | cons w ws ih =>
      intro table hne
      have htail : ∀ w' ∈ ws, w'.1 ≠ k := fun w' hw' => hne w' (List.mem_cons_of_mem _ hw')
      show writes (Function.update table w.1 w.2) ws k = table k
      rw [ih _ htail, Function.update_of_ne (hne w List.mem_cons_self).symm]

/-- A key that is written with one value only holds it: the order of the writes does not matter. -/
theorem writes_of_mem {k : κ} {v : β} (ws : List (κ × β)) :
    ∀ table : κ → β, (k, v) ∈ ws → (∀ w ∈ ws, w.1 = k → w.2 = v) → writes table ws k = v := by
  induction ws with
  | nil => intro table hmem _; cases hmem
  | cons w ws ih =>
      intro table hmem hagree
      have htail : ∀ w' ∈ ws, w'.1 = k → w'.2 = v :=
        fun w' hw' => hagree w' (List.mem_cons_of_mem _ hw')
      show writes (Function.update table w.1 w.2) ws k = v
      by_cases hlater : ∃ w' ∈ ws, w'.1 = k
      · obtain ⟨⟨k', v'⟩, hw', rfl⟩ := hlater
        have hv : v' = v := htail _ hw' rfl
        exact ih _ (hv ▸ hw') htail
      · -- no later write, so the first one is it
        have hnone : ∀ w' ∈ ws, w'.1 ≠ k := fun w' hw' hk => hlater ⟨w', hw', hk⟩
        rw [writes_of_notMem ws _ hnone]
        rcases List.mem_cons.mp hmem with rfl | hmem
        · exact Function.update_self _ _ _
        · exact absurd rfl (hnone _ hmem)

end Writes

section Modify

variable {κ : Type*}

/-- A slot that is no key's stays as it is in a loop that changes one slot for each key. -/
theorem getElem?_foldl_modify_of_notMem (slot : κ → ℕ) (f : κ → α → α) {n : ℕ} (ks : List κ) :
    ∀ l : List α, n ∉ ks.map slot →
      (ks.foldl (fun l k => l.modify (slot k) (f k)) l)[n]? = l[n]? := by
  induction ks with
  | nil => intro l _; rfl
  | cons k ks ih =>
      intro l hn
      rw [List.map_cons, List.mem_cons, not_or] at hn
      rw [List.foldl_cons, ih _ hn.2, List.getElem?_modify_ne _ _ (Ne.symm hn.1)]

/-- A slot after such a loop, with no slot for two keys: it was changed by its own key only. -/
theorem getElem?_foldl_modify (slot : κ → ℕ) (f : κ → α → α) {k : κ} (ks : List κ) :
    ∀ l : List α, (ks.map slot).Nodup → k ∈ ks →
      (ks.foldl (fun l k => l.modify (slot k) (f k)) l)[slot k]? = l[slot k]?.map (f k) := by
  induction ks with
  | nil => intro l _ hk; cases hk
  | cons k' ks ih =>
      intro l hnodup hk
      rw [List.map_cons, List.nodup_cons] at hnodup
      rw [List.foldl_cons]
      by_cases hlater : k ∈ ks
      · have hne : slot k' ≠ slot k := by
          intro heq
          exact hnodup.1 (heq ▸ List.mem_map_of_mem hlater)
        rw [ih _ hnodup.2 hlater, List.getElem?_modify_ne _ _ hne]
      · obtain rfl : k = k' := (List.mem_cons.mp hk).resolve_right hlater
        rw [getElem?_foldl_modify_of_notMem slot f ks _ hnodup.1, List.getElem?_modify_eq]
        rfl

end Modify

end SparqControl.Lib.Slots
