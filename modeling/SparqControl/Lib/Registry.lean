/-
# SparqControl.Lib.Registry — records found by a number that is given out again.

A registry holds records with distinct keys. A record leaves, its key becomes free, and a later record
may get the same key. Whoever REMEMBERED the key then finds a record it never meant. `Sound` is the
absence of that: every key remembered on behalf of a label leads to a record of the label, or to none.

A record that leaves and a key that is forgotten never break it. A new record must have the label of
everybody who remembers its key (`Sound.change`), and a newly remembered key must lead to a record of the
label (`Sound.hold`). The key under which a record is remembered may be any view of it, not only the one
the registry keeps distinct.
-/
import Mathlib.Data.List.Nodup

namespace SparqControl.Lib

/-- Records with distinct keys. -/
structure Registry {κ α : Type*} (key : α → κ) where
  entries : List α
  nodup : (entries.map key).Nodup

namespace Registry

variable {κ α : Type*} {key : α → κ}

def empty : Registry key := ⟨[], List.nodup_nil⟩

/-- The keys tell the records apart. -/
theorem eq_of_key (r : Registry key) {a b : α} (ha : a ∈ r.entries) (hb : b ∈ r.entries)
    (h : key a = key b) : a = b :=
  List.inj_on_of_nodup_map r.nodup ha hb h

section Operations

variable [DecidableEq κ]

def lookup (r : Registry key) (k : κ) : Option α := r.entries.find? (key · = k)

/-- A record under a key that is free. -/
def add (r : Registry key) (a : α) : Registry key :=
  if h : key a ∈ r.entries.map key then r
  else ⟨r.entries ++ [a], by
    rw [List.map_append]
    refine r.nodup.append (List.nodup_singleton _) ?_
    rw [List.map_singleton, List.disjoint_singleton]
    exact h⟩

def remove (r : Registry key) (k : κ) : Registry key :=
  ⟨r.entries.filter (key · ≠ k), r.nodup.sublist (List.filter_sublist.map key)⟩

/-- Change the record under a key, by a change that keeps keys. -/
def modify (r : Registry key) (k : κ) (f : α → α) (hf : ∀ a, key (f a) = key a) : Registry key :=
  ⟨r.entries.map fun a => if key a = k then f a else a, by
    have hkeys : (r.entries.map fun a => if key a = k then f a else a).map key = r.entries.map key := by
      rw [List.map_map]
      apply List.map_congr_left
      intro a _
      by_cases h : key a = k <;> simp [h, hf]
    rw [hkeys]
    exact r.nodup⟩

variable {r : Registry key} {k : κ} {a b : α}

/-- What a lookup finds is an entry under the key. -/
theorem mem_of_lookup (h : r.lookup k = some a) : a ∈ r.entries ∧ key a = k := by
  have hkey := List.find?_some h
  rw [decide_eq_true_iff] at hkey
  exact ⟨List.mem_of_find?_eq_some h, hkey⟩

theorem mem_add_cases (h : b ∈ (r.add a).entries) : b = a ∨ b ∈ r.entries := by
  unfold add at h
  split at h
  · exact Or.inr h
  · rcases List.mem_append.mp h with h | h
    · exact Or.inr h
    · exact Or.inl (List.mem_singleton.mp h)

theorem mem_add_of_mem (h : b ∈ r.entries) : b ∈ (r.add a).entries := by
  unfold add
  split
  · exact h
  · exact List.mem_append_left _ h

theorem mem_add_self (h : ∀ b ∈ r.entries, key b ≠ key a) : a ∈ (r.add a).entries := by
  have hfree : key a ∉ r.entries.map key := by
    rintro hmem
    obtain ⟨b, hb, hkey⟩ := List.mem_map.mp hmem
    exact h b hb hkey
  rw [add, dif_neg hfree]
  exact List.mem_append_right _ (List.mem_singleton_self a)

theorem mem_remove : b ∈ (r.remove k).entries ↔ b ∈ r.entries ∧ key b ≠ k := by
  simp [remove]

theorem mem_modify_cases {f : α → α} (hf : ∀ a, key (f a) = key a)
    (h : b ∈ (r.modify k f hf).entries) :
    b ∈ r.entries ∨ ∃ a ∈ r.entries, key a = k ∧ b = f a := by
  obtain ⟨a, ha, hab⟩ := List.mem_map.mp h
  by_cases hk : key a = k
  · rw [if_pos hk] at hab
    exact Or.inr ⟨a, ha, hk, hab.symm⟩
  · rw [if_neg hk] at hab
    exact Or.inl (hab ▸ ha)

theorem mem_modify_of_mem {f : α → α} (hf : ∀ a, key (f a) = key a) (h : a ∈ r.entries) :
    a ∈ (r.modify k f hf).entries ∨ (key a = k ∧ f a ∈ (r.modify k f hf).entries) := by
  have hmem := List.mem_map_of_mem (f := fun a => if key a = k then f a else a) h
  by_cases hk : key a = k
  · rw [if_pos hk] at hmem
    exact Or.inr ⟨hk, hmem⟩
  · rw [if_neg hk] at hmem
    exact Or.inl hmem

end Operations

/-! ## Remembered keys -/

section Held

variable {ν : Type*} {L : Type*} {view : α → ν} {Of : L → α → Prop} {held held' : L → ν → Prop}
  {r r' : Registry key}

/-- Every remembered key leads to records of the label it is remembered for. -/
def Sound (view : α → ν) (Of : L → α → Prop) (held : L → ν → Prop) (r : Registry key) : Prop :=
  ∀ l k, held l k → ∀ a ∈ r.entries, view a = k → Of l a

/-- Remembering keys, and forgetting some: each new one must lead to records of its label. -/
theorem Sound.hold (h : Sound view Of held r)
    (hheld : ∀ l k, held' l k → held l k ∨ ∀ a ∈ r.entries, view a = k → Of l a) :
    Sound view Of held' r := by
  intro l k hk
  rcases hheld l k hk with hold | hnew
  · exact h l k hold
  · exact hnew

/-- Changing the records, and losing some: each stands for an earlier one under the same key, or is of
the label of whoever remembers its key. -/
theorem Sound.change (h : Sound view Of held r)
    (hr : ∀ x ∈ r'.entries, (∃ a ∈ r.entries, view a = view x ∧ ∀ l, Of l a → Of l x) ∨
      ∀ l, held l (view x) → Of l x) :
    Sound view Of held r' := by
  rintro l k hk x hx rfl
  rcases hr x hx with ⟨a, ha, hview, hof⟩ | hnew
  · exact hof l (h l (view x) hk a ha hview)
  · exact hnew l hk

end Held

end Registry

end SparqControl.Lib
