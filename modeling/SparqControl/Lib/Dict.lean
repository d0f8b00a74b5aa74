/-
# SparqControl.Lib.Dict — insertion-ordered dictionaries.

The dictionary of a scripting language: a key keeps the position of its FIRST insertion, a second
insertion only replaces the value. Keys are distinct by construction (`nodup` is a field), so
iterating over a `Dict` visits every key exactly once and `sortedKeys` is a duplicate-free list.
-/
import Mathlib.Data.List.Induction
import Mathlib.Data.List.Sort
import Mathlib.Data.List.Nodup

namespace SparqControl.Lib

/-- An insertion-ordered dictionary with distinct keys. -/
structure Dict (κ α : Type*) where
  entries : List (κ × α)
  nodup : (entries.map Prod.fst).Nodup

namespace Dict

variable {κ α : Type*}

/-- The keys in insertion order. -/
def keys (d : Dict κ α) : List κ := d.entries.map Prod.fst

/-- The values in insertion order. -/
def values (d : Dict κ α) : List α := d.entries.map Prod.snd

theorem keys_nodup (d : Dict κ α) : d.keys.Nodup := d.nodup

/-- The empty dictionary. -/
def empty : Dict κ α := ⟨[], List.nodup_nil⟩

@[simp] theorem keys_empty : (empty : Dict κ α).keys = [] := rfl

/-- Every value replaced by a function of it. -/
def mapValues {β : Type*} (f : α → β) (d : Dict κ α) : Dict κ β where
  entries := d.entries.map fun e => (e.1, f e.2)
  nodup := by
    rw [List.map_map]
    exact d.nodup

theorem values_mapValues {β : Type*} (f : α → β) (d : Dict κ α) :
    (d.mapValues f).values = d.values.map f := by
  simp [values, mapValues]

section Lookup

variable [DecidableEq κ]

/-- `d.get(k)`. -/
def get? (d : Dict κ α) (k : κ) : Option α := (d.entries.find? (fun e => e.1 = k)).map Prod.snd

/-- Replace the value at `k` where it stands. -/
def replace (k : κ) (a : α) (es : List (κ × α)) : List (κ × α) :=
  es.map fun e => if e.1 = k then (k, a) else e

theorem map_fst_replace (k : κ) (a : α) (es : List (κ × α)) :
    (replace k a es).map Prod.fst = es.map Prod.fst := by
  rw [replace, List.map_map]
  apply List.map_congr_left
  intro e _
  by_cases h : e.1 = k <;> simp [h]

/-- `d[k] = a`. -/
def insert (d : Dict κ α) (k : κ) (a : α) : Dict κ α :=
  if h : k ∈ d.keys then ⟨replace k a d.entries, by rw [map_fst_replace]; exact d.nodup⟩
  else ⟨d.entries ++ [(k, a)], by
    rw [List.map_append]
    refine d.nodup.append (List.nodup_singleton k) ?_
    rw [List.map_singleton, List.disjoint_singleton]
    exact h⟩

theorem keys_insert (d : Dict κ α) (k : κ) (a : α) :
    (d.insert k a).keys = if k ∈ d.keys then d.keys else d.keys ++ [k] := by
  unfold insert
  split
  · exact map_fst_replace k a d.entries
  · simp [keys]

theorem mem_keys_insert (d : Dict κ α) (k j : κ) (a : α) :
    j ∈ (d.insert k a).keys ↔ j = k ∨ j ∈ d.keys := by
  rw [keys_insert]
  split
  · rename_i h
    refine ⟨Or.inr, ?_⟩
    rintro (rfl | hj)
    · exact h
    · exact hj
  · simp [or_comm]

theorem find?_replace (k j : κ) (a : α) (es : List (κ × α)) :
    (replace k a es).find? (fun e => e.1 = j) =
      (es.find? (fun e => e.1 = j)).map fun e => if e.1 = k then (k, a) else e := by
  rw [replace, List.find?_map]
  congr 2
  funext e
  by_cases h : e.1 = k <;> simp [h]

theorem get?_insert (d : Dict κ α) (k j : κ) (a : α) :
    (d.insert k a).get? j = if j = k then some a else d.get? j := by
  unfold insert get?
  split
  · rename_i hk
    simp only [find?_replace, Option.map_map]
    split
    · rename_i hj
      subst hj
      obtain ⟨e, he, hej⟩ := List.mem_map.mp hk
      cases hf : d.entries.find? (fun e => e.1 = j) with
      | none => exact absurd hej (by simpa using List.find?_eq_none.mp hf e he)
      | some e' =>
          have : e'.1 = j := by simpa using List.find?_some hf
          simp [this]
    · rename_i hj
      cases hf : d.entries.find? (fun e => e.1 = j) with
      | none => rfl
      | some e' =>
          have : e'.1 = j := by simpa using List.find?_some hf
          simp [this, hj]
  · rename_i hk
    rw [List.find?_append]
    split
    · rename_i hj
      subst hj
      have hf : d.entries.find? (fun e => e.1 = j) = none := by
        rw [List.find?_eq_none]
        intro e he hej
        exact hk (List.mem_map.mpr ⟨e, he, by simpa using hej⟩)
      simp [hf]
    · rename_i hj
      simp [Ne.symm hj]

theorem get?_eq_none_iff (d : Dict κ α) (k : κ) : d.get? k = none ↔ k ∉ d.keys := by
  rw [get?, Option.map_eq_none_iff, List.find?_eq_none, keys]
  simp only [decide_eq_true_eq, List.mem_map, not_exists, not_and]

theorem mem_of_get? {d : Dict κ α} {k : κ} {a : α} (h : d.get? k = some a) : (k, a) ∈ d.entries := by
  obtain ⟨e, he, rfl⟩ := Option.map_eq_some_iff.mp h
  obtain rfl : e.1 = k := by simpa using List.find?_some he
  exact List.mem_of_find?_eq_some he

/-- `{k: f(k) for k in ks}`. -/
def tabulate (ks : List κ) (f : κ → α) : Dict κ α :=
  ks.foldl (fun d k => d.insert k (f k)) empty

/-- Filling a dictionary from a list of pairs, in order; a later pair replaces an earlier one. -/
def ofList (ps : List (κ × α)) : Dict κ α := ps.foldl (fun d p => d.insert p.1 p.2) empty

theorem ofList_concat (ps : List (κ × α)) (p : κ × α) :
    ofList (ps ++ [p]) = (ofList ps).insert p.1 p.2 := by
  simp [ofList]

theorem mem_keys_ofList (ps : List (κ × α)) (k : κ) :
    k ∈ (ofList ps).keys ↔ k ∈ ps.map Prod.fst := by
  induction ps using List.reverseRecOn with
  | nil => simp [ofList]
  | append_singleton ps p ih => rw [ofList_concat, mem_keys_insert, ih]; simp [or_comm]

/-- Reading a dictionary filled from a list: the LAST pair listed under the key. -/
theorem get?_ofList (ps : List (κ × α)) (k : κ) :
    (ofList ps).get? k = (ps.reverse.find? (fun p => p.1 = k)).map Prod.snd := by
  induction ps using List.reverseRecOn with
  | nil => rfl
  | append_singleton ps p ih =>
      rw [ofList_concat, get?_insert, List.reverse_append]
      by_cases h : k = p.1
      · simp [h]
      · simp [h, Ne.symm h, ih]

theorem tabulate_eq_ofList (ks : List κ) (f : κ → α) :
    tabulate ks f = ofList (ks.map fun k => (k, f k)) := by
  rw [tabulate, ofList, List.foldl_map]

theorem mem_keys_tabulate (ks : List κ) (f : κ → α) (k : κ) :
    k ∈ (tabulate ks f).keys ↔ k ∈ ks := by
  rw [tabulate_eq_ofList, mem_keys_ofList, List.map_map]
  simp [Function.comp_def]

/-- Every entry of a tabulated dictionary holds the table's value at its key. -/
theorem entries_tabulate (ks : List κ) (f : κ → α) :
    (tabulate ks f).entries = (tabulate ks f).keys.map fun k => (k, f k) := by
  induction ks using List.reverseRecOn with
  | nil => rfl
  | append_singleton ks k ih =>
      have h : tabulate (ks ++ [k]) f = (tabulate ks f).insert k (f k) := by simp [tabulate]
      rw [h]
      unfold insert
      -- a repeated key replaces its value by the same one
      split
      · simp only [keys, map_fst_replace]
        rw [replace, ih]
        simp only [keys, List.map_map]
        apply List.map_congr_left
        intro j _
        by_cases hj : j.1 = k <;> simp [hj]
      · simp only [keys, List.map_append, List.map_map] at ih ⊢
        rw [ih]
        simp [Function.comp_def]

/-- The keys of a tabulated dictionary do not depend on the table. -/
theorem keys_tabulate_congr {β : Type*} (ks : List κ) (f : κ → α) (g : κ → β) :
    (tabulate ks f).keys = (tabulate ks g).keys := by
  induction ks using List.reverseRecOn with
  | nil => rfl
  | append_singleton ks k ih =>
      have hf : tabulate (ks ++ [k]) f = (tabulate ks f).insert k (f k) := by simp [tabulate]
      have hg : tabulate (ks ++ [k]) g = (tabulate ks g).insert k (g k) := by simp [tabulate]
      rw [hf, hg, keys_insert, keys_insert, ih]

theorem values_tabulate (ks : List κ) (f : κ → α) :
    (tabulate ks f).values = (tabulate ks f).keys.map f := by
  rw [values, entries_tabulate, List.map_map]
  rfl

theorem get?_tabulate (ks : List κ) (f : κ → α) (k : κ) :
    (tabulate ks f).get? k = if k ∈ ks then some (f k) else none := by
  rw [tabulate_eq_ofList, get?_ofList, ← List.map_reverse, List.find?_map, Option.map_map]
  split
  · rename_i h
    cases hf : ks.reverse.find? ((fun p : κ × α => decide (p.1 = k)) ∘ fun k => (k, f k)) with
    | none =>
        rw [List.find?_eq_none] at hf
        exact absurd (hf k (List.mem_reverse.mpr h)) (by simp)
    | some j =>
        obtain rfl : j = k := by simpa using List.find?_some hf
        rfl
  · rename_i h
    rw [Option.map_eq_none_iff, List.find?_eq_none]
    intro j hj hjk
    obtain rfl : j = k := by simpa using hjk
    exact h (List.mem_reverse.mp hj)

end Lookup

section Keyed

variable [DecidableEq κ] {key : α → κ} {d : Dict κ α} {a b : α}

/-- Inserting under a new key appends. -/
theorem values_insert_of_not_mem {k : κ} (hk : k ∉ d.keys) : (d.insert k a).values = d.values ++ [a] := by
  rw [insert, dif_neg hk]
  simp [values]

/-- Every value knows the key it stands under. -/
def Keyed (key : α → κ) (d : Dict κ α) : Prop := ∀ e ∈ d.entries, key e.2 = e.1

omit [DecidableEq κ] in
theorem Keyed.map_values (h : Keyed key d) : d.values.map key = d.keys := by
  rw [values, keys, List.map_map]
  exact List.map_congr_left h

omit [DecidableEq κ] in
/-- Where no key comes twice, one entry has the key of an entry. -/
theorem filter_eq_singleton {β : Type*} [DecidableEq β] {f : α → β} {l : List α}
    (hkeys : (l.map f).Nodup) {a : α} (ha : a ∈ l) : l.filter (fun x => f x = f a) = [a] := by
  induction l with
  | nil => cases ha
  | cons b l ih =>
      obtain ⟨hnew, hkeys⟩ := List.nodup_cons.mp hkeys
      rcases List.mem_cons.mp ha with rfl | ha
      · rw [List.filter_cons_of_pos (by simp), List.filter_eq_nil_iff.mpr fun x hx => ?_]
        simpa using fun heq : f x = f a => hnew (heq ▸ List.mem_map_of_mem hx)
      · have hne : ¬ f b = f a := fun heq => hnew (heq ▸ List.mem_map_of_mem ha)
        rw [List.filter_cons_of_neg (by simpa using hne), ih hkeys ha]

omit [DecidableEq κ] in
theorem Keyed.eq_of_key_eq (h : Keyed key d) (ha : a ∈ d.values) (hb : b ∈ d.values)
    (hkey : key a = key b) : a = b := by
  have hnodup : (d.values.map key).Nodup := h.map_values ▸ d.keys_nodup
  exact List.inj_on_of_nodup_map hnodup ha hb hkey

/-- A value is found under its key. -/
theorem Keyed.get?_key (h : Keyed key d) (hb : b ∈ d.values) : d.get? (key b) = some b := by
  cases hget : d.get? (key b) with
  | none =>
      have hmem : key b ∈ d.keys := h.map_values ▸ List.mem_map_of_mem hb
      exact absurd hmem ((get?_eq_none_iff d (key b)).mp hget)
  | some a =>
      have hentry := mem_of_get? hget
      have hsame : a = b := h.eq_of_key_eq (List.mem_map.mpr ⟨_, hentry, rfl⟩) hb (h _ hentry)
      rw [hsame]

theorem Keyed.insert (h : Keyed key d) {k : κ} (hk : key a = k) : Keyed key (d.insert k a) := by
  intro e he
  unfold Dict.insert at he
  split at he
  · obtain ⟨e', he', rfl⟩ := List.mem_map.mp he
    split
    · exact hk
    · exact h e' he'
  · rcases List.mem_append.mp he with he | he
    · exact h e he
    · rw [List.mem_singleton.mp he]
      exact hk

/-- Replacing a value by one of the same kind, seen through the values of some kind. -/
theorem Keyed.filter_values_insert (h : Keyed key d) (hb : b ∈ d.values) {p : α → Bool}
    (hp : p a = p b) :
    (d.insert (key b) a).values.filter p =
      (d.values.filter p).map fun x => if key x = key b then a else x := by
  have hmem : key b ∈ d.keys := h.map_values ▸ List.mem_map_of_mem hb
  have hvalues : (d.insert (key b) a).values = d.values.map fun x => if key x = key b then a else x := by
    rw [Dict.insert, dif_pos hmem]
    simp only [values, replace, List.map_map]
    apply List.map_congr_left
    intro e he
    simp only [Function.comp, h e he]
    split <;> rfl
  rw [hvalues, List.filter_map]
  congr 1
  apply List.filter_congr
  intro x hx
  simp only [Function.comp]
  split
  · rename_i hkey
    rw [h.eq_of_key_eq hx hb hkey, hp]
  · rfl

end Keyed

section Sorted

variable [LinearOrder κ]

/-- `sorted(d)`. -/
def sortedKeys (d : Dict κ α) : List κ := d.keys.insertionSort (· ≤ ·)

theorem mem_sortedKeys (d : Dict κ α) (k : κ) : k ∈ d.sortedKeys ↔ k ∈ d.keys :=
  (List.perm_insertionSort (· ≤ ·) d.keys).mem_iff

theorem sortedKeys_nodup (d : Dict κ α) : d.sortedKeys.Nodup :=
  (List.perm_insertionSort (· ≤ ·) d.keys).nodup_iff.mpr d.keys_nodup

end Sorted

end Dict

end SparqControl.Lib
