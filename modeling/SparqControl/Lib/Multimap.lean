/-
# SparqControl.Lib.Multimap — a dictionary of non-empty lists as an ordered list of keyed items.

A registry that keeps one list per key is, seen from outside, a SINGLE list of keyed items in the
order they were added. `Groups d items` says that the dictionary `d` holds exactly those items, grouped
by key, and no key with nothing under it. The two updates a registry makes (put a list under a key,
drop a key) keep the relation as long as they agree with the items at that key (`Groups.insert`,
`Groups.erase`).
-/
import SparqControl.Lib.Dict

namespace SparqControl.Lib

namespace Dict

variable {κ α : Type*} [DecidableEq κ]

/-- `del d[k]`. -/
def erase (d : Dict κ α) (k : κ) : Dict κ α where
  entries := d.entries.filter fun e => e.1 ≠ k
  nodup := d.nodup.sublist (List.filter_sublist.map Prod.fst)

theorem get?_erase (d : Dict κ α) (k j : κ) :
    (d.erase k).get? j = if j = k then none else d.get? j := by
  unfold erase get?
  rw [List.find?_filter]
  split
  · rename_i hjk
    subst hjk
    rw [List.find?_eq_none.mpr, Option.map_none]
    intro e _
    simp
  · rename_i hjk
    congr 2
    funext e
    by_cases hej : e.1 = j
    · simp [hej, hjk]
    · simp [hej]

theorem mem_keys_iff (d : Dict κ α) (k : κ) : k ∈ d.keys ↔ ∃ a, d.get? k = some a := by
  unfold keys get?
  rw [List.mem_map]
  constructor
  · rintro ⟨e, he, rfl⟩
    cases hfind : d.entries.find? (fun e' => e'.1 = e.1) with
    | none => simpa using List.find?_eq_none.mp hfind e he
    | some e' => exact ⟨e'.2, rfl⟩
  · rintro ⟨a, ha⟩
    obtain ⟨e, he, -⟩ := Option.map_eq_some_iff.mp ha
    exact ⟨e, List.mem_of_find?_eq_some he, by simpa using List.find?_some he⟩

end Dict

namespace Multimap

variable {κ α : Type*} [DecidableEq κ]

/-- The items under a key, in the order they were added. -/
def under (k : κ) (items : List (κ × α)) : List α := (items.filter fun e => e.1 = k).map Prod.snd

theorem under_concat (j k : κ) (a : α) (items : List (κ × α)) :
    under j (items ++ [(k, a)]) = if j = k then under j items ++ [a] else under j items := by
  unfold under
  rw [List.filter_append, List.map_append]
  split
  · rename_i hjk
    simp [hjk]
  · rename_i hjk
    simp [Ne.symm hjk]

/-- The items without the first one under `k` that equals `a`. -/
def removeFirst [BEq α] (k : κ) (a : α) (items : List (κ × α)) : List (κ × α) :=
  items.eraseP fun e => e.1 = k && e.2 == a

/-- Removing an item that a filter drops anyway. -/
theorem filter_eraseP_of_disjoint {β : Type*} {p q : β → Bool} (h : ∀ b, p b = true → q b = false)
    (l : List β) : (l.eraseP p).filter q = l.filter q := by
  induction l with
  | nil => rfl
  | cons b l ih =>
      by_cases hp : p b = true
      · rw [List.eraseP_cons_of_pos hp, List.filter_cons_of_neg (by simp [h b hp])]
      · rw [List.eraseP_cons_of_neg hp]
        simp only [List.filter_cons, ih]

theorem under_removeFirst [BEq α] (j k : κ) (a : α) (items : List (κ × α)) :
    under j (removeFirst k a items) = if j = k then (under j items).erase a else under j items := by
  unfold under removeFirst
  split
  · rename_i hjk
    subst hjk
    rw [List.erase_eq_eraseP', List.eraseP_map, List.eraseP_filter]
    congr 3
    funext e
    exact Bool.and_comm _ _
  · rename_i hjk
    rw [filter_eraseP_of_disjoint]
    intro e he
    rw [Bool.and_eq_true, decide_eq_true_eq] at he
    simp [he.1, Ne.symm hjk]

/-- The dictionary holds the items, grouped by key, and no key with nothing under it. -/
def Groups (d : Dict κ (List α)) (items : List (κ × α)) : Prop :=
  ∀ k l, d.get? k = some l ↔ l ≠ [] ∧ under k items = l

variable {d : Dict κ (List α)} {items items' : List (κ × α)}

theorem groups_empty : Groups (Dict.empty : Dict κ (List α)) [] := by
  intro k l
  constructor
  · intro h
    cases h
  · rintro ⟨hne, hunder⟩
    exact absurd hunder.symm hne

/-- Reading a key with the empty list as default gives the items under it. -/
theorem Groups.getD (h : Groups d items) (k : κ) : (d.get? k).getD [] = under k items := by
  cases hget : d.get? k with
  | none =>
      by_contra hne
      have hsome := (h k (under k items)).mpr ⟨fun hnil => hne hnil.symm, rfl⟩
      rw [hget] at hsome
      cases hsome
  | some l => exact ((h k l).mp hget).2.symm

/-- The keys are those with something under them. -/
theorem Groups.mem_keys_iff (h : Groups d items) (k : κ) : k ∈ d.keys ↔ under k items ≠ [] := by
  rw [d.mem_keys_iff]
  constructor
  · rintro ⟨l, hl⟩
    obtain ⟨hne, hunder⟩ := (h k l).mp hl
    rw [hunder]
    exact hne
  · intro hne
    exact ⟨_, (h k _).mpr ⟨hne, rfl⟩⟩

/-- Putting a non-empty list under a key. -/
theorem Groups.insert (h : Groups d items) {k : κ} (hne : under k items' ≠ [])
    (hother : ∀ j, j ≠ k → under j items' = under j items) :
    Groups (d.insert k (under k items')) items' := by
  intro j l
  rw [Dict.get?_insert]
  split
  · rename_i hjk
    subst hjk
    rw [Option.some.injEq]
    constructor
    · rintro rfl
      exact ⟨hne, rfl⟩
    · rintro ⟨-, rfl⟩
      rfl
  · rename_i hjk
    rw [hother j hjk]
    exact h j l

/-- Dropping a key that has nothing under it any more. -/
theorem Groups.erase (h : Groups d items) {k : κ} (hnil : under k items' = [])
    (hother : ∀ j, j ≠ k → under j items' = under j items) : Groups (d.erase k) items' := by
  intro j l
  rw [Dict.get?_erase]
  split
  · rename_i hjk
    subst hjk
    rw [hnil]
    constructor
    · intro hl
      cases hl
    · rintro ⟨hl, hl'⟩
      exact absurd hl'.symm hl
  · rename_i hjk
    rw [hother j hjk]
    exact h j l

end Multimap

end SparqControl.Lib
