/-
# SparqControl.Lib.Loop — loops that an exception leaves.

A loop over a list that tries every element and is left at the first one that raises: what it tried
(`attempts`), and when nobody behind a failure is missed (`forall_mem_takeWhile_iff`).
-/
import Mathlib.Data.List.TakeWhile

namespace SparqControl.Lib.Loop

variable {α : Type*}

/-- The elements a loop tried, and the one that raised. -/
def attempts (raises : α → Bool) : List α → List α × Option α
  | [] => ([], none)
  | a :: l => if raises a then ([a], some a) else (a :: (attempts raises l).1, (attempts raises l).2)

/-- A loop runs to its end exactly when nothing raises. -/
theorem attempts_eq_none_iff {raises : α → Bool} {l : List α} :
    (attempts raises l).2 = none ↔ ∀ a ∈ l, raises a = false := by
  induction l with
  | nil => simp [attempts]
  | cons a l ih =>
      by_cases ha : raises a = true
      · simp [attempts, ha]
      · have ha' : raises a = false := by simpa using ha
        simp [attempts, ha', ih]

/-- A loop that runs to its end tried everything. -/
theorem attempts_fst {raises : α → Bool} {l : List α} (h : (attempts raises l).2 = none) :
    (attempts raises l).1 = l := by
  induction l with
  | nil => rfl
  | cons a l ih =>
      have ha : raises a = false := attempts_eq_none_iff.mp h a List.mem_cons_self
      simp only [attempts, ha, Bool.false_eq_true, if_false] at h ⊢
      rw [ih h]

/-- **No one is missed**: every good element of a list without repetitions comes before the first bad
one exactly when no good one stands behind a bad one. -/
theorem forall_mem_takeWhile_iff {p : α → Bool} {l : List α} (hnodup : l.Nodup) :
    (∀ a ∈ l, p a = true → a ∈ l.takeWhile p) ↔ l.Pairwise fun a b => p b = true → p a = true := by
  induction l with
  | nil => simp
  | cons a l ih =>
      obtain ⟨hnot, hnodup'⟩ := List.nodup_cons.mp hnodup
      rw [List.pairwise_cons, ← ih hnodup']
      by_cases ha : p a = true
      · rw [List.takeWhile_cons_of_pos ha]
        constructor
        · intro hall
          refine ⟨fun _ _ _ => ha, ?_⟩
          intro b hb hpb
          rcases List.mem_cons.mp (hall b (List.mem_cons_of_mem _ hb) hpb) with rfl | hmem
          · exact absurd hb hnot
          · exact hmem
        · rintro ⟨-, hall⟩ b hb hpb
          rcases List.mem_cons.mp hb with rfl | hb
          · exact List.mem_cons_self
          · exact List.mem_cons_of_mem _ (hall b hb hpb)
      · rw [List.takeWhile_cons_of_neg ha]
        constructor
        · intro hall
          have hbad : ∀ b ∈ l, ¬ p b = true := by
            intro b hb hpb
            exact absurd (hall b (List.mem_cons_of_mem _ hb) hpb) List.not_mem_nil
          exact ⟨fun b hb hpb => absurd hpb (hbad b hb), fun b hb hpb => absurd hpb (hbad b hb)⟩
        · rintro ⟨hbad, -⟩ b hb hpb
          rcases List.mem_cons.mp hb with rfl | hb
          · exact absurd hpb ha
          · exact absurd (hbad b hb hpb) ha

end SparqControl.Lib.Loop
