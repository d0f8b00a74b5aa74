/-
# SparqControl.Lib.Window — a bounded queue whose front expires.

Items are appended at the back, a full queue drops its oldest item, and expired items are taken off
the front only when somebody looks. What such a queue answers does not depend on when it was looked
at: it shows the unexpired ones among the last `cap` items ever appended (`prune_eq_filter`).

`Holds` is the invariant that carries this: the queue is the window of the last `cap` items less an
expired front. `rtake_answers_iff` says when the bound costs an answer. A queue without a bound is
`LiveUpTo` a limit, and `LiveUpTo.cut` is its account. `newest` is what is shown of items that carry
their stamps but are in no order.
-/
import Mathlib.Data.List.DropRight
import Mathlib.Order.Lattice

namespace SparqControl.Lib.Window

variable {α : Type*} {cap : ℕ} {expired later : α → Bool} {items queue : List α}

/-- Append to a queue of capacity `cap`. -/
def push (cap : ℕ) (queue : List α) (x : α) : List α := (queue ++ [x]).rtake cap

/-- The queue is the window of the last `cap` items less a front of expired ones. -/
def Holds (cap : ℕ) (expired : α → Bool) (items queue : List α) : Prop :=
  ∃ late, items.rtake cap = late ++ queue ∧ ∀ x ∈ late, expired x = true

theorem holds_nil : Holds cap expired [] [] :=
  ⟨[], by simp [List.rtake], fun _ hx => (List.not_mem_nil hx).elim⟩

/-- Cutting a list to its last `n` items and then to its last `n` once more is cutting it once. -/
theorem rtake_append_concat (l : List α) (x : α) :
    (l ++ [x]).rtake cap = (l.rtake cap ++ [x]).rtake cap := by
  have hshort : ∀ k, k ≤ l.length → l.drop k ++ [x] = (l ++ [x]).drop k :=
    fun k hk => (List.drop_append_of_le_length hk).symm
  simp only [List.rtake]
  rw [hshort _ (Nat.sub_le _ _), List.drop_drop, List.length_drop]
  congr 1
  simp only [List.length_append, List.length_singleton]
  omega

/-- Cutting an append to its last items cuts the front before the back. -/
theorem rtake_append (l r : List α) :
    ∃ k, (l ++ r).rtake cap = l.drop k ++ r.rtake cap := by
  refine ⟨(l ++ r).length - cap, ?_⟩
  simp only [List.rtake, List.drop_append, List.length_append]
  congr 2
  omega

/-- Appending an item on both sides keeps the queue in step with the window. -/
theorem Holds.push (h : Holds cap expired items queue) (x : α) :
    Holds cap expired (items ++ [x]) (push cap queue x) := by
  obtain ⟨late, hitems, hlate⟩ := h
  obtain ⟨k, hk⟩ := @rtake_append α cap late (queue ++ [x])
  refine ⟨late.drop k, ?_, fun y hy => hlate y (List.mem_of_mem_drop hy)⟩
  rw [rtake_append_concat, hitems, List.append_assoc, hk]
  rfl

/-- What has expired stays expired, so the invariant survives the passing of time. -/
theorem Holds.mono (h : Holds cap expired items queue)
    (hmono : ∀ x, expired x = true → later x = true) : Holds cap later items queue := by
  obtain ⟨late, hitems, hlate⟩ := h
  exact ⟨late, hitems, fun x hx => hmono x (hlate x hx)⟩

/-- Taking the expired front off keeps the queue in step with the window. -/
theorem Holds.prune (h : Holds cap expired items queue) :
    Holds cap expired items (queue.dropWhile expired) := by
  obtain ⟨late, hitems, hlate⟩ := h
  refine ⟨late ++ queue.takeWhile expired, ?_, fun x hx => ?_⟩
  · rw [List.append_assoc, List.takeWhile_append_dropWhile, hitems]
  · rcases List.mem_append.mp hx with hx | hx
    · exact hlate x hx
    · exact List.mem_takeWhile_imp hx

/-- Where items expire in the order of the list, the expired front is all that has expired. -/
theorem dropWhile_eq_filter_not {l : List α}
    (hl : l.Pairwise fun x y => expired y = true → expired x = true) :
    l.dropWhile expired = l.filter fun x => !expired x := by
  induction l with
  | nil => rfl
  | cons a l ih =>
      obtain ⟨hhead, htail⟩ := List.pairwise_cons.mp hl
      cases ha : expired a with
      | true => rw [List.dropWhile_cons_of_pos ha, ih htail, List.filter_cons_of_neg (by simp [ha])]
      | false =>
          -- the first item is live, so none behind it has expired
          have hlive : ∀ y ∈ l, (!expired y) = true := by
            intro y hy
            cases hy' : expired y with
            | true => exact absurd (hhead y hy hy') (by simp [ha])
            | false => rfl
          rw [List.dropWhile_cons_of_neg (by simp [ha]), List.filter_cons_of_pos (by simp [ha]),
            List.filter_eq_self.mpr hlive]

/-- **What the queue answers.** After its expired front is gone, the queue is exactly the unexpired
part of the window. -/
theorem Holds.prune_eq_filter (h : Holds cap expired items queue)
    (hitems : items.Pairwise fun x y => expired y = true → expired x = true) :
    queue.dropWhile expired = (items.rtake cap).filter fun x => !expired x := by
  obtain ⟨late, hwindow, hlate⟩ := h
  have hqueue : queue.Sublist items := by
    have hsub : (items.rtake cap).Sublist items := List.drop_sublist _ _
    rw [hwindow] at hsub
    exact (List.sublist_append_right late queue).trans hsub
  have hgone : late.filter (fun x => !expired x) = [] :=
    List.filter_eq_nil_iff.mpr fun x hx => by simp [hlate x hx]
  rw [dropWhile_eq_filter_not (hitems.sublist hqueue), hwindow, List.filter_append, hgone,
    List.nil_append]

/-! ## What the window has lost -/

variable {p : α → Prop}

/-- A list that has an item of a kind has a last one. -/
theorem exists_last {l : List α} (h : ∃ x ∈ l, p x) :
    ∃ pre x post, l = pre ++ x :: post ∧ p x ∧ ∀ y ∈ post, ¬ p y := by
  induction l with
  | nil =>
      obtain ⟨x, hx, -⟩ := h
      cases hx
  | cons a l ih =>
      by_cases hl : ∃ x ∈ l, p x
      · obtain ⟨pre, x, post, rfl, hx, hpost⟩ := ih hl
        exact ⟨a :: pre, x, post, rfl, hx, hpost⟩
      · obtain ⟨x, hx, hpx⟩ := h
        rcases List.mem_cons.mp hx with rfl | hx
        · exact ⟨[], x, l, rfl, hpx, fun y hy hpy => hl ⟨y, hy, hpy⟩⟩
        · exact absurd ⟨x, hx, hpx⟩ hl

/-- An item is in the window when fewer than `cap` came after it. -/
theorem mem_rtake_of_lt {pre post : List α} {x : α} (h : post.length < cap) :
    x ∈ (pre ++ x :: post).rtake cap := by
  have hdrop : (pre ++ x :: post).length - cap ≤ pre.length := by
    rw [List.length_append, List.length_cons]
    omega
  rw [List.rtake, List.drop_append_of_le_length hdrop]
  exact List.mem_append_right _ List.mem_cons_self

/-- Once `cap` items came after it, the window shows only those. -/
theorem mem_of_mem_rtake {pre post : List α} {x y : α} (h : cap ≤ post.length)
    (hy : y ∈ (pre ++ x :: post).rtake cap) : y ∈ post := by
  have hassoc : pre ++ x :: post = (pre ++ [x]) ++ post := by simp
  have hdrop : (pre ++ [x]).length ≤ ((pre ++ [x]) ++ post).length - cap := by
    rw [@List.length_append _ (pre ++ [x]) post]
    omega
  rw [hassoc, List.rtake, List.drop_append, List.drop_eq_nil_of_le hdrop, List.nil_append] at hy
  exact List.mem_of_mem_drop hy

/-- **What a full queue forgets.** The window still answers for a kind of item exactly when fewer than
`cap` items came after the last of the kind. -/
theorem rtake_answers_iff {items : List α} :
    ((∃ x ∈ items.rtake cap, p x) ↔ ∃ x ∈ items, p x) ↔
      ∀ pre x post, items = pre ++ x :: post → p x → (∀ y ∈ post, ¬ p y) → post.length < cap := by
  constructor
  · rintro h pre x post rfl hx hpost
    by_contra hcap
    obtain ⟨y, hy, hpy⟩ := h.mpr ⟨x, List.mem_append_right _ List.mem_cons_self, hx⟩
    exact hpost y (mem_of_mem_rtake (not_lt.mp hcap) hy) hpy
  · intro h
    constructor
    · rintro ⟨x, hx, hpx⟩
      exact ⟨x, List.mem_of_mem_drop hx, hpx⟩
    · intro hitems
      obtain ⟨pre, x, post, rfl, hx, hpost⟩ := exists_last hitems
      exact ⟨x, mem_rtake_of_lt (h pre x post rfl hx hpost), hx⟩

/-! ## A queue without a bound -/

section Unbounded

variable {τ : Type*} [LinearOrder τ] {stamp : α → τ} {limit limit' : τ} {new : List α}

/-- The queue holds the items whose stamp is not before some bound, and the bound is not past `limit`. -/
def LiveUpTo (stamp : α → τ) (limit : τ) (items queue : List α) : Prop :=
  ∃ since ≤ limit, queue = items.filter fun x => !decide (stamp x < since)

theorem liveUpTo_nil : LiveUpTo stamp limit ([] : List α) [] := ⟨limit, le_rfl, rfl⟩

/-- The limit may move on while the queue is left alone. -/
theorem LiveUpTo.mono (h : LiveUpTo stamp limit items queue) (hlimit : limit ≤ limit') :
    LiveUpTo stamp limit' items queue := by
  obtain ⟨since, hsince, hqueue⟩ := h
  exact ⟨since, hsince.trans hlimit, hqueue⟩

/-- **Cutting.** With stamps that never fall, the front that is cut off is all that has expired. -/
theorem LiveUpTo.cut (h : LiveUpTo stamp limit items queue)
    (hsorted : (items ++ new).Pairwise fun x y => stamp x ≤ stamp y) :
    ((queue ++ new).dropWhile fun x => decide (stamp x < limit)) =
      (items ++ new).filter fun x => !decide (stamp x < limit) := by
  obtain ⟨since, hsince, rfl⟩ := h
  have hsub : (items.filter (fun x => !decide (stamp x < since)) ++ new).Sublist (items ++ new) :=
    List.Sublist.append List.filter_sublist (List.Sublist.refl new)
  have horder : (items ++ new).Pairwise fun x y =>
      decide (stamp y < limit) = true → decide (stamp x < limit) = true := by
    refine hsorted.imp fun {x y} hxy hy => ?_
    exact decide_eq_true (hxy.trans_lt (of_decide_eq_true hy))
  rw [dropWhile_eq_filter_not (horder.sublist hsub), List.filter_append, List.filter_append,
    List.filter_filter]
  congr 1
  apply List.filter_congr
  intro x _
  by_cases hx : stamp x < since
  · simp [hx, hx.trans_le hsince]
  · simp [hx]

/-- Appending items and cutting keeps the queue live. -/
theorem LiveUpTo.push (h : LiveUpTo stamp limit items queue)
    (hsorted : (items ++ new).Pairwise fun x y => stamp x ≤ stamp y) :
    LiveUpTo stamp limit (items ++ new) ((queue ++ new).dropWhile fun x => decide (stamp x < limit)) :=
  ⟨limit, le_rfl, h.cut hsorted⟩

/-- What a cut queue shows. -/
theorem LiveUpTo.prune (h : LiveUpTo stamp limit items queue)
    (hsorted : items.Pairwise fun x y => stamp x ≤ stamp y) :
    (queue.dropWhile fun x => decide (stamp x < limit)) =
      items.filter fun x => !decide (stamp x < limit) := by
  have hcut := @LiveUpTo.cut α items queue τ _ stamp limit [] h
  rw [List.append_nil, List.append_nil] at hcut
  exact hcut hsorted

end Unbounded

/-! ## The newest items -/

section Newest

variable {τ : Type*} [LinearOrder τ]

/-- The `n` items with the latest stamps, the latest first. -/
def newest (stamp : α → τ) (n : ℕ) (items : List α) : List α :=
  (items.mergeSort fun x y => stamp y ≤ stamp x).take n

variable {stamp : α → τ} {n : ℕ}

theorem length_newest_le : (newest stamp n items).length ≤ n := by
  rw [newest, List.length_take]
  exact Nat.min_le_left _ _

theorem mem_of_mem_newest {x : α} (hx : x ∈ newest stamp n items) : x ∈ items :=
  List.mem_mergeSort.mp (List.mem_of_mem_take hx)

theorem nodup_map_newest {β : Type*} {f : α → β} (h : (items.map f).Nodup) :
    ((newest stamp n items).map f).Nodup := by
  have hperm := (List.mergeSort_perm items fun x y => decide (stamp y ≤ stamp x)).map f
  exact (hperm.nodup_iff.mpr h).sublist ((List.take_sublist n _).map f)

theorem pairwise_mergeSort_stamp :
    (items.mergeSort fun x y => stamp y ≤ stamp x).Pairwise fun x y => stamp y ≤ stamp x := by
  have htrans : ∀ x y z : α, decide (stamp y ≤ stamp x) = true → decide (stamp z ≤ stamp y) = true →
      decide (stamp z ≤ stamp x) = true :=
    fun x y z hxy hyz => decide_eq_true ((of_decide_eq_true hyz).trans (of_decide_eq_true hxy))
  have htotal : ∀ x y : α, (decide (stamp y ≤ stamp x) || decide (stamp x ≤ stamp y)) = true := by
    intro x y
    simpa using le_total (stamp y) (stamp x)
  exact (List.pairwise_mergeSort htrans htotal items).imp of_decide_eq_true

/-- An item is left out only behind `n` items that are no older. -/
theorem mem_newest_or (stamp : α → τ) (n : ℕ) {x : α} (hx : x ∈ items) :
    x ∈ newest stamp n items ∨
      (newest stamp n items).length = n ∧ ∀ y ∈ newest stamp n items, stamp x ≤ stamp y := by
  have hordered := @pairwise_mergeSort_stamp α items τ _ stamp
  have hsorted : x ∈ items.mergeSort fun x y => decide (stamp y ≤ stamp x) := List.mem_mergeSort.mpr hx
  unfold newest
  generalize (items.mergeSort fun x y => decide (stamp y ≤ stamp x)) = sorted at hordered hsorted
  rw [← List.take_append_drop n sorted] at hordered hsorted
  rcases List.mem_append.mp hsorted with hin | hout
  · exact .inl hin
  · right
    refine ⟨?_, fun y hy => (List.pairwise_append.mp hordered).2.2 y hy x hout⟩
    have hpos := List.length_pos_of_mem hout
    rw [List.length_drop] at hpos
    rw [List.length_take]
    omega

end Newest

end SparqControl.Lib.Window
