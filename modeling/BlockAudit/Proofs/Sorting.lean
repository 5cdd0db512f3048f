import BlockAudit.Sorting
import Mathlib.Order.Lattice
/-!
Sorted lists hold the same items as before, no item goes before one that precedes it, and items with the
same key stay in the order in which they were.
-/

namespace BlockAudit

variable {α : Type} {precedes : α → α → Bool}

def IsSorted (precedes : α → α → Bool) (xs : List α) : Prop :=
  xs.Pairwise fun x y => precedes y x = false

theorem insertSorted_perm (x : α) (xs : List α) :
    (insertSorted precedes x xs).Perm (x :: xs) := by
  induction xs with
  | nil => exact .refl _
  | cons y ys ih =>
    rw [insertSorted]
    split
    · exact .refl _
    · exact (ih.cons y).trans (.swap x y ys)

theorem isSorted_insertSorted (hasymm : ∀ x y, precedes x y = true → precedes y x = false)
    (htrans : ∀ x y z, precedes y x = false → precedes z y = false → precedes z x = false)
    (x : α) {xs : List α} (h : IsSorted precedes xs) :
    IsSorted precedes (insertSorted precedes x xs) := by
  induction xs with
  | nil => exact List.pairwise_singleton _ x
  | cons y ys ih =>
    have hy := List.pairwise_cons.mp h
    rw [insertSorted]
    split
    · next hxy =>
      refine List.pairwise_cons.mpr ⟨?_, h⟩
      intro z hz
      rcases List.mem_cons.mp hz with rfl | hz
      · exact hasymm _ _ hxy
      · exact htrans _ _ _ (hasymm _ _ hxy) (hy.1 z hz)
    · next hxy =>
      refine List.pairwise_cons.mpr ⟨?_, ih hy.2⟩
      intro z hz
      rcases List.mem_cons.mp ((insertSorted_perm x ys).mem_iff.mp hz) with rfl | hz
      · simpa using hxy
      · exact hy.1 z hz

theorem foldl_insertSorted_perm (xs ys : List α) :
    (xs.foldl (fun zs x => insertSorted precedes x zs) ys).Perm (xs ++ ys) := by
  induction xs generalizing ys with
  | nil => exact .refl _
  | cons x xs ih =>
    refine (ih (insertSorted precedes x ys)).trans ?_
    refine ((insertSorted_perm x ys).append_left xs).trans ?_
    exact List.perm_middle

theorem sorted_perm (xs : List α) : (sorted precedes xs).Perm xs := by
  have hfold : (sorted precedes xs).Perm (xs ++ []) := foldl_insertSorted_perm xs []
  rwa [List.append_nil] at hfold

theorem isSorted_sorted (hasymm : ∀ x y, precedes x y = true → precedes y x = false)
    (htrans : ∀ x y z, precedes y x = false → precedes z y = false → precedes z x = false)
    (xs : List α) : IsSorted precedes (sorted precedes xs) := by
  have hfold : ∀ ys : List α, IsSorted precedes ys →
      IsSorted precedes (xs.foldl (fun zs x => insertSorted precedes x zs) ys) := by
    induction xs with
    | nil => exact fun _ h => h
    | cons x xs ih => exact fun ys h => ih _ (isSorted_insertSorted hasymm htrans x h)
  exact hfold [] .nil

section Keys

variable {β : Type} [LinearOrder β] {key : α → β}

def OrdersBy (precedes : α → α → Bool) (key : α → β) : Prop :=
  ∀ x y, precedes x y = true ↔ key x < key y

theorem OrdersBy.eq_false_iff (h : OrdersBy precedes key) {x y : α} :
    precedes y x = false ↔ key x ≤ key y := by
  rw [← Bool.not_eq_true, h y x, not_lt]

theorem OrdersBy.asymm (h : OrdersBy precedes key) (x y : α) (hxy : precedes x y = true) :
    precedes y x = false := h.eq_false_iff.mpr ((h x y).mp hxy).le

theorem OrdersBy.trans (h : OrdersBy precedes key) (x y z : α) (hxy : precedes y x = false)
    (hyz : precedes z y = false) : precedes z x = false :=
  h.eq_false_iff.mpr ((h.eq_false_iff.mp hxy).trans (h.eq_false_iff.mp hyz))

theorem OrdersBy.pairwise_sorted (h : OrdersBy precedes key) (xs : List α) :
    (sorted precedes xs).Pairwise fun x y => key x ≤ key y := by
  have hsorted := isSorted_sorted h.asymm h.trans xs
  simpa only [IsSorted, h.eq_false_iff] using hsorted

theorem OrdersBy.filter_insertSorted (h : OrdersBy precedes key) (k : β) (x : α) {ys : List α}
    (hys : IsSorted precedes ys) : (insertSorted precedes x ys).filter (key · = k) =
      ys.filter (key · = k) ++ [x].filter (key · = k) := by
  induction ys with
  | nil => rfl
  | cons y ys ih =>
    obtain ⟨hfirst, hrest⟩ := List.pairwise_cons.mp hys
    rw [insertSorted]
    split
    · next hxy =>
      have hlater : ∀ z ∈ y :: ys, key x < key z := by
        intro z hz
        rcases List.mem_cons.mp hz with rfl | hz
        · exact (h x z).mp hxy
        · exact ((h x y).mp hxy).trans_le (h.eq_false_iff.mp (hfirst z hz))
      by_cases hx : key x = k
      · have hnone : (y :: ys).filter (key · = k) = [] := by
          rw [List.filter_eq_nil_iff]
          intro z hz
          simpa [← hx] using (hlater z hz).ne'
        rw [List.filter_cons_of_pos (by simpa using hx), hnone]
        simp [hx]
      · simp [hx]
    · by_cases hy : key y = k <;> simp only [List.filter_cons, hy, ih hrest] <;> rfl

theorem OrdersBy.filter_sorted (h : OrdersBy precedes key) (k : β) (xs : List α) :
    (sorted precedes xs).filter (key · = k) = xs.filter (key · = k) := by
  have hfold : ∀ ys, IsSorted precedes ys →
      (xs.foldl (fun zs x => insertSorted precedes x zs) ys).filter (key · = k) =
        ys.filter (key · = k) ++ xs.filter (key · = k) := by
    induction xs with
    | nil => exact fun ys _ => (List.append_nil _).symm
    | cons x xs ih =>
      intro ys hys
      rw [List.foldl_cons, ih _ (isSorted_insertSorted h.asymm h.trans x hys),
        h.filter_insertSorted k x hys, List.append_assoc, ← List.filter_append,
        List.singleton_append]
  exact hfold [] .nil

end Keys

end BlockAudit
