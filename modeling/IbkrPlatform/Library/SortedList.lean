import Mathlib.Data.List.Sort

/-! Sorted lists: with or without repetitions, their members determine them. -/

namespace IbkrPlatform.Library.SortedList

variable {α : Type}

lemma nodup_eraseDups [DecidableEq α] (l : List α) : l.eraseDups.Nodup := by
  induction h : l.length using Nat.strong_induction_on generalizing l with
  | _ n ih =>
    cases l with
    | nil => exact List.nodup_nil
    | cons a l =>
      rw [List.eraseDups_cons, List.nodup_cons, List.mem_eraseDups]
      have hlength : (l.filter fun b => !b == a).length < n := by
        have hle := List.length_filter_le (fun b => !b == a) l
        rw [← h, List.length_cons]
        omega
      exact ⟨by simp, ih _ hlength _ rfl⟩

lemma eraseDups_of_nodup [DecidableEq α] {l : List α} (h : l.Nodup) : l.eraseDups = l := by
  induction l with
  | nil => rfl
  | cons a l ih =>
    obtain ⟨ha, hl⟩ := List.nodup_cons.mp h
    have hfilter : (l.filter fun b => !b == a) = l := by
      refine List.filter_eq_self.mpr fun b hb => ?_
      have hne : b ≠ a := fun h => ha (h ▸ hb)
      simp [hne]
    rw [List.eraseDups_cons, hfilter, ih hl]

variable [LinearOrder α] {xs ys : List α}

lemma insertionSort_congr (h : xs.Perm ys) : xs.insertionSort (· ≤ ·) = ys.insertionSort (· ≤ ·) :=
  List.Perm.eq_of_sortedLE List.sortedLE_insertionSort List.sortedLE_insertionSort
    ((List.perm_insertionSort _ _).trans (h.trans (List.perm_insertionSort _ _).symm))

lemma eraseDups_insertionSort_congr (h : ∀ x, x ∈ xs ↔ x ∈ ys) :
    xs.eraseDups.insertionSort (· ≤ ·) = ys.eraseDups.insertionSort (· ≤ ·) := by
  refine insertionSort_congr ((List.perm_ext_iff_of_nodup (nodup_eraseDups xs) (nodup_eraseDups ys)).mpr fun x => ?_)
  rw [List.mem_eraseDups, List.mem_eraseDups]
  exact h x

end IbkrPlatform.Library.SortedList
