import Mathlib.Data.List.Basic

/-! Logs whose entries stand in a relation to the entries before them. -/

namespace IbkrPlatform.Library.Chronicle

variable {α : Type} {P : List α → α → Prop} {l : List α} {a : α}

def Preceded (P : List α → α → Prop) (l : List α) : Prop := ∀ before a after, l = before ++ a :: after → P before a

lemma preceded_nil : Preceded P [] := by
  intro before a after h
  simp at h

lemma Preceded.snoc (h : Preceded P l) (ha : P l a) : Preceded P (l ++ [a]) := by
  intro before b after he
  rcases List.eq_nil_or_concat' after with rfl | ⟨after', c, rfl⟩
  · obtain ⟨rfl, hb⟩ := List.append_inj' he rfl
    obtain rfl := List.singleton_inj.mp hb
    exact ha
  · rw [← List.cons_append, ← List.append_assoc] at he
    exact h before b after' (List.append_inj' he rfl).1

lemma Preceded.left {m : List α} (h : Preceded P (l ++ m)) : Preceded P l := by
  intro before a after he
  exact h before a (after ++ m) (by rw [he, List.append_assoc, List.cons_append])

lemma Preceded.mem (h : Preceded P l) (ha : a ∈ l) : ∃ before after, l = before ++ a :: after ∧ P before a := by
  obtain ⟨before, after, rfl⟩ := List.append_of_mem ha
  exact ⟨before, after, rfl, h before a after rfl⟩

end IbkrPlatform.Library.Chronicle
