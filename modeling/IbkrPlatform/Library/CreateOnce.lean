import Mathlib.Data.List.Pairwise
import IbkrPlatform.Library.Transition

/-! Names that are created at most once, and the one that creates each of them. -/

namespace IbkrPlatform.Library.CreateOnce

variable {Label Key : Type}

/-- A namespace with exclusive creation; `creates` tells which name a label tries to create, and whether it did. -/
def system (creates : Label → Option (Key × Bool)) : System (Key → Prop) Label where
  init _ := True
  next s l t := match creates l with
    | none => t = s
    | some (k, true) => ¬ s k ∧ t = fun j => j = k ∨ s j
    | some (k, false) => s k ∧ t = s

variable {creates : Label → Option (Key × Bool)} {s t : Key → Prop} {ls : List Label}

lemma creator_of_refused (h : (system creates).Run s ls t) {l : Label} {k : Key} (hfree : ¬ s k) (hl : l ∈ ls)
    (hk : creates l = some (k, false)) : ∃ l' ∈ ls, creates l' = some (k, true) := by
  have hhistory := h.history
    (I := fun ls t => (t k → ∃ l' ∈ ls, creates l' = some (k, true)) ∧
      ∀ l ∈ ls, creates l = some (k, false) → ∃ l' ∈ ls, creates l' = some (k, true))
    (fun ls s l t hi hn => ?_) ⟨fun ht => absurd ht hfree, fun _ h => absurd h List.not_mem_nil⟩
  · exact hhistory.2 l hl hk
  · obtain ⟨htaken, hrefused⟩ := hi
    have hkeep : (∃ l' ∈ ls, creates l' = some (k, true)) → ∃ l' ∈ ls ++ [l], creates l' = some (k, true) :=
      fun ⟨l', hmem, hc⟩ => ⟨l', List.mem_append_left _ hmem, hc⟩
    simp only [system] at hn
    constructor
    · intro ht
      split at hn
      · exact hkeep (htaken (hn ▸ ht))
      · next j hj =>
        rw [hn.2] at ht
        rcases ht with rfl | ht
        · exact ⟨l, List.mem_append_right _ List.mem_cons_self, hj⟩
        · exact hkeep (htaken ht)
      · exact hkeep (htaken (hn.2 ▸ ht))
    · intro m hm hmk
      rcases List.mem_append.mp hm with hm | hm
      · exact hkeep (hrefused m hm hmk)
      · obtain rfl := List.mem_singleton.mp hm
        simp only [hmk] at hn
        exact hkeep (htaken hn.1)

end IbkrPlatform.Library.CreateOnce
