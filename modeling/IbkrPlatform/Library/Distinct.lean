import Mathlib.Data.List.Nodup
import Mathlib.Data.List.Forall2

/-! Lists whose items are read one by one and carry distinct keys. -/

namespace IbkrPlatform.Library.Distinct

variable {A B K : Type} [DecidableEq K] (read : A → Option B) (key : B → K)

def add (kept : List B) (a : A) : Option (List B) :=
  (read a).bind fun b => if key b ∈ kept.map key then none else some (kept ++ [b])

def gather (xs : List A) : Option (List B) := xs.foldlM (add read key) []

variable {read key} {kept ys : List B} {xs : List A} {a : A}

lemma add_eq_some : add read key kept a = some ys ↔ ∃ b, read a = some b ∧ key b ∉ kept.map key ∧ ys = kept ++ [b] := by
  unfold add
  constructor
  · intro h
    obtain ⟨b, hb, h⟩ := Option.bind_eq_some_iff.mp h
    split_ifs at h with hmem
    exact ⟨b, hb, hmem, (Option.some.inj h).symm⟩
  · rintro ⟨b, hb, hmem, rfl⟩
    rw [hb, Option.bind_some, if_neg hmem]

lemma foldlM_add (hk : (kept.map key).Nodup) : xs.foldlM (add read key) kept = some ys ↔
    ∃ more, ys = kept ++ more ∧ List.Forall₂ (fun a b => read a = some b) xs more ∧ (ys.map key).Nodup := by
  induction xs generalizing kept with
  | nil =>
    constructor
    · intro h
      obtain rfl := Option.some.inj h
      exact ⟨[], (List.append_nil _).symm, .nil, hk⟩
    · rintro ⟨more, rfl, hmore, -⟩
      cases hmore
      rw [List.append_nil]
      rfl
  | cons a xs ih =>
    rw [List.foldlM_cons]
    constructor
    · intro h
      obtain ⟨next, hnext, h⟩ := Option.bind_eq_some_iff.mp h
      obtain ⟨b, hb, hmem, rfl⟩ := add_eq_some.mp hnext
      have hnodup : ((kept ++ [b]).map key).Nodup := by
        rw [List.map_append]
        exact hk.append (List.nodup_singleton _) (by simpa [List.disjoint_singleton] using hmem)
      obtain ⟨more, rfl, hmore, hys⟩ := (ih hnodup).mp h
      exact ⟨b :: more, List.append_assoc _ _ _, .cons hb hmore, hys⟩
    · rintro ⟨more, rfl, hmore, hys⟩
      cases hmore with
      | @cons _ b _ more hb hmore =>
        have happ : kept ++ b :: more = kept ++ [b] ++ more := by rw [List.append_assoc, List.singleton_append]
        rw [happ] at hys
        have hnodup : ((kept ++ [b]).map key).Nodup := by
          rw [List.map_append] at hys
          exact hys.of_append_left
        have hmem : key b ∉ kept.map key := by
          rw [List.map_append, List.map_singleton] at hnodup
          exact fun hin => List.disjoint_of_nodup_append hnodup hin (List.mem_singleton_self _)
        refine Option.bind_eq_some_iff.mpr ⟨kept ++ [b], add_eq_some.mpr ⟨b, hb, hmem, rfl⟩, (ih hnodup).mpr ?_⟩
        exact ⟨more, happ, hmore, by rwa [happ]⟩

lemma gather_eq_some : gather read key xs = some ys ↔
    List.Forall₂ (fun a b => read a = some b) xs ys ∧ (ys.map key).Nodup := by
  have hnil : (([] : List B).map key).Nodup := List.nodup_nil
  rw [gather, foldlM_add hnil]
  constructor
  · rintro ⟨more, rfl, hmore, hys⟩
    exact ⟨hmore, hys⟩
  · rintro ⟨hmore, hys⟩
    exact ⟨ys, rfl, hmore, hys⟩

end IbkrPlatform.Library.Distinct
