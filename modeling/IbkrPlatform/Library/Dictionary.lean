import Mathlib.Data.List.Basic

/-! Dictionaries kept as a list of entries in the order in which their keys were first assigned. -/

namespace IbkrPlatform.Library.Dictionary

variable {K V W : Type} [DecidableEq K]

/-- The assignment of a key: one that is there keeps its place. -/
def put (k : K) (v : V) : List (K × V) → List (K × V)
  | [] => [(k, v)]
  | e :: d => if e.1 = k then (k, v) :: d else e :: put k v d

variable {k j : K} {v : V} {d : List (K × V)}

lemma lookup_cons (e : K × V) : List.lookup j (e :: d) = if j = e.1 then some e.2 else d.lookup j := by
  obtain ⟨i, w⟩ := e
  by_cases h : j = i
  · simp [h]
  · simp [List.lookup_cons, beq_false_of_ne h, h]

lemma lookup_put : (put k v d).lookup j = if j = k then some v else d.lookup j := by
  induction d with
  | nil => simp [put, lookup_cons]
  | cons e d ih =>
    unfold put
    by_cases he : e.1 = k
    · by_cases h : j = k
      · simp [he, h, lookup_cons]
      · simp [he, h, lookup_cons]
    · by_cases hj : j = e.1
      · simp [he, hj, lookup_cons]
      · simp [he, hj, lookup_cons, ih]

@[simp] lemma lookup_put_self : (put k v d).lookup k = some v := by simp [lookup_put]

lemma lookup_put_ne (h : j ≠ k) : (put k v d).lookup j = d.lookup j := by simp [lookup_put, h]

lemma mem_put {e : K × V} (h : e ∈ put k v d) : e = (k, v) ∨ e ∈ d := by
  induction d with
  | nil => exact .inl (List.mem_singleton.mp h)
  | cons e' d ih =>
    unfold put at h
    by_cases he : e'.1 = k
    · rw [if_pos he] at h
      rcases List.mem_cons.mp h with h | h
      · exact .inl h
      · exact .inr (List.mem_cons_of_mem _ h)
    · rw [if_neg he] at h
      rcases List.mem_cons.mp h with h | h
      · exact .inr (h ▸ List.mem_cons_self)
      · exact (ih h).imp_right (List.mem_cons_of_mem _)

lemma mem_keys_put : j ∈ (put k v d).map Prod.fst ↔ j = k ∨ j ∈ d.map Prod.fst := by
  induction d with
  | nil => simp [put]
  | cons e d ih =>
    unfold put
    by_cases he : e.1 = k
    · simp [he]
    · rw [if_neg he, List.map_cons, List.map_cons, List.mem_cons, List.mem_cons, ih]
      tauto

lemma put_of_lookup (h : d.lookup k = some v) : put k v d = d := by
  induction d with
  | nil => cases h
  | cons e d ih =>
    unfold put
    by_cases he : e.1 = k
    · rw [lookup_cons, if_pos he.symm] at h
      rw [if_pos he, ← he, ← Option.some.inj h]
    · rw [lookup_cons, if_neg (Ne.symm he)] at h
      rw [if_neg he, ih h]

lemma put_append (h : d.lookup k = none) (e : List (K × V)) : put k v (d ++ e) = d ++ put k v e := by
  induction d with
  | nil => rfl
  | cons x d ih =>
    rw [lookup_cons] at h
    by_cases hx : k = x.1
    · rw [if_pos hx] at h
      cases h
    · rw [if_neg hx] at h
      rw [List.cons_append, put, if_neg (Ne.symm hx), ih h, List.cons_append]

lemma mem_of_lookup (h : d.lookup k = some v) : (k, v) ∈ d := by
  obtain ⟨before, after, rfl, _⟩ := List.lookup_eq_some_iff.mp h
  simp

lemma lookup_map (f : V → W) : (d.map fun e => (e.1, f e.2)).lookup k = (d.lookup k).map f := by
  induction d with
  | nil => rfl
  | cons e d ih =>
    by_cases he : k = e.1
    · simp [he, lookup_cons]
    · simp [he, lookup_cons, ih]

lemma lookup_foldl_put (f : K → V) (ks : List K) :
    (ks.foldl (fun d k => put k (f k) d) d).lookup j = if j ∈ ks then some (f j) else d.lookup j := by
  induction ks generalizing d with
  | nil => rfl
  | cons k ks ih =>
    rw [List.foldl_cons, ih, lookup_put]
    by_cases hj : j ∈ ks
    · rw [if_pos hj, if_pos (List.mem_cons_of_mem _ hj)]
    · rw [if_neg hj]
      by_cases hk : j = k
      · rw [if_pos hk, hk, if_pos List.mem_cons_self]
      · rw [if_neg hk, if_neg fun hmem => (List.mem_cons.mp hmem).elim hk hj]

end IbkrPlatform.Library.Dictionary
