import Mathlib.Algebra.BigOperators.Group.List.Basic
import Mathlib.Data.List.Induction
import Mathlib.Data.List.Perm.Basic
import IbkrPlatform.Library.Gather

/-! Rows collected under their keys, each key in the place of its first row. -/

namespace IbkrPlatform.Library.Buckets

open Dictionary Gather

variable {R K V C : Type} [DecidableEq K] {key : R → K} {start : V} {add : V → R → V} {rows : List R} {d : List (K × V)}

def bucket (key : R → K) (start : V) (add : V → R → V) (d : List (K × V)) (r : R) : List (K × V) :=
  put (key r) (add ((d.lookup (key r)).getD start) r) d

def buckets (key : R → K) (start : V) (add : V → R → V) (rows : List R) : List (K × V) := rows.foldl (bucket key start add) []

def content (key : R → K) (start : V) (add : V → R → V) (rows : List R) (k : K) : V :=
  (rows.filter fun r => key r = k).foldl add start

lemma keyed_put {k : K} {v : V} (h : Keyed d) : Keyed (put k v d) := by
  induction d with
  | nil => exact List.nodup_singleton k
  | cons e d ih =>
    obtain ⟨he, hd⟩ := List.nodup_cons.mp h
    unfold put
    split_ifs with hk
    · rw [hk] at he
      exact List.nodup_cons.mpr ⟨he, hd⟩
    · refine List.nodup_cons.mpr ⟨fun hmem => ?_, ih hd⟩
      rcases mem_keys_put.mp hmem with hmem | hmem
      · exact hk hmem
      · exact he hmem

lemma buckets_snoc (r : R) : buckets key start add (rows ++ [r]) = bucket key start add (buckets key start add rows) r := by
  rw [buckets, List.foldl_append]
  rfl

lemma content_snoc (r : R) (k : K) : content key start add (rows ++ [r]) k =
    if key r = k then add (content key start add rows k) r else content key start add rows k := by
  unfold content
  rw [List.filter_append, List.foldl_append, List.filter_singleton]
  split_ifs with hk
  · simp [hk]
  · simp [hk]

lemma keyed_buckets (rows : List R) : Keyed (buckets key start add rows) := by
  induction rows using List.reverseRecOn with
  | nil => exact keyed_nil
  | append_singleton rows r ih =>
    rw [buckets_snoc]
    exact keyed_put ih

lemma lookup_buckets (rows : List R) (k : K) : (buckets key start add rows).lookup k =
    if k ∈ rows.map key then some (content key start add rows k) else none := by
  induction rows using List.reverseRecOn with
  | nil => rfl
  | append_singleton rows r ih =>
    have hmap : k ∈ (rows ++ [r]).map key ↔ k ∈ rows.map key ∨ k = key r := by
      rw [List.map_append, List.mem_append, List.map_singleton, List.mem_singleton]
    rw [buckets_snoc, bucket, lookup_put, content_snoc]
    simp only [hmap]
    by_cases hk : k = key r
    · rw [if_pos hk, if_pos (.inr hk), if_pos hk.symm, ← hk, ih]
      split_ifs with hmem
      · rfl
      · have hnone : rows.filter (fun r' => key r' = k) = [] := by
          refine List.filter_eq_nil_iff.mpr fun r' hr' => ?_
          rw [decide_eq_true_eq]
          exact fun h => hmem (List.mem_map.mpr ⟨r', hr', h⟩)
        rw [content, hnone]
        rfl
    · rw [if_neg hk, if_neg (Ne.symm hk), ih]
      split_ifs with hmem hmem' hmem'
      · rfl
      · exact absurd (.inl hmem) hmem'
      · exact absurd (hmem'.resolve_right hk) hmem
      · rfl

lemma mem_buckets {e : K × V} : e ∈ buckets key start add rows ↔ e.1 ∈ rows.map key ∧ content key start add rows e.1 = e.2 := by
  have hlookup : e ∈ buckets key start add rows ↔ (buckets key start add rows).lookup e.1 = some e.2 :=
    ⟨(keyed_buckets rows).lookup, mem_of_lookup⟩
  rw [hlookup, lookup_buckets]
  split_ifs with hmem
  · rw [Option.some.injEq]
    exact ⟨fun h => ⟨hmem, h⟩, And.right⟩
  · exact ⟨fun h => (nomatch h), fun h => absurd h.1 hmem⟩

lemma content_filter {keep : R → Bool} (hskip : ∀ v r, keep r = false → add v r = v) (rows : List R) (k : K) :
    content key start add (rows.filter keep) k = content key start add rows k := by
  induction rows using List.reverseRecOn with
  | nil => rfl
  | append_singleton rows r ih =>
    rw [List.filter_append, content_snoc, List.filter_singleton]
    cases hr : keep r with
    | false =>
      rw [cond_false, List.append_nil, ih, hskip _ _ hr, ite_self]
    | true =>
      rw [cond_true, content_snoc, ih]

lemma filterMap_buckets_perm {keep : R → Bool} {f : K × V → Option C} (hskip : ∀ v r, keep r = false → add v r = v)
    (hstart : ∀ k, f (k, start) = none) (rows : List R) :
    ((buckets key start add (rows.filter keep)).filterMap f).Perm ((buckets key start add rows).filterMap f) := by
  have hread (es : List (K × V)) : es.filterMap f = (es.filter fun e => (f e).isSome).filterMap f := by
    rw [List.filterMap_filter]
    refine List.filterMap_congr fun e _ => ?_
    cases f e <;> rfl
  rw [hread, hread (buckets key start add rows)]
  refine List.Perm.filterMap f ?_
  refine (List.perm_ext_iff_of_nodup ((List.Nodup.of_map _ (keyed_buckets _)).filter _)
    ((List.Nodup.of_map _ (keyed_buckets _)).filter _)).mpr fun e => ?_
  rw [List.mem_filter, List.mem_filter, mem_buckets, mem_buckets, content_filter hskip]
  constructor
  · rintro ⟨⟨hmem, hcontent⟩, hsome⟩
    refine ⟨⟨?_, hcontent⟩, hsome⟩
    obtain ⟨r, hr, hkey⟩ := List.mem_map.mp hmem
    exact List.mem_map.mpr ⟨r, (List.mem_filter.mp hr).1, hkey⟩
  · rintro ⟨⟨-, hcontent⟩, hsome⟩
    refine ⟨⟨?_, hcontent⟩, hsome⟩
    by_contra hmem
    have hnone : (rows.filter keep).filter (fun r => key r = e.1) = [] := by
      refine List.filter_eq_nil_iff.mpr fun r hr => ?_
      rw [decide_eq_true_eq]
      exact fun h => hmem (List.mem_map.mpr ⟨r, hr, h⟩)
    rw [← content_filter hskip, content, hnone] at hcontent
    obtain ⟨k, v⟩ := e
    obtain rfl : start = v := hcontent
    rw [hstart] at hsome
    cases hsome

section Sums

variable {M : Type} [AddCommMonoid M] {f : V → M} {g : R → M}

lemma sum_bucket (hstart : f start = 0) (hadd : ∀ v r, f (add v r) = f v + g r) (d : List (K × V)) (r : R) :
    ((bucket key start add d r).map fun e => f e.2).sum = (d.map fun e => f e.2).sum + g r := by
  unfold bucket
  induction d with
  | nil =>
    change f (add start r) + 0 = 0 + g r
    rw [hadd, hstart, add_zero]
  | cons e d ih =>
    rw [lookup_cons, put]
    by_cases he : e.1 = key r
    · rw [if_pos he, if_pos he.symm, List.map_cons, List.map_cons, List.sum_cons, List.sum_cons]
      change f (add e.2 r) + _ = _
      rw [hadd, add_right_comm]
    · rw [if_neg he, if_neg (Ne.symm he), List.map_cons, List.map_cons, List.sum_cons, List.sum_cons, ih, add_assoc]

lemma sum_buckets (hstart : f start = 0) (hadd : ∀ v r, f (add v r) = f v + g r) (rows : List R) :
    ((buckets key start add rows).map fun e => f e.2).sum = (rows.map g).sum := by
  induction rows using List.reverseRecOn with
  | nil => rfl
  | append_singleton rows r ih =>
    rw [buckets_snoc, sum_bucket hstart hadd, ih, List.map_append, List.sum_append, List.map_singleton, List.sum_singleton]

end Sums

end IbkrPlatform.Library.Buckets
