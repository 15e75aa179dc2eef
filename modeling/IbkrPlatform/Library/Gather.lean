import Mathlib.Data.List.Nodup
import Mathlib.Data.List.Perm.Subperm
import IbkrPlatform.Library.Dictionary

/-! A loop that gathers records by their identity and gives up at the first row that it cannot use. -/

namespace IbkrPlatform.Library.Gather

open Dictionary

variable {R K V E : Type} [DecidableEq K] [DecidableEq V]

def gather (read : R → Except E (Option (K × V))) (conflict exceeded : E) (limit : ℕ) :
    List (K × V) → List R → Except E (List (K × V))
  | d, [] => .ok d
  | d, r :: rs =>
    match read r with
    | .error e => .error e
    | .ok none => gather read conflict exceeded limit d rs
    | .ok (some (k, v)) =>
      if d.lookup k ≠ none ∧ d.lookup k ≠ some v then .error conflict
      else if limit < (put k v d).length then .error exceeded
      else gather read conflict exceeded limit (put k v d) rs

variable {read : R → Except E (Option (K × V))} {conflict exceeded : E} {limit : ℕ} {d d' target : List (K × V)}
variable {rs rs' : List R}

def Keyed (d : List (K × V)) : Prop := (d.map Prod.fst).Nodup

omit [DecidableEq K] [DecidableEq V] in
lemma keyed_nil : Keyed ([] : List (K × V)) := List.nodup_nil

omit [DecidableEq V] in
lemma Keyed.lookup (h : Keyed d) {e : K × V} (he : e ∈ d) : d.lookup e.1 = some e.2 := by
  induction d with
  | nil => cases he
  | cons x d ih =>
    obtain ⟨hx, hd⟩ := List.nodup_cons.mp h
    rw [lookup_cons]
    rcases List.mem_cons.mp he with rfl | he
    · simp
    · have hne : e.1 ≠ x.1 := fun hk => hx (hk ▸ List.mem_map_of_mem he)
      rw [if_neg hne, ih hd he]

lemma put_agrees (h : Keyed d) {k : K} {v : V} (ha : ¬ (d.lookup k ≠ none ∧ d.lookup k ≠ some v)) :
    Keyed (put k v d) ∧ ∀ e, e ∈ put k v d ↔ e = (k, v) ∨ e ∈ d := by
  by_cases hk : d.lookup k = none
  · have hput : put k v (d ++ []) = d ++ put k v [] := put_append hk []
    rw [List.append_nil] at hput
    have hnew : k ∉ d.map Prod.fst := by
      intro hmem
      obtain ⟨e, he, rfl⟩ := List.mem_map.mp hmem
      rw [h.lookup he] at hk
      cases hk
    rw [hput]
    refine ⟨?_, fun e => by simp [put, or_comm]⟩
    simp only [Keyed, put, List.map_append, List.map_cons, List.map_nil]
    exact h.append (List.nodup_singleton k) (by simpa using hnew)
  · have hv : d.lookup k = some v := by
      by_contra hv
      exact ha ⟨hk, hv⟩
    rw [put_of_lookup hv]
    refine ⟨h, fun e => ⟨.inr, ?_⟩⟩
    rintro (rfl | he)
    · exact mem_of_lookup hv
    · exact he

lemma gather_ok (hd : Keyed d) (hl : d.length ≤ limit) (h : gather read conflict exceeded limit d rs = .ok d') :
    (∀ r ∈ rs, ∃ x, read r = .ok x) ∧ Keyed d' ∧ d'.length ≤ limit ∧
      ∀ e, e ∈ d' ↔ e ∈ d ∨ ∃ r ∈ rs, read r = .ok (some e) := by
  induction rs generalizing d with
  | nil =>
    cases h
    exact ⟨by simp, hd, hl, by simp⟩
  | cons r rs ih =>
    unfold gather at h
    split at h
    · cases h
    · rename_i hr
      obtain ⟨hread, hk, hlen, hmem⟩ := ih hd hl h
      exact ⟨by simpa [hr] using hread, hk, hlen, fun e => by simp [hmem, hr]⟩
    · rename_i k v hr
      split_ifs at h with ha hx
      obtain ⟨hput, hentries⟩ := put_agrees hd ha
      obtain ⟨hread, hk, hlen, hmem⟩ := ih hput (Nat.not_lt.mp hx) h
      refine ⟨by simpa [hr] using hread, hk, hlen, fun e => ?_⟩
      rw [hmem, hentries]
      simp only [List.mem_cons, exists_eq_or_imp, hr, Except.ok.injEq, Option.some.injEq]
      grind

lemma gather_succeeds (ht : Keyed target) (hlimit : target.length ≤ limit) (hd : Keyed d) (hsub : d ⊆ target)
    (hrs : ∀ r ∈ rs, ∃ x, read r = .ok x ∧ ∀ e, x = some e → e ∈ target) :
    ∃ d', gather read conflict exceeded limit d rs = .ok d' := by
  induction rs generalizing d with
  | nil => exact ⟨d, rfl⟩
  | cons r rs ih =>
    obtain ⟨x, hx, hmem⟩ := hrs r List.mem_cons_self
    have hrest := fun r' hr' => hrs r' (List.mem_cons_of_mem r hr')
    unfold gather
    rw [hx]
    cases x with
    | none => exact ih hd hsub hrest
    | some e =>
      obtain ⟨k, v⟩ := e
      have hkv := ht.lookup (hmem (k, v) rfl)
      have ha : ¬ (d.lookup k ≠ none ∧ d.lookup k ≠ some v) := by
        rintro ⟨hn, hv⟩
        obtain ⟨w, hw⟩ := Option.ne_none_iff_exists'.mp hn
        rw [ht.lookup (hsub (mem_of_lookup hw))] at hkv
        exact hv (hw.trans hkv)
      obtain ⟨hput, hentries⟩ := put_agrees hd ha
      have hsub' : put k v d ⊆ target := by
        intro e he
        rcases (hentries e).mp he with rfl | he
        · exact hmem _ rfl
        · exact hsub he
      have hlen : (put k v d).length ≤ target.length := ((List.Nodup.of_map _ hput).subperm hsub').length_le
      simp only
      rw [if_neg ha, if_neg (Nat.not_lt.mpr (Nat.le_trans hlen hlimit))]
      exact ih hput hsub' hrest

lemma gather_congr (hrows : ∀ r, r ∈ rs ↔ r ∈ rs') (h : gather read conflict exceeded limit [] rs = .ok d) :
    ∃ d', gather read conflict exceeded limit [] rs' = .ok d' ∧ d.Perm d' := by
  obtain ⟨hread, hk, hlen, hmem⟩ := gather_ok keyed_nil (Nat.zero_le _) h
  have hfits : ∀ r ∈ rs', ∃ x, read r = .ok x ∧ ∀ e, x = some e → e ∈ d := by
    intro r hr
    obtain ⟨x, hx⟩ := hread r ((hrows r).mpr hr)
    exact ⟨x, hx, fun e he => (hmem e).mpr (.inr ⟨r, (hrows r).mpr hr, hx.trans (by rw [he])⟩)⟩
  have hsome : ∃ d', gather read conflict exceeded limit [] rs' = .ok d' :=
    gather_succeeds hk hlen keyed_nil (List.nil_subset _) hfits
  obtain ⟨d', hd'⟩ := hsome
  obtain ⟨-, hk', -, hmem'⟩ := gather_ok keyed_nil (Nat.zero_le _) hd'
  refine ⟨d', hd', (List.perm_ext_iff_of_nodup (List.Nodup.of_map _ hk) (List.Nodup.of_map _ hk')).mpr fun e => ?_⟩
  simp only [hmem, hmem', hrows]

end IbkrPlatform.Library.Gather
