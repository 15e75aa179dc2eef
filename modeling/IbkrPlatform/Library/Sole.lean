import Mathlib.Data.List.Induction
import Mathlib.Data.List.Nodup
import IbkrPlatform.Library.Dictionary

/-! Rows with keys of which only those are kept that are the one row of their key. -/

namespace IbkrPlatform.Library.Sole

variable {K A B : Type} [DecidableEq K]

structure Table (K B : Type) where
  kept : List (K × B)
  refused : List K
  seen : List K

def Table.empty : Table K B := ⟨[], [], []⟩

/-- A row that cannot be read or repeats a key refuses the key; `some none` is a row that is read and not kept. -/
def step (read : A → Option (Option B)) (t : Table K B) (row : K × A) : Table K B :=
  let seen := t.seen.insert row.1
  match read row.2 with
  | none => ⟨t.kept.filter (·.1 ≠ row.1), t.refused.insert row.1, seen⟩
  | some b =>
    if row.1 ∈ t.seen then ⟨t.kept.filter (·.1 ≠ row.1), t.refused.insert row.1, seen⟩
    else match b with
      | none => { t with seen }
      | some b => { t with kept := Dictionary.put row.1 b t.kept, seen }

def collect (read : A → Option (Option B)) (rows : List (K × A)) : Table K B := rows.foldl (step read) .empty

def occurrences (k : K) (rows : List (K × A)) : List A := (rows.filter (·.1 = k)).map Prod.snd

def sole (read : A → Option (Option B)) : List A → Option (Option B)
  | [a] => read a
  | _ => none

variable {read : A → Option (Option B)} {rows : List (K × A)} {row : K × A} {k : K}

lemma occurrences_snoc : occurrences k (rows ++ [row]) = occurrences k rows ++ if row.1 = k then [row.2] else [] := by
  unfold occurrences
  rw [List.filter_append, List.map_append]
  by_cases h : row.1 = k
  · simp [h]
  · simp [h]

lemma sole_snoc {xs : List A} {a : A} (h : xs ≠ []) : sole read (xs ++ [a]) = none := by
  obtain ⟨x, xs, rfl⟩ := List.exists_cons_of_ne_nil h
  cases xs <;> rfl

lemma lookup_filter_ne {d : List (K × B)} {j : K} : (d.filter (·.1 ≠ j)).lookup k = if k = j then none else d.lookup k := by
  induction d with
  | nil => simp
  | cons e d ih =>
    rw [Dictionary.lookup_cons, List.filter_cons]
    by_cases he : e.1 = j
    · rw [if_neg (by simp [he]), ih]
      by_cases hk : k = j
      · simp [hk]
      · simp [hk, he]
    · rw [if_pos (by simpa using he), Dictionary.lookup_cons, ih]
      by_cases hke : k = e.1
      · simp [hke, he]
      · simp [hke]

structure Tells (read : A → Option (Option B)) (rows : List (K × A)) (t : Table K B) : Prop where
  seen : ∀ k, k ∈ t.seen ↔ occurrences k rows ≠ []
  kept : ∀ k, t.kept.lookup k = (sole read (occurrences k rows)).join
  refused : ∀ k, k ∈ t.refused ↔ occurrences k rows ≠ [] ∧ sole read (occurrences k rows) = none
  keys : (t.kept.map Prod.fst).Nodup
  refusals : t.refused.Nodup

lemma Tells.refuse {t : Table K B} (h : Tells read rows t)
    (hnone : sole read (occurrences row.1 rows ++ [row.2]) = none) :
    Tells read (rows ++ [row]) ⟨t.kept.filter (·.1 ≠ row.1), t.refused.insert row.1, t.seen.insert row.1⟩ := by
  refine ⟨fun k => ?_, fun k => ?_, fun k => ?_, ?_, h.refusals.insert⟩
  · rw [occurrences_snoc, List.mem_insert_iff, h.seen]
    by_cases hk : row.1 = k
    · simp [hk]
    · simp [hk, Ne.symm hk]
  · rw [occurrences_snoc, lookup_filter_ne, h.kept]
    by_cases hk : row.1 = k
    · subst hk
      rw [if_pos rfl, if_pos rfl, hnone]
      rfl
    · rw [if_neg (Ne.symm hk), if_neg hk, List.append_nil]
  · rw [occurrences_snoc, List.mem_insert_iff, h.refused]
    by_cases hk : row.1 = k
    · subst hk
      rw [if_pos rfl, hnone]
      simp
    · rw [if_neg hk, List.append_nil]
      exact or_iff_right (Ne.symm hk)
  · exact h.keys.sublist (List.Sublist.map _ List.filter_sublist)

lemma Tells.pass {t : Table K B} (h : Tells read rows t) (hread : read row.2 = some none) (hnew : occurrences row.1 rows = []) :
    Tells read (rows ++ [row]) { t with seen := t.seen.insert row.1 } := by
  have hsole : sole read (occurrences row.1 rows ++ [row.2]) = some none := by rw [hnew]; exact hread
  refine ⟨fun k => ?_, fun k => ?_, fun k => ?_, h.keys, h.refusals⟩
  · rw [occurrences_snoc, List.mem_insert_iff, h.seen]
    by_cases hk : row.1 = k
    · simp [hk]
    · simp [hk, Ne.symm hk]
  · rw [occurrences_snoc, h.kept]
    by_cases hk : row.1 = k
    · subst hk
      rw [if_pos rfl, hsole, hnew]
      rfl
    · rw [if_neg hk, List.append_nil]
  · rw [occurrences_snoc, h.refused]
    by_cases hk : row.1 = k
    · subst hk
      rw [if_pos rfl, hsole, hnew]
      simp
    · rw [if_neg hk, List.append_nil]

lemma Tells.keep {t : Table K B} {b : B} (h : Tells read rows t) (hread : read row.2 = some (some b))
    (hnew : occurrences row.1 rows = []) :
    Tells read (rows ++ [row]) { t with kept := Dictionary.put row.1 b t.kept, seen := t.seen.insert row.1 } := by
  have hsole : sole read (occurrences row.1 rows ++ [row.2]) = some (some b) := by rw [hnew]; exact hread
  have hfresh : t.kept.lookup row.1 = none := by
    rw [h.kept, hnew]
    rfl
  refine ⟨fun k => ?_, fun k => ?_, fun k => ?_, ?_, h.refusals⟩
  · rw [occurrences_snoc, List.mem_insert_iff, h.seen]
    by_cases hk : row.1 = k
    · simp [hk]
    · simp [hk, Ne.symm hk]
  · rw [occurrences_snoc, Dictionary.lookup_put]
    by_cases hk : row.1 = k
    · subst hk
      rw [if_pos rfl, if_pos rfl, hsole]
      rfl
    · rw [if_neg (Ne.symm hk), if_neg hk, List.append_nil, h.kept]
  · rw [occurrences_snoc, h.refused]
    by_cases hk : row.1 = k
    · subst hk
      rw [if_pos rfl, hsole, hnew]
      simp
    · rw [if_neg hk, List.append_nil]
  · have hput : Dictionary.put row.1 b t.kept = t.kept ++ [(row.1, b)] := by
      have happend := Dictionary.put_append (v := b) hfresh []
      rw [List.append_nil] at happend
      exact happend
    rw [hput, List.map_append, List.nodup_append]
    refine ⟨h.keys, List.nodup_singleton _, fun k hk j hj => ?_⟩
    rw [List.mem_singleton.mp hj]
    rintro rfl
    obtain ⟨e, he, hek⟩ := List.mem_map.mp hk
    exact (bne_iff_ne.mp (List.lookup_eq_none_iff.mp hfresh e he)) hek.symm

lemma Tells.step {t : Table K B} (h : Tells read rows t) : Tells read (rows ++ [row]) (step read t row) := by
  unfold Sole.step
  extract_lets seen
  cases hread : read row.2 with
  | none =>
    refine h.refuse ?_
    cases hrows : occurrences row.1 rows with
    | nil => exact hread
    | cons a as => exact sole_snoc (List.cons_ne_nil a as)
  | some b =>
    by_cases hseen : row.1 ∈ t.seen
    · simp only [if_pos hseen]
      exact h.refuse (sole_snoc ((h.seen _).mp hseen))
    · have hnew : occurrences row.1 rows = [] := not_not.mp fun hne => hseen ((h.seen _).mpr hne)
      simp only [if_neg hseen]
      cases b with
      | none => exact h.pass hread hnew
      | some b => exact h.keep hread hnew

lemma collect_tells (read : A → Option (Option B)) (rows : List (K × A)) : Tells read rows (collect read rows) := by
  induction rows using List.reverseRecOn with
  | nil =>
    refine ⟨fun k => ?_, fun k => rfl, fun k => ?_, List.nodup_nil, List.nodup_nil⟩
    · exact ⟨fun h => (nomatch h), fun h => (h rfl).elim⟩
    · exact ⟨fun h => (nomatch h), fun h => (h.1 rfl).elim⟩
  | append_singleton rows row ih =>
    rw [collect, List.foldl_append]
    exact ih.step

end IbkrPlatform.Library.Sole
