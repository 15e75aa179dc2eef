import Mathlib.Order.Lattice
import Mathlib.Data.List.Induction

/-! Finite maps kept as a list of entries in ascending key order. -/

namespace IbkrPlatform.Library

/-- A finite map: its entries in ascending order of their keys, no key twice. -/
structure OrderedMap (K V : Type) [LinearOrder K] where
  entries : List (K × V)
  sorted : entries.Pairwise (fun a b => a.1 < b.1)

namespace OrderedMap

variable {K V W : Type} [LinearOrder K]

def find (k : K) : List (K × V) → Option V
  | [] => none
  | (j, v) :: es => if j = k then some v else find k es

def put (k : K) (v : V) : List (K × V) → List (K × V)
  | [] => [(k, v)]
  | (j, w) :: es => if k < j then (k, v) :: (j, w) :: es else if j = k then (k, v) :: es else (j, w) :: put k v es

lemma mem_put {k : K} {v : V} {es : List (K × V)} {e : K × V} (h : e ∈ put k v es) :
    e = (k, v) ∨ e ∈ es := by
  induction es with
  | nil => simpa [put] using h
  | cons f es ih =>
    simp only [put] at h
    split_ifs at h <;> simp only [List.mem_cons] at h ⊢ <;> tauto

lemma put_sorted (k : K) (v : V) {es : List (K × V)} (h : es.Pairwise (fun a b => a.1 < b.1)) :
    (put k v es).Pairwise (fun a b => a.1 < b.1) := by
  induction es with
  | nil => simp [put]
  | cons f es ih =>
    obtain ⟨hf, hs⟩ := List.pairwise_cons.mp h
    simp only [put]
    split_ifs with hlt heq
    · refine List.pairwise_cons.mpr ⟨fun e he => ?_, h⟩
      rcases List.mem_cons.mp he with rfl | he
      · exact hlt
      · exact lt_trans hlt (hf e he)
    · exact List.pairwise_cons.mpr ⟨fun e he => heq ▸ hf e he, hs⟩
    · refine List.pairwise_cons.mpr ⟨fun e he => ?_, ih hs⟩
      rcases mem_put he with rfl | he
      · exact lt_of_le_of_ne (not_lt.mp hlt) heq
      · exact hf e he

lemma find_put (k j : K) (v : V) (es : List (K × V)) :
    find j (put k v es) = if j = k then some v else find j es := by
  induction es with
  | nil => simp [put, find, eq_comm]
  | cons f es ih =>
    simp only [put]
    split_ifs with hlt heq <;> grind [find]

lemma find_eq_some {es : List (K × V)} (h : es.Pairwise (fun a b => a.1 < b.1)) {k : K} {v : V} :
    find k es = some v ↔ (k, v) ∈ es := by
  induction es with
  | nil => simp [find]
  | cons f es ih =>
    obtain ⟨hf, hs⟩ := List.pairwise_cons.mp h
    obtain ⟨j, w⟩ := f
    simp only [find, List.mem_cons, Prod.mk.injEq]
    split_ifs with he
    · subst he
      have hn : (j, v) ∉ es := fun hm => lt_irrefl j (hf _ hm)
      simp [hn, eq_comm]
    · simp [ih hs, Ne.symm he]

instance decidableEq [DecidableEq V] : DecidableEq (OrderedMap K V) := fun m n =>
  decidable_of_iff (m.entries = n.entries) (by cases m; cases n; simp)

def empty : OrderedMap K V := ⟨[], List.Pairwise.nil⟩

def get? (m : OrderedMap K V) (k : K) : Option V := find k m.entries

def insert (m : OrderedMap K V) (k : K) (v : V) : OrderedMap K V :=
  ⟨put k v m.entries, put_sorted k v m.sorted⟩

def mapValues (m : OrderedMap K V) (f : K → V → W) : OrderedMap K W :=
  ⟨m.entries.map (fun e => (e.1, f e.1 e.2)), List.pairwise_map.mpr m.sorted⟩

/-- `setdefault`. -/
def insertNew (m : OrderedMap K V) (k : K) (v : V) : OrderedMap K V :=
  if (m.get? k).isSome then m else m.insert k v

def modify (m : OrderedMap K V) (k : K) (f : V → V) : OrderedMap K V :=
  match m.get? k with
  | some v => m.insert k (f v)
  | none => m

def restrict (m : OrderedMap K V) (p : K → Bool) : OrderedMap K V :=
  ⟨m.entries.filter (fun e => p e.1), m.sorted.filter _⟩

@[simp] lemma get?_empty (k : K) : (empty : OrderedMap K V).get? k = none := rfl

lemma get?_insert (m : OrderedMap K V) (k j : K) (v : V) :
    (m.insert k v).get? j = if j = k then some v else m.get? j :=
  find_put k j v m.entries

@[simp] lemma get?_insert_self (m : OrderedMap K V) (k : K) (v : V) :
    (m.insert k v).get? k = some v := by
  simp [get?_insert]

lemma get?_insert_ne (m : OrderedMap K V) {k j : K} (v : V) (h : j ≠ k) :
    (m.insert k v).get? j = m.get? j := by
  simp [get?_insert, h]

lemma get?_insertNew (m : OrderedMap K V) (k j : K) (v : V) :
    (m.insertNew k v).get? j = if j = k then some ((m.get? k).getD v) else m.get? j := by
  unfold insertNew
  split_ifs with hs hj hj
  · obtain ⟨w, hw⟩ := Option.isSome_iff_exists.mp hs
    rw [hj, hw, Option.getD_some]
  · rfl
  · rw [hj, get?_insert_self, Option.not_isSome_iff_eq_none.mp hs, Option.getD_none]
  · exact get?_insert_ne m v hj

lemma get?_modify (m : OrderedMap K V) (k j : K) (f : V → V) :
    (m.modify k f).get? j = if j = k then (m.get? k).map f else m.get? j := by
  unfold modify
  cases hk : m.get? k with
  | none =>
    split_ifs with hj
    · rw [hj, hk, Option.map_none]
    · rfl
  | some v => rw [get?_insert, Option.map_some]

lemma get?_mapValues (m : OrderedMap K V) (f : K → V → W) (k : K) :
    (m.mapValues f).get? k = (m.get? k).map (f k) := by
  obtain ⟨es, _⟩ := m
  simp only [get?, mapValues]
  induction es with
  | nil => rfl
  | cons e es ih =>
    simp only [List.map_cons, find]
    split_ifs with he
    · simp [he]
    · exact ih (by simp_all)

lemma mem_entries (m : OrderedMap K V) {k : K} {v : V} : (k, v) ∈ m.entries ↔ m.get? k = some v :=
  (find_eq_some m.sorted).symm

lemma get?_restrict (m : OrderedMap K V) (p : K → Bool) (k : K) :
    (m.restrict p).get? k = if p k then m.get? k else none := by
  have h (v : V) : (m.restrict p).get? k = some v ↔ p k = true ∧ m.get? k = some v := by
    rw [← mem_entries, ← mem_entries, restrict, List.mem_filter, and_comm]
  apply Option.ext
  intro v
  split_ifs with hp
  · simp [h, hp]
  · simp [h, hp]

lemma keys_nodup (m : OrderedMap K V) : (m.entries.map Prod.fst).Nodup :=
  (List.pairwise_map.mpr m.sorted).imp ne_of_lt

def last? (m : OrderedMap K V) (p : K → Bool) (f : V → Option W) : Option W :=
  (m.entries.filter fun e => p e.1).foldl (fun found e => (f e.2).or found) none

lemma foldl_or_eq_some {f : V → Option W} {es : List (K × V)} (hs : es.Pairwise (fun a b => a.1 < b.1)) {w : W} :
    es.foldl (fun found e => (f e.2).or found) none = some w ↔
      ∃ e ∈ es, f e.2 = some w ∧ ∀ e' ∈ es, e.1 < e'.1 → f e'.2 = none := by
  induction es using List.reverseRecOn with
  | nil => simp
  | append_singleton es e ih =>
    obtain ⟨hs, _, he⟩ := List.pairwise_append.mp hs
    have hlt : ∀ e' ∈ es, e'.1 < e.1 := fun e' he' => he e' he' e (List.mem_singleton.mpr rfl)
    rw [List.foldl_append, List.foldl_cons, List.foldl_nil]
    cases hf : f e.2 with
    | none =>
      rw [Option.none_or, ih hs]
      constructor
      · rintro ⟨e', hm, hw, hn⟩
        refine ⟨e', List.mem_append_left _ hm, hw, fun d hd hl => ?_⟩
        rcases List.mem_append.mp hd with hd | hd
        · exact hn d hd hl
        · rw [List.mem_singleton.mp hd, hf]
      · rintro ⟨e', hm, hw, hn⟩
        rcases List.mem_append.mp hm with hm | hm
        · exact ⟨e', hm, hw, fun d hd hl => hn d (List.mem_append_left _ hd) hl⟩
        · rw [List.mem_singleton.mp hm, hf] at hw
          cases hw
    | some v =>
      rw [Option.some_or]
      constructor
      · rintro h
        refine ⟨e, List.mem_append_right _ (List.mem_singleton.mpr rfl), hf.trans h, fun d hd hl => ?_⟩
        rcases List.mem_append.mp hd with hd | hd
        · exact absurd hl (lt_asymm (hlt d hd))
        · rw [List.mem_singleton.mp hd] at hl
          exact absurd hl (lt_irrefl _)
      · rintro ⟨e', hm, hw, hn⟩
        rcases List.mem_append.mp hm with hm | hm
        · have := hn e (List.mem_append_right _ (List.mem_singleton.mpr rfl)) (hlt e' hm)
          rw [hf] at this
          cases this
        · rw [← hf, ← List.mem_singleton.mp hm]
          exact hw

lemma last?_eq_some (m : OrderedMap K V) {p : K → Bool} {f : V → Option W} {w : W} :
    m.last? p f = some w ↔
      ∃ k, p k = true ∧ (m.get? k).bind f = some w ∧ ∀ j, k < j → p j = true → (m.get? j).bind f = none := by
  rw [last?, foldl_or_eq_some (m.sorted.filter _)]
  constructor
  · rintro ⟨⟨k, v⟩, hm, hw, hn⟩
    obtain ⟨hm, hp⟩ := List.mem_filter.mp hm
    refine ⟨k, hp, by rw [m.mem_entries.mp hm]; exact hw, fun j hj hpj => ?_⟩
    cases hg : m.get? j with
    | none => rfl
    | some u => exact hn (j, u) (List.mem_filter.mpr ⟨m.mem_entries.mpr hg, hpj⟩) hj
  · rintro ⟨k, hp, hw, hn⟩
    obtain ⟨v, hv, hw⟩ := Option.bind_eq_some_iff.mp hw
    refine ⟨(k, v), List.mem_filter.mpr ⟨m.mem_entries.mpr hv, hp⟩, hw, ?_⟩
    rintro ⟨j, u⟩ hm hj
    obtain ⟨hm, hpj⟩ := List.mem_filter.mp hm
    have := hn j hj hpj
    rwa [m.mem_entries.mp hm] at this

end OrderedMap

end IbkrPlatform.Library
