import Mathlib.Data.List.Perm.Basic
import IbkrPlatform.Notifications.Projection

/-! The merge of routine observation counts depends only on which maps there are, wherever and in whatever groups they are merged. -/

namespace IbkrPlatform.Notifications.ObservationCounts

open Library

def countIn (counts : Counts) (category : String) : Option ℤ := (counts.get? category).getD (some 0)

structure Tells (maps : List Counts) (counts : Counts) : Prop where
  categories : ∀ category, (counts.get? category).isSome ↔ ∃ m ∈ maps, (m.get? category).isSome
  agreed : ∀ category n, countIn counts category = some n ↔ ∀ m ∈ maps, countIn m category = some n

section Merge

variable {left right merged : Counts} {maps maps' : List Counts}

lemma ext_get? {a b : Counts} (h : ∀ category, a.get? category = b.get? category) : a = b := by
  have hmem : ∀ e, e ∈ a.entries ↔ e ∈ b.entries := by
    rintro ⟨k, v⟩
    rw [OrderedMap.mem_entries, OrderedMap.mem_entries, h]
  have hperm : a.entries.Perm b.entries :=
    (List.perm_ext_iff_of_nodup (List.Nodup.of_map _ a.keys_nodup) (List.Nodup.of_map _ b.keys_nodup)).mpr hmem
  have hentries : a.entries = b.entries :=
    List.Perm.eq_of_pairwise (fun x y _ _ hxy hyx => absurd (lt_trans hxy hyx) (lt_irrefl _)) a.sorted b.sorted hperm
  obtain ⟨es, hes⟩ := a
  obtain ⟨es', hes'⟩ := b
  cases hentries
  rfl

lemma isSome_get? {m : Counts} {category : String} : (m.get? category).isSome ↔ category ∈ m.entries.map Prod.fst := by
  rw [List.mem_map]
  constructor
  · intro h
    obtain ⟨v, hv⟩ := Option.isSome_iff_exists.mp h
    exact ⟨(category, v), m.mem_entries.mpr hv, rfl⟩
  · rintro ⟨⟨k, v⟩, he, rfl⟩
    rw [m.mem_entries.mp he]
    rfl

lemma get?_foldl_insert (f : String → Option ℤ) (keys : List String) (m : Counts) (category : String) :
    (keys.foldl (fun m k => m.insert k (f k)) m).get? category =
      if category ∈ keys then some (f category) else m.get? category := by
  induction keys generalizing m with
  | nil => rfl
  | cons k keys ih =>
    rw [List.foldl_cons, ih, OrderedMap.get?_insert]
    by_cases hmem : category ∈ keys
    · rw [if_pos hmem, if_pos (List.mem_cons_of_mem k hmem)]
    · rw [if_neg hmem]
      by_cases hk : category = k
      · rw [if_pos hk, if_pos (hk ▸ List.mem_cons_self), hk]
      · rw [if_neg hk, if_neg fun h => (List.mem_cons.mp h).elim hk hmem]

lemma merge_valid (hleft : countsValid left = true) (hright : countsValid right = true) :
    ∃ m, mergeRoutineObservationCounts left right = .ok m ∧ ∀ category, m.get? category =
      if (left.get? category).isSome ∨ (right.get? category).isSome
      then some (mergeCount (countIn left category) (countIn right category)) else none := by
  unfold mergeRoutineObservationCounts
  rw [if_pos ⟨hleft, hright⟩]
  refine ⟨_, rfl, fun category => ?_⟩
  have hkeys := get?_foldl_insert (fun k => mergeCount (countIn left k) (countIn right k))
    ((left.entries ++ right.entries).map Prod.fst) OrderedMap.empty category
  rw [OrderedMap.get?_empty] at hkeys
  refine hkeys.trans ?_
  simp only [List.map_append, List.mem_append, ← isSome_get?]

lemma mergeCount_eq_some {a b : Option ℤ} {n : ℤ} : mergeCount a b = some n ↔ a = some n ∧ b = some n := by
  unfold mergeCount
  split_ifs with h
  · rw [h]
    exact (and_self_iff).symm
  · exact ⟨fun hn => (nomatch hn), fun hn => absurd (hn.1.trans hn.2.symm) h⟩

lemma countsValid_iff {m : Counts} : countsValid m = true ↔
    ∀ category v, m.get? category = some v → category ∈ allowedCategories ∧ v.all (0 ≤ ·) = true := by
  rw [countsValid, List.all_eq_true]
  constructor
  · intro h category v hv
    exact of_decide_eq_true (h _ (m.mem_entries.mpr hv))
  · rintro h ⟨category, v⟩ he
    exact decide_eq_true (h category v (m.mem_entries.mp he))

lemma Tells.merge (hleft : Tells maps left) (hright : Tells maps' right) (hl : countsValid left = true)
    (hr : countsValid right = true) :
    ∃ m, mergeRoutineObservationCounts left right = .ok m ∧ Tells (maps ++ maps') m ∧ countsValid m = true := by
  obtain ⟨m, hm, hget⟩ := merge_valid hl hr
  have hcount (category : String) : countIn m category = mergeCount (countIn left category) (countIn right category) := by
    rw [countIn, hget]
    split_ifs with h
    · rfl
    · rw [not_or, Option.not_isSome_iff_eq_none, Option.not_isSome_iff_eq_none] at h
      rw [countIn, countIn, h.1, h.2]
      rfl
  refine ⟨m, hm, ⟨fun category => ?_, fun category n => ?_⟩, ?_⟩
  · have hsome : (m.get? category).isSome ↔ (left.get? category).isSome ∨ (right.get? category).isSome := by
      rw [hget]
      split_ifs with h
      · exact ⟨fun _ => h, fun _ => rfl⟩
      · exact ⟨fun h => (nomatch h), fun h' => absurd h' h⟩
    rw [hsome, hleft.categories, hright.categories]
    simp only [List.mem_append, or_and_right, exists_or]
  · rw [hcount, mergeCount_eq_some, hleft.agreed, hright.agreed, List.forall_mem_append]
  · refine countsValid_iff.mpr fun category v hv => ?_
    rw [hget] at hv
    split_ifs at hv with h
    obtain rfl := Option.some.inj hv
    constructor
    · rcases h with h | h
      · obtain ⟨w, hw⟩ := Option.isSome_iff_exists.mp h
        exact (countsValid_iff.mp hl category w hw).1
      · obtain ⟨w, hw⟩ := Option.isSome_iff_exists.mp h
        exact (countsValid_iff.mp hr category w hw).1
    · unfold mergeCount
      split_ifs
      · unfold countIn
        cases hw : left.get? category with
        | none => rfl
        | some w => exact (countsValid_iff.mp hl category w hw).2
      · rfl

lemma tells_self (m : Counts) : Tells [m] m := by
  refine ⟨fun category => ?_, fun category n => ?_⟩
  · simp
  · simp

lemma Tells.unique {a b : Counts} (ha : Tells maps a) (hb : Tells maps' b) (hmaps : ∀ c, c ∈ maps ↔ c ∈ maps') : a = b := by
  have hcount (category : String) : countIn a category = countIn b category := by
    refine Option.ext fun n => ?_
    rw [ha.agreed, hb.agreed]
    exact forall_congr' fun c => by rw [hmaps c]
  refine ext_get? fun category => ?_
  have hsome : (a.get? category).isSome ↔ (b.get? category).isSome := by
    rw [ha.categories, hb.categories]
    simp only [hmaps]
  have hvalue := hcount category
  unfold countIn at hvalue
  cases hx : a.get? category with
  | none =>
    cases hy : b.get? category with
    | none => rfl
    | some y =>
      rw [hx, hy] at hsome
      exact absurd (hsome.mpr rfl) (by decide)
  | some x =>
    cases hy : b.get? category with
    | none =>
      rw [hx, hy] at hsome
      exact absurd (hsome.mp rfl) (by decide)
    | some y =>
      rw [hx, hy] at hvalue
      exact congrArg some hvalue

end Merge

section Grouping

inductive Grouping
  | map (counts : Counts)
  | merge (left right : Grouping)

def Grouping.maps : Grouping → List Counts
  | .map counts => [counts]
  | .merge left right => left.maps ++ right.maps

def Grouping.result : Grouping → Except String Counts
  | .map counts => .ok counts
  | .merge left right => left.result.bind fun a => right.result.bind fun b => mergeRoutineObservationCounts a b

lemma Grouping.result_tells (g : Grouping) (h : ∀ c ∈ g.maps, countsValid c = true) :
    ∃ m, g.result = .ok m ∧ Tells g.maps m ∧ countsValid m = true := by
  induction g with
  | map counts => exact ⟨counts, rfl, tells_self counts, h counts List.mem_cons_self⟩
  | merge left right ihl ihr =>
    rw [maps, List.forall_mem_append] at h
    obtain ⟨a, ha, hta, hva⟩ := ihl h.1
    obtain ⟨b, hb, htb, hvb⟩ := ihr h.2
    obtain ⟨m, hm, htm, hvm⟩ := hta.merge htb hva hvb
    refine ⟨m, ?_, htm, hvm⟩
    rw [result, ha, hb]
    exact hm

lemma mergeAll_tells {groups : List (List Counts × Counts)} (hne : groups ≠ [])
    (h : ∀ p ∈ groups, Tells p.1 p.2 ∧ countsValid p.2 = true) :
    ∃ m, mergeAll (groups.map Prod.snd) = some m ∧ Tells (groups.flatMap Prod.fst) m := by
  have hfold : ∀ (rest : List (List Counts × Counts)) (maps : List Counts) (m : Counts), Tells maps m → countsValid m = true →
      (∀ p ∈ rest, Tells p.1 p.2 ∧ countsValid p.2 = true) →
      ∃ m', (rest.map Prod.snd).foldl (fun m c => m.bind fun m => (mergeRoutineObservationCounts m c).toOption) (some m) =
        some m' ∧ Tells (maps ++ rest.flatMap Prod.fst) m' := by
    intro rest
    induction rest with
    | nil => exact fun maps m hm _ _ => ⟨m, rfl, by rwa [List.flatMap_nil, List.append_nil]⟩
    | cons p rest ih =>
      intro maps m hm hv hrest
      rw [List.forall_mem_cons] at hrest
      obtain ⟨m', hm', htells, hv'⟩ := hm.merge hrest.1.1 hv hrest.1.2
      obtain ⟨m'', hfold, htells'⟩ := ih _ m' htells hv' hrest.2
      refine ⟨m'', ?_, ?_⟩
      · rw [List.map_cons, List.foldl_cons, Option.bind_some, hm']
        exact hfold
      · rwa [List.flatMap_cons, ← List.append_assoc]
  cases groups with
  | nil => exact absurd rfl hne
  | cons p rest =>
    rw [List.forall_mem_cons] at h
    obtain ⟨m, hm, htells, hv⟩ := h.1.1.merge h.1.1 h.1.2 h.1.2
    obtain ⟨m', hm', htells'⟩ := hfold rest _ m htells hv h.2
    refine ⟨m', ?_, ?_⟩
    · rw [List.map_cons, mergeAll, hm]
      exact hm'
    · have hsame : ∀ c, c ∈ p.1 ++ p.1 ++ rest.flatMap Prod.fst ↔ c ∈ (p :: rest).flatMap Prod.fst := by
        intro c
        rw [List.flatMap_cons]
        simp only [List.mem_append, or_self]
      refine ⟨fun category => ?_, fun category n => ?_⟩
      · rw [htells'.categories]
        simp only [hsame]
      · rw [htells'.agreed]
        exact forall_congr' fun c => by rw [hsame c]

end Grouping

section Persist

def persistAll (record : Item) : List Request → Except String Item
  | [] => .ok record
  | q :: qs => (mergePrior q record q.record).bind fun record => persistAll record qs

structure Retries (q r : Request) : Prop where
  unsettled : r.settlement = none
  facts : comparable r.fact = comparable q.fact
  mode : r.dryRun = q.dryRun
  valid : ∀ c, r.fact.routineObservationCounts = some c → countsValid c = true

def countsOf (qs : List Request) : List Counts := qs.filterMap fun q => q.fact.routineObservationCounts

def Stored (maps : List Counts) (stored : Option Counts) : Prop :=
  match stored with
  | none => maps = []
  | some m => Tells maps m ∧ countsValid m = true

lemma stored_step {maps : List Counts} {stored reported : Option Counts} (h : Stored maps stored)
    (hvalid : ∀ c, reported = some c → countsValid c = true) :
    ∃ m, mergeObservations stored reported = .ok m ∧ Stored (maps ++ reported.toList) m := by
  cases reported with
  | none =>
    refine ⟨stored, ?_, by rwa [Option.toList_none, List.append_nil]⟩
    cases stored <;> rfl
  | some c =>
    have hc := hvalid c rfl
    cases stored with
    | none =>
      obtain ⟨m, hm, htells, hv⟩ := (tells_self c).merge (tells_self c) hc hc
      refine ⟨some m, ?_, ?_⟩
      · rw [mergeObservations, hm]
        rfl
      · obtain rfl : maps = [] := h
        have hself : m = c := htells.unique (tells_self c) fun d => by simp
        rw [hself]
        exact ⟨tells_self c, hc⟩
    | some old =>
      obtain ⟨htells, hold⟩ := h
      obtain ⟨m, hm, htells', hv⟩ := htells.merge (tells_self c) hold hc
      refine ⟨some m, ?_, htells', hv⟩
      rw [mergeObservations, hm]
      rfl

lemma persistAll_stored {q : Request} {record : Item} {maps : List Counts} {qs : List Request}
    (hfacts : comparable record.event = comparable q.fact) (hmode : record.dryRun = q.dryRun)
    (hstored : Stored maps record.event.routineObservationCounts) (hqs : ∀ r ∈ qs, Retries q r) :
    ∃ item, persistAll record qs = .ok item ∧ Stored (maps ++ countsOf qs) item.event.routineObservationCounts := by
  induction qs generalizing record maps with
  | nil => exact ⟨record, rfl, by rwa [countsOf, List.filterMap_nil, List.append_nil]⟩
  | cons r qs ih =>
    rw [List.forall_mem_cons] at hqs
    obtain ⟨⟨hunsettled, hsame, hdry, hvalid⟩, hrest⟩ := hqs
    obtain ⟨counts, hcounts, hstored'⟩ := stored_step hstored hvalid
    have hmerge : ∃ merged, mergePrior r record r.record = .ok merged ∧ merged.event.routineObservationCounts = counts := by
      unfold mergePrior
      rw [hunsettled]
      have hagrees : ¬ (comparable record.event ≠ comparable r.record.event ∨ record.dryRun ≠ r.dryRun) := by
        rw [not_or, not_not, not_not]
        exact ⟨hfacts.trans hsame.symm, hmode.trans hdry.symm⟩
      simp only [Option.isSome_none, Bool.false_eq_true, if_false, if_neg hagrees, hcounts]
      exact ⟨_, rfl, rfl⟩
    obtain ⟨merged, hmerged, rfl⟩ := hmerge
    obtain ⟨hkept, hkeptMode, -⟩ := mergePrior_keeps hunsettled hmerged
    obtain ⟨item, hitem, hfinal⟩ := ih (hkept.trans hfacts) (hkeptMode.trans hmode) hstored' hrest
    refine ⟨item, ?_, ?_⟩
    · rw [persistAll, hmerged]
      exact hitem
    · have hlist : maps ++ countsOf (r :: qs) = maps ++ r.fact.routineObservationCounts.toList ++ countsOf qs := by
        rw [List.append_assoc, countsOf, List.filterMap_cons]
        cases r.fact.routineObservationCounts <;> rfl
      rwa [hlist]

end Persist

section Claim

/-- However some valid maps are merged, repeated and grouped, what is merged, stored or projected is the same map. -/
theorem routine_counts_merge_agrees (g : Grouping) (hvalid : ∀ c ∈ g.maps, countsValid c = true) :
    ∃ m, g.result = .ok m ∧
      (∀ g' : Grouping, (∀ c, c ∈ g'.maps ↔ c ∈ g.maps) → g'.result = .ok m) ∧
      (∀ category, (m.get? category).isSome ↔ ∃ c ∈ g.maps, (c.get? category).isSome) ∧
      (∀ category n, countIn m category = some n ↔ ∀ c ∈ g.maps, countIn c category = some n) ∧
      (∀ gs : List Grouping, gs ≠ [] → (∀ c, c ∈ gs.flatMap Grouping.maps ↔ c ∈ g.maps) →
        mergeAll (gs.filterMap fun g => g.result.toOption) = some m) ∧
      (∀ q qs, Retries q q → (∀ r ∈ qs, Retries q r) → (∀ c, c ∈ countsOf (q :: qs) ↔ c ∈ g.maps) →
        ∃ item, persistAll q.record qs = .ok item ∧ item.event.routineObservationCounts = some m) := by
  obtain ⟨m, hm, htells, -⟩ := g.result_tells hvalid
  refine ⟨m, hm, fun g' hsame => ?_, htells.categories, htells.agreed, fun gs hne hsame => ?_, fun q qs hq hqs hsame => ?_⟩
  · obtain ⟨m', hm', htells', -⟩ := g'.result_tells fun c hc => hvalid c ((hsame c).mp hc)
    rw [hm', htells'.unique htells hsame]
  · have hresults : ∀ gs : List Grouping, (∀ c ∈ gs.flatMap Grouping.maps, countsValid c = true) →
        ∃ groups : List (List Counts × Counts), groups.map Prod.snd = gs.filterMap (fun g => g.result.toOption) ∧
          groups.flatMap Prod.fst = gs.flatMap Grouping.maps ∧ groups.length = gs.length ∧
          ∀ p ∈ groups, Tells p.1 p.2 ∧ countsValid p.2 = true := by
      intro gs
      induction gs with
      | nil => exact fun _ => ⟨[], rfl, rfl, rfl, fun p hp => (nomatch hp)⟩
      | cons g gs ih =>
        intro h
        rw [List.flatMap_cons, List.forall_mem_append] at h
        obtain ⟨r, hr, ht, hv⟩ := g.result_tells h.1
        obtain ⟨groups, hsnd, hfst, hlength, hall⟩ := ih h.2
        refine ⟨(g.maps, r) :: groups, ?_, ?_, ?_, List.forall_mem_cons.mpr ⟨⟨ht, hv⟩, hall⟩⟩
        · rw [List.map_cons, hsnd, List.filterMap_cons, hr]
          rfl
        · rw [List.flatMap_cons, List.flatMap_cons, hfst]
        · rw [List.length_cons, List.length_cons, hlength]
    obtain ⟨groups, hsnd, hfst, hlength, hall⟩ := hresults gs fun c hc => hvalid c ((hsame c).mp hc)
    have hgroups : groups ≠ [] := by
      intro hnil
      rw [hnil] at hlength
      exact hne (List.length_eq_zero_iff.mp hlength.symm)
    obtain ⟨m', hm', htells'⟩ := mergeAll_tells hgroups hall
    rw [← hsnd, hm', htells'.unique htells fun c => by rw [hfst]; exact hsame c]
  · have hfirst : Stored q.fact.routineObservationCounts.toList q.record.event.routineObservationCounts := by
      change Stored _ q.fact.routineObservationCounts
      cases hcounts : q.fact.routineObservationCounts with
      | none => rfl
      | some c => exact ⟨tells_self c, hq.valid c hcounts⟩
    obtain ⟨item, hitem, hstored⟩ := persistAll_stored rfl rfl hfirst hqs
    refine ⟨item, hitem, ?_⟩
    have hlist : q.fact.routineObservationCounts.toList ++ countsOf qs = countsOf (q :: qs) := by
      rw [countsOf, countsOf, List.filterMap_cons]
      cases q.fact.routineObservationCounts <;> rfl
    rw [hlist] at hstored
    cases hcounts : item.event.routineObservationCounts with
    | none =>
      rw [hcounts] at hstored
      obtain ⟨c, hc⟩ : ∃ c, c ∈ g.maps := by
        have hmaps : g.maps ≠ [] := by
          clear hm htells hvalid hsame
          induction g with
          | map c => exact List.cons_ne_nil _ _
          | merge left right ihl ihr => exact fun h => ihl (List.append_eq_nil_iff.mp h).1
        exact List.exists_mem_of_ne_nil _ hmaps
      rw [← hsame, show countsOf (q :: qs) = [] from hstored] at hc
      cases hc
    | some m' =>
      rw [hcounts] at hstored
      rw [hstored.1.unique htells hsame]

def sampleCounts (watch rebound : ℤ) : Counts := ((OrderedMap.empty).insert "watch" (some watch)).insert "taco_rebound" (some rebound)

theorem routine_counts_merge_agrees_sample :
    ∃ m, (Grouping.merge (.map (sampleCounts 2 1)) (.merge (.map (sampleCounts 3 1)) (.map (sampleCounts 2 1)))).result = .ok m ∧
      (Grouping.merge (.map (sampleCounts 3 1)) (.map (sampleCounts 2 1))).result = .ok m ∧
      countIn m "taco_rebound" = some 1 ∧ countIn m "watch" ≠ some 2 := by
  obtain ⟨m, hm, hgroupings, -, hcounts, -⟩ := routine_counts_merge_agrees
    (.merge (.map (sampleCounts 2 1)) (.merge (.map (sampleCounts 3 1)) (.map (sampleCounts 2 1)))) (by decide)
  refine ⟨m, hm, hgroupings _ fun c => by simp [Grouping.maps, or_comm], (hcounts _ _).mpr (by decide), fun hwatch => ?_⟩
  have hthree := (hcounts _ _).mp hwatch (sampleCounts 3 1) (by simp [Grouping.maps])
  exact absurd hthree (by decide)

end Claim

end IbkrPlatform.Notifications.ObservationCounts
