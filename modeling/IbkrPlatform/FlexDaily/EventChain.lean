import Mathlib.Data.List.Dedup
import IbkrPlatform.FlexDaily.Forward

/-! Chains of forward reports of one account, and the events they select. -/

namespace IbkrPlatform.FlexDaily.EventChain

open Forward

variable {r : Readers} {config : Config} {boundary : Instant} {lower cutoff : Option Instant}

section Row

def keyOf (x : Feed × Row) : Key := (x.1, (x.2.get x.1.identityField).getD "")

variable {x : Feed × Row} {p q : Progress}

def told (x : Feed × Row) (t : Instant) (label : Eligibility) : Event := ⟨x.1, x.2.attrib, label, some t⟩

def kept (r : Readers) (x : Feed × Row) (label : Eligibility) (seenEvents : List (Key × String)) :
    List (Key × String) :=
  if label = .selected then (keyOf x, r.fingerprint x.2.attrib) :: seenEvents else seenEvents

lemma classify_clean {fingerprint : String} {e : Event} {t : Instant}
    (hi : (classify boundary lower cutoff fingerprint p e t).issues = []) :
    p.issues = [] ∧ ∃ label, eligibility boundary lower cutoff (p.seenEvents.lookup e.key) t = some label ∧
      classify boundary lower cutoff fingerprint p e t =
        { p.record { e with eligibility := label } with
          seenEvents := if label = .selected then (e.key, fingerprint) :: p.seenEvents else p.seenEvents } := by
  unfold classify at hi ⊢
  extract_lets at hi ⊢
  split_ifs at hi ⊢ with hk
  · simp [Progress.issue] at hi
  · split at hi
    · simp [Progress.issue] at hi
    · rename_i hs
      exact ⟨hi, .selected, hs, rfl⟩
    · rename_i label hl hs
      refine ⟨hi, label, hs, ?_⟩
      rw [if_neg hl]
      rfl

lemma row_clean (h : row r config boundary lower cutoff x.1 p x.2 = some q) (hi : q.issues = []) :
    p.issues = [] ∧ keyOf x ∉ p.seenInReport ∧ ∃ t label, effectiveTime r config x.1 x.2 = .ok t ∧
      eligibility boundary lower cutoff (p.seenEvents.lookup (keyOf x)) t = some label ∧
      q = ⟨p.events ++ [told x t label], kept r x label p.seenEvents, keyOf x :: p.seenInReport, []⟩ := by
  unfold row at h
  extract_lets event at h
  split_ifs at h with hid hseen
  · rw [← Option.some.inj h] at hi
    simp [Progress.issue] at hi
  · rw [← Option.some.inj h] at hi
    simp [Progress.issue] at hi
  unfold observe at h
  extract_lets at h
  split_ifs at h
  · rw [← Option.some.inj h] at hi
    simp [Progress.issue] at hi
  · rw [← Option.some.inj h] at hi
    simp [Progress.issue] at hi
  · rw [← Option.some.inj h] at hi
    simp [Progress.issue] at hi
  split at h
  · cases h
  · rw [← Option.some.inj h] at hi
    simp [Progress.issue] at hi
  · rename_i t ht
    rw [← Option.some.inj h] at hi ⊢
    obtain ⟨hp, label, hl, hq⟩ := classify_clean hi
    refine ⟨hp, hseen, t, label, ht, hl, ?_⟩
    rw [hq]
    simp only [Progress.record, hp]
    rfl

lemma foldRows_issues {xs : List (Feed × Row)}
    (h : foldRows (fun p x => row r config boundary lower cutoff x.1 p x.2) p xs = some q)
    (hi : q.issues = []) : p.issues = [] := by
  induction xs generalizing p with
  | nil => rwa [Option.some.inj h]
  | cons x xs ih =>
    obtain ⟨p', hp, h⟩ := Option.bind_eq_some_iff.mp h
    exact (row_clean hp (ih h)).1

lemma issues_of_sorted {issues : List String} (h : issues.dedup.insertionSort (· ≤ ·) = []) : issues = [] := by
  have hperm := List.perm_insertionSort (· ≤ ·) issues.dedup
  rw [h] at hperm
  exact (List.dedup_eq_nil _).mp hperm.nil_eq.symm

end Row

def seen (keys : List (Key × String)) (key : Key) : Bool := (keys.lookup key).isSome

def Within (boundary : Instant) (lower cutoff effective : Option Instant) : Prop :=
  ∃ lo hi t, lower = some lo ∧ cutoff = some hi ∧ effective = some t ∧ lo < t ∧ t ≤ hi ∧ boundary ≤ t

lemma seen_cons {keys : List (Key × String)} {key k : Key} {fingerprint : String} :
    seen ((k, fingerprint) :: keys) key = (decide (key = k) || seen keys key) := by
  by_cases hk : key = k
  · simp [seen, hk]
  · have hb : (key == k) = false := by simpa using hk
    simp [seen, List.lookup_cons, hb, hk]

structure Sound (boundary : Instant) (lower cutoff : Option Instant) (before : List (Key × String))
    (p : Progress) : Prop where
  keeps : ∀ key, seen before key → seen p.seenEvents key
  selected : ∀ e ∈ p.events, e.eligibility = .selected →
    seen before e.key = false ∧ seen p.seenEvents e.key ∧ Within boundary lower cutoff e.effectiveUtc

variable {before : List (Key × String)} {p q : Progress}

lemma Sound.record (h : Sound boundary lower cutoff before p) {e : Event} (he : e.eligibility ≠ .selected)
    {issues : List String} : Sound boundary lower cutoff before { p.record e with issues := issues } := by
  refine ⟨h.keeps, fun f hf hs => ?_⟩
  rcases List.mem_append.mp hf with hf | hf
  · exact h.selected f hf hs
  · rw [List.mem_singleton.mp hf] at hs
    exact absurd hs he

lemma Sound.withdraw (h : Sound boundary lower cutoff before p) (key : Key) :
    Sound boundary lower cutoff before (p.withdraw key) := by
  refine ⟨h.keeps, fun f hf hs => ?_⟩
  obtain ⟨e, he, rfl⟩ := List.mem_map.mp hf
  by_cases hk : e.key = key
  · simp [hk] at hs
  · simp only [hk, if_false] at hs ⊢
    exact h.selected e he hs

lemma Sound.select (h : Sound boundary lower cutoff before p) {e : Event} {fingerprint : String}
    (hn : p.seenEvents.lookup e.key = none) (hw : Within boundary lower cutoff e.effectiveUtc) :
    Sound boundary lower cutoff before
      { p.record e with seenEvents := (e.key, fingerprint) :: p.seenEvents } := by
  have hold : ∀ key, seen p.seenEvents key → seen ((e.key, fingerprint) :: p.seenEvents) key := by
    intro key hk
    rw [seen_cons, hk, Bool.or_true]
  have hfresh : seen before e.key = false := by
    by_contra hb
    have := h.keeps e.key (by simpa using hb)
    simp [seen, hn] at this
  refine ⟨fun key hk => hold key (h.keeps key hk), fun f hf hs => ?_⟩
  rcases List.mem_append.mp hf with hf | hf
  · obtain ⟨hb, hp, hi⟩ := h.selected f hf hs
    exact ⟨hb, hold _ hp, hi⟩
  · rw [List.mem_singleton.mp hf]
    exact ⟨hfresh, by simp [seen_cons], hw⟩

lemma eligibility_selected {known : Option String} {effective : Instant}
    (h : eligibility boundary lower cutoff known effective = some .selected) :
    known = none ∧ Within boundary lower cutoff (some effective) := by
  unfold eligibility at h
  by_cases hb : effective < boundary
  · simp [hb] at h
  rw [if_neg hb] at h
  cases lower with
  | none => cases h
  | some lo =>
    cases cutoff with
    | none => cases h
    | some hi =>
      by_cases hl : effective ≤ lo
      · simp [hl] at h
      by_cases hc : hi < effective
      · simp [hl, hc] at h
      by_cases hk : known.isSome
      · simp [hl, hc, hk] at h
      exact ⟨by simpa using hk, lo, hi, effective, rfl, rfl, rfl, not_le.mp hl, not_lt.mp hc, not_lt.mp hb⟩

lemma classify_sound {fingerprint : String} {e : Event} {effective : Instant}
    (h : Sound boundary lower cutoff before p) (he : e.eligibility = .unknown)
    (ht : e.effectiveUtc = some effective) :
    Sound boundary lower cutoff before (classify boundary lower cutoff fingerprint p e effective) := by
  unfold classify
  extract_lets known
  split_ifs with hk
  · exact h.record (by simp [he])
  · split
    · exact h.record (by simp [he])
    · rename_i hs
      obtain ⟨hn, hw⟩ := eligibility_selected hs
      exact h.select hn (ht ▸ hw)
    · rename_i hne _
      exact h.record hne

lemma observe_sound {feed : Feed} {x : Row} (h : Sound boundary lower cutoff before p)
    (hq : observe r config boundary lower cutoff feed p x = some q) :
    Sound boundary lower cutoff before q := by
  unfold observe at hq
  split_ifs at hq
  · exact Option.some.inj hq ▸ h.record (by simp)
  · exact Option.some.inj hq ▸ h.record (by simp)
  · exact Option.some.inj hq ▸ h.record (by simp)
  split at hq
  · cases hq
  · exact Option.some.inj hq ▸ h.record (by simp)
  · exact Option.some.inj hq ▸ classify_sound h rfl rfl

lemma row_sound {feed : Feed} {x : Row} (h : Sound boundary lower cutoff before p)
    (hq : row r config boundary lower cutoff feed p x = some q) : Sound boundary lower cutoff before q := by
  unfold row at hq
  extract_lets event at hq
  split_ifs at hq
  · exact Option.some.inj hq ▸ h.record (by simp [event])
  · exact Option.some.inj hq ▸ (h.withdraw _).record (by simp [event])
  · have hs : Sound boundary lower cutoff before { p with seenInReport := event.key :: p.seenInReport } :=
      ⟨h.keeps, h.selected⟩
    exact observe_sound hs hq

lemma foldRows_sound {xs : List (Feed × Row)} (h : Sound boundary lower cutoff before p)
    (hq : foldRows (fun p x => row r config boundary lower cutoff x.1 p x.2) p xs = some q) :
    Sound boundary lower cutoff before q := by
  induction xs generalizing p with
  | nil => exact Option.some.inj hq ▸ h
  | cons x xs ih =>
    obtain ⟨p', hp, hq⟩ := Option.bind_eq_some_iff.mp hq
    exact ih (row_sound h hp) hq

structure Submission where
  sourceSha256 : String
  checked : Checked
  captureStart : Instant
  captureEnd : Instant
  statement : Statement

variable {accountId : String} {anchor : Option Evidence} {ev : Evidence}

def Submission.qualify (r : Readers) (config : Config) (boundary : Instant) (accountId : String)
    (anchor : Option Evidence) (x : Submission) : Option Evidence :=
  qualifyStatement r config boundary x.sourceSha256 x.checked anchor x.captureStart x.captureEnd accountId
    x.statement

def selects (ev : Evidence) (key : Key) : Prop := ∃ e ∈ ev.events, e.eligibility = .selected ∧ e.key = key

def anchorSeen (anchor : Option Evidence) : List (Key × String) := (anchor.map Evidence.seenEvents).getD []

lemma assemble_sound {sha : String} {checked : Checked} {captureStart captureEnd : Instant}
    {statement : Statement} {asOf : Option SourceAsOf}
    (h : assemble r config boundary sha checked anchor captureStart captureEnd accountId statement asOf = some ev) :
    ev.accountId = accountId ∧ Sound boundary ev.previousActualCutoff ev.cutoff (anchorSeen anchor)
      ⟨ev.events, ev.seenEvents, [], []⟩ := by
  obtain ⟨q, hq, rfl⟩ := Option.map_eq_some_iff.mp h
  have hs : Sound boundary (openingAnchor boundary (asOf.map SourceAsOf.utc) anchor).1
      (asOf.map SourceAsOf.utc) (anchorSeen anchor) q := foldRows_sound ⟨fun _ hk => hk, by simp⟩ hq
  exact ⟨rfl, hs.keeps, hs.selected⟩

lemma qualify_sound {x : Submission} (h : x.qualify r config boundary accountId anchor = some ev) :
    ev.accountId = accountId ∧ Sound boundary ev.previousActualCutoff ev.cutoff
      (anchorSeen (anchor.filter fun a => a.accountId = accountId)) ⟨ev.events, ev.seenEvents, [], []⟩ := by
  unfold Submission.qualify qualifyStatement at h
  split at h
  · cases h
  · exact assemble_sound h
  · exact assemble_sound h

def chain (r : Readers) (config : Config) (boundary : Instant) (accountId : String) :
    Option Evidence → List Submission → Option (List Evidence)
  | _, [] => some []
  | anchor, x :: xs =>
    (x.qualify r config boundary accountId anchor).bind fun ev =>
      (chain r config boundary accountId (if ev.anchorQualified then some ev else anchor) xs).map (ev :: ·)

def ofAccount (accountId : String) (anchor : Option Evidence) : Prop :=
  ∀ a, anchor = some a → a.accountId = accountId

lemma qualify_after {x : Submission} (ha : ofAccount accountId anchor)
    (h : x.qualify r config boundary accountId anchor = some ev) :
    ev.accountId = accountId ∧ Sound boundary ev.previousActualCutoff ev.cutoff (anchorSeen anchor)
      ⟨ev.events, ev.seenEvents, [], []⟩ := by
  have hf : anchor.filter (fun a => a.accountId = accountId) = anchor := by
    cases anchor with
    | none => rfl
    | some a => simp [ha a rfl]
  simpa only [hf] using qualify_sound h

lemma next_anchor {x : Submission} (ha : ofAccount accountId anchor)
    (h : x.qualify r config boundary accountId anchor = some ev) :
    ofAccount accountId (if ev.anchorQualified then some ev else anchor) ∧
      ∀ key, seen (anchorSeen anchor) key →
        seen (anchorSeen (if ev.anchorQualified then some ev else anchor)) key := by
  obtain ⟨hid, hs⟩ := qualify_after ha h
  split_ifs
  · exact ⟨fun a he => Option.some.inj he ▸ hid, hs.keeps⟩
  · exact ⟨ha, fun _ hk => hk⟩

lemma chain_unseen {xs : List Submission} {evs : List Evidence} (ha : ofAccount accountId anchor)
    (h : chain r config boundary accountId anchor xs = some evs) :
    ∀ ev ∈ evs, ∀ key, selects ev key → seen (anchorSeen anchor) key = false := by
  induction xs generalizing anchor evs with
  | nil => simp [← Option.some.inj h]
  | cons x xs ih =>
    obtain ⟨ev, hev, h⟩ := Option.bind_eq_some_iff.mp h
    obtain ⟨rest, hrest, rfl⟩ := Option.map_eq_some_iff.mp h
    obtain ⟨hnext, hkeeps⟩ := next_anchor ha hev
    rintro ev' hmem key ⟨e, he, hsel, rfl⟩
    rcases List.mem_cons.mp hmem with rfl | hmem
    · exact ((qualify_after ha hev).2.selected e he hsel).1
    · by_contra hseen
      have hlater := ih hnext hrest ev' hmem e.key ⟨e, he, hsel, rfl⟩
      rw [hkeeps e.key (by simpa using hseen)] at hlater
      cases hlater

lemma chain_interval {xs : List Submission} {evs : List Evidence} (ha : ofAccount accountId anchor)
    (h : chain r config boundary accountId anchor xs = some evs) :
    ∀ ev ∈ evs, ∀ e ∈ ev.events, e.eligibility = .selected →
      Within boundary ev.previousActualCutoff ev.cutoff e.effectiveUtc := by
  induction xs generalizing anchor evs with
  | nil => simp [← Option.some.inj h]
  | cons x xs ih =>
    obtain ⟨ev, hev, h⟩ := Option.bind_eq_some_iff.mp h
    obtain ⟨rest, hrest, rfl⟩ := Option.map_eq_some_iff.mp h
    intro ev' hmem e he hsel
    rcases List.mem_cons.mp hmem with rfl | hmem
    · exact ((qualify_after ha hev).2.selected e he hsel).2.2
    · exact ih (next_anchor ha hev).1 hrest ev' hmem e he hsel

lemma chain_once {xs : List Submission} {evs : List Evidence} (ha : ofAccount accountId anchor)
    (h : chain r config boundary accountId anchor xs = some evs) :
    evs.Pairwise fun ev later => ev.anchorQualified = true → ∀ key, selects ev key → ¬ selects later key := by
  induction xs generalizing anchor evs with
  | nil => simp [← Option.some.inj h]
  | cons x xs ih =>
    obtain ⟨ev, hev, h⟩ := Option.bind_eq_some_iff.mp h
    obtain ⟨rest, hrest, rfl⟩ := Option.map_eq_some_iff.mp h
    have hnext := (next_anchor ha hev).1
    refine List.pairwise_cons.mpr ⟨fun later hlater hq key hsel hagain => ?_, ih hnext hrest⟩
    obtain ⟨e, he, hs, rfl⟩ := hsel
    have hseen := ((qualify_after ha hev).2.selected e he hs).2.1
    have hunseen := chain_unseen hnext hrest later hlater e.key hagain
    simp only [hq, if_true, anchorSeen, Option.map_some, Option.getD_some] at hunseen
    simp [hseen] at hunseen

theorem anchored_selection_once (r : Readers) (config : Config) (boundary : Instant) (accountId : String)
    (reports : List Submission) (evs : List Evidence)
    (h : chain r config boundary accountId none reports = some evs) :
    (evs.Pairwise fun ev later =>
      ev.anchorQualified = true → ∀ key, selects ev key → ¬ selects later key) ∧
    ∀ ev ∈ evs, ∀ e ∈ ev.events, e.eligibility = .selected →
      ∃ lower asOf effective, ev.previousActualCutoff = some lower ∧ ev.sourceAsOf = some asOf ∧
        e.effectiveUtc = some effective ∧ lower < effective ∧ effective ≤ asOf.utc ∧ boundary ≤ effective := by
  refine ⟨chain_once (by simp [ofAccount]) h, fun ev hev e he hs => ?_⟩
  obtain ⟨lo, hi, t, hl, hc, ht, hlt, hle, hb⟩ := chain_interval (by simp [ofAccount]) h ev hev e he hs
  obtain ⟨asOf, ha, rfl⟩ := Option.map_eq_some_iff.mp hc
  exact ⟨lo, asOf, t, hl, ha, ht, hlt, hle, hb⟩

section Reselection

def noon (day : Day) : Instant := day * Calendar.hours 24 + Calendar.hours 12

def readers₀ : Readers where
  fromisoformat text :=
    (["2026-11-03T12:00Z", "2026-11-04T12:00Z", "2026-11-05T12:00Z", "2026-11-06T12:00Z"].zip
      [20760, 20761, 20762, 20763]).lookup text |>.map fun day => ⟨noon day, some 0⟩
  zoneInfo name := if name = "UTC" then some ⟨fun _ => 0⟩ else none
  strptimeDay text :=
    (["20261103", "20261104", "20261105", "20261106"].zip [20760, 20761, 20762, 20763]).lookup text
  fingerprint _ := "f"

def config₀ : Config :=
  ⟨some "none", some 1, "1", [("U1", "account-1")], "2026-11-03", "zone", "asOf",
    fun feed => if feed = .trades then some "when" else none⟩

def trade₀ : Row :=
  ⟨"Trade", [("tradeID", "7"), ("currency", "USD"), ("conid", "9"), ("assetCategory", "STK"), ("quantity", "1"),
    ("when", "2026-11-05T12:00Z")]⟩

def report₀ (day asOf : String) (children : List (String × List Row)) : Submission :=
  ⟨day, ⟨.complete, [], .partial_⟩, 0, noon 20770,
    ⟨[("accountId", "U1"), ("zone", "UTC"), ("asOf", asOf), ("toDate", day)], children⟩⟩

def reports₀ : List Submission :=
  [report₀ "20261104" "2026-11-04T12:00Z" [],
    report₀ "20261105" "2026-11-05T12:00Z"
      [("OpenPositions", [⟨"OpenPosition", [("assetCategory", "OPT")]⟩]), ("Trades", [trade₀])],
    report₀ "20261106" "2026-11-06T12:00Z" [("Trades", [trade₀])]]

def outcome (ev : Evidence) : Bool × List (Key × Eligibility) :=
  (ev.anchorQualified, ev.events.map fun e => (e.key, e.eligibility))

lemma reports₀_outcome : (chain readers₀ config₀ 0 "U1" none reports₀).map (List.map outcome) =
    some [(true, []), (false, [((.trades, "7"), .selected)]), (true, [((.trades, "7"), .selected)])] := by
  decide

lemma selects_of_outcome {ev : Evidence} {key : Key} (h : (key, Eligibility.selected) ∈ (outcome ev).2) :
    selects ev key := by
  obtain ⟨e, he, hk⟩ := List.mem_map.mp h
  obtain ⟨rfl, hs⟩ := Prod.mk.injEq _ _ _ _ ▸ hk
  exact ⟨e, he, hs, rfl⟩

theorem unanchored_selection_repeats : ¬ ∀ evs, chain readers₀ config₀ 0 "U1" none reports₀ = some evs →
    evs.Pairwise fun ev later => ∀ key, selects ev key → ¬ selects later key := by
  intro h
  obtain ⟨evs, he, hm⟩ := Option.map_eq_some_iff.mp reports₀_outcome
  have hp := h evs he
  obtain ⟨_, rest, rfl, _, hm⟩ := List.map_eq_cons_iff.mp hm
  obtain ⟨ev, rest, rfl, hev, hm⟩ := List.map_eq_cons_iff.mp hm
  obtain ⟨later, _, rfl, hlater, _⟩ := List.map_eq_cons_iff.mp hm
  have hfirst : selects ev (.trades, "7") := selects_of_outcome (by simp [hev])
  have hagain : selects later (.trades, "7") := selects_of_outcome (by simp [hlater])
  simp only [List.pairwise_cons, List.mem_cons] at hp
  exact hp.2.1 later (Or.inl rfl) _ hfirst hagain

def anchored₀ : List Submission := [reports₀[0], reports₀[2], reports₀[2]]

lemma anchored₀_accepted : (chain readers₀ config₀ 0 "U1" none anchored₀).isSome := by
  decide

def evidences₀ : List Evidence := (chain readers₀ config₀ 0 "U1" none anchored₀).get anchored₀_accepted

lemma chain_anchored₀ : chain readers₀ config₀ 0 "U1" none anchored₀ = some evidences₀ :=
  (Option.some_get anchored₀_accepted).symm

theorem anchored_selection_once_evidences₀ :
    (evidences₀.map fun ev => (outcome ev).2.length) = [0, 1, 1] ∧
      evidences₀.Pairwise fun ev later =>
        ev.anchorQualified = true → ∀ key, selects ev key → ¬ selects later key := by
  constructor
  · decide
  · exact (anchored_selection_once readers₀ config₀ 0 "U1" anchored₀ evidences₀ chain_anchored₀).1

end Reselection

end IbkrPlatform.FlexDaily.EventChain
