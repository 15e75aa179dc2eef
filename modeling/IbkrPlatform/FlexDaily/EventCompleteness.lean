import IbkrPlatform.FlexDaily.EventChain

/-! The events that a chain of forward reports without issues selects, and those that it passes over. -/

namespace IbkrPlatform.FlexDaily.EventCompleteness

open Calendar Forward EventChain

variable {r : Readers} {config : Config} {boundary : Instant} {lower cutoff : Option Instant}
variable {before : List (Key × String)} {p q : Progress}

def choosesIn (key : Key) (events : List Event) : Bool :=
  events.any fun e => e.eligibility = .selected ∧ e.key = key

def chooses (key : Key) (ev : Evidence) : Bool := choosesIn key ev.events

def covers (t : Instant) (ev : Evidence) : Bool :=
  match ev.previousActualCutoff, ev.cutoff with
  | some lower, some cutoff => lower < t ∧ t ≤ cutoff
  | _, _ => false

section Report

variable {rows : List (Feed × Row)}

def Labelled (r : Readers) (config : Config) (boundary : Instant) (lower cutoff : Option Instant)
    (before : List (Key × String)) (x : Feed × Row) (t : Instant) (label : Eligibility) : Prop :=
  effectiveTime r config x.1 x.2 = .ok t ∧
    eligibility boundary lower cutoff (before.lookup (keyOf x)) t = some label

structure Clean (r : Readers) (config : Config) (boundary : Instant) (lower cutoff : Option Instant)
    (before : List (Key × String)) (rows : List (Feed × Row)) (p : Progress) : Prop where
  row_told : ∀ x ∈ rows, ∃ t label, Labelled r config boundary lower cutoff before x t label ∧
    told x t label ∈ p.events
  told_row : ∀ e ∈ p.events, ∃ x ∈ rows, ∃ t label,
    Labelled r config boundary lower cutoff before x t label ∧ e = told x t label
  keys : p.seenInReport = (rows.map keyOf).reverse
  nodup : (rows.map keyOf).Nodup
  fresh : ∀ key ∉ rows.map keyOf, p.seenEvents.lookup key = before.lookup key
  sees : ∀ key, seen p.seenEvents key = (seen before key || choosesIn key p.events)

lemma lookup_kept {x : Feed × Row} {label : Eligibility} {key : Key} {seenEvents : List (Key × String)}
    (hk : key ≠ keyOf x) : (kept r x label seenEvents).lookup key = seenEvents.lookup key := by
  have hb : (key == keyOf x) = false := by simpa using hk
  unfold kept
  split_ifs
  · simp [List.lookup_cons, hb]
  · rfl

lemma seen_kept {x : Feed × Row} {t : Instant} {label : Eligibility} {key : Key}
    {seenEvents : List (Key × String)} : seen (kept r x label seenEvents) key =
      (seen seenEvents key || choosesIn key [told x t label]) := by
  have hkey : (told x t label).key = keyOf x := rfl
  have hlabel : (told x t label).eligibility = label := rfl
  unfold kept
  split_ifs with hl
  · rw [seen_cons, Bool.or_comm]
    by_cases hk : key = keyOf x
    · simp [choosesIn, hkey, hlabel.trans hl, hk]
    · simp [choosesIn, hkey, hk, Ne.symm hk]
  · simp [choosesIn, hlabel, hl]

lemma Clean.row {x : Feed × Row} (hc : Clean r config boundary lower cutoff before rows p)
    (h : row r config boundary lower cutoff x.1 p x.2 = some q) (hi : q.issues = []) :
    Clean r config boundary lower cutoff before (rows ++ [x]) q := by
  obtain ⟨-, hfresh, t, label, ht, hl, rfl⟩ := row_clean h hi
  have hnew : keyOf x ∉ rows.map keyOf := by simpa [hc.keys] using hfresh
  rw [hc.fresh _ hnew] at hl
  refine ⟨fun y hy => ?_, fun e he => ?_, ?_, ?_, fun key hk => ?_, fun key => ?_⟩
  · rcases List.mem_append.mp hy with hy | hy
    · obtain ⟨t', label', hlabel, hmem⟩ := hc.row_told y hy
      exact ⟨t', label', hlabel, List.mem_append_left _ hmem⟩
    · rw [List.mem_singleton.mp hy]
      exact ⟨t, label, ⟨ht, hl⟩, by simp⟩
  · rcases List.mem_append.mp he with he | he
    · obtain ⟨y, hy, hlabel⟩ := hc.told_row e he
      exact ⟨y, List.mem_append_left _ hy, hlabel⟩
    · exact ⟨x, by simp, t, label, ⟨ht, hl⟩, List.mem_singleton.mp he⟩
  · simp [hc.keys]
  · rw [List.map_append]
    exact hc.nodup.append (List.nodup_singleton _) (by simpa using hnew)
  · simp only [List.map_append, List.map_cons, List.map_nil, List.mem_append, List.mem_singleton, not_or] at hk
    rw [lookup_kept hk.2, hc.fresh key hk.1]
  · rw [seen_kept (t := t), hc.sees key, Bool.or_assoc]
    simp [choosesIn]

lemma Clean.foldRows {xs : List (Feed × Row)} (hc : Clean r config boundary lower cutoff before rows p)
    (h : foldRows (fun p x => Forward.row r config boundary lower cutoff x.1 p x.2) p xs = some q)
    (hi : q.issues = []) : Clean r config boundary lower cutoff before (rows ++ xs) q := by
  induction xs generalizing rows p with
  | nil => simpa [← Option.some.inj h] using hc
  | cons x xs ih =>
    obtain ⟨p', hp, h⟩ := Option.bind_eq_some_iff.mp h
    simpa using ih (hc.row hp (foldRows_issues h hi)) h

lemma eligibility_iff {lo hi t : Instant} {known : Option String} (hb : boundary ≤ lo) :
    eligibility boundary (some lo) (some hi) known t = some .selected ↔ known = none ∧ lo < t ∧ t ≤ hi := by
  constructor
  · intro h
    obtain ⟨hn, _, _, _, hlo, hhi, ht, hl, hc, -⟩ := eligibility_selected h
    cases hlo
    cases hhi
    cases ht
    exact ⟨hn, hl, hc⟩
  · rintro ⟨rfl, hl, hc⟩
    unfold eligibility
    rw [if_neg (not_lt.mpr (hb.trans hl.le))]
    simp [not_le.mpr hl, not_lt.mpr hc]

lemma eligibility_outside {lo hi t : Instant} {known : Option String} (hb : boundary ≤ t)
    (hout : ¬ (lo < t ∧ t ≤ hi)) : eligibility boundary (some lo) (some hi) known t =
      some (if t ≤ lo then .excludedBeforeOrAtPrevious else .excludedAfterCurrent) := by
  unfold eligibility
  rw [if_neg (not_lt.mpr hb)]
  by_cases hle : t ≤ lo
  · simp [hle]
  · have hgt : hi < t := not_le.mp fun hc => hout ⟨not_le.mp hle, hc⟩
    simp [hle, hgt]

lemma Clean.chooses_iff {lo hi : Instant} (hb : boundary ≤ lo)
    (hc : Clean r config boundary (some lo) (some hi) before rows p) {key : Key} :
    choosesIn key p.events = true ↔ seen before key = false ∧
      ∃ x ∈ rows, keyOf x = key ∧ ∃ t, effectiveTime r config x.1 x.2 = .ok t ∧ lo < t ∧ t ≤ hi := by
  simp only [choosesIn, List.any_eq_true, decide_eq_true_eq]
  constructor
  · rintro ⟨e, he, hs, rfl⟩
    obtain ⟨x, hx, t, label, ⟨ht, hl⟩, rfl⟩ := hc.told_row e he
    obtain rfl : label = .selected := hs
    obtain ⟨hn, hw⟩ := (eligibility_iff hb).mp hl
    have hseen : seen before (keyOf x) = false := by simp only [seen, hn, Option.isSome_none]
    exact ⟨hseen, x, hx, rfl, t, ht, hw⟩
  · rintro ⟨hseen, x, hx, rfl, t, ht, hw⟩
    obtain ⟨t', label, ⟨ht', hl⟩, hmem⟩ := hc.row_told x hx
    obtain rfl : t = t' := by simpa [ht] using ht'
    have hn : before.lookup (keyOf x) = none := by simpa [seen] using hseen
    rw [(eligibility_iff hb).mpr ⟨hn, hw⟩] at hl
    exact ⟨_, hmem, (Option.some.inj hl).symm, rfl⟩

variable {accountId : String} {opening ev : Evidence}

lemma openingAnchor_clean {prior : Option Evidence} (h : (openingAnchor boundary cutoff prior).2 = []) :
    ∃ a lo hi, prior = some a ∧ a.cutoff = some lo ∧ cutoff = some hi ∧ boundary ≤ lo ∧ lo < hi ∧
      (openingAnchor boundary cutoff prior).1 = some lo := by
  unfold openingAnchor at h ⊢
  cases prior with
  | none => cases h
  | some a =>
    by_cases hq : a.anchorQualified = true
    swap
    · simp [hq] at h
    simp only [hq, if_true] at h ⊢
    cases hs : a.sourceAsOf with
    | none => simp [hs] at h
    | some asOf =>
      cases cutoff with
      | none => simp [hs] at h
      | some hi =>
        by_cases ho : asOf.utc < boundary ∨ hi ≤ asOf.utc
        · simp [hs, ho] at h
        rw [not_or, not_lt, not_le] at ho
        refine ⟨a, asOf.utc, hi, rfl, by simp [Evidence.cutoff, hs], rfl, ho.1, ho.2, ?_⟩
        simp [not_lt.mpr ho.1, not_le.mpr ho.2]

/-- A report without issues, after the anchor `opening`: its interval starts at the cutoff of the anchor. -/
structure Covered (r : Readers) (config : Config) (boundary : Instant) (opening : Evidence) (x : Submission)
    (ev : Evidence) (lo hi : Instant) : Prop where
  opening_cutoff : opening.cutoff = some lo
  lower : ev.previousActualCutoff = some lo
  cutoff : ev.cutoff = some hi
  boundary_le : boundary ≤ lo
  lt : lo < hi
  clean : ∃ p : Progress, p.events = ev.events ∧ p.seenEvents = ev.seenEvents ∧
    Clean r config boundary (some lo) (some hi) opening.seenEvents (feedRows x.statement) p

lemma assemble_covered {x : Submission} {asOf : Option SourceAsOf}
    (h : assemble r config boundary x.sourceSha256 x.checked (some opening) x.captureStart x.captureEnd accountId
      x.statement asOf = some ev) (hi : ev.issues = []) :
    ∃ lo hi, Covered r config boundary opening x ev lo hi := by
  obtain ⟨q, hq, rfl⟩ := Option.map_eq_some_iff.mp h
  have hiq : q.issues = [] := issues_of_sorted hi
  have hstart := foldRows_issues hq hiq
  obtain ⟨a, lo, hi, ha, hlo, hhi, hb, hlt, hl⟩ := openingAnchor_clean (List.append_eq_nil_iff.mp hstart).2
  cases ha
  rw [hl, hhi] at hq
  have hinit : ∀ issues, Clean r config boundary (some lo) (some hi) opening.seenEvents []
      ⟨[], opening.seenEvents, [], issues⟩ :=
    fun _ => ⟨by simp, by simp, rfl, by simp, by simp, by simp [choosesIn]⟩
  exact ⟨lo, hi, hlo, hl, hhi, hb, hlt, q, rfl, rfl, (hinit _).foldRows hq hiq⟩

lemma qualify_covered {x : Submission} (ho : opening.accountId = accountId)
    (h : x.qualify r config boundary accountId (some opening) = some ev) (hi : ev.issues = []) :
    ∃ lo hi, Covered r config boundary opening x ev lo hi := by
  unfold Submission.qualify qualifyStatement at h
  simp only [Option.filter, ho, decide_true, if_true] at h
  split at h
  · cases h
  · exact assemble_covered h hi
  · exact assemble_covered h hi

end Report

section Chain

variable {accountId : String} {opening ev : Evidence} {reports : List Submission} {evs : List Evidence}

def PostedIn (r : Readers) (config : Config) (key : Key) (x : Submission) (ev : Evidence) : Prop :=
  ∃ row ∈ feedRows x.statement, keyOf row = key ∧
    ∃ t, effectiveTime r config row.1 row.2 = .ok t ∧ covers t ev = true

def PostedInTime (r : Readers) (config : Config) (reports : List Submission) (evs : List Evidence)
    (key : Key) : Prop :=
  ∃ x ev, (x, ev) ∈ reports.zip evs ∧ PostedIn r config key x ev

section Covered

variable {x : Submission} {lo hi : Instant} (hc : Covered r config boundary opening x ev lo hi)
include hc

lemma Covered.covers_iff {t : Instant} : covers t ev = true ↔ lo < t ∧ t ≤ hi := by
  simp [covers, hc.lower, hc.cutoff]

lemma Covered.chooses_iff {key : Key} :
    chooses key ev = true ↔ seen opening.seenEvents key = false ∧ PostedIn r config key x ev := by
  obtain ⟨p, hp, -, hclean⟩ := hc.clean
  simp only [chooses, ← hp, hclean.chooses_iff hc.boundary_le, PostedIn, hc.covers_iff]

lemma Covered.sees (key : Key) :
    seen ev.seenEvents key = (seen opening.seenEvents key || chooses key ev) := by
  obtain ⟨p, hp, hs, hclean⟩ := hc.clean
  simpa only [chooses, hp, hs] using hclean.sees key

end Covered

inductive Links (r : Readers) (config : Config) (boundary : Instant) :
    Evidence → List Submission → List Evidence → Prop
  | nil (opening : Evidence) : Links r config boundary opening [] []
  | cons {opening ev : Evidence} {x : Submission} {lo hi : Instant} {reports : List Submission}
      {evs : List Evidence} (head : Covered r config boundary opening x ev lo hi)
      (tail : Links r config boundary ev reports evs) :
      Links r config boundary opening (x :: reports) (ev :: evs)

lemma chain_links (ho : opening.accountId = accountId)
    (h : chain r config boundary accountId (some opening) reports = some evs)
    (hc : ∀ ev ∈ evs, ev.anchorQualified = true ∧ ev.issues = []) :
    Links r config boundary opening reports evs := by
  induction reports generalizing opening evs with
  | nil => exact Option.some.inj h ▸ .nil opening
  | cons x xs ih =>
    obtain ⟨ev, hev, h⟩ := Option.bind_eq_some_iff.mp h
    obtain ⟨rest, hrest, rfl⟩ := Option.map_eq_some_iff.mp h
    obtain ⟨hq, hi⟩ := hc ev List.mem_cons_self
    obtain ⟨lo, hi, hcov⟩ := qualify_covered ho hev hi
    have hid : ev.accountId = accountId :=
      (qualify_after (fun a ha => Option.some.inj ha ▸ ho) hev).1
    rw [if_pos hq] at hrest
    exact .cons hcov (ih hid hrest fun e he => hc e (List.mem_cons_of_mem _ he))

lemma Links.none_before (h : Links r config boundary opening reports evs) {first t : Instant}
    (hf : opening.cutoff = some first) (ht : t ≤ first) : evs.countP (covers t) = 0 := by
  induction h generalizing first with
  | nil => rfl
  | cons head tail ih =>
    have hfirst := Option.some.inj (hf.symm.trans head.opening_cutoff)
    rw [List.countP_cons, ih head.cutoff (ht.trans (hfirst ▸ head.lt.le)), if_neg]
    rw [head.covers_iff]
    exact fun hw => absurd ht (not_le.mpr (hfirst ▸ hw.1))

lemma Links.tile (h : Links r config boundary opening reports evs) {first last t : Instant}
    (hf : opening.cutoff = some first) (hl : (evs.getLast?.bind Evidence.cutoff) = some last) (hlo : first < t)
    (hhi : t ≤ last) : evs.countP (covers t) = 1 := by
  induction h generalizing first with
  | nil => cases hl
  | @cons opening ev x lo hi reports evs head tail ih =>
    obtain rfl := Option.some.inj (hf.symm.trans head.opening_cutoff)
    rw [List.countP_cons]
    by_cases ht : t ≤ hi
    · rw [tail.none_before head.cutoff ht, if_pos (head.covers_iff.mpr ⟨hlo, ht⟩)]
    · rw [if_neg fun hw => ht (head.covers_iff.mp hw).2]
      cases evs with
      | nil =>
        rw [List.getLast?_singleton, Option.bind_some, head.cutoff] at hl
        exact absurd (Option.some.inj hl ▸ hhi) ht
      | cons ev' evs => exact ih head.cutoff (by simpa using hl) (not_le.mp ht)

lemma Links.none_seen (h : Links r config boundary opening reports evs) {key : Key}
    (hs : seen opening.seenEvents key = true) : evs.countP (chooses key) = 0 := by
  induction h with
  | nil => rfl
  | cons head tail ih =>
    rw [List.countP_cons, ih (by rw [head.sees, hs, Bool.true_or]), if_neg]
    rw [head.chooses_iff, hs]
    exact fun hn => nomatch hn.1

lemma Covered.passed {x : Submission} {lo hi t : Instant} {row : Feed × Row}
    (hc : Covered r config boundary opening x ev lo hi) (hrow : row ∈ feedRows x.statement)
    (ht : effectiveTime r config row.1 row.2 = .ok t) (hm : covers t ev = false) (hb : boundary ≤ t) :
    chooses (keyOf row) ev = false ∧
      told row t (if t ≤ lo then .excludedBeforeOrAtPrevious else .excludedAfterCurrent) ∈ ev.events := by
  obtain ⟨p, hp, -, hclean⟩ := hc.clean
  have hout : ¬ (lo < t ∧ t ≤ hi) := fun hw => by simp [hc.covers_iff.mpr hw] at hm
  constructor
  · by_contra hsel
    obtain ⟨-, row', hrow', hkey, t', ht', hw⟩ := hc.chooses_iff.mp (by simpa using hsel)
    obtain rfl := List.inj_on_of_nodup_map hclean.nodup hrow' hrow hkey
    obtain rfl : t' = t := by simpa [ht] using ht'.symm
    exact hout (hc.covers_iff.mp hw)
  · obtain ⟨t', label, ⟨ht', hl⟩, hmem⟩ := hclean.row_told row hrow
    obtain rfl : t' = t := by simpa [ht] using ht'.symm
    rw [eligibility_outside hb hout] at hl
    rwa [← hp, Option.some.inj hl]

lemma Links.covered (h : Links r config boundary opening reports evs) {first : Instant}
    (hf : opening.cutoff = some first) {x : Submission} (hx : (x, ev) ∈ reports.zip evs) :
    ∃ anchor lo hi, Covered r config boundary anchor x ev lo hi ∧ boundary ≤ first := by
  induction h generalizing first with
  | nil => cases hx
  | cons head tail ih =>
    have hfirst := Option.some.inj (hf.symm.trans head.opening_cutoff)
    rcases List.mem_cons.mp hx with hx | hx
    · obtain ⟨rfl, rfl⟩ := Prod.mk.injEq .. ▸ hx
      exact ⟨_, _, _, head, hfirst ▸ head.boundary_le⟩
    · obtain ⟨anchor, lo, hi, hc, -⟩ := ih head.cutoff hx
      exact ⟨anchor, lo, hi, hc, hfirst ▸ head.boundary_le⟩

open scoped Classical in
lemma Links.count (h : Links r config boundary opening reports evs) {key : Key}
    (hs : seen opening.seenEvents key = false) :
    evs.countP (chooses key) = if PostedInTime r config reports evs key then 1 else 0 := by
  induction h with
  | nil => simp [PostedInTime]
  | @cons opening ev x lo hi reports evs head tail ih =>
    have hsplit : PostedInTime r config (x :: reports) (ev :: evs) key ↔
        PostedIn r config key x ev ∨ PostedInTime r config reports evs key := by
      simp [PostedInTime, or_and_right, exists_or]
    have hchoose : chooses key ev = true ↔ _ := head.chooses_iff
    have hsees := head.sees key
    rw [hs, Bool.false_or] at hsees
    rw [List.countP_cons]
    by_cases hp : PostedIn r config key x ev
    · have hsel := hchoose.mpr ⟨hs, hp⟩
      rw [if_pos hsel, tail.none_seen (hsees.trans hsel), if_pos (hsplit.mpr (.inl hp))]
    · have hsel : ¬ chooses key ev = true := fun hn => hp (hchoose.mp hn).2
      rw [if_neg hsel, ih (by rw [hsees]; simpa using hsel)]
      simp only [hsplit, hp, false_or, Nat.add_zero]

end Chain

/-- A row is selected exactly once, in the report whose interval covers it. -/
theorem posted_events_selected_once (r : Readers) (config : Config) (boundary : Instant) (accountId : String)
    (opening : Evidence) (reports : List Submission) (evs : List Evidence) (first : Instant)
    (ho : opening.accountId = accountId) (hf : opening.cutoff = some first)
    (h : chain r config boundary accountId (some opening) reports = some evs)
    (hc : ∀ ev ∈ evs, ev.anchorQualified = true ∧ ev.issues = []) :
    (∀ last t, (evs.getLast?.bind Evidence.cutoff) = some last → first < t → t ≤ last →
      evs.countP (covers t) = 1) ∧
    (∀ x ev, (x, ev) ∈ reports.zip evs → ∀ row ∈ feedRows x.statement,
      ∃ t lower, effectiveTime r config row.1 row.2 = .ok t ∧ ev.previousActualCutoff = some lower ∧
        (covers t ev = true → seen opening.seenEvents (keyOf row) = false →
          evs.countP (chooses (keyOf row)) = 1) ∧
        (covers t ev = false → first < t → chooses (keyOf row) ev = false ∧
          told row t (if t ≤ lower then .excludedBeforeOrAtPrevious else .excludedAfterCurrent) ∈ ev.events)) ∧
    ∀ key, evs.countP (chooses key) ≤ 1 ∧ (evs.countP (chooses key) = 1 ↔
      seen opening.seenEvents key = false ∧ PostedInTime r config reports evs key) := by
  have hlinks := chain_links ho h hc
  refine ⟨fun last t hl hlo hhi => hlinks.tile hf hl hlo hhi, fun x ev hx row hrow => ?_, fun key => ?_⟩
  · obtain ⟨anchor, lo, hi, hcov, hb⟩ := hlinks.covered hf hx
    obtain ⟨p, -, -, hclean⟩ := hcov.clean
    obtain ⟨t, label, ⟨ht, -⟩, -⟩ := hclean.row_told row hrow
    refine ⟨t, lo, ht, hcov.lower, fun hw hs => ?_, fun hm hlt => ?_⟩
    · rw [hlinks.count hs, if_pos ⟨x, ev, hx, row, hrow, rfl, t, ht, hw⟩]
    · exact hcov.passed hrow ht hm (hb.trans hlt.le)
  · cases hs : seen opening.seenEvents key with
    | true => simp [hlinks.none_seen hs]
    | false =>
      rw [hlinks.count hs]
      split_ifs with hp <;> simp [hp]

section LateEvent

def start₀ : Submission := report₀ "20261104" "2026-11-04T12:00Z" []

lemma start₀_accepted : (start₀.qualify readers₀ config₀ 0 "U1" none).isSome := by
  decide

def opening₀ : Evidence := (start₀.qualify readers₀ config₀ 0 "U1" none).get start₀_accepted

def late₀ : List Submission :=
  [report₀ "20261105" "2026-11-05T12:00Z" [], report₀ "20261106" "2026-11-06T12:00Z" [("Trades", [trade₀])]]

def posted₀ : List Submission :=
  [report₀ "20261105" "2026-11-05T12:00Z" [("Trades", [trade₀])],
    report₀ "20261106" "2026-11-06T12:00Z" [("Trades", [trade₀])]]

def summary (evs : List Evidence) : List (Bool × Bool) × Option Instant × ℕ :=
  (evs.map fun ev => (ev.anchorQualified, ev.issues.isEmpty), evs.getLast?.bind Evidence.cutoff,
    evs.countP (chooses (.trades, "7")))

lemma clean_of_summary {evs : List Evidence} {last : Option Instant} {n : ℕ}
    (h : summary evs = ([(true, true), (true, true)], last, n)) :
    ∀ ev ∈ evs, ev.anchorQualified = true ∧ ev.issues = [] := by
  intro ev hev
  have hmem := List.mem_map_of_mem (f := fun ev => (ev.anchorQualified, ev.issues.isEmpty)) hev
  rw [(Prod.mk.inj h).1] at hmem
  simpa using hmem

lemma late₀_summary : (chain readers₀ config₀ 0 "U1" (some opening₀) late₀).map summary =
    some ([(true, true), (true, true)], some (noon 20763), 0) := by
  decide

lemma late₀_rows : feedRows late₀[1].statement = [(.trades, trade₀)] := by
  rfl

theorem late_event_dropped : ¬ ∀ evs, chain readers₀ config₀ 0 "U1" (some opening₀) late₀ = some evs →
    (∀ ev ∈ evs, ev.issues = []) → ∀ first last, opening₀.cutoff = some first →
      (evs.getLast?.bind Evidence.cutoff) = some last → ∀ x ∈ late₀, ∀ row ∈ feedRows x.statement,
        ∀ t, effectiveTime readers₀ config₀ row.1 row.2 = .ok t → first < t → t ≤ last →
          evs.countP (chooses (keyOf row)) = 1 := by
  intro h
  obtain ⟨evs, he, hs⟩ := Option.map_eq_some_iff.mp late₀_summary
  obtain ⟨-, hlast, hcount⟩ := by simpa only [summary, Prod.mk.injEq] using hs
  have hone := h evs he (fun ev hev => (clean_of_summary hs ev hev).2) (noon 20761) (noon 20763) (by decide) hlast late₀[1] (by simp [late₀])
    (.trades, trade₀) (late₀_rows ▸ List.mem_singleton_self _) (noon 20762) (by decide) (by decide) (by decide)
  exact absurd (hcount.symm.trans hone) (by decide)

lemma posted₀_summary : (chain readers₀ config₀ 0 "U1" (some opening₀) posted₀).map summary =
    some ([(true, true), (true, true)], some (noon 20763), 1) := by
  decide

theorem posted_events_selected_once_posted₀ :
    ∃ evs, chain readers₀ config₀ 0 "U1" (some opening₀) posted₀ = some evs ∧
      evs.countP (covers (noon 20762)) = 1 := by
  obtain ⟨evs, he, hs⟩ := Option.map_eq_some_iff.mp posted₀_summary
  refine ⟨evs, he, ?_⟩
  exact (posted_events_selected_once readers₀ config₀ 0 "U1" opening₀ posted₀ evs (noon 20761) (by decide)
    (by decide) he (clean_of_summary hs)).1 (noon 20763) (noon 20762)
      (Prod.mk.inj (Prod.mk.inj hs).2).1 (by decide) (by decide)

end LateEvent

end IbkrPlatform.FlexDaily.EventCompleteness
