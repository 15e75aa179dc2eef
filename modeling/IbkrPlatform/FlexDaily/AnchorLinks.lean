import Mathlib.Data.Set.BooleanAlgebra
import Mathlib.Order.CompletePartialOrder
import IbkrPlatform.FlexDaily.Validation

/-! The link from each validated day to the anchor before it, over whole sequences of runs. -/

namespace IbkrPlatform.FlexDaily.AnchorLinks

open Library Calendar Forward Coverage Collect WindowSteps

section Anchors

variable {s t : State} {d e start : Day} {label : String} {ev anchor : Evidence}

def anchorIn (evidence : List (String × Evidence)) (label : String) : Option Evidence :=
  (evidence.lookup label).filter fun ev => ev.anchorQualified

def anchorAt (s : State) (day : Day) (label : String) : Option Evidence :=
  slotAnchor (slotOf s (.daily day)) label

def validated (s : State) (day : Day) : Prop := (slotOf s (.daily day)).validatedAt.isSome

lemma anchorAt_eq : anchorAt s d label = (s.days.get? d).bind fun slot => slotAnchor slot label := by
  change slotAnchor ((s.days.get? d).getD Slot.empty) label = _
  cases s.days.get? d <;> rfl

lemma previousAnchor_eq_some : previousAnchor s start label = some ev ↔ ∃ d, (forwardStart ≤ d ∧ d < start) ∧
    anchorAt s d label = some ev ∧ ∀ e, d < e → e < start → anchorAt s e label = none := by
  simp only [previousAnchor, OrderedMap.last?_eq_some, ← anchorAt_eq, decide_eq_true_eq]
  refine exists_congr fun d => and_congr_right fun hd => and_congr_right fun _ => ?_
  exact forall₂_congr fun e he => ⟨fun h hs => h ⟨hd.1.trans he.le, hs⟩, fun h hs => h hs.2⟩

lemma previousAnchor_congr (h : ∀ e, e < start → anchorAt t e label = anchorAt s e label) :
    previousAnchor t start label = previousAnchor s start label := by
  ext ev
  rw [previousAnchor_eq_some, previousAnchor_eq_some]
  refine exists_congr fun d => and_congr_right fun hd => ?_
  rw [h d hd.2]
  exact and_congr_right fun _ => forall₃_congr fun e _ he => by rw [h e he]

def mark (ev : Evidence) : String × Option Instant := (ev.sourceSha256, ev.cutoff)

def Linked (config : Config) (s : State) (day : Day) : Prop :=
  ∀ label ∈ config.labels, ∃ ev anchor, anchorAt s day label = some ev ∧
    previousAnchor s day label = some anchor ∧ ev.previousSourceSha256 = some anchor.sourceSha256 ∧
    ev.previousActualCutoff = anchor.cutoff

structure Dependent (s : State) (d : Day) (label : String) (e : Day) : Prop where
  later : d < e
  inScope : inScope s e = true
  validated : validated s e
  between : ∀ j, d < j → j < e → anchorAt s j label = none

lemma previousAnchor_mark (hm : (∀ j, d < j → j < e → anchorAt s j label = none) →
      (anchorAt t d label).map mark = (anchorAt s d label).map mark)
    (ho : ∀ j, j < e → j ≠ d → anchorAt t j label = anchorAt s j label)
    (h : previousAnchor s e label = some anchor) :
    ∃ anchor', previousAnchor t e label = some anchor' ∧ mark anchor' = mark anchor := by
  obtain ⟨j, hj, ha, hn⟩ := previousAnchor_eq_some.mp h
  rcases lt_trichotomy j d with hjd | rfl | hjd
  · refine ⟨anchor, previousAnchor_eq_some.mpr ⟨j, hj, (ho j hj.2 hjd.ne).trans ha, fun i hi he => ?_⟩, rfl⟩
    by_cases hid : i = d
    · rw [hid] at he ⊢
      have hsame := hm fun k hk hke => hn k (hjd.trans hk) hke
      simpa [hn d hjd he] using hsame
    · rw [ho i he hid, hn i hi he]
  · have hsame := hm fun k hk hke => hn k hk hke
    rw [ha, Option.map_some] at hsame
    obtain ⟨anchor', ha', hmark⟩ := Option.map_eq_some_iff.mp hsame
    refine ⟨anchor', previousAnchor_eq_some.mpr ⟨j, hj, ha', fun i hi he => ?_⟩, hmark⟩
    rw [ho i he hi.ne', hn i hi he]
  · refine ⟨anchor, previousAnchor_eq_some.mpr ⟨j, hj, (ho j hj.2 hjd.ne').trans ha, fun i hi he => ?_⟩, rfl⟩
    rw [ho i he (hjd.trans hi).ne', hn i hi he]

end Anchors

section Qualified

variable {r : Readers} {config : Config} {boundary captureStart captureEnd : Instant} {sha256 accountId label : String}
variable {checked : Checked} {previous : Option Evidence} {statement : Statement} {ev : Evidence}
variable {lower cutoff : Option Instant} {p q : Progress}

lemma openingAnchor_issues {prior : Option Evidence} (h : (openingAnchor boundary cutoff prior).2 = []) :
    ∃ anchor, prior = some anchor ∧ anchor.anchorQualified = true ∧
      (openingAnchor boundary cutoff prior).1 = anchor.cutoff := by
  unfold openingAnchor at h ⊢
  split at h
  · simp at h
  · rename_i anchor
    split_ifs at h with ha
    · split at h
      · rename_i asOf c hasOf
        split_ifs at h with hc
        refine ⟨anchor, rfl, ha, ?_⟩
        simp [ha, hc, Evidence.cutoff, hasOf]
      · simp at h

lemma qualifyStatement_linked
    (h : qualifyStatement r config boundary sha256 checked previous captureStart captureEnd accountId statement =
      some ev) (hs : structural checked = true) (hi : ev.issues = []) :
    ev.anchorQualified = true ∧ ∃ anchor, previous = some anchor ∧
      ev.previousSourceSha256 = some anchor.sourceSha256 ∧ ev.previousActualCutoff = anchor.cutoff := by
  have hassemble {asOf : Option SourceAsOf} (h : assemble r config boundary sha256 checked
      (previous.filter fun ev => ev.accountId = accountId) captureStart captureEnd accountId statement asOf = some ev) :
      ev.anchorQualified = true ∧ ∃ anchor, previous = some anchor ∧
        ev.previousSourceSha256 = some anchor.sourceSha256 ∧ ev.previousActualCutoff = anchor.cutoff := by
    unfold assemble at h
    extract_lets cutoff issues opening start at h
    obtain ⟨p, hp, rfl⟩ := Option.map_eq_some_iff.mp h
    have hstart : issues ++ opening.2 = [] := EventChain.foldRows_issues hp (EventChain.issues_of_sorted hi)
    obtain ⟨hissues, hopening⟩ := List.append_eq_nil_iff.mp hstart
    obtain ⟨anchor, hprior, _, hlower⟩ := openingAnchor_issues hopening
    have hasOf : asOf.isSome := by
      cases asOf with
      | none => simp [issues, snapshotIssues] at hissues
      | some asOf => rfl
    refine ⟨by simp [hasOf, hs, hissues], anchor, (Option.filter_eq_some_iff.mp hprior).1, ?_, hlower⟩
    simp [hprior]
  unfold qualifyStatement at h
  extract_lets prior from_ at h
  split at h
  · cases h
  · exact hassemble h
  · exact hassemble h

lemma qualify_lookup {statements : List Statement} {checked : String → Checked}
    {previous : String → Option Evidence} {evidence : List (String × Evidence)}
    (h : qualify r config boundary sha256 statements checked previous captureStart captureEnd = some evidence)
    (hl : evidence.lookup label = some ev) : ∃ accountId statement, qualifyStatement r config boundary sha256
      (checked label) (previous label) captureStart captureEnd accountId statement = some ev := by
  unfold qualify at h
  induction statements generalizing evidence with
  | nil =>
    rw [List.mapM_nil] at h
    cases Option.some.inj h
    cases hl
  | cons statement statements ih =>
    rw [List.mapM_cons] at h
    obtain ⟨⟨label', ev'⟩, hfirst, h⟩ := Option.bind_eq_some_iff.mp h
    obtain ⟨rest, hrest, h⟩ := Option.bind_eq_some_iff.mp h
    obtain rfl := Option.some.inj h
    by_cases hlabel : label = label'
    · subst hlabel
      rw [List.lookup_cons_self] at hl
      obtain ⟨accountId, _, hfirst⟩ := Option.bind_eq_some_iff.mp hfirst
      obtain ⟨label', _, hfirst⟩ := Option.bind_eq_some_iff.mp hfirst
      obtain ⟨evidence, hq, hfirst⟩ := Option.bind_eq_some_iff.mp hfirst
      obtain ⟨rfl, rfl⟩ := Prod.mk.injEq _ _ _ _ ▸ Option.some.inj hfirst
      exact ⟨accountId, statement, hl ▸ hq⟩
    · have hne : (label == label') = false := by simpa using hlabel
      exact ih hrest (by simpa [List.lookup_cons, hne] using hl)

end Qualified

section Preservation

variable {config : Config} {s t v : State} {w u : Window} {d e : Day} {label : String} {cascade : Bool}

def Before (a b : Evidence) : Prop := ∀ x ∈ a.cutoff, ∀ y ∈ b.cutoff, x ≤ y

def Asked (s : State) (day : Day) : Prop := forwardStart ≤ day ∧ ∃ target ∈ s.forwardTarget, day ≤ target

lemma Asked.inScope (h : Asked s d) : inScope s d = true := by
  obtain ⟨hs, target, ht, hd⟩ := h
  rw [Option.mem_def] at ht
  simp [Coverage.inScope, ht, hs, hd]

structure Good (config : Config) (s : State) : Prop where
  linked : ∀ day, inScope s day = true → validated s day → Linked config s day
  ordered : ∀ label ∈ config.labels, ∀ d e a b, d < e → anchorAt s d label = some a → anchorAt s e label = some b →
    Before a b
  backed : ∀ day, (slotOf s (.daily day)).forward.isSome → (slotOf s (.daily day)).raw.isSome
  campaign : ∀ day, (slotOf s (.daily day)).forward.isSome ∨ validated s day → Asked s day

structure Changed (w : Window) (cascade : Bool) (s t : State) : Prop where
  target : t.forwardTarget = s.forwardTarget
  others : ∀ u, u ≠ w → Trimmed (swept cascade s w.start u) (slotOf t u)

lemma inScope_congr (h : t.forwardTarget = s.forwardTarget) : inScope t d = inScope s d := by
  simp only [inScope, h]

lemma asked_congr (h : t.forwardTarget = s.forwardTarget) : Asked t d ↔ Asked s d := by
  simp only [Asked, h]

lemma trimmed_anchor (h : Trimmed (slotOf s (.daily d)) (slotOf t (.daily d))) :
    anchorAt t d label = anchorAt s d label := by
  simp only [anchorAt, slotAnchor, h.1]

lemma anchor_forward {a : Evidence} (h : anchorAt s d label = some a) : (slotOf s (.daily d)).forward.isSome := by
  cases hf : (slotOf s (.daily d)).forward with
  | none => simp [anchorAt, slotAnchor, hf] at h
  | some evidence => rfl

lemma Changed.withdrawn (h : Changed w true s t) (he : .daily e ≠ w) (hlater : w.start < e)
    (hscope : inScope s e = true) : (slotOf t (.daily e)).forward = none ∧ ¬ validated t e := by
  have ho := h.others _ he
  rw [swept, if_pos ⟨rfl, by simpa [reaches] using ⟨hlater, hscope⟩⟩] at ho
  refine ⟨ho.1, fun hv => ?_⟩
  have := ho.2.2 hv
  rw [validated, this] at hv
  simp at hv

lemma Changed.day (h : Changed w cascade s t) (he : .daily e ≠ w) :
    Trimmed (slotOf s (.daily e)) (slotOf t (.daily e)) ∨
      (cascade = true ∧ w.start < e ∧ inScope s e = true) ∧ (slotOf t (.daily e)).forward = none ∧
        ¬ validated t e := by
  by_cases hc : cascade = true ∧ w.start < e ∧ inScope s e = true
  · obtain ⟨rfl, hlater, hscope⟩ := hc
    exact Or.inr ⟨⟨rfl, hlater, hscope⟩, h.withdrawn he hlater hscope⟩
  · have ho := h.others _ he
    rw [swept, if_neg (by simpa [reaches] using hc)] at ho
    exact Or.inl ho

lemma Changed.anchor_below (h : Changed w cascade s t) (he : .daily e ≠ w) (hv : validated t e)
    (hscope : inScope s e = true) {j : Day} (hj : .daily j ≠ w) (hje : j < e) :
    anchorAt t j label = anchorAt s j label := by
  rcases h.day hj with hk | ⟨⟨rfl, hw, _⟩, _, _⟩
  · exact trimmed_anchor hk
  · exact absurd hv (h.withdrawn he (hw.trans hje) hscope).2

lemma Linked.congr (hl : Linked config s e) (hself : ∀ label, anchorAt t e label = anchorAt s e label)
    (hm : ∀ label ∈ config.labels, ∀ anchor, previousAnchor s e label = some anchor →
      ∃ anchor', previousAnchor t e label = some anchor' ∧ mark anchor' = mark anchor) : Linked config t e := by
  intro label hmem
  obtain ⟨ev, anchor, hev, hprev, hsha, hcut⟩ := hl label hmem
  obtain ⟨anchor', hprev', hmark⟩ := hm label hmem anchor hprev
  obtain ⟨hms, hmc⟩ := Prod.mk.injEq _ _ _ _ ▸ hmark
  exact ⟨ev, anchor', (hself label).trans hev, hprev', by rw [hms, hsha], by rw [hmc, hcut]⟩

lemma Good.reseeded (hg : Good config s) (hforward : ∀ d, (slotOf t (.daily d)).forward = (slotOf s (.daily d)).forward)
    (hraw : ∀ d, (slotOf t (.daily d)).raw = (slotOf s (.daily d)).raw)
    (hvalidated : ∀ d, (slotOf t (.daily d)).validatedAt = (slotOf s (.daily d)).validatedAt)
    (hasked : ∀ d, Asked s d → Asked t d) : Good config t := by
  have hanchor (d : Day) (label : String) : anchorAt t d label = anchorAt s d label := by
    simp only [anchorAt, slotAnchor, hforward]
  have hv (d : Day) : validated t d ↔ validated s d := by simp only [validated, hvalidated]
  refine ⟨fun d _ hd => ?_, fun label hl d e a b hde ha hb => ?_, fun d hd => ?_, fun d hd => ?_⟩
  · have hvs := (hv d).mp hd
    refine (hg.linked d (hg.campaign d (Or.inr hvs)).inScope hvs).congr (hanchor d) fun label _ anchor hp => ?_
    exact ⟨anchor, by rwa [previousAnchor_congr fun e _ => hanchor e label], rfl⟩
  · rw [hanchor] at ha hb
    exact hg.ordered label hl d e a b hde ha hb
  · rw [hraw]
    exact hg.backed d (hforward d ▸ hd)
  · rw [hforward, hv] at hd
    exact hasked d (hg.campaign d hd)

lemma Good.same (hg : Good config s) (h : SameSlots s t) : Good config t :=
  hg.reseeded (fun d => by rw [h.2]) (fun d => by rw [h.2]) (fun d => by rw [h.2]) fun d hd => by
    rwa [asked_congr h.1]

structure Renewed (config : Config) (s t : State) (cascade : Bool) (d : Day) : Prop where
  backed : (slotOf t (.daily d)).forward.isSome → (slotOf t (.daily d)).raw.isSome
  campaign : Asked s d
  linked : validated t d → Linked config t d
  harmless : cascade = false → ∀ label ∈ config.labels, ∀ e, Dependent s d label e →
    (anchorAt t d label).map mark = (anchorAt s d label).map mark
  below : ∀ label ∈ config.labels, ∀ b, anchorAt t d label = some b → ∀ e a, e < d →
    anchorAt s e label = some a → Before a b
  above : cascade = false → ∀ label ∈ config.labels, ∀ a, anchorAt t d label = some a → ∀ e b, d < e →
    anchorAt s e label = some b → Before a b

lemma Good.changed (hg : Good config s) (hc : Changed w cascade s t)
    (hd : ∀ d, w = .daily d → Renewed config s t cascade d) : Good config t := by
  have hanchor {j : Day} {label : String} {a : Evidence} (hj : .daily j ≠ w) (ha : anchorAt t j label = some a) :
      anchorAt s j label = some a := by
    rcases hc.day hj with hk | ⟨_, hn, _⟩
    · rwa [trimmed_anchor hk] at ha
    · have := anchor_forward ha
      simp [hn] at this
  refine ⟨fun e he hv => ?_, fun label hmem d e a b hde ha hb => ?_, fun e hf => ?_, fun e hf => ?_⟩
  · rw [inScope_congr hc.target] at he
    by_cases hew : .daily e = w
    · exact (hd e hew.symm).linked hv
    · rcases hc.day hew with hk | ⟨_, _, hn⟩
      · have hsame : slotOf t (.daily e) = slotOf s (.daily e) := hk.2.2 hv
        have hvs : validated s e := by rwa [validated, ← hsame]
        refine (hg.linked e he hvs).congr (fun label => trimmed_anchor hk) fun label hmem anchor hprev => ?_
        by_cases hdaily : ∃ d, w = .daily d ∧ d < e
        · obtain ⟨d, rfl, hde⟩ := hdaily
          refine previousAnchor_mark (d := d) (fun hbetween => ?_) (fun j hj hjd => ?_) hprev
          · cases cascade with
            | true => exact absurd hv (hc.withdrawn hew hde he).2
            | false => exact (hd d rfl).harmless rfl label hmem e ⟨hde, he, hvs, hbetween⟩
          · exact hc.anchor_below hew hv he (by simpa using hjd) hj
        · refine ⟨anchor, ?_, rfl⟩
          rw [previousAnchor_congr, hprev]
          intro j hj
          exact hc.anchor_below hew hv he (fun hjw => hdaily ⟨j, hjw.symm, hj⟩) hj
      · exact absurd hv hn
  · by_cases hdw : .daily d = w
    · have hew : .daily e ≠ w := by
        rw [← hdw]
        simpa using hde.ne'
      cases cascade with
      | true =>
        have hscope := (hg.campaign e (Or.inl (anchor_forward (hanchor hew hb)))).inScope
        have hn := (hc.withdrawn hew (hdw ▸ hde) hscope).1
        have := anchor_forward hb
        simp [hn] at this
      | false => exact (hd d hdw.symm).above rfl label hmem a ha e b hde (hanchor hew hb)
    · by_cases hew : .daily e = w
      · exact (hd e hew.symm).below label hmem b hb d a hde (hanchor hdw ha)
      · exact hg.ordered label hmem d e a b hde (hanchor hdw ha) (hanchor hew hb)
  · by_cases hew : .daily e = w
    · exact (hd e hew.symm).backed hf
    · rcases hc.day hew with hk | ⟨_, hn, _⟩
      · rw [hk.2.1]
        exact hg.backed e (hk.1 ▸ hf)
      · simp [hn] at hf
  · rw [asked_congr hc.target]
    by_cases hew : .daily e = w
    · exact (hd e hew.symm).campaign
    · rcases hc.day hew with hk | ⟨_, hn, hv⟩
      · refine hg.campaign e (hf.imp (fun h => hk.1 ▸ h) fun h => ?_)
        rwa [validated, ← hk.2.2 h]
      · simp [hn, hv] at hf

end Preservation

section Window

variable {Content : Type} {config : Config} {env : Env Content} {o : Observation Content} {c : Collector Content}
variable {w : Window} {s t v : State} {d : Day} {slot : Slot} {cascade : Bool} {content : Content}
variable {checked : String → Checked} {evidence : List (String × Evidence)}

lemma changed_setSlot : Changed w false s (setSlot s slot w) where
  target := setSlot_forwardTarget
  others u hu := by
    rw [slotOf_setSlot_ne hu]
    simpa [swept] using Trimmed.refl _

lemma Changed.after_setSlot (h : Changed w cascade (setSlot s slot w) t) : Changed w cascade s t where
  target := h.target.trans setSlot_forwardTarget
  others u hu := by
    have hs : swept cascade (setSlot s slot w) w.start u = swept cascade s w.start u := by
      have ht : (setSlot s slot w).forwardTarget = s.forwardTarget := setSlot_forwardTarget
      simp only [swept, slotOf_setSlot_ne hu, reaches_congr ht]
    exact hs ▸ h.others u hu

lemma previousAnchor_setSlot : previousAnchor (setSlot s slot w) w.start = previousAnchor s w.start := by
  cases w with
  | month m k => rfl
  | daily d =>
    funext label
    refine previousAnchor_congr fun e he => ?_
    have hne : Window.daily e ≠ .daily d := fun h => he.ne (Window.daily.inj h)
    rw [anchorAt, slotOf_setSlot_ne hne, anchorAt]

def Unanchored (config : Config) (s : State) (d : Day) : Prop :=
  ∀ label ∈ config.labels, ∀ e, Dependent s d label e → anchorAt s d label = none

/-- The anchors of a report take the place of those that the day held: without a cascade, its dependents see
no difference, and the cutoffs are in the order of the days. -/
structure Fits (config : Config) (s : State) (d : Day) (key : String) (new : String → Option Evidence) : Prop where
  harmless : (slotOf s (.daily d)).raw = none ∨ (slotOf s (.daily d)).raw = some key → ∀ label ∈ config.labels,
    ∀ e, Dependent s d label e → (new label).map mark = (anchorAt s d label).map mark
  below : ∀ label ∈ config.labels, ∀ b, new label = some b → ∀ e a, e < d → anchorAt s e label = some a → Before a b
  above : (slotOf s (.daily d)).raw = none ∨ (slotOf s (.daily d)).raw = some key → ∀ label ∈ config.labels,
    ∀ a, new label = some a → ∀ e b, d < e → anchorAt s e label = some b → Before a b

lemma anchorAt_none (h : (slotOf t (.daily d)).forward = none) (label : String) : anchorAt t d label = none := by
  simp [anchorAt, slotAnchor, h]

lemma Good.withdrawn (hg : Good config s) (hc : Changed (.daily d) cascade s t)
    (hf : (slotOf t (.daily d)).forward = none) (hv : ¬ validated t d) (hasked : Asked s d)
    (hu : cascade = false → Unanchored config s d) : Good config t := by
  refine hg.changed hc fun d' hd' => ?_
  obtain rfl := Window.daily.inj hd'
  refine ⟨by simp [hf], hasked, fun h => absurd h hv, fun hcas label hl e he => ?_, ?_, ?_⟩
  · rw [anchorAt_none hf, hu hcas label hl e he]
  · intro label _ b hb
    rw [anchorAt_none hf] at hb
    cases hb
  · intro _ label _ b hb
    rw [anchorAt_none hf] at hb
    cases hb

lemma Good.month (hg : Good config s) {m : Month} {k : ℕ} (hc : Changed (.month m k) cascade s t) :
    Good config t :=
  hg.changed hc fun _ h => by cases h

lemma Failed.changed {oldRaw : Option String} (h : Failed o w oldRaw s t) :
    Changed w (cascades oldRaw (slotOf s w)) s t ∧ (slotOf t w).forward = (slotOf s w).forward ∧
      ((slotOf s w).validatedAt = none → (slotOf t w).validatedAt = none) := by
  obtain ⟨c, reason, hs, ht⟩ := h
  obtain ⟨slot, hslot, _, hforward, hnone⟩ := fail_slotOf o w oldRaw reason c
  refine ⟨⟨ht.1.trans (fail_forwardTarget.trans hs.1), fun u hu => ?_⟩, ?_, fun hv => ?_⟩
  · rw [ht.2 u, fail_slotOf_ne hu, hs.2 w, hs.2 u, reaches_congr hs.1]
    exact .refl _
  · rw [ht.2 w, hslot, failed, hforward, hs.2 w]
  · rw [ht.2 w, hslot, failed]
    exact hnone (by rw [hs.2 w, hv])

lemma finishItem_complete {value : Checked} {ev : Option Evidence} (h : (finishItem value ev).status = .complete) :
    structural value = true ∧ ∃ e, ev = some e ∧ e.issues = [] := by
  simp only [finishItem] at h
  split_ifs at h with hn
  obtain ⟨he, hr⟩ := not_or.mp (not_and.mp hn h)
  refine ⟨by simp [structural, h, hr], ?_⟩
  simp only [Option.mem_def, not_forall, not_not] at he
  obtain ⟨e, hev, hi⟩ := he
  exact ⟨e, hev, hi⟩

lemma Stored.linked {oldRaw : Option String} {key : String}
    (ha : Accepted env config o (.daily d) s content checked evidence)
    (h : Stored (.daily d) oldRaw key evidence (itemsOf config checked evidence) v t) (hv : validated t d)
    (hprev : ∀ label, previousAnchor t d label = previousAnchor s d label) : Linked config t d := by
  intro label hl
  obtain ⟨statements, _, hq⟩ := ha.qualified
  have hitem : (label, finishItem (checked label) (evidence.lookup label)) ∈ itemsOf config checked evidence :=
    List.mem_map.mpr ⟨label, hl, rfl⟩
  obtain ⟨hs, ev, hev, hi⟩ := finishItem_complete (h.validated hv _ hitem)
  obtain ⟨accountId, statement, hqs⟩ := qualify_lookup hq hev
  obtain ⟨hanchor, anchor, hprior, hsha, hcut⟩ := qualifyStatement_linked hqs hs hi
  refine ⟨ev, anchor, ?_, (hprev label).trans hprior, hsha, hcut⟩
  simp [anchorAt, slotAnchor, h.forward, hev, hanchor]

lemma Stored.changed {oldRaw : Option String} {key : String} {items : List (String × Item)}
    (h : Stored w oldRaw key evidence items s t) :
    ∃ cascade, (cascade = false → oldRaw = none ∨ oldRaw = some key) ∧ Changed w cascade s t := by
  obtain ⟨cascade, hcas, ho⟩ := h.others
  refine ⟨cascade, fun hf => ?_, h.target, ho⟩
  by_contra hn
  obtain ⟨hnone, hkey⟩ := not_or.mp hn
  have := hcas (Option.isSome_iff_ne_none.mpr hnone) hkey
  simp [hf] at this

lemma Good.stored (hg : Good config s) {key : String} (hasked : Asked s d)
    (ha : Accepted env config o (.daily d) s content checked evidence)
    (h : Stored (.daily d) (slotOf s (.daily d)).raw key evidence (itemsOf config checked evidence)
      (setSlot s slot (.daily d)) t)
    (hf : Fits config s d key (anchorIn evidence)) : Good config t := by
  obtain ⟨cascade, hcas, hset⟩ := Stored.changed h
  have hc : Changed (.daily d) cascade s t := hset.after_setSlot
  have hself (label : String) : anchorAt t d label = anchorIn evidence label := by
    simp [anchorAt, slotAnchor, anchorIn, h.forward]
  refine hg.changed hc fun d' hd' => ?_
  obtain rfl := Window.daily.inj hd'
  refine ⟨fun _ => by simp [h.raw], hasked, fun hv => ?_, fun hcf label hl e he => ?_, ?_, fun hcf => ?_⟩
  · refine Stored.linked ha h hv fun label => previousAnchor_congr fun e he => ?_
    have hne : Window.daily e ≠ .daily d := fun h => he.ne (Window.daily.inj h)
    rcases hc.day hne with hk | ⟨⟨_, hlater, _⟩, _⟩
    · exact trimmed_anchor hk
    · exact absurd hlater he.asymm
  · rw [hself]
    exact hf.harmless (hcas hcf) label hl e he
  · simpa only [hself] using hf.below
  · simpa only [hself] using hf.above (hcas hcf)

variable [DecidableEq Content] {observe : Window → Observation Content}

inductive Ending | untouched | abandoned | finished
deriving DecidableEq

def ending (env : Env Content) (config : Config) (o : Observation Content) (w : Window) (c : Collector Content) :
    Ending :=
  if !o.timeLeft ∨ o.reset = .refused then .untouched
  else if o.reset = .interrupted ∨ o.escapes ∨ !completes env config o w c ∨ o.close = .refused then .abandoned
  else .finished

section Endings

variable {c d : Collector Content}

lemma ending_of_cut (hleft : o.timeLeft = true) (hrefused : o.reset ≠ .refused)
    (h : (!(persist o.reset d).2) = true ∨ o.escapes = true) : ending env config o w c = .abandoned := by
  have hearly : o.reset = .interrupted ∨ o.escapes = true := by
    rcases h with h | h
    · cases hr : o.reset with
      | refused => exact absurd hr hrefused
      | interrupted => exact .inl rfl
      | stored => simp [persist, hr] at h
    · exact .inr h
  rw [ending, if_neg (by simp [hleft, hrefused]), if_pos (or_assoc.mp (.inl hearly))]

lemma ending_of_incomplete (hleft : o.timeLeft = true) (hrefused : o.reset ≠ .refused)
    (h : completes env config o w c = false ∨ o.close = .refused) : ending env config o w c = .abandoned := by
  rw [ending, if_neg (by simp [hleft, hrefused]), if_pos]
  rcases h with h | h
  · exact .inr (.inr (.inl (by simp [h])))
  · exact .inr (.inr (.inr h))

lemma ending_of_completes (hleft : o.timeLeft = true) (hrefused : o.reset ≠ .refused)
    (h : ¬ ((!(persist o.reset d).2) = true ∨ o.escapes = true)) (hcomplete : completes env config o w c = true)
    (hclose : o.close ≠ .refused) : ending env config o w c = .finished := by
  obtain ⟨hstored, hescapes⟩ := not_or.mp h
  have hi : o.reset ≠ .interrupted := fun hi => by simp [persist, hi] at hstored
  rw [ending, if_neg (by simp [hleft, hrefused]), if_neg (by simp [hi, hescapes, hcomplete, hclose])]

end Endings

def Careful (env : Env Content) (config : Config) (observe : Window → Observation Content) (c : Collector Content) :
    Window → Prop
  | .month _ _ => True
  | .daily d =>
    match ending env config (observe (.daily d)) (.daily d) c with
    | .untouched => True
    | .abandoned => Unanchored config c.state d
    | .finished => ∀ content checked evidence,
      Accepted env config (observe (.daily d)) (.daily d) c.state content checked evidence →
        Fits config c.state d (rawKey env content) (anchorIn evidence)

lemma completes_setSlot {c' : Collector Content} (hs : c'.state = setSlot c.state slot w) (hr : c'.raws = c.raws) :
    completes env config o w c' = completes env config o w c := by
  simp only [completes, hs, hr, previousAnchor_setSlot]

omit [DecidableEq Content] in
lemma accepted_setSlot : Accepted env config o w (setSlot s slot w) content checked evidence ↔
    Accepted env config o w s content checked evidence := by
  constructor
  · rintro ⟨hf, hi, statements, hok, hq⟩
    exact ⟨hf, hi, statements, hok, previousAnchor_setSlot (s := s) ▸ hq⟩
  · rintro ⟨hf, hi, statements, hok, hq⟩
    exact ⟨hf, hi, statements, hok, previousAnchor_setSlot (s := s) ▸ hq⟩

/-- The loop's assertion: an exception may leave the collector's own state in any condition. -/
def Kept (config : Config) (target : Day) (exit : Option Exit) (c : Collector Content) : Prop :=
  Good config c.persisted ∧
    (exit ≠ some .abort → Good config c.state ∧ c.state.forwardTarget = some target)

omit [DecidableEq Content] in
lemma reset_good (hg : Good config s) (labels : List String)
    (hu : ∀ d, w = .daily d → Asked s d ∧ Unanchored config s d) :
    Good config (setSlot s (resetSlot labels (slotOf s w) w) w) := by
  cases w with
  | month m k => exact hg.month changed_setSlot
  | daily d =>
    obtain ⟨hasked, hu⟩ := hu d rfl
    refine hg.withdrawn changed_setSlot ?_ ?_ hasked fun _ => hu
    · rw [slotOf_setSlot, reset_raw.2.2]
    · rw [validated, slotOf_setSlot, reset_raw.2.1]
      simp

omit [DecidableEq Content] in
lemma close_kept {target : Day} {exit : Option Exit} (hrefused : o.close = .refused → Good config c.persisted)
    (hkept : o.close ≠ .refused → Good config c.state) (htarget : c.state.forwardTarget = some target) :
    Kept config target (close o c exit).2 (close o c exit).1 := by
  unfold close persist Kept
  cases hclose : o.close with
  | stored =>
    have hg := hkept (by simp [hclose])
    exact ⟨hg, fun _ => ⟨hg, htarget⟩⟩
  | refused => exact ⟨hrefused hclose, fun h => absurd rfl h⟩
  | interrupted => exact ⟨hkept (by simp [hclose]), fun h => absurd rfl h⟩

omit [DecidableEq Content] in
lemma Good.failed (hg : Good config s) (labels : List String) (hasked : Asked s d)
    (h : Failed o (.daily d) (slotOf s (.daily d)).raw
      (setSlot s (resetSlot labels (slotOf s (.daily d)) (.daily d)) (.daily d)) t) : Good config t := by
  obtain ⟨hc, hforward, hnone⟩ := Failed.changed h
  rw [slotOf_setSlot] at hc hforward hnone
  refine hg.withdrawn hc.after_setSlot (hforward.trans reset_raw.2.2) ?_ hasked fun hcas => ?_
  · simp [validated, hnone reset_raw.2.1]
  · intro label _ e _
    refine anchorAt_none ?_ label
    have hraw : (slotOf s (.daily d)).raw = none := by
      simpa [cascades, resetSlot] using hcas
    have hback := hg.backed d
    rw [hraw] at hback
    simpa using hback

omit [DecidableEq Content] in
lemma finished_good (hg : Good config s) (labels : List String) (hasked : ∀ d, w = .daily d → Asked s d)
    (hfits : ∀ d, w = .daily d → ∀ content checked evidence,
      Accepted env config o w s content checked evidence →
        Fits config s d (rawKey env content) (anchorIn evidence))
    (h : Failed o w (slotOf s w).raw (setSlot s (resetSlot labels (slotOf s w) w) w) t ∨
      ∃ content checked evidence,
        Accepted env config o w (setSlot s (resetSlot labels (slotOf s w) w) w) content checked evidence ∧
        Stored w (slotOf s w).raw (rawKey env content) evidence (itemsOf config checked evidence)
          (setSlot s (resetSlot labels (slotOf s w) w) w) t) : Good config t := by
  cases w with
  | month m k =>
    rcases h with h | ⟨content, checked, evidence, _, h⟩
    · exact hg.month (Failed.changed h).1.after_setSlot
    · obtain ⟨cascade, _, hc⟩ := Stored.changed h
      exact hg.month hc.after_setSlot
  | daily d =>
    rcases h with h | ⟨content, checked, evidence, ha, h⟩
    · exact hg.failed labels (hasked d rfl) h
    · have ha := accepted_setSlot.mp ha
      exact hg.stored (hasked d rfl) ha h (hfits d rfl content checked evidence ha)

lemma attempt_good {target : Day} {R : Collector Content} (hg : Good config s) (labels : List String)
    (hR : R.state = setSlot s (resetSlot labels (slotOf s w) w) w) (hp : R.persisted = R.state)
    (hasked : ∀ d, w = .daily d → Asked s d) (htarget : s.forwardTarget = some target)
    (habandoned : completes env config o w R = false ∨ o.close = .refused → Good config R.state)
    (hfinished : completes env config o w R = true → o.close ≠ .refused → ∀ d, w = .daily d →
      ∀ content checked evidence, Accepted env config o w s content checked evidence →
        Fits config s d (rawKey env content) (anchorIn evidence)) :
    Kept config target (attempt config o w (slotOf s w).raw env R).2
      (attempt config o w (slotOf s w).raw env R).1 := by
  have hslot : slotOf R.state w = resetSlot labels (slotOf s w) w := by rw [hR, slotOf_setSlot]
  have hRt : R.state.forwardTarget = some target := by rw [hR, setSlot_forwardTarget, htarget]
  have hv : (slotOf R.state w).validatedAt = none := by rw [hslot, reset_raw.2.1]
  have hh : Handled env config o w (slotOf s w).raw R (attempt config o w (slotOf s w).raw env R) :=
    attempt_handled hv
  rcases hh with ⟨hc, hs, hpers⟩ | ⟨⟨hc, d, exit, hclose, hpers⟩, hend⟩
  · have hgood := habandoned (Or.inl hc)
    refine ⟨by rw [hpers, hp]; exact hgood, fun _ => ⟨hgood.same hs, hs.1.trans hRt⟩⟩
  · rw [hclose, close_state, hR] at hend
    rw [hclose]
    refine close_kept (fun hr => ?_) (fun hr => ?_) ?_
    · rw [hpers, hp]
      exact habandoned (Or.inr hr)
    · exact finished_good hg labels hasked (hfinished hc hr) hend
    · rcases hend with h | ⟨content, checked, evidence, _, h⟩
      · rw [(Failed.changed h).1.target, ← hR, hRt]
      · rw [h.target, ← hR, hRt]

lemma collectWindow_good {target : Day} (hc : Kept config target none c) (hw : ∀ d, w = .daily d →
      forwardStart ≤ d ∧ d ≤ target) (hcareful : Careful env config observe c w) :
    Kept config target (collectWindow env config observe c w).2 (collectWindow env config observe c w).1 := by
  obtain ⟨hpersisted, hstate⟩ := hc
  obtain ⟨hg, htarget⟩ := hstate (by simp)
  have hasked : ∀ d, w = .daily d → Asked c.state d := by
    intro d hd
    simpa [Asked, htarget] using hw d hd
  unfold collectWindow
  extract_lets o old opened reset
  have hR : reset.1.state = setSlot c.state (resetSlot config.labels (slotOf c.state w) w) w := persist_state
  have hcompletes : completes env config o w reset.1 = completes env config o w c :=
    completes_setSlot hR (by cases hr : o.reset <;> simp [reset, opened, persist, hr])
  by_cases hleft : o.timeLeft = true
  swap
  · simp only [hleft, Bool.not_false, if_true]
    exact ⟨hpersisted, fun _ => ⟨hg, htarget⟩⟩
  by_cases hrefused : o.reset = .refused
  · have hp : reset.2 = false ∧ reset.1.persisted = c.persisted := by simp [reset, opened, persist, hrefused]
    simp only [hleft, hp.1, Bool.not_true, Bool.false_eq_true, if_false, Bool.not_false, true_or, if_true]
    exact ⟨hp.2 ▸ hpersisted, fun h => absurd rfl h⟩
  have hp : reset.1.persisted = reset.1.state := persist_persisted hrefused
  -- what the reset leaves is good wherever the bucket may be left with it
  have habandoned (ha : ending env config o w c = .abandoned) : Good config reset.1.state := by
    rw [hR]
    refine reset_good hg config.labels fun d hd => ⟨hasked d hd, ?_⟩
    subst hd
    simpa [Careful, ha, o] using hcareful
  split_ifs with h1 h2
  · simp [hleft] at h1
  · refine ⟨?_, fun h => absurd rfl h⟩
    rw [hp]
    exact habandoned (ending_of_cut hleft hrefused h2)
  · refine attempt_good hg config.labels hR hp hasked htarget (fun h => habandoned ?_) fun hcomplete hclose => ?_
    · exact ending_of_incomplete hleft hrefused (hcompletes ▸ h)
    · rintro d rfl
      have hf : ending env config o (.daily d) c = .finished :=
        ending_of_completes hleft hrefused h2 (hcompletes ▸ hcomplete) hclose
      simpa [Careful, hf, o] using hcareful

end Window

section Runs

variable {Content : Type} {config : Config} {s : State} {days : OrderedMap Day Slot} {accounts : List String}

lemma seedDay_slot (accounts : List String) (days : OrderedMap Day Slot) (day e : Day) : ∃ items, ((seedDay accounts days day).get? e).getD Slot.empty =
    { (days.get? e).getD Slot.empty with accounts := items } := by
  by_cases he : e = day
  · subst he
    refine ⟨accounts.foldl addMissing ((days.get? e).getD Slot.empty).accounts, ?_⟩
    simp [seedDay, OrderedMap.get?_modify, OrderedMap.get?_insertNew]
  · refine ⟨((days.get? e).getD Slot.empty).accounts, ?_⟩
    simp [seedDay, OrderedMap.get?_modify, OrderedMap.get?_insertNew, he]

lemma seed_slot (targets : List Day) (e : Day) :
    ∃ items, ((targets.foldl (seedDay accounts) days).get? e).getD Slot.empty =
      { (days.get? e).getD Slot.empty with accounts := items } := by
  induction targets generalizing days with
  | nil => exact ⟨((days.get? e).getD Slot.empty).accounts, rfl⟩
  | cons day targets ih =>
    obtain ⟨items, hi⟩ := @ih (seedDay accounts days day)
    obtain ⟨_, hd⟩ := seedDay_slot accounts days day e
    exact ⟨items, by rw [List.foldl_cons, hi, hd]⟩

variable {env : Env Content} {target : Day} {now : Instant}

lemma plan_good (hg : Good config s) (ht : ∀ old ∈ s.forwardTarget, old ≤ targetDay env.newYork now) :
    Good config (plan env config now s).1 := by
  have hslot (d : Day) : ∃ items, slotOf (plan env config now s).1 (.daily d) =
      { slotOf s (.daily d) with accounts := items } := seed_slot _ d
  refine hg.reseeded (fun d => ?_) (fun d => ?_) (fun d => ?_) fun d hd => ?_
  · obtain ⟨items, h⟩ := hslot d
    rw [h]
  · obtain ⟨items, h⟩ := hslot d
    rw [h]
  · obtain ⟨items, h⟩ := hslot d
    rw [h]
  · obtain ⟨hs, old, hold, hle⟩ := hd
    exact ⟨hs, targetDay env.newYork now, rfl, hle.trans (ht old hold)⟩

lemma windows_inScope {d : Day} (h : .daily d ∈ windows s target now) : inScope s d = true := by
  unfold windows at h
  extract_lets view recent holes at h
  rcases List.mem_append.mp (List.mem_of_mem_take h) with h | h
  · rcases List.mem_append.mp h with h | h
    · obtain ⟨day, hday, he⟩ := List.mem_map.mp h
      rw [← Window.daily.inj he]
      exact dueDay_inScope (List.mem_filter.mp hday).2
    · obtain ⟨m, k, he⟩ := month_of_monthWindows h
      cases he
  · obtain ⟨e, he, hd⟩ := List.mem_map.mp h
    rw [← Window.daily.inj hd]
    exact view_day ((OrderedMap.mem_entries _).mp (List.mem_filter.mp he).1)

lemma inScope_iff {d : Day} (h : s.forwardTarget = some target) :
    inScope s d = true ↔ forwardStart ≤ d ∧ d ≤ target := by
  simp [inScope, h]

variable [DecidableEq Content]

def CarefulRun (env : Env Content) (config : Config) (o : RunObservation Content) (persisted : State)
    (raws : List (String × Content)) : Prop :=
  configurationFault config = none → persisted.blocked = none → o.first ≠ .refused →
    (∀ old ∈ persisted.forwardTarget, old ≤ targetDay env.newYork o.started) ∧
    EarlyExit.Along (Careful env config o.window) (collectWindow env config o.window)
      (persist o.first ⟨(plan env config o.started persisted).1, persisted, raws, 0⟩).1
      (plan env config o.started persisted).2

def CarefulRuns (env : Env Content) (config : Config) : State × List (String × Content) →
    List (RunObservation Content) → Prop
  | _, [] => True
  | b, o :: runs => CarefulRun env config o b.1 b.2 ∧ CarefulRuns env config (collectInto env config b o) runs

lemma collect_good {o : RunObservation Content} {persisted : State} {raws : List (String × Content)}
    (hg : Good config persisted) (h : CarefulRun env config o persisted raws) :
    Good config (collect env config o persisted raws).persisted := by
  unfold collect
  extract_lets target finish planned opened looped
  have hfinish {queue : List Window} {outcome : Persist} {c : Collector Content} (hp : Good config c.persisted)
      (hs : Good config c.state) : Good config (finish queue outcome c).persisted := by
    cases outcome
    · exact hs
    · exact hp
    · exact hs
  split_ifs with hfault hblocked hopened habort
  · exact hg
  · refine hfinish hg (hg.same ⟨rfl, fun u => by cases u <;> rfl⟩)
  · cases ho : o.first <;> simp [opened, ho, persist] at hopened ⊢
    · exact hg
    · obtain ⟨ht, _⟩ := h (Option.not_isSome_iff_eq_none.mp hfault) (Option.not_isSome_iff_eq_none.mp hblocked)
        (by simp [ho])
      exact plan_good hg ht
  all_goals
    have hfirst : o.first = .stored := by
      cases ho : o.first <;> simp [opened, ho, persist] at hopened
      rfl
    obtain ⟨ht, halong⟩ := h (Option.not_isSome_iff_eq_none.mp hfault) (Option.not_isSome_iff_eq_none.mp hblocked)
      (by simp [hfirst])
    have hp : Good config planned.1 := plan_good hg ht
    have hloop : Kept config target looped.2 looped.1 := by
      refine EarlyExit.loop_rule (Q := Kept config target) (P := Careful env config o.window)
        (fun c w hw hc hcareful => collectWindow_good hc (fun d hd => ?_) hcareful) ?_ halong
      · exact (inScope_iff rfl).mp (windows_inScope (hd ▸ hw))
      · simp only [opened, hfirst]
        exact ⟨hp, fun _ => ⟨hp, rfl⟩⟩
  · exact hloop.1
  · exact hfinish hloop.1 (hloop.2 habort).1

lemma empty_good : Good config State.empty where
  linked _ _ hv := by cases hv
  ordered _ _ _ _ _ _ _ ha := by cases ha
  backed _ hf := by cases hf
  campaign _ hf := by rcases hf with hf | hf <;> cases hf

lemma foldl_good {runs : List (RunObservation Content)} {b : State × List (String × Content)}
    (hg : Good config b.1) (h : CarefulRuns env config b runs) :
    Good config (runs.foldl (collectInto env config) b).1 := by
  induction runs generalizing b with
  | nil => exact hg
  | cons o runs ih => exact ih (collect_good hg h.1) h.2

def interval (ev : Evidence) : Set Instant :=
  {t | ∃ lower ∈ ev.previousActualCutoff, ∃ cutoff ∈ ev.cutoff, lower < t ∧ t ≤ cutoff}

lemma Good.disjoint (hg : Good config s) {label : String} (hl : label ∈ config.labels) {d e : Day} (hde : d < e)
    {a b : Evidence} (ha : anchorAt s d label = some a) (hb : anchorAt s e label = some b)
    (he : Linked config s e) : Disjoint (interval a) (interval b) := by
  obtain ⟨b', anchor, hb', hprev, _, hlower⟩ := he label hl
  obtain rfl := Option.some.inj (hb.symm.trans hb')
  obtain ⟨j, hj, hanchor, hbetween⟩ := previousAnchor_eq_some.mp hprev
  refine Set.disjoint_left.mpr ?_
  rintro t ⟨_, _, x, hx, _, htx⟩ ⟨y, hy, _, _, hyt, _⟩
  rw [hlower] at hy
  have hxy : x ≤ y := by
    rcases lt_trichotomy d j with hdj | rfl | hjd
    · exact hg.ordered label hl d j a anchor hdj ha hanchor x hx y hy
    · obtain rfl := Option.some.inj (ha.symm.trans hanchor)
      exact (Option.some.inj (hx.symm.trans hy)).le
    · have := hbetween d hjd hde
      rw [ha] at this
      cases this
  exact absurd (hxy.trans_lt hyt) (not_lt.mpr htx)

/-- The links of the validated days, and the disjointness of their intervals, over every sequence of runs
whose steps are careful. -/
theorem careful_runs_linked (env : Env Content) (config : Config) (runs : List (RunObservation Content))
    (h : CarefulRuns env config (State.empty, []) runs) :
    (∀ day, inScope (bucket env config runs).1 day = true → validated (bucket env config runs).1 day →
      Linked config (bucket env config runs).1 day) ∧
    ∀ label ∈ config.labels, ∀ d e, d < e →
      validated (bucket env config runs).1 d → validated (bucket env config runs).1 e →
      ∃ a b, anchorAt (bucket env config runs).1 d label = some a ∧
        anchorAt (bucket env config runs).1 e label = some b ∧ Disjoint (interval a) (interval b) := by
  have hg : Good config (bucket env config runs).1 := foldl_good empty_good h
  refine ⟨hg.linked, fun label hl d e hde hd he => ?_⟩
  have hld := hg.linked d (hg.campaign d (Or.inr hd)).inScope hd
  have hle := hg.linked e (hg.campaign e (Or.inr he)).inScope he
  obtain ⟨a, _, ha, _⟩ := hld label hl
  obtain ⟨b, _, hb, _⟩ := hle label hl
  exact ⟨a, b, ha, hb, hg.disjoint hl hde ha hb hle⟩

end Runs

section Nights

open EventChain Validation

def night₀ (day : Day) (fetched : List Day) : RunObservation Report where
  started := (day + 1) * hours 24
  first := .stored
  window w := ⟨w.start ∈ fetched, .stored, false, false, (day + 1) * hours 24, .content (w.start, 0),
    (day + 1) * hours 24, true, (day + 1) * hours 24, .stored⟩
  last := .stored

def holed₀ : List (RunObservation Report) := [night₀ 20760 [20760], night₀ 20762 [20762, 20761]]

def steady₀ : List (RunObservation Report) := [night₀ 20760 [20760], night₀ 20761 [20761]]

theorem late_report_unlinks : ¬ ∀ (runs : List (RunObservation Report)) (day : Day),
    inScope (bucket env₀ config₀ runs).1 day = true → validated (bucket env₀ config₀ runs).1 day →
      Linked config₀ (bucket env₀ config₀ runs).1 day := by
  intro h
  have hscope : inScope (bucket env₀ config₀ holed₀).1 20762 = true := by decide +kernel
  have hv : (slotOf (bucket env₀ config₀ holed₀).1 (.daily 20762)).validatedAt.isSome := by decide +kernel
  obtain ⟨ev, anchor, hev, hprev, hsha, _⟩ := h holed₀ 20762 hscope hv "account-1" (by decide)
  have hold : (anchorAt (bucket env₀ config₀ holed₀).1 20762 "account-1").map Evidence.previousSourceSha256 =
      some (some "20760-0") := by decide +kernel
  have hnew : (previousAnchor (bucket env₀ config₀ holed₀).1 20762 "account-1").map Evidence.sourceSha256 =
      some "20761-0" := by decide +kernel
  rw [hev, Option.map_some, hsha, Option.some.injEq, Option.some.injEq] at hold
  rw [hprev, Option.map_some, Option.some.injEq, hold] at hnew
  exact absurd hnew (by decide)

lemma careful_newest (c : Collector Report) (observe : Window → Observation Report) (d : Day)
    (hnewest : ∀ e ∈ c.state.days.entries, e.1 ≤ d)
    (hbelow : ∀ content checked evidence,
      Accepted env₀ config₀ (observe (.daily d)) (.daily d) c.state content checked evidence →
      ∀ label ∈ config₀.labels, ∀ b, anchorIn evidence label = some b → ∀ e ∈ c.state.days.entries, e.1 < d →
        ∀ a, slotAnchor e.2 label = some a → Before a b) :
    Careful env₀ config₀ observe c (.daily d) := by
  have hnone {e : Day} (he : d < e) : c.state.days.get? e = none := by
    cases hg : c.state.days.get? e with
    | none => rfl
    | some slot => exact absurd he (not_lt.mpr (hnewest _ (c.state.days.mem_entries.mpr hg)))
  have hdependent (label : String) (e : Day) : ¬ Dependent c.state d label e := by
    intro h
    have hv := h.validated
    simp [validated, slotOf, hnone h.later, Slot.empty] at hv
  simp only [Careful]
  split
  · trivial
  · exact fun label _ e he => absurd he (hdependent label e)
  · intro content checked evidence ha
    refine ⟨fun _ label _ e he => absurd he (hdependent label e), fun label hl b hb e a he hanchor => ?_, ?_⟩
    · rw [anchorAt_eq] at hanchor
      obtain ⟨slot, hslot, hanchor⟩ := Option.bind_eq_some_iff.mp hanchor
      exact hbelow content checked evidence ha label hl b hb (e, slot) (c.state.days.mem_entries.mpr hslot) he a hanchor
    · intro _ label _ a _ e b he hb
      rw [anchorAt_eq, hnone he] at hb
      cases hb

lemma careful_untouched {c : Collector Report} {observe : Window → Observation Report} {w : Window}
    (h : (observe w).timeLeft = false) : Careful env₀ config₀ observe c w := by
  cases w with
  | month m k => trivial
  | daily d => simp [Careful, ending, h]

def opened₀ (day : Day) (b : State × List (String × Report)) : Collector Report :=
  ⟨(plan env₀ config₀ ((day + 1) * hours 24) b.1).1, (plan env₀ config₀ ((day + 1) * hours 24) b.1).1, b.2, 0⟩

lemma night₀_careful (day : Day) (b : State × List (String × Report)) (rest : List Window)
    (hq : (plan env₀ config₀ ((day + 1) * hours 24) b.1).2 = .daily day :: rest) (hrest : ∀ w ∈ rest, w.start ≠ day)
    (ht : ∀ old ∈ b.1.forwardTarget, old ≤ targetDay env₀.newYork ((day + 1) * hours 24))
    (hc : Careful env₀ config₀ (night₀ day [day]).window (opened₀ day b) (.daily day)) :
    CarefulRun env₀ config₀ (night₀ day [day]) b.1 b.2 := by
  refine fun _ _ _ => ⟨ht, ?_⟩
  have hstart : (night₀ day [day]).started = (day + 1) * hours 24 := rfl
  rw [hstart, hq]
  refine ⟨hc, fun _ => EarlyExit.along_of_forall fun c w hw => careful_untouched ?_⟩
  simp [night₀, hrest w hw]

def first₀ : Collector Report := opened₀ 20760 (State.empty, [])

def second₀ : Collector Report := opened₀ 20761 (collectInto env₀ config₀ (State.empty, []) (night₀ 20760 [20760]))

lemma label₀ {label : String} (h : label ∈ config₀.labels) : label = "account-1" := by
  simpa [config₀, Config.labels] using h

lemma first₀_days : ∀ e ∈ first₀.state.days.entries, e.1 = 20760 := by
  decide

lemma second₀_days : ∀ e ∈ second₀.state.days.entries, e.1 ≤ 20761 ∧
    (slotAnchor e.2 "account-1").map Evidence.cutoff ∈ [none, some (some (noon 20760))] := by
  decide +kernel

lemma first₀_careful : Careful env₀ config₀ (night₀ 20760 [20760]).window first₀ (.daily 20760) := by
  refine careful_newest first₀ _ 20760 (fun e he => (first₀_days e he).le) fun _ _ _ _ _ _ _ _ e he hlt => ?_
  exact absurd (first₀_days e he) hlt.ne

lemma second₀_careful : Careful env₀ config₀ (night₀ 20761 [20761]).window second₀ (.daily 20761) := by
  refine careful_newest second₀ _ 20761 (fun e he => (second₀_days e he).1)
    fun content checked evidence ha label hl b hb e he _ a hanchor => ?_
  have hreport : (qualify readers₀ config₀ (noon 20759) (env₀.sha256 (20761, 0)) [statement₀ 20761]
      (fun _ => ⟨.complete, [], .partial_⟩) (previousAnchor second₀.state 20761) (20762 * hours 24)
      (20762 * hours 24)).map (fun ev => (anchorIn ev "account-1").map Evidence.cutoff) =
        some (some (some (noon 20761))) := by decide
  obtain ⟨hf, hi, statements, hok, hq⟩ := ha
  obtain rfl : (20761, 0) = content := Fetched.content.inj hf
  obtain rfl : [statement₀ 20761] = statements := Except.ok.inj hok
  obtain rfl : (fun _ => ⟨.complete, [], .partial_⟩) = checked := Option.some.inj hi
  obtain rfl := label₀ hl
  have hq' : qualify readers₀ config₀ (noon 20759) (env₀.sha256 (20761, 0)) [statement₀ 20761]
      (fun _ => ⟨.complete, [], .partial_⟩) (previousAnchor second₀.state 20761) (20762 * hours 24)
      (20762 * hours 24) = some evidence := hq
  rw [hq', Option.map_some, hb] at hreport
  have hold := (second₀_days e he).2
  rw [hanchor] at hold
  intro x hx y hy
  simp only [Option.map_some, Option.some.injEq, List.mem_cons, reduceCtorEq, List.not_mem_nil, or_false,
    false_or] at hreport hold
  rw [hold, Option.mem_some_iff] at hx
  rw [hreport, Option.mem_some_iff] at hy
  rw [← hx, ← hy]
  decide

theorem careful_runs_linked_steady₀ : validated (bucket env₀ config₀ steady₀).1 20761 ∧
    Linked config₀ (bucket env₀ config₀ steady₀).1 20761 := by
  have hfirst : CarefulRun env₀ config₀ (night₀ 20760 [20760]) State.empty [] :=
    night₀_careful 20760 (State.empty, []) [] (by decide) (by simp) (by simp [State.empty]) first₀_careful
  have hsecond : CarefulRun env₀ config₀ (night₀ 20761 [20761])
      (collectInto env₀ config₀ (State.empty, []) (night₀ 20760 [20760])).1
      (collectInto env₀ config₀ (State.empty, []) (night₀ 20760 [20760])).2 :=
    night₀_careful 20761 _ [.daily 20760] (by decide +kernel) (by decide) (by decide +kernel) second₀_careful
  have hv : (slotOf (bucket env₀ config₀ steady₀).1 (.daily 20761)).validatedAt.isSome := by decide +kernel
  have hscope : inScope (bucket env₀ config₀ steady₀).1 20761 = true := by decide +kernel
  exact ⟨hv, (careful_runs_linked env₀ config₀ steady₀ ⟨hfirst, hsecond, trivial⟩).1 20761 hscope hv⟩

end Nights

end IbkrPlatform.FlexDaily.AnchorLinks
