import IbkrPlatform.FlexDaily.AnchorLinks

/-! What a month control that is marked done says of the days of its month, over every sequence of runs. -/

namespace IbkrPlatform.FlexDaily.MonthControls

open Library Calendar Forward Coverage Collect WindowSteps AnchorLinks

lemma campaign_month {m : Month} (h : 24323 ≤ m) : forwardStart ≤ firstDay m :=
  le_trans (by decide) (firstDay_le h)

lemma windows_month {state : State} {target : Day} {now : Instant} {m : Month} {k : ℕ} (h : .month m k ∈ windows state target now) :
    forwardStart ≤ firstDay m ∧ firstDay (m + 1) ≤ target := by
  have hmonth : .month m k ∈ monthWindows (reportingView state) target now := by
    unfold windows at h
    extract_lets view recent holes at h
    rcases List.mem_append.mp (List.mem_of_mem_take h) with h | h
    · rcases List.mem_append.mp h with h | h
      · obtain ⟨_, _, he⟩ := List.mem_map.mp h
        cases he
      · exact h
    · obtain ⟨_, _, he⟩ := List.mem_map.mp h
      cases he
  have hfirst : (if firstDay (monthOf forwardStart) < forwardStart then monthOf forwardStart + 1 else monthOf forwardStart) = 24323 := by
    decide
  rw [monthWindows, hfirst] at hmonth
  obtain ⟨n, hn, hwindow⟩ := List.mem_flatMap.mp hmonth
  obtain ⟨_, _, he⟩ := List.mem_map.mp hwindow
  obtain ⟨rfl, _⟩ := Window.month.inj he
  rw [mem_days, Int.le_sub_one_iff] at hn
  exact ⟨campaign_month hn.1, (firstDay_le hn.2).trans (firstDay_monthOf_le target)⟩

section Slots

variable {Content : Type} {labels : List String} {opened : Option Day} {s t : State} {raws : List (String × Content)}
  {compare : Content → List Content → Option Bool} {slot : Slot} {d : Day}

def Knows (labels : List String) (slot : Slot) : Prop := ∀ label ∈ labels, (slot.accounts.lookup label).isSome

structure Good (labels : List String) (slot : Slot) : Prop where
  knows : Knows labels slot
  complete : ∀ item ∈ slot.accounts, item.2.status = .complete
  checked : ∀ item ∈ slot.accounts, item.2.forwardChecked = true

def payload (s : State) (raws : List (String × Content)) (w : Window) : Option Content := (slotOf s w).raw.bind fun key => raws.lookup key

structure Upheld (labels : List String) (opened : Option Day) (compare : Content → List Content → Option Bool) (s : State)
    (raws : List (String × Content)) (m : Month) (k : ℕ) : Prop where
  scope : forwardStart ≤ firstDay m
  days : ∀ d ∈ monthDays m, opened ≠ some d → Good labels (slotOf s (.daily d))
  evidence : ∃ content payloads, payload s raws (.month m k) = some content ∧
    (monthDays m).map (fun d => payload s raws (.daily d)) = payloads.map some ∧ compare content payloads = some true

def Sound (labels : List String) (opened : Option Day) (compare : Content → List Content → Option Bool) (s : State)
    (raws : List (String × Content)) : Prop :=
  ∀ m k, (slotOf s (.month m k)).done = true → Upheld labels opened compare s raws m k

def Covered (s : State) (d : Day) : Prop := ∃ m k, (slotOf s (.month m k)).done = true ∧ d ∈ monthDays m

lemma Sound.congr (h : Sound labels opened compare s raws) (hs : SameSlots s t) : Sound labels opened compare t raws := by
  intro m k hdone
  rw [hs.2] at hdone
  obtain ⟨hscope, hdays, hevidence⟩ := h m k hdone
  refine ⟨hscope, fun d hd hne => hs.2 (.daily d) ▸ hdays d hd hne, ?_⟩
  simpa only [payload, hs.2] using hevidence

lemma Sound.none_done (h : ∀ m k, (slotOf s (.month m k)).done = false) : Sound labels opened compare s raws := by
  intro m k hdone
  rw [h m k] at hdone
  cases hdone

lemma Upheld.extend {raws' : List (String × Content)} {m : Month} {k : ℕ} (h : Upheld labels opened compare s raws m k)
    (hr : ∀ key body, raws.lookup key = some body → raws'.lookup key = some body) : Upheld labels opened compare s raws' m k := by
  obtain ⟨content, payloads, hmonth, hdays, hcompare⟩ := h.evidence
  have hkept (w : Window) (body : Content) (hbody : payload s raws w = some body) : payload s raws' w = some body := by
    obtain ⟨key, hkey, hlookup⟩ := Option.bind_eq_some_iff.mp hbody
    exact Option.bind_eq_some_iff.mpr ⟨key, hkey, hr key body hlookup⟩
  refine ⟨h.scope, h.days, content, payloads, hkept _ _ hmonth, ?_, hcompare⟩
  refine (List.map_congr_left fun d hd => ?_).trans hdays
  obtain ⟨body, _, hbody⟩ := List.mem_map.mp (hdays ▸ List.mem_map_of_mem hd)
  rw [hkept _ _ hbody.symm, ← hbody]

lemma Sound.extend {raws' : List (String × Content)} (h : Sound labels opened compare s raws)
    (hr : ∀ key body, raws.lookup key = some body → raws'.lookup key = some body) : Sound labels opened compare s raws' :=
  fun m k hdone => (h m k hdone).extend hr

lemma Upheld.stored {m : Month} {k : ℕ} (h : Upheld labels opened compare s raws m k) (hd : d ∈ monthDays m) :
    (slotOf s (.daily d)).raw.isSome := by
  obtain ⟨content, payloads, _, hdays, _⟩ := h.evidence
  obtain ⟨body, _, hbody⟩ := List.mem_map.mp (hdays ▸ List.mem_map_of_mem (f := fun d => payload s raws (.daily d)) hd)
  obtain ⟨key, hkey, _⟩ := Option.bind_eq_some_iff.mp hbody.symm
  rw [hkey]
  rfl

lemma Sound.stored (h : Sound labels opened compare s raws) (hd : Covered s d) : (slotOf s (.daily d)).raw.isSome := by
  obtain ⟨m, k, hdone, hmem⟩ := hd
  exact (h m k hdone).stored hmem

lemma Sound.set_day {now : Option Day} (h : Sound labels opened compare s raws) (hopened : ∀ e, opened = some e → e = d)
    (hslot : Covered s d → slot.raw = (slotOf s (.daily d)).raw ∧ (now ≠ some d → Good labels slot)) :
    Sound labels now compare (setSlot s slot (.daily d)) raws := by
  intro m k hdone
  have hmonth : slotOf (setSlot s slot (.daily d)) (.month m k) = slotOf s (.month m k) := slotOf_setSlot_ne (by simp)
  rw [hmonth] at hdone
  obtain ⟨hscope, hdays, hevidence⟩ := h m k hdone
  have hother {e : Day} (he : e ≠ d) : slotOf (setSlot s slot (.daily d)) (.daily e) = slotOf s (.daily e) :=
    slotOf_setSlot_ne (by simpa using he)
  have hraw {e : Day} (he : e ∈ monthDays m) : (slotOf (setSlot s slot (.daily d)) (.daily e)).raw = (slotOf s (.daily e)).raw := by
    by_cases hed : e = d
    · subst hed
      rw [slotOf_setSlot, (hslot ⟨m, k, hdone, he⟩).1]
    · rw [hother hed]
  refine ⟨hscope, fun e he hne => ?_, ?_⟩
  · by_cases hed : e = d
    · subst hed
      rw [slotOf_setSlot]
      exact (hslot ⟨m, k, hdone, he⟩).2 hne
    · rw [hother hed]
      exact hdays e he fun heq => hed (hopened e heq)
  · obtain ⟨content, payloads, hm, hd, hcompare⟩ := hevidence
    refine ⟨content, payloads, by rw [payload, hmonth]; exact hm, ?_, hcompare⟩
    refine (List.map_congr_left fun e he => ?_).trans hd
    rw [payload, hraw he]
    rfl

lemma Sound.set_month {m : Month} {k : ℕ} (h : Sound labels opened compare s raws)
    (hslot : slot.done = true → Upheld labels opened compare (setSlot s slot (.month m k)) raws m k) :
    Sound labels opened compare (setSlot s slot (.month m k)) raws := by
  intro n j hdone
  by_cases hsame : (.month n j : Window) = .month m k
  · obtain ⟨rfl, rfl⟩ := Window.month.inj hsame
    rw [slotOf_setSlot] at hdone
    exact hslot hdone
  · have hmonth : slotOf (setSlot s slot (.month m k)) (.month n j) = slotOf s (.month n j) := slotOf_setSlot_ne hsame
    have hday (e : Day) : slotOf (setSlot s slot (.month m k)) (.daily e) = slotOf s (.daily e) := slotOf_setSlot_ne (by simp)
    rw [hmonth] at hdone
    obtain ⟨hscope, hdays, hevidence⟩ := h n j hdone
    refine ⟨hscope, fun e he hne => hday e ▸ hdays e he hne, ?_⟩
    simpa only [payload, hmonth, hday] using hevidence

lemma Sound.touch {w : Window} (h : Sound labels opened compare s raws) (hopened : ∀ e, opened = some e → w = .daily e)
    (hraw : slot.raw = (slotOf s w).raw) (haccounts : slot.accounts = (slotOf s w).accounts) (hdone : slot.done = (slotOf s w).done) :
    Sound labels opened compare (setSlot s slot w) raws := by
  cases w with
  | daily d =>
    refine h.set_day (fun e he => (Window.daily.inj (hopened e he)).symm) fun ⟨m, k, hmonth, hd⟩ => ⟨hraw, fun hne => ?_⟩
    obtain ⟨hknows, hcomplete, hchecked⟩ := (h m k hmonth).days d hd hne
    exact ⟨fun label hl => haccounts ▸ hknows label hl, fun item hi => hcomplete item (haccounts ▸ hi),
      fun item hi => hchecked item (haccounts ▸ hi)⟩
  | month m k =>
    refine h.set_month fun hslot => ?_
    obtain ⟨hscope, hdays, hevidence⟩ := h m k (hdone ▸ hslot)
    have hday (e : Day) : slotOf (setSlot s slot (.month m k)) (.daily e) = slotOf s (.daily e) := slotOf_setSlot_ne (by simp)
    refine ⟨hscope, fun e he hne => hday e ▸ hdays e he hne, ?_⟩
    simpa only [payload, slotOf_setSlot, hraw, hday] using hevidence

lemma Sound.invalidate {start : Day} (h : Sound labels opened compare s raws) (m : Month) (k : ℕ) :
    (slotOf (invalidateFollowing s start) (.month m k)).done = false := by
  rw [slotOf_invalidateFollowing]
  split_ifs with hreach
  · rfl
  · by_contra hdone
    exact hreach (by simpa [reaches] using (h m k (by simpa using hdone)).scope)

lemma slotOf_reopenDays_month {w : Window} {m : Month} {k : ℕ} : slotOf (reopenDays w s) (.month m k) = slotOf s (.month m k) := rfl

lemma slotOf_reopenDays_outside {w : Window} (h : ¬ (w.start ≤ d ∧ d ≤ w.stop)) :
    slotOf (reopenDays w s) (.daily d) = slotOf s (.daily d) := by
  simp only [slotOf, reopenDays, OrderedMap.get?_mapValues, if_neg h, Option.map_id']

lemma Sound.reopen {m : Month} {k : ℕ} (h : Sound labels opened compare s raws) (hdone : ∀ j, (slotOf s (.month m j)).done = false) :
    Sound labels opened compare (reopenDays (.month m k) s) raws := by
  intro n j hn
  rw [slotOf_reopenDays_month] at hn
  obtain ⟨hscope, hdays, hevidence⟩ := h n j hn
  have hother {e : Day} (he : e ∈ monthDays n) : slotOf (reopenDays (.month m k) s) (.daily e) = slotOf s (.daily e) := by
    refine slotOf_reopenDays_outside fun hin => ?_
    have hm : e ∈ monthDays m := by
      rw [mem_monthDays]
      exact ⟨hin.1, Int.lt_of_le_sub_one hin.2⟩
    rw [monthDays_disjoint he hm, hdone j] at hn
    cases hn
  refine ⟨hscope, fun e he hne => hother he ▸ hdays e he hne, ?_⟩
  obtain ⟨content, payloads, hm, hd, hcompare⟩ := hevidence
  refine ⟨content, payloads, hm, ?_, hcompare⟩
  refine (List.map_congr_left fun e he => ?_).trans hd
  rw [payload, hother he]
  rfl

def Seeded (labels : List String) (target : Day) (s : State) : Prop :=
  ∀ d, forwardStart ≤ d → d ≤ target → Knows labels (slotOf s (.daily d))

lemma lookup_map_isSome {α : Type} {f : String × Item → α} {items : List (String × Item)} {label : String} :
    ((items.map fun item => (item.1, f item)).lookup label).isSome = (items.lookup label).isSome := by
  induction items with
  | nil => rfl
  | cons item items ih =>
    rw [List.map_cons, List.lookup_cons, List.lookup_cons]
    cases label == item.1 with
    | true => rfl
    | false => exact ih

lemma lookup_labels {α : Type} {f : String → α} {label : String} (h : label ∈ labels) :
    ((labels.map fun l => (l, f l)).lookup label).isSome := by
  induction labels with
  | nil => cases h
  | cons first rest ih =>
    rw [List.map_cons, List.lookup_cons]
    cases hc : label == first with
    | true => rfl
    | false =>
      refine ih ((List.mem_cons.mp h).resolve_left fun heq => ?_)
      rw [heq, beq_self_eq_true] at hc
      cases hc

variable {target : Day}

lemma Seeded.set {w : Window} (h : Seeded labels target s)
    (hslot : ∀ d, w = .daily d → Knows labels (slotOf s w) → Knows labels slot) : Seeded labels target (setSlot s slot w) := by
  intro d hstart hend
  by_cases hw : (.daily d : Window) = w
  · subst hw
    rw [slotOf_setSlot]
    exact hslot d rfl (h d hstart hend)
  · rw [slotOf_setSlot_ne hw]
    exact h d hstart hend

lemma Seeded.congr (h : Seeded labels target s) (hs : SameSlots s t) : Seeded labels target t :=
  fun d hstart hend => hs.2 (.daily d) ▸ h d hstart hend

lemma Seeded.invalidate {start : Day} (h : Seeded labels target s) : Seeded labels target (invalidateFollowing s start) := by
  intro d hstart hend
  rw [slotOf_invalidateFollowing]
  split_ifs
  · intro label hl
    change (List.lookup label (List.map _ _)).isSome
    rw [lookup_map_isSome]
    exact h d hstart hend label hl
  · exact h d hstart hend

lemma Seeded.reopen {w : Window} (h : Seeded labels target s) : Seeded labels target (reopenDays w s) := by
  intro d hstart hend
  by_cases hin : w.start ≤ d ∧ d ≤ w.stop
  · have hknows := h d hstart hend
    simp only [slotOf, reopenDays, OrderedMap.get?_mapValues, if_pos hin] at hknows ⊢
    cases hget : s.days.get? d with
    | none => simpa only [hget, Option.map_none] using hknows
    | some slot =>
      intro label hl
      simp only [hget, Option.map_some, Option.getD_some, reopenDay, lookup_map_isSome] at hknows ⊢
      exact hknows label hl
  · rw [slotOf_reopenDays_outside hin]
    exact h d hstart hend

lemma slotOf_entry {e : Day × Slot} (h : e ∈ s.days.entries) : slotOf s (.daily e.1) = e.2 := by
  rw [slotOf, (OrderedMap.mem_entries _).mp h, Option.getD_some]

lemma dailySlots_days {w : Window} (h : ((dailySlots w s).length : ℤ) = w.stop - w.start + 1) :
    (dailySlots w s).map Prod.fst = days w.start w.stop := by
  refine eq_days ?_ (fun d hd => ?_) (by rw [List.length_map, h])
  · exact List.Pairwise.map _ (fun _ _ hlt => hlt) (s.days.sorted.filter _)
  · obtain ⟨e, he, rfl⟩ := List.mem_map.mp hd
    exact of_decide_eq_true (List.mem_filter.mp he).2

lemma eligible_month {m : Month} {k : ℕ} (h : eligible (.month m k) s = true) : (dailySlots (.month m k) s).map Prod.fst = monthDays m ∧
    ∀ d ∈ monthDays m, ∀ item ∈ (slotOf s (.daily d)).accounts, item.2.forwardChecked = true ∧ item.2.status = .complete := by
  obtain ⟨hlength, hslots⟩ := of_decide_eq_true h
  have hdays := dailySlots_days hlength
  refine ⟨hdays, fun d hd item hitem => ?_⟩
  obtain ⟨e, he, rfl⟩ := List.mem_map.mp (hdays.symm ▸ hd : d ∈ (dailySlots (.month m k) s).map Prod.fst)
  rw [slotOf_entry (List.mem_filter.mp he).1] at hitem
  simpa using (hslots e he).2 item hitem

lemma dailySlots_payloads {w : Window} : (dailySlots w s).map (fun e => e.2.raw.bind fun key => raws.lookup key) =
    ((dailySlots w s).map Prod.fst).map fun d => payload s raws (.daily d) := by
  rw [List.map_map]
  refine List.map_congr_left fun e he => ?_
  rw [Function.comp_apply, payload, slotOf_entry (List.mem_filter.mp he).1]

end Slots

section Windows

variable {Content : Type} {labels : List String} {opened : Option Day} {target : Day} {s : State} {raws : List (String × Content)}
  {compare : Content → List Content → Option Bool} {o : Observation Content} {w : Window} {oldRaw : Option String}
  {c : Collector Content} {d : Day}

structure Holds (labels : List String) (target : Day) (opened : Option Day) (compare : Content → List Content → Option Bool)
    (s : State) (raws : List (String × Content)) : Prop where
  sound : Sound labels opened compare s raws
  seeded : Seeded labels target s

lemma Holds.congr {t : State} (h : Holds labels target opened compare s raws) (hs : SameSlots s t) :
    Holds labels target opened compare t raws := ⟨h.sound.congr hs, h.seeded.congr hs⟩

lemma Holds.touch {slot : Slot} (h : Holds labels target opened compare s raws) (hopened : ∀ e, opened = some e → w = .daily e)
    (hraw : slot.raw = (slotOf s w).raw) (haccounts : slot.accounts = (slotOf s w).accounts) (hdone : slot.done = (slotOf s w).done) :
    Holds labels target opened compare (setSlot s slot w) raws :=
  ⟨h.sound.touch hopened hraw haccounts hdone, h.seeded.set fun _ _ hknows label hl => haccounts ▸ hknows label hl⟩

lemma Holds.invalidate {start : Day} (h : Holds labels target opened compare s raws) :
    Holds labels target none compare (invalidateFollowing s start) raws :=
  ⟨.none_done h.sound.invalidate, h.seeded.invalidate⟩

lemma Holds.close (h : Holds labels target (some d) compare s raws) (hd : ¬ Covered s d) : Holds labels target none compare s raws := by
  refine ⟨fun m k hdone => ?_, h.seeded⟩
  obtain ⟨hscope, hdays, hevidence⟩ := h.sound m k hdone
  refine ⟨hscope, fun e he _ => hdays e he fun heq => hd ?_, hevidence⟩
  exact ⟨m, k, hdone, Option.some.inj heq ▸ he⟩

def openedBy : Window → Option Day
  | .daily d => some d
  | .month _ _ => none

lemma fail_holds {reason : String} (h : Holds labels target none compare c.state raws) :
    Holds labels target none compare (fail o w oldRaw reason c).state raws := by
  unfold fail
  extract_lets state state'
  have hstate : Holds labels target none compare state raws := by
    unfold state
    split_ifs
    · exact h.invalidate
    · exact h
  have hfailed : Holds labels target none compare state' raws := hstate.touch (by simp) rfl rfl rfl
  exact hfailed.congr sameSlots_addRun

lemma fail_opened {reason : String} (h : Holds labels target (openedBy w) compare c.state raws)
    (hraw : (slotOf c.state w).raw = oldRaw) (hforward : (slotOf c.state w).forward = none) :
    Holds labels target none compare (fail o w oldRaw reason c).state raws := by
  cases w with
  | month m k => exact fail_holds h
  | daily d =>
    cases oldRaw with
    | none =>
      refine fail_holds (h.close fun hd => ?_)
      have hstored := h.sound.stored hd
      rw [hraw] at hstored
      cases hstored
    | some key =>
      unfold fail
      extract_lets state state'
      have hstate : state = invalidateFollowing c.state (Window.daily d).start := if_pos ⟨rfl, by rw [hforward]; rfl⟩
      have hholds : Holds labels target none compare state raws := hstate ▸ h.invalidate
      have hfailed : Holds labels target none compare state' raws := hholds.touch (by simp) rfl rfl rfl
      exact hfailed.congr sameSlots_addRun

lemma failed_holds {t : State} (h : Holds labels target (openedBy w) compare s raws) (hraw : (slotOf s w).raw = oldRaw)
    (hforward : (slotOf s w).forward = none) (hf : Failed o w oldRaw s t) : Holds labels target none compare t raws := by
  obtain ⟨c, reason, hs, ht⟩ := hf
  exact (fail_opened (h.congr hs) (by rw [hs.2, hraw]) (by rw [hs.2, hforward])).congr ht

lemma conclude_holds {ok : Bool} (h : Holds labels target none compare c.state raws) :
    Holds labels target none compare (conclude o w oldRaw ok c).1.state raws := by
  unfold conclude
  split_ifs
  · rw [close_state]
    have hdone : Holds labels target none compare
        (setSlot c.state { slotOf c.state w with attempts := 0, nextAttemptAt := none, validatedAt := some o.finishedAt } w) raws :=
      h.touch (by simp) rfl rfl rfl
    exact hdone.congr sameSlots_addRun
  · rw [close_state]
    exact fail_holds h

variable (oldRaw) (key : String) (evidence : List (String × Evidence))

lemma putEvidence_holds (h : Holds labels target (openedBy w) compare s raws) :
    (oldRaw.isSome ∧ oldRaw ≠ some key) ∧ (∀ m k, (slotOf (putEvidence w oldRaw key evidence s) (.month m k)).done = false) ∧
        Holds labels target none compare (putEvidence w oldRaw key evidence s) raws ∨
      ¬ (oldRaw.isSome ∧ oldRaw ≠ some key) ∧ putEvidence w oldRaw key evidence s = setSlot s { slotOf s w with forward := some evidence } w ∧
        Holds labels target (openedBy w) compare (putEvidence w oldRaw key evidence s) raws := by
  have hset : Holds labels target (openedBy w) compare (setSlot s { slotOf s w with forward := some evidence } w) raws := by
    refine h.touch (fun e he => ?_) rfl rfl rfl
    cases w with
    | daily d => rw [Option.some.inj he]
    | month m k => cases he
  unfold putEvidence
  dsimp only
  split_ifs with hchanged
  · exact .inl ⟨hchanged, hset.sound.invalidate, hset.invalidate⟩
  · exact .inr ⟨hchanged, rfl, hset⟩

variable {oldRaw key evidence}

lemma putEvidence_raw {u : Window} : (slotOf (putEvidence w oldRaw key evidence s) u).raw = (slotOf s u).raw := by
  have hset : (slotOf (setSlot s { slotOf s w with forward := some evidence } w) u).raw = (slotOf s u).raw := by
    by_cases hu : u = w
    · rw [hu, slotOf_setSlot]
    · rw [slotOf_setSlot_ne hu]
  unfold putEvidence
  dsimp only
  split_ifs
  · rw [slotOf_invalidateFollowing]
    split_ifs
    · rw [withdrawn_raw, hset]
    · exact hset
  · exact hset

variable {config : Config} {env : Env Content} {content : Content} {checked : String → Checked}

lemma itemsOf_knows : ∀ label ∈ config.labels, ((itemsOf config checked evidence).lookup label).isSome :=
  fun _ hl => lookup_labels hl

lemma itemsOf_checked : ∀ item ∈ itemsOf config checked evidence, item.2.forwardChecked = true := by
  intro item hi
  obtain ⟨label, _, rfl⟩ := List.mem_map.mp hi
  rfl

lemma covered_setSlot_daily {slot : Slot} : Covered (setSlot s slot (.daily d)) d ↔ Covered s d := by
  have hmonth (m : Month) (k : ℕ) : slotOf (setSlot s slot (.daily d)) (.month m k) = slotOf s (.month m k) :=
    slotOf_setSlot_ne (by simp)
  simp only [Covered, hmonth]

lemma storeDay_holds (h : Holds config.labels target (some d) compare c.state raws) (hraw : (slotOf c.state (.daily d)).raw = oldRaw)
    (hitems : Covered c.state d → oldRaw = some (rawKey env content) →
      ∀ item ∈ itemsOf config checked evidence, item.2.status = .complete) :
    Holds config.labels target none compare (store config o (.daily d) oldRaw env content checked evidence c).1.state raws := by
  refine conclude_holds ⟨?_, ?_⟩
  · rcases putEvidence_holds (w := .daily d) oldRaw (rawKey env content) evidence h with
      ⟨_, hnone, hholds⟩ | ⟨hsame, hstate, hholds⟩
    · refine hholds.sound.set_day (by simp) fun ⟨m, k, hdone, _⟩ => ?_
      rw [hnone m k] at hdone
      cases hdone
    · refine hholds.sound.set_day (fun e he => (Option.some.inj he).symm) fun hd => ?_
      have hcovered : Covered c.state d := covered_setSlot_daily.mp (hstate ▸ hd)
      have hkey : oldRaw = some (rawKey env content) := by
        have hstored := h.sound.stored hcovered
        rw [hraw] at hstored
        by_contra hne
        exact hsame ⟨hstored, hne⟩
      refine ⟨by rw [putEvidence_raw, hraw, hkey], fun _ => ⟨itemsOf_knows, hitems hcovered hkey, itemsOf_checked⟩⟩
  · rcases putEvidence_holds (w := .daily d) oldRaw (rawKey env content) evidence h with
      ⟨_, _, hholds⟩ | ⟨_, _, hholds⟩
    · exact hholds.seeded.set fun _ _ _ => itemsOf_knows
    · exact hholds.seeded.set fun _ _ _ => itemsOf_knows

lemma map_some_filterMap {α : Type} {l : List (Option α)} (h : l.all Option.isSome = true) : l = (l.filterMap id).map some := by
  induction l with
  | nil => rfl
  | cons x l ih =>
    obtain ⟨hx, hl⟩ := Bool.and_eq_true_iff.mp h
    obtain ⟨a, rfl⟩ := Option.isSome_iff_exists.mp hx
    rw [List.filterMap_cons_some (f := id) rfl, List.map_cons, ← ih hl]

def payloads (w : Window) (s : State) (raws : List (String × Content)) : List Content :=
  ((dailySlots w s).map fun e => e.2.raw.bind fun key => raws.lookup key).filterMap id

lemma controlMonth_holds {m : Month} {k : ℕ} {schemaComplete : Bool} {t : State} (h : Holds labels target none env.compareMonth c.state c.raws)
    (hscope : forwardStart ≤ firstDay m ∧ firstDay (m + 1) ≤ target) (hpayload : payload c.state c.raws (.month m k) = some content)
    (hother : o.monthTimeLeft = true → env.compareMonth content (payloads (.month m k) c.state c.raws) = some false →
      ∀ j, j ≠ k → (slotOf c.state (.month m j)).done = false)
    (hcontrol : controlMonth o (.month m k) env content schemaComplete c = some t) :
    Holds labels target none env.compareMonth t c.raws := by
  unfold controlMonth at hcontrol
  extract_lets read at hcontrol
  split_ifs at hcontrol with hcompares
  · obtain ⟨heligible, htime, hall⟩ := hcompares
    obtain ⟨same, hsame, ht⟩ := Option.map_eq_some_iff.mp hcontrol
    have hday (slot : Slot) (e : Day) : slotOf (setSlot c.state slot (.month m k)) (.daily e) = slotOf c.state (.daily e) :=
      slotOf_setSlot_ne (by simp)
    obtain ⟨hdays, hgood⟩ := eligible_month heligible
    cases same with
    | false =>
      rw [← ht, if_neg (by simp)]
      have hset : Holds labels target none env.compareMonth
          (setSlot c.state { slotOf c.state (.month m k) with done := false && schemaComplete } (.month m k)) c.raws :=
        ⟨h.sound.set_month (by simp), h.seeded.set (by simp)⟩
      refine ⟨hset.sound.reopen fun j => ?_, hset.seeded.reopen⟩
      by_cases hj : j = k
      · rw [hj, slotOf_setSlot, Bool.false_and]
      · rw [slotOf_setSlot_ne (by simpa using hj)]
        exact hother htime hsame j hj
    | true =>
      rw [← ht, if_pos rfl]
      refine ⟨h.sound.set_month fun _ => ⟨hscope.1, fun e he _ => ?_, content, payloads (.month m k) c.state c.raws, ?_, ?_, hsame⟩,
        h.seeded.set (by simp)⟩
      · rw [hday]
        rw [mem_monthDays] at he
        exact ⟨h.seeded e (hscope.1.trans he.1) (he.2.le.trans hscope.2), fun item hi => (hgood e (mem_monthDays.mpr he) item hi).2,
          fun item hi => (hgood e (mem_monthDays.mpr he) item hi).1⟩
      · rw [payload, slotOf_setSlot]
        exact hpayload
      · have hread : read = (monthDays m).map fun d => payload c.state c.raws (.daily d) := dailySlots_payloads.trans (by rw [hdays])
        have hset (e : Day) (slot : Slot) : payload (setSlot c.state slot (.month m k)) c.raws (.daily e) = payload c.state c.raws (.daily e) := by
          rw [payload, hday, payload]
        simp only [hset]
        rw [← hread, payloads]
        exact map_some_filterMap hall
  · rw [← Option.some.inj hcontrol]
    exact ⟨h.sound.set_month (by simp), h.seeded.set (by simp)⟩

lemma storeMonth_holds {m : Month} {k : ℕ} (h : Holds labels target none env.compareMonth c.state c.raws)
    (hdone : (slotOf c.state (.month m k)).done = false) (hscope : forwardStart ≤ firstDay m ∧ firstDay (m + 1) ≤ target)
    (hlookup : c.raws.lookup (rawKey env content) = some content)
    (hother : ¬ (oldRaw.isSome ∧ oldRaw ≠ some (rawKey env content)) → o.monthTimeLeft = true →
      env.compareMonth content (payloads (.month m k) c.state c.raws) = some false →
        ∀ j, j ≠ k → (slotOf c.state (.month m j)).done = false) :
    Holds labels target none env.compareMonth (store config o (.month m k) oldRaw env content checked evidence c).1.state c.raws := by
  unfold store
  extract_lets key state items schemaComplete slot c'
  have hother' : o.monthTimeLeft = true → env.compareMonth content (payloads (.month m k) c'.state c'.raws) = some false →
      ∀ j, j ≠ k → (slotOf c'.state (.month m j)).done = false := by
    intro htime hdifference j hj
    have hne : (.month m j : Window) ≠ .month m k := by simpa using hj
    have hset : slotOf c'.state (.month m j) = slotOf state (.month m j) := slotOf_setSlot_ne hne
    rw [hset]
    rcases putEvidence_holds (w := .month m k) oldRaw key evidence h with
      ⟨_, hnone, _⟩ | ⟨hsame, hstate, _⟩
    · exact hnone m j
    · have hslots : slotOf state (.month m j) = slotOf c.state (.month m j) := by
        rw [show state = _ from hstate, slotOf_setSlot_ne hne]
      have hdays : dailySlots (.month m k) c'.state = dailySlots (.month m k) c.state := by
        simp only [dailySlots, c', setSlot, show state = _ from hstate]
      rw [payloads, hdays] at hdifference
      exact hslots ▸ hother hsame htime hdifference j hj
  have hstored : Holds labels target none env.compareMonth c'.state c'.raws := by
    rcases putEvidence_holds (w := .month m k) oldRaw key evidence h with
      ⟨_, hnone, hholds⟩ | ⟨_, hstate, hholds⟩
    · exact ⟨hholds.sound.set_month fun hslot => absurd (hnone m k) (by simpa using hslot), hholds.seeded.set (by simp)⟩
    · have hopen : (slotOf state (.month m k)).done = false := by
        rw [show state = _ from hstate, slotOf_setSlot]
        exact hdone
      exact ⟨hholds.sound.set_month fun hslot => absurd hopen (by simpa using hslot), hholds.seeded.set (by simp)⟩
  have hpayload : payload c'.state c'.raws (.month m k) = some content := by
    rw [payload, slotOf_setSlot]
    exact hlookup
  simp only
  split
  · rw [close_state]
    exact fail_holds hstored
  · rename_i t ht
    exact conclude_holds (controlMonth_holds (c := c') hstored hscope hpayload hother' ht)

@[simp] lemma close_raws {exit : Option Exit} : (close o c exit).1.raws = c.raws := by
  unfold close persist
  cases o.close <;> rfl

@[simp] lemma persist_raws {outcome : Persist} : (persist outcome c).1.raws = c.raws := by
  cases outcome <;> rfl

lemma conclude_raws {ok : Bool} : (conclude o w oldRaw ok c).1.raws = c.raws := by
  unfold conclude
  split_ifs <;> exact close_raws

lemma store_raws : (store config o w oldRaw env content checked evidence c).1.raws = c.raws := by
  unfold store
  cases w with
  | daily d => exact conclude_raws
  | month m k =>
    simp only
    split
    · exact close_raws
    · exact conclude_raws

variable [DecidableEq Content]

lemma immutable_some {raws' : List (String × Content)} (h : immutable raws key content = some raws') :
    raws'.lookup key = some content ∧ ∀ k body, raws.lookup k = some body → raws'.lookup k = some body := by
  unfold immutable at h
  split at h
  · rename_i hnone
    rw [← Option.some.inj h]
    refine ⟨List.lookup_cons_self, fun k body hk => ?_⟩
    rw [List.lookup_cons]
    cases hkey : k == key with
    | true => rw [eq_of_beq hkey, hnone] at hk; cases hk
    | false => exact hk
  · rename_i existing hexisting
    split_ifs at h with hsame
    rw [← Option.some.inj h]
    exact ⟨hsame ▸ hexisting, fun _ _ hk => hk⟩

def received (env : Env Content) (config : Config) (o : Observation Content) (w : Window) (s : State) :
    Option (Content × (String → Checked) × List (String × Evidence)) :=
  match o.fetched with
  | .content content =>
    match env.requireAccountScope content, env.inspectReport content w.start w.stop with
    | .ok statements, some checked =>
      (qualify env.readers config env.boundary (env.sha256 content) statements checked (previousAnchor s w.start)
        o.captureStart o.captureEnd).map fun evidence => (content, checked, evidence)
    | _, _ => none
  | _ => none

def Keeps (env : Env Content) (config : Config) (o : Observation Content) (oldRaw : Option String) (s : State)
    (raws : List (String × Content)) (w : Window) : Prop :=
  match w with
  | .daily d => Covered s d → ∀ r ∈ received env config o (.daily d) s, oldRaw = some (rawKey env r.1) →
      ∀ item ∈ itemsOf config r.2.1 r.2.2, item.2.status = .complete
  | .month m k => ∀ r ∈ received env config o (.month m k) s, ¬ (oldRaw.isSome ∧ oldRaw ≠ some (rawKey env r.1)) → o.monthTimeLeft = true →
      env.compareMonth r.1 (payloads (.month m k) s raws) = some false → ∀ j, j ≠ k → (slotOf s (.month m j)).done = false

omit [DecidableEq Content] in
lemma payloads_extend {m : Month} {j k : ℕ} {raws' : List (String × Content)} (h : Upheld labels opened compare s raws m j)
    (hr : ∀ key body, raws.lookup key = some body → raws'.lookup key = some body) :
    payloads (.month m k) s raws' = payloads (.month m k) s raws := by
  obtain ⟨_, contents, _, hdays, _⟩ := h.evidence
  refine congrArg (List.filterMap id) (List.map_congr_left fun e he => ?_)
  obtain ⟨hentry, hin⟩ := List.mem_filter.mp he
  have hin := of_decide_eq_true hin
  have hd : e.1 ∈ monthDays m := mem_monthDays.mpr ⟨hin.1, Int.lt_of_le_sub_one hin.2⟩
  obtain ⟨body, _, hbody⟩ := List.mem_map.mp (hdays ▸ List.mem_map_of_mem (f := fun d => payload s raws (.daily d)) hd)
  rw [payload, slotOf_entry hentry] at hbody
  obtain ⟨key, hkey, hlookup⟩ := Option.bind_eq_some_iff.mp hbody.symm
  rw [hkey, Option.bind_some, Option.bind_some, hr _ _ hlookup, hlookup]

lemma receive_holds (h : Holds config.labels target (openedBy w) env.compareMonth c.state c.raws) (hraw : (slotOf c.state w).raw = oldRaw)
    (hforward : (slotOf c.state w).forward = none) (hmonth : ∀ m k, w = .month m k → (slotOf c.state w).done = false ∧
      forwardStart ≤ firstDay m ∧ firstDay (m + 1) ≤ target) (hfetched : o.fetched = .content content)
    (hcompletes : completes env config o w c = true) (hkeeps : Keeps env config o oldRaw c.state c.raws w) :
    Holds config.labels target none env.compareMonth (receive config o w oldRaw env content c).1.state
      (receive config o w oldRaw env content c).1.raws := by
  simp only [completes, hfetched] at hcompletes
  unfold receive
  extract_lets c' c''
  have hc' : Holds config.labels target (openedBy w) env.compareMonth c'.state c'.raws := h.congr sameSlots_addRun
  have hslot : slotOf c'.state w = slotOf c.state w := slotOf_addRun
  split
  · rw [sourceFailure, close_raws]
    exact failed_holds h hraw hforward (sourceFailure_failed sameSlots_addRun)
  · rw [close_raws]
    exact failed_holds h hraw hforward ⟨c', "account_scope_mismatch", sameSlots_addRun, by
      rw [close_state]
      exact ⟨rfl, fun u => by cases u <;> rfl⟩⟩
  · rename_i statements hok
    simp only [hok] at hcompletes
    obtain ⟨hcompletes, hqualified⟩ := Bool.and_eq_true_iff.mp hcompletes
    obtain ⟨himmutable, hlater⟩ := Bool.and_eq_true_iff.mp hcompletes
    obtain ⟨raws', hraws⟩ := Option.isSome_iff_exists.mp himmutable
    obtain ⟨hlookup, hextends⟩ := immutable_some hraws
    rw [show immutable c'.raws (rawKey env content) content = some raws' from hraws]
    dsimp only
    rw [if_neg (by simpa using hlater)]
    have hextended : Holds config.labels target (openedBy w) env.compareMonth c.state raws' := ⟨h.sound.extend hextends, h.seeded⟩
    cases hinspect : env.inspectReport content w.start w.stop with
    | none =>
      dsimp only
      rw [close_raws]
      exact failed_holds hextended hraw hforward (failed_close (c := { c' with raws := raws' }) sameSlots_addRun)
    | some checked =>
      simp only [hinspect] at hqualified
      obtain ⟨evidence, hevidence⟩ := Option.isSome_iff_exists.mp hqualified
      have hreceived : (content, checked, evidence) ∈ received env config o w c.state := by
        simp only [received, hfetched, hok, hinspect, hevidence, Option.map_some, Option.mem_def]
      have hsame : previousAnchor c'.state w.start = previousAnchor c.state w.start := rfl
      dsimp only
      rw [hsame, hevidence]
      dsimp only
      rw [store_raws]
      cases w with
      | daily d =>
        refine storeDay_holds (c := { c' with raws := raws' }) (hextended.congr sameSlots_addRun) (hslot ▸ hraw) fun hd hkey => ?_
        have hcovered : Covered c.state d := by
          obtain ⟨m, k, hdone, hm⟩ := hd
          exact ⟨m, k, (congrArg Slot.done (slotOf_addRun (u := .month m k))).symm.trans hdone, hm⟩
        exact hkeeps hcovered _ hreceived hkey
      | month m k =>
        obtain ⟨hdone, hscope⟩ := hmonth m k rfl
        refine storeMonth_holds (c := { c' with raws := raws' }) (hextended.congr sameSlots_addRun) (hslot ▸ hdone) hscope hlookup
          fun hbytes htime hdifference j hj => ?_
        rw [slotOf_addRun]
        by_contra hdone'
        have hupheld := h.sound m j (by simpa using hdone')
        have hpayloads : payloads (.month m k) c.state raws' = payloads (.month m k) c.state c.raws := payloads_extend hupheld hextends
        refine absurd (hkeeps _ hreceived hbytes htime ?_ j hj) hdone'
        rw [← hpayloads]
        exact hdifference

lemma attempt_holds (h : Holds config.labels target (openedBy w) env.compareMonth c.state c.raws) (hraw : (slotOf c.state w).raw = oldRaw)
    (hforward : (slotOf c.state w).forward = none) (hmonth : ∀ m k, w = .month m k → (slotOf c.state w).done = false ∧
      forwardStart ≤ firstDay m ∧ firstDay (m + 1) ≤ target)
    (hcompletes : completes env config o w c = true) (hkeeps : Keeps env config o oldRaw c.state c.raws w) :
    Holds config.labels target none env.compareMonth (attempt config o w oldRaw env c).1.state
      (attempt config o w oldRaw env c).1.raws := by
  unfold attempt
  split
  · rename_i content hfetched
    exact receive_holds h hraw hforward hmonth hfetched hcompletes hkeeps
  · rw [close_raws]
    exact failed_holds h hraw hforward ⟨c, "pending", .refl _, by rw [close_state]; exact .refl _⟩
  · rw [sourceFailure, close_raws]
    exact failed_holds h hraw hforward (sourceFailure_failed (.refl _))
  · rw [close_raws]
    exact failed_holds h hraw hforward (failed_close (.refl _))
  · rename_i htimeout
    rw [completes, htimeout] at hcompletes
    cases hcompletes

lemma attempt_extends {key : String} {body : Content} (h : c.raws.lookup key = some body) :
    (attempt config o w oldRaw env c).1.raws.lookup key = some body := by
  unfold attempt
  split
  · rename_i content hfetched
    unfold receive
    extract_lets c' c''
    split
    · rw [sourceFailure, close_raws]
      exact h
    · rw [close_raws]
      exact h
    · split
      · exact h
      · rename_i raws' hraws
        have hextends := (immutable_some (show immutable c.raws (rawKey env content) content = some raws' from hraws)).2 key body h
        split_ifs
        · exact hextends
        · split
          · rw [close_raws]
            exact hextends
          · split
            · exact hextends
            · rw [store_raws]
              exact hextends
  · rw [close_raws]
    exact h
  · rw [sourceFailure, close_raws]
    exact h
  · rw [close_raws]
    exact h
  · exact h

variable {observe : Window → Observation Content}

def Steady (env : Env Content) (config : Config) (observe : Window → Observation Content) (c : Collector Content) (w : Window) : Prop :=
  match ending env config (observe w) w c with
  | .untouched => True
  | .abandoned => ∀ d, w = .daily d → ¬ Covered c.state d
  | .finished => Keeps env config (observe w) (slotOf c.state w).raw c.state c.raws w

/-- The loop's assertion: an exception may leave the collector's own state in any condition. -/
def Kept (labels : List String) (target : Day) (compare : Content → List Content → Option Bool) (exit : Option Exit)
    (c : Collector Content) : Prop :=
  Sound labels none compare c.persisted c.raws ∧ (exit ≠ some .abort → Holds labels target none compare c.state c.raws)

omit [DecidableEq Content] in
lemma reset_holds (h : Holds labels target none compare s raws) :
    Holds labels target (openedBy w) compare (setSlot s (resetSlot labels (slotOf s w) w) w) raws := by
  cases w with
  | daily d =>
    exact ⟨h.sound.set_day (by simp) fun _ => ⟨rfl, fun hne => absurd rfl hne⟩,
      h.seeded.set fun _ _ _ _ hl => lookup_labels hl⟩
  | month m k => exact ⟨h.sound.set_month (by simp [resetSlot]), h.seeded.set (by simp)⟩

omit [DecidableEq Content] in
lemma reset_uncovered (h : Holds labels target none compare s raws) (hw : ∀ d, w = .daily d → ¬ Covered s d) :
    Holds labels target none compare (setSlot s (resetSlot labels (slotOf s w) w) w) raws := by
  cases w with
  | daily d =>
    have hreset := reset_holds (w := .daily d) h
    exact hreset.close (covered_setSlot_daily.not.mpr (hw d rfl))
  | month m k =>
    have hreset := reset_holds (w := .month m k) h
    exact hreset

omit [DecidableEq Content] in
lemma received_setSlot {slot : Slot} : received env config o w (setSlot s slot w) = received env config o w s := by
  simp only [received, previousAnchor_setSlot]

omit [DecidableEq Content] in
lemma Keeps.reset {slot : Slot} (h : Keeps env config o oldRaw s raws w) : Keeps env config o oldRaw (setSlot s slot w) raws w := by
  cases w with
  | daily d =>
    intro hd r hr
    rw [received_setSlot] at hr
    exact h (covered_setSlot_daily.mp hd) r hr
  | month m k =>
    intro r hr hbytes htime hdifference j hj
    rw [received_setSlot] at hr
    rw [slotOf_setSlot_ne (by simpa using hj)]
    exact h r hr hbytes htime hdifference j hj

lemma collectWindow_kept (hc : Kept config.labels target env.compareMonth none c)
    (hmonth : ∀ m k, w = .month m k → forwardStart ≤ firstDay m ∧ firstDay (m + 1) ≤ target)
    (hsteady : Steady env config observe c w) :
    Kept config.labels target env.compareMonth (collectWindow env config observe c w).2 (collectWindow env config observe c w).1 := by
  obtain ⟨hpersisted, hstate⟩ := hc
  have hholds := hstate (by simp)
  unfold collectWindow
  extract_lets o old opened reset
  have hR : reset.1.state = setSlot c.state (resetSlot config.labels (slotOf c.state w) w) w := persist_state
  have hraws : reset.1.raws = c.raws := persist_raws
  have hcompletes : completes env config o w reset.1 = completes env config o w c := completes_setSlot hR hraws
  by_cases hleft : o.timeLeft = true
  swap
  · simp only [hleft, Bool.not_false, if_true]
    exact ⟨hpersisted, fun _ => hholds⟩
  by_cases hrefused : o.reset = .refused
  · have hp : reset.2 = false ∧ reset.1.persisted = c.persisted := by simp [reset, opened, persist, hrefused]
    simp only [hleft, hp.1, Bool.not_true, Bool.false_eq_true, if_false, Bool.not_false, true_or, if_true]
    rw [Kept, hp.2, hraws]
    exact ⟨hpersisted, fun h => absurd rfl h⟩
  have hp : reset.1.persisted = reset.1.state := persist_persisted hrefused
  -- What the reset leaves is sound wherever the bucket may be left with it.
  have habandoned (ha : ending env config o w c = .abandoned) : Holds config.labels target none env.compareMonth reset.1.state c.raws := by
    rw [hR]
    refine reset_uncovered hholds ?_
    simpa only [Steady, show ending env config (observe w) w c = .abandoned from ha] using hsteady
  split_ifs with h1 h2
  · simp [hleft] at h1
  · refine ⟨?_, fun h => absurd rfl h⟩
    rw [hp, hraws]
    exact (habandoned (ending_of_cut hleft hrefused h2)).sound
  · have hslot : slotOf reset.1.state w = resetSlot config.labels (slotOf c.state w) w := by rw [hR, slotOf_setSlot]
    have hextends : ∀ key body, c.raws.lookup key = some body →
        (attempt config o w old.raw env reset.1).1.raws.lookup key = some body :=
      fun key body hbody => attempt_extends (hraws ▸ hbody)
    have hh : Handled env config o w old.raw reset.1 (attempt config o w old.raw env reset.1) :=
      attempt_handled (by rw [hslot, reset_raw.2.1])
    rcases hh with ⟨hcut, hs, hpers⟩ | ⟨⟨hcomplete, d, exit, hclose, hpers⟩, _⟩
    · have hcut := habandoned (ending_of_incomplete hleft hrefused (.inl (hcompletes ▸ hcut)))
      refine ⟨?_, fun _ => ⟨(hcut.sound.congr hs).extend hextends, hcut.seeded.congr hs⟩⟩
      rw [hpers, hp]
      exact hcut.sound.extend hextends
    · by_cases hclosed : o.close = .refused
      · have ha : ending env config o w c = .abandoned := ending_of_incomplete hleft hrefused (.inr hclosed)
        have hleave : (attempt config o w old.raw env reset.1).2 = some .abort ∧
            (attempt config o w old.raw env reset.1).1.persisted = d.persisted := by
          rw [hclose]
          simp [close, persist, hclosed]
        refine ⟨?_, fun h => absurd hleave.1 h⟩
        rw [hleave.2, hpers, hp]
        exact (habandoned ha).sound.extend hextends
      · have hf : ending env config o w c = .finished :=
          ending_of_completes hleft hrefused h2 (hcompletes ▸ hcomplete) hclosed
        have hkeeps : Keeps env config o old.raw c.state c.raws w := by
          simpa only [Steady, show ending env config (observe w) w c = .finished from hf] using hsteady
        have hraw : (slotOf reset.1.state w).raw = old.raw := by rw [hslot, reset_raw.1]
        have hend := attempt_holds (c := reset.1) (o := o) (by rw [hR, hraws]; exact reset_holds hholds) hraw
          (by rw [hslot, reset_raw.2.2]) (fun m k hw => ⟨by rw [hslot, hw]; rfl, hmonth m k hw⟩)
          hcomplete (by rw [hR, hraws]; exact hkeeps.reset)
        have hlast : (attempt config o w old.raw env reset.1).1.persisted = (attempt config o w old.raw env reset.1).1.state := by
          rw [hclose]
          exact persist_persisted hclosed
        exact ⟨hlast ▸ hend.sound, fun _ => hend⟩

end Windows

section Runs

variable {Content : Type} {labels : List String} {target : Day} {s : State} {raws : List (String × Content)}
  {compare : Content → List Content → Option Bool} {items : List (String × Item)} {days : OrderedMap Day Slot}

lemma addMissing_knows {label other : String} (h : (items.lookup label).isSome) : ((addMissing items other).lookup label).isSome := by
  unfold addMissing
  split_ifs
  · exact h
  · obtain ⟨item, hitem⟩ := Option.isSome_iff_exists.mp h
    rw [List.lookup_append, hitem]
    rfl

lemma addMissing_self {label : String} : ((addMissing items label).lookup label).isSome := by
  unfold addMissing
  split_ifs with h
  · exact h
  · rw [List.lookup_append, Option.not_isSome_iff_eq_none.mp h]
    simp

lemma foldl_addMissing_knows {label : String} (h : (items.lookup label).isSome ∨ label ∈ labels) :
    ((labels.foldl addMissing items).lookup label).isSome := by
  induction labels generalizing items with
  | nil => exact h.resolve_right List.not_mem_nil
  | cons first rest ih =>
    refine ih ?_
    rcases h with h | h
    · exact .inl (addMissing_knows h)
    · rcases List.mem_cons.mp h with rfl | h
      · exact .inl addMissing_self
      · exact .inr h

lemma foldl_addMissing_known (h : ∀ label ∈ labels, (items.lookup label).isSome) : labels.foldl addMissing items = items := by
  induction labels with
  | nil => rfl
  | cons first rest ih =>
    obtain ⟨hfirst, hrest⟩ := List.forall_mem_cons.mp h
    rw [List.foldl_cons, addMissing, if_pos hfirst]
    exact ih hrest

lemma seedDay_get {day e : Day} : ((seedDay labels days day).get? e).getD Slot.empty =
    if e = day then { (days.get? e).getD Slot.empty with accounts := labels.foldl addMissing ((days.get? e).getD Slot.empty).accounts }
    else (days.get? e).getD Slot.empty := by
  by_cases he : e = day
  · subst he
    simp [seedDay, OrderedMap.get?_modify, OrderedMap.get?_insertNew]
  · simp [seedDay, OrderedMap.get?_modify, OrderedMap.get?_insertNew, he]

lemma foldl_seedDay (targets : List Day) (e : Day) : ∃ items, ((targets.foldl (seedDay labels) days).get? e).getD Slot.empty =
      { (days.get? e).getD Slot.empty with accounts := items } ∧
    (Knows labels ((days.get? e).getD Slot.empty) → items = ((days.get? e).getD Slot.empty).accounts) ∧
    (e ∈ targets ∨ Knows labels ((days.get? e).getD Slot.empty) → ∀ label ∈ labels, (items.lookup label).isSome) := by
  induction targets generalizing days with
  | nil => exact ⟨_, rfl, fun _ => rfl, fun h => h.resolve_left List.not_mem_nil⟩
  | cons day targets ih =>
    obtain ⟨items, hslot, hsame, hknown⟩ := @ih (seedDay labels days day)
    rw [seedDay_get] at hslot hsame hknown
    rw [List.foldl_cons]
    by_cases he : e = day
    · rw [if_pos he] at hslot hsame hknown
      have hseeded : Knows labels { (days.get? e).getD Slot.empty with
          accounts := labels.foldl addMissing ((days.get? e).getD Slot.empty).accounts } :=
        fun label hl => foldl_addMissing_knows (.inr hl)
      refine ⟨items, hslot, fun hk => (hsame hseeded).trans (foldl_addMissing_known hk), fun _ => hknown (.inr hseeded)⟩
    · rw [if_neg he] at hslot hsame hknown
      exact ⟨items, hslot, hsame, fun h => hknown (h.imp_left fun hmem => (List.mem_cons.mp hmem).resolve_left he)⟩

variable {env : Env Content} {config : Config} {now : Instant}

def KnownAccounts (labels : List String) (s : State) : Prop := ∀ d, Covered s d → Knows labels (slotOf s (.daily d))

lemma plan_holds (h : Sound [] none env.compareMonth s raws) (hknown : KnownAccounts config.labels s) :
    Holds config.labels (targetDay env.newYork now) none env.compareMonth (plan env config now s).1 raws := by
  have hslot (d : Day) : ∃ items, slotOf (plan env config now s).1 (.daily d) = { slotOf s (.daily d) with accounts := items } ∧
      (Knows config.labels (slotOf s (.daily d)) → items = (slotOf s (.daily d)).accounts) ∧
      (d ∈ Calendar.days forwardStart (targetDay env.newYork now) ∨ Knows config.labels (slotOf s (.daily d)) →
        ∀ label ∈ config.labels, (items.lookup label).isSome) := foldl_seedDay _ d
  have hpayload (w : Window) : payload (plan env config now s).1 raws w = payload s raws w := by
    cases w with
    | daily d =>
      obtain ⟨items, hitems, _⟩ := hslot d
      rw [payload, hitems, payload]
    | month m k => rfl
  refine ⟨fun m k hdone => ?_, fun d hstart hend => ?_⟩
  · obtain ⟨hscope, hdays, hevidence⟩ := h m k hdone
    refine ⟨hscope, fun d hd hne => ?_, by simpa only [hpayload] using hevidence⟩
    obtain ⟨items, hitems, hsame, _⟩ := hslot d
    have hknows : Knows config.labels (slotOf s (.daily d)) := hknown d ⟨m, k, hdone, hd⟩
    obtain ⟨_, hcomplete, hchecked⟩ := hdays d hd hne
    rw [hitems, hsame hknows]
    exact ⟨hknows, hcomplete, hchecked⟩
  · obtain ⟨items, hitems, _, hseeded⟩ := hslot d
    rw [hitems]
    exact hseeded (.inl (mem_days.mpr ⟨hstart, hend⟩))

variable [DecidableEq Content]

def SteadyRun (env : Env Content) (config : Config) (o : RunObservation Content) (persisted : State)
    (raws : List (String × Content)) : Prop :=
  configurationFault config = none → o.first ≠ .refused → KnownAccounts config.labels persisted ∧ (persisted.blocked = none →
    EarlyExit.Along (Steady env config o.window) (collectWindow env config o.window)
      (persist o.first ⟨(plan env config o.started persisted).1, persisted, raws, 0⟩).1 (plan env config o.started persisted).2)

omit [DecidableEq Content] in
lemma Sound.weaken {opened : Option Day} (h : Sound labels opened compare s raws) : Sound [] opened compare s raws := by
  intro m k hdone
  obtain ⟨hscope, hdays, hevidence⟩ := h m k hdone
  refine ⟨hscope, fun d hd hne => ?_, hevidence⟩
  obtain ⟨_, hcomplete, hchecked⟩ := hdays d hd hne
  exact ⟨fun _ hl => absurd hl List.not_mem_nil, hcomplete, hchecked⟩

omit [DecidableEq Content] in
lemma Sound.known (h : Sound [] none compare s raws) (hknown : KnownAccounts labels s) : Sound labels none compare s raws := by
  intro m k hdone
  obtain ⟨hscope, hdays, hevidence⟩ := h m k hdone
  refine ⟨hscope, fun d hd hne => ?_, hevidence⟩
  obtain ⟨_, hcomplete, hchecked⟩ := hdays d hd hne
  exact ⟨hknown d ⟨m, k, hdone, hd⟩, hcomplete, hchecked⟩

lemma collect_sound {o : RunObservation Content} (h : Sound [] none env.compareMonth s raws) (hsteady : SteadyRun env config o s raws) :
    Sound [] none env.compareMonth (collect env config o s raws).persisted (collect env config o s raws).raws ∧
      ((collect env config o s raws).returned.isSome →
        Sound config.labels none env.compareMonth (collect env config o s raws).persisted (collect env config o s raws).raws) := by
  unfold collect
  extract_lets target finish planned opened looped
  have hfinish {queue : List Window} {outcome : Persist} {c : Collector Content} {labels : List String}
      (hp : Sound [] none env.compareMonth c.persisted c.raws) (hs : Sound labels none env.compareMonth c.state c.raws) :
      Sound [] none env.compareMonth (finish queue outcome c).persisted (finish queue outcome c).raws ∧
        ((finish queue outcome c).returned.isSome →
          Sound labels none env.compareMonth (finish queue outcome c).persisted (finish queue outcome c).raws) := by
    cases outcome
    · exact ⟨hs.weaken, fun _ => hs⟩
    · exact ⟨hp, fun hreturned => absurd hreturned (by simp [finish, persist])⟩
    · exact ⟨hs.weaken, fun _ => hs⟩
  split_ifs with hfault hblocked hopened habort
  · exact ⟨h, fun hreturned => absurd hreturned (by simp)⟩
  · have hsame : Sound [] none env.compareMonth { s with lastRun := LastRun.zero } raws := h.congr ⟨rfl, fun u => by cases u <;> rfl⟩
    by_cases hfirst : o.first = .refused
    · rw [hfirst]
      exact ⟨h, fun hreturned => absurd hreturned (by simp [finish, persist])⟩
    · obtain ⟨hknown, _⟩ := hsteady (Option.not_isSome_iff_eq_none.mp hfault) hfirst
      refine hfinish h (hsame.known fun d hcovered => ?_)
      obtain ⟨m, k, hdone, hd⟩ := hcovered
      exact hknown d ⟨m, k, hdone, hd⟩
  · refine ⟨?_, fun hreturned => absurd hreturned (by simp)⟩
    cases ho : o.first with
    | stored => simp [opened, ho, persist] at hopened
    | refused => simpa [opened, ho, persist] using h
    | interrupted =>
      obtain ⟨hknown, _⟩ := hsteady (Option.not_isSome_iff_eq_none.mp hfault) (by simp [ho])
      have hplanned : Holds config.labels (targetDay env.newYork o.started) none env.compareMonth
          (plan env config o.started s).1 raws := plan_holds h hknown
      simpa [opened, ho, persist] using hplanned.sound.weaken
  all_goals
    have hfirst : o.first = .stored := by
      cases ho : o.first <;> simp [opened, ho, persist] at hopened
      rfl
    obtain ⟨hknown, halong⟩ := hsteady (Option.not_isSome_iff_eq_none.mp hfault) (by simp [hfirst])
    have hp : Holds config.labels target none env.compareMonth planned.1 raws := plan_holds h hknown
    have hloop : Kept config.labels target env.compareMonth looped.2 looped.1 := by
      refine EarlyExit.loop_rule (Q := Kept config.labels target env.compareMonth) (P := Steady env config o.window)
        (fun c w hw hc hsteady => collectWindow_kept hc (fun m k hmonth => ?_) hsteady) ?_
        (halong (Option.not_isSome_iff_eq_none.mp hblocked))
      · exact windows_month (hmonth ▸ hw)
      · simp only [opened, hfirst]
        exact ⟨hp.sound, fun _ => hp⟩
  · exact ⟨hloop.1.weaken, fun hreturned => absurd hreturned (by simp)⟩
  · exact hfinish hloop.1.weaken (hloop.2 habort).sound

variable (checks : Config → Env Content) (compare : Content → List Content → Option Bool)

def envOf (config : Config) : Env Content := { checks config with compareMonth := compare }

def nextBucket (b : State × List (String × Content)) (r : Config × RunObservation Content) : State × List (String × Content) :=
  collectInto (envOf checks compare r.1) r.1 b r.2

def SteadyRuns : State × List (String × Content) → List (Config × RunObservation Content) → Prop
  | _, [] => True
  | b, r :: runs => SteadyRun (envOf checks compare r.1) r.1 r.2 b.1 b.2 ∧ SteadyRuns (nextBucket checks compare b r) runs

variable {checks compare}

lemma foldl_sound {b : State × List (String × Content)} {runs : List (Config × RunObservation Content)}
    (h : Sound [] none compare b.1 b.2) (hsteady : SteadyRuns checks compare b runs) :
    Sound [] none compare (runs.foldl (nextBucket checks compare) b).1 (runs.foldl (nextBucket checks compare) b).2 := by
  induction runs generalizing b with
  | nil => exact h
  | cons r runs ih => exact ih (collect_sound (show Sound [] none (envOf checks compare r.1).compareMonth _ _ from h) hsteady.1).1 hsteady.2

lemma steadyRuns_append {b : State × List (String × Content)} {runs : List (Config × RunObservation Content)}
    {last : Config × RunObservation Content} (h : SteadyRuns checks compare b (runs ++ [last])) :
    SteadyRuns checks compare b runs ∧ SteadyRun (envOf checks compare last.1) last.1 last.2
      (runs.foldl (nextBucket checks compare) b).1 (runs.foldl (nextBucket checks compare) b).2 := by
  induction runs generalizing b with
  | nil => exact ⟨trivial, h.1⟩
  | cons r runs ih =>
    obtain ⟨hruns, hlast⟩ := ih h.2
    exact ⟨⟨h.1, hruns⟩, hlast⟩

/-- After steady runs a month control that is done agrees with the reports of all its days. -/
theorem steady_runs_uphold {runs : List (Config × RunObservation Content)} {last : Config × RunObservation Content}
    (h : SteadyRuns checks compare (State.empty, []) (runs ++ [last])) {v : Validation} {left : Outcome Content}
    (hleft : left = collect (envOf checks compare last.1) last.1 last.2 (runs.foldl (nextBucket checks compare) (State.empty, [])).1
      (runs.foldl (nextBucket checks compare) (State.empty, [])).2) (hreturned : left.returned = some v) (m : Month) (k : ℕ)
    (hdone : (slotOf left.persisted (.month m k)).done = true) :
    (∀ d ∈ monthDays m, (∀ item ∈ (slotOf left.persisted (.daily d)).accounts, item.2.status = .complete ∧ item.2.forwardChecked = true) ∧
        ∀ label ∈ last.1.labels, ((slotOf left.persisted (.daily d)).accounts.lookup label).isSome) ∧
      ∃ content payloads, payload left.persisted left.raws (.month m k) = some content ∧
        (monthDays m).map (fun d => payload left.persisted left.raws (.daily d)) = payloads.map some ∧ compare content payloads = some true := by
  obtain ⟨hruns, hlast⟩ := steadyRuns_append h
  have hbucket := foldl_sound (b := (State.empty, [])) (Sound.none_done fun _ _ => rfl) hruns
  obtain ⟨_, hsound⟩ := collect_sound (show Sound [] none (envOf checks compare last.1).compareMonth _ _ from hbucket) hlast
  rw [← hleft] at hsound
  obtain ⟨_, hdays, hevidence⟩ := hsound (by rw [hreturned]; rfl) m k hdone
  refine ⟨fun d hd => ?_, hevidence⟩
  obtain ⟨hknows, hcomplete, hchecked⟩ := hdays d hd (by simp)
  exact ⟨fun item hi => ⟨hcomplete item hi, hchecked item hi⟩, hknows⟩

def quiet (s : State) : Bool := s.months.entries.all fun e => !e.2.done

lemma done_of_quiet (h : quiet s = true) (m : Month) (k : ℕ) : (slotOf s (.month m k)).done = false := by
  change ((s.months.get? (toLex (m, k))).getD Slot.empty).done = false
  cases hget : s.months.get? (toLex (m, k)) with
  | none => rfl
  | some slot =>
    have hmem := List.all_eq_true.mp h _ ((OrderedMap.mem_entries _).mpr hget)
    simpa using hmem

lemma uncovered_of_quiet (h : quiet s = true) (d : Day) : ¬ Covered s d := by
  rintro ⟨m, k, hdone, _⟩
  rw [done_of_quiet h m k] at hdone
  cases hdone

lemma steady_of_quiet {c : Collector Content} {observe : Window → Observation Content} {w : Window}
    (h : quiet c.state = true ∨ (observe w).timeLeft = false) : Steady env config observe c w := by
  unfold Steady
  rcases h with h | h
  · have hcovered := uncovered_of_quiet h
    split
    · trivial
    · exact fun d _ => hcovered d
    · cases w with
      | daily d => exact fun hd => absurd hd (hcovered d)
      | month m k => exact fun _ _ _ _ _ j _ => done_of_quiet h m j
  · simp only [ending, h, Bool.not_false, true_or, if_true]

end Runs

section Winter

open Validation

def text₀ (day : Day) : String := String.singleton (Char.ofNat day.toNat)

def readDay₀ (text : String) : Option Day := text.toList.head?.map fun c => (c.toNat : ℤ)

def readers₁ : Readers where
  fromisoformat text := (readDay₀ text).map fun day => ⟨EventChain.noon day, some 0⟩
  zoneInfo name := if name = "UTC" then some ⟨fun _ => 0⟩ else none
  strptimeDay := readDay₀
  fingerprint _ := "f"

def checks₀ (_ : Config) : Env Report where
  readers := readers₁
  newYork := ⟨fun _ => 0⟩
  boundary := EventChain.noon 20759
  sha256 report := text₀ report.1 ++ text₀ report.2
  requireAccountScope report :=
    .ok [⟨[("accountId", "U1"), ("zone", "UTC"), ("asOf", text₀ report.1 ++ "T"), ("toDate", text₀ report.1)], []⟩]
  inspectReport _ _ _ := some fun _ => ⟨.complete, [], .partial_⟩
  compareMonth _ _ := none

def compare₀ (month : Report) (daily : List Report) : Option Bool := some (month.2 == 0 && daily.all fun day => day.2 == 0)

def night₁ (now : Instant) (fetched : Window → Fetched Report) (timeLeft : Window → Bool) : Config × RunObservation Report :=
  (EventChain.config₀, ⟨now, .stored, fun w => ⟨timeLeft w, .stored, false, false, now, fetched w, now, true, now, .stored⟩, .stored⟩)

def report₀ (w : Window) : Fetched Report := .content (w.stop, 0)

def week₀ (day : Day) : Config × RunObservation Report := night₁ ((day + 1) * hours 24) report₀ fun w => day - 7 < w.start

-- each run reads the seven days up to its target and then has no time for the holes of November
def winter₀ : List (Config × RunObservation Report) := [20760, 20794, 20801, 20808, 20815].map week₀

def control₀ : Config × RunObservation Report := night₁ (20821 * hours 24) report₀ fun w => 20788 ≤ w.start

def bucket₀ : State × List (String × Report) := winter₀.foldl (nextBucket checks₀ compare₀) (State.empty, [])

def left₀ (r : Config × RunObservation Report) (b : State × List (String × Report)) : Outcome Report :=
  collect (envOf checks₀ compare₀ r.1) r.1 r.2 b.1 b.2

def cut₀ : Config × RunObservation Report :=
  night₁ (20822 * hours 24) (fun w => if w.start = 20818 then .timeout else report₀ w) (fun _ => true)

def QuietRun (b : State × List (String × Report)) (r : Config × RunObservation Report) : Prop :=
  quiet b.1 = true ∧ EarlyExit.Along (fun c w => quiet c.state = true ∨ (r.2.window w).timeLeft = false)
    (collectWindow (envOf checks₀ compare₀ r.1) r.1 r.2.window)
    (persist r.2.first ⟨(plan (envOf checks₀ compare₀ r.1) r.1 r.2.started b.1).1, b.1, b.2, 0⟩).1
    (plan (envOf checks₀ compare₀ r.1) r.1 r.2.started b.1).2

instance (b : State × List (String × Report)) (r : Config × RunObservation Report) : Decidable (QuietRun b r) := by
  unfold QuietRun
  infer_instance

def QuietRuns : State × List (String × Report) → List (Config × RunObservation Report) → Prop
  | _, [] => True
  | b, r :: runs => QuietRun b r ∧ QuietRuns (nextBucket checks₀ compare₀ b r) runs

instance decidableQuietRuns : ∀ b runs, Decidable (QuietRuns b runs)
  | _, [] => isTrue trivial
  | b, r :: runs =>
    have := decidableQuietRuns (nextBucket checks₀ compare₀ b r) runs
    inferInstanceAs (Decidable (QuietRun b r ∧ QuietRuns (nextBucket checks₀ compare₀ b r) runs))

lemma steadyRuns_of_quiet {b : State × List (String × Report)} {runs : List (Config × RunObservation Report)} (h : QuietRuns b runs) :
    SteadyRuns checks₀ compare₀ b runs := by
  induction runs generalizing b with
  | nil => trivial
  | cons r runs ih =>
    obtain ⟨⟨hquiet, halong⟩, hruns⟩ := h
    refine ⟨fun _ _ => ⟨fun d hd => absurd hd (uncovered_of_quiet hquiet d), fun _ => ?_⟩, ih hruns⟩
    exact halong.mono fun c w => steady_of_quiet

lemma winter₀_runs : QuietRuns (State.empty, []) (winter₀ ++ [control₀]) ∧
    ((left₀ control₀ bucket₀).returned = some .unreconciled ∧ (slotOf (left₀ control₀ bucket₀).persisted (.month 24323 3)).done = true) ∧
    (left₀ cut₀ (nextBucket checks₀ compare₀ bucket₀ control₀)).returned = some .unreconciled ∧
    (slotOf (left₀ cut₀ (nextBucket checks₀ compare₀ bucket₀ control₀)).persisted (.month 24323 3)).done = true ∧
    (slotOf (left₀ cut₀ (nextBucket checks₀ compare₀ bucket₀ control₀)).persisted (.daily 20818)).accounts.map (fun item => item.2.status) =
      [.missing] := by
  decide +kernel

theorem steady_runs_uphold₀ : (slotOf (left₀ control₀ bucket₀).persisted (.month 24323 3)).done = true ∧
    ∀ d ∈ monthDays 24323, ∀ item ∈ (slotOf (left₀ control₀ bucket₀).persisted (.daily d)).accounts, item.2.status = .complete := by
  obtain ⟨hquiet, ⟨hreturned, hdone⟩, _⟩ := winter₀_runs
  have hupheld := steady_runs_uphold (steadyRuns_of_quiet hquiet) (rfl : left₀ control₀ bucket₀ = _) hreturned 24323 3 hdone
  exact ⟨hdone, fun d hd item hi => ((hupheld.1 d hd).1 item hi).1⟩

theorem cut_fetch_keeps_control : ¬ ∀ (runs : List (Config × RunObservation Report)) (last : Config × RunObservation Report) (v : Validation),
    (left₀ last (runs.foldl (nextBucket checks₀ compare₀) (State.empty, []))).returned = some v →
    ∀ m k, (slotOf (left₀ last (runs.foldl (nextBucket checks₀ compare₀) (State.empty, []))).persisted (.month m k)).done = true →
      ∀ d ∈ monthDays m, ∀ item ∈ (slotOf (left₀ last (runs.foldl (nextBucket checks₀ compare₀) (State.empty, []))).persisted (.daily d)).accounts,
        item.2.status = .complete := by
  intro h
  obtain ⟨_, _, hreturned, hdone, hmissing⟩ := winter₀_runs
  have hruns : (winter₀ ++ [control₀]).foldl (nextBucket checks₀ compare₀) (State.empty, []) = nextBucket checks₀ compare₀ bucket₀ control₀ := by
    rw [List.foldl_append]
    rfl
  have hcut := h (winter₀ ++ [control₀]) cut₀ .unreconciled (by rw [hruns]; exact hreturned) 24323 3 (by rw [hruns]; exact hdone) 20818
    (by decide)
  rw [hruns] at hcut
  obtain ⟨item, hitem, hstatus⟩ : ∃ item ∈ (slotOf (left₀ cut₀ (nextBucket checks₀ compare₀ bucket₀ control₀)).persisted
      (.daily 20818)).accounts, item.2.status = .missing := List.mem_map.mp (hmissing ▸ List.mem_singleton_self _)
  rw [hcut item hitem] at hstatus
  cases hstatus

end Winter

end IbkrPlatform.FlexDaily.MonthControls
