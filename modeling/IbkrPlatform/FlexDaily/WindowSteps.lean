import IbkrPlatform.FlexDaily.Collect

/-! What one window of the queue does to the slots of the coverage state. -/

namespace IbkrPlatform.FlexDaily.WindowSteps

open Library Calendar Forward Coverage Collect

section Slots

variable {state : State} {slot : Slot} {w u : Window} {start : Day}

@[simp] lemma slotOf_setSlot : slotOf (setSlot state slot w) w = slot := by
  cases w <;> simp [slotOf, setSlot]

lemma slotOf_setSlot_ne (h : u ≠ w) : slotOf (setSlot state slot w) u = slotOf state u := by
  cases w with
  | daily d =>
    cases u with
    | daily e =>
      have he : e ≠ d := fun he => h (by rw [he])
      simp [slotOf, setSlot, OrderedMap.get?_insert_ne _ _ he]
    | month m k => rfl
  | month m k =>
    cases u with
    | daily e => rfl
    | month m' k' =>
      have he : toLex (m', k') ≠ toLex (m, k) := by simpa using h
      simp [slotOf, setSlot, OrderedMap.get?_insert_ne _ _ he]

@[simp] lemma slotOf_addRun {f : LastRun → LastRun} : slotOf (addRun state f) u = slotOf state u := by
  cases u <;> rfl

def reaches (state : State) (start : Day) : Window → Bool
  | .daily day => start < day ∧ inScope state day
  | .month m _ => forwardStart ≤ firstDay m

def withdrawn (slot : Slot) : Window → Slot
  | .daily _ => withdrawDay slot
  | .month _ _ => withdrawMonth slot

lemma slotOf_invalidateFollowing : slotOf (invalidateFollowing state start) u =
    if reaches state start u then withdrawn (slotOf state u) u else slotOf state u := by
  cases u with
  | daily d =>
    simp only [slotOf, invalidateFollowing, OrderedMap.get?_mapValues, reaches, withdrawn, decide_eq_true_eq]
    cases state.days.get? d with
    | none => split_ifs <;> rfl
    | some slot => rfl
  | month m k =>
    simp only [slotOf, invalidateFollowing, OrderedMap.get?_mapValues, reaches, withdrawn, decide_eq_true_eq]
    cases state.months.get? (toLex (m, k)) with
    | none => split_ifs <;> rfl
    | some slot => rfl

@[simp] lemma withdrawn_raw : (withdrawn slot u).raw = slot.raw := by
  cases u <;> rfl

@[simp] lemma withdrawn_validatedAt : (withdrawn slot u).validatedAt = none := by
  cases u <;> rfl

variable {Content : Type} {o : Observation Content} {oldRaw : Option String} {c : Collector Content}

def cascades (oldRaw : Option String) (slot : Slot) : Bool := oldRaw.isSome ∧ slot.forward.getD [] = []

lemma fail_slotOf_ne {reason : String} (h : u ≠ w) : slotOf (fail o w oldRaw reason c).state u =
    if cascades oldRaw (slotOf c.state w) ∧ reaches c.state w.start u then withdrawn (slotOf c.state u) u
    else slotOf c.state u := by
  simp only [fail, slotOf_addRun, slotOf_setSlot_ne h, cascades, decide_eq_true_eq]
  by_cases hc : oldRaw.isSome ∧ (slotOf c.state w).forward.getD [] = []
  · simp only [hc, and_self, if_true, true_and, slotOf_invalidateFollowing]
  · simp only [hc, if_false, false_and]

lemma fail_slotOf (o : Observation Content) (w : Window) (oldRaw : Option String) (reason : String)
    (c : Collector Content) : ∃ slot, slotOf (fail o w oldRaw reason c).state w = failed slot o.finishedAt reason ∧
      slot.raw = (slotOf c.state w).raw ∧ slot.forward = (slotOf c.state w).forward ∧
      ((slotOf c.state w).validatedAt = none → slot.validatedAt = none) := by
  simp only [fail, slotOf_addRun, slotOf_setSlot]
  refine ⟨_, rfl, ?_⟩
  split_ifs
  · rw [slotOf_invalidateFollowing]
    split_ifs with hr
    · cases w with
      | daily d => simp [reaches, Window.start] at hr
      | month m k => exact ⟨rfl, rfl, fun _ => rfl⟩
    · exact ⟨rfl, rfl, id⟩
  · exact ⟨rfl, rfl, id⟩

@[simp] lemma close_state {exit : Option Exit} : (close o c exit).1.state = c.state := by
  unfold close persist
  cases o.close <;> rfl

lemma persist_state {outcome : Persist} : (persist outcome c).1.state = c.state := by
  cases outcome <;> rfl

lemma persist_persisted {outcome : Persist} (h : outcome ≠ .refused) :
    (persist outcome c).1.persisted = (persist outcome c).1.state := by
  cases outcome with
  | stored => rfl
  | refused => exact absurd rfl h
  | interrupted => rfl

lemma reset_raw {labels : List String} {slot : Slot} :
    (resetSlot labels slot w).raw = slot.raw ∧ (resetSlot labels slot w).validatedAt = none ∧
      (resetSlot labels slot w).forward = none := by
  cases w <;> exact ⟨rfl, rfl, rfl⟩

@[simp] lemma setSlot_lastRun : (setSlot state slot w).lastRun = state.lastRun := by
  cases w <;> rfl

@[simp] lemma setSlot_forwardTarget : (setSlot state slot w).forwardTarget = state.forwardTarget := by
  cases w <;> rfl

lemma fail_lastRun {reason : String} : (fail o w oldRaw reason c).state.lastRun =
    { c.state.lastRun with windowsFailed := c.state.lastRun.windowsFailed + 1 } := by
  simp only [fail, addRun, setSlot_lastRun]
  split_ifs <;> rfl

lemma fail_forwardTarget {reason : String} :
    (fail o w oldRaw reason c).state.forwardTarget = c.state.forwardTarget := by
  simp only [fail, addRun, setSlot_forwardTarget]
  split_ifs <;> rfl

lemma reaches_congr {s t : State} (h : s.forwardTarget = t.forwardTarget) : reaches s start u = reaches t start u := by
  cases u with
  | daily d => simp [reaches, inScope, h]
  | month m k => rfl

@[simp] lemma withdrawn_withdrawn : withdrawn (withdrawn slot u) u = withdrawn slot u := by
  cases u with
  | daily d => simp [withdrawn, withdrawDay]
  | month m k => rfl

def swept (cascade : Bool) (state : State) (start : Day) (u : Window) : Slot :=
  if cascade ∧ reaches state start u then withdrawn (slotOf state u) u else slotOf state u

def Trimmed (a b : Slot) : Prop := b.forward = a.forward ∧ b.raw = a.raw ∧ (b.validatedAt.isSome → b = a)

lemma Trimmed.refl (a : Slot) : Trimmed a a := ⟨rfl, rfl, fun _ => rfl⟩

lemma trimmed_reopenDay (a : Slot) : Trimmed a (reopenDay a) := ⟨rfl, rfl, by simp [reopenDay]⟩

lemma slotOf_reopenDays : Trimmed (slotOf state u) (slotOf (reopenDays w state) u) := by
  cases u with
  | month m k => exact .refl _
  | daily d =>
    simp only [slotOf, reopenDays, OrderedMap.get?_mapValues]
    cases state.days.get? d with
    | none => exact .refl _
    | some slot =>
      simp only [Option.map_some, Option.getD_some]
      split_ifs
      · exact trimmed_reopenDay slot
      · exact .refl _

structure Stored (w : Window) (oldRaw : Option String) (key : String) (evidence : List (String × Evidence))
    (items : List (String × Item)) (s t : State) : Prop where
  target : t.forwardTarget = s.forwardTarget
  others : ∃ cascade : Bool, (oldRaw.isSome → oldRaw ≠ some key → cascade = true) ∧
    ∀ u, u ≠ w → Trimmed (swept cascade s w.start u) (slotOf t u)
  forward : (slotOf t w).forward = some evidence
  raw : (slotOf t w).raw = some key
  validated : (slotOf t w).validatedAt.isSome → ∀ item ∈ items, item.2.status = .complete

variable {key : String} {evidence : List (String × Evidence)} {items : List (String × Item)} {s : State}

lemma Trimmed.withdrawn {a b : Slot} (h : Trimmed a b) (u : Window) :
    Trimmed (withdrawn a u) (withdrawn b u) := by
  refine ⟨?_, by simpa using h.2.1, by simp⟩
  cases u with
  | daily d => rfl
  | month m k => exact h.1

lemma swept_or {cascade more : Bool} {t : State} (hs : t.forwardTarget = s.forwardTarget)
    (h : Trimmed (swept cascade s start u) slot) :
    Trimmed (swept (cascade || more) s start u)
      (if more ∧ reaches t start u then WindowSteps.withdrawn slot u else slot) := by
  rw [reaches_congr hs]
  by_cases hm : more ∧ reaches s start u
  · have hw := h.withdrawn u
    have he : WindowSteps.withdrawn (swept cascade s start u) u = WindowSteps.withdrawn (slotOf s u) u := by
      unfold swept
      split_ifs <;> simp
    rw [he] at hw
    simpa only [swept, hm, Bool.or_true, and_self, if_true] using hw
  · have he : swept (cascade || more) s start u = swept cascade s start u := by
      unfold swept
      cases more <;> simp_all
    simpa only [he, hm, if_false] using h

lemma Stored.fail (h : Stored w oldRaw key evidence items s c.state)
    (hv : (slotOf c.state w).validatedAt = none) (reason : String) :
    Stored w oldRaw key evidence items s (fail o w oldRaw reason c).state := by
  obtain ⟨cascade, hc, ho⟩ := h.others
  obtain ⟨slot, hslot, hraw, hforward, hnone⟩ := fail_slotOf o w oldRaw reason c
  refine ⟨fail_forwardTarget.trans h.target, ⟨cascade || cascades oldRaw (slotOf c.state w), ?_, ?_⟩, ?_, ?_, ?_⟩
  · intro h1 h2
    rw [hc h1 h2, Bool.true_or]
  · intro u hu
    rw [fail_slotOf_ne hu]
    exact swept_or h.target (ho u hu)
  · rw [hslot]
    exact hforward.trans h.forward
  · rw [hslot]
    exact hraw.trans h.raw
  · rw [hslot]
    simp [failed, hnone hv]

lemma Trimmed.trans {a b d : Slot} (h : Trimmed a b) (h' : Trimmed b d) : Trimmed a d := by
  refine ⟨h'.1.trans h.1, h'.2.1.trans h.2.1, fun hv => ?_⟩
  have hd := h'.2.2 hv
  exact hd.trans (h.2.2 (hd ▸ hv))

lemma Stored.trim {t t' : State} (h : Stored w oldRaw key evidence items s t)
    (ht : t'.forwardTarget = t.forwardTarget) (ho : ∀ u, u ≠ w → Trimmed (slotOf t u) (slotOf t' u))
    (hf : (slotOf t' w).forward = (slotOf t w).forward) (hr : (slotOf t' w).raw = (slotOf t w).raw)
    (hv : (slotOf t' w).validatedAt.isSome → ∀ item ∈ items, item.2.status = .complete) :
    Stored w oldRaw key evidence items s t' where
  target := ht.trans h.target
  others := by
    obtain ⟨cascade, hc, hs⟩ := h.others
    exact ⟨cascade, hc, fun u hu => (hs u hu).trans (ho u hu)⟩
  forward := hf.trans h.forward
  raw := hr.trans h.raw
  validated := hv

lemma Stored.conclude {ok : Bool} (h : Stored w oldRaw key evidence items s c.state)
    (hv : (slotOf c.state w).validatedAt = none) (hok : ok = true → ∀ item ∈ items, item.2.status = .complete) :
    Stored w oldRaw key evidence items s (conclude o w oldRaw ok c).1.state := by
  unfold Collect.conclude
  split_ifs with hk
  · rw [close_state]
    refine h.trim ?_ (fun u hu => ?_) ?_ ?_ fun _ => hok hk
    · simp [addRun]
    · simpa [slotOf_setSlot_ne hu] using Trimmed.refl _
    · simp
    · simp
  · rw [close_state]
    exact h.fail hv _

lemma controlMonth_trimmed {env : Env Content} {content : Content} {schemaComplete : Bool} {m : Month} {k : ℕ}
    {t : State} (h : controlMonth o (.month m k) env content schemaComplete c = some t) :
    t.forwardTarget = c.state.forwardTarget ∧
      (∀ u, u ≠ .month m k → Trimmed (slotOf c.state u) (slotOf t u)) ∧
      ∃ done, slotOf t (.month m k) = { slotOf c.state (.month m k) with done := done } := by
  have hset (done : Bool) (u : Window) (hu : u ≠ .month m k) : Trimmed (slotOf c.state u)
      (slotOf (setSlot c.state { slotOf c.state (.month m k) with done := done } (.month m k)) u) := by
    rw [slotOf_setSlot_ne hu]
    exact .refl _
  unfold controlMonth at h
  extract_lets payloads at h
  split_ifs at h
  · obtain ⟨same, _, rfl⟩ := Option.map_eq_some_iff.mp h
    split_ifs
    · exact ⟨setSlot_forwardTarget, hset _, _, slotOf_setSlot⟩
    · refine ⟨setSlot_forwardTarget, fun u hu => (hset _ u hu).trans slotOf_reopenDays, same && schemaComplete, ?_⟩
      exact slotOf_setSlot (w := .month m k)
  · obtain rfl := Option.some.inj h
    exact ⟨setSlot_forwardTarget, hset _, _, slotOf_setSlot⟩

lemma putEvidence_ne (h : u ≠ w) : slotOf (putEvidence w oldRaw key evidence s) u =
    swept (oldRaw.isSome ∧ oldRaw ≠ some key) s w.start u := by
  have hs : slotOf (setSlot s { slotOf s w with forward := some evidence } w) u = slotOf s u :=
    slotOf_setSlot_ne h
  have hr : reaches (setSlot s { slotOf s w with forward := some evidence } w) w.start u =
      reaches s w.start u := reaches_congr setSlot_forwardTarget
  by_cases hc : oldRaw.isSome ∧ oldRaw ≠ some key
  · simp only [putEvidence, swept, if_pos hc, slotOf_invalidateFollowing, hr, hs, decide_eq_true hc, true_and]
  · simp only [putEvidence, swept, if_neg hc, hs, decide_eq_false hc, Bool.false_eq_true, false_and, if_false]

lemma putEvidence_self : (slotOf (putEvidence w oldRaw key evidence s) w).forward = some evidence ∧
    ((slotOf s w).validatedAt = none → (slotOf (putEvidence w oldRaw key evidence s) w).validatedAt = none) := by
  have hs : slotOf (setSlot s { slotOf s w with forward := some evidence } w) w =
      { slotOf s w with forward := some evidence } := slotOf_setSlot
  unfold putEvidence
  split_ifs
  · rw [slotOf_invalidateFollowing, hs]
    split_ifs with hr
    · cases w with
      | daily d => simp [reaches, Window.start] at hr
      | month m k => exact ⟨rfl, fun _ => rfl⟩
    · exact ⟨rfl, id⟩
  · rw [hs]
    exact ⟨rfl, id⟩

lemma putEvidence_target : (putEvidence w oldRaw key evidence s).forwardTarget = s.forwardTarget := by
  unfold putEvidence
  split_ifs <;> simp [invalidateFollowing]

lemma putEvidence_stored (hv : (slotOf s w).validatedAt = none) (accounts : List (String × Item)) :
    Stored w oldRaw key evidence items s (setSlot (putEvidence w oldRaw key evidence s)
      { slotOf (putEvidence w oldRaw key evidence s) w with raw := some key, accounts := accounts } w) where
  target := setSlot_forwardTarget.trans putEvidence_target
  others := by
    refine ⟨decide (oldRaw.isSome ∧ oldRaw ≠ some key), fun h h' => by simp [h, h'], fun u hu => ?_⟩
    rw [slotOf_setSlot_ne hu, putEvidence_ne hu]
    exact .refl _
  forward := by simpa using putEvidence_self.1
  raw := by simp
  validated := by simp [putEvidence_self.2 hv]

lemma store_stored {config : Config} {env : Env Content} {content : Content} {checked : String → Checked}
    (hv : (slotOf c.state w).validatedAt = none) :
    Stored w oldRaw (rawKey env content) evidence (itemsOf config checked evidence) c.state
      (store config o w oldRaw env content checked evidence c).1.state := by
  have hcomplete {items : List (String × Item)} (h : (items.all fun item => item.2.status = .complete) = true) :
      ∀ item ∈ items, item.2.status = .complete := by simpa using h
  unfold store
  extract_lets key state items schemaComplete slot c'
  cases w with
  | daily d =>
    refine Stored.conclude (putEvidence_stored hv items) ?_ hcomplete
    simpa using putEvidence_self.2 hv
  | month m k =>
    have hs : Stored (.month m k) oldRaw key evidence items c.state
        (setSlot state { slotOf state (.month m k) with raw := some key } (.month m k)) :=
      putEvidence_stored hv _
    have hn : (slotOf state (.month m k)).validatedAt = none := putEvidence_self.2 hv
    simp only
    have hc' : slotOf c'.state (.month m k) = { slotOf state (.month m k) with raw := some key } := by
      simp [c', slot]
    split
    · rw [close_state]
      exact hs.fail (c := c') (by rw [hc', hn]) _
    · rename_i t ht
      obtain ⟨hct, hco, done, hcs⟩ := controlMonth_trimmed ht
      have hslot : slotOf t (.month m k) = { slotOf state (.month m k) with raw := some key, done := done } := by
        rw [hcs, hc']
      have ht : Stored (.month m k) oldRaw key evidence items c.state t :=
        hs.trim hct hco (by simp [hslot]) (by simp [hslot]) (by simp [hslot, hn])
      refine ht.conclude (by simp [hslot, hn]) fun hk => hcomplete ?_
      exact (of_decide_eq_true hk).1

def SameSlots (s t : State) : Prop := t.forwardTarget = s.forwardTarget ∧ ∀ u, slotOf t u = slotOf s u

lemma SameSlots.refl (s : State) : SameSlots s s := ⟨rfl, fun _ => rfl⟩

lemma sameSlots_addRun {f : LastRun → LastRun} : SameSlots s (addRun s f) := ⟨rfl, fun _ => slotOf_addRun⟩

lemma SameSlots.trans {t v : State} (h : SameSlots s t) (h' : SameSlots t v) : SameSlots s v :=
  ⟨h'.1.trans h.1, fun u => (h'.2 u).trans (h.2 u)⟩

lemma SameSlots.swept {t : State} (h : SameSlots s t) (cascade : Bool) (u : Window) :
    swept cascade t start u = swept cascade s start u := by
  unfold WindowSteps.swept
  rw [reaches_congr h.1, h.2 u]

lemma Stored.from_same {t v : State} (h : Stored w oldRaw key evidence items t v) (hs : SameSlots s t) :
    Stored w oldRaw key evidence items s v where
  target := h.target.trans hs.1
  others := by
    obtain ⟨cascade, hc, ho⟩ := h.others
    exact ⟨cascade, hc, fun u hu => hs.swept cascade u ▸ ho u hu⟩
  forward := h.forward
  raw := h.raw
  validated := h.validated

def Failed (o : Observation Content) (w : Window) (oldRaw : Option String) (s t : State) : Prop :=
  ∃ (c : Collector Content) (reason : String),
    SameSlots s c.state ∧ SameSlots (fail o w oldRaw reason c).state t

lemma failed_close {exit : Option Exit} {reason : String} (h : SameSlots s c.state) :
    Failed o w oldRaw s (close o (fail o w oldRaw reason c) exit).1.state :=
  ⟨c, reason, h, by rw [close_state]; exact .refl _⟩

lemma sourceFailure_failed {error : SourceError} (h : SameSlots s c.state) :
    Failed o w oldRaw s (sourceFailure o w oldRaw error c).1.state := by
  refine ⟨c, error.providerErrorCode.getD "transport_or_format", h, ?_⟩
  unfold sourceFailure
  rw [close_state]
  constructor
  · split_ifs <;> rfl
  · intro u
    cases u <;> split_ifs <;> rfl

variable [DecidableEq Content] {config : Config} {env : Env Content}

structure Accepted (env : Env Content) (config : Config) (o : Observation Content) (w : Window) (s : State)
    (content : Content) (checked : String → Checked) (evidence : List (String × Evidence)) : Prop where
  fetched : o.fetched = .content content
  inspected : env.inspectReport content w.start w.stop = some checked
  qualified : ∃ statements, env.requireAccountScope content = .ok statements ∧
    qualify env.readers config env.boundary (env.sha256 content) statements checked
      (previousAnchor s w.start) o.captureStart o.captureEnd = some evidence

def completes (env : Env Content) (config : Config) (o : Observation Content) (w : Window)
    (c : Collector Content) : Bool :=
  match o.fetched with
  | .timeout => false
  | .content content =>
    match env.requireAccountScope content with
    | .error _ => true
    | .ok statements =>
      (immutable c.raws (rawKey env content) content).isSome && !o.escapesLater &&
        match env.inspectReport content w.start w.stop with
        | none => true
        | some checked => (qualify env.readers config env.boundary (env.sha256 content) statements checked
            (previousAnchor c.state w.start) o.captureStart o.captureEnd).isSome
  | _ => true

def Handled (env : Env Content) (config : Config) (o : Observation Content) (w : Window)
    (oldRaw : Option String) (c : Collector Content) (p : Collector Content × Option Exit) : Prop :=
  completes env config o w c = false ∧ SameSlots c.state p.1.state ∧ p.1.persisted = c.persisted ∨
    (completes env config o w c = true ∧ ∃ d exit, p = close o d exit ∧ d.persisted = c.persisted) ∧
      (Failed o w oldRaw c.state p.1.state ∨
        ∃ content checked evidence, Accepted env config o w c.state content checked evidence ∧
          Stored w oldRaw (rawKey env content) evidence (itemsOf config checked evidence) c.state p.1.state)

omit [DecidableEq Content] in
lemma sourceFailure_closes {error : SourceError} :
    ∃ d exit, sourceFailure o w oldRaw error c = close o d exit ∧ d.persisted = c.persisted :=
  ⟨_, _, rfl, rfl⟩

omit [DecidableEq Content] in
lemma conclude_closes {ok : Bool} :
    ∃ d exit, conclude o w oldRaw ok c = close o d exit ∧ d.persisted = c.persisted := by
  unfold conclude
  split_ifs <;> exact ⟨_, _, rfl, rfl⟩

omit [DecidableEq Content] in
lemma store_closes (content : Content) (checked : String → Checked) :
    ∃ d exit, store config o w oldRaw env content checked evidence c = close o d exit ∧
      d.persisted = c.persisted := by
  unfold store
  cases w with
  | daily d => exact conclude_closes
  | month m k =>
    simp only
    split
    · exact ⟨_, _, rfl, rfl⟩
    · exact conclude_closes

lemma receive_handled {content : Content} (hv : (slotOf c.state w).validatedAt = none)
    (hf : o.fetched = .content content) :
    Handled env config o w oldRaw c (receive config o w oldRaw env content c) := by
  have hcomplete : completes env config o w c = match env.requireAccountScope content with
    | .error _ => true
    | .ok statements => (immutable c.raws (rawKey env content) content).isSome && !o.escapesLater &&
        match env.inspectReport content w.start w.stop with
        | none => true
        | some checked => (qualify env.readers config env.boundary (env.sha256 content) statements checked
            (previousAnchor c.state w.start) o.captureStart o.captureEnd).isSome := by
    simp only [completes, hf]
  unfold receive
  extract_lets c' c''
  have hs : SameSlots c.state c'.state := sameSlots_addRun
  split
  · rename_i herror
    exact Or.inr ⟨⟨by simp [hcomplete, herror], sourceFailure_closes⟩, Or.inl (sourceFailure_failed hs)⟩
  · rename_i herror
    refine Or.inr ⟨⟨by simp [hcomplete, herror], _, _, rfl, rfl⟩, Or.inl ⟨c', "account_scope_mismatch", hs, ?_⟩⟩
    rw [close_state]
    exact ⟨rfl, fun u => by cases u <;> rfl⟩
  · rename_i statements hok
    simp only [hok] at hcomplete
    split
    · rename_i hi
      exact Or.inl ⟨by simp [hcomplete, show immutable c.raws (rawKey env content) content = none from hi], hs, rfl⟩
    · rename_i raws hi
      have hraws : immutable c.raws (rawKey env content) content = some raws := hi
      split_ifs with hlater
      · exact Or.inl ⟨by simp [hcomplete, hlater], hs, rfl⟩
      split
      · rename_i hnone
        exact Or.inr ⟨⟨by simp [hcomplete, hraws, hlater, hnone], _, _, rfl, rfl⟩,
          Or.inl (failed_close (c := { c' with raws := raws }) hs)⟩
      · rename_i checked hchecked
        split
        · rename_i hq
          have hnone : qualify env.readers config env.boundary (env.sha256 content) statements checked
            (previousAnchor c.state w.start) o.captureStart o.captureEnd = none := hq
          exact Or.inl ⟨by simp [hcomplete, hchecked, hnone], hs, rfl⟩
        · rename_i evidence hevidence
          obtain ⟨d, exit, hd, hp⟩ := store_closes (c := { c' with raws := raws }) (o := o) (w := w)
            content checked
          have hsome : qualify env.readers config env.boundary (env.sha256 content) statements checked
            (previousAnchor c.state w.start) o.captureStart o.captureEnd = some evidence := hevidence
          refine Or.inr ⟨⟨by simp [hcomplete, hraws, hlater, hchecked, hsome], d, exit, hd, hp⟩,
            Or.inr ⟨content, checked, evidence, ⟨hf, hchecked, statements, hok, hsome⟩, ?_⟩⟩
          have hn : (slotOf c'.state w).validatedAt = none := by rw [hs.2 w, hv]
          exact (store_stored (c := { c' with raws := raws }) hn).from_same hs

lemma attempt_handled (hv : (slotOf c.state w).validatedAt = none) :
    Handled env config o w oldRaw c (attempt config o w oldRaw env c) := by
  unfold attempt
  split
  · rename_i content hf
    exact receive_handled hv hf
  · rename_i hf
    refine Or.inr ⟨⟨by simp [completes, hf], _, _, rfl, rfl⟩, Or.inl ⟨c, "pending", .refl _, ?_⟩⟩
    rw [close_state]
    exact .refl _
  · rename_i hf
    exact Or.inr ⟨⟨by simp [completes, hf], sourceFailure_closes⟩, Or.inl (sourceFailure_failed (.refl _))⟩
  · rename_i hf
    exact Or.inr ⟨⟨by simp [completes, hf], _, _, rfl, rfl⟩, Or.inl (failed_close (.refl _))⟩
  · rename_i hf
    exact Or.inl ⟨by simp [completes, hf], .refl _, rfl⟩

end Slots

end IbkrPlatform.FlexDaily.WindowSteps
