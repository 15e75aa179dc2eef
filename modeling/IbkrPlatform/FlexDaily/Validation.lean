import IbkrPlatform.FlexDaily.EventChain
import IbkrPlatform.FlexDaily.WindowSteps

/-! What a run in which every planned window succeeds leaves validated. -/

namespace IbkrPlatform.FlexDaily.Validation

open Library Calendar Forward Coverage Collect WindowSteps

variable {Content : Type} {o : Observation Content} {w u : Window} {oldRaw : Option String}
variable {s t : State} {c : Collector Content} {config : Config} {env : Env Content} {content : Content}

def succeeded (c : Collector Content) : ℕ := c.state.lastRun.windowsSucceeded

structure Success (env : Env Content) (o : Observation Content) (w : Window) (oldRaw : Option String)
    (s t : State) : Prop where
  target : t.forwardTarget = s.forwardTarget
  upheld : upheld t w = true
  others : ∃ content, o.fetched = .content content ∧ ∀ u, u ≠ w →
    slotOf t u = swept (oldRaw.isSome ∧ oldRaw ≠ some (rawKey env content)) s w.start u

@[simp] lemma close_succeeded {exit : Option Exit} : succeeded (close o c exit).1 = succeeded c := by
  simp [succeeded]

@[simp] lemma fail_succeeded {reason : String} : succeeded (fail o w oldRaw reason c) = succeeded c := by
  simp [succeeded, fail_lastRun]

@[simp] lemma sourceFailure_succeeded {error : SourceError} :
    succeeded (sourceFailure o w oldRaw error c).1 = succeeded c := by
  have hf : succeeded (fail o w oldRaw (error.providerErrorCode.getD "transport_or_format") c) = succeeded c :=
    fail_succeeded
  rw [sourceFailure, close_succeeded, ← hf]
  unfold succeeded
  split_ifs <;> rfl

lemma putEvidence_lastRun {key : String} {evidence : List (String × Evidence)} :
    (putEvidence w oldRaw key evidence s).lastRun = s.lastRun := by
  unfold putEvidence
  split_ifs <;> simp [invalidateFollowing]

lemma conclude_cases {ok : Bool} :
    succeeded (conclude o w oldRaw ok c).1 = succeeded c ∨
      ok = true ∧ succeeded (conclude o w oldRaw ok c).1 = succeeded c + 1 ∧
        (conclude o w oldRaw ok c).1.state.forwardTarget = c.state.forwardTarget ∧
        (∀ u, u ≠ w → slotOf (conclude o w oldRaw ok c).1.state u = slotOf c.state u) ∧
        slotOf (conclude o w oldRaw ok c).1.state w =
          { slotOf c.state w with attempts := 0, nextAttemptAt := none, validatedAt := some o.finishedAt } := by
  unfold conclude
  split_ifs with hok
  · right
    refine ⟨hok, ?_, ?_, fun u hu => ?_, ?_⟩
    · simp [succeeded, addRun]
    · simp [addRun]
    · simp [slotOf_setSlot_ne hu]
    · simp
  · left
    simp

lemma control_success {m : Month} {k : ℕ} {schemaComplete : Bool}
    (h : controlMonth o (.month m k) env content schemaComplete c = some t)
    (hd : (slotOf t (.month m k)).done = true) :
    t.lastRun = c.state.lastRun ∧ t.forwardTarget = c.state.forwardTarget ∧
      ∀ u, u ≠ .month m k → slotOf t u = slotOf c.state u := by
  unfold controlMonth at h
  extract_lets payloads at h
  split_ifs at h
  · obtain ⟨same, _, rfl⟩ := Option.map_eq_some_iff.mp h
    cases same with
    | true =>
      simp only [if_true]
      exact ⟨setSlot_lastRun, setSlot_forwardTarget, fun u hu => slotOf_setSlot_ne hu⟩
    | false =>
      change (slotOf (setSlot c.state _ (.month m k)) (.month m k)).done = true at hd
      simp at hd
  · obtain rfl := Option.some.inj h
    simp at hd

lemma items_complete {checked : String → Checked} {evidence : List (String × Evidence)}
    (hl : config.labels ≠ [])
    (h : ((itemsOf config checked evidence).all fun item => item.2.status = .complete) = true) :
    itemsOf config checked evidence ≠ [] ∧ ∀ item ∈ itemsOf config checked evidence, item.2.status = .complete := by
  refine ⟨by simpa [itemsOf] using hl, by simpa using h⟩

lemma conclude_success {ok : Bool} (hf : o.fetched = .content content)
    (h : ok = true → c.state.forwardTarget = s.forwardTarget ∧
      (∀ u, u ≠ w → slotOf c.state u = swept (oldRaw.isSome ∧ oldRaw ≠ some (rawKey env content)) s w.start u) ∧
      upheld (setSlot c.state
        { slotOf c.state w with attempts := 0, nextAttemptAt := none, validatedAt := some o.finishedAt } w) w = true) :
    succeeded (conclude o w oldRaw ok c).1 = succeeded c ∨
      succeeded (conclude o w oldRaw ok c).1 = succeeded c + 1 ∧
        Success env o w oldRaw s (conclude o w oldRaw ok c).1.state := by
  rcases conclude_cases (o := o) (w := w) (c := c) with hn | ⟨hok, hs, htc, hoc, hself⟩
  · exact Or.inl hn
  · obtain ⟨ht, ho, hu⟩ := h hok
    refine Or.inr ⟨hs, htc.trans ht, ?_, content, hf, fun u hne => (hoc u hne).trans (ho u hne)⟩
    cases w <;> simpa only [upheld, slotOf_setSlot, hself] using hu

lemma controlMonth_lastRun {m : Month} {k : ℕ} {schemaComplete : Bool}
    (h : controlMonth o (.month m k) env content schemaComplete c = some t) : t.lastRun = c.state.lastRun := by
  unfold controlMonth at h
  extract_lets payloads at h
  split_ifs at h
  · obtain ⟨same, _, rfl⟩ := Option.map_eq_some_iff.mp h
    cases same with
    | true => simp only [if_true, setSlot_lastRun]
    | false => exact setSlot_lastRun
  · obtain rfl := Option.some.inj h
    exact setSlot_lastRun

lemma store_success {checked : String → Checked} {evidence : List (String × Evidence)}
    (hl : config.labels ≠ []) (hf : o.fetched = .content content) :
    succeeded (store config o w oldRaw env content checked evidence c).1 = succeeded c ∨
      succeeded (store config o w oldRaw env content checked evidence c).1 = succeeded c + 1 ∧
        Success env o w oldRaw c.state (store config o w oldRaw env content checked evidence c).1.state := by
  have hrun (slot : Slot) : (setSlot (putEvidence w oldRaw (rawKey env content) evidence c.state) slot w).lastRun =
      c.state.lastRun := setSlot_lastRun.trans putEvidence_lastRun
  have htarget (slot : Slot) : (setSlot (putEvidence w oldRaw (rawKey env content) evidence c.state) slot
      w).forwardTarget = c.state.forwardTarget := setSlot_forwardTarget.trans putEvidence_target
  have hothers (slot : Slot) (u : Window) (hu : u ≠ w) :
      slotOf (setSlot (putEvidence w oldRaw (rawKey env content) evidence c.state) slot w) u =
        swept (oldRaw.isSome ∧ oldRaw ≠ some (rawKey env content)) c.state w.start u := by
    rw [slotOf_setSlot_ne hu, putEvidence_ne hu]
  unfold store
  extract_lets key state items schemaComplete slot c'
  cases w with
  | daily d =>
    simp only
    have hc : succeeded (Collector.mk (setSlot state _ (.daily d)) c.persisted c.raws c.transientStreak) =
        succeeded c := congrArg LastRun.windowsSucceeded (hrun { slot with raw := some key, accounts := items })
    rw [← hc]
    refine conclude_success hf fun hok => ⟨htarget _, hothers _, ?_⟩
    obtain ⟨hne, hall⟩ := items_complete hl hok
    simpa [upheld, complete, items, hne] using fun label item h => hall (label, item) h
  | month m k =>
    simp only
    have hc : succeeded c' = succeeded c := congrArg LastRun.windowsSucceeded (hrun _)
    split
    · left
      rw [close_succeeded, fail_succeeded, hc]
    · rename_i t ht
      have ht' : succeeded { c' with state := t } = succeeded c :=
        (congrArg LastRun.windowsSucceeded (controlMonth_lastRun ht)).trans hc
      rw [← ht']
      refine conclude_success hf fun hok => ?_
      obtain ⟨hschema, hdone⟩ := of_decide_eq_true hok
      obtain ⟨_, htt, hto⟩ := control_success ht hdone
      refine ⟨htt.trans (htarget _), fun u hu => (hto u hu).trans (hothers _ u hu), ?_⟩
      simpa [upheld] using hdone

lemma Success.from_same {t' : State} (h : Success env o w oldRaw t t') (hs : SameSlots s t) :
    Success env o w oldRaw s t' := by
  obtain ⟨content, hf, ho⟩ := h.others
  exact ⟨h.target.trans hs.1, h.upheld, content, hf, fun u hu => (ho u hu).trans (hs.swept _ u)⟩

variable [DecidableEq Content]

def Counted (env : Env Content) (o : Observation Content) (w : Window) (oldRaw : Option String)
    (c : Collector Content) (p : Collector Content × Option Exit) : Prop :=
  succeeded p.1 = succeeded c ∨ succeeded p.1 = succeeded c + 1 ∧ Success env o w oldRaw c.state p.1.state

lemma receive_counted (hl : config.labels ≠ []) (hf : o.fetched = .content content) :
    Counted env o w oldRaw c (receive config o w oldRaw env content c) := by
  unfold receive
  extract_lets c' c''
  have hs : SameSlots c.state c'.state := sameSlots_addRun
  have hc : succeeded c' = succeeded c := rfl
  split
  · exact Or.inl (by rw [sourceFailure_succeeded, hc])
  · refine Or.inl ?_
    rw [close_succeeded, ← hc, ← fail_succeeded (c := c') (o := o) (w := w)]
    rfl
  · split
    · exact Or.inl hc
    · rename_i raws _
      split_ifs
      · exact Or.inl hc
      split
      · exact Or.inl (by rw [close_succeeded, fail_succeeded]; exact hc)
      · split
        · exact Or.inl hc
        · rcases store_success (c := { c' with raws := raws }) hl hf with h | ⟨h, hsuccess⟩
          · exact Or.inl (h.trans hc)
          · exact Or.inr ⟨h.trans (congrArg (· + 1) hc), hsuccess.from_same hs⟩

lemma attempt_counted (hl : config.labels ≠ []) :
    Counted env o w oldRaw c (attempt config o w oldRaw env c) := by
  unfold attempt
  split
  · rename_i content hf
    exact receive_counted hl hf
  · refine Or.inl ?_
    rw [close_succeeded, ← fail_succeeded (c := c) (o := o) (w := w)]
    rfl
  · exact Or.inl sourceFailure_succeeded
  · exact Or.inl (by rw [close_succeeded, fail_succeeded])
  · exact Or.inl rfl

variable {observe : Window → Observation Content}

def revised (env : Env Content) (observe : Window → Observation Content) (state : State) (w : Window) : Bool :=
  match (observe w).fetched with
  | .content content => (slotOf state w).raw.isSome ∧ (slotOf state w).raw ≠ some (rawKey env content)
  | _ => false

structure WindowSuccess (env : Env Content) (observe : Window → Observation Content) (w : Window)
    (s t : State) : Prop where
  target : t.forwardTarget = s.forwardTarget
  upheld : upheld t w = true
  others : ∀ u, u ≠ w → slotOf t u = swept (revised env observe s w) s w.start u

lemma collectWindow_counted (env : Env Content) (observe : Window → Observation Content) (c : Collector Content) (w : Window)
    (hl : config.labels ≠ []) :
    succeeded (collectWindow env config observe c w).1 = succeeded c ∨
      succeeded (collectWindow env config observe c w).1 = succeeded c + 1 ∧
        WindowSuccess env observe w c.state (collectWindow env config observe c w).1.state := by
  unfold collectWindow
  extract_lets o old opened reset
  have hstate : reset.1.state = opened.state := persist_state
  have hc : succeeded reset.1 = succeeded c := by
    rw [succeeded, hstate]
    exact congrArg LastRun.windowsSucceeded setSlot_lastRun
  split_ifs
  · exact Or.inl rfl
  · exact Or.inl hc
  · rcases attempt_counted (o := o) (w := w) (c := reset.1) hl with h | ⟨h, hs⟩
    · exact Or.inl (h.trans hc)
    · obtain ⟨content, hf, ho⟩ := hs.others
      refine Or.inr ⟨h.trans (congrArg (· + 1) hc), ?_, hs.upheld, fun u hu => ?_⟩
      · rw [hs.target, hstate]
        exact setSlot_forwardTarget
      · rw [ho u hu, hstate]
        have hslot : slotOf opened.state u = slotOf c.state u := slotOf_setSlot_ne hu
        have hreach : reaches opened.state w.start u = reaches c.state w.start u := reaches_congr setSlot_forwardTarget
        have hrev : revised env observe c.state w = (old.raw.isSome ∧ old.raw ≠ some (rawKey env content) : Bool) := by
          simp only [revised, show (observe w).fetched = .content content from hf, old]
        simp only [swept, hslot, hreach, hrev]

def upheldSlot (slot : Slot) : Window → Bool
  | .daily _ => slot.validatedAt.isSome && complete slot
  | .month _ _ => slot.validatedAt.isSome && slot.done

lemma upheld_eq : upheld s u = upheldSlot (slotOf s u) u := by
  cases u <;> rfl

lemma upheld_swept {cascade : Bool} {start : Day} : upheldSlot (swept cascade s start u) u = true ↔
    upheld s u = true ∧ ¬ (cascade ∧ reaches s start u) := by
  rw [upheld_eq]
  by_cases h : cascade ∧ reaches s start u
  · have hn : upheldSlot (withdrawn (slotOf s u) u) u = false := by cases u <;> simp [upheldSlot]
    simp [swept, h, hn]
  · simp [swept, h]

lemma swept_raw {cascade : Bool} {start : Day} : (swept cascade s start u).raw = (slotOf s u).raw := by
  unfold swept
  split_ifs <;> simp

omit [DecidableEq Content] in
lemma revised_congr (h : (slotOf t u).raw = (slotOf s u).raw) :
    revised env observe t u = revised env observe s u := by
  unfold revised
  split <;> simp only [h]

abbrev runLoop (env : Env Content) (config : Config) (observe : Window → Observation Content)
    (c : Collector Content) (queue : List Window) : Collector Content × Option Exit :=
  EarlyExit.loop (collectWindow env config observe) c queue

lemma loop_cons (env : Env Content) (config : Config) (observe : Window → Observation Content)
    (c : Collector Content) (x : Window) (xs : List Window) :
    (runLoop env config observe c (x :: xs)).1 = (collectWindow env config observe c x).1 ∨
      runLoop env config observe c (x :: xs) =
        runLoop env config observe (collectWindow env config observe c x).1 xs := by
  cases he : (collectWindow env config observe c x).2 with
  | none => exact Or.inr (EarlyExit.loop_continue he)
  | some e => exact Or.inl (by rw [runLoop, EarlyExit.loop_exit he])

lemma window_succeeded_le (env : Env Content) (observe : Window → Observation Content) (c : Collector Content) (w : Window)
    (hl : config.labels ≠ []) :
    succeeded (collectWindow env config observe c w).1 ≤ succeeded c + 1 := by
  rcases collectWindow_counted env observe c w hl with h | ⟨h, _⟩ <;> omega

lemma loop_succeeded_le (env : Env Content) (observe : Window → Observation Content) (c : Collector Content) (hl : config.labels ≠ [])
    (queue : List Window) :
    succeeded (runLoop env config observe c queue).1 ≤ succeeded c + queue.length := by
  induction queue generalizing c with
  | nil => simp
  | cons x xs ih =>
    have hx := window_succeeded_le env observe c x hl
    rw [List.length_cons]
    rcases loop_cons env config observe c x xs with h | h
    · rw [h]
      omega
    · have := ih (c := (collectWindow env config observe c x).1)
      rw [h]
      omega

lemma loop_success_cons (hl : config.labels ≠ []) {x : Window} {xs : List Window}
    (h : succeeded (runLoop env config observe c (x :: xs)).1 = succeeded c + (x :: xs).length) :
    WindowSuccess env observe x c.state (collectWindow env config observe c x).1.state ∧
      (runLoop env config observe c (x :: xs)).1 =
        (runLoop env config observe (collectWindow env config observe c x).1 xs).1 ∧
      succeeded (runLoop env config observe (collectWindow env config observe c x).1 xs).1 =
        succeeded (collectWindow env config observe c x).1 + xs.length := by
  rw [List.length_cons] at h
  have hx := window_succeeded_le env observe c x hl
  have hrest := loop_succeeded_le env observe (collectWindow env config observe c x).1 hl xs
  have hsame : (runLoop env config observe c (x :: xs)).1 =
      (runLoop env config observe (collectWindow env config observe c x).1 xs).1 := by
    rcases loop_cons env config observe c x xs with he | he
    · have hlen : xs.length = 0 := by
        rw [he] at h
        omega
      rw [he, List.length_eq_zero_iff.mp hlen]
      rfl
    · rw [he]
  rw [hsame] at h
  have hone : succeeded (collectWindow env config observe c x).1 = succeeded c + 1 := by omega
  rcases collectWindow_counted env observe c x hl with hz | ⟨_, hs⟩
  · omega
  · exact ⟨hs, hsame, by omega⟩

lemma loop_upheld_other (hl : config.labels ≠ []) {queue : List Window} (hn : queue.Nodup)
    (h : succeeded (runLoop env config observe c queue).1 = succeeded c + queue.length) (hu : u ∉ queue) :
    upheld (runLoop env config observe c queue).1.state u = true ↔ upheld c.state u = true ∧
      ∀ x ∈ queue, ¬ (revised env observe c.state x ∧ reaches c.state x.start u) := by
  induction queue generalizing c with
  | nil => simp
  | cons x xs ih =>
    obtain ⟨hs, hsame, hrest⟩ := loop_success_cons hl h
    obtain ⟨hx, hxs⟩ := List.nodup_cons.mp hn
    obtain ⟨hux, huxs⟩ : u ≠ x ∧ u ∉ xs := by simpa using hu
    have hreach (y : Window) : reaches (collectWindow env config observe c x).1.state y.start u =
        reaches c.state y.start u := reaches_congr hs.target
    have hrev (y : Window) (hy : y ∈ xs) : revised env observe (collectWindow env config observe c x).1.state y =
        revised env observe c.state y := by
      refine revised_congr ?_
      rw [hs.others y fun he => hx (he ▸ hy), swept_raw]
    rw [hsame, ih hxs hrest huxs, upheld_eq, hs.others u hux, upheld_swept, List.forall_mem_cons, and_assoc]
    refine and_congr_right fun _ => and_congr_right fun _ => forall₂_congr fun y hy => ?_
    rw [hreach, hrev y hy]

lemma loop_upheld (hl : config.labels ≠ []) {before after : List Window} (hn : (before ++ w :: after).Nodup)
    (h : succeeded (runLoop env config observe c (before ++ w :: after)).1 =
      succeeded c + (before ++ w :: after).length) :
    upheld (runLoop env config observe c (before ++ w :: after)).1.state w = true ↔
      ∀ x ∈ after, ¬ (revised env observe c.state x ∧ reaches c.state x.start w) := by
  induction before generalizing c with
  | nil =>
    obtain ⟨hs, hsame, hrest⟩ := loop_success_cons hl h
    obtain ⟨hw, hafter⟩ := List.nodup_cons.mp hn
    rw [List.nil_append, hsame, loop_upheld_other hl hafter hrest hw]
    simp only [hs.upheld, true_and]
    refine forall₂_congr fun y hy => ?_
    rw [reaches_congr hs.target, revised_congr (s := c.state)]
    rw [hs.others y fun he => hw (he ▸ hy), swept_raw]
  | cons x xs ih =>
    rw [List.cons_append] at hn h ⊢
    obtain ⟨hs, hsame, hrest⟩ := loop_success_cons hl h
    obtain ⟨hx, hxs⟩ := List.nodup_cons.mp hn
    rw [hsame, ih hxs hrest]
    refine forall₂_congr fun y hy => ?_
    rw [reaches_congr hs.target, revised_congr (s := c.state)]
    have hy' : y ∈ xs ++ w :: after := List.mem_append_right _ (List.mem_cons_of_mem _ hy)
    rw [hs.others y fun he => hx (he ▸ hy'), swept_raw]

section Planned

def planned (c : Collector Content) : ℕ := c.state.lastRun.windowsPlanned

omit [DecidableEq Content] in
@[simp] lemma close_planned {exit : Option Exit} : planned (close o c exit).1 = planned c := by
  simp [planned]

omit [DecidableEq Content] in
@[simp] lemma fail_planned {reason : String} : planned (fail o w oldRaw reason c) = planned c := by
  simp [planned, fail_lastRun]

omit [DecidableEq Content] in
@[simp] lemma sourceFailure_planned {error : SourceError} :
    planned (sourceFailure o w oldRaw error c).1 = planned c := by
  have hf : planned (fail o w oldRaw (error.providerErrorCode.getD "transport_or_format") c) = planned c :=
    fail_planned
  rw [sourceFailure, close_planned, ← hf]
  unfold planned
  split_ifs <;> rfl

omit [DecidableEq Content] in
@[simp] lemma conclude_planned {ok : Bool} : planned (conclude o w oldRaw ok c).1 = planned c := by
  unfold conclude
  split_ifs
  · simp [planned, addRun]
  · simp

omit [DecidableEq Content] in
lemma store_planned {checked : String → Checked} {evidence : List (String × Evidence)} :
    planned (store config o w oldRaw env content checked evidence c).1 = planned c := by
  have hrun (slot : Slot) : (setSlot (putEvidence w oldRaw (rawKey env content) evidence c.state) slot w).lastRun =
      c.state.lastRun := setSlot_lastRun.trans putEvidence_lastRun
  unfold store
  extract_lets key state items schemaComplete slot c'
  cases w with
  | daily d =>
    simp only [conclude_planned]
    exact congrArg LastRun.windowsPlanned (hrun _)
  | month m k =>
    have hc : planned c' = planned c := congrArg LastRun.windowsPlanned (hrun _)
    simp only
    split
    · rw [close_planned, fail_planned, hc]
    · rename_i t ht
      rw [conclude_planned, ← hc]
      exact congrArg LastRun.windowsPlanned (controlMonth_lastRun ht)

lemma attempt_planned : planned (attempt config o w oldRaw env c).1 = planned c := by
  unfold attempt
  split
  · unfold receive
    extract_lets c' c''
    have hc : planned c' = planned c := rfl
    split
    · rw [sourceFailure_planned, hc]
    · rw [close_planned, ← hc, ← fail_planned (c := c') (o := o) (w := w)]
      rfl
    · split
      · exact hc
      · split_ifs
        · exact hc
        split
        · rw [close_planned, fail_planned]
          exact hc
        · split
          · exact hc
          · exact store_planned.trans hc
  · rw [close_planned, ← fail_planned (c := c) (o := o) (w := w)]
    rfl
  · exact sourceFailure_planned
  · rw [close_planned, fail_planned]
  · rfl

lemma collectWindow_planned : planned (collectWindow env config observe c w).1 = planned c := by
  have hset {slot : Slot} {outcome : Persist} :
      planned (persist outcome { c with state := setSlot c.state slot w }).1 = planned c := by
    rw [planned, persist_state]
    exact congrArg LastRun.windowsPlanned setSlot_lastRun
  unfold collectWindow
  extract_lets o old opened reset
  split_ifs
  · rfl
  · exact hset
  · exact attempt_planned.trans hset

end Planned

def AllSucceeded (run : LastRun) : Prop :=
  0 < run.windowsPlanned ∧ run.windowsSucceeded = run.windowsPlanned ∧ run.windowsFailed = 0

instance (run : LastRun) : Decidable (AllSucceeded run) := inferInstanceAs (Decidable (_ ∧ _ ∧ _))

lemma labels_of_configured (h : configurationFault config = none) : config.labels ≠ [] := by
  intro hnil
  unfold configurationFault at h
  split at h
  · cases h
  · split_ifs at h with _ hlabels
    exact hlabels (Or.inl hnil)

lemma collect_returned {o : RunObservation Content} {persisted : State} {raws : List (String × Content)}
    {v : Validation} (hret : (collect env config o persisted raws).returned = some v)
    (hplanned : 0 < (collect env config o persisted raws).persisted.lastRun.windowsPlanned) :
    ∃ c : Collector Content, config.labels ≠ [] ∧ c.state = (plan env config o.started persisted).1 ∧
      (collect env config o persisted raws).queue = (plan env config o.started persisted).2 ∧
      (collect env config o persisted raws).persisted =
        (runLoop env config o.window c (plan env config o.started persisted).2).1.state ∧
      v = forwardValidation (targetDay env.newYork o.started) (plan env config o.started persisted).2
        (runLoop env config o.window c (plan env config o.started persisted).2).1.state := by
  unfold collect at hret hplanned ⊢
  extract_lets target finish planned opened looped at hret
  extract_lets at hplanned ⊢
  split_ifs at hret hplanned ⊢ with hfault hblocked hopened habort
  · cases ho : o.first <;> simp [finish, ho, persist, LastRun.zero] at hret hplanned
  · have hlabels : config.labels ≠ [] := labels_of_configured (Option.not_isSome_iff_eq_none.mp hfault)
    refine ⟨opened.1, hlabels, persist_state, rfl, ?_, ?_⟩
    · cases hl : o.last <;> simp [finish, hl, persist] at hret ⊢
      rfl
    · cases hl : o.last <;> simp [finish, hl, persist] at hret ⊢
      exact hret.symm

lemma loop_planned (env : Env Content) (config : Config) (observe : Window → Observation Content)
    (c : Collector Content) (queue : List Window) : planned (runLoop env config observe c queue).1 = planned c :=
  EarlyExit.loop_invariant (I := fun d => planned d = planned c) (fun _ _ _ h => collectWindow_planned.trans h) rfl

omit [DecidableEq Content] in
lemma plan_lastRun {started : Instant} {persisted : State} :
    (plan env config started persisted).1.lastRun =
      ⟨(plan env config started persisted).2.length, 0, 0, 0, none⟩ := rfl

omit [DecidableEq Content] in
lemma plan_started {started : Instant} {persisted : State} (h : (plan env config started persisted).2 ≠ []) :
    forwardStart ≤ targetDay env.newYork started := by
  by_contra ht
  exact h (windows_eq_nil rfl (not_le.mp ht))

def Undisturbed (env : Env Content) (observe : Window → Observation Content) (state : State) (w : Window)
    (after : List Window) : Prop :=
  ∀ x ∈ after, ¬ (revised env observe state x ∧ reaches state x.start w)

omit [DecidableEq Content] in
lemma forall_mem_splits {p : Window → Prop} {q : Window → List Window → Prop} {queue : List Window}
    (h : ∀ before w after, queue = before ++ w :: after → (p w ↔ q w after)) :
    (∀ w ∈ queue, p w) ↔ ∀ before w after, queue = before ++ w :: after → q w after := by
  constructor
  · intro hp before w after hs
    exact (h before w after hs).mp (hp w (hs ▸ List.mem_append_right _ List.mem_cons_self))
  · intro hq w hw
    obtain ⟨before, after, hs⟩ := List.append_of_mem hw
    exact (h before w after hs).mpr (hq before w after hs)

/-- When every planned window succeeds, a queued slot is upheld at the end of the run exactly where no
later window of the queue came back revised and reaches it. -/
theorem collect_upholds (env : Env Content) (config : Config) (o : RunObservation Content) (persisted : State)
    (raws : List (String × Content)) (v : Validation)
    (hret : (collect env config o persisted raws).returned = some v)
    (hall : AllSucceeded (collect env config o persisted raws).persisted.lastRun) :
    (∀ before w after, (collect env config o persisted raws).queue = before ++ w :: after →
      (upheld (collect env config o persisted raws).persisted w = true ↔
        Undisturbed env o.window (plan env config o.started persisted).1 w after)) ∧
    (v = .validated ↔ ∀ before w after, (collect env config o persisted raws).queue = before ++ w :: after →
      Undisturbed env o.window (plan env config o.started persisted).1 w after) := by
  obtain ⟨c, hl, hc, hq, hp, hv⟩ := collect_returned hret hall.1
  obtain ⟨hpos, hsucc, hfail⟩ := hall
  rw [hq]
  rw [hp] at hpos hsucc hfail ⊢
  have hplanned : planned c = (plan env config o.started persisted).2.length := by
    rw [planned, hc, plan_lastRun]
  have hzero : succeeded c = 0 := by
    rw [succeeded, hc, plan_lastRun]
  have hkept := loop_planned env config o.window c (plan env config o.started persisted).2
  have hcount : succeeded (runLoop env config o.window c (plan env config o.started persisted).2).1 =
      succeeded c + (plan env config o.started persisted).2.length := by
    rw [hzero, Nat.zero_add, ← hplanned, ← hkept]
    exact hsucc
  have hslots : ∀ before w after, (plan env config o.started persisted).2 = before ++ w :: after →
      (upheld (runLoop env config o.window c (plan env config o.started persisted).2).1.state w = true ↔
        Undisturbed env o.window (plan env config o.started persisted).1 w after) := by
    intro before w after hs
    have hn : (before ++ w :: after).Nodup := hs ▸ windows_nodup
    rw [hs] at hcount ⊢
    rw [loop_upheld hl hn hcount, hc]
    rfl
  refine ⟨hslots, ?_⟩
  rw [← forall_mem_splits hslots]
  have hnonempty : (plan env config o.started persisted).2 ≠ [] := by
    intro hnil
    rw [hnil] at hpos
    rw [hnil, List.length_nil] at hplanned
    exact absurd hpos (by simpa [runLoop, planned] using hplanned)
  have htarget : ¬ targetDay env.newYork o.started < forwardStart := not_lt.mpr (plan_started hnonempty)
  rw [hv, forwardValidation, if_neg htarget]
  split_ifs with h
  · simpa using h.2.2.2
  · have hne : ¬ ∀ w ∈ (plan env config o.started persisted).2,
        upheld (runLoop env config o.window c (plan env config o.started persisted).2).1.state w = true :=
      fun hup => h ⟨hpos, hsucc, hfail, hup⟩
    simpa using hne

section Regenerated

open EventChain

abbrev Report := Day × ℕ

def statement₀ (day : Day) : Statement :=
  let texts := [(20760, ("2026-11-03T12:00Z", "20261103")), (20761, ("2026-11-04T12:00Z", "20261104")),
    (20762, ("2026-11-05T12:00Z", "20261105"))].lookup day |>.getD ("", "")
  ⟨[("accountId", "U1"), ("zone", "UTC"), ("asOf", texts.1), ("toDate", texts.2)], []⟩

def env₀ : Env Report where
  readers := readers₀
  newYork := ⟨fun _ => 0⟩
  boundary := noon 20759
  sha256 report := toString report.1 ++ "-" ++ toString report.2
  requireAccountScope report := .ok [statement₀ report.1]
  inspectReport _ _ _ := some fun _ => ⟨.complete, [], .partial_⟩
  compareMonth _ _ := some true

def run₀ (now : Instant) (fetched : Day → Fetched Report) : RunObservation Report where
  started := now
  first := .stored
  window w := ⟨true, .stored, false, false, now, fetched w.start, now, true, now, .stored⟩
  last := .stored

def hourly₀ : List (RunObservation Report) :=
  [0, 1, 2].map fun n => run₀ (20762 * hours 24 + hours n) fun day => .content (day, 0)

def regenerated₀ : RunObservation Report :=
  run₀ (20763 * hours 24) fun day => .content (day, if day = 20761 then 1 else 0)

def outcome₀ : Outcome Report :=
  collect env₀ config₀ regenerated₀ (bucket env₀ config₀ hourly₀).1 (bucket env₀ config₀ hourly₀).2

lemma outcome₀_returned : outcome₀.returned = some .unreconciled := by
  decide +kernel

lemma outcome₀_succeeded : AllSucceeded outcome₀.persisted.lastRun := by
  decide +kernel

theorem regenerated_day_withdraws_newer :
    ¬ ∀ (runs : List (RunObservation Report)) (o : RunObservation Report) (v : Validation),
      (collect env₀ config₀ o (bucket env₀ config₀ runs).1 (bucket env₀ config₀ runs).2).returned = some v →
      AllSucceeded (collect env₀ config₀ o (bucket env₀ config₀ runs).1
        (bucket env₀ config₀ runs).2).persisted.lastRun →
      (∀ w ∈ (collect env₀ config₀ o (bucket env₀ config₀ runs).1 (bucket env₀ config₀ runs).2).queue,
        upheld (collect env₀ config₀ o (bucket env₀ config₀ runs).1 (bucket env₀ config₀ runs).2).persisted w) ∧
      v = .validated := by
  intro h
  have := (h hourly₀ regenerated₀ .unreconciled outcome₀_returned outcome₀_succeeded).2
  cases this

theorem collect_upholds_regenerated₀ : outcome₀.queue = [.daily 20762, .daily 20761] ∧
    (upheld outcome₀.persisted (.daily 20762) = true ↔
      Undisturbed env₀ regenerated₀.window
        (plan env₀ config₀ regenerated₀.started (bucket env₀ config₀ hourly₀).1).1 (.daily 20762) [.daily 20761]) := by
  have hq : outcome₀.queue = [.daily 20762, .daily 20761] := by decide +kernel
  exact ⟨hq, (collect_upholds env₀ config₀ regenerated₀ _ _ _ outcome₀_returned outcome₀_succeeded).1 [] _ _ hq⟩

end Regenerated

end IbkrPlatform.FlexDaily.Validation
