import IbkrPlatform.Notifications.Publication

/-! Contradicting facts under one key: which tries of a call keep the conflict that it has met, and which lose it. -/

namespace IbkrPlatform.Notifications.Publication

open Library Settlement

variable {I : Type}

section Reports

def Agrees (q : Request) (item : Item) : Prop := comparable item.event = comparable q.fact ∧ item.dryRun = q.dryRun

def Reports (q : Request) (seen : List Item) (item : Item) : Prop :=
  ((∃ prior ∈ seen, ¬ Agrees q prior) → item.conflict) ∧ (Agrees q item ∨ item.conflict)

def Keeps (prior item : Item) : Prop :=
  comparable item.event = comparable prior.event ∧ item.dryRun = prior.dryRun ∧ (prior.conflict → item.conflict)

/-- The tries that keep a conflict. A call without a settlement compares the first record that it meets with its own fact;
what it meets afterwards it compares with what it has taken over, so that only the dry-run flag and the counts still count. -/
def Faithful (q : Request) (seen : List Item) (prior : Item) : Prop :=
  if q.settlement.isSome then Agrees q prior ∧ (prior.conflict → mergeSettlementRecord prior q.record = .ok prior)
  else seen = [] ∨ (∀ item ∈ seen ++ [prior], Agrees q item) ∨ prior.dryRun ≠ q.dryRun ∨ prior.conflict = true ∨
    countConflict prior.event q.fact = true

structure Carries (q : Request) (seen : List Item) (record : Item) : Prop where
  reports : Reports q seen record
  first : seen = [] → record = q.record
  settlement : q.settlement.isSome → record = q.record ∧ ∀ prior ∈ seen, Agrees q prior

instance (q : Request) (item : Item) : Decidable (Agrees q item) := inferInstanceAs (Decidable (_ ∧ _))

instance (q : Request) (seen : List Item) (prior : Item) : Decidable (Faithful q seen prior) :=
  inferInstanceAs (Decidable (@ite _ _ _ _ _))

variable {q : Request} {seen : List Item} {prior record merged item : Item} {old : Option Ledger} {t : Turn}

lemma Reports.keeps (h : Reports q seen prior) (hk : Keeps prior item) : Reports q seen item := by
  obtain ⟨hevent, hdry, hconflict⟩ := hk
  refine ⟨fun hs => hconflict (h.1 hs), ?_⟩
  rcases h.2 with ⟨ha, hd⟩ | hc
  · exact .inl ⟨hevent.trans ha, hdry.trans hd⟩
  · exact .inr (hconflict hc)

lemma own_reports (q : Request) : Reports q [] q.record := ⟨fun ⟨_, h, _⟩ => absurd h List.not_mem_nil, .inl ⟨rfl, rfl⟩⟩

lemma mergePrior_reports (hs : q.settlement = none) (hc : Carries q seen record) (hf : Faithful q seen prior)
    (h : mergePrior q prior record = .ok merged) : Reports q (seen ++ [prior]) merged ∧ Keeps prior merged := by
  have hkeeps : Keeps prior merged := mergePrior_keeps hs h
  refine ⟨?_, hkeeps⟩
  have hall : (∀ item ∈ seen ++ [prior], Agrees q item) → Reports q (seen ++ [prior]) merged := by
    intro ha
    have hprior := ha prior (List.mem_append_right _ (List.mem_singleton_self _))
    refine ⟨fun ⟨item, hitem, hn⟩ => absurd (ha item hitem) hn, .inl ⟨hkeeps.1.trans hprior.1, hkeeps.2.1.trans hprior.2⟩⟩
  have hconflict : merged.conflict = true → Reports q (seen ++ [prior]) merged := fun hm => ⟨fun _ => hm, .inr hm⟩
  rw [Faithful, if_neg (by simp [hs])] at hf
  rw [mergePrior, if_neg (by simp [hs])] at h
  split at h
  · exact hconflict (Except.ok.inj h ▸ rfl)
  · rename_i hsame
    rw [not_or, not_not, not_not] at hsame
    rcases hf with hnil | ha | hdry | hprior | hcounts
    · refine hall fun item hitem => ?_
      rw [hnil, List.nil_append, List.mem_singleton] at hitem
      rw [hc.first hnil] at hsame
      exact hitem ▸ hsame
    · exact hall ha
    · exact absurd hsame.2 hdry
    · exact hconflict (hkeeps.2.2 hprior)
    · split at h
      · cases h
      · exact hconflict (Except.ok.inj h ▸ by simp [hcounts])

lemma mergeSettlementRecord_reports (hs : q.settlement.isSome) (hc : Carries q seen record) (hf : Faithful q seen prior)
    (h : mergePrior q prior record = .ok merged) :
    Reports q (seen ++ [prior]) merged ∧ Keeps prior merged ∧ (merged = prior ∨ merged = q.record) := by
  rw [Faithful, if_pos hs] at hf
  rw [mergePrior, if_pos hs] at h
  obtain ⟨hrecord, hseen⟩ := hc.settlement hs
  rw [hrecord] at h
  have hmerged := mergeSettlementRecord_eq h
  have hkeeps : Keeps prior merged := by
    rcases hmerged with rfl | rfl
    · exact ⟨rfl, rfl, id⟩
    · refine ⟨hf.1.1.symm, hf.1.2.symm, fun hp => ?_⟩
      rw [Except.ok.inj (h.symm.trans (hf.2 hp))]
      exact hp
  refine ⟨⟨fun hother => ?_, .inl ⟨hkeeps.1.trans hf.1.1, hkeeps.2.1.trans hf.1.2⟩⟩, hkeeps, hmerged⟩
  obtain ⟨item, hitem, hn⟩ := hother
  refine absurd ?_ hn
  rcases List.mem_append.mp hitem with hin | hin
  · exact hseen item hin
  · exact List.mem_singleton.mp hin ▸ hf.1

lemma turn_reports (hc : Carries q seen record) (h : turn q record old = .ok t)
    (hf : ∀ prior, (old.getD .empty).events.lookup q.fact.dedupeKey = some prior → Faithful q seen prior) :
    Reports q (meet q seen old) t.record ∧ (t.changed → Carries q (meet q seen old) t.record) ∧
      ∀ prior, (old.getD .empty).events.lookup q.fact.dedupeKey = some prior → Keeps prior t.record := by
  obtain ⟨hevents, hchanged, _, hmerged⟩ := turn_ok h
  rcases hmerged with ⟨hnone, hrecord⟩ | ⟨prior, hprior, hmerge⟩
  · have hmet : meet q seen old = seen := by simp [meet, hnone]
    rw [hmet, hrecord]
    exact ⟨hc.reports, fun _ => hc, fun p hp => by rw [hnone] at hp; cases hp⟩
  · have hmet : meet q seen old = seen ++ [prior] := by simp [meet, hprior]
    have hfaithful := hf prior hprior
    rw [hmet]
    cases hs : q.settlement with
    | none =>
      obtain ⟨hreports, hkeeps⟩ := mergePrior_reports hs hc hfaithful hmerge
      refine ⟨hreports, fun _ => ⟨hreports, fun hn => by simp at hn, fun hsome => by simp [hs] at hsome⟩, fun p hp => ?_⟩
      exact Option.some.inj (hprior.symm.trans hp) ▸ hkeeps
    | some row =>
      have hsome : q.settlement.isSome := by simp [hs]
      obtain ⟨hreports, hkeeps, hplace⟩ := mergeSettlementRecord_reports hsome hc hfaithful hmerge
      refine ⟨hreports, fun hnew => ⟨hreports, fun hn => by simp at hn, fun _ => ⟨?_, ?_⟩⟩, fun p hp => ?_⟩
      · -- A record that is kept changes nothing, so a new state has the call's own.
        rcases hplace with hkept | hown
        · rw [hkept, Dictionary.put_of_lookup hprior] at hevents
          simp [hevents, hnew] at hchanged
        · exact hown
      · intro item hitem
        rcases List.mem_append.mp hitem with hin | hin
        · exact (hc.settlement hsome).2 item hin
        · rw [Faithful, if_pos hsome] at hfaithful
          exact List.mem_singleton.mp hin ▸ hfaithful.1
      · exact Option.some.inj (hprior.symm.trans hp) ▸ hkeeps

end Reports

section Runs

variable (texts : Texts) (digest : Scope → String) (calls : I → Call)

def Phase.met : Phase → Option (List Item)
  | .reading _ seen _ => some seen
  | _ => none

def FaithfulStep (s : State I) (l : I × Action) : Prop :=
  ∀ seen ∈ (s.phase l.1).met,
    ∀ prior ∈ ((s.states (digest (calls l.1).scope)).value.getD .empty).events.lookup (calls l.1).request.fact.dedupeKey,
      Faithful (calls l.1).request seen prior

def Succeeds (q : Request) (record : Item) (ledger : Ledger) (old : Option Ledger) : Prop :=
  ledger.events.lookup q.fact.dedupeKey = some record ∧
    (∀ k, k ≠ q.fact.dedupeKey → ledger.events.lookup k = (old.getD .empty).events.lookup k) ∧
      ∀ prior, (old.getD .empty).events.lookup q.fact.dedupeKey = some prior → Keeps prior record

def Phase.Reporting (q : Request) (cell : VersionedCell Ledger I) : Phase → Prop
  | .reading record seen _ => Carries q seen record
  | .writing record seen _ held ledger =>
    Carries q seen record ∧ ∃ n, cell.Held held n ∧ Succeeds q record ledger (cell.rewind n).value
  | _ => True

def Reported (s : State I) (e : I × List Item) : Prop :=
  ∃ item, ((s.states (digest (calls e.1).scope)).value.getD .empty).events.lookup (calls e.1).request.fact.dedupeKey =
    some item ∧ Reports (calls e.1).request e.2 item

structure State.Reporting (s : State I) : Prop where
  phases : ∀ i, (s.phase i).Reporting (calls i).request (s.states (digest (calls i).scope))
  commits : ∀ e ∈ s.commits, Reported digest calls s e

instance (s : State I) (l : I × Action) : Decidable (FaithfulStep digest calls s l) :=
  inferInstanceAs (Decidable (∀ seen ∈ (s.phase l.1).met, ∀ prior ∈ List.lookup _ _, Faithful _ seen prior))

variable {texts digest calls} {q : Request} {seen : List Item} {prior record : Item} {ledger : Ledger} {old : Option Ledger}
  {cell cell' : VersionedCell Ledger I} {ph : Phase} {s t : State I} {i : I}

lemma Phase.Reporting.extend (h : ph.Reporting q cell) (he : cell.Extends cell') : ph.Reporting q cell' := by
  cases ph with
  | writing record seen tries held ledger =>
    obtain ⟨hc, n, hheld, hs⟩ := h
    exact ⟨hc, n, hheld.extend he, he.rewind hheld.1 ▸ hs⟩
  | reading record seen tries => exact h
  | idle => trivial
  | loading revision payload tries => trivial
  | uploading revision payload tries held => trivial
  | returned revision => trivial
  | raised => trivial

lemma publishing_reporting : (publishing texts ledger).Reporting q cell := by
  unfold publishing
  cases projectNotificationEvents texts ledger.items <;> trivial

lemma loadObject_reporting {revision : ℕ} {payload : Payload} {object : VersionedCell Published I} {missed : Bool} {tries : ℕ} :
    (loadObject digest revision payload object missed tries).Reporting q cell := by
  have hcarries : (loadObject digest revision payload object missed tries).carries revision := loadObject_carries missed tries
  cases hp : loadObject digest revision payload object missed tries with
  | reading => rw [hp] at hcarries; cases hcarries
  | writing => rw [hp] at hcarries; cases hcarries
  | _ => trivial

lemma Succeeds.reported (h : Succeeds q record ledger old) {key : String} {item : Item} {q' : Request} {seen' : List Item}
    (hitem : (old.getD .empty).events.lookup key = some item) (hr : Reports q' seen' item) :
    ∃ item', ledger.decoded.events.lookup key = some item' ∧ Reports q' seen' item' := by
  obtain ⟨hown, hothers, hkeeps⟩ := h
  by_cases hk : key = q.fact.dedupeKey
  · subst hk
    exact ⟨record.decoded, by simp [decoded_lookup, hown], hr.keeps (hkeeps item hitem)⟩
  · exact ⟨item.decoded, by simp [decoded_lookup, hothers key hk, hitem], hr⟩

variable [DecidableEq I]

lemma State.Reporting.move (h : s.Reporting digest calls) (ph : Phase) (hstates : t.states = s.states)
    (hphase : t.phase = Function.update s.phase i ph) (hcommits : ∀ e ∈ t.commits, Reported digest calls s e)
    (hph : ph.Reporting (calls i).request (s.states (digest (calls i).scope))) : t.Reporting digest calls where
  phases j := by
    rw [hphase, hstates]
    by_cases hj : j = i
    · subst hj
      simpa using hph
    · simpa [hj] using h.phases j
  commits e he := by
    rw [Reported, hstates]
    exact hcommits e he

lemma State.Reporting.commit (h : s.Reporting digest calls) {tries held gap : ℕ}
    (hi : s.phase i = .writing record seen tries held ledger)
    (hg : (s.states (digest (calls i).scope)).generation = held)
    (hph : ph.Reporting (calls i).request ((s.states (digest (calls i).scope)).store i ledger.decoded gap)) :
    State.Reporting digest calls ⟨Function.update s.states (digest (calls i).scope)
      ((s.states (digest (calls i).scope)).store i ledger.decoded gap), s.objects, Function.update s.phase i ph,
        s.commits ++ [(i, seen)]⟩ := by
  have hknown := h.phases i
  rw [hi] at hknown
  obtain ⟨hcarries, n, hheld, hsucceeds⟩ := hknown
  rw [hheld.current hg, VersionedCell.rewind_writes] at hsucceeds
  refine ⟨fun j => ?_, fun e he => ?_⟩
  · have hextends : (s.states (digest (calls j).scope)).Extends (Function.update s.states (digest (calls i).scope)
        ((s.states (digest (calls i).scope)).store i ledger.decoded gap) (digest (calls j).scope)) := by
      by_cases hk : digest (calls j).scope = digest (calls i).scope
      · rw [hk, Function.update_self]
        exact VersionedCell.extends_store
      · rw [Function.update_of_ne hk]
        exact .refl
    by_cases hj : j = i
    · subst hj
      simpa using hph
    · simpa only [Function.update_of_ne hj] using (h.phases j).extend hextends
  · rcases List.mem_append.mp he with he | he
    · obtain ⟨item, hitem, hreports⟩ := h.commits e he
      by_cases hk : digest (calls e.1).scope = digest (calls i).scope
      · rw [hk] at hitem
        obtain ⟨item', hitem', hreports'⟩ := hsucceeds.reported hitem hreports
        exact ⟨item', by simpa [hk] using hitem', hreports'⟩
      · exact ⟨item, by simpa [hk] using hitem, hreports⟩
    · obtain rfl := List.mem_singleton.mp he
      exact ⟨record.decoded, by simp [decoded_lookup, hsucceeds.1], hcarries.reports⟩

lemma step_reporting (h : s.Reporting digest calls) {l : I × Action} (hf : FaithfulStep digest calls s l)
    (hstep : step texts digest calls s l = some t) : t.Reporting digest calls := by
  obtain ⟨i, action⟩ := l
  have hphase := h.phases i
  have hraise : State.Reporting digest calls (s.goto i .raised) := h.move .raised rfl rfl h.commits trivial
  unfold step at hstep
  dsimp only at hstep
  split at hstep
  · split at hstep
    · exact Option.some.inj hstep ▸ hraise
    · cases hstep
      refine h.move _ rfl rfl h.commits ?_
      split
      · exact ⟨own_reports _, fun _ => rfl, fun _ => ⟨rfl, fun _ hp => absurd hp List.not_mem_nil⟩⟩
      · trivial
  · exact Option.some.inj hstep ▸ hraise
  · rename_i record seen tries hi
    rw [hi] at hphase
    split at hstep
    · exact Option.some.inj hstep ▸ hraise
    · rename_i turned hturn
      obtain ⟨hreports, hcarries, hkeeps⟩ := turn_reports hphase hturn fun prior hp => hf seen (by rw [hi]; rfl) prior hp
      have hlookup := turn_lookup hturn
      split at hstep
      · rename_i hchanged
        cases hstep
        refine h.move _ rfl rfl h.commits ⟨hcarries hchanged, _, VersionedCell.held_read, ?_⟩
        rw [VersionedCell.rewind_writes]
        exact ⟨hlookup, fun k hk => turn_lookup_ne hturn hk, hkeeps⟩
      · rename_i hchanged
        cases hstep
        refine h.move _ rfl rfl (fun e he => ?_) publishing_reporting
        rcases List.mem_append.mp he with he | he
        · exact h.commits e he
        · obtain rfl := List.mem_singleton.mp he
          refine ⟨turned.record, ?_, hreports⟩
          rw [turn_unchanged hturn (by simpa using hchanged)]
          exact hlookup
  · rename_i record seen tries held ledger delivery gap hi
    obtain rfl := Option.some.inj hstep
    have hknown := hphase
    rw [hi] at hknown
    rcases VersionedCell.afterSend_cases (s.states (digest (calls i).scope)) delivery i ledger.decoded held gap
      (publishing texts ledger) (.reading record seen tries) .raised with ⟨hsame, hph⟩ | ⟨hg, hstore, hph⟩
    · rw [hsame, Function.update_eq_self, if_pos rfl]
      refine h.move _ rfl rfl h.commits ?_
      rcases hph with hph | hph
      · rw [hph]
        exact hknown.1
      · rw [hph]
        trivial
    · rw [hstore, if_neg (by simp)]
      refine h.commit hi hg ?_
      rcases hph with hph | hph
      · rw [hph]
        exact publishing_reporting
      · rw [hph]
        trivial
  · cases hstep
    exact h.move _ rfl rfl h.commits loadObject_reporting
  · rename_i revision payload tries held delivery gap hi
    obtain rfl := Option.some.inj hstep
    refine h.move _ rfl rfl h.commits ?_
    unfold VersionedCell.afterSend
    split
    · trivial
    · split <;> trivial
  · cases hstep
  · exact Option.some.inj hstep ▸ hraise
  · cases hstep

/-- Without an unfaithful try a contradiction that was met once stays reported. -/
theorem faithful_runs_report_conflicts (h : ((publications texts digest calls).during (FaithfulStep digest calls)).Reachable s) :
    ∀ e ∈ s.commits, Reported digest calls s e := by
  have hreporting : s.Reporting digest calls := by
    refine h.invariant (I := fun s => s.Reporting digest calls) (fun s hinit => ?_) fun s l t hs hnext => ?_
    · obtain ⟨_, _, hphase, hcommits⟩ := hinit
      refine ⟨fun i => ?_, fun e he => ?_⟩
      · rw [hphase i]
        trivial
      · rw [hcommits] at he
        cases he
    · exact step_reporting hs hnext.1 hnext.2
  exact hreporting.commits

end Runs

section Fixture

def calls₁ : Fin 3 → Call
  | 0 => ⟨⟨fact₀ "cycle" "routine_cycle", true, false, none, none⟩, "main"⟩
  | 1 => ⟨⟨fact₀ "cycle" "risk_alert", true, false, none, some [("code", "halted")]⟩, "main"⟩
  | 2 => ⟨⟨fact₀ "submitted" "order_submitted", true, false, none, none⟩, "main"⟩

def start₁ : State (Fin 3) := ⟨fun _ => .absent, fun _ => .absent, fun _ => .idle, []⟩

def retried₁ : List (Fin 3 × Action) :=
  [(0, .start), (0, .read), (0, .write .acknowledged 0), (1, .start), (1, .read), (2, .start), (2, .read),
    (2, .write .acknowledged 0), (1, .write .acknowledged 0), (1, .read), (1, .write .acknowledged 0)]

lemma start₁_init : (publications texts₀ Scope.platformId calls₁).init start₁ :=
  ⟨fun _ => rfl, fun _ p hp => absurd hp (Option.some_ne_none p).symm, fun _ => rfl, rfl⟩

theorem retry_loses_the_conflict : ∃ s, (publications texts₀ Scope.platformId calls₁).Reachable s ∧
    ∃ seen prior item, (1, seen) ∈ s.commits ∧ prior ∈ seen ∧ ¬ Agrees (calls₁ 1).request prior ∧
      ((s.states "ibkr").value.getD .empty).events.lookup "cycle" = some item ∧ item.conflict = false := by
  have hexecute : ((System.execute (step texts₀ Scope.platformId calls₁) start₁ retried₁).map fun s =>
      (s.commits.getLast?, ((s.states "ibkr").value.getD .empty).events.lookup "cycle")) =
        some (some (1, [(calls₁ 0).request.record, (calls₁ 0).request.record]),
          some { (calls₁ 0).request.record with blockReason := some [("code", "halted")] }) := by decide
  obtain ⟨s, hs, hresult⟩ := Option.map_eq_some_iff.mp hexecute
  simp only [Prod.mk.injEq] at hresult
  refine ⟨s, ⟨start₁, retried₁, start₁_init, System.run_of_execute hs⟩, _, _, _, List.mem_of_getLast? hresult.1,
    List.mem_cons_self, fun hagrees => ?_, hresult.2, rfl⟩
  have hkinds : "routine_cycle" = "risk_alert" := congrArg Event.eventKind hagrees.1
  exact absurd hkinds (by decide)

def reported₁ : List (Fin 3 × Action) :=
  [(0, .start), (0, .read), (0, .write .acknowledged 0), (1, .start), (1, .read), (1, .write .acknowledged 0)]

theorem faithful_runs_report_conflicts₁ : ∃ (s : State (Fin 3)) (seen : List Item), (1, seen) ∈ s.commits ∧ seen ≠ [] ∧
    Reported Scope.platformId calls₁ s (1, seen) := by
  have hexecute : ((System.execute (fun s l => if FaithfulStep Scope.platformId calls₁ s l then
      step texts₀ Scope.platformId calls₁ s l else none) start₁ reported₁).map fun s => s.commits.getLast?) =
        some (some (1, [(calls₁ 0).request.record])) := by decide
  obtain ⟨s, hs, hlast⟩ := Option.map_eq_some_iff.mp hexecute
  have hmem := List.mem_of_getLast? hlast
  have hreachable : ((publications texts₀ Scope.platformId calls₁).during (FaithfulStep Scope.platformId calls₁)).Reachable s :=
    ⟨start₁, reported₁, start₁_init, System.run_of_execute_during hs⟩
  exact ⟨s, _, hmem, by simp, faithful_runs_report_conflicts hreachable _ hmem⟩

end Fixture

end IbkrPlatform.Notifications.Publication
