import IbkrPlatform.AccountFacts.Publisher
import IbkrPlatform.AccountFacts.RecordRoundTrip

/-! What a publisher posts, whatever its listings, its stored reports and the receiver give it. -/

namespace IbkrPlatform.AccountFacts

open Library Procedure
open FlexDaily (Instant)
open FlexDaily.Calendar (dayOf monthOf)

/-- What was asked and answered, newest first. -/
abbrev History := List (Ask × Answer)

section Definitions

variable (kit : Kit) (settings : Settings) (expected : Expected) (now : Instant)

def isPost : Ask → Bool
  | .post _ => true
  | _ => false

def isCat : Ask → Bool
  | .cat _ => true
  | _ => false

def isListing : Ask → Bool
  | .listing _ => true
  | _ => false

def count (kind : Ask → Bool) (h : History) : ℕ := h.countP fun x => kind x.1

def served (h : History) : List Answer :=
  (h.filter fun x => match x.1 with | .servingRevision => true | _ => false).map Prod.snd

def Belongs (e : Expected) (report : List (String × Json)) : Prop :=
  ∃ target diagnostics receipt account, reportParts report = some (target, diagnostics, receipt) ∧
    actualFields report target diagnostics = e.fields ∧ e.account = some account ∧
    accountSelector (target.lookup "account_selector") = [account]

structure ClosedMarket (e : Expected) (report : List (String × Json)) : Prop where
  closed : showsMarketClosed report = true
  belongs : Belongs e report
  factless : accountFacts report = none

def Read (h : History) (uri : String) (report : List (String × Json)) : Prop := (.cat uri, .stored (.report report)) ∈ h

/-- The listings of the last pass, of the current month and then of the one before it, found these reports. -/
def Listed (e : Expected) (h : History) (found : List (Instant × String)) : Prop :=
  ∃ newer older l₁ l₂ c₁ c₂,
    h = newer ++ (.listing (monthPrefix e.reportPrefix (monthOf (dayOf now) - 1)), .listing l₂) ::
      (.listing (monthPrefix e.reportPrefix (monthOf (dayOf now))), .listing l₁) :: older ∧
    (∀ x ∈ newer, isListing x.1 = false) ∧
    candidatesOf kit (monthPrefix e.reportPrefix (monthOf (dayOf now))) l₁ = .ok c₁ ∧
    candidatesOf kit (monthPrefix e.reportPrefix (monthOf (dayOf now) - 1)) l₂ = .ok c₂ ∧ found = c₁ ++ c₂

def Newest (e : Expected) (h : History) (uri : String) : Prop :=
  ∃ found, Listed kit now e h found ∧ ∃ t, (t, uri) ∈ found ∧
    ∀ x ∈ found, toLex (t, uri) < toLex x → ∃ report, Read h x.2 report ∧ ClosedMarket e report

def Selected (reportName : String) (e : Expected) (h : History) (uri : String) : Prop :=
  if reportName = "" then Newest kit now e h uri else namedReportUri e.reportPrefix reportName.toList now = .ok uri

def Resolved (older h : History) (e : Expected) : Prop :=
  if settings.resolveServing then ∃ revision, e = { expected with runtimeRevision := revision } ∧
    served older = [.revision (.ok revision)] ∧ h = (.servingRevision, .revision (.ok revision)) :: older
  else e = expected ∧ served older = [] ∧ h = older

def Posts (h : History) (payload : List (String × Json)) : Prop :=
  ∃ e older uri report record, Resolved settings expected older h e ∧ Read older uri report ∧
    Selected kit now settings.reportName e older uri ∧ projectIbkrAccountFactsHistory kit e uri (.dict report) = .ok record ∧
    isStale now record.observedAt = false ∧ payload = prepareSyncPayload settings.includePositions record.entries

def Permitted (h : History) : Ask → Prop
  | .servingRevision => (served h).length < 2
  | .listing _ => count isListing h < 4
  | .cat _ => count isCat h < 64
  | .post payload => Posts kit settings expected now h payload

def ok (h : History) (q : Ask) : Prop := count isPost h = 0 ∧ Permitted kit settings expected now h q

def Confirmed (h : History) : Outcome → Prop
  | .failed _ _ _ _ => True
  | .stale _ => True
  | _ => ∃ payload status body older, h = (.post payload, .reply (.response status (some (.dict body)))) :: older ∧
    200 ≤ status ∧ status < 300 ∧ Json.isTrue (body.lookup "ok") = true ∧ Json.isTrue (body.lookup "stored") = true

structure Tally (listings cats : ℕ) (answers : List Answer) (h : History) : Prop where
  posts : count isPost h = 0
  listings : count isListing h ≤ listings
  cats : count isCat h ≤ cats
  served : served h = answers

def Lasting (F : History → Prop) : Prop := ∀ x h, F h → F (x :: h)

def Settled (F : History → Prop) : Prop := ∀ x h, isListing x.1 = false → F h → F (x :: h)

end Definitions

section Facts

variable {kit : Kit} {settings : Settings} {expected e : Expected} {now : Instant} {uri : String} {report : List (String × Json)}
  {h : History}

lemma meets_factless (hfacts : accountFacts report = none) :
    Meets (fun reason => reason = "account_facts_invalid" → Belongs e report) (fun _ => False)
      (projectIbkrAccountFactsHistory kit e uri (.dict report)) := by
  have hother : ∀ reason ∈ envelopeReasons, reason = "account_facts_invalid" → Belongs e report :=
    fun reason hr heq => absurd (heq ▸ hr) (by decide)
  unfold projectIbkrAccountFactsHistory
  refine meets_bind (meets_require fun h => nomatch h) fun _ h => ?_
  obtain rfl := Option.some.inj h
  refine meets_bind (meets_refuseIf (hother _ (by simp [envelopeReasons]))) fun _ _ => ?_
  refine meets_bind (meets_sourceReportUri (hother _ (by simp [envelopeReasons]))) fun _ _ => ?_
  refine meets_bind (Q := fun _ => False) ?_ fun _ hr => hr.elim
  unfold validateReportAccountIdentity
  refine meets_bind (meets_refuseIf (hother _ (by simp [envelopeReasons]))) fun _ _ => ?_
  refine meets_bind (meets_require fun _ => hother _ (by simp [envelopeReasons])) fun account haccount => ?_
  refine meets_bind (meets_require fun _ => hother _ (by simp [envelopeReasons])) fun parts hparts => ?_
  refine meets_bind (meets_agree (hother _ (by simp [envelopeReasons]))) fun _ hagree => ?_
  refine meets_bind (meets_agree (hother _ (by simp [envelopeReasons]))) fun _ _ => ?_
  obtain ⟨hfields, hselector⟩ := eq_of_mismatched hagree
  rw [hfacts]
  refine meets_bind (meets_require fun _ _ => ?_) fun facts hsome => ?_
  · exact ⟨parts.1, parts.2.1, parts.2.2, account, hparts, hfields, haccount, hselector⟩
  · cases hsome

lemma factless_of_shows (h : showsMarketClosed report = true) : accountFacts report = none := by
  unfold showsMarketClosed at h
  rw [Bool.and_eq_true] at h
  have hsummary := h.2
  unfold accountFacts
  split at hsummary
  · rename_i hnone
    rw [hnone]
    rfl
  · rename_i summary hdict
    rw [hdict, Json.dict?_some, Option.bind_some, Option.isNone_iff_eq_none.mp hsummary]
    rfl
  · cases hsummary

lemma closedMarket_of_normal (h : normalMarketClosedWithoutSnapshot kit e now uri report = .ok true) : ClosedMarket e report := by
  unfold normalMarketClosedWithoutSnapshot at h
  split_ifs at h with hshows
  · cases h
  rw [Bool.not_eq_true, Bool.not_eq_false'] at hshows
  split at h
  · cases h
  split at h
  · cases h
  · cases h
  split at h
  · rename_i error herror
    have hmeets := @meets_factless kit e uri report (factless_of_shows hshows)
    exact ⟨hshows, hmeets.refusal error herror (of_decide_eq_true (Except.ok.inj h)), factless_of_shows hshows⟩
  · cases h

lemma meets_validated_facts : Meets (fun _ => True) (fun r => accountFacts report = some r.2.2) (validateReportAccountIdentity e report) := by
  unfold validateReportAccountIdentity
  refine meets_bind (meets_refuseIf trivial) fun _ _ => meets_bind (meets_require fun _ => trivial) fun _ _ => ?_
  refine meets_bind (meets_require fun _ => trivial) fun _ _ => ?_
  refine meets_bind (meets_agree trivial) fun _ _ => meets_bind (meets_agree trivial) fun _ _ => ?_
  refine meets_bind (meets_require fun _ => trivial) fun facts hfacts => ?_
  exact meets_bind (meets_refuseIf trivial) fun _ _ => meets_bind (meets_refuseIf trivial) fun _ _ => meets_pure hfacts

lemma observedAt_of_projected {facts : List (String × Json)} {record : Record} (hfacts : accountFacts report = some facts)
    (h : projectIbkrAccountFactsHistory kit e uri (.dict report) = .ok record) :
    observedTimestamp kit (facts.lookup "observed_at") = .ok record.observedAt := by
  have hmeets : Meets (fun _ => True) (fun record => observedTimestamp kit (facts.lookup "observed_at") = .ok record.observedAt)
      (projectIbkrAccountFactsHistory kit e uri (.dict report)) := by
    unfold projectIbkrAccountFactsHistory
    refine meets_bind (meets_require fun h => nomatch h) fun _ hreport => ?_
    obtain rfl := Option.some.inj hreport
    refine meets_bind (meets_refuseIf trivial) fun _ _ => meets_bind (meets_sourceReportUri trivial) fun _ _ => ?_
    refine meets_bind meets_validated_facts fun r hr => ?_
    obtain ⟨actual, selector, found⟩ := r
    obtain rfl := Option.some.inj (hfacts.symm.trans hr)
    refine meets_bind (meets_refuseIf trivial) fun _ _ => meets_bind (meets_observedTimestamp trivial) fun _ _ => ?_
    refine meets_bind (meets_observedTimestamp trivial) fun _ _ => meets_bind (meets_refuseIf trivial) fun _ _ => ?_
    refine meets_bind (meets_observedTimestamp trivial) fun observed hobserved => meets_bind (meets_refuseIf trivial) fun _ _ => ?_
    exact meets_bind (meets_require fun _ => trivial) fun _ _ => meets_bind (meets_require fun _ => trivial) fun _ _ =>
      meets_pure hobserved
  exact hmeets.answer record h

end Facts

section Course

variable {kit : Kit} {settings : Settings} {expected e : Expected} {now : Instant} {A B : Type} {P : History → ℕ → Prop}
  {x : Publishing A} {f : A → Publishing B} {Q : A → History → ℕ → Prop} {S : B → History → ℕ → Prop} {F : History → Prop}
  {uri : String} {l r : ℕ} {xs : List Answer}

def Does (kit : Kit) (settings : Settings) (expected : Expected) (now : Instant) (P : History → ℕ → Prop) (x : Publishing A)
    (Q : A → History → ℕ → Prop) : Prop :=
  Triple (fun _ => True) (ok kit settings expected now) P x Q fun _ h _ => count isPost h = 0

lemma count_cons (kind : Ask → Bool) (x : Ask × Answer) (h : History) :
    count kind (x :: h) = count kind h + if kind x.1 then 1 else 0 := List.countP_cons

lemma Tally.listing {h : History} {inMonth : String} {answer : Answer} (ht : Tally l r xs h) :
    Tally (l + 1) r xs ((.listing inMonth, answer) :: h) := by
  obtain ⟨hp, hl, hr, hx⟩ := ht
  refine ⟨?_, ?_, ?_, hx⟩ <;> rw [count_cons] <;> simp [isPost, isListing, isCat, hp, hl, hr]

lemma Tally.cat {h : History} {uri : String} {answer : Answer} (ht : Tally l r xs h) :
    Tally l (r + 1) xs ((.cat uri, answer) :: h) := by
  obtain ⟨hp, hl, hr, hx⟩ := ht
  refine ⟨?_, ?_, ?_, hx⟩ <;> rw [count_cons] <;> simp [isPost, isListing, isCat, hp, hl, hr]

lemma Tally.serving {h : History} {answer : Answer} (ht : Tally l r xs h) :
    Tally l r (answer :: xs) ((.servingRevision, answer) :: h) := by
  obtain ⟨hp, hl, hr, rfl⟩ := ht
  refine ⟨?_, ?_, ?_, rfl⟩ <;> rw [count_cons] <;> simp [isPost, isListing, isCat, hp, hl, hr]

lemma does_bind (hx : Does kit settings expected now P x Q) (hf : ∀ a, Does kit settings expected now (Q a) (f a) S) :
    Does kit settings expected now P (x >>= f) S :=
  triple_bind hx hf

lemma does_throw {stop : Stop} (hp : ∀ h n, P h n → count isPost h = 0) : Does kit settings expected now P (throw stop) Q :=
  triple_throw hp

lemma Does.of_imp {p : Prop} (hx : p → Does kit settings expected now P x Q) :
    Does kit settings expected now (fun h n => P h n ∧ p) x Q :=
  triple_of_imp hx

lemma does_lift {value : Except ProjectionError A} (hp : ∀ h n, P h n → count isPost h = 0) :
    Does kit settings expected now P (lift value) fun a h n => P h n ∧ value = .ok a := by
  cases value with
  | ok a => exact triple_pure fun h n hp => ⟨hp, rfl⟩
  | error e => exact triple_throw hp

lemma does_raiseFrom {value : Except Stop A} (hp : ∀ h n, P h n → count isPost h = 0) :
    Does kit settings expected now P (raiseFrom value) fun a h n => P h n ∧ value = .ok a :=
  triple_raiseFrom (fun _ hv _ _ hh => ⟨hh, hv⟩) fun _ _ => hp

lemma Lasting.settled (hF : Lasting F) : Settled F := fun x h _ => hF x h

lemma does_askListing {inMonth : String} (hl : l < 4) :
    Does kit settings expected now (fun h _ => Tally l r xs h ∧ F h) (askListing kit inMonth) fun c h _ => Tally (l + 1) r xs h ∧
      ∃ listing older, h = (.listing inMonth, .listing listing) :: older ∧ F older ∧ candidatesOf kit inMonth listing = .ok c := by
  rintro h n ⟨ht, hf⟩
  refine holds_bind.mpr (holds_ask.mpr ⟨⟨ht.posts, lt_of_le_of_lt ht.listings hl⟩, fun answer _ => ?_⟩)
  cases answer with
  | listing listing =>
    have hraise : Does kit settings expected now (fun h' _ => h' = (.listing inMonth, .listing listing) :: h)
        (raiseFrom (candidatesOf kit inMonth listing)) fun c h' _ =>
          h' = (.listing inMonth, .listing listing) :: h ∧ candidatesOf kit inMonth listing = .ok c :=
      does_raiseFrom fun _ _ hh => hh ▸ ht.listing.posts
    refine (hraise _ n rfl).mono ?_ fun _ _ _ he => he
    rintro c _ n ⟨rfl, hc⟩
    exact ⟨ht.listing, listing, h, rfl, hf, hc⟩
  | _ => exact ht.listing.posts

lemma does_loadGcsReport (hF : Settled F) (hr : r < 64) :
    Does kit settings expected now (fun h _ => Tally l r xs h ∧ F h) (loadGcsReport uri) fun report h _ =>
      (Tally l (r + 1) xs h ∧ F h) ∧ Read h uri report := by
  rintro h n ⟨ht, hf⟩
  refine holds_bind.mpr (holds_ask.mpr ⟨⟨ht.posts, lt_of_le_of_lt ht.cats hr⟩, fun answer _ => ?_⟩)
  have hposts : count isPost ((.cat uri, .raised) :: h) = 0 := ht.cat.posts
  cases answer with
  | stored stored =>
    cases stored with
    | report entries => exact ⟨⟨ht.cat, hF _ _ rfl hf⟩, List.mem_cons_self⟩
    | _ => exact hposts
  | _ => exact hposts

lemma does_askServing (hxs : xs.length < 2) :
    Does kit settings expected now (fun h _ => Tally l r xs h ∧ F h) askServing fun revision h _ =>
      Tally l r (.revision (.ok revision) :: xs) h ∧ ∃ older, h = (.servingRevision, .revision (.ok revision)) :: older ∧
        Tally l r xs older ∧ F older := by
  rintro h n ⟨ht, hf⟩
  refine holds_bind.mpr (holds_ask.mpr ⟨⟨ht.posts, by rw [Permitted, ht.served]; exact hxs⟩, fun answer _ => ?_⟩)
  have hposts : count isPost ((.servingRevision, .raised) :: h) = 0 := ht.serving.posts
  cases answer with
  | revision revision =>
    cases revision with
    | ok revision => exact ⟨ht.serving, h, rfl, ht, hf⟩
    | error e => exact hposts
  | _ => exact hposts

def Tried (kit : Kit) (now : Instant) (e : Expected) (cs : List (Instant × String)) (h : History) : Prop :=
  cs ≠ [] ∧ ∃ found, Listed kit now e h found ∧ cs = found.eraseDups.insertionSort newerFirst

lemma settled_listed {found : List (Instant × String)} : Settled fun h => Listed kit now e h found := by
  rintro x h hx ⟨newer, older, l₁, l₂, c₁, c₂, rfl, hnewer, hc⟩
  exact ⟨x :: newer, older, l₁, l₂, c₁, c₂, rfl, List.forall_mem_cons.mpr ⟨hx, hnewer⟩, hc⟩

lemma settled_tried {cs : List (Instant × String)} : Settled (Tried kit now e cs) :=
  fun x h hx ht => ⟨ht.1, ht.2.imp fun _ hf => ⟨settled_listed x h hx hf.1, hf.2⟩⟩

lemma does_reportCandidates (hF : Lasting F) (hl : l + 1 < 4) :
    Does kit settings expected now (fun h _ => Tally l r xs h ∧ F h) (reportCandidates kit e now) fun cs h _ =>
      (Tally (l + 2) r xs h ∧ F h) ∧ Tried kit now e cs h := by
  refine does_bind (does_askListing (by omega)) fun current => ?_
  refine does_bind (Q := fun before h _ => Tally (l + 2) r xs h ∧ F h ∧ ∃ found, Listed kit now e h found ∧
    found = current ++ before) ?_ fun before => ?_
  · refine Triple.mono (does_askListing hl) (fun _ _ hh => hh) ?_ fun _ _ _ he => he
    rintro before _ n ⟨ht, l₂, _, rfl, ⟨l₁, older, rfl, hf, hc₁⟩, hc₂⟩
    exact ⟨ht, hF _ _ (hF _ _ hf), _, ⟨[], older, l₁, l₂, current, before, rfl, List.forall_mem_nil _, hc₁, hc₂, rfl⟩, rfl⟩
  · split_ifs with hnil
    · exact does_throw fun h n hh => hh.1.posts
    · rintro h n ⟨ht, hf, found, hlisted, rfl⟩
      refine ⟨⟨ht, hf⟩, fun hempty => hnil ?_, _, hlisted, rfl⟩
      have hperm := List.perm_insertionSort newerFirst (current ++ before).eraseDups
      rw [hempty] at hperm
      have hdups := hperm.symm.eq_nil
      cases hall : current ++ before with
      | nil => rfl
      | cons c cs =>
        rw [hall, List.eraseDups_cons] at hdups
        cases hdups

def Skipped (e : Expected) (done : List (Instant × String)) (h : History) : Prop :=
  ∀ x ∈ done, ∃ report, Read h x.2 report ∧ ClosedMarket e report

lemma lasting_skipped {done : List (Instant × String)} : Lasting (Skipped e done) :=
  fun _ _ hs x hx => (hs x hx).imp fun _ hr => ⟨List.mem_cons_of_mem _ hr.1, hr.2⟩

lemma Settled.and {G : History → Prop} (hF : Settled F) (hG : Settled G) : Settled fun h => F h ∧ G h :=
  fun x h hx hh => ⟨hF x h hx hh.1, hG x h hx hh.2⟩

lemma newest_of_tried {h : History} {cs done more : List (Instant × String)} {t : Instant} (ht : Tried kit now e cs h)
    (hcs : cs = done ++ (t, uri) :: more) (hdone : Skipped e done h) : Newest kit now e h uri := by
  obtain ⟨-, found, hlisted, hsort⟩ := ht
  have : Std.Total newerFirst := ⟨fun a b => le_total _ _⟩
  have : IsTrans (Instant × String) newerFirst := ⟨fun _ _ _ hab hbc => le_trans hbc hab⟩
  have hsorted : cs.Pairwise newerFirst := hsort ▸ List.pairwise_insertionSort newerFirst _
  have hmem : ∀ x, x ∈ cs ↔ x ∈ found := fun x => by
    rw [hsort, List.mem_insertionSort, List.mem_eraseDups]
  rw [hcs] at hsorted hmem
  refine ⟨found, hlisted, t, (hmem _).mp (by simp), fun x hx hnewer => ?_⟩
  rcases List.mem_append.mp ((hmem x).mpr hx) with hx | hx
  · exact hdone x hx
  · have hle : toLex x ≤ toLex (t, uri) := by
      rcases List.mem_cons.mp hx with rfl | hx
      · exact le_rfl
      · exact (List.pairwise_cons.mp (List.pairwise_append.mp hsorted).2.1).1 x hx
    exact absurd hnewer (not_lt.mpr hle)

def Found (kit : Kit) (now : Instant) (e : Expected) (l : ℕ) (xs : List Answer) (selected : String × List (String × Json)) (h : History) :
    Prop :=
  Tally l 64 xs h ∧ Read h selected.1 selected.2 ∧ Newest kit now e h selected.1

lemma Tally.mono {h : History} {l' r' : ℕ} (ht : Tally l r xs h) (hl : l ≤ l') (hr : r ≤ r') : Tally l' r' xs h :=
  ⟨ht.posts, ht.listings.trans hl, ht.cats.trans hr, ht.served⟩

lemma does_scan {cs done rest after : List (Instant × String)} (hcs : cs = done ++ rest ++ after) (hr : r + rest.length ≤ 64) :
    Does kit settings expected now (fun h _ => Tally l r xs h ∧ Tried kit now e cs h ∧ Skipped e done h) (scan kit e now rest)
      fun selected h _ => Found kit now e l xs selected h := by
  induction rest generalizing done r with
  | nil => exact does_throw fun h n hh => hh.1.posts
  | cons c rest ih =>
    obtain ⟨t, uri⟩ := c
    rw [List.length_cons] at hr
    refine does_bind (does_loadGcsReport (settled_tried.and lasting_skipped.settled) (by omega)) fun report => ?_
    refine does_bind (does_raiseFrom fun h n hh => hh.1.1.posts) fun closed => Does.of_imp fun hclosed => ?_
    split_ifs with hc
    · subst hc
      refine does_bind (Q := fun _ h _ => Tally l (r + 1) xs h ∧ Tried kit now e cs h ∧ Skipped e (done ++ [(t, uri)]) h)
        (triple_modify ?_) fun _ => ih (by simpa using hcs) (by omega)
      rintro h n ⟨⟨ht, htried, hdone⟩, hread⟩
      refine ⟨ht, htried, fun x hx => ?_⟩
      rcases List.mem_append.mp hx with hx | hx
      · exact hdone x hx
      · rw [List.mem_singleton.mp hx]
        exact ⟨report, hread, closedMarket_of_normal hclosed⟩
    · refine triple_pure ?_
      rintro h n ⟨⟨ht, htried, hdone⟩, hread⟩
      exact ⟨ht.mono le_rfl (by omega), hread, newest_of_tried htried (by simpa using hcs) hdone⟩

def SkippedAt (e : Expected) (uri : String) (h : History) : Prop := ∃ report, Read h uri report ∧ ClosedMarket e report

lemma lasting_skippedAt : Lasting (SkippedAt e uri) :=
  fun _ _ hs => hs.imp fun _ hr => ⟨List.mem_cons_of_mem _ hr.1, hr.2⟩

lemma does_fallBack : Does kit settings expected now (fun h _ => Tally 2 1 xs h ∧ SkippedAt e uri h) (fallBack kit e now uri)
    fun selected h _ => Found kit now e 4 xs selected h := by
  refine does_bind (Q := fun _ h _ => Tally 2 1 xs h ∧ SkippedAt e uri h) (triple_modify fun h n hh => hh) fun _ => ?_
  refine does_bind (does_reportCandidates lasting_skippedAt (by omega)) fun cs => ?_
  split_ifs with hhead
  · exact does_throw fun h n hh => hh.1.1.posts
  · cases cs with
    | nil => exact fun h n hh => absurd rfl hh.2.1
    | cons c rest =>
      obtain ⟨t, latest⟩ := c
      obtain rfl : latest = uri := by simpa using hhead
      have hcs : (t, latest) :: rest = [(t, latest)] ++ rest.take 63 ++ rest.drop 63 := by simp
      have hscan : Does kit settings expected now
          (fun h _ => Tally 4 1 xs h ∧ Tried kit now e ((t, latest) :: rest) h ∧ Skipped e [(t, latest)] h)
          (scan kit e now (rest.take 63)) fun selected h _ => Found kit now e 4 xs selected h :=
        does_scan hcs (by rw [List.length_take]; omega)
      refine hscan.mono (fun h n hh => ⟨hh.1.1, hh.2, fun x hx => ?_⟩) (fun _ _ _ hq => hq) fun _ _ _ he => he
      rw [List.mem_singleton.mp hx]
      exact hh.1.2

lemma does_selectLatest : Does kit settings expected now (fun h _ => Tally 0 0 xs h) (selectAccountFactsReport kit e now "")
    fun selected h _ => Found kit now e 4 xs selected h := by
  rw [selectAccountFactsReport, if_neg (by simp)]
  have htrue : Lasting fun _ => True := fun _ _ _ => trivial
  refine does_bind (Q := fun cs h _ => Tally 2 0 xs h ∧ Tried kit now e cs h) ?_ fun cs => ?_
  · exact (does_reportCandidates htrue (by omega)).mono (fun h n hh => ⟨hh, trivial⟩) (fun _ _ _ hq => ⟨hq.1.1, hq.2⟩) fun _ _ _ he => he
  extract_lets latest
  refine does_bind (does_loadGcsReport settled_tried (by omega)) fun report => ?_
  refine does_bind (does_raiseFrom fun h n hh => hh.1.1.posts) fun closed => Does.of_imp fun hclosed => ?_
  split_ifs with hc
  · subst hc
    refine does_fallBack.mono (fun h n hh => ⟨hh.1.1, report, hh.2, closedMarket_of_normal hclosed⟩) (fun _ _ _ hq => hq) fun _ _ _ he => he
  · refine triple_pure ?_
    rintro h n ⟨⟨ht, htried⟩, hread⟩
    cases cs with
    | nil => exact absurd rfl htried.1
    | cons c rest =>
      obtain ⟨t, uri⟩ := c
      exact ⟨ht.mono (by omega) (by omega), hread, newest_of_tried htried (List.nil_append _).symm fun x hx => nomatch hx⟩

lemma does_select {reportName : String} : Does kit settings expected now (fun h _ => Tally 0 0 xs h)
    (selectAccountFactsReport kit e now reportName)
    fun selected h _ => Tally 4 64 xs h ∧ Read h selected.1 selected.2 ∧ Selected kit now reportName e h selected.1 := by
  by_cases hname : reportName = ""
  · subst hname
    refine does_selectLatest.mono (fun _ _ hh => hh) (fun _ _ _ hq => ⟨hq.1, hq.2.1, ?_⟩) fun _ _ _ he => he
    rw [Selected, if_pos rfl]
    exact hq.2.2
  · rw [selectAccountFactsReport, if_pos hname]
    have htrue : Lasting fun _ => True := fun _ _ _ => trivial
    refine does_bind (does_lift fun h n hh => hh.posts) fun uri => Does.of_imp fun hnamed => ?_
    refine does_bind (Q := fun report h _ => (Tally 0 1 xs h ∧ True) ∧ Read h uri report) ?_ fun report => triple_pure ?_
    · exact (does_loadGcsReport htrue.settled (by omega)).mono (fun h n hh => ⟨hh, trivial⟩) (fun _ _ _ hq => hq) fun _ _ _ he => he
    · rintro h n ⟨⟨ht, -⟩, hread⟩
      refine ⟨ht.mono (by omega) (by omega), hread, ?_⟩
      rw [Selected, if_neg hname]
      exact hnamed

lemma confirmed_outcomeOf {record : Record} {payload : List (String × Json)} (reply : Reply) (h : History) :
    Confirmed ((.post payload, .reply reply) :: h) (outcomeOf kit record reply) := by
  cases reply with
  | response status body =>
    simp only [outcomeOf]
    split_ifs with hstatus
    · trivial
    rw [not_or, not_lt, not_le] at hstatus
    split
    · split
      · rename_i payload' hok hunchanged
        rw [Bool.and_eq_true] at hok
        exact ⟨_, _, _, _, rfl, hstatus.1, hstatus.2, hok.1, hok.2⟩
      · rename_i payload' hok hunchanged
        rw [Bool.and_eq_true] at hok
        split <;> exact ⟨_, _, _, _, rfl, hstatus.1, hstatus.2, hok.1, hok.2⟩
      · trivial
    · trivial
  | _ => trivial

lemma does_prepared {report : List (String × Json)} (hp : ∀ h n, P h n → count isPost h = 0) :
    Does kit settings expected now P (prepared kit settings e uri report) fun record h n =>
      P h n ∧ projectIbkrAccountFactsHistory kit e uri (.dict report) = .ok record := by
  unfold prepared
  split
  · exact does_throw hp
  · refine does_bind (does_lift hp) fun _ => does_bind (does_lift fun h n hh => hp h n hh.1) fun _ => ?_
    exact (does_lift fun h n hh => hp h n hh.1.1).mono (fun _ _ hh => hh) (fun _ _ _ hq => ⟨hq.1.1.1, hq.2⟩) fun _ _ _ he => he

lemma does_post {record : Record} (hp : ∀ h n, P h n → count isPost h = 0 ∧
      Posts kit settings expected now h (prepareSyncPayload settings.includePositions record.entries)) :
    Does kit settings expected now P (post kit settings record) fun outcome h _ => Confirmed h outcome := by
  refine fun h n hh => holds_bind.mpr (holds_ask.mpr ⟨hp h n hh, fun answer _ => ?_⟩)
  cases answer with
  | reply reply => exact confirmed_outcomeOf reply h
  | _ => trivial

lemma does_publish {report : List (String × Json)} {uri : String} :
    Does kit settings expected now
      (fun h _ => count isPost h = 0 ∧ ∃ older, Resolved settings expected older h e ∧ Read older uri report ∧
        Selected kit now settings.reportName e older uri)
      (publishIbkrAccountFactsHistory kit settings e now uri report) fun outcome h _ => Confirmed h outcome := by
  refine does_bind (does_lift fun h n hh => hh.1) fun facts => Does.of_imp fun hfacts => ?_
  refine does_bind (does_lift fun h n hh => hh.1) fun observed => Does.of_imp fun hobserved => ?_
  split_ifs with hstale
  · exact triple_pure fun h n hh => trivial
  refine does_bind (does_prepared fun h n hh => hh.1) fun record => Does.of_imp fun hprojected => ?_
  have hfound : accountFacts report = some facts := by
    cases hf : accountFacts report with
    | none =>
      rw [hf] at hfacts
      cases hfacts
    | some found =>
      rw [hf] at hfacts
      rw [Except.ok.inj hfacts]
  obtain rfl : observed = record.observedAt :=
    Except.ok.inj (hobserved.symm.trans (observedAt_of_projected hfound hprojected))
  refine does_post ?_
  rintro h n ⟨hposts, older, hresolved, hread, hselected⟩
  exact ⟨hposts, e, older, uri, report, record, hresolved, hread, hselected, hprojected, by simpa using hstale, rfl⟩

lemma does_run : Does kit settings expected now (fun h _ => h = []) (run kit settings expected now) fun outcome h _ => Confirmed h outcome := by
  have hstart : Tally 0 0 [] [] := ⟨rfl, le_rfl, le_rfl, rfl⟩
  unfold run
  split_ifs with hresolve hname
  · exact does_throw fun h n hh => hh ▸ rfl
  · refine does_bind (Q := fun revision h _ => Tally 0 0 [.revision (.ok revision)] h) ?_ fun revision => ?_
    · exact (does_askServing (F := fun _ => True) (by simp)).mono (fun h n hh => ⟨hh ▸ hstart, trivial⟩) (fun _ _ _ hq => hq.1)
        fun _ _ _ he => he
    extract_lets bound
    refine does_bind does_select fun selected => ?_
    refine does_bind (Q := fun _ h _ => count isPost h = 0 ∧ ∃ older, Resolved settings expected older h bound ∧
      Read older selected.1 selected.2 ∧ Selected kit now "" bound older selected.1) ?_ fun _ => ?_
    · refine does_bind (does_askServing (by simp)) fun again => ?_
      split_ifs with hsame
      · exact does_throw fun h n hh => hh.1.posts
      · obtain rfl := not_not.mp hsame
        refine triple_pure ?_
        rintro h n ⟨ht, older, hh, holder, hread, hselected⟩
        refine ⟨ht.posts, older, ?_, hread, hselected⟩
        rw [Resolved, if_pos hresolve]
        exact ⟨again, rfl, holder.served, hh⟩
    · refine does_publish.mono (fun h n hh => ?_) (fun _ _ _ hq => hq) fun _ _ _ he => he
      rw [not_not.mp hname]
      exact hh
  · refine does_bind (does_select.mono (fun h n hh => hh ▸ hstart) (fun _ _ _ hq => hq) fun _ _ _ he => he) fun selected => ?_
    refine does_publish.mono (fun h n hh => ⟨hh.1.posts, h, ?_, hh.2.1, hh.2.2⟩) (fun _ _ _ hq => hq) fun _ _ _ he => he
    rw [Resolved, if_neg hresolve]
    exact ⟨rfl, hh.1.served, rfl⟩

end Course

/-- Whatever it is given, the publisher posts at most once, and then the record of the newest report that is no closed market. -/
theorem publisher_posts_newest (kit : Kit) (settings : Settings) (expected : Expected) (now : Instant) :
    Holds (fun _ => True) (ok kit settings expected now) (run kit settings expected now) (fun outcome h _ => Confirmed h outcome)
      (fun _ h _ => count isPost h = 0) [] 0 :=
  does_run [] 0 rfl

end IbkrPlatform.AccountFacts
