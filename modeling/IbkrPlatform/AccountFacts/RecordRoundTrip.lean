import IbkrPlatform.AccountFacts.PositionRoundTrip
import IbkrPlatform.AccountFacts.Projection

/-! The facts of a snapshot, as their projection from a report that carries them archives them. -/

namespace IbkrPlatform.AccountFacts

open Library
open FlexDaily (Instant Parsed)
open FlexDaily.Forward (representable)
open Portfolio.CashObservations (Native decimal currencyOf isCurrency)
open Portfolio.CashSelectors (marketCurrencyCashTagPriority)

section Refusals

variable {A B : Type} {P : String → Prop} {Q : A → Prop} {S : B → Prop} {x : Except ProjectionError A}
  {f : A → Except ProjectionError B} {reason : String}

structure Meets (P : String → Prop) (Q : A → Prop) (x : Except ProjectionError A) : Prop where
  answer : ∀ a, x = .ok a → Q a
  refusal : ∀ e, x = .error e → P e.reason

lemma meets_ok {a : A} (h : Q a) : Meets P Q (.ok a) := by
  refine ⟨fun b hb => ?_, fun e he => ?_⟩
  · cases hb
    exact h
  · cases he

lemma meets_error {e : ProjectionError} (h : P e.reason) : Meets P Q (.error e) := by
  refine ⟨fun a ha => ?_, fun e' he => ?_⟩
  · cases ha
  · cases he
    exact h

lemma meets_bind (hx : Meets P Q x) (hf : ∀ a, Q a → Meets P S (f a)) : Meets P S (x >>= f) := by
  cases x with
  | ok a => exact hf a (hx.answer a rfl)
  | error e => exact meets_error (hx.refusal e rfl)

lemma Meets.mono {R : A → Prop} (hx : Meets P Q x) (h : ∀ a, Q a → R a) : Meets P R x :=
  ⟨fun a ha => h a (hx.answer a ha), hx.refusal⟩

lemma meets_pure {a : A} (h : Q a) : Meets P Q (pure a) := meets_ok h

lemma meets_refuse (hr : P reason) : Meets P Q (refuse reason) := meets_error hr

lemma meets_refuseIf {c : Prop} [Decidable c] (hr : P reason) : Meets P (fun _ => ¬ c) (refuseIf c reason) := by
  unfold refuseIf
  split_ifs with hc
  · exact meets_refuse hr
  · exact meets_ok hc

lemma meets_passed {c : Prop} [Decidable c] (hc : ¬ c) : Meets P (fun _ => True) (refuseIf c reason) := by
  rw [refuseIf, if_neg hc]
  exact meets_ok trivial

lemma meets_require {value : Option A} (hr : value = none → P reason) : Meets P (fun a => value = some a) (require value reason) := by
  cases value with
  | none => exact meets_refuse (hr rfl)
  | some a => exact meets_ok rfl

lemma meets_agree {fields : List String} (hr : P "runtime_target_mismatch") : Meets P (fun _ => fields = []) (agree fields) := by
  unfold agree
  split_ifs with hf
  · exact meets_ok hf
  · exact meets_error hr

lemma meets_observedTimestamp {kit : Kit} {value : Option Json} (hr : P "observation_invalid") :
    Meets P (fun t => observedTimestamp kit value = .ok t) (observedTimestamp kit value) := by
  refine ⟨fun t h => h, fun e h => ?_⟩
  unfold observedTimestamp at h
  split at h
  · cases h
    exact hr
  · split_ifs at h
    · cases h
      exact hr
    · split at h
      · split_ifs at h
        cases h
        exact hr
      · cases h
        exact hr

lemma meets_sourceReportUri {kit : Kit} {uri expectedPrefix : String} (hr : P "report_provenance_invalid") :
    Meets P (fun _ => True) (sourceReportUri kit uri expectedPrefix) := by
  unfold sourceReportUri
  split
  · exact (meets_refuseIf hr).mono fun _ _ => trivial
  · exact meets_refuse hr

end Refusals

section Times

def Stamped (cs : List Char) : Prop := ∀ c ∈ cs, c.isDigit = true ∨ c ∈ ['-', ':', 'T', '.']

lemma Stamped.append {xs ys : List Char} (hx : Stamped xs) (hy : Stamped ys) : Stamped (xs ++ ys) :=
  List.forall_mem_append.mpr ⟨hx, hy⟩

lemma Stamped.cons {c : Char} {cs : List Char} (hc : c ∈ ['-', ':', 'T', '.']) (hcs : Stamped cs) : Stamped (c :: cs) :=
  List.forall_mem_cons.mpr ⟨.inr hc, hcs⟩

lemma stamped_zfill (width n : ℕ) : Stamped (Decimal.zfill width (Nat.toDigits 10 n)) := by
  intro c hc
  rcases List.mem_append.mp hc with hc | hc
  · rw [List.eq_of_mem_replicate hc]
    exact .inl rfl
  · exact .inl (Nat.isDigit_of_mem_toDigits (by decide) (by decide) hc)

lemma stamped_isoTime (t : Instant) : Stamped (isoTime t) := by
  unfold isoTime
  extract_lets micros
  refine .append ?_ ?_
  · refine .append ?_ (.cons (by decide) ?_)
    · simp only [FlexDaily.Strptime.isoText, String.toList_ofList]
      exact ((stamped_zfill _ _).append (.cons (by decide) (stamped_zfill _ _))).append (.cons (by decide) (stamped_zfill _ _))
    · exact ((stamped_zfill _ _).append (.cons (by decide) (stamped_zfill _ _))).append (.cons (by decide) (stamped_zfill _ _))
  · split_ifs
    · exact fun c hc => nomatch hc
    · exact .cons (by decide) (stamped_zfill _ _)

lemma ne_zulu {c : Char} (h : c.isDigit = true ∨ c ∈ ['-', ':', 'T', '.']) : c ≠ 'Z' ∧ Text.isSpace c = false := by
  rcases h with h | h
  · have hrange := Decimal.toNat_of_isDigit h
    constructor
    · rintro rfl
      exact absurd h (by decide)
    · simp only [Text.isSpace, decide_eq_false_iff_not]
      omega
  · simp only [List.mem_cons, List.not_mem_nil, or_false] at h
    rcases h with rfl | rfl | rfl | rfl <;> exact ⟨by decide, by decide⟩

variable {kit : Kit}

lemma observedTimestamp_zuluText {t : Instant} (hread : kit.fromisoformat (isoformat t) = some ⟨t, some 0⟩)
    (ht : representable t = true) : observedTimestamp kit (some (.text (zuluText t))) = .ok t := by
  have hstamped := stamped_isoTime t
  have hlist : (zuluText t).toList = isoTime t ++ ['Z'] := String.toList_ofList
  have hreplace : (zuluText t).toList.flatMap (fun c => if c = 'Z' then "+00:00".toList else [c]) = isoTime t ++ "+00:00".toList := by
    rw [hlist, List.flatMap_append, List.flatMap_congr fun c hc => if_neg (ne_zulu (hstamped c hc)).1, List.flatMap_singleton',
      List.flatMap_singleton, if_pos rfl]
  have hstrip : Text.strip (zuluText t) ≠ "" := by
    have hnone : ∀ c ∈ isoTime t ++ ['Z'], Text.isSpace c = false := by
      intro c hc
      rcases List.mem_append.mp hc with hc | hc
      · exact (ne_zulu (hstamped c hc)).2
      · rw [List.mem_singleton.mp hc]
        decide
    rw [Text.strip, hlist, Text.stripChars_of_nonspace hnone]
    intro hempty
    simpa using congrArg String.toList hempty
  have hwritten : kit.fromisoformat (String.ofList (isoTime t ++ "+00:00".toList)) = some ⟨t, some 0⟩ := hread
  unfold observedTimestamp
  simp only [Json.text?_some, hstrip, if_false, hreplace, hwritten, sub_zero, ht, if_true]

end Times

section Cash

variable {beyond : Char → List Char} {rows : List Balance} {cash : List CashEntry} {v : Native} {text : List Char}

def Fits (t : String) : Prop := ∃ p, Decimal.plain t.toList = some p ∧ Storable p

lemma decimalText_format {d : Decimal} : decimalText (String.ofList (Decimal.format d)) = some (String.ofList (Decimal.format d)) ↔
    Fits (String.ofList (Decimal.format d)) := by
  obtain ⟨p, hp, -⟩ := format_eq_text d
  rw [← hp, decimalText_text, Fits, String.toList_ofList, Decimal.plain_of_text]
  simp

def Written (t : String) : Prop := ∃ d, t = String.ofList (Decimal.format d)

lemma decimalText_written {t : String} (h : Written t) : (∃ s, decimalText t = some s) ↔ Fits t := by
  obtain ⟨d, rfl⟩ := h
  rw [← decimalText_format]
  constructor
  · rintro ⟨s, hs⟩
    rw [(accepted_of_decimalText hs).1] at hs
    exact hs
  · exact fun h => ⟨_, h⟩

structure CashEntry.Sound (c : CashEntry) : Prop where
  currency : isCurrency c.currency = true
  sourceTag : c.sourceTag ∈ marketCurrencyCashTagPriority
  cashBalance : Written c.cashBalance

lemma cashOf_some {row : Balance} {amount tag : String} (h : cashOf row = some (amount, tag)) :
    tag ∈ marketCurrencyCashTagPriority ∧ Written amount := by
  obtain ⟨tag, htag, h⟩ := Option.bind_eq_some_iff.mp h
  obtain ⟨text, ht, h⟩ := Option.map_eq_some_iff.mp h
  obtain ⟨rfl, rfl⟩ := Prod.mk.injEq _ _ _ _ ▸ h
  obtain ⟨v, -, ht⟩ := Option.bind_eq_some_iff.mp ht
  obtain ⟨d, -, rfl⟩ := Option.map_eq_some_iff.mp ht
  exact ⟨List.mem_of_find?_eq_some htag, d, rfl⟩

lemma readBalance_some {row : Balance} {y : String × Option CashEntry} (h : readBalance beyond row = some y) :
    ∀ c ∈ y.2, c.currency = y.1 ∧ c.Sound := by
  unfold readBalance at h
  extract_lets currency at h
  split_ifs at h with hcurrency
  obtain rfl := Option.some.inj h
  intro c hc
  obtain ⟨⟨amount, tag⟩, ha, rfl⟩ := Option.map_eq_some_iff.mp (Option.mem_def.mp hc)
  obtain ⟨htag, hwritten⟩ := cashOf_some ha
  exact ⟨rfl, hcurrency, htag, hwritten⟩

lemma cashEntries_some (h : cashEntries beyond rows = some cash) :
    (∀ c ∈ cash, c.Sound) ∧ (cash.map CashEntry.currency).Nodup := by
  obtain ⟨ys, hg, rfl⟩ := Option.map_eq_some_iff.mp h
  obtain ⟨hread, hnodup⟩ := Distinct.gather_eq_some.mp hg
  have hys : ∀ y ∈ ys, ∀ c ∈ y.2, c.currency = y.1 ∧ c.Sound := by
    clear hg hnodup h
    generalize rows.filter _ = xs at hread
    induction hread with
    | nil => exact fun y hy => nomatch hy
    | cons hb _ ih => exact List.forall_mem_cons.mpr ⟨readBalance_some hb, ih⟩
  constructor
  · intro c hc
    obtain ⟨y, hy, hcy⟩ := List.mem_filterMap.mp hc
    exact (hys y hy c hcy).2
  · refine List.Nodup.sublist ?_ hnodup
    clear hread hnodup hg h
    induction ys with
    | nil => exact List.Sublist.slnil
    | cons y ys ih =>
      obtain ⟨hy, hys⟩ := List.forall_mem_cons.mp hys
      cases hc : y.2 with
      | none =>
        rw [List.filterMap_cons_none hc, List.map_cons]
        exact (ih hys).cons _
      | some c =>
        rw [List.filterMap_cons_some hc, List.map_cons, List.map_cons, (hy c hc).1]
        exact (ih hys).cons_cons _

lemma projectCashRow_json {c d : CashEntry} (h : c.Sound) :
    projectCashRow c.json = some d ↔ d = c ∧ Fits c.cashBalance := by
  obtain ⟨hcurrency, htag, hwritten⟩ := h
  have hrow : projectCashRow c.json = (decimalText c.cashBalance).map fun cashBalance => ⟨c.currency, cashBalance, c.sourceTag⟩ := by
    simp only [projectCashRow, CashEntry.json, Dictionary.lookup_cons]
    simp [hcurrency, htag, Option.map_eq_bind]
  rw [hrow, ← decimalText_written hwritten]
  constructor
  · intro h
    obtain ⟨t, ht, rfl⟩ := Option.map_eq_some_iff.mp h
    exact ⟨by rw [(accepted_of_decimalText ht).1], t, ht⟩
  · rintro ⟨rfl, t, ht⟩
    rw [ht, (accepted_of_decimalText ht).1]
    rfl

lemma projectCash_json {cash archived : List CashEntry} (hne : cash ≠ []) (hsound : ∀ c ∈ cash, c.Sound)
    (hnodup : (cash.map CashEntry.currency).Nodup) :
    projectCash (some (.list (cash.map CashEntry.json))) = some archived ↔
      archived = cash ∧ ∀ c ∈ cash, Fits c.cashBalance := by
  have hgather : projectCash (some (.list (cash.map CashEntry.json))) =
      Distinct.gather projectCashRow CashEntry.currency (cash.map CashEntry.json) := by
    unfold projectCash
    rw [Json.list?_some]
    split
    · contradiction
    · rename_i hnil
      exact absurd (List.map_eq_nil_iff.mp (Option.some.inj hnil)) hne
    · rename_i items _ hitems
      rw [← Option.some.inj hitems]
  rw [hgather, Distinct.gather_eq_some, List.forall₂_map_left_iff]
  constructor
  · rintro ⟨hread, -⟩
    clear hne hnodup hgather
    induction hread with
    | nil => exact ⟨rfl, List.forall_mem_nil _⟩
    | cons hb _ ih =>
      obtain ⟨hc, hcash⟩ := List.forall_mem_cons.mp hsound
      obtain ⟨rfl, hfits⟩ := (projectCashRow_json hc).mp hb
      obtain ⟨rfl, hrest⟩ := ih hcash
      exact ⟨rfl, List.forall_mem_cons.mpr ⟨hfits, hrest⟩⟩
  · rintro ⟨rfl, hfits⟩
    exact ⟨List.forall₂_same.mpr fun c hc => (projectCashRow_json (hsound c hc)).mpr ⟨rfl, hfits c hc⟩, hnodup⟩

lemma nullableDecimalText_json {amount archived : Option String} (hwritten : ∀ t ∈ amount, Written t) :
    nullableDecimalText (some (textOrNull amount)) = some archived ↔ archived = amount ∧ ∀ t ∈ amount, Fits t := by
  cases amount with
  | none => simp [nullableDecimalText, textOrNull, eq_comm]
  | some t =>
    have hone : (∀ s ∈ some t, Fits s) ↔ Fits t := by simp
    rw [hone, ← decimalText_written (hwritten t rfl)]
    change ((decimalText t).map some) = some archived ↔ _
    constructor
    · intro h
      obtain ⟨s, hs, rfl⟩ := Option.map_eq_some_iff.mp h
      exact ⟨by rw [(accepted_of_decimalText hs).1], s, hs⟩
    · rintro ⟨rfl, s, hs⟩
      rw [hs, (accepted_of_decimalText hs).1]
      rfl

end Cash

section Record

variable {beyond : Char → List Char} {kit : Kit} {expected : Expected} {uri : String} {s : Snapshot}
  {report facts : List (String × Json)} {record : Record}

def envelopeReasons : List String :=
  ["runtime_report_invalid", "expected_target_invalid", "report_provenance_invalid", "runtime_target_mismatch",
    "account_identity_mismatch", "observation_invalid"]

def AmountsFit (beyond : Char → List Char) (s : Snapshot) : Prop :=
  (∀ cash ∈ cashEntries beyond s.balances, ∀ c ∈ cash, Fits c.cashBalance) ∧ ∀ t ∈ verifiedUsdNetAssets beyond s, Fits t

structure Archives (beyond : Char → List Char) (s : Snapshot) (record : Record) : Prop where
  account : (s.accountIds.map Text.strip).filter (· ≠ "") = [record.accountId]
  observedAt : s.asOf.map Subtype.val = some record.observedAt
  cash : cashEntries beyond s.balances = some record.cash
  netAssets : record.netAssets = verifiedUsdNetAssets beyond s
  positions : record.positions = buildBrokerReportedPositions beyond s.positions s.stockPositionsEmpty
  complete : record.complete = decide (record.positions = some [])

structure Carried (beyond : Char → List Char) (s : Snapshot) (facts : List (String × Json)) (account : String)
    (observedAt : Moment) (cash : List CashEntry) : Prop where
  schema : facts.lookup "schema_version" = some (.text snapshotSchema)
  accountIds : facts.lookup "account_ids" = some (.list [.text account])
  currency : facts.lookup "currency" = some (.text "USD")
  observedAt : facts.lookup "observed_at" = some (.text (zuluText observedAt.1))
  netAssets : facts.lookup "net_assets" = some (textOrNull (verifiedUsdNetAssets beyond s))
  cash : facts.lookup "cash" = some (.list (cash.map CashEntry.json))
  positions : ∀ k ∈ positionsKeys, facts.lookup k =
    (positionEntries (buildBrokerReportedPositions beyond s.positions s.stockPositionsEmpty)).lookup k

lemma carried_factEntries (s : Snapshot) (account : String) (observedAt : Moment) (cash : List CashEntry) :
    Carried beyond s (factEntries beyond s account observedAt cash) account observedAt cash := by
  unfold factEntries
  refine ⟨rfl, rfl, rfl, rfl, rfl, rfl, fun k hk => ?_⟩
  simp only [positionsKeys, List.mem_cons, List.not_mem_nil, or_false] at hk
  rcases hk with rfl | rfl | rfl <;> cases s.attachments.sourceDetails <;> cases s.attachments.schedule <;>
    simp [Dictionary.lookup_cons]

lemma buildIbkrAccountFacts_some (h : buildIbkrAccountFacts beyond s = some facts) : ∃ account observedAt cash,
    (s.accountIds.map Text.strip).filter (· ≠ "") = [account] ∧ s.asOf = some observedAt ∧
      cashEntries beyond s.balances = some cash ∧ cash ≠ [] ∧ Carried beyond s facts account observedAt cash := by
  unfold buildIbkrAccountFacts at h
  split at h
  · rename_i account haccount
    split_ifs at h
    obtain ⟨observedAt, ho, h⟩ := Option.bind_eq_some_iff.mp h
    obtain ⟨cash, hc, h⟩ := Option.bind_eq_some_iff.mp h
    split_ifs at h with hempty
    obtain rfl := Option.some.inj h
    exact ⟨account, observedAt, cash, haccount, ho, hc, fun hnil => hempty (.inl hnil), carried_factEntries s account observedAt cash⟩
  · cases h

lemma written_verifiedUsdNetAssets (s : Snapshot) : ∀ t ∈ verifiedUsdNetAssets beyond s, Written t := by
  intro t ht
  unfold verifiedUsdNetAssets at ht
  split_ifs at ht
  · cases ht
  · obtain ⟨d, -, h⟩ := Option.bind_eq_some_iff.mp (Option.mem_def.mp ht)
    split_ifs at h
    exact ⟨d, (Option.some.inj h).symm⟩

lemma accountSelector_one {account other : String} (h : accountSelector (some (.list [.text account])) = [other]) :
    account = other := by
  change selectorOf [account] = [other] at h
  unfold selectorOf at h
  split_ifs at h
  exact List.head_eq_of_cons_eq h

lemma eq_of_mismatched {actual wanted : Fields} {selector wantedSelector : List String}
    (h : mismatched actual wanted selector wantedSelector = []) : actual = wanted ∧ selector = wantedSelector := by
  obtain ⟨hfields, hselector⟩ := List.append_eq_nil_iff.mp h
  constructor
  · rw [List.map_eq_nil_iff, List.filter_eq_nil_iff] at hfields
    cases actual
    cases wanted
    simpa [Fields.named] using hfields
  · by_contra hne
    rw [if_pos hne] at hselector
    cases hselector

lemma meets_validate {P : String → Prop} (hP : ∀ reason ∈ envelopeReasons, P reason) (hfacts : accountFacts report = some facts)
    (hschema : Json.text? (facts.lookup "schema_version") = some snapshotSchema) :
    Meets P (fun r => r.2.2 = facts ∧ r.1 = expected.fields ∧ ∃ account, expected.account = some account ∧ r.2.1 = [account] ∧
      accountSelector (facts.lookup "account_ids") = [account]) (validateReportAccountIdentity expected report) := by
  unfold validateReportAccountIdentity
  refine meets_bind (meets_refuseIf (hP _ (by simp [envelopeReasons]))) fun _ _ => ?_
  refine meets_bind (meets_require fun _ => hP _ (by simp [envelopeReasons])) fun account haccount => ?_
  refine meets_bind (meets_require fun _ => hP _ (by simp [envelopeReasons])) fun parts _ => ?_
  refine meets_bind (meets_agree (hP _ (by simp [envelopeReasons]))) fun _ hagree => ?_
  refine meets_bind (meets_agree (hP _ (by simp [envelopeReasons]))) fun _ _ => ?_
  refine meets_bind (meets_require fun hnone => absurd (hfacts.symm.trans hnone) (by simp)) fun found hfound => ?_
  obtain rfl := Option.some.inj (hfacts.symm.trans hfound)
  refine meets_bind (meets_passed (not_not.mpr hschema)) fun _ _ => ?_
  refine meets_bind (meets_refuseIf (hP _ (by simp [envelopeReasons]))) fun _ hids => ?_
  obtain ⟨hfields, hselector⟩ := eq_of_mismatched hagree
  exact meets_pure ⟨rfl, hfields, account, haccount, hselector, not_not.mp (not_or.mp hids).1⟩

structure Bound (kit : Kit) (expected : Expected) (report : List (String × Json)) (record : Record) : Prop where
  target : record.targetId = Text.strip expected.targetId
  scope : record.accountScope = expected.fields.accountScope
  account : expected.account = some record.accountId
  binding : record.bindingId = boundSourceId kit expected.fields [record.accountId]
  window : ∃ started finished, observedTimestamp kit (report.lookup "started_at") = .ok started ∧
    observedTimestamp kit (report.lookup "finished_at") = .ok finished ∧
    started ≤ record.observedAt ∧ record.observedAt ≤ finished

lemma facts_archived (hread : ∀ t ∈ s.asOf, kit.fromisoformat (isoformat t.1) = some ⟨t.1, some 0⟩)
    (hfacts : buildIbkrAccountFacts beyond s = some facts) (hreport : accountFacts report = some facts) :
    Meets (fun reason => reason ∈ envelopeReasons ∨ reason = "account_facts_invalid" ∧ ¬ AmountsFit beyond s)
      (fun record => AmountsFit beyond s ∧ Archives beyond s record ∧ Bound kit expected report record)
      (projectIbkrAccountFactsHistory kit expected uri (.dict report)) := by
  obtain ⟨account, observedAt, cash, haccounts, hasOf, hcash, hne, hcarried⟩ := buildIbkrAccountFacts_some hfacts
  obtain ⟨hsound, hnodup⟩ := cashEntries_some hcash
  have henvelope : ∀ reason ∈ envelopeReasons, reason ∈ envelopeReasons ∨ reason = "account_facts_invalid" ∧ ¬ AmountsFit beyond s :=
    fun _ h => .inl h
  have hassets archived := @nullableDecimalText_json _ archived (@written_verifiedUsdNetAssets beyond s)
  have hrows archived := @projectCash_json cash archived hne hsound hnodup
  unfold projectIbkrAccountFactsHistory
  refine meets_bind (meets_require fun h => nomatch h) fun _ h => ?_
  obtain rfl := Option.some.inj h
  refine meets_bind (meets_refuseIf (henvelope _ (by simp [envelopeReasons]))) fun _ _ => ?_
  refine meets_bind (meets_sourceReportUri (henvelope _ (by simp [envelopeReasons]))) fun _ _ => ?_
  refine meets_bind (meets_validate henvelope hreport (by rw [hcarried.schema]; rfl)) fun r hr => ?_
  obtain ⟨actual, selector, found⟩ := r
  obtain ⟨rfl, rfl, other, hexpected, rfl, hids⟩ := hr
  rw [hcarried.accountIds] at hids
  obtain rfl := accountSelector_one hids
  refine meets_bind (meets_passed (not_not.mpr (by rw [hcarried.currency]; rfl))) fun _ _ => ?_
  refine meets_bind (meets_observedTimestamp (henvelope _ (by simp [envelopeReasons]))) fun started hstarted => ?_
  refine meets_bind (meets_observedTimestamp (henvelope _ (by simp [envelopeReasons]))) fun finished hfinished => ?_
  refine meets_bind (meets_refuseIf (henvelope _ (by simp [envelopeReasons]))) fun _ _ => ?_
  rw [hcarried.observedAt, observedTimestamp_zuluText (hread observedAt hasOf) observedAt.2]
  refine meets_bind (Q := fun observed => observed = observedAt.1) (meets_ok rfl) fun observed hobserved => ?_
  refine meets_bind (meets_refuseIf (henvelope _ (by simp [envelopeReasons]))) fun _ hwindow => ?_
  rw [hcarried.netAssets, hcarried.cash]
  refine meets_bind (meets_require fun hnone => .inr ⟨rfl, fun hfit => ?_⟩) fun netAssets hnet => ?_
  · exact absurd (((hassets _).mpr ⟨rfl, hfit.2⟩).symm.trans hnone) (by simp)
  refine meets_bind (meets_require fun hnone => .inr ⟨rfl, fun hfit => ?_⟩) fun archived harchived => ?_
  · exact absurd (((hrows _).mpr ⟨rfl, hfit.1 cash hcash⟩).symm.trans hnone) (by simp)
  obtain ⟨rfl, hassetsFit⟩ := (hassets _).mp hnet
  obtain ⟨rfl, hcashFit⟩ := (hrows _).mp harchived
  refine meets_pure ⟨⟨?_, hassetsFit⟩, ?_, rfl, rfl, hexpected, rfl, started, finished, hstarted, hfinished,
    not_lt.mp (not_or.mp hwindow).1, not_lt.mp (not_or.mp hwindow).2⟩
  · rintro other hother
    obtain rfl := Option.some.inj (hcash.symm.trans hother)
    exact hcashFit
  · refine ⟨haccounts, by rw [hasOf, hobserved]; rfl, hcash, rfl, projectPositions_built hcarried.positions, ?_⟩
    change (_ && Json.isTrue _) = decide (_ = _)
    rw [hcarried.positions _ (by simp [positionsKeys]), projectPositions_built hcarried.positions]
    cases buildBrokerReportedPositions beyond s.positions s.stockPositionsEmpty with
    | none => rfl
    | some rows => cases rows <;> rfl

end Record

/-- A report with the facts of a snapshot is refused for itself, or for an amount that is too long; else it is archived as it is. -/
theorem facts_round_trip (beyond : Char → List Char) (kit : Kit) (expected : Expected) (uri : String) (s : Snapshot)
    (report facts : List (String × Json))
    (hread : ∀ t ∈ s.asOf, kit.fromisoformat (isoformat t.1) = some ⟨t.1, some 0⟩)
    (hfacts : buildIbkrAccountFacts beyond s = some facts) (hreport : accountFacts report = some facts) :
    match projectIbkrAccountFactsHistory kit expected uri (.dict report) with
    | .ok record => AmountsFit beyond s ∧ Archives beyond s record ∧ Bound kit expected report record
    | .error e => e.reason ∈ envelopeReasons ∨ e.reason = "account_facts_invalid" ∧ ¬ AmountsFit beyond s := by
  have h := @facts_archived beyond kit expected uri s report facts hread hfacts hreport
  split
  · rename_i record hok
    exact h.answer record hok
  · rename_i e herror
    exact h.refusal e herror

section Example

def urlsplit₀ (uri : String) : Option Url :=
  let rest := uri.toList.drop 5
  some ⟨String.ofList (uri.toList.take 2), String.ofList (rest.takeWhile (· ≠ '/')), String.ofList (rest.dropWhile (· ≠ '/')), "", ""⟩

def kit₀ : Kit where
  urlsplit := urlsplit₀
  fromisoformat text :=
    ([("2026-11-03T12:59:00+00:00", 1793710740000000), ("2026-11-03T13:00:00+00:00", 1793710800000000),
      ("2026-11-03T13:01:00+00:00", 1793710860000000)].lookup text).map fun t => ⟨t, some 0⟩
  digest fields := ",".intercalate (fields.map Prod.snd)

def expected₀ : Expected := ⟨"target-1", "gs://reports/live", "project", "service", "revision-7", "scope", ["U1"], "slot"⟩

def snapshot₀ : Snapshot where
  asOf := some ⟨1793710800000000, by decide⟩
  accountIds := ["U1"]
  balances := [⟨"U1", "USD", [("CashBalance", .number "1234.5"), ("NetLiquidation", .number "5000.25")]⟩]
  totalEquitySource := "broker_net_liquidation"
  brokerNetLiquidation := .number "5000.250"
  observationAccounts := none
  attachments := ⟨.null, .null, none, none⟩
  positions := some positions₀
  stockPositionsEmpty := false

def facts₀ : List (String × Json) :=
  factEntries (fun c => [c]) snapshot₀ "U1" ⟨1793710800000000, by decide⟩ [⟨"USD", "1234.5", "CashBalance"⟩]

def report₀ : List (String × Json) :=
  [("schema_version", .text "runtime_report.v1"), ("platform", .text "interactive_brokers"), ("deploy_target", .text "cloud_run"),
    ("project_id", .text "project"), ("service_name", .text "service"), ("account_scope", .text "scope"),
    ("runtime_target", .dict [("deployment_selector", .text "slot"), ("account_selector", .list [.text "U1"])]),
    ("diagnostics", .dict [("runtime_revision", .text "revision-7")]),
    ("started_at", .text "2026-11-03T12:59:00Z"), ("finished_at", .text "2026-11-03T13:01:00Z"),
    ("summary", .dict [("account_facts", .dict facts₀)])]

def record₀ : Record where
  accountScope := "scope"
  targetId := "target-1"
  bindingId := "scope,U1,slot,project,revision-7,service"
  observedAt := 1793710800000000
  netAssets := some "5000.250"
  cash := [⟨"USD", "1234.5", "CashBalance"⟩]
  accountId := "U1"
  positions := some rows₀
  complete := false

lemma record₀_projected :
    (projectIbkrAccountFactsHistory kit₀ expected₀ "gs://reports/live/2026-11/20261103T130100Z.json" (.dict report₀)).toOption =
      some record₀ := by
  decide +kernel

theorem facts_round_trip₀ : Archives (fun c => [c]) snapshot₀ record₀ ∧ AmountsFit (fun c => [c]) snapshot₀ := by
  have hcash : cashEntries (fun c => [c]) snapshot₀.balances = some [⟨"USD", "1234.5", "CashBalance"⟩] := by decide
  have hfacts : buildIbkrAccountFacts (fun c => [c]) snapshot₀ = some facts₀ := by
    unfold buildIbkrAccountFacts
    rw [hcash]
    rfl
  have htext : isoformat 1793710800000000 = "2026-11-03T13:00:00+00:00" := by decide
  have hread : ∀ t ∈ snapshot₀.asOf, kit₀.fromisoformat (isoformat t.1) = some ⟨t.1, some 0⟩ := by
    rintro t ht
    obtain rfl := Option.some.inj ht
    rw [htext]
    rfl
  have hreport : accountFacts report₀ = some facts₀ := by simp [accountFacts, report₀, Dictionary.lookup_cons]
  have h := facts_round_trip (fun c => [c]) kit₀ expected₀ "gs://reports/live/2026-11/20261103T130100Z.json" snapshot₀ report₀
    facts₀ hread hfacts hreport
  have hrecord := record₀_projected
  split at h
  · rename_i record hok
    rw [hok] at hrecord
    obtain rfl : record = record₀ := Option.some.inj hrecord
    exact ⟨h.2.1, h.1⟩
  · rename_i e herror
    rw [herror] at hrecord
    cases hrecord

end Example

end IbkrPlatform.AccountFacts
