import Mathlib.Algebra.BigOperators.Group.List.Basic
import IbkrPlatform.Library.Buckets
import IbkrPlatform.Reconciliation.Continuity

/-! The cash of a currency as the portfolio, the execution and the reconciliation select it from the same account values. -/

namespace IbkrPlatform.Portfolio.CashSelectors

open Library Reconciliation.Observations Reconciliation.Continuity EarlyExit

/-- A row of `accountValues()`; a value that `float` refuses is `none`. -/
structure AccountValue where
  account : String
  currency : String
  tag : String
  value : Option Extended
deriving DecidableEq

structure Holder where
  account : Option String
  currency : String
deriving DecidableEq

abbrev TagValues := List (String × Extended)

abbrev ValuesByHolder := List (Holder × TagValues)

section Selection

/-- `_normalize_account_ids` of the portfolio and of the execution. -/
def normalizedAccountIds (accountIds : Option (List String)) : List String :=
  ((accountIds.getD []).map Text.strip |>.filter (· ≠ "")).eraseDups

def accountOf (account : String) : Option String := if Text.strip account = "" then none else some (Text.strip account)

def matchesAccount (account : Option String) (selected : List String) : Bool :=
  selected = [] ∨ Text.strip (account.getD "") ∈ selected

def marketCurrencyCashTagPriority : List String :=
  ["$LEDGER-CashBalance", "$LEDGER-TotalCashBalance", "CashBalance", "TotalCashBalance", "SettledCash"]

def taggedCash (tags : TagValues) : Option Extended := marketCurrencyCashTagPriority.findSome? fun tag => tags.lookup tag

variable (beyond : Char → List Char)

def holderOf (row : AccountValue) : Holder := ⟨accountOf row.account, upperText beyond row.currency⟩

def addCash (marketCurrency : String) (total : Extended × Bool) (entry : Holder × TagValues) : Extended × Bool :=
  if entry.1.currency ≠ marketCurrency then total
  else match taggedCash entry.2 with
    | some cash => (total.1 + cash, true)
    | none => total

/-- `_cash_value_for_currency`. -/
def totalCash (marketCurrency : String) (values : ValuesByHolder) : Option Extended :=
  let total := values.foldl (addCash marketCurrency) (0, false)
  if total.2 then some total.1 else none

def portfolioValues (selected : List String) (rows : List AccountValue) : ValuesByHolder :=
  rows.foldl (fun values row =>
    if !matchesAccount (accountOf row.account) selected then values
    else if upperText beyond row.currency = "" then values
    else
      let tagValues := (values.lookup (holderOf beyond row)).getD []
      Dictionary.put (holderOf beyond row)
        (match row.value with
          | some value => Dictionary.put (Text.strip row.tag) value tagValues
          | none => tagValues) values) []

def currencyOrDollar (currency : String) : String := upperText beyond (if currency = "" then "USD" else currency)

def portfolioCash (accountIds : Option (List String)) (currency : String) (rows : List AccountValue) : Option Extended :=
  totalCash (upperText beyond (currencyOrDollar beyond currency)) (portfolioValues beyond (normalizedAccountIds accountIds) rows)

def executionValues (selected : List String) (rows : List AccountValue) : ValuesByHolder :=
  rows.foldl (fun values row =>
    if !matchesAccount (accountOf row.account) selected then values
    else if upperText beyond row.currency = "" then values
    else match row.value with
      | none => values
      | some value =>
        Dictionary.put (holderOf beyond row)
          (Dictionary.put (Text.strip row.tag) value ((values.lookup (holderOf beyond row)).getD [])) values) []

/-- `_cash_value_for_currency` of the execution. -/
def executionCash (accountIds : Option (List String)) (currency : String) (rows : List AccountValue) : Option Extended :=
  totalCash (currencyOrDollar beyond currency) (executionValues beyond (normalizedAccountIds accountIds) rows)

variable (shown : Extended → String)

/-- `_text` of a number. -/
def textOf (value : Extended) : String := if value = 0 then "" else shown value

/-- An entry of `cash_balances`: a tag of the name of an identity takes its place. -/
def cashBalance (entry : Holder × TagValues) : CashBalance where
  accountId := (entry.2.lookup "account_id").elim (entry.1.account.getD "") (textOf shown)
  currency := (entry.2.lookup "currency").elim entry.1.currency (textOf shown)
  tags := entry.2.map fun t => (t.1, some t.2)

def before (a b : Holder × TagValues) : Prop :=
  a.1.account.getD "" < b.1.account.getD "" ∨ a.1.account.getD "" = b.1.account.getD "" ∧ a.1.currency ≤ b.1.currency

instance : DecidableRel before := fun _ _ => inferInstanceAs (Decidable (_ ∨ _ ∧ _))

def cashBalances (values : ValuesByHolder) : List CashBalance := (values.insertionSort before).map (cashBalance shown)

def digestedCash (accountIds : Option (List String)) (rows : List AccountValue) : Except ReadError (List CashFacts) :=
  (normalizeAccountIds accountIds).bind fun selected =>
  sift (fun c => (normaliseCashBalance beyond selected c).map some)
    (cashBalances shown (portfolioValues beyond (normalizedAccountIds (some selected)) rows))

def digestedTotal (marketCurrency : String) (facts : List CashFacts) : Extended :=
  ((facts.filter fun f => f.currency = marketCurrency).map CashFacts.amount).sum

end Selection

section Buckets

variable {beyond : Char → List Char} {selected : List String} {rows : List AccountValue} {currency : String}

def selectedRow (beyond : Char → List Char) (selected : List String) (row : AccountValue) : Bool :=
  matchesAccount (accountOf row.account) selected ∧ upperText beyond row.currency ≠ ""

def addTag (tagValues : TagValues) (row : AccountValue) : TagValues :=
  match row.value with
  | some value => Dictionary.put (Text.strip row.tag) value tagValues
  | none => tagValues

lemma portfolioValues_eq : portfolioValues beyond selected rows =
    Buckets.buckets (holderOf beyond) [] addTag (rows.filter (selectedRow beyond selected)) := by
  rw [portfolioValues, Buckets.buckets, List.foldl_filter]
  congr 1
  funext values row
  unfold selectedRow
  by_cases hmatch : matchesAccount (accountOf row.account) selected = true
  · by_cases hcurrency : upperText beyond row.currency = ""
    · simp [hmatch, hcurrency]
    · simp [hmatch, hcurrency, Buckets.bucket, addTag]
  · simp [hmatch]

lemma executionValues_eq : executionValues beyond selected rows =
    Buckets.buckets (holderOf beyond) [] addTag
      ((rows.filter (selectedRow beyond selected)).filter fun row => row.value.isSome) := by
  rw [executionValues, Buckets.buckets, List.foldl_filter, List.foldl_filter]
  congr 1
  funext values row
  unfold selectedRow
  by_cases hmatch : matchesAccount (accountOf row.account) selected = true
  · by_cases hcurrency : upperText beyond row.currency = ""
    · simp [hmatch, hcurrency]
    · cases hvalue : row.value with
      | none => simp [hmatch, hcurrency]
      | some value => simp [hmatch, hcurrency, Buckets.bucket, addTag, hvalue]
  · simp [hmatch]

def cashIn (marketCurrency : String) (entry : Holder × TagValues) : Option Extended :=
  if entry.1.currency = marketCurrency then taggedCash entry.2 else none

lemma totalCash_eq (marketCurrency : String) (values : ValuesByHolder) :
    totalCash marketCurrency values =
      if values.filterMap (cashIn marketCurrency) = [] then none else some (values.filterMap (cashIn marketCurrency)).sum := by
  have hstep (total : Extended × Bool) (entry : Holder × TagValues) : addCash marketCurrency total entry =
      (cashIn marketCurrency entry).elim total fun cash => (total.1 + cash, true) := by
    unfold addCash cashIn
    by_cases hcurrency : entry.1.currency = marketCurrency
    · rw [if_neg (not_not_intro hcurrency), if_pos hcurrency]
      cases taggedCash entry.2 <;> rfl
    · rw [if_pos hcurrency, if_neg hcurrency]
      rfl
  have hloop : ∀ (values : ValuesByHolder) (total : Extended) (found : Bool),
      values.foldl (addCash marketCurrency) (total, found) =
        (total + (values.filterMap (cashIn marketCurrency)).sum, found || values.filterMap (cashIn marketCurrency) ≠ []) := by
    intro values
    induction values with
    | nil => simp
    | cons entry values ih =>
      intro total found
      rw [List.foldl_cons, hstep]
      cases hcash : cashIn marketCurrency entry with
      | none =>
        rw [List.filterMap_cons_none hcash]
        exact ih total found
      | some cash =>
        rw [List.filterMap_cons_some hcash, List.sum_cons, ← add_assoc]
        exact (ih (total + cash) true).trans (by simp)
  unfold totalCash
  rw [hloop, zero_add]
  by_cases hnil : values.filterMap (cashIn marketCurrency) = []
  · simp [hnil]
  · simp [hnil]

lemma totalCash_perm {marketCurrency : String} {values values' : ValuesByHolder}
    (h : (values.filterMap (cashIn marketCurrency)).Perm (values'.filterMap (cashIn marketCurrency))) :
    totalCash marketCurrency values = totalCash marketCurrency values' := by
  have hnil : values.filterMap (cashIn marketCurrency) = [] ↔ values'.filterMap (cashIn marketCurrency) = [] := by
    rw [← List.perm_nil, ← List.perm_nil]
    exact ⟨h.symm.trans, h.trans⟩
  rw [totalCash_eq, totalCash_eq, h.sum_eq]
  simp only [hnil]

lemma executionValues_cash (marketCurrency : String) :
    totalCash marketCurrency (executionValues beyond selected rows) = totalCash marketCurrency (portfolioValues beyond selected rows) := by
  rw [executionValues_eq, portfolioValues_eq]
  refine totalCash_perm (Buckets.filterMap_buckets_perm (fun tagValues row hrow => ?_) (fun holder => ?_) _)
  · unfold addTag
    cases hvalue : row.value with
    | none => rfl
    | some value =>
      rw [hvalue] at hrow
      cases hrow
  · unfold cashIn
    split_ifs
    · rfl
    · rfl

lemma portfolioCash_eq (hstable : ∀ s, upperText beyond (upperText beyond s) = upperText beyond s)
    (accountIds : Option (List String)) (currency : String) (rows : List AccountValue) :
    portfolioCash beyond accountIds currency rows = executionCash beyond accountIds currency rows := by
  rw [portfolioCash, executionCash, executionValues_cash, currencyOrDollar, hstable]

end Buckets

section Digested

variable {beyond : Char → List Char} {shown : Extended → String} {selected : List String} {rows : List AccountValue}

structure Tidy (tags : TagValues) : Prop where
  keyed : Gather.Keyed tags
  trimmed : ∀ t ∈ tags, Text.strip t.1 = t.1

lemma tidy_addTag {tags : TagValues} (h : Tidy tags) (row : AccountValue) : Tidy (addTag tags row) := by
  unfold addTag
  cases row.value with
  | none => exact h
  | some value =>
    refine ⟨Buckets.keyed_put h.keyed, fun t ht => ?_⟩
    rcases Dictionary.mem_put ht with rfl | ht
    · exact Text.strip_strip row.tag
    · exact h.trimmed t ht

lemma tidy_content (rows : List AccountValue) : Tidy (rows.foldl addTag []) := by
  induction rows using List.reverseRecOn with
  | nil => exact ⟨Gather.keyed_nil, fun t ht => (nomatch ht)⟩
  | append_singleton rows row ih =>
    rw [List.foldl_append]
    exact tidy_addTag ih row

lemma mem_portfolioValues {entry : Holder × TagValues} (h : entry ∈ portfolioValues beyond selected rows) :
    ∃ row ∈ rows, holderOf beyond row = entry.1 ∧
      (rows.filter (selectedRow beyond selected) |>.filter fun row => holderOf beyond row = entry.1).foldl addTag [] = entry.2 := by
  rw [portfolioValues_eq, Buckets.mem_buckets] at h
  obtain ⟨row, hrow, hholder⟩ := List.mem_map.mp h.1
  exact ⟨row, (List.mem_filter.mp hrow).1, hholder, h.2⟩

lemma lastValue_tidy {tags : TagValues} (h : Tidy tags) (tag : String) :
    lastValue tag (tags.map fun t => (t.1, some t.2)) = (tags.lookup tag).map some := by
  obtain ⟨hkeyed, htrimmed⟩ := h
  induction tags with
  | nil => rfl
  | cons t tags ih =>
    obtain ⟨hnew, hkeyed⟩ := List.nodup_cons.mp hkeyed
    rw [List.forall_mem_cons] at htrimmed
    rw [List.map_cons, lastValue_cons, ih hkeyed htrimmed.2, Dictionary.lookup_cons]
    by_cases htag : tag = t.1
    · have hnone : tags.lookup tag = none := by
        cases hlookup : tags.lookup tag with
        | none => rfl
        | some v => exact absurd (List.mem_map_of_mem (Dictionary.mem_of_lookup hlookup)) (htag ▸ hnew)
      rw [hnone, if_pos htag, if_pos (htrimmed.1.trans htag.symm)]
      rfl
    · rw [if_neg htag, if_neg fun h => htag (h.symm.trans htrimmed.1), Option.or_none]

/-- The currency of an entry as it is digested: a number under the tag `currency` takes its place. -/
def digestedCurrency (beyond : Char → List Char) (shown : Extended → String) (entry : Holder × TagValues) : String :=
  (entry.2.lookup "currency").elim entry.1.currency fun value => upperText beyond (textOf shown value)

def digestedIn (beyond : Char → List Char) (shown : Extended → String) (marketCurrency : String)
    (entry : Holder × TagValues) : Option Extended :=
  if digestedCurrency beyond shown entry = marketCurrency then taggedCash entry.2 else none

lemma selectedBalance_tidy {entry : Holder × TagValues} (h : Tidy entry.2) :
    (selectedBalance (cashBalance shown entry)).2.2.bind Prod.snd = taggedCash entry.2 := by
  change (cashBalanceTagPriority.findSome? fun tag => (lastValue tag _).map fun v => (tag, v)).bind Prod.snd =
    cashBalanceTagPriority.findSome? fun tag => entry.2.lookup tag
  generalize cashBalanceTagPriority = tags
  induction tags with
  | nil => rfl
  | cons tag tags ih =>
    have hlast : lastValue tag (cashBalance shown entry).tags = (entry.2.lookup tag).map some := lastValue_tidy h tag
    simp only [List.findSome?_cons, hlast]
    cases entry.2.lookup tag with
    | none => exact ih
    | some v => rfl

def contentCash (marketCurrency : String) (content : String × String × Option (String × Option Extended)) : Option Extended :=
  if content.2.1 = marketCurrency then content.2.2.bind Prod.snd else none

lemma contentCash_entry (hstable : ∀ s, upperText beyond (upperText beyond s) = upperText beyond s) {marketCurrency : String}
    {entry : Holder × TagValues} (h : entry ∈ portfolioValues beyond selected rows) :
    contentCash marketCurrency (cashContent beyond (cashBalance shown entry)) = digestedIn beyond shown marketCurrency entry := by
  obtain ⟨row, -, hholder, htags⟩ := mem_portfolioValues h
  have htidy : Tidy entry.2 := htags ▸ tidy_content _
  have hcurrency : upperText beyond (cashBalance shown entry).currency = digestedCurrency beyond shown entry := by
    unfold digestedCurrency
    change upperText beyond ((entry.2.lookup "currency").elim entry.1.currency (textOf shown)) = _
    cases entry.2.lookup "currency" with
    | none => rw [Option.elim_none, Option.elim_none, ← hholder, holderOf, hstable]
    | some v => rfl
  unfold contentCash cashContent digestedIn
  rw [hcurrency, selectedBalance_tidy htidy]

lemma contentCash_facts (marketCurrency : String) (facts : List CashFacts) :
    (facts.map CashFacts.content).filterMap (contentCash marketCurrency) =
      (facts.filter fun f => f.currency = marketCurrency).map CashFacts.amount := by
  rw [List.filterMap_map]
  induction facts with
  | nil => rfl
  | cons f facts ih =>
    by_cases hcurrency : f.currency = marketCurrency
    · rw [List.filter_cons_of_pos (by simpa using hcurrency), List.map_cons, ← ih]
      exact List.filterMap_cons_some (if_pos hcurrency)
    · rw [List.filter_cons_of_neg (by simpa using hcurrency), ← ih]
      exact List.filterMap_cons_none (if_neg hcurrency)

lemma digestedTotal_eq (hstable : ∀ s, upperText beyond (upperText beyond s) = upperText beyond s) {facts : List CashFacts}
    (h : sift (fun c => (normaliseCashBalance beyond selected c).map some)
      (cashBalances shown (portfolioValues beyond selected rows)) = .ok facts) (marketCurrency : String) :
    digestedTotal marketCurrency facts =
      ((portfolioValues beyond selected rows).filterMap (digestedIn beyond shown marketCurrency)).sum := by
  have hcontents := view_of_each (fun _ _ => cashContent_eq) h
  have hentries : ∀ entries : ValuesByHolder, (∀ entry ∈ entries, entry ∈ portfolioValues beyond selected rows) →
      ((entries.map (cashBalance shown)).map (cashContent beyond)).filterMap (contentCash marketCurrency) =
        entries.filterMap (digestedIn beyond shown marketCurrency) := by
    intro entries hmem
    induction entries with
    | nil => rfl
    | cons entry entries ih =>
      rw [List.forall_mem_cons] at hmem
      rw [List.map_cons, List.map_cons, List.filterMap_cons, List.filterMap_cons, contentCash_entry hstable hmem.1, ih hmem.2]
  have hsorted := hentries _ fun entry hmem => (List.mem_insertionSort before).mp hmem
  rw [digestedTotal, ← contentCash_facts, ← hcontents, cashBalances, hsorted]
  exact ((List.perm_insertionSort before _).filterMap _).sum_eq

end Digested

section Agreement

variable {beyond : Char → List Char} {shown : Extended → String} {selected : List String} {rows : List AccountValue}

def cashWhere (p : Holder × TagValues → Bool) (values : ValuesByHolder) : Extended :=
  (values.filterMap fun entry => if p entry then taggedCash entry.2 else none).sum

lemma cashWhere_cons (p : Holder × TagValues → Bool) (entry : Holder × TagValues) (values : ValuesByHolder) :
    cashWhere p (entry :: values) = (if p entry then (taggedCash entry.2).getD 0 else 0) + cashWhere p values := by
  unfold cashWhere
  cases hp : p entry with
  | false =>
    rw [List.filterMap_cons_none (by rw [hp]; rfl)]
    exact (zero_add _).symm
  | true =>
    cases htagged : taggedCash entry.2 with
    | none =>
      rw [List.filterMap_cons_none (by rw [hp]; exact htagged)]
      exact (zero_add _).symm
    | some cash =>
      rw [List.filterMap_cons_some (by rw [hp]; exact htagged), List.sum_cons]
      rfl

lemma cashWhere_split (p q : Holder × TagValues → Bool) (values : ValuesByHolder) :
    cashWhere p values = cashWhere (fun e => p e && q e) values + cashWhere (fun e => p e && !q e) values := by
  induction values with
  | nil => exact (add_zero 0).symm
  | cons entry values ih =>
    rw [cashWhere_cons, cashWhere_cons, cashWhere_cons, ih, add_add_add_comm]
    congr 1
    cases p entry with
    | false => exact (add_zero 0).symm
    | true =>
      cases q entry with
      | false => exact (zero_add _).symm
      | true => exact (add_zero _).symm

variable (beyond shown)

def keptIn (marketCurrency : String) (values : ValuesByHolder) : Extended :=
  cashWhere (fun e => e.1.currency = marketCurrency && digestedCurrency beyond shown e = marketCurrency) values

def takenOut (marketCurrency : String) (values : ValuesByHolder) : Extended :=
  cashWhere (fun e => e.1.currency = marketCurrency && !decide (digestedCurrency beyond shown e = marketCurrency)) values

def broughtIn (marketCurrency : String) (values : ValuesByHolder) : Extended :=
  cashWhere (fun e => digestedCurrency beyond shown e = marketCurrency && !decide (e.1.currency = marketCurrency)) values

variable {beyond shown}

lemma getD_totalCash (marketCurrency : String) (values : ValuesByHolder) : (totalCash marketCurrency values).getD 0 =
    keptIn beyond shown marketCurrency values + takenOut beyond shown marketCurrency values := by
  have hsum : (totalCash marketCurrency values).getD 0 = cashWhere (fun e => e.1.currency = marketCurrency) values := by
    rw [totalCash_eq, cashWhere]
    simp only [decide_eq_true_eq]
    change (if values.filterMap (cashIn marketCurrency) = [] then none else some _).getD 0 =
      (values.filterMap (cashIn marketCurrency)).sum
    split_ifs with hnil
    · rw [hnil]
      rfl
    · rfl
  rw [hsum]
  exact cashWhere_split _ _ _

lemma sum_digestedIn (marketCurrency : String) (values : ValuesByHolder) :
    (values.filterMap (digestedIn beyond shown marketCurrency)).sum =
      keptIn beyond shown marketCurrency values + broughtIn beyond shown marketCurrency values := by
  have hsum : (values.filterMap (digestedIn beyond shown marketCurrency)).sum =
      cashWhere (fun e => digestedCurrency beyond shown e = marketCurrency) values := by
    unfold cashWhere
    simp only [decide_eq_true_eq]
    rfl
  rw [hsum, cashWhere_split _ fun e => e.1.currency = marketCurrency]
  congr 2
  funext e
  exact Bool.and_comm _ _

lemma unmoved (h : ∀ row ∈ rows, Text.strip row.tag = "currency" → row.value = none) (marketCurrency : String) :
    takenOut beyond shown marketCurrency (portfolioValues beyond selected rows) =
      broughtIn beyond shown marketCurrency (portfolioValues beyond selected rows) := by
  have hcurrency : ∀ entry ∈ portfolioValues beyond selected rows, digestedCurrency beyond shown entry = entry.1.currency := by
    intro entry hentry
    obtain ⟨-, -, -, htags⟩ := mem_portfolioValues hentry
    have hnone : ∀ rows' : List AccountValue, (∀ row ∈ rows', row ∈ rows) →
        (rows'.foldl addTag []).lookup "currency" = none := by
      intro rows' hsub
      induction rows' using List.reverseRecOn with
      | nil => rfl
      | append_singleton rows' row ih =>
        rw [List.foldl_append]
        change (addTag _ row).lookup "currency" = none
        unfold addTag
        cases hvalue : row.value with
        | none => exact ih fun r hr => hsub r (List.mem_append_left _ hr)
        | some value =>
          have hne : "currency" ≠ Text.strip row.tag := by
            intro htag
            rw [h row (hsub row (by simp)) htag.symm] at hvalue
            cases hvalue
          change (Dictionary.put _ _ _).lookup "currency" = none
          rw [Dictionary.lookup_put_ne hne]
          exact ih fun r hr => hsub r (List.mem_append_left _ hr)
    unfold digestedCurrency
    rw [← htags, hnone _ fun row hrow => (List.mem_filter.mp (List.mem_filter.mp hrow).1).1]
    rfl
  unfold takenOut broughtIn cashWhere
  congr 1
  refine List.filterMap_congr fun entry hentry => ?_
  simp only [hcurrency entry hentry]

lemma normalizedAccountIds_eq {accountIds : Option (List String)} (h : normalizeAccountIds accountIds = .ok selected) :
    normalizedAccountIds accountIds = selected ∧ normalizedAccountIds (some selected) = selected := by
  cases accountIds with
  | none =>
    obtain rfl := Except.ok.inj h
    exact ⟨rfl, rfl⟩
  | some ids =>
    have heq : normalizedAccountIds (some ids) = selected := by
      unfold normalizeAccountIds at h
      simp only at h
      split_ifs at h
      exact Except.ok.inj h
    refine ⟨heq, ?_⟩
    have hmem : ∀ id ∈ selected, Text.strip id = id ∧ id ≠ "" := by
      intro id hid
      rw [← heq, normalizedAccountIds, List.mem_eraseDups, List.mem_filter] at hid
      obtain ⟨raw, -, rfl⟩ := List.mem_map.mp hid.1
      exact ⟨Text.strip_strip raw, of_decide_eq_true hid.2⟩
    have hnodup : selected.Nodup := heq ▸ SortedList.nodup_eraseDups _
    have hmap : selected.map Text.strip = selected := (List.map_congr_left fun id hid => (hmem id hid).1).trans (List.map_id' selected)
    change ((selected.map Text.strip).filter (· ≠ "")).eraseDups = selected
    rw [hmap, List.filter_eq_self.mpr fun id hid => decide_eq_true (hmem id hid).2, SortedList.eraseDups_of_nodup hnodup]

lemma add_left_cancel_finite {a b c : Extended} (ha : a.finite?.isSome) (h : a + b = a + c) : b = c := by
  obtain ⟨q, hq⟩ := Option.isSome_iff_exists.mp ha
  cases a with
  | infinite | nan => cases hq
  | finite p =>
    rcases b with x | _ | _ <;> rcases c with y | _ | _ <;> simp_all [Extended.add_def, Extended.add]

/-- The three selectors agree exactly when the rows under the tag `currency` leave the digested balances in place. -/
theorem cash_selectors_agree (hstable : ∀ s, upperText beyond (upperText beyond s) = upperText beyond s)
    (accountIds : Option (List String)) (currency : String) (rows : List AccountValue) :
    portfolioCash beyond accountIds currency rows = executionCash beyond accountIds currency rows ∧
    ∀ facts, digestedCash beyond shown accountIds rows = .ok facts →
      let marketCurrency := currencyOrDollar beyond currency
      let values := portfolioValues beyond (normalizedAccountIds accountIds) rows
      let agree := digestedTotal marketCurrency facts = (executionCash beyond accountIds currency rows).getD 0
      (takenOut beyond shown marketCurrency values = broughtIn beyond shown marketCurrency values → agree) ∧
      ((keptIn beyond shown marketCurrency values).finite?.isSome → agree →
        takenOut beyond shown marketCurrency values = broughtIn beyond shown marketCurrency values) ∧
      ((∀ row ∈ rows, Text.strip row.tag = "currency" → row.value = none) → agree) := by
  refine ⟨portfolioCash_eq hstable accountIds currency rows, fun facts h => ?_⟩
  obtain ⟨selected, hselected, h⟩ := ok_of_bind h
  obtain ⟨hsame, hagain⟩ := normalizedAccountIds_eq hselected
  rw [hagain] at h
  extract_lets marketCurrency values agree
  have hvalues : values = portfolioValues beyond selected rows := by rw [← hsame]
  have hdigest : digestedTotal marketCurrency facts =
      keptIn beyond shown marketCurrency values + broughtIn beyond shown marketCurrency values := by
    rw [hvalues, digestedTotal_eq hstable h, sum_digestedIn]
  have hcash : (executionCash beyond accountIds currency rows).getD 0 =
      keptIn beyond shown marketCurrency values + takenOut beyond shown marketCurrency values := by
    rw [executionCash, executionValues_cash]
    exact getD_totalCash _ _
  have hagree (hmoved : takenOut beyond shown marketCurrency values = broughtIn beyond shown marketCurrency values) : agree := by
    change digestedTotal marketCurrency facts = _
    rw [hdigest, hcash, hmoved]
  refine ⟨hagree, fun hfinite heq => ?_, fun htags => hagree ?_⟩
  · rw [show digestedTotal marketCurrency facts = _ from heq, hcash] at hdigest
    exact add_left_cancel_finite hfinite hdigest
  · rw [hvalues]
    exact unmoved htags marketCurrency

def wholeText : Extended → String
  | .finite q => toString q.num ++ ".0"
  | .infinite negative => if negative then "-inf" else "inf"
  | .nan => "nan"

def sampleRows (marked : List AccountValue) : List AccountValue :=
  [⟨"U1", "usd", "SettledCash", some (.finite 3)⟩, ⟨"U1", "USD", "TotalCashBalance", some (.finite 90)⟩,
    ⟨"U1", "USD", "TotalCashBalance", some (.finite 100)⟩, ⟨"U1", "USD", "CashBalance", none⟩,
    ⟨"U1", "EUR", "CashBalance", some (.finite 7)⟩, ⟨"U2", "USD", "CashBalance", some (.finite 20)⟩,
    ⟨"U3", "USD", "CashBalance", some (.finite 1000)⟩] ++ marked

theorem cash_selectors_agree_sample :
    portfolioCash (fun c => [c]) (some ["U1", "U2"]) "USD" (sampleRows []) = some (.finite 120) ∧
      ∀ facts, digestedCash (fun c => [c]) wholeText (some ["U1", "U2"]) (sampleRows []) = .ok facts →
        digestedTotal "USD" facts = .finite 120 := by
  have hagree := @cash_selectors_agree (fun c => [c]) wholeText Text.upper_strip_stable (some ["U1", "U2"]) "USD" (sampleRows [])
  have hcash : executionCash (fun c => [c]) (some ["U1", "U2"]) "USD" (sampleRows []) = some (.finite 120) := by decide +kernel
  have htags : ∀ row ∈ sampleRows [], Text.strip row.tag = "currency" → row.value = none := by decide
  rw [hcash] at hagree
  refine ⟨hagree.1, fun facts hfacts => ?_⟩
  have htotal := (hagree.2 facts hfacts).2.2 htags
  have hcurrency : currencyOrDollar (fun c => [c]) "USD" = "USD" := by decide
  rwa [hcurrency] at htotal

theorem digested_cash_misplaced :
    ∃ facts, digestedCash (fun c => [c]) wholeText (some ["U1"])
        [⟨"U1", "USD", "CashBalance", some (.finite 100)⟩, ⟨"U1", "USD", "currency", some (.finite 5)⟩] = .ok facts ∧
      digestedTotal "USD" facts = .finite 0 ∧
      executionCash (fun c => [c]) (some ["U1"]) "USD"
        [⟨"U1", "USD", "CashBalance", some (.finite 100)⟩, ⟨"U1", "USD", "currency", some (.finite 5)⟩] = some (.finite 100) := by
  refine ⟨[⟨"U1", "5.0", "CashBalance", .finite 100⟩], ?_, ?_, ?_⟩
  · decide
  · decide
  · decide +kernel

end Agreement

end IbkrPlatform.Portfolio.CashSelectors
