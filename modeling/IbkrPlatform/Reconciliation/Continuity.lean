import Mathlib.Data.Rat.Encodable
import Mathlib.Logic.Encodable.Basic
import Mathlib.Logic.Equiv.List
import IbkrPlatform.Reconciliation.Observations

/-! Two broker reads are observed alike exactly when they hold the same content of the selected accounts. -/

namespace IbkrPlatform.Reconciliation.Continuity

open Library EarlyExit Observations

section Content

variable (beyond : Char → List Char)

def positionContent (p : Position) : String × Option Extended × Option Extended × String :=
  (upperText beyond p.symbol, p.quantity, p.averageCost, upperText beyond p.currency)

def optionContent (p : OptionPosition) : List String × Option Extended × Option Extended × Option Extended :=
  ([Text.strip p.accountId, upperText beyond p.underlier, Text.strip p.localSymbol, Text.strip p.expiration,
    upperText beyond p.right, upperText beyond p.currency], p.strike, p.quantity, p.averageCost)

def cashContent (c : CashBalance) : String × String × Option (String × Option Extended) :=
  (Text.strip c.accountId, upperText beyond c.currency, (selectedBalance c).2.2)

def tradeContent (t : Trade) : List String × Option ContractFacts × List (Option Extended) :=
  ([Text.strip (openTradeAccount t), Text.strip t.order.permId, upperText beyond t.order.action,
    upperText beyond t.order.orderType, Text.strip ((t.orderStatus.map OrderStatus.status).getD "")],
    t.contract.map (safeContractFields beyond),
    [t.order.totalQuantity, orZero t.order.lmtPrice, orZero t.order.auxPrice,
      orZero (t.orderStatus.bind OrderStatus.filled), orZero (t.orderStatus.bind OrderStatus.remaining)])

def fillContent (x : Fill) : String × Option ContractFacts × Option (List String × Option Extended × Option Extended) :=
  (Text.strip (executionAccount x), x.contract.map (safeContractFields beyond), x.execution.map fun e =>
    ([Text.strip e.execId, Text.strip e.orderId, Text.strip e.time, upperText beyond e.side], e.shares, e.price))

def openTrades (r : BrokerRead) : List Trade := (r.snapshot.getD [] ++ r.cached.getD []).eraseDups.map r.object

structure SameContent (selected : List String) (r r' : BrokerRead) : Prop where
  identity : identityMatch selected r.managedAccounts = identityMatch selected r'.managedAccounts
  positions : (r.positions.map (positionContent beyond)).Perm (r'.positions.map (positionContent beyond))
  options : (r.optionPositions.map (optionContent beyond)).Perm (r'.optionPositions.map (optionContent beyond))
  cash : (r.cashBalances.map (cashContent beyond)).Perm (r'.cashBalances.map (cashContent beyond))
  trades : (((openTrades r).filter (ownTrade selected)).map (tradeContent beyond)).Perm
    (((openTrades r').filter (ownTrade selected)).map (tradeContent beyond))
  fills : ((r.fills.filter (ownFill selected)).map (fillContent beyond)).Perm
    ((r'.fills.filter (ownFill selected)).map (fillContent beyond))

end Content

section Views

variable {beyond : Char → List Char} {selected : List String}

def PositionFacts.content (f : PositionFacts) : String × Option Extended × Option Extended × String :=
  (f.symbol, some f.quantity, some f.averageCost, f.currency)

def OptionFacts.content (f : OptionFacts) : List String × Option Extended × Option Extended × Option Extended :=
  ([f.account, f.underlier, f.localSymbol, f.expiration, f.right, f.currency], some f.strike, some f.quantity,
    some f.averageCost)

def CashFacts.content (f : CashFacts) : String × String × Option (String × Option Extended) :=
  (f.account, f.currency, some (f.tag, some f.amount))

def OrderFacts.content (f : OrderFacts) : List String × Option ContractFacts × List (Option Extended) :=
  ([f.account, f.permId, f.action, f.orderType, f.status], some f.contract,
    [some f.totalQuantity, some f.limitPrice, some f.auxPrice, some f.filled, some f.remaining])

def ExecutionFacts.content (f : ExecutionFacts) : String × Option ContractFacts × Option (List String × Option Extended × Option Extended) :=
  (f.account, some f.contract, some ([f.executionId, f.orderId, f.time, f.side], some f.shares, some f.price))

lemma positionContent_injective : Function.Injective PositionFacts.content := by
  rintro ⟨a₁, a₂, a₃, a₄⟩ ⟨b₁, b₂, b₃, b₄⟩ h
  simpa [PositionFacts.content] using h

lemma optionContent_injective : Function.Injective OptionFacts.content := by
  rintro ⟨a₁, a₂, a₃, a₄, a₅, a₆, a₇, a₈, a₉⟩ ⟨b₁, b₂, b₃, b₄, b₅, b₆, b₇, b₈, b₉⟩ h
  simp only [OptionFacts.content, Prod.mk.injEq, List.cons.injEq, Option.some.injEq] at h
  simp [h]

lemma cashContent_injective : Function.Injective CashFacts.content := by
  rintro ⟨a₁, a₂, a₃, a₄⟩ ⟨b₁, b₂, b₃, b₄⟩ h
  simpa [CashFacts.content] using h

lemma orderContent_injective : Function.Injective OrderFacts.content := by
  rintro ⟨a₁, a₂, a₃, a₄, a₅, a₆, a₇, a₈, a₉, a₁₀, a₁₁⟩ ⟨b₁, b₂, b₃, b₄, b₅, b₆, b₇, b₈, b₉, b₁₀, b₁₁⟩ h
  simp only [OrderFacts.content, Prod.mk.injEq, List.cons.injEq, Option.some.injEq] at h
  simp [h]

lemma executionContent_injective : Function.Injective ExecutionFacts.content := by
  rintro ⟨a₁, a₂, a₃, a₄, a₅, a₆, a₇, a₈⟩ ⟨b₁, b₂, b₃, b₄, b₅, b₆, b₇, b₈⟩ h
  simp only [ExecutionFacts.content, Prod.mk.injEq, List.cons.injEq, Option.some.injEq] at h
  simp [h]

lemma number_eq_ok_iff {value : Option Extended} {fieldName : String} {q : Extended} : number value fieldName = .ok q ↔ value = some q := by
  cases value with
  | none => exact ⟨fun h => (nomatch h), fun h => (nomatch h)⟩
  | some v => exact ⟨fun h => congrArg some (Except.ok.inj h), fun h => congrArg Except.ok (Option.some.inj h)⟩

lemma accountInScope_eq_ok {account surface : String} {within : Bool} (h : accountInScope selected account surface = .ok within) :
    decide (Text.strip account ∈ selected) = within := by
  unfold accountInScope at h
  split_ifs at h
  exact Except.ok.inj h

lemma positionContent_eq {p : Position} {f : PositionFacts} (h : normalisePosition beyond p = .ok f) :
    positionContent beyond p = PositionFacts.content f := by
  obtain ⟨quantity, hquantity, h⟩ := ok_of_bind h
  obtain ⟨averageCost, haverageCost, h⟩ := ok_of_bind h
  rw [← Except.ok.inj h, positionContent, number_eq_ok_iff.mp hquantity, number_eq_ok_iff.mp haverageCost]
  rfl

lemma optionContent_eq {p : OptionPosition} {f : OptionFacts} (h : normaliseOptionPosition beyond selected p = .ok f) :
    optionContent beyond p = OptionFacts.content f := by
  obtain ⟨within, -, h⟩ := ok_of_bind h
  cases within with
  | false => cases h
  | true =>
    obtain ⟨strike, hstrike, h⟩ := ok_of_bind h
    obtain ⟨quantity, hquantity, h⟩ := ok_of_bind h
    obtain ⟨averageCost, haverageCost, h⟩ := ok_of_bind h
    rw [← Except.ok.inj h, optionContent, number_eq_ok_iff.mp hstrike, number_eq_ok_iff.mp hquantity,
      number_eq_ok_iff.mp haverageCost]
    rfl

lemma tradeContent_eq {t : Trade} {b : Option OrderFacts} (h : normaliseOpenTrade beyond selected t = .ok b) :
    ownTrade selected t = false ∧ b = none ∨
      ownTrade selected t = true ∧ ∃ f, b = some f ∧ tradeContent beyond t = OrderFacts.content f := by
  obtain ⟨within, hwithin, h⟩ := ok_of_bind h
  obtain rfl := accountInScope_eq_ok hwithin
  change (if !ownTrade selected t then _ else _) = _ at h
  cases howned : ownTrade selected t with
  | false =>
    rw [howned] at h
    exact .inl ⟨rfl, (Except.ok.inj h).symm⟩
  | true =>
    rw [howned] at h
    refine .inr ⟨rfl, ?_⟩
    cases hcontract : t.contract with
    | none =>
      simp only [hcontract] at h
      cases h
    | some contract =>
      simp only [hcontract] at h
      obtain ⟨totalQuantity, htotalQuantity, h⟩ := ok_of_bind h
      obtain ⟨limitPrice, hlimitPrice, h⟩ := ok_of_bind h
      obtain ⟨auxPrice, hauxPrice, h⟩ := ok_of_bind h
      obtain ⟨filled, hfilled, h⟩ := ok_of_bind h
      obtain ⟨remaining, hremaining, h⟩ := ok_of_bind h
      refine ⟨_, (Except.ok.inj h).symm, ?_⟩
      rw [tradeContent, hcontract, number_eq_ok_iff.mp htotalQuantity, number_eq_ok_iff.mp hlimitPrice,
        number_eq_ok_iff.mp hauxPrice, number_eq_ok_iff.mp hfilled, number_eq_ok_iff.mp hremaining]
      rfl

lemma fillContent_eq {x : Fill} {b : Option ExecutionFacts} (h : normaliseExecution beyond selected x = .ok b) :
    ownFill selected x = false ∧ b = none ∨
      ownFill selected x = true ∧ ∃ f, b = some f ∧ fillContent beyond x = ExecutionFacts.content f := by
  obtain ⟨within, hwithin, h⟩ := ok_of_bind h
  obtain rfl := accountInScope_eq_ok hwithin
  change (if !ownFill selected x then _ else _) = _ at h
  cases howned : ownFill selected x with
  | false =>
    rw [howned] at h
    exact .inl ⟨rfl, (Except.ok.inj h).symm⟩
  | true =>
    rw [howned] at h
    refine .inr ⟨rfl, ?_⟩
    cases hexecution : x.execution with
    | none =>
      simp only [hexecution] at h
      cases h
    | some execution =>
      cases hcontract : x.contract with
      | none =>
        simp only [hexecution, hcontract] at h
        cases h
      | some contract =>
        simp only [hexecution, hcontract] at h
        obtain ⟨shares, hshares, h⟩ := ok_of_bind h
        obtain ⟨price, hprice, h⟩ := ok_of_bind h
        refine ⟨_, (Except.ok.inj h).symm, ?_⟩
        rw [fillContent, hexecution, hcontract, Option.map_some, Option.map_some, number_eq_ok_iff.mp hshares,
          number_eq_ok_iff.mp hprice]
        rfl

lemma cashContent_eq {c : CashBalance} {f : CashFacts} (h : normaliseCashBalance beyond selected c = .ok f) :
    cashContent beyond c = CashFacts.content f := by
  obtain ⟨within, -, h⟩ := ok_of_bind h
  cases within with
  | false => cases h
  | true =>
    obtain ⟨d, hd, h⟩ := ok_of_bind (x := numericTags _ []) h
    rw [cashContent, selectedBalance, selectedTag_eq hd]
    cases hsel : selectedTag d with
    | none =>
      simp only [hsel] at h
      cases h
    | some t =>
      simp only [hsel] at h
      rw [← Except.ok.inj h]
      rfl

end Views

section Runs

variable {beyond : Char → List Char} {selected : List String} {r r' : BrokerRead} {f f' : Facts}

structure Tells (beyond : Char → List Char) (selected : List String) (r : BrokerRead) (f : Facts) : Prop where
  positions : ∃ (ps : List PositionFacts) (os : List OptionFacts), f.positions = ps.map .inl ++ os.map .inr ∧
    r.positions.map (positionContent beyond) = ps.map PositionFacts.content ∧
    r.optionPositions.map (optionContent beyond) = os.map OptionFacts.content
  cash : r.cashBalances.map (cashContent beyond) = f.cash.map CashFacts.content
  trades : ((openTrades r).filter (ownTrade selected)).map (tradeContent beyond) = f.openOrders.map OrderFacts.content
  fills : (r.fills.filter (ownFill selected)).map (fillContent beyond) = f.executions.map ExecutionFacts.content

lemma view_of_each {A B C : Type} {g : A → Except ReadError B} {view : A → C} {encode : B → C} {xs : List A} {ys : List B}
    (hview : ∀ x y, g x = .ok y → view x = encode y) (h : sift (fun x => (g x).map some) xs = .ok ys) :
    xs.map view = ys.map encode := by
  have hread : ∀ x ∈ xs, ∀ b, (g x).map some = .ok b →
      true = false ∧ b = none ∨ true = true ∧ ∃ y, b = some y ∧ view x = encode y := by
    intro x _ b hb
    refine .inr ⟨rfl, ?_⟩
    cases hg : g x with
    | error e =>
      rw [hg] at hb
      cases hb
    | ok y =>
      rw [hg] at hb
      exact ⟨y, (Except.ok.inj hb).symm, hview x y hg⟩
  have hkept : (xs.filter fun _ => true).map view = ys.map encode := sift_view hread h
  rwa [List.filter_true] at hkept

lemma openTrades_eq {ts : List Trade} (h : loadReadOnlyOpenTrades r = .ok ts) : openTrades r = ts := by
  unfold loadReadOnlyOpenTrades at h
  unfold openTrades
  cases hsnapshot : r.snapshot with
  | none =>
    simp only [hsnapshot] at h
    cases h
  | some snapshot =>
    cases hcached : r.cached with
    | none =>
      simp only [hsnapshot, hcached] at h
      cases h
    | some cached =>
      simp only [hsnapshot, hcached] at h
      exact Except.ok.inj h

lemma factsOf_tells (hf : factsOf beyond selected r = .ok f) : Tells beyond selected r f := by
  obtain ⟨positions, options, trades, orders, executions, cash, hpositions, hoptions, htrades, horders, hexecutions, hcash, rfl⟩ :=
    factsOf_inv hf
  refine ⟨⟨positions, options, rfl, ?_, ?_⟩, ?_, ?_, ?_⟩
  · exact view_of_each (fun _ _ => positionContent_eq) hpositions
  · exact view_of_each (fun _ _ => optionContent_eq) hoptions
  · exact view_of_each (fun _ _ => cashContent_eq) hcash
  · rw [openTrades_eq htrades]
    exact sift_view (fun _ _ _ => tradeContent_eq) horders
  · exact sift_view (fun _ _ _ => fillContent_eq) hexecutions

lemma perm_sum_iff {A B : Type} {as as' : List A} {bs bs' : List B} :
    (as.map Sum.inl ++ bs.map Sum.inr : List (A ⊕ B)).Perm (as'.map Sum.inl ++ bs'.map Sum.inr) ↔ as.Perm as' ∧ bs.Perm bs' := by
  have hleft (xs : List A) (ys : List B) : (xs.map Sum.inl ++ ys.map Sum.inr : List (A ⊕ B)).filterMap Sum.getLeft? = xs := by
    have hnone : ys.filterMap (Sum.getLeft? ∘ (Sum.inr : B → A ⊕ B)) = [] := List.filterMap_eq_nil_iff.mpr fun _ _ => rfl
    rw [List.filterMap_append, List.filterMap_map, List.filterMap_map, hnone, List.append_nil]
    exact List.filterMap_some
  have hright (xs : List A) (ys : List B) : (xs.map Sum.inl ++ ys.map Sum.inr : List (A ⊕ B)).filterMap Sum.getRight? = ys := by
    have hnone : xs.filterMap (Sum.getRight? ∘ (Sum.inl : A → A ⊕ B)) = [] := List.filterMap_eq_nil_iff.mpr fun _ _ => rfl
    rw [List.filterMap_append, List.filterMap_map, List.filterMap_map, hnone, List.nil_append]
    exact List.filterMap_some
  constructor
  · intro h
    have hl := h.filterMap Sum.getLeft?
    have hr := h.filterMap Sum.getRight?
    rw [hleft, hleft] at hl
    rw [hright, hright] at hr
    exact ⟨hl, hr⟩
  · rintro ⟨hl, hr⟩
    exact (hl.map _).append (hr.map _)

lemma same_iff_content (h : Tells beyond selected r f) (h' : Tells beyond selected r' f') :
    identityMatch selected r.managedAccounts = identityMatch selected r'.managedAccounts ∧ f.Same f' ↔
      SameContent beyond selected r r' := by
  obtain ⟨ps, os, hpositions, hps, hos⟩ := h.positions
  obtain ⟨ps', os', hpositions', hps', hos'⟩ := h'.positions
  constructor
  · rintro ⟨hidentity, hsame⟩
    have hbook := hsame.positions
    rw [hpositions, hpositions', perm_sum_iff] at hbook
    refine ⟨hidentity, ?_, ?_, ?_, ?_, ?_⟩
    · rw [hps, hps']
      exact hbook.1.map _
    · rw [hos, hos']
      exact hbook.2.map _
    · rw [h.cash, h'.cash]
      exact hsame.cash.map _
    · rw [h.trades, h'.trades]
      exact hsame.openOrders.map _
    · rw [h.fills, h'.fills]
      exact hsame.executions.map _
  · rintro ⟨hidentity, hpos, hopt, hcash, htrades, hfills⟩
    rw [hps, hps', List.map_perm_map_iff positionContent_injective] at hpos
    rw [hos, hos', List.map_perm_map_iff optionContent_injective] at hopt
    rw [h.cash, h'.cash, List.map_perm_map_iff cashContent_injective] at hcash
    rw [h.trades, h'.trades, List.map_perm_map_iff orderContent_injective] at htrades
    rw [h.fills, h'.fills, List.map_perm_map_iff executionContent_injective] at hfills
    refine ⟨hidentity, ?_, hcash, htrades, hfills⟩
    rw [hpositions, hpositions', perm_sum_iff]
    exact ⟨hpos, hopt⟩

lemma factsOf_of_collect {textual : Record → String} {accountIds : Option (List String)} {o : BrokerObservations}
    (hids : normalizeAccountIds accountIds = .ok selected)
    (h : collectReadOnlyReconciliationObservations textual beyond accountIds r = .ok o) : ∃ f, factsOf beyond selected r = .ok f := by
  obtain ⟨selected', hids', h⟩ := ok_of_bind h
  obtain rfl := Except.ok.inj (hids.symm.trans hids')
  obtain ⟨f, hf, -⟩ := ok_of_bind h
  exact ⟨f, hf⟩

lemma cashTags_numeric (hf : factsOf beyond selected r = .ok f) :
    ∀ c ∈ r.cashBalances, ∀ t ∈ c.tags, Text.strip t.1 ∉ ["account_id", "currency"] → t.2.isSome := by
  intro c hc t ht htag
  obtain ⟨positions, hpositions, hf⟩ := ok_of_bind hf
  obtain ⟨options, hoptions, hf⟩ := ok_of_bind hf
  obtain ⟨trades, htrades, hf⟩ := ok_of_bind hf
  obtain ⟨orders, horders, hf⟩ := ok_of_bind hf
  obtain ⟨executions, hexecutions, hf⟩ := ok_of_bind hf
  obtain ⟨cash, hcash, -⟩ := ok_of_bind hf
  obtain ⟨b, hb⟩ := (sift_eq_ok_iff.mp hcash).1 c hc
  cases hn : normaliseCashBalance beyond selected c with
  | error e =>
    rw [hn] at hb
    cases hb
  | ok x =>
    obtain ⟨within, -, hn⟩ := ok_of_bind hn
    cases within with
    | false => cases hn
    | true =>
      obtain ⟨d, hd, -⟩ := ok_of_bind (x := numericTags _ []) hn
      exact numericTags_numeric hd t (List.mem_filter.mpr ⟨ht, decide_eq_true htag⟩)

lemma accounts_named (hf : factsOf beyond selected r = .ok f) :
    (∀ t ∈ openTrades r, Text.strip (openTradeAccount t) ≠ "") ∧ ∀ x ∈ r.fills, Text.strip (executionAccount x) ≠ "" := by
  have hscope {account surface : String} {within : Bool} (h : accountInScope selected account surface = .ok within) :
      Text.strip account ≠ "" := by
    intro hempty
    unfold accountInScope at h
    rw [if_pos hempty] at h
    cases h
  obtain ⟨positions, hpositions, hf⟩ := ok_of_bind hf
  obtain ⟨options, hoptions, hf⟩ := ok_of_bind hf
  obtain ⟨trades, htrades, hf⟩ := ok_of_bind hf
  obtain ⟨orders, horders, hf⟩ := ok_of_bind hf
  obtain ⟨executions, hexecutions, hf⟩ := ok_of_bind hf
  rw [openTrades_eq htrades]
  constructor
  · intro t ht
    obtain ⟨b, hb⟩ := (sift_eq_ok_iff.mp horders).1 t ht
    obtain ⟨within, hwithin, -⟩ := ok_of_bind hb
    exact hscope hwithin
  · intro x hx
    obtain ⟨b, hb⟩ := (sift_eq_ok_iff.mp hexecutions).1 x hx
    obtain ⟨within, hwithin, -⟩ := ok_of_bind hb
    exact hscope hwithin

lemma sameBook_of_objects {snapshot cached snapshot' cached' : List ℕ} (hf : factsOf beyond selected r = .ok f)
    (hsnapshot : r.snapshot = some snapshot) (hcached : r.cached = some cached)
    (hobjects : ∀ i, i ∈ snapshot ++ cached ↔ i ∈ snapshot' ++ cached') :
    SameBook selected r { r with snapshot := some snapshot', cached := some cached' } := by
  have hperm : (snapshot ++ cached).eraseDups.Perm (snapshot' ++ cached').eraseDups := by
    refine (List.perm_ext_iff_of_nodup (SortedList.nodup_eraseDups _) (SortedList.nodup_eraseDups _)).mpr fun i => ?_
    rw [List.mem_eraseDups, List.mem_eraseDups, hobjects]
  have hread : loadReadOnlyOpenTrades r = .ok ((snapshot ++ cached).eraseDups.map r.object) := by
    unfold loadReadOnlyOpenTrades
    rw [hsnapshot, hcached]
  refine ⟨rfl, .refl _, .refl _, .refl _, cashTags_numeric (r := r) hf, ⟨_, _, hread, rfl, (hperm.map _).filter _, ?_⟩, .refl _,
    (accounts_named hf).2⟩
  intro t ht
  refine (accounts_named hf).1 t ?_
  rw [openTrades_eq hread]
  exact (hperm.map _).mem_iff.mpr ht

variable {textual : Record → String} {accountIds : Option (List String)}

/-- What a reconciliation observes tells the content of the selected accounts, and nothing else of the read. -/
theorem observations_tell_books (hinj : Function.Injective textual) (hids : normalizeAccountIds accountIds = .ok selected)
    (r r' : BrokerRead) :
    (∀ o, collectReadOnlyReconciliationObservations textual beyond accountIds r = .ok o → SameBook selected r r' →
      collectReadOnlyReconciliationObservations textual beyond accountIds r' = .ok o) ∧
    (∀ o snapshot cached snapshot' cached', collectReadOnlyReconciliationObservations textual beyond accountIds r = .ok o →
      r.snapshot = some snapshot → r.cached = some cached → (∀ i, i ∈ snapshot ++ cached ↔ i ∈ snapshot' ++ cached') →
      collectReadOnlyReconciliationObservations textual beyond accountIds
        { r with snapshot := some snapshot', cached := some cached' } = .ok o) ∧
    ∀ o o', collectReadOnlyReconciliationObservations textual beyond accountIds r = .ok o →
      collectReadOnlyReconciliationObservations textual beyond accountIds r' = .ok o' →
      (o = o' ↔ SameContent beyond selected r r') := by
  have hsame (s s' : BrokerRead) (o : BrokerObservations)
      (ho : collectReadOnlyReconciliationObservations textual beyond accountIds s = .ok o) (hbook : SameBook selected s s') :
      collectReadOnlyReconciliationObservations textual beyond accountIds s' = .ok o := by
    obtain ⟨f, hf⟩ := factsOf_of_collect hids ho
    obtain ⟨f', hf', hff⟩ := factsOf_same hbook hf
    rw [← ho]
    exact ((collect_eq_iff hinj hids hf hf').mpr ⟨hbook.identity, hff⟩).symm
  refine ⟨hsame r r', ?_, ?_⟩
  · intro o snapshot cached snapshot' cached' ho hsnapshot hcached hobjects
    obtain ⟨f, hf⟩ := factsOf_of_collect hids ho
    exact hsame r _ o ho (sameBook_of_objects hf hsnapshot hcached hobjects)
  · intro o o' ho ho'
    obtain ⟨f, hf⟩ := factsOf_of_collect hids ho
    obtain ⟨f', hf'⟩ := factsOf_of_collect hids ho'
    rw [← same_iff_content (factsOf_tells hf) (factsOf_tells hf'), ← collect_eq_iff hinj hids hf hf', ho, ho', Except.ok.injEq]

end Runs

section Example

instance encodableChar : Encodable Char := Encodable.ofLeftInverse Char.toNat Char.ofNat Char.ofNat_toNat

instance encodableString : Encodable String := Encodable.ofLeftInverse String.toList String.ofList fun _ => String.ofList_toList

def numberParts : Extended → ℚ ⊕ Option Bool
  | .finite q => .inl q
  | .infinite negative => .inr (some negative)
  | .nan => .inr none

def numberOfParts : ℚ ⊕ Option Bool → Extended
  | .inl q => .finite q
  | .inr (some negative) => .infinite negative
  | .inr none => .nan

instance encodableExtended : Encodable Extended := Encodable.ofLeftInverse numberParts numberOfParts fun x => by cases x <;> rfl

def Field.parts : Field → String ⊕ Extended ⊕ List (String × String) ⊕ List (String × Extended)
  | .text s => .inl s
  | .number q => .inr (.inl q)
  | .texts entries => .inr (.inr (.inl entries))
  | .numbers entries => .inr (.inr (.inr entries))

lemma fieldParts_injective : Function.Injective Field.parts := by
  rintro (a | a | a | a) (b | b | b | b) h <;> cases h <;> rfl

def recordText (record : Record) : String :=
  String.ofList (List.replicate (Encodable.encode (record.map fun e => (e.1, Field.parts e.2))) 'i')

lemma recordText_injective : Function.Injective recordText := by
  intro a b h
  have hlength := congrArg List.length (String.ofList_injective h)
  rw [List.length_replicate, List.length_replicate, Encodable.encode_inj] at hlength
  refine List.map_injective_iff.mpr (fun e e' he => ?_) hlength
  obtain ⟨hname, hfield⟩ := Prod.mk.inj he
  exact Prod.ext hname (fieldParts_injective hfield)

def sampleContract : Contract := ⟨"265598", "AAPL", "AAPL", "STK", "USD"⟩

def sampleFill (account side : String) : Fill :=
  ⟨some ⟨account, "e-1", "7", "20240102 10:00:00", side, some (.finite 3), some (.finite 185)⟩, "", some sampleContract⟩

def sampleRead (managed : List String) (side : String) (foreign : List Fill) : BrokerRead :=
  ⟨managed, [], [], [⟨"U1", "USD", [("SettledCash", some (.finite 5)), ("CashBalance", some (.finite 7))]⟩], fun _ =>
    ⟨⟨"U1", "9", "BUY", "LMT", some (.finite 3), some (some (.finite 185)), none⟩, "", none, some sampleContract⟩, some [0], some [0],
    foreign ++ [sampleFill "U1" side]⟩

def noLong (_ : Char) : List Char := []

def sampleObservations (identity : Bool) (side : String) : BrokerObservations :=
  ⟨["U1"], identity, if identity then ["open_orders"] else [], [], [CashFacts.record ⟨"U1", "USD", "CashBalance", .finite 7⟩],
    [OrderFacts.record ⟨"U1", ⟨"265598", "AAPL", "AAPL", "STK", "USD"⟩, "9", "BUY", "LMT", .finite 3, .finite 185, 0, "", 0, 0⟩],
    [ExecutionFacts.record ⟨"U1", ⟨"265598", "AAPL", "AAPL", "STK", "USD"⟩, "e-1", "7", "20240102 10:00:00", side, .finite 3, .finite 185⟩]⟩

theorem observations_tell_books_sample :
    collectReadOnlyReconciliationObservations recordText noLong (some ["U1"])
        (sampleRead ["U1"] "BOT" [sampleFill "U2" "SLD"]) = .ok (sampleObservations true "BOT") ∧
      collectReadOnlyReconciliationObservations recordText noLong (some ["U1"])
        { sampleRead ["U1"] "BOT" [] with snapshot := some [], cached := some [0] } = .ok (sampleObservations true "BOT") ∧
      ¬ SameContent noLong ["U1"] (sampleRead ["U1"] "BOT" []) (sampleRead ["U1"] "SLD" []) := by
  have hids : normalizeAccountIds (some ["U1"]) = .ok ["U1"] := by decide
  have hbought : collectReadOnlyReconciliationObservations recordText noLong (some ["U1"]) (sampleRead ["U1"] "BOT" []) =
      .ok (sampleObservations true "BOT") := by decide
  have hsold : collectReadOnlyReconciliationObservations recordText noLong (some ["U1"]) (sampleRead ["U1"] "SLD" []) =
      .ok (sampleObservations true "SLD") := by decide
  have htell := @observations_tell_books noLong _ _ _ recordText_injective hids (sampleRead ["U1"] "BOT" [])
  refine ⟨?_, ?_, ?_⟩
  · refine (htell (sampleRead ["U1"] "BOT" [sampleFill "U2" "SLD"])).1 _ hbought ?_
    have hforeign : ownFill ["U1"] (sampleFill "U2" "SLD") = false := by decide
    refine ⟨rfl, .refl _, .refl _, .refl _, ?_, ⟨_, _, rfl, rfl, .refl _, ?_⟩, ?_, ?_⟩
    · intro c hc t ht _
      obtain rfl := List.mem_singleton.mp hc
      obtain rfl | ht := List.mem_cons.mp ht
      · rfl
      · rw [List.mem_singleton.mp ht]
        rfl
    · intro t ht
      obtain ⟨i, -, rfl⟩ := List.mem_map.mp ht
      change Text.strip "U1" ≠ ""
      decide
    · change ([sampleFill "U1" "BOT"].filter _).Perm ((sampleFill "U2" "SLD" :: [sampleFill "U1" "BOT"]).filter _)
      rw [List.filter_cons_of_neg (a := sampleFill "U2" "SLD") (by rw [hforeign]; exact Bool.false_ne_true)]
    · intro x hx
      obtain rfl | hx := List.mem_cons.mp hx
      · decide
      · rw [List.mem_singleton.mp hx]
        decide
  · exact (htell (sampleRead ["U1"] "BOT" [])).2.1 _ [0] [0] [] [0] hbought rfl rfl (by simp)
  · intro hsame
    have heq := ((htell (sampleRead ["U1"] "SLD" [])).2.2 _ _ hbought hsold).mpr hsame
    exact absurd heq (by decide)

theorem execution_text_unread :
    (sampleRead ["U1"] "BOT" []).fills ≠ (sampleRead ["U1"] "bot" []).fills ∧
      collectReadOnlyReconciliationObservations recordText noLong (some ["U1"]) (sampleRead ["U1"] "BOT" []) =
        collectReadOnlyReconciliationObservations recordText noLong (some ["U1"]) (sampleRead ["U1"] "bot" []) ∧
      collectReadOnlyReconciliationObservations recordText noLong (some ["U1"]) (sampleRead ["U1"] "BOT" []) ≠
        collectReadOnlyReconciliationObservations recordText noLong (some ["U1"]) (sampleRead [] "BOT" []) := by
  have hupper : collectReadOnlyReconciliationObservations recordText noLong (some ["U1"]) (sampleRead ["U1"] "BOT" []) =
      .ok (sampleObservations true "BOT") := by decide
  have hlower : collectReadOnlyReconciliationObservations recordText noLong (some ["U1"]) (sampleRead ["U1"] "bot" []) =
      .ok (sampleObservations true "BOT") := by decide
  have hother : collectReadOnlyReconciliationObservations recordText noLong (some ["U1"]) (sampleRead [] "BOT" []) =
      .ok (sampleObservations false "BOT") := by decide
  refine ⟨?_, hupper.trans hlower.symm, ?_⟩
  · intro h
    have hside := congrArg (List.map fun x : Fill => x.execution.map Execution.side) h
    exact absurd hside (by decide)
  · rw [hupper, hother]
    decide

end Example

end IbkrPlatform.Reconciliation.Continuity
