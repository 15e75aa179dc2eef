import Mathlib.Data.List.Perm.Basic
import Mathlib.Data.String.Basic
import IbkrPlatform.Library.Dictionary
import IbkrPlatform.Library.EarlyExit
import IbkrPlatform.Library.Extended
import IbkrPlatform.Library.SortedList
import IbkrPlatform.Library.Text

/-! What a reconciliation observes of the broker's books, and what two reads must share for it to observe the same. -/

namespace IbkrPlatform.Reconciliation.Observations

open Library EarlyExit

inductive ReadError
  | noAccounts
  | unscoped (surface : String)
  | outOfScope (surface : String)
  | missing (fieldName : String)
  | orderWithoutContract
  | incompleteExecution
  | noStableTag
  | openOrdersUnavailable
deriving DecidableEq

section Reads

/-- A row of the injected portfolio snapshot; a number that `float` refuses is `none`. -/
structure Position where
  symbol : String
  quantity : Option Extended
  averageCost : Option Extended
  currency : String

structure OptionPosition where
  accountId : String
  underlier : String
  localSymbol : String
  expiration : String
  right : String
  strike : Option Extended
  quantity : Option Extended
  averageCost : Option Extended
  currency : String

structure CashBalance where
  accountId : String
  currency : String
  tags : List (String × Option Extended)

structure Contract where
  conId : String
  symbol : String
  localSymbol : String
  secType : String
  currency : String

/-- The order of a trade; a price that is missing is `none`. -/
structure Order where
  account : String
  permId : String
  action : String
  orderType : String
  totalQuantity : Option Extended
  lmtPrice : Option (Option Extended)
  auxPrice : Option (Option Extended)

structure OrderStatus where
  status : String
  filled : Option (Option Extended)
  remaining : Option (Option Extended)

structure Trade where
  order : Order
  account : String
  orderStatus : Option OrderStatus
  contract : Option Contract

structure Execution where
  acctNumber : String
  execId : String
  orderId : String
  time : String
  side : String
  shares : Option Extended
  price : Option Extended

structure Fill where
  execution : Option Execution
  orderAccount : String
  contract : Option Contract

/-- What the broker returns to one collection; the lists of trade objects are `none` where a read fails. -/
structure BrokerRead where
  managedAccounts : List String
  positions : List Position
  optionPositions : List OptionPosition
  cashBalances : List CashBalance
  object : ℕ → Trade
  snapshot : Option (List ℕ)
  cached : Option (List ℕ)
  fills : List Fill

end Reads

section Facts

structure PositionFacts where
  symbol : String
  quantity : Extended
  averageCost : Extended
  currency : String
deriving DecidableEq

structure OptionFacts where
  account : String
  underlier : String
  localSymbol : String
  expiration : String
  right : String
  strike : Extended
  quantity : Extended
  averageCost : Extended
  currency : String
deriving DecidableEq

structure CashFacts where
  account : String
  currency : String
  tag : String
  amount : Extended
deriving DecidableEq

structure ContractFacts where
  conId : String
  symbol : String
  localSymbol : String
  secType : String
  currency : String
deriving DecidableEq

structure OrderFacts where
  account : String
  contract : ContractFacts
  permId : String
  action : String
  orderType : String
  totalQuantity : Extended
  limitPrice : Extended
  auxPrice : Extended
  status : String
  filled : Extended
  remaining : Extended
deriving DecidableEq

structure ExecutionFacts where
  account : String
  contract : ContractFacts
  executionId : String
  orderId : String
  time : String
  side : String
  shares : Extended
  price : Extended
deriving DecidableEq

structure Facts where
  positions : List (PositionFacts ⊕ OptionFacts)
  openOrders : List OrderFacts
  executions : List ExecutionFacts
  cash : List CashFacts
deriving DecidableEq

end Facts

section Normalise

variable (beyond : Char → List Char) (selected : List String)

def upperText (s : String) : String := Text.upper beyond (Text.strip s)

def number (value : Option Extended) (fieldName : String) : Except ReadError Extended := value.elim (.error (.missing fieldName)) .ok

def orZero (value : Option (Option Extended)) : Option Extended := value.getD (some 0)

def normalizeAccountIds : Option (List String) → Except ReadError (List String)
  | none => .ok []
  | some candidates =>
    let normalized := ((candidates.map Text.strip).filter (· ≠ "")).eraseDups
    if normalized = [] then .error .noAccounts else .ok normalized

def accountInScope (account surface : String) : Except ReadError Bool :=
  if Text.strip account = "" then .error (.unscoped surface) else .ok (Text.strip account ∈ selected)

def normalisePosition (p : Position) : Except ReadError PositionFacts :=
  (number p.quantity "position quantity").bind fun quantity =>
  (number p.averageCost "position average cost").bind fun averageCost =>
  .ok ⟨upperText beyond p.symbol, quantity, averageCost, upperText beyond p.currency⟩

def normaliseOptionPosition (p : OptionPosition) : Except ReadError OptionFacts :=
  (accountInScope selected p.accountId "option position").bind fun within =>
  if !within then .error (.outOfScope "option position")
  else
    (number p.strike "option strike").bind fun strike =>
    (number p.quantity "option quantity").bind fun quantity =>
    (number p.averageCost "option average cost").bind fun averageCost =>
    .ok ⟨Text.strip p.accountId, upperText beyond p.underlier, Text.strip p.localSymbol, Text.strip p.expiration,
      upperText beyond p.right, strike, quantity, averageCost, upperText beyond p.currency⟩

def cashBalanceTagPriority : List String :=
  ["$LEDGER-CashBalance", "$LEDGER-TotalCashBalance", "CashBalance", "TotalCashBalance", "SettledCash"]

def numericTags : List (String × Option Extended) → List (String × Extended) → Except ReadError (List (String × Extended))
  | [], d => .ok d
  | (tag, value) :: rest, d =>
    (number value ("cash tag " ++ Text.strip tag)).bind fun q => numericTags rest (Dictionary.put (Text.strip tag) q d)

def selectedTag (d : List (String × Extended)) : Option (String × Extended) :=
  cashBalanceTagPriority.findSome? fun tag => (d.lookup tag).map fun q => (tag, q)

def normaliseCashBalance (c : CashBalance) : Except ReadError CashFacts :=
  (accountInScope selected c.accountId "cash").bind fun within =>
  if !within then .error (.outOfScope "cash")
  else
    (numericTags (c.tags.filter fun t => Text.strip t.1 ∉ ["account_id", "currency"]) []).bind fun d =>
    match selectedTag d with
    | some (tag, q) => .ok ⟨Text.strip c.accountId, upperText beyond c.currency, tag, q⟩
    | none => .error .noStableTag

def safeContractFields (c : Contract) : ContractFacts :=
  ⟨Text.strip c.conId, upperText beyond c.symbol, Text.strip c.localSymbol, upperText beyond c.secType, upperText beyond c.currency⟩

def openTradeAccount (t : Trade) : String := if t.order.account ≠ "" then t.order.account else t.account

def normaliseOpenTrade (t : Trade) : Except ReadError (Option OrderFacts) :=
  (accountInScope selected (openTradeAccount t) "open order").bind fun within =>
  if !within then .ok none
  else match t.contract with
    | none => .error .orderWithoutContract
    | some contract =>
      (number t.order.totalQuantity "open order total quantity").bind fun totalQuantity =>
      (number (orZero t.order.lmtPrice) "open order limit price").bind fun limitPrice =>
      (number (orZero t.order.auxPrice) "open order aux price").bind fun auxPrice =>
      (number (orZero (t.orderStatus.bind OrderStatus.filled)) "open order filled quantity").bind fun filled =>
      (number (orZero (t.orderStatus.bind OrderStatus.remaining)) "open order remaining quantity").bind fun remaining =>
      .ok (some ⟨Text.strip (openTradeAccount t), safeContractFields beyond contract, Text.strip t.order.permId,
        upperText beyond t.order.action, upperText beyond t.order.orderType, totalQuantity, limitPrice, auxPrice,
        Text.strip ((t.orderStatus.map OrderStatus.status).getD ""), filled, remaining⟩)

def executionAccount (f : Fill) : String :=
  let account := (f.execution.map Execution.acctNumber).getD ""
  if Text.strip account ≠ "" then account else f.orderAccount

def normaliseExecution (f : Fill) : Except ReadError (Option ExecutionFacts) :=
  (accountInScope selected (executionAccount f) "execution").bind fun within =>
  if !within then .ok none
  else match f.execution, f.contract with
    | some execution, some contract =>
      (number execution.shares "execution shares").bind fun shares =>
      (number execution.price "execution price").bind fun price =>
      .ok (some ⟨Text.strip (executionAccount f), safeContractFields beyond contract, Text.strip execution.execId,
        Text.strip execution.orderId, Text.strip execution.time, upperText beyond execution.side, shares, price⟩)
    | _, _ => .error .incompleteExecution

def loadReadOnlyOpenTrades (r : BrokerRead) : Except ReadError (List Trade) :=
  match r.snapshot, r.cached with
  | some snapshot, some cached => .ok ((snapshot ++ cached).eraseDups.map r.object)
  | _, _ => .error .openOrdersUnavailable

def factsOf (r : BrokerRead) : Except ReadError Facts :=
  (sift (fun p => (normalisePosition beyond p).map some) r.positions).bind fun positions =>
  (sift (fun p => (normaliseOptionPosition beyond selected p).map some) r.optionPositions).bind fun options =>
  (loadReadOnlyOpenTrades r).bind fun trades =>
  (sift (normaliseOpenTrade beyond selected) trades).bind fun openOrders =>
  (sift (normaliseExecution beyond selected) r.fills).bind fun executions =>
  (sift (fun c => (normaliseCashBalance beyond selected c).map some) r.cashBalances).bind fun cash =>
  .ok ⟨positions.map .inl ++ options.map .inr, openOrders, executions, cash⟩

end Normalise

section Records

inductive Field
  | text (s : String)
  | number (q : Extended)
  | texts (entries : List (String × String))
  | numbers (entries : List (String × Extended))
deriving DecidableEq

abbrev Record := List (String × Field)

def PositionFacts.record (f : PositionFacts) : Record :=
  [("symbol", .text f.symbol), ("quantity", .number f.quantity), ("average_cost", .number f.averageCost),
    ("currency", .text f.currency)]

def OptionFacts.record (f : OptionFacts) : Record :=
  [("account", .text f.account), ("underlier", .text f.underlier), ("local_symbol", .text f.localSymbol),
    ("expiration", .text f.expiration), ("right", .text f.right), ("strike", .number f.strike),
    ("quantity", .number f.quantity), ("average_cost", .number f.averageCost), ("currency", .text f.currency)]

def CashFacts.record (f : CashFacts) : Record :=
  [("account", .text f.account), ("currency", .text f.currency), ("tags", .numbers [(f.tag, f.amount)])]

def ContractFacts.field (f : ContractFacts) : Field :=
  .texts [("con_id", f.conId), ("symbol", f.symbol), ("local_symbol", f.localSymbol), ("sec_type", f.secType),
    ("currency", f.currency)]

def OrderFacts.record (f : OrderFacts) : Record :=
  [("account", .text f.account), ("contract", f.contract.field), ("perm_id", .text f.permId), ("action", .text f.action),
    ("order_type", .text f.orderType), ("total_quantity", .number f.totalQuantity), ("limit_price", .number f.limitPrice),
    ("aux_price", .number f.auxPrice), ("status", .text f.status), ("filled", .number f.filled),
    ("remaining", .number f.remaining)]

def ExecutionFacts.record (f : ExecutionFacts) : Record :=
  [("account", .text f.account), ("contract", f.contract.field), ("execution_id", .text f.executionId),
    ("order_id", .text f.orderId), ("time", .text f.time), ("side", .text f.side), ("shares", .number f.shares),
    ("price", .number f.price)]

structure BrokerObservations where
  accountScope : List String
  accountIdentityMatch : Bool
  comparisonCovered : List String
  positions : List Record
  cash : List Record
  openOrders : List Record
  recentExecutions : List Record
deriving DecidableEq

variable (textual : Record → String) (beyond : Char → List Char)

def sortedRecords (records : List Record) : List Record := records.insertionSort fun a b => textual a ≤ textual b

def identityMatch (selected managedAccounts : List String) : Bool :=
  selected.all fun account => account ∈ (managedAccounts.map Text.strip).filter (· ≠ "")

def collectReadOnlyReconciliationObservations (accountIds : Option (List String)) (r : BrokerRead) :
    Except ReadError BrokerObservations :=
  (normalizeAccountIds accountIds).bind fun selected =>
  (factsOf beyond selected r).bind fun facts =>
  .ok {
    accountScope := selected.insertionSort (· ≤ ·)
    accountIdentityMatch := identityMatch selected r.managedAccounts
    comparisonCovered := if identityMatch selected r.managedAccounts then ["open_orders"] else []
    positions := sortedRecords textual (facts.positions.map (Sum.elim PositionFacts.record OptionFacts.record))
    cash := sortedRecords textual (facts.cash.map CashFacts.record)
    openOrders := sortedRecords textual (facts.openOrders.map OrderFacts.record)
    recentExecutions := sortedRecords textual (facts.executions.map ExecutionFacts.record) }

end Records

section Sorting

variable {textual : Record → String} {xs ys : List Record}

lemma sortedRecords_eq_iff (hinj : Function.Injective textual) : sortedRecords textual xs = sortedRecords textual ys ↔ xs.Perm ys := by
  have hperm (zs : List Record) : (sortedRecords textual zs).Perm zs := List.perm_insertionSort _ zs
  constructor
  · intro h
    exact (hperm xs).symm.trans (h ▸ hperm ys)
  · intro h
    have htotal : Std.Total fun a b : Record => textual a ≤ textual b := ⟨fun a b => le_total _ _⟩
    have htrans : IsTrans Record fun a b => textual a ≤ textual b := ⟨fun a b c => le_trans⟩
    exact List.Perm.eq_of_pairwise (fun a b _ _ hab hba => hinj (le_antisymm hab hba)) (List.pairwise_insertionSort _ xs)
      (List.pairwise_insertionSort _ ys) ((hperm xs).trans (h.trans (hperm ys).symm))

lemma sortedRecords_map_eq_iff {A : Type} {record : A → Record} (hinj : Function.Injective textual)
    (hrecord : Function.Injective record) {as bs : List A} :
    sortedRecords textual (as.map record) = sortedRecords textual (bs.map record) ↔ as.Perm bs :=
  (sortedRecords_eq_iff hinj).trans (List.map_perm_map_iff hrecord)

lemma positionRecord_injective : Function.Injective (Sum.elim PositionFacts.record OptionFacts.record) := by
  rintro (⟨a₁, a₂, a₃, a₄⟩ | ⟨a₁, a₂, a₃, a₄, a₅, a₆, a₇, a₈, a₉⟩) (⟨b₁, b₂, b₃, b₄⟩ | ⟨b₁, b₂, b₃, b₄, b₅, b₆, b₇, b₈, b₉⟩) h
  · simpa [PositionFacts.record] using h
  · simp [PositionFacts.record, OptionFacts.record] at h
  · simp [PositionFacts.record, OptionFacts.record] at h
  · simpa [OptionFacts.record] using h

lemma cashRecord_injective : Function.Injective CashFacts.record := by
  rintro ⟨a₁, a₂, a₃, a₄⟩ ⟨b₁, b₂, b₃, b₄⟩ h
  simpa [CashFacts.record] using h

lemma contractField_injective : Function.Injective ContractFacts.field := by
  rintro ⟨a₁, a₂, a₃, a₄, a₅⟩ ⟨b₁, b₂, b₃, b₄, b₅⟩ h
  simpa [ContractFacts.field] using h

lemma orderRecord_injective : Function.Injective OrderFacts.record := by
  rintro ⟨a₁, a₂, a₃, a₄, a₅, a₆, a₇, a₈, a₉, a₁₀, a₁₁⟩ ⟨b₁, b₂, b₃, b₄, b₅, b₆, b₇, b₈, b₉, b₁₀, b₁₁⟩ h
  simpa [OrderFacts.record, contractField_injective.eq_iff] using h

lemma executionRecord_injective : Function.Injective ExecutionFacts.record := by
  rintro ⟨a₁, a₂, a₃, a₄, a₅, a₆, a₇, a₈⟩ ⟨b₁, b₂, b₃, b₄, b₅, b₆, b₇, b₈⟩ h
  simpa [ExecutionFacts.record, contractField_injective.eq_iff] using h

end Sorting

section Books

variable {beyond : Char → List Char} {selected : List String} {r r' : BrokerRead} {f f' : Facts}

structure Facts.Same (f f' : Facts) : Prop where
  positions : f.positions.Perm f'.positions
  cash : f.cash.Perm f'.cash
  openOrders : f.openOrders.Perm f'.openOrders
  executions : f.executions.Perm f'.executions

lemma collect_eq (textual : Record → String) {accountIds : Option (List String)}
    (hids : normalizeAccountIds accountIds = .ok selected) (hf : factsOf beyond selected r = .ok f) :
    ∃ o, collectReadOnlyReconciliationObservations textual beyond accountIds r = .ok o ∧
      o.accountScope = selected.insertionSort (· ≤ ·) ∧ o.accountIdentityMatch = identityMatch selected r.managedAccounts ∧
      o.comparisonCovered = (if identityMatch selected r.managedAccounts then ["open_orders"] else []) ∧
      o.positions = sortedRecords textual (f.positions.map (Sum.elim PositionFacts.record OptionFacts.record)) ∧
      o.cash = sortedRecords textual (f.cash.map CashFacts.record) ∧
      o.openOrders = sortedRecords textual (f.openOrders.map OrderFacts.record) ∧
      o.recentExecutions = sortedRecords textual (f.executions.map ExecutionFacts.record) := by
  unfold collectReadOnlyReconciliationObservations
  rw [hids]
  change ∃ o, (factsOf beyond selected r).bind _ = .ok o ∧ _
  rw [hf]
  exact ⟨_, rfl, rfl, rfl, rfl, rfl, rfl, rfl, rfl⟩

lemma collect_eq_iff {textual : Record → String} {accountIds : Option (List String)} (hinj : Function.Injective textual)
    (hids : normalizeAccountIds accountIds = .ok selected) (hf : factsOf beyond selected r = .ok f)
    (hf' : factsOf beyond selected r' = .ok f') :
    collectReadOnlyReconciliationObservations textual beyond accountIds r =
        collectReadOnlyReconciliationObservations textual beyond accountIds r' ↔
      identityMatch selected r.managedAccounts = identityMatch selected r'.managedAccounts ∧ f.Same f' := by
  obtain ⟨⟨scope, identity, covered, positions, cash, orders, executions⟩, ho, rfl, rfl, rfl, rfl, rfl, rfl, rfl⟩ :=
    collect_eq textual hids hf
  obtain ⟨⟨scope', identity', covered', positions', cash', orders', executions'⟩, ho', rfl, rfl, rfl, rfl, rfl, rfl, rfl⟩ :=
    collect_eq textual hids hf'
  rw [ho, ho', Except.ok.injEq, BrokerObservations.mk.injEq]
  rw [sortedRecords_map_eq_iff hinj positionRecord_injective, sortedRecords_map_eq_iff hinj cashRecord_injective,
    sortedRecords_map_eq_iff hinj orderRecord_injective, sortedRecords_map_eq_iff hinj executionRecord_injective]
  constructor
  · rintro ⟨-, hidentity, -, hpositions, hcash, horders, hexecutions⟩
    exact ⟨hidentity, hpositions, hcash, horders, hexecutions⟩
  · rintro ⟨hidentity, hsame⟩
    exact ⟨rfl, hidentity, by rw [hidentity], hsame.positions, hsame.cash, hsame.openOrders, hsame.executions⟩

end Books

section Cash

variable {beyond : Char → List Char} {selected : List String} {ts : List (String × Option Extended)} {d d' : List (String × Extended)}

def lastValue (tag : String) (ts : List (String × Option Extended)) : Option (Option Extended) :=
  (ts.filter fun t => Text.strip t.1 = tag).getLast?.map Prod.snd

def selectedBalance (c : CashBalance) : String × String × Option (String × Option Extended) :=
  (c.accountId, c.currency, cashBalanceTagPriority.findSome? fun tag => (lastValue tag c.tags).map fun v => (tag, v))

lemma lastValue_cons {t : String × Option Extended} {tag : String} : lastValue tag (t :: ts) =
    (lastValue tag ts).or (if Text.strip t.1 = tag then some t.2 else none) := by
  unfold lastValue
  rw [List.filter_cons]
  by_cases h : Text.strip t.1 = tag
  · rw [if_pos (decide_eq_true h), if_pos h, List.getLast?_cons]
    cases (ts.filter fun t => Text.strip t.1 = tag).getLast? <;> rfl
  · rw [if_neg (by simpa using h), if_neg h, Option.or_none]

lemma numericTags_ok (h : numericTags ts d = .ok d') (tag : String) :
    d'.lookup tag = ((lastValue tag ts).elim (d.lookup tag) id) := by
  induction ts generalizing d with
  | nil => rw [← Except.ok.inj h]; rfl
  | cons t ts ih =>
    obtain ⟨name, value⟩ := t
    obtain ⟨q, hq, h⟩ := ok_of_bind h
    rw [ih h, lastValue_cons]
    cases value with
    | none => cases hq
    | some q' =>
      obtain rfl := Except.ok.inj hq
      cases lastValue tag ts with
      | some v => rfl
      | none =>
        change (Dictionary.put _ _ d).lookup tag = _
        rw [Dictionary.lookup_put]
        by_cases htag : tag = Text.strip name
        · rw [if_pos htag, if_pos htag.symm]
          rfl
        · rw [if_neg htag, if_neg (Ne.symm htag)]
          rfl

lemma numericTags_of_numeric (h : ∀ t ∈ ts, t.2.isSome) (d : List (String × Extended)) : ∃ d', numericTags ts d = .ok d' := by
  induction ts generalizing d with
  | nil => exact ⟨d, rfl⟩
  | cons t ts ih =>
    obtain ⟨name, value⟩ := t
    rw [List.forall_mem_cons] at h
    obtain ⟨q, rfl⟩ := Option.isSome_iff_exists.mp h.1
    exact ih h.2 _

lemma lastValue_filter {tag : String} (htag : tag ∈ cashBalanceTagPriority) :
    lastValue tag (ts.filter fun t => Text.strip t.1 ∉ ["account_id", "currency"]) = lastValue tag ts := by
  have hother : tag ∉ ["account_id", "currency"] := by
    revert tag
    decide
  unfold lastValue
  rw [List.filter_filter]
  congr 2
  refine List.filter_congr fun t _ => ?_
  by_cases h : Text.strip t.1 = tag
  · simp [h, hother]
  · simp [h]

def cashOf (beyond : Char → List Char) (selected : List String) (b : String × String × Option (String × Option Extended)) :
    Except ReadError CashFacts :=
  (accountInScope selected b.1 "cash").bind fun within =>
  if !within then .error (.outOfScope "cash")
  else match b.2.2 with
    | some (tag, some q) => .ok ⟨Text.strip b.1, upperText beyond b.2.1, tag, q⟩
    | _ => .error .noStableTag

lemma numericTags_numeric (h : numericTags ts d = .ok d') : ∀ t ∈ ts, t.2.isSome := by
  induction ts generalizing d with
  | nil => exact fun t ht => (nomatch ht)
  | cons t ts ih =>
    obtain ⟨name, value⟩ := t
    obtain ⟨q, hq, h⟩ := ok_of_bind h
    rw [List.forall_mem_cons]
    refine ⟨?_, ih h⟩
    cases value with
    | none => cases hq
    | some q' => rfl

lemma selectedTag_eq (h : numericTags (ts.filter fun t => Text.strip t.1 ∉ ["account_id", "currency"]) [] = .ok d) :
    (cashBalanceTagPriority.findSome? fun tag => (lastValue tag ts).map fun v => (tag, v)) =
      (selectedTag d).map fun t => (t.1, some t.2) := by
  have htag : ∀ tag ∈ cashBalanceTagPriority,
      ((lastValue tag ts).map fun v => (tag, v)) = (d.lookup tag).map fun q => (tag, some q) := by
    intro tag hmem
    rw [numericTags_ok h tag, lastValue_filter hmem]
    cases hlast : lastValue tag ts with
    | none => rfl
    | some v =>
      rw [← lastValue_filter hmem] at hlast
      obtain ⟨t, ht, rfl⟩ := Option.map_eq_some_iff.mp hlast
      have hsome := numericTags_numeric h t (List.mem_filter.mp (List.mem_of_getLast? ht)).1
      obtain ⟨q, hq⟩ := Option.isSome_iff_exists.mp hsome
      rw [hq]
      rfl
  unfold selectedTag
  generalize cashBalanceTagPriority = tags at htag ⊢
  induction tags with
  | nil => rfl
  | cons tag tags ih =>
    rw [List.forall_mem_cons] at htag
    simp only [List.findSome?_cons, htag.1]
    cases d.lookup tag with
    | none => exact ih htag.2
    | some q => rfl

lemma normaliseCashBalance_eq {c : CashBalance}
    (h : accountInScope selected c.accountId "cash" = .ok true →
      ∃ d, numericTags (c.tags.filter fun t => Text.strip t.1 ∉ ["account_id", "currency"]) [] = .ok d) :
    normaliseCashBalance beyond selected c = cashOf beyond selected (selectedBalance c) := by
  unfold normaliseCashBalance cashOf
  change (accountInScope selected c.accountId "cash").bind _ = (accountInScope selected c.accountId "cash").bind _
  cases hs : accountInScope selected c.accountId "cash" with
  | error e => rfl
  | ok within =>
    cases within with
    | false => rfl
    | true =>
      obtain ⟨d, hd⟩ := h hs
      change (numericTags _ []).bind _ = match (selectedBalance c).2.2 with
        | some (tag, some q) => Except.ok (CashFacts.mk (Text.strip c.accountId) (upperText beyond c.currency) tag q)
        | _ => .error .noStableTag
      rw [hd, selectedBalance, selectedTag_eq hd]
      change (match selectedTag d with
        | some (tag, q) => Except.ok (CashFacts.mk (Text.strip c.accountId) (upperText beyond c.currency) tag q)
        | none => .error ReadError.noStableTag) = _
      cases selectedTag d with
      | none => rfl
      | some t => rfl

end Cash

section Runs

variable {beyond : Char → List Char} {selected : List String} {r r' : BrokerRead} {f f' : Facts}

def ownTrade (selected : List String) (t : Trade) : Bool := Text.strip (openTradeAccount t) ∈ selected

def ownFill (selected : List String) (x : Fill) : Bool := Text.strip (executionAccount x) ∈ selected

structure SameBook (selected : List String) (r r' : BrokerRead) : Prop where
  identity : identityMatch selected r.managedAccounts = identityMatch selected r'.managedAccounts
  positions : r.positions.Perm r'.positions
  options : r.optionPositions.Perm r'.optionPositions
  cash : (r.cashBalances.map selectedBalance).Perm (r'.cashBalances.map selectedBalance)
  numeric : ∀ c ∈ r'.cashBalances, ∀ t ∈ c.tags, Text.strip t.1 ∉ ["account_id", "currency"] → t.2.isSome
  trades : ∃ ts ts', loadReadOnlyOpenTrades r = .ok ts ∧ loadReadOnlyOpenTrades r' = .ok ts' ∧
    (ts.filter (ownTrade selected)).Perm (ts'.filter (ownTrade selected)) ∧ ∀ t ∈ ts', Text.strip (openTradeAccount t) ≠ ""
  fills : (r.fills.filter (ownFill selected)).Perm (r'.fills.filter (ownFill selected))
  accounted : ∀ x ∈ r'.fills, Text.strip (executionAccount x) ≠ ""

lemma openTrade_other {t : Trade} (h : ownTrade selected t = false) {b : Option OrderFacts}
    (hb : normaliseOpenTrade beyond selected t = .ok b) : b = none := by
  obtain ⟨within, hw, hb⟩ := ok_of_bind hb
  unfold accountInScope at hw
  split_ifs at hw
  rw [← Except.ok.inj hw, show decide (Text.strip (openTradeAccount t) ∈ selected) = false from h] at hb
  exact (Except.ok.inj hb).symm

lemma openTrade_none {t : Trade} (h : ownTrade selected t = false) (hscoped : Text.strip (openTradeAccount t) ≠ "") :
    normaliseOpenTrade beyond selected t = .ok none := by
  unfold normaliseOpenTrade accountInScope
  rw [if_neg hscoped, show decide (Text.strip (openTradeAccount t) ∈ selected) = false from h]
  rfl

lemma execution_other {x : Fill} (h : ownFill selected x = false) {b : Option ExecutionFacts}
    (hb : normaliseExecution beyond selected x = .ok b) : b = none := by
  obtain ⟨within, hw, hb⟩ := ok_of_bind hb
  unfold accountInScope at hw
  split_ifs at hw
  rw [← Except.ok.inj hw, show decide (Text.strip (executionAccount x) ∈ selected) = false from h] at hb
  exact (Except.ok.inj hb).symm

lemma execution_none {x : Fill} (h : ownFill selected x = false) (hscoped : Text.strip (executionAccount x) ≠ "") :
    normaliseExecution beyond selected x = .ok none := by
  unfold normaliseExecution accountInScope
  rw [if_neg hscoped, show decide (Text.strip (executionAccount x) ∈ selected) = false from h]
  rfl

lemma cash_perm {cash : List CashFacts} (h : SameBook selected r r')
    (hf : sift (fun c => (normaliseCashBalance beyond selected c).map some) r.cashBalances = .ok cash) :
    ∃ cash', sift (fun c => (normaliseCashBalance beyond selected c).map some) r'.cashBalances = .ok cash' ∧ cash.Perm cash' := by
  have hread : ∀ c ∈ r.cashBalances, normaliseCashBalance beyond selected c = cashOf beyond selected (selectedBalance c) := by
    intro c hc
    refine normaliseCashBalance_eq fun hs => ?_
    obtain ⟨b, hb⟩ := (sift_eq_ok_iff.mp hf).1 c hc
    cases hn : normaliseCashBalance beyond selected c with
    | error e =>
      rw [hn] at hb
      cases hb
    | ok x =>
      unfold normaliseCashBalance at hn
      rw [hs] at hn
      obtain ⟨d, hd, -⟩ := ok_of_bind (x := numericTags _ []) hn
      exact ⟨d, hd⟩
  have hread' : ∀ c ∈ r'.cashBalances, normaliseCashBalance beyond selected c = cashOf beyond selected (selectedBalance c) :=
    fun c hc => normaliseCashBalance_eq fun _ =>
      numericTags_of_numeric (fun t ht => h.numeric c hc t (List.mem_filter.mp ht).1 (of_decide_eq_true (List.mem_filter.mp ht).2)) []
  rw [sift_congr (g := fun c => (cashOf beyond selected (selectedBalance c)).map some) fun c hc => by rw [hread c hc],
    ← sift_map (g := fun b => (cashOf beyond selected b).map some)] at hf
  rw [sift_congr (g := fun c => (cashOf beyond selected (selectedBalance c)).map some) fun c hc => by rw [hread' c hc],
    ← sift_map (g := fun b => (cashOf beyond selected b).map some)]
  exact sift_perm h.cash hf

lemma factsOf_inv (hf : factsOf beyond selected r = .ok f) : ∃ positions options trades orders executions cash,
    sift (fun p => (normalisePosition beyond p).map some) r.positions = .ok positions ∧
      sift (fun p => (normaliseOptionPosition beyond selected p).map some) r.optionPositions = .ok options ∧
      loadReadOnlyOpenTrades r = .ok trades ∧ sift (normaliseOpenTrade beyond selected) trades = .ok orders ∧
      sift (normaliseExecution beyond selected) r.fills = .ok executions ∧
      sift (fun c => (normaliseCashBalance beyond selected c).map some) r.cashBalances = .ok cash ∧
      f = ⟨positions.map .inl ++ options.map .inr, orders, executions, cash⟩ := by
  obtain ⟨positions, hpositions, hf⟩ := ok_of_bind hf
  obtain ⟨options, hoptions, hf⟩ := ok_of_bind hf
  obtain ⟨trades, htrades, hf⟩ := ok_of_bind hf
  obtain ⟨orders, horders, hf⟩ := ok_of_bind hf
  obtain ⟨executions, hexecutions, hf⟩ := ok_of_bind hf
  obtain ⟨cash, hcash, hf⟩ := ok_of_bind hf
  exact ⟨positions, options, trades, orders, executions, cash, hpositions, hoptions, htrades, horders, hexecutions, hcash,
    (Except.ok.inj hf).symm⟩

lemma factsOf_same (h : SameBook selected r r') (hf : factsOf beyond selected r = .ok f) :
    ∃ f', factsOf beyond selected r' = .ok f' ∧ f.Same f' := by
  obtain ⟨positions, options, trades, orders, executions, cash, hpositions, hoptions, htrades, horders, hexecutions, hcash, rfl⟩ :=
    factsOf_inv hf
  obtain ⟨positions', hpositions', hpp⟩ := sift_perm h.positions hpositions
  obtain ⟨options', hoptions', hop⟩ := sift_perm h.options hoptions
  obtain ⟨ts, ts', hts, hts', htp, htscoped⟩ := h.trades
  obtain rfl := Except.ok.inj (htrades.symm.trans hts)
  obtain ⟨orders', horders', hrp⟩ := sift_filter_perm (fun t _ ho b hb => openTrade_other ho hb)
    (fun t ht ho => openTrade_none ho (htscoped t ht)) htp horders
  obtain ⟨executions', hexecutions', hep⟩ := sift_filter_perm (fun x _ ho b hb => execution_other ho hb)
    (fun x hx ho => execution_none ho (h.accounted x hx)) h.fills hexecutions
  obtain ⟨cash', hcash', hcp⟩ := cash_perm h hcash
  refine ⟨⟨positions'.map .inl ++ options'.map .inr, orders', executions', cash'⟩, ?_, ?_⟩
  · unfold factsOf
    rw [hpositions']
    change (sift _ r'.optionPositions).bind _ = _
    rw [hoptions']
    change (loadReadOnlyOpenTrades r').bind _ = _
    rw [hts']
    change (sift _ ts').bind _ = _
    rw [horders']
    change (sift _ r'.fills).bind _ = _
    rw [hexecutions']
    change (sift _ r'.cashBalances).bind _ = _
    rw [hcash']
    rfl
  · exact ⟨(hpp.map _).append (hop.map _), hcp, hrp, hep⟩

end Runs

end IbkrPlatform.Reconciliation.Observations
