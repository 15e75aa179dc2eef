import Mathlib.Algebra.BigOperators.Group.List.Basic
import Mathlib.Algebra.Order.BigOperators.Group.List
import Mathlib.Algebra.Order.Field.Rat
import Mathlib.Tactic.Ring
import IbkrPlatform.Portfolio.CashSelectors

/-! The portfolio snapshot: what it makes of the positions, the cached marks and the account values of the broker. -/

namespace IbkrPlatform.Portfolio.StrategySnapshot

open Library Reconciliation.Observations EarlyExit CashSelectors

/-- What can end a read: the error of the snapshot, or a number that `float` refuses where nothing guards it. -/
inductive Failure
  | unavailable
  | conversion
deriving DecidableEq

section Reads

/-- A number that `float` refuses is `none`; a strike that is missing reads as zero. -/
structure Contract where
  secType : String
  conId : String
  symbol : String
  localSymbol : String
  lastTradeDateOrContractMonth : String
  right : String
  strike : Option Extended
  currency : String
deriving DecidableEq

structure RawPosition where
  account : String
  contract : Contract
  position : Option Extended
  avgCost : Option Extended
deriving DecidableEq

structure PortfolioItem where
  account : String
  secType : String
  conId : String
  currency : String
  marketValue : Option Extended
  position : Option Extended
deriving DecidableEq

/-- `portfolio` is `none` where the call is missing or fails. -/
structure Reads where
  portfolio : Option (List PortfolioItem)
  positions : List RawPosition
  accountValues : List AccountValue

end Reads

structure Mark where
  marketValue : ℚ
  quantity : ℚ
  currency : String
deriving DecidableEq

structure Identity where
  accountId : String
  conId : String
deriving DecidableEq

structure Position where
  symbol : String
  quantity : ℚ
  marketValue : ℚ
  averageCost : Option ℚ
  currency : String
  accountId : Option String
deriving DecidableEq

structure OptionRow where
  underlier : String
  localSymbol : String
  expiration : String
  right : String
  strike : Extended
  quantity : ℚ
  averageCost : ℚ
  costBasis : ℚ
  accountId : Option String
  currency : String
deriving DecidableEq

structure PortfolioSnapshot where
  totalEquity : Extended
  buyingPower : Extended
  positions : List Position
  optionPositions : List OptionRow
  marketCurrencyCash : Option Extended
deriving DecidableEq

section Marks

variable (beyond : Char → List Char) (selected : List String)

def markOf (item : PortfolioItem) : Except Failure (Option (Identity × Mark)) :=
  if upperText beyond item.secType ≠ "STK" then .ok none
  else if !matchesAccount (accountOf item.account) selected then .ok none
  else if Text.strip item.account = "" ∨ Text.strip item.conId = "" ∨ Text.strip item.conId = "0" then .error .unavailable
  else match item.marketValue, item.position with
    | some (.finite marketValue), some (.finite quantity) =>
      if upperText beyond item.currency = "" then .error .unavailable
      else .ok (some (⟨Text.strip item.account, Text.strip item.conId⟩, ⟨marketValue, quantity, upperText beyond item.currency⟩))
    | _, _ => .error .unavailable

/-- `market_values_by_account_con_id`. -/
def readMarks : List PortfolioItem → List (Identity × Mark) → Except Failure (List (Identity × Mark))
  | [], marks => .ok marks
  | item :: items, marks =>
    (markOf beyond selected item).bind fun read =>
      match read with
      | none => readMarks items marks
      | some (identity, mark) =>
        if (marks.lookup identity).isSome then .error .unavailable
        else readMarks items (Dictionary.put identity mark marks)

end Marks

section Positions

variable (beyond : Char → List Char) (selected : List String) (marketCurrency : String) (marks : List (Identity × Mark))

/-- `math.isclose` with the tolerances of the join. -/
def isClose (a b : ℚ) : Bool := |a - b| ≤ max (1 / 1000000000 * max |a| |b|) (1 / 1000000000)

def optionRow (raw : RawPosition) (strike : Extended) (quantity averageCost : ℚ) : OptionRow where
  underlier := upperText beyond raw.contract.symbol
  localSymbol := Text.strip raw.contract.localSymbol
  expiration := Text.strip raw.contract.lastTradeDateOrContractMonth
  right := upperText beyond raw.contract.right
  strike := strike
  quantity := quantity
  averageCost := averageCost
  costBasis := |quantity * averageCost|
  accountId := accountOf raw.account
  currency := if upperText beyond raw.contract.currency = "" then marketCurrency else upperText beyond raw.contract.currency

def joinMark (raw : RawPosition) (quantity averageCost : ℚ) (mark : Mark) : Except Failure Position :=
  if mark.currency ≠ upperText beyond raw.contract.currency then .error .unavailable
  else if !isClose quantity mark.quantity then .error .unavailable
  else if upperText beyond raw.contract.symbol = "" then .error .unavailable
  else .ok ⟨upperText beyond raw.contract.symbol, quantity, mark.marketValue, some averageCost,
    upperText beyond raw.contract.currency, accountOf raw.account⟩

def stockPosition (raw : RawPosition) (quantity averageCost : ℚ) : Except Failure Position :=
  if upperText beyond raw.contract.secType ≠ "STK" then .error .unavailable
  else if upperText beyond raw.contract.currency ≠ marketCurrency then .error .unavailable
  else if Text.strip raw.contract.conId = "" ∨ Text.strip raw.contract.conId = "0" then .error .unavailable
  else (marks.lookup ⟨(accountOf raw.account).getD "", Text.strip raw.contract.conId⟩).elim (.error .unavailable)
    (joinMark beyond raw quantity averageCost)

def finitePosition (raw : RawPosition) (quantity averageCost : ℚ) : Except Failure (Option (Position ⊕ OptionRow)) :=
  if upperText beyond raw.contract.secType = "OPT" then
    raw.contract.strike.elim (.error .conversion) fun strike =>
      .ok (some (.inr (optionRow beyond marketCurrency raw strike quantity averageCost)))
  else (stockPosition beyond marketCurrency marks raw quantity averageCost).map fun p => some (.inl p)

def finiteNumbers (raw : RawPosition) : Extended → Extended → Except Failure (Option (Position ⊕ OptionRow))
  | .finite quantity, .finite averageCost => finitePosition beyond marketCurrency marks raw quantity averageCost
  | _, _ => .error .unavailable

/-- One turn of the loop over `positions()`. -/
def readPosition (raw : RawPosition) : Except Failure (Option (Position ⊕ OptionRow)) :=
  if !matchesAccount (accountOf raw.account) selected then .ok none
  else match raw.position, raw.avgCost with
    | some quantity, some averageCost =>
      if quantity = 0 then .ok none else finiteNumbers beyond marketCurrency marks raw quantity averageCost
    | _, _ => .error .unavailable

end Positions

section Aggregation

structure Row where
  quantity : ℚ
  marketValue : ℚ
  weightedCost : ℚ
  absoluteQuantity : ℚ
  currency : String
  accounts : List String
deriving DecidableEq

def Row.start (currency : String) : Row := ⟨0, 0, 0, 0, currency, []⟩

def Row.add (row : Row) (p : Position) : Row where
  quantity := row.quantity + p.quantity
  marketValue := row.marketValue + p.marketValue
  weightedCost := row.weightedCost + p.averageCost.elim 0 fun cost => |p.quantity| * cost
  absoluteQuantity := row.absoluteQuantity + p.averageCost.elim 0 fun _ => |p.quantity|
  currency := row.currency
  accounts := p.accountId.elim row.accounts row.accounts.insert

def Row.position (symbol : String) (row : Row) : Position where
  symbol := symbol
  quantity := row.quantity
  marketValue := row.marketValue
  averageCost := if 0 < row.absoluteQuantity then some (row.weightedCost / row.absoluteQuantity) else none
  currency := row.currency
  accountId := match row.accounts with
    | [account] => some account
    | _ => none

variable (beyond : Char → List Char)

def aggregateRows : List Position → List (String × Row) → Except Failure (List (String × Row))
  | [], rows => .ok rows
  | p :: ps, rows =>
    let row := (rows.lookup (upperText beyond p.symbol)).getD (.start p.currency)
    if row.currency ≠ p.currency then .error .unavailable
    else aggregateRows ps (Dictionary.put (upperText beyond p.symbol) (row.add p) rows)

def aggregateStrategyPositions (positions : List Position) : Except Failure (List Position) :=
  (aggregateRows beyond positions []).map fun rows => rows.map fun entry => entry.2.position entry.1

end Aggregation

section Fetch

variable (beyond : Char → List Char) (selected : List String) (marketCurrency : String)

def inMarket (row : AccountValue) : Bool :=
  matchesAccount (accountOf row.account) selected ∧ upperText beyond row.currency = marketCurrency

def readFunds : List AccountValue → Extended × Option Extended → Except Failure (Extended × Option Extended)
  | [], funds => .ok funds
  | row :: rows, funds =>
    if !inMarket beyond selected marketCurrency row then readFunds rows funds
    else if row.tag = "NetLiquidation" then
      match row.value with
      | some value => readFunds rows (funds.1 + value, funds.2)
      | none => .error .conversion
    else if row.tag = "AvailableFunds" then
      match row.value with
      | some value => readFunds rows (funds.1, some (funds.2.elim value fun total => total + value))
      | none => .error .conversion
    else readFunds rows funds

def positionMarketValues (positions : List Position) : List (String × ℚ) :=
  positions.foldl (fun values p =>
    Dictionary.put (upperText beyond p.symbol) ((values.lookup (upperText beyond p.symbol)).getD 0 + p.marketValue) values) []

variable (computeStrategyTotalEquity : List (String × ℚ) → Extended → Extended)

def snapshotOf (cashOnlyExecution : Bool) (cash : Option Extended) (funds : Extended × Option Extended) (positions : List Position)
    (optionPositions : List OptionRow) : PortfolioSnapshot where
  totalEquity := if cashOnlyExecution then
      computeStrategyTotalEquity (positionMarketValues beyond positions) (cash.getD 0) else funds.1
  buyingPower := if cashOnlyExecution then cash.getD 0 else funds.2.getD (cash.getD 0)
  positions := positions
  optionPositions := optionPositions
  marketCurrencyCash := cash

@[simp] lemma snapshotOf_positions (cashOnlyExecution : Bool) (cash : Option Extended) (funds : Extended × Option Extended)
    (positions : List Position) (optionPositions : List OptionRow) :
    (snapshotOf beyond computeStrategyTotalEquity cashOnlyExecution cash funds positions optionPositions).positions = positions := rfl

def finish (accountIds : Option (List String)) (currency : String) (cashOnlyExecution : Bool) (accountValues : List AccountValue)
    (funds : Extended × Option Extended) (positions : List Position) (optionPositions : List OptionRow) :
    Except Failure PortfolioSnapshot :=
  let selected := normalizedAccountIds accountIds
  let marketCurrency := currencyOrDollar beyond currency
  let cash := portfolioCash beyond accountIds currency accountValues
  if selected ≠ [] ∧ accountValues.all (fun row => !matchesAccount (accountOf row.account) selected) then .error .unavailable
  else if selected ≠ [] ∧ accountValues.all (fun row => !inMarket beyond selected marketCurrency row) then .error .unavailable
  else if cashOnlyExecution ∧ cash = none then .error .unavailable
  else .ok (snapshotOf beyond computeStrategyTotalEquity cashOnlyExecution cash funds positions optionPositions)

def fetchPortfolioSnapshot (accountIds : Option (List String)) (currency : String) (cashOnlyExecution : Bool) (reads : Reads) :
    Except Failure PortfolioSnapshot :=
  let selected := normalizedAccountIds accountIds
  let marketCurrency := currencyOrDollar beyond currency
  match reads.portfolio with
  | none => .error .unavailable
  | some items =>
    (readMarks beyond selected items []).bind fun marks =>
    (sift (readPosition beyond selected marketCurrency marks) reads.positions).bind fun rows =>
    (aggregateStrategyPositions beyond (rows.filterMap Sum.getLeft?)).bind fun positions =>
    (readFunds beyond selected marketCurrency reads.accountValues (0, none)).bind fun funds =>
    finish beyond computeStrategyTotalEquity accountIds currency cashOnlyExecution reads.accountValues funds positions
      (rows.filterMap Sum.getRight?)

end Fetch

section Expected

variable (beyond : Char → List Char) (selected : List String) (marketCurrency : String)

def held (raw : RawPosition) : Bool := matchesAccount (accountOf raw.account) selected ∧ raw.position ≠ some 0

def heldStock (raw : RawPosition) : Bool := held selected raw ∧ upperText beyond raw.contract.secType = "STK"

def heldOption (raw : RawPosition) : Bool := held selected raw ∧ upperText beyond raw.contract.secType = "OPT"

def rowQuantity (raw : RawPosition) : ℚ := (raw.position.bind Extended.finite?).getD 0

def rowCost (raw : RawPosition) : ℚ := (raw.avgCost.bind Extended.finite?).getD 0

def rowSymbol (raw : RawPosition) : String := upperText beyond (upperText beyond raw.contract.symbol)

def identityOf (raw : RawPosition) : Identity := ⟨(accountOf raw.account).getD "", Text.strip raw.contract.conId⟩

def markAt (identity : Identity) (item : PortfolioItem) : Option Mark :=
  if upperText beyond item.secType = "STK" ∧ Text.strip item.account = identity.accountId ∧
      Text.strip item.conId = identity.conId then
    (item.marketValue.bind Extended.finite?).bind fun marketValue =>
    (item.position.bind Extended.finite?).map fun quantity => ⟨marketValue, quantity, upperText beyond item.currency⟩
  else none

def rowMarketValue (items : List PortfolioItem) (raw : RawPosition) : ℚ :=
  ((items.findSome? (markAt beyond (identityOf raw))).map Mark.marketValue).getD 0

def rowOption (raw : RawPosition) : OptionRow :=
  optionRow beyond marketCurrency raw (raw.contract.strike.getD 0) (rowQuantity raw) (rowCost raw)

structure Conserves (accountIds : Option (List String)) (currency : String) (cashOnlyExecution : Bool) (reads : Reads)
    (snapshot : PortfolioSnapshot) : Prop where
  keyed : (snapshot.positions.map Position.symbol).Nodup
  symbols : ∀ symbol, symbol ∈ snapshot.positions.map Position.symbol ↔
    ∃ raw ∈ reads.positions, heldStock beyond (normalizedAccountIds accountIds) raw ∧ rowSymbol beyond raw = symbol
  sums : ∀ p ∈ snapshot.positions,
    let rows := (reads.positions.filter (heldStock beyond (normalizedAccountIds accountIds))).filter
      fun raw => rowSymbol beyond raw = p.symbol
    p.quantity = (rows.map rowQuantity).sum ∧
      p.marketValue = (rows.map (rowMarketValue beyond (reads.portfolio.getD []))).sum ∧
      p.averageCost = some ((rows.map fun raw => |rowQuantity raw| * rowCost raw).sum / (rows.map fun raw => |rowQuantity raw|).sum)
  options : snapshot.optionPositions =
    (reads.positions.filter (heldOption beyond (normalizedAccountIds accountIds))).map
      (rowOption beyond (currencyOrDollar beyond currency))
  equity : cashOnlyExecution = true → ∃ cash, portfolioCash beyond accountIds currency reads.accountValues = some cash ∧
    snapshot.totalEquity = cash + .finite ((reads.positions.filter (heldStock beyond (normalizedAccountIds accountIds))).map
      (rowMarketValue beyond (reads.portfolio.getD []))).sum

def refusesStrike (raw : RawPosition) : Bool :=
  heldOption beyond selected raw ∧ (raw.position.bind Extended.finite?).isSome ∧ (raw.avgCost.bind Extended.finite?).isSome ∧
    raw.contract.strike = none

def refusesFunds (row : AccountValue) : Bool :=
  inMarket beyond selected marketCurrency row ∧ (row.tag = "NetLiquidation" ∨ row.tag = "AvailableFunds") ∧ row.value = none

def Escapes (reads : Reads) : Prop :=
  ∃ items marks, reads.portfolio = some items ∧ readMarks beyond selected items [] = .ok marks ∧
    ((∃ before raw after, reads.positions = before ++ raw :: after ∧
        (∀ x ∈ before, ∃ b, readPosition beyond selected marketCurrency marks x = .ok b) ∧ refusesStrike beyond selected raw) ∨
      (∀ x ∈ reads.positions, ∃ b, readPosition beyond selected marketCurrency marks x = .ok b) ∧
        ∃ row ∈ reads.accountValues, refusesFunds beyond selected marketCurrency row)

end Expected

section Marks

variable {beyond : Char → List Char} {selected : List String} {items : List PortfolioItem}
variable {marks marks' : List (Identity × Mark)} {identity : Identity}

lemma markOf_ok {item : PortfolioItem} {read : Option (Identity × Mark)} (h : markOf beyond selected item = .ok read)
    (hidentity : matchesAccount (accountOf identity.accountId) selected = true) :
    markAt beyond identity item = read.bind fun e => if e.1 = identity then some e.2 else none := by
  unfold markOf at h
  unfold markAt
  split_ifs at h with hstock hmatch hnamed
  · rw [← Except.ok.inj h, if_neg fun hat => hstock hat.1]
    rfl
  · rw [← Except.ok.inj h, if_neg]
    · rfl
    · rintro ⟨-, haccount, -⟩
      have hsame : accountOf identity.accountId = accountOf item.account := by
        unfold accountOf
        rw [← haccount, Text.strip_strip]
      rw [hsame] at hidentity
      simp [hidentity] at hmatch
  · rcases hvalue : item.marketValue with _ | _ | _ | _ <;> rcases hposition : item.position with _ | _ | _ | _ <;>
      simp [hvalue, hposition] at h
  · rcases hvalue : item.marketValue with _ | value | _ | _ <;> rcases hposition : item.position with _ | quantity | _ | _ <;>
      simp only [hvalue, hposition, reduceCtorEq] at h
    rw [← Except.ok.inj h]
    by_cases hsame : Text.strip item.account = identity.accountId ∧ Text.strip item.conId = identity.conId
    · rw [if_pos ⟨not_not.mp hstock, hsame⟩]
      change _ = if _ then _ else _
      rw [if_pos (by rw [hsame.1, hsame.2])]
      rfl
    · rw [if_neg fun hat => hsame hat.2]
      change _ = if _ then _ else _
      rw [if_neg]
      intro heq
      exact hsame ⟨congrArg Identity.accountId heq, congrArg Identity.conId heq⟩

lemma readMarks_lookup (h : readMarks beyond selected items marks = .ok marks')
    (hidentity : matchesAccount (accountOf identity.accountId) selected = true) :
    marks'.lookup identity = (marks.lookup identity).or (items.findSome? (markAt beyond identity)) := by
  induction items generalizing marks with
  | nil =>
    rw [← Except.ok.inj h]
    exact (Option.or_none).symm
  | cons item items ih =>
    obtain ⟨read, hread, h⟩ := ok_of_bind h
    have hat := markOf_ok hread hidentity
    rw [List.findSome?_cons]
    cases read with
    | none =>
      rw [ih h, hat]
      rfl
    | some e =>
      obtain ⟨identity', mark⟩ := e
      simp only at h
      split_ifs at h with hnew
      rw [ih h, hat, Dictionary.lookup_put]
      by_cases hsame : identity = identity'
      · subst hsame
        have hnone : marks.lookup identity = none := Option.not_isSome_iff_eq_none.mp hnew
        rw [if_pos rfl, hnone]
        simp
      · rw [if_neg hsame]
        simp [Ne.symm hsame]

lemma readMarks_error {failure : Failure} (h : readMarks beyond selected items marks = .error failure) : failure = .unavailable := by
  induction items generalizing marks with
  | nil => cases h
  | cons item items ih =>
    rcases error_of_bind h with h | ⟨read, -, h⟩
    · unfold markOf at h
      split_ifs at h
      · exact (Except.error.inj h).symm
      · split at h
        · exact (Except.error.inj h).symm
        · exact (Except.error.inj h).symm
      · split at h
        · cases h
        · exact (Except.error.inj h).symm
    · cases read with
      | none => exact ih h
      | some e =>
        simp only at h
        split_ifs at h
        · exact (Except.error.inj h).symm
        · exact ih h

end Marks

section Rows

variable {beyond : Char → List Char} {selected : List String} {marketCurrency : String} {marks : List (Identity × Mark)}

def heldPosition (beyond : Char → List Char) (marketCurrency : String) (marks : List (Identity × Mark)) (raw : RawPosition) :
    Position :=
  ⟨upperText beyond raw.contract.symbol, rowQuantity raw, ((marks.lookup (identityOf raw)).map Mark.marketValue).getD 0,
    some (rowCost raw), marketCurrency, accountOf raw.account⟩

lemma stockPosition_ok {raw : RawPosition} {p : Position}
    (h : stockPosition beyond marketCurrency marks raw (rowQuantity raw) (rowCost raw) = .ok p) :
    upperText beyond raw.contract.secType = "STK" ∧ p = heldPosition beyond marketCurrency marks raw := by
  unfold stockPosition at h
  split_ifs at h with hstock hcurrency hnamed
  cases hlookup : marks.lookup ⟨(accountOf raw.account).getD "", Text.strip raw.contract.conId⟩ with
  | none =>
    rw [hlookup] at h
    cases h
  | some mark =>
    rw [hlookup, Option.elim_some] at h
    unfold joinMark at h
    split_ifs at h
    have hidentity : marks.lookup (identityOf raw) = some mark := hlookup
    refine ⟨not_not.mp hstock, ?_⟩
    rw [← Except.ok.inj h, heldPosition, hidentity, ← not_not.mp hcurrency]
    rfl

lemma stockPosition_error {raw : RawPosition} {quantity averageCost : ℚ} {failure : Failure}
    (h : stockPosition beyond marketCurrency marks raw quantity averageCost = .error failure) : failure = .unavailable := by
  unfold stockPosition at h
  split_ifs at h
  · exact (Except.error.inj h).symm
  · exact (Except.error.inj h).symm
  · exact (Except.error.inj h).symm
  · cases hlookup : marks.lookup ⟨(accountOf raw.account).getD "", Text.strip raw.contract.conId⟩ with
    | none =>
      rw [hlookup] at h
      exact (Except.error.inj h).symm
    | some mark =>
      rw [hlookup, Option.elim_some] at h
      unfold joinMark at h
      split_ifs at h
      · exact (Except.error.inj h).symm
      · exact (Except.error.inj h).symm
      · exact (Except.error.inj h).symm

lemma readPosition_held {raw : RawPosition} {quantity cost : Extended}
    (hmatch : matchesAccount (accountOf raw.account) selected = true) (hquantity : raw.position = some quantity)
    (hcost : raw.avgCost = some cost) (hzero : quantity ≠ 0) :
    readPosition beyond selected marketCurrency marks raw = finiteNumbers beyond marketCurrency marks raw quantity cost := by
  simp only [readPosition, hmatch, hquantity, hcost, if_neg hzero]
  rfl

lemma readPosition_cases (raw : RawPosition) :
    (held selected raw = false ∧ readPosition beyond selected marketCurrency marks raw = .ok none) ∨
    readPosition beyond selected marketCurrency marks raw = .error .unavailable ∨
    (refusesStrike beyond selected raw = true ∧ readPosition beyond selected marketCurrency marks raw = .error .conversion) ∨
    (heldOption beyond selected raw = true ∧
      readPosition beyond selected marketCurrency marks raw = .ok (some (.inr (rowOption beyond marketCurrency raw)))) ∨
    held selected raw = true ∧ rowQuantity raw ≠ 0 ∧ upperText beyond raw.contract.secType ≠ "OPT" ∧
      readPosition beyond selected marketCurrency marks raw =
        (stockPosition beyond marketCurrency marks raw (rowQuantity raw) (rowCost raw)).map fun p => some (.inl p) := by
  cases hmatch : matchesAccount (accountOf raw.account) selected with
  | false =>
    refine .inl ⟨by simp [held, hmatch], ?_⟩
    rw [readPosition, hmatch]
    rfl
  | true =>
    cases hquantity : raw.position with
    | none =>
      refine .inr (.inl ?_)
      rw [readPosition, hmatch, hquantity]
      rfl
    | some quantity =>
      cases hcost : raw.avgCost with
      | none =>
        refine .inr (.inl ?_)
        rw [readPosition, hmatch, hquantity, hcost]
        rfl
      | some cost =>
        by_cases hzero : quantity = 0
        · refine .inl ⟨by simp [held, hquantity, hzero], ?_⟩
          simp only [readPosition, hmatch, hquantity, hcost, if_pos hzero]
          rfl
        · have hheld : held selected raw = true := by simp [held, hmatch, hquantity, hzero]
          have hread : readPosition beyond selected marketCurrency marks raw = _ := readPosition_held hmatch hquantity hcost hzero
          cases quantity with
          | infinite | nan => exact .inr (.inl hread)
          | finite quantity =>
            cases cost with
            | infinite | nan => exact .inr (.inl hread)
            | finite cost =>
              have hq : rowQuantity raw = quantity := by
                rw [rowQuantity, hquantity]
                rfl
              have hc : rowCost raw = cost := by
                rw [rowCost, hcost]
                rfl
              rw [hread, finiteNumbers, finitePosition, rowOption, hq, hc]
              by_cases hoption : upperText beyond raw.contract.secType = "OPT"
              · rw [if_pos hoption]
                cases hstrike : raw.contract.strike with
                | none =>
                  refine .inr (.inr (.inl ⟨?_, rfl⟩))
                  simp [refusesStrike, heldOption, hheld, hoption, hquantity, hcost, hstrike, Extended.finite?]
                | some strike =>
                  refine .inr (.inr (.inr (.inl ⟨?_, rfl⟩)))
                  simp [heldOption, hheld, hoption]
              · rw [if_neg hoption]
                refine .inr (.inr (.inr (.inr ⟨hheld, fun hq => hzero ?_, hoption, rfl⟩)))
                rw [hq]
                rfl

lemma readPosition_ok {raw : RawPosition} {b : Option (Position ⊕ OptionRow)}
    (h : readPosition beyond selected marketCurrency marks raw = .ok b) :
    (heldStock beyond selected raw = false ∧ heldOption beyond selected raw = false ∧ b = none) ∨
    (heldStock beyond selected raw = false ∧ heldOption beyond selected raw = true ∧
      b = some (.inr (rowOption beyond marketCurrency raw))) ∨
    heldStock beyond selected raw = true ∧ heldOption beyond selected raw = false ∧
      rowQuantity raw ≠ 0 ∧ b = some (.inl (heldPosition beyond marketCurrency marks raw)) := by
  rcases @readPosition_cases beyond selected marketCurrency marks raw with
    ⟨hheld, hread⟩ | hread | ⟨-, hread⟩ | ⟨hoption, hread⟩ | ⟨hheld, hzero, hoption, hread⟩
  · rw [hread] at h
    exact .inl ⟨by simp [heldStock, hheld], by simp [heldOption, hheld], (Except.ok.inj h).symm⟩
  · rw [hread] at h
    cases h
  · rw [hread] at h
    cases h
  · rw [hread] at h
    have hkind : upperText beyond raw.contract.secType = "OPT" := (of_decide_eq_true hoption).2
    exact .inr (.inl ⟨by simp [heldStock, hkind], hoption, (Except.ok.inj h).symm⟩)
  · rw [hread] at h
    cases hstock : stockPosition beyond marketCurrency marks raw (rowQuantity raw) (rowCost raw) with
    | error e =>
      rw [hstock] at h
      cases h
    | ok p =>
      rw [hstock] at h
      obtain ⟨hkind, rfl⟩ := stockPosition_ok hstock
      exact .inr (.inr ⟨by simp [heldStock, hheld, hkind], by simp [heldOption, hoption], hzero, (Except.ok.inj h).symm⟩)

lemma readPosition_conversion_iff {raw : RawPosition} :
    readPosition beyond selected marketCurrency marks raw = .error .conversion ↔ refusesStrike beyond selected raw = true := by
  have hkinds : refusesStrike beyond selected raw = true → held selected raw = true ∧ heldOption beyond selected raw = true ∧
      raw.contract.strike = none ∧ upperText beyond raw.contract.secType = "OPT" := by
    intro h
    simp only [refusesStrike, heldOption, decide_eq_true_eq] at h
    simp [heldOption, h]
  constructor
  · intro h
    rcases @readPosition_cases beyond selected marketCurrency marks raw with
      ⟨-, hread⟩ | hread | ⟨hrefuses, -⟩ | ⟨-, hread⟩ | ⟨-, -, -, hread⟩
    · rw [hread] at h
      cases h
    · rw [hread] at h
      cases h
    · exact hrefuses
    · rw [hread] at h
      cases h
    · rw [hread] at h
      cases hstock : stockPosition beyond marketCurrency marks raw (rowQuantity raw) (rowCost raw) with
      | error e =>
        rw [hstock, stockPosition_error hstock] at h
        cases h
      | ok p =>
        rw [hstock] at h
        cases h
  · intro h
    obtain ⟨hheld, -, hstrike, hkind⟩ := hkinds h
    simp only [refusesStrike, decide_eq_true_eq] at h
    obtain ⟨-, hquantity, hcost, -⟩ := h
    simp only [held, decide_eq_true_eq] at hheld
    cases hq : raw.position with
    | none =>
      rw [hq] at hquantity
      cases hquantity
    | some quantity =>
      cases hc : raw.avgCost with
      | none =>
        rw [hc] at hcost
        cases hcost
      | some cost =>
        rw [hq] at hheld hquantity
        rw [hc] at hcost
        rw [readPosition_held hheld.1 hq hc fun hzero => hheld.2 (congrArg some hzero)]
        cases quantity with
        | infinite | nan => cases hquantity
        | finite quantity =>
          cases cost with
          | infinite | nan => cases hcost
          | finite cost =>
            rw [finiteNumbers, finitePosition, if_pos hkind, hstrike]
            rfl

end Rows

section Sums

variable {beyond : Char → List Char} {selected : List String} {marketCurrency : String} {marks : List (Identity × Mark)}
variable {ps : List Position} {raws : List RawPosition} {rows : List (Position ⊕ OptionRow)}

abbrev symbolKey (beyond : Char → List Char) (p : Position) : String := upperText beyond p.symbol

lemma aggregateRows_eq {rows : List (String × Row)} (hps : ∀ p ∈ ps, p.currency = marketCurrency)
    (hrows : ∀ e ∈ rows, e.2.currency = marketCurrency) :
    aggregateRows beyond ps rows = .ok (ps.foldl (Buckets.bucket (symbolKey beyond) (Row.start marketCurrency) Row.add) rows) := by
  induction ps generalizing rows with
  | nil => rfl
  | cons p ps ih =>
    rw [List.forall_mem_cons] at hps
    have hrow : ((rows.lookup (symbolKey beyond p)).getD (.start marketCurrency)).currency = marketCurrency := by
      cases hlookup : rows.lookup (symbolKey beyond p) with
      | none => rfl
      | some row => exact hrows _ (Dictionary.mem_of_lookup hlookup)
    rw [aggregateRows, hps.1]
    change (if _ then _ else _) = _
    rw [if_neg (not_not.mpr hrow), List.foldl_cons]
    refine ih hps.2 fun e he => ?_
    rcases Dictionary.mem_put he with rfl | he
    · exact hrow
    · exact hrows e he

lemma foldl_add (ps : List Position) (row : Row) :
    (ps.foldl Row.add row).quantity = row.quantity + (ps.map Position.quantity).sum ∧
    (ps.foldl Row.add row).marketValue = row.marketValue + (ps.map Position.marketValue).sum ∧
    (ps.foldl Row.add row).weightedCost =
      row.weightedCost + (ps.map fun p => p.averageCost.elim 0 fun cost => |p.quantity| * cost).sum ∧
    (ps.foldl Row.add row).absoluteQuantity =
      row.absoluteQuantity + (ps.map fun p => p.averageCost.elim 0 fun _ => |p.quantity|).sum := by
  induction ps generalizing row with
  | nil => exact ⟨(add_zero _).symm, (add_zero _).symm, (add_zero _).symm, (add_zero _).symm⟩
  | cons p ps ih =>
    obtain ⟨hquantity, hvalue, hcost, habsolute⟩ := ih (row.add p)
    simp only [List.foldl_cons, List.map_cons, List.sum_cons, ← add_assoc]
    exact ⟨hquantity, hvalue, hcost, habsolute⟩

lemma kept_eq (h : sift (readPosition beyond selected marketCurrency marks) raws = .ok rows) :
    rows.filterMap Sum.getLeft? = (raws.filter (heldStock beyond selected)).map (heldPosition beyond marketCurrency marks) ∧
    rows.filterMap Sum.getRight? = (raws.filter (heldOption beyond selected)).map (rowOption beyond marketCurrency) ∧
    ∀ raw ∈ raws, heldStock beyond selected raw = true → rowQuantity raw ≠ 0 := by
  induction raws generalizing rows with
  | nil =>
    rw [← Except.ok.inj h]
    exact ⟨rfl, rfl, fun raw hraw => (nomatch hraw)⟩
  | cons raw raws ih =>
    obtain ⟨b, hb, h⟩ := ok_of_bind h
    cases hs : sift (readPosition beyond selected marketCurrency marks) raws with
    | error e =>
      rw [hs] at h
      cases h
    | ok rest =>
      rw [hs] at h
      rw [← Except.ok.inj h, List.forall_mem_cons, List.filter_cons, List.filter_cons]
      obtain ⟨hstocks, hoptions, hzeros⟩ := ih hs
      rcases readPosition_ok hb with ⟨hstock, hoption, rfl⟩ | ⟨hstock, hoption, rfl⟩ | ⟨hstock, hoption, hzero, rfl⟩
      · rw [hstock, hoption]
        exact ⟨hstocks, hoptions, fun htrue => (nomatch htrue), hzeros⟩
      · rw [hstock, hoption, if_neg Bool.false_ne_true, if_pos rfl, List.map_cons, ← hstocks, ← hoptions]
        exact ⟨rfl, rfl, fun htrue => (nomatch htrue), hzeros⟩
      · rw [hstock, hoption, if_neg Bool.false_ne_true, if_pos rfl, List.map_cons, ← hstocks, ← hoptions]
        exact ⟨rfl, rfl, fun _ => hzero, hzeros⟩

lemma heldPositions_currency (h : sift (readPosition beyond selected marketCurrency marks) raws = .ok rows) :
    ∀ p ∈ rows.filterMap Sum.getLeft?, p.currency = marketCurrency := by
  intro p hp
  rw [(kept_eq h).1] at hp
  obtain ⟨raw, -, rfl⟩ := List.mem_map.mp hp
  rfl

lemma accountOf_getD (account : String) : accountOf ((accountOf account).getD "") = accountOf account := by
  unfold accountOf
  split_ifs with hempty hstripped hstripped
  · rfl
  · exact absurd (by decide) hstripped
  · change Text.strip (Text.strip account) = "" at hstripped
    rw [Text.strip_strip] at hstripped
    exact absurd hstripped hempty
  · change some (Text.strip (Text.strip account)) = _
    rw [Text.strip_strip]

lemma heldPosition_marketValue {items : List PortfolioItem} (hmarks : readMarks beyond selected items [] = .ok marks)
    {raw : RawPosition} (hheld : heldStock beyond selected raw = true) :
    (heldPosition beyond marketCurrency marks raw).marketValue = rowMarketValue beyond items raw := by
  have hmatch : matchesAccount (accountOf (identityOf raw).accountId) selected = true := by
    rw [identityOf, accountOf_getD]
    simp only [heldStock, held, decide_eq_true_eq] at hheld
    exact hheld.1.1
  change ((marks.lookup (identityOf raw)).map Mark.marketValue).getD 0 = _
  rw [readMarks_lookup hmarks hmatch]
  rfl

end Sums

section Funds

variable {beyond : Char → List Char} {selected : List String} {marketCurrency : String} {rows : List AccountValue}

lemma readFunds_error {funds : Extended × Option Extended} {failure : Failure}
    (h : readFunds beyond selected marketCurrency rows funds = .error failure) :
    failure = .conversion ∧ ∃ row ∈ rows, refusesFunds beyond selected marketCurrency row = true := by
  induction rows generalizing funds with
  | nil => cases h
  | cons row rows ih =>
    have hrest {funds' : Extended × Option Extended} (h : readFunds beyond selected marketCurrency rows funds' = .error failure) :
        failure = .conversion ∧ ∃ r ∈ row :: rows, refusesFunds beyond selected marketCurrency r = true := by
      obtain ⟨hfailure, r, hr, hrefuses⟩ := ih h
      exact ⟨hfailure, r, List.mem_cons_of_mem _ hr, hrefuses⟩
    rw [readFunds] at h
    cases hmarket : inMarket beyond selected marketCurrency row with
    | false =>
      rw [hmarket, if_pos (by decide)] at h
      exact hrest h
    | true =>
      rw [hmarket, if_neg (by decide)] at h
      cases hvalue : row.value with
      | none =>
        rw [hvalue] at h
        split_ifs at h with hnet havailable
        · exact ⟨(Except.error.inj h).symm, row, List.mem_cons_self, by simp [refusesFunds, hmarket, hnet, hvalue]⟩
        · exact ⟨(Except.error.inj h).symm, row, List.mem_cons_self, by simp [refusesFunds, hmarket, havailable, hvalue]⟩
        · exact hrest h
      | some value =>
        rw [hvalue] at h
        split_ifs at h
        · exact hrest h
        · exact hrest h
        · exact hrest h

lemma readFunds_refused (h : ∃ row ∈ rows, refusesFunds beyond selected marketCurrency row = true)
    (funds : Extended × Option Extended) : readFunds beyond selected marketCurrency rows funds = .error .conversion := by
  induction rows generalizing funds with
  | nil =>
    obtain ⟨row, hrow, -⟩ := h
    cases hrow
  | cons row rows ih =>
    rw [readFunds]
    obtain ⟨r, hr, hrefuses⟩ := h
    rcases List.mem_cons.mp hr with rfl | hr
    · simp only [refusesFunds, decide_eq_true_eq] at hrefuses
      obtain ⟨hmarket, htag, hvalue⟩ := hrefuses
      rw [hmarket, if_neg (by decide), hvalue]
      by_cases hnet : r.tag = "NetLiquidation"
      · rw [if_pos hnet]
      · rw [if_neg hnet, if_pos (htag.resolve_left hnet)]
    · have hrest := ih ⟨r, hr, hrefuses⟩
      cases inMarket beyond selected marketCurrency row with
      | false =>
        rw [if_pos (by decide)]
        exact hrest funds
      | true =>
        rw [if_neg (by decide)]
        cases row.value with
        | none =>
          split_ifs
          · rfl
          · rfl
          · exact hrest _
        | some value =>
          split_ifs
          · exact hrest _
          · exact hrest _
          · exact hrest _

end Funds

section Conservation

variable {beyond : Char → List Char} {selected : List String} {marketCurrency : String} {marks : List (Identity × Mark)}
variable {items : List PortfolioItem} {raws : List RawPosition}

def aggregated (beyond : Char → List Char) (marketCurrency : String) (ps : List Position) : List Position :=
  (Buckets.buckets (symbolKey beyond) (Row.start marketCurrency) Row.add ps).map fun e => e.2.position e.1

lemma aggregateStrategyPositions_eq {ps : List Position} (hps : ∀ p ∈ ps, p.currency = marketCurrency) :
    aggregateStrategyPositions beyond ps = .ok (aggregated beyond marketCurrency ps) := by
  rw [aggregateStrategyPositions, aggregateRows_eq hps fun e he => (List.not_mem_nil he).elim]
  rfl

def heldPositions (beyond : Char → List Char) (selected : List String) (marketCurrency : String) (marks : List (Identity × Mark))
    (raws : List RawPosition) : List Position :=
  (raws.filter (heldStock beyond selected)).map (heldPosition beyond marketCurrency marks)

lemma symbols_aggregated (ps : List Position) : (aggregated beyond marketCurrency ps).map Position.symbol =
    (Buckets.buckets (symbolKey beyond) (Row.start marketCurrency) Row.add ps).map Prod.fst := by
  rw [aggregated, List.map_map]
  rfl

lemma mem_symbols_aggregated (ps : List Position) (symbol : String) :
    symbol ∈ (aggregated beyond marketCurrency ps).map Position.symbol ↔ ∃ p ∈ ps, symbolKey beyond p = symbol := by
  rw [symbols_aggregated]
  constructor
  · intro h
    obtain ⟨e, he, rfl⟩ := List.mem_map.mp h
    exact List.mem_map.mp (Buckets.mem_buckets.mp he).1
  · intro h
    refine List.mem_map.mpr ⟨(symbol, Buckets.content (symbolKey beyond) (Row.start marketCurrency) Row.add ps symbol), ?_, rfl⟩
    exact Buckets.mem_buckets.mpr ⟨List.mem_map.mpr h, rfl⟩

lemma filter_heldPositions (symbol : String) :
    (heldPositions beyond selected marketCurrency marks raws).filter (fun p => symbolKey beyond p = symbol) =
      ((raws.filter (heldStock beyond selected)).filter fun raw => rowSymbol beyond raw = symbol).map
        (heldPosition beyond marketCurrency marks) := by
  have hkey (raw : RawPosition) : symbolKey beyond (heldPosition beyond marketCurrency marks raw) = rowSymbol beyond raw := rfl
  rw [heldPositions, List.filter_map]
  refine congrArg _ (List.filter_congr fun raw _ => ?_)
  rw [Function.comp_apply, hkey]

lemma marketValues_eq (hmarks : readMarks beyond selected items [] = .ok marks) {held : List RawPosition}
    (hheld : ∀ raw ∈ held, heldStock beyond selected raw = true) :
    (held.map (heldPosition beyond marketCurrency marks)).map Position.marketValue = held.map (rowMarketValue beyond items) := by
  rw [List.map_map]
  exact List.map_congr_left fun raw hraw => heldPosition_marketValue hmarks (hheld raw hraw)

lemma aggregated_sums (hmarks : readMarks beyond selected items [] = .ok marks)
    (hzeros : ∀ raw ∈ raws, heldStock beyond selected raw = true → rowQuantity raw ≠ 0) {p : Position}
    (hp : p ∈ aggregated beyond marketCurrency (heldPositions beyond selected marketCurrency marks raws)) :
    let rows := (raws.filter (heldStock beyond selected)).filter fun raw => rowSymbol beyond raw = p.symbol
    p.quantity = (rows.map rowQuantity).sum ∧ p.marketValue = (rows.map (rowMarketValue beyond items)).sum ∧
      p.averageCost = some ((rows.map fun raw => |rowQuantity raw| * rowCost raw).sum / (rows.map fun raw => |rowQuantity raw|).sum) := by
  obtain ⟨e, he, rfl⟩ := List.mem_map.mp hp
  obtain ⟨hkey, hcontent⟩ := Buckets.mem_buckets.mp he
  obtain ⟨symbol, row⟩ := e
  change Buckets.content _ _ _ _ symbol = row at hcontent
  intro rows
  have hrows : (heldPositions beyond selected marketCurrency marks raws).filter (fun p => symbolKey beyond p = symbol) =
      rows.map (heldPosition beyond marketCurrency marks) := filter_heldPositions symbol
  have hheld : ∀ raw ∈ rows, raw ∈ raws ∧ heldStock beyond selected raw = true := fun raw hraw =>
    List.mem_filter.mp (List.mem_filter.mp hraw).1
  obtain ⟨hquantity, hvalue, hcost, habsolute⟩ := foldl_add (rows.map (heldPosition beyond marketCurrency marks))
    (Row.start marketCurrency)
  rw [← hrows, show ((heldPositions beyond selected marketCurrency marks raws).filter fun p => symbolKey beyond p = symbol).foldl
    Row.add (Row.start marketCurrency) = row from hcontent, hrows] at hquantity hvalue hcost habsolute
  rw [marketValues_eq hmarks fun raw hraw => (hheld raw hraw).2] at hvalue
  rw [List.map_map] at hquantity hcost habsolute
  have hnonempty : rows ≠ [] := by
    intro hnil
    obtain ⟨q, hq, hsymbol⟩ := List.mem_map.mp hkey
    have hmem : q ∈ (heldPositions beyond selected marketCurrency marks raws).filter (fun p => symbolKey beyond p = symbol) :=
      List.mem_filter.mpr ⟨hq, decide_eq_true hsymbol⟩
    rw [hrows, hnil] at hmem
    cases hmem
  have hpositive : 0 < (rows.map fun raw => |rowQuantity raw|).sum := by
    refine List.sum_pos _ (fun x hx => ?_) (by simpa using hnonempty)
    obtain ⟨raw, hraw, rfl⟩ := List.mem_map.mp hx
    exact abs_pos.mpr (hzeros raw (hheld raw hraw).1 (hheld raw hraw).2)
  have habsolute' : row.absoluteQuantity = (rows.map fun raw => |rowQuantity raw|).sum := habsolute.trans (zero_add _)
  have hcost' : row.weightedCost = (rows.map fun raw => |rowQuantity raw| * rowCost raw).sum := hcost.trans (zero_add _)
  refine ⟨hquantity.trans (zero_add _), hvalue.trans (zero_add _), ?_⟩
  change (if 0 < row.absoluteQuantity then some (row.weightedCost / row.absoluteQuantity) else none) = _
  rw [habsolute', if_pos hpositive, hcost']

lemma aggregated_marketValue (ps : List Position) :
    ((aggregated beyond marketCurrency ps).map Position.marketValue).sum = (ps.map Position.marketValue).sum := by
  rw [aggregated, List.map_map]
  exact Buckets.sum_buckets (f := Row.marketValue) (g := Position.marketValue) rfl (fun _ _ => rfl) ps

lemma positionMarketValues_sum (ps : List Position) :
    ((positionMarketValues beyond ps).map Prod.snd).sum = (ps.map Position.marketValue).sum := by
  change ((Buckets.buckets (symbolKey beyond) (0 : ℚ) (fun value p => value + p.marketValue) ps).map fun e => e.2).sum = _
  exact Buckets.sum_buckets (f := fun v => v) (g := Position.marketValue) rfl (fun _ _ => rfl) ps

end Conservation

section Claim

variable {beyond : Char → List Char} {computeStrategyTotalEquity : List (String × ℚ) → Extended → Extended}

lemma fetch_conserves (hsum : ∀ values cash, computeStrategyTotalEquity values cash = cash + .finite (values.map Prod.snd).sum)
    {accountIds : Option (List String)} {currency : String} {cashOnlyExecution : Bool} {reads : Reads} {items : List PortfolioItem}
    {marks : List (Identity × Mark)} {rows : List (Position ⊕ OptionRow)} {funds : Extended × Option Extended}
    (hitems : reads.portfolio = some items) (hmarks : readMarks beyond (normalizedAccountIds accountIds) items [] = .ok marks)
    (hrows : sift (readPosition beyond (normalizedAccountIds accountIds) (currencyOrDollar beyond currency) marks) reads.positions =
      .ok rows)
    (hfunds : readFunds beyond (normalizedAccountIds accountIds) (currencyOrDollar beyond currency) reads.accountValues (0, none) =
      .ok funds) :
    fetchPortfolioSnapshot beyond computeStrategyTotalEquity accountIds currency cashOnlyExecution reads = .error .unavailable ∨
      ∃ snapshot, fetchPortfolioSnapshot beyond computeStrategyTotalEquity accountIds currency cashOnlyExecution reads =
        .ok snapshot ∧ Conserves beyond accountIds currency cashOnlyExecution reads snapshot := by
  obtain ⟨hstocks, hoptions, hzeros⟩ := kept_eq hrows
  have hcurrency := heldPositions_currency hrows
  have hfetch : fetchPortfolioSnapshot beyond computeStrategyTotalEquity accountIds currency cashOnlyExecution reads =
      finish beyond computeStrategyTotalEquity accountIds currency cashOnlyExecution reads.accountValues funds
        (aggregated beyond (currencyOrDollar beyond currency)
          (heldPositions beyond (normalizedAccountIds accountIds) (currencyOrDollar beyond currency) marks reads.positions))
        (rows.filterMap Sum.getRight?) := by
    simp only [fetchPortfolioSnapshot, hitems, hmarks, Except.bind, hrows, aggregateStrategyPositions_eq hcurrency, hfunds]
    rw [hstocks]
    rfl
  rw [hfetch]
  unfold finish
  extract_lets selected marketCurrency cash
  split_ifs with hvalues hmarket hcash
  · exact .inl rfl
  · exact .inl rfl
  · exact .inl rfl
  · refine .inr ⟨_, rfl, ?_, ?_, ?_, hoptions, ?_⟩
    · rw [snapshotOf_positions, symbols_aggregated]
      exact Buckets.keyed_buckets _
    · intro symbol
      rw [snapshotOf_positions, mem_symbols_aggregated]
      constructor
      · rintro ⟨p, hp, hsymbol⟩
        obtain ⟨raw, hraw, rfl⟩ := List.mem_map.mp hp
        exact ⟨raw, (List.mem_filter.mp hraw).1, (List.mem_filter.mp hraw).2, hsymbol⟩
      · rintro ⟨raw, hraw, hheld, hsymbol⟩
        exact ⟨_, List.mem_map_of_mem (List.mem_filter.mpr ⟨hraw, hheld⟩), hsymbol⟩
    · intro p hp
      rw [snapshotOf_positions] at hp
      rw [hitems]
      exact aggregated_sums hmarks hzeros hp
    · intro honly
      cases hvalue : portfolioCash beyond accountIds currency reads.accountValues with
      | none => exact absurd ⟨honly, hvalue⟩ hcash
      | some total =>
        refine ⟨total, rfl, ?_⟩
        rw [show cash = some total from hvalue, snapshotOf, if_pos honly, hsum, positionMarketValues_sum, aggregated_marketValue, heldPositions,
          marketValues_eq hmarks fun raw hraw => (List.mem_filter.mp hraw).2, hitems]
        rfl

/-- The snapshot is unavailable or conserves what was read exactly when no unguarded number is refused. -/
theorem snapshot_conserves_iff
    (hsum : ∀ values cash, computeStrategyTotalEquity values cash = cash + .finite (values.map Prod.snd).sum)
    (accountIds : Option (List String)) (currency : String) (cashOnlyExecution : Bool) (reads : Reads) :
    (fetchPortfolioSnapshot beyond computeStrategyTotalEquity accountIds currency cashOnlyExecution reads = .error .unavailable ∨
      ∃ snapshot, fetchPortfolioSnapshot beyond computeStrategyTotalEquity accountIds currency cashOnlyExecution reads =
        .ok snapshot ∧ Conserves beyond accountIds currency cashOnlyExecution reads snapshot) ↔
      ¬ Escapes beyond (normalizedAccountIds accountIds) (currencyOrDollar beyond currency) reads := by
  constructor
  · rintro hclaim ⟨items, marks, hitems, hmarks, hescape⟩
    have hconversion : fetchPortfolioSnapshot beyond computeStrategyTotalEquity accountIds currency cashOnlyExecution reads =
        .error .conversion := by
      rcases hescape with ⟨before, raw, after, hpositions, hbefore, hrefuses⟩ | ⟨hread, hfunds⟩
      · have hrows := sift_eq_error_iff.mpr ⟨before, raw, after, hpositions, hbefore, readPosition_conversion_iff.mpr hrefuses⟩
        simp only [fetchPortfolioSnapshot, hitems, hmarks, Except.bind, hrows]
      · have hrows := sift_eq_ok_iff.mpr ⟨hread, rfl⟩
        have hcurrency := heldPositions_currency hrows
        simp only [fetchPortfolioSnapshot, hitems, hmarks, Except.bind, hrows, aggregateStrategyPositions_eq hcurrency,
          readFunds_refused hfunds]
    rcases hclaim with h | ⟨snapshot, h, -⟩
    · rw [hconversion] at h
      cases h
    · rw [hconversion] at h
      cases h
  · intro hescape
    cases hitems : reads.portfolio with
    | none =>
      refine .inl ?_
      rw [fetchPortfolioSnapshot, hitems]
    | some items =>
      cases hmarks : readMarks beyond (normalizedAccountIds accountIds) items [] with
      | error failure =>
        refine .inl ?_
        simp only [fetchPortfolioSnapshot, hitems, hmarks, Except.bind, readMarks_error hmarks]
      | ok marks =>
        cases hrows : sift (readPosition beyond (normalizedAccountIds accountIds) (currencyOrDollar beyond currency) marks)
            reads.positions with
        | error failure =>
          obtain ⟨before, raw, after, hpositions, hbefore, hraw⟩ := sift_eq_error_iff.mp hrows
          cases failure with
          | conversion =>
            exact absurd ⟨items, marks, hitems, hmarks, .inl ⟨before, raw, after, hpositions, hbefore,
              readPosition_conversion_iff.mp hraw⟩⟩ hescape
          | unavailable =>
            refine .inl ?_
            simp only [fetchPortfolioSnapshot, hitems, hmarks, Except.bind, hrows]
        | ok rows =>
          cases hfunds : readFunds beyond (normalizedAccountIds accountIds) (currencyOrDollar beyond currency)
              reads.accountValues (0, none) with
          | error failure =>
            exact absurd ⟨items, marks, hitems, hmarks, .inr ⟨(sift_eq_ok_iff.mp hrows).1, (readFunds_error hfunds).2⟩⟩ hescape
          | ok funds => exact fetch_conserves hsum hitems hmarks hrows hfunds

def cashPlusValues (values : List (String × ℚ)) (cash : Extended) : Extended := cash + .finite (values.map Prod.snd).sum

def apple (account : String) (quantity cost : ℚ) : RawPosition :=
  ⟨account, ⟨"STK", "265598", "AAPL", "AAPL", "", "", some 0, "USD"⟩, some (.finite quantity), some (.finite cost)⟩

def appleItem (account : String) (quantity value : ℚ) : PortfolioItem :=
  ⟨account, "STK", "265598", "USD", some (.finite value), some (.finite quantity)⟩

def sampleReads (netLiquidation : Option Extended) : Reads where
  portfolio := some [appleItem "U1" 10 1900, appleItem "U2" (-4) (-760), appleItem "U3" 5 950]
  positions := [apple "U1" 10 150, apple "U2" (-4) 170, apple "U3" 5 100,
    ⟨"U1", ⟨"OPT", "7", "AAPL", "AAPL  260116C00200000", "20260116", "C", some (.finite 200), "USD"⟩, some (.finite (-1)),
      some (.finite 3)⟩]
  accountValues := [⟨"U1", "USD", "NetLiquidation", netLiquidation⟩, ⟨"U1", "USD", "CashBalance", some (.finite 200)⟩,
    ⟨"U2", "USD", "CashBalance", some (.finite 30)⟩]

theorem snapshot_conserves_iff_sample :
    ∃ snapshot, fetchPortfolioSnapshot (fun c => [c]) cashPlusValues (some ["U1", "U2"]) "USD" true
        (sampleReads (some (.finite 1340))) = .ok snapshot ∧
      Conserves (fun c => [c]) (some ["U1", "U2"]) "USD" true (sampleReads (some (.finite 1340))) snapshot := by
  have hiff := @snapshot_conserves_iff (fun c => [c]) cashPlusValues (fun _ _ => rfl)
    (some ["U1", "U2"]) "USD" true (sampleReads (some (.finite 1340)))
  have hstrikes : ∀ raw ∈ (sampleReads (some (.finite 1340))).positions,
      refusesStrike (fun c => [c]) (normalizedAccountIds (some ["U1", "U2"])) raw = false := by decide
  have hfunds : ∀ row ∈ (sampleReads (some (.finite 1340))).accountValues,
      refusesFunds (fun c => [c]) (normalizedAccountIds (some ["U1", "U2"])) (currencyOrDollar (fun c => [c]) "USD") row = false := by
    decide
  have hescape : ¬ Escapes (fun c => [c]) (normalizedAccountIds (some ["U1", "U2"])) (currencyOrDollar (fun c => [c]) "USD")
      (sampleReads (some (.finite 1340))) := by
    rintro ⟨-, -, -, -, ⟨before, raw, after, hpositions, -, hrefuses⟩ | ⟨-, row, hrow, hrefuses⟩⟩
    · have hraw : raw ∈ (sampleReads (some (.finite 1340))).positions := hpositions ▸ by simp
      rw [hstrikes raw hraw] at hrefuses
      cases hrefuses
    · rw [hfunds row hrow] at hrefuses
      cases hrefuses
  rcases hiff.mpr hescape with herror | h
  · exact absurd herror (by decide +kernel)
  · exact h

theorem net_liquidation_refused :
    ¬ (fetchPortfolioSnapshot (fun c => [c]) cashPlusValues (some ["U1", "U2"]) "USD" true (sampleReads none) =
        .error .unavailable ∨
      ∃ snapshot, fetchPortfolioSnapshot (fun c => [c]) cashPlusValues (some ["U1", "U2"]) "USD" true (sampleReads none) =
        .ok snapshot ∧ Conserves (fun c => [c]) (some ["U1", "U2"]) "USD" true (sampleReads none) snapshot) := by
  have hfetch : fetchPortfolioSnapshot (fun c => [c]) cashPlusValues (some ["U1", "U2"]) "USD" true (sampleReads none) =
      .error .conversion := by decide +kernel
  rw [hfetch]
  rintro (h | ⟨snapshot, h, -⟩)
  · cases h
  · cases h

end Claim

end IbkrPlatform.Portfolio.StrategySnapshot
