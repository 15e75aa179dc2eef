import IbkrPlatform.FlexDaily.Forward
import IbkrPlatform.FlexDaily.Strptime
import IbkrPlatform.Library.Dictionary
import IbkrPlatform.Library.EarlyExit

/-! The structural checks of one report, and its residuals in a decimal context of fifty digits. -/

namespace IbkrPlatform.FlexDaily.Report

open Library EarlyExit Forward Strptime

inductive Element
  | node (tag : String) (attrib : Attributes) (children : List Element)

namespace Element

def tag : Element → String
  | node tag _ _ => tag

def attrib : Element → Attributes
  | node _ attrib _ => attrib

def children : Element → List Element
  | node _ _ children => children

def get (e : Element) (name : String) : Option String := e.attrib.lookup name

def findall (e : Element) (tag : String) : List Element := e.children.filter fun c => c.tag = tag

def find (e : Element) (tag : String) : Option Element := (e.findall tag).head?

/-- `findall('./section/tag')`. -/
def rows (e : Element) (child tag : String) : List Element := (e.findall child).flatMap fun c => c.findall tag

mutual

def iter : Element → List Element
  | node tag attrib children => node tag attrib children :: iterAll children

def iterAll : List Element → List Element
  | [] => []
  | e :: es => iter e ++ iterAll es

end

end Element

def residualContext : Context := ⟨50, 999999, -999999, by decide⟩

section Arithmetic

variable (c : Context)

/-- The result of a decimal operation; an overflow raises `decimal.Overflow`, which is no `ValueError`. -/
def raising : Option Library.Decimal → Except Fault Library.Decimal
  | some d => .ok d
  | none => .error .overflow

/-- `sum(…, start)` over numbers that are read one by one. -/
def sumFrom (start : Library.Decimal) : List (Option Library.Decimal) → Except Fault Library.Decimal
  | [] => .ok start
  | none :: _ => .error .valueError
  | some d :: xs => (raising (c.add start d)).bind fun s => sumFrom s xs

structure Operands where
  closing : Option Library.Decimal
  opening : Option Library.Decimal
  changes : Option (List (Option Library.Decimal))

def Operands.compute (x : Operands) : Except Fault Library.Decimal :=
  match x.closing, x.opening with
  | some a, some b => (raising (c.sub a b)).bind fun d =>
    match x.changes with
    | none => .ok d
    | some changes => (sumFrom c Library.Decimal.zero changes).bind fun s => raising (c.sub d s)
  | _, _ => .error .valueError

end Arithmetic

section Tables

def fieldTable : List (String × String × List String) :=
  [("OpenPositions", "OpenPosition", ["conid", "currency", "position", "levelOfDetail", "reportDate"]),
    ("Trades", "Trade", ["conid", "currency", "quantity", "tradeID", "originalTradeID", "levelOfDetail", "reportDate"]),
    ("Transfers", "Transfer", ["conid", "currency", "quantity", "transactionID", "direction", "date"]),
    ("TradeTransfers", "TradeTransfer", ["conid", "currency", "quantity", "tradeID", "originalTradeID", "direction"]),
    ("UnsettledTransfers", "UnsettledTransfer", ["conid", "currency", "quantity", "transactionID", "stage"]),
    ("CorporateActions", "CorporateAction", ["conid", "currency", "quantity", "transactionID", "reportDate"]),
    ("CashReport", "CashReportCurrency", ["currency", "startingCash", "endingCash", "fromDate", "toDate"]),
    ("CashTransactions", "CashTransaction", ["currency", "amount", "type", "dateTime", "transactionID"]),
    ("StmtFunds", "StatementOfFundsLine", ["currency", "amount", "activityCode", "date", "transactionID"]),
    ("InterestAccruals", "InterestAccrualsCurrency", ["currency", "fromDate", "toDate", "startingAccrualBalance",
      "interestAccrual", "accrualReversal", "endingAccrualBalance"]),
    ("OpenDividendAccruals", "OpenDividendAccrual", ["conid", "currency", "quantity", "grossAmount", "netAmount", "tax",
      "fee"]),
    ("ChangeInDividendAccruals", "ChangeInDividendAccrual", ["conid", "currency", "quantity", "grossAmount", "netAmount",
      "tax", "fee", "code"]),
    ("EquitySummaryInBase", "EquitySummaryByReportDateInBase", ["currency", "reportDate", "total"]),
    ("ConversionRates", "ConversionRate", ["fromCurrency", "toCurrency", "rate", "reportDate"])]

def numbers : List String :=
  ["position", "quantity", "amount", "startingCash", "endingCash", "startingAccrualBalance", "interestAccrual",
    "accrualReversal", "endingAccrualBalance", "grossAmount", "netAmount", "tax", "fee", "total", "rate"]

def balanceSections : List String := ["CashReport", "EquitySummaryInBase", "InterestAccruals", "ConversionRates"]

def cashFields : List String :=
  ["clientFees", "commissions", "billableCommissions", "depositWithdrawals", "accountTransfers", "linkingAdjustments",
    "internalTransfers", "debitCardActivity", "billPay", "dividends", "brokerInterest", "bondInterest",
    "cashSettlingMtm", "netTradesSales", "netTradesPurchases", "otherFees", "advisorFees", "feesReceivables",
    "paymentInLieu", "transactionTax", "taxReceivables", "withholdingTax", "withholding871m", "fxTranslationGainLoss",
    "salesTax", "billableSalesTax", "brokerFees", "carbonCredits", "cfdCharges", "commissionCreditsRedemption",
    "donations", "excessFundSweep", "insuredDepositInterest", "ipoSubscription", "other", "otherIncome",
    "paxosTransfers", "realizedForexVm", "realizedVm", "referralFee", "withholdingCollectedTax",
    "slbNetSecuritiesLentActivity"]

def navFields : List String :=
  ["mtm", "depositsWithdrawals", "internalCashTransfers", "assetTransfers", "dividends", "withholdingTax",
    "withholding871m", "changeInDividendAccruals", "interest", "changeInInterestAccruals", "advisorFees", "clientFees",
    "otherFees", "feesReceivables", "commissions", "commissionReceivables", "transactionTax", "taxReceivables",
    "salesTax", "softDollars", "netFxTrading", "fxTranslation", "linkingAdjustments", "other", "billPay",
    "billableSalesTax", "brokerFees", "carbonCredits", "changeInBrokerFeeAccruals", "changeInCGTWithholdingAccruals",
    "changeInIncentiveCouponAccruals", "changeInLiteSurchargeAccruals", "commissionCreditsRedemption",
    "commissionsAtPaxos", "corporateActionProceeds", "costAdjustments", "debitCardActivity", "donations",
    "excessFundSweep", "grantActivity", "mtmAtPaxos", "otherIncome", "paxosTransfers", "referralFee",
    "transferredPnlAdjustments", "withholdingTaxCollected"]

def navOverlaps : List String := ["realized", "changeInUnrealized", "forexCommissions"]

def navKnown : List String :=
  navFields ++ ["accountId", "model", "currency", "fromDate", "toDate", "startingValue", "endingValue", "twr"] ++
    navOverlaps

end Tables

section Scope

/-- `require_account_scope`; `none` is a `ReportScopeError`. -/
def requireAccountScope (root : Element) (accounts : List (String × String)) : Option (List (String × Element)) :=
  let known (account : Option String) : Bool := account.any fun a => (accounts.lookup a).isSome
  if root.tag ≠ "FlexQueryResponse" ∨ root.get "type" ≠ some "AF" then none
  else
    let statements := root.rows "FlexStatements" "FlexStatement"
    let ids := statements.map fun s => s.get "accountId"
    if ids = [] ∨ ¬ ids.Nodup ∨ ids.any (fun id => !known id) then none
    else if root.iter.any fun row => truthy (row.get "accountId") && !known (row.get "accountId") then none
    else some (statements.map fun s => ((s.get "accountId").getD "", s))

end Scope

section Structure

def undashed (text : String) : String := String.ofList (text.toList.filter (· ≠ '-'))

def states (row : Element) (field : String) (day : Day) : Bool := undashed ((row.get field).getD "") = undashed (isoText day)

def rowDateIssues (start stop : Day) (section_ : String) (row : Element) (field : String) : List String :=
  match row.get field with
  | none => []
  | some text =>
    match strptime none text.toList with
    | none => ["row_date_invalid:" ++ section_]
    | some day => if start ≤ day ∧ day ≤ stop then [] else ["row_period_mismatch:" ++ section_]

def rowIssues (start stop : Day) (section_ : String) (fields : List String) (row : Element) : List String :=
  (if (fields.filter fun f => f ∈ ["currency", "conid", "levelOfDetail", "fromCurrency", "toCurrency"]).any fun f =>
      blank ((row.get f).getD "") then ["identity_field_empty:" ++ section_] else []) ++
  ["reportDate", "fromDate", "toDate"].flatMap (rowDateIssues start stop section_ row) ++
  (if section_ = "OpenPositions" ∧ !states row "reportDate" stop then ["position_snapshot_date_mismatch"] else []) ++
  (if (fields.filter fun f => f ∈ numbers).any fun f => (number row.attrib f).isNone then
      ["numeric_invalid:" ++ section_] else []) ++
  (if section_ = "OpenPositions" ∧ row.get "levelOfDetail" ≠ some "SUMMARY" then ["position_level_invalid"] else []) ++
  (if section_ = "Trades" ∧ (row.get "levelOfDetail" ≠ some "EXECUTION" ∨ truthy (row.get "originalTradeID")) then
      ["trade_level_or_correction_requires_review"] else [])

def identity (row : Element) : Option String :=
  ([row.get "tradeID", row.get "transactionID"].filterMap id).find? (· ≠ "")

def rowsIssues (start stop : Day) (section_ tag : String) (fields : List String) (seen : List String) :
    List Element → List String
  | [] => []
  | row :: rows =>
    if row.tag ≠ tag ∨ !row.children.isEmpty ∨ fields.any fun f => (row.get f).isNone then
      ("field_or_shape_missing:" ++ section_) :: rowsIssues start stop section_ tag fields seen rows
    else
      rowIssues start stop section_ fields row ++
        (if (identity row).any fun id => id ∈ seen then ["duplicate_identity:" ++ section_] else []) ++
        rowsIssues start stop section_ tag fields ((identity row).toList ++ seen) rows

def sectionIssues (start stop : Day) (configured : List String) (statement : Element)
    (entry : String × String × List String) : List String :=
  match statement.findall entry.1 with
  | [container] =>
    if entry.1 ∉ configured then ["section_missing_or_unconfigured:" ++ entry.1]
    else (if container.children.isEmpty ∧ entry.1 ∈ balanceSections then ["balance_rows_missing:" ++ entry.1] else []) ++
      rowsIssues start stop entry.1 entry.2.1 entry.2.2 [] container.children
  | _ => ["section_missing_or_unconfigured:" ++ entry.1]

def navIssues (start stop : Day) (configured : List String) (statement : Element) : List String :=
  match statement.findall "ChangeInNAV" with
  | [nav] =>
    if "ChangeInNAV" ∉ configured then ["section_missing_or_unconfigured:ChangeInNAV"]
    else if !states nav "fromDate" start ∨ !states nav "toDate" stop ∨ !truthy (nav.get "currency") then
      ["nav_period_or_currency_unqualified"]
    else []
  | _ => ["section_missing_or_unconfigured:ChangeInNAV"]

def structuralIssues (start stop : Day) (configured : List String) (statement : Element) : List String :=
  (if isStamp ((statement.get "whenGenerated").getD "").toList then [] else ["generation_format_unqualified"]) ++
    fieldTable.flatMap (sectionIssues start stop configured statement) ++ navIssues start stop configured statement

def inPeriod (start stop : Day) (account : String) (statement : Element) : Bool :=
  states statement "fromDate" start && states statement "toDate" stop && !truthy (statement.get "model") &&
    truthy (statement.get "whenGenerated") &&
    statement.iter.all fun row => row.get "accountId" ∈ [none, some "", some account] && !truthy (row.get "model")

end Structure

section Residuals

inductive ResidualKey
  | cash (index : ℕ)
  | cashFunds (index : ℕ)
  | nav
  | cashOpening (index : ℕ)
  | quantityObserved (index : ℕ)
  | navOpening
deriving DecidableEq

def ResidualKey.text : ResidualKey → String
  | .cash i => s!"cash_{i}"
  | .cashFunds i => s!"cash_funds_{i}"
  | .nav => "nav"
  | .cashOpening i => s!"cash_opening_{i}"
  | .quantityObserved i => s!"quantity_observed_{i}"
  | .navOpening => "nav_opening"

abbrev Residuals := List (ResidualKey × Library.Decimal)

def enumeratedCash (statement : Element) : List (Element × ℕ) := (statement.rows "CashReport" "CashReportCurrency").zipIdx

def cashOperands (row : Element) : Operands :=
  ⟨number row.attrib "endingCash", number row.attrib "startingCash", some (cashFields.map (number row.attrib))⟩

def fundsOf (funds : Element) (currency : Option String) : List Element :=
  funds.children.filter fun r => r.get "currency" = currency

def fundsOperands (funds row : Element) : Operands :=
  ⟨number row.attrib "endingCash", number row.attrib "startingCash",
    some ((fundsOf funds (row.get "currency")).map fun r => number r.attrib "amount")⟩

def navQualified (nav : Element) : Bool :=
  (navOverlaps.all fun k => (number nav.attrib k).any fun d => d.coefficient = 0) && nav.attrib.all fun a => a.1 ∈ navKnown

def navOperands (nav : Element) : Operands :=
  ⟨if navQualified nav then number nav.attrib "endingValue" else none, number nav.attrib "startingValue",
    some (navFields.map (number nav.attrib))⟩

def residuals (configured : List String) (statement : Element) : List (ResidualKey × Operands) :=
  ((enumeratedCash statement).map fun x => (.cash x.2, cashOperands x.1)) ++
    (match statement.find "StmtFunds" with
      | some funds => if "StmtFunds" ∈ configured then
          ((enumeratedCash statement).filter fun x => x.1.get "currency" ≠ some "BASE_SUMMARY").map fun x =>
            (.cashFunds x.2, fundsOperands funds x.1)
        else []
      | none => []) ++
    match statement.find "ChangeInNAV" with
    | some nav => [(.nav, navOperands nav)]
    | none => []

def publish (c : Context) : List (ResidualKey × Operands) → Except Fault (Residuals × Bool)
  | [] => .ok ([], false)
  | (k, x) :: rest =>
    match x.compute c with
    | .ok d => (publish c rest).bind fun r => .ok ((k, d) :: r.1, r.2)
    | .error .valueError => .ok ([], true)
    | .error .overflow => .error .overflow

end Residuals

section Bridges

/-- `balances`, after the balances collected before; `none` is a `ValueError`. -/
def balancesFrom (section_ key amount : String) (result : List (String × Library.Decimal)) :
    List Element → Option (List (String × Library.Decimal))
  | [] => some result
  | row :: rows =>
    let id := (row.get key).getD ""
    if id = "" ∨ (result.lookup id).isSome ∨ section_ = "OpenPositions" ∧ row.get "levelOfDetail" ≠ some "SUMMARY" then none
    else (number row.attrib amount).bind fun d => balancesFrom section_ key amount (result ++ [(id, d)]) rows

def balances (statement : Element) (section_ tag key amount : String) : Option (List (String × Library.Decimal)) :=
  (statement.find section_).bind fun container => balancesFrom section_ key amount [] (container.findall tag)

def cashOpenings (opening : List (String × Library.Decimal)) (current : Element) : List (ResidualKey × Operands) :=
  (enumeratedCash current).map fun x =>
    let balance := (x.1.get "currency").bind fun currency => opening.lookup currency
    (.cashOpening x.2, ⟨balance.bind fun _ => number x.1.attrib "startingCash", balance, none⟩)

def computeAll (c : Context) : List (ResidualKey × Operands) → Except Fault Residuals
  | [] => .ok []
  | (k, x) :: rest => (x.compute c).bind fun d => (computeAll c rest).bind fun ds => .ok ((k, d) :: ds)

def quantity (quantities : List (String × Library.Decimal)) (conid : String) : Library.Decimal :=
  (quantities.lookup conid).getD Library.Decimal.zero

def quantitySections : List (String × String × String) :=
  [("Trades", "Trade", "tradeID"), ("Transfers", "Transfer", "transactionID"),
    ("TradeTransfers", "TradeTransfer", "tradeID"), ("CorporateActions", "CorporateAction", "transactionID")]

/-- The rows that may move a position with their section and identity field; `none` stands for a missing section. -/
def quantityRows (current : Element) : List (Option (String × String × Element)) :=
  quantitySections.flatMap fun s =>
    match current.find s.1 with
    | none => [none]
    | some container => (container.findall s.2.1).map fun row => some (s.1, s.2.2, row)

/-- The movements as they are read, after the identities seen; nothing is read after the first `ValueError`. -/
def quantityReads (seen : List (String × String)) :
    List (Option (String × String × Element)) → List (Option (String × Library.Decimal))
  | [] => []
  | none :: _ => [none]
  | some (section_, identityField, row) :: rest =>
    if row.get "assetCategory" = some "CASH" then quantityReads seen rest
    else
      let id := (row.get identityField).getD ""
      let conid := (row.get "conid").getD ""
      if id = "" ∨ (identityField, id) ∈ seen ∨ truthy (row.get "originalTradeID") ∨
          section_ = "Trades" ∧ row.get "levelOfDetail" ≠ some "EXECUTION" ∨ conid = "" then [none]
      else
        match number row.attrib "quantity" with
        | none => [none]
        | some d => some (conid, d) :: quantityReads ((identityField, id) :: seen) rest

def movementsFrom (c : Context) (quantities : List (String × Library.Decimal)) :
    List (Option (String × Library.Decimal)) → Except Fault (List (String × Library.Decimal))
  | [] => .ok quantities
  | none :: _ => .error .valueError
  | some (conid, d) :: rest => (raising (c.add (quantity quantities conid) d)).bind fun total =>
      movementsFrom c (Dictionary.put conid total quantities) rest

def conids (before after movements : List (String × Library.Decimal)) : List String :=
  ((before ++ after ++ movements).map Prod.fst).eraseDups.insertionSort (· ≤ ·)

def quantitiesObserved (c : Context) (before after movements : List (String × Library.Decimal)) :
    List (String × ℕ) → Except Fault Residuals
  | [] => .ok []
  | (conid, i) :: rest => (raising (c.sub (quantity after conid) (quantity before conid))).bind fun d =>
      (raising (c.sub d (quantity movements conid))).bind fun r =>
        (quantitiesObserved c before after movements rest).bind fun ds => .ok ((.quantityObserved i, r) :: ds)

def navOpening (previous current : Element) : List (ResidualKey × Operands) :=
  match previous.find "ChangeInNAV", current.find "ChangeInNAV" with
  | some old, some new => [(.navOpening, ⟨number new.attrib "startingValue", number old.attrib "endingValue", none⟩)]
  | _, _ => []

def reading {α : Type} : Option α → Except Fault α
  | some a => .ok a
  | none => .error .valueError

def openingBridges (c : Context) (previous current : Element) : Except Fault Residuals :=
  (reading (balances previous "CashReport" "CashReportCurrency" "currency" "endingCash")).bind fun opening =>
  (computeAll c (cashOpenings opening current)).bind fun cash =>
  (reading (balances previous "OpenPositions" "OpenPosition" "conid" "position")).bind fun before =>
  (reading (balances current "OpenPositions" "OpenPosition" "conid" "position")).bind fun after =>
  (movementsFrom c [] (quantityReads [] (quantityRows current))).bind fun movements =>
  (quantitiesObserved c before after movements (conids before after movements).zipIdx).bind fun quantities =>
  (computeAll c (navOpening previous current)).bind fun nav => .ok (cash ++ quantities ++ nav)

end Bridges

section Inspect

structure Inspected where
  checked : Checked
  residuals : Residuals

def Inspected.missing : Inspected := ⟨⟨.missing, ["account_missing"], .partial_⟩, []⟩

def previousStatement (start : Day) (account : String) (previousRoot : Option Element) : Option Element :=
  previousRoot.bind fun root => (root.rows "FlexStatements" "FlexStatement").find? fun s =>
    s.get "accountId" = some account ∧ undashed ((s.get "toDate").getD "") = compactText (start - 1)

def bridged (c : Context) (previous : Option Element) (statement : Element) : Except Fault (Residuals × Bool) :=
  match previous with
  | none => .ok ([], false)
  | some previous =>
    match openingBridges c previous statement with
    | .ok residuals => .ok (residuals, false)
    | .error .valueError => .ok ([], true)
    | .error .overflow => .error .overflow

def conclude (issues : List String) (residuals : Residuals) : Inspected where
  checked :=
    { status := if issues = [] then .complete else .received
      issues := issues.dedup.insertionSort (· ≤ ·)
      reconciliation := if residuals.any fun r => r.2.coefficient ≠ 0 then .difference else .partial_ }
  residuals := residuals

def inspectStatement (c : Context) (start stop : Day) (configured : List String) (previousRoot : Option Element)
    (account : String) (statement : Element) : Except Fault Inspected :=
  if !inPeriod start stop account statement then .error .valueError
  else
    (publish c (residuals configured statement)).bind fun own =>
    (bridged c (previousStatement start account previousRoot) statement).bind fun opening =>
    .ok (conclude (structuralIssues start stop configured statement ++
      (if own.2 then ["reconciliation_fields_unqualified"] else []) ++
      (if opening.2 then ["opening_bridge_unqualified"] else [])) (own.1 ++ opening.1))

def inspectStatements (c : Context) (start stop : Day) (accounts : List (String × String)) (configured : List String)
    (previousRoot : Option Element) (results : List (String × Inspected)) :
    List (String × Element) → Except Fault (List (String × Inspected))
  | [] => .ok results
  | (account, statement) :: rest =>
    (inspectStatement c start stop configured previousRoot account statement).bind fun x =>
      inspectStatements c start stop accounts configured previousRoot
        (Dictionary.put ((accounts.lookup account).getD "") x results) rest

def inspectReport (c : Context) (start stop : Day) (accounts : List (String × String)) (configured : List String)
    (previousRoot : Option Element) (root : Element) : Except Fault (List (String × Inspected)) :=
  match requireAccountScope root accounts with
  | none => .error .valueError
  | some statements => inspectStatements c start stop accounts configured previousRoot
      (accounts.foldl (fun d a => Dictionary.put a.2 Inspected.missing d) []) statements

end Inspect

end IbkrPlatform.FlexDaily.Report
