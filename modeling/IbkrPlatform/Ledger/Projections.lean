import Mathlib.Data.List.Sort
import Mathlib.Data.String.Basic
import IbkrPlatform.Library.Gather
import IbkrPlatform.Ledger.FlexFields

/-! The projections of one statement onto its executions and its external flows. -/

namespace IbkrPlatform.Ledger.Projections

open FlexDaily (Day Row Statement)
open Library Gather

structure Refusal where
  reason : String
  missing : List String
  invalid : List String
deriving DecidableEq

def Refusal.because (reason : String) : Refusal := ⟨reason, [], []⟩

def firstRefusal (checks : List (Bool × Refusal)) : Option Refusal :=
  checks.findSome? fun c => if c.1 then some c.2 else none

def sections (s : Statement) (name : String) : List (List Row) :=
  (s.children.filter fun c => c.1 = name).map Prod.snd

variable (sha256 : String → String)

section Executions

structure Execution where
  executionRef : String
  reportRef : String
  tradeDate : Day
  localTime : Option ℕ
  symbol : Option String
  assetCategory : Option String
  side : Option String
  quantity : Option String
  price : Option String
  currency : Option String
  commission : Option String
  commissionCurrency : Option String
  taxes : Option String
deriving DecidableEq

def required : List String :=
  ["accountId", "levelOfDetail", "ibExecID", "tradeDate", "buySell", "quantity", "tradePrice", "currency",
    "assetCategory", "symbol"]

def originalFields : List String := ["origTradeID", "origExecID", "origTradeDate", "origTradePrice", "origOrderID"]

/-- `0+(?:\.0+)?`. -/
def isZeros (cs : List Char) : Bool :=
  cs.head? = some '0' &&
    match cs.dropWhile (· = '0') with
    | [] => true
    | '.' :: c :: zeros => (c :: zeros).all (· = '0')
    | _ => false

def correction (row : Row) : Bool :=
  let tokens := ((row.get "notes").getD "").toList.splitOnP fun c => Text.isSpace c || c = ',' || c = ';'
  let original (field : String) : Bool :=
    let value := Text.strip ((row.get field).getD "")
    value ≠ "" ∧ ¬ (isZeros value.toList ∨ value = "0000-00-00")
  (tokens.any fun token => Text.lower token = "ca".toList ∨ Text.lower token = "co".toList) ∨
    originalFields.any original

/-- `_number(raw, fee=True)` where the field is given. -/
def feeInvalid (row : Row) (field : String) : Bool :=
  (present (row.get field)).isSome ∧ (number feeDecimals (row.get field)).isNone

local instance lawfulOptionText : LawfulBEq (Option String) := inferInstance

def executionChecks (account : String) (start stop : Day) (row : Row) : List (Bool × Refusal) :=
  let missing := required.filter fun field => (present (row.get field)).isNone
  let tradeDate := day (row.get "tradeDate")
  let quantity := number amountDecimals (row.get "quantity")
  let price := number amountDecimals (row.get "tradePrice")
  let invalid (field : String) : Refusal := ⟨"execution_fields_invalid", [], [field]⟩
  [(missing ≠ [], ⟨if missing = ["levelOfDetail"] then "execution_level_required" else "execution_fields_missing",
      missing.insertionSort (· ≤ ·), []⟩),
    (row.get "accountId" ≠ some account, .because "execution_account_mismatch"),
    (row.get "levelOfDetail" ≠ some "EXECUTION", .because "execution_level_required"),
    (correction row, .because "execution_correction_unresolved"),
    (!isText (row.get "ibExecID") 256, invalid "ibExecID"),
    (tradeDate.isNone, invalid "tradeDate"),
    (tradeDate.any fun d => ¬ (start ≤ d ∧ d ≤ stop), .because "execution_date_outside_period"),
    ((present (row.get "dateTime")).any fun t => tradeDate.any fun d => (localTime t d).isNone,
      .because "execution_datetime_invalid"),
    (quantity.all fun p => p.decimal.coefficient = 0, invalid "quantity"),
    (price.all fun p => p.negative ∧ p.decimal.coefficient ≠ 0, invalid "tradePrice"),
    (row.get "buySell" ∉ [some "BUY", some "SELL"], invalid "buySell"),
    (!isSymbol (row.get "symbol"), invalid "symbol"),
    (!isAssetCategory (row.get "assetCategory"), invalid "assetCategory"),
    (!isCurrency (row.get "currency"), invalid "currency"),
    (feeInvalid row "ibCommission", invalid "ibCommission"),
    (feeInvalid row "taxes", invalid "taxes"),
    ((present (row.get "ibCommissionCurrency")).isSome ∧ !isCurrency (row.get "ibCommissionCurrency"),
      invalid "ibCommissionCurrency")]

def executionRef (account : String) (row : Row) : String := sha256 (account ++ "|" ++ (row.get "ibExecID").getD "")

def executionOf (account reportRef : String) (row : Row) : Execution where
  executionRef := executionRef sha256 account row
  reportRef := reportRef
  tradeDate := (day (row.get "tradeDate")).getD 0
  localTime := (present (row.get "dateTime")).bind fun t => (day (row.get "tradeDate")).bind (localTime t)
  symbol := row.get "symbol"
  assetCategory := row.get "assetCategory"
  side := row.get "buySell"
  quantity := row.get "quantity"
  price := row.get "tradePrice"
  currency := row.get "currency"
  commission := present (row.get "ibCommission")
  commissionCurrency := present (row.get "ibCommissionCurrency")
  taxes := present (row.get "taxes")

def readExecution (account reportRef : String) (start stop : Day) (row : Row) :
    Except Refusal (Option (String × (Execution × Option String))) :=
  match firstRefusal (executionChecks account start stop row) with
  | some refusal => .error refusal
  | none => .ok (some (executionRef sha256 account row,
      (executionOf sha256 account reportRef row, present (row.get "tradeID"))))

def isHash (value : String) : Bool :=
  matches_ (fun c => c.isDigit || ('a' ≤ c && c ≤ 'f')) (fun c => c.isDigit || ('a' ≤ c && c ≤ 'f')) 63 63 (some value)

def statementAccount (s : Statement) : String := Text.strip ((s.get "accountId").getD "")

def projectFlexExecutions (sourceRef : String) (periodFrom periodTo : Option String) (s : Statement) :
    Except Refusal (List Execution) :=
  match sections s "Trades" with
  | [] => .error (.because "trades_section_missing")
  | [rows] =>
    if rows.any fun row => row.tag ≠ "Trade" then .error (.because "unsupported_trade_rows")
    else
      match day periodFrom, day periodTo with
      | some start, some stop =>
        if stop < start ∨ 366 ≤ stop - start then .error (.because "execution_period_invalid")
        else if !isHash sourceRef then .error (.because "execution_report_reference_invalid")
        else if 10000 < rows.length then .error (.because "execution_record_limit")
        else
          (gather (readExecution sha256 (statementAccount s) sourceRef start stop) (.because "execution_conflict")
            (.because "execution_record_limit") 256 [] rows).map (List.map fun e => e.2.1)
      | _, _ => .error (.because "execution_period_invalid")
  | _ => .error (.because "unsupported_trade_rows")

end Executions

section Flows

inductive FlowType | deposit | withdrawal
deriving DecidableEq

structure Flow where
  currency : String
  sourceRef : String
  type : FlowType
  amount : String
  effectiveDate : Day
  settlementDate : Option Day
deriving DecidableEq

def flowType (row : Row) : Option FlowType :=
  match row.get "activityCode" with
  | some "DEP" => some .deposit
  | some "WITH" => some .withdrawal
  | _ => none

def flowChecks (account : String) (start stop : Day) (kind : FlowType) (row : Row) : List (Bool × Refusal) :=
  let amount := number amountDecimals (row.get "amount")
  [(row.get "accountId" ≠ some account ∨ (present (row.get "model")).isSome ∨ !isText (row.get "transactionID") 256 ∨
      amount.isNone ∨ ((day (row.get "date")).all fun d => ¬ (start ≤ d ∧ d ≤ stop)) ∨
      !isFlowCurrency (row.get "currency") ∨
      (amount.any fun p => p.decimal.coefficient = 0 ∨ decide (kind = .deposit) ≠ !p.negative),
      .because "flow_fields_invalid"),
    ((present (row.get "settleDate")).isSome ∧ (day (row.get "settleDate")).isNone,
      .because "flow_settlement_invalid")]

def flowRef (account : String) (row : Row) : String :=
  sha256 ("ibkr_flex:StmtFunds:" ++ account ++ ":" ++ (row.get "transactionID").getD "")

def flowOf (account : String) (kind : FlowType) (row : Row) : Flow where
  currency := (row.get "currency").getD ""
  sourceRef := flowRef sha256 account row
  type := kind
  amount := (row.get "amount").getD ""
  effectiveDate := (day (row.get "date")).getD 0
  settlementDate := day (present (row.get "settleDate"))

def readFlow (account : String) (start stop : Day) (row : Row) : Except Refusal (Option (String × Flow)) :=
  match flowType row with
  | none => .ok none
  | some kind =>
    match firstRefusal (flowChecks account start stop kind row) with
    | some refusal => .error refusal
    | none => .ok (some (flowRef sha256 account row, flowOf sha256 account kind row))

structure FlowFacts where
  records : List Flow
  start : Day
  stop : Day

def projectFlexExternalFlows (periodFrom periodTo : Option String) (s : Statement) : Except Refusal FlowFacts :=
  match sections s "StmtFunds" with
  | [] => .error (.because "funds_section_missing")
  | [rows] =>
    if rows.any fun row => row.tag ≠ "StatementOfFundsLine" then .error (.because "unsupported_funds_rows")
    else
      match day periodFrom, day periodTo with
      | some start, some stop =>
        if stop < start ∨ 31 ≤ stop - start then .error (.because "flow_period_invalid")
        else
          (gather (readFlow sha256 ((s.get "accountId").getD "") start stop) (.because "flow_identity_conflict")
            (.because "flow_record_limit") 256 [] rows).map fun d => ⟨d.map Prod.snd, start, stop⟩
      | _, _ => .error (.because "flow_period_invalid")
  | _ => .error (.because "unsupported_funds_rows")

end Flows

structure SameRows (name : String) (s s' : Statement) : Prop where
  account : s.get "accountId" = s'.get "accountId"
  sections : (sections s name).length = (Projections.sections s' name).length
  rows : ∀ row, row ∈ s.rows name ↔ row ∈ s'.rows name

lemma SameRows.symm {name : String} {s s' : Statement} (h : SameRows name s s') : SameRows name s' s :=
  ⟨h.account.symm, h.sections.symm, fun row => (h.rows row).symm⟩

lemma rows_eq (s : Statement) (name : String) : s.rows name = (sections s name).flatten := by
  simp [Statement.rows, sections, List.flatMap]

lemma firstRefusal_eq_none {checks : List (Bool × Refusal)} (h : firstRefusal checks = none) :
    ∀ c ∈ checks, c.1 = false := by
  intro c hc
  have hn := List.findSome?_eq_none_iff.mp h c hc
  by_contra ht
  rw [if_pos (by simpa using ht)] at hn
  cases hn

variable {sha256}

section

variable {name : String} {s s' : Statement} {rows rows' : List Row}

lemma SameRows.single (h : SameRows name s s') (hs : Projections.sections s name = [rows]) :
    ∃ rows', Projections.sections s' name = [rows'] ∧ s'.rows name = rows' ∧ ∀ row, row ∈ rows ↔ row ∈ rows' := by
  have hlen := h.sections
  rw [hs] at hlen
  obtain ⟨rows', hs'⟩ := List.length_eq_one_iff.mp hlen.symm
  have hflat : s'.rows name = rows' := by rw [rows_eq, hs', List.flatten_cons, List.flatten_nil, List.append_nil]
  refine ⟨rows', hs', hflat, fun row => ?_⟩
  have hrow := h.rows row
  rwa [rows_eq s, hs, List.flatten_cons, List.flatten_nil, List.append_nil, hflat] at hrow

lemma any_congr {p : Row → Bool} (h : ∀ row, row ∈ rows ↔ row ∈ rows') : rows.any p = rows'.any p := by
  rw [Bool.eq_iff_iff, List.any_eq_true, List.any_eq_true]
  simp only [h]

end

lemma map_ok {α β : Type} {f : α → β} {x : Except Refusal α} {b : β} (h : x.map f = .ok b) :
    ∃ a, x = .ok a ∧ f a = b := by
  cases x with
  | error e => cases h
  | ok a => exact ⟨a, rfl, Except.ok.inj h⟩

section ExecutionRows

variable {sourceRef : String} {periodFrom periodTo : Option String} {s s' : Statement} {records : List Execution}
variable {account : String} {start stop : Day} {row : Row}

lemma readExecution_ok {x : Option (String × (Execution × Option String))}
    (h : readExecution sha256 account sourceRef start stop row = .ok x) :
    (∀ c ∈ executionChecks account start stop row, c.1 = false) ∧ x = some (executionRef sha256 account row,
      (executionOf sha256 account sourceRef row, present (row.get "tradeID"))) := by
  unfold readExecution at h
  split at h
  · cases h
  · rename_i hc
    exact ⟨firstRefusal_eq_none hc, (Except.ok.inj h).symm⟩

lemma projectFlexExecutions_ok
    (h : projectFlexExecutions sha256 sourceRef periodFrom periodTo s = .ok records) :
    ∃ rows start stop d, sections s "Trades" = [rows] ∧ (rows.any fun row => row.tag ≠ "Trade") = false ∧
      day periodFrom = some start ∧ day periodTo = some stop ∧ ¬ (stop < start ∨ 366 ≤ stop - start) ∧
      isHash sourceRef = true ∧
      gather (readExecution sha256 (statementAccount s) sourceRef start stop) (.because "execution_conflict")
        (.because "execution_record_limit") 256 [] rows = .ok d ∧ records = d.map fun e => e.2.1 := by
  unfold projectFlexExecutions at h
  split at h
  · cases h
  · rename_i rows hs
    split at h
    · cases h
    rename_i htag
    split at h
    · rename_i start stop hstart hstop
      split at h
      · cases h
      rename_i hperiod
      split at h
      · cases h
      rename_i hhash
      split at h
      · cases h
      obtain ⟨d, hd, rfl⟩ := map_ok h
      exact ⟨rows, start, stop, d, hs, by simpa using htag, hstart, hstop, hperiod, by simpa using hhash, hd, rfl⟩
    · cases h
  · cases h

lemma projectFlexExecutions_congr (hs : SameRows "Trades" s s') (hlimit : (s'.rows "Trades").length ≤ 10000)
    (h : projectFlexExecutions sha256 sourceRef periodFrom periodTo s = .ok records) :
    ∃ records', projectFlexExecutions sha256 sourceRef periodFrom periodTo s' = .ok records' ∧
      records.Perm records' := by
  obtain ⟨rows, start, stop, d, hrows, htag, hstart, hstop, hperiod, hhash, hd, rfl⟩ := projectFlexExecutions_ok h
  obtain ⟨rows', hrows', hflat, hmem⟩ := hs.single hrows
  obtain ⟨d', hd', hperm⟩ := gather_congr hmem hd
  have haccount : statementAccount s' = statementAccount s := by rw [statementAccount, ← hs.account]; rfl
  refine ⟨d'.map fun e => e.2.1, ?_, hperm.map _⟩
  unfold projectFlexExecutions
  rw [hrows', hstart, hstop, haccount]
  simp only
  rw [← any_congr hmem, htag, if_neg (by decide), if_neg hperiod, hhash, if_neg (by decide),
    if_neg (by rw [hflat] at hlimit; omega), hd']
  rfl

structure ExecutionsPublished (sha256 : String → String) (sourceRef : String) (start stop : Day) (s : Statement)
    (records : List Execution) : Prop where
  identities : (records.map Execution.executionRef).Nodup
  complete : ∀ row ∈ s.rows "Trades", executionOf sha256 (statementAccount s) sourceRef row ∈ records
  sound : ∀ record ∈ records, ∃ row ∈ s.rows "Trades", record = executionOf sha256 (statementAccount s) sourceRef row
  checked : ∀ row ∈ s.rows "Trades", row.tag = "Trade" ∧
    ∀ c ∈ executionChecks (statementAccount s) start stop row, c.1 = false
  agree : ∀ row ∈ s.rows "Trades", ∀ row' ∈ s.rows "Trades",
    executionRef sha256 (statementAccount s) row = executionRef sha256 (statementAccount s) row' →
      executionOf sha256 (statementAccount s) sourceRef row = executionOf sha256 (statementAccount s) sourceRef row' ∧
        present (row.get "tradeID") = present (row'.get "tradeID")

lemma projectFlexExecutions_published
    (h : projectFlexExecutions sha256 sourceRef periodFrom periodTo s = .ok records) :
    ∃ start stop, day periodFrom = some start ∧ day periodTo = some stop ∧
      ExecutionsPublished sha256 sourceRef start stop s records := by
  obtain ⟨rows, start, stop, d, hrows, htag, hstart, hstop, -, -, hd, rfl⟩ := projectFlexExecutions_ok h
  obtain ⟨hread, hkeyed, -, hmem⟩ := gather_ok keyed_nil (Nat.zero_le _) hd
  have hflat : s.rows "Trades" = rows := by rw [rows_eq, hrows, List.flatten_cons, List.flatten_nil, List.append_nil]
  have hentry : ∀ row ∈ rows, (executionRef sha256 (statementAccount s) row,
      (executionOf sha256 (statementAccount s) sourceRef row, present (row.get "tradeID"))) ∈ d := by
    intro row hrow
    obtain ⟨x, hx⟩ := hread row hrow
    exact (hmem _).mpr (.inr ⟨row, hrow, hx.trans (by rw [(readExecution_ok hx).2])⟩)
  have hsource : ∀ e ∈ d, ∃ row ∈ rows, e = (executionRef sha256 (statementAccount s) row,
      (executionOf sha256 (statementAccount s) sourceRef row, present (row.get "tradeID"))) := by
    intro e he
    obtain ⟨row, hrow, hx⟩ := ((hmem e).mp he).resolve_left (by simp)
    exact ⟨row, hrow, Option.some.inj (readExecution_ok hx).2⟩
  have hkeys : (d.map fun e => e.2.1).map Execution.executionRef = d.map Prod.fst := by
    rw [List.map_map]
    refine List.map_congr_left fun e he => ?_
    obtain ⟨row, -, rfl⟩ := hsource e he
    rfl
  refine ⟨start, stop, hstart, hstop, ?_, ?_, ?_, ?_, ?_⟩
  · rw [hkeys]
    exact hkeyed
  · rw [hflat]
    exact fun row hrow => List.mem_map_of_mem (hentry row hrow)
  · intro record hrecord
    obtain ⟨e, he, rfl⟩ := List.mem_map.mp hrecord
    obtain ⟨row, hrow, rfl⟩ := hsource e he
    exact ⟨row, hflat ▸ hrow, rfl⟩
  · rw [hflat]
    intro row hrow
    obtain ⟨x, hx⟩ := hread row hrow
    have htrade := List.any_eq_false.mp htag row hrow
    exact ⟨by simpa using htrade, (readExecution_ok hx).1⟩
  · rw [hflat]
    intro row hrow row' hrow' heq
    have hlookup := hkeyed.lookup (hentry row hrow)
    rw [heq, hkeyed.lookup (hentry row' hrow')] at hlookup
    have hpair := Option.some.inj hlookup
    exact ⟨(congrArg Prod.fst hpair).symm, (congrArg Prod.snd hpair).symm⟩

end ExecutionRows

section FlowRows

variable {periodFrom periodTo : Option String} {s s' : Statement} {facts : FlowFacts}
variable {account : String} {start stop : Day} {row : Row}

def flowAccount (s : Statement) : String := (s.get "accountId").getD ""

lemma readFlow_ok {x : Option (String × Flow)} (h : readFlow sha256 account start stop row = .ok x) :
    flowType row = none ∧ x = none ∨ ∃ kind, flowType row = some kind ∧
      (∀ c ∈ flowChecks account start stop kind row, c.1 = false) ∧
        x = some (flowRef sha256 account row, flowOf sha256 account kind row) := by
  unfold readFlow at h
  split at h
  · rename_i hk
    exact .inl ⟨hk, (Except.ok.inj h).symm⟩
  · rename_i kind hk
    split at h
    · cases h
    · rename_i hc
      exact .inr ⟨kind, hk, firstRefusal_eq_none hc, (Except.ok.inj h).symm⟩

lemma projectFlexExternalFlows_ok (h : projectFlexExternalFlows sha256 periodFrom periodTo s = .ok facts) :
    ∃ rows d, sections s "StmtFunds" = [rows] ∧
      (rows.any fun row => row.tag ≠ "StatementOfFundsLine") = false ∧
      day periodFrom = some facts.start ∧ day periodTo = some facts.stop ∧
      ¬ (facts.stop < facts.start ∨ 31 ≤ facts.stop - facts.start) ∧
      gather (readFlow sha256 (flowAccount s) facts.start facts.stop) (.because "flow_identity_conflict")
        (.because "flow_record_limit") 256 [] rows = .ok d ∧ facts.records = d.map Prod.snd := by
  unfold projectFlexExternalFlows at h
  split at h
  · cases h
  · rename_i rows hs
    split at h
    · cases h
    rename_i htag
    split at h
    · rename_i start stop hstart hstop
      split at h
      · cases h
      rename_i hperiod
      obtain ⟨d, hd, rfl⟩ := map_ok h
      exact ⟨rows, d, hs, by simpa using htag, hstart, hstop, hperiod, hd, rfl⟩
    · cases h
  · cases h

lemma projectFlexExternalFlows_congr (hs : SameRows "StmtFunds" s s')
    (h : projectFlexExternalFlows sha256 periodFrom periodTo s = .ok facts) :
    ∃ facts', projectFlexExternalFlows sha256 periodFrom periodTo s' = .ok facts' ∧
      facts.records.Perm facts'.records ∧ facts.start = facts'.start ∧ facts.stop = facts'.stop := by
  obtain ⟨rows, d, hrows, htag, hstart, hstop, hperiod, hd, hrecords⟩ := projectFlexExternalFlows_ok h
  obtain ⟨rows', hrows', -, hmem⟩ := hs.single hrows
  obtain ⟨d', hd', hperm⟩ := gather_congr hmem hd
  refine ⟨⟨d'.map Prod.snd, facts.start, facts.stop⟩, ?_, hrecords ▸ hperm.map _, rfl, rfl⟩
  have haccount : (s'.get "accountId").getD "" = flowAccount s := by rw [← hs.account]; rfl
  unfold projectFlexExternalFlows
  rw [hrows', hstart, hstop, haccount]
  simp only
  rw [← any_congr hmem, htag, if_neg (by decide), if_neg hperiod, hd']
  rfl

structure FlowsPublished (sha256 : String → String) (s : Statement) (facts : FlowFacts) : Prop where
  identities : (facts.records.map Flow.sourceRef).Nodup
  complete : ∀ row ∈ s.rows "StmtFunds", ∀ kind, flowType row = some kind →
    flowOf sha256 (flowAccount s) kind row ∈ facts.records
  sound : ∀ record ∈ facts.records, ∃ row ∈ s.rows "StmtFunds", ∃ kind, flowType row = some kind ∧
    record = flowOf sha256 (flowAccount s) kind row
  checked : ∀ row ∈ s.rows "StmtFunds", row.tag = "StatementOfFundsLine" ∧ ∀ kind, flowType row = some kind →
    ∀ c ∈ flowChecks (flowAccount s) facts.start facts.stop kind row, c.1 = false
  agree : ∀ row ∈ s.rows "StmtFunds", ∀ row' ∈ s.rows "StmtFunds", ∀ kind kind', flowType row = some kind →
    flowType row' = some kind' → flowRef sha256 (flowAccount s) row = flowRef sha256 (flowAccount s) row' →
      flowOf sha256 (flowAccount s) kind row = flowOf sha256 (flowAccount s) kind' row'

lemma projectFlexExternalFlows_published (h : projectFlexExternalFlows sha256 periodFrom periodTo s = .ok facts) :
    FlowsPublished sha256 s facts := by
  obtain ⟨rows, d, hrows, htag, -, -, -, hd, hrecords⟩ := projectFlexExternalFlows_ok h
  obtain ⟨hread, hkeyed, -, hmem⟩ := gather_ok keyed_nil (Nat.zero_le _) hd
  have hflat : s.rows "StmtFunds" = rows := by
    rw [rows_eq, hrows, List.flatten_cons, List.flatten_nil, List.append_nil]
  have hrow : ∀ row ∈ rows, ∀ kind, flowType row = some kind →
      (∀ c ∈ flowChecks (flowAccount s) facts.start facts.stop kind row, c.1 = false) ∧
        (flowRef sha256 (flowAccount s) row, flowOf sha256 (flowAccount s) kind row) ∈ d := by
    intro row hr kind hk
    obtain ⟨x, hx⟩ := hread row hr
    rcases readFlow_ok hx with ⟨hn, -⟩ | ⟨kind', hk', hchecks, rfl⟩
    · rw [hk] at hn
      cases hn
    · obtain rfl : kind = kind' := Option.some.inj (hk.symm.trans hk')
      exact ⟨hchecks, (hmem _).mpr (.inr ⟨row, hr, hx⟩)⟩
  have hsource : ∀ e ∈ d, ∃ row ∈ rows, ∃ kind, flowType row = some kind ∧
      e = (flowRef sha256 (flowAccount s) row, flowOf sha256 (flowAccount s) kind row) := by
    intro e he
    obtain ⟨row, hr, hx⟩ := ((hmem e).mp he).resolve_left (by simp)
    rcases readFlow_ok hx with ⟨-, hn⟩ | ⟨kind, hk, -, hentry⟩
    · cases hn
    · exact ⟨row, hr, kind, hk, Option.some.inj hentry⟩
  have hkeys : (d.map Prod.snd).map Flow.sourceRef = d.map Prod.fst := by
    rw [List.map_map]
    refine List.map_congr_left fun e he => ?_
    obtain ⟨row, -, kind, -, rfl⟩ := hsource e he
    rfl
  refine ⟨?_, ?_, ?_, ?_, ?_⟩
  · rw [hrecords, hkeys]
    exact hkeyed
  · rw [hflat, hrecords]
    exact fun row hr kind hk => List.mem_map_of_mem (hrow row hr kind hk).2
  · rw [hflat, hrecords]
    intro record hrecord
    obtain ⟨e, he, rfl⟩ := List.mem_map.mp hrecord
    obtain ⟨row, hr, kind, hk, rfl⟩ := hsource e he
    exact ⟨row, hr, kind, hk, rfl⟩
  · rw [hflat]
    intro row hr
    have hline := List.any_eq_false.mp htag row hr
    exact ⟨by simpa using hline, fun kind hk => (hrow row hr kind hk).1⟩
  · rw [hflat]
    intro row hr row' hr' kind kind' hk hk' heq
    have hlookup := hkeyed.lookup (hrow row hr kind hk).2
    rw [heq, hkeyed.lookup (hrow row' hr' kind' hk').2] at hlookup
    exact (Option.some.inj hlookup).symm

end FlowRows

/-- Both projections publish everything or nothing, whatever the order and the repetition of the rows. -/
theorem projections_all_or_nothing (sha256 : String → String) (sourceRef : String)
    (periodFrom periodTo : Option String) :
    (∀ s s' records, SameRows "Trades" s s' → (s'.rows "Trades").length ≤ 10000 →
      projectFlexExecutions sha256 sourceRef periodFrom periodTo s = .ok records →
        ∃ records', projectFlexExecutions sha256 sourceRef periodFrom periodTo s' = .ok records' ∧
          records.Perm records') ∧
    (∀ s records, projectFlexExecutions sha256 sourceRef periodFrom periodTo s = .ok records →
      ∃ start stop, day periodFrom = some start ∧ day periodTo = some stop ∧
        ExecutionsPublished sha256 sourceRef start stop s records) ∧
    (∀ s s' facts, SameRows "StmtFunds" s s' →
      projectFlexExternalFlows sha256 periodFrom periodTo s = .ok facts →
        ∃ facts', projectFlexExternalFlows sha256 periodFrom periodTo s' = .ok facts' ∧
          facts.records.Perm facts'.records ∧ facts.start = facts'.start ∧ facts.stop = facts'.stop) ∧
    (∀ s facts, projectFlexExternalFlows sha256 periodFrom periodTo s = .ok facts →
      day periodFrom = some facts.start ∧ day periodTo = some facts.stop ∧ FlowsPublished sha256 s facts) := by
  refine ⟨fun s s' records hs hlimit h => projectFlexExecutions_congr hs hlimit h,
    fun s records h => projectFlexExecutions_published h,
    fun s s' facts hs h => projectFlexExternalFlows_congr hs h, fun s facts h => ?_⟩
  obtain ⟨_, _, -, -, hstart, hstop, -⟩ := projectFlexExternalFlows_ok h
  exact ⟨hstart, hstop, projectFlexExternalFlows_published h⟩

section TwoOrders

def trade₀ (id quantity : String) : Row :=
  ⟨"Trade", [("accountId", "DU1"), ("levelOfDetail", "EXECUTION"), ("ibExecID", id), ("tradeDate", "20261102"),
    ("buySell", "BUY"), ("quantity", quantity), ("tradePrice", "12.5"), ("currency", "USD"), ("assetCategory", "STK"),
    ("symbol", "SPY")]⟩

def trades₀ (rows : List Row) : Statement := ⟨[("accountId", "DU1")], [("Trades", rows)]⟩

def hash₀ : String := String.ofList (List.replicate 64 'a')

lemma trades₀_published : ∃ records, projectFlexExecutions id hash₀ (some "20261101") (some "2026-11-30")
    (trades₀ [trade₀ "0001" "3", trade₀ "0002" "-1.5"]) = .ok records ∧ records.length = 2 := by
  refine ⟨_, rfl, ?_⟩
  decide

lemma trades₀_same : SameRows "Trades" (trades₀ [trade₀ "0001" "3", trade₀ "0002" "-1.5"])
    (trades₀ [trade₀ "0002" "-1.5", trade₀ "0001" "3", trade₀ "0001" "3"]) := by
  refine ⟨rfl, rfl, fun row => ?_⟩
  simp [trades₀, Statement.rows, or_comm]

theorem projections_all_or_nothing_trades₀ :
    ∃ records, projectFlexExecutions id hash₀ (some "20261101") (some "2026-11-30")
      (trades₀ [trade₀ "0002" "-1.5", trade₀ "0001" "3", trade₀ "0001" "3"]) = .ok records ∧ records.length = 2 := by
  obtain ⟨records, h, hlen⟩ := trades₀_published
  obtain ⟨records', h', hperm⟩ := (projections_all_or_nothing id hash₀ (some "20261101") (some "2026-11-30")).1 _ _
    records trades₀_same (by decide) h
  exact ⟨records', h', by rw [← hperm.length_eq, hlen]⟩

end TwoOrders

end IbkrPlatform.Ledger.Projections
