import Mathlib.Data.List.Sort
import Mathlib.Data.String.Basic
import IbkrPlatform.FlexDaily.Calendar
import IbkrPlatform.Library.DecimalText

/-! Qualification of one private report as forward evidence, relative to the anchor before it. -/

namespace IbkrPlatform.FlexDaily.Forward

open Calendar

def forwardStartText : String := "2026-11-03"

def forwardStart : Day := 20760

inductive Feed
  | cashTransactions
  | stmtFunds
  | trades
  | transfers
  | tradeTransfers
  | corporateActions
  | unsettledTransfers
  | openDividendAccruals
  | changeInDividendAccruals
deriving DecidableEq

namespace Feed

def name : Feed → String
  | cashTransactions => "CashTransactions"
  | stmtFunds => "StmtFunds"
  | trades => "Trades"
  | transfers => "Transfers"
  | tradeTransfers => "TradeTransfers"
  | corporateActions => "CorporateActions"
  | unsettledTransfers => "UnsettledTransfers"
  | openDividendAccruals => "OpenDividendAccruals"
  | changeInDividendAccruals => "ChangeInDividendAccruals"

def identityField : Feed → String
  | trades | tradeTransfers => "tradeID"
  | _ => "transactionID"

def quantity : Feed → Bool
  | trades | transfers | tradeTransfers | corporateActions => true
  | _ => false

end Feed

def events : List Feed :=
  [.cashTransactions, .stmtFunds, .trades, .transfers, .tradeTransfers, .corporateActions, .unsettledTransfers,
    .openDividendAccruals, .changeInDividendAccruals]

structure Config where
  ipRestriction : Option String
  schema : Option ℕ
  queryId : String
  accounts : List (String × String)
  forwardStart : String
  snapshotTimezoneField : String
  snapshotTimeField : String
  eventTimeFields : Feed → Option String

def Config.labels (config : Config) : List String := config.accounts.map Prod.snd

def validateConfig (config : Config) : Option String :=
  if config.forwardStart ≠ forwardStartText then some "forward_start_invalid"
  else if config.snapshotTimeField ∈ ["whenGenerated", "fromDate", "toDate"] then
    some "snapshot_field_not_financial_asof"
  else none

def representable (utc : Instant) : Bool :=
  -62135596800000000 ≤ utc ∧ utc < 253402300800000000

def instant (r : Readers) (value : Option String) (zone : Option Zone) : Except Fault Instant :=
  match value with
  | none => .error .valueError
  | some text =>
    if 'T' ∉ text.toList then .error .valueError
    else match r.fromisoformat text with
      | none => .error .valueError
      | some ⟨_, none⟩ => .error .valueError
      | some ⟨wall, some offset⟩ =>
        let utc := wall - offset
        if !representable utc then .error .overflow
        else match zone with
          | none => .ok utc
          | some zone =>
            if !representable (utc + zone.utcoffset utc) then .error .overflow
            else if offset ≠ zone.utcoffset utc then .error .valueError
            else .ok utc

/-- `number`: an attribute that is a finite decimal; `none` is its `ValueError`. -/
def number (row : Attributes) (field : String) : Option Library.Decimal :=
  (row.lookup field).bind fun text => Library.Decimal.readFinite text.toList

inductive ItemStatus | missing | pending | received | complete
deriving DecidableEq

inductive Reconciliation | partial_ | difference
deriving DecidableEq

/-- The part of an `inspect_report` result that qualification and coverage read. -/
structure Checked where
  status : ItemStatus
  issues : List String
  reconciliation : Reconciliation
deriving DecidableEq

inductive Eligibility
  | unknown
  | excludedPreStart
  | excludedBeforeOrAtPrevious
  | excludedAfterCurrent
  | duplicateObservation
  | selected
deriving DecidableEq

structure Event where
  feed : Feed
  facts : Attributes
  eligibility : Eligibility
  effectiveUtc : Option Instant

abbrev Key := Feed × String

def Event.key (e : Event) : Key := (e.feed, (e.facts.lookup e.feed.identityField).getD "")

structure SourceAsOf where
  native : String
  timezone : String
  utc : Instant
  offset : ℤ

structure CashObservation where
  currency : Option String
  closing : Option String
  settled : Option String

structure Evidence where
  accountId : String
  sourceSha256 : String
  previousSourceSha256 : Option String
  sourceAsOf : Option SourceAsOf
  previousActualCutoff : Option Instant
  captureStartedAt : Instant
  captureFinishedAt : Instant
  anchorQualified : Bool
  events : List Event
  cash : List CashObservation
  positions : List Attributes
  seenEvents : List (Key × String)
  issues : List String

def Evidence.cutoff (ev : Evidence) : Option Instant := ev.sourceAsOf.map SourceAsOf.utc

def isSpace (c : Char) : Bool :=
  c.toNat ∈ [9, 10, 11, 12, 13, 28, 29, 30, 31, 32, 133, 160, 5760, 8232, 8233, 8239, 8287, 12288] ∨
    8192 ≤ c.toNat ∧ c.toNat ≤ 8202

def blank (text : String) : Bool := text.toList.all isSpace

def truthy (value : Option String) : Bool := value.getD "" ≠ ""

def snapshotCutoff (r : Readers) (config : Config) (boundary : Instant) (statement : Statement)
    (captureStart captureEnd : Instant) : Except Fault SourceAsOf :=
  match statement.get config.snapshotTimezoneField with
  | none => .error .valueError
  | some zoneName =>
    match r.zoneInfo zoneName with
    | none => .error .valueError
    | some zone =>
      let native := statement.get config.snapshotTimeField
      match instant r native (some zone) with
      | .error fault => .error fault
      | .ok cutoff =>
        if ¬ (boundary ≤ cutoff ∧ cutoff ≤ captureEnd) ∨ captureEnd < captureStart then .error .valueError
        else
          let toDate := String.ofList (((statement.get "toDate").getD "").toList.filter (· ≠ '-'))
          match r.strptimeDay toDate with
          | none => .error .valueError
          | some day =>
            if zone.dateOf cutoff ≠ day then .error .valueError
            else .ok ⟨native.getD "", zoneName, cutoff, zone.utcoffset cutoff⟩

def cashRows (statement : Statement) : List Row :=
  (statement.findall "CashReport" "CashReportCurrency").filter fun row =>
    row.get "currency" ≠ some "BASE_SUMMARY"

def cashIssues (row : Row) : List String :=
  if row.get "endingSettledCash" ≠ none ∧ number row.attrib "endingSettledCash" = none then
    ["settled_cash_unqualified"]
  else []

def positionIssues (row : Row) : List String :=
  if row.get "assetCategory" ≠ some "STK" then ["instrument_coverage_unqualified"] else []

structure Progress where
  events : List Event
  seenEvents : List (Key × String)
  seenInReport : List Key
  issues : List String

namespace Progress

def issue (p : Progress) (e : Event) (text : String) : Progress :=
  { p with events := p.events ++ [e], issues := p.issues ++ [text] }

def record (p : Progress) (e : Event) : Progress := { p with events := p.events ++ [e] }

/-- `seen_in_report[key]['eligibility'] = 'unknown'`; every later row of the key is unknown already. -/
def withdraw (p : Progress) (key : Key) : Progress :=
  { p with events := p.events.map fun e => if e.key = key then { e with eligibility := .unknown } else e }

end Progress

def effectiveTime (r : Readers) (config : Config) (feed : Feed) (row : Row) : Except Fault Instant :=
  match config.eventTimeFields feed with
  | none => .error .valueError
  | some field =>
    if field ∈ ["", "whenGenerated", "reportDate"] then .error .valueError
    else if number row.attrib (if feed.quantity then "quantity" else "amount") = none then .error .valueError
    else instant r (row.get field) none

/-- The eligibility of a row whose effective time and revision qualify; `none` adds
`event_interval_unqualified`. -/
def eligibility (boundary : Instant) (lower cutoff : Option Instant) (known : Option String)
    (effective : Instant) : Option Eligibility :=
  if effective < boundary then some .excludedPreStart
  else match lower, cutoff with
    | some lower, some cutoff =>
      if effective ≤ lower then some .excludedBeforeOrAtPrevious
      else if cutoff < effective then some .excludedAfterCurrent
      else if known.isSome then some .duplicateObservation
      else some .selected
    | _, _ => none

def classify (boundary : Instant) (lower cutoff : Option Instant) (fingerprint : String) (p : Progress)
    (event : Event) (effective : Instant) : Progress :=
  let known := p.seenEvents.lookup event.key
  if known.isSome ∧ known ≠ some fingerprint then p.issue event "event_revision_unqualified"
  else match eligibility boundary lower cutoff known effective with
    | none => p.issue event "event_interval_unqualified"
    | some .selected =>
      { p.record { event with eligibility := .selected } with
        seenEvents := (event.key, fingerprint) :: p.seenEvents }
    | some e => p.record { event with eligibility := e }

/-- One row that is the first of its key in the report; `none` is an exception that escapes. -/
def observe (r : Readers) (config : Config) (boundary : Instant) (lower cutoff : Option Instant) (feed : Feed)
    (p : Progress) (row : Row) : Option Progress :=
  let event : Event := ⟨feed, row.attrib, .unknown, none⟩
  if ["originalTradeID", "originalTransactionID", "origTradeID", "origTransactionID"].any
      fun k => truthy (row.get k) then
    some (p.issue event "correction_linkage_unqualified")
  else if blank ((row.get "currency").getD "") ∨ row.get "currency" = some "BASE_SUMMARY" then
    some (p.issue event "event_currency_unqualified")
  else if feed.quantity ∧ (!truthy (row.get "conid") ∨ row.get "assetCategory" ≠ some "STK") then
    some (p.issue event "instrument_coverage_unqualified")
  else match effectiveTime r config feed row with
    | .error .overflow => none
    | .error .valueError => some (p.issue event "event_effective_time_or_amount_unqualified")
    | .ok effective =>
      some (classify boundary lower cutoff (r.fingerprint row.attrib) p
        { event with effectiveUtc := some effective } effective)

def row (r : Readers) (config : Config) (boundary : Instant) (lower cutoff : Option Instant) (feed : Feed)
    (p : Progress) (row : Row) : Option Progress :=
  let event : Event := ⟨feed, row.attrib, .unknown, none⟩
  if truthy (row.get feed.identityField) = false then
    some (p.issue event "event_identity_missing")
  else if event.key ∈ p.seenInReport then
    some ((p.withdraw event.key).issue event "event_identity_duplicate")
  else observe r config boundary lower cutoff feed { p with seenInReport := event.key :: p.seenInReport } row

def feedRows (statement : Statement) : List (Feed × Row) :=
  events.flatMap fun feed => (statement.rows feed.name).map fun row => (feed, row)

def openingAnchor (boundary : Instant) (cutoff : Option Instant) (prior : Option Evidence) :
    Option Instant × List String :=
  match prior with
  | none => (none, ["opening_snapshot_missing"])
  | some prior =>
    if prior.anchorQualified then
      match prior.sourceAsOf, cutoff with
      | some asOf, some cutoff =>
        if asOf.utc < boundary ∨ cutoff ≤ asOf.utc then
          (none, ["previous_anchor_unqualified", "opening_snapshot_missing"])
        else (some asOf.utc, [])
      | _, _ => (none, ["previous_anchor_unqualified", "opening_snapshot_missing"])
    else (none, ["opening_snapshot_missing"])

def foldRows (step : Progress → Feed × Row → Option Progress) (p : Progress) : List (Feed × Row) → Option Progress
  | [] => some p
  | x :: xs => (step p x).bind fun p => foldRows step p xs

def structural (checked : Checked) : Bool :=
  checked.status = .complete ∧ checked.reconciliation ≠ .difference

def positionRows (statement : Statement) : List Row := statement.findall "OpenPositions" "OpenPosition"

def snapshotIssues (asOf : Option SourceAsOf) (statement : Statement) : List String :=
  (if asOf.isNone then ["snapshot_time_unqualified"] else []) ++ (cashRows statement).flatMap cashIssues ++
    (positionRows statement).flatMap positionIssues

def assemble (r : Readers) (config : Config) (boundary : Instant) (sourceSha256 : String) (checked : Checked)
    (prior : Option Evidence) (captureStart captureEnd : Instant) (accountId : String) (statement : Statement)
    (asOf : Option SourceAsOf) : Option Evidence :=
  let cutoff := asOf.map SourceAsOf.utc
  let issues := snapshotIssues asOf statement
  let opening := openingAnchor boundary cutoff prior
  let start : Progress := ⟨[], (prior.map Evidence.seenEvents).getD [], [], issues ++ opening.2⟩
  (foldRows (fun p x => row r config boundary opening.1 cutoff x.1 p x.2) start (feedRows statement)).map
    fun p =>
      { accountId, sourceSha256
        previousSourceSha256 := prior.map Evidence.sourceSha256
        sourceAsOf := asOf
        previousActualCutoff := opening.1
        captureStartedAt := captureStart
        captureFinishedAt := captureEnd
        anchorQualified := asOf.isSome ∧ structural checked ∧ issues = []
        events := p.events
        cash := (cashRows statement).map fun row =>
          ⟨row.get "currency", row.get "endingCash", row.get "endingSettledCash"⟩
        positions := (positionRows statement).map Row.attrib
        seenEvents := p.seenEvents
        issues := p.issues.dedup.insertionSort (· ≤ ·) }

def qualifyStatement (r : Readers) (config : Config) (boundary : Instant) (sourceSha256 : String)
    (checked : Checked) (previous : Option Evidence) (captureStart captureEnd : Instant) (accountId : String)
    (statement : Statement) : Option Evidence :=
  let prior := previous.filter fun ev => ev.accountId = accountId
  let from_ := assemble r config boundary sourceSha256 checked prior captureStart captureEnd accountId statement
  match snapshotCutoff r config boundary statement captureStart captureEnd with
  | .error .overflow => none
  | .error .valueError => from_ none
  | .ok asOf => from_ (some asOf)

def qualify (r : Readers) (config : Config) (boundary : Instant) (sourceSha256 : String)
    (statements : List Statement) (checked : String → Checked) (previous : String → Option Evidence)
    (captureStart captureEnd : Instant) : Option (List (String × Evidence)) :=
  statements.mapM fun statement => do
    let accountId ← statement.get "accountId"
    let label ← config.accounts.lookup accountId
    let evidence ← qualifyStatement r config boundary sourceSha256 (checked label) (previous label) captureStart
      captureEnd accountId statement
    pure (label, evidence)

end IbkrPlatform.FlexDaily.Forward
