import IbkrPlatform.FlexDaily.Collect
import IbkrPlatform.FlexDaily.Report

/-! What the collector makes of the report of one window, in backfill and in forward mode. -/

namespace IbkrPlatform.FlexDaily.WindowReport

open Library EarlyExit Forward Report Coverage

section Month

def activitySections : List String :=
  ["Trades", "Transfers", "TradeTransfers", "CorporateActions", "CashTransactions", "StmtFunds",
    "ChangeInDividendAccruals"]

abbrev ActivityRow := Option String × String × String × List (String ×ₗ String)

def activityRow (statement : Element) (section_ : String) (row : Element) : ActivityRow :=
  (statement.get "accountId", section_, row.tag,
    ((row.attrib.filter fun a => a.1 ∉ ["whenGenerated", "fromDate", "toDate"]).map toLex).insertionSort (· ≤ ·))

def statementsOf (root : Element) : List Element := root.rows "FlexStatements" "FlexStatement"

def activityRows (payloads : List Element) : List ActivityRow :=
  payloads.flatMap fun root => (statementsOf root).flatMap fun statement => activitySections.flatMap fun section_ =>
    ((statement.findall section_).flatMap Element.children).map (activityRow statement section_)

def compareActivity (monthly : Element) (daily : List Element) : Bool :=
  (activityRows [monthly]).isPerm (activityRows daily)

inductive EndKey
  | nav (account : Option String)
  | balance (account : Option String) (section_ identity : String)
  | position (account conid currency : Option String)
deriving DecidableEq

abbrev Ends := List (EndKey × (Option String × ℚ))

def balanceEnds (account : Option String) (section_ identityField amount : String) (ends : Ends) :
    List Element → Option Ends
  | [] => some ends
  | row :: rows =>
    let identity := (row.get identityField).getD ""
    let key := EndKey.balance account section_ identity
    if (ends.lookup key).isSome ∨ identity = "" then none
    else (number row.attrib amount).bind fun d => balanceEnds account section_ identityField amount
      (Dictionary.put key (none, d.value) ends) rows

def positionEnds (account : Option String) (ends : Ends) : List Element → Option Ends
  | [] => some ends
  | row :: rows =>
    let key := EndKey.position account (row.get "conid") (row.get "currency")
    if (ends.lookup key).isSome ∨ row.get "levelOfDetail" ≠ some "SUMMARY" then none
    else (number row.attrib "position").bind fun d => positionEnds account (Dictionary.put key (none, d.value) ends) rows

def sectionEnds (account : Option String) (statement : Element) (section_ tag amount : String) (ends : Ends) : Option Ends :=
  (statement.find section_).bind fun container =>
    if container.children.isEmpty then none
    else balanceEnds account section_ "currency" amount ends (container.findall tag)

def statementEnds (opening : Bool) (ends : Ends) (statement : Element) : Option Ends :=
  let account := statement.get "accountId"
  (statement.find "ChangeInNAV").bind fun nav =>
  (number nav.attrib (if opening then "startingValue" else "endingValue")).bind fun d =>
  (sectionEnds account statement "CashReport" "CashReportCurrency" (if opening then "startingCash" else "endingCash")
    (Dictionary.put (EndKey.nav account) (nav.get "currency", d.value) ends)).bind fun ends =>
  (sectionEnds account statement "InterestAccruals" "InterestAccrualsCurrency"
    (if opening then "startingAccrualBalance" else "endingAccrualBalance") ends).bind fun ends =>
  if opening then some ends
  else (statement.find "OpenPositions").bind fun container =>
    positionEnds account ends (container.findall "OpenPosition")

/-- `endpoints`; `none` is a `ValueError`. -/
def endpoints (root : Element) (opening : Bool) : Option Ends :=
  (statementsOf root).foldlM (statementEnds opening) []

def sameEnds (ends ends' : Ends) : Bool :=
  (ends ++ ends').all fun e => ends.lookup e.1 = ends'.lookup e.1

/-- `compare_month`; `none` is a `ValueError`. -/
def compareMonth (monthly : Element) (daily : List Element) : Option Bool :=
  match daily.head?, daily.getLast? with
  | some first, some last =>
    if !compareActivity monthly daily then some false
    else (endpoints monthly true).bind fun opening => (endpoints first true).bind fun opening' =>
      if !sameEnds opening opening' then some false
      else (endpoints monthly false).bind fun closing => (endpoints last false).bind fun closing' =>
        some (sameEnds closing closing')
  | _, _ => some false

end Month

section Process

def statementOf (e : Element) : Statement :=
  ⟨e.attrib, e.children.map fun c => (c.tag, c.children.map fun row => ⟨row.tag, row.attrib⟩)⟩

structure ForwardRun where
  readers : Readers
  config : Config
  boundary : Instant
  sha256 : String
  previous : String → Option Evidence
  captureStart : Instant
  captureEnd : Instant

structure Job where
  start : Day
  stop : Day
  accounts : List (String × String)
  configured : List String
  previousRoot : Option Element
  forward : Option ForwardRun
  control : Option (Option (List Element))

variable (c : Context) (job : Job)

def checkedOf (results : List (String × Inspected)) (label : String) : Checked :=
  ((results.lookup label).getD Inspected.missing).checked

/-- The evidence of a report; an `OverflowError` of a time is no `ValueError`. -/
def qualifyReport (f : ForwardRun) (statements : List (String × Element)) (results : List (String × Inspected)) :
    Except Fault (List (String × Evidence)) :=
  match qualify f.readers { f.config with accounts := job.accounts } f.boundary f.sha256
      (statements.map fun s => statementOf s.2) (checkedOf results) f.previous f.captureStart f.captureEnd with
  | some evidence => .ok evidence
  | none => .error .overflow

def statuses (statements : List (String × Element)) (results : List (String × Inspected)) : Except Fault (List ItemStatus) :=
  match job.forward with
  | none => .ok (results.map fun x => x.2.checked.status)
  | some f => (qualifyReport job f statements results).bind fun evidence =>
      .ok (results.map fun x => (Collect.finishItem x.2.checked (evidence.lookup x.1)).status)

def controlled (root : Element) (complete : Bool) : Except Fault Bool :=
  match job.control with
  | none => .ok complete
  | some none => .ok false
  | some (some daily) => (reading (compareMonth root daily)).bind fun same => .ok (same && complete)

def processReport (statements : List (String × Element)) (root : Element) : Except Fault Bool :=
  (inspectReport c job.start job.stop job.accounts job.configured
    (if job.forward.isSome then none else job.previousRoot) root).bind fun results =>
  (statuses job statements results).bind fun statuses =>
  controlled job root (statuses.all fun s => s = .complete)

def handle (slot : Slot) (now : Instant) : Except Fault Bool → Slot × Option Collect.Exit
  | .ok true => ({ slot with attempts := 0, nextAttemptAt := none }, none)
  | .ok false => (failed slot now "incomplete_report_or_daily_control", none)
  | .error .valueError => (failed slot now "report_validation_failed", none)
  | .error .overflow => (slot, some .abort)

def window (slot : Slot) (now : Instant) (root : Element) : Slot × Option Collect.Exit :=
  match requireAccountScope root job.accounts with
  | none => (failed slot now "account_scope_mismatch", some .leave)
  | some statements => handle slot now (processReport c job statements root)

end Process

end IbkrPlatform.FlexDaily.WindowReport
