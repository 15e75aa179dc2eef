import IbkrPlatform.AccountFacts.Positions
import IbkrPlatform.FlexDaily.Forward
import IbkrPlatform.FlexDaily.Strptime
import IbkrPlatform.Portfolio.CashSelectors

/-! The verified facts of one account snapshot, as a report carries them. -/

namespace IbkrPlatform.AccountFacts

open Library
open FlexDaily (Instant)
open FlexDaily.Forward (representable)
open Portfolio.CashObservations (Native decimal currencyOf isCurrency)
open Portfolio.CashSelectors (marketCurrencyCashTagPriority)

def snapshotSchema : String := "ibkr_account_snapshot.v1"

structure Balance where
  accountId : String
  currency : String
  cells : List (String × Native)

structure Attachments where
  observations : Json
  readiness : Json
  sourceDetails : Option Json
  schedule : Option Json

/-- A time of a `datetime` in UTC. -/
abbrev Moment := {t : Instant // representable t = true}

/-- A portfolio snapshot with its metadata. `asOf` is `none` where it is no time with an offset; of the rows kept for the
observations, the account is listed, and `none` stands for a sequence that is missing or not one. -/
structure Snapshot where
  asOf : Option Moment
  accountIds : List String
  balances : List Balance
  totalEquitySource : String
  brokerNetLiquidation : Native
  observationAccounts : Option (Option (List String))
  attachments : Attachments
  positions : Option (List Position)
  stockPositionsEmpty : Bool

section Times

def clockText (seconds : ℕ) : List Char :=
  let two := Decimal.zfill 2 ∘ Nat.toDigits 10
  two (seconds / 3600) ++ ':' :: two (seconds / 60 % 60) ++ ':' :: two (seconds % 60)

/-- `isoformat` of a time in UTC, before its offset. -/
def isoTime (t : Instant) : List Char :=
  let micros := (t % FlexDaily.Calendar.hours 24).toNat
  (FlexDaily.Strptime.isoText (FlexDaily.Calendar.dayOf t)).toList ++ 'T' :: clockText (micros / 1000000) ++
    if micros % 1000000 = 0 then [] else '.' :: Decimal.zfill 6 (Nat.toDigits 10 (micros % 1000000))

def isoformat (t : Instant) : String := String.ofList (isoTime t ++ "+00:00".toList)

/-- `isoformat().replace("+00:00", "Z")`. -/
def zuluText (t : Instant) : String := String.ofList (isoTime t ++ ['Z'])

example : zuluText 1793710800000001 = "2026-11-03T13:00:00.000001Z" := by decide

end Times

section Facts

variable (beyond : Char → List Char)

def verifiedUsdNetAssets (s : Snapshot) : Option String :=
  if s.totalEquitySource ≠ "broker_net_liquidation" then none
  else (decimal s.brokerNetLiquidation).bind fun expected =>
    if s.balances.any fun row => currencyOf beyond row.currency = "USD" &&
        ((row.cells.lookup "NetLiquidation").bind decimal).any fun d => d.value = expected.value
    then some (String.ofList (Decimal.format expected)) else none

structure CashEntry where
  currency : String
  cashBalance : String
  sourceTag : String
deriving DecidableEq

def cashOf (row : Balance) : Option (String × String) :=
  (marketCurrencyCashTagPriority.find? fun tag => (row.cells.lookup tag).isSome).bind fun tag =>
    ((row.cells.lookup tag).bind finiteDecimalText).map fun amount => (String.ofList amount, tag)

def readBalance (row : Balance) : Option (String × Option CashEntry) :=
  let currency := currencyOf beyond row.currency
  if isCurrency currency then some (currency, (cashOf row).map fun c => ⟨currency, c.1, c.2⟩) else none

/-- `none` where a currency is no code or comes twice. -/
def cashEntries (rows : List Balance) : Option (List CashEntry) :=
  (Distinct.gather (readBalance beyond) Prod.fst (rows.filter fun row => currencyOf beyond row.currency ≠ "BASE")).map
    (List.filterMap Prod.snd)

def CashEntry.json (c : CashEntry) : Json :=
  .dict [("currency", .text c.currency), ("cash_balance", .text c.cashBalance), ("source_tag", .text c.sourceTag)]

def observationsFit (s : Snapshot) (accountId : String) : Bool :=
  match s.observationAccounts with
  | none => s.balances.all fun row => row.accountId = accountId
  | some none => false
  | some (some accounts) => accounts.all (· = accountId)

def textOrNull (t : Option String) : Json := t.elim .null .text

def factEntries (s : Snapshot) (accountId : String) (observedAt : Moment) (cash : List CashEntry) : List (String × Json) :=
  [("schema_version", .text snapshotSchema), ("account_ids", .list [.text accountId]), ("currency", .text "USD"),
    ("observed_at", .text (zuluText observedAt.1)), ("net_assets", textOrNull (verifiedUsdNetAssets beyond s)),
    ("net_assets_semantics", .text "USD NetLiquidation; null unless broker source is verified"),
    ("cash_semantics", .text "IBKR accountValues cash balance; source tag retained; not available funds"),
    ("cash", .list (cash.map CashEntry.json)), ("broker_cash_observations", s.attachments.observations),
    ("account_risk_fact_readiness", s.attachments.readiness)] ++
  (s.attachments.sourceDetails.toList.map fun details => ("broker_cash_source_details", details)) ++
  (s.attachments.schedule.toList.map fun schedule => ("broker_cash_schedule_observations", schedule)) ++
  positionEntries (buildBrokerReportedPositions beyond s.positions s.stockPositionsEmpty)

/-- `build_ibkr_account_facts`; `none` is the empty dictionary. -/
def buildIbkrAccountFacts (s : Snapshot) : Option (List (String × Json)) :=
  match (s.accountIds.map Text.strip).filter (· ≠ "") with
  | [accountId] =>
    if s.balances = [] ∨ s.balances.any (fun row => Text.strip row.accountId ≠ accountId) then none
    else s.asOf.bind fun observedAt => (cashEntries beyond s.balances).bind fun cash =>
      if cash = [] ∨ !observationsFit s accountId then none else some (factEntries beyond s accountId observedAt cash)
  | _ => none

end Facts

end IbkrPlatform.AccountFacts
