import IbkrPlatform.Ledger.NetFlow
import IbkrPlatform.Library.Distinct
import IbkrPlatform.Library.Json
import IbkrPlatform.Library.Quantize
import IbkrPlatform.Portfolio.CashObservations

/-! The stock positions that an account report carries, and their projection into an archived record. -/

namespace IbkrPlatform.AccountFacts

open Library
open Portfolio.CashObservations (Native decimal currencyOf isCurrency)
open Ledger.NetFlow (ambient)

structure Position where
  symbol : Option String
  quantity : Native
  marketValue : Native
  currency : String
  averageCost : Native

structure PositionRow where
  symbol : String
  quantity : String
  marketValue : String
  currency : String
  avgCost : Option String
deriving DecidableEq

def maxPositions : ℕ := 64

def positionsScope : String := "stocks_only"

/-- The full match of `[A-Z0-9][A-Z0-9./ -]{0,31}`. -/
def isPositionSymbol (symbol : String) : Bool :=
  let alnum (c : Char) : Bool := Text.isCapital c || c.isDigit
  match symbol.toList with
  | [] => false
  | c :: rest => alnum c && rest.length ≤ 31 && rest.all fun c => alnum c || c ∈ ['.', '/', ' ', '-']

section Reported

def finiteDecimalText (value : Native) : Option (List Char) := (decimal value).map Decimal.format

def digitCount (cs : List Char) : ℕ :=
  let body := cs.dropWhile (· = '-')
  (body.takeWhile (· ≠ '.')).length + (body.dropWhile (· ≠ '.')).tail.length

/-- The number that is written for a value; `none` where the arithmetic raises. -/
def positionAmount (text : List Char) : Option Decimal :=
  match Decimal.read text with
  | some (.finite d) => ((ambient.quantize d (-8)).bind ambient.normalize).map fun r => if r.coefficient = 0 then .zero else r
  | _ => none

/-- `_position_decimal_text`; the outer `none` is an exception. -/
def positionDecimalText (value : Native) : Option (Option String) :=
  match finiteDecimalText value with
  | none => some none
  | some text => (positionAmount text).map fun amount =>
    if 15 < digitCount (Decimal.format amount) then none else some (String.ofList (Decimal.format amount))

variable (beyond : Char → List Char)

def positionRow (p : Position) : Option PositionRow := do
  let symbol := Text.upper beyond (Text.strip (← p.symbol))
  if !isPositionSymbol symbol then none
  else
    let quantity ← positionDecimalText p.quantity
    let marketValue ← positionDecimalText p.marketValue
    let currency := currencyOf beyond p.currency
    match quantity, marketValue with
    | some quantity, some marketValue =>
      if !isCurrency currency then none
      else
        let avgCost ← positionDecimalText p.averageCost
        some ⟨symbol, quantity, marketValue, currency, avgCost⟩
    | _, _ => none

/-- `build_broker_reported_positions`; `positions` is `none` where they are no sequence. -/
def buildBrokerReportedPositions (positions : Option (List Position)) (stockPositionsEmpty : Bool) : Option (List PositionRow) :=
  match positions with
  | none => none
  | some [] => if stockPositionsEmpty then some [] else none
  | some ps =>
    if maxPositions < ps.length then none
    else (Distinct.gather (positionRow beyond) PositionRow.symbol ps).map (List.insertionSort fun a b => a.symbol ≤ b.symbol)

def PositionRow.entries (row : PositionRow) : List (String × Json) :=
  [("symbol", .text row.symbol), ("quantity", .text row.quantity), ("market_value", .text row.marketValue),
    ("currency", .text row.currency)] ++ row.avgCost.toList.map fun avgCost => ("avg_cost", .text avgCost)

def positionEntries : Option (List PositionRow) → List (String × Json)
  | none => []
  | some rows => [("broker_reported_positions", .list (rows.map fun row => .dict row.entries)),
      ("broker_reported_positions_scope", .text positionsScope)] ++
    if rows = [] then [("broker_reported_positions_complete", .bool true)] else []

end Reported

section Projected

def isDigit (c : Char) : Bool := (Text.digit c).isSome

def isWhole : List Char → Bool
  | [] => false
  | '0' :: more => more = []
  | c :: _ => '1' ≤ c && c ≤ '9'

def isFraction : List Char → Bool
  | [] => true
  | '.' :: fraction => fraction ≠ [] && fraction.all isDigit
  | _ => false

/-- The full match of `^-?(?:0|[1-9]\d*)(?:\.\d+)?$`. -/
def isDecimalText (cs : List Char) : Bool :=
  isWhole ((Decimal.unsigned cs).takeWhile isDigit) && isFraction ((Decimal.unsigned cs).dropWhile isDigit)

/-- `_decimal_text` of a text; `none` is `account_facts_invalid`. -/
def decimalText (s : String) : Option String :=
  if !isDecimalText s.toList then none
  else match Decimal.read s.toList with
    | some (.finite amount) =>
      let scale := (-amount.exponent).toNat
      let integerDigits := (Decimal.digits amount.coefficient + amount.exponent).toNat
      if 8 < scale ∨ 15 < integerDigits + scale then none else some s
    | _ => none

def positionKeys : List String := ["symbol", "quantity", "market_value", "currency", "avg_cost"]

def projectPosition : Json → Option PositionRow
  | .dict item =>
    if (item.map Prod.fst).any (· ∉ positionKeys) then none
    else do
      let symbol ← Json.text? (item.lookup "symbol")
      let currency ← Json.text? (item.lookup "currency")
      if !isPositionSymbol symbol || !isCurrency currency then none
      else
        let quantity ← (Json.text? (item.lookup "quantity")).bind decimalText
        let marketValue ← (Json.text? (item.lookup "market_value")).bind decimalText
        match item.lookup "avg_cost" with
        | none => some ⟨symbol, quantity, marketValue, currency, none⟩
        | some avgCost => ((Json.text? (some avgCost)).bind decimalText).map fun avgCost =>
          ⟨symbol, quantity, marketValue, currency, some avgCost⟩
  | _ => none

def projectPositions (facts : List (String × Json)) : Option (List PositionRow) :=
  let complete := facts.lookup "broker_reported_positions_complete"
  if Json.text? (facts.lookup "broker_reported_positions_scope") ≠ some positionsScope then none
  else if complete.isSome ∧ Json.isTrue complete = false then none
  else match Json.list? (facts.lookup "broker_reported_positions") with
    | none => none
    | some raw =>
      if raw = [] ∧ Json.isTrue complete = false ∨ maxPositions < raw.length then none
      else Distinct.gather projectPosition PositionRow.symbol raw

end Projected

end IbkrPlatform.AccountFacts
