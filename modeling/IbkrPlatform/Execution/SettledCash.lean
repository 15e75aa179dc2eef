import IbkrPlatform.Execution.Sizing

/-! The restriction of one settled-cash buy, through its preparation and its final write. -/

namespace IbkrPlatform.Execution.SettledCash

open Sizing

/-- What `float` reads from a broker value. -/
inductive BrokerValue
  | unparsable
  | nonFinite
  | finite (value : ℚ)
deriving DecidableEq

/-- An attribute that should be an aware `datetime`; `some none` is anything else. -/
abbrev Stamp := Option (Option ℚ)

/-- A row of `accountValueEvent`; its texts are stripped and its currency is upper case. -/
structure AccountValue where
  account : String
  currency : String
  tag : String
  value : BrokerValue
  stale : Bool
  asOf : Stamp
  observedAt : Stamp
deriving DecidableEq

/-- In seconds. -/
def maxAge : ℚ := 30

def fresh (now : ℚ) : Stamp → Bool
  | none => true
  | some none => false
  | some (some stamp) => 0 ≤ now - stamp ∧ now - stamp ≤ maxAge

structure BrokerOrder where
  account : Option String
  action : String
  orderType : String
  totalQuantity : BrokerValue
  lmtPrice : BrokerValue
  contractCurrency : String
deriving DecidableEq

structure Deadline where
  refreshStarted : ℚ
  accountId : Option String
  currency : String
  remainingBuyingPower : ℚ
  reserved : ℚ
  quantityStep : ℚ
  minimumOrderNotional : ℚ
  invalid : Bool
  preparedQuantity : Option ℚ
deriving DecidableEq

namespace Deadline

def enter (refreshStarted : ℚ) (accountId : Option String) (currency : String)
    (buyingPower reserved quantityStep minimumOrderNotional : ℚ) : Deadline :=
  ⟨refreshStarted, accountId, currency, buyingPower, reserved, quantityStep, minimumOrderNotional, false, none⟩

def concerns (d : Deadline) (row : AccountValue) : Bool :=
  some row.account = d.accountId ∧ row.currency = d.currency ∧ row.tag = "SettledCash"

def valid (now : ℚ) (row : AccountValue) : Option ℚ :=
  match row.value with
  | .finite value => if value ≤ 0 ∨ row.stale ∨ !fresh now row.asOf ∨ !fresh now row.observedAt then none else some value
  | _ => none

/-- `_observe`: increases never replenish the budget that the cycle shares. -/
def observe (d : Deadline) (now : ℚ) (row : AccountValue) : Deadline :=
  if d.concerns row then
    match valid now row with
    | none => { d with invalid := true }
    | some value =>
      { d with remainingBuyingPower := min d.remainingBuyingPower (investableBuyingPower value d.reserved) }
  else d

def scopeMismatch : String := "settled_cash_scope_mismatch"

/-- The check of `prepare_intent` before it qualifies the contract. -/
def inScope (d : Deadline) (intent : Intent) (currency : String) : Bool :=
  d.accountId.getD "" ≠ "" ∧ currency = d.currency ∧ intent.accountId = d.accountId

def prepareIntent (kit : Kit) (d : Deadline) (intent : Intent) (limitPrice : ℚ) : Deadline × Option Intent :=
  let quantity := min intent.quantity
    (kit.floorOrderQuantity (d.remainingBuyingPower * (95 / 100) / limitPrice) d.quantityStep)
  let invalid := d.invalid || (quantity ≤ 0 || quantity * limitPrice < d.minimumOrderNotional)
  if invalid then ({ d with invalid := true }, none)
  else ({ d with preparedQuantity := some quantity }, some { intent with quantity := quantity })

inductive Refused | changed | stale
deriving DecidableEq

def Refused.message : Refused → String
  | changed => "settled_cash_changed: refusing IBKR placeOrder"
  | stale => "settled_cash_stale: refusing IBKR placeOrder"

def accepts (d : Deadline) (order : BrokerOrder) : Bool :=
  match order.totalQuantity, order.lmtPrice with
  | .finite quantity, .finite price =>
    !d.invalid ∧ order.account = d.accountId ∧ d.preparedQuantity = some quantity ∧
      order.contractCurrency = d.currency ∧ order.action = "BUY" ∧ order.orderType = "LMT" ∧ 0 < quantity ∧
      0 < price ∧ quantity * price ≤ d.remainingBuyingPower
  | _, _ => false

/-- `placeOrder`: `none` forwards the order. -/
def placeOrder (d : Deadline) (now : ℚ) (order : BrokerOrder) : Option Refused :=
  if !d.accepts order then some .changed
  else if 0 ≤ now - d.refreshStarted ∧ now - d.refreshStarted ≤ maxAge then none
  else some .stale

end Deadline

end IbkrPlatform.Execution.SettledCash
