import IbkrPlatform.Execution.NewRiskGate

/-! The allocation of a strategy decision, and the risk approval that binds it. -/

namespace IbkrPlatform.Execution.RiskAuthority

open NewRiskGate

/-- `signal_metadata.allocation`; its symbols are stripped and upper case. -/
structure Allocation where
  targetMode : Option String
  strategySymbols : List Symbol
  riskSymbols : List Symbol
  incomeSymbols : List Symbol
  safeHavenSymbols : List Symbol
  targets : List (Symbol × ℚ)

/-- `signal_metadata.risk_authority`; a number is `none` where it is no finite int or float. -/
structure Authority where
  strategyProfile : Option String
  accountIds : List String
  tradeDate : Option String
  signalDate : Option String
  effectiveDate : Option String
  snapshotAsOf : Option String
  targets : List (Symbol × Option ℚ)
  maxTargetValues : List (Symbol × Option ℚ)
  portfolioEquity : Option ℚ

structure OptionIntent where
  label : Symbol
  underlier : Option Symbol
  assetClass : String
  intentType : String
  action : String

structure Metadata where
  allocation : Option Allocation
  riskGate : Option String
  riskFlags : List String
  riskAuthority : Option Authority
  tradeDate : Option String
  signalDate : Option String
  effectiveDate : Option String
  snapshotAsOf : Option String
  optionOrderIntents : List OptionIntent
  cashOnlyDeleverageMode : Bool
  smallAccountWarning : Bool
  priceFallbacks : List (Symbol × ℚ)

def OptionIntent.executable (o : OptionIntent) : Bool :=
  o.assetClass = "option" ∧ (o.intentType = "single_leg_option" ∧ o.action ∈ ["buy_to_open", "sell_to_close"] ∨
    o.intentType = "multi_leg_option" ∧ o.action = "sell_to_open_put_credit_spread")

def isClose (a b relTol absTol : ℚ) : Bool := |a - b| ≤ max (relTol * max |a| |b|) absTol

def resolveWeightAllocation (m : Metadata) : Except Refusal Allocation :=
  match m.allocation with
  | none => .error .allocationMissing
  | some allocation => if allocation.targetMode = some "weight" then .ok allocation else .error .targetModeNotWeight

def approval (m : Metadata) (strategyProfile : Option String) (accountIds : List String) : Option Authority :=
  m.riskAuthority.filter fun a =>
    m.riskGate = some "APPROVE" ∧ "risk_gate:passed" ∈ m.riskFlags ∧ a.strategyProfile = strategyProfile ∧
      a.accountIds = accountIds ∧ a.tradeDate = m.tradeDate ∧ a.signalDate = m.signalDate ∧
      a.effectiveDate = m.effectiveDate ∧ a.snapshotAsOf = m.snapshotAsOf

def sameKeys {A B : Type} (xs : List (Symbol × A)) (ys : List (Symbol × B)) : Bool :=
  (xs.all fun x => (ys.lookup x.1).isSome) && ys.all fun y => (xs.lookup y.1).isSome

def limitValid (equity target : ℚ) (approved cap : Option ℚ) : Bool :=
  match approved, cap with
  | some approved, some cap =>
    isClose target approved 0 (1 / 1000000000) && 0 ≤ cap && isClose cap (approved * equity) (1 / 100000000) (1 / 100)
  | _, _ => false

def requireLiveRiskAuthority (m : Metadata) (allocation : Allocation) (strategyProfile : Option String)
    (accountIds : List String) : Except Refusal (List (Symbol × ℚ)) :=
  match approval m strategyProfile accountIds with
  | none => .error .approvalRequired
  | some authority =>
    match authority.portfolioEquity.filter (0 < ·) with
    | none => .error .portfolioEquityInvalid
    | some equity =>
      if !sameKeys allocation.targets authority.targets || !sameKeys allocation.targets authority.maxTargetValues then
        .error .allocationDiffers
      else if allocation.targets.all fun t => limitValid equity t.2 (authority.targets.lookup t.1).join
          (authority.maxTargetValues.lookup t.1).join then
        .ok (allocation.targets.map fun t => (t.1, (authority.maxTargetValues.lookup t.1).join.getD 0))
      else .error .orderLimitInvalid

end IbkrPlatform.Execution.RiskAuthority
