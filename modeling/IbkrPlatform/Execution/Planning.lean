import Mathlib.Data.List.Sort
import Mathlib.Data.String.Basic
import IbkrPlatform.Execution.RiskAuthority
import IbkrPlatform.Execution.SettledCash

/-! The part of a rebalance before its first order: authority, sizing, observations, and the lock. -/

namespace IbkrPlatform.Execution.Planning

open Library Orders Sizing NewRiskGate RiskAuthority SettledCash

structure Position where
  quantity : ℚ
  avgCost : ℚ

/-- The arguments of `execute_rebalance`; the execution mode is stripped, in lower case, with underscores. -/
structure Request where
  positions : List (Symbol × Position)
  equity : ℚ
  buyingPower : ℚ
  metadata : Metadata
  strategyProfile : Option String
  accountIds : List String
  dryRunOnly : Bool
  executionMode : String
  cashReserveRatio : ℚ
  cashReserveFloor : ℚ
  rebalanceThresholdRatio : ℚ
  premium : Premium
  quantityStep : ℚ
  minOrderNotional : ℚ
  safeHavenThreshold : ℚ
  marketCurrency : String
  cashOnlyExecution : Bool
  paperExecutionAdmissionEnabled : Bool

structure OpenOrder where
  status : String
  account : Option String
  symbol : Option Symbol
  secType : String
deriving DecidableEq

structure Fill where
  account : Option String
  symbol : Option Symbol
  date : Option String

inductive Broker
  | connection
  | settled (deadline : Deadline)
deriving DecidableEq

structure Environment (W : Type) where
  gateEnabled : Bool
  stoplossEnabled : Bool
  effectiveToday : String → Option Bool
  /-- The order in which the interpreter iterates over a set. -/
  setOrder : List Symbol → List Symbol
  evaluateAdmission : W → Except Refusal Admission × W
  sizingScale : W → Option ℚ × W
  session : Option (Session W)
  quotes : List Symbol → W → Except Refusal (List (Symbol × ℚ)) × W
  paperAdmission : W → Bool × W
  openOrders : W → Option (List OpenOrder) × W
  settledCash : W → Option ℚ × W
  availableBuyingPower : W → ℚ × W
  fills : W → List Fill × W
  /-- The exclusive creation of a mode's lock file; an error without a refusal is `FileExistsError`. -/
  openLock : String → W → Except (Option Refusal) Unit × W
  writeLock : String → W → Except Refusal Unit × W
  /-- The target hash in the lock file of a mode. -/
  readLock : String → W → Except Refusal (Option String) × W
  cashBalance : W → Option ℚ × W
  monotonic : W → ℚ × W

structure Ports (W : Type) extends Environment W where
  submit : Broker → Intent → Option (ℚ × ℚ) → W → Except Refusal (Report × Broker) × W

inductive Stop
  | raised (refusal : Refusal)
  | returned (summary : Summary)

section Request

variable (r : Request)

def Request.held (symbol : Symbol) : ℚ := ((r.positions.map fun p => (p.1, p.2.quantity)).lookup symbol).getD 0

def Request.settings (threshold reserved : ℚ) (allocation : Allocation) (caps : List (Symbol × ℚ)) : Book where
  strategySymbols := allocation.strategySymbols
  allSymbols := []
  safeHaven := allocation.safeHavenSymbols.head?
  quantities := r.positions.map fun p => (p.1, p.2.quantity)
  prices := []
  targetMv := []
  caps := caps
  threshold := threshold
  reserved := reserved
  step := if r.quantityStep = 0 then 1 else r.quantityStep
  minimumOrderNotional := max 0 r.minOrderNotional
  premium := r.premium

def resolveExecutionMode : Except Refusal String :=
  if r.dryRunOnly then .ok "dry_run"
  else
    let aliases := [("dryrun", "dry_run"), ("dry_run_only", "dry_run"), ("paper_trading", "paper"),
      ("live_trading", "live"), ("", "paper")]
    let mode := (aliases.lookup r.executionMode).getD r.executionMode
    if mode = "dry_run" then .error .dryRunModeRequiresDryRun
    else if mode = "paper" ∨ mode = "live" then .ok mode
    else .error .executionModeInvalid

def resolveOrderAccountId : Except Refusal (Option String) :=
  if 1 < r.accountIds.length then .error .multipleAccounts else .ok r.accountIds.head?

def requireEffectiveDate (effectiveToday : String → Option Bool) : Except Refusal Unit :=
  if r.strategyProfile ≠ some "tqqq_growth_income" then .ok ()
  else match r.metadata.effectiveDate.bind effectiveToday with
    | none => .error .effectiveDateInvalid
    | some today => if today then .ok () else .error .notEffectiveToday

structure Authorized where
  allocation : Allocation
  caps : List (Symbol × ℚ)
  mode : String
  orderAccount : Option String

def authorize (effectiveToday : String → Option Bool) : Except Refusal Authorized := do
  requireEffectiveDate r effectiveToday
  let allocation ← resolveWeightAllocation r.metadata
  let caps ← requireLiveRiskAuthority r.metadata allocation r.strategyProfile r.accountIds
  if r.metadata.optionOrderIntents.any OptionIntent.executable then .error .optionIntentsUnlimited
  let mode ← resolveExecutionMode r
  let orderAccount ← resolveOrderAccountId r
  pure ⟨allocation, caps, mode, orderAccount⟩

/-- The equity that sizes the targets; `none` is no equity. -/
def sizingEquity : Option ℚ :=
  if 0 < r.equity then some r.equity
  else
    let gross := (r.positions.map fun p => p.2.quantity * p.2.avgCost).sum
    if r.cashOnlyExecution ∧ 0 < gross then some gross else none

def reserve (equity : ℚ) : ℚ := max (equity * r.cashReserveRatio) (max 0 r.cashReserveFloor)

/-- `_apply_safe_haven_cash_substitution_to_weights`. -/
def substituteSafeHavens (safeHavens : List Symbol) (investable : ℚ) (weights : List (Symbol × ℚ)) :
    List (Symbol × ℚ) :=
  if r.safeHavenThreshold ≤ 0 then weights
  else weights.map fun t =>
    if t.1 ∈ safeHavens ∧ 0 < investable * t.2 ∧ investable * t.2 < r.safeHavenThreshold then (t.1, 0) else t

/-- `_apply_snapshot_price_fallbacks`. -/
def applyPriceFallbacks (symbols : List Symbol) (prices : List (Symbol × ℚ)) : List (Symbol × ℚ) :=
  (symbols.filterMap fun s =>
    if 0 < (prices.lookup s).getD 0 then none
    else (r.metadata.priceFallbacks.lookup s).map fun price => (s, price)) ++ prices

def smallAccountCandidates (allocation : Allocation) (targets : List (Symbol × ℚ)) : List Symbol :=
  let named := (allocation.riskSymbols ++ allocation.incomeSymbols).eraseDups
  if named = [] then (targets.map Prod.fst).filter (· ∉ allocation.safeHavenSymbols) else named

/-- `SMALL_ACCOUNT_SAFE_HAVEN_CASH_SUBSTITUTE_LIMIT_USD`. -/
def smallAccountLimit : ℚ := 2000

def overCap (caps : List (Symbol × ℚ)) (target : Symbol × ℚ) : Bool :=
  match caps.lookup target.1 with
  | none => true
  | some cap => cap + 1 / 100 < target.2

def targetValues (kit : Kit) (allocation : Allocation) (investable : ℚ) (weights : List (Symbol × ℚ))
    (prices : List (Symbol × ℚ)) (step : ℚ) : List (Symbol × ℚ) :=
  let targets := (substituteSafeHavens r allocation.safeHavenSymbols investable weights).map fun t =>
    (t.1, investable * t.2)
  kit.applySmallAccountCompatibility targets prices (smallAccountCandidates allocation targets)
    allocation.safeHavenSymbols step smallAccountLimit

def symbolsOf (allocation : Allocation) (weights : List (Symbol × ℚ)) : List Symbol :=
  let keys := (weights.map Prod.fst ++ r.positions.map Prod.fst).eraseDups
  if allocation.strategySymbols = [] then keys else keys.filter (· ∈ allocation.strategySymbols)

end Request

def matchesAccount (selected : List String) (account : Option String) : Bool :=
  selected = [] ∨ account.getD "" ∈ selected

def sortedSymbols (symbols : List Symbol) : List Symbol := symbols.eraseDups.insertionSort (· ≤ ·)

structure PendingObservation where
  symbols : List Symbol
  cashRiskUnknown : Bool

/-- `_observe_pending_orders`; `none` is unavailable evidence. -/
def observePendingOrders (symbols : List Symbol) (selected : List String) : List OpenOrder → Option PendingObservation
  | [] => some ⟨[], false⟩
  | row :: rows =>
    let rest := observePendingOrders symbols selected rows
    let taint := rest.map fun p => { p with cashRiskUnknown := true }
    if row.status ∈ ["Cancelled", "ApiCancelled", "Inactive", "Filled"] then rest
    else if selected ≠ [] ∧ row.account = none then
      match row.symbol with
      | some s => if s ∉ symbols ∧ row.secType = "STK" then taint else none
      | none => none
    else if !matchesAccount selected row.account then rest
    else match row.symbol with
      | none => none
      | some s => if s ∈ symbols then rest.map fun p => { p with symbols := s :: p.symbols } else taint

/-- `_collect_same_day_filled_symbols`. -/
def collectSameDayFilled (symbols : List Symbol) (tradeDate : Option String) (selected : List String)
    (fills : List Fill) : List Symbol :=
  if tradeDate.getD "" = "" then []
  else sortedSymbols <| (fills.filter fun f => matchesAccount selected f.account ∧ f.date = tradeDate).filterMap
    fun f => f.symbol.filter (· ∈ symbols)

section Plans

variable (kit : Kit) (b : Book)

structure Search where
  found : Bool
  missingPrice : List Symbol
  insufficientBuyingPower : List Symbol
  minNotional : List Symbol
  quantityZero : List Symbol

def searchSells (s : Search) : List Symbol → Search
  | [] => s
  | symbol :: symbols =>
    if b.currentMv symbol ≤ b.target symbol + b.threshold then searchSells s symbols
    else match b.price? symbol with
      | none => searchSells { s with missingPrice := s.missingPrice ++ [symbol] } symbols
      | some price =>
        if 0 < b.sellQuantity symbol kit price then { s with found := true }
        else searchSells { s with quantityZero := s.quantityZero ++ [symbol] } symbols

def searchBuys (investable : ℚ) (s : Search) : List (Symbol × ℚ) → Search
  | [] => s
  | (symbol, target) :: targets =>
    if target - b.threshold ≤ b.currentMv symbol then searchBuys investable s targets
    else match b.price? symbol with
      | none => searchBuys investable { s with missingPrice := s.missingPrice ++ [symbol] } targets
      | some price =>
        let buyValue := min (target - b.currentMv symbol) (investable * (95 / 100))
        if buyValue ≤ 0 then
          searchBuys investable { s with insufficientBuyingPower := s.insufficientBuyingPower ++ [symbol] } targets
        else if buyValue < b.minimumOrderNotional then
          searchBuys investable { s with minNotional := s.minNotional ++ [symbol] } targets
        else if 0 < plannedBuyOrderQuantity kit b.step buyValue (limitBuyPrice b.premium symbol price) then
          { s with found := true }
        else searchBuys investable { s with quantityZero := s.quantityZero ++ [symbol] } targets

def fundingCandidates : List (Symbol × ℚ) :=
  b.targetMv.filter fun t => !b.isSafeHaven t.1 ∧ b.threshold < t.2 - b.currentMv t.1 ∧
    b.minimumOrderNotional < |t.2 - b.currentMv t.1|

def fundingNeeds (candidates : List (Symbol × ℚ)) : List (ℚ × ℚ) :=
  candidates.filterMap fun t =>
    if t.2 - b.currentMv t.1 ≤ b.threshold then none
    else ((b.prices.lookup t.1).filter (0 < ·)).map fun ask =>
      (t.2 - b.currentMv t.1, limitBuyPrice b.premium t.1 ask)

def cashSweepQuantity (newRiskBlocked hasSellPlan : Bool) (investable : ℚ) : ℤ :=
  let candidates := if newRiskBlocked then [] else fundingCandidates b
  match b.safeHaven with
  | none => 0
  | some safeHaven =>
    let price := (b.prices.lookup safeHaven).getD 0
    let held := truncate (b.quantity safeHaven)
    if hasSellPlan ∨ candidates = [] ∨ price ≤ 0 ∨ b.quantity safeHaven ≤ 0 ∨ held ≤ 0 then 0
    else if kit.shouldSellCashSweep held price (max 0 investable) (fundingNeeds b candidates) then held else 0

def noPlanReason (s : Search) : Reason × ExecutionStatus :=
  if s.missingPrice ≠ [] then (.missingPrice (sortedSymbols s.missingPrice), .blocked)
  else if s.insufficientBuyingPower ≠ [] then
    (.insufficientBuyingPower (sortedSymbols s.insufficientBuyingPower), .blocked)
  else if s.minNotional ≠ [] then (.minNotional (sortedSymbols s.minNotional), .noOp)
  else if s.quantityZero ≠ [] then (.quantityZero (sortedSymbols s.quantityZero), .noOp)
  else (.targetDiffBelowThreshold, .noOp)

end Plans

def recordUnsupportedOptionIntents (s : Summary) (intents : List OptionIntent) : Summary :=
  { s with skippedReasons := s.skippedReasons ++
      (intents.filter (!·.executable)).map fun o => .unsupportedOptionIntentType o.label }

def noPlanSummary (summary : Summary) (search : Search) (intents : List OptionIntent) : Summary :=
  let (reason, status) := noPlanReason search
  let summary := { summary with ordersSkipped := summary.ordersSkipped ++
    (sortedSymbols search.missingPrice).map fun s => ⟨s, none, .missingPrice, none⟩ }
  let summary := recordUnsupportedOptionIntents summary intents
  let reason := if reason = .targetDiffBelowThreshold ∧ (intents.any (!·.executable)) then .optionOrdersSkipped
    else reason
  let summary := summary.stop status reason
  if reason = .targetDiffBelowThreshold then summary else summary.because reason

structure Plan where
  book : Book
  orderAccount : Option String
  newRiskBlocked : Bool
  cashSweepQuantity : ℤ
  anticipatedBuyingPower : ℚ
  summary : Summary

section Stages

variable {W : Type} (kit : Kit) (ports : Environment W) (r : Request)

def lift {α : Type} (x : Except Refusal α) : Attempt W Stop α :=
  match x with
  | .ok a => pure a
  | .error refusal => throw (.raised refusal)

def call {α : Type} (f : W → Except Refusal α × W) : Attempt W Stop α :=
  Attempt.of fun w => match f w with
    | (.ok a, w) => (.ok a, w)
    | (.error refusal, w) => (.error (.raised refusal), w)

/-- The admission of this cycle; `none` where the gate is off. -/
def cycleAdmission : Attempt W Stop (Option Admission) := do
  if !ports.gateEnabled then pure none
  else
    let preview ← call ports.evaluateAdmission
    if r.dryRunOnly ∧ ports.session.isNone then pure (some preview)
    else
      let admission ← call (evaluatePersistent ports.evaluateAdmission ports.session)
      pure (some admission)

/-- `scale_targets_for_admission`. -/
def scaleTargets (targets : List (Symbol × ℚ)) : Option Admission → Attempt W Stop (List (Symbol × ℚ))
  | none => pure targets
  | some admission => do
    if ports.stoplossEnabled then pure (kit.applyCombinedScale targets admission.combinedScale)
    else
      let scale ← Attempt.total ports.sizingScale
      pure (kit.applyCombinedScale targets scale)

def sizeTargets (a : Authorized) (equity : ℚ) (weights : List (Symbol × ℚ)) : Attempt W Stop Book := do
  let reserved := reserve r equity
  let investable := equity - reserved
  let settings := r.settings (equity * r.rebalanceThresholdRatio) reserved a.allocation a.caps
  let allSymbols := ports.setOrder (symbolsOf r a.allocation weights)
  let quoted ← call (ports.quotes allSymbols)
  let prices := applyPriceFallbacks r allSymbols quoted
  let targetMv := targetValues r kit a.allocation investable weights prices settings.step
  if targetMv.any (overCap a.caps) then throw (.raised .targetExceedsLimit)
  else pure { settings with allSymbols, prices, targetMv }

structure Observed where
  cashRiskUnknown : Bool
  ledgerUnverified : Bool
  settledCash : Option ℚ

def managedSymbols (b : Book) : List Symbol := b.allSymbols ++ r.metadata.optionOrderIntents.filterMap (·.underlier)

def observeAccount (b : Book) (summary : Summary) : Attempt W Stop Observed := do
  let rows ← Attempt.total ports.openOrders
  match rows.bind (observePendingOrders (managedSymbols r b) r.accountIds) with
  | none => throw (.returned ((summary.stop .blocked .pendingOrdersUnavailable).because .pendingOrdersUnavailable))
  | some pending =>
    if pending.symbols ≠ [] then
      let reason := Reason.pendingOrdersDetected (sortedSymbols pending.symbols)
      throw (.returned ((summary.stop .blocked reason).because reason))
    else if r.cashOnlyExecution then
      let settledCash ← Attempt.total ports.settledCash
      pure ⟨pending.cashRiskUnknown, settledCash.isNone, settledCash⟩
    else pure ⟨pending.cashRiskUnknown, false, none⟩

def anticipate (o : Observed) : Attempt W Stop ℚ :=
  if r.cashOnlyExecution then pure (max 0 (o.settledCash.getD 0))
  else Attempt.total ports.availableBuyingPower

def settlePlan (b : Book) (o : Observed) (newRiskBlocked unavailable : Bool) (anticipated : ℚ) (summary : Summary) :
    Except Stop ℤ :=
  let investable := investableBuyingPower anticipated b.reserved
  let sells := searchSells kit b ⟨false, [], [], [], []⟩ b.allSymbols
  let sweep := cashSweepQuantity kit b newRiskBlocked sells.found investable
  let hasSellPlan := sells.found || 0 < sweep
  let search := searchBuys kit b investable { sells with found := false } b.targetMv
  if search.found ∧ !r.dryRunOnly ∧ unavailable then .error (.raised .persistentBreakerUnavailable)
  else if (o.cashRiskUnknown ∨ o.ledgerUnverified) ∧ b.buyNeeded ≠ [] ∧ !hasSellPlan then
    .error (.returned { (summary.stop .blocked .accountNewRiskGate).because .accountNewRiskGate with
      buyBlockReason := some .accountNewRiskGate })
  else if !hasSellPlan ∧ !search.found then
    .error (.returned (noPlanSummary summary search r.metadata.optionOrderIntents))
  else .ok sweep

/-- `_try_create_execution_lock`. -/
def tryCreateLock (mode : String) : Attempt W Stop Bool := do
  let opened ← Attempt.total (ports.openLock mode)
  match opened with
  | .ok () =>
    call (ports.writeLock mode)
    pure true
  | .error none => pure false
  | .error (some refusal) => throw (.raised refusal)

def takeLock (b : Book) (mode : String) (summary : Summary) : Attempt W Stop Summary := do
  let fills ← Attempt.total ports.fills
  let filled := collectSameDayFilled (managedSymbols r b) r.metadata.tradeDate r.accountIds fills
  if filled ≠ [] then
    throw (.returned ((summary.stop .blocked (.sameDayFillsDetected filled)).because (.sameDayFillsDetected filled)))
  else
    let created ← tryCreateLock ports mode
    if created then pure { summary with executionStatus := .executing }
    else
      let existing ← call (ports.readLock mode)
      let reason := Reason.sameDayExecutionLocked mode (existing.getD "<unknown>")
      throw (.returned ((summary.stop .blocked reason).because reason))

def unavailableCode : String := "PERSISTENT_BREAKER_UNAVAILABLE"

structure Survey where
  authorized : Authorized
  admission : Option Admission
  book : Book
  observed : Observed

def Survey.prohibited (s : Survey) : Bool := (s.admission.map Admission.prohibited).getD false

def Survey.newRiskBlocked (s : Survey) : Bool :=
  s.prohibited || s.observed.cashRiskUnknown || s.observed.ledgerUnverified

def Survey.breakerUnavailable (s : Survey) : Bool :=
  unavailableCode ∈ (s.admission.map Admission.reasonCodes).getD []

def admitPaper (summary : Summary) : Attempt W Stop Unit := do
  if r.paperExecutionAdmissionEnabled then
    let allowed ← Attempt.total ports.paperAdmission
    if !allowed then
      throw (.returned ((summary.stop .blocked .paperExecutionAdmissionBlocked).because
        .paperExecutionAdmissionBlocked))

def survey : Attempt W Stop Survey := do
  let a ← lift (authorize r ports.effectiveToday)
  let summary := Summary.start r.buyingPower
  match sizingEquity r with
  | none => throw (.returned (summary.stop .blocked .noEquity))
  | some equity =>
    let admission ← cycleAdmission ports r
    let weights ← scaleTargets kit ports a.allocation.targets admission
    let b ← sizeTargets kit ports r a equity weights
    admitPaper ports r summary
    let o ← observeAccount ports r b summary
    pure ⟨a, admission, b, o⟩

def settle (s : Survey) : Attempt W Stop Plan := do
  let summary := Summary.start r.buyingPower
  let anticipated ← anticipate ports r s.observed
  match settlePlan kit r s.book s.observed s.newRiskBlocked s.breakerUnavailable anticipated summary with
  | .error stop => throw stop
  | .ok sweep =>
    let summary ← takeLock ports r s.book s.authorized.mode summary
    pure ⟨s.book, s.authorized.orderAccount, s.newRiskBlocked, sweep, anticipated, summary⟩

def planRebalance : Attempt W Stop Plan := do
  let s ← survey kit ports r
  settle kit ports r s

end Stages

end IbkrPlatform.Execution.Planning
