import IbkrPlatform.Execution.Planning
import IbkrPlatform.Library.EarlyExit

/-! A rebalance: its sells, the budget it observes after them, and its buys. -/

namespace IbkrPlatform.Execution.Rebalance

open Library Orders Sizing NewRiskGate RiskAuthority SettledCash Planning

/-- How an order loop is left: an order's outcome is unknown, or an exception escapes. -/
inductive Exit
  | halted
  | raised (refusal : Refusal)

structure Submission where
  intent : Intent
  broker : Broker
  answer : Option (Report × Broker)

structure Progress (W : Type) where
  world : W
  summary : Summary
  submissions : List Submission
  pendingSellRelease : List Symbol
  sellExecuted : Bool
  dryRunSaleProceeds : ℚ
  investable : ℚ

variable {W : Type} (kit : Kit) (ports : Ports W) (r : Request) (plan : Plan)

def Progress.skip (p : Progress W) (symbol : Symbol) (side : Side) (reason : SkipReason) : Progress W :=
  { p with summary := p.summary.skip symbol (some side) reason }

def Progress.skipBecause (p : Progress W) (symbol : Symbol) (side : Side) (skip : SkipReason) (reason : Reason) :
    Progress W :=
  { p with summary := (p.summary.skip symbol (some side) skip).because reason }

def Progress.list (p : Progress W) (order : Payload) : Progress W := { p with summary := p.summary.list order }

def payload (intent : Intent) (report : Report) : Payload :=
  ⟨intent.symbol, intent.side, intent.quantity, intent.limitPrice, report.status, report.brokerOrderId,
    report.filledQuantity⟩

def dryRunPayload (intent : Intent) : Payload :=
  ⟨intent.symbol, intent.side, intent.quantity, intent.limitPrice, "dry_run", none, none⟩

def Progress.submit (p : Progress W) (broker : Broker) (intent : Intent) (reduction : Option (ℚ × ℚ)) :
    Progress W × Except Refusal (Report × Broker) :=
  let answer := ports.submit broker intent reduction p.world
  ({ p with world := answer.2, submissions := p.submissions ++ [⟨intent, broker, answer.1.toOption⟩] }, answer.1)

section Sells

def sellIntent (symbol : Symbol) (quantity : ℚ) : Intent := ⟨symbol, .sell, quantity, none, plan.orderAccount⟩

inductive SellSize
  | none
  | missingPrice
  | quantityZero (release : Bool)
  | quantity (quantity price : ℚ)

def sellSize (symbol : Symbol) : SellSize :=
  let b := plan.book
  let overweight := b.target symbol + b.threshold < b.currentMv symbol
  if b.isSafeHaven symbol ∧ 0 < plan.cashSweepQuantity then
    match b.price? symbol with
    | .none => .missingPrice
    | some price =>
      let quantity := max plan.cashSweepQuantity (truncate (b.sellQuantity symbol kit price))
      if quantity ≤ 0 then .quantityZero overweight else .quantity quantity price
  else if overweight then
    match b.price? symbol with
    | .none => .missingPrice
    | some price =>
      let quantity := b.sellQuantity symbol kit price
      if quantity ≤ 0 then .quantityZero true else .quantity quantity price
  else .none

def sellAllowed (symbol : Symbol) (quantity price : ℚ) : Bool :=
  symbol ∈ plan.book.strategySymbols ∧ 0 < quantity ∧
    quantity ≤ plan.book.quantity symbol + 1 / 1000000000 ∧ 0 < price

def sellOrder (p : Progress W) (symbol : Symbol) (quantity price : ℚ) : Progress W × Option Exit :=
  let held := plan.book.quantity symbol
  if !sellAllowed plan symbol quantity price then (p, some (.raised .sellExceedsPosition))
  else if plan.newRiskBlocked ∧ !kit.isProvenRiskReducingOrder (some held) .sell quantity (some 0) then
    (p.skip symbol .sell .riskReductionUnproven, none)
  else if r.dryRunOnly then
    ({ p.list (dryRunPayload (sellIntent plan symbol quantity)) with
        dryRunSaleProceeds := p.dryRunSaleProceeds + quantity * price }, none)
  else
    let intent := sellIntent plan symbol quantity
    match p.submit ports .connection intent (if plan.newRiskBlocked then some (held, 0) else none) with
    | (p, .error refusal) => (p, some (.raised refusal))
    | (p, .ok (report, _)) =>
      let order := payload intent report
      let p := { p with summary := recordOrderOutcome p.summary order }
      match outcome order with
      | .unknown => (p, some .halted)
      | .failed => (p, none)
      | _ => ({ p with sellExecuted := true }, none)

def sellStep (p : Progress W) (symbol : Symbol) : Progress W × Option Exit :=
  match sellSize kit plan symbol with
  | .none => (p, none)
  | .missingPrice => (p.skipBecause symbol .sell .missingPrice (.missingPrice [symbol]), none)
  | .quantityZero release =>
    ({ p.skip symbol .sell .quantityZero with
        pendingSellRelease := if release then p.pendingSellRelease ++ [symbol] else p.pendingSellRelease }, none)
  | .quantity quantity price => sellOrder kit ports r plan p symbol quantity price

end Sells

section Budget

def buyingPowerAfterSells (p : Progress W) : ℚ × W :=
  if r.cashOnlyExecution then
    let observed := ports.settledCash p.world
    (max 0 (observed.1.getD 0), observed.2)
  else if r.dryRunOnly then (max 0 (plan.anticipatedBuyingPower + p.dryRunSaleProceeds), p.world)
  else if p.sellExecuted then ports.availableBuyingPower p.world
  else (plan.anticipatedBuyingPower, p.world)

def buysBlockedReason (p : Progress W) : Option Reason × W :=
  let b := plan.book
  if b.buyNeeded = [] then
    (none, if r.cashOnlyExecution then (ports.cashBalance p.world).2 else p.world)
  else if r.metadata.smallAccountWarning then (some .smallAccountBelowRecommendedEquity, p.world)
  else if plan.newRiskBlocked then (some .accountNewRiskGate, p.world)
  else if !r.cashOnlyExecution then (none, p.world)
  else
    let release := p.pendingSellRelease.eraseDups
    if b.rotationGuardShouldBlockBuys kit release p.investable then (some (.pendingSellRelease release), p.world)
    else
      let cash := ports.cashBalance p.world
      match cash.1.filter (· < 0) with
      | some negative => (some (.negativeCash negative), cash.2)
      | none => (none, cash.2)

def budgeted (p : Progress W) : Progress W :=
  let power := buyingPowerAfterSells ports r plan p
  { p with world := power.2, investable := investableBuyingPower power.1 plan.book.reserved }

def startBuys (p : Progress W) : Progress W × Option Reason :=
  let p := budgeted ports r plan p
  let blocked := buysBlockedReason kit ports r plan p
  let summary := match blocked.1 with
    | some reason => { p.summary.because reason with
        buyBlockReason := if reason = .accountNewRiskGate ∨ reason = .smallAccountBelowRecommendedEquity then some reason
          else p.summary.buyBlockReason }
    | none => p.summary
  ({ p with world := blocked.2, summary := summary }, blocked.1)

end Budget

section Buys

def buyIntent (symbol : Symbol) (quantity limitPrice : ℚ) : Intent :=
  ⟨symbol, .buy, quantity, some limitPrice, plan.orderAccount⟩

inductive BuySize
  | missingPrice
  | minNotional
  | quantityZero
  | insufficientBuyingPower
  | quantity (quantity limitPrice : ℚ)

def buySize (symbol : Symbol) (target investable : ℚ) : BuySize :=
  let b := plan.book
  let buyValue := min (target - b.currentMv symbol) (investable * (95 / 100))
  match b.price? symbol with
  | none => .missingPrice
  | some price =>
    if buyValue < b.minimumOrderNotional then .minNotional
    else
      let limit := limitBuyPrice b.premium symbol price
      let planned := plannedBuyOrderQuantity kit b.step buyValue limit
      if planned ≤ 0 then .quantityZero
      else
        let quantity := if investable < planned * limit then kit.floorOrderQuantity (investable / limit) b.step
          else planned
        if quantity ≤ 0 ∨ investable < quantity * limit then .insufficientBuyingPower else .quantity quantity limit

def buyAllowed (symbol : Symbol) (quantity limitPrice : ℚ) : Bool :=
  match plan.book.caps.lookup symbol with
  | none => false
  | some cap => symbol ∈ plan.book.strategySymbols ∧ 0 < quantity ∧ 0 < limitPrice ∧
      quantity * limitPrice ≤ cap - plan.book.currentMv symbol + 1 / 1000000

def remaining (investable : ℚ) : Broker → ℚ
  | .connection => investable
  | .settled deadline => min investable deadline.remainingBuyingPower

def preparedQuantity (quantity : ℚ) : Broker → ℚ
  | .connection => quantity
  | .settled deadline => deadline.preparedQuantity.getD quantity

def buyBroker (refreshStarted investable : ℚ) : Broker :=
  if r.cashOnlyExecution then
    .settled (Deadline.enter refreshStarted plan.orderAccount r.marketCurrency investable plan.book.reserved
      plan.book.step plan.book.minimumOrderNotional)
  else .connection

def submitBuy (p : Progress W) (refreshStarted : ℚ) (symbol : Symbol) (quantity limitPrice : ℚ) :
    Progress W × Option Exit :=
  let intent := buyIntent plan symbol quantity limitPrice
  match p.submit ports (buyBroker r plan refreshStarted p.investable) intent none with
  | (p, .error refusal) => (p, some (.raised refusal))
  | (p, .ok (report, broker)) =>
    let order := payload { intent with quantity := preparedQuantity quantity broker } report
    let p := { p with investable := remaining p.investable broker, summary := recordOrderOutcome p.summary order }
    match outcome order with
    | .unknown => (p, some .halted)
    | .failed => (p, none)
    | _ => ({ p with investable := p.investable - order.quantity * limitPrice }, none)

def buyOrder (p : Progress W) (refreshStarted : ℚ) (symbol : Symbol) (quantity limitPrice : ℚ) :
    Progress W × Option Exit :=
  if !buyAllowed plan symbol quantity limitPrice then (p, some (.raised .buyExceedsLimit))
  else
    let now := if r.cashOnlyExecution then ports.monotonic p.world else (refreshStarted, p.world)
    let p := { p with world := now.2 }
    if ¬ (0 ≤ now.1 - refreshStarted ∧ now.1 - refreshStarted ≤ maxAge) then
      (p.skipBecause symbol .buy .settledCashStale (.settledCashStale symbol), none)
    else if r.dryRunOnly then
      ({ p.list (dryRunPayload (buyIntent plan symbol quantity limitPrice)) with
          investable := p.investable - quantity * limitPrice }, none)
    else submitBuy ports r plan p refreshStarted symbol quantity limitPrice

def sizedBuy (p : Progress W) (refreshStarted : ℚ) (symbol : Symbol) (target : ℚ) : Progress W × Option Exit :=
  match buySize kit plan symbol target p.investable with
  | .missingPrice => (p.skipBecause symbol .buy .missingPrice (.missingPrice [symbol]), none)
  | .minNotional => (p.skip symbol .buy .minNotional, none)
  | .quantityZero => (p.skip symbol .buy .quantityZero, none)
  | .insufficientBuyingPower =>
    (p.skipBecause symbol .buy .insufficientBuyingPower (.insufficientBuyingPower [symbol]), none)
  | .quantity quantity limit => buyOrder ports r plan p refreshStarted symbol quantity limit

def refreshed (p : Progress W) (observed : Option ℚ) (world : W) : Progress W :=
  { p with
    world := world
    investable := min p.investable (investableBuyingPower (max 0 (observed.getD 0)) plan.book.reserved) }

def buyStep (p : Progress W) (t : Symbol × ℚ) : Progress W × Option Exit :=
  if t.2 - plan.book.threshold ≤ plan.book.currentMv t.1 then (p, none)
  else if !r.cashOnlyExecution then sizedBuy kit ports r plan p 0 t.1 t.2
  else
    let started := ports.monotonic p.world
    let observed := ports.settledCash started.2
    let p := refreshed plan p observed.1 observed.2
    match observed.1 with
    | none =>
      (p.skipBecause t.1 .buy .settledCashLedgerUnverified (.settledCashLedgerUnverified t.1), none)
    | some cash =>
      if cash ≤ 0 then (p.skipBecause t.1 .buy .insufficientSettledCash (.insufficientSettledCash t.1), none)
      else sizedBuy kit ports r plan p started.1 t.1 t.2

def blockedStep (reason : Reason) (p : Progress W) (t : Symbol × ℚ) : Progress W × Option Exit :=
  if t.1 ∈ plan.book.buyNeeded.map Prod.fst then (p.skip t.1 .buy (.blocked reason), none) else (p, none)

end Buys

def finish (r : Request) (buyingPower : ℚ) (summary : Summary) : Summary :=
  let s := recordUnsupportedOptionIntents summary r.metadata.optionOrderIntents
  let terminal := s.ordersSubmitted ≠ [] ∨ s.ordersFilled ≠ [] ∨ s.ordersPartiallyFilled ≠ []
  let s := if s.ordersPending ≠ [] then s.stop .pendingReconciliation .brokerOrderPendingConfirmation
    else if terminal then { s with executionStatus := .executed, noOpReason := none }
    else match s.skippedReasons.find? Reason.isSubmitFailed with
      | some reason => s.stop .blocked reason
      | none => { s with executionStatus := .noOp }
  { s with residualCashEstimate := max buyingPower 0 }

/-- How a rebalance ended, the summary it kept, what it submitted, and the world it leaves; an exception that
escapes takes the summary with it. -/
structure Run (W : Type) where
  ending : Option Refusal
  summary : Summary
  submissions : List Submission
  world : W

def Run.orders (run : Run W) : List Order :=
  run.submissions.map (·.intent.order) ++ run.summary.ordersSubmitted.map Payload.order

def Progress.orders (p : Progress W) : List Order :=
  p.submissions.map (·.intent.order) ++ p.summary.ordersSubmitted.map Payload.order

def stopped (world : W) : Stop → Run W
  | .raised refusal => ⟨some refusal, .start r.buyingPower, [], world⟩
  | .returned summary => ⟨none, summary, [], world⟩

def Exit.ending : Exit → Option Refusal
  | .halted => none
  | .raised refusal => some refusal

def Progress.run (p : Progress W) (ending : Option Refusal) : Run W := ⟨ending, p.summary, p.submissions, p.world⟩

def startSells (world : W) : Progress W := ⟨world, plan.summary, [], [], false, 0, 0⟩

def sells (world : W) : Progress W × Option Exit :=
  EarlyExit.loop (sellStep kit ports r plan) (startSells plan world) plan.book.allSymbols

def buys (p : Progress W) (blocked : Option Reason) : Progress W × Option Exit :=
  match blocked with
  | some reason => EarlyExit.loop (blockedStep plan reason) p plan.book.targetMv
  | none => EarlyExit.loop (buyStep kit ports r plan) p plan.book.targetMv

def executePlan (world : W) : Run W :=
  let sold := sells kit ports r plan world
  match sold.2 with
  | some exit => sold.1.run exit.ending
  | none =>
    let start := startBuys kit ports r plan sold.1
    let bought := buys kit ports r plan start.1 start.2
    match bought.2 with
    | some exit => bought.1.run exit.ending
    | none =>
      ⟨none, finish r (buyingPowerAfterSells ports r plan sold.1).1 bought.1.summary, bought.1.submissions,
        bought.1.world⟩

def executeRebalance (world : W) : Run W :=
  match (planRebalance kit ports.toEnvironment r).exec world with
  | (.error stop, world) => stopped r world stop
  | (.ok plan, world) => executePlan kit ports r plan world

end IbkrPlatform.Execution.Rebalance
