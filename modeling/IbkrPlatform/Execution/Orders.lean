import Mathlib.Data.Rat.Init
import IbkrPlatform.Library.Text

/-! Order intents, broker reports, and the summary that a rebalance keeps of them. -/

namespace IbkrPlatform.Execution

abbrev Symbol := String

inductive Side | buy | sell
deriving DecidableEq

structure Intent where
  symbol : Symbol
  side : Side
  quantity : ℚ
  limitPrice : Option ℚ
  accountId : Option String
deriving DecidableEq

structure Order where
  symbol : Symbol
  side : Side
  quantity : ℚ
  limitPrice : Option ℚ
deriving DecidableEq

def Intent.order (i : Intent) : Order := ⟨i.symbol, i.side, i.quantity, i.limitPrice⟩

structure Report where
  status : String
  brokerOrderId : Option String
  filledQuantity : Option ℚ
  averageFillPrice : Option ℚ
deriving DecidableEq

namespace Orders

open Library

def filledStatuses : List String := ["Filled"]

def partiallyFilledStatuses : List String := ["PartiallyFilled", "Partial"]

def pendingStatuses : List String := ["PendingSubmit", "ApiPending", "ApiPendingSubmit", "Submitted", "PreSubmitted"]

def rejectedOrCancelledStatuses : List String := ["Rejected", "rejected", "Cancelled", "ApiCancelled"]

def knownStatuses : List String :=
  filledStatuses ++ partiallyFilledStatuses ++ pendingStatuses ++ rejectedOrCancelledStatuses

inductive Reason
  | noEquity
  | paperExecutionAdmissionBlocked
  | pendingOrdersUnavailable
  | pendingOrdersDetected (symbols : List Symbol)
  | accountNewRiskGate
  | targetDiffBelowThreshold
  | missingPrice (symbols : List Symbol)
  | insufficientBuyingPower (symbols : List Symbol)
  | minNotional (symbols : List Symbol)
  | quantityZero (symbols : List Symbol)
  | optionOrdersSkipped
  | unsupportedOptionIntentType (symbol : Symbol)
  | sameDayFillsDetected (symbols : List Symbol)
  | sameDayExecutionLocked (mode targetHash : String)
  | submitFailed (symbol : Symbol) (status : String)
  | brokerOrderOutcomeUnknown (detail : Option (Symbol × String))
  | brokerOrderPendingConfirmation
  | smallAccountBelowRecommendedEquity
  | pendingSellRelease (symbols : List Symbol)
  | negativeCash (cash : ℚ)
  | settledCashLedgerUnverified (symbol : Symbol)
  | insufficientSettledCash (symbol : Symbol)
  | settledCashStale (symbol : Symbol)
deriving DecidableEq

def Reason.isSubmitFailed : Reason → Bool
  | submitFailed _ _ => true
  | _ => false

inductive ExecutionStatus | notStarted | blocked | noOp | executing | executed | pendingReconciliation
deriving DecidableEq

inductive SkipReason
  | missingPrice
  | quantityZero
  | riskReductionUnproven
  | minNotional
  | insufficientBuyingPower
  | settledCashLedgerUnverified
  | insufficientSettledCash
  | settledCashStale
  | blocked (reason : Reason)
  | status (text : String)
deriving DecidableEq

structure Payload where
  symbol : Symbol
  side : Side
  quantity : ℚ
  limitPrice : Option ℚ
  status : String
  brokerOrderId : Option String
  filledQuantity : Option ℚ
deriving DecidableEq

def Payload.order (p : Payload) : Order := ⟨p.symbol, p.side, p.quantity, p.limitPrice⟩

structure Skipped where
  symbol : Symbol
  side : Option Side
  reason : SkipReason
  order : Option Payload
deriving DecidableEq

structure Summary where
  ordersSubmitted : List Payload
  ordersPending : List Payload
  ordersFilled : List Payload
  ordersPartiallyFilled : List Payload
  ordersSkipped : List Skipped
  skippedReasons : List Reason
  executionStatus : ExecutionStatus
  noOpReason : Option Reason
  submissionHalted : Bool
  outcomeUnknown : Bool
  buyBlockReason : Option Reason
  residualCashEstimate : ℚ

def Summary.start (residualCashEstimate : ℚ) : Summary :=
  ⟨[], [], [], [], [], [], .notStarted, none, false, false, none, residualCashEstimate⟩

def Summary.skip (s : Summary) (symbol : Symbol) (side : Option Side) (reason : SkipReason) : Summary :=
  { s with ordersSkipped := s.ordersSkipped ++ [⟨symbol, side, reason, none⟩] }

def Summary.because (s : Summary) (reason : Reason) : Summary :=
  { s with skippedReasons := s.skippedReasons ++ [reason] }

def Summary.stop (s : Summary) (status : ExecutionStatus) (reason : Reason) : Summary :=
  { s with executionStatus := status, noOpReason := some reason }

def Summary.list (s : Summary) (order : Payload) : Summary :=
  { s with ordersSubmitted := s.ordersSubmitted ++ [order] }

inductive Outcome | unknown | filled | partiallyFilled | pending | failed
deriving DecidableEq

def outcome (order : Payload) : Outcome :=
  let status := Text.strip order.status
  if status ∉ knownStatuses ∨ status ∉ rejectedOrCancelledStatuses ∧ order.brokerOrderId.getD "" = "" then .unknown
  else if status ∈ filledStatuses then .filled
  else if status ∈ partiallyFilledStatuses then .partiallyFilled
  else if status ∈ pendingStatuses then .pending
  else .failed

def recordOrderOutcome (s : Summary) (order : Payload) : Summary :=
  let status := Text.strip order.status
  match outcome order with
  | .unknown =>
    { s with
      ordersPending := s.ordersPending ++ [order]
      submissionHalted := true
      outcomeUnknown := true
      executionStatus := .pendingReconciliation
      noOpReason := some (.brokerOrderOutcomeUnknown none)
      skippedReasons := s.skippedReasons ++
        [.brokerOrderOutcomeUnknown (some (order.symbol, if status = "" then "unknown" else status))] }
  | .filled => { s with ordersFilled := s.ordersFilled ++ [order] }
  | .partiallyFilled => { s with ordersPartiallyFilled := s.ordersPartiallyFilled ++ [order] }
  | .pending => { s with ordersPending := s.ordersPending ++ [order] }
  | .failed =>
    { s with
      ordersSkipped := s.ordersSkipped ++ [⟨order.symbol, some order.side, .status status, some order⟩]
      skippedReasons := s.skippedReasons ++ [.submitFailed order.symbol status] }

lemma recordOrderOutcome_ordersSubmitted (s : Summary) (order : Payload) :
    (recordOrderOutcome s order).ordersSubmitted = s.ordersSubmitted := by
  unfold recordOrderOutcome
  cases outcome order <;> rfl

end Orders

end IbkrPlatform.Execution
