import Mathlib.Data.List.Nodup
import IbkrPlatform.Library.Dictionary
import IbkrPlatform.Library.Text
import IbkrPlatform.Settlement.Summary

/-! The facts of an execution summary that a receipt states, and their amendment by a settlement observation. -/

namespace IbkrPlatform.Reporting

open Library Settlement

structure OrderRow where
  brokerOrderId : Option String
  symbol : Option String
  side : Option String
  quantity : Option ℚ
  filledQuantity : Option ℚ
  averageFillPrice : Option ℚ
  brokerConfirmedTerminal : Bool
  status : String
deriving DecidableEq

def orderOf (row : Row) : OrderRow where
  brokerOrderId := row.brokerOrderId
  symbol := some row.symbol
  side := some row.side
  quantity := some row.quantity
  filledQuantity := row.filledQuantity
  averageFillPrice := row.averageFillPrice
  brokerConfirmedTerminal := row.brokerConfirmedTerminal
  status := row.status

inductive Value
  | none
  | text (value : String)
  | orders (rows : List OrderRow)
  | flag (value : Bool)
  | number (value : ℚ)
deriving DecidableEq

def Value.truthy : Value → Bool
  | .none => false
  | .text value => value ≠ ""
  | .orders rows => rows ≠ []
  | .flag value => value
  | .number value => value ≠ 0

abbrev Facts := List (String × Value)

namespace Facts

def get (facts : Facts) (key : String) : Value := (facts.lookup key).getD .none

def orders (facts : Facts) (key : String) : List OrderRow :=
  match facts.get key with
  | .orders rows => rows
  | _ => []

/-- `str(facts.get(key) or "").strip().lower()`. -/
def word (facts : Facts) (key : String) : String :=
  match facts.get key with
  | .text value => (Text.strip value).toLower
  | _ => ""

end Facts

section Amendment

def stockKeys : List String :=
  ["orders_submitted", "orders_pending", "orders_filled", "orders_partially_filled", "orders_rejected_or_cancelled"]

def amendableStatuses : List String := ["executed", "completed", "pending_reconciliation"]

def isOptionKey (key : String) : Bool := "option_orders_".toList.isPrefixOf key.toList

def identity (row : OrderRow) : Option (String × String × String × ℚ) :=
  match row.brokerOrderId, row.symbol, row.side, row.quantity with
  | some orderId, some symbol, some side, some quantity => if orderId = "" then none else some (orderId, symbol, side, quantity)
  | _, _, _, _ => none

section Coverage

variable {α : Type} [DecidableEq α]

def SameElements (xs ys : List α) : Prop := (∀ x ∈ xs, x ∈ ys) ∧ ∀ y ∈ ys, y ∈ xs

instance (xs ys : List α) : Decidable (SameElements xs ys) :=
  inferInstanceAs (Decidable ((∀ x ∈ xs, x ∈ ys) ∧ ∀ y ∈ ys, y ∈ xs))

end Coverage

def Covers (original observed : List OrderRow) : Prop :=
  none ∉ original.map identity ∧ none ∉ observed.map identity ∧ (observed.map identity).Nodup ∧
    SameElements (original.map identity) (observed.map identity)

instance (original observed : List OrderRow) : Decidable (Covers original observed) :=
  inferInstanceAs (Decidable (none ∉ original.map identity ∧ none ∉ observed.map identity ∧ (observed.map identity).Nodup ∧
    SameElements (original.map identity) (observed.map identity)))

def settlementReceiptSummary (baseline observation : Facts) : Facts :=
  let original := stockKeys.flatMap baseline.orders
  let observed := observation.orders "orders_submitted"
  if baseline.get "execution_status" ∉ amendableStatuses.map Value.text ∨
      (baseline.any fun e => isOptionKey e.1 && e.2.truthy) then baseline
  else if original = [] ∨ observed = [] ∨ ¬ Covers original observed then baseline
  else
    let amended : Facts := stockKeys.foldl (fun facts key => Dictionary.put key (.orders (observation.orders key)) facts) baseline
    Dictionary.put "execution_status"
      (.text (if amended.orders "orders_pending" ≠ [] then "pending_reconciliation" else "completed")) amended

def observationOf (summary : Summary) (runId : String) : Facts :=
  let own (rows : List Row) : Value := .orders ((rows.filter fun row => row.sourceRunId = runId).map orderOf)
  [("orders_submitted", own summary.ordersSubmitted), ("orders_filled", own summary.ordersFilled),
    ("orders_partially_filled", own summary.ordersPartiallyFilled),
    ("orders_rejected_or_cancelled", own summary.ordersRejectedOrCancelled), ("orders_pending", own summary.ordersPending),
    ("option_orders_filled", .orders []), ("option_orders_pending", .orders []), ("option_orders_partially_filled", .orders [])]

end Amendment

section Receipt

structure Question where
  dryRun : Bool
  submissionAttempted : Bool := false
  partiallyFilled : Bool := false
  filled : Bool := false
  reconciliationRequired : Bool := false
  riskBlocked : Bool := false
  failed : Bool

structure Fact where
  outcome : String
  brokerConfirmation : String
deriving DecidableEq

def submittedKeys : List String := ["orders_submitted", "option_orders_submitted"]

def pendingKeys : List String := ["orders_pending", "option_orders_pending"]

def partialFillKeys : List String := ["orders_partially_filled", "option_orders_partially_filled"]

def filledKeys : List String := ["orders_filled", "option_orders_filled"]

def failureStatuses : List String := ["error", "failed", "failure"]

def hasAny (summary : Facts) (keys : List String) : Bool := keys.any fun key => summary.orders key ≠ []

def confirmedFill (partially : Bool) (row : OrderRow) : Bool :=
  match row.quantity, row.filledQuantity, row.averageFillPrice with
  | some quantity, some filled, some price =>
    row.brokerOrderId.getD "" ≠ "" ∧ 0 < quantity ∧ 0 < filled ∧ 0 < price ∧ filled ≤ quantity ∧
      if partially then row.brokerConfirmedTerminal = true ∧ row.status = "Cancelled" ∧ filled < quantity
      else row.status = "Filled" ∧ filled = quantity
  | _, _, _ => false

def confirmedFills (summary : Facts) (keys : List String) (partially : Bool) : Bool :=
  let rows := keys.flatMap summary.orders
  rows ≠ [] ∧ rows.all (confirmedFill partially)

/-- `_combined_summary`: a key of the execution summary hides the one of the record. -/
def combinedSummary (executionSummary reconciliationRecord : Facts) : Facts := executionSummary ++ reconciliationRecord

def explicitNonActionOutcome (summary : Facts) : Option String :=
  let head := Text.strip (String.ofList ((summary.word "no_op_reason").toList.takeWhile (· ≠ ':')))
  if head = "no_signal" then some "no_signal"
  else if head = "no_rebalance" ∨ head = "target_diff_below_threshold" then some "no_rebalance" else none

def cycleQuestion (dryRun : Bool) (summary : Facts) (executionFailed : Bool) : Question :=
  let status := summary.word "execution_status"
  let filled := confirmedFills summary filledKeys false
  let partially := confirmedFills summary partialFillKeys true
  { dryRun := dryRun
    submissionAttempted := hasAny summary submittedKeys
    partiallyFilled := partially
    filled := filled
    reconciliationRequired := status = "pending_reconciliation" ∨ hasAny summary pendingKeys ∨
      hasAny summary filledKeys ∧ !filled ∨ hasAny summary partialFillKeys ∧ !partially
    riskBlocked := status = "blocked" ∧ !executionFailed
    failed := executionFailed ∨ status ∈ failureStatuses }

def cycleFact (resolve : Question → Fact) (dryRun : Bool) (executionSummary reconciliationRecord : Facts)
    (executionFailed : Bool) : Fact :=
  let summary := combinedSummary executionSummary reconciliationRecord
  let fact := resolve (cycleQuestion dryRun summary executionFailed)
  match explicitNonActionOutcome summary with
  | none => fact
  | some explicit => if fact.outcome = "no_action" ∧ !dryRun then ⟨explicit, "not_applicable"⟩ else fact

def isExecutionFailure (status reason : String) : Bool :=
  status ∈ failureStatuses ∨ status = "blocked" ∧
    ¬ ["pending_orders_detected:", "same_day_fills_detected:", "same_day_execution_locked:"].any fun start =>
      start.toList.isPrefixOf reason.toList

end Receipt

end IbkrPlatform.Reporting
