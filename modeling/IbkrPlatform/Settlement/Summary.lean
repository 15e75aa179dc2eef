import IbkrPlatform.Settlement.Records

/-! The rows that a settlement store is reported as. -/

namespace IbkrPlatform.Settlement

/-- A sequence of the interpreter: the default fills are a tuple, and JSON knows lists only. -/
inductive Container
  | tuple
  | list
deriving DecidableEq

structure Fills where
  container : Container
  items : List Fill
deriving DecidableEq

structure Row where
  symbol : String
  side : String
  quantity : ℚ
  brokerOrderId : Option String
  filledQuantity : Option ℚ
  averageFillPrice : Option ℚ
  remaining : Option ℚ
  commission : Option ℚ
  lastUpdate : Option String
  brokerConfirmedTerminal : Bool
  settlementAttemptId : String
  settlementSequence : ℕ
  sourceRunId : String
  submittedAt : String
  sourceStartedAt : String
  fills : Fills
  brokerStatus : String
  status : String
deriving DecidableEq

def Row.decoded (row : Row) : Row := { row with fills := ⟨.list, row.fills.items⟩ }

def terminalLabel (status : String) : String :=
  if status = "filled" then "Filled" else if status = "cancelled" then "Cancelled" else "Rejected"

def rowOf (r : Record) : Row :=
  let observed := r.observations.getLast?
  let outcome := (observed.map Observation.outcome).getD (.unknown r.orderId)
  { symbol := r.data.symbol
    side := r.data.side
    quantity := r.data.quantity
    brokerOrderId := r.orderId
    filledQuantity := outcome.filledQty
    averageFillPrice := outcome.avgPrice
    remaining := outcome.remaining
    commission := outcome.commission
    lastUpdate := outcome.lastUpdate
    brokerConfirmedTerminal := outcome.terminal
    settlementAttemptId := r.data.attemptId
    settlementSequence := (observed.map Observation.sequence).getD 0
    sourceRunId := r.data.sourceRunId
    submittedAt := r.data.submittedAt
    sourceStartedAt := r.data.sourceStartedAt
    fills := ⟨if observed.isSome then .list else .tuple, outcome.fills⟩
    brokerStatus := outcome.status
    status := if outcome.terminal then terminalLabel outcome.status else "UNKNOWN" }

/-- `settlement_summary`; the lists of option orders are always empty. -/
structure Summary where
  ordersSubmitted : List Row
  ordersFilled : List Row
  ordersPartiallyFilled : List Row
  ordersRejectedOrCancelled : List Row
  ordersPending : List Row
  executionStatus : String
  reconciliationRequired : Bool

def Row.settledUnfilled (row : Row) : Bool := row.brokerConfirmedTerminal ∧ row.brokerStatus ≠ "filled"

def summaryOf (rows : List Row) : Summary :=
  let pending := rows.filter (!·.brokerConfirmedTerminal)
  { ordersSubmitted := rows
    ordersFilled := rows.filter fun row => row.brokerConfirmedTerminal ∧ row.brokerStatus = "filled"
    ordersPartiallyFilled := rows.filter fun row => row.settledUnfilled ∧ 0 < row.filledQuantity.getD 0
    ordersRejectedOrCancelled := rows.filter Row.settledUnfilled
    ordersPending := pending
    executionStatus := if pending = [] then "completed" else "pending_reconciliation"
    reconciliationRequired := pending ≠ [] }

def settlementSummary (profile : String) (s : Store) : Except String Summary :=
  match records profile s with
  | .error e => .error e
  | .ok rs => .ok (summaryOf (rs.map rowOf))

lemma settlementSummary_rows {profile : String} {s : Store} {summary : Summary}
    (h : settlementSummary profile s = .ok summary) {row : Row} (hrow : row ∈ summary.ordersSubmitted) :
    ∃ r, ReadBack s r ∧ row = rowOf r := by
  unfold settlementSummary at h
  split at h
  · cases h
  · rename_i rs hrs
    obtain rfl := Except.ok.inj h
    obtain ⟨r, hr, rfl⟩ := List.mem_map.mp hrow
    exact ⟨r, records_ok hrs hr, rfl⟩

lemma settlementSummary_nodup {profile : String} {s : Store} {summary : Summary}
    (h : settlementSummary profile s = .ok summary) : (summary.ordersSubmitted.map Row.settlementAttemptId).Nodup := by
  unfold settlementSummary at h
  split at h
  · cases h
  · rename_i rs hrs
    obtain rfl := Except.ok.inj h
    have hkeys : (rs.map rowOf).map Row.settlementAttemptId = rs.map fun r => r.data.attemptId := by
      rw [List.map_map]
      rfl
    rw [summaryOf, hkeys]
    exact records_nodup hrs

end IbkrPlatform.Settlement
