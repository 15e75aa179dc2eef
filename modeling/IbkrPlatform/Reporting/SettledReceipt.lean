import IbkrPlatform.Reporting.ExecutionReceipt
import IbkrPlatform.Settlement.Observers

/-! When a settlement amends the summary of the orders that it observed, and what the amended summary says of them. -/

namespace IbkrPlatform.Reporting.SettledReceipt

open Library Settlement

section Conditions

def stockOrders (summary : Facts) : List OrderRow := stockKeys.flatMap summary.orders

def ofRun (runId : String) (rows : List Row) : List Row := rows.filter fun row => row.sourceRunId = runId

structure ObservedOnce (original observed : List OrderRow) : Prop where
  identified : ∀ order ∈ original, identity order ≠ none
  once : ∀ order ∈ original, (observed.map identity).count (identity order) = 1
  others : ∀ row ∈ observed, ∃ order ∈ original, identity order = identity row

structure Amendable (baseline : Facts) (observed : List OrderRow) : Prop where
  status : baseline.get "execution_status" ∈ amendableStatuses.map Value.text
  noOption : ∀ e ∈ baseline, isOptionKey e.1 = true → e.2.truthy = false
  ordered : stockOrders baseline ≠ []
  covered : ObservedOnce (stockOrders baseline) observed

end Conditions

section Coverage

variable {original observed : List OrderRow}

lemma covers_iff : Covers original observed ↔ ObservedOnce original observed := by
  constructor
  · rintro ⟨horiginal, -, hnodup, hsub, hsup⟩
    refine ⟨fun order horder hnone => horiginal (hnone ▸ List.mem_map_of_mem horder), fun order horder => ?_, fun row hrow => ?_⟩
    · exact List.count_eq_one_of_mem hnodup (hsub _ (List.mem_map_of_mem horder))
    · exact List.mem_map.mp (hsup _ (List.mem_map_of_mem hrow))
  · intro h
    have hother : ∀ i ∈ observed.map identity, i ∈ original.map identity := by
      intro i hi
      obtain ⟨row, hrow, rfl⟩ := List.mem_map.mp hi
      exact List.mem_map.mpr (h.others row hrow)
    have hnone : none ∉ original.map identity := by
      intro hmem
      obtain ⟨order, horder, hnone⟩ := List.mem_map.mp hmem
      exact h.identified order horder hnone
    refine ⟨hnone, fun hmem => hnone (hother _ hmem), List.nodup_iff_count_eq_one.mpr fun i hi => ?_, fun i hi => ?_, hother⟩
    · obtain ⟨order, horder, rfl⟩ := List.mem_map.mp (hother i hi)
      exact h.once order horder
    · obtain ⟨order, horder, rfl⟩ := List.mem_map.mp hi
      exact List.count_pos_iff.mp (by rw [h.once order horder]; exact Nat.one_pos)

end Coverage

section Amended

variable {baseline observation : Facts}

def amended (baseline observation : Facts) : Facts :=
  let lists : Facts := stockKeys.foldl (fun facts key => Dictionary.put key (.orders (observation.orders key)) facts) baseline
  Dictionary.put "execution_status"
    (.text (if lists.orders "orders_pending" ≠ [] then "pending_reconciliation" else "completed")) lists

lemma summary_of_amendable (h : Amendable baseline (observation.orders "orders_submitted")) :
    settlementReceiptSummary baseline observation = amended baseline observation := by
  unfold settlementReceiptSummary
  extract_lets original observed
  have hstatus : ¬ (baseline.get "execution_status" ∉ amendableStatuses.map Value.text ∨
      (baseline.any fun e => isOptionKey e.1 && e.2.truthy) = true) := by
    rintro (hstatus | hoption)
    · exact hstatus h.status
    · obtain ⟨e, he, hboth⟩ := List.any_eq_true.mp hoption
      obtain ⟨hkey, htruthy⟩ := (Bool.and_eq_true _ _).mp hboth
      rw [h.noOption e he hkey] at htruthy
      cases htruthy
  have hcovered : ¬ (original = [] ∨ observed = [] ∨ ¬ Covers original observed) := by
    rintro (horiginal | hobserved | hcovers)
    · exact h.ordered horiginal
    · obtain ⟨order, horder⟩ := List.exists_mem_of_ne_nil _ h.ordered
      have hone := h.covered.once order horder
      change observation.orders "orders_submitted" = [] at hobserved
      rw [hobserved] at hone
      cases hone
    · exact hcovers (covers_iff.mpr h.covered)
  rw [if_neg hstatus, if_neg hcovered]
  rfl

lemma summary_of_not_amendable (h : ¬ Amendable baseline (observation.orders "orders_submitted")) :
    settlementReceiptSummary baseline observation = baseline := by
  unfold settlementReceiptSummary
  extract_lets original observed
  split
  · rfl
  · next hstatus =>
    split
    · rfl
    · next hcovered =>
      obtain ⟨hstatus, hoption⟩ := not_or.mp hstatus
      obtain ⟨horiginal, hrest⟩ := not_or.mp hcovered
      obtain ⟨-, hcovers⟩ := not_or.mp hrest
      refine absurd ⟨not_not.mp hstatus, fun e he hkey => ?_, horiginal, covers_iff.mp (not_not.mp hcovers)⟩ h
      by_contra htruthy
      exact hoption (List.any_eq_true.mpr ⟨e, he, (Bool.and_eq_true _ _).mpr ⟨hkey, Bool.not_eq_false _ ▸ htruthy⟩⟩)

lemma amended_lookup (key : String) (hkey : key ≠ "execution_status") :
    (amended baseline observation).lookup key =
      if key ∈ stockKeys then some (.orders (observation.orders key)) else baseline.lookup key := by
  rw [amended, Dictionary.lookup_put_ne hkey, Dictionary.lookup_foldl_put]

lemma amended_orders {key : String} (hkey : key ∈ stockKeys) : (amended baseline observation).orders key = observation.orders key := by
  have hstatus : key ≠ "execution_status" := by
    rintro rfl
    revert hkey
    decide
  rw [Facts.orders, Facts.get, amended_lookup key hstatus, if_pos hkey]
  rfl

lemma amended_get {key : String} (hkey : key ∉ "execution_status" :: stockKeys) :
    (amended baseline observation).get key = baseline.get key := by
  rw [List.mem_cons, not_or] at hkey
  rw [Facts.get, amended_lookup key hkey.1, if_neg hkey.2]
  rfl

lemma amended_status : (amended baseline observation).get "execution_status" =
    .text (if observation.orders "orders_pending" ≠ [] then "pending_reconciliation" else "completed") := by
  have hpending : (stockKeys.foldl (fun facts key => Dictionary.put key (Value.orders (observation.orders key)) facts) baseline :
      Facts).orders "orders_pending" = observation.orders "orders_pending" := by
    rw [Facts.orders, Facts.get, Dictionary.lookup_foldl_put, if_pos (by decide)]
    rfl
  rw [amended, Facts.get, Dictionary.lookup_put_self]
  simp only [hpending, Option.getD_some]

lemma observed_subset : observation.orders "orders_submitted" ⊆ stockOrders (amended baseline observation) := by
  intro row hrow
  have hkey : "orders_submitted" ∈ stockKeys := List.mem_cons_self
  exact List.mem_flatMap.mpr ⟨_, hkey, (amended_orders hkey).symm ▸ hrow⟩

end Amended

section Observation

variable {rows : List Row} {runId : String}

lemma observationOf_pending : (observationOf (summaryOf rows) runId).orders "orders_pending" =
    ((ofRun runId rows).filter (!·.brokerConfirmedTerminal)).map orderOf := by
  have hrows : (summaryOf rows).ordersPending.filter (fun row => row.sourceRunId = runId) =
      (ofRun runId rows).filter (!·.brokerConfirmedTerminal) := by
    change (rows.filter _).filter _ = _
    rw [ofRun, List.filter_filter, List.filter_filter]
    exact List.filter_congr fun row _ => Bool.and_comm _ _
  rw [← hrows]
  rfl

lemma pending_eq_nil_iff {original : List OrderRow} (h : ObservedOnce original ((ofRun runId rows).map orderOf)) :
    (observationOf (summaryOf rows) runId).orders "orders_pending" = [] ↔ ∀ order ∈ original, ∀ row ∈ ofRun runId rows,
      identity (orderOf row) = identity order → row.brokerConfirmedTerminal = true := by
  rw [observationOf_pending, List.map_eq_nil_iff, List.filter_eq_nil_iff]
  constructor
  · intro hall order _ row hrow _
    simpa using hall row hrow
  · intro hall row hrow
    obtain ⟨order, horder, hidentity⟩ := h.others _ (List.mem_map_of_mem hrow)
    rw [hall order horder row hrow hidentity.symm]
    decide

/-- A settlement amends a summary exactly when it observed its stock orders, each once. -/
theorem receipt_amended (baseline : Facts) (rows : List Row) (runId : String) :
    let observed := ofRun runId rows
    let result := settlementReceiptSummary baseline (observationOf (summaryOf rows) runId)
    (result ≠ baseline → Amendable baseline (observed.map orderOf)) ∧
    (Amendable baseline (observed.map orderOf) →
      (∀ order ∈ stockOrders baseline, ∃ order' ∈ stockOrders result, identity order' = identity order) ∧
      result.get "execution_status" = .text (if ∀ order ∈ stockOrders baseline, ∀ row ∈ observed,
          identity (orderOf row) = identity order → row.brokerConfirmedTerminal = true
        then "completed" else "pending_reconciliation") ∧
      ∀ key ∉ "execution_status" :: stockKeys, result.get key = baseline.get key) := by
  intro observed result
  refine ⟨fun hchanged => ?_, fun h => ?_⟩
  · by_contra hnot
    exact hchanged (summary_of_not_amendable hnot)
  · have hresult : result = amended baseline (observationOf (summaryOf rows) runId) := summary_of_amendable h
    rw [hresult]
    refine ⟨fun order horder => ?_, ?_, fun key hkey => amended_get hkey⟩
    · have hmem : identity order ∈ (observed.map orderOf).map identity :=
        List.count_pos_iff.mp (by rw [h.covered.once order horder]; exact Nat.one_pos)
      obtain ⟨row, hrow, hidentity⟩ := List.mem_map.mp hmem
      exact ⟨row, observed_subset hrow, hidentity⟩
    · rw [amended_status, ite_not]
      simp only [pending_eq_nil_iff h.covered]
      rfl

end Observation

section Fixture

open Observers (order₀ filled₀)

def sold₀ : OrderRow := ⟨some "73", some "TQQQ", some "sell", some 3, none, none, false, "Submitted"⟩

def baseline₀ : Facts :=
  [("execution_status", .text "pending_reconciliation"), ("orders_submitted", .orders [sold₀]), ("orders_pending", .orders [sold₀])]

def settled₀ : Row := rowOf ⟨order₀, some "73", none, [⟨1, filled₀⟩]⟩

theorem receipt_amended_sample :
    (settlementReceiptSummary baseline₀ (observationOf (summaryOf [settled₀]) "run")).get "execution_status" = .text "completed" := by
  have hcovers : Covers (stockOrders baseline₀) ((ofRun "run" [settled₀]).map orderOf) := by decide
  have hoption : ∀ e ∈ baseline₀, isOptionKey e.1 = true → e.2.truthy = false := by decide
  have hterminal : ∀ order ∈ stockOrders baseline₀, ∀ row ∈ ofRun "run" [settled₀],
      identity (orderOf row) = identity order → row.brokerConfirmedTerminal = true := by decide
  have h := (receipt_amended baseline₀ [settled₀] "run").2 ⟨by decide, hoption, by decide, covers_iff.mp hcovers⟩
  rw [h.2.1, if_pos hterminal]

end Fixture

end IbkrPlatform.Reporting.SettledReceipt
