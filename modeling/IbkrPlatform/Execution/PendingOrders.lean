import IbkrPlatform.Library.SortedList
import IbkrPlatform.Execution.BuyBlocks

/-! The open orders that a rebalance reads, and what each of them lets it submit. -/

namespace IbkrPlatform.Execution.PendingOrders

open Library Orders Sizing NewRiskGate RiskAuthority SettledCash Planning Rebalance Stages BuyBlocks

structure Contract where
  symbol : Option String
  secType : Option String
deriving DecidableEq

/-- The order of a trade; a missing attribute is `none`. -/
structure TradeOrder where
  account : Option String
  contract : Option Contract
deriving DecidableEq

structure Trade where
  orderStatus : Option String
  status : Option String
  order : Option TradeOrder
  account : Option String
  contract : Option Contract
  symbol : Option String
deriving DecidableEq

def text (value : Option String) : String := Text.strip (value.getD "")

def nonempty (s : String) : Option String := if s = "" then none else some s

section Rows

variable (upper : String → String) (t : Trade)

def extractOpenOrderStatus : String := text (t.orderStatus.or t.status)

def extractOpenOrderAccount : Option String :=
  (nonempty (text (t.order.bind (·.account)))).or (nonempty (text t.account))

def contractOf : Option Contract := t.contract.or (t.order.bind (·.contract))

def extractOpenOrderSymbol : Option Symbol :=
  nonempty (upper (text (((contractOf t).bind (·.symbol)).or t.symbol)))

def view : OpenOrder :=
  ⟨extractOpenOrderStatus t, extractOpenOrderAccount t, extractOpenOrderSymbol upper t, upper (text ((contractOf t).bind (·.secType)))⟩

end Rows

structure OpenTrades where
  object : ℕ → Trade
  snapshot : List ℕ
  cached : List ℕ

/-- `load_read_only_open_trades` where both reads return: each object once. -/
def OpenTrades.loaded (o : OpenTrades) : List Trade := (o.snapshot ++ o.cached).eraseDups.map o.object

section Findings

variable (symbols : List Symbol) (selected : List String) (row : OpenOrder)

def terminal : Bool := row.status ∈ ["Cancelled", "ApiCancelled", "Inactive", "Filled"]

def mayBelong : Bool := selected = [] ∨ row.account = none ∨ row.account.getD "" ∈ selected

def relevant : Bool := !terminal row && mayBelong selected row

inductive Finding
  | unavailable
  | pending (symbol : Symbol)
  | cashRisk
deriving DecidableEq

def finding : Finding :=
  match row.symbol with
  | none => .unavailable
  | some s =>
    if selected ≠ [] ∧ row.account = none then if s ∉ symbols ∧ row.secType = "STK" then .cashRisk else .unavailable
    else if s ∈ symbols then .pending s
    else .cashRisk

def Finding.symbol? : Finding → Option Symbol
  | .pending s => some s
  | _ => none

def findings (rows : List OpenOrder) : List Finding := (rows.filter (relevant selected)).map (finding symbols selected)

end Findings

section Scan

variable {symbols : List Symbol} {selected : List String} {rows : List OpenOrder} {row : OpenOrder}

lemma findings_cons : findings symbols selected (row :: rows) =
    if relevant selected row = true then finding symbols selected row :: findings symbols selected rows
    else findings symbols selected rows := by
  unfold findings
  rw [List.filter_cons]
  split <;> simp_all

lemma observe_irrelevant (h : relevant selected row = false) :
    observePendingOrders symbols selected (row :: rows) = observePendingOrders symbols selected rows := by
  rw [observePendingOrders]
  simp only [relevant, terminal, mayBelong, Bool.and_eq_false_iff, Bool.not_eq_false', decide_eq_true_eq,
    decide_eq_false_iff_not, not_or] at h
  split
  · rfl
  · rename_i hopen
    obtain ⟨hselected, haccount, hother⟩ := h.resolve_left hopen
    simp [haccount, matchesAccount, hselected, hother]

lemma observe_relevant (h : relevant selected row = true) :
    observePendingOrders symbols selected (row :: rows) =
      match finding symbols selected row with
      | .unavailable => none
      | .pending s => (observePendingOrders symbols selected rows).map fun p => { p with symbols := s :: p.symbols }
      | .cashRisk => (observePendingOrders symbols selected rows).map fun p => { p with cashRiskUnknown := true } := by
  rw [observePendingOrders, finding]
  simp only [relevant, terminal, mayBelong, Bool.and_eq_true, Bool.not_eq_true', decide_eq_true_eq, decide_eq_false_iff_not] at h
  obtain ⟨hopen, howner⟩ := h
  rw [if_neg hopen]
  split
  · rename_i hunowned
    cases row.symbol with
    | none => rfl
    | some s =>
      dsimp only
      split <;> rfl
  · rename_i howned
    have hmatches : matchesAccount selected row.account = true := by
      simp only [matchesAccount, decide_eq_true_eq]
      rcases howner with hnil | hnone | hmem
      · exact .inl hnil
      · exact .inl (by_contra fun hne => howned ⟨hne, hnone⟩)
      · exact .inr hmem
    simp only [hmatches, Bool.not_true, Bool.false_eq_true, if_false]
    cases row.symbol with
    | none => rfl
    | some s =>
      dsimp only
      split <;> rfl

lemma observePendingOrders_eq : observePendingOrders symbols selected rows =
    if .unavailable ∈ findings symbols selected rows then none
    else some ⟨(findings symbols selected rows).filterMap Finding.symbol?, .cashRisk ∈ findings symbols selected rows⟩ := by
  induction rows with
  | nil => simp [observePendingOrders, findings]
  | cons row rows ih =>
    rw [findings_cons]
    cases hr : relevant selected row with
    | false => simpa [observe_irrelevant hr] using ih
    | true =>
      rw [observe_relevant hr, ih]
      by_cases hu : Finding.unavailable ∈ findings symbols selected rows
      · cases finding symbols selected row <;> simp [hu]
      · cases finding symbols selected row <;> simp [hu, List.filterMap_cons, Finding.symbol?]

lemma findings_mem {rows' : List OpenOrder} (symbols : List Symbol) (h : ∀ row, row ∈ rows.filter (relevant selected) ↔ row ∈ rows'.filter (relevant selected))
    (f : Finding) : f ∈ findings symbols selected rows ↔ f ∈ findings symbols selected rows' := by
  simp only [findings, List.mem_map, h]

end Scan

section Runs

variable {W : Type} {kit : Kit} {ports : Ports W} {r : Request} {w w' : W} {upper : String → String}

lemma sortedSymbols_congr {xs ys : List Symbol} (h : ∀ s, s ∈ xs ↔ s ∈ ys) : sortedSymbols xs = sortedSymbols ys :=
  SortedList.eraseDups_insertionSort_congr h

def reading (upper : String → String) (ports : Ports W) (o : OpenTrades) : Ports W :=
  { ports with openOrders := fun w => (some (o.loaded.map (view upper)), (ports.openOrders w).2) }

def relevantRows (upper : String → String) (selected : List String) (o : OpenTrades) : List OpenOrder :=
  (o.loaded.map (view upper)).filter (relevant selected)

inductive SizedBook (kit : Kit) (ports : Ports W) (r : Request) (w : W) (b : Book) : Prop
  | sized {a : Authorized} {equity : ℚ} {admission : Option Admission} {weights : List (Symbol × ℚ)} {w₁ w₂ w₃ : W}
      (authorized : authorize r ports.effectiveToday = .ok a) (funded : sizingEquity r = some equity)
      (admitted : (cycleAdmission ports.toEnvironment r).exec w = (.ok admission, w₁))
      (scaled : (scaleTargets kit ports.toEnvironment a.allocation.targets admission).exec w₁ = (.ok weights, w₂))
      (book : (sizeTargets kit ports.toEnvironment r a equity weights).exec w₂ = (.ok b, w₃))

variable {o o' : OpenTrades}

def settleObservation (ports : Ports W) (r : Request) (summary : Summary) : Option PendingObservation → Attempt W Stop Observed
  | none => throw (.returned ((summary.stop .blocked .pendingOrdersUnavailable).because .pendingOrdersUnavailable))
  | some pending =>
    if pending.symbols ≠ [] then
      let reason := Reason.pendingOrdersDetected (sortedSymbols pending.symbols)
      throw (.returned ((summary.stop .blocked reason).because reason))
    else if r.cashOnlyExecution then do
      let settledCash ← Attempt.total ports.settledCash
      pure ⟨pending.cashRiskUnknown, settledCash.isNone, settledCash⟩
    else pure ⟨pending.cashRiskUnknown, false, none⟩

lemma observeAccount_reading {b : Book} {summary : Summary} :
    (observeAccount (reading upper ports o).toEnvironment r b summary).exec w =
      (settleObservation ports r summary (observePendingOrders (managedSymbols r b) r.accountIds (o.loaded.map (view upper)))).exec
        (ports.openOrders w).2 := by
  change _ = (settleObservation ports r summary ((some (o.loaded.map (view upper))).bind
    (observePendingOrders (managedSymbols r b) r.accountIds))).exec _
  rfl

lemma observeAccount_ok {b : Book} {summary : Summary} {observed : Observed}
    (h : (observeAccount (reading upper ports o).toEnvironment r b summary).exec w = (.ok observed, w')) :
    let found := findings (managedSymbols r b) r.accountIds (o.loaded.map (view upper))
    .unavailable ∉ found ∧ (∀ s, .pending s ∉ found) ∧ (.cashRisk ∈ found → observed.cashRiskUnknown = true) := by
  intro found
  rw [observeAccount_reading, observePendingOrders_eq] at h
  by_cases hu : Finding.unavailable ∈ found
  · rw [if_pos hu] at h
    cases h
  · rw [if_neg hu, settleObservation] at h
    split at h
    · cases h
    · rename_i hnone
      have hpending : ∀ s, Finding.pending s ∉ found := by
        intro s hs
        exact hnone (List.ne_nil_of_mem (List.mem_filterMap.mpr ⟨_, hs, rfl⟩))
      refine ⟨hu, hpending, fun hrisk => ?_⟩
      have hrisk' : decide (Finding.cashRisk ∈ found) = true := decide_eq_true hrisk
      split at h
      · obtain ⟨cash, w₂, -, hcash⟩ := Attempt.exec_bind_ok.mp h
        cases hcash
        exact hrisk'
      · cases h
        exact hrisk'

lemma observeAccount_congr (h : ∀ row, row ∈ relevantRows upper r.accountIds o ↔ row ∈ relevantRows upper r.accountIds o') (b : Book)
    (summary : Summary) : observeAccount (reading upper ports o).toEnvironment r b summary =
      observeAccount (reading upper ports o').toEnvironment r b summary := by
  funext w
  change (observeAccount (reading upper ports o).toEnvironment r b summary).exec w =
    (observeAccount (reading upper ports o').toEnvironment r b summary).exec w
  have hmem := findings_mem (managedSymbols r b) h
  rw [observeAccount_reading, observeAccount_reading, observePendingOrders_eq, observePendingOrders_eq]
  simp only [hmem]
  split
  · rfl
  · have hsymbols : ∀ s, s ∈ (findings (managedSymbols r b) r.accountIds (o.loaded.map (view upper))).filterMap Finding.symbol? ↔
        s ∈ (findings (managedSymbols r b) r.accountIds (o'.loaded.map (view upper))).filterMap Finding.symbol? := by
      intro s
      simp only [List.mem_filterMap, hmem]
    have hnil := List.eq_nil_iff_forall_not_mem (l := (findings (managedSymbols r b) r.accountIds
      (o.loaded.map (view upper))).filterMap Finding.symbol?)
    simp only [hsymbols, ← List.eq_nil_iff_forall_not_mem] at hnil
    simp only [settleObservation, ne_eq, hnil, sortedSymbols_congr hsymbols]

lemma survey_sized {s : Survey} (h : (survey kit (reading upper ports o).toEnvironment r).exec w = (.ok s, w')) :
    SizedBook kit ports r w s.book ∧ ∃ w₁,
      (observeAccount (reading upper ports o).toEnvironment r s.book (Summary.start r.buyingPower)).exec w₁ = (.ok s.observed, w') := by
  obtain ⟨equity, weights, w₁, w₂, w₃, w₄, ha, he, hadm, hw, hb, -, ho⟩ := survey_ok h
  exact ⟨.sized ha he hadm hw hb, w₄, ho⟩

lemma mem_findings (symbols : List Symbol) {selected : List String} {row : OpenOrder} (h : row ∈ relevantRows upper selected o) :
    finding symbols selected row ∈ findings symbols selected (o.loaded.map (view upper)) := List.mem_map_of_mem h

lemma finding_managed {symbols : List Symbol} {selected : List String} {row : OpenOrder} (h : row.symbol.all (· ∈ symbols) = true) :
    finding symbols selected row = .unavailable ∨ ∃ s, finding symbols selected row = .pending s := by
  unfold finding
  cases hs : row.symbol with
  | none => exact .inl rfl
  | some s =>
    have hmem : s ∈ symbols := by simpa [hs] using h
    dsimp only
    split
    · simp [hmem]
    · exact .inr ⟨s, rfl⟩

lemma finding_other {symbols : List Symbol} {selected : List String} {row : OpenOrder} (h : row.symbol.any (· ∉ symbols) = true) :
    finding symbols selected row = .unavailable ∨ finding symbols selected row = .cashRisk := by
  unfold finding
  cases hs : row.symbol with
  | none => exact .inl rfl
  | some s =>
    have hmem : s ∉ symbols := by simpa [hs] using h
    dsimp only
    split
    · split
      · exact .inr rfl
      · exact .inl rfl
    · exact .inr rfl

lemma managed_row_stops {row : OpenOrder} (hrow : row ∈ relevantRows upper r.accountIds o)
    (hmanaged : ∀ b, SizedBook kit ports r w b → row.symbol.all (· ∈ managedSymbols r b) = true) :
    (executeRebalance kit (reading upper ports o) r w).orders = [] := by
  refine executeRebalance_cases (C := fun run => run.orders = []) (fun stop w' hp => ?_) fun plan w' hp => ?_
  · exact stopped_orders (fails_planRebalance w stop w' hp)
  · obtain ⟨s, w₁, hs, -⟩ := planRebalance_ok hp
    obtain ⟨hb, w₂, hobserved⟩ := survey_sized hs
    obtain ⟨hu, hpending, -⟩ := observeAccount_ok hobserved
    have hmem := mem_findings (managedSymbols r s.book) hrow
    rcases finding_managed (hmanaged s.book hb) with hf | ⟨symbol, hf⟩
    · exact absurd (hf ▸ hmem) hu
    · exact absurd (hf ▸ hmem) (hpending symbol)

lemma other_row_only_sells {row : OpenOrder} (hrow : row ∈ relevantRows upper r.accountIds o)
    (hother : ∀ b, SizedBook kit ports r w b → row.symbol.any (· ∉ managedSymbols r b) = true) :
    ∀ order ∈ (executeRebalance kit (reading upper ports o) r w).orders, order.side = .sell := by
  refine executeRebalance_cases (C := fun run => ∀ order ∈ run.orders, order.side = .sell) (fun stop w' hp => ?_) fun plan w' hp => ?_
  · simp [stopped_orders (fails_planRebalance w stop w' hp)]
  · obtain ⟨s, w₁, hs, -⟩ := planRebalance_ok hp
    obtain ⟨hb, w₂, hobserved⟩ := survey_sized hs
    obtain ⟨hu, -, hrisk⟩ := observeAccount_ok hobserved
    have hmem := mem_findings (managedSymbols r s.book) hrow
    rcases finding_other (hother s.book hb) with hf | hf
    · exact absurd (hf ▸ hmem) hu
    · have hsurvey : ((survey kit (reading upper ports o).toEnvironment r).exec w).1 = .ok s := by rw [hs]
      have hsells := (BuysBlocked.newRisk (.cashRisk hsurvey (hrisk (hf ▸ hmem)))).only_sells
      unfold executeRebalance at hsells
      rw [hp] at hsells
      exact hsells

lemma executeRebalance_congr (h : ∀ row, row ∈ relevantRows upper r.accountIds o ↔ row ∈ relevantRows upper r.accountIds o') :
    executeRebalance kit (reading upper ports o) r w = executeRebalance kit (reading upper ports o') r w := by
  have hsurvey : survey kit (reading upper ports o).toEnvironment r = survey kit (reading upper ports o').toEnvironment r := by
    unfold survey
    simp only [observeAccount_congr h]
    rfl
  unfold executeRebalance planRebalance
  rw [hsurvey]
  rfl

/-- An open row of the account stops a rebalance that manages its symbol, or cannot tell it, and bars the buys of one that does not;
no other row matters, nor the order of the rows. -/
theorem open_orders_respected (upper : String → String) (o : OpenTrades) (w : W) :
    let run := executeRebalance kit (reading upper ports o) r w
    (∀ row ∈ relevantRows upper r.accountIds o,
        (∀ b, SizedBook kit ports r w b → row.symbol.all (· ∈ managedSymbols r b) = true) → run.orders = []) ∧
      (∀ row ∈ relevantRows upper r.accountIds o,
        (∀ b, SizedBook kit ports r w b → row.symbol.any (· ∉ managedSymbols r b) = true) → ∀ order ∈ run.orders, order.side = .sell) ∧
      ∀ o', (∀ row, row ∈ relevantRows upper r.accountIds o ↔ row ∈ relevantRows upper r.accountIds o') →
        executeRebalance kit (reading upper ports o') r w = run := by
  refine ⟨fun row hrow => managed_row_stops hrow, fun row hrow => other_row_only_sells hrow, fun o' h => ?_⟩
  exact (executeRebalance_congr h).symm

end Runs

end IbkrPlatform.Execution.PendingOrders
