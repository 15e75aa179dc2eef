import IbkrPlatform.Execution.Rebalance

/-! What a rebalance that reaches its first order has been through, stage by stage. -/

namespace IbkrPlatform.Execution.Stages

open Library Orders Sizing NewRiskGate RiskAuthority SettledCash Planning Rebalance

variable {W : Type} {kit : Kit} {ports : Environment W} {r : Request} {w w' : W}

section Survey

lemma exec_lift {α : Type} (x : Except Refusal α) :
    (lift x : Attempt W Stop α).exec w = (x.mapError Stop.raised, w) := by
  cases x <;> rfl

lemma exec_lift_ok {α : Type} {x : Except Refusal α} {a : α} :
    (lift x : Attempt W Stop α).exec w = (.ok a, w') ↔ x = .ok a ∧ w' = w := by
  cases x with
  | ok b => simp [exec_lift, Except.mapError, eq_comm]
  | error refusal => simp [exec_lift, Except.mapError]

lemma call_ok {α : Type} {f : W → Except Refusal α × W} {a : α} (h : (call f).exec w = (.ok a, w')) :
    f w = (.ok a, w') := by
  simp only [call, Attempt.exec_of] at h
  split at h
  · rename_i hq
    cases h
    exact hq
  · cases h

lemma authorize_ok {effectiveToday : String → Option Bool} {a : Authorized} (h : authorize r effectiveToday = .ok a) :
    resolveWeightAllocation r.metadata = .ok a.allocation ∧
      requireLiveRiskAuthority r.metadata a.allocation r.strategyProfile r.accountIds = .ok a.caps ∧
      resolveExecutionMode r = .ok a.mode ∧ resolveOrderAccountId r = .ok a.orderAccount := by
  unfold authorize at h
  cases hd : requireEffectiveDate r effectiveToday with
  | error => simp [hd, bind, Except.bind] at h
  | ok =>
    cases hal : resolveWeightAllocation r.metadata with
    | error => simp [hd, hal, bind, Except.bind] at h
    | ok allocation =>
      cases hc : requireLiveRiskAuthority r.metadata allocation r.strategyProfile r.accountIds with
      | error => simp [hd, hal, hc, bind, Except.bind] at h
      | ok caps =>
        cases ho : r.metadata.optionOrderIntents.any OptionIntent.executable with
        | true => simp [hd, hal, hc, ho, bind, Except.bind] at h
        | false =>
          cases hm : resolveExecutionMode r with
          | error => simp [hd, hal, hc, ho, hm, bind, Except.bind] at h
          | ok mode =>
            cases hacc : resolveOrderAccountId r with
            | error => simp [hd, hal, hc, ho, hm, hacc, bind, Except.bind] at h
            | ok account =>
              simp [hd, hal, hc, ho, hm, hacc, bind, Except.bind, pure, Except.pure] at h
              subst h
              exact ⟨rfl, hc, rfl, rfl⟩

lemma resolveWeightAllocation_ok {m : Metadata} {a : Allocation} (h : resolveWeightAllocation m = .ok a) :
    m.allocation = some a := by
  unfold resolveWeightAllocation at h
  cases ha : m.allocation with
  | none => simp [ha] at h
  | some allocation =>
    simp only [ha] at h
    split at h
    · rw [Except.ok.inj h]
    · cases h

lemma survey_ok {s : Survey} (h : (survey kit ports r).exec w = (.ok s, w')) :
    ∃ equity weights w₁ w₂ w₃ w₄, authorize r ports.effectiveToday = .ok s.authorized ∧
      sizingEquity r = some equity ∧ (cycleAdmission ports r).exec w = (.ok s.admission, w₁) ∧
      (scaleTargets kit ports s.authorized.allocation.targets s.admission).exec w₁ = (.ok weights, w₂) ∧
      (sizeTargets kit ports r s.authorized equity weights).exec w₂ = (.ok s.book, w₃) ∧
      (admitPaper ports r (Summary.start r.buyingPower)).exec w₃ = (.ok (), w₄) ∧
      (observeAccount ports r s.book (Summary.start r.buyingPower)).exec w₄ = (.ok s.observed, w') := by
  obtain ⟨a, u, hlift, hrest⟩ := Attempt.exec_bind_ok.mp h
  obtain ⟨ha, rfl⟩ := exec_lift_ok.mp hlift
  cases he : sizingEquity r with
  | none => simp [he] at hrest
  | some equity =>
    simp only [he] at hrest
    obtain ⟨admission, w₁, hadm, hrest⟩ := Attempt.exec_bind_ok.mp hrest
    obtain ⟨weights, w₂, hw, hrest⟩ := Attempt.exec_bind_ok.mp hrest
    obtain ⟨b, w₃, hb, hrest⟩ := Attempt.exec_bind_ok.mp hrest
    obtain ⟨⟨⟩, w₄, hp, hrest⟩ := Attempt.exec_bind_ok.mp hrest
    obtain ⟨o, w₅, ho, hrest⟩ := Attempt.exec_bind_ok.mp hrest
    cases hrest
    exact ⟨equity, weights, w₁, w₂, w₃, w₄, ha, rfl, hadm, hw, hb, hp, ho⟩

lemma sizeTargets_ok {a : Authorized} {equity : ℚ} {weights : List (Symbol × ℚ)} {b : Book}
    (h : (sizeTargets kit ports r a equity weights).exec w = (.ok b, w')) :
    ∃ prices targets, b = { r.settings (equity * r.rebalanceThresholdRatio) (reserve r equity) a.allocation a.caps with
        allSymbols := ports.setOrder (symbolsOf r a.allocation weights), prices := prices, targetMv := targets } ∧
      targets = targetValues r kit a.allocation (equity - reserve r equity) weights prices b.step ∧
      targets.any (overCap a.caps) = false := by
  obtain ⟨quoted, u, hq, h⟩ := Attempt.exec_bind_ok.mp h
  extract_lets prices targets at h
  cases hc : targets.any (overCap a.caps) with
  | true => simp [hc] at h
  | false =>
    simp only [hc, Bool.false_eq_true, if_false, Attempt.exec_pure, Prod.mk.injEq, Except.ok.injEq] at h
    obtain ⟨rfl, rfl⟩ := h
    exact ⟨prices, targets, rfl, rfl, hc⟩

end Survey

section Settle

lemma takeLock_ok {b : Book} {mode : String} {summary summary' : Summary}
    (h : (takeLock ports r b mode summary).exec w = (.ok summary', w')) :
    summary' = { summary with executionStatus := .executing } := by
  obtain ⟨fills, u, hf, hrest⟩ := Attempt.exec_bind_ok.mp h
  extract_lets filled at hrest
  split at hrest
  · simp at hrest
  · obtain ⟨created, v, hl, hrest⟩ := Attempt.exec_bind_ok.mp hrest
    cases created with
    | false =>
      obtain ⟨existing, u', hr, hrest⟩ := Attempt.exec_bind_ok.mp hrest
      simp at hrest
    | true =>
      cases hrest
      rfl

lemma settlePlan_ok {b : Book} {o : Observed} {blocked unavailable : Bool} {anticipated : ℚ} {summary : Summary}
    {sweep : ℤ} (h : settlePlan kit r b o blocked unavailable anticipated summary = .ok sweep) :
    sweep = cashSweepQuantity kit b blocked (searchSells kit b ⟨false, [], [], [], []⟩ b.allSymbols).found
      (investableBuyingPower anticipated b.reserved) := by
  unfold settlePlan at h
  extract_lets investable sells quantity hasSellPlan search at h
  split at h
  · cases h
  · split at h
    · cases h
    · split at h
      · cases h
      · exact (Except.ok.inj h).symm

lemma cashSweepQuantity_blocked {b : Book} {hasSellPlan : Bool} {investable : ℚ} :
    cashSweepQuantity kit b true hasSellPlan investable = 0 := by
  unfold cashSweepQuantity
  cases b.safeHaven <;> simp

lemma settle_ok {s : Survey} {plan : Plan} (h : (settle kit ports r s).exec w = (.ok plan, w')) :
    ∃ w₁, plan.book = s.book ∧ plan.orderAccount = s.authorized.orderAccount ∧
      plan.newRiskBlocked = s.newRiskBlocked ∧
      plan.summary = { Summary.start r.buyingPower with executionStatus := .executing } ∧
      (anticipate ports r s.observed).exec w = (.ok plan.anticipatedBuyingPower, w₁) ∧
      settlePlan kit r s.book s.observed s.newRiskBlocked s.breakerUnavailable plan.anticipatedBuyingPower
        (Summary.start r.buyingPower) = .ok plan.cashSweepQuantity ∧
      (takeLock ports r s.book s.authorized.mode (Summary.start r.buyingPower)).exec w₁ = (.ok plan.summary, w') := by
  obtain ⟨anticipated, w₁, ha, hrest⟩ := Attempt.exec_bind_ok.mp h
  cases hs : settlePlan kit r s.book s.observed s.newRiskBlocked s.breakerUnavailable anticipated
      (Summary.start r.buyingPower) with
  | error stop => simp [hs] at hrest
  | ok sweep =>
    simp only [hs] at hrest
    obtain ⟨summary, w₂, hl, hrest⟩ := Attempt.exec_bind_ok.mp hrest
    cases hrest
    exact ⟨w₁, rfl, rfl, rfl, takeLock_ok hl, ha, hs, hl⟩

lemma planRebalance_ok {plan : Plan} (h : (planRebalance kit ports r).exec w = (.ok plan, w')) :
    ∃ s w₁, (survey kit ports r).exec w = (.ok s, w₁) ∧ (settle kit ports r s).exec w₁ = (.ok plan, w') :=
  Attempt.exec_bind_ok.mp h

lemma executeRebalance_cases {ports : Ports W} {C : Run W → Prop}
    (hstop : ∀ stop w', (planRebalance kit ports.toEnvironment r).exec w = (.error stop, w') → C (stopped r w' stop))
    (hplan : ∀ plan w', (planRebalance kit ports.toEnvironment r).exec w = (.ok plan, w') →
      C (executePlan kit ports r plan w')) :
    C (executeRebalance kit ports r w) := by
  unfold executeRebalance
  cases h : (planRebalance kit ports.toEnvironment r).exec w with
  | mk answer w' =>
    cases answer with
    | error stop => exact hstop stop w' h
    | ok plan => exact hplan plan w' h

end Settle

section Stops

structure Unlisted (s : Summary) : Prop where
  submitted : s.ordersSubmitted = []
  filled : s.ordersFilled = []
  partiallyFilled : s.ordersPartiallyFilled = []
  pending : s.ordersPending = []
  skipped : s.ordersSkipped.filterMap (·.order) = []

def Blank (stop : Stop) : Prop := ∀ summary, stop = .returned summary → Unlisted summary

lemma unlisted_start (cash : ℚ) : Unlisted (Summary.start cash) := ⟨rfl, rfl, rfl, rfl, rfl⟩

lemma Unlisted.because {s : Summary} (h : Unlisted s) (status : ExecutionStatus) (reason : Reason) :
    Unlisted ((s.stop status reason).because reason) :=
  ⟨h.submitted, h.filled, h.partiallyFilled, h.pending, h.skipped⟩

lemma blank_raised (refusal : Refusal) : Blank (.raised refusal) := by
  intro summary h
  cases h

lemma blank_returned {summary : Summary} (h : Unlisted summary) : Blank (.returned summary) := by
  intro s hs
  cases hs
  exact h

lemma fails_lift {α : Type} (x : Except Refusal α) : Attempt.Fails Blank (lift x : Attempt W Stop α) := by
  cases x with
  | ok a => exact Attempt.fails_pure a
  | error refusal => exact Attempt.fails_throw (blank_raised refusal)

lemma fails_call {α : Type} (f : W → Except Refusal α × W) : Attempt.Fails Blank (call f) := by
  refine Attempt.fails_of fun s e t h => ?_
  split at h
  · simp at h
  · cases h
    exact blank_raised _

lemma fails_cycleAdmission : Attempt.Fails Blank (cycleAdmission ports r) := by
  unfold cycleAdmission
  split
  · exact Attempt.fails_pure _
  · refine Attempt.fails_bind (fails_call _) fun preview => ?_
    split
    · exact Attempt.fails_pure _
    · exact Attempt.fails_bind (fails_call _) fun _ => Attempt.fails_pure _

lemma fails_scaleTargets (targets : List (Symbol × ℚ)) (admission : Option Admission) :
    Attempt.Fails Blank (scaleTargets kit ports targets admission) := by
  cases admission with
  | none => exact Attempt.fails_pure _
  | some a =>
    simp only [scaleTargets]
    split
    · exact Attempt.fails_pure _
    · exact Attempt.fails_bind (Attempt.fails_total _) fun _ => Attempt.fails_pure _

lemma fails_sizeTargets (a : Authorized) (equity : ℚ) (weights : List (Symbol × ℚ)) :
    Attempt.Fails Blank (sizeTargets kit ports r a equity weights) := by
  refine Attempt.fails_bind (fails_call _) fun quoted => ?_
  dsimp only
  split
  · exact Attempt.fails_throw (blank_raised _)
  · exact Attempt.fails_pure _

lemma fails_admitPaper (summary : Summary) (h : Unlisted summary) :
    Attempt.Fails Blank (admitPaper ports r summary) := by
  unfold admitPaper
  split
  · refine Attempt.fails_bind (Attempt.fails_total _) fun allowed => ?_
    split
    · exact Attempt.fails_throw (blank_returned (h.because _ _))
    · exact Attempt.fails_pure _
  · exact Attempt.fails_pure _

lemma fails_observeAccount (b : Book) (summary : Summary) (h : Unlisted summary) :
    Attempt.Fails Blank (observeAccount ports r b summary) := by
  refine Attempt.fails_bind (Attempt.fails_total _) fun rows => ?_
  dsimp only
  split
  · exact Attempt.fails_throw (blank_returned (h.because _ _))
  · split
    · exact Attempt.fails_throw (blank_returned (h.because _ _))
    · split
      · exact Attempt.fails_bind (Attempt.fails_total _) fun _ => Attempt.fails_pure _
      · exact Attempt.fails_pure _

lemma fails_survey : Attempt.Fails Blank (survey kit ports r) := by
  refine Attempt.fails_bind (fails_lift _) fun a => ?_
  dsimp only
  split
  · exact Attempt.fails_throw (blank_returned ⟨rfl, rfl, rfl, rfl, rfl⟩)
  · refine Attempt.fails_bind fails_cycleAdmission fun admission => ?_
    refine Attempt.fails_bind (fails_scaleTargets _ _) fun weights => ?_
    refine Attempt.fails_bind (fails_sizeTargets _ _ _) fun b => ?_
    refine Attempt.fails_bind (fails_admitPaper _ (unlisted_start _)) fun _ => ?_
    exact Attempt.fails_bind (fails_observeAccount _ _ (unlisted_start _)) fun _ => Attempt.fails_pure _

lemma noPlanSummary_unlisted {summary : Summary} (h : Unlisted summary) (search : Search) (intents : List OptionIntent) :
    Unlisted (noPlanSummary summary search intents) := by
  have hskipped : (summary.ordersSkipped ++ (sortedSymbols search.missingPrice).map
      fun s => (⟨s, none, .missingPrice, none⟩ : Skipped)).filterMap (·.order) = [] := by
    simp [h.skipped, List.filterMap_map]
  simp only [noPlanSummary, recordUnsupportedOptionIntents]
  split
  · split <;> exact ⟨h.submitted, h.filled, h.partiallyFilled, h.pending, hskipped⟩
  · split <;> exact ⟨h.submitted, h.filled, h.partiallyFilled, h.pending, hskipped⟩

lemma settlePlan_blank {b : Book} {o : Observed} {blocked unavailable : Bool} {anticipated : ℚ} {summary : Summary}
    {stop : Stop} (hs : Unlisted summary)
    (h : settlePlan kit r b o blocked unavailable anticipated summary = .error stop) : Blank stop := by
  unfold settlePlan at h
  extract_lets investable sells quantity hasSellPlan search at h
  split at h
  · cases h
    exact blank_raised _
  · split at h
    · cases h
      exact blank_returned ⟨hs.submitted, hs.filled, hs.partiallyFilled, hs.pending, hs.skipped⟩
    · split at h
      · cases h
        exact blank_returned (noPlanSummary_unlisted hs _ _)
      · cases h

lemma fails_tryCreateLock (mode : String) : Attempt.Fails Blank (tryCreateLock ports mode) := by
  refine Attempt.fails_bind (Attempt.fails_total _) fun opened => ?_
  rcases opened with (_ | refusal) | ⟨⟩
  · exact Attempt.fails_pure _
  · exact Attempt.fails_throw (blank_raised refusal)
  · exact Attempt.fails_bind (fails_call _) fun _ => Attempt.fails_pure _

lemma fails_takeLock (b : Book) (mode : String) (summary : Summary) (h : Unlisted summary) :
    Attempt.Fails Blank (takeLock ports r b mode summary) := by
  refine Attempt.fails_bind (Attempt.fails_total _) fun fills => ?_
  dsimp only
  split
  · exact Attempt.fails_throw (blank_returned (h.because _ _))
  · refine Attempt.fails_bind (fails_tryCreateLock mode) fun created => ?_
    split
    · exact Attempt.fails_pure _
    · exact Attempt.fails_bind (fails_call _) fun existing => Attempt.fails_throw (blank_returned (h.because _ _))

lemma fails_anticipate (o : Observed) : Attempt.Fails Blank (anticipate ports r o) := by
  unfold anticipate
  split
  · exact Attempt.fails_pure _
  · exact Attempt.fails_total _

lemma fails_planRebalance : Attempt.Fails Blank (planRebalance kit ports r) := by
  refine Attempt.fails_bind fails_survey fun s => ?_
  refine Attempt.fails_bind (fails_anticipate _) fun anticipated => ?_
  split
  · rename_i stop hs
    exact Attempt.fails_throw (settlePlan_blank (unlisted_start _) hs)
  · exact Attempt.fails_bind (fails_takeLock _ _ _ (unlisted_start _)) fun _ => Attempt.fails_pure _

end Stops

section Fixture

def wholeShares : Kit where
  floorOrderQuantity quantity _ := quantity.floor
  isProvenRiskReducingOrder held side quantity pending := match held, pending with
    | some held, some pending => side = .sell ∧ 0 < quantity ∧ quantity + pending ≤ held
    | _, _ => false
  shouldSellCashSweep _ _ _ _ := false
  applyCombinedScale targets _ := targets
  applySmallAccountCompatibility targets _ _ _ _ _ := targets

def approved (targets : List (Symbol × ℚ)) (equity : ℚ) : Metadata where
  allocation := some ⟨some "weight", targets.map Prod.fst, targets.map Prod.fst, [], [], targets⟩
  riskGate := some "APPROVE"
  riskFlags := ["risk_gate:passed"]
  riskAuthority := some ⟨some "growth", ["U1"], none, none, none, none, targets.map fun t => (t.1, some t.2),
    targets.map fun t => (t.1, some (t.2 * equity)), some equity⟩
  tradeDate := none
  signalDate := none
  effectiveDate := none
  snapshotAsOf := none
  optionOrderIntents := []
  cashOnlyDeleverageMode := false
  smallAccountWarning := false
  priceFallbacks := []

def request₀ (dryRun : Bool) (positions : List (Symbol × Position)) (targets : List (Symbol × ℚ)) (equity : ℚ) :
    Request where
  positions := positions
  equity := equity
  buyingPower := 0
  metadata := approved targets equity
  strategyProfile := some "growth"
  accountIds := ["U1"]
  dryRunOnly := dryRun
  executionMode := "live"
  cashReserveRatio := 0
  cashReserveFloor := 0
  rebalanceThresholdRatio := 1 / 100
  premium := ⟨1, []⟩
  quantityStep := 1
  minOrderNotional := 50
  safeHavenThreshold := 0
  marketCurrency := "USD"
  cashOnlyExecution := true
  paperExecutionAdmissionEnabled := false

/-- A quiet account: no open order, no fill, no lock, and the same settled cash at every refresh. -/
def quiet {W : Type} (prices : List (Symbol × ℚ)) (settledCash : Option ℚ) : Environment W where
  gateEnabled := false
  stoplossEnabled := true
  effectiveToday _ := some true
  setOrder := id
  evaluateAdmission w := (.ok ⟨false, false, [], none⟩, w)
  sizingScale w := (none, w)
  session := none
  quotes _ w := (.ok prices, w)
  paperAdmission w := (true, w)
  openOrders w := (some [], w)
  settledCash w := (settledCash, w)
  availableBuyingPower w := (0, w)
  fills w := ([], w)
  openLock _ w := (.ok (), w)
  writeLock _ w := (.ok (), w)
  readLock _ w := (.ok none, w)
  cashBalance w := (settledCash, w)
  monotonic w := (0, w)

lemma wholeShares_floorsDown : wholeShares.FloorsDown := fun quantity _ _ => Rat.floor_le quantity

end Fixture

end IbkrPlatform.Execution.Stages
