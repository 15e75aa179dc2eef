import IbkrPlatform.Execution.RiskProjection

/-! The unsafe facts of a risk projection, whichever source they come from. -/

namespace IbkrPlatform.Execution.UnsafeSignals

open Library RiskProjection

/-- `InjectedReconciliationSnapshot`. -/
structure RiskSnapshot where
  observationStatus : String
  reconciliationStatus : String
  circuitBreakerState : String
  equityUsd : Option ℚ
  peakEquityUsd : Value
  drawdownFromPeak : Value
  realizedVol : Value
  productionDriftStatus : Option String
  dailyLossUsd : Option ℚ

/-- What the admission of a projection calls: the runtime, `str`, the drift of the performance store, the loss limit of the
environment, and the platform kit's evaluation, which is `none` where it raises. -/
structure Gate where
  runtime : Runtime
  str : Value → String
  storedDrift : Portfolio → Option String
  maxDailyLossUsd : Portfolio → Option ℚ
  evaluate : RiskSnapshot → Option ℚ → Option Bool

variable (g : Gate) (account : Facts) (metadata : SignalMetadata)

section Admission

/-- `str(value or default)`. -/
def statusText (value : Option Value) (default : String) : String := ((value.filter Value.truthy).map g.str).getD default

def resolveProductionDriftStatus (p : Portfolio) (projection : Facts) : Option String :=
  (([p.facts, projection, p.metadata].findSome? fun source =>
    source.productionDriftStatus.filter fun raw => raw ≠ .none ∧ raw ≠ .text "").map fun raw => Text.strip (g.str raw)).or (g.storedDrift p)

def buildSnapshotFromPortfolio (p : Portfolio) : RiskSnapshot :=
  let projection := buildAccountNewRiskSnapshot g.runtime p none
  { observationStatus := statusText g projection.observationStatus "UNAVAILABLE"
    reconciliationStatus := statusText g projection.reconciliationStatus "UNVERIFIED"
    circuitBreakerState := statusText g projection.circuitBreakerState "OPEN"
    equityUsd := projection.equityUsd.bind (coerceOptionalFloat g.runtime)
    peakEquityUsd := (projection.peakEquityUsd.map (riskInput g.runtime)).getD .none
    drawdownFromPeak := (projection.drawdownFromPeak.map (riskInput g.runtime)).getD .none
    realizedVol := (projection.realizedVol.map (riskInput g.runtime)).getD .none
    productionDriftStatus := resolveProductionDriftStatus g p projection
    dailyLossUsd := (p.facts.dailyLossUsd.or projection.dailyLossUsd).bind (coerceOptionalFloat g.runtime) }

/-- `evaluate_portfolio_new_risk_admission`, as far as it prohibits new risk. -/
def prohibits (p : Portfolio) : Bool := (g.evaluate (buildSnapshotFromPortfolio g p) (g.maxDailyLossUsd p)).getD true

end Admission

section Statement

def sources : List Facts := [account, metadata.facts, metadata.snapshot]

def pendingIn (sources : List Facts) : Bool := sources.any fun source => source.unknownPendingOrders.any (· ≠ .bool false)

def breakerIn (sources : List Facts) : Bool :=
  sources.any fun source => source.durableCircuitBreakerState.any (!closed g.runtime ·)

structure Barred : Prop where
  breaker : (buildSnapshotFromPortfolio g (buildPortfolioFromAccountValues g.runtime account metadata)).circuitBreakerState = "OPEN"
  reconciliation : pendingIn (sources account metadata) = true →
    (buildSnapshotFromPortfolio g (buildPortfolioFromAccountValues g.runtime account metadata)).reconciliationStatus = "UNVERIFIED"
  prohibited : prohibits g (buildPortfolioFromAccountValues g.runtime account metadata) = true

def UnsafeWins : Prop :=
  (pendingIn (sources account metadata) || breakerIn g (sources account metadata)) = true → Barred g account metadata

def visible : List Facts := [accountFacts g.runtime account metadata.facts, metadata.snapshot]

def evidence : Evidence :=
  evidenceOf g.runtime (firstRead g.runtime account metadata) (equityOf g.runtime (firstRead g.runtime account metadata) none)

def Reads (healthy needed : String) (flat : Option Value) (seen : Bool) (axis : Option Value) : Prop :=
  match flat.filter (· ≠ .text healthy) with
  | some value => statusText g (some value) needed = needed
  | none => seen = true ∨ statusText g axis needed = needed

structure Unmasked : Prop where
  breaker : Reads g "CLOSED" "OPEN" (account.circuitBreakerState.or metadata.facts.circuitBreakerState)
    (pendingIn (visible g account metadata) || breakerIn g (visible g account metadata))
    (g.runtime.applyAxes Facts.empty (evidence g account metadata)).circuitBreakerState
  reconciliation : pendingIn (sources account metadata) = true → Reads g "VERIFIED" "UNVERIFIED"
    (account.reconciliationStatus.or metadata.facts.reconciliationStatus) (pendingIn (visible g account metadata))
    (g.runtime.applyAxes Facts.empty (evidence g account metadata)).reconciliationStatus

/-- The documented built-in `str`, and the documented evaluation: an open breaker prohibits new risk. -/
structure Gate.Documented (g : Gate) : Prop where
  axes : g.runtime.AxesLawful
  str : ∀ s, g.str (.text s) = s
  evaluate : ∀ s limit, s.circuitBreakerState = "OPEN" → g.evaluate s limit ≠ some false

end Statement

variable {g account metadata}

lemma statusText_text (hg : g.Documented) {s default : String} (hs : s ≠ "") : statusText g (some (.text s)) default = s := by
  simp [statusText, Option.filter, Value.truthy, hs, hg.str]

lemma reads_iff (hg : g.Documented) {healthy needed : String} (hneeded : needed ≠ "") {flat axis : Option Value} {seen : Bool} :
    statusText g (unhealthy healthy flat (if seen then some (.text needed) else axis)) needed = needed ↔
      Reads g healthy needed flat seen axis := by
  have hseen : statusText g (if seen then some (.text needed) else axis) needed = needed ↔
      seen = true ∨ statusText g axis needed = needed := by
    cases seen with
    | true => simp [statusText_text hg hneeded]
    | false => simp
  cases flat with
  | none => exact hseen
  | some value =>
    by_cases hv : value = .text healthy
    · simpa [unhealthy, Reads, Option.filter, hv] using hseen
    · simp [unhealthy, Reads, Option.filter, hv]

lemma rebuilt_health (hg : g.Documented) :
    let projection := buildAccountNewRiskSnapshot g.runtime (buildPortfolioFromAccountValues g.runtime account metadata) none
    let axes := g.runtime.applyAxes Facts.empty (evidence g account metadata)
    projection.circuitBreakerState = unhealthy "CLOSED" (account.circuitBreakerState.or metadata.facts.circuitBreakerState)
        (if pendingIn (visible g account metadata) || breakerIn g (visible g account metadata) then some (.text "OPEN")
          else axes.circuitBreakerState) ∧
      projection.reconciliationStatus = unhealthy "VERIFIED" (account.reconciliationStatus.or metadata.facts.reconciliationStatus)
        (if pendingIn (visible g account metadata) then some (.text "UNVERIFIED") else axes.reconciliationStatus) := by
  intro projection axes
  let first := firstRead g.runtime account metadata
  let built := buildPortfolioFromAccountValues g.runtime account metadata
  let equity := equityOf g.runtime first none
  have hframe : projection = { staged g.runtime built equity with
      drawdownFromPeak := projection.drawdownFromPeak, observationStatus := projection.observationStatus } :=
    measured_frame g.runtime built.facts equity (staged g.runtime built equity)
  have hevidence : evidenceOf g.runtime built equity = evidence g account metadata := evidence_again hg.axes equity
  obtain ⟨-, hreconciliation, hbreaker⟩ := hg.axes.evidence built.snapshot Facts.empty (evidence g account metadata)
  have hpending : (evidence g account metadata).unknownPending = pendingIn (visible g account metadata) := by
    simp [evidence, evidenceOf, resolveUnknownPending, pendingIn, visible, firstRead, Facts.empty, cachedFacts]
  have hdurable : (evidence g account metadata).durableBreakerOpen = breakerIn g (visible g account metadata) := by
    simp [evidence, evidenceOf, resolveDurableBreakerOpen, breakerIn, visible, firstRead, Facts.empty, cachedFacts, Bool.or_comm]
  have hstate := congrArg Facts.circuitBreakerState hframe
  have hstatus := congrArg Facts.reconciliationStatus hframe
  simp only [staged, withInputs, withHealth, hevidence, hreconciliation, hbreaker, hpending, hdurable] at hstate hstatus
  refine ⟨hstate.trans ?_, hstatus⟩
  rw [Bool.or_comm]
  rfl

lemma pending_text (hg : g.Documented) : Reads g "VERIFIED" "UNVERIFIED"
    (account.reconciliationStatus.or metadata.facts.reconciliationStatus) (pendingIn (visible g account metadata))
    (g.runtime.applyAxes Facts.empty (evidence g account metadata)).reconciliationStatus ↔
      (buildSnapshotFromPortfolio g (buildPortfolioFromAccountValues g.runtime account metadata)).reconciliationStatus = "UNVERIFIED" := by
  rw [← reads_iff hg (by decide), ← (rebuilt_health hg).2]
  rfl

lemma breaker_text (hg : g.Documented) : Reads g "CLOSED" "OPEN" (account.circuitBreakerState.or metadata.facts.circuitBreakerState)
    (pendingIn (visible g account metadata) || breakerIn g (visible g account metadata))
    (g.runtime.applyAxes Facts.empty (evidence g account metadata)).circuitBreakerState ↔
      (buildSnapshotFromPortfolio g (buildPortfolioFromAccountValues g.runtime account metadata)).circuitBreakerState = "OPEN" := by
  rw [← reads_iff hg (by decide), ← (rebuilt_health hg).1]
  rfl

lemma prohibits_of_open (hg : g.Documented) {p : Portfolio} (h : (buildSnapshotFromPortfolio g p).circuitBreakerState = "OPEN") :
    prohibits g p = true := by
  have hopen := hg.evaluate _ (g.maxDailyLossUsd p) h
  unfold prohibits
  cases he : g.evaluate (buildSnapshotFromPortfolio g p) (g.maxDailyLossUsd p) with
  | none => rfl
  | some prohibited =>
    cases prohibited with
    | true => rfl
    | false => exact absurd he hopen

/-- An unsafe fact bars new risk exactly where no source hides it and no status stands over what it leads to. -/
theorem unsafe_wins_iff (hg : g.Documented) (account : Facts) (metadata : SignalMetadata) : UnsafeWins g account metadata ↔
    ((pendingIn (sources account metadata) || breakerIn g (sources account metadata)) = true → Unmasked g account metadata) := by
  refine imp_congr_right fun _ => ⟨fun h => ?_, fun h => ?_⟩
  · exact ⟨(breaker_text hg).mpr h.breaker, fun hp => (pending_text hg).mpr (h.reconciliation hp)⟩
  · have hopen := (breaker_text hg).mp h.breaker
    exact ⟨hopen, fun hp => (pending_text hg).mp (h.reconciliation hp), prohibits_of_open hg hopen⟩

section Fixture

def gate₀ : Gate where
  runtime := runtime₀
  str := fun
    | .text s => s
    | .bool true => "True"
    | .nonFinite text => text
    | .other _ text => text
    | _ => ""
  storedDrift _ := none
  maxDailyLossUsd _ := none
  evaluate s _ := some (s.circuitBreakerState ≠ "CLOSED")

lemma gate₀_documented : gate₀.Documented where
  axes := runtime₀_lawful
  str _ := rfl
  evaluate s _ h := by simp [gate₀, h]

theorem unsafe_wins_iff_pending :
    Barred gate₀ { account₀ with unknownPendingOrders := some (.bool true) }
      ⟨{ Facts.empty with circuitBreakerState := some (.text "CLOSED") }, Facts.empty⟩ := by
  refine (unsafe_wins_iff gate₀_documented _ _).mpr (fun _ => ⟨.inl ?_, fun _ => .inl ?_⟩) ?_ <;> decide

theorem account_hides_pending :
    ¬ UnsafeWins gate₀ { account₀ with unknownPendingOrders := some (.bool false) }
      ⟨{ Facts.empty with unknownPendingOrders := some (.bool true) }, Facts.empty⟩ := by
  intro h
  have hclosed : (buildSnapshotFromPortfolio gate₀ (buildPortfolioFromAccountValues gate₀.runtime
      { account₀ with unknownPendingOrders := some (.bool false) }
      ⟨{ Facts.empty with unknownPendingOrders := some (.bool true) }, Facts.empty⟩)).circuitBreakerState = "CLOSED" := by
    decide
  have hopen := (h (by decide)).breaker
  rw [hclosed] at hopen
  exact absurd hopen (by decide)

end Fixture

end IbkrPlatform.Execution.UnsafeSignals
