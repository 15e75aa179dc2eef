import Mathlib.Data.Rat.Init
import Mathlib.Algebra.Order.Field.Rat
import IbkrPlatform.Library.Text

/-! The account's risk projection, from the account read, the strategy metadata and an older projection. -/

namespace IbkrPlatform.Execution.RiskProjection

open Library

inductive Value
  | none
  | bool (b : Bool)
  | number (q : ℚ)
  | nonFinite (text : String)
  | text (s : String)
  | other (truthy : Bool) (text : String)
deriving DecidableEq

def Value.truthy : Value → Bool
  | .none => false
  | .bool b => b
  | .number q => q ≠ 0
  | .nonFinite _ => true
  | .text s => s ≠ ""
  | .other truthy _ => truthy

/-- The keys of a mapping that the projection reads; a key that is missing is `none`. -/
@[ext] structure Facts where
  observationStatus : Option Value
  reconciliationStatus : Option Value
  circuitBreakerState : Option Value
  unknownPendingOrders : Option Value
  durableCircuitBreakerState : Option Value
  accountEquityUsd : Option Value
  totalEquity : Option Value
  totalStrategyEquity : Option Value
  equity : Option Value
  equityUsd : Option Value
  peakEquityUsd : Option Value
  realizedVol : Option Value
  drawdownFromPeak : Option Value
  drawdownFromPeakObservedAt : Option Value
  productionDriftStatus : Option Value
  dailyLossUsd : Option Value
deriving DecidableEq

def Facts.empty : Facts := ⟨none, none, none, none, none, none, none, none, none, none, none, none, none, none, none, none⟩

structure Portfolio where
  facts : Facts
  metadata : Facts
  snapshot : Facts

structure Evidence where
  observationOk : Bool
  unknownPending : Bool
  durableBreakerOpen : Bool
deriving DecidableEq

/-- The built-ins that the projection calls, and the platform kit's `apply_cycle_new_risk_health_axes`. -/
structure Runtime where
  /-- `float` of a text, where it is a finite number. -/
  parseFloat : String → Option ℚ
  upper : String → String
  /-- The seconds since a timestamp of `fromisoformat` that has an offset. -/
  age : String → Option ℚ
  applyAxes : Facts → Evidence → Facts

section Build

variable (rt : Runtime)

def coerceOptionalFloat : Value → Option ℚ
  | .number q => some q
  | .text s => rt.parseFloat s
  | _ => none

def ofNumber : Option ℚ → Value
  | some q => .number q
  | none => .none

def invalidRiskInput : Value := .text "INVALID_RISK_INPUT"

def riskInput : Value → Value
  | .none => .none
  | value => match coerceOptionalFloat rt value with
    | some q => .number q
    | none => invalidRiskInput

def resolveUnknownPending (p : Portfolio) : Bool :=
  [p.facts, p.metadata, p.snapshot].any fun source => source.unknownPendingOrders.any (· ≠ .bool false)

def closed : Value → Bool
  | .text s => rt.upper (Text.strip s) = "CLOSED"
  | _ => false

def resolveDurableBreakerOpen (p : Portfolio) : Bool :=
  [p.snapshot, p.facts, p.metadata].any fun source => source.durableCircuitBreakerState.any (!closed rt ·)

def equityOf (p : Portfolio) (executionEquity : Option Value) : Option ℚ :=
  let native := p.facts.accountEquityUsd.or (p.facts.totalEquity.or (p.facts.totalStrategyEquity.or p.facts.equity))
  let equity := match native with
    | some value => coerceOptionalFloat rt value
    | none => match p.snapshot.equityUsd with
      | some value => coerceOptionalFloat rt value
      | none => executionEquity.bind (coerceOptionalFloat rt)
  equity.filter (0 < ·)

/-- `BROKER_DRAWDOWN_MAX_AGE_SECONDS`. -/
def maxDrawdownAge : ℚ := 300

def resolveDrawdownFromPeak (equity peak : Option ℚ) (explicit observedAt : Option Value) : Option ℚ :=
  match equity.filter (0 < ·), peak.filter (0 < ·) with
  | some equity, some peak => some (max 0 ((peak - equity) / peak))
  | _, _ => match observedAt with
    | some (.text stamp) => match rt.age stamp with
      | some age => if 0 ≤ age ∧ age ≤ maxDrawdownAge then (explicit.bind (coerceOptionalFloat rt)).filter (0 ≤ ·) else none
      | none => none
    | _ => none

def unhealthy (healthy : String) (native projected : Option Value) : Option Value :=
  match native with
  | some value => if value ≠ .text healthy then some value else projected
  | none => projected

def nativeInput (native projected : Option Value) : Option Value :=
  match native with
  | some value => some (if value ≠ .none then riskInput rt value else invalidRiskInput)
  | none => projected.map (riskInput rt)

def evidenceOf (p : Portfolio) (equity : Option ℚ) : Evidence :=
  ⟨equity.isSome, resolveUnknownPending p, resolveDurableBreakerOpen rt p⟩

def withHealth (p : Portfolio) (evidence : Evidence) : Facts :=
  let projection := rt.applyAxes p.snapshot evidence
  { projection with
    observationStatus := unhealthy "COMPLETE" p.facts.observationStatus
      (if !evidence.observationOk then some (.text "UNAVAILABLE") else projection.observationStatus)
    reconciliationStatus := unhealthy "VERIFIED" p.facts.reconciliationStatus
      (if evidence.unknownPending then some (.text "UNVERIFIED") else projection.reconciliationStatus)
    circuitBreakerState := unhealthy "CLOSED" p.facts.circuitBreakerState
      (if evidence.durableBreakerOpen || evidence.unknownPending then some (.text "OPEN") else projection.circuitBreakerState) }

def withInputs (p : Portfolio) (equity : Option ℚ) (projection : Facts) : Facts :=
  { projection with
    equityUsd := some (ofNumber equity)
    peakEquityUsd := nativeInput rt p.facts.peakEquityUsd projection.peakEquityUsd
    realizedVol := nativeInput rt p.facts.realizedVol projection.realizedVol
    drawdownFromPeakObservedAt :=
      if p.facts.drawdownFromPeak.isSome then p.facts.drawdownFromPeakObservedAt else projection.drawdownFromPeakObservedAt }

def withDrawdown (drawdown : Option ℚ) (projection : Facts) : Facts :=
  { projection with
    drawdownFromPeak := some (ofNumber drawdown)
    observationStatus := if drawdown = none then some (.text "UNAVAILABLE") else projection.observationStatus }

def measured (native : Facts) (equity : Option ℚ) (projection : Facts) : Facts :=
  match (native.drawdownFromPeak.bind (coerceOptionalFloat rt)).filter (0 ≤ ·) with
  | some drawdown => withDrawdown (some drawdown) projection
  | none =>
    if native.peakEquityUsd.isSome ∧ native.drawdownFromPeak = none ∧ projection.drawdownFromPeak = none then projection
    else
      withDrawdown (resolveDrawdownFromPeak rt equity (projection.peakEquityUsd.bind (coerceOptionalFloat rt))
        (if native.drawdownFromPeak.isSome then native.drawdownFromPeak else projection.drawdownFromPeak)
        projection.drawdownFromPeakObservedAt) projection

def buildAccountNewRiskSnapshot (p : Portfolio) (executionEquity : Option Value) : Facts :=
  let equity := equityOf rt p executionEquity
  measured rt p.facts equity (withInputs rt p equity (withHealth rt p (evidenceOf rt p equity)))

structure SignalMetadata where
  facts : Facts
  snapshot : Facts

def accountFacts (account metadata : Facts) : Facts :=
  { Facts.empty with
    totalEquity := some (ofNumber ((account.accountEquityUsd.or account.equity).bind (coerceOptionalFloat rt)))
    unknownPendingOrders := account.unknownPendingOrders.or metadata.unknownPendingOrders
    durableCircuitBreakerState := account.durableCircuitBreakerState.or metadata.durableCircuitBreakerState
    observationStatus := account.observationStatus.or metadata.observationStatus
    reconciliationStatus := account.reconciliationStatus.or metadata.reconciliationStatus
    circuitBreakerState := account.circuitBreakerState.or metadata.circuitBreakerState
    productionDriftStatus := account.productionDriftStatus.or metadata.productionDriftStatus
    dailyLossUsd := account.dailyLossUsd.or metadata.dailyLossUsd
    peakEquityUsd := account.peakEquityUsd
    drawdownFromPeak := account.drawdownFromPeak
    realizedVol := account.realizedVol
    drawdownFromPeakObservedAt := account.drawdownFromPeakObservedAt }

def cachedFacts (account : Facts) (metadata : SignalMetadata) (totalEquity : Option Value) : Facts :=
  let cached := metadata.snapshot
  let late := account.drawdownFromPeak = none ∧ metadata.facts.drawdownFromPeak.isSome
  { cached with
    equityUsd := totalEquity
    peakEquityUsd := account.peakEquityUsd.or (metadata.facts.peakEquityUsd.or cached.peakEquityUsd)
    realizedVol := if account.realizedVol = none then metadata.facts.realizedVol.or cached.realizedVol else cached.realizedVol
    drawdownFromPeak :=
      if account.peakEquityUsd.isSome ∧ account.drawdownFromPeak = none then none
      else account.drawdownFromPeak.or (metadata.facts.drawdownFromPeak.or cached.drawdownFromPeak)
    drawdownFromPeakObservedAt :=
      if late then metadata.facts.drawdownFromPeakObservedAt else cached.drawdownFromPeakObservedAt }

def buildPortfolioFromAccountValues (account : Facts) (metadata : SignalMetadata) : Portfolio :=
  let facts := accountFacts rt account metadata.facts
  let snapshot := buildAccountNewRiskSnapshot rt ⟨facts, Facts.empty, cachedFacts account metadata facts.totalEquity⟩ none
  ⟨{ facts with
      peakEquityUsd := facts.peakEquityUsd.or metadata.facts.peakEquityUsd
      realizedVol := facts.realizedVol.or metadata.facts.realizedVol }, Facts.empty, snapshot⟩

end Build

section Rebuild

variable {rt : Runtime}

/-- The documented `apply_cycle_new_risk_health_axes`: it sets the health axes, by the evidence alone. -/
structure Runtime.AxesLawful (rt : Runtime) : Prop where
  axes : ∀ p e, rt.applyAxes p e = { p with
    observationStatus := (rt.applyAxes p e).observationStatus
    reconciliationStatus := (rt.applyAxes p e).reconciliationStatus
    circuitBreakerState := (rt.applyAxes p e).circuitBreakerState }
  evidence : ∀ p q e, (rt.applyAxes p e).observationStatus = (rt.applyAxes q e).observationStatus ∧
    (rt.applyAxes p e).reconciliationStatus = (rt.applyAxes q e).reconciliationStatus ∧
    (rt.applyAxes p e).circuitBreakerState = (rt.applyAxes q e).circuitBreakerState

lemma coerce_ofNumber (x : Option ℚ) : coerceOptionalFloat rt (ofNumber x) = x := by
  cases x <;> rfl

variable (rt) in
lemma riskInput_cases (value : Value) :
    riskInput rt value = .none ∨ (∃ q, riskInput rt value = .number q) ∨ riskInput rt value = invalidRiskInput := by
  unfold riskInput
  split
  · exact .inl rfl
  · split
    · exact .inr (.inl ⟨_, rfl⟩)
    · exact .inr (.inr rfl)

lemma riskInput_idem (hparse : rt.parseFloat "INVALID_RISK_INPUT" = none) (value : Value) :
    riskInput rt (riskInput rt value) = riskInput rt value := by
  rcases riskInput_cases rt value with h | ⟨q, h⟩ | h <;> rw [h]
  · rfl
  · rfl
  · simp [riskInput, invalidRiskInput, coerceOptionalFloat, hparse]

lemma nativeInput_again (hparse : rt.parseFloat "INVALID_RISK_INPUT" = none) {account late cached x : Option Value}
    (hx : account = none → x = late.or cached) :
    nativeInput rt (account.or late) (nativeInput rt account x) = nativeInput rt account x ↔ ¬ (account = none ∧ late = some .none) := by
  cases account with
  | some value => simp [nativeInput]
  | none =>
    rw [hx rfl]
    cases late with
    | none => simp [nativeInput, Function.comp_def, riskInput_idem hparse]
    | some value =>
      by_cases hv : value = .none
      · simp [nativeInput, hv, riskInput, invalidRiskInput]
      · simp [nativeInput, hv]

variable (rt) in
lemma resolveDrawdown_cases (equity peak : Option ℚ) (observedAt : Option Value) :
    (∃ drawdown, ∀ explicit, resolveDrawdownFromPeak rt equity peak explicit observedAt = drawdown) ∨
      ∀ explicit, resolveDrawdownFromPeak rt equity peak explicit observedAt =
        (explicit.bind (coerceOptionalFloat rt)).filter (0 ≤ ·) := by
  unfold resolveDrawdownFromPeak
  split
  · exact .inl ⟨_, fun _ => rfl⟩
  · split
    · split
      · split
        · exact .inr fun _ => rfl
        · exact .inl ⟨none, fun _ => rfl⟩
      · exact .inl ⟨none, fun _ => rfl⟩
    · exact .inl ⟨none, fun _ => rfl⟩

lemma resolveDrawdown_again (equity peak : Option ℚ) (explicit observedAt : Option Value) :
    resolveDrawdownFromPeak rt equity peak (some (ofNumber (resolveDrawdownFromPeak rt equity peak explicit observedAt))) observedAt =
      resolveDrawdownFromPeak rt equity peak explicit observedAt := by
  rcases resolveDrawdown_cases rt equity peak observedAt with ⟨drawdown, h⟩ | h
  · rw [h, h]
  · rw [h, h, Option.bind_some, coerce_ofNumber, Option.filter_filter]
    simp

lemma measured_again {native native' projection : Facts} {equity : Option ℚ} (hd : native'.drawdownFromPeak = native.drawdownFromPeak)
    (hp : native.peakEquityUsd.isSome = true → native'.peakEquityUsd.isSome = true) :
    measured rt native' equity { projection with drawdownFromPeak := (measured rt native equity projection).drawdownFromPeak } =
      measured rt native equity projection := by
  unfold measured
  rw [hd]
  cases hn : (native.drawdownFromPeak.bind (coerceOptionalFloat rt)).filter (0 ≤ ·) with
  | some drawdown => rfl
  | none =>
    dsimp only
    split
    · rename_i hearly
      rw [if_pos ⟨hp hearly.1, hearly.2.1, hearly.2.2⟩]
    · have hlate : ¬ (native'.peakEquityUsd.isSome = true ∧ native.drawdownFromPeak = none ∧ (withDrawdown
          (resolveDrawdownFromPeak rt equity (projection.peakEquityUsd.bind (coerceOptionalFloat rt))
            (if native.drawdownFromPeak.isSome then native.drawdownFromPeak else projection.drawdownFromPeak)
            projection.drawdownFromPeakObservedAt) projection).drawdownFromPeak = none) := by
        rintro ⟨-, -, h⟩
        cases h
      rw [if_neg hlate]
      cases hnative : native.drawdownFromPeak with
      | some value => rfl
      | none =>
        simp only [Option.isSome_none, Bool.false_eq_true, if_false, withDrawdown, resolveDrawdown_again]

variable (rt) in
lemma measured_frame (native : Facts) (equity : Option ℚ) (projection : Facts) :
    measured rt native equity projection =
      { projection with
        drawdownFromPeak := (measured rt native equity projection).drawdownFromPeak
        observationStatus := (measured rt native equity projection).observationStatus } := by
  unfold measured
  split
  · rfl
  · split <;> rfl

def staged (rt : Runtime) (p : Portfolio) (equity : Option ℚ) : Facts := withInputs rt p equity (withHealth rt p (evidenceOf rt p equity))

section Portfolios

variable (rt : Runtime) (account : Facts) (metadata : SignalMetadata)

def firstRead : Portfolio :=
  ⟨accountFacts rt account metadata.facts, Facts.empty,
    cachedFacts account metadata (accountFacts rt account metadata.facts).totalEquity⟩

/-- The projection of the metadata holds a `None` that the account read does not replace. -/
def LateNone : Prop := account.peakEquityUsd = none ∧ metadata.facts.peakEquityUsd = some .none ∨
  account.realizedVol = none ∧ metadata.facts.realizedVol = some .none

end Portfolios

variable {account : Facts} {metadata : SignalMetadata}

lemma stored_eq : (buildPortfolioFromAccountValues rt account metadata).snapshot =
    measured rt (firstRead rt account metadata).facts (equityOf rt (firstRead rt account metadata) none)
      (staged rt (firstRead rt account metadata) (equityOf rt (firstRead rt account metadata) none)) := rfl

lemma staged_frame (haxes : rt.AxesLawful) (p : Portfolio) (equity : Option ℚ) :
    staged rt p equity = { p.snapshot with
      observationStatus := (staged rt p equity).observationStatus
      reconciliationStatus := (staged rt p equity).reconciliationStatus
      circuitBreakerState := (staged rt p equity).circuitBreakerState
      equityUsd := some (ofNumber equity)
      peakEquityUsd := nativeInput rt p.facts.peakEquityUsd p.snapshot.peakEquityUsd
      realizedVol := nativeInput rt p.facts.realizedVol p.snapshot.realizedVol
      drawdownFromPeakObservedAt :=
        if p.facts.drawdownFromPeak.isSome then p.facts.drawdownFromPeakObservedAt else p.snapshot.drawdownFromPeakObservedAt } := by
  unfold staged withInputs withHealth
  rw [haxes.axes]

lemma staged_health (haxes : rt.AxesLawful) {p q : Portfolio} {equity : Option ℚ} (he : evidenceOf rt p equity = evidenceOf rt q equity)
    (ho : p.facts.observationStatus = q.facts.observationStatus) (hr : p.facts.reconciliationStatus = q.facts.reconciliationStatus)
    (hc : p.facts.circuitBreakerState = q.facts.circuitBreakerState) :
    (staged rt p equity).observationStatus = (staged rt q equity).observationStatus ∧
      (staged rt p equity).reconciliationStatus = (staged rt q equity).reconciliationStatus ∧
      (staged rt p equity).circuitBreakerState = (staged rt q equity).circuitBreakerState := by
  obtain ⟨hobservation, hreconciliation, hbreaker⟩ := haxes.evidence p.snapshot q.snapshot (evidenceOf rt q equity)
  simp only [staged, withInputs, withHealth, he, ho, hr, hc, hobservation, hreconciliation, hbreaker, and_self]

lemma evidence_again (haxes : rt.AxesLawful) (equity : Option ℚ) :
    evidenceOf rt (buildPortfolioFromAccountValues rt account metadata) equity = evidenceOf rt (firstRead rt account metadata) equity := by
  have hframe := measured_frame rt (firstRead rt account metadata).facts (equityOf rt (firstRead rt account metadata) none)
    (staged rt (firstRead rt account metadata) (equityOf rt (firstRead rt account metadata) none))
  rw [← stored_eq, staged_frame haxes] at hframe
  have hunknown := congrArg Facts.unknownPendingOrders hframe
  have hdurable := congrArg Facts.durableCircuitBreakerState hframe
  dsimp only at hunknown hdurable
  simp only [evidenceOf, resolveUnknownPending, resolveDurableBreakerOpen, List.any_cons, List.any_nil, hunknown, hdurable]
  rfl

lemma staged_again (haxes : rt.AxesLawful) :
    let first := firstRead rt account metadata
    let built := buildPortfolioFromAccountValues rt account metadata
    let equity := equityOf rt first none
    staged rt built equity = { staged rt first equity with
      drawdownFromPeak := built.snapshot.drawdownFromPeak
      peakEquityUsd := nativeInput rt built.facts.peakEquityUsd (staged rt first equity).peakEquityUsd
      realizedVol := nativeInput rt built.facts.realizedVol (staged rt first equity).realizedVol } := by
  intro first built equity
  obtain ⟨hobservation, hreconciliation, hbreaker⟩ :=
    staged_health (p := built) (q := first) haxes (evidence_again haxes equity) rfl rfl rfl
  have hstored : built.snapshot = { staged rt first equity with
      drawdownFromPeak := built.snapshot.drawdownFromPeak, observationStatus := built.snapshot.observationStatus } :=
    measured_frame rt first.facts equity (staged rt first equity)
  have hequity : (staged rt first equity).equityUsd = some (ofNumber equity) := by rw [staged_frame haxes]
  have hstamp : (if built.facts.drawdownFromPeak.isSome then built.facts.drawdownFromPeakObservedAt
      else built.snapshot.drawdownFromPeakObservedAt) = (staged rt first equity).drawdownFromPeakObservedAt := by
    rw [hstored, staged_frame haxes]
    change (if first.facts.drawdownFromPeak.isSome then first.facts.drawdownFromPeakObservedAt else _) = _
    split <;> rfl
  rw [staged_frame haxes built, hobservation, hreconciliation, hbreaker, hstamp, ← hequity]
  rw [hstored]

lemma rebuild_of_inputs (haxes : rt.AxesLawful) {executionEquity : Option Value} :
    let first := firstRead rt account metadata
    let built := buildPortfolioFromAccountValues rt account metadata
    let stage := staged rt first (equityOf rt first none)
    nativeInput rt built.facts.peakEquityUsd stage.peakEquityUsd = stage.peakEquityUsd →
      nativeInput rt built.facts.realizedVol stage.realizedVol = stage.realizedVol →
        buildAccountNewRiskSnapshot rt built executionEquity = built.snapshot := by
  intro first built stage hpeak hvol
  have hequity : equityOf rt built executionEquity = equityOf rt first none := rfl
  have hstage : staged rt built (equityOf rt first none) = { stage with drawdownFromPeak := built.snapshot.drawdownFromPeak } := by
    rw [staged_again haxes]
    simp only [stage, built, first] at hpeak hvol
    rw [hpeak, hvol]
  have hsome : first.facts.peakEquityUsd.isSome = true → built.facts.peakEquityUsd.isSome = true := by
    intro h
    change ((accountFacts rt account metadata.facts).peakEquityUsd.or _).isSome = true
    rw [Option.isSome_or]
    exact Bool.or_eq_true_iff.mpr (.inl h)
  change measured rt built.facts (equityOf rt built executionEquity) (staged rt built (equityOf rt built executionEquity)) = _
  rw [hequity, hstage]
  exact measured_again rfl hsome

lemma peak_again_iff (haxes : rt.AxesLawful) (hparse : rt.parseFloat "INVALID_RISK_INPUT" = none) (equity : Option ℚ) :
    let stage := staged rt (firstRead rt account metadata) equity
    nativeInput rt (buildPortfolioFromAccountValues rt account metadata).facts.peakEquityUsd stage.peakEquityUsd = stage.peakEquityUsd ↔
      ¬ (account.peakEquityUsd = none ∧ metadata.facts.peakEquityUsd = some .none) := by
  intro stage
  have hstage : stage.peakEquityUsd = nativeInput rt account.peakEquityUsd (account.peakEquityUsd.or
      (metadata.facts.peakEquityUsd.or metadata.snapshot.peakEquityUsd)) := by
    unfold stage
    rw [staged_frame haxes]
    rfl
  rw [hstage]
  exact nativeInput_again hparse fun (h : account.peakEquityUsd = none) => by rw [h]; rfl

lemma vol_again_iff (haxes : rt.AxesLawful) (hparse : rt.parseFloat "INVALID_RISK_INPUT" = none) (equity : Option ℚ) :
    let stage := staged rt (firstRead rt account metadata) equity
    nativeInput rt (buildPortfolioFromAccountValues rt account metadata).facts.realizedVol stage.realizedVol = stage.realizedVol ↔
      ¬ (account.realizedVol = none ∧ metadata.facts.realizedVol = some .none) := by
  intro stage
  have hstage : stage.realizedVol = nativeInput rt account.realizedVol (if account.realizedVol = none then
      metadata.facts.realizedVol.or metadata.snapshot.realizedVol else metadata.snapshot.realizedVol) := by
    unfold stage
    rw [staged_frame haxes]
    rfl
  rw [hstage]
  exact nativeInput_again hparse fun (h : account.realizedVol = none) => if_pos h

lemma rebuild_inputs (haxes : rt.AxesLawful) (account : Facts) (metadata : SignalMetadata) (executionEquity : Option Value) :
    let built := buildPortfolioFromAccountValues rt account metadata
    let stage := staged rt (firstRead rt account metadata) (equityOf rt (firstRead rt account metadata) none)
    let rebuilt := buildAccountNewRiskSnapshot rt built executionEquity
    built.snapshot.peakEquityUsd = stage.peakEquityUsd ∧ built.snapshot.realizedVol = stage.realizedVol ∧
      rebuilt.peakEquityUsd = nativeInput rt built.facts.peakEquityUsd stage.peakEquityUsd ∧
      rebuilt.realizedVol = nativeInput rt built.facts.realizedVol stage.realizedVol := by
  intro built stage rebuilt
  have hrebuilt : rebuilt = measured rt built.facts (equityOf rt (firstRead rt account metadata) none)
      (staged rt built (equityOf rt (firstRead rt account metadata) none)) := rfl
  rw [hrebuilt, measured_frame rt built.facts, staged_again haxes, stored_eq, measured_frame rt (firstRead rt account metadata).facts]
  exact ⟨rfl, rfl, rfl, rfl⟩

/-- A rebuild of the projection yields the stored one exactly where no `None` of the metadata has become native in between. -/
theorem rebuild_iff (haxes : rt.AxesLawful) (hparse : rt.parseFloat "INVALID_RISK_INPUT" = none) (account : Facts)
    (metadata : SignalMetadata) (executionEquity : Option Value) :
    let portfolio := buildPortfolioFromAccountValues rt account metadata
    buildAccountNewRiskSnapshot rt portfolio executionEquity = portfolio.snapshot ↔ ¬ LateNone account metadata := by
  intro portfolio
  constructor
  · intro h hlate
    obtain ⟨hpeak, hvol, hpeak', hvol'⟩ := rebuild_inputs haxes account metadata executionEquity
    have hp : nativeInput rt portfolio.facts.peakEquityUsd _ = _ := hpeak'.symm.trans ((congrArg Facts.peakEquityUsd h).trans hpeak)
    have hv : nativeInput rt portfolio.facts.realizedVol _ = _ := hvol'.symm.trans ((congrArg Facts.realizedVol h).trans hvol)
    exact hlate.elim ((peak_again_iff haxes hparse _).mp hp) ((vol_again_iff haxes hparse _).mp hv)
  · intro h
    exact rebuild_of_inputs haxes ((peak_again_iff haxes hparse _).mpr fun hp => h (.inl hp))
      ((vol_again_iff haxes hparse _).mpr fun hv => h (.inr hv))

section Fixture

def runtime₀ : Runtime where
  parseFloat _ := none
  upper := String.map Char.toUpper
  age _ := none
  applyAxes p e := { p with
    observationStatus := some (.text (if e.observationOk then "COMPLETE" else "UNAVAILABLE"))
    reconciliationStatus := some (.text (if e.unknownPending then "UNVERIFIED" else "VERIFIED"))
    circuitBreakerState := some (.text (if e.durableBreakerOpen || e.unknownPending then "OPEN" else "CLOSED")) }

lemma runtime₀_lawful : runtime₀.AxesLawful := ⟨fun _ _ => rfl, fun _ _ _ => ⟨rfl, rfl, rfl⟩⟩

def account₀ : Facts := { Facts.empty with equity := some (.number 40000) }

theorem rebuild_iff_measured :
    let metadata : SignalMetadata := ⟨{ Facts.empty with peakEquityUsd := some (.number 50000) }, Facts.empty⟩
    let portfolio := buildPortfolioFromAccountValues runtime₀ account₀ metadata
    portfolio.snapshot.drawdownFromPeak = some (.number (1 / 5)) ∧
      buildAccountNewRiskSnapshot runtime₀ portfolio none = portfolio.snapshot := by
  intro metadata portfolio
  exact ⟨by decide +kernel, (rebuild_iff runtime₀_lawful rfl account₀ metadata none).mpr (by unfold LateNone; decide +kernel)⟩

theorem late_none_becomes_invalid :
    let portfolio := buildPortfolioFromAccountValues runtime₀ account₀ ⟨{ Facts.empty with realizedVol := some .none }, Facts.empty⟩
    buildAccountNewRiskSnapshot runtime₀ portfolio none ≠ portfolio.snapshot ∧ portfolio.snapshot.realizedVol = some .none ∧
      (buildAccountNewRiskSnapshot runtime₀ portfolio none).realizedVol = some invalidRiskInput := by
  decide

end Fixture

end Rebuild

end IbkrPlatform.Execution.RiskProjection
