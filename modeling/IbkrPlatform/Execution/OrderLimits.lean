import Mathlib.Tactic.Linarith
import IbkrPlatform.Execution.BuyBlocks

/-! The approved limit of a symbol, as the check before the lock and the check of each buy compare it. -/

namespace IbkrPlatform.Execution.OrderLimits

open Library Orders Sizing NewRiskGate RiskAuthority SettledCash Planning Rebalance Stages

variable {W : Type} {kit : Kit} {ports : Ports W} {r : Request} {plan : Plan}

section Statement

variable (kit : Kit) (ports : Ports W) (r : Request) (plan : Plan)

def LimitsHold (w : W) : Prop := ∀ plan w', (planRebalance kit ports.toEnvironment r).exec w = (.ok plan, w') →
  (executePlan kit ports r plan w').ending ≠ some .buyExceedsLimit

/-- The budget that a candidate is sized within; none where the settled cash is unverified or used up. -/
def sizingBudget (p : Progress W) : Option ℚ :=
  if r.cashOnlyExecution then
    let observed := ports.settledCash (ports.monotonic p.world).2
    (observed.1.filter (0 < ·)).map fun _ => (refreshed plan p observed.1 observed.2).investable
  else some p.investable

def Fits (p : Progress W) (t : Symbol × ℚ) : Prop := plan.book.currentMv t.1 < t.2 - plan.book.threshold →
  ∀ budget, sizingBudget ports r plan p = some budget → ∀ quantity limit, buySize kit plan t.1 t.2 budget = .quantity quantity limit →
    t.1 ∈ plan.book.strategySymbols ∧ ∃ cap, plan.book.caps.lookup t.1 = some cap ∧
      quantity * limit ≤ cap - plan.book.currentMv t.1 + 1 / 1000000

def PlanFits (w : W) : Prop :=
  let start := startBuys kit ports r plan (sells kit ports r plan w).1
  (sells kit ports r plan w).2 = none → start.2 = none →
    EarlyExit.Along (Fits kit ports r plan) (buyStep kit ports r plan) start.1 plan.book.targetMv

def AllFit (w : W) : Prop :=
  ∀ plan w', (planRebalance kit ports.toEnvironment r).exec w = (.ok plan, w') → PlanFits kit ports r plan w'

def targetsWithin (b : Book) : Bool := b.targetMv.all fun t =>
  t.1 ∈ b.strategySymbols ∧ (b.caps.lookup t.1).any fun cap => t.2 ≤ cap + 1 / 1000000

end Statement

section Sizes

variable {symbol : Symbol} {target investable quantity limit : ℚ}

lemma buySize_quantity (h : buySize kit plan symbol target investable = .quantity quantity limit) :
    let buyValue := min (target - plan.book.currentMv symbol) (investable * (95 / 100))
    let planned := plannedBuyOrderQuantity kit plan.book.step buyValue limit
    0 < quantity ∧ 0 < limit ∧ plan.book.minimumOrderNotional ≤ buyValue ∧ planned = kit.floorOrderQuantity (buyValue / limit) plan.book.step ∧
      quantity = if investable < planned * limit then kit.floorOrderQuantity (investable / limit) plan.book.step else planned := by
  unfold buySize at h
  extract_lets b buyValue at h
  split at h
  · cases h
  · split at h
    · cases h
    · rename_i hnotional
      extract_lets limit' planned at h
      split at h
      · cases h
      · rename_i quantity' hplanned
        split at h
        · cases h
        · rename_i hfits
          obtain ⟨rfl, rfl⟩ := BuySize.quantity.inj h
          have hlimit : 0 < limit' := by
            by_contra hl
            refine hplanned (le_of_eq ?_)
            simp [planned, plannedBuyOrderQuantity, hl]
          refine ⟨not_le.mp fun hq => hfits (.inl hq), hlimit, not_lt.mp hnotional, ?_, rfl⟩
          simp [plannedBuyOrderQuantity, hlimit, max_eq_right hlimit.le]

lemma buySize_cost (hf : kit.FloorsDown) (hmin : 0 ≤ plan.book.minimumOrderNotional)
    (h : buySize kit plan symbol target investable = .quantity quantity limit) :
    quantity * limit ≤ target - plan.book.currentMv symbol := by
  obtain ⟨-, hlimit, hnotional, hplanned, hquantity⟩ := buySize_quantity h
  set buyValue := min (target - plan.book.currentMv symbol) (investable * (95 / 100))
  have hnonneg : 0 ≤ buyValue := hmin.trans hnotional
  have hcost : kit.floorOrderQuantity (buyValue / limit) plan.book.step * limit ≤ buyValue := by
    rw [← le_div_iff₀ hlimit]
    exact hf _ _ (div_nonneg hnonneg hlimit.le)
  have hshare : buyValue ≤ investable * (95 / 100) := min_le_right _ _
  -- The budget is not below the planned cost, which is at most 95% of it.
  have hbudget : ¬ investable < plannedBuyOrderQuantity kit plan.book.step buyValue limit * limit := by
    rw [hplanned]
    linarith
  rw [hquantity, if_neg hbudget, hplanned]
  exact hcost.trans (min_le_left _ _)

lemma buyAllowed_iff (hq : 0 < quantity) (hl : 0 < limit) : buyAllowed plan symbol quantity limit = true ↔
    symbol ∈ plan.book.strategySymbols ∧ ∃ cap, plan.book.caps.lookup symbol = some cap ∧
      quantity * limit ≤ cap - plan.book.currentMv symbol + 1 / 1000000 := by
  unfold buyAllowed
  cases plan.book.caps.lookup symbol <;> simp [hq, hl]

end Sizes

section Steps

def Foreign (ports : Ports W) : Prop :=
  ∀ broker intent reduction w, (ports.submit broker intent reduction w).1 ≠ .error .buyExceedsLimit

variable {p : Progress W} {t : Symbol × ℚ}

lemma sellStep_limit (hports : Foreign ports) {symbol : Symbol} :
    (sellStep kit ports r plan p symbol).2 ≠ some (.raised .buyExceedsLimit) := by
  unfold sellStep
  split
  · simp
  · simp
  · simp
  · rename_i quantity price _
    unfold sellOrder
    extract_lets held intent
    split
    · simp
    · split
      · simp
      · split
        · simp
        · simp only [Progress.submit]
          have hsubmit := hports .connection (sellIntent plan symbol quantity) (if plan.newRiskBlocked then some (held, 0) else none) p.world
          cases hq : (ports.submit .connection (sellIntent plan symbol quantity)
              (if plan.newRiskBlocked then some (held, 0) else none) p.world).1 with
          | error refusal =>
            rw [hq] at hsubmit
            simpa using hsubmit
          | ok answer =>
            dsimp only
            split <;> simp

lemma submitBuy_limit (hports : Foreign ports) {started quantity limit : ℚ} {symbol : Symbol} :
    (submitBuy ports r plan p started symbol quantity limit).2 ≠ some (.raised .buyExceedsLimit) := by
  simp only [submitBuy, Progress.submit]
  have hsubmit := hports (buyBroker r plan started p.investable) (buyIntent plan symbol quantity limit) none p.world
  cases hq : (ports.submit (buyBroker r plan started p.investable) (buyIntent plan symbol quantity limit) none p.world).1 with
  | error refusal =>
    rw [hq] at hsubmit
    simpa using hsubmit
  | ok answer =>
    dsimp only
    split <;> simp

lemma buyOrder_limit (hports : Foreign ports) {started quantity limit : ℚ} {symbol : Symbol} :
    (buyOrder ports r plan p started symbol quantity limit).2 ≠ some (.raised .buyExceedsLimit) ↔
      buyAllowed plan symbol quantity limit = true := by
  unfold buyOrder
  split
  · rename_i h
    have hrefused : buyAllowed plan symbol quantity limit = false := by simpa using h
    simp [hrefused]
  · rename_i h
    have hallowed : buyAllowed plan symbol quantity limit = true := by simpa using h
    extract_lets now q
    simp only [hallowed, iff_true]
    split
    · nofun
    · split
      · nofun
      · exact submitBuy_limit hports

lemma sizedBuy_limit (hports : Foreign ports) {started target : ℚ} {symbol : Symbol} :
    (sizedBuy kit ports r plan p started symbol target).2 ≠ some (.raised .buyExceedsLimit) ↔
      ∀ quantity limit, buySize kit plan symbol target p.investable = .quantity quantity limit →
        symbol ∈ plan.book.strategySymbols ∧ ∃ cap, plan.book.caps.lookup symbol = some cap ∧
          quantity * limit ≤ cap - plan.book.currentMv symbol + 1 / 1000000 := by
  unfold sizedBuy
  cases hsize : buySize kit plan symbol target p.investable with
  | missingPrice => simp
  | minNotional => simp
  | quantityZero => simp
  | insufficientBuyingPower => simp
  | quantity quantity limit =>
    obtain ⟨hq, hl, -⟩ := buySize_quantity hsize
    dsimp only
    rw [buyOrder_limit hports, buyAllowed_iff hq hl]
    constructor
    · rintro h _ _ ⟨⟩
      exact h
    · intro h
      exact h quantity limit rfl

lemma buyStep_limit (hports : Foreign ports) :
    (buyStep kit ports r plan p t).2 ≠ some (.raised .buyExceedsLimit) ↔ Fits kit ports r plan p t := by
  unfold buyStep Fits
  split
  · rename_i hwithin
    simp [not_lt.mpr hwithin]
  · rename_i hneeded
    rw [forall_prop_of_true (not_le.mp hneeded)]
    split
    · rename_i hc
      have hcash : r.cashOnlyExecution = false := by simpa using hc
      rw [sizedBuy_limit hports]
      simp [sizingBudget, hcash]
    · rename_i hc
      have hcash : r.cashOnlyExecution = true := by simpa using hc
      extract_lets started observed q
      have hbudget : sizingBudget ports r plan p = (observed.1.filter (0 < ·)).map fun _ => q.investable := if_pos hcash
      rw [hbudget]
      cases hobserved : observed.1 with
      | none => simp
      | some cash =>
        dsimp only
        split
        · rename_i hempty
          simp [Option.filter, not_lt.mpr hempty]
        · rename_i hpositive
          rw [sizedBuy_limit hports]
          simp [Option.filter, not_le.mp hpositive]

end Steps

section Runs

variable {w w' : W}

lemma buys_limit (hports : Foreign ports) {p : Progress W} {blocked : Option Reason} :
    (buys kit ports r plan p blocked).2 ≠ some (.raised .buyExceedsLimit) ↔
      (blocked = none → EarlyExit.Along (Fits kit ports r plan) (buyStep kit ports r plan) p plan.book.targetMv) := by
  cases blocked with
  | some reason =>
    simp only [buys, reduceCtorEq, false_imp_iff, iff_true]
    refine EarlyExit.loop_avoids_iff.mpr (EarlyExit.along_of_forall fun q t _ => ?_)
    unfold blockedStep
    split <;> nofun
  | none =>
    rw [forall_prop_of_true rfl, buys, EarlyExit.loop_avoids_iff]
    constructor
    · intro h
      exact h.mono fun _ _ => (buyStep_limit hports).mp
    · intro h
      exact h.mono fun _ _ => (buyStep_limit hports).mpr

lemma run_limit {x : Progress W × Option Exit} {ended : Run W} (hended : ended.ending = none) :
    (match x.2 with
      | some exit => x.1.run exit.ending
      | none => ended).ending ≠ some .buyExceedsLimit ↔ x.2 ≠ some (.raised .buyExceedsLimit) := by
  cases x.2 with
  | none => simp [hended]
  | some exit => cases exit <;> simp [Progress.run, Exit.ending]

lemma executePlan_limit (hports : Foreign ports) :
    (executePlan kit ports r plan w).ending ≠ some .buyExceedsLimit ↔ PlanFits kit ports r plan w := by
  have hsells : (sells kit ports r plan w).2 ≠ some (.raised .buyExceedsLimit) :=
    EarlyExit.loop_avoids_iff.mpr (EarlyExit.along_of_forall fun _ _ _ => sellStep_limit hports)
  unfold executePlan PlanFits
  extract_lets sold start bought start'
  cases hsold : sold.2 with
  | some exit =>
    have hsold' : (sells kit ports r plan w).2 = some exit := hsold
    rw [hsold'] at hsells
    cases exit <;> simp_all [Progress.run, Exit.ending]
  | none =>
    rw [forall_prop_of_true rfl]
    exact (run_limit rfl).trans (buys_limit hports)

lemma limits_hold_iff_fit (hports : Foreign ports) : LimitsHold kit ports r w ↔ AllFit kit ports r w :=
  forall_congr' fun _ => forall_congr' fun _ => imp_congr_right fun _ => executePlan_limit hports

lemma fits_of_within (hf : kit.FloorsDown) (hmin : 0 ≤ plan.book.minimumOrderNotional) (h : targetsWithin plan.book = true)
    {p : Progress W} {t : Symbol × ℚ} (ht : t ∈ plan.book.targetMv) : Fits kit ports r plan p t := by
  intro _ budget _ quantity limit hsize
  have hwithin := List.all_eq_true.mp h t ht
  simp only [decide_eq_true_eq, Option.any_eq_true] at hwithin
  obtain ⟨happroved, cap, hcap, htarget⟩ := hwithin
  have hcost := buySize_cost hf hmin hsize
  exact ⟨happroved, cap, hcap, by linarith⟩

lemma plan_minimumOrderNotional (h : (planRebalance kit ports.toEnvironment r).exec w = (.ok plan, w')) :
    0 ≤ plan.book.minimumOrderNotional := by
  obtain ⟨s, w₁, hs, hset⟩ := planRebalance_ok h
  obtain ⟨_, hbook, -⟩ := settle_ok hset
  obtain ⟨_, _, _, _, _, _, -, -, -, -, hsize, -⟩ := survey_ok hs
  obtain ⟨prices, targets, hsettings, -, -⟩ := sizeTargets_ok hsize
  rw [hbook, hsettings]
  exact le_max_left 0 r.minOrderNotional

/-- No buy of a run raises because of its limit exactly where every candidate fits into what its limit leaves, and each does where the
targets are within the tolerance of that check. -/
theorem limits_hold_iff (hports : Foreign ports) (hf : kit.FloorsDown) (w : W) :
    (LimitsHold kit ports r w ↔ AllFit kit ports r w) ∧
      ((∀ plan w', (planRebalance kit ports.toEnvironment r).exec w = (.ok plan, w') → targetsWithin plan.book = true) →
        LimitsHold kit ports r w) := by
  refine ⟨limits_hold_iff_fit hports, fun h => (limits_hold_iff_fit hports).mpr fun plan w' hp _ _ => ?_⟩
  exact EarlyExit.along_of_forall fun _ _ ht => fits_of_within hf (plan_minimumOrderNotional hp) (h plan w' hp) ht

def filled₀ : Ports Unit := BuyBlocks.filling (quiet [("QQQ", 100), ("TLT", 50)] (some 2000))

lemma filled₀_foreign : Foreign filled₀ := fun _ _ _ _ h => nomatch h

def turnover (cap : ℚ) : Request :=
  let r := request₀ false [("QQQ", ⟨10, 90⟩)] [("QQQ", 0), ("TLT", 1 / 2)] 2000
  { r with metadata := { r.metadata with riskAuthority := r.metadata.riskAuthority.map fun a =>
      { a with maxTargetValues := [("QQQ", some 0), ("TLT", some cap)] } } }

theorem limits_hold_iff_turnover : LimitsHold wholeShares filled₀ (turnover 1000) () := by
  refine (limits_hold_iff filled₀_foreign wholeShares_floorsDown ()).2 fun plan w' hp => ?_
  have hwithin : ((planRebalance wholeShares filled₀.toEnvironment (turnover 1000)).exec ()).1.toOption.all
      (fun plan => targetsWithin plan.book) = true := by decide +kernel
  rw [hp] at hwithin
  exact hwithin

theorem half_cent_raises_after_sells :
    let r := turnover (1000 - 1 / 200)
    ¬ LimitsHold wholeShares filled₀ r () ∧ (executeRebalance wholeShares filled₀ r ()).ending = some .buyExceedsLimit ∧
      (executeRebalance wholeShares filled₀ r ()).submissions.map (·.intent.order) = [⟨"QQQ", .sell, 10, none⟩] := by
  intro r
  have hrun : (executeRebalance wholeShares filled₀ r ()).ending = some .buyExceedsLimit ∧
      (executeRebalance wholeShares filled₀ r ()).submissions.map (·.intent.order) = [⟨"QQQ", .sell, 10, none⟩] := by
    decide +kernel
  refine ⟨fun h => ?_, hrun⟩
  have hended := hrun.1
  have hsold := hrun.2
  unfold executeRebalance at hended hsold
  cases hp : (planRebalance wholeShares filled₀.toEnvironment r).exec () with
  | mk answer w' =>
    rw [hp] at hended hsold
    cases answer with
    | error stop => cases stop <;> cases hsold
    | ok plan => exact h plan w' hp hended

end Runs

end IbkrPlatform.Execution.OrderLimits
