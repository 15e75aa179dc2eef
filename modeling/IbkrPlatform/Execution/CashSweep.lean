import IbkrPlatform.Execution.BuyBlocks

/-! The sale of the safe haven that funds buys, where the buys are barred before the lock. -/

namespace IbkrPlatform.Execution.CashSweep

open Library Orders Sizing NewRiskGate RiskAuthority SettledCash Planning Rebalance Stages BuyBlocks

variable {W : Type} {kit : Kit} {ports : Ports W} {r : Request} {plan : Plan} {w w' : W}

section Statement

variable (kit : Kit) (ports : Ports W) (r : Request) (plan : Plan) (w : W)

def BarredBefore : Prop := NewRiskBlocked kit ports r w ∨ r.metadata.smallAccountWarning = true

def OwnSale (o : Order) : Prop := o.side = .sell → plan.book.isSafeHaven o.symbol = true →
  plan.book.target o.symbol + plan.book.threshold < plan.book.currentMv o.symbol ∧
    ∃ price, plan.book.price? o.symbol = some price ∧ o.quantity = plan.book.sellQuantity o.symbol kit price

def Unswept : Prop := ∀ plan w', (planRebalance kit ports.toEnvironment r).exec w = (.ok plan, w') →
  plan.cashSweepQuantity = 0 ∧ ∀ o ∈ (executePlan kit ports r plan w').orders, OwnSale kit plan o

def Sweeps (b : Book) (hasSellPlan : Bool) (investable : ℚ) : Prop := hasSellPlan = false ∧ fundingCandidates b ≠ [] ∧
  ∃ safeHaven, b.safeHaven = some safeHaven ∧ 0 < (b.prices.lookup safeHaven).getD 0 ∧ 0 < b.quantity safeHaven ∧
    0 < truncate (b.quantity safeHaven) ∧ kit.shouldSellCashSweep (truncate (b.quantity safeHaven))
      ((b.prices.lookup safeHaven).getD 0) (max 0 investable) (fundingNeeds b (fundingCandidates b)) = true

def PlanSweeps : Prop := Sweeps kit plan.book (searchSells kit plan.book ⟨false, [], [], [], []⟩ plan.book.allSymbols).found
  (investableBuyingPower plan.anticipatedBuyingPower plan.book.reserved)

end Statement

section Plans

lemma cashSweepQuantity_eq_zero {b : Book} {hasSellPlan : Bool} {investable : ℚ} :
    cashSweepQuantity kit b false hasSellPlan investable = 0 ↔ ¬ Sweeps kit b hasSellPlan investable := by
  unfold cashSweepQuantity Sweeps
  cases b.safeHaven with
  | none => simp
  | some safeHaven =>
    simp only [Bool.false_eq_true, if_false]
    split
    · rename_i hnone
      simp only [true_iff]
      rintro ⟨hsell, hcandidates, _, ⟨⟩, hprice, hquantity, hheld, -⟩
      rcases hnone with h | h | h | h | h
      · exact absurd (hsell.symm.trans h) (by decide)
      · exact hcandidates h
      · exact absurd hprice (not_lt.mpr h)
      · exact absurd hquantity (not_lt.mpr h)
      · exact absurd hheld (not_lt.mpr h)
    · rename_i hsome
      push Not at hsome
      obtain ⟨hsell, hcandidates, hprice, hquantity, hheld⟩ := hsome
      have hsell' : hasSellPlan = false := by simpa using hsell
      split
      · rename_i hkit
        constructor
        · intro hzero
          exact absurd hzero hheld.ne'
        · intro h
          exact absurd ⟨hsell', hcandidates, safeHaven, rfl, hprice, hquantity, hheld, hkit⟩ h
      · rename_i hkit
        simp only [true_iff]
        rintro ⟨-, -, _, ⟨⟩, -, -, -, hkit'⟩
        exact hkit hkit'

lemma plan_sweeps (h : (planRebalance kit ports.toEnvironment r).exec w = (.ok plan, w')) (hrisk : plan.newRiskBlocked = false) :
    plan.cashSweepQuantity = 0 ↔ ¬ PlanSweeps kit plan := by
  obtain ⟨s, w₁, hs, hset⟩ := planRebalance_ok h
  obtain ⟨w₂, hbook, _, hn, _, _, hplan, _⟩ := settle_ok hset
  rw [settlePlan_ok hplan, ← hbook, ← hn, hrisk, cashSweepQuantity_eq_zero]
  rfl

lemma newRiskBlocked_of_plan (h : (planRebalance kit ports.toEnvironment r).exec w = (.ok plan, w'))
    (hb : plan.newRiskBlocked = true) : NewRiskBlocked kit ports r w := by
  obtain ⟨s, w₁, hs, hset⟩ := planRebalance_ok h
  obtain ⟨_, _, _, hn, -⟩ := settle_ok hset
  have hsurvey : ((survey kit ports.toEnvironment r).exec w).1 = .ok s := by rw [hs]
  obtain ⟨_, _, _, _, _, _, -, -, hadm, -⟩ := survey_ok hs
  rw [hn, Survey.newRiskBlocked, Bool.or_eq_true, Bool.or_eq_true] at hb
  rcases hb with (hprohibited | hcash) | hledger
  · cases ha : s.admission with
    | none => simp [Survey.prohibited, ha] at hprohibited
    | some a =>
      refine .prohibited (a := a) ?_ (by simpa [Survey.prohibited, ha] using hprohibited)
      rw [hadm, ha]
  · exact .cashRisk hsurvey hcash
  · exact .ledger hsurvey hledger

lemma BarredBefore.blocked (h : BarredBefore kit ports r w) : BuysBlocked kit ports r w := h.elim .newRisk .smallAccount

lemma unswept_plan (hbarred : BarredBefore kit ports r w)
    (h : (planRebalance kit ports.toEnvironment r).exec w = (.ok plan, w')) (hsweep : plan.cashSweepQuantity = 0) :
    ∀ o ∈ (executePlan kit ports r plan w').orders, OwnSale kit plan o := by
  obtain ⟨s, w₁, hs, hset⟩ := planRebalance_ok h
  obtain ⟨_, _, _, _, hsummary, -⟩ := settle_ok hset
  have hempty : plan.summary.ordersSubmitted = [] := by rw [hsummary]; rfl
  refine executePlan_all (sells_all hempty fun symbol quantity price hc _ hhaven => ?_) (hbarred.blocked.blocks h)
  have hsize := hc.size
  rw [sellSize_unswept hsweep] at hsize
  split at hsize
  · rename_i hover
    split at hsize
    · cases hsize
    · rename_i price' hprice
      split at hsize
      · cases hsize
      · obtain ⟨rfl, rfl⟩ := SellSize.quantity.inj hsize
        exact ⟨hover, _, hprice, rfl⟩
  · cases hsize

/-- The runs whose buys are barred before the lock are unswept exactly where a small-account warning comes with a block of new risk,
or with a plan that does not sweep. -/
theorem barred_unswept_iff (w : W) : (BarredBefore kit ports r w → Unswept kit ports r w) ↔
    (r.metadata.smallAccountWarning = true → NewRiskBlocked kit ports r w ∨
      ∀ plan w', (planRebalance kit ports.toEnvironment r).exec w = (.ok plan, w') → ¬ PlanSweeps kit plan) := by
  constructor
  · intro h hsmall
    refine or_iff_not_imp_left.mpr fun hnew plan w' hp => ?_
    have hrisk : plan.newRiskBlocked = false := by
      by_contra hb
      exact hnew (newRiskBlocked_of_plan hp (by simpa using hb))
    exact (plan_sweeps hp hrisk).mp (h (.inr hsmall) plan w' hp).1
  · intro h hbarred plan w' hp
    have hsweep : plan.cashSweepQuantity = 0 := by
      cases hrisk : plan.newRiskBlocked with
      | true => exact ((newRiskBlocked_of_plan hp hrisk).plan_blocked hp).2
      | false =>
        have hnew : ¬ NewRiskBlocked kit ports r w := by
          intro hn
          rw [(hn.plan_blocked hp).1] at hrisk
          cases hrisk
        have hsmall := hbarred.resolve_left hnew
        exact (plan_sweeps hp hrisk).mpr ((h hsmall).resolve_left hnew plan w' hp)
    exact ⟨hsweep, unswept_plan hbarred hp hsweep⟩

def sweeping : Kit := { wholeShares with
  shouldSellCashSweep := fun held price budget needs =>
    needs.any fun n => n.2 ≤ n.1 ∧ budget < n.2 ∧ n.2 ≤ budget + held * price }

def small₀ : Request :=
  let r := request₀ false [("TLT", ⟨20, 45⟩)] [("QQQ", 1 / 2), ("TLT", 1 / 2)] 2000
  { r with metadata := { r.metadata with
      smallAccountWarning := true
      allocation := r.metadata.allocation.map fun a => { a with safeHavenSymbols := ["TLT"] } } }

def thin₀ : Ports Unit := filling (quiet [("QQQ", 100), ("TLT", 50)] (some 50))

theorem small_account_sells_safe_haven : ¬ (BarredBefore sweeping thin₀ small₀ () → Unswept sweeping thin₀ small₀ ()) ∧
    (executeRebalance sweeping thin₀ small₀ ()).orders = [⟨"TLT", .sell, 20, none⟩] := by
  refine ⟨fun h => ?_, by decide +kernel⟩
  have hunswept := h (.inr rfl)
  have hplanned : ((planRebalance sweeping thin₀.toEnvironment small₀).exec ()).1.toOption.map (·.cashSweepQuantity) = some 20 := by
    decide +kernel
  cases hp : (planRebalance sweeping thin₀.toEnvironment small₀).exec () with
  | mk answer w' =>
    rw [hp] at hplanned
    cases answer with
    | error stop => cases hplanned
    | ok plan =>
      have hsold : plan.cashSweepQuantity = 20 := Option.some.inj hplanned
      have hzero := (hunswept plan w' hp).1
      rw [hsold] at hzero
      cases hzero

end Plans

end IbkrPlatform.Execution.CashSweep
