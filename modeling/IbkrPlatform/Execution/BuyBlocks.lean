import IbkrPlatform.Execution.Stages

/-! What a rebalance orders where a condition blocks its buys. -/

namespace IbkrPlatform.Execution.BuyBlocks

open Library Orders Sizing NewRiskGate RiskAuthority SettledCash Planning Rebalance Stages

variable {W : Type} {kit : Kit} {ports : Ports W} {r : Request} {plan : Plan} {P : Order → Prop}

def All (P : Order → Prop) (p : Progress W) : Prop := ∀ o ∈ p.orders, P o

section Sells

lemma all_submit {p : Progress W} (broker : Broker) (reduction : Option (ℚ × ℚ)) {intent : Intent} (hp : All P p)
    (hi : P intent.order) : All P (p.submit ports broker intent reduction).1 := by
  intro o ho
  simp only [Progress.submit, Progress.orders, List.map_append, List.map_cons, List.map_nil, List.mem_append,
    List.mem_singleton] at ho
  rcases ho with (ho | rfl) | ho
  · exact hp o (List.mem_append_left _ ho)
  · exact hi
  · exact hp o (List.mem_append_right _ ho)

lemma all_list {p : Progress W} {order : Payload} (hp : All P p) (ho : P order.order) : All P (p.list order) := by
  intro o h
  simp only [Progress.list, Summary.list, Progress.orders, List.map_append, List.map_cons, List.map_nil,
    List.mem_append, List.mem_singleton] at h
  rcases h with h | h | rfl
  · exact hp o (List.mem_append_left _ h)
  · exact hp o (List.mem_append_right _ h)
  · exact ho

lemma all_record {p : Progress W} (order : Payload) (hp : All P p) :
    All P ({ p with summary := recordOrderOutcome p.summary order } : Progress W) := by
  simpa only [All, Progress.orders, recordOrderOutcome_ordersSubmitted] using hp

structure Checked (kit : Kit) (plan : Plan) (symbol : Symbol) (quantity price : ℚ) : Prop where
  size : sellSize kit plan symbol = .quantity quantity price
  allowed : sellAllowed plan symbol quantity price = true
  proven : plan.newRiskBlocked = true →
    kit.isProvenRiskReducingOrder (some (plan.book.quantity symbol)) .sell quantity (some 0) = true

lemma sellOrder_all {p : Progress W} {symbol : Symbol} {quantity price : ℚ}
    (hs : sellSize kit plan symbol = .quantity quantity price) (hp : All P p)
    (hc : Checked kit plan symbol quantity price → P ⟨symbol, .sell, quantity, none⟩) :
    All P (sellOrder kit ports r plan p symbol quantity price).1 := by
  unfold sellOrder
  extract_lets held intent
  split
  · exact hp
  · rename_i ha
    split
    · exact hp
    · rename_i hn
      have ho : P ⟨symbol, .sell, quantity, none⟩ :=
        hc ⟨hs, by simpa using ha, fun hb => by_contra fun h => hn ⟨hb, by simpa using h⟩⟩
      split
      · exact all_list hp ho
      · have hsub : All P (p.submit ports .connection (sellIntent plan symbol quantity)
            (if plan.newRiskBlocked then some (held, 0) else none)).1 := all_submit _ _ hp ho
        cases hq : p.submit ports .connection (sellIntent plan symbol quantity)
            (if plan.newRiskBlocked then some (held, 0) else none) with
        | mk q answer =>
          rw [hq] at hsub
          cases answer with
          | error refusal => exact hsub
          | ok answer =>
            have hrec := all_record (payload (sellIntent plan symbol quantity) answer.1) hsub
            dsimp only
            split <;> exact hrec

lemma sellStep_all {p : Progress W} {symbol : Symbol} (hp : All P p)
    (hc : ∀ quantity price, Checked kit plan symbol quantity price → P ⟨symbol, .sell, quantity, none⟩) :
    All P (sellStep kit ports r plan p symbol).1 := by
  unfold sellStep
  split
  · exact hp
  · exact hp
  · exact hp
  · rename_i quantity price hs
    exact sellOrder_all hs hp (hc quantity price)

lemma sells_all {w : W} (hempty : plan.summary.ordersSubmitted = [])
    (hc : ∀ symbol quantity price, Checked kit plan symbol quantity price → P ⟨symbol, .sell, quantity, none⟩) :
    All P (sells kit ports r plan w).1 := by
  refine EarlyExit.loop_invariant (I := All P) (fun p symbol _ hp => sellStep_all hp (hc symbol)) ?_
  simp [All, startSells, Progress.orders, hempty]

end Sells

section Buys

variable {p : Progress W}

lemma startBuys_orders : (startBuys kit ports r plan p).1.orders = p.orders := by
  simp only [startBuys, budgeted, Progress.orders]
  split <;> rfl

lemma buysBlockedReason_none (h : (buysBlockedReason kit ports r plan p).1 = none) (hn : plan.book.buyNeeded ≠ []) :
    r.metadata.smallAccountWarning = false ∧ plan.newRiskBlocked = false ∧ (r.cashOnlyExecution = true →
      plan.book.rotationGuardShouldBlockBuys kit p.pendingSellRelease.eraseDups p.investable = false ∧
        (ports.cashBalance p.world).1.filter (· < 0) = none) := by
  unfold buysBlockedReason at h
  extract_lets b release cash at h
  rw [if_neg hn] at h
  cases hs : r.metadata.smallAccountWarning with
  | true => simp [hs] at h
  | false =>
    cases hb : plan.newRiskBlocked with
    | true => simp [hs, hb] at h
    | false =>
      refine ⟨rfl, rfl, fun hc => ?_⟩
      simp only [hs, hb, hc, Bool.false_eq_true, if_false, Bool.not_true] at h
      cases hg : b.rotationGuardShouldBlockBuys kit release p.investable with
      | true => simp [hg] at h
      | false =>
        simp only [hg, Bool.false_eq_true, if_false] at h
        refine ⟨rfl, ?_⟩
        cases hf : cash.1.filter (· < 0) with
        | some negative => simp [hf] at h
        | none => rfl

lemma blockedStep_all {reason : Reason} {t : Symbol × ℚ} (hp : All P p) : All P (blockedStep plan reason p t).1 := by
  unfold blockedStep
  split <;> exact hp

lemma not_buyNeeded {t : Symbol × ℚ} (hn : plan.book.buyNeeded = []) (ht : t ∈ plan.book.targetMv) :
    t.2 - plan.book.threshold ≤ plan.book.currentMv t.1 := by
  have h := List.filter_eq_nil_iff.mp hn t ht
  simpa using h

lemma buys_all {blocked : Option Reason} (hb : blocked = none → plan.book.buyNeeded = []) (hp : All P p) :
    All P (buys kit ports r plan p blocked).1 := by
  cases blocked with
  | some reason =>
    exact EarlyExit.loop_invariant (I := All P) (fun _ _ _ hp => blockedStep_all hp) hp
  | none =>
    refine EarlyExit.loop_invariant (I := All P) (fun p t ht hp => ?_) hp
    unfold buyStep
    rw [if_pos (not_buyNeeded (hb rfl) ht)]
    exact hp

lemma finish_ordersSubmitted {buyingPower : ℚ} {summary : Summary} :
    (finish r buyingPower summary).ordersSubmitted = summary.ordersSubmitted := by
  unfold finish
  extract_lets s terminal ended
  change ended.ordersSubmitted = s.ordersSubmitted
  unfold ended
  split
  · rfl
  · split
    · rfl
    · split <;> rfl

end Buys

section Runs

def BlockedAfter (kit : Kit) (ports : Ports W) (r : Request) (plan : Plan) (p : Progress W) : Prop :=
  (startBuys kit ports r plan p).2 = none → plan.book.buyNeeded = []

lemma executePlan_all {w : W} (hsold : All P (sells kit ports r plan w).1)
    (hb : BlockedAfter kit ports r plan (sells kit ports r plan w).1) :
    ∀ o ∈ (executePlan kit ports r plan w).orders, P o := by
  unfold executePlan
  extract_lets sold start bought
  have hstart : All P start.1 := by
    intro o ho
    exact hsold o (startBuys_orders (p := sold.1) ▸ ho)
  have hbought : All P bought.1 := buys_all hb hstart
  split
  · exact hsold
  · split
    · exact hbought
    · intro o ho
      refine hbought o ?_
      simpa only [Run.orders, Progress.orders, finish_ordersSubmitted] using ho

lemma stopped_orders {w : W} {stop : Stop} (h : Blank stop) :
    (stopped r w stop).orders = [] := by
  cases stop with
  | raised refusal => rfl
  | returned summary => simp [stopped, Run.orders, (h summary rfl).submitted]

inductive NewRiskBlocked (kit : Kit) (ports : Ports W) (r : Request) (w : W) : Prop
  | prohibited {a : Admission} (h : ((cycleAdmission ports.toEnvironment r).exec w).1 = .ok (some a))
      (hp : a.prohibited = true)
  | cashRisk {s : Survey} (h : ((survey kit ports.toEnvironment r).exec w).1 = .ok s)
      (hc : s.observed.cashRiskUnknown = true)
  | ledger {s : Survey} (h : ((survey kit ports.toEnvironment r).exec w).1 = .ok s)
      (hl : s.observed.ledgerUnverified = true)

inductive BuysBlocked (kit : Kit) (ports : Ports W) (r : Request) (w : W) : Prop
  | newRisk (h : NewRiskBlocked kit ports r w)
  | smallAccount (h : r.metadata.smallAccountWarning = true)
  | rotationGuard {plan : Plan} {w' : W} {p : Progress W}
      (h : (planRebalance kit ports.toEnvironment r).exec w = (.ok plan, w'))
      (hp : p = budgeted ports r plan (sells kit ports r plan w').1) (hc : r.cashOnlyExecution = true)
      (hg : plan.book.rotationGuardShouldBlockBuys kit p.pendingSellRelease.eraseDups p.investable = true)
  | negativeCash {plan : Plan} {w' : W} {p : Progress W} {cash : ℚ}
      (h : (planRebalance kit ports.toEnvironment r).exec w = (.ok plan, w'))
      (hp : p = budgeted ports r plan (sells kit ports r plan w').1) (hc : r.cashOnlyExecution = true)
      (hcash : (ports.cashBalance p.world).1 = some cash) (hneg : cash < 0)

structure ApprovedReduction (kit : Kit) (r : Request) (o : Order) : Prop where
  sell : o.side = .sell
  approved : ∃ allocation, r.metadata.allocation = some allocation ∧ o.symbol ∈ allocation.strategySymbols
  positive : 0 < o.quantity
  held : o.quantity ≤ r.held o.symbol
  proven : kit.isProvenRiskReducingOrder (some (r.held o.symbol)) .sell o.quantity (some 0) = true

variable {w w' : W}

lemma NewRiskBlocked.survey_blocked {s : Survey} (h : NewRiskBlocked kit ports r w)
    (hs : (survey kit ports.toEnvironment r).exec w = (.ok s, w')) : s.newRiskBlocked = true := by
  cases h with
  | prohibited h hp =>
    obtain ⟨_, _, _, _, _, _, _, _, hadm, _⟩ := survey_ok hs
    rw [hadm] at h
    simp [Survey.newRiskBlocked, Survey.prohibited, Except.ok.inj h, hp]
  | cashRisk h hc =>
    rw [hs] at h
    simp [Survey.newRiskBlocked, Except.ok.inj h, hc]
  | ledger h hl =>
    rw [hs] at h
    simp [Survey.newRiskBlocked, Except.ok.inj h, hl]

lemma NewRiskBlocked.plan_blocked (h : NewRiskBlocked kit ports r w)
    (hp : (planRebalance kit ports.toEnvironment r).exec w = (.ok plan, w')) :
    plan.newRiskBlocked = true ∧ plan.cashSweepQuantity = 0 := by
  obtain ⟨s, w₁, hs, hset⟩ := planRebalance_ok hp
  have hblocked := h.survey_blocked hs
  obtain ⟨w₂, _, _, hn, _, _, hplan, _⟩ := settle_ok hset
  refine ⟨hn.trans hblocked, ?_⟩
  rw [settlePlan_ok hplan, hblocked, cashSweepQuantity_blocked]

lemma BuysBlocked.blocks (h : BuysBlocked kit ports r w)
    (hp : (planRebalance kit ports.toEnvironment r).exec w = (.ok plan, w')) :
    BlockedAfter kit ports r plan (sells kit ports r plan w').1 := by
  intro hnone
  by_contra hneeded
  obtain ⟨hsmall, hrisk, hcash⟩ := buysBlockedReason_none hnone hneeded
  cases h with
  | newRisk h => simp [(h.plan_blocked hp).1] at hrisk
  | smallAccount h => simp [h] at hsmall
  | rotationGuard h hq hc hg =>
    cases hp.symm.trans h
    subst hq
    simp [(hcash hc).1] at hg
  | negativeCash h hq hc hc' hneg =>
    cases hp.symm.trans h
    subst hq
    have hnn := (hcash hc).2
    simp only [hc', Option.filter_some, decide_eq_true hneg, if_true, reduceCtorEq] at hnn

lemma sellSize_unswept {symbol : Symbol} (hsweep : plan.cashSweepQuantity = 0) :
    sellSize kit plan symbol =
      if plan.book.target symbol + plan.book.threshold < plan.book.currentMv symbol then
        match plan.book.price? symbol with
        | none => .missingPrice
        | some price =>
          if plan.book.sellQuantity symbol kit price ≤ 0 then .quantityZero true
          else .quantity (plan.book.sellQuantity symbol kit price) price
      else .none := by
  have hnot : ¬ (plan.book.isSafeHaven symbol ∧ 0 < plan.cashSweepQuantity) := fun h => h.2.ne' hsweep
  exact if_neg hnot

lemma Checked.reduction (hf : kit.FloorsDown) {s : Survey} {w₁ : W} (hb : plan.newRiskBlocked = true)
    (hsweep : plan.cashSweepQuantity = 0) (hs : (survey kit ports.toEnvironment r).exec w = (.ok s, w₁))
    (hbook : plan.book = s.book) {symbol : Symbol} {quantity price : ℚ} (hc : Checked kit plan symbol quantity price) :
    ApprovedReduction kit r ⟨symbol, .sell, quantity, none⟩ := by
  obtain ⟨equity, weights, w₂, w₃, w₄, w₅, ha, -, -, -, hsize, -⟩ := survey_ok hs
  obtain ⟨prices, targets, hsettings, -, -⟩ := sizeTargets_ok hsize
  have hheld : plan.book.quantity symbol = r.held symbol := by
    rw [hbook, hsettings]
    rfl
  have hsymbols : plan.book.strategySymbols = s.authorized.allocation.strategySymbols := by
    rw [hbook, hsettings]
    rfl
  have hallowed := hc.allowed
  simp only [sellAllowed, decide_eq_true_eq, hsymbols] at hallowed
  obtain ⟨hmem, hpos, -, -⟩ := hallowed
  have hle : quantity ≤ plan.book.quantity symbol := by
    have hsz := hc.size
    rw [sellSize_unswept hsweep] at hsz
    split at hsz
    · split at hsz
      · cases hsz
      · split at hsz
        · cases hsz
        · obtain ⟨rfl, rfl⟩ := SellSize.quantity.inj hsz
          exact sellOrderQuantity_le hf hpos
    · cases hsz
  refine ⟨rfl, ⟨_, resolveWeightAllocation_ok (authorize_ok ha).1, hmem⟩, hpos, hheld ▸ hle, ?_⟩
  exact hheld ▸ hc.proven hb

lemma BuysBlocked.only_sells (h : BuysBlocked kit ports r w) : ∀ o ∈ (executeRebalance kit ports r w).orders, o.side = .sell := by
  refine executeRebalance_cases (C := fun run => ∀ o ∈ run.orders, o.side = .sell) (fun stop w' hp => ?_) fun plan w' hp => ?_
  · simp [stopped_orders (fails_planRebalance w stop w' hp)]
  · obtain ⟨s, w₁, hs, hset⟩ := planRebalance_ok hp
    obtain ⟨w₂, -, -, -, hsummary, -⟩ := settle_ok hset
    have hempty : plan.summary.ordersSubmitted = [] := by rw [hsummary]; rfl
    exact executePlan_all (P := fun o => o.side = .sell) (sells_all hempty fun _ _ _ _ => rfl) (h.blocks hp)

/-- A condition that blocks the buys leaves a rebalance no buy, and one that is found before the plan leaves only
proven reductions of approved positions. -/
theorem blocked_rebalance_only_reduces (hf : kit.FloorsDown) :
    (BuysBlocked kit ports r w → ∀ o ∈ (executeRebalance kit ports r w).orders, o.side = .sell) ∧
      (NewRiskBlocked kit ports r w → ∀ o ∈ (executeRebalance kit ports r w).orders, ApprovedReduction kit r o) := by
  refine ⟨BuysBlocked.only_sells, fun h => ?_⟩
  refine executeRebalance_cases (C := fun run => ∀ o ∈ run.orders, ApprovedReduction kit r o) (fun stop w' hp => ?_) fun plan w' hp => ?_
  · simp [stopped_orders (fails_planRebalance w stop w' hp)]
  · obtain ⟨s, w₁, hs, hset⟩ := planRebalance_ok hp
    obtain ⟨w₂, hbook, -, -, hsummary, -⟩ := settle_ok hset
    have hempty : plan.summary.ordersSubmitted = [] := by rw [hsummary]; rfl
    obtain ⟨hb, hsweep⟩ := h.plan_blocked hp
    refine executePlan_all (P := ApprovedReduction kit r) (sells_all hempty fun _ _ _ hc => ?_)
      ((BuysBlocked.newRisk h).blocks hp)
    exact hc.reduction hf hb hsweep hs hbook

def filling (environment : Environment Unit) : Ports Unit where
  toEnvironment := environment
  submit broker intent _ w := (.ok (⟨"Filled", some "1", some intent.quantity, none⟩, broker), w)

def unverified₀ : Ports Unit := filling (quiet [("QQQ", 100), ("TLT", 50)] none)

def rotation₀ : Request := request₀ false [("QQQ", ⟨10, 90⟩)] [("QQQ", 0), ("TLT", 1 / 2)] 2000

lemma unverified₀_blocked : NewRiskBlocked wholeShares unverified₀ rotation₀ () := by
  have hl : ((survey wholeShares unverified₀.toEnvironment rotation₀).exec ()).1.toOption.map
      (·.observed.ledgerUnverified) = some true := by decide +kernel
  cases hs : ((survey wholeShares unverified₀.toEnvironment rotation₀).exec ()).1 with
  | error stop => simp [hs, Except.toOption] at hl
  | ok s =>
    rw [hs] at hl
    exact .ledger hs (Option.some.inj hl)

theorem blocked_rebalance_only_reduces_unverified₀ :
    (executeRebalance wholeShares unverified₀ rotation₀ ()).orders = [⟨"QQQ", .sell, 10, none⟩] ∧
      (∀ o ∈ (executeRebalance wholeShares unverified₀ rotation₀ ()).orders, o.side = .sell) ∧
      ∀ o ∈ (executeRebalance wholeShares unverified₀ rotation₀ ()).orders,
        ApprovedReduction wholeShares rotation₀ o := by
  have h : (BuysBlocked wholeShares unverified₀ rotation₀ () → _) ∧ (NewRiskBlocked _ _ _ _ → _) :=
    blocked_rebalance_only_reduces wholeShares_floorsDown
  exact ⟨by decide +kernel, h.1 (.newRisk unverified₀_blocked), h.2 unverified₀_blocked⟩

end Runs

end IbkrPlatform.Execution.BuyBlocks
