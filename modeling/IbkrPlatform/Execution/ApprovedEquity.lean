import Mathlib.Tactic.Linarith
import IbkrPlatform.Execution.Stages

/-! The equity that an approved decision is sized on, beside the equity that it was approved against. -/

namespace IbkrPlatform.Execution.ApprovedEquity

open Library Orders Sizing NewRiskGate RiskAuthority Planning Rebalance Stages

structure Holding where
  symbol : Symbol
  quantity : ℚ
  averageCost : ℚ
  marketValue : ℚ

/-- A portfolio snapshot; the buying power of a cash-only account is its cash. -/
structure Snapshot where
  totalEquity : ℚ
  buyingPower : ℚ
  positions : List Holding

structure AccountValues where
  equity : ℚ
  buyingPower : ℚ

def setItem (positions : List (Symbol × Position)) (symbol : Symbol) (p : Position) : List (Symbol × Position) :=
  if symbol ∈ positions.map Prod.fst then positions.map fun e => if e.1 = symbol then (symbol, p) else e
  else positions ++ [(symbol, p)]

def snapshotToPortfolioView (s : Snapshot) : List (Symbol × Position) × AccountValues :=
  (s.positions.foldl (fun view p => setItem view p.symbol ⟨p.quantity, p.averageCost⟩) [], ⟨s.totalEquity, s.buyingPower⟩)

def costOf (positions : List (Symbol × Position)) : ℚ := (positions.map fun p => p.2.quantity * p.2.avgCost).sum

def strategyPortfolioView (view : List (Symbol × Position) × AccountValues) (strategySymbols : List Symbol) :
    List (Symbol × Position) × AccountValues :=
  if strategySymbols = [] then view
  else
    let filtered := view.1.filter (·.1 ∈ strategySymbols)
    (filtered, { view.2 with equity := view.2.buyingPower + costOf filtered })

def marketValue (s : Snapshot) (strategySymbols : List Symbol) : ℚ :=
  ((s.positions.filter (·.symbol ∈ strategySymbols)).map Holding.marketValue).sum

def portfolioTotalEquity (s : Snapshot) (strategySymbols : List Symbol) : ℚ :=
  if strategySymbols = [] then s.totalEquity else s.buyingPower + marketValue s strategySymbols

structure TargetPosition where
  symbol : Symbol
  targetValue : Option ℚ
  targetWeight : Option ℚ

def TargetPosition.value? (p : TargetPosition) (equity : ℚ) : Option ℚ :=
  match p.targetValue with
  | some value => some value
  | none => p.targetWeight.map (· * equity)

/-- The loop of `_approved_target_values`, behind the values that it has. -/
def collectTargetValues (equity : ℚ) (values : List (Symbol × ℚ)) : List TargetPosition → Except Refusal (List (Symbol × ℚ))
  | [] => .ok values
  | p :: ps =>
    match p.value? equity with
    | none => .error (.other "IBKR risk approval has invalid target values")
    | some value =>
      if p.symbol = "" ∨ p.symbol ∈ values.map Prod.fst ∨ value < 0 then
        .error (.other "IBKR risk approval has invalid target values")
      else collectTargetValues equity (values ++ [(p.symbol, value)]) ps

def approvedTargetValues (equity : ℚ) (positions : List TargetPosition) : Except Refusal (List (Symbol × ℚ)) :=
  if equity ≤ 0 then .error (.other "IBKR risk approval requires positive portfolio equity")
  else collectTargetValues equity [] positions

def weightDecision (weights : List (Symbol × ℚ)) : List TargetPosition := weights.map fun t => ⟨t.1, none, some t.2⟩

def riskAuthority (m : Metadata) (strategyProfile : Option String) (accountIds : List String) (equity : ℚ)
    (weights values : List (Symbol × ℚ)) : Authority :=
  ⟨strategyProfile, accountIds, m.tradeDate, m.signalDate, m.effectiveDate, m.snapshotAsOf,
    weights.map fun t => (t.1, some t.2), values.map fun t => (t.1, some t.2), some equity⟩

def approvedRequest (r : Request) (s : Snapshot) (strategySymbols : List Symbol) (a : Allocation)
    (values : List (Symbol × ℚ)) : Request :=
  let view := strategyPortfolioView (snapshotToPortfolioView s) strategySymbols
  { r with
    positions := view.1
    equity := view.2.equity
    buyingPower := view.2.buyingPower
    metadata := { r.metadata with
      allocation := some a
      riskAuthority := some (riskAuthority r.metadata r.strategyProfile r.accountIds (portfolioTotalEquity s strategySymbols)
        a.targets values) } }

section Approval

variable {equity : ℚ} {weights values : List (Symbol × ℚ)}

structure Valued (equity : ℚ) (weights values : List (Symbol × ℚ)) : Prop where
  eq : values = weights.map fun t => (t.1, t.2 * equity)
  distinct : (weights.map Prod.fst).Nodup
  nonneg : ∀ t ∈ weights, 0 ≤ t.2 * equity

lemma collectTargetValues_ok {done : List (Symbol × ℚ)} (hd : Valued equity done (done.map fun t => (t.1, t.2 * equity)))
    (h : collectTargetValues equity (done.map fun t => (t.1, t.2 * equity)) (weightDecision weights) = .ok values) :
    Valued equity (done ++ weights) values := by
  induction weights generalizing done with
  | nil =>
    obtain rfl := Except.ok.inj h
    simpa using hd
  | cons t weights ih =>
    simp only [weightDecision, List.map_cons, collectTargetValues, TargetPosition.value?, Option.map_some] at h
    split at h
    · cases h
    · rename_i hok
      push Not at hok
      obtain ⟨_, hfresh, hvalue⟩ := hok
      rw [List.map_map] at hfresh
      have hd' : Valued equity (done ++ [t]) ((done ++ [t]).map fun t => (t.1, t.2 * equity)) := by
        refine ⟨rfl, ?_, fun u hu => ?_⟩
        · rw [List.map_append, List.nodup_append]
          refine ⟨hd.distinct, List.nodup_singleton _, fun a ha b hb heq => hfresh ?_⟩
          rw [← List.mem_singleton.mp hb, ← heq]
          exact ha
        · rcases List.mem_append.mp hu with hu | hu
          · exact hd.nonneg u hu
          · exact List.mem_singleton.mp hu ▸ hvalue
      have hlater := ih hd' (by rw [List.map_append]; exact h)
      rwa [List.append_assoc] at hlater

lemma approvedTargetValues_ok (h : approvedTargetValues equity (weightDecision weights) = .ok values) :
    0 < equity ∧ Valued equity weights values := by
  unfold approvedTargetValues at h
  split at h
  · cases h
  · rename_i hpos
    have hnone : Valued equity [] (([] : List (Symbol × ℚ)).map fun t => (t.1, t.2 * equity)) := ⟨rfl, List.nodup_nil, nofun⟩
    exact ⟨not_le.mp hpos, collectTargetValues_ok hnone h⟩

lemma lookup_map_of_mem {B : Type} {f : Symbol × ℚ → B} {t : Symbol × ℚ} (hn : (weights.map Prod.fst).Nodup)
    (ht : t ∈ weights) : (weights.map fun u => (u.1, f u)).lookup t.1 = some (f t) := by
  induction weights with
  | nil => cases ht
  | cons u weights ih =>
    obtain ⟨hfresh, hrest⟩ := List.nodup_cons.mp hn
    rcases List.mem_cons.mp ht with rfl | ht
    · simp
    · have hne : t.1 ≠ u.1 := fun heq => hfresh (heq ▸ List.mem_map_of_mem ht)
      simpa [List.lookup_cons, beq_false_of_ne hne] using ih hrest ht

lemma Valued.cap (h : Valued equity weights values) {t : Symbol × ℚ} (ht : t ∈ weights) :
    values.lookup t.1 = some (t.2 * equity) := by
  rw [h.eq]
  exact lookup_map_of_mem (f := fun u => u.2 * equity) h.distinct ht

end Approval

section Sizing

/-- The documented behaviour of the platform kit: a weight is scaled down, and a target is kept or given up. -/
structure Restraining (kit : Kit) : Prop where
  scale : ∀ targets scale, ∀ t ∈ kit.applyCombinedScale targets scale, ∃ weight, (t.1, weight) ∈ targets ∧
    (0 ≤ weight → 0 ≤ t.2 ∧ t.2 ≤ weight)
  substitute : ∀ targets prices candidates safeHavens step limit,
    ∀ t ∈ kit.applySmallAccountCompatibility targets prices candidates safeHavens step limit,
      ∃ value, (t.1, value) ∈ targets ∧ t.2 ≤ max 0 value

def Within (targets weights : List (Symbol × ℚ)) : Prop :=
  ∀ t ∈ weights, ∃ weight, (t.1, weight) ∈ targets ∧ 0 ≤ t.2 ∧ t.2 ≤ weight

variable {W : Type} {kit : Kit} {ports : Environment W} {r : Request} {a : Allocation} {equity : ℚ}
  {values : List (Symbol × ℚ)}

lemma scaleTargets_within (hk : Restraining kit) {targets weights : List (Symbol × ℚ)} (hn : ∀ t ∈ targets, 0 ≤ t.2)
    {admission : Option Admission} {w w' : W} (h : (scaleTargets kit ports targets admission).exec w = (.ok weights, w')) :
    Within targets weights := by
  have hscaled : ∀ scale, Within targets (kit.applyCombinedScale targets scale) := by
    intro scale t ht
    obtain ⟨weight, hm, hle⟩ := hk.scale targets scale t ht
    exact ⟨weight, hm, hle (hn _ hm)⟩
  cases admission with
  | none =>
    cases h
    exact fun t ht => ⟨t.2, ht, hn t ht, le_rfl⟩
  | some admission =>
    simp only [scaleTargets] at h
    split at h
    · cases h
      exact hscaled _
    · obtain ⟨scale, _, _, h⟩ := Attempt.exec_bind_ok.mp h
      cases h
      exact hscaled scale

lemma targetValues_fit (hk : Restraining kit) {investable : ℚ} {caps weights prices : List (Symbol × ℚ)} {step : ℚ}
    (hcaps : ∀ t ∈ a.targets, ∃ cap, caps.lookup t.1 = some cap ∧ 0 ≤ cap ∧ investable * t.2 ≤ cap + 1 / 100)
    (hw : Within a.targets weights) : (targetValues r kit a investable weights prices step).any (overCap caps) = false := by
  rw [List.any_eq_false]
  intro t ht
  obtain ⟨value, hm, hle⟩ := hk.substitute _ _ _ _ _ _ t ht
  obtain ⟨u, hu, heq⟩ := List.mem_map.mp hm
  obtain ⟨weight, hweight, hnonneg, hweightLe⟩ : ∃ weight, (u.1, weight) ∈ a.targets ∧ 0 ≤ u.2 ∧ u.2 ≤ weight := by
    unfold substituteSafeHavens at hu
    split at hu
    · exact hw u hu
    · obtain ⟨x, hx, rfl⟩ := List.mem_map.mp hu
      obtain ⟨weight, hweight, hnonneg, hweightLe⟩ := hw x hx
      split
      · exact ⟨weight, hweight, le_rfl, hnonneg.trans hweightLe⟩
      · exact ⟨weight, hweight, hnonneg, hweightLe⟩
  simp only [Prod.mk.injEq] at heq
  obtain ⟨hsymbol, rfl⟩ := heq
  obtain ⟨cap, hcap, hcapNonneg, hfits⟩ := hcaps _ hweight
  have htarget : t.2 ≤ cap + 1 / 100 := by
    refine hle.trans (max_le (by linarith) ?_)
    rcases le_total 0 investable with hi | hi
    · exact (mul_le_mul_of_nonneg_left hweightLe hi).trans hfits
    · have hneg : investable * u.2 ≤ 0 := mul_nonpos_of_nonpos_of_nonneg hi hnonneg
      linarith
  rw [hsymbol] at hcap
  simp only [overCap, hcap, Bool.not_eq_true, decide_eq_false_iff_not, not_lt]
  exact htarget

end Sizing

section Runs

variable {W : Type} {kit : Kit} {ports : Ports W} {r : Request} {plan : Plan}

/-- Nothing that a rebalance calls refuses in the words of its own check of the targets. -/
structure Unrelated (ports : Ports W) : Prop where
  evaluateAdmission : ∀ w, (ports.evaluateAdmission w).1 ≠ .error .targetExceedsLimit
  quotes : ∀ symbols w, (ports.quotes symbols w).1 ≠ .error .targetExceedsLimit
  openLock : ∀ mode w, (ports.openLock mode w).1 ≠ .error (some .targetExceedsLimit)
  writeLock : ∀ mode w, (ports.writeLock mode w).1 ≠ .error .targetExceedsLimit
  readLock : ∀ mode w, (ports.readLock mode w).1 ≠ .error .targetExceedsLimit
  submit : ∀ broker intent reduction w, (ports.submit broker intent reduction w).1 ≠ .error .targetExceedsLimit

def Sized (stop : Stop) : Prop := stop ≠ .raised .targetExceedsLimit

lemma sized_returned (summary : Summary) : Sized (.returned summary) := nofun

lemma sized_call {α : Type} {f : W → Except Refusal α × W} (hf : ∀ w, (f w).1 ≠ .error .targetExceedsLimit) :
    Attempt.Fails Sized (call f) := by
  refine Attempt.fails_of fun w stop w' h => ?_
  split at h
  · cases h
  · rename_i refusal _ heq
    cases h
    rintro ⟨⟩
    exact hf w (by rw [heq])

lemma requireEffectiveDate_sized (effectiveToday : String → Option Bool) :
    requireEffectiveDate r effectiveToday ≠ .error .targetExceedsLimit := by
  unfold requireEffectiveDate
  split
  · nofun
  · split
    · nofun
    · split <;> nofun

lemma resolveWeightAllocation_sized (m : Metadata) : resolveWeightAllocation m ≠ .error .targetExceedsLimit := by
  unfold resolveWeightAllocation
  split
  · nofun
  · split <;> nofun

lemma requireLiveRiskAuthority_sized (m : Metadata) (a : Allocation) (profile : Option String) (accountIds : List String) :
    requireLiveRiskAuthority m a profile accountIds ≠ .error .targetExceedsLimit := by
  unfold requireLiveRiskAuthority
  split
  · nofun
  · split
    · nofun
    · split
      · nofun
      · split <;> nofun

lemma resolveExecutionMode_sized : resolveExecutionMode r ≠ .error .targetExceedsLimit := by
  unfold resolveExecutionMode
  split
  · nofun
  · extract_lets aliases mode
    split
    · nofun
    · split <;> nofun

lemma authorize_sized (effectiveToday : String → Option Bool) : authorize r effectiveToday ≠ .error .targetExceedsLimit := by
  have hdate : requireEffectiveDate r effectiveToday ≠ .error .targetExceedsLimit := requireEffectiveDate_sized _
  have hallocation : resolveWeightAllocation r.metadata ≠ .error .targetExceedsLimit := resolveWeightAllocation_sized _
  have hmode : resolveExecutionMode r ≠ .error .targetExceedsLimit := resolveExecutionMode_sized
  intro h
  unfold authorize at h
  cases hd : requireEffectiveDate r effectiveToday with
  | error refusal => exact hdate (by simpa [hd, bind, Except.bind] using h)
  | ok =>
    cases hal : resolveWeightAllocation r.metadata with
    | error refusal => exact hallocation (by simpa [hd, hal, bind, Except.bind] using h)
    | ok allocation =>
      have hauthority : requireLiveRiskAuthority r.metadata allocation r.strategyProfile r.accountIds ≠
          .error .targetExceedsLimit := requireLiveRiskAuthority_sized _ _ _ _
      cases hc : requireLiveRiskAuthority r.metadata allocation r.strategyProfile r.accountIds with
      | error refusal => exact hauthority (by simpa [hd, hal, hc, bind, Except.bind] using h)
      | ok caps =>
        cases ho : r.metadata.optionOrderIntents.any OptionIntent.executable with
        | true => simp [hd, hal, hc, ho, bind, Except.bind] at h
        | false =>
          cases hm : resolveExecutionMode r with
          | error refusal => exact hmode (by simpa [hd, hal, hc, ho, hm, bind, Except.bind] using h)
          | ok mode =>
            unfold resolveOrderAccountId at h
            split at h <;> simp [hd, hal, hc, ho, hm, bind, Except.bind, pure, Except.pure] at h

lemma sized_authorize (effectiveToday : String → Option Bool) :
    Attempt.Fails Sized (lift (authorize r effectiveToday) : Attempt W Stop Authorized) := by
  have hx : authorize r effectiveToday ≠ .error .targetExceedsLimit := authorize_sized _
  cases h : authorize r effectiveToday with
  | ok a => exact Attempt.fails_pure a
  | error refusal => exact Attempt.fails_throw fun hstop => hx (by rw [h, Stop.raised.inj hstop])

lemma sized_cycleAdmission (hp : Unrelated ports) : Attempt.Fails Sized (cycleAdmission ports.toEnvironment r) := by
  have hpersistent : ∀ w, (evaluatePersistent ports.evaluateAdmission ports.session w).1 ≠ .error .targetExceedsLimit := by
    intro w
    have hevaluate : (ports.evaluateAdmission w).1 ≠ .error .targetExceedsLimit := hp.evaluateAdmission w
    unfold evaluatePersistent
    split
    · rename_i refusal w' h
      rintro ⟨⟩
      exact hevaluate (by rw [h])
    · split <;> nofun
  unfold cycleAdmission
  split
  · exact Attempt.fails_pure _
  · refine Attempt.fails_bind (sized_call hp.evaluateAdmission) fun preview => ?_
    split
    · exact Attempt.fails_pure _
    · exact Attempt.fails_bind (sized_call hpersistent) fun _ => Attempt.fails_pure _

lemma sized_scaleTargets (e : Environment W) (targets : List (Symbol × ℚ)) (admission : Option Admission) :
    Attempt.Fails Sized (scaleTargets kit e targets admission) := by
  cases admission with
  | none => exact Attempt.fails_pure _
  | some admission =>
    simp only [scaleTargets]
    split
    · exact Attempt.fails_pure _
    · exact Attempt.fails_bind (Attempt.fails_total _) fun _ => Attempt.fails_pure _

lemma sized_admitPaper (e : Environment W) (summary : Summary) : Attempt.Fails Sized (admitPaper e r summary) := by
  unfold admitPaper
  split
  · refine Attempt.fails_bind (Attempt.fails_total _) fun allowed => ?_
    split
    · exact Attempt.fails_throw (sized_returned _)
    · exact Attempt.fails_pure _
  · exact Attempt.fails_pure _

lemma sized_observeAccount (e : Environment W) (b : Book) (summary : Summary) :
    Attempt.Fails Sized (observeAccount e r b summary) := by
  refine Attempt.fails_bind (Attempt.fails_total _) fun rows => ?_
  dsimp only
  split
  · exact Attempt.fails_throw (sized_returned _)
  · split
    · exact Attempt.fails_throw (sized_returned _)
    · split
      · exact Attempt.fails_bind (Attempt.fails_total _) fun _ => Attempt.fails_pure _
      · exact Attempt.fails_pure _

lemma sized_takeLock (hp : Unrelated ports) (b : Book) (mode : String) (summary : Summary) :
    Attempt.Fails Sized (takeLock ports.toEnvironment r b mode summary) := by
  refine Attempt.fails_bind (Attempt.fails_total _) fun fills => ?_
  dsimp only
  split
  · exact Attempt.fails_throw (sized_returned _)
  · refine Attempt.fails_bind ?_ fun created => ?_
    · refine Attempt.fails_bind_ok (Attempt.fails_total _) fun w opened w' hopened => ?_
      simp only [Attempt.exec_total, Prod.mk.injEq, Except.ok.injEq] at hopened
      have hlock : opened ≠ .error (some .targetExceedsLimit) := hopened.1 ▸ hp.openLock mode w
      rcases opened with (_ | refusal) | ⟨⟩
      · exact Attempt.fails_pure _
      · refine Attempt.fails_throw fun hstop => hlock ?_
        rw [Stop.raised.inj hstop]
      · exact Attempt.fails_bind (sized_call (hp.writeLock mode)) fun _ => Attempt.fails_pure _
    · split
      · exact Attempt.fails_pure _
      · exact Attempt.fails_bind (sized_call (hp.readLock mode)) fun _ => Attempt.fails_throw (sized_returned _)

lemma settlePlan_sized {b : Book} {o : Observed} {blocked unavailable : Bool} {anticipated : ℚ} {summary : Summary} :
    ∀ stop, settlePlan kit r b o blocked unavailable anticipated summary = .error stop → Sized stop := by
  intro stop h
  unfold settlePlan at h
  extract_lets investable sells quantity hasSellPlan search at h
  split at h
  · cases h
    nofun
  · split at h
    · cases h
      nofun
    · split at h
      · cases h
        nofun
      · cases h

lemma sized_settle (hp : Unrelated ports) (s : Survey) : Attempt.Fails Sized (settle kit ports.toEnvironment r s) := by
  refine Attempt.fails_bind ?_ fun anticipated => ?_
  · unfold anticipate
    split
    · exact Attempt.fails_pure _
    · exact Attempt.fails_total _
  · split
    · rename_i stop hs
      exact Attempt.fails_throw (settlePlan_sized stop hs)
    · exact Attempt.fails_bind (sized_takeLock hp _ _ _) fun _ => Attempt.fails_pure _

lemma submit_sized (hp : Unrelated ports) {p q : Progress W} {broker : Broker} {intent : Intent} {reduction : Option (ℚ × ℚ)}
    {refusal : Refusal} (h : p.submit ports broker intent reduction = (q, .error refusal)) :
    (Exit.raised refusal).ending ≠ some .targetExceedsLimit := by
  rintro ⟨⟩
  exact hp.submit broker intent reduction p.world (congrArg Prod.snd h)

lemma sellStep_sized (hp : Unrelated ports) (p : Progress W) (symbol : Symbol) :
    ∀ exit, (sellStep kit ports r plan p symbol).2 = some exit → exit.ending ≠ some .targetExceedsLimit := by
  intro exit
  unfold sellStep
  split
  · nofun
  · nofun
  · nofun
  · unfold sellOrder
    extract_lets held intent
    split
    · rintro ⟨⟩
      nofun
    · split
      · nofun
      · split
        · nofun
        · split
          · rename_i hsubmit
            rintro ⟨⟩
            exact submit_sized hp hsubmit
          · extract_lets order q
            split
            · rintro ⟨⟩
              nofun
            · nofun
            · nofun

lemma submitBuy_sized (hp : Unrelated ports) (p : Progress W) (started : ℚ) (symbol : Symbol) (quantity limit : ℚ) :
    ∀ exit, (submitBuy ports r plan p started symbol quantity limit).2 = some exit → exit.ending ≠ some .targetExceedsLimit := by
  intro exit
  unfold submitBuy
  extract_lets intent
  split
  · rename_i hsubmit
    rintro ⟨⟩
    exact submit_sized hp hsubmit
  · extract_lets order q
    split
    · rintro ⟨⟩
      nofun
    · nofun
    · nofun

lemma sizedBuy_sized (hp : Unrelated ports) (p : Progress W) (started : ℚ) (symbol : Symbol) (target : ℚ) :
    ∀ exit, (sizedBuy kit ports r plan p started symbol target).2 = some exit → exit.ending ≠ some .targetExceedsLimit := by
  intro exit
  unfold sizedBuy
  split
  · nofun
  · nofun
  · nofun
  · nofun
  · unfold buyOrder
    split
    · rintro ⟨⟩
      nofun
    · extract_lets now q
      split
      · nofun
      · split
        · nofun
        · exact submitBuy_sized hp q _ _ _ _ exit

lemma buyStep_sized (hp : Unrelated ports) (p : Progress W) (t : Symbol × ℚ) :
    ∀ exit, (buyStep kit ports r plan p t).2 = some exit → exit.ending ≠ some .targetExceedsLimit := by
  intro exit
  unfold buyStep
  split
  · nofun
  · split
    · exact sizedBuy_sized hp p _ _ _ exit
    · extract_lets started observed q
      split
      · nofun
      · split
        · nofun
        · exact sizedBuy_sized hp q _ _ _ exit

lemma blockedStep_sized (reason : Reason) (p : Progress W) (t : Symbol × ℚ) :
    ∀ exit, (blockedStep plan reason p t).2 = some exit → exit.ending ≠ some .targetExceedsLimit := by
  intro exit
  unfold blockedStep
  split <;> nofun

lemma loop_sized {σ α : Type} {step : σ → α → σ × Option Exit}
    (hstep : ∀ s x exit, (step s x).2 = some exit → exit.ending ≠ some .targetExceedsLimit) (s : σ) (xs : List α) :
    ∀ exit, (EarlyExit.loop step s xs).2 = some exit → exit.ending ≠ some .targetExceedsLimit := by
  let Q : Option Exit → σ → Prop := fun left _ => ∀ exit, left = some exit → exit.ending ≠ some .targetExceedsLimit
  have hloop : Q (EarlyExit.loop step s xs).2 (EarlyExit.loop step s xs).1 :=
    EarlyExit.loop_rule (P := fun _ _ => True) (fun s x _ _ _ => hstep s x) nofun (EarlyExit.along_of_forall fun _ _ _ => trivial)
  exact hloop

lemma executePlan_sized (hp : Unrelated ports) (w : W) :
    (executePlan kit ports r plan w).ending ≠ some .targetExceedsLimit := by
  have hsells : ∀ exit, (sells kit ports r plan w).2 = some exit → exit.ending ≠ some .targetExceedsLimit :=
    loop_sized (fun p symbol => sellStep_sized hp p symbol) _ _
  have hbuys : ∀ (p : Progress W) blocked exit, (buys kit ports r plan p blocked).2 = some exit →
      exit.ending ≠ some .targetExceedsLimit := by
    intro p blocked
    unfold buys
    split
    · exact loop_sized (fun p t => blockedStep_sized _ p t) _ _
    · exact loop_sized (fun p t => buyStep_sized hp p t) _ _
  unfold executePlan
  extract_lets sold start bought
  split
  · rename_i exit hexit
    exact hsells exit hexit
  · split
    · rename_i exit hexit
      exact hbuys _ _ exit hexit
    · nofun

end Runs

section Equity

variable {W : Type} {kit : Kit} {ports : Ports W} {r : Request} {s : Snapshot} {symbols : List Symbol} {a : Allocation}
  {values : List (Symbol × ℚ)}

def costBasis (s : Snapshot) (strategySymbols : List Symbol) : ℚ :=
  costOf ((snapshotToPortfolioView s).1.filter (·.1 ∈ strategySymbols))

/-- No weight carries the loss of the strategy's positions past the reserve and the tolerance of the caps. -/
def LossReserved (r : Request) (s : Snapshot) (strategySymbols : List Symbol) (weights : List (Symbol × ℚ)) : Prop :=
  strategySymbols ≠ [] → ∀ t ∈ weights, t.2 * (costBasis s strategySymbols - marketValue s strategySymbols -
    reserve r (s.buyingPower + costBasis s strategySymbols)) ≤ 1 / 100

def WithinCaps (r : Request) (weights values : List (Symbol × ℚ)) : Prop :=
  ∀ t ∈ weights, ∃ cap, values.lookup t.1 = some cap ∧ (r.equity - reserve r r.equity) * t.2 ≤ cap + 1 / 100

lemma reserve_nonneg (equity : ℚ) : 0 ≤ reserve r equity := le_max_of_le_right (le_max_left _ _)

lemma reserve_approved (equity : ℚ) : reserve (approvedRequest r s symbols a values) equity = reserve r equity := rfl

lemma approved_equity : (approvedRequest r s symbols a values).equity =
    if symbols = [] then s.totalEquity else s.buyingPower + costBasis s symbols := by
  unfold approvedRequest strategyPortfolioView
  split <;> rfl

lemma withinCaps_iff (hv : approvedTargetValues (portfolioTotalEquity s symbols) (weightDecision a.targets) = .ok values) :
    WithinCaps (approvedRequest r s symbols a values) a.targets values ↔ LossReserved r s symbols a.targets := by
  obtain ⟨hpos, hvalued⟩ := approvedTargetValues_ok hv
  unfold WithinCaps LossReserved
  rw [reserve_approved, approved_equity]
  by_cases hs : symbols = []
  · simp only [hs, if_true, ne_eq, not_true, false_imp_iff, iff_true]
    intro t ht
    have htotal : portfolioTotalEquity s symbols = s.totalEquity := if_pos hs
    have hnonneg : 0 ≤ t.2 := nonneg_of_mul_nonneg_left (hvalued.nonneg t ht) hpos
    have hreserved : 0 ≤ reserve r s.totalEquity * t.2 := mul_nonneg (reserve_nonneg _) hnonneg
    refine ⟨_, hvalued.cap ht, ?_⟩
    rw [htotal]
    linarith
  · simp only [hs, if_false, ne_eq, not_false_eq_true, true_imp_iff]
    have htotal : portfolioTotalEquity s symbols = s.buyingPower + marketValue s symbols := if_neg hs
    refine forall₂_congr fun t ht => ?_
    simp only [hvalued.cap ht, htotal, Option.some.injEq, exists_eq_left']
    constructor <;> intro h <;> linarith

lemma approved_caps (hvalued : Valued (portfolioTotalEquity s symbols) a.targets values) {caps : List (Symbol × ℚ)}
    (h : requireLiveRiskAuthority (approvedRequest r s symbols a values).metadata a r.strategyProfile r.accountIds = .ok caps) :
    ∀ t ∈ a.targets, caps.lookup t.1 = some (t.2 * portfolioTotalEquity s symbols) := by
  intro t ht
  unfold requireLiveRiskAuthority at h
  split at h
  · cases h
  · rename_i authority hauthority
    have hmax : authority.maxTargetValues = a.targets.map fun u => (u.1, some (u.2 * portfolioTotalEquity s symbols)) := by
      have heq := (Option.filter_eq_some_iff.mp hauthority).1
      rw [← Option.some.inj heq]
      simp [riskAuthority, hvalued.eq]
    split at h
    · cases h
    · split at h
      · cases h
      · split at h
        · obtain rfl := Except.ok.inj h
          have hcap : (authority.maxTargetValues.lookup t.1) = some (some (t.2 * portfolioTotalEquity s symbols)) := by
            rw [hmax]
            exact lookup_map_of_mem (f := fun u => some (u.2 * portfolioTotalEquity s symbols)) hvalued.distinct ht
          have hlookup := lookup_map_of_mem (f := fun u => (authority.maxTargetValues.lookup u.1).join.getD 0) hvalued.distinct ht
          rw [hlookup, hcap]
          rfl
        · cases h

lemma approved_sizingEquity (hcash : 0 ≤ s.buyingPower) (hpos : 0 < portfolioTotalEquity s symbols) {equity : ℚ}
    (h : sizingEquity (approvedRequest r s symbols a values) = some equity) :
    equity = (approvedRequest r s symbols a values).equity := by
  unfold sizingEquity at h
  extract_lets gross at h
  split at h
  · exact (Option.some.inj h).symm
  · rename_i hnot
    split at h
    · rename_i hgross
      exfalso
      by_cases hs : symbols = []
      · rw [approved_equity, if_pos hs] at hnot
        rw [portfolioTotalEquity, if_pos hs] at hpos
        exact hnot hpos
      · have hcost : gross = costBasis s symbols := by
          unfold gross costBasis costOf approvedRequest strategyPortfolioView
          simp only [if_neg hs]
        rw [approved_equity, if_neg hs, ← hcost] at hnot
        linarith [hgross.2]
    · cases h

lemma sized_survey (hk : Restraining kit) (hp : Unrelated ports) (hcash : 0 ≤ s.buyingPower)
    (hv : approvedTargetValues (portfolioTotalEquity s symbols) (weightDecision a.targets) = .ok values)
    (hcaps : WithinCaps (approvedRequest r s symbols a values) a.targets values) :
    Attempt.Fails Sized (survey kit ports.toEnvironment (approvedRequest r s symbols a values)) := by
  obtain ⟨hpos, hvalued⟩ := approvedTargetValues_ok hv
  have hnonneg : ∀ t ∈ a.targets, 0 ≤ t.2 := fun t ht => nonneg_of_mul_nonneg_left (hvalued.nonneg t ht) hpos
  refine Attempt.fails_bind_ok (sized_authorize _) fun w authorized w' hauthorized => ?_
  obtain ⟨hallocation, hauthority, _⟩ := authorize_ok (exec_lift_ok.mp hauthorized).1
  have ha : authorized.allocation = a := (Option.some.inj (resolveWeightAllocation_ok hallocation)).symm
  rw [ha] at hauthority
  dsimp only
  split
  · exact Attempt.fails_throw (sized_returned _)
  · rename_i equity hequity
    refine Attempt.fails_bind (sized_cycleAdmission hp) fun admission => ?_
    refine Attempt.fails_bind_ok (sized_scaleTargets _ _ _) fun _ weights _ hweights => ?_
    refine Attempt.fails_bind ?_ fun book => ?_
    · refine Attempt.fails_bind (sized_call (hp.quotes _)) fun quoted => ?_
      have hfits : ∀ prices step, (targetValues (approvedRequest r s symbols a values) kit authorized.allocation
          (equity - reserve (approvedRequest r s symbols a values) equity) weights prices step).any
            (overCap authorized.caps) = false := by
        intro prices step
        refine targetValues_fit hk (fun t ht => ?_) (scaleTargets_within hk (ha ▸ hnonneg) hweights)
        rw [ha] at ht
        obtain ⟨cap, hcap, hle⟩ := hcaps t ht
        rw [hvalued.cap ht] at hcap
        refine ⟨cap, hcap ▸ approved_caps hvalued hauthority t ht, Option.some.inj hcap ▸ hvalued.nonneg t ht, ?_⟩
        rw [approved_sizingEquity hcash hpos hequity]
        exact hle
      dsimp only
      rw [hfits]
      exact Attempt.fails_pure _
    · refine Attempt.fails_bind (sized_admitPaper _ _) fun _ => ?_
      exact Attempt.fails_bind (sized_observeAccount _ _ _) fun _ => Attempt.fails_pure _

/-- An approved decision is sized within its caps, and aborts no cycle over them, exactly where the reserve takes the
loss that the strategy's positions have made. -/
theorem approved_decision_fits (hk : Restraining kit) (hp : Unrelated ports) (hcash : 0 ≤ s.buyingPower)
    (hv : approvedTargetValues (portfolioTotalEquity s symbols) (weightDecision a.targets) = .ok values) :
    (WithinCaps (approvedRequest r s symbols a values) a.targets values ∧
      ∀ w, (executeRebalance kit ports (approvedRequest r s symbols a values) w).ending ≠ some .targetExceedsLimit) ↔
    LossReserved r s symbols a.targets := by
  have hcaps : WithinCaps (approvedRequest r s symbols a values) a.targets values ↔ LossReserved r s symbols a.targets :=
    withinCaps_iff hv
  constructor
  · exact fun h => hcaps.mp h.1
  · intro h
    have hplan : Attempt.Fails Sized (planRebalance kit ports.toEnvironment (approvedRequest r s symbols a values)) :=
      Attempt.fails_bind (sized_survey hk hp hcash hv (hcaps.mpr h)) fun survey => sized_settle hp survey
    refine ⟨hcaps.mpr h, fun w => ?_⟩
    refine executeRebalance_cases (C := fun run => run.ending ≠ some .targetExceedsLimit) (fun stop w' hstop => ?_)
      fun plan w' _ => executePlan_sized hp w'
    have hsized : Sized stop := hplan w stop w' hstop
    cases stop with
    | raised refusal =>
      rintro ⟨⟩
      exact hsized rfl
    | returned summary => nofun

end Equity

section Fixture

lemma wholeShares_restraining : Restraining wholeShares where
  scale _ _ t ht := ⟨t.2, ht, fun h => ⟨h, le_rfl⟩⟩
  substitute _ _ _ _ _ _ t ht := ⟨t.2, ht, le_max_right _ _⟩

def filling₀ : Ports Unit where
  toEnvironment := quiet [("SPY", 50)] (some 0)
  submit broker intent _ w := (.ok (⟨"Filled", some "1", some intent.quantity, none⟩, broker), w)

lemma filling₀_unrelated : Unrelated filling₀ where
  evaluateAdmission _ := nofun
  quotes _ _ := nofun
  openLock _ _ := nofun
  writeLock _ _ := nofun
  readLock _ _ := nofun
  submit _ _ _ _ := nofun

def allocation₀ (weight : ℚ) : Allocation := ⟨some "weight", ["SPY"], ["SPY"], [], [], [("SPY", weight)]⟩

def loss₀ : Snapshot := ⟨5500, 500, [⟨"SPY", 100, 100, 5000⟩]⟩

def even₀ : Snapshot := ⟨5500, 500, [⟨"SPY", 100, 50, 5000⟩]⟩

def cycle₀ (s : Snapshot) (weight : ℚ) : Request :=
  approvedRequest (request₀ false [] [] 0) s ["SPY"] (allocation₀ weight) [("SPY", weight * 5500)]

theorem approved_decision_fits₀ :
    (executeRebalance wholeShares filling₀ (cycle₀ even₀ (1 / 2)) ()).submissions.map (·.intent.order) =
        [⟨"SPY", .sell, 45, none⟩] ∧
      (executeRebalance wholeShares filling₀ (cycle₀ even₀ (1 / 2)) ()).ending ≠ some .targetExceedsLimit := by
  refine ⟨by decide +kernel, ?_⟩
  have hreserved : LossReserved (request₀ false [] [] 0) even₀ ["SPY"] (allocation₀ (1 / 2)).targets := by
    unfold LossReserved
    decide +kernel
  exact ((approved_decision_fits wholeShares_restraining filling₀_unrelated (by decide +kernel) (by decide +kernel)).mpr
    hreserved).2 ()

theorem loss_aborts_the_cycle : approvedTargetValues (portfolioTotalEquity loss₀ ["SPY"]) (weightDecision [("SPY", 3 / 5)]) =
      .ok [("SPY", 3 / 5 * 5500)] ∧
    ¬ WithinCaps (cycle₀ loss₀ (3 / 5)) [("SPY", 3 / 5)] [("SPY", 3 / 5 * 5500)] ∧
    (executeRebalance wholeShares filling₀ (cycle₀ loss₀ (3 / 5)) ()).ending = some .targetExceedsLimit ∧
    (executeRebalance wholeShares filling₀ (cycle₀ loss₀ (3 / 5)) ()).submissions.map (·.intent.order) = [] := by
  refine ⟨by decide +kernel, ?_, by decide +kernel, by decide +kernel⟩
  intro h
  obtain ⟨cap, hcap, hle⟩ := h ("SPY", 3 / 5) (List.mem_singleton_self _)
  obtain rfl : 3 / 5 * 5500 = cap := Option.some.inj hcap
  exact absurd hle (by decide +kernel)

end Fixture

end IbkrPlatform.Execution.ApprovedEquity
