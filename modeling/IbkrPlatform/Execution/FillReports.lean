import Mathlib.Tactic.Linarith
import IbkrPlatform.Execution.BuyBlocks
import IbkrPlatform.Execution.OrderOutcomes

/-! What the fills in broker reports do to the status of a rebalance, and to the budget of its later buys. -/

namespace IbkrPlatform.Execution.FillReports

open Library Orders Sizing NewRiskGate RiskAuthority SettledCash Planning Rebalance Stages OrderOutcomes

variable {W : Type} {kit : Kit} {ports : Ports W} {r : Request} {plan : Plan}

section Statement

def reports (run : Run W) : List Payload := run.submissions.filterMap answered

def fill (order : Payload) : ℚ := order.filledQuantity.getD 0

def terminal (order : Payload) : Bool := outcome order = .filled ∨ outcome order = .failed

def unsettled (order : Payload) : Bool := outcome order = .pending ∨ outcome order = .unknown

structure StatusFaithful (run : Run W) : Prop where
  executed : run.ending = none → run.summary.executionStatus = .executed →
    ∀ s ∈ run.submissions, ∃ order, answered s = some order ∧ terminal order = true
  reconciled : run.ending = none → (∃ order ∈ reports run, outcome order = .pending ∨ outcome order = .partiallyFilled) →
    run.summary.executionStatus = .pendingReconciliation

def FillsShow (run : Run W) : Prop := run.ending = none → (∃ order ∈ reports run, 0 < fill order) →
  run.summary.executionStatus ≠ .blocked ∧ run.summary.executionStatus ≠ .noOp

variable (kit : Kit) (ports : Ports W) (r : Request) (plan : Plan)

def offered (p : Progress W) : ℚ :=
  if r.cashOnlyExecution then
    let observed := ports.settledCash (ports.monotonic p.world).2
    (refreshed plan p observed.1 observed.2).investable
  else p.investable

def Leaves (budget : ℚ) (s : Submission) (x : Progress W × Option Exit) : Prop := ∀ report broker,
  s.answer = some (report, broker) → x.2 = none →
    x.1.investable ≤ remaining budget broker - report.filledQuantity.getD 0 * s.intent.limitPrice.getD 0

def Deducts (p : Progress W) (t : Symbol × ℚ) : Prop := ∀ s,
  (buyStep kit ports r plan p t).1.submissions = p.submissions ++ [s] → Leaves (offered ports r plan p) s (buyStep kit ports r plan p t)

def PlanDeducts (w : W) : Prop :=
  let start := startBuys kit ports r plan (sells kit ports r plan w).1
  (sells kit ports r plan w).2 = none → start.2 = none →
    EarlyExit.Along (Deducts kit ports r plan) (buyStep kit ports r plan) start.1 plan.book.targetMv

def FillsDeducted (w : W) : Prop :=
  ∀ plan w', (planRebalance kit ports.toEnvironment r).exec w = (.ok plan, w') → PlanDeducts kit ports r plan w'

def Covered (order : Payload) : Prop := fill order ≤ if outcome order = .failed then 0 else order.quantity

def Covers (s : Submission) : Prop := ∀ order, answered s = some order → outcome order ≠ .unknown → Covered order

end Statement

section Listing

variable {p : Progress W}

structure Listing (r : Request) (e : Option Exit) (p : Progress W) : Prop where
  dry : r.dryRunOnly = true → p.submissions = []
  live : r.dryRunOnly = false → p.summary.ordersSubmitted = []
  halted : e = some .halted → ∃ s ∈ p.submissions, unknown s = true

lemma Listing.stay (h : Listing r none p) {q : Progress W} {e : Option Exit} (hs : q.submissions = p.submissions)
    (hl : q.summary.ordersSubmitted = p.summary.ordersSubmitted) (he : e ≠ some .halted) : Listing r e q :=
  ⟨fun hd => hs ▸ h.dry hd, fun hd => hl ▸ h.live hd, fun hh => absurd hh he⟩

lemma Listing.submit (h : Listing r none p) (hlive : ¬ r.dryRunOnly = true) {q : Progress W} {e : Option Exit}
    {s : Submission} (hs : q.submissions = p.submissions ++ [s])
    (hl : q.summary.ordersSubmitted = p.summary.ordersSubmitted) (he : e = some .halted → unknown s = true) : Listing r e q where
  dry hd := absurd hd hlive
  live hd := hl ▸ h.live hd
  halted hh := ⟨s, hs ▸ List.mem_append_right _ (List.mem_singleton_self _), he hh⟩

lemma unknown_of_answered {s : Submission} {order : Payload} (ha : answered s = some order) (ho : outcome order = .unknown) :
    unknown s = true := by
  simp [unknown, ha, ho]

lemma sellOrder_listing (h : Listing r none p) {symbol : Symbol} {quantity price : ℚ} :
    Listing r (sellOrder kit ports r plan p symbol quantity price).2 (sellOrder kit ports r plan p symbol quantity price).1 := by
  unfold sellOrder
  extract_lets held intent
  split
  · exact h.stay rfl rfl fun h => absurd h (by simp)
  · split
    · exact h.stay rfl rfl fun h => absurd h (by simp)
    · split
      · rename_i hdry
        exact ⟨h.dry, fun hlive => absurd (hdry.symm.trans hlive) (by decide), fun h => absurd h (by simp)⟩
      · rename_i hlive
        simp only [Progress.submit]
        cases hq : (ports.submit .connection (sellIntent plan symbol quantity)
            (if plan.newRiskBlocked then some (held, 0) else none) p.world).1 with
        | error refusal => exact h.submit hlive rfl rfl fun h => absurd h (by simp)
        | ok answer =>
          dsimp only
          split
          · rename_i ho
            exact h.submit hlive rfl (recordOrderOutcome_ordersSubmitted _ _) fun _ => unknown_of_answered answered_sell ho
          · exact h.submit hlive rfl (recordOrderOutcome_ordersSubmitted _ _) fun h => absurd h (by simp)
          · exact h.submit hlive rfl (recordOrderOutcome_ordersSubmitted _ _) fun h => absurd h (by simp)

lemma sellStep_listing (h : Listing r none p) {symbol : Symbol} :
    Listing r (sellStep kit ports r plan p symbol).2 (sellStep kit ports r plan p symbol).1 := by
  unfold sellStep
  split
  · exact h
  · exact h.stay rfl rfl nofun
  · exact h.stay rfl rfl nofun
  · exact sellOrder_listing h

lemma submitBuy_listing (h : Listing r none p) (hlive : ¬ r.dryRunOnly = true) {started quantity limit : ℚ} {symbol : Symbol} :
    Listing r (submitBuy ports r plan p started symbol quantity limit).2
      (submitBuy ports r plan p started symbol quantity limit).1 := by
  simp only [submitBuy, Progress.submit]
  cases hq : (ports.submit (buyBroker r plan started p.investable) (buyIntent plan symbol quantity limit) none
      p.world).1 with
  | error refusal => exact h.submit hlive rfl rfl fun h => absurd h (by simp)
  | ok answer =>
    dsimp only
    split
    · rename_i ho
      exact h.submit hlive rfl (recordOrderOutcome_ordersSubmitted _ _) fun _ => unknown_of_answered answered_buy ho
    · exact h.submit hlive rfl (recordOrderOutcome_ordersSubmitted _ _) fun h => absurd h (by simp)
    · exact h.submit hlive rfl (recordOrderOutcome_ordersSubmitted _ _) fun h => absurd h (by simp)

lemma sizedBuy_listing (h : Listing r none p) {started target : ℚ} {symbol : Symbol} :
    Listing r (sizedBuy kit ports r plan p started symbol target).2
      (sizedBuy kit ports r plan p started symbol target).1 := by
  unfold sizedBuy
  split
  · exact h.stay rfl rfl nofun
  · exact h.stay rfl rfl nofun
  · exact h.stay rfl rfl nofun
  · exact h.stay rfl rfl nofun
  · unfold buyOrder
    split
    · exact h.stay rfl rfl nofun
    · extract_lets now q
      have hq : Listing r none q := h.stay rfl rfl nofun
      split
      · exact hq.stay rfl rfl nofun
      · split
        · rename_i hdry
          exact ⟨hq.dry, fun hlive => absurd (hdry.symm.trans hlive) (by decide), nofun⟩
        · rename_i hlive
          exact submitBuy_listing hq hlive

lemma buyStep_listing (h : Listing r none p) {t : Symbol × ℚ} :
    Listing r (buyStep kit ports r plan p t).2 (buyStep kit ports r plan p t).1 := by
  unfold buyStep
  split
  · exact h
  · split
    · exact sizedBuy_listing h
    · extract_lets started observed q
      have hq : Listing r none q := h.stay rfl rfl nofun
      split
      · exact hq.stay rfl rfl nofun
      · split
        · exact hq.stay rfl rfl nofun
        · exact sizedBuy_listing hq

lemma blockedStep_listing (h : Listing r none p) {reason : Reason} {t : Symbol × ℚ} :
    Listing r (blockedStep plan reason p t).2 (blockedStep plan reason p t).1 := by
  unfold blockedStep
  split
  · exact h.stay rfl rfl nofun
  · exact h

lemma startBuys_listing (h : Listing r none p) : Listing r none (startBuys kit ports r plan p).1 := by
  simp only [startBuys]
  split <;> exact h.stay rfl rfl fun h => absurd h (by simp)

lemma loop_listing {α : Type} {step : Progress W → α → Progress W × Option Exit} {xs : List α}
    (hstep : ∀ q x, Listing r none q → Listing r (step q x).2 (step q x).1) (h : Listing r none p) :
    Listing r (EarlyExit.loop step p xs).2 (EarlyExit.loop step p xs).1 :=
  EarlyExit.loop_rule (Q := Listing r) (P := fun _ _ => True) (fun q x _ hq _ => hstep q x hq) h
    (EarlyExit.along_of_forall fun _ _ _ => trivial)

end Listing

section Status

inductive Returned (r : Request) (run : Run W) : Prop
  | early (submissions : run.submissions = [])
  | halted (order : ∃ order ∈ reports run, outcome order = .unknown)
      (status : run.summary.executionStatus = .pendingReconciliation)
  | finished (s : Summary) (buyingPower : ℚ) (summary : run.summary = finish r buyingPower s)
      (ledger : Ledger s (reports run)) (live : run.submissions ≠ [] → s.ordersSubmitted = [])
      (answered : ∀ s ∈ run.submissions, (answered s).isSome = true)

lemma Listing.returned_halted {p : Progress W} (h : Listing r (some .halted) p) (ha : Accounted (some .halted) p) :
    Returned r (p.run none) := by
  obtain ⟨s, hs, hu⟩ := h.halted rfl
  refine .halted ?_ (ha.halted rfl).1.pendingReconciliation
  cases ho : answered s with
  | none => simp [unknown, ho] at hu
  | some order => exact ⟨order, List.mem_filterMap.mpr ⟨s, hs, ho⟩, by simpa [unknown, ho] using hu⟩

lemma Listing.returned {p : Progress W} {exit : Exit} (h : Listing r (some exit) p) (ha : Accounted (some exit) p)
    (hending : (p.run exit.ending).ending = none) : Returned r (p.run exit.ending) := by
  cases exit with
  | halted => exact h.returned_halted ha
  | raised refusal => cases hending

lemma executePlan_returned {w : W} (hs : plan.summary = { Summary.start r.buyingPower with executionStatus := .executing })
    (hending : (executePlan kit ports r plan w).ending = none) : Returned r (executePlan kit ports r plan w) := by
  unfold executePlan at hending ⊢
  extract_lets sold start bought at hending
  extract_lets
  have hstart : Accounted none (startSells plan w) :=
    ⟨by rw [startSells, hs]; exact ⟨rfl, rfl, rfl, rfl⟩, Chronicle.preceded_nil, by simp [startSells], by simp, by simp⟩
  have hlisting : Listing r none (startSells plan w) := ⟨fun _ => rfl, fun _ => by rw [startSells, hs]; rfl, fun h => absurd h (by simp)⟩
  have hsold : Accounted sold.2 sold.1 := loop_accounted (fun _ _ hq => sellStep_accounted hq) hstart
  have hsold' : Listing r sold.2 sold.1 := loop_listing (fun _ _ hq => sellStep_listing hq) hlisting
  split
  · rename_i exit he
    rw [he] at hsold hsold' hending
    exact hsold'.returned hsold hending
  · rename_i he
    rw [he] at hsold hsold'
    simp only [he] at hending
    have hb : Accounted none start.1 := startBuys_accounted hsold
    have hb' : Listing r none start.1 := startBuys_listing hsold'
    have hbought : Accounted bought.2 bought.1 ∧ Listing r bought.2 bought.1 := by
      unfold bought buys
      split
      · exact ⟨loop_accounted (fun _ _ hq => blockedStep_accounted hq) hb, loop_listing (fun _ _ hq => blockedStep_listing hq) hb'⟩
      · exact ⟨loop_accounted (fun _ _ hq => buyStep_accounted hq) hb, loop_listing (fun _ _ hq => buyStep_listing hq) hb'⟩
    split
    · rename_i exit hexit
      rw [hexit] at hbought hending
      exact hbought.2.returned hbought.1 hending
    · rename_i hexit
      rw [hexit] at hbought
      refine .finished bought.1.summary _ rfl hbought.1.ledger (fun hne => ?_) fun s hs => ?_
      · cases hd : r.dryRunOnly with
        | true => exact absurd (hbought.2.dry hd) hne
        | false => exact hbought.2.live hd
      · have hk := hbought.1.going rfl s hs
        cases ho : answered s with
        | none => simp [known, ho] at hk
        | some order => rfl

lemma executeRebalance_returned (w : W) (h : (executeRebalance kit ports r w).ending = none) :
    Returned r (executeRebalance kit ports r w) := by
  unfold executeRebalance at h ⊢
  cases hp : (planRebalance kit ports.toEnvironment r).exec w with
  | mk answer w' =>
    rw [hp] at h
    cases answer with
    | error stop => cases stop <;> exact .early rfl
    | ok plan =>
      obtain ⟨s, w₁, _, hsettle⟩ := planRebalance_ok hp
      obtain ⟨_, _, _, _, hs, _⟩ := settle_ok hsettle
      exact executePlan_returned hs h

section Finish

variable {s : Summary} {buyingPower : ℚ}

lemma finish_pending (h : s.ordersPending ≠ []) : (finish r buyingPower s).executionStatus = .pendingReconciliation := by
  unfold finish
  extract_lets t terminal u
  have ht : t.ordersPending ≠ [] := h
  simp only [u, if_pos ht]
  rfl

lemma finish_executed (hp : s.ordersPending = [])
    (h : s.ordersSubmitted ≠ [] ∨ s.ordersFilled ≠ [] ∨ s.ordersPartiallyFilled ≠ []) :
    (finish r buyingPower s).executionStatus = .executed := by
  unfold finish
  extract_lets t terminal u
  have ht : ¬ t.ordersPending ≠ [] := not_not.mpr hp
  have hterminal : terminal := h
  simp only [u, if_neg ht, if_pos hterminal]

lemma finish_idle (hp : s.ordersPending = []) (h : ¬ (s.ordersSubmitted ≠ [] ∨ s.ordersFilled ≠ [] ∨ s.ordersPartiallyFilled ≠ [])) :
    (finish r buyingPower s).executionStatus = .blocked ∨ (finish r buyingPower s).executionStatus = .noOp := by
  unfold finish
  extract_lets t terminal u
  have ht : ¬ t.ordersPending ≠ [] := not_not.mpr hp
  have hterminal : ¬ terminal := h
  simp only [u, if_neg ht, if_neg hterminal]
  split
  · exact .inl rfl
  · exact .inr rfl

end Finish

variable {run : Run W}

lemma Returned.pending (h : Returned r run) (ho : ∃ order ∈ reports run, unsettled order = true) :
    run.summary.executionStatus = .pendingReconciliation := by
  obtain ⟨order, hmem, hu⟩ := ho
  cases h with
  | early hs => simp [reports, hs] at hmem
  | halted _ hs => exact hs
  | finished s power hsum hledger =>
    rw [hsum]
    refine finish_pending (List.ne_nil_of_mem (a := order) ?_)
    rw [hledger.pending]
    exact List.mem_filter.mpr ⟨hmem, by simpa [unsettled] using hu⟩

lemma unsettled_of_pending {order : Payload} (h : outcome order = .pending) : unsettled order = true := by simp [unsettled, h]

lemma unsettled_of_unknown {order : Payload} (h : outcome order = .unknown) : unsettled order = true := by simp [unsettled, h]

lemma pending_nil {s : Summary} (h : Ledger s (reports run)) (hno : ¬ ∃ order ∈ reports run, unsettled order = true) :
    s.ordersPending = [] := by
  rw [h.pending, List.filter_eq_nil_iff]
  intro order hmem hu
  exact hno ⟨order, hmem, by simpa [unsettled] using hu⟩

lemma Returned.executed (h : Returned r run) (hno : ¬ ∃ order ∈ reports run, unsettled order = true)
    (ho : ∃ order ∈ reports run, outcome order ≠ .failed) : run.summary.executionStatus = .executed := by
  obtain ⟨order, hmem, hf⟩ := ho
  cases h with
  | early hs => simp [reports, hs] at hmem
  | halted hu _ =>
    obtain ⟨order', hmem', hu⟩ := hu
    exact absurd ⟨order', hmem', unsettled_of_unknown hu⟩ hno
  | finished s power hsum hledger =>
    rw [hsum]
    refine finish_executed (pending_nil hledger hno) (.inr ?_)
    have hout : outcome order = .filled ∨ outcome order = .partiallyFilled := by
      have hset : ¬ unsettled order = true := fun hu => hno ⟨order, hmem, hu⟩
      cases ho : outcome order <;> simp [unsettled, ho] at hset hf ⊢
    rcases hout with ho | ho
    · left
      rw [hledger.filled]
      exact List.ne_nil_of_mem (List.mem_filter.mpr ⟨hmem, by simpa using ho⟩)
    · right
      rw [hledger.partiallyFilled]
      exact List.ne_nil_of_mem (List.mem_filter.mpr ⟨hmem, by simpa using ho⟩)

lemma Returned.idle (h : Returned r run) (hne : run.submissions ≠ []) (hall : ∀ order ∈ reports run, outcome order = .failed) :
    run.summary.executionStatus = .blocked ∨ run.summary.executionStatus = .noOp := by
  cases h with
  | early hs => exact absurd hs hne
  | halted hu _ =>
    obtain ⟨order', hmem', hu⟩ := hu
    rw [hall order' hmem'] at hu
    cases hu
  | finished s power hsum hledger hlive =>
    have hno : ¬ ∃ order ∈ reports run, unsettled order = true := by
      rintro ⟨order, hmem, hu⟩
      simp [unsettled, hall order hmem] at hu
    have hnone : ∀ o : Outcome, o ≠ .failed → (reports run).filter (outcome · = o) = [] := by
      intro o ho
      rw [List.filter_eq_nil_iff]
      intro order hmem
      simpa [hall order hmem] using ho.symm
    rw [hsum]
    refine finish_idle (pending_nil hledger hno) ?_
    rw [hlive hne, hledger.filled, hledger.partiallyFilled, hnone _ (by decide), hnone _ (by decide)]
    simp

/-- A run reports its status faithfully exactly where no order is filled in part, or another one is still to be reconciled. -/
theorem status_faithful_iff (w : W) :
    let run := executeRebalance kit ports r w
    StatusFaithful run ↔ (run.ending = none → (∃ order ∈ reports run, outcome order = .partiallyFilled) →
      ∃ order ∈ reports run, unsettled order = true) := by
  intro run
  constructor
  · rintro ⟨-, hreconciled⟩ hending ⟨order, hmem, ho⟩
    by_contra hno
    have hreturned : Returned r run := executeRebalance_returned w hending
    have hexecuted := hreturned.executed hno ⟨order, hmem, by simp [ho]⟩
    rw [hreconciled hending ⟨order, hmem, .inr ho⟩] at hexecuted
    cases hexecuted
  · intro h
    constructor
    · intro hending hexecuted s hs
      have hreturned : Returned r run := executeRebalance_returned w hending
      have hno : ¬ ∃ order ∈ reports run, unsettled order = true := by
        intro hu
        rw [hreturned.pending hu] at hexecuted
        cases hexecuted
      obtain ⟨answer, ha⟩ := Option.isSome_iff_exists.mp ((executeRebalance_reported w).complete hending s hs)
      obtain ⟨order, ho⟩ : ∃ order, answered s = some order := by simp [answered, ha]
      have hmem : order ∈ reports run := List.mem_filterMap.mpr ⟨s, hs, ho⟩
      refine ⟨order, ho, ?_⟩
      have hpartial : outcome order ≠ .partiallyFilled := fun hp => hno (h hending ⟨order, hmem, hp⟩)
      have hsettled : ¬ unsettled order = true := fun hu => hno ⟨order, hmem, hu⟩
      cases hout : outcome order <;> simp [terminal, unsettled, hout] at hpartial hsettled ⊢
    · intro hending hopen
      have hreturned : Returned r run := executeRebalance_returned w hending
      refine hreturned.pending ?_
      obtain ⟨order, hmem, ho | ho⟩ := hopen
      · exact ⟨order, hmem, unsettled_of_pending ho⟩
      · exact h hending ⟨order, hmem, ho⟩

lemma fills_show_iff (w : W) :
    let run := executeRebalance kit ports r w
    FillsShow run ↔ (run.ending = none → (∀ order ∈ reports run, outcome order = .failed) →
      ∀ order ∈ reports run, fill order ≤ 0) := by
  intro run
  constructor
  · intro h hending hall order hmem
    by_contra hpos
    have hreturned : Returned r run := executeRebalance_returned w hending
    have hne : run.submissions ≠ [] := by
      intro hnil
      simp [reports, hnil] at hmem
    obtain ⟨hblocked, hnoOp⟩ := h hending ⟨order, hmem, not_le.mp hpos⟩
    exact (hreturned.idle hne hall).elim hblocked hnoOp
  · rintro h hending ⟨order, hmem, hpos⟩
    have hreturned : Returned r run := executeRebalance_returned w hending
    have hsome : ∃ order ∈ reports run, outcome order ≠ .failed := by
      by_contra hno
      push Not at hno
      exact absurd hpos (not_lt.mpr (h hending hno order hmem))
    by_cases hopen : ∃ order ∈ reports run, unsettled order = true
    · rw [hreturned.pending hopen]
      exact ⟨nofun, nofun⟩
    · rw [hreturned.executed hopen hsome]
      exact ⟨nofun, nofun⟩

end Status

section Budget

variable {p : Progress W} {t : Symbol × ℚ} {x : Progress W × Option Exit} {budget : ℚ}

inductive Bought (budget : ℚ) (p : Progress W) (x : Progress W × Option Exit) : Prop
  | quiet (submissions : x.1.submissions = p.submissions)
  | order (s : Submission) (submissions : x.1.submissions = p.submissions ++ [s]) (side : s.intent.side = .buy)
      (leaves : Leaves budget s x ↔ Covers s)

lemma leaves_exit {s : Submission} (h : x.2 ≠ none) : Leaves budget s x := fun _ _ _ hx => absurd hx h

lemma leaves_iff {s : Submission} {report : Report} {broker : Broker} {order : Payload} {limit : ℚ}
    (ha : s.answer = some (report, broker)) (ho : answered s = some order) (hfill : order.filledQuantity = report.filledQuantity)
    (hp : s.intent.limitPrice = some limit) (hlimit : 0 < limit) (hknown : outcome order ≠ .unknown) (hx : x.2 = none)
    (hi : x.1.investable = remaining budget broker - (if outcome order = .failed then 0 else order.quantity) * limit) :
    Leaves budget s x ↔ Covers s := by
  have hcovers : Covers s ↔ Covered order := by simp [Covers, ho, hknown]
  have hleaves : Leaves budget s x ↔ x.1.investable ≤ remaining budget broker - fill order * limit := by
    simp [Leaves, ha, hx, hp, fill, hfill]
  rw [hcovers, hleaves, hi, sub_le_sub_iff_left, mul_le_mul_iff_left₀ hlimit, Covered]

lemma submitBuy_bought {started quantity limit : ℚ} {symbol : Symbol} (hlimit : 0 < limit) :
    Bought p.investable p (submitBuy ports r plan p started symbol quantity limit) := by
  simp only [submitBuy, Progress.submit]
  cases hq : (ports.submit (buyBroker r plan started p.investable) (buyIntent plan symbol quantity limit) none
      p.world).1 with
  | error refusal =>
    refine .order _ rfl rfl ⟨fun _ order ho => ?_, fun _ => leaves_exit (by simp)⟩
    cases ho
  | ok answer =>
    obtain ⟨report, broker⟩ := answer
    have ha : answered ⟨buyIntent plan symbol quantity limit, buyBroker r plan started p.investable, some (report, broker)⟩ =
        some (payload { buyIntent plan symbol quantity limit with quantity := preparedQuantity quantity broker } report) := rfl
    dsimp only
    split
    · rename_i ho
      refine .order _ rfl rfl ⟨fun _ order horder hknown => ?_, fun _ => leaves_exit (by simp)⟩
      cases horder
      exact absurd ho hknown
    · rename_i ho
      exact .order _ rfl rfl (leaves_iff rfl ha rfl rfl hlimit (by simp [ho]) rfl (by simp [ho]))
    · rename_i hu hf
      exact .order _ rfl rfl (leaves_iff rfl ha rfl rfl hlimit hu rfl (by rw [if_neg hf]))

lemma Bought.mono {q : Progress W} (h : Bought q.investable q x) (hs : q.submissions = p.submissions)
    (hi : q.investable = budget) : Bought budget p x := by
  subst hi
  cases h with
  | quiet hx => exact .quiet (hx.trans hs)
  | order s hx hside hl => exact .order s (hs ▸ hx) hside hl

lemma sizedBuy_bought {started target : ℚ} {symbol : Symbol} :
    Bought p.investable p (sizedBuy kit ports r plan p started symbol target) := by
  unfold sizedBuy
  split
  · exact .quiet rfl
  · exact .quiet rfl
  · exact .quiet rfl
  · exact .quiet rfl
  · rename_i quantity limit _
    unfold buyOrder
    split
    · exact .quiet rfl
    · rename_i hallowed
      have hlimit : 0 < limit := by
        unfold buyAllowed at hallowed
        split at hallowed
        · simp at hallowed
        · simp only [Bool.not_eq_true', decide_eq_false_iff_not, not_not] at hallowed
          exact hallowed.2.2.1
      extract_lets now q
      split
      · exact .quiet rfl
      · split
        · exact .quiet rfl
        · exact (submitBuy_bought (p := q) hlimit).mono rfl rfl

lemma buyStep_bought : Bought (offered ports r plan p) p (buyStep kit ports r plan p t) := by
  unfold buyStep
  split
  · exact .quiet rfl
  · split
    · rename_i hc
      have hcash : ¬ r.cashOnlyExecution = true := by simpa using hc
      exact sizedBuy_bought.mono rfl (if_neg hcash).symm
    · rename_i hc
      have hcash : r.cashOnlyExecution = true := by simpa using hc
      extract_lets started observed q
      split
      · exact .quiet rfl
      · split
        · exact .quiet rfl
        · exact (sizedBuy_bought (p := q)).mono rfl (if_pos hcash).symm

lemma deducts_iff : Deducts kit ports r plan p t ↔
    ∀ s, (buyStep kit ports r plan p t).1.submissions = p.submissions ++ [s] → Covers s := by
  have hbought : Bought (offered ports r plan p) p (buyStep kit ports r plan p t) := buyStep_bought
  cases hbought with
  | quiet hx => simp [Deducts, hx]
  | order s hx _ hl => simp [Deducts, hx, hl]

lemma sells_sides {w : W} (hempty : plan.summary.ordersSubmitted = []) :
    ∀ s ∈ (sells kit ports r plan w).1.submissions, s.intent.side = .sell := by
  intro s hs
  have hall : BuyBlocks.All (fun o => o.side = .sell) (sells kit ports r plan w).1 :=
    BuyBlocks.sells_all hempty fun _ _ _ _ => rfl
  exact hall s.intent.order (List.mem_append_left _ (List.mem_map_of_mem hs))

lemma startBuys_submissions : (startBuys kit ports r plan p).1.submissions = p.submissions := by
  simp only [startBuys, budgeted]

lemma blockedStep_submissions {reason : Reason} : (blockedStep plan reason p t).1.submissions = p.submissions := by
  unfold blockedStep
  split <;> rfl

variable (kit ports r plan p) in
lemma buys_appended (blocked : Option Reason) : ∃ new, (buys kit ports r plan p blocked).1.submissions = p.submissions ++ new ∧
    (∀ s ∈ new, s.intent.side = .buy) ∧
    ((blocked = none → EarlyExit.Along (Deducts kit ports r plan) (buyStep kit ports r plan) p plan.book.targetMv) ↔
      ∀ s ∈ new, Covers s) := by
  cases blocked with
  | some reason =>
    have hkept : (buys kit ports r plan p (some reason)).1.submissions = p.submissions :=
      EarlyExit.loop_invariant (I := fun q : Progress W => q.submissions = p.submissions)
        (fun q t _ hq => blockedStep_submissions.trans hq) rfl
    exact ⟨[], by simp [hkept]⟩
  | none =>
    have hstep : ∀ (q : Progress W) (t : Symbol × ℚ), (buyStep kit ports r plan q t).1.submissions = q.submissions ∨
        ∃ s, (buyStep kit ports r plan q t).1.submissions = q.submissions ++ [s] ∧ s.intent.side = .buy := by
      intro q t
      have hbought : Bought (offered ports r plan q) q (buyStep kit ports r plan q t) := buyStep_bought
      cases hbought with
      | quiet hx => exact .inl hx
      | order s hx hside _ => exact .inr ⟨s, hx, hside⟩
    obtain ⟨new, hnew, hside, hcovers⟩ := EarlyExit.along_trace (Q := Covers) hstep p plan.book.targetMv
    refine ⟨new, hnew, hside, ?_⟩
    rw [← hcovers]
    constructor
    · intro h
      exact (h rfl).mono fun _ _ => deducts_iff.mp
    · intro h _
      exact h.mono fun _ _ => deducts_iff.mpr

lemma executePlan_submissions {w : W} (hsold : (sells kit ports r plan w).2 = none) :
    let start := startBuys kit ports r plan (sells kit ports r plan w).1
    (executePlan kit ports r plan w).submissions = (buys kit ports r plan start.1 start.2).1.submissions := by
  unfold executePlan
  extract_lets _ sold start bought
  have hsold' : sold.2 = none := hsold
  simp only [hsold']
  split <;> rfl

lemma executePlan_deducts_iff {w : W} (hempty : plan.summary.ordersSubmitted = []) : PlanDeducts kit ports r plan w ↔
    ∀ s ∈ (executePlan kit ports r plan w).submissions, s.intent.side = .buy → Covers s := by
  have hsells : ∀ s ∈ (sells kit ports r plan w).1.submissions, s.intent.side = .sell := sells_sides hempty
  have hnone : ∀ s ∈ (sells kit ports r plan w).1.submissions, s.intent.side = .buy → Covers s := by
    intro s hs hb
    rw [hsells s hs] at hb
    cases hb
  cases hsold : (sells kit ports r plan w).2 with
  | some exit =>
    have hrun : (executePlan kit ports r plan w).submissions = (sells kit ports r plan w).1.submissions := by
      simp only [executePlan, hsold]
      rfl
    simp only [PlanDeducts, hsold, reduceCtorEq, false_imp_iff, true_iff, hrun]
    exact hnone
  | none =>
    obtain ⟨new, hnew, hside, hcovers⟩ := buys_appended kit ports r plan
      (startBuys kit ports r plan (sells kit ports r plan w).1).1 (startBuys kit ports r plan (sells kit ports r plan w).1).2
    rw [executePlan_submissions hsold, hnew, startBuys_submissions]
    simp only [PlanDeducts, hsold, forall_const, hcovers, List.mem_append, or_imp, forall_and]
    constructor
    · intro h
      exact ⟨hnone, fun s hs _ => h s hs⟩
    · rintro ⟨-, h⟩ s hs
      exact h s hs (hside s hs)

lemma fills_deducted_iff (w : W) :
    FillsDeducted kit ports r w ↔ ∀ s ∈ (executeRebalance kit ports r w).submissions, s.intent.side = .buy → Covers s := by
  unfold FillsDeducted executeRebalance
  cases hp : (planRebalance kit ports.toEnvironment r).exec w with
  | mk answer w' =>
    cases answer with
    | error stop => cases stop <;> simp [stopped]
    | ok plan =>
      obtain ⟨s, w₁, _, hsettle⟩ := planRebalance_ok hp
      obtain ⟨_, _, _, _, hs, _⟩ := settle_ok hsettle
      have hempty : plan.summary.ordersSubmitted = [] := by rw [hs]; rfl
      rw [← executePlan_deducts_iff hempty]
      constructor
      · intro h
        exact h plan w' rfl
      · rintro h _ _ ⟨⟩
        exact h

/-- The fills of a run count, in its status and in its budget, exactly where a run whose orders have all failed has no fill, and
each buy's report covers what it has filled. -/
theorem fills_count_iff (w : W) :
    let run := executeRebalance kit ports r w
    (FillsShow run ∧ FillsDeducted kit ports r w) ↔
      ((run.ending = none → (∀ order ∈ reports run, outcome order = .failed) → ∀ order ∈ reports run, fill order ≤ 0) ∧
        ∀ s ∈ run.submissions, s.intent.side = .buy → Covers s) := by
  intro run
  exact and_congr (fills_show_iff w) (fills_deducted_iff w)

end Budget

section Fixture

def answering (status : String) (environment : Environment Unit) : Ports Unit where
  toEnvironment := environment
  submit broker _ _ w := (.ok (⟨status, some "1", some 1, none⟩, broker), w)

def halves : Request := request₀ false [] [("QQQ", 1 / 2), ("TLT", 1 / 2)] 2000

def cash₀ : Environment Unit := quiet [("QQQ", 100), ("TLT", 50)] (some 2000)

theorem cancelled_fill_is_blocked :
    ¬ (FillsShow (executeRebalance wholeShares (answering "Cancelled" cash₀) halves ()) ∧
      FillsDeducted wholeShares (answering "Cancelled" cash₀) halves ()) := by
  rintro ⟨h, -⟩
  have hrun : let run := executeRebalance wholeShares (answering "Cancelled" cash₀) halves ()
      run.ending = none ∧ (∃ order ∈ reports run, 0 < fill order) ∧ run.summary.executionStatus = .blocked := by
    decide +kernel
  exact (h hrun.1 hrun.2.1).1 hrun.2.2

theorem partial_fill_is_executed :
    ¬ StatusFaithful (executeRebalance wholeShares (answering "PartiallyFilled" cash₀) halves ()) := by
  rintro ⟨-, h⟩
  have hrun : let run := executeRebalance wholeShares (answering "PartiallyFilled" cash₀) halves ()
      run.ending = none ∧ (∃ order ∈ reports run, outcome order = .pending ∨ outcome order = .partiallyFilled) ∧
        run.summary.executionStatus = .executed := by
    decide +kernel
  have hreconciled := h hrun.1 hrun.2.1
  rw [hrun.2.2] at hreconciled
  cases hreconciled

end Fixture

end IbkrPlatform.Execution.FillReports
