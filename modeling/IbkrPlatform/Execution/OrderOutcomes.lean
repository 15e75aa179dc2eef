import IbkrPlatform.Execution.Stages
import IbkrPlatform.Library.Chronicle

/-! Where the orders of a live rebalance are listed, and what an unknown outcome stops. -/

namespace IbkrPlatform.Execution.OrderOutcomes

open Library Chronicle Orders Sizing NewRiskGate RiskAuthority SettledCash Planning Rebalance Stages

variable {W : Type} {kit : Kit} {ports : Ports W} {r : Request} {plan : Plan}

def answered (s : Submission) : Option Payload :=
  s.answer.map fun a =>
    payload { s.intent with
      quantity := match s.intent.side with
        | .sell => s.intent.quantity
        | .buy => preparedQuantity s.intent.quantity a.2 } a.1

lemma answered_sell {symbol : Symbol} {quantity : ℚ} {answer : Report × Broker} :
    answered ⟨sellIntent plan symbol quantity, .connection, some answer⟩ =
      some (payload (sellIntent plan symbol quantity) answer.1) := rfl

lemma answered_buy {started investable quantity limit : ℚ} {symbol : Symbol} {answer : Report × Broker} :
    answered ⟨buyIntent plan symbol quantity limit, buyBroker r plan started investable, some answer⟩ =
      some (payload { buyIntent plan symbol quantity limit with quantity := preparedQuantity quantity answer.2 } answer.1) := rfl

def unknown (s : Submission) : Bool := (answered s).any (outcome · = .unknown)

def known (s : Submission) : Bool := (answered s).any (outcome · ≠ .unknown)

structure Ledger (s : Summary) (orders : List Payload) : Prop where
  filled : s.ordersFilled = orders.filter (outcome · = .filled)
  partiallyFilled : s.ordersPartiallyFilled = orders.filter (outcome · = .partiallyFilled)
  pending : s.ordersPending = orders.filter fun o => outcome o = .pending ∨ outcome o = .unknown
  skipped : s.ordersSkipped.filterMap (·.order) = orders.filter (outcome · = .failed)

structure Halted (s : Summary) : Prop where
  pendingReconciliation : s.executionStatus = .pendingReconciliation
  outcomeUnknown : s.outcomeUnknown = true
  submissionHalted : s.submissionHalted = true

section Ledger

variable {s : Summary} {orders : List Payload}

lemma Ledger.record (h : Ledger s orders) (order : Payload) : Ledger (recordOrderOutcome s order) (orders ++ [order]) := by
  cases ho : outcome order <;>
    exact ⟨by simp [recordOrderOutcome, ho, h.filled], by simp [recordOrderOutcome, ho, h.partiallyFilled],
      by simp [recordOrderOutcome, ho, h.pending], by simp [recordOrderOutcome, ho, h.skipped]⟩

lemma Ledger.skip (h : Ledger s orders) (symbol : Symbol) (side : Option Side) (reason : SkipReason) :
    Ledger (s.skip symbol side reason) orders :=
  ⟨h.filled, h.partiallyFilled, h.pending, by simp [Summary.skip, h.skipped]⟩

lemma Ledger.because (h : Ledger s orders) (reason : Reason) : Ledger (s.because reason) orders :=
  ⟨h.filled, h.partiallyFilled, h.pending, h.skipped⟩

lemma record_halted {order : Payload} (h : outcome order = .unknown) : Halted (recordOrderOutcome s order) := by
  simp only [recordOrderOutcome, h]
  exact ⟨rfl, rfl, rfl⟩

end Ledger

structure Accounted (e : Option Exit) (p : Progress W) : Prop where
  ledger : Ledger p.summary (p.submissions.filterMap answered)
  ordered : Preceded (fun before _ => ∀ s ∈ before, known s = true) p.submissions
  going : e = none → ∀ s ∈ p.submissions, known s = true
  halted : e = some .halted → Halted p.summary ∧ ∀ s ∈ p.submissions, s.answer.isSome = true
  raised : ∀ refusal, e = some (.raised refusal) → ∀ s ∈ p.submissions, unknown s = false

section Steps

variable {p : Progress W}

lemma known_answered {s : Submission} (h : known s = true) : s.answer.isSome = true := by
  cases ha : s.answer with
  | none => simp [known, answered, ha] at h
  | some a => rfl

lemma known_not_unknown {s : Submission} (h : known s = true) : unknown s = false := by
  cases ha : answered s with
  | none => simp [unknown, ha]
  | some o => simpa [unknown, known, ha] using h

lemma Accounted.stay (h : Accounted none p) {q : Progress W} (hs : q.submissions = p.submissions)
    (hl : Ledger p.summary (p.submissions.filterMap answered) → Ledger q.summary (p.submissions.filterMap answered)) :
    Accounted none q where
  ledger := hs ▸ hl h.ledger
  ordered := hs ▸ h.ordered
  going _ := hs ▸ h.going rfl
  halted he := by cases he
  raised _ he := by cases he

lemma Accounted.raise (h : Accounted none p) {q : Progress W} {refusal : Refusal} (hs : q.submissions = p.submissions)
    (hl : Ledger p.summary (p.submissions.filterMap answered) → Ledger q.summary (p.submissions.filterMap answered)) :
    Accounted (some (.raised refusal)) q where
  ledger := hs ▸ hl h.ledger
  ordered := hs ▸ h.ordered
  going he := by cases he
  halted he := by cases he
  raised _ _ := hs ▸ fun s hm => known_not_unknown (h.going rfl s hm)

lemma Accounted.escape (h : Accounted none p) {q : Progress W} {s : Submission} {refusal : Refusal}
    (hs : q.submissions = p.submissions ++ [s]) (hn : s.answer = none) (hq : q.summary = p.summary) :
    Accounted (some (.raised refusal)) q where
  ledger := by
    have ha : answered s = none := by simp [answered, hn]
    rw [hq, hs, List.filterMap_append]
    simpa [ha] using h.ledger
  ordered := hs ▸ h.ordered.snoc (h.going rfl)
  going he := by cases he
  halted he := by cases he
  raised _ _ := by
    intro t ht
    rw [hs] at ht
    rcases List.mem_append.mp ht with ht | ht
    · exact known_not_unknown (h.going rfl t ht)
    · rw [List.mem_singleton.mp ht]
      simp [unknown, answered, hn]

section Answered

variable {s : Submission} {order : Payload}

lemma Accounted.recorded (h : Accounted none p) (ha : answered s = some order) :
    Ledger (recordOrderOutcome p.summary order) ((p.submissions ++ [s]).filterMap answered) ∧
      Preceded (fun before _ => ∀ t ∈ before, known t = true) (p.submissions ++ [s]) := by
  refine ⟨?_, h.ordered.snoc (h.going rfl)⟩
  rw [List.filterMap_append]
  simpa [ha] using h.ledger.record order

variable {world : W} {release : List Symbol} {executed : Bool} {proceeds investable : ℚ}

lemma Accounted.proceed (h : Accounted none p) (ha : answered s = some order) (ho : outcome order ≠ .unknown) :
    Accounted none (⟨world, recordOrderOutcome p.summary order, p.submissions ++ [s], release, executed, proceeds,
      investable⟩ : Progress W) where
  ledger := by
    dsimp only
    exact (h.recorded ha).1
  ordered := (h.recorded ha).2
  going _ t ht := by
    rcases List.mem_append.mp ht with ht | ht
    · exact h.going rfl t ht
    · rw [List.mem_singleton.mp ht]
      simpa [known, ha] using ho
  halted he := by cases he
  raised _ he := by cases he

lemma Accounted.halt (h : Accounted none p) (ha : answered s = some order) (ho : outcome order = .unknown) :
    Accounted (some .halted) (⟨world, recordOrderOutcome p.summary order, p.submissions ++ [s], release, executed,
      proceeds, investable⟩ : Progress W) where
  ledger := by
    dsimp only
    exact (h.recorded ha).1
  ordered := (h.recorded ha).2
  going he := by cases he
  halted _ := by
    dsimp only
    refine ⟨record_halted ho, fun t ht => ?_⟩
    rcases List.mem_append.mp ht with ht | ht
    · exact known_answered (h.going rfl t ht)
    · rw [List.mem_singleton.mp ht]
      cases hsa : s.answer with
      | none => simp [answered, hsa] at ha
      | some a => rfl
  raised _ he := by cases he

end Answered

lemma sellOrder_accounted (h : Accounted none p) {symbol : Symbol} {quantity price : ℚ} :
    Accounted (sellOrder kit ports r plan p symbol quantity price).2 (sellOrder kit ports r plan p symbol quantity price).1 := by
  unfold sellOrder
  extract_lets held intent
  split
  · exact h.raise rfl id
  · split
    · exact h.stay rfl fun hl => hl.skip _ _ _
    · split
      · exact h.stay rfl fun hl => ⟨hl.filled, hl.partiallyFilled, hl.pending, hl.skipped⟩
      · simp only [Progress.submit]
        cases hq : (ports.submit .connection (sellIntent plan symbol quantity)
            (if plan.newRiskBlocked then some (held, 0) else none) p.world).1 with
        | error refusal => exact h.escape rfl rfl rfl
        | ok answer =>
          dsimp only
          split
          · rename_i ho
            exact h.halt answered_sell ho
          · rename_i ho
            exact h.proceed answered_sell fun hu => absurd (ho.symm.trans hu) (by decide)
          · rename_i ho _
            exact h.proceed answered_sell ho

lemma sellStep_accounted (h : Accounted none p) {symbol : Symbol} :
    Accounted (sellStep kit ports r plan p symbol).2 (sellStep kit ports r plan p symbol).1 := by
  unfold sellStep
  split
  · exact h
  · exact h.stay rfl fun hl => (hl.skip _ _ _).because _
  · exact h.stay rfl fun hl => hl.skip _ _ _
  · exact sellOrder_accounted h

lemma submitBuy_accounted (h : Accounted none p) {started quantity limit : ℚ} {symbol : Symbol} :
    Accounted (submitBuy ports r plan p started symbol quantity limit).2
      (submitBuy ports r plan p started symbol quantity limit).1 := by
  simp only [submitBuy, Progress.submit]
  cases hq : (ports.submit (buyBroker r plan started p.investable) (buyIntent plan symbol quantity limit) none
      p.world).1 with
  | error refusal => exact h.escape rfl rfl rfl
  | ok answer =>
    dsimp only
    split
    · rename_i ho
      exact h.halt answered_buy ho
    · rename_i ho
      exact h.proceed answered_buy fun hu => absurd (ho.symm.trans hu) (by decide)
    · rename_i ho _
      exact h.proceed answered_buy ho

lemma sizedBuy_accounted (h : Accounted none p) {started target : ℚ} {symbol : Symbol} :
    Accounted (sizedBuy kit ports r plan p started symbol target).2
      (sizedBuy kit ports r plan p started symbol target).1 := by
  unfold sizedBuy
  split
  · exact h.stay rfl fun hl => (hl.skip _ _ _).because _
  · exact h.stay rfl fun hl => hl.skip _ _ _
  · exact h.stay rfl fun hl => hl.skip _ _ _
  · exact h.stay rfl fun hl => (hl.skip _ _ _).because _
  · unfold buyOrder
    split
    · exact h.raise rfl id
    · extract_lets now q
      have hq : Accounted none q := h.stay rfl id
      split
      · exact hq.stay rfl fun hl => (hl.skip _ _ _).because _
      · split
        · exact hq.stay rfl fun hl => ⟨hl.filled, hl.partiallyFilled, hl.pending, hl.skipped⟩
        · exact submitBuy_accounted hq

lemma buyStep_accounted (h : Accounted none p) {t : Symbol × ℚ} :
    Accounted (buyStep kit ports r plan p t).2 (buyStep kit ports r plan p t).1 := by
  unfold buyStep
  split
  · exact h
  · split
    · exact sizedBuy_accounted h
    · extract_lets started observed q
      have hq : Accounted none q := h.stay rfl id
      split
      · exact hq.stay rfl fun hl => (hl.skip _ _ _).because _
      · split
        · exact hq.stay rfl fun hl => (hl.skip _ _ _).because _
        · exact sizedBuy_accounted hq

lemma blockedStep_accounted (h : Accounted none p) {reason : Reason} {t : Symbol × ℚ} :
    Accounted (blockedStep plan reason p t).2 (blockedStep plan reason p t).1 := by
  unfold blockedStep
  split
  · exact h.stay rfl fun hl => hl.skip _ _ _
  · exact h

lemma startBuys_accounted (h : Accounted none p) : Accounted none (startBuys kit ports r plan p).1 := by
  simp only [startBuys]
  split
  · exact h.stay rfl fun hl => ⟨hl.filled, hl.partiallyFilled, hl.pending, hl.skipped⟩
  · exact h.stay rfl id

lemma loop_accounted {α : Type} {step : Progress W → α → Progress W × Option Exit} {xs : List α}
    (hstep : ∀ q x, Accounted none q → Accounted (step q x).2 (step q x).1) (h : Accounted none p) :
    Accounted (EarlyExit.loop step p xs).2 (EarlyExit.loop step p xs).1 :=
  EarlyExit.loop_rule (Q := Accounted) (P := fun _ _ => True) (fun q x _ hq _ => hstep q x hq) h
    (EarlyExit.along_of_forall fun _ _ _ => trivial)

end Steps

section Runs

structure Reported (run : Run W) : Prop where
  ledger : Ledger run.summary (run.submissions.filterMap answered)
  ordered : Preceded (fun before _ => ∀ s ∈ before, known s = true) run.submissions
  halted : (∃ s ∈ run.submissions, unknown s = true) → run.ending = none ∧ Halted run.summary
  complete : run.ending = none → ∀ s ∈ run.submissions, s.answer.isSome = true

lemma Accounted.reported {p : Progress W} {exit : Exit} (h : Accounted (some exit) p) : Reported (p.run exit.ending) where
  ledger := h.ledger
  ordered := h.ordered
  halted := by
    rintro ⟨s, hs, hu⟩
    cases exit with
    | halted => exact ⟨rfl, (h.halted rfl).1⟩
    | raised refusal =>
      have hn := h.raised refusal rfl s hs
      simp [hu] at hn
  complete he := by
    cases exit with
    | halted => exact (h.halted rfl).2
    | raised refusal => cases he

lemma finish_ledger {s : Summary} {orders : List Payload} (h : Ledger s orders) (buyingPower : ℚ) :
    Ledger (finish r buyingPower s) orders := by
  unfold finish
  extract_lets t terminal u
  have hu : u.ordersFilled = s.ordersFilled ∧ u.ordersPartiallyFilled = s.ordersPartiallyFilled ∧
      u.ordersPending = s.ordersPending ∧ u.ordersSkipped = s.ordersSkipped := by
    unfold u
    split
    · exact ⟨rfl, rfl, rfl, rfl⟩
    · split
      · exact ⟨rfl, rfl, rfl, rfl⟩
      · split <;> exact ⟨rfl, rfl, rfl, rfl⟩
  exact ⟨hu.1 ▸ h.filled, hu.2.1 ▸ h.partiallyFilled, hu.2.2.1 ▸ h.pending, hu.2.2.2 ▸ h.skipped⟩

lemma executePlan_reported {w : W} (hs : plan.summary = { Summary.start r.buyingPower with executionStatus := .executing }) :
    Reported (executePlan kit ports r plan w) := by
  unfold executePlan
  extract_lets sold start bought
  have hstart : Accounted none (startSells plan w) :=
    ⟨by rw [startSells, hs]; exact ⟨rfl, rfl, rfl, rfl⟩, preceded_nil, by simp [startSells], by simp, by simp⟩
  have hsold : Accounted sold.2 sold.1 := loop_accounted (fun _ _ hq => sellStep_accounted hq) hstart
  split
  · rename_i exit he
    rw [he] at hsold
    exact hsold.reported
  · rename_i he
    rw [he] at hsold
    have hb : Accounted none start.1 := startBuys_accounted hsold
    have hbought : Accounted bought.2 bought.1 := by
      unfold bought buys
      split
      · exact loop_accounted (fun _ _ hq => blockedStep_accounted hq) hb
      · exact loop_accounted (fun _ _ hq => buyStep_accounted hq) hb
    split
    · rename_i exit hexit
      rw [hexit] at hbought
      exact hbought.reported
    · rename_i hexit
      rw [hexit] at hbought
      refine ⟨finish_ledger hbought.ledger _, hbought.ordered, ?_, fun _ s hs => known_answered (hbought.going rfl s hs)⟩
      rintro ⟨s, hs, hu⟩
      rw [known_not_unknown (hbought.going rfl s hs)] at hu
      cases hu

lemma executeRebalance_reported (w : W) : Reported (executeRebalance kit ports r w) := by
  refine executeRebalance_cases (fun stop w' h => ?_) fun plan w' h => ?_
  · have hblank := fails_planRebalance w stop w' h
    cases stop with
    | raised refusal => exact ⟨⟨rfl, rfl, rfl, rfl⟩, preceded_nil, by simp [stopped], by simp [stopped]⟩
    | returned summary =>
      have hu := hblank summary rfl
      exact ⟨⟨hu.filled, hu.partiallyFilled, hu.pending, hu.skipped⟩, preceded_nil, by simp [stopped],
        by simp [stopped]⟩
  · obtain ⟨s, w₁, _, hsettle⟩ := planRebalance_ok h
    obtain ⟨_, _, _, _, hs, _⟩ := settle_ok hsettle
    exact executePlan_reported hs

/-- After an order whose outcome is unknown no other is submitted. -/
theorem unknown_outcome_halts (w : W) :
    let run := executeRebalance kit ports r w
    Ledger run.summary (run.submissions.filterMap answered) ∧
      (∀ before s after, run.submissions = before ++ s :: after → unknown s = true →
        after = [] ∧ run.ending = none ∧ Halted run.summary) ∧
      (run.ending = none → ∀ s ∈ run.submissions, s.answer.isSome = true) := by
  have hr : Reported (executeRebalance kit ports r w) := executeRebalance_reported w
  refine ⟨hr.ledger, fun before s after he hu => ?_, hr.complete⟩
  refine ⟨?_, hr.halted ⟨s, by simp [he], hu⟩⟩
  by_contra hne
  obtain ⟨t, rest, rfl⟩ := List.exists_cons_of_ne_nil hne
  have hk := hr.ordered (before ++ [s]) t rest (by simp [he]) s (by simp)
  rw [known_not_unknown hk] at hu
  cases hu

end Runs

end IbkrPlatform.Execution.OrderOutcomes
