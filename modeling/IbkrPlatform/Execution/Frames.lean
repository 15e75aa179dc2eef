import IbkrPlatform.Execution.Stages

/-! A rebalance keeps of the world what each of its calls keeps. -/

namespace IbkrPlatform.Execution.Frames

open Library Orders Sizing NewRiskGate RiskAuthority SettledCash Planning Rebalance

variable {W : Type}

structure Kept (I : W → Prop) (e : Environment W) : Prop where
  evaluateAdmission : ∀ w, I w → I (e.evaluateAdmission w).2
  sizingScale : ∀ w, I w → I (e.sizingScale w).2
  quotes : ∀ symbols w, I w → I (e.quotes symbols w).2
  paperAdmission : ∀ w, I w → I (e.paperAdmission w).2
  openOrders : ∀ w, I w → I (e.openOrders w).2
  settledCash : ∀ w, I w → I (e.settledCash w).2
  availableBuyingPower : ∀ w, I w → I (e.availableBuyingPower w).2
  fills : ∀ w, I w → I (e.fills w).2
  openLock : ∀ mode w, I w → I (e.openLock mode w).2
  writeLock : ∀ mode w, I w → I (e.writeLock mode w).2
  readLock : ∀ mode w, I w → I (e.readLock mode w).2
  cashBalance : ∀ w, I w → I (e.cashBalance w).2
  monotonic : ∀ w, I w → I (e.monotonic w).2

structure KeptBySession (I : W → Prop) (e : Environment W) : Prop where
  record : ∀ s ∈ e.session, ∀ w, I w → I (s.recordCircuitBreakerOpen w).2
  read : ∀ s ∈ e.session, ∀ w, I w → I (s.readState w).2

variable {I : W → Prop} {kit : Kit} {e : Environment W} {ports : Ports W} {r : Request} {plan : Plan}

section Planning

lemma keeps_lift {α : Type} (x : Except Refusal α) : Attempt.Keeps I (lift x : Attempt W Stop α) := by
  cases x with
  | ok a => exact Attempt.keeps_pure a
  | error refusal => exact Attempt.keeps_throw

lemma keeps_call {α : Type} {f : W → Except Refusal α × W} (hf : ∀ w, I w → I (f w).2) :
    Attempt.Keeps I (call f) := by
  refine Attempt.keeps_of fun w hw => ?_
  have h := hf w hw
  split
  · rename_i hq
    rwa [hq] at h
  · rename_i hq
    rwa [hq] at h

lemma readBreaker_kept (h : KeptBySession I e) {admission : Admission} {w : W} (hw : I w) :
    I (readBreaker e.session admission w).2 := by
  unfold readBreaker
  cases hs : e.session with
  | none => exact hw
  | some s =>
    dsimp only
    split
    · exact hw
    · have hrec : I (if admission.hardBrakeTriggered then s.recordCircuitBreakerOpen w else (some (), w)).2 := by
        split
        · exact h.record s hs w hw
        · exact hw
      revert hrec
      generalize (if admission.hardBrakeTriggered then s.recordCircuitBreakerOpen w else (some (), w)) = recorded
      intro hrec
      split
      · exact hrec
      · exact h.read s hs recorded.2 hrec

lemma evaluatePersistent_kept (h : ∀ w, I w → I (e.evaluateAdmission w).2) (hs : KeptBySession I e) {w : W} (hw : I w) :
    I (evaluatePersistent e.evaluateAdmission e.session w).2 := by
  unfold evaluatePersistent
  have ha := h w hw
  split
  · rename_i hq
    rwa [hq] at ha
  · rename_i admission w' hq
    rw [hq] at ha
    have hb : I (readBreaker e.session admission w').2 := readBreaker_kept hs ha
    split
    · rename_i hr
      rwa [hr] at hb
    · rename_i hr
      rwa [hr] at hb
    · rename_i hr
      rwa [hr] at hb

lemma keeps_cycleAdmission (h : Kept I e) (hs : KeptBySession I e) : Attempt.Keeps I (cycleAdmission e r) := by
  unfold cycleAdmission
  split
  · exact Attempt.keeps_pure _
  · refine Attempt.keeps_bind (keeps_call h.evaluateAdmission) fun preview => ?_
    split
    · exact Attempt.keeps_pure _
    · exact Attempt.keeps_bind (keeps_call fun w hw => evaluatePersistent_kept h.evaluateAdmission hs hw) fun _ => Attempt.keeps_pure _

lemma keeps_scaleTargets (h : Kept I e) (targets : List (Symbol × ℚ)) (admission : Option Admission) :
    Attempt.Keeps I (scaleTargets kit e targets admission) := by
  cases admission with
  | none => exact Attempt.keeps_pure _
  | some a =>
    simp only [scaleTargets]
    split
    · exact Attempt.keeps_pure _
    · exact Attempt.keeps_bind (Attempt.keeps_total h.sizingScale) fun _ => Attempt.keeps_pure _

lemma keeps_sizeTargets (h : Kept I e) (a : Authorized) (equity : ℚ) (weights : List (Symbol × ℚ)) :
    Attempt.Keeps I (sizeTargets kit e r a equity weights) := by
  refine Attempt.keeps_bind (keeps_call (h.quotes _)) fun quoted => ?_
  dsimp only
  split
  · exact Attempt.keeps_throw
  · exact Attempt.keeps_pure _

lemma keeps_admitPaper (h : Kept I e) (summary : Summary) : Attempt.Keeps I (admitPaper e r summary) := by
  unfold admitPaper
  split
  · refine Attempt.keeps_bind (Attempt.keeps_total h.paperAdmission) fun allowed => ?_
    split
    · exact Attempt.keeps_throw
    · exact Attempt.keeps_pure _
  · exact Attempt.keeps_pure _

lemma keeps_observeAccount (h : Kept I e) (b : Book) (summary : Summary) :
    Attempt.Keeps I (observeAccount e r b summary) := by
  refine Attempt.keeps_bind (Attempt.keeps_total h.openOrders) fun rows => ?_
  dsimp only
  split
  · exact Attempt.keeps_throw
  · split
    · exact Attempt.keeps_throw
    · split
      · exact Attempt.keeps_bind (Attempt.keeps_total h.settledCash) fun _ => Attempt.keeps_pure _
      · exact Attempt.keeps_pure _

lemma keeps_survey (h : Kept I e) (hs : KeptBySession I e) : Attempt.Keeps I (survey kit e r) := by
  refine Attempt.keeps_bind (keeps_lift _) fun a => ?_
  dsimp only
  split
  · exact Attempt.keeps_throw
  · refine Attempt.keeps_bind (keeps_cycleAdmission h hs) fun admission => ?_
    refine Attempt.keeps_bind (keeps_scaleTargets h _ _) fun weights => ?_
    refine Attempt.keeps_bind (keeps_sizeTargets h _ _ _) fun b => ?_
    refine Attempt.keeps_bind (keeps_admitPaper h _) fun _ => ?_
    exact Attempt.keeps_bind (keeps_observeAccount h _ _) fun _ => Attempt.keeps_pure _

lemma keeps_tryCreateLock (h : Kept I e) (mode : String) : Attempt.Keeps I (tryCreateLock e mode) := by
  refine Attempt.keeps_bind (Attempt.keeps_total (h.openLock mode)) fun opened => ?_
  rcases opened with (_ | refusal) | ⟨⟩
  · exact Attempt.keeps_pure _
  · exact Attempt.keeps_throw
  · exact Attempt.keeps_bind (keeps_call (h.writeLock mode)) fun _ => Attempt.keeps_pure _

lemma keeps_takeLock (h : Kept I e) (b : Book) (mode : String) (summary : Summary) :
    Attempt.Keeps I (takeLock e r b mode summary) := by
  refine Attempt.keeps_bind (Attempt.keeps_total h.fills) fun fills => ?_
  dsimp only
  split
  · exact Attempt.keeps_throw
  · refine Attempt.keeps_bind (keeps_tryCreateLock h mode) fun created => ?_
    split
    · exact Attempt.keeps_pure _
    · exact Attempt.keeps_bind (keeps_call (h.readLock mode)) fun existing => Attempt.keeps_throw

lemma keeps_settle (h : Kept I e) (s : Survey) : Attempt.Keeps I (settle kit e r s) := by
  refine Attempt.keeps_bind ?_ fun anticipated => ?_
  · unfold anticipate
    split
    · exact Attempt.keeps_pure _
    · exact Attempt.keeps_total h.availableBuyingPower
  · split
    · exact Attempt.keeps_throw
    · exact Attempt.keeps_bind (keeps_takeLock h _ _ _) fun _ => Attempt.keeps_pure _

lemma keeps_planRebalance (h : Kept I e) (hs : KeptBySession I e) : Attempt.Keeps I (planRebalance kit e r) :=
  Attempt.keeps_bind (keeps_survey h hs) fun s => keeps_settle h s

lemma planned_kept (h : Kept I e) {w w' : W} (hp : (planRebalance kit e r).exec w = (.ok plan, w')) :
    ∃ (s : Survey) (w₁ : W), (cycleAdmission e r).exec w = (.ok s.admission, w₁) ∧ plan.newRiskBlocked = s.newRiskBlocked ∧
      (I w₁ → I w') := by
  obtain ⟨s, w₂, hsurvey, hsettle⟩ := Stages.planRebalance_ok hp
  obtain ⟨_, _, _, hblocked, _⟩ := Stages.settle_ok hsettle
  obtain ⟨_, _, w₁, u₂, u₃, u₄, _, _, hadm, hscale, hsize, hpaper, hobserve⟩ := Stages.survey_ok hsurvey
  refine ⟨s, w₁, hadm, hblocked, fun hw => ?_⟩
  have h₂ := (keeps_scaleTargets h _ _).of_exec hscale hw
  have h₃ := (keeps_sizeTargets h _ _ _).of_exec hsize h₂
  have h₄ := (keeps_admitPaper h _).of_exec hpaper h₃
  have h₅ := (keeps_observeAccount h _ _).of_exec hobserve h₄
  exact (keeps_settle h s).of_exec hsettle h₅

end Planning

section Orders

lemma sells_kept (hsell : ∀ intent reduction w, intent.side = .sell → I w → I (ports.submit .connection intent reduction w).2)
    {w : W} (hw : I w) : I (sells kit ports r plan w).1.world := by
  refine EarlyExit.loop_invariant (I := fun p : Progress W => I p.world) (fun p symbol _ hp => ?_) hw
  unfold sellStep
  split
  · exact hp
  · exact hp
  · exact hp
  · rename_i quantity price hs
    unfold sellOrder
    extract_lets held intent
    split
    · exact hp
    · split
      · exact hp
      · split
        · exact hp
        · have hsub := hsell (sellIntent plan symbol quantity) (if plan.newRiskBlocked then some (held, 0) else none)
            p.world rfl hp
          simp only [Progress.submit]
          cases (ports.submit .connection (sellIntent plan symbol quantity)
              (if plan.newRiskBlocked then some (held, 0) else none) p.world).1 with
          | error refusal => exact hsub
          | ok answer =>
            dsimp only
            split <;> exact hsub

lemma startBuys_kept (h : Kept I ports.toEnvironment) {p : Progress W} (hp : I p.world) :
    I (startBuys kit ports r plan p).1.world := by
  have hb : I (budgeted ports r plan p).world := by
    simp only [budgeted, buyingPowerAfterSells]
    split
    · exact h.settledCash _ hp
    · split
      · exact hp
      · split
        · exact h.availableBuyingPower _ hp
        · exact hp
  have hc := h.cashBalance _ hb
  simp only [startBuys, buysBlockedReason]
  repeat' split
  all_goals first
    | exact hb
    | exact hc

lemma blocked_kept {reason : Reason} {p : Progress W} (hp : I p.world) :
    I (buys kit ports r plan p (some reason)).1.world := by
  refine EarlyExit.loop_invariant (I := fun p : Progress W => I p.world) (fun p t _ hp => ?_) hp
  unfold blockedStep
  split <;> exact hp

def Stepped (S T : W → Prop) (x : Progress W × Option Exit) : Prop :=
  T x.1.world ∧ (x.2 = none → S x.1.world)

variable {S T : W → Prop} (h : Kept S ports.toEnvironment) (hw : ∀ w, S w → T w)
  (hbuy : ∀ broker intent w, intent.side = .buy → S w → Attempt.Ends S T (ports.submit broker intent none w))

include hbuy in
lemma submitBuy_stepped {p : Progress W} {started quantity limit : ℚ} {symbol : Symbol} (hp : S p.world) :
    Stepped S T (submitBuy ports r plan p started symbol quantity limit) := by
  have hsub := hbuy (buyBroker r plan started p.investable) (buyIntent plan symbol quantity limit) p.world rfl hp
  simp only [submitBuy, Progress.submit]
  cases hq : (ports.submit (buyBroker r plan started p.investable) (buyIntent plan symbol quantity limit) none
      p.world).1 with
  | error refusal => exact ⟨hsub.1, fun he => by simp at he⟩
  | ok answer =>
    have hs := hsub.2 answer hq
    dsimp only
    split
    · exact ⟨hsub.1, fun he => by simp at he⟩
    · exact ⟨hsub.1, fun _ => hs⟩
    · exact ⟨hsub.1, fun _ => hs⟩

include h hw hbuy in
lemma sizedBuy_stepped {p : Progress W} {started target : ℚ} {symbol : Symbol} (hp : S p.world) :
    Stepped S T (sizedBuy kit ports r plan p started symbol target) := by
  have hstay : ∀ {q : Progress W} {e : Option Exit}, S q.world → Stepped S T (q, e) := fun hq => ⟨hw _ hq, fun _ => hq⟩
  unfold sizedBuy
  split
  · exact hstay hp
  · exact hstay hp
  · exact hstay hp
  · exact hstay hp
  · unfold buyOrder
    split
    · exact hstay hp
    · extract_lets now q
      have hq : S q.world := by
        unfold q now
        split
        · exact h.monotonic _ hp
        · exact hp
      split
      · exact hstay hq
      · split
        · exact hstay hq
        · exact submitBuy_stepped hbuy hq

include h hw hbuy in
lemma buyStep_stepped {p : Progress W} {t : Symbol × ℚ} (hp : S p.world) : Stepped S T (buyStep kit ports r plan p t) := by
  unfold buyStep
  split
  · exact ⟨hw _ hp, fun _ => hp⟩
  · split
    · exact sizedBuy_stepped h hw hbuy hp
    · extract_lets started observed q
      have hq : S q.world := h.settledCash _ (h.monotonic _ hp)
      split
      · exact ⟨hw _ hq, fun _ => hq⟩
      · split
        · exact ⟨hw _ hq, fun _ => hq⟩
        · exact sizedBuy_stepped h hw hbuy hq

include h hw hbuy in
lemma buys_kept {p : Progress W} (hp : S p.world) : T (buys kit ports r plan p none).1.world := by
  have hQ : Stepped S T (EarlyExit.loop (buyStep kit ports r plan) p plan.book.targetMv) :=
    EarlyExit.loop_rule (Q := fun e p => Stepped S T (p, e)) (P := fun _ _ => True)
      (fun p t _ hp _ => buyStep_stepped h hw hbuy (hp.2 rfl)) ⟨hw _ hp, fun _ => hp⟩
      (EarlyExit.along_of_forall fun _ _ _ => trivial)
  exact hQ.1

lemma executeRebalance_kept (h : Kept I ports.toEnvironment) (hs : KeptBySession I ports.toEnvironment)
    (hsubmit : ∀ broker intent reduction w, I w → I (ports.submit broker intent reduction w).2) {w : W} (hw : I w) :
    I (executeRebalance kit ports r w).world := by
  unfold executeRebalance
  have hplan : I ((planRebalance kit ports.toEnvironment r).exec w).2 := keeps_planRebalance h hs w hw
  split
  · rename_i stop w' hq
    rw [hq] at hplan
    cases stop <;> exact hplan
  · rename_i plan w' hq
    rw [hq] at hplan
    unfold executePlan
    extract_lets sold start bought
    have hsold : I sold.1.world := sells_kept (fun intent reduction w _ hw => hsubmit _ intent reduction w hw) hplan
    have hstart : I start.1.world := startBuys_kept h hsold
    have hbought : I bought.1.world := by
      unfold bought
      cases start.2 with
      | some reason => exact blocked_kept hstart
      | none =>
        exact buys_kept h (fun _ hw => hw)
          (fun broker intent w _ hw => ⟨hsubmit broker intent none w hw, fun _ _ => hsubmit broker intent none w hw⟩) hstart
    split
    · exact hsold
    · split
      · exact hbought
      · exact hbought

end Orders

end IbkrPlatform.Execution.Frames
