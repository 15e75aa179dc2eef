import IbkrPlatform.Execution.BuyBlocks
import IbkrPlatform.Execution.LiveOrders
import IbkrPlatform.Library.Chronicle

/-! Cycles that share an account journal: what its breaker leaves of their buys. -/

namespace IbkrPlatform.Execution.BreakerRuns

open Library Chronicle Orders Sizing NewRiskGate RiskAuthority SettledCash Planning Rebalance Stages LiveOrders

variable {V : Type}

structure Cycle (V : Type) where
  request : Request
  desk : Desk V

def runCycle (kit : Kit) (c : Cycle V) (v : V) : Run (Live V) :=
  executeRebalance kit (livePorts kit c.desk c.request) c.request ⟨v, []⟩

def acts (kit : Kit) (c : Cycle V) (v : V) : List Act := (runCycle kit c v).world.acts

def after (kit : Kit) : List (Cycle V) → V → V
  | [], v => v
  | c :: cs, v => after kit cs (runCycle kit c v).world.outside

def history (kit : Kit) : List (Cycle V) → V → List Act
  | [], _ => []
  | c :: cs, v => acts kit c v ++ history kit cs (runCycle kit c v).world.outside

/-- The journal is durable and append-only, and is read back as it was written: a breaker recorded open stays open,
and an open breaker is never read as closed. -/
structure Journaled (isOpen : V → Prop) (desk : Desk V) : Prop where
  lasting : Lasting isOpen desk
  record : ∀ s ∈ desk.session, ∀ v, (s.recordCircuitBreakerOpen v).1 = some () →
    isOpen (s.recordCircuitBreakerOpen v).2
  read : ∀ s ∈ desk.session, ∀ v, isOpen v → (s.readState v).1 ≠ some (some false)

def faulty : Act → Bool
  | .read none => true
  | .read (some none) => true
  | .record false => true
  | _ => false

structure Admitted (before : List Act) : Prop where
  closed : .read (some (some false)) ∈ before
  sound : ∀ a ∈ before, faulty a = false
  unbroken : .record true ∉ before

abbrev Good : List Act → Prop := Preceded fun before a => a.side = some .buy → Admitted before

variable {kit : Kit} {isOpen : V → Prop} {desk : Desk V} {r : Request} {plan : Plan} {a : Admission} {w w' : Live V}

section Reads

lemma Admitted.snoc {l : List Act} {act : Act} (h : Admitted l) (hf : faulty act = false) (hr : act ≠ .record true) :
    Admitted (l ++ [act]) where
  closed := List.mem_append_left _ h.closed
  sound b hb := by
    rcases List.mem_append.mp hb with hb | hb
    · exact h.sound b hb
    · exact List.mem_singleton.mp hb ▸ hf
  unbroken hb := by
    rcases List.mem_append.mp hb with hb | hb
    · exact h.unbroken hb
    · exact hr (List.mem_singleton.mp hb).symm

lemma evaluatePersistent_ok {W : Type} {evaluate : W → Except Refusal Admission × W} {session : Option (Session W)}
    {w w' : W} {a : Admission} (h : evaluatePersistent evaluate session w = (.ok a, w')) (ha : a.prohibited = false) :
    ∃ w₁, evaluate w = (.ok a, w₁) ∧ readBreaker session a w₁ = (some false, w') := by
  unfold evaluatePersistent at h
  split at h
  · cases h
  · rename_i admission w₁ he
    split at h
    · rename_i w₂ hr
      cases h
      exact ⟨w₁, he, hr⟩
    · cases h
      simp [Admission.prohibit] at ha
    · cases h
      simp [Admission.prohibit] at ha

lemma readBreaker_some {W : Type} {session : Option (Session W)} {w w' : W} {b : Bool}
    (h : readBreaker session a w = (some b, w')) :
    ∃ s w₁, session = some s ∧ s.accountSubmissionSession = true ∧ s.readState w₁ = (some (some b), w') ∧
      (if a.hardBrakeTriggered then s.recordCircuitBreakerOpen w = (some (), w₁) else w₁ = w) := by
  cases session with
  | none => simp [readBreaker] at h
  | some s =>
    cases ha : s.accountSubmissionSession with
    | false => simp [readBreaker, ha] at h
    | true =>
      simp only [readBreaker, ha, Bool.not_true, Bool.false_eq_true, if_false] at h
      split at h
      · cases h
      · rename_i hrec
        obtain ⟨hread, rfl⟩ := Prod.mk.inj h
        refine ⟨s, _, rfl, ha, Prod.ext (Option.join_eq_some_iff.mp hread) rfl, ?_⟩
        split
        · rename_i hb
          simp only [hb, if_true] at hrec ⊢
          exact Prod.ext hrec rfl
        · rfl

lemma readBreaker_closed (hj : Journaled isOpen desk)
    (h : readBreaker (traceEnvironment desk.toEnvironment).session a w = (some false, w')) :
    desk.session.any (·.accountSubmissionSession) = true ∧ w'.acts = w.acts ++ [.read (some (some false))] := by
  obtain ⟨t, w₁, ht, hacc, hread, hrec⟩ := readBreaker_some h
  obtain ⟨s, hs, rfl⟩ := Option.map_eq_some_iff.mp ht
  have hclosed : (s.readState w₁.outside).1 = some (some false) := congrArg Prod.fst hread
  obtain rfl : _ = w' := congrArg Prod.snd hread
  have haccepted : s.accountSubmissionSession = true := hacc
  refine ⟨by simp [hs, haccepted], ?_⟩
  change w₁.acts ++ [.read (s.readState w₁.outside).1] = _
  rw [hclosed]
  cases hb : a.hardBrakeTriggered with
  | false =>
    simp only [hb, Bool.false_eq_true, if_false] at hrec
    rw [hrec]
  | true =>
    simp only [hb, if_true] at hrec
    have hwritten : (s.recordCircuitBreakerOpen w.outside).1 = some () := congrArg Prod.fst hrec
    have hopen : isOpen w₁.outside := by
      obtain rfl : _ = w₁ := congrArg Prod.snd hrec
      exact hj.record s hs w.outside hwritten
    exact absurd hclosed (hj.read s hs w₁.outside hopen)

lemma evaluatePersistent_closed (hj : Journaled isOpen desk)
    (h : evaluatePersistent (traceEnvironment desk.toEnvironment).evaluateAdmission
      (traceEnvironment desk.toEnvironment).session w = (.ok a, w')) (ha : a.prohibited = false) :
    w'.acts = w.acts ++ [.read (some (some false))] := by
  obtain ⟨w₁, he, hr⟩ := evaluatePersistent_ok h ha
  obtain rfl : _ = w₁ := congrArg Prod.snd he
  exact (readBreaker_closed hj hr).2

end Reads

section Invariants

def Durable (isOpen : V → Prop) (w : Live V) : Prop := .record true ∈ w.acts → isOpen w.outside

def NeverClosed (isOpen : V → Prop) (w : Live V) : Prop := isOpen w.outside ∧ .read (some (some false)) ∉ w.acts

lemma consults_of_side {act : Act} {side : Side} (h : act.side = some side) : act.consults = false := by
  cases act <;> first | rfl | cases h

lemma consults_of_observes {act : Act} (h : act.observes = true) : act.consults = false := by
  cases act <;> first | rfl | cases h

lemma ne_record {act : Act} (h : act.consults = false) (written : Bool) : act ≠ .record written := by
  rintro rfl
  cases h

lemma ne_read {act : Act} (h : act.consults = false) (answer : Option (Option Bool)) : act ≠ .read answer := by
  rintro rfl
  cases h

lemma not_faulty {act : Act} (h : act.consults = false) : faulty act = false := by
  cases act <;> first | rfl | cases h

lemma runCycle_kept {I : Live V → Prop} (hd : Lasting isOpen desk)
    (hcall : ∀ w v, I w → (isOpen w.outside → isOpen v) → I { w with outside := v })
    (hs : Frames.KeptBySession I (traceEnvironment desk.toEnvironment))
    (hlog : ∀ w act, act.consults = false → I w → I (w.log act)) {v : V} (hv : I ⟨v, []⟩) :
    I (runCycle kit ⟨r, desk⟩ v).world := by
  have he := traceEnvironment_kept hcall (fun w act h => hlog w act (consults_of_observes h)) hd.environment
  refine Frames.executeRebalance_kept he hs (fun broker intent reduction w hw => ?_) hv
  refine Attempt.keeps_bind requireSession_keeps (fun _ => ?_) w hw
  refine Attempt.keeps_bind (requireClaim_keeps hd hcall) fun _ => ?_
  refine Attempt.keeps_bind (admitNewRisk_keeps he.evaluateAdmission hs intent) fun _ => ?_
  exact forwardOrder_keeps hd hcall (fun w act h => hlog w act (consults_of_side h)) _ _

lemma runCycle_durable (hj : Journaled isOpen desk) (v : V) : Durable isOpen (runCycle kit ⟨r, desk⟩ v).world := by
  refine runCycle_kept hj.lasting (fun w v hw hv hr => hv (hw hr)) ⟨?_, ?_⟩ (fun w act h hw hr => ?_) (by simp [Durable])
  · intro t ht w hw hr
    obtain ⟨s, hs, rfl⟩ := Option.map_eq_some_iff.mp ht
    rcases List.mem_append.mp hr with hr | hr
    · exact hj.lasting.session.record s hs w.outside (hw hr)
    · simp only [List.mem_singleton, Act.record.injEq] at hr
      refine hj.record s hs w.outside ?_
      exact (Option.isSome_iff_exists.mp hr.symm).choose_spec
  · intro t ht w hw hr
    obtain ⟨s, hs, rfl⟩ := Option.map_eq_some_iff.mp ht
    rcases List.mem_append.mp hr with hr | hr
    · exact hj.lasting.session.read s hs w.outside (hw hr)
    · simp at hr
  · rcases List.mem_append.mp hr with hr | hr
    · exact hw hr
    · exact absurd (List.mem_singleton.mp hr).symm (ne_record h true)

lemma runCycle_neverClosed (hj : Journaled isOpen desk) {v : V} (hv : isOpen v) :
    NeverClosed isOpen (runCycle kit ⟨r, desk⟩ v).world := by
  refine runCycle_kept hj.lasting (fun w v hw hv => ⟨hv hw.1, hw.2⟩) ⟨?_, ?_⟩ (fun w act h hw => ⟨hw.1, ?_⟩)
    ⟨hv, by simp⟩
  · intro t ht w hw
    obtain ⟨s, hs, rfl⟩ := Option.map_eq_some_iff.mp ht
    refine ⟨hj.lasting.session.record s hs w.outside hw.1, fun hr => ?_⟩
    rcases List.mem_append.mp hr with hr | hr
    · exact hw.2 hr
    · simp at hr
  · intro t ht w hw
    obtain ⟨s, hs, rfl⟩ := Option.map_eq_some_iff.mp ht
    refine ⟨hj.lasting.session.read s hs w.outside hw.1, fun hr => ?_⟩
    rcases List.mem_append.mp hr with hr | hr
    · exact hw.2 hr
    · exact hj.read s hs w.outside hw.1 (Act.read.inj (List.mem_singleton.mp hr)).symm
  · intro hr
    rcases List.mem_append.mp hr with hr | hr
    · exact hw.2 hr
    · exact absurd (List.mem_singleton.mp hr).symm (ne_read h _)

end Invariants

section Buys

lemma Good.neutral {l : List Act} {act : Act} (h : Good l) (ha : act.side = none) : Good (l ++ [act]) :=
  h.snoc fun hs => by simp [ha] at hs

lemma side_of_observes {act : Act} (h : act.observes = true) : act.side = none := by
  cases act <;> first | rfl | cases h

lemma side_of_consults {act : Act} (h : act.consults = true) : act.side = none := by
  cases act <;> first | rfl | cases h

def Ready (w : Live V) : Prop := Good w.acts ∧ Admitted w.acts

lemma Ready.log {w : Live V} {act : Act} (h : Ready w) (ha : act.consults = false) : Ready (w.log act) :=
  ⟨h.1.snoc fun _ => h.2, h.2.snoc (not_faulty ha) (ne_record ha true)⟩

lemma good_session (hd : Lasting isOpen desk) :
    Frames.KeptBySession (fun w : Live V => Good w.acts) (traceEnvironment desk.toEnvironment) :=
  traceSession_kept (fun _ _ hw _ => hw) (fun _ _ hc hw => hw.neutral (side_of_consults hc)) hd.session

lemma good_environment (hd : Lasting isOpen desk) :
    Frames.Kept (fun w : Live V => Good w.acts) (traceEnvironment desk.toEnvironment) :=
  traceEnvironment_kept (fun _ _ hw _ => hw) (fun _ _ ho hw => hw.neutral (side_of_observes ho)) hd.environment

lemma admitNewRisk_leads (hj : Journaled isOpen desk) (hg : desk.gateEnabled = true) {intent : Intent}
    (hside : intent.side = .buy) :
    Attempt.Leads Ready (fun w => Good w.acts) (admitNewRisk desk intent) := by
  have hnew : newRisk desk intent = true := by simp [newRisk, hside, hg]
  intro w hw
  simp only [admitNewRisk, hnew, if_true, requireAdmission]
  have hkept : Good (evaluatePersistent (traceEnvironment desk.toEnvironment).evaluateAdmission
      (traceEnvironment desk.toEnvironment).session w).2.acts :=
    Frames.evaluatePersistent_kept (good_environment hj.lasting).evaluateAdmission (good_session hj.lasting) hw.1
  rw [Attempt.exec_bind, Attempt.exec_of]
  cases he : evaluatePersistent (traceEnvironment desk.toEnvironment).evaluateAdmission
      (traceEnvironment desk.toEnvironment).session w with
  | mk answer w' =>
    rw [he] at hkept
    cases answer with
    | error refusal => exact ⟨hkept, fun _ h => by simp at h⟩
    | ok latest =>
      dsimp only
      split
      · exact ⟨hkept, fun _ h => by simp at h⟩
      · rename_i hp
        have hacts := evaluatePersistent_closed hj he (by simpa using hp)
        have hready : Ready w' := by
          refine ⟨hkept, ?_⟩
          rw [hacts]
          exact hw.2.snoc rfl (by simp)
        exact ⟨hkept, fun _ _ => hready⟩

lemma submitBuy_ends (hj : Journaled isOpen desk) (hg : desk.gateEnabled = true) {broker : Broker} {intent : Intent}
    {reduction : Option (ℚ × ℚ)} (hside : intent.side = .buy) :
    Attempt.Leads Ready (fun w => Good w.acts) (submitClaimedOrder kit desk r broker intent reduction) := by
  have hweak : ∀ w : Live V, Ready w → Good w.acts := fun w hw => hw.1
  refine Attempt.leads_bind (requireSession_keeps.leads hweak) fun _ => ?_
  refine Attempt.leads_bind ((requireClaim_keeps hj.lasting fun _ _ hw _ => hw).leads hweak) fun _ => ?_
  refine Attempt.leads_bind (admitNewRisk_leads hj hg hside) fun _ => ?_
  exact (forwardOrder_keeps hj.lasting (fun _ _ hw _ => hw) (fun w act h hw => hw.log (consults_of_side h)) broker reduction).leads hweak

def Planned (plan : Plan) (w : Live V) : Prop := Good w.acts ∧ (plan.newRiskBlocked = false → Admitted w.acts)

lemma Planned.log {w : Live V} {act : Act} (h : Planned plan w) (ho : act.observes = true) : Planned plan (w.log act) :=
  ⟨h.1.neutral (side_of_observes ho),
    fun hb => (h.2 hb).snoc (not_faulty (consults_of_observes ho)) (ne_record (consults_of_observes ho) true)⟩

lemma submitSell_planned (hj : Journaled isOpen desk) {broker : Broker} {intent : Intent}
    {reduction : Option (ℚ × ℚ)} (hside : intent.side = .sell) :
    Attempt.Keeps (Planned plan) (submitClaimedOrder kit desk r broker intent reduction) := by
  refine Attempt.keeps_bind requireSession_keeps fun _ => ?_
  refine Attempt.keeps_bind (requireClaim_keeps hj.lasting fun _ _ hw _ => hw) fun _ => ?_
  refine Attempt.keeps_bind ?_ fun _ => ?_
  · have hnew : newRisk desk intent = false := by simp [newRisk, hside]
    rw [admitNewRisk, hnew]
    exact Attempt.keeps_pure _
  · refine forwardOrder_keeps hj.lasting (fun _ _ hw _ => hw) (fun w act h hw => ⟨?_, fun hb => ?_⟩) broker reduction
    · exact hw.1.snoc fun hbuy => by simp [h, hside] at hbuy
    · exact (hw.2 hb).snoc (not_faulty (consults_of_side h)) (ne_record (consults_of_side h) true)

end Buys

section Cycles

lemma cycleAdmission_live {W : Type} {e : Environment W} {admission : Option Admission} {w w' : W} (hg : e.gateEnabled = true)
    (hlive : r.dryRunOnly = false) (h : (cycleAdmission e r).exec w = (.ok admission, w')) :
    ∃ a preview w₁, admission = some a ∧ e.evaluateAdmission w = (.ok preview, w₁) ∧
      evaluatePersistent e.evaluateAdmission e.session w₁ = (.ok a, w') := by
  simp only [cycleAdmission, hg, Bool.not_true, Bool.false_eq_true, if_false, hlive, false_and] at h
  obtain ⟨preview, w₁, hp, hrest⟩ := Attempt.exec_bind_ok.mp h
  obtain ⟨a, w₂, ha, hrest⟩ := Attempt.exec_bind_ok.mp hrest
  cases hrest
  exact ⟨a, preview, w₁, rfl, call_ok hp, call_ok ha⟩

lemma planRebalance_planned (hj : Journaled isOpen desk) (hg : desk.gateEnabled = true) (hlive : r.dryRunOnly = false)
    {v : V} (h : (planRebalance kit (traceEnvironment desk.toEnvironment) r).exec ⟨v, []⟩ = (.ok plan, w')) :
    Planned plan w' := by
  have hgood : Attempt.Keeps (fun w : Live V => Good w.acts) (planRebalance kit (traceEnvironment desk.toEnvironment) r) :=
    Frames.keeps_planRebalance (good_environment hj.lasting) (good_session hj.lasting)
  refine ⟨hgood.of_exec h preceded_nil, fun hb => ?_⟩
  have hkept : Frames.Kept (fun w : Live V => Admitted w.acts) (traceEnvironment desk.toEnvironment) :=
    traceEnvironment_kept (fun _ _ hw _ => hw)
      (fun _ _ ho hw => hw.snoc (not_faulty (consults_of_observes ho)) (ne_record (consults_of_observes ho) true))
      hj.lasting.environment
  obtain ⟨s, w₁, hadm, hblocked, hrest⟩ := Frames.planned_kept hkept h
  have hgate : (traceEnvironment desk.toEnvironment).gateEnabled = true := hg
  obtain ⟨a, preview, w₀, ha, hpre, hper⟩ := cycleAdmission_live hgate hlive hadm
  have hprohibited : a.prohibited = false := by
    have hn := hblocked.symm.trans hb
    simp only [Survey.newRiskBlocked, Survey.prohibited, ha, Option.map_some, Option.getD_some, Bool.or_eq_false_iff] at hn
    exact hn.1.1
  have hread : w₁.acts = [.read (some (some false))] := by
    obtain rfl : _ = w₀ := congrArg Prod.snd hpre
    exact evaluatePersistent_closed hj hper hprohibited
  refine hrest ?_
  rw [hread]
  exact ⟨List.mem_singleton_self _, by simp [faulty], by simp⟩

lemma startBuys_none {W : Type} {ports : Ports W} {p : Progress W} (h : (startBuys kit ports r plan p).2 = none) :
    plan.book.buyNeeded = [] ∨ plan.newRiskBlocked = false := by
  by_cases hn : plan.book.buyNeeded = []
  · exact .inl hn
  · exact .inr (BuyBlocks.buysBlockedReason_none h hn).2.1

lemma buys_good (hj : Journaled isOpen desk) (hg : desk.gateEnabled = true) {p : Progress (Live V)}
    (hp : Planned plan p.world) (hb : plan.book.buyNeeded = [] ∨ plan.newRiskBlocked = false) :
    Good (buys kit (livePorts kit desk r) r plan p none).1.world.acts := by
  rcases hb with hb | hb
  · refine EarlyExit.loop_invariant (I := fun p : Progress (Live V) => Good p.world.acts) (fun p t ht hp => ?_) hp.1
    unfold buyStep
    rw [if_pos (BuyBlocks.not_buyNeeded hb ht)]
    exact hp
  · have hready : Frames.Kept Ready (livePorts kit desk r).toEnvironment :=
      traceEnvironment_kept (fun _ _ hw _ => hw) (fun _ _ ho hw => hw.log (consults_of_observes ho)) hj.lasting.environment
    exact Frames.buys_kept hready (fun _ hw => hw.1) (fun broker intent w hside hw => submitBuy_ends hj hg hside w hw)
      ⟨hp.1, hp.2 hb⟩

lemma runCycle_good (hj : Journaled isOpen desk) (hg : desk.gateEnabled = true) (hlive : r.dryRunOnly = false) (v : V) :
    Good (runCycle kit ⟨r, desk⟩ v).world.acts := by
  have hgood : Attempt.Keeps (fun w : Live V => Good w.acts) (planRebalance kit (traceEnvironment desk.toEnvironment) r) :=
    Frames.keeps_planRebalance (good_environment hj.lasting) (good_session hj.lasting)
  refine executeRebalance_cases (C := fun run : Run (Live V) => Good run.world.acts) (fun stop w' hq => ?_)
    fun plan w' hq => ?_
  · have hstopped : Good w'.acts := hgood.of_exec hq preceded_nil
    cases stop <;> exact hstopped
  · have hplanned := planRebalance_planned hj hg hlive hq
    have henv : Frames.Kept (Planned plan) (livePorts kit desk r).toEnvironment :=
      traceEnvironment_kept (fun _ _ hw _ => hw) (fun _ _ ho hw => hw.log ho) hj.lasting.environment
    unfold executePlan
    extract_lets sold start bought
    have hsold : Planned plan sold.1.world :=
      Frames.sells_kept (fun intent reduction w hside hw => submitSell_planned hj hside w hw) hplanned
    have hstart : Planned plan start.1.world := Frames.startBuys_kept henv hsold
    have hbought : Good bought.1.world.acts := by
      unfold bought
      cases hb : start.2 with
      | some reason => exact (Frames.blocked_kept hstart).1
      | none => exact buys_good hj hg hstart (startBuys_none hb)
    split
    · exact hsold.1
    · split
      · exact hbought
      · exact hbought

lemma runCycle_without_session (hd : Lasting isOpen desk) (hs : desk.session.any (·.accountSubmissionSession) = false)
    (v : V) : ∀ a ∈ (runCycle kit ⟨r, desk⟩ v).world.acts, a.side = none := by
  have hlog : ∀ w : Live V, ∀ act : Act, act.side = none → (∀ a ∈ w.acts, a.side = none) → ∀ a ∈ (w.log act).acts, a.side = none := by
    intro w act hact hw a ha
    rcases List.mem_append.mp ha with ha | ha
    · exact hw a ha
    · exact List.mem_singleton.mp ha ▸ hact
  refine Frames.executeRebalance_kept (I := fun w : Live V => ∀ a ∈ w.acts, a.side = none)
    (traceEnvironment_kept (fun _ _ hw _ => hw) (fun w act ho => hlog w act (side_of_observes ho)) hd.environment)
    (traceSession_kept (fun _ _ hw _ => hw) (fun w act hc => hlog w act (side_of_consults hc)) hd.session)
    (fun broker intent reduction w hw => ?_) (by simp)
  have hrefused : sessionAccepted desk = false := by simp [sessionAccepted, hs]
  have hexec : (submitClaimedOrder kit desk r broker intent reduction).exec w = (.error .sessionRequired, w) := by
    simp [submitClaimedOrder, requireSession, hrefused]
  change ∀ a ∈ ((submitClaimedOrder kit desk r broker intent reduction).exec w).2.acts, a.side = none
  rw [hexec]
  exact hw

lemma after_isOpen {cs : List (Cycle V)} (hj : ∀ c ∈ cs, Journaled isOpen c.desk) {v : V} (hv : isOpen v) :
    isOpen (after kit cs v) := by
  induction cs generalizing v with
  | nil => exact hv
  | cons c cs ih =>
    exact ih (fun d hd => hj d (List.mem_cons_of_mem c hd)) (runCycle_neverClosed (hj c List.mem_cons_self) hv).1

lemma history_isOpen {cs : List (Cycle V)} (hj : ∀ c ∈ cs, Journaled isOpen c.desk) {v : V}
    (hr : .record true ∈ history kit cs v) : isOpen (after kit cs v) := by
  induction cs generalizing v with
  | nil => simp [history] at hr
  | cons c cs ih =>
    have hrest : ∀ d ∈ cs, Journaled isOpen d.desk := fun d hd => hj d (List.mem_cons_of_mem c hd)
    rcases List.mem_append.mp hr with hr | hr
    · exact after_isOpen hrest (runCycle_durable (hj c List.mem_cons_self) v hr)
    · exact ih hrest hr

/-- No cycle over a shared journal buys after a recorded breach, nor without an account session. -/
theorem recorded_breach_bars_buys {earlier : List (Cycle V)} {c : Cycle V}
    (hj : ∀ d ∈ c :: earlier, Journaled isOpen d.desk) (hg : c.desk.gateEnabled = true)
    (hlive : c.request.dryRunOnly = false) (v : V) :
    (.record true ∈ history kit earlier v → ∀ a ∈ acts kit c (after kit earlier v), a.side ≠ some .buy) ∧
      (∀ before a rest, acts kit c (after kit earlier v) = before ++ a :: rest → a.side = some .buy → Admitted before) ∧
      (c.desk.session.any (·.accountSubmissionSession) = false →
        ∀ a ∈ acts kit c (after kit earlier v), a.side ≠ some .buy) := by
  have hc := hj c List.mem_cons_self
  have hgood : Good (acts kit c (after kit earlier v)) := runCycle_good hc hg hlive _
  refine ⟨fun hr a ha hbuy => ?_, hgood, fun hs a ha hbuy => ?_⟩
  · have hopen := history_isOpen (fun d hd => hj d (List.mem_cons_of_mem c hd)) hr
    obtain ⟨before, rest, heq, hadm⟩ := hgood.mem ha
    have hnever : NeverClosed isOpen (runCycle kit c (after kit earlier v)).world := runCycle_neverClosed hc hopen
    refine hnever.2 ?_
    change _ ∈ acts kit c (after kit earlier v)
    rw [heq]
    exact List.mem_append_left _ (hadm hbuy).closed
  · rw [runCycle_without_session hc.lasting hs _ a ha] at hbuy
    cases hbuy

def account₀ (breach : Bool) : Environment Bool :=
  { quiet [("TLT", 50)] (some 2000) with
    gateEnabled := true
    evaluateAdmission := fun v => (.ok ⟨breach, breach, [], none⟩, v)
    session := some ⟨true, fun _ => (some (), true), fun v => (some (some v), v)⟩ }

def cycle₀ (breach : Bool) : Cycle Bool := ⟨request₀ false [] [("TLT", 1 / 2)] 2000, receptive (account₀ breach)⟩

lemma journaled₀ (breach : Bool) : Journaled (· = true) (cycle₀ breach).desk where
  lasting := receptive_lasting
    ⟨fun _ h => h, fun _ h => h, fun _ _ h => h, fun _ h => h, fun _ h => h, fun _ h => h, fun _ h => h, fun _ h => h,
      fun _ _ h => h, fun _ _ h => h, fun _ _ h => h, fun _ h => h, fun _ h => h⟩
    ⟨fun s hs w _ => Option.some.inj hs ▸ rfl, fun s hs w hw => Option.some.inj hs ▸ hw⟩
  record s hs v _ := Option.some.inj hs ▸ rfl
  read s hs v hv := by
    obtain rfl := Option.some.inj hs
    simp [hv]

theorem recorded_breach_bars_buys₀ :
    (∃ a ∈ acts wholeShares (cycle₀ false) false, a.side = some .buy) ∧
      ∀ a ∈ acts wholeShares (cycle₀ false) (after wholeShares [cycle₀ true] false), a.side ≠ some .buy := by
  have hj : ∀ d ∈ [cycle₀ false, cycle₀ true], Journaled (· = true) d.desk := by
    intro d hd
    rcases List.mem_pair.mp hd with rfl | rfl
    · exact journaled₀ false
    · exact journaled₀ true
  exact ⟨by decide +kernel, (recorded_breach_bars_buys hj rfl rfl false).1 (by decide +kernel)⟩

end Cycles

end IbkrPlatform.Execution.BreakerRuns
