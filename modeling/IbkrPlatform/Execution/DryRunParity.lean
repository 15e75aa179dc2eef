import Mathlib.Tactic.Linarith
import IbkrPlatform.Execution.BuyBlocks
import IbkrPlatform.Execution.LiveOrders

/-! A dry run beside the live run it stands for: when both list the same orders. -/

namespace IbkrPlatform.Execution.DryRunParity

open Library Orders Sizing NewRiskGate RiskAuthority SettledCash Planning Rebalance Stages LiveOrders

variable {V : Type}

def dryRequest (r : Request) : Request := { r with dryRunOnly := true }

def liveRequest (r : Request) : Request := { r with dryRunOnly := false }

def dryPorts (desk : Desk V) (submit : Broker → Intent → Option (ℚ × ℚ) → V → Except Refusal (Report × Broker) × V) :
    Ports V :=
  { desk.toEnvironment with submit := submit }

/-- The documented behaviour of the platform kit: quantities are floored to a step, and targets are a dictionary. -/
structure Documented (kit : Kit) : Prop where
  floorsDown : kit.FloorsDown
  floorsMonotone : ∀ a b step, a ≤ b → kit.floorOrderQuantity a step ≤ kit.floorOrderQuantity b step
  keysDistinct : ∀ targets prices candidates safeHavens step limit,
    ((kit.applySmallAccountCompatibility targets prices candidates safeHavens step limit).map Prod.fst).Nodup

def accepting (currency : String) (intent : Intent) : Broker → Prop
  | .connection => True
  | .settled deadline => deadline.accepts (brokerOrder currency intent) = true

structure QuietVenue (desk : Desk V) (r : Request) : Prop where
  gate : desk.gateEnabled = false
  session : sessionAccepted desk = true
  bound : bindingMatches desk r = true
  currency : desk.currency = r.marketCurrency
  openLock : ∀ mode mode', desk.openLock mode = desk.openLock mode'
  writeLock : ∀ mode mode', desk.writeLock mode = desk.writeLock mode'
  readLock : ∀ mode mode', desk.readLock mode = desk.readLock mode'
  acquireClaim : ∀ v, desk.acquireClaim v = (.ok true, v)
  qualify : ∀ intent v, desk.qualify intent v = ([], .ok (), v)
  reserve : ∀ intent newRisk v, ∃ grant, desk.reserve intent newRisk v = (.ok grant, v)
  dispatch : ∀ grant intent f v, desk.dispatch grant intent f v = f v
  fills : ∀ intent broker v, accepting desk.currency intent broker → ∃ id heard placements, id ≠ "" ∧
    Dialogue.serve answerMove ⟨broker, [], []⟩ (desk.execute intent v) =
      (⟨broker, heard, placements⟩, .ok ⟨"Filled", some id, some intent.quantity, intent.limitPrice⟩, v)

section Planning

def Beside (v : V) (w : Live V) : Prop := w.outside = v

lemma sim_lift {α γ : Type} {R : α → γ → Prop} {x : Except Refusal α} {y : Except Refusal γ}
    (h : match x, y with
      | .ok a, .ok c => R a c
      | .error _, .error _ => True
      | _, _ => False) :
    Attempt.Sim (Beside (V := V)) R (lift x : Attempt V Stop α) (lift y : Attempt (Live V) Stop γ) := by
  intro v w hk
  rw [exec_lift, exec_lift]
  refine ⟨hk, ?_⟩
  cases x <;> cases y <;> exact h

lemma sim_call {α : Type} (f : V → Except Refusal α × V) :
    Attempt.Sim (Beside (V := V)) Eq (call f : Attempt V Stop α) (call (Live.call f) : Attempt (Live V) Stop α) := by
  rintro _ w rfl
  simp only [call, Attempt.exec_of, Live.call]
  cases f w.outside with
  | mk answer v => cases answer <;> exact ⟨rfl, by trivial⟩

lemma sim_total {α : Type} {f : V → α × V} {g : Live V → α × Live V}
    (h : ∀ w, (g w).1 = (f w.outside).1 ∧ (g w).2.outside = (f w.outside).2) :
    Attempt.Sim (Beside (V := V)) Eq (Attempt.total f : Attempt V Stop α) (Attempt.total g : Attempt (Live V) Stop α) := by
  rintro _ w rfl
  exact ⟨(h w).2, (h w).1.symm⟩

variable {kit : Kit} {desk : Desk V} {r : Request}

structure AuthorizedAlike (a b : Authorized) : Prop where
  allocation : a.allocation = b.allocation
  caps : a.caps = b.caps
  orderAccount : a.orderAccount = b.orderAccount

structure SurveyAlike (s t : Survey) : Prop where
  authorized : AuthorizedAlike s.authorized t.authorized
  admission : s.admission = none ∧ t.admission = none
  book : s.book = t.book
  observed : s.observed = t.observed

lemma sim_authorize {mode : String} (hmode : resolveExecutionMode (liveRequest r) = .ok mode)
    (effectiveToday : String → Option Bool) :
    Attempt.Sim (Beside (V := V)) AuthorizedAlike (lift (authorize (dryRequest r) effectiveToday))
      (lift (authorize (liveRequest r) effectiveToday)) := by
  refine sim_lift ?_
  have hdry : resolveExecutionMode (dryRequest r) = .ok "dry_run" := rfl
  have hdate : requireEffectiveDate (dryRequest r) effectiveToday = requireEffectiveDate (liveRequest r) effectiveToday := rfl
  have haccount : resolveOrderAccountId (dryRequest r) = resolveOrderAccountId (liveRequest r) := rfl
  have hmetadata : (dryRequest r).metadata = (liveRequest r).metadata := rfl
  have hprofile : (dryRequest r).strategyProfile = (liveRequest r).strategyProfile := rfl
  have haccounts : (dryRequest r).accountIds = (liveRequest r).accountIds := rfl
  unfold authorize
  simp only [hmode, hdry, hdate, haccount, hmetadata, hprofile, haccounts]
  cases requireEffectiveDate (liveRequest r) effectiveToday with
  | error => trivial
  | ok =>
    cases resolveWeightAllocation (liveRequest r).metadata with
    | error => trivial
    | ok allocation =>
      simp only [bind, Except.bind]
      cases requireLiveRiskAuthority (liveRequest r).metadata allocation (liveRequest r).strategyProfile
          (liveRequest r).accountIds with
      | error => trivial
      | ok caps =>
        cases (liveRequest r).metadata.optionOrderIntents.any OptionIntent.executable with
        | true => trivial
        | false =>
          cases resolveOrderAccountId (liveRequest r) with
          | error => trivial
          | ok account => exact ⟨rfl, rfl, rfl⟩

lemma sim_sizeTargets {a b : Authorized} (h : AuthorizedAlike a b) (equity : ℚ) (weights : List (Symbol × ℚ)) :
    Attempt.Sim (Beside (V := V)) Eq (sizeTargets kit desk.toEnvironment r a equity weights)
      (sizeTargets kit (traceEnvironment desk.toEnvironment) r b equity weights) := by
  unfold sizeTargets
  rw [← h.allocation, ← h.caps]
  refine Attempt.sim_bind (sim_call _) fun quoted quoted' hq => ?_
  subst hq
  dsimp only [traceEnvironment]
  split
  · exact Attempt.sim_throw
  · exact Attempt.sim_pure rfl

lemma sim_admitPaper (summary : Summary) :
    Attempt.Sim (Beside (V := V)) Eq (admitPaper desk.toEnvironment r summary)
      (admitPaper (traceEnvironment desk.toEnvironment) r summary) := by
  unfold admitPaper
  split
  · refine Attempt.sim_bind (sim_total fun _ => ⟨rfl, rfl⟩) fun allowed allowed' ha => ?_
    subst ha
    split
    · exact Attempt.sim_throw
    · exact Attempt.sim_pure rfl
  · exact Attempt.sim_pure rfl

lemma sim_observeAccount (b : Book) (summary : Summary) :
    Attempt.Sim (Beside (V := V)) Eq (observeAccount desk.toEnvironment r b summary)
      (observeAccount (traceEnvironment desk.toEnvironment) r b summary) := by
  refine Attempt.sim_bind (sim_total fun _ => ⟨rfl, rfl⟩) fun rows rows' hrows => ?_
  subst hrows
  dsimp only
  split
  · exact Attempt.sim_throw
  · split
    · exact Attempt.sim_throw
    · split
      · refine Attempt.sim_bind (sim_total fun _ => ⟨rfl, rfl⟩) fun cash cash' hcash => ?_
        subst hcash
        exact Attempt.sim_pure rfl
      · exact Attempt.sim_pure rfl

lemma sim_survey (hg : desk.gateEnabled = false) {mode : String}
    (hmode : resolveExecutionMode (liveRequest r) = .ok mode) :
    Attempt.Sim (Beside (V := V)) SurveyAlike (survey kit desk.toEnvironment (dryRequest r))
      (survey kit (traceEnvironment desk.toEnvironment) (liveRequest r)) := by
  refine Attempt.sim_bind (sim_authorize hmode _) fun a b hab => ?_
  have hequity : sizingEquity (dryRequest r) = sizingEquity (liveRequest r) := rfl
  dsimp only
  rw [hequity]
  cases sizingEquity (liveRequest r) with
  | none => exact Attempt.sim_throw
  | some equity =>
    refine Attempt.sim_bind (R := fun x y => x = none ∧ y = none) ?_ ?_
    · have hgate : (traceEnvironment desk.toEnvironment).gateEnabled = false := hg
      simp only [cycleAdmission, hg, hgate, Bool.not_false, if_true]
      exact Attempt.sim_pure ⟨rfl, rfl⟩
    · rintro _ _ ⟨rfl, rfl⟩
      refine Attempt.sim_bind (R := Eq) (hab.allocation ▸ Attempt.sim_pure rfl) fun weights weights' hw => ?_
      subst hw
      refine Attempt.sim_bind (sim_sizeTargets (r := liveRequest r) hab equity weights) fun book book' hb => ?_
      subst hb
      refine Attempt.sim_bind (sim_admitPaper (r := liveRequest r) _) fun _ _ _ => ?_
      refine Attempt.sim_bind (sim_observeAccount (r := liveRequest r) book _) fun o o' ho => ?_
      exact Attempt.sim_pure ⟨hab, ⟨rfl, rfl⟩, rfl, ho⟩

lemma sim_takeLock {r' : Request} (hq : QuietVenue desk r') (b : Book) (mode mode' : String) (summary : Summary) :
    Attempt.Sim (Beside (V := V)) Eq (takeLock desk.toEnvironment r b mode summary)
      (takeLock (traceEnvironment desk.toEnvironment) r b mode' summary) := by
  refine Attempt.sim_bind (sim_total fun _ => ⟨rfl, rfl⟩) fun fills fills' hf => ?_
  subst hf
  dsimp only
  split
  · exact Attempt.sim_throw
  · refine Attempt.sim_bind (R := Eq) ?_ fun created created' hc => ?_
    · unfold tryCreateLock
      rw [hq.openLock mode mode', hq.writeLock mode mode']
      refine Attempt.sim_bind (sim_total fun _ => ⟨rfl, rfl⟩) fun opened opened' ho => ?_
      subst ho
      rcases opened with (_ | refusal) | ⟨⟩
      · exact Attempt.sim_pure rfl
      · exact Attempt.sim_throw
      · exact Attempt.sim_bind (sim_call _) fun _ _ _ => Attempt.sim_pure rfl
    · subst hc
      split
      · exact Attempt.sim_pure rfl
      · rw [hq.readLock mode mode']
        exact Attempt.sim_bind (sim_call _) fun _ _ _ => Attempt.sim_throw

lemma settlePlan_dry {b : Book} {o : Observed} {blocked : Bool} {anticipated : ℚ} {summary : Summary} :
    settlePlan kit (dryRequest r) b o blocked false anticipated summary =
      settlePlan kit (liveRequest r) b o blocked false anticipated summary := by
  simp only [settlePlan, dryRequest, liveRequest, Bool.false_eq_true, and_false]

lemma sim_settle (hq : QuietVenue desk r) {s t : Survey} (h : SurveyAlike s t) :
    Attempt.Sim (Beside (V := V)) Eq (settle kit desk.toEnvironment (dryRequest r) s)
      (settle kit (traceEnvironment desk.toEnvironment) (liveRequest r) t) := by
  have hblocked : s.newRiskBlocked = t.newRiskBlocked := by
    simp [Survey.newRiskBlocked, Survey.prohibited, h.admission, h.observed]
  have hs : s.breakerUnavailable = false := by simp [Survey.breakerUnavailable, h.admission]
  have ht : t.breakerUnavailable = false := by simp [Survey.breakerUnavailable, h.admission]
  unfold settle
  dsimp only
  rw [hblocked, hs, ht, h.book, h.observed]
  refine Attempt.sim_bind (R := Eq) ?_ fun anticipated anticipated' ha => ?_
  · change Attempt.Sim _ _ (anticipate desk.toEnvironment (liveRequest r) t.observed) _
    unfold anticipate
    split
    · exact Attempt.sim_pure rfl
    · exact sim_total fun _ => ⟨rfl, rfl⟩
  · subst ha
    have hpower : (dryRequest r).buyingPower = (liveRequest r).buyingPower := rfl
    rw [settlePlan_dry, hpower]
    cases settlePlan kit (liveRequest r) t.book t.observed t.newRiskBlocked false anticipated
        (Summary.start (liveRequest r).buyingPower) with
    | error stop => exact Attempt.sim_throw
    | ok sweep =>
      refine Attempt.sim_bind (sim_takeLock (r := liveRequest r) hq _ _ _ _) fun summary summary' hsum => ?_
      subst hsum
      exact Attempt.sim_pure (by rw [h.authorized.orderAccount])

lemma sim_planRebalance (hq : QuietVenue desk r) {mode : String} (hmode : resolveExecutionMode (liveRequest r) = .ok mode) :
    Attempt.Sim (Beside (V := V)) Eq (planRebalance kit desk.toEnvironment (dryRequest r))
      (planRebalance kit (traceEnvironment desk.toEnvironment) (liveRequest r)) :=
  Attempt.sim_bind (sim_survey hq.gate hmode) fun _ _ h => sim_settle hq h

end Planning

section Submission

variable {kit : Kit} {desk : Desk V} {r : Request} {w : Live V} {intent : Intent}

structure Filled (intent : Intent) (broker : Broker) (w : Live V) (x : Except Refusal (Report × Broker) × Live V) : Prop where
  answer : ∃ id, id ≠ "" ∧ x.1 = .ok (⟨"Filled", some id, some intent.quantity, intent.limitPrice⟩, broker)
  outside : x.2.outside = w.outside

lemma Filled.eq {broker : Broker} {x : Except Refusal (Report × Broker) × Live V} (h : Filled intent broker w x) :
    ∃ id w', id ≠ "" ∧ w'.outside = w.outside ∧
      x = (.ok (⟨"Filled", some id, some intent.quantity, intent.limitPrice⟩, broker), w') := by
  obtain ⟨⟨id, hid, hanswer⟩, houtside⟩ := h
  exact ⟨id, x.2, hid, houtside, Prod.ext hanswer rfl⟩

lemma dispatchOrder_filled (hq : QuietVenue desk r) {broker : Broker} (ha : accepting desk.currency intent broker)
    (grant : Option Grant) (reduction : Option (ℚ × ℚ)) :
    Filled intent broker w ((dispatchOrder kit desk broker [] grant intent reduction).exec w) := by
  obtain ⟨id, heard, placements, hid, hserve⟩ := hq.fills intent broker w.outside ha
  simp only [dispatchOrder, Attempt.exec_of, hq.dispatch, submitOrderIntent, hq.gate, Bool.false_eq_true, if_false, hserve]
  exact ⟨⟨id, hid, rfl⟩, rfl⟩

lemma reserveIntent_exec (hq : QuietVenue desk r) (intent : Intent) (newRisk : Bool) (w : Live V) :
    ∃ grant, (reserveIntent desk intent newRisk).exec w = (.ok grant, w.log (.reserve intent)) := by
  obtain ⟨grant, hgrant⟩ := hq.reserve intent newRisk w.outside
  refine ⟨grant, ?_⟩
  simp only [reserveIntent, Attempt.exec_of, Live.call, hgrant]

lemma submitClaimedOrder_exec (hq : QuietVenue desk r) (broker : Broker) (reduction : Option (ℚ × ℚ)) :
    (submitClaimedOrder kit desk r broker intent reduction).exec w = (forwardOrder kit desk broker intent reduction).exec w := by
  have hsession : (requireSession desk r).exec w = (.ok (), w) := by simp [requireSession, hq.session, hq.bound]
  have hclaim : (requireClaim desk).exec w = (.ok (), w) := by
    simp [requireClaim, Attempt.exec_bind, Live.call, hq.acquireClaim]
  have hadmit : (admitNewRisk desk intent).exec w = (.ok (), w) := by simp [admitNewRisk, newRisk, hq.gate]
  unfold submitClaimedOrder
  rw [Attempt.exec_bind, hsession]
  dsimp only
  rw [Attempt.exec_bind, hclaim]
  dsimp only
  rw [Attempt.exec_bind, hadmit]

lemma session_broker (hq : QuietVenue desk r) : (sessionAccepted desk && decide (desk.binding.broker = "ibkr")) = true := by
  have hbound := hq.bound
  simp only [bindingMatches, decide_eq_true_eq] at hbound
  simp [hq.session, hbound.1]

lemma submitSell_filled (hq : QuietVenue desk r) (reduction : Option (ℚ × ℚ)) :
    Filled intent .connection w ((submitClaimedOrder kit desk r .connection intent reduction).exec w) := by
  obtain ⟨grant, hgrant⟩ := reserveIntent_exec hq intent (newRisk desk intent) w
  have hsent : Filled intent .connection ((w.log (.reserve intent)).log (.forward intent)) ((dispatchOrder kit desk
      .connection [] (some grant) intent reduction).exec ((w.log (.reserve intent)).log (.forward intent))) :=
    have haccepting : accepting desk.currency intent .connection := trivial
    dispatchOrder_filled hq haccepting _ _
  have hexec : (submitClaimedOrder kit desk r .connection intent reduction).exec w =
      (dispatchOrder kit desk .connection [] (some grant) intent reduction).exec
        ((w.log (.reserve intent)).log (.forward intent)) := by
    rw [submitClaimedOrder_exec hq]
    simp only [forwardOrder, grantFor, Attempt.exec_bind, hgrant, Attempt.exec_pure, Attempt.exec_total,
      submitMarketOrderIntent, session_broker hq, Bool.not_true, Bool.false_eq_true, if_false]
  exact hexec ▸ ⟨hsent.answer, hsent.outside⟩

lemma prepareIntent_entered {started investable reserved step minimum limit : ℚ} {currency : String}
    (hpos : 0 < intent.quantity) (hfloor : intent.quantity ≤ kit.floorOrderQuantity (investable * (95 / 100) / limit) step) :
    (Deadline.enter started intent.accountId currency investable reserved step minimum).prepareIntent kit intent limit =
      if intent.quantity * limit < minimum then
        ({ Deadline.enter started intent.accountId currency investable reserved step minimum with invalid := true }, none)
      else ({ Deadline.enter started intent.accountId currency investable reserved step minimum with
        preparedQuantity := some intent.quantity }, some intent) := by
  have hmin : min intent.quantity (kit.floorOrderQuantity (investable * (95 / 100) / limit) step) = intent.quantity :=
    min_eq_left hfloor
  simp only [Deadline.prepareIntent, Deadline.enter, hmin, Bool.false_or, Bool.or_eq_true, decide_eq_true_eq, not_le.mpr hpos,
    false_or]

inductive Bought (intent : Intent) (entered : Deadline) (w : Live V) (limit : ℚ) :
    Except Refusal (Report × Broker) × Live V → Prop
  | filled {x} (ha : intent.accountId.getD "" ≠ "") (hn : entered.minimumOrderNotional ≤ intent.quantity * limit)
      (h : Filled intent (.settled { entered with preparedQuantity := some intent.quantity }) w x) :
      Bought intent entered w limit x
  | rejected {w'} (hn : intent.quantity * limit < entered.minimumOrderNotional) (h : w'.outside = w.outside)
      (ha : intent.accountId.getD "" ≠ "") :
      Bought intent entered w limit (.ok (rejected, .settled { entered with invalid := true }), w')
  | mismatched {w'} (ha : intent.accountId.getD "" = "") (h : w'.outside = w.outside) :
      Bought intent entered w limit (.error .scopeMismatch, w')

lemma submitBuy_bought (hq : QuietVenue desk r) {started investable reserved step minimum limit : ℚ}
    (hside : intent.side = .buy) (hlimit : intent.limitPrice = some limit) (hpos : 0 < intent.quantity) (hl : 0 < limit)
    (hfits : intent.quantity * limit ≤ investable)
    (hfloor : intent.quantity ≤ kit.floorOrderQuantity (investable * (95 / 100) / limit) step) :
    Bought intent (Deadline.enter started intent.accountId r.marketCurrency investable reserved step minimum) w limit
      ((submitClaimedOrder kit desk r
        (.settled (Deadline.enter started intent.accountId r.marketCurrency investable reserved step minimum)) intent
        none).exec w) := by
  let entered := Deadline.enter started intent.accountId r.marketCurrency investable reserved step minimum
  change Bought intent entered w limit ((submitClaimedOrder kit desk r (.settled entered) intent none).exec w)
  have hexec : (submitClaimedOrder kit desk r (.settled entered) intent none).exec w =
      (submitPrepared kit desk entered intent limit none).exec (w.log (.forward intent)) := by
    rw [submitClaimedOrder_exec hq]
    simp only [forwardOrder, grantFor, Attempt.exec_bind, Attempt.exec_pure, Attempt.exec_total, submitMarketOrderIntent,
      session_broker hq, Bool.not_true, Bool.false_eq_true, if_false, hlimit]
  have hprepare : entered.prepareIntent kit intent limit = _ := prepareIntent_entered hpos hfloor
  have hqualify : ∀ u : Live V, (qualifyContract desk entered intent).exec u = (.ok (entered, []), u) := by
    intro u
    simp [qualifyContract, hq.qualify, Except.map]
  rw [hexec]
  unfold submitPrepared
  by_cases ha : intent.accountId.getD "" = ""
  · have hscope : entered.inScope intent desk.currency = false := by simp [Deadline.inScope, entered, Deadline.enter, ha]
    simp only [hscope, Bool.not_false, if_true, Attempt.exec_throw]
    exact .mismatched ha rfl
  · have hscope : entered.inScope intent desk.currency = true := by
      simp [Deadline.inScope, entered, Deadline.enter, ha, hq.currency]
    simp only [hscope, Bool.not_true, Bool.false_eq_true, if_false, Attempt.exec_bind, hqualify, hprepare]
    by_cases hn : intent.quantity * limit < minimum
    · simp only [if_pos hn, Attempt.exec_pure]
      exact .rejected hn rfl ha
    · simp only [if_neg hn, Attempt.exec_bind]
      obtain ⟨grant, hgrant⟩ := reserveIntent_exec hq intent true (w.log (.forward intent))
      rw [hgrant]
      have hready : accepting desk.currency intent (.settled { entered with preparedQuantity := some intent.quantity }) := by
        simp [accepting, Deadline.accepts, brokerOrder, entered, Deadline.enter, hside, hlimit, hq.currency, hpos, hl, hfits]
      let ready : Broker := .settled { entered with preparedQuantity := some intent.quantity }
      have hsent : Filled intent ready ((w.log (.forward intent)).log (.reserve intent)) ((dispatchOrder kit desk ready []
          (some grant) intent none).exec ((w.log (.forward intent)).log (.reserve intent))) :=
        dispatchOrder_filled hq hready _ _
      exact .filled ha (not_lt.mp hn) ⟨hsent.answer, hsent.outside⟩

end Submission

section Sells

variable {kit : Kit} {desk : Desk V} {r : Request} {plan : Plan} {p : Progress V} {q : Progress (Live V)}
  {submit : Broker → Intent → Option (ℚ × ℚ) → V → Except Refusal (Report × Broker) × V}

structure Alike (p : Progress V) (q : Progress (Live V)) : Prop where
  world : q.world.outside = p.world
  investable : q.investable = p.investable
  release : q.pendingSellRelease = p.pendingSellRelease
  listed : q.summary.ordersFilled.map Payload.order = p.summary.ordersSubmitted.map Payload.order

lemma outcome_filled {i : Intent} {id : String} {quantity price : Option ℚ} (hid : id ≠ "") :
    outcome (payload i ⟨"Filled", some id, quantity, price⟩) = .filled := by
  have hstrip : Text.strip "Filled" = "Filled" := by decide
  simp [outcome, payload, hstrip, knownStatuses, filledStatuses, hid]

lemma recordOrderOutcome_filled {s : Summary} {order : Payload} (h : outcome order = .filled) :
    recordOrderOutcome s order = { s with ordersFilled := s.ordersFilled ++ [order] } := by
  simp only [recordOrderOutcome, h]

lemma sellOrder_alike (hq : QuietVenue desk r) (h : Alike p q) {symbol : Symbol} {quantity price : ℚ} :
    Alike (sellOrder kit (dryPorts desk submit) (dryRequest r) plan p symbol quantity price).1
        (sellOrder kit (livePorts kit desk r) (liveRequest r) plan q symbol quantity price).1 ∧
      (sellOrder kit (dryPorts desk submit) (dryRequest r) plan p symbol quantity price).2 =
        (sellOrder kit (livePorts kit desk r) (liveRequest r) plan q symbol quantity price).2 := by
  unfold sellOrder
  dsimp only [dryRequest, liveRequest]
  split
  · exact ⟨h, rfl⟩
  · split
    · exact ⟨⟨h.world, h.investable, h.release, h.listed⟩, rfl⟩
    · have hsubmit : Filled (sellIntent plan symbol quantity) .connection q.world ((submitClaimedOrder kit desk r .connection
          (sellIntent plan symbol quantity) (if plan.newRiskBlocked then some (plan.book.quantity symbol, 0) else none)).exec
            q.world) := submitSell_filled hq _
      obtain ⟨id, w', hid, houtside, hexec⟩ := hsubmit.eq
      have hfilled : outcome (payload (sellIntent plan symbol quantity) ⟨"Filled", some id,
          some (sellIntent plan symbol quantity).quantity, (sellIntent plan symbol quantity).limitPrice⟩) = .filled :=
        outcome_filled hid
      simp only [Progress.submit, livePorts, hexec, hfilled, recordOrderOutcome_filled hfilled, Bool.false_eq_true,
        if_false, if_true]
      refine ⟨⟨houtside.trans h.world, h.investable, h.release, ?_⟩, trivial⟩
      simp [Progress.list, Summary.list, h.listed, payload, dryRunPayload, Payload.order]

lemma sellStep_alike (hq : QuietVenue desk r) (h : Alike p q) (symbol : Symbol) :
    Alike (sellStep kit (dryPorts desk submit) (dryRequest r) plan p symbol).1
        (sellStep kit (livePorts kit desk r) (liveRequest r) plan q symbol).1 ∧
      (sellStep kit (dryPorts desk submit) (dryRequest r) plan p symbol).2 =
        (sellStep kit (livePorts kit desk r) (liveRequest r) plan q symbol).2 := by
  unfold sellStep
  split
  · exact ⟨h, rfl⟩
  · exact ⟨⟨h.world, h.investable, h.release, h.listed⟩, rfl⟩
  · refine ⟨⟨h.world, h.investable, ?_, h.listed⟩, rfl⟩
    dsimp only
    rw [h.release]
  · exact sellOrder_alike hq h

lemma budgeted_alike (hc : r.cashOnlyExecution = true) (h : Alike p q) :
    Alike (budgeted (dryPorts desk submit) (dryRequest r) plan p) (budgeted (livePorts kit desk r) (liveRequest r) plan q) := by
  have hdry : (dryRequest r).cashOnlyExecution = true := hc
  have hlive : (liveRequest r).cashOnlyExecution = true := hc
  have hcash : (livePorts kit desk r).settledCash q.world =
      ((desk.settledCash p.world).1,
        Live.log { q.world with outside := (desk.settledCash p.world).2 } (.cash (desk.settledCash p.world).1)) := by
    rw [← h.world]
    rfl
  simp only [budgeted, buyingPowerAfterSells, hdry, hlive, if_true, hcash]
  exact ⟨rfl, rfl, h.release, h.listed⟩

lemma buysBlockedReason_alike (hc : r.cashOnlyExecution = true) (h : Alike p q) :
    (buysBlockedReason kit (livePorts kit desk r) (liveRequest r) plan q).1 =
        (buysBlockedReason kit (dryPorts desk submit) (dryRequest r) plan p).1 ∧
      (buysBlockedReason kit (livePorts kit desk r) (liveRequest r) plan q).2.outside =
        (buysBlockedReason kit (dryPorts desk submit) (dryRequest r) plan p).2 := by
  have hdry : (dryRequest r).cashOnlyExecution = true := hc
  have hlive : (liveRequest r).cashOnlyExecution = true := hc
  have hcash : (livePorts kit desk r).cashBalance q.world =
      ((desk.cashBalance p.world).1, { q.world with outside := (desk.cashBalance p.world).2 }) := by rw [← h.world]; rfl
  have hsmall : (dryRequest r).metadata.smallAccountWarning = (liveRequest r).metadata.smallAccountWarning := rfl
  have hports : (dryPorts desk submit).cashBalance p.world = desk.cashBalance p.world := rfl
  simp only [buysBlockedReason, hdry, hlive, hsmall, hcash, hports, h.release, h.investable, if_true, Bool.not_true,
    Bool.false_eq_true, if_false]
  split
  · exact ⟨rfl, rfl⟩
  · split
    · exact ⟨rfl, h.world⟩
    · split
      · exact ⟨rfl, h.world⟩
      · split
        · exact ⟨rfl, h.world⟩
        · split <;> exact ⟨rfl, rfl⟩

lemma startBuys_alike (hc : r.cashOnlyExecution = true) (h : Alike p q) :
    Alike (startBuys kit (dryPorts desk submit) (dryRequest r) plan p).1
        (startBuys kit (livePorts kit desk r) (liveRequest r) plan q).1 ∧
      (startBuys kit (livePorts kit desk r) (liveRequest r) plan q).2 =
        (startBuys kit (dryPorts desk submit) (dryRequest r) plan p).2 := by
  have hb : Alike (budgeted (dryPorts desk submit) (dryRequest r) plan p)
      (budgeted (livePorts kit desk r) (liveRequest r) plan q) := budgeted_alike hc h
  obtain ⟨hreason, hworld⟩ := buysBlockedReason_alike hc hb
  simp only [startBuys]
  refine ⟨⟨hworld, hb.investable, hb.release, ?_⟩, hreason⟩
  rw [hreason]
  split <;> exact hb.listed

end Sells

section Buys

/-- The buy that a target comes to once its budget is refreshed; `none` where it is passed over or refused. -/
def sizedAt (kit : Kit) (desk : Desk V) (plan : Plan) (p : Progress V) (started : ℚ) (symbol : Symbol) (target : ℚ) :
    Option (ℚ × ℚ) :=
  match buySize kit plan symbol target p.investable with
  | .quantity quantity limit =>
    let age := (desk.monotonic p.world).1 - started
    if buyAllowed plan symbol quantity limit ∧ 0 ≤ age ∧ age ≤ maxAge then some (quantity, limit) else none
  | _ => none

def buyAt (kit : Kit) (desk : Desk V) (plan : Plan) (p : Progress V) (t : Symbol × ℚ) : Option (ℚ × ℚ) :=
  if t.2 - plan.book.threshold ≤ plan.book.currentMv t.1 then none
  else
    let started := desk.monotonic p.world
    let observed := desk.settledCash started.2
    match observed.1 with
    | none => none
    | some cash => if cash ≤ 0 then none
      else sizedAt kit desk plan (refreshed plan p observed.1 observed.2) started.1 t.1 t.2

def Clear (plan : Plan) (buy : Option (ℚ × ℚ)) : Prop :=
  ∀ quantity limit, buy = some (quantity, limit) →
    plan.book.minimumOrderNotional ≤ quantity * limit ∧ plan.orderAccount.getD "" ≠ ""

variable {kit : Kit} {desk : Desk V} {r : Request} {plan : Plan} {p : Progress V} {q : Progress (Live V)}
  {submit : Broker → Intent → Option (ℚ × ℚ) → V → Except Refusal (Report × Broker) × V}

lemma buySize_fits (hk : Documented kit) (hmin : 0 ≤ plan.book.minimumOrderNotional) {symbol : Symbol}
    {target investable quantity limit : ℚ} (hl : 0 < limit)
    (h : buySize kit plan symbol target investable = .quantity quantity limit) :
    0 < quantity ∧ quantity * limit ≤ investable ∧
      quantity ≤ kit.floorOrderQuantity (investable * (95 / 100) / limit) plan.book.step := by
  unfold buySize at h
  extract_lets b buyValue at h
  split at h
  · cases h
  · split at h
    · cases h
    · rename_i hnotional
      extract_lets limit' planned at h
      split at h
      · cases h
      · rename_i quantity' hplanned
        have hvalue : buyValue ≤ investable * (95 / 100) := min_le_right _ _
        have hnonneg : 0 ≤ buyValue := hmin.trans (not_lt.mp hnotional)
        split at h
        · cases h
        · rename_i hfits
          obtain ⟨rfl, rfl⟩ := BuySize.quantity.inj h
          have hplan : planned = kit.floorOrderQuantity (buyValue / limit') b.step := by
            simp [planned, plannedBuyOrderQuantity, max_eq_right hl.le, hl]
          have hdown : planned * limit' ≤ buyValue := by
            rw [hplan, ← le_div_iff₀ hl]
            exact hk.floorsDown _ _ (div_nonneg hnonneg hl.le)
          have hwithin : ¬ investable < planned * limit' := by
            rw [not_lt]
            linarith
          have heq : quantity' = planned := if_neg hwithin
          rw [heq] at hfits ⊢
          push Not at hfits
          refine ⟨hfits.1, hfits.2, ?_⟩
          rw [hplan]
          exact hk.floorsMonotone _ _ _ (div_le_div_of_nonneg_right hvalue hl.le)

inductive Stepped (submitted filled : List Payload) (symbol : Symbol) (clear : Prop) :
    Progress V × Option Exit → Progress (Live V) × Option Exit → Prop
  | passed {x y} (hc : clear) (h : Alike x.1 y.1) (he : x.2 = y.2) (hl : x.1.summary.ordersSubmitted = submitted) :
      Stepped submitted filled symbol clear x y
  | bought {x y} (hc : clear) (h : Alike x.1 y.1) (hx : x.2 = none) (hy : y.2 = none) {order : Payload}
      (ho : order.symbol = symbol) (hl : x.1.summary.ordersSubmitted = submitted ++ [order]) :
      Stepped submitted filled symbol clear x y
  | dropped {x y} (hc : ¬ clear) (hx : x.2 = none) {order : Payload} (ho : order.symbol = symbol) (hside : order.side = .buy)
      (hl : x.1.summary.ordersSubmitted = submitted ++ [order]) (hf : y.1.summary.ordersFilled = filled) :
      Stepped submitted filled symbol clear x y

lemma buyAllowed_pos {symbol : Symbol} {quantity limit : ℚ} (h : buyAllowed plan symbol quantity limit = true) :
    0 < quantity ∧ 0 < limit := by
  unfold buyAllowed at h
  split at h
  · cases h
  · simp only [decide_eq_true_eq] at h
    exact ⟨h.2.1, h.2.2.1⟩

lemma live_monotonic (h : Alike p q) : (livePorts kit desk r).monotonic q.world =
    ((desk.monotonic p.world).1,
      Live.log { q.world with outside := (desk.monotonic p.world).2 } (.clock (desk.monotonic p.world).1)) := by
  rw [← h.world]
  rfl

lemma live_settledCash (w : Live V) : (livePorts kit desk r).settledCash w =
    ((desk.settledCash w.outside).1,
      Live.log { w with outside := (desk.settledCash w.outside).2 } (.cash (desk.settledCash w.outside).1)) := rfl

lemma outcome_rejected (i : Intent) : outcome (payload i rejected) = .failed := by
  have hstrip : Text.strip "rejected" = "rejected" := by decide
  simp [outcome, payload, rejected, hstrip, knownStatuses, filledStatuses, partiallyFilledStatuses, pendingStatuses,
    rejectedOrCancelledStatuses]

lemma recordOrderOutcome_failed {s : Summary} {order : Payload} (h : outcome order = .failed) :
    (recordOrderOutcome s order).ordersFilled = s.ordersFilled := by
  simp only [recordOrderOutcome, h]

lemma submitBuy_stepped (hk : Documented kit) (hq : QuietVenue desk r) (hc : r.cashOnlyExecution = true)
    (hmin : 0 ≤ plan.book.minimumOrderNotional) (h : Alike p q) {started target quantity limit : ℚ} {symbol : Symbol}
    (hsize : buySize kit plan symbol target p.investable = .quantity quantity limit)
    (hallowed : buyAllowed plan symbol quantity limit = true) :
    Stepped p.summary.ordersSubmitted q.summary.ordersFilled symbol (plan.book.minimumOrderNotional ≤ quantity * limit ∧ plan.orderAccount.getD "" ≠ "")
      ({ p.list (dryRunPayload (buyIntent plan symbol quantity limit)) with
        investable := p.investable - quantity * limit }, none)
      (submitBuy (livePorts kit desk r) (liveRequest r) plan q started symbol quantity limit) := by
  obtain ⟨-, hl⟩ := buyAllowed_pos hallowed
  obtain ⟨hpos, hfits, hfloor⟩ := buySize_fits hk hmin hl hsize
  let entered := Deadline.enter started plan.orderAccount r.marketCurrency q.investable plan.book.reserved plan.book.step
    plan.book.minimumOrderNotional
  have hbroker : buyBroker (liveRequest r) plan started q.investable = .settled entered := by
    simp [buyBroker, liveRequest, hc, entered]
  have hsubmit : Bought (buyIntent plan symbol quantity limit) entered q.world limit
      ((submitClaimedOrder kit desk r (.settled entered) (buyIntent plan symbol quantity limit) none).exec q.world) :=
    submitBuy_bought hq rfl rfl hpos hl (h.investable ▸ hfits) (h.investable ▸ hfloor)
  simp only [submitBuy, Progress.submit, livePorts, hbroker]
  cases hx : (submitClaimedOrder kit desk r (.settled entered) (buyIntent plan symbol quantity limit) none).exec q.world with
  | mk answer w' =>
    rw [hx] at hsubmit
    cases hsubmit with
    | filled ha hn hfilled =>
      obtain ⟨id, w'', hid, houtside, heq⟩ := hfilled.eq
      cases heq
      have houtcome : outcome (payload { buyIntent plan symbol quantity limit with
          quantity := preparedQuantity quantity (.settled { entered with preparedQuantity := some quantity }) }
            ⟨"Filled", some id, some quantity, some limit⟩) = .filled := outcome_filled hid
      have hremaining : remaining q.investable (.settled { entered with preparedQuantity := some quantity }) = p.investable := by
        simp [remaining, entered, Deadline.enter, h.investable]
      simp only [buyIntent] at houtcome ⊢
      simp only [houtcome, recordOrderOutcome_filled houtcome, hremaining]
      refine .bought ⟨hn, ha⟩ ⟨houtside.trans h.world, rfl, h.release, ?_⟩ rfl rfl rfl rfl
      simp [Progress.list, Summary.list, h.listed, payload, dryRunPayload, Payload.order, preparedQuantity]
    | rejected hn houtside ha =>
      have houtcome : outcome (payload { buyIntent plan symbol quantity limit with
          quantity := preparedQuantity quantity (.settled { entered with invalid := true }) } rejected) = .failed :=
        outcome_rejected _
      simp only [houtcome]
      exact .dropped (fun hclear => absurd hclear.1 (not_le.mpr hn)) rfl rfl rfl rfl (recordOrderOutcome_failed houtcome)
    | mismatched ha houtside => exact .dropped (fun hclear => hclear.2 ha) rfl rfl rfl rfl rfl

lemma clear_none : Clear plan none := fun _ _ h => by cases h

lemma clear_some {quantity limit : ℚ} : Clear plan (some (quantity, limit)) ↔
    plan.book.minimumOrderNotional ≤ quantity * limit ∧ plan.orderAccount.getD "" ≠ "" := by
  constructor
  · exact fun h => h quantity limit rfl
  · rintro h _ _ ⟨⟩
    exact h

section Steps

variable (hk : Documented kit) (hq : QuietVenue desk r) (hc : r.cashOnlyExecution = true)
  (hmin : 0 ≤ plan.book.minimumOrderNotional)

include hk hq hc hmin in
lemma sizedBuy_stepped (h : Alike p q) (started : ℚ) (symbol : Symbol) (target : ℚ) :
    Stepped p.summary.ordersSubmitted q.summary.ordersFilled symbol (Clear plan (sizedAt kit desk plan p started symbol target))
      (sizedBuy kit (dryPorts desk submit) (dryRequest r) plan p started symbol target)
      (sizedBuy kit (livePorts kit desk r) (liveRequest r) plan q started symbol target) := by
  have hpassed : ∀ {x : Progress V} {y : Progress (Live V)} {e : Option Exit} {buy : Option (ℚ × ℚ)}, buy = none → Alike x y →
      x.summary.ordersSubmitted = p.summary.ordersSubmitted →
      Stepped p.summary.ordersSubmitted q.summary.ordersFilled symbol (Clear plan buy) (x, e) (y, e) :=
    fun hb hxy hl => .passed (hb ▸ clear_none) hxy rfl hl
  unfold sizedBuy sizedAt
  rw [h.investable]
  cases hsize : buySize kit plan symbol target p.investable with
  | missingPrice => exact hpassed rfl ⟨h.world, h.investable, h.release, h.listed⟩ rfl
  | minNotional => exact hpassed rfl ⟨h.world, h.investable, h.release, h.listed⟩ rfl
  | quantityZero => exact hpassed rfl ⟨h.world, h.investable, h.release, h.listed⟩ rfl
  | insufficientBuyingPower => exact hpassed rfl ⟨h.world, h.investable, h.release, h.listed⟩ rfl
  | quantity quantity limit =>
    dsimp only
    unfold buyOrder
    cases hallowed : buyAllowed plan symbol quantity limit with
    | false => exact hpassed (by simp) h rfl
    | true =>
      have hdry : (dryRequest r).cashOnlyExecution = true := hc
      have hlive : (liveRequest r).cashOnlyExecution = true := hc
      have hnow : (dryPorts desk submit).monotonic p.world = desk.monotonic p.world := rfl
      have hdryRun : (dryRequest r).dryRunOnly = true := rfl
      have hliveRun : (liveRequest r).dryRunOnly = false := rfl
      simp only [hdry, hlive, hdryRun, hliveRun, hnow, if_true, live_monotonic h, Bool.not_true, Bool.false_eq_true, if_false,
        true_and]
      have hlater : Alike { p with world := (desk.monotonic p.world).2 }
          { q with world := Live.log { q.world with outside := (desk.monotonic p.world).2 } (.clock (desk.monotonic p.world).1) } :=
        ⟨rfl, h.investable, h.release, h.listed⟩
      by_cases hage : 0 ≤ (desk.monotonic p.world).1 - started ∧ (desk.monotonic p.world).1 - started ≤ maxAge
      · simp only [hage, not_true, and_self, if_true, if_false, clear_some]
        exact submitBuy_stepped hk hq hc hmin hlater hsize hallowed
      · simp only [hage, not_false_eq_true, if_true, if_false]
        exact hpassed rfl ⟨hlater.world, hlater.investable, hlater.release, hlater.listed⟩ rfl

include hk hq hc hmin in
lemma buyStep_stepped (h : Alike p q) (t : Symbol × ℚ) :
    Stepped p.summary.ordersSubmitted q.summary.ordersFilled t.1 (Clear plan (buyAt kit desk plan p t))
      (buyStep kit (dryPorts desk submit) (dryRequest r) plan p t)
      (buyStep kit (livePorts kit desk r) (liveRequest r) plan q t) := by
  unfold buyStep buyAt
  have hdry : (dryRequest r).cashOnlyExecution = true := hc
  have hlive : (liveRequest r).cashOnlyExecution = true := hc
  by_cases hdown : t.2 - plan.book.threshold ≤ plan.book.currentMv t.1
  · simp only [if_pos hdown]
    exact .passed clear_none h rfl rfl
  · have hnow : (dryPorts desk submit).monotonic p.world = desk.monotonic p.world := rfl
    have hcash : ∀ v, (dryPorts desk submit).settledCash v = desk.settledCash v := fun _ => rfl
    simp only [if_neg hdown, hdry, hlive, hnow, hcash, Bool.not_true, Bool.false_eq_true, if_false, live_monotonic h,
      live_settledCash, Live.log_outside]
    have hrefreshed : ∀ (observed : Option ℚ × V) (acts : List Act), Alike (refreshed plan p observed.1 observed.2)
        (refreshed plan q observed.1 (Live.log ⟨observed.2, acts⟩ (.cash observed.1))) := fun observed acts =>
      ⟨rfl, by rw [refreshed, refreshed, h.investable], h.release, h.listed⟩
    generalize desk.settledCash (desk.monotonic p.world).2 = observed
    have halike := hrefreshed observed (Live.log ⟨(desk.monotonic p.world).2, q.world.acts⟩ (.clock (desk.monotonic p.world).1)).acts
    obtain ⟨_ | cash, v⟩ := observed
    · exact .passed clear_none ⟨halike.world, halike.investable, h.release, h.listed⟩ rfl rfl
    · dsimp only at halike ⊢
      by_cases hpositive : cash ≤ 0
      · simp only [if_pos hpositive]
        exact .passed clear_none ⟨halike.world, halike.investable, h.release, h.listed⟩ rfl rfl
      · simp only [if_neg hpositive]
        exact sizedBuy_stepped hk hq hc hmin halike _ _ _

end Steps

section Lists

variable {W : Type} {ports : Ports W} {s : Summary}

structure Grown (symbol : Symbol) (s s' : Summary) : Prop where
  submitted : s.ordersSubmitted ⊆ s'.ordersSubmitted
  filled : ∀ o ∈ s'.ordersFilled, o ∈ s.ordersFilled ∨ o.symbol = symbol

lemma Grown.same {symbol : Symbol} {s s' : Summary} (hs : s'.ordersSubmitted = s.ordersSubmitted)
    (hf : s'.ordersFilled = s.ordersFilled) : Grown symbol s s' :=
  ⟨hs ▸ List.Subset.refl _, fun _ ho => .inl (hf ▸ ho)⟩

lemma grown_record (s : Summary) {order : Payload} {symbol : Symbol} (hs : order.symbol = symbol) :
    Grown symbol s (recordOrderOutcome s order) := by
  refine ⟨(recordOrderOutcome_ordersSubmitted s order).symm ▸ List.Subset.refl _, fun o ho => ?_⟩
  cases h : outcome order with
  | filled =>
    rw [recordOrderOutcome_filled h] at ho
    rcases List.mem_append.mp ho with ho | ho
    · exact .inl ho
    · exact .inr (by rw [List.mem_singleton.mp ho, hs])
  | _ =>
    simp only [recordOrderOutcome, h] at ho
    exact .inl ho

lemma submitBuy_grown {p : Progress W} {started quantity limit : ℚ} {symbol : Symbol} :
    Grown symbol p.summary (submitBuy ports r plan p started symbol quantity limit).1.summary := by
  simp only [submitBuy, Progress.submit]
  cases (ports.submit (buyBroker r plan started p.investable) (buyIntent plan symbol quantity limit) none p.world).1 with
  | error refusal => exact .same rfl rfl
  | ok answer =>
    have hg : Grown symbol p.summary (recordOrderOutcome p.summary (payload { buyIntent plan symbol quantity limit with
        quantity := preparedQuantity quantity answer.2 } answer.1)) := grown_record p.summary rfl
    dsimp only
    split <;> exact hg

lemma buyStep_grown (p : Progress W) (t : Symbol × ℚ) :
    Grown t.1 p.summary (buyStep kit ports r plan p t).1.summary := by
  have hsized : ∀ (p : Progress W) started, Grown t.1 p.summary (sizedBuy kit ports r plan p started t.1 t.2).1.summary := by
    intro p started
    unfold sizedBuy
    split
    · exact .same rfl rfl
    · exact .same rfl rfl
    · exact .same rfl rfl
    · exact .same rfl rfl
    · rename_i quantity limit _
      unfold buyOrder
      split
      · exact .same rfl rfl
      · extract_lets now q
        split
        · exact .same rfl rfl
        · split
          · exact ⟨fun o ho => List.mem_append_left _ ho, fun _ => .inl⟩
          · have hg : Grown t.1 q.summary (submitBuy ports r plan q started t.1 quantity limit).1.summary := submitBuy_grown
            exact hg
  unfold buyStep
  split
  · exact .same rfl rfl
  · split
    · exact hsized p 0
    · extract_lets started observed q
      split
      · exact .same rfl rfl
      · split
        · exact .same rfl rfl
        · exact hsized q started.1

lemma buys_grown (xs : List (Symbol × ℚ)) (p : Progress W) :
    p.summary.ordersSubmitted ⊆ (EarlyExit.loop (buyStep kit ports r plan) p xs).1.summary.ordersSubmitted ∧
      ∀ o ∈ (EarlyExit.loop (buyStep kit ports r plan) p xs).1.summary.ordersFilled,
        o ∈ p.summary.ordersFilled ∨ o.symbol ∈ xs.map Prod.fst := by
  refine EarlyExit.loop_invariant (I := fun q : Progress W => p.summary.ordersSubmitted ⊆ q.summary.ordersSubmitted ∧
    ∀ o ∈ q.summary.ordersFilled, o ∈ p.summary.ordersFilled ∨ o.symbol ∈ xs.map Prod.fst) (fun q t ht hq => ?_)
    ⟨List.Subset.refl _, fun _ => .inl⟩
  have hg : Grown t.1 q.summary (buyStep kit ports r plan q t).1.summary := buyStep_grown q t
  refine ⟨List.Subset.trans hq.1 hg.submitted, fun o ho => ?_⟩
  rcases hg.filled o ho with ho | ho
  · exact hq.2 o ho
  · exact .inr (ho ▸ List.mem_map_of_mem ht)

lemma buys_filled_after {t : Symbol × ℚ} {rest : List (Symbol × ℚ)} {q : Progress W} {o : Payload}
    (ho : o ∈ (EarlyExit.loop (buyStep kit ports r plan) q (t :: rest)).1.summary.ordersFilled) :
    o ∈ (buyStep kit ports r plan q t).1.summary.ordersFilled ∨ o.symbol ∈ rest.map Prod.fst := by
  cases he : (buyStep kit ports r plan q t).2 with
  | none =>
    rw [EarlyExit.loop_continue he] at ho
    exact (buys_grown rest _).2 o ho
  | some exit =>
    rw [EarlyExit.loop_exit he] at ho
    exact .inl ho

end Lists

section Loops

variable (hk : Documented kit) (hq : QuietVenue desk r) (hc : r.cashOnlyExecution = true)
  (hmin : 0 ≤ plan.book.minimumOrderNotional)

abbrev dryStep (kit : Kit) (desk : Desk V) (submit : Broker → Intent → Option (ℚ × ℚ) → V → Except Refusal (Report × Broker) × V)
    (r : Request) (plan : Plan) : Progress V → Symbol × ℚ → Progress V × Option Exit :=
  buyStep kit (dryPorts desk submit) (dryRequest r) plan

abbrev liveStep (kit : Kit) (desk : Desk V) (r : Request) (plan : Plan) :
    Progress (Live V) → Symbol × ℚ → Progress (Live V) × Option Exit :=
  buyStep kit (livePorts kit desk r) (liveRequest r) plan

def Clears (kit : Kit) (desk : Desk V) (plan : Plan) (p : Progress V) (t : Symbol × ℚ) : Prop :=
  Clear plan (buyAt kit desk plan p t)

include hk hq hc hmin in
lemma buys_alike (h : Alike p q) {xs : List (Symbol × ℚ)}
    (hclear : EarlyExit.Along (Clears kit desk plan) (dryStep kit desk submit r plan) p xs) :
    Alike (EarlyExit.loop (dryStep kit desk submit r plan) p xs).1 (EarlyExit.loop (liveStep kit desk r plan) q xs).1 ∧
      (EarlyExit.loop (dryStep kit desk submit r plan) p xs).2 = (EarlyExit.loop (liveStep kit desk r plan) q xs).2 := by
  refine EarlyExit.loop_simulation_along (R := Alike) (fun p q t _ h hp => ?_) h hclear
  have hstep : Stepped p.summary.ordersSubmitted q.summary.ordersFilled t.1 (Clears kit desk plan p t)
      (dryStep kit desk submit r plan p t) (liveStep kit desk r plan q t) := buyStep_stepped hk hq hc hmin h t
  cases hstep with
  | passed _ halike he _ => exact ⟨halike, he⟩
  | bought _ halike hx hy _ _ => exact ⟨halike, hx.trans hy.symm⟩
  | dropped hn _ _ _ _ _ => exact absurd hp hn

def Diverges (kit : Kit) (desk : Desk V) (submit : Broker → Intent → Option (ℚ × ℚ) → V → Except Refusal (Report × Broker) × V)
    (r : Request) (plan : Plan) (p : Progress V) (q : Progress (Live V)) (xs : List (Symbol × ℚ)) : Prop :=
  ∃ symbol ∈ xs.map Prod.fst,
    (∃ o ∈ (EarlyExit.loop (dryStep kit desk submit r plan) p xs).1.summary.ordersSubmitted, o.symbol = symbol ∧ o.side = .buy) ∧
      ∀ o ∈ (EarlyExit.loop (liveStep kit desk r plan) q xs).1.summary.ordersFilled, o.symbol = symbol →
        o.order ∈ q.summary.ordersFilled.map Payload.order

lemma Diverges.cons {t : Symbol × ℚ} {rest : List (Symbol × ℚ)} (hfresh : t.1 ∉ rest.map Prod.fst)
    (h : Diverges kit desk submit r plan (dryStep kit desk submit r plan p t).1 (liveStep kit desk r plan q t).1 rest)
    (hdry : (dryStep kit desk submit r plan p t).2 = none) (hlive : (liveStep kit desk r plan q t).2 = none)
    (hfilled : ∀ o ∈ (liveStep kit desk r plan q t).1.summary.ordersFilled.map Payload.order,
      o ∈ q.summary.ordersFilled.map Payload.order ∨ o.symbol = t.1) :
    Diverges kit desk submit r plan p q (t :: rest) := by
  obtain ⟨symbol, hs, hbought, hkept⟩ := h
  refine ⟨symbol, List.mem_cons_of_mem _ hs, ?_, fun o ho hsymbol => ?_⟩
  · rw [EarlyExit.loop_continue hdry]
    exact hbought
  · rw [EarlyExit.loop_continue hlive] at ho
    rcases hfilled _ (hkept o ho hsymbol) with hm | hm
    · exact hm
    · have heq : symbol = t.1 := hsymbol.symm.trans hm
      exact absurd (heq ▸ hs) hfresh

include hk hq hc hmin in
lemma buys_diverge {xs : List (Symbol × ℚ)} (hnodup : (xs.map Prod.fst).Nodup) (h : Alike p q)
    (hclear : ¬ EarlyExit.Along (Clears kit desk plan) (dryStep kit desk submit r plan) p xs) :
    Diverges kit desk submit r plan p q xs := by
  induction xs generalizing p q with
  | nil => exact absurd trivial hclear
  | cons t rest ih =>
    obtain ⟨hfresh, hrest⟩ := List.nodup_cons.mp hnodup
    have hgoes : Clears kit desk plan p t → (dryStep kit desk submit r plan p t).2 = none ∧ ¬ EarlyExit.Along
        (Clears kit desk plan) (dryStep kit desk submit r plan) (dryStep kit desk submit r plan p t).1 rest := by
      intro hfirst
      by_contra hn
      exact hclear ⟨hfirst, fun he => by_contra fun ha => hn ⟨he, ha⟩⟩
    have hstep : Stepped p.summary.ordersSubmitted q.summary.ordersFilled t.1 (Clears kit desk plan p t)
        (dryStep kit desk submit r plan p t) (liveStep kit desk r plan q t) := buyStep_stepped hk hq hc hmin h t
    cases hstep with
    | passed hfirst halike he hl =>
      obtain ⟨hx, hafter⟩ := hgoes hfirst
      refine (ih hrest halike hafter).cons hfresh hx (he ▸ hx) fun o ho => .inl ?_
      rwa [halike.listed, hl, ← h.listed] at ho
    | bought hfirst halike hx hy hs hl =>
      refine (ih hrest halike (hgoes hfirst).2).cons hfresh hx hy fun o ho => ?_
      rw [halike.listed, hl, List.map_append, ← h.listed, List.mem_append] at ho
      rcases ho with ho | ho
      · exact .inl ho
      · rw [List.mem_singleton.mp ho]
        exact .inr hs
    | dropped hn hx hs hside hl hf =>
      refine ⟨t.1, List.mem_cons_self, ?_, fun o hm ho => ?_⟩
      · rw [EarlyExit.loop_continue hx]
        refine ⟨_, (buys_grown rest _).1 ?_, hs, hside⟩
        rw [hl]
        exact List.mem_append_right _ (List.mem_singleton_self _)
      · rcases buys_filled_after hm with hm | hm
        · exact List.mem_map_of_mem (hf ▸ hm)
        · exact absurd (ho ▸ hm) hfresh

end Loops

end Buys

section Runs

variable {kit : Kit} {desk : Desk V} {r : Request} {plan : Plan}
  {submit : Broker → Intent → Option (ℚ × ℚ) → V → Except Refusal (Report × Broker) × V}

lemma finish_lists (buyingPower : ℚ) (s : Summary) : (finish r buyingPower s).ordersSubmitted = s.ordersSubmitted ∧
    (finish r buyingPower s).ordersFilled = s.ordersFilled := by
  unfold finish
  extract_lets t terminal ended
  change ended.ordersSubmitted = s.ordersSubmitted ∧ ended.ordersFilled = s.ordersFilled
  unfold ended
  split
  · exact ⟨rfl, rfl⟩
  · split
    · exact ⟨rfl, rfl⟩
    · split <;> exact ⟨rfl, rfl⟩

lemma executePlan_exit {W : Type} {ports : Ports W} {w : W} {exit : Exit} (h : (sells kit ports r plan w).2 = some exit) :
    executePlan kit ports r plan w = (sells kit ports r plan w).1.run exit.ending := by
  simp only [executePlan, h]

lemma executePlan_lists {W : Type} {ports : Ports W} {w : W} {sold : Progress W × Option Exit} {start : Progress W × Option Reason}
    {bought : Progress W × Option Exit} (hsold : sells kit ports r plan w = sold) (hnone : sold.2 = none)
    (hstart : startBuys kit ports r plan sold.1 = start) (hbought : buys kit ports r plan start.1 start.2 = bought) :
    (executePlan kit ports r plan w).summary.ordersSubmitted = bought.1.summary.ordersSubmitted ∧
      (executePlan kit ports r plan w).summary.ordersFilled = bought.1.summary.ordersFilled := by
  unfold executePlan
  rw [hsold]
  simp only [hnone, hstart, hbought]
  split
  · exact ⟨rfl, rfl⟩
  · exact finish_lists _ _

lemma plan_book {e : Environment V} {v v' : V} (hk : Documented kit)
    (h : (planRebalance kit e r).exec v = (.ok plan, v')) :
    0 ≤ plan.book.minimumOrderNotional ∧ (plan.book.targetMv.map Prod.fst).Nodup := by
  obtain ⟨s, v₁, hsurvey, hsettle⟩ := planRebalance_ok h
  obtain ⟨_, hbook, _⟩ := settle_ok hsettle
  obtain ⟨equity, weights, _, _, _, _, _, _, _, _, hsize, _⟩ := survey_ok hsurvey
  obtain ⟨prices, targets, hb, htargets, _⟩ := sizeTargets_ok hsize
  rw [hbook, hb]
  refine ⟨le_max_left _ _, ?_⟩
  rw [htargets]
  exact hk.keysDistinct _ _ _ _ _ _

/-- Every buy that the shared rules size for the dry run, target by target, still reaches the minimum notional once its
quantity is floored, and an account is configured to take it. -/
def BuysClear (kit : Kit) (desk : Desk V) (submit : Broker → Intent → Option (ℚ × ℚ) → V → Except Refusal (Report × Broker) × V)
    (r : Request) (v : V) : Prop :=
  ∀ plan w, (planRebalance kit desk.toEnvironment (dryRequest r)).exec v = (.ok plan, w) →
    let sold := sells kit (dryPorts desk submit) (dryRequest r) plan w
    let start := startBuys kit (dryPorts desk submit) (dryRequest r) plan sold.1
    sold.2 = none → start.2 = none →
      EarlyExit.Along (Clears kit desk plan) (dryStep kit desk submit r plan) start.1 plan.book.targetMv

def dryOrders (kit : Kit) (desk : Desk V) (submit : Broker → Intent → Option (ℚ × ℚ) → V → Except Refusal (Report × Broker) × V)
    (r : Request) (v : V) : List Order :=
  (executeRebalance kit (dryPorts desk submit) (dryRequest r) v).summary.ordersSubmitted.map Payload.order

def liveOrders (kit : Kit) (desk : Desk V) (r : Request) (v : V) : List Order :=
  (executeRebalance kit (livePorts kit desk (liveRequest r)) (liveRequest r) ⟨v, []⟩).summary.ordersFilled.map Payload.order

lemma blocked_alike {p : Progress V} {q : Progress (Live V)} (h : Alike p q) (reason : Reason) (xs : List (Symbol × ℚ)) :
    Alike (EarlyExit.loop (blockedStep plan reason) p xs).1 (EarlyExit.loop (blockedStep plan reason) q xs).1 ∧
      (EarlyExit.loop (blockedStep plan reason) p xs).2 = (EarlyExit.loop (blockedStep plan reason) q xs).2 := by
  refine EarlyExit.loop_simulation (R := Alike) (fun p q t _ h => ?_) h
  unfold blockedStep
  split
  · exact ⟨⟨h.world, h.investable, h.release, h.listed⟩, rfl⟩
  · exact ⟨h, rfl⟩

lemma executePlan_parity (hk : Documented kit) (hq : QuietVenue desk r) (hc : r.cashOnlyExecution = true)
    {w : Live V} (hmin : 0 ≤ plan.book.minimumOrderNotional) (hkeys : (plan.book.targetMv.map Prod.fst).Nodup)
    (hsubmitted : plan.summary.ordersSubmitted = []) (hfilled : plan.summary.ordersFilled = []) :
    let sold := sells kit (dryPorts desk submit) (dryRequest r) plan w.outside
    let start := startBuys kit (dryPorts desk submit) (dryRequest r) plan sold.1
    (executePlan kit (dryPorts desk submit) (dryRequest r) plan w.outside).summary.ordersSubmitted.map Payload.order =
        (executePlan kit (livePorts kit desk r) (liveRequest r) plan w).summary.ordersFilled.map Payload.order ↔
      (sold.2 = none → start.2 = none →
        EarlyExit.Along (Clears kit desk plan) (dryStep kit desk submit r plan) start.1 plan.book.targetMv) := by
  extract_lets sold start
  let liveSold := sells kit (livePorts kit desk r) (liveRequest r) plan w
  let liveStart := startBuys kit (livePorts kit desk r) (liveRequest r) plan liveSold.1
  have hsold : Alike sold.1 liveSold.1 ∧ sold.2 = liveSold.2 := by
    refine EarlyExit.loop_simulation (R := Alike) (fun p q symbol _ h => sellStep_alike hq h symbol) ?_
    exact ⟨rfl, rfl, rfl, by simp [startSells, hsubmitted, hfilled]⟩
  obtain ⟨halike, hexit⟩ := hsold
  cases he : sold.2 with
  | some exit =>
    have hdry : executePlan kit (dryPorts desk submit) (dryRequest r) plan w.outside = sold.1.run exit.ending :=
      executePlan_exit he
    have hlive : executePlan kit (livePorts kit desk r) (liveRequest r) plan w = liveSold.1.run exit.ending :=
      executePlan_exit (hexit ▸ he)
    rw [hdry, hlive]
    exact iff_of_true halike.listed.symm fun h => absurd h (by simp)
  | none =>
    obtain ⟨hstart, hreason⟩ : Alike start.1 liveStart.1 ∧ liveStart.2 = start.2 := startBuys_alike hc halike
    let bought := buys kit (dryPorts desk submit) (dryRequest r) plan start.1 start.2
    let liveBought := buys kit (livePorts kit desk r) (liveRequest r) plan liveStart.1 liveStart.2
    have hdry : _ ∧ (executePlan kit (dryPorts desk submit) (dryRequest r) plan w.outside).summary.ordersFilled =
        bought.1.summary.ordersFilled := executePlan_lists rfl he rfl rfl
    have hlive : _ ∧ (executePlan kit (livePorts kit desk r) (liveRequest r) plan w).summary.ordersFilled =
        liveBought.1.summary.ordersFilled := executePlan_lists rfl (hexit ▸ he) rfl rfl
    rw [hdry.1, hlive.2]
    unfold bought liveBought
    rw [hreason]
    cases hblocked : start.2 with
    | some reason => exact iff_of_true (blocked_alike hstart reason _).1.listed.symm fun _ h => absurd h (by simp)
    | none =>
      simp only [buys, true_imp_iff]
      constructor
      · intro hlists
        by_contra hclear
        obtain ⟨symbol, _, ⟨o, ho, hsymbol, hside⟩, hkept⟩ := buys_diverge hk hq hc hmin hkeys hstart hclear
        -- the dry run lists a buy of the symbol, and all that the live run has filled of it are sells
        obtain ⟨o', ho', horder⟩ := List.mem_map.mp (hlists ▸ List.mem_map_of_mem ho)
        have hfilled' := hkept o' ho' ((congrArg Order.symbol horder).trans hsymbol)
        rw [hstart.listed] at hfilled'
        have hsells : BuyBlocks.All (fun o => o.side = .sell) start.1 := by
          intro o ho
          rw [show start.1.orders = sold.1.orders from BuyBlocks.startBuys_orders] at ho
          have hall : BuyBlocks.All (fun o => o.side = .sell) sold.1 := BuyBlocks.sells_all hsubmitted fun _ _ _ _ => rfl
          exact hall o ho
        have hsell : o'.order.side = .sell := hsells _ (List.mem_append_right _ hfilled')
        rw [horder] at hsell
        exact absurd (hside.symm.trans hsell) (by decide)
      · exact fun hclear => (buys_alike hk hq hc hmin hstart hclear).1.listed.symm

lemma unlisted_stopped {W : Type} {w : W} {stop : Stop} (h : Blank stop) : Unlisted (stopped r w stop).summary := by
  cases stop with
  | raised refusal => exact unlisted_start _
  | returned summary => exact h summary rfl

/-- The dry run lists the orders that the live run fills exactly where every buy is clear. -/
theorem dry_run_parity (hk : Documented kit) (hq : QuietVenue desk r) (hc : r.cashOnlyExecution = true) {mode : String}
    (hmode : resolveExecutionMode (liveRequest r) = .ok mode) (v : V) :
    dryOrders kit desk submit r v = liveOrders kit desk r v ↔ BuysClear kit desk submit r v := by
  have hplans : Attempt.Sim Beside Eq (planRebalance kit desk.toEnvironment (dryRequest r))
      (planRebalance kit (traceEnvironment desk.toEnvironment) (liveRequest r)) := sim_planRebalance hq hmode
  obtain ⟨hworld, hanswer⟩ := hplans v ⟨v, []⟩ rfl
  have hports : livePorts kit desk (liveRequest r) = livePorts kit desk r := rfl
  have hlivePlan : (livePorts kit desk r).toEnvironment = traceEnvironment desk.toEnvironment := rfl
  have hdryPlan : (dryPorts desk submit).toEnvironment = desk.toEnvironment := rfl
  unfold dryOrders liveOrders executeRebalance BuysClear
  rw [hports, hlivePlan, hdryPlan]
  cases hdry : (planRebalance kit desk.toEnvironment (dryRequest r)).exec v with
  | mk dryAnswer v' =>
    cases hlive : (planRebalance kit (traceEnvironment desk.toEnvironment) (liveRequest r)).exec ⟨v, []⟩ with
    | mk liveAnswer w =>
      rw [hdry, hlive] at hworld hanswer
      cases dryAnswer with
      | error stop =>
        cases liveAnswer with
        | error stop' =>
          have hd : Unlisted (stopped (dryRequest r) v' stop).summary := unlisted_stopped (fails_planRebalance _ _ _ hdry)
          have hl : Unlisted (stopped (liveRequest r) w stop').summary := unlisted_stopped (fails_planRebalance _ _ _ hlive)
          dsimp only
          rw [hd.submitted, hl.filled]
          refine iff_of_true rfl fun plan w h => ?_
          cases h
        | ok plan => exact hanswer.elim
      | ok plan =>
        cases liveAnswer with
        | error stop => exact hanswer.elim
        | ok plan' =>
          obtain rfl : plan = plan' := hanswer
          obtain rfl : w.outside = v' := hworld
          obtain ⟨hmin, hkeys⟩ := plan_book hk hdry
          obtain ⟨_, _, _, hsettle⟩ := planRebalance_ok hdry
          obtain ⟨_, _, _, _, hsummary, _⟩ := settle_ok hsettle
          have hsubmitted : plan.summary.ordersSubmitted = [] := hsummary ▸ rfl
          have hfilled : plan.summary.ordersFilled = [] := hsummary ▸ rfl
          refine Iff.trans (executePlan_parity (w := w) hk hq hc hmin hkeys hsubmitted hfilled) ?_
          constructor
          · rintro hclear _ _ ⟨⟩
            exact hclear
          · exact fun hclear => hclear plan w.outside rfl

end Runs

section Fixture

def wholeShares₀ : Kit :=
  { wholeShares with applySmallAccountCompatibility := fun targets _ _ _ _ _ => targets.pwFilter fun a b => a.1 ≠ b.1 }

lemma wholeShares₀_documented : Documented wholeShares₀ where
  floorsDown := wholeShares_floorsDown
  floorsMonotone a b _ h := by
    change (a.floor : ℚ) ≤ b.floor
    exact_mod_cast Rat.floor_monotone h
  keysDistinct _ _ _ _ _ _ := List.pairwise_map.mpr (List.pairwise_pwFilter _)

def desk₀ : Desk Unit :=
  { receptive { quiet [("TLT", 30), ("SPY", 100)] (some 2000) with
      session := some ⟨true, fun v => (some (), v), fun v => (some (some false), v)⟩ } with
    execute := fun intent v => .ask (.place 0 (brokerOrder "USD" intent)) fun _ => .done (.ok (filled intent), v) }

lemma desk₀_quiet (targets : List (Symbol × ℚ)) : QuietVenue desk₀ (request₀ false [] targets 2000) where
  gate := rfl
  session := rfl
  bound := rfl
  currency := rfl
  openLock _ _ := rfl
  writeLock _ _ := rfl
  readLock _ _ := rfl
  acquireClaim _ := rfl
  qualify _ _ := rfl
  reserve _ _ _ := ⟨"attempt", rfl⟩
  dispatch _ _ _ _ := rfl
  fills intent broker v _ := by
    have hbroker : (answerMove ⟨broker, [], []⟩ (.place 0 (brokerOrder "USD" intent))).1.broker = broker := by
      unfold answerMove
      dsimp only
      split <;> rfl
    let venue := (answerMove ⟨broker, [], []⟩ (.place 0 (brokerOrder "USD" intent))).1
    have hvenue : venue = ⟨broker, venue.heard, venue.placements⟩ := by
      rw [← hbroker]
    exact ⟨"1", _, _, by decide, Prod.ext hvenue rfl⟩

def submit₀ (broker : Broker) (intent : Intent) (_ : Option (ℚ × ℚ)) (v : Unit) : Except Refusal (Report × Broker) × Unit :=
  (.ok (filled intent, broker), v)

def whole₀ : Request := request₀ false [] [("SPY", 1 / 2), ("TLT", 1 / 4)] 2000

theorem dry_run_parity₀ : dryOrders wholeShares₀ desk₀ submit₀ whole₀ () = [⟨"SPY", .buy, 10, some 100⟩, ⟨"TLT", .buy, 16, some 30⟩] ∧
    BuysClear wholeShares₀ desk₀ submit₀ whole₀ () := by
  have hdry : dryOrders wholeShares₀ desk₀ submit₀ whole₀ () = [⟨"SPY", .buy, 10, some 100⟩, ⟨"TLT", .buy, 16, some 30⟩] := by
    decide +kernel
  have hlive : liveOrders wholeShares₀ desk₀ whole₀ () = [⟨"SPY", .buy, 10, some 100⟩, ⟨"TLT", .buy, 16, some 30⟩] := by
    decide +kernel
  have hmode : resolveExecutionMode (liveRequest whole₀) = .ok "live" := rfl
  exact ⟨hdry, (dry_run_parity wholeShares₀_documented (desk₀_quiet _) rfl hmode ()).mp (hdry.trans hlive.symm)⟩

def floored₀ : Request := request₀ false [] [("TLT", 55 / 2000)] 2000

theorem floored_buy_diverges : QuietVenue desk₀ floored₀ ∧ dryOrders wholeShares₀ desk₀ submit₀ floored₀ () = [⟨"TLT", .buy, 1, some 30⟩] ∧
    liveOrders wholeShares₀ desk₀ floored₀ () = [] :=
  ⟨desk₀_quiet _, by decide +kernel, by decide +kernel⟩

end Fixture

end IbkrPlatform.Execution.DryRunParity
