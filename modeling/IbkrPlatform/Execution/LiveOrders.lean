import IbkrPlatform.Execution.Frames
import IbkrPlatform.Library.Dialogue

/-! The submission of a live order: the claim, the breaker, the reservation, and the broker behind them. -/

namespace IbkrPlatform.Execution.LiveOrders

open Library Orders Sizing NewRiskGate RiskAuthority SettledCash Planning
open SettledCash.Deadline (Refused)

inductive Move
  | update (now : ℚ) (row : AccountValue)
  | place (now : ℚ) (order : BrokerOrder)

/-- A `placeOrder` that reached the connection, the broker object that let it through, and the updates delivered to it by then. -/
structure Placement where
  broker : Broker
  heard : List (ℚ × AccountValue)
  now : ℚ
  order : BrokerOrder
deriving DecidableEq

structure Venue where
  broker : Broker
  heard : List (ℚ × AccountValue)
  placements : List Placement

def observeOn (now : ℚ) (row : AccountValue) : Broker → Broker
  | .connection => .connection
  | .settled deadline => .settled (deadline.observe now row)

def placeOn (now : ℚ) (order : BrokerOrder) : Broker → Option Refused
  | .connection => none
  | .settled deadline => deadline.placeOrder now order

def answerMove (s : Venue) : Move → Venue × Option Refused
  | .update now row => ({ s with broker := observeOn now row s.broker, heard := s.heard ++ [(now, row)] }, none)
  | .place now order =>
    match placeOn now order s.broker with
    | some refused => (s, some refused)
    | none => ({ s with placements := s.placements ++ [⟨s.broker, s.heard, now, order⟩] }, none)

/-- A call into the executor: it moves the broker object, and ends in a report or an exception. -/
abbrev Talk (V : Type) := Dialogue Move (Option Refused) (Except Refusal Report × V)

structure Binding where
  contractVersion : String
  broker : String
  releaseId : String
  intentId : String
  profile : Option String

abbrev Grant := String

structure Desk (V : Type) extends Environment V where
  binding : Binding
  releaseDigest : String
  intentDigest : String
  currency : String
  acquireClaim : V → Except Refusal Bool × V
  evaluateCycle : V → Except Refusal Admission × V
  /-- `qualifyContracts`, with the updates that come in while it waits. -/
  qualify : Intent → V → List (ℚ × AccountValue) × Except Refusal Unit × V
  reserve : Intent → Bool → V → Except Refusal Grant × V
  dispatch : Option Grant → Intent → (V → Talk V) → V → Talk V
  execute : Intent → V → Talk V

structure Dispatched where
  intent : Intent
  placements : List Placement
  report : Option Report
deriving DecidableEq

inductive Act
  | clock (reading : ℚ)
  | cash (observed : Option ℚ)
  | read (answer : Option (Option Bool))
  | record (written : Bool)
  | forward (intent : Intent)
  | reserve (intent : Intent)
  | dispatch (order : Dispatched)
deriving DecidableEq

structure Live (V : Type) where
  outside : V
  acts : List Act

variable {V : Type}

namespace Live

def call {α : Type} (f : V → α × V) (w : Live V) : α × Live V :=
  ((f w.outside).1, { w with outside := (f w.outside).2 })

def log (w : Live V) (act : Act) : Live V := { w with acts := w.acts ++ [act] }

@[simp] lemma log_outside (w : Live V) (act : Act) : (w.log act).outside = w.outside := rfl

end Live

def traceSession (s : Session V) : Session (Live V) where
  accountSubmissionSession := s.accountSubmissionSession
  recordCircuitBreakerOpen w :=
    let answer := w.call s.recordCircuitBreakerOpen
    (answer.1, answer.2.log (.record answer.1.isSome))
  readState w :=
    let answer := w.call s.readState
    (answer.1, answer.2.log (.read answer.1))

def traceEnvironment (e : Environment V) : Environment (Live V) where
  gateEnabled := e.gateEnabled
  stoplossEnabled := e.stoplossEnabled
  effectiveToday := e.effectiveToday
  setOrder := e.setOrder
  evaluateAdmission := Live.call e.evaluateAdmission
  sizingScale := Live.call e.sizingScale
  session := e.session.map traceSession
  quotes symbols := Live.call (e.quotes symbols)
  paperAdmission := Live.call e.paperAdmission
  openOrders := Live.call e.openOrders
  settledCash w :=
    let answer := w.call e.settledCash
    (answer.1, answer.2.log (.cash answer.1))
  availableBuyingPower := Live.call e.availableBuyingPower
  fills := Live.call e.fills
  openLock mode := Live.call (e.openLock mode)
  writeLock mode := Live.call (e.writeLock mode)
  readLock mode := Live.call (e.readLock mode)
  cashBalance := Live.call e.cashBalance
  monotonic w :=
    let answer := w.call e.monotonic
    (answer.1, answer.2.log (.clock answer.1))

section Submission

variable (kit : Kit) (desk : Desk V) (r : Request)

def rejected : Report := ⟨"rejected", none, none, none⟩

def sessionAccepted : Bool :=
  (desk.session.any (·.accountSubmissionSession)) ∧ desk.binding.contractVersion = "account_submission.v1"

def bindingMatches : Bool :=
  desk.binding.broker = "ibkr" ∧ desk.binding.releaseId = desk.releaseDigest ∧
    desk.binding.intentId = desk.intentDigest ∧ desk.binding.profile = r.strategyProfile

def submitOrderIntent (intent : Intent) (reduction : Option (ℚ × ℚ)) (v : V) : Talk V :=
  if desk.gateEnabled then
    match desk.evaluateCycle v with
    | (.error refusal, v) => .done (.error refusal, v)
    | (.ok admission, v) =>
      if admission.prohibited ∧ !kit.isProvenRiskReducingOrder (reduction.map Prod.fst) intent.side intent.quantity
          (reduction.map Prod.snd) then
        .done (.ok rejected, v)
      else desk.execute intent v
  else desk.execute intent v

def dispatchOrder (broker : Broker) (heard : List (ℚ × AccountValue)) (grant : Option Grant) (intent : Intent)
    (reduction : Option (ℚ × ℚ)) : Attempt (Live V) Refusal (Report × Broker) :=
  Attempt.of fun w =>
    let served := Dialogue.serve answerMove ⟨broker, heard, []⟩
      (desk.dispatch grant intent (submitOrderIntent kit desk intent reduction) w.outside)
    (served.2.1.map (·, served.1.broker),
      Live.log ⟨served.2.2, w.acts⟩ (.dispatch ⟨intent, served.1.placements, served.2.1.toOption⟩))

def reserveIntent (intent : Intent) (newRisk : Bool) : Attempt (Live V) Refusal Grant :=
  Attempt.of fun w =>
    let answer := w.call (desk.reserve intent newRisk)
    match answer.1 with
    | .error refusal => (.error refusal, answer.2)
    | .ok grant => (.ok grant, answer.2.log (.reserve intent))

def qualifyContract (deadline : Deadline) (intent : Intent) :
    Attempt (Live V) Refusal (Deadline × List (ℚ × AccountValue)) :=
  Attempt.of fun w =>
    let answer := desk.qualify intent w.outside
    let heard := answer.1.foldl (fun d row => d.observe row.1 row.2) deadline
    (answer.2.1.map fun _ => (heard, answer.1), { w with outside := answer.2.2 })

/-- The settled-cash branch of `submit_market_order_intent`. -/
def submitPrepared (deadline : Deadline) (intent : Intent) (limitPrice : ℚ) (reduction : Option (ℚ × ℚ)) :
    Attempt (Live V) Refusal (Report × Broker) := do
  if !deadline.inScope intent desk.currency then throw .scopeMismatch
  else
    let qualified ← qualifyContract desk deadline intent
    match qualified.1.prepareIntent kit intent limitPrice with
    | (closed, none) => pure (rejected, .settled closed)
    | (ready, some prepared) =>
      let grant ← reserveIntent desk prepared true
      dispatchOrder kit desk (.settled ready) qualified.2 (some grant) prepared reduction

def submitMarketOrderIntent (broker : Broker) (grant : Option Grant) (intent : Intent) (reduction : Option (ℚ × ℚ)) :
    Attempt (Live V) Refusal (Report × Broker) :=
  if !(sessionAccepted desk && desk.binding.broker = "ibkr") then throw .sessionRequired
  else match broker, grant, intent.limitPrice with
    | .settled deadline, none, some limitPrice => submitPrepared kit desk deadline intent limitPrice reduction
    | .settled _, none, none => throw (.other "unsupported operand type(s)")
    | broker, grant, _ => dispatchOrder kit desk broker [] grant intent reduction

def requireSession : Attempt (Live V) Refusal Unit :=
  if !sessionAccepted desk then throw .sessionRequired
  else if !bindingMatches desk r then throw .bindingMismatch
  else pure ()

def requireClaim : Attempt (Live V) Refusal Unit := do
  let held ← Attempt.of (Live.call desk.acquireClaim)
  if held then pure () else throw .claimRequired

def newRisk (intent : Intent) : Bool := intent.side = .buy ∧ desk.gateEnabled

def requireAdmission : Attempt (Live V) Refusal Unit := do
  let latest ← Attempt.of
    (evaluatePersistent (traceEnvironment desk.toEnvironment).evaluateAdmission
      (traceEnvironment desk.toEnvironment).session)
  if latest.prohibited then throw .breakerProhibitsNewRisk else pure ()

def admitNewRisk (intent : Intent) : Attempt (Live V) Refusal Unit :=
  if newRisk desk intent then requireAdmission desk else pure ()

def grantFor (intent : Intent) : Broker → Attempt (Live V) Refusal (Option Grant)
  | .settled _ => pure none
  | .connection => do
    let grant ← reserveIntent desk intent (newRisk desk intent)
    pure (some grant)

/-- The end of `submit_claimed_order`: the reservation, and the call of `delegate_submit`. -/
def forwardOrder (broker : Broker) (intent : Intent) (reduction : Option (ℚ × ℚ)) :
    Attempt (Live V) Refusal (Report × Broker) := do
  let grant ← grantFor desk intent broker
  Attempt.total fun w => ((), w.log (.forward intent))
  submitMarketOrderIntent kit desk broker grant intent reduction

def submitClaimedOrder (broker : Broker) (intent : Intent) (reduction : Option (ℚ × ℚ)) :
    Attempt (Live V) Refusal (Report × Broker) := do
  requireSession desk r
  requireClaim desk
  admitNewRisk desk intent
  forwardOrder kit desk broker intent reduction

end Submission

def livePorts (kit : Kit) (desk : Desk V) (r : Request) : Ports (Live V) where
  toEnvironment := traceEnvironment desk.toEnvironment
  submit broker intent reduction := (submitClaimedOrder kit desk r broker intent reduction).exec

def Act.observes : Act → Bool
  | .clock _ => true
  | .cash _ => true
  | _ => false

def Act.consults : Act → Bool
  | .read _ => true
  | .record _ => true
  | _ => false

def Act.side : Act → Option Side
  | .forward intent => some intent.side
  | .reserve intent => some intent.side
  | .dispatch order => some order.intent.side
  | _ => none

structure Lasting (P : V → Prop) (desk : Desk V) : Prop where
  environment : Frames.Kept P desk.toEnvironment
  session : Frames.KeptBySession P desk.toEnvironment
  acquireClaim : ∀ v, P v → P (desk.acquireClaim v).2
  evaluateCycle : ∀ v, P v → P (desk.evaluateCycle v).2
  qualify : ∀ intent v, P v → P (desk.qualify intent v).2.2
  reserve : ∀ intent newRisk v, P v → P (desk.reserve intent newRisk v).2
  dispatch : ∀ grant intent (f : V → Talk V) v, P v → (∀ u, P u → (f u).All fun a => P a.2) →
    (desk.dispatch grant intent f v).All fun a => P a.2
  execute : ∀ intent v, P v → (desk.execute intent v).All fun a => P a.2

section Keeps

variable {P : V → Prop} {I : Live V → Prop} {kit : Kit} {desk : Desk V} {r : Request}

lemma submitOrderIntent_all (hd : Lasting P desk) {intent : Intent} {reduction : Option (ℚ × ℚ)} {v : V} (hv : P v) :
    (submitOrderIntent kit desk intent reduction v).All fun a => P a.2 := by
  unfold submitOrderIntent
  have hc := hd.evaluateCycle v hv
  split
  · split
    · rename_i hq
      rw [hq] at hc
      exact hc
    · rename_i hq
      rw [hq] at hc
      split
      · exact hc
      · exact hd.execute intent _ hc
  · exact hd.execute intent v hv

variable (hd : Lasting P desk) (hcall : ∀ w v, I w → (P w.outside → P v) → I { w with outside := v })

include hcall in
lemma traceEnvironment_kept (hread : ∀ w act, act.observes = true → I w → I (w.log act))
    (he : Frames.Kept P desk.toEnvironment) : Frames.Kept I (traceEnvironment desk.toEnvironment) where
  evaluateAdmission w hw := hcall w _ hw (he.evaluateAdmission _)
  sizingScale w hw := hcall w _ hw (he.sizingScale _)
  quotes symbols w hw := hcall w _ hw (he.quotes symbols _)
  paperAdmission w hw := hcall w _ hw (he.paperAdmission _)
  openOrders w hw := hcall w _ hw (he.openOrders _)
  settledCash w hw := hread _ _ rfl (hcall w _ hw (he.settledCash _))
  availableBuyingPower w hw := hcall w _ hw (he.availableBuyingPower _)
  fills w hw := hcall w _ hw (he.fills _)
  openLock mode w hw := hcall w _ hw (he.openLock mode _)
  writeLock mode w hw := hcall w _ hw (he.writeLock mode _)
  readLock mode w hw := hcall w _ hw (he.readLock mode _)
  cashBalance w hw := hcall w _ hw (he.cashBalance _)
  monotonic w hw := hread _ _ rfl (hcall w _ hw (he.monotonic _))

lemma requireSession_keeps : Attempt.Keeps I (requireSession desk r) := by
  unfold requireSession
  split
  · exact Attempt.keeps_throw
  · split
    · exact Attempt.keeps_throw
    · exact Attempt.keeps_pure _

include hd hcall in
lemma requireClaim_keeps : Attempt.Keeps I (requireClaim desk) := by
  refine Attempt.keeps_bind (Attempt.keeps_of fun w hw => hcall w _ hw (hd.acquireClaim _)) fun held => ?_
  split
  · exact Attempt.keeps_pure _
  · exact Attempt.keeps_throw

include hcall in
lemma traceSession_kept (hlog : ∀ w act, act.consults = true → I w → I (w.log act))
    (hs : Frames.KeptBySession P desk.toEnvironment) : Frames.KeptBySession I (traceEnvironment desk.toEnvironment) where
  record t ht w hw := by
    obtain ⟨session, hmem, rfl⟩ := Option.map_eq_some_iff.mp ht
    exact hlog _ _ rfl (hcall w _ hw (hs.record session hmem _))
  read t ht w hw := by
    obtain ⟨session, hmem, rfl⟩ := Option.map_eq_some_iff.mp ht
    exact hlog _ _ rfl (hcall w _ hw (hs.read session hmem _))

lemma admitNewRisk_keeps (ha : ∀ w, I w → I ((traceEnvironment desk.toEnvironment).evaluateAdmission w).2)
    (hs : Frames.KeptBySession I (traceEnvironment desk.toEnvironment)) (intent : Intent) :
    Attempt.Keeps I (admitNewRisk desk intent) := by
  unfold admitNewRisk
  split
  · refine Attempt.keeps_bind (Attempt.keeps_of fun w hw => Frames.evaluatePersistent_kept ha hs hw) fun latest => ?_
    split
    · exact Attempt.keeps_throw
    · exact Attempt.keeps_pure _
  · exact Attempt.keeps_pure _

variable {intent : Intent} (hlog : ∀ w act, act.side = some intent.side → I w → I (w.log act))

include hd hcall hlog in
lemma reserveIntent_keeps {prepared : Intent} (hside : prepared.side = intent.side) (newRisk : Bool) :
    Attempt.Keeps I (reserveIntent desk prepared newRisk) := by
  refine Attempt.keeps_of fun w hw => ?_
  have hres : I (w.call (desk.reserve prepared newRisk)).2 := hcall w _ hw (hd.reserve prepared newRisk _)
  dsimp only
  split
  · exact hres
  · exact hlog _ (.reserve prepared) (by simp [Act.side, hside]) hres

include hd hcall hlog in
lemma dispatchOrder_keeps {prepared : Intent} (hside : prepared.side = intent.side) (broker : Broker)
    (heard : List (ℚ × AccountValue)) (grant : Option Grant) (reduction : Option (ℚ × ℚ)) :
    Attempt.Keeps I (dispatchOrder kit desk broker heard grant prepared reduction) := by
  refine Attempt.keeps_of fun w hw => ?_
  refine hlog _ (.dispatch _) (by simp [Act.side, hside]) (hcall w _ hw fun hv => ?_)
  exact Dialogue.serve_all (P := fun a : Except Refusal Report × V => P a.2)
    (hd.dispatch grant prepared _ _ hv fun u hu => submitOrderIntent_all hd hu) _

lemma prepareIntent_side {d d' : Deadline} {i prepared : Intent} {limit : ℚ}
    (h : d.prepareIntent kit i limit = (d', some prepared)) : prepared.side = i.side := by
  unfold Deadline.prepareIntent at h
  extract_lets quantity invalid at h
  split at h
  · cases h
  · obtain ⟨-, h⟩ := Prod.mk.inj h
    rw [← Option.some.inj h]

include hd hcall hlog in
lemma submitPrepared_keeps (deadline : Deadline) (limit : ℚ) (reduction : Option (ℚ × ℚ)) :
    Attempt.Keeps I (submitPrepared kit desk deadline intent limit reduction) := by
  unfold submitPrepared
  split
  · exact Attempt.keeps_throw
  · refine Attempt.keeps_bind ?_ fun qualified => ?_
    · exact Attempt.keeps_of fun w hw => hcall w _ hw (hd.qualify intent _)
    · split
      · exact Attempt.keeps_pure _
      · rename_i hq
        have hside := prepareIntent_side hq
        exact Attempt.keeps_bind (reserveIntent_keeps hd hcall hlog hside _) fun _ =>
          dispatchOrder_keeps hd hcall hlog hside _ _ _ _

include hd hcall hlog in
lemma submitMarketOrderIntent_keeps (broker : Broker) (grant : Option Grant) (reduction : Option (ℚ × ℚ)) :
    Attempt.Keeps I (submitMarketOrderIntent kit desk broker grant intent reduction) := by
  unfold submitMarketOrderIntent
  split
  · exact Attempt.keeps_throw
  · split
    · exact submitPrepared_keeps hd hcall hlog _ _ _
    · exact Attempt.keeps_throw
    · exact dispatchOrder_keeps hd hcall hlog rfl _ _ _ _

include hd hcall hlog in
lemma forwardOrder_keeps (broker : Broker) (reduction : Option (ℚ × ℚ)) :
    Attempt.Keeps I (forwardOrder kit desk broker intent reduction) := by
  refine Attempt.keeps_bind ?_ fun grant => ?_
  · cases broker with
    | settled deadline => exact Attempt.keeps_pure _
    | connection => exact Attempt.keeps_bind (reserveIntent_keeps hd hcall hlog rfl _) fun _ => Attempt.keeps_pure _
  · refine Attempt.keeps_bind (Attempt.keeps_total fun w hw => hlog w (.forward intent) rfl hw) fun _ => ?_
    exact submitMarketOrderIntent_keeps hd hcall hlog _ _ _

end Keeps

section Fixture

def brokerOrder (currency : String) (intent : Intent) : BrokerOrder where
  account := intent.accountId
  action := match intent.side with
    | .buy => "BUY"
    | .sell => "SELL"
  orderType := if intent.limitPrice.isSome then "LMT" else "MKT"
  totalQuantity := .finite intent.quantity
  lmtPrice := match intent.limitPrice with
    | some limit => .finite limit
    | none => .nonFinite
  contractCurrency := currency

def filled (intent : Intent) : Report := ⟨"Filled", some "1", some intent.quantity, intent.limitPrice⟩

def receptive (e : Environment V) : Desk V where
  toEnvironment := e
  binding := ⟨"account_submission.v1", "ibkr", "release", "intent", some "growth"⟩
  releaseDigest := "release"
  intentDigest := "intent"
  currency := "USD"
  acquireClaim v := (.ok true, v)
  evaluateCycle v := (.ok ⟨false, false, [], none⟩, v)
  qualify _ v := ([], .ok (), v)
  reserve _ _ v := (.ok "attempt", v)
  dispatch _ _ submit v := submit v
  execute intent v := .ask (.place 0 (brokerOrder "USD" intent)) fun
    | none => .done (.ok (filled intent), v)
    | some refused => .done (.error (.other refused.message), v)

lemma receptive_lasting {P : V → Prop} {e : Environment V} (he : Frames.Kept P e) (hs : Frames.KeptBySession P e) :
    Lasting P (receptive e) where
  environment := he
  session := hs
  acquireClaim _ hv := hv
  evaluateCycle _ hv := hv
  qualify _ _ hv := hv
  reserve _ _ _ hv := hv
  dispatch _ _ _ v hv hf := hf v hv
  execute _ _ hv
    | none => hv
    | some _ => hv

end Fixture

end IbkrPlatform.Execution.LiveOrders
