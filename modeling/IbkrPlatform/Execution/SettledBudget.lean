import Mathlib.Tactic.Linarith
import IbkrPlatform.Execution.LiveOrders
import IbkrPlatform.Library.Chronicle

/-! The settled cash of a live rebalance: its buys stay within what was observed after the sells. -/

namespace IbkrPlatform.Execution.SettledBudget

open Library Chronicle Orders Sizing NewRiskGate RiskAuthority SettledCash Planning Rebalance Stages LiveOrders

variable {V : Type}

section Law

def cost (p : Placement) : ℚ :=
  match p.order.totalQuantity, p.order.lmtPrice with
  | .finite quantity, .finite price => quantity * price
  | _, _ => 0

def declined (d : Dispatched) : Bool :=
  d.report.any fun report => Text.strip report.status ∈ rejectedOrCancelledStatuses

def spend : Act → ℚ
  | .dispatch d => if d.intent.side = .buy ∧ !declined d then (d.placements.map cost).sum else 0
  | _ => 0

def spent (acts : List Act) : ℚ := (acts.map spend).sum

def renews : Act → Bool
  | .cash _ => true
  | .dispatch _ => true
  | _ => false

/-- The newest reading of the settled cash, the clock at its start, and the acts since: no order among them. -/
def Refreshed (acts : List Act) (started cash : ℚ) (since : List Act) : Prop :=
  (∃ earlier, acts = earlier ++ .clock started :: .cash (some cash) :: since) ∧ ∀ a ∈ since, renews a = false

def concernsOrder (order : BrokerOrder) (row : AccountValue) : Bool :=
  some row.account = order.account ∧ row.currency = order.contractCurrency ∧ row.tag = "SettledCash"

/-- A buy that reached the connection after the acts `before`, in a run with the budget `B` and the reserve `c`: what was
observed and prepared for it, and that no update delivered by then was invalid or left too little. -/
structure Forwarded (B c : ℚ) (before : List Act) (intent : Intent) (p : Placement) (deadline : Deadline) : Prop where
  restricted : p.broker = .settled deadline
  action : p.order.action = "BUY"
  orderType : p.order.orderType = "LMT"
  quantity : p.order.totalQuantity = .finite intent.quantity
  prepared : deadline.preparedQuantity = some intent.quantity
  limit : ∃ price, intent.limitPrice = some price ∧ p.order.lmtPrice = .finite price
  affordable : cost p ≤ deadline.remainingBuyingPower
  budgeted : spent before + deadline.remainingBuyingPower ≤ B
  refreshed : ∃ started cash since, Refreshed before started cash since ∧ cost p ≤ investableBuyingPower (max 0 cash) c ∧
    0 ≤ p.now - started ∧ p.now - started ≤ maxAge ∧ .reserve intent ∈ since ∧ ∃ sized, .forward sized ∈ since ∧
      intent = { sized with quantity := intent.quantity } ∧ intent.quantity ≤ sized.quantity
  undisturbed : ∀ u ∈ p.heard, concernsOrder p.order u.2 = true →
    ∃ value, Deadline.valid u.1 u.2 = some value ∧ cost p ≤ investableBuyingPower value c

structure Lawful (B c : ℚ) (before : List Act) (d : Dispatched) : Prop where
  reserved : .reserve d.intent ∈ before
  once : d.placements.length ≤ 1
  forwarded : ∀ p ∈ d.placements, ∃ deadline, Forwarded B c before d.intent p deadline

def Budgeted (B c : ℚ) : List Act → Prop :=
  Preceded fun before a => ∀ d, a = .dispatch d → d.intent.side = .buy → Lawful B c before d

lemma spent_snoc (acts : List Act) (a : Act) : spent (acts ++ [a]) = spent acts + spend a := by
  simp [spent]

lemma Refreshed.snoc {acts since : List Act} {started cash : ℚ} {act : Act} (h : Refreshed acts started cash since)
    (ha : renews act = false) : Refreshed (acts ++ [act]) started cash (since ++ [act]) := by
  obtain ⟨⟨earlier, rfl⟩, hsince⟩ := h
  refine ⟨⟨earlier, by simp⟩, fun a hmem => ?_⟩
  rcases List.mem_append.mp hmem with hmem | hmem
  · exact hsince a hmem
  · exact List.mem_singleton.mp hmem ▸ ha

end Law

section Restriction

structure Later (d d' : Deadline) : Prop where
  refreshStarted : d'.refreshStarted = d.refreshStarted
  preparedQuantity : d'.preparedQuantity = d.preparedQuantity
  reserved : d'.reserved = d.reserved
  remaining : d'.remainingBuyingPower ≤ d.remainingBuyingPower
  invalid : d.invalid = true → d'.invalid = true
  concerns : ∀ row, d'.concerns row = d.concerns row

lemma Later.refl (d : Deadline) : Later d d := ⟨rfl, rfl, rfl, le_refl _, id, fun _ => rfl⟩

lemma Later.trans {a b c : Deadline} (hab : Later a b) (hbc : Later b c) : Later a c :=
  ⟨hbc.refreshStarted.trans hab.refreshStarted, hbc.preparedQuantity.trans hab.preparedQuantity,
    hbc.reserved.trans hab.reserved, hbc.remaining.trans hab.remaining, hbc.invalid ∘ hab.invalid,
    fun row => (hbc.concerns row).trans (hab.concerns row)⟩

lemma observe_later (d : Deadline) (now : ℚ) (row : AccountValue) : Later d (d.observe now row) := by
  unfold Deadline.observe
  split
  · split
    · exact ⟨rfl, rfl, rfl, le_refl _, fun _ => rfl, fun _ => rfl⟩
    · exact ⟨rfl, rfl, rfl, min_le_left _ _, id, fun _ => rfl⟩
  · exact .refl d

def Noted (d : Deadline) (heard : List (ℚ × AccountValue)) : Prop :=
  d.invalid = false → ∀ u ∈ heard, d.concerns u.2 = true →
    ∃ value, Deadline.valid u.1 u.2 = some value ∧ d.remainingBuyingPower ≤ investableBuyingPower value d.reserved

lemma noted_nil (d : Deadline) : Noted d [] := fun _ _ hu => absurd hu List.not_mem_nil

lemma Noted.observe {d : Deadline} {heard : List (ℚ × AccountValue)} (h : Noted d heard) (now : ℚ) (row : AccountValue) :
    Noted (d.observe now row) (heard ++ [(now, row)]) := by
  have hlater := observe_later d now row
  intro hopen u hu hc
  rw [hlater.concerns] at hc
  rcases List.mem_append.mp hu with hu | hu
  · have hbefore : d.invalid = false := Bool.eq_false_iff.mpr fun hi => by rw [hlater.invalid hi] at hopen; cases hopen
    obtain ⟨value, hv, hle⟩ := h hbefore u hu hc
    exact ⟨value, hv, hlater.reserved ▸ hlater.remaining.trans hle⟩
  · obtain rfl := List.mem_singleton.mp hu
    cases hv : Deadline.valid now row with
    | none => simp [Deadline.observe, hc, hv] at hopen
    | some value => exact ⟨value, rfl, by simp [Deadline.observe, hc, hv]⟩

lemma Noted.qualified {d : Deadline} {heard : List (ℚ × AccountValue)} (h : Noted d heard) (rows : List (ℚ × AccountValue)) :
    Noted (rows.foldl (fun d row => d.observe row.1 row.2) d) (heard ++ rows) := by
  induction rows generalizing d heard with
  | nil => rwa [List.append_nil]
  | cons row rows ih =>
    have hrest := ih (h.observe row.1 row.2)
    rwa [List.append_assoc] at hrest

lemma qualified_later (d : Deadline) (rows : List (ℚ × AccountValue)) :
    Later d (rows.foldl (fun d row => d.observe row.1 row.2) d) := by
  induction rows generalizing d with
  | nil => exact .refl d
  | cons row rows ih => exact (observe_later d row.1 row.2).trans (ih _)

lemma prepareIntent_ready {kit : Kit} {d d' : Deadline} {i prepared : Intent} {limit : ℚ}
    (h : d.prepareIntent kit i limit = (d', some prepared)) :
    d' = { d with preparedQuantity := some prepared.quantity } ∧ prepared = { i with quantity := prepared.quantity } ∧
      prepared.quantity ≤ i.quantity ∧ 0 < prepared.quantity := by
  unfold Deadline.prepareIntent at h
  extract_lets quantity invalid at h
  split at h
  · cases h
  · rename_i hv
    cases h
    refine ⟨rfl, rfl, min_le_left _ _, not_le.mp fun hn => hv ?_⟩
    simp [invalid, hn]

lemma prepareIntent_closed {kit : Kit} {d d' : Deadline} {i : Intent} {limit : ℚ}
    (h : d.prepareIntent kit i limit = (d', none)) : d' = { d with invalid := true } := by
  unfold Deadline.prepareIntent at h
  extract_lets quantity invalid at h
  split at h
  · cases h
    rfl
  · cases h

lemma placeOrder_forwards {d : Deadline} {now : ℚ} {order : BrokerOrder} (h : d.placeOrder now order = none) :
    d.accepts order = true ∧ 0 ≤ now - d.refreshStarted ∧ now - d.refreshStarted ≤ maxAge := by
  unfold Deadline.placeOrder at h
  split at h
  · cases h
  · rename_i ha
    split at h
    · rename_i ht
      exact ⟨by simpa using ha, ht⟩
    · cases h

end Restriction

section Dispatch

def sends (limit : ℚ) (placed : Bool) : Move → Prop
  | .update _ _ => True
  | .place _ order => placed = false ∧ order.lmtPrice = .finite limit

def sent (placed : Bool) : Move → Option Refused → Bool
  | .place _ _, none => true
  | _, _ => placed

abbrev SendsOne (limit : ℚ) (talk : Talk V) : Prop := talk.Obeys (sends limit) sent false

/-- The executor sends a limit order once, at its limit, and what surrounds it sends nothing of its own. -/
structure SendsOnce (desk : Desk V) : Prop where
  execute : ∀ intent limit v, intent.limitPrice = some limit → SendsOne limit (desk.execute intent v)
  dispatch : ∀ grant intent limit (f : V → Talk V) v, (∀ u, SendsOne limit (f u)) →
    SendsOne limit (desk.dispatch grant intent f v)

variable {kit : Kit} {desk : Desk V} {B c : ℚ} {before : List Act} {ready : Deadline} {prepared : Intent} {limit : ℚ}

lemma submitOrderIntent_sendsOne (hx : SendsOnce desk) {reduction : Option (ℚ × ℚ)} {v : V}
    (hl : prepared.limitPrice = some limit) : SendsOne limit (submitOrderIntent kit desk prepared reduction v) := by
  unfold submitOrderIntent
  split
  · split
    · trivial
    · split
      · trivial
      · exact hx.execute prepared limit _ hl
  · exact hx.execute prepared limit _ hl

structure Prepared (B c : ℚ) (before : List Act) (ready : Deadline) (prepared : Intent) (limit : ℚ) : Prop where
  quantity : ready.preparedQuantity = some prepared.quantity
  limit : prepared.limitPrice = some limit
  budgeted : spent before + ready.remainingBuyingPower ≤ B
  reserved : ready.reserved = c
  refreshed : ∃ cash since, Refreshed before ready.refreshStarted cash since ∧
    ready.remainingBuyingPower ≤ investableBuyingPower (max 0 cash) c ∧ .reserve prepared ∈ since ∧
    ∃ sized, .forward sized ∈ since ∧ prepared = { sized with quantity := prepared.quantity } ∧ prepared.quantity ≤ sized.quantity

structure Dispatching (B c : ℚ) (before : List Act) (ready : Deadline) (prepared : Intent) (placed : Bool) (s : Venue) :
    Prop where
  broker : ∃ d, s.broker = .settled d ∧ Later ready d ∧ Noted d s.heard
  waiting : placed = false → s.placements = []
  placed : placed = true → ∃ p deadline, s.placements = [p] ∧ Forwarded B c before prepared p deadline

variable (hp : Prepared B c before ready prepared limit)

include hp in
lemma placeOrder_forwarded {d : Deadline} {heard : List (ℚ × AccountValue)} {now : ℚ} {order : BrokerOrder} (hd : Later ready d)
    (hn : Noted d heard) (hl : order.lmtPrice = .finite limit) (h : d.placeOrder now order = none) :
    Forwarded B c before prepared ⟨.settled d, heard, now, order⟩ d := by
  obtain ⟨haccepts, hprompt⟩ := placeOrder_forwards h
  cases hq : order.totalQuantity with
  | unparsable => simp [Deadline.accepts, hq] at haccepts
  | nonFinite => simp [Deadline.accepts, hq] at haccepts
  | finite quantity =>
    simp only [Deadline.accepts, hq, hl, Bool.not_eq_eq_eq_not, Bool.not_true, decide_eq_true_eq] at haccepts
    obtain ⟨hopen, haccount, hprepared, hcurrency, haction, htype, -, -, hcost⟩ := haccepts
    have hquantity : quantity = prepared.quantity :=
      Option.some.inj (hprepared.symm.trans (hd.preparedQuantity.trans hp.quantity))
    subst hquantity
    have haffordable : cost ⟨.settled d, heard, now, order⟩ ≤ d.remainingBuyingPower := by simpa [cost, hq, hl] using hcost
    obtain ⟨cash, since, hrefreshed, hcash, hreserve, hsized⟩ := hp.refreshed
    rw [hd.refreshStarted] at hprompt
    refine ⟨rfl, haction, htype, hq, hprepared, ⟨limit, hp.limit, hl⟩, haffordable, ?_, ?_, fun u hu hc => ?_⟩
    · linarith [hd.remaining, hp.budgeted]
    · exact ⟨_, cash, since, hrefreshed, haffordable.trans (hd.remaining.trans hcash), hprompt.1, hprompt.2, hreserve, hsized⟩
    · have hconcerns : d.concerns u.2 = true := by rwa [Deadline.concerns, ← haccount, ← hcurrency]
      obtain ⟨value, hv, hle⟩ := hn hopen u hu hconcerns
      rw [hd.reserved, hp.reserved] at hle
      exact ⟨value, hv, haffordable.trans hle⟩

include hp in
lemma answerMove_dispatching {placed : Bool} {s : Venue} {m : Move} (h : Dispatching B c before ready prepared placed s)
    (hm : sends limit placed m) :
    Dispatching B c before ready prepared (sent placed m (answerMove s m).2) (answerMove s m).1 := by
  obtain ⟨d, hs, hd, hn⟩ := h.broker
  cases m with
  | update now row =>
    refine ⟨⟨d.observe now row, ?_, hd.trans (observe_later d now row), hn.observe now row⟩, h.waiting, h.placed⟩
    simp [answerMove, observeOn, hs]
  | place now order =>
    obtain ⟨rfl, hl⟩ := hm
    simp only [answerMove, placeOn, hs]
    split
    · exact ⟨⟨d, hs, hd, hn⟩, h.waiting, fun hp => absurd hp (by simp [sent])⟩
    · rename_i hplace
      have hforwarded := placeOrder_forwarded hp hd hn hl hplace
      exact ⟨⟨d, rfl, hd, hn⟩, fun hn => by simp [sent] at hn,
        fun _ => ⟨_, d, by simp [h.waiting rfl], hforwarded⟩⟩

include hp in
lemma dispatchOrder_exec (hx : SendsOnce desk) {heard : List (ℚ × AccountValue)} (hn : Noted ready heard) {grant : Option Grant}
    {reduction : Option (ℚ × ℚ)} {w w' : Live V} {answer : Except Refusal (Report × Broker)} (hw : w.acts = before)
    (h : (dispatchOrder kit desk (.settled ready) heard grant prepared reduction).exec w = (answer, w')) :
    ∃ placements, w'.acts = before ++ [.dispatch ⟨prepared, placements, answer.toOption.map Prod.fst⟩] ∧
      placements.length ≤ 1 ∧ (∀ p ∈ placements, ∃ deadline, Forwarded B c before prepared p deadline) ∧
      ∀ report broker, answer = .ok (report, broker) → ∃ d, broker = .settled d ∧ Later ready d := by
  let talk := desk.dispatch grant prepared (submitOrderIntent kit desk prepared reduction) w.outside
  have hobeys : SendsOne limit talk := hx.dispatch grant prepared limit _ _ fun u => submitOrderIntent_sendsOne hx hp.limit
  have hstep : ∀ placed s m, Dispatching B c before ready prepared placed s → sends limit placed m →
      Dispatching B c before ready prepared (sent placed m (answerMove s m).2) (answerMove s m).1 :=
    fun placed s m hs hm => answerMove_dispatching hp hs hm
  have hstart : Dispatching B c before ready prepared false ⟨.settled ready, heard, []⟩ :=
    ⟨⟨ready, rfl, .refl ready, hn⟩, fun _ => rfl, fun hp => by cases hp⟩
  obtain ⟨placed, hend⟩ := Dialogue.serve_obeys (h := answerMove) hstep hobeys hstart
  obtain ⟨d, hd, hlater, -⟩ := hend.broker
  simp only [dispatchOrder, Attempt.exec_of, Prod.mk.injEq] at h
  change Except.map (·, (Dialogue.serve answerMove ⟨.settled ready, heard, []⟩ talk).1.broker)
      (Dialogue.serve answerMove ⟨.settled ready, heard, []⟩ talk).2.1 = answer ∧ Live.log ⟨_, _⟩ _ = w' at h
  revert hend hd h
  generalize Dialogue.serve answerMove ⟨.settled ready, heard, []⟩ talk = served
  rintro hend hd ⟨rfl, rfl⟩
  refine ⟨served.1.placements, ?_, ?_, fun p hp => ?_, fun report broker hanswer => ?_⟩
  · cases served.2.1 <;> simp [Live.log, hw, Except.map, Except.toOption]
  · cases placed with
    | false => simp [hend.waiting rfl]
    | true =>
      obtain ⟨p, _, hp, _⟩ := hend.placed rfl
      simp [hp]
  · cases placed with
    | false => simp [hend.waiting rfl] at hp
    | true =>
      obtain ⟨p', deadline, hp', hf⟩ := hend.placed rfl
      rw [hp', List.mem_singleton] at hp
      exact ⟨deadline, hp ▸ hf⟩
  · refine ⟨d, ?_, hlater⟩
    cases hr : served.2.1 with
    | error e => simp [hr, Except.map] at hanswer
    | ok report' =>
      simp only [hr, Except.map, Except.ok.injEq, Prod.mk.injEq] at hanswer
      exact hanswer.2.symm.trans hd

end Dispatch

section Submission

variable {kit : Kit} {desk : Desk V} {r : Request} {B c s : ℚ}

lemma dialogue_all_true {Ask Answer A : Type} (t : Dialogue Ask Answer A) : t.All fun _ => True := by
  induction t with
  | done a => trivial
  | ask q next ih => exact ih

lemma lasting_true : Lasting (fun _ => True) desk where
  environment := ⟨fun _ _ => trivial, fun _ _ => trivial, fun _ _ _ => trivial, fun _ _ => trivial, fun _ _ => trivial,
    fun _ _ => trivial, fun _ _ => trivial, fun _ _ => trivial, fun _ _ _ => trivial, fun _ _ _ => trivial,
    fun _ _ _ => trivial, fun _ _ => trivial, fun _ _ => trivial⟩
  session := ⟨fun _ _ _ _ => trivial, fun _ _ _ _ => trivial⟩
  acquireClaim _ _ := trivial
  evaluateCycle _ _ := trivial
  qualify _ _ _ := trivial
  reserve _ _ _ _ := trivial
  dispatch _ _ _ _ _ _ := dialogue_all_true _
  execute _ _ _ := dialogue_all_true _

def Holds (B c s : ℚ) (w : Live V) : Prop := Budgeted B c w.acts ∧ spent w.acts = s

lemma Holds.log {w : Live V} {act : Act} (h : Holds B c s w) (ha : ∀ d, act = .dispatch d → d.intent.side = .sell) :
    Holds B c s (w.log act) := by
  refine ⟨Preceded.snoc h.1 fun d hd hbuy => ?_, ?_⟩
  · rw [ha d hd] at hbuy
    cases hbuy
  · have hspend : spend act = 0 := by
      cases act with
      | dispatch d => simp [spend, ha d rfl]
      | _ => rfl
    rw [Live.log, spent_snoc, hspend, h.2, add_zero]

lemma holds_call {w : Live V} (h : Holds B c s w) (v : V) : Holds B c s { w with outside := v } := h

lemma holds_environment : Frames.Kept (Holds B c s) (traceEnvironment desk.toEnvironment) :=
  have hlasting : Lasting (fun _ => True) desk := lasting_true
  traceEnvironment_kept (fun _ v hw _ => holds_call hw v)
    (fun _ act hread hw => hw.log fun d hd => by simp [hd, Act.observes] at hread) hlasting.environment

lemma holds_session : Frames.KeptBySession (Holds B c s) (traceEnvironment desk.toEnvironment) :=
  have hlasting : Lasting (fun _ => True) desk := lasting_true
  traceSession_kept (fun _ v hw _ => holds_call hw v)
    (fun _ act hc hw => hw.log fun d hd => by simp [hd, Act.consults] at hc) hlasting.session

lemma keeps_submitSell {broker : Broker} {intent : Intent} {reduction : Option (ℚ × ℚ)} (hside : intent.side = .sell) :
    Attempt.Keeps (Holds B c s) (submitClaimedOrder kit desk r broker intent reduction) := by
  refine Attempt.keeps_bind requireSession_keeps fun _ => ?_
  refine Attempt.keeps_bind (requireClaim_keeps lasting_true fun _ v hw _ => holds_call hw v) fun _ => ?_
  refine Attempt.keeps_bind (admitNewRisk_keeps holds_environment.evaluateAdmission holds_session intent) fun _ => ?_
  refine forwardOrder_keeps (I := Holds B c s) lasting_true (fun _ v hw _ => holds_call hw v) (fun w act h hw => ?_) broker reduction
  refine hw.log fun d hd => ?_
  subst hd
  exact (Option.some.inj h).trans hside

structure Settled (B c s investable quantity limit : ℚ) (answer : Report × Broker) (w : Live V) : Prop where
  budgeted : Budgeted B c w.acts
  spent : spent w.acts ≤ B
  remaining : remaining investable answer.2 ≤ investable
  declined : Text.strip answer.1.status ∈ rejectedOrCancelledStatuses → SettledBudget.spent w.acts ≤ s
  charged : SettledBudget.spent w.acts ≤ s + preparedQuantity quantity answer.2 * limit

def Ended (B c : ℚ) (w : Live V) : Prop := Budgeted B c w.acts ∧ spent w.acts ≤ B

lemma Forwarded.cost_eq {before : List Act} {i : Intent} {p : Placement} {d : Deadline} {limit : ℚ}
    (h : Forwarded B c before i p d) (hl : i.limitPrice = some limit) : cost p = i.quantity * limit := by
  obtain ⟨price, hp, hprice⟩ := h.limit
  obtain rfl : price = limit := Option.some.inj (hp.symm.trans hl)
  simp [cost, h.quantity, hprice]

lemma placements_cost {before : List Act} {i : Intent} {placements : List Placement} {limit : ℚ}
    (hlen : placements.length ≤ 1) (hf : ∀ p ∈ placements, ∃ deadline, Forwarded B c before i p deadline)
    (hl : i.limitPrice = some limit) (hcost : 0 ≤ i.quantity * limit) (hB : spent before ≤ B) :
    (placements.map cost).sum ≤ i.quantity * limit ∧ spent before + (placements.map cost).sum ≤ B := by
  cases placements with
  | nil => exact ⟨hcost, by simpa using hB⟩
  | cons p rest =>
    obtain rfl : rest = [] := List.eq_nil_of_length_eq_zero (by simpa using hlen)
    obtain ⟨deadline, hfor⟩ := hf p List.mem_cons_self
    have hsum : ([p].map cost).sum = cost p := by simp
    have haffordable := hfor.affordable
    have hbudgeted := hfor.budgeted
    rw [hsum]
    exact ⟨le_of_eq (hfor.cost_eq hl), by linarith⟩

lemma spend_dispatch {before : List Act} {d : Dispatched} {limit : ℚ} (hlen : d.placements.length ≤ 1)
    (hf : ∀ p ∈ d.placements, ∃ deadline, Forwarded B c before d.intent p deadline) (hl : d.intent.limitPrice = some limit)
    (hcost : 0 ≤ d.intent.quantity * limit) (hB : spent before ≤ B) :
    spend (.dispatch d) ≤ d.intent.quantity * limit ∧ spent before + spend (.dispatch d) ≤ B := by
  obtain ⟨hprice, hbudget⟩ := placements_cost hlen hf hl hcost hB
  unfold spend
  dsimp only
  split
  · exact ⟨hprice, hbudget⟩
  · exact ⟨hcost, by rwa [add_zero]⟩

def Underway (B c s started cash : ℚ) (marks : List Act) (w : Live V) : Prop :=
  Holds B c s w ∧ ∃ since, Refreshed w.acts started cash since ∧ ∀ a ∈ marks, a ∈ since

section Underway

variable {started cash : ℚ} {marks : List Act} {w : Live V} {act : Act}

lemma Underway.log (h : Underway B c s started cash marks w) (ha : renews act = false) :
    Underway B c s started cash marks (w.log act) := by
  obtain ⟨hw, since, hrefreshed, hmarks⟩ := h
  refine ⟨hw.log fun d hd => by simp [hd, renews] at ha, since ++ [act], hrefreshed.snoc ha, fun a hmem => ?_⟩
  exact List.mem_append_left _ (hmarks a hmem)

lemma Underway.mark (h : Underway B c s started cash marks w) (ha : renews act = false) :
    Underway B c s started cash (act :: marks) (w.log act) := by
  obtain ⟨hw, since, hrefreshed, hmarks⟩ := h
  refine ⟨hw.log fun d hd => by simp [hd, renews] at ha, since ++ [act], hrefreshed.snoc ha, fun a hmem => ?_⟩
  rcases List.mem_cons.mp hmem with rfl | hmem
  · simp
  · exact List.mem_append_left _ (hmarks a hmem)

lemma underway_call (h : Underway B c s started cash marks w) (v : V) :
    Underway B c s started cash marks { w with outside := v } := h

lemma underway_session :
    Frames.KeptBySession (Underway B c s started cash marks) (traceEnvironment desk.toEnvironment) :=
  have hlasting : Lasting (fun _ => True) desk := lasting_true
  traceSession_kept (fun _ v hw _ => underway_call hw v)
    (fun _ act hc hw => hw.log (by cases act <;> first | rfl | cases hc)) hlasting.session

end Underway

section Dispatch

variable {ready deadline : Deadline} {intent prepared : Intent} {limit started cash investable : ℚ}

structure Entered (c started cash investable : ℚ) (d : Deadline) : Prop where
  refreshStarted : d.refreshStarted = started
  reserved : d.reserved = c
  unprepared : d.preparedQuantity = none
  remaining : d.remainingBuyingPower ≤ investable
  observed : investable ≤ investableBuyingPower (max 0 cash) c

lemma Entered.later {d d' : Deadline} (h : Entered c started cash investable d) (hd : Later d d') :
    Entered c started cash investable d' :=
  ⟨hd.refreshStarted.trans h.refreshStarted, hd.reserved.trans h.reserved, hd.preparedQuantity.trans h.unprepared,
    hd.remaining.trans h.remaining, h.observed⟩

lemma prepared_of_entered {qualified : Deadline} {before since : List Act} (hd : Entered c started cash investable qualified)
    (hrefreshed : Refreshed before started cash since) (hreserve : .reserve prepared ∈ since) (hforward : .forward intent ∈ since)
    (hl : intent.limitPrice = some limit) (hB : spent before + investable ≤ B)
    (hp : qualified.prepareIntent kit intent limit = (ready, some prepared)) :
    Prepared B c before ready prepared limit := by
  obtain ⟨rfl, hprepared, hle, -⟩ := prepareIntent_ready hp
  refine ⟨rfl, ?_, ?_, hd.reserved, cash, since, ?_, hd.remaining.trans hd.observed, hreserve, intent, hforward, hprepared, hle⟩
  · rw [hprepared]
    exact hl
  · have hremaining := hd.remaining
    dsimp only
    linarith
  · dsimp only
    rwa [hd.refreshStarted]

lemma dispatchOrder_settled (hx : SendsOnce desk) {qualified : Deadline} {heard : List (ℚ × AccountValue)} {grant : Option Grant}
    {reduction : Option (ℚ × ℚ)} (hd : Entered c started cash investable qualified) (hn : Noted qualified heard)
    (hl : intent.limitPrice = some limit) (hpos : 0 < limit) (hB : s + investable ≤ B) (hs : s ≤ B)
    (hp : qualified.prepareIntent kit intent limit = (ready, some prepared)) :
    Attempt.Triple (Underway B c s started cash [.reserve prepared, .forward intent])
      (Settled B c s investable intent.quantity limit) (Ended B c)
      (dispatchOrder kit desk (.settled ready) heard grant prepared reduction) := by
  rintro w ⟨⟨hbudgeted, rfl⟩, since, hrefreshed, hmarks⟩
  have hprepared : Prepared B c w.acts ready prepared limit :=
    prepared_of_entered hd hrefreshed (hmarks _ (by simp)) (hmarks _ (by simp)) hl hB hp
  obtain ⟨rfl, -, -, hquantity⟩ := prepareIntent_ready hp
  cases he : (dispatchOrder kit desk (.settled { qualified with preparedQuantity := some prepared.quantity }) heard grant
      prepared reduction).exec w with
  | mk answer w' =>
    obtain ⟨placements, hacts, hlen, hfor, hbroker⟩ := dispatchOrder_exec hprepared hx hn rfl he
    have hcost : 0 ≤ prepared.quantity * limit := mul_nonneg hquantity.le hpos.le
    obtain ⟨hprice, hsum⟩ := spend_dispatch (d := ⟨prepared, placements, answer.toOption.map Prod.fst⟩) hlen hfor
      hprepared.limit hcost hs
    have hreserved : .reserve prepared ∈ w.acts := by
      obtain ⟨⟨earlier, hw⟩, -⟩ := hrefreshed
      simp [hw, hmarks (.reserve prepared) (by simp)]
    have hend : Ended B c w' := by
      rw [Ended, hacts, spent_snoc]
      refine ⟨Preceded.snoc hbudgeted fun d hd _ => ?_, hsum⟩
      cases hd
      exact ⟨hreserved, hlen, hfor⟩
    cases answer with
    | error refusal => exact hend
    | ok answer =>
      obtain ⟨report, broker⟩ := answer
      obtain ⟨d, rfl, hlater⟩ := hbroker report broker rfl
      refine ⟨hend.1, hend.2, min_le_left _ _, fun hstatus => ?_, ?_⟩
      · have hfree : spend (.dispatch ⟨prepared, placements, some report⟩) = 0 := by simp [spend, declined, hstatus]
        rw [hacts, spent_snoc]
        change spent w.acts + spend (.dispatch ⟨prepared, placements, some report⟩) ≤ spent w.acts
        rw [hfree, add_zero]
      · have hq : preparedQuantity intent.quantity (.settled d) = prepared.quantity := by
          simp [preparedQuantity, hlater.preparedQuantity]
        rw [hacts, spent_snoc, hq]
        linarith

variable (hB : s + investable ≤ B) (hs : s ≤ B)

lemma Holds.turnedDown {w : Live V} {quantity : ℚ} (hs : s ≤ B) (hw : Holds B c s w) {closed : Deadline}
    (hinvalid : closed.preparedQuantity = none) (hq : 0 ≤ quantity * limit) :
    Settled B c s investable quantity limit (rejected, .settled closed) w where
  budgeted := hw.1
  spent := hw.2 ▸ hs
  remaining := min_le_left _ _
  declined _ := le_of_eq hw.2
  charged := by
    rw [hw.2, preparedQuantity, hinvalid]
    simpa using hq

lemma Underway.ended {marks : List Act} {w : Live V} (hs : s ≤ B) (hw : Underway B c s started cash marks w) : Ended B c w :=
  ⟨hw.1.1, hw.1.2 ▸ hs⟩

include hB hs in
lemma submitPrepared_settled (hx : SendsOnce desk) {reduction : Option (ℚ × ℚ)} (hl : intent.limitPrice = some limit)
    (hpos : 0 < limit) (hq : 0 ≤ intent.quantity) (hd : Entered c started cash investable deadline) :
    Attempt.Triple (Underway B c s started cash [.forward intent]) (Settled B c s investable intent.quantity limit) (Ended B c)
      (submitPrepared kit desk deadline intent limit reduction) := by
  unfold submitPrepared
  split
  · exact Attempt.triple_throw fun w hw => hw.ended hs
  · refine Attempt.triple_bind (Q := fun qualified w => Underway B c s started cash [.forward intent] w ∧
      Later deadline qualified.1 ∧ Noted qualified.1 qualified.2) (fun w hw => ?_) fun qualified => ?_
    · simp only [qualifyContract, Attempt.exec_of]
      cases (desk.qualify intent w.outside).2.1 with
      | error refusal => exact (underway_call hw _).ended hs
      | ok done => exact ⟨underway_call hw _, qualified_later deadline _, (noted_nil deadline).qualified _⟩
    · rintro w ⟨hw, hlater, hnoted⟩
      have hentered := hd.later hlater
      revert w
      change Attempt.Triple (Underway B c s started cash [.forward intent]) (Settled B c s investable intent.quantity limit)
        (Ended B c) _
      cases hp : qualified.1.prepareIntent kit intent limit with
      | mk ready prepared =>
        cases prepared with
        | none =>
          obtain rfl := prepareIntent_closed hp
          exact Attempt.triple_pure fun w hw => hw.1.turnedDown hs hentered.unprepared (mul_nonneg hq hpos.le)
        | some prepared =>
          refine Attempt.triple_bind (Q := fun _ => Underway B c s started cash [.reserve prepared, .forward intent])
            (fun w hw => ?_) fun grant => dispatchOrder_settled hx hentered hnoted hl hpos hB hs hp
          simp only [reserveIntent, Attempt.exec_of]
          cases (w.call (desk.reserve prepared true)).1 with
          | error refusal => exact (underway_call hw _).ended hs
          | ok grant => exact (underway_call hw _).mark rfl

include hB hs in
lemma submitBuy_settled (hx : SendsOnce desk) (hl : intent.limitPrice = some limit) (hpos : 0 < limit)
    (hq : 0 ≤ intent.quantity) (hd : Entered c started cash investable deadline) :
    Attempt.Triple (Underway B c s started cash []) (Settled B c s investable intent.quantity limit) (Ended B c)
      (submitClaimedOrder kit desk r (.settled deadline) intent none) := by
  have htriple : ∀ {α : Type} {x : Attempt (Live V) Refusal α}, Attempt.Keeps (Underway B c s started cash []) x →
      Attempt.Triple (Underway B c s started cash []) (fun _ => Underway B c s started cash []) (Ended B c) x :=
    fun hx => hx.triple (fun _ _ hw => hw) fun _ hw => hw.ended hs
  refine Attempt.triple_bind (htriple requireSession_keeps) fun _ => ?_
  refine Attempt.triple_bind (htriple (requireClaim_keeps lasting_true fun _ v hw _ => underway_call hw v)) fun _ => ?_
  refine Attempt.triple_bind (htriple (admitNewRisk_keeps (I := Underway B c s started cash [])
    (fun w hw => underway_call hw _) underway_session intent)) fun _ => ?_
  refine Attempt.triple_bind (Q := fun grant w => grant = none ∧ Underway B c s started cash [] w)
    (Attempt.triple_pure fun w hw => ⟨rfl, hw⟩) fun grant => ?_
  refine Attempt.triple_bind (Q := fun _ w => grant = none ∧ Underway B c s started cash [.forward intent] w)
    (Attempt.triple_total fun w hw => ⟨hw.1, hw.2.mark rfl⟩) fun _ => ?_
  rintro w ⟨rfl, hw⟩
  revert w
  change Attempt.Triple (Underway B c s started cash [.forward intent]) _ _
    (submitMarketOrderIntent kit desk (.settled deadline) none intent none)
  unfold submitMarketOrderIntent
  split
  · exact Attempt.triple_throw fun w hw => hw.ended hs
  · simp only [hl]
    exact submitPrepared_settled hB hs hx hl hpos hq hd

end Dispatch

end Submission

section Loops

variable {kit : Kit} {desk : Desk V} {r : Request} {plan : Plan} {B c : ℚ} {p : Progress (Live V)}

structure Within (B c : ℚ) (e : Option Exit) (p : Progress (Live V)) : Prop where
  budgeted : Budgeted B c p.world.acts
  spent : spent p.world.acts ≤ B
  going : e = none → SettledBudget.spent p.world.acts + p.investable ≤ B

lemma Within.stay (h : Within B c none p) {q : Progress (Live V)} {e : Option Exit} (ha : q.world.acts = p.world.acts)
    (hi : q.investable ≤ p.investable) : Within B c e q where
  budgeted := ha ▸ h.budgeted
  spent := ha ▸ h.spent
  going _ := by
    have hgoing := h.going rfl
    rw [ha]
    linarith

lemma outcome_failed {o : Payload} (h : outcome o = .failed) : Text.strip o.status ∈ rejectedOrCancelledStatuses := by
  unfold outcome at h
  extract_lets status at h
  split at h
  · cases h
  · rename_i hknown
    split at h
    · cases h
    · rename_i hfilled
      split at h
      · cases h
      · rename_i hpartial
        split at h
        · cases h
        · rename_i hpending
          have hmem : status ∈ knownStatuses := not_not.mp fun hn => hknown (.inl hn)
          simp only [knownStatuses, List.mem_append] at hmem
          rcases hmem with ((hm | hm) | hm) | hm
          · exact absurd hm hfilled
          · exact absurd hm hpartial
          · exact absurd hm hpending
          · exact hm

lemma Within.log (h : Within B c none p) {q : Progress (Live V)} {act : Act} (ho : act.observes = true)
    (ha : q.world.acts = p.world.acts ++ [act]) (hi : q.investable ≤ p.investable) : Within B c none q := by
  have hholds : Holds B c (SettledBudget.spent p.world.acts) (p.world.log act) :=
    Holds.log ⟨h.budgeted, rfl⟩ fun d hd => by simp [hd, Act.observes] at ho
  have hspent : SettledBudget.spent q.world.acts = SettledBudget.spent p.world.acts := ha ▸ hholds.2
  have hgoing := h.going rfl
  exact ⟨ha ▸ hholds.1, hspent ▸ h.spent, fun _ => by linarith⟩

structure Recent (c started cash : ℚ) (p : Progress (Live V)) : Prop where
  refreshed : ∃ since, Refreshed p.world.acts started cash since
  observed : p.investable ≤ investableBuyingPower (max 0 cash) c

variable {started cash : ℚ} {symbol : Symbol} (hx : SendsOnce desk) (hc : r.cashOnlyExecution = true)
  (hr : plan.book.reserved = c)

include hx hc hr in
lemma submitBuy_within (h : Within B c none p) (hp : Recent c started cash p) {quantity limit : ℚ} (hq : 0 < quantity)
    (hl : 0 < limit) :
    Within B c (submitBuy (livePorts kit desk r) r plan p started symbol quantity limit).2
      (submitBuy (livePorts kit desk r) r plan p started symbol quantity limit).1 := by
  let entered := Deadline.enter started plan.orderAccount r.marketCurrency p.investable plan.book.reserved plan.book.step
    plan.book.minimumOrderNotional
  have hbroker : buyBroker r plan started p.investable = .settled entered := by simp [buyBroker, hc, entered]
  have hentered : Entered c started cash p.investable entered := ⟨rfl, hr, rfl, le_refl _, hp.observed⟩
  have hsubmit : Attempt.Triple (Underway B c (spent p.world.acts) started cash [])
      (Settled B c (spent p.world.acts) p.investable quantity limit) (Ended B c)
      (submitClaimedOrder kit desk r (.settled entered) (buyIntent plan symbol quantity limit) none) :=
    submitBuy_settled (h.going rfl) h.spent hx rfl hl hq.le hentered
  obtain ⟨since, hrefreshed⟩ := hp.refreshed
  have htriple := hsubmit p.world ⟨⟨h.budgeted, rfl⟩, since, hrefreshed, fun _ hmem => absurd hmem List.not_mem_nil⟩
  rw [← hbroker] at htriple
  simp only [submitBuy, Progress.submit, livePorts]
  cases he : (submitClaimedOrder kit desk r (buyBroker r plan started p.investable)
      (buyIntent plan symbol quantity limit) none).exec p.world with
  | mk answer w' =>
    rw [he] at htriple
    have hgoing := h.going rfl
    cases answer with
    | error refusal =>
      have hended : Ended B c w' := htriple
      exact ⟨hended.1, hended.2, fun hn => by cases hn⟩
    | ok answer =>
      have hsettled : Settled B c (spent p.world.acts) p.investable quantity limit answer w' := htriple
      have hremaining := hsettled.remaining
      have hcharged := hsettled.charged
      dsimp only
      split
      · exact ⟨hsettled.budgeted, hsettled.spent, fun hn => by cases hn⟩
      · rename_i ho
        have hfailed := outcome_failed ho
        dsimp only [payload] at hfailed
        have hspent := hsettled.declined hfailed
        exact ⟨hsettled.budgeted, hsettled.spent, fun _ => by dsimp only; linarith⟩
      · exact ⟨hsettled.budgeted, hsettled.spent, fun _ => by dsimp only [payload]; linarith⟩

lemma buyAllowed_pos {quantity limit : ℚ} (h : buyAllowed plan symbol quantity limit = true) : 0 < quantity ∧ 0 < limit := by
  unfold buyAllowed at h
  split at h
  · cases h
  · simp only [decide_eq_true_eq] at h
    exact ⟨h.2.1, h.2.2.1⟩

include hx hc hr in
lemma buyOrder_within (h : Within B c none p) (hp : Recent c started cash p) {quantity limit : ℚ} :
    Within B c (buyOrder (livePorts kit desk r) r plan p started symbol quantity limit).2
      (buyOrder (livePorts kit desk r) r plan p started symbol quantity limit).1 := by
  unfold buyOrder
  split
  · exact h.stay rfl (le_refl _)
  · rename_i hallowed
    obtain ⟨hquantity, hlimit⟩ := buyAllowed_pos (by simpa using hallowed)
    extract_lets now q
    have hacts : q.world.acts = p.world.acts ++ [.clock now.1] := by
      unfold q now
      rfl
    have hq : Within B c none q := h.log rfl hacts (le_refl _)
    have hrecent : Recent c started cash q := by
      obtain ⟨since, hrefreshed⟩ := hp.refreshed
      exact ⟨⟨since ++ [.clock now.1], hacts ▸ hrefreshed.snoc rfl⟩, hp.observed⟩
    split
    · exact hq.stay rfl (le_refl _)
    · split
      · refine hq.stay rfl ?_
        have hcost := mul_pos hquantity hlimit
        dsimp only [Progress.list]
        linarith
      · exact submitBuy_within hx hc hr hq hrecent hquantity hlimit

include hx hc hr in
lemma sizedBuy_within (h : Within B c none p) (hp : Recent c started cash p) {target : ℚ} :
    Within B c (sizedBuy kit (livePorts kit desk r) r plan p started symbol target).2
      (sizedBuy kit (livePorts kit desk r) r plan p started symbol target).1 := by
  unfold sizedBuy
  split
  · exact h.stay rfl (le_refl _)
  · exact h.stay rfl (le_refl _)
  · exact h.stay rfl (le_refl _)
  · exact h.stay rfl (le_refl _)
  · exact buyOrder_within hx hc hr h hp

include hx hc hr in
lemma buyStep_within (h : Within B c none p) {t : Symbol × ℚ} :
    Within B c (buyStep kit (livePorts kit desk r) r plan p t).2 (buyStep kit (livePorts kit desk r) r plan p t).1 := by
  unfold buyStep
  split
  · exact h
  · split
    · rename_i hn
      simp [hc] at hn
    · extract_lets started observed q
      have hreads : (Act.clock started.1).observes = true ∧ (Act.cash observed.1).observes = true := ⟨rfl, rfl⟩
      have hclock : Within B c none { p with world := started.2 } := h.log hreads.1 rfl (le_refl _)
      have hq : Within B c none q := hclock.log hreads.2 rfl (min_le_left _ _)
      split
      · exact hq.stay rfl (le_refl _)
      · rename_i cash hcash
        split
        · exact hq.stay rfl (le_refl _)
        · have hacts : q.world.acts = p.world.acts ++ .clock started.1 :: .cash (some cash) :: [] := by
            rw [← hcash]
            exact List.append_assoc p.world.acts [.clock started.1] [.cash observed.1]
          have hobserved : q.investable ≤ investableBuyingPower (max 0 cash) c := by
            simp only [q, refreshed, hcash, Option.getD_some, ← hr]
            exact min_le_right _ _
          exact sizedBuy_within hx hc hr hq ⟨⟨[], ⟨_, hacts⟩, fun _ hmem => absurd hmem List.not_mem_nil⟩, hobserved⟩

include hx hc hr in
lemma buys_within (h : Within B c none p) {blocked : Option Reason} :
    Within B c (buys kit (livePorts kit desk r) r plan p blocked).2 (buys kit (livePorts kit desk r) r plan p blocked).1 := by
  unfold buys
  cases blocked with
  | some reason =>
    refine EarlyExit.loop_rule (Q := Within B c) (P := fun _ _ => True) (fun q t _ hq _ => ?_) h
      (EarlyExit.along_of_forall fun _ _ _ => trivial)
    unfold blockedStep
    split
    · exact hq.stay rfl (le_refl _)
    · exact hq
  | none =>
    exact EarlyExit.loop_rule (Q := Within B c) (P := fun _ _ => True) (fun q t _ hq _ => buyStep_within hx hc hr hq) h
      (EarlyExit.along_of_forall fun _ _ _ => trivial)

end Loops

section Runs

variable (kit : Kit) (desk : Desk V) (r : Request) (v : V)

/-- The budget of a run: the settled cash that it first observes after its sells, less the reserve. -/
def budget : ℚ :=
  match (planRebalance kit (traceEnvironment desk.toEnvironment) r).exec ⟨v, []⟩ with
  | (.error _, _) => 0
  | (.ok plan, w) =>
    max 0 ((desk.settledCash (sells kit (livePorts kit desk r) r plan w).1.world.outside).1.getD 0 - plan.book.reserved)

def cashReserve : ℚ :=
  match (planRebalance kit (traceEnvironment desk.toEnvironment) r).exec ⟨v, []⟩ with
  | (.error _, _) => 0
  | (.ok plan, _) => plan.book.reserved

variable {kit desk r v}

lemma budget_nonneg : 0 ≤ budget kit desk r v := by
  unfold budget
  split
  · exact le_refl 0
  · exact le_max_left _ _

lemma plan_reserved {e : Environment V} {plan : Plan} {v v' : V} (h : (planRebalance kit e r).exec v = (.ok plan, v')) :
    0 ≤ plan.book.reserved := by
  obtain ⟨s, v₁, hsurvey, hsettle⟩ := planRebalance_ok h
  obtain ⟨_, hbook, _⟩ := settle_ok hsettle
  obtain ⟨equity, weights, _, _, _, _, _, _, _, _, hsize, _⟩ := survey_ok hsurvey
  obtain ⟨prices, targets, hb, _⟩ := sizeTargets_ok hsize
  rw [hbook, hb]
  exact (le_max_left 0 r.cashReserveFloor).trans (le_max_right _ _)

lemma investable_of_cash {cash reserved : ℚ} (h : 0 ≤ reserved) :
    investableBuyingPower (max 0 cash) reserved = max 0 (cash - reserved) := by
  rw [investableBuyingPower, max_eq_right h]
  rcases le_total cash 0 with hc | hc
  · rw [max_eq_left hc, max_eq_left (by linarith), max_eq_left (by linarith)]
  · rw [max_eq_right hc]

lemma startBuys_within {plan : Plan} {p : Progress (Live V)} {c : ℚ} (hc : r.cashOnlyExecution = true)
    (hr : 0 ≤ plan.book.reserved)
    (hp : Holds (max 0 ((desk.settledCash p.world.outside).1.getD 0 - plan.book.reserved)) c 0 p.world) :
    Within (max 0 ((desk.settledCash p.world.outside).1.getD 0 - plan.book.reserved)) c none
      (startBuys kit (livePorts kit desk r) r plan p).1 := by
  have hworld : Holds _ c 0 (startBuys kit (livePorts kit desk r) r plan p).1.world :=
    Frames.startBuys_kept holds_environment hp
  have hinvestable : (startBuys kit (livePorts kit desk r) r plan p).1.investable =
      max 0 ((desk.settledCash p.world.outside).1.getD 0 - plan.book.reserved) := by
    rw [← investable_of_cash hr]
    simp only [startBuys, budgeted, buyingPowerAfterSells, hc, if_true]
    rfl
  refine ⟨hworld.1, hworld.2 ▸ le_max_left _ _, fun _ => ?_⟩
  rw [hworld.2, hinvestable, zero_add]

lemma executeRebalance_ended (hx : SendsOnce desk) (hc : r.cashOnlyExecution = true) :
    Ended (budget kit desk r v) (cashReserve kit desk r v) (executeRebalance kit (livePorts kit desk r) r ⟨v, []⟩).world := by
  have hstart : ∀ B c, Holds B c 0 (⟨v, []⟩ : Live V) := fun B c => ⟨preceded_nil, by simp [spent]⟩
  have hplan : ∀ B c, Holds B c 0 ((planRebalance kit (traceEnvironment desk.toEnvironment) r).exec ⟨v, []⟩).2 :=
    fun B c => Frames.keeps_planRebalance holds_environment holds_session _ (hstart B c)
  refine executeRebalance_cases
    (C := fun run : Run (Live V) => Ended (budget kit desk r v) (cashReserve kit desk r v) run.world)
    (fun stop w' hq => ?_) fun plan w' hq => ?_
  · have hstop : (planRebalance kit (traceEnvironment desk.toEnvironment) r).exec ⟨v, []⟩ = (.error stop, w') := hq
    have hw := hplan (budget kit desk r v) (cashReserve kit desk r v)
    rw [hstop] at hw
    have hended : Ended (budget kit desk r v) (cashReserve kit desk r v) w' := ⟨hw.1, hw.2 ▸ budget_nonneg⟩
    cases stop <;> exact hended
  · have hok : (planRebalance kit (traceEnvironment desk.toEnvironment) r).exec ⟨v, []⟩ = (.ok plan, w') := hq
    have hbudget : budget kit desk r v = max 0 ((desk.settledCash
        (sells kit (livePorts kit desk r) r plan w').1.world.outside).1.getD 0 - plan.book.reserved) := by
      simp only [budget, hok]
    have hreserve : cashReserve kit desk r v = plan.book.reserved := by simp only [cashReserve, hok]
    have hw := hplan (budget kit desk r v) (cashReserve kit desk r v)
    rw [hok] at hw
    unfold executePlan
    extract_lets sold start bought
    have hsold : Holds (budget kit desk r v) (cashReserve kit desk r v) 0 sold.1.world :=
      Frames.sells_kept (fun intent reduction w hside hw => keeps_submitSell hside w hw) hw
    have hwithin : Within (budget kit desk r v) (cashReserve kit desk r v) none start.1 := by
      rw [hbudget] at hsold ⊢
      exact startBuys_within hc (plan_reserved hok) hsold
    have hbought : Within (budget kit desk r v) (cashReserve kit desk r v) bought.2 bought.1 :=
      buys_within hx hc hreserve.symm hwithin
    split
    · exact ⟨hsold.1, hsold.2 ▸ budget_nonneg⟩
    · split
      · exact ⟨hbought.budgeted, hbought.spent⟩
      · exact ⟨hbought.budgeted, hbought.spent⟩

/-- A cash-only run spends at most what it observed after its sells. -/
theorem buys_within_settled_cash (hx : SendsOnce desk) (hc : r.cashOnlyExecution = true) :
    let acts := (executeRebalance kit (livePorts kit desk r) r ⟨v, []⟩).world.acts
    spent acts ≤ budget kit desk r v ∧
      ∀ before d after, acts = before ++ .dispatch d :: after → d.intent.side = .buy →
        Lawful (budget kit desk r v) (cashReserve kit desk r v) before d :=
  have h : Ended (budget kit desk r v) (cashReserve kit desk r v)
      (executeRebalance kit (livePorts kit desk r) r ⟨v, []⟩).world := executeRebalance_ended hx hc
  ⟨h.2, fun before d after hacts hside => h.1 before (.dispatch d) after hacts d rfl hside⟩

def desk₀ : Desk Unit :=
  { receptive { quiet [("TLT", 50)] (some 2000) with
      session := some ⟨true, fun v => (some (), v), fun v => (some (some false), v)⟩ } with
    qualify := fun _ v => ([(1, ⟨"U1", "USD", "SettledCash", .finite 600, false, none, none⟩)], .ok (), v) }

lemma desk₀_sendsOnce : SendsOnce desk₀ where
  execute intent limit v hl := by
    refine ⟨⟨rfl, by simp [brokerOrder, hl]⟩, fun refused => ?_⟩
    cases refused <;> trivial
  dispatch _ _ _ _ _ hf := hf _

def acts₀ : List Act :=
  (executeRebalance wholeShares (livePorts wholeShares desk₀ (request₀ false [] [("TLT", 1 / 2)] 2000))
    (request₀ false [] [("TLT", 1 / 2)] 2000) ⟨(), []⟩).world.acts

theorem buys_within_settled_cash₀ : spent acts₀ = 550 ∧ spent acts₀ ≤ 2000 := by
  have hbudget : budget wholeShares desk₀ (request₀ false [] [("TLT", 1 / 2)] 2000) () = 2000 := by decide +kernel
  refine ⟨by decide +kernel, ?_⟩
  rw [← hbudget]
  exact (buys_within_settled_cash desk₀_sendsOnce rfl).1

end Runs

end IbkrPlatform.Execution.SettledBudget
