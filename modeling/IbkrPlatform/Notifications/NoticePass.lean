import IbkrPlatform.Library.Attempt
import IbkrPlatform.Notifications.Notices

/-! One pass over the rows of a settlement summary: which passes end without an exception, and their run as a publisher. -/

namespace IbkrPlatform.Notifications.NoticePass

open Library Settlement Notices

inductive ExceptionType
  | runtimeDeadlineExceeded
  | ibkrGatewayUnavailableError
  | ibkrTradingPermissionError
  | ibkrPortfolioSnapshotUnavailableError
  | valueError
  | other (name : String)
deriving DecidableEq

structure Raised where
  type : ExceptionType
  text : String
deriving DecidableEq

def valueError (text : String) : Raised := ⟨.valueError, text⟩

def runtimeError (text : String) : Raised := ⟨.other "RuntimeError", text⟩

structure Ports where
  persist : Row → Except Raised Bool
  claimed : Row → Delivery
  send : String → Except Raised Bool
  created : Row → Delivery
  read : Row → Option Raised
  unavailable : Raised

structure Outbox (I : Type) where
  store : Store
  log : List (Notices.Event I)

section Code

variable {I : Type} (ports : Ports) (texts : Texts) (zh : Bool) (i : I)

def settlementCandidate (row : Row) : Attempt (Outbox I) Raised Unit := .of fun s =>
  match ports.persist row with
  | .error e => (.error e, s)
  | .ok false => (.error (runtimeError "settlement_candidate_unconfirmed"), s)
  | .ok true => (.ok (), { s with log := s.log ++ [.published i row] })

def claimAttempt (row : Row) : Attempt (Outbox I) Raised Bool := .of fun s =>
  if !validAttempt row.settlementAttemptId then (.error (valueError "settlement_attempt_invalid"), s)
  else
    let claim := s.store.claimMarker ⟨row.settlementAttemptId, .noticeAttempt⟩
    let after := ⟨claim.1, if claim.2 then s.log ++ [.claimed i row.settlementAttemptId] else s.log⟩
    match ports.claimed row with
    | .lost => (.error ports.unavailable, s)
    | .unacknowledged => (.error ports.unavailable, after)
    | .acknowledged => (.ok claim.2, after)

def sendNotice (row : Row) : Attempt (Outbox I) Raised Unit := .of fun s =>
  match settledNotice texts zh row with
  | .error e => (.error ⟨.other "TypeError", e⟩, s)
  | .ok text =>
    match ports.send text with
    | .error e => (.error e, { s with log := s.log ++ [.sent i row text .exception] })
    | .ok false =>
      (.error (runtimeError "settlement_notification_unconfirmed"), { s with log := s.log ++ [.sent i row text .negative] })
    | .ok true => (.ok (), { s with log := s.log ++ [.sent i row text .acknowledged] })

def createReceipt (row : Row) : Attempt (Outbox I) Raised Unit := .of fun s =>
  let created := s.store.create ⟨row.settlementAttemptId, .noticeReceipt⟩
  match ports.created row, created.2 with
  | .lost, _ => (.error ports.unavailable, s)
  | .unacknowledged, _ => (.error ports.unavailable, { s with store := created.1 })
  | .acknowledged, .error e => (.error (runtimeError e), { s with store := created.1 })
  | .acknowledged, .ok _ => (.ok (), { s with store := created.1 })

def checkReceipt (row : Row) : Attempt (Outbox I) Raised Unit := .of fun s =>
  match ports.read row with
  | some e => (.error e, s)
  | none =>
    if ⟨row.settlementAttemptId, .noticeReceipt⟩ ∈ s.store then (.ok (), s)
    else (.error (runtimeError "settlement_notification_delivery_unknown"), s)

def notify (row : Row) : Attempt (Outbox I) Raised Unit := do
  let claimed ← claimAttempt ports i row
  if claimed then do
    sendNotice ports texts zh i row
    createReceipt ports row
  else checkReceipt ports row

def publishRow (row : Row) : Attempt (Outbox I) Raised Unit :=
  if row.sourceRunId = "" then throw (valueError "settlement_source_run_missing")
  else do
    settlementCandidate ports i row
    if row.brokerConfirmedTerminal then notify ports texts zh i row else pure ()

def publishSettlementNotices : List Row → Attempt (Outbox I) Raised Unit
  | [] => pure ()
  | row :: rest => do
    publishRow ports texts zh i row
    publishSettlementNotices rest

end Code

section Acceptance

variable {I : Type} {ports : Ports} {texts : Texts} {zh : Bool} {i : I} {row : Row} {s t : Outbox I}

structure Clear (ports : Ports) (texts : Texts) (zh : Bool) (store : Store) (row : Row) : Prop where
  source : row.sourceRunId ≠ ""
  persisted : ports.persist row = .ok true
  claimed : row.brokerConfirmedTerminal = true → validAttempt row.settlementAttemptId = true ∧ ports.claimed row = .acknowledged
  sent : row.brokerConfirmedTerminal = true → ⟨row.settlementAttemptId, .noticeAttempt⟩ ∉ store →
    (∃ text, settledNotice texts zh row = .ok text ∧ ports.send text = .ok true) ∧ ports.created row = .acknowledged
  receipted : row.brokerConfirmedTerminal = true → ⟨row.settlementAttemptId, .noticeAttempt⟩ ∈ store →
    ports.read row = none ∧ ⟨row.settlementAttemptId, .noticeReceipt⟩ ∈ store

lemma attempted_iff {store : Store} {a : String} : (⟨a, .noticeAttempt⟩ : Entry).key ∈ store.map Entry.key ↔
    ⟨a, .noticeAttempt⟩ ∈ store := by
  refine ⟨fun h => ?_, List.mem_map_of_mem⟩
  obtain ⟨⟨b, marker⟩, he, hkey⟩ := List.mem_map.mp h
  cases marker <;> simp only [Entry.key, Marker.suffix, Prod.mk.injEq, reduceCtorEq, and_false, and_true] at hkey
  exact hkey ▸ he

lemma receipted_iff {store : Store} {a : String} : (⟨a, .noticeReceipt⟩ : Entry).key ∈ store.map Entry.key ↔
    ⟨a, .noticeReceipt⟩ ∈ store := by
  refine ⟨fun h => ?_, List.mem_map_of_mem⟩
  obtain ⟨⟨b, marker⟩, he, hkey⟩ := List.mem_map.mp h
  cases marker <;> simp only [Entry.key, Marker.suffix, Prod.mk.injEq, reduceCtorEq, and_false, and_true] at hkey
  exact hkey ▸ he

lemma create_receipt (store : Store) (a : String) : ∃ b, (store.create ⟨a, .noticeReceipt⟩).2 = .ok b := by
  unfold Store.create
  rcases claimMarker_cases store ⟨a, .noticeReceipt⟩ with ⟨hc, hkey⟩ | ⟨hc, _⟩
  · rw [hc, if_neg Bool.false_ne_true, if_pos (receipted_iff.mp hkey)]
    exact ⟨false, rfl⟩
  · rw [hc, if_pos rfl]
    exact ⟨true, rfl⟩

lemma settlementCandidate_ok : (settlementCandidate ports i row).exec s = (.ok (), t) ↔
    ports.persist row = .ok true ∧ t = { s with log := s.log ++ [.published i row] } := by
  unfold settlementCandidate
  rw [Attempt.exec_of]
  cases ports.persist row with
  | error e => simp
  | ok persisted => cases persisted <;> simp [eq_comm]

lemma claimAttempt_ok {claimed : Bool} (h : (claimAttempt ports i row).exec s = (.ok claimed, t)) :
    (validAttempt row.settlementAttemptId = true ∧ ports.claimed row = .acknowledged) ∧
      (claimed = true ↔ ⟨row.settlementAttemptId, .noticeAttempt⟩ ∉ s.store) ∧
      ∀ a, ⟨a, .noticeReceipt⟩ ∈ t.store ↔ ⟨a, .noticeReceipt⟩ ∈ s.store := by
  unfold claimAttempt at h
  rw [Attempt.exec_of] at h
  split at h
  · cases h
  · rename_i hvalid
    dsimp only at h
    split at h
    · cases h
    · cases h
    · rename_i hclaimed
      obtain ⟨hb, rfl⟩ := Prod.mk.inj h
      obtain rfl := Except.ok.inj hb
      refine ⟨⟨by simpa using hvalid, hclaimed⟩, ?_⟩
      rcases claimMarker_cases s.store ⟨row.settlementAttemptId, .noticeAttempt⟩ with ⟨hc, hkey⟩ | ⟨hc, hkey⟩
      · rw [hc]
        exact ⟨iff_of_false Bool.false_ne_true fun hfree => hfree (attempted_iff.mp hkey), fun _ => Iff.rfl⟩
      · rw [hc]
        refine ⟨iff_of_true rfl fun hin => hkey (attempted_iff.mpr hin), fun a => ?_⟩
        simp

lemma sendNotice_ok : (∃ t, (sendNotice ports texts zh i row).exec s = (.ok (), t)) ↔
    ∃ text, settledNotice texts zh row = .ok text ∧ ports.send text = .ok true := by
  unfold sendNotice
  simp only [Attempt.exec_of]
  cases settledNotice texts zh row with
  | error e => simp
  | ok text =>
    simp only [Except.ok.injEq, exists_eq_left']
    cases ports.send text with
    | error e => simp
    | ok sent => cases sent <;> simp

lemma createReceipt_ok : (∃ t, (createReceipt ports row).exec s = (.ok (), t)) ↔ ports.created row = .acknowledged := by
  obtain ⟨b, hb⟩ := create_receipt s.store row.settlementAttemptId
  unfold createReceipt
  simp only [Attempt.exec_of, hb]
  cases ports.created row <;> simp

lemma checkReceipt_ok : (∃ t, (checkReceipt ports row).exec s = (.ok (), t)) ↔
    ports.read row = none ∧ ⟨row.settlementAttemptId, .noticeReceipt⟩ ∈ s.store := by
  unfold checkReceipt
  simp only [Attempt.exec_of]
  cases ports.read row with
  | some e => simp
  | none =>
    by_cases hin : ⟨row.settlementAttemptId, .noticeReceipt⟩ ∈ s.store <;> simp [hin]

lemma claimAttempt_acknowledged (h : validAttempt row.settlementAttemptId = true ∧ ports.claimed row = .acknowledged) :
    ∃ claimed t, (claimAttempt ports i row).exec s = (.ok claimed, t) := by
  unfold claimAttempt
  rw [Attempt.exec_of, if_neg (by simp [h.1]), h.2]
  exact ⟨_, _, rfl⟩

lemma notify_ok : (∃ t, (notify ports texts zh i row).exec s = (.ok (), t)) ↔
    (validAttempt row.settlementAttemptId = true ∧ ports.claimed row = .acknowledged) ∧
      (⟨row.settlementAttemptId, .noticeAttempt⟩ ∉ s.store →
        (∃ text, settledNotice texts zh row = .ok text ∧ ports.send text = .ok true) ∧ ports.created row = .acknowledged) ∧
      (⟨row.settlementAttemptId, .noticeAttempt⟩ ∈ s.store →
        ports.read row = none ∧ ⟨row.settlementAttemptId, .noticeReceipt⟩ ∈ s.store) := by
  unfold notify
  constructor
  · rintro ⟨t, h⟩
    obtain ⟨claimed, u, hclaim, h⟩ := Attempt.exec_bind_ok.mp h
    obtain ⟨hports, hfree, hreceipts⟩ := claimAttempt_ok hclaim
    refine ⟨hports, fun hnew => ?_, fun hold => ?_⟩
    · rw [if_pos (hfree.mpr hnew)] at h
      obtain ⟨_, v, hsent, hcreated⟩ := Attempt.exec_bind_ok.mp h
      exact ⟨sendNotice_ok.mp ⟨v, hsent⟩, createReceipt_ok.mp ⟨t, hcreated⟩⟩
    · rw [if_neg fun hc => hfree.mp hc hold] at h
      rw [← hreceipts]
      exact checkReceipt_ok.mp ⟨t, h⟩
  · rintro ⟨hports, hsent, hreceipted⟩
    obtain ⟨claimed, u, hclaim⟩ := claimAttempt_acknowledged (i := i) (s := s) hports
    obtain ⟨_, hfree, hreceipts⟩ := claimAttempt_ok hclaim
    suffices h : ∃ t, (if claimed = true then do
        sendNotice ports texts zh i row
        createReceipt ports row
      else checkReceipt ports row : Attempt (Outbox I) Raised Unit).exec u = (.ok (), t) by
      obtain ⟨t, h⟩ := h
      exact ⟨t, Attempt.exec_bind_ok.mpr ⟨claimed, u, hclaim, h⟩⟩
    by_cases hnew : ⟨row.settlementAttemptId, .noticeAttempt⟩ ∈ s.store
    · rw [if_neg fun hc => hfree.mp hc hnew]
      refine checkReceipt_ok.mpr ?_
      rw [hreceipts]
      exact hreceipted hnew
    · rw [if_pos (hfree.mpr hnew)]
      obtain ⟨v, hv⟩ := sendNotice_ok.mpr (hsent hnew).1
      obtain ⟨t, ht⟩ := createReceipt_ok.mpr (hsent hnew).2
      exact ⟨t, Attempt.exec_bind_ok.mpr ⟨(), v, hv, ht⟩⟩

lemma publishRow_ok : (∃ t, (publishRow ports texts zh i row).exec s = (.ok (), t)) ↔ Clear ports texts zh s.store row := by
  unfold publishRow
  by_cases hsource : row.sourceRunId = ""
  · rw [if_pos hsource]
    refine iff_of_false ?_ fun h => h.source hsource
    rintro ⟨t, h⟩
    simp at h
  · rw [if_neg hsource]
    constructor
    · rintro ⟨t, h⟩
      obtain ⟨_, u, hcandidate, h⟩ := Attempt.exec_bind_ok.mp h
      obtain ⟨hpersisted, rfl⟩ := settlementCandidate_ok.mp hcandidate
      have hnotify : row.brokerConfirmedTerminal = true → _ := fun hterminal =>
        notify_ok.mp ⟨t, by simpa only [hterminal, if_true] using h⟩
      exact ⟨hsource, hpersisted, fun ht => (hnotify ht).1, fun ht => (hnotify ht).2.1, fun ht => (hnotify ht).2.2⟩
    · intro h
      have hcandidate := (settlementCandidate_ok (i := i) (s := s)).mpr ⟨h.persisted, rfl⟩
      by_cases hterminal : row.brokerConfirmedTerminal = true
      · obtain ⟨t, ht⟩ := (notify_ok (i := i) (s := { s with log := s.log ++ [.published i row] })).mpr
          ⟨h.claimed hterminal, h.sent hterminal, h.receipted hterminal⟩
        exact ⟨t, Attempt.exec_bind_ok.mpr ⟨(), _, hcandidate, by simpa only [hterminal, if_true] using ht⟩⟩
      · exact ⟨_, Attempt.exec_bind_ok.mpr ⟨(), _, hcandidate, by rw [if_neg hterminal, Attempt.exec_pure]⟩⟩

end Acceptance

section Independence

variable {I : Type} {ports : Ports} {texts : Texts} {zh : Bool} {i : I} {row : Row} {rows : List Row} {s t : Outbox I}

def SameElsewhere (a : String) (store store' : Store) : Prop := ∀ e : Entry, e.attempt ≠ a → (e ∈ store' ↔ e ∈ store)

lemma sameElsewhere_append {a : String} {store store' : Store} {e : Entry} (h : SameElsewhere a store store') (he : e.attempt = a) :
    SameElsewhere a store (store' ++ [e]) := by
  intro e' ha
  rw [List.mem_append, List.mem_singleton, ← h e' ha]
  exact or_iff_left fun heq => ha (heq ▸ he)

lemma sameElsewhere_claim {a : String} {store store' : Store} {e : Entry} (h : SameElsewhere a store store') (he : e.attempt = a) :
    SameElsewhere a store (store'.claimMarker e).1 := by
  rcases claimMarker_cases store' e with ⟨hc, _⟩ | ⟨hc, _⟩ <;> rw [hc]
  · exact h
  · exact sameElsewhere_append h he

lemma sameElsewhere_create {a : String} {store store' : Store} {e : Entry} (h : SameElsewhere a store store') (he : e.attempt = a) :
    SameElsewhere a store (store'.create e).1 := by
  rcases create_cases (Prod.mk.eta (p := store'.create e)).symm with ⟨hc, _⟩ | ⟨hc, _⟩ <;> rw [hc]
  · exact h
  · exact sameElsewhere_append h he

lemma publishRow_elsewhere (store : Store) :
    Attempt.Keeps (fun o => SameElsewhere row.settlementAttemptId store o.store) (publishRow ports texts zh i row) := by
  have hcandidate : Attempt.Keeps (fun o => SameElsewhere row.settlementAttemptId store o.store)
      (settlementCandidate ports i row) := by
    refine Attempt.keeps_of fun o h => ?_
    split <;> exact h
  have hclaim : Attempt.Keeps (fun o => SameElsewhere row.settlementAttemptId store o.store) (claimAttempt ports i row) := by
    refine Attempt.keeps_of fun o h => ?_
    split
    · exact h
    · dsimp only
      split
      · exact h
      · exact sameElsewhere_claim h rfl
      · exact sameElsewhere_claim h rfl
  have hsend : Attempt.Keeps (fun o => SameElsewhere row.settlementAttemptId store o.store)
      (sendNotice ports texts zh i row) := by
    refine Attempt.keeps_of fun o h => ?_
    split
    · exact h
    · split <;> exact h
  have hcreate : Attempt.Keeps (fun o => SameElsewhere row.settlementAttemptId store o.store) (createReceipt (I := I) ports row) := by
    refine Attempt.keeps_of fun o h => ?_
    dsimp only
    split
    · exact h
    · exact sameElsewhere_create h rfl
    · exact sameElsewhere_create h rfl
    · exact sameElsewhere_create h rfl
  have hcheck : Attempt.Keeps (fun o => SameElsewhere row.settlementAttemptId store o.store) (checkReceipt (I := I) ports row) := by
    refine Attempt.keeps_of fun o h => ?_
    split
    · exact h
    · split <;> exact h
  unfold publishRow
  split
  · exact Attempt.keeps_throw
  · refine Attempt.keeps_bind hcandidate fun _ => ?_
    split
    · refine Attempt.keeps_bind hclaim fun claimed => ?_
      split
      · exact Attempt.keeps_bind hsend fun _ => hcreate
      · exact hcheck
    · exact Attempt.keeps_pure ()

lemma SameElsewhere.symm {a : String} {store store' : Store} (h : SameElsewhere a store store') : SameElsewhere a store' store :=
  fun e he => (h e he).symm

lemma Clear.elsewhere {a : String} {store store' : Store} (hc : Clear ports texts zh store row)
    (h : SameElsewhere a store store') (ha : row.settlementAttemptId ≠ a) : Clear ports texts zh store' row where
  source := hc.source
  persisted := hc.persisted
  claimed := hc.claimed
  sent ht hnew := hc.sent ht fun hin => hnew ((h _ ha).mpr hin)
  receipted ht hin := by
    obtain ⟨hread, hreceipt⟩ := hc.receipted ht ((h _ ha).mp hin)
    exact ⟨hread, (h _ ha).mpr hreceipt⟩

lemma publishSettlementNotices_ok (hnodup : (rows.map Row.settlementAttemptId).Nodup) :
    (∃ t, (publishSettlementNotices ports texts zh i rows).exec s = (.ok (), t)) ↔
      ∀ row ∈ rows, Clear ports texts zh s.store row := by
  induction rows generalizing s with
  | nil => exact iff_of_true ⟨s, rfl⟩ fun _ h => absurd h List.not_mem_nil
  | cons row rest ih =>
    obtain ⟨hfresh, hnodup⟩ := List.nodup_cons.mp hnodup
    have hrest : ∀ u, (publishRow ports texts zh i row).exec s = (.ok (), u) →
        ((∀ r ∈ rest, Clear ports texts zh u.store r) ↔ ∀ r ∈ rest, Clear ports texts zh s.store r) := by
      intro u hu
      have hsame : SameElsewhere row.settlementAttemptId s.store u.store :=
        (publishRow_elsewhere s.store).of_exec hu fun _ _ => Iff.rfl
      have hother : ∀ r ∈ rest, r.settlementAttemptId ≠ row.settlementAttemptId :=
        fun r hr he => hfresh (he ▸ List.mem_map_of_mem hr)
      exact forall₂_congr fun r hr => ⟨fun hc => hc.elsewhere hsame.symm (hother r hr), fun hc => hc.elsewhere hsame (hother r hr)⟩
    rw [List.forall_mem_cons]
    constructor
    · rintro ⟨t, h⟩
      obtain ⟨_, u, hu, ht⟩ := Attempt.exec_bind_ok.mp h
      exact ⟨publishRow_ok.mp ⟨u, hu⟩, (hrest u hu).mp ((ih hnodup).mp ⟨t, ht⟩)⟩
    · rintro ⟨hrow, hall⟩
      obtain ⟨u, hu⟩ := (publishRow_ok (i := i)).mpr hrow
      obtain ⟨t, ht⟩ := (ih hnodup).mpr ((hrest u hu).mpr hall)
      exact ⟨t, Attempt.exec_bind_ok.mpr ⟨(), u, hu, ht⟩⟩

end Independence

section Publisher

variable {I : Type} [DecidableEq I] {ports : Ports} (texts : Texts) (zh : Bool) (profile : String) {i : I} {row : Row}
  {rest rows : List Row} {s : Notices.State I} {t : Outbox I}

def place (s : Notices.State I) (i : I) (t : Outbox I) (phase : Phase) : Notices.State I :=
  ⟨t.store, Function.update s.phase i phase, t.log⟩

def outbox (s : Notices.State I) : Outbox I := ⟨s.store, s.log⟩

def after {α : Type} (phase : α → Phase) : Except Raised α → Phase
  | .ok a => phase a
  | .error _ => .raised

lemma place_place (s : Notices.State I) (u : Outbox I) (ph ph' : Phase) : place (place s i u ph) i t ph' = place s i t ph' := by
  simp [place]

lemma step_candidate {x : Except Raised Unit} (hi : s.phase i = .publishing row rest) (hsource : row.sourceRunId ≠ "")
    (h : (settlementCandidate ports i row).exec (outbox s) = (x, t)) :
    ∃ l, step texts zh profile s (i, l) =
      some (place s i t (after (fun _ => if row.brokerConfirmedTerminal then .claiming row rest else nextRow rest) x)) := by
  unfold settlementCandidate at h
  rw [Attempt.exec_of] at h
  split at h
  · obtain ⟨rfl, rfl⟩ := Prod.mk.inj h
    exact ⟨.publish false, by simp [step, hi, place, outbox, after, Notices.State.goto]⟩
  · obtain ⟨rfl, rfl⟩ := Prod.mk.inj h
    exact ⟨.publish false, by simp [step, hi, place, outbox, after, Notices.State.goto]⟩
  · obtain ⟨rfl, rfl⟩ := Prod.mk.inj h
    exact ⟨.publish true, by simp [step, hi, hsource, place, outbox, after, Notices.State.goto]⟩

lemma step_claim {x : Except Raised Bool} (hi : s.phase i = .claiming row rest)
    (h : (claimAttempt ports i row).exec (outbox s) = (x, t)) :
    step texts zh profile s (i, .claim (ports.claimed row)) =
      some (place s i t (after (fun claimed => if claimed then .sending row rest else .checking row rest) x)) := by
  unfold claimAttempt at h
  rw [Attempt.exec_of] at h
  unfold step
  simp only [hi]
  split at h
  · rename_i hvalid
    obtain ⟨rfl, rfl⟩ := Prod.mk.inj h
    rw [if_pos hvalid]
    rfl
  · rename_i hvalid
    rw [if_neg hvalid]
    cases hc : ports.claimed row <;> simp only [hc] at h <;> obtain ⟨rfl, rfl⟩ := Prod.mk.inj h <;> rfl

lemma step_send {x : Except Raised Unit} (hi : s.phase i = .sending row rest)
    (h : (sendNotice ports texts zh i row).exec (outbox s) = (x, t)) :
    ∃ l, step texts zh profile s (i, l) = some (place s i t (after (fun _ => .receipting row rest) x)) := by
  unfold sendNotice at h
  rw [Attempt.exec_of] at h
  split at h
  · rename_i htext
    obtain ⟨rfl, rfl⟩ := Prod.mk.inj h
    exact ⟨.send .exception, by simp [step, hi, htext, place, outbox, after, Notices.State.goto]⟩
  · rename_i text htext
    split at h
    · obtain ⟨rfl, rfl⟩ := Prod.mk.inj h
      exact ⟨.send .exception, by simp [step, hi, htext, place, outbox, after, Notices.State.goto]⟩
    · obtain ⟨rfl, rfl⟩ := Prod.mk.inj h
      exact ⟨.send .negative, by simp [step, hi, htext, place, outbox, after, Notices.State.goto]⟩
    · obtain ⟨rfl, rfl⟩ := Prod.mk.inj h
      exact ⟨.send .acknowledged, by simp [step, hi, htext, place, outbox, after, Notices.State.goto]⟩

lemma step_receipt {x : Except Raised Unit} (hi : s.phase i = .receipting row rest)
    (h : (createReceipt ports row).exec (outbox s) = (x, t)) :
    step texts zh profile s (i, .receipt (ports.created row)) = some (place s i t (after (fun _ => nextRow rest) x)) := by
  unfold createReceipt at h
  rw [Attempt.exec_of] at h
  unfold step
  simp only [hi]
  dsimp only [outbox] at h
  split at h
  · rename_i hc
    obtain ⟨rfl, rfl⟩ := Prod.mk.inj h
    simp only [hc]
    rfl
  · rename_i hc
    obtain ⟨rfl, rfl⟩ := Prod.mk.inj h
    simp only [hc]
    rfl
  · rename_i hc hcreated
    obtain ⟨rfl, rfl⟩ := Prod.mk.inj h
    simp only [hc, hcreated]
    rfl
  · rename_i hc hcreated
    obtain ⟨rfl, rfl⟩ := Prod.mk.inj h
    simp only [hc, hcreated]
    rfl

lemma step_check {x : Except Raised Unit} (hi : s.phase i = .checking row rest)
    (h : (checkReceipt ports row).exec (outbox s) = (x, t)) :
    ∃ l, step texts zh profile s (i, l) = some (place s i t (after (fun _ => nextRow rest) x)) := by
  unfold checkReceipt at h
  rw [Attempt.exec_of] at h
  split at h
  · obtain ⟨rfl, rfl⟩ := Prod.mk.inj h
    exact ⟨.crash, by simp only [step, hi]; rfl⟩
  · split at h
    · rename_i hin
      obtain ⟨rfl, rfl⟩ := Prod.mk.inj h
      exact ⟨.check, by simp only [step, hi]; rw [if_pos (by exact hin)]; rfl⟩
    · rename_i hin
      obtain ⟨rfl, rfl⟩ := Prod.mk.inj h
      exact ⟨.check, by simp only [step, hi]; rw [if_neg (by exact hin)]; rfl⟩

lemma run_bind {α : Type} {x : Attempt (Outbox I) Raised α} {f : α → Attempt (Outbox I) Raised Unit} (phase : α → Phase)
    {final : Phase} (hx : ∀ a u, x.exec (outbox s) = (a, u) →
      ∃ ls, (publishers texts zh profile).Run s ls (place s i u (after phase a)))
    (hf : ∀ a u, x.exec (outbox s) = (.ok a, u) → ∀ y v, (f a).exec u = (y, v) →
      ∃ ls, (publishers texts zh profile).Run (place s i u (phase a)) ls (place s i v (after (fun _ => final) y)))
    {y : Except Raised Unit} (h : (x >>= f).exec (outbox s) = (y, t)) :
    ∃ ls, (publishers texts zh profile).Run s ls (place s i t (after (fun _ => final) y)) := by
  rw [Attempt.exec_bind] at h
  cases he : x.exec (outbox s) with
  | mk a u =>
    obtain ⟨ks, hk⟩ := hx a u he
    rw [he] at h
    cases a with
    | error e =>
      obtain ⟨rfl, rfl⟩ := Prod.mk.inj h
      exact ⟨ks, hk⟩
    | ok a =>
      obtain ⟨ls, hl⟩ := hf a u he y t h
      exact ⟨ks ++ ls, hk.trans hl⟩

lemma place_phase (s : Notices.State I) (u : Outbox I) (ph : Phase) : (place s i u ph).phase i = ph := Function.update_self ..

lemma run_notify {y : Except Raised Unit} (hi : s.phase i = .claiming row rest)
    (h : (notify ports texts zh i row).exec (outbox s) = (y, t)) :
    ∃ ls, (publishers texts zh profile).Run s ls (place s i t (after (fun _ => nextRow rest) y)) := by
  have hclaim : ∀ x u, (claimAttempt ports i row).exec (outbox s) = (x, u) → ∃ ls, (publishers texts zh profile).Run s ls
      (place s i u (after (fun claimed => if claimed = true then .sending row rest else .checking row rest) x)) :=
    fun x u hu => ⟨_, System.Run.single (step_claim texts zh profile hi hu)⟩
  refine run_bind texts zh profile _ hclaim (fun claimed u _ y v hv => ?_) h
  cases claimed with
  | true =>
    have hrun : ∃ ls, (publishers texts zh profile).Run (place s i u (.sending row rest)) ls
        (place (place s i u (.sending row rest)) i v (after (fun _ => nextRow rest) y)) := by
      refine run_bind texts zh profile (fun _ => .receipting row rest) (fun x w hw => ?_) (fun _ w _ z v' hz => ?_) hv
      · obtain ⟨l, hl⟩ := step_send texts zh profile (place_phase s u (.sending row rest)) hw
        exact ⟨_, System.Run.single hl⟩
      · rw [place_place, place_place]
        have hstep := step_receipt (s := place s i w (.receipting row rest)) texts zh profile (place_phase s w _) hz
        rw [place_place] at hstep
        exact ⟨_, System.Run.single hstep⟩
    rwa [place_place] at hrun
  | false =>
    obtain ⟨l, hl⟩ := step_check texts zh profile (place_phase s u (.checking row rest)) hv
    rw [place_place] at hl
    exact ⟨_, System.Run.single hl⟩

lemma run_row {y : Except Raised Unit} (hi : s.phase i = .publishing row rest)
    (h : (publishRow ports texts zh i row).exec (outbox s) = (y, t)) :
    ∃ ls, (publishers texts zh profile).Run s ls (place s i t (after (fun _ => nextRow rest) y)) := by
  unfold publishRow at h
  split at h
  · rename_i hsource
    obtain ⟨rfl, rfl⟩ := Prod.mk.inj h
    have hstep : step texts zh profile s (i, .publish true) = some (place s i (outbox s) .raised) := by
      simp [step, hi, hsource, place, outbox, Notices.State.goto]
    exact ⟨_, System.Run.single hstep⟩
  · rename_i hsource
    refine run_bind texts zh profile (fun _ => if row.brokerConfirmedTerminal then .claiming row rest else nextRow rest)
      (fun x u hu => ?_) (fun _ u _ z v hv => ?_) h
    · obtain ⟨l, hl⟩ := step_candidate texts zh profile hi hsource hu
      exact ⟨_, System.Run.single hl⟩
    · by_cases hterminal : row.brokerConfirmedTerminal = true
      · rw [if_pos hterminal] at hv ⊢
        obtain ⟨ls, hl⟩ := run_notify texts zh profile (place_phase s u (.claiming row rest)) hv
        rw [place_place] at hl
        exact ⟨ls, hl⟩
      · rw [if_neg hterminal] at hv ⊢
        obtain ⟨rfl, rfl⟩ := Prod.mk.inj hv
        exact ⟨[], .nil _⟩

lemma pass_runs {y : Except Raised Unit} (hi : s.phase i = nextRow rows)
    (h : (publishSettlementNotices ports texts zh i rows).exec (outbox s) = (y, t)) :
    ∃ ls, (publishers texts zh profile).Run s ls (place s i t (after (fun _ => .returned) y)) := by
  induction rows generalizing s t y with
  | nil =>
    obtain ⟨rfl, rfl⟩ := Prod.mk.inj h
    have hplace : place s i (outbox s) .returned = s := by
      have hsame : Function.update s.phase i .returned = s.phase := Function.update_eq_self_iff.mpr hi.symm
      rw [place, hsame]
      rfl
    exact ⟨[], hplace.symm ▸ .nil s⟩
  | cons row rest ih =>
    refine run_bind texts zh profile (fun _ => nextRow rest) (fun x u hu => run_row texts zh profile hi hu)
      (fun _ u _ z v hv => ?_) h
    obtain ⟨ls, hl⟩ := ih (s := place s i u (nextRow rest)) (place_phase s u _) hv
    rw [place_place] at hl
    exact ⟨ls, hl⟩

end Publisher

end IbkrPlatform.Notifications.NoticePass
