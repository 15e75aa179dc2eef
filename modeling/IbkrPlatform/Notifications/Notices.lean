import IbkrPlatform.Library.Chronicle
import IbkrPlatform.Library.Transition
import IbkrPlatform.Library.VersionedCell
import IbkrPlatform.Notifications.Projection
import IbkrPlatform.Settlement.Observers

/-! Concurrent publishers of settlement notices: a marker is claimed before each notice, and a receipt created after it. -/

namespace IbkrPlatform.Notifications.Notices

open Library Settlement

inductive Answer
  | acknowledged
  | negative
  | exception
deriving DecidableEq

inductive Phase
  | idle
  | publishing (row : Row) (rest : List Row)
  | claiming (row : Row) (rest : List Row)
  | sending (row : Row) (rest : List Row)
  | receipting (row : Row) (rest : List Row)
  | checking (row : Row) (rest : List Row)
  | returned
  | raised
deriving DecidableEq

inductive Action
  | summarize
  | publish (persisted : Bool)
  | claim (delivery : Delivery)
  | send (answer : Answer)
  | receipt (delivery : Delivery)
  | check
  | crash
  | record (e : Entry)

inductive Event (I : Type)
  | published (i : I) (row : Row)
  | claimed (i : I) (attempt : String)
  | sent (i : I) (row : Row) (text : String) (answer : Answer)
deriving DecidableEq

structure State (I : Type) where
  store : Store
  phase : I → Phase
  log : List (Event I)

section Code

variable {I : Type} [DecidableEq I] (texts : Texts) (zh : Bool) (profile : String)

def State.goto (s : State I) (i : I) (phase : Phase) : State I := { s with phase := Function.update s.phase i phase }

def nextRow : List Row → Phase
  | [] => .returned
  | row :: rest => .publishing row rest

def isNotice : Marker → Bool
  | .noticeAttempt | .noticeReceipt => true
  | _ => false

def step (s : State I) (l : I × Action) : Option (State I) :=
  let i := l.1
  match s.phase i, l.2 with
  | _, .record e => if isNotice e.marker then none else some { s with store := (s.store.claimMarker e).1 }
  | .returned, _ | .raised, _ => none
  | _, .crash => some (s.goto i .raised)
  | .idle, .summarize =>
    match settlementSummary profile s.store with
    | .error _ => some (s.goto i .raised)
    | .ok summary => some (s.goto i (nextRow summary.ordersSubmitted))
  | .publishing row rest, .publish persisted =>
    if row.sourceRunId = "" ∨ !persisted then some (s.goto i .raised)
    else some { s.goto i (if row.brokerConfirmedTerminal then .claiming row rest else nextRow rest) with
      log := s.log ++ [.published i row] }
  | .claiming row rest, .claim delivery =>
    if !validAttempt row.settlementAttemptId then some (s.goto i .raised)
    else
      let claim := s.store.claimMarker ⟨row.settlementAttemptId, .noticeAttempt⟩
      let log := if claim.2 then s.log ++ [.claimed i row.settlementAttemptId] else s.log
      match delivery with
      | .lost => some (s.goto i .raised)
      | .unacknowledged => some { s.goto i .raised with store := claim.1, log := log }
      | .acknowledged =>
        some { s.goto i (if claim.2 then .sending row rest else .checking row rest) with store := claim.1, log := log }
  | .sending row rest, .send answer =>
    match settledNotice texts zh row with
    | .error _ => some (s.goto i .raised)
    | .ok text => some { s.goto i (if answer = .acknowledged then .receipting row rest else .raised) with
        log := s.log ++ [.sent i row text answer] }
  | .receipting row rest, .receipt delivery =>
    let created := s.store.create ⟨row.settlementAttemptId, .noticeReceipt⟩
    match delivery, created.2 with
    | .lost, _ => some (s.goto i .raised)
    | .acknowledged, .ok _ => some { s.goto i (nextRow rest) with store := created.1 }
    | _, _ => some { s.goto i .raised with store := created.1 }
  | .checking row rest, .check =>
    if ⟨row.settlementAttemptId, .noticeReceipt⟩ ∈ s.store then some (s.goto i (nextRow rest)) else some (s.goto i .raised)
  | _, _ => none

def publishers : System (State I) (I × Action) :=
  .ofStep (fun s => s.store = [] ∧ (∀ i, s.phase i = .idle) ∧ s.log = []) (step texts zh profile)

end Code

section Invariant

variable {I : Type}

def Event.attemptSent : Event I → Option String
  | .sent _ row _ _ => some row.settlementAttemptId
  | _ => none

def Confirmed (store : Store) (attempt : String) : Prop :=
  ∃ n o, ⟨attempt, .observed n o⟩ ∈ store ∧ o.outcome.terminal = true

def Backed (store : Store) (rows : List Row) : Prop :=
  ∀ row ∈ rows, row.brokerConfirmedTerminal = true → Confirmed store row.settlementAttemptId

def Prepared (before : List (Event I)) : Event I → Prop
  | .sent i row _ _ => .published i row ∈ before ∧ .claimed i row.settlementAttemptId ∈ before ∧
      row.brokerConfirmedTerminal = true
  | _ => True

def Phase.Sound (i : I) (store : Store) (log : List (Event I)) : Phase → Prop
  | .publishing row rest => Backed store (row :: rest)
  | .claiming row rest => Backed store (row :: rest) ∧ .published i row ∈ log ∧ row.brokerConfirmedTerminal = true
  | .sending row rest => Backed store (row :: rest) ∧ Prepared log (.sent i row "" .negative) ∧
      row.settlementAttemptId ∉ log.filterMap Event.attemptSent
  | .receipting row rest => Backed store rest ∧ ∃ text, .sent i row text .acknowledged ∈ log
  | .checking _ rest => Backed store rest
  | _ => True

structure State.Sound (s : State I) : Prop where
  claimed : ∀ i a, .claimed i a ∈ s.log → (a, Suffix.noticeAttempt) ∈ s.store.map Entry.key
  claimer : ∀ i j a, .claimed i a ∈ s.log → .claimed j a ∈ s.log → i = j
  once : (s.log.filterMap Event.attemptSent).Nodup
  prepared : Chronicle.Preceded Prepared s.log
  confirmed : ∀ i row text answer, .sent i row text answer ∈ s.log → Confirmed s.store row.settlementAttemptId
  receipts : ∀ a, ⟨a, .noticeReceipt⟩ ∈ s.store → ∃ i row text, .sent i row text .acknowledged ∈ s.log ∧
    row.settlementAttemptId = a
  phases : ∀ i, (s.phase i).Sound i s.store s.log

variable {texts : Texts} {zh : Bool} {profile : String} {store store' : Store} {rows : List Row} {row : Row}

lemma Confirmed.grow {a : String} (h : Confirmed store a) (hp : store <+: store') : Confirmed store' a := by
  obtain ⟨n, o, hmem, ht⟩ := h
  exact ⟨n, o, hp.subset hmem, ht⟩

lemma Backed.grow (h : Backed store rows) (hp : store <+: store') : Backed store' rows :=
  fun row hrow ht => (h row hrow ht).grow hp

lemma Backed.tail (h : Backed store (row :: rows)) : Backed store rows := fun r hr => h r (List.mem_cons_of_mem _ hr)

lemma summary_backed {summary : Summary} (h : settlementSummary profile store = .ok summary) :
    Backed store summary.ordersSubmitted := by
  intro row hrow ht
  obtain ⟨r, hread, rfl⟩ := settlementSummary_rows h hrow
  cases hl : r.observations.getLast? with
  | none => simp [rowOf, hl, Outcome.unknown] at ht
  | some o =>
    have hmem := List.mem_of_getLast? hl
    rw [hread.observations] at hmem
    obtain ⟨⟨n, x⟩, hx, rfl⟩ := List.mem_map.mp hmem
    have hobserved : (n, x) ∈ store.observedOf r.data.attemptId := (List.mem_insertionSort _).mp hx
    exact ⟨n, x, observedOf_mem hobserved, by simpa [rowOf, hl] using ht⟩

lemma Prepared.mono {log log' : List (Event I)} {e : Event I} (h : Prepared log e) (hl : log <+: log') : Prepared log' e := by
  cases e with
  | sent i row text answer => exact ⟨hl.subset h.1, hl.subset h.2.1, h.2.2⟩
  | published i row => trivial
  | claimed i a => trivial

lemma Phase.Sound.mono {i : I} {log log' : List (Event I)} {ph : Phase} (h : ph.Sound i store log) (hp : store <+: store')
    (hl : log <+: log')
    (hsent : ∀ row rest, ph = .sending row rest → row.settlementAttemptId ∉ log'.filterMap Event.attemptSent) :
    ph.Sound i store' log' := by
  cases ph with
  | publishing row rest => exact Backed.grow h hp
  | claiming row rest => exact ⟨h.1.grow hp, hl.subset h.2.1, h.2.2⟩
  | sending row rest => exact ⟨h.1.grow hp, h.2.1.mono hl, hsent row rest rfl⟩
  | receipting row rest =>
    obtain ⟨hb, text, hmem⟩ := h
    exact ⟨hb.grow hp, text, hl.subset hmem⟩
  | checking row rest => exact Backed.grow h hp
  | idle => trivial
  | returned => trivial
  | raised => trivial

variable [DecidableEq I] {s t : State I} {i : I} {ph : Phase}

structure Adds (s t : State I) (i : I) (es : List (Event I)) : Prop where
  store : s.store <+: t.store
  log : t.log = s.log ++ es
  claimed : ∀ j a, .claimed j a ∈ es → j = i ∧ (a, Suffix.noticeAttempt) ∉ s.store.map Entry.key ∧
    (a, Suffix.noticeAttempt) ∈ t.store.map Entry.key
  sent : ∀ a ∈ es.filterMap Event.attemptSent, .claimed i a ∈ s.log ∧ a ∉ s.log.filterMap Event.attemptSent
  once : (es.filterMap Event.attemptSent).Nodup
  prepared : Chronicle.Preceded Prepared t.log
  confirmed : ∀ j row text answer, .sent j row text answer ∈ es → Confirmed t.store row.settlementAttemptId
  receipts : ∀ a, ⟨a, .noticeReceipt⟩ ∈ t.store → ⟨a, .noticeReceipt⟩ ∈ s.store ∨
    ∃ row text, .sent i row text .acknowledged ∈ s.log ∧ row.settlementAttemptId = a

lemma State.Sound.move (h : s.Sound) (es : List (Event I)) (ha : Adds s t i es) (hphase : t.phase = Function.update s.phase i ph)
    (hph : ph.Sound i t.store t.log) : t.Sound := by
  have hl : s.log <+: t.log := ha.log ▸ List.prefix_append _ _
  refine ⟨fun j a hj => ?_, fun j k a hj hk => ?_, ?_, ha.prepared, fun j row text answer hj => ?_, fun a hin => ?_, fun j => ?_⟩
  · rw [ha.log] at hj
    rcases List.mem_append.mp hj with hj | hj
    · exact (ha.store.map Entry.key).subset (h.claimed j a hj)
    · exact (ha.claimed j a hj).2.2
  · rw [ha.log] at hj hk
    rcases List.mem_append.mp hj with hj | hj
    · rcases List.mem_append.mp hk with hk | hk
      · exact h.claimer j k a hj hk
      · exact absurd (h.claimed j a hj) (ha.claimed k a hk).2.1
    · rcases List.mem_append.mp hk with hk | hk
      · exact absurd (h.claimed k a hk) (ha.claimed j a hj).2.1
      · exact (ha.claimed j a hj).1.trans (ha.claimed k a hk).1.symm
  · rw [ha.log, List.filterMap_append, List.nodup_append]
    refine ⟨h.once, ha.once, fun a hold b hnew hab => ?_⟩
    exact (ha.sent b hnew).2 (hab ▸ hold)
  · rw [ha.log] at hj
    rcases List.mem_append.mp hj with hj | hj
    · exact (h.confirmed j row text answer hj).grow ha.store
    · exact ha.confirmed j row text answer hj
  · rcases ha.receipts a hin with hold | ⟨row, text, hmem, he⟩
    · obtain ⟨j, row, text, hmem, he⟩ := h.receipts a hold
      exact ⟨j, row, text, hl.subset hmem, he⟩
    · exact ⟨i, row, text, hl.subset hmem, he⟩
  · rw [hphase]
    by_cases hj : j = i
    · subst hj
      rw [Function.update_self]
      exact hph
    · rw [Function.update_of_ne hj]
      refine (h.phases j).mono ha.store hl fun row rest hsending hin => ?_
      have hknown := h.phases j
      rw [hsending] at hknown
      rw [ha.log, List.filterMap_append] at hin
      rcases List.mem_append.mp hin with hin | hin
      · exact hknown.2.2 hin
      · -- Only the one that claimed an attempt hands its notice over.
        exact hj (h.claimer j i _ hknown.2.1.2.1 (ha.sent _ hin).1)

omit [DecidableEq I] in
lemma adds_nothing (h : s.Sound) (hp : s.store <+: t.store) (hl : t.log = s.log)
    (hreceipts : ∀ a, ⟨a, .noticeReceipt⟩ ∈ t.store → ⟨a, .noticeReceipt⟩ ∈ s.store ∨
      ∃ row text, .sent i row text .acknowledged ∈ s.log ∧ row.settlementAttemptId = a) : Adds s t i [] where
  store := hp
  log := by rw [hl, List.append_nil]
  claimed _ _ hj := absurd hj List.not_mem_nil
  sent _ ha := absurd ha List.not_mem_nil
  once := List.nodup_nil
  prepared := hl ▸ h.prepared
  confirmed _ _ _ _ hj := absurd hj List.not_mem_nil
  receipts := hreceipts

lemma State.Sound.goto (h : s.Sound) (hph : ph.Sound i s.store s.log) : (s.goto i ph).Sound :=
  h.move (t := s.goto i ph) [] (adds_nothing h List.prefix_rfl rfl fun _ ha => .inl ha) rfl hph

omit [DecidableEq I] in
lemma nextRow_sound {log : List (Event I)} (h : Backed store rows) : (nextRow rows).Sound i store log := by
  cases rows with
  | nil => trivial
  | cons row rest => exact h

omit [DecidableEq I] in
lemma sent_claimed (h : s.Sound) {a : String} (ha : a ∈ s.log.filterMap Event.attemptSent) : ∃ j, .claimed j a ∈ s.log := by
  obtain ⟨e, he, hsent⟩ := List.mem_filterMap.mp ha
  obtain ⟨before, after, hlog, hprepared⟩ := h.prepared.mem he
  cases e with
  | sent j row text answer =>
    obtain rfl : row.settlementAttemptId = a := Option.some.inj hsent
    exact ⟨j, by rw [hlog]; exact List.mem_append_left _ hprepared.2.1⟩
  | published j row => cases hsent
  | claimed j b => cases hsent

lemma State.Sound.claim (h : s.Sound) {row : Row} {rest : List Row} (hi : s.phase i = .claiming row rest)
    (hph : ph = .raised ∨ ph = if (s.store.claimMarker ⟨row.settlementAttemptId, .noticeAttempt⟩).2 then .sending row rest
      else .checking row rest) :
    State.Sound { s.goto i ph with
      store := (s.store.claimMarker ⟨row.settlementAttemptId, .noticeAttempt⟩).1
      log := if (s.store.claimMarker ⟨row.settlementAttemptId, .noticeAttempt⟩).2 then
        s.log ++ [.claimed i row.settlementAttemptId] else s.log } := by
  have hphase := h.phases i
  rw [hi] at hphase
  obtain ⟨hbacked, hpublished, hterminal⟩ := hphase
  rcases claimMarker_cases s.store ⟨row.settlementAttemptId, .noticeAttempt⟩ with ⟨hc, _⟩ | ⟨hc, hfresh⟩
  · rw [hc] at hph ⊢
    have hown : ph.Sound i s.store s.log := by
      rcases hph with rfl | rfl
      · trivial
      · exact hbacked.tail
    exact h.goto hown
  · rw [hc] at hph ⊢
    have hgrow : s.store <+: s.store ++ [⟨row.settlementAttemptId, .noticeAttempt⟩] := List.prefix_append _ _
    have hunsent : row.settlementAttemptId ∉ s.log.filterMap Event.attemptSent := by
      intro hsent
      obtain ⟨j, hj⟩ := sent_claimed h hsent
      exact hfresh (h.claimed j _ hj)
    refine h.move (i := i) [.claimed i row.settlementAttemptId] ⟨hgrow, rfl, fun j a hj => ?_,
      fun a ha => by simp [Event.attemptSent] at ha, List.nodup_nil, h.prepared.snoc trivial, fun j r text answer hj => ?_,
      fun a ha => .inl ?_⟩ rfl ?_
    · cases List.mem_singleton.mp hj
      exact ⟨rfl, hfresh, by simp [Entry.key, Marker.suffix]⟩
    · cases List.mem_singleton.mp hj
    · rcases List.mem_append.mp ha with ha | ha
      · exact ha
      · cases List.mem_singleton.mp ha
    · rcases hph with rfl | rfl
      · trivial
      · refine ⟨hbacked.grow hgrow, ⟨List.mem_append_left _ hpublished, ?_, hterminal⟩, ?_⟩
        · exact List.mem_append_right _ (List.mem_singleton_self _)
        · simpa [List.filterMap_append, Event.attemptSent] using hunsent

lemma State.Sound.receipt (h : s.Sound) {row : Row} {rest : List Row} (hi : s.phase i = .receipting row rest)
    (hph : ph = .raised ∨ ph = nextRow rest) :
    State.Sound { s.goto i ph with store := (s.store.create ⟨row.settlementAttemptId, .noticeReceipt⟩).1 } := by
  have hphase := h.phases i
  rw [hi] at hphase
  obtain ⟨hbacked, text, hsent⟩ := hphase
  have hown : ∀ store, s.store <+: store → ph.Sound i store s.log := by
    intro store hp
    rcases hph with rfl | rfl
    · trivial
    · exact nextRow_sound (hbacked.grow hp)
  cases hx : s.store.create ⟨row.settlementAttemptId, .noticeReceipt⟩ with
  | mk store x =>
    rcases create_cases hx with ⟨rfl, _⟩ | ⟨rfl, _⟩
    · exact h.goto (hown _ List.prefix_rfl)
    · refine h.move (i := i) [] (adds_nothing h (List.prefix_append _ _) rfl fun a ha => ?_) rfl
        (hown _ (List.prefix_append _ _))
      rcases List.mem_append.mp ha with ha | ha
      · exact .inl ha
      · cases List.mem_singleton.mp ha
        exact .inr ⟨row, text, hsent, rfl⟩

lemma step_sound (h : s.Sound) {l : I × Action} (hstep : step texts zh profile s l = some t) : t.Sound := by
  obtain ⟨i, action⟩ := l
  have hphase := h.phases i
  have hraise : (s.goto i .raised).Sound := h.goto trivial
  unfold step at hstep
  dsimp only at hstep
  split at hstep
  · rename_i e
    split at hstep
    · cases hstep
    · rename_i hnotice
      obtain rfl := Option.some.inj hstep
      have hsame : s.phase = Function.update s.phase i (s.phase i) := (Function.update_eq_self ..).symm
      have hkeep : ∀ store, s.store <+: store → (s.phase i).Sound i store s.log := by
        intro store hp
        refine hphase.mono hp List.prefix_rfl fun row rest hsending => ?_
        rw [hsending] at hphase
        exact hphase.2.2
      rcases claimMarker_cases s.store e with ⟨hc, _⟩ | ⟨hc, _⟩
      · rw [hc]
        exact h
      · rw [hc]
        refine h.move (i := i) [] (adds_nothing h (List.prefix_append _ _) rfl fun a ha => .inl ?_) hsame
          (hkeep _ (List.prefix_append _ _))
        rcases List.mem_append.mp ha with ha | ha
        · exact ha
        · cases List.mem_singleton.mp ha
          exact absurd rfl hnotice
  · cases hstep
  · cases hstep
  · exact Option.some.inj hstep ▸ hraise
  · split at hstep
    · exact Option.some.inj hstep ▸ hraise
    · rename_i summary hsummary
      exact Option.some.inj hstep ▸ h.goto (nextRow_sound (summary_backed hsummary))
  · rename_i row rest persisted hi
    rw [hi] at hphase
    split at hstep
    · exact Option.some.inj hstep ▸ hraise
    · obtain rfl := Option.some.inj hstep
      refine h.move (i := i) [.published i row] ⟨List.prefix_rfl, rfl, fun j a hj => ?_,
        fun a ha => by simp [Event.attemptSent] at ha, List.nodup_nil, h.prepared.snoc trivial, fun j r text answer hj => ?_,
        fun a ha => .inl ha⟩ rfl ?_
      · cases List.mem_singleton.mp hj
      · cases List.mem_singleton.mp hj
      · split
        · rename_i hterminal
          exact ⟨hphase, List.mem_append_right _ (List.mem_singleton_self _), hterminal⟩
        · exact nextRow_sound (Backed.tail hphase)
  · rename_i row rest delivery hi
    split at hstep
    · exact Option.some.inj hstep ▸ hraise
    · split at hstep
      · exact Option.some.inj hstep ▸ hraise
      · exact Option.some.inj hstep ▸ h.claim hi (.inl rfl)
      · exact Option.some.inj hstep ▸ h.claim hi (.inr rfl)
  · rename_i row rest answer hi
    rw [hi] at hphase
    obtain ⟨hbacked, hprepared, hunsent⟩ := hphase
    split at hstep
    · exact Option.some.inj hstep ▸ hraise
    · rename_i text _
      obtain rfl := Option.some.inj hstep
      refine h.move (i := i) [.sent i row text answer] ⟨List.prefix_rfl, rfl, fun j a hj => ?_, fun a ha => ?_,
        List.nodup_singleton _, h.prepared.snoc hprepared, fun j r text' answer' hj => ?_, fun a ha => .inl ha⟩ rfl ?_
      · cases List.mem_singleton.mp hj
      · obtain rfl : a = row.settlementAttemptId := List.mem_singleton.mp ha
        exact ⟨hprepared.2.1, hunsent⟩
      · cases List.mem_singleton.mp hj
        exact hbacked row List.mem_cons_self hprepared.2.2
      · split
        · rename_i hacknowledged
          exact ⟨hbacked.tail, text, hacknowledged ▸ List.mem_append_right _ (List.mem_singleton_self _)⟩
        · trivial
  · rename_i row rest delivery hi
    split at hstep
    · exact Option.some.inj hstep ▸ hraise
    · exact Option.some.inj hstep ▸ h.receipt hi (.inr rfl)
    · exact Option.some.inj hstep ▸ h.receipt hi (.inl rfl)
  · rename_i row rest hi
    rw [hi] at hphase
    split at hstep
    · exact Option.some.inj hstep ▸ h.goto (nextRow_sound hphase)
    · exact Option.some.inj hstep ▸ hraise
  · cases hstep

/-- However many publishers run and crash, a notice is handed over at most once for an attempt. -/
theorem notices_are_sent_once (h : (publishers texts zh profile).Reachable s) :
    (s.log.filterMap Event.attemptSent).Nodup ∧
      (∀ before i row text answer after, s.log = before ++ .sent i row text answer :: after →
        .published i row ∈ before ∧ row.brokerConfirmedTerminal = true ∧ Confirmed s.store row.settlementAttemptId) ∧
      ∀ attempt, ⟨attempt, .noticeReceipt⟩ ∈ s.store →
        ∃ i row text, .sent i row text .acknowledged ∈ s.log ∧ row.settlementAttemptId = attempt := by
  have hsound : s.Sound := by
    refine h.invariant (I := State.Sound) (fun s hinit => ?_) fun s l t hs hnext => ?_
    · obtain ⟨hstore, hphase, hlog⟩ := hinit
      refine ⟨fun i a hj => ?_, fun i j a hj => ?_, ?_, ?_, fun i row text answer hj => ?_, fun a ha => ?_, fun i => ?_⟩
      · simp [hlog] at hj
      · simp [hlog] at hj
      · simp [hlog]
      · rw [hlog]
        exact Chronicle.preceded_nil
      · simp [hlog] at hj
      · simp [hstore] at ha
      · rw [hphase i]
        trivial
    · have hstep : step texts zh profile s l = some t := hnext
      exact step_sound hs hstep
  refine ⟨hsound.once, fun before i row text answer after he => ?_, hsound.receipts⟩
  obtain ⟨hpublished, _, hterminal⟩ := hsound.prepared before _ after he
  exact ⟨hpublished, hterminal, hsound.confirmed i row text answer (he ▸ List.mem_append_right _ List.mem_cons_self)⟩

end Invariant

section Fixture

open Observers (attempt₀ order₀ filled₀)

def start₂ : State Bool := ⟨[], fun _ => .idle, []⟩

def rivals₀ : List (Bool × Action) :=
  [(true, .record ⟨attempt₀, .pending order₀⟩), (true, .record ⟨attempt₀, .broker "73"⟩),
    (true, .record ⟨attempt₀, .observed 1 ⟨1, filled₀⟩⟩), (true, .summarize), (false, .summarize), (true, .publish true),
    (false, .publish true), (true, .claim .acknowledged), (false, .claim .acknowledged), (false, .check),
    (true, .send .acknowledged), (true, .receipt .acknowledged)]

theorem notices_are_sent_once₀ : ∃ s : State Bool, (publishers texts₀ false "alpha").Reachable s ∧ s.phase false = .raised ∧
    ∃ i row text, .sent i row text .acknowledged ∈ s.log ∧ row.settlementAttemptId = attempt₀ := by
  have hexecute : ((System.execute (step texts₀ false "alpha") start₂ rivals₀).map fun s =>
      (decide (⟨attempt₀, .noticeReceipt⟩ ∈ s.store), s.phase false)) = some (true, .raised) := by decide +kernel
  obtain ⟨s, hs, hresult⟩ := Option.map_eq_some_iff.mp hexecute
  simp only [Prod.mk.injEq, decide_eq_true_eq] at hresult
  have hreachable : (publishers texts₀ false "alpha").Reachable s :=
    ⟨start₂, rivals₀, ⟨rfl, fun _ => rfl, rfl⟩, System.run_of_execute hs⟩
  exact ⟨s, hreachable, hresult.2, (notices_are_sent_once hreachable).2.2 attempt₀ hresult.1⟩

end Fixture

end IbkrPlatform.Notifications.Notices
