import IbkrPlatform.Notifications.NoticePass
import IbkrPlatform.Settlement.SettlePass

/-! What the notice of one attempt does to the publication of the others in the same pass. -/

namespace IbkrPlatform.Notifications.NoticeInterference

open Library Settlement Notices NoticePass

section Statement

variable {I : Type} (ports : Ports) (texts : Texts) (zh : Bool) (i : I) (rows : List Row) (s : Store)

def passLog : List (Notices.Event I) := ((publishSettlementNotices ports texts zh i rows).exec ⟨s, []⟩).2.log

def Published (row : Row) : Prop := .published i row ∈ passLog ports texts zh i rows s

def Sent (row : Row) : Prop := ∃ text answer, .sent i row text answer ∈ passLog ports texts zh i rows s

def isNoticeOf (a : String) (e : Entry) : Bool := e.attempt = a ∧ isNotice e.marker

def SameButNotice (a : String) (s s' : Store) : Prop := ∀ e : Entry, isNoticeOf a e = false → (e ∈ s' ↔ e ∈ s)

def Independent : Prop := ∀ a s', SameButNotice a s s' → ∀ row ∈ rows, row.settlementAttemptId ≠ a →
  ((Published ports texts zh i rows s row ↔ Published ports texts zh i rows s' row) ∧
    (Sent ports texts zh i rows s row ↔ Sent ports texts zh i rows s' row))

def CandidateOk (row : Row) : Prop := row.sourceRunId ≠ "" ∧ ports.persist row = .ok true

structure Served (row : Row) : Prop where
  candidate : CandidateOk ports row
  claimed : row.brokerConfirmedTerminal = true → validAttempt row.settlementAttemptId = true ∧ ports.claimed row = .acknowledged
  text : row.brokerConfirmedTerminal = true → ∃ text, settledNotice texts zh row = .ok text
  stored : row.brokerConfirmedTerminal = true → ports.created row = .acknowledged ∧ ports.read row = none

/-- No earlier notice that is ambiguous, and none whose `send` is not acknowledged, keeps a candidate from its publication. -/
def Unprevented : Prop := ∀ before row after, rows = before ++ row :: after → (∀ q ∈ before, Served ports texts zh q) →
  CandidateOk ports row → Published ports texts zh i rows s row

def Acknowledged (row : Row) : Prop :=
  if ⟨row.settlementAttemptId, .noticeAttempt⟩ ∈ s then ⟨row.settlementAttemptId, .noticeReceipt⟩ ∈ s
  else ∃ text, settledNotice texts zh row = .ok text ∧ ports.send text = .ok true

structure CanClear (row : Row) : Prop where
  candidate : CandidateOk ports row
  claimed : row.brokerConfirmedTerminal = true → validAttempt row.settlementAttemptId = true ∧ ports.claimed row = .acknowledged
  noticed : row.brokerConfirmedTerminal = true → ports.read row = none ∨
    (∃ text, settledNotice texts zh row = .ok text ∧ ports.send text = .ok true) ∧ ports.created row = .acknowledged

/-- No terminal row that the pass comes to, and whose notice can go through, stands right before a row whose candidate can. -/
def NoticesLast : Prop := ∀ before q row after, rows = before ++ q :: row :: after →
  (∀ p ∈ before, Clear ports texts zh s p) → q.brokerConfirmedTerminal = true → CanClear ports texts zh q →
  ¬ CandidateOk ports row

def EarlierAcknowledged : Prop := ∀ before row after, rows = before ++ row :: after → (∀ q ∈ before, Served ports texts zh q) →
  CandidateOk ports row → ∀ q ∈ before, q.brokerConfirmedTerminal = true → Acknowledged ports texts zh s q

end Statement

section Row

variable {I : Type} {ports : Ports} {texts : Texts} {zh : Bool} {i : I} {row r : Row} {o : Outbox I}

structure Sends (ports : Ports) (texts : Texts) (zh : Bool) (s : Store) (row : Row) : Prop where
  candidate : CandidateOk ports row
  terminal : row.brokerConfirmedTerminal = true
  claimed : validAttempt row.settlementAttemptId = true ∧ ports.claimed row = .acknowledged
  free : ⟨row.settlementAttemptId, .noticeAttempt⟩ ∉ s
  text : ∃ text, settledNotice texts zh row = .ok text

lemma claimAttempt_log {x : Except Raised Bool} {t : Outbox I} (h : (claimAttempt ports i row).exec o = (x, t)) :
    ∃ es, t.log = o.log ++ es ∧ ∀ e ∈ es, ∃ a, e = .claimed i a := by
  unfold claimAttempt at h
  rw [Attempt.exec_of] at h
  have hclaimed : ∃ es, (if (o.store.claimMarker ⟨row.settlementAttemptId, .noticeAttempt⟩).2 = true then
      o.log ++ [.claimed i row.settlementAttemptId] else o.log) = o.log ++ es ∧ ∀ e ∈ es, ∃ a, e = .claimed i a := by
    split
    · exact ⟨_, rfl, fun e he => ⟨_, List.mem_singleton.mp he⟩⟩
    · exact ⟨[], (List.append_nil _).symm, fun e he => absurd he List.not_mem_nil⟩
  have hnone : ∃ es, o.log = o.log ++ es ∧ ∀ e ∈ es, ∃ a, e = Notices.Event.claimed i a :=
    ⟨[], (List.append_nil _).symm, fun e he => absurd he List.not_mem_nil⟩
  split at h
  · exact (Prod.mk.inj h).2 ▸ hnone
  · dsimp only at h
    split at h
    · exact (Prod.mk.inj h).2 ▸ hnone
    · exact (Prod.mk.inj h).2 ▸ hclaimed
    · exact (Prod.mk.inj h).2 ▸ hclaimed

def answerOf (ports : Ports) (text : String) : Answer :=
  match ports.send text with
  | .error _ => .exception
  | .ok false => .negative
  | .ok true => .acknowledged

lemma sendNotice_log : ((sendNotice ports texts zh i row).exec o).2.log = o.log ++
    match settledNotice texts zh row with
    | .error _ => []
    | .ok text => [.sent i row text (answerOf ports text)] := by
  unfold sendNotice answerOf
  rw [Attempt.exec_of]
  cases settledNotice texts zh row with
  | error e => exact (List.append_nil _).symm
  | ok text =>
    dsimp only
    cases ports.send text with
    | error e => rfl
    | ok sent => cases sent <;> rfl

lemma createReceipt_log : ((createReceipt (I := I) ports row).exec o).2.log = o.log := by
  unfold createReceipt
  rw [Attempt.exec_of]
  dsimp only
  split <;> rfl

lemma checkReceipt_log : ((checkReceipt (I := I) ports row).exec o).2.log = o.log := by
  unfold checkReceipt
  rw [Attempt.exec_of]
  split
  · rfl
  · split <;> rfl

lemma sent_log : ((do
      sendNotice ports texts zh i row
      createReceipt ports row : Attempt (Outbox I) Raised Unit).exec o).2.log =
    ((sendNotice ports texts zh i row).exec o).2.log := by
  rw [Attempt.exec_bind]
  cases (sendNotice ports texts zh i row).exec o with
  | mk x u =>
    cases x with
    | error e => rfl
    | ok _ => exact createReceipt_log

variable (ports texts zh i row o)

lemma notify_log : ∃ es, ((notify ports texts zh i row).exec o).2.log = o.log ++ es ∧ (∀ e ∈ es, (∃ a, e = .claimed i a) ∨
      ∃ text answer, e = .sent i row text answer) ∧
    ((∃ text answer, .sent i row text answer ∈ es) ↔
      (validAttempt row.settlementAttemptId = true ∧ ports.claimed row = .acknowledged) ∧
        ⟨row.settlementAttemptId, .noticeAttempt⟩ ∉ o.store ∧ ∃ text, settledNotice texts zh row = .ok text) := by
  unfold notify
  rw [Attempt.exec_bind]
  cases hclaim : (claimAttempt ports i row).exec o with
  | mk x u =>
    obtain ⟨es, hlog, hes⟩ := claimAttempt_log hclaim
    have hnot : ¬ ∃ text answer, .sent i row text answer ∈ es := by
      rintro ⟨text, answer, he⟩
      obtain ⟨a, ha⟩ := hes _ he
      cases ha
    cases x with
    | error e =>
      refine ⟨es, hlog, fun e he => .inl (hes e he), iff_of_false hnot ?_⟩
      rintro ⟨hports, _⟩
      obtain ⟨claimed, t, ht⟩ := claimAttempt_acknowledged (i := i) (s := o) hports
      rw [hclaim] at ht
      cases ht
    | ok claimed =>
      obtain ⟨hports, hfree, _⟩ := claimAttempt_ok hclaim
      dsimp only
      cases claimed with
      | false =>
        rw [if_neg Bool.false_ne_true, checkReceipt_log]
        exact ⟨es, hlog, fun e he => .inl (hes e he), iff_of_false hnot fun h => absurd (hfree.mpr h.2.1) Bool.false_ne_true⟩
      | true =>
        rw [if_pos rfl]
        have hboth : (validAttempt row.settlementAttemptId = true ∧ ports.claimed row = .acknowledged) ∧
            ⟨row.settlementAttemptId, .noticeAttempt⟩ ∉ o.store := ⟨hports, hfree.mp rfl⟩
        rw [sent_log, sendNotice_log, hlog]
        cases htext : settledNotice texts zh row with
        | error e =>
          refine ⟨es, List.append_nil _, fun e he => .inl (hes e he), iff_of_false hnot ?_⟩
          rintro ⟨_, _, text, h⟩
          cases h
        | ok text =>
          refine ⟨es ++ [.sent i row text (answerOf ports text)], List.append_assoc _ _ _, fun e he => ?_,
            iff_of_true ⟨text, answerOf ports text, ?_⟩ ?_⟩
          · exact (List.mem_append.mp he).imp (hes e) fun he => ⟨text, _, List.mem_singleton.mp he⟩
          · exact List.mem_append_right _ (List.mem_singleton_self _)
          · exact ⟨hboth.1, hboth.2, text, rfl⟩

lemma publishRow_log : ∃ es, ((publishRow ports texts zh i row).exec o).2.log = o.log ++ es ∧
    (.published i row ∈ es ↔ CandidateOk ports row) ∧ (∀ r, r ≠ row → .published i r ∉ es ∧ ∀ text answer, .sent i r text answer ∉ es) ∧
    ((∃ text answer, .sent i row text answer ∈ es) ↔ Sends ports texts zh o.store row) := by
  have hnone {es : List (Notices.Event I)} (hes : es = []) (hbad : ¬ CandidateOk ports row) :
      (.published i row ∈ es ↔ CandidateOk ports row) ∧
        (∀ r, r ≠ row → .published i r ∉ es ∧ ∀ text answer, .sent i r text answer ∉ es) ∧
        ((∃ text answer, .sent i row text answer ∈ es) ↔ Sends ports texts zh o.store row) := by
    subst hes
    exact ⟨iff_of_false List.not_mem_nil hbad, fun _ _ => ⟨List.not_mem_nil, fun _ _ => List.not_mem_nil⟩,
      iff_of_false (fun ⟨_, _, h⟩ => List.not_mem_nil h) fun h => hbad h.candidate⟩
  unfold publishRow
  by_cases hsource : row.sourceRunId = ""
  · rw [if_pos hsource]
    exact ⟨[], (List.append_nil _).symm, hnone rfl fun h => h.1 hsource⟩
  · rw [if_neg hsource, Attempt.exec_bind]
    by_cases hpersisted : ports.persist row = .ok true
    · have hcandidate : CandidateOk ports row := ⟨hsource, hpersisted⟩
      rw [settlementCandidate_ok.mpr ⟨hpersisted, rfl⟩]
      dsimp only
      by_cases hterminal : row.brokerConfirmedTerminal = true
      · rw [if_pos hterminal]
        obtain ⟨es, hlog, hes, hsent⟩ := notify_log ports texts zh i row { o with log := o.log ++ [.published i row] }
        refine ⟨.published i row :: es, by rw [hlog, List.append_assoc]; rfl, iff_of_true List.mem_cons_self hcandidate, ?_, ?_⟩
        · refine fun r hr => ⟨fun hin => ?_, fun text answer hin => ?_⟩
          · rcases List.mem_cons.mp hin with heq | hin
            · exact hr (Event.published.inj heq).2
            · rcases hes _ hin with ⟨a, ha⟩ | ⟨text, answer, ha⟩ <;> cases ha
          · rcases hes _ ((List.mem_cons.mp hin).resolve_left nofun) with ⟨a, ha⟩ | ⟨text', answer', ha⟩
            · cases ha
            · exact hr (Event.sent.inj ha).2.1
        · constructor
          · rintro ⟨text, answer, he⟩
            have he' : Event.sent i row text answer ∈ es := (List.mem_cons.mp he).resolve_left nofun
            obtain ⟨hclaimed, hfree, htext⟩ := hsent.mp ⟨text, answer, he'⟩
            exact ⟨hcandidate, hterminal, hclaimed, hfree, htext⟩
          · intro h
            obtain ⟨text, answer, he⟩ := hsent.mpr ⟨h.claimed, h.free, h.text⟩
            exact ⟨text, answer, List.mem_cons_of_mem _ he⟩
      · rw [if_neg hterminal]
        refine ⟨[.published i row], rfl, iff_of_true (List.mem_singleton_self _) hcandidate, fun r hr => ?_, iff_of_false ?_ ?_⟩
        · simpa using hr
        · simp
        · exact fun h => hterminal h.terminal
    · refine ⟨[], ?_, hnone rfl fun h => hpersisted h.2⟩
      unfold settlementCandidate
      rw [Attempt.exec_of]
      cases hp : ports.persist row with
      | error e => exact (List.append_nil _).symm
      | ok persisted =>
        cases persisted with
        | false => exact (List.append_nil _).symm
        | true => exact absurd hp hpersisted

variable {ports texts zh i row o}

lemma publishRow_published : .published i r ∈ ((publishRow ports texts zh i row).exec o).2.log ↔
    .published i r ∈ o.log ∨ row = r ∧ CandidateOk ports r := by
  obtain ⟨es, hlog, hown, hothers, _⟩ := publishRow_log ports texts zh i row o
  rw [hlog, List.mem_append]
  by_cases hr : r = row
  · rw [hr, hown]
    simp
  · simp [(hothers r hr).1, Ne.symm hr]

lemma publishRow_sent : (∃ text answer, .sent i r text answer ∈ ((publishRow ports texts zh i row).exec o).2.log) ↔
    (∃ text answer, .sent i r text answer ∈ o.log) ∨ row = r ∧ Sends ports texts zh o.store r := by
  obtain ⟨es, hlog, _, hothers, hown⟩ := publishRow_log ports texts zh i row o
  simp only [hlog, List.mem_append, exists_or]
  by_cases hr : r = row
  · rw [hr, hown]
    simp
  · simp [(hothers r hr).2, Ne.symm hr]

end Row

section Pass

variable {I : Type} {ports : Ports} {texts : Texts} {zh : Bool} {i : I} {rows : List Row} {r : Row} {s : Store} {o : Outbox I}

def Reached (ports : Ports) (texts : Texts) (zh : Bool) (s : Store) (rows : List Row) (r : Row) : Prop :=
  ∃ before after, rows = before ++ r :: after ∧ ∀ q ∈ before, Clear ports texts zh s q

lemma reached_cons {row : Row} : Reached ports texts zh s (row :: rows) r ↔
    row = r ∨ Clear ports texts zh s row ∧ Reached ports texts zh s rows r := by
  constructor
  · rintro ⟨before, after, heq, hclear⟩
    cases before with
    | nil => exact .inl (List.cons.inj heq).1
    | cons p before =>
      obtain ⟨rfl, rfl⟩ := List.cons.inj heq
      obtain ⟨hp, hbefore⟩ := List.forall_mem_cons.mp hclear
      exact .inr ⟨hp, before, after, rfl, hbefore⟩
  · rintro (rfl | ⟨hrow, before, after, rfl, hclear⟩)
    · exact ⟨[], rows, rfl, fun _ hq => absurd hq List.not_mem_nil⟩
    · exact ⟨row :: before, after, rfl, List.forall_mem_cons.mpr ⟨hrow, hclear⟩⟩

lemma Reached.mem (h : Reached ports texts zh s rows r) : r ∈ rows := by
  obtain ⟨before, after, rfl, _⟩ := h
  exact List.mem_append_right _ List.mem_cons_self

lemma Reached.elsewhere {a : String} {s' : Store} (h : Reached ports texts zh s rows r) (hs : SameElsewhere a s s')
    (ha : ∀ q ∈ rows, q.settlementAttemptId ≠ a) : Reached ports texts zh s' rows r := by
  obtain ⟨before, after, rfl, hclear⟩ := h
  exact ⟨before, after, rfl, fun q hq => (hclear q hq).elsewhere hs (ha q (List.mem_append_left _ hq))⟩

lemma pass_adds (D : List (Notices.Event I) → Prop) (own : Store → Prop) (hnodup : (rows.map Row.settlementAttemptId).Nodup)
    (hrow : ∀ row o, D ((publishRow ports texts zh i row).exec o).2.log ↔ D o.log ∨ row = r ∧ own o.store)
    (hown : ∀ a store store', SameElsewhere a store store' → r.settlementAttemptId ≠ a → (own store' ↔ own store)) :
    D ((publishSettlementNotices ports texts zh i rows).exec o).2.log ↔
      D o.log ∨ Reached ports texts zh o.store rows r ∧ own o.store := by
  induction rows generalizing o with
  | nil =>
    refine (or_iff_left ?_).symm
    exact fun h => absurd h.1.mem List.not_mem_nil
  | cons row rest ih =>
    obtain ⟨hfresh, hnodup⟩ := List.nodup_cons.mp hnodup
    have hfirst := hrow row o
    rw [reached_cons]
    unfold publishSettlementNotices
    rw [Attempt.exec_bind]
    cases hx : (publishRow ports texts zh i row).exec o with
    | mk x u =>
      rw [hx] at hfirst
      cases x with
      | error e =>
        have hblocked : ¬ Clear ports texts zh o.store row := by
          intro hclear
          obtain ⟨t, ht⟩ := publishRow_ok.mpr hclear
          rw [hx] at ht
          cases ht
        dsimp only at hfirst ⊢
        rw [hfirst, iff_of_false hblocked not_false, false_and, or_false]
      | ok _ =>
        have hclear : Clear ports texts zh o.store row := publishRow_ok.mp ⟨u, hx⟩
        have hsame : SameElsewhere row.settlementAttemptId o.store u.store :=
          (publishRow_elsewhere o.store).of_exec hx fun _ _ => Iff.rfl
        have hother : ∀ q ∈ rest, q.settlementAttemptId ≠ row.settlementAttemptId :=
          fun q hq he => hfresh (he ▸ List.mem_map_of_mem hq)
        have hreached : Reached ports texts zh u.store rest r ↔ Reached ports texts zh o.store rest r :=
          ⟨fun h => h.elsewhere hsame.symm hother, fun h => h.elsewhere hsame hother⟩
        have hrest : Reached ports texts zh o.store rest r → (own u.store ↔ own o.store) :=
          fun h => hown _ _ _ hsame (hother r h.mem)
        dsimp only at hfirst ⊢
        rw [ih hnodup, hfirst, hreached, and_congr_right hrest, or_assoc, ← or_and_right, and_iff_right hclear]

lemma published_iff (hnodup : (rows.map Row.settlementAttemptId).Nodup) :
    Published ports texts zh i rows s r ↔ Reached ports texts zh s rows r ∧ CandidateOk ports r := by
  have hadds : Published ports texts zh i rows s r ↔
      .published i r ∈ ([] : List (Notices.Event I)) ∨ Reached ports texts zh s rows r ∧ CandidateOk ports r :=
    pass_adds (fun log => .published i r ∈ log) (fun _ => CandidateOk ports r) hnodup (fun _ _ => publishRow_published)
      fun _ _ _ _ _ => Iff.rfl
  rwa [or_iff_right List.not_mem_nil] at hadds

lemma Sends.elsewhere {a : String} {s' : Store} (h : Sends ports texts zh s r) (hs : SameElsewhere a s s')
    (ha : r.settlementAttemptId ≠ a) : Sends ports texts zh s' r :=
  ⟨h.candidate, h.terminal, h.claimed, fun hin => h.free ((hs _ ha).mp hin), h.text⟩

lemma sends_congr {a : String} {s' : Store} (hs : SameElsewhere a s s') (ha : r.settlementAttemptId ≠ a) :
    Sends ports texts zh s' r ↔ Sends ports texts zh s r :=
  ⟨fun h => h.elsewhere hs.symm ha, fun h => h.elsewhere hs ha⟩

lemma sent_iff (hnodup : (rows.map Row.settlementAttemptId).Nodup) :
    Sent ports texts zh i rows s r ↔ Reached ports texts zh s rows r ∧ Sends ports texts zh s r := by
  have hadds : Sent ports texts zh i rows s r ↔
      (∃ text answer, .sent i r text answer ∈ ([] : List (Notices.Event I))) ∨
        Reached ports texts zh s rows r ∧ Sends ports texts zh s r :=
    pass_adds (fun log => ∃ text answer, Event.sent i r text answer ∈ log) (fun store => Sends ports texts zh store r) hnodup
      (fun _ _ => publishRow_sent) fun _ _ _ => sends_congr
  rwa [or_iff_right fun ⟨_, _, h⟩ => List.not_mem_nil h] at hadds

lemma reached_split {before after : List Row} (hnodup : ((before ++ r :: after).map Row.settlementAttemptId).Nodup) :
    Reached ports texts zh s (before ++ r :: after) r ↔ ∀ q ∈ before, Clear ports texts zh s q := by
  induction before with
  | nil => exact iff_of_true (reached_cons.mpr (.inl rfl)) fun _ hq => absurd hq List.not_mem_nil
  | cons p before ih =>
    obtain ⟨hfresh, hnodup⟩ := List.nodup_cons.mp hnodup
    have hp : p ≠ r := by
      rintro rfl
      exact hfresh (List.mem_map_of_mem (List.mem_append_right _ List.mem_cons_self))
    rw [List.cons_append, reached_cons, ih hnodup, List.forall_mem_cons]
    exact or_iff_right hp

end Pass

section Independence

variable {I : Type} {ports : Ports} {texts : Texts} {zh : Bool} {i : I} {rows : List Row} {q r : Row} {a : String} {s s' s₁ : Store}

lemma Clear.candidate (h : Clear ports texts zh s q) : CandidateOk ports q := ⟨h.source, h.persisted⟩

lemma Clear.canClear (h : Clear ports texts zh s q) : CanClear ports texts zh q where
  candidate := Clear.candidate h
  claimed := h.claimed
  noticed hterminal := by
    by_cases hin : ⟨q.settlementAttemptId, .noticeAttempt⟩ ∈ s
    · exact .inl (h.receipted hterminal hin).1
    · exact .inr (h.sent hterminal hin)

lemma Clear.of_open (h : Clear ports texts zh s q) (hterminal : ¬ q.brokerConfirmedTerminal = true) :
    Clear ports texts zh s' q :=
  ⟨h.source, h.persisted, fun ht => absurd ht hterminal, fun ht => absurd ht hterminal, fun ht => absurd ht hterminal⟩

lemma SameButNotice.elsewhere (h : SameButNotice a s s') : SameElsewhere a s s' := by
  intro e he
  exact h e (by simp [isNoticeOf, he])

lemma reached_of_last (hnodup : (rows.map Row.settlementAttemptId).Nodup) (hlast : NoticesLast ports texts zh rows s₁)
    (h₁ : SameElsewhere a s s₁) (hs : SameElsewhere a s s') (hcandidate : CandidateOk ports r)
    (h : Reached ports texts zh s rows r) : Reached ports texts zh s' rows r := by
  obtain ⟨before, after, rfl, hclear⟩ := h
  refine ⟨before, after, rfl, fun q hq => ?_⟩
  by_cases ha : q.settlementAttemptId = a
  · by_cases hterminal : q.brokerConfirmedTerminal = true
    · exfalso
      obtain ⟨front, back, rfl⟩ := List.append_of_mem hq
      have hfront : ∀ p ∈ front, Clear ports texts zh s₁ p := by
        intro p hp
        refine (hclear p (List.mem_append_left _ hp)).elsewhere h₁ fun hpa => ?_
        rw [List.append_assoc, List.map_append, List.nodup_append] at hnodup
        refine hnodup.2.2 _ (List.mem_map_of_mem hp) q.settlementAttemptId ?_ (hpa.trans ha.symm)
        exact List.mem_map_of_mem List.mem_cons_self
      have hcan : CanClear ports texts zh q := Clear.canClear (hclear q hq)
      cases back with
      | nil => exact hlast front q r after (by simp) hfront hterminal hcan hcandidate
      | cons next back =>
        have hnext : Clear ports texts zh s next := hclear next (by simp)
        exact hlast front q next (back ++ r :: after) (by simp) hfront hterminal hcan (Clear.candidate hnext)
    · exact Clear.of_open (hclear q hq) hterminal
  · exact (hclear q hq).elsewhere hs ha

lemma independent_of_last (hnodup : (rows.map Row.settlementAttemptId).Nodup) (hlast : NoticesLast ports texts zh rows s) :
    Independent ports texts zh i rows s := by
  intro a s' hsame row _ ha
  have hs : SameElsewhere a s s' := hsame.elsewhere
  have hreached (hcandidate : CandidateOk ports row) : Reached ports texts zh s rows row ↔ Reached ports texts zh s' rows row :=
    ⟨reached_of_last hnodup hlast (fun _ _ => Iff.rfl) hs hcandidate, reached_of_last hnodup hlast hs.symm hs.symm hcandidate⟩
  rw [published_iff hnodup, published_iff hnodup, sent_iff hnodup, sent_iff hnodup, sends_congr hs ha]
  exact ⟨and_congr_left hreached, and_congr_left fun h => hreached h.candidate⟩

def renoticed (a : String) (s : Store) (markers : List Marker) : Store :=
  (s.filter fun e => !isNoticeOf a e) ++ markers.map fun m => ⟨a, m⟩

variable {markers : List Marker}

lemma mem_renoticed {m : Marker} (hm : isNotice m = true) : ⟨a, m⟩ ∈ renoticed a s markers ↔ m ∈ markers := by
  have hout : ⟨a, m⟩ ∉ s.filter fun e => !isNoticeOf a e := by simp [isNoticeOf, hm]
  rw [renoticed, List.mem_append, or_iff_right hout, List.mem_map]
  simp

lemma sameButNotice_renoticed (hm : ∀ m ∈ markers, isNotice m = true) : SameButNotice a s (renoticed a s markers) := by
  intro e he
  have hno : e ∉ markers.map fun m => (⟨a, m⟩ : Entry) := by
    intro hin
    obtain ⟨m, hm', rfl⟩ := List.mem_map.mp hin
    simp [isNoticeOf, hm m hm'] at he
  rw [renoticed, List.mem_append, or_iff_left hno, List.mem_filter, he]
  simp

lemma unclear_renoticed (hterminal : q.brokerConfirmedTerminal = true) :
    ¬ Clear ports texts zh (renoticed q.settlementAttemptId s [.noticeAttempt]) q := by
  intro hclear
  have hattempt : ⟨q.settlementAttemptId, .noticeAttempt⟩ ∈ renoticed q.settlementAttemptId s [.noticeAttempt] :=
    (mem_renoticed rfl).mpr (List.mem_singleton_self _)
  have hreceipt := (mem_renoticed rfl).mp (hclear.receipted hterminal hattempt).2
  simp at hreceipt

lemma CanClear.somewhere (h : CanClear ports texts zh q) (hterminal : q.brokerConfirmedTerminal = true) :
    ∃ markers, (∀ m ∈ markers, isNotice m = true) ∧ Clear ports texts zh (renoticed q.settlementAttemptId s markers) q := by
  rcases h.noticed hterminal with hread | hsent
  · have hattempt : ⟨q.settlementAttemptId, .noticeAttempt⟩ ∈
        renoticed q.settlementAttemptId s [.noticeAttempt, .noticeReceipt] := (mem_renoticed rfl).mpr List.mem_cons_self
    have hreceipt : ⟨q.settlementAttemptId, .noticeReceipt⟩ ∈
        renoticed q.settlementAttemptId s [.noticeAttempt, .noticeReceipt] := (mem_renoticed rfl).mpr (by simp)
    exact ⟨[.noticeAttempt, .noticeReceipt], by simp [isNotice], h.candidate.1, h.candidate.2, h.claimed,
      fun _ hnew => absurd hattempt hnew, fun _ _ => ⟨hread, hreceipt⟩⟩
  · have hattempt : ⟨q.settlementAttemptId, .noticeAttempt⟩ ∉ renoticed q.settlementAttemptId s [] :=
      fun hin => List.not_mem_nil ((mem_renoticed rfl).mp hin)
    exact ⟨[], fun _ hm => absurd hm List.not_mem_nil, h.candidate.1, h.candidate.2, h.claimed, fun _ _ => hsent, fun _ hold => absurd hold hattempt⟩

lemma last_of_independent (hnodup : (rows.map Row.settlementAttemptId).Nodup) (h : Independent ports texts zh i rows s) :
    NoticesLast ports texts zh rows s := by
  rintro before q row after rfl hbefore hterminal hcan hcandidate
  have hsplit : before ++ q :: row :: after = (before ++ [q]) ++ row :: after := by simp
  have hother : ∀ p ∈ before, p.settlementAttemptId ≠ q.settlementAttemptId := by
    intro p hp
    rw [List.map_append, List.nodup_append] at hnodup
    exact hnodup.2.2 _ (List.mem_map_of_mem hp) _ (List.mem_map_of_mem List.mem_cons_self)
  have hrow : row.settlementAttemptId ≠ q.settlementAttemptId := by
    rw [List.map_append, List.nodup_append, List.map_cons, List.nodup_cons] at hnodup
    exact fun he => hnodup.2.1.1 (he ▸ List.mem_map_of_mem List.mem_cons_self)
  have hpublished : ∀ s', SameButNotice q.settlementAttemptId s s' →
      (Published ports texts zh i (before ++ q :: row :: after) s' row ↔ Clear ports texts zh s' q) := by
    intro s' hs
    rw [published_iff hnodup, and_iff_left hcandidate]
    rw [hsplit] at hnodup ⊢
    rw [reached_split hnodup, List.forall_mem_append, List.forall_mem_singleton]
    exact and_iff_right fun p hp => (hbefore p hp).elsewhere hs.elsewhere (hother p hp)
  obtain ⟨markers, hmarkers, hclear⟩ := hcan.somewhere (s := s) hterminal
  have hyes := sameButNotice_renoticed (a := q.settlementAttemptId) (s := s) hmarkers
  have hno : SameButNotice q.settlementAttemptId s (renoticed q.settlementAttemptId s [.noticeAttempt]) :=
    sameButNotice_renoticed (by simp [isNotice])
  have hmem : row ∈ before ++ q :: row :: after := by simp
  refine unclear_renoticed hterminal ((hpublished _ hno).mp ?_)
  rw [← (h _ _ hno row hmem hrow).1, (h _ _ hyes row hmem hrow).1]
  exact (hpublished _ hyes).mpr hclear

lemma Served.clear_iff (h : Served ports texts zh q) : Clear ports texts zh s q ↔
    (q.brokerConfirmedTerminal = true → Acknowledged ports texts zh s q) := by
  constructor
  · intro hclear hterminal
    unfold Acknowledged
    split
    · rename_i hin
      exact (hclear.receipted hterminal hin).2
    · rename_i hnew
      exact (hclear.sent hterminal hnew).1
  · intro hack
    refine ⟨h.candidate.1, h.candidate.2, h.claimed, fun ht hnew => ⟨?_, (h.stored ht).1⟩, fun ht hin => ⟨(h.stored ht).2, ?_⟩⟩
    · have hown := hack ht
      rwa [Acknowledged, if_neg hnew] at hown
    · have hown := hack ht
      rwa [Acknowledged, if_pos hin] at hown

/-- The attempts of a pass do not interfere exactly where the notices come last. -/
theorem independent_iff_notices_last (hnodup : (rows.map Row.settlementAttemptId).Nodup) :
    (Independent ports texts zh i rows s ↔ NoticesLast ports texts zh rows s) ∧
      (Unprevented ports texts zh i rows s ↔ EarlierAcknowledged ports texts zh rows s) := by
  refine ⟨⟨last_of_independent hnodup, independent_of_last hnodup⟩, ?_⟩
  have hsplit : ∀ before row after, rows = before ++ row :: after → (∀ q ∈ before, Served ports texts zh q) →
      CandidateOk ports row → (Published ports texts zh i rows s row ↔
        ∀ q ∈ before, q.brokerConfirmedTerminal = true → Acknowledged ports texts zh s q) := by
    rintro before row after rfl hserved hcandidate
    rw [published_iff hnodup, and_iff_left hcandidate, reached_split hnodup]
    exact forall₂_congr fun q hq => (hserved q hq).clear_iff
  exact ⟨fun h before row after hrows hserved hcandidate =>
      (hsplit before row after hrows hserved hcandidate).mp (h before row after hrows hserved hcandidate),
    fun h before row after hrows hserved hcandidate =>
      (hsplit before row after hrows hserved hcandidate).mpr (h before row after hrows hserved hcandidate)⟩

end Independence

section Fixture

open Observers (attempt₀ order₀ filled₀)
open SettlePass (attempt₁ order₁ pending₁)

def store₁ : Store :=
  [⟨attempt₀, .pending order₀⟩, ⟨attempt₀, .broker "73"⟩, ⟨attempt₁, .pending order₁⟩, ⟨attempt₁, .broker "74"⟩,
    ⟨attempt₀, .observed 1 ⟨1, filled₀⟩⟩, ⟨attempt₁, .observed 1 ⟨1, pending₁⟩⟩]

def row₀ : Row := rowOf ⟨order₀, some "73", none, [⟨1, filled₀⟩]⟩

def row₁ : Row := rowOf ⟨order₁, some "74", none, [⟨1, pending₁⟩]⟩

def ports₀ (sent : Bool) : Ports where
  persist _ := .ok true
  claimed _ := .acknowledged
  send _ := .ok sent
  created _ := .acknowledged
  read _ := none
  unavailable := runtimeError "unavailable"

def refused₀ : Store := store₁ ++ [⟨attempt₀, .noticeAttempt⟩]

lemma passes₀ : ((publishSettlementNotices (ports₀ false) texts₀ false () [row₀, row₁]).exec ⟨store₁, []⟩).2.store = refused₀ ∧
    (settlementSummary "alpha" refused₀).map Summary.ordersSubmitted = .ok [row₀, row₁] ∧
    .published () row₁ ∉ passLog (ports₀ true) texts₀ false () [row₀, row₁] refused₀ ∧
    ([row₀, row₁].map Row.settlementAttemptId).Nodup ∧ ⟨attempt₀, .noticeAttempt⟩ ∉ store₁ ∧ validAttempt attempt₀ = true := by
  decide +kernel

theorem independent_iff_notices_last₀ : ([row₀, row₁].map Row.settlementAttemptId).Nodup ∧
    Unprevented (ports₀ true) texts₀ false () [row₀, row₁] store₁ := by
  obtain ⟨_, _, _, hnodup, hnew, _⟩ := passes₀
  have hack : ∀ q ∈ [row₀, row₁], q.brokerConfirmedTerminal = true → Acknowledged (ports₀ true) texts₀ false store₁ q := by
    intro q hq hterminal
    rcases List.mem_pair.mp hq with rfl | rfl
    · have hfree : ⟨row₀.settlementAttemptId, .noticeAttempt⟩ ∉ store₁ := hnew
      unfold Acknowledged
      rw [if_neg hfree]
      exact ⟨_, rfl, rfl⟩
    · cases hterminal
  have hearlier : EarlierAcknowledged (ports₀ true) texts₀ false [row₀, row₁] store₁ := by
    intro before row after hrows _ _ q hq
    exact hack q (hrows ▸ List.mem_append_left _ hq)
  exact ⟨hnodup, (independent_iff_notices_last hnodup).2.mpr hearlier⟩

theorem refused_notice_blocks : ¬ ∀ (ports : Ports) (s : Store) (summary : Summary), settlementSummary "alpha" s = .ok summary →
    Independent ports texts₀ false () summary.ordersSubmitted s ∧ Unprevented ports texts₀ false () summary.ordersSubmitted s := by
  intro h
  obtain ⟨_, hrows, hnot, _, _, hvalid⟩ := passes₀
  cases hsummary : settlementSummary "alpha" refused₀ with
  | error e =>
    rw [hsummary] at hrows
    cases hrows
  | ok summary =>
    rw [hsummary] at hrows
    have hunprevented := (h (ports₀ true) refused₀ summary hsummary).2
    rw [show summary.ordersSubmitted = [row₀, row₁] from Except.ok.inj hrows] at hunprevented
    have hserved : Served (ports₀ true) texts₀ false row₀ :=
      ⟨⟨by decide, rfl⟩, fun _ => ⟨hvalid, rfl⟩, fun _ => ⟨_, rfl⟩, fun _ => ⟨rfl, rfl⟩⟩
    have hcandidate : CandidateOk (ports₀ true) row₁ := ⟨by decide, rfl⟩
    have hbefore : ∀ q ∈ [row₀], Served (ports₀ true) texts₀ false q := fun q hq => List.mem_singleton.mp hq ▸ hserved
    exact hnot (hunprevented [row₀] row₁ [] rfl hbefore hcandidate)

end Fixture

end IbkrPlatform.Notifications.NoticeInterference
