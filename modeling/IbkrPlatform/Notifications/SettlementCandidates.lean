import IbkrPlatform.Library.Chronicle
import IbkrPlatform.Notifications.Publication
import IbkrPlatform.Notifications.RowHistory

/-! The rows of one attempt, published one after another, and what stays stored of them. -/

namespace IbkrPlatform.Notifications.SettlementCandidates

open Library Settlement Publication RowHistory

section Code

variable (texts : Texts) (digest : Scope → String)

structure Stores where
  state : Option Ledger
  object : Option Published

/-- `publish`, while nobody else writes the object. -/
def publish (revision : ℕ) (payload : Payload) (object : Option Published) : Except String Published :=
  match payload.runs with
  | [] => .error "list index out of range"
  | first :: _ =>
    match object with
    | none => .ok (upload digest revision payload)
    | some p =>
      if !slotAccepts digest first.scope p then .error "notification_candidate_slot_identity_conflict"
      else if revision ≤ p.notificationRevision then .ok p
      else .ok (upload digest revision payload)

/-- `persist_candidate`, while nobody else writes the stores. -/
def persistCandidate (slot : String) (q : Request) (st : Stores) : Stores × Except String Unit :=
  match q.admitted with
  | .error e => (st, .error e)
  | .ok () =>
    if !slotValid slot then (st, .error "notification_candidate_slot_missing")
    else match turn q q.record st.state with
      | .error e => (st, .error e)
      | .ok t =>
        let state := if t.changed then some t.ledger.decoded else st.state
        match projectNotificationEvents texts t.ledger.items with
        | .error e => (⟨state, st.object⟩, .error e)
        | .ok payload =>
          match publish digest t.ledger.revision payload st.object with
          | .error e => (⟨state, st.object⟩, .error e)
          | .ok p => (⟨state, some p⟩, .ok ())

variable (candidate : String → String → String → Event) (sha : String → String)

def settlementCandidate (row : Row) : Event :=
  let started := if row.sourceStartedAt = "" then row.submittedAt else row.sourceStartedAt
  let fact := candidate row.sourceRunId started (sha row.settlementAttemptId)
  { fact with dedupeKey := sha (fact.dedupeKey ++ row.settlementAttemptId) }

def settlementRequest (row : Row) : Request := ⟨settlementCandidate candidate sha row, true, false, some row, none⟩

def publishRow (slot : String) (row : Row) (st : Stores) : Stores × Except String Unit :=
  persistCandidate texts digest slot (settlementRequest candidate sha row) st

def publishRows (slot : String) : List Row → Stores → Stores × Except String Unit
  | [], st => (st, .ok ())
  | row :: rows, st =>
    match publishRow texts digest candidate sha slot row st with
    | (st, .ok ()) => publishRows slot rows st
    | (st, .error e) => (st, .error e)

end Code

section Merge

variable {before after row : Row}

lemma sameOrder_decoded : Row.sameOrder before.decoded after = Row.sameOrder before after := rfl

lemma sameOrder_comm (h : Row.sameOrder before after = true) : Row.sameOrder after before = true := by
  simp only [Row.sameOrder, decide_eq_true_eq] at h ⊢
  obtain ⟨h1, h2, h3, h4, h5, h6⟩ := h
  exact ⟨h1.symm, h2.symm, h3.symm, h4.symm, h5.symm, h6.symm⟩

lemma merge_newer (h : Older before after) (hne : before ≠ after) : mergeSettlementRow before.decoded after = .ok true := by
  have hterminal : before.brokerConfirmedTerminal = false := by
    by_contra hc
    exact hne (h.final (by simpa using hc))
  have hsequence := h.sequence
  unfold mergeSettlementRow
  rw [sameOrder_decoded, h.same]
  rcases h.bound with hnone | hsame
  · simp only [Row.decoded, hnone, hterminal]
    by_cases heq : before.settlementSequence = after.settlementSequence
    · have hid : after.brokerOrderId.isSome := by
        by_contra hid
        rw [Option.not_isSome_iff_eq_none] at hid
        exact hne (h.still heq (hnone.trans hid.symm))
      simp [heq, hid]
    · simp [heq, not_lt.mpr hsequence]
  · have hlt : before.settlementSequence ≠ after.settlementSequence := fun heq => hne (h.still heq hsame)
    cases hid : before.brokerOrderId <;> simp [Row.decoded, hterminal, hlt, not_lt.mpr hsequence, ← hsame, hid]

lemma merge_older (h : Older after before) (hne : after ≠ before) : mergeSettlementRow before.decoded after = .ok false := by
  unfold mergeSettlementRow
  rw [sameOrder_decoded, sameOrder_comm h.same]
  by_cases hlost : before.brokerOrderId.isSome ∧ after.brokerOrderId = none
  · simp [Row.decoded, hlost]
  · have hsame : after.brokerOrderId = before.brokerOrderId := by
      rcases h.bound with hnone | hsame
      · rw [hnone]
        by_contra hid
        exact hlost ⟨Option.isSome_iff_ne_none.mpr (Ne.symm hid), hnone⟩
      · exact hsame
    have hlt : after.settlementSequence < before.settlementSequence :=
      lt_of_le_of_ne h.sequence fun heq => hne (h.still heq hsame)
    cases hid : before.brokerOrderId <;> simp [Row.decoded, hsame, hlt, hid]

lemma merge_same (h : Sound row) : mergeSettlementRow row.decoded row =
    if row.settlementSequence = 0 then .error "settlement_candidate_sequence_conflict" else .ok false := by
  have hsame : Row.sameOrder row row = true := by simp [Row.sameOrder]
  unfold mergeSettlementRow
  rw [sameOrder_decoded, hsame]
  by_cases hz : row.settlementSequence = 0
  · obtain ⟨hterminal, hcontainer⟩ := h.unobserved hz
    have hdecoded : row.decoded ≠ row := by
      intro he
      have hlist : row.decoded.fills.container = row.fills.container := congrArg (fun r => r.fills.container) he
      rw [hcontainer] at hlist
      cases hlist
    rw [if_pos hz]
    cases hid : row.brokerOrderId <;> simp [Row.decoded, hterminal, hid] at hdecoded ⊢ <;> exact hdecoded
  · have hdecoded : row.decoded = row := by
      obtain ⟨_, hcontainer⟩ := h.observed (Nat.pos_of_ne_zero hz)
      rw [Row.decoded, ← hcontainer]
    rw [if_neg hz, hdecoded]
    cases hid : row.brokerOrderId <;> simp

end Merge

section Persist

variable {texts : Texts} {digest : Scope → String} {slot : String} {q : Request} {st : Stores} {t : Turn}

variable (digest) in
lemma publish_ok {scope : Scope} {payload : Payload} {object : Option Published} (revision : ℕ)
    (hid : Identified scope payload) (ha : ∀ p ∈ object, slotAccepts digest scope p = true) :
    ∃ p, publish digest revision payload object = .ok p ∧ slotAccepts digest scope p = true ∧
      revision ≤ p.notificationRevision ∧ ∀ old ∈ object, revision ≤ old.notificationRevision → p = old := by
  obtain ⟨first, rest, hruns⟩ := List.exists_cons_of_ne_nil hid.1
  have hfirst : first.scope = scope := hid.2 first (hruns ▸ List.mem_cons_self)
  have hupload : slotAccepts digest scope (upload digest revision payload) = true := by simp [slotAccepts, upload, hruns, hfirst]
  unfold publish
  rw [hruns]
  dsimp only
  cases object with
  | none => exact ⟨_, rfl, hupload, le_rfl, fun _ hold => by cases hold⟩
  | some p =>
    have haccepts := ha p rfl
    rw [hfirst]
    simp only [haccepts, Bool.not_true, Bool.false_eq_true, if_false]
    by_cases hle : revision ≤ p.notificationRevision
    · rw [if_pos hle]
      exact ⟨p, rfl, haccepts, hle, fun old hold _ => Option.some.inj hold⟩
    · rw [if_neg hle]
      exact ⟨_, rfl, hupload, le_rfl, fun old hold hle' => absurd (Option.some.inj hold ▸ hle') hle⟩

variable (slot) in
lemma persist_ok (hadmitted : q.admitted = .ok ()) (hslot : slotValid slot = true) (hturn : turn q q.record st.state = .ok t)
    (hitems : Projectable texts q.fact.scope t.ledger.items) (ha : ∀ p ∈ st.object, slotAccepts digest q.fact.scope p = true) :
    ∃ p, persistCandidate texts digest slot q st = (⟨if t.changed then some t.ledger.decoded else st.state, some p⟩, .ok ()) ∧
      slotAccepts digest q.fact.scope p = true ∧ t.ledger.revision ≤ p.notificationRevision ∧
        ∀ old ∈ st.object, t.ledger.revision ≤ old.notificationRevision → p = old := by
  have hne : t.ledger.items ≠ [] := by
    intro hnil
    have hmem := List.mem_map_of_mem (f := Prod.snd) (Dictionary.mem_of_lookup (turn_lookup hturn))
    rw [← Ledger.items, hnil] at hmem
    cases hmem
  obtain ⟨payload, hpayload⟩ := projectNotificationEvents_ok hitems hne
  have hid := projectNotificationEvents_identity hpayload fun item hitem => (hitems.fit item hitem).identity
  obtain ⟨p, hp, hrest⟩ := publish_ok digest t.ledger.revision hid ha
  refine ⟨p, ?_, hrest⟩
  simp only [persistCandidate, hadmitted, hslot, Bool.not_true, Bool.false_eq_true, if_false, hturn, hpayload, hp]

end Persist

section Alone

variable {I : Type} [DecidableEq I] {texts : Texts} {digest : Scope → String} {calls : I → Call} {s : State I} {i : I}
  {revision tries : ℕ} {payload : Payload}

lemma upload_runs (hi : s.phase i = .uploading revision payload tries (s.objects (calls i).objectKey).generation) :
    ∃ t, (publications texts digest calls).Run s [(i, .upload .acknowledged 0)] t ∧ t.phase i = .returned revision ∧
      t.states = s.states ∧ (t.objects (calls i).objectKey).value = some (upload digest revision payload) := by
  have hstep : step texts digest calls s (i, .upload .acknowledged 0) =
      some { s.goto i (.returned revision) with
        objects := Function.update s.objects (calls i).objectKey
          ((s.objects (calls i).objectKey).store i (upload digest revision payload) 0) } := by
    simp [step, hi, VersionedCell.send, VersionedCell.put, VersionedCell.afterSend]
  exact ⟨_, System.Run.single hstep, by simp [State.goto], rfl, by simp⟩

lemma publish_runs {p : Published} (hi : s.phase i = .loading revision payload (tries + 1))
    (hp : publish digest revision payload (s.objects (calls i).objectKey).value = .ok p) :
    ∃ ls t, (publications texts digest calls).Run s ls t ∧ t.phase i = .returned revision ∧ t.states = s.states ∧
      (t.objects (calls i).objectKey).value = some p := by
  have hload : step texts digest calls s (i, .load false) =
      some (s.goto i (loadObject digest revision payload (s.objects (calls i).objectKey) false (tries + 1))) := by
    simp only [step, hi]
  have hrun : (publications texts digest calls).Run s [(i, .load false)] _ := System.Run.single hload
  have hupload : loadObject digest revision payload (s.objects (calls i).objectKey) false (tries + 1) =
      .uploading revision payload tries (s.objects (calls i).objectKey).generation → p = upload digest revision payload →
      ∃ ls t, (publications texts digest calls).Run s ls t ∧ t.phase i = .returned revision ∧ t.states = s.states ∧
        (t.objects (calls i).objectKey).value = some p := by
    rintro hloaded rfl
    rw [hloaded] at hrun
    have hphase : (s.goto i (.uploading revision payload tries (s.objects (calls i).objectKey).generation)).phase i =
        .uploading revision payload tries (s.objects (calls i).objectKey).generation := Function.update_self ..
    obtain ⟨t, ht, hphase, hstates, hobject⟩ := upload_runs hphase
    exact ⟨_, t, hrun.trans ht, hphase, hstates, hobject⟩
  unfold publish at hp
  split at hp
  · cases hp
  · rename_i first rest hruns
    split at hp
    · rename_i hvalue
      refine hupload ?_ (Except.ok.inj hp).symm
      simp [loadObject, hruns, hvalue]
    · rename_i old hvalue
      split at hp
      · cases hp
      · rename_i haccepts
        split at hp
        · rename_i hle
          obtain rfl := Except.ok.inj hp
          have hloaded : loadObject digest revision payload (s.objects (calls i).objectKey) false (tries + 1) =
              .returned revision := by
            simp only [Bool.not_eq_true', Bool.not_eq_false] at haccepts
            simp [loadObject, hruns, hvalue, haccepts, hle]
          rw [hloaded] at hrun
          exact ⟨_, _, hrun, by simp [State.goto], rfl, hvalue⟩
        · rename_i hle
          refine hupload ?_ (Except.ok.inj hp).symm
          simp only [Bool.not_eq_true', Bool.not_eq_false] at haccepts
          simp [loadObject, hruns, hvalue, haccepts, hle]

variable (texts) in
lemma commit_runs {t : Turn} (hi : s.phase i = .idle) (hadmitted : (calls i).request.admitted = .ok ())
    (hslot : slotValid (calls i).slot = true)
    (hturn : turn (calls i).request (calls i).request.record (s.states (digest (calls i).scope)).value = .ok t) :
    ∃ ls u, (publications texts digest calls).Run s ls u ∧ u.phase i = publishing texts t.ledger ∧ u.objects = s.objects ∧
      (u.states (digest (calls i).scope)).value =
        if t.changed then some t.ledger.decoded else (s.states (digest (calls i).scope)).value := by
  have hstart : step texts digest calls s (i, .start) = some (s.goto i (.reading (calls i).request.record [] tryLimit)) := by
    simp only [step, hi, hadmitted, hslot, if_true]
  have hreading : (publications texts digest calls).Run s [(i, .start)] _ := System.Run.single hstart
  cases hchanged : t.changed with
  | false =>
    have hread : step texts digest calls (s.goto i (.reading (calls i).request.record [] tryLimit)) (i, .read) =
        some { (s.goto i (.reading (calls i).request.record [] tryLimit)).goto i (publishing texts t.ledger) with
          commits := s.commits ++ [(i, meet (calls i).request [] (s.states (digest (calls i).scope)).value)] } := by
      simp [step, tryLimit, State.goto, hturn, hchanged]
    exact ⟨_, _, hreading.trans (System.Run.single hread), by simp [State.goto], rfl, rfl⟩
  | true =>
    have hread : step texts digest calls (s.goto i (.reading (calls i).request.record [] tryLimit)) (i, .read) =
        some ((s.goto i (.reading (calls i).request.record [] tryLimit)).goto i (.writing t.record
          (meet (calls i).request [] (s.states (digest (calls i).scope)).value) 7
            (s.states (digest (calls i).scope)).generation t.ledger)) := by
      simp [step, tryLimit, State.goto, hturn, hchanged]
    have hwriting : (publications texts digest calls).Run s _ _ := hreading.trans (System.Run.single hread)
    have hwrite : step texts digest calls ((s.goto i (.reading (calls i).request.record [] tryLimit)).goto i (.writing t.record
        (meet (calls i).request [] (s.states (digest (calls i).scope)).value) 7
          (s.states (digest (calls i).scope)).generation t.ledger)) (i, .write .acknowledged 0) =
        some { s.goto i (publishing texts t.ledger) with
          states := Function.update s.states (digest (calls i).scope)
            ((s.states (digest (calls i).scope)).store i t.ledger.decoded 0)
          commits := s.commits ++ [(i, meet (calls i).request [] (s.states (digest (calls i).scope)).value)] } := by
      simp [step, State.goto, VersionedCell.send, VersionedCell.put, VersionedCell.afterSend]
    exact ⟨_, _, hwriting.trans (System.Run.single hwrite), by simp [State.goto], rfl, by simp⟩

lemma persistCandidate_runs {st : Stores} (hi : s.phase i = .idle)
    (hp : persistCandidate texts digest (calls i).slot (calls i).request
      ⟨(s.states (digest (calls i).scope)).value, (s.objects (calls i).objectKey).value⟩ = (st, .ok ())) :
    ∃ ls t revision, (publications texts digest calls).Run s ls t ∧ t.phase i = .returned revision ∧
      (t.states (digest (calls i).scope)).value = st.state ∧ (t.objects (calls i).objectKey).value = st.object := by
  unfold persistCandidate at hp
  cases hadmitted : (calls i).request.admitted with
  | error e => simp [hadmitted] at hp
  | ok =>
    simp only [hadmitted] at hp
    split at hp
    · cases hp
    · rename_i hslot
      simp only [Bool.not_eq_true', Bool.not_eq_false] at hslot
      cases hturn : turn (calls i).request (calls i).request.record (s.states (digest (calls i).scope)).value with
      | error e => simp [hturn] at hp
      | ok t =>
        simp only [hturn] at hp
        obtain ⟨ls, u, hu, hphase, hobjects, hstate⟩ := commit_runs texts hi hadmitted hslot hturn
        cases hproject : projectNotificationEvents texts t.ledger.items with
        | error e => simp [hproject] at hp
        | ok payload =>
          simp only [hproject] at hp
          cases hpublish : publish digest t.ledger.revision payload (s.objects (calls i).objectKey).value with
          | error e => simp [hpublish] at hp
          | ok p =>
            simp only [hpublish, Prod.mk.injEq, and_true] at hp
            subst hp
            simp only [publishing, hproject] at hphase
            rw [← hobjects] at hpublish
            obtain ⟨ls', v, hv, hreturned, hstates, hobject⟩ := publish_runs hphase hpublish
            exact ⟨_, v, _, hu.trans hv, hreturned, by rw [hstates]; exact hstate, hobject⟩

end Alone

section Rows

variable (texts : Texts) (digest : Scope → String) (candidate : String → String → String → Event) (sha : String → String)

structure Plain (fact : Event) : Prop where
  complete : fact.scope.complete = true
  known : fact.coverageStatus = "known"
  key : fact.dedupeKey ≠ ""
  run : fact.sourceRunId ≠ ""
  counts : fact.routineObservationCounts = none
  stamp : (texts.parseTimestamp fact.occurredAt).isSome

structure Admits (row : Row) (st : Stores) : Prop where
  plain : Plain texts (settlementCandidate candidate sha row)
  fit : ∀ item ∈ (st.state.getD .empty).items, Fit texts (settlementCandidate candidate sha row).scope item
  attempts : (((st.state.getD .empty).items.filterMap Item.settlement).map Row.settlementAttemptId).Nodup
  others : row.settlementAttemptId ∉ ((st.state.getD .empty).items.filterMap Item.settlement).map Row.settlementAttemptId
  key : (st.state.getD .empty).events.lookup (settlementCandidate candidate sha row).dedupeKey = none
  object : ∀ p ∈ st.object, slotAccepts digest (settlementCandidate candidate sha row).scope p = true

structure Holding (st₀ : Stores) (row : Row) (st : Stores) : Prop where
  state : ∃ revision, st.state = some ⟨revision, (st₀.state.getD .empty).decoded.events ++
    [((settlementCandidate candidate sha row).dedupeKey, (settlementRequest candidate sha row).record.decoded)]⟩ ∧
      ∃ p, st.object = some p ∧ revision ≤ p.notificationRevision ∧
        slotAccepts digest (settlementCandidate candidate sha row).scope p = true

variable {texts digest candidate sha} {slot : String} {row before after : Row} {st st₀ : Stores}

@[simp] lemma settlementRequest_fact :
    (settlementRequest candidate sha row).fact = settlementCandidate candidate sha row := rfl

lemma candidate_older (h : Older before after) :
    settlementCandidate candidate sha before = settlementCandidate candidate sha after := by
  have hsame := h.same
  simp only [Row.sameOrder, decide_eq_true_eq] at hsame
  unfold settlementCandidate
  rw [hsame.1, hsame.2.1, hsame.2.2.1, h.started]

lemma settledNotice_ok (h : Sound row) : ∃ notice, settledNotice texts false row = .ok notice := by
  obtain ⟨detail, hdetail⟩ : ∃ detail, settledDetail texts false row = .ok detail := by
    unfold settledDetail
    by_cases ht : row.brokerConfirmedTerminal = true
    · simp only [ht, Bool.not_true, Bool.false_eq_true, if_false]
      by_cases hfilled : row.status = "Filled"
      · obtain ⟨hf, ha⟩ := h.complete ht (.inl hfilled)
        obtain ⟨filled, hf⟩ := Option.isSome_iff_exists.mp hf
        obtain ⟨price, ha⟩ := Option.isSome_iff_exists.mp ha
        rw [if_pos hfilled, hf, ha]
        exact ⟨_, rfl⟩
      · rw [if_neg hfilled]
        by_cases hz : row.filledQuantity.getD 0 = 0
        · simp only [hz, if_true]
          exact ⟨_, rfl⟩
        · obtain ⟨hf, ha⟩ := h.complete ht (.inr hz)
          obtain ⟨filled, hf⟩ := Option.isSome_iff_exists.mp hf
          obtain ⟨price, ha⟩ := Option.isSome_iff_exists.mp ha
          simp only [hz, if_false]
          rw [hf, ha]
          exact ⟨_, rfl⟩
    · rw [if_pos (by simpa using ht)]
      exact ⟨_, rfl⟩
  exact ⟨_, by rw [settledNotice, hdetail]; rfl⟩

lemma record_fit (h : Plain texts (settlementCandidate candidate sha row)) (hs : Sound row) :
    Fit texts (settlementCandidate candidate sha row).scope (settlementRequest candidate sha row).record where
  identity := rfl
  checked := by simp [checkItem, settlementRequest, Request.record, h.known, h.run]
  stamp := h.stamp
  notice r hr := by
    obtain rfl := Option.some.inj hr
    exact settledNotice_ok hs

lemma admitted (h : Plain texts (settlementCandidate candidate sha row)) :
    (settlementRequest candidate sha row).admitted = .ok () := by
  simp [Request.admitted, settlementRequest, h.known, h.key, h.counts]

lemma projectable_append {items : List Item} (hplain : Plain texts (settlementCandidate candidate sha row)) (hs : Sound row)
    (hfit : ∀ item ∈ items, Fit texts (settlementCandidate candidate sha row).scope item)
    (hattempts : ((items.filterMap Item.settlement).map Row.settlementAttemptId).Nodup)
    (hothers : row.settlementAttemptId ∉ (items.filterMap Item.settlement).map Row.settlementAttemptId) :
    Projectable texts (settlementCandidate candidate sha row).scope
      (items ++ [(settlementRequest candidate sha row).record]) where
  complete := hplain.complete
  fit item hitem := by
    rcases List.mem_append.mp hitem with hin | hin
    · exact hfit item hin
    · exact List.mem_singleton.mp hin ▸ record_fit hplain hs
  attempts := by
    rw [List.filterMap_append, List.map_append, List.nodup_append]
    refine ⟨hattempts, List.nodup_singleton _, fun a ha b hb hab => hothers ?_⟩
    obtain rfl : b = row.settlementAttemptId := List.mem_singleton.mp hb
    exact hab ▸ ha

lemma publish_first (hslot : slotValid slot = true) (ha : Admits texts digest candidate sha row st₀) (hs : Sound row) :
    ∃ st, publishRow texts digest candidate sha slot row st₀ = (st, .ok ()) ∧ Holding digest candidate sha st₀ row st := by
  have hturn : turn (settlementRequest candidate sha row) (settlementRequest candidate sha row).record st₀.state =
      .ok ⟨(settlementRequest candidate sha row).record, ⟨(st₀.state.getD .empty).revision + 1,
        (st₀.state.getD .empty).events ++ [((settlementCandidate candidate sha row).dedupeKey,
          (settlementRequest candidate sha row).record)]⟩, true⟩ := by
    have hlookup : (st₀.state.getD .empty).events.lookup (settlementRequest candidate sha row).fact.dedupeKey = none := ha.key
    have hput := Dictionary.put_append (v := (settlementRequest candidate sha row).record) hlookup []
    rw [List.append_nil] at hput
    unfold turn
    simp only [hlookup, hput]
    simp [Dictionary.put, settlementRequest]
  have hitems := projectable_append ha.plain hs ha.fit ha.attempts ha.others
  obtain ⟨p, hp, haccepts, hle, _⟩ := persist_ok slot (admitted ha.plain) hslot hturn
    (by simpa [Ledger.items] using hitems) ha.object
  refine ⟨_, hp, ⟨(st₀.state.getD .empty).revision + 1, ?_, p, rfl, hle, haccepts⟩⟩
  simp [Ledger.decoded]

section Held

variable (ha : Admits texts digest candidate sha row st₀) (h : Holding digest candidate sha st₀ row st)
  (hsame : settlementCandidate candidate sha after = settlementCandidate candidate sha row)
include ha h hsame

lemma held_lookup : (st.state.getD .empty).events.lookup (settlementRequest candidate sha after).fact.dedupeKey =
    some (settlementRequest candidate sha row).record.decoded := by
  obtain ⟨revision, hstate, _⟩ := h.state
  have hbase := decoded_lookup (st₀.state.getD .empty) (settlementCandidate candidate sha row).dedupeKey
  rw [ha.key, Option.map_none] at hbase
  rw [hstate, settlementRequest_fact, hsame]
  simp [List.lookup_append, hbase]

lemma held_turn {replaced : Bool} (hmerge : mergeSettlementRow row.decoded after = .ok replaced) :
    ∃ t, turn (settlementRequest candidate sha after) (settlementRequest candidate sha after).record st.state = .ok t ∧
      t.record = if replaced then (settlementRequest candidate sha after).record
        else (settlementRequest candidate sha row).record.decoded := by
  refine turn_merged (held_lookup ha h hsame) ?_
  have hsettlement : (settlementRequest candidate sha after).settlement.isSome = true := rfl
  rw [mergePrior, if_pos hsettlement]
  simp [mergeSettlementRecord, settlementRequest, Request.record, Item.decoded, hmerge, Except.map]

lemma publish_kept (hs : Sound row) (hslot : slotValid slot = true)
    (hplain : Plain texts (settlementCandidate candidate sha after))
    (hmerge : mergeSettlementRow row.decoded after = .ok false) :
    publishRow texts digest candidate sha slot after st = (st, .ok ()) := by
  obtain ⟨t, hturn, hrecord⟩ := held_turn ha h hsame hmerge
  rw [if_neg Bool.false_ne_true] at hrecord
  obtain ⟨hevents, hchanged, _⟩ := turn_ok hturn
  rw [hrecord, Dictionary.put_of_lookup (held_lookup ha h hsame)] at hevents
  have hunchanged : t.changed = false := by rw [hchanged, hevents]; simp
  have hkept := turn_unchanged hturn hunchanged
  obtain ⟨revision, hstate, p, hobject, hle, haccepts⟩ := h.state
  have hledger := Option.some.inj (hkept.symm.trans hstate)
  have hitems : t.ledger.items = ((st₀.state.getD .empty).items ++ [(settlementRequest candidate sha row).record]).map
      Item.decoded := by
    rw [List.map_append, ← decoded_items, hledger]
    simp [Ledger.items]
  have hprojectable := (projectable_append ha.plain hs ha.fit ha.attempts ha.others).decoded
  rw [← hitems, ← hsame] at hprojectable
  have hobjects : ∀ p ∈ st.object, slotAccepts digest (settlementRequest candidate sha after).fact.scope p = true := by
    intro p' hp'
    rw [hobject] at hp'
    rw [settlementRequest_fact, hsame, ← Option.some.inj hp']
    exact haccepts
  obtain ⟨p', hp', _, _, hsamep⟩ := persist_ok slot (admitted hplain) hslot hturn hprojectable hobjects
  rw [hunchanged, hsamep p hobject (hledger ▸ hle), ← hobject] at hp'
  exact hp'

lemma publish_newer (hs : Sound after) (hslot : slotValid slot = true)
    (ha' : Admits texts digest candidate sha after st₀) (hne : row.decoded ≠ after)
    (hmerge : mergeSettlementRow row.decoded after = .ok true) :
    ∃ st', publishRow texts digest candidate sha slot after st = (st', .ok ()) ∧ Holding digest candidate sha st₀ after st' := by
  obtain ⟨t, hturn, hrecord⟩ := held_turn ha h hsame hmerge
  rw [if_pos rfl] at hrecord
  obtain ⟨hevents, hchanged, _⟩ := turn_ok hturn
  obtain ⟨revision, hstate, p, hobject, hle, haccepts⟩ := h.state
  have hbase := decoded_lookup (st₀.state.getD .empty) (settlementCandidate candidate sha row).dedupeKey
  rw [ha.key, Option.map_none] at hbase
  have hput : t.ledger.events = (st₀.state.getD .empty).decoded.events ++
      [((settlementCandidate candidate sha after).dedupeKey, (settlementRequest candidate sha after).record)] := by
    rw [hevents, hrecord, hstate, settlementRequest_fact, hsame, Option.getD_some, Dictionary.put_append hbase]
    simp [Dictionary.put]
  have hnew : t.changed = true := by
    rw [hchanged, hput, hstate, hsame]
    simp only [Option.getD_some, ne_eq, List.append_cancel_left_eq, List.cons.injEq, Prod.mk.injEq, and_true, true_and,
      decide_eq_true_eq]
    intro he
    have hsettlement := congrArg Item.settlement he
    exact hne (Option.some.inj hsettlement).symm
  have hprojectable : Projectable texts (settlementRequest candidate sha after).fact.scope t.ledger.items := by
    have hitems : t.ledger.items = (st₀.state.getD .empty).items.map Item.decoded ++
        [(settlementRequest candidate sha after).record] := by
      rw [← decoded_items, Ledger.items, hput, List.map_append]
      rfl
    rw [hitems, settlementRequest_fact]
    refine projectable_append ha'.plain hs (fun item hitem => ?_) ?_ ?_
    · obtain ⟨item', hitem', rfl⟩ := List.mem_map.mp hitem
      exact (ha'.fit item' hitem').decoded
    · rw [attempts_decoded]
      exact ha'.attempts
    · rw [attempts_decoded]
      exact ha'.others
  have hobjects : ∀ p ∈ st.object, slotAccepts digest (settlementRequest candidate sha after).fact.scope p = true := by
    intro p' hp'
    rw [hobject] at hp'
    rw [settlementRequest_fact, hsame, ← Option.some.inj hp']
    exact haccepts
  obtain ⟨p', hp', haccepts', hle', _⟩ := persist_ok slot (admitted ha'.plain) hslot hturn hprojectable hobjects
  rw [hnew, if_pos rfl] at hp'
  refine ⟨_, hp', ⟨t.ledger.revision, ?_, p', rfl, hle', haccepts'⟩⟩
  have hdecoded : t.ledger.decoded = ⟨t.ledger.revision, (st₀.state.getD .empty).decoded.decoded.events ++
      [((settlementCandidate candidate sha after).dedupeKey, (settlementRequest candidate sha after).record.decoded)]⟩ := by
    simp [Ledger.decoded, hput]
  rw [hdecoded, decoded_decoded]

lemma publish_refused (hslot : slotValid slot = true) (hplain : Plain texts (settlementCandidate candidate sha after))
    {e : String} (hmerge : mergeSettlementRow row.decoded after = .error e) :
    publishRow texts digest candidate sha slot after st = (st, .error e) := by
  have hturn : turn (settlementRequest candidate sha after) (settlementRequest candidate sha after).record st.state =
      .error e := by
    have hsettlement : (settlementRequest candidate sha after).settlement.isSome = true := rfl
    have hmerged : mergePrior (settlementRequest candidate sha after) (settlementRequest candidate sha row).record.decoded
        (settlementRequest candidate sha after).record = .error e := by
      rw [mergePrior, if_pos hsettlement]
      simp [mergeSettlementRecord, settlementRequest, Request.record, Item.decoded, hmerge, Except.map]
    unfold turn
    simp only [held_lookup ha h hsame, hmerged]
  simp only [publishRow, persistCandidate, admitted hplain, hslot, Bool.not_true, Bool.false_eq_true, if_false, hturn]

end Held

end Rows

section Sequences

variable (texts : Texts) (digest : Scope → String) (candidate : String → String → String → Event) (sha : String → String)
  (slot : String)

def Newest (rows : List Row) (row : Row) : Prop := row ∈ rows ∧ ∀ r ∈ rows, Older r row

/-- No row without an observation comes again before a newer one has come. -/
def Fresh (rows : List Row) : Prop :=
  Chronicle.Preceded (fun before row => row.settlementSequence = 0 → row ∈ before → ∃ newer ∈ before, newer ≠ row ∧ Older row newer)
    rows

structure Settles (st₀ : Stores) (rows : List Row) : Prop where
  published : (publishRows texts digest candidate sha slot rows st₀).2 = .ok ()
  newest : ∀ row, Newest rows row → ∃ ledger item, (publishRows texts digest candidate sha slot rows st₀).1.state = some ledger ∧
    ledger.events.lookup (settlementCandidate candidate sha row).dedupeKey = some item ∧ item.settlement = some row.decoded
  again : ∀ before row after, rows = before ++ row :: after → row ∈ before →
    publishRow texts digest candidate sha slot row (publishRows texts digest candidate sha slot before st₀).1 =
      ((publishRows texts digest candidate sha slot before st₀).1, .ok ())

structure Attempt (st₀ : Stores) (rows : List Row) : Prop where
  sound : ∀ row ∈ rows, Sound row
  ordered : ∀ row ∈ rows, ∀ row' ∈ rows, Older row row' ∨ Older row' row
  admits : ∀ row ∈ rows, Admits texts digest candidate sha row st₀

variable {texts digest candidate sha slot} {st st₀ : Stores} {rows : List Row} {row held : Row}

lemma publishRows_snoc : publishRows texts digest candidate sha slot (rows ++ [row]) st =
    match publishRows texts digest candidate sha slot rows st with
    | (st, .ok ()) => publishRow texts digest candidate sha slot row st
    | (st, .error e) => (st, .error e) := by
  induction rows generalizing st with
  | nil =>
    simp only [List.nil_append, publishRows]
    split
    · rename_i hr
      exact hr.symm
    · rename_i hr
      exact hr.symm
  | cons r rows ih =>
    simp only [List.cons_append, publishRows]
    cases hr : publishRow texts digest candidate sha slot r st with
    | mk st' x =>
      cases x with
      | error e => rfl
      | ok => exact ih

lemma Attempt.sublist {rows' : List Row} (h : Attempt texts digest candidate sha st₀ rows) (hs : rows' ⊆ rows) :
    Attempt texts digest candidate sha st₀ rows' :=
  ⟨fun r hr => h.sound r (hs hr), fun r hr r' hr' => h.ordered r (hs hr) r' (hs hr'), fun r hr => h.admits r (hs hr)⟩

variable (slot) in
lemma publish_next (hslot : slotValid slot = true) (hheld : Admits texts digest candidate sha held st₀)
    (hrow : Admits texts digest candidate sha row st₀) (hsound : Sound held) (hsound' : Sound row)
    (h : Holding digest candidate sha st₀ held st) :
    (Older held row → held ≠ row → ∃ st', publishRow texts digest candidate sha slot row st = (st', .ok ()) ∧
      Holding digest candidate sha st₀ row st') ∧
    (Older row held → row ≠ held → publishRow texts digest candidate sha slot row st = (st, .ok ())) ∧
    (row = held → 0 < row.settlementSequence → publishRow texts digest candidate sha slot row st = (st, .ok ())) ∧
    (row = held → row.settlementSequence = 0 →
      publishRow texts digest candidate sha slot row st = (st, .error "settlement_candidate_sequence_conflict")) := by
  refine ⟨fun ho hne => ?_, fun ho hne => ?_, fun he hpos => ?_, fun he hz => ?_⟩
  · refine publish_newer hheld h (candidate_older ho).symm hsound' hslot hrow (fun hd => ?_) (merge_newer ho hne)
    refine hne (ho.still ?_ ?_)
    · rw [← hd]
      rfl
    · rw [← hd]
      rfl
  · exact publish_kept hheld h (candidate_older ho) hsound hslot hrow.plain (merge_older ho hne)
  · subst he
    exact publish_kept hheld h rfl hsound hslot hrow.plain (by rw [merge_same hsound, if_neg hpos.ne'])
  · subst he
    exact publish_refused hheld h rfl hslot hrow.plain (by rw [merge_same hsound, if_pos hz])

lemma older_refl (h : Attempt texts digest candidate sha st₀ rows) (hr : row ∈ rows) : Older row row :=
  (h.ordered row hr row hr).elim id id

variable (slot) in
lemma publishRows_holding (hslot : slotValid slot = true) (h : Attempt texts digest candidate sha st₀ rows) (hf : Fresh rows) :
    rows = [] ∨ ∃ row st, Newest rows row ∧ publishRows texts digest candidate sha slot rows st₀ = (st, .ok ()) ∧
      Holding digest candidate sha st₀ row st := by
  induction rows using List.reverseRecOn with
  | nil => exact .inl rfl
  | append_singleton rows row ih =>
    have hrow : row ∈ rows ++ [row] := List.mem_append_right _ (List.mem_singleton_self _)
    have hrows := h.sublist (List.subset_append_left rows [row])
    refine .inr ?_
    rcases ih hrows hf.left with rfl | ⟨held, st, ⟨hmem, hnewest⟩, hpublished, hholding⟩
    · obtain ⟨st, hst, hholding⟩ := publish_first hslot (h.admits row hrow) (h.sound row hrow)
      refine ⟨row, st, ⟨hrow, fun r hr => ?_⟩, by rw [publishRows_snoc]; exact hst, hholding⟩
      rw [List.mem_singleton.mp hr]
      exact older_refl h hrow
    · obtain ⟨hnewer, holder, hagain, _⟩ := publish_next slot hslot (hrows.admits held hmem) (h.admits row hrow)
        (hrows.sound held hmem) (h.sound row hrow) hholding
      have hkept : Older row held → publishRow texts digest candidate sha slot row st = (st, .ok ()) →
          ∃ row' st', Newest (rows ++ [row]) row' ∧
            publishRows texts digest candidate sha slot (rows ++ [row]) st₀ = (st', .ok ()) ∧
              Holding digest candidate sha st₀ row' st' := by
        intro ho hp
        refine ⟨held, st, ⟨List.mem_append_left _ hmem, fun r hr => ?_⟩, by rw [publishRows_snoc, hpublished]; exact hp, hholding⟩
        rcases List.mem_append.mp hr with hr | hr
        · exact hnewest r hr
        · exact List.mem_singleton.mp hr ▸ ho
      by_cases he : row = held
      · -- The newest row comes again: it has been observed, or else something newer than it has come.
        have hpos : 0 < row.settlementSequence := by
          by_contra hz
          obtain ⟨newer, hin, hne, ho⟩ := hf rows row [] rfl (by omega) (he ▸ hmem)
          exact hne ((he ▸ hnewest newer hin : Older newer row).antisymm ho)
        exact hkept (he ▸ hnewest held hmem) (hagain he hpos)
      · rcases h.ordered row hrow held (List.mem_append_left _ hmem) with ho | ho
        · exact hkept ho (holder ho he)
        · obtain ⟨st', hst', hholding'⟩ := hnewer ho (Ne.symm he)
          refine ⟨row, st', ⟨hrow, fun r hr => ?_⟩, by rw [publishRows_snoc, hpublished]; exact hst', hholding'⟩
          rcases List.mem_append.mp hr with hr | hr
          · exact (hnewest r hr).trans ho
          · rw [List.mem_singleton.mp hr]
            exact older_refl h hrow

lemma fresh_of_published (hslot : slotValid slot = true) (h : Attempt texts digest candidate sha st₀ rows)
    (hp : (publishRows texts digest candidate sha slot rows st₀).2 = .ok ()) : Fresh rows := by
  induction rows using List.reverseRecOn with
  | nil => exact Chronicle.preceded_nil
  | append_singleton rows row ih =>
    have hrow : row ∈ rows ++ [row] := List.mem_append_right _ (List.mem_singleton_self _)
    have hrows := h.sublist (List.subset_append_left rows [row])
    rw [publishRows_snoc] at hp
    have hfresh : Fresh rows := by
      refine ih hrows ?_
      split at hp
      · rename_i heq
        rw [heq]
      · cases hp
    refine hfresh.snoc fun hz hmem => ?_
    rcases publishRows_holding slot hslot hrows hfresh with rfl | ⟨held, st, ⟨hheld, hnewest⟩, hpublished, hholding⟩
    · cases hmem
    · rw [hpublished] at hp
      dsimp only at hp
      refine ⟨held, hheld, fun he => ?_, hnewest row hmem⟩
      rw [(publish_next slot hslot (hrows.admits held hheld) (h.admits row hrow) (hrows.sound held hheld) (h.sound row hrow)
        hholding).2.2.2 he.symm hz] at hp
      cases hp

lemma settles_iff_fresh (hslot : slotValid slot = true) (h : Attempt texts digest candidate sha st₀ rows) :
    Settles texts digest candidate sha slot st₀ rows ↔ Fresh rows := by
  refine ⟨fun hs => fresh_of_published hslot h hs.published, fun hf => ⟨?_, fun row hnewest => ?_, fun before row after he hmem => ?_⟩⟩
  · rcases publishRows_holding slot hslot h hf with rfl | ⟨held, st, _, hpublished, _⟩
    · rfl
    · rw [hpublished]
  · rcases publishRows_holding slot hslot h hf with rfl | ⟨held, st, hheld, hpublished, hholding⟩
    · exact absurd hnewest.1 List.not_mem_nil
    · obtain rfl : held = row := (hnewest.2 held hheld.1).antisymm (hheld.2 row hnewest.1)
      obtain ⟨revision, hstate, _⟩ := hholding.state
      rw [hpublished]
      refine ⟨_, (settlementRequest candidate sha held).record.decoded, hstate, ?_, rfl⟩
      have hbase := decoded_lookup (st₀.state.getD .empty) (settlementCandidate candidate sha held).dedupeKey
      rw [(h.admits held hheld.1).key, Option.map_none] at hbase
      simp [List.lookup_append, hbase]
  · subst he
    have hrow : row ∈ before ++ row :: after := List.mem_append_right _ List.mem_cons_self
    have hbefore := h.sublist (List.subset_append_left before (row :: after))
    rcases publishRows_holding slot hslot hbefore hf.left with rfl | ⟨held, st, hheld, hpublished, hholding⟩
    · cases hmem
    · rw [hpublished]
      obtain ⟨_, holder, hagain, _⟩ := publish_next slot hslot (hbefore.admits held hheld.1) (h.admits row hrow)
        (hbefore.sound held hheld.1) (h.sound row hrow) hholding
      by_cases hsame : row = held
      · refine hagain hsame (Nat.pos_of_ne_zero fun hz => ?_)
        obtain ⟨newer, hin, hne, ho⟩ := hf before row after rfl hz hmem
        exact hne ((hsame ▸ hheld.2 newer hin : Older newer row).antisymm ho)
      · exact holder (hheld.2 row hmem) hsame

variable {I : Type} [DecidableEq I] {hasOffset : String → Bool} {profile : String}

/-- The rows of an attempt settle in any order unless an unobserved one comes back too early. -/
theorem settlement_rows_settle {t : Observers.State I} {attempt : String} (hslot : slotValid slot = true)
    (hrows : ∀ row ∈ rows, ∃ s, Earlier hasOffset profile t s ∧ Reported profile s.store attempt row)
    (hadmits : ∀ row ∈ rows, Admits texts digest candidate sha row st₀) :
    Settles texts digest candidate sha slot st₀ rows ↔ Fresh rows := by
  refine settles_iff_fresh hslot ⟨fun row hrow => ?_, fun row hrow row' hrow' => ?_, hadmits⟩
  · obtain ⟨s, hs, hreported⟩ := hrows row hrow
    exact (reported_rows hs hs hreported hreported).1
  · obtain ⟨s, hs, hreported⟩ := hrows row hrow
    obtain ⟨s', hs', hreported'⟩ := hrows row' hrow'
    exact (reported_rows hs hs' hreported hreported').2.2

end Sequences

section Fixture

open Observers (attempt₀ order₀ filled₀ race₀)

def candidate₀ (runId started orderDigest : String) : Event :=
  ⟨scope₀, "order_settlement", "known", runId, "order_settlement", [("order_execution_digest", orderDigest)], started, none,
    none, none⟩

def sha₀ (text : String) : String := "sha256:" ++ text

def prepared₀ : Row := rowOf ⟨order₀, none, none, []⟩

def bound₀ : Row := rowOf ⟨order₀, some "73", none, []⟩

def settled₀ : Row := rowOf ⟨order₀, some "73", none, [⟨1, filled₀⟩]⟩

def rowsAfter₀ (n : ℕ) : Option (List Row) :=
  (System.execute (Observers.step (fun _ => true) "alpha") Observers.start₀ (race₀.take n)).bind fun s =>
    (settlementSummary "alpha" s.store).toOption.map Summary.ordersSubmitted

lemma rowsAfter₀_reported {t : Observers.State Bool} (n : ℕ) (row : Row)
    (ht : System.execute (Observers.step (fun _ => true) "alpha") Observers.start₀ race₀ = some t)
    (h : rowsAfter₀ n = some [row]) (ha : row.settlementAttemptId = attempt₀) :
    ∃ s, Earlier (fun _ => true) "alpha" t s ∧ Reported "alpha" s.store attempt₀ row := by
  obtain ⟨s, hs, hrows⟩ := Option.bind_eq_some_iff.mp h
  obtain ⟨summary, hsummary, hsubmitted⟩ := Option.map_eq_some_iff.mp hrows
  have hok : settlementSummary "alpha" s.store = .ok summary := by
    cases hx : settlementSummary "alpha" s.store with
    | error e => simp [hx, Except.toOption] at hsummary
    | ok found => simpa [hx, Except.toOption] using hsummary
  have hreachable : (Observers.observers (fun _ => true) "alpha").Reachable s :=
    ⟨Observers.start₀, race₀.take n, ⟨rfl, rfl⟩, System.run_of_execute hs⟩
  rw [← List.take_append_drop n race₀, System.execute_append, hs, Option.bind_some] at ht
  exact ⟨s, ⟨hreachable, _, System.run_of_execute ht⟩, summary, hok, hsubmitted ▸ List.mem_singleton_self row, ha⟩

lemma admits₀ (row : Row) (h : settlementCandidate candidate₀ sha₀ row = settlementCandidate candidate₀ sha₀ prepared₀) :
    Admits texts₀ Scope.platformId candidate₀ sha₀ row ⟨none, none⟩ := by
  refine ⟨?_, fun item hitem => absurd hitem List.not_mem_nil, List.nodup_nil, List.not_mem_nil, rfl, fun p hp => ?_⟩
  · rw [h]
    exact ⟨by decide +kernel, rfl, by decide +kernel, by decide +kernel, rfl, rfl⟩
  · cases hp

theorem settlement_rows_settle₀ :
    Settles texts₀ Scope.platformId candidate₀ sha₀ "main" ⟨none, none⟩ [bound₀, prepared₀, settled₀, settled₀] := by
  obtain ⟨t, ht⟩ := Option.isSome_iff_exists.mp (by decide +kernel :
    (System.execute (Observers.step (fun _ => true) "alpha") Observers.start₀ race₀).isSome = true)
  have hprepared := rowsAfter₀_reported 1 prepared₀ ht (by decide +kernel) rfl
  have hbound := rowsAfter₀_reported 2 bound₀ ht (by decide +kernel) rfl
  have hsettled := rowsAfter₀_reported 9 settled₀ ht (by decide +kernel) rfl
  have hrows : ∀ row ∈ [bound₀, prepared₀, settled₀, settled₀],
      ∃ s, Earlier (fun _ => true) "alpha" t s ∧ Reported "alpha" s.store attempt₀ row := by
    intro row hrow
    simp only [List.mem_cons, List.not_mem_nil, or_false] at hrow
    rcases hrow with rfl | rfl | rfl | rfl
    · exact hbound
    · exact hprepared
    · exact hsettled
    · exact hsettled
  refine (settlement_rows_settle (by decide) hrows fun row hrow => ?_).mpr ?_
  · simp only [List.mem_cons, List.not_mem_nil, or_false] at hrow
    rcases hrow with rfl | rfl | rfl | rfl <;> exact admits₀ _ rfl
  · have hfresh : Fresh [] := Chronicle.preceded_nil
    have hone : Fresh [bound₀] := hfresh.snoc fun _ h => absurd h List.not_mem_nil
    have htwo : Fresh [bound₀, prepared₀] := hone.snoc fun _ h => absurd h (by decide +kernel)
    have hthree : Fresh [bound₀, prepared₀, settled₀] := htwo.snoc fun h => absurd h (by decide +kernel)
    exact hthree.snoc fun h => absurd h (by decide +kernel)

theorem unobserved_row_is_refused : ∃ t : Observers.State Bool,
    (∃ s, Earlier (fun _ => true) "alpha" t s ∧ Reported "alpha" s.store attempt₀ bound₀) ∧
      (publishRows texts₀ Scope.platformId candidate₀ sha₀ "main" [bound₀, bound₀] ⟨none, none⟩).2 =
        .error "settlement_candidate_sequence_conflict" := by
  obtain ⟨t, ht⟩ := Option.isSome_iff_exists.mp (by decide +kernel :
    (System.execute (Observers.step (fun _ => true) "alpha") Observers.start₀ race₀).isSome = true)
  exact ⟨t, rowsAfter₀_reported 2 bound₀ ht (by decide +kernel) rfl, by decide +kernel⟩

end Fixture

end IbkrPlatform.Notifications.SettlementCandidates
