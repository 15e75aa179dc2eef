import IbkrPlatform.Library.Dictionary
import IbkrPlatform.Library.OrderedMap
import IbkrPlatform.Settlement.Summary

/-! The facts of a notification candidate, and how a fact is merged with what is stored under its key. -/

namespace IbkrPlatform.Notifications

open Library Settlement

structure Scope where
  platformId : String
  opaqueAccountUid : String
  targetId : String
  strategyProfile : String
  businessDay : String
deriving DecidableEq

abbrev Counts := OrderedMap String (Option ℤ)

instance : DecidableEq Counts := fun a b =>
  decidable_of_iff (a.entries = b.entries) ⟨fun h => by cases a; cases b; cases h; rfl, fun h => h ▸ rfl⟩

structure Event where
  scope : Scope
  dedupeKey : String
  coverageStatus : String
  sourceRunId : String
  eventKind : String
  details : List (String × String)
  occurredAt : String
  routineObservationCounts : Option Counts
  orderCount : Option ℤ
  fillCount : Option ℤ
deriving DecidableEq

abbrev BlockReason := List (String × String)

structure Item where
  event : Event
  actuallyRan : Bool
  dryRun : Bool
  settlement : Option Row
  blockReason : Option BlockReason
  conflict : Bool
deriving DecidableEq

def Item.decoded (item : Item) : Item := { item with settlement := item.settlement.map Row.decoded }

structure Ledger where
  revision : ℕ
  events : List (String × Item)
deriving DecidableEq

def Ledger.empty : Ledger := ⟨0, []⟩

def Ledger.decoded (ledger : Ledger) : Ledger := { ledger with events := ledger.events.map fun e => (e.1, e.2.decoded) }

def Ledger.items (ledger : Ledger) : List Item := ledger.events.map Prod.snd

lemma item_decoded (item : Item) : item.decoded.decoded = item.decoded := by
  cases h : item.settlement <;> simp [Item.decoded, h, Row.decoded]

lemma decoded_decoded (ledger : Ledger) : ledger.decoded.decoded = ledger.decoded := by
  simp [Ledger.decoded, List.map_map, Function.comp_def, item_decoded]

lemma decoded_items (ledger : Ledger) : ledger.decoded.items = ledger.items.map Item.decoded := by
  simp [Ledger.items, Ledger.decoded, List.map_map, Function.comp_def]

lemma decoded_lookup (ledger : Ledger) (key : String) :
    ledger.decoded.events.lookup key = (ledger.events.lookup key).map Item.decoded := Dictionary.lookup_map _

section Counts

def allowedCategories : List String := ["watch", "opportunity_watch", "panic_reversal", "taco_rebound"]

def countsValid (counts : Counts) : Bool :=
  counts.entries.all fun e => e.1 ∈ allowedCategories ∧ e.2.all (0 ≤ ·)

def mergeCount (a b : Option ℤ) : Option ℤ := if a = b then a else none

def mergeRoutineObservationCounts (left right : Counts) : Except String Counts :=
  if countsValid left ∧ countsValid right then
    .ok <| ((left.entries ++ right.entries).map Prod.fst).foldl
      (fun m k => m.insert k (mergeCount ((left.get? k).getD (some 0)) ((right.get? k).getD (some 0)))) OrderedMap.empty
  else .error "notification_observation_counts_invalid"

end Counts

structure Request where
  fact : Event
  actuallyRan : Bool
  dryRun : Bool
  settlement : Option Row
  blockReason : Option BlockReason
deriving DecidableEq

def Request.record (q : Request) : Item := ⟨q.fact, q.actuallyRan, q.dryRun, q.settlement, q.blockReason, false⟩

section Merge

def comparable (e : Event) : Event :=
  { e with occurredAt := "", routineObservationCounts := none, orderCount := none, fillCount := none }

def countsDiffer (before after : Option ℤ) : Bool := before.isSome ∧ after.isSome ∧ before ≠ after

def countConflict (prior fact : Event) : Bool :=
  countsDiffer prior.orderCount fact.orderCount || countsDiffer prior.fillCount fact.fillCount

def mergeObservations (prior fact : Option Counts) : Except String (Option Counts) :=
  match prior, fact with
  | some old, some new => (mergeRoutineObservationCounts old new).map some
  | none, some new => (mergeRoutineObservationCounts new new).map some
  | old, none => .ok old

def Row.sameOrder (before after : Row) : Bool :=
  before.settlementAttemptId = after.settlementAttemptId ∧ before.sourceRunId = after.sourceRunId ∧
    before.submittedAt = after.submittedAt ∧ before.symbol = after.symbol ∧ before.side = after.side ∧
    before.quantity = after.quantity

/-- The rows of `merge_settlement_record`: whether the later one takes the place of the earlier. -/
def mergeSettlementRow (before after : Row) : Except String Bool :=
  if !Row.sameOrder before after then .error "settlement_candidate_identity_conflict"
  else if before.brokerOrderId.isSome ∧ after.brokerOrderId.isSome ∧ before.brokerOrderId ≠ after.brokerOrderId then
    .error "settlement_candidate_order_conflict"
  else if before.brokerOrderId.isSome ∧ after.brokerOrderId.isNone then .ok false
  else if before.brokerConfirmedTerminal ∨ after.settlementSequence < before.settlementSequence then .ok false
  else if before.settlementSequence = after.settlementSequence then
    if before.brokerOrderId.isNone ∧ after.brokerOrderId.isSome then .ok true
    else if before ≠ after then .error "settlement_candidate_sequence_conflict"
    else .ok false
  else .ok true

/-- `merge_settlement_record`; a record without a settlement is a `KeyError`. -/
def mergeSettlementRecord (prior record : Item) : Except String Item :=
  match prior.settlement, record.settlement with
  | some before, some after => (mergeSettlementRow before after).map fun replaced => if replaced then record else prior
  | _, _ => .error "settlement"

def mergePrior (q : Request) (prior record : Item) : Except String Item :=
  if q.settlement.isSome then mergeSettlementRecord prior record
  else if comparable prior.event ≠ comparable record.event ∨ prior.dryRun ≠ q.dryRun then
    .ok { prior with conflict := true }
  else match mergeObservations prior.event.routineObservationCounts q.fact.routineObservationCounts with
    | .error e => .error e
    | .ok counts =>
      .ok { prior with
        event := { prior.event with
          orderCount := prior.event.orderCount.or q.fact.orderCount
          fillCount := prior.event.fillCount.or q.fact.fillCount
          routineObservationCounts := counts }
        conflict := prior.conflict || countConflict prior.event q.fact
        blockReason := q.blockReason.or prior.blockReason }

/-- One turn of the loop of `persist_candidate`: the record it carries on, the state it would store, and whether that
state is a new one. -/
structure Turn where
  record : Item
  ledger : Ledger
  changed : Bool

def turn (q : Request) (record : Item) (old : Option Ledger) : Except String Turn :=
  let old := old.getD .empty
  let merged : Except String Item := match old.events.lookup q.fact.dedupeKey with
    | none => .ok record
    | some prior => mergePrior q prior record
  match merged with
  | .error e => .error e
  | .ok record =>
    let events := Dictionary.put q.fact.dedupeKey record old.events
    let changed := events ≠ old.events
    .ok ⟨record, ⟨if changed then old.revision + 1 else old.revision, events⟩, changed⟩

end Merge

def Request.admitted (q : Request) : Except String Unit :=
  if !q.actuallyRan then .error "notification_candidate_business_run_required"
  else if q.fact.coverageStatus ≠ "known" ∨ q.fact.dedupeKey = "" then .error "notification_candidate_identity_unknown"
  else match q.fact.routineObservationCounts with
    | none => .ok ()
    | some counts => (mergeRoutineObservationCounts counts counts).map fun _ => ()

section Merges

variable {q : Request} {prior record merged : Item} {old : Option Ledger} {t : Turn}

lemma mergePrior_keeps (hs : q.settlement = none) (h : mergePrior q prior record = .ok merged) :
    comparable merged.event = comparable prior.event ∧ merged.dryRun = prior.dryRun ∧ (prior.conflict → merged.conflict) := by
  unfold mergePrior at h
  rw [hs] at h
  simp only [Option.isSome_none, Bool.false_eq_true, if_false] at h
  split at h
  · obtain rfl := Except.ok.inj h
    exact ⟨rfl, rfl, fun _ => rfl⟩
  · split at h
    · cases h
    · obtain rfl := Except.ok.inj h
      exact ⟨rfl, rfl, fun hc => by simp [hc]⟩

lemma mergeSettlementRecord_eq (h : mergeSettlementRecord prior record = .ok merged) : merged = prior ∨ merged = record := by
  unfold mergeSettlementRecord at h
  split at h
  · rename_i before after _ _
    cases hrow : mergeSettlementRow before after with
    | error e => simp [hrow, Except.map] at h
    | ok replaced =>
      simp only [hrow, Except.map, Except.ok.injEq] at h
      cases replaced
      · exact .inl h.symm
      · exact .inr h.symm
  · cases h

lemma turn_ok (h : turn q record old = .ok t) :
    t.ledger.events = Dictionary.put q.fact.dedupeKey t.record (old.getD .empty).events ∧
      t.changed = decide (t.ledger.events ≠ (old.getD .empty).events) ∧
      t.ledger.revision = (if t.changed then (old.getD .empty).revision + 1 else (old.getD .empty).revision) ∧
      (((old.getD .empty).events.lookup q.fact.dedupeKey = none ∧ t.record = record) ∨
        ∃ prior, (old.getD .empty).events.lookup q.fact.dedupeKey = some prior ∧ mergePrior q prior record = .ok t.record) := by
  unfold turn at h
  extract_lets old' merged at h
  have hmerged : ∀ r, merged = .ok r → ((old'.events.lookup q.fact.dedupeKey = none ∧ r = record) ∨
      ∃ prior, old'.events.lookup q.fact.dedupeKey = some prior ∧ mergePrior q prior record = .ok r) := by
    intro r hr
    unfold merged at hr
    split at hr
    · rename_i hn
      exact .inl ⟨hn, (Except.ok.inj hr).symm⟩
    · rename_i prior hp
      exact .inr ⟨prior, hp, hr⟩
  cases hm : merged with
  | error e => simp [hm] at h
  | ok r =>
    simp only [hm, Except.ok.injEq] at h
    subst h
    refine ⟨rfl, rfl, ?_, hmerged r hm⟩
    simp only [decide_eq_true_eq]
    rfl

lemma turn_merged {prior : Item} (hl : (old.getD .empty).events.lookup q.fact.dedupeKey = some prior)
    (hm : mergePrior q prior record = .ok merged) : ∃ t, turn q record old = .ok t ∧ t.record = merged := by
  unfold turn
  simp only [hl, hm]
  exact ⟨_, rfl, rfl⟩

lemma turn_unchanged (h : turn q record old = .ok t) (hc : t.changed = false) : old = some t.ledger := by
  obtain ⟨hevents, hchanged, hrevision, _⟩ := turn_ok h
  have hsame : t.ledger.events = (old.getD .empty).events := by simpa [hc] using hchanged
  have hkept : t.ledger.revision = (old.getD .empty).revision := by simpa [hc] using hrevision
  cases old with
  | none =>
    rw [hevents] at hsame
    cases hsame
  | some ledger =>
    obtain ⟨revision, events⟩ := ledger
    have hl : t.ledger = ⟨revision, events⟩ := by
      cases ht : t.ledger
      simp only [ht, Option.getD_some] at hsame hkept
      rw [hsame, hkept]
    rw [hl]

lemma turn_lookup (h : turn q record old = .ok t) : t.ledger.events.lookup q.fact.dedupeKey = some t.record := by
  rw [(turn_ok h).1, Dictionary.lookup_put_self]

lemma turn_lookup_ne (h : turn q record old = .ok t) {key : String} (hk : key ≠ q.fact.dedupeKey) :
    t.ledger.events.lookup key = (old.getD .empty).events.lookup key := by
  rw [(turn_ok h).1, Dictionary.lookup_put_ne hk]

lemma mergePrior_scope (h : mergePrior q prior record = .ok merged) :
    merged.event.scope = prior.event.scope ∨ merged.event.scope = record.event.scope := by
  cases hs : q.settlement with
  | none =>
    have hkeep := congrArg Event.scope (mergePrior_keeps hs h).1
    exact .inl hkeep
  | some row =>
    rw [mergePrior, if_pos (by simp [hs])] at h
    rcases mergeSettlementRecord_eq h with rfl | rfl
    · exact .inl rfl
    · exact .inr rfl

lemma turn_scope (h : turn q record old = .ok t) {P : Scope → Prop} (hrecord : P record.event.scope)
    (hold : ∀ item ∈ (old.getD .empty).items, P item.event.scope) :
    P t.record.event.scope ∧ ∀ item ∈ t.ledger.items, P item.event.scope := by
  obtain ⟨hevents, _, _, hmerged⟩ := turn_ok h
  have hnew : P t.record.event.scope := by
    rcases hmerged with ⟨_, hr⟩ | ⟨prior, hprior, hmerge⟩
    · exact hr ▸ hrecord
    · have hin : prior ∈ (old.getD .empty).items := List.mem_map.mpr ⟨_, Dictionary.mem_of_lookup hprior, rfl⟩
      rcases mergePrior_scope hmerge with hs | hs
      · exact hs ▸ hold prior hin
      · exact hs ▸ hrecord
  refine ⟨hnew, fun item hitem => ?_⟩
  obtain ⟨e, he, rfl⟩ := List.mem_map.mp hitem
  rw [hevents] at he
  rcases Dictionary.mem_put he with rfl | he
  · exact hnew
  · exact hold _ (List.mem_map.mpr ⟨e, he, rfl⟩)

end Merges

end IbkrPlatform.Notifications
