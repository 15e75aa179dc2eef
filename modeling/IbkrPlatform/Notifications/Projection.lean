import IbkrPlatform.Notifications.Candidates

/-! The candidate payload: one row for every source run, projected from the records of a state. -/

namespace IbkrPlatform.Notifications

open Library Settlement

structure Texts where
  /-- `_parse_timestamp`, in microseconds of UTC. -/
  parseTimestamp : String → Option ℤ
  /-- The format `g` of a number. -/
  formatG : ℚ → String
  maskIdentifier : Option String → String
  redactSensitiveText : String → String

inductive Knowledge
  | known
  | unknown
deriving DecidableEq

structure FieldStatus where
  cycleCount : Knowledge
  routineObservationCounts : Knowledge
  orderCount : Knowledge
  fillCount : Knowledge
deriving DecidableEq

structure RunRow where
  scope : Scope
  sourceRunId : String
  actuallyRan : Bool
  cycleCount : ℕ
  status : String
  evidenceProvenance : String
  persistenceStatus : Option String
  deliveryStatus : Option String
  evidencePersistenceStatus : Option String
  evidenceDeliveryStatus : Option String
  asOf : String
  notificationEvents : List Event
  fieldStatus : FieldStatus
  routineObservationCounts : Option Counts
  orderCount : Option ℤ
  fillCount : Option ℤ
  blockReason : Option BlockReason
  reasonCode : Option String
  executionStatus : String
  executionMode : Option String
  rebalanceConclusion : Option String
  rebalanceKind : Option String
deriving DecidableEq

structure Payload where
  schemaVersion : String
  producerStatus : String
  runs : List RunRow
deriving DecidableEq

section Notice

variable (texts : Texts)

def formatNumber : Option ℚ → Except String String
  | none => .error "unsupported format string passed to NoneType.__format__"
  | some value => .ok (texts.formatG value)

def settledDetail (zh : Bool) (row : Row) : Except String String :=
  if !row.brokerConfirmedTerminal then .ok (if zh then "UNKNOWN：仍未确认最终状态" else "UNKNOWN: final state unresolved")
  else if row.status = "Filled" then do
    let filled ← formatNumber texts row.filledQuantity
    let price ← formatNumber texts row.averageFillPrice
    pure ((if zh then "成交 " else "filled ") ++ filled ++ " @ " ++ price)
  else do
    let status := if zh then (if row.status = "Cancelled" then "已取消" else "已拒绝") else row.status.toLower
    if row.filledQuantity.getD 0 = 0 then pure status
    else
      let filled ← formatNumber texts row.filledQuantity
      let price ← formatNumber texts row.averageFillPrice
      pure ((if zh then "部分成交 " else "partial ") ++ filled ++ "/" ++ texts.formatG row.quantity ++ " @ " ++ price ++
        (if zh then "；" else "; ") ++ status)

def settledNotice (zh : Bool) (row : Row) : Except String String :=
  (settledDetail texts zh row).map fun detail => texts.redactSensitiveText <|
    (if zh then "订单结算" else "Order settlement") ++ " | " ++ row.symbol ++ " " ++ row.side ++ " | " ++ detail ++
      " | ID " ++ texts.maskIdentifier row.brokerOrderId

end Notice

section Settlements

variable (texts : Texts)

/-- The event of an item with its settlement, as the existing kinds name it; `none` where it is left out. -/
def settledEvent (terminal : Bool) (item : Item) : Option Event :=
  match item.settlement with
  | some row => some { item.event with eventKind :=
      if row.brokerConfirmedTerminal ∧ 0 < row.filledQuantity.getD 0 then "fill"
      else if row.brokerConfirmedTerminal then "order_cancelled" else "order_status_unknown" }
  | none => if terminal ∧ item.event.eventKind = "order_status_unknown" then none else some item.event

def settledKinds : List String :=
  ["routine_cycle", "healthy_heartbeat", "order_submitted", "fill", "order_settlement", "order_status_unknown"]

def projectSettlementRows (row : RunRow) (items : List Item) : Except String RunRow :=
  let settlements := items.filterMap Item.settlement
  let ids := settlements.map Row.settlementAttemptId
  if settlements = [] then .ok row
  else if ¬ ids.Nodup then .error "settlement_candidate_duplicate"
  else
    let complete := row.orderCount = some (settlements.length : ℤ)
    let terminal := complete ∧ settlements.all (·.brokerConfirmedTerminal)
    match collect (settledNotice texts false) settlements with
    | .error e => .error e
    | .ok notices =>
      let row := { row with
        rebalanceConclusion := some (String.ofList ((String.intercalate "; " notices).toList.take 1024))
        rebalanceKind := some (if terminal then "rebalance" else "pending")
        evidencePersistenceStatus := some (row.persistenceStatus.getD "persisted")
        evidenceDeliveryStatus := some (row.deliveryStatus.getD "pending_central")
        persistenceStatus := none
        deliveryStatus := none
        notificationEvents := items.filterMap (settledEvent terminal) }
      if ¬ terminal then
        .ok { row with
          status := "alert"
          executionStatus := "reconciliation_required"
          reasonCode := some "order_settlement_unresolved"
          fillCount := none
          fieldStatus := { row.fieldStatus with fillCount := .unknown } }
      else
        let fills := settlements.flatMap fun s => s.fills.items.map Fill.executionId
        let known := fills.Nodup ∧ settlements.all fun s => s.filledQuantity = some 0 ∨ s.fills.items ≠ []
        let unrelated := items.any fun item => item.conflict ∨ item.event.eventKind ∉ settledKinds
        let cancelled := settlements.any fun s => s.status = "Cancelled" ∨ s.status = "Rejected"
        .ok { row with
          fillCount := if known then some fills.length else none
          fieldStatus := { row.fieldStatus with fillCount := if known then .known else .unknown }
          status := if unrelated ∨ cancelled then "alert" else "ok"
          executionStatus := if unrelated ∨ cancelled then "execution_alert" else "ok_filled"
          reasonCode := if unrelated then some "notification_incident_observed"
            else if cancelled then some "order_rejected_or_cancelled" else none }

end Settlements

section Rows

variable (texts : Texts)

def latestOf (first : String) : List String → Except String String
  | [] => .ok first
  | stamp :: stamps =>
    match texts.parseTimestamp first, texts.parseTimestamp stamp with
    | some a, some b => latestOf (if a < b then stamp else first) stamps
    | _, _ => .error "'>' not supported"

def routineKinds : List String := ["routine_cycle", "healthy_heartbeat", "order_submitted", "fill"]

/-- The observation counts of a run, merged over its records; `none` where they contradict the format. -/
def mergeAll : List Counts → Option Counts
  | [] => none
  | first :: rest =>
    match mergeRoutineObservationCounts first first with
    | .error _ => none
    | .ok counts => rest.foldl (fun m c => m.bind fun m => (mergeRoutineObservationCounts m c).toOption) (some counts)

def countOf (field : Event → Option ℤ) (real : List Item) : Option ℤ × Bool :=
  let known := (real.filterMap fun item => field item.event).eraseDups
  let conflict := 1 < known.length ∨ real.any Item.conflict
  (if conflict then none else known.head?, conflict)

def projectRun (scope : Scope) (runId : String) (first : Item) (rest : List Item) : Except String RunRow :=
  let items := first :: rest
  match latestOf texts first.event.occurredAt (rest.map (·.event.occurredAt)) with
  | .error e => .error e
  | .ok asOf =>
    let observations := items.filterMap (·.event.routineObservationCounts)
    let counts := mergeAll observations
    let real := items.filter (!·.dryRun)
    let orders := countOf Event.orderCount real
    let fills := countOf Event.fillCount real
    let countConflict := orders.2 || fills.2
    let alert := countConflict || items.any fun item => item.conflict || item.event.eventKind ∉ routineKinds
    let annotations := items.filterMap fun item => item.blockReason.filter (· ≠ [])
    let kinds := items.map (·.event.eventKind)
    let row : RunRow :=
      { scope := scope
        sourceRunId := runId
        actuallyRan := true
        cycleCount := 1
        status := if alert then "alert" else "ok"
        evidenceProvenance := "candidates"
        persistenceStatus := some "persisted"
        deliveryStatus := some "pending_central"
        evidencePersistenceStatus := none
        evidenceDeliveryStatus := none
        asOf := asOf
        notificationEvents := (items.foldl (fun d item => Dictionary.put item.event.dedupeKey item.event d) []).map Prod.snd
        fieldStatus :=
          { cycleCount := .known
            routineObservationCounts := if counts.any fun c => c.entries.all fun e => e.2.isSome then .known else .unknown
            orderCount := if orders.1.isSome then .known else .unknown
            fillCount := if fills.1.isSome then .known else .unknown }
        routineObservationCounts := counts
        orderCount := orders.1
        fillCount := fills.1
        blockReason := if countConflict then none
          else annotations.head?.filter fun reason => annotations.all (· = reason)
        reasonCode := if alert then some "notification_incident_observed" else none
        executionStatus := if alert then "execution_alert" else if "order_submitted" ∈ kinds then "order_submitted"
          else if "fill" ∈ kinds then "executed" else "no_action"
        executionMode := if items.all Item.dryRun then some "dry_run" else none
        rebalanceConclusion := none
        rebalanceKind := none }
    projectSettlementRows texts row items

def Scope.complete (s : Scope) : Bool :=
  s.platformId ≠ "" ∧ s.opaqueAccountUid ≠ "" ∧ s.targetId ≠ "" ∧ s.strategyProfile ≠ "" ∧ s.businessDay ≠ ""

def checkItem (item : Item) : Except String Unit :=
  if item.event.coverageStatus ≠ "known" ∨ item.event.sourceRunId = "" then .error "notification_candidate_identity_unknown"
  else if !item.actuallyRan then .error "notification_candidate_business_run_required"
  else .ok ()

def runIds (items : List Item) : List String :=
  (items.map (·.event.sourceRunId)).eraseDups.insertionSort (· ≤ ·)

def projectGroup (scope : Scope) (items : List Item) (runId : String) : Except String RunRow :=
  match items.filter (·.event.sourceRunId = runId) with
  | [] => .error "notification_events_missing"
  | first :: rest => projectRun texts scope runId first rest

def projectRuns (scope : Scope) (items : List Item) : Except String Payload :=
  if !scope.complete then .error "notification_candidate_identity_unknown"
  else if items.any (·.event.scope ≠ scope) then .error "notification_candidate_identity_conflict"
  else match collect checkItem items with
    | .error e => .error e
    | .ok _ =>
      (collect (projectGroup texts scope items) (runIds items)).map fun rows =>
        ⟨"qsl.digest_candidates.v1", "projected", rows⟩

def projectNotificationEvents (items : List Item) : Except String Payload :=
  match items with
  | [] => .error "notification_events_missing"
  | first :: _ => projectRuns texts first.event.scope items

end Rows

section Decoding

variable {texts : Texts}

lemma collect_map {ε α β γ : Type} (f : β → Except ε γ) (g : α → β) (xs : List α) :
    collect f (xs.map g) = collect (f ∘ g) xs := by
  induction xs with
  | nil => rfl
  | cons x xs ih => simp only [List.map_cons, collect, ih, Function.comp]

lemma settledEvent_decoded (terminal : Bool) : settledEvent terminal ∘ Item.decoded = settledEvent terminal := by
  funext item
  unfold settledEvent
  cases h : item.settlement <;> simp [Item.decoded, h, Row.decoded]

lemma projectSettlementRows_decoded (row : RunRow) (items : List Item) :
    projectSettlementRows texts row (items.map Item.decoded) = projectSettlementRows texts row items := by
  have hsettlements : (items.map Item.decoded).filterMap Item.settlement =
      (items.filterMap Item.settlement).map Row.decoded := by
    rw [List.filterMap_map, List.map_filterMap]
    rfl
  have hnotices : settledNotice texts false ∘ Row.decoded = settledNotice texts false := rfl
  unfold projectSettlementRows
  rw [hsettlements]
  simp only [collect_map, hnotices, List.map_map, List.length_map, List.all_map, List.any_map, List.flatMap_map,
    List.map_eq_nil_iff, List.filterMap_map, settledEvent_decoded]
  rfl

lemma countOf_decoded (field : Event → Option ℤ) (items : List Item) :
    countOf field (items.map Item.decoded) = countOf field items := by
  unfold countOf
  rw [List.filterMap_map, List.any_map]
  rfl

lemma projectRun_decoded (scope : Scope) (runId : String) (first : Item) (rest : List Item) :
    projectRun texts scope runId first.decoded (rest.map Item.decoded) = projectRun texts scope runId first rest := by
  unfold projectRun
  rw [← List.map_cons]
  simp only [projectSettlementRows_decoded, countOf_decoded, List.filterMap_map, List.filter_map, List.any_map,
    List.all_map, List.map_map, List.foldl_map]
  rfl

lemma projectGroup_decoded (scope : Scope) (items : List Item) (runId : String) :
    projectGroup texts scope (items.map Item.decoded) runId = projectGroup texts scope items runId := by
  unfold projectGroup
  have hsame : (fun item : Item => decide (item.event.sourceRunId = runId)) ∘ Item.decoded =
      fun item => decide (item.event.sourceRunId = runId) := rfl
  rw [List.filter_map, hsame]
  cases items.filter fun item => decide (item.event.sourceRunId = runId) with
  | nil => rfl
  | cons first rest => exact projectRun_decoded scope runId first rest

lemma projectNotificationEvents_decoded (items : List Item) :
    projectNotificationEvents texts (items.map Item.decoded) = projectNotificationEvents texts items := by
  cases items with
  | nil => rfl
  | cons first rest =>
    have hgroups : projectGroup texts first.event.scope ((first :: rest).map Item.decoded) =
        projectGroup texts first.event.scope (first :: rest) := funext fun runId => projectGroup_decoded _ _ runId
    have hids : runIds ((first :: rest).map Item.decoded) = runIds (first :: rest) := by
      unfold runIds
      rw [List.map_map]
      rfl
    have hchecks : collect checkItem ((first :: rest).map Item.decoded) = collect checkItem (first :: rest) := by
      rw [collect_map]
      rfl
    change projectRuns texts first.event.scope ((first :: rest).map Item.decoded) =
      projectRuns texts first.event.scope (first :: rest)
    unfold projectRuns
    rw [hchecks, hids, hgroups, List.any_map]
    rfl

end Decoding

section Identity

variable {texts : Texts} {items : List Item} {payload : Payload}

lemma projectSettlementRows_scope {row row' : RunRow} (h : projectSettlementRows texts row items = .ok row') :
    row'.scope = row.scope := by
  unfold projectSettlementRows at h
  extract_lets settlements ids complete terminal at h
  split at h
  · exact Except.ok.inj h ▸ rfl
  · split at h
    · cases h
    · split at h
      · cases h
      · split at h
        · exact Except.ok.inj h ▸ rfl
        · exact Except.ok.inj h ▸ rfl

lemma projectGroup_scope {scope : Scope} {runId : String} {row : RunRow}
    (h : projectGroup texts scope items runId = .ok row) : row.scope = scope := by
  unfold projectGroup at h
  split at h
  · cases h
  · unfold projectRun at h
    extract_lets all observations counts real orders fills countConflict alert annotations kinds at h
    split at h
    · cases h
    · exact projectSettlementRows_scope h

lemma projectNotificationEvents_identity (h : projectNotificationEvents texts items = .ok payload) {scope : Scope}
    (hscope : ∀ item ∈ items, item.event.scope = scope) : payload.runs ≠ [] ∧ ∀ row ∈ payload.runs, row.scope = scope := by
  unfold projectNotificationEvents at h
  split at h
  · cases h
  · rename_i first rest
    have hfirst : first.event.scope = scope := hscope first List.mem_cons_self
    unfold projectRuns at h
    split at h
    · cases h
    · split at h
      · cases h
      · split at h
        · cases h
        · cases hrows : collect (projectGroup texts first.event.scope (first :: rest)) (runIds (first :: rest)) with
          | error e => simp [hrows, Except.map] at h
          | ok rows =>
            simp only [hrows, Except.map, Except.ok.injEq] at h
            subst h
            constructor
            · have hid : first.event.sourceRunId ∈ runIds (first :: rest) := by simp [runIds, List.mem_insertionSort]
              obtain ⟨row, hrow⟩ := (collect_mem hrows).1 _ hid
              intro hempty
              have hlength := (collect_forall hrows).length_eq
              simp only at hempty
              rw [hempty, List.length_nil, List.length_eq_zero_iff] at hlength
              rw [hlength] at hid
              cases hid
            · intro row hrow
              obtain ⟨runId, _, hgroup⟩ := (collect_mem hrows).2 row hrow
              exact (projectGroup_scope hgroup).trans hfirst

end Identity

section Totality

variable (texts : Texts) (scope : Scope)

structure Fit (item : Item) : Prop where
  identity : item.event.scope = scope
  checked : checkItem item = .ok ()
  stamp : (texts.parseTimestamp item.event.occurredAt).isSome
  notice : ∀ row ∈ item.settlement, ∃ notice, settledNotice texts false row = .ok notice

structure Projectable (items : List Item) : Prop where
  complete : scope.complete = true
  fit : ∀ item ∈ items, Fit texts scope item
  attempts : ((items.filterMap Item.settlement).map Row.settlementAttemptId).Nodup

variable {texts scope} {items : List Item}

lemma latestOf_ok {first : String} {stamps : List String} (hfirst : (texts.parseTimestamp first).isSome)
    (h : ∀ stamp ∈ stamps, (texts.parseTimestamp stamp).isSome) : ∃ stamp, latestOf texts first stamps = .ok stamp := by
  induction stamps generalizing first with
  | nil => exact ⟨first, rfl⟩
  | cons stamp stamps ih =>
    obtain ⟨a, ha⟩ := Option.isSome_iff_exists.mp hfirst
    obtain ⟨b, hb⟩ := Option.isSome_iff_exists.mp (h stamp List.mem_cons_self)
    simp only [latestOf, ha, hb]
    refine ih ?_ fun x hx => h x (List.mem_cons_of_mem _ hx)
    split
    · exact h stamp List.mem_cons_self
    · exact hfirst

lemma projectSettlementRows_ok (row : RunRow) (h : Projectable texts scope items) :
    ∃ row', projectSettlementRows texts row items = .ok row' := by
  obtain ⟨notices, hnotices⟩ : ∃ notices, collect (settledNotice texts false) (items.filterMap Item.settlement) = .ok notices := by
    refine collect_ok fun s hs => ?_
    obtain ⟨item, hitem, hsettlement⟩ := List.mem_filterMap.mp hs
    exact (h.fit item hitem).notice s hsettlement
  unfold projectSettlementRows
  extract_lets settlements ids complete terminal
  split
  · exact ⟨_, rfl⟩
  · rw [if_neg (not_not.mpr h.attempts), hnotices]
    dsimp only
    split <;> exact ⟨_, rfl⟩

lemma Projectable.filter (h : Projectable texts scope items) (p : Item → Bool) : Projectable texts scope (items.filter p) where
  complete := h.complete
  fit item hitem := h.fit item (List.mem_of_mem_filter hitem)
  attempts := h.attempts.sublist ((List.filter_sublist.filterMap _).map _)

lemma projectGroup_ok (h : Projectable texts scope items) {runId : String} (hrun : runId ∈ runIds items) :
    ∃ row, projectGroup texts scope items runId = .ok row := by
  have hgroup := h.filter fun item => decide (item.event.sourceRunId = runId)
  unfold projectGroup
  cases hitems : items.filter fun item => decide (item.event.sourceRunId = runId) with
  | nil =>
    simp only [runIds, List.mem_insertionSort, List.mem_eraseDups, List.mem_map] at hrun
    obtain ⟨item, hitem, hid⟩ := hrun
    have hmem : item ∈ items.filter fun item => decide (item.event.sourceRunId = runId) :=
      List.mem_filter.mpr ⟨hitem, decide_eq_true hid⟩
    rw [hitems] at hmem
    cases hmem
  | cons first rest =>
    rw [hitems] at hgroup
    obtain ⟨asOf, hasOf⟩ := latestOf_ok (hgroup.fit first List.mem_cons_self).stamp fun stamp hs => by
      obtain ⟨item, hitem, rfl⟩ := List.mem_map.mp hs
      exact (hgroup.fit item (List.mem_cons_of_mem _ hitem)).stamp
    dsimp only
    unfold projectRun
    rw [hasOf]
    exact projectSettlementRows_ok _ hgroup

lemma projectNotificationEvents_ok (h : Projectable texts scope items) (hne : items ≠ []) :
    ∃ payload, projectNotificationEvents texts items = .ok payload := by
  obtain ⟨first, rest, rfl⟩ := List.exists_cons_of_ne_nil hne
  have hscope : first.event.scope = scope := (h.fit first List.mem_cons_self).identity
  have hsame : ¬ ((first :: rest).any fun item => decide (item.event.scope ≠ scope)) = true := by
    simp only [List.any_eq_true, decide_eq_true_eq, not_exists, not_and, not_not]
    exact fun item hitem => (h.fit item hitem).identity
  obtain ⟨checks, hchecks⟩ := collect_ok fun item hitem => ⟨(), (h.fit item hitem).checked⟩
  obtain ⟨rows, hrows⟩ := collect_ok fun runId hrun => projectGroup_ok h hrun
  refine ⟨⟨"qsl.digest_candidates.v1", "projected", rows⟩, ?_⟩
  unfold projectNotificationEvents projectRuns
  simp only [hscope, h.complete, hsame, hchecks, hrows, Except.map]
  rfl

lemma Fit.decoded {item : Item} (h : Fit texts scope item) : Fit texts scope item.decoded where
  identity := h.identity
  checked := h.checked
  stamp := h.stamp
  notice row hrow := by
    obtain ⟨row', hrow', rfl⟩ := Option.map_eq_some_iff.mp hrow
    exact h.notice row' hrow'

lemma attempts_decoded : ((items.map Item.decoded).filterMap Item.settlement).map Row.settlementAttemptId =
    (items.filterMap Item.settlement).map Row.settlementAttemptId := by
  rw [List.filterMap_map, List.map_filterMap, List.map_filterMap]
  refine List.filterMap_congr fun item _ => ?_
  simp only [Function.comp, Item.decoded, Option.map_map]
  rfl

lemma Projectable.decoded (h : Projectable texts scope items) : Projectable texts scope (items.map Item.decoded) where
  complete := h.complete
  fit item hitem := by
    obtain ⟨item', hitem', rfl⟩ := List.mem_map.mp hitem
    exact (h.fit item' hitem').decoded
  attempts := by
    rw [attempts_decoded]
    exact h.attempts

end Totality

section Fixture

def texts₀ : Texts := ⟨fun _ => some 0, fun _ => "3", fun _ => "***73", id⟩

def scope₀ : Scope := ⟨"ibkr", "account", "target", "alpha", "2026-11-03"⟩

end Fixture

end IbkrPlatform.Notifications
