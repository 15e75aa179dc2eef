import IbkrPlatform.Notifications.Projection
import IbkrPlatform.Settlement.Observers

/-! Which alerts of a run outlast the settlement of its orders. -/

namespace IbkrPlatform.Notifications.SettledAlerts

open Library Settlement

section Causes

variable (items : List Item)

def knownCounts (field : Event → Option ℤ) : List ℤ :=
  ((items.filter (!·.dryRun)).filterMap fun item => field item.event).eraseDups

def Contradictory (field : Event → Option ℤ) : Prop := 1 < (knownCounts items field).length

instance (field : Event → Option ℤ) : Decidable (Contradictory items field) := Nat.decLt _ _

def settlements : List Row := items.filterMap Item.settlement

def Alarming (item : Item) : Prop := item.conflict = true ∨ item.event.eventKind ∉ settledKinds

inductive Unrelated : Prop
  | record {item : Item} (hitem : item ∈ items) (h : Alarming item)
  | orders (h : Contradictory items Event.orderCount)
  | fills (h : Contradictory items Event.fillCount)

def PendingEvent (item : Item) : Prop := item.event.eventKind = "order_status_unknown" ∨ item.event.eventKind = "order_settlement"

structure Covered : Prop where
  counted : knownCounts items Event.orderCount = [((settlements items).length : ℤ)]
  terminal : ∀ row ∈ settlements items, row.brokerConfirmedTerminal = true
  filled : ∀ row ∈ settlements items, row.status ≠ "Cancelled" ∧ row.status ≠ "Rejected"

structure FillsAlone : Prop where
  covered : Covered items
  quiet : ∀ item ∈ items, ¬ Alarming item
  fills : Contradictory items Event.fillCount

end Causes

section Counts

variable {items : List Item} {field : Event → Option ℤ}

lemma countOf_eq : countOf field (items.filter (!·.dryRun)) =
    (if 1 < (knownCounts items field).length ∨ (items.filter (!·.dryRun)).any Item.conflict = true then none
      else (knownCounts items field).head?,
      decide (1 < (knownCounts items field).length ∨ (items.filter (!·.dryRun)).any Item.conflict = true)) := by
  unfold countOf knownCounts
  extract_lets known conflict
  simp only [conflict, known]

lemma agreed_iff (hquiet : ∀ item ∈ items, ¬ Alarming item) (n : ℤ) :
    (countOf field (items.filter (!·.dryRun))).1 = some n ↔ knownCounts items field = [n] := by
  have hconflict : (items.filter (!·.dryRun)).any Item.conflict = false := by
    rw [List.any_eq_false]
    exact fun item hitem hc => hquiet item (List.mem_of_mem_filter hitem) (.inl hc)
  rw [countOf_eq, hconflict]
  rcases knownCounts items field with _ | ⟨k, _ | ⟨j, rest⟩⟩ <;> simp

end Counts

section Settled

variable {texts : Texts} {items : List Item} {row row' : RunRow}

lemma projectSettlementRows_status (h : projectSettlementRows texts row items = .ok row') (hsettled : settlements items ≠ []) :
    row'.status = "alert" ↔ ¬ ((row.orderCount = some ((settlements items).length : ℤ) ∧
          ((settlements items).all (·.brokerConfirmedTerminal)) = true) ∧
        ¬ ((items.any fun item => item.conflict ∨ item.event.eventKind ∉ settledKinds) = true ∨
          ((settlements items).any fun s => s.status = "Cancelled" ∨ s.status = "Rejected") = true)) := by
  unfold projectSettlementRows at h
  extract_lets rows ids complete terminal fills known unrelated cancelled at h
  have hrows : rows ≠ [] := hsettled
  change row'.status = "alert" ↔ ¬ (terminal ∧ ¬ (unrelated = true ∨ cancelled = true))
  rw [if_neg hrows] at h
  split at h
  · cases h
  · split at h
    · cases h
    · by_cases hterminal : terminal
      · rw [if_neg (not_not.mpr hterminal)] at h
        obtain rfl := Except.ok.inj h
        change (if unrelated = true ∨ cancelled = true then "alert" else "ok") = "alert" ↔ _
        simp [hterminal]
      · rw [if_pos hterminal] at h
        obtain rfl := Except.ok.inj h
        exact ⟨fun _ hall => hterminal hall.1, fun _ => rfl⟩

lemma settled_alert_iff (h : projectSettlementRows texts row items = .ok row') (hsettled : settlements items ≠ [])
    (hcount : row.orderCount = (countOf Event.orderCount (items.filter (!·.dryRun))).1) :
    row'.status = "alert" ↔ ¬ (Covered items ∧ ∀ item ∈ items, ¬ Alarming item) := by
  have hquiet : (items.any fun item => item.conflict ∨ item.event.eventKind ∉ settledKinds) = true ↔
      ¬ ∀ item ∈ items, ¬ Alarming item := by
    simp only [List.any_eq_true, decide_eq_true_eq, not_forall, not_not, Alarming, exists_prop]
  have hcancelled : ((settlements items).any fun s => s.status = "Cancelled" ∨ s.status = "Rejected") = true ↔
      ¬ ∀ s ∈ settlements items, s.status ≠ "Cancelled" ∧ s.status ≠ "Rejected" := by
    simp only [List.any_eq_true, decide_eq_true_eq, not_forall, not_and_or, not_not, exists_prop, ne_eq]
  rw [projectSettlementRows_status h hsettled, hquiet, hcancelled, hcount, List.all_eq_true]
  by_cases hall : ∀ item ∈ items, ¬ Alarming item
  · rw [agreed_iff hall]
    have hiff : ((knownCounts items Event.orderCount = [((settlements items).length : ℤ)] ∧
        ∀ s ∈ settlements items, s.brokerConfirmedTerminal = true) ∧
          ¬ ((¬ ∀ item ∈ items, ¬ Alarming item) ∨ ¬ ∀ s ∈ settlements items, s.status ≠ "Cancelled" ∧ s.status ≠ "Rejected")) ↔
        Covered items :=
      ⟨fun h => ⟨h.1.1, h.1.2, not_not.mp fun hn => h.2 (.inr hn)⟩,
        fun h => ⟨⟨h.counted, h.terminal⟩, not_or.mpr ⟨not_not.mpr hall, not_not.mpr h.filled⟩⟩⟩
    rw [hiff]
    exact not_congr ⟨fun h => ⟨h, hall⟩, fun h => h.1⟩
  · exact ⟨fun _ h => hall h.2, fun _ h => h.2 (.inl hall)⟩

lemma kept_iff (halert : row'.status = "alert" ↔ ¬ (Covered items ∧ ∀ item ∈ items, ¬ Alarming item)) :
    (Unrelated items → row'.status = "alert") ↔ ¬ FillsAlone items := by
  rw [halert]
  constructor
  · intro h halone
    exact h (.fills halone.fills) ⟨halone.covered, halone.quiet⟩
  · intro halone hunrelated hsettled
    cases hunrelated with
    | record hitem h => exact hsettled.2 _ hitem h
    | orders h =>
      rw [Contradictory, hsettled.1.counted, List.length_singleton] at h
      exact absurd h (lt_irrefl 1)
    | fills h => exact halone ⟨hsettled.1, hsettled.2, h⟩

end Settled

section Unsettled

variable {texts : Texts} {items : List Item}

def unsettled (item : Item) : Item := { item with settlement := none }

lemma settlements_unsettled : (items.map unsettled).filterMap Item.settlement = [] := by
  rw [List.filterMap_map, List.filterMap_eq_nil_iff]
  exact fun item _ => rfl

lemma projectSettlementRows_unsettled (row : RunRow) : projectSettlementRows texts row (items.map unsettled) = .ok row := by
  unfold projectSettlementRows
  extract_lets rows
  exact if_pos settlements_unsettled

lemma countOf_unsettled (field : Event → Option ℤ) : countOf field (items.map unsettled) = countOf field items := by
  unfold countOf
  rw [List.filterMap_map, List.any_map]
  rfl

lemma mem_routineKinds (kind : String) :
    kind ∉ routineKinds ↔ kind ∉ settledKinds ∨ kind = "order_status_unknown" ∨ kind = "order_settlement" := by
  have hkinds : settledKinds = routineKinds ++ ["order_settlement", "order_status_unknown"] := rfl
  have hrest : "order_status_unknown" ∉ routineKinds ∧ "order_settlement" ∉ routineKinds := by decide
  rw [hkinds, List.mem_append, List.mem_pair, not_or]
  constructor
  · intro h
    by_cases hpending : kind = "order_status_unknown" ∨ kind = "order_settlement"
    · exact .inr hpending
    · exact .inl ⟨h, fun hp => hpending hp.symm⟩
  · rintro (h | rfl | rfl)
    · exact h.1
    · exact hrest.1
    · exact hrest.2

lemma alert_causes :
    ((countOf Event.orderCount (items.filter (!·.dryRun))).2 || (countOf Event.fillCount (items.filter (!·.dryRun))).2 ||
        items.any fun item => item.conflict || item.event.eventKind ∉ routineKinds) = true ↔
      Unrelated items ∨ ∃ item ∈ items, PendingEvent item := by
  have hrecord : (items.any fun item => item.conflict || item.event.eventKind ∉ routineKinds) = true ↔
      (∃ item ∈ items, Alarming item) ∨ ∃ item ∈ items, PendingEvent item := by
    simp only [List.any_eq_true, Bool.or_eq_true, decide_eq_true_eq, mem_routineKinds, Alarming, PendingEvent, ← exists_or,
      ← and_or_left, or_assoc]
  have hreal : (items.filter (!·.dryRun)).any Item.conflict = true → ∃ item ∈ items, Alarming item := by
    intro h
    obtain ⟨item, hitem, hconflict⟩ := List.any_eq_true.mp h
    exact ⟨item, List.mem_of_mem_filter hitem, .inl hconflict⟩
  rw [Bool.or_eq_true, Bool.or_eq_true, countOf_eq, countOf_eq, hrecord, decide_eq_true_eq, decide_eq_true_eq]
  constructor
  · rintro (((h | h) | (h | h)) | ⟨item, hitem, h⟩ | h)
    · exact .inl (.orders h)
    · obtain ⟨item, hitem, h⟩ := hreal h
      exact .inl (.record hitem h)
    · exact .inl (.fills h)
    · obtain ⟨item, hitem, h⟩ := hreal h
      exact .inl (.record hitem h)
    · exact .inl (.record hitem h)
    · exact .inr h
  · rintro ((⟨hitem, h⟩ | h | h) | h)
    · exact .inr (.inl ⟨_, hitem, h⟩)
    · exact .inl (.inl (.inl h))
    · exact .inl (.inr (.inl h))
    · exact .inr (.inr h)

lemma projectRun_base {scope : Scope} {runId : String} {first : Item} {rest : List Item} {row : RunRow}
    (h : projectRun texts scope runId first rest = .ok row) :
    ∃ base, base.sourceRunId = runId ∧
      base.orderCount = (countOf Event.orderCount ((first :: rest).filter (!·.dryRun))).1 ∧
      (base.status = "alert" ↔ Unrelated (first :: rest) ∨ ∃ item ∈ first :: rest, PendingEvent item) ∧
      projectSettlementRows texts base (first :: rest) = .ok row ∧
      projectRun texts scope runId (unsettled first) (rest.map unsettled) = .ok base := by
  unfold projectRun at h ⊢
  extract_lets items observations counts real orders fills countConflict alert annotations kinds at h
  split at h
  · cases h
  · next asOf hasOf =>
    refine ⟨_, rfl, rfl, ?_, h, ?_⟩
    · rw [← alert_causes]
      change (if alert = true then "alert" else "ok") = "alert" ↔ alert = true
      by_cases halert : alert = true
      · simp only [halert, if_true]
      · simp only [halert]
        exact ⟨fun h => absurd h (by decide), fun h => (nomatch h)⟩
    · rw [← List.map_cons]
      have hstamps : latestOf texts (unsettled first).event.occurredAt ((rest.map unsettled).map (·.event.occurredAt)) = .ok asOf := by
        rw [List.map_map]
        exact hasOf
      rw [hstamps]
      simp only [List.filter_map, countOf_unsettled, List.filterMap_map, List.any_map, List.all_map, List.map_map, List.foldl_map]
      exact projectSettlementRows_unsettled _

end Unsettled

section Payload

variable {texts : Texts} {items : List Item} {payload : Payload}

def ofRun (runId : String) (items : List Item) : List Item := items.filter (·.event.sourceRunId = runId)

lemma projectSettlementRows_sourceRunId {row row' : RunRow} (h : projectSettlementRows texts row items = .ok row') :
    row'.sourceRunId = row.sourceRunId := by
  unfold projectSettlementRows at h
  extract_lets settlements ids complete terminal at h
  split at h
  · exact Except.ok.inj h ▸ rfl
  · split at h
    · cases h
    · split at h
      · cases h
      · split at h
        · exact Except.ok.inj h ▸ rfl
        · exact Except.ok.inj h ▸ rfl

structure Settles (texts : Texts) (run : List Item) (base row : RunRow) : Prop where
  same : base.sourceRunId = row.sourceRunId
  before : base.status = "alert" ↔ Unrelated run ∨ ∃ item ∈ run, PendingEvent item
  counted : base.orderCount = (countOf Event.orderCount (run.filter (!·.dryRun))).1
  after : projectSettlementRows texts base run = .ok row

lemma projectGroup_settles {scope : Scope} {runId : String} {row : RunRow} (h : projectGroup texts scope items runId = .ok row) :
    row.sourceRunId = runId ∧
      ∃ base, projectGroup texts scope (items.map unsettled) runId = .ok base ∧ Settles texts (ofRun runId items) base row := by
  have hsame : (fun item : Item => decide (item.event.sourceRunId = runId)) ∘ unsettled =
      fun item => decide (item.event.sourceRunId = runId) := rfl
  unfold projectGroup at h ⊢
  unfold ofRun
  rw [List.filter_map, hsame]
  cases hrun : items.filter fun item => decide (item.event.sourceRunId = runId) with
  | nil =>
    rw [hrun] at h
    cases h
  | cons first rest =>
    rw [hrun] at h
    obtain ⟨base, hid, hcount, hstatus, hafter, hbefore⟩ := projectRun_base h
    have hrow := projectSettlementRows_sourceRunId hafter
    exact ⟨hrow.trans hid, base, hbefore, hrow.symm, hstatus, hcount, hafter⟩

lemma mem_of_collect {ε α β : Type} {f : α → Except ε β} {xs : List α} {ys : List β} (h : collect f xs = .ok ys) {x : α}
    (hx : x ∈ xs) {y : β} (hf : f x = .ok y) : y ∈ ys := by
  have hall : List.Forall₂ (fun x y => f x = .ok y) xs ys := collect_forall h
  clear h
  induction hall with
  | nil => cases hx
  | @cons x' y' xs ys hx' _ ih =>
    rcases List.mem_cons.mp hx with rfl | hx
    · exact Except.ok.inj (hf.symm.trans hx') ▸ List.mem_cons_self
    · exact List.mem_cons_of_mem _ (ih hx)

lemma projectRuns_settles {scope : Scope} (h : projectRuns texts scope items = .ok payload) :
    ∃ payload₀, projectRuns texts scope (items.map unsettled) = .ok payload₀ ∧
      ∀ row ∈ payload.runs, ∃ base ∈ payload₀.runs, Settles texts (ofRun row.sourceRunId items) base row := by
  have hids : runIds (items.map unsettled) = runIds items := by
    unfold runIds
    rw [List.map_map]
    rfl
  have hchecks : collect checkItem (items.map unsettled) = collect checkItem items := by
    rw [collect_map]
    rfl
  unfold projectRuns at h ⊢
  rw [hids, hchecks, List.any_map]
  split at h
  · cases h
  · next hcomplete =>
    rw [if_neg hcomplete]
    split at h
    · cases h
    · next hscope =>
      have hscope' : ¬ (items.any ((fun item => decide (item.event.scope ≠ scope)) ∘ unsettled)) = true := hscope
      rw [if_neg hscope']
      split at h
      · cases h
      · cases hrows : collect (projectGroup texts scope items) (runIds items) with
        | error e =>
          rw [hrows] at h
          cases h
        | ok rows =>
          rw [hrows] at h
          obtain rfl := Except.ok.inj h
          obtain ⟨bases, hbases⟩ : ∃ bases, collect (projectGroup texts scope (items.map unsettled)) (runIds items) = .ok bases :=
            collect_ok fun runId hid => by
              obtain ⟨row, hrow⟩ := (collect_mem hrows).1 runId hid
              obtain ⟨-, base, hbase, -⟩ := projectGroup_settles hrow
              exact ⟨base, hbase⟩
          refine ⟨_, by rw [hbases]; rfl, fun row hrow => ?_⟩
          obtain ⟨runId, hid, hgroup⟩ := (collect_mem hrows).2 row hrow
          obtain ⟨rfl, base, hbase, hsettles⟩ := projectGroup_settles hgroup
          exact ⟨base, mem_of_collect hbases hid hbase, hsettles⟩

/-- Settlements take back an alert only for pending orders, or for contradictory fill counts
alone. -/
theorem settled_alert_kept_iff (h : projectNotificationEvents texts items = .ok payload) :
    ∃ payload₀, projectNotificationEvents texts (items.map unsettled) = .ok payload₀ ∧
      ∀ row ∈ payload.runs, ∃ base ∈ payload₀.runs, base.sourceRunId = row.sourceRunId ∧
        (base.status = "alert" ↔ Unrelated (ofRun row.sourceRunId items) ∨ ∃ item ∈ ofRun row.sourceRunId items, PendingEvent item) ∧
        (settlements (ofRun row.sourceRunId items) ≠ [] →
          ((Unrelated (ofRun row.sourceRunId items) → row.status = "alert") ↔ ¬ FillsAlone (ofRun row.sourceRunId items)) ∧
          (row.status = "alert" ↔
            ¬ (Covered (ofRun row.sourceRunId items) ∧ ∀ item ∈ ofRun row.sourceRunId items, ¬ Alarming item))) := by
  cases items with
  | nil => cases h
  | cons first rest =>
    obtain ⟨payload₀, hpayload, hrows⟩ := projectRuns_settles h
    refine ⟨payload₀, hpayload, fun row hrow => ?_⟩
    obtain ⟨base, hbase, hsettles⟩ := hrows row hrow
    refine ⟨base, hbase, hsettles.same, hsettles.before, fun hsettled => ?_⟩
    have halert := settled_alert_iff hsettles.after hsettled hsettles.counted
    exact ⟨kept_iff halert, halert⟩

end Payload

section Fixture

open Observers (attempt₀ order₀ filled₀)

def record₀ (eventKind : String) (fillCount : Option ℤ) : Item :=
  ⟨⟨scope₀, eventKind, "known", "run", eventKind, [], "2026-11-03T14:31:00+00:00", none, some 1, fillCount⟩, true, false, none, none,
    false⟩

def settlement₀ : Item :=
  { record₀ "order_settlement" none with settlement := some (rowOf ⟨order₀, some "73", none, [⟨1, filled₀⟩]⟩) }

def items₀ : List Item := [record₀ "order_submitted" (some 0), record₀ "fill" (some 2), settlement₀]

def statuses (payload : Except String Payload) : Option (List String) := payload.toOption.map fun p => p.runs.map (·.status)

theorem fill_contradiction_cleared :
    Unrelated items₀ ∧ statuses (projectNotificationEvents texts₀ (items₀.map unsettled)) = some ["alert"] ∧
      Unrelated (items₀.dropLast) ∧ statuses (projectNotificationEvents texts₀ items₀.dropLast) = some ["alert"] ∧
      statuses (projectNotificationEvents texts₀ items₀) = some ["ok"] := by
  have hcontradictory : Contradictory items₀ Event.fillCount := by decide
  have hcontradictory' : Contradictory items₀.dropLast Event.fillCount := by decide
  exact ⟨.fills hcontradictory, by decide, .fills hcontradictory', by decide, by decide⟩

theorem settled_alert_kept_iff_sample :
    ∃ payload, projectNotificationEvents texts₀ [record₀ "risk_stop" none, settlement₀] = .ok payload ∧
      ∀ row ∈ payload.runs, row.sourceRunId = "run" → row.status = "alert" := by
  cases hprojected : projectNotificationEvents texts₀ [record₀ "risk_stop" none, settlement₀] with
  | error e =>
    have hok : (projectNotificationEvents texts₀ [record₀ "risk_stop" none, settlement₀]).toOption.isSome = true := by decide
    rw [hprojected] at hok
    cases hok
  | ok payload =>
    refine ⟨payload, rfl, fun row hrow hid => ?_⟩
    obtain ⟨payload₀, -, hrows⟩ := settled_alert_kept_iff hprojected
    obtain ⟨base, -, -, -, hsettled⟩ := hrows row hrow
    have hrun : ofRun row.sourceRunId [record₀ "risk_stop" none, settlement₀] = [record₀ "risk_stop" none, settlement₀] := by
      rw [hid]
      decide
    rw [hrun] at hsettled
    have hrisk : Alarming (record₀ "risk_stop" none) := .inr (by decide)
    have hsettlements : settlements [record₀ "risk_stop" none, settlement₀] ≠ [] := List.cons_ne_nil _ _
    exact (hsettled hsettlements).1.mpr (fun halone => halone.quiet _ List.mem_cons_self hrisk) (.record List.mem_cons_self hrisk)

end Fixture

end IbkrPlatform.Notifications.SettledAlerts
