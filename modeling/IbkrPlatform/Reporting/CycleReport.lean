import IbkrPlatform.Notifications.NoticePass
import IbkrPlatform.Reporting.ExecutionReceipt

/-! The report of a cycle that has returned its summary: settlement notices are published before the report is finalized. -/

namespace IbkrPlatform.Reporting.CycleReport

open Library Settlement Notifications Notifications.NoticePass

structure CycleSummary where
  result : String
  executionStatus : Value
  noOpReason : Value
  ordersSubmittedCount : Option ℕ
  ordersPreviewedCount : Option ℕ
  ordersSkippedCount : ℕ
  brakeSubmissionStatus : Option String
deriving DecidableEq

structure ReportError where
  stage : String
  message : String
  errorType : String
  failureCategory : Option String
deriving DecidableEq

structure Report where
  runId : String
  dryRun : Bool
  legacyUnattested : Bool
  attested : Bool
  status : String
  summary : Option CycleSummary
  failureCategory : Option String
  errors : List ReportError
  receipt : Option Fact

structure Kit (R : Type) where
  view : R → Report
  appendError : R → ReportError → R
  finalize : R → String → Option CycleSummary → Option String → R
  attach : R → Fact → Except Raised R
  resolve : Question → Fact

def Kit.Known {R : Type} (kit : Kit R) (fact : Fact) : Prop :=
  (∃ question, fact = kit.resolve question) ∨ fact = ⟨"no_signal", "not_applicable"⟩ ∨ fact = ⟨"no_rebalance", "not_applicable"⟩

/-- What these functions do to a report; a target that is not attested is refused a receipt. -/
structure Kit.Lawful {R : Type} (kit : Kit R) : Prop where
  appendError : ∀ r e, kit.view (kit.appendError r e) = { kit.view r with errors := (kit.view r).errors ++ [e] }
  finalize : ∀ r status summary category, kit.view (kit.finalize r status summary category) =
    { kit.view r with
      status := status
      summary := summary.or (kit.view r).summary
      failureCategory := category.or (kit.view r).failureCategory }
  accepted : ∀ r fact, (kit.view r).attested = true → kit.Known fact →
    ∃ r', kit.attach r fact = .ok r' ∧ kit.view r' = { kit.view r with receipt := some fact }
  refused : ∀ r fact, (kit.view r).attested = false → ∃ text, kit.attach r fact = .error (valueError text)
  legacy : ∀ r, (kit.view r).legacyUnattested = true → (kit.view r).attested = false

structure CycleResult where
  result : String
  executionSummary : Facts
  reconciliationRecord : Facts

/-- What the other steps of a request meet: the exception that each raises, if any, and what it is configured with. -/
structure Surroundings where
  notices : NoticePass.Ports
  signalSnapshot : Option Raised
  settlementFlag : String
  accountIds : List String
  markerStore : Option Raised
  scan : Option Raised
  brakeStatus : Option String
  digestOrderCount : Facts → Bool → Except Raised (Option ℕ)
  completedLog : Option Raised

structure Handling (R I : Type) where
  report : R
  outbox : Outbox I

inductive Reply
  | answered (body : String) (code : ℕ)
  | raised (e : Raised)
deriving DecidableEq

section Code

variable {R I : Type} (kit : Kit R) (around : Surroundings) (texts : Texts) (zh : Bool) (profile : String) (i : I)
  (cycle : CycleResult)

def settlementEnabled (flag : String) : Except Raised Bool :=
  if flag.toLower = "true" ∨ flag = "1" then .ok true
  else if flag.toLower = "false" ∨ flag = "0" then .ok false
  else .error (valueError "settlement_switch_invalid")

def stepOf : Option Raised → Except Raised Unit
  | none => .ok ()
  | some e => .error e

def observeSettlement (store : Store) : Except Raised Summary := do
  if around.accountIds.length ≠ 1 then .error (valueError "settlement_single_account_required")
  else do
    stepOf around.markerStore
    stepOf around.scan
    match settlementSummary profile store with
    | .error e => .error (runtimeError e)
    | .ok summary => .ok summary

def settlementObservation (dryRun : Bool) (store : Store) : Except Raised (Option Summary) :=
  if dryRun then .ok none
  else do
    let enabled ← settlementEnabled around.settlementFlag
    if enabled then do
      let summary ← observeSettlement around profile store
      pure (some summary)
    else pure none

def countOrders (key : String) : ℕ :=
  match cycle.executionSummary.get key, cycle.reconciliationRecord.get key with
  | .orders rows, _ => rows.length
  | _, .orders rows => rows.length
  | _, _ => 0

def firstTruthy (key : String) : Value :=
  if (cycle.executionSummary.get key).truthy then cycle.executionSummary.get key else cycle.reconciliationRecord.get key

def outcomeKeys : List String :=
  ["orders_filled", "orders_pending", "orders_partially_filled", "option_orders_filled", "option_orders_pending",
    "option_orders_partially_filled"]

def isOrders : Value → Bool
  | .orders _ => true
  | _ => false

def buildCycleReportSummary (dryRun : Bool) : Except Raised CycleSummary := do
  let submitted := if around.brakeStatus.isSome then none else some (countOrders cycle "orders_submitted")
  let digest ← around.digestOrderCount cycle.executionSummary dryRun
  pure
    { result := cycle.result
      executionStatus := firstTruthy cycle "execution_status"
      noOpReason := firstTruthy cycle "no_op_reason"
      ordersSubmittedCount :=
        if !dryRun ∧ around.brakeStatus = none ∧ outcomeKeys.all fun key => isOrders (cycle.executionSummary.get key) then digest
        else submitted
      ordersPreviewedCount := if dryRun then submitted else some 0
      ordersSkippedCount := countOrders cycle "orders_skipped"
      brakeSubmissionStatus := around.brakeStatus }

def wordOf : Value → String
  | .text value => (Text.strip value).toLower
  | _ => ""

def executionFailed : Bool :=
  isExecutionFailure (wordOf (firstTruthy cycle "execution_status")) (wordOf (firstTruthy cycle "no_op_reason"))

def receiptSummary (report : Report) (observation : Option Summary) : Facts :=
  match observation with
  | none => cycle.executionSummary
  | some summary => settlementReceiptSummary cycle.executionSummary (observationOf summary report.runId)

def derivedFact (report : Report) (observation : Option Summary) : Fact :=
  cycleFact kit.resolve report.dryRun (receiptSummary cycle report observation) cycle.reconciliationRecord (executionFailed cycle)

def attachCycleExecutionReceipt (r : R) (observation : Option Summary) : Except Raised R :=
  if (kit.view r).legacyUnattested then .ok r else kit.attach r (derivedFact kit cycle (kit.view r) observation)

def blockedError : ReportError where
  stage := "strategy_execution"
  message := "Strategy execution status is " ++ wordOf (firstTruthy cycle "execution_status") ++ "; reason=" ++
    (match firstTruthy cycle "no_op_reason" with
      | .text reason => if reason = "" then "unspecified" else reason
      | _ => "unspecified")
  errorType := "StrategyExecutionBlocked"
  failureCategory := some "strategy_execution_blocked"

def withFailure (r : R) : R := if executionFailed cycle then kit.appendError r (blockedError cycle) else r

def check {α : Type} (f : Handling R I → Except Raised α) : Attempt (Handling R I) Raised α := .of fun s => (f s, s)

def publishNotices (rows : List Row) : Attempt (Handling R I) Raised Unit := .of fun s =>
  let published := (publishSettlementNotices around.notices texts zh i rows).exec s.outbox
  (published.1, { s with outbox := published.2 })

def publishObserved (observation : Option Summary) : Attempt (Handling R I) Raised Unit :=
  match observation with
  | none => pure ()
  | some summary => publishNotices around texts zh i summary.ordersSubmitted

def attachReceipt (observation : Option Summary) : Attempt (Handling R I) Raised Unit := .of fun s =>
  match attachCycleExecutionReceipt kit cycle (withFailure kit cycle s.report) observation with
  | .error e => (.error e, { s with report := withFailure kit cycle s.report })
  | .ok r => (.ok (), { s with report := r })

def prepareReport : Attempt (Handling R I) Raised CycleSummary := do
  check fun _ => stepOf around.signalSnapshot
  let observation ← check fun s => settlementObservation around profile (kit.view s.report).dryRun s.outbox.store
  publishObserved around texts zh i observation
  let summary ← check fun s => buildCycleReportSummary around cycle (kit.view s.report).dryRun
  attachReceipt kit cycle observation
  pure summary

def finalizeReport (summary : CycleSummary) : Attempt (Handling R I) Raised Unit := .total fun s =>
  let status := if executionFailed cycle then "error" else "ok"
  let category := if executionFailed cycle then some "strategy_execution_blocked" else none
  ((), { s with report := kit.finalize s.report status (some summary) category })

/-- The rest of the `try` block of `_handle_request` after the cycle has returned. -/
def completeCycle : Attempt (Handling R I) Raised String := do
  let summary ← prepareReport kit around texts zh profile i cycle
  finalizeReport kit cycle summary
  check fun _ => stepOf around.completedLog
  pure cycle.result

def typeName : ExceptionType → String
  | .runtimeDeadlineExceeded => "RuntimeDeadlineExceeded"
  | .ibkrGatewayUnavailableError => "IBKRGatewayUnavailableError"
  | .ibkrTradingPermissionError => "IBKRTradingPermissionError"
  | .ibkrPortfolioSnapshotUnavailableError => "IBKRPortfolioSnapshotUnavailableError"
  | .valueError => "ValueError"
  | .other name => name

/-- An `except` clause: the error that it appends, the failure category, and the answer. -/
def clauseOf (e : Raised) : ReportError × Option String × Reply :=
  match e.type with
  | .runtimeDeadlineExceeded => (⟨"strategy_deadline", e.text, typeName e.type, none⟩, some "strategy_deadline", .raised e)
  | .ibkrGatewayUnavailableError =>
    (⟨"ibkr_connect", e.text, typeName e.type, some "ibkr_gateway_unavailable"⟩, some "ibkr_gateway_unavailable",
      .answered "Error" 503)
  | .ibkrTradingPermissionError =>
    (⟨"ibkr_trading_permission", e.text, typeName e.type, some "ibkr_trading_permission"⟩, some "ibkr_trading_permission",
      .answered "Error" 503)
  | .ibkrPortfolioSnapshotUnavailableError =>
    (⟨"ibkr_portfolio_snapshot", e.text, typeName e.type, some "ibkr_portfolio_snapshot"⟩, some "ibkr_portfolio_snapshot",
      .answered "Error" 503)
  | _ => (⟨"strategy_cycle", "strategy_cycle_failed", typeName e.type, none⟩, none, .answered "Error" 500)

def handleFailure (e : Raised) (r : R) : R := kit.finalize (kit.appendError r (clauseOf e).1) "error" none (clauseOf e).2.1

def attachFallback (r : R) : R :=
  let failed := (Text.strip (kit.view r).status).toLower = "error"
  if (kit.view r).receipt.isSome then r
  else match kit.attach r (kit.resolve { dryRun := (kit.view r).dryRun, submissionAttempted := failed, failed := failed }) with
    | .ok r' => r'
    | .error _ => r

def handleRequest (s : Handling R I) : Handling R I × Reply :=
  match (completeCycle kit around texts zh profile i cycle).exec s with
  | (.ok result, t) => ({ t with report := attachFallback kit t.report }, .answered result 200)
  | (.error e, t) => ({ t with report := attachFallback kit (handleFailure kit e t.report) }, (clauseOf e).2.2)

end Code

section Report

variable {R I : Type} (kit : Kit R) (around : Surroundings) (texts : Texts) (zh : Bool) (profile : String) (i : I)
  (cycle : CycleResult)

structure Fresh (report : Report) : Prop where
  summary : report.summary = none
  receipt : report.receipt = none

def observed (dryRun : Bool) (store : Store) : Option Summary :=
  match settlementObservation around profile dryRun store with
  | .ok observation => observation
  | .error _ => none

structure Carries (s : Handling R I) (r : R) : Prop where
  status : ∃ summary, (kit.view r).summary = some summary ∧ summary.executionStatus = firstTruthy cycle "execution_status"
  receipt : (kit.view r).receipt =
    some (derivedFact kit cycle (kit.view s.report) (observed around profile (kit.view s.report).dryRun s.outbox.store))
  notices : ∀ e t, (publishObserved around texts zh i
      (observed around profile (kit.view s.report).dryRun s.outbox.store)).exec s = (.error e, t) →
    ∀ error ∈ (kit.view r).errors, error.message ≠ "strategy_cycle_failed"

def SettlementClear (store : Store) : Prop :=
  settlementEnabled around.settlementFlag = .ok false ∨
    settlementEnabled around.settlementFlag = .ok true ∧ around.accountIds.length = 1 ∧ around.markerStore = none ∧
      around.scan = none ∧ ∃ summary, settlementSummary profile store = .ok summary ∧
        ∀ row ∈ summary.ordersSubmitted, Clear around.notices texts zh store row

structure Undisturbed (s : Handling R I) : Prop where
  attested : (kit.view s.report).attested = true
  snapshot : around.signalSnapshot = none
  settlement : (kit.view s.report).dryRun = false → SettlementClear around texts zh profile s.outbox.store
  digest : ∃ count, around.digestOrderCount cycle.executionSummary (kit.view s.report).dryRun = .ok count

variable {kit around texts zh profile i cycle} {s t : Handling R I} {r : R}

lemma stepOf_ok {raised : Option Raised} : stepOf raised = .ok () ↔ raised = none := by
  cases raised <;> simp [stepOf]

@[simp] lemma exec_check {α : Type} {f : Handling R I → Except Raised α} : (check f).exec s = (f s, s) := rfl

lemma publishObserved_exec (observation : Option Summary) : ((publishObserved around texts zh i observation).exec s).2.report =
    s.report := by
  cases observation with
  | none => rfl
  | some summary => rfl

lemma explicitNonActionOutcome_cases {summary : Facts} {explicit : String} (h : explicitNonActionOutcome summary = some explicit) :
    explicit = "no_signal" ∨ explicit = "no_rebalance" := by
  unfold explicitNonActionOutcome at h
  dsimp only at h
  split at h
  · exact .inl (Option.some.inj h).symm
  · split at h
    · exact .inr (Option.some.inj h).symm
    · cases h

lemma cycleFact_known (kit : Kit R) (dryRun failed : Bool) (summary record : Facts) :
    kit.Known (cycleFact kit.resolve dryRun summary record failed) := by
  unfold cycleFact
  dsimp only
  split
  · exact .inl ⟨_, rfl⟩
  · rename_i explicit hexplicit
    split
    · rcases explicitNonActionOutcome_cases hexplicit with rfl | rfl
      · exact .inr (.inl rfl)
      · exact .inr (.inr rfl)
    · exact .inl ⟨_, rfl⟩

lemma attach_cases (hkit : kit.Lawful) {fact : Fact} (hknown : kit.Known fact) :
    ((kit.view r).attested = true ∧ ∃ r', kit.attach r fact = .ok r' ∧ kit.view r' = { kit.view r with receipt := some fact }) ∨
      (kit.view r).attested = false ∧ ∃ e, kit.attach r fact = .error e := by
  cases ha : (kit.view r).attested with
  | true => exact .inl ⟨rfl, hkit.accepted r fact ha hknown⟩
  | false =>
    obtain ⟨text, htext⟩ := hkit.refused r fact ha
    exact .inr ⟨rfl, _, htext⟩

variable (cycle r) in
lemma withFailure_view (hkit : kit.Lawful) : ∃ errors, kit.view (withFailure kit cycle r) = { kit.view r with errors := errors } := by
  unfold withFailure
  split
  · exact ⟨_, hkit.appendError _ _⟩
  · exact ⟨_, rfl⟩

lemma attachCycle_ok (hkit : kit.Lawful) {observation : Option Summary} {r' : R}
    (h : attachCycleExecutionReceipt kit cycle (withFailure kit cycle r) observation = .ok r') :
    ∃ errors, (kit.view r).attested = true ∧
        kit.view r' = { kit.view r with errors := errors, receipt := some (derivedFact kit cycle (kit.view r) observation) } ∨
      (kit.view r).attested = false ∧ kit.view r' = { kit.view r with errors := errors } := by
  obtain ⟨errors, hview⟩ := withFailure_view cycle r hkit
  have hfact : derivedFact kit cycle (kit.view (withFailure kit cycle r)) observation =
      derivedFact kit cycle (kit.view r) observation := by
    rw [hview]
    cases observation <;> rfl
  refine ⟨errors, ?_⟩
  unfold attachCycleExecutionReceipt at h
  rw [hfact] at h
  split at h
  · rename_i hlegacy
    obtain rfl := Except.ok.inj h
    have hrefused := hkit.legacy _ hlegacy
    rw [hview] at hrefused
    exact .inr ⟨hrefused, hview⟩
  · rcases attach_cases (r := withFailure kit cycle r) hkit (cycleFact_known kit _ _ _ _) with ⟨ha, r'', hr'', hv⟩ | ⟨_, e, he⟩
    · rw [derivedFact] at h
      rw [hr''] at h
      obtain rfl := Except.ok.inj h
      rw [hview] at ha hv
      exact .inl ⟨ha, hv⟩
    · rw [derivedFact] at h
      rw [he] at h
      cases h

lemma observeSettlement_ok {store : Store} {summary : Summary} : observeSettlement around profile store = .ok summary ↔
    around.accountIds.length = 1 ∧ around.markerStore = none ∧ around.scan = none ∧
      settlementSummary profile store = .ok summary := by
  unfold observeSettlement
  by_cases hids : around.accountIds.length = 1
  · cases hm : around.markerStore <;> cases hscan : around.scan <;> cases hsum : settlementSummary profile store <;>
      simp [hids, stepOf, bind, Except.bind]
  · simp [hids]

lemma settlementClear_iff {store : Store} {log : List (Notices.Event I)} :
    (∃ observation, settlementObservation around profile false store = .ok observation ∧
      ∃ t, (publishObserved around texts zh i observation).exec (⟨r, store, log⟩ : Handling R I) = (.ok (), t)) ↔
      SettlementClear around texts zh profile store := by
  unfold settlementObservation SettlementClear
  cases hflag : settlementEnabled around.settlementFlag with
  | error e => simp [bind, Except.bind]
  | ok enabled =>
    cases enabled with
    | false =>
      refine iff_of_true ⟨none, by simp [bind, Except.bind, pure, Except.pure], ?_⟩ (.inl rfl)
      exact ⟨_, rfl⟩
    | true =>
      simp only [Except.ok.injEq, Bool.true_eq_false, false_or, true_and]
      constructor
      · rintro ⟨observation, hobservation, t, ht⟩
        cases hs : observeSettlement around profile store with
        | error e => simp [hs, bind, Except.bind] at hobservation
        | ok summary =>
          obtain rfl : some summary = observation := by simpa [hs, bind, Except.bind, pure, Except.pure] using hobservation
          obtain ⟨hids, hmarkers, hscan, hsummary⟩ := observeSettlement_ok.mp hs
          refine ⟨hids, hmarkers, hscan, summary, hsummary, ?_⟩
          refine (publishSettlementNotices_ok (i := i) (s := ⟨store, log⟩) (settlementSummary_nodup hsummary)).mp ?_
          simp only [publishObserved, publishNotices, Attempt.exec_of] at ht
          exact ⟨_, Prod.ext (Prod.mk.inj ht).1 rfl⟩
      · rintro ⟨hids, hmarkers, hscan, summary, hsummary, hclear⟩
        have hs : observeSettlement around profile store = .ok summary := observeSettlement_ok.mpr ⟨hids, hmarkers, hscan, hsummary⟩
        obtain ⟨o, ho⟩ := (publishSettlementNotices_ok (i := i) (s := ⟨store, log⟩) (settlementSummary_nodup hsummary)).mpr hclear
        refine ⟨some summary, by simp [hs, bind, Except.bind, pure, Except.pure], ⟨r, o⟩, ?_⟩
        simp only [publishObserved, publishNotices, Attempt.exec_of, ho]

lemma prepareReport_ok {summary : CycleSummary} :
    (prepareReport kit around texts zh profile i cycle).exec s = (.ok summary, t) ↔
      around.signalSnapshot = none ∧
        ∃ observation, settlementObservation around profile (kit.view s.report).dryRun s.outbox.store = .ok observation ∧
          ∃ u, (publishObserved around texts zh i observation).exec s = (.ok (), u) ∧
            buildCycleReportSummary around cycle (kit.view s.report).dryRun = .ok summary ∧
              ∃ r, attachCycleExecutionReceipt kit cycle (withFailure kit cycle s.report) observation = .ok r ∧
                t = { u with report := r } := by
  unfold prepareReport
  constructor
  · intro h
    obtain ⟨_, s₁, hsnapshot, h⟩ := Attempt.exec_bind_ok.mp h
    obtain ⟨hraised, rfl⟩ := Prod.mk.inj hsnapshot
    obtain ⟨observation, s₂, hobservation, h⟩ := Attempt.exec_bind_ok.mp h
    obtain ⟨hobserved, rfl⟩ := Prod.mk.inj hobservation
    obtain ⟨_, u, hpublished, h⟩ := Attempt.exec_bind_ok.mp h
    have hreport : u.report = s.report := by
      have hsame : ((publishObserved around texts zh i observation).exec s).2.report = s.report := publishObserved_exec observation
      rwa [hpublished] at hsame
    obtain ⟨built, s₃, hbuilt, h⟩ := Attempt.exec_bind_ok.mp h
    rw [exec_check] at hbuilt
    obtain ⟨hsummary, rfl⟩ := Prod.mk.inj hbuilt
    obtain ⟨_, s₄, hattached, h⟩ := Attempt.exec_bind_ok.mp h
    obtain ⟨hbuilt, rfl⟩ := Prod.mk.inj h
    obtain rfl := Except.ok.inj hbuilt
    rw [hreport] at hsummary
    refine ⟨stepOf_ok.mp hraised, observation, hobserved, u, hpublished, hsummary, ?_⟩
    unfold attachReceipt at hattached
    rw [Attempt.exec_of, hreport] at hattached
    cases ha : attachCycleExecutionReceipt kit cycle (withFailure kit cycle s.report) observation with
    | error e => simp [ha] at hattached
    | ok r =>
      simp only [ha, Prod.mk.injEq, true_and] at hattached
      exact ⟨r, rfl, hattached.symm⟩
  · rintro ⟨hraised, observation, hobserved, u, hpublished, hsummary, r, hattached, rfl⟩
    have hreport : u.report = s.report := by
      have hsame : ((publishObserved around texts zh i observation).exec s).2.report = s.report := publishObserved_exec observation
      rwa [hpublished] at hsame
    refine Attempt.exec_bind_ok.mpr ⟨(), s, by rw [exec_check, stepOf_ok.mpr hraised], ?_⟩
    refine Attempt.exec_bind_ok.mpr ⟨observation, s, by rw [exec_check, hobserved], ?_⟩
    refine Attempt.exec_bind_ok.mpr ⟨(), u, hpublished, ?_⟩
    refine Attempt.exec_bind_ok.mpr ⟨summary, u, by rw [exec_check, hreport, hsummary], ?_⟩
    refine Attempt.exec_bind_ok.mpr ⟨(), { u with report := r }, ?_, rfl⟩
    simp only [attachReceipt, Attempt.exec_of, hreport, hattached]

lemma prepareReport_summary (hkit : kit.Lawful) (h : (kit.view s.report).summary = none) :
    (kit.view ((prepareReport kit around texts zh profile i cycle).exec s).2.report).summary = none := by
  have hcheck : ∀ {α : Type} (f : Handling R I → Except Raised α),
      Attempt.Keeps (fun t => (kit.view t.report).summary = none) (check f) := fun f => Attempt.keeps_of fun t ht => ht
  have hpublish : ∀ observation, Attempt.Keeps (fun t : Handling R I => (kit.view t.report).summary = none)
      (publishObserved around texts zh i observation) := by
    intro observation t ht
    rwa [publishObserved_exec]
  have hattach : ∀ observation, Attempt.Keeps (fun t : Handling R I => (kit.view t.report).summary = none)
      (attachReceipt kit cycle observation) := by
    refine fun observation => Attempt.keeps_of fun t ht => ?_
    split
    · obtain ⟨errors, hview⟩ := withFailure_view cycle t.report hkit
      rw [hview]
      exact ht
    · rename_i r hr
      obtain ⟨errors, ⟨_, hview⟩ | ⟨_, hview⟩⟩ := attachCycle_ok hkit hr <;> rw [hview] <;> exact ht
  unfold prepareReport
  refine Attempt.keeps_bind (hcheck _) (fun _ => Attempt.keeps_bind (hcheck _) fun observation =>
    Attempt.keeps_bind (hpublish observation) fun _ => Attempt.keeps_bind (hcheck _) fun summary =>
      Attempt.keeps_bind (hattach observation) fun _ => Attempt.keeps_pure summary) s h

lemma attachCycle_attested (hkit : kit.Lawful) (ha : (kit.view r).attested = true) (observation : Option Summary) :
    ∃ r', attachCycleExecutionReceipt kit cycle (withFailure kit cycle r) observation = .ok r' := by
  obtain ⟨errors, hview⟩ := withFailure_view cycle r hkit
  unfold attachCycleExecutionReceipt
  split
  · exact ⟨_, rfl⟩
  · rcases attach_cases (r := withFailure kit cycle r) hkit (cycleFact_known kit _ _ _ _) with ⟨_, r', hr', _⟩ | ⟨hno, _⟩
    · exact ⟨r', hr'⟩
    · rw [hview, ha] at hno
      cases hno

lemma handleFailure_summary (hkit : kit.Lawful) (e : Raised) : (kit.view (handleFailure kit e r)).summary = (kit.view r).summary ∧
    (kit.view (handleFailure kit e r)).receipt = (kit.view r).receipt ∧
      (kit.view (handleFailure kit e r)).attested = (kit.view r).attested := by
  unfold handleFailure
  rw [hkit.finalize, hkit.appendError]
  exact ⟨Option.none_or, rfl, rfl⟩

lemma attachFallback_view (hkit : kit.Lawful) : (kit.view (attachFallback kit r)).summary = (kit.view r).summary ∧
    (kit.view (attachFallback kit r)).errors = (kit.view r).errors ∧
      ((kit.view r).receipt.isSome = true ∨ (kit.view r).attested = false →
        (kit.view (attachFallback kit r)).receipt = (kit.view r).receipt) := by
  unfold attachFallback
  dsimp only
  split
  · exact ⟨rfl, rfl, fun _ => rfl⟩
  · rename_i hreceipt
    split
    · rename_i r' hr'
      rcases attach_cases (r := r) hkit (.inl ⟨_, rfl⟩) with ⟨ha, r'', hr'', hview⟩ | ⟨_, e, he⟩
      · rw [hr''] at hr'
        obtain rfl := Except.ok.inj hr'
        rw [hview]
        refine ⟨rfl, rfl, fun h => h.elim (fun hsome => absurd hsome hreceipt) fun hno => ?_⟩
        rw [ha] at hno
        cases hno
      · rw [he] at hr'
        cases hr'
    · exact ⟨rfl, rfl, fun _ => rfl⟩

lemma buildCycleReportSummary_ok {dryRun : Bool} : (∃ summary, buildCycleReportSummary around cycle dryRun = .ok summary) ↔
    ∃ count, around.digestOrderCount cycle.executionSummary dryRun = .ok count := by
  unfold buildCycleReportSummary
  cases around.digestOrderCount cycle.executionSummary dryRun <;> simp [bind, Except.bind, pure, Except.pure]

lemma buildCycleReportSummary_status {dryRun : Bool} {summary : CycleSummary}
    (h : buildCycleReportSummary around cycle dryRun = .ok summary) : summary.executionStatus = firstTruthy cycle "execution_status" := by
  unfold buildCycleReportSummary at h
  cases hd : around.digestOrderCount cycle.executionSummary dryRun with
  | error e => simp [hd, bind, Except.bind] at h
  | ok digest =>
    simp only [hd, bind, Except.bind, pure, Except.pure, Except.ok.injEq] at h
    exact h ▸ rfl

lemma completeCycle_prepared (hkit : kit.Lawful) {summary : CycleSummary}
    (h : (prepareReport kit around texts zh profile i cycle).exec s = (.ok summary, t)) :
    ∃ r', (handleRequest kit around texts zh profile i cycle s).1.report = attachFallback kit r' ∧
      (kit.view r').summary = some summary ∧ (kit.view r').receipt = (kit.view t.report).receipt ∧
        (kit.view r').attested = (kit.view t.report).attested := by
  unfold handleRequest completeCycle
  rw [Attempt.exec_bind, h]
  dsimp only
  rw [Attempt.exec_bind, finalizeReport, Attempt.exec_total]
  dsimp only
  rw [Attempt.exec_bind, exec_check]
  cases hlog : stepOf around.completedLog with
  | ok u =>
    refine ⟨_, rfl, ?_, ?_, ?_⟩
    · rw [hkit.finalize]
      rfl
    · rw [hkit.finalize]
    · rw [hkit.finalize]
  | error e =>
    refine ⟨_, rfl, ?_, ?_, ?_⟩
    · rw [(handleFailure_summary hkit e).1, hkit.finalize]
      rfl
    · rw [(handleFailure_summary hkit e).2.1, hkit.finalize]
    · rw [(handleFailure_summary hkit e).2.2, hkit.finalize]

/-- A completed cycle is told unless the release is unattested or a reporting step raises. -/
theorem report_tells_of_cycle (hkit : kit.Lawful) (hfresh : Fresh (kit.view s.report)) :
    Carries kit around texts zh profile i cycle s (handleRequest kit around texts zh profile i cycle s).1.report ↔
      Undisturbed kit around texts zh profile cycle s := by
  constructor
  · intro h
    cases hp : (prepareReport kit around texts zh profile i cycle).exec s with
    | mk answer t =>
      cases answer with
      | error e =>
        -- The report has no summary then, and the except clauses give it none.
        have hnone : (kit.view t.report).summary = none := by
          have hkeeps : (kit.view ((prepareReport kit around texts zh profile i cycle).exec s).2.report).summary = none :=
            prepareReport_summary hkit hfresh.summary
          rwa [hp] at hkeeps
        obtain ⟨summary, hsummary, _⟩ := h.status
        unfold handleRequest completeCycle at hsummary
        rw [Attempt.exec_bind, hp] at hsummary
        dsimp only at hsummary
        rw [(attachFallback_view hkit).1, (handleFailure_summary hkit e).1, hnone] at hsummary
        cases hsummary
      | ok summary =>
        obtain ⟨hsnapshot, observation, hobservation, u, hpublished, hbuilt, r, hattached, rfl⟩ := prepareReport_ok.mp hp
        obtain ⟨r', hreport, _, hreceipt, hattested⟩ := completeCycle_prepared hkit hp
        refine ⟨?_, hsnapshot, fun hlive => ?_, buildCycleReportSummary_ok.mp ⟨summary, hbuilt⟩⟩
        · obtain ⟨_, ⟨ha, _⟩ | ⟨ha, hview⟩⟩ := attachCycle_ok hkit hattached
          · exact ha
          · have hnone := h.receipt
            rw [hreport] at hnone
            rw [hview] at hattested hreceipt
            rw [(attachFallback_view hkit).2.2 (.inr (hattested.trans ha)), hreceipt, hfresh.receipt] at hnone
            cases hnone
        · rw [hlive] at hobservation
          exact settlementClear_iff.mp ⟨observation, hobservation, u, hpublished⟩
  · intro h
    have hobserving : ∃ observation, settlementObservation around profile (kit.view s.report).dryRun s.outbox.store = .ok observation ∧
        ∃ u, (publishObserved around texts zh i observation).exec s = (.ok (), u) := by
      cases hdry : (kit.view s.report).dryRun with
      | true => exact ⟨none, rfl, s, rfl⟩
      | false => exact settlementClear_iff.mpr (h.settlement hdry)
    obtain ⟨observation, hobservation, u, hpublished⟩ := hobserving
    obtain ⟨summary, hsummary⟩ := buildCycleReportSummary_ok.mpr h.digest
    obtain ⟨r, hr⟩ : ∃ r, attachCycleExecutionReceipt kit cycle (withFailure kit cycle s.report) observation = .ok r :=
      attachCycle_attested hkit h.attested observation
    have hp := prepareReport_ok.mpr ⟨h.snapshot, observation, hobservation, u, hpublished, hsummary, r, hr, rfl⟩
    obtain ⟨r', hreport, hstated, hreceipt, _⟩ := completeCycle_prepared hkit hp
    have hobserved : observed around profile (kit.view s.report).dryRun s.outbox.store = observation := by
      rw [observed, hobservation]
    have hattached : (kit.view r).receipt = some (derivedFact kit cycle (kit.view s.report) observation) := by
      obtain ⟨_, ⟨_, hview⟩ | ⟨hno, _⟩⟩ := attachCycle_ok hkit hr
      · rw [hview]
      · rw [h.attested] at hno
        cases hno
    rw [hreport]
    refine ⟨⟨summary, ?_, buildCycleReportSummary_status hsummary⟩, ?_, fun e t he => ?_⟩
    · rw [(attachFallback_view hkit).1, hstated]
    · rw [(attachFallback_view hkit).2.2 (.inl (by rw [hreceipt, hattached]; rfl)), hreceipt, hattached, hobserved]
    · rw [hobserved, hpublished] at he
      cases he

end Report

section Fixture

open Observers (attempt₀ order₀ filled₀)

def kit₀ : Kit Report where
  view r := { r with attested := r.attested && !r.legacyUnattested }
  appendError r e := { r with errors := r.errors ++ [e] }
  finalize r status summary category :=
    { r with status := status, summary := summary.or r.summary, failureCategory := category.or r.failureCategory }
  attach r fact :=
    if r.attested && !r.legacyUnattested then .ok { r with receipt := some fact } else .error (valueError "runtime_release_invalid")
  resolve question :=
    if question.reconciliationRequired then ⟨"reconciliation_required", "reconciliation_required"⟩
    else if question.filled then ⟨"filled", "filled"⟩ else ⟨"no_action", "not_applicable"⟩

lemma kit₀_lawful : kit₀.Lawful where
  appendError _ _ := rfl
  finalize _ _ _ _ := rfl
  accepted r fact ha _ := ⟨{ r with receipt := some fact }, if_pos ha, rfl⟩
  refused r fact ha := ⟨"runtime_release_invalid", if_neg (by rw [show (r.attested && !r.legacyUnattested) = false from ha]; decide)⟩
  legacy r hl := by
    have hl' : r.legacyUnattested = true := hl
    simp [kit₀, hl']

def report₀ : Report := ⟨"run", false, false, true, "running", none, none, [], none⟩

def around₀ : Surroundings where
  notices := ⟨fun _ => .ok true, fun _ => .acknowledged, fun _ => .ok true, fun _ => .acknowledged, fun _ => none, runtimeError "lost"⟩
  signalSnapshot := none
  settlementFlag := "true"
  accountIds := ["U1"]
  markerStore := none
  scan := none
  brakeStatus := none
  digestOrderCount _ _ := .ok (some 1)
  completedLog := none

def order₁ : OrderRow := ⟨some "73", some "TQQQ", some "sell", some 3, none, none, false, "Submitted"⟩

def cycle₀ : CycleResult where
  result := "cycle"
  executionSummary := [("execution_status", .text "pending_reconciliation"), ("orders_submitted", .orders [order₁]),
    ("orders_pending", .orders [order₁])]
  reconciliationRecord := []

def settled₀ : Store := [⟨attempt₀, .pending order₀⟩, ⟨attempt₀, .broker "73"⟩, ⟨attempt₀, .observed 1 ⟨1, filled₀⟩⟩]

def after₀ (store : Store) : Handling Report Bool × Reply :=
  handleRequest kit₀ around₀ Notifications.texts₀ false "alpha" true cycle₀ ⟨report₀, ⟨store, []⟩⟩

theorem report_tells_of_cycle₀ : Carries kit₀ around₀ Notifications.texts₀ false "alpha" true cycle₀ ⟨report₀, ⟨settled₀, []⟩⟩
    (after₀ settled₀).1.report := by
  have hfresh : Fresh (kit₀.view report₀) := ⟨rfl, rfl⟩
  have hrows : (settlementSummary "alpha" settled₀).toOption.map (fun summary =>
      (summary.ordersSubmitted.map fun row => (row.sourceRunId, row.settlementAttemptId,
        (settledNotice Notifications.texts₀ false row).toOption.isSome))) = some [("run", attempt₀, true)] := by decide +kernel
  obtain ⟨summary, hsummary, hlist⟩ := Option.map_eq_some_iff.mp hrows
  have hok : settlementSummary "alpha" settled₀ = .ok summary := by
    cases hx : settlementSummary "alpha" settled₀ with
    | error e => simp [hx, Except.toOption] at hsummary
    | ok found => simpa [hx, Except.toOption] using hsummary
  refine (report_tells_of_cycle kit₀_lawful hfresh).mpr ⟨rfl, rfl, fun _ => .inr ⟨by decide +kernel, rfl, rfl, rfl, summary, hok,
    fun row hrow => ?_⟩, some 1, rfl⟩
  have hmem := List.mem_map_of_mem (f := fun row => (row.sourceRunId, row.settlementAttemptId,
    (settledNotice Notifications.texts₀ false row).toOption.isSome)) hrow
  rw [hlist, List.mem_singleton, Prod.mk.injEq, Prod.mk.injEq] at hmem
  obtain ⟨hsource, hattempt, htext⟩ := hmem
  refine ⟨by rw [hsource]; decide, rfl, fun _ => ⟨by rw [hattempt]; decide, rfl⟩, fun _ _ => ⟨?_, rfl⟩, fun _ hin => ?_⟩
  · cases hx : settledNotice Notifications.texts₀ false row with
    | error e => simp [hx, Except.toOption] at htext
    | ok text => exact ⟨text, rfl, rfl⟩
  · rw [hattempt] at hin
    exact absurd hin (by decide)

theorem earlier_notice_replaces_report : ¬ Carries kit₀ around₀ Notifications.texts₀ false "alpha" true cycle₀
      ⟨report₀, ⟨settled₀ ++ [⟨attempt₀, .noticeAttempt⟩], []⟩⟩ (after₀ (settled₀ ++ [⟨attempt₀, .noticeAttempt⟩])).1.report ∧
    (after₀ (settled₀ ++ [⟨attempt₀, .noticeAttempt⟩])).1.report.errors.map ReportError.message = ["strategy_cycle_failed"] ∧
      (after₀ (settled₀ ++ [⟨attempt₀, .noticeAttempt⟩])).2 = .answered "Error" 500 := by
  have hafter : (after₀ (settled₀ ++ [⟨attempt₀, .noticeAttempt⟩])).1.report.summary = none ∧
      (after₀ (settled₀ ++ [⟨attempt₀, .noticeAttempt⟩])).1.report.errors.map ReportError.message = ["strategy_cycle_failed"] ∧
        (after₀ (settled₀ ++ [⟨attempt₀, .noticeAttempt⟩])).2 = .answered "Error" 500 := by decide +kernel
  refine ⟨fun h => ?_, hafter.2⟩
  obtain ⟨summary, hsummary, _⟩ := h.status
  have hnone : (kit₀.view (after₀ (settled₀ ++ [⟨attempt₀, .noticeAttempt⟩])).1.report).summary = none := hafter.1
  rw [hnone] at hsummary
  cases hsummary

end Fixture

end IbkrPlatform.Reporting.CycleReport
