import IbkrPlatform.AccountFacts.Facts

/-! The archived record of an account, projected from a stored runtime report. -/

namespace IbkrPlatform.AccountFacts

open Library
open FlexDaily (Instant Parsed)
open FlexDaily.Forward (representable)
open Portfolio.CashObservations (isCurrency)
open Portfolio.CashSelectors (marketCurrencyCashTagPriority)

structure Url where
  scheme : String
  netloc : String
  path : String
  query : String
  fragment : String

/-- The readers of the standard library; `none` is a `ValueError`. -/
structure Kit where
  urlsplit : String → Option Url
  fromisoformat : String → Option Parsed
  /-- `sha256` of the canonical JSON of a binding. -/
  digest : List (String × String) → String

structure ProjectionError where
  reason : String
  mismatchedFields : List String
deriving DecidableEq

def refuse {A : Type} (reason : String) : Except ProjectionError A := .error ⟨reason, []⟩

def runtimeTargetMismatchFields : List String :=
  ["project_id", "service_name", "runtime_revision", "account_scope", "deployment_selector", "account_selector",
    "runtime_release_receipt.runtime_revision"]

def mismatch {A : Type} (fields : List String) : Except ProjectionError A :=
  .error ⟨"runtime_target_mismatch", runtimeTargetMismatchFields.filter (· ∈ fields)⟩

def agree (fields : List String) : Except ProjectionError Unit := if fields = [] then .ok () else mismatch fields

def refuseIf (c : Prop) [Decidable c] (reason : String) : Except ProjectionError Unit := if c then refuse reason else .ok ()

def require {A : Type} (value : Option A) (reason : String) : Except ProjectionError A := value.elim (refuse reason) .ok

structure Expected where
  targetId : String
  reportPrefix : String
  projectId : String
  serviceName : String
  runtimeRevision : String
  accountScope : String
  accountSelector : List String
  deploymentSelector : String

section Values

def exactText (value : Option Json) : String :=
  match Json.text? value with
  | some s => if s = Text.strip s then s else ""
  | none => ""

/-- `_text`. -/
def textOf (value : Option Json) : String := (Json.text? value).elim "" Text.strip

/-- `account_selector` of texts. -/
def selectorOf (items : List String) : List String :=
  if items.any fun item => item = "" || item ≠ Text.strip item then [] else items

def accountSelector (value : Option Json) : List String :=
  match Json.list? value with
  | none => []
  | some items => ((items.mapM fun item => Json.text? (some item)).map selectorOf).getD []

/-- The full match of `^(?:U|DU)\d+$`. -/
def isAccountId (s : String) : Bool :=
  let number (cs : List Char) : Bool := cs ≠ [] && cs.all isDigit
  match s.toList with
  | 'U' :: cs => number cs
  | 'D' :: 'U' :: cs => number cs
  | _ => false

/-- The full match of `^[a-z0-9](?:[a-z0-9-]{0,62}[a-z0-9])?$`. -/
def isTargetId (s : String) : Bool :=
  let alnum (c : Char) : Bool := 'a' ≤ c && c ≤ 'z' || c.isDigit
  let cs := s.toList
  cs ≠ [] && cs.length ≤ 64 && cs.all (fun c => alnum c || c = '-') && (cs.head?.all alnum) && cs.getLast?.all alnum

end Values

section Project

variable (kit : Kit)

def observedTimestamp (value : Option Json) : Except ProjectionError Instant :=
  match Json.text? value with
  | none => refuse "observation_invalid"
  | some s =>
    if Text.strip s = "" then refuse "observation_invalid"
    else match kit.fromisoformat (String.ofList (s.toList.flatMap fun c => if c = 'Z' then "+00:00".toList else [c])) with
      | some ⟨wall, some offset⟩ => if representable (wall - offset) then .ok (wall - offset) else refuse "observation_invalid"
      | _ => refuse "observation_invalid"

def sourceReportUri (uri expectedPrefix : String) : Except ProjectionError Unit :=
  match kit.urlsplit uri, kit.urlsplit expectedPrefix with
  | some u, some p =>
    let prefixPath := p.path.toList.rdropWhile (· = '/')
    refuseIf (u.scheme ≠ "gs" ∨ u.netloc = "" ∨ u.query ≠ "" ∨ u.fragment ≠ "" ∨ p.scheme ≠ "gs" ∨ p.netloc = "" ∨
      p.query ≠ "" ∨ p.fragment ≠ "" ∨ u.netloc ≠ p.netloc ∨ prefixPath = [] ∨
      !(prefixPath ++ ['/']).isPrefixOf u.path.toList) "report_provenance_invalid"
  | _, _ => refuse "report_provenance_invalid"

structure Fields where
  projectId : String
  serviceName : String
  runtimeRevision : String
  accountScope : String
  deploymentSelector : String
deriving DecidableEq

def Fields.named (f : Fields) : List (String × String) :=
  [("project_id", f.projectId), ("service_name", f.serviceName), ("runtime_revision", f.runtimeRevision),
    ("account_scope", f.accountScope), ("deployment_selector", f.deploymentSelector)]

def Expected.fields (e : Expected) : Fields where
  projectId := Text.strip e.projectId
  serviceName := Text.strip e.serviceName
  runtimeRevision := Text.strip e.runtimeRevision
  accountScope := Text.strip e.accountScope
  deploymentSelector := Text.strip e.deploymentSelector

def actualFields (report target diagnostics : List (String × Json)) : Fields where
  projectId := exactText (report.lookup "project_id")
  serviceName := exactText (report.lookup "service_name")
  runtimeRevision := exactText (diagnostics.lookup "runtime_revision")
  accountScope := exactText (report.lookup "account_scope")
  deploymentSelector := exactText (target.lookup "deployment_selector")

/-- The names of the fields that differ, in the order of the report's. -/
def mismatched (actual expected : Fields) (actualSelector expectedSelector : List String) : List String :=
  ((actual.named.zip expected.named).filter fun p => p.1.2 ≠ p.2.2).map (fun p => p.1.1) ++
    if actualSelector ≠ expectedSelector then ["account_selector"] else []

/-- A receipt is missing, `null` or a mapping. -/
def receiptOf (report : List (String × Json)) : Option (Option (List (String × Json))) :=
  match report.lookup "runtime_release_receipt" with
  | none => some none
  | some .null => some none
  | some (.dict receipt) => some (some receipt)
  | some _ => none

def accountFacts (report : List (String × Json)) : Option (List (String × Json)) :=
  (Json.dict? (report.lookup "summary")).bind fun summary => Json.dict? (summary.lookup "account_facts")

def Expected.account (e : Expected) : Option String :=
  match selectorOf e.accountSelector with
  | [account] => if Text.lower account.toList = "default".toList then none else some account
  | _ => none

def reportParts (report : List (String × Json)) :
    Option (List (String × Json) × List (String × Json) × Option (List (String × Json))) :=
  match Json.dict? (report.lookup "runtime_target"), Json.dict? (report.lookup "diagnostics"), receiptOf report with
  | some target, some diagnostics, some receipt =>
    if Json.text? (report.lookup "schema_version") = some "runtime_report.v1" ∧
        Json.text? (report.lookup "platform") = some "interactive_brokers" ∧
        Json.text? (report.lookup "deploy_target") = some "cloud_run" then some (target, diagnostics, receipt)
    else none
  | _, _, _ => none

def receiptMismatch (receipt : Option (List (String × Json))) (actual : Fields) : List String :=
  let revision := receipt.elim "" fun receipt => textOf (receipt.lookup "runtime_revision")
  if revision ≠ "" ∧ revision ≠ actual.runtimeRevision then ["runtime_release_receipt.runtime_revision"] else []

def validateReportAccountIdentity (expected : Expected) (report : List (String × Json)) :
    Except ProjectionError (Fields × List String × List (String × Json)) := do
  refuseIf (expected.fields.named.any fun f => f.2 = "") "expected_target_invalid"
  let account ← require expected.account "expected_target_invalid"
  let (target, diagnostics, receipt) ← require (reportParts report) "runtime_report_invalid"
  let actual := actualFields report target diagnostics
  let actualSelector := accountSelector (target.lookup "account_selector")
  agree (mismatched actual expected.fields actualSelector [account])
  agree (receiptMismatch receipt actual)
  let facts ← require (accountFacts report) "account_facts_invalid"
  refuseIf (Json.text? (facts.lookup "schema_version") ≠ some snapshotSchema) "account_facts_invalid"
  refuseIf (accountSelector (facts.lookup "account_ids") ≠ [account] ∨ !isAccountId account) "account_identity_mismatch"
  return (actual, actualSelector, facts)

/-- `_decimal_text` of a value that may be `null`. -/
def nullableDecimalText (value : Option Json) : Option (Option String) :=
  match value with
  | none => some none
  | some .null => some none
  | some value => ((Json.text? (some value)).bind decimalText).map some

def projectCashRow : Json → Option CashEntry
  | .dict item => do
    let currency ← Json.text? (item.lookup "currency")
    let sourceTag ← Json.text? (item.lookup "source_tag")
    if !isCurrency currency || sourceTag ∉ marketCurrencyCashTagPriority then none
    else
      let cashBalance ← (Json.text? (item.lookup "cash_balance")).bind decimalText
      some ⟨currency, cashBalance, sourceTag⟩
  | _ => none

def projectCash (value : Option Json) : Option (List CashEntry) :=
  match Json.list? value with
  | none => none
  | some [] => none
  | some items => Distinct.gather projectCashRow CashEntry.currency items

def boundSourceId (f : Fields) (account : List String) : String :=
  kit.digest (("account_scope", f.accountScope) :: account.map (fun a => ("account_selector", a)) ++
    [("deployment_selector", f.deploymentSelector), ("project_id", f.projectId), ("runtime_revision", f.runtimeRevision),
      ("service_name", f.serviceName)])

structure Record where
  accountScope : String
  targetId : String
  bindingId : String
  observedAt : Instant
  netAssets : Option String
  cash : List CashEntry
  accountId : String
  positions : Option (List PositionRow)
  complete : Bool
deriving DecidableEq

def projectIbkrAccountFactsHistory (expected : Expected) (uri : String) (report : Json) : Except ProjectionError Record := do
  let report ← require (Json.dict? (some report)) "runtime_report_invalid"
  let targetId := Text.strip expected.targetId
  refuseIf (!isTargetId targetId) "expected_target_invalid"
  sourceReportUri kit (Text.strip uri) (Text.strip expected.reportPrefix)
  let (actual, actualSelector, facts) ← validateReportAccountIdentity expected report
  refuseIf (Json.text? (facts.lookup "currency") ≠ some "USD") "account_facts_invalid"
  let started ← observedTimestamp kit (report.lookup "started_at")
  let finished ← observedTimestamp kit (report.lookup "finished_at")
  refuseIf (finished < started) "observation_invalid"
  let observed ← observedTimestamp kit (facts.lookup "observed_at")
  refuseIf (observed < started ∨ finished < observed) "observation_invalid"
  let netAssets ← require (nullableDecimalText (facts.lookup "net_assets")) "account_facts_invalid"
  let cash ← require (projectCash (facts.lookup "cash")) "account_facts_invalid"
  let positions := projectPositions facts
  return {
    accountScope := actual.accountScope
    targetId
    bindingId := boundSourceId kit actual actualSelector
    observedAt := observed
    netAssets
    cash
    accountId := actualSelector.headD ""
    positions
    complete := positions.isSome && Json.isTrue (facts.lookup "broker_reported_positions_complete") }

def historySchema : String := "ibkr_account_snapshot_history.v1"

def Record.entries (r : Record) : List (String × Json) :=
  [("schema_version", .text historySchema), ("snapshot_schema_version", .text snapshotSchema),
    ("account_scope", .text r.accountScope), ("target_id", .text r.targetId),
    ("source_binding", .dict [("kind", .text "deployment_runtime_account"), ("status", .text "bound"), ("id", .text r.bindingId)]),
    ("observed_started_at", .text (isoformat r.observedAt)), ("observed_finished_at", .text (isoformat r.observedAt)),
    ("snapshot_atomic", .bool false), ("observation_date", .text (FlexDaily.Strptime.isoText (FlexDaily.Calendar.dayOf r.observedAt))),
    ("broker_reported_balances", .list [.dict [("currency", .text "USD"), ("net_assets", textOrNull r.netAssets)]]),
    ("cash", .list (r.cash.map CashEntry.json)), ("account_ids", .list [.text r.accountId])] ++
  (r.positions.elim [] fun rows => [("broker_reported_positions", .list (rows.map fun row => .dict row.entries)),
    ("broker_reported_positions_scope", .text positionsScope)]) ++
  if r.complete then [("broker_reported_positions_complete", .bool true)] else []

def positionsKeys : List String :=
  ["broker_reported_positions", "broker_reported_positions_scope", "broker_reported_positions_complete"]

def syncKeys : List String :=
  ["schema_version", "snapshot_schema_version", "account_scope", "target_id", "source_binding", "observed_started_at",
    "observed_finished_at", "snapshot_atomic", "observation_date", "broker_reported_balances", "cash", "account_ids"]

def prepareSyncPayload (includePositions : Bool) (body : List (String × Json)) : List (String × Json) :=
  body.filter fun e => e.1 ∈ syncKeys || includePositions && e.1 ∈ positionsKeys

end Project

end IbkrPlatform.AccountFacts
