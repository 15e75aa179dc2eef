import IbkrPlatform.AccountFacts.Projection
import IbkrPlatform.Library.Procedure

/-! The publisher of account facts: it selects one stored report, projects it and posts the record. -/

namespace IbkrPlatform.AccountFacts

open Library
open FlexDaily (Instant Day Month)
open FlexDaily.Calendar (minutes hours dayOf monthOf)
open FlexDaily.Strptime (yearDigits monthDigits dayDigits hourDigits minuteDigits secondDigits separated calendarDay)

structure Listing where
  code : ℤ
  lines : List String
  long : Bool
  stderr : String

/-- What reading a stored report gave; `invalid` is too long, or no mapping that JSON spells without repeated keys. -/
inductive Stored
  | failed
  | invalid
  | report (entries : List (String × Json))

/-- What the receiver gave. The body is `none` where it is too long, or no JSON. -/
inductive Reply
  | response (status : ℕ) (body : Option Json)
  | httpError (status : Option ℕ) (code : String)
  | timeout
  | urlError
  | osError
  | other

inductive Ask
  | servingRevision
  | listing (monthPrefix : String)
  | cat (uri : String)
  | post (payload : List (String × Json))

inductive Answer
  | revision (r : Except ProjectionError String)
  | listing (l : Listing)
  | stored (s : Stored)
  | reply (r : Reply)
  | raised

inductive Stop
  | refused (e : ProjectionError)
  | raised

abbrev Publishing := Procedure Ask Answer ℕ Stop

inductive Outcome
  | published (observedFinishedAt : Option Instant)
  | unchanged
  | stale (age : ℤ)
  | failed (stage category : String) (httpStatus : Option ℕ) (code : String)

section Names

def trimSlashes (s : String) : List Char := s.toList.rdropWhile (· = '/')

/-- `strftime("%Y-%m")`. -/
def monthText (m : Month) : List Char :=
  Nat.toDigits 10 (m / 12).toNat ++ '-' :: Decimal.zfill 2 (Nat.toDigits 10 ((m % 12).toNat + 1))

def monthPrefix (reportPrefix : String) (m : Month) : String :=
  String.ofList (trimSlashes reportPrefix ++ '/' :: monthText m ++ ['/'])

/-- The full match of `^\d{8}T\d{6}Z\.json$`. -/
def isRunId (name : List Char) : Bool :=
  name.length = 21 && (name.take 8).all isDigit && (name.drop 8).head? = some 'T' && ((name.drop 9).take 6).all isDigit &&
    name.drop 15 = "Z.json".toList

/-- `strptime` with `%Y%m%dT%H%M%SZ`, in UTC. -/
def runTime (cs : List Char) : Option Instant :=
  let found := (yearDigits cs).flatMap fun y => (monthDigits y.2).flatMap fun m => (dayDigits m.2).flatMap fun d =>
    (separated (some 'T') d.2).flatMap fun time => (hourDigits time).flatMap fun h => (minuteDigits h.2).flatMap fun min =>
      (secondDigits min.2).flatMap fun s => (separated (some 'Z') s.2).map fun rest =>
        (calendarDay y.1 m.1 d.1, h.1 * 3600 + min.1 * 60, s.1, rest)
  match found with
  | (some day, seconds, s, []) :: _ => if s < 60 then some (day * hours 24 + ((seconds + s : ℕ) : ℤ) * 1000000) else none
  | _ => none

/-- `strftime` with `%Y%m%dT%H%M%SZ`, and the suffix. -/
def runName (t : Instant) : List Char :=
  let seconds := (t % hours 24 / 1000000).toNat
  let two (n : ℕ) : List Char := Decimal.zfill 2 (Nat.toDigits 10 n)
  (FlexDaily.Strptime.compactText (dayOf t)).toList ++ 'T' :: two (seconds / 3600) ++ two (seconds / 60 % 60) ++
    two (seconds % 60) ++ "Z.json".toList

example : runTime "20261103T130100Z".toList = some 1793710860000000 ∧ runName 1793710860000000 = "20261103T130100Z.json".toList := by
  decide

/-- The `name` of a path. -/
def fileName (path : String) : List Char :=
  ((path.toList.splitOn '/').filter fun part => part ≠ [] ∧ part ≠ ['.']).getLastD []

def namedReportUri (reportPrefix : String) (name : List Char) (now : Instant) : Except ProjectionError String := do
  refuseIf (!isRunId name) "report_name_invalid"
  let t ← require (runTime (name.take 16)) "report_name_invalid"
  refuseIf (runName t ≠ name) "report_name_invalid"
  refuseIf (now < t) "report_name_future"
  return String.ofList (trimSlashes reportPrefix ++ '/' :: monthText (monthOf (dayOf t)) ++ '/' :: name)

end Names

section Selection

variable (kit : Kit) (expected : Expected) (now : Instant)

def lift {A : Type} : Except ProjectionError A → Publishing A
  | .ok a => pure a
  | .error e => throw (.refused e)

def contains (text word : String) : Bool := (Text.lower text.toList).tails.any fun rest => word.toList.isPrefixOf rest

def candidate (inMonth line : String) : Except Stop (Option (Instant × String)) :=
  let uri := Text.strip line
  match kit.urlsplit uri with
  | none => .error .raised
  | some url =>
    if !inMonth.toList.isPrefixOf uri.toList || !isRunId (fileName url.path) then .ok none
    else .ok ((runTime ((fileName url.path).take 16)).map fun t => (t, uri))

def candidatesOf (inMonth : String) (l : Listing) : Except Stop (List (Instant × String)) :=
  if l.code ≠ 0 then
    if contains l.stderr "matched no objects" || contains l.stderr "not found" then .ok []
    else .error (.refused ⟨"report_listing_failed", []⟩)
  else if l.long ∨ 2048 < l.lines.length then .error (.refused ⟨"report_listing_failed", []⟩)
  else (l.lines.mapM (candidate kit inMonth)).map (List.filterMap id)

def newerFirst (a b : Instant × String) : Prop := toLex b ≤ toLex a

instance decidableNewerFirst : DecidableRel newerFirst := fun a b => inferInstanceAs (Decidable (toLex b ≤ toLex a))

def askListing (inMonth : String) : Publishing (List (Instant × String)) := do
  match ← Procedure.ask (.listing inMonth) with
  | .listing l => Procedure.raiseFrom (candidatesOf kit inMonth l)
  | _ => throw .raised

def reportCandidates : Publishing (List (Instant × String)) := do
  let month := monthOf (dayOf now)
  let current ← askListing kit (monthPrefix expected.reportPrefix month)
  let before ← askListing kit (monthPrefix expected.reportPrefix (month - 1))
  if current ++ before = [] then throw (.refused ⟨"report_unavailable", []⟩)
  else pure ((current ++ before).eraseDups.insertionSort newerFirst)

def loadGcsReport (uri : String) : Publishing (List (String × Json)) := do
  match ← Procedure.ask (.cat uri) with
  | .stored (.report entries) => pure entries
  | .stored .failed => throw (.refused ⟨"report_read_failed", []⟩)
  | .stored .invalid => throw (.refused ⟨"runtime_report_invalid", []⟩)
  | _ => throw .raised

def isBlank : Option Json → Bool
  | none => true
  | some .null => true
  | some (.text s) => s = ""
  | _ => false

def noErrors : Option Json → Bool
  | none => true
  | some .null => true
  | some (.list xs) => xs.isEmpty
  | _ => false

def showsMarketClosed (report : List (String × Json)) : Bool :=
  Json.text? (report.lookup "status") = some "skipped" &&
    (match Json.dict? (report.lookup "diagnostics") with
      | none => false
      | some diagnostics => Json.text? (diagnostics.lookup "skip_reason") = some "market_closed" &&
        isBlank (diagnostics.lookup "failure_category")) &&
    noErrors (report.lookup "errors") &&
    match report.lookup "summary" with
    | none => true
    | some (.dict summary) => (summary.lookup "account_facts").isNone
    | some _ => false

/-- The part of the check that a refusal ends; `true` stands for all that comes before the projection. -/
def timesHold (uri : String) (name : List Char) (report : List (String × Json)) : Except ProjectionError Bool := do
  let named ← namedReportUri expected.reportPrefix name now
  if named ≠ uri then return false
  else
    let started ← observedTimestamp kit (report.lookup "started_at")
    let finished ← observedTimestamp kit (report.lookup "finished_at")
    return !(finished < started || now + minutes 5 < finished)

def normalMarketClosedWithoutSnapshot (uri : String) (report : List (String × Json)) : Except Stop Bool :=
  if !showsMarketClosed report then .ok false
  else match kit.urlsplit uri with
    | none => .error .raised
    | some url =>
      match timesHold kit expected now uri (fileName url.path) report with
      | .error _ => .ok false
      | .ok false => .ok false
      | .ok true =>
        match projectIbkrAccountFactsHistory kit expected uri (.dict report) with
        | .error e => .ok (e.reason = "account_facts_invalid")
        | .ok _ => .ok false

def scan : List (Instant × String) → Publishing (String × List (String × Json))
  | [] => throw (.refused ⟨"report_unavailable", []⟩)
  | (_, uri) :: rest => do
    let report ← loadGcsReport uri
    let closed ← Procedure.raiseFrom (normalMarketClosedWithoutSnapshot kit expected now uri report)
    if closed then do
      modify (· + 1)
      scan rest
    else pure (uri, report)

def fallBack (latest : String) : Publishing (String × List (String × Json)) := do
  modify fun _ => 1
  let candidates ← reportCandidates kit expected now
  if (candidates.map Prod.snd).head? ≠ some latest then throw (.refused ⟨"report_selection_changed", []⟩)
  else scan kit expected now (candidates.tail.take 63)

def selectAccountFactsReport (reportName : String) : Publishing (String × List (String × Json)) :=
  if reportName ≠ "" then do
    let uri ← lift (namedReportUri expected.reportPrefix reportName.toList now)
    let report ← loadGcsReport uri
    pure (uri, report)
  else do
    let candidates ← reportCandidates kit expected now
    let latest := ((candidates.map Prod.snd).head?).getD ""
    let report ← loadGcsReport latest
    let closed ← Procedure.raiseFrom (normalMarketClosedWithoutSnapshot kit expected now latest report)
    if closed then fallBack kit expected now latest else pure (latest, report)

end Selection

section Publish

structure Settings where
  console : String
  syncUrl : String
  syncToken : String
  includePositions : Bool
  resolveServing : Bool
  reportName : String

variable (kit : Kit) (settings : Settings) (expected : Expected) (now : Instant)

def numericHttpStatus (value : ℕ) : Option ℕ := if 100 ≤ value ∧ value ≤ 599 then some value else none

def outcomeOf (record : Record) : Reply → Outcome
  | .response status body =>
    if status < 200 ∨ 300 ≤ status then .failed "http_response" "http_status" (numericHttpStatus status) "unknown"
    else match body with
      | some (.dict payload) =>
        match Json.isTrue (payload.lookup "ok") && Json.isTrue (payload.lookup "stored"), payload.lookup "unchanged" with
        | true, some (.bool true) => .unchanged
        | true, some (.bool false) =>
          match observedTimestamp kit (payload.lookup "observed_finished_at") with
          | .ok receipt => .published (if receipt = record.observedAt then some receipt else none)
          | .error _ => .published none
        | _, _ => .failed "http_response" "response_invalid" (numericHttpStatus status) "unknown"
      | _ => .failed "http_response" "response_invalid" (numericHttpStatus status) "unknown"
  | .httpError status code => .failed "http_response" "http_error" (status.bind numericHttpStatus) code
  | .timeout => .failed "request" "timeout" none "unknown"
  | .urlError => .failed "request" "url_error" none "unknown"
  | .osError => .failed "request" "transport_error" none "unknown"
  | .other => .failed "unknown" "unknown" none "unknown"

def isStale (observed : Instant) : Bool := observed < now - hours 36 || now + minutes 5 < observed

def post (record : Record) : Publishing Outcome := do
  match ← Procedure.ask (.post (prepareSyncPayload settings.includePositions record.entries)) with
  | .reply r => pure (outcomeOf kit record r)
  | _ => pure (outcomeOf kit record .other)

/-- The receiver's address; it names a user where it has an `@`. -/
def checkEndpoint (endpoint : Url) : Except ProjectionError Unit :=
  refuseIf (Text.strip settings.syncUrl ≠ settings.console ∨ endpoint.scheme ≠ "https" ∨
    some endpoint.netloc ≠ (kit.urlsplit settings.console).map Url.netloc ∨ endpoint.path ≠ "/api/account-facts/sync" ∨
    '@' ∈ endpoint.netloc.toList ∨ endpoint.query ≠ "" ∨ endpoint.fragment ≠ "") "publish_target_invalid"

def prepared (uri : String) (report : List (String × Json)) : Publishing Record := do
  match kit.urlsplit (Text.strip settings.syncUrl) with
  | none => throw .raised
  | some endpoint =>
    lift (checkEndpoint kit settings endpoint)
    lift (refuseIf (Text.strip settings.syncToken = "") "publish_auth_unavailable")
    lift (projectIbkrAccountFactsHistory kit expected uri (.dict report))

def publishIbkrAccountFactsHistory (uri : String) (report : List (String × Json)) : Publishing Outcome := do
  let facts ← lift (require (accountFacts report) "account_facts_invalid")
  let observed ← lift (observedTimestamp kit (facts.lookup "observed_at"))
  if isStale now observed then pure (.stale (now - observed))
  else
    let record ← prepared kit settings expected uri report
    post kit settings record

def askServing : Publishing String := do
  match ← Procedure.ask .servingRevision with
  | .revision r => lift r
  | _ => throw .raised

def confirmServing (revision : String) : Publishing Unit := do
  let again ← askServing
  if again ≠ revision then throw (.refused ⟨"serving_revision_changed", []⟩) else pure ()

/-- The part of `main` that runs with its settings. -/
def run : Publishing Outcome :=
  if settings.resolveServing then
    if settings.reportName ≠ "" then throw (.refused ⟨"serving_revision_named_report_forbidden", []⟩)
    else do
      let revision ← askServing
      let bound := { expected with runtimeRevision := revision }
      let selected ← selectAccountFactsReport kit bound now ""
      confirmServing revision
      publishIbkrAccountFactsHistory kit settings bound now selected.1 selected.2
  else do
    let selected ← selectAccountFactsReport kit expected now settings.reportName
    publishIbkrAccountFactsHistory kit settings expected now selected.1 selected.2

end Publish

end IbkrPlatform.AccountFacts
