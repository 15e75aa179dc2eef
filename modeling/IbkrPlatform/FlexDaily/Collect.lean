import IbkrPlatform.FlexDaily.Coverage
import IbkrPlatform.Library.EarlyExit

/-! The bounded collector in forward mode, from the lease it holds to the state it leaves. -/

namespace IbkrPlatform.FlexDaily.Collect

open Library Calendar Forward Coverage

structure SourceError where
  providerErrorCode : Option String
  sourceFailureKind : Option String

inductive ScopeFault
  | source (error : SourceError)
  | scope

inductive Fetched (Content : Type)
  | content (content : Content)
  | pending
  | sourceError (error : SourceError)
  | valueError
  | timeout

/-- What the collector calls: the checks of a report's text, and the standard library. -/
structure Env (Content : Type) where
  readers : Readers
  newYork : Zone
  boundary : Instant
  sha256 : Content → String
  requireAccountScope : Content → Except ScopeFault (List Statement)
  inspectReport : Content → Day → Day → Option (String → Checked)
  compareMonth : Content → List Content → Option Bool

inductive Persist | stored | refused | interrupted
deriving DecidableEq

/-- What the run meets in one window; an exception that `collect` does not handle escapes before the
raw report is stored, or later. -/
structure Observation (Content : Type) where
  timeLeft : Bool
  reset : Persist
  escapes : Bool
  escapesLater : Bool
  captureStart : Instant
  fetched : Fetched Content
  captureEnd : Instant
  monthTimeLeft : Bool
  finishedAt : Instant
  close : Persist

structure Collector (Content : Type) where
  state : State
  persisted : State
  raws : List (String × Content)
  transientStreak : ℕ

def isDigits (text : String) : Bool := text ≠ "" ∧ text.toList.all Char.isDigit

def validLabel (label : String) : Bool :=
  label.startsWith "account-" ∧ isDigits (String.ofList (label.toList.drop 8))

/-- What `collect` refuses before it takes the lease. -/
def configurationFault (config : Config) : Option String :=
  match validateConfig config with
  | some fault => some fault
  | none =>
    if config.ipRestriction ≠ some "none" then some "ip_restriction_unconfirmed_or_present"
    else if config.labels = [] ∨ ¬ config.labels.Nodup ∨ ∃ label ∈ config.labels, !validLabel label then
      some "invalid_account_labels"
    else if config.schema ≠ some 1 ∨ !isDigits config.queryId then some "invalid_configuration"
    else none

/-- How a window ends the loop: by `break`, or by an exception that leaves `collect`. -/
inductive Exit | leave | abort
deriving DecidableEq

def blocking : List String := ["1010", "1011", "1012", "1013", "1014", "1015", "1016", "1020"]

def transient : List String := ["1001", "1018"]

def maxConsecutiveTransient : ℕ := 3

section State

variable (state : State)

def slotOf : Window → Slot
  | .daily day => (state.days.get? day).getD Slot.empty
  | .month m checkpoint => (state.months.get? (toLex (m, checkpoint))).getD Slot.empty

def setSlot (slot : Slot) : Window → State
  | .daily day => { state with days := state.days.insert day slot }
  | .month m checkpoint => { state with months := state.months.insert (toLex (m, checkpoint)) slot }

def withdrawDay (slot : Slot) : Slot :=
  { slot with
    validatedAt := none
    forward := none
    accounts := slot.accounts.map fun item =>
      (item.1, { item.2 with status := .pending, issues := ["previous_anchor_revised"] }) }

def withdrawMonth (slot : Slot) : Slot := { slot with done := false, validatedAt := none }

def invalidateFollowing (start : Day) : State :=
  { state with
    days := state.days.mapValues fun day slot =>
      if start < day ∧ inScope state day then withdrawDay slot else slot
    months := state.months.mapValues fun key slot =>
      if forwardStart ≤ firstDay (ofLex key).1 then withdrawMonth slot else slot }

def slotAnchor (slot : Slot) (label : String) : Option Evidence :=
  ((slot.forward.getD []).lookup label).filter fun ev => ev.anchorQualified

def previousAnchor (start : Day) (label : String) : Option Evidence :=
  state.days.last? (fun day => forwardStart ≤ day ∧ day < start) fun slot => slotAnchor slot label

def resetSlot (labels : List String) (slot : Slot) : Window → Slot
  | .daily _ => { slot with
      validatedAt := none
      forward := none
      accounts := labels.map fun label => (label, ⟨.missing, ["validation_pending"], true, none⟩) }
  | .month _ _ => { slot with validatedAt := none, forward := none, done := false }

def addRun (f : LastRun → LastRun) : State := { state with lastRun := f state.lastRun }

end State

def finishItem (value : Checked) (ev : Option Evidence) : Item where
  issues := match ev with
    | some ev => if ev.issues = [] then value.issues
      else (value.issues ++ ev.issues).dedup.insertionSort (· ≤ ·)
    | none => value.issues
  status := if value.status = .complete ∧
      ((∀ e ∈ ev, e.issues ≠ []) ∨ value.reconciliation = .difference) then .received else value.status
  forwardChecked := true
  reconciliation := some value.reconciliation

section Window

variable {Content : Type} (config : Config) (o : Observation Content) (w : Window) (oldRaw : Option String)

def persist (outcome : Persist) (c : Collector Content) : Collector Content × Bool :=
  match outcome with
  | .stored => ({ c with persisted := c.state }, true)
  | .refused => (c, false)
  | .interrupted => ({ c with persisted := c.state }, false)

def close (c : Collector Content) (exit : Option Exit) : Collector Content × Option Exit :=
  ((persist o.close c).1, if (persist o.close c).2 then exit else some .abort)

def fail (reason : String) (c : Collector Content) : Collector Content :=
  let state := if oldRaw.isSome ∧ (slotOf c.state w).forward.getD [] = [] then
      invalidateFollowing c.state w.start else c.state
  let state := setSlot state (failed (slotOf state w) o.finishedAt reason) w
  { c with state := addRun state fun run => { run with windowsFailed := run.windowsFailed + 1 } }

def sourceFailure (error : SourceError) (c : Collector Content) : Collector Content × Option Exit :=
  let code := error.providerErrorCode.getD "transport_or_format"
  let c := fail o w oldRaw code c
  let state := if error.providerErrorCode.isSome then
      addRun c.state fun run => { run with lastProviderErrorCode := error.providerErrorCode } else c.state
  let state := if code ∈ blocking then
      { state with blocked := some (if code = "1013" then "ip_restricted" else "authorization_or_configuration") }
    else state
  let streak := if code ∈ transient then c.transientStreak + 1 else 0
  let stop := code ∈ blocking ∨ maxConsecutiveTransient ≤ streak ∨
    code ∉ transient ∧ (error.sourceFailureKind = some "http" ∨ error.sourceFailureKind = some "transport")
  close o { c with state := state, transientStreak := streak } (if stop then some .leave else none)

def conclude (ok : Bool) (c : Collector Content) : Collector Content × Option Exit :=
  if ok then
    let slot := { slotOf c.state w with attempts := 0, nextAttemptAt := none, validatedAt := some o.finishedAt }
    let state := addRun (setSlot c.state slot w) fun run => { run with windowsSucceeded := run.windowsSucceeded + 1 }
    close o { c with state := state } none
  else close o (fail o w oldRaw "incomplete_report_or_daily_control" c) none

def dailySlots (state : State) : List (Day × Slot) :=
  state.days.entries.filter fun e => w.start ≤ e.1 ∧ e.1 ≤ w.stop

def eligible (state : State) : Bool :=
  ((dailySlots w state).length : ℤ) = w.stop - w.start + 1 ∧ ∀ e ∈ dailySlots w state,
    e.2.raw.isSome ∧ ∀ item ∈ e.2.accounts, item.2.forwardChecked ∧ item.2.status = .complete

def reopenDay (slot : Slot) : Slot :=
  { slot with
    accounts := slot.accounts.map fun item => (item.1, { item.2 with status := .pending })
    validatedAt := none }

def reopenDays (state : State) : State :=
  { state with days := state.days.mapValues fun day slot =>
      if w.start ≤ day ∧ day ≤ w.stop then reopenDay slot else slot }

/-- The monthly control against the daily reports; `none` is a `ValueError` of `compare_month`. -/
def controlMonth (env : Env Content) (content : Content) (schemaComplete : Bool) (c : Collector Content) :
    Option State :=
  let payloads := (dailySlots w c.state).map fun e => e.2.raw.bind fun key => c.raws.lookup key
  if eligible w c.state ∧ o.monthTimeLeft ∧ payloads.all Option.isSome then
    (env.compareMonth content (payloads.filterMap id)).map fun same =>
      let state := setSlot c.state { slotOf c.state w with done := same && schemaComplete } w
      if same then state else reopenDays w state
  else some (setSlot c.state { slotOf c.state w with done := false } w)

def immutable [DecidableEq Content] (raws : List (String × Content)) (key : String) (body : Content) :
    Option (List (String × Content)) :=
  match raws.lookup key with
  | none => some ((key, body) :: raws)
  | some existing => if existing = body then some raws else none

def rawKey (env : Env Content) (content : Content) : String := "raw/" ++ env.sha256 content ++ ".xml"

def putEvidence (key : String) (evidence : List (String × Evidence)) (state : State) : State :=
  let state := setSlot state { slotOf state w with forward := some evidence } w
  if oldRaw.isSome ∧ oldRaw ≠ some key then invalidateFollowing state w.start else state

def itemsOf (checked : String → Checked) (evidence : List (String × Evidence)) : List (String × Item) :=
  config.labels.map fun label => (label, finishItem (checked label) (evidence.lookup label))

def store (env : Env Content) (content : Content) (checked : String → Checked)
    (evidence : List (String × Evidence)) (c : Collector Content) : Collector Content × Option Exit :=
  let key := rawKey env content
  let state := putEvidence w oldRaw key evidence c.state
  let items := itemsOf config checked evidence
  let schemaComplete := items.all fun item => item.2.status = .complete
  match w with
  | .daily _ =>
    conclude o w oldRaw schemaComplete
      { c with state := setSlot state { slotOf state w with raw := some key, accounts := items } w }
  | .month _ _ =>
    let c := { c with state := setSlot state { slotOf state w with raw := some key } w }
    match controlMonth o w env content schemaComplete c with
    | none => close o (fail o w oldRaw "report_validation_failed" c) none
    | some state => conclude o w oldRaw (schemaComplete ∧ (slotOf state w).done) { c with state := state }

def receive [DecidableEq Content] (env : Env Content) (content : Content) (c : Collector Content) :
    Collector Content × Option Exit :=
  let c := { c with
    state := addRun c.state fun run => { run with reportsFetched := run.reportsFetched + 1 }, transientStreak := 0 }
  match env.requireAccountScope content with
  | .error (.source error) => sourceFailure o w oldRaw error c
  | .error .scope =>
    let c := fail o w oldRaw "account_scope_mismatch" c
    close o { c with state := { c.state with blocked := some "account_scope" } } (some .leave)
  | .ok statements =>
    match immutable c.raws (rawKey env content) content with
    | none => (c, some .abort)
    | some raws =>
      if o.escapesLater then ({ c with raws := raws }, some .abort)
      else match env.inspectReport content w.start w.stop with
      | none => close o (fail o w oldRaw "report_validation_failed" { c with raws := raws }) none
      | some checked =>
        match qualify env.readers config env.boundary (env.sha256 content) statements checked
            (previousAnchor c.state w.start) o.captureStart o.captureEnd with
        | none => ({ c with raws := raws }, some .abort)
        | some evidence => store config o w oldRaw env content checked evidence { c with raws := raws }

def attempt [DecidableEq Content] (env : Env Content) (c : Collector Content) : Collector Content × Option Exit :=
  match o.fetched with
  | .content content => receive config o w oldRaw env content c
  | .pending => close o { fail o w oldRaw "pending" c with transientStreak := 0 } none
  | .sourceError error => sourceFailure o w oldRaw error c
  | .valueError => close o (fail o w oldRaw "report_validation_failed" c) none
  | .timeout => (c, some .leave)

end Window

variable {Content : Type} [DecidableEq Content]

def collectWindow (env : Env Content) (config : Config) (observe : Window → Observation Content)
    (c : Collector Content) (w : Window) : Collector Content × Option Exit :=
  let o := observe w
  if !o.timeLeft then (c, some .leave)
  else
    let old := slotOf c.state w
    let opened := { c with state := setSlot c.state (resetSlot config.labels old w) w }
    let reset := persist o.reset opened
    if !reset.2 ∨ o.escapes then (reset.1, some .abort)
    else attempt config o w old.raw env reset.1

inductive Validation | notDue | validated | unreconciled
deriving DecidableEq

def upheld (state : State) (w : Window) : Bool :=
  match w with
  | .daily _ => (slotOf state w).validatedAt.isSome && complete (slotOf state w)
  | .month _ _ => (slotOf state w).validatedAt.isSome && (slotOf state w).done

def forwardValidation (target : Day) (queue : List Window) (state : State) : Validation :=
  let run := state.lastRun
  if target < forwardStart then .notDue
  else if 0 < run.windowsPlanned ∧ run.windowsSucceeded = run.windowsPlanned ∧ run.windowsFailed = 0 ∧
      ∀ w ∈ queue, upheld state w then .validated
  else .unreconciled

structure RunObservation (Content : Type) where
  started : Instant
  first : Persist
  window : Window → Observation Content
  last : Persist

/-- What a run leaves in the bucket, and what it returns unless an exception leaves it. -/
structure Outcome (Content : Type) where
  persisted : State
  raws : List (String × Content)
  queue : List Window
  returned : Option Validation

def plan (env : Env Content) (config : Config) (started : Instant) (state : State) : State × List Window :=
  let target := targetDay env.newYork started
  let state := seed { state with forwardTarget := some target, lastRun := .zero } target config.labels
  let queue := windows state target started
  (addRun state fun run => { run with windowsPlanned := queue.length }, queue)

def collect (env : Env Content) (config : Config) (o : RunObservation Content) (persisted : State)
    (raws : List (String × Content)) : Outcome Content :=
  let target := targetDay env.newYork o.started
  let finish (queue : List Window) (outcome : Persist) (c : Collector Content) : Outcome Content :=
    let closed := persist outcome c
    ⟨closed.1.persisted, closed.1.raws, queue,
      if closed.2 then some (forwardValidation target queue c.state) else none⟩
  if (configurationFault config).isSome then ⟨persisted, raws, [], none⟩
  else if persisted.blocked.isSome then
    finish [] o.first ⟨{ persisted with lastRun := .zero }, persisted, raws, 0⟩
  else
    let planned := plan env config o.started persisted
    let opened := persist o.first ⟨planned.1, persisted, raws, 0⟩
    if !opened.2 then ⟨opened.1.persisted, raws, planned.2, none⟩
    else
      let looped := EarlyExit.loop (collectWindow env config o.window) opened.1 planned.2
      if looped.2 = some .abort then ⟨looped.1.persisted, looped.1.raws, planned.2, none⟩
      else finish planned.2 o.last looped.1

def collectInto (env : Env Content) (config : Config) (b : State × List (String × Content))
    (o : RunObservation Content) : State × List (String × Content) :=
  ((collect env config o b.1 b.2).persisted, (collect env config o b.1 b.2).raws)

def bucket (env : Env Content) (config : Config) (runs : List (RunObservation Content)) :
    State × List (String × Content) :=
  runs.foldl (collectInto env config) (State.empty, [])

end IbkrPlatform.FlexDaily.Collect
