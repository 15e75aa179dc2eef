import Mathlib
import IbkrPlatform.Library.OrderedMap
import IbkrPlatform.Library.Procedure

/-! The recovery of a service from a retained image: a new revision, a canary, its promotion, and the way back to the warm revision. -/

namespace IbkrPlatform.WarmRecovery

open Library Procedure

abbrev Labels := OrderedMap String String

structure Condition where
  kind : Option String
  status : Option String
deriving DecidableEq

structure Probe where
  path : Option String
  port : Option ℤ
  tcpSocket : Bool
  grpc : Bool
deriving DecidableEq

/-- A container; here and below `others` is the rest of the JSON object. -/
structure Container where
  name : Option String
  image : String
  startupProbe : Probe
  env : List (String × Option String)
  others : String
deriving DecidableEq

structure PodSpec where
  containers : List Container
  others : String
deriving DecidableEq

structure Revision where
  name : String
  uid : Option String
  generation : Option ℤ
  labels : Option Labels
  annotations : Option Labels
  metadata : String
  spec : PodSpec
  imageDigest : Option String
  observedGeneration : Option ℤ
  conditions : List Condition
deriving DecidableEq

structure Template where
  name : Option String
  labels : Option Labels
  annotations : Option Labels
  spec : PodSpec
  others : String
deriving DecidableEq

structure Target where
  revisionName : Option String
  percent : Option ℤ
  others : Option String
deriving DecidableEq

def Target.of (row : String × ℤ) : Target := ⟨some row.1, some row.2, none⟩

structure Spec where
  template : Template
  traffic : List Target
  others : String
deriving DecidableEq

structure Row where
  revisionName : Option String
  percent : Option ℤ
deriving DecidableEq

structure Content where
  name : String
  namespaceName : String
  uid : String
  generation : ℤ
  labels : Option Labels
  annotations : Option Labels
  spec : Spec
  observedGeneration : Option ℤ
  traffic : List Row
  latestCreated : Option String
  others : String
deriving DecidableEq

structure Service extends Content where
  version : ℕ
deriving DecidableEq

structure Minimum where
  name : String
  uid : String
  serviceMinimum : ℤ
  templateMinimum : ℤ

structure Body where
  name : String
  namespaceName : String
  version : ℕ
  labels : Option Labels
  annotations : Labels
  spec : Spec
deriving DecidableEq

structure Card where
  project : String
  region : String
  service : String
  replacement : String
  requestId : String
  scope : String
  restoreWarmOnFailure : Bool
  sourceCommit : String
  imageDigest : String
  expires : ℚ
  protectedEnvironment : String
  authority : String
  warm : Revision
  snapshot : Service

inductive Status
  | started
  | createIntent
  | activateIntent
  | promoteIntent
  | succeeded
  | failed
  | failedWarmRestored
  | failedRestoreUnconfirmed
  | failedMinimumReadbackUnavailable
deriving DecidableEq

inductive Ask
  | service (timeout : ℚ)
  | revision (name : String) (timeout : ℚ)
  | minimum
  | absent (name : String)
  | put (body : Body)
  | claim
  | record (status : Status) (minima : List String)
  | now
  | clock
  | sleep (seconds : ℚ)
  | signal

inductive Answer
  | raised
  | service (value : Service)
  | revision (value : Revision)
  | minimum (value : Minimum)
  | absent (value : Bool)
  | time (value : ℚ)
  | done

inductive Stop | raised | spent
deriving DecidableEq

structure Memory where
  expected : Option Service
  replacement : Option Revision
  activated : Bool
  minima : List String
  pending : Option (Service × Spec)

def Memory.start : Memory := ⟨none, none, false, [], none⟩

def outputAnnotations : List String :=
  ["run.googleapis.com/operation-id", "run.googleapis.com/urls", "run.googleapis.com/ingress-status",
    "serving.knative.dev/creator", "serving.knative.dev/lastModifier"]

/-- `service_meta(value, 'annotations')`. -/
def Content.keptAnnotations (c : Content) : Labels := (c.annotations.getD .empty).restrict (· ∉ outputAnnotations)

def Content.sameMeta (c d : Content) : Bool :=
  c.name = d.name ∧ c.namespaceName = d.namespaceName ∧ c.labels = d.labels ∧ c.keptAnnotations = d.keptAnnotations

def sorted (distribution : List (String × ℤ)) : List (String × ℤ) :=
  distribution.insertionSort fun a b => a.1 < b.1 ∨ a.1 = b.1 ∧ a.2 ≤ b.2

/-- The traffic that a service observes; `none` where `active` raises. -/
def Content.active (c : Content) : Option (List (String × ℤ)) :=
  if c.traffic = [] ∨ (c.traffic.any fun row => row.percent.getD 0 < 0 ∨ row.revisionName.getD "" = "") ∨
      (c.traffic.map fun row => row.percent.getD 0).sum ≠ 100 then none
  else some (sorted ((c.traffic.filter fun row => 0 < row.percent.getD 0).map fun row =>
    (row.revisionName.getD "", row.percent.getD 0)))

def templateMatchesRevision (template revision : PodSpec) : Bool :=
  template = revision || match template.containers, revision.containers with
    | [container], [observed] => container.name = none ∧ observed.name.getD "" ≠ "" ∧
        template = { revision with containers := [{ observed with name := none }] }
    | _, _ => false

def Revision.minimumScale (r : Revision) : String :=
  ((r.annotations.getD .empty).get? "autoscaling.knative.dev/minScale").getD "0"

def Revision.fingerprint (r : Revision) : Revision := { r with observedGeneration := none, conditions := [] }

/-- `split('@')[-1]`. -/
def digestOf (image : String) : String := String.ofList (image.toList.reverse.takeWhile (· ≠ '@')).reverse

def Revision.digest (r : Revision) : Option String := r.imageDigest.map digestOf

inductive Health | healthy | pending | refused
deriving DecidableEq

def Revision.statuses (r : Revision) (kind : String) : List (Option String) :=
  (r.conditions.filter (·.kind = some kind)).map (·.status)

def Container.value (c : Container) (name : String) : Option String :=
  ((c.env.reverse.lookup name).join).filter (· ≠ "")

def verifyTrafficRevision (continuity : String → Bool) (commit : String) (r : Revision) : Health :=
  let critical := r.conditions.filter fun c => c.kind = some "Ready" ∨ c.kind = some "ContainerHealthy" ∨ c.kind = some "ContainerReady"
  if (r.labels.getD .empty).get? "commit-sha" ≠ some commit then .refused
  else if ¬ (critical.map (·.kind)).Nodup ∨ critical.any (·.status = some "False") then .refused
  else match r.spec.containers with
    | [] => .refused
    | container :: _ =>
      if (r.statuses "Ready").getLast? ≠ some (some "True") ∨ (r.statuses "ContainerHealthy").getLast? ≠ some (some "True") then
        .pending
      else if container.startupProbe ≠ ⟨some "/health", some 8080, false, false⟩ then .refused
      else match (container.value "RUNTIME_TARGET_JSON").or (container.value "QSL_RUNTIME_TARGET_JSON") with
        | none => .refused
        | some target => if continuity target then .healthy else .refused

def healthy (continuity : String → Bool) (commit : String) (r : Revision) : Health :=
  match verifyTrafficRevision continuity commit r with
  | .healthy =>
    if r.uid.getD "" ≠ "" ∧ (r.generation.any fun generation => 0 < generation ∧ r.observedGeneration = some generation) ∧
        (["Ready", "Active", "ContainerReady", "ContainerHealthy"].all fun kind => r.statuses kind = [some "True"]) then .healthy
    else .refused
  | health => health

section Card

variable (card : Card)

def Card.path : String := "projects/" ++ card.project ++ "/locations/" ++ card.region ++ "/services/" ++ card.service

def Card.warmOnly : List (String × ℤ) := [(card.warm.name, 100)]

def Card.canary : List (String × ℤ) := [(card.warm.name, 99), (card.replacement, 1)]

def Card.promoted : List (String × ℤ) := [(card.replacement, 100)]

def Spec.withTraffic (spec : Spec) (distribution : List (String × ℤ)) : Spec :=
  { spec with traffic := distribution.map Target.of }

/-- The specification that creates the replacement; `none` where `execute` refuses to build it. -/
def Card.replacementSpec (spec : Spec) : Option Spec :=
  match spec.template.spec.containers with
  | [container] =>
    let image := container.image.toList.takeWhile (· ≠ '@')
    if templateMatchesRevision spec.template.spec card.warm.spec ∧ ':' ∉ image.reverse.takeWhile (· ≠ '/') ∧ '/' ∈ image ∧
        (spec.template.labels.getD .empty).get? "commit-sha" = some card.sourceCommit then
      some { spec with template := { spec.template with
        name := some card.replacement
        annotations := some ((spec.template.annotations.getD .empty).insert "autoscaling.knative.dev/minScale" "0")
        spec := { spec.template.spec with
          containers := [{ container with image := String.ofList image ++ "@" ++ card.imageDigest }] } } }
    else none
  | _ => none

def isName (text : List Char) : Bool := text ≠ [] ∧ text.head? ≠ some '-' ∧
  text.all fun c => c ∈ '-' :: "abcdefghijklmnopqrstuvwxyz0123456789".toList

def isHex (length : ℕ) (text : List Char) : Bool := text.length = length ∧ text.all (· ∈ "0123456789abcdef".toList)

def Card.admitted : Bool :=
  ([card.project, card.region, card.service, card.replacement].all fun text => isName text.toList) ∧
    card.scope = "s3-only" ∧ card.restoreWarmOnFailure ∧ isHex 40 card.sourceCommit.toList ∧
    "sha256:".toList <+: card.imageDigest.toList ∧ isHex 64 (card.imageDigest.toList.drop 7) ∧
    isName card.requestId.toList ∧ card.requestId.length ≤ 31 ∧
    card.replacement = card.service ++ "-rec-" ++ card.requestId ∧ card.replacement.length ≤ 63 ∧
    card.protectedEnvironment ≠ "" ∧ card.authority ≠ "" ∧
    (card.service ++ "-").toList <+: card.warm.name.toList ∧ card.warm.name ≠ card.replacement

end Card

abbrev Recovery := Procedure Ask Answer Memory Stop

def require (test : Bool) : Recovery Unit := if test then pure () else throw .raised

def demand {A : Type} : Option A → Recovery A
  | some a => pure a
  | none => throw .raised

def readService (timeout : ℚ) : Recovery Service := do
  match ← ask (.service timeout) with
  | .service value => pure value
  | _ => throw .raised

def readRevision (name : String) (timeout : ℚ) : Recovery Revision := do
  match ← ask (.revision name timeout) with
  | .revision value => pure value
  | _ => throw .raised

def readMinimum : Recovery Minimum := do
  match ← ask .minimum with
  | .minimum value => pure value
  | _ => throw .raised

def readAbsent (name : String) : Recovery Bool := do
  match ← ask (.absent name) with
  | .absent value => pure value
  | _ => throw .raised

def readTime (q : Ask) : Recovery ℚ := do
  match ← ask q with
  | .time value => pure value
  | _ => throw .raised

def finish (q : Ask) : Recovery Unit := do
  match ← ask q with
  | .raised => throw .raised
  | _ => pure ()

section Code

variable (continuity : String → Bool) (card : Card)

def valid : Recovery Unit := do
  let now ← readTime .now
  require (now < card.expires)

def before (deadline : ℚ) : Recovery Unit := do
  let now ← readTime .clock
  require (now < deadline)

/-- `min(30, deadline - self.clock())`. -/
def timeLeft (deadline : ℚ) : Recovery ℚ := do
  let now ← readTime .clock
  pure (min 30 (deadline - now))

def record (status : Status) : Recovery Unit := do
  let m ← get
  finish (.record status m.minima)

def failureRecord (status : Status) : Recovery Unit := tryCatch (record status) fun _ => pure ()

def Revision.provisioned (r : Revision) : String :=
  match r.statuses "MinInstancesProvisioned" with
  | [some status] => if status ∈ ["True", "False", "Unknown"] then status else "Unknown"
  | _ => "Unknown"

def minimum : Recovery Unit := do
  let value ← readMinimum
  require (value.name = card.path ∧ value.uid = card.snapshot.uid)
  require (value.serviceMinimum = 0 ∧ value.templateMinimum = 0)
  let warm ← readRevision card.warm.name 30
  require (warm.fingerprint = card.warm.fingerprint)
  modify fun m => { m with minima := m.minima ++ [warm.provisioned] }

def stable (distribution : List (String × ℤ)) (timeout : ℚ) : Recovery Service := do
  let value ← readService timeout
  let m ← get
  let expected ← demand m.expected
  require (value.uid = card.snapshot.uid ∧ value.spec = expected.spec ∧ value.active = some (sorted distribution))
  require (value.sameMeta expected.toContent ∧ value.generation = expected.generation)
  require (value.observedGeneration = some value.generation)
  pure value

def requireHealthy (value : Revision) : Recovery Unit :=
  require (healthy continuity card.sourceCommit value = .healthy)

def checkWarm (requireHealth : Bool) : Recovery Unit := do
  let value ← readRevision card.warm.name 30
  require (value.fingerprint = card.warm.fingerprint)
  require (value.minimumScale = "1")
  require (value.digest = some card.imageDigest)
  if requireHealth then requireHealthy continuity card value

def Card.fits (template : Template) (value : Revision) : Bool :=
  value.name = card.replacement ∧ value.minimumScale = "0" ∧ templateMatchesRevision template.spec value.spec ∧
    ((template.labels.getD .empty).entries.all fun item => (value.labels.getD .empty).get? item.1 = some item.2) ∧
    ((template.annotations.getD .empty).entries.all fun item => (value.annotations.getD .empty).get? item.1 = some item.2) ∧
    value.digest = some card.imageDigest ∧ value.uid.getD "" ≠ "" ∧ value.generation.getD 0 ≠ 0

def checkReplacement (timeout : ℚ) : Recovery Revision := do
  let value ← readRevision card.replacement timeout
  let m ← get
  let expected ← demand m.expected
  require (card.fits expected.spec.template value)
  require (m.replacement.all fun replacement => value.fingerprint = replacement.fingerprint)
  pure value

def Service.body (current : Service) (spec : Spec) : Body :=
  ⟨current.name, current.namespaceName, current.version, current.labels, current.keptAnnotations, spec⟩

def put (current : Service) (spec : Spec) : Recovery Unit := do
  modify fun m => { m with pending := some (current, spec) }
  finish (.put (current.body spec))

/-- The loop of `settle`, for as many turns as it is given. -/
def settleLoop (spec : Spec) (distribution : List (String × ℤ)) (fenceVersion : Option ℕ) (deadline : ℚ) : ℕ → Recovery Unit
  | 0 => throw .spent
  | turns + 1 => do
    let now ← readTime .clock
    require (0 < deadline - now)
    let value ← readService (min 30 (deadline - now))
    before deadline
    let m ← get
    let expected ← demand m.expected
    require (value.uid = card.snapshot.uid ∧ value.spec = spec)
    require (value.generation = expected.generation + 1 ∨ fenceVersion.isSome ∧ value.generation = expected.generation)
    require (value.sameMeta expected.toContent)
    let traffic ← demand value.active
    if traffic = sorted distribution ∧ value.observedGeneration = some value.generation ∧ fenceVersion ≠ some value.version then
      modify fun m => { m with expected := some value }
      -- a signal can come between the two assignments
      finish .signal
      modify fun m => { m with pending := none }
    else
      before deadline
      finish (.sleep 1)
      settleLoop spec distribution fenceVersion deadline turns

def settle (turns : ℕ) (spec : Spec) (distribution : List (String × ℤ)) (fenceVersion : Option ℕ) : Recovery Unit := do
  let now ← readTime .clock
  settleLoop card spec distribution fenceVersion (now + 60) turns

/-- What `shift` checks of the replacement where it is given a deadline. -/
def checkBefore : Option ℚ → Recovery Unit
  | none => pure ()
  | some deadline => do
    before deadline
    let timeout ← timeLeft deadline
    let value ← checkReplacement card timeout
    requireHealthy continuity card value
    before deadline

def shift (turns : ℕ) (distribution : List (String × ℤ)) (deadline : Option ℚ) : Recovery Unit := do
  valid card
  let m ← get
  let expected ← demand m.expected
  let previous ← demand expected.active
  let current ← stable card previous 30
  checkWarm continuity card true
  checkBefore continuity card deadline
  valid card
  put current (current.spec.withTraffic distribution)
  settle card turns (current.spec.withTraffic distribution) distribution none

def Memory.owns (m : Memory) (expected current : Service) : Bool :=
  match m.pending with
  | none => current.generation = expected.generation ∧ current.spec = expected.spec
  | some (before, spec) => current.generation = before.generation ∧ current.spec = before.spec ∨
      current.generation = before.generation + 1 ∧ current.spec = spec

def rollback (turns : ℕ) : Recovery Unit := do
  checkWarm continuity card false
  let current ← readService 30
  let m ← get
  let expected ← demand m.expected
  require (current.uid = card.snapshot.uid ∧ current.sameMeta expected.toContent)
  require (m.owns expected current)
  let traffic ← demand current.active
  require (traffic ∈ [card.warmOnly, sorted card.canary, card.promoted])
  if m.pending.isNone ∧ traffic = card.warmOnly ∧ current.spec.traffic = card.warmOnly.map Target.of then
    modify fun m => { m with expected := some current }
  else
    modify fun m => { m with expected := some current }
    put current (current.spec.withTraffic card.warmOnly)
    settle card turns (current.spec.withTraffic card.warmOnly) card.warmOnly (some current.version)

/-- `execute` up to the creation of the replacement. -/
def create (turns : ℕ) : Recovery Unit := do
  valid card
  let before ← readService 30
  require (before = card.snapshot)
  require (before.uid ≠ "" ∧ before.active = some card.warmOnly ∧ before.spec.traffic = card.warmOnly.map Target.of)
  require (((before.spec.template.annotations.getD .empty).get? "autoscaling.knative.dev/minScale").getD "0" = "0")
  modify fun m => { m with expected := some before }
  minimum card
  checkWarm continuity card true
  finish (.sleep 5)
  checkWarm continuity card true
  let current ← stable card card.warmOnly 30
  valid card
  let spec ← demand (card.replacementSpec current.spec)
  let absent ← readAbsent card.replacement
  require absent
  valid card
  record .createIntent
  put current spec
  settle card turns spec card.warmOnly none
  let m ← get
  let expected ← demand m.expected
  require (expected.latestCreated = some card.replacement)
  let value ← checkReplacement card 30
  modify fun m => { m with replacement := some value }

def countHealthy : Health → ℕ → Recovery ℕ
  | .healthy, count => pure (count + 1)
  | .pending, _ => pure 0
  | .refused, _ => throw .raised

/-- The loop of `execute` that waits for two healthy observations in a row. -/
def observe (deadline : ℚ) : ℕ → ℕ → Recovery Unit
  | 0, _ => throw .spent
  | turns + 1, count => do
    valid card
    before deadline
    let timeout ← timeLeft deadline
    let _ ← stable card card.canary timeout
    before deadline
    let timeout ← timeLeft deadline
    let value ← checkReplacement card timeout
    let count ← countHealthy (healthy continuity card.sourceCommit value) count
    before deadline
    if count = 2 then pure ()
    else
      let now ← readTime .clock
      finish (.sleep (min 5 (deadline - now)))
      observe deadline turns count

def forward (turns : ℕ) : Recovery Unit := do
  create continuity card turns
  record .activateIntent
  modify fun m => { m with activated := true }
  shift continuity card turns card.canary none
  let now ← readTime .clock
  observe continuity card (now + 300) turns 0
  record .promoteIntent
  shift continuity card turns card.promoted (some (now + 300))
  let value ← checkReplacement card 30
  requireHealthy continuity card value
  minimum card
  record .succeeded

/-- What `execute` does with an exception. -/
def recoverFailure (turns : ℕ) : Recovery Unit := do
  failureRecord .failed
  let m ← get
  if m.activated then
    let outcome ← tryCatch (do
        rollback continuity card turns
        minimum card
        pure Status.failedWarmRestored) fun
      | .spent => throw .spent
      | .raised => pure .failedRestoreUnconfirmed
    failureRecord outcome
  else if m.expected.isSome then
    tryCatch (do
        minimum card
        failureRecord .failed) fun
      | .spent => throw .spent
      | .raised => failureRecord .failedMinimumReadbackUnavailable

def execute (turns : ℕ) : Recovery Unit := do
  require card.admitted
  valid card
  finish .claim
  record .started
  tryCatch (forward continuity card turns) fun
    | .spent => throw .spent
    | .raised => do
      recoverFailure continuity card turns
      throw .raised

end Code

end IbkrPlatform.WarmRecovery
