import Mathlib
import IbkrPlatform.Library.Procedure
import IbkrPlatform.Library.Text

/-! The connection to the gateway: its attempts, the check of the accounts, and the probe of the trading permissions. -/

namespace IbkrPlatform.Gateway

open Library Procedure

/-- The exceptions, as they are told apart here. -/
inductive Kind
  | gatewayUnavailable | connection | timeout | os | permission | other
  deriving DecidableEq

/-- An exception with the name of its class and its text. -/
structure Exc where
  kind : Kind
  name : String
  message : String
  deriving DecidableEq

/-- `ConnectionError`, `TimeoutError` or `OSError`. -/
def Exc.isOs (e : Exc) : Bool := e.kind ≠ .permission && e.kind ≠ .other

def runtimeError (message : String) : Exc := ⟨.other, "RuntimeError", message⟩

def permissionError (message : String) : Exc := ⟨.permission, "IBKRTradingPermissionError", message⟩

structure Options where
  raiseRequestErrors : Bool
  requestTimeout : ℤ
  handlers : ℕ
  deriving DecidableEq

structure Client where
  options : Options
  managedAccounts : Bool
  disconnects : Bool
  errorEvent : Bool
  deriving DecidableEq

inductive Probed
  | raised (e : Exc)
  | nothing
  | response (warningText : String)
  deriving DecidableEq

inductive Ask
  | ensureEventLoop
  | hostResolver
  | refreshHost
  | printer (line : String)
  | sleep (seconds : ℚ)
  | connect (host : String) (port clientId timeout : ℤ) (readonly : Bool)
  | managedAccounts (ib : Client)
  | probe (ib : Client) (options : Options)
  | disconnect (ib : Client)
  deriving DecidableEq

inductive Answer
  | done
  | host (name : String)
  | client (ib : Client)
  | accounts (ids : List String)
  | probed (errors : List String) (result : Probed)
  | raised (e : Exc)
  deriving DecidableEq

def Answer.fault : Answer → Exc
  | .raised e => e
  | _ => ⟨.other, "TypeError", ""⟩

def Answer.error? : Answer → Option Exc
  | .raised e => some e
  | .probed _ (.raised e) => some e
  | _ => none

abbrev Connecting := Procedure Ask Answer Options Exc

def call (q : Ask) : Connecting Unit := do
  match ← ask q with
  | .done => return
  | r => throw r.fault

structure Adapters where
  ibPort : ℤ
  ibClientId : ℤ
  connectTimeoutSeconds : ℤ
  connectAttempts : ℕ
  connectRetryDelaySeconds : ℚ
  clientIdRetryOffset : ℤ
  accountGroup : String
  accountIds : List String
  executionMode : String
  dryRunOnly : Bool
  readonly : Bool
  refreshes : Bool
  probes : Bool

section Checks

variable (a : Adapters)

def isLive : Bool := Text.lower (Text.stripChars a.executionMode.toList) = "live".toList

def missingAccounts (managed : List String) : List String :=
  a.accountIds.filter fun id => Text.strip id ∉ managed.map Text.strip

def askAccounts (ib : Client) : Connecting (List String) := do
  match ← ask (.managedAccounts ib) with
  | .accounts ids => return ids
  | r => throw r.fault

/-- `validate_configured_accounts`, with the account group as `repr` writes it. -/
def validateConfiguredAccounts (ib : Client) : Connecting Unit := do
  if a.accountIds = [] then
    if isLive a then
      throw (runtimeError ("IBKR live execution requires configured account_ids for account_group=" ++ a.accountGroup ++ "."))
    return
  if !ib.managedAccounts then return
  let managed ← askAccounts ib
  let missing := missingAccounts a managed
  if missing = [] then return
  throw (runtimeError ("Configured IBKR account_ids are not available to the current Gateway username for account_group=" ++
    a.accountGroup ++ "; missing_count=" ++ toString missing.length ++ "; managed_count=" ++
    toString (managed.map Text.strip).eraseDups.length ++ "."))

def isReadOnlyError (message : String) : Bool :=
  let normalized := (Text.lower message.toList).map fun c => if c = '-' ∨ c = '_' then ' ' else c
  "read only".toList <:+: [' '].intercalate (Text.words normalized)

/-- `is_margin_probe_rejection`, with what `upper` makes of each character beyond ASCII. -/
def isMarginProbeRejection (beyond : Char → List Char) (message : String) : Bool :=
  "INITIAL MARGIN".toList <:+: (Text.upper beyond message).toList ∨
    "EQUITY WITH LOAN VALUE".toList <:+: (Text.upper beyond message).toList

def readOnlyMode : Exc := permissionError "IB Gateway API is in Read-Only mode; live execution is disabled."

/-- What the body of the probe's `try` raises. -/
def examined (evidence : Bool) : Probed → Except Exc Unit
  | .raised e => .error e
  | .nothing => .error (permissionError "IB Gateway what-if permission probe returned no broker response.")
  | .response warningText => if evidence || isReadOnlyError warningText then .error readOnlyMode else .ok ()

/-- The `except` clauses of the probe. -/
def explained (beyond : Char → List Char) (evidence : Bool) (e : Exc) : Except Exc Unit :=
  if e.kind = .timeout then .error (if evidence then readOnlyMode else e)
  else if e.isOs then .error (if evidence || isReadOnlyError e.message then readOnlyMode else e)
  else if evidence || isReadOnlyError e.message then .error readOnlyMode
  else if isMarginProbeRejection beyond e.message then .ok ()
  else .error (permissionError
    ("IB Gateway live execution could not verify non-transmitting order-write access (error_type=" ++ e.name ++ ")."))

def judged (beyond : Char → List Char) (evidence : Bool) (result : Probed) : Except Exc Unit :=
  match examined evidence result with
  | .ok () => .ok ()
  | .error e => explained beyond evidence e

def armed (ib : Client) (o : Options) : Options :=
  { o with
    raiseRequestErrors := true
    requestTimeout := a.connectTimeoutSeconds
    handlers := if ib.errorEvent then o.handlers + 1 else o.handlers }

/-- The `finally` of the probe. -/
def disarmed (ib : Client) (original o : Options) : Options :=
  { o with
    raiseRequestErrors := original.raiseRequestErrors
    requestTimeout := original.requestTimeout
    handlers := if ib.errorEvent then o.handlers - 1 else o.handlers }

def heard (ib : Client) : Answer → Bool × Probed
  | .probed errors result => (ib.errorEvent && errors.any isReadOnlyError, result)
  | r => (false, .raised r.fault)

def validateTradingPermissions (beyond : Char → List Char) (ib : Client) : Connecting Unit := do
  if a.dryRunOnly || !isLive a then return
  if !a.probes then throw (permissionError "IB Gateway live execution cannot verify non-transmitting order-write access.")
  let original ← get
  ensuring (do
    modify (armed a ib)
    let o ← get
    let r ← ask (.probe ib o)
    raiseFrom (judged beyond (heard ib r).1 (heard ib r).2)) (disarmed ib original)

end Checks

section Attempts

variable (beyond : Char → List Char) (a : Adapters) (validate redact : Bool)

def connectIbFn (host : String) (clientId : ℤ) : Connecting Client := do
  match ← ask (.connect host a.ibPort clientId a.connectTimeoutSeconds a.readonly) with
  | .client ib =>
    modify fun _ => ib.options
    return ib
  | r => throw r.fault

def checked (ib : Client) : Connecting Unit := do
  validateConfiguredAccounts a ib
  if validate then validateTradingPermissions a beyond ib

def clientId (attempt : ℕ) : ℤ := a.ibClientId + (attempt - 1) * a.clientIdRetryOffset

def tryConnect (host : String) (attempt : ℕ) : Connecting Client := do
  let ib ← connectIbFn a host (clientId a attempt)
  tryCatch (checked beyond a validate ib) fun e => do
    if ib.disconnects then call (.disconnect ib)
    throw e
  return ib

def progress (attempt : ℕ) : String := "attempt=" ++ toString attempt ++ "/" ++ toString a.connectAttempts

def connectingLine (host : String) (attempt : ℕ) : String :=
  if redact then "Connecting to IB gateway (connection_details_redacted=true, " ++ progress a attempt ++ ")"
  else "Connecting to IB gateway " ++ host ++ ":" ++ toString a.ibPort ++ " (client_id=" ++ toString (clientId a attempt) ++ ", " ++
    progress a attempt ++ ", timeout=" ++ toString a.connectTimeoutSeconds ++ "s)"

def failedLine (attempt : ℕ) (e : Exc) : String :=
  if redact then "IB gateway read-only connection attempt failed (" ++ progress a attempt ++ ", error_type=" ++ e.name ++ ")"
  else "IB gateway connection attempt failed (" ++ progress a attempt ++ ", client_id=" ++ toString (clientId a attempt) ++
    ", error_type=" ++ e.name ++ ", error=" ++ e.message ++ ")"

def refreshLine (host : String) (e : Exc) : String :=
  if redact then "IB gateway read-only host refresh failed (error_type=" ++ e.name ++ ")"
  else "IB gateway host refresh failed; retrying last-known-good host (host=" ++ host ++ ", error_type=" ++ e.name ++ ", error=" ++
    e.message ++ ")"

def unavailable (host : String) (lastError : Option Exc) : Exc :=
  ⟨.gatewayUnavailable, "IBKRGatewayUnavailableError", if redact then
      "IB gateway unavailable after " ++ toString a.connectAttempts ++ " read-only attempt(s)."
    else
      "IB gateway unavailable after " ++ toString a.connectAttempts ++ " attempt(s) to " ++ host ++ ":" ++ toString a.ibPort ++ ": " ++
        (lastError.map Exc.message).getD "None"⟩

def askHost (q : Ask) : Connecting String := do
  match ← ask q with
  | .host name => return name
  | r => throw r.fault

def refreshedHost (host : String) : Connecting String := do
  if !a.refreshes then return host
  match ← caught (askHost .refreshHost) with
  | .ok name => return name
  | .error e =>
    if e.kind = .gatewayUnavailable then throw e
    call (.printer (refreshLine redact host e))
    return host

def prepareRetry (left : ℕ) (host : String) : Connecting String := do
  if left = 0 then return host
  let host ← refreshedHost a redact host
  if 0 < a.connectRetryDelaySeconds then call (.sleep a.connectRetryDelaySeconds)
  return host

def attempts : ℕ → ℕ → String → Option Exc → Connecting Client
  | 0, _, host, lastError => throw (unavailable a redact host lastError)
  | left + 1, attempt, host, _ => do
    call (.printer (connectingLine a redact host attempt))
    match ← caught (tryConnect beyond a validate host attempt) with
    | .ok ib => return ib
    | .error e =>
      if !e.isOs then throw e
      call (.printer (failedLine a redact attempt e))
      let host ← prepareRetry a redact left host
      attempts left (attempt + 1) host (some e)

def Adapters.connectIb : Connecting Client := do
  call .ensureEventLoop
  let host ← askHost .hostResolver
  attempts beyond a validate redact a.connectAttempts 1 host none

end Attempts

structure Runtime where
  executionBackend : String
  dryRunOnly : Bool
  ibGatewayMode : String
  ibPort : ℤ
  ibClientId : ℤ
  ibConnectTimeoutSeconds : ℤ
  ibConnectAttempts : ℕ
  ibConnectRetryDelaySeconds : ℚ
  ibClientIdRetryOffset : ℤ
  accountGroup : String
  accountIds : List String

section Service

variable (beyond : Char → List Char) (r : Runtime)

def buildBrokerAdapters (dryRunOnlyOverride : Option Bool) : Adapters :=
  let dryRunOnly := dryRunOnlyOverride.getD r.dryRunOnly
  { ibPort := r.ibPort
    ibClientId := r.ibClientId
    connectTimeoutSeconds := r.ibConnectTimeoutSeconds
    connectAttempts := r.ibConnectAttempts
    connectRetryDelaySeconds := r.ibConnectRetryDelaySeconds
    clientIdRetryOffset := r.ibClientIdRetryOffset
    accountGroup := r.accountGroup
    accountIds := r.accountIds
    executionMode := if dryRunOnly then "dry_run" else r.ibGatewayMode
    dryRunOnly := dryRunOnly
    readonly := dryRunOnly
    refreshes := true
    probes := true }

/-- `require_gateway_execution_backend`, with the backend as `repr` writes it. -/
def requireGatewayExecutionBackend : Connecting Unit := do
  if r.executionBackend ≠ "gateway" then
    throw (runtimeError ("IBKR execution_backend='" ++ r.executionBackend ++ "' is configured; Gateway connection and direct order " ++
      "execution are disabled for this service. Run the QuantConnect deployment/algorithm path for this account group."))

def adaptersFor (readOnly : Bool) : Adapters :=
  if readOnly then { buildBrokerAdapters r (some true) with connectAttempts := 1 } else buildBrokerAdapters r none

def connectIb (readOnly validate : Bool) : Connecting Client := do
  requireGatewayExecutionBackend r
  if readOnly && r.ibClientId ≤ 0 then
    throw (runtimeError "read-only Gateway access requires a configured nonzero client ID")
  (adaptersFor r readOnly).connectIb beyond validate readOnly

end Service

end IbkrPlatform.Gateway
