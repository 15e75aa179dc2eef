import IbkrPlatform.Execution.Sizing
import IbkrPlatform.Library.Attempt

/-! The account's new-risk gate, and the breaker that its journal keeps. -/

namespace IbkrPlatform.Execution.NewRiskGate

open Library

structure Admission where
  prohibited : Bool
  hardBrakeTriggered : Bool
  reasonCodes : List String
  combinedScale : Option ℚ
deriving DecidableEq

def Admission.prohibit (a : Admission) (reason : String) : Admission :=
  { a with prohibited := true, reasonCodes := (a.reasonCodes ++ [reason]).eraseDups }

/-- The object passed as the account session; a method answers `none` where it raises, and `readState`
answers `some none` where `circuit_breaker_open` is no boolean. -/
structure Session (W : Type) where
  accountSubmissionSession : Bool
  recordCircuitBreakerOpen : W → Option Unit × W
  readState : W → Option (Option Bool) × W

inductive Refusal
  | allocationMissing
  | targetModeNotWeight
  | effectiveDateInvalid
  | notEffectiveToday
  | approvalRequired
  | portfolioEquityInvalid
  | allocationDiffers
  | orderLimitInvalid
  | optionIntentsUnlimited
  | dryRunModeRequiresDryRun
  | executionModeInvalid
  | multipleAccounts
  | targetExceedsLimit
  | persistentBreakerUnavailable
  | sellExceedsPosition
  | buyExceedsLimit
  | sessionRequired
  | bindingMismatch
  | claimRequired
  | breakerProhibitsNewRisk
  | scopeMismatch
  | other (text : String)
deriving DecidableEq

def Refusal.message : Refusal → String
  | allocationMissing => "IBKR execution requires signal_metadata.allocation"
  | targetModeNotWeight => "IBKR execution requires allocation.target_mode=weight"
  | effectiveDateInvalid => "IBKR TQQQ execution requires a valid effective date"
  | notEffectiveToday => "IBKR TQQQ signal is not effective for this trading date"
  | approvalRequired => "IBKR live execution requires a valid RiskEngine approval"
  | portfolioEquityInvalid => "IBKR live RiskEngine portfolio equity is invalid"
  | allocationDiffers => "IBKR live allocation differs from RiskEngine approval"
  | orderLimitInvalid => "IBKR live order limit is invalid"
  | optionIntentsUnlimited => "IBKR live option intents lack final RiskEngine order limits"
  | dryRunModeRequiresDryRun => "execution_mode=dry_run requires dry_run_only=True"
  | executionModeInvalid => "execution_mode must be paper or live"
  | multipleAccounts => "IBKR live order routing requires a single account_id per runtime service"
  | targetExceedsLimit => "IBKR target exceeds RiskEngine order limit"
  | persistentBreakerUnavailable => "IBKR persistent breaker session/contract unavailable; refusing new risk"
  | sellExceedsPosition => "IBKR live sell exceeds approved position or has invalid pricing"
  | buyExceedsLimit => "IBKR live buy exceeds the approved RiskEngine order limit"
  | sessionRequired => "IBKR account submission session/contract required"
  | bindingMismatch => "IBKR account session intent/release binding mismatch"
  | claimRequired => "IBKR execution claim required; refusing broker submission"
  | breakerProhibitsNewRisk => "IBKR persistent account breaker prohibits new risk"
  | scopeMismatch => "settled_cash_scope_mismatch"
  | other text => text

variable {W : Type}

/-- The breaker that the journal holds once a breach is recorded; `none` where it cannot be read. -/
def readBreaker (session : Option (Session W)) (admission : Admission) (w : W) : Option Bool × W :=
  match session with
  | none => (none, w)
  | some session =>
    if !session.accountSubmissionSession then (none, w)
    else
      let recorded := if admission.hardBrakeTriggered then session.recordCircuitBreakerOpen w else (some (), w)
      match recorded.1 with
      | none => (none, recorded.2)
      | some () =>
        let read := session.readState recorded.2
        (read.1.join, read.2)

/-- `evaluate_persistent_account_new_risk_admission`. -/
def evaluatePersistent (evaluate : W → Except Refusal Admission × W) (session : Option (Session W)) (w : W) :
    Except Refusal Admission × W :=
  match evaluate w with
  | (.error refusal, w) => (.error refusal, w)
  | (.ok admission, w) =>
    match readBreaker session admission w with
    | (some false, w) => (.ok admission, w)
    | (some true, w) => (.ok (admission.prohibit "CIRCUIT_BREAKER_OPEN"), w)
    | (none, w) => (.ok (admission.prohibit "PERSISTENT_BREAKER_UNAVAILABLE"), w)

end IbkrPlatform.Execution.NewRiskGate
