import Mathlib.Data.List.MinMax
import IbkrPlatform.Library.EarlyExit
import IbkrPlatform.Ledger.FlexFields

/-! The period return of an account, with the change in NAV beside it. -/

namespace IbkrPlatform.Ledger.PeriodReturn

open FlexDaily (Day Instant)
open FlexDaily.Calendar (dayOf)
open Library
open EarlyExit

/-- What the thread lends to decimal calls: a context, and whether an invalid operation raises. -/
structure Ambient where
  context : Context
  raises : Bool

inductive Refusal
  | scopeInvalid
  | identityMismatch
  | nativeTwrUnavailable
  | nativeMethodInvalid
  | periodInvalid
  | observationInvalid
  | currencyInvalid
  | nativeValueInvalid
  | unexpected
deriving DecidableEq

/-- `Decimal(text)`: it is exact in every context, and an invalid text that does not raise is a NaN. -/
def construct (a : Ambient) (text : List Char) : Option Decimal.Number :=
  match Decimal.read text with
  | some x => some x
  | none => if a.raises then none else some .special

def number (a : Ambient) (value : Option String) : Except Refusal ℚ :=
  match value with
  | none => .error .nativeValueInvalid
  | some text =>
    if 64 < text.length ∨ (Decimal.plain text.toList).isNone then .error .nativeValueInvalid
    else
      match construct a text.toList with
      | some (.finite d) => .ok d.value
      | _ => .error .unexpected

section Number

variable {a a' : Ambient} {value : Option String} {x : ℚ} {e : Refusal}

lemma number_eq : number a value = match value with
    | none => .error .nativeValueInvalid
    | some text =>
      if 64 < text.length then .error .nativeValueInvalid
      else (Decimal.plain text.toList).elim (.error .nativeValueInvalid) fun p => .ok p.decimal.value := by
  cases value with
  | none => rfl
  | some text =>
    by_cases hlen : 64 < text.length
    · simp [number, hlen]
    · cases hp : Decimal.plain text.toList with
      | none => simp [number, hp]
      | some p =>
        have hshort : p.text.length ≤ 1000000 := by
          rw [Decimal.plain_text hp, String.length_toList]
          omega
        have hread := Decimal.read_short hshort
        rw [Decimal.plain_text hp] at hread
        simp [number, construct, hlen, hp, hread]

lemma number_ok (h : number a value = .ok x) : ∃ text p, value = some text ∧ text.length ≤ 64 ∧
    Decimal.plain text.toList = some p ∧ x = p.decimal.value := by
  rw [number_eq] at h
  cases value with
  | none => cases h
  | some text =>
    simp only at h
    split_ifs at h with hlen
    cases hp : Decimal.plain text.toList with
    | none =>
      rw [hp] at h
      cases h
    | some p =>
      rw [hp] at h
      exact ⟨text, p, rfl, not_lt.mp hlen, hp, (Except.ok.inj h).symm⟩

lemma number_error (h : number a value = .error e) : e = .nativeValueInvalid := by
  rw [number_eq] at h
  cases value with
  | none => exact (Except.error.inj h).symm
  | some text =>
    simp only at h
    split_ifs at h with hlen
    · exact (Except.error.inj h).symm
    · cases hp : Decimal.plain text.toList with
      | none =>
        rw [hp] at h
        exact (Except.error.inj h).symm
      | some p =>
        rw [hp] at h
        cases h

lemma number_ambient (a a' : Ambient) (value : Option String) : number a value = number a' value := by
  rw [number_eq, number_eq]

end Number

section NavChange

structure NavChange where
  source : Option String
  accountId : Option String
  model : Option String
  currency : Option String
  period : Day × Day
  components : List (String × Option String)
deriving DecidableEq

structure NavAmount where
  components : List (String × String)
  amount : List Char
deriving DecidableEq

def navChangeComponentFields : List String :=
  ["startingValue", "endingValue", "depositsWithdrawals", "internalCashTransfers", "assetTransfers", "linkingAdjustments"]

def NavChange.component (raw : NavChange) (field : String) : Option String := (raw.components.lookup field).join

structure Components where
  startingValue : ℚ
  endingValue : ℚ
  depositsWithdrawals : ℚ
  internalCashTransfers : ℚ
  assetTransfers : ℚ
  linkingAdjustments : ℚ

def Components.read (f : String → Except Refusal ℚ) : Except Refusal Components := do
  let startingValue ← f "startingValue"
  let endingValue ← f "endingValue"
  let depositsWithdrawals ← f "depositsWithdrawals"
  let internalCashTransfers ← f "internalCashTransfers"
  let assetTransfers ← f "assetTransfers"
  let linkingAdjustments ← f "linkingAdjustments"
  pure ⟨startingValue, endingValue, depositsWithdrawals, internalCashTransfers, assetTransfers, linkingAdjustments⟩

def Components.transfers (v : Components) : List ℚ := [v.internalCashTransfers, v.assetTransfers, v.linkingAdjustments]

def Components.amount (v : Components) : ℚ := v.endingValue - v.startingValue - v.depositsWithdrawals

/-- `text.partition(".")[2]`. -/
def afterPoint (text : String) : List Char := (text.toList.dropWhile (· ≠ '.')).tail

def NavChange.scale (raw : NavChange) : ℕ :=
  (navChangeComponentFields.map fun field => (afterPoint ((raw.component field).getD "")).length).foldr max 0

def NavChange.Total (accountId currency : String) (period : Day × Day) (raw : NavChange) : Prop :=
  raw.source = some "ChangeInNAV" ∧ raw.accountId = some accountId ∧ raw.model = some "" ∧
    (raw.currency = some currency ∨ raw.currency = some "BASE_SUMMARY") ∧ raw.period = period ∧
    ((∀ field ∈ raw.components.map Prod.fst, field ∈ navChangeComponentFields) ∧
      ∀ field ∈ navChangeComponentFields, field ∈ raw.components.map Prod.fst)

instance (accountId currency : String) (period : Day × Day) (raw : NavChange) :
    Decidable (raw.Total accountId currency period) := by
  unfold NavChange.Total
  infer_instance

def NavChange.text (raw : NavChange) (amount : ℚ) : List Char :=
  Decimal.fixedText (amount < 0) (amount * 10 ^ raw.scale).num.natAbs raw.scale

def optionalNavChange (a : Ambient) (accountId currency : String) (period : Day × Day) :
    Option NavChange → Except Refusal (Option NavAmount)
  | none => .ok none
  | some raw =>
    if ¬ raw.Total accountId currency period then .ok none
    else
      match Components.read fun field => number a (raw.component field) with
      | .error .unexpected => .error .unexpected
      | .error _ => .ok none
      | .ok values =>
        if values.transfers.any (· ≠ 0) then .ok none
        else if 64 < (raw.text values.amount).length then .ok none
        else .ok (some ⟨navChangeComponentFields.map fun field => (field, (raw.component field).getD ""),
          raw.text values.amount⟩)

section Exact

variable {f : String → Except Refusal ℚ} {v : Components} {a : Ambient} {raw : NavChange} {e : Refusal}

def Components.get (v : Components) : String → ℚ
  | "startingValue" => v.startingValue
  | "endingValue" => v.endingValue
  | "depositsWithdrawals" => v.depositsWithdrawals
  | "internalCashTransfers" => v.internalCashTransfers
  | "assetTransfers" => v.assetTransfers
  | _ => v.linkingAdjustments

lemma read_of_fields (h : ∀ field ∈ navChangeComponentFields, f field = .ok (v.get field)) : Components.read f = .ok v := by
  simp only [navChangeComponentFields, List.forall_mem_cons] at h
  obtain ⟨h₁, h₂, h₃, h₄, h₅, h₆, -⟩ := h
  rw [Components.read, h₁, h₂, h₃, h₄, h₅, h₆]
  rfl

lemma read_error (h : Components.read f = .error e) : ∃ field ∈ navChangeComponentFields, f field = .error e := by
  unfold navChangeComponentFields
  rcases error_of_bind h with h | ⟨x₁, -, h⟩
  · exact ⟨_, by simp, h⟩
  rcases error_of_bind h with h | ⟨x₂, -, h⟩
  · exact ⟨_, by simp, h⟩
  rcases error_of_bind h with h | ⟨x₃, -, h⟩
  · exact ⟨_, by simp, h⟩
  rcases error_of_bind h with h | ⟨x₄, -, h⟩
  · exact ⟨_, by simp, h⟩
  rcases error_of_bind h with h | ⟨x₅, -, h⟩
  · exact ⟨_, by simp, h⟩
  rcases error_of_bind h with h | ⟨x₆, -, h⟩
  · exact ⟨_, by simp, h⟩
  · cases h

lemma optionalNavChange_eq (accountId currency : String) (period : Day × Day) :
    optionalNavChange a accountId currency period (some raw) =
      .ok (if raw.Total accountId currency period then
        match Components.read fun field => number a (raw.component field) with
        | .error _ => none
        | .ok v =>
          if v.transfers.any (· ≠ 0) ∨ 64 < (raw.text v.amount).length then none
          else some ⟨navChangeComponentFields.map fun field => (field, (raw.component field).getD ""),
            raw.text v.amount⟩
      else none) := by
  by_cases ht : raw.Total accountId currency period
  · cases hr : Components.read fun field => number a (raw.component field) with
    | error e =>
      obtain ⟨field, -, he⟩ := read_error hr
      obtain rfl := number_error he
      simp [optionalNavChange, ht, hr]
    | ok v =>
      by_cases hz : v.transfers.any (· ≠ 0) = true
      · simp only [optionalNavChange, ht, hr, hz, not_true_eq_false, if_false, if_true, true_or]
      · by_cases hl : 64 < (raw.text v.amount).length
        · simp only [optionalNavChange, ht, hr, hz, hl, not_true_eq_false, if_false, if_true, or_true, Bool.false_eq_true]
        · simp only [optionalNavChange, ht, hr, hz, hl, not_true_eq_false, if_false, if_true, or_self, Bool.false_eq_true]
  · simp [optionalNavChange, ht]

lemma optionalNavChange_total (a : Ambient) (accountId currency : String) (period : Day × Day) (raw : Option NavChange) :
    ∃ r, optionalNavChange a accountId currency period raw = .ok r := by
  cases raw with
  | none => exact ⟨none, rfl⟩
  | some raw => exact ⟨_, optionalNavChange_eq accountId currency period⟩

lemma optionalNavChange_ambient (a a' : Ambient) (accountId currency : String) (period : Day × Day) :
    optionalNavChange a accountId currency period (some raw) = optionalNavChange a' accountId currency period (some raw) := by
  rw [optionalNavChange_eq, optionalNavChange_eq]
  simp only [number_ambient a a']

def NavChange.plain (raw : NavChange) (field : String) : Option Decimal.Plain :=
  (raw.component field).bind fun text => Decimal.plain text.toList

lemma afterPoint_length {text : String} {p : Decimal.Plain} (h : Decimal.plain text.toList = some p) :
    (afterPoint text).length = p.fraction.length := by
  rw [afterPoint, ← Decimal.plain_text h, p.fraction_of_text]

def NavChange.Longest (raw : NavChange) (n : ℕ) : Prop :=
  (∀ field ∈ navChangeComponentFields, ∀ p, raw.plain field = some p → p.fraction.length ≤ n) ∧
    ∃ field ∈ navChangeComponentFields, ∃ p, raw.plain field = some p ∧ p.fraction.length = n

lemma NavChange.Longest.unique {m n : ℕ} (hm : raw.Longest m) (hn : raw.Longest n) : m = n := by
  obtain ⟨field, hfield, p, hp, rfl⟩ := hm.2
  obtain ⟨field', hfield', p', hp', rfl⟩ := hn.2
  exact le_antisymm (hn.1 field hfield p hp) (hm.1 field' hfield' p' hp')

section Accepted

variable (hread : ∀ field ∈ navChangeComponentFields, number a (raw.component field) = .ok (v.get field))
include hread

lemma component_plain {field : String} (hf : field ∈ navChangeComponentFields) :
    ∃ text p, raw.component field = some text ∧ Decimal.plain text.toList = some p ∧ raw.plain field = some p ∧
      v.get field = p.decimal.value := by
  obtain ⟨text, p, ht, -, hp, hv⟩ := number_ok (hread field hf)
  exact ⟨text, p, ht, hp, by rw [NavChange.plain, ht, Option.bind_some, hp], hv⟩

lemma scale_longest : raw.Longest raw.scale := by
  have hscale : ∀ field ∈ navChangeComponentFields, ∀ p, raw.plain field = some p →
      (afterPoint ((raw.component field).getD "")).length = p.fraction.length := by
    intro field hf p hp
    obtain ⟨text, p', ht, hp', hplain, -⟩ := component_plain hread hf
    obtain rfl := Option.some.inj (hp.symm.trans hplain)
    rw [ht, Option.getD_some, afterPoint_length hp']
  have hmax := List.foldr_max_of_ne_nil
    (l := navChangeComponentFields.map fun field => (afterPoint ((raw.component field).getD "")).length)
    (by simp [navChangeComponentFields])
  constructor
  · intro field hf p hp
    rw [← hscale field hf p hp]
    exact WithBot.coe_le_coe.mp (hmax ▸ List.le_maximum_of_mem' (List.mem_map_of_mem hf))
  · obtain ⟨field, hf, hlen⟩ := List.mem_map.mp (List.maximum_mem hmax.symm)
    obtain ⟨text, p, -, -, hplain, -⟩ := component_plain hread hf
    exact ⟨field, hf, p, hplain, by rw [← hscale field hf p hplain, hlen]; rfl⟩

lemma component_scaled {field : String} (hf : field ∈ navChangeComponentFields) :
    ∃ n : ℤ, v.get field * 10 ^ raw.scale = n := by
  obtain ⟨text, p, -, -, hplain, hv⟩ := component_plain hread hf
  rw [hv]
  exact Decimal.scaled_value ((scale_longest hread).1 field hf p hplain)

lemma amount_scaled : v.amount * 10 ^ raw.scale = (v.amount * 10 ^ raw.scale).num := by
  obtain ⟨stop, hstop⟩ := component_scaled hread (show "endingValue" ∈ navChangeComponentFields by decide)
  obtain ⟨start, hstart⟩ := component_scaled hread (show "startingValue" ∈ navChangeComponentFields by decide)
  obtain ⟨deposits, hdeposits⟩ := component_scaled hread (show "depositsWithdrawals" ∈ navChangeComponentFields by decide)
  have hint : v.amount * 10 ^ raw.scale = ((stop - start - deposits : ℤ) : ℚ) := by
    rw [Components.amount, sub_mul, sub_mul]
    push_cast
    rw [← hstop, ← hstart, ← hdeposits]
    rfl
  rw [hint, Rat.num_intCast]

end Accepted

/-- The amount of an accepted change in NAV is exact, and it is left out only where its text would be too long. -/
theorem nav_change_exact (accountId currency : String) (period : Day × Day)
    (hread : ∀ field ∈ navChangeComponentFields, number a (raw.component field) = .ok (v.get field))
    (hzero : v.internalCashTransfers = 0 ∧ v.assetTransfers = 0 ∧ v.linkingAdjustments = 0) :
    (∃ r, optionalNavChange a accountId currency period (some raw) = .ok r) ∧
    (∀ n, optionalNavChange a accountId currency period (some raw) = .ok (some n) → n.amount.length ≤ 64 ∧
      ∃ p, Decimal.plain n.amount = some p ∧
        p.decimal.value = v.endingValue - v.startingValue - v.depositsWithdrawals ∧ raw.Longest p.fraction.length) ∧
    (raw.Total accountId currency period → optionalNavChange a accountId currency period (some raw) = .ok none →
      ∀ p : Decimal.Plain, p.decimal.value = v.endingValue - v.startingValue - v.depositsWithdrawals →
        raw.Longest p.fraction.length → 64 < p.text.length) ∧
    ∀ a' : Ambient, optionalNavChange a' accountId currency period (some raw) =
      optionalNavChange a accountId currency period (some raw) := by
  have hscale := scale_longest hread
  have hscaled := amount_scaled hread
  have hvalue := Decimal.value_of_scaled hscaled
  have hfraction := Decimal.fixed_fraction (v.amount < 0) (v.amount * 10 ^ raw.scale).num.natAbs raw.scale
  have htext : (Decimal.fixed (v.amount < 0) (v.amount * 10 ^ raw.scale).num.natAbs raw.scale).text = raw.text v.amount :=
    Decimal.fixed_text _ _ _
  have hplain : Decimal.plain (raw.text v.amount) = some (Decimal.fixed (v.amount < 0) _ raw.scale) :=
    htext ▸ Decimal.plain_of_text _
  have hkept : v.transfers.any (· ≠ 0) = false := by simp [Components.transfers, hzero]
  have hresult := @optionalNavChange_eq a raw accountId currency period
  simp only [read_of_fields hread, hkept, Bool.false_eq_true, false_or] at hresult
  refine ⟨optionalNavChange_total _ _ _ _ _, fun n hn => ?_, fun htotal hnone p hp hlongest => ?_, fun a' => optionalNavChange_ambient _ _ _ _ _⟩
  · have hn := Except.ok.inj (hresult.symm.trans hn)
    split_ifs at hn with htotal hlen
    obtain rfl := Option.some.inj hn
    exact ⟨not_lt.mp hlen, _, hplain, hvalue, hfraction.symm ▸ hscale⟩
  · have hnone := Except.ok.inj (hresult.symm.trans hnone)
    rw [if_pos htotal] at hnone
    split_ifs at hnone with hlen
    obtain hsame := hlongest.unique hscale
    have hamount : p.decimal.value = v.amount := hp
    have hle := Decimal.fixedText_length_le (p := p) (by rw [hamount, hsame]; exact hscaled)
    rw [hamount, hsame] at hle
    exact hlen.trans_le hle

def smallLoss : NavChange where
  source := some "ChangeInNAV"
  accountId := some "U1"
  model := some ""
  currency := some "BASE_SUMMARY"
  period := (20758, 20787)
  components := [("startingValue", some "100.10"), ("endingValue", some "103"), ("depositsWithdrawals", some "2.905"),
    ("internalCashTransfers", some "0"), ("assetTransfers", some "-0.0"), ("linkingAdjustments", some "0")]

example : optionalNavChange ⟨⟨3, 9, -9, by decide⟩, false⟩ "U1" "USD" (20758, 20787) (some smallLoss) =
    .ok (some ⟨smallLoss.components.map fun c => (c.1, c.2.getD ""), "-0.005".toList⟩) := by
  decide +kernel

def smallLossValues : Components := ⟨1001 / 10, 103, 581 / 200, 0, 0, 0⟩

theorem nav_change_exact_small_loss : ∃ p, Decimal.plain "-0.005".toList = some p ∧
    p.decimal.value = 103 - 1001 / 10 - 581 / 200 ∧ smallLoss.Longest p.fraction.length :=
  ((nav_change_exact (a := ⟨⟨28, 999999, -999999, by decide⟩, true⟩) (v := smallLossValues) "U1" "USD" (20758, 20787)
    (by decide +kernel) (by decide +kernel)).2.1
      ⟨smallLoss.components.map fun c => (c.1, c.2.getD ""), "-0.005".toList⟩ (by decide +kernel)).2

end Exact

end NavChange

section Period

structure NativeReturns where
  twr : String
  unit : String
  start : Day
  stop : Day
  source : String
deriving DecidableEq

structure Assessment where
  computable : Bool
  method : Option String
  value : Option String
  unit : Option String
  source : Option String
deriving DecidableEq

structure FlexLedger where
  schemaVersion : String
  accountIds : List String
  period : Option Day × Option Day
  accountBaseCurrency : Option String
  nativeReturns : Option NativeReturns
  nativeNavChange : Option NavChange
  returnAssessment : Assessment
deriving DecidableEq

/-- The arguments beside the ledger; a time without zone is `none`. -/
structure Scope where
  targetId : String
  sourceBindingId : String
  accountScope : String
  expectedAccountIds : List String
  observedAt : Option Instant
deriving DecidableEq

def isLowerAlnum (c : Char) : Bool := c.isDigit || ('a' ≤ c && c ≤ 'z')

def isAlnum (c : Char) : Bool := isLowerAlnum c || Text.isCapital c

/-- `_TARGET`. -/
def isTarget (value : String) : Bool :=
  let cs := value.toList
  cs.length ≤ 64 ∧ (cs.head?.any isLowerAlnum) ∧ (cs.getLast?.any isLowerAlnum) ∧
    cs.all fun c => isLowerAlnum c || c = '-'

/-- `_BINDING`. -/
def isBinding (value : String) : Bool :=
  value.length = 64 ∧ value.toList.all fun c => c.isDigit || ('a' ≤ c && c ≤ 'f')

/-- `_SCOPE`. -/
def isScope (value : String) : Bool := matches_ isAlnum (fun c => isAlnum c || c ∈ "._:-".toList) 0 127 (some value)

/-- `_ACCOUNT`. -/
def isAccount (value : String) : Bool :=
  let number (cs : List Char) : Bool := cs ≠ [] ∧ cs.all Char.isDigit
  match value.toList with
  | 'U' :: cs => number cs
  | 'D' :: 'U' :: cs => number cs
  | _ => false

/-- `validate_period_return_scope`. -/
def validScope (q : Scope) : Bool :=
  isTarget q.targetId && isBinding q.sourceBindingId && isScope q.accountScope &&
    (q.expectedAccountIds.length = 1) && q.expectedAccountIds.all isAccount

structure NativePeriodReturn where
  scope : Scope
  observedAt : Instant
  currency : String
  period : Day × Day
  sourceValue : String
  value : String
  navChange : Option NavAmount
deriving DecidableEq

def buildIbkrPeriodReturn (a : Ambient) (ledger : FlexLedger) (q : Scope) : Except Refusal NativePeriodReturn :=
  if !validScope q then .error .scopeInvalid
  else if ledger.schemaVersion ≠ "ibkr_flex_ledger.v1" ∨ ledger.accountIds ≠ q.expectedAccountIds then
    .error .identityMismatch
  else
    match ledger.nativeReturns, ledger.returnAssessment.computable with
    | some native, true =>
      if native.unit ≠ "percent" ∨ native.source ≠ "ChangeInNAV.twr" ∨
          ledger.returnAssessment.method ≠ some "native_ibkr_twr" ∨
          ledger.returnAssessment.source ≠ some "ChangeInNAV.twr" ∨ ledger.returnAssessment.unit ≠ some "ratio" then
        .error .nativeMethodInvalid
      else
        match ledger.period with
        | (some start, some stop) =>
          if stop < start ∨ native.start ≠ start ∨ native.stop ≠ stop then .error .periodInvalid
          else
            match q.observedAt with
            | none => .error .observationInvalid
            | some observed =>
              if dayOf observed < stop then .error .observationInvalid
              else if !isFlowCurrency ledger.accountBaseCurrency then .error .currencyInvalid
              else do
                let currency := ledger.accountBaseCurrency.getD ""
                let percent ← number a (some native.twr)
                let ratio ← number a ledger.returnAssessment.value
                if ratio * 100 ≠ percent ∨ ratio < -1 then .error .nativeValueInvalid
                else do
                  let navChange ← optionalNavChange a (q.expectedAccountIds.headD "") currency (start, stop)
                    ledger.nativeNavChange
                  pure ⟨q, observed, currency, (start, stop), native.twr, ledger.returnAssessment.value.getD "", navChange⟩
        | _ => .error .periodInvalid
    | _, _ => .error .nativeTwrUnavailable

end Period

end IbkrPlatform.Ledger.PeriodReturn
