import IbkrPlatform.FlexDaily.Strptime
import IbkrPlatform.Ledger.NetFlow
import IbkrPlatform.Ledger.PeriodReturn

/-! The native return that a ledger publishes, and what the period return makes of it. -/

namespace IbkrPlatform.Ledger.NativeReturn

open FlexDaily (Day Row)
open FlexDaily.Calendar (dayOf)
open FlexDaily.Strptime (strptime)
open Library EarlyExit PeriodReturn
open NetFlow (ambient decimalText denotes denotes_format)

section Dates

def cutTime (cs : List Char) : List Char :=
  match [';', ',', ' ', 'T'].find? fun sep => sep ∈ cs with
  | some sep => cs.takeWhile (· ≠ sep)
  | none => cs

def isoDate (value : Option String) : Option Day :=
  let text := cutTime (Text.stripChars (value.getD "").toList)
  strptime none text <|> strptime (some '-') text

example : isoDate (some " 20261102;235959") = some 20759 ∧ isoDate (some "2026-1-2T03:00:00") = some 20455 ∧
    isoDate (some "2026112") = some 20759 ∧ isoDate (some "20260230") = none := by
  decide

end Dates

structure Element where
  row : Row
  children : List Row

structure ActivityStatement where
  attrib : FlexDaily.Attributes
  children : List Element

namespace ActivityStatement

def get (s : ActivityStatement) (name : String) : Option String := s.attrib.lookup name

def findall (s : ActivityStatement) (tag : String) : List Element := s.children.filter fun e => e.row.tag = tag

def accountId (s : ActivityStatement) : String := Text.strip ((s.get "accountId").getD "")

def period (s : ActivityStatement) : Option Day × Option Day := (isoDate (s.get "fromDate"), isoDate (s.get "toDate"))

def twr (s : ActivityStatement) : Option String := (s.findall "ChangeInNAV").head?.bind fun change => change.row.get "twr"

def percent (s : ActivityStatement) : ℚ := (s.twr.bind fun text => Decimal.readFinite text.toList).elim 0 Decimal.value

end ActivityStatement

section Build

local instance lawfulOptionText : LawfulBEq (Option String) := inferInstance

variable (upper : String → String)

def accountBaseCurrency (s : ActivityStatement) : Option String :=
  (s.findall "AccountInformation").head?.bind fun information =>
    present (some (upper (Text.strip ((information.row.get "currency").getD ""))))

def blank (value : Option String) : Bool := value ∈ [none, some ""]

def validPeriod (s : ActivityStatement) : Option (Day × Day) :=
  match s.period with
  | (some start, some stop) => if start ≤ stop then some (start, stop) else none
  | _ => none

def nativeReturns (s : ActivityStatement) : Option NativeReturns :=
  match s.findall "ChangeInNAV", s.findall "AccountInformation", validPeriod s with
  | [change], [information], some (start, stop) =>
    match decimalText (change.row.get "twr") with
    | none => none
    | some twr =>
      if isoDate (change.row.get "fromDate") = some start ∧ isoDate (change.row.get "toDate") = some stop ∧
          change.children.isEmpty ∧ blank (information.row.get "model") ∧
          change.row.get "accountId" ∈ [none, some "", some s.accountId] ∧ blank (change.row.get "model") ∧
          change.row.get "currency" ∈ [none, some "", accountBaseCurrency upper s, some "BASE_SUMMARY"] ∧
          day (change.row.get "fromDate") = some start ∧ day (change.row.get "toDate") = some stop then
        some ⟨String.ofList twr, "percent", start, stop, "ChangeInNAV.twr"⟩
      else none
  | _, _, _ => none

def nativeNavChange (s : ActivityStatement) : Option NavChange :=
  match s.findall "ChangeInNAV", s.findall "AccountInformation", validPeriod s with
  | [change], [information], some (start, stop) =>
    if change.children.isEmpty ∧ blank (information.row.get "model") ∧
        change.row.get "accountId" = some s.accountId ∧ change.row.get "model" = some "" ∧
        isFlowCurrency (accountBaseCurrency upper s) ∧ information.row.get "currency" = accountBaseCurrency upper s ∧
        change.row.get "currency" ∈ [accountBaseCurrency upper s, some "BASE_SUMMARY"] ∧
        day (change.row.get "fromDate") = some start ∧ day (change.row.get "toDate") = some stop then
      some ⟨some "ChangeInNAV", some s.accountId, some "", change.row.get "currency", (start, stop),
        navChangeComponentFields.map fun field => (field, change.row.get field)⟩
    else none
  | _, _, _ => none

def hundred : Decimal := ⟨false, 100, 0⟩

/-- `return_assessment`; `none` is an exception of the decimal context. -/
def returnAssessment : Option NativeReturns → Option Assessment
  | none => some ⟨false, none, none, none, none⟩
  | some native => do
    let percent ← Decimal.readFinite native.twr.toList
    let ratio ← ambient.divide percent hundred
    pure ⟨true, some "native_ibkr_twr", some (String.ofList (Decimal.format ratio)), some "ratio", some native.source⟩

/-- The part of `build_flex_ledger` that publishes a native return. -/
def buildFlexLedger (s : ActivityStatement) : Option FlexLedger := do
  let native := nativeReturns upper s
  let assessment ← returnAssessment native
  pure ⟨"ibkr_flex_ledger.v1", [s.accountId], s.period, accountBaseCurrency upper s, native, nativeNavChange upper s,
    assessment⟩

end Build

section Published

variable {upper : String → String} {s : ActivityStatement} {native : NativeReturns} {ledger : FlexLedger}

lemma nativeReturns_some (h : nativeReturns upper s = some native) : ∃ d : Decimal,
    s.percent = d.value ∧ native.twr.toList = Decimal.format d ∧ native.unit = "percent" ∧
      native.source = "ChangeInNAV.twr" ∧ s.period = (some native.start, some native.stop) ∧ native.start ≤ native.stop := by
  unfold nativeReturns at h
  split at h
  · rename_i change information start stop hchange hinformation hperiod
    split at h
    · cases h
    rename_i twr htwr
    split_ifs at h
    obtain rfl := Option.some.inj h
    unfold decimalText at htwr
    obtain ⟨text, htext, htwr⟩ := Option.bind_eq_some_iff.mp htwr
    obtain ⟨d, hd, htwr⟩ := Option.bind_eq_some_iff.mp htwr
    obtain rfl := Option.some.inj htwr
    have hpercent : s.percent = d.value := by
      simp [ActivityStatement.percent, ActivityStatement.twr, hchange, htext, hd]
    have hdays : s.period = (some start, some stop) ∧ start ≤ stop := by
      unfold validPeriod at hperiod
      split at hperiod
      · rename_i start' stop' hsp
        split_ifs at hperiod with hle
        obtain ⟨rfl, rfl⟩ := Prod.mk.inj (Option.some.inj hperiod)
        exact ⟨hsp, hle⟩
      · cases hperiod
    exact ⟨d, hpercent, String.toList_ofList, rfl, rfl, hdays⟩
  · cases h

lemma returnAssessment_some {assessment : Assessment} {d : Decimal} (hd : native.twr.toList = Decimal.format d)
    (h : returnAssessment (some native) = some assessment) : ∃ percent ratio : Decimal, percent.value = d.value ∧
      ambient.divide percent hundred = some ratio ∧
      assessment = ⟨true, some "native_ibkr_twr", some (String.ofList (Decimal.format ratio)), some "ratio",
        some native.source⟩ := by
  obtain ⟨percent, hpercent, h⟩ := Option.bind_eq_some_iff.mp h
  obtain ⟨ratio, hratio, h⟩ := Option.bind_eq_some_iff.mp h
  rw [hd] at hpercent
  exact ⟨percent, ratio, Decimal.readFinite_format hpercent, hratio, (Option.some.inj h).symm⟩

lemma number_format {a : Ambient} {text : String} {d : Decimal} (h : text.toList = Decimal.format d)
    (hlen : text.length ≤ 64) : PeriodReturn.number a (some text) = .ok d.value := by
  obtain ⟨p, hp, hv⟩ := Decimal.format_plain d
  rw [number_eq]
  simp only [h, hp, not_lt.mpr hlen, if_false, Option.elim_some, hv]

end Published

section Accepted

structure Matching (upper : String → String) (s : ActivityStatement) (q : Scope) : Prop where
  scope : validScope q = true
  account : q.expectedAccountIds = [s.accountId]
  currency : isFlowCurrency (accountBaseCurrency upper s) = true
  observed : ∃ observed, q.observedAt = some observed ∧ ∀ stop ∈ s.period.2, stop ≤ dayOf observed

variable {upper : String → String} {s : ActivityStatement} {native : NativeReturns} {ledger : FlexLedger}

/-- A published return is exact, and it is accepted where its texts fit, exactly if the quotient of the percent fits the
context in which the ledger divides. -/
theorem native_twr_accepted_iff (a : Ambient) (q : Scope) (hl : buildFlexLedger upper s = some ledger)
    (hn : ledger.nativeReturns = some native) (hq : Matching upper s q) :
    (∃ ratio, ledger.returnAssessment.value = some ratio ∧ denotes ratio.toList = denotes native.twr.toList / 100 ∧
      (native.twr.length ≤ 64 → ratio.length ≤ 64 → -1 ≤ denotes ratio.toList →
        ∃ r, buildIbkrPeriodReturn a ledger q = .ok r ∧ r.sourceValue = native.twr ∧ r.value = ratio)) ↔
      ambient.Representable (s.percent / 100) := by
  obtain ⟨assessment, hassessment, hl⟩ := Option.bind_eq_some_iff.mp hl
  obtain rfl := (Option.some.inj hl).symm
  obtain ⟨d, hpercent, htwr, hunit, hsource, hperiod, hle⟩ := nativeReturns_some hn
  change nativeReturns upper s = some native at hn
  rw [hn] at hassessment
  obtain ⟨percent, ratio, hvalue, hratio, rfl⟩ := returnAssessment_some htwr hassessment
  have hhundred : hundred.value = 100 := by decide +kernel
  have hexact := Context.divide_exact_iff (b := hundred) (by decide) hratio
  rw [hhundred, hvalue, ← hpercent] at hexact
  have htext : (String.ofList (Decimal.format ratio)).toList = Decimal.format ratio := String.toList_ofList
  have hdenotes : denotes (String.ofList (Decimal.format ratio)).toList = ratio.value := by rw [htext, denotes_format]
  have hsame : denotes native.twr.toList = s.percent := by rw [htwr, denotes_format, hpercent]
  rw [← hexact]
  constructor
  · rintro ⟨text, hvalue, hquotient, -⟩
    obtain rfl := Option.some.inj hvalue
    rw [← hdenotes, hquotient, hsame]
  · intro hquotient
    refine ⟨_, rfl, by rw [hdenotes, hsame, hquotient], fun htwr64 hratio64 hleast => ?_⟩
    obtain ⟨observed, hobserved, hafter⟩ := hq.observed
    rw [hdenotes] at hleast
    have hnumber := number_format (a := a) htwr htwr64
    have hnumber' := number_format (a := a) htext hratio64
    have hstop : ¬ dayOf observed < native.stop := not_lt.mpr (hafter _ (by rw [hperiod]; rfl))
    have hequal : ¬ (ratio.value * 100 ≠ d.value ∨ ratio.value < -1) := by
      rw [not_or, not_not, hquotient, hpercent, div_mul_cancel₀ _ (by decide)]
      exact ⟨rfl, not_lt.mpr (by rwa [hquotient, hpercent] at hleast)⟩
    obtain ⟨navChange, hnav⟩ := optionalNavChange_total a s.accountId ((accountBaseCurrency upper s).getD "")
      (native.start, native.stop) (nativeNavChange upper s)
    have hordered : ¬ native.stop < native.start := not_lt.mpr hle
    refine ⟨⟨q, observed, (accountBaseCurrency upper s).getD "", (native.start, native.stop), native.twr, _, navChange⟩, ?_, rfl, rfl⟩
    simp only [buildIbkrPeriodReturn, hq.scope, hq.account, hn, hunit, hsource, hperiod, hobserved, hstop, hq.currency,
      hordered, Bool.not_true, Bool.false_eq_true, ne_eq, not_true_eq_false, or_self, if_false, List.headD_cons,
      Option.getD_some]
    rw [hnumber, hnumber']
    change (if _ then _ else _) = _
    rw [if_neg hequal, hnav]
    rfl

def twoDays (twr : String) : ActivityStatement where
  attrib := [("accountId", "U1"), ("fromDate", "20261102"), ("toDate", "20261103")]
  children := [⟨⟨"AccountInformation", [("accountId", "U1"), ("currency", "USD"), ("model", "")]⟩, []⟩,
    ⟨⟨"ChangeInNAV", [("accountId", "U1"), ("model", ""), ("currency", "USD"), ("fromDate", "20261102"),
      ("toDate", "20261103"), ("twr", twr)]⟩, []⟩]

def dayAfter : Scope where
  targetId := "ibkr-live"
  sourceBindingId := String.ofList (List.replicate 64 'a')
  accountScope := "main"
  expectedAccountIds := ["U1"]
  observedAt := some (FlexDaily.Calendar.hours (24 * 20761))

lemma twoDays_matching (twr : String) : Matching id (twoDays twr) dayAfter := by
  have hcurrency : accountBaseCurrency id (twoDays twr) = present (some (Text.strip "USD")) := by
    simp [accountBaseCurrency, ActivityStatement.findall, twoDays, Row.get, List.lookup_cons]
  have hperiod : (twoDays twr).period.2 = isoDate (some "20261103") := by
    simp [ActivityStatement.period, ActivityStatement.get, twoDays, List.lookup_cons]
  have haccount : (twoDays twr).accountId = Text.strip "U1" := by
    simp [ActivityStatement.accountId, ActivityStatement.get, twoDays]
  refine ⟨by decide, ?_, ?_, _, rfl, ?_⟩
  · rw [haccount]
    decide
  · rw [hcurrency]
    decide
  · rw [hperiod]
    decide

def dailyAmbient : Ambient := ⟨ambient, true⟩

def quarterLedger : FlexLedger := (buildFlexLedger id (twoDays "-1.25")).get (by decide)

theorem native_twr_accepted_quarter : ∃ ratio, quarterLedger.returnAssessment.value = some ratio ∧
    denotes ratio.toList = denotes "-1.25".toList / 100 ∧ ("-1.25".length ≤ 64 → ratio.length ≤ 64 →
      -1 ≤ denotes ratio.toList → ∃ r, buildIbkrPeriodReturn dailyAmbient quarterLedger dayAfter = .ok r ∧
        r.sourceValue = "-1.25" ∧ r.value = ratio) :=
  have hnative : quarterLedger.nativeReturns = some ⟨"-1.25", "percent", 20759, 20760, "ChangeInNAV.twr"⟩ := by
    decide
  (native_twr_accepted_iff dailyAmbient dayAfter (Option.some_get _).symm hnative (twoDays_matching "-1.25")).mpr
    ⟨-125, -4, by decide +kernel, by decide, by decide⟩

def longLedger : FlexLedger := (buildFlexLedger id (twoDays "1.2345678901234567890123456789")).get (by decide)

theorem native_twr_refused : ∃ native ratio, buildFlexLedger id (twoDays "1.2345678901234567890123456789") = some longLedger ∧
    longLedger.nativeReturns = some native ∧ longLedger.returnAssessment.value = some ratio ∧
    longLedger.returnAssessment.computable = true ∧ native.twr.length ≤ 64 ∧ ratio.length ≤ 64 ∧
    -1 ≤ denotes ratio.toList ∧ Matching id (twoDays "1.2345678901234567890123456789") dayAfter ∧
    denotes ratio.toList ≠ denotes native.twr.toList / 100 ∧
    buildIbkrPeriodReturn dailyAmbient longLedger dayAfter = .error .nativeValueInvalid := by
  refine ⟨⟨"1.2345678901234567890123456789", "percent", 20759, 20760, "ChangeInNAV.twr"⟩,
    "0.01234567890123456789012345679", (Option.some_get _).symm, ?_, ?_, ?_, ?_, ?_, ?_, twoDays_matching _, ?_, ?_⟩
  all_goals decide +kernel

end Accepted

end IbkrPlatform.Ledger.NativeReturn
