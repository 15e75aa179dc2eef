import Mathlib.Data.Prod.Lex
import Mathlib.Data.String.Basic
import IbkrPlatform.Library.DecimalText
import IbkrPlatform.Library.Document
import IbkrPlatform.Library.Gather
import IbkrPlatform.Library.Sole
import IbkrPlatform.Library.SortedList

/-! The cash fields that a broker reports for an account, attached to a report and inspected there. -/

namespace IbkrPlatform.Portfolio.CashObservations

open Library

def schema : String := "ibkr.cash_observations.v1"

/-- `sorted(TAGS)`. -/
def tags : List String :=
  ["$LEDGER-CashBalance", "$LEDGER-TotalCashBalance", "AvailableFunds", "CashBalance", "FullAvailableFunds", "SettledCash",
    "TotalCashBalance"]

/-- A native value: a text, a number of another type with the text that `str` shows for it, or no number. -/
inductive Native
  | text (s : String)
  | number (shown : String)
  | other

/-- A row of the account values; `modelCode` is `none` where it is missing or no text. -/
structure AccountValue where
  account : String
  currency : String
  tag : String
  value : Native
  modelCode : Option String

inductive Source
  | accountValuesCache
  | unspecified
deriving DecidableEq

def Source.name : Source → String
  | accountValuesCache => "account_values_cache"
  | unspecified => "unspecified"

structure Key where
  currency : String
  sourceTag : String
deriving DecidableEq

def Key.before (k j : Key) : Bool := toLex (k.currency, k.sourceTag) ≤ toLex (j.currency, j.sourceTag)

structure CashRow where
  currency : String
  details : List (String × String)
  cells : List (String × Native)

def decimal : Native → Option Decimal
  | .text s => Decimal.readFinite s.toList
  | .number shown => Decimal.readFinite shown.toList
  | .other => none

def withinBound (d : Decimal) : Bool := Decimal.digits d.coefficient + d.exponent.natAbs ≤ 4096

def decimalText (value : Native) : Option String :=
  (decimal value).bind fun d => if withinBound d then some (String.ofList (Decimal.format d)) else none

section Capture

variable (beyond : Char → List Char)

def currencyOf (text : String) : String := Text.upper beyond (Text.strip text)

def isCurrency (currency : String) : Bool := currency.toList.length = 3 ∧ currency.toList.all Text.isCapital

def modelScope (modelCode : Option String) : String :=
  match modelCode with
  | some code => if code = "" then "no_model_code" else if Text.strip code = "" then "unknown" else "model_specific"
  | none => "unknown"

def captured (accountIds : List String) (item : AccountValue) : Bool :=
  Text.strip item.account ∈ accountIds ∧ isCurrency (currencyOf beyond item.currency) ∧ Text.strip item.tag ∈ tags

def representation : Native → String
  | .text _ => "native_text"
  | _ => "non_text"

def detailsOf (source : Source) (item : AccountValue) : List (String × String) :=
  [("source_method", source.name), ("model_scope", modelScope item.modelCode),
    ("value_representation", representation item.value),
    ("segment_key", "unsuffixed")]

def rowOf (source : Source) (item : AccountValue) : CashRow where
  currency := currencyOf beyond item.currency
  details := detailsOf source item
  cells := [(Text.strip item.tag, (decimalText item.value).elim .other .text)]

def captureCashObservationRows (accountIds : List String) (source : Source) (items : List AccountValue) : List CashRow :=
  (items.filter (captured beyond accountIds)).map (rowOf beyond source)

def cellsOf (row : CashRow) : List (Key × (Native × List (String × String))) :=
  tags.filterMap fun tag => (row.cells.lookup tag).map fun value => (⟨currencyOf beyond row.currency, tag⟩, value, row.details)

end Capture

section Build

variable (beyond : Char → List Char)

def sortedByKey {B : Type} (kept : List (Key × B)) : List (Key × B) := kept.insertionSort fun a b => a.1.before b.1

def keyEntries (key : Key) : List (String × String) := [("currency", key.currency), ("source_tag", key.sourceTag)]

def texts (entries : List (String × String)) : Document := .dict (entries.map fun e => (e.1, .text e.2))

def valueDocument (e : Key × String) : Document := texts (keyEntries e.1 ++ [("value", e.2)])

def observationTable (rows : List CashRow) : Sole.Table Key String :=
  Sole.collect (fun cell => (decimalText cell.1).map some)
    ((rows.filter fun row => currencyOf beyond row.currency ≠ "BASE").flatMap (cellsOf beyond))

def buildCashObservations (rows : List CashRow) (observedAt : String) : Document :=
  let table := observationTable beyond rows
  .dict ([("schema_version", .text schema), ("observed_at", .text observedAt)] ++
    (if table.kept = [] then [] else [("values", .list ((sortedByKey table.kept).map valueDocument))]) ++
    if table.refused = [] then []
    else [("invalid_fields", .list ((table.refused.insertionSort fun a b => a.before b).map fun key => texts (keyEntries key)))])

def detailKeys : List String := ["source_method", "model_scope", "value_representation", "segment_key"]

def detailOf (cell : Native × List (String × String)) : Option (Option (List (String × String))) :=
  (decimalText cell.1).map fun _ =>
    if cell.2.lookup "source_method" = some "account_values_cache" ∧ detailKeys.all (fun k => (cell.2.lookup k).isSome) then
      some (detailKeys.map fun k => (k, (cell.2.lookup k).getD ""))
    else none

def detailTable (rows : List CashRow) : Sole.Table Key (List (String × String)) :=
  Sole.collect detailOf (rows.flatMap (cellsOf beyond))

def detailDocument (e : Key × List (String × String)) : Document := texts (keyEntries e.1 ++ e.2)

def buildCashSourceDetails (rows : List CashRow) (observedAt : String) : Document :=
  let table := detailTable beyond rows
  if table.kept = [] then .null
  else .dict [("observed_at", .text observedAt), ("fields", .list ((sortedByKey table.kept).map detailDocument))]

end Build

section Inspect

inductive FieldState | observed | invalid | missing
deriving DecidableEq

inductive Status | notReported | invalid | observedFieldsOnly | observedDetails
deriving DecidableEq

structure Scan where
  seen : List Key
  fields : List (String × FieldState)
  amounts : List (Key × Decimal)

/-- The checks on a row of `values` or of `invalid_fields`, with its key. -/
def rowKey (expected : List String) (entries : List (String × Document)) : Option Key :=
  if !Document.hasKeys expected entries then none
  else match Document.textAt entries "currency", Document.textAt entries "source_tag" with
    | some currency, some tag => if isCurrency currency ∧ tag ∈ tags then some ⟨currency, tag⟩ else none
    | _, _ => none

def note (currency : String) (state : FieldState) (key : Key) (s : Scan) : Scan :=
  { s with
    seen := key :: s.seen
    fields := if key.currency = currency then Dictionary.put key.sourceTag state s.fields else s.fields }

def scanValue (currency : String) (s : Scan) : Document → Option Scan
  | .dict entries => (rowKey ["currency", "source_tag", "value"] entries).bind fun key =>
    if key ∈ s.seen then none
    else ((Document.textAt entries "value").bind fun text => Decimal.readFinite text.toList).map fun d =>
      note currency .observed key { s with amounts := Dictionary.put key d s.amounts }
  | _ => none

def scanInvalid (currency : String) (s : Scan) : Document → Option Scan
  | .dict entries => (rowKey ["currency", "source_tag"] entries).bind fun key =>
    if key ∈ s.seen then none else some (note currency .invalid key s)
  | _ => none

structure SelectedCash where
  sourceTag : Option String
  cashBalance : Native

def agrees (currency : String) (s : Scan) : Option SelectedCash → Bool
  | none => true
  | some selected =>
    match selected.sourceTag with
    | none => false
    | some tag =>
      let key : Key := ⟨currency, tag⟩
      key ∉ s.seen ||
        match s.amounts.lookup key, decimal selected.cashBalance with
        | some amount, some balance => amount.value = balance.value
        | _, _ => false

def missing : List (String × FieldState) := tags.map fun tag => (tag, .missing)

def inspectCashObservations (value : Document) (observedAt currency : String) (selectedCash : Option SelectedCash) :
    Status × List (String × FieldState) :=
  match value with
  | .null => (.notReported, missing)
  | .dict entries =>
    if Document.textAt entries "schema_version" ≠ some schema ∨ Document.textAt entries "observed_at" ≠ some observedAt ∨
        observedAt = "" ∨
        (entries.map Prod.fst).any (· ∉ ["schema_version", "observed_at", "values", "invalid_fields"]) then
      (.invalid, missing)
    else
      match (Document.listAt entries "values").bind fun values => (Document.listAt entries "invalid_fields").bind fun invalid =>
        (values.foldlM (scanValue currency) ⟨[], missing, []⟩).bind fun s => invalid.foldlM (scanInvalid currency) s with
      | none => (.invalid, missing)
      | some s => if agrees currency s selectedCash then (.observedFieldsOnly, s.fields) else (.invalid, missing)
  | _ => (.invalid, missing)

def allowedKeys : Document → List Key
  | .dict entries => ((Document.listAt entries "values").getD []).filterMap fun row =>
    match row with
    | .dict row => match Document.textAt row "currency", Document.textAt row "source_tag" with
      | some currency, some tag => some ⟨currency, tag⟩
      | _, _ => none
    | _ => none
  | _ => []

abbrev Details := List (Key × List (String × String))

def scanDetail (allowed : List Key) (details : Details) : Document → Option Details
  | .dict entries =>
    let within (k : String) (values : List String) : Bool := (Document.textAt entries k).any (· ∈ values)
    if !Document.hasKeys (["currency", "source_tag"] ++ detailKeys) entries ∨
        !within "source_method" ["account_values_cache", "unspecified"] ∨
        !within "model_scope" ["no_model_code", "model_specific", "unknown"] ∨
        !within "value_representation" ["native_text", "non_text"] ∨ !within "segment_key" ["unsuffixed"] then none
    else match Document.textAt entries "currency", Document.textAt entries "source_tag" with
      | some currency, some tag =>
        let key : Key := ⟨currency, tag⟩
        if key ∉ allowed ∨ (details.lookup key).isSome then none
        else some (Dictionary.put key (detailKeys.map fun k => (k, (Document.textAt entries k).getD "")) details)
      | _, _ => none
  | _ => none

def inspectCashSourceDetails (value cashObservations : Document) (observedAt currency : String)
    (selectedCash : Option SelectedCash) : Status × List (String × List (String × String)) :=
  match value with
  | .null => (.notReported, [])
  | .dict entries =>
    if !Document.hasKeys ["observed_at", "fields"] entries ∨ Document.textAt entries "observed_at" ≠ some observedAt ∨
        (inspectCashObservations cashObservations observedAt currency selectedCash).1 ≠ .observedFieldsOnly then
      (.invalid, [])
    else
      match (Document.listAt entries "fields").bind fun rows => rows.foldlM (scanDetail (allowedKeys cashObservations)) [] with
      | none => (.invalid, [])
      | some details => (.observedDetails,
          (details.filter fun e => e.1.currency = currency).map fun e => (e.1.sourceTag, e.2))
  | _ => (.invalid, [])

end Inspect

section Texts

variable {d : Decimal} {v : Native} {t : String}

def reread (d : Decimal) : Decimal := ⟨d.negative, d.coefficient * 10 ^ d.exponent.toNat, -((-d.exponent).toNat : ℤ)⟩

lemma digits_scaled (n k : ℕ) : Decimal.digits (n * 10 ^ k) ≤ Decimal.digits n + k := by
  have hlt : n * 10 ^ k < 10 ^ (Decimal.digits n + k) := by
    rw [pow_add]
    exact Nat.mul_lt_mul_of_pos_right (Context.lt_digits n) (Nat.pow_pos (by decide))
  exact Context.digits_le hlt (Nat.add_pos_left (Nat.succ_pos _) k)

lemma withinBound_reread (h : withinBound d = true) : withinBound (reread d) = true := by
  have hbound : Decimal.digits d.coefficient + d.exponent.natAbs ≤ 4096 := of_decide_eq_true h
  have hdigits := digits_scaled d.coefficient d.exponent.toNat
  refine decide_eq_true ?_
  change Decimal.digits (d.coefficient * 10 ^ d.exponent.toNat) + (-((-d.exponent).toNat : ℤ)).natAbs ≤ 4096
  omega

lemma readFinite_format (h : withinBound d = true) : Decimal.readFinite (Decimal.format d) = some (reread d) := by
  have hbound : Decimal.digits (reread d).coefficient + (reread d).exponent.natAbs ≤ 4096 :=
    of_decide_eq_true (withinBound_reread h)
  have hread : Decimal.read (Decimal.format d) = some (.finite (reread d)) := by
    rw [Decimal.format, ← Decimal.fixed_text, Decimal.read_text, Decimal.fixed_decimal, if_pos]
    · rfl
    · change Decimal.buildable (reread d) = true
      refine decide_eq_true ⟨by omega, ?_⟩
      split_ifs <;> omega
  rw [Decimal.readFinite, hread]

lemma format_reread : Decimal.format (reread d) = Decimal.format d := by
  have hpos : (-((-d.exponent).toNat : ℤ)).toNat = 0 := by omega
  have hneg : (- -((-d.exponent).toNat : ℤ)).toNat = (-d.exponent).toNat := by omega
  change Decimal.fixedText d.negative (d.coefficient * 10 ^ d.exponent.toNat * 10 ^ (-((-d.exponent).toNat : ℤ)).toNat)
    (- -((-d.exponent).toNat : ℤ)).toNat = _
  rw [hpos, hneg, pow_zero, Nat.mul_one]
  rfl

lemma reread_value : (reread d).value = d.value := by
  obtain ⟨p, hp, hvalue⟩ := Decimal.format_plain d
  rw [← hvalue]
  have hfixed : Decimal.plain (Decimal.format d) =
      some (Decimal.fixed d.negative (d.coefficient * 10 ^ d.exponent.toNat) (-d.exponent).toNat) := by
    rw [Decimal.format, ← Decimal.fixed_text]
    exact Decimal.plain_of_text _
  rw [← Option.some.inj (hfixed.symm.trans hp), Decimal.fixed_decimal]
  rfl

lemma decimalText_some (h : decimalText v = some t) :
    ∃ d, decimal v = some d ∧ withinBound d = true ∧ t = String.ofList (Decimal.format d) := by
  obtain ⟨d, hd, h⟩ := Option.bind_eq_some_iff.mp h
  split_ifs at h with hbound
  exact ⟨d, hd, hbound, (Option.some.inj h).symm⟩

lemma finite_decimalText (h : decimalText v = some t) :
    ∃ d d', decimal v = some d ∧ Decimal.readFinite t.toList = some d' ∧ d'.value = d.value := by
  obtain ⟨d, hd, hbound, rfl⟩ := decimalText_some h
  rw [String.toList_ofList]
  exact ⟨d, reread d, hd, readFinite_format hbound, reread_value⟩

lemma decimalText_text (h : decimalText v = some t) : decimalText (.text t) = some t := by
  obtain ⟨d, hd, hbound, rfl⟩ := decimalText_some h
  rw [decimalText, decimal, String.toList_ofList, readFinite_format hbound, Option.bind_some, if_pos (withinBound_reread hbound), format_reread]

lemma decimalText_cell : decimalText ((decimalText v).elim .other .text) = decimalText v := by
  cases h : decimalText v with
  | none => rfl
  | some t => exact decimalText_text h

lemma decimalText_isSome : (decimalText v).isSome = (decimal v).any withinBound := by
  unfold decimalText
  cases hd : decimal v with
  | none => rfl
  | some d =>
    rw [Option.bind_some, Option.any_some]
    split_ifs with hbound
    · exact hbound.symm
    · exact (Bool.eq_false_iff.mpr hbound).symm

end Texts

section Cells

variable {beyond : Char → List Char} {accountIds : List String} {source : Source} {items : List AccountValue} {item : AccountValue}

def keyOf (beyond : Char → List Char) (item : AccountValue) : Key := ⟨currencyOf beyond item.currency, Text.strip item.tag⟩

lemma currencyOf_currency {currency : String} (h : isCurrency currency = true) : currencyOf beyond currency = currency := by
  have hcapitals : currency.toList.all Text.isCapital = true := (of_decide_eq_true h).2
  rw [currencyOf, Text.strip_capitals hcapitals, Text.upper_capitals beyond hcapitals]

lemma filterMap_lookup_single {A B : Type} {xs : List String} (hxs : xs.Nodup) {x : String} (hx : x ∈ xs) (v : A) (f : String → A → B) :
    (xs.filterMap fun y => (([(x, v)] : List (String × A)).lookup y).map (f y)) = [f x v] := by
  induction xs with
  | nil => cases hx
  | cons y ys ih =>
    obtain ⟨hy, hys⟩ := List.nodup_cons.mp hxs
    rcases List.mem_cons.mp hx with rfl | hx
    · have hnone : (ys.filterMap fun y => (([(x, v)] : List (String × A)).lookup y).map (f y)) = [] := by
        refine List.filterMap_eq_nil_iff.mpr fun y hmem => ?_
        have hne : (y == x) = false := beq_eq_false_iff_ne.mpr fun heq => hy (heq ▸ hmem)
        simp [List.lookup_cons, hne]
      rw [List.filterMap_cons, hnone]
      simp
    · have hne : (y == x) = false := beq_eq_false_iff_ne.mpr fun heq => hy (heq ▸ hx)
      rw [List.filterMap_cons, ih hys hx]
      simp [List.lookup_cons, hne]

def cellOf (source : Source) (item : AccountValue) : Native × List (String × String) :=
  ((decimalText item.value).elim .other .text, detailsOf source item)

lemma cellsOf_rowOf (h : captured beyond accountIds item = true) :
    cellsOf beyond (rowOf beyond source item) = [(keyOf beyond item, cellOf source item)] := by
  obtain ⟨-, hcurrency, htag⟩ := of_decide_eq_true h
  have hsame : currencyOf beyond (rowOf beyond source item).currency = currencyOf beyond item.currency :=
    currencyOf_currency hcurrency
  unfold cellsOf
  rw [hsame]
  exact filterMap_lookup_single (by decide) htag _ fun tag value =>
    ((⟨currencyOf beyond item.currency, tag⟩ : Key), value, detailsOf source item)

lemma cells_captured : (captureCashObservationRows beyond accountIds source items).flatMap (cellsOf beyond) =
    (items.filter (captured beyond accountIds)).map fun item => (keyOf beyond item, cellOf source item) := by
  rw [captureCashObservationRows, List.flatMap_map, ← List.flatMap_singleton' ((items.filter _).map _), List.flatMap_map]
  refine List.flatMap_congr fun item hitem => ?_
  exact cellsOf_rowOf (List.mem_filter.mp hitem).2

lemma captured_no_base : (captureCashObservationRows beyond accountIds source items).filter
    (fun row => currencyOf beyond row.currency ≠ "BASE") = captureCashObservationRows beyond accountIds source items := by
  refine List.filter_eq_self.mpr fun row hrow => decide_eq_true fun hbase => ?_
  obtain ⟨item, hitem, rfl⟩ := List.mem_map.mp hrow
  obtain ⟨-, hcurrency, -⟩ := of_decide_eq_true (List.mem_filter.mp hitem).2
  have hsame : currencyOf beyond (rowOf beyond source item).currency = currencyOf beyond item.currency :=
    currencyOf_currency hcurrency
  rw [hsame] at hbase
  rw [hbase] at hcurrency
  exact absurd hcurrency (by decide)

def rowsFor (beyond : Char → List Char) (accountIds : List String) (items : List AccountValue) (k : Key) : List AccountValue :=
  items.filter fun item => captured beyond accountIds item ∧ keyOf beyond item = k

lemma occurrences_captured (k : Key) :
    Sole.occurrences k ((captureCashObservationRows beyond accountIds source items).flatMap (cellsOf beyond)) =
      (rowsFor beyond accountIds items k).map (cellOf source) := by
  rw [cells_captured, Sole.occurrences, List.filter_map, List.map_map, rowsFor, List.filter_filter]
  refine congrArg₂ List.map rfl (List.filter_congr fun item _ => ?_)
  rw [Bool.eq_iff_iff]
  simp only [Function.comp_apply, Bool.and_eq_true, decide_eq_true_eq]
  exact and_comm

end Cells

section Tables

variable {beyond : Char → List Char} {accountIds : List String} {source : Source} {items : List AccountValue} {k : Key}

def expected : List AccountValue → FieldState
  | [] => .missing
  | [row] => if (decimal row.value).any withinBound then .observed else .invalid
  | _ => .invalid

lemma kept_iff (source : Source) {t : String} :
    (observationTable beyond (captureCashObservationRows beyond accountIds source items)).kept.lookup k = some t ↔
      ∃ item, rowsFor beyond accountIds items k = [item] ∧ decimalText item.value = some t := by
  rw [observationTable, captured_no_base, (Sole.collect_tells _ _).kept, occurrences_captured]
  cases rowsFor beyond accountIds items k with
  | nil => exact ⟨fun h => (nomatch h), fun ⟨_, h, _⟩ => (nomatch h)⟩
  | cons item rest =>
    cases rest with
    | nil =>
      change ((decimalText ((decimalText item.value).elim .other .text)).map some).join = some t ↔ _
      rw [decimalText_cell]
      cases ht : decimalText item.value with
      | none => exact ⟨fun h => (nomatch h), fun ⟨item', h, ht'⟩ => by
          rw [← (List.cons.inj h).1, ht] at ht'
          cases ht'⟩
      | some t' => exact ⟨fun h => ⟨item, rfl, ht.trans h⟩, fun ⟨item', h, ht'⟩ => by
          rw [← (List.cons.inj h).1, ht] at ht'
          exact ht'⟩
    | cons item' rest => exact ⟨fun h => (nomatch h), fun ⟨_, h, _⟩ => (nomatch h)⟩

lemma expected_observed_iff {rows : List AccountValue} :
    expected rows = .observed ↔ ∃ item t, rows = [item] ∧ decimalText item.value = some t := by
  cases rows with
  | nil => exact ⟨fun h => (nomatch h), fun ⟨_, _, h, _⟩ => (nomatch h)⟩
  | cons item rest =>
    cases rest with
    | nil =>
      rw [expected, ← decimalText_isSome]
      cases ht : decimalText item.value with
      | none => exact ⟨fun h => (nomatch h), fun ⟨item', t, h, ht'⟩ => by
          rw [← (List.cons.inj h).1, ht] at ht'
          cases ht'⟩
      | some t => exact ⟨fun _ => ⟨item, t, rfl, ht⟩, fun _ => rfl⟩
    | cons item' rest => exact ⟨fun h => (nomatch h), fun ⟨_, _, h, _⟩ => (nomatch h)⟩

lemma refused_iff :
    k ∈ (observationTable beyond (captureCashObservationRows beyond accountIds source items)).refused ↔
      expected (rowsFor beyond accountIds items k) = .invalid := by
  rw [observationTable, captured_no_base, (Sole.collect_tells _ _).refused, occurrences_captured]
  cases rowsFor beyond accountIds items k with
  | nil => exact ⟨fun h => (h.1 rfl).elim, fun h => (nomatch h)⟩
  | cons item rest =>
    cases rest with
    | nil =>
      change (_ ∧ (decimalText ((decimalText item.value).elim .other .text)).map some = none) ↔
        (if (decimal item.value).any withinBound then FieldState.observed else .invalid) = .invalid
      rw [decimalText_cell, ← decimalText_isSome]
      cases decimalText item.value with
      | none => exact ⟨fun _ => rfl, fun _ => ⟨List.cons_ne_nil _ _, rfl⟩⟩
      | some t => exact ⟨fun h => (nomatch h.2), fun h => (nomatch h)⟩
    | cons item' rest => exact ⟨fun _ => rfl, fun _ => ⟨List.cons_ne_nil _ _, rfl⟩⟩

end Tables

section Scans

variable {currency tag : String} {state : FieldState} {s : Scan} {k : Key}

lemma rowKey_value {t : String} (hc : isCurrency k.currency = true) (ht : k.sourceTag ∈ tags) :
    rowKey ["currency", "source_tag", "value"] ((keyEntries k ++ [("value", t)]).map fun e => (e.1, Document.text e.2)) = some k := by
  have hkeys : Document.hasKeys ["currency", "source_tag", "value"]
      ((keyEntries k ++ [("value", t)]).map fun e => (e.1, Document.text e.2)) = true := rfl
  unfold rowKey
  rw [hkeys]
  change (if isCurrency k.currency = true ∧ k.sourceTag ∈ tags then some k else none) = some k
  rw [if_pos ⟨hc, ht⟩]

lemma rowKey_invalid (hc : isCurrency k.currency = true) (ht : k.sourceTag ∈ tags) :
    rowKey ["currency", "source_tag"] ((keyEntries k).map fun e => (e.1, Document.text e.2)) = some k := by
  have hkeys : Document.hasKeys ["currency", "source_tag"] ((keyEntries k).map fun e => (e.1, Document.text e.2)) = true := rfl
  unfold rowKey
  rw [hkeys]
  change (if isCurrency k.currency = true ∧ k.sourceTag ∈ tags then some k else none) = some k
  rw [if_pos ⟨hc, ht⟩]

lemma scanValue_document {t : String} {d : Decimal} (hc : isCurrency k.currency = true) (ht : k.sourceTag ∈ tags)
    (hd : Decimal.readFinite t.toList = some d) (hnew : k ∉ s.seen) : scanValue currency s (valueDocument (k, t)) =
      some (note currency .observed k { s with amounts := Dictionary.put k d s.amounts }) := by
  change (rowKey _ ((keyEntries k ++ [("value", t)]).map fun e => (e.1, Document.text e.2))).bind _ = _
  rw [rowKey_value hc ht, Option.bind_some, if_neg hnew]
  change ((some t).bind fun text => Decimal.readFinite text.toList).map _ = _
  rw [Option.bind_some, hd, Option.map_some]

lemma scanInvalid_document (hc : isCurrency k.currency = true) (ht : k.sourceTag ∈ tags) (hnew : k ∉ s.seen) :
    scanInvalid currency s (texts (keyEntries k)) = some (note currency .invalid k s) := by
  change (rowKey _ ((keyEntries k).map fun e => (e.1, Document.text e.2))).bind _ = _
  rw [rowKey_invalid hc ht, Option.bind_some, if_neg hnew]

lemma foldlM_notes {E : Type} (currency : String) (state : FieldState) {f : Scan → Document → Option Scan}
    {doc : E → Document} {key : E → Key} {es : List E} {s : Scan}
    (hread : ∀ e ∈ es, ∀ s : Scan, key e ∉ s.seen →
      ∃ amounts, f s (doc e) = some (note currency state (key e) { s with amounts := amounts }))
    (hnodup : (es.map key).Nodup) (hnew : ∀ e ∈ es, key e ∉ s.seen) :
    ∃ s', (es.map doc).foldlM f s = some s' ∧ (∀ k, k ∈ s'.seen ↔ k ∈ s.seen ∨ k ∈ es.map key) ∧
      ∀ tag, s'.fields.lookup tag = if ⟨currency, tag⟩ ∈ es.map key then some state else s.fields.lookup tag := by
  induction es generalizing s with
  | nil => exact ⟨s, rfl, fun k => by simp, fun tag => by simp⟩
  | cons e es ih =>
    rw [List.forall_mem_cons] at hread hnew
    rw [List.map_cons, List.nodup_cons] at hnodup
    obtain ⟨amounts, hstep⟩ := hread.1 s hnew.1
    obtain ⟨s', hs', hseen, hfields⟩ := ih hread.2 hnodup.2
      (s := note currency state (key e) { s with amounts := amounts }) fun e' he' hmem => (List.mem_cons.mp hmem).elim
        (fun heq => hnodup.1 (heq ▸ List.mem_map_of_mem he')) (hnew.2 e' he')
    refine ⟨s', ?_, fun k => ?_, fun tag => ?_⟩
    · rw [List.map_cons, List.foldlM_cons, hstep]
      exact hs'
    · rw [hseen, List.map_cons, List.mem_cons]
      change (k ∈ key e :: s.seen ∨ _) ↔ _
      rw [List.mem_cons]
      tauto
    · rw [hfields, List.map_cons]
      simp only [List.mem_cons]
      by_cases hrest : (⟨currency, tag⟩ : Key) ∈ es.map key
      · rw [if_pos hrest, if_pos (.inr hrest)]
      · rw [if_neg hrest]
        unfold note
        by_cases hcurrency : (key e).currency = currency
        · rw [if_pos hcurrency, Dictionary.lookup_put]
          by_cases htag : tag = (key e).sourceTag
          · rw [if_pos htag, if_pos]
            exact .inl (by rw [htag, ← hcurrency])
          · rw [if_neg htag, if_neg]
            rintro (heq | h)
            · exact htag (congrArg Key.sourceTag heq)
            · exact hrest h
        · rw [if_neg hcurrency, if_neg]
          rintro (heq | h)
          · exact hcurrency (congrArg Key.currency heq).symm
          · exact hrest h

end Scans

section Attachment

variable {beyond : Char → List Char} {accountIds : List String} {source : Source} {items : List AccountValue}
  {observedAt currency : String}

lemma of_mem_rowsFor {item : AccountValue} {k : Key} (h : item ∈ rowsFor beyond accountIds items k) :
    isCurrency k.currency = true ∧ k.sourceTag ∈ tags := by
  obtain ⟨hcaptured, rfl⟩ := of_decide_eq_true (List.mem_filter.mp h).2
  exact (of_decide_eq_true hcaptured).2

lemma of_expected {k : Key} (h : expected (rowsFor beyond accountIds items k) ≠ .missing) :
    isCurrency k.currency = true ∧ k.sourceTag ∈ tags := by
  cases hrows : rowsFor beyond accountIds items k with
  | nil =>
    rw [hrows] at h
    exact (h rfl).elim
  | cons item rest => exact of_mem_rowsFor (by rw [hrows]; exact List.mem_cons_self)

structure Attached (beyond : Char → List Char) (accountIds : List String) (items : List AccountValue) (values : List (Key × String))
    (invalid : List Key) : Prop where
  values_iff : ∀ k t, (k, t) ∈ values ↔ ∃ item, rowsFor beyond accountIds items k = [item] ∧ decimalText item.value = some t
  invalid_iff : ∀ k, k ∈ invalid ↔ expected (rowsFor beyond accountIds items k) = .invalid
  keys : (values.map Prod.fst).Nodup
  refusals : invalid.Nodup

lemma attached_table (source : Source) : Attached beyond accountIds items
    (sortedByKey (observationTable beyond (captureCashObservationRows beyond accountIds source items)).kept)
    ((observationTable beyond (captureCashObservationRows beyond accountIds source items)).refused.insertionSort
      fun a b => a.before b) := by
  have htells := Sole.collect_tells (fun cell : Native × List (String × String) => (decimalText cell.1).map some)
    (((captureCashObservationRows beyond accountIds source items).filter fun row => currencyOf beyond row.currency ≠ "BASE").flatMap
      (cellsOf beyond))
  have hperm := List.perm_insertionSort (fun a b : Key × String => a.1.before b.1)
    (observationTable beyond (captureCashObservationRows beyond accountIds source items)).kept
  have hperm' := List.perm_insertionSort (fun a b : Key => a.before b)
    (observationTable beyond (captureCashObservationRows beyond accountIds source items)).refused
  refine ⟨fun k t => ?_, fun k => ?_, ?_, ?_⟩
  · rw [sortedByKey, hperm.mem_iff, ← kept_iff source]
    exact ⟨fun h => Gather.Keyed.lookup htells.keys h, Dictionary.mem_of_lookup⟩
  · rw [hperm'.mem_iff, refused_iff]
  · exact (hperm.map Prod.fst).nodup_iff.mpr htells.keys
  · exact hperm'.nodup_iff.mpr htells.refusals

lemma lookup_missing {tag : String} (h : tag ∈ tags) : missing.lookup tag = some .missing := by
  have hlookup : ∀ xs : List String, tag ∈ xs → (xs.map fun t => (t, FieldState.missing)).lookup tag = some .missing := by
    intro xs hmem
    induction xs with
    | nil => cases hmem
    | cons x xs ih =>
      rw [List.map_cons, Dictionary.lookup_cons]
      by_cases hx : tag = x
      · rw [if_pos hx]
      · rw [if_neg hx]
        exact ih ((List.mem_cons.mp hmem).resolve_left hx)
  exact hlookup tags h

lemma Attached.scan {values : List (Key × String)} {invalid : List Key} (h : Attached beyond accountIds items values invalid)
    (currency : String) : ∃ s, (((values.map valueDocument).foldlM (scanValue currency) ⟨[], missing, []⟩).bind fun s =>
        (invalid.map fun key => texts (keyEntries key)).foldlM (scanInvalid currency) s) = some s ∧
      ∀ tag ∈ tags, s.fields.lookup tag = some (expected (rowsFor beyond accountIds items ⟨currency, tag⟩)) := by
  have hobserved : ∀ k, k ∈ values.map Prod.fst ↔ expected (rowsFor beyond accountIds items k) = .observed := by
    intro k
    rw [expected_observed_iff, List.mem_map]
    constructor
    · rintro ⟨⟨k, t⟩, he, rfl⟩
      obtain ⟨item, hrows, ht⟩ := (h.values_iff k t).mp he
      exact ⟨item, t, hrows, ht⟩
    · rintro ⟨item, t, hrows, ht⟩
      exact ⟨(k, t), (h.values_iff k t).mpr ⟨item, hrows, ht⟩, rfl⟩
  have hvalues : ∀ e ∈ values, ∀ s : Scan, e.1 ∉ s.seen →
      ∃ amounts, scanValue currency s (valueDocument e) = some (note currency .observed e.1 { s with amounts := amounts }) := by
    intro e he s hnew
    obtain ⟨item, hrows, htext⟩ := (h.values_iff e.1 e.2).mp he
    obtain ⟨d, d', -, hd', -⟩ := finite_decimalText htext
    have hmem : item ∈ rowsFor beyond accountIds items e.1 := by
      rw [hrows]
      exact List.mem_singleton_self item
    exact ⟨_, scanValue_document (of_mem_rowsFor hmem).1 (of_mem_rowsFor hmem).2 hd' hnew⟩
  obtain ⟨s₁, hs₁, hseen, hfields⟩ := foldlM_notes currency .observed hvalues h.keys (s := ⟨[], missing, []⟩)
    fun e he hmem => nomatch hmem
  have hinvalid : ∀ k ∈ invalid, ∀ s : Scan, k ∉ s.seen →
      ∃ amounts, scanInvalid currency s (texts (keyEntries k)) = some (note currency .invalid k { s with amounts := amounts }) := by
    intro k hk s hnew
    have hexpected := of_expected (k := k) (by rw [(h.invalid_iff k).mp hk]; exact fun h => nomatch h)
    exact ⟨s.amounts, scanInvalid_document hexpected.1 hexpected.2 hnew⟩
  have hnodup : (invalid.map id).Nodup := by
    rw [List.map_id]
    exact h.refusals
  obtain ⟨s₂, hs₂, -, hfields₂⟩ := foldlM_notes currency .invalid hinvalid hnodup (s := s₁) fun k hk hmem => by
    have hk' := (hobserved k).mp (((hseen k).mp hmem).resolve_left fun h => nomatch h)
    rw [(h.invalid_iff k).mp hk] at hk'
    cases hk'
  refine ⟨s₂, ?_, fun tag htag => ?_⟩
  · rw [hs₁]
    exact hs₂
  · rw [hfields₂, hfields]
    simp only [List.map_id', h.invalid_iff, hobserved, lookup_missing htag]
    cases expected (rowsFor beyond accountIds items ⟨currency, tag⟩) with
    | observed => rfl
    | invalid => rfl
    | missing => rfl

structure Built (observedAt : String) (values : List (Key × String)) (invalid : List Key) (entries : List (String × Document)) : Prop where
  schema : Document.textAt entries "schema_version" = some schema
  observedAt : Document.textAt entries "observed_at" = some observedAt
  known : (entries.map Prod.fst).any (· ∉ ["schema_version", "observed_at", "values", "invalid_fields"]) = false
  values : Document.listAt entries "values" = some (values.map valueDocument)
  invalid : Document.listAt entries "invalid_fields" = some (invalid.map fun key => texts (keyEntries key))

lemma insertionSort_eq_nil {A : Type} (r : A → A → Prop) [DecidableRel r] {xs : List A} : xs.insertionSort r = [] ↔ xs = [] := by
  rw [← List.length_eq_zero_iff, (List.perm_insertionSort r xs).length_eq, List.length_eq_zero_iff]

lemma built (beyond : Char → List Char) (rows : List CashRow) (observedAt : String) :
    ∃ entries, buildCashObservations beyond rows observedAt = .dict entries ∧
      Built observedAt (sortedByKey (observationTable beyond rows).kept)
        ((observationTable beyond rows).refused.insertionSort fun a b => a.before b) entries := by
  refine ⟨_, rfl, ?_⟩
  by_cases hkept : (observationTable beyond rows).kept = []
  · have hsorted : sortedByKey (observationTable beyond rows).kept = [] := (insertionSort_eq_nil _).mpr hkept
    rw [if_pos hkept, hsorted]
    by_cases hrefused : (observationTable beyond rows).refused = []
    · rw [if_pos hrefused, (insertionSort_eq_nil _).mpr hrefused]
      exact ⟨rfl, rfl, rfl, rfl, rfl⟩
    · rw [if_neg hrefused]
      exact ⟨rfl, rfl, rfl, rfl, rfl⟩
  · rw [if_neg hkept]
    by_cases hrefused : (observationTable beyond rows).refused = []
    · rw [if_pos hrefused, (insertionSort_eq_nil _).mpr hrefused]
      exact ⟨rfl, rfl, rfl, rfl, rfl⟩
    · rw [if_neg hrefused]
      exact ⟨rfl, rfl, rfl, rfl, rfl⟩

lemma roundTrip_list {A : Type} {xs : List A} {doc : A → Document} (h : ∀ x, (doc x).roundTrip = doc x) :
    (Document.list (xs.map doc)).roundTrip = .list (xs.map doc) := by
  rw [Document.roundTrip, Document.roundTripAll_eq]
  intro x hx
  obtain ⟨y, -, rfl⟩ := List.mem_map.mp hx
  exact h y

lemma roundTrip_observations (beyond : Char → List Char) (rows : List CashRow) (observedAt : String) :
    (buildCashObservations beyond rows observedAt).roundTrip = buildCashObservations beyond rows observedAt := by
  unfold buildCashObservations
  extract_lets table
  rw [Document.roundTrip, Document.roundTripEntries_eq]
  intro e he
  rcases List.mem_append.mp he with he | he
  · rcases List.mem_append.mp he with he | he
    · rcases List.mem_cons.mp he with rfl | he
      · rfl
      · rw [List.mem_singleton.mp he]
        rfl
    · split_ifs at he
      · cases he
      · rw [List.mem_singleton.mp he]
        exact roundTrip_list fun e => Document.roundTrip_texts _
  · split_ifs at he
    · cases he
    · rw [List.mem_singleton.mp he]
      exact roundTrip_list fun key => Document.roundTrip_texts _

lemma inspect_observations (beyond : Char → List Char) (accountIds : List String) (source : Source) (items : List AccountValue)
    (currency : String) (hnonempty : observedAt ≠ "") :
    ∃ fields, inspectCashObservations (buildCashObservations beyond (captureCashObservationRows beyond accountIds source items) observedAt)
        observedAt currency none = (.observedFieldsOnly, fields) ∧
      ∀ tag ∈ tags, fields.lookup tag = some (expected (rowsFor beyond accountIds items ⟨currency, tag⟩)) := by
  obtain ⟨entries, heq, hb⟩ := built beyond (captureCashObservationRows beyond accountIds source items) observedAt
  obtain ⟨s, hs, hfields⟩ := (attached_table source).scan currency
  refine ⟨s.fields, ?_, hfields⟩
  rw [heq, inspectCashObservations, if_neg, hb.values, hb.invalid, Option.bind_some, Option.bind_some, hs]
  · rfl
  · rw [hb.schema, hb.observedAt, hb.known]
    simp [hnonempty]

end Attachment

section SourceDetails

variable {beyond : Char → List Char} {accountIds : List String} {source : Source} {items : List AccountValue}
  {observedAt currency : String} {k : Key} {allowed : List Key}

lemma detailOf_cell (source : Source) (item : AccountValue) : detailOf (cellOf source item) =
    (decimalText item.value).map fun _ => if source = .accountValuesCache then some (detailsOf source item) else none := by
  unfold detailOf cellOf
  rw [decimalText_cell]
  cases source <;> rfl

lemma details_iff {details : List (String × String)} :
    (detailTable beyond (captureCashObservationRows beyond accountIds source items)).kept.lookup k = some details ↔
      ∃ item, rowsFor beyond accountIds items k = [item] ∧ (decimalText item.value).isSome ∧
        source = .accountValuesCache ∧ details = detailsOf source item := by
  rw [detailTable, (Sole.collect_tells _ _).kept, occurrences_captured]
  cases rowsFor beyond accountIds items k with
  | nil => exact ⟨fun h => (nomatch h), fun ⟨_, h, _⟩ => (nomatch h)⟩
  | cons item rest =>
    cases rest with
    | nil =>
      change (detailOf (cellOf source item)).join = some details ↔ _
      rw [detailOf_cell]
      constructor
      · intro h
        obtain ⟨t, ht, h⟩ := Option.map_eq_some_iff.mp (Option.join_eq_some_iff.mp h)
        split_ifs at h with hsource
        exact ⟨item, rfl, by rw [ht]; rfl, hsource, (Option.some.inj h).symm⟩
      · rintro ⟨item', h, ht, hsource, rfl⟩
        obtain rfl := (List.cons.inj h).1
        obtain ⟨t, ht⟩ := Option.isSome_iff_exists.mp ht
        rw [ht, Option.map_some, if_pos hsource]
        rfl
    | cons item' rest => exact ⟨fun h => (nomatch h), fun ⟨_, h, _⟩ => (nomatch h)⟩

lemma modelScope_known (code : Option String) : modelScope code ∈ ["no_model_code", "model_specific", "unknown"] := by
  unfold modelScope
  split
  · split_ifs <;> decide
  · decide

lemma scanDetail_document {item : AccountValue} {details : Details} (hallowed : k ∈ allowed) (hnew : details.lookup k = none) :
    scanDetail allowed details (detailDocument (k, detailsOf source item)) =
      some (Dictionary.put k (detailsOf source item) details) := by
  have hmethod : decide (source.name ∈ ["account_values_cache", "unspecified"]) = true := by cases source <;> decide
  have hscope : decide (modelScope item.modelCode ∈ ["no_model_code", "model_specific", "unknown"]) = true :=
    decide_eq_true (modelScope_known item.modelCode)
  have hrepresentation : decide (representation item.value ∈ ["native_text", "non_text"]) = true := by
    cases item.value <;> rfl
  have hkey : ¬ (k ∉ allowed ∨ (details.lookup k).isSome = true) := by
    rw [hnew]
    simp [hallowed]
  change (if (!true) = true ∨ (!decide (source.name ∈ ["account_values_cache", "unspecified"])) = true ∨
      (!decide (modelScope item.modelCode ∈ ["no_model_code", "model_specific", "unknown"])) = true ∨
      (!decide (representation item.value ∈ ["native_text", "non_text"])) = true ∨
      (!true) = true then none
    else if k ∉ allowed ∨ (details.lookup k).isSome then none else some (Dictionary.put k (detailsOf source item) details)) = _
  rw [hmethod, hscope, hrepresentation, if_neg (by decide), if_neg hkey]

lemma foldlM_details {es : Details} (allowed : List Key) (details : Details) (hread : ∀ e ∈ es, ∃ item, e.2 = detailsOf source item)
    (hallowed : ∀ e ∈ es, e.1 ∈ allowed) (hnodup : (es.map Prod.fst).Nodup) (hnew : ∀ e ∈ es, details.lookup e.1 = none) :
    ∃ details', (es.map detailDocument).foldlM (scanDetail allowed) details = some details' := by
  induction es generalizing details with
  | nil => exact ⟨details, rfl⟩
  | cons e es ih =>
    obtain ⟨k, d⟩ := e
    rw [List.forall_mem_cons] at hread hallowed hnew
    rw [List.map_cons, List.nodup_cons] at hnodup
    obtain ⟨item, rfl⟩ := hread.1
    rw [List.map_cons, List.foldlM_cons, scanDetail_document hallowed.1 hnew.1]
    refine ih _ hread.2 hallowed.2 hnodup.2 fun e he => ?_
    rw [Dictionary.lookup_put_ne, hnew.2 e he]
    intro heq
    have hmem := List.mem_map_of_mem (f := Prod.fst) he
    rw [heq] at hmem
    exact hnodup.1 hmem

def valueRows : Document → List (Key × String)
  | .dict entries => ((Document.listAt entries "values").getD []).filterMap fun row =>
    match row with
    | .dict row => match Document.textAt row "currency", Document.textAt row "source_tag", Document.textAt row "value" with
      | some currency, some tag, some text => some (⟨currency, tag⟩, text)
      | _, _, _ => none
    | _ => none
  | _ => []

lemma valueRows_built (beyond : Char → List Char) (rows : List CashRow) (observedAt : String) :
    valueRows (buildCashObservations beyond rows observedAt) = sortedByKey (observationTable beyond rows).kept ∧
      allowedKeys (buildCashObservations beyond rows observedAt) = (sortedByKey (observationTable beyond rows).kept).map Prod.fst := by
  obtain ⟨entries, heq, hb⟩ := built beyond rows observedAt
  rw [heq, valueRows, allowedKeys, hb.values, Option.getD_some, List.filterMap_map, List.filterMap_map]
  constructor
  · exact List.filterMap_some
  · rw [← List.filterMap_eq_map]
    rfl

lemma roundTrip_details (beyond : Char → List Char) (rows : List CashRow) (observedAt : String) :
    (buildCashSourceDetails beyond rows observedAt).roundTrip = buildCashSourceDetails beyond rows observedAt := by
  unfold buildCashSourceDetails
  extract_lets table
  split_ifs
  · rfl
  · rw [Document.roundTrip, Document.roundTripEntries_eq]
    intro e he
    rcases List.mem_cons.mp he with rfl | he
    · rfl
    · rw [List.mem_singleton.mp he]
      exact roundTrip_list fun e => Document.roundTrip_texts _

lemma inspect_details (hnonempty : observedAt ≠ "")
    (hsome : buildCashSourceDetails beyond (captureCashObservationRows beyond accountIds source items) observedAt ≠ .null) :
    (inspectCashSourceDetails
      (buildCashSourceDetails beyond (captureCashObservationRows beyond accountIds source items) observedAt)
      (buildCashObservations beyond (captureCashObservationRows beyond accountIds source items) observedAt)
      observedAt currency none).1 = .observedDetails := by
  have htells := Sole.collect_tells detailOf
    ((captureCashObservationRows beyond accountIds source items).flatMap (cellsOf beyond))
  have hperm := List.perm_insertionSort (fun a b : Key × List (String × String) => a.1.before b.1)
    (detailTable beyond (captureCashObservationRows beyond accountIds source items)).kept
  have hmem : ∀ e ∈ sortedByKey (detailTable beyond (captureCashObservationRows beyond accountIds source items)).kept,
      ∃ item, rowsFor beyond accountIds items e.1 = [item] ∧ (decimalText item.value).isSome ∧
        source = .accountValuesCache ∧ e.2 = detailsOf source item :=
    fun e he => details_iff.mp (Gather.Keyed.lookup htells.keys (hperm.mem_iff.mp he))
  obtain ⟨details', hfold⟩ : ∃ details', ((sortedByKey (detailTable beyond (captureCashObservationRows beyond accountIds source items)).kept).map
      detailDocument).foldlM (scanDetail (allowedKeys (buildCashObservations beyond
        (captureCashObservationRows beyond accountIds source items) observedAt))) [] = some details' := foldlM_details
    (allowedKeys (buildCashObservations beyond (captureCashObservationRows beyond accountIds source items) observedAt)) []
    (fun e he => by
      obtain ⟨item, -, -, -, hdetails⟩ := hmem e he
      exact ⟨item, hdetails⟩)
    (fun e he => by
      obtain ⟨item, hrows, ht, -, -⟩ := hmem e he
      obtain ⟨t, ht⟩ := Option.isSome_iff_exists.mp ht
      rw [(valueRows_built _ _ _).2]
      exact List.mem_map_of_mem (((attached_table source).values_iff e.1 t).mpr ⟨item, hrows, ht⟩))
    ((hperm.map Prod.fst).nodup_iff.mpr htells.keys) fun e he => rfl
  obtain ⟨fields, hinspect, -⟩ := inspect_observations beyond accountIds source items currency hnonempty
  unfold buildCashSourceDetails at hsome ⊢
  extract_lets table at hsome
  extract_lets
  split_ifs at hsome ⊢
  · exact (hsome rfl).elim
  · rw [inspectCashSourceDetails, hinspect, if_neg]
    · have hlist : Document.listAt [("observed_at", .text observedAt), ("fields", .list ((sortedByKey table.kept).map detailDocument))]
          "fields" = some ((sortedByKey table.kept).map detailDocument) := rfl
      rw [hlist, Option.bind_some, hfold]
    · rintro (h | h | h)
      · cases h
      · exact h rfl
      · exact h rfl

end SourceDetails

/-- What is attached is accepted when it is inspected, and holds exactly the native numbers. -/
theorem cash_attachment_faithful (beyond : Char → List Char) (accountIds : List String) (source : Source)
    (items : List AccountValue) (observedAt : {text : String // text ≠ ""}) (currency : String) :
    let rows := captureCashObservationRows beyond accountIds source items
    let attachment := buildCashObservations beyond rows observedAt
    let details := buildCashSourceDetails beyond rows observedAt
    ∀ value ∈ [attachment, attachment.roundTrip],
      (inspectCashObservations value observedAt currency none).1 = .observedFieldsOnly ∧
      (∀ tag ∈ tags, (inspectCashObservations value observedAt currency none).2.lookup tag =
        some (expected (rowsFor beyond accountIds items ⟨currency, tag⟩))) ∧
      (∀ e ∈ valueRows value, ∃ item d d', rowsFor beyond accountIds items e.1 = [item] ∧ decimal item.value = some d ∧
        Decimal.readFinite e.2.toList = some d' ∧ d'.value = d.value) ∧
      (details = .null ∨ ∀ attached ∈ [details, details.roundTrip],
        (inspectCashSourceDetails attached value observedAt currency none).1 = .observedDetails) := by
  intro rows attachment details value hvalue
  have heq : value = attachment := by
    rcases List.mem_cons.mp hvalue with rfl | hvalue
    · rfl
    · rw [List.mem_singleton.mp hvalue]
      exact roundTrip_observations beyond rows observedAt
  obtain ⟨fields, hinspect, hfields⟩ := inspect_observations beyond accountIds source items currency observedAt.2
  rw [heq, hinspect]
  refine ⟨rfl, hfields, fun e he => ?_, ?_⟩
  · rw [(valueRows_built beyond rows observedAt).1] at he
    obtain ⟨item, hrows, ht⟩ := ((attached_table source).values_iff e.1 e.2).mp he
    obtain ⟨d, d', hd, hd', hvalue⟩ := finite_decimalText ht
    exact ⟨item, d, d', hrows, hd, hd', hvalue⟩
  · refine or_iff_not_imp_left.mpr fun hsome attached hattached => ?_
    have heq' : attached = details := by
      rcases List.mem_cons.mp hattached with rfl | hattached
      · rfl
      · rw [List.mem_singleton.mp hattached]
        exact roundTrip_details beyond rows observedAt
    rw [heq']
    exact inspect_details observedAt.2 hsome

example :
    let rows := captureCashObservationRows (fun _ => []) ["U1"] .accountValuesCache
      [⟨"U1", "usd", "SettledCash", .text "100.50", some ""⟩, ⟨"U1", "USD", "CashBalance", .text "n/a", none⟩,
        ⟨"U1", "USD", "AvailableFunds", .number "1.0", none⟩, ⟨"U1", "USD", "AvailableFunds", .number "1.0", none⟩]
    (inspectCashObservations (buildCashObservations (fun _ => []) rows "2026-11-03T00:00:00+00:00") "2026-11-03T00:00:00+00:00" "USD"
      none).2.filter (fun e => e.2 ≠ .missing) =
        [("AvailableFunds", .invalid), ("CashBalance", .invalid), ("SettledCash", .observed)] := by decide +kernel

end IbkrPlatform.Portfolio.CashObservations
