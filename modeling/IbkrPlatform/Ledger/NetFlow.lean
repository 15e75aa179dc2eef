import Mathlib.Algebra.BigOperators.Group.List.Basic
import Mathlib.Algebra.Order.BigOperators.Group.List
import Mathlib.Algebra.Group.Action.Defs
import IbkrPlatform.Ledger.Projections

/-! The net external flow of a ledger, and the rows that it leaves out. -/

namespace IbkrPlatform.Ledger.NetFlow

open FlexDaily (Day Row Statement)
open Library Projections Gather

def ambient : Context := ⟨28, 999999, -999999, by decide⟩

def decimalText (value : Option String) : Option (List Char) := do
  let text ← value
  let d ← Decimal.readFinite text.toList
  pure (Decimal.format d)

structure Total where
  amount : List Char
  currency : Option String
  lineCount : ℕ
deriving DecidableEq

/-- `_single_currency_total`; the outer `none` is an exception of the decimal context. -/
def singleCurrencyTotal (fallback : Option String) (entries : List (String × List Char)) : Option (Option Total) :=
  match (entries.map Prod.fst).eraseDups with
  | _ :: _ :: _ => some none
  | currencies => do
    let amounts ← entries.mapM fun e => Decimal.readFinite e.2
    let total ← ambient.sum Decimal.zero amounts
    pure (some ⟨Decimal.format total, currencies.head?.or fallback, entries.length⟩)

section Lines

variable (upper : String → String)

/-- `strip().upper()` of a field that may be absent. -/
def normalised (row : Row) (field : String) : String := upper (Text.strip ((row.get field).getD ""))

def isFlow (row : Row) : Bool := normalised upper row "activityCode" ∈ ["DEP", "WITH"]

def unprojected (row : Row) : Bool := row.get "activityCode" ≠ some (normalised upper row "activityCode")

def nativeId (row : Row) : Option String := present (row.get "transactionID")

def entry (row : Row) : Option (String × List Char) := do
  let amount ← decimalText (row.get "amount")
  let currency ← present (some (normalised upper row "currency"))
  pure (currency, amount)

structure Lines where
  external : List (String × List Char)
  incomplete : Bool
  ids : List String
  duplicate : Bool
  unprojected : Bool

def Lines.empty : Lines := ⟨[], false, [], false, false⟩

def line (p : Lines) (row : Row) : Lines :=
  if !isFlow upper row then p
  else
    let p := { p with
      unprojected := p.unprojected || NetFlow.unprojected upper row
      duplicate := p.duplicate || (nativeId row).any fun id => id ∈ p.ids
      ids := (nativeId row).toList ++ p.ids }
    match entry upper row with
    | some e => { p with external := p.external ++ [e] }
    | none => { p with incomplete := true }

variable (sha256 : String → String) (periodFrom periodTo fallback : Option String)

def fundsLines (funds : List Row) : List Row := funds.filter fun row => row.tag = "StatementOfFundsLine"

/-- `net_external_flow`: an exception, nothing, or a total. -/
def netExternalFlow (s : Statement) : Option (Option Total) :=
  match sections s "StmtFunds" with
  | [] => some none
  | funds :: _ =>
    let lines := (fundsLines funds).foldl (line upper) .empty
    if lines.incomplete then some none
    else if lines.duplicate then
      match projectFlexExternalFlows sha256 periodFrom periodTo s with
      | .ok facts =>
        if lines.unprojected then some none
        else singleCurrencyTotal fallback (facts.records.map fun f => (f.currency, f.amount.toList))
      | .error _ => some none
    else singleCurrencyTotal fallback lines.external

end Lines

section Rows

def once (seen : List String) : List Row → List Row
  | [] => []
  | row :: rows =>
    if (nativeId row).any fun id => id ∈ seen then once seen rows
    else row :: once ((nativeId row).toList ++ seen) rows

def repeats (seen : List String) : List Row → Bool
  | [] => false
  | row :: rows => ((nativeId row).any fun id => id ∈ seen) || repeats ((nativeId row).toList ++ seen) rows

def idsAfter (seen : List String) : List Row → List String
  | [] => seen
  | row :: rows => idsAfter ((nativeId row).toList ++ seen) rows

variable {upper : String → String} {rows xs ys : List Row} {seen : List String} {p : Lines}

lemma foldl_line (p : Lines) (rows : List Row) : rows.foldl (line upper) p =
    ⟨p.external ++ (rows.filter (isFlow upper)).filterMap (entry upper),
      p.incomplete || (rows.filter (isFlow upper)).any fun row => (entry upper row).isNone,
      idsAfter p.ids (rows.filter (isFlow upper)),
      p.duplicate || repeats p.ids (rows.filter (isFlow upper)),
      p.unprojected || (rows.filter (isFlow upper)).any (unprojected upper)⟩ := by
  induction rows generalizing p with
  | nil => simp [idsAfter, repeats]
  | cons row rows ih =>
    rw [List.foldl_cons, ih]
    cases hf : isFlow upper row with
    | false => simp [line, hf]
    | true =>
      cases he : entry upper row with
      | none => simp [line, hf, he, idsAfter, repeats, Bool.or_assoc]
      | some e => simp [line, hf, he, idsAfter, repeats, Bool.or_assoc]

lemma once_of_distinct (h : repeats seen rows = false) : once seen rows = rows := by
  induction rows generalizing seen with
  | nil => rfl
  | cons row rows ih =>
    rw [repeats, Bool.or_eq_false_iff] at h
    rw [once, if_neg (by simp [h.1]), ih h.2]

lemma once_append (h : repeats seen xs = false) : once seen (xs ++ ys) = xs ++ once (idsAfter seen xs) ys := by
  induction xs generalizing seen with
  | nil => rfl
  | cons x xs ih =>
    rw [repeats, Bool.or_eq_false_iff] at h
    rw [List.cons_append, once, if_neg (by simp [h.1]), ih h.2, idsAfter]
    rfl

lemma mem_once {row : Row} (h : row ∈ once seen rows) : row ∈ rows := by
  induction rows generalizing seen with
  | nil => cases h
  | cons x rows ih =>
    rw [once] at h
    split_ifs at h
    · exact List.mem_cons_of_mem x (ih h)
    · rcases List.mem_cons.mp h with rfl | h
      · exact List.mem_cons_self
      · exact List.mem_cons_of_mem x (ih h)

lemma once_covers {row : Row} {id : String} (hrow : row ∈ rows) (hid : nativeId row = some id) :
    id ∈ seen ∨ ∃ row' ∈ once seen rows, nativeId row' = some id := by
  induction rows generalizing seen with
  | nil => cases hrow
  | cons x rows ih =>
    rw [once]
    split_ifs with hx
    · rcases List.mem_cons.mp hrow with rfl | hrow
      · exact .inl (by simpa [hid] using hx)
      · exact ih hrow
    · rcases List.mem_cons.mp hrow with rfl | hrow
      · exact .inr ⟨row, List.mem_cons_self, hid⟩
      · rcases @ih ((nativeId x).toList ++ seen) hrow with hs | ⟨row', hrow', hid'⟩
        · rcases List.mem_append.mp hs with hs | hs
          · exact .inr ⟨x, List.mem_cons_self, by simpa using hs⟩
          · exact .inl hs
        · exact .inr ⟨row', List.mem_cons_of_mem x hrow', hid'⟩

lemma once_distinct : ((once seen rows).filterMap nativeId).Nodup ∧
    ∀ id ∈ (once seen rows).filterMap nativeId, id ∉ seen := by
  induction rows generalizing seen with
  | nil => exact ⟨List.nodup_nil, fun id h => nomatch h⟩
  | cons x rows ih =>
    rw [once]
    split_ifs with hx
    · exact ih
    · obtain ⟨hnodup, hnew⟩ := @ih ((nativeId x).toList ++ seen)
      cases hid : nativeId x with
      | none =>
        rw [hid] at hnodup hnew
        rw [List.filterMap_cons_none hid]
        exact ⟨hnodup, by simpa using hnew⟩
      | some id =>
        rw [hid] at hnodup hnew
        rw [List.filterMap_cons_some hid]
        refine ⟨List.nodup_cons.mpr ⟨fun hm => hnew id hm (by simp), hnodup⟩, fun id' hid' => ?_⟩
        rcases List.mem_cons.mp hid' with rfl | hid'
        · simpa [hid] using hx
        · exact fun hs => hnew id' hid' (List.mem_append_right _ hs)

lemma repeats_eq_false_iff : repeats seen rows = false ↔
    (rows.filterMap nativeId).Nodup ∧ ∀ id ∈ rows.filterMap nativeId, id ∉ seen := by
  constructor
  · intro h
    rw [← once_of_distinct h]
    exact once_distinct
  · induction rows generalizing seen with
    | nil => exact fun _ => rfl
    | cons x rows ih =>
      intro h
      cases hid : nativeId x with
      | none =>
        rw [List.filterMap_cons_none hid] at h
        rw [repeats, hid]
        exact ih h
      | some id =>
        rw [List.filterMap_cons_some hid] at h
        obtain ⟨hnodup, hnew⟩ := h
        obtain ⟨hid', hnodup⟩ := List.nodup_cons.mp hnodup
        have hx : id ∉ seen := hnew id List.mem_cons_self
        rw [repeats, hid, ih ⟨hnodup, fun id'' hm hs => ?_⟩]
        · simp [hx]
        · rcases List.mem_append.mp hs with hs | hs
          · have heq : id'' = id := by simpa using hs
            exact hid' (heq ▸ hm)
          · exact hnew id'' (List.mem_cons_of_mem id hm) hs

lemma repeats_filter {q : Row → Bool} (h : repeats [] rows = false) : repeats [] (rows.filter q) = false := by
  obtain ⟨hnodup, -⟩ := repeats_eq_false_iff.mp h
  exact repeats_eq_false_iff.mpr ⟨hnodup.sublist (List.filter_sublist.filterMap _), by simp⟩

end Rows

section Amounts

variable {upper : String → String} {row : Row}

def amountValue (row : Row) : ℚ := ((row.get "amount").bind fun text => Decimal.readFinite text.toList).elim 0 Decimal.value

def denotes (text : List Char) : ℚ := (Decimal.plain text).elim 0 fun p => p.decimal.value

lemma denotes_format (d : Decimal) : denotes (Decimal.format d) = d.value := by
  obtain ⟨p, hp, hv⟩ := Decimal.format_plain d
  rw [denotes, hp]
  exact hv

lemma entry_some {e : String × List Char} (h : entry upper row = some e) :
    ∃ text d, row.get "amount" = some text ∧ Decimal.readFinite text.toList = some d ∧ amountValue row = d.value ∧
      e = (normalised upper row "currency", Decimal.format d) := by
  unfold entry at h
  obtain ⟨amount, ha, h⟩ := Option.bind_eq_some_iff.mp h
  obtain ⟨currency, hc, h⟩ := Option.bind_eq_some_iff.mp h
  unfold decimalText at ha
  obtain ⟨text, ht, ha⟩ := Option.bind_eq_some_iff.mp ha
  obtain ⟨d, hd, ha⟩ := Option.bind_eq_some_iff.mp ha
  refine ⟨text, d, ht, hd, by simp [amountValue, ht, hd], ?_⟩
  rw [← Option.some.inj h, ← Option.some.inj ha]
  simp only [present, Option.filter_eq_some_iff] at hc
  rw [← Option.some.inj hc.1]

lemma entry_value {e : String × List Char} {d : Decimal} (h : entry upper row = some e) (hd : Decimal.readFinite e.2 = some d) :
    d.value = amountValue row := by
  obtain ⟨text, d', -, -, hv, rfl⟩ := entry_some h
  rw [hv]
  exact Decimal.readFinite_format hd

lemma singleCurrencyTotal_some {fallback : Option String} {entries : List (String × List Char)} {total : Total}
    (h : singleCurrencyTotal fallback entries = some (some total)) :
    ∃ amounts, entries.mapM (fun e => Decimal.readFinite e.2) = some amounts ∧
      (ambient.Fits 0 (amounts.map Decimal.value) → denotes total.amount = (amounts.map Decimal.value).sum) ∧
      total.currency = (entries.head?.map Prod.fst).or fallback ∧ ∀ e ∈ entries, some e.1 = total.currency := by
  unfold singleCurrencyTotal at h
  split at h
  · cases h
  rename_i hone
  obtain ⟨amounts, ha, h⟩ := Option.bind_eq_some_iff.mp h
  obtain ⟨d, hd, h⟩ := Option.bind_eq_some_iff.mp h
  obtain rfl := Option.some.inj (Option.some.inj h)
  have hsum : ambient.Fits 0 (amounts.map Decimal.value) → d.value = (amounts.map Decimal.value).sum := by
    intro hfits
    rw [Context.sum_exact hd (by rwa [Decimal.value_zero]), Decimal.value_zero, zero_add]
  have hhead : ((entries.map Prod.fst).eraseDups).head? = entries.head?.map Prod.fst := by
    cases entries with
    | nil => rfl
    | cons e es => rw [List.map_cons, List.eraseDups_cons]; rfl
  refine ⟨amounts, ha, by rwa [denotes_format], by rw [hhead], fun e he => ?_⟩
  have hmem : e.1 ∈ (entries.map Prod.fst).eraseDups := List.mem_eraseDups.mpr (List.mem_map_of_mem he)
  cases hl : (entries.map Prod.fst).eraseDups with
  | nil => rw [hl] at hmem; cases hmem
  | cons c cs =>
    cases cs with
    | nil =>
      rw [hl] at hmem
      simp [List.mem_singleton.mp hmem]
    | cons c' cs => exact absurd hl (hone _ _ _)

end Amounts

section Facts

variable {sha256 : String → String} {s : Statement} {facts : FlowFacts} {row : Row}

def coded (s : Statement) : List Row := (s.rows "StmtFunds").filter fun row => (flowType row).isSome

def record (sha256 : String → String) (s : Statement) (row : Row) : Flow :=
  flowOf sha256 (flowAccount s) ((flowType row).getD .deposit) row

/-- The references of the rows of a statement tell their native ids apart. -/
def Collisionless (sha256 : String → String) (s : Statement) : Prop :=
  ∀ row ∈ s.rows "StmtFunds", ∀ row' ∈ s.rows "StmtFunds",
    flowRef sha256 (flowAccount s) row = flowRef sha256 (flowAccount s) row' → nativeId row = nativeId row'

lemma mem_coded : row ∈ coded s ↔ row ∈ s.rows "StmtFunds" ∧ ∃ kind, flowType row = some kind := by
  simp [coded, Option.isSome_iff_exists]

lemma number_some {decimals : ℕ} {value : Option String} {p : Decimal.Plain} (h : number decimals value = some p) :
    ∃ text, value = some text ∧ Decimal.plain text.toList = some p ∧ p.whole.length ≤ 12 ∧ p.fraction.length ≤ decimals := by
  unfold number at h
  obtain ⟨text, ht, h⟩ := Option.bind_eq_some_iff.mp h
  obtain ⟨p', hp, h⟩ := Option.bind_eq_some_iff.mp h
  split_ifs at h with hlen
  obtain rfl := Option.some.inj h
  exact ⟨text, ht, hp, hlen.2.1, hlen.2.2⟩

variable (h : FlowsPublished sha256 s facts)
include h

lemma coded_fields (hrow : row ∈ coded s) : (nativeId row).isSome ∧ isFlowCurrency (row.get "currency") = true ∧
    ∃ text p, row.get "amount" = some text ∧ Decimal.plain text.toList = some p ∧ p.whole.length ≤ 12 ∧
      p.fraction.length ≤ amountDecimals := by
  obtain ⟨hmem, kind, hk⟩ := mem_coded.mp hrow
  have hcheck := (h.checked row hmem).2 kind hk _ List.mem_cons_self
  simp only [decide_eq_false_iff_not, not_or] at hcheck
  obtain ⟨-, -, htext, hamount, -, hcurrency, -⟩ := hcheck
  refine ⟨?_, by simpa using hcurrency, ?_⟩
  · cases hid : row.get "transactionID" with
    | none => simp [isText, hid] at htext
    | some id =>
      have hne : id ≠ "" := by
        rintro rfl
        simp [isText, hid] at htext
      simp [nativeId, present, hid, hne]
  · obtain ⟨p, hp⟩ := Option.ne_none_iff_exists'.mp (by simpa using hamount)
    obtain ⟨text, ht, hplain, hw, hf⟩ := number_some hp
    exact ⟨text, p, ht, hplain, hw, hf⟩

lemma records_perm (hsha : Collisionless sha256 s) :
    facts.records.Perm ((once [] (coded s)).map (record sha256 s)) := by
  have hmem : ∀ row ∈ once [] (coded s), row ∈ coded s := fun row hrow => mem_once hrow
  have hids : (once [] (coded s)).filterMap nativeId = (once [] (coded s)).map fun row => (nativeId row).getD "" := by
    rw [← List.filterMap_eq_map]
    refine List.filterMap_congr fun row hrow => ?_
    obtain ⟨id, hid⟩ := Option.isSome_iff_exists.mp (coded_fields h (hmem row hrow)).1
    simp [hid]
  have hdistinct := (@once_distinct (coded s) []).1
  rw [hids] at hdistinct
  have hrefs : ((once [] (coded s)).map (record sha256 s)).Nodup := by
    refine List.Nodup.of_map Flow.sourceRef ?_
    rw [List.map_map]
    refine List.Nodup.map_on (fun row hrow row' hrow' heq => ?_) (List.Nodup.of_map _ hdistinct)
    have hid := hsha row (mem_coded.mp (hmem row hrow)).1 row' (mem_coded.mp (hmem row' hrow')).1 heq
    exact List.inj_on_of_nodup_map hdistinct hrow hrow' (by simp only [hid])
  refine (List.perm_ext_iff_of_nodup (List.Nodup.of_map _ h.identities) hrefs).mpr fun f => ?_
  rw [List.mem_map]
  constructor
  · intro hf
    obtain ⟨row, hrow, kind, hk, rfl⟩ := h.sound f hf
    have hc : row ∈ coded s := mem_coded.mpr ⟨hrow, kind, hk⟩
    obtain ⟨id, hid⟩ := Option.isSome_iff_exists.mp (coded_fields h hc).1
    obtain ⟨row', hrow', hid'⟩ := (once_covers hc hid).resolve_left (List.not_mem_nil)
    obtain ⟨hmem', kind', hk'⟩ := mem_coded.mp (hmem row' hrow')
    have hraw : row.get "transactionID" = row'.get "transactionID" := by
      rw [(Option.filter_eq_some_iff.mp hid).1, (Option.filter_eq_some_iff.mp hid').1]
    have hagree := h.agree row' hmem' row hrow kind' kind hk' hk (by simp only [flowRef, hraw])
    exact ⟨row', hrow', by simp only [record, hk', Option.getD_some, hagree]⟩
  · rintro ⟨row, hrow, rfl⟩
    obtain ⟨hmem', kind, hk⟩ := mem_coded.mp (hmem row hrow)
    have hcomplete := h.complete row hmem' kind hk
    rwa [record, hk]

lemma record_value {d : Decimal} {text : String} (hrow : row ∈ coded s) (ht : row.get "amount" = some text)
    (hd : Decimal.readFinite text.toList = some d) : denotes (record sha256 s row).amount.toList = amountValue row := by
  obtain ⟨-, -, text', p, ht', hp, -, -⟩ := coded_fields h hrow
  obtain rfl : text = text' := Option.some.inj (ht.symm.trans ht')
  have hamount : (record sha256 s row).amount = text := by
    simp only [record, flowOf, ht, Option.getD_some]
  rw [hamount, denotes, hp, amountValue, ht, Option.bind_some, hd, Decimal.readFinite_plain hp hd]
  rfl

end Facts

section Lossless

lemma aligned_lt {p : Decimal.Plain} (hw : p.whole.length ≤ 12) (hf : p.fraction.length ≤ 8) :
    (p.decimal.aligned (-8)).natAbs < 10 ^ 20 := by
  have hshift : (p.decimal.exponent - -8).toNat = 8 - p.fraction.length := by
    change (-(p.fraction.length : ℤ) - -8).toNat = 8 - p.fraction.length
    omega
  rw [Decimal.aligned, Decimal.natAbs_signed, hshift]
  calc p.decimal.coefficient * 10 ^ (8 - p.fraction.length)
      < 10 ^ (p.whole.length + p.fraction.length) * 10 ^ (8 - p.fraction.length) :=
        Nat.mul_lt_mul_of_pos_right p.coefficient_lt (by positivity)
    _ = 10 ^ (p.whole.length + 8) := by rw [← pow_add]; congr 1; omega
    _ ≤ 10 ^ 20 := Nat.pow_le_pow_right (by decide) (by omega)

lemma fits_amounts {amounts : List Decimal} (hlen : amounts.length ≤ 256)
    (h : ∀ d ∈ amounts, ∃ p : Decimal.Plain, d = p.decimal ∧ p.whole.length ≤ 12 ∧ p.fraction.length ≤ 8) :
    ambient.Fits 0 (amounts.map Decimal.value) := by
  have hvalues : amounts.map Decimal.value =
      (amounts.map fun d => d.aligned (-8)).map fun n : ℤ => (n : ℚ) * (10 : ℚ) ^ (-((8 : ℕ) : ℤ)) := by
    rw [List.map_map]
    refine List.map_congr_left fun d hd => ?_
    obtain ⟨p, rfl, -, hf⟩ := h d hd
    refine (Decimal.aligned_value ?_).symm
    change -8 ≤ -(p.fraction.length : ℤ)
    omega
  have hsum : ((amounts.map fun d => d.aligned (-8)).map Int.natAbs).sum ≤
      ((amounts.map fun d => d.aligned (-8)).map Int.natAbs).length • (10 ^ 20) := by
    refine List.sum_le_card_nsmul _ _ fun n hn => ?_
    rw [List.map_map, List.mem_map] at hn
    obtain ⟨d, hd, rfl⟩ := hn
    obtain ⟨p, rfl, hw, hf⟩ := h d hd
    exact (aligned_lt hw hf).le
  rw [List.length_map, List.length_map, smul_eq_mul] at hsum
  have hsize : (0 : ℤ).natAbs + ((amounts.map fun d => d.aligned (-8)).map Int.natAbs).sum < 10 ^ ambient.prec := by
    have hprec : ambient.prec = 28 := rfl
    rw [hprec, Int.natAbs_zero, zero_add]
    exact hsum.trans_lt ((Nat.mul_le_mul_right _ hlen).trans_lt (by decide))
  have hfits := Context.fits_of_sizes (c := ambient) (k := 8) (amounts.map fun d => d.aligned (-8)) (by decide) hsize
  rwa [Int.cast_zero, zero_mul, ← hvalues] at hfits

end Lossless

section Faithful

variable (upper sha256 : String → String) (periodFrom periodTo fallback : Option String) (s : Statement)

def flowRows : List Row := (fundsLines (s.rows "StmtFunds")).filter (isFlow upper)

def firstRows : List Row := (fundsLines ((sections s "StmtFunds").headD [])).filter (isFlow upper)

def laterRows : List Row := (fundsLines (sections s "StmtFunds").tail.flatten).filter (isFlow upper)

def exactFlow : ℚ := ((once [] (flowRows upper s)).map amountValue).sum

structure Faithful (total : Total) : Prop where
  included : ∀ row ∈ flowRows upper s, ∃ e, entry upper row = some e ∧ some e.1 = total.currency
  exact : denotes total.amount = exactFlow upper s
  agrees : ∀ facts, projectFlexExternalFlows sha256 periodFrom periodTo s = .ok facts →
    (∀ f ∈ facts.records, some f.currency = total.currency) →
      (facts.records.map fun f => denotes f.amount.toList).sum = denotes total.amount

def flowCurrency : Option String := (((firstRows upper s).filterMap (entry upper)).head?.map Prod.fst).or fallback

/-- Nothing is left out, neither of a later section nor of a row that the flow projection does not know. -/
structure Complete : Prop where
  later : ∀ row ∈ laterRows upper s, ∃ e, entry upper row = some e ∧ some e.1 = flowCurrency upper fallback s
  nothing : ((once (idsAfter [] (firstRows upper s)) (laterRows upper s)).map amountValue).sum = 0
  codes : ∀ facts, projectFlexExternalFlows sha256 periodFrom periodTo s = .ok facts →
    (∀ f ∈ facts.records, some f.currency = flowCurrency upper fallback s) →
      (((firstRows upper s).filter fun row => !(flowType row).isSome).map amountValue).sum = 0

variable {upper sha256 periodFrom periodTo fallback s} {total : Total}

lemma flowRows_eq : flowRows upper s = firstRows upper s ++ laterRows upper s := by
  unfold flowRows firstRows laterRows fundsLines
  rw [rows_eq, ← List.filter_append, ← List.filter_append]
  congr 2
  cases sections s "StmtFunds" with
  | nil => rfl
  | cons funds rest => rfl

lemma published_cases (h : netExternalFlow upper sha256 periodFrom periodTo fallback s = some (some total)) :
    (∀ row ∈ firstRows upper s, ∃ e, entry upper row = some e) ∧
      (repeats [] (firstRows upper s) = true ∧ (∀ row ∈ firstRows upper s, unprojected upper row = false) ∧
        (∃ facts, projectFlexExternalFlows sha256 periodFrom periodTo s = .ok facts ∧
          singleCurrencyTotal fallback (facts.records.map fun f => (f.currency, f.amount.toList)) = some (some total)) ∨
      repeats [] (firstRows upper s) = false ∧
        singleCurrencyTotal fallback ((firstRows upper s).filterMap (entry upper)) = some (some total)) := by
  unfold netExternalFlow at h
  split at h
  · cases h
  rename_i funds rest hs
  have hfirst : (fundsLines funds).filter (isFlow upper) = firstRows upper s := by
    simp [firstRows, hs]
  simp only [foldl_line, hfirst, Lines.empty, Bool.false_or, List.nil_append] at h
  split at h
  · cases h
  rename_i hentries
  refine ⟨fun row hrow => ?_, ?_⟩
  · have hsome := List.any_eq_false.mp (Bool.not_eq_true _ ▸ hentries) row hrow
    exact Option.ne_none_iff_exists'.mp (by simpa using hsome)
  · split at h
    · rename_i hrepeats
      split at h
      · rename_i facts hfacts
        split at h
        · cases h
        rename_i hcodes
        refine .inl ⟨hrepeats, fun row hrow => ?_, facts, hfacts, h⟩
        simpa using List.any_eq_false.mp (Bool.not_eq_true _ ▸ hcodes) row hrow
      · cases h
    · rename_i hrepeats
      exact .inr ⟨by simpa using hrepeats, h⟩

lemma filterMap_of_mapM {α β : Type} {f : α → Option β} {xs : List α} {ys : List β} (h : xs.mapM f = some ys) :
    xs.filterMap f = ys ∧ ∀ y ∈ ys, ∃ x ∈ xs, f x = some y := by
  induction xs generalizing ys with
  | nil =>
    cases h
    exact ⟨rfl, fun y hy => nomatch hy⟩
  | cons x xs ih =>
    rw [List.mapM_cons] at h
    obtain ⟨y, hy, h⟩ := Option.bind_eq_some_iff.mp h
    obtain ⟨rest, hrest, h⟩ := Option.bind_eq_some_iff.mp h
    obtain rfl := Option.some.inj h
    obtain ⟨hmap, hsource⟩ := ih hrest
    rw [List.filterMap_cons_some hy, hmap]
    refine ⟨rfl, fun z hz => ?_⟩
    rcases List.mem_cons.mp hz with rfl | hz
    · exact ⟨x, List.mem_cons_self, hy⟩
    · obtain ⟨x', hx', hz⟩ := hsource z hz
      exact ⟨x', List.mem_cons_of_mem x hx', hz⟩

lemma entries_value {rows : List Row} {amounts : List Decimal} (hrows : ∀ row ∈ rows, ∃ e, entry upper row = some e)
    (h : (rows.filterMap (entry upper)).mapM (fun e => Decimal.readFinite e.2) = some amounts) :
    amounts.map Decimal.value = rows.map amountValue := by
  induction rows generalizing amounts with
  | nil =>
    cases h
    rfl
  | cons row rows ih =>
    obtain ⟨e, he⟩ := hrows row List.mem_cons_self
    rw [List.filterMap_cons_some he, List.mapM_cons] at h
    obtain ⟨d, hd, h⟩ := Option.bind_eq_some_iff.mp h
    obtain ⟨rest, hrest, h⟩ := Option.bind_eq_some_iff.mp h
    obtain rfl := Option.some.inj h
    rw [List.map_cons, List.map_cons, entry_value he hd,
      ih (fun row' hr => hrows row' (List.mem_cons_of_mem row hr)) hrest]

lemma sum_filter_add (p : Row → Bool) (rows : List Row) (f : Row → ℚ) :
    ((rows.filter p).map f).sum + ((rows.filter fun row => !p row).map f).sum = (rows.map f).sum := by
  rw [← List.sum_append, ← List.map_append]
  exact ((List.filter_append_perm p rows).map f).sum_eq

def KeepsCapitals (upper : String → String) : Prop := ∀ text : String, text.toList.all Text.isCapital = true → upper text = text

lemma capitals_of_isFlowCurrency {value : Option String} (h : isFlowCurrency value = true) :
    ∃ currency, value = some currency ∧ currency.toList.all Text.isCapital = true := by
  cases value with
  | none => simp [isFlowCurrency, matches_] at h
  | some currency =>
    refine ⟨currency, rfl, ?_⟩
    rw [isFlowCurrency, matches_, Option.getD_some] at h
    cases hchars : currency.toList with
    | nil => rfl
    | cons c cs =>
      rw [hchars] at h
      simp only [Bool.decide_and, Bool.and_eq_true, decide_eq_true_eq] at h
      simp [h.1, h.2.1]

lemma normalised_capitals (hupper : KeepsCapitals upper) {row : Row} {field text : String}
    (ht : row.get field = some text) (hc : text.toList.all Text.isCapital = true) : normalised upper row field = text := by
  rw [normalised, ht, Option.getD_some, Text.strip_capitals hc, hupper text hc]

lemma isFlow_of_type (hupper : KeepsCapitals upper) {row : Row} {kind : FlowType} (hk : flowType row = some kind) :
    isFlow upper row = true := by
  unfold flowType at hk
  split at hk
  · rename_i hcode
    simp [isFlow, normalised_capitals hupper hcode (by decide)]
  · rename_i hcode
    simp [isFlow, normalised_capitals hupper hcode (by decide)]
  · cases hk

lemma facts_rows (hupper : KeepsCapitals upper) {facts : FlowFacts}
    (h : projectFlexExternalFlows sha256 periodFrom periodTo s = .ok facts) :
    flowRows upper s = firstRows upper s ∧ laterRows upper s = [] ∧ facts.records.length ≤ 256 ∧
      coded s = (firstRows upper s).filter fun row => (flowType row).isSome := by
  obtain ⟨rows, d, hs, htag, -, -, -, hd, hrecords⟩ := projectFlexExternalFlows_ok h
  have hlater : laterRows upper s = [] := by simp [laterRows, hs, fundsLines]
  have hlines : fundsLines rows = rows := by
    refine List.filter_eq_self.mpr fun row hrow => ?_
    simpa using List.any_eq_false.mp htag row hrow
  have hfirst : firstRows upper s = rows.filter (isFlow upper) := by simp [firstRows, hs, hlines]
  have hlen := (gather_ok keyed_nil (Nat.zero_le _) hd).2.2.1
  refine ⟨by rw [flowRows_eq, hlater, List.append_nil], hlater, by rwa [hrecords, List.length_map], ?_⟩
  have hrows : s.rows "StmtFunds" = rows := by rw [rows_eq, hs, List.flatten_cons, List.flatten_nil, List.append_nil]
  rw [coded, hrows, hfirst, List.filter_filter]
  refine List.filter_congr fun row _ => ?_
  cases hk : flowType row with
  | none => simp
  | some kind => simp [isFlow_of_type hupper hk]

lemma records_sum (hupper : KeepsCapitals upper) (hsha : Collisionless sha256 s) {facts : FlowFacts}
    (h : projectFlexExternalFlows sha256 periodFrom periodTo s = .ok facts)
    (hentries : ∀ row ∈ firstRows upper s, ∃ e, entry upper row = some e) :
    (facts.records.map fun f => denotes f.amount.toList).sum = ((once [] (coded s)).map amountValue).sum := by
  have hp := projectFlexExternalFlows_published h
  rw [((records_perm hp hsha).map _).sum_eq, List.map_map]
  congr 1
  refine List.map_congr_left fun row hrow => ?_
  have hc : row ∈ coded s := mem_once hrow
  have hfirst : row ∈ firstRows upper s := by
    rw [(facts_rows hupper h).2.2.2] at hc
    exact (List.mem_filter.mp hc).1
  obtain ⟨e, he⟩ := hentries row hfirst
  obtain ⟨text, d, ht, hd, -, -⟩ := entry_some he
  exact record_value hp hc ht hd

lemma flows_value {flows : List Flow} {amounts : List Decimal}
    (hplain : ∀ f ∈ flows, ∃ p, Decimal.plain f.amount.toList = some p)
    (ha : (flows.map fun f => (f.currency, f.amount.toList)).mapM (fun e => Decimal.readFinite e.2) = some amounts) :
    amounts.map Decimal.value = flows.map fun f => denotes f.amount.toList := by
  induction flows generalizing amounts with
  | nil =>
    cases ha
    rfl
  | cons f fs ih =>
    rw [List.map_cons, List.mapM_cons] at ha
    obtain ⟨d, hd, ha⟩ := Option.bind_eq_some_iff.mp ha
    obtain ⟨rest, hrest, ha⟩ := Option.bind_eq_some_iff.mp ha
    obtain rfl := Option.some.inj ha
    obtain ⟨p, hp⟩ := hplain f List.mem_cons_self
    rw [List.map_cons, List.map_cons, ih (fun g hg => hplain g (List.mem_cons_of_mem f hg)) hrest]
    congr 1
    rw [denotes, hp, Decimal.readFinite_plain hp hd]
    rfl

section Repeated

variable {facts : FlowFacts} (hupper : KeepsCapitals upper)
    (hcodes : ∀ row ∈ firstRows upper s, unprojected upper row = false)
    (h : projectFlexExternalFlows sha256 periodFrom periodTo s = .ok facts)
include hupper hcodes h

lemma coded_eq_first : coded s = firstRows upper s := by
  rw [(facts_rows hupper h).2.2.2]
  refine List.filter_eq_self.mpr fun row hrow => ?_
  have hflow : isFlow upper row = true := (List.mem_filter.mp hrow).2
  have hcode : row.get "activityCode" = some (normalised upper row "activityCode") := by
    simpa [unprojected] using hcodes row hrow
  simp only [isFlow, List.mem_cons, List.not_mem_nil, or_false, decide_eq_true_eq] at hflow
  rcases hflow with hd | hw
  · simp [flowType, hcode, hd]
  · simp [flowType, hcode, hw]

lemma faithful_of_facts (hsha : Collisionless sha256 s)
    (hentries : ∀ row ∈ firstRows upper s, ∃ e, entry upper row = some e)
    (ht : singleCurrencyTotal fallback (facts.records.map fun f => (f.currency, f.amount.toList)) = some (some total)) :
    Faithful upper sha256 periodFrom periodTo s total := by
  have hp := projectFlexExternalFlows_published h
  obtain ⟨hflow, -, hlen, -⟩ := facts_rows hupper h
  have hcoded := coded_eq_first hupper hcodes h
  obtain ⟨amounts, ha, hamount, -, hcurrency⟩ := singleCurrencyTotal_some ht
  have hplain : ∀ f ∈ facts.records, ∃ p, Decimal.plain f.amount.toList = some p ∧ p.whole.length ≤ 12 ∧
      p.fraction.length ≤ 8 := by
    intro f hf
    obtain ⟨row, hrow, kind, hk, rfl⟩ := hp.sound f hf
    obtain ⟨-, -, text, p, htext, hplain, hw, hfr⟩ := coded_fields hp (mem_coded.mpr ⟨hrow, kind, hk⟩)
    exact ⟨p, by simpa [flowOf, htext] using hplain, hw, hfr⟩
  obtain ⟨hmap, hsource⟩ := filterMap_of_mapM ha
  have hfits : ambient.Fits 0 (amounts.map Decimal.value) := by
    refine fits_amounts ?_ fun d hd => ?_
    · rw [← hmap]
      exact (List.length_filterMap_le _ _).trans (by simpa using hlen)
    · obtain ⟨e, he, hd⟩ := hsource d hd
      obtain ⟨f, hf, rfl⟩ := List.mem_map.mp he
      obtain ⟨p, hp, hw, hfr⟩ := hplain f hf
      exact ⟨p, Decimal.readFinite_plain hp hd, hw, hfr⟩
  have hvalues := flows_value (fun f hf => (hplain f hf).imp fun p hp => hp.1) ha
  have htotal : (facts.records.map fun f => denotes f.amount.toList).sum = denotes total.amount := by
    rw [hamount hfits, hvalues]
  refine ⟨fun row hrow => ?_, ?_, fun facts' h' _ => ?_⟩
  · rw [hflow] at hrow
    have hc : row ∈ coded s := hcoded ▸ hrow
    obtain ⟨hmem, kind, hk⟩ := mem_coded.mp hc
    obtain ⟨e, he⟩ := hentries row hrow
    obtain ⟨-, d, -, -, -, rfl⟩ := entry_some he
    refine ⟨_, he, ?_⟩
    obtain ⟨currency, hget, hcapital⟩ := capitals_of_isFlowCurrency (coded_fields hp hc).2.1
    have hrecord := hcurrency _ (List.mem_map_of_mem (hp.complete row hmem kind hk))
    rw [normalised_capitals hupper hget hcapital]
    simpa [flowOf, hget] using hrecord
  · rw [← htotal, records_sum hupper hsha h hentries, exactFlow, hflow, hcoded]
  · rw [h] at h'
    obtain rfl := Except.ok.inj h'
    exact htotal

end Repeated

lemma faithful_iff_complete (hupper : KeepsCapitals upper) (hsha : Collisionless sha256 s)
    (hentries : ∀ row ∈ firstRows upper s, ∃ e, entry upper row = some e) (hone : repeats [] (firstRows upper s) = false)
    (ht : singleCurrencyTotal fallback ((firstRows upper s).filterMap (entry upper)) = some (some total))
    (hfits : ambient.Fits 0 ((firstRows upper s).map amountValue)) :
    Faithful upper sha256 periodFrom periodTo s total ↔ Complete upper sha256 periodFrom periodTo fallback s := by
  obtain ⟨amounts, ha, hamount, hcurrency, hsame⟩ := singleCurrencyTotal_some ht
  rw [entries_value hentries ha] at hamount
  have hexact : exactFlow upper s = ((firstRows upper s).map amountValue).sum +
      ((once (idsAfter [] (firstRows upper s)) (laterRows upper s)).map amountValue).sum := by
    rw [exactFlow, flowRows_eq, once_append hone, List.map_append, List.sum_append]
  have hfirst : ∀ row ∈ firstRows upper s, ∃ e, entry upper row = some e ∧ some e.1 = total.currency := by
    intro row hrow
    obtain ⟨e, he⟩ := hentries row hrow
    exact ⟨e, he, hsame e (List.mem_filterMap.mpr ⟨row, hrow, he⟩)⟩
  have hnothing : denotes total.amount = exactFlow upper s ↔
      ((once (idsAfter [] (firstRows upper s)) (laterRows upper s)).map amountValue).sum = 0 := by
    rw [hamount hfits, hexact, left_eq_add]
  have hcodes : ∀ facts, projectFlexExternalFlows sha256 periodFrom periodTo s = .ok facts →
      denotes total.amount = exactFlow upper s →
        ((facts.records.map fun f => denotes f.amount.toList).sum = denotes total.amount ↔
          (((firstRows upper s).filter fun row => !(flowType row).isSome).map amountValue).sum = 0) := by
    intro facts h hsum
    obtain ⟨-, hlater, -, hcoded⟩ := facts_rows hupper h
    have hsplit := sum_filter_add (fun row => (flowType row).isSome) (firstRows upper s) amountValue
    rw [hsum, hexact, hlater, records_sum hupper hsha h hentries, hcoded, once_of_distinct (repeats_filter hone),
      ← hsplit]
    simp [once]
  constructor
  · intro hf
    refine ⟨fun row hrow => ?_, hnothing.mp hf.exact, fun facts h hc => ?_⟩
    · obtain ⟨e, he, hc⟩ := hf.included row (by rw [flowRows_eq]; exact List.mem_append_right _ hrow)
      exact ⟨e, he, hc.trans hcurrency⟩
    · exact (hcodes facts h hf.exact).mp (hf.agrees facts h fun f hmem => (hc f hmem).trans hcurrency.symm)
  · intro hc
    have hsum := hnothing.mpr hc.nothing
    refine ⟨fun row hrow => ?_, hsum, fun facts h hr => ?_⟩
    · rw [flowRows_eq] at hrow
      rcases List.mem_append.mp hrow with hrow | hrow
      · exact hfirst row hrow
      · obtain ⟨e, he, hc⟩ := hc.later row hrow
        exact ⟨e, he, hc.trans hcurrency.symm⟩
    · exact (hcodes facts h hsum).mpr (hc.codes facts h fun f hmem => (hr f hmem).trans hcurrency)

/-- A published total is faithful where ids repeat. Elsewhere, where the partial sums of the first section fit the digits of
the context, it is faithful exactly if nothing is left out. -/
theorem net_external_flow_faithful (upper sha256 : String → String)
    (periodFrom periodTo fallback : Option String) (s : Statement) (total : Total) (hupper : KeepsCapitals upper)
    (hsha : Collisionless sha256 s)
    (h : netExternalFlow upper sha256 periodFrom periodTo fallback s = some (some total)) :
    (repeats [] (firstRows upper s) = true → Faithful upper sha256 periodFrom periodTo s total) ∧
      (repeats [] (firstRows upper s) = false → ambient.Fits 0 ((firstRows upper s).map amountValue) →
        (Faithful upper sha256 periodFrom periodTo s total ↔ Complete upper sha256 periodFrom periodTo fallback s)) := by
  obtain ⟨hentries, ⟨hrepeats, hcodes, facts, hfacts, ht⟩ | ⟨hone, ht⟩⟩ := published_cases h
  · exact ⟨fun _ => faithful_of_facts hupper hcodes hfacts hsha hentries ht, fun hone => absurd hrepeats (by simp [hone])⟩
  · exact ⟨fun hrepeats => absurd hrepeats (by simp [hone]), fun _ => faithful_iff_complete hupper hsha hentries hone ht⟩

end Faithful

section TwoSections

def flow₀ (id amount : String) : Row :=
  ⟨"StatementOfFundsLine", [("accountId", "DU1"), ("activityCode", "DEP"), ("transactionID", id), ("amount", amount),
    ("currency", "USD"), ("date", "20261102")]⟩

def split₀ : Statement :=
  ⟨[("accountId", "DU1")], [("StmtFunds", [flow₀ "1" "100"]), ("StmtFunds", [flow₀ "2" "50.5"])]⟩

lemma split₀_published : netExternalFlow id id (some "2026-11-01") (some "2026-11-30") (some "USD") split₀ =
    some (some ⟨"100".toList, some "USD", 1⟩) := by
  decide

lemma split₀_exact : exactFlow id split₀ = 301 / 2 := by
  decide +kernel

theorem second_section_left_out :
    ¬ ∀ total, netExternalFlow id id (some "2026-11-01") (some "2026-11-30") (some "USD") split₀ = some (some total) →
      Faithful id id (some "2026-11-01") (some "2026-11-30") split₀ total := by
  intro h
  have hexact := (h _ split₀_published).exact
  rw [split₀_exact] at hexact
  exact absurd hexact (by decide +kernel)

def repeated₀ : Statement :=
  ⟨[("accountId", "DU1")], [("StmtFunds", [flow₀ "1" "100", flow₀ "2" "50.5", flow₀ "1" "100"])]⟩

lemma repeated₀_published : netExternalFlow id id (some "2026-11-01") (some "2026-11-30") (some "USD") repeated₀ =
    some (some ⟨"150.5".toList, some "USD", 2⟩) := by
  decide

lemma repeated₀_collisionless : Collisionless id repeated₀ := by
  unfold Collisionless
  decide

theorem net_external_flow_faithful_repeated₀ :
    Faithful id id (some "2026-11-01") (some "2026-11-30") repeated₀ ⟨"150.5".toList, some "USD", 2⟩ :=
  (net_external_flow_faithful id id (some "2026-11-01") (some "2026-11-30") (some "USD") repeated₀ _
    (fun _ _ => rfl) repeated₀_collisionless repeated₀_published).1 (by decide)

end TwoSections

end IbkrPlatform.Ledger.NetFlow
