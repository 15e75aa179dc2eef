import IbkrPlatform.AccountFacts.Positions

/-! The positions that an account report carries are the ones that its projection archives. -/

namespace IbkrPlatform.AccountFacts

open Library
open Portfolio.CashObservations (Native decimal currencyOf isCurrency)
open Ledger.NetFlow (ambient)

section Texts

variable {d a : Decimal} {v : Native} {t : String} {text : List Char}

def Rounded (v : Native) (t : String) : Prop :=
  ∃ d a n, decimal v = some d ∧ t = String.ofList (Decimal.format a) ∧ Context.Normal a ∧
    Context.NearestEven (d.value * 10 ^ 8) n ∧ a.value * 10 ^ 8 = n

lemma Rounded.unique {t' : String} (h : Rounded v t) (h' : Rounded v t') : t = t' := by
  obtain ⟨d, a, n, hd, rfl, hnormal, hnear, hvalue⟩ := h
  obtain ⟨d', a', n', hd', rfl, hnormal', hnear', hvalue'⟩ := h'
  obtain rfl : d = d' := Option.some.inj (hd.symm.trans hd')
  obtain rfl : n = n' := hnear.unique hnear'
  have hsame : a.value = a'.value := mul_right_cancel₀ (by norm_num) (hvalue.trans hvalue'.symm)
  rw [hnormal.eq_of_value hnormal' hsame]

def Accepted (t : String) : Prop := decimalText t = some t

lemma positionAmount_format (h : positionAmount (Decimal.format d) = some a) :
    Context.Normal a ∧ -8 ≤ a.exponent ∧ ∃ n, Context.NearestEven (d.value * 10 ^ 8) n ∧ a.value * 10 ^ 8 = n := by
  obtain ⟨p, hp, hvalue⟩ := Decimal.format_plain d
  unfold positionAmount at h
  split at h
  · rename_i x hread
    rw [← Decimal.plain_text hp] at hread
    obtain rfl := Decimal.Number.finite.inj (Decimal.read_plain hread)
    obtain ⟨r, hr, rfl⟩ := Option.map_eq_some_iff.mp h
    obtain ⟨q, hq, hr⟩ := Option.bind_eq_some_iff.mp hr
    obtain ⟨hform, hnear, hdigits, htiny, hemax, hadjusted⟩ := Context.quantize_spec hq
    have hexponent : q.exponent = -8 := by rw [hform]
    have hround : ambient.round q = some q :=
      Context.round_of_fits hdigits (by rw [hexponent]; exact htiny) (by rw [hexponent]; exact hemax) hadjusted
    have hroom : q.exponent + Decimal.digits q.coefficient ≤ ambient.emax := by
      have hprec : Decimal.digits q.coefficient ≤ 28 := hdigits
      change _ ≤ (999999 : ℤ)
      omega
    obtain ⟨hsame, hnormal⟩ := Context.normalize_spec hround hroom hr
    have hscale : (10 : ℚ) ^ (-8 : ℤ) * 10 ^ 8 = 1 := by norm_num
    have hscaled : q.value * 10 ^ 8 = (Decimal.signed p.decimal.negative q.coefficient : ℤ) := by
      rw [Decimal.value, hexponent, mul_assoc, hscale, mul_one, hform]
    have hsource : p.decimal.value / (10 : ℚ) ^ (-8 : ℤ) = d.value * 10 ^ 8 := by
      rw [hvalue, div_eq_mul_inv, ← zpow_neg]
      rfl
    rw [hsource] at hnear
    by_cases hz : r.coefficient = 0
    · rw [if_pos hz]
      have hzero : r.value = 0 := by simp [Decimal.value, hz, Decimal.signed]
      refine ⟨.inl rfl, by decide, _, hnear, ?_⟩
      rw [Decimal.value_zero, ← hscaled, ← hsame, hzero]
    · rw [if_neg hz]
      obtain ⟨hten, hle⟩ := hnormal.resolve_left hz
      exact ⟨.inr hten, by omega, _, hnear, by rw [hsame, hscaled]⟩
  · cases h

lemma digitCount_text (p : Decimal.Plain) : digitCount p.text = p.whole.length + p.fraction.length := by
  obtain ⟨c, cs, hcons, hc⟩ := p.head_digit
  have hbody : p.text.dropWhile (· = '-') = p.whole ++ p.tail := by
    have hminus : c ≠ '-' := by
      rintro rfl
      exact absurd hc (by decide)
    have htext : p.text = (if p.negative then ['-'] else []) ++ (p.whole ++ p.tail) := List.append_assoc _ _ _
    rw [htext, hcons]
    cases p.negative <;> simp [hminus]
  have hpoint := p.after_point
  unfold digitCount
  rw [hbody]
  simp only [hpoint.1, hpoint.2]

lemma isDigit_of_ascii {c : Char} (h : c.isDigit = true) : isDigit c = true := by
  rw [isDigit, Decimal.digit_of_isDigit h]
  rfl

lemma isWhole_whole (p : Decimal.Plain) : isWhole p.whole = true := by
  obtain ⟨c, cs, hcons, hc⟩ := p.head_digit
  have hlead := p.whole_lead
  have hrange := Decimal.toNat_of_isDigit hc
  rw [hcons] at hlead ⊢
  by_cases hzero : c = '0'
  · subst hzero
    simpa [isWhole] using hlead rfl
  · have hone : '1' ≤ c ∧ c ≤ '9' := by
      have hne : c.toNat ≠ 48 := fun h => hzero (Char.toNat_inj.mp h)
      rw [Char.le_def, Char.le_def, UInt32.le_iff_toNat_le, UInt32.le_iff_toNat_le]
      change 49 ≤ c.toNat ∧ c.toNat ≤ 57
      omega
    simp [isWhole, hone]

lemma isDecimalText_text (p : Decimal.Plain) : isDecimalText p.text = true := by
  have hwhole : ∀ c ∈ p.whole, isDigit c = true := fun c hc => isDigit_of_ascii (List.all_eq_true.mp p.whole_digit c hc)
  have hfraction : p.fraction.all isDigit = true :=
    List.all_eq_true.mpr fun c hc => isDigit_of_ascii (List.all_eq_true.mp p.fraction_digit c hc)
  have hpoint : isDigit '.' = false := by decide
  have htail : p.tail.takeWhile isDigit = [] ∧ p.tail.dropWhile isDigit = p.tail ∧ isFraction p.tail = true := by
    unfold Decimal.Plain.tail
    split_ifs with hf
    · exact ⟨rfl, rfl, rfl⟩
    · simp [hpoint, isFraction, hf, hfraction]
  rw [isDecimalText, p.unsigned_text, List.takeWhile_append_of_pos hwhole, List.dropWhile_append_of_pos hwhole, htail.1,
    htail.2.1, List.append_nil, isWhole_whole, htail.2.2]
  rfl

def Storable (p : Decimal.Plain) : Prop := p.fraction.length ≤ 8 ∧ p.decimal.coefficient < 10 ^ 15

lemma decimalText_text (p : Decimal.Plain) : decimalText (String.ofList p.text) = some (String.ofList p.text) ↔ Storable p := by
  have hexponent : p.decimal.exponent = -(p.fraction.length : ℤ) := rfl
  unfold decimalText Storable
  rw [String.toList_ofList, isDecimalText_text, Decimal.read_text]
  simp only [Bool.not_true, Bool.false_eq_true, if_false]
  constructor
  · intro h
    split_ifs at h with hbuildable
    simp only [hexponent] at h
    split_ifs at h with hlimits
    have hlt := Context.lt_digits p.decimal.coefficient
    exact ⟨by omega, hlt.trans_le (Nat.pow_le_pow_right (by decide) (by omega))⟩
  · rintro ⟨hscale, hsize⟩
    have hdigits := Context.digits_le hsize (by decide)
    have hbuildable : Decimal.buildable p.decimal = true := by
      refine decide_eq_true ⟨by omega, ?_⟩
      split_ifs <;> omega
    rw [if_pos hbuildable]
    simp only [hexponent]
    rw [if_neg (by omega)]

lemma storable_of_digitCount {p : Decimal.Plain} (hscale : p.fraction.length ≤ 8) (hcount : digitCount p.text ≤ 15) :
    Storable p := by
  rw [digitCount_text] at hcount
  exact ⟨hscale, p.coefficient_lt.trans_le (Nat.pow_le_pow_right (by decide) hcount)⟩

lemma format_eq_text (a : Decimal) : ∃ p : Decimal.Plain, p.text = Decimal.format a ∧ p.fraction.length = (-a.exponent).toNat :=
  ⟨_, Decimal.fixed_text _ _ _, Decimal.fixed_fraction _ _ _⟩

lemma positionDecimalText_some (h : positionDecimalText v = some (some t)) : Rounded v t ∧ Accepted t := by
  unfold positionDecimalText at h
  split at h
  · cases h
  · rename_i text htext
    obtain ⟨d, hd, rfl⟩ := Option.map_eq_some_iff.mp htext
    obtain ⟨a, ha, h⟩ := Option.map_eq_some_iff.mp h
    obtain ⟨hnormal, hexponent, n, hnear, hvalue⟩ := positionAmount_format ha
    split_ifs at h with hcount
    obtain rfl := Option.some.inj h
    obtain ⟨p, hp, hfraction⟩ := format_eq_text a
    refine ⟨⟨d, a, n, hd, rfl, hnormal, hnear, hvalue⟩, ?_⟩
    rw [← hp]
    exact (decimalText_text p).mpr (storable_of_digitCount (by omega) (by rw [hp]; omega))

lemma accepted_of_decimalText {s : String} (h : decimalText s = some t) : t = s ∧ Accepted t := by
  have hsame : t = s := by
    unfold decimalText at h
    split_ifs at h
    split at h
    · extract_lets at h
      split_ifs at h
      exact (Option.some.inj h).symm
    · cases h
  subst hsame
  exact ⟨rfl, h⟩

end Texts

section Rows

variable {beyond : Char → List Char} {p : Position} {ps : List Position} {row : PositionRow} {rows : List PositionRow}
  {facts : List (String × Json)} {stockPositionsEmpty : Bool}

structure Reports (beyond : Char → List Char) (p : Position) (row : PositionRow) : Prop where
  symbol : p.symbol.map (fun symbol => Text.upper beyond (Text.strip symbol)) = some row.symbol
  currency : row.currency = currencyOf beyond p.currency
  quantity : Rounded p.quantity row.quantity
  marketValue : Rounded p.marketValue row.marketValue
  avgCost : ∀ t ∈ row.avgCost, Rounded p.averageCost t

structure PositionRow.Sound (row : PositionRow) : Prop where
  symbol : isPositionSymbol row.symbol = true
  currency : isCurrency row.currency = true
  quantity : Accepted row.quantity
  marketValue : Accepted row.marketValue
  avgCost : ∀ t ∈ row.avgCost, Accepted t

lemma positionRow_some (h : positionRow beyond p = some row) : Reports beyond p row ∧ row.Sound := by
  obtain ⟨symbol, hs, h⟩ := Option.bind_eq_some_iff.mp h
  extract_lets upper currency at h
  by_cases hsymbol : (!isPositionSymbol upper) = true
  · rw [if_pos hsymbol] at h
    cases h
  rw [if_neg hsymbol] at h
  obtain ⟨quantity, hq, h⟩ := Option.bind_eq_some_iff.mp h
  obtain ⟨marketValue, hm, h⟩ := Option.bind_eq_some_iff.mp h
  split at h
  · split_ifs at h with hcurrency
    obtain ⟨avgCost, ha, h⟩ := Option.bind_eq_some_iff.mp h
    obtain rfl := Option.some.inj h
    obtain ⟨hquantity, hqa⟩ := positionDecimalText_some hq
    obtain ⟨hmarketValue, hma⟩ := positionDecimalText_some hm
    have havg : ∀ t ∈ avgCost, Rounded p.averageCost t ∧ Accepted t := by
      rintro t ht
      rw [Option.mem_def.mp ht] at ha
      exact positionDecimalText_some ha
    refine ⟨⟨by rw [hs]; rfl, rfl, hquantity, hmarketValue, fun t ht => (havg t ht).1⟩,
      ⟨by simpa using hsymbol, by simpa using hcurrency, hqa, hma, fun t ht => (havg t ht).2⟩⟩
  · cases h

lemma PositionRow.Sound.project (h : row.Sound) : projectPosition (.dict row.entries) = some row := by
  obtain ⟨hsymbol, hcurrency, hquantity, hmarketValue, havgCost⟩ := h
  obtain ⟨symbol, quantity, marketValue, currency, avgCost⟩ := row
  unfold Accepted at *
  cases avgCost with
  | none => simp_all [projectPosition, entries, positionKeys, Dictionary.lookup_cons]
  | some avgCost => simp_all [projectPosition, entries, positionKeys, Dictionary.lookup_cons]

lemma projectPositions_sound (hrows : ∀ row ∈ rows, row.Sound) (hnodup : (rows.map PositionRow.symbol).Nodup)
    (hlength : rows.length ≤ maxPositions)
    (hfacts : ∀ k ∈ ["broker_reported_positions", "broker_reported_positions_scope", "broker_reported_positions_complete"],
      facts.lookup k = (positionEntries (some rows)).lookup k) : projectPositions facts = some rows := by
  have hraw := hfacts "broker_reported_positions" (by simp)
  have hscope := hfacts "broker_reported_positions_scope" (by simp)
  have hcomplete := hfacts "broker_reported_positions_complete" (by simp)
  have hgather : Distinct.gather projectPosition PositionRow.symbol (rows.map fun row => .dict row.entries) = some rows := by
    refine Distinct.gather_eq_some.mpr ⟨List.forall₂_map_left_iff.mpr ?_, hnodup⟩
    exact List.forall₂_same.mpr fun row hrow => (hrows row hrow).project
  unfold projectPositions
  rw [hraw, hscope, hcomplete]
  by_cases hnil : rows = []
  · subst hnil
    rfl
  · simp_all [positionEntries, Dictionary.lookup_cons]

lemma projectPositions_nil (hscope : facts.lookup "broker_reported_positions_scope" = none) : projectPositions facts = none := by
  simp [projectPositions, hscope]

lemma buildBrokerReportedPositions_some (h : buildBrokerReportedPositions beyond (some ps) stockPositionsEmpty = some rows) :
    (∃ sources, sources.Perm ps ∧ List.Forall₂ (fun p row => positionRow beyond p = some row) sources rows) ∧
      (rows.map PositionRow.symbol).Pairwise (· < ·) ∧ rows.length ≤ maxPositions := by
  unfold buildBrokerReportedPositions at h
  split at h
  · cases h
  · rename_i hnil
    obtain rfl := Option.some.inj hnil
    split_ifs at h
    obtain rfl := Option.some.inj h
    exact ⟨⟨[], List.Perm.refl _, .nil⟩, .nil, Nat.zero_le _⟩
  · rename_i qs _ hqs
    obtain rfl := Option.some.inj hqs
    split_ifs at h with hlength
    obtain ⟨gathered, hg, rfl⟩ := Option.map_eq_some_iff.mp h
    obtain ⟨hread, hnodup⟩ := Distinct.gather_eq_some.mp hg
    have hperm := List.perm_insertionSort (fun a b : PositionRow => a.symbol ≤ b.symbol) gathered
    refine ⟨?_, ?_, ?_⟩
    · have hcomp : Relation.Comp (List.Forall₂ fun p row => positionRow beyond p = some row) List.Perm ps
          (gathered.insertionSort fun a b => a.symbol ≤ b.symbol) := ⟨gathered, hread, hperm.symm⟩
      rw [List.forall₂_comp_perm_eq_perm_comp_forall₂] at hcomp
      obtain ⟨sources, hsources, hrows⟩ := hcomp
      exact ⟨sources, hsources.symm, hrows⟩
    · have : Std.Total fun a b : PositionRow => a.symbol ≤ b.symbol := ⟨fun a b => le_total _ _⟩
      have : IsTrans PositionRow fun a b => a.symbol ≤ b.symbol := ⟨fun _ _ _ => le_trans⟩
      have hsorted := List.pairwise_insertionSort (fun a b : PositionRow => a.symbol ≤ b.symbol) gathered
      have hdistinct : ((gathered.insertionSort fun a b => a.symbol ≤ b.symbol).map PositionRow.symbol).Nodup :=
        (hperm.map _).nodup_iff.mpr hnodup
      rw [List.Nodup, List.pairwise_map] at hdistinct
      rw [List.pairwise_map]
      exact hsorted.imp₂ (fun _ _ hle hne => lt_of_le_of_ne hle hne) hdistinct
    · rw [hperm.length_eq, ← hread.length_eq]
      exact not_lt.mp hlength

lemma projectPositions_built {positions : Option (List Position)}
    (hfacts : ∀ k ∈ ["broker_reported_positions", "broker_reported_positions_scope", "broker_reported_positions_complete"],
      facts.lookup k = (positionEntries (buildBrokerReportedPositions beyond positions stockPositionsEmpty)).lookup k) :
    projectPositions facts = buildBrokerReportedPositions beyond positions stockPositionsEmpty := by
  cases hbuilt : buildBrokerReportedPositions beyond positions stockPositionsEmpty with
  | none =>
    rw [hbuilt] at hfacts
    exact projectPositions_nil (hfacts "broker_reported_positions_scope" (by simp))
  | some rows =>
    rw [hbuilt] at hfacts
    obtain ⟨ps, rfl⟩ : ∃ ps, positions = some ps := by
      cases positions with
      | none => cases hbuilt
      | some ps => exact ⟨ps, rfl⟩
    obtain ⟨⟨sources, -, hread⟩, hsorted, hlength⟩ := buildBrokerReportedPositions_some hbuilt
    refine projectPositions_sound (fun row hrow => ?_) (hsorted.imp ne_of_lt) hlength hfacts
    obtain ⟨n, hn, rfl⟩ := List.mem_iff_getElem.mp hrow
    have hsource := List.Forall₂.get hread (i := n) (by rw [hread.length_eq]; exact hn) hn
    exact (positionRow_some hsource).2

end Rows

/-- The positions that a report carries are archived as they are: each once, in the order of the symbols, with the one
canonical text of each of its amounts. -/
theorem positions_round_trip (beyond : Char → List Char) (positions : Option (List Position)) (stockPositionsEmpty : Bool)
    (facts : List (String × Json))
    (hfacts : ∀ k ∈ ["broker_reported_positions", "broker_reported_positions_scope", "broker_reported_positions_complete"],
      facts.lookup k = (positionEntries (buildBrokerReportedPositions beyond positions stockPositionsEmpty)).lookup k) :
    projectPositions facts = buildBrokerReportedPositions beyond positions stockPositionsEmpty ∧
      ∀ ps rows, positions = some ps → buildBrokerReportedPositions beyond positions stockPositionsEmpty = some rows →
        (rows.map PositionRow.symbol).Pairwise (· < ·) ∧
          (∃ sources, sources.Perm ps ∧ List.Forall₂ (Reports beyond) sources rows) ∧
            ∀ v t t', Rounded v t → Rounded v t' → t = t' := by
  refine ⟨projectPositions_built hfacts, ?_⟩
  rintro ps rows rfl hbuilt
  obtain ⟨⟨sources, hperm, hread⟩, hsorted, -⟩ := buildBrokerReportedPositions_some hbuilt
  exact ⟨hsorted, ⟨sources, hperm, hread.imp fun _ _ h => (positionRow_some h).1⟩, fun _ _ _ => Rounded.unique⟩

def positions₀ : List Position :=
  [⟨some " spy ", .number "2.000000005", .text "1234.50", "usd", .number "6.1E+2"⟩,
    ⟨some "BRK B", .number "-0.0000000015", .number "1e1", "USD", .other⟩]

def rows₀ : List PositionRow :=
  [⟨"BRK B", "0", "10", "USD", none⟩, ⟨"SPY", "2", "1234.5", "USD", some "610"⟩]

lemma rows₀_built : buildBrokerReportedPositions (fun c => [c]) (some positions₀) false = some rows₀ := by
  decide

theorem positions_round_trip₀ : projectPositions (positionEntries (some rows₀)) = some rows₀ ∧
    ∃ sources, sources.Perm positions₀ ∧ List.Forall₂ (Reports fun c => [c]) sources rows₀ := by
  obtain ⟨hproject, hrows⟩ := positions_round_trip (fun c => [c]) (some positions₀) false (positionEntries (some rows₀))
    (by rw [rows₀_built]; exact fun _ _ => rfl)
  rw [rows₀_built] at hproject
  exact ⟨hproject, (hrows positions₀ rows₀ rfl rows₀_built).2.1⟩

end IbkrPlatform.AccountFacts
