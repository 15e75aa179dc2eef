import Mathlib.Algebra.BigOperators.Ring.List
import Mathlib.Data.List.Forall2
import IbkrPlatform.FlexDaily.Report
import IbkrPlatform.Library.Gather
import IbkrPlatform.Library.SortedList

/-! The residuals of a report against the identities that they stand for. -/

namespace IbkrPlatform.FlexDaily.Residuals

open Library EarlyExit Forward Report

structure Terms where
  closing : Library.Decimal
  opening : Library.Decimal
  changes : Option (List Library.Decimal)

namespace Terms

def value (t : Terms) : ℚ := t.closing.value - t.opening.value - ((t.changes.getD []).map Library.Decimal.value).sum

def evaluate (c : Context) (t : Terms) : Option Library.Decimal :=
  (c.sub t.closing t.opening).bind fun d =>
    match t.changes with
    | none => some d
    | some ds => (c.sum Library.Decimal.zero ds).bind fun s => c.sub d s

def Inner (c : Context) (t : Terms) : Prop :=
  match t.changes with
  | none => True
  | some ds => c.Representable (t.closing.value - t.opening.value) ∧ c.Fits 0 (ds.map Library.Decimal.value)

def Fits (c : Context) (t : Terms) : Prop := t.Inner c ∧ c.Representable t.value

def numbers (t : Terms) : List Library.Decimal := t.closing :: t.opening :: t.changes.getD []

def Sized (c : Context) (k : ℕ) (t : Terms) : Prop :=
  (∀ d ∈ t.numbers, -(k : ℤ) ≤ d.exponent) ∧ (t.numbers.map fun d => (d.aligned (-k)).natAbs).sum < 10 ^ c.prec

instance decidableSized (c : Context) (k : ℕ) (t : Terms) : Decidable (t.Sized c k) := inferInstanceAs (Decidable (_ ∧ _))

end Terms

def terms (x : Operands) : Option Terms :=
  x.closing.bind fun a => x.opening.bind fun b =>
    match x.changes with
    | none => some ⟨a, b, none⟩
    | some xs => (xs.mapM id).map fun ds => ⟨a, b, some ds⟩

section Steps

variable {c : Context} {t : Terms} {x : Operands} {d s r start : Library.Decimal} {xs : List (Option Library.Decimal)}

lemma evaluate_exact_iff (h : t.evaluate c = some r) (hi : t.Inner c) : r.value = t.value ↔ c.Representable t.value := by
  obtain ⟨d, hd, h⟩ := Option.bind_eq_some_iff.mp h
  unfold Terms.Inner at hi
  cases hc : t.changes with
  | none =>
    rw [hc] at h
    have hvalue : t.value = t.closing.value - t.opening.value := by simp [Terms.value, hc]
    rw [← Option.some.inj h, hvalue]
    exact Context.sub_exact_iff hd
  | some ds =>
    rw [hc] at h hi
    obtain ⟨hdiff, hsum⟩ := hi
    obtain ⟨s, hs, h⟩ := Option.bind_eq_some_iff.mp h
    have hexact := (Context.sub_exact_iff hd).mpr hdiff
    have hs := Context.sum_exact hs (by rwa [Library.Decimal.value_zero])
    rw [Library.Decimal.value_zero, zero_add] at hs
    have hvalue : t.value = d.value - s.value := by rw [Terms.value, hc, Option.getD_some, hexact, hs]
    rw [hvalue]
    exact Context.sub_exact_iff h

lemma natAbs_sum_le (ns : List ℤ) : ns.sum.natAbs ≤ (ns.map Int.natAbs).sum := by
  induction ns with
  | nil => simp
  | cons n ns ih =>
    have hle := Int.natAbs_add_le n ns.sum
    simp only [List.sum_cons, List.map_cons]
    omega

lemma fits_of_sized {k : ℕ} (hk : c.etiny ≤ -(k : ℤ)) (h : t.Sized c k) : t.Fits c := by
  obtain ⟨hexponent, hsize⟩ := h
  obtain ⟨hclosing, hopening, hchanges⟩ : -(k : ℤ) ≤ t.closing.exponent ∧ -(k : ℤ) ≤ t.opening.exponent ∧
      ∀ d ∈ t.changes.getD [], -(k : ℤ) ≤ d.exponent := by
    simpa only [Terms.numbers, List.forall_mem_cons] using hexponent
  let ns := (t.changes.getD []).map fun d => d.aligned (-k)
  have hvalues : (t.changes.getD []).map Library.Decimal.value = ns.map fun n : ℤ => (n : ℚ) * (10 : ℚ) ^ (-(k : ℤ)) := by
    rw [List.map_map]
    exact List.map_congr_left fun d hd => (Library.Decimal.aligned_value (hchanges d hd)).symm
  have hsum : ((t.changes.getD []).map Library.Decimal.value).sum = (ns.sum : ℤ) * (10 : ℚ) ^ (-(k : ℤ)) := by
    rw [hvalues, List.sum_map_mul_right]
    congr 1
    exact (map_list_sum (Int.castRingHom ℚ) ns).symm
  have hdiff : t.closing.value - t.opening.value =
      ((t.closing.aligned (-k) - t.opening.aligned (-k) : ℤ) : ℚ) * (10 : ℚ) ^ (-(k : ℤ)) := by
    rw [← Library.Decimal.aligned_value hclosing, ← Library.Decimal.aligned_value hopening, Int.cast_sub, sub_mul]
  have hvalue : t.value = ((t.closing.aligned (-k) - t.opening.aligned (-k) - ns.sum : ℤ) : ℚ) * (10 : ℚ) ^ (-(k : ℤ)) := by
    rw [Terms.value, hdiff, hsum, Int.cast_sub (t.closing.aligned (-k) - t.opening.aligned (-k)), sub_mul]
  have hbound : (t.closing.aligned (-k)).natAbs + ((t.opening.aligned (-k)).natAbs + (ns.map Int.natAbs).sum) < 10 ^ c.prec := by
    simpa only [Terms.numbers, List.map_cons, List.sum_cons, ns, List.map_map, Function.comp_def] using hsize
  have hab := Int.natAbs_sub_le (t.closing.aligned (-k)) (t.opening.aligned (-k))
  have habs := Int.natAbs_sub_le (t.closing.aligned (-k) - t.opening.aligned (-k)) ns.sum
  have hns := natAbs_sum_le ns
  refine ⟨?_, _, _, hvalue, by omega, hk⟩
  unfold Terms.Inner
  cases hc : t.changes with
  | none => trivial
  | some ds =>
    rw [hc, Option.getD_some] at hvalues
    refine ⟨⟨_, _, hdiff, by omega, hk⟩, ?_⟩
    have hfits := Context.fits_of_sizes (m := 0) ns hk (by rw [Int.natAbs_zero]; omega)
    rwa [Int.cast_zero, zero_mul, ← hvalues] at hfits

lemma raising_ok {o : Option Library.Decimal} (h : raising o = .ok d) : o = some d := by
  cases o with
  | none => cases h
  | some d' => rw [Except.ok.inj h]

lemma raising_error {o : Option Library.Decimal} {f : Fault} (h : raising o = .error f) : o = none ∧ f = .overflow := by
  cases o with
  | none => exact ⟨rfl, (Except.error.inj h).symm⟩
  | some d' => cases h

lemma sumFrom_ok (h : sumFrom c start xs = .ok s) : ∃ ds, xs.mapM id = some ds ∧ c.sum start ds = some s := by
  induction xs generalizing start with
  | nil => exact ⟨[], rfl, congrArg some (Except.ok.inj h)⟩
  | cons x xs ih =>
    cases x with
    | none => cases h
    | some d =>
      obtain ⟨r, hr, h⟩ := ok_of_bind h
      obtain ⟨ds, hds, hsum⟩ := ih h
      refine ⟨d :: ds, by rw [List.mapM_cons, hds]; rfl, ?_⟩
      rw [Context.sum, raising_ok hr, Option.bind_some, hsum]

lemma sumFrom_valueError (h : sumFrom c start xs = .error .valueError) : xs.mapM id = none := by
  induction xs generalizing start with
  | nil => cases h
  | cons x xs ih =>
    cases x with
    | none => rfl
    | some d =>
      rcases error_of_bind h with h | ⟨r, -, h⟩
      · cases (raising_error h).2
      · rw [List.mapM_cons, ih h]
        rfl

lemma compute_ok (h : x.compute c = .ok d) : ∃ t, terms x = some t ∧ t.evaluate c = some d := by
  unfold Operands.compute at h
  split at h
  · rename_i a b ha hb
    obtain ⟨d', hd, h⟩ := ok_of_bind h
    cases hc : x.changes with
    | none =>
      rw [hc] at h
      refine ⟨⟨a, b, none⟩, by simp [terms, ha, hb, hc], ?_⟩
      rw [Terms.evaluate, raising_ok hd, ← Except.ok.inj h]
      rfl
    | some xs =>
      rw [hc] at h
      obtain ⟨s, hs, h⟩ := ok_of_bind h
      obtain ⟨ds, hds, hsum⟩ := sumFrom_ok hs
      refine ⟨⟨a, b, some ds⟩, by simp [terms, ha, hb, hc, hds], ?_⟩
      simp only [Terms.evaluate, raising_ok hd, Option.bind_some, hsum, raising_ok h]
  · cases h

lemma compute_valueError (h : x.compute c = .error .valueError) : terms x = none := by
  unfold Operands.compute at h
  split at h
  · rename_i a b ha hb
    rcases error_of_bind h with h | ⟨d, -, h⟩
    · cases (raising_error h).2
    · cases hc : x.changes with
      | none =>
        rw [hc] at h
        cases h
      | some xs =>
        rw [hc] at h
        rcases error_of_bind h with h | ⟨s, -, h⟩
        · simp [terms, ha, hb, hc, sumFrom_valueError h]
        · cases (raising_error h).2
  · rename_i hnone
    cases ha : x.closing with
    | none => simp [terms, ha]
    | some a =>
      cases hb : x.opening with
      | none => simp [terms, ha, hb]
      | some b => exact (hnone a b ha hb).elim

end Steps

section Lists

abbrev Identities := List (ResidualKey × Terms)

def Evaluates (c : Context) (r : ResidualKey × Library.Decimal) (i : ResidualKey × Terms) : Prop :=
  r.1 = i.1 ∧ i.2.evaluate c = some r.2

def readable : List (ResidualKey × Operands) → Identities
  | [] => []
  | (k, x) :: rest =>
    match terms x with
    | none => []
    | some t => (k, t) :: readable rest

def allTerms : List (ResidualKey × Operands) → Option Identities
  | [] => some []
  | (k, x) :: rest => (terms x).bind fun t => (allTerms rest).map fun ts => (k, t) :: ts

variable {c : Context} {xs : List (ResidualKey × Operands)} {ds : Residuals}

lemma publish_ok {stopped : Bool} (h : publish c xs = .ok (ds, stopped)) : List.Forall₂ (Evaluates c) ds (readable xs) := by
  induction xs generalizing ds stopped with
  | nil =>
    obtain ⟨rfl, -⟩ := Prod.mk.inj (Except.ok.inj h)
    exact .nil
  | cons e xs ih =>
    obtain ⟨k, x⟩ := e
    unfold publish at h
    split at h
    · rename_i d hd
      obtain ⟨r, hr, h⟩ := ok_of_bind h
      obtain ⟨rfl, -⟩ := Prod.mk.inj (Except.ok.inj h)
      obtain ⟨t, ht, he⟩ := compute_ok hd
      rw [readable, ht]
      have hrest : List.Forall₂ (Evaluates c) r.1 (readable xs) := ih hr
      exact .cons ⟨rfl, he⟩ hrest
    · rename_i hv
      obtain ⟨rfl, -⟩ := Prod.mk.inj (Except.ok.inj h)
      rw [readable, compute_valueError hv]
      exact .nil
    · cases h

lemma computeAll_ok (h : computeAll c xs = .ok ds) : ∃ ts, allTerms xs = some ts ∧ List.Forall₂ (Evaluates c) ds ts := by
  induction xs generalizing ds with
  | nil => exact ⟨[], rfl, by rw [← Except.ok.inj h]; exact .nil⟩
  | cons e xs ih =>
    obtain ⟨k, x⟩ := e
    obtain ⟨d, hd, h⟩ := ok_of_bind h
    obtain ⟨ds', hds, h⟩ := ok_of_bind h
    obtain rfl := Except.ok.inj h
    obtain ⟨t, ht, he⟩ := compute_ok hd
    obtain ⟨ts, hts, hall⟩ := ih hds
    exact ⟨(k, t) :: ts, by simp [allTerms, ht, hts], .cons ⟨rfl, he⟩ hall⟩

lemma computeAll_valueError (h : computeAll c xs = .error .valueError) : allTerms xs = none := by
  induction xs with
  | nil => cases h
  | cons e xs ih =>
    obtain ⟨k, x⟩ := e
    rcases error_of_bind h with h | ⟨d, -, h⟩
    · simp [allTerms, compute_valueError h]
    · rcases error_of_bind h with h | ⟨ds, -, h⟩
      · simp [allTerms, ih h]
      · cases h

end Lists

section Movements

variable {c : Context} {reads : List (Option (String × Library.Decimal))} {q m : List (String × Library.Decimal)}

def changesOf (conid : String) (moved : List (String × Library.Decimal)) : List Library.Decimal :=
  (moved.filter fun e => e.1 = conid).map Prod.snd

lemma quantity_put {conid conid' : String} {total : Library.Decimal} :
    quantity (Dictionary.put conid total q) conid' = if conid' = conid then total else quantity q conid' := by
  rw [quantity, Dictionary.lookup_put]
  split_ifs <;> rfl

lemma movementsFrom_ok (h : movementsFrom c q reads = .ok m) : ∃ moved, reads.mapM id = some moved ∧
    (∀ conid, c.sum (quantity q conid) (changesOf conid moved) = some (quantity m conid)) ∧
      ∀ conid, conid ∈ m.map Prod.fst ↔ conid ∈ (q ++ moved).map Prod.fst := by
  induction reads generalizing q with
  | nil =>
    obtain rfl := Except.ok.inj h
    exact ⟨[], rfl, fun conid => rfl, fun conid => by rw [List.append_nil]⟩
  | cons e reads ih =>
    cases e with
    | none => cases h
    | some e =>
      obtain ⟨conid₀, d⟩ := e
      obtain ⟨total, htotal, h⟩ := ok_of_bind h
      obtain ⟨moved, hmoved, hsums, hkeys⟩ := ih h
      refine ⟨(conid₀, d) :: moved, by rw [List.mapM_cons, hmoved]; rfl, fun conid => ?_, fun conid => ?_⟩
      · rw [← hsums conid, quantity_put]
        by_cases hc : conid = conid₀
        · subst hc
          simp [changesOf, Context.sum, raising_ok htotal]
        · have hne : ¬ conid₀ = conid := fun h => hc h.symm
          simp [changesOf, hc, hne]
      · rw [hkeys]
        simp [Dictionary.mem_keys_put]
        tauto

lemma movementsFrom_valueError (h : movementsFrom c q reads = .error .valueError) : reads.mapM id = none := by
  induction reads generalizing q with
  | nil => cases h
  | cons e reads ih =>
    cases e with
    | none => rfl
    | some e =>
      rcases error_of_bind h with h | ⟨total, -, h⟩
      · cases (raising_error h).2
      · rw [List.mapM_cons, ih h]
        rfl

end Movements

section Bridges

variable {c : Context} {before after m moved : List (String × Library.Decimal)} {rs : Residuals}

lemma conids_congr (h : ∀ conid, conid ∈ m.map Prod.fst ↔ conid ∈ moved.map Prod.fst) :
    conids before after m = conids before after moved :=
  SortedList.eraseDups_insertionSort_congr fun conid => by
    simp only [List.map_append, List.mem_append, h conid]

def observedTerms (before after moved : List (String × Library.Decimal)) (xs : List (String × ℕ)) : Identities :=
  xs.map fun x => (.quantityObserved x.2, ⟨quantity after x.1, quantity before x.1, some (changesOf x.1 moved)⟩)

lemma quantitiesObserved_ok {xs : List (String × ℕ)} (h : quantitiesObserved c before after m xs = .ok rs)
    (hsums : ∀ conid, c.sum Library.Decimal.zero (changesOf conid moved) = some (quantity m conid)) :
    List.Forall₂ (Evaluates c) rs (observedTerms before after moved xs) := by
  induction xs generalizing rs with
  | nil =>
    obtain rfl := Except.ok.inj h
    exact .nil
  | cons x xs ih =>
    obtain ⟨d, hd, h⟩ := ok_of_bind h
    obtain ⟨r, hr, h⟩ := ok_of_bind h
    obtain ⟨ds, hds, h⟩ := ok_of_bind h
    obtain rfl := Except.ok.inj h
    refine .cons ⟨rfl, ?_⟩ (ih hds)
    simp only [Terms.evaluate, raising_ok hd, Option.bind_some, hsums, raising_ok hr]

def bridgeTerms (previous current : Element) : Option Identities :=
  (balances previous "CashReport" "CashReportCurrency" "currency" "endingCash").bind fun opening =>
  (allTerms (cashOpenings opening current)).bind fun cash =>
  (balances previous "OpenPositions" "OpenPosition" "conid" "position").bind fun before =>
  (balances current "OpenPositions" "OpenPosition" "conid" "position").bind fun after =>
  ((quantityReads [] (quantityRows current)).mapM id).bind fun moved =>
  (allTerms (navOpening previous current)).map fun nav =>
    cash ++ observedTerms before after moved (conids before after moved).zipIdx ++ nav

lemma reading_ok {α : Type} {o : Option α} {a : α} (h : reading o = .ok a) : o = some a := by
  cases o with
  | none => cases h
  | some a' => rw [Except.ok.inj h]

lemma reading_error {α : Type} {o : Option α} {f : Fault} (h : reading o = .error f) : o = none := by
  cases o with
  | none => rfl
  | some a => cases h

variable {previous current : Element}

lemma openingBridges_ok (h : openingBridges c previous current = .ok rs) :
    ∃ ts, bridgeTerms previous current = some ts ∧ List.Forall₂ (Evaluates c) rs ts := by
  obtain ⟨opening, hopening, h⟩ := ok_of_bind h
  obtain ⟨cash, hcash, h⟩ := ok_of_bind h
  obtain ⟨before, hbefore, h⟩ := ok_of_bind h
  obtain ⟨after, hafter, h⟩ := ok_of_bind h
  obtain ⟨m, hm, h⟩ := ok_of_bind h
  obtain ⟨quantities, hquantities, h⟩ := ok_of_bind h
  obtain ⟨nav, hnav, h⟩ := ok_of_bind h
  obtain rfl := Except.ok.inj h
  obtain ⟨cashTerms, hcashTerms, hcash⟩ := computeAll_ok hcash
  obtain ⟨navTerms, hnavTerms, hnav⟩ := computeAll_ok hnav
  obtain ⟨moved, hmoved, hsums, hkeys⟩ := movementsFrom_ok hm
  have hconids : conids before after m = conids before after moved := conids_congr fun conid => hkeys conid
  rw [hconids] at hquantities
  refine ⟨cashTerms ++ observedTerms before after moved (conids before after moved).zipIdx ++ navTerms, ?_, ?_⟩
  · simp only [bridgeTerms, reading_ok hopening, hcashTerms, reading_ok hbefore, reading_ok hafter, hmoved, hnavTerms,
      Option.bind_some, Option.map_some]
  · exact List.rel_append (List.rel_append hcash (quantitiesObserved_ok hquantities hsums)) hnav

lemma quantitiesObserved_valueError {xs : List (String × ℕ)} :
    quantitiesObserved c before after m xs ≠ .error .valueError := by
  induction xs with
  | nil => exact fun h => nomatch h
  | cons x xs ih =>
    intro h
    rcases error_of_bind h with h | ⟨d, -, h⟩
    · cases (raising_error h).2
    · rcases error_of_bind h with h | ⟨r, -, h⟩
      · cases (raising_error h).2
      · rcases error_of_bind h with h | ⟨ds, -, h⟩
        · exact ih h
        · cases h

lemma openingBridges_valueError (h : openingBridges c previous current = .error .valueError) :
    bridgeTerms previous current = none := by
  rcases error_of_bind h with h | ⟨opening, hopening, h⟩
  · simp [bridgeTerms, reading_error h]
  rcases error_of_bind h with h | ⟨cash, -, h⟩
  · simp [bridgeTerms, reading_ok hopening, computeAll_valueError h]
  rcases error_of_bind h with h | ⟨before, hbefore, h⟩
  · simp [bridgeTerms, reading_ok hopening, reading_error h]
  rcases error_of_bind h with h | ⟨after, hafter, h⟩
  · simp [bridgeTerms, reading_ok hopening, reading_ok hbefore, reading_error h]
  rcases error_of_bind h with h | ⟨m, hm, h⟩
  · simp [bridgeTerms, reading_ok hopening, reading_ok hbefore, reading_ok hafter, movementsFrom_valueError h]
  obtain ⟨moved, hmoved, -⟩ := movementsFrom_ok hm
  rcases error_of_bind h with h | ⟨quantities, -, h⟩
  · exact (quantitiesObserved_valueError h).elim
  rcases error_of_bind h with h | ⟨nav, -, h⟩
  · simp [bridgeTerms, reading_ok hopening, reading_ok hbefore, reading_ok hafter, hmoved,
      computeAll_valueError h]
  · cases h

end Bridges

section Reports

variable {start stop : Day} {configured : List String} {previousRoot : Option Element} {account : String}
  {statement root : Element} {x : Inspected} {c : Context}

def published (start : Day) (configured : List String) (previousRoot : Option Element) (account : String)
    (statement : Element) : Identities :=
  readable (residuals configured statement) ++
    ((previousStatement start account previousRoot).bind fun previous => bridgeTerms previous statement).getD []

lemma bridged_ok {previous : Option Element} {r : Residuals × Bool} (h : bridged c previous statement = .ok r) :
    List.Forall₂ (Evaluates c) r.1 ((previous.bind fun previous => bridgeTerms previous statement).getD []) := by
  unfold bridged at h
  split at h
  · rw [← Except.ok.inj h]
    exact .nil
  · split at h
    · rename_i rs hrs
      obtain ⟨ts, hts, hall⟩ := openingBridges_ok hrs
      rw [← Except.ok.inj h, Option.bind_some, hts]
      exact hall
    · rename_i hv
      rw [← Except.ok.inj h, Option.bind_some, openingBridges_valueError hv]
      exact .nil
    · cases h

lemma conclude_difference (issues : List String) (rs : Residuals) :
    (conclude issues rs).checked.reconciliation = .difference ↔ ∃ r ∈ rs, r.2.coefficient ≠ 0 := by
  simp only [conclude]
  split_ifs with hany
  · simpa using hany
  · simpa using hany

lemma inspectStatement_ok (h : inspectStatement c start stop configured previousRoot account statement = .ok x) :
    List.Forall₂ (Evaluates c) x.residuals (published start configured previousRoot account statement) ∧
      (x.checked.reconciliation = .difference ↔ ∃ r ∈ x.residuals, r.2.coefficient ≠ 0) := by
  unfold inspectStatement at h
  split_ifs at h
  obtain ⟨own, hown, h⟩ := ok_of_bind h
  obtain ⟨opening, hopening, h⟩ := ok_of_bind h
  obtain rfl := Except.ok.inj h
  have hpublish : List.Forall₂ (Evaluates c) own.1 (readable (residuals configured statement)) := publish_ok hown
  exact ⟨List.rel_append hpublish (bridged_ok hopening), conclude_difference _ _⟩

def Exact (x : Inspected) (identities : Identities) : Prop :=
  x.residuals.map (fun r => (r.1, r.2.value)) = identities.map (fun i => (i.1, i.2.value)) ∧
    (x.checked.reconciliation = .difference ↔ ∃ i ∈ identities, i.2.value ≠ 0)

lemma value_eq_zero_iff {d : Library.Decimal} : d.value = 0 ↔ d.coefficient = 0 := by
  have hpow : (10 : ℚ) ^ d.exponent ≠ 0 := zpow_ne_zero _ (by decide)
  rw [← abs_eq_zero, Library.Decimal.abs_value, mul_eq_zero, or_iff_left hpow, Nat.cast_eq_zero]

lemma exact_of_values {identities : Identities} (h : List.Forall₂ (Evaluates c) x.residuals identities)
    (hx : x.checked.reconciliation = .difference ↔ ∃ r ∈ x.residuals, r.2.coefficient ≠ 0)
    (hfits : ∀ i ∈ identities, i.2.Fits c) : Exact x identities := by
  have hsame : x.residuals.map (fun r => (r.1, r.2.value)) = identities.map (fun i => (i.1, i.2.value)) := by
    clear hx
    generalize x.residuals = rs at h
    induction h with
    | nil => rfl
    | cons hr _ ih =>
      obtain ⟨hkey, hvalue⟩ := hr
      obtain ⟨⟨hinner, hrepresentable⟩, hfits⟩ := List.forall_mem_cons.mp hfits
      rw [List.map_cons, List.map_cons, ih hfits, hkey, (evaluate_exact_iff hvalue hinner).mpr hrepresentable]
  refine ⟨hsame, hx.trans ?_⟩
  constructor
  · rintro ⟨r, hr, hne⟩
    have hmem : (r.1, r.2.value) ∈ identities.map fun i => (i.1, i.2.value) := hsame ▸ List.mem_map_of_mem hr
    obtain ⟨i, hi, heq⟩ := List.mem_map.mp hmem
    exact ⟨i, hi, fun hz => hne (value_eq_zero_iff.mp ((Prod.mk.inj heq).2 ▸ hz))⟩
  · rintro ⟨i, hi, hne⟩
    have hmem : (i.1, i.2.value) ∈ x.residuals.map fun r => (r.1, r.2.value) := hsame ▸ List.mem_map_of_mem hi
    obtain ⟨r, hr, heq⟩ := List.mem_map.mp hmem
    exact ⟨r, hr, fun hz => hne ((Prod.mk.inj heq).2 ▸ value_eq_zero_iff.mpr hz)⟩

lemma representable_of_exact {identities : Identities} (h : List.Forall₂ (Evaluates c) x.residuals identities)
    (he : Exact x identities) : ∀ i ∈ identities, i.2.Inner c → c.Representable i.2.value := by
  obtain ⟨hsame, -⟩ := he
  generalize x.residuals = rs at h hsame
  induction h with
  | nil => exact List.forall_mem_nil _
  | cons hr _ ih =>
    rw [List.map_cons, List.map_cons, List.cons.injEq] at hsame
    exact List.forall_mem_cons.mpr
      ⟨fun hinner => (evaluate_exact_iff hr.2 hinner).mp (Prod.mk.inj hsame.1).2, ih hsame.2⟩

variable {accounts : List (String × String)} {statements : List (String × Element)}
  {results results' : List (String × Inspected)}

def label (accounts : List (String × String)) (account : String) : String := (accounts.lookup account).getD ""

lemma inspectStatements_ok
    (h : inspectStatements c start stop accounts configured previousRoot results statements = .ok results')
    (hd : (statements.map fun s => label accounts s.1).Nodup) :
    (∀ l, l ∉ statements.map (fun s => label accounts s.1) → results'.lookup l = results.lookup l) ∧
      ∀ s ∈ statements, ∃ x, inspectStatement c start stop configured previousRoot s.1 s.2 = .ok x ∧
        results'.lookup (label accounts s.1) = some x := by
  induction statements generalizing results with
  | nil =>
    obtain rfl := Except.ok.inj h
    exact ⟨fun l _ => rfl, fun s hs => nomatch hs⟩
  | cons s statements ih =>
    obtain ⟨x, hx, h⟩ := ok_of_bind h
    obtain ⟨hnew, hd⟩ := List.nodup_cons.mp hd
    obtain ⟨hother, hall⟩ := ih h hd
    constructor
    · intro l hl
      rw [List.map_cons, List.mem_cons, not_or] at hl
      rw [hother l hl.2]
      exact Dictionary.lookup_put_ne hl.1
    · intro s' hs'
      rcases List.mem_cons.mp hs' with rfl | hs'
      · exact ⟨x, hx, (hother _ hnew).trans Dictionary.lookup_put_self⟩
      · exact hall s' hs'

lemma lookup_missing {l : String} (h : l ∈ accounts.map Prod.snd ∨ results.lookup l = some Inspected.missing) :
    (accounts.foldl (fun d a => Dictionary.put a.2 Inspected.missing d) results).lookup l = some Inspected.missing := by
  induction accounts generalizing results with
  | nil => exact h.resolve_left fun hl => nomatch hl
  | cons a accounts ih =>
    refine ih ?_
    rw [Dictionary.lookup_put]
    split_ifs with hl
    · exact .inr rfl
    · rcases h with h | h
      · exact (List.mem_cons.mp h).elim (fun heq => absurd heq hl) .inl
      · exact .inr h

lemma requireAccountScope_ok (h : requireAccountScope root accounts = some statements) :
    (statements.map Prod.fst).Nodup ∧ ∀ s ∈ statements, ∃ l, accounts.lookup s.1 = some l := by
  unfold requireAccountScope at h
  extract_lets known found ids at h
  split_ifs at h with htype hids hnested
  obtain rfl := Option.some.inj h
  simp only [not_or, not_not] at hids
  obtain ⟨-, hnodup, hknown⟩ := hids
  have hid : ∀ s ∈ found, ∃ a, s.get "accountId" = some a ∧ (accounts.lookup a).isSome := by
    intro s hs
    have hs := (List.any_eq_false.mp (Bool.eq_false_iff.mpr hknown)) _ (List.mem_map_of_mem hs)
    simp only [known, Bool.not_eq_true, Bool.not_eq_false', Option.any_eq_true] at hs
    exact hs
  constructor
  · have hsome : ids = (found.map fun s => (s.get "accountId").getD "").map some := by
      rw [List.map_map]
      refine List.map_congr_left fun s hs => ?_
      obtain ⟨a, ha, -⟩ := hid s hs
      simp [ha]
    rw [hsome] at hnodup
    rw [List.map_map]
    exact hnodup.of_map
  · intro s hs
    obtain ⟨s', hs', rfl⟩ := List.mem_map.mp hs
    obtain ⟨a, ha, hl⟩ := hid s' hs'
    exact Option.isSome_iff_exists.mp (by rw [ha]; exact hl)

def identitiesOf (start : Day) (configured : List String) (previousRoot : Option Element)
    (statements : List (String × Element)) (account : String) : Identities :=
  (statements.lookup account).elim [] fun statement => published start configured previousRoot account statement

lemma inspectReport_accounts (hkeys : (accounts.map Prod.fst).Nodup) (hlabels : (accounts.map Prod.snd).Nodup)
    (h : inspectReport c start stop accounts configured previousRoot root = .ok results) :
    ∀ a ∈ accounts, ∃ x, results.lookup a.2 = some x ∧
      List.Forall₂ (Evaluates c) x.residuals
        (identitiesOf start configured previousRoot ((requireAccountScope root accounts).getD []) a.1) ∧
      (x.checked.reconciliation = .difference ↔ ∃ r ∈ x.residuals, r.2.coefficient ≠ 0) := by
  unfold inspectReport at h
  split at h
  · cases h
  rename_i statements hscope
  obtain ⟨hnodup, hknown⟩ := requireAccountScope_ok hscope
  rw [hscope, Option.getD_some]
  have hlabel : ∀ a ∈ accounts, label accounts a.1 = a.2 := fun a ha => by
    rw [label, Gather.Keyed.lookup hkeys ha, Option.getD_some]
  have hmem : ∀ s ∈ statements, (s.1, label accounts s.1) ∈ accounts := by
    intro s hs
    obtain ⟨l, hl⟩ := hknown s hs
    rw [label, hl]
    exact Dictionary.mem_of_lookup hl
  have hinj := List.inj_on_of_nodup_map hlabels
  have hd : (statements.map fun s => label accounts s.1).Nodup := by
    refine List.Nodup.map_on (fun s hs s' hs' heq => ?_) (hnodup.of_map)
    have hsame := hinj (hmem s hs) (hmem s' hs') heq
    exact List.inj_on_of_nodup_map hnodup hs hs' (Prod.mk.inj hsame).1
  obtain ⟨hother, hall⟩ := inspectStatements_ok h hd
  intro a ha
  cases hs : statements.lookup a.1 with
  | none =>
    have hlookup : results.lookup a.2 = some Inspected.missing := by
      rw [hother a.2 fun hl => ?_]
      · exact lookup_missing (.inl (List.mem_map_of_mem ha))
      · obtain ⟨s, hs', hl⟩ := List.mem_map.mp hl
        have hsame := hinj (hmem s hs') ha hl
        have hfound := Gather.Keyed.lookup hnodup hs'
        rw [show s.1 = a.1 from congrArg Prod.fst hsame, hs] at hfound
        cases hfound
    simp only [identitiesOf, hs, Option.elim_none]
    exact ⟨_, hlookup, .nil, by simp [Inspected.missing]⟩
  | some statement =>
    obtain ⟨x, hx, hlookup⟩ := hall _ (Dictionary.mem_of_lookup hs)
    rw [hlabel a ha] at hlookup
    simp only [identitiesOf, hs, Option.elim_some]
    exact ⟨x, hlookup, inspectStatement_ok hx⟩

/-- The residuals of an accepted report are exact where every partial value fits the digits of the context, and where
they are exact, so does every value that is rounded in its last step only. -/
theorem residuals_exact_of_fits (hkeys : (accounts.map Prod.fst).Nodup) (hlabels : (accounts.map Prod.snd).Nodup)
    (h : inspectReport residualContext start stop accounts configured previousRoot root = .ok results) :
    ((∀ a ∈ accounts, ∀ i ∈ identitiesOf start configured previousRoot ((requireAccountScope root accounts).getD []) a.1,
        i.2.Fits residualContext) →
      ∀ a ∈ accounts, ∃ x, results.lookup a.2 = some x ∧
        Exact x (identitiesOf start configured previousRoot ((requireAccountScope root accounts).getD []) a.1)) ∧
    ((∀ a ∈ accounts, ∃ x, results.lookup a.2 = some x ∧
        Exact x (identitiesOf start configured previousRoot ((requireAccountScope root accounts).getD []) a.1)) →
      ∀ a ∈ accounts, ∀ i ∈ identitiesOf start configured previousRoot ((requireAccountScope root accounts).getD []) a.1,
        i.2.Inner residualContext → residualContext.Representable i.2.value) := by
  have haccounts := inspectReport_accounts hkeys hlabels h
  constructor
  · intro hfits a ha
    obtain ⟨x, hlookup, hall, hdifference⟩ := haccounts a ha
    exact ⟨x, hlookup, exact_of_values hall hdifference (hfits a ha)⟩
  · intro hexact a ha
    obtain ⟨x, hlookup, hall, -⟩ := haccounts a ha
    obtain ⟨x', hlookup', he⟩ := hexact a ha
    obtain rfl := Option.some.inj (hlookup.symm.trans hlookup')
    exact representable_of_exact hall he

def cashReport (row : Attributes) : Element :=
  .node "FlexQueryResponse" [("type", "AF")] [.node "FlexStatements" []
    [.node "FlexStatement" [("accountId", "U1"), ("fromDate", "20261102"), ("toDate", "20261102"),
        ("whenGenerated", "20261103;010203")]
      [.node "CashReport" [] [.node "CashReportCurrency" row []]]]]

def cashRow (opening closing : String) (changes : List (String × String)) : Attributes :=
  ("currency", "USD") :: ("startingCash", opening) :: ("endingCash", closing) ::
    cashFields.map fun field => (field, (changes.lookup field).getD "0")

def oneAccount : List (String × String) := [("U1", "account-1")]

def dailyResult (row : Attributes) : Except Fault (List (String × Inspected)) :=
  inspectReport residualContext 20759 20759 oneAccount ["CashReport"] none (cashReport row)

def dailyIdentities (row : Attributes) : Identities :=
  identitiesOf 20759 ["CashReport"] none ((requireAccountScope (cashReport row) oneAccount).getD []) "U1"

def centRow : Attributes := cashRow "100.10" "102.61" [("dividends", "2.50")]

lemma dailyResult_ok (row : Attributes) (reconciliation : Reconciliation)
    (h : ((dailyResult row).toOption.bind fun results => (results.lookup "account-1").map fun x =>
      x.checked.reconciliation) = some reconciliation) :
    ∃ results x, dailyResult row = .ok results ∧ results.lookup "account-1" = some x ∧
      x.checked.reconciliation = reconciliation := by
  cases hr : dailyResult row with
  | error f =>
    rw [hr] at h
    cases h
  | ok results =>
    rw [hr] at h
    obtain ⟨x, hx, heq⟩ := Option.map_eq_some_iff.mp h
    exact ⟨results, x, rfl, hx, heq⟩

theorem residuals_exact_cent : ∃ results, dailyResult centRow = .ok results ∧
    ∀ a ∈ oneAccount, ∃ x, results.lookup a.2 = some x ∧ Exact x (dailyIdentities centRow) := by
  obtain ⟨results, x, hresults, -, -⟩ := dailyResult_ok centRow .difference (by decide)
  refine ⟨results, hresults, ?_⟩
  have hexact := (residuals_exact_of_fits (by decide) (by decide) hresults).1 fun a ha i hi => ?_
  · intro a ha
    obtain rfl := List.mem_singleton.mp ha
    exact hexact _ ha
  · obtain rfl := List.mem_singleton.mp ha
    have hsized : (dailyIdentities centRow).all fun i => i.2.Sized residualContext 2 := by decide
    exact fits_of_sized (by decide) (of_decide_eq_true (List.all_eq_true.mp hsized i hi))

def largeRow : Attributes := cashRow "0" "1E+60" [("clientFees", "1E+60"), ("commissions", "1")]

theorem large_difference_rounded : ∃ results x, dailyResult largeRow = .ok results ∧
    results.lookup "account-1" = some x ∧ x.checked.reconciliation = .partial_ ∧
    ∃ i ∈ dailyIdentities largeRow, i.1 = .cash 0 ∧ i.2.value = -1 := by
  obtain ⟨results, x, hresults, hx, hpartial⟩ :=
    dailyResult_ok largeRow .partial_ (by decide)
  have hfails : (dailyIdentities largeRow).any fun i => i.1 = .cash 0 ∧ i.2.value = -1 := by decide +kernel
  obtain ⟨i, hi, heq⟩ := List.any_eq_true.mp hfails
  exact ⟨results, x, hresults, hx, hpartial, i, hi, of_decide_eq_true heq⟩

end Reports

end IbkrPlatform.FlexDaily.Residuals
