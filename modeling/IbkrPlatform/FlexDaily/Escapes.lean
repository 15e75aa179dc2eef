import IbkrPlatform.FlexDaily.EventChain
import IbkrPlatform.FlexDaily.Residuals
import IbkrPlatform.FlexDaily.WindowReport

/-! The contents of a report that raise an exception which the collector does not handle. -/

namespace IbkrPlatform.FlexDaily.Escapes

open Library EarlyExit Forward Report Residuals WindowReport Coverage
open EventChain (keyOf)

section Sums

variable {c : Context} {start d : Library.Decimal} {xs : List (Option Library.Decimal)} {x : Operands}

def SumLeaves (c : Context) (start : Library.Decimal) (xs : List (Option Library.Decimal)) : Prop :=
  ∃ ds d rest s, xs = ds.map some ++ some d :: rest ∧ c.sum start ds = some s ∧ c.add s d = none

lemma sumFrom_overflow_iff : sumFrom c start xs = .error .overflow ↔ SumLeaves c start xs := by
  constructor
  · intro h
    induction xs generalizing start with
    | nil => cases h
    | cons x xs ih =>
      cases x with
      | none => cases h
      | some d =>
        rcases error_of_bind h with h | ⟨r, hr, h⟩
        · exact ⟨[], d, xs, start, rfl, rfl, (raising_error h).1⟩
        · obtain ⟨ds, d', rest, s, rfl, hs, hd⟩ := ih h
          exact ⟨d :: ds, d', rest, s, rfl, by rw [Context.sum, raising_ok hr, Option.bind_some, hs], hd⟩
  · rintro ⟨ds, d, rest, s, rfl, hs, hd⟩
    induction ds generalizing start with
    | nil =>
      obtain rfl := Option.some.inj hs
      change (raising (c.add start d)).bind _ = _
      rw [hd]
      rfl
    | cons d' ds ih =>
      obtain ⟨r, hr, hs⟩ := Option.bind_eq_some_iff.mp hs
      change (raising (c.add start d')).bind _ = _
      rw [hr]
      exact ih hs

def StepLeaves (c : Context) (x : Operands) : Prop :=
  ∃ a b, x.closing = some a ∧ x.opening = some b ∧ (c.sub a b = none ∨ ∃ d xs, c.sub a b = some d ∧ x.changes = some xs ∧
    (SumLeaves c Library.Decimal.zero xs ∨ ∃ ds s, xs.mapM id = some ds ∧ c.sum Library.Decimal.zero ds = some s ∧
      c.sub d s = none))

lemma sumFrom_some {ds : List Library.Decimal} {s : Library.Decimal} (h : xs.mapM id = some ds) (hs : c.sum start ds = some s) :
    sumFrom c start xs = .ok s := by
  induction xs generalizing start ds with
  | nil =>
    obtain rfl := Option.some.inj h
    rw [← Option.some.inj hs]
    rfl
  | cons x xs ih =>
    rw [List.mapM_cons] at h
    obtain ⟨d, hx, h⟩ := Option.bind_eq_some_iff.mp h
    obtain ⟨ds', hds, h⟩ := Option.bind_eq_some_iff.mp h
    obtain rfl := Option.some.inj h
    obtain rfl : x = some d := hx
    obtain ⟨r, hr, hs⟩ := Option.bind_eq_some_iff.mp hs
    change (raising (c.add start d)).bind _ = _
    rw [hr]
    exact ih hds hs

lemma compute_overflow_iff : x.compute c = .error .overflow ↔ StepLeaves c x := by
  unfold Operands.compute
  constructor
  · intro h
    split at h
    · rename_i a b ha hb
      refine ⟨a, b, ha, hb, ?_⟩
      rcases error_of_bind h with h | ⟨d, hd, h⟩
      · exact .inl (raising_error h).1
      · cases hc : x.changes with
        | none =>
          rw [hc] at h
          cases h
        | some xs =>
          rw [hc] at h
          refine .inr ⟨d, xs, raising_ok hd, rfl, ?_⟩
          rcases error_of_bind h with h | ⟨s, hs, h⟩
          · exact .inl (sumFrom_overflow_iff.mp h)
          · obtain ⟨ds, hds, hsum⟩ := sumFrom_ok hs
            exact .inr ⟨ds, s, hds, hsum, (raising_error h).1⟩
    · cases h
  · rintro ⟨a, b, ha, hb, h⟩
    simp only [ha, hb]
    rcases h with h | ⟨d, xs, hd, hc, h⟩
    · rw [h]
      rfl
    · rw [hd, hc]
      change (sumFrom c Library.Decimal.zero xs).bind _ = _
      rcases h with h | ⟨ds, s, hds, hs, h⟩
      · rw [sumFrom_overflow_iff.mpr h]
        rfl
      · rw [sumFrom_some hds hs]
        change raising (c.sub d s) = _
        rw [h]
        rfl

end Sums

section Lists

variable {c : Context} {xs : List (ResidualKey × Operands)}

def ListLeaves (c : Context) (xs : List (ResidualKey × Operands)) : Prop :=
  Reaches (fun y => (terms y.2).isSome) (fun x => StepLeaves c x.2) xs

lemma compute_cases (c : Context) (x : Operands) : (∃ d, x.compute c = .ok d ∧ (terms x).isSome ∧ ¬ StepLeaves c x) ∨
    (x.compute c = .error .valueError ∧ (terms x).isSome = false ∧ ¬ StepLeaves c x) ∨
      x.compute c = .error .overflow ∧ StepLeaves c x := by
  have hleaves := compute_overflow_iff (c := c) (x := x)
  cases h : x.compute c with
  | ok d =>
    obtain ⟨t, ht, -⟩ := compute_ok h
    exact .inl ⟨d, rfl, by rw [ht]; rfl, fun hl => by rw [hleaves.mpr hl] at h; cases h⟩
  | error f =>
    cases f with
    | valueError =>
      exact .inr (.inl ⟨rfl, by rw [compute_valueError h]; rfl, fun hl => by rw [hleaves.mpr hl] at h; cases h⟩)
    | overflow => exact .inr (.inr ⟨rfl, hleaves.mp h⟩)

lemma publish_overflow_iff : publish c xs = .error .overflow ↔ ListLeaves c xs := by
  induction xs with
  | nil => exact ⟨fun h => (nomatch h), fun h => (not_reaches_nil h).elim⟩
  | cons e xs ih =>
    obtain ⟨k, x⟩ := e
    rw [ListLeaves, reaches_cons, ← ListLeaves, ← ih]
    rcases compute_cases c x with ⟨d, hd, ht, hl⟩ | ⟨hv, ht, hl⟩ | ⟨ho, hl⟩
    · simp only [publish, hd, ht, hl, false_or, true_and]
      constructor
      · intro h
        rcases error_of_bind h with h | ⟨r, -, h⟩
        · exact h
        · cases h
      · intro h
        rw [h]
        rfl
    · simp [publish, hv, ht, hl]
    · simp [publish, ho, hl]

lemma computeAll_overflow_iff : computeAll c xs = .error .overflow ↔ ListLeaves c xs := by
  induction xs with
  | nil => exact ⟨fun h => (nomatch h), fun h => (not_reaches_nil h).elim⟩
  | cons e xs ih =>
    obtain ⟨k, x⟩ := e
    rw [ListLeaves, reaches_cons, ← ListLeaves, ← ih]
    rcases compute_cases c x with ⟨d, hd, ht, hl⟩ | ⟨hv, ht, hl⟩ | ⟨ho, hl⟩
    · simp only [computeAll, hd, ht, hl, false_or, true_and]
      change (computeAll c xs).bind _ = _ ↔ _
      constructor
      · intro h
        rcases error_of_bind h with h | ⟨r, -, h⟩
        · exact h
        · cases h
      · intro h
        rw [h]
        rfl
    · simp [computeAll, hv, ht, hl, Except.bind]
    · simp [computeAll, ho, hl, Except.bind]

end Lists

section Bridges

variable {c : Context} {reads : List (Option (String × Library.Decimal))} {q m moved : List (String × Library.Decimal)}
  {before after : List (String × Library.Decimal)} {previous current statement : Element}

def MovementLeaves (c : Context) (q : List (String × Library.Decimal)) (reads : List (Option (String × Library.Decimal))) :
    Prop :=
  ∃ pre conid d post s, reads = pre.map some ++ some (conid, d) :: post ∧
    c.sum (quantity q conid) (changesOf conid pre) = some s ∧ c.add s d = none

lemma changesOf_cons_self {conid : String} {d : Library.Decimal} :
    changesOf conid ((conid, d) :: moved) = d :: changesOf conid moved := by simp [changesOf]

lemma changesOf_cons_ne {conid conid' : String} {d : Library.Decimal} (h : conid ≠ conid') :
    changesOf conid' ((conid, d) :: moved) = changesOf conid' moved := by simp [changesOf, h]

lemma movementsFrom_overflow_iff : movementsFrom c q reads = .error .overflow ↔ MovementLeaves c q reads := by
  constructor
  · intro h
    induction reads generalizing q with
    | nil => cases h
    | cons e reads ih =>
      cases e with
      | none => cases h
      | some e =>
        obtain ⟨conid, d⟩ := e
        rcases error_of_bind h with h | ⟨total, htotal, h⟩
        · exact ⟨[], conid, d, reads, _, rfl, rfl, (raising_error h).1⟩
        · obtain ⟨pre, conid', d', post, s, rfl, hs, hd⟩ := ih h
          refine ⟨(conid, d) :: pre, conid', d', post, s, rfl, ?_, hd⟩
          rw [quantity_put] at hs
          by_cases hc : conid' = conid
          · subst hc
            rw [if_pos rfl] at hs
            rw [changesOf_cons_self, Context.sum, raising_ok htotal]
            exact hs
          · rw [if_neg hc] at hs
            rw [changesOf_cons_ne fun h => hc h.symm]
            exact hs
  · rintro ⟨pre, conid, d, post, s, rfl, hs, hd⟩
    induction pre generalizing q with
    | nil =>
      obtain rfl := Option.some.inj hs
      change (raising (c.add (quantity q conid) d)).bind _ = _
      rw [hd]
      rfl
    | cons e pre ih =>
      obtain ⟨conid', d'⟩ := e
      change (raising (c.add (quantity q conid') d')).bind _ = _
      cases hr : c.add (quantity q conid') d' with
      | none => rfl
      | some total =>
        refine ih ?_
        rw [quantity_put]
        by_cases hc : conid = conid'
        · subst hc
          rw [changesOf_cons_self, Context.sum, hr] at hs
          rw [if_pos rfl]
          exact hs
        · rw [changesOf_cons_ne fun h => hc h.symm] at hs
          rw [if_neg hc]
          exact hs

def QuantityLeaves (c : Context) (before after m : List (String × Library.Decimal)) (conid : String) : Prop :=
  c.sub (quantity after conid) (quantity before conid) = none ∨
    ∃ d, c.sub (quantity after conid) (quantity before conid) = some d ∧ c.sub d (quantity m conid) = none

lemma quantitiesObserved_overflow_iff {xs : List (String × ℕ)} :
    quantitiesObserved c before after m xs = .error .overflow ↔ ∃ x ∈ xs, QuantityLeaves c before after m x.1 := by
  induction xs with
  | nil => simp [quantitiesObserved]
  | cons x xs ih =>
    simp only [List.mem_cons, exists_eq_or_imp]
    rw [← ih]
    change (raising (c.sub (quantity after x.1) (quantity before x.1))).bind _ = _ ↔ _
    cases hd : c.sub (quantity after x.1) (quantity before x.1) with
    | none => exact ⟨fun _ => .inl (.inl hd), fun _ => rfl⟩
    | some d =>
      change (raising (c.sub d (quantity m x.1))).bind _ = _ ↔ _
      cases hr : c.sub d (quantity m x.1) with
      | none => exact ⟨fun _ => .inl (.inr ⟨d, hd, hr⟩), fun _ => rfl⟩
      | some r =>
        have hnot : ¬ QuantityLeaves c before after m x.1 := by
          rintro (h | ⟨d', hd', h⟩)
          · rw [hd] at h
            cases h
          · obtain rfl := Option.some.inj (hd.symm.trans hd')
            rw [hr] at h
            cases h
        rw [or_iff_right hnot]
        change (quantitiesObserved c before after m xs).bind _ = _ ↔ _
        constructor
        · intro h
          rcases error_of_bind h with h | ⟨ds, -, h⟩
          · exact h
          · cases h
        · intro h
          rw [h]
          rfl

def ContractLeaves (c : Context) (before after moved : List (String × Library.Decimal)) (conid : String) : Prop :=
  c.sub (quantity after conid) (quantity before conid) = none ∨
    ∃ d s, c.sub (quantity after conid) (quantity before conid) = some d ∧
      c.sum Library.Decimal.zero (changesOf conid moved) = some s ∧ c.sub d s = none

def BridgesLeave (c : Context) (previous current : Element) : Prop :=
  ∃ opening, balances previous "CashReport" "CashReportCurrency" "currency" "endingCash" = some opening ∧
    (ListLeaves c (cashOpenings opening current) ∨
      (allTerms (cashOpenings opening current)).isSome ∧ ∃ before after,
        balances previous "OpenPositions" "OpenPosition" "conid" "position" = some before ∧
        balances current "OpenPositions" "OpenPosition" "conid" "position" = some after ∧
        (MovementLeaves c [] (quantityReads [] (quantityRows current)) ∨
          ∃ moved, (quantityReads [] (quantityRows current)).mapM id = some moved ∧
            ((∃ x ∈ (conids before after moved).zipIdx, ContractLeaves c before after moved x.1) ∨
              ListLeaves c (navOpening previous current))))

lemma bind_overflow_iff {α β : Type} {x : Except Fault α} {f : α → Except Fault β} :
    x.bind f = .error .overflow ↔ x = .error .overflow ∨ ∃ a, x = .ok a ∧ f a = .error .overflow := by
  constructor
  · exact error_of_bind
  · rintro (h | ⟨a, ha, h⟩)
    · rw [h]
      rfl
    · rw [ha]
      exact h

lemma reading_overflow_iff {α β : Type} {o : Option α} {f : α → Except Fault β} :
    (reading o).bind f = .error .overflow ↔ ∃ a, o = some a ∧ f a = .error .overflow := by
  cases o with
  | none => exact ⟨fun h => (nomatch h), fun ⟨a, ha, _⟩ => (nomatch ha)⟩
  | some a => exact ⟨fun h => ⟨a, rfl, h⟩, fun ⟨a', ha, h⟩ => Option.some.inj ha ▸ h⟩

lemma computeAll_isSome_iff {xs : List (ResidualKey × Operands)} (h : ¬ ListLeaves c xs) :
    (∃ ds, computeAll c xs = .ok ds) ↔ (allTerms xs).isSome := by
  constructor
  · rintro ⟨ds, hds⟩
    obtain ⟨ts, hts, -⟩ := computeAll_ok hds
    rw [hts]
    rfl
  · intro hsome
    cases hc : computeAll c xs with
    | ok ds => exact ⟨ds, rfl⟩
    | error f =>
      cases f with
      | valueError =>
        rw [computeAll_valueError hc] at hsome
        cases hsome
      | overflow => exact (h (computeAll_overflow_iff.mp hc)).elim

lemma movementsFrom_isOk {reads : List (Option (String × Library.Decimal))} (h : ¬ MovementLeaves c q reads)
    (hm : reads.mapM id = some moved) : ∃ m, movementsFrom c q reads = .ok m := by
  cases hr : movementsFrom c q reads with
  | ok m => exact ⟨m, rfl⟩
  | error f =>
    cases f with
    | valueError =>
      rw [movementsFrom_valueError hr] at hm
      cases hm
    | overflow => exact (h (movementsFrom_overflow_iff.mp hr)).elim

lemma contractLeaves_iff {conid : String}
    (h : c.sum Library.Decimal.zero (changesOf conid moved) = some (quantity m conid)) :
    QuantityLeaves c before after m conid ↔ ContractLeaves c before after moved conid := by
  refine or_congr_right (exists_congr fun d => ?_)
  constructor
  · rintro ⟨hd, hr⟩
    exact ⟨_, hd, h, hr⟩
  · rintro ⟨s, hd, hs, hr⟩
    obtain rfl := Option.some.inj (h.symm.trans hs)
    exact ⟨hd, hr⟩

lemma closing_overflow_iff {cash : Residuals} (hm : movementsFrom c [] (quantityReads [] (quantityRows current)) = .ok m)
    (hmoved : (quantityReads [] (quantityRows current)).mapM id = some moved) :
    ((quantitiesObserved c before after m (conids before after m).zipIdx).bind fun quantities =>
      (computeAll c (navOpening previous current)).bind fun nav => .ok (cash ++ quantities ++ nav)) = .error .overflow ↔
    (∃ x ∈ (conids before after moved).zipIdx, ContractLeaves c before after moved x.1) ∨
      ListLeaves c (navOpening previous current) := by
  obtain ⟨moved', hmoved', hsums, hkeys⟩ := movementsFrom_ok hm
  obtain rfl := Option.some.inj (hmoved.symm.trans hmoved')
  have hcontracts : (∃ x ∈ (conids before after m).zipIdx, QuantityLeaves c before after m x.1) ↔
      ∃ x ∈ (conids before after moved).zipIdx, ContractLeaves c before after moved x.1 := by
    rw [conids_congr hkeys]
    exact exists_congr fun x => and_congr_right fun _ => contractLeaves_iff (hsums x.1)
  rw [bind_overflow_iff, quantitiesObserved_overflow_iff, hcontracts]
  refine or_congr_right' fun hnone => ?_
  have hobserved : ∃ quantities, quantitiesObserved c before after m (conids before after m).zipIdx = .ok quantities := by
    cases hq : quantitiesObserved c before after m (conids before after m).zipIdx with
    | ok quantities => exact ⟨quantities, rfl⟩
    | error f =>
      cases f with
      | valueError => exact (quantitiesObserved_valueError hq).elim
      | overflow => exact (hnone (hcontracts.mp (quantitiesObserved_overflow_iff.mp hq))).elim
  rw [← computeAll_overflow_iff]
  constructor
  · rintro ⟨quantities, -, h⟩
    exact (bind_overflow_iff.mp h).resolve_right fun ⟨_, _, h⟩ => (nomatch h)
  · intro h
    obtain ⟨quantities, hq⟩ := hobserved
    exact ⟨quantities, hq, bind_overflow_iff.mpr (.inl h)⟩

lemma openingBridges_overflow_iff : openingBridges c previous current = .error .overflow ↔ BridgesLeave c previous current := by
  unfold openingBridges BridgesLeave
  rw [reading_overflow_iff]
  refine exists_congr fun opening => and_congr_right fun _ => ?_
  rw [bind_overflow_iff, computeAll_overflow_iff]
  refine or_congr_right' fun hcash => ?_
  rw [← computeAll_isSome_iff hcash, ← exists_and_right]
  refine exists_congr fun cash => and_congr_right fun _ => ?_
  rw [reading_overflow_iff]
  refine exists_congr fun before => ?_
  rw [reading_overflow_iff, ← exists_and_left]
  refine exists_congr fun after => and_congr_right fun _ => and_congr_right fun _ => ?_
  rw [bind_overflow_iff, movementsFrom_overflow_iff]
  refine or_congr_right' fun hmoves => ?_
  constructor
  · rintro ⟨m, hm, h⟩
    obtain ⟨moved, hmoved, -⟩ := movementsFrom_ok hm
    exact ⟨moved, hmoved, (closing_overflow_iff hm hmoved).mp h⟩
  · rintro ⟨moved, hmoved, h⟩
    obtain ⟨m, hm⟩ := movementsFrom_isOk hmoves hmoved
    exact ⟨m, hm, (closing_overflow_iff hm hmoved).mpr h⟩

end Bridges

section Reports

variable {c : Context} {start stop : Day} {accounts : List (String × String)} {configured : List String}
  {previousRoot : Option Element} {account : String} {statement : Element} {statements : List (String × Element)}
  {results : List (String × Inspected)}

def StatementLeaves (c : Context) (start : Day) (configured : List String) (previousRoot : Option Element)
    (account : String) (statement : Element) : Prop :=
  ListLeaves c (residuals configured statement) ∨
    ∃ previous, previousStatement start account previousRoot = some previous ∧ BridgesLeave c previous statement

def ReportLeaves (c : Context) (start stop : Day) (configured : List String) (previousRoot : Option Element)
    (statements : List (String × Element)) : Prop :=
  Reaches (fun a => inPeriod start stop a.1 a.2 = true)
    (fun a => inPeriod start stop a.1 a.2 = true ∧ StatementLeaves c start configured previousRoot a.1 a.2) statements

lemma publish_isOk {xs : List (ResidualKey × Operands)} (h : ¬ ListLeaves c xs) : ∃ r, publish c xs = .ok r := by
  induction xs with
  | nil => exact ⟨_, rfl⟩
  | cons e xs ih =>
    obtain ⟨k, x⟩ := e
    rw [ListLeaves, reaches_cons, not_or] at h
    rcases compute_cases c x with ⟨d, hd, ht, -⟩ | ⟨hv, -, -⟩ | ⟨-, hl⟩
    · obtain ⟨r, hr⟩ := ih fun hl => h.2 ⟨ht, hl⟩
      refine ⟨((k, d) :: r.1, r.2), ?_⟩
      simp only [publish, hd, hr]
      rfl
    · exact ⟨([], true), by simp only [publish, hv]⟩
    · exact (h.1 hl).elim

lemma bridged_overflow_iff {previous : Option Element} : bridged c previous statement = .error .overflow ↔
    ∃ p, previous = some p ∧ BridgesLeave c p statement := by
  cases previous with
  | none => exact ⟨fun h => (nomatch h), fun ⟨p, hp, _⟩ => (nomatch hp)⟩
  | some p =>
    simp only [Option.some.injEq, exists_eq_left', ← openingBridges_overflow_iff]
    cases h : openingBridges c p statement with
    | ok rs => simp [bridged, h]
    | error f => cases f <;> simp [bridged, h]

lemma bridged_isOk {previous : Option Element} (h : bridged c previous statement ≠ .error .overflow) :
    ∃ r, bridged c previous statement = .ok r := by
  cases previous with
  | none => exact ⟨_, rfl⟩
  | some p =>
    cases hb : openingBridges c p statement with
    | ok rs => exact ⟨(rs, false), by simp only [bridged, hb]⟩
    | error f =>
      cases f with
      | valueError => exact ⟨([], true), by simp only [bridged, hb]⟩
      | overflow => exact (h (by simp only [bridged, hb])).elim

lemma inspectStatement_cases (c : Context) (start stop : Day) (configured : List String) (previousRoot : Option Element)
    (account : String) (statement : Element) :
    (inPeriod start stop account statement = false ∧
      inspectStatement c start stop configured previousRoot account statement = .error .valueError) ∨
    (inPeriod start stop account statement = true ∧ StatementLeaves c start configured previousRoot account statement ∧
      inspectStatement c start stop configured previousRoot account statement = .error .overflow) ∨
    (inPeriod start stop account statement = true ∧ ¬ StatementLeaves c start configured previousRoot account statement ∧
      ∃ x, inspectStatement c start stop configured previousRoot account statement = .ok x) := by
  cases hp : inPeriod start stop account statement with
  | false => exact .inl ⟨rfl, by simp [inspectStatement, hp]⟩
  | true =>
    have hbody : inspectStatement c start stop configured previousRoot account statement = .error .overflow ↔
        StatementLeaves c start configured previousRoot account statement := by
      rw [inspectStatement, hp]
      change Except.bind _ _ = _ ↔ _
      rw [bind_overflow_iff, publish_overflow_iff, StatementLeaves, ← bridged_overflow_iff]
      refine or_congr_right' fun hown => ?_
      constructor
      · rintro ⟨own, -, h⟩
        exact (bind_overflow_iff.mp h).resolve_right fun ⟨_, _, h⟩ => (nomatch h)
      · intro h
        obtain ⟨own, hown⟩ := publish_isOk hown
        exact ⟨own, hown, bind_overflow_iff.mpr (.inl h)⟩
    by_cases hl : StatementLeaves c start configured previousRoot account statement
    · exact .inr (.inl ⟨rfl, hl, hbody.mpr hl⟩)
    · refine .inr (.inr ⟨rfl, hl, ?_⟩)
      rw [StatementLeaves, not_or, ← bridged_overflow_iff] at hl
      obtain ⟨own, hown⟩ := publish_isOk hl.1
      obtain ⟨opening, hopening⟩ := bridged_isOk hl.2
      rw [inspectStatement, hp, hown, hopening]
      exact ⟨_, rfl⟩

lemma inspectStatements_overflow_iff :
    inspectStatements c start stop accounts configured previousRoot results statements = .error .overflow ↔
      ReportLeaves c start stop configured previousRoot statements := by
  induction statements generalizing results with
  | nil => exact ⟨fun h => (nomatch h), fun h => (not_reaches_nil h).elim⟩
  | cons a statements ih =>
    rw [ReportLeaves, reaches_cons, ← ReportLeaves]
    change (inspectStatement c start stop configured previousRoot a.1 a.2).bind _ = _ ↔ _
    rw [bind_overflow_iff]
    rcases inspectStatement_cases c start stop configured previousRoot a.1 a.2 with ⟨hp, h⟩ | ⟨hp, hl, h⟩ | ⟨hp, hl, x, h⟩
    · simp [hp, h]
    · simp [hp, hl, h]
    · simp only [h, hp, hl, true_and, and_false, false_or, reduceCtorEq]
      rw [← ih]
      exact ⟨fun ⟨x', hx', h'⟩ => Except.ok.inj hx' ▸ h', fun h' => ⟨x, rfl, h'⟩⟩

lemma inspectStatements_isOk_iff (accounts : List (String × String)) (results : List (String × Inspected))
    (h : ¬ ReportLeaves c start stop configured previousRoot statements) :
    (∃ results', inspectStatements c start stop accounts configured previousRoot results statements = .ok results') ↔
      ∀ a ∈ statements, inPeriod start stop a.1 a.2 = true := by
  induction statements generalizing results with
  | nil => exact ⟨fun _ _ ha => (nomatch ha), fun _ => ⟨_, rfl⟩⟩
  | cons a statements ih =>
    rw [ReportLeaves, reaches_cons, ← ReportLeaves, not_or] at h
    rw [List.forall_mem_cons]
    change (∃ results', (inspectStatement c start stop configured previousRoot a.1 a.2).bind _ = .ok results') ↔ _
    rcases inspectStatement_cases c start stop configured previousRoot a.1 a.2 with ⟨hp, hx⟩ | ⟨hp, hl, hx⟩ | ⟨hp, hl, x, hx⟩
    · simp [hp, hx, Except.bind]
    · exact (h.1 ⟨hp, hl⟩).elim
    · rw [hx, hp]
      exact (ih _ fun hl => h.2 ⟨hp, hl⟩).trans (and_iff_right rfl).symm

end Reports

section Times

variable {r : Readers} {config : Config} {boundary : Instant} {lower cutoff : Option Instant} {value : Option String}
  {zone : Option Zone} {statement : Statement} {captureStart captureEnd : Instant} {feed : Feed} {rw_ : Row}
  {p p' : Progress} {xs : List (Feed × Row)}

def InstantLeaves (r : Readers) (value : Option String) (zone : Option Zone) : Prop :=
  ∃ text wall offset, value = some text ∧ 'T' ∈ text.toList ∧ r.fromisoformat text = some ⟨wall, some offset⟩ ∧
    (representable (wall - offset) = false ∨
      ∃ z, zone = some z ∧ representable (wall - offset + z.utcoffset (wall - offset)) = false)

lemma instant_overflow_iff : instant r value zone = .error .overflow ↔ InstantLeaves r value zone := by
  unfold instant InstantLeaves
  cases value with
  | none => simp
  | some text =>
    by_cases ht : 'T' ∈ text.toList
    · cases hf : r.fromisoformat text with
      | none => simp [ht, hf]
      | some parsed =>
        obtain ⟨wall, offset⟩ := parsed
        cases offset with
        | none => simp [ht, hf]
        | some offset =>
          cases hr : representable (wall - offset) with
          | false => simp [ht, hf, hr]
          | true =>
            cases zone with
            | none => simp [ht, hf, hr]
            | some z =>
              cases hz : representable (wall - offset + z.utcoffset (wall - offset)) with
              | false => simp [ht, hf, hr, hz]
              | true =>
                simp only [ht, hf, hr, hz, not_true_eq_false, if_false, Bool.not_true, Bool.false_eq_true]
                split_ifs <;> simp [ht, hf, hr, hz]
    · simp [ht]

def SnapshotLeaves (r : Readers) (config : Config) (statement : Statement) : Prop :=
  ∃ zoneName zone, statement.get config.snapshotTimezoneField = some zoneName ∧ r.zoneInfo zoneName = some zone ∧
    InstantLeaves r (statement.get config.snapshotTimeField) (some zone)

lemma snapshotCutoff_overflow_iff (boundary captureStart captureEnd : Instant) : snapshotCutoff r config boundary statement captureStart captureEnd = .error .overflow ↔
    SnapshotLeaves r config statement := by
  unfold snapshotCutoff SnapshotLeaves
  cases hz : statement.get config.snapshotTimezoneField with
  | none => simp
  | some zoneName =>
    cases hzone : r.zoneInfo zoneName with
    | none => simp [hzone]
    | some zone =>
      have hleaves : (∃ name z, some zoneName = some name ∧ r.zoneInfo name = some z ∧
          InstantLeaves r (statement.get config.snapshotTimeField) (some z)) ↔
            InstantLeaves r (statement.get config.snapshotTimeField) (some zone) := by
        constructor
        · rintro ⟨name, z, hname, hz', h⟩
          obtain rfl := Option.some.inj hname
          obtain rfl := Option.some.inj (hzone.symm.trans hz')
          exact h
        · exact fun h => ⟨_, _, rfl, hzone, h⟩
      rw [hleaves, ← instant_overflow_iff]
      simp only [hzone]
      cases hi : instant r (statement.get config.snapshotTimeField) (some zone) with
      | error f => simp
      | ok utc =>
        simp only [reduceCtorEq, iff_false]
        intro h
        split at h
        · cases h
        · split at h
          · cases h
          · split at h <;> cases h

def TimeLeaves (r : Readers) (config : Config) (x : Feed × Row) : Prop :=
  ∃ field, config.eventTimeFields x.1 = some field ∧ field ∉ ["", "whenGenerated", "reportDate"] ∧
    number x.2.attrib (if x.1.quantity then "quantity" else "amount") ≠ none ∧ InstantLeaves r (x.2.get field) none

lemma effectiveTime_overflow_iff : effectiveTime r config feed rw_ = .error .overflow ↔ TimeLeaves r config (feed, rw_) := by
  unfold effectiveTime TimeLeaves
  cases hf : config.eventTimeFields feed with
  | none => simp
  | some field =>
    simp only [Option.some.injEq, exists_eq_left', ← instant_overflow_iff]
    generalize (if feed.quantity = true then "quantity" else "amount") = amount
    by_cases hfield : field ∈ ["", "whenGenerated", "reportDate"]
    · rw [if_pos hfield]
      exact ⟨fun h => (nomatch h), fun h => (h.1 hfield).elim⟩
    · rw [if_neg hfield]
      by_cases hnumber : number rw_.attrib amount = none
      · rw [if_pos hnumber]
        exact ⟨fun h => (nomatch h), fun h => (h.2.1 hnumber).elim⟩
      · rw [if_neg hnumber]
        exact ⟨fun h => ⟨hfield, hnumber, h⟩, fun h => h.2.2⟩

def Considered (x : Feed × Row) : Prop :=
  (¬ ["originalTradeID", "originalTransactionID", "origTradeID", "origTransactionID"].any fun k => truthy (x.2.get k)) ∧
    ¬ (blank ((x.2.get "currency").getD "") ∨ x.2.get "currency" = some "BASE_SUMMARY") ∧
      ¬ (x.1.quantity ∧ (!truthy (x.2.get "conid") ∨ x.2.get "assetCategory" ≠ some "STK"))

lemma observe_none_iff : observe r config boundary lower cutoff feed p rw_ = none ↔
    Considered (feed, rw_) ∧ TimeLeaves r config (feed, rw_) := by
  rw [← effectiveTime_overflow_iff]
  unfold observe Considered
  extract_lets event
  by_cases hcorrection : (["originalTradeID", "originalTransactionID", "origTradeID", "origTransactionID"].any
      fun k => truthy (rw_.get k)) = true
  · rw [if_pos hcorrection]
    exact ⟨fun h => (nomatch h), fun h => (h.1.1 hcorrection).elim⟩
  rw [if_neg hcorrection]
  by_cases hcurrency : blank ((rw_.get "currency").getD "") ∨ rw_.get "currency" = some "BASE_SUMMARY"
  · rw [if_pos hcurrency]
    exact ⟨fun h => (nomatch h), fun h => (h.1.2.1 hcurrency).elim⟩
  rw [if_neg hcurrency]
  by_cases hinstrument : feed.quantity ∧ (!truthy (rw_.get "conid") ∨ rw_.get "assetCategory" ≠ some "STK")
  · rw [if_pos hinstrument]
    exact ⟨fun h => (nomatch h), fun h => (h.1.2.2 hinstrument).elim⟩
  rw [if_neg hinstrument, and_iff_right ⟨hcorrection, hcurrency, hinstrument⟩]
  cases effectiveTime r config feed rw_ with
  | ok effective => exact ⟨fun h => (nomatch h), fun h => (nomatch h)⟩
  | error f =>
    cases f with
    | valueError => exact ⟨fun h => (nomatch h), fun h => (nomatch h)⟩
    | overflow => exact ⟨fun _ => rfl, fun _ => rfl⟩

def identified (x : Feed × Row) : Bool := truthy (x.2.get x.1.identityField)

lemma row_none_iff {x : Feed × Row} : row r config boundary lower cutoff x.1 p x.2 = none ↔
    identified x = true ∧ keyOf x ∉ p.seenInReport ∧ Considered x ∧ TimeLeaves r config x := by
  unfold row
  extract_lets event
  change (if identified x = false then _ else _) = none ↔ _
  by_cases hid : identified x = true
  · rw [if_neg (Bool.not_eq_false _ ▸ hid), and_iff_right hid]
    by_cases hseen : event.key ∈ p.seenInReport
    · rw [if_pos hseen]
      exact ⟨fun h => (nomatch h), fun h => (h.1 hseen).elim⟩
    · rw [if_neg hseen, observe_none_iff, and_iff_right (show keyOf x ∉ p.seenInReport from hseen)]
  · rw [if_pos (Bool.eq_false_iff.mpr hid)]
    exact ⟨fun h => (nomatch h), fun h => (hid h.1).elim⟩

lemma classify_seen {fingerprint : String} {event : Event} {t : Instant} :
    (classify boundary lower cutoff fingerprint p event t).seenInReport = p.seenInReport := by
  unfold classify
  extract_lets
  split_ifs
  · rfl
  · split <;> rfl

lemma observe_seen (h : observe r config boundary lower cutoff feed p rw_ = some p') : p'.seenInReport = p.seenInReport := by
  unfold observe at h
  extract_lets event at h
  split_ifs at h
  · rw [← Option.some.inj h]
    rfl
  · rw [← Option.some.inj h]
    rfl
  · rw [← Option.some.inj h]
    rfl
  split at h
  · cases h
  · rw [← Option.some.inj h]
    rfl
  · rw [← Option.some.inj h, classify_seen]

lemma row_seen {x : Feed × Row} {key : Key} (h : row r config boundary lower cutoff x.1 p x.2 = some p')
    (hkey : key.2 ≠ "") : key ∈ p'.seenInReport ↔ key ∈ p.seenInReport ∨ key = keyOf x := by
  unfold row at h
  extract_lets event at h
  split_ifs at h with hid hseen
  · rw [← Option.some.inj h]
    have hempty : (keyOf x).2 = "" := by simpa [keyOf, truthy] using hid
    refine (or_iff_left fun heq => hkey ?_).symm
    rw [heq, hempty]
  · rw [← Option.some.inj h]
    exact (or_iff_left_of_imp fun heq => heq ▸ hseen).symm
  · rw [observe_seen h, List.mem_cons]
    exact or_comm

def EventLeaves (r : Readers) (config : Config) (seen : List Key) (xs : List (Feed × Row)) : Prop :=
  ∃ pre x post, xs = pre ++ x :: post ∧ identified x = true ∧ keyOf x ∉ seen ∧ keyOf x ∉ pre.map keyOf ∧
    Considered x ∧ TimeLeaves r config x

lemma eventLeaves_cons {x : Feed × Row} {seen seen' : List Key}
    (hseen : ∀ key : Key, key.2 ≠ "" → (key ∈ seen' ↔ key ∈ seen ∨ key = keyOf x)) :
    EventLeaves r config seen (x :: xs) ↔
      (identified x = true ∧ keyOf x ∉ seen ∧ Considered x ∧ TimeLeaves r config x) ∨ EventLeaves r config seen' xs := by
  have hnamed : ∀ {y : Feed × Row}, identified y = true → (keyOf y).2 ≠ "" := fun hy => by
    simpa [identified, keyOf, truthy] using hy
  constructor
  · rintro ⟨pre, y, post, heq, hid, hnew, hfirst, hrest⟩
    cases pre with
    | nil =>
      obtain ⟨rfl, -⟩ := List.cons.inj heq
      exact .inl ⟨hid, hnew, hrest⟩
    | cons z pre =>
      obtain ⟨rfl, rfl⟩ := List.cons.inj heq
      rw [List.map_cons, List.mem_cons, not_or] at hfirst
      exact .inr ⟨pre, y, post, rfl, hid, by rw [hseen _ (hnamed hid), not_or]; exact ⟨hnew, hfirst.1⟩, hfirst.2, hrest⟩
  · rintro (⟨hid, hnew, hrest⟩ | ⟨pre, y, post, rfl, hid, hnew, hfirst, hrest⟩)
    · exact ⟨[], x, xs, rfl, hid, hnew, List.not_mem_nil, hrest⟩
    · rw [hseen _ (hnamed hid), not_or] at hnew
      refine ⟨x :: pre, y, post, rfl, hid, hnew.1, ?_, hrest⟩
      rw [List.map_cons, List.mem_cons, not_or]
      exact ⟨hnew.2, hfirst⟩

lemma foldRows_none_iff : foldRows (fun p x => row r config boundary lower cutoff x.1 p x.2) p xs = none ↔
    EventLeaves r config p.seenInReport xs := by
  induction xs generalizing p with
  | nil =>
    refine ⟨fun h => (nomatch h), ?_⟩
    rintro ⟨pre, x, post, heq, -⟩
    cases pre <;> cases heq
  | cons x xs ih =>
    cases hrow : row r config boundary lower cutoff x.1 p x.2 with
    | none =>
      have hleaves := row_none_iff.mp hrow
      refine ⟨fun _ => ⟨[], x, xs, rfl, hleaves.1, hleaves.2.1, List.not_mem_nil, hleaves.2.2⟩, fun _ => ?_⟩
      rw [foldRows, hrow]
      rfl
    | some q =>
      rw [foldRows, hrow, Option.bind_some, ih, eventLeaves_cons fun key => row_seen hrow, or_iff_right]
      intro hleaves
      rw [row_none_iff.mpr hleaves] at hrow
      cases hrow

end Times

section Qualification

variable {r : Readers} {config : Config} {boundary : Instant} {sha256 : String} {checked : Checked}
  {previous : Option Evidence} {captureStart captureEnd : Instant} {accountId : String} {statement : Statement}

def QualifyLeaves (r : Readers) (config : Config) (statement : Statement) : Prop :=
  SnapshotLeaves r config statement ∨ EventLeaves r config [] (feedRows statement)

lemma assemble_none_iff {asOf : Option SourceAsOf} :
    assemble r config boundary sha256 checked previous captureStart captureEnd accountId statement asOf = none ↔
      EventLeaves r config [] (feedRows statement) := by
  unfold assemble
  extract_lets cutoff issues opening start
  rw [Option.map_eq_none_iff, foldRows_none_iff]

lemma qualifyStatement_none_iff (boundary : Instant) (sha256 : String) (checked : Checked) (previous : Option Evidence)
    (captureStart captureEnd : Instant) (accountId : String) :
    qualifyStatement r config boundary sha256 checked previous captureStart captureEnd accountId statement = none ↔
      QualifyLeaves r config statement := by
  unfold qualifyStatement QualifyLeaves
  extract_lets prior from_
  rw [← snapshotCutoff_overflow_iff boundary captureStart captureEnd]
  cases hs : snapshotCutoff r config boundary statement captureStart captureEnd with
  | ok asOf => exact assemble_none_iff.trans (or_iff_right fun h => (nomatch h)).symm
  | error f =>
    cases f with
    | valueError => exact assemble_none_iff.trans (or_iff_right fun h => (nomatch h)).symm
    | overflow => exact ⟨fun _ => .inl rfl, fun _ => rfl⟩

end Qualification

section Window

variable {c : Context} {job : Job} {root : Element} {statements : List (String × Element)}
  {results : List (String × Inspected)} {f : ForwardRun} {slot : Slot} {now : Instant}

lemma requireAccountScope_account (h : requireAccountScope root job.accounts = some statements) :
    ∀ s ∈ statements, s.2.get "accountId" = some s.1 ∧ ∃ l, job.accounts.lookup s.1 = some l := by
  intro s hs
  refine ⟨?_, (requireAccountScope_ok h).2 s hs⟩
  unfold requireAccountScope at h
  extract_lets known found ids at h
  split_ifs at h with htype hids hnested
  obtain rfl := Option.some.inj h
  obtain ⟨e, he, rfl⟩ := List.mem_map.mp hs
  simp only [not_or, not_not] at hids
  have hknown := (List.any_eq_false.mp (Bool.eq_false_iff.mpr hids.2.2)) _ (List.mem_map_of_mem he)
  simp only [known, Bool.not_eq_true, Bool.not_eq_false', Option.any_eq_true] at hknown
  obtain ⟨a, ha, -⟩ := hknown
  change e.get "accountId" = some ((e.get "accountId").getD "")
  rw [ha]
  rfl

lemma mapM_none_iff {α β : Type} {g : α → Option β} {xs : List α} : xs.mapM g = none ↔ ∃ x ∈ xs, g x = none := by
  induction xs with
  | nil => exact ⟨fun h => (nomatch h), fun ⟨_, hx, _⟩ => (nomatch hx)⟩
  | cons x xs ih =>
    rw [List.mapM_cons, List.exists_mem_cons_iff, ← ih]
    cases hx : g x with
    | none => exact ⟨fun _ => .inl rfl, fun _ => rfl⟩
    | some y =>
      change ((xs.mapM g).bind fun ys => some (y :: ys)) = none ↔ _
      cases xs.mapM g with
      | none => exact ⟨fun _ => .inr rfl, fun _ => rfl⟩
      | some ys => exact ⟨fun h => (nomatch h), fun h => h.elim (fun h => (nomatch h)) fun h => (nomatch h)⟩

lemma qualifyReport_overflow_iff (results : List (String × Inspected))
    (h : requireAccountScope root job.accounts = some statements) :
    qualifyReport job f statements results = .error .overflow ↔
      ∃ s ∈ statements, QualifyLeaves f.readers { f.config with accounts := job.accounts } (statementOf s.2) := by
  have hnone : qualify f.readers { f.config with accounts := job.accounts } f.boundary f.sha256
      (statements.map fun s => statementOf s.2) (checkedOf results) f.previous f.captureStart f.captureEnd = none ↔
        ∃ s ∈ statements, QualifyLeaves f.readers { f.config with accounts := job.accounts } (statementOf s.2) := by
    unfold qualify
    rw [mapM_none_iff]
    simp only [List.mem_map, exists_exists_and_eq_and]
    refine exists_congr fun s => and_congr_right fun hs => ?_
    obtain ⟨haccount, label, hlabel⟩ := requireAccountScope_account h s hs
    rw [← qualifyStatement_none_iff f.boundary f.sha256 (checkedOf results label) (f.previous label) f.captureStart f.captureEnd s.1]
    rw [show (statementOf s.2).get "accountId" = some s.1 from haccount]
    change (Option.bind (job.accounts.lookup s.1) fun label => _) = none ↔ _
    rw [hlabel]
    change (Option.bind (qualifyStatement f.readers _ f.boundary f.sha256 (checkedOf results label) (f.previous label)
      f.captureStart f.captureEnd s.1 (statementOf s.2)) fun evidence => some (label, evidence)) = none ↔ _
    rw [Option.bind_eq_none_iff]
    exact ⟨fun h => Option.eq_none_iff_forall_ne_some.mpr fun e he => (nomatch h e he), fun h e he => by rw [h] at he; cases he⟩
  rw [← hnone]
  unfold qualifyReport
  cases qualify f.readers { f.config with accounts := job.accounts } f.boundary f.sha256
    (statements.map fun s => statementOf s.2) (checkedOf results) f.previous f.captureStart f.captureEnd with
  | none => exact ⟨fun _ => rfl, fun _ => rfl⟩
  | some evidence => exact ⟨fun h => (nomatch h), fun h => (nomatch h)⟩

def Leaves (c : Context) (job : Job) (root : Element) : Prop :=
  ∃ statements, requireAccountScope root job.accounts = some statements ∧
    (ReportLeaves c job.start job.stop job.configured (if job.forward.isSome then none else job.previousRoot) statements ∨
      ∃ f, job.forward = some f ∧ (∀ s ∈ statements, inPeriod job.start job.stop s.1 s.2 = true) ∧
        ∃ s ∈ statements, QualifyLeaves f.readers { f.config with accounts := job.accounts } (statementOf s.2))

lemma statuses_overflow_iff (h : requireAccountScope root job.accounts = some statements) :
    statuses job statements results = .error .overflow ↔ ∃ f, job.forward = some f ∧
      ∃ s ∈ statements, QualifyLeaves f.readers { f.config with accounts := job.accounts } (statementOf s.2) := by
  unfold statuses
  cases hf : job.forward with
  | none => exact ⟨fun h => (nomatch h), fun ⟨_, h, _⟩ => (nomatch h)⟩
  | some f =>
    simp only [Option.some.injEq, exists_eq_left']
    rw [← qualifyReport_overflow_iff results h, bind_overflow_iff]
    exact or_iff_left fun ⟨_, _, h⟩ => (nomatch h)

lemma controlled_ne_overflow {complete : Bool} : controlled job root complete ≠ .error .overflow := by
  unfold controlled
  split
  · exact fun h => (nomatch h)
  · exact fun h => (nomatch h)
  · intro h
    obtain ⟨same, -, h⟩ := reading_overflow_iff.mp h
    cases h

lemma processReport_overflow_iff (h : requireAccountScope root job.accounts = some statements) :
    processReport c job statements root = .error .overflow ↔ Leaves c job root := by
  have hleaves : Leaves c job root ↔
      ReportLeaves c job.start job.stop job.configured (if job.forward.isSome then none else job.previousRoot) statements ∨
        ∃ f, job.forward = some f ∧ (∀ s ∈ statements, inPeriod job.start job.stop s.1 s.2 = true) ∧
          ∃ s ∈ statements, QualifyLeaves f.readers { f.config with accounts := job.accounts } (statementOf s.2) := by
    constructor
    · rintro ⟨statements', h', hl⟩
      obtain rfl := Option.some.inj (h.symm.trans h')
      exact hl
    · exact fun hl => ⟨statements, h, hl⟩
  rw [hleaves]
  unfold processReport inspectReport
  rw [h, bind_overflow_iff, inspectStatements_overflow_iff]
  refine or_congr_right' fun hreport => ?_
  have hperiod := inspectStatements_isOk_iff job.accounts
    (job.accounts.foldl (fun d a => Dictionary.put a.2 Inspected.missing d) []) hreport
  constructor
  · rintro ⟨results, hresults, hx⟩
    rcases bind_overflow_iff.mp hx with hx | ⟨_, _, hx⟩
    · obtain ⟨f, hf, hq⟩ := (statuses_overflow_iff h).mp hx
      exact ⟨f, hf, hperiod.mp ⟨results, hresults⟩, hq⟩
    · exact (controlled_ne_overflow hx).elim
  · rintro ⟨f, hf, hin, hq⟩
    obtain ⟨results, hresults⟩ := hperiod.mpr hin
    exact ⟨results, hresults, bind_overflow_iff.mpr (.inl ((statuses_overflow_iff h).mpr ⟨f, hf, hq⟩))⟩

def settled (slot : Slot) (now : Instant) : Prop :=
  slot.attempts = 0 ∧ slot.nextAttemptAt = none ∨ ∃ retry, slot.nextAttemptAt = some retry ∧ now < retry

lemma failed_settled {reason : String} : settled (failed slot now reason) now := by
  refine .inr ⟨_, rfl, lt_add_of_pos_right now ?_⟩
  split_ifs
  · exact (by decide : 0 < Calendar.hours 24)
  · exact (by decide : 0 < Calendar.hours 1)

/-- No exception ends the run exactly when no value that is reached leaves the range of its
arithmetic. -/
theorem window_handled_iff (job : Job) (slot : Slot) (now : Instant) (root : Element) :
    ((window residualContext job slot now root).2 ≠ some .abort ∧
      ((requireAccountScope root job.accounts).isSome → (window residualContext job slot now root).2 = none) ∧
        settled (window residualContext job slot now root).1 now) ↔ ¬ Leaves residualContext job root := by
  unfold window
  cases h : requireAccountScope root job.accounts with
  | none =>
    refine ⟨fun _ ⟨_, h', _⟩ => ?_, fun _ => ⟨fun h => (nomatch h), fun h => (nomatch h), failed_settled⟩⟩
    rw [h] at h'
    cases h'
  | some statements =>
    rw [← processReport_overflow_iff h]
    change ((handle _ _ _).2 ≠ _ ∧ (_ → (handle _ _ _).2 = none) ∧ settled (handle _ _ _).1 now) ↔ _
    cases processReport residualContext job statements root with
    | ok done =>
      refine ⟨fun _ h => (nomatch h), fun _ => ?_⟩
      cases done with
      | true => exact ⟨fun h => (nomatch h), fun _ => rfl, .inl ⟨rfl, rfl⟩⟩
      | false => exact ⟨fun h => (nomatch h), fun _ => rfl, failed_settled⟩
    | error f =>
      cases f with
      | valueError => exact ⟨fun _ h => (nomatch h), fun _ => ⟨fun h => (nomatch h), fun _ => rfl, failed_settled⟩⟩
      | overflow => exact ⟨fun h => (h.1 rfl).elim, fun h => (h rfl).elim⟩

def dailyJob : Job := ⟨20759, 20759, oneAccount, ["CashReport"], none, none, none⟩

def largeCash : Element := cashReport (cashRow "0" "1E+1000000" [])

theorem large_cash_escapes : (requireAccountScope largeCash oneAccount).isSome ∧
    window residualContext dailyJob Slot.empty 0 largeCash = (Slot.empty, some .abort) := by
  have hscope : (requireAccountScope largeCash oneAccount).isSome := by decide
  refine ⟨hscope, ?_⟩
  obtain ⟨statements, h⟩ := Option.isSome_iff_exists.mp hscope
  have hprocess : processReport residualContext dailyJob ((requireAccountScope largeCash oneAccount).getD []) largeCash =
      .error .overflow := by decide +kernel
  rw [h] at hprocess
  unfold window
  rw [show requireAccountScope largeCash dailyJob.accounts = some statements from h]
  change handle Slot.empty 0 (processReport residualContext dailyJob statements largeCash) = _
  rw [show processReport residualContext dailyJob statements largeCash = .error .overflow from hprocess]
  rfl

end Window

end IbkrPlatform.FlexDaily.Escapes
