import IbkrPlatform.Notifications.Candidates
import IbkrPlatform.Settlement.Observers

/-! The rows of one attempt over the states of its store. -/

namespace IbkrPlatform.Notifications.RowHistory

open Library Settlement

structure Older (before after : Row) : Prop where
  same : Row.sameOrder before after = true
  started : before.sourceStartedAt = after.sourceStartedAt
  bound : before.brokerOrderId = none ∨ before.brokerOrderId = after.brokerOrderId
  sequence : before.settlementSequence ≤ after.settlementSequence
  still : before.settlementSequence = after.settlementSequence → before.brokerOrderId = after.brokerOrderId → before = after
  final : before.brokerConfirmedTerminal = true → before = after

structure Sound (row : Row) : Prop where
  unobserved : row.settlementSequence = 0 → row.brokerConfirmedTerminal = false ∧ row.fills.container = .tuple
  observed : 0 < row.settlementSequence → row.brokerOrderId.isSome ∧ row.fills.container = .list
  complete : row.brokerConfirmedTerminal = true → (row.status = "Filled" ∨ row.filledQuantity.getD 0 ≠ 0) →
    row.filledQuantity.isSome ∧ row.averageFillPrice.isSome

section Order

variable {a b c : Row}

lemma Older.trans (h : Older a b) (h' : Older b c) : Older a c where
  same := by
    have h1 := h.same
    have h2 := h'.same
    simp only [Row.sameOrder, decide_eq_true_eq] at h1 h2 ⊢
    exact ⟨h1.1.trans h2.1, h1.2.1.trans h2.2.1, h1.2.2.1.trans h2.2.2.1, h1.2.2.2.1.trans h2.2.2.2.1,
      h1.2.2.2.2.1.trans h2.2.2.2.2.1, h1.2.2.2.2.2.trans h2.2.2.2.2.2⟩
  started := h.started.trans h'.started
  bound := by
    rcases h.bound with hnone | hab
    · exact .inl hnone
    · rw [hab]
      exact h'.bound
  sequence := h.sequence.trans h'.sequence
  still hs hid := by
    have hab : a.settlementSequence = b.settlementSequence := le_antisymm h.sequence (hs ▸ h'.sequence)
    have hbound : a.brokerOrderId = b.brokerOrderId := by
      rcases h.bound with hnone | hsame
      · rcases h'.bound with hnone' | hsame'
        · rw [hnone, hnone']
        · rw [hid, hsame']
      · exact hsame
    obtain rfl := h.still hab hbound
    exact h'.still hs hid
  final ht := by
    obtain rfl := h.final ht
    exact h'.final ht

lemma Older.antisymm (h : Older a b) (h' : Older b a) : a = b := by
  refine h.still (le_antisymm h.sequence h'.sequence) ?_
  rcases h.bound with hnone | hsame
  · rcases h'.bound with hnone' | hsame'
    · rw [hnone, hnone']
    · exact hsame'.symm
  · exact hsame

end Order

section Reading

variable {profile : String} {s t : Store} {r r' : Record}

lemma observations_length (h : ReadBack s r) (hs : Observers.Sound profile s) :
    r.observations = (s.observedOf r.data.attemptId).map Prod.snd := by
  rw [h.observations, observations_eq (hs.history _ _ h.pending)]

lemma rowOf_sequence (h : ReadBack s r) : (rowOf r).settlementSequence = r.observations.length := by
  have hordered := (checkHistory_ordered h.history).1
  rw [h.observations, List.length_map]
  have hsequence : (rowOf r).settlementSequence =
      (((s.observations r.data.attemptId).map Prod.snd).getLast?.map Observation.sequence).getD 0 := by
    rw [← h.observations]
    rfl
  rw [hsequence, List.getLast?_map]
  cases hl : (s.observations r.data.attemptId).getLast? with
  | none =>
    rw [List.getLast?_eq_none_iff.mp hl]
    rfl
  | some x =>
    have hmem := List.mem_of_getLast? hl
    have hlast : ((s.observations r.data.attemptId).map Prod.fst).getLast? = some x.1 := by rw [List.getLast?_map, hl]; rfl
    rw [hordered.numbers, List.getLast?_range', if_neg (List.length_pos_of_mem hmem).ne', Option.some.injEq] at hlast
    simp only [Option.map_some, Option.getD_some, hordered.sequences x hmem]
    omega

lemma rowOf_older (hs : Observers.Sound profile s) (ht : Observers.Sound profile t) (hp : s <+: t) (h : ReadBack s r)
    (h' : ReadBack t r') (ha : r.data.attemptId = r'.data.attemptId) : Older (rowOf r) (rowOf r') := by
  have hdata : r.data = r'.data := by
    have hpending := pendingOf_grows hp h.pending
    rw [ha, h'.pending] at hpending
    exact (Option.some.inj hpending).symm
  have horder : r.orderId = none ∨ r.orderId = r'.orderId := by
    cases ho : r.orderId with
    | none => exact .inl rfl
    | some orderId =>
      rw [h.orderId] at ho
      rw [h'.orderId, ← hdata, brokerOf_grows hp ho]
      exact .inr rfl
  have hobservations : r.observations <+: r'.observations := by
    rw [observations_length h hs, observations_length h' ht, ← hdata]
    exact (observedOf_grows hp).map _
  have hequal : r.observations.length = r'.observations.length → r.orderId = r'.orderId → rowOf r = rowOf r' := by
    intro hl ho
    have hsame := hobservations.eq_of_length hl
    unfold rowOf
    rw [hdata, ho, hsame]
  refine ⟨?_, ?_, horder, ?_, ?_, fun hterminal => ?_⟩
  · simp [Row.sameOrder, rowOf, hdata]
  · simp [rowOf, hdata]
  · rw [rowOf_sequence h, rowOf_sequence h']
    exact hobservations.length_le
  · rw [rowOf_sequence h, rowOf_sequence h']
    exact hequal
  · -- Nothing is observed after a terminal outcome.
    obtain ⟨o, ho, hfinal⟩ : ∃ o, r.observations.getLast? = some o ∧ o.outcome.terminal = true := by
      cases hl : r.observations.getLast? with
      | none => simp [rowOf, hl, Outcome.unknown] at hterminal
      | some o => exact ⟨o, rfl, by simpa [rowOf, hl] using hterminal⟩
    have hbound : r.orderId = r'.orderId := by
      rcases horder with hnone | hsame
      · have hne : s.observedOf r.data.attemptId ≠ [] := by
          intro hnil
          rw [observations_length h hs, hnil] at ho
          cases ho
        have hsome := hs.bound _ hne
        rw [← h.orderId, hnone] at hsome
        cases hsome
      · exact hsame
    refine hequal ?_ hbound
    obtain ⟨later, hlater⟩ := hobservations
    cases later with
    | nil => rw [← hlater, List.append_nil]
    | cons x later =>
      have hpairwise : r'.observations.Pairwise fun x y => Follows x.outcome y.outcome := by
        rw [h'.observations]
        exact List.pairwise_map.mpr (checkHistory_ordered h'.history).1.follows
      rw [← hlater] at hpairwise
      have hfollows := (List.pairwise_append.mp hpairwise).2.2 o (List.mem_of_getLast? ho) x List.mem_cons_self
      rw [hfollows.1] at hfinal
      cases hfinal

lemma validateOutcome_complete {orderId : Option String} {quantity : ℚ} {o : Outcome} (hq : 0 < quantity)
    (h : validateOutcome orderId quantity o = .ok ()) (ht : o.terminal = true) :
    o.status ∈ terminalStatuses ∧ o.filledQty.isSome ∧ (o.status = "filled" ∨ o.filled ≠ 0 → o.avgPrice.isSome) := by
  unfold validateOutcome at h
  split at h
  · cases h
  · split at h
    · cases h
    · split at h
      · cases h
      · split at h
        · rename_i hfacts
          unfold factsValid at hfacts
          split at hfacts
          · rename_i filled remaining hfilled _
            simp only [decide_eq_true_eq, ht] at hfacts
            obtain ⟨hpositive, _, _, hprice, hterminal, hfull, _⟩ := hfacts
            have hprice' : 0 < filled → o.avgPrice.isSome := by
              intro hlt
              have hpos := hprice hlt
              cases ha : o.avgPrice with
              | none => simp [ha] at hpos
              | some price => rfl
            refine ⟨by simpa using hterminal.symm, by rw [hfilled]; rfl, fun hcase => hprice' ?_⟩
            rcases hcase with hstatus | hne
            · exact (hfull hstatus).2 ▸ hq
            · rw [Outcome.filled, hfilled, Option.getD_some] at hne
              exact lt_of_le_of_ne hpositive hne.symm
          · cases hfacts
        · cases h

lemma rowOf_sound (hs : Observers.Sound profile s) (h : ReadBack s r) (hq : 0 < r.data.quantity) : Sound (rowOf r) := by
  have hordered := (checkHistory_ordered h.history).1
  refine ⟨fun hz => ?_, fun hpos => ?_, fun hterminal hcase => ?_⟩
  · rw [rowOf_sequence h, List.length_eq_zero_iff] at hz
    simp [rowOf, hz, Outcome.unknown]
  · rw [rowOf_sequence h] at hpos
    have hne : r.observations ≠ [] := List.ne_nil_of_length_pos hpos
    obtain ⟨o, ho⟩ := Option.isSome_iff_exists.mp (List.getLast?_isSome.mpr hne)
    refine ⟨?_, by simp [rowOf, ho]⟩
    have hobserved : s.observedOf r.data.attemptId ≠ [] := by
      intro hnil
      rw [observations_length h hs, hnil] at hne
      exact hne rfl
    have hbound := hs.bound _ hobserved
    rw [← h.orderId] at hbound
    exact hbound
  · cases hl : r.observations.getLast? with
    | none => simp [rowOf, hl, Outcome.unknown] at hterminal
    | some o =>
      have hmem := List.mem_of_getLast? hl
      rw [h.observations] at hmem
      obtain ⟨x, hx, rfl⟩ := List.mem_map.mp hmem
      have hfinal : x.2.outcome.terminal = true := by simpa [rowOf, hl] using hterminal
      obtain ⟨hstatus, hfilled, hprice⟩ := validateOutcome_complete hq (hordered.valid x hx) hfinal
      simp only [rowOf, hl, Option.map_some, Option.getD_some, hfinal, if_true] at hcase ⊢
      refine ⟨hfilled, hprice ?_⟩
      rcases hcase with hlabel | hne
      · left
        unfold terminalLabel at hlabel
        split at hlabel
        · assumption
        · exact absurd hlabel (by split <;> decide)
      · exact .inr hne

end Reading

section Runs

variable {I : Type} [DecidableEq I] {hasOffset : String → Bool} {profile : String}

def Reported (profile : String) (s : Store) (attempt : String) (row : Row) : Prop :=
  ∃ summary, settlementSummary profile s = .ok summary ∧ row ∈ summary.ordersSubmitted ∧ row.settlementAttemptId = attempt

lemma act_pending {s t : Store} {ph ph' : Observers.Phase} {action : Observers.Action} {a : String} {data : Pending}
    (h : Observers.act hasOffset profile s ph action = some (t, ph')) (hm : ⟨a, .pending data⟩ ∈ t) :
    ⟨a, .pending data⟩ ∈ s ∨ Observers.orderValid hasOffset data = true := by
  have hcreate : ∀ {e : Entry} {x : Except String Bool} {t : Store}, s.create e = (t, x) → ⟨a, .pending data⟩ ∈ t →
      ⟨a, .pending data⟩ ∈ s ∨ e = ⟨a, .pending data⟩ := by
    intro e x t hx hmem
    rcases create_cases hx with ⟨rfl, _⟩ | ⟨rfl, _⟩
    · exact .inl hmem
    · exact (List.mem_append.mp hmem).imp_right fun he => (List.mem_singleton.mp he).symm
  have hsame : ∀ {ph''}, some (s, ph'') = some (t, ph') → ⟨a, .pending data⟩ ∈ s := by
    rintro ph'' ⟨⟩
    exact hm
  unfold Observers.act at h
  split at h
  · cases hx : Observers.prepare hasOffset profile s _ with
    | mk s' x =>
      have ht : t = s' := by
        rw [hx] at h
        cases x <;> cases h <;> rfl
      subst ht
      unfold Observers.prepare at hx
      split at hx
      · exact .inl ((Prod.mk.inj hx).1 ▸ hm)
      · rename_i hvalid
        split at hx
        · exact .inl ((Prod.mk.inj hx).1 ▸ hm)
        · rcases hcreate hx hm with hin | he
          · exact .inl hin
          · cases he
            simp only [Bool.not_eq_true', Bool.not_eq_false] at hvalid
            exact .inr hvalid
  · rename_i attempt orderId
    cases hx : Observers.bindOrder s attempt orderId with
    | mk s' x =>
      have ht : t = s' := by
        rw [hx] at h
        cases x <;> cases h <;> rfl
      subst ht
      unfold Observers.bindOrder at hx
      split at hx
      · exact .inl ((Prod.mk.inj hx).1 ▸ hm)
      · rcases hcreate hx hm with hin | he
        · exact .inl hin
        · cases he
  · rename_i attempt permanentId
    cases hx : s.create ⟨attempt, .permanent permanentId⟩ with
    | mk s' x =>
      have ht : t = s' := by
        rw [hx] at h
        cases x <;> cases h <;> rfl
      subst ht
      rcases hcreate hx hm with hin | he
      · exact .inl hin
      · cases he
  · split at h
    · exact .inl (hsame h)
    · dsimp only at h
      split at h <;> exact .inl (hsame h)
  · split at h
    · exact .inl (hsame h)
    · dsimp only at h
      split at h <;> exact .inl (hsame h)
  · exact .inl (hsame h)
  · exact .inl (hsame h)
  · split at h
    · cases h
    · exact .inl (hsame h)
  · split at h
    · exact .inl (hsame h)
    · split at h
      · exact .inl (hsame h)
      · split at h
        · exact .inl (hsame h)
        · split at h <;> exact .inl (hsame h)
  · rename_i r rest outcome sequence tries
    rcases claimMarker_cases s ⟨r.data.attemptId, .observed sequence ⟨sequence, outcome⟩⟩ with ⟨hc, _⟩ | ⟨hc, _⟩
    · rw [hc] at h
      exact .inl (hsame h)
    · rw [hc] at h
      cases h
      rcases List.mem_append.mp hm with hin | he
      · exact .inl hin
      · cases List.mem_singleton.mp he
  · cases h

lemma reachable_valid {s : Observers.State I} (h : (Observers.observers hasOffset profile).Reachable s) {a : String}
    {data : Pending} (hm : ⟨a, .pending data⟩ ∈ s.store) : Observers.orderValid hasOffset data = true := by
  have hall : ∀ a data, ⟨a, .pending data⟩ ∈ s.store → Observers.orderValid hasOffset data = true := by
    refine h.invariant (I := fun s => ∀ a data, ⟨a, .pending data⟩ ∈ s.store → Observers.orderValid hasOffset data = true)
      (fun s hinit a data hm => ?_) fun s l t hs hstep a data hm => ?_
    · rw [hinit.1] at hm
      cases hm
    · have hnext : Observers.step hasOffset profile s l = some t := hstep
      obtain ⟨⟨store, ph⟩, hact, rfl⟩ := Option.map_eq_some_iff.mp hnext
      exact (act_pending hact hm).elim (hs a data) id
  exact hall a data hm

def Earlier (hasOffset : String → Bool) (profile : String) (t s : Observers.State I) : Prop :=
  (Observers.observers hasOffset profile).Reachable s ∧ ∃ ls, (Observers.observers hasOffset profile).Run s ls t

lemma reported_rows {t s s' : Observers.State I} (h : Earlier hasOffset profile t s) (h' : Earlier hasOffset profile t s')
    {attempt : String} {row row' : Row} (hrow : Reported profile s.store attempt row)
    (hrow' : Reported profile s'.store attempt row') : Sound row ∧ row.sourceRunId ≠ "" ∧ (Older row row' ∨ Older row' row) := by
  have hs := Observers.reachable_sound h.1
  have hs' := Observers.reachable_sound h'.1
  obtain ⟨ls, hrun⟩ := h.2
  obtain ⟨ls', hrun'⟩ := h'.2
  obtain ⟨summary, hsummary, hmem, hattempt⟩ := hrow
  obtain ⟨summary', hsummary', hmem', hattempt'⟩ := hrow'
  obtain ⟨r, hread, rfl⟩ := settlementSummary_rows hsummary hmem
  obtain ⟨r', hread', rfl⟩ := settlementSummary_rows hsummary' hmem'
  have hsame : r.data.attemptId = r'.data.attemptId := hattempt.trans hattempt'.symm
  have hvalid := reachable_valid h.1 (pendingOf_mem hread.pending)
  simp only [Observers.orderValid, decide_eq_true_eq] at hvalid
  refine ⟨rowOf_sound hs.store hread hvalid.1, hvalid.2.2.2.2.2.2, ?_⟩
  rcases List.prefix_or_prefix_of_prefix (Observers.run_grows hs hrun).2 (Observers.run_grows hs' hrun').2 with hp | hp
  · exact .inl (rowOf_older hs.store hs'.store hp hread hread' hsame)
  · exact .inr (rowOf_older hs'.store hs.store hp hread' hread hsame.symm)

end Runs

end IbkrPlatform.Notifications.RowHistory
