import IbkrPlatform.Notifications.IncidentRuns

/-! What calls that have returned have done: at one moment of each call its incidents said what it had observed. -/

namespace IbkrPlatform.Notifications.Incidents

open Library

section Effects

variable {I : Type} (d : Digests) (calls : I → Call)

def Wanted (s : State I) (i : I) (reason : String) : Prop :=
  if (calls i).recovered then reason ∈ (s.indexes ((calls i).indexKey d)).value.getD []
  else (calls i).event.incidentReason = some reason

def Effective (s t : State I) (i : I) (reason : Option String) : Prop :=
  ∃ n m, (s.markers ((calls i).key d reason)).writes ≤ n ∧ n ≤ (t.markers ((calls i).key d reason)).writes ∧
    ((t.markers ((calls i).key d reason)).rewind n).value = some m ∧ Tells (calls i) m

def Phase.left : Phase → List (Option String)
  | .observing target _ | .marking target _ _ _ _ => target.reason :: target.rest.map some
  | .refreshing target _ | .advancing target _ _ _ => target.rest.map some
  | _ => []

def Phase.begun : Phase → Prop
  | .idle | .indexing _ | .adding _ _ _ | .raised => False
  | _ => True

structure Moves (s t : State I) (i : I) : Prop where
  goes (hb : (s.phase i).begun) (hb' : (t.phase i).begun) :
    ∀ reason ∈ (s.phase i).left, reason ∈ (t.phase i).left ∨ Effective d calls s t i reason
  starts (hb : ¬ (s.phase i).begun) (hb' : (t.phase i).begun) :
    ∀ reason, Wanted d calls s i reason → some reason ∈ (t.phase i).left

variable {d calls} {s t u : State I} {i : I} {reason : Option String}

lemma left_next {target : Target} : target.next.left = target.rest.map some := by
  obtain ⟨reason, rest⟩ := target
  cases rest <;> rfl

lemma Effective.extend (h : Effective d calls s t i reason) (he : Later t u) : Effective d calls s u i reason := by
  obtain ⟨n, m, hlow, hhigh, hvalue, htells⟩ := h
  exact ⟨n, m, hlow, hhigh.trans (he.markers _).length_le, (he.markers _).rewind hhigh ▸ hvalue, htells⟩

lemma Effective.earlier (h : Effective d calls t u i reason) (he : Later s t) : Effective d calls s u i reason := by
  obtain ⟨n, m, hlow, hrest⟩ := h
  exact ⟨n, m, (he.markers _).length_le.trans hlow, hrest⟩

lemma Moves.of_phase (h : t.phase i = s.phase i) : Moves d calls s t i where
  goes _ _ _ hr := .inl (h ▸ hr)
  starts hb hb' := absurd (h ▸ hb') hb

lemma Moves.of_left (hb : (s.phase i).begun) (h : ∀ reason ∈ (s.phase i).left, reason ∈ (t.phase i).left) : Moves d calls s t i where
  goes _ _ reason hr := .inl (h reason hr)
  starts hn := absurd hb hn

lemma Moves.of_unbegun (h : ¬ (t.phase i).begun) : Moves d calls s t i where
  goes _ hb' := absurd hb' h
  starts _ hb' := absurd hb' h

lemma Effective.of_value {m : Marker} (hlater : (s.markers ((calls i).key d reason)).Extends (t.markers ((calls i).key d reason)))
    (h : (t.markers ((calls i).key d reason)).value = some m) (htells : Tells (calls i) m) : Effective d calls s t i reason :=
  ⟨(t.markers ((calls i).key d reason)).writes, m, hlater.length_le, le_rfl, by rwa [VersionedCell.rewind_writes], htells⟩

lemma left_afterObserve {target : Target} {marker : Marker} {verdict : Verdict} (hsend : verdict = .send → target.rest = []) :
    (afterObserve target marker verdict).left = target.rest.map some := by
  cases verdict with
  | send => rw [hsend rfl]; rfl
  | duplicate => rfl
  | recovered => rfl

lemma own_rest {key : String} {target : Target} {previous marker : Marker} {verdict : Verdict} (hown : Own (calls i) target)
    (h : observed d (calls i) key previous = (marker, verdict)) (hv : verdict = .send) : target.rest = [] := by
  rcases observed_change h with ⟨hne, -⟩ | ⟨-, -, -, -, -, hr⟩
  · exact absurd hv hne
  · rw [hown hr]
    rfl

lemma Wanted.later {reason : String} (h : Wanted d calls s i reason) (hl : Later s t) : Wanted d calls t i reason := by
  unfold Wanted at h ⊢
  split
  · rename_i hr
    rw [if_pos hr] at h
    exact hl.listed _ h
  · rename_i hr
    rwa [if_neg hr] at h

end Effects

section Reads

variable {I : Type} {d : Digests} {calls : I → Call} {s t : State I} {i : I} {index : VersionedCell (List String) I}
  {cell : VersionedCell Marker I} {target : Target} {tries : ℕ}

lemma readIndex_left {c : Call} (hb : (readIndex c index tries).begun) {reason : String}
    (h : if c.recovered then reason ∈ index.value.getD [] else c.event.incidentReason = some reason) :
    some reason ∈ (readIndex c index tries).left := by
  cases tries with
  | zero => exact hb.elim
  | succ tries =>
    rw [readIndex] at hb ⊢
    split
    · rename_i hr
      rw [if_pos hr] at h
      rw [left_next]
      exact List.mem_map_of_mem h
    · rename_i hr
      rw [if_neg hr] at h hb
      split
      · rename_i hnone
        rw [hnone] at h
        cases h
      · rename_i other hother
        rw [hother] at h hb
        obtain rfl := Option.some.inj h
        dsimp only at hb
        split
        · rw [Call.own, hother]
          exact List.mem_cons_self
        · rename_i hne
          rw [if_neg hne] at hb
          exact hb.elim

lemma readObserve_left {markers : String → VersionedCell Marker I} {reason : Option String} (hown : Own (calls i) target)
    (hb : (readObserve d (calls i) target (markers ((calls i).key d target.reason)) tries).begun)
    (h : reason ∈ target.reason :: target.rest.map some) :
    reason ∈ (readObserve d (calls i) target (markers ((calls i).key d target.reason)) tries).left ∨
      reason = target.reason ∧ ∃ m, (markers ((calls i).key d target.reason)).value = some m ∧ Tells (calls i) m := by
  cases tries with
  | zero => exact hb.elim
  | succ tries =>
    rw [readObserve] at hb ⊢
    split
    · rename_i ho
      rw [if_pos ho] at hb
      exact hb.elim
    · split
      · rename_i hread
        simp only [hread] at hb
        split at hb <;> exact hb.elim
      · rename_i stored hread
        obtain ⟨rfl, -⟩ := readMarker_some hread
        dsimp only
        split
        · rename_i hsame
          rw [left_afterObserve (own_rest hown (Prod.mk.eta (p := observed d (calls i) ((calls i).key d target.reason) _)).symm)]
          rcases List.mem_cons.mp h with rfl | h
          · refine .inr ⟨rfl, ?_⟩
            have htells : Tells (calls i) (observed d (calls i) ((calls i).key d target.reason)
              ((markers ((calls i).key d target.reason)).value.getD .blank)).1 := observed_tells
            rw [hsame] at htells
            cases hv : (markers ((calls i).key d target.reason)).value with
            | none =>
              rw [hv] at htells
              exact absurd htells.state (by simp [Marker.blank])
            | some m =>
              rw [hv] at htells
              exact ⟨m, rfl, htells⟩
          · exact .inl h
        · exact .inl h

lemma readRefresh_left {c : Call} {reason : Option String} (hb : (readRefresh c target cell tries).begun)
    (h : reason ∈ target.rest.map some) : reason ∈ (readRefresh c target cell tries).left := by
  cases tries with
  | zero => exact hb.elim
  | succ tries =>
    rw [readRefresh] at hb ⊢
    split
    · rename_i hnone
      simp only [hnone] at hb
      exact hb.elim
    · rename_i m hvalue
      simp only [hvalue] at hb
      split
      · rename_i hafter
        rw [if_pos hafter] at hb
        exact hb.elim
      · split
        · rwa [left_next]
        · exact h

end Reads

section Steps

variable {I : Type} [DecidableEq I] {d : Digests} {calls : I → Call} {s t : State I} {i : I}

@[simp] lemma goto_phase (ph : Phase) : (s.goto i ph).phase i = ph := Function.update_self ..

lemma store_phase (d : Digests) (calls : I → Call) (s : State I) (i : I) (reason : Option String) (marker : Marker) (held : ℕ)
    (delivery : Delivery) (gap : ℕ) (done again : Phase) :
    let t := s.store d calls i reason marker held delivery gap done again
    t.phase i = again ∨ t.phase i = .raised ∨ t.phase i = done ∧
      (t.markers ((calls i).key d reason)).value = some (marker.stamped (calls i).event.occurredAt) := by
  unfold State.store
  simp only [State.goto, Function.update_self]
  rcases VersionedCell.afterSend_cases (s.markers ((calls i).key d reason)) delivery i
    (marker.stamped (calls i).event.occurredAt) held gap done again Phase.raised with ⟨-, hph⟩ | ⟨-, hstore, hph⟩
  · exact hph.imp_right .inl
  · rcases hph with hph | hph
    · exact .inr (.inr ⟨hph, by rw [hstore, VersionedCell.store_value]⟩)
    · exact .inr (.inl hph)

lemma step_moves (h : s.Sound d calls) {action : Action} (hstep : step d calls s (i, action) = some t) : Moves d calls s t i := by
  have hlater := (step_sound h hstep).2
  have hphase := h.phases i
  unfold step at hstep
  dsimp only at hstep
  split at hstep
  · cases hstep
    refine .of_unbegun ?_
    rw [goto_phase]
    split <;> exact id
  · rename_i tries hi
    cases hstep
    refine ⟨fun hb => by rw [hi] at hb; exact hb.elim, fun _ hb' reason hwanted => ?_⟩
    rw [goto_phase] at hb' ⊢
    exact readIndex_left hb' hwanted
  · rename_i tries held reasons delivery gap hi
    rw [hi] at hphase
    obtain ⟨hr, -⟩ := hphase
    cases hstep
    refine ⟨fun hb => by rw [hi] at hb; exact hb.elim, fun _ hb' reason hwanted => ?_⟩
    rw [Wanted, if_neg (by simp [hr])] at hwanted
    simp only [State.goto, Function.update_self] at hb' ⊢
    rcases VersionedCell.afterSend_cases (s.indexes ((calls i).indexKey d)) delivery i reasons held gap
      (.observing (calls i).own tryLimit) (.indexing tries) Phase.raised with ⟨-, hph | hph⟩ | ⟨-, -, hph | hph⟩
    · rw [hph] at hb'
      exact hb'.elim
    · rw [hph] at hb'
      exact hb'.elim
    · rw [hph, ← hwanted]
      exact List.mem_cons_self
    · rw [hph] at hb'
      exact hb'.elim
  · rename_i target tries hi
    rw [hi] at hphase
    cases hstep
    refine ⟨fun _ hb' reason hreason => ?_, fun hn => absurd (by rw [hi]; trivial) hn⟩
    rw [hi] at hreason
    rw [goto_phase] at hb' ⊢
    refine (readObserve_left hphase.2 hb' hreason).imp_right ?_
    rintro ⟨rfl, m, hvalue, htells⟩
    exact .of_value .refl hvalue htells
  · rename_i target tries held marker verdict delivery gap hi
    rw [hi] at hphase
    obtain ⟨-, hown, -, -, stored, -, -, hobserved⟩ := hphase
    cases hstep
    refine ⟨fun _ hb' reason hreason => ?_, fun hn => absurd (by rw [hi]; trivial) hn⟩
    rw [hi] at hreason
    rcases store_phase d calls s i target.reason marker held delivery gap (afterObserve target marker verdict)
      (.observing target tries) with hph | hph | ⟨hph, hvalue⟩
    · rw [hph]
      exact .inl hreason
    · rw [hph] at hb'
      exact hb'.elim
    · rw [hph, left_afterObserve (own_rest hown hobserved)]
      rcases List.mem_cons.mp hreason with rfl | hreason
      · have htells : Tells (calls i) marker := by
          have htold : Tells (calls i) (observed d (calls i) ((calls i).key d target.reason) (stored.getD .blank)).1 :=
            observed_tells
          rwa [hobserved] at htold
        exact .inr (.of_value (hlater.markers _) hvalue ⟨htells.active, htells.state, htells.severity⟩)
      · exact .inl hreason
  · rename_i target tries hi
    cases hstep
    refine ⟨fun _ hb' reason hreason => ?_, fun hn => absurd (by rw [hi]; trivial) hn⟩
    rw [hi] at hreason
    rw [goto_phase] at hb' ⊢
    exact .inl (readRefresh_left hb' hreason)
  · rename_i target tries held marker delivery gap hi
    cases hstep
    refine ⟨fun _ hb' reason hreason => .inl ?_, fun hn => absurd (by rw [hi]; trivial) hn⟩
    rw [hi] at hreason
    rcases store_phase d calls s i target.reason marker held delivery gap target.next (.refreshing target tries) with hph | hph | ⟨hph, -⟩
    · rwa [hph]
    · rw [hph] at hb'
      exact hb'.elim
    · rwa [hph, left_next]
  · rename_i hi
    exact .of_left (by rw [hi]; trivial) (by rw [hi]; exact fun _ hr => absurd hr List.not_mem_nil)
  · rename_i hi
    exact .of_left (by rw [hi]; trivial) (by rw [hi]; exact fun _ hr => absurd hr List.not_mem_nil)
  · rename_i hi
    exact .of_left (by rw [hi]; trivial) (by rw [hi]; exact fun _ hr => absurd hr List.not_mem_nil)
  · cases hstep
  · cases hstep
    exact .of_unbegun (by rw [goto_phase]; exact id)
  · cases hstep

lemma step_others {l : I × Action} (hstep : step d calls s l = some t) (hi : i ≠ l.1) : t.phase i = s.phase i := by
  unfold step at hstep
  dsimp only at hstep
  split at hstep
  all_goals cases hstep
  all_goals exact Function.update_of_ne hi _ _

lemma run_later {ls : List (I × Action)} (h : s.Sound d calls) (hr : (incidents d calls).Run s ls t) :
    t.Sound d calls ∧ Later s t := by
  refine hr.invariant (I := fun t => t.Sound d calls ∧ Later s t) (fun u l v hu hstep => ?_) ⟨h, .refl⟩
  have hnext : step d calls u l = some v := hstep
  obtain ⟨hv, hlater⟩ := step_sound hu.1 hnext
  exact ⟨hv, hu.2.trans hlater⟩

def Progress (d : Digests) (calls : I → Call) (s t : State I) (i : I) : Prop :=
  (t.phase i).begun → ∀ reason, Wanted d calls s i reason → some reason ∈ (t.phase i).left ∨ Effective d calls s t i (some reason)

lemma Progress.step {u : State I} {l : I × Action} (h : Progress d calls s t i) (ht : t.Sound d calls) (hl : Later s t)
    (hstep : step d calls t l = some u) : Progress d calls s u i := by
  have hlater := (step_sound ht hstep).2
  have hmoves : Moves d calls t u i := by
    by_cases hi : i = l.1
    · subst hi
      exact step_moves ht hstep
    · exact .of_phase (step_others hstep hi)
  intro hb' reason hwanted
  by_cases hb : (t.phase i).begun
  · rcases h hb reason hwanted with hleft | heffective
    · exact (hmoves.goes hb hb' _ hleft).imp_right fun he => he.earlier hl
    · exact .inr (heffective.extend hlater)
  · exact .inl (hmoves.starts hb hb' reason (hwanted.later hl))

end Steps

section Returns

variable {I : Type} [DecidableEq I] {d : Digests} {calls : I → Call} {s t : State I} {ls : List (I × Action)}

/-- Each call takes effect at one moment between its start and its return. -/
theorem returned_calls_take_effect (hs : (incidents d calls).Reachable s) (hr : (incidents d calls).Run s ls t) :
    (∀ i, s.phase i = .idle → t.phase i = .returned → ∀ reason, Wanted d calls s i reason →
        Effective d calls s t i (some reason)) ∧
      (∀ key, ∀ w ∈ (s.markers key).log, w.value.active → Raised d calls s.indexes key) ∧
      (∀ key, (s.indexes key).value.getD [] ⊆ (t.indexes key).value.getD []) ∧
      ∀ i, t.phase i = .returned → Listed (calls i) (t.indexes ((calls i).indexKey d)) := by
  have hsound := reachable_sound hs
  obtain ⟨hsound', hlater⟩ := run_later hsound hr
  refine ⟨fun i hidle hreturned reason hwanted => ?_, hsound.raised, hlater.listed, fun i hi => ?_⟩
  · have hprogress : t.Sound d calls ∧ Later s t ∧ Progress d calls s t i := by
      refine hr.invariant (I := fun t => t.Sound d calls ∧ Later s t ∧ Progress d calls s t i) (fun u l v hu hstep => ?_)
        ⟨hsound, .refl, fun hb => ?_⟩
      · have hnext : step d calls u l = some v := hstep
        obtain ⟨hv, hl⟩ := step_sound hu.1 hnext
        exact ⟨hv, hu.2.1.trans hl, hu.2.2.step hu.1 hu.2.1 hnext⟩
      · rw [hidle] at hb
        exact hb.elim
    have hdone := hprogress.2.2 (by rw [hreturned]; trivial) reason hwanted
    rw [hreturned] at hdone
    exact hdone.resolve_left List.not_mem_nil
  · have hphase := hsound'.phases i
    rw [hi] at hphase
    exact hphase

theorem returned_calls_take_effect₀ : ∃ s t ls, (incidents digests₀ calls₀).Reachable s ∧ (incidents digests₀ calls₀).Run s ls t ∧
    Effective digests₀ calls₀ s t 1 (some "receipt") := by
  have hopened : ((System.execute (step digests₀ calls₀) start₀ opened₀).map fun s =>
      (s.phase 1, (s.indexes "index").value)) = some (.idle, some ["receipt"]) := by decide
  obtain ⟨s, hs, hidle⟩ := Option.map_eq_some_iff.mp hopened
  have hclosed : (((System.execute (step digests₀ calls₀) start₀ opened₀).bind fun s =>
      System.execute (step digests₀ calls₀) s closed₀).map fun t => t.phase 1) = some .returned := by decide
  obtain ⟨t, ht, hreturned⟩ := Option.map_eq_some_iff.mp hclosed
  rw [hs, Option.bind_some] at ht
  obtain ⟨hphase, hindex⟩ := Prod.mk.inj hidle
  have hreachable : (incidents digests₀ calls₀).Reachable s := start₀_reachable (System.run_of_execute hs)
  have hrun : (incidents digests₀ calls₀).Run s closed₀ t := System.run_of_execute ht
  refine ⟨s, t, closed₀, hreachable, hrun,
    (returned_calls_take_effect hreachable hrun).1 1 hphase hreturned "receipt" ?_⟩
  change "receipt" ∈ (s.indexes "index").value.getD []
  rw [hindex]
  exact List.mem_cons_self

end Returns

end IbkrPlatform.Notifications.Incidents
