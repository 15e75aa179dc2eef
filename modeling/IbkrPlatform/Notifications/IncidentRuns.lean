import IbkrPlatform.Notifications.Incidents

/-! What holds of the incidents in every run: no message without a reservation of its own, and no observation out of order. -/

namespace IbkrPlatform.Notifications.Incidents

open Library

section Invariant

variable {I : Type} (d : Digests) (calls : I → Call)

def Listed (c : Call) (index : VersionedCell (List String) I) : Prop :=
  c.recovered = false → ∀ reason, c.event.incidentReason = some reason → reason ∈ index.value.getD []

def Own (c : Call) (target : Target) : Prop := c.recovered = false → target = c.own

def Phase.Sound (i : I) (index : VersionedCell (List String) I) (markers : String → VersionedCell Marker I) : Phase → Prop
  | .idle | .indexing _ | .raised => True
  | .adding _ held reasons => (calls i).recovered = false ∧ ∃ n reason, index.Held held n ∧
      (calls i).event.incidentReason = some reason ∧ reasons = addReason reason ((index.rewind n).value.getD [])
  | .observing target _ | .refreshing target _ => Listed (calls i) index ∧ Own (calls i) target
  | .marking target _ held marker verdict => Listed (calls i) index ∧ Own (calls i) target ∧
      (calls i).observable target.reason ∧ ∃ n stored,
        (markers ((calls i).key d target.reason)).Held held n ∧
        readMarker (calls i).event.occurredAt ((markers ((calls i).key d target.reason)).rewind n).value = some stored ∧
        observed d (calls i) ((calls i).key d target.reason) (stored.getD .blank) = (marker, verdict)
  | .advancing target _ held marker => Listed (calls i) index ∧ Own (calls i) target ∧ ∃ n,
      (markers ((calls i).key d target.reason)).Held held n ∧
        ((markers ((calls i).key d target.reason)).rewind n).value = some marker ∧
        marker.after (calls i).event.occurredAt = false
  | .sending m => Listed (calls i) index ∧ (calls i).recovered = false ∧
      Reserved calls (markers ((calls i).key d (calls i).event.incidentReason)) i m
  | .recording _ _ _ => Listed (calls i) index ∧ (calls i).recovered = false
  | .settling held marker _ => Listed (calls i) index ∧ (calls i).recovered = false ∧ ∃ n m receipt,
      (markers ((calls i).key d (calls i).event.incidentReason)).Held held n ∧
        ((markers ((calls i).key d (calls i).event.incidentReason)).rewind n).value = some m ∧
        m.after (calls i).event.occurredAt = false ∧ marker = m.settled receipt
  | .returned => Listed (calls i) index

def Phase.spent : Phase → Prop
  | .recording _ _ _ | .settling _ _ _ | .returned | .raised => True
  | _ => False

def Raised (indexes : String → VersionedCell (List String) I) (key : String) : Prop :=
  ∃ j reason, (calls j).recovered = false ∧ (calls j).event.incidentReason = some reason ∧ (calls j).key d (some reason) = key ∧
    reason ∈ (indexes ((calls j).indexKey d)).value.getD []

def Grows (old : Option (List String)) (w : StoredWrite (List String) I) : Prop := old.getD [] ⊆ w.value

structure Sent.Sound (phase : I → Phase) (markers : String → VersionedCell Marker I) (x : Sent I) : Prop where
  key : x.key = (calls x.caller).key d (calls x.caller).event.incidentReason
  reserved : Reserved calls (markers x.key) x.caller x.reservation
  spent : (phase x.caller).spent

structure State.Sound (s : State I) : Prop where
  indexes : ∀ key, VersionedCell.Along Grows (s.indexes key).log
  markers : ∀ key, VersionedCell.Along (Follows calls) (s.markers key).log
  raised : ∀ key, ∀ w ∈ (s.markers key).log, w.value.active → Raised d calls s.indexes key
  phases : ∀ i, (s.phase i).Sound d calls i (s.indexes ((calls i).indexKey d)) s.markers
  sends : ∀ x ∈ s.sends, x.Sound d calls s.phase s.markers
  callers : (s.sends.map (·.caller)).Nodup

structure Later (s t : State I) : Prop where
  indexes : ∀ key, (s.indexes key).Extends (t.indexes key)
  listed : ∀ key, (s.indexes key).value.getD [] ⊆ (t.indexes key).value.getD []
  markers : ∀ key, (s.markers key).Extends (t.markers key)

variable {d calls} {s t u : State I} {i : I} {ph : Phase} {c : Call}
  {index index' : VersionedCell (List String) I} {markers markers' : String → VersionedCell Marker I}

lemma Later.refl : Later s s := ⟨fun _ => .refl, fun _ => fun _ h => h, fun _ => .refl⟩

lemma Later.trans (h : Later s t) (h' : Later t u) : Later s u where
  indexes key := (h.indexes key).trans (h'.indexes key)
  listed key _ hr := h'.listed key (h.listed key hr)
  markers key := (h.markers key).trans (h'.markers key)

lemma Listed.extend (h : Listed c index) (hl : index.value.getD [] ⊆ index'.value.getD []) : Listed c index' :=
  fun hr reason hreason => hl (h hr reason hreason)

lemma Phase.Sound.extend (h : ph.Sound d calls i index markers) (hi : index.Extends index')
    (hl : index.value.getD [] ⊆ index'.value.getD []) (hm : ∀ key, (markers key).Extends (markers' key)) :
    ph.Sound d calls i index' markers' := by
  cases ph with
  | idle => trivial
  | indexing tries => trivial
  | raised => trivial
  | returned =>
    have hlisted : Listed (calls i) index := h
    exact hlisted.extend hl
  | adding tries held reasons =>
    obtain ⟨hr, n, reason, hheld, hreason, heq⟩ := h
    exact ⟨hr, n, reason, hheld.extend hi, hreason, hi.rewind hheld.1 ▸ heq⟩
  | observing target tries => exact ⟨h.1.extend hl, h.2⟩
  | refreshing target tries => exact ⟨h.1.extend hl, h.2⟩
  | marking target tries held marker verdict =>
    obtain ⟨hlisted, hown, hobservable, n, stored, hheld, hread, hobserved⟩ := h
    exact ⟨hlisted.extend hl, hown, hobservable, n, stored, hheld.extend (hm _), (hm _).rewind hheld.1 ▸ hread, hobserved⟩
  | advancing target tries held marker =>
    obtain ⟨hlisted, hown, n, hheld, hvalue, hafter⟩ := h
    exact ⟨hlisted.extend hl, hown, n, hheld.extend (hm _), (hm _).rewind hheld.1 ▸ hvalue, hafter⟩
  | sending m => exact ⟨h.1.extend hl, h.2.1, h.2.2.extend (hm _)⟩
  | recording m receipt raises => exact ⟨h.1.extend hl, h.2⟩
  | settling held marker raises =>
    obtain ⟨hlisted, hr, n, m, receipt, hheld, hvalue, hrest⟩ := h
    exact ⟨hlisted.extend hl, hr, n, m, receipt, hheld.extend (hm _), (hm _).rewind hheld.1 ▸ hvalue, hrest⟩

lemma Raised.extend {indexes indexes' : String → VersionedCell (List String) I} {key : String} (h : Raised d calls indexes key)
    (hl : ∀ key, (indexes key).value.getD [] ⊆ (indexes' key).value.getD []) : Raised d calls indexes' key := by
  obtain ⟨j, reason, hr, hreason, hkey, hmem⟩ := h
  exact ⟨j, reason, hr, hreason, hkey, hl _ hmem⟩

lemma Sent.Sound.extend [DecidableEq I] {phase : I → Phase} {x : Sent I} (h : x.Sound d calls phase markers)
    (hm : ∀ key, (markers key).Extends (markers' key)) (hspent : (phase i).spent → ph.spent) :
    x.Sound d calls (Function.update phase i ph) markers' where
  key := h.key
  reserved := h.reserved.extend (hm _)
  spent := by
    by_cases hi : x.caller = i
    · rw [hi, Function.update_self]
      exact hspent (hi ▸ h.spent)
    · rw [Function.update_of_ne hi]
      exact h.spent

lemma extends_update {Value : Type} {cells : String → VersionedCell Value I} {key : String} {cell : VersionedCell Value I}
    (h : (cells key).Extends cell) (k : String) : (cells k).Extends (Function.update cells key cell k) := by
  by_cases hk : k = key
  · subst hk
    rwa [Function.update_self]
  · rw [Function.update_of_ne hk]
    exact .refl

lemma next_sound {index : VersionedCell (List String) I} {markers : String → VersionedCell Marker I} {target : Target}
    (hlisted : Listed (calls i) index) (hown : Own (calls i) target) : target.next.Sound d calls i index markers := by
  obtain ⟨reason, rest⟩ := target
  cases rest with
  | nil => exact hlisted
  | cons r rest =>
    refine ⟨hlisted, fun hr => ?_⟩
    have htarget := hown hr
    simp [Call.own] at htarget

lemma value_mem {cell : VersionedCell Marker I} {m : Marker} (h : cell.value = some m) : ∃ w ∈ cell.log, w.value = m := by
  obtain ⟨w, hw, rfl⟩ := Option.map_eq_some_iff.mp h
  exact ⟨w, List.mem_of_mem_head? hw, rfl⟩

lemma State.Sound.raised_of_value (h : s.Sound d calls) {key : String} {m : Marker} (hm : (s.markers key).value = some m)
    (ha : m.active) : Raised d calls s.indexes key := by
  obtain ⟨w, hw, rfl⟩ := value_mem hm
  exact h.raised key w hw ha

lemma reserved_store {cell : VersionedCell Marker I} {m : Marker} {gap : ℕ}
    (hg : m.generation = (cell.value.getD .blank).generation + 1) :
    Reserved calls (cell.store i (m.stamped (calls i).event.occurredAt) gap) i m :=
  ⟨[], _, cell.log, rfl, rfl, rfl, hg⟩

variable {cell : VersionedCell Marker I} {target : Target}

lemma afterObserve_sound {marker : Marker} {verdict : Verdict} (hlisted : Listed (calls i) index)
    (hown : Own (calls i) target) (hv : verdict ≠ .send) : (afterObserve target marker verdict).Sound d calls i index markers := by
  cases verdict with
  | send => exact absurd rfl hv
  | duplicate => exact ⟨hlisted, hown⟩
  | recovered => exact ⟨hlisted, hown⟩

lemma observed_send_ne {key : String} {previous : Marker} (h : (observed d c key previous).1 = previous) :
    (observed d c key previous).2 ≠ .send := by
  rcases observed_change (Prod.mk.eta (p := observed d c key previous)).symm with ⟨hne, -⟩ | ⟨-, hg, -⟩
  · exact hne
  · rw [h] at hg
    omega

lemma readIndex_sound (tries : ℕ) : (readIndex (calls i) index tries).Sound d calls i index markers := by
  cases tries with
  | zero => trivial
  | succ tries =>
    rw [readIndex]
    split
    · rename_i hr
      refine next_sound (fun hn => ?_) fun hn => ?_ <;> simp [hr] at hn
    · rename_i hr
      rw [Bool.not_eq_true] at hr
      split
      · rename_i hnone
        exact ⟨fun _ reason hreason => by simp [hnone] at hreason, fun _ => rfl⟩
      · rename_i reason hreason
        split
        · rename_i hsame
          refine ⟨fun _ other hother => ?_, fun _ => rfl⟩
          obtain rfl := Option.some.inj (hreason.symm.trans hother)
          rw [← hsame]
          exact mem_addReason.mpr (.inl rfl)
        · refine ⟨hr, _, reason, VersionedCell.held_read, hreason, ?_⟩
          rw [VersionedCell.rewind_writes]

lemma readObserve_sound (hlisted : Listed (calls i) index) (hown : Own (calls i) target) (tries : ℕ) :
    (readObserve d (calls i) target (markers ((calls i).key d target.reason)) tries).Sound d calls i index markers := by
  cases tries with
  | zero => trivial
  | succ tries =>
    rw [readObserve]
    split
    · trivial
    · rename_i hobservable
      split
      · trivial
      · rename_i stored hread
        dsimp only
        split
        · rename_i hsame
          exact afterObserve_sound hlisted hown (observed_send_ne hsame)
        · refine ⟨hlisted, hown, by simpa using hobservable, _, stored, VersionedCell.held_read, ?_, rfl⟩
          rw [VersionedCell.rewind_writes, hread]

lemma readRefresh_sound (hlisted : Listed (calls i) index) (hown : Own (calls i) target) (tries : ℕ) :
    (readRefresh (calls i) target (markers ((calls i).key d target.reason)) tries).Sound d calls i index markers := by
  cases tries with
  | zero => trivial
  | succ tries =>
    rw [readRefresh]
    split
    · trivial
    · rename_i m hvalue
      split
      · trivial
      · rename_i hafter
        split
        · exact next_sound hlisted hown
        · refine ⟨hlisted, hown, _, VersionedCell.held_read, ?_, by simpa using hafter⟩
          rw [VersionedCell.rewind_writes, hvalue]

lemma readDelivery_sound (hlisted : Listed (calls i) index) (hr : (calls i).recovered = false) (m : Marker)
    (receipt : Option String) (raises : Bool) :
    (readDelivery (calls i) m receipt raises (markers ((calls i).key d (calls i).event.incidentReason))).Sound d calls i
      index markers := by
  unfold readDelivery
  split
  · rename_i old hread
    split
    · obtain ⟨hvalue, hafter⟩ := readMarker_some hread
      refine ⟨hlisted, hr, _, old, receipt, VersionedCell.held_read, ?_, hafter old hvalue.symm, rfl⟩
      rw [VersionedCell.rewind_writes, hvalue]
    · trivial
  · trivial

lemma readDelivery_spent (m : Marker) (receipt : Option String) (raises : Bool) :
    (readDelivery c m receipt raises cell).spent := by
  unfold readDelivery
  split
  · split <;> trivial
  · trivial

end Invariant

section Steps

variable {I : Type} [DecidableEq I] {d : Digests} {calls : I → Call} {s t : State I} {i : I} {ph : Phase}

lemma State.Sound.goto (h : s.Sound d calls) (ph : Phase) (hspent : (s.phase i).spent → ph.spent)
    (hi : ph.Sound d calls i (s.indexes ((calls i).indexKey d)) s.markers) :
    State.Sound d calls (s.goto i ph) ∧ Later s (s.goto i ph) := by
  have hlater : Later s (s.goto i ph) := ⟨fun _ => .refl, fun _ => fun _ hr => hr, fun _ => .refl⟩
  refine ⟨⟨h.indexes, h.markers, h.raised, fun j => ?_, fun x hx => ?_, h.callers⟩, hlater⟩
  · change (Function.update s.phase i ph j).Sound d calls j _ s.markers
    by_cases hj : j = i
    · subst hj
      rwa [Function.update_self]
    · rw [Function.update_of_ne hj]
      exact h.phases j
  · exact (h.sends x hx).extend (fun _ => .refl) hspent

lemma State.Sound.grow (h : s.Sound d calls) {reasons : List String} {gap : ℕ} (hspent : (s.phase i).spent → ph.spent)
    (hgrows : (s.indexes ((calls i).indexKey d)).value.getD [] ⊆ reasons)
    (hi : ph.Sound d calls i ((s.indexes ((calls i).indexKey d)).store i reasons gap) s.markers) :
    let index := (s.indexes ((calls i).indexKey d)).store i reasons gap
    let t : State I := { s.goto i ph with indexes := Function.update s.indexes ((calls i).indexKey d) index }
    t.Sound d calls ∧ Later s t := by
  intro index t
  have hlisted : ∀ key, (s.indexes key).value.getD [] ⊆ (t.indexes key).value.getD [] := by
    intro key
    by_cases hk : key = (calls i).indexKey d
    · subst hk
      simp only [t, Function.update_self]
      exact hgrows
    · simp only [t, Function.update_of_ne hk]
      exact fun _ hr => hr
  have hlater : Later s t := ⟨extends_update VersionedCell.extends_store, hlisted, fun _ => .refl⟩
  refine ⟨⟨fun key => ?_, h.markers, fun key w hw ha => (h.raised key w hw ha).extend hlisted, fun j => ?_, fun x hx => ?_,
    h.callers⟩, hlater⟩
  · by_cases hk : key = (calls i).indexKey d
    · subst hk
      simp only [t, Function.update_self]
      exact VersionedCell.along_store (h.indexes _) hgrows
    · simp only [t, Function.update_of_ne hk]
      exact h.indexes key
  · change (Function.update s.phase i ph j).Sound d calls j _ s.markers
    by_cases hj : j = i
    · subst hj
      simp only [t, Function.update_self]
      exact hi
    · rw [Function.update_of_ne hj]
      exact (h.phases j).extend (hlater.indexes _) (hlisted _) fun _ => .refl
  · exact (h.sends x hx).extend (fun _ => .refl) hspent

lemma State.Sound.list (h : s.Sound d calls) {tries held gap : ℕ} {reasons : List String} {delivery : Delivery}
    (hi : s.phase i = .adding tries held reasons) :
    let sent := (s.indexes ((calls i).indexKey d)).send delivery i reasons held gap
    let t : State I := { s.goto i (VersionedCell.afterSend sent.2 delivery (.observing (calls i).own tryLimit) (.indexing tries) .raised)
      with indexes := Function.update s.indexes ((calls i).indexKey d) sent.1 }
    t.Sound d calls ∧ Later s t := by
  dsimp only
  have hphase := h.phases i
  rw [hi] at hphase
  obtain ⟨-, n, reason, hheld, hreason, hreasons⟩ := hphase
  have hspent : ∀ ph : Phase, (s.phase i).spent → ph.spent := fun ph hs => by
    rw [hi] at hs
    exact hs.elim
  rcases VersionedCell.afterSend_cases (s.indexes ((calls i).indexKey d)) delivery i reasons held gap
    (.observing (calls i).own tryLimit) (.indexing tries) Phase.raised with ⟨hsame, hph⟩ | ⟨hg, hstore, hph⟩
  · rw [hsame, Function.update_eq_self]
    refine h.goto _ (hspent _) ?_
    rcases hph with hph | hph <;> rw [hph] <;> trivial
  · rw [hstore]
    rw [hheld.current hg, VersionedCell.rewind_writes] at hreasons
    refine h.grow (hspent _) (fun r hr => hreasons ▸ mem_addReason.mpr (.inr hr)) ?_
    rcases hph with hph | hph
    · rw [hph]
      refine ⟨fun _ other hother => ?_, fun _ => rfl⟩
      obtain rfl := Option.some.inj (hreason.symm.trans hother)
      rw [VersionedCell.store_value, hreasons]
      exact mem_addReason.mpr (.inl rfl)
    · rw [hph]
      trivial

lemma State.Sound.mark (h : s.Sound d calls) (reason : Option String) {marker : Marker} {gap : ℕ}
    (hspent : (s.phase i).spent → ph.spent)
    (horder : ∀ m, (s.markers ((calls i).key d reason)).value = some m → m.after (calls i).event.occurredAt = false)
    (hchange : Change (calls i) ((s.markers ((calls i).key d reason)).value.getD .blank)
      (marker.stamped (calls i).event.occurredAt))
    (hraised : marker.active → Raised d calls s.indexes ((calls i).key d reason))
    (hi : ph.Sound d calls i (s.indexes ((calls i).indexKey d)) (Function.update s.markers ((calls i).key d reason)
      ((s.markers ((calls i).key d reason)).store i (marker.stamped (calls i).event.occurredAt) gap))) :
    let cell := (s.markers ((calls i).key d reason)).store i (marker.stamped (calls i).event.occurredAt) gap
    let t : State I := { s.goto i ph with markers := Function.update s.markers ((calls i).key d reason) cell }
    t.Sound d calls ∧ Later s t := by
  intro cell t
  have hextends : ∀ key, (s.markers key).Extends (t.markers key) := extends_update VersionedCell.extends_store
  have hlater : Later s t := ⟨fun _ => .refl, fun _ => fun _ hr => hr, hextends⟩
  refine ⟨⟨h.indexes, fun key => ?_, fun key w hw ha => ?_, fun j => ?_, fun x hx => (h.sends x hx).extend hextends hspent,
    h.callers⟩, hlater⟩
  · by_cases hk : key = (calls i).key d reason
    · subst hk
      simp only [t, Function.update_self]
      exact VersionedCell.along_store (h.markers _) ⟨rfl, horder, hchange⟩
    · simp only [t, Function.update_of_ne hk]
      exact h.markers key
  · by_cases hk : key = (calls i).key d reason
    · subst hk
      simp only [t, Function.update_self] at hw
      rcases List.mem_cons.mp hw with rfl | hw
      · exact hraised ha
      · exact h.raised _ w hw ha
    · simp only [t, Function.update_of_ne hk] at hw
      exact h.raised key w hw ha
  · change (Function.update s.phase i ph j).Sound d calls j _ t.markers
    by_cases hj : j = i
    · subst hj
      rw [Function.update_self]
      exact hi
    · rw [Function.update_of_ne hj]
      exact (h.phases j).extend .refl (fun _ hr => hr) hextends

lemma State.Sound.store (h : s.Sound d calls) {reason : Option String} {marker : Marker} {held gap : ℕ} {delivery : Delivery}
    {done again : Phase} (hspent : (s.phase i).spent → done.spent ∧ again.spent)
    (hagain : again.Sound d calls i (s.indexes ((calls i).indexKey d)) s.markers)
    (hread : (s.markers ((calls i).key d reason)).generation = held →
      (∀ m, (s.markers ((calls i).key d reason)).value = some m → m.after (calls i).event.occurredAt = false) ∧
        Change (calls i) ((s.markers ((calls i).key d reason)).value.getD .blank) (marker.stamped (calls i).event.occurredAt) ∧
        (marker.active → Raised d calls s.indexes ((calls i).key d reason)) ∧
        done.Sound d calls i (s.indexes ((calls i).indexKey d)) (Function.update s.markers ((calls i).key d reason)
          ((s.markers ((calls i).key d reason)).store i (marker.stamped (calls i).event.occurredAt) gap))) :
    (s.store d calls i reason marker held delivery gap done again).Sound d calls ∧
      Later s (s.store d calls i reason marker held delivery gap done again) := by
  unfold State.store
  dsimp only
  rcases VersionedCell.afterSend_cases (s.markers ((calls i).key d reason)) delivery i
    (marker.stamped (calls i).event.occurredAt) held gap done again Phase.raised with ⟨hsame, hph⟩ | ⟨hg, hstore, hph⟩
  · rw [hsame, Function.update_eq_self]
    rcases hph with hph | hph
    · rw [hph]
      exact h.goto _ (fun hs => (hspent hs).2) hagain
    · rw [hph]
      exact h.goto _ (fun _ => trivial) trivial
  · rw [hstore]
    obtain ⟨horder, hchange, hraised, hdone⟩ := hread hg
    rcases hph with hph | hph
    · rw [hph]
      exact h.mark reason (fun hs => (hspent hs).1) horder hchange hraised hdone
    · rw [hph]
      exact h.mark reason (fun _ => trivial) horder hchange hraised trivial

lemma State.Sound.observe (h : s.Sound d calls) {target : Target} {tries held gap : ℕ} {marker : Marker} {verdict : Verdict}
    {delivery : Delivery} (hi : s.phase i = .marking target tries held marker verdict) :
    let t := s.store d calls i target.reason marker held delivery gap (afterObserve target marker verdict) (.observing target tries)
    t.Sound d calls ∧ Later s t := by
  have hphase := h.phases i
  rw [hi] at hphase
  obtain ⟨hlisted, hown, hobservable, n, stored, hheld, hread, hobserved⟩ := hphase
  refine h.store (by rw [hi]; exact False.elim) ⟨hlisted, hown⟩ fun hg => ?_
  rw [hheld.current hg, VersionedCell.rewind_writes] at hread
  obtain ⟨rfl, horder⟩ := readMarker_some hread
  refine ⟨horder, .of_observed hobserved, fun ha => ?_, ?_⟩
  · rcases observed_change hobserved with ⟨-, -, hactive⟩ | ⟨-, -, -, -, -, hr⟩
    · cases hv : (s.markers ((calls i).key d target.reason)).value with
      | none =>
        rw [hv] at hactive
        exact absurd (hactive ha) (by decide)
      | some m =>
        rw [hv] at hactive
        exact h.raised_of_value hv (hactive ha)
    · have hreason : target.reason = (calls i).event.incidentReason := congrArg Target.reason (hown hr)
      rw [hreason] at hobservable ⊢
      cases hr' : (calls i).event.incidentReason with
      | none => simp [Call.observable, Call.parts, identityPresent, hr'] at hobservable
      | some reason => exact ⟨i, reason, hr, hr', rfl, hlisted hr reason hr'⟩
  · rcases observed_change hobserved with ⟨hverdict, -, -⟩ | ⟨rfl, hg', -, -, -, hr⟩
    · exact afterObserve_sound hlisted hown hverdict
    · refine ⟨hlisted, hr, ?_⟩
      have hreason : target.reason = (calls i).event.incidentReason := congrArg Target.reason (hown hr)
      rw [← hreason, Function.update_self]
      exact reserved_store hg'

lemma State.Sound.dispatch (h : s.Sound d calls) {m : Marker} {receipt : Option String} {raises : Bool} (hi : s.phase i = .sending m) :
    let t : State I := { s.goto i (.recording m receipt raises) with
      sends := s.sends ++ [⟨i, (calls i).key d (calls i).event.incidentReason, m⟩] }
    t.Sound d calls ∧ Later s t := by
  intro t
  have hphase := h.phases i
  rw [hi] at hphase
  obtain ⟨hlisted, hr, hreserved⟩ := hphase
  obtain ⟨hgone, hlater⟩ := h.goto (i := i) (.recording m receipt raises) (fun _ => trivial) ⟨hlisted, hr⟩
  have hnew : i ∉ s.sends.map (·.caller) := by
    intro hmem
    obtain ⟨x, hx, hcaller⟩ := List.mem_map.mp hmem
    have hspent := (h.sends x hx).spent
    rw [hcaller, hi] at hspent
    exact hspent
  refine ⟨⟨hgone.indexes, hgone.markers, hgone.raised, hgone.phases, fun x hx => ?_, ?_⟩, hlater.indexes, hlater.listed, hlater.markers⟩
  · rcases List.mem_append.mp hx with hx | hx
    · exact hgone.sends x hx
    · obtain rfl := List.mem_singleton.mp hx
      refine ⟨rfl, hreserved, ?_⟩
      simp only [t, State.goto, Function.update_self]
      trivial
  · rw [List.map_append, List.nodup_append]
    refine ⟨h.callers, List.nodup_singleton _, fun j hj k hk heq => ?_⟩
    obtain rfl := List.mem_singleton.mp hk
    exact hnew (heq ▸ hj)

lemma step_sound (h : s.Sound d calls) {l : I × Action} (hstep : step d calls s l = some t) : t.Sound d calls ∧ Later s t := by
  obtain ⟨i, action⟩ := l
  have hphase := h.phases i
  have hraise : State.Sound d calls (s.goto i .raised) ∧ Later s (s.goto i .raised) :=
    h.goto .raised (fun _ => trivial) trivial
  unfold step at hstep
  dsimp only at hstep
  split at hstep
  · rename_i hi
    cases hstep
    refine h.goto _ (by rw [hi]; exact False.elim) ?_
    split <;> trivial
  · rename_i tries hi
    cases hstep
    exact h.goto _ (by rw [hi]; exact False.elim) (readIndex_sound tries)
  · rename_i hi
    cases hstep
    exact h.list hi
  · rename_i target tries hi
    rw [hi] at hphase
    cases hstep
    exact h.goto _ (by rw [hi]; exact False.elim) (readObserve_sound hphase.1 hphase.2 tries)
  · rename_i hi
    cases hstep
    exact h.observe hi
  · rename_i target tries hi
    rw [hi] at hphase
    cases hstep
    exact h.goto _ (by rw [hi]; exact False.elim) (readRefresh_sound hphase.1 hphase.2 tries)
  · rename_i target tries held marker delivery gap hi
    rw [hi] at hphase
    obtain ⟨hlisted, hown, n, hheld, hvalue, hafter⟩ := hphase
    cases hstep
    refine h.store (by rw [hi]; exact False.elim) ⟨hlisted, hown⟩ fun hg => ?_
    rw [hheld.current hg, VersionedCell.rewind_writes] at hvalue
    refine ⟨fun m hm => ?_, ?_, h.raised_of_value hvalue, next_sound hlisted hown⟩
    · obtain rfl := Option.some.inj (hvalue.symm.trans hm)
      exact hafter
    · rw [hvalue]
      exact .kept rfl id
  · rename_i m outcome hi
    cases hstep
    cases outcome with
    | raised => exact h.dispatch hi
    | answered receipt => exact h.dispatch hi
  · rename_i m receipt raises hi
    rw [hi] at hphase
    cases hstep
    exact h.goto _ (fun _ => readDelivery_spent m receipt raises) (readDelivery_sound hphase.1 hphase.2 m receipt raises)
  · rename_i held marker raises delivery gap hi
    rw [hi] at hphase
    obtain ⟨hlisted, hr, n, old, receipt, hheld, hvalue, hafter, rfl⟩ := hphase
    cases hstep
    refine h.store (fun _ => ⟨by cases raises <;> trivial, trivial⟩) trivial fun hg => ?_
    rw [hheld.current hg, VersionedCell.rewind_writes] at hvalue
    obtain ⟨hgeneration, hactive, -⟩ := settled_eq old receipt
    refine ⟨fun m hm => ?_, ?_, fun ha => h.raised_of_value hvalue (hactive ▸ ha), ?_⟩
    · obtain rfl := Option.some.inj (hvalue.symm.trans hm)
      exact hafter
    · rw [hvalue]
      exact .kept hgeneration fun ha => hactive ▸ ha
    · cases raises with
      | true => trivial
      | false => exact hlisted
  · cases hstep
  · exact Option.some.inj hstep ▸ hraise
  · cases hstep

lemma reachable_sound (h : (incidents d calls).Reachable s) : s.Sound d calls := by
  refine h.invariant (I := fun s => s.Sound d calls) (fun s hinit => ?_) fun s l t hs hstep => ?_
  · obtain ⟨hindexes, hmarkers, hphase, hsends⟩ := hinit
    refine ⟨fun key => ?_, fun key => ?_, fun key w hw => ?_, fun i => ?_, fun x hx => ?_, ?_⟩
    · rw [hindexes key]
      trivial
    · rw [hmarkers key]
      trivial
    · rw [hmarkers key] at hw
      cases hw
    · rw [hphase i]
      trivial
    · rw [hsends] at hx
      cases hx
    · rw [hsends]
      exact List.nodup_nil
  · have hnext : step d calls s l = some t := hstep
    exact (step_sound hs hnext).1

end Steps

section Sends

variable {I : Type} [DecidableEq I] {d : Digests} {calls : I → Call} {s : State I}

/-- Every message that went out has a generation of its incident to itself. -/
theorem incidents_sent_once (h : (incidents d calls).Reachable s) :
    (∀ key, (s.markers key).log.Pairwise NotBefore) ∧
      (∀ key, ((s.sends.filter (·.key = key)).map (·.reservation.generation)).Nodup) ∧
      (∀ x ∈ s.sends, Reserved calls (s.markers x.key) x.caller x.reservation) ∧
      ∀ x ∈ s.sends, ∀ y ∈ s.sends, x.key = y.key → x.reservation.generation < y.reservation.generation →
        ∃ w ∈ (s.markers x.key).log, x.reservation.generation ≤ w.value.generation ∧
          w.value.generation < y.reservation.generation ∧ (w.value.active → w.value.severity < (calls y.caller).severity) := by
  have hsound := reachable_sound h
  refine ⟨fun key => history_ordered (hsound.markers key), fun key => ?_, fun x hx => (hsound.sends x hx).reserved,
    fun x hx y hy hkey hlt => ?_⟩
  · have hnodup : (s.sends.filter (·.key = key)).Nodup := hsound.callers.of_map.filter _
    refine hnodup.map_on fun x hx y hy hg => ?_
    obtain ⟨hx, hxkey⟩ := List.mem_filter.mp hx
    obtain ⟨hy, hykey⟩ := List.mem_filter.mp hy
    simp only [decide_eq_true_eq] at hxkey hykey
    refine List.inj_on_of_nodup_map hsound.callers hx hy ?_
    have hreserved := (hsound.sends x hx).reserved
    have hreserved' := (hsound.sends y hy).reserved
    rw [hxkey] at hreserved
    rw [hykey] at hreserved'
    exact hreserved.writer_eq (hsound.markers key) hreserved' hg
  · have hreserved := (hsound.sends y hy).reserved
    rw [← hkey] at hreserved
    obtain ⟨hseverity, old, hold, hin, hfresh⟩ := hreserved.lowered (hsound.markers x.key)
    rcases hin with rfl | ⟨w, hw, rfl⟩
    · obtain ⟨_, _, older, -, -, -, hopen⟩ := (hsound.sends x hx).reserved
      simp only [Marker.blank] at hold
      omega
    · exact ⟨w, hw, by omega, by omega, fun ha => hseverity ▸ hfresh ha⟩

end Sends

section Fixture

def digests₀ : Digests := ⟨fun _ => "incident", fun _ => "index", fun _ generation _ _ _ => String.ofList (List.replicate generation 'i')⟩

def calls₀ (i : ℕ) : Call :=
  ⟨⟨"real_error", ⟨i * 60000000, 0⟩, some "ibkr", some "target", some "account", some "alpha", some "receipt"⟩, "cycle",
    if i = 1 then .recover else .send 1⟩

def start₀ : State ℕ := ⟨fun _ => .absent, fun _ => .absent, fun _ => .idle, []⟩

def opened₀ : List (ℕ × Action) :=
  [(0, .start), (0, .read), (0, .write .acknowledged 0), (0, .read), (0, .write .acknowledged 0),
    (0, .send (.answered none)), (0, .read), (0, .write .acknowledged 0)]

def closed₀ : List (ℕ × Action) := [(1, .start), (1, .read), (1, .read), (1, .write .acknowledged 0), (1, .read)]

def reopened₀ : List (ℕ × Action) :=
  [(2, .start), (2, .read), (2, .read), (2, .write .acknowledged 0), (2, .send .raised)]

lemma start₀_reachable {s : State ℕ} {ls : List (ℕ × Action)} (h : (incidents digests₀ calls₀).Run start₀ ls s) :
    (incidents digests₀ calls₀).Reachable s :=
  ⟨start₀, ls, ⟨fun _ => rfl, fun _ => rfl, fun _ => rfl, rfl⟩, h⟩

theorem incidents_sent_once₀ : ∃ (s : State ℕ) (w : StoredWrite Marker ℕ), (incidents digests₀ calls₀).Reachable s ∧
    s.sends.map (fun x => (x.caller, x.reservation.generation)) = [(0, 1), (2, 2)] ∧ w ∈ (s.markers "incident").log ∧
      w.value.generation = 1 ∧ (w.value.active → w.value.severity < 1) := by
  have hexecute : ((System.execute (step digests₀ calls₀) start₀ (opened₀ ++ closed₀ ++ reopened₀)).map fun s =>
      s.sends.map fun x => (x.caller, x.key, x.reservation.generation)) = some [(0, "incident", 1), (2, "incident", 2)] := by
    decide
  obtain ⟨s, hs, hsends⟩ := Option.map_eq_some_iff.mp hexecute
  have hreachable := start₀_reachable (System.run_of_execute hs)
  obtain ⟨x, y, hlist⟩ := List.length_eq_two.mp (by simpa using congrArg List.length hsends : s.sends.length = 2)
  rw [hlist] at hsends
  simp only [List.map_cons, List.map_nil, List.cons.injEq, Prod.mk.injEq, and_true] at hsends
  obtain ⟨⟨hx, hxkey, hxg⟩, hy, hykey, hyg⟩ := hsends
  obtain ⟨w, hw, hlow, hhigh, hsev⟩ := (incidents_sent_once hreachable).2.2.2 x (by simp [hlist]) y (by simp [hlist])
    (hxkey.trans hykey.symm) (by omega)
  refine ⟨s, w, hreachable, by simp [hlist, hx, hy, hxg, hyg], hxkey ▸ hw, by omega, fun ha => ?_⟩
  have hlt := hsev ha
  rwa [hy] at hlt

end Fixture

end IbkrPlatform.Notifications.Incidents
