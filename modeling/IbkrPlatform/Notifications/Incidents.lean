import Mathlib.Logic.Function.Basic
import Mathlib.Data.List.Sort
import Mathlib.Data.String.Basic
import IbkrPlatform.Library.Text
import IbkrPlatform.Library.Transition
import IbkrPlatform.Library.VersionedCell

/-! Concurrent observations of incidents: the index of their reasons, the reservation before a send, and recovery. -/

namespace IbkrPlatform.Notifications.Incidents

open Library

/-- An aware time: its microseconds since the epoch, and the offset that its text has. -/
structure Stamp where
  instant : ℤ
  offset : ℤ
deriving DecidableEq

structure Event where
  eventKind : String
  occurredAt : Stamp
  platformId : Option String
  targetId : Option String
  opaqueAccountUid : Option String
  strategyProfile : Option String
  incidentReason : Option String

inductive DeliveryStatus | notAttempted | pending | uncertain | delivered
deriving DecidableEq

structure Marker where
  active : Bool
  state : Option String
  severity : ℤ
  generation : ℕ
  transitionKey : Option String
  deliveryStatus : DeliveryStatus
  receiptId : Option String
  observedAt : Option Stamp
deriving DecidableEq

def Marker.blank : Marker := ⟨false, none, 0, 0, none, .notAttempted, none, none⟩

inductive Task
  | send (severity : ℤ)
  | recover

structure Call where
  event : Event
  family : String
  task : Task

structure Digests where
  incident : List (Option String) → String
  index : List (Option String) → String
  transition : String → ℕ → Option String → String → ℤ → String

section Code

variable (d : Digests)

def identityPresent (value : Option String) : Bool := value.any fun text => text.toList.any (!Text.isSpace ·)

def Call.parts (c : Call) (reason : Option String) : List (Option String) :=
  [c.event.platformId, c.event.targetId, c.event.opaqueAccountUid, c.event.strategyProfile, reason]

def Call.key (c : Call) (reason : Option String) : String := d.incident (c.parts reason)

def Call.scope (c : Call) : List (Option String) :=
  [c.event.platformId, c.event.targetId, c.event.opaqueAccountUid, c.event.strategyProfile, some c.family]

def Call.indexKey (c : Call) : String := d.index c.scope

def Call.recovered (c : Call) : Bool := match c.task with
  | .send _ => false
  | .recover => true

def Call.severity (c : Call) : ℤ := match c.task with
  | .send severity => severity
  | .recover => 1

def Call.state (c : Call) : String := if c.recovered then "recovered" else c.event.eventKind

/-- What `observe` demands of its arguments before it reads. -/
def Call.observable (c : Call) (reason : Option String) : Bool :=
  (c.parts reason).all identityPresent ∧ identityPresent (some c.state) ∧ 0 ≤ c.severity

def Marker.after (m : Marker) (now : Stamp) : Bool := m.observedAt.any fun seen => now.instant < seen.instant

/-- What `_read_marker` demands of a stored history. -/
def Marker.complete (m : Marker) : Bool :=
  identityPresent m.state ∧ 0 ≤ m.severity ∧ (m.generation = 0 ∨ identityPresent m.transitionKey)

/-- `_read_marker` over `OrderedMarkerStore.read`; no answer where either raises. -/
def readMarker (now : Stamp) : Option Marker → Option (Option Marker)
  | none => some none
  | some m => if m.after now ∨ !m.complete then none else some (some m)

inductive Verdict | send | duplicate | recovered
deriving DecidableEq

def observed (c : Call) (key : String) (previous : Marker) : Marker × Verdict :=
  if c.recovered then
    ({ previous with active := false, state := some c.state, severity := c.severity }, .recovered)
  else if previous.active ∧ c.severity ≤ previous.severity then
    ({ previous with state := some c.state, severity := c.severity }, .duplicate)
  else
    (⟨true, some c.state, c.severity, previous.generation + 1,
      some (d.transition key (previous.generation + 1) previous.state c.state c.severity), .pending, none, none⟩, .send)

def Marker.stamped (m : Marker) (now : Stamp) : Marker := { m with observedAt := some now }

/-- What `record_delivery` makes of a marker. -/
def Marker.settled (m : Marker) (receipt : Option String) : Marker :=
  if identityPresent receipt then { m with deliveryStatus := .delivered, receiptId := receipt }
  else { m with deliveryStatus := .uncertain, receiptId := none }

def addReason (reason : String) (reasons : List String) : List String :=
  (reason :: reasons).eraseDups.insertionSort (· ≤ ·)

structure Target where
  reason : Option String
  rest : List String
deriving DecidableEq

inductive Phase
  | idle
  | indexing (tries : ℕ)
  | adding (tries held : ℕ) (reasons : List String)
  | observing (target : Target) (tries : ℕ)
  | marking (target : Target) (tries held : ℕ) (marker : Marker) (verdict : Verdict)
  | refreshing (target : Target) (tries : ℕ)
  | advancing (target : Target) (tries held : ℕ) (marker : Marker)
  | sending (reservation : Marker)
  | recording (reservation : Marker) (receipt : Option String) (raises : Bool)
  | settling (held : ℕ) (marker : Marker) (raises : Bool)
  | returned
  | raised
deriving DecidableEq

/-- How a send ends; a receipt is what `_independent_sender_receipt` leaves of the one that the transport gave. -/
inductive Outcome
  | raised
  | answered (receipt : Option String)

inductive Action
  | start
  | read
  | write (delivery : Delivery) (gap : ℕ)
  | send (outcome : Outcome)
  | fail

variable {I : Type}

def tryLimit : ℕ := 8

def Call.own (c : Call) : Target := ⟨c.event.incidentReason, []⟩

def Target.next (t : Target) : Phase :=
  match t.rest with
  | [] => .returned
  | reason :: rest => .observing ⟨some reason, rest⟩ tryLimit

/-- How `immediate_incident` goes on after `observe`. -/
def afterObserve (target : Target) (marker : Marker) : Verdict → Phase
  | .send => .sending marker
  | _ => .refreshing target tryLimit

/-- One turn of `_incident_index`; a call that recovers only reads. -/
def readIndex (c : Call) (index : VersionedCell (List String) I) : ℕ → Phase
  | 0 => .raised
  | tries + 1 =>
    let reasons := index.value.getD []
    if c.recovered then Target.next ⟨none, reasons⟩
    else match c.event.incidentReason with
      | none => .observing c.own tryLimit
      | some reason =>
        if addReason reason reasons = reasons then .observing c.own tryLimit
        else .adding tries index.generation (addReason reason reasons)

/-- One turn of `observe` up to its write. -/
def readObserve (c : Call) (target : Target) (cell : VersionedCell Marker I) : ℕ → Phase
  | 0 => .raised
  | tries + 1 =>
    if !c.observable target.reason then .raised
    else match readMarker c.event.occurredAt cell.value with
      | none => .raised
      | some stored =>
        let previous := stored.getD .blank
        let wanted := observed d c (c.key d target.reason) previous
        if wanted.1 = previous then afterObserve target wanted.1 wanted.2
        else .marking target tries cell.generation wanted.1 wanted.2

def readRefresh (c : Call) (target : Target) (cell : VersionedCell Marker I) : ℕ → Phase
  | 0 => .raised
  | tries + 1 =>
    match cell.value with
    | none => .raised
    | some m =>
      if m.after c.event.occurredAt then .raised
      else if m.observedAt = some c.event.occurredAt then target.next
      else .advancing target tries cell.generation m

/-- `record_delivery` up to its write. -/
def readDelivery (c : Call) (reservation : Marker) (receipt : Option String) (raises : Bool) (cell : VersionedCell Marker I) :
    Phase :=
  match readMarker c.event.occurredAt cell.value with
  | some (some m) =>
    if m.transitionKey = reservation.transitionKey then .settling cell.generation (m.settled receipt) raises else .raised
  | _ => .raised

structure Sent (I : Type) where
  caller : I
  key : String
  reservation : Marker

variable (I) in
structure State where
  indexes : String → VersionedCell (List String) I
  markers : String → VersionedCell Marker I
  phase : I → Phase
  sends : List (Sent I)

variable [DecidableEq I]

def State.goto (s : State I) (i : I) (phase : Phase) : State I := { s with phase := Function.update s.phase i phase }

variable (calls : I → Call)

/-- `OrderedMarkerStore.compare_and_set` by the call `i`. -/
def State.store (s : State I) (i : I) (reason : Option String) (marker : Marker) (held : ℕ) (delivery : Delivery) (gap : ℕ)
    (done again : Phase) : State I :=
  let key := (calls i).key d reason
  let sent := (s.markers key).send delivery i (marker.stamped (calls i).event.occurredAt) held gap
  { s.goto i (VersionedCell.afterSend sent.2 delivery done again .raised) with markers := Function.update s.markers key sent.1 }

def step (s : State I) (l : I × Action) : Option (State I) :=
  let i := l.1
  let c := calls i
  let index := s.indexes (c.indexKey d)
  match s.phase i, l.2 with
  | .idle, .start => some (s.goto i (if c.scope.all identityPresent then .indexing tryLimit else .raised))
  | .indexing tries, .read => some (s.goto i (readIndex c index tries))
  | .adding tries held reasons, .write delivery gap =>
    let sent := index.send delivery i reasons held gap
    some { s.goto i (VersionedCell.afterSend sent.2 delivery (.observing c.own tryLimit) (.indexing tries) .raised) with
      indexes := Function.update s.indexes (c.indexKey d) sent.1 }
  | .observing target tries, .read => some (s.goto i (readObserve d c target (s.markers (c.key d target.reason)) tries))
  | .marking target tries held marker verdict, .write delivery gap =>
    some (s.store d calls i target.reason marker held delivery gap (afterObserve target marker verdict) (.observing target tries))
  | .refreshing target tries, .read => some (s.goto i (readRefresh c target (s.markers (c.key d target.reason)) tries))
  | .advancing target tries held marker, .write delivery gap =>
    some (s.store d calls i target.reason marker held delivery gap target.next (.refreshing target tries))
  | .sending reservation, .send outcome =>
    let recording : Phase := match outcome with
      | .raised => .recording reservation none true
      | .answered receipt => .recording reservation receipt false
    some { s.goto i recording with sends := s.sends ++ [⟨i, c.key d c.event.incidentReason, reservation⟩] }
  | .recording reservation receipt raises, .read =>
    some (s.goto i (readDelivery c reservation receipt raises (s.markers (c.key d c.event.incidentReason))))
  | .settling held marker raises, .write delivery gap =>
    some (s.store d calls i c.event.incidentReason marker held delivery gap (if raises then .raised else .returned) .raised)
  | .returned, .fail => none
  | _, .fail => some (s.goto i .raised)
  | _, _ => none

def incidents : System (State I) (I × Action) :=
  .ofStep (fun s => (∀ key, s.indexes key = .absent) ∧ (∀ key, s.markers key = .absent) ∧ (∀ i, s.phase i = .idle) ∧
    s.sends = []) (step d calls)

end Code

section Markers

variable {d : Digests} {c : Call} {key : String} {now : Stamp} {m previous marker : Marker} {verdict : Verdict}

structure Tells (c : Call) (m : Marker) : Prop where
  active : m.active = !c.recovered
  state : m.state = some c.state
  severity : m.severity = c.severity

lemma observed_tells : Tells c (observed d c key previous).1 := by
  unfold observed
  split
  · rename_i hr
    exact ⟨by simp [hr], rfl, rfl⟩
  · rename_i hr
    rw [Bool.not_eq_true] at hr
    split
    · rename_i hactive
      exact ⟨by simp [hr, hactive.1], rfl, rfl⟩
    · exact ⟨by simp [hr], rfl, rfl⟩

inductive Change (c : Call) (old new : Marker) : Prop
  | kept (generation : new.generation = old.generation) (active : new.active → old.active)
  | opened (generation : new.generation = old.generation + 1) (active : new.active = true)
      (fresh : old.active → old.severity < new.severity) (severity : new.severity = c.severity) (sends : c.recovered = false)

lemma observed_change (h : observed d c key previous = (marker, verdict)) :
    (verdict ≠ .send ∧ marker.generation = previous.generation ∧ (marker.active → previous.active)) ∨
      (verdict = .send ∧ marker.generation = previous.generation + 1 ∧ marker.active = true ∧
        (previous.active → previous.severity < marker.severity) ∧ marker.severity = c.severity ∧ c.recovered = false) := by
  unfold observed at h
  split at h
  · obtain ⟨rfl, rfl⟩ := Prod.mk.inj h
    exact .inl ⟨by simp, rfl, by simp⟩
  · rename_i hr
    rw [Bool.not_eq_true] at hr
    split at h
    · rename_i hactive
      obtain ⟨rfl, rfl⟩ := Prod.mk.inj h
      exact .inl ⟨by simp, rfl, fun _ => hactive.1⟩
    · rename_i hfresh
      obtain ⟨rfl, rfl⟩ := Prod.mk.inj h
      exact .inr ⟨rfl, rfl, rfl, fun ha => Int.not_le.mp fun hle => hfresh ⟨ha, hle⟩, rfl, hr⟩

lemma Change.of_observed (h : observed d c key previous = (marker, verdict)) : Change c previous (marker.stamped now) := by
  rcases observed_change h with ⟨-, hg, ha⟩ | ⟨-, hg, ha, hf, hs, hr⟩
  · exact .kept hg ha
  · exact .opened hg ha hf hs hr

lemma readMarker_some {stored : Option Marker} {value : Option Marker} (h : readMarker now value = some stored) :
    stored = value ∧ ∀ m, value = some m → m.after now = false := by
  cases value with
  | none => exact ⟨(Option.some.inj h).symm, by simp⟩
  | some m =>
    simp only [readMarker] at h
    split at h
    · cases h
    · rename_i hfine
      refine ⟨(Option.some.inj h).symm, fun m' hm => ?_⟩
      obtain rfl := Option.some.inj hm
      simpa using fun ha => hfine (.inl ha)

lemma settled_eq (m : Marker) (receipt : Option String) : (m.settled receipt).generation = m.generation ∧
    (m.settled receipt).active = m.active ∧ (m.settled receipt).state = m.state ∧ (m.settled receipt).severity = m.severity := by
  unfold Marker.settled
  split <;> exact ⟨rfl, rfl, rfl, rfl⟩

lemma mem_addReason {reason other : String} {reasons : List String} :
    other ∈ addReason reason reasons ↔ other = reason ∨ other ∈ reasons := by
  simp [addReason]

end Markers

section Histories

variable {I : Type} (d : Digests) (calls : I → Call)

structure Follows (old : Option Marker) (w : StoredWrite Marker I) : Prop where
  stamp : w.value.observedAt = some (calls w.writer).event.occurredAt
  order : ∀ m, old = some m → m.after (calls w.writer).event.occurredAt = false
  change : Change (calls w.writer) (old.getD .blank) w.value

def newest (log : List (StoredWrite Marker I)) : Marker := (log.head?.map fun w => w.value).getD .blank

def Reserved (cell : VersionedCell Marker I) (i : I) (m : Marker) : Prop :=
  ∃ newer w older, cell.log = newer ++ w :: older ∧ w.writer = i ∧ w.value = m.stamped (calls i).event.occurredAt ∧
    m.generation = (newest older).generation + 1

def NotBefore (w v : StoredWrite Marker I) : Prop := ∃ seen, w.value.observedAt = some seen ∧ v.value.after seen = false

variable {d calls} {key : String} {cell cell' : VersionedCell Marker I} {i j : I} {m m' : Marker}
  {log : List (StoredWrite Marker I)}

lemma Marker.after_eq_false {m : Marker} {now : Stamp} :
    m.after now = false ↔ ∀ seen, m.observedAt = some seen → seen.instant ≤ now.instant := by
  cases h : m.observedAt <;> simp [Marker.after, h]

lemma NotBefore.trans {u v w : StoredWrite Marker I} (h : NotBefore u v) (h' : NotBefore v w) : NotBefore u w := by
  obtain ⟨a, ha, hv⟩ := h
  obtain ⟨b, hb, hw⟩ := h'
  refine ⟨a, ha, Marker.after_eq_false.mpr fun seen hs => ?_⟩
  exact (Marker.after_eq_false.mp hw seen hs).trans (Marker.after_eq_false.mp hv b hb)

lemma Change.generation_le {c : Call} {old new : Marker} (h : Change c old new) : old.generation ≤ new.generation := by
  cases h with
  | kept hg _ => exact hg.ge
  | opened hg _ _ _ _ => exact hg ▸ Nat.le_succ _

lemma history_ordered (h : VersionedCell.Along (Follows calls) log) : log.Pairwise NotBefore :=
  h.pairwise (fun _ _ _ => NotBefore.trans) fun _ v hf => ⟨_, hf.stamp, hf.order v.value rfl⟩

lemma history_generation (h : VersionedCell.Along (Follows calls) log) :
    log.Pairwise fun w v => v.value.generation ≤ w.value.generation :=
  h.pairwise (fun _ _ _ huv hvw => hvw.trans huv) fun _ _ hf => hf.change.generation_le

lemma Reserved.extend (h : Reserved calls cell i m) (he : cell.Extends cell') : Reserved calls cell' i m := by
  obtain ⟨newer, w, older, hlog, hw⟩ := h
  obtain ⟨later, hlater⟩ := he
  exact ⟨later ++ newer, w, older, by rw [← hlater, hlog, List.append_assoc], hw⟩

lemma Reserved.mem (h : Reserved calls cell i m) :
    ∃ w ∈ cell.log, w.writer = i ∧ w.value = m.stamped (calls i).event.occurredAt := by
  obtain ⟨newer, w, older, hlog, hw, hm, -⟩ := h
  exact ⟨w, hlog ▸ List.mem_append_right _ List.mem_cons_self, hw, hm⟩

lemma newest_generation_le (h : VersionedCell.Along (Follows calls) log) {w : StoredWrite Marker I} (hw : w ∈ log) :
    w.value.generation ≤ (newest log).generation := by
  cases log with
  | nil => cases hw
  | cons v log =>
    rcases List.mem_cons.mp hw with rfl | hw
    · exact le_rfl
    · exact (List.pairwise_cons.mp (history_generation h)).1 w hw

lemma Reserved.writer_eq (hc : VersionedCell.Along (Follows calls) cell.log) (h : Reserved calls cell i m)
    (h' : Reserved calls cell j m') (hg : m.generation = m'.generation) : i = j := by
  obtain ⟨newer, w, older, hlog, rfl, hm, hopen⟩ := h
  obtain ⟨newer', w', older', hlog', rfl, hm', hopen'⟩ := h'
  have hwg : w.value.generation = m.generation := by rw [hm]; rfl
  have hwg' : w'.value.generation = m'.generation := by rw [hm']; rfl
  have hbelow : ∀ {newer older : List (StoredWrite Marker I)} {w v : StoredWrite Marker I},
      cell.log = newer ++ w :: older → v ∈ older → v.value.generation ≤ (newest older).generation :=
    fun h hv => newest_generation_le (h ▸ hc).cut.2 hv
  rcases List.append_eq_append_iff.mp (hlog.symm.trans hlog') with ⟨between, hnewer, holder⟩ | ⟨between, hnewer, holder⟩
  · cases between with
    | nil => rw [(List.cons.inj holder).1]
    | cons v between =>
      have hv : w' ∈ older := (List.cons.inj holder).2 ▸ List.mem_append_right _ List.mem_cons_self
      have hle := hbelow hlog hv
      omega
  · cases between with
    | nil => rw [(List.cons.inj holder).1]
    | cons v between =>
      have hv : w ∈ older' := (List.cons.inj holder).2 ▸ List.mem_append_right _ List.mem_cons_self
      have hle := hbelow hlog' hv
      omega

lemma Reserved.lowered (hc : VersionedCell.Along (Follows calls) cell.log) (h : Reserved calls cell i m) :
    m.severity = (calls i).severity ∧ ∃ old, old.generation + 1 = m.generation ∧
      (old = .blank ∨ ∃ v ∈ cell.log, v.value = old) ∧ (old.active → old.severity < m.severity) := by
  obtain ⟨newer, w, older, hlog, rfl, hm, hopen⟩ := h
  have hfollows := (hlog ▸ hc).cut.1
  have hwg : w.value.generation = m.generation := by rw [hm]; rfl
  have hws : w.value.severity = m.severity := by rw [hm]; rfl
  rcases hfollows.change with ⟨hkept, -⟩ | ⟨-, -, hfresh, hseverity, -⟩
  · have hold : w.value.generation = (newest older).generation := hkept
    omega
  · refine ⟨hws.symm.trans hseverity, newest older, hopen.symm, ?_, fun ha => hws ▸ hfresh ha⟩
    cases older with
    | nil => exact .inl rfl
    | cons v older => exact .inr ⟨v, hlog ▸ by simp, rfl⟩

end Histories

end IbkrPlatform.Notifications.Incidents
