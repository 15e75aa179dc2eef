import Mathlib.Logic.Function.Basic
import IbkrPlatform.FlexDaily.Calendar
import IbkrPlatform.Library.Transition
import IbkrPlatform.Library.VersionedCell

/-! Concurrent collector runs over the generation-checked objects of the private bucket. -/

namespace IbkrPlatform.FlexDaily.LeaseFencing

open Library
open Calendar (minutes)

structure LeaseValue where
  owner : String
  expires : Instant
deriving DecidableEq

structure Lease where
  value : LeaseValue
  generation : ℕ

structure Seen where
  generation : ℕ
  count : ℕ

variable (Doc : Type)

structure Memory where
  state : Doc
  seen : Seen

inductive Process
  | idle
  | leaseRead (started : Instant) (generation : ℕ)
  | leased (lease : Lease)
  | stateRead (lease : Lease) (memory : Memory Doc)
  | working (lease : Lease) (memory : Memory Doc) (status : Seen)
  | checked (lease : Lease) (memory : Memory Doc) (status : Seen)
  | stored (lease : Lease) (memory : Memory Doc) (status : Seen)
  | releasing (lease : Lease)
  | statusRead (status : Seen)
  | ended (lease : Option Lease)

variable (Safe : Type)

inductive Action
  | readLease (now : Instant)
  | putLease (owner : String) (gap : ℕ) (delivery : Delivery)
  | readState
  | readStatus
  | checkLease (now : Instant)
  | putState (update : Doc → Doc) (gap : ℕ) (delivery : Delivery)
  | putStatus (summary : Doc → Safe) (gap : ℕ) (delivery : Delivery)
  | leave
  | release (now : Instant) (gap : ℕ) (delivery : Delivery)
  | crash
  | readBlockedStatus
  | putBlockedStatus (safe : Safe) (gap : ℕ) (delivery : Delivery)

variable (Run : Type)

structure State where
  lease : VersionedCell LeaseValue Run
  coverage : VersionedCell Doc Run
  status : VersionedCell Safe Run
  clock : Run → Instant
  process : Run → Process Doc

variable {Doc Safe Run}

namespace Process

@[simp] def lease? : Process Doc → Option Lease
  | leased l | stateRead l _ | working l _ _ | checked l _ _ | stored l _ _ | releasing l => some l
  | ended l => l
  | _ => none

@[simp] def memory? : Process Doc → Option (Memory Doc)
  | stateRead _ m | working _ m _ | checked _ m _ | stored _ m _ => some m
  | _ => none

@[simp] def status? : Process Doc → Option Seen
  | working _ _ v | checked _ _ v | stored _ _ v | statusRead v => some v
  | _ => none

end Process

def read {V : Type} (c : VersionedCell V Run) : Seen := ⟨c.generation, c.writes⟩

def occupied (c : VersionedCell LeaseValue Run) (now : Instant) : Bool :=
  match c.value with
  | some value => decide (now < value.expires)
  | none => false

/-- `Lease.check`. -/
def passes (c : VersionedCell LeaseValue Run) (l : Lease) (now : Instant) : Bool :=
  c.value = some l.value ∧ c.generation = l.generation ∧ now < l.value.expires

variable [DecidableEq Run]

def State.goto (s : State Doc Safe Run) (r : Run) (p : Process Doc) : State Doc Safe Run :=
  { s with process := Function.update s.process r p }

def State.tick (s : State Doc Safe Run) (r : Run) (now : Instant) : Option (State Doc Safe Run) :=
  if s.clock r ≤ now then some { s with clock := Function.update s.clock r now } else none

def step (blank : Doc) (s : State Doc Safe Run) (r : Run) (a : Action Doc Safe) :
    Option (State Doc Safe Run) :=
  match s.process r, a with
  | .idle, .readLease now =>
    (s.tick r now).map fun s =>
      s.goto r (if occupied s.lease now then .ended none else .leaseRead now s.lease.generation)
  | .leaseRead started held, .putLease owner gap delivery =>
    let value := ⟨owner, started + minutes 31⟩
    let sent := s.lease.send delivery r value held gap
    some ({ s with lease := sent.1 }.goto r
      (if sent.2 then .leased ⟨value, sent.1.generation⟩ else .ended none))
  | .leased l, .readState =>
    some (s.goto r (.stateRead l ⟨s.coverage.value.getD blank, read s.coverage⟩))
  | .stateRead l m, .readStatus => some (s.goto r (.working l m (read s.status)))
  | .working l m v, .checkLease now =>
    (s.tick r now).map fun s => s.goto r (if passes s.lease l now then .checked l m v else .releasing l)
  | .checked l m v, .putState update gap delivery =>
    let sent := s.coverage.send delivery r (update m.state) m.seen.generation gap
    some ({ s with coverage := sent.1 }.goto r
      (if sent.2 then .stored l ⟨update m.state, read sent.1⟩ v else .releasing l))
  | .stored l m v, .putStatus summary gap delivery =>
    let sent := s.status.send delivery r (summary m.state) v.generation gap
    some ({ s with status := sent.1 }.goto r
      (if sent.2 then .working l m (read sent.1) else .releasing l))
  | .working l _ _, .leave | .checked l _ _, .leave | .stored l _ _, .leave =>
    some (s.goto r (.releasing l))
  | .releasing l, .release now gap delivery =>
    (s.tick r now).map fun s =>
      let value := { l.value with expires := now }
      { s with lease := (s.lease.send delivery r value l.generation gap).1 }.goto r
        (.ended (some { l with value := value }))
  | .idle, .readBlockedStatus => some (s.goto r (.statusRead (read s.status)))
  | .statusRead v, .putBlockedStatus safe gap delivery =>
    some ({ s with status := (s.status.send delivery r safe v.generation gap).1 }.goto r (.ended none))
  | p, .crash => some (s.goto r (.ended p.lease?))
  | _, _ => none

def system (blank : Doc) : System (State Doc Safe Run) (Run × Action Doc Safe) :=
  .ofStep (fun s => ∀ r, s.process r = .idle) (fun s l => step blank s l.1 l.2)

variable {blank : Doc} {s t : State Doc Safe Run} {r : Run} {a : Action Doc Safe}

lemma tick_eq {now : Instant} {u : State Doc Safe Run} (h : s.tick r now = some u) :
    u = { s with clock := Function.update s.clock r now } := by
  simp only [State.tick, Option.ite_none_right_eq_some, Option.some.injEq] at h
  exact h.2.symm

/-- The step sends this status object: a summary of what the run holds, or the one of a blocked run. -/
def State.sendsStatus (s : State Doc Safe Run) (r : Run) (a : Action Doc Safe) (safe : Safe) (gap : ℕ) : Prop :=
  (∃ m summary delivery, (s.process r).memory? = some m ∧ a = .putStatus summary gap delivery ∧ safe = summary m.state) ∨
    ∃ delivery, a = .putBlockedStatus safe gap delivery

structure Effect (blank : Doc) (s t : State Doc Safe Run) (r : Run) (a : Action Doc Safe) (p : Process Doc) : Prop where
  process : t.process = Function.update s.process r p
  lease : t.lease = s.lease ∨
    (∃ started held value gap, s.process r = .leaseRead started held ∧ s.lease.generation = held ∧
      t.lease = s.lease.store r value gap) ∨
    (∃ l value gap, (s.process r).lease? = some l ∧ s.lease.generation = l.generation ∧
      t.lease = s.lease.store r value gap)
  coverage : t.coverage = s.coverage ∨ ∃ (m : Memory Doc) (update : Doc → Doc) (gap : ℕ) (delivery : Delivery),
    a = .putState update gap delivery ∧ (s.process r).memory? = some m ∧ s.coverage.generation = m.seen.generation ∧
      t.coverage = s.coverage.store r (update m.state) gap
  status : t.status = s.status ∨ ∃ v safe gap, s.sendsStatus r a safe gap ∧ (s.process r).status? = some v ∧
    s.status.generation = v.generation ∧ t.status = s.status.store r safe gap
  holdsLease : ∀ l, p.lease? = some l → (∃ l', (s.process r).lease? = some l' ∧ l.generation = l'.generation) ∨
    t.lease.Wrote r l.generation
  holdsMemory : ∀ m, p.memory? = some m → (s.process r).memory? = some m ∨
    m = ⟨t.coverage.value.getD blank, read t.coverage⟩
  holdsStatus : ∀ v, p.status? = some v → (s.process r).status? = some v ∨ v = read t.status

lemma goto_effect {p : Process Doc} (clock : Run → Instant)
    (hl : ∀ l, p.lease? = some l → (s.process r).lease? = some l)
    (hm : ∀ m, p.memory? = some m →
      (s.process r).memory? = some m ∨ m = ⟨s.coverage.value.getD blank, read s.coverage⟩)
    (hv : ∀ v, p.status? = some v → (s.process r).status? = some v ∨ v = read s.status) :
    Effect blank s ({ s with clock := clock }.goto r p) r a p where
  process := rfl
  lease := Or.inl rfl
  coverage := Or.inl rfl
  status := Or.inl rfl
  holdsLease l h := Or.inl ⟨l, hl l h, rfl⟩
  holdsMemory := hm
  holdsStatus := hv

lemma putLease_effect {started : Instant} {held gap : ℕ} {value : LeaseValue} (delivery : Delivery)
    (hp : s.process r = .leaseRead started held) :
    let sent := s.lease.send delivery r value held gap
    let p : Process Doc := if sent.2 then .leased ⟨value, sent.1.generation⟩ else .ended none
    Effect blank s ({ s with lease := sent.1 }.goto r p) r a p := by
  intro sent p
  have hs := VersionedCell.send_stored delivery s.lease r value held gap
  refine ⟨rfl, ?_, Or.inl rfl, Or.inl rfl, ?_, ?_, ?_⟩
  · rcases hs with hs | ⟨hg, hs⟩
    · exact Or.inl (congrArg Prod.fst hs)
    · exact Or.inr (Or.inl ⟨started, held, value, gap, hp, hg, hs⟩)
  · intro l hl
    right
    rcases hs with hs | ⟨hg, hs⟩
    · have hf : sent.2 = false := congrArg Prod.snd hs
      simp [p, hf] at hl
    · have hw : sent.1.Wrote r sent.1.generation := by
        simp only [sent, hs]
        exact VersionedCell.wrote_store
      by_cases hok : sent.2 = true
      · obtain rfl : ⟨value, sent.1.generation⟩ = l := by simpa [p, hok] using hl
        exact hw
      · simp [p, hok] at hl
  · intro m hm
    by_cases hok : sent.2 = true <;> simp [p, hok] at hm
  · intro v hv
    by_cases hok : sent.2 = true <;> simp [p, hok] at hv

lemma putState_effect {l : Lease} {m : Memory Doc} {v : Seen} {update : Doc → Doc} {gap : ℕ}
    (delivery : Delivery) (hp : s.process r = .checked l m v) :
    let sent := s.coverage.send delivery r (update m.state) m.seen.generation gap
    let p : Process Doc := if sent.2 then .stored l ⟨update m.state, read sent.1⟩ v else .releasing l
    Effect blank s ({ s with coverage := sent.1 }.goto r p) r (.putState update gap delivery) p := by
  intro sent p
  have hs := VersionedCell.send_stored delivery s.coverage r (update m.state) m.seen.generation gap
  have hm : (s.process r).memory? = some m := by rw [hp]; rfl
  refine ⟨rfl, Or.inl rfl, ?_, Or.inl rfl, ?_, ?_, ?_⟩
  · rcases hs with hs | ⟨hg, hs⟩
    · exact Or.inl (congrArg Prod.fst hs)
    · exact Or.inr ⟨m, update, gap, delivery, rfl, hm, hg, hs⟩
  · intro l' hl
    left
    refine ⟨l, by rw [hp]; rfl, ?_⟩
    by_cases hok : sent.2 = true <;> simp [p, hok] at hl <;> rw [← hl]
  · intro m' hm'
    right
    by_cases hok : sent.2 = true
    · obtain rfl : ⟨update m.state, read sent.1⟩ = m' := by simpa [p, hok] using hm'
      rcases hs with hs | ⟨hg, hs⟩
      · have hf : sent.2 = false := congrArg Prod.snd hs
        simp [hf] at hok
      · simp [State.goto, sent, hs]
    · simp [p, hok] at hm'
  · intro v' hv'
    left
    by_cases hok : sent.2 = true
    · simpa [p, hok, hp] using hv'
    · simp [p, hok] at hv'

lemma putStatus_effect {p : Process Doc} {v : Seen} {safe : Safe} {gap : ℕ} (delivery : Delivery)
    (ha : s.sendsStatus r a safe gap) (hv : (s.process r).status? = some v) (hl : ∀ l, p.lease? = some l → (s.process r).lease? = some l)
    (hm : ∀ m, p.memory? = some m → (s.process r).memory? = some m)
    (hq : ∀ w, p.status? = some w → w = read (s.status.send delivery r safe v.generation gap).1) :
    Effect blank s ({ s with status := (s.status.send delivery r safe v.generation gap).1 }.goto r p) r a p := by
  refine ⟨rfl, Or.inl rfl, Or.inl rfl, ?_, ?_, ?_, ?_⟩
  · rcases VersionedCell.send_stored delivery s.status r safe v.generation gap with hs | ⟨hg, hs⟩
    · exact Or.inl (congrArg Prod.fst hs)
    · exact Or.inr ⟨v, safe, gap, ha, hv, hg, hs⟩
  · exact fun l h => Or.inl ⟨l, hl l h, rfl⟩
  · exact fun m h => Or.inl (hm m h)
  · exact fun w h => Or.inr (hq w h)

lemma release_effect {l : Lease} {now : Instant} {gap : ℕ} (clock : Run → Instant) (delivery : Delivery)
    (hp : s.process r = .releasing l) :
    let value := { l.value with expires := now }
    let p : Process Doc := .ended (some { l with value := value })
    Effect blank s
      ({ s with clock := clock, lease := (s.lease.send delivery r value l.generation gap).1 }.goto r p) r a p := by
  intro value p
  have hl : (s.process r).lease? = some l := by rw [hp]; rfl
  refine ⟨rfl, ?_, Or.inl rfl, Or.inl rfl, ?_, ?_, ?_⟩
  · rcases VersionedCell.send_stored delivery s.lease r value l.generation gap with hs | ⟨hg, hs⟩
    · exact Or.inl (congrArg Prod.fst hs)
    · exact Or.inr (Or.inr ⟨l, value, gap, hl, hg, hs⟩)
  · rintro l' hl'
    obtain rfl : { l with value := value } = l' := by simpa [p] using hl'
    exact Or.inl ⟨l, hl, rfl⟩
  · simp [p]
  · simp [p]

lemma step_effect (h : step blank s r a = some t) : ∃ p, Effect blank s t r a p := by
  unfold step at h
  split at h
  case h_1 =>
    obtain ⟨u, hu, rfl⟩ := Option.map_eq_some_iff.mp h
    obtain rfl := tick_eq hu
    refine ⟨_, goto_effect _ ?_ ?_ ?_⟩ <;> split_ifs <;>
      simp
  case h_2 delivery hp =>
    obtain rfl := Option.some.inj h
    exact ⟨_, putLease_effect delivery hp⟩
  case h_3 hp =>
    obtain rfl := Option.some.inj h
    exact ⟨_, goto_effect s.clock (by simp [hp]) (by simp [eq_comm])
      (by simp)⟩
  case h_4 hp =>
    obtain rfl := Option.some.inj h
    exact ⟨_, goto_effect s.clock (by simp [hp]) (by simp [hp])
      (by simp [eq_comm])⟩
  case h_5 hp =>
    obtain ⟨u, hu, rfl⟩ := Option.map_eq_some_iff.mp h
    obtain rfl := tick_eq hu
    refine ⟨_, goto_effect _ ?_ ?_ ?_⟩ <;> split_ifs <;>
      simp [hp]
  case h_6 delivery hp =>
    obtain rfl := Option.some.inj h
    exact ⟨_, putState_effect delivery hp⟩
  case h_7 delivery hp =>
    obtain rfl := Option.some.inj h
    refine ⟨_, putStatus_effect delivery (.inl ⟨_, _, delivery, by rw [hp]; rfl, rfl, rfl⟩) (by rw [hp]; rfl) ?_ ?_ ?_⟩ <;> split_ifs <;>
      simp [hp, eq_comm]
  case h_8 hp | h_9 hp | h_10 hp =>
    obtain rfl := Option.some.inj h
    exact ⟨_, goto_effect s.clock (by simp [hp]) (by simp)
      (by simp)⟩
  case h_11 delivery hp =>
    obtain ⟨u, hu, rfl⟩ := Option.map_eq_some_iff.mp h
    obtain rfl := tick_eq hu
    exact ⟨_, release_effect _ delivery hp⟩
  case h_12 =>
    obtain rfl := Option.some.inj h
    exact ⟨_, goto_effect s.clock (by simp) (by simp)
      (by simp [eq_comm])⟩
  case h_13 delivery hp =>
    obtain rfl := Option.some.inj h
    exact ⟨_, putStatus_effect delivery (.inr ⟨delivery, rfl⟩) (by rw [hp]; rfl) (by simp)
      (by simp) (by simp)⟩
  case h_14 =>
    obtain rfl := Option.some.inj h
    exact ⟨_, goto_effect s.clock (by simp) (by simp)
      (by simp)⟩
  case h_15 => cases h

structure Backed (blank : Doc) (s : State Doc Safe Run) (r : Run) : Prop where
  lease : ∀ l, (s.process r).lease? = some l → s.lease.Wrote r l.generation
  memory : ∀ m, (s.process r).memory? = some m → s.coverage.Held m.seen.generation m.seen.count ∧
    m.state = (s.coverage.rewind m.seen.count).value.getD blank
  status : ∀ v, (s.process r).status? = some v → s.status.Held v.generation v.count

lemma Effect.lease_extends {p : Process Doc} (h : Effect blank s t r a p) : s.lease.Extends t.lease := by
  rcases h.lease with h | ⟨_, _, _, _, _, _, h⟩ | ⟨_, _, _, _, _, h⟩ <;> rw [h]
  · exact .refl
  · exact VersionedCell.extends_store
  · exact VersionedCell.extends_store

lemma Effect.coverage_extends {p : Process Doc} (h : Effect blank s t r a p) :
    s.coverage.Extends t.coverage := by
  rcases h.coverage with h | ⟨_, _, _, _, _, _, _, h⟩ <;> rw [h]
  · exact .refl
  · exact VersionedCell.extends_store

lemma Effect.status_extends {p : Process Doc} (h : Effect blank s t r a p) : s.status.Extends t.status := by
  rcases h.status with h | ⟨_, _, _, _, _, _, h⟩ <;> rw [h]
  · exact .refl
  · exact VersionedCell.extends_store

lemma Effect.backed_other {p : Process Doc} (h : Effect blank s t r a p) {q : Run} (hq : q ≠ r)
    (hb : Backed blank s q) : Backed blank t q := by
  have hp : t.process q = s.process q := by rw [h.process, Function.update_of_ne hq]
  refine ⟨fun l hl => (hb.lease l (hp ▸ hl)).extend h.lease_extends, fun m hm => ?_,
    fun v hv => (hb.status v (hp ▸ hv)).extend h.status_extends⟩
  obtain ⟨hh, hv⟩ := hb.memory m (hp ▸ hm)
  exact ⟨hh.extend h.coverage_extends, by rw [h.coverage_extends.rewind hh.1, hv]⟩

lemma Effect.backed_self {p : Process Doc} (h : Effect blank s t r a p) (hb : Backed blank s r) :
    Backed blank t r := by
  have hp : t.process r = p := by rw [h.process, Function.update_self]
  refine ⟨fun l hl => ?_, fun m hm => ?_, fun v hv => ?_⟩
  · rcases h.holdsLease l (hp ▸ hl) with ⟨l', hl', hg⟩ | hw
    · exact hg ▸ (hb.lease l' hl').extend h.lease_extends
    · exact hw
  · rcases h.holdsMemory m (hp ▸ hm) with hm | rfl
    · obtain ⟨hh, hv⟩ := hb.memory m hm
      exact ⟨hh.extend h.coverage_extends, by rw [h.coverage_extends.rewind hh.1, hv]⟩
    · exact ⟨VersionedCell.held_read, by simp [read]⟩
  · rcases h.holdsStatus v (hp ▸ hv) with hv | rfl
    · exact (hb.status v hv).extend h.status_extends
    · exact VersionedCell.held_read

lemma backed_of_reachable (h : (system blank).Reachable s) (r : Run) : Backed blank s r := by
  refine h.invariant (I := fun s => ∀ r, Backed blank s r) ?_ ?_ r
  · intro s hi r
    exact ⟨by simp [hi r], by simp [hi r], by simp [hi r]⟩
  · intro s l t hb hn r
    obtain ⟨p, he⟩ := step_effect hn
    by_cases hr : r = l.1
    · exact hr ▸ he.backed_self (hb l.1)
    · exact he.backed_other hr (hb r)

def State.active (s : State Doc Safe Run) (r : Run) (now : Instant) : Prop :=
  ∃ l, (s.process r).lease? = some l ∧ passes s.lease l now

lemma active_unique (h : (system blank).Reachable s) {r r' : Run} {now now' : Instant}
    (hr : s.active r now) (hr' : s.active r' now') : r = r' := by
  obtain ⟨l, hl, hp⟩ := hr
  obtain ⟨l', hl', hp'⟩ := hr'
  simp only [passes, decide_eq_true_eq] at hp hp'
  have ha := ((backed_of_reachable h r).lease l hl).author hp.2.1
  have ha' := ((backed_of_reachable h r').lease l' hl').author hp'.2.1
  exact Option.some.inj (ha.symm.trans ha')

lemma coverage_current (h : (system blank).Reachable s) (hs : step blank s r a = some t) :
    t.coverage = s.coverage ∨ ∃ (m : Memory Doc) (update : Doc → Doc) (gap : ℕ) (delivery : Delivery),
      a = .putState update gap delivery ∧ (s.process r).memory? = some m ∧ m.seen = read s.coverage ∧
        t.coverage = s.coverage.store r (update (s.coverage.value.getD blank)) gap := by
  obtain ⟨p, he⟩ := step_effect hs
  rcases he.coverage with he | ⟨m, update, gap, delivery, ha, hm, hg, ht⟩
  · exact Or.inl he
  · obtain ⟨hh, hv⟩ := (backed_of_reachable h r).memory m hm
    have hc : m.seen.count = s.coverage.writes := hh.current hg
    rw [hc, VersionedCell.rewind_writes] at hv
    refine Or.inr ⟨m, update, gap, delivery, ha, hm, ?_, hv ▸ ht⟩
    rw [read, ← hc, hg]

lemma status_current (h : (system blank).Reachable s) (hs : step blank s r a = some t) :
    t.status = s.status ∨ ∃ v safe gap, s.sendsStatus r a safe gap ∧ (s.process r).status? = some v ∧ v = read s.status ∧
      t.status = s.status.store r safe gap := by
  obtain ⟨p, he⟩ := step_effect hs
  rcases he.status with he | ⟨v, safe, gap, ha, hv, hg, ht⟩
  · exact Or.inl he
  · have hc : v.count = s.status.writes := ((backed_of_reachable h r).status v hv).current hg
    refine Or.inr ⟨v, safe, gap, ha, hv, ?_, ht⟩
    rw [read, ← hc, hg]

lemma release_own (h : (system blank).Reachable s) {now : Instant} {gap : ℕ} {delivery : Delivery}
    (hs : step blank s r (.release now gap delivery) = some t) :
    t.lease = s.lease ∨ s.lease.author = some r := by
  obtain ⟨p, he⟩ := step_effect hs
  rcases he.lease with he | ⟨started, held, value, gap, hp, _, _⟩ | ⟨l, value, gap, hl, hg, _⟩
  · exact Or.inl he
  · simp [step, hp] at hs
  · exact Or.inr (((backed_of_reachable h r).lease l hl).author hg)

theorem concurrent_runs_fenced (blank : Doc) (s : State Doc Safe Run) (h : (system blank).Reachable s) :
    (∀ r r' now now', s.active r now → s.active r' now' → r = r') ∧
    ∀ r a t, step blank s r a = some t →
      (t.coverage = s.coverage ∨ ∃ (m : Memory Doc) (update : Doc → Doc) (gap : ℕ) (delivery : Delivery),
        a = .putState update gap delivery ∧ (s.process r).memory? = some m ∧ m.seen = read s.coverage ∧
          t.coverage = s.coverage.store r (update (s.coverage.value.getD blank)) gap) ∧
      (t.status = s.status ∨ ∃ v safe gap, s.sendsStatus r a safe gap ∧ (s.process r).status? = some v ∧ v = read s.status ∧
        t.status = s.status.store r safe gap) ∧
      ∀ now gap delivery, a = .release now gap delivery → t.lease = s.lease ∨ s.lease.author = some r := by
  refine ⟨fun r r' now now' hr hr' => active_unique h hr hr', fun r a t hs => ?_⟩
  refine ⟨coverage_current h hs, status_current h hs, ?_⟩
  rintro now gap delivery rfl
  exact release_own h hs

def quiet : State ℕ ℕ Bool := ⟨.absent, .absent, .absent, fun _ => 0, fun _ => .idle⟩

def takeover : List (Bool × Action ℕ ℕ) :=
  [(true, .readLease 0), (true, .putLease "a" 0 .acknowledged), (true, .readState), (true, .readStatus),
    (true, .checkLease 0), (false, .readLease (minutes 31)), (false, .putLease "b" 0 .acknowledged),
    (false, .readState), (false, .readStatus), (false, .checkLease (minutes 31)),
    (false, .putState (· + 1) 0 .acknowledged)]

def stolen : State ℕ ℕ Bool := (System.execute (fun s l => step 0 s l.1 l.2) quiet takeover).getD quiet

theorem takeover_fenced : (stolen.active false (minutes 31) ∧ ¬ stolen.active true 0) ∧
    ∀ t, step 0 stolen true (.putState (· + 2) 0 .acknowledged) = some t → t.coverage = stolen.coverage := by
  have hr : (system 0).Reachable stolen := ⟨quiet, takeover, fun _ => rfl, System.run_of_execute rfl⟩
  have hf : stolen.active false (minutes 31) := ⟨⟨⟨"b", minutes 62⟩, 2⟩, rfl, by decide⟩
  refine ⟨⟨hf, fun ht => ?_⟩, fun t hs => ?_⟩
  · exact absurd ((concurrent_runs_fenced 0 stolen hr).1 true false 0 (minutes 31) ht hf) (by decide)
  · rcases ((concurrent_runs_fenced 0 stolen hr).2 true _ t hs).1 with h | ⟨m, _, _, _, _, hm, hseen, _⟩
    · exact h
    · obtain rfl : Memory.mk 0 ⟨0, 0⟩ = m := Option.some.inj hm
      exact absurd (congrArg Seen.count hseen) (by decide)

end IbkrPlatform.FlexDaily.LeaseFencing
