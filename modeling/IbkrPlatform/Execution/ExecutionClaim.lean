import Mathlib.Logic.Function.Basic
import IbkrPlatform.Library.Transition
import IbkrPlatform.Library.VersionedCell

/-! Live strategy cycles that claim one execution before they forward an order. -/

namespace IbkrPlatform.Execution.ExecutionClaim

open Library

structure CycleConfig where
  dryRunOnly : Bool
  executionDedupEnabled : Bool
  executionMarkerKey : String
  executionStateStore : Bool
  accountId : String
  ownerId : String

def CycleConfig.claims (c : CycleConfig) : Bool :=
  !c.dryRunOnly && c.executionDedupEnabled && c.executionMarkerKey ≠ "" && c.executionStateStore

inductive Phase
  | readingMarker
  | readingReport
  | executing
  | bound
  | claimingOwner
  | claimingMarker
  | granted
  | finished
deriving DecidableEq

variable (Cycle : Type)

inductive Event
  | ownerClaimed (c : Cycle)
  | markerClaimed (c : Cycle)
  | refused (c : Cycle)
  | forwarded (c : Cycle)
deriving DecidableEq

/-- `attempted` and `acquired` are the closure's two flags; `trace` is newest first. -/
structure State where
  markers : String → Bool
  owners : String → Option String
  phase : Cycle → Phase
  attempted : Cycle → Bool
  acquired : Cycle → Bool
  trace : List (Event Cycle)

/-- A read that raises answers `none`; a claim whose answer is lost raises in the cycle. -/
inductive Action
  | hasMarker (answer : Option Bool)
  | hasPriorExecutionReport (answer : Option Bool)
  | submitClaimedOrder (bindingOk : Bool)
  | acquireExecutionClaim
  | claimAccountOwner (delivery : Delivery)
  | claimMarker (delivery : Delivery)
  | delegateSubmit (admitted : Bool)
  | recordMarker
  | leave

variable {Cycle} [DecidableEq Cycle]

namespace State

def goto (s : State Cycle) (c : Cycle) (p : Phase) : State Cycle :=
  { s with phase := Function.update s.phase c p }

def emit (s : State Cycle) (e : Event Cycle) : State Cycle := { s with trace := e :: s.trace }

def attempt (s : State Cycle) (c : Cycle) : State Cycle :=
  { s with attempted := Function.update s.attempted c true }

def acquire (s : State Cycle) (c : Cycle) : State Cycle :=
  { s with acquired := Function.update s.acquired c true }

def setMarker (s : State Cycle) (key : String) : State Cycle :=
  { s with markers := Function.update s.markers key true }

def setOwner (s : State Cycle) (account owner : String) : State Cycle :=
  { s with owners := Function.update s.owners account (some owner) }

/-- The claim raised, or returned false: `submit_claimed_order` raises to its caller. -/
def refuse (s : State Cycle) (c : Cycle) : State Cycle := (s.emit (.refused c)).goto c .executing

end State

def ownerAllowed (s : State Cycle) (account owner : String) : Bool :=
  s.owners account = none ∨ s.owners account = some owner

def step (config : Cycle → CycleConfig) (s : State Cycle) (c : Cycle) (a : Action) : Option (State Cycle) :=
  match s.phase c, a with
  | .readingMarker, .hasMarker answer =>
    some (s.goto c (if answer.getD false then .finished else .readingReport))
  | .readingReport, .hasPriorExecutionReport answer =>
    some (s.goto c (if answer.getD false then .finished else .executing))
  | .executing, .submitClaimedOrder bindingOk =>
    some (if bindingOk then s.goto c .bound else s)
  | .bound, .acquireExecutionClaim =>
    some (if s.attempted c then if s.acquired c then s.goto c .granted else s.refuse c
      else if (config c).claims then (s.attempt c).goto c .claimingOwner
      else (s.attempt c).refuse c)
  | .claimingOwner, .claimAccountOwner delivery =>
    let allowed := ownerAllowed s (config c).accountId (config c).ownerId
    let claimed := if allowed then s.setOwner (config c).accountId (config c).ownerId else s
    match delivery with
    | .lost => some (s.refuse c)
    | .unacknowledged => some (claimed.refuse c)
    | .acknowledged =>
      some (if allowed then (claimed.emit (.ownerClaimed c)).goto c .claimingMarker else s.refuse c)
  | .claimingMarker, .claimMarker delivery =>
    let key := (config c).executionMarkerKey
    match delivery with
    | .lost => some (s.refuse c)
    | .unacknowledged => some ((s.setMarker key).refuse c)
    | .acknowledged =>
      some (if s.markers key then s.refuse c
        else (((s.setMarker key).acquire c).emit (.markerClaimed c)).goto c .granted)
  | .granted, .delegateSubmit admitted =>
    some ((if admitted then s.emit (.forwarded c) else s).goto c .executing)
  | .executing, .recordMarker => some ((s.setMarker (config c).executionMarkerKey).goto c .finished)
  | _, .leave => some (s.goto c .finished)
  | _, _ => none

def system (config : Cycle → CycleConfig) : System (State Cycle) (Cycle × Action) :=
  .ofStep
    (fun s => s.trace = [] ∧ ∀ c, s.phase c = .readingMarker ∧ s.attempted c = false ∧ s.acquired c = false)
    (fun s l => step config s l.1 l.2)

def Admissible (past : List (Event Cycle)) : Event Cycle → Prop
  | .ownerClaimed _ => True
  | .markerClaimed c => .ownerClaimed c ∈ past
  | .refused c => .forwarded c ∉ past
  | .forwarded c => .ownerClaimed c ∈ past ∧ .markerClaimed c ∈ past ∧ .refused c ∉ past

def Ordered : List (Event Cycle) → Prop
  | [] => True
  | e :: past => Admissible past e ∧ Ordered past

def Event.cycle : Event Cycle → Cycle
  | .ownerClaimed c | .markerClaimed c | .refused c | .forwarded c => c

def Phase.claiming (p : Phase) : Prop := p = .claimingOwner ∨ p = .claimingMarker

structure Standing (config : Cycle → CycleConfig) (s : State Cycle) (c : Cycle) : Prop where
  claimed : .markerClaimed c ∈ s.trace ↔ s.acquired c = true
  marked : s.acquired c = true → s.markers (config c).executionMarkerKey = true
  owned : s.acquired c = true ∨ s.phase c = .claimingMarker → .ownerClaimed c ∈ s.trace
  attempted : s.acquired c = true ∨ (s.phase c).claiming → s.attempted c = true
  refused : .refused c ∈ s.trace → s.attempted c = true ∧ s.acquired c = false ∧ ¬ (s.phase c).claiming
  claiming : (s.phase c).claiming → s.acquired c = false
  granted : s.phase c = .granted → s.acquired c = true
  forwarded : .forwarded c ∈ s.trace → s.acquired c = true

variable {config : Cycle → CycleConfig} {s t : State Cycle} {c d : Cycle} {a : Action}

attribute [local simp] State.goto State.emit State.attempt State.acquire State.setMarker State.setOwner
  State.refuse Phase.claiming

lemma Standing.moved (h : Standing config s c) {p : Phase} (hp : ¬ p.claiming)
    (hg : p = .granted → s.acquired c = true) : Standing config (s.goto c p) c := by
  obtain ⟨hc, hm, ho, ha, hr, hn, _, hf⟩ := h
  refine ⟨hc, hm, fun hx => ho ?_, fun hx => ha ?_, fun hx => ?_, fun hx => ?_, fun hx => hg ?_, hf⟩
  · rcases hx with hx | hx
    · exact Or.inl hx
    · exact absurd (Or.inr (by simpa using hx)) hp
  · rcases hx with hx | hx
    · exact Or.inl hx
    · exact absurd (by simpa using hx) hp
  · exact ⟨(hr hx).1, (hr hx).2.1, by simpa using hp⟩
  · exact absurd (by simpa using hx) hp
  · simpa using hx

lemma Standing.refuse (h : Standing config s c) (ha : s.attempted c = true) (hn : s.acquired c = false) :
    Standing config (s.refuse c) c := by
  obtain ⟨hc, hm, ho, _, hr, _, _, hf⟩ := h
  constructor <;> simp_all

omit [DecidableEq Cycle] in
lemma Standing.setMarker (h : Standing config s d) (key : String) : Standing config (s.setMarker key) d where
  claimed := h.claimed
  marked hx := by
    by_cases hk : (config d).executionMarkerKey = key <;> simp [hk, h.marked hx]
  owned := h.owned
  attempted := h.attempted
  refused := h.refused
  claiming := h.claiming
  granted := h.granted
  forwarded := h.forwarded

omit [DecidableEq Cycle] in
lemma Standing.setOwner (h : Standing config s d) (account owner : String) :
    Standing config (s.setOwner account owner) d :=
  ⟨h.claimed, h.marked, h.owned, h.attempted, h.refused, h.claiming, h.granted, h.forwarded⟩

lemma Standing.first_attempt (h : Standing config s c) (ha : s.attempted c = false) :
    Standing config ((s.attempt c).goto c .claimingOwner) c ∧ Standing config ((s.attempt c).refuse c) c := by
  obtain ⟨hc, hm, ho, hat, hr, hn, _, hf⟩ := h
  have hq : s.acquired c = false := by
    by_contra hq
    simp [hat (Or.inl (by simpa using hq))] at ha
  constructor <;> constructor <;> simp_all

lemma Standing.owner_claimed (h : Standing config s c) (hp : s.phase c = .claimingOwner) :
    Standing config ((s.emit (.ownerClaimed c)).goto c .claimingMarker) c := by
  obtain ⟨hc, hm, ho, ha, hr, hn, _, hf⟩ := h
  constructor <;> simp_all

lemma Standing.marker_claimed (h : Standing config s c) (hp : s.phase c = .claimingMarker) :
    Standing config ((((s.setMarker (config c).executionMarkerKey).acquire c).emit (.markerClaimed c)).goto c
      .granted) c := by
  obtain ⟨hc, hm, ho, ha, hr, hn, _, hf⟩ := h
  constructor <;> simp_all

lemma Standing.delegated (h : Standing config s c) (hp : s.phase c = .granted) :
    Standing config ((s.emit (.forwarded c)).goto c .executing) c := by
  obtain ⟨hc, hm, ho, ha, hr, hn, _, hf⟩ := h
  constructor <;> simp_all

omit [DecidableEq Cycle] in
lemma Standing.frame (h : Standing config s d) (hp : t.phase d = s.phase d)
    (ha : t.attempted d = s.attempted d) (hq : t.acquired d = s.acquired d)
    (hm : ∀ key, s.markers key = true → t.markers key = true)
    (ht : ∀ e : Event Cycle, e.cycle = d → (e ∈ t.trace ↔ e ∈ s.trace)) : Standing config t d := by
  obtain ⟨hc, hmk, ho, hat, hr, hn, hg, hf⟩ := h
  constructor <;> simp_all [Event.cycle]

structure Effect (config : Cycle → CycleConfig) (s t : State Cycle) (c : Cycle) : Prop where
  self : Standing config s c → Standing config t c
  others : ∀ d, d ≠ c →
    t.phase d = s.phase d ∧ t.attempted d = s.attempted d ∧ t.acquired d = s.acquired d
  markers : ∀ key, s.markers key = true → t.markers key = true
  trace : t.trace = s.trace ∨ ∃ e : Event Cycle, e.cycle = c ∧ t.trace = e :: s.trace ∧
    (Standing config s c → Admissible s.trace e) ∧
    (e = .markerClaimed c → s.markers (config c).executionMarkerKey = false)

lemma effect_moved {p : Phase} (hp : ¬ p.claiming) (hg : p = .granted → s.acquired c = true) :
    Effect config s (s.goto c p) c where
  self h := h.moved hp hg
  others d hd := by simp [hd]
  markers key hk := hk
  trace := Or.inl rfl

lemma effect_refused (hn : Standing config s c → s.attempted c = true ∧ s.acquired c = false) :
    Effect config s (s.refuse c) c where
  self h := h.refuse (hn h).1 (hn h).2
  others d hd := by simp [hd]
  markers key hk := hk
  trace := Or.inr ⟨.refused c, rfl, rfl, fun h hf => by simpa [(hn h).2] using h.forwarded hf, by simp⟩

omit [DecidableEq Cycle] in
lemma setMarker_keeps {key : String} (k : String) (h : s.markers k = true) :
    (s.setMarker key).markers k = true := by
  by_cases hk : k = key <;> simp [hk, h]

omit [DecidableEq Cycle] in
lemma Effect.after_setMarker (key : String) (h : Effect config (s.setMarker key) t c)
    (hq : ∀ e, t.trace = e :: s.trace → e ≠ .markerClaimed c) : Effect config s t c where
  self hs := h.self (hs.setMarker key)
  others := h.others
  markers k hk := h.markers k (setMarker_keeps k hk)
  trace := by
    rcases h.trace with ht | ⟨e, hc, ht, ha, _⟩
    · exact Or.inl ht
    · exact Or.inr ⟨e, hc, ht, fun hs => ha (hs.setMarker key), fun he => absurd he (hq e ht)⟩

omit [DecidableEq Cycle] in
lemma Effect.after_setOwner (account owner : String) (h : Effect config (s.setOwner account owner) t c) :
    Effect config s t c where
  self hs := h.self (hs.setOwner account owner)
  others := h.others
  markers := h.markers
  trace := by
    rcases h.trace with ht | ⟨e, hc, ht, ha, hm⟩
    · exact Or.inl ht
    · exact Or.inr ⟨e, hc, ht, fun hs => ha (hs.setOwner account owner), hm⟩

lemma acquire_effect (hp : s.phase c = .bound) (h : step config s c .acquireExecutionClaim = some t) :
    Effect config s t c := by
  simp only [step, hp, Option.some.injEq] at h
  split_ifs at h with ha hq hc <;> subst h
  · exact effect_moved (by simp) (fun _ => hq)
  · exact effect_refused fun _ => ⟨ha, by simpa using hq⟩
  · refine ⟨fun h => (h.first_attempt (by simpa using ha)).1, fun d hd => by simp [hd], fun _ hk => hk, Or.inl rfl⟩
  · refine ⟨fun h => (h.first_attempt (by simpa using ha)).2, fun d hd => by simp [hd], fun _ hk => hk, Or.inr ?_⟩
    refine ⟨.refused c, rfl, rfl, fun h hf => ?_, by simp⟩
    simp [h.attempted (Or.inl (h.forwarded hf))] at ha

lemma claimAccountOwner_effect (hp : s.phase c = .claimingOwner) {delivery : Delivery}
    (h : step config s c (.claimAccountOwner delivery) = some t) : Effect config s t c := by
  have hn (h : Standing config s c) : s.attempted c = true ∧ s.acquired c = false :=
    ⟨h.attempted (Or.inr (Or.inl hp)), h.claiming (Or.inl hp)⟩
  simp only [step, hp] at h
  cases delivery with
  | lost =>
    obtain rfl := Option.some.inj h
    exact effect_refused hn
  | unacknowledged =>
    obtain rfl := Option.some.inj h
    split_ifs
    · refine Effect.after_setOwner (config c).accountId (config c).ownerId ?_
      exact effect_refused fun h => ⟨h.attempted (Or.inr (Or.inl hp)), h.claiming (Or.inl hp)⟩
    · exact effect_refused hn
  | acknowledged =>
    simp only [Option.some.injEq] at h
    split_ifs at h <;> subst h
    · refine Effect.after_setOwner (config c).accountId (config c).ownerId ?_
      exact ⟨fun h => h.owner_claimed hp, fun d hd => by simp [hd], fun _ hk => hk,
        Or.inr ⟨.ownerClaimed c, rfl, rfl, fun _ => trivial, by simp⟩⟩
    · exact effect_refused hn

lemma claimMarker_effect (hp : s.phase c = .claimingMarker) {delivery : Delivery}
    (h : step config s c (.claimMarker delivery) = some t) : Effect config s t c := by
  have hn (h : Standing config s c) : s.attempted c = true ∧ s.acquired c = false :=
    ⟨h.attempted (Or.inr (Or.inr hp)), h.claiming (Or.inr hp)⟩
  simp only [step, hp] at h
  cases delivery with
  | lost =>
    obtain rfl := Option.some.inj h
    exact effect_refused hn
  | unacknowledged =>
    obtain rfl := Option.some.inj h
    refine Effect.after_setMarker (config c).executionMarkerKey ?_ ?_
    · exact effect_refused fun h => ⟨h.attempted (Or.inr (Or.inr hp)), h.claiming (Or.inr hp)⟩
    · intro e he
      obtain rfl : Event.refused c = e := by simpa using he
      simp
  | acknowledged =>
    simp only [Option.some.injEq] at h
    split_ifs at h with hk <;> subst h
    · exact effect_refused hn
    · refine ⟨fun h => h.marker_claimed hp, fun d hd => by simp [hd], fun k => setMarker_keeps k, Or.inr ?_⟩
      exact ⟨.markerClaimed c, rfl, rfl, fun h => h.owned (Or.inr hp), fun _ => by simpa using hk⟩

lemma delegateSubmit_effect (hp : s.phase c = .granted) {admitted : Bool}
    (h : step config s c (.delegateSubmit admitted) = some t) : Effect config s t c := by
  simp only [step, hp, Option.some.injEq] at h
  split_ifs at h <;> subst h
  · refine ⟨fun h => h.delegated hp, fun d hd => by simp [hd], fun _ hk => hk, Or.inr ?_⟩
    refine ⟨.forwarded c, rfl, rfl, fun h => ?_, by simp⟩
    have hq := h.granted hp
    refine ⟨h.owned (Or.inl hq), h.claimed.mpr hq, fun hr => ?_⟩
    simp [(h.refused hr).2.1] at hq
  · exact effect_moved (by simp) (by simp)

lemma step_effect (h : step config s c a = some t) : Effect config s t c := by
  have hstep := h
  unfold step at h
  split at h
  case h_1 =>
    obtain rfl := Option.some.inj h
    split_ifs <;> exact effect_moved (by simp) (by simp)
  case h_2 =>
    obtain rfl := Option.some.inj h
    split_ifs <;> exact effect_moved (by simp) (by simp)
  case h_3 =>
    obtain rfl := Option.some.inj h
    split_ifs
    · exact effect_moved (by simp) (by simp)
    · exact ⟨id, fun _ _ => ⟨rfl, rfl, rfl⟩, fun _ hk => hk, Or.inl rfl⟩
  case h_4 hp => exact acquire_effect hp hstep
  case h_5 hp => exact claimAccountOwner_effect hp hstep
  case h_6 hp => exact claimMarker_effect hp hstep
  case h_7 hp => exact delegateSubmit_effect hp hstep
  case h_8 =>
    obtain rfl := Option.some.inj h
    refine Effect.after_setMarker (config c).executionMarkerKey (effect_moved (by simp) (by simp)) ?_
    intro e he
    exact absurd he.symm (List.cons_ne_self e _)
  case h_9 =>
    obtain rfl := Option.some.inj h
    exact effect_moved (by simp) (by simp)
  case h_10 => cases h

structure Claimed (config : Cycle → CycleConfig) (s : State Cycle) : Prop where
  standing : ∀ c, Standing config s c
  ordered : Ordered s.trace
  unique : ∀ c d, .markerClaimed c ∈ s.trace → .markerClaimed d ∈ s.trace →
    (config c).executionMarkerKey = (config d).executionMarkerKey → c = d

lemma step_claimed (hs : Claimed config s) (h : step config s c a = some t) : Claimed config t := by
  have he := step_effect h
  have hmem (d : Cycle) (hd : d ≠ c) (e : Event Cycle) (hc : e.cycle = d) : e ∈ t.trace ↔ e ∈ s.trace := by
    rcases he.trace with ht | ⟨e', hc', ht, _⟩
    · rw [ht]
    · have hne : e ≠ e' := fun h => hd (by rw [← hc, h, hc'])
      simp [ht, hne]
  refine ⟨fun d => ?_, ?_, ?_⟩
  · by_cases hd : d = c
    · exact hd ▸ he.self (hs.standing c)
    · obtain ⟨hp, ha, hq⟩ := he.others d hd
      exact (hs.standing d).frame hp ha hq he.markers (hmem d hd)
  · rcases he.trace with ht | ⟨e, _, ht, had, _⟩
    · exact ht ▸ hs.ordered
    · exact ht ▸ ⟨had (hs.standing c), hs.ordered⟩
  · rcases he.trace with ht | ⟨e, hc, ht, _, hfree⟩
    · exact ht ▸ hs.unique
    · -- a marker that another cycle has claimed is set, so this step cannot have claimed it again
      have hnew (d : Cycle) (hd : .markerClaimed d ∈ s.trace) (hk : (config d).executionMarkerKey =
          (config c).executionMarkerKey) : e ≠ .markerClaimed c := by
        intro hce
        have hm := (hs.standing d).marked ((hs.standing d).claimed.mp hd)
        rw [hk, hfree hce] at hm
        cases hm
      intro d d' hd hd' hk
      rw [ht, List.mem_cons] at hd hd'
      rcases hd with hd | hd <;> rcases hd' with hd' | hd'
      · exact Event.markerClaimed.inj (hd.trans hd'.symm)
      · obtain rfl : d = c := by rw [← hc, ← hd]; rfl
        exact absurd hd.symm (hnew d' hd' hk.symm)
      · obtain rfl : d' = c := by rw [← hc, ← hd']; rfl
        exact absurd hd'.symm (hnew d hd hk)
      · exact hs.unique d d' hd hd' hk

lemma claimed_of_reachable (h : (system config).Reachable s) : Claimed config s := by
  refine h.invariant (I := Claimed config) ?_ fun s l t hs hn => step_claimed hs hn
  rintro s ⟨ht, hc⟩
  refine ⟨fun c => ?_, by simp [ht, Ordered], by simp [ht]⟩
  obtain ⟨hp, ha, hq⟩ := hc c
  constructor <;> simp [ht, hp, hq]

omit [DecidableEq Cycle] in
lemma Ordered.split {later earlier : List (Event Cycle)} {e : Event Cycle}
    (h : Ordered (later ++ e :: earlier)) : Admissible earlier e := by
  induction later with
  | nil => exact h.1
  | cons e' later ih => exact ih h.2

theorem one_cycle_forwards (config : Cycle → CycleConfig) (s : State Cycle)
    (h : (system config).Reachable s) :
    (∀ c d, .forwarded c ∈ s.trace → .forwarded d ∈ s.trace →
      (config c).executionMarkerKey = (config d).executionMarkerKey → c = d) ∧
    (∀ later earlier c, s.trace = later ++ .forwarded c :: earlier →
      .ownerClaimed c ∈ earlier ∧ .markerClaimed c ∈ earlier) ∧
    ∀ later earlier c, s.trace = later ++ .refused c :: earlier → .forwarded c ∉ later := by
  have hs := claimed_of_reachable h
  refine ⟨fun c d hc hd hk => ?_, fun later earlier c ht => ?_, fun later earlier c ht hf => ?_⟩
  · exact hs.unique c d ((hs.standing c).claimed.mpr ((hs.standing c).forwarded hc))
      ((hs.standing d).claimed.mpr ((hs.standing d).forwarded hd)) hk
  · obtain ⟨ho, hm, _⟩ := (ht ▸ hs.ordered).split
    exact ⟨ho, hm⟩
  · have hq := (hs.standing c).forwarded (by rw [ht]; exact List.mem_append_left _ hf)
    have hr := ((hs.standing c).refused (by rw [ht]; simp)).2.1
    simp [hr] at hq

def config₀ : Bool → CycleConfig := fun _ => ⟨false, true, "2026-11-03", true, "U1", "tqqq"⟩

def start₀ : State Bool :=
  ⟨fun _ => false, fun _ => none, fun _ => .readingMarker, fun _ => false, fun _ => false, []⟩

def race : List (Bool × Action) :=
  [(true, .hasMarker none), (false, .hasMarker none), (true, .hasPriorExecutionReport none),
    (false, .hasPriorExecutionReport none), (true, .submitClaimedOrder true), (false, .submitClaimedOrder true),
    (true, .acquireExecutionClaim), (false, .acquireExecutionClaim), (true, .claimAccountOwner .acknowledged),
    (false, .claimAccountOwner .acknowledged), (true, .claimMarker .acknowledged),
    (false, .claimMarker .acknowledged), (true, .delegateSubmit true), (false, .submitClaimedOrder true),
    (false, .acquireExecutionClaim)]

def raced : State Bool := (System.execute (fun s l => step config₀ s l.1 l.2) start₀ race).getD start₀

theorem race_forwards_once : .forwarded true ∈ raced.trace ∧ .forwarded false ∉ raced.trace := by
  have hr : (system config₀).Reachable raced :=
    ⟨start₀, race, ⟨rfl, fun _ => ⟨rfl, rfl, rfl⟩⟩, System.run_of_execute rfl⟩
  have ht : .forwarded true ∈ raced.trace := by decide
  refine ⟨ht, fun hf => ?_⟩
  exact absurd ((one_cycle_forwards config₀ raced hr).1 true false ht hf rfl) (by decide)

end IbkrPlatform.Execution.ExecutionClaim
