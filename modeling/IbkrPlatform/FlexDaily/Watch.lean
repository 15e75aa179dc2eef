import Mathlib.Data.List.Sort
import Mathlib.Data.String.Basic
import Mathlib.Tactic.Positivity
import IbkrPlatform.FlexDaily.LeaseFencing

/-! Concurrent watch runs: each claims a notification before it sends one, and records afterwards what became of it. -/

namespace IbkrPlatform.FlexDaily.Watch

open Library LeaseFencing
open Calendar (minutes hours dayOf)

def seconds (n : ℕ) : Instant := n * 1000000

structure Status where
  lastFinishedAt : Option Instant
  fieldIssueCount : ℤ
  residualNonzero : Bool
  blocked : Option String
  oldestGap : Option ℤ
  missingAccountDays : Option ℤ
  tokenExpiresAt : Option Instant

inductive DeliveryState
  | inFlight
  | sent
  | blocked
  | unknown
  | rateLimited
deriving DecidableEq

structure Notice where
  incident : Option String
  reasons : List String
  attemptedAt : Instant
  delivery : DeliveryState
  missingAccountDays : Option ℤ
  retryAt : Option Instant
deriving DecidableEq

inductive Outcome
  | sent (messageId : ℤ)
  | blocked
  | unknown
  | rateLimited (retryAfter : ℕ)
deriving DecidableEq

/-- What the notification service answers; `none` is a failed request or a body that is not JSON. -/
structure Response where
  statusCode : ℕ
  retryAfter : Option ℤ
  ok : Bool
  messageId : Option ℤ

def send : Option Response → Outcome
  | none => .unknown
  | some response =>
    if response.statusCode = 401 ∨ response.statusCode = 403 then .blocked
    else if response.statusCode = 429 then
      match response.retryAfter with
      | some delay => .rateLimited (if 0 < delay then delay.toNat else 3600)
      | none => .rateLimited 3600
    else if response.statusCode ≠ 200 then .unknown
    else match response.ok, response.messageId with
      | true, some messageId => .sent messageId
      | _, _ => .unknown

section Events

def scheduled (now : Instant) : Instant :=
  let due := dayOf now * hours 24 + hours 10 + minutes 17
  if now < due + hours 2 then due - hours 24 else due

def expiryReason (status : Status) (now : Instant) : List String :=
  match status.tokenExpiresAt with
  | none => ["token_expiry_unqualified"]
  | some expiry =>
    if expiry - now ≤ hours 24 then ["token_expiry_1"]
    else if expiry - now ≤ 7 * hours 24 then ["token_expiry_7"]
    else if expiry - now ≤ 30 * hours 24 then ["token_expiry_30"] else []

def gapQueueIncreased (status : Status) (previous : Option Notice) : Bool :=
  let missing := status.missingAccountDays.getD 0
  let before := ((previous.bind Notice.missingAccountDays).getD 0)
  before < missing ∨ previous.any (fun p => "gap_queue_increased" ∈ p.reasons) ∧ before ≤ missing

def reason (condition : Bool) (name : String) : List String := if condition then [name] else []

def events (status : Status) (previous : Option Notice) (now : Instant) : List String :=
  (reason (status.lastFinishedAt.all fun finished => finished < scheduled now) "missed_run" ++
    reason (status.fieldIssueCount ≠ 0) "fields_missing" ++
    reason status.residualNonzero "reconciliation_difference" ++
    (match status.blocked with
      | none => []
      | some blocked =>
        if blocked = "" then []
        else if "ip_".toList.isPrefixOf blocked.toList then ["ip_restricted"] else ["authorization_or_configuration"]) ++
    reason (status.oldestGap.any fun gap => 2 < dayOf now - gap) "coverage_delayed" ++
    reason (gapQueueIncreased status previous) "gap_queue_increased" ++
    expiryReason status now).insertionSort (· ≤ ·)

end Events

section Decision

variable (incidentOf : List String → String)

def repeated (previous : Notice) (reasons : List String) (now : Instant) : Bool :=
  previous.incident = some (incidentOf reasons) ∧
    if reasons ≠ [] then now - previous.attemptedAt < hours 24 else dayOf now = dayOf previous.attemptedAt

def claimOf (status : Status) (previous : Option Notice) (now : Instant) : Option Notice :=
  let reasons := events status previous now
  if previous.any fun p => p.delivery = .blocked ∨ (p.retryAt.any fun t => now < t) ∨ repeated incidentOf p reasons now then none
  else some ⟨some (incidentOf reasons), reasons, now, .inFlight, status.missingAccountDays, none⟩

end Decision

/-- The record of what became of a claim; a rate limit erases the incident and keeps the time to wait for. -/
def Notice.update (claim : Notice) : Outcome → Notice
  | .sent _ => { claim with delivery := .sent }
  | .blocked => { claim with delivery := .blocked }
  | .unknown => { claim with delivery := .unknown }
  | .rateLimited retryAfter => { claim with
      delivery := .rateLimited
      retryAt := some (claim.attemptedAt + seconds retryAfter)
      incident := none }

inductive Phase
  | idle
  | leaseRead (now : Instant) (generation : ℕ)
  | leased (now : Instant) (lease : Lease)
  | statusRead (now : Instant) (lease : Lease) (status : Status)
  | claiming (now : Instant) (lease : Lease) (seen : Seen) (claim : Notice)
  | claimed (now : Instant) (lease : Lease) (seen : Seen) (claim : Notice)
  | checked (now : Instant) (lease : Lease) (seen : Seen) (claim : Notice)
  | answered (lease : Lease) (seen : Seen) (claim : Notice) (outcome : Outcome)
  | verified (lease : Lease) (seen : Seen) (claim : Notice) (outcome : Outcome)
  | releasing (lease : Lease)
  | ended

inductive Action
  | begin (now : Instant)
  | acquire (owner : String) (gap : ℕ) (delivery : Delivery)
  | readStatus (status : Status)
  | readPrevious
  | claim (gap : ℕ) (delivery : Delivery)
  | check
  | notify (outcome : Option Outcome)
  | recheck (now : Instant)
  | record (gap : ℕ) (delivery : Delivery)
  | fail
  | release (now : Instant) (gap : ℕ) (delivery : Delivery)
  | crash

structure Sent (I : Type) where
  run : I
  claim : Notice
  base : ℕ
  writes : ℕ

structure State (I : Type) where
  lease : VersionedCell LeaseValue I
  notices : VersionedCell Notice I
  clock : Instant
  phase : I → Phase
  sends : List (Sent I)

section Code

variable {I : Type} [DecidableEq I] (incidentOf : List String → String)

def State.goto (s : State I) (i : I) (p : Phase) : State I := { s with phase := Function.update s.phase i p }

def State.tick (s : State I) (now : Instant) : Option (State I) := if s.clock ≤ now then some { s with clock := now } else none

def Phase.lease? : Phase → Option Lease
  | .leased _ l | .statusRead _ l _ | .claiming _ l _ _ | .claimed _ l _ _ | .checked _ l _ _ | .answered l _ _ _
  | .verified l _ _ _ | .releasing l => some l
  | _ => none

def step (s : State I) (l : I × Action) : Option (State I) :=
  let i := l.1
  match s.phase i, l.2 with
  | .idle, .begin now => (s.tick now).map fun s =>
      s.goto i (if occupied s.lease now then .ended else .leaseRead now s.lease.generation)
  | .leaseRead now held, .acquire owner gap delivery =>
    let value := ⟨owner, now + minutes 31⟩
    let sent := s.lease.send delivery i value held gap
    some ({ s with lease := sent.1 }.goto i (if sent.2 then .leased now ⟨value, sent.1.generation⟩ else .ended))
  | .leased now lease, .readStatus status => some (s.goto i (.statusRead now lease status))
  | .statusRead now lease status, .readPrevious =>
    match claimOf incidentOf status s.notices.value now with
    | none => some (s.goto i (.releasing lease))
    | some claim => some (s.goto i (.claiming now lease (read s.notices) claim))
  | .claiming now lease seen claim, .claim gap delivery =>
    let sent := s.notices.send delivery i claim seen.generation gap
    some ({ s with notices := sent.1 }.goto i (if sent.2 then .claimed now lease (read sent.1) claim else .releasing lease))
  | .claimed now lease seen claim, .check =>
    some (s.goto i (if passes s.lease lease now then .checked now lease seen claim else .releasing lease))
  | .checked _ lease seen claim, .notify outcome =>
    let sent : State I := { s with sends := s.sends ++ [⟨i, claim, seen.count - 1, s.notices.writes⟩] }
    match outcome with
    | none => some (sent.goto i (.releasing lease))
    | some outcome => some (sent.goto i (.answered lease seen claim outcome))
  | .answered lease seen claim outcome, .recheck now => (s.tick now).map fun s =>
      s.goto i (if passes s.lease lease now then .verified lease seen claim outcome else .releasing lease)
  | .verified lease seen claim outcome, .record gap delivery =>
    let sent := s.notices.send delivery i (claim.update outcome) seen.generation gap
    some ({ s with notices := sent.1 }.goto i (.releasing lease))
  | .releasing lease, .release now gap delivery => (s.tick now).map fun s =>
      { s with lease := (s.lease.send delivery i { lease.value with expires := now } lease.generation gap).1 }.goto i .ended
  | p, .fail => p.lease?.map fun lease => s.goto i (.releasing lease)
  | _, .crash => some (s.goto i .ended)
  | _, _ => none

def watches : System (State I) (I × Action) :=
  .ofStep (fun s => s.lease = .absent ∧ s.notices = .absent ∧ (∀ i, s.phase i = .idle) ∧ s.sends = []) (step incidentOf)

def Phase.aboutToSend : Phase → Bool
  | .checked .. => true
  | _ => false

def Action.acquires : Action → Bool
  | .acquire .. => true
  | _ => false

def Undisturbed (s : State I) (l : I × Action) : Prop := l.2.acquires = true → ∀ i, i ≠ l.1 → (s.phase i).aboutToSend = false

end Code

section History

variable {I : Type} {c d : VersionedCell Notice I} {k : ℕ} {x : I × Notice}

def history (c : VersionedCell Notice I) : List (I × Notice) := (c.log.map fun w => (w.writer, w.value)).reverse

@[simp] lemma history_absent : history (.absent : VersionedCell Notice I) = [] := rfl

@[simp] lemma history_store {i : I} {v : Notice} {gap : ℕ} : history (c.store i v gap) = history c ++ [(i, v)] := by
  simp [history, VersionedCell.store]

lemma history_length : (history c).length = c.writes := by simp [history, VersionedCell.writes]

lemma history_value : c.value = (history c).getLast?.map Prod.snd := by
  simp [history, VersionedCell.value, List.getLast?_reverse, List.head?_map, Option.map_map, Function.comp_def]

lemma history_getElem_store {i : I} {v : Notice} {gap : ℕ} : (history (c.store i v gap))[k]? =
    if k = c.writes then some (i, v) else (history c)[k]? := by
  rw [history_store, List.getElem?_append, history_length]
  by_cases hk : k = c.writes
  · simp [hk]
  · by_cases hlt : k < c.writes
    · simp [hk, hlt]
    · have hle : c.writes < k := by omega
      have hnone : (history c)[k]? = none := List.getElem?_eq_none (by rw [history_length]; omega)
      rw [if_neg hlt, if_neg hk, hnone, List.getElem?_eq_none]
      simp only [List.length_singleton]
      omega

lemma history_mono {i : I} {v : Notice} {gap : ℕ} (h : (history c)[k]? = some x) : (history (c.store i v gap))[k]? = some x := by
  rw [history_getElem_store, if_neg, h]
  rintro rfl
  rw [List.getElem?_eq_none (by rw [history_length])] at h
  cases h

def Admits (previous claim : Notice) : Prop :=
  previous.delivery ≠ .blocked ∧ (∀ t ∈ previous.retryAt, t ≤ claim.attemptedAt) ∧
    (previous.incident = claim.incident → claim.reasons ≠ [] → previous.attemptedAt + hours 24 ≤ claim.attemptedAt)

structure IsClaim (claim : Notice) : Prop where
  delivery : claim.delivery = .inFlight
  incident : claim.incident ≠ none
  retryAt : claim.retryAt = none

def Follows (x y : I × Notice) : Prop :=
  (IsClaim y.2 ∧ Admits x.2 y.2) ∨ (y.1 = x.1 ∧ IsClaim x.2 ∧ ∃ outcome, y.2 = x.2.update outcome)

end History

section Invariant

variable {I : Type}

lemma history_getElem {c d : VersionedCell Notice I} (h : c.Extends d) {k : ℕ} (hk : k < c.writes) :
    (history d)[k]? = (history c)[k]? := by
  obtain ⟨later, hlater⟩ := h
  have hd : history d = history c ++ (later.map fun w => (w.writer, w.value)).reverse := by
    simp [history, ← hlater]
  rw [hd, List.getElem?_append_left (by rwa [history_length])]

lemma history_lt {c : VersionedCell Notice I} {k : ℕ} {x : I × Notice} (h : (history c)[k]? = some x) : k < c.writes := by
  obtain ⟨hk, _⟩ := List.getElem?_eq_some_iff.mp h
  rwa [history_length] at hk

lemma wrote_le {V W : Type} {c : VersionedCell V W} {writer : W} {generation : ℕ} (h : c.Wrote writer generation) :
    generation ≤ c.generation := by
  obtain ⟨w, hw, _, rfl⟩ := h
  exact c.chained.generation_le hw

def Current (s : State I) (l : Lease) : Prop := s.lease.generation = l.generation

structure Holds (s : State I) (peak : Instant) (i : I) (now : Instant) (l : Lease) : Prop where
  time : now ≤ peak
  wrote : s.lease.Wrote i l.generation
  current : Current s l → now = peak

structure Reads (s : State I) (now : Instant) (l : Lease) (seen : Seen) (claim : Notice) : Prop where
  held : s.notices.Held seen.generation seen.count
  valid : IsClaim claim
  clock : claim.attemptedAt = now
  admits : ∀ k x, seen.count = k + 1 → (history s.notices)[k]? = some x → Admits x.2 claim
  sends : Current s l → ∀ x ∈ s.sends, x.base < seen.count

structure Owns (s : State I) (i : I) (seen : Seen) (claim : Notice) : Prop where
  held : s.notices.Held seen.generation seen.count
  valid : IsClaim claim
  place : ∃ b, seen.count = b + 1 ∧ (history s.notices)[b]? = some (i, claim)

structure Claimed (s : State I) (i : I) (now : Instant) (l : Lease) (seen : Seen) (claim : Notice) : Prop where
  owns : Owns s i seen claim
  clock : claim.attemptedAt = now
  sends : Current s l → ∀ x ∈ s.sends, x.base + 1 < seen.count

def Answered (s : State I) (i : I) (l : Lease) (seen : Seen) (claim : Notice) : Prop :=
  s.lease.Wrote i l.generation ∧ Owns s i seen claim ∧ ∃ x ∈ s.sends, x.run = i ∧ x.claim = claim ∧ x.base + 1 = seen.count

def Phase.Good (s : State I) (peak : Instant) (i : I) : Phase → Prop
  | .leaseRead now held => held ≤ s.lease.generation ∧ now ≤ s.clock ∧ (s.lease.generation = held → peak ≤ now)
  | .leased now l => Holds s peak i now l
  | .statusRead now l _ => Holds s peak i now l
  | .claiming now l seen claim => Holds s peak i now l ∧ Reads s now l seen claim
  | .claimed now l seen claim => Holds s peak i now l ∧ Claimed s i now l seen claim
  | .checked now l seen claim => Holds s peak i now l ∧ Claimed s i now l seen claim ∧ Current s l
  | .answered l seen claim _ => Answered s i l seen claim
  | .verified l seen claim _ => Answered s i l seen claim
  | .releasing l => s.lease.Wrote i l.generation
  | _ => True

structure SentSound (c : VersionedCell Notice I) (x : Sent I) : Prop where
  base : x.base < x.writes
  writes : x.writes ≤ c.writes
  place : (history c)[x.base]? = some (x.run, x.claim)
  valid : IsClaim x.claim
  clock : ∀ k y, k < x.writes → (history c)[k]? = some y → y.2.attemptedAt ≤ x.claim.attemptedAt

def Recorded (sends : List (Sent I)) (k : ℕ) (y : I × Notice) : Prop :=
  ∃ x ∈ sends, x.run = y.1 ∧ x.base + 1 = k ∧ x.writes ≤ k ∧ ∃ outcome, y.2 = x.claim.update outcome

structure Sound (peak : Instant) (s : State I) : Prop where
  clock : peak ≤ s.clock
  times : ∀ (k : ℕ) (x : I × Notice), (history s.notices)[k]? = some x → x.2.attemptedAt ≤ peak
  chain : ∀ k x y, (history s.notices)[k]? = some x → (history s.notices)[k + 1]? = some y → Follows x y
  sends : ∀ x ∈ s.sends, SentSound s.notices x
  ordered : s.sends.Pairwise fun x y => x.base < y.base ∧ x.writes ≤ y.writes
  records : ∀ k y, (history s.notices)[k]? = some y → IsClaim y.2 ∨ Recorded s.sends k y
  phases : ∀ i, (s.phase i).Good s peak i

variable {s t : State I} {peak peak' : Instant} {i : I} {p : Phase}

structure Elsewhere (s t : State I) (peak peak' : Instant) (i : I) (p : Phase) : Prop where
  lease : s.lease.Extends t.lease
  notices : s.notices.Extends t.notices
  clock : s.clock ≤ t.clock
  later : peak ≤ peak'
  same : ∀ generation, generation ≤ s.lease.generation → t.lease.generation = generation →
    s.lease.generation = generation ∧ peak' = peak
  sends : ∀ x ∈ s.sends, x ∈ t.sends
  quiet : ∀ l, p.lease? = some l → s.lease.Wrote i l.generation → Current t l → ∀ x ∈ t.sends, x ∈ s.sends
  kept : p.aboutToSend = true → ∀ l, p.lease? = some l → Current s l → Current t l

lemma Holds.mono {now : Instant} {l : Lease} (h : Holds s peak i now l) (he : Elsewhere s t peak peak' i p) :
    Holds t peak' i now l where
  time := h.time.trans he.later
  wrote := h.wrote.extend he.lease
  current hc := by
    obtain ⟨hs, hpeak⟩ := he.same _ (wrote_le h.wrote) hc
    exact (h.current hs).trans hpeak.symm

lemma Holds.congr {now : Instant} {l : Lease} (h : Holds s peak i now l) (hl : t.lease = s.lease) : Holds t peak i now l where
  time := h.time
  wrote := hl ▸ h.wrote
  current hcur := h.current (by rwa [Current, hl] at hcur)

lemma Owns.mono {seen : Seen} {claim : Notice} (h : Owns s i seen claim) (hn : s.notices.Extends t.notices) : Owns t i seen claim where
  held := h.held.extend hn
  valid := h.valid
  place := by
    obtain ⟨b, hb, hplace⟩ := h.place
    exact ⟨b, hb, (history_getElem hn (history_lt hplace)).trans hplace⟩

lemma Answered.mono {l : Lease} {seen : Seen} {claim : Notice} (h : Answered s i l seen claim)
    (he : Elsewhere s t peak peak' i p) : Answered t i l seen claim := by
  obtain ⟨hwrote, howns, x, hx, hsent⟩ := h
  exact ⟨hwrote.extend he.lease, howns.mono he.notices, x, he.sends x hx, hsent⟩

lemma Phase.Good.mono (h : p.Good s peak i) (he : Elsewhere s t peak peak' i p) : p.Good t peak' i := by
  have hback : ∀ l, s.lease.Wrote i l.generation → Current t l → Current s l := fun l hw hc => (he.same _ (wrote_le hw) hc).1
  have hclaimed : ∀ {now l seen claim}, p.lease? = some l → Holds s peak i now l → Claimed s i now l seen claim →
      Claimed t i now l seen claim := fun hl hh hc =>
    ⟨hc.owns.mono he.notices, hc.clock, fun hcur x hx => hc.sends (hback _ hh.wrote hcur) x (he.quiet _ hl hh.wrote hcur x hx)⟩
  cases p with
  | leaseRead now held =>
    obtain ⟨hle, hclock, hpeak⟩ := h
    refine ⟨?_, hclock.trans he.clock, fun hg => ?_⟩
    · exact hle.trans he.lease.generation_le
    · obtain ⟨hs, hl⟩ := he.same _ hle hg
      exact hl ▸ hpeak hs
  | leased now l => exact Holds.mono h he
  | statusRead now l status => exact Holds.mono h he
  | claiming now l seen claim =>
    obtain ⟨hh, hr⟩ := h
    refine ⟨hh.mono he, hr.held.extend he.notices, hr.valid, hr.clock, fun k x hk hx => ?_, fun hcur x hx => ?_⟩
    · have hlt : k < s.notices.writes := by
        have hle := hr.held.1
        omega
      exact hr.admits k x hk ((history_getElem he.notices hlt).symm.trans hx)
    · exact hr.sends (hback _ hh.wrote hcur) x (he.quiet l rfl hh.wrote hcur x hx)
  | claimed now l seen claim =>
    obtain ⟨hh, hc⟩ := h
    exact ⟨hh.mono he, hclaimed rfl hh hc⟩
  | checked now l seen claim =>
    obtain ⟨hh, hc, hcur⟩ := h
    exact ⟨hh.mono he, hclaimed rfl hh hc, he.kept rfl l rfl hcur⟩
  | answered l seen claim outcome => exact Answered.mono h he
  | verified l seen claim outcome => exact Answered.mono h he
  | releasing l => exact VersionedCell.Wrote.extend h he.lease
  | idle => trivial
  | ended => trivial

lemma Elsewhere.of_eq (hl : t.lease = s.lease) (hn : t.notices = s.notices) (hs : t.sends = s.sends) (hc : s.clock ≤ t.clock) :
    Elsewhere s t peak peak i p where
  lease := hl ▸ .refl
  notices := hn ▸ .refl
  clock := hc
  later := le_rfl
  same _ _ hg := ⟨hl ▸ hg, rfl⟩
  sends x hx := hs ▸ hx
  quiet _ _ _ _ x hx := hs ▸ hx
  kept _ l _ hcur := by rwa [Current, hl]

variable [DecidableEq I]

lemma phases_update {j : I} (hphase : t.phase = Function.update s.phase i p) (hi : p.Good t peak' i)
    (hother : ∀ j, j ≠ i → (s.phase j).Good t peak' j) : (t.phase j).Good t peak' j := by
  rw [hphase]
  by_cases hj : j = i
  · subst hj
    rwa [Function.update_self]
  · rw [Function.update_of_ne hj]
    exact hother j hj

lemma Sound.goto (h : Sound peak s) (hl : t.lease = s.lease) (hn : t.notices = s.notices) (hs : t.sends = s.sends)
    (hc : s.clock ≤ t.clock) (hphase : t.phase = Function.update s.phase i p) (hp : p.Good t peak i) : Sound peak t where
  clock := h.clock.trans hc
  times := hn ▸ h.times
  chain := hn ▸ h.chain
  sends := hs ▸ hn ▸ h.sends
  ordered := hs ▸ h.ordered
  records := hs ▸ hn ▸ h.records
  phases _ := phases_update hphase hp fun j _ => (h.phases j).mono (.of_eq hl hn hs hc)

omit [DecidableEq I] in
lemma store_generation {V W : Type} (c : VersionedCell V W) (w : W) (v : V) (gap : ℕ) : c.generation < (c.store w v gap).generation := by
  change c.generation < c.generation + gap + 1
  omega

lemma Sound.storeLease (h : Sound peak s) {value : LeaseValue} {gap : ℕ} (hl : t.lease = s.lease.store i value gap)
    (hn : t.notices = s.notices) (hs : t.sends = s.sends) (hc : s.clock ≤ t.clock) (hpeak : peak ≤ peak') (hlast : peak' ≤ t.clock)
    (hnone : ∀ j, j ≠ i → (s.phase j).aboutToSend = false) (hphase : t.phase = Function.update s.phase i p)
    (hp : p.Good t peak' i) : Sound peak' t where
  clock := hlast
  times k x hx := (h.times k x (hn ▸ hx)).trans hpeak
  chain := hn ▸ h.chain
  sends := hs ▸ hn ▸ h.sends
  ordered := hs ▸ h.ordered
  records := hs ▸ hn ▸ h.records
  phases _ := by
    have hnew : s.lease.generation < t.lease.generation := hl ▸ store_generation _ _ _ _
    refine phases_update hphase hp fun j hj => (h.phases j).mono ⟨hl ▸ VersionedCell.extends_store, hn ▸ .refl, hc, hpeak,
      fun g hle hg => ?_, fun x hx => hs ▸ hx, fun l _ hw hcur => ?_, fun hsend => ?_⟩
    · omega
    · have hle := wrote_le hw
      rw [Current] at hcur
      omega
    · rw [hnone j hj] at hsend
      cases hsend

lemma Sound.storeNotice (h : Sound peak s) {v : Notice} {gap : ℕ} (hn : t.notices = s.notices.store i v gap)
    (hl : t.lease = s.lease) (hs : t.sends = s.sends) (hc : t.clock = s.clock) (hv : v.attemptedAt ≤ peak)
    (hchain : ∀ k x, s.notices.writes = k + 1 → (history s.notices)[k]? = some x → Follows x (i, v))
    (hrecord : IsClaim v ∨ Recorded s.sends s.notices.writes (i, v)) (hphase : t.phase = Function.update s.phase i p)
    (hp : p.Good t peak i) : Sound peak t := by
  have hget : ∀ k, (history t.notices)[k]? = if k = s.notices.writes then some (i, v) else (history s.notices)[k]? :=
    fun k => hn ▸ history_getElem_store
  refine ⟨hc ▸ h.clock, fun k x hx => ?_, fun k x y hx hy => ?_, fun x hx => ?_, hs ▸ h.ordered, fun k y hy => ?_, fun j => ?_⟩
  · rw [hget] at hx
    split at hx
    · exact Option.some.inj hx ▸ hv
    · exact h.times k x hx
  · rw [hget] at hx hy
    split at hy
    · rename_i hk
      rw [if_neg (by omega)] at hx
      obtain rfl := Option.some.inj hy
      exact hchain k x hk.symm hx
    · have hlt := history_lt hy
      rw [if_neg (by omega)] at hx
      exact h.chain k x y hx hy
  · have hsent := h.sends x (hs ▸ hx)
    have hwrites : s.notices.writes ≤ t.notices.writes := hn ▸ Nat.le_succ _
    refine ⟨hsent.base, hsent.writes.trans hwrites, ?_, hsent.valid, fun k y hk hy => ?_⟩
    · exact hn ▸ history_mono hsent.place
    · have hlt := hk.trans_le hsent.writes
      rw [hget, if_neg hlt.ne] at hy
      exact hsent.clock k y hk hy
  · rw [hget] at hy
    rw [hs]
    split at hy
    · rename_i hk
      obtain rfl := Option.some.inj hy
      exact hk ▸ hrecord
    · exact h.records k y hy
  · refine phases_update hphase hp fun j _ => (h.phases j).mono ⟨hl ▸ .refl, hn ▸ VersionedCell.extends_store, hc.ge, le_rfl,
      fun g _ hg => ⟨hl ▸ hg, rfl⟩, fun x hx => hs ▸ hx, fun l _ _ _ x hx => hs ▸ hx, fun _ l _ hcur => ?_⟩
    rwa [Current, hl]

lemma Sound.send (h : Sound peak s) {x : Sent I} (hl : t.lease = s.lease) (hn : t.notices = s.notices)
    (hs : t.sends = s.sends ++ [x]) (hc : t.clock = s.clock) (hx : SentSound s.notices x)
    (hlast : ∀ y ∈ s.sends, y.base < x.base ∧ y.writes ≤ x.writes) {l : Lease} (hw : s.lease.Wrote i l.generation) (hcur : Current s l)
    (hphase : t.phase = Function.update s.phase i p) (hp : p.Good t peak i) : Sound peak t := by
  have hmem : ∀ y ∈ s.sends, y ∈ t.sends := fun y hy => hs ▸ List.mem_append_left _ hy
  refine ⟨hc ▸ h.clock, hn ▸ h.times, hn ▸ h.chain, fun y hy => ?_, ?_, fun k y hy => ?_, fun j => ?_⟩
  · rw [hn]
    rw [hs] at hy
    rcases List.mem_append.mp hy with hy | hy
    · exact h.sends y hy
    · exact List.mem_singleton.mp hy ▸ hx
  · rw [hs, List.pairwise_append]
    refine ⟨h.ordered, List.pairwise_singleton _ _, fun y hy z hz => ?_⟩
    exact List.mem_singleton.mp hz ▸ hlast y hy
  · rcases h.records k y (hn ▸ hy) with hclaim | ⟨z, hz, hrest⟩
    · exact .inl hclaim
    · exact .inr ⟨z, hmem z hz, hrest⟩
  · refine phases_update hphase hp fun j hj => (h.phases j).mono ⟨hl ▸ .refl, hn ▸ .refl, hc.ge, le_rfl,
      fun g _ hg => ⟨hl ▸ hg, rfl⟩, hmem, fun l' _ hw' hcur' => ?_, fun _ l' _ hcur' => ?_⟩
    · -- The lease that is stored is the sender's own.
      rw [Current, hl] at hcur'
      exact absurd (Option.some.inj ((hw'.author hcur').symm.trans (hw.author hcur))) hj
    · rwa [Current, hl]

omit [DecidableEq I] in
lemma Phase.Good.wrote (h : p.Good s peak i) {l : Lease} (hl : p.lease? = some l) : s.lease.Wrote i l.generation := by
  cases p with
  | leased now l' => exact Option.some.inj hl ▸ Holds.wrote h
  | statusRead now l' status => exact Option.some.inj hl ▸ Holds.wrote h
  | claiming now l' seen claim => exact Option.some.inj hl ▸ h.1.wrote
  | claimed now l' seen claim => exact Option.some.inj hl ▸ h.1.wrote
  | checked now l' seen claim => exact Option.some.inj hl ▸ h.1.wrote
  | answered l' seen claim outcome => exact Option.some.inj hl ▸ h.1
  | verified l' seen claim outcome => exact Option.some.inj hl ▸ h.1
  | releasing l' => exact Option.some.inj hl ▸ h
  | idle => cases hl
  | leaseRead now held => cases hl
  | ended => cases hl

omit [DecidableEq I] in
lemma aboutToSend_false (h : Sound peak s) {j : I} {l : Lease} (hw : s.lease.Wrote i l.generation) (hcur : Current s l) (hj : j ≠ i) :
    (s.phase j).aboutToSend = false := by
  have hgood := h.phases j
  cases hp : s.phase j with
  | checked now l' seen claim =>
    rw [hp] at hgood
    obtain ⟨hholds, _, hcur'⟩ := hgood
    exact absurd (Option.some.inj ((hholds.wrote.author hcur').symm.trans (hw.author hcur))) hj
  | _ => rfl

omit [DecidableEq I] in
lemma tick_eq {now : Instant} {u : State I} (h : s.tick now = some u) : u = { s with clock := now } ∧ s.clock ≤ now := by
  unfold State.tick at h
  split at h
  · exact ⟨(Option.some.inj h).symm, ‹_›⟩
  · cases h

lemma claimOf_some {incidentOf : List String → String} {status : Status} {previous : Option Notice} {now : Instant} {claim : Notice}
    (h : claimOf incidentOf status previous now = some claim) :
    IsClaim claim ∧ claim.attemptedAt = now ∧ ∀ v ∈ previous, Admits v claim := by
  unfold claimOf at h
  dsimp only at h
  split at h
  · cases h
  · rename_i hfree
    obtain rfl := Option.some.inj h
    refine ⟨⟨rfl, by simp, rfl⟩, rfl, fun v hv => ?_⟩
    obtain rfl : previous = some v := hv
    simp only [Option.any_some, decide_eq_true_eq, not_or] at hfree
    obtain ⟨hblocked, hretry, hrepeated⟩ := hfree
    refine ⟨hblocked, fun t ht => ?_, fun hincident hreasons => ?_⟩
    · have hretryAt : v.retryAt = some t := ht
      rw [hretryAt] at hretry
      simpa using hretry
    · by_contra hlate
      have hsoon : now - v.attemptedAt < hours 24 := Int.sub_left_lt_of_lt_add (not_le.mp hlate)
      refine hrepeated (decide_eq_true ⟨hincident, ?_⟩)
      rw [if_pos hreasons]
      exact hsoon

@[simp] lemma update_attemptedAt (claim : Notice) (outcome : Outcome) : (claim.update outcome).attemptedAt = claim.attemptedAt := by
  cases outcome <;> rfl

omit [DecidableEq I] in
lemma value_of_last {c : VersionedCell Notice I} {k : ℕ} {x : I × Notice} (hk : c.writes = k + 1) (hx : (history c)[k]? = some x) :
    c.value = some x.2 := by
  rw [history_value, List.getLast?_eq_getElem?, history_length, hk, Nat.add_sub_cancel, hx]
  rfl

variable {incidentOf : List String → String}

lemma acquire_sound (h : Sound peak s) {now : Instant} {held gap : ℕ} {owner : String} {delivery : Delivery}
    (hphase : s.phase i = .leaseRead now held) (hnone : ∀ j, j ≠ i → (s.phase j).aboutToSend = false) :
    let sent := s.lease.send delivery i ⟨owner, now + minutes 31⟩ held gap
    ∃ peak', Sound peak' ({ s with lease := sent.1 }.goto i
      (if sent.2 then .leased now ⟨⟨owner, now + minutes 31⟩, sent.1.generation⟩ else .ended)) := by
  intro sent
  have hread := h.phases i
  rw [hphase] at hread
  obtain ⟨_, hclock, hlast⟩ := hread
  rcases VersionedCell.send_stored delivery s.lease i ⟨owner, now + minutes 31⟩ held gap with hs | ⟨hg, hs⟩
  · have hsent : sent = (s.lease, false) := hs
    rw [hsent]
    exact ⟨peak, h.goto rfl rfl rfl le_rfl rfl trivial⟩
  · have hsent : sent.1 = s.lease.store i ⟨owner, now + minutes 31⟩ gap := hs
    refine ⟨now, h.storeLease hsent rfl rfl le_rfl (hlast hg) hclock hnone rfl ?_⟩
    cases sent.2 with
    | false => trivial
    | true =>
      have hwrote : sent.1.Wrote i sent.1.generation := hsent ▸ VersionedCell.wrote_store
      exact ⟨le_rfl, hwrote, fun _ => rfl⟩

lemma readPrevious_sound (h : Sound peak s) {now : Instant} {lease : Lease} {status : Status} {claim : Notice}
    (hphase : s.phase i = .statusRead now lease status) (hclaim : claimOf incidentOf status s.notices.value now = some claim) :
    Sound peak (s.goto i (.claiming now lease (read s.notices) claim)) := by
  have hholds := h.phases i
  rw [hphase] at hholds
  obtain ⟨hvalid, hclock, hadmits⟩ := claimOf_some hclaim
  refine h.goto rfl rfl rfl le_rfl rfl ⟨Holds.congr hholds rfl, VersionedCell.held_read, hvalid, hclock, fun k x hk hx => ?_,
    fun _ x hx => ?_⟩
  · exact hadmits x.2 (value_of_last hk hx)
  · have hsent := h.sends x hx
    exact hsent.base.trans_le hsent.writes

lemma claim_sound (h : Sound peak s) {now : Instant} {lease : Lease} {seen : Seen} {claim : Notice} {gap : ℕ} {delivery : Delivery}
    (hphase : s.phase i = .claiming now lease seen claim) :
    let sent := s.notices.send delivery i claim seen.generation gap
    Sound peak ({ s with notices := sent.1 }.goto i (if sent.2 then .claimed now lease (read sent.1) claim else .releasing lease)) := by
  intro sent
  have hgood := h.phases i
  rw [hphase] at hgood
  obtain ⟨hholds, hreads⟩ := hgood
  rcases VersionedCell.send_stored delivery s.notices i claim seen.generation gap with hs | ⟨hg, hs⟩
  · have hsent : sent = (s.notices, false) := hs
    rw [hsent]
    exact h.goto rfl rfl rfl le_rfl rfl hholds.wrote
  · have hsent : sent.1 = s.notices.store i claim gap := hs
    have hcount : seen.count = s.notices.writes := hreads.held.current hg
    refine h.storeNotice hsent rfl rfl rfl (hreads.clock.trans_le hholds.time) (fun k x hk hx => ?_) (.inl hreads.valid) rfl ?_
    · exact .inl ⟨hreads.valid, hreads.admits k x (hcount.trans hk) hx⟩
    · cases sent.2 with
      | false => exact hholds.wrote
      | true =>
        have hplace : (history sent.1)[s.notices.writes]? = some (i, claim) := by
          rw [hsent, history_getElem_store, if_pos rfl]
        have hwrites : sent.1.writes = s.notices.writes + 1 := by rw [hsent, VersionedCell.store_writes]
        change Holds _ _ _ _ _ ∧ Claimed _ _ _ _ _ _
        refine ⟨hholds.congr rfl, ⟨VersionedCell.held_read, hreads.valid, s.notices.writes, hwrites, hplace⟩, hreads.clock,
          fun hcur x hx => ?_⟩
        have hbase := hreads.sends hcur x hx
        change x.base + 1 < sent.1.writes
        omega

lemma notify_sound (h : Sound peak s) {now : Instant} {lease : Lease} {seen : Seen} {claim : Notice}
    (hphase : s.phase i = .checked now lease seen claim) (hp : p = .releasing lease ∨ ∃ outcome, p = .answered lease seen claim outcome) :
    Sound peak (State.goto { s with sends := s.sends ++ [⟨i, claim, seen.count - 1, s.notices.writes⟩] } i p) := by
  have hgood := h.phases i
  rw [hphase] at hgood
  obtain ⟨hholds, hclaimed, hcur⟩ := hgood
  obtain ⟨b, hb, hplace⟩ := hclaimed.owns.place
  have hbase : seen.count - 1 = b := by omega
  have hsent : SentSound s.notices ⟨i, claim, seen.count - 1, s.notices.writes⟩ := by
    refine ⟨hbase ▸ history_lt hplace, le_rfl, hbase ▸ hplace, hclaimed.owns.valid, fun k y _ hy => ?_⟩
    have hlatest := h.times k y hy
    exact hlatest.trans ((hholds.current hcur).symm.trans hclaimed.clock.symm).le
  refine h.send rfl rfl rfl rfl hsent (fun y hy => ?_) hholds.wrote hcur rfl ?_
  · have hearlier := hclaimed.sends hcur y hy
    exact ⟨show y.base < seen.count - 1 by omega, (h.sends y hy).writes⟩
  · rcases hp with rfl | ⟨outcome, rfl⟩
    · exact hholds.wrote
    · refine ⟨hholds.wrote, hclaimed.owns.mono .refl, _, List.mem_append_right _ (List.mem_singleton_self _), rfl, rfl, ?_⟩
      change seen.count - 1 + 1 = seen.count
      omega

lemma record_sound (h : Sound peak s) {lease : Lease} {seen : Seen} {claim : Notice} {outcome : Outcome} {gap : ℕ}
    {delivery : Delivery} (hphase : s.phase i = .verified lease seen claim outcome) :
    Sound peak ({ s with notices := (s.notices.send delivery i (claim.update outcome) seen.generation gap).1 }.goto i
      (.releasing lease)) := by
  have hgood := h.phases i
  rw [hphase] at hgood
  obtain ⟨hwrote, howns, x, hx, hrun, hclaim, hbase⟩ := hgood
  obtain ⟨b, hb, hplace⟩ := howns.place
  rcases VersionedCell.send_stored delivery s.notices i (claim.update outcome) seen.generation gap with hs | ⟨hg, hs⟩
  · rw [hs]
    exact h.goto rfl rfl rfl le_rfl rfl hwrote
  · have hcount : seen.count = s.notices.writes := howns.held.current hg
    refine h.storeNotice hs rfl rfl rfl ?_ (fun k y hk hy => ?_) (.inr ⟨x, hx, hrun, hbase.trans hcount, ?_, outcome, ?_⟩) rfl hwrote
    · rw [update_attemptedAt]
      exact h.times b _ hplace
    · obtain rfl : k = b := by omega
      obtain rfl := Option.some.inj (hplace.symm.trans hy)
      exact .inr ⟨rfl, howns.valid, outcome, rfl⟩
    · exact (h.sends x hx).writes
    · rw [hclaim]

lemma release_sound (h : Sound peak s) {lease : Lease} {now : Instant} {gap : ℕ} {delivery : Delivery}
    (hphase : s.phase i = .releasing lease) (hnow : s.clock ≤ now) :
    Sound peak ({ s with
      clock := now
      lease := (s.lease.send delivery i { lease.value with expires := now } lease.generation gap).1 }.goto i .ended) := by
  have hwrote := h.phases i
  rw [hphase] at hwrote
  rcases VersionedCell.send_stored delivery s.lease i { lease.value with expires := now } lease.generation gap with hs | ⟨hg, hs⟩
  · rw [hs]
    exact h.goto rfl rfl rfl hnow rfl trivial
  · exact h.storeLease hs rfl rfl hnow le_rfl (h.clock.trans hnow) (fun j hj => aboutToSend_false h hwrote hg hj) rfl trivial

lemma step_sound (h : Sound peak s) {l : I × Action} (hq : Undisturbed s l) (hstep : step incidentOf s l = some t) :
    ∃ peak', Sound peak' t := by
  obtain ⟨i, action⟩ := l
  have hgood := h.phases i
  unfold step at hstep
  dsimp only at hstep
  split at hstep
  · rename_i now hi
    obtain ⟨u, hu, rfl⟩ := Option.map_eq_some_iff.mp hstep
    obtain ⟨rfl, hclock⟩ := tick_eq hu
    refine ⟨peak, h.goto rfl rfl rfl hclock rfl ?_⟩
    split
    · trivial
    · exact ⟨le_rfl, le_rfl, fun _ => h.clock.trans hclock⟩
  · rename_i now held owner gap delivery hi
    obtain rfl := Option.some.inj hstep
    exact acquire_sound h hi (hq rfl)
  · rename_i now lease status hi
    obtain rfl := Option.some.inj hstep
    rw [hi] at hgood
    exact ⟨peak, h.goto rfl rfl rfl le_rfl rfl (Holds.congr hgood rfl)⟩
  · rename_i now lease status hi
    split at hstep
    · obtain rfl := Option.some.inj hstep
      exact ⟨peak, h.goto rfl rfl rfl le_rfl rfl (hgood.wrote (by rw [hi]; rfl))⟩
    · rename_i claim hclaim
      obtain rfl := Option.some.inj hstep
      exact ⟨peak, readPrevious_sound h hi hclaim⟩
  · rename_i now lease seen claim gap delivery hi
    obtain rfl := Option.some.inj hstep
    exact ⟨peak, claim_sound h hi⟩
  · rename_i now lease seen claim hi
    obtain rfl := Option.some.inj hstep
    refine ⟨peak, h.goto rfl rfl rfl le_rfl rfl ?_⟩
    split
    · rename_i hpasses
      rw [hi] at hgood
      simp only [passes, decide_eq_true_eq] at hpasses
      obtain ⟨hholds, hclaimed⟩ := hgood
      exact ⟨hholds.congr rfl, ⟨hclaimed.owns.mono .refl, hclaimed.clock, hclaimed.sends⟩, hpasses.2.1⟩
    · exact hgood.wrote (by rw [hi]; rfl)
  · rename_i now lease seen claim outcome hi
    split at hstep
    · obtain rfl := Option.some.inj hstep
      exact ⟨peak, notify_sound h hi (.inl rfl)⟩
    · rename_i outcome
      obtain rfl := Option.some.inj hstep
      exact ⟨peak, notify_sound h hi (.inr ⟨outcome, rfl⟩)⟩
  · rename_i lease seen claim outcome now hi
    obtain ⟨u, hu, rfl⟩ := Option.map_eq_some_iff.mp hstep
    obtain ⟨rfl, hclock⟩ := tick_eq hu
    refine ⟨peak, h.goto rfl rfl rfl hclock rfl ?_⟩
    split
    · rw [hi] at hgood
      have hverified : (Phase.verified lease seen claim outcome).Good s peak i := hgood
      exact hverified.mono (.of_eq rfl rfl rfl hclock)
    · exact hgood.wrote (by rw [hi]; rfl)
  · rename_i lease seen claim outcome gap delivery hi
    obtain rfl := Option.some.inj hstep
    exact ⟨peak, record_sound h hi⟩
  · rename_i lease now gap delivery hi
    obtain ⟨u, hu, rfl⟩ := Option.map_eq_some_iff.mp hstep
    obtain ⟨rfl, hclock⟩ := tick_eq hu
    exact ⟨peak, release_sound h hi hclock⟩
  · obtain ⟨lease, hlease, rfl⟩ := Option.map_eq_some_iff.mp hstep
    exact ⟨peak, h.goto rfl rfl rfl le_rfl rfl (hgood.wrote hlease)⟩
  · obtain rfl := Option.some.inj hstep
    exact ⟨peak, h.goto rfl rfl rfl le_rfl rfl trivial⟩
  · cases hstep

lemma reachable_sound (h : ((watches incidentOf).during Undisturbed).Reachable s) : ∃ peak, Sound peak s := by
  refine h.invariant (I := fun s => ∃ peak, Sound peak s) (fun s hinit => ?_) fun s l t hs hnext => ?_
  · obtain ⟨hl, hn, hphase, hsends⟩ := hinit
    refine ⟨s.clock, le_rfl, fun k x hx => ?_, fun k x y hx => ?_, fun x hx => ?_, ?_, fun k y hy => ?_, fun i => ?_⟩
    · simp [hn] at hx
    · simp [hn] at hx
    · simp [hsends] at hx
    · rw [hsends]
      exact List.Pairwise.nil
    · simp [hn] at hy
    · rw [hphase i]
      trivial
  · obtain ⟨peak, hs⟩ := hs
    obtain ⟨hq, hstep⟩ := hnext
    exact step_sound hs hq hstep

end Invariant

section Laws

variable {I : Type} {s : State I} {peak : Instant} {v w : Notice} {a b k : ℕ} {x x' : I × Notice}

lemma hours_nonneg (n : ℕ) : 0 ≤ hours n := by
  unfold Calendar.hours Calendar.minutes
  positivity

lemma update_not_inFlight (claim : Notice) (outcome : Outcome) : (claim.update outcome).delivery ≠ .inFlight := by
  cases outcome <;> simp [Notice.update]

def Hot (v : Notice) (a k : ℕ) (x : I × Notice) : Prop :=
  x.2.incident = v.incident ∧ x.2.attemptedAt = v.attemptedAt ∧ (IsClaim x.2 → k = a) ∨
    v.attemptedAt + hours 24 ≤ x.2.attemptedAt ∧ (x.2.incident = v.incident ∨ ∃ t, x.2.retryAt = some t ∧ x.2.attemptedAt ≤ t)

lemma Hot.claim (h : Hot v a k x) (hadmits : Admits x.2 x'.2) (hincident : x'.2.incident = v.incident) (hreasons : x'.2.reasons ≠ []) :
    v.attemptedAt + hours 24 ≤ x'.2.attemptedAt := by
  obtain ⟨_, hretry, hsame⟩ := hadmits
  rcases h with ⟨he, hat, _⟩ | ⟨hlate, he | ⟨t, ht, hle⟩⟩
  · exact hat ▸ hsame (he.trans hincident.symm) hreasons
  · have hlater := hsame (he.trans hincident.symm) hreasons
    exact hlate.trans ((le_add_of_nonneg_right (hours_nonneg 24)).trans hlater)
  · exact hlate.trans (hle.trans (hretry t ht))

lemma Hot.record {i : I} (h : Hot v a k x) (hclaim : IsClaim x.2) {outcome : Outcome} (he : x' = (i, x.2.update outcome))
    (hrate : k = a → ∀ delay, outcome ≠ .rateLimited delay) : Hot v a (k + 1) x' := by
  subst he
  have hno : ¬ IsClaim (x.2.update outcome) := fun hc => update_not_inFlight _ _ hc.delivery
  rcases h with ⟨hincident, hat, hplace⟩ | ⟨hlate, hrest⟩
  · refine .inl ⟨?_, (update_attemptedAt _ _).trans hat, fun hc => absurd hc hno⟩
    cases outcome with
    | rateLimited delay => exact absurd rfl (hrate (hplace hclaim) delay)
    | sent id => exact hincident
    | blocked => exact hincident
    | unknown => exact hincident
  · refine .inr ⟨hlate.trans (update_attemptedAt _ _).ge, ?_⟩
    have hsame : x.2.incident = v.incident := by
      rcases hrest with hsame | ⟨t, ht, _⟩
      · exact hsame
      · rw [hclaim.retryAt] at ht
        cases ht
    cases outcome with
    | rateLimited delay =>
      refine .inr ⟨x.2.attemptedAt + seconds delay, rfl, le_add_of_nonneg_right ?_⟩
      unfold seconds
      positivity
    | sent id => exact .inl hsame
    | blocked => exact .inl hsame
    | unknown => exact .inl hsame

lemma Sound.hot (h : Sound peak s) {i : I} (ha : (history s.notices)[a]? = some (i, v))
    (hrate : ∀ record, (history s.notices)[a + 1]? = some (i, record) → record.delivery ≠ .rateLimited) (d : ℕ)
    (hbetween : ∀ k x, a < k → k ≤ a + d → (history s.notices)[k]? = some x → x.2.delivery = .inFlight →
      x.2.incident = v.incident ∧ x.2.reasons ≠ []) (hx : (history s.notices)[a + d]? = some x) :
    Hot v a (a + d) x ∧ (0 < d → x.2.delivery = .inFlight → v.attemptedAt + hours 24 ≤ x.2.attemptedAt) := by
  induction d generalizing x with
  | zero =>
    obtain rfl := Option.some.inj (ha.symm.trans hx)
    exact ⟨.inl ⟨rfl, rfl, fun _ => rfl⟩, fun hpos => absurd hpos (lt_irrefl 0)⟩
  | succ d ih =>
    have hlt : a + d < (history s.notices).length := by
      obtain ⟨hlt, _⟩ := List.getElem?_eq_some_iff.mp hx
      omega
    obtain ⟨hhot, _⟩ := ih (fun k x hk hle => hbetween k x hk (by omega)) (List.getElem?_eq_getElem hlt)
    rcases h.chain _ _ _ (List.getElem?_eq_getElem hlt) hx with ⟨hclaim, hadmits⟩ | ⟨hrun, hclaim, outcome, hupdate⟩
    · obtain ⟨hincident, hreasons⟩ := hbetween (a + (d + 1)) x (by omega) le_rfl hx hclaim.delivery
      have hlate := hhot.claim hadmits hincident hreasons
      exact ⟨.inr ⟨hlate, .inl hincident⟩, fun _ _ => hlate⟩
    · refine ⟨hhot.record hclaim (Prod.ext rfl hupdate) fun hplace delay he => ?_, fun _ hin => absurd (hupdate ▸ hin) (update_not_inFlight _ _)⟩
      obtain rfl : d = 0 := by omega
      obtain ⟨j, record⟩ := x
      have hfirst : (history s.notices)[a + 0] = (i, v) := Option.some.inj ((List.getElem?_eq_getElem hlt).symm.trans ha)
      obtain rfl : j = i := hrun.trans (congrArg Prod.fst hfirst)
      have hrecord : record = (history s.notices)[a + 0].2.update (.rateLimited delay) := he ▸ hupdate
      exact hrate record hx (by rw [hrecord]; rfl)

def OtherClaim (s : State I) (a b : ℕ) (incident : Option String) : Prop :=
  ∃ k x, a < k ∧ k < b ∧ (history s.notices)[k]? = some x ∧ x.2.delivery = .inFlight ∧ (x.2.incident ≠ incident ∨ x.2.reasons = [])

def RateLimited (s : State I) (a : ℕ) (i : I) : Prop :=
  ∃ record, (history s.notices)[a + 1]? = some (i, record) ∧ record.delivery = .rateLimited

lemma Sound.spaced (h : Sound peak s) {i j : I} (ha : (history s.notices)[a]? = some (i, v))
    (hb : (history s.notices)[b]? = some (j, w)) (hw : w.delivery = .inFlight) (hab : a < b) (hincident : v.incident = w.incident)
    (hreasons : w.reasons ≠ []) :
    v.attemptedAt + hours 24 ≤ w.attemptedAt ∨ OtherClaim s a b v.incident ∨ RateLimited s a i := by
  by_cases hother : OtherClaim s a b v.incident
  · exact .inr (.inl hother)
  · by_cases hrate : RateLimited s a i
    · exact .inr (.inr hrate)
    · obtain ⟨d, rfl⟩ := Nat.exists_eq_add_of_le hab.le
      refine .inl ((h.hot ha (fun record hrecord hlimited => hrate ⟨record, hrecord, hlimited⟩) d
        (fun k x hk hle hx hin => ?_) hb).2 (by omega) hw)
      rcases hle.lt_or_eq with hlt | rfl
      · by_contra hno
        refine hother ⟨k, x, hk, hlt, hx, hin, ?_⟩
        by_contra hsame
        push Not at hsame
        exact hno hsame
      · obtain rfl := Option.some.inj (hx.symm.trans hb)
        exact ⟨hincident.symm, hreasons⟩

lemma Sound.after_record (h : Sound peak s) {i : I} {record : Notice} (hk : (history s.notices)[k]? = some (i, record))
    (hr : record.delivery ≠ .inFlight) {y : Sent I} (hy : y ∈ s.sends) (hafter : k < y.writes) : k < y.base := by
  rcases h.records k _ hk with hclaim | ⟨x, hx, _, hbase, hwrites, _⟩
  · exact absurd hclaim.delivery hr
  · have hsent := h.sends y hy
    have hne : k ≠ y.base := by
      rintro rfl
      obtain hsame := Option.some.inj (hk.symm.trans hsent.place)
      exact hr ((congrArg (fun z => z.2.delivery) hsame).trans hsent.valid.delivery)
    -- The call that the record is about was made before, so that the claim of the later call stands after its claim.
    have horder : x.base < y.base := by
      obtain ⟨m, hm, hxm⟩ := List.mem_iff_getElem.mp hx
      obtain ⟨n, hn, hyn⟩ := List.mem_iff_getElem.mp hy
      rcases lt_trichotomy m n with hlt | rfl | hgt
      · have hpair := (List.pairwise_iff_getElem.mp h.ordered) m n hm hn hlt
        rw [hxm, hyn] at hpair
        exact hpair.1
      · rw [hxm] at hyn
        subst hyn
        omega
      · have hpair := (List.pairwise_iff_getElem.mp h.ordered) n m hn hm hgt
        rw [hxm, hyn] at hpair
        omega
    omega

lemma Sound.next_claim (h : Sound peak s) {i : I} {record : Notice} (hk : (history s.notices)[k]? = some (i, record))
    (hr : record.delivery ≠ .inFlight) {y : Sent I} (hy : y ∈ s.sends) (hafter : k < y.writes) :
    ∃ x, (history s.notices)[k + 1]? = some x ∧ Admits record x.2 ∧ x.2.attemptedAt ≤ y.claim.attemptedAt := by
  have hbase := h.after_record hk hr hy hafter
  have hsent := h.sends y hy
  have hlt : k + 1 < (history s.notices).length := by
    have hle := history_lt hsent.place
    rw [history_length]
    omega
  refine ⟨_, List.getElem?_eq_getElem hlt, ?_, hsent.clock (k + 1) _ (by have := hsent.base; omega) (List.getElem?_eq_getElem hlt)⟩
  rcases h.chain k _ _ hk (List.getElem?_eq_getElem hlt) with ⟨_, hadmits⟩ | ⟨_, hclaim, _⟩
  · exact hadmits
  · exact absurd hclaim.delivery hr

variable [DecidableEq I] {incidentOf : List String → String}

/-- The calls for one incident keep apart by 24 hours, in runs that no other disturbs. -/
theorem watches_hold_back (h : ((watches incidentOf).during Undisturbed).Reachable s) :
    (∀ x ∈ s.sends, x.base < x.writes ∧ (history s.notices)[x.base]? = some (x.run, x.claim) ∧ x.claim.delivery = .inFlight) ∧
    (∀ earlier x between y later, s.sends = earlier ++ x :: between ++ y :: later → x.claim.incident = y.claim.incident →
      y.claim.reasons ≠ [] →
        x.claim.attemptedAt + hours 24 ≤ y.claim.attemptedAt ∨ OtherClaim s x.base y.base x.claim.incident ∨ RateLimited s x.base x.run) ∧
    (∀ a i claim, (history s.notices)[a]? = some (i, claim) → claim.delivery = .inFlight → ∀ y ∈ s.sends, a < y.base →
      claim.incident = y.claim.incident → y.claim.reasons ≠ [] →
        claim.attemptedAt + hours 24 ≤ y.claim.attemptedAt ∨ OtherClaim s a y.base claim.incident ∨ RateLimited s a i) ∧
    (∀ k i record, (history s.notices)[k]? = some (i, record) → record.delivery = .rateLimited →
      ∃ retryAt, record.retryAt = some retryAt ∧ ∀ y ∈ s.sends, k < y.writes → retryAt ≤ y.claim.attemptedAt) ∧
    ∀ k i record, (history s.notices)[k]? = some (i, record) → record.delivery = .blocked → ∀ y ∈ s.sends, y.writes ≤ k := by
  obtain ⟨peak, hs⟩ := reachable_sound h
  refine ⟨fun x hx => ⟨(hs.sends x hx).base, (hs.sends x hx).place, (hs.sends x hx).valid.delivery⟩,
    fun earlier x between y later he hincident hreasons => ?_, fun a i claim ha hclaim y hy hab hincident hreasons => ?_,
    fun k i record hk hr => ?_, fun k i record hk hr y hy => ?_⟩
  · have hx : x ∈ s.sends := by simp [he]
    have hy : y ∈ s.sends := by simp [he]
    have hlt : x.base < y.base := by
      have hordered := hs.ordered
      rw [he, List.pairwise_append] at hordered
      exact (hordered.2.2 x (by simp) y List.mem_cons_self).1
    exact hs.spaced (hs.sends x hx).place (hs.sends y hy).place (hs.sends y hy).valid.delivery hlt
      hincident hreasons
  · exact hs.spaced ha (hs.sends y hy).place (hs.sends y hy).valid.delivery hab hincident hreasons
  · have hnot : record.delivery ≠ .inFlight := by simp [hr]
    rcases hs.records k _ hk with hclaim | ⟨x, _, _, _, _, outcome, hupdate⟩
    · exact absurd hclaim.delivery hnot
    · have hretry : ∃ retryAt, record.retryAt = some retryAt := by
        change record = _ at hupdate
        rw [hupdate] at hr ⊢
        cases outcome with
        | rateLimited delay => exact ⟨_, rfl⟩
        | sent id => cases hr
        | blocked => cases hr
        | unknown => cases hr
      obtain ⟨retryAt, hretryAt⟩ := hretry
      refine ⟨retryAt, hretryAt, fun y hy hafter => ?_⟩
      obtain ⟨z, _, hadmits, hclock⟩ := hs.next_claim hk hnot hy hafter
      exact (hadmits.2.1 retryAt hretryAt).trans hclock
  · by_contra hafter
    obtain ⟨_, _, hadmits, _⟩ := hs.next_claim hk (by simp [hr]) hy (not_le.mp hafter)
    exact hadmits.1 hr

end Laws

section Fixture

instance {n : ℕ} (s : State (Fin n)) (l : Fin n × Action) : Decidable (Undisturbed s l) :=
  inferInstanceAs (Decidable (l.2.acquires = true → ∀ i, i ≠ l.1 → (s.phase i).aboutToSend = false))

def joined (reasons : List String) : String := ",".intercalate reasons

def start₀ : State (Fin 3) := ⟨.absent, .absent, 0, fun _ => .idle, []⟩

def status₀ (gap : Bool) : Status where
  lastFinishedAt := if gap then some (400 * hours 24) else none
  fieldIssueCount := 0
  residualNonzero := false
  blocked := none
  oldestGap := if gap then some 0 else none
  missingAccountDays := none
  tokenExpiresAt := some (400 * hours 24)

def claims₀ (i : Fin 3) (now : Instant) (gap : Bool) : List (Fin 3 × Action) :=
  [(i, .begin now), (i, .acquire "owner" 0 .acknowledged), (i, .readStatus (status₀ gap)), (i, .readPrevious), (i, .claim 0 .acknowledged)]

def ends₀ (i : Fin 3) (now : Instant) (outcome : Outcome) : List (Fin 3 × Action) :=
  [(i, .notify (some outcome)), (i, .recheck now), (i, .record 0 .acknowledged), (i, .release now 0 .acknowledged)]

def runs₀ (i : Fin 3) (now : Instant) (gap : Bool) (outcome : Outcome) : List (Fin 3 × Action) :=
  claims₀ i now gap ++ (i, .check) :: ends₀ i now outcome

def calls₀ (s : State (Fin 3)) : List (Option String × Instant × ℕ × Bool) :=
  s.sends.map fun x => (x.claim.incident, x.claim.attemptedAt, x.base, decide (x.claim.reasons ≠ []))

def deliveries₀ (s : State (Fin 3)) : List DeliveryState := (history s.notices).map fun x => x.2.delivery

theorem watches_hold_back₀ : ∃ s : State (Fin 3), ((watches joined).during Undisturbed).Reachable s ∧ ∃ x y, s.sends = [x, y] ∧
    x.claim.attemptedAt + hours 24 ≤ y.claim.attemptedAt := by
  have hcalls : (System.execute (fun s l => if Undisturbed s l then step joined s l else none) start₀
      (runs₀ 0 (hours 12) false (.sent 7) ++ runs₀ 1 (hours 36) false (.sent 8))).map calls₀ =
      some [(some "missed_run", hours 12, 0, true), (some "missed_run", hours 36, 2, true)] := by decide
  have hstored : (System.execute (fun s l => if Undisturbed s l then step joined s l else none) start₀
      (runs₀ 0 (hours 12) false (.sent 7) ++ runs₀ 1 (hours 36) false (.sent 8))).map deliveries₀ =
      some [.inFlight, .sent, .inFlight, .sent] := by decide
  obtain ⟨s, hs, hsends⟩ := Option.map_eq_some_iff.mp hcalls
  have hreachable : ((watches joined).during Undisturbed).Reachable s :=
    ⟨start₀, _, ⟨rfl, rfl, fun _ => rfl, rfl⟩, System.run_of_execute_during hs⟩
  have hdeliveries : deliveries₀ s = [.inFlight, .sent, .inFlight, .sent] := by
    rw [hs] at hstored
    exact Option.some.inj hstored
  obtain ⟨x, y, hxy⟩ : ∃ x y, s.sends = [x, y] := List.length_eq_two.mp (by
    have hlength := congrArg List.length hsends
    simpa [calls₀] using hlength)
  refine ⟨s, hreachable, x, y, hxy, ?_⟩
  rw [calls₀, hxy] at hsends
  simp only [List.map_cons, List.map_nil, List.cons.injEq, Prod.mk.injEq, and_true, decide_eq_true_eq] at hsends
  obtain ⟨⟨hx, _, hxbase, _⟩, hy, _, hybase, hreasons⟩ := hsends
  have hone : ∀ z, (history s.notices)[1]? = some z → z.2.delivery = .sent := by
    intro z hz
    have hmap := congrArg (fun l => l[1]?) hdeliveries
    simp only [deliveries₀, List.getElem?_map, hz, Option.map_some] at hmap
    exact Option.some.inj hmap
  rcases (watches_hold_back hreachable).2.1 [] x [] y [] hxy (hx.trans hy.symm) hreasons with
    hlate | ⟨k, z, hlo, hhi, hz, hin, _⟩ | ⟨record, hrecord, hlimited⟩
  · exact hlate
  · obtain rfl : k = 1 := by omega
    rw [hone z hz] at hin
    cases hin
  · rw [hxbase] at hrecord
    rw [hone _ hrecord] at hlimited
    cases hlimited

theorem crashed_claim_repeats : (∃ s : State (Fin 3), (watches joined).Reachable s ∧
      (s.sends.map fun x => (x.claim.incident, x.claim.attemptedAt)) = [(some "missed_run", hours 12), (some "missed_run", hours 14)] ∧
        ∀ x ∈ history s.notices, x.2.delivery ≠ .rateLimited) ∧
    ∃ s : State (Fin 3), (watches joined).Reachable s ∧ ∃ k x, (history s.notices)[k]? = some x ∧ x.2.delivery = .blocked ∧ ∃ y ∈ s.sends, k < y.writes := by
  constructor
  · have hexecute : (System.execute (step joined) start₀ (runs₀ 0 (hours 12) false (.sent 7) ++ claims₀ 1 (hours 13) true ++
        [(1, .crash)] ++ runs₀ 2 (hours 14) false (.sent 8))).map (fun s =>
          (s.sends.map fun x => (x.claim.incident, x.claim.attemptedAt), decide (∀ x ∈ history s.notices, x.2.delivery ≠ .rateLimited))) =
        some ([(some "missed_run", hours 12), (some "missed_run", hours 14)], true) := by decide
    obtain ⟨s, hs, hresult⟩ := Option.map_eq_some_iff.mp hexecute
    rw [Prod.mk.injEq, decide_eq_true_eq] at hresult
    exact ⟨s, ⟨start₀, _, ⟨rfl, rfl, fun _ => rfl, rfl⟩, System.run_of_execute hs⟩, hresult⟩
  · have hexecute : (System.execute (step joined) start₀ (claims₀ 0 (hours 12) false ++ [(0, .check)] ++
        runs₀ 1 (hours 13) true .blocked ++ [(0, .notify (some (.sent 7)))])).map (fun s =>
          ((history s.notices)[2]?.map fun x => x.2.delivery, s.sends.map Sent.writes)) = some (some .blocked, [2, 3]) := by
      decide
    obtain ⟨s, hs, hresult⟩ := Option.map_eq_some_iff.mp hexecute
    rw [Prod.mk.injEq] at hresult
    obtain ⟨x, hx, hblocked⟩ := Option.map_eq_some_iff.mp hresult.1
    obtain ⟨y, hy, hwrites⟩ : ∃ y ∈ s.sends, y.writes = 3 := List.mem_map.mp (hresult.2 ▸ by decide)
    exact ⟨s, ⟨start₀, _, ⟨rfl, rfl, fun _ => rfl, rfl⟩, System.run_of_execute hs⟩, 2, x, hx, hblocked, y, hy, by omega⟩

end Fixture

end IbkrPlatform.FlexDaily.Watch
