import IbkrPlatform.Library.Attempt
import IbkrPlatform.Settlement.Observers
import IbkrPlatform.Settlement.Summary

/-! One call of `settle_pending`: its loop over the pending orders, and the readings that end it before the later ones. -/

namespace IbkrPlatform.Settlement.SettlePass

open Library Observers

structure Turn where
  started : ℚ
  result : Outcome
  finished : ℚ

structure Call where
  waitSeconds : ℚ
  maxOrders : ℕ
  timeoutSeconds : ℚ
  /-- The readings that `deadline` and `read_deadline` are counted from. -/
  entered : ℚ × ℚ
  reached : Record → ℚ
  turns : Record → List Turn
  /-- The clock passes the read deadline in the end. -/
  ends : ∀ r, ∃ turn ∈ turns r, entered.2 + timeoutSeconds ≤ turn.started

def Call.deadline (call : Call) : ℚ := call.entered.1 + call.waitSeconds

def Call.readDeadline (call : Call) : ℚ := call.entered.2 + call.timeoutSeconds

section Code

variable (profile : String)

def readRecords : Attempt Store String (List Record) := .of fun s => (records profile s, s)

def claim (e : Entry) : Attempt Store String Bool := .total fun s => ((s.claimMarker e).2, (s.claimMarker e).1)

def observe (attempt : String) (data : Outcome) : ℕ → Attempt Store String Unit
  | 0 => throw "settlement_concurrent_update"
  | tries + 1 => do
    let rs ← readRecords profile
    match rs.find? (·.data.attemptId = attempt) with
    | none => throw "StopIteration"
    | some current =>
      match observeTurn current data with
      | .error e => throw e
      | .ok none => pure ()
      | .ok (some sequence) => do
        let claimed ← claim ⟨attempt, .observed sequence ⟨sequence, data⟩⟩
        if claimed then pure () else observe attempt data tries

variable (call : Call)

def settleOrder (record : Record) : List Turn → Attempt Store String Unit
  | [] => pure ()
  | turn :: later =>
    if call.readDeadline ≤ turn.started then pure ()
    else do
      let data := answerFor record turn.result
      observe profile record.data.attemptId data tryLimit
      if data.terminal ∨ call.deadline ≤ turn.finished then pure () else settleOrder record later

def Call.passesOver (record : Record) : Bool := record.orderId.getD "" = "" ∨ call.readDeadline ≤ call.reached record

def settleOrders : List Record → Attempt Store String Unit
  | [] => pure ()
  | record :: rest =>
    if call.passesOver record then settleOrders rest
    else do
      settleOrder profile call record (call.turns record)
      settleOrders rest

def settlePending : Attempt Store String Summary :=
  if ¬ (0 ≤ call.waitSeconds ∧ call.waitSeconds ≤ 30 ∧ 1 ≤ call.maxOrders ∧ call.maxOrders ≤ 100) then
    throw "settlement_bounds_invalid"
  else if ¬ (0 < call.timeoutSeconds ∧ call.timeoutSeconds ≤ 30) then throw "settlement_timeout_invalid"
  else do
    let rs ← readRecords profile
    let pending := rs.filter Record.unsettled
    if call.maxOrders < pending.length then throw "settlement_batch_incomplete"
    else do
      settleOrders profile call pending
      .of fun s => (settlementSummary profile s, s)

end Code

section Operations

inductive Operation
  | prepare (data : Pending)
  | bindOrder (attempt orderId : String)
  | mark (e : Entry)
  | settle (call : Call)

variable (hasOffset : String → Bool) (profile : String)

def operate (s : Store) : Operation → Option Store
  | .prepare data => some (prepare hasOffset profile s data).1
  | .bindOrder attempt orderId =>
    if (s.pendingOf attempt).isSome then some (Observers.bindOrder s attempt orderId).1 else none
  | .mark e => if e.marker.isAside ∧ (s.pendingOf e.attempt).isSome then some (s.create e).1 else none
  | .settle call => some ((settlePending profile call).exec s).2

def operations : System Store Operation := .ofStep (fun s => s = []) (operate hasOffset profile)

end Operations

section Statement

variable (profile : String) (s : Store) (call : Call)

def answersOf (record : Record) : List Turn → List Outcome
  | [] => []
  | turn :: later =>
    if call.readDeadline ≤ turn.started then []
    else
      let data := answerFor record turn.result
      data :: if data.terminal ∨ call.deadline ≤ turn.finished then [] else answersOf record later

def Call.answers (record : Record) : List Outcome :=
  if call.passesOver record then [] else answersOf call record (call.turns record)

def unsettledRecords : List Record :=
  match records profile s with
  | .error _ => []
  | .ok rs => rs.filter Record.unsettled

def lastOf (attempt : String) : Option Outcome := (outcomes s attempt).getLast?

/-- No reading of an order says less filled than the one before it, where no quantity counts as none. -/
def Steady : Option Outcome → List Outcome → Prop
  | _, [] => True
  | prior, data :: later => (∀ p ∈ prior, p.filled ≤ data.filled) ∧ Steady (some data) later

def Call.Validated : Prop := ∀ r ∈ unsettledRecords profile s, ∀ turn ∈ call.turns r,
  turn.result.orderId = r.orderId → validateOutcome r.orderId r.data.quantity turn.result = .ok ()

def Call.Steady : Prop := ∀ r ∈ unsettledRecords profile s, SettlePass.Steady (lastOf s r.data.attemptId) (call.answers r)

/-- The call is within its bounds, and the store within the one of its enumeration until the call ends. -/
structure Call.Admissible : Prop where
  wait : 0 ≤ call.waitSeconds ∧ call.waitSeconds ≤ 30
  orders : 1 ≤ call.maxOrders ∧ call.maxOrders ≤ 100
  timeout : 0 < call.timeoutSeconds ∧ call.timeoutSeconds ≤ 30
  batch : (unsettledRecords profile s).length ≤ call.maxOrders
  room : s.length + ((unsettledRecords profile s).map fun r => (call.answers r).length).sum ≤ scanLimit

def callFailures : List String :=
  ["settlement_bounds_invalid", "settlement_timeout_invalid", "settlement_batch_incomplete", "settlement_scan_incomplete"]

structure Unblocked : Prop where
  quiet : ∀ e, ((settlePending profile call).exec s).1 = .error e → e ∈ callFailures
  kept : ∀ attempt, outcomes s attempt <+: outcomes ((settlePending profile call).exec s).2 attempt
  recorded : ∀ summary, ((settlePending profile call).exec s).1 = .ok summary → ∀ r ∈ unsettledRecords profile s,
    call.answers r ≠ [] → lastOf ((settlePending profile call).exec s).2 r.data.attemptId = (call.answers r).getLast? ∧
      ∀ o ∈ call.answers r, o ∈ outcomes ((settlePending profile call).exec s).2 r.data.attemptId

end Statement

section Turns

variable {profile : String} {s t : Store} {r : Record} {data : Outcome} {a : String}

lemma outcomes_eq (h : Sound profile s) (a : String) : outcomes s a = (s.observedOf a).map fun x => x.2.outcome := by
  rcases hobserved : s.observedOf a with _ | ⟨⟨n, o⟩, rest⟩
  · simp [outcomes, Store.observations, hobserved]
  · obtain ⟨data, hdata⟩ := h.prepared _ (observedOf_mem (hobserved ▸ List.mem_cons_self : (n, o) ∈ s.observedOf a))
    rw [outcomes, observations_eq (h.history a data hdata), hobserved]

lemma outcomes_grow (hs : Sound profile s) (ht : Sound profile t) (hp : s <+: t) (a : String) :
    outcomes s a <+: outcomes t a := by
  rw [outcomes_eq hs, outcomes_eq ht]
  exact (observedOf_grows hp).map _

lemma records_error (h : Sound profile s) {e : String} (he : records profile s = .error e) :
    e = "settlement_scan_incomplete" ∧ scanLimit < s.length := by
  by_cases hl : scanLimit < s.length
  · rw [records, if_pos hl] at he
    exact ⟨(Except.error.inj he).symm, hl⟩
  · obtain ⟨rs, hrs⟩ := h.records_ok (not_lt.mp hl)
    rw [hrs] at he
    cases he

lemma find_record {rs : List Record} (hrs : records profile s = .ok rs) {data : Pending} (hdata : s.pendingOf a = some data) :
    ∃ current, rs.find? (·.data.attemptId = a) = some current ∧ ReadBack s current ∧ current.data.attemptId = a := by
  have ha : a ∈ rs.map fun r => r.data.attemptId := by
    rw [records_attempts hrs]
    exact mem_attempts.mpr ⟨_, pendingOf_mem hdata, rfl⟩
  obtain ⟨r, hr, hra⟩ := List.mem_map.mp ha
  have hfound : (rs.find? (·.data.attemptId = a)).isSome = true := List.find?_isSome.mpr ⟨r, hr, by simpa using hra⟩
  obtain ⟨current, hcurrent⟩ := Option.isSome_iff_exists.mp hfound
  exact ⟨current, hcurrent, records_ok hrs (List.mem_of_find?_eq_some hcurrent), by simpa using List.find?_some hcurrent⟩

structure Asked (s : Store) (r : Record) (data : Outcome) : Prop where
  known : Known s r
  bound : r.orderId ≠ none
  valid : validateOutcome r.orderId r.data.quantity data = .ok ()

lemma observeTurn_eq {current : Record} (hread : ReadBack s current) (hsame : current.data.attemptId = r.data.attemptId)
    (hasked : Asked s r data) (hopen : ∀ p ∈ lastOf s r.data.attemptId, p.terminal = false) :
    observeTurn current data = if lastOf s r.data.attemptId = some data then .ok none
      else if ∃ p ∈ lastOf s r.data.attemptId, data.filled < p.filled then .error "settlement_nonmonotonic_fill"
      else .ok (some ((s.observations r.data.attemptId).length + 1)) := by
  obtain ⟨orderId, horderId⟩ := Option.ne_none_iff_exists'.mp hasked.bound
  have hpending : current.data = r.data := Option.some.inj (hread.pending.symm.trans (hsame ▸ hasked.known.pending))
  have horder : current.orderId = r.orderId := by
    rw [hread.orderId, hpending, hasked.known.bound orderId horderId, horderId]
  have hvalid : validateOutcome current.orderId current.data.quantity data = .ok () := by
    rw [horder, hpending]
    exact hasked.valid
  have hlast : current.observations.getLast?.map Observation.outcome = lastOf s r.data.attemptId := by
    rw [hread.observations, hpending, lastOf, outcomes, List.getLast?_map, List.getLast?_map, Option.map_map]
    rfl
  have hlength : current.observations.length = (s.observations r.data.attemptId).length := by
    rw [hread.observations, hpending, List.length_map]
  unfold observeTurn
  rw [hvalid]
  dsimp only
  rw [← hlast] at hopen ⊢
  rw [hlength]
  generalize current.observations.getLast? = last at hopen ⊢
  cases last with
  | none => simp
  | some prior =>
    have hprior : prior.outcome.terminal = false := hopen prior.outcome rfl
    simp [hprior]

lemma number_fresh (h : Sound profile s) {o : Observation} :
    (⟨a, .observed ((s.observations a).length + 1) o⟩ : Entry).key ∉ s.map Entry.key := by
  intro hkey
  obtain ⟨⟨b, marker⟩, he, hk⟩ := List.mem_map.mp hkey
  cases marker <;> simp only [Entry.key, Marker.suffix, Prod.mk.injEq, reduceCtorEq, and_false, Suffix.observed.injEq] at hk
  obtain ⟨rfl, rfl⟩ := hk
  rename_i o'
  have hmem : ((s.observations b).length + 1, o') ∈ s.observedOf b :=
    List.mem_filterMap.mpr ⟨_, he, by simp⟩
  have hsorted : ((s.observations b).length + 1, o') ∈ s.observations b := (List.mem_insertionSort _).mpr hmem
  have hnumber : (s.observations b).length + 1 ∈ List.range' 1 (s.observations b).length := by
    rw [← (h.recorded b).numbers]
    exact List.mem_map.mpr ⟨_, hsorted, rfl⟩
  rw [List.mem_range'_1] at hnumber
  omega

def observed (s : Store) (a : String) (data : Outcome) : Store :=
  s ++ [⟨a, .observed ((s.observations a).length + 1) ⟨(s.observations a).length + 1, data⟩⟩]

lemma observe_cases (h : Sound profile s) (hasked : Asked s r data)
    (hopen : ∀ p ∈ lastOf s r.data.attemptId, p.terminal = false) (tries : ℕ) :
    scanLimit < s.length ∧
        (observe profile r.data.attemptId data (tries + 1)).exec s = (.error "settlement_scan_incomplete", s) ∨
      lastOf s r.data.attemptId = some data ∧ (observe profile r.data.attemptId data (tries + 1)).exec s = (.ok (), s) ∨
      (∃ p ∈ lastOf s r.data.attemptId, data.filled < p.filled) ∧
        (observe profile r.data.attemptId data (tries + 1)).exec s = (.error "settlement_nonmonotonic_fill", s) ∨
      (∀ p ∈ lastOf s r.data.attemptId, p.filled ≤ data.filled) ∧ Sound profile (observed s r.data.attemptId data) ∧
        (observe profile r.data.attemptId data (tries + 1)).exec s = (.ok (), observed s r.data.attemptId data) := by
  unfold observe
  rw [Attempt.exec_bind, readRecords, Attempt.exec_of]
  cases hrs : records profile s with
  | error e =>
    obtain ⟨rfl, hl⟩ := records_error h hrs
    exact .inl ⟨hl, rfl⟩
  | ok rs =>
    obtain ⟨current, hfound, hread, hsame⟩ := find_record hrs hasked.known.pending
    have hturn := observeTurn_eq hread hsame hasked hopen
    dsimp only
    rw [hfound]
    dsimp only
    rw [hturn]
    by_cases heq : lastOf s r.data.attemptId = some data
    · rw [if_pos heq]
      exact .inr (.inl ⟨heq, rfl⟩)
    · rw [if_neg heq] at hturn ⊢
      by_cases hless : ∃ p ∈ lastOf s r.data.attemptId, data.filled < p.filled
      · rw [if_pos hless]
        exact .inr (.inr (.inl ⟨hless, rfl⟩))
      · rw [if_neg hless] at hturn ⊢
        have hready := observeTurn_ready h hread hsame hasked.known hasked.bound hturn
        have hfresh : (⟨r.data.attemptId, .observed ((s.observations r.data.attemptId).length + 1)
            ⟨(s.observations r.data.attemptId).length + 1, data⟩⟩ : Entry).key ∉ s.map Entry.key :=
          number_fresh h
        have hsound := Ready.observe h hasked.known hready hfresh
        refine .inr (.inr (.inr ⟨by simpa using hless, hsound, ?_⟩))
        dsimp only
        rw [claim, Attempt.exec_bind, Attempt.exec_total, Store.claimMarker, if_neg hfresh]
        rfl

lemma outcomes_observed (h : Sound profile s) (hs : Sound profile (observed s a data)) :
    outcomes (observed s a data) a = outcomes s a ++ [data] := by
  rw [outcomes_eq hs, outcomes_eq h, observed, observedOf_append, List.map_append]
  simp [Store.observedOf]

structure Leaves (profile : String) (s t : Store) (a : String) (as : List Outcome) : Prop where
  sound : Sound profile t
  grows : s <+: t
  others : ∀ b, b ≠ a → t.observedOf b = s.observedOf b
  length : t.length ≤ s.length + as.length

def Ended (s t : Store) (a : String) (as : List Outcome) : Except String Unit → Prop
  | .ok _ => Steady (lastOf s a) as ∧ lastOf t a = as.getLast?.or (lastOf s a) ∧ ∀ o ∈ as, o ∈ outcomes t a
  | .error e => e = "settlement_nonmonotonic_fill" ∧ ¬ Steady (lastOf s a) as ∨
    e = "settlement_scan_incomplete" ∧ scanLimit < t.length

lemma Leaves.refl (h : Sound profile s) (as : List Outcome) : Leaves profile s s a as :=
  ⟨h, List.prefix_rfl, fun _ _ => rfl, Nat.le_add_right _ _⟩

lemma Leaves.cons {u : Store} {as : List Outcome} (h : Leaves profile s u a [data]) (h' : Leaves profile u t a as) :
    Leaves profile s t a (data :: as) where
  sound := h'.sound
  grows := h.grows.trans h'.grows
  others b hb := (h'.others b hb).trans (h.others b hb)
  length := by
    have h₁ := h.length
    have h₂ := h'.length
    simp only [List.length_cons, List.length_nil] at h₁ ⊢
    omega

lemma Leaves.weaken {as as' : List Outcome} (h : Leaves profile s t a as) (hl : as.length ≤ as'.length) :
    Leaves profile s t a as' :=
  ⟨h.sound, h.grows, h.others, h.length.trans (Nat.add_le_add_left hl _)⟩

lemma ended_nil {x : Unit} : Ended s s a [] (.ok x) := ⟨trivial, rfl, fun _ ho => absurd ho List.not_mem_nil⟩

lemma observe_ended (h : Sound profile s) (hasked : Asked s r data)
    (hopen : ∀ p ∈ lastOf s r.data.attemptId, p.terminal = false) {tries : ℕ} {x : Except String Unit}
    (hx : (observe profile r.data.attemptId data (tries + 1)).exec s = (x, t)) :
    Leaves profile s t r.data.attemptId [data] ∧ Ended s t r.data.attemptId [data] x := by
  rcases observe_cases h hasked hopen tries with ⟨hl, he⟩ | ⟨hsame, he⟩ | ⟨hless, he⟩ | ⟨hle, hsound, he⟩
  · obtain ⟨rfl, rfl⟩ := Prod.mk.inj (he.symm.trans hx)
    exact ⟨.refl h _, .inr ⟨rfl, hl⟩⟩
  · obtain ⟨rfl, rfl⟩ := Prod.mk.inj (he.symm.trans hx)
    refine ⟨.refl h _, ⟨fun p hp => ?_, trivial⟩, hsame, fun o ho => ?_⟩
    · rw [hsame, Option.mem_some_iff] at hp
      exact hp ▸ le_rfl
    · rw [List.mem_singleton.mp ho]
      exact List.mem_of_getLast? hsame
  · obtain ⟨rfl, rfl⟩ := Prod.mk.inj (he.symm.trans hx)
    obtain ⟨p, hp, hlt⟩ := hless
    exact ⟨.refl h _, .inl ⟨rfl, fun hsteady => not_le.mpr hlt (hsteady.1 p hp)⟩⟩
  · obtain ⟨rfl, rfl⟩ := Prod.mk.inj (he.symm.trans hx)
    have houtcomes := outcomes_observed h hsound
    refine ⟨⟨hsound, List.prefix_append _ _, fun b hb => other_observedOf hb, by simp [observed]⟩, ⟨hle, trivial⟩, ?_, ?_⟩
    · rw [lastOf, houtcomes]
      simp
    · intro o ho
      rw [houtcomes, List.mem_singleton.mp ho]
      exact List.mem_append_right _ (List.mem_singleton_self _)

lemma Ended.cons {u : Store} {as : List Outcome} {x : Except String Unit} (h : Ended s u a [data] (.ok ()))
    (hu : Leaves profile u t a as) (hsound : Sound profile u) (h' : Ended u t a as x) : Ended s t a (data :: as) x := by
  obtain ⟨⟨hfirst, _⟩, hlast, hmem⟩ := h
  have hlast' : lastOf u a = some data := hlast
  cases x with
  | ok _ =>
    obtain ⟨hsteady, hlater, hall⟩ := h'
    refine ⟨⟨hfirst, hlast' ▸ hsteady⟩, ?_, List.forall_mem_cons.mpr ⟨?_, hall⟩⟩
    · rw [hlater, hlast', List.getLast?_cons]
      cases as.getLast? <;> rfl
    · exact (outcomes_grow hsound hu.sound hu.grows a).subset (hmem data (List.mem_singleton_self _))
  | error e => exact h'.imp (fun h => ⟨h.1, fun hsteady => h.2 (hlast' ▸ hsteady.2)⟩) id

lemma Ended.stopped {as : List Outcome} {e : String} (h : Ended s t a [data] (.error e)) :
    Ended s t a (data :: as) (.error e) :=
  h.imp (fun h => ⟨h.1, fun hsteady => h.2 ⟨hsteady.1, trivial⟩⟩) id

variable {call : Call}

lemma settleOrder_ended {turns : List Turn} (h : Sound profile s) (hknown : Known s r) (hbound : r.orderId ≠ none)
    (hopen : ∀ p ∈ lastOf s r.data.attemptId, p.terminal = false)
    (hvalid : ∀ turn ∈ turns, validateOutcome r.orderId r.data.quantity (answerFor r turn.result) = .ok ())
    {x : Except String Unit} (hx : (settleOrder profile call r turns).exec s = (x, t)) :
    Leaves profile s t r.data.attemptId (answersOf call r turns) ∧
      Ended s t r.data.attemptId (answersOf call r turns) x := by
  induction turns generalizing s with
  | nil =>
    obtain ⟨rfl, rfl⟩ := Prod.mk.inj hx
    exact ⟨.refl h _, ended_nil⟩
  | cons turn later ih =>
    unfold settleOrder at hx
    unfold answersOf
    by_cases hlate : call.readDeadline ≤ turn.started
    · rw [if_pos hlate] at hx ⊢
      obtain ⟨rfl, rfl⟩ := Prod.mk.inj hx
      exact ⟨.refl h _, ended_nil⟩
    · rw [if_neg hlate] at hx ⊢
      dsimp only at hx ⊢
      have hasked : Asked s r (answerFor r turn.result) := ⟨hknown, hbound, hvalid turn List.mem_cons_self⟩
      rw [Attempt.exec_bind] at hx
      cases hobserve : (observe profile r.data.attemptId (answerFor r turn.result) tryLimit).exec s with
      | mk y u =>
        obtain ⟨hleaves, hended⟩ := observe_ended h hasked hopen hobserve
        rw [hobserve] at hx
        cases y with
        | error e =>
          obtain ⟨rfl, rfl⟩ := Prod.mk.inj hx
          exact ⟨hleaves.weaken (by simp), hended.stopped⟩
        | ok _ =>
          dsimp only at hx
          by_cases hstop : (answerFor r turn.result).terminal = true ∨ call.deadline ≤ turn.finished
          · rw [if_pos hstop] at hx ⊢
            obtain ⟨rfl, rfl⟩ := Prod.mk.inj hx
            exact ⟨hleaves, hended⟩
          · rw [if_neg hstop] at hx ⊢
            have hopen' : ∀ p ∈ lastOf u r.data.attemptId, p.terminal = false := by
              rintro p hp
              obtain rfl : answerFor r turn.result = p := Option.some.inj (hended.2.1.symm.trans hp)
              simpa using (not_or.mp hstop).1
            obtain ⟨hleaves', hended'⟩ := ih hleaves.sound (hknown.grow hleaves.grows) hopen'
              (fun turn' ht => hvalid turn' (List.mem_cons_of_mem _ ht)) hx
            exact ⟨hleaves.cons hleaves', hended.cons hleaves' hleaves.sound hended'⟩

end Turns

section Calls

variable {profile : String} {s t u : Store} {r : Record} {rs : List Record} {call : Call}

structure Waiting (s : Store) (call : Call) (r : Record) : Prop where
  known : Known s r
  unsettled : ∀ p ∈ lastOf s r.data.attemptId, p.terminal = false
  valid : ∀ turn ∈ call.turns r, validateOutcome r.orderId r.data.quantity (answerFor r turn.result) = .ok ()

lemma lastOf_congr {a : String} (hs : Sound profile s) (ht : Sound profile t) (h : t.observedOf a = s.observedOf a) :
    lastOf t a = lastOf s a := by
  rw [lastOf, lastOf, outcomes_eq ht, outcomes_eq hs, h]

structure LeavesAll (profile : String) (s t : Store) (call : Call) (rs : List Record) : Prop where
  sound : Sound profile t
  grows : s <+: t
  others : ∀ b ∉ rs.map fun r => r.data.attemptId, t.observedOf b = s.observedOf b
  length : t.length ≤ s.length + (rs.map fun r => (call.answers r).length).sum

def EndedAll (s t : Store) (call : Call) (rs : List Record) : Except String Unit → Prop
  | .ok _ => ∀ r ∈ rs, Ended s t r.data.attemptId (call.answers r) (.ok ())
  | .error e => e = "settlement_nonmonotonic_fill" ∧ (∃ r ∈ rs, ¬ Steady (lastOf s r.data.attemptId) (call.answers r)) ∨
    e = "settlement_scan_incomplete" ∧ scanLimit < t.length

lemma Ended.from {a : String} {as : List Outcome} (h : Ended u t a as (.ok ())) (hlast : lastOf u a = lastOf s a) :
    Ended s t a as (.ok ()) := by
  unfold Ended at h ⊢
  rwa [hlast] at h

lemma Ended.later {a : String} {as : List Outcome} (h : Ended s u a as (.ok ())) (hu : Sound profile u) (ht : Sound profile t)
    (hsame : t.observedOf a = u.observedOf a) : Ended s t a as (.ok ()) := by
  have houtcomes : outcomes t a = outcomes u a := by rw [outcomes_eq ht, outcomes_eq hu, hsame]
  unfold Ended lastOf at h ⊢
  rwa [houtcomes]

lemma Waiting.later (h : Waiting s call r) (hs : Sound profile s) (ht : Sound profile t) (hp : s <+: t)
    (hsame : t.observedOf r.data.attemptId = s.observedOf r.data.attemptId) : Waiting t call r where
  known := h.known.grow hp
  unsettled := by
    rw [lastOf_congr hs ht hsame]
    exact h.unsettled
  valid := h.valid

lemma settleOrders_ended (h : Sound profile s) (hnodup : (rs.map fun r => r.data.attemptId).Nodup)
    (hwaiting : ∀ r ∈ rs, Waiting s call r) {x : Except String Unit}
    (hx : (settleOrders profile call rs).exec s = (x, t)) :
    LeavesAll profile s t call rs ∧ EndedAll s t call rs x := by
  induction rs generalizing s with
  | nil =>
    obtain ⟨rfl, rfl⟩ := Prod.mk.inj hx
    exact ⟨⟨h, List.prefix_rfl, fun _ _ => rfl, Nat.le_add_right _ _⟩, fun _ hr => absurd hr List.not_mem_nil⟩
  | cons r rest ih =>
    rw [List.map_cons, List.nodup_cons] at hnodup
    have hr : Waiting s call r := hwaiting r List.mem_cons_self
    unfold settleOrders at hx
    by_cases hpassed : call.passesOver r = true
    · have hanswers : call.answers r = [] := if_pos hpassed
      rw [if_pos hpassed] at hx
      obtain ⟨hleaves, hended⟩ := ih h hnodup.2 (fun r' hr' => hwaiting r' (List.mem_cons_of_mem _ hr')) hx
      refine ⟨⟨hleaves.sound, hleaves.grows, fun b hb => hleaves.others b fun hin => hb (List.mem_cons_of_mem _ hin), ?_⟩, ?_⟩
      · simpa [hanswers] using hleaves.length
      · cases x with
        | ok _ =>
          refine List.forall_mem_cons.mpr ⟨?_, hended⟩
          rw [hanswers]
          exact (ended_nil (x := ())).later h hleaves.sound (hleaves.others _ hnodup.1)
        | error e => exact hended.imp (fun ⟨he, r', hr', hnot⟩ => ⟨he, r', List.mem_cons_of_mem _ hr', hnot⟩) id
    · have hanswers : call.answers r = answersOf call r (call.turns r) := if_neg hpassed
      have hbound : r.orderId ≠ none := by
        rintro hnone
        simp [Call.passesOver, hnone] at hpassed
      rw [if_neg hpassed, Attempt.exec_bind] at hx
      cases horder : (settleOrder profile call r (call.turns r)).exec s with
      | mk y u =>
        obtain ⟨hleaves, hended⟩ := settleOrder_ended h hr.known hbound hr.unsettled hr.valid horder
        rw [← hanswers] at hleaves hended
        rw [horder] at hx
        cases y with
        | error e =>
          obtain ⟨rfl, rfl⟩ := Prod.mk.inj hx
          refine ⟨⟨hleaves.sound, hleaves.grows, fun b hb => hleaves.others b fun he => hb (he ▸ List.mem_cons_self), ?_⟩, ?_⟩
          · have hl := hleaves.length
            simp only [List.map_cons, List.sum_cons]
            omega
          · exact hended.imp (fun ⟨he, hnot⟩ => ⟨he, r, List.mem_cons_self, hnot⟩) id
        | ok _ =>
          have hother : ∀ r' ∈ rest, r'.data.attemptId ≠ r.data.attemptId :=
            fun r' hr' he => hnodup.1 (he ▸ List.mem_map.mpr ⟨r', hr', rfl⟩)
          have hsame : ∀ r' ∈ rest, lastOf u r'.data.attemptId = lastOf s r'.data.attemptId :=
            fun r' hr' => lastOf_congr h hleaves.sound (hleaves.others _ (hother r' hr'))
          obtain ⟨hleaves', hended'⟩ := ih hleaves.sound hnodup.2 (fun r' hr' =>
            (hwaiting r' (List.mem_cons_of_mem _ hr')).later h hleaves.sound hleaves.grows (hleaves.others _ (hother r' hr'))) hx
          refine ⟨⟨hleaves'.sound, hleaves.grows.trans hleaves'.grows, fun b hb => ?_, ?_⟩, ?_⟩
          · rw [List.map_cons, List.mem_cons, not_or] at hb
            exact (hleaves'.others b hb.2).trans (hleaves.others b hb.1)
          · have hl := hleaves.length
            have hl' := hleaves'.length
            simp only [List.map_cons, List.sum_cons]
            omega
          · cases x with
            | ok _ =>
              refine List.forall_mem_cons.mpr ⟨?_, fun r' hr' => (hended' r' hr').from (hsame r' hr')⟩
              exact hended.later hleaves.sound hleaves'.sound (hleaves'.others _ hnodup.1)
            | error e =>
              refine hended'.imp (fun ⟨he, r', hr', hnot⟩ => ⟨he, r', List.mem_cons_of_mem _ hr', ?_⟩) id
              rwa [← hsame r' hr']

lemma answerFor_valid {turn : Turn} (h : turn.result.orderId = r.orderId →
    validateOutcome r.orderId r.data.quantity turn.result = .ok ()) :
    validateOutcome r.orderId r.data.quantity (answerFor r turn.result) = .ok () := by
  unfold answerFor
  by_cases heq : turn.result.orderId = r.orderId
  · rw [if_neg (not_not.mpr heq)]
    exact h heq
  · rw [if_pos heq]
    simp [validateOutcome, Outcome.unknown, statuses]

lemma unsettledRecords_waiting (hrs : records profile s = .ok rs) (hvalid : call.Validated profile s) :
    ∀ r ∈ rs.filter Record.unsettled, Waiting s call r := by
  intro r hr
  obtain ⟨hmem, hunsettled⟩ := List.mem_filter.mp hr
  have hread : ReadBack s r := records_ok hrs hmem
  have hlast : lastOf s r.data.attemptId = r.observations.getLast?.map Observation.outcome := by
    rw [hread.observations, lastOf, outcomes, List.getLast?_map, List.getLast?_map, Option.map_map]
    rfl
  refine ⟨⟨hread.pending, fun orderId ho => hread.orderId ▸ ho⟩, fun p hp => ?_, fun turn hturn => ?_⟩
  · rw [hlast] at hp
    obtain ⟨o, ho, rfl⟩ := Option.map_eq_some_iff.mp hp
    simpa [Record.unsettled, ho] using hunsettled
  · refine answerFor_valid (hvalid r ?_ turn hturn)
    rw [unsettledRecords, hrs]
    exact hr

def EndedCall (profile : String) (s t : Store) (call : Call) : Except String Summary → Prop
  | .ok _ => ∀ r ∈ unsettledRecords profile s, Ended s t r.data.attemptId (call.answers r) (.ok ())
  | .error e => e ∈ callFailures ∧ ¬ call.Admissible profile s ∨
      e = "settlement_nonmonotonic_fill" ∧ ¬ call.Steady profile s

lemma settlePending_ended (h : Sound profile s) (hvalid : call.Validated profile s) {x : Except String Summary}
    (hx : (settlePending profile call).exec s = (x, t)) :
    EndedCall profile s t call x := by
  unfold settlePending at hx
  split at hx
  · rename_i hbounds
    obtain ⟨rfl, rfl⟩ := Prod.mk.inj hx
    exact .inl ⟨by simp [callFailures], fun ha => hbounds ⟨ha.wait.1, ha.wait.2, ha.orders⟩⟩
  · split at hx
    · rename_i htimeout
      obtain ⟨rfl, rfl⟩ := Prod.mk.inj hx
      exact .inl ⟨by simp [callFailures], fun ha => htimeout ha.timeout⟩
    · rw [Attempt.exec_bind, readRecords, Attempt.exec_of] at hx
      cases hrs : records profile s with
      | error e =>
        rw [hrs] at hx
        obtain ⟨rfl, rfl⟩ := Prod.mk.inj hx
        obtain ⟨rfl, hl⟩ := records_error h hrs
        refine .inl ⟨by simp [callFailures], fun ha => ?_⟩
        have hroom := ha.room
        omega
      | ok rs =>
        rw [hrs] at hx
        dsimp only at hx
        have hunsettled : unsettledRecords profile s = rs.filter Record.unsettled := by rw [unsettledRecords, hrs]
        split at hx
        · rename_i hbatch
          obtain ⟨rfl, rfl⟩ := Prod.mk.inj hx
          refine .inl ⟨by simp [callFailures], fun ha => ?_⟩
          have hfits := ha.batch
          rw [hunsettled] at hfits
          omega
        · have hnodup : ((rs.filter Record.unsettled).map fun r => r.data.attemptId).Nodup :=
            (records_nodup hrs).sublist (List.Sublist.map _ List.filter_sublist)
          rw [Attempt.exec_bind] at hx
          cases horders : (settleOrders profile call (rs.filter Record.unsettled)).exec s with
          | mk y u =>
            obtain ⟨hleaves, hended⟩ := settleOrders_ended h hnodup (unsettledRecords_waiting hrs hvalid) horders
            rw [horders] at hx
            have hfull : scanLimit < u.length → ¬ call.Admissible profile s := by
              intro hl ha
              have hroom := ha.room
              rw [hunsettled] at hroom
              have hlength := hleaves.length
              omega
            cases y with
            | error e =>
              obtain ⟨rfl, rfl⟩ := Prod.mk.inj hx
              rcases hended with ⟨rfl, r, hr, hnot⟩ | ⟨rfl, hl⟩
              · exact .inr ⟨rfl, fun hsteady => hnot (hsteady r (hunsettled ▸ hr))⟩
              · exact .inl ⟨by simp [callFailures], hfull hl⟩
            | ok _ =>
              dsimp only at hx
              rw [Attempt.exec_of] at hx
              obtain ⟨rfl, rfl⟩ := Prod.mk.inj hx
              unfold settlementSummary
              cases hsummary : records profile u with
              | error e =>
                obtain ⟨rfl, hl⟩ := records_error hleaves.sound hsummary
                exact .inl ⟨by simp [callFailures], hfull hl⟩
              | ok _ =>
                rw [← hunsettled] at hended
                exact hended

end Calls

section Main

variable {hasOffset : String → Bool} {profile : String} {s t : Store} {r : Record} {call : Call}

def Onward (profile : String) (s u : Store) : Prop := Sound profile u ∧ s <+: u

lemma observe_keeps (hknown : Known s r) (hbound : r.orderId ≠ none) (data : Outcome) (tries : ℕ) :
    Attempt.Keeps (Onward profile s) (observe profile r.data.attemptId data tries) := by
  induction tries with
  | zero => exact Attempt.keeps_throw
  | succ tries ih =>
    intro u hu
    unfold observe
    rw [Attempt.exec_bind, readRecords, Attempt.exec_of]
    cases hrs : records profile u with
    | error e => exact hu
    | ok rs =>
      dsimp only
      have hknown' : Known u r := hknown.grow hu.2
      obtain ⟨current, hfound, hread, hsame⟩ := find_record hrs hknown'.pending
      rw [hfound]
      dsimp only
      cases hturn : observeTurn current data with
      | error e => exact hu
      | ok next =>
        cases next with
        | none => exact hu
        | some sequence =>
          have hready := observeTurn_ready hu.1 hread hsame hknown' hbound hturn
          dsimp only
          rw [claim, Attempt.exec_bind, Attempt.exec_total]
          rcases claimMarker_cases u ⟨r.data.attemptId, .observed sequence ⟨sequence, data⟩⟩ with ⟨hc, _⟩ | ⟨hc, hfresh⟩
          · rw [hc]
            exact ih u hu
          · rw [hc]
            exact ⟨Ready.observe hu.1 hknown' hready hfresh, hu.2.trans (List.prefix_append _ _)⟩

lemma settleOrder_keeps (hknown : Known s r) (hbound : r.orderId ≠ none) (turns : List Turn) :
    Attempt.Keeps (Onward profile s) (settleOrder profile call r turns) := by
  induction turns with
  | nil => exact Attempt.keeps_pure ()
  | cons turn later ih =>
    unfold settleOrder
    split
    · exact Attempt.keeps_pure ()
    · refine Attempt.keeps_bind (observe_keeps hknown hbound _ _) fun _ => ?_
      split
      · exact Attempt.keeps_pure ()
      · exact ih

lemma settleOrders_keeps {rs : List Record} (hknown : ∀ r ∈ rs, Known s r) :
    Attempt.Keeps (Onward profile s) (settleOrders profile call rs) := by
  induction rs with
  | nil => exact Attempt.keeps_pure ()
  | cons r rest ih =>
    obtain ⟨hr, hrest⟩ := List.forall_mem_cons.mp hknown
    unfold settleOrders
    split
    · exact ih hrest
    · rename_i hpassed
      have hbound : r.orderId ≠ none := by
        intro hnone
        simp [Call.passesOver, hnone] at hpassed
      exact Attempt.keeps_bind (settleOrder_keeps hr hbound _) fun _ => ih hrest

lemma settlePending_keeps (h : Sound profile s) : Onward profile s ((settlePending profile call).exec s).2 := by
  have hs : Onward profile s s := ⟨h, List.prefix_rfl⟩
  unfold settlePending
  split
  · exact hs
  · split
    · exact hs
    · rw [Attempt.exec_bind, readRecords, Attempt.exec_of]
      cases hrs : records profile s with
      | error e => exact hs
      | ok rs =>
        have hknown : ∀ r ∈ rs.filter Record.unsettled, Known s r := by
          intro r hr
          have hread : ReadBack s r := records_ok hrs (List.mem_of_mem_filter hr)
          exact ⟨hread.pending, fun orderId ho => hread.orderId ▸ ho⟩
        have hkeeps : Attempt.Keeps (Onward profile s) (do
            settleOrders profile call (rs.filter Record.unsettled)
            .of fun s => (settlementSummary profile s, s)) :=
          Attempt.keeps_bind (settleOrders_keeps hknown) fun _ => Attempt.keeps_of fun _ hu => hu
        dsimp only
        split
        · exact hs
        · exact hkeeps s hs

lemma operate_sound (h : Sound profile s) {l : Operation} (hstep : operate hasOffset profile s l = some t) :
    Sound profile t := by
  cases l with
  | prepare data =>
    obtain rfl := Option.some.inj hstep
    exact (h.prepare rfl).1
  | bindOrder attempt orderId =>
    simp only [operate, Option.ite_none_right_eq_some, Option.some.injEq] at hstep
    obtain ⟨hprepared, rfl⟩ := hstep
    obtain ⟨data, hdata⟩ := Option.isSome_iff_exists.mp hprepared
    unfold Observers.bindOrder
    split
    · exact h
    · exact (Sound.create (e := ⟨attempt, .broker orderId⟩) h hdata rfl rfl).1
  | mark e =>
    simp only [operate, Option.ite_none_right_eq_some, Option.some.injEq] at hstep
    obtain ⟨⟨haside, hprepared⟩, rfl⟩ := hstep
    obtain ⟨data, hdata⟩ := Option.isSome_iff_exists.mp hprepared
    exact (Sound.create h hdata rfl haside).1
  | settle call =>
    obtain rfl := Option.some.inj hstep
    exact (settlePending_keeps h).1

lemma reachable_sound (h : (operations hasOffset profile).Reachable s) : Sound profile s :=
  h.invariant (fun _ hs => hs ▸ sound_nil) fun s l t hs (hn : operate hasOffset profile s l = some t) => operate_sound hs hn

lemma unblocked_of_steady (h : Sound profile s) (hvalid : call.Validated profile s) (hsteady : call.Steady profile s) :
    Unblocked profile s call := by
  obtain ⟨hsound, hp⟩ : Onward profile s ((settlePending profile call).exec s).2 := settlePending_keeps h
  have hended := settlePending_ended h hvalid (Prod.mk.eta (p := (settlePending profile call).exec s)).symm
  refine ⟨fun e he => ?_, fun attempt => outcomes_grow h hsound hp attempt, fun summary hs r hr hasked => ?_⟩
  · rw [he] at hended
    exact (hended.resolve_right fun hblame => hblame.2 hsteady).1
  · rw [hs] at hended
    obtain ⟨_, hlast, hmem⟩ := hended r hr
    obtain ⟨o, ho⟩ := Option.ne_none_iff_exists'.mp (fun hnone => hasked (List.getLast?_eq_none_iff.mp hnone))
    rw [ho] at hlast ⊢
    exact ⟨hlast, hmem⟩

lemma steady_of_unblocked (h : Sound profile s) (hvalid : call.Validated profile s) (hadmissible : call.Admissible profile s)
    (hunblocked : Unblocked profile s call) : call.Steady profile s := by
  have hended := settlePending_ended h hvalid (Prod.mk.eta (p := (settlePending profile call).exec s)).symm
  cases hx : ((settlePending profile call).exec s).1 with
  | ok summary =>
    rw [hx] at hended
    exact fun r hr => (hended r hr).1
  | error e =>
    have hquiet : e ∈ callFailures := hunblocked.quiet e hx
    rw [hx] at hended
    rcases hended with ⟨_, hnot⟩ | ⟨rfl, _⟩
    · exact absurd hadmissible hnot
    · simp [callFailures] at hquiet

/-- After any operations, a call settles what it reaches where no reading of an order says less filled than the one before it,
and within its bounds only there. -/
theorem settles_iff_steady (h : (operations hasOffset profile).Reachable s) (hvalid : call.Validated profile s) :
    (call.Steady profile s → Unblocked profile s call) ∧
      (call.Admissible profile s → (Unblocked profile s call ↔ call.Steady profile s)) :=
  ⟨unblocked_of_steady (reachable_sound h) hvalid, fun hadmissible =>
    ⟨steady_of_unblocked (reachable_sound h) hvalid hadmissible, unblocked_of_steady (reachable_sound h) hvalid⟩⟩

end Main

section Fixture

def steadyDecidable : (prior : Option Outcome) → (as : List Outcome) → Decidable (Steady prior as)
  | _, [] => .isTrue trivial
  | prior, data :: later =>
    have : Decidable (Steady (some data) later) := steadyDecidable (some data) later
    inferInstanceAs (Decidable ((∀ p ∈ prior, p.filled ≤ data.filled) ∧ Steady (some data) later))

instance (prior : Option Outcome) (as : List Outcome) : Decidable (Steady prior as) := steadyDecidable prior as

def attempt₁ : String := String.ofList (List.replicate 64 'b')

def order₁ : Pending := { order₀ with attemptId := attempt₁, symbol := "SOXL" }

def partial₀ : Outcome := ⟨some "73", "partially_filled", some 2, some 1, some 52, none, none, false, [⟨"execution", 2, 52⟩]⟩

def call₀ (answer : String → Outcome) : Call where
  waitSeconds := 0
  maxOrders := 100
  timeoutSeconds := 15
  entered := (0, 0)
  reached _ := 1
  turns r := [⟨1, answer r.data.attemptId, 1⟩, ⟨16, answer r.data.attemptId, 16⟩]
  ends r := ⟨⟨16, answer r.data.attemptId, 16⟩, by simp, (by decide +kernel : (0 : ℚ) + 15 ≤ 16)⟩

def pending₁ : Outcome := { pending₀ with orderId := some "74" }

def filled₁ : Outcome := { filled₀ with orderId := some "74" }

def partly₀ : List Operation :=
  [.prepare order₀, .bindOrder attempt₀ "73", .prepare order₁, .bindOrder attempt₁ "74",
    .settle (call₀ fun attempt => if attempt = attempt₀ then partial₀ else pending₁)]

def store₀ : Store :=
  [⟨attempt₀, .pending order₀⟩, ⟨attempt₀, .broker "73"⟩, ⟨attempt₁, .pending order₁⟩, ⟨attempt₁, .broker "74"⟩,
    ⟨attempt₀, .observed 1 ⟨1, partial₀⟩⟩, ⟨attempt₁, .observed 1 ⟨1, pending₁⟩⟩]

def later₀ (first : Outcome) : Call := call₀ fun attempt => if attempt = attempt₀ then first else filled₁

def failure : Except String Summary → Option String
  | .ok _ => none
  | .error e => some e

lemma store₀_reachable : (operations (fun _ => true) "alpha").Reachable store₀ := by
  have hexecute : System.execute (operate (fun _ => true) "alpha") [] partly₀ = some store₀ := by decide +kernel
  exact ⟨[], partly₀, rfl, System.run_of_execute hexecute⟩

lemma later₀_ends : (later₀ filled₀).Validated "alpha" store₀ ∧ (later₀ filled₀).Steady "alpha" store₀ ∧
    (later₀ (.unknown (some "73"))).Validated "alpha" store₀ ∧
    failure ((settlePending "alpha" (later₀ (.unknown (some "73")))).exec store₀).1 = some "settlement_nonmonotonic_fill" := by
  unfold Call.Validated Call.Steady
  decide +kernel

theorem settles_iff_steady₀ : (later₀ filled₀).Steady "alpha" store₀ ∧ Unblocked "alpha" store₀ (later₀ filled₀) := by
  obtain ⟨hvalid, hsteady, _⟩ := later₀_ends
  exact ⟨hsteady, (settles_iff_steady store₀_reachable hvalid).1 hsteady⟩

theorem unknown_reading_blocks : ¬ ∀ (s : Store) (call : Call), (operations (fun _ => true) "alpha").Reachable s →
    call.Validated "alpha" s → Unblocked "alpha" s call := by
  intro h
  obtain ⟨_, _, hvalid, hfailure⟩ := later₀_ends
  have hunblocked := h store₀ _ store₀_reachable hvalid
  cases hx : ((settlePending "alpha" (later₀ (.unknown (some "73")))).exec store₀).1 with
  | ok _ => simp [hx, failure] at hfailure
  | error e =>
    have hquiet := hunblocked.quiet e hx
    rw [hx, failure, Option.some.injEq] at hfailure
    simp [hfailure, callFailures] at hquiet

end Fixture

end IbkrPlatform.Settlement.SettlePass
