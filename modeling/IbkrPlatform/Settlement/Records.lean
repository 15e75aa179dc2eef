import IbkrPlatform.Library.EarlyExit
import IbkrPlatform.Library.SortedList
import Mathlib.Data.List.Sort
import Mathlib.Data.String.Basic
import IbkrPlatform.Execution.RiskAuthority

/-! The markers of a settlement store, and the records that they are read back as. -/

namespace IbkrPlatform.Settlement

open Execution.RiskAuthority (isClose)

structure Fill where
  executionId : String
  quantity : ℚ
  price : ℚ
deriving DecidableEq

structure Outcome where
  orderId : Option String
  status : String
  filledQty : Option ℚ
  remaining : Option ℚ
  avgPrice : Option ℚ
  commission : Option ℚ
  lastUpdate : Option String
  terminal : Bool
  fills : List Fill
deriving DecidableEq

def Outcome.filled (o : Outcome) : ℚ := o.filledQty.getD 0

/-- `OrderOutcome(order_id, 'unknown')`. -/
def Outcome.unknown (orderId : Option String) : Outcome := ⟨orderId, "unknown", none, none, none, none, none, false, []⟩

structure Pending where
  attemptId : String
  symbol : String
  side : String
  quantity : ℚ
  clientId : ℕ
  submittedAt : String
  sourceRunId : String
  sourceStartedAt : String
  strategy : String
deriving DecidableEq

structure Observation where
  sequence : ℕ
  outcome : Outcome
deriving DecidableEq

inductive Marker
  | pending (data : Pending)
  | broker (orderId : String)
  | permanent (permanentId : ℕ)
  | observed (number : ℕ) (observation : Observation)
  | noticeAttempt
  | noticeReceipt
deriving DecidableEq

inductive Suffix
  | pending
  | broker
  | permanent
  | observed (number : ℕ)
  | noticeAttempt
  | noticeReceipt
deriving DecidableEq

def Marker.suffix : Marker → Suffix
  | .pending _ => .pending
  | .broker _ => .broker
  | .permanent _ => .permanent
  | .observed number _ => .observed number
  | .noticeAttempt => .noticeAttempt
  | .noticeReceipt => .noticeReceipt

def Marker.isAside : Marker → Bool
  | .pending _ | .observed _ _ => false
  | .broker _ | .permanent _ | .noticeAttempt | .noticeReceipt => true

structure Entry where
  attempt : String
  marker : Marker
deriving DecidableEq

def Entry.key (e : Entry) : String × Suffix := (e.attempt, e.marker.suffix)

/-- The markers of one account and profile, in the order of their creation. -/
abbrev Store := List Entry

namespace Store

/-- `claim_marker`: the exclusive creation of a marker. -/
def claimMarker (s : Store) (e : Entry) : Store × Bool :=
  if e.key ∈ s.map Entry.key then (s, false) else (s ++ [e], true)

def create (s : Store) (e : Entry) : Store × Except String Bool :=
  if (s.claimMarker e).2 then ((s.claimMarker e).1, .ok true)
  else if e ∈ s then (s, .ok false)
  else (s, .error "settlement_identity_conflict")

variable (s : Store) (attempt : String)

def pendingOf : Option Pending :=
  s.findSome? fun e => match e.marker with
    | .pending data => if e.attempt = attempt then some data else none
    | _ => none

def brokerOf : Option String :=
  s.findSome? fun e => match e.marker with
    | .broker orderId => if e.attempt = attempt then some orderId else none
    | _ => none

def permanentOf : Option ℕ :=
  s.findSome? fun e => match e.marker with
    | .permanent permanentId => if e.attempt = attempt then some permanentId else none
    | _ => none

def observedOf : List (ℕ × Observation) :=
  s.filterMap fun e => match e.marker with
    | .observed number observation => if e.attempt = attempt then some (number, observation) else none
    | _ => none

def observations : List (ℕ × Observation) := (s.observedOf attempt).insertionSort fun a b => a.1 ≤ b.1

def attempts : List String := (s.map Entry.attempt).eraseDups.insertionSort (· ≤ ·)

end Store

section Creation

variable {s t : Store} {e : Entry}

lemma claimMarker_cases (s : Store) (e : Entry) : s.claimMarker e = (s, false) ∧ e.key ∈ s.map Entry.key ∨
    s.claimMarker e = (s ++ [e], true) ∧ e.key ∉ s.map Entry.key := by
  unfold Store.claimMarker
  split
  · rename_i h
    exact .inl ⟨rfl, h⟩
  · rename_i h
    exact .inr ⟨rfl, h⟩

lemma create_cases {t : Store} {x : Except String Bool} (h : s.create e = (t, x)) :
    t = s ∧ (∀ b, x = .ok b → e ∈ s) ∨ t = s ++ [e] ∧ e.key ∉ s.map Entry.key := by
  unfold Store.create at h
  rcases claimMarker_cases s e with ⟨hc, _⟩ | ⟨hc, hfresh⟩
  · rw [hc] at h
    simp only [Bool.false_eq_true, if_false] at h
    split at h
    · rename_i hm
      obtain ⟨rfl, rfl⟩ := Prod.mk.inj h
      exact .inl ⟨rfl, fun _ _ => hm⟩
    · obtain ⟨rfl, rfl⟩ := Prod.mk.inj h
      exact .inl ⟨rfl, nofun⟩
  · rw [hc] at h
    obtain ⟨rfl, rfl⟩ := Prod.mk.inj h
    exact .inr ⟨rfl, hfresh⟩

end Creation

structure Record where
  data : Pending
  orderId : Option String
  permanentId : Option ℕ
  observations : List Observation

def Record.unsettled (record : Record) : Bool := !(record.observations.getLast?.any fun o => o.outcome.terminal)

section Checks

def isHexDigit (c : Char) : Bool := '0' ≤ c ∧ c ≤ '9' ∨ 'a' ≤ c ∧ c ≤ 'f'

/-- The pattern of an attempt in `_key`. -/
def validAttempt (attempt : String) : Bool := attempt.length = 64 ∧ attempt.toList.all isHexDigit

def statuses : List String := ["filled", "partially_filled", "pending", "cancelled", "rejected", "unknown"]

def terminalStatuses : List String := ["filled", "cancelled", "rejected"]

/-- The facts of an outcome whose status is known, for an order of `quantity`. -/
def factsValid (quantity : ℚ) (o : Outcome) : Bool :=
  match o.filledQty, o.remaining with
  | some filled, some remaining =>
    0 ≤ filled ∧ 0 ≤ remaining ∧ isClose (filled + remaining) quantity (1 / 1000000000) 0 ∧
      (0 < filled → 0 < o.avgPrice.getD 0) ∧ o.terminal = decide (o.status ∈ terminalStatuses) ∧
      (o.status = "filled" → remaining = 0 ∧ filled = quantity) ∧ (o.status = "rejected" → filled = 0)
  | _, _ => false

def validateOutcome (orderId : Option String) (quantity : ℚ) (o : Outcome) : Except String Unit :=
  if o.orderId ≠ orderId then .error "settlement_order_mismatch"
  else if o.status ∉ statuses then .error "settlement_status_invalid"
  else if o.status = "unknown" then if o.terminal then .error "settlement_unknown_terminal" else .ok ()
  else if factsValid quantity o then .ok () else .error "settlement_facts_invalid"

def checkHistory (orderId : Option String) (quantity : ℚ) : ℕ → Option Outcome → List (ℕ × Observation) → Except String Unit
  | _, _, [] => .ok ()
  | index, previous, (number, o) :: rest =>
    if number ≠ index ∨ o.sequence ≠ index then .error "settlement_sequence_invalid"
    else match validateOutcome orderId quantity o.outcome with
      | .error e => .error e
      | .ok () =>
        if previous.any fun p => p.terminal ∨ o.outcome.filled < p.filled then .error "settlement_history_invalid"
        else checkHistory orderId quantity (index + 1) (some o.outcome) rest

end Checks

section Records

def collect {ε α β : Type} (f : α → Except ε β) : List α → Except ε (List β)
  | [] => .ok []
  | x :: xs =>
    match f x with
    | .error e => .error e
    | .ok y =>
      match collect f xs with
      | .error e => .error e
      | .ok ys => .ok (y :: ys)

lemma collect_ok {ε α β : Type} {f : α → Except ε β} {xs : List α} (h : ∀ x ∈ xs, ∃ y, f x = .ok y) :
    ∃ ys, collect f xs = .ok ys := by
  induction xs with
  | nil => exact ⟨[], rfl⟩
  | cons x xs ih =>
    obtain ⟨y, hy⟩ := h x List.mem_cons_self
    obtain ⟨ys, hys⟩ := ih fun z hz => h z (List.mem_cons_of_mem x hz)
    exact ⟨y :: ys, by simp only [collect, hy, hys]⟩

lemma collect_forall {ε α β : Type} {f : α → Except ε β} {xs : List α} {ys : List β} (h : collect f xs = .ok ys) :
    List.Forall₂ (fun x y => f x = .ok y) xs ys := by
  induction xs generalizing ys with
  | nil =>
    obtain rfl := Except.ok.inj h
    exact .nil
  | cons x xs ih =>
    simp only [collect] at h
    cases hx : f x with
    | error e => simp [hx] at h
    | ok y =>
      cases hxs : collect f xs with
      | error e => simp [hx, hxs] at h
      | ok zs =>
        simp only [hx, hxs, Except.ok.injEq] at h
        exact h ▸ .cons hx (ih hxs)

lemma collect_mem {ε α β : Type} {f : α → Except ε β} {xs : List α} {ys : List β} (h : collect f xs = .ok ys) :
    (∀ x ∈ xs, ∃ y, f x = .ok y) ∧ ∀ y ∈ ys, ∃ x ∈ xs, f x = .ok y := by
  have hall : List.Forall₂ (fun x y => f x = .ok y) xs ys := collect_forall h
  clear h
  induction hall with
  | nil => exact ⟨nofun, nofun⟩
  | @cons x y xs ys hx _ ih =>
    refine ⟨List.forall_mem_cons.mpr ⟨⟨y, hx⟩, ih.1⟩, List.forall_mem_cons.mpr ⟨⟨x, List.mem_cons_self, hx⟩, fun z hz => ?_⟩⟩
    obtain ⟨x', hx', hf⟩ := ih.2 z hz
    exact ⟨x', List.mem_cons_of_mem x hx', hf⟩

lemma collect_keys {ε α β γ : Type} {f : α → Except ε β} {g : β → γ} {k : α → γ} {xs : List α} {ys : List β}
    (h : collect f xs = .ok ys) (hk : ∀ x y, f x = .ok y → g y = k x) : ys.map g = xs.map k := by
  have hall : List.Forall₂ (fun x y => f x = .ok y) xs ys := collect_forall h
  clear h
  induction hall with
  | nil => rfl
  | cons hx _ ih => rw [List.map_cons, List.map_cons, hk _ _ hx, ih]

def checkEntry (profile : String) (e : Entry) : Except String Unit :=
  if !validAttempt e.attempt then .error "settlement_attempt_invalid"
  else match e.marker with
    | .pending data =>
      if data.attemptId ≠ e.attempt ∨ data.strategy ≠ profile then .error "settlement_record_invalid" else .ok ()
    | _ => .ok ()

def pendingRecord (s : Store) (attempt : String) : Except String Pending :=
  match s.pendingOf attempt with
  | none => .error "settlement_pending_record_missing"
  | some data => .ok data

def recordOf (s : Store) (data : Pending) : Except String Record :=
  let observations := s.observations data.attemptId
  match checkHistory (s.brokerOf data.attemptId) data.quantity 1 none observations with
  | .error e => .error e
  | .ok () => .ok ⟨data, s.brokerOf data.attemptId, s.permanentOf data.attemptId, observations.map Prod.snd⟩

def scanLimit : ℕ := 10000

def records (profile : String) (s : Store) : Except String (List Record) :=
  if scanLimit < s.length then .error "settlement_scan_incomplete"
  else do
    let _ ← collect (checkEntry profile) s
    let pending ← collect (pendingRecord s) s.attempts
    collect (recordOf s) pending

end Records

section History

variable {orderId : Option String} {quantity : ℚ} {index : ℕ} {previous : Option Outcome} {l : List (ℕ × Observation)}

def Follows (o o' : Outcome) : Prop := o.terminal = false ∧ o.filled ≤ o'.filled

lemma checkHistory_cons {n : ℕ} {o : Observation} : checkHistory orderId quantity index previous ((n, o) :: l) = .ok () ↔
    (n = index ∧ o.sequence = index) ∧ validateOutcome orderId quantity o.outcome = .ok () ∧
      (∀ p ∈ previous, Follows p o.outcome) ∧ checkHistory orderId quantity (index + 1) (some o.outcome) l = .ok () := by
  have hany : (previous.any fun p => decide (p.terminal = true ∨ o.outcome.filled < p.filled)) = true ↔
      ¬ ∀ p ∈ previous, Follows p o.outcome := by
    cases previous with
    | none => simp
    | some p => simp only [Option.any_some, decide_eq_true_eq, Option.mem_def, Option.some.injEq, forall_eq', Follows,
        not_and_or, not_le, Bool.not_eq_false]
  conv_lhs => unfold checkHistory
  by_cases hn : n ≠ index ∨ o.sequence ≠ index
  · rw [if_pos hn]
    exact iff_of_false nofun fun h => hn.elim (· h.1.1) (· h.1.2)
  · rw [if_neg hn]
    push Not at hn
    cases hv : validateOutcome orderId quantity o.outcome with
    | error e => exact iff_of_false nofun fun h => nomatch h.2.1
    | ok =>
      dsimp only
      by_cases hp : ∀ p ∈ previous, Follows p o.outcome
      · rw [if_neg (fun h => hany.mp h hp)]
        exact ⟨fun h => ⟨hn, rfl, hp, h⟩, fun h => h.2.2.2⟩
      · rw [if_pos (hany.mpr hp)]
        exact iff_of_false nofun fun h => hp h.2.2.1

def lastOutcome (previous : Option Outcome) (l : List (ℕ × Observation)) : Option Outcome :=
  (l.getLast?.map fun x => x.2.outcome).or previous

lemma checkHistory_snoc {n : ℕ} {o : Observation} :
    checkHistory orderId quantity index previous (l ++ [(n, o)]) = .ok () ↔
      checkHistory orderId quantity index previous l = .ok () ∧ (n = index + l.length ∧ o.sequence = index + l.length) ∧
        validateOutcome orderId quantity o.outcome = .ok () ∧ ∀ p ∈ lastOutcome previous l, Follows p o.outcome := by
  induction l generalizing index previous with
  | nil =>
    have hnil : ∀ i p, checkHistory orderId quantity i p [] = .ok () := fun _ _ => rfl
    rw [List.nil_append, checkHistory_cons]
    simp only [hnil, and_true, true_and, lastOutcome, List.getLast?_nil, Option.map_none, Option.none_or, List.length_nil,
      Nat.add_zero]
  | cons x l ih =>
    obtain ⟨m, x⟩ := x
    have hlast : lastOutcome previous ((m, x) :: l) = lastOutcome (some x.outcome) l := by
      cases hl : l.getLast? <;> simp [lastOutcome, List.getLast?_cons, hl]
    have hlength : index + 1 + l.length = index + (l.length + 1) := by omega
    rw [List.cons_append, checkHistory_cons, checkHistory_cons, ih, hlast, List.length_cons, hlength]
    tauto

structure Ordered (orderId : Option String) (quantity : ℚ) (index : ℕ) (l : List (ℕ × Observation)) : Prop where
  numbers : l.map Prod.fst = List.range' index l.length
  sequences : ∀ x ∈ l, x.2.sequence = x.1
  valid : ∀ x ∈ l, validateOutcome orderId quantity x.2.outcome = .ok ()
  follows : l.Pairwise fun x y => Follows x.2.outcome y.2.outcome

lemma checkHistory_ordered (h : checkHistory orderId quantity index previous l = .ok ()) :
    Ordered orderId quantity index l ∧ ∀ p ∈ previous, ∀ x ∈ l, Follows p x.2.outcome := by
  induction l generalizing index previous with
  | nil => exact ⟨⟨rfl, fun _ hx => absurd hx List.not_mem_nil, fun _ hx => absurd hx List.not_mem_nil, .nil⟩,
      fun _ _ _ hx => absurd hx List.not_mem_nil⟩
  | cons x l ih =>
    obtain ⟨n, x⟩ := x
    obtain ⟨⟨rfl, hs⟩, hv, hp, hrest⟩ := checkHistory_cons.mp h
    obtain ⟨hl, hx⟩ := ih hrest
    refine ⟨⟨?_, ?_, ?_, List.pairwise_cons.mpr ⟨fun y hy => hx _ rfl y hy, hl.follows⟩⟩, fun p hp' y hy => ?_⟩
    · rw [List.map_cons, hl.numbers, List.length_cons, List.range'_succ]
    · exact List.forall_mem_cons.mpr ⟨hs, hl.sequences⟩
    · exact List.forall_mem_cons.mpr ⟨hv, hl.valid⟩
    · have hfirst : Follows p x.outcome := hp p hp'
      rcases List.mem_cons.mp hy with rfl | hy
      · exact hfirst
      · exact ⟨hfirst.1, hfirst.2.trans (hx _ rfl y hy).2⟩

end History

section Reading

variable {profile : String} {s t : Store} {a : String} {e : Entry}

lemma pendingOf_mem {data : Pending} (h : s.pendingOf a = some data) : ⟨a, .pending data⟩ ∈ s := by
  obtain ⟨e, he, hm⟩ := List.exists_of_findSome?_eq_some h
  split at hm
  · rename_i data' hmarker
    split at hm
    · rename_i ha
      obtain rfl := Option.some.inj hm
      obtain ⟨attempt, marker⟩ := e
      exact ha ▸ hmarker ▸ he
    · cases hm
  · cases hm

lemma pendingOf_grows (h : s <+: t) {data : Pending} (hs : s.pendingOf a = some data) : t.pendingOf a = some data := by
  obtain ⟨later, rfl⟩ := h
  rw [Store.pendingOf, List.findSome?_append]
  rw [Store.pendingOf] at hs
  rw [hs]
  rfl

lemma brokerOf_grows (h : s <+: t) {orderId : String} (hs : s.brokerOf a = some orderId) : t.brokerOf a = some orderId := by
  obtain ⟨later, rfl⟩ := h
  rw [Store.brokerOf, List.findSome?_append]
  rw [Store.brokerOf] at hs
  rw [hs]
  rfl

lemma observedOf_append (s later : Store) (a : String) :
    Store.observedOf (s ++ later) a = s.observedOf a ++ Store.observedOf later a := List.filterMap_append

lemma observedOf_grows (h : s <+: t) : s.observedOf a <+: t.observedOf a := by
  obtain ⟨later, rfl⟩ := h
  exact ⟨_, (observedOf_append _ _ _).symm⟩

lemma observedOf_mem {n : ℕ} {o : Observation} (h : (n, o) ∈ s.observedOf a) : ⟨a, .observed n o⟩ ∈ s := by
  obtain ⟨e, he, hm⟩ := List.mem_filterMap.mp h
  split at hm
  · rename_i hmarker
    split at hm
    · rename_i ha
      cases hm
      obtain ⟨attempt, marker⟩ := e
      exact ha ▸ hmarker ▸ he
    · cases hm
  · cases hm

lemma observations_eq {orderId : Option String} {quantity : ℚ}
    (h : checkHistory orderId quantity 1 none (s.observedOf a) = .ok ()) : s.observations a = s.observedOf a := by
  have hsorted : (s.observedOf a).Pairwise fun x y => x.1 ≤ y.1 := by
    rw [← List.pairwise_map (f := Prod.fst) (R := (· ≤ ·)), (checkHistory_ordered h).1.numbers]
    exact List.pairwise_le_range'
  exact List.Pairwise.insertionSort_eq hsorted

lemma mem_attempts : a ∈ s.attempts ↔ ∃ e ∈ s, e.attempt = a := by
  simp [Store.attempts, List.mem_insertionSort]

lemma checkEntry_pending {data : Pending} (h : checkEntry profile ⟨a, .pending data⟩ = .ok ()) :
    data.attemptId = a ∧ data.strategy = profile := by
  unfold checkEntry at h
  split at h
  · cases h
  · dsimp only at h
    split at h
    · cases h
    · rename_i hok
      push Not at hok
      exact hok

lemma records_inv {rs : List Record} (h : records profile s = .ok rs) : ∃ us pending, collect (checkEntry profile) s = .ok us ∧
    collect (pendingRecord s) s.attempts = .ok pending ∧ collect (recordOf s) pending = .ok rs := by
  unfold records at h
  split at h
  · cases h
  · obtain ⟨us, hc, h⟩ := Library.EarlyExit.ok_of_bind h
    obtain ⟨pending, hp, h⟩ := Library.EarlyExit.ok_of_bind h
    exact ⟨us, pending, hc, hp, h⟩

structure ReadBack (s : Store) (r : Record) : Prop where
  pending : s.pendingOf r.data.attemptId = some r.data
  orderId : r.orderId = s.brokerOf r.data.attemptId
  observations : r.observations = (s.observations r.data.attemptId).map Prod.snd
  history : checkHistory r.orderId r.data.quantity 1 none (s.observations r.data.attemptId) = .ok ()

lemma records_ok {rs : List Record} (h : records profile s = .ok rs) {r : Record} (hr : r ∈ rs) : ReadBack s r := by
  obtain ⟨us, pending, hc, hp, h⟩ := records_inv h
  obtain ⟨data, hdata, hrecord⟩ := (collect_mem h).2 r hr
  obtain ⟨a, _, hpending⟩ := (collect_mem hp).2 data hdata
  unfold pendingRecord at hpending
  split at hpending
  · cases hpending
  · rename_i found hfound
    obtain rfl := Except.ok.inj hpending
    obtain ⟨u, hu⟩ := (collect_mem hc).1 _ (pendingOf_mem hfound)
    obtain ⟨rfl, _⟩ := checkEntry_pending hu
    unfold recordOf at hrecord
    extract_lets observations at hrecord
    cases hh : checkHistory (s.brokerOf found.attemptId) found.quantity 1 none observations with
    | error e => simp [hh] at hrecord
    | ok =>
      simp only [hh, Except.ok.injEq] at hrecord
      exact hrecord ▸ ⟨hfound, rfl, rfl, hh⟩

lemma attempts_nodup : s.attempts.Nodup := (List.perm_insertionSort _ _).nodup_iff.mpr (Library.SortedList.nodup_eraseDups _)

lemma pendingRecord_attempt {data : Pending} (hc : ∃ us, collect (checkEntry profile) s = .ok us)
    (h : pendingRecord s a = .ok data) : data.attemptId = a := by
  obtain ⟨us, hus⟩ := hc
  unfold pendingRecord at h
  split at h
  · cases h
  · rename_i found hfound
    obtain rfl := Except.ok.inj h
    obtain ⟨u, hu⟩ := (collect_mem hus).1 _ (pendingOf_mem hfound)
    exact (checkEntry_pending hu).1

lemma recordOf_data {data : Pending} {r : Record} (h : recordOf s data = .ok r) : r.data = data := by
  unfold recordOf at h
  dsimp only at h
  split at h
  · cases h
  · exact (Except.ok.inj h) ▸ rfl

lemma records_attempts {rs : List Record} (h : records profile s = .ok rs) :
    (rs.map fun r => r.data.attemptId) = s.attempts := by
  obtain ⟨us, pending, hc, hp, h⟩ := records_inv h
  have hrecords : rs.map (fun r => r.data.attemptId) = pending.map Pending.attemptId :=
    collect_keys h fun data r hr => by rw [recordOf_data hr]
  have hpending : pending.map Pending.attemptId = s.attempts.map id :=
    collect_keys hp fun a data hdata => pendingRecord_attempt ⟨us, hc⟩ hdata
  rw [hrecords, hpending, List.map_id]

lemma records_nodup {rs : List Record} (h : records profile s = .ok rs) : (rs.map fun r => r.data.attemptId).Nodup := by
  rw [records_attempts h]
  exact attempts_nodup

end Reading

end IbkrPlatform.Settlement
