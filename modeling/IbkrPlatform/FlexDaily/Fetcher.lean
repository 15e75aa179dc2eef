import Mathlib.Data.NNRat.Defs
import Mathlib.Tactic.Linarith
import IbkrPlatform.Library.Chronicle

/-! The pace at which a fetcher asks the provider for reports, over all of its calls. -/

namespace IbkrPlatform.FlexDaily.Fetcher

open Library.Chronicle

inductive Failure
  | pending
  | source (providerErrorCode : Option String)
  | budgetExhausted
  | other
deriving DecidableEq

inductive Request (H : Type)
  | generation (fromDate toDate : String)
  | collection (handle : H)

variable {H C A : Type}

namespace Request

def isGeneration : Request H → Bool
  | generation _ _ => true
  | collection _ => false

def isCollection : Request H → Bool
  | generation _ _ => false
  | collection _ => true

end Request

structure Entry (H : Type) where
  request : Request H
  start : ℚ
  computed : ℚ
  pause : ℚ
  refusal : Option Failure

def throttle : Failure := .source (some "1018")

def Entry.throttled (e : Entry H) : Bool := e.refusal = some throttle

/-- The time that passes at each reading, at the end of each sleep and during each request, and what is answered. -/
structure World (H C : Type) where
  lapse : ℕ → ℚ≥0
  generation : ℕ → Except Failure H
  collection : ℕ → Except Failure C

structure Run (H : Type) where
  tick : ℕ
  now : ℚ
  last : ℚ
  floor : ℚ
  computed : ℚ
  pause : ℚ
  requests : List (Entry H)

def throttleBackoff : ℚ := 60

def pollDelays : List ℚ := [10, 20, 40, 80, 120, 120]

section Code

variable (w : World H C) (deadline : ℚ)

def Run.pass (s : Run H) (p : ℚ) : Run H := { s with tick := s.tick + 1, now := s.now + p + w.lapse s.tick }

/-- `clock()`; the reading is `now`. -/
def Run.clock (s : Run H) : Run H := s.pass w 0

def init (now : ℚ) : Run H :=
  let s : Run H := Run.clock w ⟨0, now, now, 0, now, 0, []⟩
  { s with last := s.now }

def wait (delay : ℚ) (s : Run H) : Run H × Except Failure Unit :=
  let delay := max delay s.floor
  let s := s.clock w
  let pause := max 0 (s.last + delay - s.now)
  let s := s.clock w
  if deadline ≤ s.now + pause + 25 then (s, .error .budgetExhausted)
  else
    let computed := s.now
    let s := (s.pass w pause).clock w
    ({ s with last := s.now, computed, pause }, .ok ())

def send (request : Request H) (answer : ℕ → Except Failure A) (s : Run H) : Run H × Except Failure A :=
  let refusal := match answer s.tick with
    | .ok _ => none
    | .error f => some f
  ({ s.pass w 0 with requests := s.requests ++ [⟨request, s.now, s.computed, s.pause, refusal⟩] }, answer s.tick)

def turn (delay : ℚ) (request : Request H) (answer : ℕ → Except Failure A) (s : Run H) : Run H × Except Failure A :=
  match wait w deadline delay s with
  | (s, .error f) => (s, .error f)
  | (s, .ok _) => send w request answer s

def poll (handle : H) : List ℚ → Run H → Run H × Except Failure C
  | [], s => (s, .error .pending)
  | delay :: delays, s =>
    match turn w deadline delay (.collection handle) w.collection s with
    | (s, .error .pending) => poll handle delays s
    | outcome => outcome

def fetch (fromDate toDate : String) (s : Run H) : Run H × Except Failure C :=
  match turn w deadline 10 (.generation fromDate toDate) w.generation s with
  | (s, .error f) => (s, .error f)
  | (s, .ok handle) => poll w deadline handle pollDelays s

def call (fromDate toDate : String) (s : Run H) : Run H × Except Failure C :=
  let outcome := fetch w deadline fromDate toDate s
  match outcome.2 with
  | .error f => if f = throttle then ({ outcome.1 with floor := throttleBackoff }, .error f) else outcome
  | .ok _ => outcome

def calls (now : ℚ) (windows : List (String × String)) : Run H :=
  windows.foldl (fun s x => (call w deadline x.1 x.2 s).1) (init w now)

end Code

section Pace

variable {w : World H C} {deadline delay : ℚ} {s s' : Run H} {request : Request H} {answer : ℕ → Except Failure A}
  {r : Except Failure A}

structure Paced (deadline : ℚ) (before : List (Entry H)) (e : Entry H) : Prop where
  spaced : ∀ e', before.getLast? = some e' → e'.start + 10 ≤ e.start
  backedOff : before.any Entry.throttled → ∀ e', before.getLast? = some e' → e'.start + 60 ≤ e.start
  inTime : 0 ≤ e.pause ∧ e.computed + e.pause + 25 < deadline

structure Kept (deadline : ℚ) (s : Run H) : Prop where
  paced : Preceded (Paced deadline) s.requests
  started : ∀ e, s.requests.getLast? = some e → e.start ≤ s.last
  passed : s.last ≤ s.now

def Floored (s : Run H) : Prop := s.requests.any Entry.throttled → throttleBackoff ≤ s.floor

lemma now_le_pass (w : World H C) (s : Run H) {p : ℚ} : s.now + p ≤ (s.pass w p).now :=
  le_add_of_nonneg_right (NNRat.coe_nonneg _)

lemma now_le_clock (w : World H C) (s : Run H) : s.now ≤ (s.clock w).now := by
  simpa [Run.clock] using now_le_pass w s (p := 0)

lemma wait_frame (w : World H C) (deadline delay : ℚ) (s : Run H) :
    (wait w deadline delay s).1.requests = s.requests ∧ (wait w deadline delay s).1.floor = s.floor := by
  unfold wait
  extract_lets floored s₁ pause s₂ computed s₃
  split_ifs
  · exact ⟨rfl, rfl⟩
  · exact ⟨rfl, rfl⟩

lemma wait_exhausted {f : Failure} (hk : Kept deadline s) (h : wait w deadline delay s = (s', .error f)) :
    f = .budgetExhausted ∧ Kept deadline s' := by
  unfold wait at h
  extract_lets floored s₁ pause s₂ computed s₃ at h
  split_ifs at h with hlate
  · obtain ⟨rfl, hf⟩ := Prod.mk.inj h
    have hnow : s.now ≤ s₂.now := (now_le_clock w s).trans (now_le_clock w s₁)
    exact ⟨(Except.error.inj hf).symm, hk.paced, hk.started, hk.passed.trans hnow⟩
  · cases h

lemma wait_ok (h : wait w deadline delay s = (s', .ok ())) :
    s.last + delay ≤ s'.now ∧ s.last + s.floor ≤ s'.now ∧ s'.last = s'.now ∧ 0 ≤ s'.pause ∧
      s'.computed + s'.pause + 25 < deadline := by
  unfold wait at h
  extract_lets floored s₁ pause s₂ computed s₃ at h
  split_ifs at h with hlate
  · exact (nomatch (Prod.mk.inj h).2)
  obtain ⟨rfl, -⟩ := Prod.mk.inj h
  have hslept : s₂.now + pause ≤ s₃.now := (now_le_pass w s₂).trans (now_le_clock w _)
  have hread : s₁.now ≤ s₂.now := now_le_clock w s₁
  have hpause : s.last + floored - s₁.now ≤ pause := le_max_right _ _
  have hdelay : delay ≤ floored := le_max_left _ _
  have hfloor : s.floor ≤ floored := le_max_right _ _
  refine ⟨?_, ?_, rfl, le_max_left _ _, not_le.mp hlate⟩
  · change s.last + delay ≤ s₃.now
    linarith
  · change s.last + s.floor ≤ s₃.now
    linarith

lemma turn_appends (w : World H C) (deadline delay : ℚ) (request : Request H) (answer : ℕ → Except Failure A) (s : Run H) :
    ∃ new, (turn w deadline delay request answer s).1.requests = s.requests ++ new ∧ new.length ≤ 1 ∧
      ∀ e ∈ new, e.request = request := by
  have hframe := (wait_frame w deadline delay s).1
  unfold turn
  rcases hw : wait w deadline delay s with ⟨s₁, f | u⟩
  · rw [hw] at hframe
    exact ⟨[], by rw [List.append_nil]; exact hframe, Nat.zero_le 1, fun e he => (nomatch he)⟩
  · rw [hw] at hframe
    exact ⟨[_], congrArg (· ++ _) hframe, le_rfl, fun e he => by rw [List.mem_singleton.mp he]⟩

lemma poll_appends (w : World H C) (deadline : ℚ) (handle : H) (delays : List ℚ) (s : Run H) :
    ∃ new, (poll w deadline handle delays s).1.requests = s.requests ++ new ∧ new.length ≤ delays.length ∧
      ∀ e ∈ new, e.request = .collection handle := by
  induction delays generalizing s with
  | nil => exact ⟨[], (List.append_nil _).symm, le_rfl, fun e he => (nomatch he)⟩
  | cons d ds ih =>
    obtain ⟨new, hnew, hlength, hrequest⟩ := turn_appends w deadline d (.collection handle) w.collection s
    unfold poll
    rcases hturn : turn w deadline d (.collection handle) w.collection s with ⟨s₁, f | c⟩
    · rw [hturn] at hnew
      by_cases hf : f = .pending
      · subst hf
        obtain ⟨more, hmore, hlength', hrequest'⟩ := ih s₁
        refine ⟨new ++ more, ?_, ?_, fun e he => ?_⟩
        · rw [hmore, show s₁.requests = s.requests ++ new from hnew, List.append_assoc]
        · rw [List.length_append, List.length_cons]
          omega
        · exact (List.mem_append.mp he).elim (hrequest e) (hrequest' e)
      · refine ⟨new, ?_, hlength.trans (Nat.le_add_left 1 _), hrequest⟩
        cases f with
        | pending => exact (hf rfl).elim
        | source code => exact hnew
        | budgetExhausted => exact hnew
        | other => exact hnew
    · rw [hturn] at hnew
      exact ⟨new, hnew, hlength.trans (Nat.le_add_left 1 _), hrequest⟩

def Bounded (new : List (Entry H)) : Prop :=
  new.countP (fun e => e.request.isGeneration) ≤ 1 ∧ new.countP (fun e => e.request.isCollection) ≤ 6

lemma fetch_appends (w : World H C) (deadline : ℚ) (fromDate toDate : String) (s : Run H) :
    ∃ new, (fetch w deadline fromDate toDate s).1.requests = s.requests ++ new ∧ Bounded new := by
  obtain ⟨new, hnew, hlength, hrequest⟩ := turn_appends w deadline 10 (.generation fromDate toDate) w.generation s
  have hgenerations : new.countP (fun e => e.request.isGeneration) ≤ 1 := List.countP_le_length.trans hlength
  have hcollections : new.countP (fun e => e.request.isCollection) = 0 :=
    List.countP_eq_zero.mpr fun e he => by rw [hrequest e he]; exact Bool.noConfusion
  unfold fetch
  rcases hturn : turn w deadline 10 (.generation fromDate toDate) w.generation s with ⟨s₁, f | handle⟩
  · rw [hturn] at hnew
    exact ⟨new, hnew, hgenerations, hcollections.le.trans (Nat.zero_le 6)⟩
  · rw [hturn] at hnew
    obtain ⟨more, hmore, hlength', hrequest'⟩ := poll_appends w deadline handle pollDelays s₁
    refine ⟨new ++ more, ?_, ?_, ?_⟩
    · rw [hmore, show s₁.requests = s.requests ++ new from hnew, List.append_assoc]
    · have hnone : more.countP (fun e => e.request.isGeneration) = 0 :=
        List.countP_eq_zero.mpr fun e he => by rw [hrequest' e he]; exact Bool.noConfusion
      rw [List.countP_append, hnone]
      exact hgenerations
    · rw [List.countP_append, hcollections, Nat.zero_add]
      exact List.countP_le_length.trans hlength'

lemma call_requests (w : World H C) (deadline : ℚ) (fromDate toDate : String) (s : Run H) :
    (call w deadline fromDate toDate s).1.requests = (fetch w deadline fromDate toDate s).1.requests := by
  unfold call
  extract_lets outcome
  split
  · split_ifs <;> rfl
  · rfl

lemma turn_kept (hk : Kept deadline s) (hf : Floored s) (hd : 10 ≤ delay)
    (h : turn w deadline delay request answer s = (s', r)) : Kept deadline s' ∧ (r ≠ .error throttle → Floored s') := by
  have hframe := wait_frame w deadline delay s
  unfold turn at h
  rcases hw : wait w deadline delay s with ⟨s₁, f | u⟩
  · rw [hw] at h hframe
    obtain ⟨rfl, rfl⟩ := Prod.mk.inj h
    refine ⟨(wait_exhausted hk hw).2, fun _ => ?_⟩
    rw [Floored, hframe.1, hframe.2]
    exact hf
  · rw [hw] at h hframe
    obtain ⟨hspaced, hfloored, hlast, hpause, htime⟩ := wait_ok hw
    obtain ⟨hrequests, hfloor⟩ : s₁.requests = s.requests ∧ s₁.floor = s.floor := hframe
    change send w request answer s₁ = (s', r) at h
    unfold send at h
    extract_lets refusal at h
    obtain ⟨rfl, rfl⟩ := Prod.mk.inj h
    refine ⟨⟨?_, ?_, ?_⟩, ?_⟩
    · rw [hrequests]
      refine hk.paced.snoc ⟨fun e he => ?_, fun hthrottled e he => ?_, hpause, htime⟩
      · have hstart := hk.started e he
        change e.start + 10 ≤ s₁.now
        linarith
      · have hstart := hk.started e he
        have hbackoff : 60 ≤ s.floor := hf hthrottled
        change e.start + 60 ≤ s₁.now
        linarith
    · intro e he
      rw [List.getLast?_concat] at he
      rw [← Option.some.inj he]
      exact hlast.ge
    · exact hlast.le.trans (now_le_clock w s₁)
    · -- Only the new request can have been refused for the rate without a raised floor.
      intro hr hthrottled
      change throttleBackoff ≤ s₁.floor
      rw [hfloor]
      refine hf ?_
      rw [← hrequests]
      change (s₁.requests ++ [_]).any Entry.throttled = true at hthrottled
      rw [List.any_append, Bool.or_eq_true] at hthrottled
      refine hthrottled.resolve_right fun hlast => hr ?_
      have hrefusal : refusal = some throttle := by simpa [Entry.throttled] using hlast
      cases ha : answer s₁.tick with
      | ok a => simp [refusal, ha] at hrefusal
      | error f =>
        simp only [refusal, ha] at hrefusal
        rw [Option.some.inj hrefusal]

lemma poll_kept {handle : H} {delays : List ℚ} {r : Except Failure C} (hk : Kept deadline s) (hf : Floored s)
    (hd : ∀ d ∈ delays, 10 ≤ d) (h : poll w deadline handle delays s = (s', r)) :
    Kept deadline s' ∧ (r ≠ .error throttle → Floored s') := by
  induction delays generalizing s with
  | nil =>
    obtain ⟨rfl, -⟩ := Prod.mk.inj h
    exact ⟨hk, fun _ => hf⟩
  | cons d ds ih =>
    rw [List.forall_mem_cons] at hd
    unfold poll at h
    split at h
    · rename_i s₁ hturn
      obtain ⟨hk₁, hf₁⟩ := turn_kept hk hf hd.1 hturn
      exact ih hk₁ (hf₁ (by simp [throttle])) hd.2 h
    · exact turn_kept hk hf hd.1 h

lemma fetch_kept {fromDate toDate : String} {r : Except Failure C} (hk : Kept deadline s) (hf : Floored s)
    (h : fetch w deadline fromDate toDate s = (s', r)) : Kept deadline s' ∧ (r ≠ .error throttle → Floored s') := by
  unfold fetch at h
  split at h
  · rename_i s₁ f hturn
    obtain ⟨rfl, rfl⟩ := Prod.mk.inj h
    obtain ⟨hk₁, hf₁⟩ := turn_kept hk hf le_rfl hturn
    exact ⟨hk₁, fun hr => hf₁ fun heq => hr (by rw [Except.error.inj heq])⟩
  · rename_i s₁ handle hturn
    obtain ⟨hk₁, hf₁⟩ := turn_kept hk hf le_rfl hturn
    exact poll_kept hk₁ (hf₁ fun heq => (nomatch heq)) (by decide) h

lemma call_kept (w : World H C) (deadline : ℚ) (fromDate toDate : String) (hk : Kept deadline s) (hf : Floored s) :
    Kept deadline (call w deadline fromDate toDate s).1 ∧ Floored (call w deadline fromDate toDate s).1 := by
  obtain ⟨hk₁, hf₁⟩ := fetch_kept hk hf (Prod.mk.eta (p := fetch w deadline fromDate toDate s)).symm
  unfold call
  extract_lets outcome
  split
  · rename_i f hfailed
    split_ifs with hthrottle
    · exact ⟨⟨hk₁.paced, hk₁.started, hk₁.passed⟩, fun _ => le_rfl⟩
    · exact ⟨hk₁, hf₁ fun heq => hthrottle (Except.error.inj (hfailed.symm.trans heq))⟩
  · rename_i content hreport
    exact ⟨hk₁, hf₁ fun heq => (nomatch hreport.symm.trans heq)⟩

lemma calls_kept (w : World H C) (deadline now : ℚ) (windows : List (String × String)) :
    Kept deadline (calls w deadline now windows) ∧ Floored (calls w deadline now windows) := by
  have hinit : Kept deadline (init w now) ∧ Floored (init w now) :=
    ⟨⟨preceded_nil, fun e he => (nomatch he), le_rfl⟩, fun h => (nomatch h)⟩
  unfold calls
  generalize init w now = s at hinit
  induction windows generalizing s with
  | nil => exact hinit
  | cons x xs ih => exact ih _ (call_kept w deadline x.1 x.2 hinit.1 hinit.2)

/-- The requests of a fetcher keep their distance, whatever is answered and however time passes. -/
theorem requests_paced (w : World H C) (deadline now : ℚ) (windows : List (String × String)) :
    (∀ before e after, (calls w deadline now windows).requests = before ++ e :: after →
      (∀ e', before.getLast? = some e' → e'.start + 10 ≤ e.start) ∧
      (before.any Entry.throttled → ∀ e', before.getLast? = some e' → e'.start + 60 ≤ e.start) ∧
      0 ≤ e.pause ∧ e.computed + e.pause + 25 < deadline) ∧
    ∀ (s : Run H) (fromDate toDate : String), ∃ new,
      (call w deadline fromDate toDate s).1.requests = s.requests ++ new ∧
        new.countP (fun e => e.request.isGeneration) ≤ 1 ∧ new.countP (fun e => e.request.isCollection) ≤ 6 := by
  constructor
  · intro before e after heq
    have hpaced := (calls_kept w deadline now windows).1.paced before e after heq
    exact ⟨hpaced.spaced, hpaced.backedOff, hpaced.inTime⟩
  · intro s fromDate toDate
    rw [call_requests]
    exact fetch_appends w deadline fromDate toDate s

example : ((calls (⟨fun _ => 0, fun _ => .ok (), fun n => if n < 20 then .error .pending else .ok ()⟩ : World Unit Unit) 1500 0
    [("2026-10-31", "2026-10-31")]).requests.map Entry.start) = [10, 20, 40, 80] := by decide +kernel

end Pace

end IbkrPlatform.FlexDaily.Fetcher
