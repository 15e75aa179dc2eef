import IbkrPlatform.Library.Transition
import IbkrPlatform.Settlement.Records

/-! Concurrent observers of one settlement store, and the histories that they leave in it. -/

namespace IbkrPlatform.Settlement.Observers

open Library

section Code

def isUnreserved (c : Char) : Bool := 'A' ≤ c ∧ c ≤ 'Z' ∨ '0' ≤ c ∧ c ≤ '9' ∨ c ∈ ['.', '_', '-']

/-- What `prepare` checks of an order; `hasOffset` reads an ISO time. -/
def orderValid (hasOffset : String → Bool) (data : Pending) : Bool :=
  0 < data.quantity ∧ data.side ∈ ["buy", "sell"] ∧ 1 ≤ data.symbol.length ∧ data.symbol.length ≤ 32 ∧
    data.symbol.toList.all isUnreserved ∧ hasOffset data.submittedAt ∧ data.sourceRunId ≠ ""

def validOrderId (orderId : String) : Bool := orderId.toList.all Char.isDigit ∧ orderId.toList.any (· ≠ '0')

def prepare (hasOffset : String → Bool) (profile : String) (s : Store) (data : Pending) : Store × Except String Bool :=
  if !orderValid hasOffset data then (s, .error "settlement_order_invalid")
  else if !validAttempt data.attemptId then (s, .error "settlement_attempt_invalid")
  else s.create ⟨data.attemptId, .pending { data with strategy := profile }⟩

def bindOrder (s : Store) (attempt orderId : String) : Store × Except String Bool :=
  if !validOrderId orderId then (s, .error "settlement_order_id_invalid") else s.create ⟨attempt, .broker orderId⟩

/-- One turn of `observe` up to its write: the sequence to claim, or nothing left to write. -/
def observeTurn (record : Record) (data : Outcome) : Except String (Option ℕ) :=
  match validateOutcome record.orderId record.data.quantity data with
  | .error e => .error e
  | .ok () =>
    let sequence := record.observations.length + 1
    match record.observations.getLast? with
    | none => .ok (some sequence)
    | some prior =>
      if prior.outcome.terminal then
        if data.terminal ∧ data ≠ prior.outcome then .error "settlement_terminal_conflict" else .ok none
      else if prior.outcome = data then .ok none
      else if data.filled < prior.outcome.filled then .error "settlement_nonmonotonic_fill"
      else .ok (some sequence)

def answerFor (record : Record) (result : Outcome) : Outcome :=
  if result.orderId ≠ record.orderId then .unknown record.orderId else result

inductive Phase
  | idle
  | submitting (attempt : String)
  | scanning (todo : List Record)
  | observing (record : Record) (rest : List Record) (data : Outcome) (tries : ℕ)
  | claiming (record : Record) (rest : List Record) (data : Outcome) (sequence tries : ℕ)

inductive Action
  | prepare (data : Pending)
  | bindOrder (orderId : String)
  | bindPermanent (permanentId : ℕ)
  | settle (maxOrders : ℕ)
  | skip
  | resolve (result : Outcome)
  | read
  | claim

def tryLimit : ℕ := 8

def resume (record : Record) (rest : List Record) (data : Outcome) : Phase :=
  .scanning (if data.terminal then rest else record :: rest)

variable (hasOffset : String → Bool) (profile : String)

def act (s : Store) : Phase → Action → Option (Store × Phase)
  | .idle, .prepare data =>
    match prepare hasOffset profile s data with
    | (s, .ok _) => some (s, .submitting data.attemptId)
    | (s, .error _) => some (s, .idle)
  | .submitting attempt, .bindOrder orderId =>
    match bindOrder s attempt orderId with
    | (s, .ok _) => some (s, .submitting attempt)
    | (s, .error _) => some (s, .idle)
  | .submitting attempt, .bindPermanent permanentId =>
    match s.create ⟨attempt, .permanent permanentId⟩ with
    | (s, .ok _) => some (s, .submitting attempt)
    | (s, .error _) => some (s, .idle)
  | .idle, .settle maxOrders | .submitting _, .settle maxOrders =>
    match records profile s with
    | .error _ => some (s, .idle)
    | .ok rs =>
      let pending := rs.filter Record.unsettled
      if maxOrders < pending.length then some (s, .idle) else some (s, .scanning pending)
  | .scanning [], .skip => some (s, .idle)
  | .scanning (_ :: rest), .skip => some (s, .scanning rest)
  | .scanning (record :: rest), .resolve result =>
    if record.orderId.getD "" = "" then none
    else some (s, .observing record rest (answerFor record result) tryLimit)
  | .observing record rest data tries, .read =>
    if tries = 0 then some (s, .idle)
    else match records profile s with
      | .error _ => some (s, .idle)
      | .ok rs =>
        match rs.find? (·.data.attemptId = record.data.attemptId) with
        | none => some (s, .idle)
        | some current =>
          match observeTurn current data with
          | .error _ => some (s, .idle)
          | .ok none => some (s, resume record rest data)
          | .ok (some sequence) => some (s, .claiming record rest data sequence tries)
  | .claiming record rest data sequence tries, .claim =>
    match s.claimMarker ⟨record.data.attemptId, .observed sequence ⟨sequence, data⟩⟩ with
    | (s, true) => some (s, resume record rest data)
    | (s, false) => some (s, .observing record rest data (tries - 1))
  | _, _ => none

end Code

section System

structure State (I : Type) where
  store : Store
  phase : I → Phase

variable {I : Type} [DecidableEq I] (hasOffset : String → Bool) (profile : String)

def step (s : State I) (l : I × Action) : Option (State I) :=
  (act hasOffset profile s.store (s.phase l.1) l.2).map fun next => ⟨next.1, Function.update s.phase l.1 next.2⟩

def observers : System (State I) (I × Action) :=
  .ofStep (fun s => s.store = [] ∧ s.phase = fun _ => .idle) (step hasOffset profile)

end System

section Stores

variable {profile : String} {s t : Store} {e : Entry} {a : String}

structure Sound (profile : String) (s : Store) : Prop where
  keys : (s.map Entry.key).Nodup
  checked : ∀ e ∈ s, checkEntry profile e = .ok ()
  prepared : ∀ e ∈ s, ∃ data, s.pendingOf e.attempt = some data
  history : ∀ a data, s.pendingOf a = some data → checkHistory (s.brokerOf a) data.quantity 1 none (s.observedOf a) = .ok ()
  bound : ∀ a, s.observedOf a ≠ [] → (s.brokerOf a).isSome

lemma sound_nil : Sound profile [] where
  keys := List.nodup_nil
  checked _ he := absurd he List.not_mem_nil
  prepared _ he := absurd he List.not_mem_nil
  history _ _ h := nomatch h
  bound _ h := absurd rfl h

lemma Sound.records_ok (h : Sound profile s) (hl : s.length ≤ scanLimit) : ∃ rs, records profile s = .ok rs := by
  obtain ⟨us, hus⟩ := collect_ok fun e he => ⟨(), h.checked e he⟩
  have hpending : ∀ a ∈ s.attempts, ∃ data, pendingRecord s a = .ok data := by
    intro a ha
    obtain ⟨e, he, rfl⟩ := mem_attempts.mp ha
    obtain ⟨data, hdata⟩ := h.prepared e he
    exact ⟨data, by simp only [pendingRecord, hdata]⟩
  obtain ⟨pending, hp⟩ := collect_ok hpending
  have hrecord : ∀ data ∈ pending, ∃ r, recordOf s data = .ok r := by
    intro data hdata
    obtain ⟨a, _, ha⟩ := (collect_mem hp).2 data hdata
    unfold pendingRecord at ha
    split at ha
    · cases ha
    · rename_i found hfound
      obtain rfl := Except.ok.inj ha
      obtain ⟨rfl, _⟩ := checkEntry_pending (h.checked _ (pendingOf_mem hfound))
      have hhistory := h.history _ _ hfound
      rw [← observations_eq hhistory] at hhistory
      exact ⟨_, by simp only [recordOf, hhistory]; rfl⟩
  obtain ⟨rs, hrs⟩ := collect_ok hrecord
  refine ⟨rs, ?_⟩
  unfold records
  rw [if_neg (not_lt.mpr hl)]
  simp only [hus, hp, bind, Except.bind]
  exact hrs

lemma other_pendingOf (h : a ≠ e.attempt) : Store.pendingOf (s ++ [e]) a = s.pendingOf a := by
  rw [Store.pendingOf, List.findSome?_append]
  cases hm : e.marker <;> simp [Store.pendingOf, hm, Ne.symm h]

lemma other_brokerOf (h : a ≠ e.attempt) : Store.brokerOf (s ++ [e]) a = s.brokerOf a := by
  rw [Store.brokerOf, List.findSome?_append]
  cases hm : e.marker <;> simp [Store.brokerOf, hm, Ne.symm h]

lemma other_observedOf (h : a ≠ e.attempt) : Store.observedOf (s ++ [e]) a = s.observedOf a := by
  rw [observedOf_append]
  cases hm : e.marker <;> simp [Store.observedOf, hm, Ne.symm h]

lemma Sound.append (h : Sound profile s) (hkey : e.key ∉ s.map Entry.key) (hchecked : checkEntry profile e = .ok ())
    {data : Pending} (hpending : Store.pendingOf (s ++ [e]) e.attempt = some data)
    (hhistory : checkHistory (Store.brokerOf (s ++ [e]) e.attempt) data.quantity 1 none
      (Store.observedOf (s ++ [e]) e.attempt) = .ok ())
    (hbound : Store.observedOf (s ++ [e]) e.attempt ≠ [] → (Store.brokerOf (s ++ [e]) e.attempt).isSome) :
    Sound profile (s ++ [e]) where
  keys := by
    rw [List.map_append, List.nodup_append]
    refine ⟨h.keys, List.nodup_singleton _, fun k hk k' hk' heq => hkey ?_⟩
    rw [← List.mem_singleton.mp hk', ← heq]
    exact hk
  checked e' he' := by
    rcases List.mem_append.mp he' with he' | he'
    · exact h.checked e' he'
    · exact List.mem_singleton.mp he' ▸ hchecked
  prepared e' he' := by
    rcases List.mem_append.mp he' with he' | he'
    · obtain ⟨data', hdata'⟩ := h.prepared e' he'
      exact ⟨data', pendingOf_grows (List.prefix_append _ _) hdata'⟩
    · obtain rfl := List.mem_singleton.mp he'
      exact ⟨data, hpending⟩
  history a data' hdata' := by
    by_cases ha : a = e.attempt
    · subst ha
      obtain rfl : data = data' := Option.some.inj (hpending.symm.trans hdata')
      exact hhistory
    · rw [other_pendingOf ha] at hdata'
      rw [other_brokerOf ha, other_observedOf ha]
      exact h.history a data' hdata'
  bound a := by
    by_cases ha : a = e.attempt
    · exact ha ▸ hbound
    · rw [other_brokerOf ha, other_observedOf ha]
      exact h.bound a

lemma key_mem (h : e ∈ s) : e.key ∈ s.map Entry.key := List.mem_map_of_mem h

lemma pendingOf_of_mem {data : Pending} (h : ⟨a, .pending data⟩ ∈ s) : ∃ data, s.pendingOf a = some data := by
  cases hp : s.pendingOf a with
  | some data => exact ⟨data, rfl⟩
  | none =>
    have hnone := List.findSome?_eq_none_iff.mp hp _ h
    simp at hnone

lemma Sound.prepare (h : Sound profile s) {hasOffset : String → Bool} {data : Pending} {x : Except String Bool}
    (hx : prepare hasOffset profile s data = (t, x)) :
    Sound profile t ∧ s <+: t ∧ ∀ b, x = .ok b → ∃ data', t.pendingOf data.attemptId = some data' := by
  unfold Observers.prepare at hx
  split at hx
  · obtain ⟨rfl, rfl⟩ := Prod.mk.inj hx
    exact ⟨h, List.prefix_rfl, nofun⟩
  · split at hx
    · obtain ⟨rfl, rfl⟩ := Prod.mk.inj hx
      exact ⟨h, List.prefix_rfl, nofun⟩
    · rename_i hattempt
      rcases create_cases hx with ⟨rfl, hm⟩ | ⟨rfl, hfresh⟩
      · exact ⟨h, List.prefix_rfl, fun b hb => pendingOf_of_mem (hm b hb)⟩
      · have hnone : s.pendingOf data.attemptId = none := by
          by_contra hne
          obtain ⟨data', hdata'⟩ := Option.ne_none_iff_exists'.mp hne
          exact hfresh (key_mem (pendingOf_mem hdata') : (data.attemptId, Suffix.pending) ∈ _)
        have hpending : Store.pendingOf (s ++ [⟨data.attemptId, .pending { data with strategy := profile }⟩]) data.attemptId =
            some { data with strategy := profile } := by
          rw [Store.pendingOf, List.findSome?_append]
          rw [Store.pendingOf] at hnone
          rw [hnone]
          simp
        have hempty : s.observedOf data.attemptId = [] := by
          rw [List.eq_nil_iff_forall_not_mem]
          rintro ⟨n, o⟩ ho
          obtain ⟨data', hdata'⟩ := h.prepared _ (observedOf_mem ho)
          simp [hnone] at hdata'
        have hobserved : Store.observedOf (s ++ [⟨data.attemptId, .pending { data with strategy := profile }⟩])
            data.attemptId = [] := by
          rw [observedOf_append, hempty]
          rfl
        have hchecked : checkEntry profile ⟨data.attemptId, .pending { data with strategy := profile }⟩ = .ok () := by
          have hvalid : validAttempt data.attemptId = true := by simpa using hattempt
          simp [checkEntry, hvalid]
        refine ⟨h.append hfresh hchecked hpending ?_ fun hne => absurd hobserved hne, List.prefix_append _ _,
          fun _ _ => ⟨_, hpending⟩⟩
        rw [hobserved]
        rfl

lemma Sound.create (h : Sound profile s) {data : Pending} (hpending : s.pendingOf e.attempt = some data)
    {x : Except String Bool} (hx : s.create e = (t, x)) (hm : e.marker.isAside = true) : Sound profile t ∧ s <+: t := by
  rcases create_cases hx with ⟨rfl, _⟩ | ⟨rfl, hfresh⟩
  · exact ⟨h, List.prefix_rfl⟩
  · have hvalid : validAttempt e.attempt = true := by
      have hchecked := h.checked _ (pendingOf_mem hpending)
      unfold checkEntry at hchecked
      split at hchecked
      · cases hchecked
      · rename_i hv
        simpa using hv
    have hp' : Store.pendingOf (s ++ [e]) e.attempt = some data := pendingOf_grows (List.prefix_append _ _) hpending
    have hobserved : Store.observedOf (s ++ [e]) e.attempt = s.observedOf e.attempt := by
      rw [observedOf_append]
      cases hmarker : e.marker <;> simp [hmarker, Marker.isAside, Store.observedOf] at hm ⊢
    refine ⟨h.append hfresh ?_ hp' ?_ ?_, List.prefix_append _ _⟩
    · cases hmarker : e.marker <;> simp [hmarker, Marker.isAside, checkEntry, hvalid] at hm ⊢
    · rw [hobserved]
      by_cases hempty : s.observedOf e.attempt = []
      · rw [hempty]
        rfl
      · obtain ⟨orderId, horder⟩ := Option.isSome_iff_exists.mp (h.bound _ hempty)
        rw [brokerOf_grows (List.prefix_append _ _) horder, ← horder]
        exact h.history _ _ hpending
    · rw [hobserved]
      intro hne
      obtain ⟨orderId, horder⟩ := Option.isSome_iff_exists.mp (h.bound _ hne)
      exact Option.isSome_iff_exists.mpr ⟨_, brokerOf_grows (List.prefix_append _ _) horder⟩

end Stores

section Phases

variable {profile : String} {s t : Store}

structure Known (s : Store) (r : Record) : Prop where
  pending : s.pendingOf r.data.attemptId = some r.data
  bound : ∀ orderId, r.orderId = some orderId → s.brokerOf r.data.attemptId = some orderId

structure Ready (s : Store) (r : Record) (data : Outcome) (sequence : ℕ) : Prop where
  valid : ∃ orderId, s.brokerOf r.data.attemptId = some orderId ∧ validateOutcome (some orderId) r.data.quantity data = .ok ()
  seen : ∃ seen, seen <+: s.observedOf r.data.attemptId ∧ sequence = seen.length + 1 ∧
    ∀ p ∈ lastOutcome none seen, Follows p data

def Phase.Sound (s : Store) : Phase → Prop
  | .idle => True
  | .submitting attempt => ∃ data, s.pendingOf attempt = some data
  | .scanning todo => ∀ r ∈ todo, Known s r
  | .observing r rest _ _ => (∀ x ∈ r :: rest, Known s x) ∧ r.orderId ≠ none
  | .claiming r rest data sequence _ =>
    (∀ x ∈ r :: rest, Known s x) ∧ r.orderId ≠ none ∧ Ready s r data sequence

lemma Known.grow {r : Record} (h : Known s r) (hp : s <+: t) : Known t r :=
  ⟨pendingOf_grows hp h.pending, fun orderId ho => brokerOf_grows hp (h.bound orderId ho)⟩

lemma Ready.grow {r : Record} {data : Outcome} {sequence : ℕ} (h : Ready s r data sequence) (hp : s <+: t) :
    Ready t r data sequence := by
  obtain ⟨orderId, horder, hvalid⟩ := h.valid
  obtain ⟨seen, hseen, hrest⟩ := h.seen
  exact ⟨⟨orderId, brokerOf_grows hp horder, hvalid⟩, seen, hseen.trans (observedOf_grows hp), hrest⟩

lemma Phase.Sound.grow {ph : Phase} (h : ph.Sound s) (hp : s <+: t) : ph.Sound t := by
  cases ph with
  | idle => trivial
  | submitting attempt =>
    obtain ⟨data, hdata⟩ := h
    exact ⟨data, pendingOf_grows hp hdata⟩
  | scanning todo => exact fun r hr => (h r hr).grow hp
  | observing r rest data tries => exact ⟨fun x hx => (h.1 x hx).grow hp, h.2⟩
  | claiming r rest data sequence tries => exact ⟨fun x hx => (h.1 x hx).grow hp, h.2.1, h.2.2.grow hp⟩

lemma Ready.observe (h : Sound profile s) {r : Record} {data : Outcome} {sequence : ℕ} (hk : Known s r)
    (hr : Ready s r data sequence)
    (hfresh : (⟨r.data.attemptId, .observed sequence ⟨sequence, data⟩⟩ : Entry).key ∉ s.map Entry.key) :
    Sound profile (s ++ [⟨r.data.attemptId, .observed sequence ⟨sequence, data⟩⟩]) := by
  obtain ⟨orderId, horder, hvalid⟩ := hr.valid
  obtain ⟨seen, hseen, rfl, hfollows⟩ := hr.seen
  have hhistory := h.history _ _ hk.pending
  have hordered := (checkHistory_ordered hhistory).1
  have hall : seen = s.observedOf r.data.attemptId := by
    refine hseen.eq_of_length_le (not_lt.mp fun hlt => hfresh ?_)
    have hmem : seen.length + 1 ∈ (s.observedOf r.data.attemptId).map Prod.fst := by
      rw [hordered.numbers, List.mem_range'_1]
      omega
    obtain ⟨⟨n, o⟩, ho, hn⟩ := List.mem_map.mp hmem
    have hkey : (⟨r.data.attemptId, .observed n o⟩ : Entry).key ∈ s.map Entry.key := key_mem (observedOf_mem ho)
    exact (show n = seen.length + 1 from hn) ▸ hkey
  obtain ⟨u, hchecked⟩ : ∃ u, checkEntry profile ⟨r.data.attemptId, .observed (seen.length + 1) ⟨seen.length + 1, data⟩⟩ = .ok u := by
    have hentry := h.checked _ (pendingOf_mem hk.pending)
    unfold checkEntry at hentry ⊢
    split at hentry
    · cases hentry
    · rename_i hv
      exact ⟨(), by rw [if_neg hv]⟩
  have hbroker : Store.brokerOf (s ++ [⟨r.data.attemptId, .observed (seen.length + 1) ⟨seen.length + 1, data⟩⟩])
      r.data.attemptId = some orderId := brokerOf_grows (List.prefix_append _ _) horder
  have hobserved : Store.observedOf (s ++ [⟨r.data.attemptId, .observed (seen.length + 1) ⟨seen.length + 1, data⟩⟩])
      r.data.attemptId = seen ++ [(seen.length + 1, ⟨seen.length + 1, data⟩)] := by
    rw [observedOf_append, ← hall]
    simp [Store.observedOf]
  refine h.append hfresh hchecked (pendingOf_grows (List.prefix_append _ _) hk.pending) ?_ fun _ => by simp [hbroker]
  rw [hbroker, hobserved, checkHistory_snoc]
  rw [horder, ← hall] at hhistory
  exact ⟨hhistory, ⟨by omega, by dsimp only; omega⟩, hvalid, hfollows⟩

lemma resume_sound {r : Record} {rest : List Record} {data : Outcome} (h : ∀ x ∈ r :: rest, Known s x) :
    (resume r rest data).Sound s := by
  unfold resume
  intro x hx
  split at hx
  · exact h x (List.mem_cons_of_mem r hx)
  · exact h x hx

lemma observeTurn_ready {r current : Record} (h : Sound profile s) (hread : ReadBack s current)
    (hsame : current.data.attemptId = r.data.attemptId) (hk : Known s r) {data : Outcome} (hid : r.orderId ≠ none)
    {sequence : ℕ} (hturn : observeTurn current data = .ok (some sequence)) :
    Ready s r data sequence := by
  obtain ⟨orderId, horderId⟩ := Option.ne_none_iff_exists'.mp hid
  have horder : s.brokerOf r.data.attemptId = some orderId := hk.bound orderId horderId
  have hpending : current.data = r.data := Option.some.inj (hread.pending.symm.trans (hsame ▸ hk.pending))
  have hobservations : s.observations r.data.attemptId = s.observedOf r.data.attemptId :=
    observations_eq (h.history _ _ hk.pending)
  have hseen : current.observations = (s.observedOf r.data.attemptId).map Prod.snd := by
    rw [hread.observations, hpending, hobservations]
  unfold observeTurn at hturn
  cases hv : validateOutcome current.orderId current.data.quantity data with
  | error e => simp [hv] at hturn
  | ok =>
    rw [hread.orderId, hpending, horder] at hv
    have hvalid : validateOutcome current.orderId current.data.quantity data = .ok () := by
      rw [hread.orderId, hpending, horder, hv]
    rw [hvalid] at hturn
    refine ⟨⟨orderId, horder, hv⟩, s.observedOf r.data.attemptId, List.prefix_rfl, ?_⟩
    simp only [hseen, List.length_map, List.getLast?_map] at hturn
    cases hlast : (s.observedOf r.data.attemptId).getLast? with
    | none =>
      simp only [hlast, Option.map_none, Except.ok.injEq, Option.some.injEq] at hturn
      exact ⟨hturn.symm, by simp [lastOutcome, hlast]⟩
    | some prior =>
      simp only [hlast, Option.map_some] at hturn
      split at hturn
      · split at hturn <;> cases hturn
      · rename_i hterminal
        split at hturn
        · cases hturn
        · split at hturn
          · cases hturn
          · rename_i hfilled
            refine ⟨(Option.some.inj (Except.ok.inj hturn)).symm, ?_⟩
            simp only [lastOutcome, hlast, Option.map_some, Option.some_or, Option.mem_def, Option.some.injEq, forall_eq']
            exact ⟨by simpa using hterminal, not_lt.mp hfilled⟩

end Phases

section Runs

variable {hasOffset : String → Bool} {profile : String} {s t : Store}

lemma act_sound (h : Sound profile s) {ph ph' : Phase} (hph : ph.Sound s) {action : Action}
    (hact : act hasOffset profile s ph action = some (t, ph')) : Sound profile t ∧ s <+: t ∧ ph'.Sound t := by
  have hstay : ∀ {ph'' : Phase}, some (s, ph'') = some (t, ph') → ph''.Sound s → Sound profile t ∧ s <+: t ∧ ph'.Sound t := by
    rintro ph'' ⟨⟩ hs
    exact ⟨h, List.prefix_rfl, hs⟩
  have hsettle : ∀ maxOrders, (match records profile s with
      | .error _ => some (s, Phase.idle)
      | .ok rs => if maxOrders < (rs.filter Record.unsettled).length then some (s, .idle)
        else some (s, .scanning (rs.filter Record.unsettled))) = some (t, ph') → Sound profile t ∧ s <+: t ∧ ph'.Sound t := by
    intro maxOrders hs
    split at hs
    · exact hstay hs trivial
    · rename_i rs hrs
      split at hs
      · exact hstay hs trivial
      · refine hstay hs fun r hr => ?_
        have hread : ReadBack s r := Settlement.records_ok hrs (List.mem_of_mem_filter hr)
        exact ⟨hread.pending, fun orderId ho => hread.orderId ▸ ho⟩
  unfold act at hact
  split at hact
  · cases hx : prepare hasOffset profile s _ with
    | mk s' x =>
      obtain ⟨hs', hp, hready⟩ := h.prepare hx
      rw [hx] at hact
      cases x with
      | ok b =>
        cases hact
        exact ⟨hs', hp, hready b rfl⟩
      | error e =>
        cases hact
        exact ⟨hs', hp, trivial⟩
  · rename_i attempt orderId
    obtain ⟨data, hdata⟩ := hph
    cases hx : bindOrder s attempt orderId with
    | mk s' x =>
      rw [hx] at hact
      unfold bindOrder at hx
      split at hx
      · obtain ⟨rfl, rfl⟩ := Prod.mk.inj hx
        exact hstay hact trivial
      · obtain ⟨hs', hp⟩ := Sound.create (e := ⟨attempt, .broker orderId⟩) h hdata hx rfl
        cases x with
        | ok b =>
          cases hact
          exact ⟨hs', hp, data, pendingOf_grows hp hdata⟩
        | error e =>
          cases hact
          exact ⟨hs', hp, trivial⟩
  · rename_i attempt permanentId
    obtain ⟨data, hdata⟩ := hph
    cases hx : s.create ⟨attempt, .permanent permanentId⟩ with
    | mk s' x =>
      obtain ⟨hs', hp⟩ := Sound.create (e := ⟨attempt, .permanent permanentId⟩) h hdata hx rfl
      rw [hx] at hact
      cases x with
      | ok b =>
        cases hact
        exact ⟨hs', hp, data, pendingOf_grows hp hdata⟩
      | error e =>
        cases hact
        exact ⟨hs', hp, trivial⟩
  · exact hsettle _ hact
  · exact hsettle _ hact
  · exact hstay hact trivial
  · exact hstay hact fun r hr => hph r (List.mem_cons_of_mem _ hr)
  · rename_i r rest result
    split at hact
    · cases hact
    · rename_i hid
      refine hstay hact ⟨hph, fun hnone => hid ?_⟩
      rw [hnone]
      rfl
  · rename_i r rest data tries
    obtain ⟨hknown, hid⟩ := hph
    split at hact
    · exact hstay hact trivial
    · split at hact
      · exact hstay hact trivial
      · rename_i rs hrs
        split at hact
        · exact hstay hact trivial
        · rename_i current hcurrent
          have hread : ReadBack s current := Settlement.records_ok hrs (List.mem_of_find?_eq_some hcurrent)
          have hsame : current.data.attemptId = r.data.attemptId := by simpa using List.find?_some hcurrent
          split at hact
          · exact hstay hact trivial
          · exact hstay hact (resume_sound hknown)
          · rename_i sequence hturn
            exact hstay hact ⟨hknown, hid, observeTurn_ready h hread hsame (hknown r List.mem_cons_self) hid hturn⟩
  · rename_i r rest data sequence tries
    obtain ⟨hknown, hid, hready⟩ := hph
    rcases claimMarker_cases s ⟨r.data.attemptId, .observed sequence ⟨sequence, data⟩⟩ with ⟨hc, _⟩ | ⟨hc, hfresh⟩
    · rw [hc] at hact
      exact hstay hact ⟨hknown, hid⟩
    · rw [hc] at hact
      cases hact
      have hp : s <+: s ++ [⟨r.data.attemptId, .observed sequence ⟨sequence, data⟩⟩] := List.prefix_append _ _
      exact ⟨Ready.observe h (hknown r List.mem_cons_self) hready hfresh, hp,
        resume_sound fun x hx => (hknown x hx).grow hp⟩
  · cases hact

variable {I : Type} [DecidableEq I]

structure State.Sound (profile : String) (s : State I) : Prop where
  store : Observers.Sound profile s.store
  phase : ∀ i, (s.phase i).Sound s.store

lemma step_sound {s t : State I} {l : I × Action} (h : s.Sound profile) (hn : step hasOffset profile s l = some t) :
    t.Sound profile ∧ s.store <+: t.store := by
  unfold step at hn
  obtain ⟨⟨store, ph⟩, hact, rfl⟩ := Option.map_eq_some_iff.mp hn
  obtain ⟨hs, hp, hph⟩ := act_sound h.store (h.phase l.1) hact
  refine ⟨⟨hs, fun i => ?_⟩, hp⟩
  dsimp only
  by_cases hi : i = l.1
  · subst hi
    rw [Function.update_self]
    exact hph
  · rw [Function.update_of_ne hi]
    exact (h.phase i).grow hp

lemma reachable_sound {s : State I} (h : (observers hasOffset profile).Reachable s) : s.Sound profile := by
  refine h.invariant (fun s hs => ?_) fun s l t hs (hn : step hasOffset profile s l = some t) => (step_sound hs hn).1
  obtain ⟨hstore, hphase⟩ := hs
  exact ⟨hstore ▸ sound_nil, fun i => by rw [hphase]; trivial⟩

lemma run_grows {s t : State I} {ls : List (I × Action)} (hs : s.Sound profile) (h : (observers hasOffset profile).Run s ls t) :
    t.Sound profile ∧ s.store <+: t.store :=
  h.invariant (I := fun u => u.Sound profile ∧ s.store <+: u.store)
    (fun _ _ _ hu hn => ⟨(step_sound hu.1 hn).1, hu.2.trans (step_sound hu.1 hn).2⟩) ⟨hs, List.prefix_rfl⟩

def outcomes (s : Store) (attempt : String) : List Outcome := (s.observations attempt).map fun x => x.2.outcome

def Settled (s : Store) (attempt : String) : Prop := ∃ o ∈ outcomes s attempt, o.terminal = true

structure Recorded (s : Store) (attempt : String) : Prop where
  numbers : (s.observations attempt).map Prod.fst = List.range' 1 (s.observations attempt).length
  sequences : ∀ x ∈ s.observations attempt, x.2.sequence = x.1
  filled : (outcomes s attempt).Pairwise fun o o' => o.filled ≤ o'.filled
  terminal : (outcomes s attempt).Pairwise fun o _ => o.terminal = false

lemma Sound.recorded (h : Sound profile s) (attempt : String) : Recorded s attempt := by
  have hordered : ∃ orderId quantity, Ordered orderId quantity 1 (s.observations attempt) := by
    by_cases hp : ∃ data, s.pendingOf attempt = some data
    · obtain ⟨data, hdata⟩ := hp
      have hhistory := h.history _ _ hdata
      exact ⟨s.brokerOf attempt, data.quantity, observations_eq hhistory ▸ (checkHistory_ordered hhistory).1⟩
    · have hempty : s.observedOf attempt = [] := by
        rw [List.eq_nil_iff_forall_not_mem]
        rintro ⟨n, o⟩ ho
        exact hp (h.prepared _ (observedOf_mem ho))
      have hnil : s.observations attempt = [] := by rw [Store.observations, hempty]; rfl
      rw [hnil]
      have hcheck : checkHistory none 0 1 none [] = .ok () := rfl
      exact ⟨none, 0, (checkHistory_ordered hcheck).1⟩
  obtain ⟨orderId, quantity, hordered⟩ := hordered
  exact ⟨hordered.numbers, hordered.sequences, List.pairwise_map.mpr (hordered.follows.imp fun h => h.2),
    List.pairwise_map.mpr (hordered.follows.imp fun h => h.1)⟩

lemma settled_final (hs : Sound profile s) (ht : Sound profile t) (hp : s <+: t) {attempt : String} (h : Settled s attempt) :
    t.observations attempt = s.observations attempt := by
  obtain ⟨o, ho, hterminal⟩ := h
  obtain ⟨x, hx, rfl⟩ := List.mem_map.mp ho
  have hpending : ∃ data, s.pendingOf attempt = some data := by
    have hmem : x ∈ s.observedOf attempt := (List.mem_insertionSort _).mp hx
    exact hs.prepared _ (observedOf_mem (n := x.1) (o := x.2) hmem)
  obtain ⟨data, hdata⟩ := hpending
  have hsorted : s.observations attempt = s.observedOf attempt := observations_eq (hs.history _ _ hdata)
  have hsorted' : t.observations attempt = t.observedOf attempt := observations_eq (ht.history _ _ (pendingOf_grows hp hdata))
  obtain ⟨later, hlater⟩ := observedOf_grows (a := attempt) hp
  rw [hsorted] at hx
  cases later with
  | nil => rw [hsorted, hsorted', ← hlater, List.append_nil]
  | cons y later =>
    have hpairwise := (ht.recorded attempt).terminal
    rw [outcomes, hsorted', ← hlater, List.pairwise_map] at hpairwise
    have hnot : x.2.outcome.terminal = false :=
      (List.pairwise_append.mp hpairwise).2.2 x hx y List.mem_cons_self
    rw [hnot] at hterminal
    cases hterminal

/-- Whatever the observers do and are told, the store reads back, its histories are in order, and what is bound or settled
stays as it is. -/
theorem observers_keep_histories {s t : State I} {ls : List (I × Action)} (h : (observers hasOffset profile).Reachable s)
    (hr : (observers hasOffset profile).Run s ls t) :
    (s.store.length ≤ scanLimit → ∃ rs, records profile s.store = .ok rs ∧ ∀ r ∈ rs, ReadBack s.store r) ∧
      (∀ attempt, Recorded s.store attempt) ∧
      (∀ attempt orderId, s.store.brokerOf attempt = some orderId → t.store.brokerOf attempt = some orderId) ∧
      (∀ attempt, Settled s.store attempt → t.store.observations attempt = s.store.observations attempt) ∧
      s.store <+: t.store := by
  have hs : s.Sound profile := reachable_sound h
  obtain ⟨ht, hp⟩ := run_grows hs hr
  refine ⟨fun hl => ?_, hs.store.recorded, fun _ _ hb => brokerOf_grows hp hb,
    fun attempt hd => settled_final hs.store ht.store hp hd, hp⟩
  obtain ⟨rs, hrs⟩ := hs.store.records_ok hl
  exact ⟨rs, hrs, fun r hr => Settlement.records_ok hrs hr⟩

end Runs

section Fixture

def attempt₀ : String := String.ofList (List.replicate 64 'a')

def order₀ : Pending := ⟨attempt₀, "TQQQ", "sell", 3, 7, "2026-11-03T14:31:00+00:00", "run", "2026-11-03T14:31:00+00:00", "alpha"⟩

def pending₀ : Outcome := ⟨some "73", "pending", some 0, some 3, none, none, none, false, []⟩

def filled₀ : Outcome := ⟨some "73", "filled", some 3, some 0, some 52, none, none, true, [⟨"execution", 3, 52⟩]⟩

def start₀ : State Bool := ⟨[], fun _ => .idle⟩

def race₀ : List (Bool × Action) :=
  [(true, .prepare order₀), (true, .bindOrder "73"), (true, .settle 100), (false, .settle 100), (true, .resolve filled₀),
    (false, .resolve pending₀), (false, .read), (true, .read), (true, .claim), (false, .claim), (false, .read)]

theorem observers_keep_histories₀ : ∃ s t, (observers (fun _ => true) "alpha").Run s [(false, .claim), (false, .read)] t ∧
    outcomes s.store attempt₀ = [filled₀] ∧ t.store.observations attempt₀ = s.store.observations attempt₀ := by
  have hfirst : ((System.execute (step (fun _ => true) "alpha") start₀ (race₀.take 9)).map fun s => outcomes s.store attempt₀) =
      some [filled₀] := by decide +kernel
  obtain ⟨s, hs, houtcomes⟩ := Option.map_eq_some_iff.mp hfirst
  have hall : ((System.execute (step (fun _ => true) "alpha") start₀ (race₀.take 9)).bind fun s =>
      System.execute (step (fun _ => true) "alpha") s (race₀.drop 9)).isSome = true := by decide +kernel
  rw [hs, Option.bind_some] at hall
  obtain ⟨t, ht⟩ := Option.isSome_iff_exists.mp hall
  have hr : (observers (fun _ => true) "alpha").Run s (race₀.drop 9) t := System.run_of_execute ht
  have hreachable : (observers (fun _ => true) "alpha").Reachable s :=
    ⟨start₀, race₀.take 9, ⟨rfl, rfl⟩, System.run_of_execute hs⟩
  refine ⟨s, t, hr, houtcomes, (observers_keep_histories hreachable hr).2.2.2.1 attempt₀ ⟨filled₀, ?_, rfl⟩⟩
  rw [houtcomes]
  exact List.mem_singleton_self _

end Fixture

end IbkrPlatform.Settlement.Observers
