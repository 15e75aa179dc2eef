import IbkrPlatform.Recovery.RecoverySteps

/-! The course of a recovery: its forward writes, the compensation of a failure, and how it ends. -/

namespace IbkrPlatform.WarmRecovery

open Library Procedure

section Forward

variable (card : Card)

structure Sound (w : View) (m : Memory) : Prop where
  known : ∀ e, m.expected = some e → Known card e.toContent
  course : w.sent.map (·.spec) = line card w.sent.length
  count : w.sent.length ≤ 3
  idle : m.pending = none → Settled w ∧ ∀ e, m.expected = some e → e.spec = stage card w.sent.length
  busy : ∀ p, m.pending = some p → 0 < w.sent.length ∧ p.1 ∈ w.readings ∧ p.1.spec = stage card (w.sent.length - 1) ∧
    p.2 = stage card w.sent.length ∧ ∀ b ∈ w.sent, b.version ≤ p.1.version
  activated : m.activated = true → 0 < w.sent.length ∧ (m.pending ≠ none → 2 ≤ w.sent.length)
  desired : 0 < w.sent.length → card.snapshot.spec.traffic = card.warmOnly.map Target.of

structure Ready (n : ℕ) (active : Bool) (w : View) (m : Memory) : Prop where
  sent : w.sent.length = n
  activated : m.activated = active
  idle : m.pending = none

def Holding (n : ℕ) (v : Service) (w : View) (m : Memory) : Prop :=
  w.readings.head? = some v ∧ Known card v.toContent ∧ v.spec = stage card n ∧
    ∃ e, m.expected = some e ∧ v.generation = e.generation

structure Waiting (n : ℕ) (active : Bool) (e : Service) (w : View) (m : Memory) : Prop where
  sent : w.sent.length = n
  activated : m.activated = active
  expected : m.expected = some e
  pending : ∃ p, m.pending = some (p, stage card n) ∧ p.generation = e.generation

def Shows (n : ℕ) (distribution : List (String × ℤ)) (w : View) : Prop :=
  ∃ v, w.readings.head? = some v ∧ Known card v.toContent ∧ v.spec = stage card n ∧ v.active = some distribution

variable {card} {w : View} {m : Memory} {n : ℕ} {active : Bool} {v e : Service}

lemma Ascending.head_le {readings : List Service} (h : Ascending readings) (hv : readings.head? = some v) {p : Service}
    (hp : p ∈ readings) : p.version ≤ v.version ∧ (p ≠ v → p.version < v.version) := by
  obtain ⟨rest, rfl⟩ := List.head?_eq_some_iff.mp hv
  rcases List.mem_cons.mp hp with rfl | hp
  · exact ⟨le_rfl, fun hne => absurd rfl hne⟩
  · obtain ⟨hle, hsame⟩ := (List.pairwise_cons.mp h).1 p hp
    exact ⟨hle, fun hne => lt_of_le_of_ne hle fun heq => hne (hsame heq)⟩

lemma Known.of_sameMeta {c d : Content} (hd : Known card d) (huid : c.uid = card.snapshot.uid) (hmeta : c.sameMeta d) : Known card c := by
  refine ⟨huid, ?_⟩
  have hdm := hd.2
  simp only [Content.sameMeta, decide_eq_true_eq] at hdm hmeta ⊢
  exact ⟨hmeta.1.trans hdm.1, hmeta.2.1.trans hdm.2.1, hmeta.2.2.1.trans hdm.2.2.1, hmeta.2.2.2.trans hdm.2.2.2⟩

lemma Settled.read (h : Settled w) : Settled { w with readings := v :: w.readings } := fun b hb =>
  let ⟨u, hu, hlt⟩ := h b hb
  ⟨u, List.mem_cons_of_mem _ hu, hlt⟩

lemma Sound.read (h : Sound card w m) : Sound card { w with readings := v :: w.readings } m where
  known := h.known
  course := h.course
  count := h.count
  idle hp := ⟨(h.idle hp).1.read, (h.idle hp).2⟩
  busy p hp :=
    let ⟨hpos, hmem, hrest⟩ := h.busy p hp
    ⟨hpos, List.mem_cons_of_mem _ hmem, hrest⟩
  activated := h.activated
  desired := h.desired

lemma Sound.see {r : Revision} (h : Sound card w m) : Sound card { w with seen := r :: w.seen } m :=
  ⟨h.known, h.course, h.count, h.idle, h.busy, h.activated, h.desired⟩

lemma Sound.withMinima (h : Sound card w m) (minima : List String) : Sound card w { m with minima } :=
  ⟨h.known, h.course, h.count, h.idle, h.busy, h.activated, h.desired⟩

lemma Sound.holding {distribution : List (String × ℤ)} (h : Sound card w m) (hr : Ready n active w m)
    (hs : @Steady card distribution v w m) : Holding card n v w m := by
  obtain ⟨hhead, huid, -, e, he, hspec, hmeta, hgeneration⟩ := hs
  exact ⟨hhead, (h.known e he).of_sameMeta huid hmeta, hspec.trans (hr.sent ▸ (h.idle hr.idle).2 e he), e, he, hgeneration⟩

lemma Sound.send (h : Sound card w m) (hasc : Ascending w.readings) (hr : Ready n active w m) (hv : Holding card n v w m)
    (hn : n ≤ 2) (hactive : n = 0 → active = false ∧ card.snapshot.spec.traffic = card.warmOnly.map Target.of) :
    Sound card { w with sent := v.body (stage card (n + 1)) :: w.sent } { m with pending := some (v, stage card (n + 1)) } := by
  have hsent := hr.sent
  obtain ⟨hhead, -, hspec, -⟩ := hv
  refine ⟨h.known, ?_, ?_, fun hp => (nomatch hp), ?_, ?_, ?_⟩
  · change stage card (n + 1) :: w.sent.map (·.spec) = line card (w.sent.length + 1)
    rw [h.course, hsent]
    rfl
  · change w.sent.length + 1 ≤ 3
    omega
  · rintro p hp
    obtain rfl := Option.some.inj hp
    change 0 < w.sent.length + 1 ∧ _ ∧ _ = stage card (w.sent.length + 1 - 1) ∧ _ = stage card (w.sent.length + 1) ∧ _
    rw [hsent]
    refine ⟨by omega, List.mem_of_mem_head? hhead, hspec, rfl, fun b hb => ?_⟩
    rcases List.mem_cons.mp hb with rfl | hb
    · exact le_rfl
    · obtain ⟨u, hu, hlt⟩ := (h.idle hr.idle).1 b hb
      exact hlt.le.trans (hasc.head_le hhead hu).1
  · intro ha
    change 0 < w.sent.length + 1 ∧ (_ → 2 ≤ w.sent.length + 1)
    have hpos : n ≠ 0 := fun h0 => by simp [hr.activated, (hactive h0).1] at ha
    exact ⟨by omega, fun _ => by omega⟩
  · intro _
    rcases Nat.eq_zero_or_pos n with h0 | hpos
    · exact (hactive h0).2
    · exact h.desired (by omega)

lemma Sound.settle {distribution : List (String × ℤ)} (h : Sound card w m) (hasc : Ascending w.readings)
    (hw : Waiting card (n + 1) active e w m) (hhead : w.readings.head? = some v)
    (hv : Accepted card e (stage card (n + 1)) distribution none v) : Sound card w { m with expected := some v } ∧
      Sound card w { m with expected := some v, pending := none } := by
  obtain ⟨hsent, -, he, p, hp, hgeneration⟩ := hw
  have hknown : ∀ e', some v = some e' → Known card e'.toContent := by
    rintro e' he'
    obtain rfl := Option.some.inj he'
    exact (h.known e he).of_sameMeta hv.uid hv.sameMeta
  obtain ⟨hpos, hmem, -, -, hle⟩ := h.busy _ hp
  have hnew : v.generation = e.generation + 1 := hv.generation.resolve_right fun h => nomatch h.1
  have hne : p ≠ v := by
    rintro rfl
    omega
  have hlt := (hasc.head_le hhead hmem).2 hne
  have hsettled : Settled w := fun b hb => ⟨v, List.mem_of_mem_head? hhead, (hle b hb).trans_lt hlt⟩
  refine ⟨⟨hknown, h.course, h.count, fun h' => ?_, h.busy, h.activated, h.desired⟩, hknown, h.course, h.count, fun _ => ⟨hsettled, ?_⟩,
    fun _ h' => (nomatch h'), fun ha => ⟨(h.activated ha).1, fun h' => absurd rfl h'⟩, h.desired⟩
  · exact nomatch hp.symm.trans h'
  · rintro e' he'
    obtain rfl := Option.some.inj he'
    rw [hsent]
    exact hv.spec

def Sees (S : List Revision → Option Revision → Prop) (w : View) (m : Memory) : Prop := S w.seen m.replacement

def Watched (continuity : String → Bool) (card : Card) (n : ℕ) (seen : List Revision) (replacement : Option Revision) : Prop :=
  Streak continuity card n seen ∧ ∃ r, replacement = some r ∧ ∀ r' ∈ seen, Retained card r' ∧ r'.fingerprint = r.fingerprint

variable {continuity : String → Bool} {S : List Revision → Option Revision → Prop} {distribution : List (String × ℤ)}
  {deadline : Option ℚ} {turns : ℕ}

lemma Watched.qualified {seen : List Revision} {replacement : Option Revision} (h : Watched continuity card 3 seen replacement) :
    Qualified continuity card seen :=
  ⟨h.1, h.2.imp fun _ hr => hr.2⟩

lemma Ready.holding_read (h : Ready n active w m ∧ Sees S w m) :
    Ready n active { w with readings := v :: w.readings } m ∧ Sees S { w with readings := v :: w.readings } m :=
  ⟨⟨h.1.sent, h.1.activated, h.1.idle⟩, h.2⟩

lemma send_does (hn : n ≤ 2)
    (hactive : n = 0 → active = false ∧ card.snapshot.spec.traffic = card.warmOnly.map Target.of)
    (hqualified : n = 2 → ∀ seen replacement, S seen replacement → Qualified continuity card seen) :
    Does continuity card (Sound card) (fun w m => (Ready n active w m ∧ Sees S w m) ∧ Holding card n v w m)
      (put v (stage card (n + 1))) fun _ w m => ∃ e, Waiting card (n + 1) active e w m ∧ Sees S w m := by
  refine does_put ?_
  rintro w m hasc hb ⟨⟨hr, hs⟩, hv⟩
  refine ⟨⟨v, hv.1, hv.2.1, rfl, .inl ⟨n, hn, hr.sent ▸ hb.course, (hb.idle hr.idle).1, hv.2.2.1, rfl, fun h2 => hqualified h2 _ _ hs⟩⟩,
    hb.send hasc hr hv hn hactive, ?_⟩
  obtain ⟨e, he, hgeneration⟩ := hv.2.2.2
  exact ⟨e, ⟨congrArg (· + 1) hr.sent, hr.activated, he, v, rfl, hgeneration⟩, hs⟩

lemma settle_does :
    Does continuity card (Sound card) (fun w m => ∃ e, Waiting card (n + 1) active e w m ∧ Sees S w m)
      (settle card turns (stage card (n + 1)) distribution none)
      fun _ w m => (Ready (n + 1) active w m ∧ Sees S w m) ∧ Shows card (n + 1) (sorted distribution) w := by
  refine does_exists fun e => does_bind (does_readTime trivial) fun now => settleLoop_does (e := e) ?_ ?_ ?_ turns
  · rintro w m u hb ⟨hw, hs⟩
    exact ⟨hb.read, ⟨hw.sent, hw.activated, hw.expected, hw.pending⟩, hs⟩
  · exact fun w m hk => hk.1.expected
  · rintro w m u hasc hhead hu hb ⟨hw, hs⟩
    have hsound := hb.settle hasc hw hhead hu
    exact ⟨hsound.1, hsound.2, ⟨⟨hw.sent, hw.activated, rfl⟩, hs⟩, u, hhead, hsound.2.known u rfl, hu.spec, hu.active⟩

lemma watch_does {timeout : ℚ} {K : View → Memory → Prop} (hk : ∀ w m seen, K w m → K { w with seen } m) :
    Does continuity card (Sound card) (fun w m => K w m ∧ Sees (Watched continuity card n) w m) (checkReplacement card timeout)
      fun r w m => (K w m ∧ Sees (Watched continuity card 0) w m) ∧
        (healthy continuity card.sourceCommit r = .healthy → Watched continuity card (n + 1) w.seen m.replacement) := by
  refine (checkReplacement_does fun w m r hb _ => hb.see).weaken (fun _ _ _ hk => hk) ?_
  rintro r w m - ⟨w₀, rfl, ⟨hkm, ⟨hn, hstreak⟩, r₀, hr₀, hseen⟩, hretained, hprint⟩
  have hall : ∀ r' ∈ r :: w₀.seen, Retained card r' ∧ r'.fingerprint = r₀.fingerprint := by
    rintro r' hr'
    rcases List.mem_cons.mp hr' with rfl | hr'
    · exact ⟨hretained, hprint r₀ hr₀⟩
    · exact hseen r' hr'
  refine ⟨⟨hk w₀ m _ hkm, ⟨Nat.zero_le _, by simp⟩, r₀, hr₀, hall⟩, fun hr => ⟨⟨by simpa using hn, ?_⟩, r₀, hr₀, hall⟩⟩
  intro r' hr'
  rcases List.mem_cons.mp hr' with rfl | hr'
  · exact hr
  · exact hstreak r' hr'

lemma observe_does {turns count : ℕ} {deadline : ℚ} :
    Does continuity card (Sound card) (fun w m => Ready 2 active w m ∧ Sees (Watched continuity card count) w m)
      (observe continuity card deadline turns count) fun _ w m => Ready 2 active w m ∧ Sees (Watched continuity card 2) w m := by
  induction turns generalizing count with
  | zero => exact does_spent
  | succ turns ih =>
    refine does_bind valid_does fun _ => does_bind before_does fun _ => does_bind timeLeft_does fun timeout => ?_
    refine does_bind (Q := fun _ w m => Ready 2 active w m ∧ Sees (Watched continuity card count) w m) ?_ fun _ => ?_
    · exact (stable_does (K := fun w m => Ready 2 active w m ∧ Sees (Watched continuity card count) w m)
        fun w m v hb hk => ⟨hb.read, Ready.holding_read hk⟩).weaken (fun _ _ _ hk => hk) fun _ _ _ _ hk => hk.1
    refine does_bind before_does fun _ => does_bind timeLeft_does fun timeout => ?_
    refine does_bind (watch_does fun w m seen hr => ⟨hr.sent, hr.activated, hr.idle⟩) fun r => ?_
    refine does_bind (Q := fun count w m => Ready 2 active w m ∧ Sees (Watched continuity card count) w m) ?_ fun count => ?_
    · cases healthy continuity card.sourceCommit r with
      | healthy => exact does_pure fun w m _ hk => ⟨hk.1.1, hk.2 rfl⟩
      | pending => exact does_pure fun w m _ hk => hk.1
      | refused => exact does_raise
    refine does_bind before_does fun _ => ?_
    split
    · rename_i hcount
      exact does_pure fun w m _ hk => hcount ▸ hk
    · exact does_bind (does_readTime trivial) fun now => does_bind (does_finish trivial) fun _ => ih

lemma replacementSpec_traffic {spec spec' : Spec} (h : card.replacementSpec spec = some spec') : spec'.traffic = spec.traffic := by
  unfold Card.replacementSpec at h
  split at h
  · obtain ⟨-, h⟩ := Option.ite_none_right_eq_some.mp h
    obtain rfl := Option.some.inj h
    rfl
  · exact nomatch h

lemma created_traffic : (created card).traffic = card.snapshot.spec.traffic := by
  unfold created
  cases h : card.replacementSpec card.snapshot.spec with
  | none => rfl
  | some spec => exact replacementSpec_traffic h

variable (hwarm : card.warm.name ≠ card.replacement)

include hwarm

lemma shift_does (hn : n ≤ 2) (hpos : 0 < n)
    (htraffic : (stage card n).withTraffic distribution = stage card (n + 1))
    (hqualified : n = 2 → ∀ seen replacement, S seen replacement → Qualified continuity card seen)
    {S' : List Revision → Option Revision → Prop}
    (hcheck : ∀ v, Does continuity card (Sound card) (fun w m => (Ready n active w m ∧ Sees S' w m) ∧ Holding card n v w m)
      (checkBefore continuity card deadline) fun _ w m => (Ready n active w m ∧ Sees S w m) ∧ Holding card n v w m) :
    Does continuity card (Sound card) (fun w m => Ready n active w m ∧ Sees S' w m) (shift continuity card turns distribution deadline)
      fun _ w m => (Ready (n + 1) active w m ∧ Sees S w m) ∧ Shows card (n + 1) (sorted distribution) w := by
  refine does_bind valid_does fun _ => does_get fun m₀ => does_demand fun e _ => does_demand fun previous _ => ?_
  refine does_bind (Q := fun v w m => (Ready n active w m ∧ Sees S' w m) ∧ Holding card n v w m) ?_ fun v =>
    does_fact (p := v.spec = stage card n) (fun w m _ hk => hk.2.2.2.1) fun hspec => ?_
  · refine (stable_does fun w m v hb hk => ⟨hb.read, Ready.holding_read hk.1, hk.2⟩).weaken (fun _ _ _ hk => hk) ?_
    rintro v w m hb ⟨⟨hk, rfl⟩, hv⟩
    exact ⟨hk, hb.holding hk.1 hv⟩
  · refine does_bind (checkWarm_does hwarm) fun _ => does_bind (hcheck v) fun _ => does_bind valid_does fun _ => ?_
    rw [hspec, htraffic]
    exact does_bind (send_does hn (fun h0 => absurd h0 hpos.ne') hqualified) fun _ => settle_does

def Unseen (seen : List Revision) (replacement : Option Revision) : Prop := seen = [] ∧ replacement = none

lemma create_does : Does continuity card (Sound card) (fun w m => Ready 0 false w m ∧ Sees Unseen w m) (create continuity card turns)
    fun _ w m => Ready 1 false w m ∧ Sees (Watched continuity card 0) w m := by
  refine does_bind valid_does fun _ => ?_
  refine does_bind (Q := fun _ w m => Ready 0 false w m ∧ Sees Unseen w m)
    (does_readService fun w m v _ hb hk => ⟨hb.read, Ready.holding_read hk⟩) fun before => ?_
  refine does_require fun hbefore => does_require fun htraffic => does_require fun _ => ?_
  obtain rfl := of_decide_eq_true hbefore
  have hdesired : card.snapshot.spec.traffic = card.warmOnly.map Target.of := (of_decide_eq_true htraffic).2.2
  refine does_bind (Q := fun _ w m => Ready 0 false w m ∧ Sees Unseen w m) (does_modify ?_) fun _ => ?_
  · rintro w m - hb ⟨hr, hs⟩
    refine ⟨⟨?_, hb.course, hb.count, fun _ => ⟨(hb.idle hr.idle).1, ?_⟩, hb.busy, hb.activated, hb.desired⟩,
      ⟨hr.sent, hr.activated, hr.idle⟩, hs⟩
    · rintro e he
      obtain rfl := Option.some.inj he
      exact ⟨rfl, by simp [Content.sameMeta]⟩
    · rintro e he
      obtain rfl := Option.some.inj he
      rw [hr.sent]
      rfl
  refine does_bind (minimum_does hwarm fun w m minima hb hk => ⟨hb.withMinima minima, ⟨hk.1.sent, hk.1.activated, hk.1.idle⟩, hk.2⟩)
    fun _ => ?_
  refine does_bind (checkWarm_does hwarm) fun _ => does_bind (does_finish trivial) fun _ => does_bind (checkWarm_does hwarm) fun _ => ?_
  refine does_bind (Q := fun v w m => (Ready 0 false w m ∧ Sees Unseen w m) ∧ Holding card 0 v w m) ?_ fun v => ?_
  · refine (stable_does (K := fun w m => Ready 0 false w m ∧ Sees Unseen w m) fun w m v hb hk =>
      ⟨hb.read, Ready.holding_read hk⟩).weaken (fun _ _ _ hk => hk) ?_
    exact fun v w m hb hk => ⟨hk.1, hb.holding hk.1.1 hk.2⟩
  refine does_fact (p := v.spec = stage card 0) (fun w m _ hk => hk.2.2.2.1) fun hspec => ?_
  refine does_bind valid_does fun _ => does_demand fun spec hreplacement => ?_
  have hcreated : spec = stage card 1 := by
    rw [hspec] at hreplacement
    simp only [stage, created] at hreplacement ⊢
    rw [hreplacement]
    rfl
  subst hcreated
  refine does_bind (Q := fun _ w m => (Ready 0 false w m ∧ Sees Unseen w m) ∧ Holding card 0 v w m)
    (does_bind (does_ask trivial) fun r => ?_) fun absent => does_require fun _ => ?_
  · cases r with
    | absent value => exact does_pure fun _ _ _ hk => hk
    | _ => exact does_raise
  refine does_bind valid_does fun _ => does_bind (record_does (by simp)) fun _ => ?_
  refine does_bind (send_does (by omega) (fun _ => ⟨rfl, hdesired⟩) fun h => absurd h (by omega)) fun _ => does_bind settle_does fun _ => ?_
  refine does_get fun m₀ => does_demand fun e _ => does_require fun _ => ?_
  refine does_bind (checkReplacement_does fun w m r hb _ => hb.see) fun r => does_modify ?_
  rintro w m - hb ⟨w₀, rfl, ⟨⟨⟨hr, hseen, -⟩, -⟩, -⟩, hretained, -⟩
  refine ⟨⟨hb.known, hb.course, hb.count, hb.idle, hb.busy, hb.activated, hb.desired⟩, ⟨hr.sent, hr.activated, hr.idle⟩,
    ⟨Nat.zero_le _, by simp⟩, r, rfl, ?_⟩
  rintro r' hr'
  rw [hseen, List.mem_singleton] at hr'
  obtain rfl := hr'
  exact ⟨hretained, rfl⟩

end Forward

section Endings

variable (continuity : String → Bool) (card : Card)

def Ends {A : Type} (B K : View → Memory → Prop) (x : Recovery A) : Prop :=
  Triple (rely card) (ok continuity card) (At card fun w m => B w m ∧ K w m) x (fun _ _ _ => True)
    fun e h m => e = .raised → At card B h m

variable {continuity card} {A C : Type} {B K : View → Memory → Prop} {Q : A → View → Memory → Prop} {x : Recovery A}
  {f : A → Recovery C} {turns : ℕ}

lemma ends_bind (hx : Does continuity card B K x Q) (hf : ∀ a, Ends continuity card B (Q a) (f a)) : Ends continuity card B K (x >>= f) :=
  triple_bind hx hf

lemma ends_succeeded (hk : ∀ w m, B w m → K w m →
    Reached card (stage card 3) card.promoted w ∧ Qualified continuity card w.seen) :
    Ends continuity card B K (record .succeeded) := by
  refine fun h m ha => holds_bind.mpr (holds_get.mpr (holds_bind.mpr (holds_ask.mpr ⟨⟨ha.1, hk _ _ ha.2.2.1 ha.2.2.2⟩, fun r hr => ?_⟩)))
  cases r with
  | raised => exact fun _ => ⟨rfl, ha.2.1, ha.2.2.1⟩
  | _ => trivial

lemma failureRecord_does {status : Status} (hs : status ≠ .succeeded ∧ status ≠ .failedWarmRestored) :
    Does continuity card B K (failureRecord status) fun _ => K := by
  intro h m ha
  have hq : Quiet card (.record status m.minima) := hs
  refine holds_tryCatch.mpr (holds_bind.mpr (holds_get.mpr (holds_bind.mpr (holds_ask.mpr ⟨⟨ha.1, allowed_quiet hq _⟩, fun r hr => ?_⟩))))
  cases r <;> exact at_quiet hq ha

lemma Streak.le {k n : ℕ} {seen : List Revision} (h : Streak continuity card n seen) (hk : k ≤ n) : Streak continuity card k seen :=
  ⟨hk.trans h.1, fun r hr => h.2 r ((List.take_prefix_take_left hk).mem hr)⟩

variable (hwarm : card.warm.name ≠ card.replacement)

include hwarm

lemma forward_ends : Ends continuity card (Sound card) (fun w m => Ready 0 false w m ∧ Sees Unseen w m) (forward continuity card turns) := by
  refine ends_bind (create_does hwarm) fun _ => ends_bind (record_does (by simp)) fun _ => ?_
  refine ends_bind (Q := fun _ w m => Ready 1 true w m ∧ Sees (Watched continuity card 0) w m) (does_modify ?_) fun _ => ?_
  · rintro w m - hb ⟨hr, hs⟩
    have hpos : 0 < w.sent.length := by
      rw [hr.sent]
      exact Nat.one_pos
    exact ⟨⟨hb.known, hb.course, hb.count, hb.idle, hb.busy, fun _ => ⟨hpos, fun hp => absurd hr.idle hp⟩, hb.desired⟩,
      ⟨hr.sent, rfl, hr.idle⟩, hs⟩
  refine ends_bind (shift_does hwarm (by omega) (by omega) rfl (fun h => absurd h (by omega)) fun v => does_pure fun _ _ _ hk => hk) fun _ => ?_
  refine ends_bind (does_readTime trivial) fun now => ends_bind (observe_does.weaken (fun _ _ _ hk => hk.1) fun _ _ _ _ hq => hq) fun _ => ?_
  refine ends_bind (record_does (by simp)) fun _ => ?_
  refine ends_bind (shift_does hwarm (S := Watched continuity card 3) (by omega) (by omega) rfl
    (fun _ _ _ hs => hs.qualified) fun v => ?_) fun _ => ?_
  · refine does_bind before_does fun _ => does_bind timeLeft_does fun timeout => ?_
    refine does_bind ((watch_does (n := 2) (K := fun w m => Ready 2 true w m ∧ Holding card 2 v w m) ?_).weaken
      (fun _ _ _ hk => ⟨⟨hk.1.1, hk.2⟩, hk.1.2⟩) fun _ _ _ _ hq => hq) fun r => ?_
    · exact fun w m seen hk => ⟨⟨hk.1.sent, hk.1.activated, hk.1.idle⟩, hk.2⟩
    · refine does_bind requireHealthy_does fun _ => before_does.weaken (fun _ _ _ hk => hk) ?_
      exact fun _ w m _ hk => ⟨⟨hk.1.1.1.1, hk.1.2 hk.2⟩, hk.1.1.1.2⟩
  · refine ends_bind ((watch_does (n := 3) (K := fun w _ => Shows card 3 card.promoted w ∧ Settled w) ?_).weaken ?_
      fun _ _ _ _ hq => hq) fun r => ?_
    · exact fun w m seen hk => hk
    · exact fun w m hb hk => ⟨⟨hk.2, (hb.idle hk.1.1.idle).1⟩, hk.1.2⟩
    refine ends_bind requireHealthy_does fun _ => ends_bind (minimum_does hwarm ?_) fun _ => ends_succeeded ?_
    · exact fun w m minima hb hk => ⟨hb.withMinima minima, hk⟩
    · rintro w m - ⟨⟨⟨⟨hshows, hsettled⟩, -⟩, hwatched⟩, hhealthy⟩
      have hw := hwatched hhealthy
      exact ⟨⟨hsettled, hshows⟩, hw.1.le (by omega), hw.2.imp fun _ hr => hr.2⟩

end Endings

section Rollback

variable {continuity : String → Bool} {card : Card} {w : View} {m : Memory} {v e : Service} {turns : ℕ}

lemma stage_withWarm {k : ℕ} (hk : 1 ≤ k) (htraffic : card.snapshot.spec.traffic = card.warmOnly.map Target.of) :
    (stage card k).withTraffic card.warmOnly = stage card 1 := by
  have hcreated : (created card).withTraffic card.warmOnly = created card := by
    rw [Spec.withTraffic, ← htraffic, ← created_traffic]
  match k with
  | 1 => exact hcreated
  | 2 => exact hcreated
  | k + 3 => exact hcreated

lemma Sound.owned (h : Sound card w m) (hactivated : m.activated = true) (hasc : Ascending w.readings) (he : m.expected = some e)
    (hhead : w.readings.head? = some v) (howns : m.owns e v = true) :
    (∃ k, 1 ≤ k ∧ k ≤ w.sent.length ∧ v.spec = stage card k) ∧ ∀ b ∈ w.sent, b.version ≤ v.version := by
  obtain ⟨hpos, htwo⟩ := h.activated hactivated
  cases hp : m.pending with
  | none =>
    simp only [Memory.owns, hp, decide_eq_true_eq] at howns
    obtain ⟨hsettled, hstage⟩ := h.idle hp
    refine ⟨⟨_, hpos, le_rfl, howns.2.trans (hstage e he)⟩, fun b hb => ?_⟩
    obtain ⟨u, hu, hlt⟩ := hsettled b hb
    exact hlt.le.trans (hasc.head_le hhead hu).1
  | some p =>
    simp only [Memory.owns, hp, decide_eq_true_eq] at howns
    obtain ⟨-, hmem, hbefore, hspec, hle⟩ := h.busy p hp
    have hn := htwo (by simp [hp])
    refine ⟨?_, fun b hb => (hle b hb).trans (hasc.head_le hhead hmem).1⟩
    rcases howns with ⟨-, hv⟩ | ⟨-, hv⟩
    · exact ⟨w.sent.length - 1, by omega, by omega, hv.trans hbefore⟩
    · exact ⟨w.sent.length, hpos, le_rfl, hv.trans hspec⟩

structure Restoring (card : Card) (v : Service) (w : View) (m : Memory) : Prop where
  expected : m.expected = some v
  known : Known card v.toContent
  read : v ∈ w.readings
  newest : ∀ b ∈ w.sent, b.version ≤ v.version

variable (hwarm : card.warm.name ≠ card.replacement)

include hwarm

lemma rollback_does : Does continuity card (fun _ _ => True) (fun w m => Sound card w m ∧ m.activated = true)
    (rollback continuity card turns) fun _ w _ => Reached card (stage card 1) card.warmOnly w := by
  refine does_bind (checkWarm_does hwarm) fun _ => ?_
  refine does_bind (Q := fun v w m => (Sound card w m ∧ m.activated = true) ∧ w.readings.head? = some v ∧ Ascending w.readings)
    (does_readService fun w m v hasc _ hk => ⟨trivial, ⟨hk.1.read, hk.2⟩, rfl, hasc⟩) fun v => does_get fun m₀ => ?_
  refine does_demand fun e he => does_require fun hmeta => does_require fun howns => does_demand fun traffic htraffic => does_require fun _ => ?_
  simp only [Bool.decide_and, Bool.and_eq_true, decide_eq_true_eq] at hmeta
  split
  · rename_i hrestored
    refine does_modify ?_
    rintro w m - - ⟨⟨⟨hb, hactivated⟩, hhead, hasc⟩, rfl⟩
    have hp : m.pending = none := Option.isNone_iff_eq_none.mp hrestored.1
    obtain ⟨⟨k, hk, -, hspec⟩, -⟩ := hb.owned hactivated hasc he hhead howns
    have hdesired := hb.desired (hb.activated hactivated).1
    have hsame : v.spec = v.spec.withTraffic card.warmOnly := by
      rw [Spec.withTraffic, ← hrestored.2.2]
    refine ⟨trivial, (hb.idle hp).1, v, hhead, (hb.known e he).of_sameMeta hmeta.1 hmeta.2, ?_, htraffic.trans (congrArg some hrestored.2.1)⟩
    rw [hsame, hspec, stage_withWarm hk hdesired]
  · refine does_bind (Q := fun _ w m => ∃ m₁, m = { m₁ with expected := some v } ∧ (Sound card w m₁ ∧ m₁.activated = true) ∧
      w.readings.head? = some v ∧ Known card v.toContent ∧ m₁.expected = some e ∧ m₁.owns e v = true) (does_modify ?_) fun _ => ?_
    · rintro w m - - ⟨⟨hb, hhead, hasc⟩, rfl⟩
      exact ⟨trivial, m, rfl, hb, hhead, (hb.1.known e he).of_sameMeta hmeta.1 hmeta.2, he, howns⟩
    refine does_bind (Q := fun _ w m => Restoring card v w m ∧ v.spec.withTraffic card.warmOnly = stage card 1) (does_put ?_) fun _ =>
      does_imp fun hspec => does_bind (does_readTime trivial) fun now => settleLoop_does (e := v) ?_ ?_ ?_ turns
    · rintro w m hasc - ⟨m₁, rfl, ⟨hb, hactivated⟩, hhead, hknown, he₁, howns₁⟩
      obtain ⟨⟨k, hk, hkn, hstage⟩, hle⟩ := hb.owned hactivated hasc he₁ hhead howns₁
      have hspec : v.spec.withTraffic card.warmOnly = stage card 1 := by
        rw [hstage, stage_withWarm hk (hb.desired (hb.activated hactivated).1)]
      refine ⟨⟨v, hhead, hknown, rfl, .inr ⟨_, k, hb.count, hk, hkn, hb.course, hstage, hspec⟩⟩, trivial,
        ⟨rfl, hknown, List.mem_of_mem_head? hhead, ?_⟩, hspec⟩
      rintro b hb'
      rcases List.mem_cons.mp hb' with rfl | hb'
      · exact le_rfl
      · exact hle b hb'
    · exact fun w m u _ hk => ⟨trivial, hk.expected, hk.known, List.mem_cons_of_mem _ hk.read, hk.newest⟩
    · exact fun w m hk => hk.expected
    · rintro w m u hasc hhead hu - hk
      refine ⟨trivial, trivial, ?_, u, hhead, hk.known.of_sameMeta hu.uid hu.sameMeta, hu.spec.trans hspec, hu.active⟩
      have hne : v ≠ u := by
        rintro rfl
        exact hu.fence rfl
      exact fun b hb => ⟨u, List.mem_of_mem_head? hhead, (hk.newest b hb).trans_lt ((hasc.head_le hhead hk.read).2 hne)⟩

lemma restore_does : Does continuity card (fun _ _ => True) (fun w m => Sound card w m ∧ m.activated = true)
    (tryCatch (do
        rollback continuity card turns
        minimum card
        pure Status.failedWarmRestored) fun
      | .spent => throw .spent
      | .raised => pure .failedRestoreUnconfirmed)
    fun status w _ => status = .failedWarmRestored ∧ Reached card (stage card 1) card.warmOnly w ∨ status = .failedRestoreUnconfirmed := by
  refine triple_tryCatch (F := fun e h m => e = .raised → At card (fun _ _ => True) h m) ?_ fun e => ?_
  · refine does_bind (rollback_does hwarm) fun _ => does_bind (minimum_does hwarm fun _ _ _ _ hk => ⟨trivial, hk⟩) fun _ => ?_
    exact does_pure fun _ _ _ hk => .inl ⟨rfl, hk⟩
  · cases e with
    | raised => exact triple_pure fun h m ha => ⟨(ha rfl).1, (ha rfl).2.1, trivial, .inr rfl⟩
    | spent => exact triple_throw fun h m _ he => (nomatch he)

omit hwarm in
lemma failureRecord_asks {K : View → Memory → Prop} {status : Status} {E : Stop → History → Memory → Prop}
    (hk : ∀ w m, K w m → ∀ minima, Allowed continuity card w (.record status minima)) :
    Triple (rely card) (ok continuity card) (At card K) (failureRecord status) (fun _ _ _ => True) E := by
  intro h m ha
  refine holds_tryCatch.mpr (holds_bind.mpr (holds_get.mpr (holds_bind.mpr (holds_ask.mpr ⟨⟨ha.1, hk _ _ ha.2.2 _⟩, fun r hr => ?_⟩))))
  cases r <;> trivial

lemma recoverFailure_asks : Triple (rely card) (ok continuity card) (At card (Sound card)) (recoverFailure continuity card turns)
    (fun _ _ _ => True) fun _ _ _ => True := by
  refine triple_bind (Q := fun _ => At card fun w m => True ∧ Sound card w m)
    (Triple.mono (failureRecord_does (B := fun _ _ => True) (by simp)) (fun _ _ ha => ⟨ha.1, ha.2.1, trivial, ha.2.2⟩) (fun _ _ _ hq => hq)
      fun _ _ _ _ => trivial) fun _ => triple_get fun m₀ => ?_
  split
  · rename_i hactivated
    refine triple_bind (Triple.mono (@restore_does _ _ turns hwarm) ?_ (fun _ _ _ hq => hq) fun _ _ _ _ => trivial) fun status => ?_
    · rintro h m ⟨ha, rfl⟩
      exact ⟨ha.1, ha.2.1, trivial, ha.2.2.2, hactivated⟩
    · refine failureRecord_asks fun w m hk minima => ?_
      rcases hk.2 with ⟨rfl, hreached⟩ | rfl
      · exact hreached
      · trivial
  · split
    · refine triple_tryCatch (F := fun e h m => e = .raised → At card (fun _ _ => True) h m) ?_ fun e => ?_
      · refine triple_bind (Triple.mono (minimum_does (B := fun _ _ => True) (K := fun _ _ => True) hwarm fun _ _ _ _ _ => ⟨trivial, trivial⟩)
          (fun h m ha => ⟨ha.1.1, ha.1.2.1, trivial, trivial⟩) (fun _ _ _ hq => hq) fun _ _ _ he => he) fun _ => ?_
        exact failureRecord_asks fun _ _ _ _ => by exact trivial
      · cases e with
        | raised => exact fun h m ha => failureRecord_asks (K := fun _ _ => True) (fun _ _ _ _ => by exact trivial) h m (ha rfl)
        | spent => exact triple_throw fun _ _ _ => trivial
    · exact triple_pure fun _ _ _ => trivial

omit hwarm in
lemma Does.asks {A : Type} {B K : View → Memory → Prop} {x : Recovery A} {Q : A → View → Memory → Prop} (hx : Does continuity card B K x Q) :
    Triple (rely card) (ok continuity card) (At card fun w m => B w m ∧ K w m) x (fun a => At card fun w m => B w m ∧ Q a w m) fun _ _ _ => True :=
  hx.mono (fun _ _ ha => ha) (fun _ _ _ hq => hq) fun _ _ _ _ => trivial

omit hwarm in
theorem execute_upholds : Dialogue.Upholds (rely card) (ok continuity card) (fun _ _ => True) [] ((execute continuity card turns).start .start) := by
  have hasks : Triple (rely card) (ok continuity card) (At card fun w m => True ∧ w = ⟨[], [], []⟩ ∧ m = .start) (execute continuity card turns)
      (fun _ _ _ => True) fun _ _ _ => True := by
    refine triple_bind (does_check (B := fun _ _ => True)).asks fun _ => ?_
    refine triple_bind (valid_does (B := fun _ _ => True)).asks fun _ => triple_bind (does_finish (B := fun _ _ => True) (by exact trivial)).asks fun _ => ?_
    refine triple_bind (record_does (B := fun _ _ => True) (by simp)).asks fun _ => ?_
    rintro h m ⟨hfinal, hrely, -, ⟨hw, rfl⟩, hadmitted⟩
    have hwarm : card.warm.name ≠ card.replacement := by
      simp only [Card.admitted, decide_eq_true_eq] at hadmitted
      exact hadmitted.2.2.2.2.2.2.2.2.2.2.2.2.2
    refine triple_tryCatch (Triple.mono (forward_ends hwarm) (fun _ _ ha => ha) (fun _ _ _ _ => trivial) fun _ _ _ he => he)
      (fun e => ?_) h _ ⟨hfinal, hrely, ?_, ?_⟩
    · cases e with
      | raised => exact fun h m ha => triple_bind (recoverFailure_asks hwarm) (fun _ => triple_throw fun _ _ _ => trivial) h m (ha rfl)
      | spent => exact triple_throw fun _ _ _ => trivial
    · rw [hw]
      exact ⟨fun e he => (nomatch he), rfl, Nat.zero_le _, fun _ => ⟨fun b hb => (nomatch hb), fun e he => (nomatch he)⟩,
        fun p hp => (nomatch hp), fun ha => (nomatch ha), fun hpos => absurd hpos (by simp)⟩
    · rw [hw]
      exact ⟨⟨rfl, rfl, rfl⟩, rfl, rfl⟩
  exact Dialogue.Upholds.mono (hasks [] .start ⟨rfl, List.Pairwise.nil, trivial, rfl, rfl⟩) fun _ _ _ => trivial

end Rollback

end IbkrPlatform.WarmRecovery
