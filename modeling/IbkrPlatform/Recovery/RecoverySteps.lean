import IbkrPlatform.Recovery.WarmRecovery

/-! What a recovery asks for, whatever it is answered: its writes, in order, and the two ways in which it ends well. -/

namespace IbkrPlatform.WarmRecovery

open Library Procedure

/-- What was asked and answered, newest first. -/
abbrev History := List (Ask × Answer)

structure View where
  readings : List Service
  sent : List Body
  seen : List Revision

section Definitions

variable (continuity : String → Bool) (card : Card)

def view : History → View
  | [] => ⟨[], [], []⟩
  | x :: h => match x with
    | (.service _, .service v) => { view h with readings := v :: (view h).readings }
    | (.put b, _) => { view h with sent := b :: (view h).sent }
    | (.revision name _, .revision r) =>
      if name = card.replacement then { view h with seen := r :: (view h).seen } else view h
    | _ => view h

def Final : History → Bool
  | (.record .succeeded _, .raised) :: _ => false
  | (.record .succeeded _, _) :: _ => true
  | (.record .failedWarmRestored _, _) :: _ => true
  | _ => false

def created : Spec := (card.replacementSpec card.snapshot.spec).getD card.snapshot.spec

def stage : ℕ → Spec
  | 0 => card.snapshot.spec
  | 1 => created card
  | 2 => (created card).withTraffic card.canary
  | _ => (created card).withTraffic card.promoted

def line : ℕ → List Spec
  | 0 => []
  | n + 1 => stage card (n + 1) :: line n

def Known (c : Content) : Prop := c.uid = card.snapshot.uid ∧ c.sameMeta card.snapshot.toContent

def Ascending (readings : List Service) : Prop :=
  readings.Pairwise fun newer older => older.version ≤ newer.version ∧ (older.version = newer.version → older = newer)

def Settled (w : View) : Prop := ∀ b ∈ w.sent, ∃ v ∈ w.readings, b.version < v.version

def Retained (r : Revision) : Prop :=
  r.name = card.replacement ∧ r.minimumScale = "0" ∧ r.digest = some card.imageDigest

def Streak (n : ℕ) (seen : List Revision) : Prop :=
  n ≤ seen.length ∧ ∀ r ∈ seen.take n, healthy continuity card.sourceCommit r = .healthy

def Qualified (seen : List Revision) : Prop :=
  Streak continuity card 3 seen ∧ ∃ r, ∀ r' ∈ seen, Retained card r' ∧ r'.fingerprint = Revision.fingerprint r

def Advances (w : View) (v : Service) (b : Body) : Prop :=
  ∃ n, n ≤ 2 ∧ w.sent.map (·.spec) = line card n ∧ Settled w ∧ v.spec = stage card n ∧ b.spec = stage card (n + 1) ∧
    (n = 2 → Qualified continuity card w.seen)

def Restores (w : View) (v : Service) (b : Body) : Prop :=
  ∃ n k, n ≤ 3 ∧ 1 ≤ k ∧ k ≤ n ∧ w.sent.map (·.spec) = line card n ∧ v.spec = stage card k ∧ b.spec = stage card 1

structure Follows (w : View) (v : Service) (b : Body) : Prop where
  newest : w.readings.head? = some v
  known : Known card v.toContent
  body : b = v.body b.spec
  step : Advances continuity card w v b ∨ Restores card w v b

def Reached (spec : Spec) (distribution : List (String × ℤ)) (w : View) : Prop :=
  Settled w ∧ ∃ v, w.readings.head? = some v ∧ Known card v.toContent ∧ v.spec = spec ∧ v.active = some distribution

def Allowed (w : View) : Ask → Prop
  | .put b => ∃ v, Follows continuity card w v b
  | .record .succeeded _ => Reached card (stage card 3) card.promoted w ∧ Qualified continuity card w.seen
  | .record .failedWarmRestored _ => Reached card (stage card 1) card.warmOnly w
  | _ => True

def rely (h : History) : Prop := Ascending (view card h).readings

def ok (h : History) (q : Ask) : Prop := Final h = false ∧ Allowed continuity card (view card h) q

def Quiet : Ask → Prop
  | .service _ => False
  | .put _ => False
  | .revision name _ => name ≠ card.replacement
  | .record status _ => status ≠ .succeeded ∧ status ≠ .failedWarmRestored
  | _ => True

def At (K : View → Memory → Prop) (h : History) (m : Memory) : Prop :=
  Final h = false ∧ rely card h ∧ K (view card h) m

def Does {A : Type} (B K : View → Memory → Prop) (x : Recovery A) (Q : A → View → Memory → Prop) : Prop :=
  Triple (rely card) (ok continuity card) (At card fun w m => B w m ∧ K w m) x (fun a => At card fun w m => B w m ∧ Q a w m)
    fun e h m => e = .raised → At card B h m

end Definitions

section Rules

variable {continuity : String → Bool} {card : Card} {A C : Type} {B K : View → Memory → Prop} {Q : A → View → Memory → Prop}
  {R : C → View → Memory → Prop} {x : Recovery A} {f : A → Recovery C} {q : Ask} {r : Answer} {h : History}

lemma view_quiet (hq : Quiet card q) : view card ((q, r) :: h) = view card h := by
  cases q with
  | service timeout => exact hq.elim
  | put body => exact hq.elim
  | revision name timeout => cases r <;> simp [view, show name ≠ card.replacement from hq]
  | _ => rfl

lemma final_quiet (hq : Quiet card q) : Final ((q, r) :: h) = false := by
  cases q with
  | record status minima =>
    cases status with
    | succeeded => exact absurd rfl hq.1
    | failedWarmRestored => exact absurd rfl hq.2
    | _ => rfl
  | _ => rfl

lemma allowed_quiet (hq : Quiet card q) (w : View) : Allowed continuity card w q := by
  cases q with
  | put body => exact hq.elim
  | record status minima =>
    cases status with
    | succeeded => exact absurd rfl hq.1
    | failedWarmRestored => exact absurd rfl hq.2
    | _ => trivial
  | _ => trivial

lemma at_quiet {m : Memory} (hq : Quiet card q) (ha : At card K h m) : At card K ((q, r) :: h) m := by
  refine ⟨final_quiet hq, ?_, ?_⟩
  · rw [rely, view_quiet hq]
    exact ha.2.1
  · rw [view_quiet hq]
    exact ha.2.2

lemma Does.weaken {K' : View → Memory → Prop} {Q' : A → View → Memory → Prop} (hx : Does continuity card B K x Q)
    (hk : ∀ w m, B w m → K' w m → K w m) (hq : ∀ a w m, B w m → Q a w m → Q' a w m) : Does continuity card B K' x Q' :=
  hx.mono (fun _ _ ha => ⟨ha.1, ha.2.1, ha.2.2.1, hk _ _ ha.2.2.1 ha.2.2.2⟩)
    (fun _ _ _ ha => ⟨ha.1, ha.2.1, ha.2.2.1, hq _ _ _ ha.2.2.1 ha.2.2.2⟩) fun _ _ _ he => he

lemma does_pure {a : A} (hq : ∀ w m, B w m → K w m → Q a w m) : Does continuity card B K (pure a) Q :=
  triple_pure fun _ _ ha => ⟨ha.1, ha.2.1, ha.2.2.1, hq _ _ ha.2.2.1 ha.2.2.2⟩

lemma does_raise : Does continuity card B K (throw .raised) Q :=
  triple_throw fun _ _ ha _ => ⟨ha.1, ha.2.1, ha.2.2.1⟩

lemma does_spent : Does continuity card B K (throw .spent) Q :=
  triple_throw fun _ _ _ he => nomatch he

lemma does_bind (hx : Does continuity card B K x Q) (hf : ∀ a, Does continuity card B (Q a) (f a) R) :
    Does continuity card B K (x >>= f) R :=
  triple_bind hx hf

lemma does_imp {p : Prop} (hx : p → Does continuity card B K x Q) : Does continuity card B (fun w m => K w m ∧ p) x Q :=
  fun h m ha => hx ha.2.2.2.2 h m ⟨ha.1, ha.2.1, ha.2.2.1, ha.2.2.2.1⟩

lemma does_check {test : Bool} : Does continuity card B K (require test) fun _ w m => K w m ∧ test = true := by
  cases test with
  | false => exact does_raise
  | true => exact does_pure fun w m _ hk => ⟨hk, rfl⟩

lemma does_fact {p : Prop} (hp : ∀ w m, B w m → K w m → p) (hx : p → Does continuity card B K x Q) : Does continuity card B K x Q :=
  fun h m ha => hx (hp _ _ ha.2.2.1 ha.2.2.2) h m ha

lemma does_exists {I : Type} {K : I → View → Memory → Prop} (hx : ∀ i, Does continuity card B (K i) x Q) :
    Does continuity card B (fun w m => ∃ i, K i w m) x Q := by
  rintro h m ⟨hf, hr, hb, i, hk⟩
  exact hx i h m ⟨hf, hr, hb, hk⟩

lemma does_require {test : Bool} {f : Unit → Recovery C} (hf : test = true → Does continuity card B K (f ()) R) :
    Does continuity card B K (require test >>= f) R :=
  does_bind does_check fun _ => does_imp hf

lemma does_demand {o : Option A} (hf : ∀ a, o = some a → Does continuity card B K (f a) R) :
    Does continuity card B K (demand o >>= f) R := by
  refine does_bind (Q := fun a w m => K w m ∧ o = some a) ?_ fun a => does_imp (hf a)
  cases o with
  | none => exact does_raise
  | some a => exact does_pure fun w m _ hk => ⟨hk, rfl⟩

lemma does_get {g : Memory → Recovery C} (hg : ∀ m₀, Does continuity card B (fun w m => K w m ∧ m = m₀) (g m₀) R) :
    Does continuity card B K (get >>= g) R :=
  triple_get fun m₀ h m ha => hg m₀ h m ⟨ha.1.1, ha.1.2.1, ha.1.2.2.1, ha.1.2.2.2, ha.2⟩

lemma does_modify {g : Memory → Memory} {Q : Unit → View → Memory → Prop}
    (hq : ∀ w m, Ascending w.readings → B w m → K w m → B w (g m) ∧ Q () w (g m)) : Does continuity card B K (modify g) Q :=
  triple_modify fun _ _ ha => ⟨ha.1, ha.2.1, hq _ _ ha.2.1 ha.2.2.1 ha.2.2.2⟩

lemma does_ask (hq : Quiet card q) : Does continuity card B K (ask q) fun _ => K :=
  triple_ask fun _ _ ha => ⟨⟨ha.1, allowed_quiet hq _⟩, fun _ _ => at_quiet hq ha⟩

lemma does_finish (hq : Quiet card q) : Does continuity card B K (finish q) fun _ => K := by
  refine does_bind (does_ask hq) fun r => ?_
  cases r with
  | raised => exact does_raise
  | _ => exact does_pure fun _ _ _ hk => hk

lemma does_readTime (hq : Quiet card q) : Does continuity card B K (readTime q) fun _ => K := by
  refine does_bind (does_ask hq) fun r => ?_
  cases r with
  | time value => exact does_pure fun _ _ _ hk => hk
  | _ => exact does_raise

lemma does_readService {timeout : ℚ} {Q : Service → View → Memory → Prop}
    (hq : ∀ w m v, Ascending (v :: w.readings) → B w m → K w m →
      B { w with readings := v :: w.readings } m ∧ Q v { w with readings := v :: w.readings } m) :
    Does continuity card B K (readService timeout) Q := by
  refine fun h m ha => holds_bind.mpr (holds_ask.mpr ⟨⟨ha.1, trivial⟩, fun r hr => ?_⟩)
  cases r with
  | service v =>
    exact ⟨rfl, hr, hq (view card h) m v hr ha.2.2.1 ha.2.2.2⟩
  | _ => exact fun _ => ⟨rfl, ha.2.1, ha.2.2.1⟩

lemma does_readReplacement {timeout : ℚ} {Q : Revision → View → Memory → Prop}
    (hq : ∀ w m r, B w m → K w m → B { w with seen := r :: w.seen } m ∧ Q r { w with seen := r :: w.seen } m) :
    Does continuity card B K (readRevision card.replacement timeout) Q := by
  refine fun h m ha => holds_bind.mpr (holds_ask.mpr ⟨⟨ha.1, trivial⟩, fun r hr => ?_⟩)
  cases r with
  | revision r =>
    have hv : view card ((.revision card.replacement timeout, .revision r) :: h) =
        { view card h with seen := r :: (view card h).seen } := if_pos rfl
    obtain ⟨hb, hq⟩ := hq (view card h) m r ha.2.2.1 ha.2.2.2
    exact ⟨rfl, hr, hv ▸ hb, hv ▸ hq⟩
  | _ => exact fun _ => ⟨rfl, ha.2.1, ha.2.2.1⟩

lemma does_put {current : Service} {spec : Spec} {Q : View → Memory → Prop}
    (hq : ∀ w m, Ascending w.readings → B w m → K w m → Allowed continuity card w (.put (current.body spec)) ∧
      B { w with sent := current.body spec :: w.sent } { m with pending := some (current, spec) } ∧
      Q { w with sent := current.body spec :: w.sent } { m with pending := some (current, spec) }) :
    Does continuity card B K (put current spec) fun _ => Q := by
  refine fun h m ha => holds_bind.mpr (holds_modify.mpr ?_)
  obtain ⟨hok, hb, hq⟩ := hq (view card h) m ha.2.1 ha.2.2.1 ha.2.2.2
  refine holds_bind.mpr (holds_ask.mpr ⟨⟨ha.1, hok⟩, fun r hr => ?_⟩)
  cases r with
  | raised => exact fun _ => ⟨rfl, hr, hb⟩
  | _ => exact ⟨rfl, hr, hb, hq⟩

end Rules

section Parts

variable {continuity : String → Bool} {card : Card} {B K : View → Memory → Prop} {deadline timeout : ℚ}

lemma valid_does : Does continuity card B K (valid card) fun _ => K :=
  does_bind (does_readTime trivial) fun _ => does_check.weaken (fun _ _ _ hk => hk) fun _ _ _ _ hk => hk.1

lemma before_does : Does continuity card B K (before deadline) fun _ => K :=
  does_bind (does_readTime trivial) fun _ => does_check.weaken (fun _ _ _ hk => hk) fun _ _ _ _ hk => hk.1

lemma timeLeft_does : Does continuity card B K (timeLeft deadline) fun _ => K :=
  does_bind (does_readTime trivial) fun _ => does_pure fun _ _ _ hk => hk

lemma requireHealthy_does {value : Revision} : Does continuity card B K (requireHealthy continuity card value) fun _ w m =>
    K w m ∧ healthy continuity card.sourceCommit value = .healthy :=
  does_check.weaken (fun _ _ _ hk => hk) fun _ _ _ _ hk => ⟨hk.1, of_decide_eq_true hk.2⟩

lemma record_does {status : Status} (hs : status ≠ .succeeded ∧ status ≠ .failedWarmRestored) :
    Does continuity card B K (record status) fun _ => K := by
  refine does_get fun m₀ => (does_finish ?_).weaken (fun _ _ _ hk => hk) fun _ _ _ _ hk => hk.1
  exact hs

section Warm

variable (hwarm : card.warm.name ≠ card.replacement)

include hwarm

lemma readWarm_does : Does continuity card B K (readRevision card.warm.name timeout) fun _ => K := by
  refine does_bind (does_ask hwarm) fun r => ?_
  cases r with
  | revision value => exact does_pure fun _ _ _ hk => hk
  | _ => exact does_raise

lemma checkWarm_does {requireHealth : Bool} : Does continuity card B K (checkWarm continuity card requireHealth) fun _ => K := by
  refine does_bind (readWarm_does hwarm) fun value => does_require fun _ => does_require fun _ => does_require fun _ => ?_
  cases requireHealth with
  | false => exact does_pure fun _ _ _ hk => hk
  | true => exact requireHealthy_does.weaken (fun _ _ _ hk => hk) fun _ _ _ _ hk => hk.1

lemma minimum_does (hk : ∀ w m minima, B w m → K w m → B w { m with minima } ∧ K w { m with minima }) :
    Does continuity card B K (minimum card) fun _ => K := by
  refine does_bind (Q := fun _ => K) (does_bind (does_ask trivial) fun r => ?_) fun value =>
    does_require fun _ => does_require fun _ => does_bind (readWarm_does hwarm) fun warm => does_require fun _ => ?_
  · cases r with
    | minimum value => exact does_pure fun _ _ _ hk => hk
    | _ => exact does_raise
  · exact does_modify fun w m _ hb hkm => hk w m _ hb hkm

end Warm

def Steady (distribution : List (String × ℤ)) (v : Service) (w : View) (m : Memory) : Prop :=
  w.readings.head? = some v ∧ v.uid = card.snapshot.uid ∧ v.active = some (sorted distribution) ∧
    ∃ e, m.expected = some e ∧ v.spec = e.spec ∧ v.sameMeta e.toContent ∧ v.generation = e.generation

lemma stable_does {distribution : List (String × ℤ)}
    (hread : ∀ w m v, B w m → K w m → B { w with readings := v :: w.readings } m ∧ K { w with readings := v :: w.readings } m) :
    Does continuity card B K (stable card distribution timeout) fun v w m => K w m ∧ @Steady card distribution v w m := by
  refine does_bind (Q := fun v w m => K w m ∧ w.readings.head? = some v) ?_ fun v => does_get fun m₀ => ?_
  · exact does_readService fun w m v _ hb hk => ⟨(hread w m v hb hk).1, (hread w m v hb hk).2, rfl⟩
  · refine does_demand fun e he => does_require fun h₁ => does_require fun h₂ => does_require fun _ => does_pure ?_
    simp only [Bool.decide_and, Bool.and_eq_true, decide_eq_true_eq] at h₁ h₂
    rintro w m - ⟨⟨hk, hv⟩, rfl⟩
    exact ⟨hk, hv, h₁.1, h₁.2.2, e, he, h₁.2.1, h₂⟩

lemma checkReplacement_does (hseen : ∀ w m r, B w m → K w m → B { w with seen := r :: w.seen } m) :
    Does continuity card B K (checkReplacement card timeout) fun r w m => ∃ w₀, w = { w₀ with seen := r :: w₀.seen } ∧ K w₀ m ∧
      Retained card r ∧ ∀ r', m.replacement = some r' → r.fingerprint = r'.fingerprint := by
  refine does_bind (Q := fun r w m => ∃ w₀, w = { w₀ with seen := r :: w₀.seen } ∧ K w₀ m) ?_ fun r => does_get fun m₀ => ?_
  · exact does_readReplacement fun w m r hb hk => ⟨hseen w m r hb hk, w, rfl, hk⟩
  · refine does_demand fun e _ => does_require fun hfits => does_require fun hsame => does_pure ?_
    simp only [Card.fits, decide_eq_true_eq] at hfits
    rintro w m - ⟨⟨w₀, rfl, hk⟩, rfl⟩
    refine ⟨w₀, rfl, hk, ⟨hfits.1, hfits.2.1, hfits.2.2.2.2.2.1⟩, fun r' hr' => ?_⟩
    rw [hr'] at hsame
    exact of_decide_eq_true hsame

structure Accepted (card : Card) (e : Service) (spec : Spec) (distribution : List (String × ℤ)) (fenceVersion : Option ℕ) (v : Service) :
    Prop where
  uid : v.uid = card.snapshot.uid
  spec : v.spec = spec
  generation : v.generation = e.generation + 1 ∨ fenceVersion.isSome ∧ v.generation = e.generation
  sameMeta : v.sameMeta e.toContent
  active : v.active = some (sorted distribution)
  fence : fenceVersion ≠ some v.version

lemma settleLoop_does {e : Service} {spec : Spec} {distribution : List (String × ℤ)} {fenceVersion : Option ℕ}
    {Q : View → Memory → Prop}
    (hread : ∀ w m v, B w m → K w m → B { w with readings := v :: w.readings } m ∧ K { w with readings := v :: w.readings } m)
    (hexpected : ∀ w m, K w m → m.expected = some e)
    (hdone : ∀ w m v, Ascending w.readings → w.readings.head? = some v → Accepted card e spec distribution fenceVersion v →
      B w m → K w m → B w { m with expected := some v } ∧
        B w { m with expected := some v, pending := none } ∧ Q w { m with expected := some v, pending := none }) (turns : ℕ) :
    Does continuity card B K (settleLoop card spec distribution fenceVersion deadline turns) fun _ => Q := by
  induction turns with
  | zero => exact does_spent
  | succ turns ih =>
    refine does_bind (does_readTime trivial) fun now => does_require fun _ => ?_
    refine does_bind (Q := fun v w m => K w m ∧ w.readings.head? = some v) ?_ fun v => ?_
    · exact does_readService fun w m v _ hb hk => ⟨(hread w m v hb hk).1, (hread w m v hb hk).2, rfl⟩
    refine does_bind before_does fun _ => does_get fun m₀ => does_demand fun e' he' => ?_
    refine does_require fun h₁ => does_require fun h₂ => does_require fun h₃ => does_demand fun traffic htraffic => ?_
    split
    · rename_i hsettled
      refine does_bind (Q := fun _ w m => ∃ m₁, m = { m₁ with expected := some v } ∧ B w m₁ ∧ K w m₁ ∧ w.readings.head? = some v ∧
        Accepted card e spec distribution fenceVersion v) (does_modify ?_) fun _ => does_bind (does_finish trivial) fun _ => does_modify ?_
      · rintro w m hasc hb ⟨⟨hk, hv⟩, rfl⟩
        obtain rfl : e' = e := Option.some.inj (he'.symm.trans (hexpected w m hk))
        have haccepted : Accepted card e' spec distribution fenceVersion v :=
          ⟨(of_decide_eq_true h₁).1, (of_decide_eq_true h₁).2, by simpa using h₂, h₃, by rw [htraffic, hsettled.1], hsettled.2.2⟩
        exact ⟨(hdone w m v hasc hv haccepted hb hk).1, m, rfl, hb, hk, hv, haccepted⟩
      · rintro w m hasc - ⟨m₁, rfl, hb, hk, hv, haccepted⟩
        exact (hdone w m₁ v hasc hv haccepted hb hk).2
    · refine does_bind before_does fun _ => does_bind (does_finish trivial) fun _ => ?_
      exact ih.weaken (fun _ _ _ hk => hk.1.1) fun _ _ _ _ hq => hq

end Parts

end IbkrPlatform.WarmRecovery
