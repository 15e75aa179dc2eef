import IbkrPlatform.Library.Transition
import IbkrPlatform.Library.VersionedCell
import IbkrPlatform.Recovery.RecoveryCourse

/-! A recovery among others that write the service, with answers that lie about writes, and writes that come late or more than once. -/

namespace IbkrPlatform.WarmRecovery

open Library Procedure

inductive Actor | attempt | other
deriving DecidableEq

structure State where
  cell : VersionedCell Content Actor
  history : History
  rest : Dialogue Ask Answer (Except Stop Unit × Memory)

inductive Move
  | answer (r : Answer)
  | deliver (b : Body) (c : Content) (gap : ℕ)
  | other (c : Content) (gap : ℕ)

def Body.applies (b : Body) (old new : Content) : Bool :=
  new.uid = old.uid ∧ new.name = b.name ∧ new.namespaceName = b.namespaceName ∧ new.labels = b.labels ∧
    new.keptAnnotations = b.annotations ∧ new.spec = b.spec

def possible (cell : VersionedCell Content Actor) : Ask → Answer → Bool
  | .service _, .service v => cell.value = some v.toContent ∧ cell.generation = v.version
  | _, _ => true

section System

variable (continuity : String → Bool) (card : Card) (turns : ℕ)

def step (s : State) : Move → Option State
  | .answer r =>
    match s.rest with
    | .done _ => none
    | .ask q next => if possible s.cell q r then some ⟨s.cell, (q, r) :: s.history, next r⟩ else none
  | .deliver b c gap =>
    if b ∈ (view card s.history).sent ∧ s.cell.generation = b.version ∧ (s.cell.value.any fun old => b.applies old c) then
      some { s with cell := s.cell.store .attempt c gap }
    else none
  | .other c gap => some { s with cell := s.cell.store .other c gap }

def recoveries : System State Move :=
  .ofStep (fun s => (∀ w ∈ s.cell.log, w.writer = .other) ∧ s.history = [] ∧ s.rest = (execute continuity card turns).start .start)
    (step card)

def Changes (old new : Spec) : Prop :=
  (∃ n, n ≤ 2 ∧ old = stage card n ∧ new = stage card (n + 1)) ∨ ∃ k, 1 ≤ k ∧ k ≤ 3 ∧ old = stage card k ∧ new = stage card 1

def OnCourse (old : Option Content) (w : StoredWrite Content Actor) : Prop :=
  w.writer = .attempt → ∃ c, old = some c ∧ Known card c ∧ Known card w.value ∧ Changes card c.spec w.value.spec

def Showed (cell : VersionedCell Content Actor) (v : Service) : Prop :=
  ∃ seen, cell.Held v.version seen ∧ (cell.rewind seen).value = some v.toContent

def State.effects (s : State) : List (StoredWrite Content Actor) := s.cell.log.filter (·.writer = .attempt)

structure Inv (s : State) : Prop where
  upheld : Dialogue.Upholds (rely card) (ok continuity card) (fun _ _ => True) s.history s.rest
  asked : Dialogue.Asked (ok continuity card) s.history
  ascending : Ascending (view card s.history).readings
  showed : ∀ v ∈ (view card s.history).readings, Showed s.cell v
  course : VersionedCell.Along (OnCourse card) s.cell.log
  applied : ∀ w ∈ s.effects, ∃ b ∈ (view card s.history).sent, w.base = b.version ∧ w.value.spec = b.spec

end System

section Views

variable {continuity : String → Bool} {card : Card} {h : History} {q : Ask} {r : Answer} {b : Body} {v : Service}

lemma view_cons : view card ((q, r) :: h) = view card h ∨
    (∃ timeout v, q = .service timeout ∧ r = .service v ∧
      view card ((q, r) :: h) = { view card h with readings := v :: (view card h).readings }) ∨
    (∃ b, q = .put b ∧ view card ((q, r) :: h) = { view card h with sent := b :: (view card h).sent }) ∨
    ∃ value : Revision, view card ((q, r) :: h) = { view card h with seen := value :: (view card h).seen } := by
  cases q with
  | service timeout =>
    cases r with
    | service v => exact .inr (.inl ⟨timeout, v, rfl, rfl, rfl⟩)
    | _ => exact .inl rfl
  | put b => exact .inr (.inr (.inl ⟨b, rfl, rfl⟩))
  | revision name timeout =>
    cases r with
    | revision value =>
      by_cases hname : name = card.replacement
      · exact .inr (.inr (.inr ⟨value, if_pos hname⟩))
      · exact .inl (if_neg hname)
    | _ => exact .inl rfl
  | _ => exact .inl rfl

lemma sent_follows (ha : Dialogue.Asked (ok continuity card) h) (hb : b ∈ (view card h).sent) :
    ∃ w v, Follows continuity card w v b ∧ v ∈ (view card h).readings := by
  induction h with
  | nil => cases hb
  | cons x h ih =>
    obtain ⟨q, r⟩ := x
    rcases @view_cons card h q r with hv | ⟨timeout, v, rfl, rfl, hv⟩ | ⟨b', rfl, hv⟩ | ⟨r', hv⟩
    · rw [hv] at hb ⊢
      exact ih ha.2 hb
    · rw [hv] at hb ⊢
      obtain ⟨w, v', hf, hv'⟩ := ih ha.2 hb
      exact ⟨w, v', hf, List.mem_cons_of_mem _ hv'⟩
    · rw [hv] at hb ⊢
      rcases List.mem_cons.mp hb with rfl | hb
      · obtain ⟨v, hf⟩ := ha.1.2
        exact ⟨_, v, hf, List.mem_of_mem_head? hf.newest⟩
      · exact ih ha.2 hb
    · rw [hv] at hb ⊢
      exact ih ha.2 hb

lemma sent_course (ha : Dialogue.Asked (ok continuity card) h) : ∃ n, n ≤ 3 ∧
    ((view card h).sent.map (·.spec) = line card n ∨ 1 ≤ n ∧ (view card h).sent.map (·.spec) = stage card 1 :: line card n) := by
  induction h with
  | nil => exact ⟨0, by omega, .inl rfl⟩
  | cons x h ih =>
    obtain ⟨q, r⟩ := x
    rcases @view_cons card h q r with hv | ⟨timeout, v, rfl, rfl, hv⟩ | ⟨b, rfl, hv⟩ | ⟨r', hv⟩
    · rw [hv]
      exact ih ha.2
    · rw [hv]
      exact ih ha.2
    · rw [hv]
      obtain ⟨v, hf⟩ := ha.1.2
      rcases hf.step with ⟨n, hn, hline, -, -, hspec, -⟩ | ⟨n, k, hn, hk, hkn, hline, -, hspec⟩
      · exact ⟨n + 1, by omega, .inl (by simp only [List.map_cons, hline, hspec, line])⟩
      · exact ⟨n, hn, .inr ⟨by omega, by simp only [List.map_cons, hline, hspec]⟩⟩
    · rw [hv]
      exact ih ha.2

lemma line_length (n : ℕ) : (line card n).length = n := by
  induction n with
  | zero => rfl
  | succ n ih => simp [line, ih]

lemma sent_length (ha : Dialogue.Asked (ok continuity card) h) : (view card h).sent.length ≤ 4 := by
  obtain ⟨n, hn, hline⟩ := sent_course ha
  rw [← List.length_map (·.spec)]
  rcases hline with hline | ⟨-, hline⟩
  · rw [hline, line_length]
    omega
  · rw [hline, List.length_cons, line_length]
    omega

lemma final_cases (hf : Final h = true) : ∃ status minima r older, h = (.record status minima, r) :: older ∧
    (status = .succeeded ∨ status = .failedWarmRestored) := by
  cases h with
  | nil => cases hf
  | cons x older =>
    obtain ⟨q, r⟩ := x
    cases q with
    | record status minima =>
      cases status with
      | succeeded => exact ⟨_, minima, r, older, rfl, .inl rfl⟩
      | failedWarmRestored => exact ⟨_, minima, r, older, rfl, .inr rfl⟩
      | _ => cases hf
    | _ => cases hf

lemma final_reached (hf : Final h = true) (ha : Dialogue.Asked (ok continuity card) h) : Settled (view card h) := by
  obtain ⟨status, minima, r, older, rfl, rfl | rfl⟩ := final_cases hf
  · exact ha.1.2.1.1
  · exact ha.1.2.1

end Views

section Runs

variable {continuity : String → Bool} {card : Card} {turns : ℕ} {s t : State} {cell d : VersionedCell Content Actor} {v u : Service}

lemma Showed.extend (h : Showed cell v) (hd : cell.Extends d) : Showed d v := by
  obtain ⟨seen, hheld, hv⟩ := h
  exact ⟨seen, hheld.extend hd, by rw [hd.rewind hheld.1, hv]⟩

lemma Showed.le (h : Showed cell v) : v.version ≤ cell.generation := by
  obtain ⟨seen, hheld, -⟩ := h
  exact hheld.2 ▸ VersionedCell.Extends.generation_le (List.drop_suffix _ _)

lemma Showed.current (h : Showed cell v) (hg : cell.generation = v.version) : cell.value = some v.toContent := by
  obtain ⟨seen, hheld, hv⟩ := h
  rwa [hheld.current hg, VersionedCell.rewind_writes] at hv

lemma showed_read (hv : cell.value = some v.toContent) (hg : cell.generation = v.version) : Showed cell v :=
  ⟨cell.writes, hg ▸ VersionedCell.held_read, by rwa [VersionedCell.rewind_writes]⟩

lemma ascending_read {readings : List Service} (h : Ascending readings) (hs : ∀ u ∈ readings, Showed cell u)
    (hv : cell.value = some v.toContent) (hg : cell.generation = v.version) : Ascending (v :: readings) := by
  refine List.pairwise_cons.mpr ⟨fun u hu => ⟨hg ▸ (hs u hu).le, fun heq => ?_⟩, h⟩
  have hcontent : u.toContent = v.toContent := Option.some.inj (((hs u hu).current (hg.trans heq.symm)).symm.trans hv)
  cases u
  cases v
  simp_all

lemma Inv.answer {q : Ask} {r : Answer} {next : Answer → Dialogue Ask Answer (Except Stop Unit × Memory)} (h : Inv continuity card s)
    (hrest : s.rest = .ask q next) (hr : possible s.cell q r = true) : Inv continuity card ⟨s.cell, (q, r) :: s.history, next r⟩ := by
  have hup := h.upheld
  rw [hrest] at hup
  have hread : Ascending (view card ((q, r) :: s.history)).readings ∧ ∀ v ∈ (view card ((q, r) :: s.history)).readings, Showed s.cell v := by
    rcases @view_cons card s.history q r with hv | ⟨timeout, v, rfl, rfl, hv⟩ | ⟨b, rfl, hv⟩ | ⟨value, hv⟩
    · rw [hv]
      exact ⟨h.ascending, h.showed⟩
    · rw [hv]
      obtain ⟨hvalue, hgeneration⟩ : s.cell.value = some v.toContent ∧ s.cell.generation = v.version := by simpa [possible] using hr
      exact ⟨ascending_read h.ascending h.showed hvalue hgeneration, List.forall_mem_cons.mpr ⟨showed_read hvalue hgeneration, h.showed⟩⟩
    · rw [hv]
      exact ⟨h.ascending, h.showed⟩
    · rw [hv]
      exact ⟨h.ascending, h.showed⟩
  have hsent : ∀ b ∈ (view card s.history).sent, b ∈ (view card ((q, r) :: s.history)).sent := by
    intro b hb
    rcases @view_cons card s.history q r with hv | ⟨timeout, v, rfl, rfl, hv⟩ | ⟨b, rfl, hv⟩ | ⟨value, hv⟩
    · rwa [hv]
    · rwa [hv]
    · rw [hv]
      exact List.mem_cons_of_mem _ hb
    · rwa [hv]
  exact ⟨hup.2 r hread.1, ⟨hup.1, h.asked⟩, hread.1, hread.2, h.course, fun w hw =>
    let ⟨b, hb, heffect⟩ := h.applied w hw
    ⟨b, hsent b hb, heffect⟩⟩

lemma Inv.deliver {b : Body} {c : Content} {gap : ℕ} (h : Inv continuity card s) (hb : b ∈ (view card s.history).sent)
    (hg : s.cell.generation = b.version) (happlies : (s.cell.value.any fun old => b.applies old c) = true) :
    Inv continuity card { s with cell := s.cell.store .attempt c gap } := by
  refine ⟨h.upheld, h.asked, h.ascending, fun v hv => (h.showed v hv).extend VersionedCell.extends_store,
    VersionedCell.along_store h.course fun _ => ?_, fun w hw => ?_⟩
  · obtain ⟨w, v, hf, hv⟩ := sent_follows h.asked hb
    have hversion : b.version = v.version := by rw [hf.body]; rfl
    have hvalue := (h.showed v hv).current (hg.trans hversion)
    rw [hvalue] at happlies ⊢
    simp only [Option.any_some, Body.applies, decide_eq_true_eq] at happlies
    obtain ⟨huid, hname, hspace, hlabels, hannotations, hspec⟩ := happlies
    rw [hf.body] at hname hspace hlabels hannotations
    refine ⟨v.toContent, rfl, hf.known, hf.known.of_sameMeta (huid.trans hf.known.1) ?_, ?_⟩
    · simpa [Content.sameMeta] using ⟨hname, hspace, hlabels, hannotations⟩
    · rw [hspec]
      rcases hf.step with ⟨n, hn, -, -, hold, hnew, -⟩ | ⟨n, k, hn, hk, hkn, -, hold, hnew⟩
      · exact .inl ⟨n, hn, hold, hnew⟩
      · exact .inr ⟨k, hk, hkn.trans hn, hold, hnew⟩
  · rw [State.effects, VersionedCell.store, List.filter_cons] at hw
    rcases List.mem_cons.mp hw with rfl | hw
    · obtain ⟨old, -, hold⟩ := (Option.any_eq_true _ _).mp happlies
      exact ⟨b, hb, hg, (of_decide_eq_true hold).2.2.2.2.2⟩
    · exact h.applied w hw

lemma Inv.other {c : Content} {gap : ℕ} (h : Inv continuity card s) : Inv continuity card { s with cell := s.cell.store .other c gap } :=
  ⟨h.upheld, h.asked, h.ascending, fun v hv => (h.showed v hv).extend VersionedCell.extends_store,
    VersionedCell.along_store h.course (fun hw => nomatch hw), fun w hw => h.applied w (by simpa [State.effects, VersionedCell.store] using hw)⟩

lemma step_keeps {l : Move} (h : Inv continuity card s) (hstep : step card s l = some t) : Inv continuity card t := by
  cases l with
  | answer r =>
    simp only [step] at hstep
    split at hstep
    · exact nomatch hstep
    · rename_i q next hrest
      obtain ⟨hr, hstep⟩ := Option.ite_none_right_eq_some.mp hstep
      exact Option.some.inj hstep ▸ h.answer hrest hr
  | deliver b c gap =>
    obtain ⟨⟨hb, hg, happlies⟩, hstep⟩ := Option.ite_none_right_eq_some.mp hstep
    exact Option.some.inj hstep ▸ h.deliver hb hg happlies
  | other c gap => exact Option.some.inj hstep ▸ h.other

lemma along_others {log : List (StoredWrite Content Actor)} (h : ∀ w ∈ log, w.writer = .other) : VersionedCell.Along (OnCourse card) log := by
  induction log with
  | nil => trivial
  | cons w log ih =>
    rw [List.forall_mem_cons] at h
    exact ⟨fun hw => (nomatch h.1.symm.trans hw), ih h.2⟩

lemma reachable_inv (h : (recoveries continuity card turns).Reachable s) : Inv continuity card s := by
  refine h.invariant (I := fun s => Inv continuity card s) ?_ fun s l t hs hn => step_keeps hs hn
  rintro s ⟨hothers, hhistory, hrest⟩
  have hview : view card s.history = ⟨[], [], []⟩ := by rw [hhistory]; rfl
  refine ⟨?_, ?_, ?_, ?_, along_others hothers, ?_⟩
  · rw [hhistory, hrest]
    exact execute_upholds
  · rw [hhistory]
    trivial
  · rw [hview]
    exact List.Pairwise.nil
  · rw [hview]
    exact fun v hv => (nomatch hv)
  · intro w hw
    obtain ⟨hw, hattempt⟩ := List.mem_filter.mp hw
    exact nomatch (hothers w hw).symm.trans (of_decide_eq_true hattempt)

lemma effects_bases : (s.effects.map (·.base)).Nodup := by
  rw [List.Nodup, List.pairwise_map]
  exact (s.cell.chained.bases.filter _).imp fun hlt => hlt.ne'

lemma Inv.effects_le (h : Inv continuity card s) : s.effects.length ≤ (view card s.history).sent.length := by
  have hsub : s.effects.map (·.base) ⊆ (view card s.history).sent.map (·.version) := by
    intro base hbase
    obtain ⟨w, hw, rfl⟩ := List.mem_map.mp hbase
    obtain ⟨b, hb, heq, -⟩ := h.applied w hw
    exact List.mem_map.mpr ⟨b, hb, heq.symm⟩
  simpa using (List.subperm_of_subset effects_bases hsub).length_le

lemma Inv.still {l : Move} (h : Inv continuity card s) (hf : Final s.history = true) (hstep : step card s l = some t) :
    t.history = s.history ∧ t.effects = s.effects := by
  cases l with
  | answer r =>
    simp only [step] at hstep
    split at hstep
    · exact nomatch hstep
    · rename_i q next hrest
      have hup := h.upheld
      rw [hrest] at hup
      exact absurd hf (by rw [hup.1.1]; exact Bool.false_ne_true)
  | deliver b c gap =>
    obtain ⟨⟨hb, hg, -⟩, -⟩ := Option.ite_none_right_eq_some.mp hstep
    obtain ⟨v, hv, hlt⟩ := final_reached hf h.asked b hb
    have hle := (h.showed v hv).le
    omega
  | other c gap =>
    obtain rfl := Option.some.inj hstep
    exact ⟨rfl, by simp [State.effects, VersionedCell.store]⟩

end Runs

section Fixture

def digest₀ : String := "sha256:" ++ String.ofList (List.replicate 64 'a')

def commit₀ : String := String.ofList (List.replicate 40 'b')

def pod₀ : PodSpec :=
  ⟨[⟨none, "registry.invalid/unit/image@" ++ digest₀, ⟨some "/health", some 8080, false, false⟩, [("RUNTIME_TARGET_JSON", some "{}")], ""⟩], ""⟩

def scale₀ (minimum : String) : Labels := OrderedMap.empty.insert "autoscaling.knative.dev/minScale" minimum

def revision₀ (name minimum : String) : Revision :=
  ⟨name, some "uid", some 1, some (OrderedMap.empty.insert "commit-sha" commit₀), some (scale₀ minimum), "", pod₀, some digest₀, some 1,
    ["Ready", "Active", "ContainerReady", "ContainerHealthy"].map fun kind => ⟨some kind, some "True"⟩⟩

def snapshot₀ : Service :=
  ⟨⟨"unit", "project", "uid", 1, some .empty, none,
    ⟨⟨some "unit-old", some (OrderedMap.empty.insert "commit-sha" commit₀), some (scale₀ "0"), pod₀, ""⟩, [Target.of ("unit-warm", 100)], ""⟩,
    some 1, [⟨some "unit-warm", some 100⟩], some "unit-old", ""⟩, 1⟩

def card₀ : Card :=
  ⟨"project", "region", "unit", "unit-rec-a", "a", "s3-only", true, commit₀, digest₀, 1, "environment", "authority",
    revision₀ "unit-warm" "1", snapshot₀⟩

def applied₀ (b : Body) (old : Content) : Content :=
  { old with
    generation := old.generation + 1
    spec := b.spec
    observedGeneration := some (old.generation + 1)
    traffic := b.spec.traffic.map fun target => ⟨target.revisionName, target.percent⟩
    latestCreated := b.spec.template.name }

def moves₀ (s : State) : List Move :=
  match s.rest with
  | .done _ => []
  | .ask q _ =>
    match q, s.cell.value with
    | .service _, some content => [.answer (.service ⟨content, s.cell.generation⟩)]
    | .revision name _, _ => [.answer (.revision (revision₀ name (if name = "unit-warm" then "1" else "0")))]
    | .minimum, _ => [.answer (.minimum ⟨"projects/project/locations/region/services/unit", "uid", 0, 0⟩)]
    | .absent _, _ => [.answer (.absent true)]
    | .now, _ => [.answer (.time 0)]
    | .clock, _ => [.answer (.time 0)]
    | .put b, some content =>
      if (view card₀ s.history).sent.length = 2 then [.answer .raised] else [.answer .done, .deliver b (applied₀ b content) 0]
    | _, _ => [.answer .done]

def play₀ : ℕ → State → State × List Move
  | 0, s => (s, [])
  | n + 1, s =>
    match System.execute (step card₀) s (moves₀ s) with
    | none => (s, [])
    | some t => ((play₀ n t).1, moves₀ s ++ (play₀ n t).2)

def start₀ : State :=
  ⟨VersionedCell.absent.store .other snapshot₀.toContent 0, [], (execute (fun _ => true) card₀ 5).start .start⟩

lemma play₀_run (n : ℕ) (s : State) : (recoveries (fun _ => true) card₀ 5).Run s (play₀ n s).2 (play₀ n s).1 := by
  induction n generalizing s with
  | zero => exact .nil s
  | succ n ih =>
    rw [play₀]
    split
    · exact .nil s
    · rename_i t ht
      exact (System.run_of_execute ht).trans (ih t)

lemma play₀_reachable (n : ℕ) : (recoveries (fun _ => true) card₀ 5).Reachable (play₀ n start₀).1 := by
  refine ⟨start₀, _, ⟨?_, rfl, rfl⟩, play₀_run n start₀⟩
  intro w hw
  obtain rfl := List.mem_singleton.mp hw
  rfl

lemma played₀ : (view card₀ (play₀ 80 start₀).1.history).sent.length = 4 ∧ (play₀ 80 start₀).1.effects.length = 3 ∧
    Final (play₀ 80 start₀).1.history = true := by
  decide +kernel

end Fixture

section Results

variable {continuity : String → Bool} {card : Card} {turns : ℕ} {s : State}

/-- The writes that take effect follow the course, each on a version of its own. -/
theorem writes_follow_course (h : (recoveries continuity card turns).Reachable s) :
    VersionedCell.Along (OnCourse card) s.cell.log ∧
      (s.effects.map (·.base)).Nodup ∧
      (∀ w ∈ s.effects, ∃ b ∈ (view card s.history).sent, w.base = b.version ∧ w.value.spec = b.spec) ∧
      s.effects.length ≤ (view card s.history).sent.length ∧ (view card s.history).sent.length ≤ 4 ∧
      (∃ n, n ≤ 3 ∧ ((view card s.history).sent.map (·.spec) = line card n ∨
        1 ≤ n ∧ (view card s.history).sent.map (·.spec) = stage card 1 :: line card n)) ∧
      ∀ newer b r older, s.history = newer ++ (.put b, r) :: older → ∃ v, Follows continuity card (view card older) v b := by
  have hs := reachable_inv h
  refine ⟨hs.course, effects_bases, hs.applied, hs.effects_le, sent_length hs.asked, sent_course hs.asked,
    fun newer b r older heq => ?_⟩
  exact (Dialogue.Asked.cut (heq ▸ hs.asked)).2

theorem writes_follow_course₀ : ∃ s : State, (view card₀ s.history).sent.length = 4 ∧ s.effects.length = 3 ∧
    VersionedCell.Along (OnCourse card₀) s.cell.log :=
  ⟨(play₀ 80 start₀).1, played₀.1, played₀.2.1, (writes_follow_course (play₀_reachable 80)).1⟩

/-- When a recovery has reported its success or the restoration, the service was just read so, and no write of it can take effect any more. -/
theorem reported_recoveries_are_over (h : (recoveries continuity card turns).Reachable s) (hf : Final s.history = true) :
    (∃ v, (view card s.history).readings.head? = some v ∧ Showed s.cell v ∧ Known card v.toContent ∧
      ((∃ minima r older, s.history = (.record .succeeded minima, r) :: older ∧ v.spec = stage card 3 ∧ v.active = some card.promoted ∧
          Qualified continuity card (view card s.history).seen) ∨
        ∃ minima r older, s.history = (.record .failedWarmRestored minima, r) :: older ∧ v.spec = stage card 1 ∧
          v.active = some card.warmOnly)) ∧
      ∀ ls t, (recoveries continuity card turns).Run s ls t → t.history = s.history ∧ t.effects = s.effects := by
  have hs := reachable_inv h
  constructor
  · obtain ⟨status, minima, r, older, heq, rfl | rfl⟩ := final_cases hf
    · have ha := hs.asked
      rw [heq] at ha
      obtain ⟨⟨-, v, hhead, hknown, hspec, hactive⟩, hqualified⟩ := ha.1.2
      have hview : view card s.history = view card older := by rw [heq]; rfl
      rw [hview]
      exact ⟨v, hhead, hs.showed v (hview ▸ List.mem_of_mem_head? hhead), hknown, .inl ⟨minima, r, older, heq, hspec, hactive, hqualified⟩⟩
    · have ha := hs.asked
      rw [heq] at ha
      obtain ⟨-, v, hhead, hknown, hspec, hactive⟩ := ha.1.2
      have hview : view card s.history = view card older := by rw [heq]; rfl
      rw [hview]
      exact ⟨v, hhead, hs.showed v (hview ▸ List.mem_of_mem_head? hhead), hknown, .inr ⟨minima, r, older, heq, hspec, hactive⟩⟩
  · intro ls t hrun
    refine (hrun.invariant (I := fun t => Inv continuity card t ∧ t.history = s.history ∧ t.effects = s.effects) ?_ ⟨hs, rfl, rfl⟩).2
    rintro u l t ⟨hu, hhistory, heffects⟩ hn
    obtain ⟨hhistory', heffects'⟩ := hu.still (hhistory ▸ hf) hn
    exact ⟨step_keeps hu hn, hhistory'.trans hhistory, heffects'.trans heffects⟩

theorem reported_recoveries_are_over₀ : ∃ s : State, (view card₀ s.history).sent.length = 4 ∧ Final s.history = true ∧
    ∀ ls t, (recoveries (fun _ => true) card₀ 5).Run s ls t → t.history = s.history ∧ t.effects = s.effects :=
  ⟨(play₀ 80 start₀).1, played₀.1, played₀.2.2, (reported_recoveries_are_over (play₀_reachable 80) played₀.2.2).2⟩

end Results

end IbkrPlatform.WarmRecovery
