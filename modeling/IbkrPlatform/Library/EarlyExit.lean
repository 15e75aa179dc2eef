import Mathlib.Data.List.Basic

/-! Loops over a list of items that leave at the first exit, with the rules their proofs use. -/

namespace IbkrPlatform.Library.EarlyExit

variable {σ τ α ε : Type}

def loop (step : σ → α → σ × Option ε) : σ → List α → σ × Option ε
  | s, [] => (s, none)
  | s, x :: xs =>
    match (step s x).2 with
    | none => loop step (step s x).1 xs
    | some e => ((step s x).1, some e)

variable {step : σ → α → σ × Option ε}

@[simp] lemma loop_nil (s : σ) : loop step s [] = (s, none) := rfl

lemma loop_continue {s : σ} {x : α} {xs : List α} (h : (step s x).2 = none) :
    loop step s (x :: xs) = loop step (step s x).1 xs := by
  simp only [loop, h]

lemma loop_exit {s : σ} {x : α} {xs : List α} {e : ε} (h : (step s x).2 = some e) :
    loop step s (x :: xs) = ((step s x).1, some e) := by
  simp only [loop, h]

lemma loop_invariant {I : σ → Prop} {xs : List α}
    (hstep : ∀ s, ∀ x ∈ xs, I s → I (step s x).1) {s : σ} (hs : I s) : I (loop step s xs).1 := by
  induction xs generalizing s with
  | nil => exact hs
  | cons x xs ih =>
    have hx := hstep s x List.mem_cons_self hs
    cases he : (step s x).2 with
    | none =>
      rw [loop_continue he]
      exact ih (fun s y hy => hstep s y (List.mem_cons_of_mem x hy)) hx
    | some e =>
      rw [loop_exit he]
      exact hx

def Along (P : σ → α → Prop) (step : σ → α → σ × Option ε) : σ → List α → Prop
  | _, [] => True
  | s, x :: xs => P s x ∧ ((step s x).2 = none → Along P step (step s x).1 xs)

instance decidableAlong {P : σ → α → Prop} [∀ s x, Decidable (P s x)] : ∀ s xs, Decidable (Along P step s xs)
  | _, [] => isTrue trivial
  | s, x :: xs =>
    have := @decidableAlong P _ (step s x).1 xs
    inferInstanceAs (Decidable (P s x ∧ ((step s x).2 = none → Along P step (step s x).1 xs)))

lemma Along.mono {P Q : σ → α → Prop} {s : σ} {xs : List α} (h : Along P step s xs) (hPQ : ∀ s x, P s x → Q s x) : Along Q step s xs := by
  induction xs generalizing s with
  | nil => trivial
  | cons x xs ih => exact ⟨hPQ s x h.1, fun hnone => ih (h.2 hnone)⟩

lemma along_of_forall {P : σ → α → Prop} {xs : List α} (h : ∀ s, ∀ x ∈ xs, P s x) {s : σ} : Along P step s xs := by
  induction xs generalizing s with
  | nil => trivial
  | cons x xs ih => exact ⟨h s x List.mem_cons_self, fun _ => ih fun s y hy => h s y (List.mem_cons_of_mem x hy)⟩

lemma loop_rule {Q : Option ε → σ → Prop} {P : σ → α → Prop} {xs : List α}
    (hstep : ∀ s, ∀ x ∈ xs, Q none s → P s x → Q (step s x).2 (step s x).1) {s : σ}
    (hs : Q none s) (hP : Along P step s xs) : Q (loop step s xs).2 (loop step s xs).1 := by
  induction xs generalizing s with
  | nil => exact hs
  | cons x xs ih =>
    have hx := hstep s x List.mem_cons_self hs hP.1
    cases he : (step s x).2 with
    | none =>
      rw [loop_continue he]
      exact ih (fun s y hy => hstep s y (List.mem_cons_of_mem x hy)) (he ▸ hx) (hP.2 he)
    | some e =>
      rw [loop_exit he]
      exact he ▸ hx

lemma loop_avoids_iff {e : ε} {s : σ} {xs : List α} :
    (loop step s xs).2 ≠ some e ↔ Along (fun s x => (step s x).2 ≠ some e) step s xs := by
  induction xs generalizing s with
  | nil => simp [Along]
  | cons x xs ih =>
    cases he : (step s x).2 with
    | none => rw [loop_continue he, ih]; simp [Along, he]
    | some e' => rw [loop_exit he]; simp [Along, he]

lemma along_trace {β : Type} {trace : σ → List β} {Q R : β → Prop}
    (hstep : ∀ s x, trace (step s x).1 = trace s ∨ ∃ b, trace (step s x).1 = trace s ++ [b] ∧ R b) (s : σ) (xs : List α) :
    ∃ new, trace (loop step s xs).1 = trace s ++ new ∧ (∀ b ∈ new, R b) ∧
      (Along (fun s x => ∀ b, trace (step s x).1 = trace s ++ [b] → Q b) step s xs ↔ ∀ b ∈ new, Q b) := by
  induction xs generalizing s with
  | nil => exact ⟨[], by simp [Along]⟩
  | cons x xs ih =>
    obtain ⟨first, hfirst, hR, hQ⟩ : ∃ first, trace (step s x).1 = trace s ++ first ∧ (∀ b ∈ first, R b) ∧
        ((∀ b, trace (step s x).1 = trace s ++ [b] → Q b) ↔ ∀ b ∈ first, Q b) := by
      rcases hstep s x with h | ⟨b, h, hb⟩
      · exact ⟨[], by simp [h]⟩
      · exact ⟨[b], by simp [h, hb]⟩
    cases he : (step s x).2 with
    | some e =>
      rw [loop_exit he]
      exact ⟨first, hfirst, hR, by simp [Along, he, hQ]⟩
    | none =>
      rw [loop_continue he]
      obtain ⟨rest, hrest, hR', hQ'⟩ := ih (step s x).1
      refine ⟨first ++ rest, by rw [hrest, hfirst, List.append_assoc], ?_, ?_⟩
      · intro b hb
        exact (List.mem_append.mp hb).elim (hR b) (hR' b)
      · simp only [Along, he, forall_const, hQ, hQ', List.mem_append, or_imp, forall_and]

lemma loop_simulation_along {R : σ → τ → Prop} {P : σ → α → Prop} {other : τ → α → τ × Option ε} {xs : List α}
    (hstep : ∀ s t, ∀ x ∈ xs, R s t → P s x → R (step s x).1 (other t x).1 ∧ (step s x).2 = (other t x).2)
    {s : σ} {t : τ} (h : R s t) (hP : Along P step s xs) :
    R (loop step s xs).1 (loop other t xs).1 ∧ (loop step s xs).2 = (loop other t xs).2 := by
  induction xs generalizing s t with
  | nil => exact ⟨h, rfl⟩
  | cons x xs ih =>
    obtain ⟨hr, he⟩ := hstep s t x List.mem_cons_self h hP.1
    cases hx : (step s x).2 with
    | none =>
      rw [loop_continue hx, loop_continue (he ▸ hx)]
      exact ih (fun s t y hy => hstep s t y (List.mem_cons_of_mem x hy)) hr (hP.2 hx)
    | some e =>
      rw [loop_exit hx, loop_exit (he ▸ hx)]
      exact ⟨hr, rfl⟩

lemma loop_simulation {R : σ → τ → Prop} {other : τ → α → τ × Option ε} {xs : List α}
    (hstep : ∀ s t, ∀ x ∈ xs, R s t →
      R (step s x).1 (other t x).1 ∧ (step s x).2 = (other t x).2)
    {s : σ} {t : τ} (h : R s t) :
    R (loop step s xs).1 (loop other t xs).1 ∧ (loop step s xs).2 = (loop other t xs).2 :=
  loop_simulation_along (P := fun _ _ => True) (fun s t x hx hr _ => hstep s t x hx hr) h
    (along_of_forall fun _ _ _ => trivial)

section Reaches

variable {A : Type} {ok bad : A → Prop} {x : A} {xs : List A}

def Reaches (ok bad : A → Prop) (xs : List A) : Prop :=
  ∃ pre x post, xs = pre ++ x :: post ∧ (∀ y ∈ pre, ok y) ∧ bad x

lemma not_reaches_nil : ¬ Reaches ok bad [] := by
  rintro ⟨pre, x, post, heq, -⟩
  cases pre <;> cases heq

lemma reaches_cons : Reaches ok bad (x :: xs) ↔ bad x ∨ ok x ∧ Reaches ok bad xs := by
  constructor
  · rintro ⟨pre, y, post, heq, hpre, hy⟩
    cases pre with
    | nil =>
      obtain ⟨rfl, -⟩ := List.cons.inj heq
      exact .inl hy
    | cons z pre =>
      obtain ⟨rfl, rfl⟩ := List.cons.inj heq
      exact .inr ⟨hpre _ List.mem_cons_self, pre, y, post, rfl, fun w hw => hpre w (List.mem_cons_of_mem _ hw), hy⟩
  · rintro (h | ⟨hx, pre, y, post, rfl, hpre, hy⟩)
    · exact ⟨[], x, xs, rfl, fun _ h => (nomatch h), h⟩
    · exact ⟨x :: pre, y, post, rfl, fun z hz => (List.mem_cons.mp hz).elim (fun h => h ▸ hx) (hpre z), hy⟩

end Reaches

section Bind

variable {E A B : Type} {x : Except E A} {f : A → Except E B} {b : B} {e : E}

lemma ok_of_bind (h : x.bind f = .ok b) : ∃ a, x = .ok a ∧ f a = .ok b := by
  cases x with
  | error e => cases h
  | ok a => exact ⟨a, rfl, h⟩

lemma error_of_bind (h : x.bind f = .error e) : x = .error e ∨ ∃ a, x = .ok a ∧ f a = .error e := by
  cases x with
  | error e' => exact .inl (by rw [Except.error.inj h])
  | ok a => exact .inr ⟨a, rfl, h⟩

end Bind

section Sift

variable {A B E : Type} {f : A → Except E (Option B)} {xs : List A} {bs : List B}

def sift (f : A → Except E (Option B)) : List A → Except E (List B)
  | [] => .ok []
  | x :: xs => (f x).bind fun b => (sift f xs).map fun bs => b.toList ++ bs

lemma sift_eq_ok_iff : sift f xs = .ok bs ↔ (∀ x ∈ xs, ∃ b, f x = .ok b) ∧ bs = xs.filterMap fun x => (f x).toOption.join := by
  induction xs generalizing bs with
  | nil => exact ⟨fun h => ⟨fun x hx => (nomatch hx), (Except.ok.inj h).symm⟩, fun h => congrArg _ h.2.symm⟩
  | cons x xs ih =>
    rw [List.forall_mem_cons]
    cases hx : f x with
    | error e =>
      simp only [sift, hx]
      exact ⟨fun h => (nomatch h), fun h => (nomatch h.1.1.choose_spec)⟩
    | ok b =>
      have hcons : ((x :: xs).filterMap fun x => (f x).toOption.join) = b.toList ++ xs.filterMap fun x => (f x).toOption.join := by
        rw [List.filterMap_cons, hx]
        cases b <;> rfl
      rw [hcons, sift, hx]
      change (sift f xs).map _ = _ ↔ _
      constructor
      · intro h
        cases hs : sift f xs with
        | error e =>
          rw [hs] at h
          cases h
        | ok cs =>
          rw [hs] at h
          obtain ⟨hall, rfl⟩ := ih.mp hs
          exact ⟨⟨⟨b, rfl⟩, hall⟩, (Except.ok.inj h).symm⟩
      · rintro ⟨⟨-, hall⟩, rfl⟩
        rw [ih.mpr ⟨hall, rfl⟩]
        rfl

lemma sift_eq_error_iff : sift f xs = .error e ↔
    ∃ before x after, xs = before ++ x :: after ∧ (∀ y ∈ before, ∃ b, f y = .ok b) ∧ f x = .error e := by
  induction xs with
  | nil => exact ⟨fun h => (nomatch h), fun ⟨before, x, after, h, _⟩ => by simp at h⟩
  | cons x xs ih =>
    rw [sift]
    constructor
    · intro h
      rcases error_of_bind h with hx | ⟨b, hx, h⟩
      · exact ⟨[], x, xs, rfl, fun y hy => (nomatch hy), hx⟩
      · have hs : sift f xs = .error e := by
          cases hs : sift f xs with
          | error e' =>
            rw [hs] at h
            exact congrArg _ (Except.error.inj h)
          | ok bs =>
            rw [hs] at h
            cases h
        obtain ⟨before, x', after, rfl, hbefore, hx'⟩ := ih.mp hs
        exact ⟨x :: before, x', after, rfl, List.forall_mem_cons.mpr ⟨⟨b, hx⟩, hbefore⟩, hx'⟩
    · rintro ⟨before, x', after, heq, hbefore, hx'⟩
      cases before with
      | nil =>
        obtain ⟨rfl, rfl⟩ := List.cons.inj heq
        rw [hx']
        rfl
      | cons y before =>
        obtain ⟨rfl, rfl⟩ := List.cons.inj heq
        obtain ⟨⟨b, hb⟩, hbefore⟩ := List.forall_mem_cons.mp hbefore
        rw [hb]
        change (sift f _).map _ = _
        rw [ih.mpr ⟨before, x', after, rfl, hbefore, hx'⟩]
        rfl

lemma sift_congr {g : A → Except E (Option B)} (h : ∀ x ∈ xs, f x = g x) : sift f xs = sift g xs := by
  induction xs with
  | nil => rfl
  | cons x xs ih =>
    rw [List.forall_mem_cons] at h
    rw [sift, sift, h.1, ih h.2]

lemma sift_map {C : Type} {g : C → Except E (Option B)} {k : A → C} : sift g (xs.map k) = sift (fun x => g (k x)) xs := by
  induction xs with
  | nil => rfl
  | cons x xs ih => rw [List.map_cons, sift, sift, ih]

variable {ys : List A}

lemma sift_perm (hperm : xs.Perm ys) (h : sift f xs = .ok bs) : ∃ cs, sift f ys = .ok cs ∧ bs.Perm cs := by
  obtain ⟨hall, rfl⟩ := sift_eq_ok_iff.mp h
  exact ⟨_, sift_eq_ok_iff.mpr ⟨fun y hy => hall y (hperm.mem_iff.mpr hy), rfl⟩, hperm.filterMap _⟩

lemma sift_filter_perm {p : A → Bool} (hxs : ∀ x ∈ xs, p x = false → ∀ b, f x = .ok b → b = none)
    (hys : ∀ y ∈ ys, p y = false → f y = .ok none) (hperm : (xs.filter p).Perm (ys.filter p)) (h : sift f xs = .ok bs) :
    ∃ cs, sift f ys = .ok cs ∧ bs.Perm cs := by
  obtain ⟨hall, rfl⟩ := sift_eq_ok_iff.mp h
  have hkept : ∀ zs : List A, (∀ z ∈ zs, p z = false → (f z).toOption.join = none) →
      zs.filterMap (fun z => (f z).toOption.join) = (zs.filter p).filterMap fun z => (f z).toOption.join := by
    intro zs hzs
    induction zs with
    | nil => rfl
    | cons z zs ih =>
      rw [List.forall_mem_cons] at hzs
      rw [List.filter_cons, List.filterMap_cons]
      cases hz : p z with
      | false =>
        rw [hzs.1 hz, if_neg Bool.false_ne_true]
        exact ih hzs.2
      | true =>
        rw [if_pos rfl, List.filterMap_cons, ih hzs.2]
  refine ⟨_, sift_eq_ok_iff.mpr ⟨fun y hy => ?_, rfl⟩, ?_⟩
  · cases hy' : p y with
    | false => exact ⟨none, hys y hy hy'⟩
    | true =>
      have hmem : y ∈ xs.filter p := hperm.mem_iff.mpr (List.mem_filter.mpr ⟨hy, hy'⟩)
      exact hall y (List.mem_filter.mp hmem).1
  · rw [hkept xs fun x hx hp => ?_, hkept ys fun y hy hp => ?_]
    · exact hperm.filterMap _
    · rw [hys y hy hp]
      rfl
    · obtain ⟨b, hb⟩ := hall x hx
      rw [hb, hxs x hx hp b hb]
      rfl

lemma sift_view {C : Type} {p : A → Bool} {view : A → C} {encode : B → C}
    (hread : ∀ x ∈ xs, ∀ b, f x = .ok b → p x = false ∧ b = none ∨ p x = true ∧ ∃ y, b = some y ∧ view x = encode y)
    (h : sift f xs = .ok bs) : (xs.filter p).map view = bs.map encode := by
  induction xs generalizing bs with
  | nil =>
    rw [← Except.ok.inj h]
    rfl
  | cons x xs ih =>
    rw [List.forall_mem_cons] at hread
    obtain ⟨b, hb, h⟩ := ok_of_bind h
    cases hs : sift f xs with
    | error e =>
      rw [hs] at h
      cases h
    | ok cs =>
      rw [hs] at h
      rw [← Except.ok.inj h]
      obtain ⟨hp, rfl⟩ | ⟨hp, y, rfl, hview⟩ := hread.1 b hb
      · rw [List.filter_cons, hp]
        exact ih hread.2 hs
      · rw [List.filter_cons, hp, if_pos rfl, List.map_cons, hview, ih hread.2 hs]
        rfl

end Sift

end IbkrPlatform.Library.EarlyExit
